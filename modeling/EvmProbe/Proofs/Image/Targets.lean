import EvmProbe.Proofs.Image.Existence

/-!
The jump targets of an image.

The deployed code may be any bytes, and the last of its instructions may reach into the zeros, but
not behind them.  From the runtime on, the marks of an image are therefore the offsets of its
instructions, and every label that an image refers to is the offset of a JUMPDEST.

* `mem_marks_image`: the marks of an image from the runtime on.
* `ValidTargets`, `validTargets_of_patchFrom`: every internal jump target is valid, and a label of a
  copied fragment is that of the same copy.
-/

namespace EvmProbe

open Bytecode Linking

namespace Patcher

section
variable {patcher : Patcher} {base first : Scope} {code image : Bytes} {table : Table}

/-- An image is bytes as many as there are in front of the runtime, of which the last are the code
and 32 zeros, and the instructions behind them. -/
theorem image_eq (hp : patcher.Assembled base)
    (w : Written (patcher.leading code ++ patcher.instrumented first code) table image) :
    ∃ front : Bytes, front.length = Environment.preambleSize ∧
      image = front ++ code ++ (List.replicate padding 0 ++
        (patcher.instrumented first code).flatMap fun inst => (resolved table inst).encoded) := by
  refine ⟨(patcher.fragments.get .preamble).flatMap fun inst => (resolved table inst).encoded,
    ?_, ?_⟩
  · have henc (i : Instruction)
        (hi : i ∈ (patcher.fragments.get .preamble).map (resolved table)) :
        i.encoded?.isSome := by
      obtain ⟨inst, hm, rfl⟩ := List.mem_map.1 hi
      exact w.encodable inst (by simp [leading, hm])
    rw [← List.flatMap_map, Instruction.length_flatMap_encoded henc,
      codeSize_map (size_resolved table), preamble_eq hp]
    rfl
  · rw [w.image_eq, leading]
    have hdata (bytes : Bytes) : (resolved table (.data bytes)).encoded = bytes := by
      rw [resolved_of_reference?_eq_none rfl]
      rfl
    simp [List.flatMap_append, hdata]

/-- **From the runtime on, the marks of an image are the offsets where its instructions stand.** -/
theorem mem_marks_image (hp : patcher.Assembled base)
    (w : Written (patcher.leading code ++ patcher.instrumented first code) table image)
    {position : Nat} {byte : UInt8} (hge : runtimeStart code ≤ position) :
    (position, byte) ∈ marks image ↔ ∃ k inst, position = runtimeStart code + k ∧
      StandsAt (patcher.instrumented first code) k inst ∧ inst.opcode.toByte? = some byte := by
  obtain ⟨front, hf, himg⟩ := image_eq hp w
  obtain ⟨before, hmarks, hlt⟩ := marksFrom_padded (Nat.zero_le 32) 0 (front ++ code)
    ((patcher.instrumented first code).flatMap fun inst => (resolved table inst).encoded)
  have hstart : 0 + (front ++ code).length + 32 = runtimeStart code := by
    simp [hf, runtimeStart, padding]
  rw [hstart] at hmarks hlt
  rw [marks, himg, padding, hmarks, List.mem_append]
  have hnot : (position, byte) ∉ before := fun h => by
    have := hlt _ h
    omega
  rw [or_iff_right hnot, mem_marksFrom_flatMap (resolved_opcode table) fun inst hm =>
    ⟨(Instruction.isRegular_iff.1 (isRegular_instrumented hp inst hm)).1,
      w.encodable inst (by simp [hm]), size_resolved table inst⟩]

end

/-- An image holds at an offset a PUSH3 of a jump destination at or behind the runtime's start. -/
structure PushesTarget (code image : Bytes) (offset target : Nat) : Prop where
  fits : target < capacity 3
  pushed : (image.drop offset).take 4 = 0x62 :: bigEndian 3 target
  behind : runtimeStart code ≤ target
  valid : IsDestination image target

/-- The internal jump targets of an image are valid. -/
structure ValidTargets (patcher : Patcher) (first : Scope) (code image : Bytes) : Prop where
  /-- The runtime starts at a mark. -/
  start : IsMark image (runtimeStart code)
  /-- From there on, the marks are the offsets of the instructions behind the zeros. -/
  marks : ∀ position, runtimeStart code ≤ position → (IsMark image position ↔
    ∃ inst ∈ ((layOutAll 0 (patcher.sections first code)).1.drop 3).flatten,
      inst.offset = some position)
  /-- Every label that is pushed is the offset of the JUMPDEST that declares it. -/
  targets : ∀ inst ∈ (layOutAll 0 (patcher.sections first code)).1.flatten, ∀ label,
    inst.operand = some (.label label) → inst.opcode = .pushN 3 ∧ ∃ offset target,
      inst.offset = some offset ∧ PushesTarget code image offset target ∧
        ∃ decl ∈ (layOutAll 0 (patcher.sections first code)).1.flatten,
          decl.offset = some target ∧ decl.label = some label ∧
            (label.isGlobal = false → decl.scope = inst.scope)
  /-- A label that an expansion refers to within its scope is declared in the same expansion. -/
  copies : ∀ i site, (disassemble first code)[i]? = some site →
    ∀ k inst name, StandsAt (patcher.expansion first code (site, i)) k inst →
      inst.operand = some (.label (.lexical name)) →
      ∃ d decl, StandsAt (patcher.expansion first code (site, i)) d decl ∧
        decl.opcode = .jumpdest ∧ decl.label = some (.lexical name) ∧
        PushesTarget code image (expansionStart patcher first code i + k)
          (expansionStart patcher first code i + d)

section
variable {patcher : Patcher} {base first : Scope} {code image : Bytes} {table : Table}

/-- Where the sections behind the zeros are laid out. -/
theorem layOutAll_instrumented (hp : patcher.Assembled base) :
    ((layOutAll 0 (patcher.sections first code)).1.drop 3).flatten =
      (layOut (runtimeStart code) (patcher.instrumented first code)).1 := by
  rw [layOutAll_drop, ← instrumented, ← codeSize_leading hp, Nat.zero_add]
  rfl

/-- The offset that a reference is resolved to is a valid target. -/
theorem pushesTarget (hp : patcher.Assembled base) (hsize : image.length ≤ 2 ^ 256)
    (w : Written (patcher.leading code ++ patcher.instrumented first code) table image)
    {offset target : Nat} {inst decl : Instruction} {label : Label} {entry : Entry}
    (hat : StandsAt (patcher.leading code ++ patcher.instrumented first code) offset inst)
    (hr : reference? inst = some label) (he : entryOf label inst.scope = .ok entry)
    (ht : StandsAt (patcher.leading code ++ patcher.instrumented first code) target decl)
    (hd : declared? decl = some entry) : PushesTarget code image offset target := by
  obtain ⟨hj, k, hk, hdk⟩ := exists_standsAt_of_label hp ht (label_of_declared? he hd).1
  have hpos : 0 < decl.size := by
    rw [Instruction.size_of_jumpdest hj]
    omega
  obtain ⟨hlt, rest, hdrop⟩ := w.drop_reference hsize hat hr
    (opcode_of_reference? hp hat.mem hr) he ht hd hpos
  have hge : runtimeStart code ≤ target := by omega
  refine ⟨hlt, ?_, hge, (mem_marks_image hp w hge).2 ⟨k, decl, hk, hdk, by rw [hj]; rfl⟩⟩
  rw [hdrop]
  exact List.take_left' (by simp)

/-- **Every internal jump target of an image is valid**, whatever the code, the options and the
scopes. Offsets are words; a byte string in memory is shorter. -/
theorem validTargets_of_patchFrom {options : PatchOptions}
    (hp : Patcher.new options base = .ok patcher) (hc : code ≠ [])
    (h : patcher.patchFrom first code = .ok image) (hsize : image.length ≤ 2 ^ 256) :
    ValidTargets patcher first code image := by
  have hp := (assembled_of_new hp).2
  obtain ⟨table, w⟩ := patchFrom_ok hc h
  have hmarks (position : Nat) (hge : runtimeStart code ≤ position) : IsMark image position ↔
      ∃ inst ∈ ((layOutAll 0 (patcher.sections first code)).1.drop 3).flatten,
        inst.offset = some position := by
    rw [layOutAll_instrumented hp]
    constructor
    · intro hm
      obtain ⟨⟨p, byte⟩, hb, rfl⟩ := List.mem_map.1 hm
      obtain ⟨k, inst, rfl, hat, -⟩ := (mem_marks_image hp w hge).1 hb
      exact ⟨_, place_mem_layOut _ hat, rfl⟩
    · rintro ⟨placed, hm, ho⟩
      obtain ⟨k, inst, hat, rfl⟩ := mem_layOut.1 hm
      obtain rfl : runtimeStart code + k = position := by simpa [Instruction.place] using ho
      have hd := (Instruction.isRegular_iff.1 (isRegular_instrumented hp inst hat.mem)).1
      obtain ⟨byte, hb⟩ := Option.ne_none_iff_exists'.1 (mt Instruction.toByte?_eq_none.1 hd)
      exact List.mem_map.2 ⟨(_, byte), (mem_marks_image hp w hge).2 ⟨k, inst, rfl, hat, hb⟩, rfl⟩
  refine ⟨?_, hmarks, ?_, ?_⟩
  · refine (hmarks _ (Nat.le_refl _)).2 ⟨Image.runtimeEntry.place (runtimeStart code), ?_, rfl⟩
    rw [layOutAll_instrumented hp, instrumented_eq, runtime, List.cons_append, List.cons_append,
      List.cons_append, List.cons_append, layOut_cons]
    exact List.mem_cons_self
  · intro placed hm label ho
    rw [layOutAll_flatten, sections_flatten] at hm
    obtain ⟨offset, inst, hat, rfl⟩ := mem_layOut.1 hm
    have hr : reference? inst = some label := reference?_eq_some.2 ho
    obtain ⟨entry, target, decl, he, ht, hd⟩ := w.exists_declared hat.mem hr
    have hop : inst.opcode = .pushN 3 := opcode_of_reference? hp hat.mem hr
    refine ⟨hop, offset, target, by simp [Instruction.place],
      pushesTarget hp hsize w hat hr he ht hd, decl.place (0 + target), ?_, by
      simp [Instruction.place], label_of_declared? he hd⟩
    rw [layOutAll_flatten, sections_flatten]
    exact place_mem_layOut 0 ht
  · intro i site hi k inst name hk ho
    have hr : reference? inst = some (.lexical name) := reference?_eq_some.2 ho
    obtain ⟨offset, byte, immediate, hd⟩ := exists_isDecoded (List.mem_of_getElem? hi)
    obtain ⟨hs, decl, hdm, hl, hds, hj⟩ := exists_declared_expand hp hd hk.mem hr
    obtain ⟨d, hat⟩ := StandsAt.exists_of_mem hdm
    refine ⟨d, decl, hat, hj, hl, pushesTarget hp hsize w (standsAt_expansion hp hi hk) hr
      (by rw [hs]; exact entryOf_some _ _) (standsAt_expansion hp hi hat) ?_⟩
    rw [declared?_of_scope hds, hl]
    rfl

/-- The image of a JUMPDEST, a JUMP and a push that is cut off. -/
theorem validTargets_truncated_push : ∃ patcher image, Patcher.new {} ⟨0⟩ = .ok patcher ∧
    patcher.patch [0x5b, 0x56, 0x7f] = .ok image ∧ image.length ≤ 2 ^ 256 ∧
    ValidTargets patcher firstScope [0x5b, 0x56, 0x7f] image := by
  obtain ⟨patcher, image, hp, himg, hl⟩ := exists_image_of_length ⟨0⟩ firstScope
    [0x5b, 0x56, 0x7f] {} (by decide) (by simp [AddressMap.empty]) (by decide)
  have hsize : image.length ≤ 2 ^ 256 := Nat.le_trans hl (by decide)
  exact ⟨patcher, image, hp, himg, hsize,
    validTargets_of_patchFrom hp (by decide) himg hsize⟩

end

end Patcher

end EvmProbe
