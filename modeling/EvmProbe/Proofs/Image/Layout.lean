import EvmProbe.Proofs.Bytes
import EvmProbe.Proofs.Image.Existence

/-!
The bytes of an image.

An image is nothing but its sections, one behind the other: a push of the runtime's offset and a
jump, the deployed code, 32 zeros, and the encodings of the linked runtime, library and routers.

* `linkedBytes_preamble`, `linkedBytes_runtime`: the bytes of the preamble and of the runtime.
* `LaidOut`, `laidOut_of_patchFrom`: **an image is exactly its layout**, and every instruction is
  where it was laid out.
-/

namespace EvmProbe

open Encoding Linking

/-- The low-order bytes of a number do not depend on what is in front of them. -/
theorem bigEndian_mod_capacity {width more : Nat} (h : width ≤ more) (n : Nat) :
    bigEndian width (n % capacity more) = bigEndian width n := by
  refine eq_of_ofBigEndian_eq (by simp) ?_
  rw [ofBigEndian_bigEndian_mod, ofBigEndian_bigEndian_mod]
  exact Nat.mod_mod_of_dvd n (Nat.pow_dvd_pow 256 h)

/-- The encodings of code that is linked by a table, one behind the other. -/
def linkedBytes (table : Table) (code : List Instruction) : Bytes :=
  code.flatMap fun inst => (resolved table inst).encoded

@[simp] theorem linkedBytes_append (table : Table) (a b : List Instruction) :
    linkedBytes table (a ++ b) = linkedBytes table a ++ linkedBytes table b :=
  List.flatMap_append

theorem linkedBytes_flatMap {α : Type} (table : Table) (l : List α) (f : α → List Instruction) :
    linkedBytes table (l.flatMap f) = l.flatMap fun x => linkedBytes table (f x) :=
  List.flatMap_assoc

/-- Raw bytes are encoded as they are. -/
theorem linkedBytes_data (table : Table) (bytes : Bytes) :
    linkedBytes table [.data bytes] = bytes := by
  rw [linkedBytes, List.flatMap_singleton, resolved_of_reference?_eq_none rfl]
  rfl

namespace Patcher

section
variable {patcher : Patcher} {base first : Scope} {code image : Bytes} {table : Table}

/-- A reference is encoded as the low-order bytes of the offset where its entry is declared. -/
theorem Written.encoded_reference {all : List Instruction} (w : Written all table image)
    {inst decl : Instruction} {label : Label} {entry : Entry} {target : Nat} (hm : inst ∈ all)
    (hop : inst.opcode = .pushN 3) (hr : reference? inst = some label)
    (he : entryOf label inst.scope = .ok entry) (ht : StandsAt all target decl)
    (hd : declared? decl = some entry) :
    (resolved table inst).encoded = 0x62 :: bigEndian 3 target := by
  have henc := w.encodable inst hm
  have hresolved := w.resolved_eq hm hr he ht hd
  have hpush := Instruction.encoded?_push3 ((resolved_opcode table inst).trans hop)
    (congrArg Instruction.operand hresolved)
  have hword : (2 : Nat) ^ 256 = capacity 32 := by decide
  rw [BitVec.toNat_ofNat, hword, bigEndian_mod_capacity (by decide)] at hpush
  rw [hpush] at henc
  rw [Instruction.encoded, hpush]
  split at henc
  · next hfits => rw [if_pos hfits, Option.getD_some]
  · cases henc

/-- The preamble pushes the offset of the runtime and jumps there. -/
theorem linkedBytes_preamble (hp : patcher.Assembled base)
    (w : Written (patcher.leading code ++ patcher.instrumented first code) table image) :
    linkedBytes table (patcher.fragments.get .preamble) =
      0x62 :: bigEndian 3 (runtimeStart code) ++ [0x56] := by
  have hentry : StandsAt (patcher.leading code ++ patcher.instrumented first code)
      (runtimeStart code) Image.runtimeEntry := (liesAt_runtime first code hp).head
  have hm : (Instruction.pushLabel (.pushN 3) (.global "runtime")).inScope base ∈
      patcher.leading code ++ patcher.instrumented first code := by simp [leading, preamble_eq hp]
  have he : entryOf (.global "runtime") (some base) = .ok ⟨none, "runtime"⟩ := rfl
  have hpush := w.encoded_reference hm rfl rfl he hentry rfl
  rw [preamble_eq hp, linkedBytes, List.flatMap_cons, hpush, List.flatMap_singleton,
    resolved_of_reference?_eq_none rfl]
  rfl

/-- The runtime is a JUMPDEST, the expansions in order, and a STOP. -/
theorem linkedBytes_runtime (patcher : Patcher) (first : Scope) (code : Bytes) (table : Table) :
    linkedBytes table (patcher.runtime first code) =
      0x5b :: (disassemble first code).zipIdx.flatMap
        (fun site => linkedBytes table (patcher.expansion first code site)) ++ [0x00] := by
  have hentry : linkedBytes table [Image.runtimeEntry] = [0x5b] := by
    rw [linkedBytes, List.flatMap_singleton, resolved_of_reference?_eq_none rfl]
    rfl
  have hstop : linkedBytes table [.plain .stop] = [0x00] := by
    rw [linkedBytes, List.flatMap_singleton, resolved_of_reference?_eq_none rfl]
    rfl
  rw [runtime, ← List.singleton_append, linkedBytes_append, linkedBytes_append, hentry, hstop,
    expansions, linkedBytes_flatMap]
  rfl

/-- Sections are as long as their concatenation. -/
theorem sum_codeSize (sections : List (List Instruction)) :
    (sections.map codeSize).sum = codeSize sections.flatten := by
  induction sections with
  | nil => rfl
  | cons group rest ih => rw [List.map_cons, List.sum_cons, ih, List.flatten_cons, codeSize_append]

/-- An image is laid out in sections that are linked by a table. -/
structure LaidOut (patcher : Patcher) (first : Scope) (code image : Bytes) (table : Table) :
    Prop where
  /-- The sections are linked, and every instruction has an encoding. -/
  linked : link (layOutAll 0 (patcher.sections first code)).1 =
    ((layOutAll 0 (patcher.sections first code)).1.map (·.map (resolved table)), .ok ())
  encodable : ∀ inst ∈ (patcher.sections first code).flatten, (resolved table inst).encoded?.isSome
  /-- Behind the zeros come the runtime, the library and the routers. -/
  order : (patcher.sections first code).drop 3 =
    patcher.runtime first code :: Fragment.library.map patcher.fragments.get ++
      Image.jumpRouter (routerScope first code) (patcher.runtime first code) ::
        Image.accountRouters ((routerScope first code).after 1) patcher.options.accounts
  /-- The image is the entry, the deployed code, the zeros and these sections. -/
  bytes : image = 0x62 :: bigEndian 3 (37 + code.length) ++ [0x56] ++ code ++
    List.replicate 32 0 ++ ((patcher.sections first code).drop 3).flatMap (linkedBytes table)
  fits : image.length ≤ 2 ^ 256 → 37 + code.length < 2 ^ 24
  /-- The runtime is its entry, one expansion for every decoded instruction, and a STOP. -/
  runtime : linkedBytes table (patcher.runtime first code) =
    0x5b :: (disassemble first code).zipIdx.flatMap
      (fun site => linkedBytes table (patcher.expansion first code site)) ++ [0x00]
  size : image.length = ((patcher.sections first code).map codeSize).sum
  /-- Every instruction is encoded where it is laid out. -/
  placed : ∀ inst ∈ (layOutAll 0 (patcher.sections first code)).1.flatten, ∃ offset rest,
    inst.offset = some offset ∧ image.drop offset = (resolved table inst).encoded ++ rest

/-- What linked sections are written as. -/
theorem Written.bytes_eq (hp : patcher.Assembled base)
    (w : Written (patcher.leading code ++ patcher.instrumented first code) table image) :
    image = 0x62 :: bigEndian 3 (37 + code.length) ++ [0x56] ++ code ++ List.replicate 32 0 ++
      ((patcher.sections first code).drop 3).flatMap (linkedBytes table) := by
  have hstart : runtimeStart code = 37 + code.length := by
    have h5 : Environment.preambleSize = 5 := rfl
    rw [runtimeStart, h5, padding]
    omega
  have hbehind : linkedBytes table (patcher.instrumented first code) =
      ((patcher.sections first code).drop 3).flatMap (linkedBytes table) := by
    rw [instrumented, ← List.flatMap_id, linkedBytes_flatMap]
    rfl
  have hdata : linkedBytes table [.data code, .data (List.replicate padding 0)] =
      code ++ List.replicate 32 0 := by
    rw [← List.singleton_append, linkedBytes_append, linkedBytes_data, linkedBytes_data, padding]
  have himage : image =
      linkedBytes table (patcher.leading code ++ patcher.instrumented first code) := w.image_eq
  rw [himage, linkedBytes_append, leading, linkedBytes_append, linkedBytes_preamble hp w, hdata,
    hbehind, hstart]
  simp only [List.append_assoc]

/-- The offset of the runtime fits in three bytes, as long as offsets are words. -/
theorem Written.runtimeStart_lt (hp : patcher.Assembled base)
    (w : Written (patcher.leading code ++ patcher.instrumented first code) table image)
    (hsize : image.length ≤ 2 ^ 256) : runtimeStart code < capacity 3 := by
  have hat : StandsAt (patcher.leading code ++ patcher.instrumented first code) 0
      ((Instruction.pushLabel (.pushN 3) (.global "runtime")).inScope base) := by
    rw [leading, preamble_eq hp]
    exact .here
  have hentry : StandsAt (patcher.leading code ++ patcher.instrumented first code)
      (runtimeStart code) Image.runtimeEntry := (liesAt_runtime first code hp).head
  exact (w.drop_reference hsize hat rfl rfl rfl hentry rfl (by decide)).1

/-- **An image is exactly its layout**, with no gap and no overlap. -/
theorem laidOut_of_patchFrom {options : PatchOptions} (hp : Patcher.new options base = .ok patcher)
    (hc : code ≠ []) (h : patcher.patchFrom first code = .ok image) :
    ∃ table, LaidOut patcher first code image table := by
  have ha := (assembled_of_new hp).2
  rw [patchFrom_eq ha hc] at h
  cases he : encodeSections (patcher.sections first code) with
  | error cause =>
    rw [he] at h
    cases h
  | ok encoded =>
    rw [he] at h
    cases h
    obtain ⟨table, buffer, hd, hf, hb, rfl⟩ := encodeSections_iff.1 he
    have w := written_of_encoded hd hf hb
    rw [sections_flatten] at w
    have hplaced := layOutAll_flatten 0 (patcher.sections first code)
    refine ⟨table, ?_, ?_, rfl, w.bytes_eq ha, fun hsize => ?_, linkedBytes_runtime _ _ _ _, ?_,
      fun inst hm => ?_⟩
    · exact link_ok.2 ⟨table, hplaced ▸ hd, hplaced ▸ hf, rfl⟩
    · rw [sections_flatten]
      exact w.encodable
    · have hlt := w.runtimeStart_lt ha hsize
      have h5 : Environment.preambleSize = 5 := rfl
      have h24 : capacity 3 = 2 ^ 24 := by decide
      rw [runtimeStart, padding] at hlt
      omega
    · rw [w.length_image, sum_codeSize, sections_flatten]
    · rw [hplaced, sections_flatten] at hm
      obtain ⟨offset, inst, hat, rfl⟩ := mem_layOut.1 hm
      obtain ⟨rest, hdrop⟩ := w.drop_eq hat
      refine ⟨0 + offset, rest, rfl, ?_⟩
      rw [Instruction.encoded, encoded?_resolved_place, ← Instruction.encoded, Nat.zero_add, hdrop]

/-- The image of a single STOP is laid out. -/
theorem laidOut_stop : ∃ patcher image table, Patcher.new {} ⟨0⟩ = .ok patcher ∧
    patcher.patch [0x00] = .ok image ∧ LaidOut patcher firstScope [0x00] image table := by
  obtain ⟨patcher, image, hp, himg, -⟩ := exists_image_of_length ⟨0⟩ firstScope [0x00] {}
    (by decide) (by simp [AddressMap.empty]) (by decide)
  obtain ⟨table, hl⟩ := laidOut_of_patchFrom hp (by decide) himg
  exact ⟨patcher, image, table, hp, himg, hl⟩

end

end Patcher

end EvmProbe
