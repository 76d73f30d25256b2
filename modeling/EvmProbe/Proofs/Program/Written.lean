import EvmProbe.Proofs.Program.Encoding
import Mathlib.Algebra.Ring.Nat

/-!
Sections that are laid out, linked and written as one code.

`Written code table image` says all there is to say about such code: what its table holds, that
every reference is in it, and that the image is the encodings of the instructions.

* `encodeSections_ok`: sections that have an image are written.
* `exists_image`: linkable sections whose offsets fit in three bytes have an image.
* `Written.drop_eq`, `Written.drop_reference`: an image holds every instruction where it stands, and
  a reference as the offset where its declaration stands.
-/

namespace EvmProbe

open Encoding Linking

namespace Patcher

/-- Sections are written like their concatenation. -/
theorem encodeAll_eq (buffer : Array UInt8) (groups : List (List Instruction)) :
    encodeAll buffer groups = encodeInto 0 buffer groups.flatten := by
  induction groups generalizing buffer with
  | nil => rfl
  | cons group rest ih =>
    rw [encodeAll, List.flatten_cons, encodeInto_append]
    cases encodeInto 0 buffer group with
    | mk buffer result =>
      cases result with
      | ok _ => exact ih buffer
      | error cause => rfl

/-! ## Written code -/

/-- An image holds code that is linked by a table. -/
structure Written (code : List Instruction) (table : Table) (image : Bytes) : Prop where
  /-- No entry is declared twice. -/
  distinct : (code.filterMap declared?).Nodup
  /-- The table holds every declared entry with the offset where it stands. -/
  entries : ∀ entry offset, table[entry]? = some offset ↔
    ∃ inst, StandsAt code offset inst ∧ declared? inst = some entry
  /-- Every reference is in the table. -/
  found : ∀ inst ∈ code, fault? table inst = none
  /-- Every instruction has an encoding. -/
  encodable : ∀ inst ∈ code, (resolved table inst).encoded?.isSome
  /-- The image is the encodings in order. -/
  image_eq : image = code.flatMap fun inst => (resolved table inst).encoded

theorem declared?_place (inst : Instruction) (offset : Nat) :
    declared? (inst.place offset) = declared? inst := rfl

theorem target?_place (table : Table) (inst : Instruction) (offset : Nat) :
    target? table (inst.place offset) = target? table inst := rfl

theorem encoded?_resolved_place (table : Table) (inst : Instruction) (offset : Nat) :
    (resolved table (inst.place offset)).encoded? = (resolved table inst).encoded? := by
  rw [resolved, resolved, target?_place]
  split <;> rfl

theorem size_resolved (table : Table) (inst : Instruction) :
    (resolved table inst).size = inst.size := by
  unfold resolved
  split
  · next offset ht =>
    cases hr : reference? inst with
    | none => simp [target?_of_reference?_eq_none hr] at ht
    | some label => simp [Instruction.size, reference?_eq_some.1 hr]
  · rfl

/-! ## Encoded sections -/

/-- Sections that link are written as one code. -/
theorem encodeSections_eq {sections : List (List Instruction)} {table : Table}
    (hd : declarations (layOut 0 sections.flatten).1 = .ok table)
    (hf : ∀ inst ∈ (layOut 0 sections.flatten).1, fault? table inst = none) :
    encodeSections sections =
      match encodeInto 0 (Array.replicate (codeSize sections.flatten) 0)
        ((layOut 0 sections.flatten).1.map (resolved table)) with
      | (_, .error cause) => .error (.encode cause)
      | (buffer, .ok ()) => .ok buffer.toList := by
  have hflat := layOutAll_flatten 0 sections
  have hsize := layOutAll_snd 0 sections
  unfold encodeSections
  generalize layOutAll 0 sections = placed at hflat hsize
  obtain ⟨placed, size⟩ := placed
  obtain rfl : size = codeSize sections.flatten := by simpa using hsize
  dsimp only at hflat ⊢
  rw [← hflat] at hd hf ⊢
  rw [link_ok.2 ⟨table, hd, hf, rfl⟩]
  have hall := encodeAll_eq (Array.replicate (codeSize sections.flatten) 0)
    (placed.map (·.map (resolved table)))
  rw [← List.map_flatten] at hall
  exact hall ▸ rfl

/-- Sections have an image exactly if their concatenation links and can be written. -/
theorem encodeSections_iff {sections : List (List Instruction)} {image : Bytes} :
    encodeSections sections = .ok image ↔
      ∃ table buffer, declarations (layOut 0 sections.flatten).1 = .ok table ∧
        (∀ inst ∈ (layOut 0 sections.flatten).1, fault? table inst = none) ∧
        encodeInto 0 (Array.replicate (codeSize sections.flatten) 0)
          ((layOut 0 sections.flatten).1.map (resolved table)) = (buffer, .ok ()) ∧
        image = buffer.toList := by
  constructor
  · intro h
    have hlinked := h
    unfold encodeSections at hlinked
    dsimp only at hlinked
    split at hlinked
    · cases hlinked
    · next linked hl =>
      obtain ⟨table, hd, hf, -⟩ := link_ok.1 hl
      rw [layOutAll_flatten] at hd hf
      rw [encodeSections_eq hd hf] at h
      split at h
      · cases h
      · next buffer hb =>
        cases h
        exact ⟨table, buffer, hd, hf, hb, rfl⟩
  · rintro ⟨table, buffer, hd, hf, hb, rfl⟩
    rw [encodeSections_eq hd hf, hb]

/-- Code that was laid out, linked and encoded is written. -/
theorem written_of_encoded {code : List Instruction} {table : Table} {buffer : Array UInt8}
    (hd : declarations (layOut 0 code).1 = .ok table)
    (hf : ∀ inst ∈ (layOut 0 code).1, fault? table inst = none)
    (hb : encodeInto 0 (Array.replicate (codeSize code) 0)
      ((layOut 0 code).1.map (resolved table)) = (buffer, .ok ())) :
    Written code table buffer.toList := by
  have hc := (contiguous_layOut 0 code).map (resolved_offset table) (size_resolved table)
  have hs : codeSize ((layOut 0 code).1.map (resolved table)) = codeSize code := by
    rw [codeSize_map (size_resolved table), codeSize_layOut]
  obtain ⟨henc, himg⟩ := (encodeInto_contiguous hc (by simp [hs])).1 hb
  obtain ⟨hnodup, hget⟩ := declarations_ok hd
  have hplaced {inst : Instruction} (hm : inst ∈ code) :
      ∃ offset, inst.place offset ∈ (layOut 0 code).1 := by
    obtain ⟨offset, hat⟩ := StandsAt.exists_of_mem hm
    exact ⟨_, place_mem_layOut 0 hat⟩
  refine ⟨?_, fun entry offset => ?_, fun inst hm => ?_, fun inst hm => ?_, ?_⟩
  · rwa [filterMap_layOut declared?_place] at hnodup
  · rw [hget]
    constructor
    · rintro ⟨placed, hm, hdec, ho⟩
      obtain ⟨k, inst, hat, rfl⟩ := mem_layOut.1 hm
      obtain rfl : k = offset := by simpa [Instruction.place] using ho
      exact ⟨inst, hat, hdec⟩
    · rintro ⟨inst, hat, hdec⟩
      exact ⟨_, place_mem_layOut 0 hat, hdec, by simp [Instruction.place]⟩
  · obtain ⟨offset, hp⟩ := hplaced hm
    exact hf (inst.place offset) hp
  · obtain ⟨offset, hp⟩ := hplaced hm
    rw [← encoded?_resolved_place table inst offset]
    exact henc _ (List.mem_map_of_mem hp)
  · rw [himg, overwrite_zero (by simp [Instruction.length_flatMap_encoded henc, hs]),
      List.flatMap_map, List.flatMap, map_layOut, ← List.flatMap]
    intro inst offset
    rw [Instruction.encoded, encoded?_resolved_place, ← Instruction.encoded]

/-- **Sections that have an image are written as one code.** -/
theorem encodeSections_ok {sections : List (List Instruction)} {image : Bytes}
    (h : encodeSections sections = .ok image) : ∃ table, Written sections.flatten table image := by
  obtain ⟨table, buffer, hd, hf, hb, rfl⟩ := encodeSections_iff.1 h
  exact ⟨table, written_of_encoded hd hf hb⟩

/-! ## Code that can be written -/

/-- What code needs to be linked. -/
structure Linkable (code : List Instruction) : Prop where
  /-- Every label is of some scope, and its instruction takes up room. -/
  declarable : ∀ inst ∈ code, inst.label.isSome → (declared? inst).isSome ∧ 0 < inst.size
  /-- No entry is declared twice. -/
  distinct : (code.filterMap declared?).Nodup
  /-- Every reference is declared, and is pushed in three bytes. -/
  references : ∀ inst ∈ code, ∀ label, reference? inst = some label →
    inst.opcode = .pushN 3 ∧ ∃ entry ∈ code.filterMap declared?,
      entryOf label inst.scope = .ok entry

/-- An instruction pushes a number in three bytes. -/
def PushesNumber (inst : Instruction) : Prop :=
  inst.opcode = .pushN 3 ∧ ∃ value, inst.operand = some (.int value)

namespace Linkable
variable {code : List Instruction} {table : Table}

theorem exists_table (h : Linkable code) : ∃ table, declarations (layOut 0 code).1 = .ok table := by
  refine exists_declarations (fun placed hm hl => ?_) ?_
  · obtain ⟨offset, inst, hat, rfl⟩ := mem_layOut.1 hm
    exact ⟨rfl, (h.declarable inst hat.mem hl).1⟩
  · rw [filterMap_layOut declared?_place]
    exact h.distinct

theorem fault?_eq_none (h : Linkable code) (hd : declarations (layOut 0 code).1 = .ok table)
    {placed : Instruction} (hp : placed ∈ (layOut 0 code).1) : fault? table placed = none := by
  obtain ⟨offset, inst, hat, rfl⟩ := mem_layOut.1 hp
  refine Linking.fault?_eq_none fun label hl => ?_
  obtain ⟨-, entry, he, hentry⟩ := h.references inst hat.mem label hl
  obtain ⟨decl, hdecl, hdec⟩ := List.mem_filterMap.1 he
  obtain ⟨k, hk⟩ := StandsAt.exists_of_mem hdecl
  refine ⟨entry, hentry, Std.HashMap.mem_iff_isSome_getElem?.2 ?_⟩
  rw [((declarations_ok hd).2 entry (0 + k)).2 ⟨_, place_mem_layOut 0 hk, hdec, rfl⟩]
  rfl

/-- A declared offset lies within the code. -/
theorem target_lt (h : Linkable code) (hd : declarations (layOut 0 code).1 = .ok table)
    {entry : Entry} {target : Nat} (ht : table[entry]? = some target) : target < codeSize code := by
  obtain ⟨placed, hm, hdec, ho⟩ := ((declarations_ok hd).2 entry target).1 ht
  obtain ⟨k, inst, hat, rfl⟩ := mem_layOut.1 hm
  obtain rfl : k = target := by simpa [Instruction.place] using ho
  rw [declared?_place] at hdec
  have := (h.declarable inst hat.mem (isSome_label_of_declared? hdec)).2
  have := hat.add_size_le
  omega

/-- A reference becomes a number that is pushed in three bytes. -/
theorem exists_resolved (h : Linkable code) (hd : declarations (layOut 0 code).1 = .ok table)
    {placed : Instruction} (hp : placed ∈ (layOut 0 code).1) {label : Label}
    (hr : reference? placed = some label) :
    (resolved table placed).opcode = .pushN 3 ∧ ∃ target < codeSize code,
      (resolved table placed).operand = some (.int (BitVec.ofNat 256 target)) := by
  obtain ⟨entry, target, -, ht, heq⟩ := exists_target hr (h.fault?_eq_none hd hp)
  obtain ⟨offset, inst, hat, rfl⟩ := mem_layOut.1 hp
  rw [heq]
  exact ⟨(h.references inst hat.mem label hr).1, target, h.target_lt hd ht, rfl⟩

theorem isSome_encoded? (h : Linkable code)
    (henc : ∀ inst ∈ code, reference? inst = none → inst.encoded?.isSome)
    (hs : codeSize code ≤ capacity 3) (hd : declarations (layOut 0 code).1 = .ok table)
    {placed : Instruction} (hp : placed ∈ (layOut 0 code).1) :
    (resolved table placed).encoded?.isSome := by
  cases hr : reference? placed with
  | none =>
    obtain ⟨offset, inst, hat, rfl⟩ := mem_layOut.1 hp
    rw [resolved_of_reference?_eq_none hr]
    exact henc inst hat.mem hr
  | some label =>
    obtain ⟨hop, target, hlt, ho⟩ := h.exists_resolved hd hp hr
    have hfits : (BitVec.ofNat 256 target).toNat < capacity 3 :=
      Nat.lt_of_le_of_lt (Nat.mod_le _ _) (Nat.lt_of_lt_of_le hlt hs)
    rw [Instruction.encoded?_push3 hop ho]
    exact Option.isSome_iff_exists.2 ⟨_, if_pos hfits⟩

end Linkable

/-- Linkable sections are written as far as their instructions have encodings. -/
theorem encodeSections_of_linkable {sections : List (List Instruction)}
    (h : Linkable sections.flatten) : ∃ table,
      declarations (layOut 0 sections.flatten).1 = .ok table ∧
      Contiguous 0 ((layOut 0 sections.flatten).1.map (resolved table)) ∧
      codeSize ((layOut 0 sections.flatten).1.map (resolved table)) = codeSize sections.flatten ∧
      encodeSections sections =
        match encodeInto 0 (Array.replicate (codeSize sections.flatten) 0)
          ((layOut 0 sections.flatten).1.map (resolved table)) with
        | (_, .error cause) => .error (.encode cause)
        | (buffer, .ok ()) => .ok buffer.toList := by
  obtain ⟨table, hd⟩ := h.exists_table
  refine ⟨table, hd, (contiguous_layOut 0 sections.flatten).map (resolved_offset table)
    (size_resolved table), by rw [codeSize_map (size_resolved table), codeSize_layOut], ?_⟩
  exact encodeSections_eq hd fun inst hm => h.fault?_eq_none hd hm

/-- **Linkable sections whose offsets fit in three bytes have an image**, if everything in them that
is no reference has an encoding. -/
theorem exists_image {sections : List (List Instruction)} (h : Linkable sections.flatten)
    (henc : ∀ inst ∈ sections.flatten, reference? inst = none → inst.encoded?.isSome)
    (hs : codeSize sections.flatten ≤ capacity 3) :
    ∃ image, encodeSections sections = .ok image := by
  obtain ⟨table, hd, hc, hsize, heq⟩ := encodeSections_of_linkable h
  have hall : ∀ inst ∈ (layOut 0 sections.flatten).1.map (resolved table),
      inst.encoded?.isSome := by
    intro inst hm
    obtain ⟨placed, hp, rfl⟩ := List.mem_map.1 hm
    exact h.isSome_encoded? henc hs hd hp
  obtain ⟨buffer, hb⟩ :=
    exists_encodeInto (Array.replicate (codeSize sections.flatten) 0) hc (by simp [hsize]) hall
  rw [hb] at heq
  exact ⟨_, heq⟩

/-- **All that can be wrong with linkable sections is a number that does not fit in three bytes**,
if everything else in them has an encoding. -/
theorem exists_of_encodeSections_eq_error {sections : List (List Instruction)}
    {cause : ProgramError} (h : Linkable sections.flatten)
    (henc : ∀ inst ∈ sections.flatten, reference? inst = none →
      inst.encoded?.isSome ∨ PushesNumber inst)
    (he : encodeSections sections = .error cause) :
    ∃ value : Word, capacity 3 ≤ value.toNat ∧
      cause = .encode (.operand (.tooWide (.int value) 3)) := by
  obtain ⟨table, hd, hc, hsize, heq⟩ := encodeSections_of_linkable h
  rw [he] at heq
  split at heq
  · next fault hfault =>
    cases heq
    obtain ⟨inst, hm, hnone, buffer, position, offset, hw⟩ :=
      exists_of_encodeInto_eq_error hc (by simp [hsize]) hfault
    have hpush : PushesNumber inst := by
      obtain ⟨placed, hp, rfl⟩ := List.mem_map.1 hm
      cases hr : reference? placed with
      | none =>
        rw [resolved_of_reference?_eq_none hr] at hnone ⊢
        obtain ⟨offset, inst, hat, rfl⟩ := mem_layOut.1 hp
        exact (henc inst hat.mem hr).resolve_left (by
          rw [← Instruction.encoded?_place inst, hnone]
          exact Bool.false_ne_true)
      | some label =>
        obtain ⟨hop, target, -, ho⟩ := h.exists_resolved hd hp hr
        exact ⟨hop, _, ho⟩
    obtain ⟨hop, value, ho⟩ := hpush
    obtain ⟨hv, rfl⟩ := writeInstruction_error (by rw [hop]; rfl)
      (by rw [hop]; decide) ho hw
    rw [hop] at hv ⊢
    exact ⟨value, hv, rfl⟩
  · cases heq

/-! ## What an image holds -/

namespace Written
variable {code : List Instruction} {table : Table} {image : Bytes} (w : Written code table image)
include w

theorem length_image : image.length = codeSize code := by
  have h (i : Instruction) (hm : i ∈ code.map (resolved table)) : i.encoded?.isSome := by
    obtain ⟨inst, hi, rfl⟩ := List.mem_map.1 hm
    exact w.encodable inst hi
  have hl := Instruction.length_flatMap_encoded h
  rw [List.flatMap_map, codeSize_map (size_resolved table)] at hl
  rw [w.image_eq, hl]

/-- **An image holds every instruction where it stands.** -/
theorem drop_eq {offset : Nat} {inst : Instruction} (hat : StandsAt code offset inst) :
    ∃ rest, image.drop offset = (resolved table inst).encoded ++ rest := by
  have hi := w.image_eq
  have henc := w.encodable
  obtain ⟨before, after, rfl, rfl⟩ := hat
  have hl : (before.flatMap fun inst => (resolved table inst).encoded).length =
      codeSize before := by
    have h (i : Instruction) (hm : i ∈ before.map (resolved table)) : i.encoded?.isSome := by
      obtain ⟨inst, hi, rfl⟩ := List.mem_map.1 hm
      exact henc inst (by simp [hi])
    have := Instruction.length_flatMap_encoded h
    rwa [List.flatMap_map, codeSize_map (size_resolved table)] at this
  refine ⟨after.flatMap fun inst => (resolved table inst).encoded, ?_⟩
  rw [hi, List.flatMap_append, List.drop_left' hl, List.flatMap_cons]

/-- An image holds the byte of an opcode where its instruction stands. -/
theorem getElem?_opcode {offset : Nat} {inst : Instruction} {byte : UInt8}
    (hat : StandsAt code offset inst) (hb : inst.opcode.toByte? = some byte) :
    image[offset]? = some byte := by
  obtain ⟨rest, hdrop⟩ := w.drop_eq hat
  obtain ⟨immediate, henc, -⟩ := Instruction.exists_encoded
    ((congrArg _ (resolved_opcode table inst)).trans hb) (w.encodable inst hat.mem)
  rw [← Nat.add_zero offset, ← List.getElem?_drop, hdrop, henc]
  rfl

/-- A reference is resolved to the offset where its entry is declared. -/
theorem resolved_eq {inst decl : Instruction} {label : Label} {entry : Entry} {target : Nat}
    (hm : inst ∈ code) (hr : reference? inst = some label)
    (he : entryOf label inst.scope = .ok entry) (ht : StandsAt code target decl)
    (hd : declared? decl = some entry) :
    resolved table inst = { inst with operand := some (.int (BitVec.ofNat 256 target)) } := by
  obtain ⟨entry', target', he', ht', heq⟩ := exists_target hr (w.found inst hm)
  rw [he, Except.ok.injEq] at he'
  rw [← he', (w.entries entry target).2 ⟨decl, ht, hd⟩, Option.some.injEq] at ht'
  rw [heq, ht']

/-- Every reference is declared. -/
theorem exists_declared {inst : Instruction} {label : Label} (hm : inst ∈ code)
    (hr : reference? inst = some label) : ∃ entry target decl,
      entryOf label inst.scope = .ok entry ∧ StandsAt code target decl ∧
        declared? decl = some entry := by
  obtain ⟨entry, target, he, ht, -⟩ := exists_target hr (w.found inst hm)
  obtain ⟨decl, hat, hd⟩ := (w.entries entry target).1 ht
  exact ⟨entry, target, decl, he, hat, hd⟩

/-- **An image holds a reference as the offset where its entry is declared**, as long as offsets are
words. -/
theorem drop_reference {inst decl : Instruction} {label : Label} {entry : Entry}
    {offset target : Nat} (hsize : image.length ≤ 2 ^ 256) (hat : StandsAt code offset inst)
    (hr : reference? inst = some label) (hop : inst.opcode = .pushN 3)
    (he : entryOf label inst.scope = .ok entry) (ht : StandsAt code target decl)
    (hd : declared? decl = some entry) (hpos : 0 < decl.size) :
    target < capacity 3 ∧ ∃ rest, image.drop offset = 0x62 :: bigEndian 3 target ++ rest := by
  have heq := w.resolved_eq hat.mem hr he ht hd
  have hlt : target < 2 ^ 256 := by
    have := ht.add_size_le
    have := w.length_image
    omega
  have henc : (resolved table inst).encoded? =
      if target < capacity 3 then some (0x62 :: bigEndian 3 target) else none := by
    rw [Instruction.encoded?_push3 ((resolved_opcode table inst).trans hop)
      (congrArg Instruction.operand heq), BitVec.toNat_ofNat, Nat.mod_eq_of_lt hlt]
  have hsome := w.encodable inst hat.mem
  obtain ⟨rest, hdrop⟩ := w.drop_eq hat
  rw [henc] at hsome
  split at hsome
  · next h =>
    rw [Instruction.encoded, henc, if_pos h, Option.getD_some] at hdrop
    exact ⟨h, rest, hdrop⟩
  · cases hsome

end Written

end Patcher

end EvmProbe
