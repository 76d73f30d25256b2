import EvmProbe.Bytes

/-!
The memory of a machine: a byte at every address, without a limit.

* `read_write`, `load_store`: what was written is read back.
* `write_write`, `write_write_range`: bytes written within others.
* `ChangesWithin`: a memory differs from an earlier one within a region only; so do the regions that
  are read outside of it (`ChangesWithin.read_eq`).
-/

namespace EvmProbe

/-- A memory: a byte at every address. -/
abbrev Memory := Nat → UInt8

namespace Memory

/-- The bytes of a region. -/
def read (memory : Memory) (offset size : Nat) : Bytes :=
  (List.range size).map fun index => memory (offset + index)

/-- Bytes written from an offset on. -/
def write (memory : Memory) (offset : Nat) (bytes : Bytes) : Memory := fun address =>
  if offset ≤ address then bytes.getD (address - offset) (memory address) else memory address

/-- The word at an offset. -/
def load (memory : Memory) (offset : Word) : Word :=
  BitVec.ofNat 256 (ofBigEndian (memory.read offset.toNat 32))

/-- A word written at an offset. -/
def store (memory : Memory) (offset value : Word) : Memory :=
  memory.write offset.toNat (wordBytes value)

section
variable (memory : Memory) {offset address : Nat} {bytes : Bytes}

@[simp] theorem length_read (offset size : Nat) : (memory.read offset size).length = size := by
  simp [read]

@[simp] theorem read_zero (offset : Nat) : memory.read offset 0 = [] := rfl

@[simp] theorem write_nil (offset : Nat) : memory.write offset [] = memory := by
  funext address
  simp [write]

/-- A part of a region that is read. -/
theorem take_drop_read (offset : Nat) {size skipped count : Nat} (h : skipped + count ≤ size) :
    ((memory.read offset size).drop skipped).take count = memory.read (offset + skipped) count := by
  refine List.ext_getElem (by simp; omega) fun index _ _ => ?_
  simp [read, Nat.add_assoc]

/-- What is left of a region that is read. -/
theorem drop_read (offset size skipped : Nat) :
    (memory.read offset size).drop skipped = memory.read (offset + skipped) (size - skipped) := by
  refine List.ext_getElem (by simp) fun index _ _ => ?_
  simp [read, Nat.add_assoc]

theorem write_before (h : address < offset) : memory.write offset bytes address = memory address :=
  if_neg (Nat.not_le.2 h)

theorem write_behind (h : offset + bytes.length ≤ address) :
    memory.write offset bytes address = memory address := by
  rw [write, if_pos (by omega), List.getD_eq_getElem?_getD, List.getElem?_eq_none (by omega),
    Option.getD_none]

/-- Bytes that are written by their index. -/
theorem write_range (offset size : Nat) (byte : Nat → UInt8) (address : Nat) :
    memory.write offset ((List.range size).map byte) address =
      if offset ≤ address ∧ address < offset + size then byte (address - offset)
      else memory address := by
  by_cases hin : offset ≤ address ∧ address < offset + size
  · have hlt : address - offset < size := by omega
    rw [if_pos hin, write, if_pos hin.1]
    simp [List.getD_eq_getElem?_getD, hlt]
  · rw [if_neg hin]
    rcases Nat.lt_or_ge address offset with hlt | hge
    · exact memory.write_before hlt
    · exact memory.write_behind (by simp; omega)

/-- A region that is filled first and then written from its start up to some place. -/
theorem write_write_range (offset : Nat) {size count : Nat} {filled copied byte : Nat → UInt8}
    (hle : count ≤ size) (hfront : ∀ index < count, copied index = byte index)
    (hrest : ∀ index, count ≤ index → index < size → filled index = byte index) :
    (memory.write offset ((List.range size).map filled)).write offset
        ((List.range count).map copied) =
      memory.write offset ((List.range size).map byte) := by
  funext address
  rw [write_range, write_range, write_range]
  by_cases hcopied : offset ≤ address ∧ address < offset + count
  · rw [if_pos hcopied, if_pos (by omega)]
    exact hfront _ (by omega)
  · rw [if_neg hcopied]
    by_cases hin : offset ≤ address ∧ address < offset + size
    · rw [if_pos hin, if_pos hin]
      exact hrest _ (by omega) (by omega)
    · rw [if_neg hin, if_neg hin]

/-- **What was written is read back.** -/
theorem read_write (offset : Nat) (bytes : Bytes) :
    (memory.write offset bytes).read offset bytes.length = bytes := by
  refine List.ext_getElem (by simp) fun index h _ => ?_
  have hlt : index < bytes.length := by simpa using h
  simp [read, write, List.getD_eq_getElem?_getD, List.getElem?_eq_getElem hlt]

/-- A region that is read in two parts. -/
theorem read_add (offset size size' : Nat) : memory.read offset (size + size') =
    memory.read offset size ++ memory.read (offset + size) size' := by
  rw [read, List.range_add, List.map_append, List.map_map]
  exact congrArg _ (List.map_congr_left fun index _ => congrArg memory (Nat.add_assoc _ _ _).symm)

/-- **Bytes written within others**, or on from their end. -/
theorem write_write {bytes : Bytes} (offset : Nat) {skipped : Nat} (h : skipped ≤ bytes.length)
    (inner : Bytes) : (memory.write offset bytes).write (offset + skipped) inner =
      memory.write offset
        (bytes.take skipped ++ inner ++ bytes.drop (skipped + inner.length)) := by
  have htake : (bytes.take skipped).length = skipped := List.length_take_of_le h
  funext address
  rcases Nat.lt_or_ge address offset with hlt | hge
  · rw [write_before _ (by omega), write_before _ hlt, write_before _ hlt]
  obtain ⟨index, rfl⟩ := Nat.exists_eq_add_of_le hge
  simp only [write, Nat.le_add_right, if_true, Nat.add_sub_cancel_left, List.getD_eq_getElem?_getD,
    List.append_assoc, Nat.add_le_add_iff_left, Nat.add_sub_add_left]
  rcases Nat.lt_or_ge index skipped with hfront | hbehind
  · rw [if_neg (Nat.not_le.2 hfront), List.getElem?_append_left (htake.symm ▸ hfront),
      List.getElem?_take_of_lt hfront]
  · rw [if_pos hbehind, List.getElem?_append_right (htake.symm ▸ hbehind), htake]
    rcases Nat.lt_or_ge (index - skipped) inner.length with hin | hrest
    · rw [List.getElem?_append_left hin, List.getElem?_eq_getElem hin, Option.getD_some,
        Option.getD_some]
    · rw [List.getElem?_eq_none hrest, Option.getD_none, List.getElem?_append_right hrest,
        List.getElem?_drop,
        show skipped + inner.length + (index - skipped - inner.length) = index by omega]

/-- Bytes written behind others. -/
theorem write_concat (offset : Nat) (a b : Bytes) :
    (memory.write offset a).write (offset + a.length) b = memory.write offset (a ++ b) := by
  rw [write_write _ _ (Nat.le_refl _), List.take_length,
    List.drop_of_length_le (Nat.le_add_right _ _), List.append_nil]

theorem length_wordBytes (value : Word) : (wordBytes value).length = 32 := by simp [wordBytes]

/-- A word that was stored is loaded again. -/
theorem load_store (offset value : Word) : (memory.store offset value).load offset = value := by
  have h := memory.read_write offset.toNat (wordBytes value)
  rw [length_wordBytes] at h
  rw [load, store, h, wordBytes, ofBigEndian_bigEndian value.isLt, BitVec.ofNat_toNat,
    BitVec.setWidth_eq]

end

/-! ## Regions that change -/

/-- A memory differs from an earlier one from `low` on and in front of `high` only. -/
def ChangesWithin (low high : Nat) (before after : Memory) : Prop :=
  ∀ address, address < low ∨ high ≤ address → after address = before address

namespace ChangesWithin
variable {low high low' high' offset size : Nat} {memory before after later : Memory}

theorem refl (low high : Nat) (memory : Memory) : ChangesWithin low high memory memory :=
  fun _ _ => rfl

theorem trans (h : ChangesWithin low high before after)
    (h' : ChangesWithin low high after later) : ChangesWithin low high before later :=
  fun address ha => (h' address ha).trans (h address ha)

theorem mono (h : ChangesWithin low high before after) (hl : low' ≤ low) (hh : high ≤ high') :
    ChangesWithin low' high' before after :=
  fun address ha => h address (by omega)

/-- Nothing changes within an empty region. -/
theorem eq_of_le (h : ChangesWithin low high before after) (he : high ≤ low) : after = before :=
  funext fun address => h address (by omega)

/-- Writing changes the region that is written. -/
theorem write (memory : Memory) {bytes : Bytes} (hl : low ≤ offset)
    (hh : offset + bytes.length ≤ high) :
    ChangesWithin low high memory (memory.write offset bytes) := by
  rintro address (h | h)
  · exact memory.write_before (by omega)
  · exact memory.write_behind (by omega)

/-- Storing a word changes 32 bytes. -/
theorem store (memory : Memory) {target : Word} (value : Word) (hl : low ≤ target.toNat)
    (hh : target.toNat + 32 ≤ high) :
    ChangesWithin low high memory (memory.store target value) :=
  write memory hl (by rwa [length_wordBytes])

/-- **Outside of what changes, the same bytes are read.** -/
theorem read_eq (h : ChangesWithin low high before after)
    (hs : size = 0 ∨ offset + size ≤ low ∨ high ≤ offset) :
    after.read offset size = before.read offset size := by
  refine List.map_congr_left fun index hi => h _ ?_
  rw [List.mem_range] at hi
  omega

/-- Outside of what changes, the same word is loaded. -/
theorem load_eq (h : ChangesWithin low high before after) {source : Word}
    (hs : source.toNat + 32 ≤ low ∨ high ≤ source.toNat) :
    after.load source = before.load source := by
  rw [load, load, h.read_eq (.inr hs)]

end ChangesWithin

end Memory

end EvmProbe
