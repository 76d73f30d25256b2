import EvmProbe.Proofs.Program.Buffer
import EvmProbe.Proofs.Program.Layout
import Mathlib.Data.List.Forall2

/-!
Sections that are written into one buffer.

Sections that are laid out one behind the other cover a buffer of their size without overlapping, so
that it does not matter in which order they are written, nor what the buffer held.

* `pairwise_apart`: no two instructions of contiguous code cover the same byte.
* `holds_of_encodeInto`: written instructions that do not overlap are all found in the buffer.
* `toList_eq_of_holds`: a buffer that holds contiguous code is the concatenation of its encodings.
* `encodeInto_exact`: **sections are written as the concatenation of their encodings**, and code
  anywhere else changes only what it covers.
-/

namespace EvmProbe

/-- Contiguous code is laid out, within its size. -/
theorem Contiguous.exists_offset {start : Nat} {code : List Instruction}
    (hc : Contiguous start code) {inst : Instruction} (hm : inst ∈ code) :
    ∃ offset, inst.offset = some offset ∧ start ≤ offset ∧
      offset + inst.size ≤ start + codeSize code := by
  induction code generalizing start with
  | nil => cases hm
  | cons head code ih =>
    obtain ⟨ho, hc⟩ := hc
    rw [codeSize_cons]
    rcases List.mem_cons.1 hm with rfl | hm
    · exact ⟨start, ho, Nat.le_refl _, by omega⟩
    · obtain ⟨offset, hoff, hstart, hend⟩ := ih hc hm
      exact ⟨offset, hoff, by omega, by omega⟩

namespace Encoding

open Instruction

/-! ## Instructions that do not overlap -/

/-- Two instructions cover no position in common. -/
def Apart (base : Nat) (a b : Instruction) : Prop :=
  ∀ position, a.Covers base position → ¬ b.Covers base position

/-- The buffer holds the encoding of an instruction where it lies. -/
def Holds (base : Nat) (buffer : Array UInt8) (inst : Instruction) : Prop :=
  ∀ offset, inst.offset = some offset → ∀ k, k < inst.size →
    buffer[offset - base + k]? = inst.encoded[k]?

variable {base : Nat} {buffer : Array UInt8} {code : List Instruction}

theorem Apart.symm {a b : Instruction} (h : Apart base a b) : Apart base b a :=
  fun position hb ha => h position ha hb

/-- A written instruction is found in the buffer. -/
theorem holds_encodeOne {inst : Instruction} (h : ¬ Unwritable base buffer.size inst) :
    Holds base (encodeOne base buffer inst).1 inst := by
  intro offset ho k hk
  obtain ⟨offset', bytes, ho', hbase, hsize, hbytes⟩ := not_unwritable_iff.1 h
  obtain rfl : offset = offset' := Option.some.inj (ho.symm.trans ho')
  have hl := length_encoded? hbytes
  rw [(encodeOne_ok ho).2 ⟨hbase, hsize, bytes, hbytes, rfl⟩, encoded, hbytes, Option.getD_some]
  exact getElem?_write_add (by omega) (by omega)

/-- What is held stays so while nothing is written over it. -/
theorem Holds.encodeInto {inst : Instruction} {offset : Nat} (ho : inst.offset = some offset)
    (hbase : base ≤ offset) (h : Holds base buffer inst)
    (ha : ∀ other ∈ code, Apart base inst other) :
    Holds base (encodeInto base buffer code).1 inst := by
  intro offset' ho' k hk
  obtain rfl : offset = offset' := Option.some.inj (ho.symm.trans ho')
  rw [← h offset ho k hk]
  refine getElem?_encodeInto fun other hm => ha other hm _ ?_
  exact ⟨offset, ho, hbase, by omega, by omega⟩

/-- **Written instructions that do not overlap are all found in the buffer.** -/
theorem holds_of_encodeInto (hpairs : code.Pairwise (Apart base))
    (hok : ∀ inst ∈ code, ¬ Unwritable base buffer.size inst) {inst : Instruction}
    (hm : inst ∈ code) : Holds base (encodeInto base buffer code).1 inst := by
  induction code generalizing buffer with
  | nil => cases hm
  | cons head code ih =>
    obtain ⟨hhead, hpairs⟩ := List.pairwise_cons.1 hpairs
    have hwritten := hok head List.mem_cons_self
    rw [encodeInto_cons_of_ok code hwritten]
    rcases List.mem_cons.1 hm with rfl | hm
    · obtain ⟨offset, -, ho, hbase, -, -⟩ := not_unwritable_iff.1 hwritten
      exact (holds_encodeOne hwritten).encodeInto ho hbase hhead
    · refine ih hpairs (fun i hi => ?_) hm
      rw [size_encodeOne]
      exact hok i (List.mem_cons_of_mem _ hi)

/-! ## Contiguous code -/

variable {start : Nat}

/-- **No two instructions of contiguous code cover the same byte.** -/
theorem pairwise_apart (hc : Contiguous start code) : code.Pairwise (Apart base) := by
  induction code generalizing start with
  | nil => exact .nil
  | cons head code ih =>
    obtain ⟨ho, hc⟩ := hc
    refine .cons (fun other hm position => ?_) (ih hc)
    obtain ⟨offset, hoff, hstart, -⟩ := hc.exists_offset hm
    rintro ⟨first, hfirst, hbase, -, hlt⟩ ⟨second, hsecond, -, hle, -⟩
    obtain rfl : start = first := Option.some.inj (ho.symm.trans hfirst)
    obtain rfl : offset = second := Option.some.inj (hoff.symm.trans hsecond)
    omega

/-- A buffer that holds contiguous code holds its encodings one behind the other. -/
theorem getElem?_of_holds (hc : Contiguous start code) (hbase : base ≤ start)
    (hall : ∀ inst ∈ code, inst.encoded?.isSome ∧ Holds base buffer inst) {k : Nat}
    (hk : k < codeSize code) :
    buffer[start - base + k]? = (code.flatMap Instruction.encoded)[k]? := by
  induction code generalizing start k with
  | nil => cases hk
  | cons head code ih =>
    obtain ⟨ho, hc⟩ := hc
    obtain ⟨henc, hheld⟩ := hall head List.mem_cons_self
    have hl := length_encoded henc
    rw [codeSize_cons] at hk
    rw [List.flatMap_cons]
    by_cases hlt : k < head.size
    · rw [List.getElem?_append_left (by omega), hheld start ho k hlt]
    · have hrest := ih hc (by omega) (fun i hi => hall i (List.mem_cons_of_mem _ hi))
        (k := k - head.size) (by omega)
      rw [List.getElem?_append_right (by omega), hl, ← hrest]
      congr 1
      omega

/-- **A buffer that holds contiguous code of its size is the concatenation of the encodings.** -/
theorem toList_eq_of_holds (hc : Contiguous base code) (hs : buffer.size = codeSize code)
    (hall : ∀ inst ∈ code, inst.encoded?.isSome ∧ Holds base buffer inst) :
    buffer.toList = code.flatMap Instruction.encoded := by
  have hl := length_flatMap_encoded fun inst hm => (hall inst hm).1
  refine List.ext_getElem? fun k => ?_
  by_cases hk : k < codeSize code
  · have hget := getElem?_of_holds hc (Nat.le_refl base) hall hk
    rwa [Nat.sub_self, Nat.zero_add, ← Array.getElem?_toList] at hget
  · rw [List.getElem?_eq_none (by simp; omega), List.getElem?_eq_none (by omega)]

/-- Nothing but a missing encoding speaks against writing contiguous code. -/
theorem unwritable_of_contiguous (hc : Contiguous base code) (hs : buffer.size = codeSize code)
    {inst : Instruction} (hm : inst ∈ code) :
    Unwritable base buffer.size inst ↔ inst.encoded? = none := by
  obtain ⟨offset, ho, hstart, hend⟩ := hc.exists_offset hm
  rw [← unencodable_iff]
  refine ⟨fun h => ?_, .unencodable⟩
  cases h with
  | notPlaced hn => simp [ho] at hn
  | before hn hlt =>
    cases ho.symm.trans hn
    omega
  | behind hn hlt =>
    cases ho.symm.trans hn
    omega
  | unencodable hu => exact hu

/-- **Contiguous code is written in any order as the concatenation of its encodings**, as soon as
all of its instructions have one. -/
theorem encodeInto_perm (hc : Contiguous base code) (hs : buffer.size = codeSize code)
    {order : List Instruction} (hp : order.Perm code) (henc : ∀ inst ∈ code, inst.encoded?.isSome) :
    encodeInto base buffer order = ((code.flatMap Instruction.encoded).toArray, .ok ()) := by
  have hok : ∀ inst ∈ order, ¬ Unwritable base buffer.size inst := by
    intro inst hm
    have hm' := hp.mem_iff.1 hm
    rw [unwritable_of_contiguous hc hs hm']
    exact Option.isSome_iff_ne_none.1 (henc inst hm')
  have hpairs : order.Pairwise (Apart base) :=
    (hp.pairwise_iff fun h => h.symm).2 (pairwise_apart hc)
  have hlist : (encodeInto base buffer order).1.toList = code.flatMap Instruction.encoded := by
    refine toList_eq_of_holds hc (by rw [size_encodeInto, hs]) fun inst hm => ⟨henc inst hm, ?_⟩
    exact holds_of_encodeInto hpairs hok (hp.mem_iff.2 hm)
  exact Prod.ext (by rw [← hlist]) (encodeInto_ok_iff.2 hok)

/-! ## Sections -/

/-- Writes sections one after the other into a buffer that holds the bytes from `base` on. -/
def encodeEach (base : Nat) (buffer : Array UInt8) :
    List (List Instruction) → Array UInt8 × Except Error Unit
  | [] => (buffer, .ok ())
  | group :: rest =>
    match encodeInto base buffer group with
    | (buffer, .ok ()) => encodeEach base buffer rest
    | (buffer, .error cause) => (buffer, .error cause)

/-- Sections are written like their concatenation. -/
theorem encodeEach_eq (base : Nat) (buffer : Array UInt8) (groups : List (List Instruction)) :
    encodeEach base buffer groups = encodeInto base buffer groups.flatten := by
  induction groups generalizing buffer with
  | nil => rfl
  | cons group rest ih =>
    rw [encodeEach, List.flatten_cons, encodeInto_append]
    rcases encodeInto base buffer group with ⟨middle, cause | _⟩
    · rfl
    · exact ih middle

/-- Sections that are laid out one behind the other are written into a buffer of their size, in some
order. -/
structure Fills (start : Nat) (sections : List (List Instruction)) (buffer : Array UInt8)
    (order : List (List Instruction)) : Prop where
  size : buffer.size = codeSize sections.flatten
  perm : order.Perm (Patcher.layOutAll start sections).1

/-- If sections fill a buffer, then any buffer, in any order, and always with the encodings of their
instructions one behind the other. -/
def Concatenates (start : Nat) (sections : List (List Instruction)) : Prop :=
  ∀ buffer order, Fills start sections buffer order → (encodeEach start buffer order).2 = .ok () →
    ∃ encodings, List.Forall₂ EncodedAs sections.flatten encodings ∧
      ∀ buffer' order', Fills start sections buffer' order' →
        encodeEach start buffer' order' = (encodings.flatten.toArray, .ok ())

section
variable {sections order : List (List Instruction)}

/-- Sections in any order hold the instructions of the layout. -/
theorem Fills.flatten_perm (h : Fills start sections buffer order) :
    order.flatten.Perm (layOut start sections.flatten).1 := by
  rw [← Patcher.layOutAll_flatten]
  exact h.perm.flatten

theorem flatMap_encoded_layOut (start : Nat) (code : List Instruction) :
    (layOut start code).1.flatMap Instruction.encoded = code.flatMap Instruction.encoded := by
  rw [List.flatMap, map_layOut fun _ _ => rfl, ← List.flatMap]

/-- Sections that fill one buffer have encodings. -/
theorem Fills.isSome_encoded? (h : Fills start sections buffer order)
    (hok : (encodeEach start buffer order).2 = .ok ()) :
    ∀ inst ∈ sections.flatten, inst.encoded?.isSome := by
  rw [encodeEach_eq, encodeInto_ok_iff] at hok
  intro inst hm
  obtain ⟨offset, hat⟩ := StandsAt.exists_of_mem hm
  have hplaced := h.flatten_perm.mem_iff.2 (place_mem_layOut start hat)
  obtain ⟨-, bytes, -, -, -, hbytes⟩ := not_unwritable_iff.1 (hok _ hplaced)
  rw [encoded?_place] at hbytes
  rw [hbytes]
  rfl

theorem concatenates (start : Nat) (sections : List (List Instruction)) :
    Concatenates start sections := by
  intro buffer order h hok
  have henc := h.isSome_encoded? hok
  refine ⟨sections.flatten.map encoded, ?_, fun buffer' order' h' => ?_⟩
  · refine List.forall₂_map_right_iff.2 (List.forall₂_same.2 fun inst hm => ?_)
    obtain ⟨bytes, hbytes⟩ := Option.isSome_iff_exists.1 (henc inst hm)
    rw [encodedAs_iff, encoded, hbytes, Option.getD_some]
  · have hlaid : ∀ inst ∈ (layOut start sections.flatten).1, inst.encoded?.isSome := by
      intro inst hm
      obtain ⟨offset, own, hat, rfl⟩ := mem_layOut.1 hm
      exact henc own hat.mem
    rw [encodeEach_eq, encodeInto_perm (contiguous_layOut start sections.flatten)
      (by rw [h'.size, codeSize_layOut]) h'.flatten_perm hlaid, flatMap_encoded_layOut,
      List.flatMap]

end

/-- What has become of a buffer after writing. -/
theorem changesOnly (base : Nat) (buffer : Array UInt8) (code : List Instruction) :
    ChangesOnly base buffer code (encodeInto base buffer code).1
      (encodeInto base buffer code).2 := by
  have hfails : (∃ cause, (encodeInto base buffer code).2 = .error cause) ↔
      ∃ inst ∈ code, Unwritable base buffer.size inst := by
    have hnot : (∃ cause, (encodeInto base buffer code).2 = .error cause) ↔
        ¬ (encodeInto base buffer code).2 = .ok () := by
      rcases encodeInto base buffer code with ⟨written, cause | _⟩ <;> simp
    rw [hnot, encodeInto_ok_iff]
    simp
  refine ⟨fun ha build => encodeOn_eq build base ha, fun ha build => encodeOn_eq_none_iff build ha,
    size_encodeInto base buffer code, hfails, fun _ position => getElem?_encodeInto,
    fun cause hc => ?_⟩
  obtain ⟨front, bad, rest, rfl, hfront, hbad⟩ := exists_first_unwritable (hfails.1 ⟨cause, hc⟩)
  refine ⟨front, bad, rest, rfl, hfront, hbad, fun position hout => ?_⟩
  rw [encodeInto_append_of_unwritable rest hfront hbad,
    ← encodeInto_append_of_unwritable [] hfront hbad]
  exact getElem?_encodeInto hout

end Encoding

open Encoding

/-- **Writing is exact.**  Sections that are laid out one behind the other are written as the
concatenation of the encodings of their instructions, whatever the buffer held and in whatever
order; and code that is written anywhere changes only the bytes of the instructions up to the first
that cannot be written.  That is reported, unless the end of the instruction has more than 64 bits:
then the program panics. -/
theorem encodeInto_exact (start : Nat) (sections : List (List Instruction)) (base : Nat)
    (buffer : Array UInt8) (code : List Instruction) :
    Concatenates start sections ∧ ChangesOnly base buffer code
      (encodeInto base buffer code).1 (encodeInto base buffer code).2 :=
  ⟨concatenates start sections, changesOnly base buffer code⟩

/-- A STOP at the last offset of 64 bits. -/
def lastStop : Instruction := { opcode := .stop, offset := some (capacity 8 - 1) }

/-- **Not every instruction behind the buffer is reported.**  At the last offset a checked build
panics in the sum, and the end that a wrapping build finds is zero, so that it panics at the
index. -/
theorem panics_at_last_offset : Unwritable 0 4 lastStop ∧ Addressable #[0, 0, 0, 0] [lastStop] ∧
    Build.wrapping.sum? (capacity 8 - 1) lastStop.size = some 0 ∧
      ∀ build, encodeOn build 0 #[0, 0, 0, 0] [lastStop] = none := by
  refine ⟨.behind rfl (by decide), ⟨by decide, by decide, ?_⟩, by decide, fun build => ?_⟩
  · intro inst hm offset ho
    cases List.mem_singleton.1 hm
    cases ho
    decide
  · cases build <;> decide

/-- Two sections that are written in reverse order, into a buffer that is not empty. -/
example : encodeEach 100 #[7, 7, 7, 7]
    (Patcher.layOutAll 100 [[.pushInt (.pushN 2) 9], [.data [0xfe]]]).1.reverse =
      (#[0x61, 0x00, 0x09, 0xfe], .ok ()) := by
  decide

end EvmProbe
