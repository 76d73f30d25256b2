import EvmProbe.Opcode
import Mathlib.Algebra.Ring.Nat
import Mathlib.Tactic.Common

/-!
The marks of code: the offsets at which an instruction starts.

Code is read from offset zero, every byte together with the immediate bytes behind it; each byte so
reached is a mark.  A jump may go to a mark that is a JUMPDEST (`IsDestination`).

* `swept`: all code is instructions one behind the other, of which the last may be cut off; proofs
  about marks are by induction on this.
* `marksFrom_step`, `marksFrom_cut`: the marks of code that starts with an instruction.
* `marksFrom_padded`: 32 zeros behind any code bring the marks back in step.
-/

namespace EvmProbe.Bytecode

open Opcode (widthOfByte widthOfByte_le)

/-- The byte of JUMPDEST. -/
def jumpdestByte : UInt8 := 0x5b

theorem ofByte_eq_jumpdest {byte : UInt8} :
    Opcode.ofByte byte = .jumpdest ↔ byte = jumpdestByte := by
  refine ⟨fun h => ?_, fun h => by rw [h]; rfl⟩
  have := Opcode.toByte?_ofByte byte
  rw [h] at this
  exact (Option.some.inj this).symm

/-- The marks of code from `offset` on, with their bytes; `skip` immediate bytes come first. -/
def marksFrom : (offset skip : Nat) → Bytes → List (Nat × UInt8)
  | _, _, [] => []
  | offset, skip + 1, _ :: rest => marksFrom (offset + 1) skip rest
  | offset, 0, byte :: rest => (offset, byte) :: marksFrom (offset + 1) (widthOfByte byte) rest

/-- The marks of code, with their bytes. -/
def marks (code : Bytes) : List (Nat × UInt8) := marksFrom 0 0 code

/-- Whether an offset is a mark. -/
def IsMark (code : Bytes) (offset : Nat) : Prop := offset ∈ (marks code).map (·.1)

/-- Whether a jump may go to an offset. -/
def IsDestination (code : Bytes) (offset : Nat) : Prop := (offset, jumpdestByte) ∈ marks code

instance (code : Bytes) (offset : Nat) : Decidable (IsMark code offset) :=
  inferInstanceAs (Decidable (offset ∈ (marks code).map (·.1)))

instance (code : Bytes) (offset : Nat) : Decidable (IsDestination code offset) :=
  inferInstanceAs (Decidable ((offset, jumpdestByte) ∈ marks code))

/-! ## Code as instructions -/

/-- Code is empty, a single instruction that is cut off, or an instruction with code behind it. -/
inductive Swept : Bytes → Prop where
  | nil : Swept []
  | cut {byte : UInt8} {immediate : Bytes} (short : immediate.length < widthOfByte byte) :
      Swept (byte :: immediate)
  | step {byte : UInt8} {immediate rest : Bytes} (full : immediate.length = widthOfByte byte)
      (behind : Swept rest) : Swept (byte :: (immediate ++ rest))

/-- **All code is instructions one behind the other, of which the last may be cut off.** -/
theorem swept (code : Bytes) : Swept code := by
  induction h : code.length using Nat.strongRecOn generalizing code with
  | ind n ih =>
    cases code with
    | nil => exact .nil
    | cons byte rest =>
      by_cases hw : rest.length < widthOfByte byte
      · exact .cut hw
      · have hr := ih (rest.drop (widthOfByte byte)).length (by simp at h ⊢; omega) _ rfl
        have hstep : Swept (byte ::
            (rest.take (widthOfByte byte) ++ rest.drop (widthOfByte byte))) :=
          .step (by simp; omega) hr
        rwa [List.take_append_drop] at hstep

/-! ## The marks of instructions -/

@[simp] theorem marksFrom_nil (offset skip : Nat) : marksFrom offset skip [] = [] := by
  cases skip <;> rfl

/-- Immediate bytes are passed over. -/
theorem marksFrom_skip (offset : Nat) (immediate rest : Bytes) :
    marksFrom offset immediate.length (immediate ++ rest) =
      marksFrom (offset + immediate.length) 0 rest := by
  induction immediate generalizing offset with
  | nil => simp
  | cons byte immediate ih =>
    rw [List.length_cons, List.cons_append, marksFrom, ih]
    congr 1; omega

theorem marksFrom_of_le {offset skip : Nat} {code : Bytes} (h : code.length ≤ skip) :
    marksFrom offset skip code = [] := by
  induction code generalizing offset skip with
  | nil => simp
  | cons byte code ih =>
    obtain ⟨skip, rfl⟩ : ∃ n, skip = n + 1 := ⟨skip - 1, by simp at h; omega⟩
    rw [marksFrom, ih (by simpa using h)]

/-- An instruction has one mark, and the next one lies behind its immediate bytes. -/
theorem marksFrom_step {byte : UInt8} {immediate : Bytes}
    (full : immediate.length = widthOfByte byte) (offset : Nat) (rest : Bytes) :
    marksFrom offset 0 (byte :: (immediate ++ rest)) =
      (offset, byte) :: marksFrom (offset + (1 + widthOfByte byte)) 0 rest := by
  rw [marksFrom, ← full, marksFrom_skip, Nat.add_assoc]

/-- An instruction that is cut off has one mark, and there is none behind it. -/
theorem marksFrom_cut {byte : UInt8} {immediate : Bytes}
    (short : immediate.length < widthOfByte byte) (offset : Nat) :
    marksFrom offset 0 (byte :: immediate) = [(offset, byte)] := by
  rw [marksFrom, marksFrom_of_le (Nat.le_of_lt short)]

/-- A mark holds its byte. -/
theorem getElem?_of_mem_marksFrom {code : Bytes} {offset position : Nat} {byte : UInt8}
    (h : (position, byte) ∈ marksFrom offset 0 code) :
    offset ≤ position ∧ code[position - offset]? = some byte := by
  induction swept code generalizing offset with
  | nil => simp at h
  | cut short =>
    rw [marksFrom_cut short] at h
    simp only [List.mem_singleton, Prod.mk.injEq] at h
    simp [h]
  | @step b immediate rest full _ ih =>
    rw [marksFrom_step full] at h
    rcases List.mem_cons.1 h with h | h
    · simp only [Prod.mk.injEq] at h
      simp [h]
    · obtain ⟨hle, hget⟩ := ih h
      have hp : position - offset =
          position - (offset + (1 + widthOfByte b)) + immediate.length + 1 := by omega
      refine ⟨by omega, ?_⟩
      rw [hp, List.getElem?_cons_succ, List.getElem?_append_right (by omega)]
      simpa using hget

theorem getElem?_of_mem_marks {code : Bytes} {position : Nat} {byte : UInt8}
    (h : (position, byte) ∈ marks code) : code[position]? = some byte :=
  (getElem?_of_mem_marksFrom h).2

theorem IsDestination.isMark {code : Bytes} {offset : Nat} (h : IsDestination code offset) :
    IsMark code offset :=
  List.mem_map.2 ⟨_, h, rfl⟩

/-- A destination is a word, as long as the code is no longer than there are words. -/
theorem toNat_ofNat_of_isDestination {code : Bytes} {offset : Nat} (hsize : code.length ≤ 2 ^ 256)
    (h : IsDestination code offset) : (BitVec.ofNat 256 offset).toNat = offset := by
  have := (List.getElem?_eq_some_iff.1 (getElem?_of_mem_marks h)).1
  exact Nat.mod_eq_of_lt (by omega)

/-! ## Padding -/

private theorem marksFrom_zeros (offset count : Nat) (rest : Bytes) :
    ∃ before, marksFrom offset 0 (List.replicate count 0 ++ rest) =
        before ++ marksFrom (offset + count) 0 rest ∧ ∀ m ∈ before, m.1 < offset + count := by
  induction count generalizing offset with
  | zero => exact ⟨[], by simp⟩
  | succ count ih =>
    obtain ⟨before, heq, hlt⟩ := ih (offset + 1)
    refine ⟨(offset, 0) :: before, ?_, ?_⟩
    · have hw : widthOfByte 0 = 0 := rfl
      rw [List.replicate_succ, List.cons_append, marksFrom, hw, heq, List.cons_append]
      congr 3; omega
    · intro m hm
      rcases List.mem_cons.1 hm with rfl | hm
      · show offset < _
        omega
      · have := hlt m hm
        omega

/-- **32 zeros behind any code bring the marks back in step**: behind the zeros, the marks are
those of what follows. The immediate bytes of a last instruction reach no further. -/
theorem marksFrom_padded {skip : Nat} (hs : skip ≤ 32) (offset : Nat) (code rest : Bytes) :
    ∃ before, marksFrom offset skip (code ++ (List.replicate 32 0 ++ rest)) =
        before ++ marksFrom (offset + code.length + 32) 0 rest ∧
      ∀ m ∈ before, m.1 < offset + code.length + 32 := by
  induction code generalizing offset skip with
  | nil =>
    obtain ⟨before, heq, hlt⟩ := marksFrom_zeros (offset + skip) (32 - skip) rest
    have hsplit : List.replicate 32 (0 : UInt8) =
        List.replicate skip 0 ++ List.replicate (32 - skip) 0 := by
      rw [List.replicate_append_replicate]; congr 1; omega
    have hskip := marksFrom_skip offset (List.replicate skip 0)
      (List.replicate (32 - skip) 0 ++ rest)
    rw [List.length_replicate] at hskip
    have hend : offset + skip + (32 - skip) = offset + 32 := by omega
    refine ⟨before, ?_, ?_⟩
    · rw [List.nil_append, hsplit, List.append_assoc, hskip, heq, hend]; rfl
    · simpa [hend] using hlt
  | cons byte code ih =>
    have hlen : offset + (byte :: code).length + 32 = offset + 1 + code.length + 32 := by
      simp; omega
    rw [hlen, List.cons_append]
    cases skip with
    | zero =>
      obtain ⟨before, heq, hlt⟩ := ih (widthOfByte_le byte) (offset + 1)
      refine ⟨(offset, byte) :: before, by rw [marksFrom, heq, List.cons_append], ?_⟩
      intro m hm
      rcases List.mem_cons.1 hm with rfl | hm
      · show offset < _
        omega
      · exact hlt m hm
    | succ skip =>
      obtain ⟨before, heq, hlt⟩ := ih (Nat.le_of_succ_le hs) (offset + 1)
      exact ⟨before, by rw [marksFrom, heq], hlt⟩

end EvmProbe.Bytecode
