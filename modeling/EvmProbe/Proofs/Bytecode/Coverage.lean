import EvmProbe.Proofs.Bytecode.Instructions
import Mathlib.Data.List.Basic

/-!
What decoding leaves out.

Decoding stops behind a terminator that no JUMPDEST follows (`IsGap`), and drops the open scope
when the last instruction is cut off (`IsCut`).  These are the only ways in which an instruction
gets lost (`Lost`), whether the machine can get to it (`Live`) or not.

* `sweep_eq_none_iff`: the open scope is dropped exactly if an instruction is cut off before the
  next terminator.
* `finds_iff`: a full instruction is decoded exactly if it is not lost.
* `Live.isMark`: what the machine can get to is a mark, or lies behind the end of the code.
-/

namespace EvmProbe.Bytecode

open Disassembly
open Opcode (widthOfByte)

/-! ## Lost instructions -/

/-- A mark is a terminator that something else than a JUMPDEST follows. -/
def IsGap (marks : List (Nat × UInt8)) (mark : Nat × UInt8) : Prop :=
  (Opcode.ofByte mark.2).isTerminator ∧
    ∃ next ∈ marks, next.1 = mark.1 + 1 ∧ next.2 ≠ jumpdestByte

/-- The instruction of a mark reaches behind the end of the code, which is at `stop`. -/
def IsCut (stop : Nat) (mark : Nat × UInt8) : Prop := stop < mark.1 + (1 + widthOfByte mark.2)

/-- There is no terminator from one offset up to another. -/
def RunsOn (marks : List (Nat × UInt8)) (low high : Nat) : Prop :=
  ∀ mark ∈ marks, low ≤ mark.1 → mark.1 < high → ¬ (Opcode.ofByte mark.2).isTerminator

/-- The instruction at an offset is not decoded: decoding stopped at a gap in front of it, or an
instruction behind it is cut off and its scope is still open there. -/
def Lost (marks : List (Nat × UInt8)) (stop offset : Nat) : Prop :=
  (∃ gap ∈ marks, gap.1 < offset ∧ IsGap marks gap) ∨
    ∃ cut ∈ marks, offset < cut.1 ∧ IsCut stop cut ∧ RunsOn marks offset cut.1

instance (marks : List (Nat × UInt8)) (mark : Nat × UInt8) : Decidable (IsGap marks mark) :=
  inferInstanceAs (Decidable (_ ∧ _))

instance (stop : Nat) (mark : Nat × UInt8) : Decidable (IsCut stop mark) :=
  inferInstanceAs (Decidable (_ < _))

instance (marks : List (Nat × UInt8)) (low high : Nat) : Decidable (RunsOn marks low high) :=
  inferInstanceAs (Decidable (∀ mark ∈ marks, _))

instance (marks : List (Nat × UInt8)) (stop offset : Nat) : Decidable (Lost marks stop offset) :=
  inferInstanceAs (Decidable (_ ∨ _))

section
variable {marks : List (Nat × UInt8)} {byte : UInt8} {offset position low high stop : Nat}

theorem runsOn_cons : RunsOn ((offset, byte) :: marks) low high ↔
    (low ≤ offset → offset < high → ¬ (Opcode.ofByte byte).isTerminator) ∧
      RunsOn marks low high :=
  List.forall_mem_cons

/-- A full instruction is not cut off. -/
theorem not_isCut (full : offset + (1 + widthOfByte byte) ≤ stop) : ¬ IsCut stop (offset, byte) :=
  Nat.not_lt.2 full

/-- An instruction in front makes no gap behind it. -/
theorem isGap_cons {mark : Nat × UInt8} (hle : offset ≤ mark.1) :
    IsGap ((offset, byte) :: marks) mark ↔ IsGap marks mark := by
  refine and_congr_right fun _ => ?_
  rw [List.exists_mem_cons_iff, or_iff_right]
  rintro ⟨h, -⟩
  dsimp only at h
  omega

/-- The first instruction is lost if an instruction is cut off before the first terminator. -/
theorem lost_first (hgt : ∀ mark ∈ marks, offset < mark.1)
    (full : offset + (1 + widthOfByte byte) ≤ stop) :
    Lost ((offset, byte) :: marks) stop offset ↔ ¬ (Opcode.ofByte byte).isTerminator ∧
      ∃ cut ∈ marks, IsCut stop cut ∧ RunsOn marks 0 cut.1 := by
  have hgap : ¬ ∃ gap ∈ (offset, byte) :: marks, gap.1 < offset ∧
      IsGap ((offset, byte) :: marks) gap := by
    rintro ⟨gap, hm, hlt, -⟩
    rcases List.mem_cons.1 hm with rfl | hm
    · exact Nat.lt_irrefl _ hlt
    · have := hgt _ hm
      omega
  rw [Lost, or_iff_right hgap, List.exists_mem_cons_iff,
    or_iff_right fun h => not_isCut full h.2.1]
  simp only [runsOn_cons]
  constructor
  · rintro ⟨cut, hm, hlt, hcut, hfirst, hruns⟩
    exact ⟨hfirst (Nat.le_refl _) hlt, cut, hm, hcut,
      fun mark hmark _ hhigh => hruns mark hmark (Nat.le_of_lt (hgt _ hmark)) hhigh⟩
  · rintro ⟨hfirst, cut, hm, hcut, hruns⟩
    exact ⟨cut, hm, hgt _ hm, hcut, fun _ _ => hfirst,
      fun mark hmark _ hhigh => hruns mark hmark (Nat.zero_le _) hhigh⟩

/-- An instruction in front is in the way of all others if it makes a gap. -/
theorem lost_cons (hgt : ∀ mark ∈ marks, offset < mark.1)
    (full : offset + (1 + widthOfByte byte) ≤ stop) (hp : offset < position) :
    Lost ((offset, byte) :: marks) stop position ↔
      IsGap marks (offset, byte) ∨ Lost marks stop position := by
  have hrest : (∃ gap ∈ marks, gap.1 < position ∧ IsGap ((offset, byte) :: marks) gap) ↔
      ∃ gap ∈ marks, gap.1 < position ∧ IsGap marks gap :=
    exists_congr fun gap => and_congr_right fun hm =>
      and_congr_right fun _ => isGap_cons (Nat.le_of_lt (hgt _ hm))
  have hcut : (∃ cut ∈ (offset, byte) :: marks, position < cut.1 ∧ IsCut stop cut ∧
      RunsOn ((offset, byte) :: marks) position cut.1) ↔
      ∃ cut ∈ marks, position < cut.1 ∧ IsCut stop cut ∧ RunsOn marks position cut.1 := by
    rw [List.exists_mem_cons_iff, or_iff_right fun h => not_isCut full h.2.1]
    simp only [runsOn_cons, Nat.not_le.2 hp, false_imp_iff, true_and]
  have hself : IsGap ((offset, byte) :: marks) (offset, byte) ↔ IsGap marks (offset, byte) :=
    isGap_cons (Nat.le_refl offset)
  rw [Lost, Lost, hcut, List.exists_mem_cons_iff, hrest, or_assoc, and_iff_right hp, hself]

end

/-! ## What is decoded -/

/-- The first mark of code is its first byte. -/
theorem mem_marksFrom_first {offset : Nat} {byte : UInt8} {code : Bytes} :
    (offset, byte) ∈ marksFrom offset 0 code ↔ code.head? = some byte := by
  constructor
  · intro h
    have := (getElem?_of_mem_marksFrom h).2
    rwa [Nat.sub_self, ← List.head?_eq_getElem?] at this
  · intro h
    obtain ⟨rest, rfl⟩ := List.head?_eq_some_iff.1 h
    exact List.mem_cons_self

theorem widthOfByte_of_isTerminator {byte : UInt8} (h : (Opcode.ofByte byte).isTerminator) :
    widthOfByte byte = 0 := by
  rw [← Opcode.width_ofByte]
  generalize Opcode.ofByte byte = op at h ⊢
  unfold Opcode.isTerminator at h
  split at h <;> first | rfl | cases h

/-- Whether decoding goes on at code: a scope is open, or a JUMPDEST opens one. -/
def Entered (isOpen : Bool) (code : Bytes) : Prop :=
  isOpen = false → code.head? = some jumpdestByte

theorem entered_true (code : Bytes) : Entered true code := nofun

theorem entered_cons {isOpen : Bool} {byte : UInt8} {code : Bytes} : Entered isOpen (byte :: code) ↔
    ¬ (!isOpen && Opcode.ofByte byte != .jumpdest) = true := by
  cases isOpen <;> simp [Entered, ofByte_eq_jumpdest]

section
variable {isOpen : Bool} {scope : Scope} {code : Bytes} {offset position : Nat} {byte : UInt8}

/-- The marks of code behind an instruction lie behind it. -/
theorem lt_of_mem_marksFrom {width : Nat} {mark : Nat × UInt8}
    (h : mark ∈ marksFrom (offset + (1 + width)) 0 code) : offset < mark.1 := by
  have := (getElem?_of_mem_marksFrom h).1
  omega

theorem stop_step {b : UInt8} {immediate : Bytes} (full : immediate.length = widthOfByte b)
    (offset : Nat) (rest : Bytes) : offset + (b :: (immediate ++ rest)).length =
      offset + (1 + widthOfByte b) + rest.length := by
  simp only [List.length_cons, List.length_append, full]
  omega

/-- **The open scope is dropped exactly if an instruction is cut off before the next
terminator.** -/
theorem sweep_eq_none_iff : sweep isOpen scope offset 0 code = none ↔ Entered isOpen code ∧
    ∃ cut ∈ marksFrom offset 0 code, IsCut (offset + code.length) cut ∧
      RunsOn (marksFrom offset 0 code) 0 cut.1 := by
  induction swept code generalizing isOpen scope offset with
  | nil => simp [sweep]
  | @cut byte immediate short =>
    have hj : ¬ Opcode.ofByte byte = .jumpdest := by
      rw [ofByte_eq_jumpdest]
      rintro rfl
      simp [widthOfByte, jumpdestByte] at short
    have hcut : ∃ cut ∈ [(offset, byte)], IsCut (offset + (byte :: immediate).length) cut ∧
        RunsOn [(offset, byte)] 0 cut.1 := by
      refine ⟨(offset, byte), by simp, ?_, fun mark hm _ hhigh => ?_⟩
      · simp only [IsCut, List.length_cons]
        omega
      · rw [List.mem_singleton.1 hm] at hhigh
        exact absurd hhigh (Nat.lt_irrefl _)
    rw [sweep_cut _ _ _ short, marksFrom_cut short, entered_cons, and_iff_left hcut]
    cases isOpen <;> simp [hj]
  | @step byte immediate rest full _ ih =>
    rw [sweep_step _ _ _ _ full, marksFrom_step full, entered_cons, stop_step full]
    rw [List.exists_mem_cons_iff, or_iff_right fun h => not_isCut (Nat.le_add_right _ _) h.1]
    simp only [runsOn_cons]
    split
    · next h => simp [h]
    · next h =>
      split
      · next ht =>
        refine iff_of_false (by simp) ?_
        rintro ⟨-, cut, hm, -, hfirst, -⟩
        exact hfirst (Nat.zero_le _) (lt_of_mem_marksFrom hm) ht
      · next ht =>
        rw [Option.map_eq_none_iff, ih, and_iff_right (entered_true _), and_iff_right h]
        exact exists_congr fun cut => and_congr_right fun _ => and_congr_right fun _ =>
          (and_iff_right fun _ _ => ht).symm

/-- A terminator makes a gap if decoding does not go on behind it. -/
theorem isGap_marksFrom (ht : (Opcode.ofByte byte).isTerminator) (hne : code ≠ []) :
    IsGap (marksFrom (offset + (1 + widthOfByte byte)) 0 code) (offset, byte) ↔
      ¬ Entered false code := by
  obtain ⟨first, rest, rfl⟩ := List.exists_cons_of_ne_nil hne
  rw [widthOfByte_of_isTerminator ht, Nat.add_zero, IsGap, and_iff_right ht]
  have hfirst : ¬ Entered false (first :: rest) ↔ first ≠ jumpdestByte := by simp [Entered]
  rw [hfirst]
  constructor
  · rintro ⟨⟨o, next⟩, hm, ho, hnext⟩
    dsimp only at ho
    subst ho
    rwa [Option.some.inj (mem_marksFrom_first.1 hm)]
  · exact fun h => ⟨(offset + 1, first), mem_marksFrom_first.2 rfl, rfl, h⟩

/-- Decoding code that starts at an offset gives an instruction at a position. -/
def Finds (isOpen : Bool) (scope : Scope) (offset : Nat) (code : Bytes) (position : Nat) : Prop :=
  ∃ program, sweep isOpen scope offset 0 code = some program ∧
    ∃ inst ∈ program, inst.source = some position

/-- The first instruction is given if its scope is closed by it or is not dropped behind it. -/
theorem finds_first {immediate rest : Bytes} (full : immediate.length = widthOfByte byte) :
    Finds isOpen scope offset (byte :: (immediate ++ rest)) offset ↔
      Entered isOpen (byte :: (immediate ++ rest)) ∧ ((Opcode.ofByte byte).isTerminator ∨
        sweep true scope (offset + (1 + widthOfByte byte)) 0 rest ≠ none) := by
  rw [Finds, sweep_step _ _ _ _ full, entered_cons]
  split
  · next h => simp [h]
  · next h =>
    rw [and_iff_right h]
    dsimp only
    split
    · next ht => simp [ht, decode]
    · next ht =>
      rw [or_iff_right ht]
      cases sweep true scope (offset + (1 + widthOfByte byte)) 0 rest with
      | none => simp
      | some behind => simp [decode]

/-- An instruction behind the first is given by decoding what is behind it. -/
theorem finds_behind {immediate rest : Bytes} (full : immediate.length = widthOfByte byte)
    (hlt : offset < position) :
    Finds isOpen scope offset (byte :: (immediate ++ rest)) position ↔
      Entered isOpen (byte :: (immediate ++ rest)) ∧
        if (Opcode.ofByte byte).isTerminator then
          Finds false (scope.after 1) (offset + (1 + widthOfByte byte)) rest position
        else Finds true scope (offset + (1 + widthOfByte byte)) rest position := by
  have hne : offset ≠ position := Nat.ne_of_lt hlt
  rw [Finds, sweep_step _ _ _ _ full, entered_cons]
  split
  · next h => simp [h]
  · next h =>
    rw [and_iff_right h]
    dsimp only
    split
    · rw [Finds]
      cases sweep false (scope.after 1) (offset + (1 + widthOfByte byte)) 0 rest <;>
        simp [decode, hne]
    · rw [Finds]
      cases sweep true scope (offset + (1 + widthOfByte byte)) 0 rest <;> simp [decode, hne]

/-- **A full instruction is decoded exactly if it is not lost.** -/
theorem finds_iff (hm : (position, byte) ∈ marksFrom offset 0 code)
    (hfull : position + (1 + widthOfByte byte) ≤ offset + code.length) :
    Finds isOpen scope offset code position ↔
      Entered isOpen code ∧ ¬ Lost (marksFrom offset 0 code) (offset + code.length) position := by
  induction swept code generalizing isOpen scope offset with
  | nil => simp at hm
  | @cut b immediate short =>
    rw [marksFrom_cut short, List.mem_singleton, Prod.mk.injEq] at hm
    obtain ⟨rfl, rfl⟩ := hm
    simp only [List.length_cons] at hfull
    omega
  | @step b immediate rest full _ ih =>
    have hgt (mark : Nat × UInt8) (h : mark ∈ marksFrom (offset + (1 + widthOfByte b)) 0 rest) :
        offset < mark.1 := lt_of_mem_marksFrom h
    rw [stop_step full] at hfull
    rw [marksFrom_step full, List.mem_cons] at hm
    rw [marksFrom_step full, stop_step full]
    rcases hm with hm | hm
    · -- the first instruction
      obtain ⟨rfl, rfl⟩ := Prod.mk.inj hm
      rw [finds_first full, lost_first hgt (Nat.le_add_right _ _), Ne, sweep_eq_none_iff,
        and_iff_right (entered_true rest)]
      exact and_congr_right fun _ => by rw [not_and_or, not_not]
    · -- an instruction behind it
      have hlt := hgt _ hm
      rw [finds_behind full hlt, lost_cons hgt (Nat.le_add_right _ _) hlt]
      refine and_congr_right fun _ => ?_
      split
      · next ht =>
        rw [isGap_marksFrom ht (by rintro rfl; simp at hm), not_or, not_not]
        exact ih hm hfull
      · next ht =>
        rw [or_iff_right fun h => ht h.1, ih hm hfull, and_iff_right (entered_true rest)]

end

/-- An instruction is decoded exactly if it is not lost. -/
theorem exists_decoded_iff {scope : Scope} {code : Bytes} {offset : Nat} {byte : UInt8}
    (hm : (offset, byte) ∈ marks code) (hfull : offset + (1 + widthOfByte byte) ≤ code.length) :
    (∃ inst ∈ disassemble scope code, inst.source = some offset) ↔
      ¬ Lost (marks code) code.length offset := by
  have h := @finds_iff true scope _ _ _ _ hm (by omega)
  rw [and_iff_right (entered_true _), Nat.zero_add] at h
  rw [marks, ← h, disassemble, Finds]
  cases sweep true scope 0 0 code <;> simp

/-! ## What the machine can get to -/

/-- The machine can get to an offset of code, whatever is on its stack: at the start, by a jump, or
from the instruction in front. -/
inductive Live (code : Bytes) : Nat → Prop where
  | start : Live code 0
  | destination {offset : Nat} (h : IsDestination code offset) : Live code offset
  | next {offset : Nat} {byte : UInt8} (h : Live code offset) (hb : code[offset]? = some byte)
      (ht : ¬ (Opcode.ofByte byte).isTerminator) : Live code (offset + (1 + widthOfByte byte))

/-- Behind a full instruction there is a mark, unless the code ends there. -/
theorem exists_mem_marksFrom_next {code : Bytes} {offset position : Nat} {byte : UInt8}
    (hm : (position, byte) ∈ marksFrom offset 0 code)
    (hlt : position + (1 + widthOfByte byte) < offset + code.length) :
    ∃ next, (position + (1 + widthOfByte byte), next) ∈ marksFrom offset 0 code := by
  induction swept code generalizing offset with
  | nil => simp at hm
  | @cut b immediate short =>
    rw [marksFrom_cut short, List.mem_singleton, Prod.mk.injEq] at hm
    obtain ⟨rfl, rfl⟩ := hm
    simp only [List.length_cons] at hlt
    omega
  | @step b immediate rest full _ ih =>
    rw [stop_step full] at hlt
    rw [marksFrom_step full] at hm ⊢
    rcases List.mem_cons.1 hm with hm | hm
    · obtain ⟨rfl, rfl⟩ := Prod.mk.inj hm
      cases rest with
      | nil => simp at hlt
      | cons next rest => exact ⟨next, List.mem_cons_of_mem _ (mem_marksFrom_first.2 rfl)⟩
    · obtain ⟨next, h⟩ := ih hm hlt
      exact ⟨next, List.mem_cons_of_mem _ h⟩

/-- **What the machine can get to within the code is a mark.** -/
theorem Live.isMark {code : Bytes} {offset : Nat} (h : Live code offset)
    (hlt : offset < code.length) : IsMark code offset := by
  induction h with
  | start =>
    obtain ⟨byte, rest, rfl⟩ := List.exists_cons_of_length_pos hlt
    exact List.mem_map.2 ⟨(0, byte), mem_marksFrom_first.2 rfl, rfl⟩
  | destination h => exact h.isMark
  | @next offset byte _ hb _ ih =>
    obtain ⟨⟨_, b⟩, hm, rfl⟩ := List.mem_map.1 (ih (by omega))
    have hbyte : b = byte := Option.some.inj ((getElem?_of_mem_marks hm).symm.trans hb)
    subst hbyte
    obtain ⟨next, hn⟩ := exists_mem_marksFrom_next hm (by omega)
    exact List.mem_map.2 ⟨_, hn, rfl⟩

end EvmProbe.Bytecode
