import EvmProbe.Proofs.Bytecode.Coverage
import Mathlib.Data.List.DropRight
import Mathlib.Data.List.Forall2

/-!
What decoding delivers: the marks of the code, up to the last scope that is complete.

The marks are met one behind the other (`FollowsUp`).  A mark is a stop if its instruction is cut
off, or if it stands behind a terminator and is no JUMPDEST (`IsStop`).  In front of the first stop,
what stands behind the last terminator belongs to a scope that is not complete, and is left out
(`delivered`).

* `followsUp_marks`: the first mark is at zero, and each mark decides where the next one is.
* `mem_delivered_iff`: what is delivered is what is full and not lost.
* `completeScopes_disassemble`: decoded code is what is delivered, one instruction for each mark.
-/

namespace EvmProbe.Bytecode

open Opcode (widthOfByte)

/-! ## From mark to mark -/

/-- Marks are met from the start of code on, each behind the immediate bytes of the one before it,
up to the end of the code. -/
structure FollowsUp (code : Bytes) (marks : List (Nat × UInt8)) : Prop where
  first : marks[0]? = code[0]?.map (0, ·)
  next : ∀ (i : Nat) (position : Nat) (byte : UInt8), marks[i]? = some (position, byte) →
    marks[i + 1]? = code[position + (1 + widthOfByte byte)]?.map
      (position + (1 + widthOfByte byte), ·)

theorem marksFrom_first (offset : Nat) (code : Bytes) :
    (marksFrom offset 0 code)[0]? = code[0]?.map (offset, ·) := by
  cases code <;> rfl

theorem marksFrom_next {code : Bytes} {offset i position : Nat} {byte : UInt8}
    (h : (marksFrom offset 0 code)[i]? = some (position, byte)) :
    (marksFrom offset 0 code)[i + 1]? = code[position - offset + (1 + widthOfByte byte)]?.map
      (position + (1 + widthOfByte byte), ·) := by
  induction swept code generalizing offset i with
  | nil => simp at h
  | @cut b immediate short =>
    rw [marksFrom_cut short] at h ⊢
    obtain ⟨hi, hm⟩ := List.getElem?_eq_some_iff.1 h
    obtain rfl : i = 0 := by simpa using hi
    obtain ⟨rfl, rfl⟩ := Prod.mk.inj hm
    rw [List.getElem?_eq_none (by simp), List.getElem?_eq_none (by simp; omega), Option.map_none]
  | @step b immediate rest full _ ih =>
    rw [marksFrom_step full] at h ⊢
    cases i with
    | zero =>
      obtain ⟨rfl, rfl⟩ := Prod.mk.inj (Option.some.inj h)
      rw [List.getElem?_cons_succ, marksFrom_first, Nat.sub_self, Nat.zero_add, Nat.add_comm 1,
        List.getElem?_cons_succ, List.getElem?_append_right (by omega), full, Nat.sub_self]
    | succ i =>
      rw [List.getElem?_cons_succ] at h ⊢
      have hle := (getElem?_of_mem_marksFrom (List.mem_of_getElem? h)).1
      have hposition : position - offset + (1 + widthOfByte byte) =
          position - (offset + (1 + widthOfByte b)) + (1 + widthOfByte byte) +
            immediate.length + 1 := by
        omega
      rw [ih h, hposition, List.getElem?_cons_succ, List.getElem?_append_right (by omega),
        Nat.add_sub_cancel]

/-- **The marks of code are met one behind the other.** -/
theorem followsUp_marks (code : Bytes) : FollowsUp code (marks code) where
  first := marksFrom_first 0 code
  next _ _ _ h := marksFrom_next h

theorem pairwise_marksFrom (offset : Nat) (code : Bytes) :
    (marksFrom offset 0 code).Pairwise fun a b => a.1 < b.1 := by
  induction swept code generalizing offset with
  | nil => exact .nil
  | cut short =>
    rw [marksFrom_cut short]
    exact List.pairwise_singleton _ _
  | step full _ ih =>
    rw [marksFrom_step full]
    exact List.pairwise_cons.2 ⟨fun _ => lt_of_mem_marksFrom, ih _⟩

/-- An instruction that is cut off is the last one. -/
theorem le_of_isCut {code : Bytes} {offset : Nat} {cut mark : Nat × UInt8}
    (hcut : cut ∈ marksFrom offset 0 code) (h : IsCut (offset + code.length) cut)
    (hm : mark ∈ marksFrom offset 0 code) : mark.1 ≤ cut.1 := by
  induction swept code generalizing offset with
  | nil => simp at hm
  | cut short =>
    rw [marksFrom_cut short, List.mem_singleton] at hcut hm
    rw [hcut, hm]
  | step full _ ih =>
    rw [stop_step full] at h
    rw [marksFrom_step full, List.mem_cons] at hcut hm
    rcases hcut with rfl | hcut
    · exact absurd h (not_isCut (Nat.le_add_right _ _))
    · rcases hm with rfl | hm
      · exact Nat.le_of_lt (lt_of_mem_marksFrom hcut)
      · exact ih hcut h hm

/-- There is one mark at a position. -/
theorem eq_of_mem_marks {code : Bytes} {a b : Nat × UInt8} (ha : a ∈ marks code)
    (hb : b ∈ marks code) (h : a.1 = b.1) : a = b := by
  have heq := getElem?_of_mem_marks ha
  rw [h, getElem?_of_mem_marks hb, Option.some.injEq] at heq
  exact Prod.ext h heq.symm

/-! ## Lists of marks in order -/

section
variable {marks : List (Nat × UInt8)} (sorted : marks.Pairwise fun a b => a.1 < b.1)
  {mark : Nat × UInt8} {p : Nat × UInt8 → Bool}
include sorted

/-- What is in front of the first mark that fails a test. -/
theorem mem_takeWhile_iff : mark ∈ marks.takeWhile p ↔
    mark ∈ marks ∧ ∀ earlier ∈ marks, earlier.1 ≤ mark.1 → p earlier := by
  induction marks with
  | nil => simp
  | cons first marks ih =>
    obtain ⟨hlt, hsorted⟩ := List.pairwise_cons.1 sorted
    rw [List.takeWhile_cons]
    split
    · next hp =>
      rw [List.mem_cons, List.mem_cons, ih hsorted, List.forall_mem_cons]
      constructor
      · rintro (rfl | ⟨hm, hall⟩)
        · exact ⟨.inl rfl, fun _ => hp,
            fun earlier he hle => absurd (hlt _ he) (Nat.not_lt.2 hle)⟩
        · exact ⟨.inr hm, fun _ => hp, hall⟩
      · rintro ⟨hm, -, hall⟩
        exact hm.imp_right fun hm => ⟨hm, hall⟩
    · next hp =>
      refine iff_of_false (by simp) fun ⟨hm, hall⟩ => hp (hall first List.mem_cons_self ?_)
      rcases List.mem_cons.1 hm with rfl | hm
      · exact Nat.le_refl _
      · exact Nat.le_of_lt (hlt _ hm)

/-- What is left up to the last mark that fails a test. -/
theorem mem_rdropWhile_iff : mark ∈ marks.rdropWhile p ↔
    mark ∈ marks ∧ ∃ last ∈ marks, mark.1 ≤ last.1 ∧ ¬ p last := by
  induction marks using List.reverseRecOn with
  | nil => simp
  | append_singleton marks final ih =>
    obtain ⟨hsorted, -, hlt⟩ := List.pairwise_append.1 sorted
    rw [List.rdropWhile_concat]
    split
    · next hp =>
      rw [ih hsorted]
      constructor
      · rintro ⟨hm, last, hl, hle, hn⟩
        exact ⟨List.mem_append_left _ hm, last, List.mem_append_left _ hl, hle, hn⟩
      · rintro ⟨hm, last, hl, hle, hn⟩
        -- the last mark passes the test, so that it is neither `last` nor in front of it
        have hl : last ∈ marks := by
          rcases List.mem_append.1 hl with hl | hl
          · exact hl
          · rw [List.mem_singleton.1 hl] at hn
            exact absurd hp hn
        rcases List.mem_append.1 hm with hm | hm
        · exact ⟨hm, last, hl, hle, hn⟩
        · have := hlt last hl mark hm
          omega
    · next hp =>
      refine ⟨fun hm => ⟨hm, final, by simp, ?_, hp⟩, fun h => h.1⟩
      rcases List.mem_append.1 hm with hm | hm
      · exact Nat.le_of_lt (hlt mark hm final (by simp))
      · rw [List.mem_singleton.1 hm]

end

/-! ## What is delivered -/

/-- A mark that stops decoding: its instruction is cut off, or it stands behind a terminator and is
no JUMPDEST. -/
def IsStop (code : Bytes) (mark : Nat × UInt8) : Prop :=
  IsCut code.length mark ∨ mark.2 ≠ jumpdestByte ∧
    ∃ before ∈ marks code, (Opcode.ofByte before.2).isTerminator ∧ mark.1 = before.1 + 1

instance (code : Bytes) (mark : Nat × UInt8) : Decidable (IsStop code mark) :=
  inferInstanceAs (Decidable (_ ∨ _))

/-- The marks of the instructions that decoding delivers: all of them if there is no stop, and else
those in front of the first stop, up to the last terminator. -/
def delivered (code : Bytes) : List (Nat × UInt8) :=
  if ∃ mark ∈ marks code, IsStop code mark then
    ((marks code).takeWhile fun mark => ¬ IsStop code mark).rdropWhile fun mark =>
      ¬ (Opcode.ofByte mark.2).isTerminator
  else marks code

section
variable {code : Bytes} {mark next gap : Nat × UInt8}

/-- What stands behind a gap is a stop. -/
theorem isStop_of_isGap (hgap : gap ∈ marks code) (hterm : (Opcode.ofByte gap.2).isTerminator)
    (hnext : next.1 = gap.1 + 1) (hne : next.2 ≠ jumpdestByte) : IsStop code next :=
  .inr ⟨hne, gap, hgap, hterm, hnext⟩

/-- Without a stop, nothing is lost. -/
theorem not_lost_of_no_stop (hnone : ∀ mark ∈ marks code, ¬ IsStop code mark) (offset : Nat) :
    ¬ Lost (marks code) code.length offset := by
  rintro (⟨gap, hgap, -, hterm, next, hnext, heq, hne⟩ | ⟨cut, hm, -, hcut, -⟩)
  · exact hnone next hnext (isStop_of_isGap hgap hterm heq hne)
  · exact hnone cut hm (.inl hcut)

/-- What a terminator closes off in front of the first stop is full and not lost. -/
theorem not_lost_of_closed {last : Nat × UInt8} (hlast : last ∈ marks code)
    (hterm : (Opcode.ofByte last.2).isTerminator) (hle : mark.1 ≤ last.1)
    (hnone : ∀ earlier ∈ marks code, earlier.1 ≤ last.1 → ¬ IsStop code earlier) :
    ¬ Lost (marks code) code.length mark.1 := by
  rintro (⟨gap, hgap, hlt, hgapped, next, hnext, heq, hne⟩ | ⟨cut, hm, hlt, hcut, hruns⟩)
  · exact hnone next hnext (by omega) (isStop_of_isGap hgap hgapped heq hne)
  · rcases Nat.lt_or_ge last.1 cut.1 with h | h
    · exact hruns last hlast hle h hterm
    · exact hnone cut hm h (.inl hcut)

/-- What is full and not lost is closed off by a terminator in front of the first stop. -/
theorem exists_closed (hm : mark ∈ marks code) (hfull : ¬ IsCut code.length mark)
    (hlost : ¬ Lost (marks code) code.length mark.1) {stop : Nat × UInt8}
    (hs : stop ∈ marks code) (hstop : IsStop code stop)
    (hfirst : ∀ earlier ∈ marks code, earlier.1 < stop.1 → ¬ IsStop code earlier) :
    ∃ last ∈ marks code, (Opcode.ofByte last.2).isTerminator ∧ mark.1 ≤ last.1 ∧
      ∀ earlier ∈ marks code, earlier.1 ≤ last.1 → ¬ IsStop code earlier := by
  rw [Lost, not_or] at hlost
  rcases hstop with hcut | ⟨hne, gap, hgap, hterm, heq⟩
  · -- the stop is cut off, so that it is the last mark, and a terminator stands in front of it
    have hle : mark.1 ≤ stop.1 := le_of_isCut hs (by rwa [Nat.zero_add]) hm
    have hlt : mark.1 < stop.1 := by
      refine Nat.lt_of_le_of_ne hle fun h => hfull ?_
      rwa [eq_of_mem_marks hm hs h]
    have hruns : ¬ RunsOn (marks code) mark.1 stop.1 :=
      fun hruns => hlost.2 ⟨stop, hs, hlt, hcut, hruns⟩
    rw [RunsOn] at hruns
    push Not at hruns
    obtain ⟨last, hl, hle, hlt, hterm⟩ := hruns
    exact ⟨last, hl, hterm, hle, fun earlier he h => hfirst earlier he (by omega)⟩
  · -- the stop stands behind a terminator, and nothing behind that is kept
    refine ⟨gap, hgap, hterm, ?_, fun earlier he h => hfirst earlier he (by omega)⟩
    by_contra hlt
    exact hlost.1 ⟨gap, hgap, by omega, hterm, stop, hs, heq, hne⟩

theorem exists_first_stop (h : ∃ mark ∈ marks code, IsStop code mark) :
    ∃ stop ∈ marks code, IsStop code stop ∧
      ∀ earlier ∈ marks code, earlier.1 < stop.1 → ¬ IsStop code earlier := by
  obtain ⟨mark, hm, hs⟩ := h
  induction hk : mark.1 using Nat.strongRecOn generalizing mark with
  | ind k ih =>
    by_cases hfirst : ∃ earlier ∈ marks code, earlier.1 < mark.1 ∧ IsStop code earlier
    · obtain ⟨earlier, he, hlt, hse⟩ := hfirst
      exact ih _ (hk ▸ hlt) earlier he hse rfl
    · push Not at hfirst
      exact ⟨mark, hm, hs, hfirst⟩

/-- **What is delivered is what is full and not lost.** -/
theorem mem_delivered_iff : mark ∈ delivered code ↔ mark ∈ marks code ∧
    ¬ IsCut code.length mark ∧ ¬ Lost (marks code) code.length mark.1 := by
  have hsorted : (marks code).Pairwise fun a b => a.1 < b.1 := pairwise_marksFrom 0 code
  rw [delivered]
  split
  · next h =>
    obtain ⟨stop, hs, hstop, hfirst⟩ := exists_first_stop h
    rw [mem_rdropWhile_iff (hsorted.sublist (List.takeWhile_sublist _)), mem_takeWhile_iff hsorted]
    simp only [mem_takeWhile_iff hsorted, decide_eq_true_eq, not_not]
    constructor
    · rintro ⟨⟨hm, hnone⟩, last, ⟨hl, hbefore⟩, hle, hterm⟩
      exact ⟨hm, fun hcut => hnone mark hm (Nat.le_refl _) (.inl hcut),
        not_lost_of_closed hl hterm hle hbefore⟩
    · rintro ⟨hm, hfull, hlost⟩
      obtain ⟨last, hl, hterm, hle, hnone⟩ := exists_closed hm hfull hlost hs hstop hfirst
      exact ⟨⟨hm, fun earlier he h => hnone earlier he (Nat.le_trans h hle)⟩, last, ⟨hl, hnone⟩,
        hle, hterm⟩
  · next h =>
    push Not at h
    exact ⟨fun hm => ⟨hm, fun hcut => h mark hm (.inl hcut), not_lost_of_no_stop h _⟩, And.left⟩

end

/-! ## Decoded instructions -/

/-- An instruction is what code that starts at an offset holds at a mark. -/
structure Reads (offset : Nat) (code : Bytes) (mark : Nat × UInt8) (inst : Instruction) : Prop where
  behind : offset ≤ mark.1
  full : mark.1 + (1 + widthOfByte mark.2) ≤ offset + code.length
  decoded : IsDecoded mark.1 mark.2
    ((code.drop (mark.1 - offset + 1)).take (widthOfByte mark.2)) inst

/-- An instruction in front of code moves what the code holds. -/
theorem Reads.step {offset : Nat} {byte : UInt8} {immediate rest : Bytes} {mark : Nat × UInt8}
    {inst : Instruction} (full : immediate.length = widthOfByte byte)
    (h : Reads (offset + (1 + widthOfByte byte)) rest mark inst) :
    Reads offset (byte :: (immediate ++ rest)) mark inst where
  behind := Nat.le_trans (Nat.le_add_right _ _) h.behind
  full := stop_step full offset rest ▸ h.full
  decoded := by
    have hbehind := h.behind
    have hdrop : mark.1 - offset + 1 =
        immediate.length + (mark.1 - (offset + (1 + widthOfByte byte)) + 1) + 1 := by
      omega
    rw [hdrop, List.drop_succ_cons, List.drop_length_add_append]
    exact h.decoded

/-- Decoded instructions are what code holds at its first marks. -/
theorem exists_reads {offset : Nat} {program : List Instruction} {code : Bytes}
    (h : Decoded offset program code) : ∃ front, front <+: marksFrom offset 0 code ∧
      List.Forall₂ (Reads offset code) front program := by
  induction h with
  | nil => exact ⟨[], List.nil_prefix, .nil⟩
  | @cons offset byte immediate rest inst program full first _ ih =>
    obtain ⟨front, hfront, hall⟩ := ih
    have hhead : Reads offset (byte :: (immediate ++ rest)) (offset, byte) inst := by
      refine ⟨Nat.le_refl _, ?_, ?_⟩
      · rw [stop_step full]
        exact Nat.le_add_right _ _
      · rwa [Nat.sub_self, List.drop_one, List.tail_cons, ← full, List.take_left]
    refine ⟨(offset, byte) :: front, ?_, .cons hhead (hall.imp fun _ _ => .step full)⟩
    rw [marksFrom_step full]
    exact (List.prefix_cons_inj _).2 hfront

/-- Beginnings of one list with the same members are equal. -/
theorem eq_of_prefix {marks a b : List (Nat × UInt8)} (hnodup : marks.Nodup) (ha : a <+: marks)
    (hb : b <+: marks) (h : ∀ mark ∈ marks, mark ∈ a ↔ mark ∈ b) : a = b := by
  have hperm : a.Perm b := by
    refine (List.perm_ext_iff_of_nodup (hnodup.sublist ha.sublist) (hnodup.sublist hb.sublist)).2
      fun mark => ⟨fun hm => (h mark (ha.subset hm)).1 hm, fun hm => (h mark (hb.subset hm)).2 hm⟩
  rw [List.prefix_iff_eq_take.1 ha, List.prefix_iff_eq_take.1 hb, hperm.length_eq]

theorem delivered_isBeginning (code : Bytes) : delivered code <+: marks code := by
  rw [delivered]
  split
  · exact (List.rdropWhile_prefix _ _).trans (List.takeWhile_prefix _)
  · exact List.prefix_refl _

section
variable (scope : Scope) (code : Bytes)

/-- **Decoded code is what is delivered**, one instruction for each mark. -/
theorem forall₂_delivered :
    List.Forall₂ (Reads 0 code) (delivered code) (disassemble scope code) := by
  obtain ⟨front, hfront, hall⟩ := exists_reads (decoded_disassemble scope code)
  have hsources : front.map (fun mark => some mark.1) =
      (disassemble scope code).map (·.source) := by
    rw [← List.forall₂_eq_eq_eq, List.forall₂_map_left_iff, List.forall₂_map_right_iff]
    exact hall.imp fun _ _ h => h.decoded.source.symm
  have hfull : ∀ mark ∈ front, mark.1 + (1 + widthOfByte mark.2) ≤ code.length := by
    have hboth : List.Forall₂ (fun mark inst =>
        mark.1 + (1 + widthOfByte mark.2) ≤ code.length ∧ Reads 0 code mark inst) front
          (disassemble scope code) :=
      hall.imp fun _ _ h => ⟨Nat.zero_add code.length ▸ h.full, h⟩
    exact ((List.forall₂_and_left front _).1 hboth).1
  have hmem (mark : Nat × UInt8) (hm : mark ∈ marks code) :
      mark ∈ front ↔ mark ∈ delivered code := by
    rw [mem_delivered_iff, and_iff_right hm, IsCut, Nat.not_lt]
    by_cases hf : mark.1 + (1 + widthOfByte mark.2) ≤ code.length
    · rw [and_iff_right hf, ← exists_decoded_iff hm hf, ← List.mem_map, ← hsources, List.mem_map]
      constructor
      · exact fun h => ⟨mark, h, rfl⟩
      · rintro ⟨other, ho, heq⟩
        rwa [← eq_of_mem_marks (hfront.subset ho) hm (Option.some.inj heq)]
    · exact iff_of_false (mt (hfull mark) hf) fun h => hf h.1
  have hnodup : (marks code).Nodup :=
    (pairwise_marksFrom 0 code).imp fun hlt heq => Nat.ne_of_lt hlt (congrArg Prod.fst heq)
  rwa [← eq_of_prefix hnodup hfront (delivered_isBeginning code) hmem]

end

/-! ## Scopes -/

/-- A decoded instruction has the scope that is behind the terminators in front of it. -/
theorem scope_of_sweep {isOpen : Bool} {scope : Scope} {offset i : Nat} {code : Bytes}
    {program : List Instruction} {inst : Instruction}
    (h : Disassembly.sweep isOpen scope offset 0 code = some program)
    (hi : program[i]? = some inst) :
    inst.scope = some (scope.after ((program.take i).countP (·.opcode.isTerminator))) := by
  induction swept code generalizing isOpen scope offset i program with
  | nil =>
    cases h
    simp at hi
  | cut short =>
    rw [Disassembly.sweep_cut _ _ _ short] at h
    split at h <;> cases h
    simp at hi
  | @step byte immediate rest full _ ih =>
    rw [Disassembly.sweep_step _ _ _ _ full] at h
    have hfirst (behind : List Instruction)
        (hi : (Disassembly.decode scope offset (.ofByte byte) (immediate ++ rest) ::
          behind)[0]? = some inst) : inst.scope = some (scope.after 0) := by
      cases hi
      rfl
    split at h
    · cases h
      simp at hi
    · dsimp only at h
      split at h
      · next ht =>
        cases h
        cases i with
        | zero => exact hfirst _ hi
        | succ i =>
          rw [List.getElem?_cons_succ] at hi
          cases hr : Disassembly.sweep false (scope.after 1) (offset + (1 + widthOfByte byte)) 0
              rest with
          | none =>
            rw [hr] at hi
            simp at hi
          | some behind =>
            rw [hr] at hi
            rw [ih hr hi]
            simp [Scope.after, Disassembly.decode, ht]
            omega
      · next ht =>
        obtain ⟨behind, hr, rfl⟩ := Option.map_eq_some_iff.1 h
        cases i with
        | zero => exact hfirst _ hi
        | succ i =>
          rw [ih hr hi]
          simp [Disassembly.decode, ht]

theorem scope_of_getElem? {scope : Scope} {code : Bytes} {i : Nat} {inst : Instruction}
    (hi : (disassemble scope code)[i]? = some inst) : inst.scope =
      some (scope.after (((disassemble scope code).take i).countP (·.opcode.isTerminator))) := by
  rw [disassemble] at hi ⊢
  cases h : Disassembly.sweep true scope 0 0 code with
  | none =>
    rw [h] at hi
    simp at hi
  | some program =>
    rw [h] at hi
    exact scope_of_sweep h hi

/-- Two decoded instructions have the same scope exactly if no terminator stands from the first on
and in front of the second. -/
theorem scope_eq_iff {scope : Scope} {code : Bytes} {i j : Nat} {a b : Instruction} (hij : i ≤ j)
    (ha : (disassemble scope code)[i]? = some a) (hb : (disassemble scope code)[j]? = some b) :
    a.scope = b.scope ↔ ∀ k c, i ≤ k → k < j → (disassemble scope code)[k]? = some c →
      ¬ c.opcode.isTerminator := by
  obtain ⟨d, rfl⟩ := Nat.exists_eq_add_of_le hij
  rw [scope_of_getElem? ha, scope_of_getElem? hb, List.take_add, List.countP_append]
  have hcount : ∀ m n : Nat, some (scope.after m) = some (scope.after (m + n)) ↔ n = 0 := by
    simp [Scope.after]
  rw [hcount, List.countP_eq_zero]
  constructor
  · intro hall k c hik hkj hk
    refine hall c (List.mem_iff_getElem?.2 ⟨k - i, ?_⟩)
    rw [List.getElem?_take_of_lt (by omega), List.getElem?_drop, Nat.add_sub_cancel' hik, hk]
  · intro hall c hm
    obtain ⟨n, hn⟩ := List.mem_iff_getElem?.1 hm
    obtain ⟨hlt, -⟩ := List.getElem?_eq_some_iff.1 hn
    have hlt : n < d := by
      rw [List.length_take] at hlt
      omega
    rw [List.getElem?_take_of_lt hlt, List.getElem?_drop] at hn
    exact hall (i + n) c (by omega) (by omega) hn

/-! ## Complete scopes -/

/-- What decoding makes of code: the sweep from mark to mark, up to the last scope that is
complete. -/
structure CompleteScopes (code : Bytes) (program : List Instruction) : Prop where
  /-- The marks are met one behind the other. -/
  followsUp : FollowsUp code (marks code)
  /-- There is one instruction for each mark that is delivered, with its immediate bytes. -/
  reads : List.Forall₂ (Reads 0 code) (delivered code) program
  /-- The instructions lie one behind the other from offset zero on. -/
  tiled : ∀ offset inst, StandsAt program offset inst → inst.source = some offset
  codeSize_le : codeSize program ≤ code.length
  isScoped : ∀ inst ∈ program, inst.scope.isSome
  /-- A scope ends behind a terminator, and nowhere else. -/
  scopes : ∀ (i j : Nat) (a b : Instruction), i ≤ j → program[i]? = some a → program[j]? = some b →
    (a.scope = b.scope ↔ ∀ (k : Nat) (c : Instruction), i ≤ k → k < j → program[k]? = some c →
      ¬ c.opcode.isTerminator)

/-- **Decoding delivers the complete scopes of code**, whatever its bytes are. -/
theorem completeScopes_disassemble (scope : Scope) (code : Bytes) :
    CompleteScopes code (disassemble scope code) where
  followsUp := followsUp_marks code
  reads := forall₂_delivered scope code
  tiled offset inst hat := by
    obtain ⟨_, _, _, -, -, hd⟩ := (decoded_disassemble scope code).of_standsAt hat
    rw [hd.source, Nat.zero_add]
  codeSize_le := (decoded_disassemble scope code).codeSize_le
  isScoped inst hm := by
    obtain ⟨i, hi⟩ := List.mem_iff_getElem?.1 hm
    rw [scope_of_getElem? hi]
    rfl
  scopes _ _ _ _ := scope_eq_iff

/-- A push that is cut off takes all of its open scope along. -/
example : (delivered [0x00, 0x5b, 0x60, 0x01, 0x62, 0xff]).map (·.1) = [0] := by decide

end EvmProbe.Bytecode
