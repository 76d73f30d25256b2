import EvmProbe.Proofs.Program.Resolution
import Mathlib.Logic.Function.Iterate

/-!
Programs that are encoded again.

Encoding a program leaves its instructions laid out and linked as far as that went.  Offsets depend
on sizes alone and declarations on labels, offsets and scopes, none of which linking changes; so
what is left is laid out as it is, has the same table, and fails at the same reference.

* `layOut_eq_self`: code that is laid out stays as it is when it is laid out again.
* `resolve_again`, `link_again`: so do groups that are linked, or linked up to a bad reference.
* `encodeProgram_repeated`: **encoding a program again, any number of times, gives the same result
  and leaves the same instructions.**
-/

namespace EvmProbe

open Linking

/-! ## Layout -/

/-- Code that is laid out stays as it is. -/
theorem layOut_eq_self {start : Nat} {code : List Instruction} (h : Contiguous start code) :
    (layOut start code).1 = code := by
  induction code generalizing start with
  | nil => rfl
  | cons inst code ih =>
    obtain ⟨ho, hrest⟩ := h
    rw [layOut_cons, ih hrest, Instruction.place, ← ho]

/-- Offsets and sizes alone tell whether code is contiguous. -/
theorem contiguous_congr {start : Nat} {code code' : List Instruction}
    (h : code.map (fun inst => (inst.offset, inst.size)) =
      code'.map fun inst => (inst.offset, inst.size)) :
    Contiguous start code ↔ Contiguous start code' := by
  induction code generalizing start code' with
  | nil => rw [List.map_eq_nil_iff.1 h.symm]
  | cons inst code ih =>
    cases code' with
    | nil => cases h
    | cons inst' code' =>
      obtain ⟨hhead, htail⟩ := List.cons.inj h
      obtain ⟨ho, hs⟩ := Prod.mk.inj hhead
      rw [Contiguous, Contiguous, ho, hs, ih htail]

/-- The size of code is the sum of the sizes of its instructions. -/
theorem codeSize_eq_sum (code : List Instruction) :
    codeSize code = (code.map Instruction.size).sum := by
  induction code with
  | nil => rfl
  | cons inst code ih => rw [codeSize_cons, ih, List.map_cons, List.sum_cons]

namespace Linking

/-! ## Linking -/

/-- What of an instruction linking never changes. -/
def bare (inst : Instruction) : Instruction := { inst with operand := none }

theorem bare_resolved (table : Table) (inst : Instruction) :
    bare (resolved table inst) = bare inst := by
  unfold resolved
  split <;> rfl

/-- Declarations depend only on what linking never changes. -/
theorem declarations_map_bare (code : List Instruction) :
    declarations (code.map bare) = declarations code := by
  rw [declarations, List.foldlM_map]
  rfl

/-- A reference that is resolved is no fault any more. -/
theorem fault?_resolved {table : Table} {inst : Instruction} (h : fault? table inst = none) :
    fault? table (resolved table inst) = none := by
  rw [fault?, target?_of_reference?_eq_none (reference?_resolved h)]

/-- Resolving an instruction again changes nothing. -/
theorem resolved_resolved {table : Table} {inst : Instruction} (h : fault? table inst = none) :
    resolved table (resolved table inst) = resolved table inst :=
  resolved_of_reference?_eq_none (reference?_resolved h)

/-- The instructions in front of the first fault are resolved. -/
theorem resolve_append_fault {table : Table} {front rest : List Instruction} {bad : Instruction}
    {cause : Error} (hfront : ∀ inst ∈ front, fault? table inst = none)
    (hbad : fault? table bad = some cause) : resolve table (front ++ bad :: rest) =
      (front.map (resolved table) ++ bad :: rest, .error cause) := by
  have hgood : ∀ inst ∈ front, (!(fault? table inst).isSome) = true := fun inst hm => by
    rw [hfront inst hm]
    rfl
  have hfirst : (front ++ bad :: rest).findSome? (fault? table) = some cause :=
    List.findSome?_eq_some_iff.2 ⟨front, bad, rest, rfl, hbad, hfront⟩
  rw [resolve, hfirst]
  dsimp only
  rw [List.takeWhile_append_of_pos hgood, List.dropWhile_append_of_pos hgood, List.takeWhile_cons,
    List.dropWhile_cons, hbad]
  simp

section
variable (table : Table) (code : List Instruction)

/-- **Resolving a group again changes nothing**, whether it succeeded or not. -/
theorem resolve_again : resolve table (resolve table code).1 = resolve table code := by
  rcases hr : resolve table code with ⟨left, cause | _⟩
  · obtain ⟨front, bad, rest, rfl, hfront, hbad, rfl⟩ := resolve_error hr
    have hleft : ∀ inst ∈ front.map (resolved table), fault? table inst = none := by
      intro inst hm
      obtain ⟨own, ho, rfl⟩ := List.mem_map.1 hm
      exact fault?_resolved (hfront own ho)
    have hsame : (front.map (resolved table)).map (resolved table) =
        front.map (resolved table) := by
      rw [List.map_map]
      exact List.map_congr_left fun inst hm => resolved_resolved (hfront inst hm)
    rw [resolve_append_fault hleft hbad, hsame]
  · obtain ⟨hall, rfl⟩ := resolve_ok.1 hr
    refine resolve_ok.2 ⟨fun inst hm => ?_, ?_⟩
    · obtain ⟨own, ho, rfl⟩ := List.mem_map.1 hm
      exact fault?_resolved (hall own ho)
    · rw [List.map_map]
      exact (List.map_congr_left fun inst hm => resolved_resolved (hall inst hm)).symm

/-- Resolving keeps whatever does not depend on operands. -/
theorem map_resolve {α : Type} {g : Instruction → α}
    (hg : ∀ inst, g (resolved table inst) = g inst) :
    (resolve table code).1.map g = code.map g := by
  rcases hr : resolve table code with ⟨left, cause | _⟩
  · obtain ⟨front, bad, rest, rfl, -, -, rfl⟩ := resolve_error hr
    simp [hg]
  · obtain ⟨-, rfl⟩ := resolve_ok.1 hr
    simp [hg]

end

/-- **Resolving groups again changes nothing.** -/
theorem resolveAll_again (table : Table) (groups : List (List Instruction)) :
    resolveAll table (resolveAll table groups).1 = resolveAll table groups := by
  induction groups with
  | nil => rfl
  | cons group rest ih =>
    have hgroup := resolve_again table group
    rw [resolveAll]
    rcases hr : resolve table group with ⟨left, cause | _⟩
    · rw [hr] at hgroup
      dsimp only
      rw [resolveAll, hgroup]
    · rw [hr] at hgroup
      dsimp only
      rw [resolveAll, hgroup]
      dsimp only
      rw [ih]

/-- Resolving groups keeps whatever does not depend on operands. -/
theorem map_resolveAll {α : Type} {g : Instruction → α} {table : Table}
    (hg : ∀ inst, g (resolved table inst) = g inst) (groups : List (List Instruction)) :
    (resolveAll table groups).1.flatten.map g = groups.flatten.map g := by
  induction groups with
  | nil => rfl
  | cons group rest ih =>
    have hgroup := map_resolve table group hg
    rw [resolveAll]
    rcases hr : resolve table group with ⟨left, cause | _⟩
    · rw [hr] at hgroup
      simp only [List.flatten_cons, List.map_append, hgroup]
    · rw [hr] at hgroup
      simp only [List.flatten_cons, List.map_append, hgroup, ih]

end Linking

/-- Linking keeps whatever does not depend on operands. -/
theorem map_link {α : Type} {g : Instruction → α}
    (hg : ∀ table inst, g (resolved table inst) = g inst) (groups : List (List Instruction)) :
    (link groups).1.flatten.map g = groups.flatten.map g := by
  rw [link]
  cases declarations groups.flatten with
  | error cause => rfl
  | ok table => exact map_resolveAll (hg table) groups

/-- **Linking groups again changes nothing**, and fails at the same place if it failed. -/
theorem link_again (groups : List (List Instruction)) : link (link groups).1 = link groups := by
  have hsame : declarations (link groups).1.flatten = declarations groups.flatten := by
    rw [← declarations_map_bare, map_link bare_resolved, declarations_map_bare]
  rw [link, hsame]
  cases hd : declarations groups.flatten with
  | error cause =>
    rw [link, hd]
  | ok table =>
    have hlink : link groups = resolveAll table groups := by rw [link, hd]
    rw [hlink]
    exact resolveAll_again table groups

/-- A single group stays one. -/
theorem exists_link_singleton (code : List Instruction) : ∃ left, (link [code]).1 = [left] := by
  rw [link]
  cases declarations [code].flatten with
  | error cause => exact ⟨code, rfl⟩
  | ok table =>
    refine ⟨(resolve table code).1, ?_⟩
    dsimp only
    rw [resolveAll]
    rcases resolve table code with ⟨left, cause | _⟩ <;> rfl

/-! ## Programs -/

/-- Encoding leaves a program as far as it was laid out and linked. -/
theorem encodeProgram_fst (code : List Instruction) :
    (encodeProgram code).1 = (link [(layOut 0 code).1]).1.flatten := by
  rw [encodeProgram, ← Prod.eta (layOut 0 code)]
  dsimp only
  rcases link [(layOut 0 code).1] with ⟨groups, cause | _⟩
  · rfl
  · dsimp only
    rcases encodeInto 0 (Array.replicate (layOut 0 code).2 0) groups.flatten with
      ⟨buffer, cause | _⟩ <;> rfl

/-- What encoding leaves is laid out already. -/
theorem layOut_encodeProgram (code : List Instruction) :
    layOut 0 (encodeProgram code).1 = ((encodeProgram code).1, (layOut 0 code).2) := by
  have hsize : ∀ table inst, (resolved table inst).size = inst.size := Patcher.size_resolved
  have hplace : ∀ table inst, ((resolved table inst).offset, (resolved table inst).size) =
      (inst.offset, inst.size) := fun table inst => by rw [resolved_offset, hsize]
  have hflat : [(layOut 0 code).1].flatten = (layOut 0 code).1 := List.append_nil _
  refine Prod.ext (layOut_eq_self ?_) ?_
  · rw [encodeProgram_fst, contiguous_congr (map_link hplace _), hflat]
    exact contiguous_layOut 0 code
  · rw [layOut_snd, layOut_snd, encodeProgram_fst, codeSize_eq_sum, map_link hsize, hflat,
      ← codeSize_eq_sum, codeSize_layOut]

/-- **Encoding what encoding has left gives the same**, whether it succeeded or where it failed. -/
theorem encodeProgram_again (code : List Instruction) :
    encodeProgram (encodeProgram code).1 = encodeProgram code := by
  obtain ⟨left, hleft⟩ := exists_link_singleton (layOut 0 code).1
  have hfst : (encodeProgram code).1 = left := by
    rw [encodeProgram_fst, hleft]
    exact List.append_nil left
  have hlink : link [left] = link [(layOut 0 code).1] := by
    rw [← hleft, link_again]
  have hlaid := layOut_encodeProgram code
  rw [hfst] at hlaid ⊢
  rw [encodeProgram, hlaid]
  dsimp only
  rw [hlink, encodeProgram]

/-- **A program may be encoded again.**  However many times it was encoded before, encoding it gives
the bytes or the error of the first time, and leaves the instructions that the first time has
left. -/
theorem encodeProgram_repeated (code : List Instruction) (times : Nat) :
    encodeProgram ((fun left => (encodeProgram left).1)^[times] code) = encodeProgram code := by
  induction times generalizing code with
  | zero => rfl
  | succ times ih => rw [Function.iterate_succ_apply, ih, encodeProgram_again]

end EvmProbe
