import EvmProbe.Proofs.Program.Resolution
import Mathlib.Data.List.Nodup
import Mathlib.Data.Set.Function

/-!
Linking sees neither the order of instructions nor the names of scopes.

Only the set of declarations and references decides what is linked, and of scopes only whether two
of them are the same.

* `getElem?_renamed`: the tables of a program and of its renamed instructions, in any order, hold
  the same offsets.
* `resolvable_renamed_iff`, `collectable_renamed_iff`: what has to be right is so for both or for
  neither.
* `linkedAlike_of_keepsApart`, `link_rearranged`: groups that hold the same instructions, up to
  order and the names of scopes, are linked alike.
-/

namespace EvmProbe

/-- The instruction with another name for its scope. -/
def Instruction.renamed (f : Scope → Scope) (inst : Instruction) : Instruction :=
  { inst with scope := inst.scope.map f }

namespace Linking

/-- The entry with another name for its scope. -/
def Entry.renamed (f : Scope → Scope) (entry : Entry) : Entry :=
  { entry with scope := entry.scope.map f }

/-- The entries that a program declares or refers to. -/
def mentioned (code : List Instruction) : Set Entry :=
  {entry | ∃ inst ∈ code, declared? inst = some entry ∨
    ∃ label, reference? inst = some label ∧ entryOf label inst.scope = .ok entry}

/-- Names of scopes keep apart the entries that a program mentions. -/
def KeepsApart (f : Scope → Scope) (code : List Instruction) : Prop :=
  Set.InjOn (Entry.renamed f) (mentioned code)

section
variable (f : Scope → Scope)

@[simp] theorem reference?_renamed (inst : Instruction) :
    reference? (inst.renamed f) = reference? inst := rfl

theorem entryOf_renamed (label : Label) (scope : Option Scope) :
    entryOf label (scope.map f) = (entryOf label scope).map (Entry.renamed f) := by
  cases label <;> cases scope <;> rfl

@[simp] theorem declared?_renamed (inst : Instruction) :
    declared? (inst.renamed f) = (declared? inst).map (Entry.renamed f) := by
  obtain ⟨opcode, operand, label, source, offset, scope⟩ := inst
  cases label with
  | none => rfl
  | some label => cases label <;> cases scope <;> rfl

theorem filterMap_declared?_renamed (code : List Instruction) :
    (code.map (·.renamed f)).filterMap declared? =
      (code.filterMap declared?).map (Entry.renamed f) := by
  rw [List.filterMap_map, List.map_filterMap]
  exact List.filterMap_congr fun inst _ => declared?_renamed f inst

/-- An entry of a renamed instruction is the renamed entry of the instruction. -/
theorem entryOf_renamed_eq_ok {label : Label} {scope : Option Scope} {entry : Entry} :
    entryOf label (scope.map f) = .ok entry ↔
      ∃ own, entryOf label scope = .ok own ∧ own.renamed f = entry := by
  rw [entryOf_renamed]
  cases entryOf label scope <;> simp [Except.map]

/-- Different names keep all entries apart. -/
theorem keepsApart_of_injOn {f : Scope → Scope} {code : List Instruction}
    (hf : Set.InjOn f {scope | ∃ inst ∈ code, inst.scope = some scope}) : KeepsApart f code := by
  have hscope : ∀ entry ∈ mentioned code, ∀ scope, entry.scope = some scope →
      ∃ inst ∈ code, inst.scope = some scope := by
    rintro entry ⟨inst, hm, hd | ⟨label, -, he⟩⟩ scope hs
    · obtain ⟨label, -, he⟩ := Option.bind_eq_some_iff.1 hd
      refine ⟨inst, hm, ?_⟩
      cases label <;> cases hi : inst.scope <;> simp_all [entryOf, Except.toOption] <;> grind
    · refine ⟨inst, hm, ?_⟩
      cases label <;> cases hi : inst.scope <;> simp_all [entryOf] <;> grind
  rintro ⟨sa, a⟩ ha ⟨sb, b⟩ hb hab
  obtain ⟨hs, rfl⟩ := Entry.mk.inj hab
  cases sa with
  | none =>
    cases sb with
    | none => rfl
    | some sb => cases hs
  | some sa =>
    cases sb with
    | none => cases hs
    | some sb =>
      rw [hf (hscope _ ha sa rfl) (hscope _ hb sb rfl) (Option.some.inj hs)]

end

section
variable {f : Scope → Scope} {code code' : List Instruction} (hf : KeepsApart f code)
  (h : code'.Perm (code.map (·.renamed f)))
include hf h

omit hf in
theorem mem_of_perm_renamed {inst' : Instruction} :
    inst' ∈ code' ↔ ∃ inst ∈ code, inst.renamed f = inst' :=
  h.mem_iff.trans List.mem_map

/-- What a program declares, the other declares under the other names. -/
theorem declares_renamed_iff {entry : Entry} (hm : entry ∈ mentioned code) (offset : Nat) :
    (∃ inst ∈ code', declared? inst = some (entry.renamed f) ∧ inst.offset = some offset) ↔
      ∃ inst ∈ code, declared? inst = some entry ∧ inst.offset = some offset := by
  constructor
  · rintro ⟨inst', hm', hd, ho⟩
    obtain ⟨inst, hi, rfl⟩ := (mem_of_perm_renamed h).1 hm'
    rw [declared?_renamed, Option.map_eq_some_iff] at hd
    obtain ⟨own, hown, heq⟩ := hd
    obtain rfl := hf ⟨inst, hi, .inl hown⟩ hm heq
    exact ⟨inst, hi, hown, ho⟩
  · rintro ⟨inst, hi, hd, ho⟩
    exact ⟨inst.renamed f, (mem_of_perm_renamed h).2 ⟨inst, hi, rfl⟩,
      by rw [declared?_renamed, hd, Option.map_some], ho⟩

/-- **The tables of both programs hold the same offsets.** -/
theorem getElem?_renamed {table table' : Table} (ht : declarations code = .ok table)
    (ht' : declarations code' = .ok table') {entry : Entry} (hm : entry ∈ mentioned code) :
    table'[entry.renamed f]? = table[entry]? := by
  ext offset
  rw [(declarations_ok ht').2, (declarations_ok ht).2, declares_renamed_iff hf h hm]

/-- **The declarations of both programs can be collected, or of neither.** -/
theorem collectable_renamed_iff : Collectable code' ↔ Collectable code := by
  have hdistinct : (code'.filterMap declared?).Nodup ↔ (code.filterMap declared?).Nodup := by
    rw [(h.filterMap declared?).nodup_iff, filterMap_declared?_renamed]
    refine ⟨List.Nodup.of_map _, List.Nodup.map_on ?_⟩
    intro a ha b hb
    obtain ⟨i, hi, ha⟩ := List.mem_filterMap.1 ha
    obtain ⟨j, hj, hb⟩ := List.mem_filterMap.1 hb
    exact hf ⟨i, hi, .inl ha⟩ ⟨j, hj, .inl hb⟩
  constructor
  · rintro ⟨hplaced, hscope, hnodup⟩
    refine ⟨fun inst hm => ?_, fun inst hm name hl => ?_, hdistinct.1 hnodup⟩
    · exact hplaced (inst.renamed f) ((mem_of_perm_renamed h).2 ⟨inst, hm, rfl⟩)
    · have := hscope (inst.renamed f) ((mem_of_perm_renamed h).2 ⟨inst, hm, rfl⟩) name hl
      rwa [Instruction.renamed, Option.isSome_map] at this
  · rintro ⟨hplaced, hscope, hnodup⟩
    refine ⟨fun inst' hm => ?_, fun inst' hm name hl => ?_, hdistinct.2 hnodup⟩
    · obtain ⟨inst, hi, rfl⟩ := (mem_of_perm_renamed h).1 hm
      exact hplaced inst hi
    · obtain ⟨inst, hi, rfl⟩ := (mem_of_perm_renamed h).1 hm
      rw [Instruction.renamed, Option.isSome_map]
      exact hscope inst hi name hl

/-- **A reference can be resolved in both programs, or in neither.** -/
theorem resolvable_renamed_iff {inst : Instruction} (hi : inst ∈ code) :
    Resolvable code' (inst.renamed f) ↔ Resolvable code inst := by
  refine forall₂_congr fun label hl => and_congr ?_ ?_
  · rw [Instruction.renamed, Option.isSome_map]
  · constructor
    · rintro ⟨entry', hm', he'⟩
      obtain ⟨own, hown, rfl⟩ := (entryOf_renamed_eq_ok f).1 he'
      obtain ⟨decl', hdecl', hd'⟩ := List.mem_filterMap.1 hm'
      obtain ⟨decl, hdecl, rfl⟩ := (mem_of_perm_renamed h).1 hdecl'
      rw [declared?_renamed, Option.map_eq_some_iff] at hd'
      obtain ⟨entry, hd, heq⟩ := hd'
      obtain rfl := hf ⟨decl, hdecl, .inl hd⟩
        ⟨inst, hi, .inr ⟨label, reference?_eq_some.2 hl, hown⟩⟩ heq
      exact ⟨entry, List.mem_filterMap.2 ⟨decl, hdecl, hd⟩, hown⟩
    · rintro ⟨entry, hm, he⟩
      obtain ⟨decl, hdecl, hd⟩ := List.mem_filterMap.1 hm
      refine ⟨entry.renamed f, List.mem_filterMap.2 ⟨decl.renamed f,
        (mem_of_perm_renamed h).2 ⟨decl, hdecl, rfl⟩, ?_⟩, (entryOf_renamed_eq_ok f).2 ⟨_, he, rfl⟩⟩
      rw [declared?_renamed, hd, Option.map_some]

/-- **A renamed instruction is resolved to the renamed resolved one.** -/
theorem resolved_renamed {table table' : Table} (ht : declarations code = .ok table)
    (ht' : declarations code' = .ok table') {inst : Instruction} (hi : inst ∈ code)
    (hfault : fault? table inst = none) :
    fault? table' (inst.renamed f) = none ∧
      resolved table' (inst.renamed f) = (resolved table inst).renamed f := by
  have hfault' : fault? table' (inst.renamed f) = none :=
    (fault?_eq_none_iff ht').2
      ((resolvable_renamed_iff hf h hi).2 ((fault?_eq_none_iff ht).1 hfault))
  refine ⟨hfault', ?_⟩
  cases hr : reference? inst with
  | none =>
    rw [resolved_of_reference?_eq_none hr, resolved_of_reference?_eq_none (by simpa using hr)]
  | some label =>
    obtain ⟨entry, offset, he, hget, heq⟩ := exists_target hr hfault
    obtain ⟨entry', offset', he', hget', heq'⟩ := exists_target (by simpa using hr) hfault'
    have hren : entryOf label (inst.renamed f).scope = .ok (entry.renamed f) :=
      (entryOf_renamed_eq_ok f).2 ⟨entry, he, rfl⟩
    obtain rfl : entry' = entry.renamed f := by
      rw [hren, Except.ok.injEq] at he'
      exact he'.symm
    rw [getElem?_renamed hf h ht ht' ⟨inst, hi, .inr ⟨label, hr, he⟩⟩, hget,
      Option.some.injEq] at hget'
    rw [heq, heq', hget']
    rfl

end

/-! ## Groups -/

/-- Linking succeeds exactly if all is right. -/
theorem link_eq_ok_iff {groups : List (List Instruction)} : (link groups).2 = .ok () ↔
    Collectable groups.flatten ∧ ∀ inst ∈ groups.flatten, Resolvable groups.flatten inst := by
  constructor
  · intro hlink
    obtain ⟨table, hd, hf, -⟩ := link_ok.1 (Prod.ext rfl hlink)
    exact ⟨exists_declarations_iff.1 ⟨table, hd⟩,
      fun inst hm => (fault?_eq_none_iff hd).1 (hf inst hm)⟩
  · rintro ⟨hcollectable, hresolvable⟩
    obtain ⟨table, hd⟩ := exists_declarations_iff.2 hcollectable
    rw [link_ok.2 ⟨table, hd, fun inst hm => (fault?_eq_none_iff hd).2 (hresolvable inst hm), rfl⟩]

/-- Groups that are laid out in scopes are linked if they declare no entry twice, and those of all
references. -/
theorem links_of_declared {groups : List (List Instruction)}
    (hplaced : ∀ inst ∈ groups.flatten, inst.offset.isSome ∧ inst.scope.isSome)
    (hdistinct : (groups.flatten.filterMap declared?).Nodup)
    (hdeclared : ∀ inst ∈ groups.flatten, ∀ label ∈ reference? inst,
      ∃ entry ∈ groups.flatten.filterMap declared?, entryOf label inst.scope = .ok entry) :
    (link groups).2 = .ok () :=
  link_eq_ok_iff.2 ⟨⟨fun inst hm _ => (hplaced inst hm).1, fun inst hm _ _ => (hplaced inst hm).2,
    hdistinct⟩, fun inst hm label hl =>
      ⟨fun _ => (hplaced inst hm).2, hdeclared inst hm label (reference?_eq_some.2 hl)⟩⟩

/-- Groups are linked like others whose scopes have other names. -/
structure LinkedAlike (f : Scope → Scope) (groups groups' : List (List Instruction)) : Prop where
  /-- Linking succeeds for both or for neither. -/
  succeeds : (link groups').2 = .ok () ↔ (link groups).2 = .ok ()
  /-- If it does, then what becomes of an instruction does not depend on where it stands, and the
  renamed instruction becomes the same, but for the name of its scope. -/
  answers : (link groups).2 = .ok () → ∃ answer answer' : Instruction → Instruction,
    (link groups).1 = groups.map (·.map answer) ∧ (link groups').1 = groups'.map (·.map answer') ∧
      ∀ inst ∈ groups.flatten, answer' (inst.renamed f) = (answer inst).renamed f

/-- Groups are linked alike if the names of scopes keep their entries apart. -/
theorem linkedAlike_of_keepsApart {f : Scope → Scope} {groups groups' : List (List Instruction)}
    (hf : KeepsApart f groups.flatten)
    (h : groups'.flatten.Perm (groups.flatten.map (·.renamed f))) :
    LinkedAlike f groups groups' := by
  have hsucceeds : (link groups').2 = .ok () ↔ (link groups).2 = .ok () := by
    rw [link_eq_ok_iff, link_eq_ok_iff, collectable_renamed_iff hf h]
    refine and_congr_right fun _ => ⟨fun hall inst hm => ?_, fun hall inst' hm => ?_⟩
    · exact (resolvable_renamed_iff hf h hm).1
        (hall _ ((mem_of_perm_renamed h).2 ⟨inst, hm, rfl⟩))
    · obtain ⟨inst, hi, rfl⟩ := (mem_of_perm_renamed h).1 hm
      exact (resolvable_renamed_iff hf h hi).2 (hall inst hi)
  refine ⟨hsucceeds, fun hlink => ?_⟩
  obtain ⟨table, ht, hfaults, hgroups⟩ := link_ok.1 (Prod.ext rfl hlink)
  obtain ⟨table', ht', -, hgroups'⟩ := link_ok.1 (Prod.ext rfl (hsucceeds.2 hlink))
  exact ⟨resolved table, resolved table', hgroups, hgroups', fun inst hm =>
    (resolved_renamed hf h ht ht' hm (hfaults inst hm)).2⟩

end Linking

open Linking

/-- **Linking depends neither on the order of groups, nor on how instructions are grouped, nor on
how scopes are numbered.**  Groups that hold the same instructions in any order and in any grouping,
with different names for different scopes, are linked alike. -/
theorem link_rearranged {f : Scope → Scope} {groups groups' : List (List Instruction)}
    (hf : Set.InjOn f {scope | ∃ inst ∈ groups.flatten, inst.scope = some scope})
    (h : groups'.flatten.Perm (groups.flatten.map (·.renamed f))) : LinkedAlike f groups groups' :=
  linkedAlike_of_keepsApart (keepsApart_of_injOn hf) h

/-- A JUMPDEST and a reference to it, laid out in a scope. -/
def selfReference (scope : Scope) (start : Nat) : List Instruction :=
  (layOut start (duplicate scope [(Instruction.plain .jumpdest).labelled (.lexical "a"),
    Instruction.pushLabel (.pushN 3) (.lexical "a")])).1

/-- Two groups that declare the same label in different scopes are linked like two others, in
which one of them is split, one half of it is joined to the other group, and all scopes are counted
from eight on. -/
theorem link_rearranged_same_label :
    Set.InjOn (·.after 7) {scope | ∃ inst ∈ [selfReference ⟨1⟩ 0, selfReference ⟨2⟩ 5].flatten,
      inst.scope = some scope} ∧
    [(selfReference ⟨9⟩ 5).drop 1, (selfReference ⟨9⟩ 5).take 1 ++ selfReference ⟨8⟩ 0].flatten.Perm
      ([selfReference ⟨1⟩ 0, selfReference ⟨2⟩ 5].flatten.map (·.renamed (·.after 7))) ∧
    (link [selfReference ⟨1⟩ 0, selfReference ⟨2⟩ 5]).2 = .ok () ∧
    LinkedAlike (·.after 7) [selfReference ⟨1⟩ 0, selfReference ⟨2⟩ 5]
      [(selfReference ⟨9⟩ 5).drop 1, (selfReference ⟨9⟩ 5).take 1 ++ selfReference ⟨8⟩ 0] := by
  have hinj : Set.InjOn (·.after 7) {scope | ∃ inst ∈ [selfReference ⟨1⟩ 0,
      selfReference ⟨2⟩ 5].flatten, inst.scope = some scope} := by
    rintro ⟨a⟩ - ⟨b⟩ - hab
    simpa [Scope.after] using hab
  have hperm : [(selfReference ⟨9⟩ 5).drop 1,
      (selfReference ⟨9⟩ 5).take 1 ++ selfReference ⟨8⟩ 0].flatten.Perm
      ([selfReference ⟨1⟩ 0, selfReference ⟨2⟩ 5].flatten.map (·.renamed (·.after 7))) := by
    decide
  have hlinks : (link [selfReference ⟨1⟩ 0, selfReference ⟨2⟩ 5]).2 = .ok () :=
    links_of_declared (by decide) (by decide) (by decide)
  exact ⟨hinj, hperm, hlinks, link_rearranged hinj hperm⟩

end EvmProbe
