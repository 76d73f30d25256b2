import EvmProbe.Proofs.Program.Written
import Mathlib.Data.List.Forall2

/-!
Linking is exact.

What has to be right is said of the groups alone: their declarations (`Collectable`) and each of
their references (`Resolvable`).

* `exists_declarations_iff`, `fault?_eq_none_iff`: the table exists, and a reference is found in it,
  exactly if these are right.
* `isLinked_resolved`: a reference becomes the offset of the one instruction that declares its
  label, and nothing else changes.
* `resolveAll_error`: what is resolved when linking fails.
* `link_exact`: **linking succeeds exactly if all is right, and changes nothing but references**; if
  it fails, those in front of the first bad one are resolved.
-/

namespace EvmProbe

namespace Linking

/-! ## Declarations -/

/-- The declarations of a program can be collected. -/
structure Collectable (code : List Instruction) : Prop where
  /-- What declares a label is laid out. -/
  placed : ∀ inst ∈ code, inst.label.isSome → inst.offset.isSome
  /-- A lexical label is declared in some scope. -/
  inScope : ∀ inst ∈ code, ∀ name, inst.label = some (.lexical name) → inst.scope.isSome
  /-- No entry is declared twice. -/
  distinct : (code.filterMap declared?).Nodup

/-- A label has an entry if it is global or in some scope. -/
theorem exists_entryOf_iff {label : Label} {scope : Option Scope} :
    (∃ entry, entryOf label scope = .ok entry) ↔ (label.isGlobal = false → scope.isSome) := by
  cases label <;> cases scope <;> simp [entryOf, Label.isGlobal]

theorem isSome_declared?_iff {inst : Instruction} (h : inst.label.isSome) :
    (declared? inst).isSome ↔ ∀ name, inst.label = some (.lexical name) → inst.scope.isSome := by
  obtain ⟨label, hl⟩ := Option.isSome_iff_exists.1 h
  cases label <;> cases hs : inst.scope <;> simp [declared?, hl, hs, entryOf, Except.toOption]

/-- **A program has a table exactly if its declarations can be collected.** -/
theorem exists_declarations_iff {code : List Instruction} :
    (∃ table, declarations code = .ok table) ↔ Collectable code := by
  constructor
  · rintro ⟨table, h⟩
    obtain ⟨hall, hnodup, -⟩ := foldlM_declare h
    refine ⟨fun inst hm hl => (hall inst hm hl).1, fun inst hm name hl => ?_, hnodup⟩
    have hsome : inst.label.isSome := by rw [hl]; rfl
    exact (isSome_declared?_iff hsome).1 (hall inst hm hsome).2 name hl
  · rintro ⟨hplaced, hscope, hnodup⟩
    exact exists_declarations (fun inst hm hl =>
      ⟨hplaced inst hm hl, (isSome_declared?_iff hl).2 (hscope inst hm)⟩) hnodup

/-! ## References -/

/-- The reference of an instruction can be resolved, if it has one: its entry is declared. -/
def Resolvable (code : List Instruction) (inst : Instruction) : Prop :=
  ∀ label, inst.operand = some (.label label) →
    (label.isGlobal = false → inst.scope.isSome) ∧
      ∃ entry ∈ code.filterMap declared?, entryOf label inst.scope = .ok entry

/-- An instruction of a program is linked. -/
structure IsLinked (code : List Instruction) (inst linked : Instruction) : Prop where
  /-- Opcode, label, source, offset and scope stay. -/
  rest : { linked with operand := inst.operand } = inst
  size : linked.size = inst.size
  /-- An operand that is no reference stays. -/
  kept : reference? inst = none → linked.operand = inst.operand
  /-- A reference becomes the offset of the one instruction that declares its entry. -/
  reference : ∀ label, inst.operand = some (.label label) → ∃ entry decl offset,
    entryOf label inst.scope = .ok entry ∧
      code.filter (fun other => declared? other = some entry) = [decl] ∧
      decl.offset = some offset ∧ linked.operand = some (.int (BitVec.ofNat 256 offset))

/-- What a list shows of its members once, it shows of one member. -/
theorem filter_eq_singleton {α β : Type} [DecidableEq β] {g : α → Option β} {l : List α} {a : α}
    {b : β} (h : (l.filterMap g).Nodup) (hm : a ∈ l) (hg : g a = some b) :
    l.filter (fun x => g x = some b) = [a] := by
  obtain ⟨before, after, rfl⟩ := List.append_of_mem hm
  rw [List.filterMap_append, List.filterMap_cons_some hg, List.nodup_append,
    List.nodup_cons] at h
  obtain ⟨-, ⟨hafter, -⟩, hbefore⟩ := h
  have hnone {l : List α} (hl : b ∉ l.filterMap g) : l.filter (fun x => g x = some b) = [] := by
    rw [List.filter_eq_nil_iff]
    intro x hx he
    exact hl (List.mem_filterMap.2 ⟨x, hx, of_decide_eq_true he⟩)
  have hfront : b ∉ before.filterMap g := fun he => hbefore _ he _ List.mem_cons_self rfl
  rw [List.filter_append, hnone hfront, List.nil_append, List.filter_cons, hnone hafter]
  simp [hg]

/-- An entry that is declared once is declared by one instruction. -/
theorem filter_declared? {code : List Instruction} (h : (code.filterMap declared?).Nodup)
    {decl : Instruction} {entry : Entry} (hm : decl ∈ code) (hd : declared? decl = some entry) :
    code.filter (fun other => declared? other = some entry) = [decl] :=
  filter_eq_singleton h hm hd

section
variable {code : List Instruction} {table : Table} (ht : declarations code = .ok table)
include ht

/-- The table of a program holds the entries that it declares. -/
theorem mem_table_iff {entry : Entry} : entry ∈ table ↔ entry ∈ code.filterMap declared? := by
  rw [Std.HashMap.mem_iff_isSome_getElem?, Option.isSome_iff_exists, List.mem_filterMap]
  constructor
  · rintro ⟨offset, ho⟩
    obtain ⟨inst, hm, hd, -⟩ := ((declarations_ok ht).2 entry offset).1 ho
    exact ⟨inst, hm, hd⟩
  · rintro ⟨inst, hm, hd⟩
    obtain ⟨offset, ho⟩ := Option.isSome_iff_exists.1
      ((exists_declarations_iff.1 ⟨table, ht⟩).placed inst hm (isSome_label_of_declared? hd))
    exact ⟨offset, ((declarations_ok ht).2 entry offset).2 ⟨inst, hm, hd, ho⟩⟩

/-- **A reference is found in the table exactly if it can be resolved.** -/
theorem fault?_eq_none_iff {inst : Instruction} :
    fault? table inst = none ↔ Resolvable code inst := by
  constructor
  · intro h label hl
    obtain ⟨entry, offset, he, hget, -⟩ := exists_target (reference?_eq_some.2 hl) h
    have hm : entry ∈ table := Std.HashMap.mem_iff_isSome_getElem?.2 (by rw [hget]; rfl)
    exact ⟨exists_entryOf_iff.1 ⟨entry, he⟩, entry, (mem_table_iff ht).1 hm, he⟩
  · intro h
    refine fault?_eq_none fun label hl => ?_
    obtain ⟨-, entry, hm, he⟩ := h label (reference?_eq_some.1 hl)
    exact ⟨entry, he, (mem_table_iff ht).2 hm⟩

/-- **A reference becomes the offset of the one instruction that declares its entry**, and nothing
else changes. -/
theorem isLinked_resolved {inst : Instruction} (h : fault? table inst = none) :
    IsLinked code inst (resolved table inst) := by
  refine ⟨?_, Patcher.size_resolved table inst, fun hr => ?_, fun label hl => ?_⟩
  · unfold resolved
    split <;> rfl
  · rw [resolved_of_reference?_eq_none hr]
  · obtain ⟨entry, offset, he, hget, heq⟩ := exists_target (reference?_eq_some.2 hl) h
    obtain ⟨hnodup, hentries⟩ := declarations_ok ht
    obtain ⟨decl, hm, hd, ho⟩ := (hentries entry offset).1 hget
    exact ⟨entry, decl, offset, he, filter_declared? hnodup hm hd, ho, by rw [heq]⟩

end

/-- A resolved instruction has no reference. -/
theorem reference?_resolved {table : Table} {inst : Instruction} (h : fault? table inst = none) :
    reference? (resolved table inst) = none := by
  cases hr : reference? inst with
  | none => rw [resolved_of_reference?_eq_none hr, hr]
  | some label =>
    obtain ⟨entry, offset, -, -, heq⟩ := exists_target hr h
    rw [heq]
    rfl

/-! ## Failures -/

/-- Only a reference is at fault, and the fault names its label. -/
theorem label_of_fault? {table : Table} {inst : Instruction} {cause : Error}
    (h : fault? table inst = some cause) : ∃ label, inst.operand = some (.label label) ∧
      (cause = .unscoped label ∨ cause = .unresolved label) := by
  cases hr : reference? inst with
  | none => simp [fault?, target?_of_reference?_eq_none hr] at h
  | some label =>
    have ho := reference?_eq_some.1 hr
    refine ⟨label, ho, ?_⟩
    cases label <;> cases hs : inst.scope <;>
      simp only [fault?, target?, ho, entryOf, hs] at h <;> grind

/-- The instructions in front of the first fault are resolved, and no other. -/
theorem resolve_error {table : Table} {code linked : List Instruction} {cause : Error}
    (h : resolve table code = (linked, .error cause)) : ∃ before bad after,
      code = before ++ bad :: after ∧ (∀ inst ∈ before, fault? table inst = none) ∧
        fault? table bad = some cause ∧ linked = before.map (resolved table) ++ bad :: after := by
  unfold resolve at h
  cases hf : code.findSome? (fault? table) with
  | none => rw [hf] at h; cases h
  | some found =>
    rw [hf] at h
    obtain ⟨before, bad, after, rfl, hbad, hbefore⟩ := List.findSome?_eq_some_iff.1 hf
    have hgood : ∀ inst ∈ before, (!(fault? table inst).isSome) = true := fun inst hm => by
      rw [hbefore inst hm]
      rfl
    dsimp only at h
    rw [List.takeWhile_append_of_pos hgood, List.dropWhile_append_of_pos hgood, List.takeWhile_cons,
      List.dropWhile_cons, hbad, Prod.mk.injEq, Except.error.injEq] at h
    obtain ⟨rfl, rfl⟩ := h
    exact ⟨before, bad, after, rfl, hbefore, hbad, by simp⟩

/-- **The references in front of the first bad one are resolved, and no other**, in the order of the
groups. -/
theorem resolveAll_error {table : Table} {groups linked : List (List Instruction)} {cause : Error}
    (h : resolveAll table groups = (linked, .error cause)) : ∃ before bad after,
      groups.flatten = before ++ bad :: after ∧ (∀ inst ∈ before, fault? table inst = none) ∧
        fault? table bad = some cause ∧
        linked.flatten = before.map (resolved table) ++ bad :: after ∧
        linked.map List.length = groups.map List.length := by
  induction groups generalizing linked with
  | nil => cases h
  | cons group rest ih =>
    rw [resolveAll] at h
    split at h
    · next group' cause' hr =>
      cases h
      obtain ⟨before, bad, after, rfl, hbefore, hbad, rfl⟩ := resolve_error hr
      exact ⟨before, bad, after ++ rest.flatten, by simp, hbefore, hbad, by simp, by simp⟩
    · next group' hr =>
      obtain ⟨hgroup, rfl⟩ := resolve_ok.1 hr
      obtain ⟨linked', result, hrest⟩ :
          ∃ linked' result, resolveAll table rest = (linked', result) := ⟨_, _, rfl⟩
      rw [hrest] at h
      cases h
      obtain ⟨before, bad, after, hflat, hbefore, hbad, hlinked, hlength⟩ := ih hrest
      refine ⟨group ++ before, bad, after, by simp [hflat], fun inst hm => ?_, hbad,
        by simp [hlinked], by simp [hlength]⟩
      rcases List.mem_append.1 hm with hm | hm
      · exact hgroup inst hm
      · exact hbefore inst hm

/-! ## Linking twice -/

/-- Resolving changes no declaration. -/
theorem declare_resolved (table other : Table) (inst : Instruction) :
    declare other (resolved table inst) = declare other inst := by
  unfold resolved
  split <;> rfl

theorem declarations_map_resolved (table : Table) (code : List Instruction) :
    declarations (code.map (resolved table)) = declarations code := by
  rw [declarations, declarations, List.foldlM_map]
  congr 1
  funext other inst
  exact declare_resolved table other inst

/-- Groups without references are linked as they are. -/
theorem link_of_no_reference {groups : List (List Instruction)} {table : Table}
    (hd : declarations groups.flatten = .ok table)
    (h : ∀ inst ∈ groups.flatten, reference? inst = none) : link groups = (groups, .ok ()) := by
  refine link_ok.2 ⟨table, hd, fun inst hm => ?_, ?_⟩
  · rw [fault?, target?_of_reference?_eq_none (h inst hm)]
  · have hgroup : ∀ group ∈ groups, group.map (resolved table) = group := fun group hg =>
      List.map_congr_left (fun inst hm => resolved_of_reference?_eq_none
        (h inst (List.mem_flatten.2 ⟨group, hg, hm⟩))) |>.trans (List.map_id group)
    exact ((List.map_congr_left hgroup).trans (List.map_id groups)).symm

/-- Linked groups are linked again to the same. -/
theorem link_linked {groups : List (List Instruction)} {table : Table}
    (hd : declarations groups.flatten = .ok table)
    (hf : ∀ inst ∈ groups.flatten, fault? table inst = none) :
    link (groups.map (·.map (resolved table))) = (groups.map (·.map (resolved table)), .ok ()) := by
  have hflat : (groups.map (·.map (resolved table))).flatten =
      groups.flatten.map (resolved table) := List.map_flatten.symm
  have hagain : declarations (groups.map (·.map (resolved table))).flatten = .ok table := by
    rw [hflat, declarations_map_resolved, hd]
  refine link_of_no_reference hagain fun inst hm => ?_
  rw [hflat] at hm
  obtain ⟨inst, hi, rfl⟩ := List.mem_map.1 hm
  exact reference?_resolved (hf inst hi)

/-! ## Groups -/

/-- Groups are linked to others. -/
structure GroupsLinked (groups linked : List (List Instruction)) : Prop where
  /-- Every instruction is linked where it stands. -/
  instructions : List.Forall₂ (List.Forall₂ (IsLinked groups.flatten)) groups linked
  /-- No reference is left. -/
  complete : ∀ inst ∈ linked.flatten, reference? inst = none
  /-- The layout stays valid. -/
  layout : List.Forall₂ (fun group group' => codeSize group' = codeSize group ∧
    ∀ start, Contiguous start group → Contiguous start group') groups linked
  /-- Linking again changes nothing. -/
  again : link linked = (linked, .ok ())

/-- Linking has failed at the first bad reference: those in front of it are resolved, and nothing
else has changed. -/
structure FailsAt (groups linked : List (List Instruction)) (cause : Error)
    (before : List Instruction) (bad : Instruction) (after : List Instruction) : Prop where
  split : groups.flatten = before ++ bad :: after
  passed : ∀ inst ∈ before, Resolvable groups.flatten inst
  fault : ¬ Resolvable groups.flatten bad
  /-- The error names the label. -/
  named : ∃ label, bad.operand = some (.label label) ∧
    (cause = .unscoped label ∨ cause = .unresolved label)
  resolved : ∃ front, linked.flatten = front ++ bad :: after ∧
    List.Forall₂ (IsLinked groups.flatten) before front
  /-- No instruction has changed its group. -/
  lengths : linked.map List.length = groups.map List.length

/-- What linking gives. -/
structure LinksExactly (groups linked : List (List Instruction)) (result : Except Error Unit) :
    Prop where
  /-- It succeeds exactly if all declarations can be collected and all references resolved. -/
  succeeds : result = .ok () ↔
    Collectable groups.flatten ∧ ∀ inst ∈ groups.flatten, Resolvable groups.flatten inst
  success : result = .ok () → GroupsLinked groups linked
  /-- Nothing has changed if the declarations cannot be collected. -/
  collecting : ¬ Collectable groups.flatten → linked = groups
  resolving : Collectable groups.flatten → ∀ cause, result = .error cause →
    ∃ before bad after, FailsAt groups linked cause before bad after

section
variable {groups : List (List Instruction)} {table : Table}
  (hd : declarations groups.flatten = .ok table)
include hd

/-- Resolved groups are linked. -/
theorem groupsLinked_resolved (hf : ∀ inst ∈ groups.flatten, fault? table inst = none) :
    GroupsLinked groups (groups.map (·.map (resolved table))) := by
  refine ⟨?_, fun inst hm => ?_, ?_, link_linked hd hf⟩
  · refine List.forall₂_map_right_iff.2 (List.forall₂_same.2 fun group hg => ?_)
    refine List.forall₂_map_right_iff.2 (List.forall₂_same.2 fun inst hm => ?_)
    exact isLinked_resolved hd (hf inst (List.mem_flatten.2 ⟨group, hg, hm⟩))
  · rw [← List.map_flatten] at hm
    obtain ⟨inst, hi, rfl⟩ := List.mem_map.1 hm
    exact reference?_resolved (hf inst hi)
  · refine List.forall₂_map_right_iff.2 (List.forall₂_same.2 fun group _ => ?_)
    exact ⟨codeSize_map (Patcher.size_resolved table) group,
      fun _ hc => hc.map (resolved_offset table) (Patcher.size_resolved table)⟩

/-- What has been resolved when a reference is at fault. -/
theorem exists_failsAt {linked : List (List Instruction)} {cause : Error}
    (h : resolveAll table groups = (linked, .error cause)) :
    ∃ before bad after, FailsAt groups linked cause before bad after := by
  obtain ⟨before, bad, after, hflat, hbefore, hbad, hlinked, hlength⟩ := resolveAll_error h
  refine ⟨before, bad, after, hflat, fun inst hm => (fault?_eq_none_iff hd).1 (hbefore inst hm),
    fun hgood => ?_, label_of_fault? hbad, ⟨_, hlinked, ?_⟩, hlength⟩
  · rw [(fault?_eq_none_iff hd).2 hgood] at hbad
    cases hbad
  · exact List.forall₂_map_right_iff.2 (List.forall₂_same.2 fun inst hm =>
      isLinked_resolved hd (hbefore inst hm))

end

end Linking

open Linking

/-- **Linking is exact.** It succeeds exactly if all declarations and references are right, changes
nothing but references, and if it fails at a reference, those in front of it are resolved. -/
theorem link_exact (groups : List (List Instruction)) :
    LinksExactly groups (link groups).1 (link groups).2 := by
  cases hd : declarations groups.flatten with
  | error cause =>
    have hnot : ¬ Collectable groups.flatten := fun hc => by
      obtain ⟨table, ht⟩ := exists_declarations_iff.2 hc
      rw [hd] at ht
      cases ht
    have hlink : link groups = (groups, .error cause) := by rw [link, hd]
    rw [hlink]
    exact ⟨⟨nofun, fun h => absurd h.1 hnot⟩, nofun, fun _ => rfl, fun hc => absurd hc hnot⟩
  | ok table =>
    have hcollectable : Collectable groups.flatten := exists_declarations_iff.1 ⟨table, hd⟩
    have hlink : link groups = resolveAll table groups := by rw [link, hd]
    rw [hlink]
    rcases hr : resolveAll table groups with ⟨linked, cause | _⟩
    · obtain ⟨before, bad, after, hfails⟩ := exists_failsAt hd hr
      have hbad : bad ∈ groups.flatten := by simp [hfails.split]
      refine ⟨⟨nofun, fun h => absurd (h.2 bad hbad) hfails.fault⟩, nofun,
        fun hnot => absurd hcollectable hnot, fun _ other he => ?_⟩
      cases he
      exact ⟨before, bad, after, hfails⟩
    · obtain ⟨hf, rfl⟩ := resolveAll_ok.1 hr
      exact ⟨⟨fun _ => ⟨hcollectable, fun inst hm => (fault?_eq_none_iff hd).1 (hf inst hm)⟩,
        fun _ => rfl⟩, fun _ => groupsLinked_resolved hd hf, fun hnot => absurd hcollectable hnot,
        nofun⟩

end EvmProbe
