import EvmProbe.Program.Linking
import Mathlib.Tactic.Common

/-!
What linking does.

The entries that a program declares are those of its labels (`declared?`), and its references are
the operands that are labels (`reference?`).

* `declarations_ok`: the table holds every declared entry with its offset, and no entry is declared
  twice.
* `exists_declarations`: placed instructions whose labels are of some scope and are all different
  have a table.
* `link_ok`: linked groups are the groups with every reference resolved from the table.
-/

namespace EvmProbe.Linking

/-! ## Declarations -/

/-- The entry that an instruction declares. -/
def declared? (inst : Instruction) : Option Entry :=
  inst.label.bind fun label => (entryOf label inst.scope).toOption

/-- The label that an instruction's operand is. -/
def reference? (inst : Instruction) : Option Label :=
  match inst.operand with
  | some (.label label) => some label
  | _ => none

/-- An instruction is placed and its label is of some scope, if it declares one. -/
def Declarable (inst : Instruction) : Prop :=
  inst.label.isSome → inst.offset.isSome ∧ (declared? inst).isSome

/-- Declaring an instruction without a label changes nothing; a label is added to the table unless
it is there already. -/
theorem declare_ok {table table' : Table} {inst : Instruction} :
    declare table inst = .ok table' ↔
      (inst.label = none ∧ table' = table) ∨
      ∃ entry offset, declared? inst = some entry ∧ inst.offset = some offset ∧ entry ∉ table ∧
        table' = table.insert entry offset := by
  cases hl : inst.label with
  | none =>
    have hd : declare table inst = .ok table := by rw [declare, hl]
    rw [hd, Except.ok.injEq, eq_comm]
    simp [declared?, hl]
  | some label =>
    cases ho : inst.offset with
    | none => simp [declare, hl, ho]
    | some offset =>
      cases he : entryOf label inst.scope with
      | error cause => simp [declare, declared?, hl, ho, he, Except.toOption]
      | ok entry =>
        by_cases hm : entry ∈ table
        · simp [declare, declared?, hl, ho, he, Except.toOption, hm]
        · have hd : declare table inst = .ok (table.insert entry offset) := by
            simp [declare, hl, ho, he, hm]
          rw [hd, Except.ok.injEq, eq_comm]
          simp [declared?, hl, he, Except.toOption, hm]

theorem isSome_label_of_declared? {inst : Instruction} {entry : Entry}
    (h : declared? inst = some entry) : inst.label.isSome := by
  obtain ⟨label, hl, -⟩ := Option.bind_eq_some_iff.1 h
  rw [hl]
  rfl

/-- What declares the entry of a label has that label, and the scope of a lexical one. -/
theorem label_of_declared? {label : Label} {scope : Option Scope} {entry : Entry}
    {decl : Instruction} (he : entryOf label scope = .ok entry)
    (hd : declared? decl = some entry) :
    decl.label = some label ∧ (label.isGlobal = false → decl.scope = scope) := by
  obtain ⟨other, hl, ho⟩ := Option.bind_eq_some_iff.1 hd
  rw [hl]
  cases label <;> cases other <;> cases scope <;> cases hs : decl.scope <;>
    simp_all [entryOf, Except.toOption, Label.isGlobal] <;> grind

/-- What a run over declarations adds to a table. -/
theorem foldlM_declare {table table' : Table} {code : List Instruction}
    (h : code.foldlM declare table = .ok table') :
    (∀ inst ∈ code, Declarable inst) ∧ (code.filterMap declared?).Nodup ∧
      (∀ entry ∈ code.filterMap declared?, entry ∉ table) ∧
      ∀ entry offset, table'[entry]? = some offset ↔ table[entry]? = some offset ∨
        ∃ inst ∈ code, declared? inst = some entry ∧ inst.offset = some offset := by
  induction code generalizing table with
  | nil =>
    cases h
    simp
  | cons inst code ih =>
    rw [List.foldlM_cons] at h
    cases hd : declare table inst with
    | error cause => rw [hd] at h; cases h
    | ok middle =>
      rw [hd] at h
      obtain ⟨hall, hnodup, hnew, hget⟩ := ih h
      rcases declare_ok.1 hd with ⟨hl, rfl⟩ | ⟨entry, offset, he, ho, hm, rfl⟩
      · have hn : declared? inst = none := by simp [declared?, hl]
        refine ⟨?_, by simpa [hn] using hnodup, by simpa [hn] using hnew, ?_⟩
        · simpa [Declarable, hl] using hall
        · simpa [hn] using hget
      · have hfresh : entry ∉ code.filterMap declared? := fun hc => hnew entry hc (by simp)
        refine ⟨?_, ?_, ?_, ?_⟩
        · simpa [Declarable, he, ho] using hall
        · rw [List.filterMap_cons_some he, List.nodup_cons]
          exact ⟨hfresh, hnodup⟩
        · rw [List.filterMap_cons_some he]
          intro e hmem
          rcases List.mem_cons.1 hmem with rfl | hmem
          · exact hm
          · exact fun ht => hnew e hmem (by simp [ht])
        · intro e o
          have hno : ∀ {o}, table[entry]? ≠ some o := by
            intro o h0
            exact hm (Std.HashMap.mem_iff_isSome_getElem?.2 (by simp [h0]))
          rw [hget, Std.HashMap.getElem?_insert]
          by_cases hee : entry = e
          · subst hee
            have hnot : ¬ ∃ i ∈ code, declared? i = some entry ∧ i.offset = some o := by
              rintro ⟨i, hi, hi', -⟩
              exact hfresh (List.mem_filterMap.2 ⟨i, hi, hi'⟩)
            simp [he, ho, hno]
          · simp [he, hee]

/-- **The table of a program holds every declared entry with its offset**, and no entry is declared
twice. -/
theorem declarations_ok {code : List Instruction} {table : Table}
    (h : declarations code = .ok table) :
    (code.filterMap declared?).Nodup ∧ ∀ entry offset, table[entry]? = some offset ↔
      ∃ inst ∈ code, declared? inst = some entry ∧ inst.offset = some offset := by
  obtain ⟨-, hnodup, -, hget⟩ := foldlM_declare h
  exact ⟨hnodup, fun entry offset => by simpa using hget entry offset⟩

theorem exists_foldlM_declare {table : Table} {code : List Instruction}
    (hall : ∀ inst ∈ code, Declarable inst) (hnodup : (code.filterMap declared?).Nodup)
    (hnew : ∀ entry ∈ code.filterMap declared?, entry ∉ table) :
    ∃ table', code.foldlM declare table = .ok table' := by
  induction code generalizing table with
  | nil => exact ⟨table, rfl⟩
  | cons inst code ih =>
    rw [List.foldlM_cons]
    have hrest : ∀ i ∈ code, Declarable i := fun i hi => hall i (by simp [hi])
    cases hd : declared? inst with
    | none =>
      have hl : inst.label = none := by
        by_contra hl
        have := (hall inst (by simp) (Option.isSome_iff_ne_none.2 hl)).2
        simp [hd] at this
      rw [List.filterMap_cons_none hd] at hnodup hnew
      rw [declare_ok.2 (.inl ⟨hl, rfl⟩)]
      exact ih hrest hnodup hnew
    | some entry =>
      rw [List.filterMap_cons_some hd] at hnodup hnew
      obtain ⟨hfresh, hnodup⟩ := List.nodup_cons.1 hnodup
      obtain ⟨offset, ho⟩ := Option.isSome_iff_exists.1
        (hall inst (by simp) (isSome_label_of_declared? hd)).1
      rw [declare_ok.2 (.inr ⟨entry, offset, hd, ho, hnew entry (by simp), rfl⟩)]
      refine ih hrest hnodup fun e he ht => ?_
      rcases Std.HashMap.mem_insert.1 ht with heq | ht
      · exact hfresh (beq_iff_eq.1 heq ▸ he)
      · exact hnew e (by simp [he]) ht

/-- Placed instructions whose labels are of some scope and are all different have a table. -/
theorem exists_declarations {code : List Instruction} (hall : ∀ inst ∈ code, Declarable inst)
    (hnodup : (code.filterMap declared?).Nodup) : ∃ table, declarations code = .ok table :=
  exists_foldlM_declare hall hnodup (by simp)

/-! ## References -/

theorem reference?_eq_some {inst : Instruction} {label : Label} :
    reference? inst = some label ↔ inst.operand = some (.label label) := by
  unfold reference?
  split
  · next h => simp [h]
  · next h => exact ⟨nofun, fun ho => (h label ho).elim⟩

/-- Resolving changes nothing but an operand. -/
@[simp] theorem resolved_opcode (table : Table) (inst : Instruction) :
    (resolved table inst).opcode = inst.opcode := by
  unfold resolved; split <;> rfl

@[simp] theorem resolved_offset (table : Table) (inst : Instruction) :
    (resolved table inst).offset = inst.offset := by
  unfold resolved; split <;> rfl

theorem target?_of_reference?_eq_none {table : Table} {inst : Instruction}
    (h : reference? inst = none) : target? table inst = .ok none := by
  unfold target?
  split
  · next hl => simp [reference?, hl] at h
  · rfl

/-- An operand that is no label stays. -/
theorem resolved_of_reference?_eq_none {table : Table} {inst : Instruction}
    (h : reference? inst = none) : resolved table inst = inst := by
  rw [resolved, target?_of_reference?_eq_none h]

/-- A reference that is no fault becomes the offset of its entry. -/
theorem exists_target {table : Table} {inst : Instruction} {label : Label}
    (hl : reference? inst = some label) (h : fault? table inst = none) :
    ∃ entry offset, entryOf label inst.scope = .ok entry ∧ table[entry]? = some offset ∧
      resolved table inst = { inst with operand := some (.int (BitVec.ofNat 256 offset)) } := by
  have ho := reference?_eq_some.1 hl
  cases he : entryOf label inst.scope with
  | error cause => simp [fault?, target?, ho, he] at h
  | ok entry =>
    cases hg : table[entry]? with
    | none => simp [fault?, target?, ho, he, hg] at h
    | some offset => exact ⟨entry, offset, rfl, hg, by simp [resolved, target?, ho, he, hg]⟩

/-- A reference to an entry of the table is no fault. -/
theorem fault?_eq_none {table : Table} {inst : Instruction}
    (h : ∀ label, reference? inst = some label →
      ∃ entry, entryOf label inst.scope = .ok entry ∧ entry ∈ table) :
    fault? table inst = none := by
  cases hr : reference? inst with
  | none => rw [fault?, target?_of_reference?_eq_none hr]
  | some label =>
    obtain ⟨entry, he, hm⟩ := h label hr
    simp [fault?, target?, reference?_eq_some.1 hr, he, Std.HashMap.getElem?_eq_some_getElem hm]

theorem resolve_ok {table : Table} {code linked : List Instruction} :
    resolve table code = (linked, .ok ()) ↔
      (∀ inst ∈ code, fault? table inst = none) ∧ linked = code.map (resolved table) := by
  unfold resolve
  cases h : code.findSome? (fault? table) with
  | none =>
    rw [Prod.mk.injEq]
    exact ⟨fun he => ⟨List.findSome?_eq_none_iff.1 h, he.1.symm⟩, fun he => ⟨he.2.symm, rfl⟩⟩
  | some cause =>
    obtain ⟨inst, hm, hi⟩ := List.exists_of_findSome?_eq_some h
    simp only [Prod.mk.injEq, reduceCtorEq, and_false, false_iff, not_and]
    intro hall
    simp [hall inst hm] at hi

theorem resolveAll_ok {table : Table} {groups linked : List (List Instruction)} :
    resolveAll table groups = (linked, .ok ()) ↔
      (∀ inst ∈ groups.flatten, fault? table inst = none) ∧
        linked = groups.map (·.map (resolved table)) := by
  induction groups generalizing linked with
  | nil => simp [resolveAll, eq_comm]
  | cons group rest ih =>
    rw [resolveAll]
    split
    · next group' cause hr =>
      simp only [Prod.mk.injEq, reduceCtorEq, and_false, false_iff, not_and]
      intro hall
      rw [resolve_ok.2 ⟨fun i hi => hall i (by simp [hi]), rfl⟩] at hr
      simp at hr
    · next group' hr =>
      obtain ⟨hg, rfl⟩ := resolve_ok.1 hr
      cases ha : resolveAll table rest with
      | mk rest' result =>
        simp only [Prod.mk.injEq, List.flatten_cons, List.mem_append, List.map_cons]
        constructor
        · rintro ⟨rfl, rfl⟩
          obtain ⟨hr, rfl⟩ := ih.1 ha
          exact ⟨fun i hi => hi.elim (hg i) (hr i), rfl⟩
        · rintro ⟨hall, rfl⟩
          have := ih.2 ⟨fun i hi => hall i (.inr hi), rfl⟩
          rw [ha, Prod.mk.injEq] at this
          exact ⟨by rw [this.1], this.2⟩

end EvmProbe.Linking

namespace EvmProbe

open Linking

/-- **Linked groups are the groups with every reference resolved from the table of all their
declarations.** -/
theorem link_ok {groups linked : List (List Instruction)} :
    link groups = (linked, .ok ()) ↔ ∃ table, declarations groups.flatten = .ok table ∧
      (∀ inst ∈ groups.flatten, fault? table inst = none) ∧
      linked = groups.map (·.map (resolved table)) := by
  unfold link
  cases h : declarations groups.flatten with
  | error cause => simp
  | ok table => simp [resolveAll_ok]

end EvmProbe
