import EvmProbe.Proofs.Program.Written
import Mathlib.Algebra.Ring.Nat
import Mathlib.Data.List.Basic

/-!
The code of the fragments.

A template whose labels all stand in front of an instruction assembles against every environment
that binds all constants (`assembleFrom_eq`), so that there is a patcher for all options
(`exists_new`), and what its fragments are is known (`Patcher.Assembled`).

* `duplicate_code`: a copy of a fragment is the fragment, assembled in another scope.
* `filterMap_declared?_code`, `filterMap_reference?_code`: what a fragment declares and refers to
  can be read off its template.
* `isRegular_code`: in a fragment, labels stand at JUMPDESTs and references are pushed in three
  bytes.
-/

namespace EvmProbe

open Linking

/-- The entry of a label in a scope. -/
def Label.entryIn (scope : Scope) : Label → Entry
  | .global name => ⟨none, name⟩
  | .lexical name => ⟨some scope, name⟩

theorem entryOf_some (label : Label) (scope : Scope) :
    entryOf label (some scope) = .ok (label.entryIn scope) := by
  cases label <;> rfl

theorem declared?_of_scope {inst : Instruction} {scope : Scope} (h : inst.scope = some scope) :
    declared? inst = inst.label.map (·.entryIn scope) := by
  unfold declared?
  rw [h]
  cases inst.label with
  | none => rfl
  | some label => rw [Option.bind_some, entryOf_some]; rfl

/-- An opcode of the machine; a label stands at a JUMPDEST only, and a reference is pushed in three
bytes. -/
def Instruction.isRegular (inst : Instruction) : Bool :=
  inst.opcode != .data && (inst.label.isNone || inst.opcode == .jumpdest) &&
    ((reference? inst).isNone || inst.opcode == .pushN 3)

theorem Instruction.isRegular_iff {inst : Instruction} : inst.isRegular = true ↔
    inst.opcode ≠ .data ∧ (∀ label, inst.label = some label → inst.opcode = .jumpdest) ∧
      ∀ label, reference? inst = some label → inst.opcode = .pushN 3 := by
  cases hl : inst.label <;> cases hr : reference? inst <;> simp [isRegular, hl, hr, and_assoc]

/-- An opcode of the machine takes up room. -/
theorem Instruction.size_pos_of_isRegular {inst : Instruction} (h : inst.isRegular) :
    0 < inst.size := by
  obtain ⟨byte, hb⟩ := Option.ne_none_iff_exists'.1 (mt toByte?_eq_none.1 (isRegular_iff.1 h).1)
  rw [size_of_toByte? hb]
  omega

namespace Fragment

/-! ## Templates -/

namespace Template

/-- The instructions of a template, with a value for every constant; `pending` is the label that
the next instruction gets. -/
def codeFrom (value : Key → Environment.Value) (scope : Scope) :
    (pending : Option Label) → Template → List Instruction
  | _, [] => []
  | pending, .blank :: rest => codeFrom value scope pending rest
  | _, .label target :: rest => codeFrom value scope (some target) rest
  | pending, .instruction opcode term :: rest =>
    { opcode, label := pending, scope := some scope
      operand := term.map fun
        | .literal operand => operand
        | .constant key => (value key).operand } :: codeFrom value scope none rest

/-- Every label stands in front of an instruction; `pending` tells whether one does already. -/
def labelsPrecede : (pending : Bool) → Template → Bool
  | pending, [] => !pending
  | pending, .blank :: rest => labelsPrecede pending rest
  | pending, .label _ :: rest => !pending && labelsPrecede true rest
  | _, .instruction _ _ :: rest => labelsPrecede false rest

/-- A template whose labels precede instructions assembles, with any values of the constants. -/
theorem assembleFrom_eq {env : Environment} {value : Key → Environment.Value}
    (henv : ∀ key, env.get? key = some (value key)) (scope : Scope) {template : Template}
    (number : Nat) (pending : Option (Label × Nat)) (h : labelsPrecede pending.isSome template) :
    Listing.assembleFrom env scope number pending (template.map .ok) =
      .ok (codeFrom value scope (pending.map (·.1)) template) := by
  induction template generalizing number pending with
  | nil =>
    cases pending with
    | none => rfl
    | some p => simp [labelsPrecede] at h
  | cons line template ih =>
    cases line with
    | blank =>
      rw [List.map_cons, Listing.assembleFrom, codeFrom]
      exact ih _ _ h
    | label target =>
      cases pending with
      | none =>
        rw [List.map_cons, Listing.assembleFrom, codeFrom]
        exact ih _ (some (target, number)) h
      | some p => simp [labelsPrecede] at h
    | instruction opcode term =>
      have hr := ih (number + 1) none h
      cases term with
      | none => simp [Listing.assembleFrom, Listing.resolveTerm, hr, codeFrom, Except.map]
      | some term =>
        cases term with
        | literal operand =>
          simp [Listing.assembleFrom, Listing.resolveTerm, Listing.Term.resolve, hr, codeFrom,
            Except.map]
        | constant key =>
          simp [Listing.assembleFrom, Listing.resolveTerm, Listing.Term.resolve, hr, codeFrom,
            Except.map, Environment.operand, henv]

/-- The labels that a template declares. -/
def labels (template : Template) : List Label :=
  template.filterMap fun
    | .label target => some target
    | _ => none

/-- The labels that a template refers to. -/
def references (template : Template) : List Label :=
  template.filterMap fun
    | .instruction _ (some (.literal (.label target))) => some target
    | _ => none

/-- The number of bytes that a template is encoded in. -/
def size (template : Template) : Nat :=
  (template.map fun
    | .instruction opcode _ => opcode.size
    | _ => 0).sum

section
variable (value : Key → Environment.Value) (scope : Scope)

/-- A template in another scope. -/
theorem duplicate_codeFrom (other : Scope) (pending : Option Label) (template : Template) :
    duplicate scope (codeFrom value other pending template) =
      codeFrom value scope pending template := by
  induction template generalizing pending with
  | nil => rfl
  | cons line template ih =>
    cases line with
    | blank => exact ih pending
    | label target => exact ih (some target)
    | instruction opcode term =>
      rw [codeFrom, codeFrom, ← ih none]
      rfl

theorem scope_codeFrom {pending : Option Label} {template : Template} {inst : Instruction}
    (h : inst ∈ codeFrom value scope pending template) : inst.scope = some scope := by
  rw [← duplicate_codeFrom value scope scope] at h
  obtain ⟨_, -, rfl⟩ := List.mem_map.1 h
  rfl

theorem filterMap_label_codeFrom (pending : Option Label) {template : Template}
    (h : labelsPrecede pending.isSome template) :
    (codeFrom value scope pending template).filterMap (·.label) =
      pending.toList ++ labels template := by
  induction template generalizing pending with
  | nil => cases pending <;> simp_all [labelsPrecede, codeFrom, labels]
  | cons line template ih =>
    cases line with
    | blank => exact ih _ h
    | label target =>
      cases pending with
      | none => exact ih (some target) h
      | some p => simp [labelsPrecede] at h
    | instruction opcode term =>
      have hr := ih none h
      cases pending <;> simpa [codeFrom, labels] using hr

theorem filterMap_reference?_codeFrom (pending : Option Label) (template : Template) :
    (codeFrom value scope pending template).filterMap reference? = references template := by
  have hv (key : Key) : ∀ label, (value key).operand ≠ .label label := by
    cases value key <;> simp [Environment.Value.operand]
  induction template generalizing pending with
  | nil => rfl
  | cons line template ih =>
    cases line with
    | blank => exact ih pending
    | label target => exact ih (some target)
    | instruction opcode term =>
      rw [codeFrom, references, List.filterMap_cons, List.filterMap_cons, ih none, references]
      congr 1
      rcases term with _ | ⟨key⟩ | ⟨operand⟩
      · rfl
      · cases hk : (value key).operand <;> simp_all [reference?]
      · cases operand <;> rfl

theorem codeSize_codeFrom (pending : Option Label) {template : Template}
    (h : ∀ inst ∈ codeFrom value scope pending template, inst.opcode ≠ .data) :
    codeSize (codeFrom value scope pending template) = template.size := by
  induction template generalizing pending with
  | nil => rfl
  | cons line template ih =>
    rw [size, List.map_cons, List.sum_cons]
    cases line with
    | blank => exact (ih _ h).trans (Nat.zero_add _).symm
    | label target => exact (ih (some target) h).trans (Nat.zero_add _).symm
    | instruction opcode term =>
      have hd : opcode ≠ .data := h _ List.mem_cons_self
      rw [codeFrom, codeSize_cons, ih none fun i hi => h i (List.mem_cons_of_mem _ hi),
        size]
      congr 1
      unfold Instruction.size
      split
      · exact absurd ‹_› hd
      · rfl

end

end Template

/-! ## Fragments -/

/-- The place of a fragment in the order in which they are assembled. -/
def index (fragment : Fragment) : Nat := all.idxOf fragment

theorem index_lt (fragment : Fragment) : fragment.index < all.length :=
  List.idxOf_lt_length_of_mem (mem_all fragment)

theorem index_inj {a b : Fragment} : a.index = b.index ↔ a = b :=
  List.idxOf_inj (mem_all a)

/-- The code of a fragment is found by its place. -/
theorem get_zipIdx_all (f : Fragment × Nat → List Instruction) (fragment : Fragment) :
    Fragments.get ⟨all.zipIdx.map fun entry => (entry.1, f entry)⟩ fragment =
      f (fragment, fragment.index) := by
  cases fragment <;> rfl

/-- The value of a constant in images patched with options. -/
def value (options : PatchOptions) : Key → Environment.Value
  | .hooksContractAddress => .address options.hooksAddress
  | .scratchMemLoc => .integer (BitVec.ofNat 256 Environment.scratchMemLoc)
  | .fakeReturndataMemLoc => .integer (BitVec.ofNat 256 Environment.fakeReturndataMemLoc)
  | .handleSpySstoreSelector => .selector options.selectors.sstore
  | .handleSpyLogSelector => .selector options.selectors.log
  | .handleSpyCallSelector => .selector options.selectors.call
  | .preambleSize => .integer (BitVec.ofNat 256 Environment.preambleSize)
  | .hookCallFailedError => .word Environment.hookCallFailed

/-- The code of a fragment in images patched with options. -/
def code (options : PatchOptions) (scope : Scope) (fragment : Fragment) : List Instruction :=
  fragment.template.codeFrom (value options) scope none

theorem labelsPrecede_template (fragment : Fragment) :
    fragment.template.labelsPrecede false = true := by
  cases fragment <;> rfl

section
variable (options : PatchOptions) (scope : Scope) (fragment : Fragment)

/-- **A copy of a fragment is the fragment, assembled in another scope.** -/
@[simp] theorem duplicate_code (other : Scope) :
    duplicate scope (fragment.code options other) = fragment.code options scope :=
  Template.duplicate_codeFrom _ _ _ _ _

theorem filterMap_declared?_code : (fragment.code options scope).filterMap declared? =
    fragment.template.labels.map (·.entryIn scope) := by
  have h := Template.filterMap_label_codeFrom (value options) scope none
    (labelsPrecede_template fragment)
  rw [Option.toList_none, List.nil_append] at h
  rw [← h, List.map_filterMap]
  exact List.filterMap_congr fun inst hm => declared?_of_scope (Template.scope_codeFrom _ _ hm)

theorem filterMap_reference?_code :
    (fragment.code options scope).filterMap reference? = fragment.template.references :=
  Template.filterMap_reference?_codeFrom _ _ _ _

/-- In a fragment, labels stand at JUMPDESTs and references are pushed in three bytes. -/
theorem isRegular_code : ∀ inst ∈ fragment.code options scope, inst.isRegular := by
  have h : (fragment.code options scope).all Instruction.isRegular = true := by
    cases fragment <;> rfl
  exact List.all_eq_true.1 h

theorem codeSize_code : codeSize (fragment.code options scope) = fragment.template.size :=
  Template.codeSize_codeFrom _ _ _ fun inst hm =>
    (Instruction.isRegular_iff.1 (isRegular_code options scope fragment inst hm)).1

/-- Whatever is no reference has an encoding in a fragment. -/
theorem isSome_encoded?_code : ∀ inst ∈ fragment.code options scope,
    reference? inst = none → inst.encoded?.isSome := by
  have h : (fragment.code options scope).all
      (fun inst => (reference? inst).isSome || inst.encoded?.isSome) = true := by
    cases fragment <;> rfl
  intro inst hm hr
  simpa [hr] using List.all_eq_true.1 h inst hm

/-- The labels of its scope that a fragment refers to are declared in it. -/
theorem lexical_mem_labels {name : String} (h : .lexical name ∈ fragment.template.references) :
    .lexical name ∈ fragment.template.labels := by
  have hall : ∀ label ∈ fragment.template.references,
      label.isGlobal ∨ label ∈ fragment.template.labels := by
    cases fragment <;> decide
  simpa [Label.isGlobal] using hall _ h

end

end Fragment

namespace Patcher

theorem new_ok {options : PatchOptions} {base : Scope} {env : Environment} {fragments : Fragments}
    (he : environment options = .ok env) (hf : Fragments.assemble env base = .ok fragments) :
    Patcher.new options base = .ok ⟨options, fragments⟩ := by
  unfold Patcher.new
  rw [he]
  dsimp only
  rw [hf]

/-- **There is a patcher for all options**, and its fragments are known. -/
theorem exists_new (options : PatchOptions) (base : Scope) :
    ∃ patcher, Patcher.new options base = .ok patcher ∧ patcher.options = options ∧
      ∀ fragment, patcher.fragments.get fragment =
        fragment.code options (base.after fragment.index) := by
  obtain ⟨env, he, henv⟩ : ∃ env, environment options = .ok env ∧
      ∀ key, env.get? key = some (Fragment.value options key) :=
    ⟨_, rfl, fun key => by cases key <;> rfl⟩
  have hone : Fragments.assembleOne env base = fun entry =>
      pure (entry.1, entry.1.code options (base.after entry.2)) := by
    funext entry
    rw [Fragments.assembleOne, Listing.assembleLines,
      Fragment.Template.assembleFrom_eq henv _ _ none (Fragment.labelsPrecede_template entry.1)]
    rfl
  have hall : Fragments.assemble env base = .ok ⟨Fragment.all.zipIdx.map fun entry =>
      (entry.1, entry.1.code options (base.after entry.2))⟩ := by
    rw [Fragments.assemble, hone]
    generalize Fragment.all.zipIdx = entries
    rw [List.mapM_pure]
    rfl
  refine ⟨⟨options, ⟨Fragment.all.zipIdx.map fun entry =>
    (entry.1, entry.1.code options (base.after entry.2))⟩⟩, ?_, rfl, fun fragment => ?_⟩
  · exact new_ok he hall
  · exact Fragment.get_zipIdx_all (fun entry => entry.1.code options (base.after entry.2)) fragment

/-- The fragments of a patcher are assembled with its options, in scopes from `base` on. -/
def Assembled (patcher : Patcher) (base : Scope) : Prop :=
  ∀ fragment, patcher.fragments.get fragment =
    fragment.code patcher.options (base.after fragment.index)

theorem assembled_of_new {options : PatchOptions} {base : Scope} {patcher : Patcher}
    (h : Patcher.new options base = .ok patcher) :
    patcher.options = options ∧ patcher.Assembled base := by
  obtain ⟨known, hk, ho, hf⟩ := exists_new options base
  rw [h, Except.ok.injEq] at hk
  subst hk
  exact ⟨ho, fun fragment => by rw [ho, hf]⟩

end Patcher

end EvmProbe
