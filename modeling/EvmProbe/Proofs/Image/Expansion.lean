import EvmProbe.Proofs.Bytecode.Instructions
import EvmProbe.Proofs.Fragment.Code

/-!
The expansions of instructions.

An expansion is the copy of at most one fragment (`spliced?`), with plain instructions around it
(`expand_eq`).  A jump destination keeps its place and gets a label (`expand_jumpdest`).

* `isRegular_expand`: the instructions of an expansion are regular.
* `filterMap_declared?_expand`: an expansion declares what its fragment declares.
* `exists_declared_expand`: what an expansion refers to within its scope, it declares itself.
-/

namespace EvmProbe

open Linking

namespace Instruction
variable {inst : Instruction}

theorem isRegular_pushInt {width : Nat} (value : Nat) : (pushInt (.pushN width) value).isRegular :=
  isRegular_iff.2 ⟨by simp [pushInt, Opcode.pushN], by simp [pushInt],
    by simp [reference?, pushInt]⟩

theorem isRegular_pushBytes {width : Nat} (bytes : Bytes) :
    (pushBytes (.pushN width) bytes).isRegular :=
  isRegular_iff.2 ⟨by simp [pushBytes, Opcode.pushN], by simp [pushBytes],
    by simp [reference?, pushBytes]⟩

end Instruction

/-- A decoded instruction is regular. -/
theorem IsDecoded.isRegular {offset : Nat} {byte : UInt8} {immediate : Bytes} {inst : Instruction}
    (h : IsDecoded offset byte immediate inst) : inst.isRegular := by
  rw [Instruction.isRegular_iff, h.label, h.reference?_eq_none]
  exact ⟨h.ne_data, by simp, by simp⟩

namespace Image

/-- The fragment that an expansion holds a copy of. -/
def spliced? (logsOnly : Bool) (opcode : Opcode) : Option Fragment :=
  match replaced? logsOnly opcode with
  | some fragment => some fragment
  | none =>
    match opcode with
    | .log _ => some .logPatch
    | .sstore => if logsOnly then none else some .sstorePatch
    | _ => none

/-- The copy of a fragment in an expansion. -/
def splice (options : PatchOptions) (scope : Scope) (opcode : Opcode) : List Instruction :=
  match spliced? options.logsOnly opcode with
  | some fragment => fragment.code options scope
  | none => []

end Image

namespace Patcher

/-- The settings of the runtime. -/
def settings (patcher : Patcher) : Image.Settings :=
  ⟨patcher.options.origin, patcher.options.logsOnly⟩

section
variable (patcher : Patcher) (size : Nat) (scope : Scope)

/-- The expansion of an instruction. -/
def expand (inst : Instruction) : List Instruction :=
  Image.expand patcher.settings patcher.fragments size scope inst

/-- What stands in an expansion beside the copy of a fragment. -/
inductive Around (inst : Instruction) : Instruction → Prop where
  | self (h : inst.opcode ≠ .jumpdest) : Around inst inst
  | offset : Around inst (.pushInt (.pushN 3) (inst.source.getD 0))
  | size : Around inst (.pushInt (.pushN 3) size)
  | origin : Around inst (.pushBytes (.pushN 20) (wordBytes patcher.options.origin))
  | topics (n : Fin 5) : Around inst (.pushInt (.pushN 1) n.val)

variable {patcher} {base : Scope} {inst : Instruction}

/-- **An expansion is the copy of at most one fragment, with plain instructions around it.** -/
theorem expand_eq (hp : patcher.Assembled base) (hj : inst.opcode ≠ .jumpdest) :
    ∃ front back, patcher.expand size scope inst =
        front ++ Image.splice patcher.options scope inst.opcode ++ back ∧
      (∀ i ∈ front ++ back, Around patcher size inst i) ∧
      codeSize (front ++ back) ≤ max 21 (inst.size + 2) := by
  have hpush (value : Nat) : codeSize [Instruction.pushInt (.pushN 3) value] ≤ 21 := by
    show 4 ≤ 21
    omega
  have hone : codeSize [inst] ≤ max 21 (inst.size + 2) := by
    rw [codeSize_cons, codeSize_nil]
    omega
  have hs : patcher.settings.logsOnly = patcher.options.logsOnly := rfl
  have hcopy (fragment : Fragment) : duplicate scope (patcher.fragments.get fragment) =
      fragment.code patcher.options scope := by rw [hp, Fragment.duplicate_code]
  unfold expand Image.expand Image.splice Image.spliced?
  rw [hs]
  cases hr : Image.replaced? patcher.options.logsOnly inst.opcode with
  | some fragment => exact ⟨[], [], by simp [hcopy], by simp, by simp⟩
  | none =>
    generalize ho : inst.opcode = op at hj ⊢
    dsimp only
    split
    · exact ⟨[.pushInt (.pushN 3) (inst.source.getD 0)], [], rfl, by simpa using .offset,
        Nat.le_trans (hpush _) (Nat.le_max_left _ _)⟩
    · exact ⟨[.pushInt (.pushN 3) size], [], rfl, by simpa using .size,
        Nat.le_trans (hpush _) (Nat.le_max_left _ _)⟩
    · exact ⟨[.pushBytes (.pushN 20) (wordBytes patcher.options.origin)], [], rfl,
        by simpa using .origin, Nat.le_max_left _ _⟩
    · exact absurd rfl hj
    · next topics =>
      refine ⟨[.pushInt (.pushN 1) topics.val], [inst], by simp [hcopy], ?_, ?_⟩
      · simpa using ⟨.topics topics, .self (by simp [ho])⟩
      · have htwo : (Instruction.pushInt (.pushN 1) topics.val).size = 2 := rfl
        rw [List.singleton_append, codeSize_cons, codeSize_cons, codeSize_nil, htwo]
        omega
    · exact ⟨[], [inst], by split <;> simp [hcopy], by simpa using .self (by simp [ho]), hone⟩
    · next hlog hsstore =>
      refine ⟨[], [inst], ?_, by simpa using .self (by rwa [ho]), hone⟩
      split
      · next h => split at h <;> simp_all
      · rfl

/-- A jump destination stays, and gets the label of its offset. -/
theorem expand_jumpdest (hj : inst.opcode = .jumpdest) : patcher.expand size scope inst =
    [inst.labelled (Image.jumpLabel (inst.source.getD 0))] := by
  have hr (logsOnly : Bool) : Image.replaced? logsOnly .jumpdest = none := by
    cases logsOnly <;> rfl
  simp only [expand, Image.expand, hj, hr]

/-- What stands around the copy is regular, and has no label and no reference. -/
theorem Around.spec {offset : Nat} {byte : UInt8} {immediate : Bytes} {i : Instruction}
    (h : Around patcher size inst i) (hd : IsDecoded offset byte immediate inst) :
    i.isRegular ∧ i.label = none ∧ reference? i = none := by
  cases h with
  | self => exact ⟨hd.isRegular, hd.label, hd.reference?_eq_none⟩
  | offset | size | topics => exact ⟨Instruction.isRegular_pushInt _, rfl, rfl⟩
  | origin => exact ⟨Instruction.isRegular_pushBytes _, rfl, rfl⟩

section
variable {offset : Nat} {byte : UInt8} {immediate : Bytes} {size} {scope}

/-- What an expansion consists of. -/
theorem mem_expand (hp : patcher.Assembled base) {i : Instruction}
    (hi : i ∈ patcher.expand size scope inst) :
    (inst.opcode = .jumpdest ∧ i = inst.labelled (Image.jumpLabel (inst.source.getD 0))) ∨
      Around patcher size inst i ∨ ∃ fragment, i ∈ fragment.code patcher.options scope ∧
        Image.spliced? patcher.options.logsOnly inst.opcode = some fragment := by
  by_cases hj : inst.opcode = .jumpdest
  · rw [expand_jumpdest _ _ hj, List.mem_singleton] at hi
    exact .inl ⟨hj, hi⟩
  · obtain ⟨front, back, he, haround, -⟩ := expand_eq size scope hp hj
    rw [he, List.mem_append, List.mem_append] at hi
    rcases hi with (hi | hi) | hi
    · exact .inr (.inl (haround i (by simp [hi])))
    · unfold Image.splice at hi
      split at hi
      · next fragment hf => exact .inr (.inr ⟨fragment, hi, hf⟩)
      · simp at hi
    · exact .inr (.inl (haround i (by simp [hi])))

theorem isRegular_expand (hp : patcher.Assembled base) (hd : IsDecoded offset byte immediate inst) :
    ∀ i ∈ patcher.expand size scope inst, i.isRegular := by
  intro i hi
  rcases mem_expand hp hi with ⟨hj, rfl⟩ | ha | ⟨fragment, hf, -⟩
  · rw [Instruction.isRegular_iff]
    exact ⟨by simp [Instruction.labelled, hj], fun _ _ => hj, fun label hl => by
      rw [show reference? (inst.labelled _) = reference? inst from rfl,
        hd.reference?_eq_none] at hl
      cases hl⟩
  · exact (ha.spec _ hd).1
  · exact Fragment.isRegular_code _ _ _ i hf

/-- **What an expansion refers to within its scope, it declares itself.** -/
theorem exists_declared_expand (hp : patcher.Assembled base)
    (hd : IsDecoded offset byte immediate inst) {site : Instruction} {name : String}
    (hi : site ∈ patcher.expand size scope inst) (hr : reference? site = some (.lexical name)) :
    site.scope = some scope ∧ ∃ decl ∈ patcher.expand size scope inst,
      decl.label = some (.lexical name) ∧ decl.scope = some scope ∧ decl.opcode = .jumpdest := by
  rcases mem_expand hp hi with ⟨hj, rfl⟩ | ha | ⟨fragment, hf, hs⟩
  · rw [show reference? (inst.labelled _) = reference? inst from rfl, hd.reference?_eq_none] at hr
    cases hr
  · rw [(ha.spec _ hd).2.2] at hr
    cases hr
  · have hlabels : .lexical name ∈ fragment.template.labels := by
      refine Fragment.lexical_mem_labels fragment ?_
      rw [← Fragment.filterMap_reference?_code patcher.options scope]
      exact List.mem_filterMap.2 ⟨site, hf, hr⟩
    have hscope {i : Instruction} (hm : i ∈ fragment.code patcher.options scope) :
        i.scope = some scope := Fragment.Template.scope_codeFrom _ _ hm
    have hmem := List.mem_map_of_mem (f := (·.entryIn scope)) hlabels
    rw [← Fragment.filterMap_declared?_code patcher.options] at hmem
    obtain ⟨decl, hdecl, hdec⟩ := List.mem_filterMap.1 hmem
    rw [declared?_of_scope (hscope hdecl)] at hdec
    obtain ⟨label, hl, he⟩ := Option.map_eq_some_iff.1 hdec
    obtain rfl : label = .lexical name := by
      cases label <;> simp_all [Label.entryIn]
    have hj : inst.opcode ≠ .jumpdest := by
      intro hj
      rw [hj] at hs
      cases hlogs : patcher.options.logsOnly <;> rw [hlogs] at hs <;> cases hs
    obtain ⟨front, back, hexp, -, -⟩ := expand_eq size scope hp hj
    refine ⟨hscope hf, decl, ?_, hl, hscope hdecl, ?_⟩
    · rw [hexp, Image.splice, hs]
      simp [hdecl]
    · exact (Instruction.isRegular_iff.1 (Fragment.isRegular_code _ _ _ decl hdecl)).2.1 _ hl

/-- What an expansion declares. -/
theorem filterMap_declared?_expand (hp : patcher.Assembled base)
    (hd : IsDecoded offset byte immediate inst) :
    (patcher.expand size scope inst).filterMap declared? =
      if inst.opcode = .jumpdest then [(Image.jumpLabel offset).entryIn scope]
      else match Image.spliced? patcher.options.logsOnly inst.opcode with
        | some fragment => fragment.template.labels.map (·.entryIn scope)
        | none => [] := by
  split
  · next hj =>
    rw [expand_jumpdest _ _ hj, hd.source, Option.getD_some]
    rfl
  · next hj =>
    obtain ⟨front, back, he, haround, -⟩ := expand_eq size scope hp hj
    have hnone (l : List Instruction) (hl : ∀ i ∈ l, i ∈ front ++ back) :
        l.filterMap declared? = [] := by
      rw [List.filterMap_eq_nil_iff]
      intro i hi
      rw [declared?, ((haround i (hl i hi)).spec _ hd).2.1]
      rfl
    rw [he, List.filterMap_append, List.filterMap_append, hnone front (by simp +contextual),
      hnone back (by simp +contextual), Image.splice]
    split
    · rw [List.nil_append, List.append_nil, Fragment.filterMap_declared?_code]
    · rfl

end

end

end Patcher

end EvmProbe
