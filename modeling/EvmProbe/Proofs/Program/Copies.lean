import EvmProbe.Proofs.Image.Labels
import EvmProbe.Proofs.Listing.Assembling
import EvmProbe.Proofs.Program.Renaming

/-!
Copies of a fragment among other groups.

A copy belongs to a scope of its own, so that its lexical labels are found by itself only.  Groups
are made one after the other, each in the next scopes that are handed out (`Made`): fragments are
assembled and copied, routers are built.

* `Fresh.append`, `Made.fresh`: a copy has its scope for itself.
* `Copied.exists_link`: copies are linked, and all other groups are linked as without them.
* `link_copies`: **copies relocate and do not interfere**; `refuses_repeated_label`: copies of a
  fragment that declares a lexical label twice cannot be linked.
-/

namespace EvmProbe

open Linking Patcher

/-! ## References to known declarations -/

namespace Linking

section
variable {code : List Instruction} {table : Table} (ht : declarations code = .ok table)
include ht

/-- A reference to a label that is declared becomes the offset of the declaration. -/
theorem resolved_of_declared {inst decl : Instruction} {label : Label} {entry : Entry}
    {offset : Nat} (hr : reference? inst = some label) (he : entryOf label inst.scope = .ok entry)
    (hm : decl ∈ code) (hd : declared? decl = some entry) (ho : decl.offset = some offset) :
    fault? table inst = none ∧
      resolved table inst = { inst with operand := some (.int (BitVec.ofNat 256 offset)) } := by
  have hget : table[entry]? = some offset :=
    ((declarations_ok ht).2 entry offset).2 ⟨decl, hm, hd, ho⟩
  have htarget : target? table inst = .ok (some offset) := by
    simp [target?, reference?_eq_some.1 hr, he, hget]
  rw [fault?, resolved, htarget]
  exact ⟨rfl, rfl⟩

/-- What is resolved among some instructions is resolved to the same among more. -/
theorem resolved_of_subset {part : List Instruction} {table' : Table}
    (ht' : declarations part = .ok table') (hsub : part ⊆ code) {inst : Instruction}
    (hf : fault? table' inst = none) :
    fault? table inst = none ∧ resolved table inst = resolved table' inst := by
  cases hr : reference? inst with
  | none =>
    rw [resolved_of_reference?_eq_none hr, resolved_of_reference?_eq_none hr, fault?,
      target?_of_reference?_eq_none hr]
    exact ⟨rfl, rfl⟩
  | some label =>
    obtain ⟨entry, offset, he, hget, heq⟩ := exists_target hr hf
    obtain ⟨decl, hm, hd, ho⟩ := ((declarations_ok ht').2 entry offset).1 hget
    rw [heq]
    exact resolved_of_declared ht hr he (hsub hm) hd ho

end

/-- The entry that an instruction declares is global or of its scope. -/
theorem scope_of_declared? {inst : Instruction} {entry : Entry} (h : declared? inst = some entry) :
    entry.scope = none ∨ entry.scope = inst.scope := by
  obtain ⟨label, -, he⟩ := Option.bind_eq_some_iff.1 h
  cases label with
  | global name =>
    obtain rfl : ⟨none, name⟩ = entry := by simpa [entryOf, Except.toOption] using he
    exact .inl rfl
  | lexical name =>
    cases hs : inst.scope with
    | none => simp [entryOf, hs, Except.toOption] at he
    | some scope =>
      obtain rfl : ⟨some scope, name⟩ = entry := by simpa [entryOf, hs, Except.toOption] using he
      exact .inr rfl

/-- The declaration of a global label, by its entry. -/
theorem declared?_eq_global_iff {inst : Instruction} {name : String} :
    declared? inst = some ⟨none, name⟩ ↔ inst.label = some (.global name) := by
  cases hl : inst.label with
  | none => simp [declared?, hl]
  | some label =>
    cases label <;> cases hs : inst.scope <;> simp [declared?, hl, hs, entryOf, Except.toOption]

end Linking

/-! ## Copies -/

/-- Where a copy of a fragment belongs: its scope, and the offset where it is laid out. -/
structure Placement where
  scope : Scope
  start : Nat

namespace Placement

/-- The instruction of a copy that stands at `offset` in the fragment. -/
def instruction (place : Placement) (inst : Instruction) (offset : Nat) : Instruction :=
  (inst.inScope place.scope).place (place.start + offset)

/-- The copy of a fragment, laid out. -/
def copy (place : Placement) (fragment : List Instruction) : List Instruction :=
  (layOut place.start (duplicate place.scope fragment)).1

end Placement

/-- The instructions of a copy stand where those of the code stand. -/
theorem standsAt_duplicate {scope : Scope} {code : List Instruction} {offset : Nat}
    {inst' : Instruction} : StandsAt (duplicate scope code) offset inst' ↔
      ∃ inst, StandsAt code offset inst ∧ inst.inScope scope = inst' := by
  constructor
  · rintro ⟨before, after, h, rfl⟩
    obtain ⟨front, rest, rfl, rfl, hrest⟩ := List.map_eq_append_iff.1 h
    obtain ⟨inst, back, rfl, rfl, rfl⟩ := List.map_eq_cons_iff.1 hrest
    exact ⟨inst, ⟨front, back, rfl, (codeSize_duplicate scope front).symm⟩, rfl⟩
  · rintro ⟨inst, h, rfl⟩
    exact h.map (f := (·.inScope scope)) fun _ _ => rfl

/-- The labels that code refers to in its own scope are declared in it, and it declares no other. -/
structure SelfContained (code : List Instruction) : Prop where
  /-- It declares no global label. -/
  lexical : ∀ inst ∈ code, ∀ name, inst.label ≠ some (.global name)
  /-- It declares the lexical labels that it refers to. -/
  closed : ∀ inst ∈ code, ∀ name, inst.operand = some (.label (.lexical name)) →
    ∃ decl ∈ code, decl.label = some (.lexical name)

section
variable {fragment : List Instruction} {place : Placement}

theorem mem_copy {inst' : Instruction} : inst' ∈ place.copy fragment ↔
    ∃ offset inst, StandsAt fragment offset inst ∧ inst' = place.instruction inst offset := by
  rw [Placement.copy, mem_layOut]
  constructor
  · rintro ⟨offset, own, hown, rfl⟩
    obtain ⟨inst, hat, rfl⟩ := standsAt_duplicate.1 hown
    exact ⟨offset, inst, hat, rfl⟩
  · rintro ⟨offset, inst, hat, rfl⟩
    exact ⟨offset, _, standsAt_duplicate.2 ⟨inst, hat, rfl⟩, rfl⟩

/-- What a copy declares. -/
theorem filterMap_declared?_copy : (place.copy fragment).filterMap declared? =
    (fragment.filterMap (·.label)).map (·.entryIn place.scope) := by
  rw [Placement.copy, filterMap_layOut declared?_place, filterMap_declared?_duplicate]

theorem declared?_instruction {inst : Instruction} {offset : Nat} :
    declared? (place.instruction inst offset) = inst.label.map (·.entryIn place.scope) :=
  declared?_of_scope rfl

/-- A copy of self-contained code declares labels of its scope only. -/
theorem SelfContained.scope_of_mem (h : SelfContained fragment) {entry : Entry}
    (hm : entry ∈ (place.copy fragment).filterMap declared?) : entry.scope = some place.scope := by
  rw [filterMap_declared?_copy] at hm
  obtain ⟨label, hl, rfl⟩ := List.mem_map.1 hm
  obtain ⟨inst, hi, hl⟩ := List.mem_filterMap.1 hl
  cases label with
  | global name => exact absurd hl (h.lexical inst hi name)
  | lexical name => rfl

/-- A copy in the scope of the fragment is the fragment. -/
theorem copy_own {scope : Scope} (h : ∀ inst ∈ fragment, inst.scope = some scope) (start : Nat) :
    Placement.copy ⟨scope, start⟩ fragment = (layOut start fragment).1 := by
  have hown : duplicate scope fragment = fragment := by
    refine (List.map_congr_left fun inst hm => ?_).trans (List.map_id fragment)
    rw [Instruction.inScope, ← h inst hm, id]
  rw [Placement.copy, hown]

end

/-- What becomes of a copy of a fragment, if `answer` says what becomes of instructions. -/
structure Relocated (fragment : List Instruction) (others : List (List Instruction))
    (answer : Instruction → Instruction) (place : Placement) : Prop where
  /-- A reference to a lexical label becomes the start of the copy, plus the offset in the fragment
  of the instruction that declares it there. -/
  lexical : ∀ k inst name, StandsAt fragment k inst →
    inst.operand = some (.label (.lexical name)) → ∃ j decl, StandsAt fragment j decl ∧
      fragment.filter (·.label = some (.lexical name)) = [decl] ∧
      answer (place.instruction inst k) = { place.instruction inst k with
        operand := some (.int (BitVec.ofNat 256 (place.start + j))) }
  /-- A reference to a global label becomes the offset of the instruction of another group that
  declares it. -/
  global : ∀ k inst name, StandsAt fragment k inst →
    inst.operand = some (.label (.global name)) → ∃ decl offset,
      others.flatten.filter (·.label = some (.global name)) = [decl] ∧ decl.offset = some offset ∧
      answer (place.instruction inst k) = { place.instruction inst k with
        operand := some (.int (BitVec.ofNat 256 offset)) }
  /-- Nothing else changes. -/
  kept : ∀ k inst, StandsAt fragment k inst → reference? inst = none →
    answer (place.instruction inst k) = place.instruction inst k

/-- Groups are copies of a fragment, each in a scope that it has for itself, and others that declare
what the fragment needs and can be linked. -/
structure Copied (fragment : List Instruction) (places : List Placement)
    (others groups : List (List Instruction)) : Prop where
  perm : groups.Perm (places.map (·.copy fragment) ++ others)
  distinct : (places.map (·.scope)).Nodup
  fresh : ∀ inst ∈ others.flatten, ∀ place ∈ places, inst.scope ≠ some place.scope
  globals : ∀ inst ∈ fragment, ∀ name, inst.operand = some (.label (.global name)) →
    ∃ decl ∈ others.flatten, decl.label = some (.global name)
  links : (link others).2 = .ok ()

namespace Copied
variable {fragment : List Instruction} {places : List Placement}
  {others groups : List (List Instruction)} (h : Copied fragment places others groups)
  (hself : SelfContained fragment) (hdistinct : (fragment.filterMap (·.label)).Nodup)
include h

theorem perm_flatten :
    groups.flatten.Perm (places.flatMap (·.copy fragment) ++ others.flatten) := by
  have := h.perm.flatten
  rwa [List.flatten_append, ← List.flatMap_def] at this

theorem mem_flatten {inst : Instruction} : inst ∈ groups.flatten ↔
    (∃ place ∈ places, inst ∈ place.copy fragment) ∨ inst ∈ others.flatten := by
  rw [h.perm_flatten.mem_iff, List.mem_append, List.mem_flatMap]

theorem others_subset : others.flatten ⊆ groups.flatten := fun _ hm => h.mem_flatten.2 (.inr hm)

include hself hdistinct

/-- Copies and other groups declare different labels. -/
theorem nodup_declared : (groups.flatten.filterMap declared?).Nodup := by
  rw [(h.perm_flatten.filterMap declared?).nodup_iff, List.filterMap_append, List.filterMap_flatMap,
    List.nodup_append']
  refine ⟨List.nodup_flatMap.2 ⟨fun place _ => ?_, ?_⟩, (link_eq_ok_iff.1 h.links).1.distinct, ?_⟩
  · rw [filterMap_declared?_copy]
    exact hdistinct.map (Label.entryIn_injective place.scope)
  · refine (List.pairwise_map.1 h.distinct).imp fun {a b} hab entry ha hb => hab ?_
    have hscope := (hself.scope_of_mem ha).symm.trans (hself.scope_of_mem hb)
    exact Option.some.inj hscope
  · intro entry hc ho
    obtain ⟨place, hp, hc⟩ := List.mem_flatMap.1 hc
    obtain ⟨inst, hi, hd⟩ := List.mem_filterMap.1 ho
    have hs := hself.scope_of_mem hc
    rcases scope_of_declared? hd with hn | hn
    · rw [hn] at hs
      cases hs
    · exact h.fresh inst hi place hp (hn.symm.trans hs)

/-- The declarations of copies and other groups can be collected. -/
theorem collectable : Collectable groups.flatten := by
  have hothers := (link_eq_ok_iff.1 h.links).1
  refine ⟨fun inst hm hl => ?_, fun inst hm name hl => ?_, h.nodup_declared hself hdistinct⟩
  · rcases h.mem_flatten.1 hm with ⟨place, -, hm⟩ | hm
    · obtain ⟨k, own, -, rfl⟩ := mem_copy.1 hm
      rfl
    · exact hothers.placed inst hm hl
  · rcases h.mem_flatten.1 hm with ⟨place, -, hm⟩ | hm
    · obtain ⟨k, own, -, rfl⟩ := mem_copy.1 hm
      rfl
    · exact hothers.inScope inst hm name hl

/-- A reference of a copy to a lexical label is found in the copy. -/
theorem lexical {table : Table} (ht : declarations groups.flatten = .ok table) {place : Placement}
    (hp : place ∈ places) {k : Nat} {inst : Instruction} {name : String}
    (hat : StandsAt fragment k inst) (ho : inst.operand = some (.label (.lexical name))) :
    ∃ j decl, StandsAt fragment j decl ∧
      fragment.filter (·.label = some (.lexical name)) = [decl] ∧
      fault? table (place.instruction inst k) = none ∧
      resolved table (place.instruction inst k) = { place.instruction inst k with
        operand := some (.int (BitVec.ofNat 256 (place.start + j))) } := by
  obtain ⟨decl, hd, hl⟩ := hself.closed inst hat.mem name ho
  obtain ⟨j, hj⟩ := StandsAt.exists_of_mem hd
  have hmem : place.instruction decl j ∈ groups.flatten :=
    h.mem_flatten.2 (.inl ⟨place, hp, mem_copy.2 ⟨j, decl, hj, rfl⟩⟩)
  exact ⟨j, decl, hj, filter_eq_singleton hdistinct hd hl,
    resolved_of_declared ht (reference?_eq_some.2 ho) (entryOf_some _ _) hmem
      (by rw [declared?_instruction, hl, Option.map_some]) rfl⟩

omit hself hdistinct in
/-- A reference of a copy to a global label is found in the other groups. -/
theorem global {table : Table} (ht : declarations groups.flatten = .ok table) (place : Placement)
    {k : Nat} {inst : Instruction} {name : String} (hat : StandsAt fragment k inst)
    (ho : inst.operand = some (.label (.global name))) :
    ∃ decl offset, others.flatten.filter (·.label = some (.global name)) = [decl] ∧
      decl.offset = some offset ∧ fault? table (place.instruction inst k) = none ∧
      resolved table (place.instruction inst k) = { place.instruction inst k with
        operand := some (.int (BitVec.ofNat 256 offset)) } := by
  obtain ⟨decl, hd, hl⟩ := h.globals inst hat.mem name ho
  have hothers := (link_eq_ok_iff.1 h.links).1
  obtain ⟨offset, hoffset⟩ := Option.isSome_iff_exists.1 (hothers.placed decl hd (by rw [hl]; rfl))
  have hentry := declared?_eq_global_iff.2 hl
  have hfilter := filter_eq_singleton hothers.distinct hd hentry
  simp only [declared?_eq_global_iff] at hfilter
  exact ⟨decl, offset, hfilter, hoffset, resolved_of_declared ht (reference?_eq_some.2 ho) rfl
    (h.others_subset hd) hentry hoffset⟩

/-- **Copies are linked, and all other groups are linked as without them.** -/
theorem exists_link : ∃ answer : Instruction → Instruction,
    link groups = (groups.map (·.map answer), .ok ()) ∧
    link others = (others.map (·.map answer), .ok ()) ∧
    ∀ place ∈ places, Relocated fragment others answer place := by
  obtain ⟨table, ht⟩ := exists_declarations_iff.2 (h.collectable hself hdistinct)
  obtain ⟨own, hown, hfaults, hlinked⟩ := link_ok.1 (Prod.ext rfl h.links)
  have hsame {inst : Instruction} (hm : inst ∈ others.flatten) :=
    resolved_of_subset ht hown h.others_subset (hfaults inst hm)
  have hrelocated : ∀ place ∈ places, Relocated fragment others (resolved table) place := by
    intro place hp
    refine ⟨fun k inst name hat ho => ?_, fun k inst name hat ho => ?_, fun k inst _ hr => ?_⟩
    · obtain ⟨j, decl, hj, hone, -, heq⟩ := h.lexical hself hdistinct ht hp hat ho
      exact ⟨j, decl, hj, hone, heq⟩
    · obtain ⟨decl, offset, hone, hoffset, -, heq⟩ := h.global ht place hat ho
      exact ⟨decl, offset, hone, hoffset, heq⟩
    · exact resolved_of_reference?_eq_none hr
  refine ⟨resolved table, link_ok.2 ⟨table, ht, fun inst hm => ?_, rfl⟩, ?_, hrelocated⟩
  · rcases h.mem_flatten.1 hm with ⟨place, hp, hm⟩ | hm
    · obtain ⟨k, own, hat, rfl⟩ := mem_copy.1 hm
      cases hr : reference? own with
      | none => exact fault?_eq_none fun label hl => by cases hr.symm.trans hl
      | some label =>
        cases label with
        | lexical name =>
          obtain ⟨-, -, -, -, hf, -⟩ :=
            h.lexical hself hdistinct ht hp hat (reference?_eq_some.1 hr)
          exact hf
        | global name =>
          obtain ⟨-, -, -, -, hf, -⟩ := h.global ht place hat (reference?_eq_some.1 hr)
          exact hf
    · exact (hsame hm).1
  · have hmap : others.map (·.map (resolved own)) = others.map (·.map (resolved table)) :=
      List.map_congr_left fun group hg => List.map_congr_left fun inst hm =>
        ((hsame (List.mem_flatten.2 ⟨group, hg, hm⟩)).2).symm
    rw [← hmap]
    exact link_ok.2 ⟨own, hown, hfaults, rfl⟩

end Copied

/-! ## Groups that are made one after the other -/

/-- Groups that are made in `count` scopes from `next` on. -/
inductive MadeIn (next : Scope) : (count : Nat) → List (List Instruction) → Prop where
  /-- A listing is assembled. -/
  | assembled {env : Environment} {text : String} {code : List Instruction}
    (h : Listing.assemble env next text = .ok code) : MadeIn next 1 [code]
  /-- Code is copied. -/
  | copied (code : List Instruction) : MadeIn next 1 [duplicate next code]
  /-- The router of a runtime is built. -/
  | jumpRouter (runtime : List Instruction) : MadeIn next 1 [Image.jumpRouter next runtime]
  /-- The routers for a table of accounts are built. -/
  | accountRouters (accounts : Accounts) : MadeIn next 3 (Image.accountRouters next accounts)

/-- What is made in the scopes from `first` on and in front of `last`: copies of a fragment, and
other groups, which are laid out. -/
inductive Made (fragment : List Instruction) :
    (first last : Scope) → List Placement → List (List Instruction) → Prop where
  | nothing (next : Scope) : Made fragment next next [] []
  | copy {next last : Scope} {places : List Placement} {others : List (List Instruction)}
    (start : Nat) (h : Made fragment (next.after 1) last places others) :
    Made fragment next last (⟨next, start⟩ :: places) others
  | other {next last : Scope} {count : Nat} {made placed : List (List Instruction)}
    {places : List Placement} {others : List (List Instruction)} (hmade : MadeIn next count made)
    (hplaced : ∀ group ∈ placed, ∃ own ∈ made, ∃ start, group = (layOut start own).1)
    (h : Made fragment (next.after count) last places others) :
    Made fragment next last places (placed ++ others)
  /-- Scopes are used for something else. -/
  | elsewhere {next last : Scope} (count : Nat) {places : List Placement}
    {others : List (List Instruction)} (h : Made fragment (next.after count) last places others) :
    Made fragment next last places others

theorem MadeIn.scope {next : Scope} {count : Nat} {groups : List (List Instruction)}
    (h : MadeIn next count groups) :
    ∀ inst ∈ groups.flatten, ∃ i < count, inst.scope = some (next.after i) := by
  have hduplicate {scope : Scope} {code : List Instruction} :
      ∀ inst ∈ duplicate scope code, inst.scope = some scope := by
    intro inst hm
    obtain ⟨own, -, rfl⟩ := List.mem_map.1 hm
    rfl
  intro inst hm
  cases h with
  | assembled h =>
    rw [List.flatten_singleton] at hm
    exact ⟨0, Nat.one_pos, (Listing.isAssembled_of_assemble h inst hm).scope⟩
  | copied code =>
    rw [List.flatten_singleton] at hm
    exact ⟨0, Nat.one_pos, hduplicate inst hm⟩
  | jumpRouter runtime =>
    rw [List.flatten_singleton] at hm
    exact ⟨0, Nat.one_pos, hduplicate inst hm⟩
  | accountRouters accounts =>
    simp only [Image.accountRouters, List.flatten_cons, List.flatten_nil, List.append_nil,
      List.mem_append] at hm
    rcases hm with hm | hm | hm
    · exact ⟨0, by decide, hduplicate inst hm⟩
    · exact ⟨1, by decide, hduplicate inst hm⟩
    · exact ⟨2, by decide, hduplicate inst hm⟩

/-- What is laid out keeps its scopes. -/
theorem MadeIn.scope_placed {next : Scope} {count : Nat} {made placed : List (List Instruction)}
    (h : MadeIn next count made)
    (hplaced : ∀ group ∈ placed, ∃ own ∈ made, ∃ start, group = (layOut start own).1) :
    ∀ inst ∈ placed.flatten, ∃ i < count, inst.scope = some (next.after i) := by
  intro inst hm
  obtain ⟨group, hg, hm⟩ := List.mem_flatten.1 hm
  obtain ⟨own, ho, start, rfl⟩ := hplaced group hg
  obtain ⟨k, inst, hat, rfl⟩ := mem_layOut.1 hm
  exact h.scope inst (List.mem_flatten.2 ⟨own, ho, hat.mem⟩)

/-- The scopes from `first` on and in front of `last` are given to copies, each to one, and others
to the other groups. -/
structure Fresh (first last : Scope) (places : List Placement) (others : List (List Instruction)) :
    Prop where
  le : first.id ≤ last.id
  distinct : (places.map (·.scope)).Nodup
  copies : ∀ place ∈ places, first.id ≤ place.scope.id ∧ place.scope.id < last.id
  rest : ∀ inst ∈ others.flatten, ∃ scope, inst.scope = some scope ∧
    (first.id ≤ scope.id ∧ scope.id < last.id) ∧ ∀ place ∈ places, place.scope ≠ scope

namespace Fresh
variable {first mid last : Scope} {places places' : List Placement}
  {others others' : List (List Instruction)}

/-- What is made of later scopes shares none with what has been made. -/
theorem append (h : Fresh first mid places others) (h' : Fresh mid last places' others') :
    Fresh first last (places ++ places') (others ++ others') := by
  have hle := h.le
  have hle' := h'.le
  refine ⟨by omega, ?_, fun place hp => ?_, fun inst hm => ?_⟩
  · rw [List.map_append]
    refine List.nodup_append'.2 ⟨h.distinct, h'.distinct, fun scope hs hs' => ?_⟩
    obtain ⟨place, hp, rfl⟩ := List.mem_map.1 hs
    obtain ⟨place', hp', heq⟩ := List.mem_map.1 hs'
    have hlt := (h.copies place hp).2
    have hge := (h'.copies place' hp').1
    rw [heq] at hge
    exact Nat.not_lt.2 hge hlt
  · rcases List.mem_append.1 hp with hp | hp
    · have := h.copies place hp
      omega
    · have := h'.copies place hp
      omega
  · rw [List.flatten_append, List.mem_append] at hm
    rcases hm with hm | hm
    · obtain ⟨scope, hs, hbounds, hne⟩ := h.rest inst hm
      refine ⟨scope, hs, by omega, List.forall_mem_append.2 ⟨hne, fun place hp heq => ?_⟩⟩
      have := (h'.copies place hp).1
      rw [heq] at this
      exact Nat.not_lt.2 this hbounds.2
    · obtain ⟨scope, hs, hbounds, hne⟩ := h'.rest inst hm
      refine ⟨scope, hs, by omega, List.forall_mem_append.2 ⟨fun place hp heq => ?_, hne⟩⟩
      have := (h.copies place hp).2
      rw [heq] at this
      exact Nat.not_lt.2 hbounds.1 this

/-- One scope is for one copy, or for none. -/
theorem one (next : Scope) (start : Option Nat) :
    Fresh next (next.after 1) (start.toList.map (Placement.mk next)) [] := by
  refine ⟨Nat.le_succ _, by cases start <;> simp, fun place hp => ?_, by simp⟩
  obtain ⟨_, -, rfl⟩ := List.mem_map.1 hp
  exact ⟨Nat.le_refl _, Nat.lt_succ_self _⟩

end Fresh

/-- **A copy has its scope for itself.** -/
theorem Made.fresh {fragment : List Instruction} {first last : Scope} {places : List Placement}
    {others : List (List Instruction)} (h : Made fragment first last places others) :
    Fresh first last places others := by
  induction h with
  | nothing next => exact ⟨Nat.le_refl _, List.nodup_nil, by simp, by simp⟩
  | @copy next _ _ _ start _ ih => exact (Fresh.one next (some start)).append ih
  | @other next _ count _ placed _ _ hmade hplaced _ ih =>
    have hfresh : Fresh next (next.after count) [] placed := by
      refine ⟨Nat.le_add_right _ _, List.nodup_nil, by simp, fun inst hm => ?_⟩
      obtain ⟨i, hi, hscope⟩ := hmade.scope_placed hplaced inst hm
      exact ⟨_, hscope, ⟨Nat.le_add_right _ _, Nat.add_lt_add_left hi _⟩, by simp⟩
    exact hfresh.append ih
  | @elsewhere next _ count _ _ _ ih =>
    have hfresh : Fresh next (next.after count) [] [] :=
      ⟨Nat.le_add_right _ _, List.nodup_nil, by simp, by simp⟩
    exact hfresh.append ih

/-- **Copies relocate and do not interfere.**  A fragment that is assembled, contains what it refers
to in its own scope and declares no label twice may be copied any number of times, before, between
and behind other groups, and may itself be laid out among them; groups that were made before it may
be there as well. -/
theorem link_copies {env : Environment} {first base last : Scope} {text : String}
    {fragment : List Instruction} (hf : Listing.assemble env base text = .ok fragment)
    (hself : SelfContained fragment) (hdistinct : (fragment.filterMap (·.label)).Nodup)
    {places : List Placement} {earlier later groups : List (List Instruction)}
    (hearlier : Made fragment first base [] earlier)
    (hlater : Made fragment (base.after 1) last places later) (own : Option Nat)
    (hperm : groups.Perm (own.toList.map (fun start => (layOut start fragment).1) ++
      places.map (·.copy fragment) ++ (earlier ++ later)))
    (hglobal : ∀ inst ∈ fragment, ∀ name, inst.operand = some (.label (.global name)) →
      ∃ decl ∈ (earlier ++ later).flatten, decl.label = some (.global name))
    (hlink : (link (earlier ++ later)).2 = .ok ()) : ∃ answer : Instruction → Instruction,
    link groups = (groups.map (·.map answer), .ok ()) ∧
    link (earlier ++ later) = ((earlier ++ later).map (·.map answer), .ok ()) ∧
    ∀ place ∈ own.toList.map (Placement.mk base) ++ places,
      Relocated fragment (earlier ++ later) answer place := by
  have hscope : ∀ inst ∈ fragment, inst.scope = some base := fun inst hm =>
    (Listing.isAssembled_of_assemble hf inst hm).scope
  have hfresh : Fresh first last (own.toList.map (Placement.mk base) ++ places)
      (earlier ++ later) :=
    hearlier.fresh.append ((Fresh.one base own).append hlater.fresh)
  have hcopied : Copied fragment (own.toList.map (Placement.mk base) ++ places)
      (earlier ++ later) groups := by
    refine ⟨?_, hfresh.distinct, fun inst hm place hp heq => ?_, hglobal, hlink⟩
    · rw [List.map_append, List.map_map]
      have hown : (fun start => (layOut start fragment).1) =
          (·.copy fragment) ∘ Placement.mk base := funext fun start => (copy_own hscope start).symm
      rwa [hown] at hperm
    · obtain ⟨scope, hs, -, hne⟩ := hfresh.rest inst hm
      exact hne place hp (Option.some.inj (heq.symm.trans hs))
  exact hcopied.exists_link hself hdistinct

/-- A JUMPDEST, the pushes of its offset and of that of a global label, and a JUMP. -/
def jumpBack (scope : Scope) : List Instruction :=
  duplicate scope [(Instruction.plain .jumpdest).labelled (.lexical "a"),
    Instruction.pushLabel (.pushN 3) (.lexical "a"),
    Instruction.pushLabel (.pushN 3) (.global "b"), Instruction.plain .jump]

/-- Two STOPs: the first one declares a global label, and the other one a lexical label. -/
def stops (scope : Scope) : List Instruction :=
  duplicate scope [(Instruction.plain .stop).labelled (.global "b"),
    (Instruction.plain .stop).labelled (.lexical "a")]

theorem selfContained_jumpBack (scope : Scope) : SelfContained (jumpBack scope) := by
  constructor <;>
    simp [jumpBack, duplicate, Instruction.inScope, Instruction.plain, Instruction.labelled,
      Instruction.pushLabel]

/-- Code with a lexical label is laid out at 20; a copy of it goes to the front, and code that
declares the same lexical label, and the global label that it refers to, stands behind it. -/
theorem link_copies_jumpBack :
    Listing.assemble .empty ⟨0⟩ ":a\nJUMPDEST\nPUSH3 :a\nPUSH3 ::b\nJUMP" = .ok (jumpBack ⟨0⟩) ∧
    Listing.assemble .empty ⟨2⟩ "::b\nSTOP\n:a\nSTOP" = .ok (stops ⟨2⟩) ∧
    (link [(layOut 40 (stops ⟨2⟩)).1]).2 = .ok () ∧
    ∃ answer : Instruction → Instruction,
      link [(layOut 0 (jumpBack ⟨1⟩)).1, (layOut 40 (stops ⟨2⟩)).1, (layOut 20 (jumpBack ⟨0⟩)).1] =
        ([(layOut 0 (jumpBack ⟨1⟩)).1, (layOut 40 (stops ⟨2⟩)).1,
          (layOut 20 (jumpBack ⟨0⟩)).1].map (·.map answer), .ok ()) ∧
      link [(layOut 40 (stops ⟨2⟩)).1] = ([(layOut 40 (stops ⟨2⟩)).1].map (·.map answer), .ok ()) ∧
      ∀ place ∈ [Placement.mk ⟨0⟩ 20, Placement.mk ⟨1⟩ 0],
        Relocated (jumpBack ⟨0⟩) [(layOut 40 (stops ⟨2⟩)).1] answer place := by
  have hfragment : Listing.assemble .empty ⟨0⟩ ":a\nJUMPDEST\nPUSH3 :a\nPUSH3 ::b\nJUMP" =
      .ok (jumpBack ⟨0⟩) := rfl
  have hother : Listing.assemble .empty ⟨2⟩ "::b\nSTOP\n:a\nSTOP" = .ok (stops ⟨2⟩) := rfl
  have hlinks : (link [(layOut 40 (stops ⟨2⟩)).1]).2 = .ok () :=
    links_of_declared (by decide) (by decide) (by decide)
  have hlater : Made (jumpBack ⟨0⟩) ⟨1⟩ ⟨3⟩ [⟨⟨1⟩, 0⟩] ([(layOut 40 (stops ⟨2⟩)).1] ++ []) :=
    .copy 0 (.other (.assembled hother)
      (List.forall_mem_singleton.2 ⟨_, List.mem_singleton_self _, 40, rfl⟩) (.nothing _))
  have hglobal : ∀ inst ∈ jumpBack ⟨0⟩, ∀ name, inst.operand = some (.label (.global name)) →
      ∃ decl ∈ [(layOut 40 (stops ⟨2⟩)).1].flatten, decl.label = some (.global name) := by
    simp [jumpBack, stops, layOut, duplicate, Instruction.inScope, Instruction.plain,
      Instruction.labelled, Instruction.pushLabel, Instruction.place]
  exact ⟨hfragment, hother, hlinks, link_copies hfragment (selfContained_jumpBack ⟨0⟩) (by decide)
    (.nothing _) hlater (some 20) (by decide) hglobal hlinks⟩

/-- Two STOPs that declare the same lexical label. -/
def stopTwice (scope : Scope) : List Instruction :=
  duplicate scope [(Instruction.plain .stop).labelled (.lexical "a"),
    (Instruction.plain .stop).labelled (.lexical "a")]

/-- **A copy of a fragment that declares a lexical label twice cannot be linked.**  The fragment is
assembled all the same, and it refers to no label. -/
theorem refuses_repeated_label :
    Listing.assemble .empty ⟨0⟩ ":a\nSTOP\n:a\nSTOP" = .ok (stopTwice ⟨0⟩) ∧
    SelfContained (stopTwice ⟨0⟩) ∧ Made (stopTwice ⟨0⟩) ⟨1⟩ ⟨2⟩ [⟨⟨1⟩, 0⟩] [] ∧
    (∀ inst ∈ stopTwice ⟨0⟩, reference? inst = none) ∧ (link []).2 = .ok () ∧
    (link [Placement.copy ⟨⟨1⟩, 0⟩ (stopTwice ⟨0⟩)]).2 ≠ .ok () := by
  have hself : SelfContained (stopTwice ⟨0⟩) := by
    constructor <;>
      simp [stopTwice, duplicate, Instruction.inScope, Instruction.plain, Instruction.labelled]
  refine ⟨rfl, hself, .copy 0 (.nothing _), by decide, rfl, fun hlink => ?_⟩
  have htwice :
      ¬ ([Placement.copy ⟨⟨1⟩, 0⟩ (stopTwice ⟨0⟩)].flatten.filterMap declared?).Nodup := by
    decide
  exact htwice (link_eq_ok_iff.1 hlink).1.distinct

end EvmProbe
