import EvmProbe.Proofs.Trace.Addresses
import EvmProbe.Trace.Tracer

/-!
What the tracer knows of accounts.

* `isKnown_learn`, `code?_learn`: learning adds the accounts that were fetched, and the code of
  those of them that have some.
* `image_learn`: behind learning, the image of a contract is that of its code.
* `contains_overrides`: in a simulation, the synthetic accounts and the contracts carry code.
* `mem_newTargets`: which accounts a simulation leads to.
-/

namespace EvmProbe

/-! ## Lists of results -/

section
variable {α β ε : Type} {f : α → Except ε β} {l : List α}

/-- A list of results without an error holds the results one by one. -/
theorem forall₂_of_mapM_eq_ok {results : List β} (h : l.mapM f = .ok results) :
    List.Forall₂ (fun a b => f a = .ok b) l results := by
  induction l generalizing results with
  | nil =>
    cases h
    exact .nil
  | cons a l ih =>
    rw [List.mapM_cons] at h
    cases ha : f a with
    | error e =>
      rw [ha] at h
      cases h
    | ok b =>
      cases hl : l.mapM f with
      | error e =>
        rw [ha, hl] at h
        cases h
      | ok bs =>
        rw [ha, hl] at h
        cases h
        exact .cons ha (ih hl)

/-- An error of a list of results is that of one of them. -/
theorem exists_of_mapM_eq_error {e : ε} (h : l.mapM f = .error e) : ∃ a ∈ l, f a = .error e := by
  induction l with
  | nil => cases h
  | cons a l ih =>
    rw [List.mapM_cons] at h
    cases ha : f a with
    | error e' =>
      rw [ha] at h
      cases h
      exact ⟨a, List.mem_cons_self, ha⟩
    | ok b =>
      cases hl : l.mapM f with
      | error e' =>
        rw [ha, hl] at h
        cases h
        obtain ⟨a', hm, ha'⟩ := ih hl
        exact ⟨a', List.mem_cons_of_mem _ hm, ha'⟩
      | ok bs =>
        rw [ha, hl] at h
        cases h

end

namespace Tracer

/-- The code of an account that was fetched and has some. -/
def Discovered.code? (seen : Discovered) (address : Address) : Option Bytes :=
  (seen.contracts.find? address).map Contract.code

section
variable {settings : Settings} {contracts : HookContracts} {tx : Transaction} {patcher : Patcher}
  {seen seen' : Discovered} {state state' : Patcher × Discovered}
  {fetched : List (Address × Bytes)} {address : Address} {code : Bytes}

theorem contains_iff :
    seen.contracts.contains address ↔ ∃ code, seen.code? address = some code := by
  rw [AddressMap.contains, ← Option.isSome_map, ← Discovered.code?, Option.isSome_iff_exists]

theorem isKnown_iff :
    seen.isKnown address ↔ seen.contracts.contains address ∨ address ∈ seen.codeless := by
  simp [Discovered.isKnown]

/-! ## Recording -/

/-- The accounts that have code. -/
def withCode (fetched : List (Address × Bytes)) : List (Address × Bytes) :=
  fetched.filter fun entry => !entry.2.isEmpty

theorem mem_withCode {entry : Address × Bytes} :
    entry ∈ withCode fetched ↔ entry ∈ fetched ∧ entry.2 ≠ [] := by
  simp [withCode]

/-- Recording adds the code of accounts to the table of the patcher. -/
theorem patcher_recorded : (fetched.foldl record state).1 =
    { state.1 with options := { state.1.options with
      accounts := state.1.options.accounts.insertAll
        ((withCode fetched).map fun entry => (entry.1, DeployedCode.of entry.2)) } } := by
  induction fetched generalizing state with
  | nil => rfl
  | cons entry fetched ih =>
    obtain ⟨address, code⟩ := entry
    rw [List.foldl_cons, ih]
    simp only [record, withCode, List.filter_cons]
    by_cases hc : code.isEmpty <;> simp [hc, Patcher.insertAccount, AddressMap.insertAll]

/-- Recording adds accounts with code to the contracts, as yet without images. -/
theorem contracts_recorded : (fetched.foldl record state).2.contracts =
    state.2.contracts.insertAll ((withCode fetched).map fun entry => (entry.1, ⟨entry.2, []⟩)) := by
  induction fetched generalizing state with
  | nil => rfl
  | cons entry fetched ih =>
    obtain ⟨address, code⟩ := entry
    rw [List.foldl_cons, ih]
    simp only [record, withCode, List.filter_cons]
    by_cases hc : code.isEmpty <;> simp [hc, AddressMap.insertAll]

theorem mem_codeless_recorded : address ∈ (fetched.foldl record state).2.codeless ↔
    (address, []) ∈ fetched ∨ address ∈ state.2.codeless := by
  induction fetched generalizing state with
  | nil => simp
  | cons entry fetched ih =>
    obtain ⟨a, code⟩ := entry
    rw [List.foldl_cons, ih]
    simp only [record]
    by_cases hc : code = []
    · simp [hc, or_left_comm, or_assoc]
    · simp [hc, eq_comm (a := ([] : Bytes))]

/-- The accounts that are recorded are known. -/
theorem isKnown_recorded : (fetched.foldl record state).2.isKnown address ↔
    address ∈ fetched.map (·.1) ∨ state.2.isKnown address := by
  have hsplit : address ∈ fetched.map (·.1) ↔
      address ∈ (withCode fetched).map (·.1) ∨ (address, []) ∈ fetched := by
    simp only [List.mem_map, mem_withCode]
    constructor
    · rintro ⟨⟨a, code⟩, hm, rfl⟩
      by_cases hc : code = []
      · exact .inr (hc ▸ hm)
      · exact .inl ⟨_, ⟨hm, hc⟩, rfl⟩
    · rintro (⟨entry, ⟨hm, -⟩, rfl⟩ | hm)
      · exact ⟨entry, hm, rfl⟩
      · exact ⟨_, hm, rfl⟩
  rw [isKnown_iff, isKnown_iff, contracts_recorded, mem_codeless_recorded,
    AddressMap.contains_insertAll, hsplit, List.map_map]
  simp only [Function.comp_def]
  tauto

/-- The code of accounts that are recorded for the first time is that of which they are recorded. -/
theorem code?_recorded (hnodup : (fetched.map (·.1)).Nodup)
    (hnew : ∀ entry ∈ fetched, state.2.code? entry.1 = none) :
    (fetched.foldl record state).2.code? address = some code ↔
      ((address, code) ∈ fetched ∧ code ≠ []) ∨ state.2.code? address = some code := by
  have hfind (contract : Contract) :
      (fetched.foldl record state).2.contracts.find? address = some contract ↔
        (contract = ⟨contract.code, []⟩ ∧ (address, contract.code) ∈ withCode fetched) ∨
          state.2.contracts.find? address = some contract := by
    rw [contracts_recorded, AddressMap.find?_insertAll]
    · refine or_congr_left ?_
      simp only [List.mem_map, Prod.mk.injEq, Prod.exists]
      constructor
      · rintro ⟨a, c, hm, rfl, rfl⟩
        exact ⟨rfl, hm⟩
      · rintro ⟨he, hm⟩
        exact ⟨_, _, hm, rfl, he.symm⟩
    · rw [List.map_map]
      exact hnodup.sublist (List.filter_sublist.map _)
    · intro entry hm
      obtain ⟨e, he, rfl⟩ := List.mem_map.1 hm
      exact Option.map_eq_none_iff.1 (hnew e (List.mem_of_mem_filter he))
  simp only [Discovered.code?, Option.map_eq_some_iff, hfind]
  constructor
  · rintro ⟨contract, ⟨-, hm⟩ | hm, rfl⟩
    · exact .inl (mem_withCode.1 hm)
    · exact .inr ⟨contract, hm, rfl⟩
  · rintro (hm | ⟨contract, hm, rfl⟩)
    · exact ⟨⟨code, []⟩, .inl ⟨rfl, mem_withCode.2 hm⟩, rfl⟩
    · exact ⟨contract, .inr hm, rfl⟩

/-! ## Learning -/

/-- A contract is patched: its code is the same, and its image is that of the code. -/
def IsPatched (patcher : Patcher) (contract contract' : Contract) : Prop :=
  contract'.code = contract.code ∧ patcher.patch contract'.code = .ok contract'.image

theorem patchContract_ok {entry entry' : Address × Contract} :
    patchContract patcher entry = .ok entry' ↔
      entry'.1 = entry.1 ∧ IsPatched patcher entry.2 entry'.2 := by
  obtain ⟨address, code, image⟩ := entry
  obtain ⟨address', code', image'⟩ := entry'
  unfold patchContract IsPatched
  dsimp only
  split
  · next patched hp =>
    rw [Except.ok.injEq, Prod.mk.injEq, Contract.mk.injEq, eq_comm (a := address),
      eq_comm (a := code)]
    refine and_congr_right fun _ => and_congr_right fun hc => ?_
    rw [hc, hp, Except.ok.injEq]
  · next cause hp =>
    simp only [reduceCtorEq, false_iff, not_and]
    rintro - rfl
    simp [hp]

/-- Patching keeps the accounts and their code, and gives every contract the image of its code. -/
theorem patchAll_ok (h : patchAll patcher seen = .ok seen') : seen'.codeless = seen.codeless ∧
    List.Forall₂ (fun entry entry' => entry'.1 = entry.1 ∧ IsPatched patcher entry.2 entry'.2)
      seen.contracts.entries seen'.contracts.entries := by
  rw [patchAll] at h
  cases hp : seen.contracts.entries.mapM (patchContract patcher) with
  | error e =>
    rw [hp] at h
    cases h
  | ok entries =>
    rw [hp] at h
    cases h
    exact ⟨rfl, (forall₂_of_mapM_eq_ok hp).imp fun _ _ he => patchContract_ok.1 he⟩

theorem code?_patchAll (h : patchAll patcher seen = .ok seen') (address : Address) :
    seen'.code? address = seen.code? address := by
  have hrel := AddressMap.find?_of_forall₂ (patchAll_ok h).2 address
  unfold Discovered.code?
  generalize seen.contracts.find? address = found at hrel ⊢
  generalize seen'.contracts.find? address = found' at hrel ⊢
  cases hrel with
  | some hc => exact congrArg some hc.1
  | none => rfl

theorem learn_eq : learn state fetched =
    if fetched.all (·.2.isEmpty) then .ok (fetched.foldl record state)
    else (patchAll (fetched.foldl record state).1 (fetched.foldl record state).2).map
      fun seen => ((fetched.foldl record state).1, seen) := by
  unfold learn
  dsimp only
  split
  · rfl
  · cases patchAll (fetched.foldl record state).1 (fetched.foldl record state).2 <;> rfl

/-- Learning fails only if some code has no image. -/
theorem exists_of_learn_eq_error {e : Error} (h : learn state fetched = .error e) :
    ∃ address cause, e = .patch address cause := by
  rw [learn_eq] at h
  split at h
  · cases h
  · cases hp : (fetched.foldl record state).2.contracts.entries.mapM
        (patchContract (fetched.foldl record state).1) with
    | ok entries =>
      rw [patchAll, hp] at h
      cases h
    | error e' =>
      rw [patchAll, hp] at h
      cases h
      obtain ⟨entry, -, he⟩ := exists_of_mapM_eq_error hp
      unfold patchContract at he
      split at he <;> cases he
      exact ⟨_, _, rfl⟩

/-- Learning is recording, and patching all code again if there is some that is new. -/
theorem learn_ok (h : learn state fetched = .ok state') :
    (state' = fetched.foldl record state ∧ withCode fetched = []) ∨
      state'.1 = (fetched.foldl record state).1 ∧
        patchAll state'.1 (fetched.foldl record state).2 = .ok state'.2 := by
  rw [learn_eq] at h
  split at h
  · next hall =>
    cases h
    refine .inl ⟨rfl, List.filter_eq_nil_iff.2 fun entry hm => ?_⟩
    simpa using List.all_eq_true.1 hall entry hm
  · cases hp : patchAll (fetched.foldl record state).1 (fetched.foldl record state).2 with
    | error e =>
      rw [hp] at h
      cases h
    | ok seen =>
      rw [hp] at h
      cases h
      exact .inr ⟨rfl, hp⟩

/-- What is known behind learning is what was recorded. -/
theorem recorded_of_learn (h : learn state fetched = .ok state') :
    state'.1 = (fetched.foldl record state).1 ∧
      state'.2.codeless = (fetched.foldl record state).2.codeless ∧
      ∀ address, state'.2.code? address = (fetched.foldl record state).2.code? address := by
  rcases learn_ok h with ⟨rfl, -⟩ | ⟨he, hp⟩
  · exact ⟨rfl, rfl, fun _ => rfl⟩
  · exact ⟨he, (patchAll_ok hp).1, code?_patchAll hp⟩

/-- The accounts that were fetched are known. -/
theorem isKnown_learn (h : learn state fetched = .ok state') :
    state'.2.isKnown address ↔ address ∈ fetched.map (·.1) ∨ state.2.isKnown address := by
  obtain ⟨-, hcodeless, hcode⟩ := recorded_of_learn h
  rw [← isKnown_recorded, isKnown_iff, isKnown_iff, contains_iff, contains_iff, hcodeless, hcode]

/-- **Learning adds the code that was fetched.** -/
theorem code?_learn (hnodup : (fetched.map (·.1)).Nodup)
    (hnew : ∀ entry ∈ fetched, state.2.code? entry.1 = none)
    (h : learn state fetched = .ok state') : state'.2.code? address = some code ↔
      ((address, code) ∈ fetched ∧ code ≠ []) ∨ state.2.code? address = some code := by
  rw [(recorded_of_learn h).2.2, code?_recorded hnodup hnew]

/-- **Behind learning, the image of a contract is that of its code**, if it was before: without new
code, nothing changes, and else all code is patched again. -/
theorem image_learn (h : learn state fetched = .ok state')
    (himages : ∀ address contract, state.2.contracts.find? address = some contract →
      state.1.patch contract.code = .ok contract.image) {contract : Contract}
    (hfind : state'.2.contracts.find? address = some contract) :
    state'.1.patch contract.code = .ok contract.image := by
  rcases learn_ok h with ⟨rfl, hnone⟩ | ⟨-, hp⟩
  · rw [contracts_recorded, hnone] at hfind
    rw [patcher_recorded, hnone]
    exact himages address contract hfind
  · have hrel := AddressMap.find?_of_forall₂ (patchAll_ok hp).2 address
    rw [hfind] at hrel
    generalize (fetched.foldl record state).2.contracts.find? address = found at hrel
    cases hrel with
    | some hc => exact hc.2

/-- Learning keeps the contracts sorted. -/
theorem sorted_learn (h : learn state fetched = .ok state') (hs : state.2.contracts.Sorted) :
    state'.2.contracts.Sorted := by
  have hrecorded : (fetched.foldl record state).2.contracts.Sorted :=
    contracts_recorded ▸ hs.insertAll _
  rcases learn_ok h with ⟨rfl, -⟩ | ⟨-, hp⟩
  · exact hrecorded
  · have hkeys : state'.2.contracts.keys = (fetched.foldl record state).2.contracts.keys :=
      List.forall₂_eq_eq_eq ▸ List.forall₂_map_left_iff.2 (List.forall₂_map_right_iff.2
        ((patchAll_ok hp).2.flip.imp fun _ _ he => he.1))
    rw [AddressMap.sorted_iff_keys] at hrecorded ⊢
    exact hkeys ▸ hrecorded

/-! ## Simulations -/

/-- The accounts that carry code in a simulation. -/
theorem contains_overrides : (overrides settings contracts tx seen).contains address ↔
    address ∈ synthetic settings tx ∨ seen.contracts.contains address := by
  simp only [overrides, synthetic, AddressMap.contains_insert, AddressMap.contains_map,
    List.mem_cons, List.not_mem_nil, or_false]
  tauto

/-- An account that is not synthetic carries its image. -/
theorem find?_overrides (h : address ∉ synthetic settings tx) :
    (overrides settings contracts tx seen).find? address =
      (seen.contracts.find? address).map Contract.image := by
  simp only [synthetic, List.mem_cons, List.not_mem_nil, or_false, not_or] at h
  rw [overrides, AddressMap.find?_insert, if_neg h.2.1, AddressMap.find?_insert, if_neg h.1,
    AddressMap.find?_insert, if_neg h.2.2, AddressMap.find?_map]

theorem mem_candidates {addresses : List Address} :
    address ∈ candidates settings tx addresses ↔
      address ∈ addresses ∧ address ∉ synthetic settings tx := by
  simp [candidates]

theorem nodup_candidates (addresses : List Address) :
    (candidates settings tx addresses).Nodup :=
  (nodup_sortedAddresses addresses).filter _

/-- A simulation leads to the targets of successful calls, if they are neither static nor known. -/
theorem mem_newTargets {result : Simulation} : address ∈ newTargets settings tx seen result ↔
    address ∉ synthetic settings tx ∧ ¬ seen.isKnown address ∧
      ∃ call ∈ result.calls, call.success ∧ call.callType ≠ CallType.static.toByte ∧
        call.target = address := by
  rw [newTargets, mem_candidates, and_comm]
  refine and_congr_right fun _ => ?_
  simp only [List.mem_map, List.mem_filter, Bool.and_eq_true, bne_iff_ne, Bool.not_eq_true']
  constructor
  · rintro ⟨call, ⟨hm, ⟨hs, ht⟩, hk⟩, rfl⟩
    exact ⟨by simp [hk], call, hm, hs, ht, rfl⟩
  · rintro ⟨hk, call, hm, hs, ht, rfl⟩
    exact ⟨call, ⟨hm, ⟨hs, ht⟩, by simpa using hk⟩, rfl⟩

end

end Tracer

end EvmProbe
