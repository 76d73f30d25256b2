import EvmProbe.Proofs.Trace.Closure

/-!
The code that simulations are made with.

An image holds the size and the hash of the code of every account that carries an image, so it is
out of date as soon as there is another one.

* `Current.learn`: behind every round, the table of the patcher lists the code that was given, and
  all images are those of this table.
* `consistent_of_call`: every simulation is made with images of one table, which lists all code that
  was given by then.
-/

namespace EvmProbe

open Exchange (Each answers codes simulations)
open Recorded

/-- The fragments of a patcher do not depend on the table of accounts. -/
theorem Patcher.new_accounts {options : PatchOptions} {first : Scope} {patcher : Patcher}
    (h : Patcher.new options first = .ok patcher) (accounts : Accounts) :
    Patcher.new { options with accounts } first =
      .ok { patcher with options := { patcher.options with accounts } } := by
  unfold Patcher.new environment at h ⊢
  dsimp only at h ⊢
  split at h
  · cases h
  · next env he =>
    cases hf : Fragments.assemble env first with
    | error cause =>
      rw [hf] at h
      cases h
    | ok fragments =>
      rw [hf] at h
      cases h
      rfl

namespace Tracer

/-! ## Tables of accounts -/

/-- A table lists the code that was given, and the synthetic accounts without code. -/
structure Lists (settings : Settings) (tx : Transaction) (log : List Exchange)
    (accounts : Accounts) : Prop where
  sorted : accounts.Sorted
  find? : ∀ address deployed, accounts.find? address = some deployed ↔
    (address ∈ synthetic settings tx ∧ deployed = DeployedCode.of []) ∨
      ∃ code, (address, code) ∈ codes log ∧ code ≠ [] ∧ deployed = DeployedCode.of code

section
variable {settings : Settings} {contracts : HookContracts} {tx : Transaction}
  {accounts : Accounts} {log : List Exchange} {given : List (Address × Bytes)}

/-- Tracing starts with a table of the synthetic accounts. -/
theorem lists_patchOptions (h : codes log = []) :
    Lists settings tx log (patchOptions settings contracts tx).accounts := by
  refine ⟨AddressMap.sorted_empty.insertAll _, fun address deployed => ?_⟩
  rw [patchOptions, AddressMap.find?_insertAll_const, h]
  split <;> simp [*, eq_comm]

/-- A table that gets the code of further accounts lists it. -/
theorem Lists.insertAll (h : Lists settings tx log accounts) (hnodup : (given.map (·.1)).Nodup)
    (hreal : ∀ entry ∈ given, entry.1 ∉ synthetic settings tx)
    (hnew : ∀ entry ∈ given, entry.1 ∉ (codes log).map (·.1)) {log' : List Exchange}
    (hlog : codes log' = given.reverse ++ codes log) :
    Lists settings tx log' (accounts.insertAll
      ((withCode given).map fun entry => (entry.1, DeployedCode.of entry.2))) := by
  refine ⟨h.sorted.insertAll _, fun address deployed => ?_⟩
  rw [AddressMap.find?_insertAll, h.find?, hlog]
  · simp only [List.mem_map, mem_withCode, Prod.mk.injEq, Prod.exists, List.mem_append,
      List.mem_reverse]
    constructor
    · rintro (⟨a, code, ⟨hm, hne⟩, rfl, rfl⟩ | hs | ⟨code, hm, hne⟩)
      · exact .inr ⟨code, .inl hm, hne, rfl⟩
      · exact .inl hs
      · exact .inr ⟨code, .inr hm, hne⟩
    · rintro (hs | ⟨code, hm | hm, hne, rfl⟩)
      · exact .inr (.inl hs)
      · exact .inl ⟨address, code, ⟨hm, hne⟩, rfl, rfl⟩
      · exact .inr (.inr ⟨code, hm, hne, rfl⟩)
  · rw [List.map_map]
    exact hnodup.sublist (List.filter_sublist.map _)
  · intro entry hm
    obtain ⟨⟨address, code⟩, he, rfl⟩ := List.mem_map.1 hm
    have he := List.mem_of_mem_filter he
    refine Option.eq_none_iff_forall_not_mem.2 fun deployed hfound => ?_
    rcases (h.find? _ _).1 hfound with ⟨hs, -⟩ | ⟨code', hm', -⟩
    · exact hreal _ he hs
    · exact hnew _ he (List.mem_map.2 ⟨_, hm', rfl⟩)

end

/-! ## Images -/

/-- The images are those of a table that lists the code that was given. -/
structure Current (settings : Settings) (contracts : HookContracts) (tx : Transaction)
    (state : Patcher × Discovered) (log : List Exchange) : Prop where
  patcher : Patcher.new
    { patchOptions settings contracts tx with accounts := state.1.options.accounts } ⟨0⟩ =
      .ok state.1
  lists : Lists settings tx log state.1.options.accounts
  sorted : state.2.contracts.Sorted
  images : ∀ address contract, state.2.contracts.find? address = some contract →
    state.1.patch contract.code = .ok contract.image

/-- What a simulation is made with behind the exchanges `earlier`. -/
structure Consistent (settings : Settings) (contracts : HookContracts) (tx : Transaction)
    (earlier : List Exchange) (overrides : CodeOverrides) : Prop where
  sorted : overrides.Sorted
  /-- The synthetic accounts carry code and those that were given code, and no other. -/
  carriers : ∀ address, address ∈ overrides.keys ↔ address ∈ synthetic settings tx ∨
    ∃ code, (address, code) ∈ codes earlier ∧ code ≠ []
  hooks : overrides.find? settings.hooks = some contracts.hooks
  runner : settings.runner ≠ settings.hooks →
    overrides.find? settings.runner = some contracts.runner
  sender : tx.sender ≠ settings.hooks → tx.sender ≠ settings.runner →
    overrides.find? tx.sender = some contracts.origin
  /-- All images were made with one table, which lists all code that was given. -/
  images : ∃ accounts, Lists settings tx earlier accounts ∧
    ∀ address code, (address, code) ∈ codes earlier → code ≠ [] → ∃ image,
      patchCode { patchOptions settings contracts tx with accounts } code = .ok image ∧
        address ∉ synthetic settings tx ∧ overrides.find? address = some image

section
variable {settings : Settings} {contracts : HookContracts} {tx : Transaction}
  {state state' : Patcher × Discovered} {seen : Discovered} {queue : List Address}
  {log : List Exchange} {given : List (Address × Bytes)}

/-- **Behind every round, all images are those of the table of all code that was given.** -/
theorem Current.learn (h : Current settings contracts tx state log)
    (hf : Faithful settings tx state.2 log) (hq : Queued settings tx queue)
    (hg : given.map (·.1) = queue.filter (!state.2.isKnown ·))
    (hl : learn state given = .ok state') {log' : List Exchange}
    (hlog : codes log' = given.reverse ++ codes log) :
    Current settings contracts tx state' log' := by
  obtain ⟨hnodup, hfresh⟩ := hf.fresh hq hg
  have hp : state'.1 = { state.1 with options := { state.1.options with
      accounts := state.1.options.accounts.insertAll
        ((withCode given).map fun entry => (entry.1, DeployedCode.of entry.2)) } } :=
    (recorded_of_learn hl).1.trans patcher_recorded
  refine ⟨?_, ?_, sorted_learn hl h.sorted, fun address contract hfind =>
    image_learn hl h.images hfind⟩
  · rw [hp]
    exact Patcher.new_accounts h.patcher _
  · rw [hp]
    refine h.lists.insertAll hnodup (fun entry hm => hq.real _ (hfresh entry hm).1)
      (fun entry hm => ?_) hlog
    rw [hf.answered]
    exact (hfresh entry hm).2.1

/-- Up-to-date images make a simulation consistent. -/
theorem Current.consistent (h : Current settings contracts tx state log)
    (hf : Faithful settings tx state.2 log) :
    Consistent settings contracts tx log (overrides settings contracts tx state.2) := by
  refine ⟨?_, fun address => ?_, ?_, fun hne => ?_, fun hne hne' => ?_, _, h.lists,
    fun address code hm hne => ?_⟩
  · exact (h.sorted.map_values _).insert.insert.insert
  · rw [← AddressMap.contains_iff_mem_keys, contains_overrides, contains_iff]
    simp only [hf.code?]
  · rw [overrides, AddressMap.find?_insert, if_pos rfl]
  · rw [overrides, AddressMap.find?_insert, if_neg hne, AddressMap.find?_insert, if_pos rfl]
  · rw [overrides, AddressMap.find?_insert, if_neg hne, AddressMap.find?_insert, if_neg hne',
      AddressMap.find?_insert, if_pos rfl]
  · have hreal : address ∉ synthetic settings tx :=
      hf.real _ (hf.answered ▸ List.mem_map_of_mem hm)
    obtain ⟨contract, hfind, rfl⟩ := Option.map_eq_some_iff.1 ((hf.code? _ _).2 ⟨hm, hne⟩)
    refine ⟨contract.image, ?_, hreal, ?_⟩
    · rw [patchCode, h.patcher]
      exact h.images _ _ hfind
    · rw [find?_overrides hreal, hfind]
      rfl

end

/-! ## All simulations -/

/-- If an exchange is a simulation, then it is consistent. -/
def ConsistentCall (settings : Settings) (contracts : HookContracts) (tx : Transaction) :
    Exchange → List Exchange → Prop
  | .call _ _ overrides _ _, earlier => Consistent settings contracts tx earlier overrides
  | .codeAt .., _ | .accessList .., _ => True

section
variable {settings : Settings} {contracts : HookContracts} {tx : Transaction}
  {state state' : Patcher × Discovered} {queue : List Address} {log log' : List Exchange}
  {result : Simulation}

/-- **Every round keeps the images up to date.** -/
theorem Current.round (h : Current settings contracts tx state log)
    (hf : Faithful settings tx state.2 log) (hq : Queued settings tx queue)
    (hround : Round settings contracts tx state queue log (.ok (state', result)) log') :
    Current settings contracts tx state' log' := by
  cases hround with
  | simulated hg hl hi => exact h.learn hf hq hg hl (by simp [simulationOf])

/-- The simulation of a round is consistent. -/
theorem Current.each {reached : Except Error ((Patcher × Discovered) × Simulation)}
    (h : Current settings contracts tx state log) (hf : Faithful settings tx state.2 log)
    (hq : Queued settings tx queue)
    (hround : Round settings contracts tx state queue log reached log')
    (hlog : Each (ConsistentCall settings contracts tx) log) :
    Each (ConsistentCall settings contracts tx) log' := by
  refine hround.each hlog (fun _ _ _ _ => trivial) fun given state' reply hg hl => ?_
  exact (h.learn hf hq hg hl (by simp)).consistent (hf.learn hq hg hl tx.block)

theorem current : Kept settings contracts tx (fun _ => True)
    (fun state _ log => Current settings contracts tx state log ∧
      Each (ConsistentCall settings contracts tx) log)
    (fun _ log => Each (ConsistentCall settings contracts tx) log) where
  failed hu hround _ := hu.kept.1.each hu.faithful hu.queued hround hu.kept.2
  settled hu hround _ _ _ := hu.kept.1.each hu.faithful hu.queued hround hu.kept.2
  further hu hround _ _ _ := ⟨hu.kept.1.round hu.faithful hu.queued hround,
    hu.kept.1.each hu.faithful hu.queued hround hu.kept.2⟩
  exhausted h _ := h.2

/-- Tracing starts without images. -/
theorem current_start {patcher : Patcher} {reply : Except Failure (List Address)}
    (hp : Patcher.new (patchOptions settings contracts tx) ⟨0⟩ = .ok patcher) :
    Current settings contracts tx (patcher, {})
      [.accessList (accessRequest tx) tx.block reply] := by
  obtain ⟨ho, -⟩ := Patcher.assembled_of_new hp
  refine ⟨?_, ?_, AddressMap.sorted_empty, fun address contract hfind => by cases hfind⟩
  · rw [ho]
    exact hp
  · rw [ho]
    exact lists_patchOptions rfl

/-- **Every simulation is made with images of one table**, which lists all code that was given by
then; so no image is out of date. -/
theorem consistent_of_call {σ : Type} {node : Node (StateM σ)} {s : σ}
    {later earlier : List Exchange} {target : Address} {input : Bytes} {overrides : CodeOverrides}
    {block : BlockId} {reply : Except Failure Bytes}
    (h : (traced node settings contracts tx s).2 =
      later ++ .call target input overrides block reply :: earlier) :
    Consistent settings contracts tx earlier overrides := by
  have hrun : Ensures (trace node.keeping settings contracts tx) [] fun _ log =>
      Each (ConsistentCall settings contracts tx) log :=
    ensures_trace node.replies_true current (fun _ => Exchange.each_nil) fun hp _ =>
      ⟨current_start hp, Exchange.each_cons.2 ⟨trivial, Exchange.each_nil⟩⟩
  exact hrun s later _ earlier h

end

/-- On a node that serves a graph, there is a simulation unless some code has no image. -/
theorem Ends.simulations_pos {within : Nat → Finset Address} {high : Nat}
    {result : Except Error Trace} {log : List Exchange} (h : Ends within high result log)
    (hhigh : 0 < high) (hpatched : ∀ address cause, result ≠ .error (.patch address cause)) :
    0 < simulations log := by
  cases h with
  | converged _ _ _ _ simulated => omega
  | unsettled _ simulated => omega
  | unpatched address cause => exact absurd rfl (hpatched address cause)

/-- Tracing of the relayed calls makes consistent simulations. -/
theorem consistent_of_call_relay : ∃ later target input overrides block reply earlier,
    (traced (modelOf relayEdges relayCodes).node {} {} relayTransaction 0).2 =
        later ++ .call target input overrides block reply :: earlier ∧
      Consistent {} {} relayTransaction earlier overrides := by
  have hs := serves_relay {} relayTransaction
  have hends : Ends _ _ (traced (modelOf relayEdges relayCodes).node {} {} relayTransaction 0).1
      (traced (modelOf relayEdges relayCodes).node {} {} relayTransaction 0).2 :=
    trace_of_serves hs (by decide) 0
  obtain ⟨later, target, input, overrides, block, reply, earlier, h⟩ :=
    Exchange.exists_call_of_simulations_pos (hends.simulations_pos (by decide)
      (ne_patch_of_confined hs confined_relay 0))
  exact ⟨later, target, input, overrides, block, reply, earlier, h, consistent_of_call h⟩

end Tracer

end EvmProbe
