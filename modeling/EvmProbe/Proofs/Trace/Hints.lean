import EvmProbe.Proofs.Trace.Consistency
import EvmProbe.Proofs.Trace.Safety

/-!
What an access list changes about tracing.

An access list is a hint: its accounts are fetched in the first round.  If all of them would be
found anyway, then tracing comes to the same end with it, and no later.

* `within_eq_of_hint`: with a hint, no depth is behind that of tracing without it, and where that
  one is settled, so is this one, with the same accounts.
* `settled_within_edges`: there are no more depths than calls in the graph.
* `Consistent.unique`: which code was given decides what a simulation is made with.
* `trace_hinted`: a hint only saves rounds.
-/

namespace EvmProbe

open Exchange (codes fetched simulations)
open Recorded

/-! ## Depths -/

namespace CallGraph

variable {graph : CallGraph} {synthetic : List Address} {known known' first first' : Finset Address}
  {depth : Nat}

/-- More accounts lead to more. -/
theorem reached_mono (h : known ⊆ known') :
    graph.reached synthetic known ⊆ graph.reached synthetic known' := by
  intro address hm
  obtain ⟨hreal, edge, hedge, hsuccess, hkind, hcalling, ht⟩ := mem_reached.1 hm
  refine mem_reached.2 ⟨hreal, edge, hedge, hsuccess, hkind, ?_, ht⟩
  exact hcalling.imp_right fun ⟨hk, hcode⟩ => ⟨h hk, hcode⟩

theorem within_subset_succ : graph.within synthetic first depth ⊆
    graph.within synthetic first (depth + 1) := Finset.subset_union_left

theorem first_subset_within : first ⊆ graph.within synthetic first depth := by
  induction depth with
  | zero => exact Finset.Subset.refl _
  | succ depth ih => exact ih.trans within_subset_succ

/-- Tracing that starts with more accounts is never behind. -/
theorem within_mono (h : first ⊆ first') :
    graph.within synthetic first depth ⊆ graph.within synthetic first' depth := by
  induction depth with
  | zero => exact h
  | succ depth ih => exact Finset.union_subset_union ih (reached_mono ih)

/-- Accounts that lead to no others are not left. -/
theorem within_subset_of_closed (h : first ⊆ known) (hc : graph.reached synthetic known ⊆ known) :
    graph.within synthetic first depth ⊆ known := by
  induction depth with
  | zero => exact h
  | succ depth ih => exact Finset.union_subset ih ((reached_mono ih).trans hc)

theorem reached_subset_of_settled
    (h : graph.within synthetic first (depth + 1) = graph.within synthetic first depth) :
    graph.reached synthetic (graph.within synthetic first depth) ⊆
      graph.within synthetic first depth := within_succ_eq_iff.1 h

/-- Behind a settled depth there is nothing. -/
theorem within_eq_of_settled
    (h : graph.within synthetic first (depth + 1) = graph.within synthetic first depth)
    {depth' : Nat} (hle : depth ≤ depth') :
    graph.within synthetic first depth' = graph.within synthetic first depth := by
  induction depth', hle using Nat.le_induction with
  | base => rfl
  | succ depth' _ ih => rw [within, ih, ← within, h]

/-- **Accounts that are found anyway can be started with.**  Where tracing without them is settled,
tracing with them is settled too, with the same accounts. -/
theorem within_eq_of_hint (hmore : first ⊆ first')
    (hfound : first' ⊆ graph.within synthetic first depth)
    (hsettled : graph.within synthetic first (depth + 1) = graph.within synthetic first depth) :
    graph.within synthetic first' depth = graph.within synthetic first depth ∧
      graph.within synthetic first' (depth + 1) = graph.within synthetic first' depth := by
  have hclosed := reached_subset_of_settled hsettled
  have heq : graph.within synthetic first' depth = graph.within synthetic first depth :=
    (within_subset_of_closed hfound hclosed).antisymm (within_mono hmore)
  refine ⟨heq, ?_⟩
  rw [within_succ_eq_iff, heq]
  exact hclosed

/-- Every depth that is not settled has one more account. -/
theorem card_within (h : ∀ d < depth,
      graph.within synthetic first (d + 1) ≠ graph.within synthetic first d) :
    first.card + depth ≤ (graph.within synthetic first depth).card := by
  induction depth with
  | zero => exact Nat.le_refl _
  | succ depth ih =>
    have hlt : (graph.within synthetic first depth).card <
        (graph.within synthetic first (depth + 1)).card :=
      Finset.card_lt_card (within_subset_succ.ssubset_of_ne (h depth (Nat.lt_succ_self _)).symm)
    have := ih fun d hd => h d (Nat.lt_succ_of_lt hd)
    omega

/-- Accounts that are not started with are targets of calls. -/
theorem within_subset_targets : graph.within synthetic first depth ⊆
    first ∪ (graph.edges.map CallEdge.target).toFinset := by
  refine within_subset_of_closed Finset.subset_union_left fun address hm => ?_
  obtain ⟨-, edge, hedge, -, -, -, rfl⟩ := mem_reached.1 hm
  exact Finset.mem_union_right _ (List.mem_toFinset.2 (List.mem_map_of_mem hedge))

/-- **There are no more depths than calls.** -/
theorem settled_within_edges (graph : CallGraph) (synthetic : List Address)
    (first : Finset Address) : ∃ depth ≤ graph.edges.length,
      graph.within synthetic first (depth + 1) = graph.within synthetic first depth := by
  by_contra hnever
  have hcard : first.card + (graph.edges.length + 1) ≤
      (graph.within synthetic first (graph.edges.length + 1)).card :=
    card_within fun d hd hsettled => hnever ⟨d, Nat.le_of_lt_succ hd, hsettled⟩
  have htargets : (graph.edges.map CallEdge.target).toFinset.card ≤ graph.edges.length :=
    (List.toFinset_card_le _).trans (Nat.le_of_eq (List.length_map _))
  have hall : (graph.within synthetic first (graph.edges.length + 1)).card ≤
      first.card + (graph.edges.map CallEdge.target).toFinset.card :=
    (Finset.card_le_card within_subset_targets).trans (Finset.card_union_le _ _)
  omega

end CallGraph

/-! ## Traces -/

namespace Trace

/-- A call is known by its report. -/
theorem Call.report_injective : Function.Injective Call.report := by
  intro a b h
  obtain ⟨_, _, kind, _, _, _, _, _⟩ := a
  obtain ⟨_, _, kind', _, _, _, _, _⟩ := b
  simp only [Call.report, Simulation.Call.mk.injEq] at h
  obtain ⟨rfl, rfl, hkind, rfl, rfl, rfl, rfl, rfl⟩ := h
  have hbyte := CallType.ofByte?_toByte kind
  rw [hkind, CallType.ofByte?_toByte] at hbyte
  rw [Option.some.inj hbyte]

/-- Traces of one simulation differ in the number of rounds at most. -/
theorem Shows.unique {trace trace' : Trace} {result : Simulation} (h : trace.Shows result)
    (h' : trace'.Shows result) : trace = { trace' with rounds := trace.rounds } := by
  obtain ⟨_, _, _, _, calls, _, _⟩ := trace
  obtain ⟨_, _, _, _, calls', _, _⟩ := trace'
  have hcalls : calls = calls' :=
    Call.report_injective.list_map (h.calls.trans h'.calls.symm)
  rw [Trace.mk.injEq]
  exact ⟨rfl, h.success.trans h'.success.symm, h.output.trans h'.output.symm,
    h.gasUsed.trans h'.gasUsed.symm, hcalls, h.logs.trans h'.logs.symm,
    h.stores.trans h'.stores.symm⟩

end Trace

namespace Tracer

/-! ## Simulations -/

section
variable {settings : Settings} {contracts : HookContracts} {tx : Transaction}

/-- Tables that list the same code are the same. -/
theorem Lists.unique {log log' : List Exchange} {accounts accounts' : Accounts}
    (h : Lists settings tx log accounts) (h' : Lists settings tx log' accounts')
    (hcodes : ∀ entry, entry ∈ codes log ↔ entry ∈ codes log') : accounts = accounts' := by
  refine h.sorted.ext h'.sorted fun address => Option.ext fun deployed => ?_
  rw [h.find?, h'.find?]
  simp only [hcodes]

/-- **Which code was given decides what a simulation is made with**, whenever it was given. -/
theorem Consistent.unique {log log' : List Exchange} {overrides overrides' : CodeOverrides}
    (h : Consistent settings contracts tx log overrides)
    (h' : Consistent settings contracts tx log' overrides')
    (hcodes : ∀ entry, entry ∈ codes log ↔ entry ∈ codes log') : overrides = overrides' := by
  refine h.sorted.ext h'.sorted fun address => ?_
  by_cases hsynthetic : address ∈ synthetic settings tx
  · -- where synthetic accounts coincide, the code of the first of them counts
    simp only [synthetic, List.mem_cons, List.not_mem_nil, or_false] at hsynthetic
    by_cases hhooks : address = settings.hooks
    · rw [hhooks, h.hooks, h'.hooks]
    · by_cases hrunner : address = settings.runner
      · subst hrunner
        rw [h.runner hhooks, h'.runner hhooks]
      · obtain rfl : address = tx.sender :=
          (hsynthetic.resolve_left hrunner).resolve_left hhooks
        rw [h.sender hhooks hrunner, h'.sender hhooks hrunner]
  · by_cases hgiven : ∃ code, (address, code) ∈ codes log ∧ code ≠ []
    · obtain ⟨code, hm, hne⟩ := hgiven
      obtain ⟨accounts, hlists, himages⟩ := h.images
      obtain ⟨accounts', hlists', himages'⟩ := h'.images
      obtain ⟨image, himage, -, hfind⟩ := himages address code hm hne
      obtain ⟨image', himage', -, hfind'⟩ := himages' address code ((hcodes _).1 hm) hne
      rw [hlists.unique hlists' hcodes, himage', Except.ok.injEq] at himage
      rw [hfind, hfind', himage]
    · have hout : address ∉ overrides.keys := by
        rw [h.carriers]
        exact not_or.2 ⟨hsynthetic, hgiven⟩
      have hout' : address ∉ overrides'.keys := by
        rw [h'.carriers]
        simp only [hcodes] at hgiven
        exact not_or.2 ⟨hsynthetic, hgiven⟩
      rw [← AddressMap.contains_iff_mem_keys, AddressMap.contains, Option.not_isSome_iff_eq_none]
        at hout hout'
      rw [hout, hout']

end

/-- The replies to simulations depend on nothing but the code that accounts carry. -/
def Simulates (settings : Settings) (tx : Transaction)
    (simulated : CodeOverrides → Except Failure Bytes) : Exchange → Prop
  | .call target input overrides block reply =>
    target = settings.runner → input = calldata tx → block = tx.block → reply = simulated overrides
  | .codeAt .. | .accessList .. => True

/-- What was fetched was given with the code of the graph. -/
def Given (graph : CallGraph) (log : List Exchange) : Prop :=
  ∀ entry, entry ∈ codes log ↔ entry.1 ∈ fetched log ∧ entry.2 = graph.codes entry.1

/-! ## Runs -/

section
variable {settings : Settings} {contracts : HookContracts} {tx : Transaction}
  {graph : CallGraph} {listed : Except Failure (List Address)} {said : Exchange → Prop}
  {within : Nat → Finset Address} {high : Nat} {result : Except Error Trace}
  {log : List Exchange} {trace : Trace} {σ : Type} {node : Node (StateM σ)} {s : σ}

/-- All exchanges of a run are as the node replies. -/
theorem said_of_traced (hr : node.Replies said) :
    ∀ exchange ∈ (traced node settings contracts tx s).2, said exchange := by
  have hkept : Kept settings contracts tx said
      (fun _ _ log => ∀ exchange ∈ log, said exchange)
      (fun _ log => ∀ exchange ∈ log, said exchange) :=
    ⟨fun _ _ h => h, fun _ _ h _ _ => h, fun _ _ h _ _ => h, fun h _ => h⟩
  have hrun : Ensures (Tracer.trace node.keeping settings contracts tx) []
      fun _ log => ∀ exchange ∈ log, said exchange :=
    ensures_trace hr hkept (fun _ => by simp) fun _ h => by simpa using h
  exact hrun s

/-- A round that simulates was given the code of the graph. -/
theorem Round.served {state state' : Patcher × Discovered} {queue : List Address}
    {log' : List Exchange} {result : Simulation}
    (hround : Round settings contracts tx state queue log (.ok (state', result)) log')
    (htold : ∀ exchange ∈ log', Truthful settings tx graph listed exchange)
    (h : ∀ entry ∈ codes log, entry.2 = graph.codes entry.1) :
    ∀ entry ∈ codes log', entry.2 = graph.codes entry.1 := by
  obtain ⟨given, -, -, hgiven, hcodes, -⟩ := hround.shown_of_truthful htold
  intro entry hm
  rw [hcodes, List.mem_append, List.mem_reverse] at hm
  exact hm.elim (hgiven entry) (h entry)

theorem Faithful.given {seen : Discovered} (hf : Faithful settings tx seen log)
    (h : ∀ entry ∈ codes log, entry.2 = graph.codes entry.1) : Given graph log := by
  intro entry
  constructor
  · intro hm
    exact ⟨hf.answered ▸ List.mem_map_of_mem hm, h entry hm⟩
  · rintro ⟨hfetched, hcode⟩
    rw [← hf.answered] at hfetched
    obtain ⟨other, hm, haddress⟩ := List.mem_map.1 hfetched
    have heq : other = entry := Prod.ext haddress (by rw [h other hm, hcode, haddress])
    exact heq ▸ hm

theorem given : Kept settings contracts tx (Truthful settings tx graph listed)
    (fun _ _ log => ∀ entry ∈ codes log, entry.2 = graph.codes entry.1)
    (fun result log => ∀ trace, result = .ok trace → Given graph log) where
  failed _ _ _ := fun trace he => by cases he
  settled hu hround htold hf _ := fun _ _ => hf.given (hround.served htold hu.kept)
  further hu hround htold _ _ := hround.served htold hu.kept
  exhausted _ _ := fun trace he => by cases he

/-- **A run that ends with a trace was given the code of the graph.** -/
theorem given_of_serves (hs : Serves node settings tx graph listed)
    (h : (traced node settings contracts tx s).1 = .ok trace) :
    Given graph (traced node settings contracts tx s).2 := by
  have hrun : Ensures (Tracer.trace node.keeping settings contracts tx) []
      fun result log => ∀ trace, result = .ok trace → Given graph log :=
    ensures_trace hs given (fun _ trace he => by cases he) fun _ _ => by simp
  exact hrun s trace h

/-- No trace is made without rounds. -/
theorem maxRounds_pos_of_ok (h : (traced node settings contracts tx s).1 = .ok trace) :
    0 < settings.maxRounds := by
  obtain ⟨hrequests, hclosed⟩ := orderly_traced node settings contracts tx s
  obtain ⟨overrides, output, earlier, result, hlog, -⟩ := (hclosed trace h).last
  have hbounded := hrequests.bounded
  rw [hlog, Exchange.simulations_call] at hbounded
  omega

theorem Ends.settled (h : Ends within high (.ok trace) log) : ∃ depth < high,
    within (depth + 1) = within depth ∧ trace.rounds = depth + 1 ∧
      (fetched log).toFinset = within depth := by
  cases h with
  | converged hhigh settled first rounds simulated nodup all =>
    exact ⟨_, hhigh, settled, rounds, all⟩

/-- Tracing ends where no account is further away, or earlier. -/
theorem Ends.exists_ok (h : Ends within high result log)
    (hpatched : ∀ address cause, result ≠ .error (.patch address cause)) {depth : Nat}
    (hhigh : depth < high) (hsettled : within (depth + 1) = within depth) :
    ∃ trace d, result = .ok trace ∧ d ≤ depth ∧ within (d + 1) = within d ∧
      trace.rounds = d + 1 ∧ (fetched log).toFinset = within d := by
  cases h with
  | unpatched address cause => exact absurd rfl (hpatched address cause)
  | unsettled further => exact absurd hsettled (further depth hhigh)
  | @converged d trace _ _ settled first rounds _ _ all =>
    refine ⟨trace, d, rfl, ?_, settled, rounds, all⟩
    by_contra hlt
    exact first depth (Nat.lt_of_not_le hlt) hsettled

end

/-! ## Hints -/

/-- A run comes to the same end as another one, in no more rounds. -/
structure Saves (settings : Settings) (tx : Transaction)
    (run run' : Except Error Trace × List Exchange) (trace trace' : Trace) : Prop where
  rounds : trace.rounds ≤ trace'.rounds
  /-- The traces differ in nothing else. -/
  same : trace = { trace' with rounds := trace.rounds }
  fetched : ∀ address, address ∈ fetched run.2 ↔ address ∈ fetched run'.2
  /-- The last simulations are the same. -/
  last : ∃ overrides reply earlier earlier',
    run.2 = .call settings.runner (calldata tx) overrides tx.block reply :: earlier ∧
      run'.2 = .call settings.runner (calldata tx) overrides tx.block reply :: earlier'

section
variable {settings : Settings} {contracts : HookContracts} {tx : Transaction}
  {graph : CallGraph} {simulated : CodeOverrides → Except Failure Bytes}
  {listed listed' : Except Failure (List Address)} {hints : List Address} {cause : Failure}
  {trace trace' : Trace} {σ σ' : Type} {node : Node (StateM σ)} {node' : Node (StateM σ')}
  {s : σ} {s' : σ'}

/-- **Runs that were given the same accounts end with the same simulation.** -/
theorem last_of_fetched (hs : Serves node settings tx graph listed)
    (hd : node.Replies (Simulates settings tx simulated))
    (hs' : Serves node' settings tx graph listed')
    (hd' : node'.Replies (Simulates settings tx simulated))
    (h : (traced node settings contracts tx s).1 = .ok trace)
    (h' : (traced node' settings contracts tx s').1 = .ok trace')
    (hfetched : ∀ address, address ∈ fetched (traced node settings contracts tx s).2 ↔
      address ∈ fetched (traced node' settings contracts tx s').2) :
    trace = { trace' with rounds := trace.rounds } ∧ ∃ overrides reply earlier earlier',
      (traced node settings contracts tx s).2 =
          .call settings.runner (calldata tx) overrides tx.block reply :: earlier ∧
        (traced node' settings contracts tx s').2 =
          .call settings.runner (calldata tx) overrides tx.block reply :: earlier' := by
  obtain ⟨overrides, output, earlier, result, hlog, hdecode, hshows⟩ :=
    ((orderly_traced node settings contracts tx s).closed trace h).last
  obtain ⟨overrides', output', earlier', result', hlog', hdecode', hshows'⟩ :=
    ((orderly_traced node' settings contracts tx s').closed trace' h').last
  have hcodes : ∀ entry, entry ∈ codes earlier ↔ entry ∈ codes earlier' := by
    intro entry
    have hgiven := given_of_serves hs h entry
    have hgiven' := given_of_serves hs' h' entry
    rw [hfetched, ← hgiven', hlog, hlog', Exchange.codes_call, Exchange.codes_call] at hgiven
    exact hgiven
  have hconsistent : Consistent settings contracts tx earlier overrides :=
    consistent_of_call (hlog.trans (List.nil_append _).symm)
  obtain rfl : overrides = overrides' :=
    hconsistent.unique (consistent_of_call (hlog'.trans (List.nil_append _).symm)) hcodes
  have hreply : Simulates settings tx simulated (.call _ _ overrides _ (.ok output)) :=
    said_of_traced hd _ (hlog ▸ List.mem_cons_self)
  have hreply' : Simulates settings tx simulated (.call _ _ overrides _ (.ok output')) :=
    said_of_traced hd' _ (hlog' ▸ List.mem_cons_self)
  obtain rfl : output = output' :=
    Except.ok.inj ((hreply rfl rfl rfl).trans (hreply' rfl rfl rfl).symm)
  obtain rfl : result = result' := Except.ok.inj (hdecode.symm.trans hdecode')
  exact ⟨hshows.unique hshows', overrides, .ok output, earlier, earlier', hlog, hlog'⟩

/-- Without a hint, tracing starts with the target of the transaction at most. -/
theorem seeds_subset_of_error :
    seeds settings tx (.error cause) ⊆ seeds settings tx listed := by
  intro address hm
  rw [mem_seeds, mem_candidates] at hm ⊢
  refine hm.imp_left fun htarget => ?_
  rw [List.mem_singleton.1 htarget]
  exact List.mem_cons_self

/-- What a hint adds to the first round is no further away than what tracing comes to without it. -/
theorem seeds_subset_within {depth : Nat} (h : ∀ address ∈ hints, address ∈ synthetic settings tx ∨
      address = tx.target ∨ address ∈ graph.within (synthetic settings tx)
        (seeds settings tx (.error cause)) depth) :
    seeds settings tx (.ok hints) ⊆
      graph.within (synthetic settings tx) (seeds settings tx (.error cause)) depth := by
  intro address hm
  obtain ⟨hlisted, hreal⟩ := mem_candidates.1 (mem_seeds.1 hm)
  have htarget (h : address = tx.target) : address ∈ graph.within (synthetic settings tx)
      (seeds settings tx (.error cause)) depth := by
    refine CallGraph.first_subset_within (mem_seeds.2 (mem_candidates.2 ⟨?_, hreal⟩))
    rw [h]
    exact List.mem_cons_self
  rcases List.mem_cons.1 hlisted with ht | hhint
  · exact htarget ht
  · rcases h address hhint with hs | ht | hwithin
    · exact absurd hs hreal
    · exact htarget ht
    · exact hwithin

/-- **A hint only saves rounds.**  Tracing without an access list makes a trace if there are more
rounds than calls in the graph; and whenever it makes one, tracing with a list of accounts that it
finds makes the same one in no more rounds, from the same last simulation, and fetches the same
accounts. -/
theorem trace_hinted (hs : Serves node settings tx graph (.ok hints))
    (hs' : Serves node' settings tx graph (.error cause))
    (hd : node.Replies (Simulates settings tx simulated))
    (hd' : node'.Replies (Simulates settings tx simulated)) (s : σ) (s' : σ')
    (hpatched : ∀ address cause,
      (traced node settings contracts tx s).1 ≠ .error (.patch address cause))
    (hpatched' : ∀ address cause,
      (traced node' settings contracts tx s').1 ≠ .error (.patch address cause))
    (hhints : ∀ address ∈ hints, address ∈ synthetic settings tx ∨ address = tx.target ∨
      address ∈ fetched (traced node' settings contracts tx s').2) :
    let run := traced node settings contracts tx s
    let run' := traced node' settings contracts tx s'
    (graph.edges.length < settings.maxRounds → ∃ trace', run'.1 = .ok trace') ∧
      ∀ trace', run'.1 = .ok trace' →
        ∃ trace, run.1 = .ok trace ∧ Saves settings tx run run' trace trace' := by
  dsimp only
  constructor
  · intro hrounds
    obtain ⟨depth, hdepth, hsettled⟩ := graph.settled_within_edges (synthetic settings tx)
      (seeds settings tx (.error cause))
    obtain ⟨trace', -, h', -⟩ := (trace_of_serves hs' (Nat.zero_lt_of_lt hrounds) s').exists_ok
      hpatched' (Nat.lt_of_le_of_lt hdepth hrounds) hsettled
    exact ⟨trace', h'⟩
  · intro trace' h'
    have hpos := maxRounds_pos_of_ok h'
    have hends' : Ends _ _ (traced node' settings contracts tx s').1
        (traced node' settings contracts tx s').2 := trace_of_serves hs' hpos s'
    rw [h'] at hends'
    obtain ⟨depth', hhigh, hsettled', hrounds', hall'⟩ := hends'.settled
    have hfound : seeds settings tx (.ok hints) ⊆
        graph.within (synthetic settings tx) (seeds settings tx (.error cause)) depth' :=
      seeds_subset_within fun address hm => (hhints address hm).imp_right fun h =>
        h.imp_right fun h => by
          rw [← hall']
          exact List.mem_toFinset.2 h
    obtain ⟨hsame, hsettled⟩ :=
      CallGraph.within_eq_of_hint seeds_subset_of_error hfound hsettled'
    obtain ⟨trace, depth, h, hle, hfirst, hrounds, hall⟩ :=
      (trace_of_serves hs hpos s).exists_ok hpatched hhigh hsettled
    have hfetched (address : Address) :
        address ∈ fetched (traced node settings contracts tx s).2 ↔
          address ∈ fetched (traced node' settings contracts tx s').2 := by
      rw [← List.mem_toFinset, ← List.mem_toFinset, hall', ← hsame,
        CallGraph.within_eq_of_settled hfirst hle, ← hall]
      rfl
    obtain ⟨htrace, hlast⟩ := last_of_fetched hs hd hs' hd' h h' hfetched
    exact ⟨trace, h, by omega, htrace, hfetched, hlast⟩

end

/-- What a node answers from tables depends on the code that accounts carry. -/
theorem simulates_modelOf (edges : List CallEdge) (codes : AddressMap Bytes) (settings : Settings)
    (tx : Transaction) (accessList : Option (List Address)) :
    { modelOf edges codes with accessList }.node.Replies (Simulates settings tx fun overrides =>
      .ok (reportOf edges (overrides.keys.contains ·)).encode) where
  codeAt _ _ _ := trivial
  accessList _ _ _ := trivial
  call _ _ overrides _ made := fun _ _ _ => by
    have hreport : (modelOf edges codes).simulate (made + 1) overrides.keys =
        reportOf edges (overrides.keys.contains ·) := simulate_modelOf _ _
    exact congrArg (fun result : Simulation => (Except.ok result.encode : Except Failure Bytes))
      hreport

/-- The access list of the relayed calls: two accounts that are called, one of them twice, and the
sender. -/
def relayHints : List Address := [11, 0xaa, 10, 11]

/-- The relayed calls on a node that has an access list. -/
def hintedRelay : NodeModel := { modelOf relayEdges relayCodes with accessList := some relayHints }

theorem serves_hintedRelay : Serves hintedRelay.node {} relayTransaction
    (graphOf relayEdges relayCodes) (.ok relayHints) where
  codeAt := (serves_relay {} relayTransaction).codeAt
  accessList _ _ _ := fun _ _ => rfl
  call := (serves_relay {} relayTransaction).call

theorem confined_hintedRelay : Confined {} relayTransaction (graphOf relayEdges relayCodes)
    (.ok relayHints) {runnerAddress, hooksAddress, 0xaa, 1, 10, 11, 12, 13} 1 where
  synthetic := confined_relay.synthetic
  seeds address hm := by
    have hlisted : address ∈ [1, 11, 0xaa, 10, 11] := (mem_candidates.1 (mem_seeds.1 hm)).1
    have hall : ([1, 11, 0xaa, 10, 11] : List Address).toFinset ⊆
        {runnerAddress, hooksAddress, 0xaa, 1, 10, 11, 12, 13} := by decide +kernel
    exact hall (List.mem_toFinset.2 hlisted)
  targets := confined_relay.targets
  short := confined_relay.short
  fits := confined_relay.fits

/-- With the access list, tracing of the relayed calls takes one round and not three. -/
theorem trace_hinted_relay : ∃ trace trace',
    (traced hintedRelay.node {} {} relayTransaction 0).1 = .ok trace ∧
      (traced (modelOf relayEdges relayCodes).node {} {} relayTransaction 0).1 = .ok trace' ∧
      trace.rounds = 1 ∧ trace'.rounds = 3 ∧
      Saves {} relayTransaction (traced hintedRelay.node {} {} relayTransaction 0)
        (traced (modelOf relayEdges relayCodes).node {} {} relayTransaction 0) trace trace' := by
  have hs := serves_hintedRelay
  have hs' := serves_relay {} relayTransaction
  have hpatched (address : Address) (cause : PatchError) :
      (traced hintedRelay.node {} {} relayTransaction 0).1 ≠ .error (.patch address cause) :=
    ne_patch_of_confined hs confined_hintedRelay 0 address cause
  have hpatched' (address : Address) (cause : PatchError) :
      (traced (modelOf relayEdges relayCodes).node {} {} relayTransaction 0).1 ≠
        .error (.patch address cause) := ne_patch_of_confined hs' confined_relay 0 address cause
  obtain ⟨trace, depth, h, hle, -, hrounds, -⟩ :=
    (trace_of_serves hs (by decide) 0).exists_ok hpatched (by decide : 0 < 32) (by decide)
  obtain ⟨trace', depth', h', hle', hfirst', hrounds', hall'⟩ :=
    (trace_of_serves hs' (by decide) 0).exists_ok hpatched' (by decide : 2 < 32) (by decide)
  have hdepth' : depth' = 2 := by
    have hzero : depth' ≠ 0 := by
      rintro rfl
      exact absurd hfirst' (by decide)
    have hone : depth' ≠ 1 := by
      rintro rfl
      exact absurd hfirst' (by decide)
    omega
  have hfetched :
      (fetched (traced (modelOf relayEdges relayCodes).node {} {} relayTransaction 0).2).toFinset =
        {1, 10, 11} := by
    subst hdepth'
    exact hall'.trans (by decide)
  have hhints : ∀ address ∈ relayHints, address ∈ synthetic {} relayTransaction ∨
      address = relayTransaction.target ∨ address ∈
        fetched (traced (modelOf relayEdges relayCodes).node {} {} relayTransaction 0).2 := by
    intro address hm
    simp only [relayHints, List.mem_cons, List.not_mem_nil, or_false] at hm
    simp only [← List.mem_toFinset (l := fetched _), hfetched]
    rcases hm with rfl | rfl | rfl | rfl
    · exact .inr (.inr (by simp))
    · exact .inl (by simp [synthetic, relayTransaction])
    · exact .inr (.inr (by simp))
    · exact .inr (.inr (by simp))
  obtain ⟨saved, hsaved, hsaves⟩ := (trace_hinted hs hs'
    (simulates_modelOf relayEdges relayCodes {} relayTransaction (some relayHints))
    (simulates_modelOf relayEdges relayCodes {} relayTransaction none) 0 0 hpatched hpatched'
    hhints).2 trace' h'
  obtain rfl : saved = trace := Except.ok.inj (hsaved.symm.trans h)
  exact ⟨saved, trace', h, h', by omega, by omega, hsaves⟩

end Tracer

end EvmProbe
