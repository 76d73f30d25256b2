import EvmProbe.Proofs.Trace.Patching
import EvmProbe.Proofs.Trace.Reports
import EvmProbe.Proofs.Trace.Rounds
import EvmProbe.Trace.Model
import Mathlib.Data.Finset.Dedup
import Mathlib.Data.Finset.Filter

/-!
Which accounts tracing finds.

A node that knows who calls whom (`CallGraph`) reports the calls of the accounts that carry code.
Round after round, tracing goes one call further from the accounts that it starts with.

* `mem_newTargets_of_shown`: a simulation leads to the accounts that are one call further away.
* `explored`: rounds go on as long as there are accounts further away.
* `patchable`: no patch call fails if there are not too many accounts and their code is short.
* `trace_computes_closure`: tracing makes as many rounds as it takes until no account is further
  away, and fetches the accounts up to there, each once.
-/

namespace EvmProbe

open Exchange (answers codes fetched simulations)
open Recorded

/-! ## Call graphs -/

/-- A call between accounts. -/
structure CallEdge where
  caller : Address
  target : Address
  kind : CallType
  success : Bool
  deriving DecidableEq, Repr

/-- The report of a call. -/
def CallEdge.IsShownBy (edge : CallEdge) (call : Simulation.Call) : Prop :=
  call.context = edge.caller ∧ call.target = edge.target ∧
    call.callType = edge.kind.toByte ∧ call.success = edge.success

/-- The report of a call without value and data. -/
def CallEdge.report (edge : CallEdge) : Simulation.Call :=
  { context := edge.caller, target := edge.target, callType := edge.kind.toByte, value := 0,
    gas := 0, input := [], output := [], success := edge.success }

/-- Who calls whom, and the code of every account. -/
structure CallGraph where
  edges : List CallEdge
  codes : Address → Bytes

namespace CallGraph

/-- The calls of some of the accounts are reported, and no other. -/
structure Shown (graph : CallGraph) (calling : Address → Prop) (calls : List Simulation.Call) :
    Prop where
  sound : ∀ call ∈ calls, ∃ edge ∈ graph.edges, calling edge.caller ∧ edge.IsShownBy call
  complete : ∀ edge ∈ graph.edges, calling edge.caller → ∃ call ∈ calls, edge.IsShownBy call

theorem Shown.congr {graph : CallGraph} {calling calling' : Address → Prop}
    {calls : List Simulation.Call} (h : graph.Shown calling calls)
    (hc : ∀ address, calling address ↔ calling' address) : graph.Shown calling' calls :=
  funext (fun address => propext (hc address)) ▸ h

/-- An account makes calls in a simulation: it is synthetic, or it is known and has code. -/
def Calling (graph : CallGraph) (synthetic : List Address) (known : Finset Address)
    (address : Address) : Prop :=
  address ∈ synthetic ∨ address ∈ known ∧ graph.codes address ≠ []

instance (graph : CallGraph) (synthetic : List Address) (known : Finset Address)
    (address : Address) : Decidable (graph.Calling synthetic known address) :=
  inferInstanceAs (Decidable (_ ∨ _))

/-- The accounts, synthetic ones excepted, that successful calls lead to; static calls do not
count. -/
def reached (graph : CallGraph) (synthetic : List Address) (known : Finset Address) :
    Finset Address :=
  ((graph.edges.filter fun edge => edge.success ∧ edge.kind ≠ .static ∧
    graph.Calling synthetic known edge.caller).map CallEdge.target).toFinset.filter (· ∉ synthetic)

/-- The accounts that are at most `depth` calls away from the first ones. -/
def within (graph : CallGraph) (synthetic : List Address) (first : Finset Address) :
    (depth : Nat) → Finset Address
  | 0 => first
  | depth + 1 =>
    graph.within synthetic first depth ∪
      graph.reached synthetic (graph.within synthetic first depth)

section
variable {graph : CallGraph} {synthetic : List Address} {known first : Finset Address}
  {address : Address} {depth : Nat}

theorem mem_reached : address ∈ graph.reached synthetic known ↔ address ∉ synthetic ∧
    ∃ edge ∈ graph.edges, edge.success ∧ edge.kind ≠ .static ∧
      graph.Calling synthetic known edge.caller ∧ edge.target = address := by
  simp [reached, and_assoc, and_comm (a := address ∉ synthetic)]

theorem mem_within_succ : address ∈ graph.within synthetic first (depth + 1) ↔
    address ∈ graph.within synthetic first depth ∨
      address ∈ graph.reached synthetic (graph.within synthetic first depth) :=
  Finset.mem_union

/-- No account is further away if no other is reached. -/
theorem within_succ_eq_iff :
    graph.within synthetic first (depth + 1) = graph.within synthetic first depth ↔
      ∀ address ∈ graph.reached synthetic (graph.within synthetic first depth),
        address ∈ graph.within synthetic first depth :=
  Finset.union_eq_left

end

end CallGraph

namespace Tracer

/-! ## Nodes -/

/-- The accounts that tracing starts with. -/
def seeds (settings : Settings) (tx : Transaction) (listed : Except Failure (List Address)) :
    Finset Address :=
  (tx.target :: listed.toOption.getD []).toFinset.filter (· ∉ synthetic settings tx)

/-- The reply to a simulation: it succeeded, and the calls of the accounts that carried code are
reported. -/
def Told (graph : CallGraph) (overrides : CodeOverrides) (reply : Except Failure Bytes) : Prop :=
  ∃ output result, reply = .ok output ∧ Simulation.decode output = .ok result ∧ result.success ∧
    graph.Shown (fun address => overrides.contains address) result.calls

/-- What a node that serves a call graph says of a transaction: the code of every account, always
the same access list or failure, and in every simulation the calls of the accounts that carry
code. -/
def Truthful (settings : Settings) (tx : Transaction) (graph : CallGraph)
    (listed : Except Failure (List Address)) : Exchange → Prop
  | .codeAt address block reply => block = tx.block → reply = .ok (graph.codes address)
  | .accessList request block reply =>
    request = accessRequest tx → block = tx.block → reply = listed
  | .call target input overrides block reply =>
    target = settings.runner → input = calldata tx → block = tx.block → Told graph overrides reply

/-- A node serves a call graph. -/
def Serves {σ : Type} (node : Node (StateM σ)) (settings : Settings) (tx : Transaction)
    (graph : CallGraph) (listed : Except Failure (List Address)) : Prop :=
  node.Replies (Truthful settings tx graph listed)

section
variable {settings : Settings} {contracts : HookContracts} {tx : Transaction}
  {graph : CallGraph} {listed : Except Failure (List Address)} {seen : Discovered}
  {state state' : Patcher × Discovered} {queue : List Address} {log log' : List Exchange}
  {result : Simulation}

theorem mem_seeds {address : Address} : address ∈ seeds settings tx listed ↔
    address ∈ candidates settings tx (tx.target :: listed.toOption.getD []) := by
  rw [mem_candidates, seeds, Finset.mem_filter, List.mem_toFinset]

/-! ## One round -/

/-- A simulation of a node that serves a graph is read as it is told. -/
theorem Told.shown {overrides : CodeOverrides} {reply : Except Failure Bytes}
    (h : Told graph overrides reply) : ∃ result, interpreted reply = .ok result ∧
      graph.Shown (fun address => overrides.contains address) result.calls := by
  obtain ⟨output, result, rfl, hd, hs, hshown⟩ := h
  exact ⟨result, interpreted_ok.2 ⟨output, rfl, hd, hs⟩, hshown⟩

/-- What is given is the code of the graph. -/
theorem code_of_truthful {given : List (Address × Bytes)}
    (h : ∀ exchange ∈ answers tx.block given ++ log, Truthful settings tx graph listed exchange) :
    ∀ entry ∈ given, entry.2 = graph.codes entry.1 := by
  intro entry hm
  have htold := h (.codeAt entry.1 tx.block (.ok entry.2))
    (List.mem_append_left _ (Exchange.mem_answers.2 ⟨entry, hm, rfl⟩))
  exact Except.ok.inj (htold rfl)

/-- A round fails only if some code has no image. -/
theorem Round.unpatched_of_truthful {e : Error}
    (hround : Round settings contracts tx state queue log (.error e) log')
    (htold : ∀ exchange ∈ log', Truthful settings tx graph listed exchange) :
    ∃ given, given.map (·.1) = queue.filter (!state.2.isKnown ·) ∧
      learn state given = .error e ∧ ∀ entry ∈ given, entry.2 = graph.codes entry.1 := by
  cases hround with
  | unfetched hf =>
    cases hf with
    | failed cause h => cases htold _ List.mem_cons_self rfl
  | unpatched h hl => exact ⟨_, h, hl, code_of_truthful htold⟩
  | unsimulated h hl hi =>
    have hreply : Told graph _ _ := htold _ List.mem_cons_self rfl rfl rfl
    obtain ⟨result, hok, -⟩ := hreply.shown
    rw [hi] at hok
    cases hok

/-- A round that simulates was given the code of the graph, and shows the calls of the accounts that
carried code. -/
theorem Round.shown_of_truthful
    (hround : Round settings contracts tx state queue log (.ok (state', result)) log')
    (htold : ∀ exchange ∈ log', Truthful settings tx graph listed exchange) :
    ∃ given, given.map (·.1) = queue.filter (!state.2.isKnown ·) ∧
      learn state given = .ok state' ∧ (∀ entry ∈ given, entry.2 = graph.codes entry.1) ∧
      codes log' = given.reverse ++ codes log ∧ graph.Shown
        (fun address => (overrides settings contracts tx state'.2).contains address)
        result.calls := by
  cases hround with
  | @simulated given _ reply _ h hl hi =>
    have hreply : Told graph (overrides settings contracts tx state'.2) reply :=
      htold _ List.mem_cons_self rfl rfl rfl
    obtain ⟨shown, hok, hshown⟩ := hreply.shown
    rw [hi, Except.ok.injEq] at hok
    have hgiven : ∀ exchange ∈ answers tx.block given ++ log,
        Truthful settings tx graph listed exchange :=
      fun exchange hm => htold exchange (List.mem_cons_of_mem _ hm)
    refine ⟨given, h, hl, code_of_truthful hgiven, ?_, hok ▸ hshown⟩
    simp [simulationOf]

/-- Known accounts with code carry it. -/
theorem Faithful.contains_overrides (h : Faithful settings tx seen log)
    (hcodes : ∀ entry ∈ codes log, entry.2 = graph.codes entry.1) (address : Address) :
    (overrides settings contracts tx seen).contains address ↔
      graph.Calling (synthetic settings tx) (fetched log).toFinset address := by
  rw [Tracer.contains_overrides, contains_iff, CallGraph.Calling, List.mem_toFinset, ← h.answered]
  refine or_congr_right ?_
  simp only [h.code?, List.mem_map]
  constructor
  · rintro ⟨code, hm, hne⟩
    obtain rfl : code = graph.codes address := hcodes _ hm
    exact ⟨⟨_, hm, rfl⟩, hne⟩
  · rintro ⟨⟨⟨address, code⟩, hm, rfl⟩, hne⟩
    obtain rfl : code = graph.codes address := hcodes _ hm
    exact ⟨_, hm, hne⟩

/-- **A simulation leads to the accounts that are one call further away.** -/
theorem mem_newTargets_of_shown {address : Address} (h : Faithful settings tx seen log)
    (hshown : graph.Shown (graph.Calling (synthetic settings tx) (fetched log).toFinset)
      result.calls) :
    address ∈ newTargets settings tx seen result ↔ address ∉ fetched log ∧
      address ∈ graph.reached (synthetic settings tx) (fetched log).toFinset := by
  rw [mem_newTargets, CallGraph.mem_reached, h.isKnown, and_left_comm]
  refine and_congr_right fun _ => and_congr_right fun _ => ?_
  constructor
  · rintro ⟨call, hm, hsuccess, hkind, rfl⟩
    obtain ⟨edge, hedge, hcalling, -, ht, hk, he⟩ := hshown.sound call hm
    refine ⟨edge, hedge, he ▸ hsuccess, fun hstatic => hkind ?_, hcalling, ht.symm⟩
    rw [hk, hstatic]
  · rintro ⟨edge, hedge, hsuccess, hkind, hcalling, rfl⟩
    obtain ⟨call, hm, -, ht, hk, he⟩ := hshown.complete edge hedge hcalling
    refine ⟨call, hm, he ▸ hsuccess, fun hstatic => hkind ?_, ht⟩
    have hbyte := CallType.ofByte?_toByte edge.kind
    rw [← hk, hstatic, CallType.ofByte?_toByte] at hbyte
    exact (Option.some.inj hbyte).symm

/-- A simulation that reports calls of a graph can be read as a trace. -/
theorem exists_ofSimulation {calling : Address → Prop}
    (hshown : graph.Shown calling result.calls) (rounds : Nat) :
    ∃ trace, Trace.ofSimulation result rounds = .ok trace ∧ trace.rounds = rounds := by
  cases hc : result.calls.mapM Trace.Call.ofReport with
  | ok calls =>
    rw [Trace.ofSimulation, hc]
    exact ⟨_, rfl, rfl⟩
  | error e =>
    obtain ⟨call, hm, he⟩ := exists_of_mapM_eq_error hc
    obtain ⟨edge, -, -, -, -, hk, -⟩ := hshown.sound call hm
    rw [Trace.Call.ofReport, hk, CallType.ofByte?_toByte] at he
    cases he

/-! ## All rounds -/

/-- How far tracing has come when a round starts: as many calls away as simulations were made, and
there always were accounts further away. -/
structure Explored (graph : CallGraph) (within : Nat → Finset Address)
    (queue : List Address) (log : List Exchange) : Prop where
  served : ∀ entry ∈ codes log, entry.2 = graph.codes entry.1
  all : ∀ address, address ∈ within (simulations log) ↔ address ∈ fetched log ∨ address ∈ queue
  further : ∀ d < simulations log, within (d + 1) ≠ within d

/-- How tracing ends if `high` rounds are allowed. -/
inductive Ends (within : Nat → Finset Address) (high : Nat) :
    Except Error Trace → List Exchange → Prop where
  /-- No account is further away than a depth, and this is the first such depth. -/
  | converged {depth : Nat} {trace : Trace} {log : List Exchange} (hhigh : depth < high)
      (settled : within (depth + 1) = within depth)
      (first : ∀ d < depth, within (d + 1) ≠ within d)
      (rounds : trace.rounds = depth + 1) (simulated : simulations log = depth + 1)
      (nodup : (fetched log).Nodup) (all : (fetched log).toFinset = within depth) :
      Ends within high (.ok trace) log
  /-- There always were accounts further away. -/
  | unsettled {log : List Exchange} (further : ∀ d < high, within (d + 1) ≠ within d)
      (simulated : simulations log = high) :
      Ends within high (.error (.noConvergence high)) log
  | unpatched (address : Address) (cause : PatchError) (log : List Exchange) :
      Ends within high (.error (.patch address cause)) log

/-- A round fetches the accounts of its depth, and leads to those behind it. -/
theorem Explored.round {first : Finset Address}
    (hu : Underway settings tx
      (fun _ => Explored graph (graph.within (synthetic settings tx) first)) state queue log)
    (hround : Round settings contracts tx state queue log (.ok (state', result)) log')
    (htold : ∀ exchange ∈ log', Truthful settings tx graph listed exchange)
    (hf : Faithful settings tx state'.2 log') :
    simulations log' = simulations log + 1 ∧
      (∀ entry ∈ codes log', entry.2 = graph.codes entry.1) ∧
      (fetched log').toFinset = graph.within (synthetic settings tx) first (simulations log) ∧
      graph.Shown (graph.Calling (synthetic settings tx) (fetched log').toFinset) result.calls ∧
      ∀ address, address ∈ newTargets settings tx state'.2 result ↔
        address ∉ graph.within (synthetic settings tx) first (simulations log) ∧
          address ∈ graph.reached (synthetic settings tx)
            (graph.within (synthetic settings tx) first (simulations log)) := by
  obtain ⟨hfaithful, hqueued, -, hk⟩ := hu
  have hsim := (hround.faithful hfaithful hqueued).2
  obtain ⟨given, hg, -, hgiven, hcodes, hshown⟩ := hround.shown_of_truthful htold
  have hserved : ∀ entry ∈ codes log', entry.2 = graph.codes entry.1 := by
    intro entry hm
    rw [hcodes, List.mem_append, List.mem_reverse] at hm
    exact hm.elim (hgiven entry) (hk.served entry)
  have hwithin : (fetched log').toFinset =
      graph.within (synthetic settings tx) first (simulations log) := by
    ext address
    rw [List.mem_toFinset, hk.all, ← hfaithful.mem_fetched hg tx.block, ← hf.answered, hcodes,
      Exchange.fetched_append, Exchange.fetched_answers, ← hfaithful.answered, List.map_append,
      List.map_reverse]
  have hcalling := hshown.congr (hf.contains_overrides hserved)
  refine ⟨hsim, hserved, hwithin, hcalling, fun address => ?_⟩
  rw [mem_newTargets_of_shown hf hcalling, ← hwithin, List.mem_toFinset]

/-- **Rounds go on as long as there are accounts further away.** -/
theorem explored (first : Finset Address) :
    Kept settings contracts tx (Truthful settings tx graph listed)
      (fun _ => Explored graph (graph.within (synthetic settings tx) first))
      (Ends (graph.within (synthetic settings tx) first) settings.maxRounds) where
  failed hu hround htold := by
    obtain ⟨given, -, hl, -⟩ := hround.unpatched_of_truthful htold
    obtain ⟨address, cause, rfl⟩ := exists_of_learn_eq_error hl
    exact .unpatched address cause _
  settled hu hround htold hf hnone := by
    obtain ⟨hsim, -, hwithin, hshown, hnew⟩ := Explored.round hu hround htold hf
    obtain ⟨trace, ht, hr⟩ := exists_ofSimulation hshown (simulations _)
    rw [ht]
    refine .converged hu.below ?_ hu.kept.further (hr.trans hsim) hsim hf.nodup hwithin
    rw [CallGraph.within_succ_eq_iff]
    intro address hreached
    by_contra hout
    have hm := (hnew address).2 ⟨hout, hreached⟩
    rw [hnone] at hm
    cases hm
  further hu hround htold hf hsome := by
    obtain ⟨hsim, hserved, hwithin, -, hnew⟩ := Explored.round hu hround htold hf
    refine ⟨hserved, fun address => ?_, fun d hd => ?_⟩
    · rw [hsim, CallGraph.mem_within_succ, hnew, ← hwithin, List.mem_toFinset]
      tauto
    · rcases Nat.lt_succ_iff_lt_or_eq.1 (hsim ▸ hd) with hlt | rfl
      · exact hu.kept.further d hlt
      · intro hsettled
        rw [CallGraph.within_succ_eq_iff] at hsettled
        refine hsome (List.eq_nil_iff_forall_not_mem.2 fun address hm => ?_)
        obtain ⟨hout, hreached⟩ := (hnew address).1 hm
        exact hout (hsettled address hreached)
  exhausted hk hmax := .unsettled (hmax ▸ hk.further) hmax

/-- **On a node that serves a graph, tracing goes on until no account is further away**, or until
all rounds were made. -/
theorem trace_of_serves {σ : Type} {node : Node (StateM σ)}
    (hs : Serves node settings tx graph listed) (hrounds : 0 < settings.maxRounds) :
    Ensures (trace node.keeping settings contracts tx) []
      (Ends (graph.within (synthetic settings tx) (seeds settings tx listed))
        settings.maxRounds) := by
  refine ensures_trace hs (explored _) (fun h => by omega) fun {patcher reply} _ hsaid => ?_
  obtain rfl : reply = listed := hsaid rfl rfl
  exact ⟨by simp, fun address => by simp [CallGraph.within, mem_seeds], fun d hd => by
    simp at hd⟩

/-! ## Images -/

/-- Only accounts of a set are fetched, and no code is too long for an image. -/
structure Confined (settings : Settings) (tx : Transaction) (graph : CallGraph)
    (listed : Except Failure (List Address)) (accounts : Finset Address) (limit : Nat) : Prop where
  synthetic : ∀ address ∈ synthetic settings tx, address ∈ accounts
  seeds : ∀ address ∈ seeds settings tx listed, address ∈ accounts
  targets : ∀ edge ∈ graph.edges, edge.target ∈ accounts
  short : ∀ address, (graph.codes address).length ≤ limit
  fits : Fits accounts limit

/-- All that is known and queued is confined. -/
structure Patchable (accounts : Finset Address) (limit : Nat) (state : Patcher × Discovered)
    (queue : List Address) : Prop where
  stocked : Stocked state.1 accounts limit
  short : Short state.2 limit
  queue : ∀ address ∈ queue, address ∈ accounts

section
variable {accounts : Finset Address} {limit : Nat}

/-- A round has images of all code. -/
theorem Patchable.exists_learn (hc : Confined settings tx graph listed accounts limit)
    (h : Patchable accounts limit state queue) {given : List (Address × Bytes)}
    (hg : given.map (·.1) = queue.filter (!state.2.isKnown ·))
    (hgiven : ∀ entry ∈ given, entry.2 = graph.codes entry.1) :
    ∃ state', learn state given = .ok state' ∧ Stocked state'.1 accounts limit ∧
      Short state'.2 limit := by
  refine Tracer.exists_learn h.stocked h.short hc.fits fun entry hm => ⟨h.queue _ ?_, ?_⟩
  · exact List.mem_of_mem_filter (hg ▸ List.mem_map_of_mem hm)
  · exact hgiven entry hm ▸ hc.short _

theorem patchable (hc : Confined settings tx graph listed accounts limit) :
    Kept settings contracts tx (Truthful settings tx graph listed)
      (fun state queue _ => Patchable accounts limit state queue)
      (fun result _ => ∀ address cause, result ≠ .error (.patch address cause)) where
  failed hu hround htold := by
    obtain ⟨given, hg, hl, hgiven⟩ := hround.unpatched_of_truthful htold
    obtain ⟨state', hok, -⟩ := hu.kept.exists_learn hc hg hgiven
    rw [hl] at hok
    cases hok
  settled hu hround htold hf hnone := by
    obtain ⟨-, -, -, -, -, hshown⟩ := hround.shown_of_truthful htold
    obtain ⟨trace, ht, -⟩ := exists_ofSimulation hshown (simulations _)
    rw [ht]
    exact fun address cause he => by cases he
  further hu hround htold hf hsome := by
    obtain ⟨given, hg, hl, hgiven, -, hshown⟩ := hround.shown_of_truthful htold
    obtain ⟨state', hok, hstocked, hshort⟩ := hu.kept.exists_learn hc hg hgiven
    rw [hl, Except.ok.injEq] at hok
    subst state'
    refine ⟨hstocked, hshort, fun address hm => ?_⟩
    obtain ⟨-, -, call, hcall, -, -, rfl⟩ := mem_newTargets.1 hm
    obtain ⟨edge, hedge, -, -, ht, -⟩ := hshown.sound call hcall
    exact ht ▸ hc.targets edge hedge
  exhausted _ _ := fun address cause he => by cases he

/-- **No patch call fails**, if there are not too many accounts and their code is not too long. -/
theorem ne_patch_of_confined {σ : Type} {node : Node (StateM σ)}
    (hs : Serves node settings tx graph listed)
    (hc : Confined settings tx graph listed accounts limit) (s : σ) (address : Address)
    (cause : PatchError) :
    (traced node settings contracts tx s).1 ≠ .error (.patch address cause) := by
  have hrun : Ensures (trace node.keeping settings contracts tx) []
      fun result _ => ∀ address cause, result ≠ .error (.patch address cause) := by
    refine ensures_trace hs (patchable hc) (fun _ address cause he => by cases he)
      fun {patcher reply} hp hsaid => ?_
    obtain rfl : reply = listed := hsaid rfl rfl
    exact ⟨stocked_of_new hc.synthetic hp, fun entry hm => (List.not_mem_nil hm).elim,
      fun address hm => hc.seeds address (mem_seeds.2 hm)⟩
  exact hrun s address cause

end

/-! ## Closure -/

/-- **Tracing computes the accounts that calls lead to.**  It makes one round for each depth up to
the first behind which there is no account, and fetches the accounts up to there, each once; or it
gives up when it has made all the rounds that are allowed. -/
theorem trace_computes_closure {σ : Type} {node : Node (StateM σ)}
    (hs : Serves node settings tx graph listed) (hrounds : 0 < settings.maxRounds) (s : σ)
    (hpatched : ∀ address cause,
      (traced node settings contracts tx s).1 ≠ .error (.patch address cause)) :
    let within := graph.within (synthetic settings tx) (seeds settings tx listed)
    let run := traced node settings contracts tx s
    (∀ depth < settings.maxRounds, within (depth + 1) = within depth →
      (∀ d < depth, within (d + 1) ≠ within d) →
      ∃ trace, run.1 = .ok trace ∧ trace.rounds = depth + 1 ∧ simulations run.2 = depth + 1 ∧
        (fetched run.2).Nodup ∧ (fetched run.2).toFinset = within depth) ∧
    ((∀ depth < settings.maxRounds, within (depth + 1) ≠ within depth) →
      run.1 = .error (.noConvergence settings.maxRounds) ∧
        simulations run.2 = settings.maxRounds) := by
  have hends : Ends (graph.within (synthetic settings tx) (seeds settings tx listed))
      settings.maxRounds (traced node settings contracts tx s).1
      (traced node settings contracts tx s).2 := trace_of_serves hs hrounds s
  dsimp only
  generalize graph.within (synthetic settings tx) (seeds settings tx listed) = within at hends ⊢
  generalize traced node settings contracts tx s = run at hends hpatched ⊢
  obtain ⟨result, log⟩ := run
  dsimp only at hends hpatched ⊢
  cases hends with
  | unpatched address cause => exact absurd rfl (hpatched address cause)
  | @converged depth trace log hhigh settled first rounds simulated nodup all =>
    refine ⟨fun depth' hhigh' settled' first' => ?_, fun hnever => absurd settled (hnever _ hhigh)⟩
    have hdepth : depth' = depth := by
      rcases Nat.lt_trichotomy depth' depth with hlt | heq | hlt
      · exact absurd settled' (first _ hlt)
      · exact heq
      · exact absurd settled (first' _ hlt)
    subst hdepth
    exact ⟨trace, rfl, rounds, simulated, nodup, all⟩
  | unsettled further simulated =>
    exact ⟨fun depth hhigh settled _ => absurd settled (further _ hhigh),
      fun _ => ⟨rfl, simulated⟩⟩

end

/-- A table of code and a list of calls as a graph. -/
def graphOf (edges : List CallEdge) (codes : AddressMap Bytes) : CallGraph where
  edges := edges
  codes address := (codes.find? address).getD []

/-- The same table and list as a node. -/
def modelOf (edges : List CallEdge) (codes : AddressMap Bytes) : NodeModel where
  codes := codes
  calls := edges.map (0, CallEdge.report ·)

/-- What is reported of calls if some of the accounts make theirs. -/
def reportOf (edges : List CallEdge) (calling : Address → Bool) : Simulation where
  success := true
  output := []
  gasUsed := 0
  calls := (edges.filter fun edge => calling edge.caller).map CallEdge.report
  logs := []
  stores := []

section
variable {edges : List CallEdge} {codes : AddressMap Bytes} {settings : Settings}
  {tx : Transaction}

theorem simulate_modelOf (k : Nat) (replaced : List Address) :
    (modelOf edges codes).simulate k replaced = reportOf edges (replaced.contains ·) := by
  simp [NodeModel.simulate, NodeModel.observed, modelOf, reportOf, List.filter_map,
    Function.comp_def, CallEdge.report]

theorem shown_reportOf (overrides : CodeOverrides) :
    (graphOf edges codes).Shown (fun address => overrides.contains address)
      (reportOf edges (overrides.keys.contains ·)).calls := by
  simp only [reportOf, AddressMap.contains_iff_mem_keys]
  constructor
  · intro call hm
    obtain ⟨edge, hedge, rfl⟩ := List.mem_map.1 hm
    obtain ⟨hedge, hcalling⟩ := List.mem_filter.1 hedge
    exact ⟨edge, hedge, by simpa using hcalling, rfl, rfl, rfl, rfl⟩
  · intro edge hedge hcalling
    refine ⟨edge.report, List.mem_map_of_mem (List.mem_filter.2 ⟨hedge, ?_⟩), rfl, rfl, rfl, rfl⟩
    simpa using hcalling

/-- **A node that answers from a graph serves it**, if there is memory for what it reports. -/
theorem serves_modelOf (h : ∀ calling, 7 * (reportOf edges calling).encode.length ≤ Abi.available) :
    Serves (modelOf edges codes).node settings tx (graphOf edges codes)
      (.error (.ofText "eth_createAccessList unsupported")) where
  codeAt _ _ _ := fun _ => rfl
  accessList _ _ _ := fun _ _ => rfl
  call _ _ overrides _ made := fun _ _ _ => by
    refine ⟨_, reportOf edges (overrides.keys.contains ·), ?_, Simulation.decode_encode _ (h _),
      rfl, shown_reportOf overrides⟩
    exact congrArg (fun result => Except.ok result.encode) (simulate_modelOf _ _)

end

/-- An account calls a second one, and this a third one; the call of the third one, which has no
code, is never seen, and a static call does not count. -/
def relayEdges : List CallEdge :=
  [⟨1, 10, .call, true⟩, ⟨10, 11, .delegate, true⟩, ⟨10, 12, .static, true⟩,
    ⟨11, 13, .call, true⟩]

/-- The code of the first two accounts. -/
def relayCodes : AddressMap Bytes := ⟨[(1, [0x00]), (10, [0x00])]⟩

theorem serves_relay (settings : Settings) (tx : Transaction) :
    Serves (modelOf relayEdges relayCodes).node settings tx (graphOf relayEdges relayCodes)
      (.error (.ofText "eth_createAccessList unsupported")) := by
  refine serves_modelOf fun calling => ?_
  have hcalling : reportOf relayEdges calling = reportOf relayEdges fun address =>
      if address = 1 then calling 1 else if address = 10 then calling 10 else calling 11 := by
    unfold reportOf
    rw [List.filter_congr]
    simp [relayEdges]
  have hlength : ∀ first second third : Bool, 7 * (reportOf relayEdges fun address =>
      if address = 1 then first else if address = 10 then second else third).encode.length ≤
        Abi.available := by
    decide +kernel
  exact hcalling ▸ hlength _ _ _

/-- A transaction that the first account is the target of. -/
def relayTransaction : Transaction := { sender := 0xaa, target := 1 }

theorem confined_relay : Confined {} relayTransaction (graphOf relayEdges relayCodes)
    (.error (.ofText "eth_createAccessList unsupported"))
    {runnerAddress, hooksAddress, 0xaa, 1, 10, 11, 12, 13} 1 where
  synthetic := by simp [synthetic, relayTransaction]
  seeds address hm := by
    obtain rfl : address = 1 := by
      simpa [Except.toOption, relayTransaction] using (mem_candidates.1 (mem_seeds.1 hm)).1
    decide +kernel
  targets := by decide +kernel
  short address := by
    change ((relayCodes.entries.lookup address).getD []).length ≤ 1
    rw [relayCodes, AddressMap.lookup_cons, AddressMap.lookup_cons]
    split
    · exact Nat.le_refl 1
    · split
      · exact Nat.le_refl 1
      · exact Nat.zero_le 1
  fits := by
    unfold Fits
    decide +kernel

/-- Tracing finds the third account in the third round, and not the one that it would call. -/
theorem trace_computes_closure_relay :
    Serves (modelOf relayEdges relayCodes).node {} relayTransaction
        (graphOf relayEdges relayCodes) (.error (.ofText "eth_createAccessList unsupported")) ∧
      ∃ trace,
        (traced (modelOf relayEdges relayCodes).node {} {} relayTransaction 0).1 = .ok trace ∧
        trace.rounds = 3 ∧
        (fetched (traced (modelOf relayEdges relayCodes).node {} {}
          relayTransaction 0).2).toFinset = {1, 10, 11} := by
  have hs := serves_relay {} relayTransaction
  have hpatched (address : Address) (cause : PatchError) :
      (traced (modelOf relayEdges relayCodes).node {} {} relayTransaction 0).1 ≠
        .error (.patch address cause) := ne_patch_of_confined hs confined_relay 0 address cause
  refine ⟨hs, ?_⟩
  obtain ⟨trace, ht, hr, -, -, hf⟩ := (trace_computes_closure hs (by decide) 0 hpatched).1 2
    (by decide) (by decide) (by decide)
  exact ⟨trace, ht, hr, hf.trans (by decide)⟩

end Tracer

end EvmProbe
