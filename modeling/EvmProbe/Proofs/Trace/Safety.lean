import EvmProbe.Proofs.Trace.Rounds

/-!
What holds of tracing on any node, also on one that replies something else each time, or fails.

* `Round.fetched_prefix`: a round requests code of queued accounts only, in order.
* `Trace.shows_of_ofSimulation`: a trace has the records of its simulation, in order.
* `orderly_traced`: no account is fetched twice, every simulation but the first one has new code,
  and the targets of the calls in a trace were fetched.
-/

namespace EvmProbe

open Exchange (Each answers fetched simulations)
open Recorded

/-! ## Traces -/

namespace Trace

/-- The report that a call is read from. -/
def Call.report (call : Call) : Simulation.Call :=
  { context := call.context, target := call.target, callType := call.callType.toByte,
    value := call.value, gas := call.gas, input := call.input, output := call.output,
    success := call.success }

/-- A trace has the records of a simulation, in order. -/
structure Shows (trace : Trace) (result : Simulation) : Prop where
  success : trace.success = result.success
  output : trace.output = result.output
  gasUsed : trace.gasUsed = result.gasUsed
  calls : trace.calls.map Call.report = result.calls
  logs : trace.logs = result.logs.map Log.ofReport
  stores : trace.stores = result.stores.map Store.ofReport

theorem Call.report_of_ofReport {report : Simulation.Call} {call : Call}
    (h : Call.ofReport report = .ok call) : call.report = report := by
  unfold Call.ofReport at h
  split at h
  · cases h
  · next kind hk =>
    have hbyte : kind.toByte = report.callType := by simpa using List.find?_some hk
    cases h
    simp [Call.report, hbyte]

/-- **A trace has the records of its simulation.** -/
theorem shows_of_ofSimulation {result : Simulation} {rounds : Nat} {trace : Trace}
    (h : ofSimulation result rounds = .ok trace) : trace.rounds = rounds ∧ trace.Shows result := by
  rw [ofSimulation] at h
  cases hc : result.calls.mapM Call.ofReport with
  | error e =>
    rw [hc] at h
    cases h
  | ok calls =>
    rw [hc] at h
    cases h
    refine ⟨rfl, rfl, rfl, rfl, ?_, rfl, rfl⟩
    exact List.forall₂_eq_eq_eq ▸ List.forall₂_map_left_iff.2
      ((forall₂_of_mapM_eq_ok hc).flip.imp fun _ _ => Call.report_of_ofReport)

end Trace

namespace Tracer

/-! ## Requests -/

section
variable {settings : Settings} {contracts : HookContracts} {tx : Transaction}
  {state state' : Patcher × Discovered} {queue : List Address} {log log' : List Exchange}
  {result : Except Error ((Patcher × Discovered) × Simulation)}

/-- A round requests code of accounts that are queued and not known, in order. -/
theorem Round.fetched_prefix (h : Round settings contracts tx state queue log result log') :
    ∃ asked, asked <+: queue.filter (!state.2.isKnown ·) ∧
      fetched log' = asked.reverse ++ fetched log := by
  cases h with
  | unfetched h =>
    cases h with
    | @failed given address rest cause h =>
      exact ⟨given.map (·.1) ++ [address], ⟨rest, by simp [h]⟩, by simp⟩
  | unpatched h hl => exact ⟨_, List.prefix_rfl, by simp [h]⟩
  | unsimulated h hl hi => exact ⟨_, List.prefix_rfl, by simp [h, simulationOf]⟩
  | simulated h hl hi => exact ⟨_, List.prefix_rfl, by simp [h, simulationOf]⟩

/-- A round makes at most one simulation. -/
theorem Round.simulations_le (h : Round settings contracts tx state queue log result log') :
    simulations log' ≤ simulations log + 1 := by
  cases h with
  | unfetched h =>
    cases h with
    | failed cause h => simp
  | unpatched h hl => simp
  | unsimulated h hl hi => simp [simulationOf]
  | simulated h hl hi => simp [simulationOf]

end

/-! ## Simulations -/

/-- A simulation is requested of the runner with the parameters of the transaction; unless it is the
first one, code of an account was given since the one before that had not been requested. -/
def Renewed (settings : Settings) (tx : Transaction) : Exchange → List Exchange → Prop
  | .call target input _ block _, earlier =>
    target = settings.runner ∧ input = calldata tx ∧ block = tx.block ∧
      (0 < simulations earlier → ∃ between address code before,
        earlier = between ++ .codeAt address tx.block (.ok code) :: before ∧
          simulations between = 0 ∧ address ∉ fetched before)
  | .codeAt .., _ | .accessList .., _ => True

/-- What all requests have in common, however tracing ends. -/
structure Requests (settings : Settings) (tx : Transaction) (log : List Exchange) : Prop where
  /-- The code of no account is requested twice. -/
  once : (fetched log).Nodup
  real : ∀ address ∈ fetched log, address ∉ synthetic settings tx
  bounded : simulations log ≤ settings.maxRounds
  renewed : Each (Renewed settings tx) log

/-- A trace is that of the last simulation, and leads to no account that was not fetched. -/
structure Closed (settings : Settings) (tx : Transaction) (trace : Trace) (log : List Exchange) :
    Prop where
  rounds : trace.rounds = simulations log
  last : ∃ overrides output earlier result,
    log = .call settings.runner (calldata tx) overrides tx.block (.ok output) :: earlier ∧
      Simulation.decode output = .ok result ∧ trace.Shows result
  targets : ∀ call ∈ trace.calls, call.success → call.callType ≠ .static →
    call.target ∈ synthetic settings tx ∨ call.target ∈ fetched log

section
variable {settings : Settings} {contracts : HookContracts} {tx : Transaction}
  {state state' : Patcher × Discovered} {seen : Discovered} {queue : List Address}
  {log log' : List Exchange} {reached : Except Error ((Patcher × Discovered) × Simulation)}
  {result : Simulation} {trace : Trace}

/-- Unless no simulation was made yet, accounts are queued that are not known. -/
def Expanding (seen : Discovered) (queue : List Address) (log : List Exchange) : Prop :=
  0 < simulations log → queue ≠ [] ∧ ∀ address ∈ queue, ¬ seen.isKnown address

/-- The simulation of a round has new code. -/
theorem Expanding.renewed (h : Expanding state.2 queue log) (hf : Faithful settings tx state.2 log)
    (hq : Queued settings tx queue)
    (hround : Round settings contracts tx state queue log reached log')
    (hlog : Each (Renewed settings tx) log) : Each (Renewed settings tx) log' := by
  refine hround.each hlog (fun _ _ _ _ => trivial) fun given state' reply hg _ =>
    ⟨rfl, rfl, rfl, fun hpos => ?_⟩
  obtain ⟨hne, hnew⟩ := h (by simpa using hpos)
  have hall : queue.filter (!state.2.isKnown ·) = queue :=
    List.filter_eq_self.2 fun address hm => by simpa using hnew address hm
  cases given with
  | nil => exact absurd (hall.symm.trans hg.symm) hne
  | cons entry given =>
    refine ⟨answers tx.block given, entry.1, entry.2, log, ?_, by simp,
      ((hf.fresh hq hg).2 entry List.mem_cons_self).2.1⟩
    rw [Exchange.answers_cons, List.append_assoc, List.singleton_append]

/-- **Requests stay in order**, also in a round that fails. -/
theorem Requests.round (h : Requests settings tx log) (he : Expanding state.2 queue log)
    (hf : Faithful settings tx state.2 log) (hq : Queued settings tx queue)
    (hbelow : simulations log < settings.maxRounds)
    (hround : Round settings contracts tx state queue log reached log') :
    Requests settings tx log' := by
  obtain ⟨asked, hasked, hfetched⟩ := hround.fetched_prefix
  obtain ⟨hnodup, hreal⟩ := hf.asked hq hasked
  rw [← hfetched] at hnodup hreal
  have hle := hround.simulations_le
  exact ⟨hnodup, hreal, by omega, he.renewed hf hq hround h.renewed⟩

/-- A simulation that leads to no further account makes a closed trace. -/
theorem closed_of_settled
    (hround : Round settings contracts tx state queue log (.ok (state', result)) log')
    (hf : Faithful settings tx state'.2 log') (hnone : newTargets settings tx state'.2 result = [])
    (ht : Trace.ofSimulation result (simulations log') = .ok trace) :
    Closed settings tx trace log' := by
  obtain ⟨hrounds, hshows⟩ := Trace.shows_of_ofSimulation ht
  refine ⟨hrounds, ?_, fun call hm hsuccess hkind => ?_⟩
  · cases hround with
    | simulated hg hl hi =>
      obtain ⟨output, rfl, hd, -⟩ := interpreted_ok.1 hi
      exact ⟨_, output, _, result, rfl, hd, hshows⟩
  · by_contra hout
    rw [not_or, ← hf.isKnown] at hout
    have hreport : call.report ∈ result.calls := hshows.calls ▸ List.mem_map_of_mem hm
    have hnew : call.target ∈ newTargets settings tx state'.2 result := by
      refine mem_newTargets.2 ⟨hout.1, hout.2, call.report, hreport, hsuccess, fun hb => ?_, rfl⟩
      have hbyte := CallType.ofByte?_toByte call.callType
      rw [show call.callType.toByte = CallType.static.toByte from hb,
        CallType.ofByte?_toByte] at hbyte
      exact hkind (Option.some.inj hbyte).symm
    rw [hnone] at hnew
    cases hnew

/-- What is required of tracing, however it ends. -/
structure Orderly (settings : Settings) (tx : Transaction) (result : Except Error Trace)
    (log : List Exchange) : Prop where
  requests : Requests settings tx log
  closed : ∀ trace, result = .ok trace → Closed settings tx trace log

theorem orderly : Kept settings contracts tx (fun _ => True)
    (fun state queue log => Requests settings tx log ∧ Expanding state.2 queue log)
    (Orderly settings tx) where
  failed hu hround _ := ⟨hu.kept.1.round hu.kept.2 hu.faithful hu.queued hu.below hround,
    fun trace he => by cases he⟩
  settled hu hround _ hf hnone := by
    refine ⟨hu.kept.1.round hu.kept.2 hu.faithful hu.queued hu.below hround, fun trace ht => ?_⟩
    cases hs : Trace.ofSimulation _ (simulations _) with
    | error cause =>
      rw [hs] at ht
      cases ht
    | ok trace' =>
      rw [hs] at ht
      cases ht
      exact closed_of_settled hround hf hnone hs
  further hu hround _ hf hsome :=
    ⟨hu.kept.1.round hu.kept.2 hu.faithful hu.queued hu.below hround,
      fun _ => ⟨hsome, fun address hm => (mem_newTargets.1 hm).2.1⟩⟩
  exhausted h _ := ⟨h.1, fun trace he => by cases he⟩

/-- **Whatever a node replies, tracing is orderly.**  No account is fetched twice and no synthetic
one at all, there are no more simulations than allowed, each but the first with new code, and a
trace is that of the last simulation, all of whose calls lead to accounts that were fetched. -/
theorem orderly_traced {σ : Type} (node : Node (StateM σ)) (settings : Settings)
    (contracts : HookContracts) (tx : Transaction) (s : σ) :
    Orderly settings tx (traced node settings contracts tx s).1
      (traced node settings contracts tx s).2 := by
  have hrun : Ensures (trace node.keeping settings contracts tx) [] (Orderly settings tx) := by
    refine ensures_trace node.replies_true orderly (fun _ => ?_) fun _ _ => ⟨?_, ?_⟩
    · exact ⟨⟨List.nodup_nil, by simp, Nat.zero_le _, Exchange.each_nil⟩, fun trace he => by
        cases he⟩
    · exact ⟨List.nodup_nil, by simp, Nat.zero_le _,
        Exchange.each_cons.2 ⟨trivial, Exchange.each_nil⟩⟩
    · exact fun h => absurd h (by simp)
  exact hrun s

end

end Tracer

end EvmProbe
