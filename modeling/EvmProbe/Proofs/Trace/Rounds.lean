import EvmProbe.Proofs.Fragment.Code
import EvmProbe.Proofs.Trace.Discovery
import EvmProbe.Proofs.Trace.Exchanges
import Mathlib.Data.List.Nodup

/-!
The rounds of tracing, on any node.

A round fetches what is queued and not known, patches, and simulates; the node may fail it at any
request, and code may have no image.  `Round` lists all that can come of it, with the exchanges.

* `ensures_round`: a round comes to one of these.
* `Faithful`, `Faithful.learn`: what the tracer knows are the accounts that were fetched, with the
  code that was given; every round keeps this.
* `Kept`, `ensures_trace`: what every round keeps, tracing keeps.
-/

namespace EvmProbe

open Exchange (Each answers codes fetched simulations)
open Recorded

namespace Tracer

/-! ## A single round -/

/-- What fetching the code of accounts comes to. -/
inductive Fetched (block : BlockId) (addresses : List Address) (log : List Exchange) :
    Except Error (List (Address × Bytes)) → List Exchange → Prop where
  /-- The node gave all of it. -/
  | all {given : List (Address × Bytes)} (h : given.map (·.1) = addresses) :
      Fetched block addresses log (.ok given) (answers block given ++ log)
  /-- The node failed on an account, and those behind it were not asked for. -/
  | failed {given : List (Address × Bytes)} {address : Address} {rest : List Address}
      (cause : Failure) (h : addresses = given.map (·.1) ++ address :: rest) :
      Fetched block addresses log (.error (.node cause))
        (.codeAt address block (.error cause) :: answers block given ++ log)

/-- What the reply to a simulation says. -/
def interpreted : Except Failure Bytes → Except Error Simulation
  | .error cause => .error (.node cause)
  | .ok output =>
    match Simulation.decode output with
    | .error cause => .error (.malformedOutput cause)
    | .ok result => if result.success then .ok result else .error (.reverted result.output)

theorem interpreted_ok {reply : Except Failure Bytes} {result : Simulation} :
    interpreted reply = .ok result ↔
      ∃ output, reply = .ok output ∧ Simulation.decode output = .ok result ∧ result.success := by
  cases reply with
  | error cause => simp [interpreted]
  | ok output =>
    cases hd : Simulation.decode output with
    | error cause => simp [interpreted, hd]
    | ok simulation =>
      by_cases hs : simulation.success
      · simp only [interpreted, hd, if_pos hs, Except.ok.injEq, exists_eq_left']
        exact ⟨fun h => ⟨h, h ▸ hs⟩, fun h => h.1⟩
      · simp only [interpreted, hd, if_neg hs, Except.ok.injEq, exists_eq_left', reduceCtorEq,
          false_iff, not_and]
        exact fun h => h ▸ hs

/-- The simulation that is requested when `seen` is known, with its reply. -/
def simulationOf (settings : Settings) (contracts : HookContracts) (tx : Transaction)
    (seen : Discovered) (reply : Except Failure Bytes) : Exchange :=
  .call settings.runner (calldata tx) (overrides settings contracts tx seen) tx.block reply

/-- What a round comes to. -/
inductive Round (settings : Settings) (contracts : HookContracts) (tx : Transaction)
    (state : Patcher × Discovered) (queue : List Address) (log : List Exchange) :
    Except Error ((Patcher × Discovered) × Simulation) → List Exchange → Prop where
  /-- The node failed to give code. -/
  | unfetched {e : Error} {log' : List Exchange}
      (h : Fetched tx.block (queue.filter (!state.2.isKnown ·)) log (.error e) log') :
      Round settings contracts tx state queue log (.error e) log'
  /-- Some code has no image. -/
  | unpatched {given : List (Address × Bytes)} {e : Error}
      (h : given.map (·.1) = queue.filter (!state.2.isKnown ·))
      (hl : learn state given = .error e) :
      Round settings contracts tx state queue log (.error e) (answers tx.block given ++ log)
  /-- The simulation failed. -/
  | unsimulated {given : List (Address × Bytes)} {state' : Patcher × Discovered}
      {reply : Except Failure Bytes} {e : Error}
      (h : given.map (·.1) = queue.filter (!state.2.isKnown ·))
      (hl : learn state given = .ok state') (hi : interpreted reply = .error e) :
      Round settings contracts tx state queue log (.error e)
        (simulationOf settings contracts tx state'.2 reply :: (answers tx.block given ++ log))
  /-- The transaction was simulated. -/
  | simulated {given : List (Address × Bytes)} {state' : Patcher × Discovered}
      {reply : Except Failure Bytes} {result : Simulation}
      (h : given.map (·.1) = queue.filter (!state.2.isKnown ·))
      (hl : learn state given = .ok state') (hi : interpreted reply = .ok result) :
      Round settings contracts tx state queue log (.ok (state', result))
        (simulationOf settings contracts tx state'.2 reply :: (answers tx.block given ++ log))

/-- What is allowed of each exchange is allowed behind a round if it is of the simulation, and
always of requests for code. -/
theorem Round.each {settings : Settings} {contracts : HookContracts} {tx : Transaction}
    {state : Patcher × Discovered} {queue : List Address} {log log' : List Exchange}
    {result : Except Error ((Patcher × Discovered) × Simulation)}
    {allowed : Exchange → List Exchange → Prop}
    (hround : Round settings contracts tx state queue log result log') (hlog : Each allowed log)
    (hcode : ∀ address block reply earlier, allowed (.codeAt address block reply) earlier)
    (hcall : ∀ given state' reply, given.map (·.1) = queue.filter (!state.2.isKnown ·) →
      learn state given = .ok state' →
      allowed (simulationOf settings contracts tx state'.2 reply) (answers tx.block given ++ log)) :
    Each allowed log' := by
  have hanswers (given : List (Address × Bytes)) : Each allowed (answers tx.block given ++ log) :=
    (Exchange.each_answers_append hcode).2 hlog
  cases hround with
  | unfetched h =>
    cases h with
    | failed cause h => exact Exchange.each_cons.2 ⟨hcode .., hanswers _⟩
  | unpatched h hl => exact hanswers _
  | unsimulated h hl hi => exact Exchange.each_cons.2 ⟨hcall _ _ _ h hl, hanswers _⟩
  | simulated h hl hi => exact Exchange.each_cons.2 ⟨hcall _ _ _ h hl, hanswers _⟩

section
variable {σ : Type} {node : Node (StateM σ)} {said : Exchange → Prop} {settings : Settings}
  {contracts : HookContracts} {tx : Transaction} {seen : Discovered}
  {state : Patcher × Discovered} {queue : List Address} {log : List Exchange}
  (hr : node.Replies said) (hlog : ∀ exchange ∈ log, said exchange)
include hr hlog

theorem ensures_fetchCodes (block : BlockId) (addresses : List Address) :
    Ensures (fetchCodes node.keeping block addresses) log fun result log' =>
      Fetched block addresses log result log' ∧ ∀ exchange ∈ log', said exchange := by
  induction addresses generalizing log with
  | nil =>
    have hf : Fetched block [] log (.ok []) (answers block [] ++ log) := .all rfl
    exact ensures_pure ⟨hf, hlog⟩
  | cons address addresses ih =>
    refine (ensures_codeAt hr address).bind ?_
    rintro reply _ ⟨hsaid, rfl⟩
    have hlog' := List.forall_mem_cons.2 ⟨hsaid, hlog⟩
    cases reply with
    | error cause =>
      have hf : Fetched block (address :: addresses) log (.error (.node cause))
          (.codeAt address block (.error cause) :: answers block [] ++ log) := .failed cause rfl
      exact ensures_pure ⟨hf, hlog'⟩
    | ok code =>
      have hcons (given : List (Address × Bytes)) :
          answers block given ++ .codeAt address block (.ok code) :: log =
            answers block ((address, code) :: given) ++ log := by
        simp [Exchange.answers_cons]
      refine (ih hlog').bind ?_
      rintro result log₁ ⟨hf, hlog₁⟩
      cases hf with
      | @all given h =>
        rw [hcons] at hlog₁ ⊢
        exact ensures_pure ⟨.all (congrArg (address :: ·) h), hlog₁⟩
      | @failed given _ _ cause h =>
        have hf : Fetched block (address :: addresses) log (.error (.node cause))
            (.codeAt _ block (.error cause) :: answers block ((address, code) :: given) ++ log) :=
          .failed cause (congrArg (address :: ·) h)
        rw [List.cons_append, hcons] at hlog₁ ⊢
        exact ensures_pure ⟨hf, hlog₁⟩

theorem ensures_simulate : Ensures (simulate node.keeping settings contracts tx seen) log
    fun result log' => ∃ reply, result = interpreted reply ∧
      log' = simulationOf settings contracts tx seen reply :: log ∧
        ∀ exchange ∈ log', said exchange := by
  refine (ensures_call hr _ _ _).bind ?_
  rintro reply _ ⟨hsaid, rfl⟩
  have hpure : ∀ result, result = interpreted reply → Ensures (pure result : Recorded σ _)
      (simulationOf settings contracts tx seen reply :: log) fun result log' =>
        ∃ reply, result = interpreted reply ∧
          log' = simulationOf settings contracts tx seen reply :: log ∧
            ∀ exchange ∈ log', said exchange := fun result he =>
    ensures_pure ⟨reply, he, rfl, List.forall_mem_cons.2 ⟨hsaid, hlog⟩⟩
  cases reply with
  | error cause => exact hpure _ rfl
  | ok output =>
    dsimp only
    cases hd : Simulation.decode output with
    | error cause => exact hpure _ (by rw [interpreted, hd])
    | ok result => exact hpure _ (by rw [interpreted, hd])

/-- **A round comes to one of its four ends.** -/
theorem ensures_round : Ensures (round node.keeping settings contracts tx state queue) log
    fun result log' => Round settings contracts tx state queue log result log' ∧
      ∀ exchange ∈ log', said exchange := by
  refine (ensures_fetchCodes hr hlog _ _).bind ?_
  rintro _ log₁ ⟨hf, hlog₁⟩
  cases hf with
  | failed cause h => exact ensures_pure ⟨.unfetched (.failed cause h), hlog₁⟩
  | @all given h =>
    dsimp only
    cases hl : learn state given with
    | error e => exact ensures_pure ⟨.unpatched h hl, hlog₁⟩
    | ok state' =>
      refine (ensures_simulate hr hlog₁).bind ?_
      rintro _ log₂ ⟨reply, rfl, rfl, hlog₂⟩
      cases hi : interpreted reply with
      | error e => exact ensures_pure ⟨.unsimulated h hl hi, hlog₂⟩
      | ok result => exact ensures_pure ⟨.simulated h hl hi, hlog₂⟩

end

/-! ## What the tracer knows -/

/-- Accounts that may be fetched: none is queued twice, and none is synthetic. -/
structure Queued (settings : Settings) (tx : Transaction) (queue : List Address) : Prop where
  nodup : queue.Nodup
  real : ∀ address ∈ queue, address ∉ synthetic settings tx

/-- What the tracer knows are the accounts that were fetched, with the code that was given. -/
structure Faithful (settings : Settings) (tx : Transaction) (seen : Discovered)
    (log : List Exchange) : Prop where
  nodup : (fetched log).Nodup
  real : ∀ address ∈ fetched log, address ∉ synthetic settings tx
  answered : (codes log).map (·.1) = fetched log
  isKnown : ∀ address, seen.isKnown address ↔ address ∈ fetched log
  code? : ∀ address code, seen.code? address = some code ↔ (address, code) ∈ codes log ∧ code ≠ []

section
variable {settings : Settings} {contracts : HookContracts} {tx : Transaction} {seen : Discovered}
  {state state' : Patcher × Discovered} {queue : List Address} {log : List Exchange}
  {given : List (Address × Bytes)}

theorem queued_candidates (addresses : List Address) :
    Queued settings tx (candidates settings tx addresses) :=
  ⟨nodup_candidates addresses, fun _ hm => (mem_candidates.1 hm).2⟩

/-- A simulation adds nothing to what was fetched. -/
theorem Faithful.simulated (h : Faithful settings tx seen log) (seen' : Discovered)
    (reply : Except Failure Bytes) :
    Faithful settings tx seen (simulationOf settings contracts tx seen' reply :: log) :=
  ⟨h.nodup, h.real, h.answered, h.isKnown, h.code?⟩

/-- What is fetched is fetched for the first time. -/
theorem Faithful.fresh (h : Faithful settings tx seen log) (hq : Queued settings tx queue)
    (hg : given.map (·.1) = queue.filter (!seen.isKnown ·)) : (given.map (·.1)).Nodup ∧
      ∀ entry ∈ given, entry.1 ∈ queue ∧ entry.1 ∉ fetched log ∧ seen.code? entry.1 = none := by
  refine ⟨hg ▸ hq.nodup.filter _, fun entry hm => ?_⟩
  have hin : entry.1 ∈ queue.filter (!seen.isKnown ·) := hg ▸ List.mem_map_of_mem hm
  obtain ⟨hqueue, hknown⟩ := List.mem_filter.1 hin
  have hnot : entry.1 ∉ fetched log := by simpa [← h.isKnown] using hknown
  refine ⟨hqueue, hnot, Option.eq_none_iff_forall_not_mem.2 fun code hcode => hnot ?_⟩
  rw [← h.answered]
  exact List.mem_map.2 ⟨_, ((h.code? _ _).1 hcode).1, rfl⟩

/-- Behind fetching, what was queued is fetched. -/
theorem Faithful.mem_fetched (h : Faithful settings tx seen log)
    (hg : given.map (·.1) = queue.filter (!seen.isKnown ·)) (block : BlockId) (address : Address) :
    address ∈ fetched (answers block given ++ log) ↔
      address ∈ fetched log ∨ address ∈ queue := by
  simp only [Exchange.fetched_append, Exchange.fetched_answers, hg, List.mem_append,
    List.mem_reverse, List.mem_filter, Bool.not_eq_true', Bool.eq_false_iff, ne_eq, h.isKnown]
  tauto

/-- What was fetched is without duplicates and not synthetic, also if a round was not done with the
queue. -/
theorem Faithful.asked (h : Faithful settings tx seen log) (hq : Queued settings tx queue)
    {asked : List Address} (hasked : asked <+: queue.filter (!seen.isKnown ·)) :
    (asked.reverse ++ fetched log).Nodup ∧
      ∀ address ∈ asked.reverse ++ fetched log, address ∉ synthetic settings tx := by
  have hnew : ∀ address ∈ asked, address ∈ queue ∧ address ∉ fetched log := by
    intro address hm
    obtain ⟨hqueue, hknown⟩ := List.mem_filter.1 (hasked.subset hm)
    exact ⟨hqueue, by simpa [← h.isKnown] using hknown⟩
  refine ⟨List.nodup_append.2 ⟨List.nodup_reverse.2 ?_, h.nodup, ?_⟩, fun address hm => ?_⟩
  · exact (hq.nodup.filter _).sublist hasked.sublist
  · rintro address hm _ hold rfl
    exact (hnew address (List.mem_reverse.1 hm)).2 hold
  · rcases List.mem_append.1 hm with hm | hm
    · exact hq.real address (hnew address (List.mem_reverse.1 hm)).1
    · exact h.real address hm

/-- **Learning keeps the tracer faithful.** -/
theorem Faithful.learn (h : Faithful settings tx state.2 log) (hq : Queued settings tx queue)
    (hg : given.map (·.1) = queue.filter (!state.2.isKnown ·))
    (hl : learn state given = .ok state') (block : BlockId) :
    Faithful settings tx state'.2 (answers block given ++ log) := by
  obtain ⟨hnodup, hfresh⟩ := h.fresh hq hg
  have hfetched : fetched (answers block given ++ log) =
      (given.map (·.1)).reverse ++ fetched log := by simp
  obtain ⟨hall, hreal⟩ := h.asked hq ⟨[], (List.append_nil _).trans hg⟩
  refine ⟨hfetched ▸ hall, hfetched ▸ hreal, ?_, fun address => ?_, fun address code => ?_⟩
  · simp [h.answered]
  · rw [isKnown_learn hl, h.isKnown, hfetched]
    simp
  · rw [code?_learn hnodup (fun entry hm => (hfresh entry hm).2.2) hl, h.code?]
    simp [or_and_right]

end

/-! ## All rounds -/

section
variable (settings : Settings) (contracts : HookContracts) (tx : Transaction)
  (said : Exchange → Prop)

/-- What holds when a round starts. -/
structure Underway (keeps : Patcher × Discovered → List Address → List Exchange → Prop)
    (state : Patcher × Discovered) (queue : List Address) (log : List Exchange) : Prop where
  faithful : Faithful settings tx state.2 log
  queued : Queued settings tx queue
  below : simulations log < settings.maxRounds
  kept : keeps state queue log

/-- Every round keeps a condition, and wherever tracing ends, it leads to another one. -/
structure Kept (keeps : Patcher × Discovered → List Address → List Exchange → Prop)
    (post : Except Error Trace → List Exchange → Prop) : Prop where
  /-- The round failed. -/
  failed : ∀ {state queue log e log'}, Underway settings tx keeps state queue log →
    Round settings contracts tx state queue log (.error e) log' →
    (∀ exchange ∈ log', said exchange) → post (.error e) log'
  /-- The simulation led to no further account. -/
  settled : ∀ {state queue log state' result log'}, Underway settings tx keeps state queue log →
    Round settings contracts tx state queue log (.ok (state', result)) log' →
    (∀ exchange ∈ log', said exchange) → Faithful settings tx state'.2 log' →
    newTargets settings tx state'.2 result = [] →
    post ((Trace.ofSimulation result (simulations log')).mapError .callType) log'
  /-- The simulation led to further accounts. -/
  further : ∀ {state queue log state' result log'}, Underway settings tx keeps state queue log →
    Round settings contracts tx state queue log (.ok (state', result)) log' →
    (∀ exchange ∈ log', said exchange) → Faithful settings tx state'.2 log' →
    newTargets settings tx state'.2 result ≠ [] →
    keeps state' (newTargets settings tx state'.2 result) log'
  /-- All rounds were made. -/
  exhausted : ∀ {state queue log}, keeps state queue log →
    simulations log = settings.maxRounds →
    post (.error (.noConvergence settings.maxRounds)) log

end

section
variable {settings : Settings} {contracts : HookContracts} {tx : Transaction}
  {said : Exchange → Prop} {σ : Type} {node : Node (StateM σ)}
  {keeps : Patcher × Discovered → List Address → List Exchange → Prop}
  {post : Except Error Trace → List Exchange → Prop}

/-- A round that simulates makes one simulation, and the tracer stays faithful. -/
theorem Round.faithful {state state' : Patcher × Discovered} {queue : List Address}
    {log log' : List Exchange} {result : Simulation} (h : Faithful settings tx state.2 log)
    (hq : Queued settings tx queue)
    (hround : Round settings contracts tx state queue log (.ok (state', result)) log') :
    Faithful settings tx state'.2 log' ∧ simulations log' = simulations log + 1 := by
  cases hround with
  | simulated hg hl hi => exact ⟨(h.learn hq hg hl tx.block).simulated _ _, by simp [simulationOf]⟩

/-- **What every round keeps, all rounds keep.** -/
theorem ensures_rounds (hr : node.Replies said) (hk : Kept settings contracts tx said keeps post)
    (left : Nat) {state : Patcher × Discovered} {queue : List Address} {log : List Exchange}
    (hlog : ∀ exchange ∈ log, said exchange) (hf : Faithful settings tx state.2 log)
    (hq : Queued settings tx queue) (hleft : simulations log + left = settings.maxRounds)
    (h : keeps state queue log) :
    Ensures (rounds node.keeping settings contracts tx left (simulations log) state queue) log
      post := by
  induction left generalizing state queue log with
  | zero =>
    have hmade : simulations log = settings.maxRounds := hleft
    rw [rounds, hmade]
    exact ensures_pure (hk.exhausted h hmade)
  | succ left ih =>
    have hunder : Underway settings tx keeps state queue log := ⟨hf, hq, by omega, h⟩
    refine (ensures_round hr hlog).bind ?_
    rintro result log' ⟨hround, hlog'⟩
    cases result with
    | error e => exact ensures_pure (hk.failed hunder hround hlog')
    | ok reached =>
      obtain ⟨state', result⟩ := reached
      obtain ⟨hf', hsim⟩ := hround.faithful hf hq
      dsimp only
      split
      · next hnone =>
        have hpost := hk.settled hunder hround hlog' hf' hnone
        rw [hsim] at hpost
        split
        · next trace ht =>
          rw [ht] at hpost
          exact ensures_pure hpost
        · next cause ht =>
          rw [ht] at hpost
          exact ensures_pure hpost
      · next hsome =>
        rw [← hsim]
        exact ih hlog' hf' (queued_candidates _) (by omega)
          (hk.further hunder hround hlog' hf' hsome)

/-- **What every round keeps, tracing keeps**, whatever the node is like. -/
theorem ensures_trace (hr : node.Replies said) (hk : Kept settings contracts tx said keeps post)
    (hnone : settings.maxRounds = 0 → post (.error .noRounds) [])
    (hstart : ∀ {patcher reply},
      Patcher.new (patchOptions settings contracts tx) ⟨0⟩ = .ok patcher →
      said (.accessList (accessRequest tx) tx.block reply) →
      keeps (patcher, {}) (candidates settings tx (tx.target :: reply.toOption.getD []))
        [.accessList (accessRequest tx) tx.block reply]) :
    Ensures (trace node.keeping settings contracts tx) [] post := by
  rw [trace]
  split
  · next hzero => exact ensures_pure (hnone hzero)
  · obtain ⟨patcher, hp, -⟩ := Patcher.exists_new (patchOptions settings contracts tx) ⟨0⟩
    rw [hp]
    have hexpected : Ensures (expected node.keeping tx) [] fun addresses log => ∃ reply,
        addresses = reply.toOption.getD [] ∧
          log = [.accessList (accessRequest tx) tx.block reply] ∧
          said (.accessList (accessRequest tx) tx.block reply) := by
      refine (ensures_accessList hr _).bind ?_
      rintro reply _ ⟨hsaid, rfl⟩
      cases reply with
      | error cause => exact ensures_pure ⟨_, rfl, rfl, hsaid⟩
      | ok addresses => exact ensures_pure ⟨_, rfl, rfl, hsaid⟩
    refine hexpected.bind ?_
    rintro _ _ ⟨reply, rfl, rfl, hsaid⟩
    have hfaithful : Faithful settings tx {} [.accessList (accessRequest tx) tx.block reply] := by
      refine ⟨List.nodup_nil, by simp, rfl, fun address => ?_, fun address code => ?_⟩
      · simp [isKnown_iff]
      · simp [Discovered.code?]
    exact ensures_rounds hr hk settings.maxRounds (List.forall_mem_singleton.2 hsaid) hfaithful
      (queued_candidates _) (Nat.zero_add _) (hstart hp hsaid)

end

end Tracer

end EvmProbe
