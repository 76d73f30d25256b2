import EvmProbe.Proofs.Rpc.Transparency

/-!
Receipts behind a cache.

A receipt is kept whenever there is one, also while the transaction is in no block.

* `receipt_of_reached`: the first receipt that a node had at a look-up is the result from then on.
* `not_receipt_transparent`: this need not be what the node answers.
-/

namespace EvmProbe

open Provider

/-- The receipts that the nodes had when a hash was looked up, the first in front. -/
def Network.receipts (network : Network) (visits : List Visit) (chain : Nat) (hash : Word) :
    List Receipt :=
  visits.filterMap fun visit =>
    if visit.item = .receipt hash ∧ network.chainOf visit.url = chain then
      (network.answer visit.moment visit.url (.receipt hash)).toOption.join
    else none

namespace Session
variable {network : Network} {layout : CacheLayout} {root : String} {session : Session}

/-- A receipt is kept whenever there is one. -/
theorem final?_receipt (moment : Nat) (url : String) (hash : Word) :
    network.final? moment url (.receipt hash) =
      (network.answer moment url (.receipt hash)).toOption.join.map some := by
  have hplace : ((Item.receipt hash).slot? network.chains (network.chainOf url)).isSome := rfl
  rw [Network.final?, if_pos hplace]
  rcases network.answer moment url (.receipt hash) with _ | _ | receipt <;> rfl

/-- What is kept of a receipt is the first one. -/
theorem kept_receipt (visits : List Visit) (chain : Nat) (hash : Word) :
    network.kept visits chain (.receipt hash) =
      (network.receipts visits chain hash).head?.map some := by
  rw [Network.receipts, List.head?_filterMap, List.map_findSome?, Network.kept]
  congr 1
  funext visit
  rw [Function.comp_apply, final?_receipt]
  split <;> rfl

/-- A look-up of a receipt comes to the first one. -/
theorem Sound.ask_receipt (h : Sound network layout root session) (hnames : network.chains.Lawful)
    (hroot : layout.directory? = some root) {provider : Provider}
    (hp : provider ∈ session.providers) {hash : Word}
    (hr : network.RoundTrips (.receipt hash)) :
    (session.ask network provider (.receipt hash)).1 =
      match (network.receipts session.visits (network.chainOf provider.url) hash).head? with
      | some receipt => .ok (some receipt)
      | none => network.answer session.moment provider.url (.receipt hash) := by
  obtain ⟨tree, heq, -⟩ := h.ask_eq hnames hroot hp hr
  rw [heq, outcome, kept_receipt]
  cases (network.receipts session.visits (network.chainOf provider.url) hash).head? <;> rfl

/-- **The first receipt is the result ever after**, in a block or not.  It is what the node answers
if the nodes had receipts of transactions in blocks alone. -/
theorem receipt_of_reached (hnames : network.chains.Lawful) (hroot : layout.directory? = some root)
    (h : Reached network layout root session) {provider : Provider}
    (hp : provider ∈ session.providers) {hash : Word} (hr : network.RoundTrips (.receipt hash)) :
    (session.ask network provider (.receipt hash)).1 =
      (match (network.receipts session.visits (network.chainOf provider.url) hash).head? with
        | some receipt => .ok (some receipt)
        | none => network.answer session.moment provider.url (.receipt hash)) ∧
    (network.Settles (.receipt hash) →
      (∀ receipt ∈ network.receipts session.visits (network.chainOf provider.url) hash,
        receipt.blockNumber.isSome) →
      (session.ask network provider (.receipt hash)).1 =
        network.answer session.moment provider.url (.receipt hash)) := by
  have hsound := sound_of_reached hnames hroot h
  refine ⟨hsound.ask_receipt hnames hroot hp hr, fun hs hm => ?_⟩
  obtain ⟨tree, heq, -⟩ := hsound.ask_eq hnames hroot hp hr
  rw [heq]
  refine hsound.outcome_eq hs fun visit hv hitem hchain value hfinal => ?_
  rw [final?_receipt, Option.map_eq_some_iff] at hfinal
  obtain ⟨receipt, hreceipt, rfl⟩ := hfinal
  refine hm receipt (List.mem_filterMap.2 ⟨visit, hv, ?_⟩)
  rw [if_pos ⟨hitem, hchain⟩, hreceipt]

/-- The session in which the receipt has been looked up while the transaction is pending. -/
def early : Session := (opened.ask .mining mainProvider (.receipt 0)).2

theorem reached_early : Reached .mining mainLayout "/cache" early := by
  rw [early]
  exact reached_opened.ask mem_opened (.receipt 0) (Network.roundTrips_mining 0).2

theorem mem_early : mainProvider ∈ early.providers := by
  rw [early, providers_ask]
  exact mem_opened

theorem exists_visits_early : ∃ sent, early.visits = [⟨0, "node", .receipt 0, sent⟩] := by
  obtain ⟨sent, h⟩ := opened.exists_visits_ask .mining mainProvider (.receipt 0)
  rw [early, h, moment, visits_opened]
  exact ⟨sent, rfl⟩

/-- The receipt that has been looked up is the one of the pending transaction. -/
theorem head?_receipts_early {receipt : Receipt}
    (h : Network.mining.answer 0 "node" (.receipt 0) = .ok (some receipt)) :
    (Network.mining.receipts early.visits (Network.mining.chainOf mainProvider.url) 0).head? =
      some receipt := by
  obtain ⟨sent, hvisits⟩ := exists_visits_early
  rw [hvisits, Network.receipts, List.head?_filterMap, List.findSome?_cons, if_pos ⟨rfl, rfl⟩, h]
  rfl

/-- A receipt without a block is the result still when the transaction is in one. -/
theorem receipt_early : ∃ receipt, receipt.blockNumber = none ∧
    (early.ask .mining mainProvider (.receipt 0)).1 = .ok (some receipt) := by
  obtain ⟨receipt, hanswer, hblock⟩ := Network.answer_receipt 0 "node" 0
  have hask := (receipt_of_reached Chains.lawful_known rfl reached_early mem_early
    (Network.roundTrips_mining 0).2).1
  rw [head?_receipts_early hanswer] at hask
  exact ⟨receipt, hblock, hask⟩

/-- **Receipts are kept too early**: although they change only while they are in no block, a look-up
need not come to what the node answers. -/
theorem not_receipt_transparent : ¬ ∀ (network : Network) (layout : CacheLayout) (root : String)
    (session : Session) (provider : Provider) (hash : Word), network.chains.Lawful →
    layout.directory? = some root → Reached network layout root session →
    provider ∈ session.providers →
    (∀ hash, network.RoundTrips (.receipt hash)) → (∀ hash, network.Settles (.receipt hash)) →
    (session.ask network provider (.receipt hash)).1 =
      network.answer session.moment provider.url (.receipt hash) := by
  intro h
  have hsettles (hash : Word) : Network.mining.Settles (.receipt hash) :=
    Network.settles_mining fun url => by
      obtain ⟨receipt, hanswer, hblock⟩ := Network.answer_receipt 0 url hash
      exact ⟨some receipt, hanswer, congrArg Option.isSome hblock⟩
  have hclaim := h _ _ _ early mainProvider 0 Chains.lawful_known rfl reached_early mem_early
    (fun hash => (Network.roundTrips_mining hash).2) hsettles
  -- the receipt of the pending transaction is the result, and the other one is the answer
  obtain ⟨receipt, hanswer, hblock⟩ := Network.answer_receipt 0 "node" 0
  obtain ⟨late, hlate, hlateBlock⟩ := Network.answer_receipt 1 mainProvider.url 0
  obtain ⟨sent, hvisits⟩ := exists_visits_early
  have hmoment : early.moment = 1 := by
    rw [moment, hvisits]
    rfl
  rw [(sound_of_reached Chains.lawful_known rfl reached_early).ask_receipt Chains.lawful_known rfl
    mem_early (Network.roundTrips_mining 0).2,
    head?_receipts_early hanswer, hmoment, hlate] at hclaim
  cases hclaim
  rw [hblock] at hlateBlock
  cases hlateBlock

end Session

end EvmProbe
