import EvmProbe.Proofs.Rpc.Readback

/-!
When a cache cannot be told from the nodes behind it.

What is kept of an item is the first final answer.  A look-up comes to what the node of the provider
answers, if the nodes of the chain go on giving that answer (`Session.Sound.outcome_eq`).

* `transparent_of_reached`: so it is for code and transactions.
-/

namespace EvmProbe

open Provider FileTree

/-- Whether a value is one that nodes do not change any more.  Code is asked for at a block, while a
transaction and its receipt may still change until they are in one. -/
def Provider.Item.isMined : (item : Item) → item.Value → Bool
  | .code .., _ => true
  | .transaction _, tx => tx.any (·.blockNumber.isSome)
  | .receipt _, answer => answer.any (·.blockNumber.isSome)

namespace Network

/-- An answer that is not changed any more is given by all nodes of the chain from then on. -/
def Settles (network : Network) (item : Item) : Prop :=
  ∀ {moment moment' url url'} {value : item.Value}, moment ≤ moment' →
    network.chainOf url = network.chainOf url' → network.answer moment url item = .ok value →
      item.isMined value → network.answer moment' url' item = .ok value

/-- Nodes with answers that can be kept. -/
structure Steady (network : Network) : Prop where
  /-- The code at a numbered block is fixed. -/
  code : ∀ address n, network.Settles (.code address (.number (.number n)))
  /-- A transaction changes only while it is absent or in no block. -/
  transaction : ∀ hash, network.Settles (.transaction hash)
  /-- The transactions that are kept are read again. -/
  roundTrips : ∀ hash, network.RoundTrips (.transaction hash)

/-- The requests that were sent in look-ups of an item. -/
def sent (network : Network) (visits : List Visit) (chain : Nat) (item : Item) : List Request :=
  visits.flatMap fun visit =>
    if visit.item = item ∧ network.chainOf visit.url = chain then visit.sent else []

theorem sent_concat {network : Network} {visits : List Visit} {chain : Nat} {item : Item}
    (visit : Visit) : network.sent (visits ++ [visit]) chain item =
      network.sent visits chain item ++
        if visit.item = item ∧ network.chainOf visit.url = chain then visit.sent else [] := by
  rw [sent, List.flatMap_append, List.flatMap_singleton, ← sent]

end Network

namespace Session
variable {network : Network} {layout : CacheLayout} {root : String} {session : Session}

/-- **What is kept counts as an answer of this moment** if it is not changed any more. -/
theorem Sound.outcome_eq (h : Sound network layout root session) {url : String} {item : Item}
    (hs : network.Settles item)
    (hm : ∀ visit ∈ session.visits, visit.item = item →
      network.chainOf visit.url = network.chainOf url → ∀ value,
        network.final? visit.moment visit.url item = some value → item.isMined value) :
    session.outcome network url item = network.answer session.moment url item := by
  unfold outcome
  split
  · next value hkept =>
    obtain ⟨visit, hv, hitem, hchain, hfinal⟩ := Network.exists_of_kept hkept
    have hmined := hm visit hv hitem hchain value hfinal
    have hanswer := (network.answer_of_final? visit.moment hfinal).1
    exact (hs (Nat.le_of_lt (h.earlier visit hv)) hchain hanswer hmined).symm
  · rfl

/-! ## Code and transactions -/

/-- Code that is not asked for at a numbered block has no place. -/
theorem slot?_code_eq_none (address : Address) {block : BlockId}
    (hb : ∀ n, block ≠ .number (.number n)) (chains : Chains) (chain : Nat) :
    (Item.code address block).slot? chains chain = none := by
  rw [Option.eq_none_iff_forall_ne_some]
  intro slot hslot
  rcases Item.slot?_cases hslot with ⟨_, n, he, -⟩ | ⟨_, he, -⟩ | ⟨_, he, -⟩ <;> cases he
  exact hb n rfl

/-- Looking code and transactions up in a session is like asking the nodes. -/
structure Transparent (network : Network) (layout : CacheLayout) (session : Session) : Prop where
  /-- A provider can be attached for every supported chain. -/
  attached : ∀ url, checkChain network.chains (network.chainOf url) = .ok () →
    ⟨url, some (network.chainOf url, layout)⟩ ∈ (session.attach network layout url).providers
  /-- Code is what the provider's own node answers at that moment, at any block. -/
  code : ∀ provider ∈ session.providers, ∀ address block,
    (session.ask network provider (.code address block)).1 =
      network.answer session.moment provider.url (.code address block)
  /-- A transaction is what the provider's own node answers at that moment. -/
  transaction : ∀ provider ∈ session.providers, ∀ hash,
    (session.ask network provider (.transaction hash)).1 =
      network.answer session.moment provider.url (.transaction hash)
  /-- The code at a numbered block is requested at most once, if the nodes have it. -/
  once : ∀ chain address n,
    (∀ moment url, network.chainOf url = chain →
      ∃ code, network.answer moment url (.code address (.number (.number n))) = .ok code) →
    (network.sent session.visits chain (.code address (.number (.number n)))).length ≤ 1
  /-- Code at any other block is requested, and nothing is written. -/
  requested : ∀ provider ∈ session.providers, ∀ address block, (∀ n, block ≠ .number (.number n)) →
    (session.ask network provider (.code address block)).2 =
      { session with
        visits := session.visits ++ [⟨session.moment, provider.url, .code address block,
          [(Item.code address block).request provider.url]⟩] }

/-- The provider that is attached for a supported chain. -/
theorem Sound.mem_attach (h : Sound network layout root session) (hnames : network.chains.Lawful)
    (hroot : layout.directory? = some root) {url : String}
    (hchain : checkChain network.chains (network.chainOf url) = .ok ()) :
    ⟨url, some (network.chainOf url, layout)⟩ ∈ (session.attach network layout url).providers := by
  obtain ⟨later, heq, -⟩ := h.attach_eq hnames hroot hchain
  rw [heq]
  exact List.mem_cons_self

/-- As long as nothing is kept of an item it is requested, and not any more from then on. -/
theorem length_sent_le (hnames : network.chains.Lawful) (hroot : layout.directory? = some root)
    (h : Reached network layout root session) (chain : Nat) (item : Item)
    (hfinal : ∀ moment url, network.chainOf url = chain → (network.final? moment url item).isSome) :
    (network.sent session.visits chain item).length ≤
      if (network.kept session.visits chain item).isSome then 1 else 0 := by
  induction h with
  | start => exact Nat.le_refl _
  | attach _ _ ih => exact ih
  | @ask session h provider hp other hr ih =>
    obtain ⟨tree, heq, -⟩ := (sound_of_reached hnames hroot h).ask_eq hnames hroot hp hr
    simp only [heq, Network.sent_concat, Network.kept_concat]
    split
    · next hkey =>
      obtain ⟨rfl, rfl⟩ := hkey
      cases hkept : network.kept session.visits (network.chainOf provider.url) other with
      | none =>
        have hlast := hfinal session.moment provider.url rfl
        simp_all [visit]
      | some value => simp_all [visit]
    · simpa using ih
  | elsewhere _ _ _ _ ih => exact ih

/-- **Code and transactions are looked up as if there was no cache**, but code at a numbered block
is requested only once. -/
theorem transparent_of_reached (hnames : network.chains.Lawful)
    (hroot : layout.directory? = some root) (hs : network.Steady)
    (h : Reached network layout root session) : session.Transparent network layout := by
  have hsound := sound_of_reached hnames hroot h
  refine ⟨fun url hchain => hsound.mem_attach hnames hroot hchain,
    fun provider hp address block => ?_, fun provider hp hash => ?_,
    fun chain address n hcode => ?_, fun provider hp address block hb => ?_⟩
  · obtain ⟨tree, heq, -⟩ := hsound.ask_eq hnames hroot hp (network.roundTrips_code address block)
    rw [heq]
    by_cases hb : ∃ n, block = .number (.number n)
    · obtain ⟨n, rfl⟩ := hb
      exact hsound.outcome_eq (hs.code address n) fun _ _ _ _ _ _ => rfl
    · have hplaceless := slot?_code_eq_none address (fun n he => hb ⟨n, he⟩)
        network.chains (network.chainOf provider.url)
      rw [outcome, network.kept_of_placeless hplaceless]
  · obtain ⟨tree, heq, -⟩ := hsound.ask_eq hnames hroot hp (hs.roundTrips hash)
    rw [heq]
    exact hsound.outcome_eq (hs.transaction hash) fun visit _ _ _ _ hfinal =>
      (network.answer_of_final? visit.moment hfinal).2.1
  · have hle := length_sent_le hnames hroot h chain (.code address (.number (.number n)))
      fun moment url hchain => by
        obtain ⟨code, hanswer⟩ := hcode moment url hchain
        rw [network.final?_of_answer moment hanswer rfl rfl]
        rfl
    split at hle <;> omega
  · obtain ⟨tree, heq, -, htree⟩ :=
      hsound.ask_eq hnames hroot hp (network.roundTrips_code address block)
    have hplaceless := slot?_code_eq_none address hb network.chains (network.chainOf provider.url)
    rw [heq, htree hplaceless, visit, network.kept_of_placeless hplaceless]
    rfl

end Session

/-! A node whose transactions are pending at first, and in a block from the next moment on. -/

section
variable (block : Json)

/-- A transaction. -/
def transactionJson : Json := .object [
  ("hash", .ofBits (0 : Word)), ("nonce", .ofQuantity 0), ("blockNumber", block),
  ("from", .ofBits (0 : Address)), ("value", .ofQuantity 0), ("gas", .ofQuantity 0),
  ("input", .ofBytes [])]

/-- A receipt. -/
def receiptJson : Json := .object [
  ("transactionHash", .ofBits (0 : Word)), ("blockNumber", block), ("gasUsed", .ofQuantity 0),
  ("effectiveGasPrice", .ofQuantity 0), ("from", .ofBits (0 : Address)), ("type", .ofQuantity 0),
  ("status", .ofQuantity 1), ("cumulativeGasUsed", .ofQuantity 0), ("logs", .array []),
  ("logsBloom", .array (List.replicate 256 (.ofNat 0)))]

end

namespace Network

/-- The block of the transactions at a moment. -/
def blockAt : Nat → Json
  | 0 => .null
  | _ + 1 => .ofQuantity 1

/-- A node of the main chain. -/
def mining : Network where
  chains := .known
  chainOf _ := 1
  reply moment _ method _ :=
    if method = "eth_getCode" then .ok (.ofBytes [0x60])
    else if method = "eth_getTransactionByHash" then .ok (transactionJson (blockAt moment))
    else .ok (receiptJson (blockAt moment))
  clock _ := 0
  clock_le _ := Nat.zero_le _

/-- The transaction is in a block from the second moment on. -/
theorem read_transaction (moment : Nat) : ∃ tx,
    MinedTransaction.ofJson? (transactionJson (blockAt moment)) = some tx ∧
      tx.blockNumber = if moment = 0 then none else some 1 := by
  rw [← Option.map_eq_some_iff]
  cases moment with
  | zero => decide +kernel
  | succ moment =>
    rw [if_neg (Nat.succ_ne_zero moment), blockAt]
    decide +kernel

/-- So is its receipt. -/
theorem read_receipt (moment : Nat) : ∃ receipt,
    Receipt.ofJson? (receiptJson (blockAt moment)) = some receipt ∧
      (receipt.outcome, receipt.blockNumber) =
        (.status true, if moment = 0 then none else some 1) := by
  rw [← Option.map_eq_some_iff]
  cases moment with
  | zero => decide +kernel
  | succ moment =>
    rw [if_neg (Nat.succ_ne_zero moment), blockAt]
    decide +kernel

theorem roundTrips_mining (hash : Word) :
    mining.RoundTrips (.transaction hash) ∧ mining.RoundTrips (.receipt hash) := by
  refine ⟨roundTrips_transaction fun moment url j hreply => ?_,
    roundTrips_receipt fun moment url j hreply => ?_⟩
  · cases hreply
    cases moment <;> rfl
  · cases hreply
    refine ⟨?_, fun receipt hr => ?_⟩
    · cases moment with
      | zero => decide +kernel
      | succ moment =>
        rw [blockAt]
        decide +kernel
    · obtain ⟨receipt', hread, hreceipt⟩ := read_receipt moment
      rw [hr] at hread
      cases hread
      exact ⟨true, congrArg Prod.fst hreceipt⟩

/-- What the node answers for a transaction. -/
theorem answer_transaction (moment : Nat) (url : String) (hash : Word) : ∃ tx,
    mining.answer moment url (.transaction hash) = .ok (some tx) ∧
      tx.blockNumber = if moment = 0 then none else some 1 := by
  obtain ⟨tx, hread, hblock⟩ := read_transaction moment
  have hanswer : (Item.transaction hash).form.read (transactionJson (blockAt moment)) =
      some (some tx) := JsonForm.optional_read_of_ne nofun hread
  exact ⟨tx, answer_of_reply rfl hanswer, hblock⟩

/-- What it answers for a receipt. -/
theorem answer_receipt (moment : Nat) (url : String) (hash : Word) : ∃ receipt,
    mining.answer moment url (.receipt hash) = .ok (some receipt) ∧
      receipt.blockNumber = if moment = 0 then none else some 1 := by
  obtain ⟨receipt, hread, hreceipt⟩ := read_receipt moment
  have hanswer : (Item.receipt hash).form.read (receiptJson (blockAt moment)) =
      some (some receipt) :=
    JsonForm.optional_read_of_ne nofun hread
  have hreply : mining.reply moment url (Item.receipt hash).method (Item.receipt hash).params =
      .ok (receiptJson (blockAt moment)) := by
    simp only [mining, Item.method, String.reduceEq, if_false]
  exact ⟨receipt, answer_of_reply hreply hanswer, congrArg Prod.snd hreceipt⟩

/-- From the second moment on nothing changes. -/
theorem settles_mining {item : Item} (h : ∀ url, ∃ value, mining.answer 0 url item = .ok value ∧
    item.isMined value = false) : mining.Settles item := by
  intro moment moment' url url' value hle _ hanswer hmined
  cases moment with
  | zero =>
    obtain ⟨first, hfirst, hpending⟩ := h url
    cases hfirst.symm.trans hanswer
    rw [hpending] at hmined
    cases hmined
  | succ moment =>
    cases moment' with
    | zero => cases hle
    | succ moment' => exact hanswer

theorem steady_mining : mining.Steady where
  code _ _ _ _ _ _ _ _ _ h _ := h
  transaction hash := settles_mining fun url => by
    obtain ⟨tx, hanswer, hblock⟩ := answer_transaction 0 url hash
    exact ⟨some tx, hanswer, congrArg Option.isSome hblock⟩
  roundTrips hash := (roundTrips_mining hash).1

end Network

namespace Session

/-- A cache in which nothing is kept. -/
def mainLayout : CacheLayout := ⟨some "/cache", none⟩

/-- A provider for the node with that cache. -/
def mainProvider : Provider := ⟨"node", some (1, mainLayout)⟩

/-- A session in which only the provider has been attached. -/
def opened : Session := attach ⟨⟨[(["cache"], none)]⟩, [], []⟩ .mining mainLayout "node"

theorem reached_start : Reached .mining mainLayout "/cache" { tree := ⟨[(["cache"], none)]⟩ } := by
  refine .start (accessible_of_leads ⟨fun _ => by decide, trivial⟩) fun path hne => ?_
  cases path with
  | nil => exact absurd rfl hne
  | cons name path => rfl

theorem reached_opened : Reached .mining mainLayout "/cache" opened := reached_start.attach "node"

theorem visits_opened : opened.visits = [] := by rw [opened, visits_attach]

theorem mem_opened : mainProvider ∈ opened.providers :=
  (sound_of_reached Chains.lawful_known rfl reached_start).mem_attach Chains.lawful_known rfl rfl

/-- The transaction is looked up while it is pending and when it is in a block, and then code. -/
def used : Session :=
  (((opened.ask .mining mainProvider (.transaction 0)).2.ask .mining mainProvider
    (.transaction 0)).2.ask .mining mainProvider (.code 0 (.number (.number 1)))).2

theorem transparent_used : Chains.known.Lawful ∧ Network.Steady .mining ∧
    Reached .mining mainLayout "/cache" used ∧ used.Transparent .mining mainLayout := by
  have hround := (Network.roundTrips_mining 0).1
  have hpending := reached_opened.ask mem_opened (.transaction 0) hround
  have hmined := hpending.ask (by rw [providers_ask]; exact mem_opened) (.transaction 0) hround
  have hreached : Reached .mining mainLayout "/cache" used := by
    rw [used]
    exact hmined.ask (by rw [providers_ask, providers_ask]; exact mem_opened)
      (.code 0 (.number (.number 1))) (Network.mining.roundTrips_code _ _)
  exact ⟨Chains.lawful_known, Network.steady_mining, hreached,
    transparent_of_reached Chains.lawful_known rfl Network.steady_mining hreached⟩

end Session

end EvmProbe
