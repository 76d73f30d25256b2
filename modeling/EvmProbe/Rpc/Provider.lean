import EvmProbe.Cache.Layout
import EvmProbe.Checksum
import EvmProbe.Rpc.Host
import EvmProbe.Rpc.Mined
import EvmProbe.Trace.Node

/-!
A node behind a cache.

What cannot change any more is kept: code at a numbered block, transactions that are in a block, and
receipts.  A provider without a cache asks its node for everything.
-/

namespace EvmProbe

/-- A node at a URL. -/
structure Provider where
  url : String
  /-- The chain of the node and where its data is kept, if it is. -/
  store : Option (Nat × CacheLayout) := none
  deriving DecidableEq, Repr

namespace Provider

/-- Why data of a chain is not kept. -/
inductive UnsupportedChain where
  | unnamed (id : Nat)
  | development (id : Nat)
  deriving DecidableEq, Repr

/-- The wording of the error. -/
def UnsupportedChain.message : UnsupportedChain → String
  | .unnamed id => s!"The provider does not support caching for unnamed chain: {id}"
  | .development id => s!"The provider does not support caching for dev chain: {id}"

/-- Data is kept of chains that have a name and that are not for development. -/
def checkChain (chains : Chains) (id : Nat) : Except UnsupportedChain Unit :=
  if (chains.name? id).isNone then .error (.unnamed id)
  else if chains.isLocal id then .error (.development id)
  else .ok ()

/-- The cache of transactions. -/
def transactionCache (chains : Chains) (provider : Provider) : Cache where
  directory := provider.store.bind fun (chain, layout) => layout.transactions? chains chain

/-- The cache of receipts. -/
def receiptCache (chains : Chains) (provider : Provider) : Cache where
  directory := provider.store.bind fun (chain, layout) => layout.receipts? chains chain

/-- The label of a transaction. -/
def hashLabel (hash : Word) : String := Hex.literal (wordBytes hash)

section

variable {m : Type → Type} [Monad m]

/-- A file error as a failure. -/
def ofFileError (cause : FileError) : Failure := ⟨[.file cause]⟩

/-- The provider with a cache for a chain. The directories of its receipts and transactions are
created. -/
def withCache (host : Host m) (provider : Provider) (chain : Nat) (layout : CacheLayout) :
    m (Except Failure Provider) := do
  match checkChain host.chains chain with
  | .error cause => return .error (.ofText cause.message)
  | .ok () =>
    match ← Cache.openAt host.files (layout.receipts? host.chains chain) none with
    | .error cause => return .error (ofFileError cause)
    | .ok _ =>
      match ← Cache.openAt host.files (layout.transactions? host.chains chain) none with
      | .error cause => return .error (ofFileError cause)
      | .ok _ => return .ok { provider with store := some (chain, layout) }

/-- The cache of code at a block. Only code at a numbered block is kept. -/
def codeCache (host : Host m) (provider : Provider) (block : BlockId) :
    m (Except FileError Cache) :=
  match provider.store, block with
  | some (chain, layout), .number (.number n) =>
    Cache.openAt host.files (layout.code? host.chains chain n) none
  | _, _ => return .ok {}

/-- The value that a cache holds, or else what `fetch` answers; of that, what `isFinal` holds of is
kept. -/
def throughCache {α : Type} (host : Host m) (cache : Cache) (form : JsonForm α) (label : String)
    (fetch : m (Except Failure α)) (isFinal : α → Bool) : m (Except Failure α) := do
  match ← cache.load host.files form (← host.now) label with
  | some value => return .ok value
  | none =>
    match ← fetch with
    | .error e => return .error e
    | .ok value =>
      if !isFinal value then return .ok value
      match ← cache.save host.files form (← host.now) label value with
      | .error cause => return .error (ofFileError cause)
      | .ok () => return .ok value

/-- A byte string. -/
def bytesAnswer : Answer Bytes := ⟨Json.bytes?, Json.Check.bytes⟩

/-- The number of a chain. -/
def chainAnswer : Answer Nat := ⟨Json.quantity64?, Json.Check.quantity 8⟩

/-- The code of an account. -/
def codeAt (host : Host m) (provider : Provider) (address : Address) (block : BlockId) :
    m (Except Failure Bytes) := do
  match ← provider.codeCache host block with
  | .error cause => return .error (ofFileError cause)
  | .ok cache =>
    throughCache host cache .bytes (checksummed address)
      (host.ask provider.url "eth_getCode" (.array [.ofBits address, block.toJson]) bytesAnswer)
      fun _ => true

/-- The addresses of an access list. -/
def accessListAnswer : Answer (List Address) where
  read j := do
    let entry? := fun (entry : Json) => do
      Json.required? (Json.address? .direct) (← entry.record? ["address"]) "address"
    Json.required? (Json.list? entry?) (← j.record? ["accessList"]) "accessList"
  check :=
    let entry := Json.Check.record {
      name := "AccessListItem"
      fields := [{ name := "address", check := Json.Check.bits 20 }] }
    Json.Check.record {
      name := "AccessListResult"
      fields := [{ name := "accessList", check := Json.Check.list entry }] }

/-- The accounts that a call is expected to touch. -/
def accessList (host : Host m) (provider : Provider) (request : CallRequest) (block : BlockId) :
    m (Except Failure (List Address)) :=
  host.ask provider.url "eth_createAccessList" (.array [request.toJson, block.toJson])
    accessListAnswer

/-- Code overrides as JSON. -/
def overridesJson (overrides : CodeOverrides) : Json :=
  .object <| overrides.entries.map fun (address, code) =>
    (Hex.literal (wordBytes address), .object [("code", .ofBytes code)])

/-- The result of a call with code replaced. -/
def call (host : Host m) (provider : Provider) (target : Address) (input : Bytes)
    (overrides : CodeOverrides) (block : BlockId) : m (Except Failure Bytes) :=
  host.ask provider.url "eth_call"
    (.array [.object [("to", .ofBits target), ("data", .ofBytes input)], block.toJson,
      overridesJson overrides])
    bytesAnswer

/-- The number of the chain. -/
def chainId (host : Host m) (provider : Provider) : m (Except Failure Nat) :=
  host.ask provider.url "eth_chainId" .null chainAnswer

/-- A transaction, if the node knows it. It is kept once it is in a block. -/
def transaction (host : Host m) (provider : Provider) (hash : Word) :
    m (Except Failure (Option MinedTransaction)) :=
  throughCache host (provider.transactionCache host.chains) MinedTransaction.form.optional
    (hashLabel hash)
    (host.ask provider.url "eth_getTransactionByHash" (.array [.ofBits hash])
      MinedTransaction.answer)
    fun tx => tx.any (·.blockNumber.isSome)

/-- The receipt of a transaction, if the node has it. -/
def receipt (host : Host m) (provider : Provider) (hash : Word) :
    m (Except Failure (Option Receipt)) :=
  throughCache host (provider.receiptCache host.chains) Receipt.form.optional (hashLabel hash)
    (host.ask provider.url "eth_getTransactionReceipt" (.array [.ofBits hash])
      Receipt.answer)
    Option.isSome

/-- The provider as a node for tracing. -/
def node (host : Host m) (provider : Provider) : Node m where
  codeAt := provider.codeAt host
  accessList := provider.accessList host
  call := provider.call host

end

end Provider

end EvmProbe
