import EvmProbe.Cache.Store
import EvmProbe.Rpc.Authorization
import EvmProbe.Rpc.Host

/-!
Transactions and receipts, as nodes report them.

Both are kept as they were written, but for the outcome of old receipts; what is checked is that
every field has its form.
-/

namespace EvmProbe

/-- A transaction that a node knows. -/
structure MinedTransaction where
  hash : Word
  sender : Address
  /-- There is none if a contract is created. -/
  target : Option Address
  value : Word
  gas : Nat
  gasPrice : Option Nat
  maxFeePerGas : Option Nat
  input : Bytes
  /-- There is none while the transaction is pending. -/
  blockNumber : Option Nat
  /-- What the transaction was read from. -/
  source : Json

namespace MinedTransaction

/-- Checks an entry of an access list. -/
def checkAccessed? (j : Json) : Option Unit := do
  let fields ← j.record? ["address", "storageKeys"]
  let _ ← Json.required? (Json.address? .direct) fields "address"
  let _ ← Json.required? (Json.list? (Json.hash? .direct)) fields "storageKeys"

/-- The fields that count. -/
def fieldNames : List String :=
  ["hash", "nonce", "blockHash", "blockNumber", "transactionIndex", "from", "to", "value",
    "gasPrice", "gas", "maxFeePerGas", "maxPriorityFeePerGas", "maxFeePerBlobGas", "input",
    "chainId", "blobVersionedHashes", "accessList", "type", "authorizationList"]

/-- Reads a transaction. -/
def ofJson? (j : Json) : Option MinedTransaction := do
  let fields ← j.wholeObject? fieldNames fieldNames
  let _ ← Json.required? Json.quantity64? fields "nonce"
  let _ ← Json.allowed? (Json.hash? .direct) fields "blockHash"
  let _ ← Json.allowed? Json.quantity64? fields "transactionIndex"
  let _ ← Json.allowed? Json.quantity128? fields "maxPriorityFeePerGas"
  let _ ← Json.allowed? Json.quantity128? fields "maxFeePerBlobGas"
  let _ ← Json.allowed? Json.quantity64? fields "chainId"
  let _ ← Json.allowed? (Json.list? (Json.hash? .direct)) fields "blobVersionedHashes"
  let _ ← Json.allowed? (Json.list? checkAccessed?) fields "accessList"
  let _ ← Json.allowed? (Json.list? Authorization.checkSigned?) fields "authorizationList"
  let _ ← Json.allowed? (Json.quantity? 256) fields "type"
  return {
    hash := ← Json.required? (Json.hash? .direct) fields "hash"
    sender := ← Json.required? (Json.address? .direct) fields "from"
    target := ← Json.allowed? (Json.address? .direct) fields "to"
    value := ← Json.required? Json.word? fields "value"
    gas := ← Json.required? Json.quantity128? fields "gas"
    gasPrice := ← Json.allowed? Json.quantity128? fields "gasPrice"
    maxFeePerGas := ← Json.allowed? Json.quantity128? fields "maxFeePerGas"
    input := ← Json.required? Json.bytes? fields "input"
    blockNumber := ← Json.allowed? Json.quantity64? fields "blockNumber"
    source := j }

/-- How transactions are kept. -/
def form : JsonForm MinedTransaction where
  write := source
  read := ofJson?

open Json.Check in
/-- Finds the fault of an entry of an access list. -/
def accessedCheck : Json.Check := record {
  name := "AccessListItem"
  fields := [
    { name := "address", check := bits 20 },
    { name := "storageKeys", check := list (bits 32) }] }

open Json.Check in
/-- Finds the fault of a transaction; the authorizations are passed over. -/
def check : Json.Check := object {
  name := "Transaction"
  fields := [
    { name := "hash", check := bits 32 },
    { name := "nonce", check := quantity 8 },
    { name := "blockHash", check := optional (bits 32), isRequired := false },
    { name := "blockNumber", check := optional (quantity 8), isRequired := false },
    { name := "transactionIndex", check := optional (quantity 8), isRequired := false },
    { name := "from", check := bits 20 },
    { name := "to", check := optional (bits 20), isRequired := false },
    { name := "value", check := quantity 32 },
    { name := "gasPrice", check := optional (quantity 16), isRequired := false },
    { name := "gas", check := quantity 16 },
    { name := "maxFeePerGas", check := optional (quantity 16), isRequired := false },
    { name := "maxPriorityFeePerGas", check := optional (quantity 16), isRequired := false },
    { name := "maxFeePerBlobGas", check := optional (quantity 16), isRequired := false },
    { name := "input", check := bytes },
    { name := "chainId", check := optional (quantity 8), isRequired := false },
    { name := "blobVersionedHashes", check := optional (list (bits 32)), isRequired := false },
    { name := "accessList", check := optional (list accessedCheck), isRequired := false },
    { name := "type", check := optional (quantity 1), isRequired := false },
    { name := "authorizationList", check := Json.Cursor.skipValue, isRequired := false }] }

/-- A transaction, or null if there is none. -/
def answer : Answer (Option MinedTransaction) := ⟨form.optional.read, Json.Check.optional check⟩

end MinedTransaction

/-- What a receipt says of the execution. -/
inductive Receipt.Outcome where
  | status (success : Bool)
  /-- In old blocks: the state that was left. -/
  | state (root : Word)
  deriving DecidableEq, Repr

/-- Reads an outcome. -/
def Receipt.Outcome.ofJson? : Json → Option Outcome
  | .bool success => some (.status success)
  | .string s =>
    if ["0x", "0x0", "false"].contains s then some (.status false)
    else if ["0x1", "true"].contains s then some (.status true)
    else ((Json.string s).hash? .whole).map .state
  | _ => none

/-- The receipt of a transaction. -/
structure Receipt where
  hash : Word
  sender : Address
  /-- There is none while the transaction is pending. -/
  blockNumber : Option Nat
  outcome : Receipt.Outcome
  /-- What the receipt was read from. -/
  source : Json

namespace Receipt

/-- The kinds of transactions. -/
def kinds : List String := ["0x0", "0x00", "0x1", "0x01", "0x2", "0x02", "0x3", "0x03"]

/-- Checks a kind: its name or its number. -/
def checkKind? : Json → Option Unit
  | .string s => if kinds.contains s then some () else none
  | j => (j.natural? 4).map fun _ => ()

/-- Checks a log. -/
def checkLog? (j : Json) : Option Unit := do
  let fields ← j.object? ["address", "topics", "data", "blockHash", "blockNumber",
    "blockTimestamp", "transactionHash", "transactionIndex", "logIndex", "removed"]
  let _ ← Json.required? (Json.address? .whole) fields "address"
  let _ ← Json.required? (Json.list? (Json.hash? .whole)) fields "topics"
  let _ ← Json.required? Json.bytes? fields "data"
  let _ ← Json.allowed? (Json.hash? .whole) fields "blockHash"
  let _ ← Json.nullable? Json.quantity64? fields "blockNumber"
  let _ ← Json.allowed? Json.quantity64? fields "blockTimestamp"
  let _ ← Json.allowed? (Json.hash? .whole) fields "transactionHash"
  let _ ← Json.nullable? Json.quantity64? fields "transactionIndex"
  let _ ← Json.nullable? Json.quantity64? fields "logIndex"
  let _ ← ((fields.lookup "removed").getD (.bool false)).bool?

/-- The fields that are read one by one. -/
def ownNames : List String :=
  ["transactionHash", "transactionIndex", "blockHash", "blockNumber", "gasUsed",
    "effectiveGasPrice", "blobGasUsed", "blobGasPrice", "from", "to", "contractAddress", "root",
    "authorizationList"]

/-- The other fields that count. They are what an execution leaves in the block. -/
def sealedNames : List String := ["type", "status", "cumulativeGasUsed", "logs", "logsBloom"]

/-- Reads a receipt. -/
def ofJson? (j : Json) : Option Receipt := do
  let fields ← j.wholeObject? (ownNames ++ sealedNames) ownNames
  Json.required? checkKind? fields "type"
  let _ ← Json.required? Json.quantity128? fields "cumulativeGasUsed"
  let _ ← Json.required? (Json.list? checkLog?) fields "logs"
  let _ ← Json.required? (Json.bits? .whole 256) fields "logsBloom"
  let _ ← Json.allowed? Json.quantity64? fields "transactionIndex"
  let _ ← Json.allowed? (Json.hash? .direct) fields "blockHash"
  let _ ← Json.required? Json.quantity128? fields "gasUsed"
  let _ ← Json.required? Json.quantity128? fields "effectiveGasPrice"
  let _ ← Json.allowed? Json.quantity128? fields "blobGasUsed"
  let _ ← Json.allowed? Json.quantity128? fields "blobGasPrice"
  let _ ← Json.allowed? (Json.address? .direct) fields "to"
  let _ ← Json.allowed? (Json.address? .direct) fields "contractAddress"
  let _ ← Json.allowed? (Json.hash? .direct) fields "root"
  let _ ← Json.allowed? (Json.list? Authorization.checkUnsigned?) fields "authorizationList"
  return {
    hash := ← Json.required? (Json.hash? .direct) fields "transactionHash"
    sender := ← Json.required? (Json.address? .direct) fields "from"
    blockNumber := ← Json.allowed? Json.quantity64? fields "blockNumber"
    outcome := ← Json.required? Outcome.ofJson? fields "status"
    source := j }

/-- The name under which the outcome is kept. -/
def outcomeName (receipt : Receipt) : String :=
  match receipt.outcome with
  | .status _ => "status"
  | .state _ => "root"

/-- What is kept of a receipt. A receipt that is kept with a state cannot be read again. -/
def toJson (receipt : Receipt) : Json :=
  match receipt.source with
  | .object fields => .object <| fields.map fun (name, value) =>
    (if name = "status" then receipt.outcomeName else name, value)
  | source => source

/-- How receipts are kept. -/
def form : JsonForm Receipt where
  write := toJson
  read := ofJson?

open Json.Check in
/-- Finds the fault of a receipt among the fields that are read one by one. -/
def check : Json.Check := object {
  name := "TransactionReceipt"
  fields := [
    { name := "transactionHash", check := bits 32 },
    { name := "transactionIndex", check := optional (quantity 8), isRequired := false },
    { name := "blockHash", check := optional (bits 32), isRequired := false },
    { name := "blockNumber", check := optional (quantity 8), isRequired := false },
    { name := "gasUsed", check := quantity 16 },
    { name := "effectiveGasPrice", check := quantity 16 },
    { name := "blobGasUsed", check := optional (quantity 16), isRequired := false },
    { name := "blobGasPrice", check := optional (quantity 16), isRequired := false },
    { name := "from", check := bits 20 },
    { name := "to", check := optional (bits 20), isRequired := false },
    { name := "contractAddress", check := optional (bits 20), isRequired := false },
    { name := "root", check := optional (bits 32), isRequired := false },
    { name := "authorizationList", check := Json.Cursor.skipValue, isRequired := false },
    { name := "type", check := Json.Cursor.skipValue }] }

/-- A receipt, or null if there is none. -/
def answer : Answer (Option Receipt) := ⟨form.optional.read, Json.Check.optional check⟩

end Receipt

end EvmProbe
