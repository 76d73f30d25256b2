import EvmProbe.Block
import EvmProbe.Trace.Simulation

/-!
Traces: what was observed while a transaction was simulated.
-/

namespace EvmProbe

/-- The kinds of message calls. -/
inductive CallType where
  | call
  | static
  | delegate
  | code
  deriving DecidableEq, Repr

namespace CallType

/-- The kinds. -/
def all : List CallType := [.call, .static, .delegate, .code]

/-- The number that stands for a kind. -/
def toByte : CallType → UInt8
  | .call => 0
  | .static => 1
  | .delegate => 2
  | .code => 4

/-- The kind that a number stands for. -/
def ofByte? (byte : UInt8) : Option CallType := all.find? (·.toByte == byte)

/-- The name of a kind. -/
def name : CallType → String
  | .call => "CALL"
  | .static => "STATIC"
  | .delegate => "DELEGATE"
  | .code => "CODE"

/-- The kind of a name. -/
def ofName? (name : String) : Option CallType := all.find? (·.name == name)

theorem ofByte?_toByte (kind : CallType) : ofByte? kind.toByte = some kind := by
  cases kind <;> rfl

end CallType

namespace Trace

/-- A message call. -/
structure Call where
  /-- The account whose code made the call. -/
  context : Address
  target : Address
  callType : CallType
  value : Word
  gas : Word
  input : Bytes
  output : Bytes
  success : Bool
  deriving DecidableEq, Repr

/-- A log. -/
structure Log where
  context : Address
  topics : List Word
  data : Bytes
  deriving DecidableEq, Repr

/-- A storage write. -/
structure Store where
  context : Address
  slot : Word
  value : Word
  deriving DecidableEq, Repr

end Trace

/-- Everything observed in the last simulation of a transaction. -/
structure Trace where
  /-- The number of simulations made. -/
  rounds : Nat
  success : Bool
  output : Bytes
  gasUsed : Word
  calls : List Trace.Call
  logs : List Trace.Log
  stores : List Trace.Store
  deriving DecidableEq, Repr

namespace Trace

/-- A report names a kind of call that does not exist. -/
structure UnknownCallType where
  byte : UInt8
  deriving DecidableEq, Repr

/-- The wording of the error. -/
def UnknownCallType.message (e : UnknownCallType) : String :=
  s!"unknown call type {e.byte.toNat}"

/-- A reported call. -/
def Call.ofReport (call : Simulation.Call) : Except UnknownCallType Call :=
  match CallType.ofByte? call.callType with
  | none => .error ⟨call.callType⟩
  | some callType => .ok
    { context := call.context, target := call.target, callType, value := call.value,
      gas := call.gas, input := call.input, output := call.output, success := call.success }

/-- A reported log; no more topics count than there are. -/
def Log.ofReport (log : Simulation.Log) : Log :=
  { context := log.context, topics := log.topics.toList.take log.numTopics.toNat, data := log.data }

/-- A reported storage write. -/
def Store.ofReport (store : Simulation.Store) : Store :=
  { context := store.context, slot := store.slot, value := store.value }

/-- The trace of the last of `rounds` simulations. -/
def ofSimulation (result : Simulation) (rounds : Nat) : Except UnknownCallType Trace := do
  return {
    rounds
    success := result.success
    output := result.output
    gasUsed := result.gasUsed
    calls := ← result.calls.mapM Call.ofReport
    logs := result.logs.map Log.ofReport
    stores := result.stores.map Store.ofReport }

/-- A call as JSON. -/
def Call.toJson (call : Call) : Json := .object
  [("context", .ofBits call.context), ("to", .ofBits call.target),
    ("callType", .string call.callType.name), ("value", .ofQuantity call.value.toNat),
    ("gas", .ofQuantity call.gas.toNat), ("input", .ofBytes call.input),
    ("output", .ofBytes call.output), ("success", .bool call.success)]

/-- A log as JSON. -/
def Log.toJson (log : Log) : Json := .object
  [("context", .ofBits log.context), ("topics", .array (log.topics.map .ofBits)),
    ("data", .ofBytes log.data)]

/-- A storage write as JSON. -/
def Store.toJson (store : Store) : Json := .object
  [("context", .ofBits store.context), ("slot", .ofBits store.slot),
    ("value", .ofBits store.value)]

/-- A trace as JSON. -/
def toJson (trace : Trace) : Json := .object
  [("rounds", .ofNat trace.rounds), ("success", .bool trace.success),
    ("output", .ofBytes trace.output), ("gasUsed", .ofQuantity trace.gasUsed.toNat),
    ("calls", .array (trace.calls.map Call.toJson)),
    ("logs", .array (trace.logs.map Log.toJson)),
    ("stores", .array (trace.stores.map Store.toJson))]

end Trace

end EvmProbe
