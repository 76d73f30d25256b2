import EvmProbe.Abi.Decoding
import EvmProbe.Abi.Encoding

/-!
The interface of the contracts that a transaction is simulated with.

The runner is called with the parameters of a transaction and returns what the hooks observed.
`Simulation.encode` writes such a result and `Simulation.decode` reads one.
-/

namespace EvmProbe

/-- What the runner is called with. -/
structure RunParams where
  origin : Address
  target : Address
  value : Word
  data : Bytes
  gas : Word
  gasPrice : Word
  deriving DecidableEq, Repr

namespace RunParams

/-- The signature of the runner's entry. -/
def signature : String := "run((address,address,uint256,bytes,uint256,uint256))"

/-- The calldata of a run. -/
def calldata (params : RunParams) : Bytes :=
  wordBytes (Abi.selectorOf signature) ++ Abi.tuple [.dynamic <| Abi.tuple
    [Abi.uint params.origin, Abi.uint params.target, Abi.word params.value, Abi.bytes params.data,
      Abi.word params.gas, Abi.word params.gasPrice]]

end RunParams

namespace HookSignature

/-- What a storage write is reported to. -/
def sstore : String := "handleSpySstore(bytes32,bytes32)"

/-- What a log is reported to. -/
def log : String := "handleSpyLog(uint256,bytes32,bytes32,bytes32,bytes32,bytes)"

/-- What a call is reported to. -/
def call : String := "handleSpyCall(uint8,address,uint256,uint256,bool,bytes,bytes)"

end HookSignature

namespace Simulation

/-- A call, as it is reported. -/
structure Call where
  context : Address
  target : Address
  callType : UInt8
  value : Word
  gas : Word
  input : Bytes
  output : Bytes
  success : Bool
  deriving DecidableEq, Repr

/-- A log, as it is reported: there are always four topics, of which the first `numTopics`
count. -/
structure Log where
  context : Address
  numTopics : UInt8
  topics : Vector Word 4
  data : Bytes
  deriving DecidableEq, Repr

/-- A storage write, as it is reported. -/
structure Store where
  context : Address
  slot : Word
  value : Word
  deriving DecidableEq, Repr

end Simulation

/-- What the runner returns. -/
structure Simulation where
  success : Bool
  output : Bytes
  gasUsed : Word
  calls : List Simulation.Call
  logs : List Simulation.Log
  stores : List Simulation.Store
  deriving DecidableEq, Repr

namespace Simulation

/-- A call in the ABI. -/
def Call.encode (call : Call) : Abi.Part := .dynamic <| Abi.tuple
  [Abi.uint call.context, Abi.uint call.target, Abi.uint call.callType.toBitVec,
    Abi.word call.value, Abi.word call.gas, Abi.bytes call.input, Abi.bytes call.output,
    Abi.bool call.success]

/-- A log in the ABI. -/
def Log.encode (log : Log) : Abi.Part := .dynamic <| Abi.tuple
  [Abi.uint log.context, Abi.uint log.numTopics.toBitVec,
    .static (log.topics.toList.flatMap wordBytes), Abi.bytes log.data]

/-- A storage write in the ABI. -/
def Store.encode (store : Store) : Abi.Part := .static <| Abi.tuple
  [Abi.uint store.context, Abi.word store.slot, Abi.word store.value]

/-- A result in the ABI, as it is returned. -/
def encode (result : Simulation) : Bytes := Abi.tuple [.dynamic <| Abi.tuple
  [Abi.bool result.success, Abi.bytes result.output, Abi.word result.gasUsed,
    Abi.array (result.calls.map Call.encode), Abi.array (result.logs.map Log.encode),
    Abi.array (result.stores.map Store.encode)]]

/-- Reads a call. -/
def Call.decode (body : Abi.Body) (position : Nat) : Except Abi.Error Call := do
  let body ← body.follow position
  return {
    context := ← body.uint 160 0
    target := ← body.uint 160 32
    callType := ⟨← body.uint 8 64⟩
    value := ← body.uint 256 96
    gas := ← body.uint 256 128
    input := ← body.bytes 160
    output := ← body.bytes 192
    success := ← body.bool 224 }

/-- Reads a log. -/
def Log.decode (body : Abi.Body) (position : Nat) : Except Abi.Error Log := do
  let body ← body.follow position
  return {
    context := ← body.uint 160 0
    numTopics := ⟨← body.uint 8 32⟩
    topics := #v[← body.uint 256 64, ← body.uint 256 96, ← body.uint 256 128,
      ← body.uint 256 160]
    data := ← body.bytes 192 }

/-- Reads a storage write. -/
def Store.decode (body : Abi.Body) (position : Nat) : Except Abi.Error Store := do
  return {
    context := ← body.uint 160 position
    slot := ← body.uint 256 (position + 32)
    value := ← body.uint 256 (position + 64) }

/-- Reads a result. In memory a word takes 32 bytes and a byte string, which is not copied, 16. -/
def decode (content : Bytes) : Except Abi.Error Simulation := do
  let body ← (Abi.Body.ofBytes content).follow 0
  return {
    success := ← body.bool 0
    output := ← body.bytes 32
    gasUsed := ← body.uint 256 64
    calls := ← body.array Call.decode 32 224 96
    logs := ← body.array Log.decode 32 208 128
    stores := ← body.array Store.decode 96 96 160 }

end Simulation

end EvmProbe
