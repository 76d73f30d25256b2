import EvmProbe.AddressMap
import EvmProbe.Block
import EvmProbe.Failure

/-!
What tracing asks of a node.

A node answers in a monad of its own, so that the same tracing code runs on a real connection and
on any model of a node.
-/

namespace EvmProbe

/-- The parameters of a message call. -/
structure CallRequest where
  sender : Address
  target : Address
  gas : Nat
  gasPrice : Word
  value : Word
  data : Bytes
  deriving DecidableEq, Repr

/-- The parameters as JSON. -/
def CallRequest.toJson (request : CallRequest) : Json := .object
  [("from", .ofBits request.sender), ("to", .ofBits request.target),
    ("gas", .ofQuantity request.gas), ("gasPrice", .ofQuantity request.gasPrice.toNat),
    ("value", .ofQuantity request.value.toNat), ("data", .ofBytes request.data)]

/-- The code that accounts carry during a simulated call. -/
abbrev CodeOverrides := AddressMap Bytes

/-- The requests that a node answers. -/
structure Node (m : Type → Type) where
  /-- The code of an account. -/
  codeAt : Address → BlockId → m (Except Failure Bytes)
  /-- The accounts that a call is expected to touch. -/
  accessList : CallRequest → BlockId → m (Except Failure (List Address))
  /-- The result of a call with a given input, with code replaced. -/
  call : (target : Address) → (input : Bytes) → CodeOverrides → BlockId → m (Except Failure Bytes)

end EvmProbe
