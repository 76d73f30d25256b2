import EvmProbe.Cache.Chain
import EvmProbe.Files.Operations
import EvmProbe.Json.Diagnosis

/-!
What the library asks of the machine that it runs on: files, a clock, the names of chains, and
answers to requests.
-/

namespace EvmProbe

/-- Why a request has no answer. -/
inductive RpcError where
  /-- The node refused it. -/
  | response (code : Int) (message : String)
  /-- The node could not be asked. -/
  | transport (message : String)
  /-- The answer has not the form that was asked for. -/
  | form (fault : Option Json.Fault)
  deriving DecidableEq, Repr

/-- The failure that an error leads to. -/
def RpcError.failure : RpcError → Failure
  | .response code message =>
    .ofText s!"server returned an error response: error code {code}: {message}"
  | .transport message => .ofText message
  | .form fault =>
    let message := fault.map Json.Fault.message
    ⟨.answer message :: (message.map Cause.form).toList⟩

/-- What is asked of an answer: how it is read, and how the fault of one that cannot be read is
found. -/
structure Answer (α : Type) where
  read : Json → Option α
  check : Json.Check

/-- The fault of an answer. -/
def Answer.fault? {α : Type} (form : Answer α) (answer : Json) : Option Json.Fault :=
  Json.Check.fault? form.check answer.compact

/-- A machine. -/
structure Host (m : Type → Type) where
  files : Files m
  /-- The present second. -/
  now : m Nat
  /-- The chains that have a name. -/
  chains : Chains
  /-- The answer of the node at a URL. -/
  send : (url method : String) → (params : Json) → m (Except RpcError Json)

namespace Host

variable {m : Type → Type} [Monad m] {α : Type}

/-- The answer of a node, in the form that is asked for. -/
def ask (host : Host m) (url method : String) (params : Json) (form : Answer α) :
    m (Except Failure α) := do
  match ← host.send url method params with
  | .error cause => return .error cause.failure
  | .ok answer =>
    match form.read answer with
    | none => return .error (RpcError.form (form.fault? answer)).failure
    | some value => return .ok value

end Host

end EvmProbe
