import EvmProbe.Files.Operations
import EvmProbe.Files.Path
import EvmProbe.Json.Diagnosis
import EvmProbe.Json.Reading
import EvmProbe.Trace.Tracer

/-!
Loading the contracts of the simulation from compiler output.

The output of a contract is a JSON record of its deployed bytecode and of its methods, each with the
selector in hex digits.
-/

namespace EvmProbe

/-- The output of a contract. -/
structure Artifact where
  code : Bytes
  /-- The selectors of the methods, by signature. -/
  methods : List (String × String)
  deriving DecidableEq, Repr

namespace Artifact

/-- The selectors of methods. -/
def methods? : Json → Option (List (String × String))
  | .object fields => fields.mapM fun (signature, selector) => selector.text?.map (signature, ·)
  | _ => none

/-- Reads the output of a contract; there need not be methods. -/
def ofJson? (j : Json) : Option Artifact := do
  let fields ← j.record? ["deployedBytecode", "methodIdentifiers"]
  let bytecode ← Json.required? (Json.record? ["object"]) fields "deployedBytecode"
  return {
    code := ← Json.required? Json.bytes? bytecode "object"
    methods := ← (fields.lookup "methodIdentifiers").elim (some []) methods? }

/-- Finds the fault of an output that cannot be read. -/
def check : Json.Check :=
  let bytecode := Json.Check.record {
    name := "DeployedBytecode"
    fields := [{ name := "object", check := Json.Check.bytes }] }
  Json.Check.record {
    name := "ForgeArtifact"
    fields := [
      { name := "deployedBytecode", check := bytecode },
      { name := "methodIdentifiers", check := Json.Check.entries Json.Check.text,
        isRequired := false }] }

/-- The wording of the fault of a text. -/
def faultMessage (content : String) : String :=
  ((Json.Check.fault? check content).map Json.Fault.message).getD ""

/-- The name of a method: its signature up to the parameters. -/
def methodName (signature : String) : String :=
  String.ofList (signature.toList.takeWhile (· ≠ '('))

/-- The selector of the method of a name. Of several, the first signature counts, and of a signature
that is repeated the last selector. -/
def method? (artifact : Artifact) (name : String) : Option String := do
  let named := artifact.methods.filter fun (signature, _) => methodName signature = name
  let first ← (named.map (·.1)).foldl
    (fun least signature =>
      some (least.elim signature fun least => if signature < least then signature else least))
    none
  named.reverse.lookup first

/-- Why a contract has no selector for a method. -/
inductive SelectorError where
  | missing (name : String)
  | digits (text name : String) (cause : Hex.Fault)
  /-- It has not four bytes. -/
  | size (text name : String)
  deriving DecidableEq, Repr

/-- The wording of an error. -/
def SelectorError.message : SelectorError → String
  | .missing name => s!"cannot find a selector for {name}"
  | .digits text name cause => s!"bad selector {text} for {name}: {cause.message}"
  | .size text name => s!"bad selector {text} for {name}"

/-- The selector of a method. -/
def selector (artifact : Artifact) (name : String) : Except SelectorError Selector :=
  match artifact.method? name with
  | none => .error (.missing name)
  | some text =>
    match Hex.decode text.toList with
    | .error cause => .error (.digits text name cause)
    | .ok content =>
      if content.length = 4 then .ok (BitVec.ofNat 32 (ofBigEndian content))
      else .error (.size text name)

/-- The selectors of the hooks contract. -/
def hookSelectors (artifact : Artifact) : Except SelectorError HookSelectors := do
  return {
    sstore := ← artifact.selector "handleSpySstore"
    log := ← artifact.selector "handleSpyLog"
    call := ← artifact.selector "handleSpyCall" }

/-- The source file that the contracts are compiled from. -/
def source : String := "Runner.sol"

section

variable {m : Type → Type} [Monad m]

/-- Loads the output of a contract. -/
def load (files : Files m) (directory contract : String) : m (Except Failure Artifact) := do
  let path := Path.joinAll directory [source, contract ++ ".json"]
  match ← files.read path with
  | .error cause => return .error ⟨[.text s!"cannot read {path}", .file cause]⟩
  | .ok content =>
    match (Json.parse? content).bind ofJson? with
    | none =>
      return .error ⟨[.text s!"malformed artifact {path}", .form (faultMessage content)]⟩
    | some artifact => return .ok artifact

end

end Artifact

namespace HookContracts

/-- The contracts that their outputs describe. -/
def ofArtifacts (runner origin hooks : Artifact) : Except Artifact.SelectorError HookContracts := do
  return ⟨runner.code, origin.code, hooks.code, ← hooks.hookSelectors⟩

/-- Loads the runner, the origin and the hooks contract, in this order. -/
def load {m : Type → Type} [Monad m] (files : Files m) (directory : String) :
    m (Except Failure HookContracts) := do
  match ← Artifact.load files directory "Runner" with
  | .error e => return .error e
  | .ok runner =>
    match ← Artifact.load files directory "Origin" with
    | .error e => return .error e
    | .ok origin =>
      match ← Artifact.load files directory "SpyHooks" with
      | .error e => return .error e
      | .ok hooks =>
        match ofArtifacts runner origin hooks with
        | .error cause => return .error (.ofText cause.message)
        | .ok contracts => return .ok contracts

end HookContracts

end EvmProbe
