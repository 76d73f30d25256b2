import EvmProbe.Checksum
import EvmProbe.Image.Patch
import EvmProbe.Trace.Node
import EvmProbe.Trace.Record

/-!
Tracing a transaction.

A round fetches the code of the accounts that are new, patches all code that is known, and
simulates the transaction with every account carrying its image.  Successful calls, static ones
excepted, lead to accounts that the next round fetches; tracing ends when a round leads to none.

Three accounts are synthetic: the runner, the hooks contract and the sender.  Their code is given,
so it is never fetched and never patched.
-/

namespace EvmProbe

/-- The transaction to trace. -/
structure Transaction where
  sender : Address := 0
  target : Address := 0
  value : Word := 0
  data : Bytes := []
  /-- The gas limit for the access list. -/
  gas : Nat := 1000000
  gasPrice : Word := 0
  block : BlockId := .number .latest
  deriving DecidableEq, Repr

/-- The code of the synthetic accounts, and the selectors of the hooks contract. -/
structure HookContracts where
  runner : Bytes := []
  origin : Bytes := []
  hooks : Bytes := []
  selectors : HookSelectors := {}
  deriving DecidableEq, Repr

namespace Tracer

/-- Where the runner is placed unless set otherwise. -/
def runnerAddress : Address := 0x9000000000000000000000000000000000000001

/-- Where the hooks contract is placed unless set otherwise. -/
def hooksAddress : Address := 0x9000000000000000000000000000000000000002

/-- The gas that the runner forwards. -/
def transactionGas : Nat := 100000000

/-- How tracing is done. -/
structure Settings where
  /-- The number of simulations that may be made. -/
  maxRounds : Nat := 32
  /-- Only logs are reported. -/
  logsOnly : Bool := false
  runner : Address := runnerAddress
  hooks : Address := hooksAddress
  deriving Repr

/-- Why there is no trace. -/
inductive Error where
  /-- No simulation may be made. -/
  | noRounds
  /-- No patcher can be made. -/
  | patcher (cause : PatchError)
  /-- The node failed. -/
  | node (cause : Failure)
  /-- The code of an account has no image. -/
  | patch (address : Address) (cause : PatchError)
  /-- The runner's result cannot be read. -/
  | malformedOutput (cause : Abi.Error)
  /-- The transaction failed. -/
  | reverted (output : Bytes)
  /-- New accounts kept showing up. -/
  | noConvergence (rounds : Nat)
  /-- A call of unknown kind was reported. -/
  | callType (cause : Trace.UnknownCallType)
  deriving DecidableEq, Repr

/-- An error with its causes. -/
def Error.failure : Error → Failure
  | .noRounds => .ofText "max rounds must be positive"
  | .patcher cause => .ofTexts cause.causes
  | .node cause => cause
  | .patch address cause =>
    (Failure.ofTexts cause.causes).within s!"failed to patch {checksummed address}"
  | .malformedOutput cause => ⟨.text "malformed runner output" :: cause.causes.map .form⟩
  | .reverted output => .ofText s!"transaction reverted with {Hex.literal output}"
  | .noConvergence rounds => .ofText s!"trace did not converge within {rounds} rounds"
  | .callType cause => .ofText cause.message

/-- A contract whose code was fetched, and its image. -/
structure Contract where
  code : Bytes
  image : Bytes
  deriving DecidableEq, Repr

/-- The accounts that were fetched. -/
structure Discovered where
  /-- The accounts with code. -/
  contracts : AddressMap Contract := AddressMap.empty
  /-- The accounts without code. -/
  codeless : List Address := []
  deriving Repr

/-- Whether an account was fetched. -/
def Discovered.isKnown (seen : Discovered) (address : Address) : Bool :=
  seen.contracts.contains address || seen.codeless.contains address

/-- The synthetic accounts. -/
def synthetic (settings : Settings) (tx : Transaction) : List Address :=
  [settings.runner, settings.hooks, tx.sender]

/-- The options of the patcher that tracing starts with: the synthetic accounts have no code. -/
def patchOptions (settings : Settings) (contracts : HookContracts) (tx : Transaction) :
    PatchOptions where
  hooksAddress := settings.hooks
  origin := tx.sender
  logsOnly := settings.logsOnly
  selectors := contracts.selectors
  accounts := AddressMap.empty.insertAll
    ((synthetic settings tx).map (·, DeployedCode.of []))

/-- The call that asks for an access list. -/
def accessRequest (tx : Transaction) : CallRequest where
  sender := tx.sender
  target := tx.target
  gas := tx.gas
  gasPrice := tx.gasPrice
  value := tx.value
  data := tx.data

/-- The calldata of every simulation. -/
def calldata (tx : Transaction) : Bytes :=
  RunParams.calldata
    { origin := tx.sender, target := tx.target, value := tx.value, data := tx.data,
      gas := BitVec.ofNat 256 transactionGas, gasPrice := tx.gasPrice }

/-- The accounts of a list that are not synthetic, in order and each once. -/
def candidates (settings : Settings) (tx : Transaction) (addresses : List Address) :
    List Address :=
  (sortedAddresses addresses).filter fun address => !(synthetic settings tx).contains address

/-- Records an account that was fetched. -/
def record (state : Patcher × Discovered) (fetched : Address × Bytes) : Patcher × Discovered :=
  let (patcher, seen) := state
  let (address, code) := fetched
  if code.isEmpty then (patcher, { seen with codeless := address :: seen.codeless })
  else (patcher.insertAccount address (DeployedCode.of code),
    { seen with contracts := seen.contracts.insert address ⟨code, []⟩ })

/-- Patches the code of an account. -/
def patchContract (patcher : Patcher) (entry : Address × Contract) :
    Except Error (Address × Contract) :=
  match patcher.patch entry.2.code with
  | .ok image => .ok (entry.1, { entry.2 with image })
  | .error cause => .error (.patch entry.1 cause)

/-- Patches all code again: an image holds the size and hash of the code of every account. -/
def patchAll (patcher : Patcher) (seen : Discovered) : Except Error Discovered := do
  return { seen with contracts := ⟨← seen.contracts.entries.mapM (patchContract patcher)⟩ }

/-- Records accounts that were fetched, and patches all code again if any of them has some. -/
def learn (state : Patcher × Discovered) (fetched : List (Address × Bytes)) :
    Except Error (Patcher × Discovered) := do
  let (patcher, seen) := fetched.foldl record state
  if fetched.all (·.2.isEmpty) then return (patcher, seen)
  else return (patcher, ← patchAll patcher seen)

/-- The code that every account carries in a simulation. Where synthetic accounts coincide, the
hooks contract comes first and the runner second. -/
def overrides (settings : Settings) (contracts : HookContracts) (tx : Transaction)
    (seen : Discovered) : CodeOverrides :=
  (((seen.contracts.map Contract.image).insert tx.sender contracts.origin).insert
    settings.runner contracts.runner).insert settings.hooks contracts.hooks

/-- The accounts that the calls of a simulation lead to, if they are not known yet. -/
def newTargets (settings : Settings) (tx : Transaction) (seen : Discovered)
    (result : Simulation) : List Address :=
  let targets := result.calls.filter fun call =>
    call.success && call.callType != CallType.static.toByte && !seen.isKnown call.target
  candidates settings tx (targets.map Simulation.Call.target)

section

variable {m : Type → Type} [Monad m]

/-- Fetches the code of accounts in order, up to the first that the node fails on.  This stands for
a `try_join_all`, which starts the requests of a round for all of these accounts before it waits for
an answer, and ends with the first failure. -/
def fetchCodes (node : Node m) (block : BlockId) :
    List Address → m (Except Error (List (Address × Bytes)))
  | [] => return .ok []
  | address :: rest => do
    match ← node.codeAt address block with
    | .error cause => return .error (.node cause)
    | .ok code =>
      match ← fetchCodes node block rest with
      | .error e => return .error e
      | .ok codes => return .ok ((address, code) :: codes)

/-- Simulates the transaction. -/
def simulate (node : Node m) (settings : Settings) (contracts : HookContracts) (tx : Transaction)
    (seen : Discovered) : m (Except Error Simulation) := do
  let overrides := overrides settings contracts tx seen
  match ← node.call settings.runner (calldata tx) overrides tx.block with
  | .error cause => return .error (.node cause)
  | .ok output =>
    match Simulation.decode output with
    | .error cause => return .error (.malformedOutput cause)
    | .ok result => return if result.success then .ok result else .error (.reverted result.output)

/-- One round: fetches the queue, patches, and simulates. -/
def round (node : Node m) (settings : Settings) (contracts : HookContracts) (tx : Transaction)
    (state : Patcher × Discovered) (queue : List Address) :
    m (Except Error ((Patcher × Discovered) × Simulation)) := do
  match ← fetchCodes node tx.block (queue.filter (!state.2.isKnown ·)) with
  | .error e => return .error e
  | .ok fetched =>
    match learn state fetched with
    | .error e => return .error e
    | .ok state =>
      match ← simulate node settings contracts tx state.2 with
      | .error e => return .error e
      | .ok result => return .ok (state, result)

/-- At most `left` more rounds, after `made` ones. -/
def rounds (node : Node m) (settings : Settings) (contracts : HookContracts) (tx : Transaction) :
    (left made : Nat) → Patcher × Discovered → List Address → m (Except Error Trace)
  | 0, made, _, _ => return .error (.noConvergence made)
  | left + 1, made, state, queue => do
    match ← round node settings contracts tx state queue with
    | .error e => return .error e
    | .ok (state, result) =>
      match newTargets settings tx state.2 result with
      | [] =>
        match Trace.ofSimulation result (made + 1) with
        | .ok trace => return .ok trace
        | .error cause => return .error (.callType cause)
      | queue => rounds node settings contracts tx left (made + 1) state queue

/-- The accounts that the node expects the transaction to touch; a failure counts as none. -/
def expected (node : Node m) (tx : Transaction) : m (List Address) := do
  match ← node.accessList (accessRequest tx) tx.block with
  | .ok addresses => return addresses
  | .error _ => return []

/-- Traces a transaction. -/
def trace (node : Node m) (settings : Settings) (contracts : HookContracts) (tx : Transaction) :
    m (Except Error Trace) := do
  if settings.maxRounds = 0 then return .error .noRounds
  else match Patcher.new (patchOptions settings contracts tx) ⟨0⟩ with
    | .error cause => return .error (.patcher cause)
    | .ok patcher =>
      let listed ← expected node tx
      rounds node settings contracts tx settings.maxRounds 0 (patcher, {})
        (candidates settings tx (tx.target :: listed))

end

end Tracer

end EvmProbe
