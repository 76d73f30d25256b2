import EvmProbe.CommandLine.Command
import EvmProbe.Rpc.Provider
import EvmProbe.Rpc.Url
import EvmProbe.Trace.Artifacts

/-!
Carrying out commands.

What a command needs is fetched in a fixed order, and the first failure is reported: first the
compiler output, then the code or the transaction.
-/

namespace EvmProbe

/-- The report of a failure: its message, and below it the causes. -/
def Failure.report (failure : Failure) : String :=
  match failure.causes.map Cause.message with
  | [] => "\n"
  | [message] => "\n" ++ message
  | [message, cause] => "\n" ++ message ++ "\n\nContext:\n- " ++ cause
  | message :: causes =>
    "\n" ++ message ++ "\n\nContext:" ++
      String.join (causes.zipIdx.map fun (cause, i) => s!"\n- Error #{i}: {cause}")

namespace CommandLine

/-- What commands print on. -/
structure Terminal (m : Type → Type) where
  out : String → m Unit
  err : String → m Unit

/-- The units of a gas price on the command line. -/
def gwei : Nat := 1000000000

section

variable {m : Type → Type} [Monad m]

/-- A computation that may fail. -/
abbrev Attempt (m : Type → Type) := ExceptT Failure m

/-- A failure with a message. -/
def failWith {α : Type} (message : String) : Attempt m α := throw (.ofText message)

/-- The value, or a failure with a message. -/
def orFail {α : Type} (message : String) : Option α → Attempt m α
  | some a => return a
  | none => failWith message

/-- The node of a connection, with a cache if one is wanted and the chain has one. -/
def Connection.provider (connection : Connection) (host : Host m) (home : Option String) :
    Attempt m Provider := do
  let url ← orFail "no RPC endpoint given, use --rpc-url or set ETH_RPC_URL" connection.url
  match Url.check url with
  | .error cause => throw (.ofTexts [s!"invalid RPC URL {url}", cause.message])
  | .ok () =>
    let provider : Provider := { url }
    if connection.noCache then return provider
    let chain ← ExceptT.mk (provider.chainId host)
    match ← ExceptT.lift (provider.withCache host chain ⟨connection.cacheRoot, home⟩) with
    | .ok provider => return provider
    | .error _ => return provider

/-- The contracts of the simulation. -/
def loadContracts (host : Host m) (directory : String) : Attempt m HookContracts := do
  match ← ExceptT.lift (HookContracts.load host.files directory) with
  | .ok contracts => return contracts
  | .error cause =>
    let message := s!"failed to load hook artifacts from {directory}, " ++ "run `forge build` first"
    throw (cause.within message)

/-- The code that a command is about. -/
def CodeArguments.load (arguments : CodeArguments) (host : Host m) (home : Option String) :
    Attempt m Bytes := do
  match arguments.source with
  | .given code => return code
  | .deployed address block =>
    let provider ← arguments.connection.provider host home
    let code ← ExceptT.mk (provider.codeAt host address (.number block))
    if code.isEmpty then failWith s!"no code deployed at {checksummed address}" else return code

/-! ## Disassembling -/

/-- A number of five digits or more. -/
def counter (n : Nat) : String :=
  let digits := toString n
  "".pushn '0' (5 - digits.length) ++ digits

/-- A text with blanks behind it, up to a width. -/
def column (width : Nat) (s : String) : String := s.pushn ' ' (width - s.length)

/-- Instructions on lines of their own, with their offsets in the code. -/
def table (code : Bytes) (instructions : List Instruction) : String :=
  let head := column 5 "PC" ++ "  " ++ column 72 "Instruction" ++ "\n\n"
  let lines := instructions.map fun inst =>
    counter (inst.source.getD 0) ++ "  " ++ inst.text ++ "\n"
  let decoded := codeSize instructions
  let rest :=
    if decoded < code.length then s!"\n{code.length - decoded} trailing bytes not decoded\n" else ""
  head ++ String.join lines ++ rest

/-- Prints the instructions of code. -/
def DisasmArguments.execute (arguments : DisasmArguments) (host : Host m) (terminal : Terminal m)
    (home : Option String) : Attempt m Unit := do
  let code ← arguments.code.load host home
  let instructions := disassemble ⟨0⟩ code
  terminal.out <|
    if arguments.asListing then Listing.render instructions ++ "\n" else table code instructions

/-! ## Patching -/

/-- How a contract is patched. -/
def PatchArguments.options (arguments : PatchArguments) (contracts : HookContracts) :
    PatchOptions where
  hooksAddress := arguments.hooks
  origin := arguments.origin
  logsOnly := arguments.logsOnly
  selectors := contracts.selectors

/-- The image of code. If the code is that of an account, the image reports it. -/
def PatchArguments.image (arguments : PatchArguments) (contracts : HookContracts) (code : Bytes) :
    Except PatchError Bytes := do
  let patcher ← Patcher.new (arguments.options contracts) ⟨0⟩
  match arguments.code.source with
  | .given _ => patcher.patch code
  | .deployed address _ => (patcher.insertAccount address (DeployedCode.of code)).patch code

/-- Prints the image of code. -/
def PatchArguments.execute (arguments : PatchArguments) (host : Host m) (terminal : Terminal m)
    (home : Option String) : Attempt m Unit := do
  let contracts ← loadContracts host arguments.artifacts
  let code ← arguments.code.load host home
  match arguments.image contracts code with
  | .error cause => throw (.ofTexts cause.causes)
  | .ok image => terminal.out (Hex.literal image ++ "\n")

/-! ## Tracing -/

/-- The gas price that was asked for. -/
def RunArguments.price (arguments : RunArguments) : Option Word :=
  arguments.gasPrice.map fun price => BitVec.ofNat 256 (price * gwei)

/-- The transaction that the arguments describe themselves. -/
def RunArguments.described (arguments : RunArguments) : Transaction :=
  let standard : Transaction := {}
  { sender := arguments.sender.getD standard.sender
    target := arguments.target.getD standard.target
    value := arguments.value.getD standard.value
    data := arguments.data.getD standard.data
    gas := arguments.gas.getD standard.gas
    gasPrice := arguments.price.getD standard.gasPrice
    block := .number (arguments.block.getD .latest) }

/-- A transaction of the chain, on the block before its own unless another one was asked for. -/
def RunArguments.repeated (arguments : RunArguments) (tx : MinedTransaction) (target : Address)
    (blockNumber : Nat) : Transaction where
  sender := tx.sender
  target
  value := arguments.value.getD tx.value
  data := tx.input
  gas := arguments.gas.getD (min tx.gas (Text.limit64 - 1))
  gasPrice := arguments.price.getD (BitVec.ofNat 256 ((tx.gasPrice.or tx.maxFeePerGas).getD 0))
  block := .number (arguments.block.getD (.number (blockNumber - 1)))

/-- The transaction to trace. -/
def RunArguments.transaction (arguments : RunArguments) (host : Host m) (provider : Provider) :
    Attempt m Transaction := do
  match arguments.replay with
  | none => return arguments.described
  | some hash =>
    let tx ← orFail "transaction not found" (← ExceptT.mk (provider.transaction host hash))
    let receipt ← orFail "transaction receipt not found" (← ExceptT.mk (provider.receipt host hash))
    let number ← orFail "transaction may still be pending" receipt.blockNumber
    let target ← orFail "contract creations cannot be traced" tx.target
    return arguments.repeated tx target number

/-- The summary of a transaction. -/
def summary (tx : Transaction) : String :=
  s!"Tracing {checksummed tx.sender} -> {checksummed tx.target} at {tx.block.debug}\n" ++
    s!"  value: {tx.value.toNat} wei, gas price: {tx.gasPrice.toNat} wei\n" ++
    s!"  data: {Hex.literal tx.data}\n"

/-- Prints the trace of a transaction. -/
def RunArguments.execute (arguments : RunArguments) (host : Host m) (terminal : Terminal m)
    (home : Option String) : Attempt m Unit := do
  let contracts ← loadContracts host arguments.artifacts
  let provider ← arguments.connection.provider host home
  let tx ← arguments.transaction host provider
  if !arguments.isQuiet then terminal.err (summary tx)
  match ← ExceptT.lift (Tracer.trace (provider.node host) arguments.settings contracts tx) with
  | .error cause => throw cause.failure
  | .ok trace => terminal.out (trace.toJson.pretty 0 ++ "\n")

/-! ## Commands -/

/-- Carries out a command. -/
def Command.execute (command : Command) (host : Host m) (terminal : Terminal m)
    (home : Option String) : Attempt m Unit :=
  match command with
  | .run arguments => arguments.execute host terminal home
  | .patch arguments => arguments.execute host terminal home
  | .disasm arguments => arguments.execute host terminal home

/-- The home directory. An empty name is none. -/
def home? (environment : List (String × String)) : Option String :=
  (environment.lookup "HOME").filter (!·.isEmpty)

/-- Carries out the command that the arguments describe, reports a failure, and gives the exit
code. -/
def perform (host : Host m) (terminal : Terminal m) (environment : List (String × String))
    (arguments : List String) : m (Except Rejection Nat) := do
  match Command.parse environment arguments with
  | .error rejection => return .error rejection
  | .ok command =>
    match ← command.execute host terminal (home? environment) with
    | .ok () => return .ok 0
    | .error failure =>
      terminal.err ("Error: " ++ failure.report ++ "\n")
      return .ok 1

end

end CommandLine

end EvmProbe
