import EvmProbe.CommandLine.Parsing
import EvmProbe.Trace.Tracer

/-!
The commands, and how they are given.
-/

namespace EvmProbe.CommandLine

/-- How a node is reached, and where its answers are kept. -/
structure Connection where
  url : Option String
  cacheRoot : Option String
  /-- Answers are not kept. -/
  noCache : Bool
  deriving Repr

/-- Where code comes from. -/
inductive CodeSource where
  | given (code : Bytes)
  | deployed (address : Address) (block : BlockNumber)
  deriving Repr

/-- Code, and the connection that it may have to be fetched over. -/
structure CodeArguments where
  source : CodeSource
  connection : Connection
  deriving Repr

/-- How code is disassembled. -/
structure DisasmArguments where
  /-- The listing is printed without offsets. -/
  asListing : Bool
  code : CodeArguments
  deriving Repr

/-- How code is patched. -/
structure PatchArguments where
  hooks : Address
  origin : Address
  logsOnly : Bool
  code : CodeArguments
  /-- The directory of the compiler output. -/
  artifacts : String
  deriving Repr

/-- Which transaction is traced, and how. -/
structure RunArguments where
  /-- The transaction to repeat. -/
  replay : Option Word
  sender : Option Address
  target : Option Address
  value : Option Word
  data : Option Bytes
  gas : Option Nat
  /-- In units of 10^9. -/
  gasPrice : Option Nat
  block : Option BlockNumber
  /-- No summary is printed. -/
  isQuiet : Bool
  settings : Tracer.Settings
  connection : Connection
  /-- The directory of the compiler output. -/
  artifacts : String
  deriving Repr

/-- A command. -/
inductive Command where
  | run (arguments : RunArguments)
  | patch (arguments : PatchArguments)
  | disasm (arguments : DisasmArguments)
  deriving Repr

/-! ## Parameters -/

/-- The parameters of a connection. -/
def connectionParameters : List Parameter :=
  [{ name := "rpc-url", letter := 'r', kind := some .text, environmentName := "ETH_RPC_URL" },
    { name := "cache-root", kind := some .path, environmentName := "SPYGLASS_CACHE_ROOT",
      conflicts := ["no-cache"] },
    { name := "no-cache", conflicts := ["cache-root"] }]

/-- The directory of the compiler output. -/
def artifactsParameter : Parameter :=
  { name := "artifacts", kind := some .path, environmentName := "SPYGLASS_ARTIFACTS" }

/-- Only logs are reported. -/
def logsOnlyParameter : Parameter := { name := "logs-only", letter := 'L' }

/-- The account of the hooks contract. -/
def hooksParameter : Parameter := { name := "hooks-address", kind := some .address }

/-- The parameters that name code, next to the code itself. -/
def codeParameters : List Parameter :=
  [{ name := "address", letter := 'a', kind := some .address },
    { name := "block", letter := 'b', kind := some .block }] ++ connectionParameters

/-- The code itself. -/
def codeParameter : Parameter :=
  { name := "code", kind := some .bytes, conflicts := ["address"] }

/-- The parameters of a command on code. -/
def codeGrammar (parameters : List Parameter) : Grammar where
  parameters := parameters ++ codeParameters
  positional := codeParameter
  required := ["code", "address"]

/-- The parameters of `disasm`. -/
def disasmGrammar : Grammar := codeGrammar [{ name := "asm" }]

/-- The parameters of `patch`. -/
def patchGrammar : Grammar :=
  codeGrammar [hooksParameter, { name := "origin", kind := some .address }, logsOnlyParameter,
    artifactsParameter]

/-- The parameters of `run`. -/
def runGrammar : Grammar where
  parameters :=
    [{ name := "tx", kind := some .hash, conflicts := ["from", "to", "data"] },
      { name := "from", kind := some .address }, { name := "to", kind := some .address },
      { name := "value", kind := some .word }, { name := "data", kind := some .bytes },
      { name := "gas", kind := some .natural }, { name := "gas-price", kind := some .natural },
      { name := "block", letter := 'b', kind := some .block },
      { name := "quiet", letter := 'q' }, logsOnlyParameter,
      { name := "max-rounds", kind := some .natural },
      { name := "runner-address", kind := some .address }, hooksParameter] ++
    connectionParameters ++ [artifactsParameter]

/-! ## Arguments -/

/-- The connection that settings describe. -/
def Connection.ofSettings (settings : Settings) : Connection where
  url := settings.get? Value.text? "rpc-url"
  cacheRoot := settings.get? Value.text? "cache-root"
  noCache := settings.has "no-cache"

/-- The code that settings describe: the code itself, or else that of an account. -/
def CodeArguments.ofSettings (settings : Settings) : CodeArguments where
  source :=
    match settings.get? Value.bytes? "code" with
    | some code => .given code
    | none => .deployed ((settings.get? Value.address? "address").getD 0)
        ((settings.get? Value.block? "block").getD .latest)
  connection := .ofSettings settings

/-- The directory of the compiler output. -/
def artifactsOf (settings : Settings) : String :=
  (settings.get? Value.text? "artifacts").getD "out"

/-- The account of the hooks contract. -/
def hooksOf (settings : Settings) : Address :=
  (settings.get? Value.address? hooksParameter.name).getD Tracer.hooksAddress

/-- What settings say of `disasm`. -/
def DisasmArguments.ofSettings (settings : Settings) : DisasmArguments where
  asListing := settings.has "asm"
  code := .ofSettings settings

/-- What settings say of `patch`. -/
def PatchArguments.ofSettings (settings : Settings) : PatchArguments where
  hooks := hooksOf settings
  origin := (settings.get? Value.address? "origin").getD 0
  logsOnly := settings.has logsOnlyParameter.name
  code := .ofSettings settings
  artifacts := artifactsOf settings

/-- What settings say of tracing. -/
def tracerSettings (settings : Settings) : Tracer.Settings :=
  let standard : Tracer.Settings := {}
  { maxRounds := (settings.get? Value.natural? "max-rounds").getD standard.maxRounds
    logsOnly := settings.has logsOnlyParameter.name
    runner := (settings.get? Value.address? "runner-address").getD standard.runner
    hooks := hooksOf settings }

/-- What settings say of `run`. -/
def RunArguments.ofSettings (settings : Settings) : RunArguments where
  replay := settings.get? Value.hash? "tx"
  sender := settings.get? Value.address? "from"
  target := settings.get? Value.address? "to"
  value := settings.get? Value.word? "value"
  data := settings.get? Value.bytes? "data"
  gas := settings.get? Value.natural? "gas"
  gasPrice := settings.get? Value.natural? "gas-price"
  block := settings.get? Value.block? "block"
  isQuiet := settings.has "quiet"
  settings := tracerSettings settings
  connection := .ofSettings settings
  artifacts := artifactsOf settings

/-! ## Commands -/

/-- The names of the commands, help included. -/
def commandNames : List String := ["run", "r", "patch", "p", "disasm", "d", "help"]

/-- Help on the commands that are named, one inside the other. No command has one of its own. -/
def helpOn : List String → Rejection
  | [] => .help
  | [name] => if commandNames.contains name then .help else .unknownCommand
  | _ => .unknownCommand

/-- Parses a command. -/
def Command.parse (environment : List (String × String)) :
    (arguments : List String) → Except Rejection Command
  | [] | ["--"] => .error .noCommand
  | "--" :: name :: _ =>
    .error (if commandNames.contains name then .unknownArgument else .unknownCommand)
  | "run" :: rest | "r" :: rest => do
    return .run (.ofSettings (← CommandLine.parse runGrammar environment rest))
  | "patch" :: rest | "p" :: rest => do
    return .patch (.ofSettings (← CommandLine.parse patchGrammar environment rest))
  | "disasm" :: rest | "d" :: rest => do
    return .disasm (.ofSettings (← CommandLine.parse disasmGrammar environment rest))
  | "help" :: names => .error (helpOn names)
  | text :: _ =>
    .error <| match text.toList with
      | '-' :: '-' :: rest =>
        let name := String.ofList (rest.takeWhile (· ≠ '='))
        if name ≠ "help" ∧ name ≠ "version" then .unknownArgument
        else if rest.contains '=' then .unexpectedValue
        else if name = "help" then .help
        else .version
      | '-' :: 'h' :: _ => .help
      | '-' :: 'V' :: _ => .version
      | '-' :: _ :: _ => .unknownArgument
      | _ => .unknownCommand

end EvmProbe.CommandLine
