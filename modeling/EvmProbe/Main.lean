import EvmProbe.CommandLine.Execution
import EvmProbe.CommandLine.KnownChains
import Std.Time.DateTime.Timestamp

/-!
The program: the commands, on the files and the clock of the machine.

There is no connection to a node here. A command that asks one fails with the URL that it asked.
-/

namespace EvmProbe.Main

/-- What a failed file operation reports. -/
def fileError : IO.Error → FileError
  | .noFileOrDirectory .. => .notFound
  | .alreadyExists .. => .alreadyExists
  | .inappropriateType _ code _ => if code = 20 then .notADirectory else .isADirectory
  | cause => .other (toString cause)

/-- The result of a file operation. -/
def attempt {α : Type} (act : IO α) : IO (Except FileError α) := do
  match ← act.toBaseIO with
  | .ok a => return .ok a
  | .error cause => return .error (fileError cause)

/-- The files of the machine. -/
def files : Files IO where
  read path := attempt (IO.FS.readFile path)
  write path content := attempt (IO.FS.writeFile path content)
  remove path := attempt (IO.FS.removeFile path)
  createDirectories path := attempt (IO.FS.createDirAll path)
  isPresent path := do
    match ← (IO.FS.Handle.mk path .read).toBaseIO with
    | .ok _ => return true
    | .error _ => return false

/-- The machine. -/
def host : Host IO where
  files := files
  now := do return (← Std.Time.Timestamp.now).toSecondsSinceUnixEpoch.val.toNat
  chains := .known
  send url _ _ := return .error (.transport s!"no connection to {url}")

/-- The output and the error output of the machine. -/
def terminal : CommandLine.Terminal IO where
  out := IO.print
  err := IO.eprint

/-- The environment variables that commands look at, as far as they are set. -/
def environment : IO (List (String × String)) :=
  ["HOME", "ETH_RPC_URL", "SPYGLASS_CACHE_ROOT", "SPYGLASS_ARTIFACTS"].filterMapM fun name => do
    return (← IO.getEnv name).map (name, ·)

/-- What is printed for arguments that are not accepted. -/
def notice : CommandLine.Rejection → String
  | .noCommand | .help => "commands: run, patch, disasm, help"
  | .version => "0.0.1"
  | .unknownCommand => "there is no such command"
  | .unknownArgument => "there is no such argument"
  | .unexpectedValue => "a flag takes no value"
  | .missingValue => "an option lacks its value"
  | .invalidValue => "a value cannot be read"
  | .conflict => "two arguments exclude each other"
  | .missingArgument => "an argument is missing"

/-- Carries out the command that the arguments describe, and gives the exit code. -/
def run (arguments : List String) : IO UInt32 := do
  match ← CommandLine.perform host terminal (← environment) arguments with
  | .ok code => return code.toUInt32
  | .error rejection =>
    let print := if rejection.exitCode = 0 then terminal.out else terminal.err
    print (notice rejection ++ "\n")
    return rejection.exitCode.toUInt32

end EvmProbe.Main

/-- Carries out the command that the arguments describe. -/
def main (arguments : List String) : IO UInt32 := EvmProbe.Main.run arguments
