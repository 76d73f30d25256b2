import EvmProbe.Block
import EvmProbe.Bytes

/-!
Arguments of a command: their names, and the values they take.
-/

namespace EvmProbe.CommandLine

/-- Why arguments are not accepted. -/
inductive Rejection where
  /-- There are no arguments at all. -/
  | noCommand
  | unknownCommand
  /-- Help was asked for. -/
  | help
  /-- The version was asked for. -/
  | version
  | unknownArgument
  /-- A flag was given a value. -/
  | unexpectedValue
  /-- An option was given no value, or an empty one. -/
  | missingValue
  | invalidValue
  /-- Two arguments exclude each other, or one was given twice. -/
  | conflict
  | missingArgument
  deriving DecidableEq, Repr

/-- The exit code that a rejection leads to. -/
def Rejection.exitCode : Rejection → Nat
  | .help | .version => 0
  | _ => 2

/-- The kinds of values. -/
inductive Kind where
  | address
  | hash
  /-- A number of 256 bits. -/
  | word
  /-- A number of 64 bits. -/
  | natural
  | block
  | text
  /-- A path, which is not empty. -/
  | path
  /-- The bytes of the text itself. -/
  | bytes
  deriving DecidableEq, Repr

/-- A value. -/
inductive Value where
  | address (address : Address)
  | hash (hash : Word)
  | word (word : Word)
  | natural (n : Nat)
  | block (block : BlockNumber)
  | text (s : String)
  | bytes (content : Bytes)
  deriving DecidableEq, Repr

/-- Reads hex digits of a given number of bytes. -/
def readBits (size : Nat) (s : String) : Except Rejection (BitVec (8 * size)) :=
  match Hex.decode s.toList with
  | .error _ => .error .invalidValue
  | .ok content =>
    if content.length = size then .ok (BitVec.ofNat _ (ofBigEndian content))
    else .error .invalidValue

/-- A value that was read, or a rejection of its text. -/
def accept {ε α : Type} (make : α → Value) : Except ε α → Except Rejection Value
  | .ok a => .ok (make a)
  | .error _ => .error .invalidValue

/-- Reads a value. -/
def Kind.read (kind : Kind) (s : String) : Except Rejection Value :=
  match kind with
  | .address => accept .address (readBits 20 s)
  | .hash => accept .hash (readBits 32 s)
  | .word => accept (.word <| BitVec.ofNat 256 ·) (Text.readMarked (capacity 32) s.toList)
  | .natural => accept .natural (Text.readNumeral 10 Text.limit64 s.toList)
  | .block => accept .block (BlockNumber.parse s)
  | .text => .ok (.text s)
  | .path => if s.isEmpty then .error .missingValue else .ok (.text s)
  | .bytes => .ok (.bytes (Hex.textBytes s.toList))

/-- A parameter of a command. -/
structure Parameter where
  /-- The name that follows two dashes. -/
  name : String
  /-- The letter that follows a single dash. -/
  letter : Option Char := none
  /-- The kind of its value; a flag has none. -/
  kind : Option Kind := none
  /-- The environment variable that gives its value otherwise. -/
  environmentName : Option String := none
  /-- The parameters that exclude it. -/
  conflicts : List String := []
  deriving Repr

/-- The parameters of a command. -/
structure Grammar where
  parameters : List Parameter
  /-- The parameter that is given without its name. -/
  positional : Option Parameter := none
  /-- One of these has to be given, if there are any. -/
  required : List String := []
  deriving Repr

/-- The parameters that were given, with their values. -/
abbrev Settings := List (String × Option Value)

namespace Settings

/-- Whether a parameter was given. -/
def has (settings : Settings) (name : String) : Bool := (settings.lookup name).isSome

/-- The value of a parameter, read off by `view`. -/
def get? {α : Type} (settings : Settings) (view : Value → Option α) (name : String) : Option α :=
  (settings.lookup name).join.bind view

end Settings

namespace Value

/-- An address. -/
def address? : Value → Option Address
  | .address a => some a
  | _ => none

/-- A hash. -/
def hash? : Value → Option Word
  | .hash h => some h
  | _ => none

/-- A number of 256 bits. -/
def word? : Value → Option Word
  | .word w => some w
  | _ => none

/-- A number of 64 bits. -/
def natural? : Value → Option Nat
  | .natural n => some n
  | _ => none

/-- A block. -/
def block? : Value → Option BlockNumber
  | .block b => some b
  | _ => none

/-- A text. -/
def text? : Value → Option String
  | .text s => some s
  | _ => none

/-- A byte string. -/
def bytes? : Value → Option Bytes
  | .bytes content => some content
  | _ => none

end Value

end EvmProbe.CommandLine
