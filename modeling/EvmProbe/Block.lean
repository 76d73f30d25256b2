import EvmProbe.Json.Value
import EvmProbe.Text.Numeral

/-!
Names of blocks: a number, a tag, or a hash.
-/

namespace EvmProbe

/-- A number or a tag. -/
inductive BlockNumber where
  | latest
  | finalized
  | safe
  | earliest
  | pending
  | number (n : Nat)
  deriving DecidableEq, Repr

/-- A block. -/
inductive BlockId where
  | number (block : BlockNumber)
  | hash (hash : Word) (requireCanonical : Option Bool)
  deriving DecidableEq, Repr

namespace BlockNumber

/-- The word for a tag. -/
def tag? : BlockNumber → Option String
  | .latest => some "latest"
  | .finalized => some "finalized"
  | .safe => some "safe"
  | .earliest => some "earliest"
  | .pending => some "pending"
  | .number _ => none

/-- The tags. -/
def tags : List BlockNumber := [.latest, .finalized, .safe, .earliest, .pending]

/-- A block in requests: a tag, or a number in hex digits. -/
def text : BlockNumber → String
  | .number n => Hex.quantity n
  | block => block.tag?.getD ""

/-- A block in summaries. -/
def debug : BlockNumber → String
  | .latest => "Latest"
  | .finalized => "Finalized"
  | .safe => "Safe"
  | .earliest => "Earliest"
  | .pending => "Pending"
  | .number n => s!"Number({n})"

/-- Why a text names no block. -/
inductive Error where
  /-- It is neither a tag nor marked as hex digits. -/
  | noMarker
  | numeral (cause : Text.NumeralError)
  deriving DecidableEq, Repr

/-- The wording of an error. -/
def Error.message : Error → String
  | .noMarker => "hex string without 0x prefix"
  | .numeral cause => cause.message

/-- Reads a tag, or a number in hex digits. -/
def ofText (s : String) : Except Error BlockNumber :=
  match tags.find? (fun block => block.tag? == some s) with
  | some block => .ok block
  | none =>
    match s.toList with
    | '0' :: 'x' :: digits =>
      match Text.readNumeral 16 Text.limit64 digits with
      | .ok n => .ok (.number n)
      | .error cause => .error (.numeral cause)
    | _ => .error .noMarker

/-- Reads a block as a user writes it: a decimal number first, else as in requests. -/
def parse (s : String) : Except Error BlockNumber :=
  match Text.readNumeral 10 Text.limit64 s.toList with
  | .ok n => .ok (.number n)
  | .error _ => ofText s

/-- The message for a text that names no block. -/
def parseMessage (s : String) (cause : Error) : String := s!"invalid block {s}: {cause.message}"

end BlockNumber

namespace BlockId

/-- A block in requests. -/
def toJson : BlockId → Json
  | .number block => .string block.text
  | .hash h none => .object [("blockHash", .ofBits h)]
  | .hash h (some canonical) =>
    .object [("blockHash", .ofBits h), ("requireCanonical", .bool canonical)]

/-- A block in summaries. -/
def debug : BlockId → String
  | .number block => s!"Number({block.debug})"
  | .hash h canonical =>
    let canonical := match canonical with
      | none => "None"
      | some b => s!"Some({b})"
    "Hash(RpcBlockHash \x7b block_hash: " ++ Hex.literal (wordBytes h) ++
      ", require_canonical: " ++ canonical ++ " \x7d)"

end BlockId

end EvmProbe
