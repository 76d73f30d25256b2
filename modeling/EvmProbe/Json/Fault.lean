import EvmProbe.Bytes

/-!
What is wrong with a JSON text, and where.

A place in a text is a line and a number of bytes in it.  A fault is found at the place that has
been reached, or if it is the next byte that should not be there, behind that byte.
-/

namespace EvmProbe.Json

/-- A place in a text. -/
structure Position where
  line : Nat := 1
  /-- How many bytes of the line come before. -/
  column : Nat := 0
  deriving DecidableEq, Repr

/-- The place behind a byte. -/
def Position.behind (position : Position) (byte : UInt8) : Position :=
  if byte = 10 then ⟨position.line + 1, 0⟩ else ⟨position.line, position.column + 1⟩

/-- Why a text is not what was asked for. -/
inductive Reason where
  | endInArray
  | endInObject
  | endInText
  | endInValue
  | noColon
  /-- Two items have no comma between them. -/
  | noItemComma
  | noFieldComma
  /-- A word is not `null`, `true` or `false`. -/
  | noWord
  | noValue
  | escape
  | number
  /-- A control character stands in a text. -/
  | control
  | noName
  /-- A surrogate is not the first or not the second half of a pair. -/
  | loneSurrogate
  /-- The first half of a surrogate pair has no second half. -/
  | halfPair
  | trailingComma
  | trailingText
  /-- A value of one kind stands where another kind was asked for. -/
  | kind (found wanted : String)
  /-- A value is of the right kind and still not what was asked for. -/
  | value (found wanted : String)
  | length (found : Nat) (wanted : String)
  | missingField (name : String)
  | repeatedField (name : String)
  /-- A text is no byte string. -/
  | digits (message : String)
  deriving DecidableEq, Repr

/-- The wording of a reason. -/
def Reason.message : Reason → String
  | .endInArray => "EOF while parsing a list"
  | .endInObject => "EOF while parsing an object"
  | .endInText => "EOF while parsing a string"
  | .endInValue => "EOF while parsing a value"
  | .noColon => "expected `:`"
  | .noItemComma => "expected `,` or `]`"
  | .noFieldComma => "expected `,` or `\x7d`"
  | .noWord => "expected ident"
  | .noValue => "expected value"
  | .escape => "invalid escape"
  | .number => "invalid number"
  | .control => "control character (\\u0000-\\u001F) found while parsing a string"
  | .noName => "key must be a string"
  | .loneSurrogate => "lone leading surrogate in hex escape"
  | .halfPair => "unexpected end of hex escape"
  | .trailingComma => "trailing comma"
  | .trailingText => "trailing characters"
  | .kind found wanted => s!"invalid type: {found}, expected {wanted}"
  | .value found wanted => s!"invalid value: {found}, expected {wanted}"
  | .length found wanted => s!"invalid length {found}, expected {wanted}"
  | .missingField name => s!"missing field `{name}`"
  | .repeatedField name => s!"duplicate field `{name}`"
  | .digits message => message

/-- A reason and the place where it was found. -/
structure Fault where
  reason : Reason
  position : Position
  deriving DecidableEq, Repr

/-- The wording of a fault. -/
def Fault.message (fault : Fault) : String :=
  s!"{fault.reason.message} at line {fault.position.line} column {fault.position.column}"

/-- The place that has been reached, and the text behind it. -/
structure Cursor where
  position : Position
  rest : Bytes
  deriving DecidableEq, Repr

namespace Cursor

/-- The cursor at the start of a text. -/
def start (text : String) : Cursor := ⟨{}, text.toList.flatMap String.utf8EncodeChar⟩

/-- The next byte, as a character. -/
def peek? (c : Cursor) : Option Char := c.rest.head?.map fun byte => Char.ofNat byte.toNat

/-- Moves behind the next byte. -/
def advance (c : Cursor) : Cursor :=
  match c.rest with
  | [] => c
  | byte :: rest => ⟨c.position.behind byte, rest⟩

/-- Moves behind blanks. -/
def skipBlanks (c : Cursor) : Cursor :=
  let isBlank := fun (byte : UInt8) => byte = 32 || byte = 9 || byte = 10 || byte = 13
  ⟨(c.rest.takeWhile isBlank).foldl Position.behind c.position, c.rest.dropWhile isBlank⟩

/-- Moves to the end of the text. -/
def finish (c : Cursor) : Cursor := ⟨c.rest.foldl Position.behind c.position, []⟩

/-- A fault at the place that has been reached. -/
def fault {α : Type} (c : Cursor) (reason : Reason) : Except Fault α := .error ⟨reason, c.position⟩

/-- A fault of the next byte. -/
def faultAhead {α : Type} (c : Cursor) (reason : Reason) : Except Fault α := c.advance.fault reason

end Cursor

end EvmProbe.Json
