import EvmProbe.Hex

/-!
JSON values and their texts.

Numbers keep the text they are written with, and objects the order of their fields, repeated
fields included.  What a text holds that can be skipped but not read has a place of its own.
-/

namespace EvmProbe

/-- A JSON value. -/
inductive Json where
  | null
  | bool (b : Bool)
  /-- A number, as it is written. -/
  | number (literal : String)
  | string (s : String)
  | array (items : List Json)
  | object (fields : List (String × Json))
  /-- What can be skipped but not read: a text with half of a surrogate pair, an object with such a
  name, and an array or an object that is nested too deep. -/
  | unreadable
  deriving Repr, Inhabited

namespace Json

/-- A natural number. -/
def ofNat (n : Nat) : Json := .number (toString n)

/-- A byte string as hex digits. -/
def ofBytes (content : Bytes) : Json := .string (Hex.literal content)

/-- A word or an address as hex digits, all of them. -/
def ofBits {bits : Nat} (w : BitVec bits) : Json := .string (Hex.literal (wordBytes w))

/-- A number as hex digits without leading zeros. -/
def ofQuantity (n : Nat) : Json := .string (Hex.quantity n)

/-- The four digits of a code point. -/
def fourDigits (n : Nat) : List Char :=
  [n / 4096 % 16, n / 256 % 16, n / 16 % 16, n % 16].map Hex.digit

/-- How a character is written between quotes. -/
def escape (c : Char) : List Char :=
  if c = '"' then ['\\', '"']
  else if c = '\\' then ['\\', '\\']
  else if c.toNat = 8 then ['\\', 'b']
  else if c.toNat = 9 then ['\\', 't']
  else if c.toNat = 10 then ['\\', 'n']
  else if c.toNat = 12 then ['\\', 'f']
  else if c.toNat = 13 then ['\\', 'r']
  else if c.toNat < 0x20 then ['\\', 'u'] ++ fourDigits c.toNat
  else [c]

/-- A text between quotes. -/
def quoted (s : String) : String := String.ofList ('"' :: s.toList.flatMap escape ++ ['"'])

/-- The opening and the closing brace. -/
def braces : String × String := ("\x7b", "\x7d")

mutual

/-- Whether all of a value can be read. -/
def isReadable : Json → Bool
  | .unreadable => false
  | .array items => areItemsReadable items
  | .object fields => areFieldsReadable fields
  | .null | .bool _ | .number _ | .string _ => true

/-- Whether all of the items can be read. -/
def areItemsReadable : List Json → Bool
  | [] => true
  | item :: rest => isReadable item && areItemsReadable rest

/-- Whether the values of all fields can be read. -/
def areFieldsReadable : List (String × Json) → Bool
  | [] => true
  | (_, value) :: rest => isReadable value && areFieldsReadable rest

end

mutual

/-- The text of a value, without blanks. -/
def compact : Json → String
  | .null | .unreadable => "null"
  | .bool true => "true"
  | .bool false => "false"
  | .number literal => literal
  | .string s => quoted s
  | .array items => "[" ++ compactItems items ++ "]"
  | .object fields => braces.1 ++ compactFields fields ++ braces.2

/-- The texts of items, with commas between them. -/
def compactItems : List Json → String
  | [] => ""
  | [item] => compact item
  | item :: rest => compact item ++ "," ++ compactItems rest

/-- The texts of fields, with commas between them. -/
def compactFields : List (String × Json) → String
  | [] => ""
  | [(name, value)] => quoted name ++ ":" ++ compact value
  | (name, value) :: rest => quoted name ++ ":" ++ compact value ++ "," ++ compactFields rest

end

/-- A new line at a depth of nesting. -/
def newLine (depth : Nat) : String := "\n" ++ "".pushn ' ' (2 * depth)

mutual

/-- The text of a value on several lines; each level is two blanks further in. -/
def pretty (depth : Nat) : Json → String
  | .array [] => "[]"
  | .array items => "[" ++ prettyItems (depth + 1) items ++ newLine depth ++ "]"
  | .object [] => braces.1 ++ braces.2
  | .object fields =>
    braces.1 ++ prettyFields (depth + 1) fields ++ newLine depth ++ braces.2
  | .null | .unreadable => "null"
  | .bool true => "true"
  | .bool false => "false"
  | .number literal => literal
  | .string s => quoted s

/-- Items on lines of their own. -/
def prettyItems (depth : Nat) : List Json → String
  | [] => ""
  | [item] => newLine depth ++ pretty depth item
  | item :: rest => newLine depth ++ pretty depth item ++ "," ++ prettyItems depth rest

/-- Fields on lines of their own. -/
def prettyFields (depth : Nat) : List (String × Json) → String
  | [] => ""
  | [(name, value)] => newLine depth ++ quoted name ++ ": " ++ pretty depth value
  | (name, value) :: rest =>
    newLine depth ++ quoted name ++ ": " ++ pretty depth value ++ "," ++ prettyFields depth rest

end

end Json

end EvmProbe
