import EvmProbe.Json.Value

/-!
Reading JSON texts.

A text is cut into tokens, and the tokens are put together by a machine that keeps the arrays and
objects that are still open on a stack.  Nothing but blanks may follow the value.  Half of a
surrogate pair and nesting that goes too deep are no faults of the text: they make the value that
they belong to unreadable.
-/

namespace EvmProbe.Json

/-! ## Tokens -/

/-- A token. -/
inductive Token where
  | beginArray
  | endArray
  | beginObject
  | endObject
  | colon
  | comma
  /-- A text, if its escapes make one. -/
  | text (s : Option String)
  /-- A number, a truth value or null. -/
  | literal (value : Json)
  deriving Repr

/-- The blanks between tokens. -/
def isBlank (c : Char) : Bool := c = ' ' || c = '\n' || c = '\r' || c = '\t'

/-- The character of an escape of one letter. -/
def unescape? : Char → Option Char
  | '"' => some '"'
  | '\\' => some '\\'
  | '/' => some '/'
  | 'b' => some (Char.ofNat 8)
  | 'f' => some (Char.ofNat 12)
  | 'n' => some '\n'
  | 'r' => some '\r'
  | 't' => some '\t'
  | _ => none

/-- The value of four hex digits. -/
def unit? (a b c d : Char) : Option Nat := do
  let digit := fun (x : Char) => Hex.value? (UInt8.ofNat x.toNat)
  if 128 ≤ (a.toNat ||| b.toNat ||| c.toNat ||| d.toNat) then none
  else return 4096 * (← digit a) + 256 * (← digit b) + 16 * (← digit c) + (← digit d)

/-- The code point of a surrogate pair. -/
def pairValue (high low : Nat) : Nat := 0x10000 + (high - 0xd800) * 0x400 + (low - 0xdc00)

/-- Reads characters up to the closing quote; an escape may be half of a surrogate pair. -/
def units? : List Char → Option (List Nat × List Char)
  | '"' :: rest => some ([], rest)
  | '\\' :: 'u' :: a :: b :: c :: d :: rest => do
    let unit ← unit? a b c d
    let (units, rest) ← units? rest
    return (unit :: units, rest)
  | '\\' :: c :: rest => do
    let c ← unescape? c
    let (units, rest) ← units? rest
    return (c.toNat :: units, rest)
  | c :: rest =>
    if c.toNat < 0x20 ∨ c = '\\' then none
    else do
      let (units, rest) ← units? rest
      return (c.toNat :: units, rest)
  | [] => none

/-- The characters that units stand for. Surrogates stand for one in pairs only. -/
def characters? : List Nat → Option (List Char)
  | [] => some []
  | unit :: rest =>
    if unit < 0xd800 ∨ 0xe000 ≤ unit then (characters? rest).map (Char.ofNat unit :: ·)
    else match rest with
      | [] => none
      | low :: rest =>
        if unit < 0xdc00 ∧ 0xdc00 ≤ low ∧ low < 0xe000 then
          (characters? rest).map (Char.ofNat (pairValue unit low) :: ·)
        else none

/-- The digits that a text starts with, and what follows. -/
def digits (cs : List Char) : List Char × List Char :=
  (cs.takeWhile Char.isDigit, cs.dropWhile Char.isDigit)

/-- The whole part of a number: no further digit follows a leading zero. -/
def wholePart? (cs : List Char) : Option (List Char × List Char) :=
  match digits cs with
  | ([], _) => none
  | ('0' :: _ :: _, _) => none
  | (whole, rest) => some (whole, rest)

/-- The fraction of a number, if it has one. -/
def fraction? : List Char → Option (List Char × List Char)
  | '.' :: rest =>
    match digits rest with
    | ([], _) => none
    | (fraction, rest) => some ('.' :: fraction, rest)
  | rest => some ([], rest)

/-- The exponent of a number, if it has one. -/
def exponent? : List Char → Option (List Char × List Char)
  | e :: rest =>
    if e = 'e' ∨ e = 'E' then
      let (sign, rest) := match rest with
        | '+' :: rest => (['+'], rest)
        | '-' :: rest => (['-'], rest)
        | rest => ([], rest)
      match digits rest with
      | ([], _) => none
      | (exponent, rest) => some (e :: sign ++ exponent, rest)
    else some ([], e :: rest)
  | [] => some ([], [])

/-- Reads a number. -/
def number? (cs : List Char) : Option (List Char × List Char) := do
  let (sign, rest) := match cs with
    | '-' :: rest => (['-'], rest)
    | rest => ([], rest)
  let (whole, rest) ← wholePart? rest
  let (fraction, rest) ← fraction? rest
  let (exponent, rest) ← exponent? rest
  return (sign ++ whole ++ fraction ++ exponent, rest)

/-- The token that a text starts with, and what follows it. -/
def token? : List Char → Option (Token × List Char)
  | '[' :: rest => some (.beginArray, rest)
  | ']' :: rest => some (.endArray, rest)
  | '\x7b' :: rest => some (.beginObject, rest)
  | '\x7d' :: rest => some (.endObject, rest)
  | ':' :: rest => some (.colon, rest)
  | ',' :: rest => some (.comma, rest)
  | '"' :: rest =>
    (units? rest).map fun (units, rest) => (.text ((characters? units).map String.ofList), rest)
  | 'n' :: 'u' :: 'l' :: 'l' :: rest => some (.literal .null, rest)
  | 't' :: 'r' :: 'u' :: 'e' :: rest => some (.literal (.bool true), rest)
  | 'f' :: 'a' :: 'l' :: 's' :: 'e' :: rest => some (.literal (.bool false), rest)
  | cs => (number? cs).map fun (text, rest) => (.literal (.number (String.ofList text)), rest)

/-- Cuts a text into tokens; there are no more of them than `fuel`. -/
def tokensFrom (fuel : Nat) (cs : List Char) : Option (List Token) :=
  match fuel, cs.dropWhile isBlank with
  | _, [] => some []
  | 0, _ => none
  | fuel + 1, cs => do
    let (token, rest) ← token? cs
    return token :: (← tokensFrom fuel rest)

/-- Cuts a text into tokens. -/
def tokens? (cs : List Char) : Option (List Token) := tokensFrom cs.length cs

/-! ## Values -/

/-- An array or an object that is still open; what it holds so far is in reverse. -/
inductive Frame where
  | array (items : List Json)
  /-- An object whose next value belongs to `name`. There are no fields once a name has been no
  text. -/
  | object (fields : Option (List (String × Json))) (name : Option String)
  deriving Repr

/-- What has to come next. -/
inductive Expected where
  | value
  /-- A value, or the end of the array that was just opened. -/
  | itemOrEnd
  /-- The name of a field of an object that holds these. -/
  | name (fields : Option (List (String × Json)))
  /-- The name of the first field, or the end of the object that was just opened. -/
  | nameOrEnd
  | colon (fields : Option (List (String × Json))) (name : Option String)
  /-- What may follow this value. -/
  | behind (value : Json)
  deriving Repr

/-- The value of a text. -/
def ofText (s : Option String) : Json := s.elim .unreadable .string

/-- How many arrays and objects may be open at once where a value is read. -/
def maxDepth : Nat := 127

/-- An array or an object that ends while `depth` others are open. -/
def ofDepth (depth : Nat) (value : Json) : Json := if depth < maxDepth then value else .unreadable

/-- The fields with one more in front. -/
def addField (fields : Option (List (String × Json))) (name : Option String) (value : Json) :
    Option (List (String × Json)) := do
  return (← name, value) :: (← fields)

/-- An object of fields that are in reverse. -/
def ofFields (fields : Option (List (String × Json))) : Json :=
  fields.elim .unreadable fun fields => .object fields.reverse

/-- Puts the tokens together, inside the `depth` frames that are open. -/
def build? (depth : Nat) : Expected → List Frame → List Token → Option Json
  | .behind value, [], [] => some value
  | .value, frames, .literal value :: rest => build? depth (.behind value) frames rest
  | .value, frames, .text s :: rest => build? depth (.behind (ofText s)) frames rest
  | .value, frames, .beginArray :: rest => build? depth .itemOrEnd frames rest
  | .value, frames, .beginObject :: rest => build? depth .nameOrEnd frames rest
  | .itemOrEnd, frames, .endArray :: rest =>
    build? depth (.behind (ofDepth depth (.array []))) frames rest
  | .itemOrEnd, frames, .literal value :: rest =>
    build? (depth + 1) (.behind value) (.array [] :: frames) rest
  | .itemOrEnd, frames, .text s :: rest =>
    build? (depth + 1) (.behind (ofText s)) (.array [] :: frames) rest
  | .itemOrEnd, frames, .beginArray :: rest =>
    build? (depth + 1) .itemOrEnd (.array [] :: frames) rest
  | .itemOrEnd, frames, .beginObject :: rest =>
    build? (depth + 1) .nameOrEnd (.array [] :: frames) rest
  | .name fields, frames, .text s :: rest => build? depth (.colon fields s) frames rest
  | .nameOrEnd, frames, .text s :: rest => build? depth (.colon (some []) s) frames rest
  | .nameOrEnd, frames, .endObject :: rest =>
    build? depth (.behind (ofDepth depth (.object []))) frames rest
  | .colon fields name, frames, .colon :: rest =>
    build? (depth + 1) .value (.object fields name :: frames) rest
  | .behind value, .array items :: frames, .comma :: rest =>
    build? depth .value (.array (value :: items) :: frames) rest
  | .behind value, .array items :: frames, .endArray :: rest =>
    build? (depth - 1) (.behind (ofDepth (depth - 1) (.array (value :: items).reverse))) frames rest
  | .behind value, .object fields name :: frames, .comma :: rest =>
    build? (depth - 1) (.name (addField fields name value)) frames rest
  | .behind value, .object fields name :: frames, .endObject :: rest =>
    build? (depth - 1) (.behind (ofDepth (depth - 1) (ofFields (addField fields name value))))
      frames rest
  | _, _, _ => none

/-- Reads a text. -/
def parse? (s : String) : Option Json := (tokens? s.toList).bind (build? 0 .value [])

end EvmProbe.Json
