import EvmProbe.Json.Fault
import EvmProbe.Json.Reader

/-!
Moving over the parts of a JSON text.

A cursor moves behind the part that it stands in front of, or reports the fault that stops it.
Where a part is read, its escapes have to make a text; where it is skipped, they only have to be
escapes.
-/

namespace EvmProbe.Json.Cursor

/-- Moves behind a byte of a text that has to come next. -/
def expect (c : Cursor) (char : Char) : Except Fault Cursor :=
  match c.peek? with
  | none => c.fault .endInText
  | some next => if next = char then .ok c.advance else c.advance.fault .halfPair

/-- Reads the four digits of an escape. -/
def unit (c : Cursor) : Except Fault (Nat × Cursor) :=
  match c.rest.take 4 |>.map fun byte => Char.ofNat byte.toNat with
  | [x, y, z, w] =>
    let behind := c.advance.advance.advance.advance
    match unit? x y z w with
    | some unit => .ok (unit, behind)
    | none => behind.fault .escape
  | _ => c.finish.fault .endInText

/-- Reads an escape from behind its backslash on. -/
def readEscape (c : Cursor) : Except Fault (Char × Cursor) := do
  match c.peek? with
  | none => c.fault .endInText
  | some 'u' =>
    let (unit, c) ← c.advance.unit
    if unit < 0xd800 ∨ 0xe000 ≤ unit then return (Char.ofNat unit, c)
    else if 0xdc00 ≤ unit then c.fault .loneSurrogate
    else
      let c ← c.expect '\\'
      let c ← c.expect 'u'
      let (low, c) ← c.unit
      if 0xdc00 ≤ low ∧ low < 0xe000 then return (Char.ofNat (pairValue unit low), c)
      else c.fault .loneSurrogate
  | some letter =>
    match unescape? letter with
    | some char => return (char, c.advance)
    | none => c.advance.fault .escape

/-- Moves behind an escape. -/
def skipEscape (c : Cursor) : Except Fault Cursor :=
  match c.peek? with
  | some 'u' => c.advance.unit.map (·.2)
  | _ => c.readEscape.map (·.2)

/-- Reads at most `fuel` characters of a text up to the closing quote; `content` has the bytes so
far in reverse. -/
def readTextFrom (fuel : Nat) (content : Bytes) (c : Cursor) : Except Fault (Bytes × Cursor) :=
  match fuel, c.rest with
  | _, [] | 0, _ => c.fault .endInText
  | fuel + 1, byte :: _ =>
    if byte = 0x22 then .ok (content.reverse, c.advance)
    else if byte = 0x5c then do
      let (char, c) ← c.advance.readEscape
      readTextFrom fuel ((String.utf8EncodeChar char).reverse ++ content) c
    else if byte < 0x20 then c.advance.fault .control
    else readTextFrom fuel (byte :: content) c.advance

/-- Reads a text from behind the opening quote on. -/
def readText (c : Cursor) : Except Fault (String × Cursor) := do
  let (content, behind) ← readTextFrom (c.rest.length + 1) [] c
  return ((String.fromUTF8? ⟨content.toArray⟩).getD "", behind)

/-- Skips at most `fuel` characters of a text up to the closing quote. -/
def skipTextFrom (fuel : Nat) (c : Cursor) : Except Fault Cursor :=
  match fuel, c.rest with
  | _, [] | 0, _ => c.fault .endInText
  | fuel + 1, byte :: _ =>
    if byte = 0x22 then .ok c.advance
    else if byte = 0x5c then do skipTextFrom fuel (← c.advance.skipEscape)
    else if byte < 0x20 then c.fault .control
    else skipTextFrom fuel c.advance

/-- Skips a text from behind the opening quote on. -/
def skipText (c : Cursor) : Except Fault Cursor := skipTextFrom (c.rest.length + 1) c

/-- The digits that come next, and what is behind them. -/
def digits (c : Cursor) : List Char × Cursor :=
  let isDigit := fun (byte : UInt8) => 48 ≤ byte && byte ≤ 57
  let found := c.rest.takeWhile isDigit
  (found.map fun byte => Char.ofNat byte.toNat,
    ⟨found.foldl Position.behind c.position, c.rest.dropWhile isDigit⟩)

/-- Whether a number is read or skipped. Of a number that is skipped, the end of the text is a
character that does not belong there. -/
inductive Purpose where
  | reading
  | skipping
  deriving DecidableEq, Repr

/-- The reason for a fault at the end of the text, or of another character. -/
def Purpose.reason (purpose : Purpose) (c : Cursor) : Reason :=
  if purpose = .reading ∧ c.rest.isEmpty then .endInValue else .number

/-- Reads the whole part of a number: no further digit follows a leading zero. -/
def whole (purpose : Purpose) (c : Cursor) : Except Fault (List Char × Cursor) :=
  match c.digits with
  | ([], _) => c.faultAhead (purpose.reason c)
  | ('0' :: _ :: _, _) => c.advance.faultAhead .number
  | found => .ok found

/-- Reads the fraction of a number, if it has one. -/
def fraction (purpose : Purpose) (c : Cursor) : Except Fault (List Char × Cursor) :=
  match c.peek? with
  | some '.' =>
    match c.advance.digits with
    | ([], behind) => behind.faultAhead (purpose.reason behind)
    | (digits, behind) => .ok ('.' :: digits, behind)
  | _ => .ok ([], c)

/-- Reads the exponent of a number, if it has one. -/
def exponent (purpose : Purpose) (c : Cursor) : Except Fault (List Char × Cursor) :=
  match c.peek? with
  | some 'e' | some 'E' =>
    let c := c.advance
    let (sign, c) := match c.peek? with
      | some '+' => (['+'], c.advance)
      | some '-' => (['-'], c.advance)
      | _ => ([], c)
    match c.digits with
    | ([], _) => c.faultAhead (purpose.reason c)
    | (digits, behind) => .ok ('e' :: sign ++ digits, behind)
  | _ => .ok ([], c)

/-- Reads a number. -/
def number (purpose : Purpose) (c : Cursor) : Except Fault (List Char × Cursor) := do
  let (sign, c) := if c.peek? = some '-' then (['-'], c.advance) else ([], c)
  let (whole, c) ← c.whole purpose
  let (fraction, c) ← c.fraction purpose
  let (exponent, c) ← c.exponent purpose
  return (sign ++ whole ++ fraction ++ exponent, c)

/-- Moves behind the letters of a word. -/
def word (c : Cursor) : List Char → Except Fault Cursor
  | [] => .ok c
  | letter :: rest =>
    match c.peek? with
    | none => c.fault .endInValue
    | some next => if next = letter then c.advance.word rest else c.advance.fault .noWord

/-- Moves behind the colon of a field. -/
def colon (c : Cursor) : Except Fault Cursor :=
  let c := c.skipBlanks
  match c.peek? with
  | none => c.fault .endInObject
  | some ':' => .ok c.advance
  | some _ => c.faultAhead .noColon

/-- An array or an object that is being skipped. -/
inductive Frame where
  | array
  | object
  deriving DecidableEq, Repr

namespace Frame

/-- The bracket that ends it. -/
def closing : Frame → Char
  | .array => ']'
  | .object => '\x7d'

/-- The reason for a fault if the text ends in it. -/
def endReason : Frame → Reason
  | .array => .endInArray
  | .object => .endInObject

/-- The reason for a fault if there is no comma in it. -/
def commaReason : Frame → Reason
  | .array => .noItemComma
  | .object => .noFieldComma

end Frame

/-- Moves behind the name of a field that is being skipped, and behind its colon. -/
def skipName (c : Cursor) : Except Fault Cursor := do
  let c := c.skipBlanks
  match c.peek? with
  | none => c.fault .endInObject
  | some '"' => (← c.advance.skipText).colon
  | some _ => c.faultAhead .noName

/-- Moves to the next value inside a frame. -/
def skipToValue (frame : Frame) (c : Cursor) : Except Fault Cursor :=
  match frame with
  | .array => .ok c
  | .object => c.skipName

mutual

/-- Skips a value inside the frames that are open; there are no more parts than `fuel`. -/
def skipFrom (fuel : Nat) (frames : List Frame) (c : Cursor) : Except Fault Cursor :=
  match fuel with
  | 0 => c.fault .noValue
  | fuel + 1 =>
    let c := c.skipBlanks
    match c.peek? with
    | none => c.fault .endInValue
    | some '[' => skipInside fuel false .array frames c.advance
    | some '\x7b' => skipInside fuel false .object frames c.advance
    | some first => do
      let behind ←
        if first = 'n' then c.advance.word ['u', 'l', 'l']
        else if first = 't' then c.advance.word ['r', 'u', 'e']
        else if first = 'f' then c.advance.word ['a', 'l', 's', 'e']
        else if first = '"' then c.advance.skipText
        else if first = '-' ∨ first.isDigit then (c.number .skipping).map (·.2)
        else c.faultAhead .noValue
      match frames with
      | [] => .ok behind
      | frame :: frames => skipInside fuel true frame frames behind

/-- Skips the rest of the innermost frame and of the others; a comma is in place behind a value. -/
def skipInside (fuel : Nat) (isBehindValue : Bool) (frame : Frame) (frames : List Frame)
    (c : Cursor) : Except Fault Cursor :=
  match fuel with
  | 0 => c.fault .noValue
  | fuel + 1 =>
    let c := c.skipBlanks
    match c.peek? with
    | none => c.fault frame.endReason
    | some next =>
      if next = frame.closing then
        match frames with
        | [] => .ok c.advance
        | outer :: frames => skipInside fuel true outer frames c.advance
      else if isBehindValue ∧ next ≠ ',' then c.faultAhead frame.commaReason
      else do
        let c ← skipToValue frame (if isBehindValue then c.advance else c)
        skipFrom fuel (frame :: frames) c

end

/-- Skips a value. -/
def skipValue (c : Cursor) : Except Fault Cursor := skipFrom (2 * c.rest.length + 1) [] c

end EvmProbe.Json.Cursor
