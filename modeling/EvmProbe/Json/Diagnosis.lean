import EvmProbe.Json.Scanning
import EvmProbe.Text.Numeral
import EvmProbe.Text.Quoted

/-!
Finding out where a text stops being what was asked for.

A check moves a cursor behind a value of the kind that it stands for, and otherwise reports the
first fault.  Values are checked while the text is being read, so that a value of the wrong kind is
reported before a fault of the text behind it.
-/

namespace EvmProbe.Json

/-- A check of a value. -/
abbrev Check := Cursor → Except Fault Cursor

namespace Cursor

/-- The kind of a value that is no text, with the text of an integer. Other numbers are named by
`other`. -/
def numberKind (literal : List Char) (other : String) : String :=
  match literal with
  | '-' :: digits =>
    match Text.readNumeral 10 (Text.limit64 / 2 + 1) digits with
    | .ok 0 => "integer `0`"
    | .ok n => s!"integer `-{n}`"
    | .error _ => other
  | digits =>
    match Text.readNumeral 10 Text.limit64 digits with
    | .ok n => s!"integer `{n}`"
    | .error _ => other

/-- The kind of a text. -/
def textKind (s : String) : String := "string " ++ Text.Quoted.encode s.toList

/-- The fault of a value that is not of the kind that was asked for. -/
def kindFault {α : Type} (c : Cursor) (wanted : String) : Except Fault α := do
  match c.peek? with
  | none => c.fault .endInValue
  | some 'n' => (← c.advance.word ['u', 'l', 'l']).fault (.kind "null" wanted)
  | some 't' => (← c.advance.word ['r', 'u', 'e']).fault (.kind "boolean `true`" wanted)
  | some 'f' => (← c.advance.word ['a', 'l', 's', 'e']).fault (.kind "boolean `false`" wanted)
  | some '"' =>
    let (s, c) ← c.advance.readText
    c.fault (.kind (textKind s) wanted)
  | some '[' => c.fault (.kind "sequence" wanted)
  | some '\x7b' => c.fault (.kind "map" wanted)
  | some first =>
    if first = '-' ∨ first.isDigit then
      let (literal, c) ← c.number .reading
      c.fault (.kind (numberKind literal "number") wanted)
    else c.faultAhead .noValue

/-- Where a record that is given up is left: behind its end if that comes next. -/
def leave (closing : Char) (c : Cursor) : Cursor :=
  let c := c.skipBlanks
  if c.peek? = some closing then c.advance else c

/-- Moves behind the end of an array. -/
def endArray (c : Cursor) : Except Fault Cursor :=
  let c := c.skipBlanks
  match c.peek? with
  | none => c.fault .endInArray
  | some ']' => .ok c.advance
  | some ',' =>
    let c := c.advance.skipBlanks
    c.faultAhead (if c.peek? = some ']' then .trailingComma else .trailingText)
  | some _ => c.faultAhead .trailingText

/-- Moves to the next item of an array, if there is one. -/
def item? (isFirst : Bool) (c : Cursor) : Except Fault (Option Cursor) :=
  let c := c.skipBlanks
  match c.peek? with
  | none => c.fault .endInArray
  | some ']' => .ok none
  | some next =>
    if isFirst then .ok (some c)
    else if next ≠ ',' then c.faultAhead .noItemComma
    else
      let c := c.advance.skipBlanks
      match c.peek? with
      | none => c.fault .endInValue
      | some ']' => c.faultAhead .trailingComma
      | some _ => .ok (some c)

/-- Reads the name of the next field of an object, if there is one. -/
def name? (isFirst : Bool) (c : Cursor) : Except Fault (Option (String × Cursor)) := do
  let c := c.skipBlanks
  match c.peek? with
  | none => c.fault .endInObject
  | some '\x7d' => return none
  | some next =>
    if !isFirst ∧ next ≠ ',' then c.faultAhead .noFieldComma
    else
      let c := if isFirst then c else c.advance.skipBlanks
      match c.peek? with
      | none => c.fault .endInValue
      | some '"' => return some (← c.advance.readText)
      | some '\x7d' => c.faultAhead .trailingComma
      | some _ => c.faultAhead .noName

end Cursor

namespace Check

/-- A text. -/
def text : Check := fun c => do
  let c := c.skipBlanks
  if c.peek? = some '"' then return (← c.advance.readText).2 else c.kindFault "a string"

/-- A value or null. -/
def optional (check : Check) : Check := fun c =>
  let c := c.skipBlanks
  if c.peek? = some 'n' then c.advance.word ['u', 'l', 'l'] else check c

/-- At most `fuel` items of an array. -/
def itemsFrom (fuel : Nat) (isFirst : Bool) (check : Check) (c : Cursor) : Except Fault Cursor :=
  match fuel with
  | 0 => .ok c
  | fuel + 1 => do
    match ← c.item? isFirst with
    | none => return c
    | some c => itemsFrom fuel false check (← check c)

/-- The items of an array, from behind its opening bracket on. -/
def items (check : Check) : Check := fun c => do
  (← itemsFrom (c.rest.length + 1) true check c).endArray

/-- An array of values. -/
def list (check : Check) : Check := fun c =>
  let c := c.skipBlanks
  if c.peek? = some '[' then items check c.advance else c.kindFault "a sequence"

/-- A number of eight bits. -/
def byte : Check := fun c => do
  let c := c.skipBlanks
  if c.peek?.any fun first => first = '-' || first.isDigit then
    let (literal, c) ← c.number .reading
    match Text.readNumeral 10 256 literal with
    | .ok _ => return c
    | .error _ =>
      let isInteger := literal.all fun digit => digit = '-' || digit.isDigit
      let kind := Cursor.numberKind literal s!"floating point `{String.ofList literal}`"
      c.fault (if isInteger then .value kind "u8" else .kind kind "u8")
  else c.kindFault "u8"

/-- A kind of values that are written as texts, and some of them also as numbers or arrays. -/
structure Scalar where
  wanted : String
  /-- The fault of a text, if it has one. -/
  text? : String → Option Reason
  /-- The first number that is too large; numbers of more than 64 bits always are. -/
  limit : Nat := 0
  /-- What comes behind the opening bracket of an array. -/
  array? : Option Check := none

/-- The fault of a number that is no scalar. -/
def Scalar.numberFault (scalar : Scalar) (literal : List Char) : Reason :=
  let kind := Cursor.numberKind literal "map"
  if scalar.limit ≠ 0 ∧ (Text.readNumeral 10 Text.limit64 literal).isOk then
    .value kind scalar.wanted
  else .kind kind scalar.wanted

/-- A scalar. -/
def ofScalar (scalar : Scalar) : Check := fun c => do
  let c := c.skipBlanks
  match c.peek?, scalar.array? with
  | some '"', _ =>
    let (s, c) ← c.advance.readText
    (scalar.text? s).elim (.ok c) c.fault
  | some '[', some inside => inside c.advance
  | some '[', none => (c.advance.leave ']').fault (.kind "sequence" scalar.wanted)
  | some '\x7b', _ => (c.advance.leave '\x7d').fault (.kind "map" scalar.wanted)
  | some first, _ =>
    if first = '-' ∨ first.isDigit then
      let (literal, c) ← c.number .reading
      match Text.readNumeral 10 (min scalar.limit Text.limit64) literal with
      | .ok _ => return c
      | .error _ => c.fault (scalar.numberFault literal)
    else c.kindFault scalar.wanted
  | none, _ => c.fault .endInValue

/-- A byte string. -/
def bytes : Check := ofScalar {
  wanted := "a variable number of bytes represented as a hex string, an array of u8, or raw bytes"
  text? := fun s =>
    match Hex.decode s.toList with
    | .ok _ => none
    | .error _ => some (.value (Cursor.textKind s) "a valid hex string")
  array? := some (items byte) }

/-- As many bytes of an array as are left, from the one at `index` on. One more item is only in
place if it is no byte, and it is passed over if it is neither an array nor an object. -/
def exactBytes (wanted : String) (index : Nat) : Nat → Check
  | 0, c => do
    match ← c.item? (index = 0) with
    | none => c.endArray
    | some extra =>
      match byte extra with
      | .ok c => (c.leave ']').fault (.length (index + 1) wanted)
      | .error _ =>
        if extra.peek? = some '[' ∨ extra.peek? = some '\x7b' then extra.endArray
        else (← extra.skipValue).endArray
  | count + 1, c => do
    match ← c.item? (index = 0) with
    | none => (c.leave ']').fault (.length index wanted)
    | some c => exactBytes wanted (index + 1) count (← byte c)

/-- Why a text is not `size` bytes. -/
def bitsFault (size : Nat) (s : String) : Option Reason :=
  let isOtherSize := (Hex.stripMarker (Hex.textBytes s.toList)).length ≠ 2 * size
  match Hex.decode s.toList with
  | .error .oddLength => some (.digits Hex.Fault.oddLength.message)
  | .error fault => some (.digits (if isOtherSize then "invalid string length" else fault.message))
  | .ok _ => if isOtherSize then some (.digits "invalid string length") else none

/-- A byte string of a given size. -/
def bits (size : Nat) : Check := ofScalar {
  wanted :=
    s!"{size} bytes, represented as a hex string of length {2 * size}, an array of u8, or raw bytes"
  text? := bitsFault size
  array? := some (exactBytes s!"exactly {size} bytes" 0 size) }

/-- A number of `size` bytes. -/
def quantity (size : Nat) : Check :=
  let wanted := s!"a {size} byte hex string"
  ofScalar {
    wanted
    text? := fun s =>
      match Text.readMarked (capacity size) s.toList with
      | .ok _ => none
      | .error _ => some (.value (Cursor.textKind s) wanted)
    limit := capacity size }

/-- A field of a record, by its name. -/
structure Field where
  name : String
  check : Check
  isRequired : Bool := true

/-- What a record is called, and its fields in order. -/
structure Layout where
  name : String
  fields : List Field

/-- At most `fuel` fields of an object; `seen` are the names that have been read. -/
def fieldsFrom (fuel : Nat) (layout : Layout) (seen : List String) (isFirst : Bool) (c : Cursor) :
    Except Fault Cursor :=
  match fuel with
  | 0 => .ok c
  | fuel + 1 => do
    match ← c.name? isFirst with
    | none =>
      let behind := c.leave '\x7d'
      match layout.fields.find? fun field => field.isRequired && !seen.contains field.name with
      | some field => behind.fault (.missingField field.name)
      | none => return behind
    | some (name, c) =>
      match layout.fields.find? (·.name == name) with
      | none => fieldsFrom fuel layout seen false (← (← c.colon).skipValue)
      | some field =>
        if seen.contains name then (c.leave '\x7d').fault (.repeatedField name)
        else fieldsFrom fuel layout (name :: seen) false (← field.check (← c.colon))

/-- How many elements a record has. -/
def Layout.size (layout : Layout) : String :=
  let count := layout.fields.length
  s!"struct {layout.name} with {count} element" ++ if count = 1 then "" else "s"

/-- The items of a record that is an array; `index` are behind it. -/
def recordItems (layout : Layout) (index : Nat) : List Field → Check
  | [], c => c.endArray
  | field :: fields, c => do
    match ← c.item? (index = 0) with
    | some c => recordItems layout (index + 1) fields (← field.check c)
    | none =>
      if field.isRequired then (c.leave ']').fault (.length index layout.size)
      else recordItems layout (index + 1) fields c

/-- A record that is an object. -/
def object (layout : Layout) : Check := fun c =>
  let c := c.skipBlanks
  if c.peek? = some '\x7b' then fieldsFrom (c.rest.length + 1) layout [] true c.advance
  else c.kindFault s!"struct {layout.name}"

/-- A record: an object, or an array of the values of its fields. -/
def record (layout : Layout) : Check := fun c =>
  let c := c.skipBlanks
  if c.peek? = some '[' then recordItems layout 0 layout.fields c.advance else object layout c

/-- At most `fuel` entries of an object with values of one kind. -/
def entriesFrom (fuel : Nat) (check : Check) (isFirst : Bool) (c : Cursor) :
    Except Fault Cursor :=
  match fuel with
  | 0 => .ok c
  | fuel + 1 => do
    match ← c.name? isFirst with
    | none => return c.leave '\x7d'
    | some (_, c) => entriesFrom fuel check false (← check (← c.colon))

/-- An object with values of one kind. -/
def entries (check : Check) : Check := fun c =>
  let c := c.skipBlanks
  if c.peek? = some '\x7b' then entriesFrom (c.rest.length + 1) check true c.advance
  else c.kindFault "a map"

/-- The first fault of a text that has to be a value and nothing else. -/
def fault? (check : Check) (text : String) : Option Fault :=
  match check (Cursor.start text) with
  | .error fault => some fault
  | .ok c =>
    let c := c.skipBlanks
    if c.rest.isEmpty then none else some ⟨.trailingText, c.advance.position⟩

end Check

end EvmProbe.Json
