import EvmProbe.Json.Value
import EvmProbe.Text.Numeral

/-!
Reading values of a known kind from JSON.

A record may be written as an object or as an array of its values in order.  Of an object, unknown
fields are ignored and a known field may not be repeated.

Some objects are read as a whole before their fields are looked at, unknown ones included.  What
their fields hold is come by in another way than what is read item by item, and arrays of bytes can
tell the two ways apart.
-/

namespace EvmProbe.Json

/-- A text. -/
def text? : Json → Option String
  | .string s => some s
  | _ => none

/-- A truth value. -/
def bool? : Json → Option Bool
  | .bool b => some b
  | _ => none

/-- A natural number below a limit, written as a number. -/
def natural? (limit : Nat) : Json → Option Nat
  | .number literal =>
    match literal.toList with
    | '-' :: _ => none
    | cs => (Text.readNumeral 10 limit cs).toOption
  | _ => none

/-- The items of an array. -/
def list? {α : Type} (read : Json → Option α) : Json → Option (List α)
  | .array items => items.mapM read
  | _ => none

/-- A number of eight bits. -/
def byte? (j : Json) : Option UInt8 := (j.natural? 256).map UInt8.ofNat

/-- A byte string: hex digits, or an array of numbers. -/
def bytes? : Json → Option Bytes
  | .string s => (Hex.decode s.toList).toOption
  | j => j.list? byte?

/-- How a value is come by. -/
inductive Access where
  /-- It is read item by item. -/
  | direct
  /-- It is part of a value that was read as a whole. -/
  | whole
  deriving DecidableEq, Repr

/-- Whether a value is passed over by a search for one more byte. Of values that are read item by
item, arrays and objects are not. -/
def isPassedOver (access : Access) (j : Json) : Bool :=
  j.byte?.isNone && match access, j with
    | .direct, .array _ | .direct, .object _ | _, .unreadable => false
    | _, _ => true

/-- The bytes of an array of exactly `size` of them. One more item does no harm if it is no byte. -/
def exactBytes? (access : Access) (size : Nat) (items : List Json) : Option Bytes := do
  let content ← (items.take size).mapM byte?
  let isComplete : Bool := match items.drop size with
    | [] => true
    | [extra] => isPassedOver access extra
    | _ => false
  if content.length = size ∧ isComplete then some content else none

/-- A byte string of a given size. -/
def bits? (access : Access) (size : Nat) (j : Json) : Option (BitVec (8 * size)) := do
  let content ← match j with
    | .array items => exactBytes? access size items
    | j => j.bytes?
  if content.length = size then some (BitVec.ofNat _ (ofBigEndian content)) else none

/-- An address. -/
def address? (access : Access) : Json → Option Address := bits? access 20

/-- A hash. -/
def hash? (access : Access) : Json → Option Word := bits? access 32

/-- A number below a limit: a number, or a text in the notation of numerals with a marker. -/
def quantity? (limit : Nat) : Json → Option Nat
  | .string s => (Text.readMarked limit s.toList).toOption
  | j => (j.natural? Text.limit64).filter (· < limit)

/-- A number of 64 bits. -/
def quantity64? : Json → Option Nat := quantity? (capacity 8)

/-- A number of 128 bits. -/
def quantity128? : Json → Option Nat := quantity? (capacity 16)

/-- A word. -/
def word? (j : Json) : Option Word := (j.quantity? (capacity 32)).map (BitVec.ofNat 256)

/-- A value that may be absent or null. -/
def optional? {α : Type} (read : Json → Option α) : Option Json → Option (Option α)
  | none => some none
  | some .null => some none
  | some j => (read j).map some

/-- Whether none of the names is the name of two fields. -/
def unrepeated (names : List String) (fields : List (String × Json)) : Bool :=
  names.all fun name => (fields.filter (·.1 == name)).length ≤ 1

/-- The fields of an object in which none of the names is repeated. -/
def object? (names : List String) : Json → Option (List (String × Json))
  | .object fields => if unrepeated names fields then some fields else none
  | _ => none

/-- The fields of an object that is read as a whole but for the fields of some names. -/
def wholeObject? (names direct : List String) (j : Json) : Option (List (String × Json)) := do
  let fields ← j.object? names
  if fields.all fun (name, value) => direct.contains name || value.isReadable
  then some fields else none

/-- The fields of a record. -/
def record? (names : List String) : Json → Option (List (String × Json))
  | .array items => if items.length ≤ names.length then some (names.zip items) else none
  | j => j.object? names

/-- The value of a field that has to be there. -/
def required? {α : Type} (read : Json → Option α) (fields : List (String × Json)) (name : String) :
    Option α :=
  (fields.lookup name).bind read

/-- The value of a field that has to be there but may be null. -/
def nullable? {α : Type} (read : Json → Option α) (fields : List (String × Json)) (name : String) :
    Option (Option α) :=
  (fields.lookup name).bind fun j => optional? read (some j)

/-- The value of a field that may be absent or null. -/
def allowed? {α : Type} (read : Json → Option α) (fields : List (String × Json)) (name : String) :
    Option (Option α) :=
  optional? read (fields.lookup name)

end EvmProbe.Json
