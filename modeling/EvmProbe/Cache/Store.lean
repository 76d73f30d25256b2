import EvmProbe.Files.Operations
import EvmProbe.Files.Path
import EvmProbe.Json.Reader
import EvmProbe.Json.Reading

/-!
A cache of labelled values in files.

Every value is kept in a file of its own, together with the last second at which it is valid.  A
file that has expired, or that cannot be read as a value, is removed when it is loaded.
-/

namespace EvmProbe

/-- How values of a type are written as JSON and read back. -/
structure JsonForm (α : Type) where
  write : α → Json
  read : Json → Option α
  /-- What it means that there is no value at all, if it means anything. -/
  absent : Option α := none

namespace JsonForm

/-- Byte strings. -/
def bytes : JsonForm Bytes where
  write := .ofBytes
  read := Json.bytes?

/-- Numbers of 64 bits. -/
def natural : JsonForm Nat where
  write := .ofNat
  read := Json.natural? Text.limit64

/-- Texts. -/
def text : JsonForm String where
  write := .string
  read := Json.text?

/-- Values that may be missing. -/
def optional {α : Type} (form : JsonForm α) : JsonForm (Option α) where
  write value := (value.map form.write).getD .null
  read j := Json.optional? form.read (some j)
  absent := some none

/-- Lists of values. -/
def list {α : Type} (form : JsonForm α) : JsonForm (List α) where
  write values := .array (values.map form.write)
  read := Json.list? form.read

end JsonForm

/-- A value with the last second at which it is valid. -/
structure Expiring (α : Type) where
  value : α
  expiry : Nat
  deriving DecidableEq, Repr

namespace Expiring

variable {α : Type}

/-- The names of the fields. -/
def fieldNames : List String := ["data", "expires_at"]

/-- As JSON. -/
def toJson (form : JsonForm α) (entry : Expiring α) : Json :=
  .object (fieldNames.zip [form.write entry.value, .ofNat entry.expiry])

/-- From JSON. -/
def ofJson? (form : JsonForm α) (j : Json) : Option (Expiring α) := do
  let fields ← j.record? fieldNames
  return {
    value := ← (fields.lookup "data").elim form.absent form.read
    expiry := ← Json.required? (Json.natural? Text.limit64) fields "expires_at" }

/-- Whether the value is valid at a second. -/
def isValid (entry : Expiring α) (now : Nat) : Bool := now ≤ entry.expiry

/-- The last second of 64 bits. -/
def never : Nat := Text.limit64 - 1

/-- When a value expires that is kept from now on; without a lifetime it never does. -/
def expiryOf (lifetime : Option Nat) (now : Nat) : Nat :=
  lifetime.elim never fun seconds => min (seconds + now) never

end Expiring

/-- A cache. Without a directory it keeps nothing. -/
structure Cache where
  directory : Option String := none
  /-- For how many seconds a value is valid. -/
  lifetime : Option Nat := none
  deriving DecidableEq, Repr

namespace Cache

/-- The file of a label. -/
def file (directory label : String) : String := Path.join directory (label ++ ".json")

section

variable {m : Type → Type} [Monad m] {α : Type}

/-- A cache in a directory, which is created if it is not there. -/
def openAt (files : Files m) (directory : Option String) (lifetime : Option Nat) :
    m (Except FileError Cache) := do
  match directory with
  | none => return .ok ⟨none, lifetime⟩
  | some path =>
    match ← files.createDirectories path with
    | .error cause => return .error cause
    | .ok () => return .ok ⟨some path, lifetime⟩

/-- The value of a label, if it has a valid one. -/
def load (files : Files m) (cache : Cache) (form : JsonForm α) (now : Nat) (label : String) :
    m (Option α) := do
  match cache.directory with
  | none => return none
  | some directory =>
    let path := file directory label
    if !(← files.isPresent path) then return none
    match ← files.read path with
    | .error _ => return none
    | .ok content =>
      match (Json.parse? content).bind (Expiring.ofJson? form) with
      | some entry =>
        if entry.isValid now then return some entry.value
        else
          let _ ← files.remove path
          return none
      | none =>
        let _ ← files.remove path
        return none

/-- Keeps a value. -/
def save (files : Files m) (cache : Cache) (form : JsonForm α) (now : Nat) (label : String)
    (value : α) : m (Except FileError Unit) := do
  match cache.directory with
  | none => return .ok ()
  | some directory =>
    let entry : Expiring α := ⟨value, Expiring.expiryOf cache.lifetime now⟩
    files.write (file directory label) (entry.toJson form).compact

end

end Cache

end EvmProbe
