import EvmProbe.Instruction

/-!
Named constants of assembler listings.

A listing may write `$KEY` for one of eight constants.  Every key has a shape, and binding a value
of another shape is refused.
-/

namespace EvmProbe

/-- The constants that a listing can name. -/
inductive Key where
  | hooksContractAddress
  | scratchMemLoc
  | fakeReturndataMemLoc
  | handleSpySstoreSelector
  | handleSpyLogSelector
  | handleSpyCallSelector
  | preambleSize
  | hookCallFailedError
  deriving DecidableEq, Repr

/-- The kinds of value a constant can have. -/
inductive Shape where
  | address
  | selector
  | integer
  | word
  deriving DecidableEq, Repr

namespace Shape

/-- The name of a shape in messages. -/
def name : Shape → String
  | .address => "Address"
  | .selector => "Selector"
  | .integer => "Integer"
  | .word => "Word"

end Shape

namespace Key

/-- The name of a constant, without the dollar sign. -/
def name : Key → String
  | .hooksContractAddress => "HOOKS_CONTRACT_ADDRESS"
  | .scratchMemLoc => "SCRATCH_MEM_LOC"
  | .fakeReturndataMemLoc => "FAKE_RETURNDATA_MEM_LOC"
  | .handleSpySstoreSelector => "HANDLE_SPY_SSTORE_SELECTOR"
  | .handleSpyLogSelector => "HANDLE_SPY_LOG_SELECTOR"
  | .handleSpyCallSelector => "HANDLE_SPY_CALL_SELECTOR"
  | .preambleSize => "PREAMBLE_SIZE"
  | .hookCallFailedError => "HOOK_CALL_FAILED_ERROR"

/-- Every constant. -/
def all : List Key :=
  [.hooksContractAddress, .scratchMemLoc, .fakeReturndataMemLoc, .handleSpySstoreSelector,
    .handleSpyLogSelector, .handleSpyCallSelector, .preambleSize, .hookCallFailedError]

/-- The constant of a name. -/
def ofName? (name : String) : Option Key := all.find? (·.name == name)

/-- The shape a constant's value must have. -/
def shape : Key → Shape
  | .hooksContractAddress => .address
  | .scratchMemLoc | .fakeReturndataMemLoc | .preambleSize => .integer
  | .handleSpySstoreSelector | .handleSpyLogSelector | .handleSpyCallSelector => .selector
  | .hookCallFailedError => .word

end Key

namespace Environment

/-- A value of a constant. -/
inductive Value where
  | address (bits : Address)
  | selector (bits : Selector)
  | integer (bits : Word)
  | word (bits : Word)
  deriving DecidableEq, Repr

namespace Value

/-- The shape of a value. -/
def shape : Value → Shape
  | .address _ => .address
  | .selector _ => .selector
  | .integer _ => .integer
  | .word _ => .word

/-- The operand a push of the value gets: integers shrink to what they need, the other shapes keep
all their bytes. -/
def operand : Value → Operand
  | .address bits => .bytes (wordBytes bits)
  | .selector bits => .bytes (wordBytes bits)
  | .integer bits => .int bits
  | .word bits => .bytes (wordBytes bits)

end Value

end Environment

/-- The values of the constants that are bound. -/
structure Environment where
  get? : Key → Option Environment.Value

namespace Environment

/-- No constant is bound. -/
def empty : Environment := ⟨fun _ => none⟩

/-- Binds a constant, whatever the shape of the value. -/
def insert (env : Environment) (key : Key) (value : Value) : Environment :=
  ⟨fun k => if k = key then some value else env.get? k⟩

/-- Where hook fragments put calldata together. -/
def scratchMemLoc : Nat := 0x8000

/-- Where the return data of the program's last call is kept. -/
def fakeReturndataMemLoc : Nat := 0xa000

/-- The size of the code in front of the deployed code in an image. -/
def preambleSize : Nat := 5

/-- What an image reverts with when its hook fails: the text "hook call failed", padded with zeros
on the right. -/
def hookCallFailed : Word :=
  0x686f6f6b2063616c6c206661696c656400000000000000000000000000000000

/-- The memory layout and the failure text. -/
def defaults : Environment :=
  (((empty.insert .scratchMemLoc (.integer (BitVec.ofNat 256 scratchMemLoc))).insert
    .fakeReturndataMemLoc (.integer (BitVec.ofNat 256 fakeReturndataMemLoc))).insert
    .preambleSize (.integer (BitVec.ofNat 256 preambleSize))).insert
    .hookCallFailedError (.word hookCallFailed)

/-- A value of the wrong shape was bound. -/
structure ShapeMismatch where
  key : Key
  got : Shape
  deriving DecidableEq, Repr

/-- The wording of a mismatch. -/
def ShapeMismatch.message (e : ShapeMismatch) : String :=
  s!"{e.key.name} expects a value of shape {e.key.shape.name}, got {e.got.name}"

/-- Binds a constant to a value of its shape. -/
def bind (env : Environment) (key : Key) (value : Value) : Except ShapeMismatch Environment :=
  if key.shape = value.shape then .ok (env.insert key value) else .error ⟨key, value.shape⟩

/-- Why a name has no operand. -/
inductive LookupError where
  /-- No constant has this name. -/
  | unknown (name : String)
  /-- The constant is not bound. -/
  | unbound (key : Key)
  deriving DecidableEq, Repr

/-- The wording of a failed look-up. -/
def LookupError.message : LookupError → String
  | .unknown name => s!"unknown environment key ${name}"
  | .unbound key => s!"${key.name} is undefined"

/-- The operand of a bound constant. -/
def operand (env : Environment) (key : Key) : Except LookupError Operand :=
  match env.get? key with
  | some value => .ok value.operand
  | none => .error (.unbound key)

/-- The constant that a listing names. -/
def keyNamed (name : String) : Except LookupError Key :=
  match Key.ofName? name with
  | some key => .ok key
  | none => .error (.unknown name)

/-- The operand of a constant given by name. -/
def lookup (env : Environment) (name : String) : Except LookupError Operand := do
  env.operand (← keyNamed name)

end Environment

end EvmProbe
