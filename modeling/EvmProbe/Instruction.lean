import EvmProbe.Label
import EvmProbe.Opcode

/-!
Instructions: the unit that listings, disassembly, layout and linking work on.

An instruction carries its opcode and operand, the label declared in front of it, the offset it was
decoded from, the offset it was laid out at, and the lexical scope it belongs to.
`Operand.encode` writes a resolved operand into the width its opcode asks for.
-/

namespace EvmProbe

/-- A lexical scope. Scopes are compared for equality only. -/
structure Scope where
  id : Nat
  deriving DecidableEq, Repr, Hashable, Inhabited

/-- The scope `n` places after `scope` in the order scopes are handed out. -/
def Scope.after (scope : Scope) (n : Nat) : Scope := ⟨scope.id + n⟩

/-- What follows an opcode. -/
inductive Operand where
  /-- Bytes, written behind zeros up to the width of the opcode. -/
  | bytes (content : Bytes)
  /-- A number, written most significant byte first. -/
  | int (value : Word)
  /-- A label, which linking replaces by the offset of its declaration. -/
  | label (target : Label)
  deriving DecidableEq, Repr, Inhabited

namespace Operand

/-- The text of an operand in listings. -/
def text : Operand → String
  | .bytes content => Hex.literal content
  | .int value => Hex.quantity value.toNat
  | .label target => target.text

/-- Why an operand cannot be encoded. -/
inductive EncodeError where
  /-- It needs more than `width` bytes. -/
  | tooWide (operand : Operand) (width : Nat)
  /-- It is a label that was not linked. -/
  | unresolved (label : Label)
  deriving DecidableEq, Repr

/-- The wording of an encoding error. -/
def EncodeError.message : EncodeError → String
  | .tooWide operand width => s!"payload {operand.text} does not fit in {width} bytes"
  | .unresolved target => s!"unresolved label {target.text}"

/-- The operand as exactly `width` bytes. -/
def encode (width : Nat) : Operand → Except EncodeError Bytes
  | .bytes content =>
    if content.length ≤ width then .ok (padLeft width content)
    else .error (.tooWide (.bytes content) width)
  | .int value =>
    if value.toNat < capacity width then .ok (bigEndian width value.toNat)
    else .error (.tooWide (.int value) width)
  | .label target => .error (.unresolved target)

/-- What is encoded has the width asked for. -/
theorem length_encode {width : Nat} {operand : Operand} {bytes : Bytes}
    (h : operand.encode width = .ok bytes) : bytes.length = width := by
  cases operand with
  | bytes b =>
    rw [encode] at h
    split at h
    · cases h; exact length_padLeft ‹_›
    · cases h
  | int v =>
    rw [encode] at h
    split at h
    · cases h; simp
    · cases h
  | label l => cases h

end Operand

/-- One instruction of a program. -/
structure Instruction where
  opcode : Opcode
  operand : Option Operand := none
  /-- The label declared at this instruction. -/
  label : Option Label := none
  /-- The offset the instruction was decoded from. -/
  source : Option Nat := none
  /-- The offset the instruction was laid out at. -/
  offset : Option Nat := none
  scope : Option Scope := none
  deriving DecidableEq, Repr, Inhabited

namespace Instruction

/-- An instruction without an operand. -/
def plain (opcode : Opcode) : Instruction := { opcode }

/-- A push of a number. -/
def pushInt (opcode : Opcode) (value : Nat) : Instruction :=
  { opcode, operand := some (.int (BitVec.ofNat 256 value)) }

/-- A push of given bytes. -/
def pushBytes (opcode : Opcode) (bytes : Bytes) : Instruction :=
  { opcode, operand := some (.bytes bytes) }

/-- A push of the offset of a label. -/
def pushLabel (opcode : Opcode) (label : Label) : Instruction :=
  { opcode, operand := some (.label label) }

/-- A run of raw bytes. -/
def data (bytes : Bytes) : Instruction := { opcode := .data, operand := some (.bytes bytes) }

/-- The instruction with a label declared in front of it. -/
def labelled (inst : Instruction) (label : Label) : Instruction :=
  { inst with label := some label }

/-- The instruction moved into a scope. -/
def inScope (inst : Instruction) (scope : Scope) : Instruction :=
  { inst with scope := some scope }

/-- The number of bytes the instruction is encoded in. -/
def size (inst : Instruction) : Nat :=
  match inst.opcode, inst.operand with
  | .data, some (.bytes content) => content.length
  | opcode, _ => opcode.size

/-- The opcode and its operand. -/
def text (inst : Instruction) : String :=
  match inst.operand with
  | none => inst.opcode.text
  | some operand => inst.opcode.text ++ " " ++ operand.text

end Instruction

/-- A copy of a fragment that belongs to a scope of its own. -/
def duplicate (scope : Scope) (code : List Instruction) : List Instruction :=
  code.map (·.inScope scope)

end EvmProbe
