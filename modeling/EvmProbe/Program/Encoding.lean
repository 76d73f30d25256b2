import EvmProbe.Program.Layout
import EvmProbe.Program.Linking

/-!
Writing programs into a buffer.

`encodeInto` writes instructions at their offsets, into a buffer that holds the bytes from `base`
on.  It stops at the first instruction that cannot be written; what was written before stays, and
so does the opcode byte of an instruction whose operand is at fault.  `encodeProgram` lays out,
links and writes a program that starts at offset zero.

Offsets and sizes are numbers of 64 bits.  The end of an instruction may have more, as the sum of
the two; a program that has its sums checked does not report such an instruction, but panics.
-/

namespace EvmProbe.Encoding

/-- Why an instruction cannot be written. -/
inductive Error where
  /-- It was not laid out. -/
  | notPlaced (inst : Instruction)
  /-- It lies before the buffer. -/
  | beforeBase (inst : Instruction) (base : Nat)
  /-- It ends behind the buffer. -/
  | overflow (inst : Instruction) (offset : Nat)
  /-- The number of its end has more than 64 bits. This is a panic. -/
  | endOverflow (inst : Instruction) (offset : Nat)
  /-- It stands for raw bytes and has none. -/
  | noBytes (offset : Nat)
  /-- Its opcode takes immediate bytes and it has no operand. -/
  | noOperand (opcode : Opcode) (offset : Nat)
  /-- Its operand has no encoding of the width of the opcode. -/
  | operand (cause : Operand.EncodeError)
  deriving DecidableEq, Repr

/-- Whether nothing is reported, but the program panics. -/
def Error.isPanic : Error → Bool
  | .endOverflow .. => true
  | _ => false

/-- The wording of an error. -/
def Error.message : Error → String
  | .notPlaced inst => s!"{inst.text} has no offset"
  | .beforeBase inst base => s!"{inst.text} lies before {base}"
  | .overflow inst offset => s!"{inst.text} at {offset} overflows the output buffer"
  | .endOverflow .. => "attempt to add with overflow"
  | .noBytes offset => s!"data blob at {offset} has no bytes"
  | .noOperand opcode offset => s!"{opcode.text} at {offset} has no payload"
  | .operand cause => cause.message

/-- Overwrites the buffer with bytes from `position` on, as far as it reaches. -/
def write (buffer : Array UInt8) (position : Nat) : Bytes → Array UInt8
  | [] => buffer
  | byte :: rest => write (buffer.setIfInBounds position byte) (position + 1) rest

/-- The encoding of an instruction's operand. -/
def operandBytes (inst : Instruction) (offset : Nat) : Except Error Bytes :=
  match inst.operand with
  | none => .error (.noOperand inst.opcode offset)
  | some operand =>
    match operand.encode inst.opcode.width with
    | .ok bytes => .ok bytes
    | .error cause => .error (.operand cause)

/-- Writes an instruction that lies within the buffer, at `position`. -/
def writeInstruction (buffer : Array UInt8) (position offset : Nat) (inst : Instruction) :
    Array UInt8 × Except Error Unit :=
  match inst.opcode.toByte? with
  | none =>
    match inst.operand with
    | some (.bytes content) => (write buffer position content, .ok ())
    | _ => (buffer, .error (.noBytes offset))
  | some byte =>
    let buffer := write buffer position [byte]
    if inst.opcode.width = 0 then (buffer, .ok ())
    else match operandBytes inst offset with
      | .ok bytes => (write buffer (position + 1) bytes, .ok ())
      | .error cause => (buffer, .error cause)

/-- Writes one instruction. -/
def encodeOne (base : Nat) (buffer : Array UInt8) (inst : Instruction) :
    Array UInt8 × Except Error Unit :=
  match inst.offset with
  | none => (buffer, .error (.notPlaced inst))
  | some offset =>
    if offset < base then (buffer, .error (.beforeBase inst base))
    else if buffer.size < offset - base + inst.size then
      -- no buffer has `capacity 8` bytes, so that only an end behind it can have more bits
      if offset - base + inst.size < capacity 8 then (buffer, .error (.overflow inst offset))
      else (buffer, .error (.endOverflow inst offset))
    else writeInstruction buffer (offset - base) offset inst

end EvmProbe.Encoding

namespace EvmProbe

/-- Writes instructions in order, up to the first that cannot be written. -/
def encodeInto (base : Nat) (buffer : Array UInt8) :
    List Instruction → Array UInt8 × Except Encoding.Error Unit
  | [] => (buffer, .ok ())
  | inst :: rest =>
    match Encoding.encodeOne base buffer inst with
    | (buffer, .ok ()) => encodeInto base buffer rest
    | (buffer, .error cause) => (buffer, .error cause)

/-- Why a program has no code. -/
inductive ProgramError where
  | link (cause : Linking.Error)
  | encode (cause : Encoding.Error)
  deriving DecidableEq, Repr

/-- The wording of an error. -/
def ProgramError.message : ProgramError → String
  | .link cause => cause.message
  | .encode cause => cause.message

/-- Lays out, links and writes a program that starts at offset zero. The instructions come back as
far as they were laid out and linked. -/
def encodeProgram (code : List Instruction) : List Instruction × Except ProgramError Bytes :=
  let (placed, size) := layOut 0 code
  match link [placed] with
  | (groups, .error cause) => (groups.flatten, .error (.link cause))
  | (groups, .ok ()) =>
    match encodeInto 0 (Array.replicate size 0) groups.flatten with
    | (_, .error cause) => (groups.flatten, .error (.encode cause))
    | (buffer, .ok ()) => (groups.flatten, .ok buffer.toList)

end EvmProbe
