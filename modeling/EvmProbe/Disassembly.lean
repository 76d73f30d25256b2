import EvmProbe.Instruction

/-!
Decoding deployed code into instructions.

Decoding sweeps the code from offset zero, each opcode taking its immediate bytes along.  A scope
is open at the start; it closes behind a terminator, and a JUMPDEST behind a closed scope opens the
next one.  Any other byte behind a closed scope cannot be reached: the sweep stops there.  It also
stops at a push whose immediate bytes run past the end, and then the open scope is dropped.
-/

namespace EvmProbe.Disassembly

/-- The instruction at `offset` of an opcode and the bytes behind it. -/
def decode (scope : Scope) (offset : Nat) (opcode : Opcode) (behind : Bytes) : Instruction where
  opcode := opcode
  operand := if opcode.width = 0 then none else some (.bytes (behind.take opcode.width))
  source := some offset
  scope := some scope

/-- Sweeps code from `offset` on, over `skip` immediate bytes first. `isOpen` tells whether the
scope `scope` is open.  The answer is the instructions of all scopes that are completed from here
on, or nothing if the open scope is not completed. -/
def sweep : (isOpen : Bool) → (scope : Scope) → (offset : Nat) → (skip : Nat) → Bytes →
    Option (List Instruction)
  | _, _, _, _, [] => some []
  | isOpen, scope, offset, skip + 1, _ :: rest => sweep isOpen scope (offset + 1) skip rest
  | isOpen, scope, offset, 0, byte :: rest =>
    let opcode := Opcode.ofByte byte
    if !isOpen && opcode != .jumpdest then some []
    else if (rest.take opcode.width).length < opcode.width then none
    else
      let inst := decode scope offset opcode rest
      if opcode.isTerminator then
        some (inst :: (sweep false (scope.after 1) (offset + 1) opcode.width rest).getD [])
      else (sweep true scope (offset + 1) opcode.width rest).map (inst :: ·)

end EvmProbe.Disassembly

namespace EvmProbe

/-- The instructions of deployed code; scopes are handed out from `scope` on. -/
def disassemble (scope : Scope) (code : Bytes) : List Instruction :=
  (Disassembly.sweep true scope 0 0 code).getD []

/-- The number of scopes that decoding may hand out. -/
def scopesOf (code : List Instruction) : Nat :=
  code.countP (·.opcode.isTerminator) + 1

end EvmProbe
