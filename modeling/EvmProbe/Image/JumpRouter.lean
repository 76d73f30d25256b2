import EvmProbe.Image.Runtime

/-!
The router from offsets of the deployed code to the runtime.

The router is entered with a destination on the stack.  It compares the destination with the
offset of every JUMPDEST of the program in turn, drops it before it jumps, and stops at INVALID if
none is equal.
-/

namespace EvmProbe.Image

/-- The offsets of the program's JUMPDESTs, as the runtime shows them. -/
def destinations (runtime : List Instruction) : List Nat :=
  runtime.filterMap fun inst => if inst.opcode = .jumpdest then inst.source else none

/-- The label behind the test for a destination. -/
def nextLabel (destination : Nat) : Label := .lexical s!"next-{destination}"

/-- The test for one destination. -/
def jumpCase (destination : Nat) : List Instruction :=
  [.plain (.dupN 1),
    .pushInt (.pushN 3) destination,
    .plain .eq,
    .plain .iszero,
    .pushLabel (.pushN 3) (nextLabel destination),
    .plain .jumpi,
    .plain .pop,
    .pushLabel (.pushN 3) (jumpLabel destination),
    .plain .jump,
    (Instruction.plain .jumpdest).labelled (nextLabel destination)]

/-- The router of a runtime. -/
def jumpRouter (scope : Scope) (runtime : List Instruction) : List Instruction :=
  duplicate scope <|
    (Instruction.plain .jumpdest).labelled (.global "jump-router") ::
      (destinations runtime).flatMap jumpCase ++ [.plain .invalid]

end EvmProbe.Image
