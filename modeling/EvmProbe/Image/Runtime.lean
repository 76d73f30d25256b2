import EvmProbe.Disassembly
import EvmProbe.Fragment.Assembled

/-!
The instrumented copy of a program.

`runtime` starts with the JUMPDEST that the preamble enters, replaces every instruction of the
decoded program by its expansion, and ends with a STOP, so that falling off the end of the program
does not run into the routines behind it.
-/

namespace EvmProbe.Image

/-- What a runtime depends on, beside the program. -/
structure Settings where
  /-- What ORIGIN reports. -/
  origin : Address := 0
  /-- Only logs are reported. -/
  logsOnly : Bool := false
  deriving Repr

/-- The label of the instruction that a JUMPDEST at `offset` of the deployed code became. -/
def jumpLabel (offset : Nat) : Label := .global s!"__jump__{offset}__"

/-- The fragment that takes the place of an opcode in every mode. -/
def alwaysReplaced? : Opcode → Option Fragment
  | .jump => some .jumpPatch
  | .jumpi => some .jumpiPatch
  | .codecopy => some .codecopyPatch
  | .extcodesize => some .extcodesizePatch
  | .extcodehash => some .extcodehashPatch
  | .extcodecopy => some .extcodecopyPatch
  | _ => none

/-- The fragment that takes the place of an opcode unless only logs are reported. -/
def hookReplaced? : Opcode → Option Fragment
  | .call => some .callPatch
  | .callcode => some .callcodePatch
  | .delegatecall => some .delegatecallPatch
  | .staticcall => some .staticcallPatch
  | .returndatasize => some .returndatasizePatch
  | .returndatacopy => some .returndatacopyPatch
  | _ => none

/-- The fragment that takes the place of an opcode. -/
def replaced? (logsOnly : Bool) (opcode : Opcode) : Option Fragment :=
  match alwaysReplaced? opcode with
  | some fragment => some fragment
  | none => if logsOnly then none else hookReplaced? opcode

/-- The expansion of one instruction of a program of `size` bytes. A fragment in it belongs to
`scope`. -/
def expand (settings : Settings) (fragments : Fragments) (size : Nat) (scope : Scope)
    (inst : Instruction) : List Instruction :=
  let offset := inst.source.getD 0
  match replaced? settings.logsOnly inst.opcode with
  | some fragment => duplicate scope (fragments.get fragment)
  | none =>
    match inst.opcode with
    | .pc => [.pushInt (.pushN 3) offset]
    | .codesize => [.pushInt (.pushN 3) size]
    | .origin => [.pushBytes (.pushN 20) (wordBytes settings.origin)]
    | .jumpdest => [inst.labelled (jumpLabel offset)]
    | .log topics =>
      .pushInt (.pushN 1) topics.val :: duplicate scope (fragments.get .logPatch) ++ [inst]
    | .sstore =>
      if settings.logsOnly then [inst] else duplicate scope (fragments.get .sstorePatch) ++ [inst]
    | _ => [inst]

/-- The entry of the runtime. -/
def runtimeEntry : Instruction := (Instruction.plain .jumpdest).labelled (.global "runtime")

/-- The runtime of a decoded program whose code has `size` bytes. The expansion of the instruction
of index `i` gets the scope `i` places after `first`. -/
def runtime (settings : Settings) (fragments : Fragments) (size : Nat) (first : Scope)
    (program : List Instruction) : List Instruction :=
  runtimeEntry ::
    (program.zipIdx.flatMap fun (inst, i) => expand settings fragments size (first.after i) inst) ++
    [.plain .stop]

end EvmProbe.Image
