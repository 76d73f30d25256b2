import EvmProbe.Listing.Line

/-!
Assembling a listing, and writing one.

`assemble` turns the lines of a listing into instructions of one scope; a label goes to the next
instruction, and constants are replaced by their values.  `render` writes instructions as a listing
again.  An undefined byte is written as `DATA`, since it has no mnemonic.
-/

namespace EvmProbe.Listing

/-- Why a listing is refused. Lines are numbered from one. -/
inductive Error where
  /-- A line is refused. -/
  | line (number : Nat) (cause : Line.Error)
  /-- The label of line `at_` is followed by another label. -/
  | consecutiveLabels (at_ : Nat) (first : Label) (number : Nat)
  /-- The label of line `at_` has no instruction behind it. -/
  | danglingLabel (at_ : Nat) (target : Label)
  deriving DecidableEq, Repr

/-- The wording of an error. -/
def Error.message : Error → String
  | .line number cause => s!"line {number}: {cause.message}"
  | .consecutiveLabels at_ first number =>
    s!"line {at_}: label {first.text} is followed by another label at line {number}"
  | .danglingLabel at_ target =>
    s!"line {at_}: label {target.text} does not precede an instruction"

/-- The operand a term stands for. -/
def Term.resolve (env : Environment) : Term → Except Line.Error Operand
  | .literal operand => .ok operand
  | .constant key =>
    match env.operand key with
    | .ok operand => .ok operand
    | .error cause => .error (.constant cause)

/-- The operand of an instruction line. -/
def resolveTerm (env : Environment) : Option Term → Except Line.Error (Option Operand)
  | none => .ok none
  | some term => (term.resolve env).map some

/-- Assembles the lines from `number` on; `pending` is the label that the next instruction gets,
and the number of its line. -/
def assembleFrom (env : Environment) (scope : Scope) :
    (number : Nat) → (pending : Option (Label × Nat)) → List (Except Line.Error Line) →
      Except Error (List Instruction)
  | _, none, [] => .ok []
  | _, some (target, at_), [] => .error (.danglingLabel at_ target)
  | number, pending, line :: rest =>
    match line with
    | .error cause => .error (.line number cause)
    | .ok .blank => assembleFrom env scope (number + 1) pending rest
    | .ok (.label target) =>
      match pending with
      | some (first, at_) => .error (.consecutiveLabels at_ first number)
      | none => assembleFrom env scope (number + 1) (some (target, number)) rest
    | .ok (.instruction opcode term) =>
      match resolveTerm env term with
      | .error cause => .error (.line number cause)
      | .ok operand =>
        let inst : Instruction :=
          { opcode, operand, label := pending.map (·.1), scope := some scope }
        (assembleFrom env scope (number + 1) none rest).map (inst :: ·)

/-- Assembles lines that are already read, or refused. -/
def assembleLines (env : Environment) (scope : Scope) (lines : List (Except Line.Error Line)) :
    Except Error (List Instruction) :=
  assembleFrom env scope 1 none lines

/-- Assembles a text. Every instruction belongs to `scope`. -/
def assemble (env : Environment) (scope : Scope) (text : String) :
    Except Error (List Instruction) :=
  assembleLines env scope ((Text.lines text.toList).map Line.parse)

/-- The line of an instruction. -/
def instructionText (inst : Instruction) : String :=
  match inst.opcode with
  | .undefined byte => "DATA " ++ Hex.literal [byte]
  | _ => inst.text

/-- The lines of an instruction: its label, if it declares one, and itself. -/
def linesOf (inst : Instruction) : List String :=
  match inst.label with
  | some target => [target.text, instructionText inst]
  | none => [instructionText inst]

/-- Instructions as a listing, without a line feed at the end. -/
def render (code : List Instruction) : String :=
  "\n".intercalate (code.flatMap linesOf)

end EvmProbe.Listing
