import Std.Data.HashMap
import EvmProbe.Instruction

/-!
Linking: every reference to a label becomes the offset of its declaration.

A global label is looked up under its name, a lexical one under its name and the scope of the
instruction that refers to it.  All declarations of all groups are collected first (`declare`);
then references are resolved in order, and those before the first bad one stay resolved when
linking fails (`resolve`).
-/

namespace EvmProbe.Linking

/-- What a label is looked up under. -/
structure Entry where
  /-- Nothing for a global label, else the scope of a lexical one. -/
  scope : Option Scope
  name : String
  deriving DecidableEq, Repr, Hashable

/-- Why groups cannot be linked. -/
inductive Error where
  /-- A label is declared by an instruction without an offset. -/
  | notPlaced (label : Label)
  /-- A lexical label is declared or referred to outside every scope. -/
  | unscoped (label : Label)
  /-- Two instructions declare the same label. -/
  | duplicate (label : Label)
  /-- No instruction declares the label. -/
  | unresolved (label : Label)
  deriving DecidableEq, Repr

/-- The wording of an error. -/
def Error.message : Error → String
  | .notPlaced label => s!"label {label.text} is not committed"
  | .unscoped label => s!"local label {label.text} is used outside a scope"
  | .duplicate label => s!"duplicate label {label.text}"
  | .unresolved label => s!"unresolved label {label.text}"

/-- The entry of a label that an instruction of `scope` declares or refers to. -/
def entryOf (label : Label) (scope : Option Scope) : Except Error Entry :=
  match label, scope with
  | .global name, _ => .ok ⟨none, name⟩
  | .lexical name, some scope => .ok ⟨some scope, name⟩
  | .lexical _, none => .error (.unscoped label)

/-- The offsets of declared labels. -/
abbrev Table := Std.HashMap Entry Nat

/-- Adds the declaration of one instruction. -/
def declare (table : Table) (inst : Instruction) : Except Error Table :=
  match inst.label with
  | none => .ok table
  | some label =>
    match inst.offset with
    | none => .error (.notPlaced label)
    | some offset =>
      match entryOf label inst.scope with
      | .error cause => .error cause
      | .ok entry =>
        if table.contains entry then .error (.duplicate label) else .ok (table.insert entry offset)

/-- The declarations of a program. -/
def declarations (code : List Instruction) : Except Error Table :=
  code.foldlM declare ∅

/-- The offset that an instruction's operand refers to, if the operand is a label. -/
def target? (table : Table) (inst : Instruction) : Except Error (Option Nat) :=
  match inst.operand with
  | some (.label label) =>
    match entryOf label inst.scope with
    | .error cause => .error cause
    | .ok entry =>
      match table[entry]? with
      | some offset => .ok (some offset)
      | none => .error (.unresolved label)
  | _ => .ok none

/-- The instruction with its reference replaced, if it has one that is declared. -/
def resolved (table : Table) (inst : Instruction) : Instruction :=
  match target? table inst with
  | .ok (some offset) => { inst with operand := some (.int (BitVec.ofNat 256 offset)) }
  | _ => inst

/-- Why an instruction's reference cannot be resolved, if it cannot. -/
def fault? (table : Table) (inst : Instruction) : Option Error :=
  match target? table inst with
  | .error cause => some cause
  | .ok _ => none

/-- Resolves the references of a group, up to the first that cannot be. -/
def resolve (table : Table) (code : List Instruction) : List Instruction × Except Error Unit :=
  match code.findSome? (fault? table) with
  | none => (code.map (resolved table), .ok ())
  | some cause =>
    let bad := fun inst => (fault? table inst).isSome
    ((code.takeWhile (!bad ·)).map (resolved table) ++ code.dropWhile (!bad ·), .error cause)

/-- Resolves the references of groups in order, up to the first that cannot be. -/
def resolveAll (table : Table) :
    List (List Instruction) → List (List Instruction) × Except Error Unit
  | [] => ([], .ok ())
  | group :: rest =>
    match resolve table group with
    | (group, .error cause) => (group :: rest, .error cause)
    | (group, .ok ()) =>
      let (rest, result) := resolveAll table rest
      (group :: rest, result)

end EvmProbe.Linking

namespace EvmProbe

/-- Links groups that are laid out. The groups come back as far as their references were resolved,
with an error if one was not. -/
def link (groups : List (List Instruction)) :
    List (List Instruction) × Except Linking.Error Unit :=
  match Linking.declarations groups.flatten with
  | .error cause => (groups, .error cause)
  | .ok table => Linking.resolveAll table groups

end EvmProbe
