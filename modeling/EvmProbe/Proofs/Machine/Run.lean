import EvmProbe.Proofs.Machine.Block

/-!
What linked instructions do to the frame, read off the instructions.

* `pushed_resolved`: the word that an operand writes in linked code is known from the operand, and
  for a label from the table.
* `actAll_resolved`: so is what instructions do to the frame one after the other
  (`Machine.runBlock`), which the equations of this module compute.
-/

namespace EvmProbe

open Linking

namespace Instruction

/-- The word of an operand: a label is looked up. -/
def word (table : Table) (inst : Instruction) : Word :=
  match inst.operand with
  | none => 0
  | some (.int value) => value
  | some (.bytes bytes) => BitVec.ofNat 256 (ofBigEndian bytes)
  | some (.label label) =>
    match entryOf label inst.scope with
    | .ok entry => BitVec.ofNat 256 (table[entry]?.getD 0)
    | .error _ => 0

/-- The instruction acts on the frame alone, and has an operand only if it is a push. -/
def isPlain (inst : Instruction) : Bool :=
  inst.isStraight && match inst.operand with
    | none => true
    | some (.label _) => inst.opcode == .pushN 3
    | some _ => inst.opcode.isPush

theorem isStraight_of_isPlain {inst : Instruction} (h : inst.isPlain) : inst.isStraight :=
  (Bool.and_eq_true_iff.1 h).1

end Instruction

namespace Patcher.Written
variable {code block : List Instruction} {table : Table} {image : Bytes} {inst : Instruction}
variable (w : Written code table image)
include w

/-- Bytes in linked code fit their opcode. -/
theorem length_le_width {bytes : Bytes} (hm : inst ∈ code)
    (ho : inst.operand = some (.bytes bytes)) (hop : inst.opcode.isPush) :
    bytes.length ≤ inst.opcode.width := by
  have hw : inst.opcode.width ≠ 0 := Nat.ne_of_gt (of_decide_eq_true hop)
  have henc := w.encodable inst hm
  obtain ⟨byte, hb⟩ : ∃ byte, inst.opcode.toByte? = some byte :=
    Option.ne_none_iff_exists'.1 fun h => hw (by rw [Opcode.width, h])
  rw [resolved_of_reference?_eq_none (by rw [reference?, ho]), Instruction.encoded?,
    Instruction.immediate?, ho, hb, Option.bind_some, Operand.encode] at henc
  by_contra hlong
  rw [if_neg hlong] at henc
  simp [hw, Except.toOption] at henc

/-- **The word that an operand writes in linked code.** -/
theorem pushed_resolved (hm : inst ∈ code) (hp : inst.isPlain) :
    (resolved table inst).pushed = inst.word table := by
  have hp := (Bool.and_eq_true_iff.1 hp).2
  unfold Instruction.word
  split at hp
  · next ho =>
    rw [ho, resolved_of_reference?_eq_none (by rw [reference?, ho])]
    simp [Instruction.pushed, Instruction.immediate?, ho]
  · next label ho =>
    have hr := reference?_eq_some.2 ho
    obtain ⟨entry, target, he, ht, -⟩ := exists_target hr (w.found inst hm)
    rw [ho, w.pushed_reference hm hr (eq_of_beq hp) he ht]
    simp [he, ht]
  · next operand hno ho =>
    have hr : reference? inst = none := by
      cases operand with
      | label label => exact (hno label rfl).elim
      | _ => rw [reference?, ho]
    rw [resolved_of_reference?_eq_none hr, ho]
    cases operand with
    | label label => exact (hno label rfl).elim
    | int value => exact w.pushed_number hm ho hp
    | bytes bytes => exact Instruction.pushed_bytes ho (w.length_le_width hm ho hp)

end Patcher.Written

/-! ## Instructions one after the other -/

namespace Machine
variable {μ ω : Type} (machine : Machine μ ω) (table : Table)

/-- What instructions do to the frame one after the other. -/
def runBlock (block : List Instruction) (frame : Frame μ ω) : Except (Outcome μ ω) (Frame μ ω) :=
  block.foldlM (fun frame inst => machine.act inst.opcode (inst.word table) frame) frame

@[simp] theorem runBlock_nil (frame : Frame μ ω) :
    machine.runBlock table [] frame = .ok frame := rfl

@[simp] theorem runBlock_cons (inst : Instruction) (block : List Instruction) (frame : Frame μ ω) :
    machine.runBlock table (inst :: block) frame =
      match machine.act inst.opcode (inst.word table) frame with
      | .ok next => machine.runBlock table block next
      | .error outcome => .error outcome := by
  rw [runBlock, List.foldlM_cons]
  cases machine.act inst.opcode (inst.word table) frame <;> rfl

section
variable (value : Word) (frame : Frame μ ω) (a b : Word) (s : List Word) (m : μ) (w : ω)

@[simp] theorem act_jumpdest : machine.act .jumpdest value frame = .ok frame := rfl

@[simp] theorem act_push (width : Fin 33) :
    machine.act (.push width) value ⟨s, m, w⟩ = .ok ⟨value :: s, m, w⟩ := rfl

@[simp] theorem act_pop : machine.act .pop value ⟨a :: s, m, w⟩ = .ok ⟨s, m, w⟩ := rfl

@[simp] theorem act_dupN (depth : Nat) :
    machine.act (.dupN depth) value ⟨s, m, w⟩ =
      match s[(depth - 1) % 16]? with
      | none => .error (.failed m w)
      | some a => .ok ⟨a :: s, m, w⟩ := rfl

@[simp] theorem act_swapN (depth : Nat) :
    machine.act (.swapN depth) value ⟨a :: s, m, w⟩ =
      match s[(depth - 1) % 16]? with
      | none => .error (.failed m w)
      | some b => .ok ⟨b :: s.set ((depth - 1) % 16) a, m, w⟩ := rfl

@[simp] theorem act_eq :
    machine.act .eq value ⟨a :: b :: s, m, w⟩ = .ok ⟨flag (a = b) :: s, m, w⟩ :=
  rfl

@[simp] theorem act_iszero :
    machine.act .iszero value ⟨a :: s, m, w⟩ = .ok ⟨flag (a = 0) :: s, m, w⟩ := rfl

@[simp] theorem act_revert :
    machine.act .revert value ⟨a :: b :: s, m, w⟩ = .error (.reverted a b ⟨s, m, w⟩) := rfl

@[simp] theorem act_invalid : machine.act .invalid value ⟨s, m, w⟩ = .error (.failed m w) := rfl

end

end Machine

namespace Patcher.Written
variable {code block : List Instruction} {table : Table} {image : Bytes} {μ ω : Type}

/-- **What linked instructions do to the frame one after the other.** -/
theorem actAll_resolved (w : Written code table image) (machine : Machine μ ω) (frame : Frame μ ω)
    (hm : ∀ inst ∈ block, inst ∈ code) (hp : block.all Instruction.isPlain) :
    machine.actAll (block.map (resolved table)) frame = machine.runBlock table block frame := by
  induction block generalizing frame with
  | nil => rfl
  | cons inst block ih =>
    simp only [List.all_cons, Bool.and_eq_true] at hp
    rw [List.map_cons, Machine.actAll, List.foldlM_cons, resolved_opcode,
      w.pushed_resolved (hm inst List.mem_cons_self) hp.1, Machine.runBlock, List.foldlM_cons]
    congr 1
    funext next
    exact ih next (fun i hi => hm i (List.mem_cons_of_mem _ hi)) hp.2

end Patcher.Written

end EvmProbe
