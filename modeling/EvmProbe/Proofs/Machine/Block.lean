import EvmProbe.Proofs.Bytes
import EvmProbe.Proofs.Machine.Passage
import EvmProbe.Proofs.Program.Written

/-!
Runs of linked code, instruction by instruction.

The instructions of linked code are run where they stand, without a look at the bytes of the image.

* `step_at`: the step at an instruction executes it, with the word that its linked operand writes.
* `passes_block`: instructions that act on the frame alone are run one after the other.
* `passes_goto`, `passes_branch`: what a pushed label and a jump do.
-/

namespace EvmProbe

open Linking Patcher StateTransition

/-! ## Operands as words -/

/-- An opcode is the one that its byte is decoded to. -/
def Opcode.isCanonical (opcode : Opcode) : Bool :=
  opcode.toByte?.map Opcode.ofByte == some opcode

theorem Opcode.isCanonical_ofByte (byte : UInt8) : (Opcode.ofByte byte).isCanonical := by
  simp [isCanonical]

namespace Instruction
variable {inst : Instruction}

/-- The word that an instruction's operand writes; no operand writes zero. -/
def pushed (inst : Instruction) : Word :=
  BitVec.ofNat 256 (ofBigEndian (inst.immediate?.getD []))

theorem encoded_eq {byte : UInt8} (hb : inst.opcode.toByte? = some byte)
    (h : inst.encoded?.isSome) : inst.encoded = byte :: inst.immediate?.getD [] := by
  obtain ⟨bytes, he⟩ := Option.isSome_iff_exists.1 h
  rw [encoded, he, Option.getD_some]
  rw [encoded?, hb] at he
  dsimp only at he
  split at he
  · next hw =>
    cases he
    cases hi : inst.immediate? with
    | none => rfl
    | some immediate =>
      rw [List.eq_nil_of_length_eq_zero ((length_immediate? hi).trans hw)]
      rfl
  · obtain ⟨immediate, hi, rfl⟩ := Option.map_eq_some_iff.1 he
    rw [hi, Option.getD_some]

theorem pushed_int {value : Word} (ho : inst.operand = some (.int value))
    (h : value.toNat < capacity inst.opcode.width) : inst.pushed = value := by
  have hi : inst.immediate? = some (bigEndian inst.opcode.width value.toNat) := by
    rw [immediate?, ho, Option.bind_some, Operand.encode, if_pos h]
    rfl
  rw [pushed, hi, Option.getD_some, ofBigEndian_bigEndian h, BitVec.ofNat_toNat, BitVec.setWidth_eq]

theorem pushed_bytes {bytes : Bytes} (ho : inst.operand = some (.bytes bytes))
    (h : bytes.length ≤ inst.opcode.width) :
    inst.pushed = BitVec.ofNat 256 (ofBigEndian bytes) := by
  have hi : inst.immediate? = some (padLeft inst.opcode.width bytes) := by
    rw [immediate?, ho, Option.bind_some, Operand.encode, if_pos h]
    rfl
  rw [pushed, hi, Option.getD_some, ofBigEndian_padLeft]

theorem size_pos_of_isCanonical (h : inst.opcode.isCanonical) : 0 < inst.size := by
  obtain ⟨byte, hb, -⟩ := Option.map_eq_some_iff.1 (eq_of_beq h)
  rw [size_of_toByte? hb]
  omega

/-- The instruction is one of the machine and acts on the frame alone. -/
def isStraight (inst : Instruction) : Bool := inst.opcode.isCanonical && inst.opcode.isStraight

end Instruction

theorem codeSize_pos_of_isStraight {block : List Instruction} (hne : block ≠ [])
    (hs : block.all Instruction.isStraight) : 0 < codeSize block := by
  obtain ⟨inst, block, rfl⟩ := List.exists_cons_of_ne_nil hne
  simp only [List.all_cons, Instruction.isStraight, Bool.and_eq_true] at hs
  have := Instruction.size_pos_of_isCanonical hs.1.1
  rw [codeSize_cons]
  omega

variable {μ ω : Type}

/-- What instructions do to the frame one after the other. -/
def Machine.actAll (machine : Machine μ ω) (block : List Instruction) (frame : Frame μ ω) :
    Except (Outcome μ ω) (Frame μ ω) :=
  block.foldlM (fun frame inst => machine.act inst.opcode inst.pushed frame) frame

namespace Patcher.Written
variable {code block rest : List Instruction} {table : Table} {image : Bytes}
  {position target : Nat} {inst jump : Instruction} {label : Label} {entry : Entry}
  {inner : Nat → Prop}
variable (w : Written code table image) (machine : Machine μ ω) (frame : Frame μ ω)
include w

/-- **The step at an instruction executes it**, with the word that its linked operand writes. -/
theorem step_at (hat : StandsAt code position inst) (hc : inst.opcode.isCanonical) :
    machine.step image (.running position frame) =
      some (.after (machine.execute image position inst.opcode (resolved table inst).pushed
        frame)) := by
  obtain ⟨byte, hb, hbyte⟩ := Option.map_eq_some_iff.1 (eq_of_beq hc)
  obtain ⟨after, hdrop⟩ := w.drop_eq hat
  have hrb : (resolved table inst).opcode.toByte? = some byte := by rwa [resolved_opcode]
  have henc := w.encodable inst hat.mem
  obtain ⟨immediate, he, full⟩ := Instruction.exists_encoded hrb henc
  have heq := Instruction.encoded_eq hrb henc
  rw [he, List.cons.injEq] at heq
  rw [he] at hdrop
  rw [Machine.step_running hdrop full, hbyte, heq.2]
  rfl

/-- **Instructions that act on the frame alone are run one after the other**, and nothing is passed
but where they stand. -/
theorem passes_block (hl : LiesAt code position block) (hne : block ≠ [])
    (hs : block.all Instruction.isStraight)
    (hin : ∀ p, position < p → p < position + codeSize block → inner p) :
    machine.Passes image inner (.running position frame)
      (.after ((machine.actAll (block.map (resolved table)) frame).map fun frame =>
        (position + codeSize block, frame))) := by
  induction block generalizing position frame with
  | nil => exact absurd rfl hne
  | cons inst block ih =>
    simp only [List.all_cons, Instruction.isStraight, Bool.and_eq_true] at hs
    obtain ⟨⟨hc, hstraight⟩, hs⟩ := hs
    obtain ⟨byte, hb, -⟩ := Option.map_eq_some_iff.1 (eq_of_beq hc)
    have hstep := w.step_at machine frame hl.head hc
    rw [Machine.execute_of_isStraight hstraight, ← Instruction.size_of_toByte? hb] at hstep
    rw [Machine.actAll, List.map_cons, List.foldlM_cons, resolved_opcode]
    cases ha : machine.act inst.opcode (resolved table inst).pushed frame with
    | error outcome =>
      rw [ha] at hstep
      exact .single hstep
    | ok next =>
      rw [ha] at hstep
      rcases eq_or_ne block [] with rfl | hne
      · exact .single hstep
      · have hpos : 0 < inst.size := by
          rw [Instruction.size_of_toByte? hb]
          omega
        have hrest := codeSize_pos_of_isStraight hne hs
        rw [codeSize_cons] at hin
        have htail := ih next hl.tail hne hs fun p hp hlt => hin p (by omega) (by omega)
        rw [Nat.add_assoc, ← codeSize_cons] at htail
        exact .head hstep (hin _ (by omega) (by omega)) htail

/-- Instructions that act on the frame alone are run one after the other. -/
theorem reaches_block (hl : LiesAt code position block) (hne : block ≠ [])
    (hs : block.all Instruction.isStraight) :
    Reaches₁ (machine.step image) (.running position frame)
      (.after ((machine.actAll (block.map (resolved table)) frame).map fun frame =>
        (position + codeSize block, frame))) :=
  (w.passes_block machine frame hl hne hs fun _ _ _ => trivial).reaches₁

/-! ## Jumps to labels -/

/-- A linked reference writes the offset of its label. -/
theorem pushed_reference (hm : inst ∈ code) (hr : reference? inst = some label)
    (hop : inst.opcode = .pushN 3) (he : entryOf label inst.scope = .ok entry)
    (ht : table[entry]? = some target) :
    (resolved table inst).pushed = BitVec.ofNat 256 target := by
  obtain ⟨decl, hat, hd⟩ := (w.entries entry target).1 ht
  have hr3 : (resolved table inst).opcode = .pushN 3 := (resolved_opcode table inst).trans hop
  have ho := congrArg Instruction.operand (w.resolved_eq hm hr he hat hd)
  have henc := w.encodable inst hm
  rw [Instruction.encoded?_push3 hr3 ho] at henc
  split at henc
  · next h => exact Instruction.pushed_int ho (by rw [hr3]; exact h)
  · cases henc

/-- A number in linked code fits its opcode, and is pushed as it is. -/
theorem pushed_number {value : Word} (hm : inst ∈ code) (ho : inst.operand = some (.int value))
    (hop : inst.opcode.isPush) : inst.pushed = value := by
  have hw : inst.opcode.width ≠ 0 := by
    have : 0 < inst.opcode.width := of_decide_eq_true hop
    omega
  obtain ⟨byte, hb⟩ : ∃ byte, inst.opcode.toByte? = some byte := by
    refine Option.ne_none_iff_exists'.1 fun h => hw ?_
    rw [Opcode.width, h]
  have henc := w.encodable inst hm
  rw [resolved_of_reference?_eq_none (by rw [reference?, ho]),
    Instruction.encoded?_int hb hw ho] at henc
  split at henc
  · next h => exact Instruction.pushed_int ho h
  · cases henc

/-- A reference pushes the offset of its label. -/
theorem step_reference (hat : StandsAt code position inst) (hr : reference? inst = some label)
    (hop : inst.opcode = .pushN 3) (he : entryOf label inst.scope = .ok entry)
    (ht : table[entry]? = some target) :
    machine.step image (.running position frame) =
      some (.running (position + 4) (frame.push (BitVec.ofNat 256 target))) := by
  rw [w.step_at _ _ hat (by rw [hop]; decide), hop, Machine.execute_of_isStraight rfl,
    w.pushed_reference hat.mem hr hop he ht]
  rfl

/-- A jump to a destination goes there. -/
theorem step_jump (hat : StandsAt code position jump) (hj : jump.opcode = .jump)
    (hsize : image.length ≤ 2 ^ 256) (hd : Bytecode.IsDestination image target) :
    machine.step image (.running position (frame.push (BitVec.ofNat 256 target))) =
      some (.running target frame) := by
  have ht := Bytecode.toNat_ofNat_of_isDestination hsize hd
  rw [w.step_at _ _ hat (by rw [hj]; decide), hj]
  show some (State.after (Frame.jump frame image (BitVec.ofNat 256 target))) = _
  rw [Frame.jump, ht, if_pos hd]
  rfl

/-- A conditional jump to a destination goes there unless the condition is zero. -/
theorem step_jumpi (hat : StandsAt code position jump) (hj : jump.opcode = .jumpi)
    (hsize : image.length ≤ 2 ^ 256) (hd : Bytecode.IsDestination image target)
    (condition : Word) :
    machine.step image (.running position ((frame.push condition).push (BitVec.ofNat 256 target))) =
      some (.running (if condition = 0 then position + 1 else target) frame) := by
  have ht := Bytecode.toNat_ofNat_of_isDestination hsize hd
  rw [w.step_at _ _ hat (by rw [hj]; decide), hj]
  show some (State.after (if condition = 0 then .ok (position + 1, frame)
    else Frame.jump frame image (BitVec.ofNat 256 target))) = _
  rw [Frame.jump, ht, if_pos hd]
  split <;> rfl

/-- A pushed label and a jump: the machine goes to the label. -/
theorem passes_goto (hsize : image.length ≤ 2 ^ 256)
    (hl : LiesAt code position (inst :: jump :: rest)) (hr : reference? inst = some label)
    (hop : inst.opcode = .pushN 3) (hj : jump.opcode = .jump)
    (he : entryOf label inst.scope = .ok entry) (ht : table[entry]? = some target)
    (hd : Bytecode.IsDestination image target) (hin : inner (position + 4)) :
    machine.Passes image inner (.running position frame) (.running target frame) := by
  have hjump := hl.tail.head
  rw [Instruction.size_of_push3 hop] at hjump
  exact .head (w.step_reference _ _ hl.head hr hop he ht) hin
    (.single (w.step_jump _ _ hjump hj hsize hd))

/-- A pushed label and a conditional jump: the machine goes to the label unless the top of the stack
is zero. -/
theorem passes_branch (hsize : image.length ≤ 2 ^ 256)
    (hl : LiesAt code position (inst :: jump :: rest)) (hr : reference? inst = some label)
    (hop : inst.opcode = .pushN 3) (hj : jump.opcode = .jumpi)
    (he : entryOf label inst.scope = .ok entry) (ht : table[entry]? = some target)
    (hd : Bytecode.IsDestination image target) (condition : Word) (hin : inner (position + 4)) :
    machine.Passes image inner (.running position (frame.push condition))
      (.running (if condition = 0 then position + 5 else target) frame) := by
  have hjump := hl.tail.head
  rw [Instruction.size_of_push3 hop] at hjump
  exact .head (w.step_reference _ _ hl.head hr hop he ht) hin
    (.single (w.step_jumpi _ _ hjump hj hsize hd condition))

end Patcher.Written

end EvmProbe
