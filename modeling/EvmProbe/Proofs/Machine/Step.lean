import EvmProbe.Proofs.Bytecode.Marks
import Mathlib.Computability.StateTransition

/-!
The machine that runs code, without gas and without a limit to its stack.

A step takes the byte at the program counter, and behind the end of the code STOP.  Opcodes of
jumps, pushes, duplications, exchanges, comparisons and halts have their meaning; so have those that
read the program counter, the code or the origin.  All others are a parameter (`Machine.other`) and
see the frame only: stack, memory, and the world, which is whatever else they depend on.

* `execute_of_isStraight`: an opcode that does not jump and reads neither program counter, code nor
  origin acts on the frame alone.
* `step_running`: a step is the execution of the opcode that is found at the program counter.
-/

namespace EvmProbe

/-- What a program works on. -/
structure Frame (μ ω : Type) where
  /-- The words on the stack, top first. -/
  stack : List Word
  memory : μ
  world : ω

/-- How a run ends. -/
inductive Outcome (μ ω : Type) where
  /-- STOP, or the end of the code. -/
  | stopped (frame : Frame μ ω)
  /-- RETURN, with the place of the output in memory. -/
  | returned (offset size : Word) (frame : Frame μ ω)
  /-- REVERT, with the place of the output in memory. -/
  | reverted (offset size : Word) (frame : Frame μ ω)
  /-- SELFDESTRUCT, with the word that names the heir. -/
  | selfdestructed (heir : Word) (frame : Frame μ ω)
  /-- An exceptional halt; the stack is gone. -/
  | failed (memory : μ) (world : ω)

/-- A machine that runs or has halted. -/
inductive State (μ ω : Type) where
  | running (counter : Nat) (frame : Frame μ ω)
  | halted (outcome : Outcome μ ω)

/-- What is left open about a machine. -/
structure Machine (μ ω : Type) where
  /-- What ORIGIN reports. -/
  origin : Address
  /-- What the opcodes without a fixed meaning do. -/
  other : Opcode → Frame μ ω → Except (Outcome μ ω) (Frame μ ω)

/-- A truth value as a word. -/
def flag (p : Prop) [Decidable p] : Word := if p then 1 else 0

theorem flag_eq_zero {p : Prop} [Decidable p] : flag p = 0 ↔ ¬p := by
  unfold flag
  split <;> simp_all

variable {μ ω : Type}

namespace Frame

/-- The exceptional halt. -/
def failure (frame : Frame μ ω) : Outcome μ ω := .failed frame.memory frame.world

def push (frame : Frame μ ω) (value : Word) : Frame μ ω :=
  { frame with stack := value :: frame.stack }

/-- Takes the top off the stack. -/
def pop (frame : Frame μ ω) : Except (Outcome μ ω) (Word × Frame μ ω) :=
  match frame.stack with
  | [] => .error frame.failure
  | value :: stack => .ok (value, { frame with stack })

/-- Pushes the word at a depth once more. -/
def dup (frame : Frame μ ω) (depth : Nat) : Except (Outcome μ ω) (Frame μ ω) :=
  match frame.stack[depth]? with
  | none => .error frame.failure
  | some value => .ok (frame.push value)

/-- Exchanges the top with the word at a depth below it. -/
def swap (frame : Frame μ ω) (depth : Nat) : Except (Outcome μ ω) (Frame μ ω) := do
  let (top, below) ← frame.pop
  match below.stack[depth]? with
  | none => .error frame.failure
  | some value => .ok ({ below with stack := below.stack.set depth top }.push value)

/-- Goes to a jump destination. -/
def jump (frame : Frame μ ω) (code : Bytes) (target : Word) :
    Except (Outcome μ ω) (Nat × Frame μ ω) :=
  if Bytecode.IsDestination code target.toNat then .ok (target.toNat, frame)
  else .error frame.failure

end Frame

/-- Whether an opcode does not jump and reads neither the program counter, the code's size nor the
origin. -/
def Opcode.isStraight : Opcode → Bool
  | .jump | .jumpi | .pc | .codesize | .origin => false
  | _ => true

theorem Opcode.not_isStraight {op : Opcode} (h : ¬ op.isStraight) :
    op = .jump ∨ op = .jumpi ∨ op = .pc ∨ op = .codesize ∨ op = .origin := by
  unfold isStraight at h
  split at h <;> simp_all

namespace Machine

/-- What an opcode does to the frame; `value` is what its immediate bytes write. -/
def act (machine : Machine μ ω) (opcode : Opcode) (value : Word) (frame : Frame μ ω) :
    Except (Outcome μ ω) (Frame μ ω) :=
  match opcode with
  | .jumpdest => .ok frame
  | .push _ => .ok (frame.push value)
  | .pop => do
    let (_, frame) ← frame.pop
    .ok frame
  | .dup depth => frame.dup depth.val
  | .swap depth => frame.swap depth.val
  | .eq => do
    let (a, frame) ← frame.pop
    let (b, frame) ← frame.pop
    .ok (frame.push (flag (a = b)))
  | .iszero => do
    let (a, frame) ← frame.pop
    .ok (frame.push (flag (a = 0)))
  | .stop => .error (.stopped frame)
  | .return_ => do
    let (offset, frame) ← frame.pop
    let (size, frame) ← frame.pop
    .error (.returned offset size frame)
  | .revert => do
    let (offset, frame) ← frame.pop
    let (size, frame) ← frame.pop
    .error (.reverted offset size frame)
  | .selfdestruct => do
    let (heir, frame) ← frame.pop
    .error (.selfdestructed heir frame)
  | .invalid => .error frame.failure
  | opcode => machine.other opcode frame

/-- What the opcode at `counter` does to the program counter and the frame. -/
def execute (machine : Machine μ ω) (code : Bytes) (counter : Nat) (opcode : Opcode) (value : Word)
    (frame : Frame μ ω) : Except (Outcome μ ω) (Nat × Frame μ ω) :=
  match opcode with
  | .jump => do
    let (target, frame) ← frame.pop
    frame.jump code target
  | .jumpi => do
    let (target, frame) ← frame.pop
    let (condition, frame) ← frame.pop
    if condition = 0 then .ok (counter + 1, frame) else frame.jump code target
  | .pc => .ok (counter + 1, frame.push (BitVec.ofNat 256 counter))
  | .codesize => .ok (counter + 1, frame.push (BitVec.ofNat 256 code.length))
  | .origin => .ok (counter + 1, frame.push (machine.origin.setWidth 256))
  | opcode => do
    let frame ← machine.act opcode value frame
    .ok (counter + (1 + opcode.width), frame)

theorem act_congr {machine other : Machine μ ω} (h : machine.other = other.other) (opcode : Opcode)
    (value : Word) (frame : Frame μ ω) :
    machine.act opcode value frame = other.act opcode value frame := by
  unfold act
  rw [h]

/-- **An opcode that does not jump and reads neither program counter, code nor origin acts on the
frame alone.** -/
theorem execute_of_isStraight {machine : Machine μ ω} {code : Bytes} {counter : Nat}
    {opcode : Opcode} (h : opcode.isStraight) (value : Word) (frame : Frame μ ω) :
    machine.execute code counter opcode value frame =
      (machine.act opcode value frame).map fun frame => (counter + (1 + opcode.width), frame) := by
  unfold execute
  split
  case h_6 =>
    cases machine.act opcode value frame <;> rfl
  all_goals cases h

end Machine

/-- The state behind an execution. -/
def State.after : Except (Outcome μ ω) (Nat × Frame μ ω) → State μ ω
  | .ok (counter, frame) => .running counter frame
  | .error outcome => .halted outcome

namespace Machine

/-- One step of a machine that runs code; a halted machine makes none. Immediate bytes behind the
end of the code are zero. -/
def step (machine : Machine μ ω) (code : Bytes) : State μ ω → Option (State μ ω)
  | .halted _ => none
  | .running counter frame =>
    match code.drop counter with
    | [] => some (.halted (.stopped frame))
    | byte :: behind =>
      let opcode := Opcode.ofByte byte
      let immediate := padRight opcode.width (behind.take opcode.width)
      some (.after (machine.execute code counter opcode (BitVec.ofNat 256 (ofBigEndian immediate))
        frame))

variable {machine : Machine μ ω} {code : Bytes} {counter : Nat} {frame : Frame μ ω}

@[simp] theorem step_halted (outcome : Outcome μ ω) : machine.step code (.halted outcome) = none :=
  rfl

/-- Behind the end of the code the machine stops. -/
theorem step_end (h : code.length ≤ counter) :
    machine.step code (.running counter frame) = some (.halted (.stopped frame)) := by
  rw [step, List.drop_of_length_le h]

/-- **A step executes the opcode at the program counter**, with the number that its immediate bytes
write. -/
theorem step_running {byte : UInt8} {immediate rest : Bytes}
    (hdrop : code.drop counter = byte :: (immediate ++ rest))
    (full : immediate.length = Opcode.widthOfByte byte) :
    machine.step code (.running counter frame) =
      some (.after (machine.execute code counter (.ofByte byte)
        (BitVec.ofNat 256 (ofBigEndian immediate)) frame)) := by
  rw [step, hdrop]
  dsimp only
  rw [Opcode.width_ofByte, ← full, List.take_left, padRight, Nat.sub_self, List.replicate_zero,
    List.append_nil]

/-- An opcode without immediate bytes that does not jump and reads neither program counter, code nor
origin acts on the frame alone. -/
theorem step_of_getElem? {byte : UInt8} (h : code[counter]? = some byte)
    (hw : (Opcode.ofByte byte).width = 0) (hs : (Opcode.ofByte byte).isStraight) :
    machine.step code (.running counter frame) =
      some (.after ((machine.act (.ofByte byte) 0 frame).map fun next => (counter + 1, next))) := by
  obtain ⟨hlt, rfl⟩ := List.getElem?_eq_some_iff.1 h
  have hdrop : code.drop counter = code[counter] :: ([] ++ code.drop (counter + 1)) :=
    List.drop_eq_getElem_cons hlt
  rw [Opcode.width_ofByte] at hw
  rw [step_running hdrop hw.symm, execute_of_isStraight hs, Opcode.width_ofByte, hw]
  rfl

end Machine

end EvmProbe
