import EvmProbe.Proofs.Machine.Memory
import EvmProbe.Proofs.Machine.Step

/-!
The machine of the EVM, with all that is outside of a program left open.

Memory and the return-data buffer have their meaning, and so have calls as far as they read and
write these.  What calls give back is a parameter (`Outside`), except that a static call of the
account 4 gives its input back.  Of the other opcodes, those that the routines of an image compute
with have their meaning; the rest take words off the stack, read a region of memory, and then push a
word or write a region, which the parameter decides about.

* `Outside.machine`: the machine.
* `writes_of_act`: memory changes in the region that an opcode writes only, and the return data in
  calls and creations only.
-/

namespace EvmProbe

/-- What a program meets beside its stack and its memory. -/
structure World (Ω : Type) where
  /-- What the last call or creation returned. -/
  returnData : Bytes
  /-- All that is outside. -/
  outer : Ω

/-- What a call gives back. -/
structure Reply (Ω : Type) where
  success : Bool
  data : Bytes
  outer : Ω

/-- What an opcode does that is decided outside. Which parts are used depends on the opcode. -/
structure Effect (Ω : Type) where
  /-- The word that is pushed. -/
  word : Word
  /-- The bytes that are written. -/
  bytes : Nat → UInt8
  /-- The return data of a creation. -/
  data : Bytes
  outer : Ω

/-- What is outside of a program. -/
structure Outside (Ω : Type) where
  /-- The reply to a call, which has a gas, an address, a value and an input. -/
  call : Opcode → (gas address value : Word) → Bytes → Ω → Reply Ω
  /-- What GAS and MSIZE push. -/
  meter : Opcode → Frame Memory (World Ω) → Word
  /-- What any other opcode does with the words it takes and the bytes it reads; `none` is an
  exceptional halt. -/
  perform : Opcode → List Word → Bytes → Ω → Option (Effect Ω)

/-! ## Operands and regions -/

namespace Opcode

/-- The number of words that a call, or an opcode that is decided outside, takes off the stack. -/
def takes : Opcode → Nat
  | .balance | .calldataload | .extcodesize | .extcodehash | .blockhash | .blobhash | .sload
  | .tload => 1
  | .mul | .div | .sdiv | .mod | .smod | .exp | .signextend | .slt | .sgt | .or | .xor | .byte
  | .shr | .sar | .keccak256 | .sstore | .tstore | .mstore8 => 2
  | .addmod | .mulmod | .create | .calldatacopy | .codecopy | .mcopy => 3
  | .create2 | .extcodecopy => 4
  | .delegatecall | .staticcall => 6
  | .call | .callcode => 7
  | .log topics => 2 + topics.val
  | _ => 0

/-- Whether an opcode that is decided outside pushes a word. -/
def gives : Opcode → Bool
  | .sstore | .tstore | .mstore8 | .calldatacopy | .codecopy | .mcopy | .extcodecopy | .log _ =>
    false
  | _ => true

/-- The region of memory that an opcode reads: its offset and its size. -/
def reads : Opcode → (stack : List Word) → Word × Word
  | .mload, offset :: _ => (offset, 32)
  | .keccak256, offset :: size :: _ => (offset, size)
  | .log _, offset :: size :: _ => (offset, size)
  | .return_, offset :: size :: _ => (offset, size)
  | .revert, offset :: size :: _ => (offset, size)
  | .mcopy, _ :: offset :: size :: _ => (offset, size)
  | .create, _ :: offset :: size :: _ => (offset, size)
  | .create2, _ :: offset :: size :: _ => (offset, size)
  | .delegatecall, _ :: _ :: offset :: size :: _ => (offset, size)
  | .staticcall, _ :: _ :: offset :: size :: _ => (offset, size)
  | .call, _ :: _ :: _ :: offset :: size :: _ => (offset, size)
  | .callcode, _ :: _ :: _ :: offset :: size :: _ => (offset, size)
  | _, _ => (0, 0)

/-- The region of memory that an opcode may write: its offset and its size. -/
def writes : Opcode → (stack : List Word) → Word × Word
  | .mstore, offset :: _ => (offset, 32)
  | .mstore8, offset :: _ => (offset, 1)
  | .calldatacopy, offset :: _ :: size :: _ => (offset, size)
  | .codecopy, offset :: _ :: size :: _ => (offset, size)
  | .returndatacopy, offset :: _ :: size :: _ => (offset, size)
  | .mcopy, offset :: _ :: size :: _ => (offset, size)
  | .extcodecopy, _ :: offset :: _ :: size :: _ => (offset, size)
  | .delegatecall, _ :: _ :: _ :: _ :: offset :: size :: _ => (offset, size)
  | .staticcall, _ :: _ :: _ :: _ :: offset :: size :: _ => (offset, size)
  | .call, _ :: _ :: _ :: _ :: _ :: offset :: size :: _ => (offset, size)
  | .callcode, _ :: _ :: _ :: _ :: _ :: offset :: size :: _ => (offset, size)
  | _, _ => (0, 0)

/-- Calls of other accounts. -/
def isCall : Opcode → Bool
  | .call | .callcode | .delegatecall | .staticcall => true
  | _ => false

/-- Calls with a value among their operands. -/
def hasValue : Opcode → Bool
  | .call | .callcode => true
  | _ => false

/-- Creations of accounts. -/
def isCreation : Opcode → Bool
  | .create | .create2 => true
  | _ => false

end Opcode

namespace Frame
variable {μ ω : Type}

/-- Takes a number of words off the stack. -/
def take : (count : Nat) → Frame μ ω → Except (Outcome μ ω) (List Word × Frame μ ω)
  | 0, frame => .ok ([], frame)
  | count + 1, frame => do
    let (top, frame) ← frame.pop
    let (rest, frame) ← take count frame
    .ok (top :: rest, frame)

/-- Replaces the top of the stack. -/
def unary (frame : Frame μ ω) (f : Word → Word) : Except (Outcome μ ω) (Frame μ ω) := do
  let (a, frame) ← frame.pop
  .ok (frame.push (f a))

/-- Replaces the two words on top of the stack. -/
def binary (frame : Frame μ ω) (f : Word → Word → Word) :
    Except (Outcome μ ω) (Frame μ ω) := do
  let (a, frame) ← frame.pop
  let (b, frame) ← frame.pop
  .ok (frame.push (f a b))

end Frame

/-! ## The machine -/

namespace Outside
variable {Ω : Type} (outside : Outside Ω)

/-- The reply to a call. A static call of the account 4 gives its input back. -/
def reply (opcode : Opcode) (gas address value : Word) (input : Bytes) (outer : Ω) : Reply Ω :=
  if opcode = .staticcall ∧ address.toNat % 2 ^ 160 = 4 then ⟨true, input, outer⟩
  else outside.call opcode gas address value input outer

/-- What a reply does to the frame of the caller: as much of the data as was asked for is written,
and all of it becomes the return data. -/
def accept (reply : Reply Ω) (offset size : Word) (frame : Frame Memory (World Ω)) :
    Frame Memory (World Ω) :=
  ⟨flag (reply.success = true) :: frame.stack,
    frame.memory.write offset.toNat (reply.data.take size.toNat), ⟨reply.data, reply.outer⟩⟩

/-- A call: gas, address and value are the first operands, but there may be no value. -/
def enter (opcode : Opcode) (frame : Frame Memory (World Ω)) :
    Except (Outcome Memory (World Ω)) (Frame Memory (World Ω)) := do
  let source := opcode.reads frame.stack
  let target := opcode.writes frame.stack
  let (operands, below) ← frame.take opcode.takes
  let value := if opcode.hasValue then operands.getD 2 0 else 0
  .ok (accept (outside.reply opcode (operands.getD 0 0) (operands.getD 1 0) value
    (frame.memory.read source.1.toNat source.2.toNat) frame.world.outer) target.1 target.2 below)

/-- Copies from the return data, up to its end. -/
def copyReturnData (frame : Frame Memory (World Ω)) :
    Except (Outcome Memory (World Ω)) (Frame Memory (World Ω)) := do
  let (target, frame) ← frame.pop
  let (offset, frame) ← frame.pop
  let (size, frame) ← frame.pop
  if offset.toNat + size.toNat ≤ frame.world.returnData.length then
    .ok ⟨frame.stack, frame.memory.write target.toNat
      ((frame.world.returnData.drop offset.toNat).take size.toNat), frame.world⟩
  else .error frame.failure

/-- What an opcode does that is decided outside. -/
def effect (opcode : Opcode) (frame : Frame Memory (World Ω)) :
    Except (Outcome Memory (World Ω)) (Frame Memory (World Ω)) := do
  let source := opcode.reads frame.stack
  let target := opcode.writes frame.stack
  let (operands, below) ← frame.take opcode.takes
  match outside.perform opcode operands (frame.memory.read source.1.toNat source.2.toNat)
      frame.world.outer with
  | none => .error frame.failure
  | some effect =>
    .ok ⟨if opcode.gives then effect.word :: below.stack else below.stack,
      frame.memory.write target.1.toNat ((List.range target.2.toNat).map effect.bytes),
      ⟨if opcode.isCreation then effect.data else frame.world.returnData, effect.outer⟩⟩

/-- The opcodes that do more than to move words on the stack. -/
def other (opcode : Opcode) (frame : Frame Memory (World Ω)) :
    Except (Outcome Memory (World Ω)) (Frame Memory (World Ω)) :=
  match opcode with
  | .add => frame.binary (· + ·)
  | .sub => frame.binary (· - ·)
  | .and => frame.binary (· &&& ·)
  | .not => frame.unary (~~~ ·)
  | .lt => frame.binary fun a b => flag (a < b)
  | .gt => frame.binary fun a b => flag (b < a)
  | .shl => frame.binary fun shift value => value <<< shift
  | .mload => frame.unary frame.memory.load
  | .mstore => do
    let (offset, frame) ← frame.pop
    let (value, frame) ← frame.pop
    .ok { frame with memory := frame.memory.store offset value }
  | .gas => .ok (frame.push (outside.meter .gas frame))
  | .msize => .ok (frame.push (outside.meter .msize frame))
  | .returndatasize => .ok (frame.push (BitVec.ofNat 256 frame.world.returnData.length))
  | .returndatacopy => copyReturnData frame
  | .call => outside.enter .call frame
  | .callcode => outside.enter .callcode frame
  | .delegatecall => outside.enter .delegatecall frame
  | .staticcall => outside.enter .staticcall frame
  | .undefined _ | .data => .error frame.failure
  | opcode => outside.effect opcode frame

/-- The machine of the EVM. -/
def machine (origin : Address) : Machine Memory (World Ω) := ⟨origin, outside.other⟩

/-! ## What opcodes do to explicit frames -/

section
variable (origin : Address) (value a b offset word : Word) (s : List Word) (m : Memory)
  (w : World Ω)

@[simp] theorem act_add : (outside.machine origin).act .add value ⟨a :: b :: s, m, w⟩ =
    .ok ⟨(a + b) :: s, m, w⟩ := rfl

@[simp] theorem act_sub : (outside.machine origin).act .sub value ⟨a :: b :: s, m, w⟩ =
    .ok ⟨(a - b) :: s, m, w⟩ := rfl

@[simp] theorem act_and : (outside.machine origin).act .and value ⟨a :: b :: s, m, w⟩ =
    .ok ⟨(a &&& b) :: s, m, w⟩ := rfl

@[simp] theorem act_not : (outside.machine origin).act .not value ⟨a :: s, m, w⟩ =
    .ok ⟨~~~a :: s, m, w⟩ := rfl

@[simp] theorem act_lt : (outside.machine origin).act .lt value ⟨a :: b :: s, m, w⟩ =
    .ok ⟨flag (a < b) :: s, m, w⟩ := rfl

@[simp] theorem act_gt : (outside.machine origin).act .gt value ⟨a :: b :: s, m, w⟩ =
    .ok ⟨flag (b < a) :: s, m, w⟩ := rfl

@[simp] theorem act_shl : (outside.machine origin).act .shl value ⟨a :: b :: s, m, w⟩ =
    .ok ⟨(b <<< a) :: s, m, w⟩ := rfl

@[simp] theorem act_mload : (outside.machine origin).act .mload value ⟨offset :: s, m, w⟩ =
    .ok ⟨m.load offset :: s, m, w⟩ := rfl

@[simp] theorem act_mstore :
    (outside.machine origin).act .mstore value ⟨offset :: word :: s, m, w⟩ =
      .ok ⟨s, m.store offset word, w⟩ := rfl

@[simp] theorem act_gas : (outside.machine origin).act .gas value ⟨s, m, w⟩ =
    .ok ⟨outside.meter .gas ⟨s, m, w⟩ :: s, m, w⟩ := rfl

@[simp] theorem act_returndatasize : (outside.machine origin).act .returndatasize value ⟨s, m, w⟩ =
    .ok ⟨BitVec.ofNat 256 w.returnData.length :: s, m, w⟩ := rfl

@[simp] theorem act_returndatacopy (target offset size : Word) :
    (outside.machine origin).act .returndatacopy value ⟨target :: offset :: size :: s, m, w⟩ =
      if offset.toNat + size.toNat ≤ w.returnData.length then
        .ok ⟨s, m.write target.toNat ((w.returnData.drop offset.toNat).take size.toNat), w⟩
      else .error (.failed m w) := rfl

/-! ### Opcodes that are decided outside -/

/-- EXTCODESIZE and EXTCODEHASH. -/
theorem act_query {opcode : Opcode} (ho : opcode = .extcodesize ∨ opcode = .extcodehash) :
    (outside.machine origin).act opcode value ⟨a :: s, m, w⟩ =
      match outside.perform opcode [a] [] w.outer with
      | none => .error (.failed m w)
      | some effect => .ok ⟨effect.word :: s, m, ⟨w.returnData, effect.outer⟩⟩ := by
  have heffect : (outside.machine origin).act opcode value ⟨a :: s, m, w⟩ =
      outside.effect opcode ⟨a :: s, m, w⟩ := by
    rcases ho with rfl | rfl <;> rfl
  rw [heffect]
  rcases ho with rfl | rfl
  · cases h : outside.perform .extcodesize [a] [] w.outer <;>
      simp [effect, Opcode.reads, Opcode.writes, Opcode.takes, Opcode.gives, Opcode.isCreation,
        Frame.take, Frame.pop, bind, Except.bind, Frame.failure, h]
  · cases h : outside.perform .extcodehash [a] [] w.outer <;>
      simp [effect, Opcode.reads, Opcode.writes, Opcode.takes, Opcode.gives, Opcode.isCreation,
        Frame.take, Frame.pop, bind, Except.bind, Frame.failure, h]

theorem act_calldatasize : (outside.machine origin).act .calldatasize value ⟨s, m, w⟩ =
    match outside.perform .calldatasize [] [] w.outer with
    | none => .error (.failed m w)
    | some effect => .ok ⟨effect.word :: s, m, ⟨w.returnData, effect.outer⟩⟩ := by
  show outside.effect _ _ = _
  cases h : outside.perform .calldatasize [] [] w.outer <;>
    simp [effect, Opcode.reads, Opcode.writes, Opcode.takes, Opcode.gives, Opcode.isCreation,
      Frame.take, bind, Except.bind, Frame.failure, h]

/-- CALLDATACOPY and CODECOPY. -/
theorem act_copy {opcode : Opcode} (ho : opcode = .calldatacopy ∨ opcode = .codecopy)
    (target offset size : Word) :
    (outside.machine origin).act opcode value ⟨target :: offset :: size :: s, m, w⟩ =
      match outside.perform opcode [target, offset, size] [] w.outer with
      | none => .error (.failed m w)
      | some effect => .ok ⟨s, m.write target.toNat ((List.range size.toNat).map effect.bytes),
          ⟨w.returnData, effect.outer⟩⟩ := by
  rcases ho with rfl | rfl
  · show outside.effect _ _ = _
    cases h : outside.perform .calldatacopy [target, offset, size] [] w.outer <;>
      simp [effect, Opcode.reads, Opcode.writes, Opcode.takes, Opcode.gives, Opcode.isCreation,
        Frame.take, Frame.pop, bind, Except.bind, Frame.failure, h]
  · show outside.effect _ _ = _
    cases h : outside.perform .codecopy [target, offset, size] [] w.outer <;>
      simp [effect, Opcode.reads, Opcode.writes, Opcode.takes, Opcode.gives, Opcode.isCreation,
        Frame.take, Frame.pop, bind, Except.bind, Frame.failure, h]

theorem act_extcodecopy (address target offset size : Word) :
    (outside.machine origin).act .extcodecopy value
        ⟨address :: target :: offset :: size :: s, m, w⟩ =
      match outside.perform .extcodecopy [address, target, offset, size] [] w.outer with
      | none => .error (.failed m w)
      | some effect => .ok ⟨s, m.write target.toNat ((List.range size.toNat).map effect.bytes),
          ⟨w.returnData, effect.outer⟩⟩ := by
  show outside.effect _ _ = _
  cases h : outside.perform .extcodecopy [address, target, offset, size] [] w.outer <;>
    simp [effect, Opcode.reads, Opcode.writes, Opcode.takes, Opcode.gives, Opcode.isCreation,
      Frame.take, Frame.pop, bind, Except.bind, Frame.failure, h]

section
variable (gas address amount argsOffset argsSize retOffset retSize : Word)

@[simp] theorem act_call : (outside.machine origin).act .call value
      ⟨gas :: address :: amount :: argsOffset :: argsSize :: retOffset :: retSize :: s, m, w⟩ =
    .ok (accept (outside.reply .call gas address amount
      (m.read argsOffset.toNat argsSize.toNat) w.outer) retOffset retSize ⟨s, m, w⟩) := rfl

@[simp] theorem act_callcode : (outside.machine origin).act .callcode value
      ⟨gas :: address :: amount :: argsOffset :: argsSize :: retOffset :: retSize :: s, m, w⟩ =
    .ok (accept (outside.reply .callcode gas address amount
      (m.read argsOffset.toNat argsSize.toNat) w.outer) retOffset retSize ⟨s, m, w⟩) := rfl

@[simp] theorem act_delegatecall : (outside.machine origin).act .delegatecall value
      ⟨gas :: address :: argsOffset :: argsSize :: retOffset :: retSize :: s, m, w⟩ =
    .ok (accept (outside.reply .delegatecall gas address 0
      (m.read argsOffset.toNat argsSize.toNat) w.outer) retOffset retSize ⟨s, m, w⟩) := rfl

@[simp] theorem act_staticcall : (outside.machine origin).act .staticcall value
      ⟨gas :: address :: argsOffset :: argsSize :: retOffset :: retSize :: s, m, w⟩ =
    .ok (accept (outside.reply .staticcall gas address 0
      (m.read argsOffset.toNat argsSize.toNat) w.outer) retOffset retSize ⟨s, m, w⟩) := rfl

/-- A static call of the account 4 gives its input back. -/
@[simp] theorem reply_identity (input : Bytes) (outer : Ω) :
    outside.reply .staticcall gas 4#256 value input outer = ⟨true, input, outer⟩ :=
  if_pos ⟨rfl, rfl⟩

end

end

end Outside

/-! ## What opcodes keep -/

namespace Frame
variable {μ ω : Type} {frame next below : Frame μ ω}

theorem take_ok {count : Nat} {words : List Word} (h : frame.take count = .ok (words, below)) :
    words.length = count ∧ frame = ⟨words ++ below.stack, below.memory, below.world⟩ := by
  induction count generalizing frame words with
  | zero => cases h; exact ⟨rfl, rfl⟩
  | succ count ih =>
    rcases frame with ⟨_ | ⟨word, stack⟩, memory, world⟩
    · cases h
    · simp only [take, pop, bind, Except.bind] at h
      split at h
      · cases h
      · next pair hr =>
        cases h
        obtain ⟨hl, he⟩ := ih hr
        rw [Frame.mk.injEq] at he
        exact ⟨by rw [List.length_cons, hl], by rw [List.cons_append, he.1, he.2.1, he.2.2]⟩

/-- A frame differs from an earlier one in the stack only. -/
def Keeps (frame next : Frame μ ω) : Prop := next.memory = frame.memory ∧ next.world = frame.world

theorem keeps_of_dup {depth : Nat} (h : frame.dup depth = .ok next) : frame.Keeps next := by
  unfold dup at h
  split at h <;> cases h
  exact ⟨rfl, rfl⟩

theorem keeps_of_swap {depth : Nat} (h : frame.swap depth = .ok next) : frame.Keeps next := by
  rcases frame with ⟨_ | ⟨word, stack⟩, memory, world⟩
  · cases h
  · simp only [swap, pop, bind, Except.bind] at h
    split at h <;> cases h
    exact ⟨rfl, rfl⟩

theorem keeps_of_unary {f : Word → Word} (h : frame.unary f = .ok next) : frame.Keeps next := by
  rcases frame with ⟨_ | ⟨a, stack⟩, memory, world⟩ <;> cases h
  exact ⟨rfl, rfl⟩

theorem keeps_of_binary {f : Word → Word → Word} (h : frame.binary f = .ok next) :
    frame.Keeps next := by
  rcases frame with ⟨_ | ⟨a, _ | ⟨b, stack⟩⟩, memory, world⟩ <;> cases h
  exact ⟨rfl, rfl⟩

end Frame

/-- What opcodes that leave memory and world alone do to the frame. -/
theorem Machine.keeps_or_other_of_act {μ ω} {machine : Machine μ ω} {op : Opcode} {value : Word}
    {frame next : Frame μ ω} (h : machine.act op value frame = .ok next) :
    frame.Keeps next ∨ machine.other op frame = .ok next := by
  unfold Machine.act at h
  split at h
  · cases h; exact .inl ⟨rfl, rfl⟩
  · cases h; exact .inl ⟨rfl, rfl⟩
  · rcases frame with ⟨_ | ⟨a, stack⟩, memory, world⟩ <;> cases h
    exact .inl ⟨rfl, rfl⟩
  · exact .inl (Frame.keeps_of_dup h)
  · exact .inl (Frame.keeps_of_swap h)
  · rcases frame with ⟨_ | ⟨a, _ | ⟨b, stack⟩⟩, memory, world⟩ <;> cases h
    exact .inl ⟨rfl, rfl⟩
  · rcases frame with ⟨_ | ⟨a, stack⟩, memory, world⟩ <;> cases h
    exact .inl ⟨rfl, rfl⟩
  · cases h
  · rcases frame with ⟨_ | ⟨a, _ | ⟨b, stack⟩⟩, memory, world⟩ <;> cases h
  · rcases frame with ⟨_ | ⟨a, _ | ⟨b, stack⟩⟩, memory, world⟩ <;> cases h
  · rcases frame with ⟨_ | ⟨a, stack⟩, memory, world⟩ <;> cases h
  · cases h
  · exact .inr h

namespace Outside
variable {Ω : Type} {outside : Outside Ω} {origin : Address} {opcode : Opcode} {value : Word}
  {frame next : Frame Memory (World Ω)}

/-- What an opcode does to memory and world: it writes bytes into the region that it may write, and
only calls and creations replace the return data. -/
def Writes (opcode : Opcode) (frame next : Frame Memory (World Ω)) : Prop :=
  ∃ bytes : Bytes, bytes.length ≤ (opcode.writes frame.stack).2.toNat ∧
    next.memory = frame.memory.write (opcode.writes frame.stack).1.toNat bytes ∧
    (opcode.isCall = false → opcode.isCreation = false →
      next.world.returnData = frame.world.returnData)

theorem writes_of_keeps (h : frame.Keeps next) : Writes opcode frame next :=
  ⟨[], Nat.zero_le _, by rw [h.1, Memory.write_nil], fun _ _ => by rw [h.2]⟩

theorem writes_of_enter (hc : opcode.isCall) (h : outside.enter opcode frame = .ok next) :
    Writes opcode frame next := by
  unfold enter at h
  cases ht : frame.take opcode.takes with
  | error outcome => simp [ht, bind, Except.bind] at h
  | ok taken =>
    obtain ⟨words, below⟩ := taken
    simp only [ht, bind, Except.bind] at h
    cases h
    obtain ⟨-, rfl⟩ := Frame.take_ok ht
    exact ⟨_, by simp, rfl, fun hn => by simp [hc] at hn⟩

theorem writes_of_copyReturnData (h : copyReturnData frame = .ok next) :
    Writes .returndatacopy frame next := by
  unfold copyReturnData at h
  rcases frame with ⟨_ | ⟨target, _ | ⟨offset, _ | ⟨size, stack⟩⟩⟩, memory, world⟩
  · cases h
  · cases h
  · cases h
  · simp only [Frame.pop, bind, Except.bind] at h
    split at h <;> cases h
    exact ⟨_, by simp [Opcode.writes], rfl, fun _ _ => rfl⟩

theorem writes_of_effect (h : outside.effect opcode frame = .ok next) :
    Writes opcode frame next := by
  unfold effect at h
  cases ht : frame.take opcode.takes with
  | error outcome => simp [ht, bind, Except.bind] at h
  | ok taken =>
    obtain ⟨words, below⟩ := taken
    simp only [ht, bind, Except.bind] at h
    split at h
    · cases h
    · cases h
      exact ⟨_, by simp, rfl, fun _ hc => by rw [hc]; rfl⟩

theorem writes_of_other (h : outside.other opcode frame = .ok next) : Writes opcode frame next := by
  unfold other at h
  cases opcode with
  | add | sub | and | lt | gt | shl => exact writes_of_keeps (Frame.keeps_of_binary h)
  | not | mload => exact writes_of_keeps (Frame.keeps_of_unary h)
  | mstore =>
    rcases frame with ⟨_ | ⟨offset, _ | ⟨value, stack⟩⟩, memory, world⟩ <;> cases h
    exact ⟨wordBytes value, Nat.le_of_eq (Memory.length_wordBytes _), rfl, fun _ _ => rfl⟩
  | gas | msize | returndatasize => exact writes_of_keeps (by cases h; exact ⟨rfl, rfl⟩)
  | returndatacopy => exact writes_of_copyReturnData h
  | call | callcode | delegatecall | staticcall => exact writes_of_enter rfl h
  | undefined | data => cases h
  | _ => exact writes_of_effect h

/-- **Memory changes in the region that an opcode writes only, and the return data in calls and
creations only.** -/
theorem writes_of_act (h : (outside.machine origin).act opcode value frame = .ok next) :
    Writes opcode frame next :=
  (Machine.keeps_or_other_of_act h).elim writes_of_keeps writes_of_other

end Outside
end EvmProbe
