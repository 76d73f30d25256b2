import EvmProbe.Proofs.Image.Hooks

/-!
The patches of calls, and the routine that reports calls.

A patch copies the input behind where the head of the report is to stand, makes the call with copies
of its operands, and enters the routine.  The routine saves the return data, puts the report
together in scratch memory, with the output from what was saved, and leaves what the call pushed.

* `withCall`: the memory with the report; `Saves`, `saves_withCall`: the return data that is saved.
* `delegates_callHook`: the routine passes the report on and returns.
* `delegates_call`: a call is made with its operands, and then reported; `delegates_callSite`: both
  together.
* `passes_call_failure`: without its operands it fails.
-/

namespace EvmProbe

open Bytecode Linking

/-- The operands of a call. -/
structure CallOperands where
  gas : Word
  address : Word
  value : Word
  argsOffset : Word
  argsSize : Word
  retOffset : Word
  retSize : Word

/-- The operands as a call finds them on the stack, top first. -/
def CallOperands.stack (o : CallOperands) (opcode : Opcode) : List Word :=
  if opcode.hasValue then
    [o.gas, o.address, o.value, o.argsOffset, o.argsSize, o.retOffset, o.retSize]
  else [o.gas, o.address, o.argsOffset, o.argsSize, o.retOffset, o.retSize]

/-- A stack that is high enough for a call starts with operands. -/
theorem exists_callOperands {opcode : Opcode} (hc : opcode.isCall) {stack : List Word}
    (h : opcode.takes ≤ stack.length) : ∃ (o : CallOperands) (s : List Word),
      (opcode.hasValue = false → o.value = 0) ∧ stack = o.stack opcode ++ s := by
  match opcode, hc, stack, h with
  | .call, _, gas :: address :: value :: argsOffset :: argsSize :: retOffset :: retSize :: s, _ =>
    exact ⟨⟨gas, address, value, argsOffset, argsSize, retOffset, retSize⟩, s,
      by simp [Opcode.hasValue], rfl⟩
  | .callcode, _,
      gas :: address :: value :: argsOffset :: argsSize :: retOffset :: retSize :: s, _ =>
    exact ⟨⟨gas, address, value, argsOffset, argsSize, retOffset, retSize⟩, s,
      by simp [Opcode.hasValue], rfl⟩
  | .delegatecall, _, gas :: address :: argsOffset :: argsSize :: retOffset :: retSize :: s, _ =>
    exact ⟨⟨gas, address, 0, argsOffset, argsSize, retOffset, retSize⟩, s, fun _ => rfl, rfl⟩
  | .staticcall, _, gas :: address :: argsOffset :: argsSize :: retOffset :: retSize :: s, _ =>
    exact ⟨⟨gas, address, 0, argsOffset, argsSize, retOffset, retSize⟩, s, fun _ => rfl, rfl⟩

/-- How the kinds of calls are reported. -/
def Opcode.callKind : Opcode → Word
  | .staticcall => 1
  | .delegatecall => 2
  | .callcode => 4
  | _ => 0

/-- What is known of a call once it was made. -/
structure CallReport extends CallOperands where
  kind : Word
  success : Word

namespace CallReport

/-- The words from which a call is reported, top first. -/
def stack (r : CallReport) : List Word :=
  [r.kind, r.success, r.gas, r.address, r.value, r.argsOffset, r.argsSize, r.retOffset, r.retSize]

/-- The size of the input, rounded up to words. -/
def roundedSize (r : CallReport) : Word := ~~~0x1f#256 &&& (0x1f#256 + r.argsSize)

/-- Where the output of a call is reported. -/
def outputPlace (r : CallReport) : Word := 0x8000#256 + (0x104#256 + r.roundedSize)

end CallReport

/-! ## Rounding -/

theorem and_not_31 (x : Word) : ~~~0x1f#256 &&& x = (x >>> 5) <<< 5 := by
  ext i hi
  have hbit : (0x1f#256)[i] = decide (i < 5) := by
    rw [BitVec.getElem_eq_testBit_toNat, show (0x1f#256).toNat = 2 ^ 5 - 1 from rfl,
      Nat.testBit_two_pow_sub_one]
  rw [BitVec.getElem_and, BitVec.getElem_not, BitVec.getElem_shiftLeft, hbit]
  by_cases h : i < 5
  · simp [h]
  · simp [h, show 5 + (i - 5) = i by omega, BitVec.getLsbD_eq_getElem hi]

/-- Clearing the last five bits rounds down to words. -/
theorem toNat_and_not_31 (x : Word) : (~~~0x1f#256 &&& x).toNat = x.toNat / 32 * 32 := by
  rw [and_not_31, BitVec.toNat_shiftLeft, BitVec.toNat_ushiftRight, Nat.shiftRight_eq_div_pow,
    Nat.shiftLeft_eq]
  have := x.isLt
  omega

theorem CallReport.toNat_roundedSize {r : CallReport} (h : r.argsSize.toNat ≤ 0x8000) :
    r.roundedSize.toNat = (r.argsSize.toNat + 31) / 32 * 32 := by
  rw [roundedSize, toNat_and_not_31, BitVec.toNat_add]
  simp only [BitVec.toNat_ofNat]
  omega

/-- Where the output of a call is reported: behind its input, rounded up to words. -/
theorem CallReport.toNat_outputPlace {r : CallReport} (h : r.argsSize.toNat ≤ 0x8000) :
    r.outputPlace.toNat = 0x8104 + (r.argsSize.toNat + 31) / 32 * 32 := by
  have hround := toNat_roundedSize h
  rw [outputPlace, BitVec.toNat_add, BitVec.toNat_add, hround]
  simp only [BitVec.toNat_ofNat]
  omega

namespace Memory

/-- The memory in which the input of a call is kept. -/
def withInput (o : CallOperands) (memory : Memory) : Memory :=
  memory.write 0x8104 (memory.read o.argsOffset.toNat o.argsSize.toNat)

/-- The memory behind a call that gave data back. -/
def withReply (o : CallOperands) (data : Bytes) (memory : Memory) : Memory :=
  (memory.withInput o).write o.retOffset.toNat (data.take o.retSize.toNat)

/-- The memory in which return data is saved. -/
def withSaved (data : Bytes) (memory : Memory) : Memory :=
  (memory.store 0xa000#256 (BitVec.ofNat 256 data.length)).write 0xa020
    (data.take (BitVec.ofNat 256 data.length).toNat)

/-- What precedes the input and the output where a call is reported. -/
def withCallHead (selector : Selector) (r : CallReport) (memory : Memory) : Memory :=
  ((((((((memory.store 0x8000#256 (selector.setWidth 256 <<< 0xe0)).store 0x8004#256 r.kind).store
    0x8024#256 (0xffffffffffffffffffffffffffffffffffffffff#256 &&& r.address)).store
    0x8044#256 r.value).store 0x8064#256 r.gas).store 0x8084#256 r.success).store
    0x80a4#256 0xe0#256).store 0x80c4#256 (0x100#256 + r.roundedSize)).store 0x80e4#256 r.argsSize

/-- The size of the output where a call is reported. -/
def withOutputSize (place : Word) (memory : Memory) : Memory :=
  memory.store place (memory.load 0xa000#256)

/-- The output of a call, from what is saved of it. -/
def withOutput (place : Word) (memory : Memory) : Memory :=
  let memory := memory.withOutputSize place
  memory.write (0x20#256 + place).toNat (memory.read 0xa020 (memory.load 0xa000#256).toNat)

/-- The memory in which a call is reported. -/
def withCall (selector : Selector) (r : CallReport) (data : Bytes) (memory : Memory) : Memory :=
  ((memory.withSaved data).withCallHead selector r).withOutput r.outputPlace

end Memory

/-- How much of scratch memory is passed on, from the size of the output that is saved. -/
def CallReport.calldataSize (r : CallReport) (memory : Memory) : Word :=
  0x20#256 + (memory.load 0xa000#256 + r.outputPlace) - 0x8000#256

namespace Memory

/-! ### Saved return data -/

/-- Return data is saved in memory: its size, and its bytes. -/
structure Saves (memory : Memory) (data : Bytes) : Prop where
  bounded : 0xa020 + data.length < 2 ^ 256
  size : memory.load 0xa000#256 = BitVec.ofNat 256 data.length
  bytes : memory.read 0xa020 data.length = data

section
variable {memory after : Memory} {data : Bytes}

/-- What changes elsewhere leaves saved return data alone. -/
theorem Saves.of_changesWithin {low high : Nat} (h : memory.Saves data)
    (hc : ChangesWithin low high memory after)
    (hs : high ≤ 0xa000 ∨ 0xa020 + data.length ≤ low) : after.Saves data where
  bounded := h.bounded
  size := by
    rw [hc.load_eq, h.size]
    simp only [BitVec.toNat_ofNat]
    omega
  bytes := by
    rw [hc.read_eq (by omega), h.bytes]

/-- The size that is saved. -/
theorem Saves.toNat_size (h : memory.Saves data) :
    (memory.load 0xa000#256).toNat = data.length := by
  have hbounded := h.bounded
  rw [h.size, BitVec.toNat_ofNat, Nat.mod_eq_of_lt (by omega)]

variable (memory) in
theorem saves_withSaved (h : 0xa020 + data.length < 2 ^ 256) :
    (memory.withSaved data).Saves data := by
  have htake : data.take (BitVec.ofNat 256 data.length).toNat = data := by
    rw [BitVec.toNat_ofNat, Nat.mod_eq_of_lt (by omega), List.take_length]
  refine ⟨h, ?_, ?_⟩
  · have hwrite := ChangesWithin.write (memory.store 0xa000#256 (BitVec.ofNat 256 data.length))
      (Nat.le_refl 0xa020) (Nat.le_refl (0xa020 + data.length))
    rw [withSaved, htake, hwrite.load_eq (.inl (by decide)), load_store]
  · rw [withSaved, htake, read_write]

variable (memory) in
theorem changesWithin_withCallHead (selector : Selector) (r : CallReport) :
    ChangesWithin 0x8000 0x8104 memory (memory.withCallHead selector r) := by
  have hstore (memory : Memory) {target : Word} (value : Word) (h : 0x8000 ≤ target.toNat)
      (h' : target.toNat + 32 ≤ 0x8104) :
      ChangesWithin 0x8000 0x8104 memory (memory.store target value) := .store memory value h h'
  exact ((((((((hstore _ _ (by decide) (by decide)).trans
    (hstore _ _ (by decide) (by decide))).trans (hstore _ _ (by decide) (by decide))).trans
    (hstore _ _ (by decide) (by decide))).trans
    (hstore _ _ (by decide) (by decide))).trans (hstore _ _ (by decide) (by decide))).trans
    (hstore _ _ (by decide) (by decide))).trans (hstore _ _ (by decide) (by decide))).trans
    (hstore _ _ (by decide) (by decide))

variable (memory) in
/-- The head of a report leaves the return data saved. -/
theorem saves_withCallHead (selector : Selector) (r : CallReport)
    (h : 0xa020 + data.length < 2 ^ 256) :
    ((memory.withSaved data).withCallHead selector r).Saves data :=
  (memory.saves_withSaved h).of_changesWithin (changesWithin_withCallHead _ selector r)
    (.inl (by decide))

/-- The output of a call is reported where it does not reach saved return data. -/
def Fits (argsSize length : Nat) : Prop :=
  0x8104 + (argsSize + 31) / 32 * 32 + 0x20 + length ≤ 0xa000 ∨
    0xa020 + length ≤ 0x8104 + (argsSize + 31) / 32 * 32

/-- Behind the size of an output stand its bytes. -/
theorem toNat_outputBytes (place : Word) (h : place.toNat < 2 ^ 255) :
    (0x20#256 + place).toNat = place.toNat + 0x20 := by
  rw [BitVec.toNat_add]
  simp only [BitVec.toNat_ofNat]
  omega

/-- Once the size of an output was put somewhere, its bytes leave it saved if they are put
elsewhere. -/
theorem Saves.withOutput {place : Word} (h : (memory.withOutputSize place).Saves data)
    (hplace : place.toNat < 2 ^ 255)
    (hs : place.toNat + 0x20 + data.length ≤ 0xa000 ∨ 0xa020 + data.length ≤ place.toNat + 0x20) :
    (memory.withOutput place).Saves data := by
  refine h.of_changesWithin (.write _ (Nat.le_refl _) (Nat.le_refl _)) ?_
  rwa [toNat_outputBytes place hplace, h.toNat_size, length_read]

/-- **A reported call leaves its return data saved**, unless input and output are so large that the
report reaches it. -/
theorem saves_withCall (selector : Selector) {r : CallReport} (hargs : r.argsSize.toNat ≤ 0x8000)
    (hfits : Fits r.argsSize.toNat data.length) : (memory.withCall selector r data).Saves data := by
  have hplace := r.toNat_outputPlace hargs
  rw [Fits, ← hplace] at hfits
  have hlt : 0xa020 + data.length < 2 ^ 256 := by omega
  have hhead := memory.saves_withCallHead selector r hlt
  rw [withCall]
  generalize ((memory.withSaved data).withCallHead selector r) = memory at hhead
  have hsize : (memory.withOutputSize r.outputPlace).Saves data :=
    hhead.of_changesWithin (.store _ _ (Nat.le_refl _) (Nat.le_refl _)) (by omega)
  exact hsize.withOutput (by omega) (by omega)

end

end Memory

namespace Outside
variable {Ω : Type} (outside : Outside Ω)

/-- The reply to a call with its input in memory. -/
def replyTo (opcode : Opcode) (o : CallOperands) (memory : Memory) (outer : Ω) : Reply Ω :=
  outside.reply opcode o.gas o.address o.value
    (memory.read o.argsOffset.toNat o.argsSize.toNat) outer

/-- What a call does. -/
theorem act_isCall (origin : Address) {opcode : Opcode} (hc : opcode.isCall) (value : Word)
    (o : CallOperands) (hv : opcode.hasValue = false → o.value = 0) (s : List Word) (m : Memory)
    (world : World Ω) :
    (outside.machine origin).act opcode value ⟨o.stack opcode ++ s, m, world⟩ =
      .ok (accept (outside.replyTo opcode o m world.outer) o.retOffset o.retSize
        ⟨s, m, world⟩) := by
  obtain ⟨gas, address, amount, argsOffset, argsSize, retOffset, retSize⟩ := o
  unfold Opcode.isCall at hc
  split at hc
  · rfl
  · rfl
  · obtain rfl : amount = 0 := hv rfl
    rfl
  · obtain rfl : amount = 0 := hv rfl
    rfl
  · cases hc

/-- A step at a call makes it. -/
theorem step_isCall (origin : Address) {image : Bytes} {position : Nat} {opcode : Opcode}
    (hc : opcode.isCall) (hbyte : image[position]? = opcode.toByte?) (o : CallOperands)
    (hv : opcode.hasValue = false → o.value = 0) (s : List Word) (m : Memory) (world : World Ω) :
    (outside.machine origin).step image (.running position ⟨o.stack opcode ++ s, m, world⟩) =
      some (.running (position + 1) (accept (outside.replyTo opcode o m world.outer) o.retOffset
        o.retSize ⟨s, m, world⟩)) := by
  have hact := outside.act_isCall origin hc 0 o hv s m world
  obtain ⟨byte, hb, rfl, hw, hs⟩ : ∃ byte, opcode.toByte? = some byte ∧
      Opcode.ofByte byte = opcode ∧ opcode.width = 0 ∧ opcode.isStraight := by
    unfold Opcode.isCall at hc
    split at hc
    · exact ⟨0xf1, rfl, rfl, rfl, rfl⟩
    · exact ⟨0xf2, rfl, rfl, rfl, rfl⟩
    · exact ⟨0xf4, rfl, rfl, rfl, rfl⟩
    · exact ⟨0xfa, rfl, rfl, rfl, rfl⟩
    · cases hc
  rw [Machine.step_of_getElem? (hbyte.trans hb) hw hs, hact]
  rfl

end Outside

namespace Patcher

section
variable {Ω : Type} (outside : Outside Ω) (origin : Address) {patcher : Patcher}
  {base first : Scope} {code image : Bytes} {table : Table} {target : Nat}
  (hp : patcher.Assembled base)
  (w : Written (patcher.leading code ++ patcher.instrumented first code) table image)
include hp w

/-- **The routine that reports a call.** -/
theorem delegates_callHook (hsize : image.length ≤ 2 ^ 256) (hd : IsDestination image target)
    (r : CallReport) (s : List Word) (m : Memory) (world : World Ω) :
    ∃ buffer, Delegates outside origin patcher first code image
      (.running (routineStart patcher first code .callHook)
        ⟨BitVec.ofNat 256 target :: r.stack ++ s, m, world⟩)
      (r.calldataSize (m.withCall patcher.options.selectors.call r world.returnData))
      (m.withCall patcher.options.selectors.call r world.returnData) ⟨buffer, world.outer⟩
      fun later => .running target
        ⟨r.success :: s, m.withCall patcher.options.selectors.call r world.returnData, later⟩ := by
  have seg := segment_routine first code .callHook hp (by decide)
  obtain ⟨hback, hoff⟩ := seg.inner_label (n := 103) w rfl rfl (by decide)
  have hsave := seg.stays_run (outside.machine origin)
    ⟨BitVec.ofNat 256 target :: r.stack ++ s, m, world⟩
    ⟨BitVec.ofNat 256 target :: r.stack ++ s, m.withSaved world.returnData, world⟩ w
    (n := 0) (k := 10) (by decide) rfl rfl
    (by simp [Fragment.Template.callHook, Memory.withSaved, CallReport.stack, Nat.mod_le])
  have hhead := seg.stays_run (outside.machine origin)
    ⟨BitVec.ofNat 256 target :: r.stack ++ s, m.withSaved world.returnData, world⟩
    ⟨BitVec.ofNat 256 target :: r.stack ++ s,
      (m.withSaved world.returnData).withCallHead patcher.options.selectors.call r, world⟩ w
    (n := 10) (k := 54) (by decide) rfl rfl
    (by simp [Fragment.Template.callHook, Memory.withCallHead, CallReport.stack,
      CallReport.roundedSize])
  generalize hm : (m.withSaved world.returnData).withCallHead patcher.options.selectors.call r = m'
    at hhead
  have houtput := seg.stays_run (outside.machine origin)
    ⟨BitVec.ofNat 256 target :: r.stack ++ s, m', world⟩
    ⟨r.calldataSize (m'.withOutput r.outputPlace) ::
      BitVec.ofNat 256 target :: r.stack ++ s, m'.withOutput r.outputPlace,
      ⟨(m'.withOutputSize r.outputPlace).read 0xa020
        ((m'.withOutputSize r.outputPlace).load 0xa000#256).toNat, world.outer⟩⟩ w
    (n := 64) (k := 36) (by decide) rfl rfl
    (by simp [Fragment.Template.callHook, Memory.withOutput, Memory.withOutputSize,
      CallReport.stack, CallReport.calldataSize, CallReport.outputPlace, CallReport.roundedSize,
      Outside.accept])
  rw [Memory.withCall, hm]
  exact ⟨_, (Delegates.prepend (hsave.trans (hhead.trans houtput))
    (seg.delegates_call outside origin (n := 100) hp w hsize rfl hback _ _ _ _)).append
      (fun _ => hoff) fun later => seg.passes_return (outside.machine origin) w hsize _ (n := 103)
        (k := 13) (by decide) rfl rfl (by simp [Fragment.Template.callHook, CallReport.stack]) hd⟩

/-! ## Sites -/

section
variable {i : Nat} {inst : Instruction} (hi : (disassemble first code)[i]? = some inst)
  (hsize : image.length ≤ 2 ^ 256)
include hi hsize

/-- A patch gets to the call behind its first `k` instructions, and with `j` more to the report.
From where the report comes back to, the next expansion is reached. -/
theorem delegates_patch {fragment : Fragment} {k j : Nat} {called : Instruction} {byte : UInt8}
    {stack operands below s : List Word} {m m' m'' : Memory} {world world' : World Ω} {data : Bytes}
    {outer : Ω} (r : CallReport) {code' : List Instruction}
    (hr : Image.replaced? patcher.options.logsOnly inst.opcode = some fragment)
    (hcode : code' = fragment.code patcher.options ((innerScope first code).after i))
    (hk : 0 < k) (hj : 0 < j) (hcalled : code'[k]? = some called)
    (hbyte : called.opcode.toByte? = some byte) (hwidth : called.opcode.width = 0)
    (hplain : ((code'.drop 0).take k).all Instruction.isPlain)
    (hfront : (outside.machine origin).runBlock table ((code'.drop 0).take k) ⟨stack, m, world⟩ =
      .ok ⟨operands, m', world'⟩)
    (hplain' : ((code'.drop (k + 1)).take j).all Instruction.isPlain)
    (hrest : (outside.machine origin).runBlock table ((code'.drop (k + 1)).take j)
      ⟨below, m'', ⟨data, outer⟩⟩ = .ok ⟨r.stack ++ s, m'', ⟨data, outer⟩⟩)
    (hdrop : code'.drop (k + 1 + j) =
      duplicate ((innerScope first code).after i) [.pushLabel (.pushN 3) (.lexical "resume"),
        .pushLabel (.pushN 3) (.global "call-hook"), .plain .jump,
        (Instruction.plain .jumpdest).labelled (.lexical "resume")]) :
    ∃ position buffer back, image[position]? = some byte ∧
      (outside.machine origin).Stays image (OffSite patcher first code)
        (.running (expansionStart patcher first code i) ⟨stack, m, world⟩)
        (.running position ⟨operands, m', world'⟩) ∧
      OffSite patcher first code (position + 1) ∧
      Delegates outside origin patcher first code image
        (.running (position + 1) ⟨below, m'', ⟨data, outer⟩⟩)
        (r.calldataSize (m''.withCall patcher.options.selectors.call r data))
        (m''.withCall patcher.options.selectors.call r data) ⟨buffer, outer⟩
        (fun later => .running back
          ⟨r.success :: s, m''.withCall patcher.options.selectors.call r data, later⟩) ∧
      OffSite patcher first code back ∧
      ∀ frame, (outside.machine origin).Passes image (OffSite patcher first code)
        (.running back frame) (.running (expansionStart patcher first code (i + 1)) frame) := by
  have hlast := (Segment.drop_succ_of_drop 0 (Segment.drop_succ_of_drop 0
    (Segment.drop_succ_of_drop 0 hdrop).1).1).1
  obtain ⟨back, hback, hd, hoff, hleave⟩ :=
    exists_resume (outside.machine origin) hp w hi hr (Nat.succ_pos _) (hcode ▸ hlast)
  have seg := segment_expansion hp hi
  rw [expansion_of_replaced hp hr, ← hcode] at seg
  have hlength := (Segment.drop_succ_of_drop 0 hdrop).2.1
  have hfront := seg.stays_run (outside.machine origin) _ _ w hk (by simp; omega) hplain hfront
  have hrest := seg.stays_run (outside.machine origin) _ _ w hj (by simp; omega) hplain' hrest
  have henter := seg.stays_call (outside.machine origin) hp w hsize
    ⟨r.stack ++ s, m'', ⟨data, outer⟩⟩ hdrop hback (getElem?_routine hp w .callHook (by decide))
    (offSite_routineStart _ _ _ hp)
  obtain ⟨buffer, hreport⟩ := delegates_callHook outside origin hp w hsize hd r s m'' ⟨data, outer⟩
  have hnext := address_succ (expansionStart patcher first code i) hcalled hbyte
  rw [Nat.zero_add] at hfront
  have hinner := seg.offSite (Nat.succ_pos k) (by omega)
  rw [hnext, hwidth] at hrest hinner
  exact ⟨_, buffer, back, seg.getElem?_image w hcalled hbyte, hfront, hinner,
    hreport.prepend (hrest.trans henter), hoff, hleave⟩

variable (hl : patcher.options.logsOnly = false) (hc : inst.opcode.isCall)
include hl hc

/-- **A call is made with its operands, and then reported.** -/
theorem delegates_call (o : CallOperands) (hv : inst.opcode.hasValue = false → o.value = 0)
    (s : List Word) (m : Memory) (world : World Ω) (reply : Reply Ω) {r : CallReport}
    (hreport : r = ⟨o, inst.opcode.callKind, flag (reply.success = true)⟩) :
    ∃ position buffer back, image[position]? = inst.opcode.toByte? ∧
      (outside.machine origin).Stays image (OffSite patcher first code)
        (.running (expansionStart patcher first code i) ⟨o.stack inst.opcode ++ s, m, world⟩)
        (.running position ⟨o.stack inst.opcode ++ (o.stack inst.opcode ++ s), m.withInput o,
          ⟨m.read o.argsOffset.toNat o.argsSize.toNat, world.outer⟩⟩) ∧
      OffSite patcher first code (position + 1) ∧
      Delegates outside origin patcher first code image
        (.running (position + 1) ⟨r.success :: (o.stack inst.opcode ++ s), m.withReply o reply.data,
          ⟨reply.data, reply.outer⟩⟩)
        (r.calldataSize ((m.withReply o reply.data).withCall patcher.options.selectors.call r
          reply.data))
        ((m.withReply o reply.data).withCall patcher.options.selectors.call r reply.data)
        ⟨buffer, reply.outer⟩
        (fun later => .running back ⟨r.success :: s,
          (m.withReply o reply.data).withCall patcher.options.selectors.call r reply.data,
          later⟩) ∧
      OffSite patcher first code back ∧
      ∀ frame, (outside.machine origin).Passes image (OffSite patcher first code)
        (.running back frame) (.running (expansionStart patcher first code (i + 1)) frame) := by
  subst hreport
  generalize hop : inst.opcode = opcode at hc hv ⊢
  unfold Opcode.isCall at hc
  split at hc
  · refine delegates_patch (k := 17) (j := 1) outside origin hp w hi hsize _
      (show Image.replaced? _ _ = some .callPatch by rw [hl, hop]; rfl) rfl (by decide) (by decide)
      rfl rfl rfl rfl ?_ rfl ?_ rfl
    · simp [Fragment.Template.callPatch, CallOperands.stack, Opcode.hasValue, Outside.accept,
        Memory.withInput]
    · simp [Fragment.Template.callPatch, CallOperands.stack, Opcode.hasValue, CallReport.stack,
        Opcode.callKind]
  · refine delegates_patch (k := 17) (j := 1) outside origin hp w hi hsize _
      (show Image.replaced? _ _ = some .callcodePatch by rw [hl, hop]; rfl) rfl (by decide)
      (by decide) rfl rfl rfl rfl ?_ rfl ?_ rfl
    · simp [Fragment.Template.callcodePatch, CallOperands.stack, Opcode.hasValue, Outside.accept,
        Memory.withInput]
    · simp [Fragment.Template.callcodePatch, CallOperands.stack, Opcode.hasValue, CallReport.stack,
        Opcode.callKind]
  · refine delegates_patch (k := 16) (j := 5) outside origin hp w hi hsize _
      (show Image.replaced? _ _ = some .delegatecallPatch by rw [hl, hop]; rfl) rfl (by decide)
      (by decide) rfl rfl rfl rfl ?_ rfl ?_ rfl
    · simp [Fragment.Template.delegatecallPatch, CallOperands.stack, Opcode.hasValue,
        Outside.accept, Memory.withInput]
    · simp [Fragment.Template.delegatecallPatch, CallOperands.stack, Opcode.hasValue,
        CallReport.stack, Opcode.callKind, hv rfl]
  · refine delegates_patch (k := 16) (j := 5) outside origin hp w hi hsize _
      (show Image.replaced? _ _ = some .staticcallPatch by rw [hl, hop]; rfl) rfl (by decide)
      (by decide) rfl rfl rfl rfl ?_ rfl ?_ rfl
    · simp [Fragment.Template.staticcallPatch, CallOperands.stack, Opcode.hasValue,
        Outside.accept, Memory.withInput]
    · simp [Fragment.Template.staticcallPatch, CallOperands.stack, Opcode.hasValue,
        CallReport.stack, Opcode.callKind, hv rfl]
  · cases hc

section
variable (o : CallOperands) (hv : inst.opcode.hasValue = false → o.value = 0) (s : List Word)
  (m : Memory) (world : World Ω) {reply : Reply Ω} {r : CallReport}
  (hr : reply = outside.replyTo inst.opcode o (m.withInput o) world.outer)
  (hreport : r = ⟨o, inst.opcode.callKind, flag (reply.success = true)⟩)
include hv hr hreport

/-- The replacement of a call calls the hooks account, and comes back with what the call pushed. -/
theorem delegates_callSite :
    ∃ buffer back, Delegates outside origin patcher first code image
        (.running (expansionStart patcher first code i) ⟨o.stack inst.opcode ++ s, m, world⟩)
        (r.calldataSize ((m.withReply o reply.data).withCall patcher.options.selectors.call r
          reply.data))
        ((m.withReply o reply.data).withCall patcher.options.selectors.call r reply.data)
        ⟨buffer, reply.outer⟩
        (fun later => .running back ⟨r.success :: s,
          (m.withReply o reply.data).withCall patcher.options.selectors.call r reply.data,
          later⟩) ∧
      OffSite patcher first code back ∧
      ∀ frame, (outside.machine origin).Passes image (OffSite patcher first code)
        (.running back frame) (.running (expansionStart patcher first code (i + 1)) frame) := by
  obtain ⟨position, buffer, back, hbyte, henter, hinner, hcalls, hoff, hleave⟩ :=
    delegates_call outside origin hp w hi hsize hl hc o hv s m world reply hreport
  have hstep := outside.step_isCall origin hc hbyte o hv (o.stack inst.opcode ++ s) (m.withInput o)
    ⟨m.read o.argsOffset.toNat o.argsSize.toNat, world.outer⟩
  rw [← hr] at hstep
  subst hreport
  exact ⟨buffer, back, hcalls.prepend (henter.trans ⟨.single hstep, hinner⟩), hoff, hleave⟩

theorem reports_call :
    ∃ back, (∀ frame, (outside.machine origin).Passes image (OffSite patcher first code)
        (.running back frame) (.running (expansionStart patcher first code (i + 1)) frame)) ∧
      Reports outside origin patcher first code image
        (.running (expansionStart patcher first code i) ⟨o.stack inst.opcode ++ s, m, world⟩)
        (((m.withReply o reply.data).withCall patcher.options.selectors.call r reply.data).read
          0x8000 (r.calldataSize ((m.withReply o reply.data).withCall
            patcher.options.selectors.call r reply.data)).toNat) reply.outer
        fun later => .running back ⟨r.success :: s,
          (m.withReply o reply.data).withCall patcher.options.selectors.call r reply.data,
          later⟩ := by
  obtain ⟨_, back, hcalls, hoff, hleave⟩ :=
    delegates_callSite outside origin hp w hi hsize hl hc o hv s m world hr hreport
  exact ⟨back, hleave, hcalls.reports fun _ => hoff⟩

end

omit hsize in
/-- A call without its operands fails before it is made. -/
theorem passes_call_failure {stack : List Word} (h : stack.length < inst.opcode.takes) (m : Memory)
    (world : World Ω) :
    ∃ outcome, (outside.machine origin).Passes image (OffSite patcher first code)
      (.running (expansionStart patcher first code i) ⟨stack, m, world⟩) (.halted outcome) := by
  have seg := segment_expansion hp hi
  have hcode (fragment : Fragment)
      (hr : Image.replaced? patcher.options.logsOnly inst.opcode = some fragment) :
      patcher.expansion first code (inst, i) =
        fragment.code patcher.options ((innerScope first code).after i) :=
    expansion_of_replaced hp hr
  generalize hop : inst.opcode = opcode at hc h
  unfold Opcode.isCall at hc
  split at hc
  · rw [hcode .callPatch (by rw [hl, hop]; rfl)] at seg
    have hnone := List.getElem?_eq_none (Nat.lt_succ_iff.1 h)
    exact seg.exists_passes_halted (outside.machine origin) _ w (n := 0) (k := 1) (by decide)
      rfl rfl (by simp [Fragment.Template.callPatch, hnone])
  · rw [hcode .callcodePatch (by rw [hl, hop]; rfl)] at seg
    have hnone := List.getElem?_eq_none (Nat.lt_succ_iff.1 h)
    exact seg.exists_passes_halted (outside.machine origin) _ w (n := 0) (k := 1) (by decide)
      rfl rfl (by simp [Fragment.Template.callcodePatch, hnone])
  · rw [hcode .delegatecallPatch (by rw [hl, hop]; rfl)] at seg
    have hnone := List.getElem?_eq_none (Nat.lt_succ_iff.1 h)
    exact seg.exists_passes_halted (outside.machine origin) _ w (n := 0) (k := 1) (by decide)
      rfl rfl (by simp [Fragment.Template.delegatecallPatch, hnone])
  · rw [hcode .staticcallPatch (by rw [hl, hop]; rfl)] at seg
    have hnone := List.getElem?_eq_none (Nat.lt_succ_iff.1 h)
    exact seg.exists_passes_halted (outside.machine origin) _ w (n := 0) (k := 1) (by decide)
      rfl rfl (by simp [Fragment.Template.staticcallPatch, hnone])
  · cases hc

end

end

end Patcher

end EvmProbe
