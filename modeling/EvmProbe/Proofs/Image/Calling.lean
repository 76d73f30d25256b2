import EvmProbe.Proofs.Image.CallCalldata
import EvmProbe.Proofs.Image.ReturnData

/-!
How an image makes the calls of deployed code.

A call is made once, with the operands of the program and its memory below scratch memory
(`CallMade`), whatever it returns; then the hooks account is called, and the next site is reached
with what the call pushed.

* `makesCalls_of_patchFrom`: every image makes calls so.
* `makesCalls_recorded`: a call and its report on the record of an outside.
-/

namespace EvmProbe

open Bytecode Linking StateTransition

/-- A call on record. -/
structure CallRecord where
  opcode : Opcode
  gas : Word
  address : Word
  value : Word
  input : Bytes

/-- An outside that keeps a record of calls, in which every call succeeds and returns a byte. -/
def Outside.recording (byte : UInt8) : Outside (List CallRecord) where
  call opcode gas address value input outer :=
    ⟨true, [byte], outer ++ [⟨opcode, gas, address, value, input⟩]⟩
  meter _ _ := 0
  perform _ _ _ outer := some ⟨0, fun _ => 0, [], outer⟩

namespace Patcher

/-- How a call is made and reported. The machine gets to the opcode at `position`, with the memory
`before`; `after` is the memory in which the call is reported. -/
structure CallMade {Ω : Type} (outside : Outside Ω) (origin : Address) (patcher : Patcher)
    (first : Scope) (code image : Bytes) (i : Nat) (opcode : Opcode) (o : CallOperands)
    (s : List Word) (m : Memory) (world : World Ω) (reply : Reply Ω) (position : Nat)
    (before after : Memory) (data buffer : Bytes) : Prop where
  /-- The opcode stands at the position. -/
  opcode_eq : image[position]? = opcode.toByte?
  /-- The machine gets there with the operands, and nothing has become of the world. -/
  enters : (outside.machine origin).Stays image (OffSite patcher first code)
    (.running (expansionStart patcher first code i) ⟨o.stack opcode ++ s, m, world⟩)
    (.running position ⟨o.stack opcode ++ (o.stack opcode ++ s), before, ⟨data, world.outer⟩⟩)
  /-- Below scratch memory, the memory is that of the program. -/
  before_eq : ∀ address < Environment.scratchMemLoc, before address = m address
  /-- One step makes the call, and the reply is that to the call of the program. -/
  made : (outside.machine origin).step image
      (.running position ⟨o.stack opcode ++ (o.stack opcode ++ s), before, ⟨data, world.outer⟩⟩) =
    some (.running (position + 1) (Outside.accept reply o.retOffset o.retSize
      ⟨o.stack opcode ++ s, before, ⟨data, world.outer⟩⟩))
  /-- From there the hooks account is called, and then the next site is reached, with what the call
  pushed. -/
  reported : Delegates outside origin patcher first code image
    (.running (position + 1) (Outside.accept reply o.retOffset o.retSize
      ⟨o.stack opcode ++ s, before, ⟨data, world.outer⟩⟩))
    ((CallReport.made opcode o reply.success).calldataSize after) after ⟨buffer, reply.outer⟩
    fun later => .running (expansionStart patcher first code (i + 1))
      ⟨flag (reply.success = true) :: s, after, later⟩
  /-- What precedes the input in the report. -/
  head : after.read Environment.scratchMemLoc 0x104 = wordBytes patcher.options.selectors.call ++
    [opcode.callKind, (o.address.setWidth 160).setWidth 256, o.value, o.gas,
      flag (reply.success = true), 0xe0,
      BitVec.ofNat 256 (0x100 + (o.argsSize.toNat + 31) / 32 * 32), o.argsSize].flatMap wordBytes
  /-- Below scratch memory, the memory is as the call leaves that of the program. -/
  after_eq : ∀ address < Environment.scratchMemLoc, after address =
    m.write o.retOffset.toNat (reply.data.take o.retSize.toNat) address

/-- How an image makes calls: once each, with its own operands, whatever they are and whatever is
returned. -/
def MakesCalls {Ω : Type} (outside : Outside Ω) (origin : Address) (patcher : Patcher)
    (first : Scope) (code image : Bytes) : Prop :=
  ∀ i inst (o : CallOperands) s m world reply, (disassemble first code)[i]? = some inst →
    inst.opcode.isCall → (inst.opcode.hasValue = false → o.value = 0) →
    Below (o.argsOffset, o.argsSize) →
    reply = outside.replyTo inst.opcode o m world.outer →
    ∃ position before data buffer,
      CallMade outside origin patcher first code image i inst.opcode o s m world reply position
        before
        (m.withCallMade patcher.options.selectors.call inst.opcode o reply.success reply.data)
        data buffer

section
variable {Ω : Type} (outside : Outside Ω) (origin : Address) {patcher : Patcher}
  {base first : Scope} {code image : Bytes} {table : Table} {i : Nat} {inst : Instruction}

/-- **An image makes the calls of deployed code, and reports them.** -/
theorem makesCalls_of_patchFrom {options : PatchOptions}
    (hp : Patcher.new options base = .ok patcher) (hc : code ≠ [])
    (h : patcher.patchFrom first code = .ok image) (hsize : image.length ≤ 2 ^ 256)
    (hl : options.logsOnly = false) : MakesCalls outside origin patcher first code image := by
  obtain ⟨ho, hp⟩ := assembled_of_new hp
  obtain ⟨table, w⟩ := patchFrom_ok hc h
  rw [← ho] at hl
  intro i inst o s m world reply hi hcall hv hb hr
  have hargs := hb.size_le
  have hreply : reply = outside.replyTo inst.opcode o (m.withInput o) world.outer :=
    hr.trans (outside.replyTo_withInput inst.opcode hb m world.outer).symm
  obtain ⟨position, buffer, back, hbyte, henter, hinner, hcalls, hoff, hleave⟩ :=
    delegates_call outside origin hp w hi hsize hl hcall o hv s m world reply rfl
  have hstep := outside.step_isCall origin hcall hbyte o hv (o.stack inst.opcode ++ s)
    (m.withInput o)
    ⟨m.read o.argsOffset.toNat o.argsSize.toNat, world.outer⟩
  rw [← hreply] at hstep
  exact ⟨position, m.withInput o, _, buffer, {
    opcode_eq := hbyte
    enters := henter
    before_eq := fun address hlt => Memory.write_before _ (Nat.lt_of_lt_of_le hlt (by decide))
    made := hstep
    reported := hcalls.append (fun _ => hoff) fun _ => hleave _
    head := Memory.read_withCall_head _ _ (r := .made inst.opcode o reply.success) hargs reply.data
    after_eq := fun address hlt => (Memory.withCall_below _ _
      (r := .made inst.opcode o reply.success) hargs reply.data hlt).trans
        (m.withReply_below o reply.data hlt) }⟩

end

/-- An image that makes a call of account 9 with four bytes of input and reports it; in an outside
that keeps a record of calls, these two are on it and no others. -/
theorem makesCalls_recorded : ∃ patcher image,
    Patcher.new {} ⟨0⟩ = .ok patcher ∧ patcher.patch [0xf1, 0x00] = .ok image ∧
    image.length ≤ 2 ^ 256 ∧
    MakesCalls (.recording 0x2a) 0 patcher firstScope [0xf1, 0x00] image ∧
    ∀ s m, ∃ after data gas calldata, Reaches (((Outside.recording 0x2a).machine 0).step image)
      (.running (expansionStart patcher firstScope [0xf1, 0x00] 0)
        ⟨5 :: 9 :: 3 :: 0 :: 4 :: 0x20 :: 1 :: s, m, ⟨[], []⟩⟩)
      (.running (expansionStart patcher firstScope [0xf1, 0x00] 1) ⟨1 :: s, after,
        ⟨data, [⟨.call, 5, 9, 3, m.read 0 4⟩,
          ⟨.delegatecall, gas, patcher.options.hooksAddress.setWidth 256, 0, calldata⟩]⟩⟩) := by
  obtain ⟨patcher, image, hp, himg, hl⟩ := exists_image_of_length ⟨0⟩ firstScope [0xf1, 0x00]
    {} (by decide) (by simp [AddressMap.empty]) (by decide)
  have hsize : image.length ≤ 2 ^ 256 := Nat.le_trans hl (by decide)
  have hmakes := makesCalls_of_patchFrom (.recording 0x2a) 0 hp (by decide) himg hsize rfl
  refine ⟨patcher, image, hp, himg, hsize, hmakes, fun s m => ?_⟩
  obtain ⟨position, before, data, buffer, hmade⟩ := hmakes 0 _ ⟨5, 9, 3, 0, 4, 0x20, 1⟩ s m ⟨[], []⟩
    _ rfl rfl (fun h => absurd h (by decide)) (.inr (by decide)) rfl
  obtain ⟨place, gas, below, -, hrun, hreply⟩ := hmade.reported
  have hcall := (hmade.enters.1.reaches₁.to_reflTransGen.tail hmade.made).trans
    hrun.1.reaches₁.to_reflTransGen
  exact ⟨_, _, gas, _, hcall.trans ((hreply _ rfl).1 rfl).reaches₁.to_reflTransGen⟩

end Patcher

end EvmProbe
