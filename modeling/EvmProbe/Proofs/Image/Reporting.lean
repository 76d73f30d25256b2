import EvmProbe.Proofs.Image.Segment
import EvmProbe.Proofs.Machine.Outside

/-!
How an image reports to the hooks account.

All hooks end in one routine of the library, which passes calldata from scratch memory to the hooks
account by delegate call (`Delegates`).  If that fails, the run ends with the text of the failure;
otherwise it goes on with the reply as the new return data.

* `delegates_checked`: the routine itself.
* `Delegates.prepend`, `Delegates.append`: what is run in front of it and behind it.
* `Delegates.reports`: the same from the start on (`Reports`).
-/

namespace EvmProbe

open Bytecode Linking

attribute [simp] Fragment.Template.remark Fragment.Template.label Fragment.Template.op
  Fragment.Template.dup Fragment.Template.swap Fragment.Template.pushTerm Fragment.Template.push
  Fragment.Template.pushConstant Fragment.Template.pushLabel Fragment.template
  Fragment.Template.codeFrom Fragment.code Fragment.value Environment.Value.operand
  Environment.scratchMemLoc Environment.fakeReturndataMemLoc Opcode.pushN Instruction.word

/-! ## Words of constants -/

@[simp] theorem ofBigEndian_selector (selector : Selector) :
    ofBigEndian (wordBytes selector) = selector.toNat :=
  ofBigEndian_bigEndian selector.isLt

@[simp] theorem ofBigEndian_address (address : Address) :
    ofBigEndian (wordBytes address) = address.toNat :=
  ofBigEndian_bigEndian address.isLt

@[simp] theorem ofBigEndian_word (word : Word) : ofBigEndian (wordBytes word) = word.toNat :=
  ofBigEndian_bigEndian word.isLt

namespace Outside
variable {Ω : Type}

/-- A call that writes nothing gives back the success and the return data. -/
@[simp] theorem accept_zero (reply : Reply Ω) (offset : Word) (frame : Frame Memory (World Ω)) :
    accept reply offset 0#256 frame =
      ⟨flag (reply.success = true) :: frame.stack, frame.memory, ⟨reply.data, reply.outer⟩⟩ := by
  simp [accept]

end Outside

namespace Patcher

/-- What a DELEGATECALL of the hooks account finds: its calldata is in scratch memory, and it is to
write nothing back. -/
def hookFrame {Ω : Type} (patcher : Patcher) (gas size : Word) (below : List Word) (m : Memory)
    (world : World Ω) : Frame Memory (World Ω) :=
  ⟨gas :: patcher.options.hooksAddress.setWidth 256 :: 0x8000 :: size :: 0 :: 0 :: below, m, world⟩

/-- **A run delegate-calls the hooks account** with the first `size` bytes of scratch memory. From
the DELEGATECALL it goes on with the reply, or ends with the text of the failure. -/
def Delegates {Ω : Type} (outside : Outside Ω) (origin : Address) (patcher : Patcher)
    (first : Scope) (code image : Bytes) (start : State Memory (World Ω)) (size : Word) (m : Memory)
    (world : World Ω) (next : World Ω → State Memory (World Ω)) : Prop :=
  ∃ position gas below, image[position]? = some 0xf4 ∧
    (outside.machine origin).Stays image (OffSite patcher first code) start
      (.running position (patcher.hookFrame gas size below m world)) ∧
    ∀ reply, reply = outside.reply .delegatecall gas (patcher.options.hooksAddress.setWidth 256) 0
        (m.read 0x8000 size.toNat) world.outer →
      (reply.success = true → (outside.machine origin).Passes image (OffSite patcher first code)
        (.running position (patcher.hookFrame gas size below m world))
        (next ⟨reply.data, reply.outer⟩)) ∧
      (reply.success = false → ∃ frame,
        (outside.machine origin).Passes image (OffSite patcher first code)
          (.running position (patcher.hookFrame gas size below m world))
          (.halted (.reverted 0 0x20 frame)) ∧
        frame.memory.read 0 0x20 = wordBytes Environment.hookCallFailed)

/-- A run passes calldata to the hooks account. It goes on with the reply, or ends with the text of
the failure. -/
def Reports {Ω : Type} (outside : Outside Ω) (origin : Address) (patcher : Patcher) (first : Scope)
    (code image : Bytes) (start : State Memory (World Ω)) (calldata : Bytes) (outer : Ω)
    (next : World Ω → State Memory (World Ω)) : Prop :=
  ∃ gas, ∀ reply, reply = outside.reply .delegatecall gas
      (patcher.options.hooksAddress.setWidth 256) 0 calldata outer →
    (reply.success = true → (outside.machine origin).Stays image (OffSite patcher first code) start
      (next ⟨reply.data, reply.outer⟩)) ∧
    (reply.success = false → ∃ frame,
      (outside.machine origin).Passes image (OffSite patcher first code) start
        (.halted (.reverted 0 0x20 frame)) ∧
      frame.memory.read 0 0x20 = wordBytes Environment.hookCallFailed)

section
variable {Ω : Type} {outside : Outside Ω} {origin : Address} {patcher : Patcher}
  {base first : Scope} {code image : Bytes} {table : Table} {start earlier : State Memory (World Ω)}
  {size : Word} {m : Memory} {world : World Ω} {next later : World Ω → State Memory (World Ω)}

theorem Delegates.prepend
    (h : (outside.machine origin).Stays image (OffSite patcher first code) earlier start)
    (h' : Delegates outside origin patcher first code image start size m world next) :
    Delegates outside origin patcher first code image earlier size m world next := by
  obtain ⟨position, gas, below, hbyte, hrun, hreply⟩ := h'
  exact ⟨position, gas, below, hbyte, h.trans hrun, hreply⟩

theorem Delegates.append
    (h : Delegates outside origin patcher first code image start size m world next)
    (hnext : ∀ world, (next world).Within (OffSite patcher first code))
    (h' : ∀ world, (outside.machine origin).Passes image (OffSite patcher first code) (next world)
      (later world)) :
    Delegates outside origin patcher first code image start size m world later := by
  obtain ⟨position, gas, below, hbyte, hrun, hreply⟩ := h
  exact ⟨position, gas, below, hbyte, hrun, fun reply hr =>
    ⟨fun hs => ((hreply reply hr).1 hs).trans (hnext _) (h' _), (hreply reply hr).2⟩⟩

/-- What is left if the place of the DELEGATECALL does not matter. -/
theorem Delegates.reports
    (h : Delegates outside origin patcher first code image start size m world next)
    (hnext : ∀ world, (next world).Within (OffSite patcher first code)) :
    Reports outside origin patcher first code image start (m.read 0x8000 size.toNat) world.outer
      next := by
  obtain ⟨position, gas, below, -, hrun, hreply⟩ := h
  refine ⟨gas, fun reply hr => ⟨fun hs => ⟨hrun.passes ((hreply reply hr).1 hs), hnext _⟩,
    fun hf => ?_⟩⟩
  obtain ⟨frame, hhalt, htext⟩ := (hreply reply hr).2 hf
  exact ⟨frame, hrun.passes hhalt, htext⟩

variable (outside origin) (hp : patcher.Assembled base)
  (w : Written (patcher.leading code ++ patcher.instrumented first code) table image)
  (hsize : image.length ≤ 2 ^ 256)
include hp w

/-- The label of a routine of the library is declared where the routine starts. -/
theorem getElem?_routine (fragment : Fragment) (hf : fragment ∈ Fragment.library) :
    table[(⟨none, fragment.name⟩ : Entry)]? = some (routineStart patcher first code fragment) := by
  have seg := segment_routine first code fragment hp hf
  simp only [Fragment.library, List.mem_cons, List.not_mem_nil, or_false] at hf
  rcases hf with rfl | rfl | rfl | rfl | rfl
  all_goals exact seg.entry_address w (n := 0) rfl rfl

include hsize

/-- **The checked call of the hooks account** passes it the calldata in scratch memory. -/
theorem delegates_checked {target : Nat} (hd : IsDestination image target) (size : Word)
    (s : List Word) (m : Memory) (world : World Ω) :
    Delegates outside origin patcher first code image
      (.running (routineStart patcher first code .checkedDelegatecall)
        ⟨BitVec.ofNat 256 target :: size :: s, m, world⟩)
      size m world fun world => .running target ⟨s, m, world⟩ := by
  have seg := segment_routine first code .checkedDelegatecall hp (by decide)
  obtain ⟨hok, hoff⟩ := seg.inner_label (n := 16) w rfl rfl (by decide)
  let below := BitVec.ofNat 256 target :: size :: s
  let gas := outside.meter .gas ⟨patcher.options.hooksAddress.setWidth 256 :: 0x8000#256 :: size ::
    0#256 :: 0#256 :: below, m, world⟩
  have harguments := seg.stays_run (outside.machine origin) ⟨below, m, world⟩
    (patcher.hookFrame gas size below m world) w (n := 0) (k := 7) (by decide) rfl rfl
    (by simp [Fragment.Template.checkedDelegatecall, hookFrame, gas, below])
  refine ⟨_, gas, below, seg.getElem?_image w (n := 7) rfl rfl, harguments, ?_⟩
  rintro reply hr
  have hcall := seg.stays_run (outside.machine origin) (patcher.hookFrame gas size below m world)
    ⟨flag (reply.success = true) :: below, m, ⟨reply.data, reply.outer⟩⟩ w (n := 7) (k := 1)
    (by decide) rfl rfl (by simp [Fragment.Template.checkedDelegatecall, hookFrame, hr])
  have hbranch := seg.stays_branch (n := 8) (outside.machine origin) hp w hsize
    ⟨below, m, ⟨reply.data, reply.outer⟩⟩ rfl hok hoff (flag (reply.success = true))
  refine ⟨fun hs => ?_, fun hf => ?_⟩
  · rw [hs] at hcall hbranch
    exact (hcall.trans hbranch).passes (seg.passes_return (outside.machine origin) w hsize _
      (n := 16) (k := 3) (by decide) rfl rfl
      (by simp [Fragment.Template.checkedDelegatecall, below]) hd)
  · rw [hf] at hcall hbranch
    have hhalt := seg.passes_halt (outside.machine origin) ⟨below, m, ⟨reply.data, reply.outer⟩⟩
      (.reverted 0 0x20 ⟨below, m.store 0 Environment.hookCallFailed, ⟨reply.data, reply.outer⟩⟩) w
      (n := 10) (k := 6) (by decide) rfl rfl (by simp [Fragment.Template.checkedDelegatecall])
    refine ⟨_, (hcall.trans hbranch).passes hhalt, ?_⟩
    exact Memory.length_wordBytes Environment.hookCallFailed ▸ m.read_write 0 _

/-- **A routine passes calldata on** through the checked call. -/
theorem Segment.delegates_call {start n target : Nat} {block rest : List Instruction}
    {scope : Scope} {back : Label} (seg : Segment patcher first code start block)
    (hdrop : block.drop n = (Instruction.pushLabel (.pushN 3) back).inScope scope ::
      (Instruction.pushLabel (.pushN 3) (.global "checked-delegatecall")).inScope scope ::
        (Instruction.plain .jump).inScope scope :: rest)
    (hback : table[back.entryIn scope]? = some target) (size : Word) (s : List Word) (m : Memory)
    (world : World Ω) :
    Delegates outside origin patcher first code image
      (.running (address start block n) ⟨size :: s, m, world⟩) size m world
      fun world => .running target ⟨s, m, world⟩ :=
  (delegates_checked outside origin hp w hsize (isDestination_of_entry hp w hback) size s m
    world).prepend (seg.stays_call (outside.machine origin) hp w hsize ⟨size :: s, m, world⟩ hdrop
      hback (getElem?_routine hp w .checkedDelegatecall (by decide))
      (offSite_routineStart _ _ _ hp))

end

end Patcher

end EvmProbe
