import EvmProbe.Proofs.Image.Reporting

/-!
The routines that report storage writes and logs.

Both put calldata together in scratch memory, and leave the stack as the reported opcode finds it.

* `withWrite`, `withLog`: the memory with the calldata.
* `delegates_sstoreHook`, `delegates_logHook`: the routines pass that calldata on and return.
* `passes_sstoreHook_failure`, `passes_logHook_failure`: without the operands of the opcode they
  fail.
-/

namespace EvmProbe

open Bytecode Linking

namespace Memory

@[simp] theorem take_read (memory : Memory) (offset size : Nat) :
    (memory.read offset size).take size = memory.read offset size :=
  List.take_of_length_le (by simp)

/-- The memory in which a storage write is reported. -/
def withWrite (selector : Selector) (slot value : Word) (memory : Memory) : Memory :=
  ((memory.store 0x8000#256 (selector.setWidth 256 <<< 0xe0)).store 0x8004#256 slot).store
    0x8024#256 value

/-- The selector and the number of topics of a log, with no topics yet. -/
def withLogHead (selector : Selector) (count : Word) (memory : Memory) : Memory :=
  (((((memory.store 0x8000#256 (selector.setWidth 256 <<< 0xe0)).store 0x8004#256 count).store
    0x8024#256 0#256).store 0x8044#256 0#256).store 0x8064#256 0#256).store 0x8084#256 0#256

/-- The place of a topic of a log. -/
def topicPlace (index : Nat) : Word := BitVec.ofNat 256 (0x8024 + 0x20 * index)

/-- The first topics of a log, the last of them stored first. -/
def withTopics (topics : List Word) : (count : Nat) → Memory → Memory
  | 0, memory => memory
  | count + 1, memory =>
    withTopics topics count (memory.store (topicPlace count) (topics.getD count 0))

/-- The memory in which a log is reported, but for its data. -/
def withLogSize (selector : Selector) (count : Nat) (size : Word) (topics : List Word)
    (memory : Memory) : Memory :=
  ((withTopics topics count (withLogHead selector (BitVec.ofNat 256 count) memory)).store
    0x80a4#256 0xc0#256).store 0x80c4#256 size

/-- The memory in which a log is reported. -/
def withLog (selector : Selector) (count : Nat) (offset size : Word) (topics : List Word)
    (memory : Memory) : Memory :=
  let memory := withLogSize selector count size topics memory
  memory.write 0x80e4 (memory.read offset.toNat size.toNat)

/-! ### What changes -/

variable (memory : Memory)

theorem changesWithin_withWrite (selector : Selector) (slot value : Word) :
    ChangesWithin 0x8000 0x8044 memory (memory.withWrite selector slot value) :=
  ((ChangesWithin.store _ _ (by decide) (by decide)).trans
    (.store _ _ (by decide) (by decide))).trans (.store _ _ (by decide) (by decide))

theorem changesWithin_withLogHead (selector : Selector) (count : Word) :
    ChangesWithin 0x8000 0x80a4 memory (memory.withLogHead selector count) := by
  have hstore (memory : Memory) {target : Word} (value : Word) (h : 0x8000 ≤ target.toNat)
      (h' : target.toNat + 32 ≤ 0x80a4) :
      ChangesWithin 0x8000 0x80a4 memory (memory.store target value) := .store memory value h h'
  exact (((((hstore _ _ (by decide) (by decide)).trans (hstore _ _ (by decide) (by decide))).trans
    (hstore _ _ (by decide) (by decide))).trans (hstore _ _ (by decide) (by decide))).trans
    (hstore _ _ (by decide) (by decide))).trans (hstore _ _ (by decide) (by decide))

theorem changesWithin_withTopics (topics : List Word) {count : Nat} (hc : count ≤ 4) :
    ChangesWithin 0x8000 0x80a4 memory (memory.withTopics topics count) := by
  induction count generalizing memory with
  | zero => exact .refl _ _ _
  | succ count ih =>
    have hplace : (topicPlace count).toNat = 0x8024 + 0x20 * count := by
      rw [topicPlace, BitVec.toNat_ofNat, Nat.mod_eq_of_lt (by omega)]
    exact (ChangesWithin.store _ _ (by omega) (by omega)).trans (ih _ (by omega))

/-- A log is reported in its head and as much memory behind it as it has data. -/
theorem changesWithin_withLog (selector : Selector) {count : Nat} (hc : count ≤ 4)
    (offset size : Word) (topics : List Word) : ChangesWithin 0x8000 (0x80e4 + size.toNat) memory
      (memory.withLog selector count offset size topics) := by
  have hhead := (memory.changesWithin_withLogHead selector (BitVec.ofNat 256 count)).trans
    (changesWithin_withTopics _ topics hc)
  refine ((hhead.mono (Nat.le_refl _) (by omega)).trans (.trans (.store _ _ (by decide) ?_)
    (.store _ _ (by decide) ?_))).trans (.write _ (by decide) ?_)
  · simp
    omega
  · simp
  · simp

end Memory

namespace Patcher

section
variable {Ω : Type} (outside : Outside Ω) (origin : Address) {patcher : Patcher}
  {base first : Scope} {code image : Bytes} {table : Table} {target : Nat}
  (hp : patcher.Assembled base)
  (w : Written (patcher.leading code ++ patcher.instrumented first code) table image)
include hp w

/-! ## Storage writes -/

/-- The routine that reports a storage write fails without a slot and a value. -/
theorem passes_sstoreHook_failure {stack : List Word} (h : stack.length < 2) (ret : Word)
    (m : Memory) (world : World Ω) : ∃ outcome,
    (outside.machine origin).Passes image (OffSite patcher first code)
      (.running (routineStart patcher first code .sstoreHook) ⟨ret :: stack, m, world⟩)
      (.halted outcome) := by
  have seg := segment_routine first code .sstoreHook hp (by decide)
  refine seg.exists_passes_halted (outside.machine origin) ⟨ret :: stack, m, world⟩ w (n := 0)
    (k := 17) (by decide) rfl rfl ?_
  rcases stack with _ | ⟨slot, _ | ⟨value, s⟩⟩
  · simp [Fragment.Template.sstoreHook]
  · simp [Fragment.Template.sstoreHook]
  · simp only [List.length_cons] at h
    omega

/-- **The routine that reports a storage write.** -/
theorem delegates_sstoreHook (hsize : image.length ≤ 2 ^ 256) (hd : IsDestination image target)
    (slot value : Word) (s : List Word) (m : Memory) (world : World Ω) :
    Delegates outside origin patcher first code image
      (.running (routineStart patcher first code .sstoreHook)
        ⟨BitVec.ofNat 256 target :: slot :: value :: s, m, world⟩)
      0x44 (m.withWrite patcher.options.selectors.sstore slot value) world
      fun world => .running target
        ⟨slot :: value :: s, m.withWrite patcher.options.selectors.sstore slot value, world⟩ := by
  have seg := segment_routine first code .sstoreHook hp (by decide)
  obtain ⟨hback, hoff⟩ := seg.inner_label (n := 20) w rfl rfl (by decide)
  have hblock := seg.stays_run (outside.machine origin)
    ⟨BitVec.ofNat 256 target :: slot :: value :: s, m, world⟩
    ⟨0x44#256 :: BitVec.ofNat 256 target :: slot :: value :: s,
      m.withWrite patcher.options.selectors.sstore slot value, world⟩ w (n := 0) (k := 17)
    (by decide) rfl rfl (by simp [Fragment.Template.sstoreHook, Memory.withWrite])
  have hcall := seg.delegates_call outside origin (n := 17) hp w hsize rfl hback 0x44#256
    (BitVec.ofNat 256 target :: slot :: value :: s)
    (m.withWrite patcher.options.selectors.sstore slot value) world
  exact (hcall.prepend hblock).append (fun _ => hoff) fun world =>
    seg.passes_return (outside.machine origin) w hsize _ (n := 20) (k := 1) (by decide) rfl rfl rfl
      hd

/-! ## Logs -/

/-- A test of the word below the top. -/
theorem Segment.stays_test {start n value : Nat} {block rest : List Instruction} {scope : Scope}
    {label : Label} {inst : Instruction} (seg : Segment patcher first code start block)
    (hsize : image.length ≤ 2 ^ 256)
    (hdrop : block.drop n = (Instruction.plain (.dupN 2)).inScope scope ::
      (Instruction.pushInt (.pushN 1) value).inScope scope ::
        (Instruction.plain .eq).inScope scope ::
          (Instruction.pushLabel (.pushN 3) label).inScope scope ::
            (Instruction.plain .jumpi).inScope scope :: inst :: rest)
    (ht : table[label.entryIn scope]? = some target) (htarget : OffSite patcher first code target)
    (a count : Word) (s : List Word) (m : Memory) (world : World Ω) :
    (outside.machine origin).Stays image (OffSite patcher first code)
      (.running (address start block n) ⟨a :: count :: s, m, world⟩)
      (.running (if count = BitVec.ofNat 256 value then target else address start block (n + 5))
        ⟨a :: count :: s, m, world⟩) := by
  have h3 : block.drop (n + 3) = _ :=
    (drop_succ_of_drop start (drop_succ_of_drop start (drop_succ_of_drop start hdrop).1).1).1
  have htest := seg.stays_run (outside.machine origin) ⟨a :: count :: s, m, world⟩
    ⟨flag (BitVec.ofNat 256 value = count) :: a :: count :: s, m, world⟩ w (n := n) (k := 3)
    (by decide) (by simpa using (drop_succ_of_drop start h3).2.1) (by rw [hdrop]; rfl)
    (by rw [hdrop]; simp [Instruction.inScope, Instruction.plain, Instruction.pushInt])
  have hbranch := seg.stays_branch (outside.machine origin) hp w hsize ⟨a :: count :: s, m, world⟩
    h3 ht htarget (flag (BitVec.ofNat 256 value = count))
  have hzero : flag (BitVec.ofNat 256 value = count) = 0 ↔ ¬ count = BitVec.ofNat 256 value := by
    rw [flag_eq_zero, eq_comm]
  simp only [hzero, ite_not] at hbranch
  exact htest.trans hbranch

section
variable (ret : Word) (m : Memory) (world : World Ω)

/-- An instruction of the routine that reports logs. -/
def inLogHook (patcher : Patcher) (base first : Scope) (code : Bytes) (n : Nat) : Nat :=
  address (routineStart patcher first code .logHook)
    (Fragment.logHook.code patcher.options (base.after Fragment.logHook.index)) n

/-- The selector and the number of topics are stored for any stack. -/
theorem stays_logHead (count : Word) (stack : List Word) :
    (outside.machine origin).Stays image (OffSite patcher first code)
      (.running (routineStart patcher first code .logHook) ⟨ret :: count :: stack, m, world⟩)
      (.running (inLogHook patcher base first code 31)
        ⟨ret :: count :: stack, m.withLogHead patcher.options.selectors.log count, world⟩) :=
  (segment_routine first code .logHook hp (by decide)).stays_run (outside.machine origin)
    ⟨ret :: count :: stack, m, world⟩ _ w (n := 0) (k := 31) (by decide) rfl rfl
    (by simp [Fragment.Template.logHook, Memory.withLogHead])

/-- The test for one number of topics. -/
theorem stays_logTest (hsize : image.length ≤ 2 ^ 256) {index : Nat} (hi : index < 4) (count : Word)
    (stack : List Word) :
    (outside.machine origin).Stays image (OffSite patcher first code)
      (.running (inLogHook patcher base first code (46 - 5 * index))
        ⟨ret :: count :: stack, m, world⟩)
      (.running (if count = BitVec.ofNat 256 (index + 1) then
        inLogHook patcher base first code (71 - 6 * index)
        else inLogHook patcher base first code (51 - 5 * index))
        ⟨ret :: count :: stack, m, world⟩) := by
  have seg := segment_routine first code .logHook hp (by decide)
  obtain rfl | rfl | rfl | rfl : index = 0 ∨ index = 1 ∨ index = 2 ∨ index = 3 := by omega
  · obtain ⟨ht, htarget⟩ := seg.inner_label (n := 71) w rfl rfl (by decide)
    exact seg.stays_test outside origin (n := 46) hp w hsize rfl ht htarget ret count stack m world
  · obtain ⟨ht, htarget⟩ := seg.inner_label (n := 65) w rfl rfl (by decide)
    exact seg.stays_test outside origin (n := 41) hp w hsize rfl ht htarget ret count stack m world
  · obtain ⟨ht, htarget⟩ := seg.inner_label (n := 59) w rfl rfl (by decide)
    exact seg.stays_test outside origin (n := 36) hp w hsize rfl ht htarget ret count stack m world
  · obtain ⟨ht, htarget⟩ := seg.inner_label (n := 53) w rfl rfl (by decide)
    exact seg.stays_test outside origin (n := 31) hp w hsize rfl ht htarget ret count stack m world

/-- The number of topics selects where storing them starts; `most` is the highest number left. -/
theorem stays_logTests (hsize : image.length ≤ 2 ^ 256) {count most : Nat} (hc : count ≤ most)
    (hm : most ≤ 4) (stack : List Word) :
    (outside.machine origin).Stays image (OffSite patcher first code)
      (.running (inLogHook patcher base first code (51 - 5 * most))
        ⟨ret :: BitVec.ofNat 256 count :: stack, m, world⟩)
      (.running (inLogHook patcher base first code (77 - 6 * count))
        ⟨ret :: BitVec.ofNat 256 count :: stack, m, world⟩) := by
  induction most with
  | zero =>
    obtain rfl : count = 0 := by omega
    have seg := segment_routine first code .logHook hp (by decide)
    obtain ⟨hdata, hoff⟩ := seg.inner_label (n := 77) w rfl rfl (by decide)
    exact seg.stays_goto (n := 51) (outside.machine origin) hp w hsize _ rfl hdata hoff
  | succ most ih =>
    have htest := stays_logTest outside origin hp w ret m world hsize (by omega : most < 4)
      (BitVec.ofNat 256 count) stack
    rw [show 46 - 5 * most = 51 - 5 * (most + 1) by omega] at htest
    rcases Nat.lt_or_ge count (most + 1) with hlt | hge
    · rw [if_neg fun he => by
        have := congrArg BitVec.toNat he
        simp only [BitVec.toNat_ofNat] at this
        omega] at htest
      exact htest.trans (ih (by omega) (by omega))
    · obtain rfl : count = most + 1 := by omega
      rw [if_pos rfl] at htest
      rwa [show 71 - 6 * most = 77 - 6 * (most + 1) by omega] at htest

/-- One topic is stored. -/
theorem stays_logTopic {index : Nat} (hi : index < 4) (n offset size topic : Word)
    {stack : List Word} (ht : stack[index]? = some topic) :
    (outside.machine origin).Stays image (OffSite patcher first code)
      (.running (inLogHook patcher base first code (71 - 6 * index))
        ⟨ret :: n :: offset :: size :: stack, m, world⟩)
      (.running (inLogHook patcher base first code (77 - 6 * index))
        ⟨ret :: n :: offset :: size :: stack, m.store (Memory.topicPlace index) topic, world⟩) := by
  have seg := segment_routine first code .logHook hp (by decide)
  obtain rfl | rfl | rfl | rfl : index = 0 ∨ index = 1 ∨ index = 2 ∨ index = 3 := by omega
  · exact seg.stays_run (outside.machine origin) _ _ w (n := 71) (k := 6) (by decide) rfl rfl
      (by simp [Fragment.Template.logHook, ht, Memory.topicPlace])
  · exact seg.stays_run (outside.machine origin) _ _ w (n := 65) (k := 6) (by decide) rfl rfl
      (by simp [Fragment.Template.logHook, ht, Memory.topicPlace])
  · exact seg.stays_run (outside.machine origin) _ _ w (n := 59) (k := 6) (by decide) rfl rfl
      (by simp [Fragment.Template.logHook, ht, Memory.topicPlace])
  · exact seg.stays_run (outside.machine origin) _ _ w (n := 53) (k := 6) (by decide) rfl rfl
      (by simp [Fragment.Template.logHook, ht, Memory.topicPlace])

/-- One topic is stored after the other, the last one first. -/
theorem stays_logTopics {count : Nat} (hc : count ≤ 4) (n offset size : Word) {stack : List Word}
    (ht : count ≤ stack.length) {start : State Memory (World Ω)}
    (hrun : (outside.machine origin).Stays image (OffSite patcher first code) start
      (.running (inLogHook patcher base first code (77 - 6 * count))
        ⟨ret :: n :: offset :: size :: stack, m, world⟩)) :
    (outside.machine origin).Stays image (OffSite patcher first code) start
      (.running (inLogHook patcher base first code 77)
        ⟨ret :: n :: offset :: size :: stack, m.withTopics stack count, world⟩) := by
  induction count generalizing m with
  | zero => exact hrun
  | succ count ih =>
    have hget : stack[count]? = some (stack.getD count 0) := by
      rw [List.getElem?_eq_getElem ht, List.getD_eq_getElem?_getD, List.getElem?_eq_getElem ht,
        Option.getD_some]
    have htopic := stays_logTopic outside origin hp w ret m world (by omega : count < 4) n offset
      size _ hget
    rw [show 71 - 6 * count = 77 - 6 * (count + 1) by omega] at htopic
    exact ih _ (by omega) (by omega) (hrun.trans htopic)

/-- **The routine that reports a log.** -/
theorem delegates_logHook (hsize : image.length ≤ 2 ^ 256) (hd : IsDestination image target)
    {count : Nat} (hc : count ≤ 4) (offset size : Word) {stack : List Word}
    (ht : count ≤ stack.length) :
    Delegates outside origin patcher first code image
      (.running (routineStart patcher first code .logHook)
        ⟨BitVec.ofNat 256 target :: BitVec.ofNat 256 count :: offset :: size :: stack, m, world⟩)
      (0xe4#256 + size) (m.withLog patcher.options.selectors.log count offset size stack)
      ⟨(m.withLogSize patcher.options.selectors.log count size stack).read offset.toNat size.toNat,
        world.outer⟩
      fun world => .running target ⟨offset :: size :: stack,
        m.withLog patcher.options.selectors.log count offset size stack, world⟩ := by
  have seg := segment_routine first code .logHook hp (by decide)
  obtain ⟨hback, hoff⟩ := seg.inner_label (n := 104) w rfl rfl (by decide)
  have hhead := stays_logHead outside origin hp w (BitVec.ofNat 256 target) m world
    (BitVec.ofNat 256 count) (offset :: size :: stack)
  have htopics := stays_logTopics outside origin hp w (BitVec.ofNat 256 target) _ world hc
    (BitVec.ofNat 256 count) offset size ht
    (hhead.trans (stays_logTests outside origin hp w _ _ world hsize hc (Nat.le_refl 4) _))
  have hdata := seg.stays_run (outside.machine origin)
    ⟨BitVec.ofNat 256 target :: BitVec.ofNat 256 count :: offset :: size :: stack,
      (m.withLogHead patcher.options.selectors.log (BitVec.ofNat 256 count)).withTopics stack count,
      world⟩
    ⟨(0xe4#256 + size) :: BitVec.ofNat 256 target :: BitVec.ofNat 256 count :: offset :: size ::
      stack, m.withLog patcher.options.selectors.log count offset size stack,
      ⟨(m.withLogSize patcher.options.selectors.log count size stack).read offset.toNat size.toNat,
        world.outer⟩⟩ w (n := 77) (k := 24) (by decide) rfl rfl
    (by simp [Fragment.Template.logHook, Memory.withLog, Memory.withLogSize, Outside.accept])
  exact (Delegates.prepend (htopics.trans hdata)
    (seg.delegates_call outside origin (n := 101) hp w hsize rfl hback _ _ _ _)).append
      (fun _ => hoff) fun world =>
        seg.passes_return (outside.machine origin) w hsize _ (n := 104) (k := 3) (by decide) rfl rfl
          (by simp [Fragment.Template.logHook]) hd

/-- The routine that reports a log fails without its operands. -/
theorem passes_logHook_failure (hsize : image.length ≤ 2 ^ 256) {count : Nat} (hc : count ≤ 4)
    {stack : List Word} (h : stack.length < 2 + count) : ∃ outcome,
    (outside.machine origin).Passes image (OffSite patcher first code)
      (.running (routineStart patcher first code .logHook)
        ⟨ret :: BitVec.ofNat 256 count :: stack, m, world⟩) (.halted outcome) := by
  have seg := segment_routine first code .logHook hp (by decide)
  have htests := (stays_logHead outside origin hp w ret m world (BitVec.ofNat 256 count)
    stack).trans (stays_logTests outside origin hp w _ _ world hsize hc (Nat.le_refl 4) _)
  have hnone (index : Nat) (hi : count + 1 ≤ index) : stack[index]? = none :=
    List.getElem?_eq_none (by omega)
  -- the last topic is missing, or if there are none, the size
  suffices hhalt : ∃ outcome, (outside.machine origin).Passes image (OffSite patcher first code)
      (.running (inLogHook patcher base first code (77 - 6 * count))
        ⟨ret :: BitVec.ofNat 256 count :: stack,
          m.withLogHead patcher.options.selectors.log (BitVec.ofNat 256 count), world⟩)
      (.halted outcome) from hhalt.imp fun _ => htests.passes
  obtain rfl | rfl | rfl | rfl | rfl :
      count = 0 ∨ count = 1 ∨ count = 2 ∨ count = 3 ∨ count = 4 := by omega
  · exact seg.exists_passes_halted (outside.machine origin) _ w (n := 77) (k := 7) (by decide) rfl
      rfl (by simp [Fragment.Template.logHook, hnone])
  · exact seg.exists_passes_halted (outside.machine origin) _ w (n := 71) (k := 2) (by decide) rfl
      rfl (by simp [Fragment.Template.logHook, hnone])
  · exact seg.exists_passes_halted (outside.machine origin) _ w (n := 65) (k := 2) (by decide) rfl
      rfl (by simp [Fragment.Template.logHook, hnone])
  · exact seg.exists_passes_halted (outside.machine origin) _ w (n := 59) (k := 2) (by decide) rfl
      rfl (by simp [Fragment.Template.logHook, hnone])
  · exact seg.exists_passes_halted (outside.machine origin) _ w (n := 53) (k := 2) (by decide) rfl
      rfl (by simp [Fragment.Template.logHook, hnone])

end

/-! ## Sites -/

section
variable {i : Nat} {inst : Instruction} (hi : (disassemble first code)[i]? = some inst)
  (m : Memory) (world : World Ω)

variable (hsize : image.length ≤ 2 ^ 256)
include hi hsize

/-- **A storage write is reported** before it is done. -/
theorem delegates_sstore (hl : patcher.options.logsOnly = false) (ho : inst.opcode = .sstore)
    (slot value : Word) (s : List Word) :
    Delegates outside origin patcher first code image
      (.running (expansionStart patcher first code i) ⟨slot :: value :: s, m, world⟩)
      0x44 (m.withWrite patcher.options.selectors.sstore slot value) world
      fun world => .running
        (address (expansionStart patcher first code i) (patcher.expansion first code (inst, i)) 4)
        ⟨slot :: value :: s, m.withWrite patcher.options.selectors.sstore slot value, world⟩ := by
  have seg := segment_expansion hp hi
  rw [expansion_sstore hp first code i hl ho] at seg ⊢
  obtain ⟨hback, hoff⟩ := seg.inner_label (n := 3) w rfl rfl (by decide)
  have hcall := seg.stays_call (n := 0) (outside.machine origin) hp w hsize
    ⟨slot :: value :: s, m, world⟩ rfl hback (getElem?_routine hp w .sstoreHook (by decide))
    (offSite_routineStart _ _ _ hp)
  have hreport := delegates_sstoreHook outside origin hp w hsize (isDestination_of_entry hp w hback)
    slot value s m world
  exact (hreport.prepend hcall).append (fun _ => hoff) fun world =>
    seg.passes_run (outside.machine origin) _ _ w (n := 3) (k := 1) (by decide) rfl rfl rfl

theorem reports_sstore (hl : patcher.options.logsOnly = false) (ho : inst.opcode = .sstore)
    (slot value : Word) (s : List Word) :
    Reports outside origin patcher first code image
      (.running (expansionStart patcher first code i) ⟨slot :: value :: s, m, world⟩)
      ((m.withWrite patcher.options.selectors.sstore slot value).read 0x8000 0x44) world.outer
      fun world => .running
        (address (expansionStart patcher first code i) (patcher.expansion first code (inst, i)) 4)
        ⟨slot :: value :: s, m.withWrite patcher.options.selectors.sstore slot value, world⟩ := by
  refine (delegates_sstore outside origin hp w hi m world hsize hl ho slot value s).reports
    fun world => ?_
  refine (segment_expansion hp hi).offSite (by decide) ?_
  rw [expansion_sstore hp first code i hl ho]
  exact Nat.lt_succ_self 4

/-- A storage write without its operands fails before it is reported. -/
theorem passes_sstore_failure (hl : patcher.options.logsOnly = false) (ho : inst.opcode = .sstore)
    {stack : List Word} (h : stack.length < 2) : ∃ outcome,
    (outside.machine origin).Passes image (OffSite patcher first code)
      (.running (expansionStart patcher first code i) ⟨stack, m, world⟩) (.halted outcome) := by
  have seg := segment_expansion hp hi
  rw [expansion_sstore hp first code i hl ho] at seg
  have hback := seg.entry_address (n := 3) w rfl rfl
  have hcall := seg.stays_call (n := 0) (outside.machine origin) hp w hsize ⟨stack, m, world⟩ rfl
    hback (getElem?_routine hp w .sstoreHook (by decide)) (offSite_routineStart _ _ _ hp)
  exact (passes_sstoreHook_failure outside origin hp w h _ m world).imp fun _ => hcall.passes

/-- The expansion of a log enters the routine with the number of topics. -/
theorem stays_log {topics : Fin 5} (ho : inst.opcode = .log topics) (stack : List Word) :
    ∃ back, table[(Label.lexical "resume").entryIn ((innerScope first code).after i)]? = some back ∧
      back = address (expansionStart patcher first code i)
        (patcher.expansion first code (inst, i)) 4 ∧ OffSite patcher first code back ∧
      (outside.machine origin).Stays image (OffSite patcher first code)
        (.running (expansionStart patcher first code i) ⟨stack, m, world⟩)
        (.running (routineStart patcher first code .logHook)
          ⟨BitVec.ofNat 256 back :: BitVec.ofNat 256 topics.val :: stack, m, world⟩) := by
  have seg := segment_expansion hp hi
  rw [expansion_log hp first code i ho] at seg ⊢
  obtain ⟨hback, hoff⟩ := seg.inner_label (n := 4) w rfl rfl (by decide)
  have hcount := seg.stays_run (outside.machine origin) ⟨stack, m, world⟩
    ⟨BitVec.ofNat 256 topics.val :: stack, m, world⟩ w (n := 0) (k := 1) (by decide) rfl rfl
    (by simp [Instruction.pushInt])
  have hcall := seg.stays_call (n := 1) (outside.machine origin) hp w hsize
    ⟨BitVec.ofNat 256 topics.val :: stack, m, world⟩ rfl hback
    (getElem?_routine hp w .logHook (by decide)) (offSite_routineStart _ _ _ hp)
  exact ⟨_, hback, rfl, hoff, hcount.trans hcall⟩

/-- **A log is reported** before it is written. -/
theorem delegates_log {topics : Fin 5} (ho : inst.opcode = .log topics) (offset size : Word)
    {stack : List Word} (ht : topics.val ≤ stack.length) :
    Delegates outside origin patcher first code image
      (.running (expansionStart patcher first code i) ⟨offset :: size :: stack, m, world⟩)
      (0xe4#256 + size) (m.withLog patcher.options.selectors.log topics.val offset size stack)
      ⟨(m.withLogSize patcher.options.selectors.log topics.val size stack).read offset.toNat
        size.toNat, world.outer⟩
      fun world => .running
        (address (expansionStart patcher first code i) (patcher.expansion first code (inst, i)) 5)
        ⟨offset :: size :: stack,
          m.withLog patcher.options.selectors.log topics.val offset size stack, world⟩ := by
  obtain ⟨back, hback, hpos, hoff, hcall⟩ :=
    stays_log outside origin hp w hi m world hsize ho (offset :: size :: stack)
  have hreport := delegates_logHook outside origin hp w m world hsize
    (isDestination_of_entry hp w hback) (Nat.lt_succ_iff.1 topics.isLt) offset size ht
  refine (hreport.prepend hcall).append (fun _ => hoff) fun world => ?_
  have seg := segment_expansion hp hi
  rw [expansion_log hp first code i ho] at seg hpos ⊢
  subst hpos
  exact seg.passes_run (outside.machine origin) _ _ w (n := 4) (k := 1) (by decide) rfl rfl rfl

theorem reports_log {topics : Fin 5} (ho : inst.opcode = .log topics) (offset size : Word)
    {stack : List Word} (ht : topics.val ≤ stack.length) :
    Reports outside origin patcher first code image
      (.running (expansionStart patcher first code i) ⟨offset :: size :: stack, m, world⟩)
      ((m.withLog patcher.options.selectors.log topics.val offset size stack).read 0x8000
        (0xe4#256 + size).toNat) world.outer
      fun world => .running
        (address (expansionStart patcher first code i) (patcher.expansion first code (inst, i)) 5)
        ⟨offset :: size :: stack,
          m.withLog patcher.options.selectors.log topics.val offset size stack, world⟩ := by
  refine (delegates_log outside origin hp w hi m world hsize ho offset size ht).reports
    fun world => ?_
  refine (segment_expansion hp hi).offSite (by decide) ?_
  rw [expansion_log hp first code i ho]
  exact Nat.lt_succ_self 5

/-- A log without its operands fails before it is reported. -/
theorem passes_log_failure {topics : Fin 5} (ho : inst.opcode = .log topics) {stack : List Word}
    (h : stack.length < 2 + topics.val) : ∃ outcome,
    (outside.machine origin).Passes image (OffSite patcher first code)
      (.running (expansionStart patcher first code i) ⟨stack, m, world⟩) (.halted outcome) := by
  obtain ⟨back, -, -, -, hcall⟩ := stays_log outside origin hp w hi m world
    hsize ho stack
  exact (passes_logHook_failure outside origin hp w _ m world hsize
    (Nat.lt_succ_iff.1 topics.isLt) h).imp fun _ => hcall.passes

end

end

end Patcher

end EvmProbe
