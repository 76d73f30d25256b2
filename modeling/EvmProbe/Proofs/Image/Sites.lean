import EvmProbe.Proofs.Image.Queries
import EvmProbe.Proofs.Image.Saved
import EvmProbe.Proofs.Image.Simulation

/-!
Runs of an image from site to site.

A site is where the expansion of an instruction starts.  From a site the machine gets to another, or
behind the last one, or it halts on the way (`Lands`).  For each kind of opcode this module says
what has become of memory and of the return data by then.

* `passes_own`: the last instruction of an expansion gets to the next site; to most sites there is
  no more (`passes_kept`).
* `lands_spared`: no site but those of calls, creations and reports touches scratch memory or the
  return data.
* `lands_sstore`, `lands_log`: reports change scratch memory.
* `lands_call`: a call leaves its return data saved.
-/

namespace EvmProbe

open Bytecode Linking

/-- A region of memory that is empty or ends below scratch memory. -/
def Below (region : Word × Word) : Prop :=
  region.2.toNat = 0 ∨ region.1.toNat + region.2.toNat ≤ Environment.scratchMemLoc

/-- A region below scratch memory is no larger than that. -/
theorem Below.size_le {region : Word × Word} (h : Below region) :
    region.2.toNat ≤ Environment.scratchMemLoc := by
  rcases h with h | h
  · exact h ▸ Nat.zero_le _
  · exact Nat.le_trans (Nat.le_add_left _ _) h

namespace Outside
variable {Ω : Type} {opcode : Opcode} {frame next : Frame Memory (World Ω)}

/-- A frame differs from an earlier one below scratch memory only, and in the return data not at
all. -/
def Spares (frame next : Frame Memory (World Ω)) : Prop :=
  Memory.ChangesWithin 0 0x8000 frame.memory next.memory ∧
    next.world.returnData = frame.world.returnData

theorem spares_of_keeps (h : frame.Keeps next) : Spares frame next :=
  ⟨h.1 ▸ .refl _ _ _, by rw [h.2]⟩

/-- An opcode that writes nothing leaves memory as it is. -/
theorem Writes.memory_eq (h : Writes opcode frame next)
    (h0 : (opcode.writes frame.stack).2.toNat = 0) : next.memory = frame.memory := by
  obtain ⟨bytes, hlen, hm, -⟩ := h
  rw [hm, List.eq_nil_of_length_eq_zero (by omega : bytes.length = 0), Memory.write_nil]

/-- An opcode that writes below scratch memory leaves the rest of memory alone. -/
theorem Writes.changesWithin (h : Writes opcode frame next)
    (hb : Below (opcode.writes frame.stack)) :
    Memory.ChangesWithin 0 0x8000 frame.memory next.memory := by
  rcases hb with h0 | hb
  · exact h.memory_eq h0 ▸ .refl _ _ _
  · obtain ⟨bytes, hlen, hm, -⟩ := h
    rw [hm]
    exact .write _ (Nat.zero_le _) (Nat.le_trans (Nat.add_le_add_left hlen _) hb)

/-- An opcode that is no call and no creation spares what it does not write. -/
theorem Writes.spares (h : Writes opcode frame next) (hb : Below (opcode.writes frame.stack))
    (hc : opcode.isCall = false) (hn : opcode.isCreation = false) : Spares frame next :=
  ⟨h.changesWithin hb, by
    obtain ⟨_, -, -, hdata⟩ := h
    exact hdata hc hn⟩

/-- A call has the input of the program, though a copy of it was put into scratch memory. -/
theorem replyTo_withInput (outside : Outside Ω) (opcode : Opcode) {o : CallOperands}
    (hargs : Below (o.argsOffset, o.argsSize)) (m : Memory) (outer : Ω) :
    outside.replyTo opcode o (m.withInput o) outer = outside.replyTo opcode o m outer := by
  have hargs : o.argsSize.toNat = 0 ∨ o.argsOffset.toNat + o.argsSize.toNat ≤ 0x8000 := hargs
  have hinput : (m.withInput o).read o.argsOffset.toNat o.argsSize.toNat =
      m.read o.argsOffset.toNat o.argsSize.toNat :=
    (Memory.ChangesWithin.write m (Nat.le_refl _) (Nat.le_refl _)).read_eq (by omega)
  rw [replyTo, replyTo, hinput]

end Outside

namespace Patcher

/-- A run from a site: it gets to a site, or behind the last one, with a frame as it should be, or
it halts. -/
def Lands {Ω : Type} (outside : Outside Ω) (origin : Address) (patcher : Patcher) (first : Scope)
    (code image : Bytes) (start : State Memory (World Ω)) (good : Frame Memory (World Ω) → Prop) :
    Prop :=
  (∃ j ≤ (disassemble first code).length, ∃ frame, good frame ∧
    (outside.machine origin).Passes image (OffSite patcher first code) start
      (.running (expansionStart patcher first code j) frame)) ∨
  ∃ outcome, (outside.machine origin).Passes image (OffSite patcher first code) start
    (.halted outcome)

section
variable {Ω : Type} {outside : Outside Ω} {origin : Address} {patcher : Patcher}
  {base first : Scope} {code image calldata : Bytes} {table : Table} {i : Nat} {inst : Instruction}
  {start earlier : State Memory (World Ω)} {outer : Ω} {good good' : Frame Memory (World Ω) → Prop}

theorem Lands.mono (h : Lands outside origin patcher first code image start good)
    (hgood : ∀ frame, good frame → good' frame) :
    Lands outside origin patcher first code image start good' := by
  obtain ⟨j, hj, frame, hf, hrun⟩ | hhalt := h
  · exact .inl ⟨j, hj, frame, hgood frame hf, hrun⟩
  · exact .inr hhalt

theorem Lands.prepend
    (h : (outside.machine origin).Stays image (OffSite patcher first code) earlier start)
    (h' : Lands outside origin patcher first code image start good) :
    Lands outside origin patcher first code image earlier good := by
  obtain ⟨j, hj, frame, hf, hrun⟩ | ⟨outcome, hrun⟩ := h'
  · exact .inl ⟨j, hj, frame, hf, h.passes hrun⟩
  · exact .inr ⟨outcome, h.passes hrun⟩

/-- A report that fails halts the machine. -/
theorem Reports.lands {next : World Ω → State Memory (World Ω)}
    (h : Reports outside origin patcher first code image start calldata outer next)
    (h' : ∀ world, Lands outside origin patcher first code image (next world) good) :
    Lands outside origin patcher first code image start good := by
  obtain ⟨gas, hgas⟩ := h
  obtain ⟨hgood, hbad⟩ := hgas _ rfl
  generalize outside.reply .delegatecall gas _ 0 calldata outer = reply at hgood hbad
  cases hs : reply.success with
  | true => exact (h' _).prepend (hgood hs)
  | false =>
    obtain ⟨frame, hrun, -⟩ := hbad hs
    exact .inr ⟨_, hrun⟩

/-- A run to the next site. -/
theorem Lands.of_passes {frame : Frame Memory (World Ω)}
    (hi : (disassemble first code)[i]? = some inst)
    (h : (outside.machine origin).Passes image (OffSite patcher first code) start
      (.running (expansionStart patcher first code (i + 1)) frame)) (hgood : good frame) :
    Lands outside origin patcher first code image start good :=
  .inl ⟨i + 1, (List.getElem?_eq_some_iff.1 hi).1, frame, hgood, h⟩

variable (outside origin) (hp : patcher.Assembled base)
  (w : Written (patcher.leading code ++ patcher.instrumented first code) table image)
include hp w

section
variable (hi : (disassemble first code)[i]? = some inst)
include hi

/-- **The last instruction of an expansion, if it acts on the frame alone, gets to the next
site.** -/
theorem passes_own {n : Nat} {own : Instruction}
    (hdrop : (patcher.expansion first code (inst, i)).drop n = [own]) (hs : own.isStraight)
    (frame : Frame Memory (World Ω)) :
    (outside.machine origin).Passes image (OffSite patcher first code)
      (.running (address (expansionStart patcher first code i)
        (patcher.expansion first code (inst, i)) n) frame)
      (.after (((outside.machine origin).act own.opcode (resolved table own).pushed frame).map
        fun next => (expansionStart patcher first code (i + 1), next))) := by
  have seg := segment_expansion hp hi
  have hl := seg.liesAt_drop n
  rw [hdrop] at hl
  have hend : address (expansionStart patcher first code i)
      (patcher.expansion first code (inst, i)) n + codeSize [own] =
        expansionStart patcher first code (i + 1) := by
    rw [← hdrop, address, Nat.add_assoc, ← codeSize_append, List.take_append_drop,
      expansionStart_succ patcher hi]
  have hrun := w.passes_block (outside.machine origin) frame hl (List.cons_ne_nil _ _)
    (by simpa using hs) fun p hlt hlt' => seg.within p
      (Nat.lt_of_le_of_lt (Nat.le_add_right _ _) hlt)
      (by rwa [hend, expansionStart_succ patcher hi] at hlt')
  rw [hend, List.map_singleton, Machine.actAll, List.foldlM_cons, resolved_opcode] at hrun
  simpa only [List.foldlM_nil, bind_pure] using hrun

omit hp w in
/-- What an opcode does at the end of an expansion gets to the next site. -/
theorem Lands.of_act {opcode : Opcode} {value : Word} {frame : Frame Memory (World Ω)}
    (h : (outside.machine origin).Passes image (OffSite patcher first code) start
      (.after (((outside.machine origin).act opcode value frame).map fun next =>
        (expansionStart patcher first code (i + 1), next)))) :
    Lands outside origin patcher first code image start
      fun next => (outside.machine origin).act opcode value frame = .ok next := by
  cases hact : (outside.machine origin).act opcode value frame with
  | ok next =>
    rw [hact] at h
    exact .of_passes hi h rfl
  | error outcome =>
    rw [hact] at h
    exact .inr ⟨outcome, h⟩

theorem lands_own {n : Nat} {own : Instruction}
    (hdrop : (patcher.expansion first code (inst, i)).drop n = [own]) (hs : own.isStraight)
    (frame : Frame Memory (World Ω)) :
    Lands outside origin patcher first code image
      (.running (address (expansionStart patcher first code i)
        (patcher.expansion first code (inst, i)) n) frame)
      fun next => (outside.machine origin).act own.opcode (resolved table own).pushed frame =
        .ok next :=
  .of_act outside origin hi (passes_own outside origin hp w hi hdrop hs frame)

end

/-! ## Sites without a report -/

omit hp w in
/-- What is replaced, beside what jumps, calls or reads return data. -/
theorem eq_of_replaced? {fragment : Fragment} (hs : inst.opcode.isStraight)
    (hc : inst.opcode.isCall = false)
    (hr : Image.replaced? patcher.options.logsOnly inst.opcode = some fragment)
    (hdata : inst.opcode = .returndatasize ∨ inst.opcode = .returndatacopy →
      patcher.options.logsOnly = true) :
    inst.opcode = .codecopy ∨ (inst.opcode = .extcodesize ∨ inst.opcode = .extcodehash) ∨
      inst.opcode = .extcodecopy := by
  generalize inst.opcode = op at hs hc hr hdata ⊢
  unfold Image.replaced? Image.alwaysReplaced? Image.hookReplaced? at hr
  grind [Opcode.isStraight, Opcode.isCall]

section
variable (hi : (disassemble first code)[i]? = some inst)
include hi

omit hp w in
theorem isCanonical_of_getElem? : inst.opcode.isCanonical := by
  obtain ⟨byte, _, _, -, -, hd⟩ := isDecoded_of_getElem? hi
  exact hd.opcode ▸ Opcode.isCanonical_ofByte byte

/-- **An opcode that is neither replaced nor reported gets to the next site.** -/
theorem passes_kept (hs : inst.opcode.isStraight)
    (hr : Image.replaced? patcher.options.logsOnly inst.opcode = none)
    (hl : ∀ topics, inst.opcode ≠ .log topics)
    (hw : inst.opcode = .sstore → patcher.options.logsOnly = true)
    (frame : Frame Memory (World Ω)) :
    (outside.machine origin).Passes image (OffSite patcher first code)
      (.running (expansionStart patcher first code i) frame)
      (.after (((outside.machine origin).act inst.opcode inst.pushed frame).map fun next =>
        (expansionStart patcher first code (i + 1), next))) := by
  obtain ⟨kept, hexp, hop, hoperand⟩ := expansion_of_kept patcher first code i hs hr hl hw
  obtain ⟨_, _, _, -, -, hd⟩ := isDecoded_of_getElem? hi
  have hresolved : resolved table kept = kept :=
    resolved_of_reference?_eq_none (by rw [reference?, hoperand]; exact hd.reference?_eq_none)
  have hpushed : kept.pushed = inst.pushed := by
    rw [Instruction.pushed, Instruction.immediate?, hop, hoperand]
    rfl
  have hrun := passes_own outside origin hp w hi (n := 0) hexp
    (by rw [Instruction.isStraight, hop, isCanonical_of_getElem? hi, hs]; rfl) frame
  rwa [hresolved, hop, hpushed] at hrun

theorem lands_kept (hs : inst.opcode.isStraight)
    (hr : Image.replaced? patcher.options.logsOnly inst.opcode = none)
    (hl : ∀ topics, inst.opcode ≠ .log topics)
    (hw : inst.opcode = .sstore → patcher.options.logsOnly = true)
    (frame : Frame Memory (World Ω)) :
    Lands outside origin patcher first code image
      (.running (expansionStart patcher first code i) frame)
      fun next => (outside.machine origin).act inst.opcode inst.pushed frame = .ok next :=
  .of_act outside origin hi (passes_kept outside origin hp w hi hs hr hl hw frame)

/-- The site of an opcode that was replaced by a push. -/
theorem lands_pushed {own : Instruction} {width : Nat}
    (hexp : patcher.expansion first code (inst, i) = [own]) (hs : own.isStraight)
    (ho : own.opcode = .pushN width) (frame : Frame Memory (World Ω)) :
    Lands outside origin patcher first code image
      (.running (expansionStart patcher first code i) frame) frame.Keeps := by
  refine (lands_own outside origin hp w hi (n := 0) hexp hs frame).mono fun next hact => ?_
  rw [ho] at hact
  cases hact
  exact ⟨rfl, rfl⟩

variable (hsize : image.length ≤ 2 ^ 256)
include hsize

omit hi in
/-- The jump router gets to a site without a change of memory or world. -/
theorem lands_router (frame : Frame Memory (World Ω)) :
    Lands outside origin patcher first code image
      (.running (routerStart patcher first code) frame) frame.Keeps := by
  obtain ⟨stack, m, world⟩ := frame
  have hin (p : Nat) (h : routerStart patcher first code ≤ p) : OffSite patcher first code p :=
    offSite_routers hp h
  cases stack with
  | nil => exact .inr ⟨_, passes_router_empty hp w (outside.machine origin) m world hin⟩
  | cons word s =>
    by_cases h : word.toNat ∈ Image.destinations (disassemble first code)
    · obtain ⟨site, hm, hj, hs⟩ := mem_destinations.1 h
      obtain ⟨j, hget⟩ := List.mem_iff_getElem?.1 hm
      exact .inl ⟨j, Nat.le_of_lt (List.getElem?_eq_some_iff.1 hget).1, ⟨s, m, world⟩, ⟨rfl, rfl⟩,
        passes_router hp w (outside.machine origin) s m world hsize hget hj hs hin⟩
    · exact .inr ⟨_, passes_router_failure hp w (outside.machine origin) s m world hsize h hin⟩

theorem lands_jump (ho : inst.opcode = .jump) (frame : Frame Memory (World Ω)) :
    Lands outside origin patcher first code image
      (.running (expansionStart patcher first code i) frame) frame.Keeps :=
  (lands_router outside origin hp w hsize frame).prepend
    ⟨passes_jumpPatch _ frame hp w hi hsize ho fun _ => offSite_within,
      offSite_routers hp (Nat.le_refl _)⟩

theorem lands_jumpi (ho : inst.opcode = .jumpi) (frame : Frame Memory (World Ω)) :
    Lands outside origin patcher first code image
      (.running (expansionStart patcher first code i) frame) frame.Keeps := by
  obtain ⟨stack, m, world⟩ := frame
  match stack with
  | target :: condition :: s =>
    have hrun := passes_jumpiPatch (outside.machine origin) s m world hp w hi hsize ho target
      condition fun _ => offSite_within
    by_cases hc : condition = 0
    · rw [if_pos hc] at hrun
      exact .of_passes hi hrun ⟨rfl, rfl⟩
    · rw [if_neg hc] at hrun
      exact ((lands_router outside origin hp w hsize ⟨target :: s, m, world⟩).mono
        fun _ h => h).prepend ⟨hrun, offSite_routers hp (Nat.le_refl _)⟩
  | [] | [_] =>
    exact .inr ⟨_, passes_jumpiPatch_failure (outside.machine origin) _ m world hp w hi ho
      (by simp) fun _ => offSite_within⟩

omit w hi hsize in
theorem expansion_codecopy (ho : inst.opcode = .codecopy) :
    patcher.expansion first code (inst, i) =
      Fragment.codecopyPatch.code patcher.options ((innerScope first code).after i) :=
  expansion_of_replaced hp (by rw [ho]; rfl)

omit hsize in
/-- The site of CODECOPY adds the size of the preamble to the source. -/
theorem passes_codecopy (ho : inst.opcode = .codecopy) (dst src : Word) (s : List Word) (m : Memory)
    (world : World Ω) :
    (outside.machine origin).Passes image (OffSite patcher first code)
      (.running (expansionStart patcher first code i) ⟨dst :: src :: s, m, world⟩)
      (.after (((outside.machine origin).act .codecopy 0#256
        ⟨dst :: (BitVec.ofNat 256 Environment.preambleSize + src) :: s, m, world⟩).map
          fun next => (expansionStart patcher first code (i + 1), next))) := by
  have seg := segment_expansion hp hi
  have hown := passes_own outside origin hp w hi (n := 4)
    (by rw [expansion_codecopy hp ho]; rfl) rfl
    ⟨dst :: (BitVec.ofNat 256 Environment.preambleSize + src) :: s, m, world⟩
  rw [expansion_codecopy hp ho] at seg hown
  exact (seg.stays_run (outside.machine origin) ⟨dst :: src :: s, m, world⟩
    ⟨dst :: (BitVec.ofNat 256 Environment.preambleSize + src) :: s, m, world⟩ w (n := 0) (k := 4)
    (by decide) rfl rfl
    (by simp [Fragment.Template.codecopyPatch, Environment.preambleSize])).passes hown

omit hsize in
/-- CODECOPY writes where it was asked to. -/
theorem lands_codecopy (ho : inst.opcode = .codecopy) (frame : Frame Memory (World Ω))
    (hb : Below (Opcode.codecopy.writes frame.stack)) :
    Lands outside origin patcher first code image
      (.running (expansionStart patcher first code i) frame) (Outside.Spares frame) := by
  obtain ⟨stack, m, world⟩ := frame
  match stack with
  | dst :: src :: s =>
    refine (Lands.of_act outside origin hi
      (passes_codecopy outside origin hp w hi ho dst src s m world)).mono fun next hact => ?_
    have hwrites : Opcode.codecopy.writes
        (dst :: (BitVec.ofNat 256 Environment.preambleSize + src) :: s) =
          Opcode.codecopy.writes (dst :: src :: s) := by cases s <;> rfl
    exact (Outside.writes_of_act hact).spares (hwrites ▸ hb) rfl rfl
  | [] | [_] =>
    have seg := segment_expansion hp hi
    rw [expansion_codecopy hp ho] at seg
    exact .inr (seg.exists_passes_halted (outside.machine origin) _ w (n := 0) (k := 1) (by decide)
      rfl rfl ⟨_, rfl⟩)

theorem lands_query (ho : inst.opcode = .extcodesize ∨ inst.opcode = .extcodehash)
    (frame : Frame Memory (World Ω)) :
    Lands outside origin patcher first code image
      (.running (expansionStart patcher first code i) frame) (Outside.Spares frame) := by
  obtain ⟨query, hquery⟩ := CodeQuery.exists_of_opcode ho
  obtain ⟨stack', outer, hrun⟩ | hhalt :=
    passes_query outside origin hp w hsize query hi hquery frame.memory frame.world frame.stack
  · exact .of_passes hi hrun ⟨.refl _ _ _, rfl⟩
  · exact .inr hhalt

theorem lands_extcodecopy (ho : inst.opcode = .extcodecopy) (frame : Frame Memory (World Ω))
    (hb : Below (Opcode.extcodecopy.writes frame.stack)) :
    Lands outside origin patcher first code image
      (.running (expansionStart patcher first code i) frame) (Outside.Spares frame) := by
  obtain ⟨stack', m', outer, hc, hrun⟩ | hhalt :=
    passes_extcodecopy outside origin hp w hi hsize frame.memory frame.world ho frame.stack
  · refine .of_passes hi hrun ⟨?_, rfl⟩
    rcases hb with h0 | hb
    · exact hc.eq_of_le (by omega) ▸ .refl _ _ _
    · exact hc.mono (Nat.zero_le _) hb
  · exact .inr hhalt

/-- **A site without a call, a creation or a report spares scratch memory and return data.** -/
theorem lands_spared (frame : Frame Memory (World Ω))
    (hb : Below (inst.opcode.writes frame.stack)) (hc : inst.opcode.isCall = false)
    (hn : inst.opcode.isCreation = false) (hl : ∀ topics, inst.opcode ≠ .log topics)
    (hhooks : inst.opcode = .sstore ∨ inst.opcode = .returndatasize ∨
      inst.opcode = .returndatacopy → patcher.options.logsOnly = true) :
    Lands outside origin patcher first code image
      (.running (expansionStart patcher first code i) frame) (Outside.Spares frame) := by
  by_cases hs : inst.opcode.isStraight
  · cases hr : Image.replaced? patcher.options.logsOnly inst.opcode with
    | none =>
      refine (lands_kept outside origin hp w hi hs hr hl (fun h => hhooks (.inl h)) frame).mono ?_
      intro next hact
      exact (Outside.writes_of_act hact).spares hb hc hn
    | some fragment =>
      rcases eq_of_replaced? hs hc hr fun h => hhooks (.inr h) with ho | ho | ho
      · exact lands_codecopy outside origin hp w hi ho frame (ho ▸ hb)
      · exact lands_query outside origin hp w hi hsize ho frame
      · exact lands_extcodecopy outside origin hp w hi hsize ho frame (ho ▸ hb)
  · have hkeeps : Lands outside origin patcher first code image
        (.running (expansionStart patcher first code i) frame) frame.Keeps := by
      rcases Opcode.not_isStraight hs with ho | ho | ho | ho | ho
      · exact lands_jump outside origin hp w hi hsize ho frame
      · exact lands_jumpi outside origin hp w hi hsize ho frame
      · exact lands_pushed outside origin hp w hi (expansion_pc patcher first code i ho)
          rfl rfl frame
      · exact lands_pushed outside origin hp w hi (expansion_codesize patcher first code i ho)
          rfl rfl frame
      · exact lands_pushed outside origin hp w hi (expansion_origin patcher first code i ho)
          rfl rfl frame
    exact hkeeps.mono fun _ => Outside.spares_of_keeps

/-! ## Reports -/

/-- A storage write is reported in scratch memory. -/
theorem lands_sstore (hl : patcher.options.logsOnly = false) (ho : inst.opcode = .sstore)
    (frame : Frame Memory (World Ω)) :
    Lands outside origin patcher first code image
      (.running (expansionStart patcher first code i) frame)
      fun next => frame.memory.ChangesWithin 0x8000 0x8044 next.memory := by
  obtain ⟨stack, m, world⟩ := frame
  match stack with
  | slot :: value :: s =>
    refine (reports_sstore outside origin hp w hi m world hsize hl ho slot value s).lands
      fun later => ?_
    have hown := lands_own outside origin hp w hi (n := 4)
      (by rw [expansion_sstore hp first code i hl ho]; rfl)
      (by rw [Instruction.isStraight, ho]; rfl) ⟨slot :: value :: s,
        m.withWrite patcher.options.selectors.sstore slot value, later⟩
    refine hown.mono fun next hact => ?_
    rw [ho] at hact
    rw [(Outside.writes_of_act hact).memory_eq rfl]
    exact m.changesWithin_withWrite _ slot value
  | [] | [_] =>
    exact .inr (passes_sstore_failure outside origin hp w hi m world hsize hl ho (by simp))

/-- A log is reported in scratch memory, with all of its data. -/
theorem lands_log {topics : Fin 5} (ho : inst.opcode = .log topics)
    (frame : Frame Memory (World Ω)) :
    Lands outside origin patcher first code image
      (.running (expansionStart patcher first code i) frame)
      fun next => frame.memory.ChangesWithin 0x8000
        (0x80e4 + (inst.opcode.reads frame.stack).2.toNat) next.memory := by
  obtain ⟨stack, m, world⟩ := frame
  rcases Nat.lt_or_ge stack.length (2 + topics.val) with hlt | hge
  · exact .inr (passes_log_failure outside origin hp w hi m world hsize ho hlt)
  match stack with
  | [] | [_] =>
    simp only [List.length_nil, List.length_singleton] at hge
    omega
  | offset :: size :: s =>
    have ht : topics.val ≤ s.length := by
      simp only [List.length_cons] at hge
      omega
    refine (reports_log outside origin hp w hi m world hsize ho offset size ht).lands
      fun later => ?_
    have hown := lands_own outside origin hp w hi (n := 5)
      (by rw [expansion_log hp first code i ho]; rfl)
      (by rw [Instruction.isStraight, isCanonical_of_getElem? hi, ho]; rfl) ⟨offset :: size :: s,
        m.withLog patcher.options.selectors.log topics.val offset size s, later⟩
    refine hown.mono fun next hact => ?_
    rw [ho] at hact ⊢
    rw [(Outside.writes_of_act hact).memory_eq rfl]
    exact m.changesWithin_withLog _ (Nat.lt_succ_iff.1 topics.isLt) offset size s

/-! ## Calls -/

section
variable (hl : patcher.options.logsOnly = false)
include hl

/-- **A call leaves its return data saved**, if its report does not reach it. -/
theorem lands_call (hc : inst.opcode.isCall) (o : CallOperands)
    (hv : inst.opcode.hasValue = false → o.value = 0) (s : List Word) (m : Memory)
    (world : World Ω) (hb : Below (o.argsOffset, o.argsSize)) {reply : Reply Ω}
    (hr : reply = outside.replyTo inst.opcode o m world.outer) :
    Lands outside origin patcher first code image
      (.running (expansionStart patcher first code i) ⟨o.stack inst.opcode ++ s, m, world⟩)
      fun next => Memory.Fits o.argsSize.toNat reply.data.length →
        next.memory.Saves reply.data := by
  have hreply : reply = outside.replyTo inst.opcode o (m.withInput o) world.outer :=
    hr.trans (outside.replyTo_withInput inst.opcode hb m world.outer).symm
  obtain ⟨back, hleave, hreport⟩ :=
    reports_call outside origin hp w hi hsize hl hc o hv s m world hreply rfl
  exact hreport.lands fun later => .of_passes hi (hleave _) (Memory.saves_withCall _
    (r := ⟨o, inst.opcode.callKind, flag (reply.success = true)⟩) hb.size_le)

omit hsize in
/-- RETURNDATASIZE leaves memory as it is. -/
theorem lands_returndatasize (ho : inst.opcode = .returndatasize)
    (frame : Frame Memory (World Ω)) :
    Lands outside origin patcher first code image
      (.running (expansionStart patcher first code i) frame)
      fun next => frame.memory.ChangesWithin 0 0x8000 next.memory :=
  .of_passes hi (passes_returndatasize outside origin hp w frame.memory frame.world hi hl ho
    frame.stack) (.refl _ _ _)

/-- RETURNDATACOPY writes where it was asked to. -/
theorem lands_returndatacopy (ho : inst.opcode = .returndatacopy)
    (frame : Frame Memory (World Ω)) (hb : Below (Opcode.returndatacopy.writes frame.stack)) :
    Lands outside origin patcher first code image
      (.running (expansionStart patcher first code i) frame)
      fun next => frame.memory.ChangesWithin 0 0x8000 next.memory := by
  obtain ⟨stack, m, world⟩ := frame
  match stack with
  | dst :: offset :: size :: s =>
    by_cases hin : m.load 0xa000#256 < offset + size
    · exact .inr ⟨_, passes_returndatacopy_beyond outside origin hp w m world hi hl hsize ho dst
        offset size s hin⟩
    · refine .of_passes hi (passes_returndatacopy outside origin hp w m world hi hl hsize ho dst
        offset size s hin) ?_
      have hb : size.toNat = 0 ∨ dst.toNat + size.toNat ≤ 0x8000 := hb
      rcases hb with h0 | hb
      · rw [h0, Memory.read_zero, Memory.write_nil]
        exact .refl _ _ _
      · exact .write m (Nat.zero_le _) (by simpa using hb)
  | [] | [_] | [_, _] =>
    exact .inr (passes_returndatacopy_missing outside origin hp w m world hi hl hsize ho (by simp))

end

end

end

end Patcher

end EvmProbe
