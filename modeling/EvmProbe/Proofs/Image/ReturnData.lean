import EvmProbe.Proofs.Image.Calldata
import EvmProbe.Proofs.Image.Existence
import EvmProbe.Proofs.Image.Sites

/-!
What an image makes of RETURNDATASIZE and RETURNDATACOPY.

The return data of the machine is not that of the deployed code, since reports are calls themselves.
Unless only logs are reported, an image saves the return data of every call that the deployed code
makes, and reads it from there; if only logs are reported, it reads the return data of the machine.

A run is followed together with what the last call or creation of the deployed code returned
(`Follows`).  Beside that stands whether the image still has it: what creations return is not saved,
a report may reach what is saved if it is very large, and if only logs are reported, a log takes the
place of the return data of the machine.

* `lands_site`: one site, on the way to the next.
* `holds_of_follows`: at every site the image has what the last call or creation returned.
* `virtualises_of_patchFrom`: RETURNDATASIZE and RETURNDATACOPY yield that.
* `loses_return_data`: a log takes its place if only logs are reported.
* `loses_created_data`, `loses_logged_data`: what a creation returned is not saved, and a long log
  is written over what is.
-/

namespace EvmProbe

open Bytecode Linking StateTransition

/-- All accesses of an opcode to memory stay below scratch memory. -/
def Opcode.StaysBelow (opcode : Opcode) (stack : List Word) : Prop :=
  Below (opcode.reads stack) ∧ Below (opcode.writes stack)

/-- Calls and creations are not replaced in every mode. -/
theorem Opcode.unpatched_of_call {opcode : Opcode} (h : opcode.isCall || opcode.isCreation) :
    opcode.isStraight ∧ Image.alwaysReplaced? opcode = none ∧ (∀ topics, opcode ≠ .log topics) ∧
      opcode ≠ .sstore := by
  cases opcode <;> first
    | exact absurd h Bool.false_ne_true
    | exact ⟨rfl, rfl, nofun, nofun⟩

/-- Creations are not replaced at all. -/
theorem Opcode.unhooked_of_creation {opcode : Opcode} (h : opcode.isCreation) :
    Image.hookReplaced? opcode = none := by
  cases opcode <;> first
    | rfl
    | exact absurd h Bool.false_ne_true

namespace Outside
variable {Ω : Type} (outside : Outside Ω) (origin : Address)

/-- What the last call or creation returned, behind one more opcode. -/
def lastReturned (opcode : Opcode) (frame : Frame Memory (World Ω)) (data : Bytes) : Bytes :=
  if opcode.isCall || opcode.isCreation then
    match (outside.machine origin).act opcode 0 frame with
    | .ok next => next.world.returnData
    | .error _ => data
  else data

/-- An outside in which every call succeeds and returns a byte, every creation fails with that byte,
and everything else yields zeros. -/
def answering (byte : UInt8) : Outside Unit where
  call _ _ _ _ _ outer := ⟨true, [byte], outer⟩
  meter _ _ := 0
  perform _ _ _ outer := some ⟨0, fun _ => 0, [byte], outer⟩

variable {outside origin} {opcode : Opcode} {frame next : Frame Memory (World Ω)}

/-- Calls and creations have no immediate bytes. -/
theorem act_value (h : opcode.isCall || opcode.isCreation) (value value' : Word) :
    (outside.machine origin).act opcode value frame =
      (outside.machine origin).act opcode value' frame := by
  rcases Bool.or_eq_true_iff.1 h with h | h
  · unfold Opcode.isCall at h
    split at h <;> first | rfl | cases h
  · unfold Opcode.isCreation at h
    split at h <;> first | rfl | cases h

theorem lastReturned_of_act (h : opcode.isCall || opcode.isCreation) {value : Word}
    (hact : (outside.machine origin).act opcode value frame = .ok next) (data : Bytes) :
    outside.lastReturned origin opcode frame data = next.world.returnData := by
  rw [lastReturned, if_pos h, act_value h 0 value, hact]

theorem lastReturned_of_other (hc : opcode.isCall = false) (hn : opcode.isCreation = false)
    (data : Bytes) : outside.lastReturned origin opcode frame data = data := by
  rw [lastReturned, hc, hn]
  rfl

/-- A call returns what the reply to it holds. -/
theorem lastReturned_call (hc : opcode.isCall) (o : CallOperands)
    (hv : opcode.hasValue = false → o.value = 0) (s : List Word) (m : Memory) (world : World Ω)
    (data : Bytes) : outside.lastReturned origin opcode ⟨o.stack opcode ++ s, m, world⟩ data =
      (outside.replyTo opcode o m world.outer).data :=
  lastReturned_of_act (by rw [hc]; rfl) (outside.act_isCall origin hc 0 o hv s m world) data

end Outside

/-- The input of a call is what it reads. -/
theorem CallOperands.reads_stack {opcode : Opcode} (hc : opcode.isCall) (o : CallOperands)
    (s : List Word) : opcode.reads (o.stack opcode ++ s) = (o.argsOffset, o.argsSize) := by
  unfold Opcode.isCall at hc
  split at hc <;> first | rfl | cases hc

namespace Patcher

/-- Whether an image still has the return data of the deployed code behind one more opcode.  What is
left out can be lost indeed: see `loses_created_data` for creations, `loses_reported_data` for calls
and `loses_logged_data` for logs. -/
def keepsData (logsOnly : Bool) (opcode : Opcode) (stack : List Word) (returned : Bytes)
    (intact : Prop) : Prop :=
  if opcode.isCall then
    logsOnly = true ∨ Memory.Fits (opcode.reads stack).2.toNat returned.length
  else if opcode.isCreation then logsOnly = true
  else match opcode with
    | .log _ => intact ∧ logsOnly = false ∧ 0x80e4 + (opcode.reads stack).2.toNat ≤ 0xa000
    | _ => intact

/-- An image has return data: in memory, or if only logs are reported, in the machine. -/
def Holds {Ω : Type} (logsOnly : Bool) (frame : Frame Memory (World Ω)) (data : Bytes) : Prop :=
  if logsOnly then frame.world.returnData = data else frame.memory.Saves data

/-- The states that a run of an image goes through from its start on, with what the last call or
creation of the deployed code returned, and whether the image still has it.  The deployed code's own
accesses to memory stay below scratch memory. -/
inductive Follows {Ω : Type} (outside : Outside Ω) (origin : Address) (patcher : Patcher)
    (first : Scope) (code image : Bytes) : State Memory (World Ω) → Bytes → Prop → Prop where
  /-- Nothing was returned yet, and memory is empty. -/
  | start (outer : Ω) : Follows outside origin patcher first code image
      (.running 0 ⟨[], fun _ => 0, ⟨[], outer⟩⟩) [] True
  /-- Between sites. -/
  | inside {counter : Nat} {frame : Frame Memory (World Ω)} {next : State Memory (World Ω)}
      {data : Bytes} {intact : Prop}
      (h : Follows outside origin patcher first code image (.running counter frame) data intact)
      (hoff : OffSite patcher first code counter)
      (hstep : (outside.machine origin).step image (.running counter frame) = some next) :
      Follows outside origin patcher first code image next data intact
  /-- From the site of an instruction on. -/
  | site {i : Nat} {inst : Instruction} {frame : Frame Memory (World Ω)}
      {next : State Memory (World Ω)} {data : Bytes} {intact : Prop}
      (h : Follows outside origin patcher first code image
        (.running (expansionStart patcher first code i) frame) data intact)
      (hi : (disassemble first code)[i]? = some inst) (hb : inst.opcode.StaysBelow frame.stack)
      (hstep : (outside.machine origin).step image
        (.running (expansionStart patcher first code i) frame) = some next) :
      Follows outside origin patcher first code image next
        (outside.lastReturned origin inst.opcode frame data)
        (keepsData patcher.options.logsOnly inst.opcode frame.stack
          (outside.lastReturned origin inst.opcode frame data) intact)

section
variable {Ω : Type} {opcode : Opcode} {frame next : Frame Memory (World Ω)} {data : Bytes}
  {logsOnly : Bool} {stack : List Word} {intact : Prop}

theorem keepsData_of_call (hc : opcode.isCall) :
    keepsData logsOnly opcode stack data intact ↔
      logsOnly = true ∨ Memory.Fits (opcode.reads stack).2.toNat data.length := by
  unfold keepsData
  rw [if_pos hc]

theorem keepsData_of_creation (hc : opcode.isCall = false) (hn : opcode.isCreation) :
    keepsData logsOnly opcode stack data intact ↔ logsOnly = true := by
  unfold keepsData
  rw [if_neg (by simp [hc]), if_pos hn]

theorem keepsData_of_other (hc : opcode.isCall = false) (hn : opcode.isCreation = false)
    (hl : ∀ topics, opcode ≠ .log topics) :
    keepsData logsOnly opcode stack data intact = intact := by
  unfold keepsData
  rw [if_neg (by simp [hc]), if_neg (by simp [hn])]
  split
  · exact absurd rfl (hl _)
  · rfl

end

section
variable {Ω : Type} (outside : Outside Ω) (origin : Address) {patcher : Patcher}
  {base first : Scope} {code image : Bytes} {table : Table} {i : Nat} {inst : Instruction}
  (hp : patcher.Assembled base)
  (w : Written (patcher.leading code ++ patcher.instrumented first code) table image)
  (hsize : image.length ≤ 2 ^ 256)
include hp w hsize

/-! ## Sites -/

section
variable (hi : (disassemble first code)[i]? = some inst) (frame : Frame Memory (World Ω))
  (hb : inst.opcode.StaysBelow frame.stack) {data : Bytes} {intact : Prop}
include hi hb

/-- A site, if only logs are reported: the return data of the machine is that of the deployed code
up to the next log. -/
theorem lands_site_logsOnly (hl : patcher.options.logsOnly = true)
    (h : intact → frame.world.returnData = data) :
    Lands outside origin patcher first code image
      (.running (expansionStart patcher first code i) frame) fun next =>
        keepsData true inst.opcode frame.stack
            (outside.lastReturned origin inst.opcode frame data) intact →
          next.world.returnData = outside.lastReturned origin inst.opcode frame data := by
  by_cases hcall : inst.opcode.isCall || inst.opcode.isCreation
  · obtain ⟨hs, hr, hlog, hstore⟩ := Opcode.unpatched_of_call hcall
    refine (lands_kept outside origin hp w hi hs (by rw [Image.replaced?, hr, hl]; rfl) hlog
      (fun _ => hl) frame).mono ?_
    rintro next hact -
    exact (Outside.lastReturned_of_act hcall hact data).symm
  · rw [Bool.not_eq_true, Bool.or_eq_false_iff] at hcall
    obtain ⟨hc, hn⟩ := hcall
    rw [Outside.lastReturned_of_other hc hn]
    by_cases hlog : ∃ topics, inst.opcode = .log topics
    · obtain ⟨topics, ho⟩ := hlog
      refine (lands_log outside origin hp w hi hsize ho frame).mono fun next _ hkeeps => ?_
      rw [ho] at hkeeps
      cases hkeeps.2.1
    · have hlog := not_exists.1 hlog
      rw [keepsData_of_other hc hn hlog]
      exact (lands_spared outside origin hp w hi hsize frame hb.2 hc hn hlog fun _ => hl).mono
        fun next hs hintact => hs.2.trans (h hintact)

section
variable (hl : patcher.options.logsOnly = false)
include hl

/-- The site of a call, unless only logs are reported. -/
theorem lands_site_call (hc : inst.opcode.isCall) :
    Lands outside origin patcher first code image
      (.running (expansionStart patcher first code i) frame) fun next =>
        keepsData false inst.opcode frame.stack
            (outside.lastReturned origin inst.opcode frame data) intact →
          next.memory.Saves (outside.lastReturned origin inst.opcode frame data) := by
  obtain ⟨stack, m, world⟩ := frame
  rcases Nat.lt_or_ge stack.length inst.opcode.takes with hlt | hge
  · exact .inr (passes_call_failure outside origin hp w hi hl hc hlt m world)
  obtain ⟨o, s, hv, rfl⟩ := exists_callOperands hc hge
  have hreads := o.reads_stack hc s
  rw [Outside.lastReturned_call hc o hv]
  refine (lands_call outside origin hp w hi hsize hl hc o hv s m world (hreads ▸ hb.1) rfl).mono
    fun next hsaves hkeeps => hsaves ?_
  have hfits := ((keepsData_of_call hc).1 hkeeps).resolve_left Bool.false_ne_true
  rwa [hreads] at hfits

/-- The site of any opcode that is no call, no creation and no log, unless only logs are
reported. -/
theorem lands_site_other (hc : inst.opcode.isCall = false) (hn : inst.opcode.isCreation = false)
    (hlog : ∀ topics, inst.opcode ≠ .log topics) (h : intact → frame.memory.Saves data) :
    Lands outside origin patcher first code image
      (.running (expansionStart patcher first code i) frame)
      fun next => intact → next.memory.Saves data := by
  have hbelow (next : Frame Memory (World Ω))
      (hchange : frame.memory.ChangesWithin 0 0x8000 next.memory) (hintact : intact) :
      next.memory.Saves data := (h hintact).of_changesWithin hchange (.inl (by decide))
  by_cases hstore : inst.opcode = .sstore
  · exact (lands_sstore outside origin hp w hi hsize hl hstore frame).mono
      fun next hchange hintact => (h hintact).of_changesWithin hchange (.inl (by decide))
  by_cases hsizes : inst.opcode = .returndatasize
  · exact (lands_returndatasize outside origin hp w hi hl hsizes frame).mono hbelow
  by_cases hcopies : inst.opcode = .returndatacopy
  · exact (lands_returndatacopy outside origin hp w hi hsize hl hcopies frame
      (hcopies ▸ hb.2)).mono hbelow
  · refine (lands_spared outside origin hp w hi hsize frame hb.2 hc hn hlog ?_).mono
      fun next hs => hbelow next hs.1
    rintro (ho | ho | ho)
    · exact absurd ho hstore
    · exact absurd ho hsizes
    · exact absurd ho hcopies

/-- A site, unless only logs are reported: what is saved is the return data of the deployed code, up
to the next creation or a report that reaches it. -/
theorem lands_site_hooked (h : intact → frame.memory.Saves data) :
    Lands outside origin patcher first code image
      (.running (expansionStart patcher first code i) frame) fun next =>
        keepsData false inst.opcode frame.stack
            (outside.lastReturned origin inst.opcode frame data) intact →
          next.memory.Saves (outside.lastReturned origin inst.opcode frame data) := by
  cases hc : inst.opcode.isCall with
  | true => exact lands_site_call outside origin hp w hsize hi frame hb hl hc
  | false =>
    cases hn : inst.opcode.isCreation with
    | true =>
      obtain ⟨hs, hr, hlog, hstore⟩ := Opcode.unpatched_of_call (by rw [hc, hn]; rfl)
      have hkept : Image.replaced? patcher.options.logsOnly inst.opcode = none := by
        rw [Image.replaced?, hr, Opcode.unhooked_of_creation hn, ite_self]
      exact (lands_kept outside origin hp w hi hs hkept hlog (fun h => absurd h hstore) frame).mono
        fun next _ hkeeps => absurd ((keepsData_of_creation hc hn).1 hkeeps) Bool.false_ne_true
    | false =>
      rw [Outside.lastReturned_of_other hc hn]
      by_cases hlog : ∃ topics, inst.opcode = .log topics
      · obtain ⟨topics, ho⟩ := hlog
        refine (lands_log outside origin hp w hi hsize ho frame).mono fun next hchange hkeeps => ?_
        rw [ho] at hkeeps hchange
        exact (h hkeeps.1).of_changesWithin hchange (.inl hkeeps.2.2)
      · have hlog := not_exists.1 hlog
        rw [keepsData_of_other hc hn hlog]
        exact lands_site_other outside origin hp w hsize hi frame hb hl hc hn hlog h

end

/-- **From site to site an image keeps the return data of the deployed code.** -/
theorem lands_site (h : intact → Holds patcher.options.logsOnly frame data) :
    Lands outside origin patcher first code image
      (.running (expansionStart patcher first code i) frame) fun next =>
        keepsData patcher.options.logsOnly inst.opcode frame.stack
            (outside.lastReturned origin inst.opcode frame data) intact →
          Holds patcher.options.logsOnly next
            (outside.lastReturned origin inst.opcode frame data) := by
  cases hl : patcher.options.logsOnly with
  | true =>
    rw [hl] at h
    exact lands_site_logsOnly outside origin hp w hsize hi frame hb hl h
  | false =>
    rw [hl] at h
    exact lands_site_hooked outside origin hp w hsize hi frame hb hl h

end

/-! ## Runs -/

omit hp w hsize in
/-- A state between sites, on the way to a frame as it should be, or at a site with such a frame, or
halted. -/
def Arrives (patcher : Patcher) (first : Scope) (code image : Bytes)
    (good : Frame Memory (World Ω) → Prop) : State Memory (World Ω) → Prop
  | .halted _ => True
  | .running counter frame =>
    (∃ j ≤ (disassemble first code).length, counter = expansionStart patcher first code j ∧
      good frame) ∨
    OffSite patcher first code counter ∧
      Lands outside origin patcher first code image (.running counter frame) good

omit hp w hsize in
/-- The first step of a run to the next site leaves the rest of it. -/
theorem Lands.arrives {start next : State Memory (World Ω)} {good : Frame Memory (World Ω) → Prop}
    (h : Lands outside origin patcher first code image start good)
    (hstep : (outside.machine origin).step image start = some next) :
    Arrives outside origin patcher first code image good next := by
  obtain ⟨j, hj, frame, hgood, hrun⟩ | ⟨outcome, hrun⟩ := h
  · cases hrun with
    | single h' =>
      cases h'.symm.trans hstep
      exact .inl ⟨j, hj, rfl, hgood⟩
    | head h' hin rest =>
      cases h'.symm.trans hstep
      cases next with
      | halted outcome => trivial
      | running counter frame' => exact .inr ⟨hin, .inl ⟨j, hj, frame, hgood, rest⟩⟩
  · cases hrun with
    | single h' =>
      cases h'.symm.trans hstep
      trivial
    | head h' hin rest =>
      cases h'.symm.trans hstep
      cases next with
      | halted outcome => trivial
      | running counter frame' => exact .inr ⟨hin, .inr ⟨outcome, rest⟩⟩

omit hp w hsize in
/-- At a site, the frame is as it should be. -/
theorem Arrives.good {frame : Frame Memory (World Ω)} {good : Frame Memory (World Ω) → Prop}
    (hi : (disassemble first code)[i]? = some inst)
    (h : Arrives outside origin patcher first code image good
      (.running (expansionStart patcher first code i) frame)) : good frame := by
  obtain ⟨j, -, -, hgood⟩ | ⟨hoff, -⟩ := h
  · exact hgood
  · exact absurd rfl (hoff i (List.getElem?_eq_some_iff.1 hi).1)

omit hp w hsize in
/-- An image that starts has what was returned, which is nothing. -/
theorem holds_start (logsOnly : Bool) (outer : Ω) :
    Holds logsOnly ⟨[], fun _ => 0, ⟨[], outer⟩⟩ [] := by
  cases logsOnly with
  | true => rfl
  | false =>
    refine ⟨by simp, ?_, rfl⟩
    simp only [Memory.load, Memory.read]
    rfl

/-- **A run of an image goes from site to site, with the return data of the deployed code.** -/
theorem arrives_of_follows {state : State Memory (World Ω)} {data : Bytes} {intact : Prop}
    (h : Follows outside origin patcher first code image state data intact) :
    Arrives outside origin patcher first code image
      (fun frame => intact → Holds patcher.options.logsOnly frame data) state := by
  induction h with
  | start outer =>
    refine .inr ⟨offSite_front ?_, .inl ⟨0, Nat.zero_le _, _, fun _ => holds_start _ outer,
      passes_entry hp w hsize (outside.machine origin) _ fun p => offSite_front⟩⟩
    simp [expansionStart, runtimeStart]
  | @inside counter frame next data intact h hoff hstep ih =>
    obtain ⟨j, hj, rfl, -⟩ | ⟨-, hlands⟩ := ih
    · -- no expansion starts here, so this is the end of the runtime
      have hend : j = (disassemble first code).length :=
        Nat.le_antisymm hj (Nat.not_lt.1 fun hlt => hoff j hlt rfl)
      subst hend
      rw [step_ending hp w] at hstep
      cases hstep
      trivial
    · exact hlands.arrives outside origin hstep
  | @site i inst frame next data intact h hi hb hstep ih =>
    exact (lands_site outside origin hp w hsize hi frame hb (ih.good outside origin hi)).arrives
      outside origin hstep

/-- **At every site an image holds what the last call or creation returned.** -/
theorem holds_of_follows {frame : Frame Memory (World Ω)} {data : Bytes} {intact : Prop}
    (hi : (disassemble first code)[i]? = some inst)
    (h : Follows outside origin patcher first code image
      (.running (expansionStart patcher first code i) frame) data intact) (hintact : intact) :
    Holds patcher.options.logsOnly frame data :=
  (arrives_of_follows outside origin hp w hsize h).good outside origin hi hintact

/-! ## RETURNDATASIZE and RETURNDATACOPY -/

section
variable {m : Memory} {world : World Ω} {data : Bytes} (s : List Word)
  (hi : (disassemble first code)[i]? = some inst)
include hi

omit hsize in
/-- If only logs are reported, RETURNDATASIZE and RETURNDATACOPY are kept. -/
theorem passes_unpatched (hl : patcher.options.logsOnly = true)
    (ho : inst.opcode = .returndatasize ∨ inst.opcode = .returndatacopy)
    (frame : Frame Memory (World Ω)) :
    (outside.machine origin).Passes image (OffSite patcher first code)
      (.running (expansionStart patcher first code i) frame)
      (.after (((outside.machine origin).act inst.opcode inst.pushed frame).map fun next =>
        (expansionStart patcher first code (i + 1), next))) :=
  passes_kept outside origin hp w hi (by rcases ho with ho | ho <;> rw [ho] <;> rfl)
    (by rcases ho with ho | ho <;> rw [hl, ho] <;> rfl)
    (by rcases ho with ho | ho <;> simp [ho]) (fun _ => hl) frame

omit hsize in
/-- **RETURNDATASIZE pushes the size of the return data that the image has.** -/
theorem passes_held_size (ho : inst.opcode = .returndatasize)
    (h : Holds patcher.options.logsOnly ⟨s, m, world⟩ data) :
    (outside.machine origin).Passes image (OffSite patcher first code)
      (.running (expansionStart patcher first code i) ⟨s, m, world⟩)
      (.running (expansionStart patcher first code (i + 1))
        ⟨BitVec.ofNat 256 data.length :: s, m, world⟩) := by
  cases hl : patcher.options.logsOnly with
  | true =>
    rw [hl] at h
    have hrun := passes_unpatched outside origin hp w hi hl (.inl ho) ⟨s, m, world⟩
    rw [ho, Outside.act_returndatasize, show world.returnData = data from h] at hrun
    exact hrun
  | false =>
    rw [hl] at h
    rw [← (show m.Saves data from h).size]
    exact passes_returndatasize outside origin hp w m world hi hl ho s

variable (dst offset size : Word) (ho : inst.opcode = .returndatacopy)
  (h : Holds patcher.options.logsOnly ⟨dst :: offset :: size :: s, m, world⟩ data)
include ho h

/-- **RETURNDATACOPY writes the part of the return data that is asked for.** -/
theorem passes_held_copy (hin : offset.toNat + size.toNat ≤ data.length) :
    ∃ returnData, (outside.machine origin).Passes image (OffSite patcher first code)
      (.running (expansionStart patcher first code i) ⟨dst :: offset :: size :: s, m, world⟩)
      (.running (expansionStart patcher first code (i + 1)) ⟨s, m.write dst.toNat
        ((data.drop offset.toNat).take size.toNat), ⟨returnData, world.outer⟩⟩) := by
  cases hl : patcher.options.logsOnly with
  | true =>
    rw [hl] at h
    have hrun := passes_unpatched outside origin hp w hi hl (.inr ho)
      ⟨dst :: offset :: size :: s, m, world⟩
    rw [ho, Outside.act_returndatacopy, show world.returnData = data from h, if_pos hin] at hrun
    exact ⟨_, hrun⟩
  | false =>
    rw [hl] at h
    have hsaves : m.Saves data := h
    have hbounded := hsaves.bounded
    have hrun := passes_returndatacopy outside origin hp w m world hi hl hsize ho dst offset size s
      (by rw [hsaves.load_lt_iff (by omega)]; omega)
    rw [hsaves.read_part hin] at hrun
    exact ⟨_, hrun⟩

/-- **RETURNDATACOPY fails behind the end of the return data.** -/
theorem passes_held_copy_beyond (hout : data.length < offset.toNat + size.toNat)
    (hsum : patcher.options.logsOnly = false → offset.toNat + size.toNat < 2 ^ 256) :
    (outside.machine origin).Passes image (OffSite patcher first code)
      (.running (expansionStart patcher first code i) ⟨dst :: offset :: size :: s, m, world⟩)
      (.halted (.failed m world)) := by
  cases hl : patcher.options.logsOnly with
  | true =>
    rw [hl] at h
    have hrun := passes_unpatched outside origin hp w hi hl (.inr ho)
      ⟨dst :: offset :: size :: s, m, world⟩
    rw [ho, Outside.act_returndatacopy, show world.returnData = data from h,
      if_neg (Nat.not_le.2 hout)] at hrun
    exact hrun
  | false =>
    rw [hl] at h
    have hsaves : m.Saves data := h
    exact passes_returndatacopy_beyond outside origin hp w m world hi hl hsize ho dst offset size s
      ((hsaves.load_lt_iff (hsum hl)).2 hout)

end

/-! ## The virtual return data -/

/-- What RETURNDATASIZE and RETURNDATACOPY of the deployed code do in an image. -/
structure Virtualises (outside : Outside Ω) (origin : Address) (patcher : Patcher) (first : Scope)
    (code image : Bytes) : Prop where
  /-- Every run in which the deployed code's own accesses to memory stay below scratch memory is
  followed. -/
  followed : ∀ outer state, Reaches ((outside.machine origin).step image)
      (.running 0 ⟨[], fun _ => 0, ⟨[], outer⟩⟩) state →
    (∀ i inst frame, (disassemble first code)[i]? = some inst →
      Reaches ((outside.machine origin).step image) (.running 0 ⟨[], fun _ => 0, ⟨[], outer⟩⟩)
        (.running (expansionStart patcher first code i) frame) →
      inst.opcode.StaysBelow frame.stack) →
    ∃ data intact, Follows outside origin patcher first code image state data intact
  /-- RETURNDATASIZE pushes the size of what the last call or creation returned. -/
  size : ∀ i inst s m world data intact, (disassemble first code)[i]? = some inst →
    inst.opcode = .returndatasize → Follows outside origin patcher first code image
      (.running (expansionStart patcher first code i) ⟨s, m, world⟩) data intact → intact →
    Reaches ((outside.machine origin).step image)
      (.running (expansionStart patcher first code i) ⟨s, m, world⟩)
      (.running (expansionStart patcher first code (i + 1))
        ⟨BitVec.ofNat 256 data.length :: s, m, world⟩)
  /-- RETURNDATACOPY writes the part of it that is asked for. -/
  copied : ∀ i inst dst offset size s m world data intact,
    (disassemble first code)[i]? = some inst → inst.opcode = .returndatacopy →
    Follows outside origin patcher first code image
      (.running (expansionStart patcher first code i) ⟨dst :: offset :: size :: s, m, world⟩)
      data intact → intact → offset.toNat + size.toNat ≤ data.length →
    ∃ returnData, Reaches ((outside.machine origin).step image)
      (.running (expansionStart patcher first code i) ⟨dst :: offset :: size :: s, m, world⟩)
      (.running (expansionStart patcher first code (i + 1)) ⟨s, m.write dst.toNat
        ((data.drop offset.toNat).take size.toNat), ⟨returnData, world.outer⟩⟩)
  /-- RETURNDATACOPY fails behind the end of it; if more than logs are reported, unless the end of
  what is asked for is no word. -/
  beyond : ∀ i inst dst offset size s m world data intact,
    (disassemble first code)[i]? = some inst → inst.opcode = .returndatacopy →
    Follows outside origin patcher first code image
      (.running (expansionStart patcher first code i) ⟨dst :: offset :: size :: s, m, world⟩)
      data intact → intact → data.length < offset.toNat + size.toNat →
    (patcher.options.logsOnly = false → offset.toNat + size.toNat < 2 ^ 256) →
    Reaches ((outside.machine origin).step image)
      (.running (expansionStart patcher first code i) ⟨dst :: offset :: size :: s, m, world⟩)
      (.halted (.failed m world))

omit hp w hsize in
/-- A run is followed from its start on. -/
theorem exists_follows {outer : Ω} {state : State Memory (World Ω)}
    (h : Reaches ((outside.machine origin).step image)
      (.running 0 ⟨[], fun _ => 0, ⟨[], outer⟩⟩) state)
    (hb : ∀ i inst frame, (disassemble first code)[i]? = some inst →
      Reaches ((outside.machine origin).step image) (.running 0 ⟨[], fun _ => 0, ⟨[], outer⟩⟩)
        (.running (expansionStart patcher first code i) frame) →
      inst.opcode.StaysBelow frame.stack) :
    ∃ data intact, Follows outside origin patcher first code image state data intact := by
  induction h with
  | refl => exact ⟨_, _, .start outer⟩
  | @tail current next hrun hstep ih =>
    obtain ⟨data, intact, hfollows⟩ := ih
    cases current with
    | halted outcome => cases hstep
    | running counter frame =>
      by_cases hoff : OffSite patcher first code counter
      · exact ⟨_, _, hfollows.inside hoff hstep⟩
      · obtain ⟨i, hi⟩ := not_forall.1 hoff
        obtain ⟨hlt, heq⟩ := Classical.not_imp.1 hi
        obtain rfl := not_not.1 heq
        have hget := List.getElem?_eq_getElem hlt
        exact ⟨_, _, hfollows.site hget (hb i _ frame hget hrun) hstep⟩

end

/-! ## Followed runs -/

section
variable {Ω : Type} {outside : Outside Ω} {origin : Address} {patcher : Patcher}
  {base first : Scope} {code image : Bytes} {table : Table} {i : Nat} {inst : Instruction}
  {data : Bytes} {intact : Prop}

/-- A run between sites is followed. -/
theorem Follows.passes {a b : State Memory (World Ω)}
    (h : Follows outside origin patcher first code image a data intact)
    (ha : a.Within (OffSite patcher first code))
    (hrun : (outside.machine origin).Passes image (OffSite patcher first code) a b) :
    Follows outside origin patcher first code image b data intact := by
  induction hrun with
  | @single a b hstep =>
    cases a with
    | halted outcome => cases hstep
    | running counter frame => exact h.inside ha hstep
  | @head a b c hstep hb rest ih =>
    cases a with
    | halted outcome => cases hstep
    | running counter frame => exact ih (h.inside ha hstep) hb

/-- A run from a site on is followed. -/
theorem Follows.passes_site {frame : Frame Memory (World Ω)} {b : State Memory (World Ω)}
    (h : Follows outside origin patcher first code image
      (.running (expansionStart patcher first code i) frame) data intact)
    (hi : (disassemble first code)[i]? = some inst) (hb : inst.opcode.StaysBelow frame.stack)
    (hrun : (outside.machine origin).Passes image (OffSite patcher first code)
      (.running (expansionStart patcher first code i) frame) b) :
    Follows outside origin patcher first code image b
      (outside.lastReturned origin inst.opcode frame data)
      (keepsData patcher.options.logsOnly inst.opcode frame.stack
        (outside.lastReturned origin inst.opcode frame data) intact) := by
  cases hrun with
  | single hstep => exact h.site hi hb hstep
  | head hstep hin rest => exact (h.site hi hb hstep).passes hin rest

variable (outside origin) (hp : patcher.Assembled base)
  (w : Written (patcher.leading code ++ patcher.instrumented first code) table image)
include hp w

/-- The run to the first site is followed. -/
theorem follows_entry (hsize : image.length ≤ 2 ^ 256) (outer : Ω) :
    Follows outside origin patcher first code image
      (.running (expansionStart patcher first code 0) ⟨[], fun _ => 0, ⟨[], outer⟩⟩) [] True := by
  have hzero : OffSite patcher first code 0 :=
    offSite_front (by simp [expansionStart, runtimeStart])
  exact (Follows.start outer).passes hzero
    (passes_entry hp w hsize (outside.machine origin) _ fun _ => offSite_front)

/-- An opcode that is kept is followed. -/
theorem Follows.kept {frame next : Frame Memory (World Ω)}
    (h : Follows outside origin patcher first code image
      (.running (expansionStart patcher first code i) frame) data intact)
    (hi : (disassemble first code)[i]? = some inst) (hs : inst.opcode.isStraight)
    (hr : Image.replaced? patcher.options.logsOnly inst.opcode = none)
    (hlog : ∀ topics, inst.opcode ≠ .log topics) (hstore : inst.opcode ≠ .sstore)
    (hb : inst.opcode.StaysBelow frame.stack)
    (hact : (outside.machine origin).act inst.opcode inst.pushed frame = .ok next) :
    Follows outside origin patcher first code image
      (.running (expansionStart patcher first code (i + 1)) next)
      (outside.lastReturned origin inst.opcode frame data)
      (keepsData patcher.options.logsOnly inst.opcode frame.stack
        (outside.lastReturned origin inst.opcode frame data) intact) := by
  have hrun := passes_kept outside origin hp w hi hs hr hlog (fun h => absurd h hstore) frame
  rw [hact] at hrun
  exact h.passes_site hi hb hrun

/-- A push is followed. -/
theorem Follows.push {s : List Word} {m : Memory} {world : World Ω}
    (h : Follows outside origin patcher first code image
      (.running (expansionStart patcher first code i) ⟨s, m, world⟩) data intact)
    (hi : (disassemble first code)[i]? = some inst) {width : Fin 33}
    (ho : inst.opcode = .push width) :
    Follows outside origin patcher first code image
      (.running (expansionStart patcher first code (i + 1)) ⟨inst.pushed :: s, m, world⟩) data
      intact := by
  have hr : Image.replaced? patcher.options.logsOnly inst.opcode = none := by
    rw [ho]
    cases patcher.options.logsOnly <;> rfl
  have hc : inst.opcode.isCall = false := by rw [ho]; rfl
  have hn : inst.opcode.isCreation = false := by rw [ho]; rfl
  have hlog : ∀ topics, inst.opcode ≠ .log topics := by simp [ho]
  have hnext := h.kept outside origin hp w hi (by rw [ho]; rfl) hr hlog (by simp [ho])
    (by rw [ho]; exact ⟨.inl rfl, .inl rfl⟩) (by rw [ho, Machine.act_push])
  rwa [Outside.lastReturned_of_other hc hn, keepsData_of_other hc hn hlog] at hnext

end

/-- **RETURNDATASIZE and RETURNDATACOPY yield what the last call or creation of the deployed code
returned**, as long as the image still has it.  Offsets are words; a byte string in memory is
shorter. -/
theorem virtualises_of_patchFrom {Ω : Type} (outside : Outside Ω) (origin : Address)
    {options : PatchOptions} {patcher : Patcher} {base first : Scope} {code image : Bytes}
    (hp : Patcher.new options base = .ok patcher) (h : patcher.patchFrom first code = .ok image)
    (hsize : image.length ≤ 2 ^ 256) : Virtualises outside origin patcher first code image := by
  obtain ⟨rfl, ha⟩ := assembled_of_new hp
  rcases eq_or_ne code [] with rfl | hc
  · -- code without instructions has no sites
    have hnone (i : Nat) (inst : Instruction) (hi : (disassemble first [])[i]? = some inst) :
        False := by
      cases hi
    exact ⟨fun outer state => exists_follows outside origin,
      fun i inst _ _ _ _ _ hi => (hnone i inst hi).elim,
      fun i inst _ _ _ _ _ _ _ _ hi => (hnone i inst hi).elim,
      fun i inst _ _ _ _ _ _ _ _ hi => (hnone i inst hi).elim⟩
  · obtain ⟨table, w⟩ := patchFrom_ok hc h
    refine ⟨fun outer state => exists_follows outside origin,
      fun i inst s m world data intact hi ho hf hintact => ?_,
      fun i inst dst offset size s m world data intact hi ho hf hintact hin => ?_,
      fun i inst dst offset size s m world data intact hi ho hf hintact hout hsum => ?_⟩
    · exact (passes_held_size outside origin ha w s hi ho
        (holds_of_follows outside origin ha w hsize hi hf hintact)).reaches₁.to_reflTransGen
    · obtain ⟨returnData, hrun⟩ := passes_held_copy outside origin ha w hsize s hi dst offset size
        ho (holds_of_follows outside origin ha w hsize hi hf hintact) hin
      exact ⟨returnData, hrun.reaches₁.to_reflTransGen⟩
    · exact (passes_held_copy_beyond outside origin ha w hsize s hi dst offset size ho
        (holds_of_follows outside origin ha w hsize hi hf hintact) hout
        hsum).reaches₁.to_reflTransGen

/-- Behind a call that returned a byte, RETURNDATASIZE pushes one. -/
theorem virtualises_static_call : ∃ patcher image, Patcher.new {} ⟨0⟩ = .ok patcher ∧
    patcher.patch [0x5f, 0x5f, 0x5f, 0x5f, 0x5f, 0x5f, 0xfa, 0x3d, 0x00] = .ok image ∧
    image.length ≤ 2 ^ 256 ∧
    Virtualises (.answering 0x2a) 0 patcher firstScope
      [0x5f, 0x5f, 0x5f, 0x5f, 0x5f, 0x5f, 0xfa, 0x3d, 0x00] image ∧
    ∃ s m world intact, intact ∧ Follows (.answering 0x2a) 0 patcher firstScope
      [0x5f, 0x5f, 0x5f, 0x5f, 0x5f, 0x5f, 0xfa, 0x3d, 0x00] image
      (.running (expansionStart patcher firstScope
        [0x5f, 0x5f, 0x5f, 0x5f, 0x5f, 0x5f, 0xfa, 0x3d, 0x00] 7) ⟨s, m, world⟩) [0x2a] intact := by
  obtain ⟨patcher, image, table, hp, himg, hsize, ho, ha, w⟩ := exists_written {}
    [0x5f, 0x5f, 0x5f, 0x5f, 0x5f, 0x5f, 0xfa, 0x3d, 0x00] (by decide) (by decide) rfl
  refine ⟨patcher, image, hp, himg, hsize, virtualises_of_patchFrom _ 0 hp himg hsize, ?_⟩
  -- six zeros are the operands of the call
  have hentry := follows_entry (.answering 0x2a) 0 ha w hsize ()
  have h₂ := (hentry.push _ _ ha w (i := 0) rfl rfl).push _ _ ha w (i := 1) rfl rfl
  have h₄ := (h₂.push _ _ ha w (i := 2) rfl rfl).push _ _ ha w (i := 3) rfl rfl
  have h₆ := (h₄.push _ _ ha w (i := 4) rfl rfl).push _ _ ha w (i := 5) rfl rfl
  obtain ⟨back, hleave, gas, hgas⟩ := reports_call (.answering 0x2a) 0 ha w (i := 6) rfl hsize
    (by rw [ho]) rfl ⟨0, 0, 0, 0, 0, 0, 0⟩ (fun _ => rfl) [] (fun _ => 0) ⟨[], ()⟩ rfl rfl
  have hcall := h₆.passes_site rfl ⟨.inl rfl, .inl rfl⟩ (((hgas _ rfl).1 rfl).passes (hleave _))
  exact ⟨_, _, _, _, .inr (.inl (by decide)), hcall⟩

/-- If only logs are reported, RETURNDATASIZE pushes one behind a log, though no call was made. -/
theorem loses_return_data : ∃ patcher image,
    Patcher.new { logsOnly := true } ⟨0⟩ = .ok patcher ∧
    patcher.patch [0x5f, 0x5f, 0xa0, 0x3d, 0x00] = .ok image ∧ ∃ s m world intact,
    Follows (.answering 0x2a) 0 patcher firstScope [0x5f, 0x5f, 0xa0, 0x3d, 0x00] image
      (.running (expansionStart patcher firstScope [0x5f, 0x5f, 0xa0, 0x3d, 0x00] 3)
        ⟨s, m, world⟩) [] intact ∧
    Reaches (((Outside.answering 0x2a).machine 0).step image)
      (.running (expansionStart patcher firstScope [0x5f, 0x5f, 0xa0, 0x3d, 0x00] 3) ⟨s, m, world⟩)
      (.running (expansionStart patcher firstScope [0x5f, 0x5f, 0xa0, 0x3d, 0x00] 4)
        ⟨1 :: s, m, world⟩) := by
  obtain ⟨patcher, image, table, hp, himg, hsize, ho, ha, w⟩ := exists_written
    { logsOnly := true } [0x5f, 0x5f, 0xa0, 0x3d, 0x00] (by decide) (by decide) rfl
  refine ⟨patcher, image, hp, himg, ?_⟩
  -- two zeros are the operands of the log
  have hentry := follows_entry (.answering 0x2a) 0 ha w hsize ()
  have h₂ := (hentry.push _ _ ha w (i := 0) rfl rfl).push _ _ ha w (i := 1) rfl rfl
  obtain ⟨gas, hgas⟩ := reports_log (.answering 0x2a) 0 ha w (i := 2) rfl (fun _ => 0) ⟨[], ()⟩
    hsize rfl 0 0 (Nat.zero_le _)
  have hown := passes_own (.answering 0x2a) 0 ha w (i := 2) rfl (n := 5)
    (by rw [expansion_log ha _ _ _ rfl]; rfl) rfl
  have hlog := h₂.passes_site rfl ⟨.inl rfl, .inl rfl⟩ (((hgas _ rfl).1 rfl).passes (hown _))
  refine ⟨_, _, _, _, hlog, ?_⟩
  exact (passes_unpatched (.answering 0x2a) 0 ha w (i := 3) rfl (by rw [ho]) (.inl rfl)
    _).reaches₁.to_reflTransGen

/-- On a run of the image of some code from its start, the RETURNDATASIZE that is the instruction
`i` pushes `size`, although `data` is what the last call or creation of the deployed code returned.
Every call succeeds and returns a byte, and every creation fails with that byte. -/
def PushesSize (options : PatchOptions) (code : Bytes) (i : Nat) (data : Bytes) (size : Word) :
    Prop :=
  (disassemble firstScope code)[i]?.map (·.opcode) = some .returndatasize ∧
  ∃ patcher image, Patcher.new options ⟨0⟩ = .ok patcher ∧ patcher.patch code = .ok image ∧
    ∃ s m world intact, Follows (.answering 0x2a) 0 patcher firstScope code image
      (.running (expansionStart patcher firstScope code i) ⟨s, m, world⟩) data intact ∧
    Reaches (((Outside.answering 0x2a).machine 0).step image)
      (.running (expansionStart patcher firstScope code i) ⟨s, m, world⟩)
      (.running (expansionStart patcher firstScope code (i + 1)) ⟨size :: s, m, world⟩)

section
variable {patcher : Patcher} {code image : Bytes} {table : Table} {i : Nat} {inst : Instruction}
  {data : Bytes} {intact : Prop}

/-- Unless only logs are reported, RETURNDATASIZE pushes the word that is saved, whatever it is. -/
theorem pushesSize_of_follows (hp : Patcher.new {} ⟨0⟩ = .ok patcher)
    (himg : patcher.patch code = .ok image)
    (w : Written (patcher.leading code ++ patcher.instrumented firstScope code) table image)
    (hi : (disassemble firstScope code)[i]? = some inst) (ho : inst.opcode = .returndatasize)
    {s : List Word} {m : Memory} {world : World Unit}
    (h : Follows (.answering 0x2a) 0 patcher firstScope code image
      (.running (expansionStart patcher firstScope code i) ⟨s, m, world⟩) data intact)
    {size : Word} (hm : m.load 0xa000#256 = size) : PushesSize {} code i data size := by
  obtain ⟨hoptions, ha⟩ := assembled_of_new hp
  have hrun := passes_returndatasize (.answering 0x2a) 0 ha w m world hi (by rw [hoptions]) ho s
  rw [hm] at hrun
  exact ⟨by rw [hi, Option.map_some, ho], patcher, image, hp, himg, s, m, world, intact, h,
    hrun.reaches₁.to_reflTransGen⟩

end

/-- What a creation returned is not saved: RETURNDATASIZE pushes zero behind a CREATE that returned
a byte. -/
theorem loses_created_data : PushesSize {} [0x5f, 0x5f, 0x5f, 0xf0, 0x3d, 0x00] 4 [0x2a] 0 := by
  obtain ⟨patcher, image, table, hp, himg, hsize, ho, ha, w⟩ := exists_written {}
    [0x5f, 0x5f, 0x5f, 0xf0, 0x3d, 0x00] (by decide) (by decide) rfl
  -- three zeros are the operands of the creation
  have hentry := follows_entry (.answering 0x2a) 0 ha w hsize ()
  have h₂ := (hentry.push _ _ ha w (i := 0) rfl rfl).push _ _ ha w (i := 1) rfl rfl
  have h₃ := h₂.push _ _ ha w (i := 2) rfl rfl
  have h₄ := h₃.kept _ _ ha w (i := 3) rfl rfl (by rw [ho]; rfl) (by decide) (by decide)
    ⟨.inl rfl, .inl rfl⟩ rfl
  exact pushesSize_of_follows hp himg w rfl rfl h₄ (by decide)

/-- A log whose data reaches what is saved replaces it: RETURNDATASIZE pushes a word of the data,
though no call was made. -/
theorem loses_logged_data : PushesSize {}
    [0x60, 0x01, 0x61, 0x1f, 0x1c, 0x52, 0x61, 0x1f, 0x3c, 0x5f, 0xa0, 0x3d, 0x00] 6 [] 1 := by
  obtain ⟨patcher, image, table, hp, himg, hsize, ho, ha, w⟩ := exists_written {}
    [0x60, 0x01, 0x61, 0x1f, 0x1c, 0x52, 0x61, 0x1f, 0x3c, 0x5f, 0xa0, 0x3d, 0x00] (by decide)
    (by decide) rfl
  let m : Memory := Memory.store (fun _ => 0) 0x1f1c 1
  have hentry := follows_entry (.answering 0x2a) 0 ha w hsize ()
  have h₂ := (hentry.push _ _ ha w (i := 0) rfl rfl).push _ _ ha w (i := 1) rfl rfl
  have hstore : ((Outside.answering 0x2a).machine 0).act .mstore 0
      ⟨[0x1f1c, 1], fun _ => 0, ⟨[], ()⟩⟩ = .ok ⟨[], m, ⟨[], ()⟩⟩ := rfl
  have h₃ := h₂.kept _ _ ha w (i := 2) rfl rfl (by rw [ho]; rfl) (by decide) (by decide)
    ⟨.inl rfl, .inr (by decide)⟩ hstore
  have h₅ := (h₃.push _ _ ha w (i := 3) rfl rfl).push _ _ ha w (i := 4) rfl rfl
  obtain ⟨gas, hgas⟩ := reports_log (.answering 0x2a) 0 ha w (i := 5) rfl m ⟨[], ()⟩ hsize rfl
    0 0x1f3c (Nat.zero_le _)
  have hown := passes_own (.answering 0x2a) 0 ha w (i := 5) rfl (n := 5)
    (by rw [expansion_log ha _ _ _ rfl]; rfl) rfl
  have h₆ := h₅.passes_site rfl ⟨.inr (by decide), .inl rfl⟩
    (((hgas _ rfl).1 rfl).passes (hown _))
  -- the last word of the data lies where the size is saved
  have hlast : 0x1f1c + 32 ≤ (0x1f3c : Word).toNat := by decide
  have htopics : ([] : List Word).length ≤ 4 := Nat.zero_le 4
  have hword : (m.withLog patcher.options.selectors.log 0 0 0x1f3c []).read 0xa000 32 =
      wordBytes 1 :=
    (m.read_withLog_data _ htopics (by decide) [] hlast).trans (Memory.read_write _ _ _)
  refine pushesSize_of_follows hp himg w rfl rfl h₆ ?_
  show BitVec.ofNat 256 (ofBigEndian (Memory.read (Memory.write _ 0 []) 0xa000 32)) = 1
  rw [Memory.write_nil]
  exact (congrArg (BitVec.ofNat 256 <| ofBigEndian ·) hword).trans (by decide)

end Patcher

end EvmProbe
