import EvmProbe.Proofs.Image.Routing

/-!
An image does what the deployed code does.

The result is about code that decoding covers, without opcodes that are reported or that read code
or return data (`Opcode.isObserved`).  Every step of such code is matched by steps of its image: the
machine goes from the expansion of an instruction to the expansion of the next one (`Relocated`),
with the same stack, memory and world.

* `isDestination_iff_mem`: the destinations of covered code are those that the router knows.
* `reaches_expansion`: the run of one expansion.
* `Simulates`, `simulates_of_patchFrom`: the image simulates the code.
-/

namespace EvmProbe

open Bytecode Linking StateTransition

/-- Whether an image does more for an opcode than the opcode itself: it is reported, or it reads
code, return data or gas. -/
def Opcode.isObserved : Opcode → Bool
  | .sstore | .log _ | .call | .callcode | .delegatecall | .staticcall | .extcodesize
  | .extcodehash | .extcodecopy | .codecopy | .returndatasize | .returndatacopy | .gas => true
  | _ => false

/-- A decoded instruction writes the number that its immediate bytes write. -/
theorem IsDecoded.pushed {offset : Nat} {byte : UInt8} {immediate : Bytes} {inst : Instruction}
    (h : IsDecoded offset byte immediate inst) (full : immediate.length = Opcode.widthOfByte byte) :
    inst.pushed = BitVec.ofNat 256 (ofBigEndian immediate) := by
  have he := h.encoded? full
  have hb : inst.opcode.toByte? = some byte := by rw [h.opcode, Opcode.toByte?_ofByte]
  have heq := Instruction.encoded_eq hb (Option.isSome_iff_exists.2 ⟨_, he⟩)
  rw [Instruction.encoded, he, Option.getD_some, List.cons.injEq] at heq
  rw [Instruction.pushed, ← heq.2]

namespace Patcher

/-! ## Covered code -/

section
variable {first : Scope} {code : Bytes}

/-- The instruction of an index is what is decoded behind the instructions in front of it. -/
theorem isDecoded_of_getElem? {i : Nat} {inst : Instruction}
    (hi : (disassemble first code)[i]? = some inst) : ∃ byte immediate rest,
      code.drop (codeSize ((disassemble first code).take i)) = byte :: (immediate ++ rest) ∧
        immediate.length = Opcode.widthOfByte byte ∧
        IsDecoded (codeSize ((disassemble first code).take i)) byte immediate inst := by
  have hat : StandsAt (disassemble first code)
      (codeSize ((disassemble first code).take i)) inst := by
    obtain ⟨hlt, rfl⟩ := List.getElem?_eq_some_iff.1 hi
    refine ⟨_, (disassemble first code).drop (i + 1), ?_, rfl⟩
    rw [← List.drop_eq_getElem_cons hlt, List.take_append_drop]
  simpa using (decoded_disassemble first code).of_standsAt hat

theorem toByte?_eq_jumpdest {op : Opcode} {byte : UInt8} (h : op = .ofByte byte) :
    op.toByte? = some jumpdestByte ↔ op = .jumpdest := by
  subst h
  rw [Opcode.toByte?_ofByte, Option.some.injEq]
  refine ⟨fun h => by rw [h]; rfl, fun h => ?_⟩
  have := Opcode.toByte?_ofByte byte
  rw [h] at this
  exact (Option.some.inj this).symm

/-- **The destinations of covered code are those that the router knows.** -/
theorem isDestination_iff_mem (first : Scope)
    (hcover : codeSize (disassemble first code) = code.length) {d : Nat} :
    IsDestination code d ↔ d ∈ Image.destinations (disassemble first code) := by
  have hdec := decoded_disassemble first code
  have hmarks : (d, jumpdestByte) ∈
      marksFrom 0 0 ((disassemble first code).flatMap fun inst => (id inst).encoded) ↔
        ∃ k inst, d = 0 + k ∧ StandsAt (disassemble first code) k inst ∧
          inst.opcode.toByte? = some jumpdestByte := by
    refine mem_marksFrom_flatMap (fun _ => rfl) fun inst hm => ?_
    obtain ⟨_, _, _, _, hd⟩ := hdec.of_mem hm
    exact ⟨hd.ne_data, hdec.isSome_encoded? hm, rfl⟩
  have hcode : code = (disassemble first code).flatMap fun inst => (id inst).encoded :=
    hdec.eq_flatMap_encoded hcover
  have hiff : IsDestination code d ↔ ∃ k inst, d = 0 + k ∧
      StandsAt (disassemble first code) k inst ∧ inst.opcode.toByte? = some jumpdestByte := by
    rw [← hmarks, ← hcode]
    rfl
  rw [hiff, mem_destinations]
  constructor
  · rintro ⟨k, inst, rfl, hat, hb⟩
    obtain ⟨_, _, _, -, -, hd⟩ := hdec.of_standsAt hat
    exact ⟨inst, hat.mem, (toByte?_eq_jumpdest hd.opcode).1 hb, hd.source⟩
  · rintro ⟨inst, hm, hj, hs⟩
    obtain ⟨k, hat⟩ := StandsAt.exists_of_mem hm
    obtain ⟨_, _, _, -, -, hd⟩ := hdec.of_standsAt hat
    rw [hd.source, Option.some.injEq] at hs
    exact ⟨k, inst, hs.symm, hat, by rw [hj]; rfl⟩

end

/-! ## Relocated instructions -/

/-- Where an image goes on for an offset of the deployed code: at the expansion of the instruction
there, and for the end of the code behind the last expansion. -/
inductive Relocated (patcher : Patcher) (first : Scope) (code : Bytes) : Nat → Nat → Prop where
  | site {i offset : Nat} {inst : Instruction} (hi : (disassemble first code)[i]? = some inst)
      (hs : inst.source = some offset) :
      Relocated patcher first code offset (expansionStart patcher first code i)
  | ending : Relocated patcher first code code.length
      (expansionStart patcher first code (disassemble first code).length)

/-- States of the deployed code and of its image that belong together. -/
inductive Simulated {μ ω : Type} (patcher : Patcher) (first : Scope) (code : Bytes) :
    State μ ω → State μ ω → Prop where
  | running {offset position : Nat} (h : Relocated patcher first code offset position)
      (frame : Frame μ ω) :
      Simulated patcher first code (.running offset frame) (.running position frame)
  | halted (outcome : Outcome μ ω) :
      Simulated patcher first code (.halted outcome) (.halted outcome)

section
variable {patcher : Patcher} {base first : Scope} {code image : Bytes} {table : Table}

/-- Behind any number of instructions, an image goes on behind their expansions. -/
theorem relocated_take (patcher : Patcher)
    (hcover : codeSize (disassemble first code) = code.length) {i : Nat}
    (hi : i ≤ (disassemble first code).length) :
    Relocated patcher first code (codeSize ((disassemble first code).take i))
      (expansionStart patcher first code i) := by
  rcases Nat.lt_or_eq_of_le hi with hlt | rfl
  · have hget := List.getElem?_eq_getElem hlt
    obtain ⟨_, _, _, -, -, hd⟩ := isDecoded_of_getElem? hget
    exact .site hget hd.source
  · rw [List.take_length, hcover]
    exact .ending

/-- Behind an instruction, an image goes on behind its expansion. -/
theorem relocated_behind (patcher : Patcher)
    (hcover : codeSize (disassemble first code) = code.length) {i offset : Nat}
    {inst : Instruction} (hi : (disassemble first code)[i]? = some inst)
    (hs : inst.source = some offset) : Relocated patcher first code (offset + inst.size)
      (expansionStart patcher first code i +
        codeSize (patcher.expansion first code (inst, i))) := by
  obtain ⟨_, _, _, -, -, hd⟩ := isDecoded_of_getElem? hi
  rw [hd.source, Option.some.injEq] at hs
  have h := relocated_take patcher hcover
    (Nat.succ_le_of_lt (List.getElem?_eq_some_iff.1 hi).1)
  rw [List.take_add_one, hi, codeSize_append, hs, expansionStart_succ patcher hi] at h
  simpa using h

/-! ## The run of an expansion -/

variable {μ ω : Type} {original instrumented : Machine μ ω} {memory : μ} {world : ω}
  {frame : Frame μ ω} {i offset : Nat} {inst : Instruction}

/-- The expansion of an opcode that acts on the frame alone and is neither replaced nor reported is
the instruction itself, which may get a label. -/
theorem expansion_of_kept (patcher : Patcher) (first : Scope) (code : Bytes) (i : Nat)
    (hs : inst.opcode.isStraight)
    (hr : Image.replaced? patcher.settings.logsOnly inst.opcode = none)
    (hl : ∀ topics, inst.opcode ≠ .log topics)
    (hw : inst.opcode = .sstore → patcher.settings.logsOnly = true) :
    ∃ kept, patcher.expansion first code (inst, i) = [kept] ∧ kept.opcode = inst.opcode ∧
      kept.operand = inst.operand := by
  by_cases hj : inst.opcode = .jumpdest
  · exact ⟨_, expand_jumpdest _ _ hj, rfl, rfl⟩
  · refine ⟨inst, ?_, rfl, rfl⟩
    unfold expansion expand Image.expand
    generalize inst.opcode = op at hs hr hl hw hj ⊢
    dsimp only
    rw [hr]
    dsimp only
    split
    · cases hs
    · cases hs
    · cases hs
    · exact absurd rfl hj
    · exact absurd rfl (hl _)
    · rw [hw rfl, if_pos rfl]
    · rfl

/-- The expansion of an opcode that acts on the frame alone and is not observed is the instruction
itself, which may get a label. -/
theorem expansion_of_isStraight (patcher : Patcher) (first : Scope) (code : Bytes) (i : Nat)
    (hs : inst.opcode.isStraight) (ho : inst.opcode.isObserved = false) :
    ∃ kept, patcher.expansion first code (inst, i) = [kept] ∧ kept.opcode = inst.opcode ∧
      kept.operand = inst.operand := by
  refine expansion_of_kept patcher first code i hs ?_ (fun topics h => ?_) fun h => ?_
  · generalize inst.opcode = op at hs ho
    unfold Image.replaced? Image.alwaysReplaced? Image.hookReplaced?
    grind [Opcode.isStraight, Opcode.isObserved]
  · rw [h] at ho
    cases ho
  · rw [h] at ho
    cases ho

theorem expansion_pc (patcher : Patcher) (first : Scope) (code : Bytes) (i : Nat)
    (ho : inst.opcode = .pc) :
    patcher.expansion first code (inst, i) = [.pushInt (.pushN 3) (inst.source.getD 0)] := by
  simp [expansion, expand, Image.expand, ho, Image.replaced?, Image.alwaysReplaced?,
    Image.hookReplaced?]

theorem expansion_codesize (patcher : Patcher) (first : Scope) (code : Bytes) (i : Nat)
    (ho : inst.opcode = .codesize) :
    patcher.expansion first code (inst, i) = [.pushInt (.pushN 3) code.length] := by
  simp [expansion, expand, Image.expand, ho, Image.replaced?, Image.alwaysReplaced?,
    Image.hookReplaced?]

theorem expansion_origin (patcher : Patcher) (first : Scope) (code : Bytes) (i : Nat)
    (ho : inst.opcode = .origin) : patcher.expansion first code (inst, i) =
      [.pushBytes (.pushN 20) (wordBytes patcher.options.origin)] := by
  simp [expansion, expand, Image.expand, ho, Image.replaced?, Image.alwaysReplaced?,
    Image.hookReplaced?, settings]

/-- The run of an expansion that acts on the frame alone. -/
theorem reaches_of_block (hp : patcher.Assembled base)
    (w : Written (patcher.leading code ++ patcher.instrumented first code) table image)
    (hcover : codeSize (disassemble first code) = code.length)
    (hi : (disassemble first code)[i]? = some inst) (hs : inst.source = some offset)
    (hne : patcher.expansion first code (inst, i) ≠ [])
    (hblock : (patcher.expansion first code (inst, i)).all Instruction.isStraight) {value : Word}
    (hact : original.execute code offset inst.opcode value frame =
      (instrumented.actAll ((patcher.expansion first code (inst, i)).map (resolved table))
        frame).map fun frame => (offset + inst.size, frame)) :
    ∃ state, Simulated patcher first code
        (.after (original.execute code offset inst.opcode value frame)) state ∧
      Reaches₁ (instrumented.step image)
        (.running (expansionStart patcher first code i) frame) state := by
  have hrun := w.reaches_block instrumented frame (liesAt_expansion hp hi) hne hblock
  rw [hact]
  cases hr : instrumented.actAll ((patcher.expansion first code (inst, i)).map (resolved table))
      frame with
  | error outcome =>
    rw [hr] at hrun
    exact ⟨_, .halted outcome, hrun⟩
  | ok next =>
    rw [hr] at hrun
    exact ⟨_, .running (relocated_behind patcher hcover hi hs) next, hrun⟩

/-- The run of the expansion of an opcode that acts on the frame alone. -/
theorem reaches_kept (hp : patcher.Assembled base)
    (w : Written (patcher.leading code ++ patcher.instrumented first code) table image)
    (hcover : codeSize (disassemble first code) = code.length)
    (hother : original.other = instrumented.other) (hi : (disassemble first code)[i]? = some inst)
    {byte : UInt8} {immediate : Bytes} (hd : IsDecoded offset byte immediate inst)
    (full : immediate.length = Opcode.widthOfByte byte) (hs : inst.opcode.isStraight)
    (ho : inst.opcode.isObserved = false) :
    ∃ state, Simulated patcher first code (.after (original.execute code offset inst.opcode
        (BitVec.ofNat 256 (ofBigEndian immediate)) frame)) state ∧
      Reaches₁ (instrumented.step image)
        (.running (expansionStart patcher first code i) frame) state := by
  obtain ⟨kept, hexp, hop, hoperand⟩ := expansion_of_isStraight patcher first code i hs ho
  have hresolved : resolved table kept = kept :=
    resolved_of_reference?_eq_none (by rw [reference?, hoperand]; exact hd.reference?_eq_none)
  have hpushed : kept.pushed = BitVec.ofNat 256 (ofBigEndian immediate) := by
    rw [← hd.pushed full, Instruction.pushed, Instruction.immediate?, hop, hoperand]
    rfl
  have hcanonical : inst.opcode.isCanonical := hd.opcode ▸ Opcode.isCanonical_ofByte byte
  refine reaches_of_block hp w hcover hi hd.source (by rw [hexp]; simp) ?_ ?_
  · rw [hexp]
    simp [Instruction.isStraight, hop, hs, hcanonical]
  · rw [hexp, Machine.execute_of_isStraight hs, Machine.act_congr hother, hd.size, hd.opcode,
      Opcode.width_ofByte, Machine.actAll, List.map_singleton, hresolved, List.foldlM_cons, hop,
      hpushed, hd.opcode]
    simp only [List.foldlM_nil, bind_pure]

/-- The run of an expansion that is a push. -/
theorem reaches_pushed (hp : patcher.Assembled base)
    (w : Written (patcher.leading code ++ patcher.instrumented first code) table image)
    (hcover : codeSize (disassemble first code) = code.length)
    (hi : (disassemble first code)[i]? = some inst) (hs : inst.source = some offset)
    (hone : inst.size = 1) {width : Nat} {operand : Operand} {value word : Word}
    (hexp : patcher.expansion first code (inst, i) =
      [{ opcode := .pushN width, operand := some operand }])
    (hstraight : Instruction.isStraight { opcode := .pushN width, operand := some operand })
    (hoperand : ∀ label, operand ≠ .label label)
    (hword : Instruction.pushed { opcode := .pushN width, operand := some operand } = word)
    (hexec : original.execute code offset inst.opcode value frame =
      .ok (offset + 1, frame.push word)) :
    ∃ state, Simulated patcher first code
        (.after (original.execute code offset inst.opcode value frame)) state ∧
      Reaches₁ (instrumented.step image)
        (.running (expansionStart patcher first code i) frame) state := by
  have hresolved : resolved table { opcode := .pushN width, operand := some operand } =
      { opcode := .pushN width, operand := some operand } :=
    resolved_of_reference?_eq_none (by cases operand <;> first | rfl | exact (hoperand _ rfl).elim)
  refine reaches_of_block hp w hcover hi hs (by rw [hexp]; simp) ?_ ?_
  · rw [hexp]
    simpa using hstraight
  · rw [hexec, hexp, hone, List.map_singleton, hresolved, ← hword]
    rfl

variable (hp : patcher.Assembled base)
  (w : Written (patcher.leading code ++ patcher.instrumented first code) table image)
  (hsize : image.length ≤ 2 ^ 256) (hcover : codeSize (disassemble first code) = code.length)
include hp w hsize hcover

/-- The router does what a jump of the deployed code does. -/
theorem reaches_jumped (instrumented : Machine μ ω) (frame : Frame μ ω) :
    ∃ state, Simulated patcher first code (.after (do
        let (target, frame) ← frame.pop
        frame.jump code target)) state ∧
      Reaches₁ (instrumented.step image)
        (.running (routerStart patcher first code) frame) state := by
  obtain ⟨stack, memory, world⟩ := frame
  cases stack with
  | nil => exact ⟨_, .halted _, (passes_router_empty hp w _ _ _ fun _ _ => trivial).reaches₁⟩
  | cons word stack =>
    show ∃ state, Simulated patcher first code
      (.after (Frame.jump ⟨stack, memory, world⟩ code word)) state ∧ _
    rw [Frame.jump]
    by_cases hd : IsDestination code word.toNat
    · rw [if_pos hd]
      obtain ⟨site, hm, hj, hs⟩ := mem_destinations.1 ((isDestination_iff_mem first hcover).1 hd)
      obtain ⟨j, hi⟩ := List.mem_iff_getElem?.1 hm
      exact ⟨_, .running (.site hi hs) _,
        (passes_router hp w _ _ _ _ hsize hi hj hs fun _ _ => trivial).reaches₁⟩
    · rw [if_neg hd]
      exact ⟨_, .halted _, (passes_router_failure hp w _ _ _ _ hsize
        (mt (isDestination_iff_mem first hcover).2 hd) fun _ _ => trivial).reaches₁⟩

/-- The run of the expansion of JUMP. -/
theorem reaches_jump (hi : (disassemble first code)[i]? = some inst) (hj : inst.opcode = .jump)
    {value : Word} : ∃ state, Simulated patcher first code
        (.after (original.execute code offset inst.opcode value frame)) state ∧
      Reaches₁ (instrumented.step image)
        (.running (expansionStart patcher first code i) frame) state := by
  obtain ⟨state, hsim, hrun⟩ := reaches_jumped hp w hsize hcover instrumented frame
  rw [hj]
  exact ⟨state, hsim,
    (passes_jumpPatch _ _ hp w hi hsize hj fun _ _ _ => trivial).reaches₁.trans hrun⟩

/-- The run of the expansion of JUMPI. -/
theorem reaches_jumpi (hi : (disassemble first code)[i]? = some inst) (hj : inst.opcode = .jumpi)
    (hs : inst.source = some offset) {value : Word} : ∃ state, Simulated patcher first code
        (.after (original.execute code offset inst.opcode value frame)) state ∧
      Reaches₁ (instrumented.step image)
        (.running (expansionStart patcher first code i) frame) state := by
  obtain ⟨stack, memory, world⟩ := frame
  rw [hj]
  match stack with
  | [] =>
    exact ⟨_, .halted _,
      (passes_jumpiPatch_failure _ _ _ _ hp w hi hj (by simp) fun _ _ _ => trivial).reaches₁⟩
  | [target] =>
    exact ⟨_, .halted _,
      (passes_jumpiPatch_failure _ _ _ _ hp w hi hj (by simp) fun _ _ _ => trivial).reaches₁⟩
  | target :: condition :: stack =>
    have hpatch := (passes_jumpiPatch instrumented stack memory world hp w hi hsize hj target
      condition fun _ _ _ => trivial).reaches₁
    show ∃ state, Simulated _ _ _ (.after (if condition = 0 then
      .ok (offset + 1, ⟨stack, memory, world⟩)
      else Frame.jump ⟨stack, memory, world⟩ code target)) state ∧ _
    by_cases hc : condition = 0
    · have hone : inst.size = 1 := by
        rw [Instruction.size_of_isSome (by rw [hj]; rfl), hj]
        rfl
      have hbehind := relocated_behind patcher hcover hi hs
      rw [hone, ← expansionStart_succ patcher hi] at hbehind
      rw [if_pos hc] at hpatch ⊢
      exact ⟨_, .running hbehind _, hpatch⟩
    · obtain ⟨state, hsim, hrun⟩ := reaches_jumped hp w hsize hcover instrumented
        ⟨target :: stack, memory, world⟩
      rw [if_neg hc] at hpatch ⊢
      exact ⟨state, hsim, hpatch.trans hrun⟩

/-- **The run of an expansion does what the instruction does**, and ends at the relocated next
one. -/
theorem reaches_expansion (hother : original.other = instrumented.other)
    (horigin : original.origin = patcher.options.origin)
    (hi : (disassemble first code)[i]? = some inst) {byte : UInt8} {immediate : Bytes}
    (hd : IsDecoded offset byte immediate inst)
    (full : immediate.length = Opcode.widthOfByte byte) (ho : inst.opcode.isObserved = false) :
    ∃ state, Simulated patcher first code (.after (original.execute code offset inst.opcode
        (BitVec.ofNat 256 (ofBigEndian immediate)) frame)) state ∧
      Reaches₁ (instrumented.step image)
        (.running (expansionStart patcher first code i) frame) state := by
  by_cases hs : inst.opcode.isStraight
  · exact reaches_kept hp w hcover hother hi hd full hs ho
  have hl := liesAt_expansion hp hi
  rcases Opcode.not_isStraight hs with hop | hop | hop | hop | hop
  · exact reaches_jump hp w hsize hcover hi hop
  · exact reaches_jumpi hp w hsize hcover hi hop hd.source
  · have hexp := expansion_pc patcher first code i hop
    rw [hd.source, Option.getD_some] at hexp
    rw [hexp] at hl
    exact reaches_pushed hp w hcover hi hd.source (by rw [hd.size_of_opcode, hop]; rfl) hexp rfl
      (by simp) (w.pushed_number hl.head.mem rfl rfl) (by rw [hop]; rfl)
  · have hexp := expansion_codesize patcher first code i hop
    rw [hexp] at hl
    exact reaches_pushed hp w hcover hi hd.source (by rw [hd.size_of_opcode, hop]; rfl) hexp rfl
      (by simp) (w.pushed_number hl.head.mem rfl rfl) (by rw [hop]; rfl)
  · have hexp := expansion_origin patcher first code i hop
    rw [← horigin] at hexp
    have hword : (Instruction.pushBytes (.pushN 20) (wordBytes original.origin)).pushed =
        original.origin.setWidth 256 := by
      rw [Instruction.pushed_bytes rfl (Nat.le_of_eq rfl), wordBytes,
        ofBigEndian_bigEndian original.origin.isLt, BitVec.ofNat_toNat]
    exact reaches_pushed hp w hcover hi hd.source (by rw [hd.size_of_opcode, hop]; rfl) hexp rfl
      (by simp) hword (by rw [hop]; rfl)

omit hsize hcover in
/-- Behind the last expansion the image stops. -/
theorem step_ending (instrumented : Machine μ ω) (frame : Frame μ ω) :
    instrumented.step image
        (.running (expansionStart patcher first code (disassemble first code).length) frame) =
      some (.halted (.stopped frame)) := by
  have hl : StandsAt _ _ (Instruction.plain .stop) := (liesAt_runtime first code hp).right.head
  have hend : expansionStart patcher first code (disassemble first code).length =
      runtimeStart code + codeSize (Image.runtimeEntry :: patcher.expansions first code) := by
    rw [expansionStart, List.take_of_length_le (by simp), Nat.add_assoc]
    rfl
  rw [hend, w.step_at _ _ hl rfl]
  rfl

/-- **Every step of the deployed code is matched by steps of its image.** -/
theorem respects (hother : original.other = instrumented.other)
    (horigin : original.origin = patcher.options.origin)
    (ho : ∀ inst ∈ disassemble first code, inst.opcode.isObserved = false) :
    Respects (original.step code) (instrumented.step image) (Simulated patcher first code) := by
  intro _ _ h
  cases h with
  | halted outcome => rfl
  | running hr frame =>
    cases hr with
    | site hi hs =>
      obtain ⟨byte, immediate, rest, hdrop, full, hd⟩ := isDecoded_of_getElem? hi
      rw [hd.source, Option.some.injEq] at hs
      subst hs
      rw [Machine.step_running hdrop full, ← hd.opcode]
      exact reaches_expansion hp w hsize hcover hother horigin hi hd full
        (ho _ (List.mem_of_getElem? hi))
    | ending =>
      rw [Machine.step_end (Nat.le_refl _)]
      exact ⟨_, .halted _, .single (step_ending hp w instrumented _)⟩

omit hcover in
/-- The preamble enters the runtime. -/
theorem passes_entry (instrumented : Machine μ ω) (frame : Frame μ ω) {inner : Nat → Prop}
    (hin : ∀ p, p < expansionStart patcher first code 0 → inner p) :
    instrumented.Passes image inner (.running 0 frame)
      (.running (expansionStart patcher first code 0) frame) := by
  have hl : LiesAt (patcher.leading code ++ patcher.instrumented first code) 0
      [(Instruction.pushLabel (.pushN 3) (.global "runtime")).inScope base,
        (Instruction.plain .jump).inScope base] :=
    ⟨[], [.data code, .data (List.replicate padding 0)] ++ patcher.instrumented first code,
      by simp [leading, preamble_eq hp], rfl⟩
  have hruntime := liesAt_runtime first code hp
  have hentry : table[(⟨none, "runtime"⟩ : Entry)]? = some (runtimeStart code) :=
    (w.entries _ _).2 ⟨Image.runtimeEntry, hruntime.head, rfl⟩
  have hstart : expansionStart patcher first code 0 = runtimeStart code + 1 := by
    simp [expansionStart]
  have hbefore : 4 < runtimeStart code := by
    simp only [runtimeStart, padding]
    omega
  have hgoto := w.passes_goto instrumented frame hsize hl rfl rfl rfl
    (entryOf_some _ _) hentry (isDestination_of_entry hp w hentry) (hin _ (by omega))
  have hdest := w.passes_block instrumented frame
    (LiesAt.left (a := [Image.runtimeEntry]) hruntime) (by simp) rfl fun p _ hlt => hin p (by
      rw [hstart]
      exact hlt)
  exact hgoto.trans (hin _ (by omega)) hdest

end

/-! ## The simulation -/

/-- An image that starts at its preamble does what the deployed code does from its start on. -/
structure Simulates {μ ω : Type} (patcher : Patcher) (first : Scope) (code image : Bytes)
    (original instrumented : Machine μ ω) : Prop where
  /-- The image gets to the expansion of the first instruction. -/
  entry : ∀ frame, ∃ position, Relocated patcher first code 0 position ∧
    Reaches (instrumented.step image) (.running 0 frame) (.running position frame)
  /-- From there on, steps of the code are matched in order. -/
  steps : Respects (original.step code) (instrumented.step image) (Simulated patcher first code)
  /-- When the code reaches an offset, the image reaches what was relocated from there, with the
  same stack, memory and world. -/
  reaches : ∀ start offset frame,
    Reaches (original.step code) (.running 0 start) (.running offset frame) →
      ∃ position, Relocated patcher first code offset position ∧
        Reaches (instrumented.step image) (.running 0 start) (.running position frame)
  /-- The code and the image end alike, or both do not end. -/
  halts : ∀ start outcome, .halted outcome ∈ eval (original.step code) (.running 0 start) ↔
    .halted outcome ∈ eval (instrumented.step image) (.running 0 start)

/-- **The image of covered code simulates it**, whatever the opcodes without a fixed meaning do with
stack, memory and world. -/
theorem simulates_of_patchFrom {options : PatchOptions} {patcher : Patcher} {base first : Scope}
    {code image : Bytes} {μ ω : Type} {original instrumented : Machine μ ω}
    (hp : Patcher.new options base = .ok patcher) (hc : code ≠ [])
    (h : patcher.patchFrom first code = .ok image) (hsize : image.length ≤ 2 ^ 256)
    (hcover : codeSize (disassemble first code) = code.length)
    (ho : ∀ inst ∈ disassemble first code, inst.opcode.isObserved = false)
    (hother : original.other = instrumented.other) (horigin : original.origin = options.origin) :
    Simulates patcher first code image original instrumented := by
  obtain ⟨rfl, ha⟩ := assembled_of_new hp
  obtain ⟨table, w⟩ := patchFrom_ok hc h
  have hsteps : Respects (original.step code) (instrumented.step image)
      (Simulated patcher first code) := respects ha w hsize hcover hother horigin ho
  have hstart : Relocated patcher first code 0 (expansionStart patcher first code 0) :=
    relocated_take patcher hcover (Nat.zero_le _)
  have hentry (start : Frame μ ω) :=
    (passes_entry ha w hsize instrumented start fun _ _ => trivial).reaches₁.to_reflTransGen
  refine ⟨fun frame => ⟨_, hstart, hentry frame⟩, hsteps, fun start offset frame hr => ?_,
    fun start outcome => ?_⟩
  · obtain ⟨state, hsim, hrun⟩ := tr_reaches hsteps (.running hstart start) hr
    cases hsim with
    | running hrel => exact ⟨_, hrel, (hentry start).trans hrun⟩
  · rw [reaches_eval (hentry start)]
    constructor
    · intro hm
      obtain ⟨state, hsim, hm⟩ := tr_eval hsteps (.running hstart start) hm
      cases hsim
      exact hm
    · intro hm
      obtain ⟨state, hsim, hm⟩ := tr_eval_rev hsteps (.running hstart start) hm
      cases hsim
      exact hm

/-- The image of a jump over a byte to STOP. -/
theorem simulates_jump : ∃ patcher image, Patcher.new {} ⟨0⟩ = .ok patcher ∧
    patcher.patch [0x60, 0x03, 0x56, 0x5b, 0x00] = .ok image ∧ image.length ≤ 2 ^ 256 ∧
    Simulates patcher firstScope [0x60, 0x03, 0x56, 0x5b, 0x00] image
      (⟨0, fun _ frame => .ok frame⟩ : Machine Unit Unit) ⟨1, fun _ frame => .ok frame⟩ := by
  obtain ⟨patcher, image, hp, himg, hl⟩ := exists_image_of_length ⟨0⟩ firstScope
    [0x60, 0x03, 0x56, 0x5b, 0x00] {} (by decide) (by simp [AddressMap.empty]) (by decide)
  have hsize : image.length ≤ 2 ^ 256 := Nat.le_trans hl (by decide)
  exact ⟨patcher, image, hp, himg, hsize,
    simulates_of_patchFrom hp (by decide) himg hsize (by decide) (by decide) rfl rfl⟩

end Patcher

end EvmProbe
