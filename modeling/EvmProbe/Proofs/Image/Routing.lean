import EvmProbe.Proofs.Image.Router

/-!
How jumps of the deployed code are routed.

The expansion of JUMP hands the destination to the jump router, and so does that of JUMPI unless the
condition is zero.  Nothing is asked of the code: it may be cut off, and decoding may leave parts of
it out.

* `passes_jumpPatch`, `passes_jumpiPatch`: the runs of the two expansions.
* `Routes`, `routes_of_patchFrom`: the router goes to the JUMPDEST that is asked for, and stops at
  INVALID if there is none.
-/

namespace EvmProbe

open Bytecode Linking StateTransition

namespace Patcher

section
variable {patcher : Patcher} {base first : Scope} {code image : Bytes} {table : Table} {i : Nat}
  {inst : Instruction}

/-- The next expansion starts behind an expansion. -/
theorem expansionStart_succ (patcher : Patcher)
    (hi : (disassemble first code)[i]? = some inst) :
    expansionStart patcher first code (i + 1) =
      expansionStart patcher first code i + codeSize (patcher.expansion first code (inst, i)) := by
  have hget : (disassemble first code).zipIdx[i]? = some (inst, i) := by
    rw [List.getElem?_zipIdx, hi]
    simp
  rw [expansionStart, expansionStart, List.take_add_one, hget, List.flatMap_append, codeSize_append,
    Nat.add_assoc _ (codeSize _) (codeSize _)]
  simp

/-- The expansion of an opcode that is replaced is the copy of a fragment. -/
theorem expansion_of_replaced (hp : patcher.Assembled base) {fragment : Fragment}
    (hr : Image.replaced? patcher.options.logsOnly inst.opcode = some fragment) :
    patcher.expansion first code (inst, i) =
      fragment.code patcher.options ((innerScope first code).after i) := by
  unfold expansion expand Image.expand
  rw [show patcher.settings.logsOnly = patcher.options.logsOnly from rfl, hr]
  dsimp only
  rw [hp, Fragment.duplicate_code]

/-- The expansion of SSTORE, unless only logs are reported. -/
theorem expansion_sstore (hp : patcher.Assembled base) (first : Scope) (code : Bytes) (i : Nat)
    (hl : patcher.options.logsOnly = false) (ho : inst.opcode = .sstore) :
    patcher.expansion first code (inst, i) =
      Fragment.sstorePatch.code patcher.options ((innerScope first code).after i) ++ [inst] := by
  rw [← Fragment.duplicate_code _ _ _ (base.after Fragment.sstorePatch.index), ← hp]
  unfold expansion expand Image.expand
  rw [show patcher.settings.logsOnly = patcher.options.logsOnly from rfl, hl, ho]
  rfl

/-- The expansion of a log. -/
theorem expansion_log (hp : patcher.Assembled base) (first : Scope) (code : Bytes) (i : Nat)
    {topics : Fin 5} (ho : inst.opcode = .log topics) : patcher.expansion first code (inst, i) =
      .pushInt (.pushN 1) topics.val ::
        Fragment.logPatch.code patcher.options ((innerScope first code).after i) ++ [inst] := by
  rw [← Fragment.duplicate_code _ _ _ (base.after Fragment.logPatch.index), ← hp]
  unfold expansion expand Image.expand
  rw [ho]
  cases patcher.settings.logsOnly <;> rfl

theorem expansion_jumpi (hp : patcher.Assembled base) (hj : inst.opcode = .jumpi) :
    patcher.expansion first code (inst, i) =
      duplicate ((innerScope first code).after i) [.plain (.swapN 1), .plain .iszero] ++
        (duplicate ((innerScope first code).after i)
          [.pushLabel (.pushN 3) (.lexical "skip"), .plain .jumpi] ++
        (duplicate ((innerScope first code).after i)
          [.pushLabel (.pushN 3) (.global "jump-router"), .plain .jump] ++
        duplicate ((innerScope first code).after i)
          [(Instruction.plain .jumpdest).labelled (.lexical "skip"), .plain .pop])) := by
  have hr : Image.replaced? patcher.options.logsOnly inst.opcode = some .jumpiPatch := by
    rw [hj]
    rfl
  exact expansion_of_replaced hp hr

/-! ## Runs of the expansions -/

section
variable {μ ω : Type} (machine : Machine μ ω) (stack : List Word) (memory : μ) (world : ω)
  (frame : Frame μ ω) {inner : Nat → Prop} (hp : patcher.Assembled base)
  (w : Written (patcher.leading code ++ patcher.instrumented first code) table image)
  (hi : (disassemble first code)[i]? = some inst)
include hp w hi

/-- The expansion of JUMP enters the router. -/
theorem passes_jumpPatch (hsize : image.length ≤ 2 ^ 256) (hj : inst.opcode = .jump)
    (hin : ∀ p, expansionStart patcher first code i < p →
      p < expansionStart patcher first code (i + 1) → inner p) :
    machine.Passes image inner (.running (expansionStart patcher first code i) frame)
      (.running (routerStart patcher first code) frame) := by
  have hl := liesAt_expansion hp hi
  have hend := expansionStart_succ patcher hi
  have hr : Image.replaced? patcher.options.logsOnly inst.opcode = some .jumpPatch := by
    rw [hj]
    rfl
  rw [expansion_of_replaced hp hr] at hl hend
  rw [Fragment.codeSize_code, show Fragment.jumpPatch.template.size = 5 from rfl] at hend
  exact w.passes_goto machine frame hsize hl rfl rfl rfl (entryOf_some _ _)
    (getElem?_jumpRouter hp w) (isDestination_of_entry hp w (getElem?_jumpRouter hp w))
    (hin _ (by omega) (by omega))

/-- **The expansion of JUMPI falls through if the condition is zero**, whatever the destination is,
and else it enters the router. -/
theorem passes_jumpiPatch (hsize : image.length ≤ 2 ^ 256) (hj : inst.opcode = .jumpi)
    (target condition : Word)
    (hin : ∀ p, expansionStart patcher first code i < p →
      p < expansionStart patcher first code (i + 1) → inner p) :
    machine.Passes image inner (.running (expansionStart patcher first code i)
        ⟨target :: condition :: stack, memory, world⟩)
      (if condition = 0 then .running (expansionStart patcher first code (i + 1))
          ⟨stack, memory, world⟩
        else .running (routerStart patcher first code) ⟨target :: stack, memory, world⟩) := by
  have hend := expansionStart_succ patcher hi
  rw [expansion_jumpi hp hj, codeSize_append, codeSize_append, codeSize_append] at hend
  have hl := liesAt_expansion hp hi
  rw [expansion_jumpi hp hj] at hl
  -- the sizes of the parts
  have hfirst : codeSize (duplicate ((innerScope first code).after i)
      [.plain (.swapN 1), .plain .iszero]) = 2 := rfl
  have hsecond : codeSize (duplicate ((innerScope first code).after i)
      [.pushLabel (.pushN 3) (.lexical "skip"), .plain .jumpi]) = 5 := rfl
  have hthird : codeSize (duplicate ((innerScope first code).after i)
      [.pushLabel (.pushN 3) (.global "jump-router"), .plain .jump]) = 5 := rfl
  have hfourth : codeSize (duplicate ((innerScope first code).after i)
      [(Instruction.plain .jumpdest).labelled (.lexical "skip"), .plain .pop]) = 2 := rfl
  have hswap := w.passes_block machine ⟨target :: condition :: stack, memory, world⟩ hl.left
    (by simp [duplicate]) rfl fun p hp hlt => hin p hp (by omega)
  have hskip := (w.entries _ _).2 ⟨_, hl.right.right.right.head, rfl⟩
  have hbranch := w.passes_branch machine ⟨target :: stack, memory, world⟩ hsize hl.right.left
    rfl rfl rfl (entryOf_some _ _) hskip (isDestination_of_entry hp w hskip) (flag (condition = 0))
    (hin _ (by omega) (by omega))
  split
  · next hc =>
    rw [if_neg (mt flag_eq_zero.1 (not_not.2 hc))] at hbranch
    have hpop := w.passes_block machine ⟨target :: stack, memory, world⟩
      hl.right.right.right (by simp [duplicate]) rfl fun p hp hlt => hin p (by omega) (by omega)
    rw [hend, ← Nat.add_assoc, ← Nat.add_assoc, ← Nat.add_assoc]
    exact hswap.trans (hin _ (by omega) (by omega))
      (hbranch.trans (hin _ (by omega) (by omega)) hpop)
  · next hc =>
    rw [if_pos (flag_eq_zero.2 hc)] at hbranch
    have hgoto := w.passes_goto machine ⟨target :: stack, memory, world⟩ hsize
      hl.right.right.left rfl rfl rfl (entryOf_some _ _) (getElem?_jumpRouter hp w)
      (isDestination_of_entry hp w (getElem?_jumpRouter hp w)) (hin _ (by omega) (by omega))
    exact hswap.trans (hin _ (by omega) (by omega))
      (hbranch.trans (hin _ (by omega) (by omega)) hgoto)

/-- The expansion of JUMPI fails without a destination or a condition. -/
theorem passes_jumpiPatch_failure (hj : inst.opcode = .jumpi) (hs : stack.length < 2)
    (hin : ∀ p, expansionStart patcher first code i < p →
      p < expansionStart patcher first code (i + 1) → inner p) :
    machine.Passes image inner (.running (expansionStart patcher first code i)
      ⟨stack, memory, world⟩) (.halted (.failed memory world)) := by
  have hl := liesAt_expansion hp hi
  have hend := expansionStart_succ patcher hi
  rw [expansion_jumpi hp hj, codeSize_append] at hend
  rw [expansion_jumpi hp hj] at hl
  have hswap := w.passes_block machine ⟨stack, memory, world⟩ hl.left
    (by simp [duplicate]) rfl fun p hp hlt => hin p hp (by omega)
  rcases stack with - | ⟨word, - | ⟨next, stack⟩⟩
  · exact hswap
  · exact hswap
  · simp only [List.length_cons] at hs
    omega

end

/-! ## Routing -/

/-- An instruction of an image, laid out at a position. -/
def IsPlaced (patcher : Patcher) (first : Scope) (code : Bytes) (position : Nat)
    (inst : Instruction) : Prop :=
  inst.place position ∈ (layOutAll 0 (patcher.sections first code)).1.flatten

/-- How an image routes jumps. -/
structure Routes {μ ω : Type} (patcher : Patcher) (first : Scope) (code image : Bytes)
    (machine : Machine μ ω) : Prop where
  /-- The router is where its label is declared. -/
  entry : ∃ inst, IsPlaced patcher first code (routerStart patcher first code) inst ∧
    inst.label = some (.global "jump-router")
  /-- The router goes to the JUMPDEST that was decoded at the destination, which it drops. -/
  found : ∀ word stack memory world i site, (disassemble first code)[i]? = some site →
    site.opcode = .jumpdest → site.source = some word.toNat →
    IsPlaced patcher first code (expansionStart patcher first code i)
        (site.labelled (Image.jumpLabel word.toNat)) ∧
      Reaches (machine.step image)
        (.running (routerStart patcher first code) ⟨word :: stack, memory, world⟩)
        (.running (expansionStart patcher first code i) ⟨stack, memory, world⟩)
  /-- At every other destination, the router stops at INVALID. -/
  missed : ∀ word stack memory world,
    (∀ site ∈ disassemble first code, site.opcode = .jumpdest → site.source ≠ some word.toNat) →
    ∃ position, image[position]? = some 0xfe ∧
      Reaches (machine.step image)
        (.running (routerStart patcher first code) ⟨word :: stack, memory, world⟩)
        (.running position ⟨word :: stack, memory, world⟩) ∧
      machine.step image (.running position ⟨word :: stack, memory, world⟩) =
        some (.halted (.failed memory world))
  /-- JUMP enters the router. -/
  jump : ∀ frame i site, (disassemble first code)[i]? = some site → site.opcode = .jump →
    Reaches (machine.step image) (.running (expansionStart patcher first code i) frame)
      (.running (routerStart patcher first code) frame)
  /-- JUMPI falls through if the condition is zero, and else it enters the router. -/
  jumpi : ∀ word condition stack memory world i site, (disassemble first code)[i]? = some site →
    site.opcode = .jumpi →
    Reaches (machine.step image)
      (.running (expansionStart patcher first code i) ⟨word :: condition :: stack, memory, world⟩)
      (if condition = 0 then .running (expansionStart patcher first code (i + 1))
          ⟨stack, memory, world⟩
        else .running (routerStart patcher first code) ⟨word :: stack, memory, world⟩)

theorem isPlaced_of_standsAt {position : Nat} (h : StandsAt
    (patcher.leading code ++ patcher.instrumented first code) position inst) :
    IsPlaced patcher first code position inst := by
  rw [IsPlaced, layOutAll_flatten, sections_flatten]
  exact Nat.zero_add position ▸ place_mem_layOut 0 h

/-- The JUMPDEST that was decoded at a destination is where its expansion starts. -/
theorem isPlaced_jumpdest (hp : patcher.Assembled base)
    (hi : (disassemble first code)[i]? = some inst) (hj : inst.opcode = .jumpdest) {d : Nat}
    (hs : inst.source = some d) :
    IsPlaced patcher first code (expansionStart patcher first code i)
      (inst.labelled (Image.jumpLabel d)) := by
  have hl := liesAt_expansion hp hi
  rw [expansion, expand_jumpdest _ _ hj, hs] at hl
  exact isPlaced_of_standsAt hl.head

/-- **The jump router is exact**, on every machine.  Offsets are words; a byte string in memory is
shorter. -/
theorem routes_of_patchFrom {options : PatchOptions} {μ ω : Type} (machine : Machine μ ω)
    (hp : Patcher.new options base = .ok patcher) (hc : code ≠ [])
    (h : patcher.patchFrom first code = .ok image) (hsize : image.length ≤ 2 ^ 256) :
    Routes patcher first code image machine := by
  have hp := (assembled_of_new hp).2
  obtain ⟨table, w⟩ := patchFrom_ok hc h
  refine ⟨?_, fun word stack memory world i site hi hj hs => ?_,
    fun word stack memory world hnone => ?_, fun frame i site hi hj => ?_,
    fun word condition stack memory world i site hi hj => ?_⟩
  · exact ⟨_, isPlaced_of_standsAt (liesAt_jumpRouter _ _ hp).head, rfl⟩
  · exact ⟨isPlaced_jumpdest hp hi hj hs,
      (passes_router hp w _ _ _ _ hsize hi hj hs fun _ _ => trivial).reaches₁.to_reflTransGen⟩
  · have hmiss : word.toNat ∉ Image.destinations (disassemble first code) := by
      intro hm
      obtain ⟨site, hm, hj, hs⟩ := mem_destinations.1 hm
      exact hnone site hm hj hs
    obtain ⟨position, -, hat, hrun⟩ :=
      passes_router_invalid hp w machine stack memory world hsize hmiss fun _ _ => trivial
    refine ⟨position, ?_, hrun.reaches₁.to_reflTransGen, w.step_at _ _ hat rfl⟩
    obtain ⟨rest, hdrop⟩ := w.drop_eq hat
    rw [← Nat.add_zero position, ← List.getElem?_drop, hdrop]
    rfl
  · exact (passes_jumpPatch _ _ hp w hi hsize hj fun _ _ _ => trivial).reaches₁.to_reflTransGen
  · exact (passes_jumpiPatch _ _ _ _ hp w hi hsize hj word condition
      fun _ _ _ => trivial).reaches₁.to_reflTransGen

/-- The image of a conditional jump to a JUMPDEST. -/
theorem routes_conditional_jump : ∃ patcher image, Patcher.new {} ⟨0⟩ = .ok patcher ∧
    patcher.patch [0x5f, 0x60, 0x04, 0x57, 0x5b, 0x00] = .ok image ∧ image.length ≤ 2 ^ 256 ∧
    Routes patcher firstScope [0x5f, 0x60, 0x04, 0x57, 0x5b, 0x00] image
      (⟨0, fun _ frame => .ok frame⟩ : Machine Unit Unit) := by
  obtain ⟨patcher, image, hp, himg, hl⟩ := exists_image_of_length ⟨0⟩ firstScope
    [0x5f, 0x60, 0x04, 0x57, 0x5b, 0x00] {} (by decide) (by simp [AddressMap.empty]) (by decide)
  have hsize : image.length ≤ 2 ^ 256 := Nat.le_trans hl (by decide)
  exact ⟨patcher, image, hp, himg, hsize, routes_of_patchFrom _ hp (by decide) himg hsize⟩

end

end Patcher

end EvmProbe
