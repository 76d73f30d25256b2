import EvmProbe.Proofs.Image.Targets
import EvmProbe.Proofs.Machine.Block

/-!
Runs of the jump router.

The router is entered with a destination of the deployed code on top of the stack.  It goes to the
JUMPDEST that the destination was relocated to, with the destination dropped, and fails if the
decoded program has no such JUMPDEST.

* `passes_case`: a single test goes to the relocated destination, or on to the next test.
* `passes_router`, `passes_router_failure`, `passes_router_empty`: the whole router.
-/

namespace EvmProbe

open Bytecode Linking StateTransition

namespace Image

/-- The entry of the label of a relocated destination. -/
def jumpEntry (destination : Nat) : Entry := ⟨none, (jumpLabel destination).name⟩

/-- The router is its entry, the tests, and INVALID. -/
theorem jumpRouter_eq (scope : Scope) (runtime : List Instruction) : jumpRouter scope runtime =
    duplicate scope [(Instruction.plain .jumpdest).labelled (.global "jump-router")] ++
      (duplicate scope ((destinations runtime).flatMap jumpCase) ++
        duplicate scope [.plain .invalid]) := by
  simp [jumpRouter, duplicate]

end Image

namespace Patcher

/-- Where the jump router starts: behind the runtime and the library. -/
def routerStart (patcher : Patcher) (first : Scope) (code : Bytes) : Nat :=
  runtimeStart code + codeSize (patcher.runtime first code) +
    codeSize (Fragment.library.flatMap patcher.fragments.get)

section
variable {patcher : Patcher} {base first : Scope} {code image : Bytes} {table : Table}

theorem liesAt_jumpRouter (first : Scope) (code : Bytes) (hp : patcher.Assembled base) :
    LiesAt (patcher.leading code ++ patcher.instrumented first code)
      (routerStart patcher first code)
      (Image.jumpRouter (routerScope first code) (patcher.runtime first code)) := by
  refine ⟨patcher.leading code ++ patcher.runtime first code ++
    Fragment.library.flatMap patcher.fragments.get,
    (Image.accountRouters ((routerScope first code).after 1) patcher.options.accounts).flatten,
    by simp [instrumented_eq], ?_⟩
  rw [codeSize_append, codeSize_append, codeSize_leading hp, routerStart]

variable (hp : patcher.Assembled base)
  (w : Written (patcher.leading code ++ patcher.instrumented first code) table image)
include hp w

/-- Every label of an image is that of a jump destination. -/
theorem isDestination_of_entry {entry : Entry} {target : Nat} (ht : table[entry]? = some target) :
    IsDestination image target := by
  obtain ⟨decl, hat, hd⟩ := (w.entries entry target).1 ht
  obtain ⟨label, hl, -⟩ := Option.bind_eq_some_iff.1 hd
  obtain ⟨hj, k, rfl, hk⟩ := exists_standsAt_of_label hp hat hl
  exact (mem_marks_image hp w (Nat.le_add_right _ _)).2 ⟨k, decl, rfl, hk, by rw [hj]; rfl⟩

/-- The label of a relocated destination is where its expansion starts. -/
theorem getElem?_jumpEntry {i d : Nat} {site : Instruction}
    (hi : (disassemble first code)[i]? = some site) (hj : site.opcode = .jumpdest)
    (hs : site.source = some d) :
    table[Image.jumpEntry d]? = some (expansionStart patcher first code i) := by
  refine (w.entries _ _).2 ⟨site.labelled (Image.jumpLabel d), ?_, rfl⟩
  have hone : patcher.expansion first code (site, i) =
      [site.labelled (Image.jumpLabel (site.source.getD 0))] := expand_jumpdest _ _ hj
  rw [hs, Option.getD_some] at hone
  have hat : StandsAt (patcher.expansion first code (site, i)) 0
      (site.labelled (Image.jumpLabel d)) := by
    rw [hone]
    exact .here
  exact standsAt_expansion hp hi hat

theorem getElem?_jumpRouter :
    table[(⟨none, "jump-router"⟩ : Entry)]? = some (routerStart patcher first code) :=
  (w.entries _ _).2 ⟨_, (liesAt_jumpRouter first code hp).head, rfl⟩

variable {μ ω : Type} (machine : Machine μ ω) (stack : List Word) (memory : μ) (world : ω)
  {position : Nat} {word : Word} {scope : Scope} {inner : Nat → Prop}

/-- **One test of the router** goes to the relocated destination if it is the one asked for, and on
to the next test if not. -/
theorem passes_case (hsize : image.length ≤ 2 ^ 256) {d target : Nat} (hlt : d < 2 ^ 256)
    (hl : LiesAt (patcher.leading code ++ patcher.instrumented first code) position
      (duplicate scope (Image.jumpCase d)))
    (ht : word.toNat = d → table[Image.jumpEntry d]? = some target)
    (hin : ∀ p, position ≤ p → inner p) :
    machine.Passes image inner (.running position ⟨word :: stack, memory, world⟩)
      (if word.toNat = d then .running target ⟨stack, memory, world⟩
      else .running (position + codeSize (Image.jumpCase d)) ⟨word :: stack, memory, world⟩) := by
  have hcopy : duplicate scope (Image.jumpCase d) =
      duplicate scope [.plain (.dupN 1), .pushInt (.pushN 3) d, .plain .eq, .plain .iszero] ++
        (duplicate scope [.pushLabel (.pushN 3) (Image.nextLabel d), .plain .jumpi] ++
          (duplicate scope [.plain .pop] ++
            (duplicate scope [.pushLabel (.pushN 3) (Image.jumpLabel d), .plain .jump] ++
              duplicate scope [(Instruction.plain .jumpdest).labelled (Image.nextLabel d)]))) := rfl
  rw [hcopy] at hl
  -- the test
  have hnumber : ((Instruction.pushInt (.pushN 3) d).inScope scope).pushed = BitVec.ofNat 256 d :=
    w.pushed_number hl.tail.head.mem rfl rfl
  have htest := w.passes_block machine ⟨word :: stack, memory, world⟩ hl.left
    (by simp [duplicate]) rfl fun p hp _ => hin p (Nat.le_of_lt hp)
  have hact : machine.actAll ((duplicate scope [.plain (.dupN 1), .pushInt (.pushN 3) d, .plain .eq,
      .plain .iszero]).map (resolved table)) ⟨word :: stack, memory, world⟩ =
      .ok (Frame.push ⟨word :: stack, memory, world⟩
        (flag (flag (((Instruction.pushInt (.pushN 3) d).inScope scope).pushed = word) = 0))) := rfl
  have hcondition : (flag (flag (BitVec.ofNat 256 d = word) = 0) = 0) ↔ word.toNat = d := by
    rw [flag_eq_zero, flag_eq_zero, Decidable.not_not, ← BitVec.toNat_inj, BitVec.toNat_ofNat,
      Nat.mod_eq_of_lt hlt, eq_comm]
  rw [hact, hnumber] at htest
  -- the branch to the next test
  have hnext := hl.right.right.right.right.head
  have hbranch := w.passes_branch machine ⟨word :: stack, memory, world⟩ hsize hl.right.left rfl
    rfl rfl (entryOf_some _ _) ((w.entries _ _).2 ⟨_, hnext, rfl⟩)
    (isDestination_of_entry hp w ((w.entries _ _).2 ⟨_, hnext, rfl⟩))
    (flag (flag (BitVec.ofNat 256 d = word) = 0)) (hin _ (by omega))
  simp only [hcondition] at hbranch
  refine htest.trans (hin _ (by omega)) (hbranch.trans ?_ ?_)
  · split <;> exact hin _ (by omega)
  split
  · next h =>
    -- this is the one: drop it and jump
    have hpop := w.passes_block machine ⟨word :: stack, memory, world⟩
      hl.right.right.left (by simp [duplicate]) rfl fun p hp _ => hin p (by omega)
    have hgoto := w.passes_goto machine ⟨stack, memory, world⟩ hsize
      hl.right.right.right.left rfl rfl rfl (entryOf_some _ _) (ht h)
      (isDestination_of_entry hp w (ht h)) (hin _ (by omega))
    exact hpop.trans (hin _ (by omega)) hgoto
  · exact w.passes_block machine ⟨word :: stack, memory, world⟩
      hl.right.right.right.right (by simp [duplicate]) rfl fun p hp _ => hin p (by omega)

/-- The tests of the router, one after the other, go to the relocated destination if it is among
theirs, and behind the last test if not. -/
theorem passes_cases (hsize : image.length ≤ 2 ^ 256) {destinations : List Nat} {target : Nat}
    (hlt : ∀ d ∈ destinations, d < 2 ^ 256)
    (hl : LiesAt (patcher.leading code ++ patcher.instrumented first code) position
      (duplicate scope (destinations.flatMap Image.jumpCase)))
    (ht : word.toNat ∈ destinations → table[Image.jumpEntry word.toNat]? = some target)
    (hin : ∀ p, position ≤ p → inner p) {start : State μ ω}
    (hrun : machine.Passes image inner start (.running position ⟨word :: stack, memory, world⟩)) :
    machine.Passes image inner start
      (if word.toNat ∈ destinations then .running target ⟨stack, memory, world⟩
      else .running (position + codeSize (destinations.flatMap Image.jumpCase))
        ⟨word :: stack, memory, world⟩) := by
  induction destinations generalizing position with
  | nil =>
    rw [if_neg (by simp)]
    exact hrun
  | cons d destinations ih =>
    rw [List.flatMap_cons, duplicate, List.map_append, ← duplicate, ← duplicate] at hl
    have hcase := hrun.trans (hin _ (Nat.le_refl _))
      (passes_case hp w machine stack memory world hsize (hlt d (by simp)) hl.left
        (fun h => h ▸ ht (by simp [h])) hin)
    by_cases h : word.toNat = d
    · rw [if_pos h] at hcase
      rwa [if_pos (by simp [h])]
    · rw [if_neg h] at hcase
      rw [List.flatMap_cons, codeSize_append, ← Nat.add_assoc]
      simp only [List.mem_cons, h, false_or]
      have hrest := hl.right
      rw [codeSize_duplicate] at hrest
      exact ih (fun x hx => hlt x (by simp [hx])) hrest (fun hm => ht (by simp [hm]))
        (fun p hp => hin p (by omega)) hcase

theorem destination_lt (hsize : image.length ≤ 2 ^ 256) :
    ∀ d ∈ Image.destinations (patcher.runtime first code), d < 2 ^ 256 := by
  intro d hm
  rw [destinations_runtime hp] at hm
  obtain ⟨inst, hi, -, hs⟩ := mem_destinations.1 hm
  have hd := source_lt hi hs
  have hlen := w.length_image
  rw [codeSize_append, codeSize_leading hp, runtimeStart] at hlen
  omega

/-- The router goes to the relocated destination, or to its last instruction. -/
theorem passes_routed (hsize : image.length ≤ 2 ^ 256) (target : Nat)
    (ht : word.toNat ∈ Image.destinations (patcher.runtime first code) →
      table[Image.jumpEntry word.toNat]? = some target)
    (hin : ∀ p, routerStart patcher first code ≤ p → inner p) :
    machine.Passes image inner
      (.running (routerStart patcher first code) ⟨word :: stack, memory, world⟩)
      (if word.toNat ∈ Image.destinations (patcher.runtime first code) then
        .running target ⟨stack, memory, world⟩
      else .running (routerStart patcher first code + 1 +
          codeSize ((Image.destinations (patcher.runtime first code)).flatMap Image.jumpCase))
        ⟨word :: stack, memory, world⟩) := by
  have hl := liesAt_jumpRouter first code hp
  rw [Image.jumpRouter_eq] at hl
  have hentry := w.passes_block machine ⟨word :: stack, memory, world⟩
    hl.left (by simp [duplicate]) rfl fun p hp _ => hin p (Nat.le_of_lt hp)
  exact passes_cases hp w machine stack memory world hsize (destination_lt hp w hsize) hl.right.left
    ht (fun p hp => hin p (by omega)) hentry

/-- **The router goes to the relocated destination**, with the destination dropped. -/
theorem passes_router (hsize : image.length ≤ 2 ^ 256) {i : Nat} {site : Instruction}
    (hi : (disassemble first code)[i]? = some site) (hj : site.opcode = .jumpdest)
    (hs : site.source = some word.toNat)
    (hin : ∀ p, routerStart patcher first code ≤ p → inner p) :
    machine.Passes image inner
      (.running (routerStart patcher first code) ⟨word :: stack, memory, world⟩)
      (.running (expansionStart patcher first code i) ⟨stack, memory, world⟩) := by
  have h := passes_routed hp w machine stack memory world hsize _
    (fun _ => getElem?_jumpEntry hp w hi hj hs) hin
  rwa [if_pos] at h
  rw [destinations_runtime hp]
  exact mem_destinations.2 ⟨site, List.mem_of_getElem? hi, hj, hs⟩

/-- At every other destination, the router gets to its last instruction. -/
theorem passes_router_invalid (hsize : image.length ≤ 2 ^ 256)
    (h : word.toNat ∉ Image.destinations (disassemble first code))
    (hin : ∀ p, routerStart patcher first code ≤ p → inner p) : ∃ position,
    routerStart patcher first code ≤ position ∧
      StandsAt (patcher.leading code ++ patcher.instrumented first code) position
        ((Instruction.plain .invalid).inScope (routerScope first code)) ∧
      machine.Passes image inner
        (.running (routerStart patcher first code) ⟨word :: stack, memory, world⟩)
        (.running position ⟨word :: stack, memory, world⟩) := by
  rw [← destinations_runtime hp] at h
  have hrouted := passes_routed hp w machine stack memory world hsize 0 (fun hm => absurd hm h) hin
  rw [if_neg h] at hrouted
  have hl := liesAt_jumpRouter first code hp
  rw [Image.jumpRouter_eq] at hl
  have hinvalid := hl.right.right.head
  rw [codeSize_duplicate, codeSize_duplicate] at hinvalid
  exact ⟨_, by omega, hinvalid, hrouted⟩

/-- **The router fails at every other destination.** -/
theorem passes_router_failure (hsize : image.length ≤ 2 ^ 256)
    (h : word.toNat ∉ Image.destinations (disassemble first code))
    (hin : ∀ p, routerStart patcher first code ≤ p → inner p) :
    machine.Passes image inner
      (.running (routerStart patcher first code) ⟨word :: stack, memory, world⟩)
      (.halted (.failed memory world)) := by
  obtain ⟨position, hge, hat, hrun⟩ :=
    passes_router_invalid hp w machine stack memory world hsize h hin
  exact hrun.trans (hin _ hge) (.single (w.step_at _ _ hat rfl))

/-- The router fails without a destination. -/
theorem passes_router_empty (hin : ∀ p, routerStart patcher first code ≤ p → inner p) :
    machine.Passes image inner (.running (routerStart patcher first code) ⟨[], memory, world⟩)
      (.halted (.failed memory world)) := by
  have hl := liesAt_jumpRouter first code hp
  rw [Image.jumpRouter_eq] at hl
  have hentry := w.passes_block machine ⟨[], memory, world⟩
    hl.left (by simp [duplicate]) rfl fun p hp _ => hin p (Nat.le_of_lt hp)
  refine hentry.trans (hin _ (by omega)) ?_
  -- without tests, the first instruction behind the entry is INVALID, else it is a DUP1
  cases hds : Image.destinations (patcher.runtime first code) with
  | nil =>
    rw [hds] at hl
    exact w.passes_block _ _ hl.right.right (by simp [duplicate]) rfl fun p hp _ => hin p (by omega)
  | cons d ds =>
    rw [hds] at hl
    have hdup := hl.right.left.head
    exact .single (w.step_at _ _ hdup rfl)

end

end Patcher

end EvmProbe
