import EvmProbe.Proofs.Image.Simulation

/-!
What guards the sensitive instructions of an image.

An image must not run an instruction that would show the code the image instead of itself, nor a
jump that leaves the image's own destinations, nor an effect that no hook is told of.  So from the
runtime on, some opcodes do not occur at all, others only in routers or behind a hook, and others
only in copies of a few fragments.

* `Opcode.confinedTo?`: the fragments that may hold a sensitive opcode.
* `jumpsPushed`: every jump directly follows a push of a label, in expansions and in the jump
  router.
* `Origin`, `Committed.origin`: where the instructions behind the zeros come from.
* `Guarded`, `guarded_of_patchFrom`: what the instructions of an image are guarded by.
-/

namespace EvmProbe

open Bytecode Linking

/-! ## Occurrences -/

/-- A block lies in code from `start` on, and has an instruction at `position`. -/
structure Occurs (all : List Instruction) (start : Nat) (block : List Instruction)
    (position : Nat) (inst : Instruction) : Prop where
  lies : LiesAt all start block
  stands : ∃ k, position = start + k ∧ StandsAt block k inst

namespace Occurs
variable {all a b block : List Instruction} {start position : Nat} {inst own : Instruction}

theorem mem (h : Occurs all start block position inst) : inst ∈ block := by
  obtain ⟨k, -, hat⟩ := h.stands
  exact hat.mem

theorem append (h : Occurs all start (a ++ b) position inst) :
    Occurs all start a position inst ∨ Occurs all (start + codeSize a) b position inst := by
  obtain ⟨hl, k, rfl, hat⟩ := h
  rcases standsAt_append.1 hat with ha | ⟨j, rfl, hb⟩
  · exact .inl ⟨hl.left, k, rfl, ha⟩
  · exact .inr ⟨hl.right, j, by omega, hb⟩

theorem singleton (h : Occurs all start [own] position inst) : position = start ∧ inst = own := by
  obtain ⟨-, k, rfl, hat⟩ := h
  rcases standsAt_cons.1 hat with ⟨rfl, rfl⟩ | ⟨j, -, hat⟩
  · exact ⟨rfl, rfl⟩
  · exact absurd hat not_standsAt_nil

/-- What does not occur in front of the last instruction is the last. -/
theorem last (h : Occurs all start (a ++ [own]) position inst) (ha : inst ∉ a) :
    position = start + codeSize a ∧ inst = own := by
  rcases h.append with hfront | hlast
  · exact absurd hfront.mem ha
  · exact hlast.singleton

theorem flatMap {α : Type} {l : List α} {f : α → List Instruction}
    (h : Occurs all start (l.flatMap f) position inst) :
    ∃ x ∈ l, ∃ start, Occurs all start (f x) position inst := by
  induction l generalizing start with
  | nil => exact absurd h.mem (by simp)
  | cons head l ih =>
    rw [List.flatMap_cons] at h
    rcases h.append with hhead | hrest
    · exact ⟨head, by simp, start, hhead⟩
    · obtain ⟨x, hx, hoccurs⟩ := ih hrest
      exact ⟨x, by simp [hx], hoccurs⟩

end Occurs

/-! ## Jumps -/

/-- The instruction is a jump. -/
def Instruction.isJump (inst : Instruction) : Bool :=
  inst.opcode == .jump || inst.opcode == .jumpi

/-- Every jump directly follows a reference; `pushed` tells whether one is directly in front. -/
def jumpsPushed : (pushed : Bool) → List Instruction → Bool
  | _, [] => true
  | pushed, inst :: rest => (!inst.isJump || pushed) && jumpsPushed (reference? inst).isSome rest

section
variable {a b before after : List Instruction} {inst : Instruction}

theorem jumpsPushed_of_false (pushed : Bool) (h : jumpsPushed false a) : jumpsPushed pushed a := by
  cases a with
  | nil => rfl
  | cons head a => simp_all [jumpsPushed]

theorem jumpsPushed_append {pushed : Bool} (ha : jumpsPushed pushed a) (hb : jumpsPushed false b) :
    jumpsPushed pushed (a ++ b) := by
  induction a generalizing pushed with
  | nil => exact jumpsPushed_of_false pushed hb
  | cons head a ih =>
    rw [jumpsPushed, Bool.and_eq_true] at ha
    rw [List.cons_append, jumpsPushed, ha.1, ih ha.2]
    rfl

theorem jumpsPushed_flatMap {α : Type} {l : List α} {f : α → List Instruction}
    (h : ∀ x ∈ l, jumpsPushed false (f x)) : jumpsPushed false (l.flatMap f) := by
  induction l with
  | nil => rfl
  | cons head l ih =>
    rw [List.flatMap_cons]
    exact jumpsPushed_append (h head (by simp)) (ih fun x hx => h x (by simp [hx]))

theorem jumpsPushed_duplicate (scope : Scope) (pushed : Bool) (code : List Instruction) :
    jumpsPushed pushed (duplicate scope code) = jumpsPushed pushed code := by
  induction code generalizing pushed with
  | nil => rfl
  | cons head code ih => exact congrArg ((!head.isJump || pushed) && ·) (ih _)

theorem jumpsPushed_of_forall (pushed : Bool) (h : ∀ inst ∈ a, inst.isJump = false) :
    jumpsPushed pushed a := by
  induction a generalizing pushed with
  | nil => rfl
  | cons head a ih =>
    rw [jumpsPushed, h head (by simp), ih _ fun inst hi => h inst (by simp [hi])]
    rfl

/-- What is directly in front of a jump. -/
theorem exists_reference_of_jumpsPushed {pushed : Bool}
    (h : jumpsPushed pushed (before ++ inst :: after)) (hj : inst.isJump) :
    (before = [] ∧ pushed) ∨
      ∃ init push, before = init ++ [push] ∧ (reference? push).isSome := by
  induction before generalizing pushed with
  | nil =>
    rw [List.nil_append, jumpsPushed, hj] at h
    exact .inl ⟨rfl, by simp_all⟩
  | cons head before ih =>
    rw [List.cons_append, jumpsPushed, Bool.and_eq_true] at h
    rcases ih h.2 with ⟨rfl, hhead⟩ | ⟨init, push, rfl, hpush⟩
    · exact .inr ⟨[], head, rfl, hhead⟩
    · exact .inr ⟨head :: init, push, rfl, hpush⟩

theorem Occurs.exists_reference {all block : List Instruction} {start position : Nat}
    (h : Occurs all start block position inst) (hb : jumpsPushed false block) (hj : inst.isJump) :
    ∃ offset push, position = offset + push.size ∧ LiesAt all offset [push, inst] ∧
      (reference? push).isSome := by
  obtain ⟨⟨front, back, rfl, rfl⟩, k, rfl, before, after, rfl, rfl⟩ := h
  rcases exists_reference_of_jumpsPushed hb hj with ⟨-, hfalse⟩ | ⟨init, push, rfl, hpush⟩
  · cases hfalse
  · exact ⟨codeSize (front ++ init), push, by simp [Nat.add_assoc],
      ⟨front ++ init, after ++ back, by simp, rfl⟩, hpush⟩

end

/-! ## Confined opcodes -/

/-- The fragments that may hold a sensitive opcode, beside what a report precedes and what a router
answers; `none` for an opcode that may occur everywhere. -/
def Opcode.confinedTo? : Opcode → Option (List Fragment)
  | .pc | .codesize | .origin => some []
  | .extcodesize | .extcodehash | .extcodecopy => some []
  | .sstore | .log _ => some []
  | .call => some [.callPatch]
  | .callcode => some [.callcodePatch]
  | .delegatecall => some [.delegatecallPatch, .checkedDelegatecall]
  | .returndatasize | .returndatacopy => some [.callHook]
  | _ => none

/-- An opcode of the machine that may occur everywhere. -/
def Opcode.isFree (opcode : Opcode) : Bool := opcode.isCanonical && opcode.confinedTo?.isNone

/-- An opcode that asks about the code of an account. -/
def Opcode.isCodeQuery (opcode : Opcode) : Bool :=
  opcode == .extcodesize || opcode == .extcodehash || opcode == .extcodecopy

theorem Opcode.isFree_pushN (width : Nat) : (Opcode.pushN width).isFree := by
  have hall : ∀ width : Fin 33, (Opcode.push width).isFree := by decide
  exact hall _

namespace Fragment
variable {options : PatchOptions} {scope : Scope} {fragment : Fragment} {inst : Instruction}

theorem isCanonical_of_mem_code (h : inst ∈ fragment.code options scope) :
    inst.opcode.isCanonical := by
  have hall : (fragment.code options scope).all (·.opcode.isCanonical) = true := by
    cases fragment <;> rfl
  exact List.all_eq_true.1 hall inst h

/-- **Fragments keep to the table.** -/
theorem mem_of_confinedTo? (h : inst ∈ fragment.code options scope) {holders : List Fragment}
    (hc : inst.opcode.confinedTo? = some holders) : fragment ∈ holders := by
  have hall : (fragment.code options scope).all
      (fun inst => inst.opcode.confinedTo?.all (·.contains fragment)) = true := by
    cases fragment <;> rfl
  simpa [hc] using List.all_eq_true.1 hall inst h

theorem not_mem_code (hc : inst.opcode.confinedTo? = some []) :
    inst ∉ fragment.code options scope := fun hm => by
  simpa using mem_of_confinedTo? hm hc

/-- In what takes part in expansions, every jump follows a reference. -/
theorem jumpsPushed_code (options : PatchOptions) (scope : Scope) (h : fragment ∉ library) :
    jumpsPushed false (fragment.code options scope) := by
  have hall : (library.contains fragment || jumpsPushed false (fragment.code options scope)) =
      true := by
    cases fragment <;> rfl
  simpa [h] using hall

end Fragment

namespace Image

/-- An opcode that its expansion keeps. -/
def isKept (logsOnly : Bool) (opcode : Opcode) : Bool :=
  (replaced? logsOnly opcode).isNone && opcode != .pc && opcode != .codesize && opcode != .origin

theorem jumpsPushed_jumpRouter (scope : Scope) (runtime : List Instruction) :
    jumpsPushed false (jumpRouter scope runtime) := by
  rw [jumpRouter, jumpsPushed_duplicate]
  exact jumpsPushed_append (jumpsPushed_flatMap fun _ _ => rfl) rfl

theorem isFree_of_mem_jumpRouter {scope : Scope} {runtime : List Instruction} {inst : Instruction}
    (h : inst ∈ jumpRouter scope runtime) : inst.opcode.isFree := by
  obtain ⟨d, hd⟩ := Patcher.mem_jumpRouter h
  exact List.all_eq_true.1 (by rfl : (jumpRouter scope _).all (·.opcode.isFree) = true) inst hd

theorem isFree_of_mem_accountRouters {scope : Scope} {accounts : Accounts} {inst : Instruction}
    (h : inst ∈ (accountRouters scope accounts).flatten) :
    inst.opcode.isFree ∨ inst.opcode.isCodeQuery := by
  obtain ⟨own, address, code, i, hm⟩ := Patcher.mem_accountRouters h
  have hall : (duplicate own (Patcher.accountParts address code i)).all
      (fun inst => inst.opcode.isFree || inst.opcode.isCodeQuery) = true := rfl
  simpa using List.all_eq_true.1 hall inst hm

end Image

namespace Patcher

/-! ## Where instructions come from -/

section
variable (patcher : Patcher) (first : Scope) (code : Bytes)

/-- What an image holds, from its first byte on. -/
abbrev contents : List Instruction := patcher.leading code ++ patcher.instrumented first code

/-- Where the account routers start: behind the jump router. -/
def accountsStart : Nat := routerStart patcher first code +
  codeSize (Image.jumpRouter (routerScope first code) (patcher.runtime first code))

variable (position : Nat) (inst : Instruction)

/-- An instruction stands at a position of an image behind the zeros. -/
def Committed : Prop :=
  Occurs (patcher.contents first code) (runtimeStart code) (patcher.instrumented first code)
    position inst

/-- An instruction stands at a position of the runtime. -/
def InRuntime : Prop :=
  Occurs (patcher.contents first code) (runtimeStart code) (patcher.runtime first code)
    position inst

/-- An instruction stands at a position of the jump router. -/
def InJumpRouter : Prop :=
  Occurs (patcher.contents first code) (routerStart patcher first code)
    (Image.jumpRouter (routerScope first code) (patcher.runtime first code)) position inst

/-- An instruction stands at a position of the account routers. -/
def InAccountRouters : Prop :=
  Occurs (patcher.contents first code) (accountsStart patcher first code)
    (Image.accountRouters ((routerScope first code).after 1) patcher.options.accounts).flatten
    position inst

/-- An instruction stands at a position of a copy of a fragment. -/
def InCopy (fragment : Fragment) : Prop :=
  ∃ start scope, Occurs (patcher.contents first code) start (fragment.code patcher.options scope)
    position inst

/-- Where an instruction behind the zeros comes from. -/
inductive Origin : Prop where
  | copied (fragment : Fragment) (h : InCopy patcher first code position inst fragment)
  | kept (site : Instruction) (hm : site ∈ disassemble first code)
    (hk : Image.isKept patcher.options.logsOnly site.opcode) (ho : inst.opcode = site.opcode)
  | free (h : inst.opcode.isFree)
  | query (h : InAccountRouters patcher first code position inst) (hq : inst.opcode.isCodeQuery)

end

section
variable {patcher : Patcher} {base first : Scope} {code : Bytes} {position start i : Nat}
  {site inst : Instruction}

/-- An expansion is the copy of at most one fragment, between pushes and what it keeps. -/
theorem expansion_parts (first : Scope) (code : Bytes) (i : Nat) (site : Instruction)
    (hp : patcher.Assembled base) : ∃ front back, patcher.expansion first code (site, i) =
        front ++ Image.splice patcher.options ((innerScope first code).after i) site.opcode ++
          back ∧
      ∀ own ∈ front ++ back, (∃ width, own.opcode = .pushN width) ∨
        (own.opcode = site.opcode ∧ Image.isKept patcher.options.logsOnly site.opcode) := by
  have hsplice {opcode : Opcode} (ho : site.opcode = opcode)
      (h : ∀ logsOnly, Image.spliced? logsOnly opcode = none) :
      Image.splice patcher.options ((innerScope first code).after i) site.opcode = [] := by
    rw [ho, Image.splice, h]
  by_cases hk : Image.isKept patcher.options.logsOnly site.opcode
  · by_cases hj : site.opcode = .jumpdest
    · refine ⟨[], [site.labelled (Image.jumpLabel (site.source.getD 0))], ?_, ?_⟩
      · rw [hsplice hj (by decide)]
        exact expand_jumpdest _ _ hj
      · simp [Instruction.labelled, hk]
    · obtain ⟨front, back, he, haround, -⟩ :=
        expand_eq code.length ((innerScope first code).after i) hp hj
      refine ⟨front, back, he, fun own hm => ?_⟩
      cases haround own hm with
      | self => exact .inr ⟨rfl, hk⟩
      | offset | size | origin | topics => exact .inl ⟨_, rfl⟩
  · cases hr : Image.replaced? patcher.options.logsOnly site.opcode with
    | some fragment =>
      exact ⟨[], [], by simp [expansion_of_replaced hp hr, Image.splice, Image.spliced?, hr],
        by simp⟩
    | none =>
      -- what is neither kept nor replaced is shown as a number
      have hshown : site.opcode = .pc ∨ site.opcode = .codesize ∨ site.opcode = .origin := by
        simp only [Image.isKept, hr] at hk
        grind
      rcases hshown with ho | ho | ho
      · refine ⟨[.pushInt (.pushN 3) (site.source.getD 0)], [], ?_, by simp [Instruction.pushInt]⟩
        rw [expansion_pc patcher first code i ho, hsplice ho (by decide)]
        rfl
      · refine ⟨[.pushInt (.pushN 3) code.length], [], ?_, by simp [Instruction.pushInt]⟩
        rw [expansion_codesize patcher first code i ho, hsplice ho (by decide)]
        rfl
      · refine ⟨[.pushBytes (.pushN 20) (wordBytes patcher.options.origin)], [], ?_,
          by simp [Instruction.pushBytes]⟩
        rw [expansion_origin patcher first code i ho, hsplice ho (by decide)]
        rfl

/-- What occurs in an expansion. -/
theorem cases_of_expansion (hp : patcher.Assembled base)
    (h : Occurs (patcher.contents first code) start (patcher.expansion first code (site, i))
      position inst) :
    (∃ fragment, InCopy patcher first code position inst fragment) ∨
      (∃ width, inst.opcode = .pushN width) ∨
      (inst.opcode = site.opcode ∧ Image.isKept patcher.options.logsOnly site.opcode) := by
  obtain ⟨front, back, he, hown⟩ := expansion_parts first code i site hp
  rw [he] at h
  rcases h.append with hleft | hback
  · rcases hleft.append with hfront | hsplice
    · exact .inr (hown inst (by simp [hfront.mem]))
    · unfold Image.splice at hsplice
      split at hsplice
      · next fragment _ => exact .inl ⟨fragment, _, _, hsplice⟩
      · exact absurd hsplice.mem (by simp)
  · exact .inr (hown inst (by simp [hback.mem]))

/-- What occurs in the runtime, beside its entry and its end. -/
theorem InRuntime.exists_site (h : InRuntime patcher first code position inst)
    (hentry : inst ≠ Image.runtimeEntry) (hend : inst ≠ .plain .stop) :
    ∃ i site start, (disassemble first code)[i]? = some site ∧
      Occurs (patcher.contents first code) start (patcher.expansion first code (site, i))
        position inst := by
  have hruntime : patcher.runtime first code =
      [Image.runtimeEntry] ++ patcher.expansions first code ++ [.plain .stop] := rfl
  unfold InRuntime at h
  rw [hruntime] at h
  rcases h.append with hleft | hstop
  · rcases hleft.append with hfirst | hexpansions
    · exact absurd hfirst.singleton.2 hentry
    · obtain ⟨⟨site, i⟩, hm, start, hoccurs⟩ := hexpansions.flatMap
      exact ⟨i, site, start, List.mk_mem_zipIdx_iff_getElem?.1 hm, hoccurs⟩
  · exact absurd hstop.singleton.2 hend

/-- The sections behind the zeros. -/
theorem cases_of_committed (h : Committed patcher first code position inst) :
    InRuntime patcher first code position inst ∨
      (∃ fragment ∈ Fragment.library, ∃ start, Occurs (patcher.contents first code) start
        (patcher.fragments.get fragment) position inst) ∨
      InJumpRouter patcher first code position inst ∨
      InAccountRouters patcher first code position inst := by
  have hsections := instrumented_eq patcher first code
  unfold Committed at h
  rw [hsections] at h
  rcases h.append with h | haccounts
  · rcases h.append with h | hrouter
    · rcases h.append with hruntime | hlibrary
      · exact .inl hruntime
      · exact .inr (.inl hlibrary.flatMap)
    · rw [codeSize_append, ← Nat.add_assoc] at hrouter
      exact .inr (.inr (.inl hrouter))
  · rw [codeSize_append, codeSize_append, ← Nat.add_assoc, ← Nat.add_assoc] at haccounts
    exact .inr (.inr (.inr haccounts))

/-- **Where the instructions behind the zeros come from.** -/
theorem Committed.origin (hp : patcher.Assembled base)
    (h : Committed patcher first code position inst) : Origin patcher first code position inst := by
  rcases cases_of_committed h with hruntime | ⟨fragment, -, start, hlibrary⟩ | hrouter | haccounts
  · by_cases hentry : inst = Image.runtimeEntry
    · exact .free (hentry ▸ rfl)
    by_cases hend : inst = .plain .stop
    · exact .free (hend ▸ rfl)
    obtain ⟨i, site, start, hi, hoccurs⟩ := hruntime.exists_site hentry hend
    rcases cases_of_expansion hp hoccurs with ⟨fragment, hcopy⟩ | ⟨width, hpush⟩ | ⟨ho, hk⟩
    · exact .copied fragment hcopy
    · exact .free (hpush ▸ Opcode.isFree_pushN width)
    · exact .kept site (List.mem_of_getElem? hi) hk ho
  · rw [hp] at hlibrary
    exact .copied fragment ⟨start, _, hlibrary⟩
  · exact .free (Image.isFree_of_mem_jumpRouter hrouter.mem)
  · rcases Image.isFree_of_mem_accountRouters haccounts.mem with hfree | hquery
    · exact .free hfree
    · exact .query haccounts hquery

/-- The instructions behind the zeros are decoded from their bytes. -/
theorem Committed.isCanonical (hp : patcher.Assembled base)
    (h : Committed patcher first code position inst) : inst.opcode.isCanonical := by
  cases h.origin hp with
  | copied fragment hcopy =>
    obtain ⟨start, scope, hoccurs⟩ := hcopy
    exact Fragment.isCanonical_of_mem_code hoccurs.mem
  | kept site hm hk ho =>
    obtain ⟨_, byte, _, hd⟩ := exists_isDecoded hm
    rw [ho, hd.opcode]
    exact Opcode.isCanonical_ofByte byte
  | free hfree => exact (Bool.and_eq_true _ _ ▸ hfree).1
  | query _ hq =>
    simp only [Opcode.isCodeQuery, Bool.or_eq_true, beq_iff_eq] at hq
    rcases hq with (ho | ho) | ho <;> rw [ho] <;> decide

/-- **A sensitive opcode that expansions replace is confined to the copies of a few fragments**,
but for the account routers. -/
theorem Committed.confined (hp : patcher.Assembled base)
    (h : Committed patcher first code position inst) {opcode : Opcode} (ho : inst.opcode = opcode)
    {holders : List Fragment} (hc : opcode.confinedTo? = some holders)
    (hk : Image.isKept patcher.options.logsOnly opcode = false) :
    (∃ fragment ∈ holders, InCopy patcher first code position inst fragment) ∨
      (InAccountRouters patcher first code position inst ∧ opcode.isCodeQuery) := by
  subst ho
  cases h.origin hp with
  | copied fragment hcopy =>
    obtain ⟨start, scope, hoccurs⟩ := hcopy
    exact .inl ⟨fragment, Fragment.mem_of_confinedTo? hoccurs.mem hc, start, scope, hoccurs⟩
  | kept site hm hkept ho =>
    rw [ho, hkept] at hk
    cases hk
  | free hfree => simp [Opcode.isFree, hc] at hfree
  | query haccounts hq => exact .inr ⟨haccounts, hq⟩

theorem Committed.inCopy (hp : patcher.Assembled base)
    (h : Committed patcher first code position inst) {opcode : Opcode} (ho : inst.opcode = opcode)
    {holders : List Fragment} (hc : opcode.confinedTo? = some holders)
    (hk : Image.isKept patcher.options.logsOnly opcode = false)
    (hq : opcode.isCodeQuery = false) :
    ∃ fragment ∈ holders, InCopy patcher first code position inst fragment := by
  rcases h.confined hp ho hc hk with hcopy | ⟨-, hquery⟩
  · exact hcopy
  · rw [hq] at hquery
    cases hquery

/-! ## Jumps of an image -/

theorem isJump_eq_false_of_isKept {logsOnly : Bool} (ho : inst.opcode = site.opcode)
    (hk : Image.isKept logsOnly site.opcode) : inst.isJump = false := by
  rw [Instruction.isJump, ho]
  by_contra hj
  rw [Bool.not_eq_false, Bool.or_eq_true, beq_iff_eq, beq_iff_eq] at hj
  rcases hj with hj | hj <;> rw [hj] at hk <;> cases logsOnly <;> cases hk

theorem jumpsPushed_expansion (hp : patcher.Assembled base) (first : Scope) (code : Bytes) (i : Nat)
    (site : Instruction) : jumpsPushed false (patcher.expansion first code (site, i)) := by
  obtain ⟨front, back, he, hown⟩ := expansion_parts first code i site hp
  have hplain : ∀ own ∈ front ++ back, own.isJump = false := by
    intro own hm
    rcases hown own hm with ⟨width, ho⟩ | ⟨ho, hk⟩
    · rw [Instruction.isJump, ho]
      rfl
    · exact isJump_eq_false_of_isKept ho hk
  have hsplice : jumpsPushed false
      (Image.splice patcher.options ((innerScope first code).after i) site.opcode) := by
    unfold Image.splice
    split
    · next fragment hs => exact Fragment.jumpsPushed_code _ _ (not_mem_library_of_spliced? hs)
    · rfl
  rw [he]
  refine jumpsPushed_append (jumpsPushed_append ?_ hsplice) ?_
  · exact jumpsPushed_of_forall _ fun own hm => hplain own (by simp [hm])
  · exact jumpsPushed_of_forall _ fun own hm => hplain own (by simp [hm])

theorem jumpsPushed_runtime (hp : patcher.Assembled base) (first : Scope) (code : Bytes) :
    jumpsPushed false (patcher.runtime first code) := by
  have hexpansions : jumpsPushed false (patcher.expansions first code) :=
    jumpsPushed_flatMap fun ⟨site, i⟩ _ => jumpsPushed_expansion hp first code i site
  exact jumpsPushed_append hexpansions rfl

end

section
variable (patcher : Patcher) (first : Scope) (code image : Bytes)

/-- Directly in front of an instruction stands a PUSH3 of a jump destination at or behind the
runtime's start. -/
def FollowsPush (position : Nat) (inst : Instruction) : Prop :=
  ∃ offset push target, position = offset + 4 ∧
    LiesAt (patcher.contents first code) offset [push, inst] ∧ push.opcode = .pushN 3 ∧
    PushesTarget code image offset target

/-- Directly in front of an instruction stands a copy of a fragment, which ends with the JUMPDEST
that it pushes the offset of first. -/
def FollowsReturn (fragment : Fragment) (position : Nat) (inst : Instruction) : Prop :=
  ∃ start scope front resume, fragment.code patcher.options scope = front ++ [resume] ∧
    LiesAt (patcher.contents first code) start (front ++ [resume, inst]) ∧
    position = start + codeSize front + 1 ∧ resume.opcode = .jumpdest ∧
    resume.label = some (.lexical "resume") ∧
    (image.length ≤ 2 ^ 256 → PushesTarget code image start (start + codeSize front))

/-- The sensitive instructions of an image are guarded. -/
structure Guarded : Prop where
  /-- The instructions behind the zeros are those that were laid out there. -/
  committed : ∀ placed, placed ∈ ((layOutAll 0 (patcher.sections first code)).1.drop 3).flatten ↔
    ∃ position inst, Committed patcher first code position inst ∧ placed = inst.place position
  /-- They are what is decoded from the image at or behind the runtime's start. -/
  decoded : ∀ position byte, runtimeStart code ≤ position →
    ((position, byte) ∈ marks image ↔
      ∃ inst, Committed patcher first code position inst ∧ inst.opcode = .ofByte byte)
  /-- None of them shows where code lies, how long it is, or who sent the transaction. -/
  hidden : ∀ position inst, Committed patcher first code position inst →
    inst.opcode ≠ .pc ∧ inst.opcode ≠ .codesize ∧ inst.opcode ≠ .origin
  /-- Jumps of the runtime and of the jump router go to destinations of the image. Offsets are
  words. -/
  jumps : image.length ≤ 2 ^ 256 → ∀ position inst,
    InRuntime patcher first code position inst ∨ InJumpRouter patcher first code position inst →
    inst.opcode = .jump ∨ inst.opcode = .jumpi → FollowsPush patcher first code image position inst
  /-- Only the account routers ask for the code of an account. -/
  queries : ∀ position inst, Committed patcher first code position inst →
    inst.opcode = .extcodesize ∨ inst.opcode = .extcodehash ∨ inst.opcode = .extcodecopy →
    InAccountRouters patcher first code position inst
  /-- Logs follow their report. -/
  logs : ∀ position inst topics, InRuntime patcher first code position inst →
    inst.opcode = .log topics → FollowsReturn patcher first code image .logPatch position inst
  /-- Storage writes follow their report. -/
  writes : patcher.options.logsOnly = false → ∀ position inst,
    InRuntime patcher first code position inst → inst.opcode = .sstore →
    FollowsReturn patcher first code image .sstorePatch position inst
  /-- Calls stand in their reports only. -/
  calls : patcher.options.logsOnly = false → ∀ position inst,
    Committed patcher first code position inst → inst.opcode = .call →
    InCopy patcher first code position inst .callPatch
  callcodes : patcher.options.logsOnly = false → ∀ position inst,
    Committed patcher first code position inst → inst.opcode = .callcode →
    InCopy patcher first code position inst .callcodePatch
  /-- Hooks are called by delegate call too. -/
  delegatecalls : patcher.options.logsOnly = false → ∀ position inst,
    Committed patcher first code position inst → inst.opcode = .delegatecall →
    InCopy patcher first code position inst .delegatecallPatch ∨
      InCopy patcher first code position inst .checkedDelegatecall
  /-- Only the routine that saves return data reads it. -/
  returnData : patcher.options.logsOnly = false → ∀ position inst,
    Committed patcher first code position inst →
    inst.opcode = .returndatasize ∨ inst.opcode = .returndatacopy →
    InCopy patcher first code position inst .callHook

end

section
variable {patcher : Patcher} {base first : Scope} {code image : Bytes} {table : Table}
  {position start : Nat} {inst : Instruction}

theorem committed_iff (hp : patcher.Assembled base) : Committed patcher first code position inst ↔
    ∃ k, position = runtimeStart code + k ∧ StandsAt (patcher.instrumented first code) k inst :=
  ⟨fun h => h.stands, fun h => ⟨⟨patcher.leading code, [], by simp, codeSize_leading hp⟩, h⟩⟩

/-- What is laid out behind the zeros is what is committed there. -/
theorem mem_layOutAll_iff_committed (hp : patcher.Assembled base) {placed : Instruction} :
    placed ∈ ((layOutAll 0 (patcher.sections first code)).1.drop 3).flatten ↔
      ∃ position inst, Committed patcher first code position inst ∧
        placed = inst.place position := by
  rw [layOutAll_instrumented hp, mem_layOut]
  constructor
  · rintro ⟨k, inst, hat, rfl⟩
    exact ⟨_, inst, (committed_iff hp).2 ⟨k, rfl, hat⟩, rfl⟩
  · rintro ⟨_, inst, hcommitted, rfl⟩
    obtain ⟨k, rfl, hat⟩ := (committed_iff hp).1 hcommitted
    exact ⟨k, inst, hat, rfl⟩

/-- From the runtime on, an image is decoded to what is committed. -/
theorem mem_marks_iff_committed (hp : patcher.Assembled base)
    (w : Written (patcher.contents first code) table image) {byte : UInt8}
    (hge : runtimeStart code ≤ position) : (position, byte) ∈ marks image ↔
      ∃ inst, Committed patcher first code position inst ∧ inst.opcode = .ofByte byte := by
  rw [mem_marks_image hp w hge]
  constructor
  · rintro ⟨k, inst, rfl, hat, hb⟩
    have hcommitted := (committed_iff hp).2 ⟨k, rfl, hat⟩
    have hcanonical := eq_of_beq (hcommitted.isCanonical hp)
    rw [hb] at hcanonical
    exact ⟨inst, hcommitted, (Option.some.inj hcanonical).symm⟩
  · rintro ⟨inst, hcommitted, ho⟩
    obtain ⟨k, rfl, hat⟩ := (committed_iff hp).1 hcommitted
    exact ⟨k, inst, rfl, hat, by rw [ho, Opcode.toByte?_ofByte]⟩

/-- A jump that follows a reference goes to a destination of the image. -/
theorem followsPush (hp : patcher.Assembled base) (hsize : image.length ≤ 2 ^ 256)
    (w : Written (patcher.contents first code) table image) {block : List Instruction}
    (h : Occurs (patcher.contents first code) start block position inst)
    (hb : jumpsPushed false block) (hj : inst.isJump) :
    FollowsPush patcher first code image position inst := by
  obtain ⟨offset, push, rfl, hl, hr⟩ := h.exists_reference hb hj
  obtain ⟨label, hr⟩ := Option.isSome_iff_exists.1 hr
  have hop : push.opcode = .pushN 3 := opcode_of_reference? hp hl.head.mem hr
  obtain ⟨entry, target, decl, he, ht, hd⟩ := w.exists_declared hl.head.mem hr
  exact ⟨offset, push, target, by rw [Instruction.size_of_push3 hop], hl, hop,
    pushesTarget hp hsize w hl.head hr he ht hd⟩

/-- What stands behind a copy that calls a routine follows its return. -/
theorem followsReturn (hp : patcher.Assembled base)
    (w : Written (patcher.contents first code) table image) {fragment : Fragment} {scope : Scope}
    (routine : Label) (hcode : fragment.code patcher.options scope = duplicate scope
      [.pushLabel (.pushN 3) (.lexical "resume"), .pushLabel (.pushN 3) routine, .plain .jump,
        (Instruction.plain .jumpdest).labelled (.lexical "resume")])
    (hl : LiesAt (patcher.contents first code) start
      (fragment.code patcher.options scope ++ [inst])) :
    FollowsReturn patcher first code image fragment
      (start + codeSize (fragment.code patcher.options scope)) inst := by
  rw [hcode] at hl ⊢
  refine ⟨start, scope, duplicate scope [.pushLabel (.pushN 3) (.lexical "resume"),
    .pushLabel (.pushN 3) routine, .plain .jump], _, hcode, hl, rfl, rfl, rfl, fun hsize => ?_⟩
  exact pushesTarget hp hsize w hl.head rfl (entryOf_some _ scope) hl.tail.tail.tail.head rfl

/-- What no fragment holds is kept from the deployed code. -/
theorem InRuntime.exists_kept (hp : patcher.Assembled base)
    (h : InRuntime patcher first code position inst) (hc : inst.opcode.confinedTo? = some []) :
    ∃ i site start, Occurs (patcher.contents first code) start
      (patcher.expansion first code (site, i)) position inst ∧ site.opcode = inst.opcode := by
  obtain ⟨i, site, start, -, hoccurs⟩ := h.exists_site (by rintro rfl; cases hc)
    (by rintro rfl; cases hc)
  rcases cases_of_expansion hp hoccurs with ⟨fragment, _, _, hcopy⟩ | ⟨width, ho⟩ | ⟨ho, -⟩
  · exact absurd hcopy.mem (Fragment.not_mem_code hc)
  · rw [ho] at hc
    cases hc
  · exact ⟨i, site, start, hoccurs, ho.symm⟩

/-- A log of the runtime follows its report. -/
theorem InRuntime.followsReturn_log (hp : patcher.Assembled base)
    (w : Written (patcher.contents first code) table image) {topics : Fin 5}
    (h : InRuntime patcher first code position inst) (ho : inst.opcode = .log topics) :
    FollowsReturn patcher first code image .logPatch position inst := by
  have hc : inst.opcode.confinedTo? = some [] := by
    rw [ho]
    rfl
  obtain ⟨i, site, start, hoccurs, hsite⟩ := h.exists_kept hp hc
  rw [expansion_log hp first code i (hsite.trans ho)] at hoccurs
  obtain ⟨rfl, rfl⟩ := hoccurs.last fun hm => by
    rcases List.mem_cons.1 hm with rfl | hm
    · cases ho
    · exact Fragment.not_mem_code hc hm
  rw [codeSize_cons, ← Nat.add_assoc]
  exact followsReturn hp w (.global "log-hook") rfl hoccurs.lies.tail

/-- A storage write of the runtime follows its report. -/
theorem InRuntime.followsReturn_sstore (hp : patcher.Assembled base)
    (w : Written (patcher.contents first code) table image)
    (hlogs : patcher.options.logsOnly = false)
    (h : InRuntime patcher first code position inst) (ho : inst.opcode = .sstore) :
    FollowsReturn patcher first code image .sstorePatch position inst := by
  have hc : inst.opcode.confinedTo? = some [] := by
    rw [ho]
    rfl
  obtain ⟨i, site, start, hoccurs, hsite⟩ := h.exists_kept hp hc
  rw [expansion_sstore hp first code i hlogs (hsite.trans ho)] at hoccurs
  obtain ⟨rfl, rfl⟩ := hoccurs.last (Fragment.not_mem_code hc)
  exact followsReturn hp w (.global "sstore-hook") rfl hoccurs.lies

/-- **The sensitive instructions of an image are guarded**, whatever the code and the options; no
code has no image. -/
theorem guarded_of_patchFrom {options : PatchOptions} (hp : Patcher.new options base = .ok patcher)
    (h : patcher.patchFrom first code = .ok image) :
    if code = [] then image = [] else Guarded patcher first code image := by
  by_cases hc : code = []
  · rw [if_pos hc]
    subst hc
    cases h
    rfl
  rw [if_neg hc]
  have hp := (assembled_of_new hp).2
  obtain ⟨table, w⟩ := patchFrom_ok hc h
  have hkept {opcode : Opcode} (h : ∀ logsOnly, Image.isKept logsOnly opcode = false) :
      Image.isKept patcher.options.logsOnly opcode = false := h _
  have hhooked {opcode : Opcode} (hlogs : patcher.options.logsOnly = false)
      (h : Image.isKept false opcode = false) :
      Image.isKept patcher.options.logsOnly opcode = false := hlogs ▸ h
  refine ⟨fun placed => mem_layOutAll_iff_committed hp,
    fun position byte hge => mem_marks_iff_committed hp w hge, fun position inst hcommitted => ?_,
    fun hsize position inst hin hj => ?_, fun position inst hcommitted ho => ?_,
    fun position inst topics hin ho => hin.followsReturn_log hp w ho,
    fun hlogs position inst hin ho => hin.followsReturn_sstore hp w hlogs ho,
    fun hlogs position inst hcommitted ho => ?_, fun hlogs position inst hcommitted ho => ?_,
    fun hlogs position inst hcommitted ho => ?_, fun hlogs position inst hcommitted ho => ?_⟩
  · refine ⟨fun ho => ?_, fun ho => ?_, fun ho => ?_⟩
    · simpa using hcommitted.inCopy hp ho rfl (hkept (by decide)) rfl
    · simpa using hcommitted.inCopy hp ho rfl (hkept (by decide)) rfl
    · simpa using hcommitted.inCopy hp ho rfl (hkept (by decide)) rfl
  · have hj : inst.isJump := by simpa [Instruction.isJump] using hj
    rcases hin with hruntime | hrouter
    · exact followsPush hp hsize w hruntime (jumpsPushed_runtime hp first code) hj
    · exact followsPush hp hsize w hrouter (Image.jumpsPushed_jumpRouter _ _) hj
  · rcases ho with ho | ho | ho
    · simpa using (hcommitted.confined hp ho rfl (hkept (by decide))).imp_right And.left
    · simpa using (hcommitted.confined hp ho rfl (hkept (by decide))).imp_right And.left
    · simpa using (hcommitted.confined hp ho rfl (hkept (by decide))).imp_right And.left
  · simpa using hcommitted.inCopy hp ho rfl (hhooked hlogs rfl) rfl
  · simpa using hcommitted.inCopy hp ho rfl (hhooked hlogs rfl) rfl
  · simpa using hcommitted.inCopy hp ho rfl (hhooked hlogs rfl) rfl
  · rcases ho with ho | ho
    · simpa using hcommitted.inCopy hp ho rfl (hhooked hlogs rfl) rfl
    · simpa using hcommitted.inCopy hp ho rfl (hhooked hlogs rfl) rfl

/-- The image of a storage write, a log and a jump. -/
theorem guarded_sstore_log : ∃ patcher image, Patcher.new {} ⟨0⟩ = .ok patcher ∧
    patcher.patch [0x55, 0xa0, 0x56] = .ok image ∧
    Guarded patcher firstScope [0x55, 0xa0, 0x56] image := by
  obtain ⟨patcher, image, hp, himg, -⟩ := exists_image_of_length ⟨0⟩ firstScope
    [0x55, 0xa0, 0x56] {} (by decide) (by simp [AddressMap.empty]) (by decide)
  exact ⟨patcher, image, hp, himg, by simpa using guarded_of_patchFrom hp himg⟩

end

end Patcher

end EvmProbe
