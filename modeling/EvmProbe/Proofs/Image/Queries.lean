import EvmProbe.Proofs.Image.Accounts

/-!
What an image answers when the size or the hash of an account's code is asked for.

The routers for EXTCODESIZE and EXTCODEHASH are one scan of the table with two answers
(`CodeQuery`).  Of the word that names the account the low 160 bits count.  An account of the table
is answered from there, wherever its entry stands; every other account is asked for with the opcode
itself.

* `Answered`: what a query is answered.
* `passes_queryRouter`: a router gets to its return address with that answer.
* `passes_querySite`: the patch of the opcode gets to the next site with it.
* `looksUp_of_patchFrom`: both do so in every image.
-/

namespace EvmProbe

open Bytecode Linking StateTransition

/-- What is asked for about the code of an account. -/
inductive CodeQuery where
  | size
  | hash

namespace CodeQuery

/-- The opcode that asks. -/
def opcode : CodeQuery → Opcode
  | .size => .extcodesize
  | .hash => .extcodehash

/-- The name of the router that answers. -/
def routerName : CodeQuery → String
  | .size => "extcodesize-router"
  | .hash => "extcodehash-router"

/-- The place of that router among the routers for accounts. -/
def index : CodeQuery → Nat
  | .size => 0
  | .hash => 1

/-- The answer for an account of the table. -/
def answer (known : DeployedCode) : CodeQuery → Word
  | .size => BitVec.ofNat 256 known.size
  | .hash => known.hash

/-- The push of that answer. -/
def push : CodeQuery → DeployedCode → Instruction
  | .size => fun known => .pushInt (.pushN 3) known.size
  | .hash => fun known => .pushBytes (.pushN 32) (wordBytes known.hash)

/-- The patch that stands for the opcode. -/
def fragment : CodeQuery → Fragment
  | .size => .extcodesizePatch
  | .hash => .extcodehashPatch

theorem opcode_cases (query : CodeQuery) :
    query.opcode = .extcodesize ∨ query.opcode = .extcodehash := by
  cases query
  · exact .inl rfl
  · exact .inr rfl

theorem exists_of_opcode {opcode : Opcode} (h : opcode = .extcodesize ∨ opcode = .extcodehash) :
    ∃ query : CodeQuery, opcode = query.opcode := by
  rcases h with rfl | rfl
  · exact ⟨.size, rfl⟩
  · exact ⟨.hash, rfl⟩

theorem replaced?_opcode (query : CodeQuery) (logsOnly : Bool) :
    Image.replaced? logsOnly query.opcode = some query.fragment := by
  cases query <;> rfl

theorem isPlain_push (query : CodeQuery) (known : DeployedCode) (scope : Scope) :
    ((query.push known).inScope scope).isPlain := by
  cases query <;> rfl

/-- The push of an answer pushes it. -/
theorem act_push {μ ω : Type} (machine : Machine μ ω) (query : CodeQuery) (known : DeployedCode)
    (scope : Scope) (table : Table) (frame : Frame μ ω) :
    machine.act ((query.push known).inScope scope).opcode
      (((query.push known).inScope scope).word table) frame =
        .ok (frame.push (query.answer known)) := by
  cases query with
  | size => rfl
  | hash =>
    have hword : ((hash.push known).inScope scope).word table = known.hash := by
      simp [push, Instruction.word]
    rw [hword]
    rfl

end CodeQuery

/-- **What a query is answered**, and what has become of the world by then: an account of the table
is answered from there; for any other account, the opcode is used with the address alone. -/
inductive Answered {Ω : Type} (outside : Outside Ω) (accounts : Accounts) (query : CodeQuery)
    (word : Word) (outer : Ω) : Word → Ω → Prop where
  | known {code : DeployedCode} (h : accounts.find? (word.setWidth 160) = some code) :
      Answered outside accounts query word outer (query.answer code) outer
  | real {effect : Effect Ω} (hunknown : accounts.find? (word.setWidth 160) = none)
      (h : outside.perform query.opcode [(word.setWidth 160).setWidth 256] [] outer =
        some effect) : Answered outside accounts query word outer effect.word effect.outer

/-- An outside in which EXTCODESIZE answers with the size of the code that an account has, and every
call fails. -/
def Outside.sizing (sizeOf : Address → Nat) : Outside Unit where
  call _ _ _ _ _ outer := ⟨false, [], outer⟩
  meter _ _ := 0
  perform
    | .extcodesize, [account], _, outer =>
      some ⟨BitVec.ofNat 256 (sizeOf (account.setWidth 160)), fun _ => 0, [], outer⟩
    | _, _, _, outer => some ⟨0, fun _ => 0, [], outer⟩

namespace Patcher

/-- Where the router for a query starts: behind the jump router, and the hash behind the size. -/
def queryRouterStart (patcher : Patcher) (first : Scope) (code : Bytes) (query : CodeQuery) : Nat :=
  routerStart patcher first code +
    codeSize (Image.jumpRouter (routerScope first code) (patcher.runtime first code)) +
    codeSize ((Image.accountRouters ((routerScope first code).after 1)
      patcher.options.accounts).take query.index).flatten

section
variable {Ω : Type} (outside : Outside Ω) (origin : Address) {patcher : Patcher}
  {base first : Scope} {code image : Bytes} {table : Table} {target : Nat}
  (hp : patcher.Assembled base)

/-! ## The routers -/

theorem tail_queryRouter (first : Scope) (code : Bytes) (hp : patcher.Assembled base)
    (query : CodeQuery) : Tail patcher first code (queryRouterStart patcher first code query)
      (duplicate (((routerScope first code).after 1).after query.index)
        (Image.wordRouter query.routerName query.opcode query.push patcher.options.accounts)) := by
  have tail := tail_accountRouters first code hp
  rw [← List.take_append_drop query.index (Image.accountRouters _ _), List.flatten_append] at tail
  have hrest := tail.right
  cases query with
  | size => exact hrest.left
  | hash => exact hrest.left

section
variable (w : Written (patcher.leading code ++ patcher.instrumented first code) table image)
  (hsize : image.length ≤ 2 ^ 256) (query : CodeQuery)
include hp w hsize

/-- **A router gets to its return address with the answer** on the stack. -/
theorem passes_queryRouter (hd : IsDestination image target) (word value : Word) (s : List Word)
    (m : Memory) (world : World Ω) {outer : Ω}
    (h : Answered outside patcher.options.accounts query word world.outer value outer) :
    (outside.machine origin).Passes image (OffSite patcher first code)
      (.running (queryRouterStart patcher first code query)
        ⟨word :: BitVec.ofNat 256 target :: s, m, world⟩)
      (.running target ⟨value :: s, m, ⟨world.returnData, outer⟩⟩) := by
  have tail := tail_queryRouter first code hp query
  cases h with
  | known hknown =>
    exact passes_wordRouter outside origin hp w hsize tail word s m world hd hknown
      (query.isPlain_push _ _) fun frame => query.act_push _ _ _ _ frame
  | real hunknown hperform =>
    exact passes_wordRouter_unknown outside origin hp w hsize tail word s m world
      query.opcode_cases hunknown hd hperform

/-- It fails where the opcode itself does. -/
theorem passes_queryRouter_failure (word ret : Word) (s : List Word) (m : Memory) (world : World Ω)
    (hunknown : patcher.options.accounts.find? (word.setWidth 160) = none)
    (hperform : outside.perform query.opcode [(word.setWidth 160).setWidth 256] [] world.outer =
      none) :
    (outside.machine origin).Passes image (OffSite patcher first code)
      (.running (queryRouterStart patcher first code query) ⟨word :: ret :: s, m, world⟩)
      (.halted (.failed m world)) :=
  passes_wordRouter_failure outside origin hp w hsize (tail_queryRouter first code hp query)
    word s m world query.opcode_cases hunknown hperform ret

section
variable {i : Nat} {inst : Instruction} (hi : (disassemble first code)[i]? = some inst)
  (ho : inst.opcode = query.opcode) (m : Memory) (world : World Ω)
include hi ho

/-- A site enters its router, which comes back behind the site. -/
theorem stays_querySite_enter (word : Word) (s : List Word) :
    ∃ back, IsDestination image back ∧ OffSite patcher first code back ∧
      (outside.machine origin).Stays image (OffSite patcher first code)
        (.running (expansionStart patcher first code i) ⟨word :: s, m, world⟩)
        (.running (queryRouterStart patcher first code query)
          ⟨word :: BitVec.ofNat 256 back :: s, m, world⟩) ∧
      ∀ frame, (outside.machine origin).Passes image (OffSite patcher first code)
        (.running back frame) (.running (expansionStart patcher first code (i + 1)) frame) := by
  have tail := tail_queryRouter first code hp query
  have hrouter : table[(⟨none, query.routerName⟩ : Entry)]? =
      some (queryRouterStart patcher first code query) := tail.entry_address (n := 0) w rfl rfl
  exact stays_query_enter outside origin hp w hi hsize m world (ho ▸ query.replaced?_opcode _)
    (by cases query <;> rfl) hrouter (tail.behind _ (Nat.le_refl _)) word s

/-- **A site gets to the next with the answer** in place of the word that names the account. -/
theorem passes_querySite (word value : Word) (s : List Word) {outer : Ω}
    (h : Answered outside patcher.options.accounts query word world.outer value outer) :
    (outside.machine origin).Passes image (OffSite patcher first code)
      (.running (expansionStart patcher first code i) ⟨word :: s, m, world⟩)
      (.running (expansionStart patcher first code (i + 1))
        ⟨value :: s, m, ⟨world.returnData, outer⟩⟩) := by
  obtain ⟨back, hd, hoff, henter, hleave⟩ :=
    stays_querySite_enter outside origin hp w hsize query hi ho m world word s
  have hrouter := passes_queryRouter outside origin hp w hsize query hd word value s m world h
  exact (henter.trans ⟨hrouter, hoff⟩).passes (hleave _)

/-- A site gets to the next with the memory it began with, or fails. -/
theorem passes_query (stack : List Word) :
    (∃ stack' outer, (outside.machine origin).Passes image (OffSite patcher first code)
      (.running (expansionStart patcher first code i) ⟨stack, m, world⟩)
      (.running (expansionStart patcher first code (i + 1))
        ⟨stack', m, ⟨world.returnData, outer⟩⟩)) ∨
    ∃ outcome, (outside.machine origin).Passes image (OffSite patcher first code)
      (.running (expansionStart patcher first code i) ⟨stack, m, world⟩) (.halted outcome) := by
  match stack with
  | word :: s =>
    cases hknown : patcher.options.accounts.find? (word.setWidth 160) with
    | some known =>
      exact .inl ⟨_, _, passes_querySite outside origin hp w hsize query hi ho m world word _ s
        (.known hknown)⟩
    | none =>
      cases hperform : outside.perform query.opcode [(word.setWidth 160).setWidth 256] []
          world.outer with
      | some effect =>
        exact .inl ⟨_, _, passes_querySite outside origin hp w hsize query hi ho m world word _ s
          (.real hknown hperform)⟩
      | none =>
        obtain ⟨back, -, -, henter, -⟩ :=
          stays_querySite_enter outside origin hp w hsize query hi ho m world word s
        exact .inr ⟨_, henter.passes (passes_queryRouter_failure outside origin hp w hsize query
          word _ s m world hknown hperform)⟩
  | [] =>
    have seg := segment_expansion hp hi
    rw [expansion_of_replaced hp (ho ▸ query.replaced?_opcode _)] at seg
    have hcode : query.fragment.code patcher.options ((innerScope first code).after i) =
        duplicate ((innerScope first code).after i) [.pushLabel (.pushN 3) (.lexical "resume"),
          .plain (.swapN 1), .pushLabel (.pushN 3) (.global query.routerName), .plain .jump,
          (Instruction.plain .jumpdest).labelled (.lexical "resume")] := by cases query <;> rfl
    rw [hcode] at seg
    exact .inr (seg.exists_passes_halted (outside.machine origin) _ w (n := 0) (k := 2) (by decide)
      rfl rfl (by simp))

end

end

/-! ## Every image -/

/-- How an image answers a query. -/
structure LooksUp {Ω : Type} (outside : Outside Ω) (origin : Address) (patcher : Patcher)
    (first : Scope) (code image : Bytes) (query : CodeQuery) : Prop where
  /-- The router is where its label is declared. -/
  entry : ∃ inst, IsPlaced patcher first code (queryRouterStart patcher first code query) inst ∧
    inst.label = some (.global query.routerName)
  /-- The router returns with the answer. -/
  router : ∀ word ret value s m world outer,
    Answered outside patcher.options.accounts query word world.outer value outer →
    IsDestination image ret.toNat →
    Reaches ((outside.machine origin).step image)
      (.running (queryRouterStart patcher first code query) ⟨word :: ret :: s, m, world⟩)
      (.running ret.toNat ⟨value :: s, m, ⟨world.returnData, outer⟩⟩)
  /-- It fails only where the opcode itself does. -/
  failing : ∀ word ret s m world, patcher.options.accounts.find? (word.setWidth 160) = none →
    outside.perform query.opcode [(word.setWidth 160).setWidth 256] [] world.outer = none →
    Reaches ((outside.machine origin).step image)
      (.running (queryRouterStart patcher first code query) ⟨word :: ret :: s, m, world⟩)
      (.halted (.failed m world))
  /-- The patch of the opcode does the same in place of it. -/
  site : ∀ i inst word value s m world outer, (disassemble first code)[i]? = some inst →
    inst.opcode = query.opcode →
    Answered outside patcher.options.accounts query word world.outer value outer →
    Reaches ((outside.machine origin).step image)
      (.running (expansionStart patcher first code i) ⟨word :: s, m, world⟩)
      (.running (expansionStart patcher first code (i + 1))
        ⟨value :: s, m, ⟨world.returnData, outer⟩⟩)

/-- **An image looks accounts up exactly**, for every table and whatever EXTCODESIZE and EXTCODEHASH
answer for the others. -/
theorem looksUp_of_patchFrom {options : PatchOptions} (hp : Patcher.new options base = .ok patcher)
    (hc : code ≠ []) (h : patcher.patchFrom first code = .ok image)
    (hsize : image.length ≤ 2 ^ 256) (query : CodeQuery) :
    LooksUp outside origin patcher first code image query := by
  have hp := (assembled_of_new hp).2
  obtain ⟨table, w⟩ := patchFrom_ok hc h
  have tail := tail_queryRouter first code hp query
  refine ⟨⟨_, isPlaced_of_standsAt tail.lies.head, rfl⟩,
    fun word ret value s m world outer ha hd => ?_, fun word ret s m world hunknown hperform => ?_,
    fun i inst word value s m world outer hi ho ha => ?_⟩
  · have hrun := passes_queryRouter outside origin hp w hsize query hd word value s m world ha
    rw [BitVec.ofNat_toNat, BitVec.setWidth_eq] at hrun
    exact hrun.reaches₁.to_reflTransGen
  · exact (passes_queryRouter_failure outside origin hp w hsize query word ret s m world hunknown
      hperform).reaches₁.to_reflTransGen
  · exact (passes_querySite outside origin hp w hsize query hi ho m world word value s
      ha).reaches₁.to_reflTransGen

end

/-- An image that answers the size of account 7 from its table, also with the high bits of the word
set, and asks for that of account 8. -/
theorem looksUp_two_accounts : ∃ patcher image,
    Patcher.new { accounts := AddressMap.empty.insert 7 ⟨2, 0⟩ } ⟨0⟩ = .ok patcher ∧
    patcher.patch [0x3b, 0x00] = .ok image ∧ image.length ≤ 2 ^ 256 ∧
    LooksUp (.sizing fun _ => 3) 0 patcher firstScope [0x3b, 0x00] image .size ∧
    ∀ s m data outer,
      (Reaches (((Outside.sizing fun _ => 3).machine 0).step image)
        (.running (expansionStart patcher firstScope [0x3b, 0x00] 0)
          ⟨BitVec.ofNat 256 (2 ^ 200 + 7) :: s, m, ⟨data, outer⟩⟩)
        (.running (expansionStart patcher firstScope [0x3b, 0x00] 1) ⟨2 :: s, m, ⟨data, outer⟩⟩)) ∧
      Reaches (((Outside.sizing fun _ => 3).machine 0).step image)
        (.running (expansionStart patcher firstScope [0x3b, 0x00] 0)
          ⟨BitVec.ofNat 256 (2 ^ 200 + 8) :: s, m, ⟨data, outer⟩⟩)
        (.running (expansionStart patcher firstScope [0x3b, 0x00] 1)
          ⟨3 :: s, m, ⟨data, outer⟩⟩) := by
  obtain ⟨patcher, image, hp, himg, hl⟩ := exists_image_of_length ⟨0⟩ firstScope [0x3b, 0x00]
    { accounts := AddressMap.empty.insert 7 ⟨2, 0⟩ } (by decide) (by decide) (by decide)
  have hsize : image.length ≤ 2 ^ 256 := Nat.le_trans hl (by decide)
  have hlooks := looksUp_of_patchFrom (.sizing fun _ => 3) 0 hp (by decide) himg hsize .size
  refine ⟨patcher, image, hp, himg, hsize, hlooks, fun s m data outer => ⟨?_, ?_⟩⟩
  · have hknown : patcher.options.accounts.find?
        ((BitVec.ofNat 256 (2 ^ 200 + 7)).setWidth 160) = some ⟨2, 0⟩ := by
      rw [(assembled_of_new hp).1]
      decide
    exact hlooks.site 0 _ _ _ s m ⟨data, outer⟩ _ rfl rfl (.known hknown)
  · have hunknown : patcher.options.accounts.find?
        ((BitVec.ofNat 256 (2 ^ 200 + 8)).setWidth 160) = none := by
      rw [(assembled_of_new hp).1]
      decide
    have hperform : (Outside.sizing fun _ => 3).perform CodeQuery.size.opcode
        [((BitVec.ofNat 256 (2 ^ 200 + 8)).setWidth 160).setWidth 256] [] outer =
          some ⟨3, fun _ => 0, [], outer⟩ := rfl
    have hanswer := Answered.real hunknown hperform
    exact hlooks.site 0 _ _ _ s m ⟨data, outer⟩ _ rfl rfl hanswer

end Patcher

end EvmProbe
