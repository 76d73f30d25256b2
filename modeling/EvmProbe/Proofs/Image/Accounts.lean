import EvmProbe.Proofs.Image.Reporting

/-!
The routers that answer for other accounts, and the patches that enter them.

A router drops the bits of an address above its 160, and compares it with those of the accounts of
its table in turn.

* `stays_accountCases`: the tests go to the answer for the account, or behind the last test.
* `passes_wordRouter`, `passes_wordRouter_unknown`: EXTCODESIZE and EXTCODEHASH.
* `passes_extcodecopyRouter`: EXTCODECOPY writes where it was asked to, and nothing else.
-/

namespace EvmProbe

open Bytecode Linking

attribute [simp] Instruction.plain Instruction.pushInt Instruction.pushBytes Instruction.pushLabel
  Instruction.labelled Instruction.inScope duplicate

/-! ## Addresses as words -/

/-- The words of two addresses are equal only if the addresses are. -/
theorem setWidth_address_inj {a b : Address} : a.setWidth 256 = b.setWidth 256 ↔ a = b := by
  refine ⟨fun h => ?_, fun h => h ▸ rfl⟩
  have := congrArg (·.setWidth 160) h
  simpa using this

/-- Masking a word leaves the address in it. -/
theorem and_mask (word : Word) :
    BitVec.ofNat 256 (ofBigEndian (List.replicate 20 0xff)) &&& word =
      (word.setWidth 160).setWidth 256 := by
  have hones : ofBigEndian (List.replicate 20 0xff) = 2 ^ 160 - 1 := by decide
  refine BitVec.eq_of_getLsbD_eq fun i hi => ?_
  rw [BitVec.getLsbD_and, BitVec.getLsbD_ofNat, hones, Nat.testBit_two_pow_sub_one]
  simp [hi]

theorem duplicate_append (scope : Scope) (a b : List Instruction) :
    duplicate scope (a ++ b) = duplicate scope a ++ duplicate scope b :=
  List.map_append

namespace Patcher

section
variable {Ω : Type} (outside : Outside Ω) (origin : Address) {patcher : Patcher}
  {base first scope : Scope} {code image : Bytes} {table : Table} {start target : Nat}
  (hp : patcher.Assembled base)

/-! ## Segments of routers -/

/-- A stretch of instructions behind all expansions. -/
structure Tail (patcher : Patcher) (first : Scope) (code : Bytes) (start : Nat)
    (block : List Instruction) : Prop extends Segment patcher first code start block where
  behind : ∀ p, start ≤ p → OffSite patcher first code p

theorem Tail.left {block rest : List Instruction}
    (tail : Tail patcher first code start (block ++ rest)) : Tail patcher first code start block :=
  ⟨tail.toSegment.left, tail.behind⟩

theorem Tail.right {block rest : List Instruction}
    (tail : Tail patcher first code start (block ++ rest)) :
    Tail patcher first code (start + codeSize block) rest :=
  ⟨tail.toSegment.right, fun p h => tail.behind p (by omega)⟩

theorem Tail.of_mem {groups : List (List Instruction)} {group : List Instruction}
    (tail : Tail patcher first code start groups.flatten) (h : group ∈ groups) :
    ∃ start, Tail patcher first code start group := by
  obtain ⟨before, after, rfl⟩ := List.append_of_mem h
  rw [List.flatten_append, List.flatten_cons] at tail
  exact ⟨_, tail.right.left⟩

/-- The routers for accounts stand behind all expansions, behind the jump router. -/
theorem tail_accountRouters (first : Scope) (code : Bytes) (hp : patcher.Assembled base) :
    Tail patcher first code (routerStart patcher first code +
        codeSize (Image.jumpRouter (routerScope first code) (patcher.runtime first code)))
      (Image.accountRouters ((routerScope first code).after 1)
        patcher.options.accounts).flatten where
  lies := by
    refine ⟨patcher.leading code ++ patcher.runtime first code ++
      Fragment.library.flatMap patcher.fragments.get ++
        Image.jumpRouter (routerScope first code) (patcher.runtime first code), [],
      by simp [instrumented_eq], ?_⟩
    rw [codeSize_append, codeSize_append, codeSize_append, codeSize_leading hp]
    rfl
  sized inst hm := Instruction.size_pos_of_isRegular (isRegular_accountRouters _ _ inst hm)
  within p hl _ := offSite_routers hp (Nat.le_trans (Nat.le_add_right _ _) (Nat.le_of_lt hl))
  behind p hl := offSite_routers hp (Nat.le_trans (Nat.le_add_right _ _) hl)

/-- Every router stands behind all expansions. -/
theorem exists_tail_router (first : Scope) (code : Bytes) (hp : patcher.Assembled base)
    {router : List Instruction} (hr : router ∈ Image.accountRouters
      ((routerScope first code).after 1) patcher.options.accounts) :
    ∃ start, Tail patcher first code start router :=
  (tail_accountRouters first code hp).of_mem hr

/-! ## The tests of a router -/

section
variable (w : Written (patcher.leading code ++ patcher.instrumented first code) table image)
  (hsize : image.length ≤ 2 ^ 256)
include hp w hsize

/-- **One test of a router** goes on behind it for the account asked for, and else to a label. -/
theorem Tail.stays_matchAddress {address : Address} {skip : Label} (tail : Tail patcher first code
      start (duplicate scope (Image.matchAddress address skip)))
    (hskip : table[skip.entryIn scope]? = some target) (htarget : OffSite patcher first code target)
    (x : Address) (s : List Word) (m : Memory) (world : World Ω) :
    (outside.machine origin).Stays image (OffSite patcher first code)
      (.running start ⟨x.setWidth 256 :: s, m, world⟩)
      (.running (if x = address then
        start + codeSize (duplicate scope (Image.matchAddress address skip)) else target)
        ⟨x.setWidth 256 :: s, m, world⟩) := by
  have htest := tail.stays_run (outside.machine origin) ⟨x.setWidth 256 :: s, m, world⟩
    ⟨flag (flag (address.setWidth 256 = x.setWidth 256) = 0) :: x.setWidth 256 :: s, m, world⟩ w
    (n := 0) (k := 4) (by decide) rfl rfl (by simp [Image.matchAddress])
  have hbranch := tail.passes_branch (n := 4) (outside.machine origin) hp w hsize
    ⟨x.setWidth 256 :: s, m, world⟩ rfl hskip
    (flag (flag (address.setWidth 256 = x.setWidth 256) = 0))
  have hzero : flag (flag (address.setWidth 256 = x.setWidth 256) = 0) = 0 ↔ x = address := by
    rw [flag_eq_zero, flag_eq_zero, Decidable.not_not, setWidth_address_inj, eq_comm]
  simp only [hzero] at hbranch
  refine htest.trans ⟨hbranch, ?_⟩
  split
  · exact tail.behind _ (Nat.le_add_right _ _)
  · exact htarget

omit hp hsize in
/-- Instructions behind all expansions are run one after the other. -/
theorem Tail.stays_block {μ ω : Type} (machine : Machine μ ω) (frame next : Frame μ ω)
    {block : List Instruction} (tail : Tail patcher first code start block) (hne : block ≠ [])
    (hplain : block.all Instruction.isPlain) (h : machine.runBlock table block frame = .ok next) :
    machine.Stays image (OffSite patcher first code) (.running start frame)
      (.running (start + codeSize block) next) := by
  have hrun := tail.passes_run machine frame next w (n := 0) (k := block.length)
    (List.length_pos_iff.2 hne) (by simp) (by simpa using hplain) (by simpa using h)
  rw [Nat.zero_add, address_length] at hrun
  exact ⟨hrun, tail.behind _ (Nat.le_add_right _ _)⟩

/-- **The tests of a router**, one after the other, go to the answer for the account asked for, and
behind the last test if there is none. -/
theorem Tail.stays_accountCases {answer : DeployedCode → List Instruction}
    {entries : List (Address × DeployedCode)} {k : Nat} {earlier : State Memory (World Ω)}
    (tail : Tail patcher first code start (duplicate scope ((entries.zipIdx k).flatMap
      fun ((address, code), i) => Image.matchAddress address (Image.skipLabel i) ++ answer code ++
        [(Instruction.plain .jumpdest).labelled (Image.skipLabel i)])))
    (x : Address) (s : List Word) (m : Memory) (world : World Ω)
    (hrun : (outside.machine origin).Stays image (OffSite patcher first code) earlier
      (.running start ⟨x.setWidth 256 :: s, m, world⟩)) :
    (∀ known, entries.lookup x = some known → ∃ position,
      Tail patcher first code position (duplicate scope (answer known)) ∧
      (outside.machine origin).Stays image (OffSite patcher first code) earlier
        (.running position ⟨x.setWidth 256 :: s, m, world⟩)) ∧
    (entries.lookup x = none →
      (outside.machine origin).Stays image (OffSite patcher first code) earlier
        (.running (start + codeSize (duplicate scope ((entries.zipIdx k).flatMap
          fun ((address, code), i) => Image.matchAddress address (Image.skipLabel i) ++
            answer code ++ [(Instruction.plain .jumpdest).labelled (Image.skipLabel i)])))
          ⟨x.setWidth 256 :: s, m, world⟩)) := by
  induction entries generalizing k start earlier with
  | nil => exact ⟨fun known h => by simp at h, fun _ => hrun⟩
  | cons entry entries ih =>
    obtain ⟨address, known⟩ := entry
    rw [List.zipIdx_cons, List.flatMap_cons] at tail ⊢
    dsimp only at tail ⊢
    rw [duplicate_append, duplicate_append, duplicate_append] at tail ⊢
    -- behind the test stand the answer, the label that is gone to if there is another account, and
    -- the other tests
    have hlabel := tail.left.right
    have hskip : table[(Image.skipLabel k).entryIn scope]? = _ :=
      hlabel.entry_address (n := 0) w rfl rfl
    have htest := hrun.trans (tail.left.left.left.stays_matchAddress outside origin hp w hsize hskip
      (hlabel.behind _ (Nat.le_refl _)) x s m world)
    rw [AddressMap.lookup_cons]
    by_cases h : x = address
    · rw [if_pos h] at htest ⊢
      exact ⟨fun _ hk => by cases hk; exact ⟨_, tail.left.left.right, htest⟩, fun hn => by cases hn⟩
    · rw [if_neg h] at htest ⊢
      have hnext := htest.trans (hlabel.stays_block w (outside.machine origin) _ _
        (List.cons_ne_nil _ _) rfl rfl)
      rw [Nat.add_assoc, ← codeSize_append] at hnext
      have hrest := ih tail.right hnext
      rwa [Nat.add_assoc, ← codeSize_append] at hrest

/-- The entry of a router leaves the address on the stack, and the tests go on from there. -/
theorem Tail.stays_routerEntry {name : String} {answer : DeployedCode → List Instruction}
    {accounts : Accounts} (tail : Tail patcher first code start
      (duplicate scope (Image.routerEntry name ++ Image.accountCases accounts answer)))
    (word : Word) (s : List Word) (m : Memory) (world : World Ω) :
    (∀ known, accounts.find? (word.setWidth 160) = some known → ∃ position,
      Tail patcher first code position (duplicate scope (answer known)) ∧
      (outside.machine origin).Stays image (OffSite patcher first code)
        (.running start ⟨word :: s, m, world⟩)
        (.running position ⟨(word.setWidth 160).setWidth 256 :: s, m, world⟩)) ∧
    (accounts.find? (word.setWidth 160) = none →
      (outside.machine origin).Stays image (OffSite patcher first code)
        (.running start ⟨word :: s, m, world⟩)
        (.running (start + codeSize (duplicate scope
          (Image.routerEntry name ++ Image.accountCases accounts answer)))
          ⟨(word.setWidth 160).setWidth 256 :: s, m, world⟩)) := by
  rw [duplicate_append] at tail ⊢
  have hentry := tail.left.stays_block w (outside.machine origin) ⟨word :: s, m, world⟩
    ⟨(word.setWidth 160).setWidth 256 :: s, m, world⟩ (List.cons_ne_nil _ _) rfl (by
      rw [← and_mask]
      simp [Image.routerEntry])
  have h := tail.right.stays_accountCases outside origin hp w hsize
    (word.setWidth 160) s m world hentry
  rwa [Nat.add_assoc, ← codeSize_append] at h

/-! ## Routers that answer with a word -/

section
variable {name : String} {opcode : Opcode} {answer : DeployedCode → Instruction}
  {accounts : Accounts} (tail : Tail patcher first code start
    (duplicate scope (Image.wordRouter name opcode answer accounts)))
  (word : Word) (s : List Word) (m : Memory) (world : World Ω)
include tail

/-- **A known account is answered from the table.** -/
theorem passes_wordRouter (hd : IsDestination image target) {known : DeployedCode} {value : Word}
    (hknown : accounts.find? (word.setWidth 160) = some known)
    (hplain : ((answer known).inScope scope).isPlain)
    (hanswer : ∀ frame : Frame Memory (World Ω), (outside.machine origin).act
      ((answer known).inScope scope).opcode (((answer known).inScope scope).word table) frame =
        .ok (frame.push value)) :
    (outside.machine origin).Passes image (OffSite patcher first code)
      (.running start ⟨word :: BitVec.ofNat 256 target :: s, m, world⟩)
      (.running target ⟨value :: s, m, world⟩) := by
  rw [Image.wordRouter, duplicate_append] at tail
  obtain ⟨position, hcase, hrun⟩ := (tail.left.stays_routerEntry outside origin hp w hsize word
    (BitVec.ofNat 256 target :: s) m world).1 known hknown
  refine hrun.passes (hcase.passes_return (outside.machine origin) w hsize _ (n := 0) (k := 3)
    (by decide) ?_ rfl ?_ hd)
  · simp only [duplicate, List.map_cons, List.drop_zero, List.take_succ_cons, List.take_zero,
      List.all_cons, hplain]
    rfl
  · simp only [duplicate, List.map_cons, List.drop_zero, List.take_succ_cons, List.take_zero]
    rw [Machine.runBlock_cons]
    show (outside.machine origin).runBlock table _ ⟨BitVec.ofNat 256 target :: s, m, world⟩ = _
    rw [Machine.runBlock_cons, hanswer]
    rfl

section
variable (ho : opcode = .extcodesize ∨ opcode = .extcodehash)
  (hunknown : accounts.find? (word.setWidth 160) = none)
include ho hunknown

/-- **An account that is not known is asked for with the opcode itself.** -/
theorem passes_wordRouter_unknown (hd : IsDestination image target) {effect : Effect Ω}
    (hperform : outside.perform opcode [(word.setWidth 160).setWidth 256] [] world.outer =
      some effect) :
    (outside.machine origin).Passes image (OffSite patcher first code)
      (.running start ⟨word :: BitVec.ofNat 256 target :: s, m, world⟩)
      (.running target ⟨effect.word :: s, m, ⟨world.returnData, effect.outer⟩⟩) := by
  rw [Image.wordRouter, duplicate_append] at tail
  have hrun := (tail.left.stays_routerEntry outside origin hp w hsize word
    (BitVec.ofNat 256 target :: s) m world).2 hunknown
  have hact := outside.act_query origin 0#256 ((word.setWidth 160).setWidth 256)
    (BitVec.ofNat 256 target :: s) m world ho
  rw [hperform] at hact
  refine hrun.passes (tail.right.passes_return (outside.machine origin) w hsize _ (n := 0) (k := 2)
    (by decide) ?_ rfl ?_ hd)
  · rcases ho with rfl | rfl <;> rfl
  · simp [hact]

/-- The router fails if the opcode does. -/
theorem passes_wordRouter_failure
    (hperform : outside.perform opcode [(word.setWidth 160).setWidth 256] [] world.outer = none)
    (ret : Word) :
    (outside.machine origin).Passes image (OffSite patcher first code)
      (.running start ⟨word :: ret :: s, m, world⟩) (.halted (.failed m world)) := by
  rw [Image.wordRouter, duplicate_append] at tail
  have hrun := (tail.left.stays_routerEntry outside origin hp w hsize word
    (ret :: s) m world).2 hunknown
  have hact := outside.act_query origin 0#256 ((word.setWidth 160).setWidth 256)
    (ret :: s) m world ho
  rw [hperform] at hact
  refine hrun.passes (tail.right.passes_halt (outside.machine origin) _ _ w (n := 0) (k := 1)
    (by decide) rfl ?_ ?_)
  · rcases ho with rfl | rfl <;> rfl
  · simp [hact]

end

end

/-! ## The copy of deployed code -/

/-- How much is copied: the smaller of what is asked for and what there is. -/
def copied (size available : Word) : Word := if size < available then size else available

omit hp w hsize in
theorem toNat_copied (size available : Word) :
    (copied size available).toNat = min size.toNat available.toNat := by
  unfold copied
  split
  · next h => exact (Nat.min_eq_left (Nat.le_of_lt h)).symm
  · next h => exact (Nat.min_eq_right (Nat.not_lt.1 h)).symm

section
variable (tail : Tail patcher first code start (duplicate scope Image.copyDeployed))
  (x dst src size len count ret : Word) (s : List Word) (m : Memory) (world : World Ω)
include tail

/-- **The region is filled first**, from behind the end of the calldata; then the router goes on
unless there is nothing to copy. -/
theorem Tail.stays_zeroFill {sized filled : Effect Ω}
    (h : outside.perform .calldatasize [] [] world.outer = some sized)
    (h' : outside.perform .calldatacopy [dst, sized.word, size] [] sized.outer = some filled) :
    (outside.machine origin).Stays image (OffSite patcher first code)
      (.running start ⟨len :: x :: dst :: src :: size :: ret :: s, m, world⟩)
      (.running (if src < len then address start (duplicate scope Image.copyDeployed) 11
          else address start (duplicate scope Image.copyDeployed) 33)
        ⟨len :: x :: dst :: src :: size :: ret :: s,
          m.write dst.toNat ((List.range size.toNat).map filled.bytes),
          ⟨world.returnData, filled.outer⟩⟩) := by
  obtain ⟨hdone, hoffdone⟩ := tail.inner_label (n := 33) w rfl rfl (by decide)
  let m' := m.write dst.toNat ((List.range size.toNat).map filled.bytes)
  have hfill := tail.stays_run (outside.machine origin)
    ⟨len :: x :: dst :: src :: size :: ret :: s, m, world⟩
    ⟨flag (flag (src < len) = 0#256) :: len :: x :: dst :: src :: size :: ret :: s, m',
      ⟨world.returnData, filled.outer⟩⟩ w (n := 0) (k := 9) (by decide) rfl rfl
    (by simp [Image.copyDeployed, Outside.act_calldatasize, Outside.act_copy, h, h', m'])
  have hbranch := tail.stays_branch (n := 9) (outside.machine origin) hp w hsize
    ⟨len :: x :: dst :: src :: size :: ret :: s, m', ⟨world.returnData, filled.outer⟩⟩
    rfl hdone hoffdone (flag (flag (src < len) = 0#256))
  have hzero : flag (flag (src < len) = 0#256) = 0 ↔ src < len := by
    rw [flag_eq_zero]
    exact (not_congr flag_eq_zero).trans Decidable.not_not
  simp only [hzero] at hbranch
  exact hfill.trans hbranch

/-- Of what is asked for and what there is, the smaller one is left on the stack. -/
theorem Tail.stays_copySize :
    (outside.machine origin).Stays image (OffSite patcher first code)
      (.running (address start (duplicate scope Image.copyDeployed) 11)
        ⟨len :: x :: dst :: src :: size :: ret :: s, m, world⟩)
      (.running (address start (duplicate scope Image.copyDeployed) 26)
        ⟨copied size (len - src) :: len :: x :: dst :: src :: size :: ret :: s, m, world⟩) := by
  obtain ⟨huse, hoffuse⟩ := tail.inner_label (n := 23) w rfl rfl (by decide)
  obtain ⟨hhave, hoffhave⟩ := tail.inner_label (n := 26) w rfl rfl (by decide)
  have htest := tail.stays_run (outside.machine origin)
    ⟨len :: x :: dst :: src :: size :: ret :: s, m, world⟩
    ⟨flag (size < len - src) :: size :: (len - src) :: len :: x :: dst :: src :: size :: ret :: s,
      m, world⟩ w (n := 11) (k := 7) (by decide) rfl rfl (by simp [Image.copyDeployed])
  have hbranch := tail.stays_branch (n := 18) (outside.machine origin) hp w hsize
    ⟨size :: (len - src) :: len :: x :: dst :: src :: size :: ret :: s, m, world⟩ rfl huse hoffuse
    (flag (size < len - src))
  simp only [flag_eq_zero, ite_not] at hbranch
  unfold copied
  by_cases h : size < len - src
  · rw [if_pos h] at hbranch ⊢
    have hswap := tail.stays_run (outside.machine origin)
      ⟨size :: (len - src) :: len :: x :: dst :: src :: size :: ret :: s, m, world⟩
      ⟨size :: len :: x :: dst :: src :: size :: ret :: s, m, world⟩ w (n := 23) (k := 3)
      (by decide) rfl rfl (by simp [Image.copyDeployed])
    exact htest.trans (hbranch.trans hswap)
  · rw [if_neg h] at hbranch ⊢
    have hpop := tail.stays_run (outside.machine origin)
      ⟨size :: (len - src) :: len :: x :: dst :: src :: size :: ret :: s, m, world⟩
      ⟨(len - src) :: len :: x :: dst :: src :: size :: ret :: s, m, world⟩ w (n := 20) (k := 1)
      (by decide) rfl rfl (by simp [Image.copyDeployed])
    have hgoto := tail.stays_goto (n := 21) (outside.machine origin) hp w hsize
      ⟨(len - src) :: len :: x :: dst :: src :: size :: ret :: s, m, world⟩ rfl hhave hoffhave
    exact htest.trans (hbranch.trans (hpop.trans hgoto))

omit hp hsize in
/-- The copy itself, from behind the preamble. -/
theorem Tail.stays_copyCount {effect : Effect Ω}
    (h : outside.perform .extcodecopy [x, dst, 5#256 + src, count] [] world.outer = some effect) :
    (outside.machine origin).Stays image (OffSite patcher first code)
      (.running (address start (duplicate scope Image.copyDeployed) 26)
        ⟨count :: len :: x :: dst :: src :: size :: ret :: s, m, world⟩)
      (.running (address start (duplicate scope Image.copyDeployed) 33)
        ⟨len :: x :: dst :: src :: size :: ret :: s,
          m.write dst.toNat ((List.range count.toNat).map effect.bytes),
          ⟨world.returnData, effect.outer⟩⟩) :=
  tail.stays_run (outside.machine origin) _ _ w (n := 26) (k := 7) (by decide) rfl rfl
    (by simp [Image.copyDeployed, Outside.act_extcodecopy, Environment.preambleSize, h])

omit hp in
/-- Behind the copy, the router returns. -/
theorem Tail.passes_copyDone (hd : IsDestination image target) :
    (outside.machine origin).Passes image (OffSite patcher first code)
      (.running (address start (duplicate scope Image.copyDeployed) 33)
        ⟨len :: x :: dst :: src :: size :: BitVec.ofNat 256 target :: s, m, world⟩)
      (.running target ⟨s, m, world⟩) :=
  tail.passes_return (outside.machine origin) w hsize _ (n := 33) (k := 6) (by decide) rfl rfl
    (by simp [Image.copyDeployed]) hd

end

/-! ## The router that copies code -/

/-- A run comes back having written into one region of memory only, or fails. -/
def Copies (outside : Outside Ω) (origin : Address) (patcher : Patcher) (first : Scope)
    (code image : Bytes) (start : State Memory (World Ω)) (low high : Nat) (m : Memory)
    (next : Memory → Ω → State Memory (World Ω)) : Prop :=
  (∃ m' outer, m.ChangesWithin low high m' ∧ (outside.machine origin).Stays image
      (OffSite patcher first code) start (next m' outer)) ∨
    ∃ outcome, (outside.machine origin).Passes image (OffSite patcher first code) start
      (.halted outcome)

omit hp w hsize in
theorem Copies.prepend {earlier start : State Memory (World Ω)} {low high : Nat} {m m' : Memory}
    {next : Memory → Ω → State Memory (World Ω)} (hm : m.ChangesWithin low high m')
    (h : (outside.machine origin).Stays image (OffSite patcher first code) earlier start)
    (h' : Copies outside origin patcher first code image start low high m' next) :
    Copies outside origin patcher first code image earlier low high m next := by
  obtain ⟨m'', outer, hc, hrun⟩ | ⟨outcome, hrun⟩ := h'
  · exact .inl ⟨m'', outer, hm.trans hc, h.trans hrun⟩
  · exact .inr ⟨outcome, h.passes hrun⟩

section
variable (tail : Tail patcher first code start (duplicate scope Image.copyDeployed))
  (hd : IsDestination image target) (htarget : OffSite patcher first code target)
  (x dst src size len count : Word) (s : List Word) (m : Memory) (world : World Ω)
include tail hd htarget

omit hp in
/-- Behind the copy, the router drops what is left of its operands and returns. -/
theorem stays_copyDone : (outside.machine origin).Stays image (OffSite patcher first code)
    (.running (address start (duplicate scope Image.copyDeployed) 33)
      ⟨len :: x :: dst :: src :: size :: BitVec.ofNat 256 target :: s, m, world⟩)
    (.running target ⟨s, m, world⟩) :=
  ⟨tail.passes_copyDone outside origin w hsize x dst src size len s m world hd, htarget⟩

omit hp in
/-- The copy itself, of no more than was asked for. -/
theorem copies_copyCount (hcount : count.toNat ≤ size.toNat) :
    Copies outside origin patcher first code image
      (.running (address start (duplicate scope Image.copyDeployed) 26)
        ⟨count :: len :: x :: dst :: src :: size :: BitVec.ofNat 256 target :: s, m, world⟩)
      dst.toNat (dst.toNat + size.toNat) m
      fun m outer => .running target ⟨s, m, ⟨world.returnData, outer⟩⟩ := by
  cases h : outside.perform .extcodecopy [x, dst, 5#256 + src, count] [] world.outer with
  | none =>
    exact .inr (tail.exists_passes_halted (outside.machine origin) _ w (n := 26) (k := 7)
      (by decide) rfl rfl
      (by simp [Image.copyDeployed, Outside.act_extcodecopy, Environment.preambleSize, h]))
  | some effect =>
    have hrun := tail.stays_copyCount outside origin w x dst src size len count
      (BitVec.ofNat 256 target) s m world h
    have hchange : m.ChangesWithin dst.toNat (dst.toNat + size.toNat)
        (m.write dst.toNat ((List.range count.toNat).map effect.bytes)) :=
      .write m (Nat.le_refl _) (by simpa using hcount)
    exact .inl ⟨_, effect.outer, hchange, hrun.trans
      (stays_copyDone outside origin w hsize tail hd htarget x dst src size len s _ _)⟩

/-- **The copy of deployed code**: zeros first, and then as much code as there is. -/
theorem copies_copyDeployed :
    Copies outside origin patcher first code image
      (.running start ⟨len :: x :: dst :: src :: size :: BitVec.ofNat 256 target :: s, m, world⟩)
      dst.toNat (dst.toNat + size.toNat) m
      fun m outer => .running target ⟨s, m, ⟨world.returnData, outer⟩⟩ := by
  cases h : outside.perform .calldatasize [] [] world.outer with
  | none =>
    exact .inr (tail.exists_passes_halted (outside.machine origin) _ w (n := 0) (k := 9)
      (by decide) rfl rfl (by simp [Image.copyDeployed, Outside.act_calldatasize, h]))
  | some sized =>
    cases h' : outside.perform .calldatacopy [dst, sized.word, size] [] sized.outer with
    | none =>
      exact .inr (tail.exists_passes_halted (outside.machine origin) _ w (n := 0) (k := 9)
        (by decide) rfl rfl (by simp [Image.copyDeployed, Outside.act_calldatasize,
          Outside.act_copy, h, h']))
    | some filled =>
      have hfill := tail.stays_zeroFill outside origin hp w hsize x dst src size len
        (BitVec.ofNat 256 target) s m world h h'
      have hchange : m.ChangesWithin dst.toNat (dst.toNat + size.toNat)
          (m.write dst.toNat ((List.range size.toNat).map filled.bytes)) :=
        .write m (Nat.le_refl _) (by simp)
      by_cases hlt : src < len
      · rw [if_pos hlt] at hfill
        have hcount := tail.stays_copySize outside origin hp w hsize x dst src size len
          (BitVec.ofNat 256 target) s (m.write dst.toNat ((List.range size.toNat).map filled.bytes))
          ⟨world.returnData, filled.outer⟩
        exact (copies_copyCount outside origin w hsize tail hd htarget x dst src size len _ s _ _
          (toNat_copied size (len - src) ▸ Nat.min_le_left _ _)).prepend outside origin
            hchange (hfill.trans hcount)
      · rw [if_neg hlt] at hfill
        exact .inl ⟨_, filled.outer, hchange, hfill.trans
          (stays_copyDone outside origin w hsize tail hd htarget x dst src size len s _ _)⟩

end

/-- **EXTCODECOPY writes where it was asked to**, whether it is answered from the table or not. -/
theorem copies_extcodecopyRouter {accounts : Accounts} (tail : Tail patcher first code start
      (duplicate scope (Image.extcodecopyRouter accounts)))
    (hd : IsDestination image target) (htarget : OffSite patcher first code target)
    (word dst src size : Word) (s : List Word) (m : Memory) (world : World Ω) :
    Copies outside origin patcher first code image
      (.running start ⟨word :: dst :: src :: size :: BitVec.ofNat 256 target :: s, m, world⟩)
      dst.toNat (dst.toNat + size.toNat) m
      fun m outer => .running target ⟨s, m, ⟨world.returnData, outer⟩⟩ := by
  rw [Image.extcodecopyRouter, duplicate_append, duplicate_append] at tail
  have hentry := tail.left.left.stays_routerEntry outside origin hp w hsize word
    (dst :: src :: size :: BitVec.ofNat 256 target :: s) m world
  cases hknown : accounts.find? (word.setWidth 160) with
  | some known =>
    obtain ⟨position, hcase, hrun⟩ := hentry.1 known hknown
    have hpush := hcase.stays_run (outside.machine origin)
      ⟨(word.setWidth 160).setWidth 256 :: dst :: src :: size :: BitVec.ofNat 256 target :: s, m,
        world⟩
      ⟨BitVec.ofNat 256 known.size :: (word.setWidth 160).setWidth 256 :: dst :: src :: size ::
        BitVec.ofNat 256 target :: s, m, world⟩ w (n := 0) (k := 1) (by decide) rfl rfl (by simp)
    have hgoto := hcase.stays_goto (n := 1) (outside.machine origin) hp w hsize
      ⟨BitVec.ofNat 256 known.size :: (word.setWidth 160).setWidth 256 :: dst :: src :: size ::
        BitVec.ofNat 256 target :: s, m, world⟩ rfl
      (tail.right.entry_address (n := 0) w rfl rfl) (tail.right.behind _ (Nat.le_refl _))
    exact (copies_copyDeployed outside origin hp w hsize tail.right hd htarget _ dst src size _ s m
      world).prepend outside origin (.refl _ _ _) (hrun.trans (hpush.trans hgoto))
  | none =>
    have hrun := hentry.2 hknown
    cases h : outside.perform .extcodecopy
        [(word.setWidth 160).setWidth 256, dst, src, size] [] world.outer with
    | none =>
      obtain ⟨outcome, hhalt⟩ := tail.left.right.exists_passes_halted (outside.machine origin)
        ⟨(word.setWidth 160).setWidth 256 :: dst :: src :: size :: BitVec.ofNat 256 target :: s, m,
          world⟩ w (n := 0) (k := 1) (by decide) rfl rfl (by simp [Outside.act_extcodecopy, h])
      exact .inr ⟨outcome, hrun.passes hhalt⟩
    | some effect =>
      have hchange : m.ChangesWithin dst.toNat (dst.toNat + size.toNat)
          (m.write dst.toNat ((List.range size.toNat).map effect.bytes)) :=
        .write m (Nat.le_refl _) (by simp)
      exact .inl ⟨_, effect.outer, hchange, hrun.trans (tail.left.right.stays_return
        (outside.machine origin) w hsize _ (n := 0) (k := 1) (by decide) rfl rfl
        (by simp [Outside.act_extcodecopy, h]) hd htarget)⟩

end

/-! ## Sites -/

section
variable (w : Written (patcher.leading code ++ patcher.instrumented first code) table image)
  {i : Nat} {inst : Instruction} (hi : (disassemble first code)[i]? = some inst)
  (hsize : image.length ≤ 2 ^ 256) (m : Memory) (world : World Ω)
include hp w hi hsize

/-- EXTCODESIZE and EXTCODEHASH enter their routers. -/
theorem stays_query_enter {fragment : Fragment} {name : String}
    (hr : Image.replaced? patcher.options.logsOnly inst.opcode = some fragment)
    (hcode : fragment.code patcher.options ((innerScope first code).after i) =
      duplicate ((innerScope first code).after i) [.pushLabel (.pushN 3) (.lexical "resume"),
        .plain (.swapN 1), .pushLabel (.pushN 3) (.global name), .plain .jump,
        (Instruction.plain .jumpdest).labelled (.lexical "resume")])
    (hrouter : table[(⟨none, name⟩ : Entry)]? = some target)
    (htarget : OffSite patcher first code target) (word : Word) (s : List Word) :
    ∃ back, IsDestination image back ∧ OffSite patcher first code back ∧
      (outside.machine origin).Stays image (OffSite patcher first code)
        (.running (expansionStart patcher first code i) ⟨word :: s, m, world⟩)
        (.running target ⟨word :: BitVec.ofNat 256 back :: s, m, world⟩) ∧
      ∀ frame, (outside.machine origin).Passes image (OffSite patcher first code)
        (.running back frame) (.running (expansionStart patcher first code (i + 1)) frame) := by
  obtain ⟨back, hback, hd, hoff, hleave⟩ :=
    exists_resume (k := 4) (outside.machine origin) hp w hi hr (by decide) (by rw [hcode]; rfl)
  have seg := segment_expansion hp hi
  rw [expansion_of_replaced hp hr, hcode] at seg
  have hpush := seg.stays_run (outside.machine origin) ⟨word :: s, m, world⟩
    ⟨word :: BitVec.ofNat 256 back :: s, m, world⟩ w (n := 0) (k := 2) (by decide) rfl rfl
    (by simp [entryOf_some, hback])
  exact ⟨back, hd, hoff, hpush.trans (seg.stays_goto (n := 2) (outside.machine origin) hp w hsize
    ⟨word :: BitVec.ofNat 256 back :: s, m, world⟩ rfl hrouter htarget), hleave⟩

/-- EXTCODECOPY enters its router, with the return address below its operands. -/
theorem stays_extcodecopy_enter (ho : inst.opcode = .extcodecopy)
    (hrouter : table[(⟨none, "extcodecopy-router"⟩ : Entry)]? = some target)
    (htarget : OffSite patcher first code target) (word dst src size : Word) (s : List Word) :
    ∃ back, IsDestination image back ∧ OffSite patcher first code back ∧
      (outside.machine origin).Stays image (OffSite patcher first code)
        (.running (expansionStart patcher first code i) ⟨word :: dst :: src :: size :: s, m, world⟩)
        (.running target ⟨word :: dst :: src :: size :: BitVec.ofNat 256 back :: s, m, world⟩) ∧
      ∀ frame, (outside.machine origin).Passes image (OffSite patcher first code)
        (.running back frame) (.running (expansionStart patcher first code (i + 1)) frame) := by
  have hr : Image.replaced? patcher.options.logsOnly inst.opcode = some .extcodecopyPatch := by
    rw [ho]
    rfl
  obtain ⟨back, hback, hd, hoff, hleave⟩ :=
    exists_resume (k := 7) (outside.machine origin) hp w hi hr (by decide) rfl
  have seg := segment_expansion hp hi
  rw [expansion_of_replaced hp hr] at seg
  have hpush := seg.stays_run (outside.machine origin) ⟨word :: dst :: src :: size :: s, m, world⟩
    ⟨word :: dst :: src :: size :: BitVec.ofNat 256 back :: s, m, world⟩ w (n := 0) (k := 5)
    (by decide) rfl rfl (by simp [Fragment.Template.extcodecopyPatch, entryOf_some, hback])
  exact ⟨back, hd, hoff, hpush.trans (seg.stays_goto (n := 5) (outside.machine origin) hp w hsize
    ⟨word :: dst :: src :: size :: BitVec.ofNat 256 back :: s, m, world⟩ rfl hrouter htarget),
    hleave⟩

/-- **EXTCODECOPY writes where it was asked to**, or fails. -/
theorem passes_extcodecopy (ho : inst.opcode = .extcodecopy) (stack : List Word) :
    (∃ stack' m' outer, m.ChangesWithin (Opcode.extcodecopy.writes stack).1.toNat
        ((Opcode.extcodecopy.writes stack).1.toNat + (Opcode.extcodecopy.writes stack).2.toNat) m' ∧
      (outside.machine origin).Passes image (OffSite patcher first code)
        (.running (expansionStart patcher first code i) ⟨stack, m, world⟩)
        (.running (expansionStart patcher first code (i + 1))
          ⟨stack', m', ⟨world.returnData, outer⟩⟩)) ∨
    ∃ outcome, (outside.machine origin).Passes image (OffSite patcher first code)
      (.running (expansionStart patcher first code i) ⟨stack, m, world⟩) (.halted outcome) := by
  match stack with
  | word :: dst :: src :: size :: s =>
    have hrouter : duplicate (((routerScope first code).after 1).after 2)
        (Image.extcodecopyRouter patcher.options.accounts) ∈
          Image.accountRouters ((routerScope first code).after 1) patcher.options.accounts :=
      List.mem_cons_of_mem _ (List.mem_cons_of_mem _ List.mem_cons_self)
    obtain ⟨start, tail⟩ := exists_tail_router first code hp hrouter
    obtain ⟨back, hd, hoff, henter, hleave⟩ :=
      stays_extcodecopy_enter outside origin hp w hi hsize m
      world ho (tail.entry_address (n := 0) w rfl rfl) (tail.behind _ (Nat.le_refl _)) word dst src
      size s
    obtain ⟨m', outer, hc, hrun⟩ | ⟨outcome, hrun⟩ :=
      copies_extcodecopyRouter outside origin hp w hsize tail hd hoff word dst src size s m world
    · exact .inl ⟨s, m', outer, hc, (henter.trans hrun).passes (hleave _)⟩
    · exact .inr ⟨outcome, henter.passes hrun⟩
  | [] | [_] | [_, _] | [_, _, _] =>
    have seg := segment_expansion hp hi
    rw [expansion_of_replaced hp (by rw [ho]; rfl)] at seg
    exact .inr (seg.exists_passes_halted (outside.machine origin) _ w (n := 0) (k := 2) (by decide)
      rfl rfl (by simp [Fragment.Template.extcodecopyPatch]))

end

end

end Patcher

end EvmProbe
