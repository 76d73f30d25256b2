import EvmProbe.Proofs.Image.Accounts
import EvmProbe.Proofs.Image.CodeCopy

/-!
What an image copies of the code of accounts.

An account of the table carries an image, which has the account's original code behind its preamble.
The router for EXTCODECOPY fills what it was asked for with zeros, from behind the end of the
calldata, and copies from the image no more than there is original code.  So it leaves in memory
what EXTCODECOPY would, had the account its original code.

* `Outside.Standard`: an outside in which the opcodes that the router uses have their meaning.
* `StandsFor`: the code that an address stands for.
* `Tail.passes_copyDeployed`, `Tail.passes_extcodecopyRouter`: what the router leaves in memory.
* `copiesOriginals_of_patchFrom`: it does so in every image, and for every site.
-/

namespace EvmProbe

open Bytecode Linking StateTransition

theorem codeByte_of_length_le {code : Bytes} {offset : Nat} (h : code.length ≤ offset) :
    codeByte code offset = 0 := by
  rw [codeByte, List.getD_eq_getElem?_getD, List.getElem?_eq_none h, Option.getD_none]

/-! ## The opcodes that are used -/

/-- An outside in which the opcodes that copy calldata and code have their meaning. -/
structure Outside.Standard {Ω : Type} (outside : Outside Ω) (calldata : Ω → Bytes)
    (codeOf : Ω → Address → Bytes) : Prop where
  /-- The size of calldata is a word. -/
  calldatasize : ∀ outer, ∃ effect, outside.perform .calldatasize [] [] outer = some effect ∧
    effect.word.toNat = (calldata outer).length ∧ effect.outer = outer
  /-- Behind the calldata there are zeros. -/
  calldatacopy : ∀ dst src size outer, ∃ effect,
    outside.perform .calldatacopy [dst, src, size] [] outer = some effect ∧
    (∀ index < size.toNat, effect.bytes index = codeByte (calldata outer) (src.toNat + index)) ∧
    effect.outer = outer
  /-- Of a word that names an account, the low 160 bits count. -/
  extcodecopy : ∀ account dst src size outer, ∃ effect,
    outside.perform .extcodecopy [account, dst, src, size] [] outer = some effect ∧
    (∀ index < size.toNat, effect.bytes index =
      codeByte (codeOf outer (account.setWidth 160)) (src.toNat + index)) ∧ effect.outer = outer
  /-- The size of code is a word. -/
  codeSize_lt : ∀ outer address, (codeOf outer address).length < 2 ^ 256

namespace Outside

/-- An outside with fixed calldata and accounts, in which every call fails. -/
def holding (calldata : Bytes) (codeOf : Address → Bytes) : Outside Unit where
  call _ _ _ _ _ outer := ⟨false, [], outer⟩
  meter _ _ := 0
  perform
    | .calldatasize, _, _, outer =>
      some ⟨BitVec.ofNat 256 calldata.length, fun _ => 0, [], outer⟩
    | .calldatacopy, [_, src, _], _, outer =>
      some ⟨0, fun index => codeByte calldata (src.toNat + index), [], outer⟩
    | .extcodecopy, [account, _, src, _], _, outer =>
      some ⟨0, fun index => codeByte (codeOf (account.setWidth 160)) (src.toNat + index), [], outer⟩
    | _, _, _, outer => some ⟨0, fun _ => 0, [], outer⟩

theorem standard_holding {calldata : Bytes} {codeOf : Address → Bytes}
    (hd : calldata.length < 2 ^ 256) (hc : ∀ address, (codeOf address).length < 2 ^ 256) :
    (holding calldata codeOf).Standard (fun _ => calldata) (fun _ => codeOf) where
  calldatasize _ := ⟨_, rfl, Nat.mod_eq_of_lt hd, rfl⟩
  calldatacopy _ _ _ _ := ⟨_, rfl, fun _ _ => rfl, rfl⟩
  extcodecopy _ _ _ _ _ := ⟨_, rfl, fun _ _ => rfl, rfl⟩
  codeSize_lt _ address := hc address

namespace Standard
variable {Ω : Type} {outside : Outside Ω} {calldata : Ω → Bytes} {codeOf : Ω → Address → Bytes}
  (std : outside.Standard calldata codeOf) (dst src size : Word) (world : World Ω)
include std

/-- **EXTCODECOPY** writes what it extracts from the code of the account. -/
theorem act_extcodecopy (origin : Address) (value account : Word) (s : List Word) (m : Memory) :
    (outside.machine origin).act .extcodecopy value ⟨account :: dst :: src :: size :: s, m, world⟩ =
      .ok ⟨s, m.write dst.toNat (extracted (codeOf world.outer (account.setWidth 160)) src size),
        world⟩ := by
  obtain ⟨effect, hperform, hbytes, houter⟩ := std.extcodecopy account dst src size world.outer
  have hmap : (List.range size.toNat).map effect.bytes =
      extracted (codeOf world.outer (account.setWidth 160)) src size :=
    List.map_congr_left fun index hi => hbytes index (List.mem_range.1 hi)
  rw [Outside.act_extcodecopy, hperform]
  dsimp only
  rw [hmap, houter]

/-- A copy from behind the end of the calldata gives zeros. -/
theorem exists_zeros : ∃ sized filled,
    outside.perform .calldatasize [] [] world.outer = some sized ∧
    outside.perform .calldatacopy [dst, sized.word, size] [] sized.outer = some filled ∧
    (∀ index < size.toNat, filled.bytes index = 0) ∧ filled.outer = world.outer := by
  obtain ⟨sized, hsized, hlength, hsame⟩ := std.calldatasize world.outer
  obtain ⟨filled, hfilled, hbytes, houter⟩ := std.calldatacopy dst sized.word size sized.outer
  refine ⟨sized, filled, hsized, hfilled, fun index hi => ?_, houter.trans hsame⟩
  rw [hbytes index hi, hlength, hsame]
  exact codeByte_of_length_le (Nat.le_add_right _ _)

end Standard

end Outside

/-! ## The code that accounts stand for -/

/-- The code that is meant when the code of an address is asked for. -/
inductive StandsFor (accounts : Accounts) (codeOf : Address → Bytes) (address : Address) :
    Bytes → Prop where
  /-- An account of the table stands for the code that its image holds behind the preamble. -/
  | carried {known : DeployedCode} {front original rest : Bytes}
      (hknown : accounts.find? address = some known) (hsize : known.size = original.length)
      (hfront : front.length = Environment.preambleSize)
      (hcode : codeOf address = front ++ original ++ rest) :
      StandsFor accounts codeOf address original
  /-- An account without original code may have any code. -/
  | bare {known : DeployedCode} (hknown : accounts.find? address = some known)
      (hsize : known.size = 0) : StandsFor accounts codeOf address []
  /-- Every other account stands for its own code. -/
  | own (hunknown : accounts.find? address = none) :
      StandsFor accounts codeOf address (codeOf address)

theorem codeByte_carried {front original rest : Bytes} {index : Nat}
    (h : index < original.length) :
    codeByte (front ++ original ++ rest) (front.length + index) = codeByte original index := by
  rw [List.append_assoc, codeByte_append_right, codeByte_append_left _ h]

/-- What an account of the table stands for is short, and its code holds it behind the preamble. -/
theorem StandsFor.holds {accounts : Accounts} {codeOf : Address → Bytes} {address : Address}
    {original : Bytes} {known : DeployedCode} (h : StandsFor accounts codeOf address original)
    (hlt : (codeOf address).length < 2 ^ 256) (hknown : accounts.find? address = some known) :
    known.size = original.length ∧ Environment.preambleSize + original.length < 2 ^ 256 ∧
      ∀ index < original.length,
        codeByte (codeOf address) (Environment.preambleSize + index) = codeByte original index := by
  cases h with
  | carried hk hsize hfront hcode =>
    cases hknown.symm.trans hk
    rw [hcode] at hlt ⊢
    refine ⟨hsize, ?_, fun index hi => hfront ▸ codeByte_carried hi⟩
    rw [List.length_append, List.length_append, hfront] at hlt
    omega
  | bare hk hsize =>
    cases hknown.symm.trans hk
    exact ⟨hsize, by decide, fun index hi => absurd hi (Nat.not_lt_zero index)⟩
  | own hn => cases hknown.symm.trans hn

namespace Patcher

/-- Where the router for EXTCODECOPY starts: behind the other two. -/
def copyRouterStart (patcher : Patcher) (first : Scope) (code : Bytes) : Nat :=
  routerStart patcher first code +
    codeSize (Image.jumpRouter (routerScope first code) (patcher.runtime first code)) +
    codeSize ((Image.accountRouters ((routerScope first code).after 1)
      patcher.options.accounts).take 2).flatten

section
variable {Ω : Type} {outside : Outside Ω} {calldata : Ω → Bytes} {codeOf : Ω → Address → Bytes}
  (std : outside.Standard calldata codeOf) (origin : Address) {patcher : Patcher}
  {base first scope : Scope} {code image original : Bytes} {table : Table} {start target : Nat}
  (hp : patcher.Assembled base)

/-! ## The router -/

theorem tail_extcodecopyRouter (first : Scope) (code : Bytes) (hp : patcher.Assembled base) :
    Tail patcher first code (copyRouterStart patcher first code)
      (duplicate (((routerScope first code).after 1).after 2)
        (Image.extcodecopyRouter patcher.options.accounts)) := by
  have tail := tail_accountRouters first code hp
  have hsplit : (Image.accountRouters ((routerScope first code).after 1)
      patcher.options.accounts).flatten =
      ((Image.accountRouters ((routerScope first code).after 1)
        patcher.options.accounts).take 2).flatten ++
      duplicate (((routerScope first code).after 1).after 2)
        (Image.extcodecopyRouter patcher.options.accounts) := by
    simp only [Image.accountRouters, List.take_succ_cons, List.take_zero, List.flatten_cons,
      List.flatten_nil, List.append_nil, List.append_assoc]
  rw [hsplit] at tail
  exact tail.right

section
variable (w : Written (patcher.leading code ++ patcher.instrumented first code) table image)
  (hsize : image.length ≤ 2 ^ 256)
include std hp w hsize

/-- **The copy of deployed code** leaves in memory what is extracted from the original code: what is
filled with zeros and not written again lies behind its end. -/
theorem Tail.passes_copyDeployed
    (tail : Tail patcher first code start (duplicate scope Image.copyDeployed))
    (hd : IsDestination image target) {len account : Word} (hlen : len.toNat = original.length)
    (world : World Ω) (hlt : Environment.preambleSize + original.length < 2 ^ 256)
    (hholds : ∀ index < original.length, codeByte (codeOf world.outer (account.setWidth 160))
      (Environment.preambleSize + index) = codeByte original index)
    (dst src size : Word) (s : List Word) (m : Memory) :
    (outside.machine origin).Passes image (OffSite patcher first code)
      (.running start
        ⟨len :: account :: dst :: src :: size :: BitVec.ofNat 256 target :: s, m, world⟩)
      (.running target ⟨s, m.write dst.toNat (extracted original src size), world⟩) := by
  obtain ⟨sized, filled, hsized, hfilled, hzeros, houter⟩ := std.exists_zeros dst size world
  have hworld : (⟨world.returnData, filled.outer⟩ : World Ω) = world := by rw [houter]
  have hfill := tail.stays_zeroFill outside origin hp w hsize account dst src size len
    (BitVec.ofNat 256 target) s m world hsized hfilled
  rw [hworld] at hfill
  have hbehind (index : Nat) (h : original.length ≤ src.toNat + index) (hi : index < size.toNat) :
      filled.bytes index = codeByte original (src.toNat + index) := by
    rw [hzeros index hi, codeByte_of_length_le h]
  by_cases hsrc : src < len
  · rw [if_pos hsrc] at hfill
    have hsub : (len - src).toNat = original.length - src.toNat := by
      rw [BitVec.toNat_sub_of_le (BitVec.le_of_lt hsrc), hlen]
    have hle : src.toNat < original.length := hlen ▸ hsrc
    have hsource : (5#256 + src).toNat = Environment.preambleSize + src.toNat := by
      rw [BitVec.toNat_add, show (5#256).toNat = Environment.preambleSize from rfl]
      exact Nat.mod_eq_of_lt (by omega)
    generalize hcount : copied size (len - src) = count at *
    have hcopied : count.toNat = min size.toNat (original.length - src.toNat) := by
      rw [← hcount, ← hsub, toNat_copied]
    obtain ⟨effect, hperform, hbytes, hsame⟩ :=
      std.extcodecopy account dst (5#256 + src) count world.outer
    have hcopy := tail.stays_copyCount outside origin w account dst src size len count
      (BitVec.ofNat 256 target) s
      (m.write dst.toNat ((List.range size.toNat).map filled.bytes)) world hperform
    have hfront (index : Nat) (hi : index < count.toNat) :
        effect.bytes index = codeByte original (src.toNat + index) := by
      rw [hbytes index hi, hsource, Nat.add_assoc]
      exact hholds _ (by omega)
    have hrest (index : Nat) (hi : count.toNat ≤ index) (hlt : index < size.toNat) :
        filled.bytes index = codeByte original (src.toNat + index) := hbehind index (by omega) hlt
    have hmemory := m.write_write_range dst.toNat (hcopied ▸ Nat.min_le_left _ _) hfront hrest
    rw [hmemory, hsame] at hcopy
    have hsize' := tail.stays_copySize outside origin hp w hsize account dst src size len
      (BitVec.ofNat 256 target) s
      (m.write dst.toNat ((List.range size.toNat).map filled.bytes)) world
    rw [hcount] at hsize'
    exact (hfill.trans (hsize'.trans hcopy)).passes
      (tail.passes_copyDone outside origin w hsize account dst src size len s _ world hd)
  · rw [if_neg hsrc] at hfill
    have hge : original.length ≤ src.toNat := hlen ▸ Nat.not_lt.1 hsrc
    have hmap : (List.range size.toNat).map filled.bytes = extracted original src size :=
      List.map_congr_left fun index hi => hbehind index (by omega) (List.mem_range.1 hi)
    rw [hmap] at hfill
    exact hfill.passes
      (tail.passes_copyDone outside origin w hsize account dst src size len s _ world hd)

/-- **The router leaves in memory what is extracted from the code that the address stands for.** -/
theorem Tail.passes_extcodecopyRouter {accounts : Accounts} (tail : Tail patcher first code start
      (duplicate scope (Image.extcodecopyRouter accounts)))
    (hd : IsDestination image target) (word dst src size : Word) (s : List Word) (m : Memory)
    (world : World Ω) (hs : StandsFor accounts (codeOf world.outer) (word.setWidth 160) original) :
    (outside.machine origin).Passes image (OffSite patcher first code)
      (.running start ⟨word :: dst :: src :: size :: BitVec.ofNat 256 target :: s, m, world⟩)
      (.running target ⟨s, m.write dst.toNat (extracted original src size), world⟩) := by
  rw [Image.extcodecopyRouter, duplicate_append, duplicate_append] at tail
  have hentry := tail.left.left.stays_routerEntry outside origin hp w hsize word
    (dst :: src :: size :: BitVec.ofNat 256 target :: s) m world
  have hword : ((word.setWidth 160).setWidth 256).setWidth 160 = word.setWidth 160 := by simp
  cases hknown : accounts.find? (word.setWidth 160) with
  | some known =>
    obtain ⟨hlen, hlt, hholds⟩ := hs.holds (std.codeSize_lt _ _) hknown
    obtain ⟨position, hcase, hrun⟩ := hentry.1 known hknown
    have hpush := hcase.stays_run (outside.machine origin)
      ⟨(word.setWidth 160).setWidth 256 :: dst :: src :: size :: BitVec.ofNat 256 target :: s, m,
        world⟩
      ⟨BitVec.ofNat 256 known.size :: (word.setWidth 160).setWidth 256 :: dst :: src :: size ::
        BitVec.ofNat 256 target :: s, m, world⟩ w (n := 0) (k := 1) (by decide) rfl rfl (by simp)
    have hgoto := hcase.stays_goto (n := 1) (outside.machine origin) hp w hsize
      ⟨BitVec.ofNat 256 known.size :: (word.setWidth 160).setWidth 256 :: dst :: src :: size ::
        BitVec.ofNat 256 target :: s, m, world⟩ rfl
      (tail.right.entry_address (n := 0) w rfl rfl) (tail.right.behind _ (Nat.le_refl _))
    exact (hrun.trans (hpush.trans hgoto)).passes (tail.right.passes_copyDeployed std origin hp w
      hsize hd ((Nat.mod_eq_of_lt (by omega)).trans hlen) world hlt (by rwa [hword]) dst src size
      s m)
  | none =>
    obtain rfl : original = codeOf world.outer (word.setWidth 160) := by
      cases hs with
      | carried hk => cases hknown.symm.trans hk
      | bare hk => cases hknown.symm.trans hk
      | own => rfl
    refine (hentry.2 hknown).passes (tail.left.right.passes_return (outside.machine origin) w hsize
      _ (n := 0) (k := 1) (by decide) rfl rfl ?_ hd)
    simp [std.act_extcodecopy]

end

/-! ## Every image -/

/-- How an image copies the code of accounts. -/
structure CopiesOriginals {Ω : Type} (outside : Outside Ω) (codeOf : Ω → Address → Bytes)
    (origin : Address) (patcher : Patcher) (first : Scope) (code image : Bytes) : Prop where
  /-- The router is where its label is declared. -/
  entry : ∃ inst, IsPlaced patcher first code (copyRouterStart patcher first code) inst ∧
    inst.label = some (.global "extcodecopy-router")
  /-- The router leaves in memory what is extracted from the code that the address stands for, and
  returns. -/
  router : ∀ word dst src size ret s m world original,
    StandsFor patcher.options.accounts (codeOf world.outer) (word.setWidth 160) original →
    IsDestination image ret.toNat →
    Reaches ((outside.machine origin).step image)
      (.running (copyRouterStart patcher first code)
        ⟨word :: dst :: src :: size :: ret :: s, m, world⟩)
      (.running ret.toNat ⟨s, m.write dst.toNat (extracted original src size), world⟩)
  /-- For an account that is not in the table it gets to an EXTCODECOPY with the same operands. -/
  real : ∀ word dst src size ret s m world,
    patcher.options.accounts.find? (word.setWidth 160) = none →
    ∃ position, image[position]? = some 0x3c ∧ Reaches ((outside.machine origin).step image)
      (.running (copyRouterStart patcher first code)
        ⟨word :: dst :: src :: size :: ret :: s, m, world⟩)
      (.running position
        ⟨(word.setWidth 160).setWidth 256 :: dst :: src :: size :: ret :: s, m, world⟩)
  /-- The patch of EXTCODECOPY does the same in place of the opcode. -/
  site : ∀ i inst word dst src size s m world original, (disassemble first code)[i]? = some inst →
    inst.opcode = .extcodecopy →
    StandsFor patcher.options.accounts (codeOf world.outer) (word.setWidth 160) original →
    Reaches ((outside.machine origin).step image)
      (.running (expansionStart patcher first code i) ⟨word :: dst :: src :: size :: s, m, world⟩)
      (.running (expansionStart patcher first code (i + 1))
        ⟨s, m.write dst.toNat (extracted original src size), world⟩)

include std in
/-- **An image copies original code**, for every table and on every machine in which the opcodes
have their meaning. -/
theorem copiesOriginals_of_patchFrom {options : PatchOptions}
    (hp : Patcher.new options base = .ok patcher) (hc : code ≠ [])
    (h : patcher.patchFrom first code = .ok image) (hsize : image.length ≤ 2 ^ 256) :
    CopiesOriginals outside codeOf origin patcher first code image := by
  have hp := (assembled_of_new hp).2
  obtain ⟨table, w⟩ := patchFrom_ok hc h
  have tail := tail_extcodecopyRouter first code hp
  refine ⟨?_, fun word dst src size ret s m world original hs hd => ?_,
    fun word dst src size ret s m world hn => ?_,
    fun i inst word dst src size s m world original hi ho hs => ?_⟩
  · exact ⟨_, isPlaced_of_standsAt tail.lies.head, rfl⟩
  · have hret : BitVec.ofNat 256 ret.toNat = ret := by simp
    have hrun := tail.passes_extcodecopyRouter std origin hp w hsize hd word dst src size s m
      world hs
    rw [hret] at hrun
    exact hrun.reaches₁.to_reflTransGen
  · rw [Image.extcodecopyRouter, duplicate_append, duplicate_append] at tail
    have hrun := (tail.left.left.stays_routerEntry outside origin hp w hsize word
      (dst :: src :: size :: ret :: s) m world).2 hn
    refine ⟨_, ?_, hrun.1.reaches₁.to_reflTransGen⟩
    obtain ⟨rest, hdrop⟩ := w.drop_eq tail.left.right.lies.head
    rw [← Nat.add_zero (_ + _), ← List.getElem?_drop, hdrop]
    rfl
  · obtain ⟨back, hd, -, henter, hleave⟩ := stays_extcodecopy_enter outside origin hp w hi hsize m
      world ho (tail.entry_address (n := 0) w rfl rfl) (tail.behind _ (Nat.le_refl _)) word dst src
      size s
    have hrun := tail.passes_extcodecopyRouter std origin hp w hsize hd word dst src size s m
      world hs
    exact (henter.passes hrun).reaches₁.to_reflTransGen.trans (hleave _).reaches₁.to_reflTransGen

end

/-- Accounts of which one holds two bytes of original code, behind a preamble and in front of a
STOP. -/
def heldBySeven (address : Address) : Bytes :=
  if address = 7 then [0x62, 0x00, 0x00, 0x08, 0x56, 0xaa, 0xbb, 0x00] else []

/-- An image that copies the second of the two bytes, with zeros behind it and the high bits of the
address set. -/
theorem copiesOriginals_second_byte : ∃ patcher image,
    Patcher.new { accounts := AddressMap.empty.insert 7 ⟨2, 0⟩ } ⟨0⟩ = .ok patcher ∧
    patcher.patch [0x3c, 0x00] = .ok image ∧ image.length ≤ 2 ^ 256 ∧
    (Outside.holding [0x01] heldBySeven).Standard (fun _ => [0x01]) (fun _ => heldBySeven) ∧
    CopiesOriginals (.holding [0x01] heldBySeven) (fun _ => heldBySeven) 0 patcher firstScope
      [0x3c, 0x00] image ∧
    ∀ s m world, Reaches (((Outside.holding [0x01] heldBySeven).machine 0).step image)
      (.running (expansionStart patcher firstScope [0x3c, 0x00] 0)
        ⟨BitVec.ofNat 256 (2 ^ 200 + 7) :: 0x40 :: 1 :: 3 :: s, m, world⟩)
      (.running (expansionStart patcher firstScope [0x3c, 0x00] 1)
        ⟨s, m.write 0x40 [0xbb, 0x00, 0x00], world⟩) := by
  obtain ⟨patcher, image, hp, himg, hl⟩ := exists_image_of_length ⟨0⟩ firstScope [0x3c, 0x00]
    { accounts := AddressMap.empty.insert 7 ⟨2, 0⟩ } (by decide) (by decide) (by decide)
  have hsize : image.length ≤ 2 ^ 256 := Nat.le_trans hl (by decide)
  have std : (Outside.holding [0x01] heldBySeven).Standard
      (fun _ => [0x01]) (fun _ => heldBySeven) :=
    Outside.standard_holding (by decide) fun address => by
      unfold heldBySeven
      split <;> decide
  have hcopies := copiesOriginals_of_patchFrom std 0 hp (by decide) himg hsize
  refine ⟨patcher, image, hp, himg, hsize, std, hcopies, fun s m world => ?_⟩
  have hstands : StandsFor patcher.options.accounts heldBySeven 7 [0xaa, 0xbb] := by
    rw [(assembled_of_new hp).1]
    have hknown : (AddressMap.empty.insert 7 ⟨2, 0⟩).find? (7 : Address) =
      some (⟨2, 0⟩ : DeployedCode) := by decide
    have hcode : heldBySeven 7 = [0x62, 0x00, 0x00, 0x08, 0x56] ++ [0xaa, 0xbb] ++ [0x00] := rfl
    exact .carried hknown rfl rfl hcode
  have hword : (BitVec.ofNat 256 (2 ^ 200 + 7)).setWidth 160 = (7 : Address) := by decide
  rw [← hword] at hstands
  exact hcopies.site 0 _ _ 0x40 1 3 s m world _ rfl rfl hstands

end Patcher

end EvmProbe
