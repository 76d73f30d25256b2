import EvmProbe.Proofs.Image.Expansion

/-!
The sections of an image.

Behind the zeros an image holds nothing but instructions (`instrumented`): the runtime, the library
and the routers.

* `sections_flatten`: an image is the preamble, the deployed code, the zeros and these
  instructions.
* `isRegular_instrumented`: all of these are opcodes of the machine, labels stand at JUMPDESTs and
  references are pushed in three bytes.
* `patchFrom_ok`: an image is written from its sections as one linked code.
-/

namespace EvmProbe

open Linking

namespace Patcher

/-- Where the runtime of an image starts: behind the preamble, the deployed code and the zeros. -/
def runtimeStart (code : Bytes) : Nat := Environment.preambleSize + code.length + padding

/-- The first scope of the expansions. -/
def innerScope (first : Scope) (code : Bytes) : Scope :=
  first.after (scopesOf (disassemble first code))

/-- The scope of the jump router. -/
def routerScope (first : Scope) (code : Bytes) : Scope :=
  (innerScope first code).after (disassemble first code).length

section
variable (patcher : Patcher) (first : Scope) (code : Bytes)

/-- The expansion of an instruction of a program, which has an index there. -/
def expansion (site : Instruction × Nat) : List Instruction :=
  patcher.expand code.length ((innerScope first code).after site.2) site.1

/-- The expansions of a decoded program, in order. -/
def expansions : List Instruction :=
  (disassemble first code).zipIdx.flatMap (patcher.expansion first code)

/-- The runtime of an image. -/
def runtime : List Instruction :=
  Image.runtimeEntry :: patcher.expansions first code ++ [.plain .stop]

/-- What an image holds behind the zeros. -/
def instrumented : List Instruction := ((patcher.sections first code).drop 3).flatten

/-- What an image holds in front of the runtime. -/
def leading : List Instruction :=
  patcher.fragments.get .preamble ++ [.data code, .data (List.replicate padding 0)]

/-- Behind the zeros come the runtime, the library and the routers. -/
theorem instrumented_eq : patcher.instrumented first code =
    patcher.runtime first code ++ Fragment.library.flatMap patcher.fragments.get ++
      Image.jumpRouter (routerScope first code) (patcher.runtime first code) ++
      (Image.accountRouters ((routerScope first code).after 1)
        patcher.options.accounts).flatten := by
  have hr : Image.runtime patcher.settings patcher.fragments code.length (innerScope first code)
      (disassemble first code) = patcher.runtime first code := rfl
  simp only [instrumented, sections, List.cons_append, List.nil_append, List.drop_succ_cons,
    List.drop_zero, List.flatten_append, List.flatten_cons, List.flatten_nil, List.append_nil,
    List.flatMap]
  rw [← hr]
  simp only [List.append_assoc]
  rfl

/-- **An image is the preamble, the deployed code, the zeros and instructions.** -/
theorem sections_flatten : (patcher.sections first code).flatten =
    patcher.leading code ++ patcher.instrumented first code := by
  conv_lhs => rw [← List.take_append_drop 3 (patcher.sections first code), List.flatten_append]
  rfl

end

section
variable {patcher : Patcher} {base first : Scope} {code : Bytes}

theorem preamble_eq (hp : patcher.Assembled base) : patcher.fragments.get .preamble =
    [(Instruction.pushLabel (.pushN 3) (.global "runtime")).inScope base,
      (Instruction.plain .jump).inScope base] := by
  rw [hp]
  rfl

/-- The runtime starts behind what is in front of it. -/
theorem codeSize_leading (hp : patcher.Assembled base) :
    codeSize (patcher.leading code) = runtimeStart code := by
  rw [leading, codeSize_append, preamble_eq hp]
  simp only [codeSize_cons, codeSize_nil, Instruction.data, Instruction.size, List.length_replicate]
  rfl

/-! ## Where expansions stand -/

/-- The offset in an image where the expansion of the instruction of index `i` starts. -/
def expansionStart (patcher : Patcher) (first : Scope) (code : Bytes) (i : Nat) : Nat :=
  runtimeStart code + 1 +
    codeSize (((disassemble first code).zipIdx.take i).flatMap (patcher.expansion first code))

theorem expansions_eq {i : Nat} {site : Instruction}
    (hi : (disassemble first code)[i]? = some site) : patcher.expansions first code =
      ((disassemble first code).zipIdx.take i).flatMap (patcher.expansion first code) ++
        (patcher.expansion first code (site, i) ++
          ((disassemble first code).zipIdx.drop (i + 1)).flatMap
            (patcher.expansion first code)) := by
  have hget : (disassemble first code).zipIdx[i]? = some (site, i) := by
    rw [List.getElem?_zipIdx, hi]
    simp
  obtain ⟨hlt, hget⟩ := List.getElem?_eq_some_iff.1 hget
  rw [← hget, ← List.flatMap_cons, ← List.drop_eq_getElem_cons hlt, ← List.flatMap_append,
    List.take_append_drop]
  rfl

theorem liesAt_runtime (first : Scope) (code : Bytes) (hp : patcher.Assembled base) :
    LiesAt (patcher.leading code ++ patcher.instrumented first code) (runtimeStart code)
      (patcher.runtime first code) := by
  refine ⟨patcher.leading code, Fragment.library.flatMap patcher.fragments.get ++
    (Image.jumpRouter (routerScope first code) (patcher.runtime first code) ++
      (Image.accountRouters ((routerScope first code).after 1) patcher.options.accounts).flatten),
    ?_, codeSize_leading hp⟩
  simp only [instrumented_eq, List.append_assoc]

theorem liesAt_expansion (hp : patcher.Assembled base) {i : Nat} {site : Instruction}
    (hi : (disassemble first code)[i]? = some site) :
    LiesAt (patcher.leading code ++ patcher.instrumented first code)
      (expansionStart patcher first code i) (patcher.expansion first code (site, i)) := by
  have hl := liesAt_runtime first code hp
  rw [runtime, expansions_eq hi] at hl
  exact hl.left.tail.right.left

/-- An expansion stands in an image from its start on. -/
theorem standsAt_expansion (hp : patcher.Assembled base) {i k : Nat} {site inst : Instruction}
    (hi : (disassemble first code)[i]? = some site)
    (h : StandsAt (patcher.expansion first code (site, i)) k inst) :
    StandsAt (patcher.leading code ++ patcher.instrumented first code)
      (expansionStart patcher first code i + k) inst :=
  (liesAt_expansion hp hi).standsAt h

/-! ## Regularity -/

/-- An instruction of a program is the decoded one of some offset. -/
theorem exists_isDecoded {inst : Instruction} (h : inst ∈ disassemble first code) :
    ∃ offset byte immediate, IsDecoded offset byte immediate inst := by
  obtain ⟨k, byte, immediate, -, hd⟩ := (decoded_disassemble first code).of_mem h
  exact ⟨0 + k, byte, immediate, hd⟩

theorem mem_expansions {i : Instruction} : i ∈ patcher.expansions first code ↔
    ∃ inst j, (disassemble first code)[j]? = some inst ∧
      i ∈ patcher.expansion first code (inst, j) := by
  simp only [expansions, List.mem_flatMap, Prod.exists, List.mk_mem_zipIdx_iff_getElem?]

theorem isRegular_runtime (hp : patcher.Assembled base) :
    ∀ i ∈ patcher.runtime first code, i.isRegular := by
  intro i hi
  simp only [runtime, List.cons_append, List.mem_cons, List.mem_append, List.not_mem_nil,
    or_false] at hi
  rcases hi with rfl | hi | rfl
  · rfl
  · obtain ⟨inst, j, hj, hi⟩ := mem_expansions.1 hi
    obtain ⟨_, _, _, hd⟩ := exists_isDecoded (List.mem_of_getElem? hj)
    exact isRegular_expand hp hd i hi
  · rfl

/-- What the jump router holds, it holds for a single destination. -/
theorem mem_jumpRouter {scope : Scope} {runtime : List Instruction} {inst : Instruction}
    (h : inst ∈ Image.jumpRouter scope runtime) :
    ∃ d, inst ∈ Image.jumpRouter scope [{ opcode := .jumpdest, source := some d }] := by
  have hone (d : Nat) :
      Image.destinations [{ opcode := .jumpdest, source := some d }] = [d] := rfl
  obtain ⟨own, hown, rfl⟩ := List.mem_map.1 h
  have hin (d : Nat) (hm : own = (Instruction.plain .jumpdest).labelled (.global "jump-router") ∨
      own ∈ Image.jumpCase d ∨ own = .plain .invalid) : own.inScope scope ∈
      Image.jumpRouter scope [{ opcode := .jumpdest, source := some d }] :=
    List.mem_map_of_mem (by simpa [hone] using hm)
  simp only [List.cons_append, List.mem_cons, List.mem_append, List.mem_flatMap, List.not_mem_nil,
    or_false] at hown
  rcases hown with hentry | ⟨d, -, hcase⟩ | hend
  · exact ⟨0, hin 0 (.inl hentry)⟩
  · exact ⟨d, hin d (.inr (.inl hcase))⟩
  · exact ⟨0, hin 0 (.inr (.inr hend))⟩

theorem isRegular_jumpRouter (scope : Scope) (runtime : List Instruction) :
    ∀ i ∈ Image.jumpRouter scope runtime, i.isRegular := by
  intro i hi
  obtain ⟨d, hd⟩ := mem_jumpRouter hi
  exact List.all_eq_true.1 (by rfl : (Image.jumpRouter scope _).all Instruction.isRegular = true)
    i hd

/-- What the account routers consist of, with the test for one account, which has index `i`. -/
def accountParts (address : Address) (code : DeployedCode) (i : Nat) : List Instruction :=
  Image.routerEntry "extcodesize-router" ++ Image.routerEntry "extcodehash-router" ++
    Image.routerEntry "extcodecopy-router" ++ Image.matchAddress address (Image.skipLabel i) ++
    [.plain .pop, .pushInt (.pushN 3) code.size, .pushBytes (.pushN 32) (wordBytes code.hash),
      .plain (.swapN 1), .plain .jump, .pushLabel (.pushN 3) (.lexical "copy"),
      (Instruction.plain .jumpdest).labelled (Image.skipLabel i)] ++
    [.plain .extcodesize, .plain .extcodehash, .plain .extcodecopy] ++ Image.copyDeployed

theorem mem_accountCases {accounts : Accounts} {answer : DeployedCode → List Instruction}
    {inst : Instruction} (h : inst ∈ Image.accountCases accounts answer) : ∃ address code i,
    inst ∈ Image.matchAddress address (Image.skipLabel i) ++ answer code ++
      [(Instruction.plain .jumpdest).labelled (Image.skipLabel i)] := by
  obtain ⟨⟨⟨address, code⟩, i⟩, -, h⟩ := List.mem_flatMap.1 h
  exact ⟨address, code, i, h⟩

theorem mem_wordRouter {name : String} {opcode : Opcode} {answer : DeployedCode → Instruction}
    {accounts : Accounts} {inst : Instruction}
    (h : inst ∈ Image.wordRouter name opcode answer accounts) : ∃ address code i,
    inst ∈ Image.routerEntry name ++ Image.matchAddress address (Image.skipLabel i) ++
      [.plain .pop, answer code, .plain (.swapN 1), .plain .jump,
        (Instruction.plain .jumpdest).labelled (Image.skipLabel i), .plain opcode] := by
  simp only [Image.wordRouter, List.mem_append] at h
  rcases h with (hentry | hcase) | hend
  · exact ⟨0, ⟨0, 0⟩, 0, by simp [hentry]⟩
  · obtain ⟨address, code, i, hm⟩ := mem_accountCases hcase
    exact ⟨address, code, i, by simp at hm ⊢; grind⟩
  · exact ⟨0, ⟨0, 0⟩, 0, by simp at hend ⊢; grind⟩

/-- What the account routers hold, they hold for a single account. -/
theorem mem_accountRouters {scope : Scope} {accounts : Accounts} {inst : Instruction}
    (h : inst ∈ (Image.accountRouters scope accounts).flatten) :
    ∃ own address code i, inst ∈ duplicate own (accountParts address code i) := by
  obtain ⟨router, hr, hm⟩ := List.mem_flatten.1 h
  have hcopy {own : Scope} {inst : Instruction} (ho : ∃ address code i,
      inst ∈ accountParts address code i) : ∃ other address code i,
      inst.inScope own ∈ duplicate other (accountParts address code i) := by
    obtain ⟨address, code, i, ho⟩ := ho
    exact ⟨own, address, code, i, List.mem_map_of_mem ho⟩
  simp only [Image.accountRouters, List.mem_cons, List.not_mem_nil, or_false] at hr
  rcases hr with rfl | rfl | rfl <;> obtain ⟨own, ho, rfl⟩ := List.mem_map.1 hm <;>
    refine hcopy ?_
  · obtain ⟨address, code, i, ho⟩ := mem_wordRouter ho
    exact ⟨address, code, i, by simp [accountParts] at ho ⊢; grind⟩
  · obtain ⟨address, code, i, ho⟩ := mem_wordRouter ho
    exact ⟨address, code, i, by simp [accountParts] at ho ⊢; grind⟩
  · simp only [Image.extcodecopyRouter, List.mem_append] at ho
    rcases ho with ((hentry | hcase) | hend) | hcopies
    · exact ⟨0, ⟨0, 0⟩, 0, by simp [accountParts, hentry]⟩
    · obtain ⟨address, code, i, ho⟩ := mem_accountCases hcase
      exact ⟨address, code, i, by simp [accountParts] at ho ⊢; grind⟩
    · exact ⟨0, ⟨0, 0⟩, 0, by simp [accountParts] at hend ⊢; grind⟩
    · exact ⟨0, ⟨0, 0⟩, 0, by simp [accountParts, hcopies]⟩

theorem isRegular_accountRouters (scope : Scope) (accounts : Accounts) :
    ∀ i ∈ (Image.accountRouters scope accounts).flatten, i.isRegular := by
  intro i hi
  obtain ⟨own, address, code, index, hm⟩ := mem_accountRouters hi
  exact List.all_eq_true.1 (by rfl : (duplicate own _).all Instruction.isRegular = true) i hm

/-- **What an image holds behind the zeros is opcodes of the machine**; labels stand at JUMPDESTs,
and references are pushed in three bytes. -/
theorem isRegular_instrumented (hp : patcher.Assembled base) :
    ∀ i ∈ patcher.instrumented first code, i.isRegular := by
  intro i hi
  simp only [instrumented_eq, List.mem_append, List.mem_flatMap] at hi
  rcases hi with ((hi | ⟨fragment, -, hi⟩) | hi) | hi
  · exact isRegular_runtime hp i hi
  · rw [hp] at hi
    exact Fragment.isRegular_code _ _ _ i hi
  · exact isRegular_jumpRouter _ _ i hi
  · exact isRegular_accountRouters _ _ i hi

/-- A reference is pushed in three bytes. -/
theorem opcode_of_reference? (hp : patcher.Assembled base) {inst : Instruction} {label : Label}
    (hm : inst ∈ patcher.leading code ++ patcher.instrumented first code)
    (hr : reference? inst = some label) : inst.opcode = .pushN 3 := by
  rcases List.mem_append.1 hm with hm | hm
  · rw [leading, preamble_eq hp] at hm
    simp only [List.cons_append, List.nil_append, List.mem_cons, List.not_mem_nil, or_false] at hm
    rcases hm with rfl | rfl | rfl | rfl
    · rfl
    all_goals cases hr
  · exact (Instruction.isRegular_iff.1 (isRegular_instrumented hp inst hm)).2.2 _ hr

/-- What declares a label is a JUMPDEST behind the zeros. -/
theorem exists_standsAt_of_label (hp : patcher.Assembled base) {target : Nat} {decl : Instruction}
    {label : Label}
    (hat : StandsAt (patcher.leading code ++ patcher.instrumented first code) target decl)
    (hl : decl.label = some label) : decl.opcode = .jumpdest ∧ ∃ k,
      target = runtimeStart code + k ∧ StandsAt (patcher.instrumented first code) k decl := by
  rcases standsAt_append.1 hat with h | ⟨k, hk, h⟩
  · have hm := h.mem
    rw [leading, preamble_eq hp] at hm
    simp only [List.cons_append, List.nil_append, List.mem_cons, List.not_mem_nil, or_false] at hm
    rcases hm with rfl | rfl | rfl | rfl <;> cases hl
  · have hr := Instruction.isRegular_iff.1 (isRegular_instrumented hp decl h.mem)
    exact ⟨hr.2.1 _ hl, k, by rw [hk, codeSize_leading hp], h⟩

/-! ## Written sections -/

/-- **An image is written from its sections as one linked code.** -/
theorem patchFrom_ok {image : Bytes} (hc : code ≠ [])
    (h : patcher.patchFrom first code = .ok image) :
    ∃ table, Written (patcher.leading code ++ patcher.instrumented first code) table image := by
  unfold patchFrom at h
  rw [if_neg (by simpa using hc)] at h
  dsimp only at h
  split at h
  · cases h
  · split at h
    · next encoded he =>
      cases h
      rw [← sections_flatten]
      exact encodeSections_ok he
    · cases h

end

end Patcher

end EvmProbe
