import EvmProbe.Proofs.Image.Labels

/-!
When there is an image.

Whatever the code and the options, the sections of an image link, and all that can go wrong is that
a number does not fit in the three bytes it is pushed in.

* `linkable_sections`: every label that an image refers to is declared, and none twice.
* `encodable_sections`: every other instruction has an encoding or pushes a number.
* `exists_of_patchFrom_eq_error`: if there is no image, then because of such a number.
* `exists_patchFrom`: there is an image if its sections take up no more than three bytes can count.
-/

namespace EvmProbe

open Linking

namespace Instruction

/-- A number that fits its push has an encoding. -/
theorem isSome_encoded?_pushInt {width value : Nat} (hw : 0 < (Opcode.pushN width).width)
    (hv : value < capacity (Opcode.pushN width).width) :
    (pushInt (.pushN width) value).encoded?.isSome := by
  have hb : (Opcode.pushN width).toByte?.isSome := by
    cases h : (Opcode.pushN width).toByte? with
    | none => simp [Opcode.width, h] at hw
    | some byte => rfl
  obtain ⟨byte, hb⟩ := Option.isSome_iff_exists.1 hb
  have ho : (pushInt (.pushN width) value).operand = some (.int (BitVec.ofNat 256 value)) := rfl
  rw [encoded?_int hb (Nat.ne_of_gt hw) ho]
  exact Option.isSome_iff_exists.2 ⟨_, if_pos (Nat.lt_of_le_of_lt (Nat.mod_le _ _) hv)⟩

/-- Bytes that fit their push have an encoding. -/
theorem isSome_encoded?_pushBytes {width : Nat} {bytes : Bytes}
    (hw : 0 < (Opcode.pushN width).width) (hl : bytes.length ≤ (Opcode.pushN width).width) :
    (pushBytes (.pushN width) bytes).encoded?.isSome := by
  unfold encoded? immediate?
  cases h : (Opcode.pushN width).toByte? with
  | none => simp [Opcode.width, h] at hw
  | some byte => simp [pushBytes, h, Nat.ne_of_gt hw, Operand.encode, hl, Except.toOption]

end Instruction

namespace Patcher

section
variable {patcher : Patcher} {base first : Scope} {code : Bytes}

/-! ## Encodings -/

/-- The offset of a decoded instruction lies within the code. -/
theorem source_lt {inst : Instruction} (hm : inst ∈ disassemble first code) {d : Nat}
    (hs : inst.source = some d) : d < code.length := by
  have hdec := decoded_disassemble first code
  obtain ⟨k, hat⟩ := StandsAt.exists_of_mem hm
  obtain ⟨byte, immediate, rest, -, -, hd⟩ := hdec.of_standsAt hat
  rw [hd.source, Option.some.injEq] at hs
  have := hat.add_size_le
  have := hd.size
  have := hdec.codeSize_le
  omega

/-- Whatever is no reference has an encoding in code, or pushes one of some numbers in three
bytes. -/
def Encodable (counted : Nat → Prop) (code : List Instruction) : Prop :=
  ∀ inst ∈ code, reference? inst = none → inst.encoded?.isSome ∨
    inst.opcode = .pushN 3 ∧ ∃ n, counted n ∧ inst.operand = some (.int (BitVec.ofNat 256 n))

section
variable {counted : Nat → Prop}

theorem Encodable.nil : Encodable counted [] := by
  intro inst hm
  cases hm

theorem Encodable.append {a b : List Instruction} (ha : Encodable counted a)
    (hb : Encodable counted b) : Encodable counted (a ++ b) :=
  fun inst hm => (List.mem_append.1 hm).elim (ha inst) (hb inst)

theorem Encodable.flatMap {α : Type} {l : List α} {f : α → List Instruction}
    (h : ∀ x ∈ l, Encodable counted (f x)) : Encodable counted (l.flatMap f) := by
  intro inst hm
  obtain ⟨x, hx, hm⟩ := List.mem_flatMap.1 hm
  exact h x hx inst hm

theorem Encodable.duplicate {group : List Instruction} (h : Encodable counted group)
    (scope : Scope) : Encodable counted (duplicate scope group) := by
  intro inst hm
  obtain ⟨i, hi, rfl⟩ := List.mem_map.1 hm
  exact h i hi

theorem Encodable.cons {inst : Instruction} {group : List Instruction}
    (hi : inst.encoded?.isSome) (h : Encodable counted group) :
    Encodable counted (inst :: group) := by
  intro i hm
  rcases List.mem_cons.1 hm with rfl | hm
  · exact fun _ => .inl hi
  · exact h i hm

/-- A number in front of code is one of those that are counted. -/
theorem Encodable.cons_pushInt {n : Nat} {group : List Instruction} (hn : counted n)
    (h : Encodable counted group) : Encodable counted (.pushInt (.pushN 3) n :: group) := by
  intro i hm
  rcases List.mem_cons.1 hm with rfl | hm
  · exact fun _ => .inr ⟨rfl, n, hn, rfl⟩
  · exact h i hm

/-- Code that is known but for numbers of no account is checked by evaluation. -/
theorem encodable_of_all {group : List Instruction}
    (h : (group.all fun inst => (reference? inst).isSome || inst.encoded?.isSome) = true) :
    Encodable counted group := by
  intro inst hm hr
  exact .inl (by simpa [hr] using List.all_eq_true.1 h inst hm)

theorem encodable_expansion (hp : patcher.Assembled base) (hc : ∀ n ≤ code.length, counted n)
    {site : Instruction × Nat} (hm : site.1 ∈ disassemble first code) :
    Encodable counted (patcher.expansion first code site) := by
  intro inst hi hr
  have henc := (decoded_disassemble first code).isSome_encoded? hm
  obtain ⟨d, byte, immediate, hd⟩ := exists_isDecoded hm
  rcases mem_expand hp hi with ⟨-, rfl⟩ | ha | ⟨fragment, hf, -⟩
  · exact .inl henc
  · cases ha with
    | self => exact .inl henc
    | offset =>
      rw [hd.source, Option.getD_some]
      exact .inr ⟨rfl, _, hc _ (Nat.le_of_lt (source_lt hm hd.source)), rfl⟩
    | size => exact .inr ⟨rfl, _, hc _ (Nat.le_refl _), rfl⟩
    | origin => exact .inl (Instruction.isSome_encoded?_pushBytes (by decide) (Nat.le_of_eq rfl))
    | topics n =>
      refine .inl (Instruction.isSome_encoded?_pushInt (by decide) ?_)
      show n.val < 256
      omega
  · exact .inl (Fragment.isSome_encoded?_code _ _ _ inst hf hr)

theorem encodable_jumpRouter (scope : Scope) {runtime : List Instruction}
    (h : ∀ d ∈ Image.destinations runtime, counted d) :
    Encodable counted (Image.jumpRouter scope runtime) := by
  refine Encodable.duplicate (.append (.cons rfl (.flatMap fun d hd => ?_)) (.cons rfl .nil)) _
  exact .cons rfl (.cons_pushInt (h d hd) (encodable_of_all rfl))

theorem encodable_accountRouters (scope : Scope) {accounts : Accounts}
    (h : ∀ entry ∈ accounts.entries, counted entry.2.size) :
    Encodable counted (Image.accountRouters scope accounts).flatten := by
  have hcases {answer : DeployedCode → List Instruction}
      (ha : ∀ entry ∈ accounts.entries, Encodable counted (answer entry.2)) :
      Encodable counted (Image.accountCases accounts answer) := by
    refine .flatMap fun ⟨⟨address, code⟩, i⟩ hm => ?_
    have hm : (address, code) ∈ accounts.entries := (List.mem_zipIdx hm).2.2 ▸ List.getElem_mem _
    exact ((encodable_of_all rfl).append (ha _ hm)).append (.cons rfl .nil)
  simp only [Image.accountRouters, List.flatten_cons, List.flatten_nil, List.append_nil]
  refine .append (.duplicate ?_ _) (.append (.duplicate ?_ _) (.duplicate ?_ _))
  · exact ((encodable_of_all rfl).append (hcases fun entry hm =>
      .cons rfl (.cons_pushInt (h entry hm) (encodable_of_all rfl)))).append (encodable_of_all rfl)
  · exact ((encodable_of_all rfl).append (hcases fun entry hm =>
      encodable_of_all rfl)).append (encodable_of_all rfl)
  · exact (((encodable_of_all rfl).append (hcases fun entry hm =>
      .cons_pushInt (h entry hm) (encodable_of_all rfl))).append (encodable_of_all rfl)).append
      (encodable_of_all rfl)

end

/-- The numbers that an image pushes in three bytes, beside its own offsets: those of the bytes of
the code and its size, and the sizes of accounts. -/
def Counted (patcher : Patcher) (code : Bytes) (n : Nat) : Prop :=
  n ≤ code.length ∨ ∃ entry ∈ patcher.options.accounts.entries, n = entry.2.size

/-- **Every instruction of an image that is no reference has an encoding**, but for numbers that are
pushed in three bytes. -/
theorem encodable_sections (hp : patcher.Assembled base) :
    Encodable (patcher.Counted code) (patcher.sections first code).flatten := by
  have hlead : Encodable (patcher.Counted code) (patcher.leading code) := by
    rw [leading, preamble_eq hp]
    exact encodable_of_all rfl
  have hruntime : Encodable (patcher.Counted code) (patcher.runtime first code) := by
    refine .append (.cons rfl (.flatMap fun site hm => ?_)) (.cons rfl .nil)
    exact encodable_expansion hp (fun n hn => .inl hn)
      (List.mem_of_getElem? (List.mem_zipIdx_iff_getElem?.1 hm))
  have hlibrary : Encodable (patcher.Counted code)
      (Fragment.library.flatMap patcher.fragments.get) := by
    refine .flatMap fun fragment _ inst hm hr => .inl ?_
    rw [hp] at hm
    exact Fragment.isSome_encoded?_code _ _ _ inst hm hr
  rw [sections_flatten, instrumented_eq]
  refine .append hlead (((hruntime.append hlibrary).append (encodable_jumpRouter _ ?_)).append
    (encodable_accountRouters _ fun entry hm => .inr ⟨entry, hm, rfl⟩))
  intro d hd
  rw [destinations_runtime hp] at hd
  obtain ⟨inst, hm, -, hs⟩ := mem_destinations.1 hd
  exact .inl (Nat.le_of_lt (source_lt hm hs))

/-- Numbers that fit in three bytes have encodings. -/
theorem Encodable.isSome_encoded? {counted : Nat → Prop} {group : List Instruction}
    (h : Encodable counted group) (hfits : ∀ n, counted n → n < capacity 3) {inst : Instruction}
    (hm : inst ∈ group) (hr : reference? inst = none) : inst.encoded?.isSome := by
  refine (h inst hm hr).elim id fun ⟨hop, n, hn, ho⟩ => ?_
  rw [Instruction.encoded?_push3 hop ho]
  exact Option.isSome_iff_exists.2 ⟨_, if_pos (Nat.lt_of_le_of_lt (Nat.mod_le _ _) (hfits n hn))⟩

/-! ## Sizes -/

theorem codeSize_flatMap_le {α : Type} {l : List α} {f : α → List Instruction} (bound : Nat)
    (h : ∀ x ∈ l, codeSize (f x) ≤ bound) : codeSize (l.flatMap f) ≤ bound * l.length := by
  induction l with
  | nil => simp
  | cons x l ih =>
    rw [List.flatMap_cons, codeSize_append, List.length_cons, Nat.mul_succ]
    have := h x (by simp)
    have := ih fun y hy => h y (by simp [hy])
    omega

/-- An expansion takes up at most 74 bytes. -/
theorem codeSize_expansion_le (hp : patcher.Assembled base) {site : Instruction × Nat}
    (hm : site.1 ∈ disassemble first code) :
    codeSize (patcher.expansion first code site) ≤ 74 := by
  have hfragments : ∀ fragment ∈ Fragment.all, fragment ∉ Fragment.library →
      fragment.template.size ≤ 39 := by decide +kernel
  obtain ⟨d, byte, immediate, hd⟩ := exists_isDecoded hm
  have hw := Opcode.widthOfByte_le byte
  have hsize := hd.size
  by_cases hj : site.1.opcode = .jumpdest
  · have hone : (site.1.labelled (Image.jumpLabel (site.1.source.getD 0))).size = 1 :=
      Instruction.size_of_jumpdest hj
    rw [expansion, expand_jumpdest _ _ hj, codeSize_cons, hone, codeSize_nil]
    omega
  · obtain ⟨front, back, he, -, haround⟩ := expand_eq code.length
      ((innerScope first code).after site.2) hp hj
    rw [codeSize_append] at haround
    rw [expansion, he, codeSize_append, codeSize_append, Image.splice]
    split
    · next fragment hs =>
      rw [Fragment.codeSize_code]
      have := hfragments fragment (Fragment.mem_all _) (not_mem_library_of_spliced? hs)
      omega
    · rw [codeSize_nil]
      omega

theorem codeSize_library_le (hp : patcher.Assembled base) :
    codeSize (Fragment.library.flatMap patcher.fragments.get) ≤ 1500 := by
  have hs : ∀ fragment ∈ Fragment.library, fragment.template.size ≤ 300 := by decide +kernel
  refine Nat.le_trans (codeSize_flatMap_le 300 fun fragment hf => ?_) (by decide)
  rw [hp, Fragment.codeSize_code]
  exact hs fragment hf

theorem codeSize_jumpRouter_le (scope : Scope) (runtime : List Instruction) :
    codeSize (Image.jumpRouter scope runtime) ≤ 2 + 19 * (Image.destinations runtime).length := by
  have hcases : codeSize ((Image.destinations runtime).flatMap Image.jumpCase) ≤
      19 * (Image.destinations runtime).length :=
    codeSize_flatMap_le 19 fun d _ => Nat.le_of_eq rfl
  rw [Image.jumpRouter, codeSize_duplicate, codeSize_append, codeSize_cons]
  have hentry : ((Instruction.plain .jumpdest).labelled (.global "jump-router")).size = 1 := rfl
  have hend : codeSize [Instruction.plain .invalid] = 1 := rfl
  omega

theorem codeSize_accountRouters_le (scope : Scope) (accounts : Accounts) :
    codeSize (Image.accountRouters scope accounts).flatten ≤
      200 + 142 * accounts.entries.length := by
  have hcases (answer : DeployedCode → List Instruction) (bound : Nat)
      (h : ∀ code, codeSize (answer code) = bound) :
      codeSize (Image.accountCases accounts answer) ≤ (30 + bound) * accounts.entries.length := by
    rw [← List.length_zipIdx (l := accounts.entries) (i := 0)]
    refine codeSize_flatMap_le _ fun ⟨⟨address, code⟩, i⟩ _ => ?_
    rw [codeSize_append, codeSize_append, h]
    have hmatch : codeSize (Image.matchAddress address (Image.skipLabel i)) = 29 := rfl
    have hskip : codeSize [(Instruction.plain .jumpdest).labelled (Image.skipLabel i)] = 1 := rfl
    omega
  have hsize := hcases (fun code => [.plain .pop, .pushInt (.pushN 3) code.size,
    .plain (.swapN 1), .plain .jump]) 7 fun _ => rfl
  have hhash := hcases (fun code => [.plain .pop, .pushBytes (.pushN 32) (wordBytes code.hash),
    .plain (.swapN 1), .plain .jump]) 36 fun _ => rfl
  have hcopy := hcases (fun code => [.pushInt (.pushN 3) code.size,
    .pushLabel (.pushN 3) (.lexical "copy"), .plain .jump]) 9 fun _ => rfl
  have hentry (name : String) : codeSize (Image.routerEntry name) = 23 := rfl
  have htails : codeSize [.plain .extcodesize, .plain (.swapN 1), .plain .jump] = 3 ∧
      codeSize [.plain .extcodehash, .plain (.swapN 1), .plain .jump] = 3 := ⟨rfl, rfl⟩
  have hdeployed : codeSize Image.copyDeployed = 50 := rfl
  have hend : codeSize [Instruction.plain .extcodecopy, .plain .jump] = 2 := rfl
  simp only [Image.accountRouters, List.flatten_cons, List.flatten_nil, List.append_nil,
    codeSize_append, codeSize_duplicate, Image.extcodesizeRouter, Image.extcodehashRouter,
    Image.extcodecopyRouter, Image.wordRouter, hentry, htails, hdeployed, hend]
  omega

/-- **The sections of an image are bounded by the code and the accounts.** -/
theorem codeSize_sections_le (first : Scope) (code : Bytes) (hp : patcher.Assembled base) :
    codeSize (patcher.sections first code).flatten ≤
      1800 + 94 * code.length + 142 * patcher.options.accounts.entries.length := by
  have hdec := decoded_disassemble first code
  have hlen : (disassemble first code).length ≤ code.length := by
    refine Nat.le_trans (length_le_codeSize fun inst hm => ?_) hdec.codeSize_le
    obtain ⟨_, _, _, hd⟩ := exists_isDecoded hm
    rw [hd.size]
    omega
  have hexp : codeSize (patcher.expansions first code) ≤ 74 * (disassemble first code).length := by
    rw [← List.length_zipIdx (l := disassemble first code) (i := 0)]
    exact codeSize_flatMap_le _ fun site hm => codeSize_expansion_le hp
      (List.mem_of_getElem? (List.mem_zipIdx_iff_getElem?.1 hm))
  have hds : (Image.destinations (disassemble first code)).length ≤
      (disassemble first code).length := List.length_filterMap_le _ _
  have hrouter := codeSize_jumpRouter_le (routerScope first code) (patcher.runtime first code)
  rw [destinations_runtime hp] at hrouter
  have haccounts := codeSize_accountRouters_le ((routerScope first code).after 1)
    patcher.options.accounts
  have hlibrary := codeSize_library_le hp
  have hrun : codeSize (patcher.runtime first code) =
      2 + codeSize (patcher.expansions first code) := by
    rw [runtime, codeSize_append, codeSize_cons]
    have h1 : Image.runtimeEntry.size = 1 := rfl
    have h2 : codeSize [Instruction.plain .stop] = 1 := rfl
    omega
  rw [sections_flatten, instrumented_eq, codeSize_append, codeSize_leading hp, codeSize_append,
    codeSize_append, codeSize_append, hrun, runtimeStart]
  have h5 : Environment.preambleSize = 5 := rfl
  have h32 : padding = 32 := rfl
  omega

/-! ## Images -/

theorem isSome_declared? (hp : patcher.Assembled base) {inst : Instruction}
    (hm : inst ∈ patcher.leading code ++ patcher.instrumented first code)
    (hl : inst.label.isSome) : (declared? inst).isSome := by
  obtain ⟨label, hl⟩ := Option.isSome_iff_exists.1 hl
  obtain ⟨offset, hat⟩ := StandsAt.exists_of_mem hm
  obtain ⟨-, k, -, hat⟩ := exists_standsAt_of_label hp hat hl
  have hscoped {scope : Scope} (hs : inst.scope = some scope) : (declared? inst).isSome := by
    rw [declared?_of_scope hs, hl]
    rfl
  have hcopy {scope : Scope} {group : List Instruction} (h : inst ∈ duplicate scope group) :
      (declared? inst).isSome := by
    obtain ⟨i, -, rfl⟩ := List.mem_map.1 h
    exact hscoped rfl
  have hmem := hat.mem
  simp only [instrumented_eq, runtime, Image.accountRouters, List.mem_append, List.mem_cons,
    List.mem_flatMap, List.flatten_cons, List.flatten_nil, List.not_mem_nil, or_false] at hmem
  rcases hmem with ((((rfl | hm) | rfl) | ⟨fragment, -, hm⟩) | hm) | hm | hm | hm
  · rfl
  · obtain ⟨site, j, hj, hi⟩ := mem_expansions.1 hm
    obtain ⟨d, byte, immediate, hd⟩ := exists_isDecoded (List.mem_of_getElem? hj)
    rcases mem_expand hp hi with ⟨-, rfl⟩ | ha | ⟨fragment, hf, -⟩
    · rfl
    · rw [(ha.spec _ hd).2.1] at hl
      cases hl
    · exact hscoped (Fragment.Template.scope_codeFrom _ _ hf)
  · cases hl
  · rw [hp] at hm
    exact hscoped (Fragment.Template.scope_codeFrom _ _ hm)
  all_goals exact hcopy hm

/-- **The sections of an image can be linked**, if the scopes of the program are fresh. -/
theorem linkable_sections (hp : patcher.Assembled base)
    (hfresh : base.id + Fragment.all.length ≤ first.id) :
    Linkable (patcher.sections first code).flatten := by
  rw [sections_flatten]
  refine ⟨fun inst hm hl => ⟨isSome_declared? hp hm hl, ?_⟩, nodup_declared hp hfresh,
    fun inst hm label hr => ⟨opcode_of_reference? hp hm hr, exists_entry hp inst hm label hr⟩⟩
  obtain ⟨label, hl⟩ := Option.isSome_iff_exists.1 hl
  obtain ⟨offset, hat⟩ := StandsAt.exists_of_mem hm
  have hj := (exists_standsAt_of_label hp hat hl).1
  rw [Instruction.size_of_jumpdest hj]
  omega

/-- An image of code is that of its sections. -/
theorem patchFrom_eq (hp : patcher.Assembled base) (hc : code ≠ []) :
    patcher.patchFrom first code =
      (encodeSections (patcher.sections first code)).mapError .program := by
  have hpre : codeSize (patcher.fragments.get .preamble) = Environment.preambleSize := by
    rw [preamble_eq hp]
    rfl
  rw [patchFrom, if_neg (by simpa using hc)]
  dsimp only
  rw [if_neg (by simpa using hpre)]
  cases encodeSections (patcher.sections first code) <;> rfl

/-- **There is an image of any code**, if it takes up no more than three bytes can count, and the
recorded sizes of accounts fit in three bytes. -/
theorem exists_patchFrom (hp : patcher.Assembled base)
    (hfresh : base.id + Fragment.all.length ≤ first.id)
    (h : ∀ entry ∈ patcher.options.accounts.entries, entry.2.size < capacity 3)
    (hs : codeSize (patcher.sections first code).flatten ≤ capacity 3) :
    ∃ image, patcher.patchFrom first code = .ok image := by
  by_cases hc : code = []
  · exact ⟨[], by simp [patchFrom, hc]⟩
  have hlen : code.length < capacity 3 := by
    rw [sections_flatten, codeSize_append, codeSize_leading hp, runtimeStart] at hs
    have : 0 < padding := by decide
    omega
  have hfits : ∀ n, patcher.Counted code n → n < capacity 3 := by
    rintro n (hn | ⟨entry, hm, rfl⟩)
    · exact Nat.lt_of_le_of_lt hn hlen
    · exact h entry hm
  obtain ⟨image, himg⟩ := exists_image (linkable_sections hp hfresh)
    (fun inst hm => (encodable_sections hp).isSome_encoded? hfits hm) hs
  exact ⟨image, by rw [patchFrom_eq hp hc, himg]; rfl⟩

/-- **If there is no image of code, then a number does not fit in three bytes.** -/
theorem exists_of_patchFrom_eq_error (hp : patcher.Assembled base)
    (hfresh : base.id + Fragment.all.length ≤ first.id) (hc : code ≠ []) {cause : PatchError}
    (h : patcher.patchFrom first code = .error cause) : ∃ value : Word,
      capacity 3 ≤ value.toNat ∧
        cause = .program (.encode (.operand (.tooWide (.int value) 3))) := by
  rw [patchFrom_eq hp hc] at h
  cases he : encodeSections (patcher.sections first code) with
  | ok image =>
    rw [he] at h
    cases h
  | error fault =>
    rw [he] at h
    cases h
    obtain ⟨value, hv, rfl⟩ := exists_of_encodeSections_eq_error (linkable_sections hp hfresh)
      (fun inst hm hr => (encodable_sections hp inst hm hr).imp_right
        fun ⟨hop, _, _, ho⟩ => ⟨hop, _, ho⟩) he
    exact ⟨value, hv, rfl⟩

/-- **There is an image of code that is not too long**, if there are not too many accounts. -/
theorem exists_patchFrom_of_length (first : Scope) (code : Bytes) (hp : patcher.Assembled base)
    (hfresh : base.id + Fragment.all.length ≤ first.id)
    (h : ∀ entry ∈ patcher.options.accounts.entries, entry.2.size < capacity 3)
    (hs : 1800 + 94 * code.length + 142 * patcher.options.accounts.entries.length ≤ capacity 3) :
    ∃ image, patcher.patchFrom first code = .ok image ∧ image.length ≤ capacity 3 := by
  have hsize := codeSize_sections_le first code hp
  obtain ⟨image, himg⟩ := exists_patchFrom hp hfresh h (Nat.le_trans hsize hs)
  refine ⟨image, himg, ?_⟩
  by_cases hc : code = []
  · subst hc
    cases himg
    exact Nat.zero_le _
  · obtain ⟨table, w⟩ := patchFrom_ok hc himg
    rw [w.length_image, ← sections_flatten]
    exact Nat.le_trans hsize hs

/-- There are a patcher and an image for all options with not too many accounts. -/
theorem exists_image_of_length (base first : Scope) (code : Bytes) (options : PatchOptions)
    (hfresh : base.id + Fragment.all.length ≤ first.id)
    (h : ∀ entry ∈ options.accounts.entries, entry.2.size < capacity 3)
    (hs : 1800 + 94 * code.length + 142 * options.accounts.entries.length ≤ capacity 3) :
    ∃ patcher image, Patcher.new options base = .ok patcher ∧
      patcher.patchFrom first code = .ok image ∧ image.length ≤ capacity 3 := by
  obtain ⟨patcher, hp, rfl, -⟩ := exists_new options base
  obtain ⟨image, himg, hl⟩ :=
    exists_patchFrom_of_length first code (assembled_of_new hp).2 hfresh h hs
  exact ⟨patcher, image, hp, himg, hl⟩

/-- Short code has an image without any accounts, with what is written there. -/
theorem exists_written (options : PatchOptions) (code : Bytes) (hc : code ≠ [])
    (hs : code.length ≤ 0x1000) (haccounts : options.accounts.entries = []) :
    ∃ patcher image table, Patcher.new options ⟨0⟩ = .ok patcher ∧
      patcher.patch code = .ok image ∧ image.length ≤ 2 ^ 256 ∧
      patcher.options = options ∧ patcher.Assembled ⟨0⟩ ∧
      Written (patcher.leading code ++ patcher.instrumented firstScope code) table image := by
  obtain ⟨patcher, image, hp, himg, hl⟩ := exists_image_of_length ⟨0⟩ firstScope code options
    (by decide) (by simp [haccounts]) (by
      have hcapacity : capacity 3 = 0x1000000 := rfl
      rw [haccounts, List.length_nil]
      omega)
  obtain ⟨ho, ha⟩ := assembled_of_new hp
  obtain ⟨table, w⟩ := patchFrom_ok hc himg
  exact ⟨patcher, image, table, hp, himg, Nat.le_trans hl (by decide), ho, ha, w⟩

/-- When code has an image, and why it has none. -/
structure Imaged (patcher : Patcher) (first : Scope) (code : Bytes) : Prop where
  /-- There is an image unless a number does not fit in the three bytes it is pushed in. -/
  total : (∃ image, patcher.patchFrom first code = .ok image) ∨ ∃ value : Word,
    2 ^ 24 ≤ value.toNat ∧ patcher.patchFrom first code =
      .error (.program (.encode (.operand (.tooWide (.int value) 3))))
  /-- All numbers fit if the image and the recorded sizes are not too large. -/
  of_size : (∀ entry ∈ patcher.options.accounts.entries, entry.2.size < 2 ^ 24) →
    codeSize (patcher.sections first code).flatten ≤ 2 ^ 24 →
    ∃ image, patcher.patchFrom first code = .ok image
  /-- So it is for code that may be deployed, with a hundred thousand accounts. -/
  of_length : (∀ entry ∈ patcher.options.accounts.entries, entry.2.size < 2 ^ 24) →
    code.length ≤ 24576 → patcher.options.accounts.entries.length ≤ 100000 →
    ∃ image, patcher.patchFrom first code = .ok image

/-- **Patching fails for no other reason than a number that does not fit in three bytes**, whatever
the options and the code.  Scopes must not be handed out twice. -/
theorem exists_imaged (options : PatchOptions) (base : Scope) :
    ∃ patcher, Patcher.new options base = .ok patcher ∧ patcher.options = options ∧
      ∀ first code, base.id + Fragment.all.length ≤ first.id → code ≠ [] →
        Imaged patcher first code := by
  obtain ⟨patcher, hp, ho, -⟩ := exists_new options base
  have ha := (assembled_of_new hp).2
  have hcapacity : capacity 3 = 2 ^ 24 := by decide
  refine ⟨patcher, hp, ho, fun first code hfresh hc => ⟨?_, fun hsizes hs => ?_,
    fun hsizes hlen haccounts => ?_⟩⟩
  · cases h : patcher.patchFrom first code with
    | ok image => exact .inl ⟨image, rfl⟩
    | error cause =>
      obtain ⟨value, hv, rfl⟩ := exists_of_patchFrom_eq_error ha hfresh hc h
      exact .inr ⟨value, hcapacity ▸ hv, rfl⟩
  · rw [← hcapacity] at hsizes hs
    exact exists_patchFrom ha hfresh hsizes hs
  · rw [← hcapacity] at hsizes
    obtain ⟨image, himg, -⟩ := exists_patchFrom_of_length first code ha hfresh hsizes
      (by rw [hcapacity]; omega)
    exact ⟨image, himg⟩

/-- A single JUMPDEST has an image. -/
theorem exists_imaged_jumpdest : Fragment.all.length ≤ firstScope.id ∧
    ∃ patcher image, Patcher.new {} ⟨0⟩ = .ok patcher ∧ patcher.patch [0x5b] = .ok image := by
  have hfresh : Fragment.all.length ≤ firstScope.id := Nat.le_refl _
  obtain ⟨patcher, hp, ho, himaged⟩ := exists_imaged {} ⟨0⟩
  have hnone : patcher.options.accounts.entries = [] := ho ▸ rfl
  obtain ⟨image, himg⟩ := (himaged firstScope [0x5b] (by simpa using hfresh) (by decide)).of_length
    (by simp [hnone]) (by decide) (by simp [hnone])
  exact ⟨hfresh, patcher, image, hp, himg⟩

end

end Patcher

end EvmProbe
