import EvmProbe.Proofs.Bytecode.Scopes
import EvmProbe.Proofs.Image.Existence
import EvmProbe.Proofs.Program.Renaming

/-!
An image does not show the names of scopes.

The scopes of an image are those of the fragments, which were handed out when the patcher was made,
and those that are handed out when the image is made.  Whatever they are, the sections are the same
up to their names (`sections_renamed`), and so is what is linked and written
(`encodeSections_renamed`).

* `mem_ownScopes`: no other scopes occur.
* `encodeSections_sections_eq`: **images with other scopes are the same**.
-/

namespace EvmProbe

open Bytecode Linking

/-! ## Writing renamed sections -/

namespace Encoding

/-- An instruction that lies within the buffer is written where it lies. -/
theorem encodeOne_of_offset {inst : Instruction} {start : Nat} {buffer : Array UInt8}
    (ho : inst.offset = some start) (hs : start + inst.size ≤ buffer.size) :
    encodeOne 0 buffer inst = writeInstruction buffer start start inst := by
  rw [encodeOne, ho]
  dsimp only
  rw [if_neg (Nat.not_lt_zero _), if_neg (by omega), Nat.sub_zero]

/-- What lies within the buffer is written without its scope. -/
theorem encodeInto_renamed (f : Scope → Scope) {code : List Instruction} {start : Nat}
    {buffer : Array UInt8} (hc : Contiguous start code) (hs : start + codeSize code ≤ buffer.size) :
    encodeInto 0 buffer (code.map (·.renamed f)) = encodeInto 0 buffer code := by
  induction code generalizing start buffer with
  | nil => rfl
  | cons inst code ih =>
    obtain ⟨ho, hc⟩ := hc
    rw [codeSize_cons] at hs
    have hfits : start + inst.size ≤ buffer.size := by omega
    have hone : encodeOne 0 buffer inst = writeInstruction buffer start start inst :=
      encodeOne_of_offset ho hfits
    have hone' : encodeOne 0 buffer (inst.renamed f) = writeInstruction buffer start start inst :=
      encodeOne_of_offset ho hfits
    rw [List.map_cons, encodeInto, encodeInto, hone, hone']
    cases hw : writeInstruction buffer start start inst with
    | mk middle result =>
      cases result with
      | error cause => rfl
      | ok _ =>
        obtain ⟨bytes, -, rfl⟩ := writeInstruction_ok.1 hw
        exact ih hc (by rw [size_write]; omega)

end Encoding

namespace Patcher

theorem layOut_renamed (f : Scope → Scope) (start : Nat) (code : List Instruction) :
    (layOut start (code.map (·.renamed f))).1 = (layOut start code).1.map (·.renamed f) := by
  induction code generalizing start with
  | nil => simp
  | cons inst code ih =>
    rw [List.map_cons, layOut_cons, layOut_cons, List.map_cons, ← ih]
    rfl

/-- **Sections that can be linked are written without the names of their scopes**, if these are
different for different scopes. -/
theorem encodeSections_renamed {f : Scope → Scope} {sections : List (List Instruction)}
    (h : Linkable sections.flatten)
    (hf : Set.InjOn f {scope | ∃ inst ∈ sections.flatten, inst.scope = some scope}) :
    encodeSections (sections.map (·.map (·.renamed f))) = encodeSections sections := by
  obtain ⟨table, hd⟩ := h.exists_table
  have hfaults : ∀ inst ∈ (layOut 0 sections.flatten).1, fault? table inst = none :=
    fun inst hm => h.fault?_eq_none hd hm
  have hflat : (sections.map (·.map (·.renamed f))).flatten =
      sections.flatten.map (·.renamed f) := List.map_flatten.symm
  have hplaced : (layOut 0 (sections.map (·.map (·.renamed f))).flatten).1 =
      (layOut 0 sections.flatten).1.map (·.renamed f) := by rw [hflat, layOut_renamed]
  have hapart : KeepsApart f (layOut 0 sections.flatten).1 := by
    refine keepsApart_of_injOn (hf.mono ?_)
    rintro scope ⟨placed, hm, hs⟩
    obtain ⟨k, inst, hat, rfl⟩ := mem_layOut.1 hm
    exact ⟨inst, hat.mem, hs⟩
  have hperm := List.Perm.of_eq hplaced
  obtain ⟨table', hd'⟩ := exists_declarations_iff.2
    ((collectable_renamed_iff hapart hperm).2 (exists_declarations_iff.1 ⟨table, hd⟩))
  have hresolved := fun inst (hm : inst ∈ (layOut 0 sections.flatten).1) =>
    resolved_renamed hapart hperm hd hd' hm (hfaults inst hm)
  have hcode : (layOut 0 (sections.map (·.map (·.renamed f))).flatten).1.map (resolved table') =
      ((layOut 0 sections.flatten).1.map (resolved table)).map (·.renamed f) := by
    rw [hplaced, List.map_map, List.map_map]
    exact List.map_congr_left fun inst hm => (hresolved inst hm).2
  have hsize : codeSize (sections.map (·.map (·.renamed f))).flatten =
      codeSize sections.flatten := by
    rw [hflat, codeSize_map (f := (·.renamed f)) (fun _ => rfl)]
  rw [encodeSections_eq hd hfaults, encodeSections_eq hd' (fun inst hm => ?_), hcode, hsize,
    Encoding.encodeInto_renamed f
      ((contiguous_layOut 0 sections.flatten).map (resolved_offset table) (size_resolved table))
      (by simp [codeSize_map (size_resolved table)])]
  rw [hplaced] at hm
  obtain ⟨own, hown, rfl⟩ := List.mem_map.1 hm
  exact (hresolved own hown).1

/-! ## Sections with other scopes -/

/-- The number of scopes that an image of a decoded program takes up: those of the program, one for
each of its instructions, and those of the routers. -/
def scopesTaken (program : List Instruction) : Nat := scopesOf program + program.length + 4

section
variable {f : Scope → Scope} {base base' first first' : Scope} {code : Bytes}

theorem duplicate_renamed (f : Scope → Scope) (scope : Scope) (code : List Instruction) :
    (duplicate scope code).map (·.renamed f) = duplicate (f scope) code := by
  rw [duplicate, duplicate, List.map_map]
  rfl

theorem code_renamed (f : Scope → Scope) (options : PatchOptions) (scope : Scope)
    (fragment : Fragment) : (fragment.code options scope).map (·.renamed f) =
      fragment.code options (f scope) := by
  rw [← Fragment.duplicate_code options scope fragment scope, duplicate_renamed,
    Fragment.duplicate_code]

theorem sweep_renamed {scope scope' : Scope} (hf : ∀ i, f (scope.after i) = scope'.after i)
    (isOpen : Bool) (offset skip : Nat) :
    (Disassembly.sweep isOpen scope offset skip code).map (·.map (·.renamed f)) =
      Disassembly.sweep isOpen scope' offset skip code := by
  induction code generalizing scope scope' isOpen offset skip with
  | nil => rfl
  | cons byte rest ih =>
    cases skip with
    | succ skip =>
      rw [Disassembly.sweep, Disassembly.sweep]
      exact ih hf _ _ _
    | zero =>
      have hdecode : (Disassembly.decode scope offset (Opcode.ofByte byte) rest).renamed f =
          Disassembly.decode scope' offset (Opcode.ofByte byte) rest := by
        have hzero : f scope = scope' := hf 0
        rw [Disassembly.decode, Disassembly.decode, Instruction.renamed, Option.map_some, hzero]
      have hnext : ∀ i, f ((scope.after 1).after i) = (scope'.after 1).after i := by
        intro i
        have := hf (1 + i)
        simpa only [Scope.after, Nat.add_assoc] using this
      rw [Disassembly.sweep, Disassembly.sweep]
      dsimp only
      split_ifs
      · rfl
      · rfl
      · rw [Option.map_some, List.map_cons, hdecode, ← ih hnext]
        cases Disassembly.sweep false (scope.after 1) (offset + 1)
          (Opcode.ofByte byte).width rest <;> rfl
      · rw [← ih hf, Option.map_map, Option.map_map]
        refine congrArg (Option.map · _) (funext fun behind => ?_)
        rw [Function.comp_apply, Function.comp_apply, List.map_cons, hdecode]

/-- Code is decoded to the same instructions in other scopes. -/
theorem disassemble_renamed
    (hf : ∀ i < scopesTaken (disassemble first code), f (first.after i) = first'.after i) :
    (disassemble first code).map (·.renamed f) = disassemble first' code := by
  -- the sweep has handed out a scope for what it has dropped, too
  obtain ⟨shift, hshift⟩ : ∃ shift : Scope → Scope, ∀ i, shift (first.after i) = first'.after i :=
    ⟨fun scope => first'.after (scope.id - first.id), fun i => by simp [Scope.after]⟩
  have hall : (disassemble first code).map (·.renamed shift) = disassemble first' code := by
    rw [disassemble, disassemble, ← sweep_renamed hshift]
    cases Disassembly.sweep true first 0 0 code <;> rfl
  rw [← hall]
  refine List.map_congr_left fun inst hm => ?_
  obtain ⟨i, hi⟩ := List.mem_iff_getElem?.1 hm
  have hlt : ((disassemble first code).take i).countP (·.opcode.isTerminator) <
      scopesTaken (disassemble first code) := by
    have hle : ((disassemble first code).take i).countP (·.opcode.isTerminator) ≤
        (disassemble first code).countP (·.opcode.isTerminator) :=
      List.Sublist.countP_le (List.take_sublist i _)
    rw [scopesTaken, scopesOf]
    omega
  rw [Instruction.renamed, Instruction.renamed, scope_of_getElem? hi, Option.map_some,
    Option.map_some, hf _ hlt, hshift]

theorem scopesOf_renamed (f : Scope → Scope) (program : List Instruction) :
    scopesOf (program.map (·.renamed f)) = scopesOf program := by
  rw [scopesOf, scopesOf, List.countP_map]
  rfl

section
variable {patcher patcher' : Patcher} (hp : patcher.Assembled base)
  (hp' : patcher'.Assembled base') (ho : patcher'.options = patcher.options)
  (hbase : ∀ i < Fragment.all.length, f (base.after i) = base'.after i)
include hp hp' ho hbase

theorem get_renamed (fragment : Fragment) :
    (patcher.fragments.get fragment).map (·.renamed f) = patcher'.fragments.get fragment := by
  rw [hp, hp', code_renamed, ho, hbase _ fragment.index_lt]

omit hbase in
theorem expand_renamed (size : Nat) (scope : Scope) (inst : Instruction) :
    (patcher.expand size scope inst).map (·.renamed f) =
      patcher'.expand size (f scope) (inst.renamed f) := by
  have hcopy (fragment : Fragment) : (duplicate scope (patcher.fragments.get fragment)).map
      (·.renamed f) = duplicate (f scope) (patcher'.fragments.get fragment) := by
    rw [hp, hp', Fragment.duplicate_code, Fragment.duplicate_code, code_renamed, ho]
  have hsettings : patcher'.settings = patcher.settings := by rw [settings, settings, ho]
  have hopcode : (inst.renamed f).opcode = inst.opcode := rfl
  have hsource : (inst.renamed f).source = inst.source := rfl
  rw [expand, expand, hsettings, Image.expand, Image.expand, hopcode, hsource]
  split
  · exact hcopy _
  · split
    · rfl
    · rfl
    · rfl
    · rfl
    · rw [List.map_append, List.map_cons, hcopy]
      rfl
    · split_ifs
      · rfl
      · rw [List.map_append, hcopy]
        rfl
    · rfl

section
variable (hfirst : ∀ i < scopesTaken (disassemble first code), f (first.after i) = first'.after i)
include hfirst

omit hp hp' ho hbase in
theorem scope_renamed {n : Nat} (hn : n < (disassemble first code).length + 4) :
    f ((innerScope first code).after n) = (innerScope first' code).after n := by
  have h := hfirst (scopesOf (disassemble first code) + n) (by rw [scopesTaken]; omega)
  rw [innerScope, innerScope, ← disassemble_renamed hfirst, scopesOf_renamed]
  simpa only [Scope.after, Nat.add_assoc] using h

omit hbase in
/-- **The runtime is the same with other scopes.** -/
theorem runtime_renamed :
    (patcher.runtime first code).map (·.renamed f) = patcher'.runtime first' code := by
  rw [runtime, runtime, expansions, expansions, List.map_append, List.map_cons,
    ← disassemble_renamed hfirst, List.map_flatMap, List.zipIdx_map, List.flatMap_map]
  refine congrArg (Image.runtimeEntry :: · ++ _) (List.flatMap_congr fun site hm => ?_)
  obtain ⟨inst, i⟩ := site
  obtain ⟨hlt, -⟩ := List.getElem?_eq_some_iff.1 (List.mem_zipIdx_iff_getElem?.1 hm)
  rw [expansion, expand_renamed hp hp' ho, scope_renamed hfirst (Nat.lt_add_right 4 hlt)]
  rfl

omit hbase in
/-- **The routers are the same with other scopes.** -/
theorem routers_renamed :
    (Image.jumpRouter (routerScope first code) (patcher.runtime first code) ::
        Image.accountRouters ((routerScope first code).after 1) patcher.options.accounts).map
        (·.map (·.renamed f)) =
      Image.jumpRouter (routerScope first' code) (patcher'.runtime first' code) ::
        Image.accountRouters ((routerScope first' code).after 1) patcher'.options.accounts := by
  have hlength : (disassemble first' code).length = (disassemble first code).length := by
    rw [← disassemble_renamed hfirst, List.length_map]
  have hscope : ∀ n < 4,
      f ((routerScope first code).after n) = (routerScope first' code).after n := by
    intro n hn
    have h := scope_renamed hfirst (n := (disassemble first code).length + n) (by omega)
    rw [routerScope, routerScope, hlength]
    simpa only [Scope.after, Nat.add_assoc] using h
  have hdestinations : Image.destinations (patcher'.runtime first' code) =
      Image.destinations (patcher.runtime first code) := by
    rw [← runtime_renamed hp hp' ho hfirst, Image.destinations, Image.destinations,
      List.filterMap_map]
    rfl
  have h₀ : f (routerScope first code) = routerScope first' code := hscope 0 (by decide)
  have h₁ : f (((routerScope first code).after 1).after 0) =
      ((routerScope first' code).after 1).after 0 := hscope 1 (by decide)
  have h₂ : f (((routerScope first code).after 1).after 1) =
      ((routerScope first' code).after 1).after 1 := hscope 2 (by decide)
  have h₃ : f (((routerScope first code).after 1).after 2) =
      ((routerScope first' code).after 1).after 2 := hscope 3 (by decide)
  rw [Image.accountRouters, Image.accountRouters, Image.jumpRouter, Image.jumpRouter,
    hdestinations, ho]
  simp only [List.map_cons, List.map_nil, duplicate_renamed, h₀, h₁, h₂, h₃]

/-- **The sections of an image are the same with other scopes.** -/
theorem sections_renamed :
    (patcher.sections first code).map (·.map (·.renamed f)) = patcher'.sections first' code := by
  have hsections (patcher : Patcher) (first : Scope) : patcher.sections first code =
      [patcher.fragments.get .preamble, [.data code], [.data (List.replicate padding 0)],
        patcher.runtime first code] ++ Fragment.library.map patcher.fragments.get ++
        (Image.jumpRouter (routerScope first code) (patcher.runtime first code) ::
          Image.accountRouters ((routerScope first code).after 1) patcher.options.accounts) :=
    List.append_assoc _ [_] _
  have hlibrary : (Fragment.library.map patcher.fragments.get).map (·.map (·.renamed f)) =
      Fragment.library.map patcher'.fragments.get := by
    rw [List.map_map]
    exact List.map_congr_left fun fragment _ => get_renamed hp hp' ho hbase fragment
  rw [hsections, hsections, List.map_append, List.map_append, hlibrary,
    routers_renamed hp hp' ho hfirst]
  simp only [List.map_cons, List.map_nil, get_renamed hp hp' ho hbase,
    runtime_renamed hp hp' ho hfirst]
  rfl

end

end

/-- The scopes of the fragments, and those that are handed out from `first` on. -/
def ownScopes (base first : Scope) (code : Bytes) : Set Scope :=
  {scope | (∃ i < Fragment.all.length, scope = base.after i) ∨
    ∃ i < scopesTaken (disassemble first code), scope = first.after i}

/-- **No other scopes occur in an image.** -/
theorem mem_ownScopes {patcher : Patcher} (hp : patcher.Assembled base) {inst : Instruction}
    (hm : inst ∈ (patcher.sections first code).flatten) {scope : Scope}
    (hs : inst.scope = some scope) : scope ∈ ownScopes base first code := by
  by_contra hnot
  -- the scope could be renamed alone, and the sections would still be the same
  obtain ⟨f, hmoved, hkept⟩ : ∃ f : Scope → Scope, f scope ≠ scope ∧
      ∀ other ∈ ownScopes base first code, f other = other := by
    refine ⟨fun other => if other = scope then other.after 1 else other, ?_, fun other ho => ?_⟩
    · simp only [if_true]
      exact fun h => Nat.succ_ne_self _ (congrArg Scope.id h)
    · dsimp only
      rw [if_neg]
      rintro rfl
      exact hnot ho
  have hsections : (patcher.sections first code).map (·.map (·.renamed f)) =
      patcher.sections first code :=
    sections_renamed hp hp rfl (fun i hi => hkept _ (.inl ⟨i, hi, rfl⟩))
      (fun i hi => hkept _ (.inr ⟨i, hi, rfl⟩))
  have hsame := congrArg List.flatten hsections
  rw [← List.map_flatten, ← List.map_id (patcher.sections first code).flatten, List.map_map,
    List.map_inj_left] at hsame
  have hscope := congrArg Instruction.scope (hsame inst hm)
  rw [Function.comp_apply, id, Instruction.renamed, hs, Option.map_some,
    Option.some.injEq] at hscope
  exact hmoved hscope

/-- The name that a scope of one image has in another, whose scopes are handed out from `base'` and
from `first'` on. -/
def renamedScope (base first base' first' scope : Scope) : Scope :=
  if scope.id < first.id then base'.after (scope.id - base.id)
  else first'.after (scope.id - first.id)

theorem renamedScope_base (hfresh : base.id + Fragment.all.length ≤ first.id) {i : Nat}
    (hi : i < Fragment.all.length) :
    renamedScope base first base' first' (base.after i) = base'.after i := by
  have hlt : (base.after i).id < first.id :=
    Nat.lt_of_lt_of_le (Nat.add_lt_add_left hi _) hfresh
  rw [renamedScope, if_pos hlt]
  simp [Scope.after]

theorem renamedScope_first (i : Nat) :
    renamedScope base first base' first' (first.after i) = first'.after i := by
  have hge : ¬ (first.after i).id < first.id := Nat.not_lt.2 (Nat.le_add_right _ _)
  rw [renamedScope, if_neg hge]
  simp [Scope.after]

theorem injOn_renamedScope (hfresh : base.id + Fragment.all.length ≤ first.id)
    (hfresh' : base'.id + Fragment.all.length ≤ first'.id) :
    Set.InjOn (renamedScope base first base' first') (ownScopes base first code) := by
  have hafter {scope : Scope} {i j : Nat} : scope.after i = scope.after j ↔ i = j := by
    simp [Scope.after]
  have happart {i j : Nat} (hi : i < Fragment.all.length) : base'.after i ≠ first'.after j := by
    simp only [Scope.after, ne_eq, Scope.mk.injEq]
    omega
  rintro a (⟨i, hi, rfl⟩ | ⟨i, -, rfl⟩) b (⟨j, hj, rfl⟩ | ⟨j, -, rfl⟩) hab
  · rw [renamedScope_base hfresh hi, renamedScope_base hfresh hj, hafter] at hab
    rw [hab]
  · rw [renamedScope_base hfresh hi, renamedScope_first] at hab
    exact absurd hab (happart hi)
  · rw [renamedScope_first, renamedScope_base hfresh hj] at hab
    exact absurd hab.symm (happart hj)
  · rw [renamedScope_first, renamedScope_first, hafter] at hab
    rw [hab]

/-- **Images with other scopes are the same**, and the names of scopes do not matter, as long as
they tell the scopes apart. -/
theorem encodeSections_sections_eq {patcher patcher' : Patcher} (hp : patcher.Assembled base)
    (hp' : patcher'.Assembled base') (ho : patcher'.options = patcher.options)
    (hfresh : base.id + Fragment.all.length ≤ first.id)
    (hfresh' : base'.id + Fragment.all.length ≤ first'.id)
    (hf : Set.InjOn f (ownScopes base first code)) :
    encodeSections ((patcher.sections first code).map (·.map (·.renamed f))) =
      encodeSections (patcher'.sections first' code) := by
  have hlinkable : Linkable (patcher.sections first code).flatten := linkable_sections hp hfresh
  have hown {g : Scope → Scope} (hg : Set.InjOn g (ownScopes base first code)) :
      Set.InjOn g {scope | ∃ inst ∈ (patcher.sections first code).flatten,
        inst.scope = some scope} :=
    hg.mono fun scope ⟨inst, hm, hs⟩ => mem_ownScopes hp hm hs
  have hg : Set.InjOn (renamedScope base first base' first') (ownScopes base first code) :=
    injOn_renamedScope hfresh hfresh'
  calc encodeSections ((patcher.sections first code).map (·.map (·.renamed f)))
      = encodeSections (patcher.sections first code) := encodeSections_renamed hlinkable (hown hf)
    _ = encodeSections ((patcher.sections first code).map
          (·.map (·.renamed (renamedScope base first base' first')))) :=
      (encodeSections_renamed hlinkable (hown hg)).symm
    _ = encodeSections (patcher'.sections first' code) := by
      rw [sections_renamed hp hp' ho (fun i => renamedScope_base hfresh)
        fun i _ => renamedScope_first i]

end

end Patcher

end EvmProbe
