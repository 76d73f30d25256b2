import EvmProbe.Proofs.Image.Sections
import Mathlib.Data.List.Nodup

/-!
The labels of an image.

* `destinations_runtime`: the destinations that the jump router knows are those of the decoded
  program.
* `nodup_declared`: no label of an image is declared twice, whatever the code and the accounts.
* `exists_entry`: every label that an image refers to is declared.
-/

namespace EvmProbe

open Linking

/-! ## Names -/

namespace Image

theorem toDigits_inj {a b : Nat} (h : Nat.toDigits 10 a = Nat.toDigits 10 b) : a = b := by
  rw [← Nat.ofDigitChars_ten_toDigits (n := a), h, Nat.ofDigitChars_ten_toDigits]

theorem jumpLabel_inj {a b : Nat} : jumpLabel a = jumpLabel b ↔ a = b := by
  refine ⟨fun h => toDigits_inj ?_, fun h => h ▸ rfl⟩
  simpa [jumpLabel, Label.name] using congrArg (·.name.toList) h

theorem nextLabel_inj {a b : Nat} : nextLabel a = nextLabel b ↔ a = b := by
  refine ⟨fun h => toDigits_inj ?_, fun h => h ▸ rfl⟩
  simpa [nextLabel, Label.name] using congrArg (·.name.toList) h

theorem skipLabel_inj {a b : Nat} : skipLabel a = skipLabel b ↔ a = b := by
  refine ⟨fun h => toDigits_inj ?_, fun h => h ▸ rfl⟩
  simpa [skipLabel, Label.name] using congrArg (·.name.toList) h

/-- Labels of destinations start with an underscore, and no other does. -/
theorem head?_jumpLabel (d : Nat) : (jumpLabel d).name.toList.head? = some '_' := by
  simp only [jumpLabel, Label.name, String.toList_append, List.head?_append]
  rfl

theorem head?_skipLabel (i : Nat) : (skipLabel i).name.toList.head? = some 's' := by
  simp only [skipLabel, Label.name, String.toList_append, List.head?_append]
  rfl

end Image

theorem Label.entryIn_inj {scope : Scope} {a b : Label} :
    a.entryIn scope = b.entryIn scope ↔ a = b := by
  cases a <;> cases b <;> simp [entryIn]

theorem filterMap_declared?_duplicate (scope : Scope) (group : List Instruction) :
    (duplicate scope group).filterMap declared? =
      (group.filterMap (·.label)).map (·.entryIn scope) := by
  rw [duplicate, List.filterMap_map, List.map_filterMap]
  exact List.filterMap_congr fun inst _ => declared?_of_scope rfl

namespace Patcher

section
variable {patcher : Patcher} {base first : Scope} {code : Bytes}

/-! ## Destinations -/

theorem source_codeFrom {value : Key → Environment.Value} {scope : Scope} {pending : Option Label}
    {template : Fragment.Template} : ∀ inst ∈ template.codeFrom value scope pending,
      inst.source = none := by
  induction template generalizing pending with
  | nil => simp [Fragment.Template.codeFrom]
  | cons line template ih =>
    cases line with
    | blank => exact ih
    | label target => exact ih
    | instruction opcode term =>
      intro inst hm
      rcases List.mem_cons.1 hm with rfl | hm
      · rfl
      · exact ih inst hm

theorem destinations_expand (hp : patcher.Assembled base) (size : Nat) (scope : Scope)
    (inst : Instruction) :
    Image.destinations (patcher.expand size scope inst) = Image.destinations [inst] := by
  by_cases hj : inst.opcode = .jumpdest
  · rw [expand_jumpdest _ _ hj]
    rfl
  · have hone : Image.destinations [inst] = [] := by simp [Image.destinations, hj]
    rw [hone, Image.destinations, List.filterMap_eq_nil_iff]
    intro i hi
    rcases mem_expand hp hi with ⟨h, -⟩ | ha | ⟨fragment, hf, -⟩
    · exact absurd h hj
    · cases ha with
      | self h => simp [h]
      | offset | size | topics => simp [Instruction.pushInt, Opcode.pushN]
      | origin => simp [Instruction.pushBytes, Opcode.pushN]
    · simp [source_codeFrom i hf]

/-- **The destinations of a runtime are those of the decoded program.** -/
theorem destinations_runtime (hp : patcher.Assembled base) :
    Image.destinations (patcher.runtime first code) =
      Image.destinations (disassemble first code) := by
  have happ (a b : List Instruction) :
      Image.destinations (a ++ b) = Image.destinations a ++ Image.destinations b :=
    List.filterMap_append
  have hsites (sites : List (Instruction × Nat)) :
      Image.destinations (sites.flatMap (patcher.expansion first code)) =
        Image.destinations (sites.map (·.1)) := by
    induction sites with
    | nil => rfl
    | cons site sites ih =>
      rw [List.flatMap_cons, happ, ih, expansion, destinations_expand hp, ← happ]
      rfl
  rw [runtime, List.cons_append, ← List.singleton_append, happ, happ, expansions, hsites,
    List.zipIdx_map_fst]
  simp [Image.destinations, Image.runtimeEntry, Instruction.plain, Instruction.labelled]

theorem mem_destinations {d : Nat} {program : List Instruction} :
    d ∈ Image.destinations program ↔
      ∃ inst ∈ program, inst.opcode = .jumpdest ∧ inst.source = some d := by
  simp [Image.destinations, List.mem_filterMap]

theorem nodup_destinations : (Image.destinations (disassemble first code)).Nodup := by
  have h := (decoded_disassemble first code).pairwise_source
  refine List.Pairwise.imp Nat.ne_of_lt (List.pairwise_filterMap.2 (h.imp ?_))
  intro a b hab j hj k hk
  split at hj
  · split at hk
    · exact hab j k hj hk
    · cases hk
  · cases hj

/-! ## Declared labels -/

/-- What code declares. -/
def declaredIn (code : List Instruction) : List Entry := code.filterMap declared?

theorem declaredIn_append (a b : List Instruction) :
    declaredIn (a ++ b) = declaredIn a ++ declaredIn b :=
  List.filterMap_append

theorem declaredIn_flatMap {α : Type} (l : List α) (f : α → List Instruction) :
    declaredIn (l.flatMap f) = l.flatMap fun x => declaredIn (f x) := by
  rw [declaredIn, List.flatMap, List.filterMap_flatten, List.map_map, ← List.flatMap]
  rfl

theorem nodup_labels (fragment : Fragment) : fragment.template.labels.Nodup := by
  cases fragment <;> decide

/-- No library routine takes part in expansions. -/
theorem not_mem_library_of_spliced? {logsOnly : Bool} {op : Opcode} {fragment : Fragment}
    (h : Image.spliced? logsOnly op = some fragment) : fragment ∉ Fragment.library := by
  unfold Image.spliced? Image.replaced? Image.alwaysReplaced? Image.hookReplaced? at h
  grind [Fragment.library]

/-- The fragments that take part in expansions declare no global label. -/
theorem isGlobal_of_spliced? {logsOnly : Bool} {op : Opcode} {fragment : Fragment}
    (h : Image.spliced? logsOnly op = some fragment) :
    ∀ label ∈ fragment.template.labels, label.isGlobal = false := by
  have hsites : ∀ fragment ∈ Fragment.all, fragment ∉ Fragment.library →
      ∀ label ∈ fragment.template.labels, label.isGlobal = false := by decide
  exact hsites fragment (Fragment.mem_all fragment) (not_mem_library_of_spliced? h)

/-- What an expansion declares is of its own scope, or the label of a destination. -/
theorem mem_declaredIn_expansion (hp : patcher.Assembled base) {i : Nat} {inst : Instruction}
    (hi : (disassemble first code)[i]? = some inst) {entry : Entry}
    (h : entry ∈ declaredIn (patcher.expansion first code (inst, i))) :
    (∃ d, inst.source = some d ∧ entry = ⟨none, (Image.jumpLabel d).name⟩) ∨
      entry.scope = some ((innerScope first code).after i) := by
  obtain ⟨d, byte, immediate, hd⟩ := exists_isDecoded (List.mem_of_getElem? hi)
  rw [expansion, declaredIn, filterMap_declared?_expand hp hd] at h
  split at h
  · rw [List.mem_singleton] at h
    exact .inl ⟨d, hd.source, h⟩
  · split at h
    · next fragment hs =>
      obtain ⟨label, hl, rfl⟩ := List.mem_map.1 h
      have := isGlobal_of_spliced? hs label hl
      cases label with
      | global name => cases this
      | lexical name => exact .inr rfl
    · simp at h

theorem nodup_declaredIn_expansion (hp : patcher.Assembled base) {i : Nat} {inst : Instruction}
    (hi : (disassemble first code)[i]? = some inst) :
    (declaredIn (patcher.expansion first code (inst, i))).Nodup := by
  obtain ⟨d, byte, immediate, hd⟩ := exists_isDecoded (List.mem_of_getElem? hi)
  rw [expansion, declaredIn, filterMap_declared?_expand hp hd]
  split
  · simp
  · split
    · exact (nodup_labels _).map fun _ _ => Label.entryIn_inj.1
    · simp

theorem declaredIn_runtime : declaredIn (patcher.runtime first code) =
    ⟨none, "runtime"⟩ :: (disassemble first code).zipIdx.flatMap
      fun site => declaredIn (patcher.expansion first code site) := by
  rw [runtime, declaredIn_append, ← List.singleton_append, declaredIn_append, expansions,
    declaredIn_flatMap]
  have hstop : declaredIn [Instruction.plain .stop] = [] := rfl
  rw [hstop, List.append_nil]
  rfl

/-- The expansions declare different labels. -/
theorem nodup_declaredIn_runtime (hp : patcher.Assembled base) :
    (declaredIn (patcher.runtime first code)).Nodup := by
  have hsources := (decoded_disassemble first code).pairwise_source
  have hget {site : Instruction × Nat} (h : site ∈ (disassemble first code).zipIdx) :
      (disassemble first code)[site.2]? = some site.1 := List.mem_zipIdx_iff_getElem?.1 h
  rw [declaredIn_runtime, List.nodup_cons, List.nodup_flatMap]
  refine ⟨?_, fun site hm => nodup_declaredIn_expansion hp (hget hm), ?_⟩
  · simp only [List.mem_flatMap, not_exists, not_and]
    intro site hm h
    rcases mem_declaredIn_expansion hp (hget hm) h with ⟨d, -, he⟩ | he
    · have := Image.head?_jumpLabel d
      rw [← (Entry.mk.inj he).2] at this
      simp at this
    · cases he
  · rw [List.pairwise_iff_getElem]
    intro j k hj hk hjk entry ha hb
    rw [List.getElem_zipIdx, Nat.zero_add] at ha hb
    rw [List.length_zipIdx] at hj hk
    have hlt := List.pairwise_iff_getElem.1 hsources j k hj hk hjk
    rcases mem_declaredIn_expansion hp (List.getElem?_eq_getElem hj) ha with ⟨d, hd, he⟩ | he <;>
      rcases mem_declaredIn_expansion hp (List.getElem?_eq_getElem hk) hb with ⟨d', hd', he'⟩ | he'
    · have hdd : Image.jumpLabel d = Image.jumpLabel d' := by
        rw [he] at he'
        exact congrArg Label.global (Entry.mk.inj he').2
      have := hlt d d' hd hd'
      have := Image.jumpLabel_inj.1 hdd
      omega
    · rw [he] at he'
      cases he'
    · rw [he'] at he
      cases he
    · rw [he, Option.some.injEq, Scope.after, Scope.after, Scope.mk.injEq] at he'
      omega

theorem declaredIn_duplicate (scope : Scope) (group : List Instruction) :
    declaredIn (duplicate scope group) = (group.filterMap (·.label)).map (·.entryIn scope) :=
  filterMap_declared?_duplicate scope group

/-- What the library declares. -/
theorem declaredIn_library (hp : patcher.Assembled base) :
    declaredIn (Fragment.library.flatMap patcher.fragments.get) = Fragment.library.flatMap
      fun fragment => fragment.template.labels.map (·.entryIn (base.after fragment.index)) := by
  rw [declaredIn_flatMap]
  refine congrArg (fun f => Fragment.library.flatMap f) (funext fun fragment => ?_)
  rw [hp, declaredIn, Fragment.filterMap_declared?_code]

theorem declaredIn_jumpRouter (scope : Scope) (runtime : List Instruction) :
    declaredIn (Image.jumpRouter scope runtime) =
      ⟨none, "jump-router"⟩ :: (Image.destinations runtime).map
        fun d => (Image.nextLabel d).entryIn scope := by
  have hcases (ds : List Nat) :
      (ds.flatMap Image.jumpCase).filterMap (·.label) = ds.map Image.nextLabel := by
    induction ds with
    | nil => rfl
    | cons d ds ih => rw [List.flatMap_cons, List.filterMap_append, ih]; rfl
  rw [Image.jumpRouter, declaredIn_duplicate, List.filterMap_append, ← List.singleton_append,
    List.filterMap_append, hcases, List.map_append, List.map_append, List.map_map]
  simp [Instruction.labelled, Instruction.plain, Label.entryIn]

/-- The labels that the tests for accounts declare. -/
def skipLabels (accounts : Accounts) : List Label :=
  (List.range accounts.entries.length).map Image.skipLabel

theorem label_accountCases {accounts : Accounts} {answer : DeployedCode → List Instruction}
    (h : ∀ code, (answer code).filterMap (·.label) = []) :
    (Image.accountCases accounts answer).filterMap (·.label) = skipLabels accounts := by
  have hlabels : skipLabels accounts =
      accounts.entries.zipIdx.map fun site => Image.skipLabel site.2 := by
    rw [skipLabels, List.range_eq_range', ← List.zipIdx_map_snd 0 accounts.entries, List.map_map]
    rfl
  unfold Image.accountCases
  rw [hlabels]
  generalize accounts.entries.zipIdx = sites
  induction sites with
  | nil => rfl
  | cons site sites ih =>
    rw [List.flatMap_cons, List.filterMap_append, ih, List.filterMap_append,
      List.filterMap_append, h]
    rfl

/-- The routers for accounts: their names, and the labels that they declare behind the tests. -/
def accountRouterLabels : List (String × List Label) :=
  [("extcodesize-router", []), ("extcodehash-router", []),
    ("extcodecopy-router",
      [.lexical "copy", .lexical "use-size", .lexical "have-n", .lexical "done"])]

theorem declaredIn_accountRouters (scope : Scope) (accounts : Accounts) :
    declaredIn (Image.accountRouters scope accounts).flatten =
      accountRouterLabels.zipIdx.flatMap fun ((name, behind), i) =>
        (.global name :: skipLabels accounts ++ behind).map (·.entryIn (scope.after i)) := by
  have hword (name : String) (op : Opcode) (answer : DeployedCode → Instruction)
      (ha : ∀ code, (answer code).label = none) :
      (Image.wordRouter name op answer accounts).filterMap (·.label) =
        .global name :: skipLabels accounts ++ [] := by
    rw [Image.wordRouter, List.filterMap_append, List.filterMap_append,
      label_accountCases fun code => by simp [Instruction.plain, ha]]
    rfl
  have hcopy : (Image.extcodecopyRouter accounts).filterMap (·.label) =
      .global "extcodecopy-router" :: skipLabels accounts ++
        [.lexical "copy", .lexical "use-size", .lexical "have-n", .lexical "done"] := by
    rw [Image.extcodecopyRouter, List.filterMap_append, List.filterMap_append,
      List.filterMap_append, label_accountCases fun code => rfl]
    simp only [List.append_assoc]
    rfl
  simp only [Image.accountRouters, List.flatten_cons, List.flatten_nil, List.append_nil,
    declaredIn_append, declaredIn_duplicate, Image.extcodesizeRouter, Image.extcodehashRouter]
  rw [hword _ _ _ fun _ => rfl, hword _ _ _ fun _ => rfl, hcopy]
  simp [accountRouterLabels]

/-! ## No label is declared twice -/

/-- A global label of a kind, or a lexical one of a range of scopes. -/
def Within (named : String → Prop) (low high : Nat) (entry : Entry) : Prop :=
  match entry.scope with
  | none => named entry.name
  | some scope => low ≤ scope.id ∧ scope.id < high

theorem Within.disjoint {p q : String → Prop} {a b c d : Nat} {l m : List Entry}
    (hl : ∀ entry ∈ l, Within p a b entry) (hm : ∀ entry ∈ m, Within q c d entry)
    (hnames : ∀ name, p name → ¬ q name) (hscopes : b ≤ c ∨ d ≤ a) : l.Disjoint m := by
  intro entry ha hb
  have ha := hl entry ha
  have hb := hm entry hb
  unfold Within at ha hb
  cases hs : entry.scope with
  | none =>
    rw [hs] at ha hb
    exact hnames _ ha hb
  | some scope =>
    rw [hs] at ha hb
    dsimp only at ha hb
    omega

theorem Within.entryIn {p : String → Prop} {a b : Nat} {scope : Scope} {label : Label}
    (hg : label.isGlobal = true → p label.name) (hs : a ≤ scope.id ∧ scope.id < b) :
    Within p a b (label.entryIn scope) := by
  cases label with
  | global name => exact hg rfl
  | lexical name => exact hs

theorem within_runtime (first : Scope) (code : Bytes) (hp : patcher.Assembled base) :
    ∀ entry ∈ declaredIn (patcher.runtime first code),
      Within (fun name => name = "runtime" ∨ name.toList.head? = some '_')
        (innerScope first code).id (routerScope first code).id entry := by
  intro entry h
  rw [declaredIn_runtime, List.mem_cons, List.mem_flatMap] at h
  rcases h with rfl | ⟨site, hm, h⟩
  · exact .inl rfl
  · have hi := List.mem_zipIdx_iff_getElem?.1 hm
    rcases mem_declaredIn_expansion hp hi h with ⟨d, -, rfl⟩ | he
    · exact .inr (Image.head?_jumpLabel d)
    · have := (List.getElem?_eq_some_iff.1 hi).1
      rw [Within, he]
      simp only [Scope.after, routerScope]
      omega

/-- The names of the library routines. -/
def libraryNames : List String :=
  ["checked-delegatecall", "sstore-hook", "log-hook", "call-hook", "returndatacopy"]

theorem within_library (hp : patcher.Assembled base) :
    ∀ entry ∈ declaredIn (Fragment.library.flatMap patcher.fragments.get),
      Within (· ∈ libraryNames) base.id (base.id + Fragment.all.length) entry := by
  have hnames : ∀ fragment ∈ Fragment.library, ∀ label ∈ fragment.template.labels,
      label.isGlobal = true → label.name ∈ libraryNames := by decide
  intro entry h
  rw [declaredIn_library hp] at h
  obtain ⟨fragment, hf, h⟩ := List.mem_flatMap.1 h
  obtain ⟨label, hl, rfl⟩ := List.mem_map.1 h
  have := fragment.index_lt
  exact .entryIn (hnames fragment hf label hl) (by simp only [Scope.after]; omega)

theorem within_jumpRouter {scope : Scope} {runtime : List Instruction} :
    ∀ entry ∈ declaredIn (Image.jumpRouter scope runtime),
      Within (· = "jump-router") scope.id (scope.id + 1) entry := by
  intro entry h
  rw [declaredIn_jumpRouter, List.mem_cons, List.mem_map] at h
  rcases h with rfl | ⟨d, -, rfl⟩
  · exact rfl
  · exact .entryIn (by simp [Image.nextLabel, Label.isGlobal]) (by omega)

theorem within_accountRouter {scope : Scope} {accounts : Accounts} {name : String}
    {behind : List Label} {i : Nat} (hb : ∀ label ∈ behind, label.isGlobal = false) :
    ∀ entry ∈ (.global name :: skipLabels accounts ++ behind).map (·.entryIn (scope.after i)),
      Within (· = name) (scope.id + i) (scope.id + i + 1) entry := by
  intro entry h
  obtain ⟨label, hl, rfl⟩ := List.mem_map.1 h
  refine .entryIn (fun hg => ?_) (by simp only [Scope.after]; omega)
  simp only [List.cons_append, List.mem_cons, List.mem_append] at hl
  rcases hl with rfl | hl | hl
  · rfl
  · obtain ⟨j, -, rfl⟩ := List.mem_map.1 hl
    cases hg
  · rw [hb label hl] at hg
    cases hg

theorem within_accountRouters {scope : Scope} {accounts : Accounts} :
    ∀ entry ∈ declaredIn (Image.accountRouters scope accounts).flatten,
      Within (· ∈ accountRouterLabels.map (·.1)) scope.id (scope.id + 3) entry := by
  intro entry h
  rw [declaredIn_accountRouters] at h
  obtain ⟨⟨⟨name, behind⟩, i⟩, hm, h⟩ := List.mem_flatMap.1 h
  have hall : ∀ site ∈ accountRouterLabels.zipIdx, site.1.1 ∈ accountRouterLabels.map (·.1) ∧
      site.2 < 3 ∧ ∀ label ∈ site.1.2, label.isGlobal = false := by decide
  obtain ⟨hn, hi, hb⟩ := hall _ hm
  have hw := within_accountRouter hb entry h
  unfold Within at hw ⊢
  cases hs : entry.scope with
  | none =>
    rw [hs] at hw
    rw [show entry.name = name from hw]
    exact hn
  | some scope' =>
    rw [hs] at hw
    dsimp only at hw hi ⊢
    omega

theorem nodup_declaredIn_library (hp : patcher.Assembled base) :
    (declaredIn (Fragment.library.flatMap patcher.fragments.get)).Nodup := by
  rw [declaredIn_library hp, List.nodup_flatMap]
  refine ⟨fun fragment _ => (nodup_labels fragment).map fun _ _ => Label.entryIn_inj.1, ?_⟩
  have hnames : Fragment.library.Pairwise fun a b => a ≠ b ∧ ∀ label ∈ a.template.labels,
      label.isGlobal = true → label ∉ b.template.labels := by decide
  refine hnames.imp fun {a b} ⟨hab, hnot⟩ entry ha hb => ?_
  obtain ⟨label, hl, rfl⟩ := List.mem_map.1 ha
  obtain ⟨label', hl', he⟩ := List.mem_map.1 hb
  cases label with
  | global name =>
    cases label' with
    | global name' =>
      obtain rfl : name' = name := (Entry.mk.inj he).2
      exact hnot _ hl rfl hl'
    | lexical name' => cases (Entry.mk.inj he).1
  | lexical name =>
    cases label' with
    | global name' => cases (Entry.mk.inj he).1
    | lexical name' =>
      have hscope := (Entry.mk.inj he).1
      simp only [Scope.after, Option.some.injEq, Scope.mk.injEq] at hscope
      exact hab (Fragment.index_inj.1 (by omega))

theorem nodup_declaredIn_jumpRouter (scope : Scope) {runtime : List Instruction}
    (hd : (Image.destinations runtime).Nodup) :
    (declaredIn (Image.jumpRouter scope runtime)).Nodup := by
  rw [declaredIn_jumpRouter, List.nodup_cons]
  constructor
  · simp [Image.nextLabel, Label.entryIn]
  · exact hd.map fun a b h => Image.nextLabel_inj.1 (Label.entryIn_inj.1 h)

theorem nodup_declaredIn_accountRouters (scope : Scope) (accounts : Accounts) :
    (declaredIn (Image.accountRouters scope accounts).flatten).Nodup := by
  have hskip : (skipLabels accounts).Nodup :=
    List.nodup_range.map fun _ _ h => Image.skipLabel_inj.1 h
  rw [declaredIn_accountRouters, List.nodup_flatMap]
  constructor
  · rintro ⟨⟨name, behind⟩, i⟩ hm
    refine List.Nodup.map (fun _ _ => Label.entryIn_inj.1) ?_
    have hall : ∀ site ∈ accountRouterLabels.zipIdx, site.1.2.Nodup ∧
        ∀ label ∈ site.1.2, label.isGlobal = false ∧
          label.name.toList.head? ≠ some 's' := by decide
    obtain ⟨hb, hlex⟩ := hall _ hm
    rw [List.cons_append, List.nodup_cons, List.nodup_append]
    refine ⟨?_, hskip, hb, ?_⟩
    · rw [List.mem_append, not_or]
      constructor
      · intro h
        obtain ⟨j, -, h⟩ := List.mem_map.1 h
        cases h
      · intro h
        cases (hlex _ h).1
    · rintro label ha _ hb rfl
      obtain ⟨j, -, rfl⟩ := List.mem_map.1 ha
      exact (hlex _ hb).2 (Image.head?_skipLabel j)
  · have hpair : accountRouterLabels.zipIdx.Pairwise fun a b => a.1.1 ≠ b.1.1 ∧ a.2 < b.2 ∧
        (∀ label ∈ a.1.2, label.isGlobal = false) ∧
        ∀ label ∈ b.1.2, label.isGlobal = false := by decide
    refine hpair.imp fun {a b} ⟨hne, hlt, ha, hb⟩ => ?_
    exact Within.disjoint (within_accountRouter ha) (within_accountRouter hb)
      (fun _ h h' => hne (h.symm.trans h')) (by omega)

/-- What an image declares. -/
theorem declaredIn_sections (first : Scope) (code : Bytes) (hp : patcher.Assembled base) :
    declaredIn (patcher.leading code ++ patcher.instrumented first code) =
      declaredIn (patcher.runtime first code) ++
        declaredIn (Fragment.library.flatMap patcher.fragments.get) ++
        declaredIn (Image.jumpRouter (routerScope first code) (patcher.runtime first code)) ++
        declaredIn (Image.accountRouters ((routerScope first code).after 1)
          patcher.options.accounts).flatten := by
  have hlead : declaredIn (patcher.leading code) = [] := by
    rw [leading, preamble_eq hp]
    rfl
  rw [declaredIn_append, hlead, List.nil_append, instrumented_eq, declaredIn_append,
    declaredIn_append, declaredIn_append]

/-- **No label of an image is declared twice**, if the scopes of its program are fresh. -/
theorem nodup_declared (hp : patcher.Assembled base)
    (hfresh : base.id + Fragment.all.length ≤ first.id) :
    (declaredIn (patcher.leading code ++ patcher.instrumented first code)).Nodup := by
  have hruntime := within_runtime first code hp
  have hlibrary := within_library hp
  have hinner : first.id ≤ (innerScope first code).id := Nat.le_add_right _ _
  have hrouter : (innerScope first code).id ≤ (routerScope first code).id := Nat.le_add_right _ _
  have hafter : ((routerScope first code).after 1).id = (routerScope first code).id + 1 := rfl
  have hds : (Image.destinations (patcher.runtime first code)).Nodup := by
    rw [destinations_runtime hp]
    exact nodup_destinations
  rw [declaredIn_sections first code hp]
  refine (((nodup_declaredIn_runtime hp).append (nodup_declaredIn_library hp) ?_).append
    (nodup_declaredIn_jumpRouter _ hds) ?_).append (nodup_declaredIn_accountRouters _ _) ?_
  · refine Within.disjoint hruntime hlibrary ?_ (by omega)
    rintro name (rfl | h) hm
    · revert hm; decide
    · simp only [libraryNames, List.mem_cons, List.not_mem_nil, or_false] at hm
      rcases hm with rfl | rfl | rfl | rfl | rfl <;> simp at h
  · refine List.disjoint_append_left.2 ⟨Within.disjoint hruntime within_jumpRouter ?_ (by omega),
      Within.disjoint hlibrary within_jumpRouter ?_ (by omega)⟩
    · rintro name (rfl | h) hn
      · simp at hn
      · simp [hn] at h
    · rintro name h rfl
      revert h; decide
  · refine List.disjoint_append_left.2 ⟨List.disjoint_append_left.2
      ⟨Within.disjoint hruntime within_accountRouters ?_ (by omega),
        Within.disjoint hlibrary within_accountRouters ?_ (by omega)⟩,
      Within.disjoint within_jumpRouter within_accountRouters ?_ (by omega)⟩
    · rintro name (rfl | h) hm
      · revert hm; decide
      · simp only [accountRouterLabels, List.map_cons, List.map_nil, List.mem_cons,
          List.not_mem_nil, or_false] at hm
        rcases hm with rfl | rfl | rfl <;> simp at h
    · intro name h hm
      revert hm
      simp only [libraryNames, List.mem_cons, List.not_mem_nil, or_false] at h
      rcases h with rfl | rfl | rfl | rfl | rfl <;> decide
    · rintro name rfl hm
      revert hm; decide

/-! ## Every reference is declared -/

/-- The names of the global labels that every image declares. -/
def globalNames : List String :=
  "runtime" :: libraryNames ++ "jump-router" :: accountRouterLabels.map (·.1)

theorem mem_declaredIn_of_mem_globalNames (first : Scope) (code : Bytes)
    (hp : patcher.Assembled base) {name : String} (h : name ∈ globalNames) :
    ⟨none, name⟩ ∈ declaredIn (patcher.leading code ++ patcher.instrumented first code) := by
  rw [declaredIn_sections first code hp]
  simp only [globalNames, List.cons_append, List.mem_cons, List.mem_append] at h
  rcases h with rfl | h | rfl | h
  · refine List.mem_append_left _ (List.mem_append_left _ (List.mem_append_left _ ?_))
    rw [declaredIn_runtime]
    exact List.mem_cons_self
  · refine List.mem_append_left _ (List.mem_append_left _ (List.mem_append_right _ ?_))
    have hlib : ∀ name ∈ libraryNames, ∃ fragment ∈ Fragment.library,
        .global name ∈ fragment.template.labels := by decide
    obtain ⟨fragment, hf, hl⟩ := hlib name h
    rw [declaredIn_library hp]
    exact List.mem_flatMap.2 ⟨fragment, hf, List.mem_map.2 ⟨_, hl, rfl⟩⟩
  · refine List.mem_append_left _ (List.mem_append_right _ ?_)
    rw [declaredIn_jumpRouter]
    exact List.mem_cons_self
  · refine List.mem_append_right _ ?_
    have hrouters : ∀ name ∈ accountRouterLabels.map (·.1),
        ∃ site ∈ accountRouterLabels.zipIdx, site.1.1 = name := by decide
    obtain ⟨site, hm, rfl⟩ := hrouters name h
    rw [declaredIn_accountRouters]
    exact List.mem_flatMap.2 ⟨site, hm, List.mem_map.2 ⟨.global site.1.1, by simp, rfl⟩⟩

/-- The references of code are among entries. -/
def RefersTo (entries : List Entry) (code : List Instruction) : Prop :=
  ∀ inst ∈ code, ∀ label, reference? inst = some label →
    ∃ entry ∈ entries, entryOf label inst.scope = .ok entry

theorem RefersTo.append {entries : List Entry} {a b : List Instruction} (ha : RefersTo entries a)
    (hb : RefersTo entries b) : RefersTo entries (a ++ b) :=
  fun inst hm => (List.mem_append.1 hm).elim (ha inst) (hb inst)

theorem refersTo_duplicate {entries : List Entry} {scope : Scope} {group : List Instruction}
    (h : ∀ label ∈ group.filterMap reference?, label.entryIn scope ∈ entries) :
    RefersTo entries (duplicate scope group) := by
  intro inst hm label hr
  obtain ⟨i, hi, rfl⟩ := List.mem_map.1 hm
  exact ⟨_, h label (List.mem_filterMap.2 ⟨i, hi, hr⟩), entryOf_some label scope⟩

/-- A fragment refers to its own labels and to global ones. -/
theorem refersTo_code {entries : List Entry} {options : PatchOptions} {scope : Scope}
    {fragment : Fragment} (hglobal : ∀ name ∈ globalNames, ⟨none, name⟩ ∈ entries)
    (hown : ∀ label ∈ fragment.template.labels, label.entryIn scope ∈ entries) :
    RefersTo entries (fragment.code options scope) := by
  have hnames : ∀ fragment ∈ Fragment.all, ∀ label ∈ fragment.template.references,
      label.isGlobal = true → label.name ∈ globalNames := by decide
  rw [← Fragment.duplicate_code options scope fragment scope]
  refine refersTo_duplicate fun label hl => ?_
  rw [Fragment.filterMap_reference?_code] at hl
  cases label with
  | global name => exact hglobal name (hnames fragment (Fragment.mem_all _) _ hl rfl)
  | lexical name => exact hown _ (Fragment.lexical_mem_labels fragment hl)

/-- The runtime declares the label of every destination. -/
theorem jumpLabel_mem_declaredIn (hp : patcher.Assembled base) {d : Nat}
    (h : d ∈ Image.destinations (disassemble first code)) :
    ⟨none, (Image.jumpLabel d).name⟩ ∈ declaredIn (patcher.runtime first code) := by
  obtain ⟨inst, hm, hj, hs⟩ := mem_destinations.1 h
  obtain ⟨i, hi⟩ := List.getElem?_of_mem hm
  obtain ⟨d', byte, immediate, hd⟩ := exists_isDecoded hm
  obtain rfl : d' = d := by simpa [hd.source] using hs
  rw [declaredIn_runtime]
  refine List.mem_cons_of_mem _ (List.mem_flatMap.2 ⟨(inst, i),
    List.mem_zipIdx_iff_getElem?.2 hi, ?_⟩)
  rw [expansion, declaredIn, filterMap_declared?_expand hp hd, if_pos hj]
  exact List.mem_singleton.2 rfl

theorem refersTo_runtime (hp : patcher.Assembled base) {entries : List Entry}
    (hglobal : ∀ name ∈ globalNames, ⟨none, name⟩ ∈ entries)
    (hown : ∀ entry ∈ declaredIn (patcher.runtime first code), entry ∈ entries) :
    RefersTo entries (patcher.runtime first code) := by
  intro inst hm label hr
  rw [runtime, List.mem_append, List.mem_cons, List.mem_singleton] at hm
  rcases hm with (rfl | hm) | rfl
  · cases hr
  · obtain ⟨site, j, hj, hi⟩ := mem_expansions.1 hm
    obtain ⟨d, byte, immediate, hd⟩ := exists_isDecoded (List.mem_of_getElem? hj)
    rcases mem_expand hp hi with ⟨-, rfl⟩ | ha | ⟨fragment, hf, hs⟩
    · rw [show reference? (site.labelled _) = reference? site from rfl,
        hd.reference?_eq_none] at hr
      cases hr
    · rw [(ha.spec _ hd).2.2] at hr
      cases hr
    · refine refersTo_code hglobal (fun label hl => hown _ ?_) inst hf label hr
      have hnj : site.opcode ≠ .jumpdest := by
        intro h
        rw [h] at hs
        cases hlogs : patcher.options.logsOnly <;> rw [hlogs] at hs <;> cases hs
      rw [declaredIn_runtime]
      refine List.mem_cons_of_mem _ (List.mem_flatMap.2 ⟨(site, j),
        List.mem_zipIdx_iff_getElem?.2 hj, ?_⟩)
      rw [expansion, declaredIn, filterMap_declared?_expand hp hd, if_neg hnj, hs]
      exact List.mem_map_of_mem hl
  · cases hr

theorem refersTo_jumpRouter {entries : List Entry} {scope : Scope} {runtime : List Instruction}
    (hd : ∀ d ∈ Image.destinations runtime, ⟨none, (Image.jumpLabel d).name⟩ ∈ entries)
    (hown : ∀ entry ∈ declaredIn (Image.jumpRouter scope runtime), entry ∈ entries) :
    RefersTo entries (Image.jumpRouter scope runtime) := by
  have href (ds : List Nat) : (ds.flatMap Image.jumpCase).filterMap reference? =
      ds.flatMap fun d => [Image.nextLabel d, Image.jumpLabel d] := by
    induction ds with
    | nil => rfl
    | cons d ds ih => rw [List.flatMap_cons, List.filterMap_append, ih]; rfl
  refine refersTo_duplicate fun label hl => ?_
  rw [List.filterMap_append, ← List.singleton_append, List.filterMap_append, href] at hl
  simp only [List.mem_append, List.mem_flatMap, List.mem_cons, List.not_mem_nil, or_false] at hl
  rcases hl with (hl | ⟨d, hm, rfl | rfl⟩) | hl
  · cases hl
  · refine hown _ ?_
    rw [declaredIn_jumpRouter]
    exact List.mem_cons_of_mem _ (List.mem_map.2 ⟨d, hm, rfl⟩)
  · exact hd d hm
  · cases hl

/-- The tests for accounts refer to the labels behind them, and to what the answers refer to. -/
theorem reference_accountCases {accounts : Accounts} {answer : DeployedCode → List Instruction}
    {label : Label} (hl : label ∈ (Image.accountCases accounts answer).filterMap reference?) :
    label ∈ skipLabels accounts ∨ ∃ code, label ∈ (answer code).filterMap reference? := by
  obtain ⟨inst, hm, hr⟩ := List.mem_filterMap.1 hl
  obtain ⟨⟨⟨address, code⟩, i⟩, hsite, hm⟩ := List.mem_flatMap.1 hm
  dsimp only at hm
  rw [List.append_assoc, List.mem_append, List.mem_append, List.mem_singleton] at hm
  rcases hm with hm | hm | rfl
  · have hin : label ∈ (Image.matchAddress address (Image.skipLabel i)).filterMap reference? :=
      List.mem_filterMap.2 ⟨inst, hm, hr⟩
    rw [show (Image.matchAddress address (Image.skipLabel i)).filterMap reference? =
      [Image.skipLabel i] from rfl, List.mem_singleton] at hin
    have hlt := (List.getElem?_eq_some_iff.1 (List.mem_zipIdx_iff_getElem?.1 hsite)).1
    exact .inl (hin ▸ List.mem_map_of_mem (List.mem_range.2 hlt))
  · exact .inr ⟨code, List.mem_filterMap.2 ⟨inst, hm, hr⟩⟩
  · cases hr

/-- A router that answers with one word refers to the labels behind its tests. -/
theorem reference_wordRouter {accounts : Accounts} {name : String} {op : Opcode}
    {answer : DeployedCode → Instruction} (ha : ∀ code, reference? (answer code) = none)
    {label : Label} (hl : label ∈ (Image.wordRouter name op answer accounts).filterMap reference?) :
    label ∈ skipLabels accounts := by
  rw [Image.wordRouter, List.filterMap_append, List.filterMap_append, List.mem_append,
    List.mem_append] at hl
  rcases hl with (hl | hl) | hl
  · cases hl
  · rcases reference_accountCases hl with hl | ⟨code, hl⟩
    · exact hl
    · obtain ⟨inst, hm, hr⟩ := List.mem_filterMap.1 hl
      simp only [List.mem_cons, List.not_mem_nil, or_false] at hm
      rcases hm with rfl | rfl | rfl | rfl
      · cases hr
      · rw [ha] at hr
        cases hr
      all_goals cases hr
  · cases hl

/-- The router for EXTCODECOPY refers to the labels behind its tests and to those of the copy. -/
theorem reference_extcodecopyRouter {accounts : Accounts} {label : Label}
    (hl : label ∈ (Image.extcodecopyRouter accounts).filterMap reference?) :
    label ∈ skipLabels accounts ++ [.lexical "copy", .lexical "use-size", .lexical "have-n",
      .lexical "done"] := by
  rw [Image.extcodecopyRouter, List.filterMap_append, List.filterMap_append,
    List.filterMap_append, List.mem_append, List.mem_append, List.mem_append] at hl
  rw [List.mem_append]
  rcases hl with ((hl | hl) | hl) | hl
  · cases hl
  · rcases reference_accountCases hl with hl | ⟨code, hl⟩
    · exact .inl hl
    · obtain rfl : label = .lexical "copy" := List.mem_singleton.1 hl
      exact .inr (by decide)
  · cases hl
  · have hcopy : ∀ label ∈ Image.copyDeployed.filterMap reference?, label ∈ [.lexical "copy",
        .lexical "use-size", .lexical "have-n", .lexical "done"] := by decide
    exact .inr (hcopy label hl)

theorem refersTo_accountRouters {entries : List Entry} {scope : Scope} {accounts : Accounts}
    (hown : ∀ entry ∈ declaredIn (Image.accountRouters scope accounts).flatten,
      entry ∈ entries) :
    RefersTo entries (Image.accountRouters scope accounts).flatten := by
  have hmem (i : Nat) (name : String) (behind : List Label) {label : Label}
      (hs : ((name, behind), i) ∈ accountRouterLabels.zipIdx)
      (hl : label ∈ skipLabels accounts ++ behind) :
      label.entryIn (scope.after i) ∈ entries := by
    refine hown _ ?_
    rw [declaredIn_accountRouters]
    refine List.mem_flatMap.2 ⟨((name, behind), i), hs, List.mem_map.2 ⟨label, ?_, rfl⟩⟩
    rw [List.cons_append]
    exact List.mem_cons_of_mem _ hl
  simp only [Image.accountRouters, List.flatten_cons, List.flatten_nil, List.append_nil]
  refine .append (refersTo_duplicate fun label hl => ?_) (.append
    (refersTo_duplicate fun label hl => ?_) (refersTo_duplicate fun label hl => ?_))
  · exact hmem 0 "extcodesize-router" [] (by decide)
      (List.mem_append_left _ (reference_wordRouter (fun _ => rfl) hl))
  · exact hmem 1 "extcodehash-router" [] (by decide)
      (List.mem_append_left _ (reference_wordRouter (fun _ => rfl) hl))
  · exact hmem 2 "extcodecopy-router" _ (by decide) (reference_extcodecopyRouter hl)

/-- **Every label that an image refers to is declared.** -/
theorem exists_entry (hp : patcher.Assembled base) :
    RefersTo (declaredIn (patcher.leading code ++ patcher.instrumented first code))
      (patcher.leading code ++ patcher.instrumented first code) := by
  have hglobal (name : String) (h : name ∈ globalNames) :=
    mem_declaredIn_of_mem_globalNames first code hp h
  have hsub := declaredIn_sections first code hp
  generalize hentries : declaredIn (patcher.leading code ++ patcher.instrumented first code) =
    entries at hglobal hsub ⊢
  have hlead : RefersTo entries (patcher.leading code) := by
    intro inst hm label hr
    rw [leading, preamble_eq hp] at hm
    simp only [List.cons_append, List.nil_append, List.mem_cons, List.not_mem_nil, or_false] at hm
    rcases hm with rfl | rfl | rfl | rfl
    · obtain rfl : label = .global "runtime" := (Option.some.inj hr).symm
      exact ⟨_, hglobal "runtime" (by decide), rfl⟩
    all_goals cases hr
  rw [instrumented_eq]
  refine hlead.append (((refersTo_runtime hp hglobal ?_).append ?_).append
    (refersTo_jumpRouter ?_ ?_) |>.append (refersTo_accountRouters ?_))
  · intro entry h
    simp [hsub, h]
  · intro inst hm
    obtain ⟨fragment, hf, hm⟩ := List.mem_flatMap.1 hm
    rw [hp] at hm
    refine refersTo_code hglobal (fun label hl => ?_) inst hm
    rw [hsub, declaredIn_library hp]
    simp only [List.mem_append]
    exact .inl (.inl (.inr (List.mem_flatMap.2 ⟨fragment, hf, List.mem_map_of_mem hl⟩)))
  · intro d hd
    rw [destinations_runtime hp] at hd
    simp [hsub, jumpLabel_mem_declaredIn hp hd]
  · intro entry h
    simp [hsub, h]
  · intro entry h
    simp [hsub, h]

end

end Patcher

end EvmProbe
