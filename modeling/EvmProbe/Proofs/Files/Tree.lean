import EvmProbe.Files.Tree
import EvmProbe.Proofs.Text.Fields

/-!
What the operations on a tree of files find and leave.

* `Path.steps_join`: a path that is made of names has these as its steps.
* `FileTree.Leads`: steps lead through directories; `locate_append` follows them.
* `FileTree.Grows`: a tree has got more directories, and has lost nothing; this is all that comes of
  the creation of directories (`createFrom_ok`), which fails only where there is a file
  (`exists_createFrom`).
* `FileTree.Updates`: one file of a tree is changed, and nothing else.
-/

namespace EvmProbe

/-! ## Actions -/

/-- The first of two actions is run. -/
theorem run_bind_of_eq {σ α β : Type} {act : StateM σ α} {next : α → StateM σ β}
    {before after : σ} {a : α} (h : act.run before = (a, after)) :
    (act >>= next).run before = (next a).run after := by
  rw [StateT.run_bind, h]
  rfl

/-! ## Paths -/

namespace Path

/-- A name of a file or a directory. -/
structure IsName (name : String) : Prop where
  nonempty : name ≠ ""
  notHere : name ≠ "."
  notAbove : name ≠ ".."
  noSlash : '/' ∉ name.toList

variable {directory name : String} {names : List String}

theorem steps_ofList_append (a b : List Char) :
    steps (String.ofList (a ++ '/' :: b)) = steps (String.ofList a) ++ steps (String.ofList b) := by
  simp only [steps, String.toList_ofList]
  rw [Text.fields_append_cons (· == '/') rfl, List.map_append, List.filter_append]

theorem steps_name (h : IsName name) : steps name = [name] := by
  have hfields : Text.fields (· == '/') name.toList = [name.toList] :=
    Text.fields_of_forall fun c hc => by
      simp only [beq_eq_false_iff_ne]
      exact fun he => h.noSlash (he ▸ hc)
  simp [steps, hfields, h.nonempty, h.notHere]

/-- **A name below a directory is one more step.** -/
theorem steps_join (directory : String) (h : IsName name) :
    steps (join directory name) = steps directory ++ [name] := by
  have hrelative : ¬ name.startsWith "/" := by
    rw [String.startsWith_string_iff]
    exact fun hp => h.noSlash (hp.subset (List.mem_singleton_self _))
  rw [← steps_name h]
  unfold join
  by_cases hempty : directory.isEmpty
  · have hnil : directory = "" := String.isEmpty_iff.1 hempty
    rw [if_pos (.inr hempty), hnil]
    rfl
  · rw [if_neg (not_or.2 ⟨hrelative, hempty⟩)]
    by_cases hslash : directory.endsWith "/"
    · have hsuffix : "/".toList <:+ directory.toList := by
        rw [← String.copy_toSlice (s := directory), ← String.Slice.endsWith_string_iff]
        exact hslash
      obtain ⟨front, hfront⟩ := hsuffix
      have hdirectory : directory = String.ofList (front ++ '/' :: []) :=
        String.toList_inj.1 (hfront.symm.trans String.toList_ofList.symm)
      have hjoined : directory ++ name = String.ofList (front ++ '/' :: name.toList) :=
        String.toList_inj.1 (by rw [String.toList_append, ← hfront, String.toList_ofList]; simp)
      rw [if_pos hslash, hjoined, hdirectory, steps_ofList_append, steps_ofList_append,
        String.ofList_toList]
      simp [steps, Text.fields_nil]
    · have hjoined : directory ++ "/" ++ name =
          String.ofList (directory.toList ++ '/' :: name.toList) :=
        String.toList_inj.1 (by simp)
      rw [if_neg hslash, hjoined, steps_ofList_append, String.ofList_toList, String.ofList_toList]

/-- Names below a directory are as many more steps. -/
theorem steps_joinAll (directory : String) (h : ∀ name ∈ names, IsName name) :
    steps (joinAll directory names) = steps directory ++ names := by
  induction names generalizing directory with
  | nil => exact (List.append_nil _).symm
  | cons name names ih =>
    rw [joinAll, List.foldl_cons, ← joinAll, ih _ fun n hn => h n (List.mem_cons_of_mem _ hn),
      steps_join _ (h name List.mem_cons_self), List.append_assoc, List.singleton_append]

end Path

namespace FileTree
variable {tree later : FileTree} {place path : List String} {content : Option String}

/-! ## Entries -/

theorem lookup_filter_ne (path : List String) {other : List String} (h : other ≠ path)
    (entries : List (List String × Option String)) :
    (entries.filter (·.1 != path)).lookup other = entries.lookup other := by
  induction entries with
  | nil => rfl
  | cons entry entries ih =>
    by_cases he : entry.1 = path
    · have hne : (other == entry.1) = false := by simpa [he] using h
      rw [List.filter_cons_of_neg (by simp [he]), ih, List.lookup_cons, hne]
    · rw [List.filter_cons_of_pos (by simp [he]), List.lookup_cons, List.lookup_cons, ih]

/-- What is put at a path is found there, and everything else is found as before. -/
theorem find?_put (tree : FileTree) {path : List String} (content : Option String)
    (hne : path ≠ []) (other : List String) :
    (tree.put path content).find? other =
      if other = path then some content else tree.find? other := by
  by_cases hroot : other.isEmpty
  · have hnil : other = [] := List.isEmpty_iff.1 hroot
    rw [find?, if_pos hroot, find?, if_pos hroot, if_neg (hnil ▸ hne.symm)]
  · rw [find?, if_neg hroot, find?, if_neg hroot]
    simp only [put, List.lookup_cons]
    by_cases h : other = path
    · simp [h]
    · have hbeq : (other == path) = false := by simp [h]
      rw [hbeq, if_neg h]
      exact lookup_filter_ne path h _

/-- What is taken away is not found, and everything else is found as before. -/
theorem find?_erase (tree : FileTree) {path : List String} (hne : path ≠ []) (other : List String) :
    (tree.erase path).find? other = if other = path then none else tree.find? other := by
  by_cases hroot : other.isEmpty
  · have hnil : other = [] := List.isEmpty_iff.1 hroot
    rw [find?, if_pos hroot, find?, if_pos hroot, if_neg (hnil ▸ hne.symm)]
  · rw [find?, if_neg hroot, find?, if_neg hroot, erase]
    by_cases h : other = path
    · rw [if_pos h, List.lookup_eq_none_iff]
      intro entry hm
      obtain ⟨-, hentry⟩ := List.mem_filter.1 hm
      rwa [h, bne_comm]
    · rw [if_neg h]
      exact lookup_filter_ne path h _

/-! ## Steps -/

/-- Where steps lead from a directory. -/
def resolve : (place steps : List String) → List String
  | place, [] => place
  | place, step :: rest =>
    resolve (if step = ".." then place.dropLast else place ++ [step]) rest

/-- Steps from a directory lead through directories. -/
def Leads (tree : FileTree) : (place steps : List String) → Prop
  | _, [] => True
  | place, step :: rest =>
    (step ≠ ".." → tree.find? (place ++ [step]) = some none) ∧
      tree.Leads (if step = ".." then place.dropLast else place ++ [step]) rest

theorem locate_above (tree : FileTree) (place rest : List String) :
    tree.locate place (".." :: rest) = tree.locate place.dropLast rest := by
  cases rest <;> rfl

theorem locate_name (tree : FileTree) (place : List String) {name : String} (h : name ≠ "..") :
    tree.locate place [name] = .ok (place ++ [name]) := by
  unfold locate
  split <;> simp_all

theorem locate_directory {step : String} {rest : List String} (h : step ≠ "..") (hne : rest ≠ [])
    (hd : tree.find? (place ++ [step]) = some none) :
    tree.locate place (step :: rest) = tree.locate (place ++ [step]) rest := by
  rw [locate, hd]
  all_goals simp_all

/-- **Steps through directories are followed.** -/
theorem locate_append {front rest : List String} (h : tree.Leads place front) (hne : rest ≠ []) :
    tree.locate place (front ++ rest) = tree.locate (resolve place front) rest := by
  induction front generalizing place with
  | nil => rfl
  | cons step front ih =>
    obtain ⟨hd, hleads⟩ := h
    rw [List.cons_append, resolve]
    by_cases habove : step = ".."
    · rw [if_pos habove] at hleads ⊢
      rw [habove, locate_above, ih hleads]
    · rw [if_neg habove] at hleads ⊢
      rw [locate_directory habove (by simp [hne]) (hd habove), ih hleads]

theorem resolve_append (place front rest : List String) :
    resolve place (front ++ rest) = resolve (resolve place front) rest := by
  induction front generalizing place with
  | nil => rfl
  | cons step front ih => exact ih _

theorem resolve_names {names : List String} (place : List String)
    (h : ∀ name ∈ names, name ≠ "..") : resolve place names = place ++ names := by
  induction names generalizing place with
  | nil => exact (List.append_nil place).symm
  | cons name names ih =>
    rw [resolve, if_neg (h name List.mem_cons_self),
      ih _ fun n hn => h n (List.mem_cons_of_mem _ hn), List.append_assoc, List.singleton_append]

theorem leads_append {front rest : List String} :
    tree.Leads place (front ++ rest) ↔
      tree.Leads place front ∧ tree.Leads (resolve place front) rest := by
  induction front generalizing place with
  | nil => exact (and_iff_right trivial).symm
  | cons step front ih =>
    rw [List.cons_append, Leads, Leads, resolve, ih, and_assoc]

/-- A place that steps from a directory lead to on their way. -/
def Visits (place steps path : List String) : Prop :=
  ∃ front, front <+: steps ∧ front ≠ [] ∧ path = resolve place front

theorem Visits.cons {step : String} {rest : List String}
    (h : Visits (if step = ".." then place.dropLast else place ++ [step]) rest path) :
    Visits place (step :: rest) path := by
  obtain ⟨front, hp, -, rfl⟩ := h
  exact ⟨step :: front, List.cons_prefix_cons.2 ⟨rfl, hp⟩, List.cons_ne_nil _ _, rfl⟩

theorem Visits.head {step : String} (h : step ≠ "..") (place rest : List String) :
    Visits place (step :: rest) (place ++ [step]) :=
  ⟨[step], List.cons_prefix_cons.2 ⟨rfl, rest.nil_prefix⟩, List.cons_ne_nil _ _, by
    rw [resolve, if_neg h, resolve]⟩

/-- Names lead further down. -/
theorem Visits.of_names {names : List String} (h : Visits place names path)
    (hn : ∀ name ∈ names, name ≠ "..") :
    ∃ front, front <+: names ∧ front ≠ [] ∧ path = place ++ front := by
  obtain ⟨front, hp, hne, rfl⟩ := h
  exact ⟨front, hp, hne, resolve_names _ fun name hm => hn name (hp.subset hm)⟩

/-- Directories that stay go on to lead somewhere. -/
theorem Leads.mono {steps : List String} (h : tree.Leads place steps)
    (hd : ∀ path, Visits place steps path → tree.find? path = some none →
      later.find? path = some none) : later.Leads place steps := by
  induction steps generalizing place with
  | nil => trivial
  | cons step steps ih =>
    exact ⟨fun habove => hd _ (.head habove place steps) (h.1 habove),
      ih h.2 fun path hv => hd path hv.cons⟩

/-- The place of a file in a directory. -/
theorem locate_file {steps : List String} {name : String} (h : tree.Leads place steps)
    (hn : name ≠ "..") :
    tree.locate place (steps ++ [name]) = .ok (resolve place steps ++ [name]) := by
  rw [locate_append h (List.cons_ne_nil _ _), locate_name _ _ hn]

/-! ## Directories that are added -/

/-- Of what there is at paths, some places have become directories, and nothing is lost. -/
def Grows (added : List String → Prop) (before after : List String → Option (Option String)) :
    Prop :=
  ∀ path, after path = before path ∨ (added path ∧ before path = none ∧ after path = some none)

namespace Grows
variable {added wider : List String → Prop}
  {before after last : List String → Option (Option String)}

theorem refl (added : List String → Prop) (before : List String → Option (Option String)) :
    Grows added before before :=
  fun _ => .inl rfl

theorem trans (h : Grows added before after) (h' : Grows added after last) :
    Grows added before last := fun path => by
  rcases h path with h | ⟨ha, hn, hd⟩ <;> rcases h' path with h' | ⟨ha', hn', hd'⟩
  · exact .inl (h'.trans h)
  · exact .inr ⟨ha', h ▸ hn', hd'⟩
  · exact .inr ⟨ha, hn, h'.trans hd⟩
  · exact .inr ⟨ha, hn, hd'⟩

theorem mono (h : Grows added before after) (hw : ∀ path, added path → wider path) :
    Grows wider before after := fun path =>
  (h path).imp_right fun ⟨ha, hn, hd⟩ => ⟨hw path ha, hn, hd⟩

theorem directory (h : Grows added before after) (hd : before path = some none) :
    after path = some none := by
  rcases h path with h | ⟨-, hn, -⟩
  · exact h.trans hd
  · rw [hd] at hn
    cases hn

/-- The files are the same. -/
theorem file_iff (h : Grows added before after) {text : String} :
    after path = some (some text) ↔ before path = some (some text) := by
  rcases h path with h | ⟨-, hn, hd⟩
  · rw [h]
  · simp [hn, hd]

/-- Every other place is as before. -/
theorem eq_of_not (h : Grows added before after) (hn : ¬ added path) : after path = before path :=
  (h path).resolve_right fun ha => hn ha.1

theorem put (tree : FileTree) (hne : path ≠ []) (ha : added path) (h : tree.find? path = none) :
    Grows added tree.find? (tree.put path none).find? := fun other => by
  rw [find?_put _ _ hne]
  by_cases he : other = path
  · exact .inr ⟨he ▸ ha, he ▸ h, if_pos he⟩
  · exact .inl (if_neg he)

end Grows

theorem createFrom_above (tree : FileTree) (place rest : List String) :
    tree.createFrom place (".." :: rest) = tree.createFrom place.dropLast rest := rfl

theorem createFrom_cons {step : String} (h : step ≠ "..") (rest : List String) :
    tree.createFrom place (step :: rest) =
      match tree.find? (place ++ [step]) with
      | some none => tree.createFrom (place ++ [step]) rest
      | some (some _) => .error (if rest.isEmpty then .alreadyExists else .notADirectory)
      | none => (tree.put (place ++ [step]) none).createFrom (place ++ [step]) rest := by
  rw [createFrom.eq_def]
  split
  · next heq => cases heq
  · next heq =>
    cases heq
    exact absurd rfl h
  · next heq =>
    cases heq
    rfl

/-- **The creation of directories** adds directories on its way only, and then the steps lead
through directories. -/
theorem createFrom_ok {steps : List String} (h : tree.createFrom place steps = .ok later) :
    Grows (Visits place steps) tree.find? later.find? ∧ later.Leads place steps := by
  induction steps generalizing tree place with
  | nil =>
    cases h
    exact ⟨.refl _ _, trivial⟩
  | cons step steps ih =>
    have hcons (path : List String) : _ → Visits place (step :: steps) path := Visits.cons
    rw [Leads]
    by_cases habove : step = ".."
    · rw [if_pos habove] at hcons ⊢
      rw [habove, createFrom_above] at h
      obtain ⟨hgrows, hleads⟩ := ih h
      exact ⟨hgrows.mono hcons, fun hne => absurd habove hne, hleads⟩
    · rw [if_neg habove] at hcons ⊢
      rw [createFrom_cons habove] at h
      split at h
      · next hd =>
        obtain ⟨hgrows, hleads⟩ := ih h
        exact ⟨hgrows.mono hcons, fun _ => hgrows.directory hd, hleads⟩
      · cases h
      · next hn =>
        obtain ⟨hgrows, hleads⟩ := ih h
        have hne : place ++ [step] ≠ [] := by simp
        have hput : (tree.put (place ++ [step]) none).find? (place ++ [step]) = some none := by
          rw [find?_put _ _ hne, if_pos rfl]
        exact ⟨(Grows.put tree hne (.head habove place steps) hn).trans (hgrows.mono hcons),
          fun _ => hgrows.directory hput, hleads⟩

/-- Directories that are there are not created again. -/
theorem createFrom_of_leads {steps : List String} (h : tree.Leads place steps) :
    tree.createFrom place steps = .ok tree := by
  induction steps generalizing place with
  | nil => rfl
  | cons step steps ih =>
    obtain ⟨hd, hleads⟩ := h
    by_cases habove : step = ".."
    · rw [if_pos habove] at hleads
      rw [habove, createFrom_above, ih hleads]
    · rw [if_neg habove] at hleads
      rw [createFrom_cons habove, hd habove]
      exact ih hleads

/-- Directories of names are created unless there is a file in the way. -/
theorem exists_createFrom {names : List String} (hn : ∀ name ∈ names, name ≠ "..")
    (h : ∀ front text, front <+: names → front ≠ [] →
      tree.find? (place ++ front) ≠ some (some text)) :
    ∃ later, tree.createFrom place names = .ok later := by
  induction names generalizing tree place with
  | nil => exact ⟨tree, rfl⟩
  | cons name names ih =>
    have hrest : ∀ n ∈ names, n ≠ ".." := fun n hm => hn n (List.mem_cons_of_mem _ hm)
    have hnext (front : List String) (text : String) (hp : front <+: names) :
        tree.find? (place ++ [name] ++ front) ≠ some (some text) := by
      rw [List.append_assoc]
      exact h _ text (List.cons_prefix_cons.2 ⟨rfl, hp⟩) (by simp)
    rw [createFrom_cons (hn name List.mem_cons_self)]
    split
    · exact ih hrest fun front text hp _ => hnext front text hp
    · next hfile =>
      exact absurd hfile (h [name] _ (List.cons_prefix_cons.2 ⟨rfl, names.nil_prefix⟩) (by simp))
    · next hnone =>
      have hgrows : Grows (fun _ => True) tree.find? (tree.put (place ++ [name]) none).find? :=
        .put tree (by simp) trivial hnone
      refine ih hrest fun front text hp _ => ?_
      rw [Ne, hgrows.file_iff]
      exact hnext front text hp

/-- Directories are created in two parts. -/
theorem createFrom_append {front rest : List String} {middle : FileTree}
    (h : tree.createFrom place front = .ok middle) :
    tree.createFrom place (front ++ rest) = middle.createFrom (resolve place front) rest := by
  induction front generalizing tree place with
  | nil =>
    cases h
    rfl
  | cons step front ih =>
    rw [List.cons_append, resolve]
    by_cases habove : step = ".."
    · rw [if_pos habove]
      rw [habove, createFrom_above] at h ⊢
      exact ih h
    · rw [if_neg habove]
      rw [createFrom_cons habove] at h ⊢
      cases hfind : tree.find? (place ++ [step]) with
      | none =>
        rw [hfind] at h
        exact ih h
      | some content =>
        rw [hfind] at h
        cases content with
        | none => exact ih h
        | some text => cases h

/-! ## Files that are changed -/

/-- Only the file at a path is changed: now it has this content, or it is gone. -/
def Updates (tree : FileTree) (path : List String) (content : Option String) (later : FileTree) :
    Prop :=
  ∀ other, later.find? other = if other = path then content.map some else tree.find? other

theorem updates_put (tree : FileTree) (hne : path ≠ []) (text : String) :
    tree.Updates path (some text) (tree.put path (some text)) := find?_put tree _ hne

theorem updates_erase (tree : FileTree) (hne : path ≠ []) :
    tree.Updates path none (tree.erase path) := find?_erase tree hne

/-- Directories are as before. -/
theorem Updates.leads {steps : List String} (h : tree.Updates path content later)
    (hf : tree.find? path ≠ some none) (hl : tree.Leads place steps) : later.Leads place steps :=
  hl.mono fun other _ hd => by
    have hne : other ≠ path := fun he => hf (he ▸ hd)
    rw [h other, if_neg hne, hd]

/-! ## Operations on a file -/

theorem isPresent_of_locate {file : String} (h : tree.locate [] (Path.steps file) = .ok path) :
    tree.isPresent file = (tree.find? path).isSome := by
  rw [isPresent, h]

theorem read_of_locate {file text : String} (h : tree.locate [] (Path.steps file) = .ok path)
    (hf : tree.find? path = some (some text)) : tree.read file = .ok text := by
  simp only [read, h, bind, Except.bind, hf]

theorem toOption_read_of_locate {file : String}
    (h : tree.locate [] (Path.steps file) = .ok path) :
    (tree.read file).toOption = (tree.find? path).join := by
  simp only [read, h, bind, Except.bind]
  split <;> next hf => simp [hf, Except.toOption]

theorem read_eq_isADirectory_iff {file : String} (h : tree.locate [] (Path.steps file) = .ok path) :
    tree.read file = .error .isADirectory ↔ tree.find? path = some none := by
  simp only [read, h, bind, Except.bind]
  split <;> next hf => simp [hf]

theorem remove_of_locate {file text : String} (h : tree.locate [] (Path.steps file) = .ok path)
    (hf : tree.find? path = some (some text)) : tree.remove file = .ok (tree.erase path) := by
  simp only [remove, h, bind, Except.bind, hf]

theorem write_of_locate {file : String} (h : tree.locate [] (Path.steps file) = .ok path)
    (hf : tree.find? path ≠ some none) (text : String) :
    tree.write file text = .ok (tree.put path (some text)) := by
  simp only [write, h, bind, Except.bind]

end FileTree

end EvmProbe
