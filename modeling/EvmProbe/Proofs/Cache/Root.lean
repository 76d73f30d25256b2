import EvmProbe.Proofs.Cache.Names

/-!
What stands below the root of a cache.

The root may be any path, and need not be there.  Below it there are directories with plain names
and the files of labels, so that no file is ever in the way of a directory.

* `FileTree.below`: what there is below the root.
* `exists_directories`: directories below the root are created, and nothing else happens there.
* `locate_file_below`: where the file of a label is.
-/

namespace EvmProbe.FileTree

open EvmProbe.Path

variable {tree later : FileTree} {root name : String} {names : List String}

/-- Where a path leads. -/
def place (root : String) : List String := resolve [] (Path.steps root)

/-- What there is at a path below a root. -/
def below (tree : FileTree) (root : String) (path : List String) : Option (Option String) :=
  tree.find? (place root ++ path)

/-- The root of a cache is there, or it can be created, and then nothing comes to stand below it. -/
def Accessible (root : String) (tree : FileTree) : Prop :=
  ∃ later, tree.createDirectories root = .ok later ∧
    Grows (· = []) (tree.below root) (later.below root)

/-- A path to the file of a label. -/
def IsLabelled (path : List String) : Prop :=
  ∃ directories label, path = directories ++ [label ++ ".json"]

/-- Below a root there are no files but those of labels. -/
def Tidy (root : String) (tree : FileTree) : Prop :=
  ∀ path text, path ≠ [] → tree.below root path = some (some text) → IsLabelled path

/-- Plain names lead to no file of a label. -/
theorem not_isLabelled {path : List String} (hp : ∀ name ∈ names, IsPlain name)
    (h : path <+: names) : ¬ IsLabelled path := by
  rintro ⟨directories, label, rfl⟩
  exact (hp _ (h.subset (List.mem_append_right _ (List.mem_singleton_self _)))).ne_file label rfl

theorem accessible_of_leads (h : tree.Leads [] (Path.steps root)) : Accessible root tree :=
  ⟨tree, createFrom_of_leads h, .refl _ _⟩

theorem resolve_below (hn : ∀ name ∈ names, IsName name) :
    resolve [] (Path.steps root ++ names) = place root ++ names := by
  rw [resolve_append, ← place, resolve_names _ fun name hm => (hn name hm).notAbove]

/-- **Directories below a root are created**, and no place of a label is taken. -/
theorem exists_directories (ha : Accessible root tree) (ht : Tidy root tree)
    (hp : ∀ name ∈ names, IsPlain name) :
    ∃ later, tree.createDirectories (joinAll root names) = .ok later ∧
      later.Leads [] (Path.steps root ++ names) ∧
      (∀ path, tree.find? path = some none → later.find? path = some none) ∧
      Grows (¬ IsLabelled ·) (tree.below root) (later.below root) := by
  obtain ⟨middle, hmiddle, hgrows⟩ := ha
  have habove : ∀ name ∈ names, name ≠ ".." := fun name hm => (hp name hm).isName.notAbove
  obtain ⟨later, hlater⟩ := exists_createFrom habove fun front text hfront hne hfile =>
    not_isLabelled hp hfront (ht _ _ hne (hgrows.file_iff.1 hfile))
  have hall : tree.createFrom [] (Path.steps root ++ names) = .ok later :=
    (createFrom_append hmiddle).trans hlater
  obtain ⟨htree, hleads⟩ := createFrom_ok hall
  refine ⟨later, ?_, hleads, fun path => htree.directory, ?_⟩
  · rwa [createDirectories, steps_joinAll _ fun name hm => (hp name hm).isName]
  · have hnone := hgrows.mono fun path hn => not_isLabelled hp (hn ▸ names.nil_prefix)
    refine hnone.trans fun path => ?_
    refine ((createFrom_ok hlater).1 (place root ++ path)).imp_right ?_
    refine fun ⟨hv, hn, hd⟩ => ⟨?_, hn, hd⟩
    obtain ⟨front, hfront, -, he⟩ := hv.of_names habove
    exact not_isLabelled hp (List.append_cancel_left he ▸ hfront)

theorem Tidy.grows {added : List String → Prop} (h : Tidy root tree)
    (hg : Grows added (tree.below root) (later.below root)) : Tidy root later :=
  fun path text hne hf => h path text hne (hg.file_iff.1 hf)

/-- The place of a file in directories below a root. -/
theorem locate_file_below {label : String} (h : tree.Leads [] (Path.steps root ++ names))
    (hn : ∀ name ∈ names, IsName name) (hl : IsPlain label) :
    tree.locate [] (Path.steps (Cache.file (joinAll root names) label)) =
      .ok (place root ++ (names ++ [label ++ ".json"])) := by
  rw [Cache.file, steps_join _ hl.isName_file, steps_joinAll _ hn,
    locate_file h hl.isName_file.notAbove, resolve_below hn, List.append_assoc]

/-- What is put below a root is found there, and everything else is as before. -/
theorem below_put (tree : FileTree) (root : String) {path : List String} (hne : path ≠ [])
    (content : Option String) (other : List String) :
    (tree.put (place root ++ path) content).below root other =
      if other = path then some content else tree.below root other := by
  rw [below, find?_put _ _ (by simp [hne]), below]
  simp only [List.append_cancel_left_eq]

end EvmProbe.FileTree
