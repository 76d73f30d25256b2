import EvmProbe.Proofs.Cache.Keeping
import EvmProbe.Proofs.Cache.Root

/-!
The entries of a cache.

The entry of a label is what its file holds.  A label can be used if it is the name of a file that
no directory is in the way of.

* `Cache.Alters`: the entry of one label is changed, and that of no other label.
* `fst_load`, `alters_load`: what is loaded is what the entry holds, if that is valid, and otherwise
  there is no entry any more.
* `fst_save`, `alters_save`, `alters_write`: what is written is the entry from then on.
-/

namespace EvmProbe

open FileTree

/-! ## What is valid -/

namespace Expiring
variable {α : Type} {form : JsonForm α} {value : α} {expiry now : Nat} {content : String}

/-- The value that a text holds and that is valid at a second. -/
def valueAt? (form : JsonForm α) (now : Nat) (content : String) : Option α :=
  ((ofText? form content).filter (·.isValid now)).map (·.value)

theorem valueAt?_eq_some_iff : valueAt? form now content = some value ↔
    ∃ expiry, Holds form content value expiry ∧ now ≤ expiry := by
  simp only [valueAt?, Option.map_eq_some_iff, Option.filter_eq_some_iff, isValid,
    decide_eq_true_eq]
  constructor
  · rintro ⟨⟨value, expiry⟩, ⟨ht, hle⟩, rfl⟩
    exact ⟨expiry, ofText?_eq_some_iff.1 ht, hle⟩
  · rintro ⟨expiry, hholds, hle⟩
    exact ⟨⟨value, expiry⟩, ⟨ofText?_eq_some_iff.2 hholds, hle⟩, rfl⟩

/-- What is valid was valid before. -/
theorem valueAt?_of_le {later : Nat} (h : valueAt? form later content = some value)
    (hle : now ≤ later) : valueAt? form now content = some value := by
  obtain ⟨expiry, hholds, hvalid⟩ := valueAt?_eq_some_iff.1 h
  exact valueAt?_eq_some_iff.2 ⟨expiry, hholds, Nat.le_trans hle hvalid⟩

/-- When the value of a text is valid. -/
theorem valueAt?_of_holds (h : Holds form content value expiry) :
    valueAt? form now content = if now ≤ expiry then some value else none := by
  rw [valueAt?, ofText?_eq_some_iff.2 h, Option.filter_some]
  by_cases hle : now ≤ expiry <;> simp [isValid, hle]

end Expiring

namespace Cache
variable {α : Type} {form : JsonForm α} {cache : Cache} {tree later : FileTree}
  {directory label : String}

/-! ## The files of a cache -/

/-- Where the file of a label is. -/
def cell (directory label : String) : List String := FileTree.place directory ++ [label ++ ".json"]

theorem cell_ne_nil : cell directory label ≠ [] := by simp [cell]

/-- **No two labels have the same file.** -/
theorem cell_inj {other : String} :
    cell directory label = cell directory other ↔ label = other := by
  simp [cell]

/-- What the file of a label holds, if there is one. -/
def content? (cache : Cache) (tree : FileTree) (label : String) : Option String :=
  cache.directory.bind fun directory => (tree.read (file directory label)).toOption

/-- The directory of a cache is there. -/
def IsOpen (cache : Cache) (tree : FileTree) : Prop :=
  ∀ directory ∈ cache.directory, tree.Leads [] (Path.steps directory)

/-- A label without slashes, such that no directory is in the way of its file.  Then no operation on
the file fails. -/
structure Admits (cache : Cache) (tree : FileTree) (label : String) : Prop where
  noSlash : '/' ∉ label.toList
  noDirectory : ∀ directory ∈ cache.directory,
    tree.read (file directory label) ≠ .error .isADirectory

/-- The directory of a cache that has been opened is there. -/
theorem isOpen_of_openAt {path : Option String} {lifetime : Option Nat}
    (h : (openAt FileTree.files path lifetime).run tree = (.ok cache, later)) :
    cache.IsOpen later := by
  cases path with
  | none =>
    cases h
    rintro _ ⟨⟩
  | some path =>
    have hcreate : (FileTree.files.createDirectories path).run tree =
      FileTree.change (·.createDirectories path) tree := rfl
    rw [FileTree.change] at hcreate
    split at hcreate
    · next created hok =>
      rw [openAt, run_bind_of_eq hcreate] at h
      cases h
      rintro _ ⟨⟩
      exact (createFrom_ok hok).2
    · rw [openAt, run_bind_of_eq hcreate] at h
      cases h

section
variable (hd : directory ∈ cache.directory) (ho : cache.IsOpen tree) (hs : '/' ∉ label.toList)
include hd ho hs

theorem locate_cell :
    tree.locate [] (Path.steps (file directory label)) = .ok (cell directory label) := by
  have hname := Path.isName_label hs
  rw [file, Path.steps_join _ hname, locate_file (ho directory hd) hname.notAbove]
  rfl

theorem content?_eq : cache.content? tree label = (tree.find? (cell directory label)).join := by
  rw [content?, Option.mem_def.1 hd, Option.bind_some,
    toOption_read_of_locate (locate_cell hd ho hs)]

theorem admits_iff : cache.Admits tree label ↔ tree.find? (cell directory label) ≠ some none := by
  rw [Ne, ← read_eq_isADirectory_iff (locate_cell hd ho hs)]
  refine ⟨fun h => h.noDirectory directory hd, fun h => ⟨hs, fun other hother => ?_⟩⟩
  cases Option.mem_unique hd hother
  exact h

theorem isPresent_file : tree.isPresent (file directory label) =
    (tree.find? (cell directory label)).isSome := isPresent_of_locate (locate_cell hd ho hs)

end

section
variable (ho : cache.IsOpen tree) (ha : cache.Admits tree label)
include ho ha

/-- A label has an entry, or there is no file. -/
theorem find?_cell (hd : directory ∈ cache.directory) :
    tree.find? (cell directory label) = (cache.content? tree label).map some := by
  have hfile := (admits_iff hd ho ha.noSlash).1 ha
  rw [content?_eq hd ho ha.noSlash]
  match tree.find? (cell directory label), hfile with
  | none, _ | some (some _), _ => rfl
  | some none, hfile => exact absurd rfl hfile

/-- Where there is no entry there is no file. -/
theorem isPresent_of_content? (hd : directory ∈ cache.directory)
    (he : cache.content? tree label = none) : tree.isPresent (file directory label) = false := by
  rw [isPresent_file hd ho ha.noSlash, find?_cell ho ha hd, he]
  rfl

end

/-! ## Entries that are changed -/

/-- The entry of one label is changed, and that of no other label. -/
structure Alters (cache : Cache) (tree : FileTree) (label : String) (content : Option String)
    (later : FileTree) : Prop where
  isOpen : cache.IsOpen later
  /-- The labels can be used as before. -/
  admits : ∀ other, cache.Admits tree other → cache.Admits later other
  entry : ∀ other, '/' ∉ other.toList →
    cache.content? later other = if other = label then content else cache.content? tree other

section
variable {content : Option String} (ho : cache.IsOpen tree) (ha : cache.Admits tree label)
include ho ha

/-- A file that is changed alters an entry. -/
theorem alters_of_updates (hd : directory ∈ cache.directory)
    (h : tree.Updates (cell directory label) content later) :
    cache.Alters tree label content later := by
  have hfile := (admits_iff hd ho ha.noSlash).1 ha
  have hopen : cache.IsOpen later := fun other hother => h.leads hfile (ho other hother)
  refine ⟨hopen, fun other hother => ?_, fun other hs => ?_⟩
  · rw [admits_iff hd hopen hother.noSlash, h]
    split
    · cases content <;> nofun
    · exact (admits_iff hd ho hother.noSlash).1 hother
  · rw [content?_eq hd hopen hs, content?_eq hd ho hs, h]
    simp only [cell_inj]
    split
    · cases content <;> rfl
    · rfl

omit ha in
/-- What is not changed. -/
theorem alters_self (h : cache.content? tree label = content) :
    cache.Alters tree label content tree :=
  ⟨ho, fun _ => id, fun other _ => by
    split
    · next he => rw [he, h]
    · rfl⟩

/-! ## Loads -/

theorem run_load_absent (hd : directory ∈ cache.directory) (he : cache.content? tree label = none)
    (form : JsonForm α) (now : Nat) :
    (cache.load FileTree.files form now label).run tree = (none, tree) := by
  have hpresent : (FileTree.files.isPresent (file directory label)).run tree =
      (tree.isPresent (file directory label), tree) := rfl
  rw [isPresent_of_content? ho ha hd he] at hpresent
  simp only [load, Option.mem_def.1 hd]
  rw [run_bind_of_eq hpresent]
  rfl

/-- A file that is there is read, and removed if nothing that it holds is valid. -/
theorem run_load_present (hd : directory ∈ cache.directory) {text : String}
    (he : cache.content? tree label = some text) (form : JsonForm α) (now : Nat) :
    (cache.load FileTree.files form now label).run tree =
      match Expiring.valueAt? form now text with
      | some value => (some value, tree)
      | none => (none, tree.erase (cell directory label)) := by
  have hfind := find?_cell ho ha hd
  rw [he, Option.map_some] at hfind
  have hlocate := locate_cell hd ho ha.noSlash
  have hpresent : (FileTree.files.isPresent (file directory label)).run tree = (true, tree) := by
    show (tree.isPresent (file directory label), tree) = _
    rw [isPresent_file hd ho ha.noSlash, hfind]
    rfl
  have hread : (FileTree.files.read (file directory label)).run tree = (.ok text, tree) := by
    show (tree.read (file directory label), tree) = _
    rw [read_of_locate hlocate hfind]
  have hremove : (FileTree.files.remove (file directory label)).run tree =
      (.ok (), tree.erase (cell directory label)) := by
    show FileTree.change (·.remove (file directory label)) tree = _
    rw [FileTree.change, remove_of_locate hlocate hfind]
  simp only [load, Option.mem_def.1 hd]
  rw [run_bind_of_eq hpresent, Bool.not_true, if_neg Bool.false_ne_true, run_bind_of_eq hread]
  -- a text that holds no value is removed like one that has expired
  rw [Expiring.valueAt?, Expiring.ofText?]
  cases hparsed : (Json.parse? text).bind (Expiring.ofJson? form) with
  | none =>
    simp only [hparsed]
    exact run_bind_of_eq hremove
  | some entry =>
    cases hvalid : entry.isValid now with
    | true =>
      simp only [hparsed, hvalid, Option.filter_some]
      rfl
    | false =>
      simp only [hparsed, hvalid, Option.filter_some]
      exact run_bind_of_eq hremove

/-- **What is loaded** is what the entry holds, if that is valid. -/
theorem fst_load (form : JsonForm α) (now : Nat) :
    ((cache.load FileTree.files form now label).run tree).1 =
      (cache.content? tree label).bind (Expiring.valueAt? form now) := by
  cases hd : cache.directory with
  | none =>
    simp only [load, content?, hd]
    rfl
  | some directory =>
    cases he : cache.content? tree label with
    | none => rw [run_load_absent ho ha hd he, Option.bind_none]
    | some text =>
      rw [run_load_present ho ha hd he, Option.bind_some]
      cases Expiring.valueAt? form now text <;> rfl

/-- An entry stays where it is loaded, and otherwise goes. -/
theorem alters_load (form : JsonForm α) (now : Nat) :
    cache.Alters tree label
      ((cache.content? tree label).filter fun text => (Expiring.valueAt? form now text).isSome)
      ((cache.load FileTree.files form now label).run tree).2 := by
  cases hd : cache.directory with
  | none =>
    have hnone : cache.content? tree label = none := by rw [content?, hd]; rfl
    simp only [load, hd]
    exact alters_self ho (by rw [hnone]; rfl)
  | some directory =>
    cases he : cache.content? tree label with
    | none =>
      rw [run_load_absent ho ha hd he]
      exact alters_self ho he
    | some text =>
      rw [run_load_present ho ha hd he, Option.filter_some]
      cases Expiring.valueAt? form now text with
      | some value => exact alters_self ho he
      | none => exact alters_of_updates ho ha hd (updates_erase tree cell_ne_nil)

/-- **A value is loaded** if the file holds it and it has not expired. -/
theorem load_eq_some_iff {now : Nat} {value : α} :
    ((cache.load FileTree.files form now label).run tree).1 = some value ↔
      ∃ content expiry, cache.content? tree label = some content ∧
        Expiring.Holds form content value expiry ∧ now ≤ expiry := by
  rw [fst_load ho ha, Option.bind_eq_some_iff]
  simp only [Expiring.valueAt?_eq_some_iff, exists_and_left]

/-- What is loaded stays. -/
theorem snd_load_of_some {now : Nat} {value : α}
    (h : ((cache.load FileTree.files form now label).run tree).1 = some value) :
    ((cache.load FileTree.files form now label).run tree).2 = tree := by
  obtain ⟨text, htext, hvalue⟩ := Option.bind_eq_some_iff.1 ((fst_load ho ha form now).symm.trans h)
  obtain ⟨directory, hd, -⟩ := Option.bind_eq_some_iff.1 htext
  rw [run_load_present ho ha hd htext, hvalue]

/-- **Where nothing is loaded** there is no file afterwards. -/
theorem isPresent_load {now : Nat} (hd : directory ∈ cache.directory)
    (hnone : ((cache.load FileTree.files form now label).run tree).1 = none) :
    ((cache.load FileTree.files form now label).run tree).2.isPresent (file directory label) =
      false := by
  have halters := alters_load ho ha form now
  refine isPresent_of_content? halters.isOpen (halters.admits label ha) hd ?_
  rw [halters.entry label ha.noSlash, if_pos rfl, Option.filter_eq_none_iff]
  rw [fst_load ho ha, Option.bind_eq_none_iff] at hnone
  intro text htext
  rw [hnone text htext, Option.isSome_none]
  exact Bool.false_ne_true

/-! ## Saves and other writes -/

/-- The file of a label is written. -/
theorem run_write (hd : directory ∈ cache.directory) (text : String) :
    (FileTree.files.write (file directory label) text).run tree =
      (.ok (), tree.put (cell directory label) (some text)) := by
  show FileTree.change (·.write (file directory label) text) tree = _
  rw [FileTree.change, write_of_locate (locate_cell hd ho ha.noSlash)
    ((admits_iff hd ho ha.noSlash).1 ha)]

/-- What is written is the entry. -/
theorem alters_write (hd : directory ∈ cache.directory) (text : String) :
    cache.Alters tree label (some text)
      ((FileTree.files.write (file directory label) text).run tree).2 := by
  rw [run_write ho ha hd]
  exact alters_of_updates ho ha hd (updates_put tree cell_ne_nil text)

/-- Saves succeed. -/
theorem fst_save (form : JsonForm α) (now : Nat) (value : α) :
    ((cache.save FileTree.files form now label value).run tree).1 = .ok () := by
  cases hd : cache.directory with
  | none =>
    simp only [save, hd]
    rfl
  | some directory =>
    simp only [save, hd]
    rw [run_write ho ha hd]

/-- What is saved is the entry, together with the second at which it expires. -/
theorem alters_save (form : JsonForm α) (now : Nat) (value : α) :
    cache.Alters tree label
      (cache.directory.map fun _ =>
        Expiring.text form ⟨value, Expiring.expiryOf cache.lifetime now⟩)
      ((cache.save FileTree.files form now label value).run tree).2 := by
  cases hd : cache.directory with
  | none =>
    simp only [save, hd]
    exact alters_self ho (by rw [content?, hd]; rfl)
  | some directory =>
    simp only [save, hd]
    exact alters_write ho ha hd _

end

end Cache

end EvmProbe
