import EvmProbe.Proofs.Cache.Entries

/-!
A cache is a map whose values expire.

A history begins when the cache is opened.  Values are saved and loaded from then on, and something
else may write any text into the files of labels.

* `Event.alters`: what one event does to the entries.
* `found_after`: what can be loaded of a label stays, as long as its file is not written.
* `isExpiringMap_of_openAt`: what is loaded after any history.
-/

namespace EvmProbe.Cache

variable {α : Type} {form : JsonForm α} {cache : Cache} {tree start : FileTree}

/-- What can happen to a cache. -/
inductive Event (α : Type) where
  /-- A value is saved at a second. -/
  | save (now : Nat) (label : String) (value : α)
  /-- A label is looked up at a second. -/
  | load (now : Nat) (label : String)
  /-- Something else writes the file of a label. -/
  | write (label content : String)
  deriving Repr

namespace Event

/-- The label of an event. -/
def label : Event α → String
  | .save _ label _ | .load _ label | .write label _ => label

/-- The second of an event, if it looks at the clock. -/
def moment? : Event α → Option Nat
  | .save now _ _ | .load now _ => some now
  | .write .. => none

/-- An event that writes the file of a label. -/
def Writes (label : String) : Event α → Prop
  | .save _ other _ | .write other _ => other = label
  | .load .. => False

/-- The files behind an event. -/
def apply (cache : Cache) (form : JsonForm α) (tree : FileTree) : Event α → FileTree
  | .save now label value => ((cache.save FileTree.files form now label value).run tree).2
  | .load now label => ((cache.load FileTree.files form now label).run tree).2
  | .write label content =>
    cache.directory.elim tree fun directory =>
      ((FileTree.files.write (file directory label) content).run tree).2

/-- What becomes of the entry of the label. -/
def outcome (cache : Cache) (form : JsonForm α) : Event α → Option String → Option String
  | .save now _ value, _ =>
    cache.directory.map fun _ => Expiring.text form ⟨value, Expiring.expiryOf cache.lifetime now⟩
  | .load now _, entry => entry.filter fun text => (Expiring.valueAt? form now text).isSome
  | .write _ content, _ => cache.directory.map fun _ => content

/-- **An event alters the entry of its label**, and that of no other label. -/
theorem alters (ho : cache.IsOpen tree) (event : Event α) (ha : cache.Admits tree event.label) :
    cache.Alters tree event.label (event.outcome cache form (cache.content? tree event.label))
      (event.apply cache form tree) := by
  cases event with
  | save now label value => exact alters_save ho ha form now value
  | load now label => exact alters_load ho ha form now
  | write label content =>
    cases hd : cache.directory with
    | none =>
      simp only [apply, outcome, hd]
      exact alters_self ho (by rw [content?, hd]; rfl)
    | some directory =>
      simp only [apply, outcome, hd]
      exact alters_write ho ha hd content

end Event

/-! ## Histories -/

section
variable {label : String} {now : Nat}

/-- The files behind a history. -/
def after (cache : Cache) (form : JsonForm α) (start : FileTree) (history : List (Event α)) :
    FileTree := history.foldl (Event.apply cache form) start

theorem after_append (earlier later : List (Event α)) :
    cache.after form start (earlier ++ later) =
      cache.after form (cache.after form start earlier) later := List.foldl_append

/-- A cache stays open, and the labels can be used as before. -/
theorem ready_after (form : JsonForm α) {history : List (Event α)} (ho : cache.IsOpen start)
    (ha : ∀ event ∈ history, cache.Admits start event.label) :
    cache.IsOpen (cache.after form start history) ∧
      ∀ label, cache.Admits start label → cache.Admits (cache.after form start history) label := by
  induction history generalizing start with
  | nil => exact ⟨ho, fun _ => id⟩
  | cons event history ih =>
    have halters : cache.Alters start event.label _ (event.apply cache form start) :=
      event.alters ho (ha event List.mem_cons_self)
    obtain ⟨hopen, hadmits⟩ := ih halters.isOpen fun other hother =>
      halters.admits _ (ha other (List.mem_cons_of_mem _ hother))
    exact ⟨hopen, fun label hl => hadmits label (halters.admits label hl)⟩

/-- **What can be loaded of a label stays** in an event that does not write its file: a load takes
away only what has expired. -/
theorem found_apply {event : Event α} (ho : cache.IsOpen tree)
    (ha : cache.Admits tree event.label) (hs : '/' ∉ label.toList) (hw : ¬ event.Writes label)
    (hm : ∀ moment ∈ event.moment?, moment ≤ now) :
    (cache.content? (event.apply cache form tree) label).bind (Expiring.valueAt? form now) =
      (cache.content? tree label).bind (Expiring.valueAt? form now) := by
  rw [(event.alters ho ha).entry label hs]
  split
  · next he =>
    subst he
    -- only a load leaves the file unwritten, and it keeps what is still valid later
    cases event with
    | save moment other value => exact absurd rfl hw
    | write other content => exact absurd rfl hw
    | load moment other =>
      simp only [Event.outcome, Event.label]
      cases cache.content? tree other with
      | none => rfl
      | some text =>
        rw [Option.filter_some, Option.bind_some]
        split
        · rfl
        · next hgone =>
          refine (Option.eq_none_iff_forall_ne_some.2 fun value hvalue => hgone ?_).symm
          rw [Expiring.valueAt?_of_le hvalue (hm moment rfl)]
          rfl
  · rfl

/-- So it does in a history in which nothing writes the file. -/
theorem found_after (form : JsonForm α) {history : List (Event α)} (ho : cache.IsOpen start)
    (ha : ∀ event ∈ history, cache.Admits start event.label) (hs : '/' ∉ label.toList)
    (hw : ∀ event ∈ history, ¬ event.Writes label)
    (hm : ∀ event ∈ history, ∀ moment ∈ event.moment?, moment ≤ now) :
    (cache.content? (cache.after form start history) label).bind (Expiring.valueAt? form now) =
      (cache.content? start label).bind (Expiring.valueAt? form now) := by
  induction history generalizing start with
  | nil => rfl
  | cons event history ih =>
    simp only [List.forall_mem_cons] at ha hw hm
    have halters : cache.Alters start event.label _ (event.apply cache form start) :=
      event.alters ho ha.1
    have hrest := ih halters.isOpen (fun other hother => halters.admits _ (ha.2 other hother))
      hw.2 hm.2
    exact hrest.trans (found_apply ho ha.1 hs hw.1 hm.1)

/-- What is found right after a save. -/
theorem found_save {value : α} {moment : Nat} (ho : cache.IsOpen tree)
    (ha : cache.Admits tree label)
    (hd : cache.directory.isSome) (hr : form.RoundTrips value) (hn : now ≤ Expiring.never) :
    (cache.content? ((cache.save FileTree.files form moment label value).run tree).2 label).bind
        (Expiring.valueAt? form now) =
      if ∀ seconds ∈ cache.lifetime, now ≤ moment + seconds then some value else none := by
  obtain ⟨directory, hd⟩ := Option.isSome_iff_exists.1 hd
  rw [(alters_save ho ha form moment value).entry label ha.noSlash, if_pos rfl, hd, Option.map_some,
    Option.bind_some, Expiring.valueAt?_of_holds (hr _ (Expiring.expiryOf_le _ _))]
  simp only [Expiring.le_expiryOf_iff hn]

/-- **What was saved last** is loaded until its lifetime is over. -/
theorem load_after_save {earlier later : List (Event α)} {moment : Nat} {value : α}
    (ho : cache.IsOpen start)
    (ha : ∀ event ∈ earlier ++ .save moment label value :: later, cache.Admits start event.label)
    (hw : ∀ event ∈ later, ¬ event.Writes label) (hd : cache.directory.isSome)
    (hr : form.RoundTrips value) (hn : now ≤ Expiring.never)
    (hm : ∀ event ∈ earlier ++ .save moment label value :: later,
      ∀ moment ∈ event.moment?, moment ≤ now) :
    ((cache.load FileTree.files form now label).run
        (cache.after form start (earlier ++ .save moment label value :: later))).1 =
      if ∀ seconds ∈ cache.lifetime, now ≤ moment + seconds then some value else none := by
  obtain ⟨hready, hadmits⟩ := ready_after form ho ha
  obtain ⟨hbefore, hbehind⟩ := List.forall_mem_append.1 ha
  have hsave : cache.Admits start label := (List.forall_mem_cons.1 hbehind).1
  have hlater := (List.forall_mem_cons.1 hbehind).2
  obtain ⟨hearlier, hkept⟩ := ready_after form ho hbefore
  -- from the save on, what is found can only expire
  have halters := alters_save hearlier (hkept label hsave) form moment value
  have hfound := found_after form halters.isOpen
    (fun event he => halters.admits _ (hkept _ (hlater event he))) hsave.noSlash hw
    fun event he => hm event (List.mem_append_right _ (List.mem_cons_of_mem _ he))
  rw [fst_load hready (hadmits label hsave), after_append]
  exact hfound.trans (found_save hearlier (hkept label hsave) hd hr hn)

end

/-! ## The map -/

/-- A map from labels to values that expire.  The history goes from the files `start` to the files
`tree`, and the labels can be used at its start, so that no file operation fails. -/
structure IsExpiringMap (form : JsonForm α) (cache : Cache) (start : FileTree)
    (history : List (Event α)) (tree : FileTree) : Prop where
  /-- A value is loaded if the file holds it and it has not expired. -/
  hit : ∀ label now value, cache.Admits start label →
    (((cache.load FileTree.files form now label).run tree).1 = some value ↔
      ∃ content expiry, cache.content? tree label = some content ∧
        Expiring.Holds form content value expiry ∧ now ≤ expiry)
  /-- What is loaded stays. -/
  kept : ∀ label now value, cache.Admits start label →
    ((cache.load FileTree.files form now label).run tree).1 = some value →
      ((cache.load FileTree.files form now label).run tree).2 = tree
  /-- Otherwise the file is gone afterwards. -/
  miss : ∀ label now, cache.Admits start label →
    ((cache.load FileTree.files form now label).run tree).1 = none →
      ∀ directory ∈ cache.directory,
        ((cache.load FileTree.files form now label).run tree).2.isPresent (file directory label) =
          false
  /-- No event changes the entry of another label. -/
  others : ∀ (event : Event α) other, cache.Admits start event.label → '/' ∉ other.toList →
    other ≠ event.label →
      cache.content? (event.apply cache form tree) other = cache.content? tree other
  /-- Every save succeeds. -/
  success : ∀ label now value, cache.Admits start label →
    ((cache.save FileTree.files form now label value).run tree).1 = .ok ()
  /-- What was saved in a file that nothing has written since is loaded until its lifetime is over,
  if the clock has not been turned back. -/
  last : ∀ earlier moment label value later now,
    history = earlier ++ .save moment label value :: later →
    (∀ event ∈ later, ¬ event.Writes label) →
    cache.directory.isSome → form.RoundTrips value → now ≤ Expiring.never →
    (∀ event ∈ history, ∀ moment ∈ event.moment?, moment ≤ now) →
      ((cache.load FileTree.files form now label).run tree).1 =
        if ∀ seconds ∈ cache.lifetime, now ≤ moment + seconds then some value else none
  /-- A value that is saved now is loaded next, until its lifetime is over. -/
  next : ∀ moment label value now, cache.Admits start label → cache.directory.isSome →
    form.RoundTrips value → now ≤ Expiring.never →
    (∀ seconds ∈ cache.lifetime, now ≤ moment + seconds) →
      ((cache.load FileTree.files form now label).run
        ((cache.save FileTree.files form moment label value).run tree).2).1 = some value
  /-- Without a directory nothing is loaded, and saves succeed and leave nothing. -/
  disabled : cache.directory = none → ∀ label now value,
    (cache.load FileTree.files form now label).run tree = (none, tree) ∧
      (cache.save FileTree.files form now label value).run tree = (.ok (), tree)

/-- **A cache is a map from labels to values that expire**, after any history of saves, loads and
other writes. -/
theorem isExpiringMap_of_openAt {path : Option String} {lifetime : Option Nat}
    (hopen : (openAt FileTree.files path lifetime).run tree = (.ok cache, start))
    {history : List (Event α)} (ha : ∀ event ∈ history, cache.Admits start event.label) :
    cache.IsExpiringMap form start history (cache.after form start history) := by
  have ho := isOpen_of_openAt hopen
  obtain ⟨hready, hadmits⟩ := ready_after form ho ha
  exact {
    hit label now value hl := load_eq_some_iff hready (hadmits label hl)
    kept label now value hl hsome := snd_load_of_some hready (hadmits label hl) hsome
    miss label now hl hnone directory hd := isPresent_load hready (hadmits label hl) hd hnone
    others event other hl hs hne := by
      rw [(event.alters hready (hadmits _ hl)).entry other hs, if_neg hne]
    success label now value hl := fst_save hready (hadmits label hl) form now value
    last earlier moment label value later now hhistory hw hd hr hn hm := by
      subst hhistory
      exact load_after_save ho ha hw hd hr hn hm
    next moment label value now hl hd hr hn hlast := by
      have halters := alters_save hready (hadmits label hl) form moment value
      rw [fst_load halters.isOpen (halters.admits label (hadmits label hl)),
        found_save hready (hadmits label hl) hd hr hn, if_pos hlast]
    disabled hd label now value := by
      simp only [load, save, hd]
      exact ⟨rfl, rfl⟩ }

/-! A cache in which values are valid for ten seconds. -/

/-- The cache. -/
def tenSeconds : Cache := ⟨some "/cache", some 10⟩

/-- Its directory when it has just been created. -/
def created : FileTree := ⟨[(["cache"], none)]⟩

/-- A number is saved, and a file that holds nothing is written and loaded. -/
def visits : List (Event Nat) :=
  [.save 0 "kept" 7, .write "broken" "not json", .load 5 "broken", .load 5 "kept"]

theorem run_openAt_tenSeconds :
    (openAt FileTree.files (some "/cache") (some 10)).run {} = (.ok tenSeconds, created) := rfl

/-- Every label without slashes can be used. -/
theorem admits_created {label : String} (hs : '/' ∉ label.toList) :
    tenSeconds.Admits created label := by
  have hplace : cell "/cache" label = ["cache", label ++ ".json"] := rfl
  refine (admits_iff rfl (isOpen_of_openAt run_openAt_tenSeconds) hs).2 ?_
  rw [hplace]
  nofun

theorem admits_visits : ∀ event ∈ visits, tenSeconds.Admits created event.label := by
  have hslash : ∀ event ∈ visits, '/' ∉ event.label.toList := by decide
  exact fun event he => admits_created (hslash event he)

/-- The number is loaded for ten seconds, and not any more from then on. -/
theorem isExpiringMap_tenSeconds :
    (openAt FileTree.files (some "/cache") (some 10)).run {} = (.ok tenSeconds, created) ∧
    (∀ event ∈ visits, tenSeconds.Admits created event.label) ∧
    tenSeconds.IsExpiringMap .natural created visits (tenSeconds.after .natural created visits) ∧
    ((tenSeconds.load FileTree.files .natural 10 "kept").run
      (tenSeconds.after .natural created visits)).1 = some 7 ∧
    ((tenSeconds.load FileTree.files .natural 11 "kept").run
      (tenSeconds.after .natural created visits)).1 = none := by
  have hmap : tenSeconds.IsExpiringMap .natural created visits _ :=
    isExpiringMap_of_openAt run_openAt_tenSeconds admits_visits
  have hclock : ∀ event ∈ visits, ∀ moment ∈ event.moment?, moment ≤ 10 := by decide
  have hlast (now : Nat) (hlow : 10 ≤ now) (hhigh : now ≤ Expiring.never) :=
    hmap.last [] 0 "kept" 7 _ now rfl (by simp [Event.Writes]) rfl
      (JsonForm.keeps_natural (by decide)).roundTrips hhigh
      fun event he moment hm => Nat.le_trans (hclock event he moment hm) hlow
  refine ⟨run_openAt_tenSeconds, admits_visits, hmap, ?_, ?_⟩
  · rw [hlast 10 (by decide) (by decide)]
    rfl
  · rw [hlast 11 (by decide) (by decide)]
    rfl

end EvmProbe.Cache
