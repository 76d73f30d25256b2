import EvmProbe.Proofs.Rpc.Network

/-!
Providers that share a cache, over time.

A session begins with an empty cache.  Providers are attached to it, and they look items up, in any
order; nobody else writes below the root of the cache.

* `Session.Sound`: what holds of every session (`sound_of_reached`).  In the place of an item there
  is the first answer to a request for it that was final, and nothing if there was none
  (`Network.kept`).
* `Session.Sound.ask_eq`: what a look-up comes to.
-/

namespace EvmProbe

open EvmProbe.Path Provider FileTree

/-- A look-up that was made. -/
structure Visit where
  moment : Nat
  /-- The node of the provider. -/
  url : String
  item : Item
  /-- The requests that were sent. -/
  sent : List Request

/-- A cache in use. -/
structure Session where
  tree : FileTree
  /-- The providers that have been attached. -/
  providers : List Provider := []
  /-- The look-ups that have been made. -/
  visits : List Visit := []

namespace Session

/-- The moment of the next look-up. -/
def moment (session : Session) : Nat := session.visits.length

/-- Attaches a provider for a node. -/
def attach (session : Session) (network : Network) (layout : CacheLayout) (url : String) :
    Session :=
  let (result, station) := (withCache (network.host session.moment) { url } (network.chainOf url)
    layout).run { tree := session.tree }
  { session with tree := station.tree, providers := result.toOption.toList ++ session.providers }

/-- Looks an item up. -/
def ask (session : Session) (network : Network) (provider : Provider) (item : Item) :
    Except Failure item.Value × Session :=
  let (result, station) := (item.lookUp (network.host session.moment) provider).run
    { tree := session.tree }
  (result, { session with
    tree := station.tree
    visits := session.visits ++ [⟨session.moment, provider.url, item, station.sent⟩] })

section
variable (session : Session) (network : Network)

@[simp] theorem visits_attach (layout : CacheLayout) (url : String) :
    (session.attach network layout url).visits = session.visits := rfl

@[simp] theorem providers_ask (provider : Provider) (item : Item) :
    (session.ask network provider item).2.providers = session.providers := rfl

theorem exists_visits_ask (provider : Provider) (item : Item) : ∃ sent,
    (session.ask network provider item).2.visits =
      session.visits ++ [⟨session.moment, provider.url, item, sent⟩] := ⟨_, rfl⟩

end

end Session

namespace Network

/-- What was answered in look-ups of an item and is kept: the first final answer. -/
def kept (network : Network) (visits : List Visit) (chain : Nat) (item : Item) :
    Option item.Value :=
  visits.findSome? fun visit =>
    if visit.item = item ∧ network.chainOf visit.url = chain then
      network.final? visit.moment visit.url item
    else none

/-- All that is kept of an item is read again. -/
def RoundTrips (network : Network) (item : Item) : Prop :=
  ∀ moment url value, network.final? moment url item = some value → item.RoundTrips value

section
variable {network : Network} {visits : List Visit} {chain : Nat} {item : Item}

@[simp] theorem kept_nil : network.kept [] chain item = none := rfl

theorem kept_concat (visit : Visit) : network.kept (visits ++ [visit]) chain item =
    (network.kept visits chain item).or
      (if visit.item = item ∧ network.chainOf visit.url = chain then
        network.final? visit.moment visit.url item
      else none) := by
  simp only [kept, List.findSome?_append, List.findSome?_cons, List.findSome?_nil]
  congr 1
  split <;> simp_all

/-- What is kept was answered in a look-up. -/
theorem exists_of_kept {value : item.Value} (h : network.kept visits chain item = some value) :
    ∃ visit ∈ visits, visit.item = item ∧ network.chainOf visit.url = chain ∧
      network.final? visit.moment visit.url item = some value := by
  obtain ⟨before, visit, after, rfl, hvisit, -⟩ := List.findSome?_eq_some_iff.1 h
  split at hvisit
  · next hkey => exact ⟨visit, by simp, hkey.1, hkey.2, hvisit⟩
  · cases hvisit

/-- Nothing is kept of an item without a place. -/
theorem kept_of_placeless (h : item.slot? network.chains chain = none) :
    network.kept visits chain item = none := by
  rw [Option.eq_none_iff_forall_ne_some]
  intro value hkept
  obtain ⟨visit, -, -, hchain, hfinal⟩ := exists_of_kept hkept
  have hplace := (network.answer_of_final? visit.moment hfinal).2.2
  rw [hchain, h] at hplace
  cases hplace

end

end Network

namespace FileTree

theorem Attached.mono {root : String} {chains : Chains} {chain : Nat} {tree later : FileTree}
    (h : Attached root chains chain tree)
    (hkeep : ∀ path, tree.find? path = some none → later.find? path = some none) :
    Attached root chains chain later :=
  ⟨h.1.mono fun path _ => hkeep path, h.2.mono fun path _ => hkeep path⟩

end FileTree

namespace Session
variable {network : Network} {layout : CacheLayout} {root : String} {session : Session}

/-- The sessions that are reached from an empty cache. -/
inductive Reached (network : Network) (layout : CacheLayout) (root : String) : Session → Prop where
  | start {tree : FileTree} (ha : Accessible root tree)
      (he : ∀ path ≠ [], tree.below root path = none) : Reached network layout root { tree }
  | attach {session : Session} (h : Reached network layout root session) (url : String) :
      Reached network layout root (session.attach network layout url)
  /-- An item is looked up of which all that is kept is read again. -/
  | ask {session : Session} (h : Reached network layout root session) {provider : Provider}
      (hp : provider ∈ session.providers) (item : Item) (hr : network.RoundTrips item) :
      Reached network layout root (session.ask network provider item).2
  /-- Somebody else changes files that are not below the root. -/
  | elsewhere {session : Session} (h : Reached network layout root session) {tree : FileTree}
      (ha : Accessible root tree)
      (hl : session.tree.Leads [] (Path.steps root) → tree.Leads [] (Path.steps root))
      (hb : ∀ path ≠ [], tree.below root path = session.tree.below root path) :
      Reached network layout root { session with tree }

/-- What holds of every session that is reached. -/
structure Sound (network : Network) (layout : CacheLayout) (root : String) (session : Session) :
    Prop where
  accessible : Accessible root session.tree
  tidy : Tidy root session.tree
  /-- Providers are attached to chains with a name, and their directories are there. -/
  attached : ∀ provider ∈ session.providers,
    provider.store = some (network.chainOf provider.url, layout) ∧
      (network.chains.name? (network.chainOf provider.url)).isSome ∧
      Attached root network.chains (network.chainOf provider.url) session.tree
  /-- In the place of an item there is what is kept of it. -/
  place : ∀ chain item slot, (network.chains.name? chain).isSome →
    item.slot? network.chains chain = some slot →
    session.tree.below root slot.path =
      (network.kept session.visits chain item).map fun value => some (item.text value)
  earlier : ∀ visit ∈ session.visits, visit.moment < session.moment

/-! ## Attaching providers -/

theorem isSome_name?_of_checkChain {chains : Chains} {chain : Nat}
    (h : checkChain chains chain = .ok ()) : (chains.name? chain).isSome := by
  unfold checkChain at h
  split at h
  · cases h
  · next hname => exact Option.isSome_iff_ne_none.2 (by simpa using hname)

/-- A provider for a chain that is not supported is not attached. -/
theorem attach_unsupported {url : String} {cause : UnsupportedChain}
    (h : checkChain network.chains (network.chainOf url) = .error cause) :
    session.attach network layout url = session := by
  have hrun : (withCache (network.host session.moment) { url } (network.chainOf url) layout).run
      { tree := session.tree } = (.error (.ofText cause.message), { tree := session.tree }) := by
    simp only [withCache, Network.host_chains, h]
    rfl
  simp only [attach, hrun]
  rfl

namespace Sound
variable (h : Sound network layout root session)
include h

/-- Directories that are added change nothing that matters. -/
theorem grows {later : FileTree} (ha : Accessible root later)
    (hkeep : ∀ path, session.tree.find? path = some none → later.find? path = some none)
    (hg : Grows (¬ IsLabelled ·) (session.tree.below root) (later.below root)) :
    Sound network layout root { session with tree := later } where
  accessible := ha
  tidy := h.tidy.grows hg
  attached provider hp :=
    let ⟨hstore, hchain, hd⟩ := h.attached provider hp
    ⟨hstore, hchain, hd.mono hkeep⟩
  place chain item slot hc hslot :=
    (hg.eq_of_not fun hn => hn ⟨slot.directories, slot.label, rfl⟩).trans
      (h.place chain item slot hc hslot)
  earlier := h.earlier

/-- **A provider for a supported chain is attached**, and its directories are created. -/
theorem attach_eq (hnames : network.chains.Lawful) (hroot : layout.directory? = some root)
    {url : String} (hchain : checkChain network.chains (network.chainOf url) = .ok ()) :
    ∃ later, session.attach network layout url =
        ⟨later, ⟨url, some (network.chainOf url, layout)⟩ :: session.providers, session.visits⟩ ∧
      Attached root network.chains (network.chainOf url) later ∧
      (∀ path, session.tree.find? path = some none → later.find? path = some none) ∧
      Grows (¬ IsLabelled ·) (session.tree.below root) (later.below root) := by
  have hc := isSome_name?_of_checkChain hchain
  have hplain (item : Item) {slot : Slot}
      (hslot : item.slot? network.chains (network.chainOf url) = some slot) :=
    (Item.plain_of_slot? hnames hc hslot).1
  -- the directories of receipts come first
  obtain ⟨middle, hmiddle, hleads, hkeep, hgrows⟩ :=
    exists_directories h.accessible h.tidy (hplain (.receipt 0) rfl)
  obtain ⟨later, hlater, hleads', hkeep', hgrows'⟩ := exists_directories
    (accessible_of_leads (leads_append.1 hleads).1) (h.tidy.grows hgrows)
    (hplain (.transaction 0) rfl)
  refine ⟨later, ?_, ⟨hleads', hleads.mono fun path _ => hkeep' path⟩,
    fun path hd => hkeep' path (hkeep path hd), hgrows.trans hgrows'⟩
  have hreceipts : layout.receipts? network.chains (network.chainOf url) =
      some (joinAll root ["rpc", network.chains.text (network.chainOf url), "receipt"]) := by
    rw [CacheLayout.receipts?, CacheLayout.below?, hroot]
    rfl
  have htransactions : layout.transactions? network.chains (network.chainOf url) =
      some (joinAll root ["rpc", network.chains.text (network.chainOf url), "tx"]) := by
    rw [CacheLayout.transactions?, CacheLayout.below?, hroot]
    rfl
  have hopen := network.run_openAt session.moment { tree := session.tree } hmiddle
  have hopen' := network.run_openAt session.moment { tree := middle } hlater
  have hrun : (withCache (network.host session.moment) { url } (network.chainOf url) layout).run
      { tree := session.tree } =
        (.ok ⟨url, some (network.chainOf url, layout)⟩, { tree := later }) := by
    simp only [withCache, Network.host_chains, hchain, hreceipts, htransactions]
    exact (run_bind_of_eq hopen).trans (run_bind_of_eq hopen')
  simp only [attach, hrun]
  rfl

end Sound

/-! ## Looking items up -/

/-- What a look-up comes to: what is kept, or else what the node answers at that moment. -/
def outcome (session : Session) (network : Network) (url : String) (item : Item) :
    Except Failure item.Value :=
  match network.kept session.visits (network.chainOf url) item with
  | some value => .ok value
  | none => network.answer session.moment url item

/-- A look-up, with the requests that it sends: one, unless something is kept. -/
def visit (session : Session) (network : Network) (url : String) (item : Item) : Visit where
  moment := session.moment
  url := url
  item := item
  sent := if (network.kept session.visits (network.chainOf url) item).isSome then []
    else [item.request url]

theorem earlier_concat {visits : List Visit} (h : ∀ visit ∈ visits, visit.moment < visits.length)
    {visit : Visit} (hm : visit.moment = visits.length) :
    ∀ visit' ∈ visits ++ [visit], visit'.moment < (visits ++ [visit]).length := by
  intro visit' hv
  rw [List.length_append, List.length_singleton]
  rcases List.mem_append.1 hv with hv | hv
  · exact Nat.lt_succ_of_lt (h visit' hv)
  · cases List.mem_singleton.1 hv
    omega

namespace Sound
variable (h : Sound network layout root session)
include h

/-- A look-up of which nothing more is kept. -/
theorem visited {visit : Visit} (hm : visit.moment = session.moment)
    (hn : network.final? visit.moment visit.url visit.item = none ∨
      (network.kept session.visits (network.chainOf visit.url) visit.item).isSome) :
    Sound network layout root { session with visits := session.visits ++ [visit] } where
  accessible := h.accessible
  tidy := h.tidy
  attached := h.attached
  place chain item slot hc hslot := by
    rw [h.place chain item slot hc hslot, Network.kept_concat]
    split
    · next hkey =>
      obtain ⟨rfl, rfl⟩ := hkey
      rcases hn with hn | hn
      · rw [hn, Option.or_none]
      · rw [Option.or_of_isSome hn]
    · rw [Option.or_none]
  earlier := earlier_concat h.earlier hm

/-- A look-up of which the answer is kept, being the first. -/
theorem saved (hnames : network.chains.Lawful) (visit : Visit) {slot : Slot}
    {value : visit.item.Value} (hleads : session.tree.Leads [] (Path.steps root))
    (hm : visit.moment = session.moment)
    (hc : (network.chains.name? (network.chainOf visit.url)).isSome)
    (hslot : visit.item.slot? network.chains (network.chainOf visit.url) = some slot)
    (hkept : network.kept session.visits (network.chainOf visit.url) visit.item = none)
    (hfinal : network.final? visit.moment visit.url visit.item = some value) :
    Sound network layout root { session with
      tree := session.tree.put (FileTree.place root ++ slot.path) (some (visit.item.text value))
      visits := session.visits ++ [visit] } := by
  have hne : slot.path ≠ [] := by simp [Slot.path]
  have hfree : session.tree.below root slot.path = none := by
    rw [h.place _ _ _ hc hslot, hkept]
    rfl
  have hkeep (path : List String) (hd : session.tree.find? path = some none) :
      (session.tree.put (FileTree.place root ++ slot.path)
        (some (visit.item.text value))).find? path = some none := by
    rw [find?_put _ _ (by simp [hne])]
    by_cases he : path = FileTree.place root ++ slot.path
    · rw [below, ← he, hd] at hfree
      cases hfree
    · rwa [if_neg he]
  refine ⟨accessible_of_leads (hleads.mono fun path _ => hkeep path), fun path text hpath hf => ?_,
    fun provider hp => ?_, fun chain item slot' hc' hslot' => ?_, fun visit' hv => ?_⟩
  · rw [below_put _ _ hne] at hf
    split at hf
    · next he => exact ⟨slot.directories, slot.label, he⟩
    · exact h.tidy path text hpath hf
  · obtain ⟨hstore, hname, hd⟩ := h.attached provider hp
    exact ⟨hstore, hname, hd.mono hkeep⟩
  · rw [below_put _ _ hne, Network.kept_concat]
    by_cases he : slot'.path = slot.path
    · obtain ⟨rfl, rfl⟩ := Item.path_inj hnames hc' hc hslot' hslot he
      rw [if_pos he, if_pos ⟨rfl, rfl⟩, hkept, hfinal]
      rfl
    · have hkey : ¬ (visit.item = item ∧ network.chainOf visit.url = chain) := by
        rintro ⟨rfl, rfl⟩
        rw [hslot] at hslot'
        cases hslot'
        exact he rfl
      rw [if_neg he, if_neg hkey, Option.or_none]
      exact h.place chain item slot' hc' hslot'
  · exact earlier_concat h.earlier hm visit' hv

/-- **A look-up** comes to what is kept, or else to what the node answers, which is then asked once.
An item without a place leaves the files as they are. -/
theorem ask_eq (hnames : network.chains.Lawful) (hroot : layout.directory? = some root)
    {provider : Provider} (hp : provider ∈ session.providers) {item : Item}
    (hr : network.RoundTrips item) :
    ∃ tree, session.ask network provider item =
        (session.outcome network provider.url item, { session with
          tree, visits := session.visits ++ [session.visit network provider.url item] }) ∧
      Sound network layout root { session with
        tree, visits := session.visits ++ [session.visit network provider.url item] } ∧
      (item.slot? network.chains (network.chainOf provider.url) = none → tree = session.tree) := by
  obtain ⟨hstore, hc, hd⟩ := h.attached provider hp
  cases hslot : item.slot? network.chains (network.chainOf provider.url) with
  | none =>
    have hkept : network.kept session.visits (network.chainOf provider.url) item = none :=
      network.kept_of_placeless hslot
    have hfinal : network.final? session.moment provider.url item = none := by
      rw [Network.final?, hslot]
      rfl
    have hrun :
        (item.lookUp (network.host session.moment) provider).run { tree := session.tree } = _ :=
      network.run_lookUp_placeless session.moment hslot
    refine ⟨session.tree, ?_, h.visited rfl (.inl hfinal), fun _ => rfl⟩
    simp only [ask, hrun, outcome, visit, hkept]
    rfl
  | some slot =>
    obtain ⟨later, hcache, hleads, hkeep, hgrows⟩ := network.exists_run_cache session.moment hnames
      { tree := session.tree } hstore hroot hc hslot h.accessible h.tidy hd
    have hroots := (leads_append.1 hleads).1
    have hlater := h.grows (accessible_of_leads hroots) hkeep hgrows
    have hplace := hlater.place _ _ _ hc hslot
    cases hkept : network.kept session.visits (network.chainOf provider.url) item with
    | some value =>
      obtain ⟨visit', -, -, -, hfinal⟩ := Network.exists_of_kept hkept
      rw [hkept] at hplace
      have hrun := network.run_lookUp_kept session.moment hnames hcache hleads hc hslot
        (hr _ _ _ hfinal) hplace
      refine ⟨later, ?_, hlater.visited rfl (.inr ?_), fun hn => by cases hn⟩
      · simp only [ask, hrun, outcome, visit, hkept]
        rfl
      · exact Option.isSome_iff_exists.2 ⟨value, hkept⟩
    | none =>
      rw [hkept] at hplace
      have hrun := network.run_lookUp_asked session.moment hnames hcache hleads hc hslot rfl hplace
      cases hfinal : network.final? session.moment provider.url item with
      | none =>
        rw [hfinal] at hrun
        refine ⟨later, ?_, hlater.visited rfl (.inl hfinal), fun hn => by cases hn⟩
        simp only [ask, hrun, outcome, visit, hkept]
        rfl
      | some value =>
        rw [hfinal] at hrun
        refine ⟨_, ?_, hlater.saved hnames (session.visit network provider.url item) hroots rfl hc
          hslot hkept hfinal, fun hn => by cases hn⟩
        simp only [ask, hrun, outcome, visit, hkept]
        rfl

end Sound

/-! ## Every session -/

/-- **In every session** the place of an item holds what is kept of it. -/
theorem sound_of_reached (hnames : network.chains.Lawful) (hroot : layout.directory? = some root)
    (h : Reached network layout root session) : Sound network layout root session := by
  induction h with
  | @start tree ha he =>
    have hnone (slot : Slot) : tree.below root slot.path = none := he _ (by simp [Slot.path])
    have htidy : Tidy root tree := fun path text hne hf => by
      rw [he path hne] at hf
      cases hf
    exact ⟨ha, htidy, fun provider hp => absurd hp List.not_mem_nil,
      fun chain item slot _ _ => hnone slot, fun visit hv => absurd hv List.not_mem_nil⟩
  | @attach session _ url ih =>
    cases hchain : checkChain network.chains (network.chainOf url) with
    | error cause => rwa [attach_unsupported hchain]
    | ok =>
      obtain ⟨later, heq, hattached, hkeep, hgrows⟩ := ih.attach_eq hnames hroot hchain
      have hlater := ih.grows (accessible_of_leads (leads_append.1 hattached.1).1) hkeep hgrows
      rw [heq]
      refine ⟨hlater.accessible, hlater.tidy, fun provider hp => ?_, hlater.place, hlater.earlier⟩
      rcases List.mem_cons.1 hp with rfl | hp
      · exact ⟨rfl, isSome_name?_of_checkChain hchain, hattached⟩
      · exact hlater.attached provider hp
  | ask _ hp item hr ih =>
    obtain ⟨tree, heq, hsound, -⟩ := ih.ask_eq hnames hroot hp hr
    rwa [heq]
  | @elsewhere session _ tree ha hl hb ih =>
    refine ⟨ha, fun path text hne hf => ih.tidy path text hne (hb path hne ▸ hf),
      fun provider hp => ?_, fun chain item slot hc hslot => ?_, ih.earlier⟩
    · obtain ⟨hstore, hc, hd⟩ := ih.attached provider hp
      have hleads (item : Item) {slot : Slot}
          (hslot : item.slot? network.chains (network.chainOf provider.url) = some slot)
          (h : session.tree.Leads [] (Path.steps root ++ slot.directories)) :
          tree.Leads [] (Path.steps root ++ slot.directories) := by
        obtain ⟨hroots, hbelow⟩ := leads_append.1 h
        refine leads_append.2 ⟨hl hroots, hbelow.mono fun path hv hd => ?_⟩
        obtain ⟨front, -, hne, rfl⟩ := hv.of_names fun name hm =>
          ((Item.plain_of_slot? hnames hc hslot).1 name hm).isName.notAbove
        exact (hb front hne).trans hd
      exact ⟨hstore, hc, hleads (.transaction 0) rfl hd.1, hleads (.receipt 0) rfl hd.2⟩
    · exact (hb _ (by simp [Slot.path])).trans (ih.place chain item slot hc hslot)

end Session

end EvmProbe
