import EvmProbe.Proofs.Cache.Root
import EvmProbe.Proofs.Rpc.Items

/-!
Nodes that change their answers over time, and what one look-up through a cache does.

A look-up meets a tree of files and a list of the requests that were sent.  It takes what it finds
in the place of the item, and asks the node only if there is nothing.

* `run_lookUp_kept`: what is kept is the result, and no request is sent.
* `run_lookUp_asked`: otherwise the node is asked once, and what is final is kept.
* `run_lookUp_placeless`: an item without a place is asked for, and nothing is written.
-/

namespace EvmProbe

open EvmProbe.Path Provider

/-- A request to a node. -/
structure Request where
  url : String
  method : String
  params : Json

/-- What look-ups work on: the files, and the requests that were sent. -/
structure Station where
  tree : FileTree
  sent : List Request := []

/-- A file operation leaves the requests as they are. -/
def Station.onFiles {α : Type} (act : StateM FileTree α) : StateM Station α := fun station =>
  let (a, tree) := act.run station.tree
  (a, { station with tree })

/-- Nodes, the chains that have a name, and the time. -/
structure Network where
  /-- The chains that have a name. -/
  chains : Chains
  /-- The chain of the node at a URL. -/
  chainOf : (url : String) → Nat
  /-- What the node at a URL replies at a moment. -/
  reply : (moment : Nat) → (url method : String) → (params : Json) → Except RpcError Json
  /-- The second of a moment, a number of 64 bits. -/
  clock : (moment : Nat) → Nat
  clock_le : ∀ moment, clock moment ≤ Expiring.never

namespace Network

/-- The machine at a moment. -/
def host (network : Network) (moment : Nat) : Host (StateM Station) where
  files := {
    read := fun path => Station.onFiles (FileTree.files.read path)
    write := fun path content => Station.onFiles (FileTree.files.write path content)
    remove := fun path => Station.onFiles (FileTree.files.remove path)
    createDirectories := fun path => Station.onFiles (FileTree.files.createDirectories path)
    isPresent := fun path => Station.onFiles (FileTree.files.isPresent path) }
  now := return network.clock moment
  chains := network.chains
  send url method params := fun station =>
    (network.reply moment url method params,
      { station with sent := station.sent ++ [⟨url, method, params⟩] })

@[simp] theorem host_chains (network : Network) (moment : Nat) :
    (network.host moment).chains = network.chains := rfl

/-- What a node answers, in the form that is asked for. -/
def answerTo {α : Type} (network : Network) (moment : Nat) (url method : String) (params : Json)
    (form : Answer α) : Except Failure α :=
  match network.reply moment url method params with
  | .error cause => .error cause.failure
  | .ok answer =>
    match form.read answer with
    | none => .error (RpcError.form (form.fault? answer)).failure
    | some value => .ok value

end Network

/-! ## Caches at a moment -/

namespace Network
variable {α : Type} (network : Network) (moment : Nat) (station : Station)

theorem run_ask (url method : String) (params : Json) (form : Answer α) :
    ((network.host moment).ask url method params form).run station =
      (network.answerTo moment url method params form,
        { station with sent := station.sent ++ [⟨url, method, params⟩] }) := by
  have hsend : ((network.host moment).send url method params).run station =
    (network.reply moment url method params,
      { station with sent := station.sent ++ [⟨url, method, params⟩] }) := rfl
  rw [Host.ask, run_bind_of_eq hsend, answerTo]
  cases network.reply moment url method params with
  | error cause => rfl
  | ok answer =>
    simp only
    cases form.read answer <;> rfl

/-- A change of the tree that succeeds. -/
theorem run_onFiles_change (act : FileTree → Except FileError FileTree) {later : FileTree}
    (h : act station.tree = .ok later) :
    (Station.onFiles (FileTree.change act)).run station =
      (.ok (), { station with tree := later }) := by
  have hchange : (FileTree.change act).run station.tree = (.ok (), later) := by
    show FileTree.change act station.tree = _
    rw [FileTree.change, h]
  show (let (a, tree) := (FileTree.change act).run station.tree; (a, { station with tree })) = _
  rw [hchange]

theorem run_openAt {path : String} {later : FileTree}
    (h : station.tree.createDirectories path = .ok later) :
    (Cache.openAt (network.host moment).files (some path) none).run station =
      (.ok ⟨some path, none⟩, { station with tree := later }) := by
  have hcreate : ((network.host moment).files.createDirectories path).run station =
      (.ok (), { station with tree := later }) :=
    run_onFiles_change station (·.createDirectories path) h
  rw [Cache.openAt, run_bind_of_eq hcreate]
  rfl

section
variable {cache : Cache} {directory label : String} (form : JsonForm α) (now : Nat)
  (hd : cache.directory = some directory)
include hd

theorem run_load_absent (h : station.tree.isPresent (Cache.file directory label) = false) :
    (cache.load (network.host moment).files form now label).run station = (none, station) := by
  have hpresent : ((network.host moment).files.isPresent (Cache.file directory label)).run station =
    (station.tree.isPresent (Cache.file directory label), station) := rfl
  simp only [Cache.load, hd]
  rw [run_bind_of_eq hpresent, h]
  rfl

theorem run_load_kept {text : String} {value : α} {expiry : Nat}
    (h : station.tree.isPresent (Cache.file directory label) = true)
    (hr : station.tree.read (Cache.file directory label) = .ok text)
    (hp : (Json.parse? text).bind (Expiring.ofJson? form) = some ⟨value, expiry⟩)
    (he : now ≤ expiry) :
    (cache.load (network.host moment).files form now label).run station =
      (some value, station) := by
  have hpresent : ((network.host moment).files.isPresent (Cache.file directory label)).run station =
    (station.tree.isPresent (Cache.file directory label), station) := rfl
  have hread : ((network.host moment).files.read (Cache.file directory label)).run station =
    (station.tree.read (Cache.file directory label), station) := rfl
  have hvalid : Expiring.isValid ⟨value, expiry⟩ now = true := decide_eq_true he
  simp only [Cache.load, hd]
  rw [run_bind_of_eq hpresent, h, Bool.not_true, if_neg Bool.false_ne_true,
    run_bind_of_eq hread, hr]
  simp only [hp, hvalid]
  rfl

theorem run_save {value : α} {later : FileTree}
    (hw : station.tree.write (Cache.file directory label)
      (Expiring.toJson form ⟨value, Expiring.expiryOf cache.lifetime now⟩).compact = .ok later) :
    (cache.save (network.host moment).files form now label value).run station =
      (.ok (), { station with tree := later }) := by
  simp only [Cache.save, hd]
  exact run_onFiles_change station (·.write (Cache.file directory label) _) hw

end

section
variable {form : JsonForm α} {cache : Cache} {label : String}
  {fetch : StateM Station (Except Failure α)} {isFinal : α → Bool} {fetched : Station}
  {result : Except Failure α} {value : α}

/-- **A value that is loaded is the result.** -/
theorem run_throughCache_kept
    (hl : (cache.load (network.host moment).files form (network.clock moment) label).run station =
      (some value, station)) :
    (throughCache (network.host moment) cache form label fetch isFinal).run station =
      (.ok value, station) := by
  have hnow : (network.host moment).now.run station = (network.clock moment, station) := rfl
  rw [throughCache, run_bind_of_eq hnow, run_bind_of_eq hl]
  rfl

section
variable
  (hl : (cache.load (network.host moment).files form (network.clock moment) label).run station =
    (none, station))
include hl

/-- An answer that is not kept is the result. -/
theorem run_throughCache_passed (hf : fetch.run station = (result, fetched))
    (hn : ∀ value, result = .ok value → isFinal value = false) :
    (throughCache (network.host moment) cache form label fetch isFinal).run station =
      (result, fetched) := by
  have hnow : (network.host moment).now.run station = (network.clock moment, station) := rfl
  rw [throughCache, run_bind_of_eq hnow, run_bind_of_eq hl,
    run_bind_of_eq hf]
  cases result with
  | error cause => rfl
  | ok value =>
    simp only [hn value rfl]
    rfl

/-- An answer that is kept is the result too. -/
theorem run_throughCache_saved (hf : fetch.run station = (.ok value, fetched))
    (hfinal : isFinal value) {later : Station}
    (hs : (cache.save (network.host moment).files form (network.clock moment) label value).run
      fetched = (.ok (), later)) :
    (throughCache (network.host moment) cache form label fetch isFinal).run station =
      (.ok value, later) := by
  have hnow (station : Station) :
      (network.host moment).now.run station = (network.clock moment, station) := rfl
  rw [throughCache, run_bind_of_eq (hnow station), run_bind_of_eq hl,
    run_bind_of_eq hf]
  simp only [hfinal]
  rw [Bool.not_true, if_neg Bool.false_ne_true]
  exact (run_bind_of_eq (hnow fetched)).trans (run_bind_of_eq hs)

end

end

end Network

/-! ## Items at a moment -/

namespace Provider.Item

/-- The request for an item. -/
def request (url : String) (item : Item) : Request := ⟨url, item.method, item.params⟩

/-- What is kept of a value. -/
def text (item : Item) (value : item.Value) : String :=
  (Expiring.toJson item.form ⟨value, Expiring.never⟩).compact

/-- What is kept of a value is read as that value. -/
def RoundTrips (item : Item) (value : item.Value) : Prop :=
  (Json.parse? (item.text value)).bind (Expiring.ofJson? item.form) = some ⟨value, Expiring.never⟩

end Provider.Item

/-- The directories that are created for a provider with a cache. -/
def FileTree.Attached (root : String) (chains : Chains) (chain : Nat) (tree : FileTree) : Prop :=
  tree.Leads [] (Path.steps root ++ ["rpc", chains.text chain, "tx"]) ∧
    tree.Leads [] (Path.steps root ++ ["rpc", chains.text chain, "receipt"])

open FileTree

namespace Network

/-- What the node at a URL answers for an item. -/
def answer (network : Network) (moment : Nat) (url : String) (item : Item) :
    Except Failure item.Value :=
  network.answerTo moment url item.method item.params item.answer

/-- What the node at a URL answers for an item, if that is kept. -/
def final? (network : Network) (moment : Nat) (url : String) (item : Item) : Option item.Value :=
  if (item.slot? network.chains (network.chainOf url)).isSome then
    (network.answer moment url item).toOption.filter item.isFinal
  else none

section
variable (network : Network) (moment : Nat) {provider : Provider} {item : Item} {slot : Slot}
  {station : Station} {chain : Nat} {layout : CacheLayout} {root : String}

theorem answer_of_final? {url : String} {value : item.Value}
    (h : network.final? moment url item = some value) :
    network.answer moment url item = .ok value ∧ item.isFinal value ∧
      (item.slot? network.chains (network.chainOf url)).isSome := by
  unfold final? at h
  split at h
  · next hslot =>
    obtain ⟨hsome, hfinal⟩ := Option.filter_eq_some_iff.1 h
    refine ⟨?_, hfinal, hslot⟩
    cases hanswer : network.answer moment url item with
    | error cause => simp [hanswer, Except.toOption] at hsome
    | ok answer => simpa [hanswer, Except.toOption] using hsome
  · cases h

theorem final?_of_answer {url : String} {value : item.Value}
    (h : network.answer moment url item = .ok value) (hfinal : item.isFinal value)
    (hslot : (item.slot? network.chains (network.chainOf url)).isSome) :
    network.final? moment url item = some value := by
  rw [final?, if_pos hslot, h]
  exact Option.filter_eq_some_iff.2 ⟨rfl, hfinal⟩

/-- What is answered and not kept, although the item has a place. -/
theorem not_isFinal_of_final? {url : String}
    (hslot : (item.slot? network.chains (network.chainOf url)).isSome)
    (h : network.final? moment url item = none) (value : item.Value)
    (hanswer : network.answer moment url item = .ok value) : item.isFinal value = false := by
  rw [final?, if_pos hslot, hanswer] at h
  simpa [Except.toOption] using h

/-- In a cache that is open, the look-up goes on. -/
theorem run_lookUp_of_cache {cache : Cache} {opened : Station}
    (h : (item.cache (network.host moment) provider).run station = (.ok cache, opened)) :
    (item.lookUp (network.host moment) provider).run station =
      (throughCache (network.host moment) cache item.form item.label
        ((network.host moment).ask provider.url item.method item.params item.answer)
        item.isFinal).run opened := by
  rw [Item.lookUp_eq, run_bind_of_eq h]

/-- **An item without a place is asked for**, and nothing is written. -/
theorem run_lookUp_placeless (h : item.slot? network.chains chain = none) :
    (item.lookUp (network.host moment) provider).run station =
      (network.answer moment provider.url item,
        { station with sent := station.sent ++ [item.request provider.url] }) := by
  have hcache : (item.cache (network.host moment) provider).run station = (.ok {}, station) := by
    unfold Item.slot? at h
    split at h
    · cases h
    · next address block hblock =>
      show (provider.codeCache (network.host moment) block).run station = _
      unfold codeCache
      split
      · next n _ => exact absurd rfl (hblock n)
      · rfl
    · cases h
    · cases h
  have hask := network.run_ask moment station provider.url item.method item.params item.answer
  rw [run_lookUp_of_cache _ _ hcache]
  cases hanswer : network.answer moment provider.url item with
  | error cause =>
    rw [answer] at hanswer
    rw [hanswer] at hask
    exact network.run_throughCache_passed moment station rfl hask fun value hv => by cases hv
  | ok value =>
    rw [answer] at hanswer
    rw [hanswer] at hask
    cases hfinal : item.isFinal value with
    | true => exact network.run_throughCache_saved moment station rfl hask hfinal rfl
    | false =>
      exact network.run_throughCache_passed moment station rfl hask fun _ hv => by
        cases hv
        exact hfinal

/-- The cache of an item that has a place is open, in directories that are there. -/
theorem exists_run_cache (hnames : network.chains.Lawful) (station : Station)
    (hstore : provider.store = some (chain, layout)) (hroot : layout.directory? = some root)
    (hc : (network.chains.name? chain).isSome)
    (hslot : item.slot? network.chains chain = some slot) (ha : Accessible root station.tree)
    (ht : Tidy root station.tree) (hd : Attached root network.chains chain station.tree) :
    ∃ later, (item.cache (network.host moment) provider).run station =
        (.ok ⟨some (joinAll root slot.directories), none⟩, { station with tree := later }) ∧
      later.Leads [] (Path.steps root ++ slot.directories) ∧
      (∀ path, station.tree.find? path = some none → later.find? path = some none) ∧
      Grows (¬ IsLabelled ·) (station.tree.below root) (later.below root) := by
  have hplain := (Item.plain_of_slot? hnames hc hslot).1
  rcases Item.slot?_cases hslot with ⟨address, n, rfl, rfl⟩ | ⟨hash, rfl, rfl⟩ | ⟨hash, rfl, rfl⟩
  · obtain ⟨later, hcreate, hleads, hkeep, hgrows⟩ := exists_directories ha ht hplain
    refine ⟨later, ?_, hleads, hkeep, hgrows⟩
    have hopen := network.run_openAt moment station hcreate
    have hcode : layout.code? network.chains chain n =
        some (joinAll root ["rpc", network.chains.text chain, toString n, "code"]) := by
      rw [CacheLayout.code?, CacheLayout.below?, hroot]
      rfl
    simp only [Item.cache, codeCache, hstore, host_chains, hcode]
    exact hopen
  · refine ⟨station.tree, ?_, hd.1, fun _ => id, .refl _ _⟩
    have hdirectory : provider.transactionCache network.chains =
        ⟨some (joinAll root ["rpc", network.chains.text chain, "tx"]), none⟩ := by
      simp only [transactionCache, hstore, Option.bind_some, CacheLayout.transactions?,
        CacheLayout.below?, hroot]
      rfl
    rw [Item.cache, host_chains, hdirectory]
    rfl
  · refine ⟨station.tree, ?_, hd.2, fun _ => id, .refl _ _⟩
    have hdirectory : provider.receiptCache network.chains =
        ⟨some (joinAll root ["rpc", network.chains.text chain, "receipt"]), none⟩ := by
      simp only [receiptCache, hstore, Option.bind_some, CacheLayout.receipts?,
        CacheLayout.below?, hroot]
      rfl
    rw [Item.cache, host_chains, hdirectory]
    rfl

section
variable {opened : Station} (hnames : network.chains.Lawful)
  (hcache : (item.cache (network.host moment) provider).run station =
    (.ok ⟨some (joinAll root slot.directories), none⟩, opened))
  (hleads : opened.tree.Leads [] (Path.steps root ++ slot.directories))
  (hc : (network.chains.name? chain).isSome) (hslot : item.slot? network.chains chain = some slot)
include hnames hcache hleads hc hslot

omit hcache in
theorem locate_item : opened.tree.locate []
    (Path.steps (Cache.file (joinAll root slot.directories) item.label)) =
      .ok (place root ++ slot.path) := by
  obtain ⟨hplain, hlabel⟩ := Item.plain_of_slot? hnames hc hslot
  rw [← Item.label_of_slot? hslot]
  exact locate_file_below hleads (fun name hm => (hplain name hm).isName) hlabel

/-- **What is kept is the result**, and no request is sent. -/
theorem run_lookUp_kept {value : item.Value} (hround : item.RoundTrips value)
    (hkept : opened.tree.below root slot.path = some (some (item.text value))) :
    (item.lookUp (network.host moment) provider).run station = (.ok value, opened) := by
  have hlocate := locate_item _ hnames hleads hc hslot
  have hpresent := isPresent_of_locate hlocate
  rw [← below, hkept] at hpresent
  rw [run_lookUp_of_cache _ _ hcache]
  exact network.run_throughCache_kept moment opened (network.run_load_kept moment opened _ _ rfl
    hpresent (read_of_locate hlocate hkept) hround (network.clock_le moment))

/-- **Where nothing is kept the node is asked**, and what is final is kept from now on. -/
theorem run_lookUp_asked (hchain : network.chainOf provider.url = chain)
    (hnone : opened.tree.below root slot.path = none) :
    (item.lookUp (network.host moment) provider).run station =
      (network.answer moment provider.url item,
        ⟨(network.final? moment provider.url item).elim opened.tree fun value =>
            opened.tree.put (place root ++ slot.path) (some (item.text value)),
          opened.sent ++ [item.request provider.url]⟩) := by
  have hlocate := locate_item _ hnames hleads hc hslot
  have habsent := isPresent_of_locate hlocate
  rw [← below, hnone] at habsent
  have hopen : Cache.directory ⟨some (joinAll root slot.directories), none⟩ =
    some (joinAll root slot.directories) := rfl
  have hload := network.run_load_absent moment opened item.form (network.clock moment) hopen habsent
  have hask := network.run_ask moment opened provider.url item.method item.params item.answer
  rw [← answer] at hask
  rw [run_lookUp_of_cache _ _ hcache]
  cases hfinal : network.final? moment provider.url item with
  | none =>
    have hplace : (item.slot? network.chains (network.chainOf provider.url)).isSome := by
      rw [hchain, hslot]
      rfl
    exact network.run_throughCache_passed moment opened hload hask
      (network.not_isFinal_of_final? moment hplace hfinal)
  | some value =>
    obtain ⟨hanswer, hkeep, -⟩ := network.answer_of_final? moment hfinal
    rw [hanswer] at hask ⊢
    have hfree : opened.tree.find? (place root ++ slot.path) ≠ some none := by
      rw [← below, hnone]
      exact fun h => by cases h
    have hwrite := write_of_locate hlocate hfree (item.text value)
    exact network.run_throughCache_saved moment opened hload hask hkeep
      (network.run_save moment _ item.form (network.clock moment) rfl hwrite)

end

end

end Network

end EvmProbe
