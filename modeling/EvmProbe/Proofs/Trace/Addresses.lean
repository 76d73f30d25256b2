import EvmProbe.AddressMap
import Mathlib.Data.List.Forall2

/-!
What a map of addresses holds.

* `contains_insert`: an insertion adds one address.
* `find?_insertAll`: new entries are added to those that there are; `find?_insertAll_last`: of
  entries with the same address the last one remains.
* `find?_of_forall₂`: maps whose entries correspond hold corresponding values.
* `Sorted.ext`: sorted maps with the same values are the same.
* `mem_sortedAddresses`, `nodup_sortedAddresses`: sorting addresses keeps each of them, once.
-/

namespace EvmProbe

namespace AddressMap

variable {α β : Type} {map : AddressMap α} {address other : Address} {value : α}

/-- A map contains an address exactly if it is one of its keys. -/
theorem contains_iff_mem_keys : map.contains address ↔ address ∈ map.keys := by
  simp only [contains, find?, keys, List.lookup_isSome_iff, beq_iff_eq, List.mem_map]
  exact exists_congr fun entry => and_congr_right fun _ => eq_comm

@[simp] theorem contains_empty : (empty : AddressMap α).contains address = false := rfl

/-- An insertion adds its address and no other. -/
@[simp] theorem contains_insert :
    (map.insert address value).contains other ↔ other = address ∨ map.contains other := by
  rw [contains, find?_insert]
  split <;> simp [*, contains]

/-- Changing the values keeps the addresses. -/
@[simp] theorem contains_map (f : α → β) :
    (map.map f).contains address ↔ map.contains address := by
  simp [contains_iff_mem_keys, keys, AddressMap.map]

theorem contains_insertAll (entries : List (Address × α)) :
    (map.insertAll entries).contains address ↔
      map.contains address ∨ address ∈ entries.map (·.1) := by
  induction entries generalizing map with
  | nil => simp [insertAll]
  | cons entry entries ih =>
    rw [insertAll, List.foldl_cons, ← insertAll, ih, contains_insert, List.map_cons,
      List.mem_cons, or_comm (a := address = entry.1), or_assoc]

/-! ## Values -/

theorem find?_map (f : α → β) : (map.map f).find? address = (map.find? address).map f := by
  obtain ⟨entries⟩ := map
  change (entries.map fun entry => (entry.1, f entry.2)).lookup address = _
  induction entries with
  | nil => rfl
  | cons entry entries ih =>
    rw [List.map_cons, lookup_cons, ih]
    show _ = Option.map f (List.lookup address (entry :: entries))
    rw [lookup_cons]
    split <;> rfl

/-- **New entries are added to those that there are.** -/
theorem find?_insertAll {entries : List (Address × α)} (hnodup : (entries.map (·.1)).Nodup)
    (hnew : ∀ entry ∈ entries, map.find? entry.1 = none) :
    (map.insertAll entries).find? address = some value ↔
      (address, value) ∈ entries ∨ map.find? address = some value := by
  induction entries generalizing map with
  | nil => simp [insertAll]
  | cons entry entries ih =>
    obtain ⟨hfresh, hnodup⟩ := List.nodup_cons.1 hnodup
    obtain ⟨hfirst, hnew⟩ := List.forall_mem_cons.1 hnew
    rw [insertAll, List.foldl_cons, ← insertAll, ih hnodup fun e he => ?_, find?_insert]
    · obtain ⟨a, v⟩ := entry
      by_cases h : address = a
      · subst h
        rw [if_pos rfl, hfirst, Option.some.injEq]
        simp [eq_comm, or_comm]
      · simp [h]
    · rw [find?_insert, if_neg, hnew e he]
      rintro heq
      exact hfresh (List.mem_map.2 ⟨e, he, heq⟩)

/-- **Of entries with the same address the last one remains**, and it replaces the one that there
is. -/
theorem find?_insertAll_last (entries : List (Address × α)) :
    (map.insertAll entries).find? address =
      (entries.reverse.lookup address).or (map.find? address) := by
  induction entries generalizing map with
  | nil => rfl
  | cons entry entries ih =>
    rw [insertAll, List.foldl_cons, ← insertAll, ih, find?_insert, List.reverse_cons,
      List.lookup_append, Option.or_assoc]
    congr 1
    rw [lookup_cons]
    split <;> rfl

/-- Entries of one value replace those that there are. -/
theorem find?_insertAll_const (addresses : List Address) :
    (map.insertAll (addresses.map (·, value))).find? address =
      if address ∈ addresses then some value else map.find? address := by
  induction addresses generalizing map with
  | nil => simp [insertAll]
  | cons first addresses ih =>
    rw [insertAll, List.map_cons, List.foldl_cons, ← insertAll, ih, find?_insert]
    by_cases hm : address ∈ addresses <;> simp [hm]

/-- Maps whose entries correspond hold corresponding values. -/
theorem find?_of_forall₂ {map' : AddressMap β} {related : α → β → Prop}
    (h : List.Forall₂ (fun entry entry' => entry'.1 = entry.1 ∧ related entry.2 entry'.2)
      map.entries map'.entries) (address : Address) :
    Option.Rel related (map.find? address) (map'.find? address) := by
  unfold find?
  generalize map.entries = entries at h ⊢
  generalize map'.entries = entries' at h ⊢
  induction h with
  | nil => exact .none
  | cons hentry _ ih =>
    rw [lookup_cons, lookup_cons, hentry.1]
    split
    · exact .some hentry.2
    · exact ih

/-! ## Entries -/

/-- An insertion adds one entry and none else. -/
theorem mem_entries_insert {entry : Address × α} (h : entry ∈ (map.insert address value).entries) :
    entry = (address, value) ∨ entry ∈ map.entries := by
  obtain ⟨entries⟩ := map
  change entry ∈ place address value entries at h
  induction entries with
  | nil => exact Or.inl (List.mem_singleton.1 h)
  | cons first entries ih =>
    obtain ⟨a, v⟩ := first
    rw [place] at h
    split at h
    · exact List.mem_cons.1 h
    · split at h
      · exact (List.mem_cons.1 h).imp_right (List.mem_cons_of_mem _)
      · rcases List.mem_cons.1 h with rfl | h
        · exact Or.inr List.mem_cons_self
        · exact (ih h).imp_right (List.mem_cons_of_mem _)

theorem mem_entries_insertAll {entry : Address × α} {entries : List (Address × α)}
    (h : entry ∈ (map.insertAll entries).entries) : entry ∈ entries ∨ entry ∈ map.entries := by
  induction entries generalizing map with
  | nil => exact Or.inr h
  | cons first entries ih =>
    rcases ih h with hm | hm
    · exact Or.inl (List.mem_cons_of_mem _ hm)
    · rcases mem_entries_insert hm with rfl | hm
      · exact Or.inl List.mem_cons_self
      · exact Or.inr hm

/-! ## Order -/

/-- The entries of a map are sorted by address. -/
def Sorted (map : AddressMap α) : Prop := map.entries.Pairwise fun a b => a.1 < b.1

theorem sorted_empty : (empty : AddressMap α).Sorted := List.Pairwise.nil

/-- What is less than all entries and the new one is less than what there is after it was put in
its place. -/
theorem lt_of_mem_place {low : Address} {entries : List (Address × α)} (hlow : low < address)
    (h : ∀ entry ∈ entries, low < entry.1) : ∀ entry ∈ place address value entries,
      low < entry.1 := by
  induction entries with
  | nil => simpa [place] using hlow
  | cons entry entries ih =>
    obtain ⟨a, v⟩ := entry
    obtain ⟨ha, hrest⟩ := List.forall_mem_cons.1 h
    rw [place]
    split
    · exact List.forall_mem_cons.2 ⟨hlow, h⟩
    · split
      · exact List.forall_mem_cons.2 ⟨hlow, hrest⟩
      · exact List.forall_mem_cons.2 ⟨ha, ih hrest⟩

theorem Sorted.insert (h : map.Sorted) : (map.insert address value).Sorted := by
  obtain ⟨entries⟩ := map
  change (place address value entries).Pairwise _
  induction entries with
  | nil => exact List.pairwise_singleton _ _
  | cons entry entries ih =>
    obtain ⟨a, v⟩ := entry
    obtain ⟨ha, hrest⟩ := List.pairwise_cons.1 h
    rw [place]
    split
    · next hlt =>
      refine List.pairwise_cons.2 ⟨List.forall_mem_cons.2 ⟨hlt, fun entry hm => ?_⟩, h⟩
      exact BitVec.lt_trans hlt (ha entry hm)
    · split
      · next heq =>
        subst heq
        exact List.pairwise_cons.2 ⟨ha, hrest⟩
      · next hle hne =>
        have hlt : a < address := by bv_omega
        exact List.pairwise_cons.2 ⟨lt_of_mem_place hlt ha, ih hrest⟩

theorem Sorted.insertAll (h : map.Sorted) (entries : List (Address × α)) :
    (map.insertAll entries).Sorted := by
  induction entries generalizing map with
  | nil => exact h
  | cons entry entries ih => exact ih h.insert

/-- Order is a matter of the addresses alone. -/
theorem sorted_iff_keys : map.Sorted ↔ map.keys.Pairwise (· < ·) := List.pairwise_map.symm

theorem Sorted.map_values (h : map.Sorted) (f : α → β) : (map.map f).Sorted := by
  rw [sorted_iff_keys] at h ⊢
  simpa [keys, AddressMap.map, Function.comp_def] using h

/-- No address has two entries in a sorted map. -/
theorem Sorted.nodup_keys (h : map.Sorted) : map.keys.Nodup :=
  List.pairwise_map.2 (h.imp BitVec.ne_of_lt)

theorem Sorted.nodup_entries (h : map.Sorted) : map.entries.Nodup :=
  h.imp fun hlt heq => BitVec.ne_of_lt hlt (congrArg Prod.fst heq)

/-- The entries of a sorted map are the values of its addresses. -/
theorem Sorted.mem_entries_iff (h : map.Sorted) :
    (address, value) ∈ map.entries ↔ map.find? address = some value := by
  constructor
  · intro hm
    obtain ⟨before, after, heq⟩ := List.append_of_mem hm
    refine List.lookup_eq_some_iff.2 ⟨before, after, heq, fun entry he => ?_⟩
    rw [Sorted, heq, List.pairwise_append] at h
    have hlt := h.2.2 entry he _ List.mem_cons_self
    simpa using (BitVec.ne_of_lt hlt).symm
  · intro hf
    obtain ⟨before, after, heq, -⟩ := List.lookup_eq_some_iff.1 hf
    simp [heq]

/-- **Sorted maps with the same values are the same.** -/
theorem Sorted.ext {map' : AddressMap α} (h : map.Sorted) (h' : map'.Sorted)
    (hfind : ∀ address, map.find? address = map'.find? address) : map = map' := by
  obtain ⟨entries⟩ := map
  obtain ⟨entries'⟩ := map'
  have hperm : entries.Perm entries' := by
    refine (List.perm_ext_iff_of_nodup h.nodup_entries h'.nodup_entries).2
      fun entry => ?_
    exact h.mem_entries_iff.trans (by rw [hfind]; exact h'.mem_entries_iff.symm)
  have heq : entries = entries' := hperm.eq_of_pairwise (fun a b _ _ hab hba =>
    absurd (BitVec.lt_trans hab hba) (BitVec.lt_irrefl _)) h h'
  rw [heq]

end AddressMap

/-! ## Sorted addresses -/

@[simp] theorem mem_sortedAddresses {address : Address} {addresses : List Address} :
    address ∈ sortedAddresses addresses ↔ address ∈ addresses := by
  rw [sortedAddresses, ← AddressMap.contains_iff_mem_keys, AddressMap.contains_insertAll]
  simp

theorem nodup_sortedAddresses (addresses : List Address) : (sortedAddresses addresses).Nodup :=
  (AddressMap.sorted_empty.insertAll _).nodup_keys

end EvmProbe
