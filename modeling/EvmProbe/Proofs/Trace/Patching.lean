import EvmProbe.Proofs.Image.Existence
import EvmProbe.Proofs.Trace.Discovery
import Mathlib.Data.Finset.Card

/-!
When tracing can patch all code.

* `Stocked.exists_patch`: a patcher that knows accounts with code that is not too long has an image
  of such code.
* `exists_learn`: so there are images of all code that is fetched.
-/

namespace EvmProbe

namespace Tracer

/-- A patcher knows accounts of a set only, and no code that is longer than a limit. -/
structure Stocked (patcher : Patcher) (accounts : Finset Address) (limit : Nat) : Prop where
  assembled : patcher.Assembled ⟨0⟩
  sorted : patcher.options.accounts.Sorted
  among : ∀ entry ∈ patcher.options.accounts.entries, entry.1 ∈ accounts ∧ entry.2.size ≤ limit

/-- Images of such code and accounts do not take up more than three bytes can count. -/
def Fits (accounts : Finset Address) (limit : Nat) : Prop :=
  1800 + 94 * limit + 142 * accounts.card ≤ capacity 3

/-- The code of the contracts is not too long. -/
def Short (seen : Discovered) (limit : Nat) : Prop :=
  ∀ entry ∈ seen.contracts.entries, entry.2.code.length ≤ limit

section
variable {settings : Settings} {contracts : HookContracts} {tx : Transaction} {patcher : Patcher}
  {accounts : Finset Address} {limit : Nat} {seen : Discovered} {state : Patcher × Discovered}
  {fetched : List (Address × Bytes)}

/-- Tracing starts with a patcher that knows the synthetic accounts. -/
theorem stocked_of_new (h : ∀ address ∈ synthetic settings tx, address ∈ accounts)
    (hp : Patcher.new (patchOptions settings contracts tx) ⟨0⟩ = .ok patcher) :
    Stocked patcher accounts limit := by
  obtain ⟨ho, ha⟩ := Patcher.assembled_of_new hp
  refine ⟨ha, ho ▸ AddressMap.sorted_empty.insertAll _, fun entry hm => ?_⟩
  rw [ho] at hm
  rcases AddressMap.mem_entries_insertAll hm with hm | hm
  · obtain ⟨address, ha, rfl⟩ := List.mem_map.1 hm
    exact ⟨h address ha, Nat.zero_le _⟩
  · cases hm

/-- There are no more entries than accounts. -/
theorem Stocked.length_le (h : Stocked patcher accounts limit) :
    patcher.options.accounts.entries.length ≤ accounts.card := by
  have hsub : patcher.options.accounts.keys.toFinset ⊆ accounts := by
    intro address hm
    obtain ⟨entry, hentry, rfl⟩ := List.mem_map.1 (List.mem_toFinset.1 hm)
    exact (h.among entry hentry).1
  calc patcher.options.accounts.entries.length
      = patcher.options.accounts.keys.length := (List.length_map _).symm
    _ = patcher.options.accounts.keys.toFinset.card :=
      (List.toFinset_card_of_nodup h.sorted.nodup_keys).symm
    _ ≤ accounts.card := Finset.card_le_card hsub

/-- **There is an image of code that is not too long.** -/
theorem Stocked.exists_patch (h : Stocked patcher accounts limit) (hfits : Fits accounts limit)
    {code : Bytes} (hl : code.length ≤ limit) : ∃ image, patcher.patch code = .ok image := by
  have hlength := h.length_le
  rw [Fits] at hfits
  obtain ⟨image, himg, -⟩ := Patcher.exists_patchFrom_of_length Patcher.firstScope code
    h.assembled (Nat.le_of_eq (Nat.zero_add _)) (fun entry hm => by
      have := (h.among entry hm).2
      omega) (by omega)
  exact ⟨image, himg⟩

/-- Recording accounts of the set with short code keeps the patcher stocked and the code short. -/
theorem stocked_recorded (h : Stocked state.1 accounts limit) (hshort : Short state.2 limit)
    (hf : ∀ entry ∈ fetched, entry.1 ∈ accounts ∧ entry.2.length ≤ limit) :
    Stocked (fetched.foldl record state).1 accounts limit ∧
      Short (fetched.foldl record state).2 limit := by
  rw [patcher_recorded, Short, contracts_recorded]
  refine ⟨⟨fun fragment => h.assembled fragment, h.sorted.insertAll _, fun entry hm => ?_⟩,
    fun entry hm => ?_⟩
  · rcases AddressMap.mem_entries_insertAll hm with hm | hm
    · obtain ⟨e, he, rfl⟩ := List.mem_map.1 hm
      exact hf e (mem_withCode.1 he).1
    · exact h.among entry hm
  · rcases AddressMap.mem_entries_insertAll hm with hm | hm
    · obtain ⟨e, he, rfl⟩ := List.mem_map.1 hm
      exact (hf e (mem_withCode.1 he).1).2
    · exact hshort entry hm

/-- Patching succeeds and keeps the code of the contracts. -/
theorem exists_patchAll (h : Stocked patcher accounts limit) (hfits : Fits accounts limit)
    (hshort : Short seen limit) : ∃ seen', patchAll patcher seen = .ok seen' ∧
      Short seen' limit := by
  cases hp : patchAll patcher seen with
  | error e =>
    rw [patchAll] at hp
    cases hm : seen.contracts.entries.mapM (patchContract patcher) with
    | error e' =>
      obtain ⟨entry, hentry, he⟩ := exists_of_mapM_eq_error hm
      obtain ⟨image, himg⟩ := h.exists_patch hfits (hshort entry hentry)
      rw [patchContract, himg] at he
      cases he
    | ok entries =>
      rw [hm] at hp
      cases hp
  | ok seen' =>
    refine ⟨seen', rfl, fun entry hm => ?_⟩
    have hcodes : seen.contracts.entries.map (·.2.code) = seen'.contracts.entries.map (·.2.code) :=
      List.forall₂_eq_eq_eq ▸ List.forall₂_map_left_iff.2 (List.forall₂_map_right_iff.2
        ((patchAll_ok hp).2.imp fun _ _ he => he.2.1.symm))
    obtain ⟨old, hold, he⟩ := List.mem_map.1 (hcodes ▸ List.mem_map_of_mem hm)
    exact he ▸ hshort old hold

/-- **There are images of all code that is fetched**, if none of it is too long. -/
theorem exists_learn (h : Stocked state.1 accounts limit) (hshort : Short state.2 limit)
    (hfits : Fits accounts limit)
    (hf : ∀ entry ∈ fetched, entry.1 ∈ accounts ∧ entry.2.length ≤ limit) :
    ∃ state', learn state fetched = .ok state' ∧ Stocked state'.1 accounts limit ∧
      Short state'.2 limit := by
  obtain ⟨h', hshort'⟩ := stocked_recorded h hshort hf
  rw [learn_eq]
  split
  · exact ⟨_, rfl, h', hshort'⟩
  · obtain ⟨seen', hp, hshort'⟩ := exists_patchAll h' hfits hshort'
    rw [hp]
    exact ⟨_, rfl, h', hshort'⟩

end

end Tracer

end EvmProbe
