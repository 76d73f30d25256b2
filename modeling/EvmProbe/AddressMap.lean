import EvmProbe.Bytes

/-!
Maps and sets of addresses, sorted by address.

`find?_insert` says what an insertion changes: an entry of the same address is replaced, and every
other entry stays.
-/

namespace EvmProbe

/-- Values by address, in the order of the addresses. -/
structure AddressMap (α : Type) where
  entries : List (Address × α)
  deriving Repr

namespace AddressMap

variable {α β : Type}

/-- No entry. -/
def empty : AddressMap α := ⟨[]⟩

/-- Puts an entry in its place; an entry of the same address goes. -/
def place (address : Address) (value : α) : List (Address × α) → List (Address × α)
  | [] => [(address, value)]
  | (a, v) :: rest =>
    if address < a then (address, value) :: (a, v) :: rest
    else if address = a then (address, value) :: rest
    else (a, v) :: place address value rest

/-- Adds or replaces an entry. -/
def insert (map : AddressMap α) (address : Address) (value : α) : AddressMap α :=
  ⟨place address value map.entries⟩

/-- Adds or replaces entries in order. -/
def insertAll (map : AddressMap α) (entries : List (Address × α)) : AddressMap α :=
  entries.foldl (fun map (address, value) => map.insert address value) map

/-- The value of an address. -/
def find? (map : AddressMap α) (address : Address) : Option α := map.entries.lookup address

/-- Whether an address has a value. -/
def contains (map : AddressMap α) (address : Address) : Bool := (map.find? address).isSome

/-- Changes every value. -/
def map (f : α → β) (m : AddressMap α) : AddressMap β :=
  ⟨m.entries.map fun (address, value) => (address, f value)⟩

/-- The addresses, in order. -/
def keys (map : AddressMap α) : List Address := map.entries.map (·.1)

theorem lookup_cons (address : Address) (entry : Address × α) (entries : List (Address × α)) :
    (entry :: entries).lookup address =
      if address = entry.1 then some entry.2 else entries.lookup address := by
  rw [List.lookup_cons]
  by_cases h : address = entry.1
  · simp [h]
  · have hb : (address == entry.1) = false := by simp [h]
    simp [h, hb]

theorem lookup_place (address other : Address) (value : α) (entries : List (Address × α)) :
    (place address value entries).lookup other =
      if other = address then some value else entries.lookup other := by
  induction entries with
  | nil => simp [place, lookup_cons]
  | cons entry rest ih =>
    obtain ⟨a, v⟩ := entry
    rw [place]
    split
    · rw [lookup_cons]
    · split
      · next he => subst he; rw [lookup_cons, lookup_cons]; split <;> rfl
      · next he =>
        rw [lookup_cons, lookup_cons, ih]
        by_cases h : other = a
        · subst h; simp [Ne.symm he]
        · simp [h]

/-- An insertion replaces the value of its address and no other. -/
theorem find?_insert (map : AddressMap α) (address other : Address) (value : α) :
    (map.insert address value).find? other =
      if other = address then some value else map.find? other :=
  lookup_place address other value map.entries

@[simp] theorem find?_empty (address : Address) :
    (empty : AddressMap α).find? address = none := rfl

end AddressMap

/-- Addresses in order, each once. -/
def sortedAddresses (addresses : List Address) : List Address :=
  ((AddressMap.empty : AddressMap Unit).insertAll (addresses.map (·, ()))).keys

end EvmProbe
