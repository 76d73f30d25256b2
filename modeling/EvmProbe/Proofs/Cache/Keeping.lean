import EvmProbe.Cache.Store
import EvmProbe.Proofs.Json.Numerals
import EvmProbe.Proofs.Text.Digits

/-!
Values with an expiry, as texts.

* `Expiring.Holds`: which texts hold a value with an expiry (`ofText?_eq_some_iff`).
* `JsonForm.RoundTrips`: what is kept of a value is read again, whenever it expires.  So it is for a
  value that fits into a text and is read as it was written (`JsonForm.Keeps.roundTrips`), such as
  byte strings and numbers of 64 bits.
-/

namespace EvmProbe

/-! ## What a text holds -/

namespace Json
variable {names : List String} {fields : List (String × Json)} {name : String} {value : Json}

/-- A field that is not repeated is found under its name. -/
theorem lookup_eq_some_iff (h : unrepeated names fields) (hn : name ∈ names) :
    fields.lookup name = some value ↔ (name, value) ∈ fields := by
  have hmem {value : Json} (hl : fields.lookup name = some value) : (name, value) ∈ fields := by
    obtain ⟨before, after, rfl, -⟩ := List.lookup_eq_some_iff.1 hl
    exact List.mem_append_right _ List.mem_cons_self
  refine ⟨hmem, fun hv => ?_⟩
  have hone := of_decide_eq_true (List.all_eq_true.1 h name hn)
  have hfilter {value : Json} (hv : (name, value) ∈ fields) :
      (name, value) ∈ fields.filter (·.1 == name) := List.mem_filter.2 ⟨hv, beq_self_eq_true _⟩
  cases hl : fields.lookup name with
  | none => simpa using List.lookup_eq_none_iff.1 hl _ hv
  | some other =>
    obtain ⟨field, hfield⟩ := List.length_eq_one_iff.1
      (Nat.le_antisymm hone (List.length_pos_of_mem (hfilter hv)))
    have hother := hfilter (hmem hl)
    have hvalue := hfilter hv
    rw [hfield, List.mem_singleton] at hother hvalue
    cases hother.trans hvalue.symm
    rfl

end Json

namespace Expiring
variable {α : Type} {form : JsonForm α} {value : α} {expiry : Nat}

/-- What stands for a value with an expiry: an object with a field for each of them, which are not
repeated and stand among any others, or an array of the two.  The value may be missing if its
absence has a meaning. -/
inductive Wraps (form : JsonForm α) (value : α) (expiry : Nat) : Json → Prop where
  | pair {data last : Json} (hv : form.read data = some value)
      (he : last.natural? Text.limit64 = some expiry) :
      Wraps form value expiry (.array [data, last])
  | record {fields : List (String × Json)} {data last : Json}
      (hu : Json.unrepeated fieldNames fields) (hd : ("data", data) ∈ fields)
      (hv : form.read data = some value) (hl : ("expires_at", last) ∈ fields)
      (he : last.natural? Text.limit64 = some expiry) : Wraps form value expiry (.object fields)
  | absent {fields : List (String × Json)} {last : Json}
      (hu : Json.unrepeated fieldNames fields) (hd : ∀ data, ("data", data) ∉ fields)
      (hv : form.absent = some value) (hl : ("expires_at", last) ∈ fields)
      (he : last.natural? Text.limit64 = some expiry) : Wraps form value expiry (.object fields)

/-- A value that is read from the fields of a record. -/
theorem ofJson?_of_record {j : Json} {fields : List (String × Json)}
    (h : j.record? fieldNames = some fields) : ofJson? form j = some ⟨value, expiry⟩ ↔
      (fields.lookup "data").elim form.absent form.read = some value ∧
        (fields.lookup "expires_at").bind (Json.natural? Text.limit64) = some expiry := by
  simp [ofJson?, h, Json.required?, Option.bind_eq_some_iff]

/-- What an array stands for. -/
theorem ofJson?_array_iff {items : List Json} :
    ofJson? form (.array items) = some ⟨value, expiry⟩ ↔
      Wraps form value expiry (.array items) := by
  have hrecord (hl : items.length ≤ 2) :
      (Json.array items).record? fieldNames = some (fieldNames.zip items) := if_pos hl
  constructor
  · intro h
    match items with
    | [] =>
      obtain ⟨-, he⟩ := (ofJson?_of_record (hrecord (by decide))).1 h
      cases he
    | [_] =>
      obtain ⟨-, he⟩ := (ofJson?_of_record (hrecord (by simp))).1 h
      cases he
    | [_, _] =>
      obtain ⟨hv, he⟩ := (ofJson?_of_record (hrecord (by simp))).1 h
      exact .pair hv he
    | _ :: _ :: _ :: _ => cases h
  · rintro ⟨hv, he⟩
    exact (ofJson?_of_record (hrecord (by simp))).2 ⟨hv, he⟩

/-- What an object stands for. -/
theorem ofJson?_object_iff {fields : List (String × Json)} :
    ofJson? form (.object fields) = some ⟨value, expiry⟩ ↔
      Wraps form value expiry (.object fields) := by
  have hrecord (hu : Json.unrepeated fieldNames fields) :
      (Json.object fields).record? fieldNames = some fields := if_pos hu
  have hdata {data : Json} (hu : Json.unrepeated fieldNames fields) :
      fields.lookup "data" = some data ↔ ("data", data) ∈ fields :=
    Json.lookup_eq_some_iff hu (by decide)
  have hlast {last : Json} (hu : Json.unrepeated fieldNames fields) :
      fields.lookup "expires_at" = some last ↔ ("expires_at", last) ∈ fields :=
    Json.lookup_eq_some_iff hu (by decide)
  constructor
  · intro h
    by_cases hu : Json.unrepeated fieldNames fields
    · obtain ⟨hv, he⟩ := (ofJson?_of_record (hrecord hu)).1 h
      obtain ⟨last, hl, he⟩ := Option.bind_eq_some_iff.1 he
      cases hd : fields.lookup "data" with
      | none =>
        rw [hd] at hv
        refine .absent hu (fun data hm => ?_) hv ((hlast hu).1 hl) he
        rw [(hdata hu).2 hm] at hd
        cases hd
      | some data =>
        rw [hd] at hv
        exact .record hu ((hdata hu).1 hd) hv ((hlast hu).1 hl) he
    · have hnone : (Json.object fields).record? fieldNames = none := if_neg hu
      rw [ofJson?, hnone] at h
      cases h
  · intro h
    cases h with
    | record hu hd hv hl he =>
      rw [ofJson?_of_record (hrecord hu), (hdata hu).2 hd, (hlast hu).2 hl]
      exact ⟨hv, he⟩
    | absent hu hd hv hl he =>
      have hnone : fields.lookup "data" = none :=
        Option.eq_none_iff_forall_ne_some.2 fun data hs => hd data ((hdata hu).1 hs)
      rw [ofJson?_of_record (hrecord hu), hnone, (hlast hu).2 hl]
      exact ⟨hv, he⟩

/-- **A value is read from what stands for it**, and from nothing else. -/
theorem ofJson?_eq_some_iff {j : Json} :
    ofJson? form j = some ⟨value, expiry⟩ ↔ Wraps form value expiry j := by
  cases j with
  | array items => exact ofJson?_array_iff
  | object fields => exact ofJson?_object_iff
  | _ => exact ⟨nofun, nofun⟩

/-- A text holds a value with an expiry: it is the text of what stands for them. -/
def Holds (form : JsonForm α) (content : String) (value : α) (expiry : Nat) : Prop :=
  ∃ j, Json.parse? content = some j ∧ Wraps form value expiry j

/-- Reads a text. -/
def ofText? (form : JsonForm α) (content : String) : Option (Expiring α) :=
  (Json.parse? content).bind (ofJson? form)

theorem ofText?_eq_some_iff {content : String} :
    ofText? form content = some ⟨value, expiry⟩ ↔ Holds form content value expiry := by
  rw [ofText?, Option.bind_eq_some_iff, Holds]
  simp only [ofJson?_eq_some_iff]

/-- What is kept of a value. -/
def text (form : JsonForm α) (entry : Expiring α) : String := (entry.toJson form).compact

theorem expiryOf_le (lifetime : Option Nat) (now : Nat) : expiryOf lifetime now ≤ never := by
  cases lifetime with
  | none => exact Nat.le_refl _
  | some seconds => exact Nat.min_le_right _ _

/-- A value is valid until its lifetime is over. -/
theorem le_expiryOf_iff {lifetime : Option Nat} {saved now : Nat} (h : now ≤ never) :
    now ≤ expiryOf lifetime saved ↔ ∀ seconds ∈ lifetime, now ≤ saved + seconds := by
  cases lifetime with
  | none => exact iff_of_true h nofun
  | some seconds =>
    simp only [expiryOf, Option.elim_some, Option.mem_some_iff, forall_eq', Nat.le_min, h, and_true,
      Nat.add_comm]

end Expiring

/-! ## Values that are read again -/

namespace JsonForm
variable {α : Type} {form : JsonForm α} {value : α} {depth : Nat}

/-- What is kept of a value is read again, whenever it expires. -/
def RoundTrips (form : JsonForm α) (value : α) : Prop :=
  ∀ expiry ≤ Expiring.never, Expiring.Holds form (Expiring.text form ⟨value, expiry⟩) value expiry

/-- A value fits into a text where `depth` arrays and objects are open, and is read as it was
written. -/
structure Keeps (form : JsonForm α) (depth : Nat) (value : α) : Prop where
  fits : Json.fits depth (form.write value)
  read : form.read (form.write value) = some value

/-- **A value that is read as it was written is kept.** -/
theorem Keeps.roundTrips (h : form.Keeps 1 value) : form.RoundTrips value := fun expiry he => by
  have hfits : Json.fits 0 (Expiring.toJson form ⟨value, expiry⟩) := by
    simp [Expiring.toJson, Expiring.fieldNames, Json.fits, Json.fieldsFit, Json.maxDepth, h.fits,
      Json.fits_ofNat]
  have hexpiry : Json.natural? Text.limit64 (.ofNat expiry) = some expiry :=
    Json.natural?_ofNat (Nat.lt_of_le_of_lt he (by decide))
  refine ⟨_, Json.parse?_compact hfits, .record ?_ List.mem_cons_self h.read
    (List.mem_cons_of_mem _ List.mem_cons_self) hexpiry⟩
  rfl

theorem keeps_bytes (content : Bytes) : bytes.Keeps depth content where
  fits := rfl
  read := by
    show (Hex.decode (Hex.literal content).toList).toOption = some content
    rw [Hex.decode_literal]
    rfl

theorem keeps_natural {n : Nat} (h : n < Text.limit64) : natural.Keeps depth n :=
  ⟨Json.fits_ofNat depth n, Json.natural?_ofNat h⟩

end JsonForm

end EvmProbe
