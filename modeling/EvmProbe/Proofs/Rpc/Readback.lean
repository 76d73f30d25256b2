import EvmProbe.Proofs.Cache.Keeping
import EvmProbe.Proofs.Rpc.Sessions

/-!
Kept values that are read again.

What is kept of an item is a JSON text around what its value is written as.  It is read again if
that fits into the text and is read as the value.

* `Network.roundTrips_code`: code always is.
* `Network.roundTrips_transaction`: transactions are, if the answers of the nodes fit.
* `Network.roundTrips_receipt`: so are receipts, if they have a status.
-/

namespace EvmProbe

open Provider

namespace Provider.Item
variable {item : Item} {value : item.Value}

/-- A value that is written and read as it was, with its expiry around it. -/
theorem roundTrips_of_read (hfits : Json.fits 1 (item.form.write value))
    (hread : item.form.read (item.form.write value) = some value) : item.RoundTrips value :=
  have hkeeps : item.form.Keeps 1 value := ⟨hfits, hread⟩
  Expiring.ofText?_eq_some_iff.2 (hkeeps.roundTrips Expiring.never (Nat.le_refl _))

end Provider.Item

/-- Answers are read like what is kept. -/
theorem Provider.Item.answer_read (item : Item) : item.answer.read = item.form.read := by
  cases item <;> rfl

/-- A value that may be null is read as one that is there if the value itself is. -/
theorem JsonForm.optional_read {α : Type} {form : JsonForm α} {j : Json} {value : α}
    (h : form.optional.read j = some (some value)) : form.read j = some value := by
  simp only [JsonForm.optional, Json.optional?] at h
  split at h
  · cases h
  · cases h
  · next hj =>
    cases hj
    simpa using h

theorem JsonForm.optional_read_of_ne {α : Type} {form : JsonForm α} {j : Json} {value : α}
    (hj : j ≠ .null) (h : form.read j = some value) : form.optional.read j = some (some value) := by
  simp only [JsonForm.optional, Json.optional?, h, Option.map_some]

/-- What holds of every result of a second step holds of every result. -/
theorem of_bind_eq_some {α β : Type} {x : Option α} {next : α → Option β} {P : β → Prop}
    (h : ∀ a b, next a = some b → P b) (b : β) (hb : (x >>= next) = some b) : P b := by
  obtain ⟨a, -, ha⟩ := Option.bind_eq_some_iff.1 hb
  exact h a b ha

/-- A transaction is kept as it was read. -/
theorem MinedTransaction.source_of_ofJson? (j : Json) :
    ∀ tx, ofJson? j = some tx → tx.source = j := by
  unfold ofJson?
  repeat refine of_bind_eq_some fun _ => ?_
  rintro tx ⟨⟩
  rfl

/-- A receipt knows what it was read from. -/
theorem Receipt.source_of_ofJson? (j : Json) :
    ∀ receipt, ofJson? j = some receipt → receipt.source = j := by
  unfold ofJson?
  repeat refine of_bind_eq_some fun _ => ?_
  rintro receipt ⟨⟩
  rfl

/-- A receipt with a status is kept as it was read. -/
theorem Receipt.toJson_of_status {receipt : Receipt} {success : Bool}
    (h : receipt.outcome = .status success) : receipt.toJson = receipt.source := by
  have hname : receipt.outcomeName = "status" := by rw [outcomeName, h]
  unfold toJson
  rw [hname]
  split
  · next fields hfields =>
    rw [hfields]
    refine congrArg Json.object ((List.map_congr_left fun field _ => ?_).trans (List.map_id fields))
    have hkeep : (if field.1 = "status" then "status" else field.1) = field.1 := by
      split
      · next hs => exact hs.symm
      · rfl
    exact congrArg (·, field.2) hkeep
  · rfl

namespace Network
variable {network : Network}

/-- An answer is read from a reply. -/
theorem exists_of_answer {moment : Nat} {url : String} {item : Item} {value : item.Value}
    (h : network.answer moment url item = .ok value) : ∃ j,
      network.reply moment url item.method item.params = .ok j ∧ item.form.read j = some value := by
  unfold answer answerTo at h
  split at h
  · cases h
  · next j hreply =>
    split at h
    · cases h
    · next hread =>
      cases h
      exact ⟨j, hreply, item.answer_read ▸ hread⟩

theorem answer_of_reply {moment : Nat} {url : String} {item : Item} {j : Json} {value : item.Value}
    (hreply : network.reply moment url item.method item.params = .ok j)
    (hread : item.form.read j = some value) : network.answer moment url item = .ok value := by
  rw [answer, answerTo, hreply]
  simp only [item.answer_read, hread]

/-- **Code is read again.** -/
theorem roundTrips_code (address : Address) (block : BlockId) :
    network.RoundTrips (.code address block) := fun moment url value _ => by
  have hkeeps : JsonForm.bytes.Keeps 1 value := JsonForm.keeps_bytes value
  exact Item.roundTrips_of_read hkeeps.fits hkeeps.read

/-- **Transactions are read again** if the replies of the nodes fit. -/
theorem roundTrips_transaction {hash : Word} (hfits : ∀ moment url j,
    network.reply moment url (Item.transaction hash).method (Item.transaction hash).params = .ok j →
      Json.fits 1 j) : network.RoundTrips (.transaction hash) := by
  intro moment url value hfinal
  obtain ⟨hanswer, hsome, -⟩ := network.answer_of_final? moment hfinal
  obtain ⟨j, hreply, hread⟩ := exists_of_answer hanswer
  cases value with
  | none => cases hsome
  | some tx =>
    have hsource := MinedTransaction.source_of_ofJson? j tx (JsonForm.optional_read hread)
    have hwrite : (Item.transaction hash).form.write (some tx) = j := hsource
    exact Item.roundTrips_of_read (hwrite ▸ hfits moment url j hreply) (hwrite ▸ hread)

/-- **Receipts are read again** if the replies of the nodes fit and have a status. -/
theorem roundTrips_receipt {hash : Word} (hfits : ∀ moment url j,
    network.reply moment url (Item.receipt hash).method (Item.receipt hash).params = .ok j →
      Json.fits 1 j ∧ ∀ receipt, Receipt.ofJson? j = some receipt →
        ∃ success, receipt.outcome = .status success) : network.RoundTrips (.receipt hash) := by
  intro moment url value hfinal
  obtain ⟨hanswer, hsome, -⟩ := network.answer_of_final? moment hfinal
  obtain ⟨j, hreply, hread⟩ := exists_of_answer hanswer
  cases value with
  | none => cases hsome
  | some receipt =>
    have hreceipt := JsonForm.optional_read hread
    obtain ⟨hj, hstatus⟩ := hfits moment url j hreply
    obtain ⟨success, hs⟩ := hstatus receipt hreceipt
    have hwrite : (Item.receipt hash).form.write (some receipt) = j :=
      (Receipt.toJson_of_status hs).trans (Receipt.source_of_ofJson? j receipt hreceipt)
    exact Item.roundTrips_of_read (hwrite ▸ hj) (hwrite ▸ hread)

end Network

end EvmProbe
