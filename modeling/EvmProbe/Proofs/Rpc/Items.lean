import EvmProbe.Proofs.Cache.Names
import EvmProbe.Rpc.Provider

/-!
What providers look up through a cache.

Code, transactions and receipts are looked up in one way (`Item.lookUp_eq`).  What is kept of them
stands in files below the root of the cache, each in a place of its own (`Item.path_inj`); code that
is not asked for at a numbered block has none.
-/

namespace EvmProbe

open EvmProbe.Path

namespace Provider

/-- Something that a provider looks up. -/
inductive Item where
  | code (address : Address) (block : BlockId)
  | transaction (hash : Word)
  | receipt (hash : Word)
  deriving DecidableEq, Repr

/-- A place in a cache: the directories below its root, and the label of the file. -/
structure Slot where
  directories : List String
  label : String

/-- The names that lead to a place in a cache. -/
def Slot.path (slot : Slot) : List String := slot.directories ++ [slot.label ++ ".json"]

namespace Item

/-- What there is to know of an item. -/
@[reducible] def Value : Item → Type
  | .code .. => Bytes
  | .transaction _ => Option MinedTransaction
  | .receipt _ => Option Receipt

/-- How the values of an item are kept. -/
def form : (item : Item) → JsonForm item.Value
  | .code .. => .bytes
  | .transaction _ => MinedTransaction.form.optional
  | .receipt _ => Receipt.form.optional

/-- How the answer of a node is read. -/
def answer : (item : Item) → Answer item.Value
  | .code .. => bytesAnswer
  | .transaction _ => MinedTransaction.answer
  | .receipt _ => Receipt.answer

/-- Whether an answer is kept, if the item has a place in the cache. -/
def isFinal : (item : Item) → item.Value → Bool
  | .code .., _ => true
  | .transaction _, tx => tx.any (·.blockNumber.isSome)
  | .receipt _, answer => answer.isSome

/-- The method by which a node is asked. -/
def method : Item → String
  | .code .. => "eth_getCode"
  | .transaction _ => "eth_getTransactionByHash"
  | .receipt _ => "eth_getTransactionReceipt"

/-- The parameters with which a node is asked. -/
def params : Item → Json
  | .code address block => .array [.ofBits address, block.toJson]
  | .transaction hash | .receipt hash => .array [.ofBits hash]

/-- The label of an item. -/
def label : Item → String
  | .code address _ => checksummed address
  | .transaction hash | .receipt hash => hashLabel hash

/-- Where an item of a chain has its place in a cache. -/
def slot? (chains : Chains) (chain : Nat) : Item → Option Slot
  | .code address (.number (.number n)) =>
    some ⟨["rpc", chains.text chain, toString n, "code"], checksummed address⟩
  | .code _ _ => none
  | .transaction hash => some ⟨["rpc", chains.text chain, "tx"], hashLabel hash⟩
  | .receipt hash => some ⟨["rpc", chains.text chain, "receipt"], hashLabel hash⟩

section
variable {m : Type → Type} [Monad m] (host : Host m) (provider : Provider)

/-- Looks an item up. -/
def lookUp : (item : Item) → m (Except Failure item.Value)
  | .code address block => provider.codeAt host address block
  | .transaction hash => provider.transaction host hash
  | .receipt hash => provider.receipt host hash

/-- The cache in which an item is looked up. -/
def cache : Item → m (Except FileError Cache)
  | .code _ block => provider.codeCache host block
  | .transaction _ => return .ok (provider.transactionCache host.chains)
  | .receipt _ => return .ok (provider.receiptCache host.chains)

/-- **Items are looked up in one way.** -/
theorem lookUp_eq [LawfulMonad m] (item : Item) :
    item.lookUp host provider = (do
      match ← item.cache host provider with
      | .error cause => return .error (ofFileError cause)
      | .ok cache =>
        throughCache host cache item.form item.label
          (host.ask provider.url item.method item.params item.answer) item.isFinal) := by
  cases item with
  | code address block => rfl
  | transaction hash =>
    simp only [cache, pure_bind]
    rfl
  | receipt hash =>
    simp only [cache, pure_bind]
    rfl

end

/-! ## Places -/

section
variable {item other : Item} {chains : Chains} {chain chain' : Nat} {slot slot' : Slot}

/-- The items that have a place. -/
theorem slot?_cases (h : item.slot? chains chain = some slot) :
    (∃ address n, item = .code address (.number (.number n)) ∧
      slot = ⟨["rpc", chains.text chain, toString n, "code"], checksummed address⟩) ∨
    (∃ hash, item = .transaction hash ∧ slot = ⟨["rpc", chains.text chain, "tx"], hashLabel hash⟩) ∨
    ∃ hash, item = .receipt hash ∧
      slot = ⟨["rpc", chains.text chain, "receipt"], hashLabel hash⟩ := by
  unfold slot? at h
  split at h <;> cases h
  · exact .inl ⟨_, _, rfl, rfl⟩
  · exact .inr (.inl ⟨_, rfl, rfl⟩)
  · exact .inr (.inr ⟨_, rfl, rfl⟩)

theorem label_of_slot? (h : item.slot? chains chain = some slot) : slot.label = item.label := by
  rcases slot?_cases h with ⟨_, _, rfl, rfl⟩ | ⟨_, rfl, rfl⟩ | ⟨_, rfl, rfl⟩ <;> rfl

/-- The names of directories and labels are plain. -/
theorem plain_of_slot? (hnames : chains.Lawful) (hc : (chains.name? chain).isSome)
    (h : item.slot? chains chain = some slot) :
    (∀ name ∈ slot.directories, IsPlain name) ∧ IsPlain slot.label := by
  have hword (word : String) (hw : word ∈ ["rpc", "code", "tx", "receipt"]) : IsPlain word := by
    simp only [List.mem_cons, List.not_mem_nil, or_false] at hw
    rcases hw with rfl | rfl | rfl | rfl <;>
      exact .of_forall (by simp) (List.all_eq_true.1 (by decide))
  have hchain := hnames.isPlain_text hc
  rcases slot?_cases h with ⟨address, n, rfl, rfl⟩ | ⟨hash, rfl, rfl⟩ | ⟨hash, rfl, rfl⟩ <;>
    simp only [List.forall_mem_cons]
  · exact ⟨⟨hword _ (by simp), hchain, isPlain_toString n, hword _ (by simp),
      List.forall_mem_nil _⟩, isPlain_checksummed address⟩
  · exact ⟨⟨hword _ (by simp), hchain, hword _ (by simp), List.forall_mem_nil _⟩, isPlain_literal _⟩
  · exact ⟨⟨hword _ (by simp), hchain, hword _ (by simp), List.forall_mem_nil _⟩, isPlain_literal _⟩

theorem hashLabel_inj {hash hash' : Word} : hashLabel hash = hashLabel hash' ↔ hash = hash' := by
  rw [hashLabel, hashLabel, Hex.literal_inj, wordBytes_inj (by decide)]

/-- **No two items have the same place.** -/
theorem path_inj (hnames : chains.Lawful) (hc : (chains.name? chain).isSome)
    (hc' : (chains.name? chain').isSome) (h : item.slot? chains chain = some slot)
    (h' : other.slot? chains chain' = some slot') (he : slot.path = slot'.path) :
    chain = chain' ∧ item = other := by
  obtain ⟨hdirectories, hfile⟩ := List.append_inj' he rfl
  have hlabel : slot.label = slot'.label := by simpa using hfile
  rcases slot?_cases h with ⟨address, n, rfl, rfl⟩ | ⟨hash, rfl, rfl⟩ | ⟨hash, rfl, rfl⟩ <;>
    rcases slot?_cases h' with ⟨address', n', rfl, rfl⟩ | ⟨hash', rfl, rfl⟩ | ⟨hash', rfl, rfl⟩ <;>
    simp only [List.cons.injEq, hnames.text_inj hc hc', Nat.toString_eq_repr, Nat.repr_inj,
      checksummed_inj, hashLabel_inj, reduceCtorEq, String.reduceEq, and_false,
      and_true, true_and] at hdirectories hlabel
  · exact ⟨hdirectories.1, by rw [hlabel, hdirectories.2]⟩
  · exact ⟨hdirectories, by rw [hlabel]⟩
  · exact ⟨hdirectories, by rw [hlabel]⟩

end

end Item

end Provider

end EvmProbe
