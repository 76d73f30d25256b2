import EvmProbe.Abi.Decoding
import EvmProbe.Abi.Encoding

/-!
Reading what was written in the contract ABI.

`Body.Holds` says where bytes stand in a body, and `Laid` where the parts of a tuple do: their heads
from one position on, and their tails from another.  Each kind of part is read where it stands, and
what is left of the tuple stands behind it.

* `Laid.word`, `Laid.paddedBytes`, `Laid.follow`: reading one part.
* `array_of_laid`: reading an array, if each of its elements can be read.
-/

namespace EvmProbe.Abi

/-- What was read is used. -/
@[simp] theorem ok_bind {α β : Type} (a : α) (f : α → Except Error β) :
    (Except.ok a >>= f) = f a := rfl

/-- What is read by steps is read by each of them. -/
theorem exists_of_bind_ok {α β : Type} {a : Except Error α} {f : α → Except Error β} {b : β}
    (h : a >>= f = .ok b) : ∃ value, a = .ok value ∧ f value = .ok b := by
  cases a with
  | error cause => cases h
  | ok value => exact ⟨value, rfl, h⟩

namespace Body

/-- Some bytes stand in a body. -/
def Holds (body : Body) (position : Nat) (content : Bytes) : Prop :=
  ∃ before after, body.data.toList = before ++ content ++ after ∧
    before.length = body.base + position

/-- The body that starts at a position. -/
def startAt (body : Body) (position : Nat) : Body := ⟨body.data, body.base + position⟩

namespace Holds

variable {body : Body} {position n : Nat} {content a b : Bytes}

theorem left (h : body.Holds position (a ++ b)) : body.Holds position a := by
  obtain ⟨before, after, hd, hl⟩ := h
  exact ⟨before, b ++ after, by simp [hd], hl⟩

theorem right (h : body.Holds position (a ++ b)) : body.Holds (position + a.length) b := by
  obtain ⟨before, after, hd, hl⟩ := h
  exact ⟨before ++ a, after, by simp [hd], by simp [hl, Nat.add_assoc]⟩

theorem add_length_le (h : body.Holds position content) :
    body.base + position + content.length ≤ body.data.size := by
  obtain ⟨before, after, hd, hl⟩ := h
  rw [← Array.length_toList, hd, ← hl]
  simp

/-- What stands in a body stands in the body that starts there. -/
theorem first (h : body.Holds position content) : (body.startAt position).Holds 0 content := h

theorem slice (h : body.Holds position content) :
    body.slice position content.length = .ok content := by
  have hle := h.add_length_le
  obtain ⟨before, after, hd, hl⟩ := h
  rw [Body.slice, if_pos hle, Array.toList_extract, hd, ← hl, List.extract_eq_take_drop]
  simp

theorem nat (h : body.Holds position (natWord n)) (hn : n < capacity 32) :
    body.nat position = .ok n := by
  have hs := h.slice
  rw [natWord, length_bigEndian] at hs
  rw [Body.nat, hs]
  exact congrArg Except.ok (ofBigEndian_bigEndian hn)

theorem offset (h : body.Holds position (natWord n)) (hn : n < capacity 8) :
    body.offset position = .ok n := by
  rw [Body.offset, h.nat (Nat.lt_trans hn (by decide))]
  exact congrArg Except.ok (Nat.mod_eq_of_lt hn)

theorem uint {bits : Nat} {value : BitVec bits} (h : body.Holds position (natWord value.toNat))
    (hb : bits ≤ 256) : body.uint bits position = .ok value := by
  have hlt : value.toNat < capacity 32 :=
    Nat.lt_of_lt_of_le value.isLt (Nat.pow_le_pow_right (by decide) hb)
  rw [Body.uint, h.nat hlt]
  exact congrArg Except.ok ((BitVec.ofNat_toNat bits value).trans (BitVec.setWidth_eq value))

theorem bool {value : Bool} (h : body.Holds position (natWord (if value then 1 else 0))) :
    body.bool position = .ok value := by
  rw [Body.bool, h.nat (by cases value <;> decide)]
  cases value <;> rfl

/-- An offset leads to what stands there. -/
theorem follow (h : body.Holds position (natWord n)) (hc : body.Holds n content)
    (hs : body.data.size < capacity 8) : body.follow position = .ok (body.startAt n) := by
  have := hc.add_length_le
  rw [Body.follow, h.offset (by omega)]
  exact if_pos (by omega)

end Holds

end Body

/-! ## Tuples -/

/-- The parts of a tuple stand in a body: the heads from `head` on, the tails from `tail` on. -/
structure Laid (body : Body) (head tail : Nat) (parts : List Part) : Prop where
  heads : body.Holds head (heads tail parts)
  tails : body.Holds tail (parts.flatMap Part.tail)

@[simp] theorem length_natWord (n : Nat) : (natWord n).length = 32 := length_bigEndian 32 n

theorem length_heads (offset : Nat) (parts : List Part) :
    (heads offset parts).length = headSize parts := by
  induction parts generalizing offset with
  | nil => rfl
  | cons part parts ih => cases part <;> simp [heads, headSize, Part.headSize, ih]

/-- Words stand in the head as they are. -/
theorem heads_words (offset : Nat) (words : List Word) (rest : List Part) :
    heads offset (words.map word ++ rest) = words.flatMap wordBytes ++ heads offset rest := by
  induction words with
  | nil => rfl
  | cons word words ih =>
    rw [List.map_cons, List.cons_append, Abi.word, heads, ih, List.flatMap_cons, List.append_assoc]

theorem tails_words (words : List Word) : (words.map word).flatMap Part.tail = [] := by
  simp [List.flatMap_map, word, Part.tail]

theorem laid_tuple {body : Body} {parts : List Part} (h : body.Holds 0 (tuple parts)) :
    Laid body 0 (headSize parts) parts where
  heads := h.left
  tails := by
    have := h.right
    rwa [length_heads, Nat.zero_add] at this

/-- The parts of a tuple that is all there is. -/
theorem laid_ofBytes (parts : List Part) :
    Laid (.ofBytes (tuple parts)) 0 (headSize parts) parts :=
  laid_tuple ⟨[], [], by simp [Body.ofBytes], rfl⟩

namespace Laid

variable {body : Body} {head tail : Nat} {content : Bytes} {rest : List Part}

/-- A static part stands in the head. -/
theorem static (h : Laid body head tail (.static content :: rest)) :
    body.Holds head content ∧ Laid body (head + content.length) tail rest :=
  ⟨h.heads.left, h.heads.right, h.tails⟩

/-- The offset of a dynamic part stands in the head, and its content in the tail. -/
theorem dynamic (h : Laid body head tail (.dynamic content :: rest)) :
    body.Holds head (natWord tail) ∧ body.Holds tail content ∧
      Laid body (head + 32) (tail + content.length) rest :=
  ⟨h.heads.left, h.tails.left, by simpa using h.heads.right, h.tails.right⟩

theorem uint {bits : Nat} {value : BitVec bits} (h : Laid body head tail (Abi.uint value :: rest))
    (hb : bits ≤ 256) : body.uint bits head = .ok value ∧ Laid body (head + 32) tail rest :=
  ⟨h.static.1.uint hb, by simpa using h.static.2⟩

theorem word {value : Word} (h : Laid body head tail (Abi.word value :: rest)) :
    body.uint 256 head = .ok value ∧ Laid body (head + 32) tail rest := by
  have h : Laid body head tail (Abi.uint value :: rest) := h
  exact h.uint (Nat.le_refl _)

/-- Words that stand one behind the other are parts of their own. -/
theorem words {words : List Word}
    (h : Laid body head tail (.static (words.flatMap wordBytes) :: rest)) :
    Laid body head tail (words.map Abi.word ++ rest) where
  heads := by
    rw [heads_words]
    exact h.heads
  tails := by
    rw [List.flatMap_append, tails_words]
    exact h.tails

theorem bool {value : Bool} (h : Laid body head tail (Abi.bool value :: rest)) :
    body.bool head = .ok value ∧ Laid body (head + 32) tail rest :=
  ⟨h.static.1.bool, by simpa using h.static.2⟩

/-- The offset of a dynamic part leads to its content. -/
theorem follow (h : Laid body head tail (.dynamic content :: rest))
    (hs : body.data.size < capacity 8) : body.follow head = .ok (body.startAt tail) ∧
      (body.startAt tail).Holds 0 content ∧
      Laid body (head + 32) (tail + content.length) rest :=
  ⟨h.dynamic.1.follow h.dynamic.2.1 hs, h.dynamic.2.1.first, h.dynamic.2.2⟩

/-- A byte string is read whatever it is padded with. -/
theorem paddedBytes {padding : Bytes}
    (h : Laid body head tail (.dynamic (natWord content.length ++ (content ++ padding)) :: rest))
    (hs : body.data.size < capacity 8) :
    body.bytes head = .ok content ∧ ∃ tail', Laid body (head + 32) tail' rest := by
  obtain ⟨hf, hc, hrest⟩ := h.follow hs
  refine ⟨?_, _, hrest⟩
  have hcontent : (body.startAt tail).Holds 32 content := by
    have := hc.right
    rw [length_natWord, Nat.zero_add] at this
    exact this.left
  have hle := hcontent.add_length_le
  have hlength : content.length < capacity 8 := by
    have : (body.startAt tail).data.size = body.data.size := rfl
    omega
  rw [Body.bytes, hf, ok_bind, hc.left.offset hlength, ok_bind, hcontent.slice]

theorem bytes (h : Laid body head tail (Abi.bytes content :: rest))
    (hs : body.data.size < capacity 8) : body.bytes head = .ok content ∧
      ∃ tail', Laid body (head + 32) tail' rest :=
  h.paddedBytes hs

end Laid

/-! ## Arrays -/

section
variable {α : Type} {body : Body} {head tail stride footprint : Nat} {encode : α → Part}
  {read : Body → Nat → Except Error α} {elements : List α} {rest : List Part}

/-- The elements of an array are read one by one, if a first one is read wherever it stands. -/
theorem elements_of_laid (h : Laid body head tail (elements.map encode))
    (hread : ∀ element ∈ elements, ∀ head tail rest, Laid body head tail (encode element :: rest) →
      read body head = .ok element ∧ ∃ tail', Laid body (head + stride) tail' rest) :
    body.elements read stride head elements.length = .ok elements := by
  induction elements generalizing head tail with
  | nil => rfl
  | cons element elements ih =>
    obtain ⟨hfirst, hall⟩ := List.forall_mem_cons.1 hread
    obtain ⟨hr, tail', hrest⟩ := hfirst head tail _ h
    rw [List.length_cons, Body.elements, hr, ok_bind, ih hrest hall, ok_bind]
    rfl

/-- There are no more parts than there are words in the body. -/
theorem Laid.length_le {parts : List Part} (h : Laid body head tail parts)
    (hp : ∀ part ∈ parts, 32 ≤ part.headSize) : 32 * parts.length ≤ body.data.size := by
  have hsize : 32 * parts.length ≤ headSize parts := by
    clear h
    induction parts with
    | nil => exact Nat.le_refl _
    | cons part parts ih =>
      obtain ⟨hfirst, hrest⟩ := List.forall_mem_cons.1 hp
      have := ih hrest
      simp only [List.length_cons, headSize, List.foldr_cons] at this ⊢
      omega
  have := h.heads.add_length_le
  rw [length_heads] at this
  omega

/-- **An array is read if each of its elements is**, and there is memory for them. -/
theorem array_of_laid (h : Laid body head tail (Abi.array (elements.map encode) :: rest))
    (hs : 7 * body.data.size ≤ available) (hfootprint : footprint ≤ 224)
    (hsize : ∀ element, 32 ≤ (encode element).headSize)
    (hread : ∀ body : Body, 7 * body.data.size ≤ available → ∀ element ∈ elements,
      ∀ head tail rest, Laid body head tail (encode element :: rest) →
        read body head = .ok element ∧ ∃ tail', Laid body (head + stride) tail' rest) :
    body.array read stride footprint head = .ok elements ∧
      ∃ tail', Laid body (head + 32) tail' rest := by
  have hcapacity : available < 7 * capacity 8 := by decide
  obtain ⟨hf, hc, hrest⟩ := h.follow (by omega)
  refine ⟨?_, _, hrest⟩
  have htuple : ((body.startAt tail).startAt 32).Holds 0 (tuple (elements.map encode)) := by
    have := hc.right
    rw [length_natWord, Nat.zero_add] at this
    exact this.first
  have hlaid := laid_tuple htuple
  have hcount : 32 * elements.length ≤ body.data.size := by
    have := hlaid.length_le (by
      intro part hm
      obtain ⟨element, -, rfl⟩ := List.mem_map.1 hm
      exact hsize element)
    rwa [List.length_map] at this
  have hinner : (body.startAt tail).inner 32 = .ok ((body.startAt tail).startAt 32) := by
    have := htuple.add_length_le
    exact if_pos (Nat.le_trans (Nat.le_add_right _ _) this)
  have hreserve : reserve elements.length footprint = .ok () := by
    have hfoot : elements.length * footprint ≤ elements.length * 224 :=
      Nat.mul_le_mul_left _ hfootprint
    have haddressable : available < addressable := by decide
    rw [reserve, if_neg (by omega), if_neg (by omega)]
  have hoffset : (body.startAt tail).offset 0 = .ok elements.length := by
    have := hc.left
    rw [List.length_map] at this
    exact this.offset (by omega)
  rw [Body.array, hf, ok_bind, hoffset, ok_bind, hinner, ok_bind, hreserve, ok_bind]
  exact elements_of_laid hlaid (hread _ hs)

end

end EvmProbe.Abi
