import EvmProbe.Proofs.Abi.Reading
import EvmProbe.Proofs.Bytes
import EvmProbe.Proofs.Image.CallHook

/-!
The calldata of the reports of logs and storage writes.

A selector and the words behind it are stored one after the other, so that they are one write
(`withWords`).  What is passed on of the memory is then the selector and a tuple of the contract
ABI, which is decoded to what was reported.

* `withWrite_eq`, `withLogSize_eq`: reports as writes of a selector and words.
* `read_withWrite`, `read_withLog`: what is passed on of them.
* `decoded?_sstoreCalldata`, `decoded?_logCalldata`: what the hooks account is told.
-/

namespace EvmProbe

open Abi

/-! ## Words in memory -/

theorem wordBytes_ofNat {n : Nat} (h : n < 2 ^ 256) :
    wordBytes (BitVec.ofNat 256 n) = natWord n := by
  rw [wordBytes, BitVec.toNat_ofNat, Nat.mod_eq_of_lt h]
  rfl

theorem length_flatMap_wordBytes (words : List Word) :
    (words.flatMap wordBytes).length = 32 * words.length := by
  induction words with
  | nil => rfl
  | cons word words ih =>
    rw [List.flatMap_cons, List.length_append, Memory.length_wordBytes, ih, List.length_cons]
    omega

theorem take_flatMap_wordBytes (words : List Word) (count : Nat) :
    (words.flatMap wordBytes).take (32 * count) = (words.take count).flatMap wordBytes := by
  induction words generalizing count with
  | nil => simp
  | cons word words ih =>
    cases count with
    | zero => rfl
    | succ count =>
      rw [List.flatMap_cons, List.take_append, Memory.length_wordBytes,
        List.take_of_length_le (by rw [Memory.length_wordBytes]; omega),
        show 32 * (count + 1) - 32 = 32 * count by omega, ih]
      rfl

theorem drop_flatMap_wordBytes (words : List Word) (count : Nat) :
    (words.flatMap wordBytes).drop (32 * count) = (words.drop count).flatMap wordBytes := by
  induction words generalizing count with
  | nil => simp
  | cons word words ih =>
    cases count with
    | zero => rfl
    | succ count =>
      rw [List.flatMap_cons, List.drop_append, Memory.length_wordBytes,
        List.drop_of_length_le (by rw [Memory.length_wordBytes]; omega),
        show 32 * (count + 1) - 32 = 32 * count by omega, ih]
      rfl

namespace Memory
variable (memory : Memory) (selector : Selector)

/-- A selector and words behind it, from the start of scratch memory on. -/
def withWords (words : List Word) : Memory :=
  memory.write 0x8000 (wordBytes selector ++ words.flatMap wordBytes)

/-- A word that is loaded is read. -/
theorem read_of_load {source value : Word} (h : memory.load source = value) :
    memory.read source.toNat 32 = wordBytes value := by
  have hlt := ofBigEndian_lt (memory.read source.toNat 32)
  rw [length_read, show capacity 32 = 2 ^ 256 by decide] at hlt
  refine eq_of_ofBigEndian_eq (by rw [length_read, length_wordBytes]) ?_
  rw [ofBigEndian_word, ← h, load, BitVec.toNat_ofNat, Nat.mod_eq_of_lt hlt]

/-- A selector is stored as the front of a word, and what is left of that word is written over. -/
theorem store_selector (word : Word) :
    (memory.store 0x8000#256 (selector.setWidth 256 <<< 0xe0)).store 0x8004#256 word =
      memory.withWords selector [word] := by
  have hfront : wordBytes (selector.setWidth 256 <<< 0xe0) =
      wordBytes selector ++ bigEndian 28 (selector.toNat * 2 ^ 224) := by
    have hshift : (selector.setWidth 256 <<< 0xe0).toNat = selector.toNat * 2 ^ 224 := by
      have := selector.isLt
      rw [BitVec.toNat_shiftLeft, BitVec.toNat_setWidth_of_le (by decide), Nat.shiftLeft_eq]
      exact Nat.mod_eq_of_lt (by omega)
    have hcapacity : capacity 28 = 2 ^ 224 := by decide
    rw [wordBytes, hshift, show 256 / 8 = 4 + 28 from rfl, bigEndian_add, hcapacity,
      Nat.mul_div_cancel _ (by decide)]
    rfl
  have hlength : (wordBytes selector).length = 4 := length_bigEndian 4 _
  rw [store, store, hfront, show (0x8004#256).toNat = (0x8000#256).toNat + 4 from rfl,
    write_write _ _ (by simp), length_wordBytes, withWords, List.flatMap_singleton,
    List.take_left' hlength, List.drop_of_length_le (by simp [hlength]), List.append_nil]
  rfl

/-- A word that is stored within words, or behind the last. -/
theorem store_withWords {words : List Word} {place : Word} {count : Nat} (word : Word)
    (hc : count ≤ words.length) (hp : place.toNat = 0x8004 + 32 * count) :
    (memory.withWords selector words).store place word =
      memory.withWords selector (words.take count ++ word :: words.drop (count + 1)) := by
  have hlength : (wordBytes selector).length = 4 := length_bigEndian 4 _
  have hwords := length_flatMap_wordBytes words
  rw [store, hp, withWords, withWords,
    show 0x8004 + 32 * count = 0x8000 + (4 + 32 * count) by omega,
    write_write _ _ (by rw [List.length_append]; omega), length_wordBytes, List.take_append,
    hlength, List.drop_append, hlength, List.take_of_length_le (by omega),
    List.drop_of_length_le (by omega), List.nil_append, List.flatMap_append, List.flatMap_cons,
    show 4 + 32 * count - 4 = 32 * count by omega,
    show 4 + 32 * count + 32 - 4 = 32 * (count + 1) by omega, take_flatMap_wordBytes,
    drop_flatMap_wordBytes]
  simp only [List.append_assoc]

/-- A word that is stored behind the last. -/
theorem store_concat {words : List Word} {place : Word} (word : Word)
    (hp : place.toNat = 0x8004 + 32 * words.length) :
    (memory.withWords selector words).store place word =
      memory.withWords selector (words ++ [word]) := by
  rw [store_withWords memory selector word (Nat.le_refl _) hp, List.take_length,
    List.drop_of_length_le (Nat.le_succ _)]

/-! ### Storage writes and logs -/

theorem withWrite_eq (slot value : Word) :
    memory.withWrite selector slot value = memory.withWords selector [slot, value] := by
  rw [withWrite, store_selector, store_concat _ _ _ rfl]
  rfl

theorem withLogHead_eq (count : Word) : memory.withLogHead selector count =
    memory.withWords selector (count :: List.replicate 4 0) := by
  rw [withLogHead, store_selector, store_concat _ _ _ rfl, store_concat _ _ _ rfl,
    store_concat _ _ _ rfl, store_concat _ _ _ rfl]
  rfl

/-- The topics of a log take the place of the words that are there. -/
theorem withTopics_withWords {topics words : List Word} {count : Nat} (head : Word) (hc : count ≤ 4)
    (hw : count ≤ words.length) (ht : count ≤ topics.length) :
    (memory.withWords selector (head :: words)).withTopics topics count =
      memory.withWords selector (head :: (topics.take count ++ words.drop count)) := by
  induction count generalizing words with
  | zero => rfl
  | succ count ih =>
    have hplace : (topicPlace count).toNat = 0x8004 + 32 * (count + 1) := by
      rw [topicPlace, BitVec.toNat_ofNat, Nat.mod_eq_of_lt (by omega)]
      omega
    have hget : topics.getD count 0 = topics[count] := by
      rw [List.getD_eq_getElem?_getD, List.getElem?_eq_getElem ht, Option.getD_some]
    rw [withTopics, store_withWords memory selector _ (by simp; omega) hplace, List.take_succ_cons,
      List.drop_succ_cons, List.cons_append, ih (by omega) (by simp; omega) (by omega), hget,
      List.drop_append_of_le_length (by simp; omega), List.drop_take, Nat.sub_self, List.take_zero,
      List.nil_append, List.take_add_one, List.getElem?_eq_getElem ht, Option.toList_some,
      List.append_assoc, List.singleton_append]

theorem withLogSize_eq {topics : List Word} {count : Nat} (hc : count ≤ 4)
    (ht : count ≤ topics.length) (size : Word) : memory.withLogSize selector count size topics =
      memory.withWords selector (BitVec.ofNat 256 count ::
        (topics.take count ++ List.replicate (4 - count) 0) ++ [0xc0, size]) := by
  rw [withLogSize, withLogHead_eq, withTopics_withWords _ _ _ hc (by simpa using hc) ht,
    List.drop_replicate, store_concat _ _ _ (by simp; omega), store_concat _ _ _ (by simp; omega),
    List.append_assoc]
  rfl

end Memory

/-- The calldata of the report of a storage write. -/
def sstoreCalldata (selector : Selector) (slot value : Word) : Bytes :=
  wordBytes selector ++ wordBytes slot ++ wordBytes value

/-- What precedes the data in the report of a log: the number of its topics, four words for them,
and the offset and the size of the data. -/
def logHead (selector : Selector) (topics : List Word) (size : Word) : Bytes :=
  wordBytes selector ++ (BitVec.ofNat 256 topics.length ::
    (topics ++ List.replicate (4 - topics.length) 0) ++ [0xc0, size]).flatMap wordBytes

/-- The calldata of the report of a log. -/
def logCalldata (selector : Selector) (topics : List Word) (data : Bytes) : Bytes :=
  logHead selector topics (BitVec.ofNat 256 data.length) ++ data

theorem length_sstoreCalldata (selector : Selector) (slot value : Word) :
    (sstoreCalldata selector slot value).length = 0x44 := by
  simp [sstoreCalldata, wordBytes]

theorem length_logHead (selector : Selector) {topics : List Word} (h : topics.length ≤ 4)
    (size : Word) : (logHead selector topics size).length = 0xe4 := by
  have hselector : (wordBytes selector).length = 4 := length_bigEndian 4 _
  rw [logHead, List.length_append, hselector, length_flatMap_wordBytes]
  simp
  omega

namespace Memory

/-- What is read of a reported storage write. -/
theorem read_withWrite (memory : Memory) (selector : Selector) (slot value : Word) :
    (memory.withWrite selector slot value).read 0x8000 0x44 =
      sstoreCalldata selector slot value := by
  rw [withWrite_eq, withWords, ← length_sstoreCalldata selector slot value]
  simpa [sstoreCalldata] using memory.read_write 0x8000 (sstoreCalldata selector slot value)

/-- What is read of a reported log, if its data lies below scratch memory. -/
theorem read_withLog (memory : Memory) (selector : Selector) {topics : List Word}
    (hc : topics.length ≤ 4) {offset size : Word}
    (hb : size.toNat = 0 ∨ offset.toNat + size.toNat ≤ 0x8000) (s : List Word) :
    (memory.withLog selector topics.length offset size (topics ++ s)).read 0x8000
        (0xe4 + size.toNat) =
      logCalldata selector topics (memory.read offset.toNat size.toNat) := by
  have hdata : (memory.withLogSize selector topics.length size (topics ++ s)).read offset.toNat
      size.toNat = memory.read offset.toNat size.toNat := by
    rw [withLogSize_eq _ _ hc (by simp), withWords]
    exact (ChangesWithin.write memory (Nat.le_refl _) (Nat.le_refl _)).read_eq (by omega)
  have hsize : BitVec.ofNat 256 (memory.read offset.toNat size.toNat).length = size := by simp
  have hlength := length_logHead selector hc size
  rw [withLog, hdata, withLogSize_eq _ _ hc (by simp), withWords, List.take_left, ← logHead,
    show 0x80e4 = 0x8000 + 0xe4 from rfl, ← hlength, write_concat, logCalldata, hsize]
  have hread := memory.read_write 0x8000
    (logHead selector topics size ++ memory.read offset.toNat size.toNat)
  rwa [List.length_append, length_read] at hread

/-- A part of the data of a reported log is the same part of what was logged. -/
theorem read_withLog_data (memory : Memory) (selector : Selector) {topics : List Word}
    (hc : topics.length ≤ 4) {offset size : Word} (hb : offset.toNat + size.toNat ≤ 0x8000)
    (s : List Word) {skipped count : Nat} (h : skipped + count ≤ size.toNat) :
    (memory.withLog selector topics.length offset size (topics ++ s)).read
        (0x80e4 + skipped) count =
      memory.read (offset.toNat + skipped) count := by
  have hlength := length_logHead selector hc
    (BitVec.ofNat 256 (memory.read offset.toNat size.toNat).length)
  have hwhole := read_withLog memory selector hc (.inr hb) s
  generalize memory.withLog selector topics.length offset size (topics ++ s) = after at hwhole ⊢
  have hle : 0xe4 + skipped + count ≤ 0xe4 + size.toNat := by omega
  have hpart := after.take_drop_read 0x8000 hle
  rw [hwhole, logCalldata, ← hlength, List.drop_append,
    List.drop_of_length_le (Nat.le_add_right _ _), List.nil_append, Nat.add_sub_cancel_left,
    memory.take_drop_read _ h, hlength, ← Nat.add_assoc] at hpart
  exact hpart.symm

end Memory

/-! ## What the hooks account is told -/

/-- What is read of calldata that has the selector. -/
def decoded? {α : Type} (selector : Selector) (read : Body → Except Error α) (calldata : Bytes) :
    Option α :=
  if calldata.take 4 = wordBytes selector then (read (.ofBytes (calldata.drop 4))).toOption
  else none

theorem decoded?_append {α : Type} {read : Body → Except Error α} {content : Bytes} {a : α}
    (selector : Selector) (h : read (.ofBytes content) = .ok a) :
    decoded? selector read (wordBytes selector ++ content) = some a := by
  have hlength : (wordBytes selector).length = 4 := length_bigEndian 4 _
  rw [decoded?, List.take_left' hlength, List.drop_left' hlength, if_pos rfl, h]
  rfl

/-- The arguments of `HookSignature.sstore`. -/
structure SstoreArguments where
  slot : Word
  value : Word

/-- The arguments of `HookSignature.log`. -/
structure LogArguments where
  /-- How many of the topics there are. -/
  count : Word
  topics : List Word
  data : Bytes

namespace SstoreArguments

/-- Reads the arguments. -/
def read (body : Body) : Except Error SstoreArguments := do
  let slot ← body.uint 256 0
  let value ← body.uint 256 0x20
  return ⟨slot, value⟩

/-- **A storage write is told as it was reported.** -/
theorem decoded?_sstoreCalldata (selector : Selector) (slot value : Word) :
    decoded? selector read (sstoreCalldata selector slot value) = some ⟨slot, value⟩ := by
  have hlaid := laid_ofBytes [word slot, word value]
  have htuple : tuple [word slot, word value] = wordBytes slot ++ wordBytes value := by
    simp [tuple, heads, word, Part.tail]
  rw [htuple] at hlaid
  rw [sstoreCalldata, List.append_assoc]
  refine decoded?_append selector ?_
  rw [read, hlaid.word.1, ok_bind, hlaid.word.2.word.1]
  rfl

end SstoreArguments

namespace LogArguments

/-- Reads the arguments. -/
def read (body : Body) : Except Error LogArguments := do
  let count ← body.uint 256 0
  let topic0 ← body.uint 256 0x20
  let topic1 ← body.uint 256 0x40
  let topic2 ← body.uint 256 0x60
  let topic3 ← body.uint 256 0x80
  let data ← body.bytes 0xa0
  return ⟨count, [topic0, topic1, topic2, topic3], data⟩

/-- **A log is told as it was reported**, with zeros for the topics that it does not have. -/
theorem decoded?_logCalldata (selector : Selector) {topics : List Word} (h : topics.length ≤ 4)
    {data : Bytes} (hd : data.length ≤ 0x8000) :
    decoded? selector read (logCalldata selector topics data) =
      some ⟨BitVec.ofNat 256 topics.length, topics ++ List.replicate (4 - topics.length) 0,
        data⟩ := by
  have hfour : (topics ++ List.replicate (4 - topics.length) 0).length = 4 := by
    simp
    omega
  rw [logCalldata, logHead, List.append_assoc]
  generalize BitVec.ofNat 256 topics.length = count
  generalize topics ++ List.replicate (4 - topics.length) 0 = words at hfour
  obtain ⟨t0, t1, t2, t3, rfl⟩ := List.length_eq_four.1 hfour
  refine decoded?_append selector ?_
  have hlaid := laid_ofBytes [word count, word t0, word t1, word t2, word t3,
    .dynamic (natWord data.length ++ (data ++ []))]
  have hdata : wordBytes (BitVec.ofNat 256 data.length) = natWord data.length :=
    wordBytes_ofNat (by omega)
  have htuple : tuple [word count, word t0, word t1, word t2, word t3,
      .dynamic (natWord data.length ++ (data ++ []))] =
        (count :: [t0, t1, t2, t3] ++ [0xc0, BitVec.ofNat 256 data.length]).flatMap wordBytes ++
          data := by
    have hwidth (w : Word) : (wordBytes w).length = 32 := Memory.length_wordBytes w
    simp [tuple, heads, headSize, Part.headSize, Part.tail, word, hdata, hwidth]
    rfl
  rw [htuple] at hlaid
  have hs : (Body.ofBytes ((count :: [t0, t1, t2, t3] ++
      [0xc0, BitVec.ofNat 256 data.length]).flatMap wordBytes ++ data)).data.size < capacity 8 := by
    have hcapacity : 0x10000 < capacity 8 := by decide
    have hwords := length_flatMap_wordBytes
      (count :: [t0, t1, t2, t3] ++ [0xc0, BitVec.ofNat 256 data.length])
    rw [Body.ofBytes, List.size_toArray, List.length_append, hwords]
    simp
    omega
  obtain ⟨h0, hlaid⟩ := hlaid.word
  obtain ⟨h1, hlaid⟩ := hlaid.word
  obtain ⟨h2, hlaid⟩ := hlaid.word
  obtain ⟨h3, hlaid⟩ := hlaid.word
  obtain ⟨h4, hlaid⟩ := hlaid.word
  obtain ⟨h5, -⟩ := hlaid.paddedBytes hs
  rw [read, h0, ok_bind, h1, ok_bind, h2, ok_bind, h3, ok_bind, h4, ok_bind, h5]
  rfl

end LogArguments

end EvmProbe
