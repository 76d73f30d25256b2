import EvmProbe.Proofs.Image.Calldata
import EvmProbe.Proofs.Image.Sites

/-!
The calldata of the report of a call.

The input was put behind where the head is stored; the output is put behind the input, from what was
saved of it.  Where that is depends on the size of the input, and how much there is on the size of
the output: reports that lie apart from what is saved (`Memory.Apart`) are told as they are.

* `read_withCall_head`, `withCall_below`: what holds whatever the sizes are.
* `saves_of_apart`, `read_withCall`: what holds of reports that lie apart.
* `CallArguments.decoded?_report`: what the hooks account is told.
* `reportedExactly_of_apart`: both together, for a call that was made.
-/

namespace EvmProbe

open Abi

/-- The words that precede the input in the report of a call. -/
def CallReport.headWords (r : CallReport) : List Word :=
  [r.kind, (r.address.setWidth 160).setWidth 256, r.value, r.gas, r.success, 0xe0,
    BitVec.ofNat 256 (0x100 + (r.argsSize.toNat + 31) / 32 * 32), r.argsSize]

namespace Memory
variable (memory : Memory) (selector : Selector) {r : CallReport} {data : Bytes}

theorem withCallHead_eq (h : r.argsSize.toNat ≤ 0x8000) :
    memory.withCallHead selector r = memory.withWords selector r.headWords := by
  have hmask : 0xffffffffffffffffffffffffffffffffffffffff#256 &&& r.address =
      (r.address.setWidth 160).setWidth 256 := by
    rw [← and_mask]
    rfl
  have hround : 0x100#256 + r.roundedSize =
      BitVec.ofNat 256 (0x100 + (r.argsSize.toNat + 31) / 32 * 32) := by
    rw [← r.toNat_roundedSize h, BitVec.ofNat_add, BitVec.ofNat_toNat, BitVec.setWidth_eq]
  rw [withCallHead, hmask, hround, store_selector, store_concat _ _ _ rfl, store_concat _ _ _ rfl,
    store_concat _ _ _ rfl, store_concat _ _ _ rfl, store_concat _ _ _ rfl, store_concat _ _ _ rfl,
    store_concat _ _ _ rfl]
  rfl

/-- The output of a call is put behind a place: its size, and its bytes. -/
theorem changesWithin_withOutput {place : Word} (h : place.toNat < 2 ^ 255) :
    ChangesWithin place.toNat
      (place.toNat + 32 + ((memory.withOutputSize place).load 0xa000#256).toNat)
      memory (memory.withOutput place) := by
  have hnext := toNat_outputBytes place h
  refine (ChangesWithin.store _ _ (Nat.le_refl _) (Nat.le_add_right _ _)).trans (.write _ ?_ ?_)
  · omega
  · rw [hnext, length_read]

/-- Return data is saved from a fixed place on. -/
theorem changesWithin_withSaved (h : data.length < 2 ^ 256) :
    ChangesWithin 0xa000 (0xa020 + data.length) memory (memory.withSaved data) := by
  have hlength : (BitVec.ofNat 256 data.length).toNat = data.length := by
    rw [BitVec.toNat_ofNat, Nat.mod_eq_of_lt h]
  have hstore : ChangesWithin 0xa000 (0xa020 + data.length) memory
      (memory.store 0xa000#256 (BitVec.ofNat 256 data.length)) :=
    .store _ _ (Nat.le_refl _) (Nat.le_add_right _ _)
  refine hstore.trans (.write _ (Nat.le_add_right 0xa000 0x20) ?_)
  rw [hlength, List.take_length]

/-- What precedes the input stands in front of it when a call is reported. -/
theorem read_withCall_head (h : r.argsSize.toNat ≤ 0x8000) (data : Bytes) :
    (memory.withCall selector r data).read 0x8000 0x104 =
      wordBytes selector ++ r.headWords.flatMap wordBytes := by
  have hplace := r.toNat_outputPlace h
  have hlength : (wordBytes selector ++ r.headWords.flatMap wordBytes).length = 0x104 := by
    have hselector : (wordBytes selector).length = 4 := length_bigEndian 4 _
    rw [List.length_append, hselector, length_flatMap_wordBytes]
    rfl
  rw [withCall, (changesWithin_withOutput _ (by omega)).read_eq (by omega), withCallHead_eq _ _ h,
    withWords, ← hlength, read_write]

/-- The report of a call leaves the memory below scratch memory alone. -/
theorem withCall_below (h : r.argsSize.toNat ≤ 0x8000) (data : Bytes) {address : Nat}
    (ha : address < 0x8000) : memory.withCall selector r data address = memory address := by
  have hplace := r.toNat_outputPlace h
  rw [withCall, changesWithin_withOutput _ (by omega) _ (.inl (by omega)),
    changesWithin_withCallHead _ _ _ _ (.inl ha), withSaved, write_before _ (by omega),
    store, write_before _ (Nat.lt_of_lt_of_le ha (by decide))]

/-- What a write leaves at an address depends on what was there only. -/
theorem write_congr {before after : Memory} {address : Nat} (h : after address = before address)
    (offset : Nat) (bytes : Bytes) :
    after.write offset bytes address = before.write offset bytes address := by
  simp only [write, h]

/-- A call leaves the memory below scratch memory as it would without the copy of its input. -/
theorem withReply_below (o : CallOperands) (data : Bytes) {address : Nat} (ha : address < 0x8000) :
    memory.withReply o data address =
      memory.write o.retOffset.toNat (data.take o.retSize.toNat) address :=
  write_congr (write_before _ (Nat.lt_of_lt_of_le ha (by decide))) _ _

/-! ### Reports apart from what is saved -/

/-- A word that is zero stays so if zeros are written. -/
theorem load_store_zero {source : Word} (h : memory.load source = 0) (target : Word) :
    (memory.store target 0).load source = 0 := by
  have hword : wordBytes (0 : Word) = List.replicate 32 0 := by decide
  have hzeros := memory.read_of_load h
  rw [hword] at hzeros
  have hsame : (memory.store target 0).read source.toNat 32 = List.replicate 32 0 := by
    rw [← hzeros]
    refine List.map_congr_left fun index hi => ?_
    have hmem : memory (source.toNat + index) ∈ memory.read source.toNat 32 :=
      List.mem_map_of_mem hi
    have hbyte : memory (source.toNat + index) = 0 := List.eq_of_mem_replicate (hzeros ▸ hmem)
    rw [store, write, hword, List.getD_eq_getElem?_getD, List.getElem?_replicate, hbyte]
    split
    · split <;> rfl
    · rfl
  rw [load, hsame]
  decide

/-- The report of a call lies in front of the return data that is saved, or else there is no return
data, and the input lies in front of where its size is saved. -/
def Apart (argsSize length : Nat) : Prop :=
  0x8104 + (argsSize + 31) / 32 * 32 + 0x20 + length ≤ 0xa000 ∨ length = 0 ∧ argsSize ≤ 0x1efc

theorem Apart.bounds {argsSize length : Nat} (h : Apart argsSize length) :
    argsSize ≤ 0x1efc ∧ length < 0x2000 := by
  rw [Apart] at h
  omega

/-- **What is reported apart stays saved**, while its size is put behind the input and behind
that. -/
theorem saves_of_apart (h : Apart r.argsSize.toNat data.length) :
    ((memory.withSaved data).withCallHead selector r).Saves data ∧
      (((memory.withSaved data).withCallHead selector r).withOutputSize r.outputPlace).Saves data ∧
      (memory.withCall selector r data).Saves data := by
  have hbounds := h.bounds
  have hplace := r.toNat_outputPlace (by omega)
  have hsaved := memory.saves_withCallHead selector r (show 0xa020 + data.length < 2 ^ 256 by omega)
  rw [withCall]
  generalize (memory.withSaved data).withCallHead selector r = memory at hsaved
  rw [Apart, ← hplace] at h
  have hsize : (memory.withOutputSize r.outputPlace).Saves data := by
    rcases h with h | ⟨h, -⟩
    · exact hsaved.of_changesWithin (.store _ _ (Nat.le_refl _) (Nat.le_refl _)) (by omega)
    · obtain rfl := List.eq_nil_of_length_eq_zero h
      have hzero : memory.load 0xa000#256 = 0 := hsaved.size
      refine ⟨hsaved.bounded, ?_, rfl⟩
      rw [withOutputSize, hzero]
      exact memory.load_store_zero hzero _
  refine ⟨hsaved, hsize, ?_⟩
  rcases h with h | ⟨h, -⟩
  · exact hsize.withOutput (by omega) (.inl h)
  · -- there are no bytes to put
    obtain rfl := List.eq_nil_of_length_eq_zero h
    rwa [withOutput, hsize.toNat_size, List.length_nil, read_zero, write_nil]

/-- Where an output is put, its size is the one that was saved. -/
theorem read_withOutput_size (place : Word) (h : place.toNat < 2 ^ 255) :
    (memory.withOutput place).read place.toNat 0x20 = wordBytes (memory.load 0xa000#256) := by
  have hnext := toNat_outputBytes place h
  have hread := memory.read_write place.toNat (wordBytes (memory.load 0xa000#256))
  rw [length_wordBytes] at hread
  rw [withOutput, hnext,
    (ChangesWithin.write _ (Nat.le_refl _) (Nat.le_refl _)).read_eq (.inr (.inl (Nat.le_refl _))),
    withOutputSize, store, hread]

/-- What is read of an output that was put behind a place: its size, and its bytes. -/
theorem read_withOutput {place : Word} (h : place.toNat < 2 ^ 255) (hsaved : memory.Saves data)
    (hsize : (memory.withOutputSize place).Saves data) :
    (memory.withOutput place).read place.toNat (0x20 + data.length) =
      natWord data.length ++ data := by
  have hlt := hsaved.bounded
  rw [read_add, read_withOutput_size _ _ h, hsaved.size, wordBytes_ofNat (by omega), withOutput,
    hsize.toNat_size, hsize.bytes, toNat_outputBytes place h, read_write]

/-- How much is passed on of a report that lies apart. -/
theorem toNat_calldataSize (h : Apart r.argsSize.toNat data.length) :
    (r.calldataSize (memory.withCall selector r data)).toNat =
      0x104 + ((r.argsSize.toNat + 31) / 32 * 32 + (0x20 + data.length)) := by
  have hbounds := h.bounds
  have hplace := r.toNat_outputPlace (by omega)
  rw [CallReport.calldataSize, (saves_of_apart memory selector h).2.2.size, BitVec.toNat_sub,
    BitVec.toNat_add, BitVec.toNat_add, hplace]
  simp only [BitVec.toNat_ofNat]
  omega

/-- **What is read of a report that lies apart**: behind its head the input, up to a whole number of
words, and the output behind its size. -/
theorem read_withCall (h : Apart r.argsSize.toNat data.length) :
    ∃ padding, r.argsSize.toNat + padding.length = (r.argsSize.toNat + 31) / 32 * 32 ∧
      (memory.withCall selector r data).read 0x8000
          (r.calldataSize (memory.withCall selector r data)).toNat =
        wordBytes selector ++ (r.headWords.flatMap wordBytes ++
          ((memory.read 0x8104 r.argsSize.toNat ++ padding) ++ (natWord data.length ++ data))) := by
  have hbounds := h.bounds
  have hplace := r.toNat_outputPlace (by omega)
  have hrounded : r.argsSize.toNat ≤ (r.argsSize.toNat + 31) / 32 * 32 := by omega
  generalize hwords : (r.argsSize.toNat + 31) / 32 * 32 = rounded at hplace hrounded
  have hhead := memory.read_withCall_head selector (r := r) (by omega) data
  have hinput : (memory.withCall selector r data).read 0x8104 r.argsSize.toNat =
      memory.read 0x8104 r.argsSize.toNat := by
    rw [withCall, (changesWithin_withOutput _ (by omega)).read_eq (by omega),
      (changesWithin_withCallHead _ selector r).read_eq (by omega),
      (changesWithin_withSaved memory (by omega)).read_eq (by omega)]
  obtain ⟨hsaved, hsize, -⟩ := saves_of_apart memory selector h
  have houtput := read_withOutput _ (by omega) hsaved hsize
  rw [← withCall, hplace] at houtput
  refine ⟨(memory.withCall selector r data).read (0x8104 + r.argsSize.toNat)
    (rounded - r.argsSize.toNat), by simp; omega, ?_⟩
  have hregion := (memory.withCall selector r data).read_add 0x8104 r.argsSize.toNat
    (rounded - r.argsSize.toNat)
  rw [Nat.add_sub_of_le hrounded, hinput] at hregion
  rw [toNat_calldataSize memory selector h, hwords, read_add, hhead, read_add, hregion, houtput,
    List.append_assoc]

end Memory

/-! ## What the hooks account is told -/

/-- The arguments of `HookSignature.call`. -/
structure CallArguments where
  kind : BitVec 8
  target : Address
  value : Word
  gas : Word
  success : Bool
  input : Bytes
  output : Bytes

namespace CallArguments

/-- Reads the arguments. -/
def read (body : Body) : Except Error CallArguments := do
  let kind ← body.uint 8 0
  let target ← body.uint 160 0x20
  let value ← body.uint 256 0x40
  let gas ← body.uint 256 0x60
  let success ← body.bool 0x80
  let input ← body.bytes 0xa0
  let output ← body.bytes 0xc0
  return ⟨kind, target, value, gas, success, input, output⟩

section
variable {r : CallReport} {kind : BitVec 8} {success : Bool} {input padding data : Bytes}
  (hk : r.kind = kind.setWidth 256) (hs : r.success = flag (success = true))
  (ha : r.argsSize.toNat ≤ 0x8000) (hi : input.length = r.argsSize.toNat)
  (hp : r.argsSize.toNat + padding.length = (r.argsSize.toNat + 31) / 32 * 32)
include hk hs ha hi hp

/-- The report of a call is a tuple of its arguments. -/
theorem tuple_eq : tuple [uint kind, uint (r.address.setWidth 160), word r.value, word r.gas,
      bool success, .dynamic (natWord input.length ++ (input ++ padding)),
      .dynamic (natWord data.length ++ (data ++ []))] =
    r.headWords.flatMap wordBytes ++ ((input ++ padding) ++ (natWord data.length ++ data)) := by
  have hkind : uint kind = word r.kind := by
    rw [hk, uint, word, wordBytes, BitVec.toNat_setWidth_of_le (by decide)]
    rfl
  have haddress : uint (r.address.setWidth 160) = word ((r.address.setWidth 160).setWidth 256) := by
    rw [uint, word, wordBytes, BitVec.toNat_setWidth_of_le (w := 160) (by decide)]
    rfl
  have hsuccess : Abi.bool success = word r.success := by
    rw [hs]
    cases success <;> rfl
  have hinput : natWord input.length = wordBytes r.argsSize := by
    rw [hi]
    rfl
  have hoffset : 0xe0 + (0x20 + (input.length + padding.length)) =
      0x100 + (r.argsSize.toNat + 31) / 32 * 32 := by
    rw [hi, hp]
    omega
  have hsecond : natWord (0xe0 + (0x20 + (input.length + padding.length))) =
      wordBytes (BitVec.ofNat 256 (0x100 + (r.argsSize.toNat + 31) / 32 * 32)) := by
    rw [hoffset, wordBytes_ofNat (by omega)]
  have hwidth (w : Word) : (wordBytes w).length = 32 := Memory.length_wordBytes w
  rw [hkind, haddress, hsuccess]
  simp [tuple, heads, headSize, Part.headSize, Part.tail, word, hwidth, CallReport.headWords,
    hinput, hsecond]
  rfl

/-- **A call is told as it was reported.** -/
theorem decoded?_report (selector : Selector) (hd : data.length ≤ 0x8000) :
    decoded? selector read (wordBytes selector ++ (r.headWords.flatMap wordBytes ++
      ((input ++ padding) ++ (natWord data.length ++ data)))) =
        some ⟨kind, r.address.setWidth 160, r.value, r.gas, success, input, data⟩ := by
  have hlaid := laid_ofBytes [uint kind, uint (r.address.setWidth 160), word r.value, word r.gas,
    Abi.bool success, .dynamic (natWord input.length ++ (input ++ padding)),
    .dynamic (natWord data.length ++ (data ++ []))]
  rw [tuple_eq hk hs ha hi hp] at hlaid
  refine decoded?_append selector ?_
  have hsize : (Body.ofBytes (r.headWords.flatMap wordBytes ++
      ((input ++ padding) ++ (natWord data.length ++ data)))).data.size < capacity 8 := by
    have hcapacity : 0x20000 < capacity 8 := by decide
    have hwords : (r.headWords.flatMap wordBytes).length = 0x100 := length_flatMap_wordBytes _
    rw [Body.ofBytes, List.size_toArray, List.length_append, hwords]
    simp
    omega
  obtain ⟨h0, hlaid⟩ := hlaid.uint (by decide)
  obtain ⟨h1, hlaid⟩ := hlaid.uint (by decide)
  obtain ⟨h2, hlaid⟩ := hlaid.word
  obtain ⟨h3, hlaid⟩ := hlaid.word
  obtain ⟨h4, hlaid⟩ := hlaid.bool
  obtain ⟨h5, _, hlaid⟩ := hlaid.paddedBytes hsize
  obtain ⟨h6, -⟩ := hlaid.paddedBytes hsize
  rw [read, h0, ok_bind, h1, ok_bind, h2, ok_bind, h3, ok_bind, h4, ok_bind, h5, ok_bind, h6]
  rfl

end

end CallArguments

/-! ## Exact reports -/

/-- What a call is reported with once it was made. -/
def CallReport.made (opcode : Opcode) (o : CallOperands) (success : Bool) : CallReport :=
  ⟨o, opcode.callKind, flag (success = true)⟩

/-- The memory in which a call is reported that was made from a memory. -/
def Memory.withCallMade (selector : Selector) (opcode : Opcode) (o : CallOperands) (success : Bool)
    (data : Bytes) (memory : Memory) : Memory :=
  (memory.withReply o data).withCall selector (.made opcode o success) data

/-- **A call is reported exactly**: the hooks account is told of all of its operands, the input that
it was made with and what it returned, and that is what is saved. -/
structure ReportedExactly (selector : Selector) (opcode : Opcode) (o : CallOperands)
    (success : Bool) (data : Bytes) (m : Memory) : Prop where
  told : decoded? selector CallArguments.read
    ((m.withCallMade selector opcode o success data).read 0x8000
      ((CallReport.made opcode o success).calldataSize
        (m.withCallMade selector opcode o success data)).toNat) =
    some ⟨opcode.callKind.setWidth 8, o.address.setWidth 160, o.value, o.gas, success,
      m.read o.argsOffset.toNat o.argsSize.toNat, data⟩
  saved : (m.withCallMade selector opcode o success data).Saves data

/-- The input of a call is kept while the call writes below scratch memory. -/
theorem Memory.read_withReply {o : CallOperands} (hret : Below (o.retOffset, o.retSize))
    (data : Bytes) (m : Memory) : (m.withReply o data).read 0x8104 o.argsSize.toNat =
      m.read o.argsOffset.toNat o.argsSize.toNat := by
  have hret : o.retSize.toNat = 0 ∨ o.retOffset.toNat + o.retSize.toNat ≤ 0x8000 := hret
  have hinput := m.read_write 0x8104 (m.read o.argsOffset.toNat o.argsSize.toNat)
  rw [length_read] at hinput
  rw [withReply]
  rcases hret with h | h
  · rw [h, List.take_zero, write_nil]
    exact hinput
  · have hwrite : ChangesWithin 0 0x8000 (m.withInput o)
        ((m.withInput o).write o.retOffset.toNat (data.take o.retSize.toNat)) :=
      .write _ (Nat.zero_le _) (by simp; omega)
    rw [hwrite.read_eq (by omega)]
    exact hinput

theorem Opcode.setWidth_callKind (opcode : Opcode) :
    opcode.callKind = (opcode.callKind.setWidth 8).setWidth 256 := by
  unfold callKind
  split <;> rfl

/-- **A report that lies apart is exact.** -/
theorem reportedExactly_of_apart (selector : Selector) (opcode : Opcode) {o : CallOperands}
    (hret : Below (o.retOffset, o.retSize)) (success : Bool) {data : Bytes} (m : Memory)
    (h : Memory.Apart o.argsSize.toNat data.length) :
    ReportedExactly selector opcode o success data m where
  told := by
    have hbounds := h.bounds
    obtain ⟨padding, hpadding, hread⟩ :=
      (m.withReply o data).read_withCall selector (r := .made opcode o success) h
    rw [Memory.withCallMade, hread]
    have hinput : ((m.withReply o data).read 0x8104
        (CallReport.made opcode o success).argsSize.toNat) = _ := Memory.read_withReply hret data m
    rw [hinput]
    exact CallArguments.decoded?_report (r := .made opcode o success) opcode.setWidth_callKind rfl
      (Nat.le_trans hbounds.1 (by decide)) (Memory.length_read _ _ _) hpadding selector (by omega)
  saved := (Memory.saves_of_apart _ selector (r := .made opcode o success) h).2.2

end EvmProbe
