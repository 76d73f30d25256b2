import EvmProbe.Proofs.Image.Calling

/-!
Reports of calls, and the return data that is saved.

A report is put together at one fixed address, and return data is saved at another one behind it.
What the report takes depends on the sizes of the input and of the output; if it lies in front of
what is saved (`Memory.Apart`), the hooks account is told all of the call and the return data is
kept.  Else the one is written over by the other.

* `Memory.input_of_decoded?`, `Memory.length_le_of_decoded?`: what the hooks account can be told.
* `Memory.withCall_saved_size`, `Memory.not_saves`: what is written over.
* `reportedExactly_iff`: the sizes for which every report is exact.
* `reportsCalls_of_patchFrom`: how an image reports calls.
* `misreports_call`, `loses_reported_data`: a call whose report is cut short, and whose return data
  is lost.
-/

namespace EvmProbe

open Abi Bytecode Linking StateTransition

/-! ## Reading memory as a tuple -/

namespace Abi

namespace Body
variable (memory : Memory) {start size position count n : Nat} {content : Bytes}

/-- A slice of what was read of memory is read of memory. -/
theorem slice_read (h : (Body.mk (memory.read start size).toArray position).slice n count =
    .ok content) : position + n + count ≤ size ∧
      content = memory.read (start + (position + n)) count := by
  rw [slice] at h
  split at h
  · next hle =>
    cases h
    have hle : position + n + count ≤ size := by simpa using hle
    refine ⟨hle, ?_⟩
    rw [Array.toList_extract, List.extract_eq_take_drop, Nat.add_sub_cancel_left,
      memory.take_drop_read start hle]
  · cases h

theorem offset_read {value : Nat}
    (h : (Body.mk (memory.read start size).toArray position).offset n = .ok value) :
    value = ofBigEndian (memory.read (start + (position + n)) 32) % capacity 8 := by
  rw [offset, nat] at h
  cases hs : (Body.mk (memory.read start size).toArray position).slice n 32 with
  | error cause => rw [hs] at h; cases h
  | ok content =>
    rw [hs] at h
    cases h
    rw [(slice_read memory hs).2]

/-- **A byte string that is read of memory** lies where its offset and its size say. -/
theorem bytes_read (h : (Body.ofBytes (memory.read start size)).bytes n = .ok content) :
    ∃ place count, place = ofBigEndian (memory.read (start + n) 32) % capacity 8 ∧
      count = ofBigEndian (memory.read (start + place) 32) % capacity 8 ∧
      place + 32 + count ≤ size ∧ content = memory.read (start + (place + 32)) count := by
  obtain ⟨inner, hfollow, h⟩ := exists_of_bind_ok h
  obtain ⟨count, hcount, h⟩ := exists_of_bind_ok h
  obtain ⟨place, hplace, hinner⟩ := exists_of_bind_ok hfollow
  rw [Body.inner] at hinner
  split at hinner
  · cases hinner
    rw [ofBytes, Nat.zero_add] at *
    obtain ⟨hle, hcontent⟩ := slice_read memory h
    refine ⟨place, count, ?_, ?_, hle, hcontent⟩
    · simpa using offset_read memory hplace
    · simpa using offset_read memory hcount
  · cases hinner

end Body

end Abi

/-- The byte strings that the hooks account is told of a call. -/
theorem CallArguments.bytes_of_decoded? {selector : Selector} {calldata : Bytes}
    {arguments : CallArguments} (h : decoded? selector read calldata = some arguments) :
    (Body.ofBytes (calldata.drop 4)).bytes 0xa0 = .ok arguments.input ∧
      (Body.ofBytes (calldata.drop 4)).bytes 0xc0 = .ok arguments.output := by
  rw [decoded?] at h
  split at h
  · cases hr : read (.ofBytes (calldata.drop 4)) with
    | error cause => rw [hr] at h; cases h
    | ok value =>
      rw [hr] at h
      cases h
      obtain ⟨_, -, hr⟩ := exists_of_bind_ok hr
      obtain ⟨_, -, hr⟩ := exists_of_bind_ok hr
      obtain ⟨_, -, hr⟩ := exists_of_bind_ok hr
      obtain ⟨_, -, hr⟩ := exists_of_bind_ok hr
      obtain ⟨_, -, hr⟩ := exists_of_bind_ok hr
      obtain ⟨input, hinput, hr⟩ := exists_of_bind_ok hr
      obtain ⟨output, houtput, hr⟩ := exists_of_bind_ok hr
      cases hr
      exact ⟨hinput, houtput⟩
  · cases h

/-! ## Bytes that are written over -/

namespace Memory

section
variable (memory : Memory) (selector : Selector) {r : CallReport} {data : Bytes}

/-- A word in front of the input of a report. -/
theorem read_withCall_word (h : r.argsSize.toNat ≤ 0x8000) (data : Bytes) {index : Nat}
    {word : Word} (hi : r.headWords[index]? = some word) :
    (memory.withCall selector r data).read (0x8004 + 32 * index) 32 = wordBytes word := by
  obtain ⟨hlt, hword⟩ := List.getElem?_eq_some_iff.1 hi
  have h8 : index < 8 := hlt
  have hselector : (wordBytes selector).length = 4 := length_bigEndian 4 _
  have hhead := memory.read_withCall_head selector h data
  have hpart := (memory.withCall selector r data).take_drop_read 0x8000
    (show 4 + 32 * index + 32 ≤ 0x104 by omega)
  rw [hhead, List.drop_append, hselector, List.drop_of_length_le (by omega), List.nil_append,
    Nat.add_sub_cancel_left, drop_flatMap_wordBytes, List.drop_eq_getElem_cons hlt,
    hword, List.flatMap_cons,
    List.take_left' (length_wordBytes word)] at hpart
  rw [hpart]
  congr 1
  omega

/-- The size of the output stands where the report says. -/
theorem read_withCall_size (h : r.argsSize.toNat ≤ 0x8000) (hlt : data.length < 2 ^ 32) :
    (memory.withCall selector r data).read (0x8104 + (r.argsSize.toNat + 31) / 32 * 32) 32 =
      natWord data.length := by
  have hbounded : 0xa020 + data.length < 2 ^ 256 := by omega
  have hplace := r.toNat_outputPlace h
  rw [withCall, ← hplace, read_withOutput_size _ _ (by omega),
    (memory.saves_withCallHead selector r hbounded).size, wordBytes_ofNat (by omega)]

/-- A number of four bytes as a word. -/
theorem natWord_of_lt {n : Nat} (h : n < 2 ^ 32) :
    natWord n = List.replicate 28 0 ++ bigEndian 4 n := by
  have hcapacity : capacity 4 = 2 ^ 32 := by decide
  have hzeros : bigEndian 28 0 = List.replicate 28 0 := by decide
  rw [natWord, show 32 = 28 + 4 from rfl, bigEndian_add, hcapacity, Nat.div_eq_of_lt h, hzeros]

/-- If a number stands in two words and the second takes the last four bytes of the first, it is
zero. -/
theorem eq_zero_of_read {n : Nat} (hn : n < 2 ^ 32) (h : memory.read 0x9fe4 32 = natWord n)
    (h' : memory.read 0xa000 32 = natWord n) : n = 0 := by
  have hlow : memory.read 0xa000 4 = bigEndian 4 n := by
    have hpart := memory.take_drop_read 0x9fe4 (show 28 + 4 ≤ 32 by decide)
    rw [h, natWord_of_lt hn, List.drop_left' List.length_replicate,
      List.take_of_length_le (by rw [length_bigEndian])] at hpart
    exact hpart.symm
  have hzeros : memory.read 0xa000 4 = List.replicate 4 0 := by
    have hpart := memory.take_drop_read 0xa000 (show 0 + 4 ≤ 32 by decide)
    rw [h', natWord_of_lt hn] at hpart
    exact hpart.symm
  have hvalue := congrArg ofBigEndian (hlow.symm.trans hzeros)
  rw [ofBigEndian_bigEndian (by rwa [show capacity 4 = 2 ^ 32 by decide])] at hvalue
  rw [hvalue]
  decide

/-- If the size of the output is put four bytes behind the saved size, zero is saved in its
place. -/
theorem load_withCall_eq_zero (ha : (r.argsSize.toNat + 31) / 32 * 32 = 0x1f00)
    (hlt : data.length < 2 ^ 32) : (memory.withCall selector r data).load 0xa000#256 = 0 := by
  have hplace := r.toNat_outputPlace (by omega)
  rw [ha] at hplace
  have hbounded : 0xa020 + data.length < 2 ^ 256 := by omega
  have hsaved := memory.saves_withCallHead selector r hbounded
  rw [withCall]
  generalize (memory.withSaved data).withCallHead selector r = head at hsaved
  have hword : wordBytes (head.load 0xa000#256) =
      List.replicate 28 0 ++ bigEndian 4 data.length := by
    rw [hsaved.size, wordBytes_ofNat (by omega), natWord_of_lt hlt]
  have hsize : (head.withOutputSize r.outputPlace).read 0xa004 32 =
      List.replicate 28 0 ++ bigEndian 4 data.length := by
    have hread := head.read_write r.outputPlace.toNat (wordBytes (head.load 0xa000#256))
    rwa [length_wordBytes, ← store, ← withOutputSize, hplace, hword] at hread
  -- its first four bytes are left, and behind them the first ones of the same number
  have hleft : (head.withOutputSize r.outputPlace).read 0xa000 4 = List.replicate 4 0 := by
    have hfirst : head.read 0xa000 32 = _ := (head.read_of_load rfl).trans hword
    rw [withOutputSize,
      (ChangesWithin.store _ _ (Nat.le_refl _) (Nat.le_refl _)).read_eq (by omega),
      ← head.take_drop_read 0xa000 (show 0 + 4 ≤ 32 by decide), hfirst]
    rfl
  have hput : (head.withOutputSize r.outputPlace).read 0xa004 28 = List.replicate 28 0 := by
    have hpart := (head.withOutputSize r.outputPlace).take_drop_read 0xa004
      (show 0 + 28 ≤ 32 by decide)
    rw [hsize] at hpart
    exact hpart.symm
  have hload : (head.withOutputSize r.outputPlace).load 0xa000#256 = 0 := by
    rw [load, show (0xa000#256 : Word).toNat = 0xa000 from rfl, show 32 = 4 + 28 from rfl, read_add,
      hleft, hput]
    decide
  rw [withOutput, hload]
  exact write_nil _ _ ▸ hload

/-- **Return data that is reached by its report is not saved**, at least if none of its bytes is
zero. -/
theorem not_saves (ha : r.argsSize.toNat ≤ 0x1efc) (hl : 0 < data.length)
    (hlt : data.length < 2 ^ 32) (hbytes : ∀ byte ∈ data, byte ≠ 0)
    (h : 0xa000 < 0x8104 + (r.argsSize.toNat + 31) / 32 * 32 + 0x20 + data.length) :
    ¬ (memory.withCall selector r data).Saves data := by
  intro hsaves
  rcases Nat.eq_or_lt_of_le (show (r.argsSize.toNat + 31) / 32 * 32 ≤ 0x1f00 by omega) with
    hover | hfront
  · -- the size of the output hides the saved size
    have hzero := hsaves.toNat_size
    rw [memory.load_withCall_eq_zero selector hover hlt] at hzero
    exact absurd hzero (Nat.ne_of_lt hl)
  have hplace := r.toNat_outputPlace (by omega)
  have hsize := memory.read_withCall_size selector (r := r) (by omega) hlt
  have hlast : (memory.withCall selector r data).read 0xa000 32 = natWord data.length :=
    wordBytes_ofNat (n := data.length) (by omega) ▸ read_of_load _ hsaves.size
  have hbounded : 0xa020 + data.length < 2 ^ 256 := by omega
  have hsaved := memory.saves_withCallHead selector r hbounded
  rw [← hplace] at hsize h
  rw [withCall] at hlast hsize
  generalize (memory.withSaved data).withCallHead selector r = head at hsaved hlast hsize
  rcases Nat.lt_or_ge r.outputPlace.toNat 0x9fe0 with hfar | hnear
  · -- the bytes of the output reach the saved size
    have hkept : (head.withOutputSize r.outputPlace).Saves data :=
      hsaved.of_changesWithin (.store _ _ (Nat.le_refl _) (Nat.le_refl _)) (.inl (by omega))
    have hzero : head.withOutput r.outputPlace 0xa000 = 0 := by
      have hfirst := congrArg (·[0]?) hlast
      simpa [read, natWord_of_lt hlt] using hfirst
    have hin : 0xa000 - (r.outputPlace.toNat + 0x20) < data.length := by omega
    rw [withOutput, hkept.toNat_size, hkept.bytes, toNat_outputBytes _ (by omega), write,
      if_pos (by omega), List.getD_eq_getElem?_getD, List.getElem?_eq_getElem hin,
      Option.getD_some] at hzero
    exact hbytes _ (List.getElem_mem hin) hzero
  · -- the size of the output runs into the saved size
    have hp : r.outputPlace.toNat = 0x9fe4 := by omega
    rw [hp] at hsize
    exact absurd (eq_zero_of_read _ hlt hsize hlast) (by omega)

section
variable (ha : r.argsSize.toNat ≤ 0x8000) {size : Nat} {arguments : CallArguments}
  (h : decoded? selector CallArguments.read ((memory.withCall selector r data).read 0x8000 size) =
    some arguments)
include ha h

/-- The input that the hooks account is told of is what stands behind the head. -/
theorem input_of_decoded? :
    arguments.input = (memory.withCall selector r data).read 0x8104 r.argsSize.toNat := by
  have hinput := (CallArguments.bytes_of_decoded? h).1
  rw [drop_read] at hinput
  obtain ⟨place, count, hplace, hcount, -, hcontent⟩ := Body.bytes_read _ hinput
  have hoffset := memory.read_withCall_word selector ha data
    (show r.headWords[5]? = some 0xe0 from rfl)
  have hsize := memory.read_withCall_word selector ha data
    (show r.headWords[7]? = some r.argsSize from rfl)
  have hcapacity : 0x8000 < capacity 8 := by decide
  obtain rfl : place = 0xe0 := by
    rw [hplace, hoffset, ofBigEndian_word]
    decide
  obtain rfl : count = r.argsSize.toNat := by
    rw [hcount, hsize, ofBigEndian_word, Nat.mod_eq_of_lt (by omega)]
  exact hcontent

/-- The output that the hooks account is told of ends within the calldata. -/
theorem length_le_of_decoded? (hlt : data.length < 2 ^ 32) :
    0x104 + (r.argsSize.toNat + 31) / 32 * 32 + 0x20 + data.length ≤ size := by
  have houtput := (CallArguments.bytes_of_decoded? h).2
  rw [drop_read] at houtput
  obtain ⟨place, count, hplace, hcount, hle, -⟩ := Body.bytes_read _ houtput
  have hoffset := memory.read_withCall_word selector ha data
    (show r.headWords[6]? = some (BitVec.ofNat 256 (0x100 + (r.argsSize.toNat + 31) / 32 * 32)) from
      rfl)
  have hcapacity : 0x10000 < capacity 8 ∧ 2 ^ 32 < capacity 8 := by decide
  obtain rfl : place = 0x100 + (r.argsSize.toNat + 31) / 32 * 32 := by
    rw [hplace, hoffset, ofBigEndian_word, BitVec.toNat_ofNat, Nat.mod_eq_of_lt (by omega),
      Nat.mod_eq_of_lt (by omega)]
  have hsize := memory.read_withCall_size selector ha hlt
  rw [show 0x8000 + 4 + (0x100 + (r.argsSize.toNat + 31) / 32 * 32) =
    0x8104 + (r.argsSize.toNat + 31) / 32 * 32 by omega, hsize, natWord,
    ofBigEndian_bigEndian (by rw [show capacity 32 = 2 ^ 256 by decide]; omega),
    Nat.mod_eq_of_lt (by omega)] at hcount
  omega

end

/-- Input that reaches the saved size is written over. -/
theorem withCall_saved_size (ha : 0x1efc < r.argsSize.toNat) (ha' : r.argsSize.toNat ≤ 0x8000)
    (hlt : data.length < 2 ^ 32) : memory.withCall selector r data 0xa000 = 0 := by
  have hplace := r.toNat_outputPlace ha'
  have hsaved := memory.saves_withCallHead selector r (show 0xa020 + data.length < 2 ^ 256 by omega)
  rw [withCall, changesWithin_withOutput _ (by omega) _ (.inl (by omega))]
  generalize (memory.withSaved data).withCallHead selector r = head at hsaved
  have hword := congrArg (·[0]?) (read_of_load _ hsaved.size)
  simpa [read, wordBytes_ofNat (show data.length < 2 ^ 256 by omega), natWord_of_lt hlt] using hword

end

end Memory

/-! ## Which reports are exact -/

section
variable (selector : Selector) (opcode : Opcode) {o : CallOperands} (success : Bool) {data : Bytes}
  {m : Memory}

/-- The hooks account is told of a zero in the input where the saved size begins. -/
theorem ReportedExactly.input_eq_zero (h : ReportedExactly selector opcode o success data m)
    (ha : 0x1efc < o.argsSize.toNat) (ha' : o.argsSize.toNat ≤ 0x8000)
    (hlt : data.length < 2 ^ 32) :
    m (o.argsOffset.toNat + 0x1efc) = 0 := by
  have hinput := Memory.input_of_decoded? (m.withReply o data) selector
    (r := .made opcode o success) ha' h.told
  have hsize : (CallReport.made opcode o success).argsSize.toNat = o.argsSize.toNat := rfl
  have hzero := (m.withReply o data).withCall_saved_size selector (r := .made opcode o success)
    ha ha' hlt
  have hbyte := congrArg (·[0x1efc]?) hinput
  simpa [Memory.read, hsize, ha, hzero] using hbyte

/-- **A report that reaches what is saved is not exact**, at least if there are no zeros. -/
theorem not_reportedExactly (ha : o.argsSize.toNat ≤ 0x8000) (hlt : data.length < 2 ^ 32)
    (hm : ∀ address, m address ≠ 0) (hdata : ∀ byte ∈ data, byte ≠ 0)
    (h : ¬ Memory.Apart o.argsSize.toNat data.length) :
    ¬ ReportedExactly selector opcode o success data m := by
  intro hexact
  rw [Memory.Apart] at h
  rcases Nat.lt_or_ge 0x1efc o.argsSize.toNat with hfar | hnear
  · exact hm _ (hexact.input_eq_zero selector opcode success hfar ha hlt)
  · exact (m.withReply o data).not_saves selector (r := .made opcode o success) hnear (by omega) hlt
      hdata (show 0xa000 < 0x8104 + (o.argsSize.toNat + 31) / 32 * 32 + 0x20 + data.length by omega)
      hexact.saved

end

/-- **Reports are exact for a size of the input and a size of the output, whatever else there is,
just if they lie apart.** -/
theorem reportedExactly_iff (selector : Selector) (opcode : Opcode) {argsSize length : Nat}
    (ha : argsSize ≤ 0x8000) (hlt : length < 2 ^ 32) :
    (∀ (o : CallOperands) success data m, o.argsSize.toNat = argsSize →
      Below (o.argsOffset, o.argsSize) → Below (o.retOffset, o.retSize) → data.length = length →
      ReportedExactly selector opcode o success data m) ↔ Memory.Apart argsSize length := by
  refine ⟨fun hexact => ?_, fun h o success data m hargs _ hret hdata =>
    reportedExactly_of_apart selector opcode hret success m (hargs.symm ▸ hdata.symm ▸ h)⟩
  by_contra hover
  -- a call with its input at the start of a memory without zeros, which returns no zeros
  have hsize : (BitVec.ofNat 256 argsSize).toNat = argsSize := by
    rw [BitVec.toNat_ofNat, Nat.mod_eq_of_lt (by omega)]
  have hlength : (List.replicate length (0xff : UInt8)).length = length := List.length_replicate
  have hargs : Below (0, BitVec.ofNat 256 argsSize) :=
    .inr (by simpa [hsize] using ha)
  have hreport := hexact ⟨0, 0, 0, 0, BitVec.ofNat 256 argsSize, 0, 0⟩ true (.replicate length 0xff)
    (fun _ => 0xff) hsize hargs (.inl rfl) hlength
  refine not_reportedExactly selector opcode true ?_ ?_ (fun _ => by decide) ?_ ?_ hreport
  · exact hsize.symm ▸ ha
  · exact hlength.symm ▸ hlt
  · exact fun byte hbyte => List.eq_of_mem_replicate hbyte ▸ by decide
  · exact hsize.symm ▸ hlength.symm ▸ hover

namespace Patcher

/-- The replacement of a call calls the hooks account, with the memory in which the call is
reported, and with that memory reaches the next site. -/
def DelegatesMade {Ω : Type} (outside : Outside Ω) (origin : Address) (patcher : Patcher)
    (first : Scope) (code image : Bytes) (i : Nat) (opcode : Opcode) (o : CallOperands)
    (s : List Word) (m : Memory) (world : World Ω) (reply : Reply Ω) : Prop :=
  let after := m.withCallMade patcher.options.selectors.call opcode o reply.success reply.data
  ∃ buffer, Delegates outside origin patcher first code image
    (.running (expansionStart patcher first code i) ⟨o.stack opcode ++ s, m, world⟩)
    ((CallReport.made opcode o reply.success).calldataSize after) after ⟨buffer, reply.outer⟩
    fun later => .running (expansionStart patcher first code (i + 1))
      ⟨flag (reply.success = true) :: s, after, later⟩

/-- How an image reports calls. -/
structure ReportsCalls {Ω : Type} (outside : Outside Ω) (origin : Address) (patcher : Patcher)
    (first : Scope) (code image : Bytes) : Prop where
  /-- The hooks account is called once a call was made. -/
  delegates : ∀ i inst (o : CallOperands) s m world reply,
    (disassemble first code)[i]? = some inst → inst.opcode.isCall →
    (inst.opcode.hasValue = false → o.value = 0) → Below (o.argsOffset, o.argsSize) →
    reply = outside.replyTo inst.opcode o m world.outer →
    DelegatesMade outside origin patcher first code image i inst.opcode o s m world reply
  /-- For a size of the input and a size of the output, that is exact in every memory just if the
  report lies apart from what is saved. -/
  exact_iff : ∀ opcode argsSize length, argsSize ≤ Environment.scratchMemLoc → length < 2 ^ 32 →
    ((∀ (o : CallOperands) success data m, o.argsSize.toNat = argsSize →
      Below (o.argsOffset, o.argsSize) → Below (o.retOffset, o.retSize) → data.length = length →
      ReportedExactly patcher.options.selectors.call opcode o success data m) ↔
        Memory.Apart argsSize length)

section
variable {Ω : Type} (outside : Outside Ω) (origin : Address) {patcher : Patcher}
  {base first : Scope} {code image : Bytes} {table : Table} {i : Nat} {inst : Instruction}

/-- The replacement of a call calls the hooks account, on the way to the next site. -/
theorem delegates_made (hp : patcher.Assembled base)
    (w : Written (patcher.leading code ++ patcher.instrumented first code) table image)
    (hi : (disassemble first code)[i]? = some inst) (hsize : image.length ≤ 2 ^ 256)
    (hl : patcher.options.logsOnly = false) (hc : inst.opcode.isCall) (o : CallOperands)
    (hv : inst.opcode.hasValue = false → o.value = 0) (s : List Word) (m : Memory) (world : World Ω)
    (hb : Below (o.argsOffset, o.argsSize)) {reply : Reply Ω}
    (hr : reply = outside.replyTo inst.opcode o m world.outer) :
    DelegatesMade outside origin patcher first code image i inst.opcode o s m world reply := by
  obtain ⟨buffer, back, hcalls, hoff, hleave⟩ :=
    delegates_callSite outside origin hp w hi hsize hl hc o hv s m world
      (hr.trans (outside.replyTo_withInput inst.opcode hb m world.outer).symm) rfl
  exact ⟨buffer, hcalls.append (fun _ => hoff) fun _ => hleave _⟩

/-- **An image reports calls exactly, as long as reports do not reach what is saved.** -/
theorem reportsCalls_of_patchFrom {options : PatchOptions}
    (hp : Patcher.new options base = .ok patcher) (hc : code ≠ [])
    (h : patcher.patchFrom first code = .ok image) (hsize : image.length ≤ 2 ^ 256)
    (hl : options.logsOnly = false) : ReportsCalls outside origin patcher first code image := by
  obtain ⟨ho, hp⟩ := assembled_of_new hp
  obtain ⟨table, w⟩ := patchFrom_ok hc h
  rw [← ho] at hl
  exact {
    delegates := fun i inst o s m world reply hi hcall hv hb hr =>
      delegates_made outside origin hp w hi hsize hl hcall o hv s m world hb hr
    exact_iff := fun opcode _ _ ha hlt => reportedExactly_iff _ opcode ha hlt }

end

/-- An image that makes a call. Three bytes of input and 33 bytes of output are reported exactly. -/
theorem reportsCalls_three : ∃ patcher image,
    Patcher.new {} ⟨0⟩ = .ok patcher ∧ patcher.patch [0xf1, 0x00] = .ok image ∧
    image.length ≤ 2 ^ 256 ∧
    ReportsCalls (.recording 0x2a) 0 patcher firstScope [0xf1, 0x00] image ∧
    ∀ success data m, data.length = 33 → ReportedExactly patcher.options.selectors.call .call
      ⟨5, 9, 0, 0x40, 3, 0, 33⟩ success data m := by
  obtain ⟨patcher, image, hp, himg, hl⟩ := exists_image_of_length ⟨0⟩ firstScope [0xf1, 0x00]
    {} (by decide) (by simp [AddressMap.empty]) (by decide)
  have hsize : image.length ≤ 2 ^ 256 := Nat.le_trans hl (by decide)
  have hreports := reportsCalls_of_patchFrom (.recording 0x2a) 0 hp (by decide) himg hsize rfl
  refine ⟨patcher, image, hp, himg, hsize, hreports, fun success data m hdata => ?_⟩
  exact (hreports.exact_iff .call 3 33 (by decide) (by decide)).2 (.inl (by decide)) _ success
    data m rfl (.inr (by decide)) (.inr (by decide)) hdata

/-- A call with 0x1ef0 bytes of input, which returns one byte: what the hooks account is told is cut
short, and the size that is saved is zero. -/
theorem misreports_call : ∃ patcher image,
    Patcher.new {} ⟨0⟩ = .ok patcher ∧ patcher.patch [0xf1, 0x00] = .ok image ∧
    ∀ m, ∃ after data gas calldata, Reaches (((Outside.recording 0x2a).machine 0).step image)
      (.running (expansionStart patcher firstScope [0xf1, 0x00] 0)
        ⟨[5, 9, 3, 0, 0x1ef0, 0, 0], m, ⟨[], []⟩⟩)
      (.running (expansionStart patcher firstScope [0xf1, 0x00] 1) ⟨[1], after,
        ⟨data, [⟨.call, 5, 9, 3, m.read 0 0x1ef0⟩,
          ⟨.delegatecall, gas, patcher.options.hooksAddress.setWidth 256, 0, calldata⟩]⟩⟩) ∧
    decoded? patcher.options.selectors.call CallArguments.read calldata = none ∧
    after.load 0xa000#256 = 0 := by
  obtain ⟨patcher, image, table, hp, himg, hsize, ho, ha, w⟩ := exists_written {}
    [0xf1, 0x00] (by decide) (by decide) rfl
  refine ⟨patcher, image, hp, himg, fun m => ?_⟩
  let o : CallOperands := ⟨5, 9, 3, 0, 0x1ef0, 0, 0⟩
  let r := CallReport.made .call o true
  let after := m.withCallMade patcher.options.selectors.call .call o true [0x2a]
  obtain ⟨buffer, position, gas, below, -, hrun, hreply⟩ := delegates_made (.recording 0x2a) 0 ha w
    (i := 0) rfl hsize (by rw [ho]) rfl o (fun h => absurd h (by decide)) [] m ⟨[], []⟩
    (.inr (by decide)) rfl
  have hzero : after.load 0xa000#256 = 0 :=
    (m.withReply o [0x2a]).load_withCall_eq_zero _ (r := r) (by decide) (by decide)
  have hcount : (r.calldataSize after).toNat = 0x2024 := by
    rw [CallReport.calldataSize, hzero]
    decide
  refine ⟨after, _, gas, after.read 0x8000 (r.calldataSize after).toNat,
    hrun.1.reaches₁.to_reflTransGen.trans ((hreply _ rfl).1 rfl).reaches₁.to_reflTransGen,
    ?_, hzero⟩
  refine Option.eq_none_iff_forall_ne_some.2 fun arguments h => ?_
  have hle := (m.withReply o [0x2a]).length_le_of_decoded? _ (r := r) (by decide) h (by decide)
  rw [hcount] at hle
  exact absurd hle (by decide)

/-- Behind such a call RETURNDATASIZE pushes zero. -/
theorem loses_reported_data : PushesSize {}
    [0x5f, 0x5f, 0x61, 0x1e, 0xf0, 0x5f, 0x5f, 0x5f, 0x5f, 0xf1, 0x3d, 0x00] 8 [0x2a] 0 := by
  obtain ⟨patcher, image, table, hp, himg, hsize, ho, ha, w⟩ := exists_written {}
    [0x5f, 0x5f, 0x61, 0x1e, 0xf0, 0x5f, 0x5f, 0x5f, 0x5f, 0xf1, 0x3d, 0x00]
    (by decide) (by decide) rfl
  let o : CallOperands := ⟨0, 0, 0, 0, 0x1ef0, 0, 0⟩
  let r := CallReport.made .call o true
  -- the operands of the call, the size of its input among them
  have hentry := follows_entry (.answering 0x2a) 0 ha w hsize ()
  have h₂ := (hentry.push _ _ ha w (i := 0) rfl rfl).push _ _ ha w (i := 1) rfl rfl
  have h₄ := (h₂.push _ _ ha w (i := 2) rfl rfl).push _ _ ha w (i := 3) rfl rfl
  have h₆ := (h₄.push _ _ ha w (i := 4) rfl rfl).push _ _ ha w (i := 5) rfl rfl
  have h₇ := h₆.push _ _ ha w (i := 6) rfl rfl
  obtain ⟨back, hleave, gas, hgas⟩ := reports_call (.answering 0x2a) 0 ha w (i := 7) rfl hsize
    (by rw [ho]) rfl o (fun h => absurd h (by decide)) [] (fun _ => 0) ⟨[], ()⟩ rfl rfl
  have h₈ := h₇.passes_site rfl ⟨.inr (by decide), .inl rfl⟩
    (((hgas _ rfl).1 rfl).passes (hleave _))
  exact pushesSize_of_follows hp himg w rfl rfl h₈
    (Memory.load_withCall_eq_zero _ _ (r := r) (by decide) (by decide))

end Patcher

end EvmProbe
