import EvmProbe.Proofs.Program.Layout
import EvmProbe.Proofs.Program.Linking

/-!
What encoding writes.

`Instruction.encoded?` is what an instruction is encoded as, apart from any buffer.

* `writeInstruction_ok`: an instruction is written exactly if it has an encoding.
* `encodeInto_contiguous`: contiguous code is written as the encodings of its instructions, one
  behind the other.
-/

namespace EvmProbe

namespace Instruction

/-- The bytes of an operand in the width of an opcode. -/
def immediate? (inst : Instruction) : Option Bytes :=
  inst.operand.bind fun operand => (operand.encode inst.opcode.width).toOption

/-- What an instruction is encoded as. -/
def encoded? (inst : Instruction) : Option Bytes :=
  match inst.opcode.toByte? with
  | none =>
    match inst.operand with
    | some (.bytes content) => some content
    | _ => none
  | some byte => if inst.opcode.width = 0 then some [byte] else inst.immediate?.map (byte :: ·)

/-- What an instruction with an encoding is encoded as. -/
def encoded (inst : Instruction) : Bytes := inst.encoded?.getD []

/-- An opcode without a byte is a run of raw bytes. -/
theorem toByte?_eq_none {op : Opcode} : op.toByte? = none ↔ op = .data := by
  cases op <;> simp [Opcode.toByte?]

theorem length_immediate? {inst : Instruction} {bytes : Bytes} (h : inst.immediate? = some bytes) :
    bytes.length = inst.opcode.width := by
  obtain ⟨operand, -, ho⟩ := Option.bind_eq_some_iff.1 h
  cases he : operand.encode inst.opcode.width with
  | error cause => simp [he, Except.toOption] at ho
  | ok content =>
    obtain rfl : content = bytes := by simpa [he, Except.toOption] using ho
    exact Operand.length_encode he

theorem size_of_toByte? {inst : Instruction} {byte : UInt8} (h : inst.opcode.toByte? = some byte) :
    inst.size = 1 + inst.opcode.width := by
  have hd : inst.opcode ≠ .data := by rintro hd; simp [hd, Opcode.toByte?] at h
  unfold size
  split
  · exact absurd ‹_› hd
  · unfold Opcode.size
    split
    · exact absurd ‹_› hd
    · rfl

/-- An opcode of the machine takes up its byte and the immediate bytes it asks for. -/
theorem size_of_isSome {inst : Instruction} (h : inst.opcode.toByte?.isSome) :
    inst.size = 1 + inst.opcode.width := by
  obtain ⟨byte, hb⟩ := Option.isSome_iff_exists.1 h
  exact size_of_toByte? hb

theorem size_of_jumpdest {inst : Instruction} (h : inst.opcode = .jumpdest) : inst.size = 1 := by
  rw [size_of_isSome (by rw [h]; rfl), h]
  rfl

theorem size_of_push3 {inst : Instruction} (h : inst.opcode = .pushN 3) : inst.size = 4 := by
  rw [size_of_isSome (by rw [h]; rfl), h]
  rfl

/-- An encoding has the size of its instruction. -/
theorem length_encoded? {inst : Instruction} {bytes : Bytes} (h : inst.encoded? = some bytes) :
    bytes.length = inst.size := by
  unfold encoded? at h
  split at h
  · next hb =>
    split at h
    · next content ho =>
      cases h
      simp [size, toByte?_eq_none.1 hb, ho]
    · cases h
  · next byte hb =>
    rw [size_of_toByte? hb]
    split at h
    · next hw => cases h; simp [hw]
    · obtain ⟨immediate, hi, rfl⟩ := Option.map_eq_some_iff.1 h
      rw [List.length_cons, length_immediate? hi, Nat.add_comm]

/-- An opcode of the machine is encoded as its byte, with the immediate bytes it asks for. -/
theorem exists_encoded {inst : Instruction} {byte : UInt8} (hb : inst.opcode.toByte? = some byte)
    (h : inst.encoded?.isSome) : ∃ immediate, inst.encoded = byte :: immediate ∧
      immediate.length = Opcode.widthOfByte byte := by
  obtain ⟨bytes, he⟩ := Option.isSome_iff_exists.1 h
  have hw : inst.opcode.width = Opcode.widthOfByte byte := by rw [Opcode.width, hb]
  rw [encoded, he, Option.getD_some, ← hw]
  rw [encoded?, hb] at he
  dsimp only at he
  split at he
  · next h0 =>
    cases he
    exact ⟨[], rfl, by simp [h0]⟩
  · obtain ⟨immediate, hi, rfl⟩ := Option.map_eq_some_iff.1 he
    exact ⟨immediate, rfl, length_immediate? hi⟩

theorem length_encoded {inst : Instruction} (h : inst.encoded?.isSome) :
    inst.encoded.length = inst.size := by
  obtain ⟨bytes, he⟩ := Option.isSome_iff_exists.1 h
  rw [encoded, he, Option.getD_some, length_encoded? he]

/-- A number is encoded exactly if it fits the width of the opcode. -/
theorem encoded?_int {inst : Instruction} {byte : UInt8} {value : Word}
    (hb : inst.opcode.toByte? = some byte) (hw : inst.opcode.width ≠ 0)
    (ho : inst.operand = some (.int value)) : inst.encoded? =
      if value.toNat < capacity inst.opcode.width then
        some (byte :: bigEndian inst.opcode.width value.toNat)
      else none := by
  unfold encoded? immediate?
  rw [hb, ho]
  dsimp only [Option.bind_some]
  rw [if_neg hw, Operand.encode]
  split <;> rfl

/-- A number is pushed in three bytes exactly if it fits. -/
theorem encoded?_push3 {inst : Instruction} {value : Word} (h : inst.opcode = .pushN 3)
    (ho : inst.operand = some (.int value)) : inst.encoded? =
      if value.toNat < capacity 3 then some (0x62 :: bigEndian 3 value.toNat) else none := by
  have hb : inst.opcode.toByte? = some 0x62 := by
    rw [h]
    rfl
  rw [encoded?_int hb (by rw [h]; decide) ho, h]
  rfl

/-- The encodings of code take up its size. -/
theorem length_flatMap_encoded {code : List Instruction} (h : ∀ inst ∈ code, inst.encoded?.isSome) :
    (code.flatMap encoded).length = codeSize code := by
  induction code with
  | nil => rfl
  | cons inst code ih =>
    rw [List.flatMap_cons, List.length_append, length_encoded (h inst (by simp)),
      ih fun i hi => h i (by simp [hi]), codeSize_cons]

/-- The encoding does not depend on the offset. -/
@[simp] theorem encoded?_place (inst : Instruction) (offset : Nat) :
    (inst.place offset).encoded? = inst.encoded? := rfl

end Instruction

namespace Encoding

/-! ## One instruction -/

/-- Bytes with those from `position` on replaced. -/
def overwrite (bytes : Bytes) (position : Nat) (content : Bytes) : Bytes :=
  bytes.take position ++ content ++ bytes.drop (position + content.length)

@[simp] theorem overwrite_nil (bytes : Bytes) (position : Nat) :
    overwrite bytes position [] = bytes := by
  simp [overwrite]

/-- Contents written one behind the other are written like their concatenation. -/
theorem overwrite_overwrite {bytes first : Bytes} {position : Nat} (second : Bytes)
    (h : position ≤ bytes.length) : overwrite (overwrite bytes position first)
      (position + first.length) second = overwrite bytes position (first ++ second) := by
  have hl : (bytes.take position ++ first).length = position + first.length := by
    simp [Nat.min_eq_left h]
  rw [overwrite, overwrite, List.take_left' hl, ← hl, List.drop_append, hl,
    List.drop_of_length_le (by omega), Nat.add_sub_cancel_left, List.drop_drop, overwrite,
    List.length_append]
  simp [Nat.add_assoc]

/-- Contents as long as the bytes replace them all. -/
theorem overwrite_zero {bytes content : Bytes} (h : content.length = bytes.length) :
    overwrite bytes 0 content = content := by
  simp [overwrite, h]

@[simp] theorem size_write (buffer : Array UInt8) (position : Nat) (bytes : Bytes) :
    (write buffer position bytes).size = buffer.size := by
  induction bytes generalizing buffer position with
  | nil => rfl
  | cons byte rest ih => rw [write, ih, Array.size_setIfInBounds]

/-- Bytes that fit replace those of the buffer. -/
theorem toList_write {buffer : Array UInt8} {position : Nat} {bytes : Bytes}
    (h : position + bytes.length ≤ buffer.size) :
    (write buffer position bytes).toList = overwrite buffer.toList position bytes := by
  induction bytes generalizing buffer position with
  | nil => simp [write]
  | cons byte rest ih =>
    rw [List.length_cons] at h
    have hset : (buffer.setIfInBounds position byte).toList =
        overwrite buffer.toList position [byte] := by
      rw [Array.toList_setIfInBounds, List.set_eq_take_append_cons_drop, if_pos (by simp; omega)]
      simp [overwrite]
    rw [write, ih (by simp; omega), hset]
    exact overwrite_overwrite rest (by simp; omega)

theorem operandBytes_ok {inst : Instruction} {offset : Nat} {bytes : Bytes} :
    operandBytes inst offset = .ok bytes ↔ inst.immediate? = some bytes := by
  unfold operandBytes Instruction.immediate?
  cases inst.operand with
  | none => simp
  | some operand => cases h : operand.encode inst.opcode.width <;> simp [h, Except.toOption]

/-- **An instruction is written exactly if it has an encoding**, and then as that. -/
theorem writeInstruction_ok {buffer written : Array UInt8} {position offset : Nat}
    {inst : Instruction} : writeInstruction buffer position offset inst = (written, .ok ()) ↔
      ∃ bytes, inst.encoded? = some bytes ∧ written = write buffer position bytes := by
  unfold writeInstruction Instruction.encoded?
  cases inst.opcode.toByte? with
  | none =>
    dsimp only
    rcases inst.operand with _ | content | _ | _
    · simp
    · simp [eq_comm]
    · simp
    · simp
  | some byte =>
    dsimp only
    by_cases hw : inst.opcode.width = 0
    · simp [hw, eq_comm]
    · rw [if_neg hw, if_neg hw]
      cases ho : operandBytes inst offset with
      | ok bytes => simp [operandBytes_ok.1 ho, write, eq_comm]
      | error cause =>
        have hn : inst.immediate? = none := by
          cases hi : inst.immediate? with
          | none => rfl
          | some bytes => rw [operandBytes_ok.2 hi] at ho; cases ho
        simp [hn]

/-- A number that cannot be written does not fit the width of the opcode. -/
theorem writeInstruction_error {buffer : Array UInt8} {position offset : Nat} {inst : Instruction}
    {value : Word} {cause : Error} (hb : inst.opcode.toByte?.isSome) (hw : inst.opcode.width ≠ 0)
    (ho : inst.operand = some (.int value))
    (h : (writeInstruction buffer position offset inst).2 = .error cause) :
    capacity inst.opcode.width ≤ value.toNat ∧
      cause = .operand (.tooWide (.int value) inst.opcode.width) := by
  obtain ⟨byte, hb⟩ := Option.isSome_iff_exists.1 hb
  rw [writeInstruction, hb] at h
  dsimp only at h
  rw [if_neg hw, operandBytes, ho] at h
  dsimp only [Operand.encode] at h
  by_cases hv : value.toNat < capacity inst.opcode.width
  · rw [if_pos hv] at h
    cases h
  · rw [if_neg hv] at h
    exact ⟨Nat.le_of_not_lt hv, (Except.error.inj h).symm⟩

theorem encodeOne_ok {base offset : Nat} {buffer written : Array UInt8} {inst : Instruction}
    (ho : inst.offset = some offset) : encodeOne base buffer inst = (written, .ok ()) ↔
      base ≤ offset ∧ offset - base + inst.size ≤ buffer.size ∧
        ∃ bytes, inst.encoded? = some bytes ∧ written = write buffer (offset - base) bytes := by
  rw [encodeOne, ho]
  dsimp only
  split_ifs with hb hs hend
  · simp; omega
  · simp; omega
  · simp; omega
  · rw [writeInstruction_ok]
    exact ⟨fun h => ⟨by omega, by omega, h⟩, fun h => h.2.2⟩

/-- Code behind other code is written if that is. -/
theorem encodeInto_append (base : Nat) (buffer : Array UInt8) (a b : List Instruction) :
    encodeInto base buffer (a ++ b) =
      match encodeInto base buffer a with
      | (buffer, .ok ()) => encodeInto base buffer b
      | (buffer, .error cause) => (buffer, .error cause) := by
  induction a generalizing buffer with
  | nil => rfl
  | cons inst a ih =>
    rw [List.cons_append, encodeInto, encodeInto]
    split
    · exact ih _
    · rfl

/-! ## Contiguous code -/

/-- **Contiguous code is written as the encodings of its instructions, one behind the other.** -/
theorem encodeInto_contiguous {code : List Instruction} {start : Nat} {buffer written : Array UInt8}
    (hc : Contiguous start code) (hs : start + codeSize code ≤ buffer.size) :
    encodeInto 0 buffer code = (written, .ok ()) ↔ (∀ inst ∈ code, inst.encoded?.isSome) ∧
      written.toList = overwrite buffer.toList start (code.flatMap Instruction.encoded) := by
  induction code generalizing start buffer with
  | nil =>
    rw [encodeInto, Prod.mk.injEq, eq_comm]
    simp [Array.toList_inj]
  | cons inst code ih =>
    obtain ⟨ho, hc⟩ := hc
    rw [codeSize_cons] at hs
    rw [encodeInto]
    have h1 (middle : Array UInt8) : encodeOne 0 buffer inst = (middle, .ok ()) ↔
        ∃ bytes, inst.encoded? = some bytes ∧ middle = write buffer start bytes := by
      rw [encodeOne_ok ho, Nat.sub_zero]
      exact ⟨fun h => h.2.2, fun h => ⟨by omega, by omega, h⟩⟩
    split
    · next middle hm =>
      obtain ⟨bytes, he, rfl⟩ := (h1 middle).1 hm
      have hl := Instruction.length_encoded? he
      have hb : inst.encoded = bytes := by rw [Instruction.encoded, he, Option.getD_some]
      rw [ih hc (by rw [size_write]; omega), toList_write (by omega), ← hl,
        overwrite_overwrite _ (by simp; omega), List.flatMap_cons, hb]
      simp [he]
    · next middle cause hm =>
      simp only [Prod.mk.injEq, reduceCtorEq, and_false, false_iff, not_and]
      intro hall
      obtain ⟨bytes, he⟩ := Option.isSome_iff_exists.1 (hall inst (by simp))
      rw [(h1 _).2 ⟨bytes, he, rfl⟩] at hm
      simp at hm

theorem exists_encodeInto {code : List Instruction} {start : Nat} (buffer : Array UInt8)
    (hc : Contiguous start code) (hs : start + codeSize code ≤ buffer.size)
    (h : ∀ inst ∈ code, inst.encoded?.isSome) :
    ∃ written, encodeInto 0 buffer code = (written, .ok ()) :=
  ⟨(overwrite _ start _).toArray, (encodeInto_contiguous hc hs).2 ⟨h, rfl⟩⟩

/-- **If contiguous code cannot be written**, then because of an instruction without an encoding. -/
theorem exists_of_encodeInto_eq_error {code : List Instruction} {start : Nat}
    {buffer written : Array UInt8} {cause : Error} (hc : Contiguous start code)
    (hs : start + codeSize code ≤ buffer.size)
    (h : encodeInto 0 buffer code = (written, .error cause)) :
    ∃ inst ∈ code, inst.encoded? = none ∧ ∃ buffer position offset,
      (writeInstruction buffer position offset inst).2 = .error cause := by
  induction code generalizing start buffer with
  | nil => cases h
  | cons inst code ih =>
    obtain ⟨ho, hc⟩ := hc
    rw [codeSize_cons] at hs
    rw [encodeInto, encodeOne, ho] at h
    dsimp only at h
    rw [if_neg (Nat.not_lt_zero _), if_neg (by omega)] at h
    cases hw : writeInstruction buffer (start - 0) start inst with
    | mk middle result =>
      rw [hw] at h
      cases result with
      | ok _ =>
        obtain ⟨bytes, -, rfl⟩ := writeInstruction_ok.1 hw
        obtain ⟨i, hi, hfault⟩ := ih hc (by rw [size_write]; omega) h
        exact ⟨i, List.mem_cons_of_mem _ hi, hfault⟩
      | error cause' =>
        cases h
        refine ⟨inst, List.mem_cons_self, ?_, buffer, start - 0, start, by rw [hw]⟩
        refine Option.eq_none_iff_forall_not_mem.2 fun bytes he => ?_
        rw [writeInstruction_ok.2 ⟨bytes, he, rfl⟩] at hw
        cases hw

end Encoding

end EvmProbe
