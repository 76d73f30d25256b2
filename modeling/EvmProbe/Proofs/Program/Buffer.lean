import EvmProbe.Proofs.Bytes
import EvmProbe.Proofs.Program.Encoding

/-!
What is left in a buffer that programs are written into.

`Instruction.EncodedAs` says what the bytes of an instruction are, and `Unwritable` why it has no
place in a buffer.  `encodeOn` writes as a build does, with numbers of 64 bits and with every index
and every length checked.

* `encodeOn_eq`, `encodeOn_eq_none_iff`: a build writes what `encodeInto` does, and panics only at
  an end that has more than 64 bits.
* `encodeInto_ok_iff`, `exists_first_unwritable`: code is written up to the first instruction that
  is unwritable.
* `getElem?_encodeInto`, `ChangesOnly`: bytes that no instruction covers stay as they are, also if
  writing fails.
-/

namespace EvmProbe

namespace Instruction

/-! ## Encodings -/

/-- The bytes of an instruction. -/
inductive EncodedAs (inst : Instruction) : Bytes → Prop where
  /-- Raw bytes stay as they are. -/
  | data {content : Bytes} (hop : inst.opcode = .data) (ho : inst.operand = some (.bytes content)) :
      EncodedAs inst content
  /-- An opcode without immediate bytes is its byte, whatever its operand. -/
  | plain {byte : UInt8} (hb : inst.opcode.toByte? = some byte) (hp : inst.opcode.isPush = false) :
      EncodedAs inst [byte]
  /-- Bytes stand behind their opcode, with zeros in front up to its width. -/
  | bytes {byte : UInt8} {zeros : Nat} {content : Bytes} (hb : inst.opcode.toByte? = some byte)
      (hp : inst.opcode.isPush) (ho : inst.operand = some (.bytes content))
      (hl : zeros + content.length = inst.opcode.width) :
      EncodedAs inst (byte :: (List.replicate zeros 0 ++ content))
  /-- A number stands behind its opcode in as many bytes as it asks for, the most significant byte
  first. -/
  | int {byte : UInt8} {value : Word} {immediate : Bytes} (hb : inst.opcode.toByte? = some byte)
      (hp : inst.opcode.isPush) (ho : inst.operand = some (.int value))
      (hl : immediate.length = inst.opcode.width) (hv : ofBigEndian immediate = value.toNat) :
      EncodedAs inst (byte :: immediate)

/-- Why an instruction has no bytes. -/
inductive Unencodable (inst : Instruction) : Prop where
  /-- A push has no operand. -/
  | noOperand (hp : inst.opcode.isPush) (ho : inst.operand = none)
  /-- The label that is pushed was not linked. -/
  | unresolved {label : Label} (hp : inst.opcode.isPush) (ho : inst.operand = some (.label label))
  /-- The number that is pushed needs more bytes. -/
  | tooLarge {value : Word} (hp : inst.opcode.isPush) (ho : inst.operand = some (.int value))
      (h : capacity inst.opcode.width ≤ value.toNat)
  /-- There are more bytes than the push takes. -/
  | tooLong {content : Bytes} (hp : inst.opcode.isPush) (ho : inst.operand = some (.bytes content))
      (h : inst.opcode.width < content.length)
  /-- Raw bytes are missing. -/
  | noBytes (hop : inst.opcode = .data) (h : ∀ content, inst.operand ≠ some (.bytes content))

variable {inst : Instruction}

theorem isPush_iff {op : Opcode} : op.isPush = true ↔ op.width ≠ 0 := by
  simp [Opcode.isPush, Nat.pos_iff_ne_zero]

theorem isPush_eq_false_iff {op : Opcode} : op.isPush = false ↔ op.width = 0 := by
  simp [Opcode.isPush]

/-- A push has a byte. -/
theorem exists_toByte?_of_isPush {op : Opcode} (h : op.isPush) :
    ∃ byte, op.toByte? = some byte := by
  cases hb : op.toByte? with
  | none =>
    rw [toByte?_eq_none.1 hb] at h
    cases h
  | some byte => exact ⟨byte, rfl⟩

theorem encoded?_data {content : Bytes} (hop : inst.opcode = .data)
    (ho : inst.operand = some (.bytes content)) : inst.encoded? = some content := by
  rw [encoded?, toByte?_eq_none.2 hop, ho]

theorem encoded?_plain {byte : UInt8} (hb : inst.opcode.toByte? = some byte)
    (hp : inst.opcode.isPush = false) : inst.encoded? = some [byte] := by
  rw [encoded?, hb]
  exact if_pos (isPush_eq_false_iff.1 hp)

/-- A push is its byte with the bytes of its operand behind. -/
theorem encoded?_push {byte : UInt8} (hb : inst.opcode.toByte? = some byte)
    (hp : inst.opcode.isPush) : inst.encoded? = inst.immediate?.map (byte :: ·) := by
  rw [encoded?, hb]
  exact if_neg (isPush_iff.1 hp)

/-- Bytes are pushed exactly if they fit. -/
theorem immediate?_bytes {content : Bytes} (ho : inst.operand = some (.bytes content)) :
    inst.immediate? = if content.length ≤ inst.opcode.width then
      some (padLeft inst.opcode.width content) else none := by
  rw [immediate?, ho, Option.bind_some, Operand.encode]
  split <;> rfl

/-- A number is pushed exactly if it fits. -/
theorem immediate?_int {value : Word} (ho : inst.operand = some (.int value)) :
    inst.immediate? = if value.toNat < capacity inst.opcode.width then
      some (bigEndian inst.opcode.width value.toNat) else none := by
  rw [immediate?, ho, Option.bind_some, Operand.encode]
  split <;> rfl

theorem EncodedAs.encoded? {bytes : Bytes} (h : inst.EncodedAs bytes) :
    inst.encoded? = some bytes := by
  cases h with
  | data hop ho => exact encoded?_data hop ho
  | plain hb hp => exact encoded?_plain hb hp
  | @bytes byte zeros content hb hp ho hl =>
    have hzeros : inst.opcode.width - content.length = zeros := by omega
    rw [encoded?_push hb hp, immediate?_bytes ho, if_pos (by omega), padLeft, hzeros]
    rfl
  | @int byte value immediate hb hp ho hl hv =>
    have hlt := ofBigEndian_lt immediate
    rw [hl, hv] at hlt
    rw [encoded?_push hb hp, immediate?_int ho, if_pos hlt, ← hv, bigEndian_ofBigEndian (by omega),
      padLeft, hl, Nat.sub_self]
    rfl

/-- **Every instruction has bytes, or a reason why it has none.** -/
theorem encodedAs_or_unencodable (inst : Instruction) :
    (∃ bytes, inst.EncodedAs bytes) ∨ inst.Unencodable := by
  cases hb : inst.opcode.toByte? with
  | none =>
    have hop := toByte?_eq_none.1 hb
    by_cases h : ∃ content, inst.operand = some (.bytes content)
    · obtain ⟨content, ho⟩ := h
      exact .inl ⟨content, .data hop ho⟩
    · exact .inr (.noBytes hop fun content ho => h ⟨content, ho⟩)
  | some byte =>
    cases hp : inst.opcode.isPush with
    | false => exact .inl ⟨_, .plain hb hp⟩
    | true =>
      rcases ho : inst.operand with _ | content | value | label
      · exact .inr (.noOperand hp ho)
      · by_cases hl : content.length ≤ inst.opcode.width
        · exact .inl ⟨_, .bytes hb hp ho (Nat.sub_add_cancel hl)⟩
        · exact .inr (.tooLong hp ho (by omega))
      · by_cases hv : value.toNat < capacity inst.opcode.width
        · exact .inl ⟨_, .int hb hp ho (length_bigEndian _ _) (ofBigEndian_bigEndian hv)⟩
        · exact .inr (.tooLarge hp ho (Nat.le_of_not_lt hv))
      · exact .inr (.unresolved hp ho)

theorem Unencodable.encoded? (h : inst.Unencodable) : inst.encoded? = none := by
  have hpush (hp : inst.opcode.isPush) (hi : inst.immediate? = none) : inst.encoded? = none := by
    obtain ⟨byte, hb⟩ := exists_toByte?_of_isPush hp
    rw [encoded?_push hb hp, hi, Option.map_none]
  cases h with
  | noOperand hp ho => exact hpush hp (by rw [immediate?, ho, Option.bind_none])
  | unresolved hp ho => exact hpush hp (by rw [immediate?, ho]; rfl)
  | tooLarge hp ho h => exact hpush hp (by rw [immediate?_int ho, if_neg (Nat.not_lt.2 h)])
  | tooLong hp ho h => exact hpush hp (by rw [immediate?_bytes ho, if_neg (Nat.not_le.2 h)])
  | noBytes hop h =>
    rw [Instruction.encoded?, toByte?_eq_none.2 hop]
    dsimp only
    split
    · next content ho => exact absurd ho (h content)
    · rfl

theorem encodedAs_iff {bytes : Bytes} : inst.EncodedAs bytes ↔ inst.encoded? = some bytes := by
  constructor
  · exact EncodedAs.encoded?
  · intro h
    rcases encodedAs_or_unencodable inst with ⟨other, ho⟩ | hu
    · rw [ho.encoded?, Option.some.injEq] at h
      exact h ▸ ho
    · rw [hu.encoded?] at h
      cases h

theorem unencodable_iff : inst.Unencodable ↔ inst.encoded? = none := by
  constructor
  · exact Unencodable.encoded?
  · intro h
    rcases encodedAs_or_unencodable inst with ⟨bytes, hb⟩ | hu
    · rw [hb.encoded?] at h
      cases h
    · exact hu

/-- An instruction covers the position of a buffer that holds the bytes from `base` on. -/
def Covers (base : Nat) (inst : Instruction) (position : Nat) : Prop :=
  ∃ offset, inst.offset = some offset ∧ base ≤ offset ∧ offset - base ≤ position ∧
    position < offset - base + inst.size

end Instruction

namespace Encoding

open Instruction

/-- Why an instruction cannot be written into a buffer that holds `size` bytes from `base` on. -/
inductive Unwritable (base size : Nat) (inst : Instruction) : Prop where
  /-- It was not laid out. -/
  | notPlaced (ho : inst.offset = none)
  /-- It lies before the buffer. -/
  | before {offset : Nat} (ho : inst.offset = some offset) (h : offset < base)
  /-- It ends behind the buffer. -/
  | behind {offset : Nat} (ho : inst.offset = some offset) (h : base + size < offset + inst.size)
  /-- It has no bytes. -/
  | unencodable (h : inst.Unencodable)

/-! ## Success and failure -/

theorem not_unwritable_iff {base size : Nat} {inst : Instruction} :
    ¬ Unwritable base size inst ↔ ∃ offset bytes, inst.offset = some offset ∧ base ≤ offset ∧
      offset - base + inst.size ≤ size ∧ inst.encoded? = some bytes := by
  constructor
  · intro h
    cases ho : inst.offset with
    | none => exact absurd (.notPlaced ho) h
    | some offset =>
      have hbase : base ≤ offset := by
        by_contra hb
        exact h (.before ho (by omega))
      have hsize : offset - base + inst.size ≤ size := by
        by_contra hs
        exact h (.behind ho (by omega))
      obtain ⟨bytes, hbytes⟩ := (encodedAs_or_unencodable inst).resolve_right fun hu =>
        h (.unencodable hu)
      exact ⟨offset, bytes, rfl, hbase, hsize, hbytes.encoded?⟩
  · rintro ⟨offset, bytes, ho, hbase, hsize, hbytes⟩ h
    cases h with
    | notPlaced hn => simp [ho] at hn
    | before hn hlt =>
      cases ho.symm.trans hn
      omega
    | behind hn hlt =>
      cases ho.symm.trans hn
      omega
    | unencodable hu => simp [hu.encoded?] at hbytes

/-- **An instruction is written exactly if nothing speaks against it.** -/
theorem encodeOne_ok_iff {base : Nat} {buffer : Array UInt8} {inst : Instruction} :
    (encodeOne base buffer inst).2 = .ok () ↔ ¬ Unwritable base buffer.size inst := by
  rw [not_unwritable_iff]
  constructor
  · intro h
    cases ho : inst.offset with
    | none => simp [encodeOne, ho] at h
    | some offset =>
      obtain ⟨hbase, hsize, bytes, hbytes, -⟩ := (encodeOne_ok ho).1 (Prod.ext rfl h)
      exact ⟨offset, bytes, rfl, hbase, hsize, hbytes⟩
  · rintro ⟨offset, bytes, ho, hbase, hsize, hbytes⟩
    rw [(encodeOne_ok ho).2 ⟨hbase, hsize, bytes, hbytes, rfl⟩]

/-- No more is written than the instruction has room for, whether it can be written or not. -/
theorem exists_writeInstruction (buffer : Array UInt8) (position offset : Nat)
    (inst : Instruction) : ∃ bytes, bytes.length ≤ inst.size ∧
      (writeInstruction buffer position offset inst).1 = write buffer position bytes := by
  rw [writeInstruction]
  cases hop : inst.opcode.toByte? with
  | none =>
    rcases ho : inst.operand with _ | content | _ | _
    · exact ⟨[], Nat.zero_le _, rfl⟩
    · refine ⟨content, ?_, rfl⟩
      simp [size, toByte?_eq_none.1 hop, ho]
    · exact ⟨[], Nat.zero_le _, rfl⟩
    · exact ⟨[], Nat.zero_le _, rfl⟩
  | some byte =>
    have hsize := size_of_toByte? hop
    have hopcode : [byte].length ≤ inst.size := by simp; omega
    dsimp only
    split_ifs with hw
    · exact ⟨[byte], hopcode, rfl⟩
    · cases ho : operandBytes inst offset with
      | error cause => exact ⟨[byte], hopcode, rfl⟩
      | ok bytes =>
        have hl := length_immediate? (operandBytes_ok.1 ho)
        exact ⟨byte :: bytes, by simp; omega, rfl⟩

/-- An instruction is not written at all, or within its place in the buffer. -/
theorem encodeOne_cases (base : Nat) (buffer : Array UInt8) (inst : Instruction) :
    (encodeOne base buffer inst).1 = buffer ∨ ∃ offset bytes, inst.offset = some offset ∧
      base ≤ offset ∧ bytes.length ≤ inst.size ∧
        (encodeOne base buffer inst).1 = write buffer (offset - base) bytes := by
  rw [encodeOne]
  cases ho : inst.offset with
  | none => exact .inl rfl
  | some offset =>
    dsimp only
    by_cases hb : offset < base
    · rw [if_pos hb]
      exact .inl rfl
    · rw [if_neg hb]
      split_ifs with hs h64
      · exact .inl rfl
      · exact .inl rfl
      · obtain ⟨bytes, hl, hw⟩ := exists_writeInstruction buffer (offset - base) offset inst
        exact .inr ⟨offset, bytes, rfl, Nat.le_of_not_lt hb, hl, hw⟩

@[simp] theorem size_encodeOne (base : Nat) (buffer : Array UInt8) (inst : Instruction) :
    (encodeOne base buffer inst).1.size = buffer.size := by
  rcases encodeOne_cases base buffer inst with h | ⟨offset, bytes, -, -, -, h⟩
  · rw [h]
  · rw [h, size_write]

@[simp] theorem size_encodeInto (base : Nat) (buffer : Array UInt8) (code : List Instruction) :
    (encodeInto base buffer code).1.size = buffer.size := by
  induction code generalizing buffer with
  | nil => rfl
  | cons inst code ih =>
    have hsize := size_encodeOne base buffer inst
    rw [encodeInto]
    rcases hw : encodeOne base buffer inst with ⟨middle, cause | _⟩
    · rwa [hw] at hsize
    · rw [hw] at hsize
      exact (ih middle).trans hsize

/-- What can be written is followed by the rest of the code. -/
theorem encodeInto_cons_of_ok {base : Nat} {buffer : Array UInt8} {inst : Instruction}
    (code : List Instruction) (h : ¬ Unwritable base buffer.size inst) :
    encodeInto base buffer (inst :: code) =
      encodeInto base (encodeOne base buffer inst).1 code := by
  rw [encodeInto, ← Prod.eta (encodeOne base buffer inst), encodeOne_ok_iff.2 h]

/-- Writing stops at what cannot be written. -/
theorem exists_encodeInto_cons_of_unwritable {base : Nat} {buffer : Array UInt8}
    {inst : Instruction} (code : List Instruction) (h : Unwritable base buffer.size inst) :
    ∃ cause, encodeInto base buffer (inst :: code) =
      ((encodeOne base buffer inst).1, .error cause) := by
  rw [encodeInto]
  rcases hw : encodeOne base buffer inst with ⟨middle, cause | _⟩
  · exact ⟨cause, rfl⟩
  · exact absurd h (encodeOne_ok_iff.1 (by rw [hw]))

/-- **Code is written exactly if all of its instructions can be.** -/
theorem encodeInto_ok_iff {base : Nat} {buffer : Array UInt8} {code : List Instruction} :
    (encodeInto base buffer code).2 = .ok () ↔
      ∀ inst ∈ code, ¬ Unwritable base buffer.size inst := by
  induction code generalizing buffer with
  | nil => simp [encodeInto]
  | cons inst code ih =>
    by_cases h : Unwritable base buffer.size inst
    · obtain ⟨cause, hc⟩ := exists_encodeInto_cons_of_unwritable code h
      rw [hc]
      simp [h]
    · rw [encodeInto_cons_of_ok code h, ih, size_encodeOne, List.forall_mem_cons]
      exact (and_iff_right h).symm

/-! ## Numbers of 64 bits -/

/-- What a build does about a sum that has more than 64 bits. -/
inductive Build where
  /-- It panics. -/
  | checked
  /-- It goes on with the low bits. -/
  | wrapping
  deriving DecidableEq, Repr

/-- The sum of two numbers of 64 bits; there is none if the program panics. -/
def Build.sum? : Build → Nat → Nat → Option Nat
  | .checked, a, b => if a + b < capacity 8 then some (a + b) else none
  | .wrapping, a, b => some ((a + b) % capacity 8)

theorem Build.sum?_of_lt (build : Build) {a b : Nat} (h : a + b < capacity 8) :
    build.sum? a b = some (a + b) := by
  cases build with
  | checked => exact if_pos h
  | wrapping => rw [sum?, Nat.mod_eq_of_lt h]

/-- Overwrites the places of a buffer from `first` up to `stop`, if the buffer has all of them and
there is a byte for each. -/
def writeRange (buffer : Array UInt8) (first stop : Nat) (bytes : Bytes) : Option (Array UInt8) :=
  if first ≤ stop ∧ stop ≤ buffer.size ∧ bytes.length = stop - first then
    some (write buffer first bytes)
  else none

/-- Writes one instruction as a build does, with every range and its length checked; there is no
result if the program panics. -/
def encodeOneOn (build : Build) (base : Nat) (buffer : Array UInt8) (inst : Instruction) :
    Option (Array UInt8 × Except Error Unit) :=
  match inst.offset with
  | none => some (buffer, .error (.notPlaced inst))
  | some offset =>
    if offset < base then some (buffer, .error (.beforeBase inst base))
    else
      let first := offset - base
      (build.sum? first inst.size).bind fun stop =>
        if buffer.size < stop then some (buffer, .error (.overflow inst offset))
        else match inst.opcode.toByte? with
          | none =>
            match inst.operand with
            | some (.bytes content) => (writeRange buffer first stop content).map (·, .ok ())
            | _ => some (buffer, .error (.noBytes offset))
          | some byte =>
            (writeRange buffer first (first + 1) [byte]).bind fun buffer =>
              if inst.opcode.width = 0 then some (buffer, .ok ())
              else match operandBytes inst offset with
                | .ok bytes => (writeRange buffer (first + 1) stop bytes).map (·, .ok ())
                | .error cause => some (buffer, .error cause)

/-- Writes instructions in order as a build does. -/
def encodeOn (build : Build) (base : Nat) (buffer : Array UInt8) :
    List Instruction → Option (Array UInt8 × Except Error Unit)
  | [] => some (buffer, .ok ())
  | inst :: rest =>
    match encodeOneOn build base buffer inst with
    | none => none
    | some (buffer, .ok ()) => encodeOn build base buffer rest
    | some (buffer, .error cause) => some (buffer, .error cause)

/-- What a build makes of a result.  Without checks, the low bits of an end may still be behind the
buffer; if they are not, then the start of the instruction is. -/
def Build.outcome? (build : Build) (base : Nat) :
    Array UInt8 × Except Error Unit → Option (Array UInt8 × Except Error Unit)
  | (buffer, .error (.endOverflow inst offset)) =>
    match build with
    | .checked => none
    | .wrapping =>
      if buffer.size < offset - base + inst.size - capacity 8 then
        some (buffer, .error (.overflow inst offset))
      else none
  | result => some result

/-- A build panics at an instruction whose end has more than 64 bits.  Without checks it does not,
if the low bits of the end are behind the buffer as well. -/
def Build.PanicsAt (build : Build) (base size : Nat) (inst : Instruction) : Prop :=
  ∃ offset, inst.offset = some offset ∧ base ≤ offset ∧ size < offset - base + inst.size ∧
    capacity 8 ≤ offset - base + inst.size ∧
      (build = .wrapping → offset - base + inst.size - capacity 8 ≤ size)

/-- Offsets have 64 bits, and no buffer or instruction takes up more than half of what they
reach. -/
structure Addressable (buffer : Array UInt8) (code : List Instruction) : Prop where
  buffer : buffer.size < capacity 8 / 2
  size : ∀ inst ∈ code, inst.size < capacity 8 / 2
  offset : ∀ inst ∈ code, ∀ offset, inst.offset = some offset → offset < capacity 8

theorem writeRange_eq {buffer : Array UInt8} {first stop : Nat} {bytes : Bytes}
    (hs : stop ≤ buffer.size) (hl : first + bytes.length = stop) :
    writeRange buffer first stop bytes = some (write buffer first bytes) := by
  rw [writeRange, if_pos ⟨by omega, hs, by omega⟩]

theorem writeRange_eq_none {buffer : Array UInt8} {first stop : Nat} {bytes : Bytes}
    (h : stop < first ∨ buffer.size < stop) : writeRange buffer first stop bytes = none := by
  rw [writeRange, if_neg (by omega)]

section
variable {base offset : Nat} {buffer : Array UInt8} {inst : Instruction}

theorem size_of_noBytes (hb : inst.opcode.toByte? = none)
    (h : ∀ content, inst.operand ≠ some (.bytes content)) : inst.size = 0 := by
  rw [size, toByte?_eq_none.1 hb]
  rcases ho : inst.operand with _ | content | _ | _
  · rfl
  · exact absurd ho (h content)
  · rfl
  · rfl

theorem isPanic_operandBytes {cause : Error} (h : operandBytes inst offset = .error cause) :
    cause.isPanic = false := by
  unfold operandBytes at h
  split at h
  · cases h
    rfl
  · split at h <;> cases h
    rfl

/-- Writing within the buffer does not panic. -/
theorem isPanic_writeInstruction {position : Nat} {cause : Error}
    (h : (writeInstruction buffer position offset inst).2 = .error cause) :
    cause.isPanic = false := by
  unfold writeInstruction at h
  split at h
  · split at h <;> cases h
    rfl
  · dsimp only at h
    split at h
    · cases h
    · split at h
      · cases h
      · next cause' he =>
        cases h
        exact isPanic_operandBytes he

/-- A result without a panic is one of every build. -/
theorem outcome?_eq_self (build : Build) {result : Except Error Unit}
    (h : ∀ cause, result = .error cause → cause.isPanic = false) :
    build.outcome? base (buffer, result) = some (buffer, result) := by
  rcases result with cause | _
  · cases cause with
    | endOverflow => cases h _ rfl
    | _ => rfl
  · rfl

/-- An instruction within the buffer is written by every build. -/
theorem encodeOneOn_of_le (build : Build) (ho : inst.offset = some offset) (hb : base ≤ offset)
    (hs : offset - base + inst.size ≤ buffer.size) (h64 : offset - base + inst.size < capacity 8) :
    encodeOneOn build base buffer inst =
      some (writeInstruction buffer (offset - base) offset inst) := by
  rw [encodeOneOn, ho]
  dsimp only
  rw [if_neg (by omega), build.sum?_of_lt h64, Option.bind_some, if_neg (by omega),
    writeInstruction]
  cases hop : inst.opcode.toByte? with
  | none =>
    rcases ho : inst.operand with _ | content | _ | _
    · rfl
    · have hsize : inst.size = content.length := by simp [size, toByte?_eq_none.1 hop, ho]
      dsimp only
      rw [writeRange_eq (by omega) (by omega), Option.map_some]
    · rfl
    · rfl
  | some byte =>
    have hsize := size_of_toByte? hop
    dsimp only
    rw [writeRange_eq (by omega) (by simp), Option.bind_some]
    split_ifs with hw
    · rfl
    · cases ho : operandBytes inst offset with
      | error cause => rfl
      | ok bytes =>
        have hl := length_immediate? (operandBytes_ok.1 ho)
        dsimp only
        rw [writeRange_eq (by rw [size_write]; omega) (by omega), Option.map_some]

/-- At an end that has more than 64 bits a build panics, in the sum or at an index; without checks
the low bits of the end may be behind the buffer. -/
theorem encodeOneOn_of_overflow (build : Build) (ho : inst.offset = some offset)
    (hb : base ≤ offset) (hbuffer : buffer.size < capacity 8 / 2)
    (hsize : inst.size < capacity 8 / 2) (hoffset : offset < capacity 8)
    (h64 : capacity 8 ≤ offset - base + inst.size) :
    encodeOneOn build base buffer inst =
      build.outcome? base (buffer, .error (.endOverflow inst offset)) := by
  rw [encodeOneOn, ho]
  dsimp only
  rw [if_neg (Nat.not_lt.2 hb)]
  cases build with
  | checked =>
    rw [Build.sum?, if_neg (Nat.not_lt.2 h64)]
    rfl
  | wrapping =>
    have hstop : (offset - base + inst.size) % capacity 8 =
        offset - base + inst.size - capacity 8 := by
      rw [Nat.mod_eq_sub_mod h64, Nat.mod_eq_of_lt (by omega)]
    rw [Build.sum?, hstop, Option.bind_some, Build.outcome?]
    by_cases hs : buffer.size < offset - base + inst.size - capacity 8
    · rw [if_pos hs, if_pos hs]
    · rw [if_neg hs, if_neg hs]
      cases hop : inst.opcode.toByte? with
      | none =>
        dsimp only
        split
        · rw [writeRange_eq_none (.inl (by omega)), Option.map_none]
        · next hn =>
          have hzero := size_of_noBytes hop hn
          omega
      | some byte =>
        dsimp only
        rw [writeRange_eq_none (.inr (by omega)), Option.bind_none]

/-- **A build does what `encodeOne` does**, unless the end has more than 64 bits. -/
theorem encodeOneOn_eq (build : Build) (base : Nat) (h : Addressable buffer [inst]) :
    encodeOneOn build base buffer inst = build.outcome? base (encodeOne base buffer inst) := by
  have hbuffer := h.buffer
  have hsize := h.size inst List.mem_cons_self
  rw [encodeOne]
  cases ho : inst.offset with
  | none =>
    rw [encodeOneOn, ho]
    rfl
  | some offset =>
    have hoffset := h.offset inst List.mem_cons_self offset ho
    dsimp only
    split_ifs with hb hs h64
    · rw [encodeOneOn, ho]
      exact if_pos hb
    · rw [encodeOneOn, ho]
      dsimp only
      rw [if_neg hb, build.sum?_of_lt h64, Option.bind_some, if_pos hs]
      rfl
    · exact encodeOneOn_of_overflow build ho (by omega) hbuffer hsize hoffset (by omega)
    · rw [encodeOneOn_of_le build ho (by omega) (by omega) (by omega)]
      exact (outcome?_eq_self build fun _ hc => isPanic_writeInstruction hc).symm

/-- A build makes no success of an error. -/
theorem outcome?_error (base : Nat) (buffer : Array UInt8) (build : Build) (cause : Error) :
    build.outcome? base (buffer, .error cause) = none ∨
      ∃ cause', build.outcome? base (buffer, .error cause) = some (buffer, .error cause') := by
  cases cause with
  | endOverflow inst offset =>
    cases build with
    | checked => exact .inl rfl
    | wrapping =>
      rw [Build.outcome?]
      split_ifs
      · exact .inr ⟨_, rfl⟩
      · exact .inl rfl
  | _ => exact .inr ⟨_, rfl⟩

/-- At an end that has more than 64 bits a build panics unless it reports one that it finds behind
the buffer. -/
theorem outcome?_endOverflow_eq_none_iff (build : Build) :
    build.outcome? base (buffer, .error (.endOverflow inst offset)) = none ↔
      (build = .wrapping → offset - base + inst.size - capacity 8 ≤ buffer.size) := by
  cases build with
  | checked => exact iff_of_true rfl nofun
  | wrapping =>
    rw [Build.outcome?]
    split_ifs with hs
    · exact iff_of_false not_false fun hle => Nat.not_lt.2 (hle rfl) hs
    · exact iff_of_true rfl fun _ => Nat.not_lt.1 hs

/-- **What a build makes of one instruction is a panic exactly at such an end.** -/
theorem outcome?_encodeOne_eq_none_iff (build : Build) :
    build.outcome? base (encodeOne base buffer inst) = none ↔
      build.PanicsAt base buffer.size inst := by
  rw [encodeOne]
  cases ho : inst.offset with
  | none =>
    refine iff_of_false (Option.some_ne_none _) ?_
    rintro ⟨offset, hs, -⟩
    cases ho.symm.trans hs
  | some offset =>
    have hpanics : build.PanicsAt base buffer.size inst ↔ base ≤ offset ∧
        buffer.size < offset - base + inst.size ∧ capacity 8 ≤ offset - base + inst.size ∧
          (build = .wrapping → offset - base + inst.size - capacity 8 ≤ buffer.size) := by
      simp [Build.PanicsAt, ho]
    rw [hpanics]
    dsimp only
    split_ifs with hb hs h64
    · exact iff_of_false (Option.some_ne_none _) (by omega)
    · exact iff_of_false (Option.some_ne_none _) (by omega)
    · rw [outcome?_endOverflow_eq_none_iff]
      exact ⟨fun h => ⟨by omega, hs, by omega, h⟩, fun h => h.2.2.2⟩
    · rw [outcome?_eq_self build fun _ hc => isPanic_writeInstruction hc]
      exact iff_of_false (Option.some_ne_none _) (by omega)

/-- An instruction at which a build panics cannot be written. -/
theorem Build.PanicsAt.unwritable {build : Build} {size : Nat}
    (h : build.PanicsAt base size inst) : Unwritable base size inst := by
  obtain ⟨offset, ho, hb, hs, -⟩ := h
  exact .behind ho (by omega)

end

/-- **A build writes code as `encodeInto` does**, up to an end that has more than 64 bits. -/
theorem encodeOn_eq (build : Build) (base : Nat) {buffer : Array UInt8} {code : List Instruction}
    (h : Addressable buffer code) :
    encodeOn build base buffer code = build.outcome? base (encodeInto base buffer code) := by
  induction code generalizing buffer with
  | nil => rfl
  | cons inst code ih =>
    obtain ⟨hbuffer, hsize, hoffset⟩ := h
    rw [List.forall_mem_cons] at hsize hoffset
    have hone : Addressable buffer [inst] :=
      ⟨hbuffer, by simpa using hsize.1, by simpa using hoffset.1⟩
    have hmiddle := size_encodeOne base buffer inst
    rw [encodeOn, encodeOneOn_eq build base hone, encodeInto]
    rcases hw : encodeOne base buffer inst with ⟨middle, cause | _⟩
    · dsimp only
      rcases outcome?_error base middle build cause with h | ⟨cause', h⟩ <;> rw [h]
    · rw [hw] at hmiddle
      exact ih ⟨hmiddle ▸ hbuffer, hsize.2, hoffset.2⟩

/-! ## What stays -/

/-- Bytes outside of what is written stay. -/
theorem getElem?_write {buffer : Array UInt8} {first position : Nat} {bytes : Bytes}
    (h : position < first ∨ first + bytes.length ≤ position) :
    (write buffer first bytes)[position]? = buffer[position]? := by
  induction bytes generalizing buffer first with
  | nil => rfl
  | cons byte rest ih =>
    rw [List.length_cons] at h
    rw [write, ih (by omega), Array.getElem?_setIfInBounds, if_neg (by omega)]

/-- Bytes that fit are found where they are written. -/
theorem getElem?_write_add {buffer : Array UInt8} {first k : Nat} {bytes : Bytes}
    (hs : first + bytes.length ≤ buffer.size) (hk : k < bytes.length) :
    (write buffer first bytes)[first + k]? = bytes[k]? := by
  have hl : (buffer.toList.take first ++ bytes).length = first + bytes.length := by
    simp; omega
  have hf : (buffer.toList.take first).length = first := by
    simp; omega
  rw [← Array.getElem?_toList, toList_write hs, overwrite, List.getElem?_append_left (by omega),
    List.getElem?_append_right (by omega), hf, Nat.add_sub_cancel_left]

/-- **One instruction changes only what it covers**, also if it cannot be written. -/
theorem getElem?_encodeOne {base : Nat} {buffer : Array UInt8} {inst : Instruction} {position : Nat}
    (h : ¬ inst.Covers base position) :
    (encodeOne base buffer inst).1[position]? = buffer[position]? := by
  rcases encodeOne_cases base buffer inst with hw | ⟨offset, bytes, ho, hbase, hl, hw⟩
  · rw [hw]
  · rw [hw]
    refine getElem?_write ?_
    by_contra hin
    exact h ⟨offset, ho, hbase, by omega, by omega⟩

/-- **Code changes only what its instructions cover.** -/
theorem getElem?_encodeInto {base : Nat} {buffer : Array UInt8} {code : List Instruction}
    {position : Nat} (h : ∀ inst ∈ code, ¬ inst.Covers base position) :
    (encodeInto base buffer code).1[position]? = buffer[position]? := by
  induction code generalizing buffer with
  | nil => rfl
  | cons inst code ih =>
    have hone : (encodeOne base buffer inst).1[position]? = buffer[position]? :=
      getElem?_encodeOne (h inst List.mem_cons_self)
    by_cases hu : Unwritable base buffer.size inst
    · obtain ⟨cause, hc⟩ := exists_encodeInto_cons_of_unwritable code hu
      rw [hc, hone]
    · rw [encodeInto_cons_of_ok code hu, ih fun i hi => h i (List.mem_cons_of_mem _ hi), hone]

/-- What becomes of a buffer when code is written into it, or as much of the code as can be. -/
structure ChangesOnly (base : Nat) (buffer : Array UInt8) (code : List Instruction)
    (written : Array UInt8) (result : Except Error Unit) : Prop where
  /-- It does so on every build, with every range and its length checked, unless the program panics
  at an end that has more than 64 bits. -/
  builds : Addressable buffer code → ∀ build : Build,
    encodeOn build base buffer code = build.outcome? base (written, result)
  /-- The program panics exactly at the end of the first instruction that cannot be written. -/
  panics : Addressable buffer code → ∀ build : Build, encodeOn build base buffer code = none ↔
    ∃ front bad rest, code = front ++ bad :: rest ∧
      (∀ inst ∈ front, ¬ Unwritable base buffer.size inst) ∧ build.PanicsAt base buffer.size bad
  size : written.size = buffer.size
  /-- Writing fails exactly if some instruction cannot be written. -/
  fails : (∃ cause, result = .error cause) ↔ ∃ inst ∈ code, Unwritable base buffer.size inst
  /-- All that is written stands where its instructions do. -/
  success : result = .ok () → ∀ position, (∀ inst ∈ code, ¬ inst.Covers base position) →
    written[position]? = buffer[position]?
  /-- Writing stops at the first instruction that cannot be written, and of the instructions behind
  it nothing is written. -/
  failure : ∀ cause, result = .error cause → ∃ front bad rest, code = front ++ bad :: rest ∧
    (∀ inst ∈ front, ¬ Unwritable base buffer.size inst) ∧ Unwritable base buffer.size bad ∧
      ∀ position, (∀ inst ∈ front ++ [bad], ¬ inst.Covers base position) →
        written[position]? = buffer[position]?

/-- Code that cannot be written has a first instruction that cannot be. -/
theorem exists_first_unwritable {base size : Nat} {code : List Instruction}
    (h : ∃ inst ∈ code, Unwritable base size inst) : ∃ front bad rest, code = front ++ bad :: rest ∧
      (∀ inst ∈ front, ¬ Unwritable base size inst) ∧ Unwritable base size bad := by
  induction code with
  | nil => simp at h
  | cons inst code ih =>
    by_cases hi : Unwritable base size inst
    · exact ⟨[], inst, code, rfl, by simp, hi⟩
    · have hrest : ∃ i ∈ code, Unwritable base size i := by
        obtain ⟨bad, hm, hbad⟩ := h
        rcases List.mem_cons.1 hm with rfl | hm
        · exact absurd hbad hi
        · exact ⟨bad, hm, hbad⟩
      obtain ⟨front, bad, rest, rfl, hfront, hbad⟩ := ih hrest
      refine ⟨inst :: front, bad, rest, rfl, fun i hm => ?_, hbad⟩
      rcases List.mem_cons.1 hm with rfl | hm
      · exact hi
      · exact hfront i hm

/-- What cannot be written ends the code. -/
theorem encodeInto_append_of_unwritable {base : Nat} {buffer : Array UInt8}
    {front : List Instruction} {bad : Instruction} (rest : List Instruction)
    (hfront : ∀ inst ∈ front, ¬ Unwritable base buffer.size inst)
    (hbad : Unwritable base buffer.size bad) : encodeInto base buffer (front ++ bad :: rest) =
      encodeOne base (encodeInto base buffer front).1 bad := by
  induction front generalizing buffer with
  | nil =>
    rw [List.nil_append, encodeInto, encodeInto]
    rcases hw : encodeOne base buffer bad with ⟨middle, cause | _⟩
    · rfl
    · exact absurd hbad (encodeOne_ok_iff.1 (by rw [hw]))
  | cons inst front ih =>
    have hi := hfront inst List.mem_cons_self
    rw [List.cons_append, encodeInto_cons_of_ok _ hi, encodeInto_cons_of_ok _ hi]
    refine ih (fun i hm => ?_) ?_
    · rw [size_encodeOne]
      exact hfront i (List.mem_cons_of_mem _ hm)
    · rwa [size_encodeOne]

/-- **A build panics exactly at the end of the first instruction that cannot be written.** -/
theorem encodeOn_eq_none_iff (build : Build) {base : Nat} {buffer : Array UInt8}
    {code : List Instruction} (h : Addressable buffer code) :
    encodeOn build base buffer code = none ↔ ∃ front bad rest, code = front ++ bad :: rest ∧
      (∀ inst ∈ front, ¬ Unwritable base buffer.size inst) ∧
        build.PanicsAt base buffer.size bad := by
  rw [encodeOn_eq build base h]
  constructor
  · intro hnone
    have hfails : ∃ inst ∈ code, Unwritable base buffer.size inst := by
      by_contra hall
      have hok : (encodeInto base buffer code).2 = .ok () :=
        encodeInto_ok_iff.2 (by simpa using hall)
      rw [show encodeInto base buffer code = (_, .ok ()) from Prod.ext rfl hok] at hnone
      cases hnone
    obtain ⟨front, bad, rest, rfl, hfront, hbad⟩ := exists_first_unwritable hfails
    rw [encodeInto_append_of_unwritable rest hfront hbad, outcome?_encodeOne_eq_none_iff,
      size_encodeInto] at hnone
    exact ⟨front, bad, rest, rfl, hfront, hnone⟩
  · rintro ⟨front, bad, rest, rfl, hfront, hpanics⟩
    rw [encodeInto_append_of_unwritable rest hfront hpanics.unwritable,
      outcome?_encodeOne_eq_none_iff, size_encodeInto]
    exact hpanics

end Encoding

end EvmProbe
