import EvmProbe.Disassembly
import EvmProbe.Proofs.Bytecode.Marks
import EvmProbe.Proofs.Program.Encoding

/-!
Code as encoded instructions, and instructions as decoded code.

* `mem_marksFrom_flatMap`: the marks of encoded instructions are the offsets where these stand.
* `decoded_disassemble`: decoded instructions lie one behind the other from offset zero on, each
  with the opcode and the immediate bytes found there.
* `Decoded.flatMap_encoded`: decoded instructions encode the code they were read from.
-/

namespace EvmProbe

open Bytecode
open Opcode (widthOfByte)

/-! ## The marks of encoded instructions -/

/-- **The marks of encoded instructions are the offsets where these stand.** -/
theorem mem_marksFrom_flatMap {f : Instruction → Instruction} (hf : ∀ i, (f i).opcode = i.opcode)
    {code : List Instruction}
    (h : ∀ inst ∈ code, inst.opcode ≠ .data ∧ (f inst).encoded?.isSome ∧ (f inst).size = inst.size)
    {offset position : Nat} {byte : UInt8} :
    (position, byte) ∈ marksFrom offset 0 (code.flatMap fun inst => (f inst).encoded) ↔
      ∃ k inst, position = offset + k ∧ StandsAt code k inst ∧ inst.opcode.toByte? = some byte := by
  induction code generalizing offset with
  | nil => simp
  | cons head code ih =>
    obtain ⟨hd, henc, hsize⟩ := h head (by simp)
    obtain ⟨b, hb⟩ := Option.ne_none_iff_exists'.1 (mt Instruction.toByte?_eq_none.1 hd)
    obtain ⟨immediate, he, hl⟩ := Instruction.exists_encoded (by rw [hf, hb]) henc
    have hs : head.size = 1 + widthOfByte b := by
      rw [Instruction.size_of_toByte? hb, Opcode.width, hb]
    rw [List.flatMap_cons, he, List.cons_append, marksFrom_step hl, List.mem_cons,
      ih fun i hi => h i (by simp [hi])]
    constructor
    · rintro (heq | ⟨k, inst, rfl, hat, hbyte⟩)
      · simp only [Prod.mk.injEq] at heq
        exact ⟨0, head, heq.1, .here, by rw [hb, heq.2]⟩
      · exact ⟨head.size + k, inst, by omega, standsAt_cons.2 (.inr ⟨k, rfl, hat⟩), hbyte⟩
    · rintro ⟨k, inst, rfl, hat, hbyte⟩
      rcases standsAt_cons.1 hat with ⟨rfl, rfl⟩ | ⟨j, rfl, hj⟩
      · rw [hb, Option.some.injEq] at hbyte
        exact .inl (by rw [hbyte]; rfl)
      · exact .inr ⟨j, inst, by omega, hj, hbyte⟩

/-! ## Decoded instructions -/

/-- An instruction is what a byte and its immediate bytes at an offset are decoded to. -/
structure IsDecoded (offset : Nat) (byte : UInt8) (immediate : Bytes) (inst : Instruction) :
    Prop where
  opcode : inst.opcode = .ofByte byte
  operand : inst.operand = if widthOfByte byte = 0 then none else some (.bytes immediate)
  label : inst.label = none
  source : inst.source = some offset

/-- Instructions are decoded one behind the other from the front of code that starts at an
offset. -/
inductive Decoded : (offset : Nat) → List Instruction → Bytes → Prop where
  | nil {offset : Nat} {code : Bytes} : Decoded offset [] code
  | cons {offset : Nat} {byte : UInt8} {immediate rest : Bytes} {inst : Instruction}
      {program : List Instruction} (full : immediate.length = widthOfByte byte)
      (first : IsDecoded offset byte immediate inst)
      (behind : Decoded (offset + (1 + widthOfByte byte)) program rest) :
      Decoded offset (inst :: program) (byte :: (immediate ++ rest))

namespace IsDecoded
variable {offset : Nat} {byte : UInt8} {immediate : Bytes} {inst : Instruction}

theorem ne_data (h : IsDecoded offset byte immediate inst) : inst.opcode ≠ .data := by
  intro hd
  have := Opcode.toByte?_ofByte byte
  rw [← h.opcode, hd] at this
  simp [Opcode.toByte?] at this

theorem reference?_eq_none (h : IsDecoded offset byte immediate inst) :
    Linking.reference? inst = none := by
  rw [Linking.reference?, h.operand]
  split
  · next hl => split at hl <;> simp at hl
  · rfl

/-- A decoded instruction encodes the bytes it was read from. -/
theorem encoded? (h : IsDecoded offset byte immediate inst)
    (full : immediate.length = widthOfByte byte) : inst.encoded? = some (byte :: immediate) := by
  unfold Instruction.encoded? Instruction.immediate?
  rw [h.opcode, Opcode.toByte?_ofByte, Opcode.width_ofByte, h.operand]
  dsimp only
  by_cases hw : widthOfByte byte = 0
  · obtain rfl : immediate = [] := List.eq_nil_of_length_eq_zero (full.trans hw)
    rw [if_pos hw]
  · rw [if_neg hw, if_neg hw, Option.bind_some, Operand.encode, if_pos (by omega), padLeft, full,
      Nat.sub_self]
    rfl

theorem size (h : IsDecoded offset byte immediate inst) : inst.size = 1 + widthOfByte byte := by
  rw [Instruction.size_of_toByte? (by rw [h.opcode, Opcode.toByte?_ofByte]), h.opcode,
    Opcode.width_ofByte]

theorem size_of_opcode (h : IsDecoded offset byte immediate inst) :
    inst.size = 1 + inst.opcode.width := by
  rw [h.size, h.opcode, Opcode.width_ofByte]

end IsDecoded

namespace Decoded
variable {offset k : Nat} {program : List Instruction} {code : Bytes} {inst : Instruction}

/-- The instruction at an offset is what is decoded there. -/
theorem of_standsAt (h : Decoded offset program code) (hat : StandsAt program k inst) :
    ∃ byte immediate rest, code.drop k = byte :: (immediate ++ rest) ∧
      immediate.length = widthOfByte byte ∧ IsDecoded (offset + k) byte immediate inst := by
  induction h generalizing k with
  | nil => exact absurd hat not_standsAt_nil
  | @cons offset byte immediate rest head program full first _ ih =>
    rcases standsAt_cons.1 hat with ⟨rfl, rfl⟩ | ⟨j, rfl, hj⟩
    · exact ⟨byte, immediate, rest, rfl, full, first⟩
    · obtain ⟨b, imm, tail, hdrop, hl, hi⟩ := ih hj
      refine ⟨b, imm, tail, ?_, hl, ?_⟩
      · rw [first.size, ← full, Nat.add_assoc, Nat.add_comm 1, List.drop_succ_cons,
          List.drop_append, List.drop_of_length_le (by omega)]
        simpa using hdrop
      · rwa [first.size, ← Nat.add_assoc]

theorem of_mem (h : Decoded offset program code) (hm : inst ∈ program) :
    ∃ k byte immediate, immediate.length = widthOfByte byte ∧
      IsDecoded (offset + k) byte immediate inst := by
  obtain ⟨k, hat⟩ := StandsAt.exists_of_mem hm
  obtain ⟨byte, immediate, -, -, hl, hi⟩ := h.of_standsAt hat
  exact ⟨k, byte, immediate, hl, hi⟩

theorem isSome_encoded? (h : Decoded offset program code) (hm : inst ∈ program) :
    inst.encoded?.isSome := by
  obtain ⟨k, byte, immediate, hl, hi⟩ := h.of_mem hm
  exact Option.isSome_iff_exists.2 ⟨_, hi.encoded? hl⟩

/-- **Decoded instructions encode the code they were read from.** -/
theorem flatMap_encoded (h : Decoded offset program code) :
    ∃ rest, code = program.flatMap Instruction.encoded ++ rest := by
  induction h with
  | @nil _ code => exact ⟨code, rfl⟩
  | @cons _ byte immediate _ head _ full first _ ih =>
    obtain ⟨rest, rfl⟩ := ih
    refine ⟨rest, ?_⟩
    rw [List.flatMap_cons, Instruction.encoded, first.encoded? full]
    simp

theorem codeSize_le (h : Decoded offset program code) : codeSize program ≤ code.length := by
  obtain ⟨rest, hc⟩ := h.flatMap_encoded
  rw [hc, List.length_append, Instruction.length_flatMap_encoded fun _ hm => h.isSome_encoded? hm]
  omega

/-- Instructions that take up all the code encode it. -/
theorem eq_flatMap_encoded (h : Decoded offset program code)
    (hall : codeSize program = code.length) : code = program.flatMap Instruction.encoded := by
  obtain ⟨rest, hc⟩ := h.flatMap_encoded
  have hl := congrArg List.length hc
  rw [List.length_append,
    Instruction.length_flatMap_encoded fun _ hm => h.isSome_encoded? hm] at hl
  obtain rfl : rest = [] := List.eq_nil_of_length_eq_zero (by omega)
  simpa using hc

/-- A decoded instruction is that of a mark. -/
theorem mem_marksFrom (h : Decoded offset program code) (hm : inst ∈ program) {position : Nat}
    (hs : inst.source = some position) : ∃ byte,
      (position, byte) ∈ marksFrom offset 0 code ∧ inst.opcode = .ofByte byte := by
  induction h with
  | nil => simp at hm
  | @cons offset byte _ _ _ _ full first _ ih =>
    rw [marksFrom_step full]
    rcases List.mem_cons.1 hm with rfl | hm
    · rw [first.source, Option.some.injEq] at hs
      exact ⟨byte, by simp [hs], first.opcode⟩
    · obtain ⟨b, hb, hop⟩ := ih hm
      exact ⟨b, List.mem_cons_of_mem _ hb, hop⟩

/-- The offsets of decoded instructions go up. -/
theorem pairwise_source (h : Decoded offset program code) :
    program.Pairwise fun a b => ∀ j k, a.source = some j → b.source = some k → j < k := by
  induction h with
  | nil => exact .nil
  | @cons offset byte _ _ _ _ _ first behind ih =>
    refine List.pairwise_cons.2 ⟨fun inst hm j k hj hk => ?_, ih⟩
    obtain ⟨i, _, _, -, hi⟩ := behind.of_mem hm
    rw [first.source, Option.some.injEq] at hj
    rw [hi.source, Option.some.injEq] at hk
    omega

end Decoded

/-! ## Disassembly -/

namespace Disassembly

/-- Immediate bytes are passed over. -/
theorem sweep_skip (isOpen : Bool) (scope : Scope) (offset : Nat) (immediate rest : Bytes) :
    sweep isOpen scope offset immediate.length (immediate ++ rest) =
      sweep isOpen scope (offset + immediate.length) 0 rest := by
  induction immediate generalizing offset with
  | nil => rfl
  | cons byte immediate ih =>
    rw [List.length_cons, List.cons_append, sweep, ih]
    congr 1; omega

theorem isDecoded_decode (scope : Scope) (offset : Nat) {byte : UInt8} {immediate : Bytes}
    (rest : Bytes) (full : immediate.length = widthOfByte byte) :
    IsDecoded offset byte immediate (decode scope offset (.ofByte byte) (immediate ++ rest)) where
  opcode := rfl
  operand := by
    rw [decode, Opcode.width_ofByte, ← full, List.take_left]
  label := rfl
  source := rfl

/-- What the sweep does at a full instruction: it stops if the instruction cannot be reached, and
goes on behind it otherwise. -/
theorem sweep_step (isOpen : Bool) (scope : Scope) (offset : Nat) {byte : UInt8}
    {immediate : Bytes} (rest : Bytes) (full : immediate.length = widthOfByte byte) :
    sweep isOpen scope offset 0 (byte :: (immediate ++ rest)) =
      if (!isOpen && Opcode.ofByte byte != .jumpdest) = true then some []
      else
        let inst := decode scope offset (.ofByte byte) (immediate ++ rest)
        if (Opcode.ofByte byte).isTerminator = true then
          some (inst ::
            (sweep false (scope.after 1) (offset + (1 + widthOfByte byte)) 0 rest).getD [])
        else (sweep true scope (offset + (1 + widthOfByte byte)) 0 rest).map (inst :: ·) := by
  have hskip (isOpen : Bool) (scope : Scope) : sweep isOpen scope (offset + 1) (widthOfByte byte)
      (immediate ++ rest) = sweep isOpen scope (offset + (1 + widthOfByte byte)) 0 rest := by
    rw [← full, sweep_skip, Nat.add_assoc]
  rw [sweep, Opcode.width_ofByte, hskip, hskip, ← full, List.take_left]
  simp

/-- The sweep stops at an instruction that is cut off. -/
theorem sweep_cut (isOpen : Bool) (scope : Scope) (offset : Nat) {byte : UInt8}
    {immediate : Bytes} (short : immediate.length < widthOfByte byte) :
    sweep isOpen scope offset 0 (byte :: immediate) = if isOpen then none else some [] := by
  have hj : Opcode.ofByte byte ≠ .jumpdest := by
    intro h
    have := Opcode.width_ofByte byte
    rw [h, show (Opcode.jumpdest).width = 0 from rfl] at this
    omega
  rw [sweep, Opcode.width_ofByte]
  cases isOpen
  · simp [hj]
  · simp; omega

/-- What the sweep gives is decoded one instruction behind the other. -/
theorem decoded_sweep {isOpen : Bool} {scope : Scope} {offset : Nat} {code : Bytes}
    {program : List Instruction} (h : sweep isOpen scope offset 0 code = some program) :
    Decoded offset program code := by
  induction swept code generalizing isOpen scope offset program with
  | nil => cases h; exact .nil
  | cut short =>
    rw [sweep_cut _ _ _ short] at h
    split at h
    · cases h
    · cases h; exact .nil
  | @step byte immediate rest full _ ih =>
    rw [sweep_step _ _ _ _ full] at h
    have hd := isDecoded_decode scope offset rest full
    split at h
    · cases h; exact .nil
    · dsimp only at h
      split at h
      · cases h
        cases hr : sweep false (scope.after 1) (offset + (1 + widthOfByte byte)) 0 rest with
        | none => exact .cons full hd .nil
        | some behind => exact .cons full hd (ih hr)
      · obtain ⟨behind, hr, rfl⟩ := Option.map_eq_some_iff.1 h
        exact .cons full hd (ih hr)

end Disassembly

/-- **Decoded code is instructions one behind the other from offset zero on.** -/
theorem decoded_disassemble (scope : Scope) (code : Bytes) :
    Decoded 0 (disassemble scope code) code := by
  rw [disassemble]
  cases h : Disassembly.sweep true scope 0 0 code with
  | none => exact .nil
  | some program => exact Disassembly.decoded_sweep h

end EvmProbe
