import EvmProbe.Proofs.Bytecode.Instructions
import EvmProbe.Proofs.Listing.Assembling

/-!
Listings that are written, read and encoded.

* `disassemble_reproduces`: decoded instructions, and those of their listing, encode the code that
  they were decoded from.
* `assemble_reproduces`: the listing of an assembled text assembles to the same instructions, with
  the same code, exactly if no number in it is written with a single digit.
-/

namespace EvmProbe

open Bytecode Linking Listing
open Opcode (widthOfByte)

/-! ## Decoded code -/

namespace IsDecoded
variable {offset : Nat} {byte : UInt8} {immediate : Bytes} {inst : Instruction}

/-- An undefined byte has no immediate bytes. -/
theorem width_of_undefined {b : UInt8} (h : Opcode.ofByte byte = .undefined b) :
    widthOfByte byte = 0 := by
  unfold widthOfByte
  split
  · rw [Opcode.ofByte, dif_pos ⟨by omega, by omega⟩] at h
    cases h
  · rfl

/-- A listing can write a decoded instruction. -/
theorem isListable (h : IsDecoded offset byte immediate inst)
    (full : immediate.length = widthOfByte byte) : inst.IsListable := by
  refine ⟨by simp [h.label], ?_⟩
  have hw := Opcode.width_ofByte byte
  have hd : Opcode.ofByte byte ≠ .data := h.opcode ▸ h.ne_data
  rw [h.opcode, h.operand]
  by_cases hu : ∃ b, Opcode.ofByte byte = .undefined b
  · obtain ⟨b, hu⟩ := hu
    rw [if_pos (width_of_undefined hu), hu]
    exact .undefined (by rw [← hu, hw, width_of_undefined hu])
  · have hop : Opcode.ofByte byte ∈ Opcode.named := Opcode.mem_named fun b hb => hu ⟨b, hb⟩
    split
    · next h0 => exact .plain hop hd (hw.trans h0)
    · next h0 =>
      have hle := Opcode.widthOfByte_le byte
      exact .push hop (hw.symm ▸ h0) ⟨by omega, by omega⟩

/-- The operand of a decoded instruction is bytes. -/
theorem not_isSingleDigit (h : IsDecoded offset byte immediate inst) :
    ∀ operand ∈ inst.operand, ¬ Line.IsSingleDigit operand := by
  intro operand ho
  rw [h.operand] at ho
  split at ho
  · cases ho
  · cases ho
    exact id

end IsDecoded

namespace Decoded
variable {offset : Nat} {program : List Instruction} {code : Bytes}

theorem take_codeSize (h : Decoded offset program code) :
    code.take (codeSize program) = program.flatMap Instruction.encoded := by
  obtain ⟨rest, hc⟩ := h.flatMap_encoded
  rw [hc, List.take_left' (Instruction.length_flatMap_encoded fun _ hm => h.isSome_encoded? hm)]

/-- Decoded instructions are linked as they are. -/
theorem linked (h : Decoded offset program code) (address : Label → Nat) :
    Linked program address (code.take (codeSize program)) := by
  have hlabel : program.filterMap (·.label) = [] :=
    List.filterMap_eq_nil_iff.2 fun inst hm => by
      obtain ⟨_, _, _, -, hi⟩ := h.of_mem hm
      exact hi.label
  have hnone : ∀ inst ∈ program, reference? inst = none := fun inst hm => by
    obtain ⟨_, _, _, -, hi⟩ := h.of_mem hm
    exact hi.reference?_eq_none
  have hrel : ∀ inst ∈ program, inst.relocated address = inst := fun inst hm => by
    rw [Instruction.relocated, hnone inst hm]
  refine ⟨by simp [hlabel], fun inst hm target hr => ?_, fun inst hm => ?_, ?_⟩
  · rw [hnone inst hm] at hr
    cases hr
  · rw [hrel inst hm]
    exact h.isSome_encoded? hm
  · rw [h.take_codeSize]
    exact List.flatMap_congr fun inst hm => by rw [hrel inst hm]

/-- Decoded instructions have nothing to do with labels. -/
theorem isScoped (h : Decoded offset program code) (scope : Scope) : IsScoped scope program := by
  intro inst hm hl
  obtain ⟨_, _, _, -, hi⟩ := h.of_mem hm
  simp [hi.label, hi.reference?_eq_none] at hl

theorem isListable (h : Decoded offset program code) : ∀ inst ∈ program, inst.IsListable :=
  fun inst hm => by
    obtain ⟨_, _, _, full, hi⟩ := h.of_mem hm
    exact hi.isListable full

theorem not_isSingleDigit (h : Decoded offset program code) :
    ∀ inst ∈ program, ∀ operand ∈ inst.operand, ¬ Line.IsSingleDigit operand :=
  fun inst hm => by
    obtain ⟨_, _, _, -, hi⟩ := h.of_mem hm
    exact hi.not_isSingleDigit

end Decoded

/-- What is read back is of one scope. -/
theorem isScoped_reread (scope : Scope) (code : List Instruction) :
    IsScoped scope (code.map (Instruction.reread scope)) := by
  intro inst hm _
  obtain ⟨inst, -, rfl⟩ := List.mem_map.1 hm
  exact Instruction.reread_scope scope inst

/-- What is read back is encoded like what was written. -/
theorem encodeProgram_reread {scope other : Scope} {code : List Instruction} {bytes : Bytes}
    (hs : IsScoped scope code) (hl : ∀ inst ∈ code, inst.IsListable)
    (h : (encodeProgram code).2 = .ok bytes) :
    (encodeProgram (code.map (Instruction.reread other))).2 = .ok bytes := by
  obtain ⟨address, l⟩ := (encodeProgram_ok hs).1 h
  exact (encodeProgram_ok (isScoped_reread other code)).2
    ⟨address, l.map fun inst hm => alike_reread (hl inst hm) other⟩

/-- **Decoded instructions encode the code that they were decoded from, and so do the instructions
that their listing assembles to.** -/
theorem disassemble_reproduces (scope other : Scope) (code : Bytes) :
    let program := disassemble scope code
    codeSize program ≤ code.length ∧
      (encodeProgram program).2 = .ok (code.take (codeSize program)) ∧
      ∃ read, assemble .empty other (render program) = .ok read ∧
        (encodeProgram read).2 = .ok (code.take (codeSize program)) := by
  intro program
  have hdecoded : Decoded 0 program code := decoded_disassemble scope code
  have hencoded : (encodeProgram program).2 = .ok (code.take (codeSize program)) :=
    (encodeProgram_ok (hdecoded.isScoped scope)).2 ⟨_, hdecoded.linked fun _ => 0⟩
  exact ⟨hdecoded.codeSize_le, hencoded, _,
    assemble_render hdecoded.isListable hdecoded.not_isSingleDigit,
    encodeProgram_reread (hdecoded.isScoped scope) hdecoded.isListable hencoded⟩

/-! ## Assembled texts -/

/-- The number that an operand writes, if it is no label. -/
def Operand.number? : Operand → Option Nat
  | .bytes content => some (ofBigEndian content)
  | .int value => some value.toNat
  | .label _ => none

/-- An instruction is the same as another up to the form of the number that it pushes. -/
structure SameInstruction (a b : Instruction) : Prop where
  opcode : b.opcode = a.opcode
  label : b.label = a.label
  reference : reference? b = reference? a
  number : b.operand.bind Operand.number? = a.operand.bind Operand.number?
  data : a.opcode = .data → b.operand = a.operand

/-- An assembled instruction is read back. -/
theorem sameInstruction_reread {scope other : Scope} {inst : Instruction}
    (h : IsAssembled scope inst) : SameInstruction inst (inst.reread other) := by
  obtain ⟨⟨-, hlistable⟩, hop, -⟩ := h
  obtain ⟨opcode, operand, label, source, offset, own⟩ := inst
  cases hlistable with
  | undefined hw => exact absurd rfl (Opcode.ne_undefined_of_mem_named hop _)
  | data content => exact ⟨rfl, rfl, rfl, rfl, fun _ => rfl⟩
  | plain hop hd hw =>
    rw [Instruction.reread_of_named hop hd]
    exact ⟨rfl, rfl, rfl, rfl, fun _ => rfl⟩
  | @push _ operand hop hw ho =>
    have hd : opcode ≠ .data := by
      rintro rfl
      exact hw rfl
    rw [Instruction.reread_of_named hop hd]
    cases operand with
    | bytes content =>
      exact ⟨rfl, rfl, rfl, congrArg some (toNat_ofBigEndian ho.2), fun h => absurd h hd⟩
    | int value => exact ⟨rfl, rfl, rfl, rfl, fun _ => rfl⟩
    | label target => exact ⟨rfl, rfl, rfl, rfl, fun _ => rfl⟩

/-- **The listing of an assembled text assembles exactly if no number in it is written with a single
digit**, and then to the same instructions, position by position, with the same code. -/
theorem assemble_reproduces {env : Environment} {scope : Scope} {text : String}
    {code : List Instruction} (h : assemble env scope text = .ok code) (other : Scope) :
    ((∃ read, assemble .empty other (render code) = .ok read) ↔
      ∀ inst ∈ code, ∀ value, inst.operand = some (.int value) → 16 ≤ value.toNat) ∧
    ∀ read, assemble .empty other (render code) = .ok read →
      List.Forall₂ SameInstruction code read ∧
        ∀ bytes, (encodeProgram code).2 = .ok bytes → (encodeProgram read).2 = .ok bytes := by
  have hassembled := isAssembled_of_assemble h
  have hlistable : ∀ inst ∈ code, inst.IsListable := fun inst hm => (hassembled inst hm).listable
  have hscoped : IsScoped scope code := fun inst hm _ => (hassembled inst hm).scope
  have hread (hs : ∀ inst ∈ code, ∀ operand ∈ inst.operand, ¬ Line.IsSingleDigit operand) :
      assemble .empty other (render code) = .ok (code.map (Instruction.reread other)) :=
    assemble_render hlistable hs
  refine ⟨⟨?_, fun hlarge => ⟨_, hread ?_⟩⟩, fun read hr => ?_⟩
  · rintro ⟨read, hr⟩ inst hm value ho
    exact Nat.not_lt.1 (not_isSingleDigit_of_assemble_render hlistable hr inst hm _ ho)
  · rintro inst hm (_ | value | _) ho hs
    · exact hs
    · exact Nat.not_lt.2 (hlarge inst hm value ho) hs
    · exact hs
  · rw [hread (not_isSingleDigit_of_assemble_render hlistable hr), Except.ok.injEq] at hr
    subst hr
    refine ⟨List.forall₂_map_right_iff.2 (List.forall₂_same.2 fun inst hm =>
      sameInstruction_reread (hassembled inst hm)), fun bytes hb => ?_⟩
    exact encodeProgram_reread hscoped hlistable hb

/-- PUSH1 of a number. -/
def pushOne (value : Word) : Instruction :=
  { opcode := .pushN 1, operand := some (.int value), scope := some ⟨0⟩ }

/-- A text with a number of two digits is read, written and read again. -/
theorem assemble_reproduces_two_digits :
    assemble .empty ⟨0⟩ "PUSH1 0x10" = .ok [pushOne 0x10] ∧
      ∃ read, assemble .empty ⟨0⟩ (render [pushOne 0x10]) = .ok read ∧
        List.Forall₂ SameInstruction [pushOne 0x10] read ∧
        ∀ bytes, (encodeProgram [pushOne 0x10]).2 = .ok bytes →
          (encodeProgram read).2 = .ok bytes := by
  have h : assemble .empty ⟨0⟩ "PUSH1 0x10" = .ok [pushOne 0x10] := by decide +kernel
  obtain ⟨hiff, hsame⟩ := assemble_reproduces h ⟨0⟩
  obtain ⟨read, hr⟩ := hiff.2 (by simp [pushOne])
  exact ⟨h, read, hr, hsame read hr⟩

/-- The listing of a text with a number of a single digit is refused. -/
theorem refused_single_digit :
    assemble .empty ⟨0⟩ "PUSH1 0x01" = .ok [pushOne 1] ∧ render [pushOne 1] = "PUSH1 0x1" ∧
      assemble .empty ⟨0⟩ (render [pushOne 1]) = .error (.line 1 (.hexLength "0x1")) := by
  decide +kernel

end EvmProbe
