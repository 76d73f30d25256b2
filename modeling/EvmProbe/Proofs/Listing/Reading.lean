import EvmProbe.Proofs.Bytes
import EvmProbe.Proofs.Listing.Words
import EvmProbe.Proofs.Program.Scoped

/-!
What instructions become when their listing is read back.

A listing has no undefined bytes, and no bytes as the operand of a push: the first become raw bytes
and the second the number that they write (`Instruction.reread`).

* `Listable`: the instructions that a listing can write.
* `alike_reread`: a listable instruction is encoded like what is read back.
-/

namespace EvmProbe

open Linking

/-- Up to 32 bytes write the number of a word. -/
theorem toNat_ofBigEndian {content : Bytes} (h : content.length ≤ 32) :
    (BitVec.ofNat 256 (ofBigEndian content)).toNat = ofBigEndian content :=
  Nat.mod_eq_of_lt (Nat.lt_of_lt_of_le (ofBigEndian_lt content) (capacity_le h))

/-- What the operand of a push is read back as: bytes become the number that they write. -/
def Operand.reread : Operand → Operand
  | .bytes content => .int (BitVec.ofNat 256 (ofBigEndian content))
  | operand => operand

/-- What an instruction is read back as: an undefined byte becomes a run of one raw byte. -/
def Instruction.reread (scope : Scope) (inst : Instruction) : Instruction :=
  match inst.opcode with
  | .undefined byte => { Instruction.data [byte] with label := inst.label, scope := some scope }
  | .data =>
    { opcode := .data, operand := inst.operand, label := inst.label, scope := some scope }
  | opcode =>
    { opcode, operand := inst.operand.map Operand.reread, label := inst.label
      scope := some scope }

/-- An operand that can be written behind a push. -/
def Operand.IsListable : Operand → Prop
  | .bytes content => 0 < content.length ∧ content.length ≤ 32
  | .int _ => True
  | .label target => Label.isName target.name.toList = true

/-- An operand goes with an opcode in a listing. -/
inductive Listable : Opcode → Option Operand → Prop
  | undefined {byte : UInt8} (hw : (Opcode.undefined byte).width = 0) :
    Listable (.undefined byte) none
  | data (content : Bytes) : Listable .data (some (.bytes content))
  | plain {op : Opcode} (hop : op ∈ Opcode.named) (hd : op ≠ .data) (hw : op.width = 0) :
    Listable op none
  | push {op : Opcode} {operand : Operand} (hop : op ∈ Opcode.named) (hw : op.width ≠ 0)
    (ho : operand.IsListable) : Listable op (some operand)

/-- A listing can write the instruction. -/
structure Instruction.IsListable (inst : Instruction) : Prop where
  label : ∀ target ∈ inst.label, Label.isName target.name.toList = true
  operand : Listable inst.opcode inst.operand

namespace Instruction
variable {inst : Instruction} {scope : Scope}

theorem reread_of_named (h : inst.opcode ∈ Opcode.named) (hd : inst.opcode ≠ .data) :
    inst.reread scope =
      { opcode := inst.opcode, operand := inst.operand.map Operand.reread, label := inst.label
        scope := some scope } := by
  unfold reread
  generalize inst.opcode = op at h hd ⊢
  cases op with
  | undefined byte => exact absurd rfl (Opcode.ne_undefined_of_mem_named h byte)
  | data => exact absurd rfl hd
  | _ => rfl

@[simp] theorem reread_label (scope : Scope) (inst : Instruction) :
    (inst.reread scope).label = inst.label := by
  unfold reread
  cases inst.opcode <;> rfl

@[simp] theorem reread_scope (scope : Scope) (inst : Instruction) :
    (inst.reread scope).scope = some scope := by
  unfold reread
  cases inst.opcode <;> rfl

/-- The encoding is that of the opcode and the operand. -/
theorem encoded?_congr {a b : Instruction} (hop : a.opcode = b.opcode)
    (ho : a.operand = b.operand) : a.encoded? = b.encoded? := by
  unfold encoded? immediate?
  rw [hop, ho]

theorem size_congr {a b : Instruction} (hop : a.opcode = b.opcode) (hd : a.opcode ≠ .data) :
    a.size = b.size := by
  have ha : a.opcode.toByte?.isSome :=
    Option.isSome_iff_ne_none.2 (mt Instruction.toByte?_eq_none.1 hd)
  rw [size_of_isSome ha, size_of_isSome (hop ▸ ha), hop]

/-- The number that the bytes of a push write is pushed as these bytes. -/
theorem encoded?_reread_bytes {a b : Instruction} {content : Bytes} (hop : a.opcode = b.opcode)
    (hd : a.opcode ≠ .data) (hw : a.opcode.width ≠ 0) (hl : content.length ≤ 32)
    (ha : a.operand = some (.bytes content))
    (hb : b.operand = some (.int (BitVec.ofNat 256 (ofBigEndian content))))
    (henc : a.encoded?.isSome) : b.encoded? = a.encoded? := by
  obtain ⟨byte, hbyte⟩ := Option.ne_none_iff_exists'.1 (mt toByte?_eq_none.1 hd)
  rw [encoded?_int (hop ▸ hbyte) (hop ▸ hw) hb, toNat_ofBigEndian hl, ← hop]
  unfold encoded? immediate? at henc ⊢
  rw [hbyte, ha] at henc ⊢
  dsimp only [Option.bind_some] at henc ⊢
  rw [if_neg hw, Operand.encode] at henc ⊢
  split at henc
  · next hfits =>
    have hlt := Nat.lt_of_lt_of_le (ofBigEndian_lt content) (capacity_le hfits)
    rw [if_pos hlt, if_pos hfits, bigEndian_ofBigEndian hfits]
    rfl
  · cases henc

end Instruction

open Instruction in
/-- **A listable instruction is encoded like what is read back.** -/
theorem alike_reread {inst : Instruction} (h : inst.IsListable) (scope : Scope) :
    Alike inst (inst.reread scope) := by
  obtain ⟨opcode, operand, label, source, offset, own⟩ := inst
  obtain ⟨-, h⟩ := h
  cases h with
  | @undefined byte hw =>
    have hsize : Instruction.size ⟨.undefined byte, none, label, source, offset, own⟩ =
        1 + (Opcode.undefined byte).width := size_of_toByte? rfl
    rw [hw] at hsize
    refine ⟨rfl, hsize.symm, rfl, fun address _ => ?_⟩
    exact (if_pos hw).symm
  | data content => exact ⟨rfl, rfl, rfl, fun _ _ => rfl⟩
  | plain hop hd hw =>
    rw [reread_of_named hop hd]
    exact ⟨rfl, size_congr rfl hd, rfl, fun _ _ => encoded?_congr rfl rfl⟩
  | @push _ operand hop hw ho =>
    have hd : opcode ≠ .data := by
      rintro rfl
      exact hw rfl
    rw [reread_of_named hop hd]
    refine ⟨rfl, size_congr rfl hd, ?_, fun address henc => ?_⟩
    · cases operand <;> rfl
    · cases operand with
      | bytes content => exact encoded?_reread_bytes rfl hd hw ho.2 rfl rfl henc
      | int value => exact encoded?_congr rfl rfl
      | label target => exact encoded?_congr rfl rfl

end EvmProbe
