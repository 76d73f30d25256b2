import EvmProbe.Proofs.Image.ReturnData

/-!
The bounds of RETURNDATACOPY in an image.

Unless only logs are reported, RETURNDATACOPY copies from the return data that the image has saved.
It compares the sum of offset and size with the size of what is saved.  The sum is a word: as long
as it does not wrap around, the bounds are those of the opcode.

* `load_lt_wrapped_iff`: what is compared.
* `boundsCopies_of_patchFrom`: **RETURNDATACOPY fails exactly behind the end of saved return data,
  modulo the size of words**.
* `misses_copy_bound`: behind a wrap-around it copies a byte that is no return data.
-/

namespace EvmProbe

open Bytecode Linking StateTransition

namespace Memory.Saves
variable {memory : Memory} {data : Bytes}

/-- The end of what is asked for is compared as a word. -/
theorem load_lt_wrapped_iff (h : memory.Saves data) (offset size : Word) :
    memory.load 0xa000#256 < offset + size ↔
      data.length < (offset.toNat + size.toNat) % 2 ^ 256 := by
  rw [BitVec.lt_def, h.toNat_size, BitVec.toNat_add]

/-- What is copied below scratch memory spares saved return data. -/
theorem write_below (h : memory.Saves data) {dst size : Word} (hb : Below (dst, size))
    {bytes : Bytes} (hl : bytes.length = size.toNat) :
    (memory.write dst.toNat bytes).Saves data := by
  rcases hb with h0 | hb
  · rw [List.eq_nil_of_length_eq_zero (hl.trans h0), Memory.write_nil]
    exact h
  · refine h.of_changesWithin (.write memory (Nat.zero_le _) (Nat.le_refl _)) (.inl ?_)
    rw [hl]
    exact Nat.le_trans hb (by decide)

end Memory.Saves

namespace Patcher

/-- The `i`-th instruction of the deployed code, a RETURNDATACOPY, copies from the return data that
an image has saved. -/
structure BoundsCopies {Ω : Type} (outside : Outside Ω) (origin : Address) (patcher : Patcher)
    (first : Scope) (code image : Bytes) (i : Nat) : Prop where
  /-- Behind the end of it, it halts exceptionally. -/
  halts : ∀ (m : Memory) (world : World Ω) (data : Bytes) (dst offset size : Word) (s : List Word),
    m.Saves data → data.length < (offset.toNat + size.toNat) % 2 ^ 256 →
    (outside.machine origin).Passes image (OffSite patcher first code)
      (.running (expansionStart patcher first code i) ⟨dst :: offset :: size :: s, m, world⟩)
      (.halted (.failed m world))
  /-- Within it, it writes the part that is asked for, changes nothing else, and goes on; below
  scratch memory it spares what is saved. -/
  copies : ∀ (m : Memory) (world : World Ω) (data : Bytes) (dst offset size : Word) (s : List Word),
    m.Saves data → offset.toNat + size.toNat ≤ data.length →
    let after := m.write dst.toNat ((data.drop offset.toNat).take size.toNat)
    (∃ returnData, (outside.machine origin).Passes image (OffSite patcher first code)
      (.running (expansionStart patcher first code i) ⟨dst :: offset :: size :: s, m, world⟩)
      (.running (expansionStart patcher first code (i + 1))
        ⟨s, after, ⟨returnData, world.outer⟩⟩)) ∧
    (Below (dst, size) → after.Saves data)
  /-- If it ends behind it but wraps around to an offset within it, it writes other memory. -/
  wraps : ∀ (m : Memory) (world : World Ω) (data : Bytes) (dst offset size : Word) (s : List Word),
    m.Saves data → data.length < offset.toNat + size.toNat →
    (offset.toNat + size.toNat) % 2 ^ 256 ≤ data.length → 2 ^ 256 ≤ offset.toNat + size.toNat ∧
    ∃ returnData, (outside.machine origin).Passes image (OffSite patcher first code)
      (.running (expansionStart patcher first code i) ⟨dst :: offset :: size :: s, m, world⟩)
      (.running (expansionStart patcher first code (i + 1)) ⟨s, m.write dst.toNat
        (m.read ((0xa020 + offset.toNat) % 2 ^ 256) size.toNat), ⟨returnData, world.outer⟩⟩)

/-- A site of RETURNDATACOPY. -/
theorem boundsCopies_site {Ω : Type} (outside : Outside Ω) (origin : Address) {patcher : Patcher}
    {base first : Scope} {code image : Bytes} {table : Table} {i : Nat} {inst : Instruction}
    (hp : patcher.Assembled base)
    (w : Written (patcher.leading code ++ patcher.instrumented first code) table image)
    (hsize : image.length ≤ 2 ^ 256) (hl : patcher.options.logsOnly = false)
    (hi : (disassemble first code)[i]? = some inst) (ho : inst.opcode = .returndatacopy) :
    BoundsCopies outside origin patcher first code image i where
  halts m world data dst offset size s hm hout :=
    passes_returndatacopy_beyond outside origin hp w m world hi hl hsize ho dst offset size s
      ((hm.load_lt_wrapped_iff offset size).2 hout)
  copies m world data dst offset size s hm hin := by
    refine ⟨?_, fun hb => hm.write_below hb ?_⟩
    · have hbounded := hm.bounded
      have hrun := passes_returndatacopy outside origin hp w m world hi hl hsize ho dst offset size
        s (by rw [hm.load_lt_iff (by omega)]; omega)
      rw [hm.read_part hin] at hrun
      exact ⟨_, hrun⟩
    · rw [List.length_take, List.length_drop]
      omega
  wraps m world data dst offset size s hm hout hin := by
    refine ⟨Nat.le_of_not_lt fun hlt => ?_, ?_⟩
    · rw [Nat.mod_eq_of_lt hlt] at hin
      exact Nat.not_lt.2 hin hout
    · have hrun := passes_returndatacopy outside origin hp w m world hi hl hsize ho dst offset size
        s (by rw [hm.load_lt_wrapped_iff offset size]; exact Nat.not_lt.2 hin)
      rw [BitVec.toNat_add] at hrun
      exact ⟨_, hrun⟩

/-- **RETURNDATACOPY of the deployed code fails exactly behind the end of saved return data**, where
the end of what is asked for is a word, and else it copies and goes on. -/
theorem boundsCopies_of_patchFrom {Ω : Type} (outside : Outside Ω) (origin : Address)
    {options : PatchOptions} {patcher : Patcher} {base first : Scope} {code image : Bytes}
    (hp : Patcher.new options base = .ok patcher) (h : patcher.patchFrom first code = .ok image)
    (hsize : image.length ≤ 2 ^ 256) (hl : options.logsOnly = false) {i : Nat} {inst : Instruction}
    (hi : (disassemble first code)[i]? = some inst) (ho : inst.opcode = .returndatacopy) :
    BoundsCopies outside origin patcher first code image i := by
  obtain ⟨rfl, ha⟩ := assembled_of_new hp
  have hc : code ≠ [] := by
    rintro rfl
    cases hi
  obtain ⟨table, w⟩ := patchFrom_ok hc h
  exact boundsCopies_site outside origin ha w hsize hl hi ho

/-- RETURNDATACOPY behind three zeros, with saved return data of one byte. -/
theorem boundsCopies_three_zeros : ∃ patcher image, Patcher.new {} ⟨0⟩ = .ok patcher ∧
    patcher.patch [0x5f, 0x5f, 0x5f, 0x3e, 0x00] = .ok image ∧ image.length ≤ 2 ^ 256 ∧
    (disassemble firstScope [0x5f, 0x5f, 0x5f, 0x3e, 0x00])[3]?.map (·.opcode) =
      some .returndatacopy ∧
    BoundsCopies (.answering 0x2a) 0 patcher firstScope [0x5f, 0x5f, 0x5f, 0x3e, 0x00] image 3 ∧
    ∃ m : Memory, m.Saves [0x2a] := by
  obtain ⟨patcher, image, hp, himg, hl⟩ := exists_image_of_length ⟨0⟩ firstScope
    [0x5f, 0x5f, 0x5f, 0x3e, 0x00] {} (by decide) (by simp [AddressMap.empty]) (by decide)
  have hsize : image.length ≤ 2 ^ 256 := Nat.le_trans hl (by decide)
  have hbounds := boundsCopies_of_patchFrom (.answering 0x2a) 0 hp himg hsize rfl (i := 3) rfl rfl
  refine ⟨patcher, image, hp, himg, hsize, rfl, hbounds, fun i =>
    if i = 0xa01f then 1 else if i = 0xa020 then 0x2a else 0, by simp, ?_, by simp [Memory.read]⟩
  rw [Memory.load, Memory.read]
  decide

/-- RETURNDATACOPY of one byte from the largest offset to the start of memory. -/
def copyLast : Bytes := [0x60, 0x01, 0x5f, 0x19, 0x5f, 0x3e, 0x00]

/-- With a size of one and the largest offset, RETURNDATACOPY copies the last byte of the saved size
and goes on, though nothing was returned. -/
theorem misses_copy_bound : ∃ patcher image, Patcher.new {} ⟨0⟩ = .ok patcher ∧
    patcher.patch copyLast = .ok image ∧ ∃ m : Memory, m.Saves [] ∧
    ([] : Bytes).length < (~~~0 : Word).toNat + (1 : Word).toNat ∧
    Reaches (((Outside.answering 0x2a).machine 0).step image)
      (.running 0 ⟨[], fun _ => 0, ⟨[], ()⟩⟩)
      (.running (expansionStart patcher firstScope copyLast 4) ⟨[0, ~~~0, 1], m, ⟨[], ()⟩⟩) ∧
    ∃ returnData, Reaches (((Outside.answering 0x2a).machine 0).step image)
      (.running (expansionStart patcher firstScope copyLast 4) ⟨[0, ~~~0, 1], m, ⟨[], ()⟩⟩)
      (.running (expansionStart patcher firstScope copyLast 5)
        ⟨[], m.write 0 (m.read 0xa01f 1), ⟨returnData, ()⟩⟩) := by
  obtain ⟨patcher, image, table, hp, himg, hsize, ho, ha, w⟩ := exists_written {}
    copyLast (by decide) (by decide) rfl
  have hsaves : Memory.Saves (fun _ => 0) [] := holds_start false ()
  -- the operands of the copy
  have hentry := passes_entry ha w hsize ((Outside.answering 0x2a).machine 0)
    ⟨[], fun _ => 0, ⟨[], ()⟩⟩ (fun _ _ => trivial)
  have hpush {i : Nat} {inst : Instruction} (hi : (disassemble firstScope copyLast)[i]? = some inst)
      (hopcode : (∃ width, inst.opcode = .push width) ∨ inst.opcode = .not) (s : List Word) :
      (((Outside.answering 0x2a).machine 0)).Passes image (OffSite patcher firstScope copyLast)
        (.running (expansionStart patcher firstScope copyLast i) ⟨s, fun _ => 0, ⟨[], ()⟩⟩)
        (.after ((((Outside.answering 0x2a).machine 0).act inst.opcode inst.pushed
          ⟨s, fun _ => 0, ⟨[], ()⟩⟩).map fun next =>
            (expansionStart patcher firstScope copyLast (i + 1), next))) := by
    rcases hopcode with ⟨width, hopcode⟩ | hopcode <;>
      exact passes_kept (.answering 0x2a) 0 ha w hi (by rw [hopcode]; rfl)
        (by rw [hopcode, ho]; rfl) (by simp [hopcode]) (by simp [hopcode]) _
  have hone := hpush (i := 0) rfl (.inl ⟨_, rfl⟩) []
  have hzero := hpush (i := 1) rfl (.inl ⟨_, rfl⟩) [1]
  have hnot := hpush (i := 2) rfl (.inr rfl) [0, 1]
  have hdst := hpush (i := 3) rfl (.inl ⟨_, rfl⟩) [~~~0, 1]
  obtain ⟨-, returnData, hcopy⟩ := (boundsCopies_site (.answering 0x2a) 0 ha w hsize (by rw [ho])
    (i := 4) rfl rfl).wraps (fun _ => 0) ⟨[], ()⟩ [] 0 (~~~0) 1 [] hsaves (by decide) (by decide)
  have hrun := ((hentry.reaches₁.trans hone.reaches₁).trans hzero.reaches₁).trans
    (hnot.reaches₁.trans hdst.reaches₁)
  exact ⟨patcher, image, hp, himg, _, hsaves, by decide, hrun.to_reflTransGen, returnData,
    hcopy.reaches₁.to_reflTransGen⟩

end Patcher

end EvmProbe
