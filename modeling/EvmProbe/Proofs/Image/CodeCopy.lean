import EvmProbe.Proofs.Image.Sites
import EvmProbe.Proofs.Image.Targets

/-!
What an image copies of itself.

The patch of CODECOPY adds the size of the preamble to the source, as a word.  There the image holds
the deployed code and its zeros, but behind these the runtime, where a copy of the deployed code
gives zeros for ever.

* `codeByte_image`: what an image holds behind the preamble.
* `copies_deployed_iff`: a copy is one of the deployed code exactly if it ends within the zeros.
* `reaches_codecopy`: a run from the site of CODECOPY writes these bytes, and so those of the
  deployed code if they end within the zeros (`reaches_codecopy_deployed`).
-/

namespace EvmProbe

open Bytecode Linking StateTransition

/-- The byte of code at an offset; behind the end there are zeros. -/
def codeByte (code : Bytes) (offset : Nat) : UInt8 := code.getD offset 0

/-- The bytes of code that are copied from an offset on; behind its end there are zeros. -/
def extracted (code : Bytes) (source size : Word) : Bytes :=
  (List.range size.toNat).map fun index => codeByte code (source.toNat + index)

/-- The byte of an index that the patch of CODECOPY copies from a source. -/
def copiedByte (image : Bytes) (source : Word) (index : Nat) : UInt8 :=
  codeByte image ((source + BitVec.ofNat 256 Environment.preambleSize).toNat + index)

theorem codeByte_append_left {a : Bytes} (b : Bytes) {offset : Nat} (h : offset < a.length) :
    codeByte (a ++ b) offset = codeByte a offset := by
  simp [codeByte, List.getD_eq_getElem?_getD, List.getElem?_append_left h]

theorem codeByte_append_right {a : Bytes} (b : Bytes) (offset : Nat) :
    codeByte (a ++ b) (a.length + offset) = codeByte b offset := by
  simp [codeByte, List.getD_eq_getElem?_getD, List.getElem?_append_right]

/-- Zeros behind code change no byte of it. -/
theorem codeByte_append_zeros (code : Bytes) (count offset : Nat) :
    codeByte (code ++ List.replicate count 0) offset = codeByte code offset := by
  rcases Nat.lt_or_ge offset code.length with hlt | hge
  · exact codeByte_append_left _ hlt
  · obtain ⟨k, rfl⟩ := Nat.exists_eq_add_of_le hge
    rw [codeByte_append_right]
    simp [codeByte, List.getD_eq_getElem?_getD, List.getElem?_replicate]
    split <;> rfl

namespace Patcher
variable {patcher : Patcher} {base first : Scope} {code image : Bytes}

/-- **Behind the preamble an image holds the deployed code and its zeros, and then a JUMPDEST** and
whatever follows it. -/
theorem codeByte_image (hp : patcher.Assembled base) (hc : code ≠ [])
    (h : patcher.patchFrom first code = .ok image) : ∃ rest, ∀ offset,
      codeByte image (Environment.preambleSize + offset) =
        if offset < code.length + padding then codeByte code offset
        else codeByte (0x5b :: rest) (offset - (code.length + padding)) := by
  obtain ⟨table, w⟩ := patchFrom_ok hc h
  obtain ⟨front, hf, himg⟩ := image_eq hp w
  have hbehind : ∃ rest, (patcher.instrumented first code).flatMap
      (fun inst => (resolved table inst).encoded) = 0x5b :: rest := by
    rw [instrumented_eq, runtime]
    exact ⟨_, rfl⟩
  obtain ⟨rest, hrest⟩ := hbehind
  have hlength : (code ++ List.replicate padding 0).length = code.length + padding := by simp
  refine ⟨rest, fun offset => ?_⟩
  rw [himg, hrest, List.append_assoc, ← hf, codeByte_append_right, ← List.append_assoc]
  split
  · next hlt =>
    rw [codeByte_append_left _ (by rwa [hlength]), codeByte_append_zeros]
  · next hge =>
    obtain ⟨k, rfl⟩ := Nat.exists_eq_add_of_le (Nat.not_lt.1 hge)
    rw [← hlength, codeByte_append_right, Nat.add_sub_cancel_left]

/-- A source that does not wrap is moved behind the preamble. -/
theorem copiedByte_eq (image : Bytes) {source : Word} (index : Nat)
    (h : source.toNat + Environment.preambleSize < 2 ^ 256) :
    copiedByte image source index =
      codeByte image (Environment.preambleSize + (source.toNat + index)) := by
  have hsum : (source + BitVec.ofNat 256 Environment.preambleSize).toNat =
      source.toNat + Environment.preambleSize := Nat.mod_eq_of_lt h
  rw [copiedByte, hsum]
  congr 1
  omega

/-- Up to the end of the zeros the copied bytes are those of the deployed code. -/
theorem copiedByte_of_fits (hp : patcher.Assembled base) (hc : code ≠ [])
    (h : patcher.patchFrom first code = .ok image) {source : Word} {index : Nat}
    (hw : source.toNat + Environment.preambleSize < 2 ^ 256)
    (hi : source.toNat + index < code.length + padding) :
    copiedByte image source index = codeByte code (source.toNat + index) := by
  obtain ⟨rest, hrest⟩ := codeByte_image hp hc h
  rw [copiedByte_eq image index hw, hrest, if_pos hi]

/-- The byte behind the zeros is the JUMPDEST of the runtime. -/
theorem copiedByte_of_behind (hp : patcher.Assembled base) (hc : code ≠ [])
    (h : patcher.patchFrom first code = .ok image) {source : Word} {index : Nat}
    (hw : source.toNat + Environment.preambleSize < 2 ^ 256)
    (hi : source.toNat + index = code.length + padding) :
    copiedByte image source index = 0x5b ∧ codeByte code (source.toNat + index) = 0 := by
  obtain ⟨rest, hrest⟩ := codeByte_image hp hc h
  constructor
  · rw [copiedByte_eq image index hw, hrest, hi, if_neg (Nat.lt_irrefl _), Nat.sub_self]
    rfl
  · rw [codeByte, List.getD_eq_getElem?_getD, List.getElem?_eq_none (by omega)]
    rfl

/-- **A copy that starts within the deployed code and its zeros is one of the deployed code exactly
if it ends there too.** -/
theorem copies_deployed_iff {options : PatchOptions} (hp : Patcher.new options base = .ok patcher)
    (hc : code ≠ []) (h : patcher.patchFrom first code = .ok image) {source : Word}
    (hw : source.toNat + Environment.preambleSize < 2 ^ 256)
    (hs : source.toNat ≤ code.length + padding) (size : Nat) :
    (∀ index < size, copiedByte image source index = codeByte code (source.toNat + index)) ↔
      source.toNat + size ≤ code.length + padding := by
  obtain ⟨-, ha⟩ := assembled_of_new hp
  constructor
  · intro hall
    by_contra hlong
    have hindex : source.toNat + (code.length + padding - source.toNat) =
        code.length + padding := Nat.add_sub_cancel' hs
    obtain ⟨hcopied, hzero⟩ := copiedByte_of_behind ha hc h hw hindex
    rw [hall _ (by omega), hzero] at hcopied
    exact absurd hcopied (by decide)
  · exact fun hfits index hi => copiedByte_of_fits ha hc h hw (by omega)

/-- A copy of STOP and the zeros behind it. -/
theorem copies_deployed_stop : ∃ patcher image, Patcher.new {} ⟨0⟩ = .ok patcher ∧
    patcher.patch [0x00] = .ok image ∧
    ∀ index < 33, copiedByte image 0 index = codeByte [0x00] index := by
  obtain ⟨patcher, image, hp, himg, -⟩ := exists_image_of_length ⟨0⟩ firstScope [0x00] {}
    (by decide) (by simp [AddressMap.empty]) (by decide)
  have hcopy : ∀ index < 33,
      copiedByte image 0 index = codeByte [0x00] ((0 : Word).toNat + index) :=
    (copies_deployed_iff hp (by decide) himg (by decide) (by decide) 33).2 (by decide)
  exact ⟨patcher, image, hp, himg, by simpa using hcopy⟩

/-- Behind the zeros of STOP a copy gives a byte of the runtime, and not zero. -/
theorem copies_runtime_stop : ∃ patcher image, Patcher.new {} ⟨0⟩ = .ok patcher ∧
    patcher.patch [0x00] = .ok image ∧
    copiedByte image 33 0 = 0x5b ∧ codeByte [0x00] ((33 : Word).toNat + 0) = 0 := by
  obtain ⟨patcher, image, hp, himg, -⟩ := exists_image_of_length ⟨0⟩ firstScope [0x00] {}
    (by decide) (by simp [AddressMap.empty]) (by decide)
  exact ⟨patcher, image, hp, himg,
    copiedByte_of_behind (assembled_of_new hp).2 (by decide) himg (by decide) rfl⟩

end Patcher

/-! ## Runs from the site -/

/-- CODECOPY has its meaning: it copies from the code that runs. -/
def Outside.CopiesFrom {Ω : Type} (outside : Outside Ω) (running : Bytes) : Prop :=
  ∀ dst src size outer, ∃ effect,
    outside.perform .codecopy [dst, src, size] [] outer = some effect ∧
    (∀ index < size.toNat, effect.bytes index = codeByte running (src.toNat + index)) ∧
    effect.outer = outer

namespace Patcher
variable {Ω : Type} {outside : Outside Ω} {patcher : Patcher} {base first : Scope}
  {code image : Bytes} {i : Nat} {inst : Instruction}

/-- **The site of CODECOPY writes the copied bytes of the image** and gets to the next site. -/
theorem reaches_codecopy (copies : outside.CopiesFrom image) (origin : Address)
    (hp : patcher.Assembled base) (hc : code ≠ []) (h : patcher.patchFrom first code = .ok image)
    (hi : (disassemble first code)[i]? = some inst) (ho : inst.opcode = .codecopy)
    (dst src size : Word) (s : List Word) (m : Memory) (world : World Ω) :
    Reaches ((outside.machine origin).step image)
      (.running (expansionStart patcher first code i) ⟨dst :: src :: size :: s, m, world⟩)
      (.running (expansionStart patcher first code (i + 1))
        ⟨s, m.write dst.toNat ((List.range size.toNat).map (copiedByte image src)), world⟩) := by
  obtain ⟨table, w⟩ := patchFrom_ok hc h
  obtain ⟨effect, hperform, hbytes, houter⟩ :=
    copies dst (BitVec.ofNat 256 Environment.preambleSize + src) size world.outer
  have hmap : (List.range size.toNat).map effect.bytes =
      (List.range size.toNat).map (copiedByte image src) :=
    List.map_congr_left fun index hindex => by
      rw [hbytes index (List.mem_range.1 hindex), copiedByte, BitVec.add_comm]
  have hrun := passes_codecopy outside origin hp w hi ho dst src (size :: s) m world
  rw [Outside.act_copy _ _ _ _ _ _ (.inr rfl), hperform] at hrun
  dsimp only at hrun
  rw [hmap, houter] at hrun
  exact hrun.reaches₁.to_reflTransGen

/-- **A copy that ends within the zeros is the one that the deployed code would make** of itself. -/
theorem reaches_codecopy_deployed (copies : outside.CopiesFrom image) (origin : Address)
    (hp : patcher.Assembled base) (hc : code ≠ []) (h : patcher.patchFrom first code = .ok image)
    (hi : (disassemble first code)[i]? = some inst) (ho : inst.opcode = .codecopy)
    {src size : Word} (hw : src.toNat + Environment.preambleSize < 2 ^ 256)
    (hfits : src.toNat + size.toNat ≤ code.length + padding) (dst : Word) (s : List Word)
    (m : Memory) (world : World Ω) :
    Reaches ((outside.machine origin).step image)
      (.running (expansionStart patcher first code i) ⟨dst :: src :: size :: s, m, world⟩)
      (.running (expansionStart patcher first code (i + 1))
        ⟨s, m.write dst.toNat (extracted code src size), world⟩) := by
  have hmap : (List.range size.toNat).map (copiedByte image src) = extracted code src size :=
    List.map_congr_left fun index hindex =>
      copiedByte_of_fits hp hc h hw (by have := List.mem_range.1 hindex; omega)
  exact hmap ▸ reaches_codecopy copies origin hp hc h hi ho dst src size s m world

end Patcher

end EvmProbe
