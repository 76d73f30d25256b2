import EvmProbe.Proofs.Bytecode.Coverage
import EvmProbe.Proofs.Image.Labels

/-!
Which instructions of the deployed code an image keeps.

An image holds the expansions of the instructions that were decoded, and its jump router knows the
JUMPDESTs among them.  Not all that the machine can get to is decoded.

* `live_not_decoded`: an instruction in front of one that is cut off is lost, and so is a jump
  destination behind a gap.
* `kept_iff_not_lost`: nothing else that the machine can get to is lost.
-/

namespace EvmProbe

open Bytecode
open Opcode (widthOfByte)

namespace Patcher

/-- An instruction was decoded at an offset, and the runtime holds its expansion. -/
def Kept (patcher : Patcher) (first : Scope) (code : Bytes) (offset : Nat) : Prop :=
  ∃ i inst, (disassemble first code)[i]? = some inst ∧ inst.source = some offset ∧
    patcher.expansion first code (inst, i) <:+: patcher.runtime first code

/-- The jump router of an image has a test for a destination. -/
def Routed (patcher : Patcher) (first : Scope) (code : Bytes) (destination : Nat) : Prop :=
  duplicate (routerScope first code) (Image.jumpCase destination) <:+:
    Image.jumpRouter (routerScope first code) (patcher.runtime first code)

section
variable {patcher : Patcher} {base first : Scope} {code : Bytes} {offset : Nat} {byte : UInt8}

/-- The runtime holds the expansion of every decoded instruction. -/
theorem kept_iff : Kept patcher first code offset ↔
    ∃ inst ∈ disassemble first code, inst.source = some offset := by
  constructor
  · rintro ⟨i, inst, hi, hs, -⟩
    exact ⟨inst, List.mem_of_getElem? hi, hs⟩
  · rintro ⟨inst, hm, hs⟩
    obtain ⟨i, hi⟩ := List.mem_iff_getElem?.1 hm
    refine ⟨i, inst, hi, hs, ?_⟩
    rw [runtime, expansions_eq hi, ← List.singleton_append]
    simp only [List.append_assoc]
    exact ((List.prefix_append _ _).isInfix.trans (List.suffix_append _ _).isInfix).trans
      (List.suffix_append _ _).isInfix

/-- The router tests for the destinations of the runtime. -/
theorem routed_iff : Routed patcher first code offset ↔
    offset ∈ Image.destinations (patcher.runtime first code) := by
  constructor
  · intro h
    let scope := routerScope first code
    have hm : ((Instruction.plain .jumpdest).labelled (Image.nextLabel offset)).inScope scope ∈
        duplicate scope (Image.jumpCase offset) := by simp [duplicate, Image.jumpCase]
    have hd : (Image.nextLabel offset).entryIn scope ∈
        declaredIn (Image.jumpRouter scope (patcher.runtime first code)) :=
      List.mem_filterMap.2 ⟨_, h.subset hm, rfl⟩
    rw [declaredIn_jumpRouter] at hd
    rcases List.mem_cons.1 hd with hd | hd
    · cases hd
    · obtain ⟨d, hd, he⟩ := List.mem_map.1 hd
      rwa [← Image.nextLabel_inj.1 (Label.entryIn_inj.1 he)]
  · intro h
    obtain ⟨before, after, hds⟩ := List.append_of_mem h
    refine ⟨duplicate (routerScope first code)
      ((Instruction.plain .jumpdest).labelled (.global "jump-router") ::
        before.flatMap Image.jumpCase), duplicate (routerScope first code)
      (after.flatMap Image.jumpCase ++ [.plain .invalid]), ?_⟩
    rw [Image.jumpRouter, hds]
    simp [duplicate]

/-- A jump destination is a full instruction. -/
theorem destination_full (h : IsDestination code offset) :
    offset + (1 + widthOfByte jumpdestByte) ≤ code.length :=
  (List.getElem?_eq_some_iff.1 (getElem?_of_mem_marks h)).1

/-- What is decoded as a JUMPDEST is a jump destination. -/
theorem isDestination_of_mem {inst : Instruction} (hm : inst ∈ disassemble first code)
    (hj : inst.opcode = .jumpdest) (hs : inst.source = some offset) :
    IsDestination code offset := by
  obtain ⟨byte, hb, hop⟩ := (decoded_disassemble first code).mem_marksFrom hm hs
  rw [hj] at hop
  rwa [ofByte_eq_jumpdest.1 hop.symm] at hb

/-- **What the machine can get to is kept unless it is lost**: decoding stopped at a gap in front of
it, or its scope is cut off. The router has a test for every jump destination that is not lost, and
for no other offset. -/
theorem kept_iff_not_lost {options : PatchOptions} (hp : Patcher.new options base = .ok patcher)
    (first : Scope) (code : Bytes) :
    (∀ offset byte, Live code offset → code[offset]? = some byte →
      offset + (1 + widthOfByte byte) ≤ code.length →
        (Kept patcher first code offset ↔ ¬ Lost (marks code) code.length offset)) ∧
      ∀ destination, Routed patcher first code destination ↔
        IsDestination code destination ∧ ¬ Lost (marks code) code.length destination := by
  obtain ⟨-, hp⟩ := assembled_of_new hp
  refine ⟨fun offset byte hlive hb hfull => ?_, fun destination => ?_⟩
  · obtain ⟨⟨_, b⟩, hm, rfl⟩ := List.mem_map.1 (hlive.isMark (by omega))
    obtain rfl : b = byte := Option.some.inj ((getElem?_of_mem_marks hm).symm.trans hb)
    exact kept_iff.trans (exists_decoded_iff hm hfull)
  · rw [routed_iff, destinations_runtime hp, mem_destinations]
    constructor
    · rintro ⟨inst, hm, hj, hs⟩
      have hd := isDestination_of_mem hm hj hs
      exact ⟨hd, (exists_decoded_iff hd (destination_full hd)).1 ⟨inst, hm, hs⟩⟩
    · rintro ⟨hd, hl⟩
      obtain ⟨inst, hm, hs⟩ := (exists_decoded_iff hd (destination_full hd)).2 hl
      obtain ⟨b, hb, hop⟩ := (decoded_disassemble first code).mem_marksFrom hm hs
      have hbyte : b = jumpdestByte :=
        Option.some.inj ((getElem?_of_mem_marks hb).symm.trans (getElem?_of_mem_marks hd))
      exact ⟨inst, hm, by rw [hop, hbyte]; rfl, hs⟩

/-- Of two scopes, the first is kept, and the second is cut off. -/
theorem kept_first_scope : ∃ patcher, Patcher.new {} ⟨0⟩ = .ok patcher ∧
    (Live [0x5b, 0x00, 0x5b, 0x61, 0x01] 0 ∧
      Kept patcher firstScope [0x5b, 0x00, 0x5b, 0x61, 0x01] 0 ∧
      Routed patcher firstScope [0x5b, 0x00, 0x5b, 0x61, 0x01] 0) ∧
    Live [0x5b, 0x00, 0x5b, 0x61, 0x01] 2 ∧
      ¬ Kept patcher firstScope [0x5b, 0x00, 0x5b, 0x61, 0x01] 2 ∧
      ¬ Routed patcher firstScope [0x5b, 0x00, 0x5b, 0x61, 0x01] 2 := by
  obtain ⟨patcher, hp, -⟩ := exists_new {} ⟨0⟩
  obtain ⟨hkept, hrouted⟩ := kept_iff_not_lost hp firstScope [0x5b, 0x00, 0x5b, 0x61, 0x01]
  have hzero : ¬ Lost (marks [0x5b, 0x00, 0x5b, 0x61, 0x01]) 5 0 := by decide
  have htwo : Lost (marks [0x5b, 0x00, 0x5b, 0x61, 0x01]) 5 2 := by decide
  have hlive : Live [0x5b, 0x00, 0x5b, 0x61, 0x01] 2 := .destination (by decide)
  exact ⟨patcher, hp,
    ⟨.start, (hkept 0 0x5b .start rfl (by decide)).2 hzero, (hrouted 0).2 ⟨by decide, hzero⟩⟩,
    hlive, fun h => (hkept 2 0x5b hlive rfl (by decide)).1 h htwo,
    fun h => ((hrouted 2).1 h).2 htwo⟩

end

/-- The machine can get to a JUMPDEST in front of a push that is cut off, and to a JUMPDEST behind a
byte that follows STOP, and neither is decoded. -/
theorem live_not_decoded :
    ¬ (∀ (code : Bytes) (offset : Nat) (byte : UInt8), Live code offset →
      code[offset]? = some byte → offset + (1 + widthOfByte byte) ≤ code.length →
        ∃ inst ∈ disassemble ⟨0⟩ code, inst.source = some offset) ∧
      ¬ ∀ (code : Bytes) (destination : Nat), IsDestination code destination →
        destination ∈ Image.destinations (disassemble ⟨0⟩ code) := by
  constructor
  · intro h
    obtain ⟨inst, hm, -⟩ := h [0x5b, 0x60] 0 0x5b .start rfl (by decide)
    have hnone : disassemble ⟨0⟩ [0x5b, 0x60] = [] := by decide
    simp [hnone] at hm
  · intro h
    have := h [0x00, 0x01, 0x5b, 0x00] 2 (by decide)
    revert this
    decide

end Patcher

end EvmProbe
