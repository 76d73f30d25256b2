import EvmProbe.Proofs.Bytecode.Instructions
import EvmProbe.Proofs.Program.Scoped
import Mathlib.Data.List.Chain

/-!
Programs that are encoded and decoded again.

Decoding gives back all of an encoded program if it does not stop on the way: every terminator is
the last instruction, or a JUMPDEST follows it (`Unbroken`).

* `exists_sweep_encoded`: the encodings of an unbroken program are swept as its instructions, at
  the offsets where these are laid out.
* `disassemble_encodeProgram`: **decoding undoes encoding.**  Labels come back as the offsets of
  their declarations.
-/

namespace EvmProbe

open Linking Patcher
open Opcode (widthOfByte)

/-- Every terminator is the last instruction, or a JUMPDEST follows it. -/
def Unbroken (code : List Instruction) : Prop :=
  code.IsChain fun inst next => inst.opcode.isTerminator → next.opcode = .jumpdest

/-- The first instruction is a JUMPDEST, if there is one. -/
def StartsAtJumpdest (code : List Instruction) : Prop :=
  ∀ inst ∈ code.head?, inst.opcode = .jumpdest

/-- An unbroken program stays so without its first instruction, and starts at a JUMPDEST behind a
terminator. -/
theorem unbroken_cons {inst : Instruction} {code : List Instruction} :
    Unbroken (inst :: code) ↔
      (inst.opcode.isTerminator → StartsAtJumpdest code) ∧ Unbroken code := by
  cases code with
  | nil => simp [Unbroken, StartsAtJumpdest]
  | cons next code => simp [Unbroken, StartsAtJumpdest, List.isChain_cons_cons]

/-- Opcodes alone tell whether a program is unbroken. -/
theorem Unbroken.map {f : Instruction → Instruction} (hf : ∀ inst, (f inst).opcode = inst.opcode)
    {code : List Instruction} (h : Unbroken code) : Unbroken (code.map f) := by
  rw [Unbroken, List.isChain_map]
  simp only [hf]
  exact h

/-! ## Instructions -/

/-- An instruction is what a placed one comes back as: with its opcode, the offset where it was
placed, and the bytes that its operand was encoded as. -/
structure ComesBack (placed back : Instruction) : Prop where
  opcode : back.opcode = placed.opcode
  source : back.source = placed.offset
  operand : back.operand =
    if placed.opcode.width = 0 then none else placed.immediate?.map Operand.bytes

/-- An instruction with an encoding is a byte and as many immediate bytes as it asks for, which are
those of its operand. -/
theorem Instruction.exists_immediate {inst : Instruction} {byte : UInt8}
    (hop : inst.opcode = .ofByte byte) (h : inst.encoded?.isSome) : ∃ immediate,
      inst.encoded = byte :: immediate ∧ immediate.length = widthOfByte byte ∧
        (widthOfByte byte ≠ 0 → inst.immediate? = some immediate) := by
  have hb : inst.opcode.toByte? = some byte := by rw [hop, Opcode.toByte?_ofByte]
  obtain ⟨immediate, he, hl⟩ := exists_encoded hb h
  refine ⟨immediate, he, hl, fun hw => ?_⟩
  have hwidth : inst.opcode.width ≠ 0 := by rwa [hop, Opcode.width_ofByte]
  obtain ⟨bytes, hbytes⟩ := Option.isSome_iff_exists.1 h
  rw [encoded, hbytes, Option.getD_some] at he
  rw [encoded?, hb, he] at hbytes
  simpa [hwidth] using hbytes

theorem Instruction.immediate?_eq_some {inst : Instruction} {bytes : Bytes} :
    inst.immediate? = some bytes ↔ ∃ operand, inst.operand = some operand ∧
      operand.encode inst.opcode.width = .ok bytes := by
  rw [immediate?, Option.bind_eq_some_iff]
  refine exists_congr fun operand => and_congr_right fun _ => ?_
  cases operand.encode inst.opcode.width <;> simp [Except.toOption]

/-- What is decoded where an instruction is encoded. -/
theorem ComesBack.of_isDecoded {offset : Nat} {byte : UInt8} {immediate : Bytes}
    {inst back : Instruction} (hop : inst.opcode = .ofByte byte)
    (hi : widthOfByte byte ≠ 0 → inst.immediate? = some immediate)
    (hd : IsDecoded offset byte immediate back) : ComesBack (inst.place offset) back := by
  refine ⟨hd.opcode.trans hop.symm, hd.source, ?_⟩
  have hw : (inst.place offset).opcode.width = widthOfByte byte := by
    rw [show (inst.place offset).opcode = inst.opcode from rfl, hop, Opcode.width_ofByte]
  rw [hd.operand, hw]
  split
  · rfl
  · next h => rw [show (inst.place offset).immediate? = inst.immediate? from rfl, hi h]; rfl

/-- What is related entry by entry is so at an index. -/
theorem exists_getElem?_of_forall₂ {α β : Type} {r : α → β → Prop} {l : List α} {m : List β}
    (h : List.Forall₂ r l m) {i : Nat} {a : α} (ha : l[i]? = some a) :
    ∃ b, m[i]? = some b ∧ r a b := by
  induction h generalizing i with
  | nil => simp at ha
  | @cons a' b l m hr _ ih =>
    cases i with
    | zero =>
      cases ha
      exact ⟨b, rfl, hr⟩
    | succ i => exact ih ha

/-! ## Programs -/

/-- **The encodings of an unbroken program are swept as its instructions**, at the offsets where
these are laid out. -/
theorem exists_sweep_encoded {code : List Instruction}
    (hops : ∀ inst ∈ code, ∃ byte, inst.opcode = .ofByte byte)
    (henc : ∀ inst ∈ code, inst.encoded?.isSome) (hu : Unbroken code) {isOpen : Bool}
    (hopen : isOpen = false → StartsAtJumpdest code) (scope : Scope) (offset : Nat) :
    ∃ program, Disassembly.sweep isOpen scope offset 0 (code.flatMap Instruction.encoded) =
        some program ∧ List.Forall₂ ComesBack (layOut offset code).1 program := by
  -- the sweep keeps in step with the layout, whether a scope is open or the next one starts
  induction code generalizing isOpen scope offset with
  | nil => exact ⟨[], rfl, .nil⟩
  | cons inst code ih =>
    obtain ⟨byte, hop⟩ := hops inst List.mem_cons_self
    obtain ⟨immediate, he, hl, hi⟩ :=
      Instruction.exists_immediate hop (henc inst List.mem_cons_self)
    obtain ⟨hnext, hrest⟩ := unbroken_cons.1 hu
    have hsize : inst.size = 1 + widthOfByte byte := by
      rw [Instruction.size_of_toByte? (by rw [hop, Opcode.toByte?_ofByte]), hop,
        Opcode.width_ofByte]
    have hreached : ¬ (!isOpen && Opcode.ofByte byte != .jumpdest) = true := by
      cases isOpen with
      | true => simp
      | false =>
        rw [← hop, hopen rfl inst rfl]
        decide
    have behind {isOpen : Bool} (hopen : isOpen = false → StartsAtJumpdest code) (scope : Scope) :=
      ih (fun i hm => hops i (List.mem_cons_of_mem _ hm))
        (fun i hm => henc i (List.mem_cons_of_mem _ hm)) hrest hopen scope (offset + inst.size)
    rw [layOut_cons, List.flatMap_cons, he, List.cons_append,
      Disassembly.sweep_step isOpen scope offset _ hl, if_neg hreached, ← hsize]
    have hback := ComesBack.of_isDecoded hop hi (Disassembly.isDecoded_decode scope offset
      (code.flatMap Instruction.encoded) hl)
    dsimp only
    split
    · next ht =>
      obtain ⟨program, hs, hall⟩ := behind (fun _ => hnext (hop ▸ ht)) (scope.after 1)
      rw [hs]
      exact ⟨_, rfl, .cons hback hall⟩
    · obtain ⟨program, hs, hall⟩ := behind (fun (h : true = false) => nomatch h) scope
      rw [hs]
      exact ⟨_, rfl, .cons hback hall⟩

/-- Linking does not depend on where an instruction is placed. -/
theorem resolved_place (table : Table) (inst : Instruction) (offset : Nat) :
    resolved table (inst.place offset) = (resolved table inst).place offset := by
  rw [resolved, resolved, target?_place]
  split <;> rfl

theorem layOut_map_resolved (table : Table) (start : Nat) (code : List Instruction) :
    (layOut start (code.map (resolved table))).1 = (layOut start code).1.map (resolved table) := by
  induction code generalizing start with
  | nil => rfl
  | cons inst code ih =>
    rw [List.map_cons, layOut_cons, layOut_cons, List.map_cons, ih, size_resolved, resolved_place]

/-- The instruction of an index is placed behind those in front of it. -/
theorem getElem?_layOut (start : Nat) (code : List Instruction) (i : Nat) :
    (layOut start code).1[i]? = code[i]?.map (·.place (start + codeSize (code.take i))) := by
  induction code generalizing start i with
  | nil => simp
  | cons inst code ih =>
    rw [layOut_cons]
    cases i with
    | zero => simp
    | succ i => simp [ih, Nat.add_assoc]

/-- What a program is linked and encoded as, if it can be. -/
theorem encodeProgram_written {code : List Instruction} {bytes : Bytes}
    (h : (encodeProgram code).2 = .ok bytes) : ∃ table, Written code table bytes ∧
      (encodeProgram code).1 = (layOut 0 code).1.map (resolved table) := by
  obtain ⟨groups, result, hl⟩ : ∃ groups result, link [(layOut 0 code).1] = (groups, result) :=
    ⟨_, _, rfl⟩
  have hlaid : layOut 0 code = ((layOut 0 code).1, codeSize code) := by
    rw [Prod.ext_iff, layOut_snd, Nat.zero_add]
    exact ⟨rfl, rfl⟩
  rw [encodeProgram, hlaid] at h ⊢
  dsimp only at h ⊢
  rw [hl] at h ⊢
  cases result with
  | error cause => cases h
  | ok _ =>
    obtain ⟨table, hd, hf, rfl⟩ := link_ok.1 hl
    dsimp only at h ⊢
    have hflat : [(layOut 0 code).1].flatten = (layOut 0 code).1 := List.append_nil _
    have hmapped : ([(layOut 0 code).1].map (·.map (resolved table))).flatten =
        (layOut 0 code).1.map (resolved table) := List.append_nil _
    rw [hflat] at hd hf
    rw [hmapped] at h ⊢
    cases hb : encodeInto 0 (Array.replicate (codeSize code) 0)
        ((layOut 0 code).1.map (resolved table)) with
    | mk buffer result =>
      rw [hb] at h
      cases result with
      | error cause => cases h
      | ok _ =>
        cases h
        exact ⟨table, written_of_encoded hd hf hb, rfl⟩

/-- An instruction of a program that was laid out, linked and encoded is given back by decoding. -/
structure Restored (code : List Instruction) (inst placed linked back : Instruction) : Prop where
  opcode : back.opcode = inst.opcode
  /-- It comes from the offset where it was laid out. -/
  source : placed.offset.isSome ∧ back.source = placed.offset
  plain : ¬ inst.opcode.isPush → back.operand = none
  /-- The bytes of a push are the encoding of what it was linked to. -/
  push : inst.opcode.isPush → ∃ operand content, linked.operand = some operand ∧
    operand.encode inst.opcode.width = .ok content ∧ content.length = inst.opcode.width ∧
    back.operand = some (.bytes content)
  /-- Linking keeps what is no reference. -/
  kept : reference? inst = none → linked.operand = inst.operand
  /-- A reference is linked to the offset of the instruction that declares its label. -/
  reference : ∀ label, inst.operand = some (.label label) → ∃ decl ∈ (layOut 0 code).1, ∃ offset,
    decl.label = some label ∧ (label.isGlobal = false → decl.scope = inst.scope) ∧
      decl.offset = some offset ∧ linked.operand = some (.int (BitVec.ofNat 256 offset))

/-- A linked instruction that comes back is restored. -/
theorem Patcher.Written.restored {code : List Instruction} {table : Table} {bytes : Bytes}
    (w : Written code table bytes) {offset : Nat} {byte : UInt8} {inst back : Instruction}
    (hm : inst ∈ code) (hbyte : inst.opcode = .ofByte byte)
    (h : ComesBack ((resolved table inst).place offset) back) :
    Restored code inst (inst.place offset) ((resolved table inst).place offset) back := by
  obtain ⟨hop, hs, ho⟩ := h
  have hopcode : ((resolved table inst).place offset).opcode = inst.opcode :=
    resolved_opcode table inst
  rw [hopcode] at hop ho
  refine ⟨hop, ⟨rfl, hs⟩, fun hp => ?_, fun hp => ?_, fun hr => ?_, fun label hl => ?_⟩
  · rw [ho, if_pos (by simpa [Opcode.isPush] using hp)]
  · have hw : inst.opcode.width ≠ 0 := by simpa [Opcode.isPush, Nat.pos_iff_ne_zero] using hp
    have hresolved := (resolved_opcode table inst).trans hbyte
    obtain ⟨content, -, hl, hi⟩ := Instruction.exists_immediate hresolved (w.encodable inst hm)
    rw [← Opcode.width_ofByte, ← hbyte] at hl hi
    obtain ⟨operand, hoperand, hencode⟩ := Instruction.immediate?_eq_some.1 (hi hw)
    rw [resolved_opcode] at hencode
    rw [if_neg hw, show ((resolved table inst).place offset).immediate? = _ from hi hw] at ho
    exact ⟨operand, content, hoperand, hencode, hl, ho⟩
  · rw [resolved_of_reference?_eq_none hr]
    rfl
  · obtain ⟨entry, target, decl, he, hat, hd⟩ := w.exists_declared hm (reference?_eq_some.2 hl)
    obtain ⟨hlabel, hscope⟩ := label_of_declared? he hd
    refine ⟨decl.place (0 + target), place_mem_layOut 0 hat, 0 + target, hlabel, hscope, rfl, ?_⟩
    rw [w.resolved_eq hm (reference?_eq_some.2 hl) he hat hd, Nat.zero_add]
    rfl

/-- **Decoding undoes encoding**, for every program of decodable opcodes in which every terminator
is last or followed by a JUMPDEST. -/
theorem disassemble_encodeProgram {code : List Instruction} {bytes : Bytes}
    (hops : ∀ inst ∈ code, ∃ byte, inst.opcode = .ofByte byte) (hu : Unbroken code)
    (h : (encodeProgram code).2 = .ok bytes) (scope : Scope) :
    (disassemble scope bytes).length = code.length ∧
      ∀ (i : Nat) (inst : Instruction), code[i]? = some inst → ∃ placed linked back,
        (layOut 0 code).1[i]? = some placed ∧ (encodeProgram code).1[i]? = some linked ∧
          (disassemble scope bytes)[i]? = some back ∧ Restored code inst placed linked back := by
  obtain ⟨table, w, hlinked⟩ := encodeProgram_written h
  have hencoded : ∀ i ∈ code.map (resolved table),
      (∃ byte, i.opcode = .ofByte byte) ∧ i.encoded?.isSome := by
    intro i hi
    obtain ⟨inst, hm, rfl⟩ := List.mem_map.1 hi
    rw [resolved_opcode]
    exact ⟨hops inst hm, w.encodable inst hm⟩
  obtain ⟨program, hs, hall⟩ := exists_sweep_encoded
    (fun i hi => (hencoded i hi).1) (fun i hi => (hencoded i hi).2)
    (hu.map (resolved_opcode table)) (fun (hopen : true = false) => nomatch hopen) scope 0
  have hback : disassemble scope bytes = program := by
    rw [disassemble, w.image_eq, ← List.flatMap_map, hs, Option.getD_some]
  rw [layOut_map_resolved, List.forall₂_map_left_iff] at hall
  rw [hback, hlinked, ← hall.length_eq, length_layOut]
  refine ⟨rfl, fun i inst hi => ?_⟩
  have hplaced : (layOut 0 code).1[i]? = some (inst.place (0 + codeSize (code.take i))) := by
    rw [getElem?_layOut, hi, Option.map_some]
  obtain ⟨back, hget, hcomes⟩ := exists_getElem?_of_forall₂ hall hplaced
  obtain ⟨byte, hbyte⟩ := hops inst (List.mem_of_getElem? hi)
  rw [resolved_place] at hcomes
  refine ⟨_, _, back, hplaced, ?_, hget, w.restored (List.mem_of_getElem? hi) hbyte hcomes⟩
  rw [List.getElem?_map, hplaced, Option.map_some, resolved_place]

/-- A jump over nothing, to a label that is pushed in a single byte, and a number behind a zero. -/
def jumpAhead : List Instruction :=
  [{ opcode := .pushN 1, operand := some (.label (.lexical "x")), scope := some ⟨0⟩ },
    { opcode := .jump, scope := some ⟨0⟩ },
    { opcode := .jumpdest, label := some (.lexical "x"), scope := some ⟨0⟩ },
    { opcode := .pushN 2, operand := some (.int 1), scope := some ⟨0⟩ },
    { opcode := .stop, scope := some ⟨0⟩ }]

theorem linked_jumpAhead :
    Linked jumpAhead (fun _ => 3) [0x60, 0x03, 0x56, 0x5b, 0x61, 0x00, 0x01, 0x00] where
  distinct := by decide
  declared := by
    have hat : StandsAt jumpAhead 3 jumpAhead[2] := ⟨jumpAhead.take 2, jumpAhead.drop 3, rfl, rfl⟩
    intro inst hm target hr
    simp only [jumpAhead, List.mem_cons, List.not_mem_nil, or_false] at hm
    rcases hm with rfl | rfl | rfl | rfl | rfl
    · cases hr
      exact ⟨_, hat, rfl⟩
    all_goals cases hr
  encodable := by decide
  bytes_eq := by decide

/-- A program with a label is restored. -/
theorem disassemble_encodeProgram_label :
    (∀ inst ∈ jumpAhead, ∃ byte, inst.opcode = .ofByte byte) ∧ Unbroken jumpAhead ∧
      ∃ bytes, (encodeProgram jumpAhead).2 = .ok bytes ∧
        (disassemble ⟨1⟩ bytes).length = jumpAhead.length ∧
        ∀ (i : Nat) (inst : Instruction), jumpAhead[i]? = some inst → ∃ placed linked back,
          (layOut 0 jumpAhead).1[i]? = some placed ∧ (encodeProgram jumpAhead).1[i]? = some linked ∧
            (disassemble ⟨1⟩ bytes)[i]? = some back ∧
            Restored jumpAhead inst placed linked back := by
  have hops : ∀ inst ∈ jumpAhead, ∃ byte, inst.opcode = .ofByte byte := by
    simp only [jumpAhead, List.forall_mem_cons, List.not_mem_nil, false_imp_iff, implies_true,
      and_true]
    exact ⟨⟨0x60, rfl⟩, ⟨0x56, rfl⟩, ⟨0x5b, rfl⟩, ⟨0x61, rfl⟩, ⟨0x00, rfl⟩⟩
  have hu : Unbroken jumpAhead := by simp [Unbroken, jumpAhead, Opcode.isTerminator, Opcode.pushN]
  have hs : IsScoped ⟨0⟩ jumpAhead := by
    intro inst hm _
    revert inst
    decide
  have h := (encodeProgram_ok hs).2 ⟨_, linked_jumpAhead⟩
  exact ⟨hops, hu, _, h, disassemble_encodeProgram hops hu h ⟨1⟩⟩

end EvmProbe
