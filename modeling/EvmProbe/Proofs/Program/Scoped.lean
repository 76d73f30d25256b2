import EvmProbe.Proofs.Fragment.Code
import Mathlib.Data.List.Nodup

/-!
Programs whose labels all belong to one scope.

Such a program is encoded with the offsets of its labels, whatever the scope is called: `Linked`
says so without a table.

* `encodeProgram_eq`: a program is encoded like a single section.
* `encodeProgram_ok`: what a program of one scope is encoded as.
* `Linked.map`: instructions that declare and refer to the same labels and have the same encodings
  are linked to the same bytes.
-/

namespace EvmProbe

open Encoding Linking Patcher

/-- **A program is encoded like a single section.** -/
theorem encodeProgram_eq (code : List Instruction) :
    (encodeProgram code).2 = encodeSections [code] := by
  have hsections : layOutAll 0 [code] = ([(layOut 0 code).1], (layOut 0 code).2) := rfl
  rw [encodeProgram, encodeSections, hsections]
  generalize layOut 0 code = placed
  obtain ⟨placed, size⟩ := placed
  dsimp only
  rcases link [placed] with ⟨groups, _ | _⟩
  · rfl
  · dsimp only
    rw [encodeAll_eq]
    rcases encodeInto 0 (Array.replicate size 0) groups.flatten with ⟨buffer, _ | _⟩ <;> rfl

theorem entries_of_declarations {code : List Instruction} {table : Table}
    (hd : declarations (layOut 0 code).1 = .ok table) (entry : Entry) (offset : Nat) :
    table[entry]? = some offset ↔
      ∃ inst, StandsAt code offset inst ∧ declared? inst = some entry := by
  rw [(declarations_ok hd).2]
  constructor
  · rintro ⟨placed, hm, hdec, ho⟩
    obtain ⟨k, inst, hat, rfl⟩ := mem_layOut.1 hm
    obtain rfl : k = offset := by simpa [Instruction.place] using ho
    exact ⟨inst, hat, hdec⟩
  · rintro ⟨inst, hat, hdec⟩
    exact ⟨_, place_mem_layOut 0 hat, hdec, by simp [Instruction.place]⟩

/-- Code is encoded as the bytes that hold it. -/
theorem encodeProgram_of_written {code : List Instruction} {table : Table} {bytes : Bytes}
    (hd : declarations (layOut 0 code).1 = .ok table) (w : Written code table bytes) :
    (encodeProgram code).2 = .ok bytes := by
  have hc := (contiguous_layOut 0 code).map (resolved_offset table) (size_resolved table)
  have hs : codeSize ((layOut 0 code).1.map (resolved table)) = codeSize code := by
    rw [codeSize_map (size_resolved table), codeSize_layOut]
  have hflat : ((layOut 0 code).1.map (resolved table)).flatMap Instruction.encoded = bytes := by
    rw [w.image_eq, List.flatMap_map, List.flatMap, map_layOut, ← List.flatMap]
    intro inst offset
    rw [Instruction.encoded, encoded?_resolved_place, ← Instruction.encoded]
  have hfault : ∀ placed ∈ (layOut 0 code).1, fault? table placed = none := by
    intro placed hp
    obtain ⟨offset, inst, hat, rfl⟩ := mem_layOut.1 hp
    exact w.found inst hat.mem
  have hencodable : ∀ i ∈ (layOut 0 code).1.map (resolved table), i.encoded?.isSome := by
    intro i hi
    obtain ⟨placed, hp, rfl⟩ := List.mem_map.1 hi
    obtain ⟨offset, inst, hat, rfl⟩ := mem_layOut.1 hp
    rw [encoded?_resolved_place]
    exact w.encodable inst hat.mem
  have hbuffer : encodeInto 0 (Array.replicate (codeSize code) 0)
      ((layOut 0 code).1.map (resolved table)) = (bytes.toArray, .ok ()) := by
    refine (encodeInto_contiguous hc (by simp [hs])).2 ⟨hencodable, ?_⟩
    rw [hflat, overwrite_zero (by simp [w.length_image])]
  rw [encodeProgram_eq, encodeSections_iff, List.flatten_cons, List.flatten_nil, List.append_nil]
  exact ⟨table, _, hd, hfault, hbuffer, rfl⟩

/-- What declares or refers to a label is of the scope. -/
def IsScoped (scope : Scope) (code : List Instruction) : Prop :=
  ∀ inst ∈ code, inst.label.isSome ∨ (reference? inst).isSome → inst.scope = some scope

/-- The instruction with the offset of the label that it refers to. -/
def Instruction.relocated (address : Label → Nat) (inst : Instruction) : Instruction :=
  match reference? inst with
  | some target => { inst with operand := some (.int (BitVec.ofNat 256 (address target))) }
  | none => inst

/-- Bytes are those of code with the offsets of its labels. -/
structure Linked (code : List Instruction) (address : Label → Nat) (bytes : Bytes) : Prop where
  /-- No label is declared twice. -/
  distinct : (code.filterMap (·.label)).Nodup
  /-- What is referred to is declared, at its offset. -/
  declared : ∀ inst ∈ code, ∀ target, reference? inst = some target →
    ∃ decl, StandsAt code (address target) decl ∧ decl.label = some target
  /-- Every instruction has an encoding. -/
  encodable : ∀ inst ∈ code, (inst.relocated address).encoded?.isSome
  /-- The bytes are the encodings in order. -/
  bytes_eq : bytes = code.flatMap fun inst => (inst.relocated address).encoded

theorem Label.entryIn_injective (scope : Scope) : (Label.entryIn scope).Injective := by
  intro a b h
  cases a <;> cases b <;> simp_all [Label.entryIn]

section
variable {scope : Scope} {code : List Instruction} {bytes : Bytes} {address : Label → Nat}

theorem IsScoped.declared? (h : IsScoped scope code) {inst : Instruction} (hm : inst ∈ code) :
    declared? inst = inst.label.map (·.entryIn scope) := by
  cases hl : inst.label with
  | none => simp [Linking.declared?, hl]
  | some label => rw [declared?_of_scope (h inst hm (.inl (by simp [hl]))), hl]

theorem IsScoped.nodup_iff (h : IsScoped scope code) :
    (code.filterMap Linking.declared?).Nodup ↔ (code.filterMap (·.label)).Nodup := by
  have heq : code.filterMap Linking.declared? =
      (code.filterMap (·.label)).map (Label.entryIn scope) := by
    rw [List.map_filterMap]
    exact List.filterMap_congr fun inst hm => h.declared? hm
  rw [heq, List.nodup_map_iff (Label.entryIn_injective scope)]

/-- A reference is resolved to the offset that a table holds for its label. -/
theorem IsScoped.resolved_eq (h : IsScoped scope code) {inst : Instruction} (hm : inst ∈ code)
    {table : Table} (ht : ∀ target, reference? inst = some target →
      table[target.entryIn scope]? = some (address target)) :
    fault? table inst = none ∧ resolved table inst = inst.relocated address := by
  cases hr : reference? inst with
  | none =>
    rw [fault?, target?_of_reference?_eq_none hr, resolved_of_reference?_eq_none hr,
      Instruction.relocated, hr]
    exact ⟨rfl, rfl⟩
  | some target =>
    have he : entryOf target inst.scope = .ok (target.entryIn scope) := by
      rw [h inst hm (.inr (by simp [hr])), entryOf_some]
    have htarget : target? table inst = .ok (some (address target)) := by
      rw [target?, reference?_eq_some.1 hr]
      simp [he, ht target hr]
    rw [fault?, resolved, htarget, Instruction.relocated, hr]
    exact ⟨rfl, rfl⟩

/-- Code that is written is linked. -/
theorem IsScoped.linked (h : IsScoped scope code) {table : Table} (w : Written code table bytes) :
    ∃ address, Linked code address bytes := by
  let address := fun target : Label => (table[target.entryIn scope]?).getD 0
  have hget : ∀ inst ∈ code, ∀ target, reference? inst = some target →
      table[target.entryIn scope]? = some (address target) := by
    intro inst hm target hr
    obtain ⟨entry, offset, he, ht, -⟩ := exists_target hr (w.found inst hm)
    rw [h inst hm (.inr (by simp [hr])), entryOf_some, Except.ok.injEq] at he
    simp [address, he, ht]
  have heq : ∀ inst ∈ code, resolved table inst = inst.relocated address :=
    fun inst hm => (h.resolved_eq hm (hget inst hm)).2
  refine ⟨address, h.nodup_iff.1 w.distinct, fun inst hm target hr => ?_, fun inst hm => ?_, ?_⟩
  · obtain ⟨decl, hat, hd⟩ := (w.entries _ _).1 (hget inst hm target hr)
    rw [h.declared? hat.mem, Option.map_eq_some_iff] at hd
    obtain ⟨label, hl, he⟩ := hd
    exact ⟨decl, hat, by rw [hl, Label.entryIn_injective scope he]⟩
  · rw [← heq inst hm]
    exact w.encodable inst hm
  · rw [w.image_eq]
    exact List.flatMap_congr fun inst hm => by rw [heq inst hm]

/-- Code that is linked is encoded. -/
theorem IsScoped.encodeProgram (h : IsScoped scope code) (l : Linked code address bytes) :
    (encodeProgram code).2 = .ok bytes := by
  have hnodup : ((layOut 0 code).1.filterMap Linking.declared?).Nodup := by
    rw [filterMap_layOut declared?_place]
    exact h.nodup_iff.2 l.distinct
  have hdeclarable : ∀ inst ∈ (layOut 0 code).1, Declarable inst := by
    intro placed hp hl
    obtain ⟨offset, inst, hat, rfl⟩ := mem_layOut.1 hp
    refine ⟨rfl, ?_⟩
    rw [declared?_place, h.declared? hat.mem, Option.isSome_map]
    exact hl
  obtain ⟨table, hd⟩ := exists_declarations hdeclarable hnodup
  have hentries := entries_of_declarations hd
  have hget : ∀ inst ∈ code, ∀ target, reference? inst = some target →
      table[target.entryIn scope]? = some (address target) := by
    intro inst hm target hr
    obtain ⟨decl, hat, hl⟩ := l.declared inst hm target hr
    exact (hentries _ _).2 ⟨decl, hat, by rw [h.declared? hat.mem, hl, Option.map_some]⟩
  have hresolved : ∀ inst ∈ code,
      fault? table inst = none ∧ resolved table inst = inst.relocated address :=
    fun inst hm => h.resolved_eq hm (hget inst hm)
  refine encodeProgram_of_written hd ⟨h.nodup_iff.2 l.distinct, hentries,
    fun inst hm => (hresolved inst hm).1, fun inst hm => ?_, ?_⟩
  · rw [(hresolved inst hm).2]
    exact l.encodable inst hm
  · rw [l.bytes_eq]
    exact List.flatMap_congr fun inst hm => by rw [(hresolved inst hm).2]

/-- **A program of one scope is encoded as the bytes that it is linked to.** -/
theorem encodeProgram_ok (h : IsScoped scope code) :
    (encodeProgram code).2 = .ok bytes ↔ ∃ address, Linked code address bytes := by
  constructor
  · intro he
    rw [encodeProgram_eq] at he
    obtain ⟨table, w⟩ := encodeSections_ok he
    rw [List.flatten_cons, List.flatten_nil, List.append_nil] at w
    exact h.linked w
  · rintro ⟨address, l⟩
    exact h.encodeProgram l

/-! ## Programs that are encoded alike -/

/-- An instruction declares and refers to the same labels as another and takes up the same room; it
has the encodings that the other one has. -/
structure Alike (a b : Instruction) : Prop where
  label : b.label = a.label
  size : b.size = a.size
  reference : reference? b = reference? a
  encoded : ∀ address, (a.relocated address).encoded?.isSome →
    (b.relocated address).encoded? = (a.relocated address).encoded?

theorem StandsAt.map {f : Instruction → Instruction} (hs : ∀ inst ∈ code, (f inst).size = inst.size)
    {offset : Nat} {inst : Instruction} (h : StandsAt code offset inst) :
    StandsAt (code.map f) offset (f inst) := by
  induction code generalizing offset with
  | nil => exact absurd h not_standsAt_nil
  | cons head code ih =>
    rw [List.map_cons, standsAt_cons]
    rcases standsAt_cons.1 h with ⟨rfl, rfl⟩ | ⟨k, rfl, hk⟩
    · exact .inl ⟨rfl, rfl⟩
    · exact .inr ⟨k, by rw [hs head (by simp)], ih (fun i hi => hs i (by simp [hi])) hk⟩

/-- **Instructions that are alike are linked to the same bytes.** -/
theorem Linked.map {f : Instruction → Instruction} (l : Linked code address bytes)
    (h : ∀ inst ∈ code, Alike inst (f inst)) : Linked (code.map f) address bytes := by
  refine ⟨?_, fun i hi target hr => ?_, fun i hi => ?_, ?_⟩
  · rw [List.filterMap_map]
    have heq : code.filterMap ((·.label) ∘ f) = code.filterMap (·.label) :=
      List.filterMap_congr fun inst hm => (h inst hm).label
    rw [heq]
    exact l.distinct
  · obtain ⟨inst, hm, rfl⟩ := List.mem_map.1 hi
    rw [(h inst hm).reference] at hr
    obtain ⟨decl, hat, hl⟩ := l.declared inst hm target hr
    exact ⟨f decl, hat.map fun i hi => (h i hi).size, by rw [(h decl hat.mem).label, hl]⟩
  · obtain ⟨inst, hm, rfl⟩ := List.mem_map.1 hi
    rw [(h inst hm).encoded address (l.encodable inst hm)]
    exact l.encodable inst hm
  · rw [l.bytes_eq, List.flatMap_map]
    refine List.flatMap_congr fun inst hm => ?_
    rw [Instruction.encoded, Instruction.encoded, (h inst hm).encoded address (l.encodable inst hm)]

end

end EvmProbe
