import EvmProbe.Image.Patch
import Mathlib.Tactic.Common

/-!
Where the instructions of laid out code stand.

`StandsAt code offset inst` says that `inst` stands in `code` behind `offset` bytes.  Laying out
keeps the order, so that these are the offsets that instructions get.

* `standsAt_cons`, `standsAt_append`: where the instructions of composed code stand.
* `mem_layOut`: a placed instruction is one of the code, at the offset where it stands.
* `layOutAll_flatten`: sections laid out one behind the other are their concatenation, laid out.
-/

namespace EvmProbe

/-! ## Standing at an offset -/

/-- An instruction stands in code behind `offset` bytes. -/
def StandsAt (code : List Instruction) (offset : Nat) (inst : Instruction) : Prop :=
  ∃ before after, code = before ++ inst :: after ∧ codeSize before = offset

namespace StandsAt
variable {code a b : List Instruction} {offset : Nat} {inst head : Instruction}

theorem mem (h : StandsAt code offset inst) : inst ∈ code := by
  obtain ⟨before, after, rfl, -⟩ := h
  simp

theorem exists_of_mem (h : inst ∈ code) : ∃ offset, StandsAt code offset inst := by
  obtain ⟨before, after, rfl⟩ := List.append_of_mem h
  exact ⟨_, before, after, rfl, rfl⟩

/-- The instruction ends within the code. -/
theorem add_size_le (h : StandsAt code offset inst) : offset + inst.size ≤ codeSize code := by
  obtain ⟨before, after, rfl, rfl⟩ := h
  simp only [codeSize_append, codeSize_cons]
  omega

theorem here : StandsAt (head :: code) 0 head := ⟨[], code, rfl, rfl⟩

/-- Code in front moves an instruction by its size. -/
theorem behind (a : List Instruction) (h : StandsAt b offset inst) :
    StandsAt (a ++ b) (codeSize a + offset) inst := by
  obtain ⟨before, after, rfl, rfl⟩ := h
  exact ⟨a ++ before, after, by simp, by simp⟩

/-- Code behind moves nothing. -/
theorem before (b : List Instruction) (h : StandsAt a offset inst) :
    StandsAt (a ++ b) offset inst := by
  obtain ⟨before, after, rfl, rfl⟩ := h
  exact ⟨before, after ++ b, by simp, rfl⟩

end StandsAt

/-- Instructions stand one behind the other in code, the first of them behind `offset` bytes. -/
def LiesAt (code : List Instruction) (offset : Nat) (block : List Instruction) : Prop :=
  ∃ before after, code = before ++ block ++ after ∧ codeSize before = offset

namespace LiesAt
variable {code a b block : List Instruction} {offset : Nat} {inst : Instruction}

theorem head (h : LiesAt code offset (inst :: block)) : StandsAt code offset inst := by
  obtain ⟨before, after, rfl, rfl⟩ := h
  exact ⟨before, block ++ after, by simp, rfl⟩

theorem tail (h : LiesAt code offset (inst :: block)) : LiesAt code (offset + inst.size) block := by
  obtain ⟨before, after, rfl, rfl⟩ := h
  exact ⟨before ++ [inst], after, by simp, by simp⟩

theorem left (h : LiesAt code offset (a ++ b)) : LiesAt code offset a := by
  obtain ⟨before, after, rfl, rfl⟩ := h
  exact ⟨before, b ++ after, by simp, rfl⟩

theorem right (h : LiesAt code offset (a ++ b)) : LiesAt code (offset + codeSize a) b := by
  obtain ⟨before, after, rfl, rfl⟩ := h
  exact ⟨before ++ a, after, by simp, by simp⟩

theorem standsAt {k : Nat} (h : LiesAt code offset block) (hat : StandsAt block k inst) :
    StandsAt code (offset + k) inst := by
  obtain ⟨before, after, rfl, rfl⟩ := h
  exact (hat.behind before).before after

end LiesAt

section
variable {code a b : List Instruction} {offset : Nat} {inst head : Instruction}

@[simp] theorem not_standsAt_nil : ¬ StandsAt [] offset inst := by
  rintro ⟨before, after, h, -⟩
  simp at h

/-- The head stands at zero, and all others behind it. -/
theorem standsAt_cons : StandsAt (head :: code) offset inst ↔
    (offset = 0 ∧ inst = head) ∨ ∃ k, offset = head.size + k ∧ StandsAt code k inst := by
  constructor
  · rintro ⟨before, after, h, rfl⟩
    cases before with
    | nil =>
      simp only [List.nil_append, List.cons.injEq] at h
      exact .inl ⟨rfl, h.1.symm⟩
    | cons first before =>
      simp only [List.cons_append, List.cons.injEq] at h
      obtain ⟨rfl, rfl⟩ := h
      exact .inr ⟨_, rfl, before, after, rfl, rfl⟩
  · rintro (⟨rfl, rfl⟩ | ⟨k, rfl, h⟩)
    · exact .here
    · simpa using h.behind [head]

/-- The instructions of the second part stand behind the first part. -/
theorem standsAt_append : StandsAt (a ++ b) offset inst ↔
    StandsAt a offset inst ∨ ∃ k, offset = codeSize a + k ∧ StandsAt b k inst := by
  induction a generalizing offset with
  | nil => simp
  | cons head a ih =>
    rw [List.cons_append, standsAt_cons, standsAt_cons]
    constructor
    · rintro (h | ⟨k, rfl, h⟩)
      · exact .inl (.inl h)
      · rcases ih.1 h with ha | ⟨j, rfl, hb⟩
        · exact .inl (.inr ⟨k, rfl, ha⟩)
        · exact .inr ⟨j, by rw [codeSize_cons, Nat.add_assoc], hb⟩
    · rintro ((h | ⟨k, rfl, h⟩) | ⟨j, rfl, h⟩)
      · exact .inl h
      · exact .inr ⟨k, rfl, ih.2 (.inl h)⟩
      · exact .inr ⟨codeSize a + j, by rw [codeSize_cons, Nat.add_assoc],
          ih.2 (.inr ⟨j, rfl, h⟩)⟩

/-- Code of instructions that take up room is no shorter than they are many. -/
theorem length_le_codeSize (hs : ∀ i ∈ code, 0 < i.size) : code.length ≤ codeSize code := by
  induction code with
  | nil => simp
  | cons head code ih =>
    have := hs head (by simp)
    have := ih fun i hi => hs i (by simp [hi])
    rw [List.length_cons, codeSize_cons]
    omega

/-! ## Laying out -/

theorem layOut_append (start : Nat) (a b : List Instruction) :
    (layOut start (a ++ b)).1 = (layOut start a).1 ++ (layOut (start + codeSize a) b).1 := by
  induction a generalizing start with
  | nil => simp
  | cons head a ih => simp [layOut_cons, ih, Nat.add_assoc]

/-- **A placed instruction is one of the code, at the offset where it stands.** -/
theorem mem_layOut {start : Nat} {placed : Instruction} : placed ∈ (layOut start code).1 ↔
    ∃ offset inst, StandsAt code offset inst ∧ placed = inst.place (start + offset) := by
  induction code generalizing start with
  | nil => simp
  | cons head code ih =>
    rw [layOut_cons, List.mem_cons, ih]
    constructor
    · rintro (rfl | ⟨offset, inst, h, rfl⟩)
      · exact ⟨0, head, .here, rfl⟩
      · exact ⟨head.size + offset, inst, standsAt_cons.2 (.inr ⟨offset, rfl, h⟩), by
          rw [Nat.add_assoc]⟩
    · rintro ⟨offset, inst, h, rfl⟩
      rcases standsAt_cons.1 h with ⟨rfl, rfl⟩ | ⟨k, rfl, hk⟩
      · exact .inl rfl
      · exact .inr ⟨k, inst, hk, by rw [Nat.add_assoc]⟩

theorem place_mem_layOut (start : Nat) (h : StandsAt code offset inst) :
    inst.place (start + offset) ∈ (layOut start code).1 :=
  mem_layOut.2 ⟨offset, inst, h, rfl⟩

/-- Laying out changes no instruction but for its offset. -/
theorem map_layOut {α : Type} {f : Instruction → α}
    (hf : ∀ inst offset, f (inst.place offset) = f inst) (start : Nat) (code : List Instruction) :
    (layOut start code).1.map f = code.map f := by
  induction code generalizing start with
  | nil => simp
  | cons head code ih => rw [layOut_cons, List.map_cons, List.map_cons, ih, hf]

theorem filterMap_layOut {α : Type} {f : Instruction → Option α}
    (hf : ∀ inst offset, f (inst.place offset) = f inst) (start : Nat) (code : List Instruction) :
    (layOut start code).1.filterMap f = code.filterMap f := by
  have h := congrArg (List.filterMap id) (map_layOut hf start code)
  rwa [List.filterMap_map, List.filterMap_map, Function.id_comp] at h

/-- Code whose instructions keep their sizes keeps its size. -/
theorem codeSize_map {f : Instruction → Instruction} (hs : ∀ inst, (f inst).size = inst.size)
    (code : List Instruction) : codeSize (code.map f) = codeSize code := by
  induction code with
  | nil => rfl
  | cons head code ih => rw [List.map_cons, codeSize_cons, codeSize_cons, ih, hs]

theorem codeSize_duplicate (scope : Scope) (code : List Instruction) :
    codeSize (duplicate scope code) = codeSize code :=
  codeSize_map (f := (·.inScope scope)) (fun _ => rfl) code

@[simp] theorem codeSize_layOut (start : Nat) (code : List Instruction) :
    codeSize (layOut start code).1 = codeSize code := by
  induction code generalizing start with
  | nil => rfl
  | cons head code ih => rw [layOut_cons, codeSize_cons, codeSize_cons, ih]; rfl

/-- Code lies at consecutive offsets from `start` on. -/
def Contiguous : (start : Nat) → List Instruction → Prop
  | _, [] => True
  | start, inst :: rest => inst.offset = some start ∧ Contiguous (start + inst.size) rest

theorem contiguous_layOut (start : Nat) (code : List Instruction) :
    Contiguous start (layOut start code).1 := by
  induction code generalizing start with
  | nil => simp [Contiguous]
  | cons head code ih =>
    rw [layOut_cons]
    exact ⟨rfl, ih _⟩

/-- Code stays contiguous if neither offsets nor sizes change. -/
theorem Contiguous.map {f : Instruction → Instruction} (ho : ∀ inst, (f inst).offset = inst.offset)
    (hs : ∀ inst, (f inst).size = inst.size) {start : Nat} (h : Contiguous start code) :
    Contiguous start (code.map f) := by
  induction code generalizing start with
  | nil => trivial
  | cons head code ih => exact ⟨(ho head).trans h.1, by rw [hs]; exact ih h.2⟩

end

/-! ## Sections -/

namespace Patcher

/-- **Sections laid out one behind the other are their concatenation, laid out.** -/
theorem layOutAll_flatten (start : Nat) (groups : List (List Instruction)) :
    (layOutAll start groups).1.flatten = (layOut start groups.flatten).1 := by
  induction groups generalizing start with
  | nil => simp [layOutAll]
  | cons group rest ih =>
    simp only [layOutAll, List.flatten_cons]
    rw [ih, layOut_snd, layOut_append]

theorem layOutAll_snd (start : Nat) (groups : List (List Instruction)) :
    (layOutAll start groups).2 = start + codeSize groups.flatten := by
  induction groups generalizing start with
  | nil => simp [layOutAll]
  | cons group rest ih =>
    simp only [layOutAll, List.flatten_cons]
    rw [ih, layOut_snd, codeSize_append, Nat.add_assoc]

/-- The sections behind the first `n` are laid out behind these. -/
theorem layOutAll_drop (start n : Nat) (groups : List (List Instruction)) :
    ((layOutAll start groups).1.drop n).flatten =
      (layOut (start + codeSize (groups.take n).flatten) (groups.drop n).flatten).1 := by
  induction groups generalizing start n with
  | nil => simp [layOutAll]
  | cons group rest ih =>
    cases n with
    | zero => simpa using layOutAll_flatten start (group :: rest)
    | succ n =>
      simp only [layOutAll, List.drop_succ_cons, List.take_succ_cons, List.flatten_cons]
      rw [ih, layOut_snd, codeSize_append, Nat.add_assoc]

end Patcher

end EvmProbe
