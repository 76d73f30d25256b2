import EvmProbe.Instruction

/-!
Laying out programs: consecutive offsets for the instructions of a group.

`layOut start code` places `code` at `start`; `layOut_nil` and `layOut_cons` say how, and
`layOut_snd` that the end is the start plus the size of the code.
-/

namespace EvmProbe

/-- The number of bytes that instructions are encoded in. -/
def codeSize (code : List Instruction) : Nat :=
  code.foldr (fun inst size => inst.size + size) 0

/-- The instruction placed at an offset. -/
def Instruction.place (inst : Instruction) (offset : Nat) : Instruction :=
  { inst with offset := some offset }

/-- Places instructions one behind the other from `start` on, and gives the offset behind them. -/
def layOut (start : Nat) (code : List Instruction) : List Instruction × Nat :=
  let placed := code.foldl (fun (acc : Array Instruction × Nat) inst =>
    (acc.1.push (inst.place acc.2), acc.2 + inst.size)) (#[], start)
  (placed.1.toList, placed.2)

@[simp] theorem codeSize_nil : codeSize [] = 0 := rfl

@[simp] theorem codeSize_cons (inst : Instruction) (code : List Instruction) :
    codeSize (inst :: code) = inst.size + codeSize code := rfl

@[simp] theorem codeSize_append (a b : List Instruction) :
    codeSize (a ++ b) = codeSize a + codeSize b := by
  induction a with
  | nil => simp
  | cons inst a ih => simp [ih, Nat.add_assoc]

@[simp] theorem layOut_nil (start : Nat) : layOut start [] = ([], start) := rfl

private theorem foldl_place (code : List Instruction) (acc : Array Instruction) (start : Nat) :
    code.foldl (fun (acc : Array Instruction × Nat) inst =>
      (acc.1.push (inst.place acc.2), acc.2 + inst.size)) (acc, start) =
    (acc ++ (layOut start code).1.toArray, (layOut start code).2) := by
  induction code generalizing acc start with
  | nil => simp
  | cons inst code ih =>
    simp only [layOut, List.foldl_cons] at ih ⊢
    rw [ih, ih (#[].push (inst.place start))]
    simp [← Array.toList_inj]

/-- The first instruction is placed at the start and the others behind it. -/
theorem layOut_cons (start : Nat) (inst : Instruction) (code : List Instruction) :
    layOut start (inst :: code) =
      (inst.place start :: (layOut (start + inst.size) code).1,
        (layOut (start + inst.size) code).2) := by
  rw [layOut, List.foldl_cons, foldl_place]
  simp

/-- The end of the code is its start plus its size. -/
theorem layOut_snd (start : Nat) (code : List Instruction) :
    (layOut start code).2 = start + codeSize code := by
  induction code generalizing start with
  | nil => simp
  | cons inst code ih => rw [layOut_cons, codeSize_cons, ih]; omega

/-- Placing moves no instruction and adds none. -/
theorem length_layOut (start : Nat) (code : List Instruction) :
    (layOut start code).1.length = code.length := by
  induction code generalizing start with
  | nil => simp
  | cons inst code ih => simp [layOut_cons, ih]

end EvmProbe
