/-!
Sets of characters, as ranges of code points.
-/

namespace EvmProbe.Text

/-- A set of characters: the lowest and the highest code point of each range. -/
abbrev Ranges := List (Nat × Nat)

/-- Whether a character is in one of the ranges. -/
def Ranges.contains (ranges : Ranges) (c : Char) : Bool :=
  ranges.any fun (low, high) => low ≤ c.toNat && c.toNat ≤ high

end EvmProbe.Text
