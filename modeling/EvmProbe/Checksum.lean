import EvmProbe.Hex
import EvmProbe.Keccak

/-!
Addresses as texts with a checksum: a letter is upper case if the digit of the same place in the
hash of the lower-case text is eight or more.
-/

namespace EvmProbe

/-- The digits of a hash, as numbers. -/
def nibbles (bytes : Bytes) : List Nat :=
  bytes.flatMap fun byte => [byte.toNat / 16, byte.toNat % 16]

/-- An address with its checksum. -/
def checksummed (address : Address) : String :=
  let digits := (wordBytes address).flatMap Hex.pair
  let marks := nibbles (wordBytes (keccak256 (Hex.textBytes digits)))
  "0x" ++ String.ofList (digits.zipWith (fun c mark => if 8 ≤ mark then c.toUpper else c) marks)

end EvmProbe
