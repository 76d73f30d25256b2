import EvmProbe.Bytes

/-!
Hexadecimal text: two lower-case digits a byte, and quantities without leading zeros.

Reading works on the bytes of a text, so that a fault is reported at a byte position; one marker
`0x` or `0X` in front is skipped.
-/

namespace EvmProbe.Hex

/-- The lower-case digit of a value below sixteen. -/
def digit (value : Nat) : Char :=
  if value < 10 then Char.ofNat (48 + value) else Char.ofNat (87 + value)

/-- The two digits of a byte, high half first. -/
def pair (byte : UInt8) : List Char :=
  [digit (byte.toNat / 16), digit (byte.toNat % 16)]

/-- The digits of a byte string, without a marker. -/
def encode (bytes : Bytes) : String :=
  String.ofList (bytes.flatMap pair)

/-- A byte string with its marker. -/
def literal (bytes : Bytes) : String := "0x" ++ encode bytes

/-- A number without leading zeros, with its marker. -/
def quantity (n : Nat) : String := "0x" ++ String.ofList (Nat.toDigits 16 n)

/-- The value of a digit of either case, given as a byte of text. -/
def value? (byte : UInt8) : Option Nat :=
  let n := byte.toNat
  if 48 ≤ n ∧ n ≤ 57 then some (n - 48)
  else if 97 ≤ n ∧ n ≤ 102 then some (n - 87)
  else if 65 ≤ n ∧ n ≤ 70 then some (n - 55)
  else none

/-- Why a text is not a byte string. -/
inductive Fault where
  /-- The digits do not pair up. -/
  | oddLength
  /-- The byte at `index` is no digit. -/
  | invalidDigit (byte : UInt8) (index : Nat)
  deriving DecidableEq, Repr

/-- The wording of a fault; the bad byte is shown as the character of that code point. -/
def Fault.message : Fault → String
  | .oddLength => "odd number of digits"
  | .invalidDigit byte index =>
    s!"invalid character '{Char.ofNat byte.toNat}' at position {index}"

/-- The UTF-8 bytes of a text. -/
def textBytes (text : List Char) : Bytes := text.flatMap String.utf8EncodeChar

/-- Reads pairs of digits; `index` is the position of the first. -/
def decodePairs (index : Nat) : Bytes → Except Fault Bytes
  | [] => .ok []
  | [_] => .error .oddLength
  | high :: low :: rest =>
    match value? high, value? low with
    | none, _ => .error (.invalidDigit high index)
    | _, none => .error (.invalidDigit low (index + 1))
    | some h, some l => (decodePairs (index + 2) rest).map (UInt8.ofNat (16 * h + l) :: ·)

/-- The text behind one marker, if it has one. -/
def stripMarker : Bytes → Bytes
  | 0x30 :: 0x78 :: rest => rest
  | 0x30 :: 0x58 :: rest => rest
  | text => text

/-- Reads an even number of digits, with or without a marker. The count is checked first. -/
def decode (text : List Char) : Except Fault Bytes :=
  let digits := stripMarker (textBytes text)
  if digits.length % 2 = 1 then .error .oddLength else decodePairs 0 digits

end EvmProbe.Hex
