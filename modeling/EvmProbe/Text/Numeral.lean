import EvmProbe.Bytes

/-!
Numerals: digits of a radix, with a plus sign allowed in front.

The digits are read from the left, and the first fault met is reported: a character that is no
digit, or a value that reaches the limit.
-/

namespace EvmProbe.Text

/-- Why a text is no numeral. -/
inductive NumeralError where
  | empty
  | invalidDigit
  | tooLarge
  deriving DecidableEq, Repr

/-- The wording of an error. -/
def NumeralError.message : NumeralError → String
  | .empty => "cannot parse integer from empty string"
  | .invalidDigit => "invalid digit found in string"
  | .tooLarge => "number too large to fit in target type"

/-- The value of a character as a digit; letters of either case go on from ten. -/
def digitValue? (radix : Nat) (c : Char) : Option Nat :=
  let n := c.toNat
  let value :=
    if 48 ≤ n ∧ n ≤ 57 then n - 48
    else if 97 ≤ n ∧ n ≤ 122 then n - 87
    else if 65 ≤ n ∧ n ≤ 90 then n - 55
    else radix
  if value < radix then some value else none

/-- Reads digits behind a number already read. -/
def readDigits (radix limit : Nat) (n : Nat) : List Char → Except NumeralError Nat
  | [] => .ok n
  | c :: rest =>
    match digitValue? radix c with
    | none => .error .invalidDigit
    | some value =>
      let n := n * radix + value
      if n < limit then readDigits radix limit n rest else .error .tooLarge

/-- Reads a numeral below a limit. -/
def readNumeral (radix limit : Nat) : List Char → Except NumeralError Nat
  | [] => .error .empty
  | '+' :: [] => .error .invalidDigit
  | '+' :: digits => readDigits radix limit 0 digits
  | digits => readDigits radix limit 0 digits

/-- Reads digits of a radix, with underscores between them, behind a number already read. -/
def readSpaced (radix limit : Nat) (n : Nat) : List Char → Except NumeralError Nat
  | [] => .ok n
  | '_' :: rest => readSpaced radix limit n rest
  | c :: rest =>
    match digitValue? radix c with
    | none => .error .invalidDigit
    | some value =>
      let n := n * radix + value
      if n < limit then readSpaced radix limit n rest else .error .tooLarge

/-- Reads a number in the notation that its marker names: `0x`, `0o` or `0b`, and decimal without
one. No digits at all are zero. -/
def readMarked (limit : Nat) : List Char → Except NumeralError Nat
  | '0' :: 'x' :: digits | '0' :: 'X' :: digits => readSpaced 16 limit 0 digits
  | '0' :: 'o' :: digits | '0' :: 'O' :: digits => readSpaced 8 limit 0 digits
  | '0' :: 'b' :: digits | '0' :: 'B' :: digits => readSpaced 2 limit 0 digits
  | digits => readSpaced 10 limit 0 digits

/-- The numbers of 64 bits. -/
def limit64 : Nat := capacity 8

end EvmProbe.Text
