import EvmProbe.Bytes

/-!
Labels in Punycode.

A label that is not in ASCII is written with its ASCII characters in front, and behind the last
hyphen with numbers that say which other characters to insert, and where.  The numbers have digits
of radix 36, the lowest first, and each ends in a digit below a threshold; the thresholds follow the
size of the numbers before.
-/

namespace EvmProbe.Domain.Punycode

/-- A digit: a small letter, or from 26 on a decimal digit. -/
def digit? (c : Char) : Option Nat :=
  if c.isLower then some (c.toNat - 97)
  else if c.isDigit then some (c.toNat - 48 + 26)
  else none

/-- The threshold of the digit at a place; places are counted in steps of 36. -/
def threshold (place bias : Nat) : Nat := min 26 (max 1 (place - bias))

/-- How often a number has to be divided to become small, in steps of 36, and what is left. -/
def reduced (steps n : Nat) : Nat × Nat :=
  if 455 < n then reduced (steps + 36) (n / 35) else (steps, n)
termination_by n
decreasing_by exact Nat.div_lt_self (by omega) (by omega)

/-- The bias behind a number, of which the text got `length` characters. -/
def adapted (isFirst : Bool) (n length : Nat) : Nat :=
  let n := if isFirst then n / 700 else n / 2
  let (steps, rest) := reduced 0 (n + n / length)
  steps + 36 * rest / (rest + 38)

/-- The state of a reader. -/
structure State where
  text : List Char
  /-- The code point that was inserted last. -/
  codePoint : Nat := 128
  /-- Where the next character goes if its number is zero. -/
  start : Nat := 0
  bias : Nat := 72
  /-- The value of the digits of a number that have been read, and `start`. -/
  position : Nat := 0
  /-- What the next digit is worth. -/
  weight : Nat := 1
  /-- The place of the next digit. -/
  place : Nat := 36
  isFirst : Bool := true

/-- Inserts the character of the number that has been read. -/
def State.insert? (s : State) (position : Nat) : Option State :=
  let length := s.text.length + 1
  let codePoint := s.codePoint + position / length
  let index := position % length
  if codePoint.isValidChar then
    some {
      text := s.text.take index ++ Char.ofNat codePoint :: s.text.drop index
      codePoint
      start := index + 1
      bias := adapted s.isFirst (position - s.start) length
      position := index + 1
      isFirst := false }
  else none

/-- Reads the numbers. Each ends within 32 bits. -/
def readFrom? (s : State) : List Char → Option (List Char)
  | [] => if s.place = 36 then some s.text else none
  | c :: rest => do
    let digit ← digit? c
    let position := s.position + digit * s.weight
    let threshold := threshold s.place s.bias
    if capacity 4 ≤ position then none
    else if digit < threshold then readFrom? (← s.insert? position) rest
    else
      let weight := s.weight * (36 - threshold)
      if capacity 4 ≤ weight then none
      else readFrom? { s with position, weight, place := s.place + 36 } rest

/-- Reads a label of which the lead has been cut off. It ends in a number, and it does not
begin with the hyphen that numbers follow. -/
def decode? (label : List Char) : Option (List Char) :=
  let digits := (label.reverse.takeWhile (· ≠ '-')).reverse
  let front := label.take (label.length - digits.length)
  if digits.isEmpty ∨ front = ['-'] ∨ label.any (128 ≤ ·.toNat) then none
  else readFrom? { text := front.dropLast } digits

end EvmProbe.Domain.Punycode
