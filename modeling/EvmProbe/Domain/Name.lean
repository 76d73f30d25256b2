import EvmProbe.Domain.Composition
import EvmProbe.Domain.Direction
import EvmProbe.Domain.Joining
import EvmProbe.Domain.Punycode
import EvmProbe.Domain.Spelling

/-!
Internationalised domain names.

A name is spelled in small letters, with its marks in order, and is cut into labels at the dots.  A
label may be given in Punycode, and then in full: as it is spelled, with its marks in order and with
its characters composed.  Labels do not begin with a mark, they have joiners only where those can be
seen, and they are written in one direction.
-/

namespace EvmProbe.Domain

/-- The ASCII characters that no name has. -/
def isDenied (c : Char) : Bool :=
  c.toNat ≤ 0x20 || "%#/:<>?@[\\]^|".toList.contains c || c.toNat = 0x7f

/-- Writes comparison signs as one character with the stroke that follows them. -/
def strike : List Char → List Char
  | '<' :: '\u0338' :: rest => '≮' :: strike rest
  | '=' :: '\u0338' :: rest => '≠' :: strike rest
  | '>' :: '\u0338' :: rest => '≯' :: strike rest
  | c :: rest => c :: strike rest
  | [] => []

/-- The spelling of a name. -/
def spelled? (name : List Char) : Option (List Char) := do
  let text := strike (ordered (← name.mapM spell?).flatten)
  if text.any isDenied then none else some text

/-- How a label in Punycode begins. -/
def encodedLead : List Char := "xn--".toList

/-- The longest label that is read from Punycode. -/
def maxEncoded : Nat := 2000

/-- The longest label that is not in ASCII. -/
def maxLabel : Nat := 1000

/-- The label in full. -/
def decoded? (label : List Char) : Option (List Char) := do
  if !encodedLead.isPrefixOf label then some label
  else
    let encoded := label.drop encodedLead.length
    if maxEncoded < encoded.length then none
    let text ← Punycode.decode? encoded
    if text.all isPlain ∧ isComposed text then some text else none

/-- Whether a label in full may be part of a name. -/
def isLabel (label : List Char) : Bool :=
  label.all (·.toNat < 128) ||
    (label.length ≤ maxLabel && !label.head?.any isMark && areJoinersPlaced label)

/-- The name as it is spelled, if it is one. -/
def normalized? (name : List Char) : Option (List Char) := do
  let text ← spelled? name
  let labels ← (text.splitOn '.').mapM decoded?
  if labels.all isLabel ∧ areDirected labels then some text else none

end EvmProbe.Domain
