import EvmProbe.Keccak
import EvmProbe.Hex

/-!
Writing values in the contract ABI.

A tuple is a head followed by a tail.  A static part stands in the head; of a dynamic part the head
holds the offset, counted from the start of the tuple, and the tail the content.
-/

namespace EvmProbe.Abi

/-- A part of a tuple. -/
inductive Part where
  /-- Words that stand in the head. -/
  | static (content : Bytes)
  /-- Content that stands in the tail. -/
  | dynamic (content : Bytes)
  deriving DecidableEq, Repr

namespace Part

/-- What the part takes of the head. -/
def headSize : Part → Nat
  | .static content => content.length
  | .dynamic _ => 32

/-- What the part takes of the tail. -/
def tail : Part → Bytes
  | .static _ => []
  | .dynamic content => content

end Part

/-- A number as a word. -/
def natWord (n : Nat) : Bytes := bigEndian 32 n

/-- A word. -/
def word (w : Word) : Part := .static (wordBytes w)

/-- A value of fewer bits, right-aligned in its word. -/
def uint {bits : Nat} (value : BitVec bits) : Part := .static (natWord value.toNat)

/-- A truth value. -/
def bool (b : Bool) : Part := .static (natWord (if b then 1 else 0))

/-- Zeros behind a byte string, up to a whole number of words. -/
def padWords (content : Bytes) : Bytes := padRight ((content.length + 31) / 32 * 32) content

/-- A byte string: its size, and its bytes up to a whole number of words. -/
def bytes (content : Bytes) : Part := .dynamic (natWord content.length ++ padWords content)

/-- The heads of parts whose tails start at `offset`. -/
def heads (offset : Nat) : List Part → Bytes
  | [] => []
  | .static content :: rest => content ++ heads offset rest
  | .dynamic content :: rest => natWord offset ++ heads (offset + content.length) rest

/-- What the head of a tuple takes. -/
def headSize (parts : List Part) : Nat := parts.foldr (fun part size => part.headSize + size) 0

/-- A tuple of parts. -/
def tuple (parts : List Part) : Bytes :=
  heads (headSize parts) parts ++ parts.flatMap Part.tail

/-- An array: its length and the tuple of its elements. -/
def array (elements : List Part) : Part := .dynamic (natWord elements.length ++ tuple elements)

/-- The selector of a function, given by its name and the types of its parameters. -/
def selectorOf (signature : String) : Selector :=
  (keccak256 (Hex.textBytes signature.toList)).extractLsb' 224 32

end EvmProbe.Abi
