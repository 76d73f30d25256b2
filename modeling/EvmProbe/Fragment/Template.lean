import EvmProbe.Listing.Line

/-!
Writing listings as lists of lines.

A template is a listing that is already read.  Remarks are lines of it, so that line numbers in
messages count them.
-/

namespace EvmProbe.Fragment

/-- A listing that is already read. -/
abbrev Template := List Listing.Line

namespace Template

/-- A line with nothing but a comment. -/
def remark (_text : String) : Listing.Line := .blank

/-- The declaration of a label. -/
def label (target : Label) : Listing.Line := .label target

/-- An instruction without operand. -/
def op (opcode : Opcode) : Listing.Line := .instruction opcode none

/-- DUPn. -/
def dup (n : Nat) : Listing.Line := op (.dupN n)

/-- SWAPn. -/
def swap (n : Nat) : Listing.Line := op (.swapN n)

/-- A push of `width` bytes. -/
def pushTerm (width : Nat) (term : Listing.Term) : Listing.Line :=
  .instruction (.pushN width) (some term)

/-- A push of a number. -/
def push (width value : Nat) : Listing.Line :=
  pushTerm width (.literal (.int (BitVec.ofNat 256 value)))

/-- A push of a constant. -/
def pushConstant (width : Nat) (key : Key) : Listing.Line := pushTerm width (.constant key)

/-- A push of the offset of a label; offsets take three bytes. -/
def pushLabel (target : Label) : Listing.Line := pushTerm 3 (.literal (.label target))

end Template

end EvmProbe.Fragment
