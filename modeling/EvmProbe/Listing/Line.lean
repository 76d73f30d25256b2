import EvmProbe.Environment
import EvmProbe.Text.Fields
import EvmProbe.Text.Quoted

/-!
The lines of an assembler listing.

A line is cut at its first `//` and split into words.  It is blank, declares a label, or holds one
instruction: a mnemonic in either case, with one operand for PUSH1..PUSH32 and for DATA and none
otherwise.  `Line.parse` reads a line; `Line.Error` names every way it can fail, in the order in
which the checks are made.
-/

namespace EvmProbe.Listing

/-- An operand as a listing writes it. -/
inductive Term where
  /-- `$KEY`: whatever the constant is bound to. -/
  | constant (key : Key)
  /-- An operand given literally. -/
  | literal (operand : Operand)
  deriving DecidableEq, Repr

/-- A line of a listing. -/
inductive Line where
  /-- Nothing but blanks and a comment. -/
  | blank
  /-- The declaration of a label for the next instruction. -/
  | label (target : Label)
  /-- An instruction and its operand. -/
  | instruction (opcode : Opcode) (term : Option Term)
  deriving DecidableEq, Repr

namespace Line

/-- Why a line is refused. -/
inductive Error where
  /-- The first word starts with a colon and is no label. -/
  | badLabel (word : String)
  /-- Something follows a label. -/
  | afterLabel (target : Label)
  /-- The first word is no mnemonic. -/
  | unknownMnemonic (word : String)
  /-- More than one operand is given. -/
  | manyOperands (mnemonic : String)
  /-- `DATA` stands alone. -/
  | dataAlone
  /-- A push stands alone. -/
  | operandMissing (mnemonic : String)
  /-- An operand is given that the opcode has no use for. -/
  | operandRefused (mnemonic : String) (operand : String)
  /-- The operand is the marker `$undefined`. -/
  | undefinedMarker
  /-- A constant has no value. -/
  | constant (cause : Environment.LookupError)
  /-- A hex literal is too short or too long. -/
  | hexLength (operand : String)
  /-- A hex literal holds a character that is no digit. -/
  | hexDigit (operand : String) (bad : Char)
  /-- A decimal literal does not fit a word. -/
  | decimalRange (operand : String)
  /-- The operand starts with a colon and is no label. -/
  | badReference (operand : String)
  /-- The operand has none of the known forms. -/
  | unrecognized (operand : String)
  /-- The operand of `DATA` has no `0x` in front. -/
  | dataMarker
  /-- The operand of `DATA` is no byte string. -/
  | dataDigits (operand : String) (cause : Hex.Fault)
  deriving DecidableEq, Repr

/-- A text between quotes. -/
private def quoted (text : String) : String := Text.Quoted.encode text.toList

/-- The wording of an error. -/
def Error.message : Error → String
  | .badLabel word => s!"bad label {quoted word}"
  | .afterLabel target => s!"unexpected tokens after label {target.text}"
  | .unknownMnemonic word => s!"unknown EVM instruction {quoted word}"
  | .manyOperands mnemonic => s!"{mnemonic} takes at most one operand"
  | .dataAlone => "DATA requires a hex operand"
  | .operandMissing mnemonic => s!"{mnemonic} requires an operand"
  | .operandRefused mnemonic operand =>
    s!"{mnemonic} does not take an operand, got {quoted operand}"
  | .undefinedMarker => "operand $undefined is undefined"
  | .constant cause => cause.message
  | .hexLength operand => s!"hex literal {operand} must have between 2 and 64 digits"
  | .hexDigit operand bad => s!"bad hex literal {operand}: invalid digit: {bad}"
  | .decimalRange operand =>
    s!"bad decimal literal {operand}: the value is too large to fit the target type"
  | .badReference operand => s!"bad label reference {quoted operand}"
  | .unrecognized operand => s!"unrecognized operand {quoted operand}"
  | .dataMarker => "DATA operand must be a 0x-prefixed hex string"
  | .dataDigits operand cause => s!"bad DATA operand {operand}: {cause.message}"

/-- The line up to its first `//`. -/
def cutComment : List Char → List Char
  | [] => []
  | '/' :: '/' :: _ => []
  | c :: rest => c :: cutComment rest

/-- The digits behind `0x` or `0X`. -/
def hexDigits? : List Char → Option (List Char)
  | '0' :: 'x' :: digits => some digits
  | '0' :: 'X' :: digits => some digits
  | _ => none

/-- Whether a byte of a hex literal is neither a digit nor an underscore. -/
def isBadHexByte (byte : UInt8) : Bool := byte != 0x5f && (Hex.value? byte).isNone

/-- The number that digits write; underscores count for nothing. -/
def hexValue (digits : Bytes) : Nat :=
  digits.foldl (fun n byte => match Hex.value? byte with
    | some value => 16 * n + value
    | none => n) 0

/-- Reads the digits of a hex literal. The last bad byte is the one reported, as the character of
that code point. -/
def parseHex (operand digits : List Char) : Except Error Operand :=
  let bytes := Hex.textBytes digits
  if bytes.length < 2 ∨ 64 < bytes.length then .error (.hexLength (String.ofList operand))
  else match bytes.reverse.find? isBadHexByte with
    | some byte => .error (.hexDigit (String.ofList operand) (Char.ofNat byte.toNat))
    | none => .ok (.int (BitVec.ofNat 256 (hexValue bytes)))

/-- The number that decimal digits write. -/
def decimalValue (digits : List Char) : Nat :=
  digits.foldl (fun n c => 10 * n + (c.toNat - 48)) 0

/-- Reads a decimal literal. -/
def parseDecimal (operand : List Char) : Except Error Operand :=
  if decimalValue operand < capacity 32 then .ok (.int (BitVec.ofNat 256 (decimalValue operand)))
  else .error (.decimalRange (String.ofList operand))

/-- Reads an operand that is not a constant. -/
def parseLiteral (operand : List Char) : Except Error Operand :=
  match hexDigits? operand with
  | some digits => parseHex operand digits
  | none =>
    if operand.all Char.isDigit then parseDecimal operand
    else if operand.head? = some ':' then
      match Label.ofChars? operand with
      | some target => .ok (.label target)
      | none => .error (.badReference (String.ofList operand))
    else if Label.isName operand then .ok (.label (.lexical (String.ofList operand)))
    else .error (.unrecognized (String.ofList operand))

/-- Reads the operand of a push. -/
def parseTerm : List Char → Except Error Term
  | '$' :: name =>
    if name = ['u', 'n', 'd', 'e', 'f', 'i', 'n', 'e', 'd'] then .error .undefinedMarker
    else match Environment.keyNamed (String.ofList name) with
      | .ok key => .ok (.constant key)
      | .error cause => .error (.constant cause)
  | operand => (parseLiteral operand).map .literal

/-- Reads the operand of `DATA`. -/
def parseData (operand : List Char) : Except Error Bytes :=
  match operand with
  | '0' :: 'x' :: digits =>
    match Hex.decode digits with
    | .ok bytes => .ok bytes
    | .error cause => .error (.dataDigits (String.ofList operand) cause)
  | _ => .error .dataMarker

/-- Reads an instruction from its opcode, its mnemonic in upper case, and what follows. -/
def parseOperands (opcode : Opcode) (mnemonic : String) (operands : List (List Char)) :
    Except Error Line :=
  match operands with
  | [] =>
    if opcode = .data then .error .dataAlone
    else if opcode.isPush then .error (.operandMissing mnemonic)
    else .ok (.instruction opcode none)
  | [operand] =>
    if opcode = .data then
      (parseData operand).map fun bytes => .instruction .data (some (.literal (.bytes bytes)))
    else if opcode.isPush then (parseTerm operand).map fun term => .instruction opcode (some term)
    else .error (.operandRefused mnemonic (String.ofList operand))
  | _ => .error (.manyOperands mnemonic)

/-- Reads a line from its words. -/
def ofWords : List (List Char) → Except Error Line
  | [] => .ok .blank
  | first :: rest =>
    if first.head? = some ':' then
      match Label.ofChars? first with
      | none => .error (.badLabel (String.ofList first))
      | some target => if rest.isEmpty then .ok (.label target) else .error (.afterLabel target)
    else
      let mnemonic := String.ofList (first.map Char.toUpper)
      match Opcode.ofMnemonic? mnemonic with
      | none => .error (.unknownMnemonic (String.ofList first))
      | some opcode => parseOperands opcode mnemonic rest

/-- Reads a line. -/
def parse (line : List Char) : Except Error Line :=
  ofWords (Text.words (cutComment line))

end Line

end EvmProbe.Listing
