import EvmProbe.Bytes

/-!
Labels of a program.

A global label `::name` is visible everywhere in a linked program, a lexical label `:name` only to
instructions of one lexical scope.  Names are non-empty and hold ASCII letters and digits, `_` and
`-`; `ofChars?_text` says that a label with such a name is read back from its text.
-/

namespace EvmProbe

/-- A symbolic jump target. -/
inductive Label where
  /-- `::name`, visible from every scope. -/
  | global (name : String)
  /-- `:name`, visible within its own scope only. -/
  | lexical (name : String)
  deriving DecidableEq, Repr, Hashable, Inhabited

namespace Label

/-- The characters of label names. -/
def isNameChar (c : Char) : Bool := c.isAlphanum || c == '_' || c == '-'

/-- Whether a text can name a label. -/
def isName (name : List Char) : Bool := !name.isEmpty && name.all isNameChar

/-- The name without its colons. -/
def name : Label → String
  | .global name => name
  | .lexical name => name

/-- Whether the label is visible from every scope. -/
def isGlobal : Label → Bool
  | .global _ => true
  | .lexical _ => false

/-- The label as listings write it. -/
def text : Label → String
  | .global name => "::" ++ name
  | .lexical name => ":" ++ name

/-- Reads `::name` or `:name`. -/
def ofChars? : List Char → Option Label
  | ':' :: ':' :: name => if isName name then some (.global (String.ofList name)) else none
  | ':' :: name => if isName name then some (.lexical (String.ofList name)) else none
  | _ => none

/-- A name does not start with a colon. -/
theorem ne_colon_of_isName {c : Char} {rest : List Char} (h : isName (c :: rest) = true) :
    c ≠ ':' := by
  rintro rfl
  have hc : isNameChar ':' = false := rfl
  simp [isName, hc] at h

/-- A lexical label with a well-formed name is read back from its characters. -/
theorem ofChars?_colon {name : List Char} (h : isName name = true) :
    ofChars? (':' :: name) = some (.lexical (String.ofList name)) := by
  cases name with
  | nil => simp [isName] at h
  | cons c rest => simp [ofChars?, ne_colon_of_isName h, h]

/-- A label with a well-formed name is read back from its text. -/
theorem ofChars?_text {label : Label} (h : isName label.name.toList = true) :
    ofChars? label.text.toList = some label := by
  cases label with
  | global name => simp_all [Label.name, text, ofChars?]
  | lexical name =>
    have ht : (":" ++ name).toList = ':' :: name.toList := by simp
    simp only [Label.name] at h
    rw [text, ht, ofChars?_colon h, String.ofList_toList]

end Label

end EvmProbe
