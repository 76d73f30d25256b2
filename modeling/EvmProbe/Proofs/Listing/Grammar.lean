import EvmProbe.Listing.Assembly
import EvmProbe.Proofs.Listing.Literals
import EvmProbe.Proofs.Listing.Words

/-!
The lines that listings are made of, as a grammar over their words.

`LabelToken`, `PushOperand`, `DataOperand` and `Mnemonic` say which words are labels, operands and
mnemonics, and what each stands for; `Statement` says which words make up an instruction line.
Every relation is what the reader of these words computes:

* `ofChars?_eq_some_iff`, `parseTerm_ok_iff`, `parseData_ok_iff`, `ofMnemonic?_upper_iff` for words;
* `ofWords_ok_iff` for lines, and `statement_iff` for the instructions that they become when the
  constants are replaced by their values.
-/

namespace EvmProbe

namespace Listing

open Text Line

theorem exists_of_map_eq_ok {ε α β : Type} {f : α → β} {result : Except ε α} {b : β}
    (h : result.map f = .ok b) : ∃ a, result = .ok a ∧ f a = b := by
  cases result with
  | error cause => cases h
  | ok a => exact ⟨a, rfl, Except.ok.inj h⟩

/-! ## The grammar -/

/-- A label: a name behind two colons, or behind one. -/
inductive LabelToken : List Char → Label → Prop
  | global {name : List Char} (h : Label.isName name = true) :
    LabelToken (':' :: ':' :: name) (.global (String.ofList name))
  | lexical {name : List Char} (h : Label.isName name = true) :
    LabelToken (':' :: name) (.lexical (String.ofList name))

/-- An operand of a push that does not depend on the environment. -/
inductive LiteralOperand : List Char → Operand → Prop
  /-- A marker and 2 to 64 characters, digits and underscores. -/
  | hex {marker : Char} {digits : List Char} {value : Word} (hm : marker = 'x' ∨ marker = 'X')
    (hlow : 2 ≤ digits.length) (hhigh : digits.length ≤ 64)
    (hd : Spells 16 (digits.filter (· != '_')) value.toNat) :
    LiteralOperand ('0' :: marker :: digits) (.int value)
  /-- The decimal digits of a number that fits a word. -/
  | decimal {digits : List Char} {value : Word} (hd : Spells 10 digits value.toNat) :
    LiteralOperand digits (.int value)
  | reference {token : List Char} {target : Label} (h : LabelToken token target) :
    LiteralOperand token (.label target)
  /-- A name without colons, if it cannot be taken for a number. -/
  | name {name : List Char} (hn : Label.isName name = true) (hx : ¬ ['0', 'x'] <+: name)
    (hX : ¬ ['0', 'X'] <+: name) (hd : ∃ c ∈ name, c.isDigit = false) :
    LiteralOperand name (.label (.lexical (String.ofList name)))

/-- An operand of a push as it is written. -/
inductive TermToken : List Char → Term → Prop
  | constant (key : Key) : TermToken ('$' :: key.name.toList) (.constant key)
  | literal {token : List Char} {operand : Operand} (h : LiteralOperand token operand) :
    TermToken token (.literal operand)

/-- An operand of a push, and what it stands for. -/
inductive PushOperand (env : Environment) : List Char → Operand → Prop
  /-- A constant that is bound. -/
  | constant {key : Key} {value : Environment.Value} (h : env.get? key = some value) :
    PushOperand env ('$' :: key.name.toList) value.operand
  | literal {token : List Char} {operand : Operand} (h : LiteralOperand token operand) :
    PushOperand env token operand

/-- An operand of `DATA`: pairs of digits behind a marker, in front of which a second marker counts
for nothing. -/
inductive DataOperand : List Char → Bytes → Prop
  | intro {text digits : List Char} {bytes : Bytes} (hm : Hex.Marked text digits)
    (hd : Pairs digits bytes) : DataOperand ('0' :: 'x' :: text) bytes

/-- A word is a name of an opcode, in whatever case its letters are. -/
def Mnemonic (word : List Char) (op : Opcode) : Prop :=
  ∃ name, (name, op) ∈ Opcode.dictionary ∧ word.map Char.toUpper = name.toList

/-- The words of an instruction line, its opcode, and the operand it gets. -/
inductive Statement (env : Environment) : List (List Char) → Opcode → Option Operand → Prop
  | push {word token : List Char} {width : Fin 33} {operand : Operand} (hw : width ≠ 0)
    (hm : Mnemonic word (.push width)) (ho : PushOperand env token operand) :
    Statement env [word, token] (.push width) (some operand)
  | data {word token : List Char} {bytes : Bytes} (hm : Mnemonic word .data)
    (hd : DataOperand token bytes) : Statement env [word, token] .data (some (.bytes bytes))
  | plain {word : List Char} {op : Opcode} (hm : Mnemonic word op) (hd : op ≠ .data)
    (hp : ∀ width, width ≠ 0 → op ≠ .push width) : Statement env [word] op none

/-! ## Words -/

/-- **A label is read from the words that the grammar has for it.** -/
theorem ofChars?_eq_some_iff {token : List Char} {target : Label} :
    Label.ofChars? token = some target ↔ LabelToken token target := by
  constructor
  · intro h
    unfold Label.ofChars? at h
    split at h
    · split_ifs at h with hname
      cases h
      exact .global hname
    · split_ifs at h with hname
      cases h
      exact .lexical hname
    · cases h
  · rintro (hname | hname)
    · simp [Label.ofChars?, hname]
    · exact Label.ofChars?_colon hname

theorem LabelToken.head {token : List Char} {target : Label} (h : LabelToken token target) :
    token.head? = some ':' := by
  cases h <;> rfl

theorem isName_ne_head {name : List Char} (h : Label.isName name = true) {c : Char}
    (hc : Label.isNameChar c = false) : name.head? ≠ some c := by
  intro hhead
  have hall := (Bool.and_eq_true_iff.1 h).2
  rw [List.all_eq_true.1 hall c (List.mem_of_mem_head? hhead)] at hc
  cases hc

/-- A literal has a marker in front, or it has not. -/
theorem hexDigits?_eq_some_iff {token digits : List Char} :
    hexDigits? token = some digits ↔
      ∃ marker, (marker = 'x' ∨ marker = 'X') ∧ token = '0' :: marker :: digits := by
  constructor
  · intro h
    unfold hexDigits? at h
    split at h
    · cases h
      exact ⟨'x', .inl rfl, rfl⟩
    · cases h
      exact ⟨'X', .inr rfl, rfl⟩
    · cases h
  · rintro ⟨marker, rfl | rfl, rfl⟩
    · rfl
    · rfl

theorem hexDigits?_eq_none_iff {token : List Char} :
    hexDigits? token = none ↔ ¬ ['0', 'x'] <+: token ∧ ¬ ['0', 'X'] <+: token := by
  rw [← Option.not_isSome_iff_eq_none, Option.isSome_iff_exists]
  simp only [hexDigits?_eq_some_iff]
  constructor
  · intro h
    constructor
    · rintro ⟨digits, rfl⟩
      exact h ⟨digits, 'x', .inl rfl, rfl⟩
    · rintro ⟨digits, rfl⟩
      exact h ⟨digits, 'X', .inr rfl, rfl⟩
  · rintro ⟨hx, hX⟩ ⟨digits, marker, rfl | rfl, rfl⟩
    · exact hx ⟨digits, rfl⟩
    · exact hX ⟨digits, rfl⟩

/-- A number of decimal digits has no marker. -/
theorem hexDigits?_of_all_isDigit {token : List Char} (h : token.all Char.isDigit = true) :
    hexDigits? token = none := by
  rw [hexDigits?_eq_none_iff]
  rw [List.all_eq_true] at h
  constructor
  · rintro ⟨digits, rfl⟩
    exact absurd (h 'x' (by simp)) (by decide)
  · rintro ⟨digits, rfl⟩
    exact absurd (h 'X' (by simp)) (by decide)

/-- **The literals of pushes.** -/
theorem parseLiteral_ok_iff {token : List Char} {operand : Operand} :
    parseLiteral token = .ok operand ↔ LiteralOperand token operand := by
  constructor
  · intro h
    unfold parseLiteral at h
    split at h
    · next digits hdigits =>
      obtain ⟨marker, hm, rfl⟩ := hexDigits?_eq_some_iff.1 hdigits
      obtain ⟨value, hlow, hhigh, hd, rfl⟩ := parseHex_ok_iff.1 h
      exact .hex hm hlow hhigh hd
    · next hnone =>
      split_ifs at h with hall hcolon hname
      · obtain ⟨value, hd, rfl⟩ := parseDecimal_ok_iff.1 ⟨hall, h⟩
        exact .decimal hd
      · split at h
        · next ht =>
          cases h
          exact .reference (ofChars?_eq_some_iff.1 ht)
        · cases h
      · cases h
        obtain ⟨hx, hX⟩ := hexDigits?_eq_none_iff.1 hnone
        refine .name hname hx hX ?_
        simpa using hall
  · intro h
    unfold parseLiteral
    cases h with
    | @hex marker digits value hm hlow hhigh hd =>
      rw [hexDigits?_eq_some_iff.2 ⟨marker, hm, rfl⟩]
      exact parseHex_ok_iff.2 ⟨value, hlow, hhigh, hd, rfl⟩
    | @decimal _ value hd =>
      obtain ⟨hall, h⟩ := parseDecimal_ok_iff.2 ⟨value, hd, rfl⟩
      rw [hexDigits?_of_all_isDigit hall]
      dsimp only
      rw [if_pos hall, h]
    | @reference _ target ht =>
      have hhead := ht.head
      obtain ⟨rest, rfl⟩ := List.head?_eq_some_iff.1 hhead
      have hnone : hexDigits? (':' :: rest) = none := rfl
      have hall : ¬ (':' :: rest).all Char.isDigit = true := by simp
      rw [hnone]
      dsimp only
      rw [if_neg hall, if_pos hhead, ofChars?_eq_some_iff.2 ht]
    | name hn hx hX hd =>
      have hall : ¬ token.all Char.isDigit = true := by simpa using hd
      rw [hexDigits?_eq_none_iff.2 ⟨hx, hX⟩]
      dsimp only
      rw [if_neg hall, if_neg (isName_ne_head hn (by decide)), if_pos hn]

/-- No literal starts with a dollar sign. -/
theorem LiteralOperand.head {token : List Char} {operand : Operand}
    (h : LiteralOperand token operand) : token.head? ≠ some '$' := by
  cases h with
  | hex => simp
  | @decimal _ value hd =>
    intro hhead
    obtain ⟨c, hc⟩ := exists_of_mem_spells hd '$' (List.mem_of_mem_head? hhead)
    cases hc
  | reference ht =>
    rw [ht.head]
    decide
  | name hn => exact isName_ne_head hn (by decide)

/-- A constant is found under its name, and has no other. -/
theorem ofName?_eq_some_iff {name : String} {key : Key} :
    Key.ofName? name = some key ↔ name = key.name := by
  constructor
  · intro h
    unfold Key.ofName? at h
    have hname := List.find?_some h
    exact (beq_iff_eq.1 hname).symm
  · rintro rfl
    cases key <;> rfl

theorem operand_ok_iff {env : Environment} {key : Key} {operand : Operand} :
    env.operand key = .ok operand ↔
      ∃ value, env.get? key = some value ∧ value.operand = operand := by
  unfold Environment.operand
  cases env.get? key <;> simp

/-- **The operands of pushes**, as they are written. -/
theorem parseTerm_ok_iff {token : List Char} {term : Term} :
    parseTerm token = .ok term ↔ TermToken token term := by
  constructor
  · intro h
    unfold parseTerm at h
    split at h
    · next name =>
      split_ifs at h
      unfold Environment.keyNamed at h
      cases hkey : Key.ofName? (String.ofList name) with
      | none =>
        rw [hkey] at h
        cases h
      | some key =>
        rw [hkey] at h
        cases h
        have hname : name = key.name.toList := by
          rw [← ofName?_eq_some_iff.1 hkey, String.toList_ofList]
        rw [hname]
        exact .constant key
    · obtain ⟨literal, hl, rfl⟩ := exists_of_map_eq_ok h
      exact .literal (parseLiteral_ok_iff.1 hl)
  · intro h
    cases h with
    | constant key =>
      have hmarker : key.name.toList ≠ ['u', 'n', 'd', 'e', 'f', 'i', 'n', 'e', 'd'] := by
        cases key <;> decide
      rw [parseTerm, if_neg hmarker, String.ofList_toList, Environment.keyNamed,
        ofName?_eq_some_iff.2 rfl]
    | literal hl =>
      unfold parseTerm
      split
      · exact absurd rfl hl.head
      · rw [parseLiteral_ok_iff.2 hl]
        rfl

/-- A constant stands for its value, and anything else for itself. -/
theorem pushOperand_iff {env : Environment} {token : List Char} {operand : Operand} :
    (∃ term, TermToken token term ∧ term.resolve env = .ok operand) ↔
      PushOperand env token operand := by
  constructor
  · rintro ⟨term, htoken, hresolve⟩
    cases htoken with
    | constant key =>
      unfold Term.resolve at hresolve
      dsimp only at hresolve
      split at hresolve
      · next found hfound =>
        cases hresolve
        obtain ⟨value, hv, rfl⟩ := operand_ok_iff.1 hfound
        exact .constant hv
      · cases hresolve
    | literal hl =>
      cases hresolve
      exact .literal hl
  · intro h
    cases h with
    | @constant key value hv =>
      refine ⟨.constant key, .constant key, ?_⟩
      rw [Term.resolve, operand_ok_iff.2 ⟨value, hv, rfl⟩]
    | literal hl => exact ⟨_, .literal hl, rfl⟩

/-- **The operands of `DATA`.** -/
theorem parseData_ok_iff {token : List Char} {bytes : Bytes} :
    parseData token = .ok bytes ↔ DataOperand token bytes := by
  constructor
  · intro h
    unfold parseData at h
    split at h
    · split at h
      · next hd =>
        cases h
        obtain ⟨digits, hm, hp⟩ := (Hex.decode_ok_iff _ _).1 hd
        exact .intro hm hp
      · cases h
    · cases h
  · rintro ⟨hm, hp⟩
    rw [parseData, (Hex.decode_ok_iff _ _).2 ⟨_, hm, hp⟩]

/-- **The mnemonics**: an opcode is found under the upper case of a word that is a name of it. -/
theorem ofMnemonic?_upper_iff {word : List Char} {op : Opcode} :
    Opcode.ofMnemonic? (String.ofList (word.map Char.toUpper)) = some op ↔ Mnemonic word op := by
  rw [Opcode.ofMnemonic?_eq_some_iff]
  constructor
  · intro h
    exact ⟨_, h, (String.toList_ofList).symm⟩
  · rintro ⟨name, h, hname⟩
    rwa [hname, String.ofList_toList]

/-- A mnemonic does not start with a colon. -/
theorem Mnemonic.head {word : List Char} {op : Opcode} (h : Mnemonic word op) :
    word.head? ≠ some ':' := by
  intro hhead
  obtain ⟨rest, rfl⟩ := List.head?_eq_some_iff.1 hhead
  obtain ⟨name, hm, hname⟩ := h
  have hcolon : ':' ∈ name.toList := by
    rw [← hname]
    exact List.mem_cons_self
  rcases Opcode.capital_of_mem_dictionary hm ':' hcolon with hu | hd
  · cases hu
  · cases hd

/-! ## Lines -/

/-- PUSH1..PUSH32 are the opcodes with immediate bytes. -/
theorem isPush_iff_push {op : Opcode} (h : op ∈ Opcode.named) :
    op.isPush = true ↔ ∃ width : Fin 33, width ≠ 0 ∧ op = .push width := by
  have hpush : ∀ width : Fin 33, (Opcode.push width).isPush = true ↔ width ≠ 0 := by decide
  have hdup : ∀ depth : Fin 16, (Opcode.dup depth).isPush = false := by decide
  have hswap : ∀ depth : Fin 16, (Opcode.swap depth).isPush = false := by decide
  have hlog : ∀ topics : Fin 5, (Opcode.log topics).isPush = false := by decide
  cases op with
  | undefined byte => exact absurd rfl (Opcode.ne_undefined_of_mem_named h byte)
  | push width => simp [hpush]
  | dup depth => simp [hdup]
  | swap depth => simp [hswap]
  | log topics => simp [hlog]
  | _ => exact iff_of_false (by decide) (by simp)

/-- What the words of a line are read as. -/
inductive Reads : List (List Char) → Line → Prop
  | blank : Reads [] .blank
  | label {token : List Char} {target : Label} (h : LabelToken token target) :
    Reads [token] (.label target)
  | push {word token : List Char} {width : Fin 33} {term : Term} (hw : width ≠ 0)
    (hm : Mnemonic word (.push width)) (ht : TermToken token term) :
    Reads [word, token] (.instruction (.push width) (some term))
  | data {word token : List Char} {bytes : Bytes} (hm : Mnemonic word .data)
    (hd : DataOperand token bytes) :
    Reads [word, token] (.instruction .data (some (.literal (.bytes bytes))))
  | plain {word : List Char} {op : Opcode} (hm : Mnemonic word op) (hd : op ≠ .data)
    (hp : ∀ width, width ≠ 0 → op ≠ .push width) : Reads [word] (.instruction op none)

theorem Mnemonic.named {word : List Char} {op : Opcode} (h : Mnemonic word op) :
    op ∈ Opcode.named :=
  Opcode.mem_named_of_ofMnemonic? (ofMnemonic?_upper_iff.2 h)

theorem reads_of_parseOperands {word : List Char} {op : Opcode} (hm : Mnemonic word op)
    {mnemonic : String} {operands : List (List Char)} {line : Line}
    (h : parseOperands op mnemonic operands = .ok line) : Reads (word :: operands) line := by
  unfold parseOperands at h
  split at h
  · split_ifs at h with hd hp
    cases h
    refine .plain hm hd ?_
    rintro width hw rfl
    exact hp ((isPush_iff_push hm.named).2 ⟨width, hw, rfl⟩)
  · split_ifs at h with hd hp
    · obtain ⟨bytes, hbytes, rfl⟩ := exists_of_map_eq_ok h
      subst hd
      exact .data hm (parseData_ok_iff.1 hbytes)
    · obtain ⟨term, ht, rfl⟩ := exists_of_map_eq_ok h
      obtain ⟨width, hw, rfl⟩ := (isPush_iff_push hm.named).1 hp
      exact .push hw hm (parseTerm_ok_iff.1 ht)
  · cases h

theorem ofWords_of_mnemonic {word : List Char} {op : Opcode} (h : Mnemonic word op)
    (operands : List (List Char)) : ofWords (word :: operands) =
      parseOperands op (String.ofList (word.map Char.toUpper)) operands := by
  rw [ofWords, if_neg h.head]
  dsimp only
  rw [ofMnemonic?_upper_iff.2 h]

/-- **The lines**: what the words of a line are read as is what the grammar says. -/
theorem ofWords_ok_iff {words : List (List Char)} {line : Line} :
    ofWords words = .ok line ↔ Reads words line := by
  constructor
  · intro h
    unfold ofWords at h
    split at h
    · cases h
      exact .blank
    · split at h
      · split at h
        · cases h
        · next ht =>
          split_ifs at h with hrest
          cases h
          rw [List.isEmpty_iff.1 hrest]
          exact .label (ofChars?_eq_some_iff.1 ht)
      · dsimp only at h
        split at h
        · cases h
        · next hm => exact reads_of_parseOperands (ofMnemonic?_upper_iff.1 hm) h
  · intro h
    cases h with
    | blank => rfl
    | label ht =>
      rw [ofWords, if_pos ht.head, ofChars?_eq_some_iff.2 ht]
      rfl
    | @push word token width term hw hm ht =>
      have hdata : Opcode.push width ≠ .data := by simp
      rw [ofWords_of_mnemonic hm, parseOperands, if_neg hdata,
        if_pos ((isPush_iff_push hm.named).2 ⟨width, hw, rfl⟩), parseTerm_ok_iff.2 ht]
      rfl
    | data hm hd =>
      rw [ofWords_of_mnemonic hm, parseOperands, if_pos rfl, parseData_ok_iff.2 hd]
      rfl
    | @plain word op hm hd hp =>
      have hpush : ¬ op.isPush = true := by
        rw [isPush_iff_push hm.named]
        rintro ⟨width, hw, he⟩
        exact hp width hw he
      rw [ofWords_of_mnemonic hm, parseOperands, if_neg hd, if_neg hpush]

/-- A blank line has no words. -/
theorem ofWords_blank_iff {words : List (List Char)} : ofWords words = .ok .blank ↔ words = [] := by
  rw [ofWords_ok_iff]
  constructor
  · rintro ⟨⟩
    rfl
  · rintro rfl
    exact .blank

/-- **The label lines.** -/
theorem ofWords_label_iff {words : List (List Char)} {target : Label} :
    ofWords words = .ok (.label target) ↔ ∃ token, words = [token] ∧ LabelToken token target := by
  rw [ofWords_ok_iff]
  constructor
  · rintro (_ | ht)
    exact ⟨_, rfl, ht⟩
  · rintro ⟨token, rfl, ht⟩
    exact .label ht

/-- **The instruction lines**, with the constants replaced by their values. -/
theorem statement_iff {env : Environment} {words : List (List Char)} {op : Opcode}
    {operand : Option Operand} :
    (∃ term, ofWords words = .ok (.instruction op term) ∧ resolveTerm env term = .ok operand) ↔
      Statement env words op operand := by
  simp only [ofWords_ok_iff]
  constructor
  · rintro ⟨term, hreads, hresolve⟩
    cases hreads with
    | push hw hm ht =>
      obtain ⟨value, hv, rfl⟩ := exists_of_map_eq_ok hresolve
      exact .push hw hm (pushOperand_iff.1 ⟨_, ht, hv⟩)
    | data hm hd =>
      cases hresolve
      exact .data hm hd
    | plain hm hd hp =>
      cases hresolve
      exact .plain hm hd hp
  · intro h
    cases h with
    | push hw hm ho =>
      obtain ⟨term, ht, hv⟩ := pushOperand_iff.2 ho
      refine ⟨_, .push hw hm ht, ?_⟩
      rw [resolveTerm, hv]
      rfl
    | data hm hd => exact ⟨_, .data hm hd, rfl⟩
    | plain hm hd hp => exact ⟨_, .plain hm hd hp, rfl⟩

end Listing

end EvmProbe
