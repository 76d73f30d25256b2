import EvmProbe.Listing.Line
import EvmProbe.Proofs.Text.Fields
import Mathlib

/-!
The words of listings.

Mnemonics, labels and literals are written with the characters of names and with colons, which are
neither blanks nor line feeds and start no comment.

* `parse_intercalate`: a line of such words with blanks between them is read from these words.
* `mem_named`, `named_of_ofMnemonic?`: the opcodes that are looked up are those that have a name.
* `ofMnemonic?_of_mem`: an opcode is found under its name.
-/

namespace EvmProbe

namespace Listing.Line

/-! ## Words -/

/-- The characters of the words that listings are written with. -/
def isWordChar (c : Char) : Bool := Label.isNameChar c || c == ':'

/-- A text that listings write as one word. -/
def IsWord (word : List Char) : Prop := word ≠ [] ∧ ∀ c ∈ word, isWordChar c = true

section
variable {c : Char} (h : isWordChar c = true)
include h

theorem toNat_of_isWordChar : 45 ≤ c.toNat ∧ c.toNat ≤ 122 := by
  simp only [isWordChar, Label.isNameChar, Char.isAlphanum, Char.isAlpha, Char.isUpper,
    Char.isLower, Char.isDigit, Bool.or_eq_true, Bool.and_eq_true, decide_eq_true_eq, beq_iff_eq,
    UInt32.le_iff_toNat_le, ge_iff_le] at h
  change (((((65 ≤ c.toNat ∧ c.toNat ≤ 90) ∨ (97 ≤ c.toNat ∧ c.toNat ≤ 122)) ∨
    (48 ≤ c.toNat ∧ c.toNat ≤ 57)) ∨ c = '_') ∨ c = '-') ∨ c = ':' at h
  rcases h with ((h | rfl) | rfl) | rfl
  · omega
  all_goals decide

/-- A character of a word is no blank. -/
theorem isBlank_of_isWordChar : Text.isBlank c = false := by
  have := toNat_of_isWordChar h
  simp only [Text.isBlank, Bool.or_eq_false_iff, Bool.and_eq_false_iff, decide_eq_false_iff_not,
    beq_eq_false_iff_ne]
  omega

theorem ne_lineFeed_of_isWordChar : c ≠ '\n' := by
  rintro rfl
  exact absurd h (by decide)

theorem ne_slash_of_isWordChar : c ≠ '/' := by
  rintro rfl
  exact absurd h (by decide)

end

/-- A line without a slash holds no comment. -/
theorem cutComment_of_no_slash {line : List Char} (h : ∀ c ∈ line, c ≠ '/') :
    cutComment line = line := by
  induction line with
  | nil => rfl
  | cons c line ih =>
    have hc := h c (by simp)
    unfold cutComment
    split
    · next heq => exact (List.cons_ne_nil _ _ heq).elim
    · next heq => exact absurd (List.cons.inj heq).1 hc
    · next heq =>
      obtain ⟨rfl, rfl⟩ := List.cons.inj heq
      rw [ih fun d hd => h d (by simp [hd])]

theorem words_of_isWord {word : List Char} (h : IsWord word) : Text.words word = [word] :=
  Text.words_of_ink h.1 fun c hc => isBlank_of_isWordChar (h.2 c hc)

/-- Words with blanks between them are found again. -/
theorem words_intercalate {ws : List (List Char)} (h : ∀ w ∈ ws, IsWord w) :
    Text.words ([' '].intercalate ws) = ws := by
  induction ws with
  | nil => rfl
  | cons word rest ih =>
    have hword := words_of_isWord (h word (by simp))
    cases rest with
    | nil => rw [List.intercalate_singleton, hword]
    | cons next rest =>
      rw [List.intercalate_cons_cons, List.append_assoc, List.singleton_append,
        Text.words_append_blank, hword, ih fun w hw => h w (by simp [hw]), List.singleton_append]

/-- Words with blanks between them hold no other characters than those of words and blanks. -/
theorem forall_mem_intercalate {ws : List (List Char)} (h : ∀ w ∈ ws, IsWord w) {P : Char → Prop}
    (hblank : P ' ') (hword : ∀ c, isWordChar c = true → P c) :
    ∀ c ∈ [' '].intercalate ws, P c := by
  induction ws with
  | nil => simp
  | cons word rest ih =>
    have hfirst : ∀ c ∈ word, P c := fun c hc => hword c ((h word (by simp)).2 c hc)
    cases rest with
    | nil => rwa [List.intercalate_singleton]
    | cons next rest =>
      rw [List.intercalate_cons_cons, List.append_assoc]
      intro c hc
      rcases List.mem_append.1 hc with hc | hc
      · exact hfirst c hc
      · rcases List.mem_cons.1 hc with rfl | hc
        · exact hblank
        · exact ih (fun w hw => h w (by simp [hw])) c hc

/-- **A line of words is read from these words.** -/
theorem parse_intercalate {ws : List (List Char)} (h : ∀ w ∈ ws, IsWord w) :
    parse ([' '].intercalate ws) = ofWords ws := by
  have hslash : ∀ c ∈ [' '].intercalate ws, c ≠ '/' :=
    forall_mem_intercalate h (by decide) fun c hc => ne_slash_of_isWordChar hc
  rw [parse, cutComment_of_no_slash hslash, words_intercalate h]

/-- A line of words is a single line. -/
theorem not_mem_intercalate {ws : List (List Char)} (h : ∀ w ∈ ws, IsWord w) :
    '\n' ∉ [' '].intercalate ws := fun hm =>
  forall_mem_intercalate h (by decide) (fun _ hc => ne_lineFeed_of_isWordChar hc) '\n' hm rfl

/-- The text of a label is a word. -/
theorem isWord_label {target : Label} (h : Label.isName target.name.toList = true) :
    IsWord target.text.toList := by
  have hname : ∀ c ∈ target.name.toList, isWordChar c = true := by
    intro c hc
    have hall := (Bool.and_eq_true_iff.1 h).2
    rw [isWordChar, List.all_eq_true.1 hall c hc, Bool.true_or]
  have hcolon : isWordChar ':' = true := by decide
  cases target <;> rw [Label.name] at hname <;>
    exact ⟨by simp [Label.text], by simpa [Label.text, hcolon] using hname⟩

end Listing.Line

namespace Opcode

/-! ## Names of opcodes -/

section
variable {op : Opcode} {name : String}

/-- **Every opcode but an undefined byte has a name.** -/
theorem mem_named (h : ∀ byte, op ≠ .undefined byte) : op ∈ named := by
  cases op with
  | undefined byte => exact absurd rfl (h byte)
  | push width | dup depth | swap depth | log topics => simp [named]
  | _ => decide +kernel

/-- An undefined byte has no name. -/
theorem ne_undefined_of_mem_named (h : op ∈ named) (byte : UInt8) : op ≠ .undefined byte := by
  rintro rfl
  simp [named] at h

theorem exists_mnemonic (h : op ∈ named) : ∃ name, op.mnemonic = some name := by
  cases op with
  | undefined byte => exact absurd rfl (ne_undefined_of_mem_named h byte)
  | _ => exact ⟨_, rfl⟩

/-- A named opcode is written with its name. -/
theorem text_eq (h : op.mnemonic = some name) : op.text = name := by
  unfold text
  split
  · cases h
  · rw [h, Option.getD_some]

/-- Names are written with capitals and digits. -/
theorem capital_of_mem_named : ∀ op ∈ named, ∀ name ∈ op.mnemonic,
    name.toList ≠ [] ∧ ∀ c ∈ name.toList, c.isUpper ∨ c.isDigit := by
  have hall : (named.all fun op => op.mnemonic.all fun name =>
      !name.toList.isEmpty && name.toList.all fun c => c.isUpper || c.isDigit) = true := by
    decide +kernel
  intro op h name hn
  have hname := List.all_eq_true.1 hall op h
  rw [Option.mem_def.1 hn] at hname
  simpa using hname

/-- No name is that of two opcodes. -/
theorem nodup_dictionary : (dictionary.map Prod.fst).Nodup := by decide +kernel

/-- **The opcodes are found under the names that the dictionary has for them.** -/
theorem ofMnemonic?_eq_some_iff : ofMnemonic? name = some op ↔ (name, op) ∈ dictionary := by
  constructor
  · intro h
    obtain ⟨before, after, heq, -⟩ := List.lookup_eq_some_iff.1 h
    rw [heq]
    exact List.mem_append_right before List.mem_cons_self
  · intro hm
    obtain ⟨before, after, heq⟩ := List.append_of_mem hm
    refine List.lookup_eq_some_iff.2 ⟨before, after, heq, fun entry he => ?_⟩
    have hdistinct := nodup_dictionary
    rw [heq, List.map_append, List.nodup_append] at hdistinct
    have hne : entry.1 ≠ name := hdistinct.2.2 _ (List.mem_map_of_mem he) name List.mem_cons_self
    exact bne_iff_ne.2 hne.symm

/-- The names of the dictionary are those of the opcodes, and the two that were given up. -/
theorem mem_dictionary_iff : (name, op) ∈ dictionary ↔
    (op ∈ named ∧ op.mnemonic = some name) ∨
      (name, op) ∈ [("SHA3", Opcode.keccak256), ("DIFFICULTY", .prevrandao)] := by
  rw [dictionary, List.mem_append, List.mem_filterMap]
  refine or_congr_left ⟨?_, ?_⟩
  · rintro ⟨other, ho, he⟩
    obtain ⟨found, hf, hpair⟩ := Option.map_eq_some_iff.1 he
    obtain ⟨rfl, rfl⟩ := Prod.mk.inj hpair
    exact ⟨ho, hf⟩
  · rintro ⟨ho, hf⟩
    exact ⟨op, ho, by rw [hf, Option.map_some]⟩

/-- **An opcode is found under its name.** -/
theorem ofMnemonic?_of_mem (h : op ∈ named) (hn : op.mnemonic = some name) :
    ofMnemonic? name = some op :=
  ofMnemonic?_eq_some_iff.2 (mem_dictionary_iff.2 (.inl ⟨h, hn⟩))

/-- What is found under a name has one. -/
theorem mem_named_of_ofMnemonic? (h : ofMnemonic? name = some op) : op ∈ named := by
  rcases mem_dictionary_iff.1 (ofMnemonic?_eq_some_iff.1 h) with ⟨ho, -⟩ | hm
  · exact ho
  · simp only [List.mem_cons, Prod.mk.injEq, List.not_mem_nil, or_false] at hm
    rcases hm with ⟨-, rfl⟩ | ⟨-, rfl⟩
    · exact mem_named nofun
    · exact mem_named nofun

/-- The names of the dictionary are written with capitals and digits. -/
theorem capital_of_mem_dictionary (h : (name, op) ∈ dictionary) :
    ∀ c ∈ name.toList, c.isUpper ∨ c.isDigit := by
  rcases mem_dictionary_iff.1 h with ⟨ho, hn⟩ | hm
  · exact (capital_of_mem_named op ho name hn).2
  · simp only [List.mem_cons, Prod.mk.injEq, List.not_mem_nil, or_false] at hm
    have hall : ["SHA3", "DIFFICULTY"].all
        (fun name => name.toList.all fun c => c.isUpper || c.isDigit) = true := by decide +kernel
    have hname := List.all_eq_true.1 hall name (by rcases hm with ⟨rfl, -⟩ | ⟨rfl, -⟩ <;> simp)
    simpa using hname

end

end Opcode

namespace Listing.Line

variable {op : Opcode} {name : String}

/-- The name of an opcode is a word. -/
theorem isWord_mnemonic (h : op ∈ Opcode.named) (hn : op.mnemonic = some name) :
    IsWord name.toList := by
  obtain ⟨hne, hall⟩ := Opcode.capital_of_mem_named op h name hn
  refine ⟨hne, fun c hc => ?_⟩
  rcases hall c hc with hu | hd
  · simp [isWordChar, Label.isNameChar, Char.isAlphanum, Char.isAlpha, hu]
  · simp [isWordChar, Label.isNameChar, Char.isAlphanum, hd]

/-- Capitals and digits have no other upper case. -/
theorem map_toUpper_mnemonic (h : op ∈ Opcode.named) (hn : op.mnemonic = some name) :
    name.toList.map Char.toUpper = name.toList := by
  refine (List.map_congr_left fun c hc => ?_).trans (List.map_id _)
  have hc := (Opcode.capital_of_mem_named op h name hn).2 c hc
  simp only [Char.isUpper, Char.isDigit, Bool.and_eq_true, decide_eq_true_eq,
    UInt32.le_iff_toNat_le, ge_iff_le] at hc
  change (65 ≤ c.toNat ∧ c.toNat ≤ 90) ∨ (48 ≤ c.toNat ∧ c.toNat ≤ 57) at hc
  refine dif_neg fun hl => ?_
  have hlow : 97 ≤ c.toNat := hl.1
  omega

/-- A line that starts with the name of an opcode is read by its operands. -/
theorem ofWords_mnemonic (h : op ∈ Opcode.named) (hn : op.mnemonic = some name)
    (operands : List (List Char)) :
    ofWords (name.toList :: operands) = parseOperands op name operands := by
  obtain ⟨hne, hall⟩ := Opcode.capital_of_mem_named op h name hn
  have hhead : name.toList.head? ≠ some ':' := by
    intro hc
    have := hall ':' (List.mem_of_mem_head? hc)
    revert this
    decide
  rw [ofWords, if_neg hhead, map_toUpper_mnemonic h hn, String.ofList_toList]
  dsimp only
  rw [Opcode.ofMnemonic?_of_mem h hn]

end Listing.Line

end EvmProbe
