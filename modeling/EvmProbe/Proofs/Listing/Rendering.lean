import EvmProbe.Listing.Assembly
import EvmProbe.Proofs.Listing.Reading
import EvmProbe.Proofs.Text.Digits

/-!
Reading a listing that was written.

* `parse_instructionText`: the line of a listable instruction is read as `lineOf` says, unless it
  pushes a number below sixteen, whose single digit is refused.
* `assemble_render`: a listing of instructions without such numbers is assembled as what they are
  read back as.
-/

namespace EvmProbe.Listing

open Hex

/-! ## Operands -/

namespace Line

/-- A marker and digits are a word. -/
theorem isWord_hex {digits : List Char} (h : ∀ c ∈ digits, isWordChar c = true) :
    IsWord ('0' :: 'x' :: digits) :=
  ⟨List.cons_ne_nil _ _, List.forall_mem_cons.2 ⟨by decide, List.forall_mem_cons.2 ⟨by decide, h⟩⟩⟩

theorem isWordChar_digitChar : ∀ value : Fin 16, isWordChar (Nat.digitChar value) = true := by
  decide

theorem isWordChar_encode (bytes : Bytes) : ∀ c ∈ (encode bytes).toList, isWordChar c = true := by
  intro c hc
  rw [encode, String.toList_ofList, List.mem_flatMap] at hc
  obtain ⟨byte, -, hc⟩ := hc
  have high := isWordChar_digitChar ⟨_, high_lt byte⟩
  have low := isWordChar_digitChar ⟨_, low_lt byte⟩
  rw [pair, digit_eq (high_lt byte), digit_eq (low_lt byte)] at hc
  simp only [List.mem_cons, List.not_mem_nil, or_false] at hc
  rcases hc with rfl | rfl
  · exact high
  · exact low

theorem isWordChar_toDigits (n : Nat) : ∀ c ∈ Nat.toDigits 16 n, isWordChar c = true := by
  induction n using Nat.base_induction 16 (by decide) with
  | single m hm =>
    rw [Nat.toDigits_of_lt_base hm]
    simpa using isWordChar_digitChar ⟨m, hm⟩
  | digit m k hk hm ih =>
    rw [← Nat.toDigits_append_toDigits (by decide) hm hk, Nat.toDigits_of_lt_base hk]
    intro c hc
    rcases List.mem_append.1 hc with hc | hc
    · exact ih c hc
    · rw [List.mem_singleton.1 hc]
      exact isWordChar_digitChar ⟨k, hk⟩

theorem toList_literal (bytes : Bytes) :
    (literal bytes).toList = '0' :: 'x' :: (encode bytes).toList := by
  simp [literal]

theorem toList_quantity (n : Nat) : (quantity n).toList = '0' :: 'x' :: Nat.toDigits 16 n := by
  simp [quantity]

/-- The operand is a number that is written with a single digit. -/
def IsSingleDigit : Operand → Prop
  | .int value => value.toNat < 16
  | _ => False

section
variable {operand : Operand} (h : operand.IsListable)
include h

theorem isWord_operand : IsWord operand.text.toList := by
  cases operand with
  | bytes content =>
    rw [Operand.text, toList_literal]
    exact isWord_hex (isWordChar_encode content)
  | int value =>
    rw [Operand.text, toList_quantity]
    exact isWord_hex (isWordChar_toDigits value.toNat)
  | label target => exact isWord_label h

/-- The operand of a push is read back, unless it is written with a single digit. -/
theorem parseTerm_text (hs : ¬ IsSingleDigit operand) :
    parseTerm operand.text.toList = .ok (.literal operand.reread) := by
  cases operand with
  | bytes content =>
    obtain ⟨hlow, hhigh⟩ := h
    have hdigits := writes_digitBytes content
    rw [← textBytes_encode] at hdigits
    have hl : (textBytes (encode content).toList).length = 2 * content.length := by
      rw [textBytes_encode, length_digitBytes]
    rw [Operand.text, toList_literal, parseTerm, parseLiteral, hexDigits?]
    · dsimp only
      rw [parseHex_of_writes hdigits (by omega) (by omega)]
      rfl
    · exact nofun
  | int value =>
    obtain ⟨hdigits, hl⟩ := writes_toDigits value.toNat
    have hhigh : (Nat.toDigits 16 value.toNat).length ≤ 64 :=
      (Nat.length_toDigits_le_iff (by decide) (by decide)).2 value.isLt
    have hlow : ¬ (Nat.toDigits 16 value.toNat).length ≤ 1 :=
      mt (Nat.length_toDigits_le_iff (by decide) (by decide)).1 hs
    rw [Operand.text, toList_quantity, parseTerm, parseLiteral, hexDigits?]
    · dsimp only
      rw [parseHex_of_writes hdigits (by omega) (by omega), BitVec.ofNat_toNat, BitVec.setWidth_eq]
      rfl
    · exact nofun
  | label target =>
    have htext : ∃ rest, target.text.toList = ':' :: rest := by
      cases target <;> exact ⟨_, by simp [Label.text]; rfl⟩
    have hlabel := Label.ofChars?_text h
    obtain ⟨rest, hrest⟩ := htext
    rw [Operand.text]
    rw [hrest] at hlabel ⊢
    simp [parseTerm, parseLiteral, hexDigits?, hlabel, Except.map]
    rfl

end

/-- A number that is written with a single digit is refused. -/
theorem parseTerm_singleDigit {operand : Operand} (hs : IsSingleDigit operand) :
    parseTerm operand.text.toList = .error (.hexLength operand.text) := by
  cases operand with
  | bytes content => exact hs.elim
  | label target => exact hs.elim
  | int value =>
    have hl := (writes_toDigits value.toNat).2
    have hone : (Nat.toDigits 16 value.toNat).length ≤ 1 :=
      (Nat.length_toDigits_le_iff (by decide) (by decide)).2 hs
    have hhex : parseHex (Operand.int value).text.toList (Nat.toDigits 16 value.toNat) =
        .error (.hexLength (Operand.int value).text) := by
      rw [parseHex, if_pos (.inl (by omega)), String.ofList_toList]
    rw [Operand.text, toList_quantity] at hhex
    rw [Operand.text, toList_quantity, parseTerm, parseLiteral, hexDigits?]
    · dsimp only
      rw [hhex]
      rfl
    · intro rest h
      exact absurd (List.cons.inj h).1 (by decide)

end Line

/-! ## Instructions -/

open Line

/-- The words that an opcode and its operand are written with; raw bytes take the place of an
undefined byte. -/
def wordsOf (opcode : Opcode) (operand : Option Operand) : List (List Char) :=
  match opcode with
  | .undefined byte => ["DATA".toList, (Hex.literal [byte]).toList]
  | opcode => opcode.text.toList :: (operand.map fun operand => operand.text.toList).toList

/-- The words of an opcode that has a name. -/
theorem wordsOf_named {opcode : Opcode} {name : String} (h : opcode.mnemonic = some name)
    (operand : Option Operand) : wordsOf opcode operand =
      name.toList :: (operand.map fun operand => operand.text.toList).toList := by
  unfold wordsOf
  split
  · cases h
  · rw [Opcode.text_eq h]

theorem toList_instructionText (inst : Instruction) :
    (instructionText inst).toList = [' '].intercalate (wordsOf inst.opcode inst.operand) := by
  obtain ⟨opcode, operand, label, source, offset, own⟩ := inst
  unfold instructionText wordsOf
  dsimp only
  split
  · simp
  · unfold Instruction.text
    cases operand <;> simp

section
variable {opcode : Opcode} {operand : Option Operand}

theorem isWord_literal (bytes : Bytes) : IsWord (literal bytes).toList := by
  rw [toList_literal]
  exact isWord_hex (isWordChar_encode bytes)

theorem data_mem_named : Opcode.data ∈ Opcode.named := Opcode.mem_named nofun

/-- **Listings write listable instructions in words.** -/
theorem isWord_of_listable (h : Listable opcode operand) :
    ∀ word ∈ wordsOf opcode operand, IsWord word := by
  have hdata : IsWord "DATA".toList := isWord_mnemonic data_mem_named rfl
  cases h with
  | @undefined byte hw => simpa [wordsOf] using ⟨hdata, isWord_literal [byte]⟩
  | data content =>
    rw [wordsOf_named rfl]
    simpa using ⟨hdata, isWord_literal content⟩
  | plain hop hd hw =>
    obtain ⟨name, hn⟩ := Opcode.exists_mnemonic hop
    rw [wordsOf_named hn]
    simpa using isWord_mnemonic hop hn
  | push hop hw ho =>
    obtain ⟨name, hn⟩ := Opcode.exists_mnemonic hop
    rw [wordsOf_named hn]
    simpa using ⟨isWord_mnemonic hop hn, isWord_operand ho⟩

/-- Raw bytes are read back. -/
theorem ofWords_data (bytes : Bytes) : ofWords ["DATA".toList, (literal bytes).toList] =
    .ok (.instruction .data (some (.literal (.bytes bytes)))) := by
  rw [ofWords_mnemonic data_mem_named rfl, parseOperands, if_pos rfl, toList_literal, parseData,
    decode_encode]
  rfl

/-- A push is read by its operand. -/
theorem ofWords_push {name : String} (hop : opcode ∈ Opcode.named) (hw : opcode.width ≠ 0)
    (hn : opcode.mnemonic = some name) (text : List Char) :
    ofWords [name.toList, text] =
      (parseTerm text).map fun term => .instruction opcode (some term) := by
  have hd : opcode ≠ .data := by
    rintro rfl
    exact hw rfl
  have hpush : opcode.isPush = true := decide_eq_true (Nat.pos_of_ne_zero hw)
  rw [ofWords_mnemonic hop hn, parseOperands, if_neg hd, if_pos hpush]

end

/-- The line that an instruction is read back from. -/
def lineOf (inst : Instruction) : Line :=
  .instruction (inst.reread default).opcode ((inst.reread default).operand.map .literal)

section
variable {inst : Instruction}

/-- **The line of a listable instruction is read back**, unless it pushes a number that is written
with a single digit. -/
theorem parse_instructionText (h : Listable inst.opcode inst.operand)
    (hs : ∀ operand ∈ inst.operand, ¬ IsSingleDigit operand) :
    parse (instructionText inst).toList = .ok (lineOf inst) := by
  rw [toList_instructionText, parse_intercalate (isWord_of_listable h)]
  obtain ⟨opcode, operand, label, source, offset, own⟩ := inst
  cases h with
  | @undefined byte hw => exact ofWords_data [byte]
  | data content => exact ofWords_data content
  | plain hop hd hw =>
    obtain ⟨name, hn⟩ := Opcode.exists_mnemonic hop
    have hpush : ¬ opcode.isPush = true := by simp [Opcode.isPush, hw]
    rw [wordsOf_named hn, lineOf, Instruction.reread_of_named hop hd]
    simp [ofWords_mnemonic hop hn, parseOperands, hd, hpush]
  | @push _ operand hop hw ho =>
    obtain ⟨name, hn⟩ := Opcode.exists_mnemonic hop
    have hd : opcode ≠ .data := by
      rintro rfl
      exact hw rfl
    rw [wordsOf_named hn, lineOf, Instruction.reread_of_named hop hd]
    simp only [Option.map_some, Option.toList_some]
    rw [ofWords_push hop hw hn, parseTerm_text ho (hs operand rfl)]
    rfl

/-- A push of a number that is written with a single digit is refused. -/
theorem parse_singleDigit (h : Listable inst.opcode inst.operand) {operand : Operand}
    (ho : inst.operand = some operand) (hs : IsSingleDigit operand) :
    parse (instructionText inst).toList = .error (.hexLength operand.text) := by
  rw [toList_instructionText, parse_intercalate (isWord_of_listable h)]
  obtain ⟨opcode, _, label, source, offset, own⟩ := inst
  subst ho
  cases h with
  | data content => exact hs.elim
  | push hop hw _ =>
    obtain ⟨name, hn⟩ := Opcode.exists_mnemonic hop
    rw [wordsOf_named hn]
    simp only [Option.map_some, Option.toList_some]
    rw [ofWords_push hop hw hn, parseTerm_singleDigit hs]
    rfl

end

/-! ## Listings -/

/-- The line of a label is read back. -/
theorem parse_label {target : Label} (h : Label.isName target.name.toList = true) :
    parse target.text.toList = .ok (.label target) := by
  have hword : ∀ word ∈ [target.text.toList], IsWord word := by simpa using isWord_label h
  have hcolon : target.text.toList.head? = some ':' := by cases target <;> simp [Label.text]
  have hparse := parse_intercalate hword
  rw [List.intercalate_singleton] at hparse
  rw [hparse, ofWords, if_pos hcolon, Label.ofChars?_text h]
  rfl

/-- What is read of the lines of an instruction. -/
def readLines (inst : Instruction) : List (Except Line.Error Line) :=
  (linesOf inst).map fun line => parse line.toList

section
variable {inst : Instruction} {code : List Instruction} {env : Environment} {scope : Scope}

/-- The lines of an instruction are lines. -/
theorem not_mem_linesOf (h : inst.IsListable) :
    ∀ line ∈ (linesOf inst).map String.toList, '\n' ∉ line := by
  have htext : '\n' ∉ (instructionText inst).toList := by
    rw [toList_instructionText]
    exact not_mem_intercalate (isWord_of_listable h.operand)
  unfold linesOf
  split
  · next target hl =>
    have hword := isWord_label (h.label target hl)
    have hlabel : '\n' ∉ target.text.toList := fun hm =>
      ne_lineFeed_of_isWordChar (hword.2 '\n' hm) rfl
    simpa using ⟨hlabel, htext⟩
  · simpa using htext

/-- **The lines of a listing are those of its instructions.** -/
theorem lines_render (hne : code ≠ []) (h : ∀ inst ∈ code, inst.IsListable) :
    (Text.lines (render code).toList).map parse = code.flatMap readLines := by
  have hlines : (code.flatMap linesOf).map String.toList ≠ [] := by
    obtain ⟨inst, rest, rfl⟩ := List.exists_cons_of_ne_nil hne
    unfold linesOf
    cases hl : inst.label <;> simp [hl]
  have hfeed : ∀ line ∈ (code.flatMap linesOf).map String.toList, '\n' ∉ line := by
    intro line hm
    rw [List.map_flatMap] at hm
    obtain ⟨inst, hi, hm⟩ := List.mem_flatMap.1 hm
    exact not_mem_linesOf (h inst hi) line hm
  have hsep : "\n".toList = ['\n'] := rfl
  rw [render, String.toList_intercalate, hsep, Text.lines_intercalate hlines hfeed, List.map_map,
    List.map_flatMap]
  rfl

theorem reread_eq (scope : Scope) (inst : Instruction) : inst.reread scope =
    { opcode := (inst.reread default).opcode, operand := (inst.reread default).operand
      label := inst.label, scope := some scope } := by
  unfold Instruction.reread
  cases inst.opcode <;> rfl

theorem resolveTerm_literal (env : Environment) (operand : Option Operand) :
    resolveTerm env (operand.map .literal) = .ok operand := by
  cases operand <;> rfl

/-- The lines of an instruction are assembled as what it is read back as. -/
theorem assembleFrom_readLines (h : inst.IsListable)
    (hs : ∀ operand ∈ inst.operand, ¬ IsSingleDigit operand) (number : Nat)
    (rest : List (Except Line.Error Line)) :
    assembleFrom env scope number none (readLines inst ++ rest) =
      (assembleFrom env scope (number + (linesOf inst).length) none rest).map
        (inst.reread scope :: ·) := by
  have hparse := parse_instructionText h.operand hs
  rw [reread_eq]
  unfold readLines linesOf
  split
  · next target hl =>
    have hlabel := parse_label (h.label target hl)
    simp only [List.map_cons, List.map_nil, hlabel, hparse, List.cons_append, List.nil_append]
    simp [assembleFrom, lineOf, resolveTerm_literal, hl]
  · next hl =>
    simp only [List.map_cons, List.map_nil, hparse, List.cons_append, List.nil_append]
    simp [assembleFrom, lineOf, resolveTerm_literal, hl]

theorem assembleFrom_flatMap (h : ∀ inst ∈ code, inst.IsListable)
    (hs : ∀ inst ∈ code, ∀ operand ∈ inst.operand, ¬ IsSingleDigit operand) (number : Nat) :
    assembleFrom env scope number none (code.flatMap readLines) =
      .ok (code.map (Instruction.reread scope)) := by
  induction code generalizing number with
  | nil => rfl
  | cons inst code ih =>
    rw [List.flatMap_cons, assembleFrom_readLines (h inst (by simp)) (hs inst (by simp)),
      ih (fun i hi => h i (by simp [hi])) (fun i hi => hs i (by simp [hi]))]
    rfl

/-- **A listing is assembled as what its instructions are read back as**, if none of them pushes a
number that is written with a single digit. -/
theorem assemble_render (h : ∀ inst ∈ code, inst.IsListable)
    (hs : ∀ inst ∈ code, ∀ operand ∈ inst.operand, ¬ IsSingleDigit operand) :
    assemble env scope (render code) = .ok (code.map (Instruction.reread scope)) := by
  rcases eq_or_ne code [] with rfl | hne
  · rfl
  · rw [assemble, assembleLines, lines_render hne h]
    exact assembleFrom_flatMap h hs 1

end

end EvmProbe.Listing
