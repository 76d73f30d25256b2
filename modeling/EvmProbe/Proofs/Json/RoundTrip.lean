import EvmProbe.Json.Reader
import Mathlib.Tactic.Common

/-!
JSON texts that are read back.

The text of a value is cut into the tokens of the value, and these are put together as the value.
Both go by induction on the value, with any text and any tokens behind.

* `cuts_compact`: what the text of a value is cut into.
* `build?_tokensOf`: what the tokens of a value are put together as.
* `parse?_compact`: a value that fits is read back from its text.
-/

namespace EvmProbe.Json

/-! ## Values that fit -/

/-- Whether a number is written as digits alone. -/
def isNumeral : List Char → Bool
  | [] | '0' :: _ :: _ => false
  | cs => cs.all Char.isDigit

mutual

/-- Whether a value can be read back where `depth` arrays and objects are open. -/
def fits (depth : Nat) : Json → Bool
  | .null | .bool _ | .string _ => true
  | .number literal => isNumeral literal.toList
  | .array items => depth < maxDepth && itemsFit (depth + 1) items
  | .object fields => depth < maxDepth && fieldsFit (depth + 1) fields
  | .unreadable => false

/-- Whether all of the items can be read back. -/
def itemsFit (depth : Nat) : List Json → Bool
  | [] => true
  | item :: rest => fits depth item && itemsFit depth rest

/-- Whether the values of all fields can be read back. -/
def fieldsFit (depth : Nat) : List (String × Json) → Bool
  | [] => true
  | (_, value) :: rest => fits depth value && fieldsFit depth rest

end

mutual

/-- The tokens of a value. -/
def tokensOf : Json → List Token
  | .null | .unreadable => [.literal .null]
  | .bool b => [.literal (.bool b)]
  | .number literal => [.literal (.number literal)]
  | .string s => [.text (some s)]
  | .array items => .beginArray :: (tokensOfItems items ++ [.endArray])
  | .object fields => .beginObject :: (tokensOfFields fields ++ [.endObject])

/-- The tokens of items, with commas between them. -/
def tokensOfItems : List Json → List Token
  | [] => []
  | [item] => tokensOf item
  | item :: rest => tokensOf item ++ .comma :: tokensOfItems rest

/-- The tokens of fields, with commas between them. -/
def tokensOfFields : List (String × Json) → List Token
  | [] => []
  | [(name, value)] => .text (some name) :: .colon :: tokensOf value
  | (name, value) :: rest =>
    .text (some name) :: .colon :: (tokensOf value ++ .comma :: tokensOfFields rest)

end

/-! ## Texts between quotes -/

/-- How a character is written: as a letter behind a backslash, as its number, or as itself. -/
theorem escape_cases (c : Char) :
    (∃ letter, escape c = ['\\', letter] ∧ letter ≠ 'u' ∧ unescape? letter = some c) ∨
    (c.toNat < 0x20 ∧ escape c = '\\' :: 'u' :: fourDigits c.toNat) ∨
    (escape c = [c] ∧ c ≠ '"' ∧ c ≠ '\\' ∧ 0x20 ≤ c.toNat) := by
  have hletter (letter : Char) {n : Nat} (hn : c.toNat = n) (hu : letter ≠ 'u')
      (hl : unescape? letter = some (Char.ofNat n)) :
      letter ≠ 'u' ∧ unescape? letter = some c := by
    rw [hl, ← hn, Char.ofNat_toNat]
    exact ⟨hu, rfl⟩
  unfold escape
  split
  · next h =>
    subst h
    exact .inl ⟨_, rfl, by decide, rfl⟩
  split
  · next h =>
    subst h
    exact .inl ⟨_, rfl, by decide, rfl⟩
  split
  · next h => exact .inl ⟨_, rfl, hletter 'b' h (by decide) rfl⟩
  split
  · next h => exact .inl ⟨_, rfl, hletter 't' h (by decide) rfl⟩
  split
  · next h => exact .inl ⟨_, rfl, hletter 'n' h (by decide) rfl⟩
  split
  · next h => exact .inl ⟨_, rfl, hletter 'f' h (by decide) rfl⟩
  split
  · next h => exact .inl ⟨_, rfl, hletter 'r' h (by decide) rfl⟩
  split
  · next h => exact .inr (.inl ⟨h, rfl⟩)
  · next hquote hslash _ _ _ _ _ hlow =>
    exact .inr (.inr ⟨rfl, hquote, hslash, Nat.le_of_not_lt hlow⟩)

/-- The number of a control character is read back. -/
theorem unit?_fourDigits {n : Nat} (h : n < 0x20) : ∃ a b c d,
    fourDigits n = [a, b, c, d] ∧ unit? a b c d = some n := by
  have hall : ∀ n : Fin 0x20, unit? (Hex.digit (n / 4096 % 16)) (Hex.digit (n / 256 % 16))
      (Hex.digit (n / 16 % 16)) (Hex.digit (n % 16)) = some n.val := by decide
  exact ⟨_, _, _, _, rfl, hall ⟨n, h⟩⟩

/-- **A character is read back** as its code point. -/
theorem units?_escape (c : Char) (rest : List Char) : units? (escape c ++ rest) =
    (units? rest).bind fun (units, rest) => some (c.toNat :: units, rest) := by
  rcases escape_cases c with ⟨letter, he, hu, hletter⟩ | ⟨hlow, he⟩ | ⟨he, hquote, hslash, hlow⟩
  · rw [he, List.cons_append, List.cons_append, List.nil_append, units?.eq_def]
    split
    · next h => cases h
    · next h =>
      simp only [List.cons.injEq] at h
      exact absurd h.2.1 hu
    · next h =>
      simp only [List.cons.injEq, true_and] at h
      obtain ⟨rfl, rfl⟩ := h
      rw [hletter]
      rfl
    · next hnot h =>
      cases h
      exact absurd rfl (hnot _ _ rfl)
    · next h => cases h
  · obtain ⟨_, _, _, _, hdigits, hunit⟩ := unit?_fourDigits hlow
    rw [he, hdigits]
    simp only [List.cons_append, List.nil_append, units?, hunit]
    rfl
  · rw [he, List.singleton_append, units?.eq_def]
    split
    · next h => cases h; exact absurd rfl hquote
    · next h => cases h; exact absurd rfl hslash
    · next h => cases h; exact absurd rfl hslash
    · next h =>
      cases h
      rw [if_neg (by simp [hslash]; omega)]
      rfl
    · next h => cases h

/-- Code points of characters stand for these. -/
theorem characters?_map_toNat (cs : List Char) : characters? (cs.map Char.toNat) = some cs := by
  induction cs with
  | nil => rfl
  | cons c cs ih =>
    have hvalid : c.toNat < 0xd800 ∨ 0xe000 ≤ c.toNat := by
      have := c.valid
      simp only [UInt32.isValidChar, Nat.isValidChar] at this
      have : c.toNat = c.val.toNat := rfl
      omega
    rw [List.map_cons, characters?.eq_def]
    simp only [if_pos hvalid, ih, Option.map_some, Char.ofNat_toNat]

/-- **A text is read back** up to the quote that closes it. -/
theorem units?_text (cs rest : List Char) :
    units? (cs.flatMap escape ++ '"' :: rest) = some (cs.map Char.toNat, rest) := by
  induction cs with
  | nil => rfl
  | cons c cs ih =>
    rw [List.flatMap_cons, List.append_assoc, units?_escape, ih]
    rfl

/-! ## Numbers -/

/-- What may follow a value: nothing, or what goes on with or ends an array or an object. -/
def Follows (rest : List Char) : Prop := ∀ c ∈ rest.head?, c ∈ [',', ']', '\x7d']

theorem follows_nil : Follows [] := fun _ h => by cases h

theorem follows_cons {c : Char} (h : c ∈ [',', ']', '\x7d']) (rest : List Char) :
    Follows (c :: rest) := fun _ hc => by cases hc; exact h

/-- What follows a value goes on with no number. -/
theorem Follows.head_not {c : Char} {rest : List Char} (hr : Follows (c :: rest)) {p : Char → Bool}
    (hcomma : p ',' = false) (hbracket : p ']' = false) (hbrace : p '\x7d' = false) :
    p c = false := by
  have hc := hr c rfl
  simp only [List.mem_cons, List.not_mem_nil, or_false] at hc
  rcases hc with rfl | rfl | rfl <;> assumption

theorem fraction?_of_follows {rest : List Char} (hr : Follows rest) :
    fraction? rest = some ([], rest) := by
  rw [fraction?.eq_def]
  split
  · exact absurd (hr.head_not (p := (· = '.')) rfl rfl rfl) (by decide)
  · rfl

theorem exponent?_of_follows {rest : List Char} (hr : Follows rest) :
    exponent? rest = some ([], rest) := by
  cases rest with
  | nil => rfl
  | cons c rest =>
    have hc := hr.head_not (p := fun c => c = 'e' || c = 'E') rfl rfl rfl
    simp only [Bool.or_eq_false_iff, decide_eq_false_iff_not] at hc
    simp [exponent?, hc]

/-- **A number is read back** in front of what follows. -/
theorem token?_numeral {cs rest : List Char} (h : isNumeral cs) (hr : Follows rest) :
    token? (cs ++ rest) = some (.literal (.number (String.ofList cs)), rest) := by
  have hrest : rest.takeWhile Char.isDigit = [] ∧ rest.dropWhile Char.isDigit = rest := by
    cases rest with
    | nil => exact ⟨rfl, rfl⟩
    | cons c rest =>
      have hc : c.isDigit = false := hr.head_not rfl rfl rfl
      simp [hc]
  rw [isNumeral.eq_def] at h
  split at h
  · cases h
  · cases h
  · next hne hzero =>
    rw [List.all_eq_true] at h
    have hdigits : digits (cs ++ rest) = (cs, rest) := by
      rw [digits, List.takeWhile_append_of_pos h, List.dropWhile_append_of_pos h, hrest.1, hrest.2,
        List.append_nil]
    have hwhole : wholePart? (cs ++ rest) = some (cs, rest) := by
      rw [wholePart?, hdigits]
      split
      · next heq => cases heq; exact (hne rfl).elim
      · next heq => cases heq; exact (hzero _ _ rfl).elim
      · next heq => cases heq; rfl
    obtain ⟨d, ds, rfl⟩ := List.exists_cons_of_ne_nil hne
    have hd : d.isDigit := h d List.mem_cons_self
    have hnumber : number? (d :: ds ++ rest) = some (d :: ds, rest) := by
      have hsign : d ≠ '-' := fun he => by
        subst he
        cases hd
      rw [List.cons_append] at hwhole
      simp [number?, hwhole, hsign, fraction?_of_follows hr, exponent?_of_follows hr]
    -- no other token starts with a digit
    rw [token?.eq_def]
    split
    case h_11 => rw [hnumber]; rfl
    all_goals
      next heq =>
        obtain rfl := (List.cons.inj heq).1
        cases hd

/-! ## Texts of values -/

/-- The tokens that a text is cut into. -/
def Cuts (cs : List Char) (tokens : List Token) : Prop :=
  ∀ fuel, cs.length ≤ fuel → tokensFrom fuel cs = some tokens

theorem cuts_nil : Cuts [] [] := fun fuel _ => by cases fuel <;> rfl

/-- One more token in front. -/
theorem Cuts.cons {rest : List Char} {token : Token} {tokens : List Token}
    (h : Cuts rest tokens) (c : Char) (cs : List Char) (hb : isBlank c = false)
    (ht : token? (c :: cs ++ rest) = some (token, rest)) :
    Cuts (c :: cs ++ rest) (token :: tokens) := by
  intro fuel hfuel
  cases fuel with
  | zero => cases hfuel
  | succ fuel =>
    have hlength : rest.length ≤ fuel := by
      simp only [List.cons_append, List.length_cons, List.length_append] at hfuel
      omega
    have hdrop : (c :: cs ++ rest).dropWhile isBlank = c :: cs ++ rest := by
      rw [List.cons_append, List.dropWhile_cons, hb]
      rfl
    rw [tokensFrom.eq_def, hdrop]
    simp only [List.cons_append] at ht ⊢
    rw [ht]
    simp only [Option.bind_eq_bind, Option.bind_some, h fuel hlength, Option.pure_def]

/-- A text between quotes in front. -/
theorem Cuts.quoted {rest : List Char} {tokens : List Token} (h : Cuts rest tokens) (s : String) :
    Cuts ((quoted s).toList ++ rest) (.text (some s) :: tokens) := by
  have hsplit : (Json.quoted s).toList ++ rest =
      '"' :: (s.toList.flatMap escape ++ ['"']) ++ rest := by
    simp [Json.quoted]
  have ht : token? ('"' :: (s.toList.flatMap escape ++ ['"']) ++ rest) =
      some (.text (some s), rest) := by
    rw [List.cons_append, List.append_assoc, token?, List.singleton_append, units?_text]
    simp [characters?_map_toNat]
  rw [hsplit]
  exact h.cons _ _ (by decide) ht

/-- A number in front. -/
theorem Cuts.numeral {rest : List Char} {tokens : List Token} (h : Cuts rest tokens)
    (hr : Follows rest) {literal : String} (hl : isNumeral literal.toList) :
    Cuts (literal.toList ++ rest) (.literal (.number literal) :: tokens) := by
  have ht := token?_numeral hl hr
  rw [String.ofList_toList] at ht
  generalize literal.toList = cs at hl ht
  obtain ⟨d, ds, rfl, hd⟩ : ∃ d ds, cs = d :: ds ∧ d.isDigit := by
    rw [isNumeral.eq_def] at hl
    split at hl
    · cases hl
    · cases hl
    · next hne _ =>
      obtain ⟨d, ds, rfl⟩ := List.exists_cons_of_ne_nil hne
      exact ⟨d, ds, rfl, List.all_eq_true.1 hl d List.mem_cons_self⟩
  refine h.cons _ _ (Bool.eq_false_iff.2 fun hb => ?_) ht
  simp only [isBlank, Bool.or_eq_true, decide_eq_true_eq] at hb
  rcases hb with ((rfl | rfl) | rfl) | rfl <;> cases hd

mutual

/-- **The text of a value is cut into its tokens.** -/
theorem cuts_compact {depth : Nat} {rest : List Char} {tokens : List Token}
    (h : Cuts rest tokens) (hr : Follows rest) : (j : Json) → fits depth j →
    Cuts ((compact j).toList ++ rest) (tokensOf j ++ tokens)
  | .null, _ => h.cons 'n' ['u', 'l', 'l'] (by decide) rfl
  | .bool true, _ => h.cons 't' ['r', 'u', 'e'] (by decide) rfl
  | .bool false, _ => h.cons 'f' ['a', 'l', 's', 'e'] (by decide) rfl
  | .number literal, hj => h.numeral hr hj
  | .string s, _ => h.quoted s
  | .array items, hj => by
    have hend := h.cons ']' [] (by decide) rfl
    have hitems := cuts_compactItems hend (follows_cons (by decide) _) items
      (Bool.and_eq_true_iff.1 hj).2
    have hbegin := hitems.cons '[' [] (by decide) rfl
    simpa [compact, tokensOf] using hbegin
  | .object fields, hj => by
    have hend := h.cons '\x7d' [] (by decide) rfl
    have hfields := cuts_compactFields hend (follows_cons (by decide) _) fields
      (Bool.and_eq_true_iff.1 hj).2
    have hbegin := hfields.cons '\x7b' [] (by decide) rfl
    simpa [compact, tokensOf, braces] using hbegin

/-- The texts of items are cut into their tokens. -/
theorem cuts_compactItems {depth : Nat} {rest : List Char} {tokens : List Token}
    (h : Cuts rest tokens) (hr : Follows rest) : (items : List Json) → itemsFit depth items →
    Cuts ((compactItems items).toList ++ rest) (tokensOfItems items ++ tokens)
  | [], _ => h
  | [item], hj => cuts_compact h hr item (Bool.and_eq_true_iff.1 hj).1
  | item :: other :: items, hj => by
    obtain ⟨hitem, hothers⟩ := Bool.and_eq_true_iff.1 hj
    have hrest := cuts_compactItems h hr (other :: items) hothers
    have hcomma := hrest.cons ',' [] (by decide) rfl
    have hfirst := cuts_compact hcomma (follows_cons (by decide) _) item hitem
    simpa [compactItems, tokensOfItems] using hfirst

/-- The texts of fields are cut into their tokens. -/
theorem cuts_compactFields {depth : Nat} {rest : List Char} {tokens : List Token}
    (h : Cuts rest tokens) (hr : Follows rest) : (fields : List (String × Json)) →
    fieldsFit depth fields →
    Cuts ((compactFields fields).toList ++ rest) (tokensOfFields fields ++ tokens)
  | [], _ => h
  | [(name, value)], hj => by
    have hvalue := cuts_compact h hr value (Bool.and_eq_true_iff.1 hj).1
    have hcolon := hvalue.cons ':' [] (by decide) rfl
    simpa [compactFields, tokensOfFields] using hcolon.quoted name
  | (name, value) :: field :: fields, hj => by
    obtain ⟨hvalue, hothers⟩ := Bool.and_eq_true_iff.1 hj
    have hrest := cuts_compactFields h hr (field :: fields) hothers
    have hcomma := hrest.cons ',' [] (by decide) rfl
    have hfirst := cuts_compact hcomma (follows_cons (by decide) _) value hvalue
    have hcolon := hfirst.cons ':' [] (by decide) rfl
    simpa [compactFields, tokensOfFields] using hcolon.quoted name

end

/-! ## Tokens of values -/

/-- The first item opens an array, and then is an item like any other. -/
theorem build?_first (depth : Nat) (frames : List Frame) {items : List Json} (hne : items ≠ [])
    (rest : List Token) :
    build? depth .itemOrEnd frames (tokensOfItems items ++ rest) =
      build? (depth + 1) .value (.array [] :: frames) (tokensOfItems items ++ rest) := by
  have hitem (item : Json) (rest : List Token) :
      build? depth .itemOrEnd frames (tokensOf item ++ rest) =
        build? (depth + 1) .value (.array [] :: frames) (tokensOf item ++ rest) := by
    cases item <;> rfl
  match items, hne with
  | [item], _ => exact hitem item rest
  | item :: other :: items, _ =>
    rw [tokensOfItems, List.append_assoc]
    · exact hitem item _
    · exact List.cons_ne_nil _ _

/-- The first field opens an object, and then is a field like any other. -/
theorem build?_firstName (depth : Nat) (frames : List Frame) {fields : List (String × Json)}
    (hne : fields ≠ []) (rest : List Token) :
    build? depth .nameOrEnd frames (tokensOfFields fields ++ rest) =
      build? depth (.name (some [])) frames (tokensOfFields fields ++ rest) := by
  match fields, hne with
  | [(name, value)], _ => rfl
  | (name, value) :: other :: fields, _ => rfl

mutual

/-- **The tokens of a value are put together as the value.** -/
theorem build?_tokensOf {depth : Nat} (frames : List Frame) (rest : List Token) : (j : Json) →
    fits depth j →
    build? depth .value frames (tokensOf j ++ rest) = build? depth (.behind j) frames rest
  | .null, _ | .bool _, _ | .number _, _ | .string _, _ => rfl
  | .array items, hj => by
    obtain ⟨hdepth, hitems⟩ := Bool.and_eq_true_iff.1 hj
    have hend : ofDepth depth (.array items) = .array items := if_pos (of_decide_eq_true hdepth)
    rw [tokensOf, List.cons_append, List.append_assoc, List.singleton_append, build?]
    by_cases hne : items = []
    · subst hne
      rw [tokensOfItems, List.nil_append, build?, hend]
    · rw [build?_first _ _ hne, build?_tokensOfItems frames rest [] items hne hitems,
        List.reverse_nil, List.nil_append, hend]
  | .object fields, hj => by
    obtain ⟨hdepth, hfields⟩ := Bool.and_eq_true_iff.1 hj
    have hend : ofDepth depth (.object fields) = .object fields := if_pos (of_decide_eq_true hdepth)
    rw [tokensOf, List.cons_append, List.append_assoc, List.singleton_append, build?]
    by_cases hne : fields = []
    · subst hne
      rw [tokensOfFields, List.nil_append, build?, hend]
    · rw [build?_firstName _ _ hne, build?_tokensOfFields frames rest [] fields hne hfields,
        List.reverse_nil, List.nil_append, hend]

/-- The tokens of items are put together behind those that an array holds so far. -/
theorem build?_tokensOfItems {depth : Nat} (frames : List Frame) (rest : List Token)
    (front : List Json) : (items : List Json) → items ≠ [] → itemsFit (depth + 1) items →
    build? (depth + 1) .value (.array front :: frames) (tokensOfItems items ++ .endArray :: rest) =
      build? depth (.behind (ofDepth depth (.array (front.reverse ++ items)))) frames rest
  | [], hne, _ => absurd rfl hne
  | [item], _, hj => by
    obtain ⟨hitem, -⟩ := Bool.and_eq_true_iff.1 hj
    rw [tokensOfItems, build?_tokensOf _ _ item hitem, build?]
    simp
  | item :: other :: items, _, hj => by
    obtain ⟨hitem, hothers⟩ := Bool.and_eq_true_iff.1 hj
    have hrest := build?_tokensOfItems frames rest (item :: front) (other :: items)
      (List.cons_ne_nil _ _) hothers
    rw [tokensOfItems, List.append_assoc, build?_tokensOf _ _ item hitem, List.cons_append, build?,
      hrest]
    · simp
    · exact List.cons_ne_nil _ _

/-- The tokens of fields are put together behind those that an object holds so far. -/
theorem build?_tokensOfFields {depth : Nat} (frames : List Frame) (rest : List Token)
    (front : List (String × Json)) : (fields : List (String × Json)) → fields ≠ [] →
    fieldsFit (depth + 1) fields →
    build? depth (.name (some front)) frames (tokensOfFields fields ++ .endObject :: rest) =
      build? depth (.behind (ofDepth depth (.object (front.reverse ++ fields)))) frames rest
  | [], hne, _ => absurd rfl hne
  | [(name, value)], _, hj => by
    obtain ⟨hvalue, -⟩ := Bool.and_eq_true_iff.1 hj
    rw [tokensOfFields, List.cons_append, List.cons_append, build?, build?,
      build?_tokensOf _ _ value hvalue, build?]
    simp [addField, ofFields]
  | (name, value) :: other :: fields, _, hj => by
    obtain ⟨hvalue, hothers⟩ := Bool.and_eq_true_iff.1 hj
    have hrest := build?_tokensOfFields frames rest ((name, value) :: front) (other :: fields)
      (List.cons_ne_nil _ _) hothers
    rw [tokensOfFields, List.cons_append, List.cons_append, List.append_assoc, build?, build?,
      build?_tokensOf _ _ value hvalue, List.cons_append, build?]
    · simpa [addField] using hrest
    · exact List.cons_ne_nil _ _

end

/-- **A value that fits is read back from its text.** -/
theorem parse?_compact {j : Json} (h : fits 0 j) : parse? (compact j) = some j := by
  have hcuts := cuts_compact cuts_nil follows_nil j h _ (Nat.le_refl _)
  simp only [List.append_nil] at hcuts
  have hbuild := build?_tokensOf [] [] j h
  rw [List.append_nil] at hbuild
  rw [parse?, tokens?, hcuts, Option.bind_some, hbuild]
  rfl

end EvmProbe.Json
