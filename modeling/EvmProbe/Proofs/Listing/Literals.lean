import EvmProbe.Proofs.Text.Digits
import EvmProbe.Text.Numeral

/-!
The numbers and byte strings that literals of a listing spell.

`Spells radix digits n` and `Pairs digits bytes` say it character by character, while literals are
read byte by byte.

* `encodeChar_of_lt`, `exists_encodeChar`: an ASCII character is a single byte, and any other starts
  with a byte that no literal holds.
* `parseDecimal_ok_iff`, `parseHex_ok_iff`: the numbers that decimal and hex literals are read as.
* `decode_ok_iff`: the bytes that a run of hex digits is read as, with or without a marker.
-/

namespace EvmProbe

/-! ## Characters and their bytes -/

namespace Text

/-- Digits of a radix spell a number, the most significant one first. -/
inductive Spells (radix : Nat) : List Char → Nat → Prop
  | nil : Spells radix [] 0
  | concat {digits : List Char} {c : Char} {n value : Nat} (h : Spells radix digits n)
    (hc : digitValue? radix c = some value) : Spells radix (digits ++ [c]) (radix * n + value)

/-- Hex digits spell bytes, two of them each. -/
inductive Pairs : List Char → Bytes → Prop
  | nil : Pairs [] []
  | cons {high low : Char} {h l : Nat} {digits : List Char} {bytes : Bytes}
    (hh : digitValue? 16 high = some h) (hl : digitValue? 16 low = some l)
    (hrest : Pairs digits bytes) : Pairs (high :: low :: digits) (UInt8.ofNat (16 * h + l) :: bytes)

theorem spells_nil_iff {radix n : Nat} : Spells radix [] n ↔ n = 0 := by
  constructor
  · intro h
    generalize hd : ([] : List Char) = digits at h
    cases h with
    | nil => rfl
    | concat h hc => simp at hd
  · rintro rfl
    exact .nil

/-- The last digit counts once, and those in front of it as many times as the radix says. -/
theorem spells_concat_iff {radix n : Nat} {digits : List Char} {c : Char} :
    Spells radix (digits ++ [c]) n ↔ ∃ m value, Spells radix digits m ∧
      digitValue? radix c = some value ∧ n = radix * m + value := by
  constructor
  · intro h
    generalize hd : digits ++ [c] = all at h
    cases h with
    | nil => simp at hd
    | concat h hc =>
      obtain ⟨rfl, rfl⟩ := List.append_singleton_inj.1 hd
      exact ⟨_, _, h, hc, rfl⟩
  · rintro ⟨m, value, h, hc, rfl⟩
    exact .concat h hc

/-- A digit is an ASCII character. -/
theorem lt_of_digitValue? {radix value : Nat} {c : Char} (h : digitValue? radix c = some value) :
    c.toNat < 128 := by
  unfold digitValue? at h
  dsimp only at h
  split_ifs at h <;> omega

theorem digitValue?_lt {radix value : Nat} {c : Char} (h : digitValue? radix c = some value) :
    value < radix := by
  unfold digitValue? at h
  simp only [Option.ite_none_right_eq_some, Option.some.injEq] at h
  exact h.2 ▸ h.1

/-- The decimal digits are the numerals. -/
theorem digitValue?_ten {c : Char} {value : Nat} :
    digitValue? 10 c = some value ↔ c.isDigit = true ∧ value = c.toNat - 48 := by
  have hdigit : c.isDigit = true ↔ 48 ≤ c.toNat ∧ c.toNat ≤ 57 := by
    rw [Char.isDigit, Bool.and_eq_true, decide_eq_true_eq, decide_eq_true_eq]
    exact Iff.rfl
  rw [hdigit]
  unfold digitValue?
  dsimp only
  split_ifs <;> simp <;> omega

/-- A number is below the power of the radix that has as many zeros as there are digits. -/
theorem lt_of_spells {radix n : Nat} {digits : List Char} (h : Spells radix digits n) :
    n < radix.pow digits.length := by
  induction h with
  | nil => exact Nat.one_pos
  | @concat digits c n value h hc ih =>
    have hvalue := digitValue?_lt hc
    have hlast : radix * n + value < radix * (n + 1) := by
      rw [Nat.mul_add, Nat.mul_one]
      omega
    have hpower : radix * radix.pow digits.length = radix.pow (digits ++ [c]).length := by
      rw [List.length_append, List.length_singleton, Nat.mul_comm]
      rfl
    exact hpower ▸ Nat.lt_of_lt_of_le hlast (Nat.mul_le_mul_left _ ih)

/-- Every digit that spells a number is one of the radix. -/
theorem exists_of_mem_spells {radix n : Nat} {digits : List Char} (h : Spells radix digits n) :
    ∀ c ∈ digits, ∃ value, digitValue? radix c = some value := by
  induction h with
  | nil => simp
  | concat h hc ih =>
    intro c hm
    rcases List.mem_append.1 hm with hm | hm
    · exact ih c hm
    · rw [List.mem_singleton.1 hm]
      exact ⟨_, hc⟩

end Text

namespace Hex

/-- An ASCII character is a single byte. -/
theorem encodeChar_of_lt {c : Char} (h : c.toNat < 128) :
    String.utf8EncodeChar c = [UInt8.ofNat c.toNat] := by
  have hle : c.val.toNat ≤ 0x7f := Nat.le_of_lt_succ h
  rw [String.utf8EncodeChar, if_pos hle]
  rfl

/-- Any other character starts with a byte that is no ASCII character. -/
theorem exists_encodeChar {c : Char} (h : 128 ≤ c.toNat) :
    ∃ byte rest, String.utf8EncodeChar c = byte :: rest ∧ 128 ≤ byte.toNat := by
  have hle : ¬ c.val.toNat ≤ 0x7f := Nat.not_le_of_lt h
  rw [String.utf8EncodeChar, if_neg hle]
  split_ifs
  · exact ⟨_, _, rfl, by simp; omega⟩
  · exact ⟨_, _, rfl, by simp; omega⟩
  · exact ⟨_, _, rfl, by simp; omega⟩

theorem toNat_ofNat {n : Nat} (h : n < 128) : (UInt8.ofNat n).toNat = n := by
  rw [UInt8.toNat_ofNat']
  omega

/-- A byte beyond ASCII is no digit. -/
theorem value?_of_le {byte : UInt8} (h : 128 ≤ byte.toNat) : value? byte = none := by
  unfold value?
  dsimp only
  rw [if_neg (by omega), if_neg (by omega), if_neg (by omega)]

/-- The byte of an ASCII character has the value of the character. -/
theorem value?_ofNat {c : Char} (h : c.toNat < 128) :
    value? (UInt8.ofNat c.toNat) = Text.digitValue? 16 c := by
  unfold value? Text.digitValue?
  rw [toNat_ofNat h]
  dsimp only
  split_ifs <;> first | rfl | omega

theorem textBytes_nil : textBytes [] = [] := rfl

theorem textBytes_cons (c : Char) (rest : List Char) :
    textBytes (c :: rest) = String.utf8EncodeChar c ++ textBytes rest := List.flatMap_cons

theorem textBytes_append (a b : List Char) : textBytes (a ++ b) = textBytes a ++ textBytes b :=
  List.flatMap_append

/-! ## Runs of digits -/

open Text

/-- The first byte of a character has the value of the character, and a digit has no other byte. -/
theorem exists_first_byte (c : Char) : ∃ byte rest, String.utf8EncodeChar c = byte :: rest ∧
    value? byte = digitValue? 16 c ∧ ∀ value, digitValue? 16 c = some value → rest = [] := by
  by_cases hc : c.toNat < 128
  · exact ⟨_, _, encodeChar_of_lt hc, value?_ofNat hc, fun _ _ => rfl⟩
  · obtain ⟨byte, rest, he, hb⟩ := exists_encodeChar (Nat.le_of_not_lt hc)
    have hnone : digitValue? 16 c = none :=
      Option.eq_none_iff_forall_ne_some.2 fun _ hd => hc (lt_of_digitValue? hd)
    exact ⟨byte, rest, he, by rw [value?_of_le hb, hnone], by simp [hnone]⟩

/-- Two bytes are read at a time, if both are digits. -/
theorem decodePairs_cons_ok_iff {index : Nat} {first : UInt8} {rest bytes : Bytes} :
    decodePairs index (first :: rest) = .ok bytes ↔ ∃ second behind high low decoded,
      rest = second :: behind ∧ value? first = some high ∧ value? second = some low ∧
        decodePairs (index + 2) behind = .ok decoded ∧
          bytes = UInt8.ofNat (16 * high + low) :: decoded := by
  cases rest with
  | nil => simp [decodePairs]
  | cons second behind =>
    rw [decodePairs]
    cases value? first with
    | none => simp
    | some high =>
      cases hl : value? second with
      | none => simp [hl]
      | some low =>
        cases hd : decodePairs (index + 2) behind <;> simp [hl, hd, Except.map, eq_comm]

/-- **Bytes are read from the digits that spell them.** -/
theorem decodePairs_ok_iff (index : Nat) (digits : List Char) (bytes : Bytes) :
    decodePairs index (textBytes digits) = .ok bytes ↔ Pairs digits bytes := by
  match digits with
  | [] =>
    rw [textBytes_nil, decodePairs, Except.ok.injEq]
    constructor
    · rintro rfl
      exact .nil
    · intro h
      cases h
      rfl
  | [c] =>
    -- a digit alone is a single byte
    obtain ⟨byte, rest, he, hv, hone⟩ := exists_first_byte c
    refine iff_of_false (fun h => ?_) (by rintro ⟨⟩)
    rw [textBytes_cons, he, List.cons_append, decodePairs_cons_ok_iff] at h
    obtain ⟨_, _, _, _, _, hrest, hd, -⟩ := h
    rw [hone _ (hv ▸ hd)] at hrest
    cases hrest
  | high :: low :: digits =>
    have ih := decodePairs_ok_iff (index + 2) digits
    obtain ⟨first, more, he, hv, hone⟩ := exists_first_byte high
    obtain ⟨second, more', he', hv', hone'⟩ := exists_first_byte low
    rw [textBytes_cons, textBytes_cons, he, he', List.cons_append, List.cons_append,
      decodePairs_cons_ok_iff, hv]
    constructor
    · rintro ⟨byte, behind, h, l, decoded, hrest, hh, hl, hdecoded, rfl⟩
      rw [hone _ hh, List.nil_append, List.cons.injEq] at hrest
      obtain ⟨rfl, rfl⟩ := hrest
      rw [hv'] at hl
      rw [hone' _ hl, List.nil_append] at hdecoded
      exact .cons hh hl ((ih decoded).1 hdecoded)
    · intro h
      cases h with
      | @cons _ _ h l _ decoded hh hl hrest =>
        refine ⟨second, textBytes digits, h, l, decoded, ?_, hh, hv'.trans hl, (ih decoded).2 hrest,
          rfl⟩
        rw [hone _ hh, hone' _ hl]
        rfl

/-- Bytes are spelled with two characters each. -/
theorem length_textBytes_of_pairs {digits : List Char} {bytes : Bytes} (h : Pairs digits bytes) :
    (textBytes digits).length = 2 * bytes.length := by
  induction h with
  | nil => rfl
  | cons hh hl hrest ih =>
    rw [textBytes_cons, textBytes_cons, encodeChar_of_lt (lt_of_digitValue? hh),
      encodeChar_of_lt (lt_of_digitValue? hl), List.singleton_append, List.singleton_append,
      List.length_cons, List.length_cons, List.length_cons, ih]
    omega

/-- The first byte of a character tells an ASCII character from any other. -/
theorem exists_of_encodeChar_cons {c : Char} {byte : UInt8} {rest behind : Bytes}
    (h : String.utf8EncodeChar c ++ behind = byte :: rest) (hb : byte.toNat < 128) :
    c = Char.ofNat byte.toNat ∧ behind = rest := by
  by_cases hc : c.toNat < 128
  · rw [encodeChar_of_lt hc, List.singleton_append, List.cons.injEq] at h
    obtain ⟨rfl, rfl⟩ := h
    exact ⟨by rw [toNat_ofNat hc, Char.ofNat_toNat], rfl⟩
  · obtain ⟨first, more, he, hf⟩ := exists_encodeChar (Nat.le_of_not_lt hc)
    rw [he, List.cons_append, List.cons.injEq] at h
    rw [h.1] at hf
    omega

/-- A marker in the bytes of a text is one in the text. -/
theorem exists_of_textBytes_marker {text : List Char} {marker : UInt8} {rest : Bytes}
    (h : textBytes text = 0x30 :: marker :: rest) (hm : marker.toNat < 128) :
    ∃ digits, text = '0' :: Char.ofNat marker.toNat :: digits ∧ rest = textBytes digits := by
  match text with
  | [] => cases h
  | first :: text =>
    rw [textBytes_cons] at h
    obtain ⟨rfl, hbehind⟩ := exists_of_encodeChar_cons h (by decide)
    match text with
    | [] => cases hbehind
    | second :: digits =>
      rw [textBytes_cons] at hbehind
      obtain ⟨rfl, hrest⟩ := exists_of_encodeChar_cons hbehind hm
      exact ⟨digits, rfl, hrest.symm⟩

/-- The digits of a byte string with their marker, or without one. -/
inductive Marked : List Char → List Char → Prop
  | none {digits : List Char} : Marked digits digits
  | lower {digits : List Char} : Marked ('0' :: 'x' :: digits) digits
  | upper {digits : List Char} : Marked ('0' :: 'X' :: digits) digits

/-- **A byte string is read from its digits, with a marker in front or without one.** -/
theorem decode_ok_iff (text : List Char) (bytes : Bytes) :
    decode text = .ok bytes ↔ ∃ digits, Marked text digits ∧ Pairs digits bytes := by
  have hread (digits : List Char) :
      (if (textBytes digits).length % 2 = 1 then .error .oddLength
        else decodePairs 0 (textBytes digits)) = Except.ok bytes ↔ Pairs digits bytes := by
    rw [← decodePairs_ok_iff 0]
    split_ifs with hodd
    · refine ⟨nofun, fun h => ?_⟩
      have := length_textBytes_of_pairs ((decodePairs_ok_iff 0 digits bytes).1 h)
      omega
    · exact Iff.rfl
  unfold decode
  dsimp only
  constructor
  · intro h
    generalize hs : textBytes text = content at h
    unfold stripMarker at h
    split at h
    · obtain ⟨digits, rfl, rfl⟩ := exists_of_textBytes_marker hs (by decide)
      exact ⟨digits, .lower, (hread digits).1 h⟩
    · obtain ⟨digits, rfl, rfl⟩ := exists_of_textBytes_marker hs (by decide)
      exact ⟨digits, .upper, (hread digits).1 h⟩
    · subst hs
      exact ⟨text, .none, (hread text).1 h⟩
  · rintro ⟨digits, hmarked, hpairs⟩
    cases hmarked with
    | none =>
      have hstrip : stripMarker (textBytes text) = textBytes text := by
        unfold stripMarker
        split
        · next hs =>
          obtain ⟨digits, rfl, rfl⟩ := exists_of_textBytes_marker hs (by decide)
          rcases hpairs with _ | ⟨_, hx, _⟩
          cases hx
        · next hs =>
          obtain ⟨digits, rfl, rfl⟩ := exists_of_textBytes_marker hs (by decide)
          rcases hpairs with _ | ⟨_, hx, _⟩
          cases hx
        · rfl
      rw [hstrip]
      exact (hread text).2 hpairs
    | lower => exact (hread digits).2 hpairs
    | upper => exact (hread digits).2 hpairs

end Hex

namespace Listing.Line

open Text Hex

/-! ## Numbers -/

/-- **Decimal digits are numerals, and spell the number that is read.** -/
theorem spells_ten_iff {digits : List Char} {n : Nat} :
    Spells 10 digits n ↔ digits.all Char.isDigit = true ∧ decimalValue digits = n := by
  induction digits using List.reverseRecOn generalizing n with
  | nil =>
    rw [spells_nil_iff, eq_comm]
    exact (and_iff_right rfl).symm
  | append_singleton digits c ih =>
    have hvalue : decimalValue (digits ++ [c]) = 10 * decimalValue digits + (c.toNat - 48) := by
      rw [decimalValue, List.foldl_append, ← decimalValue]
      rfl
    rw [spells_concat_iff, hvalue, List.all_append, List.all_cons, List.all_nil, Bool.and_true,
      Bool.and_eq_true]
    constructor
    · rintro ⟨m, value, hm, hc, rfl⟩
      obtain ⟨hdigit, rfl⟩ := digitValue?_ten.1 hc
      obtain ⟨hall, rfl⟩ := ih.1 hm
      exact ⟨⟨hall, hdigit⟩, rfl⟩
    · rintro ⟨⟨hall, hdigit⟩, rfl⟩
      exact ⟨_, _, ih.2 ⟨hall, rfl⟩, digitValue?_ten.2 ⟨hdigit, rfl⟩, rfl⟩

/-- An underscore counts for nothing. -/
theorem writes_concat_underscore {digits : Bytes} {n : Nat} :
    Writes (digits ++ [0x5f]) n ↔ Writes digits n := by
  have hvalue : hexValue (digits ++ [0x5f]) = hexValue digits := by
    rw [hexValue, List.foldl_append, ← hexValue]
    rfl
  constructor
  · rintro ⟨hdigit, hn⟩
    exact ⟨fun byte hb => hdigit byte (List.mem_append_left _ hb), hvalue ▸ hn⟩
  · rintro ⟨hdigit, hn⟩
    refine ⟨fun byte hb => ?_, hvalue.trans hn⟩
    rcases List.mem_append.1 hb with hb | hb
    · exact hdigit byte hb
    · rw [List.mem_singleton.1 hb]
      rfl

/-- A byte that is no underscore has to be a digit. -/
theorem writes_concat_iff {digits : Bytes} {byte : UInt8} (hu : byte ≠ 0x5f) {n : Nat} :
    Writes (digits ++ [byte]) n ↔
      ∃ m value, Writes digits m ∧ value? byte = some value ∧ n = 16 * m + value := by
  have hvalue {value : Nat} (hv : value? byte = some value) :
      hexValue (digits ++ [byte]) = 16 * hexValue digits + value := by
    rw [hexValue, List.foldl_append, ← hexValue]
    simp [hv]
  constructor
  · rintro ⟨hdigit, rfl⟩
    have hbad := hdigit byte (by simp)
    cases hv : value? byte with
    | none => simp [isBadHexByte, hv, hu] at hbad
    | some value =>
      exact ⟨_, value, ⟨fun other ho => hdigit other (List.mem_append_left _ ho), rfl⟩, rfl,
        hvalue hv⟩
  · rintro ⟨m, value, ⟨hdigit, rfl⟩, hv, rfl⟩
    refine ⟨fun other ho => ?_, hvalue hv⟩
    rcases List.mem_append.1 ho with ho | ho
    · exact hdigit other ho
    · rw [List.mem_singleton.1 ho]
      simp [isBadHexByte, hv]

/-- No digits go with a byte that is neither a digit nor an underscore. -/
theorem not_writes_of_mem {digits : Bytes} {byte : UInt8} {n : Nat} (hb : byte ∈ digits)
    (hbad : 128 ≤ byte.toNat) : ¬ Writes digits n := by
  intro h
  have hdigit := h.digit byte hb
  have hu : byte ≠ 0x5f := by
    rintro rfl
    exact absurd hbad (by decide)
  simp [isBadHexByte, value?_of_le hbad, hu] at hdigit

/-- **The digits of a hex literal spell the number that is read**, underscores left out. -/
theorem writes_textBytes_iff {digits : List Char} {n : Nat} :
    Writes (textBytes digits) n ↔ Spells 16 (digits.filter (· != '_')) n := by
  induction digits using List.reverseRecOn generalizing n with
  | nil =>
    rw [List.filter_nil, spells_nil_iff]
    exact ⟨fun h => h.value.symm, fun h => h ▸ writes_nil⟩
  | append_singleton digits c ih =>
    rw [textBytes_append, textBytes_cons, textBytes_nil, List.append_nil, List.filter_append]
    by_cases hu : c = '_'
    · subst hu
      rw [List.filter_cons_of_neg (by decide), List.filter_nil, List.append_nil, ← ih]
      exact writes_concat_underscore
    · rw [List.filter_cons_of_pos (by simpa using hu), List.filter_nil, spells_concat_iff]
      by_cases hc : c.toNat < 128
      · have hbyte : UInt8.ofNat c.toNat ≠ 0x5f := by
          intro h
          have hn := congrArg UInt8.toNat h
          rw [toNat_ofNat hc] at hn
          exact hu (Char.toNat_inj.1 hn)
        rw [encodeChar_of_lt hc, writes_concat_iff hbyte, value?_ofNat hc]
        simp only [ih]
      · obtain ⟨byte, rest, he, hb⟩ := exists_encodeChar (Nat.le_of_not_lt hc)
        have hmem : byte ∈ textBytes digits ++ String.utf8EncodeChar c := by
          rw [he]
          simp
        refine iff_of_false (not_writes_of_mem hmem hb) ?_
        rintro ⟨m, value, -, hv, -⟩
        exact hc (lt_of_digitValue? hv)

/-- ASCII characters are as many bytes. -/
theorem length_textBytes_of_lt {text : List Char} (h : ∀ c ∈ text, c.toNat < 128) :
    (textBytes text).length = text.length := by
  induction text with
  | nil => rfl
  | cons c text ih =>
    rw [textBytes_cons, encodeChar_of_lt (h c List.mem_cons_self), List.singleton_append,
      List.length_cons, List.length_cons, ih fun d hd => h d (List.mem_cons_of_mem _ hd)]

/-- The digits of a hex literal are as many bytes. -/
theorem length_textBytes_of_spells {digits : List Char} {n : Nat}
    (h : Spells 16 (digits.filter (· != '_')) n) :
    (textBytes digits).length = digits.length := by
  refine length_textBytes_of_lt fun c hc => ?_
  by_cases hu : c = '_'
  · rw [hu]
    decide
  · obtain ⟨value, hv⟩ := exists_of_mem_spells h c (List.mem_filter.2 ⟨hc, by simpa using hu⟩)
    exact lt_of_digitValue? hv

/-- Up to 64 hex digits spell a word. -/
theorem toNat_ofNat_of_spells {digits : List Char} {n : Nat} (hl : digits.length ≤ 64)
    (h : Spells 16 (digits.filter (· != '_')) n) : (BitVec.ofNat 256 n).toNat = n := by
  have hn : n < 2 ^ 256 :=
    calc n < Nat.pow 16 (digits.filter (· != '_')).length := lt_of_spells h
      _ ≤ Nat.pow 16 64 :=
        Nat.pow_le_pow_right (by decide) (Nat.le_trans (List.length_filter_le _ _) hl)
      _ = 2 ^ 256 := by decide
  rw [BitVec.toNat_ofNat, Nat.mod_eq_of_lt hn]

/-- **The hex literals**: 2 to 64 characters behind the marker, each a digit or an underscore. -/
theorem parseHex_ok_iff {operand digits : List Char} {result : Operand} :
    parseHex operand digits = .ok result ↔
      ∃ value : Word, 2 ≤ digits.length ∧ digits.length ≤ 64 ∧
        Spells 16 (digits.filter (· != '_')) value.toNat ∧ result = .int value := by
  constructor
  · intro h
    unfold parseHex at h
    dsimp only at h
    split_ifs at h with hl
    rw [not_or, Nat.not_lt, Nat.not_lt] at hl
    split at h
    · cases h
    · next hfind =>
      cases h
      have hdigit : ∀ byte ∈ textBytes digits, isBadHexByte byte = false := fun byte hb =>
        Bool.eq_false_iff.2 (List.find?_eq_none.1 hfind byte (List.mem_reverse.2 hb))
      have hspells := writes_textBytes_iff.1 ⟨hdigit, rfl⟩
      rw [length_textBytes_of_spells hspells] at hl
      refine ⟨_, hl.1, hl.2, ?_, rfl⟩
      rwa [toNat_ofNat_of_spells hl.2 hspells]
  · rintro ⟨value, hlow, hhigh, hspells, rfl⟩
    have hlength := length_textBytes_of_spells hspells
    rw [parseHex_of_writes (writes_textBytes_iff.2 hspells) (hlength.symm ▸ hlow)
      (hlength.symm ▸ hhigh), BitVec.ofNat_toNat, BitVec.setWidth_eq]

/-- **The decimal literals**: the digits of a number that fits a word. -/
theorem parseDecimal_ok_iff {digits : List Char} {result : Operand} :
    (digits.all Char.isDigit = true ∧ parseDecimal digits = .ok result) ↔
      ∃ value : Word, Spells 10 digits value.toNat ∧ result = .int value := by
  have hcapacity : capacity 32 = 2 ^ 256 := by decide
  constructor
  · rintro ⟨hall, h⟩
    unfold parseDecimal at h
    split_ifs at h with hn
    cases h
    refine ⟨_, spells_ten_iff.2 ⟨hall, ?_⟩, rfl⟩
    rw [BitVec.toNat_ofNat, Nat.mod_eq_of_lt (hcapacity ▸ hn)]
  · rintro ⟨value, hspells, rfl⟩
    obtain ⟨hall, hvalue⟩ := spells_ten_iff.1 hspells
    have hn : decimalValue digits < capacity 32 := by
      rw [hvalue, hcapacity]
      exact value.isLt
    refine ⟨hall, ?_⟩
    rw [parseDecimal, if_pos hn, hvalue, BitVec.ofNat_toNat, BitVec.setWidth_eq]

end Listing.Line

end EvmProbe
