import EvmProbe.Listing.Line
import Mathlib.Data.List.Induction
import Mathlib.Tactic.Common

/-!
Hexadecimal text that is read back.

Reading goes over the bytes of a text; every digit that is written is a byte of its own.

* `decode_encode`: the digits of a byte string are read as that byte string.
* `writes_digitBytes`, `writes_toDigits`: which numbers the digits of a byte string and of a
  quantity write.
* `parseHex_of_writes`: a literal of 2 to 64 digits is read as the number that these write.
-/

namespace EvmProbe

namespace Hex

/-- The byte of the lower-case digit of a value below sixteen. -/
def digitByte (value : Nat) : UInt8 := UInt8.ofNat (digit value).toNat

/-- What a digit is, as a character and as a byte. -/
private theorem digit_fin : ∀ value : Fin 16, digit value = Nat.digitChar value ∧
    String.utf8EncodeChar (digit value) = [digitByte value] ∧
    value? (digitByte value) = some value.val ∧
    digitByte value ≠ 0x78 ∧ digitByte value ≠ 0x58 := by
  decide

section
variable {value : Nat} (h : value < 16)
include h

theorem digit_eq : digit value = Nat.digitChar value := (digit_fin ⟨value, h⟩).1

theorem encodeChar_digit : String.utf8EncodeChar (digit value) = [digitByte value] :=
  (digit_fin ⟨value, h⟩).2.1

/-- A digit has its value. -/
theorem value?_digitByte : value? (digitByte value) = some value := (digit_fin ⟨value, h⟩).2.2.1

/-- A digit is no part of a marker. -/
theorem digitByte_ne_marker : digitByte value ≠ 0x78 ∧ digitByte value ≠ 0x58 :=
  (digit_fin ⟨value, h⟩).2.2.2

end

theorem high_lt (byte : UInt8) : byte.toNat / 16 < 16 := by
  have := byte.toNat_lt
  omega

theorem low_lt (byte : UInt8) : byte.toNat % 16 < 16 := Nat.mod_lt _ (by omega)

/-- The bytes of the digits of a byte string. -/
def digitBytes (bytes : Bytes) : Bytes :=
  bytes.flatMap fun byte => [digitByte (byte.toNat / 16), digitByte (byte.toNat % 16)]

theorem textBytes_encode (bytes : Bytes) : textBytes (encode bytes).toList = digitBytes bytes := by
  have hpair : (fun byte => (pair byte).flatMap String.utf8EncodeChar) =
      fun byte => [digitByte (byte.toNat / 16), digitByte (byte.toNat % 16)] := by
    funext byte
    simp [pair, encodeChar_digit (high_lt byte), encodeChar_digit (low_lt byte)]
  rw [encode, String.toList_ofList, textBytes, List.flatMap_assoc, hpair, digitBytes]

@[simp] theorem length_digitBytes (bytes : Bytes) :
    (digitBytes bytes).length = 2 * bytes.length := by
  induction bytes with
  | nil => rfl
  | cons byte rest ih =>
    rw [digitBytes, List.flatMap_cons, ← digitBytes, List.length_append, ih]
    simp; omega

theorem decodePairs_digitBytes (index : Nat) (bytes : Bytes) :
    decodePairs index (digitBytes bytes) = .ok bytes := by
  induction bytes generalizing index with
  | nil => rfl
  | cons byte rest ih =>
    have hjoin : 16 * (byte.toNat / 16) + byte.toNat % 16 = byte.toNat := by omega
    rw [digitBytes, List.flatMap_cons, ← digitBytes, List.cons_append, List.cons_append,
      List.nil_append, decodePairs, value?_digitByte (high_lt byte), value?_digitByte (low_lt byte)]
    simp [ih, hjoin, Except.map]

/-- Digits do not start with a marker. -/
theorem stripMarker_digitBytes (bytes : Bytes) :
    stripMarker (digitBytes bytes) = digitBytes bytes := by
  cases bytes with
  | nil => rfl
  | cons byte rest =>
    have hlow := digitByte_ne_marker (low_lt byte)
    rw [digitBytes, List.flatMap_cons, List.cons_append, List.cons_append]
    unfold stripMarker
    split
    · next h =>
      simp only [List.cons.injEq] at h
      exact absurd h.2.1 hlow.1
    · next h =>
      simp only [List.cons.injEq] at h
      exact absurd h.2.1 hlow.2
    · rfl

/-- **The digits of a byte string are read as that byte string.** -/
theorem decode_encode (bytes : Bytes) : decode (encode bytes).toList = .ok bytes := by
  rw [decode, textBytes_encode, stripMarker_digitBytes, if_neg (by simp), decodePairs_digitBytes]

/-- A marker in front of the digits is skipped. -/
theorem decode_literal (bytes : Bytes) : decode (literal bytes).toList = .ok bytes := by
  have htext : textBytes (literal bytes).toList = 0x30 :: 0x78 :: digitBytes bytes := by
    rw [literal, String.toList_append, textBytes, List.flatMap_append, ← textBytes, ← textBytes,
      textBytes_encode]
    rfl
  rw [decode, htext, stripMarker, if_neg (by simp), decodePairs_digitBytes]

/-- Byte strings with the same digits are the same. -/
theorem encode_inj {a b : Bytes} : encode a = encode b ↔ a = b := by
  refine ⟨fun h => ?_, fun h => h ▸ rfl⟩
  have hb := decode_encode b
  rw [← h, decode_encode] at hb
  exact Except.ok.inj hb

theorem literal_inj {a b : Bytes} : literal a = literal b ↔ a = b := by
  rw [← encode_inj, literal, literal, String.append_right_inj]

/-- The characters of a byte string are digits. -/
theorem exists_digit_of_mem {bytes : Bytes} {c : Char} (h : c ∈ bytes.flatMap pair) :
    ∃ value < 16, c = digit value := by
  obtain ⟨byte, -, hc⟩ := List.mem_flatMap.1 h
  rw [pair, List.mem_cons, List.mem_singleton] at hc
  rcases hc with rfl | rfl
  · exact ⟨_, high_lt byte, rfl⟩
  · exact ⟨_, low_lt byte, rfl⟩

/-- A digit is a letter or a numeral in either case, and has one lower case. -/
theorem digit_case {value : Nat} (h : value < 16) :
    (digit value).isAlphanum ∧ (digit value).toUpper.isAlphanum ∧
      (digit value).toLower = digit value ∧ (digit value).toUpper.toLower = digit value := by
  have hall : ∀ value : Fin 16, (digit value).isAlphanum ∧ (digit value).toUpper.isAlphanum ∧
      (digit value).toLower = digit value ∧ (digit value).toUpper.toLower = digit value := by decide
  exact hall ⟨value, h⟩

end Hex

namespace Listing.Line

open Hex

/-! ## Hex literals -/

/-- The digits of a literal write a number. -/
structure Writes (digits : Bytes) (n : Nat) : Prop where
  digit : ∀ byte ∈ digits, isBadHexByte byte = false
  value : hexValue digits = n

theorem writes_nil : Writes [] 0 := ⟨by simp, rfl⟩

/-- One more digit makes for sixteen times the number. -/
theorem Writes.concat {digits : Bytes} {n value : Nat} (h : Writes digits n) (hv : value < 16) :
    Writes (digits ++ [digitByte value]) (16 * n + value) := by
  refine ⟨fun byte hb => ?_, ?_⟩
  · rcases List.mem_append.1 hb with hb | hb
    · exact h.digit byte hb
    · rw [List.mem_singleton.1 hb]
      simp [isBadHexByte, value?_digitByte hv]
  · rw [hexValue, List.foldl_append, ← hexValue, h.value]
    simp [value?_digitByte hv]

/-- The digits of a byte string write the number that the byte string writes. -/
theorem writes_digitBytes (bytes : Bytes) : Writes (digitBytes bytes) (ofBigEndian bytes) := by
  induction bytes using List.reverseRecOn with
  | nil => exact writes_nil
  | append_singleton bytes byte ih =>
    have hsplit : digitBytes (bytes ++ [byte]) = (digitBytes bytes ++
        [digitByte (byte.toNat / 16)]) ++ [digitByte (byte.toNat % 16)] := by
      simp [digitBytes]
    have hvalue : ofBigEndian (bytes ++ [byte]) =
        16 * (16 * ofBigEndian bytes + byte.toNat / 16) + byte.toNat % 16 := by
      rw [ofBigEndian_concat]
      omega
    rw [hsplit, hvalue]
    exact (ih.concat (high_lt byte)).concat (low_lt byte)

/-- A quantity has as many bytes as digits. -/
private theorem textBytes_concat (digits : List Char) {value : Nat} (h : value < 16) :
    textBytes (digits ++ [Nat.digitChar value]) = textBytes digits ++ [digitByte value] := by
  rw [textBytes, List.flatMap_append, List.flatMap_singleton, ← digit_eq h, encodeChar_digit h,
    textBytes]

/-- **The digits of a quantity write the number**, and are as many bytes. -/
theorem writes_toDigits (n : Nat) : Writes (textBytes (Nat.toDigits 16 n)) n ∧
    (textBytes (Nat.toDigits 16 n)).length = (Nat.toDigits 16 n).length := by
  induction n using Nat.base_induction 16 (by decide) with
  | single m hm =>
    have hone : textBytes [Nat.digitChar m] = [digitByte m] := textBytes_concat [] hm
    rw [Nat.toDigits_of_lt_base hm, hone]
    exact ⟨by simpa using writes_nil.concat hm, rfl⟩
  | digit m k hk hm ih =>
    rw [← Nat.toDigits_append_toDigits (by decide) hm hk, Nat.toDigits_of_lt_base hk,
      textBytes_concat _ hk]
    exact ⟨ih.1.concat hk, by simp [ih.2]⟩

/-- A literal of 2 to 64 digits is read as the number that these write. -/
theorem parseHex_of_writes {operand digits : List Char} {n : Nat} (h : Writes (textBytes digits) n)
    (hlow : 2 ≤ (textBytes digits).length) (hhigh : (textBytes digits).length ≤ 64) :
    parseHex operand digits = .ok (.int (BitVec.ofNat 256 n)) := by
  have hfind : (textBytes digits).reverse.find? isBadHexByte = none := by
    rw [List.find?_eq_none]
    intro byte hb
    rw [h.digit byte (List.mem_reverse.1 hb)]
    decide
  rw [parseHex, if_neg (by omega), hfind, h.value]

end Listing.Line

end EvmProbe
