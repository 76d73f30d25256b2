import EvmProbe.Json.Reading
import EvmProbe.Proofs.Json.RoundTrip
import Mathlib.Data.Nat.Digits.Defs

/-!
Numbers that are read back.

* `Text.readDigits_toDigits`: the decimal digits of a number are read as the number.
* `Json.fits_ofNat`, `Json.natural?_ofNat`: a number fits into a text anywhere, and is read as it
  was written.
-/

namespace EvmProbe

namespace Text
variable {limit : Nat}

/-- A decimal digit is read as its value. -/
theorem digitValue?_digitChar {value : Nat} (h : value < 10) :
    digitValue? 10 (Nat.digitChar value) = some value := by
  have hall : ∀ value : Fin 10, digitValue? 10 (Nat.digitChar value) = some value.val := by decide
  exact hall ⟨value, h⟩

/-- One more digit makes for ten times the number. -/
theorem readDigits_concat {n start value : Nat} {digits : List Char}
    (h : readDigits 10 limit start digits = .ok n) (hv : value < 10) (hl : 10 * n + value < limit) :
    readDigits 10 limit start (digits ++ [Nat.digitChar value]) = .ok (10 * n + value) := by
  induction digits generalizing start with
  | nil =>
    cases h
    rw [Nat.mul_comm] at hl ⊢
    simp only [List.nil_append, readDigits, digitValue?_digitChar hv, if_pos hl]
  | cons c digits ih =>
    simp only [List.cons_append, readDigits] at h ⊢
    split at h
    · cases h
    · split at h
      · next hlow =>
        rw [if_pos hlow]
        exact ih h
      · cases h

/-- **The digits of a number are read as the number.** -/
theorem readDigits_toDigits {n : Nat} (h : n < limit) :
    readDigits 10 limit 0 (Nat.toDigits 10 n) = .ok n := by
  induction n using Nat.base_induction 10 (by decide) with
  | single m hm =>
    rw [Nat.toDigits_of_lt_base hm]
    have hzero : readDigits 10 limit 0 [] = .ok 0 := rfl
    simpa using readDigits_concat hzero hm (by simpa using h)
  | digit m k hk hm ih =>
    rw [← Nat.toDigits_append_toDigits (by decide) hm hk, Nat.toDigits_of_lt_base hk]
    exact readDigits_concat (ih (by omega)) hk h

end Text

namespace Json

/-- The digits of a number that is not zero do not start with a zero. -/
theorem head?_toDigits {n : Nat} (h : n ≠ 0) : (Nat.toDigits 10 n).head? ≠ some '0' := by
  induction n using Nat.base_induction 10 (by decide) with
  | single m hm =>
    have hall : ∀ m : Fin 10, m.val ≠ 0 → Nat.digitChar m ≠ '0' := by decide
    rw [Nat.toDigits_of_lt_base hm]
    simpa using hall ⟨m, hm⟩ h
  | digit m k hk hm ih =>
    obtain ⟨c, rest, he⟩ := List.exists_cons_of_ne_nil (Nat.toDigits_ne_nil (b := 10) (n := m))
    rw [← Nat.toDigits_append_toDigits (by decide) hm hk, he, List.cons_append]
    rw [he] at ih
    exact ih (by omega)

/-- Numbers are written as digits alone. -/
theorem isNumeral_toDigits (n : Nat) : isNumeral (Nat.toDigits 10 n) := by
  have hdigits : (Nat.toDigits 10 n).all Char.isDigit :=
    List.all_eq_true.2 fun _ => Nat.isDigit_of_mem_toDigits (by decide) (by decide)
  rw [isNumeral.eq_def]
  split
  · next h => exact absurd h Nat.toDigits_ne_nil
  · next h =>
    have hzero : n ≠ 0 := by
      rintro rfl
      cases h
    exact absurd (congrArg List.head? h) (head?_toDigits hzero)
  · exact hdigits

theorem fits_ofNat (depth n : Nat) : fits depth (.ofNat n) := by
  rw [ofNat, fits, Nat.toString_eq_repr, Nat.toList_repr]
  exact isNumeral_toDigits n

/-- A number is read as it was written. -/
theorem natural?_ofNat {n limit : Nat} (h : n < limit) : natural? limit (.ofNat n) = some n := by
  have hsign (c : Char) (rest : List Char) (he : Nat.toDigits 10 n = c :: rest) : c.isDigit :=
    Nat.isDigit_of_mem_toDigits (by decide) (by decide) (he ▸ List.mem_cons_self)
  have hread : Text.readNumeral 10 limit (Nat.toDigits 10 n) = .ok n := by
    rw [Text.readNumeral.eq_def]
    split
    · next he => exact absurd he Nat.toDigits_ne_nil
    · next he => exact absurd (hsign _ _ he) (by decide)
    · next he => exact absurd (hsign _ _ he) (by decide)
    · exact Text.readDigits_toDigits h
  rw [ofNat, natural?, Nat.toString_eq_repr, Nat.toList_repr]
  split
  · next he => exact absurd (hsign _ _ he) (by decide)
  · rw [hread]
    rfl

end Json

end EvmProbe
