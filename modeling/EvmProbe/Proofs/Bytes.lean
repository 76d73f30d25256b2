import EvmProbe.Bytes
import Mathlib.Data.List.Induction
import Mathlib.Tactic.Common

/-!
Numbers that byte strings write.

* `ofBigEndian_lt`, `eq_of_ofBigEndian_eq`: byte strings of one length write different numbers, each
  below the capacity of that length.
* `bigEndian_ofBigEndian`: a number that a byte string writes is written as that byte string again.
-/

namespace EvmProbe

theorem capacity_le {width other : Nat} (h : width ≤ other) : capacity width ≤ capacity other :=
  Nat.pow_le_pow_right (by decide) h

/-- Zeros in front change no number. -/
theorem ofBigEndian_padLeft (width : Nat) (bytes : Bytes) :
    ofBigEndian (padLeft width bytes) = ofBigEndian bytes := by
  rw [padLeft]
  induction width - bytes.length with
  | zero => rfl
  | succ count ih => rw [List.replicate_succ, List.cons_append, ofBigEndian_cons, ih]; simp

theorem ofBigEndian_lt (bytes : Bytes) : ofBigEndian bytes < capacity bytes.length := by
  induction bytes using List.reverseRecOn with
  | nil => decide
  | append_singleton bytes byte ih =>
    have hbyte := byte.toNat_lt
    rw [ofBigEndian_concat, List.length_append, List.length_singleton, capacity_succ]
    omega

/-- Byte strings of one length that write the same number are the same. -/
theorem eq_of_ofBigEndian_eq {a b : Bytes} (hl : a.length = b.length)
    (h : ofBigEndian a = ofBigEndian b) : a = b := by
  induction a using List.reverseRecOn generalizing b with
  | nil => exact (List.eq_nil_of_length_eq_zero hl.symm).symm
  | append_singleton a x ih =>
    rcases List.eq_nil_or_concat b with rfl | ⟨b, y, rfl⟩
    · simp at hl
    · have hx := x.toNat_lt
      have hy := y.toNat_lt
      rw [ofBigEndian_concat, List.concat_eq_append, ofBigEndian_concat] at h
      rw [List.concat_eq_append, ih (by simpa using hl) (by omega),
        UInt8.toNat_inj.1 (show x.toNat = y.toNat by omega)]

/-- What is written at some width starts with what is written without the last bytes. -/
theorem bigEndian_add (width rest n : Nat) :
    bigEndian (width + rest) n = bigEndian width (n / capacity rest) ++ bigEndian rest n := by
  induction width with
  | zero => rw [Nat.zero_add]; rfl
  | succ width ih =>
    have hcapacity : capacity (width + rest) = capacity rest * capacity width := by
      rw [Nat.mul_comm]
      exact Nat.pow_add 256 width rest
    rw [Nat.succ_add, bigEndian, bigEndian, ih, hcapacity, Nat.div_div_eq_div_mul, List.cons_append]

/-- **A number that a byte string writes is written as that byte string again**, behind zeros. -/
theorem bigEndian_ofBigEndian {width : Nat} {bytes : Bytes} (h : bytes.length ≤ width) :
    bigEndian width (ofBigEndian bytes) = padLeft width bytes := by
  have hlt := Nat.lt_of_lt_of_le (ofBigEndian_lt bytes) (capacity_le h)
  refine eq_of_ofBigEndian_eq (by rw [length_bigEndian, length_padLeft h]) ?_
  rw [ofBigEndian_bigEndian hlt, ofBigEndian_padLeft]

end EvmProbe
