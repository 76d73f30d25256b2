/-!
Byte strings and fixed-size words.

A byte string is a list of bytes, first byte first.  `bigEndian width n` writes the `width`
low-order bytes of `n`, most significant byte first, and `ofBigEndian` reads a byte string as the
number it writes: `ofBigEndian_bigEndian` says that a number below `capacity width` is read back.
Words, addresses and selectors are bit vectors of 256, 160 and 32 bits.
-/

namespace EvmProbe

/-- A byte string, first byte first. -/
abbrev Bytes := List UInt8

/-- An EVM word; also a 32-byte hash. -/
abbrev Word := BitVec 256

/-- An account address. -/
abbrev Address := BitVec 160

/-- The four bytes that select a contract function. -/
abbrev Selector := BitVec 32

/-- How many values there are of `width` bytes: 256 to the power of the width. -/
def capacity (width : Nat) : Nat := Nat.pow 256 width

/-- The `width` low-order bytes of `n`, most significant first. -/
def bigEndian : (width : Nat) → (n : Nat) → Bytes
  | 0, _ => []
  | width + 1, n => UInt8.ofNat (n / capacity width) :: bigEndian width n

/-- The number a byte string writes, most significant byte first. -/
def ofBigEndian (bytes : Bytes) : Nat :=
  bytes.foldl (fun n byte => n * 256 + byte.toNat) 0

/-- The bytes of a word, most significant first. -/
def wordBytes {bits : Nat} (word : BitVec bits) : Bytes :=
  bigEndian (bits / 8) word.toNat

/-- Zeros in front, up to `width` bytes. -/
def padLeft (width : Nat) (bytes : Bytes) : Bytes :=
  List.replicate (width - bytes.length) 0 ++ bytes

/-- Zeros behind, up to `width` bytes. -/
def padRight (width : Nat) (bytes : Bytes) : Bytes :=
  bytes ++ List.replicate (width - bytes.length) 0

@[simp] theorem capacity_zero : capacity 0 = 1 := rfl

/-- One more byte makes for 256 times as many values. -/
theorem capacity_succ (width : Nat) : capacity (width + 1) = capacity width * 256 := rfl

@[simp] theorem length_bigEndian (width n : Nat) : (bigEndian width n).length = width := by
  induction width with
  | zero => rfl
  | succ width ih => simp [bigEndian, ih]

@[simp] theorem ofBigEndian_nil : ofBigEndian [] = 0 := rfl

/-- Reading one more byte multiplies by 256 and adds it. -/
theorem ofBigEndian_concat (bytes : Bytes) (byte : UInt8) :
    ofBigEndian (bytes ++ [byte]) = ofBigEndian bytes * 256 + byte.toNat := by
  simp [ofBigEndian]

private theorem foldl_eq_add (bytes : Bytes) (n : Nat) :
    bytes.foldl (fun n byte => n * 256 + byte.toNat) n =
      n * capacity bytes.length + ofBigEndian bytes := by
  induction bytes generalizing n with
  | nil => simp [ofBigEndian]
  | cons byte rest ih =>
    simp only [ofBigEndian, List.foldl_cons, List.length_cons] at ih ⊢
    rw [ih, ih (0 * 256 + byte.toNat), capacity_succ]
    grind

/-- The first byte counts as many times as there are values of the bytes after it. -/
theorem ofBigEndian_cons (byte : UInt8) (rest : Bytes) :
    ofBigEndian (byte :: rest) = byte.toNat * capacity rest.length + ofBigEndian rest := by
  rw [ofBigEndian, List.foldl_cons, foldl_eq_add]
  simp

/-- What is written at some width is read back up to that width. -/
theorem ofBigEndian_bigEndian_mod (width n : Nat) :
    ofBigEndian (bigEndian width n) = n % capacity width := by
  induction width with
  | zero => simp [bigEndian, Nat.mod_one]
  | succ width ih =>
    rw [bigEndian, ofBigEndian_cons, ih, length_bigEndian, capacity_succ, Nat.mod_mul]
    simp only [UInt8.toNat_ofNat']
    rw [Nat.mul_comm, Nat.add_comm]

/-- A number that fits is read back. -/
theorem ofBigEndian_bigEndian {width n : Nat} (h : n < capacity width) :
    ofBigEndian (bigEndian width n) = n := by
  rw [ofBigEndian_bigEndian_mod, Nat.mod_eq_of_lt h]

theorem length_padLeft {width : Nat} {bytes : Bytes} (h : bytes.length ≤ width) :
    (padLeft width bytes).length = width := by
  simp [padLeft]; omega

end EvmProbe
