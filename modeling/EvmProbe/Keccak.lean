import EvmProbe.Bytes

/-!
The hash function Keccak-256.

The state is five planes of five 64-bit lanes.  A message is absorbed in blocks of 136 bytes, the
last of which is padded with `0x01`, zeros and a final bit `0x80`.
-/

namespace EvmProbe.Keccak

/-- Five lanes of one plane, `x` from zero to four. -/
structure Plane where
  x0 : UInt64
  x1 : UInt64
  x2 : UInt64
  x3 : UInt64
  x4 : UInt64

/-- Five planes, `y` from zero to four. -/
structure State where
  y0 : Plane
  y1 : Plane
  y2 : Plane
  y3 : Plane
  y4 : Plane

/-- Rotates a lane to the left. -/
@[inline] def rotate (lane : UInt64) (amount : UInt64) : UInt64 :=
  (lane <<< amount) ||| (lane >>> (64 - amount))

/-- Adds two planes bit by bit. -/
@[inline] def Plane.xor (a b : Plane) : Plane :=
  ⟨a.x0 ^^^ b.x0, a.x1 ^^^ b.x1, a.x2 ^^^ b.x2, a.x3 ^^^ b.x3, a.x4 ^^^ b.x4⟩

/-- What every plane gets added for the parities `c` of the columns. -/
def parityEffect (c : Plane) : Plane :=
  ⟨c.x4 ^^^ rotate c.x1 1, c.x0 ^^^ rotate c.x2 1, c.x1 ^^^ rotate c.x3 1,
    c.x2 ^^^ rotate c.x4 1, c.x3 ^^^ rotate c.x0 1⟩

/-- Adds to every lane the parities of two neighbouring columns. -/
def theta (s : State) : State :=
  let d := parityEffect ((((s.y0.xor s.y1).xor s.y2).xor s.y3).xor s.y4)
  ⟨s.y0.xor d, s.y1.xor d, s.y2.xor d, s.y3.xor d, s.y4.xor d⟩

/-- Rotates every lane and moves it to its new place. -/
def rhoPi (s : State) : State where
  y0 := ⟨s.y0.x0, rotate s.y1.x1 44, rotate s.y2.x2 43, rotate s.y3.x3 21, rotate s.y4.x4 14⟩
  y1 := ⟨rotate s.y0.x3 28, rotate s.y1.x4 20, rotate s.y2.x0 3, rotate s.y3.x1 45,
    rotate s.y4.x2 61⟩
  y2 := ⟨rotate s.y0.x1 1, rotate s.y1.x2 6, rotate s.y2.x3 25, rotate s.y3.x4 8,
    rotate s.y4.x0 18⟩
  y3 := ⟨rotate s.y0.x4 27, rotate s.y1.x0 36, rotate s.y2.x1 10, rotate s.y3.x2 15,
    rotate s.y4.x3 56⟩
  y4 := ⟨rotate s.y0.x2 62, rotate s.y1.x3 55, rotate s.y2.x4 39, rotate s.y3.x0 41,
    rotate s.y4.x1 2⟩

/-- The nonlinear step, within a plane. -/
def Plane.chi (p : Plane) : Plane :=
  ⟨p.x0 ^^^ (~~~p.x1 &&& p.x2), p.x1 ^^^ (~~~p.x2 &&& p.x3), p.x2 ^^^ (~~~p.x3 &&& p.x4),
    p.x3 ^^^ (~~~p.x4 &&& p.x0), p.x4 ^^^ (~~~p.x0 &&& p.x1)⟩

/-- One round with its constant. -/
def round (s : State) (constant : UInt64) : State :=
  let s := rhoPi (theta s)
  let y0 := s.y0.chi
  ⟨{ y0 with x0 := y0.x0 ^^^ constant }, s.y1.chi, s.y2.chi, s.y3.chi, s.y4.chi⟩

/-- The constants of the rounds. -/
def roundConstants : List UInt64 :=
  [0x0000000000000001, 0x0000000000008082, 0x800000000000808a, 0x8000000080008000,
    0x000000000000808b, 0x0000000080000001, 0x8000000080008081, 0x8000000000008009,
    0x000000000000008a, 0x0000000000000088, 0x0000000080008009, 0x000000008000000a,
    0x000000008000808b, 0x800000000000008b, 0x8000000000008089, 0x8000000000008003,
    0x8000000000008002, 0x8000000000000080, 0x000000000000800a, 0x800000008000000a,
    0x8000000080008081, 0x8000000000008080, 0x0000000080000001, 0x8000000080008008]

/-- The permutation of the state. -/
def permute (s : State) : State := roundConstants.foldl round s

/-- Takes a lane off a byte string, least significant byte first. -/
def takeLane : Bytes → UInt64 × Bytes
  | b0 :: b1 :: b2 :: b3 :: b4 :: b5 :: b6 :: b7 :: rest =>
    (b0.toUInt64 ||| (b1.toUInt64 <<< 8) ||| (b2.toUInt64 <<< 16) ||| (b3.toUInt64 <<< 24) |||
      (b4.toUInt64 <<< 32) ||| (b5.toUInt64 <<< 40) ||| (b6.toUInt64 <<< 48) |||
      (b7.toUInt64 <<< 56), rest)
  | rest => (0, rest)

/-- Takes a plane off a byte string. -/
def takePlane (bytes : Bytes) : Plane × Bytes :=
  let (x0, bytes) := takeLane bytes
  let (x1, bytes) := takeLane bytes
  let (x2, bytes) := takeLane bytes
  let (x3, bytes) := takeLane bytes
  let (x4, bytes) := takeLane bytes
  (⟨x0, x1, x2, x3, x4⟩, bytes)

/-- Absorbs a block of 136 bytes: seventeen lanes. -/
def absorbBlock (s : State) (bytes : Bytes) : State × Bytes :=
  let (y0, bytes) := takePlane bytes
  let (y1, bytes) := takePlane bytes
  let (y2, bytes) := takePlane bytes
  let (x0, bytes) := takeLane bytes
  let (x1, bytes) := takeLane bytes
  (permute ⟨s.y0.xor y0, s.y1.xor y1, s.y2.xor y2, s.y3.xor ⟨x0, x1, 0, 0, 0⟩, s.y4⟩, bytes)

/-- The number of bytes in a block. -/
def blockSize : Nat := 136

/-- Absorbs `count` blocks; the bytes behind them are left. -/
def absorb : (count : Nat) → State → Bytes → State × Bytes
  | 0, s, bytes => (s, bytes)
  | count + 1, s, bytes =>
    let (s, bytes) := absorbBlock s bytes
    absorb count s bytes

/-- Fills the last block. -/
def padBlock (bytes : Bytes) : Bytes :=
  if bytes.length + 1 = blockSize then bytes ++ [0x81]
  else padRight (blockSize - 1) (bytes ++ [0x01]) ++ [0x80]

/-- The state before anything is absorbed. -/
def start : State :=
  let zero : Plane := ⟨0, 0, 0, 0, 0⟩
  ⟨zero, zero, zero, zero, zero⟩

/-- The bytes of a lane, least significant first. -/
def laneBytes (lane : UInt64) : Bytes := (bigEndian 8 lane.toNat).reverse

end EvmProbe.Keccak

namespace EvmProbe

/-- The Keccak-256 hash of a byte string. -/
def keccak256 (message : Bytes) : Word :=
  let (state, rest) := Keccak.absorb (message.length / Keccak.blockSize) Keccak.start message
  let (state, _) := Keccak.absorbBlock state (Keccak.padBlock rest)
  let lanes := [state.y0.x0, state.y0.x1, state.y0.x2, state.y0.x3]
  BitVec.ofNat 256 (ofBigEndian (lanes.flatMap Keccak.laneBytes))

end EvmProbe
