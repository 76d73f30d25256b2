import EvmProbe.Bytes

/-!
Reading values in the contract ABI.

Reading asks only that what is read is there: offsets and lengths are the low 64 bits of their
word, padding and whatever follows is ignored, and values may overlap.  An offset counts from the
start of the body that holds it.  Room for an array is set aside before its elements are read, so
that a length can fail on its own.
-/

namespace EvmProbe.Abi

/-- Why a value cannot be read. -/
inductive Error where
  /-- The data ends before the value does. -/
  | overrun
  /-- An array has more elements than can be addressed. -/
  | capacity
  /-- An array has more elements than there is memory for. -/
  | memory
  deriving DecidableEq, Repr

/-- The wording of an error. -/
def Error.message : Error → String
  | .overrun => "buffer overrun while deserializing"
  | .capacity =>
    "memory allocation failed because the computed capacity exceeded the collection's maximum"
  | .memory => "memory allocation failed because the memory allocator returned an error"

/-- An error with its causes. That there is no room has a cause of the same wording. -/
def Error.causes (error : Error) : List String :=
  match error with
  | .overrun => [error.message]
  | .capacity | .memory => [error.message, error.message]

/-- What a collection can take of the address space. -/
def addressable : Nat := 0x7fffffffffffffff

/-- What can be set aside for one array. -/
def available : Nat := 0x4000000000

/-- Sets room aside for an array whose elements take `footprint` bytes each. -/
def reserve (count footprint : Nat) : Except Error Unit :=
  if addressable < count * footprint then .error .capacity
  else if available < count * footprint then .error .memory
  else .ok ()

/-- The body of a tuple or an array: data from a base on. -/
structure Body where
  data : Array UInt8
  base : Nat

namespace Body

/-- The whole of a byte string. -/
def ofBytes (content : Bytes) : Body := ⟨content.toArray, 0⟩

/-- The `size` bytes at `position`. -/
def slice (body : Body) (position size : Nat) : Except Error Bytes :=
  let start := body.base + position
  if start + size ≤ body.data.size then .ok (body.data.extract start (start + size)).toList
  else .error .overrun

/-- The word at `position`. -/
def nat (body : Body) (position : Nat) : Except Error Nat :=
  (body.slice position 32).map ofBigEndian

/-- The offset or length at `position`. -/
def offset (body : Body) (position : Nat) : Except Error Nat :=
  (body.nat position).map (· % capacity 8)

/-- The body that starts at `position`. -/
def inner (body : Body) (position : Nat) : Except Error Body :=
  if body.base + position ≤ body.data.size then .ok ⟨body.data, body.base + position⟩
  else .error .overrun

/-- The body that the offset at `position` leads to. -/
def follow (body : Body) (position : Nat) : Except Error Body := do
  body.inner (← body.offset position)

/-- The value of `bits` bits in the word at `position`. -/
def uint (bits : Nat) (body : Body) (position : Nat) : Except Error (BitVec bits) :=
  (body.nat position).map (BitVec.ofNat bits)

/-- The truth value at `position`: any word but zero is true. -/
def bool (body : Body) (position : Nat) : Except Error Bool :=
  (body.nat position).map (· != 0)

/-- The byte string that the offset at `position` leads to. -/
def bytes (body : Body) (position : Nat) : Except Error Bytes := do
  let content ← body.follow position
  let size ← content.offset 0
  content.slice 32 size

/-- Reads `count` elements from `position` on, `stride` bytes apart. -/
def elements {α : Type} (body : Body) (read : Body → Nat → Except Error α) (stride : Nat) :
    (position : Nat) → (count : Nat) → Except Error (List α)
  | _, 0 => .ok []
  | position, count + 1 => do
    let element ← read body position
    let rest ← body.elements read stride (position + stride) count
    return element :: rest

/-- The array that the offset at `position` leads to, with elements `stride` bytes apart that take
`footprint` bytes of memory. -/
def array {α : Type} (body : Body) (read : Body → Nat → Except Error α)
    (stride footprint position : Nat) : Except Error (List α) := do
  let content ← body.follow position
  let count ← content.offset 0
  let content ← content.inner 32
  reserve count footprint
  content.elements read stride 0 count

end Body

end EvmProbe.Abi
