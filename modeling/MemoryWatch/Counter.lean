/-!
# Counters on the wire

An event counter is read and written as eight bytes, least significant first.
-/

namespace MemoryWatch

namespace Counter

/-- The number of bytes of a counter. -/
def size : Nat := 8

/-- The largest value that an event counter can hold: one less than the largest
word. -/
def largest : Nat := UInt64.size - 2

/-- The lowest `width` bytes of a number, least significant first. -/
def littleEndian : Nat → Nat → List UInt8
  | 0, _ => []
  | width + 1, value =>
    UInt8.ofNat (value % 256) :: littleEndian width (value / 256)

/-- The number with the given bytes, least significant first. -/
def ofLittleEndian : List UInt8 → Nat
  | [] => 0
  | byte :: rest => byte.toNat + 256 * ofLittleEndian rest

/-- The bytes of a counter. -/
def toBytes (counter : UInt64) : List UInt8 :=
  littleEndian size counter.toNat

/-- The counter with the given bytes. -/
def ofBytes (bytes : List UInt8) : UInt64 :=
  UInt64.ofNat (ofLittleEndian bytes)

@[simp]
theorem littleEndian_length (width value : Nat) :
    (littleEndian width value).length = width := by
  induction width generalizing value with
  | zero => rfl
  | succ width ih => simp [littleEndian, ih]

@[simp]
theorem toBytes_length (counter : UInt64) : (toBytes counter).length = size :=
  littleEndian_length _ _

end Counter

end MemoryWatch
