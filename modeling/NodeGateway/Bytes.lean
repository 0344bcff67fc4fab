import NodeGateway.Text.Hex

/-!
# Byte Strings of Fixed Length

Addresses and hashes, and numbers as big-endian byte strings.
-/

namespace NodeGateway

/-- A byte string of **exactly** `size` bytes. -/
abbrev FixedBytes (size : Nat) := { bytes : Bytes // bytes.length = size }

/-- The **address** of an account. -/
abbrev Address := FixedBytes 20

/-- A **hash**. -/
abbrev Hash := FixedBytes 32

namespace Bytes

/-- The big-endian bytes of a number, cut to the lowest `size` of them. -/
def ofNat : (size : Nat) → Nat → Bytes
  | 0, _ => []
  | size + 1, n => ofNat size (n / 256) ++ [UInt8.ofNat (n % 256)]

/-- The number that big-endian bytes denote. -/
def toNat (bytes : Bytes) : Nat := bytes.foldl (fun n b => 256 * n + b.toNat) 0

/-- A number has as many bytes as asked for. -/
theorem length_ofNat (size n : Nat) : (ofNat size n).length = size := by
  induction size generalizing n with
  | zero => rfl
  | succ size ih => simp [ofNat, ih]

end Bytes

namespace FixedBytes

/-- The bytes of a number. -/
def ofNat (size n : Nat) : FixedBytes size := ⟨Bytes.ofNat size n, Bytes.length_ofNat size n⟩

/-- The number that the bytes denote. -/
def toNat (bytes : FixedBytes size) : Nat := Bytes.toNat bytes.val

/-- The written form. -/
def text (bytes : FixedBytes size) : String := Hex.text bytes.val

/-- A byte string, if it has the right length. -/
def ofBytes? (size : Nat) (bytes : Bytes) : Option (FixedBytes size) :=
  if h : bytes.length = size then some ⟨bytes, h⟩ else none

/-- Reads the written form in any spelling. -/
def read? (size : Nat) (s : String) : Option (FixedBytes size) :=
  (Hex.read? s).bind (ofBytes? size)

end FixedBytes

end NodeGateway
