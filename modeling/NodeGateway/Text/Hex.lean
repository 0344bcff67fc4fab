/-!
# Hexadecimal Text

Byte strings and their written form: two lower-case digits a byte, behind the mark `0x`.
Reading is more generous than writing. The mark may be missing or written `0X`, and letters
may be of either case; an odd number of digits or a character that is no digit is refused.

## Main definitions

* `Hex.encode` and `Hex.decode?`, on lists of characters, without the mark;
* `Hex.text`, the written form with its mark, and `Hex.read?`, which takes every spelling.

`Hex.decode?_encode` says that what is written reads back.
-/

namespace NodeGateway

/-- A **byte string**, first byte first. -/
abbrev Bytes := List UInt8

namespace Hex

/-- The lower-case **digit** for a value below sixteen. -/
def digit (n : Nat) : Char :=
  match n with
  | 0 => '0' | 1 => '1' | 2 => '2' | 3 => '3' | 4 => '4' | 5 => '5' | 6 => '6' | 7 => '7'
  | 8 => '8' | 9 => '9' | 10 => 'a' | 11 => 'b' | 12 => 'c' | 13 => 'd' | 14 => 'e' | _ => 'f'

/-- The **value of a digit** of either case, or nothing for any other character. -/
def digitValue? (c : Char) : Option Nat :=
  if '0' ≤ c ∧ c ≤ '9' then some (c.toNat - '0'.toNat)
  else if 'a' ≤ c ∧ c ≤ 'f' then some (c.toNat - 'a'.toNat + 10)
  else if 'A' ≤ c ∧ c ≤ 'F' then some (c.toNat - 'A'.toNat + 10)
  else none

/-- Whether a character is a hexadecimal digit. -/
def isDigit (c : Char) : Bool := (digitValue? c).isSome

/-- Two digits a byte, the high half first. -/
def encode : Bytes → List Char
  | [] => []
  | b :: bs => digit (b.toNat / 16) :: digit (b.toNat % 16) :: encode bs

/-- Reads pairs of digits; an odd count or a foreign character is refused. -/
def decode? : List Char → Option Bytes
  | [] => some []
  | [_] => none
  | high :: low :: rest => do
    let h ← digitValue? high
    let l ← digitValue? low
    let bytes ← decode? rest
    return UInt8.ofNat (16 * h + l) :: bytes

/-- The text without a leading `0x` or `0X`. -/
def withoutMark : List Char → List Char
  | '0' :: 'x' :: rest => rest
  | '0' :: 'X' :: rest => rest
  | text => text

/-- The written form of a byte string: `0x` and its digits. -/
def text (bytes : Bytes) : String := String.ofList ('0' :: 'x' :: encode bytes)

/-- Reads a byte string in any spelling, with or without the mark. -/
def read? (s : String) : Option Bytes := decode? (withoutMark s.toList)

/-- The digits of a number without leading zeros; zero is written `0`. -/
def natDigits (n : Nat) : List Char := Nat.toDigits 16 n

/-- The **quantity** form of a number: `0x` and its minimal digits. -/
def quantity (n : Nat) : String := String.ofList ('0' :: 'x' :: natDigits n)

/-- The value of a run of hexadecimal digits, the empty run being zero. -/
def natOfDigits? (digits : List Char) : Option Nat :=
  digits.foldlM (fun n c => (digitValue? c).map (16 * n + ·)) 0

theorem digitValue?_digit {n : Nat} (h : n < 16) : digitValue? (digit n) = some n := by
  match n, h with
  | 0, _ | 1, _ | 2, _ | 3, _ | 4, _ | 5, _ | 6, _ | 7, _ => rfl
  | 8, _ | 9, _ | 10, _ | 11, _ | 12, _ | 13, _ | 14, _ | 15, _ => rfl
  | n + 16, h => omega

/-- What is written reads back. -/
theorem decode?_encode (bytes : Bytes) : decode? (encode bytes) = some bytes := by
  induction bytes with
  | nil => rfl
  | cons b bs ih =>
    have hlt : b.toNat < 256 := b.toNat_lt
    have hb : UInt8.ofNat (16 * (b.toNat / 16) + b.toNat % 16) = b := by
      rw [Nat.div_add_mod]; exact UInt8.ofNat_toNat
    simp only [encode, decode?, digitValue?_digit (show b.toNat / 16 < 16 by omega),
      digitValue?_digit (Nat.mod_lt b.toNat (by decide : 16 > 0)), ih, Option.bind_eq_bind,
      Option.bind_some, hb, Option.pure_def]

/-- Two digits are written for every byte. -/
theorem length_encode (bytes : Bytes) : (encode bytes).length = 2 * bytes.length := by
  induction bytes with
  | nil => rfl
  | cons b bs ih => simp [encode, ih]; omega

end Hex

end NodeGateway
