/-!
# Decimal Numerals

Reading whole numbers from text. Only the ten ASCII digits count as digits, leading zeros are
allowed, and a value outside the wanted range is refused rather than cut to size.
-/

namespace NodeGateway.Numeral

/-- The value of one decimal digit. -/
def digitValue? (c : Char) : Option Nat :=
  if '0' ≤ c ∧ c ≤ '9' then some (c.toNat - '0'.toNat) else none

/-- Whether a character is a decimal digit. -/
def isDigit (c : Char) : Bool := (digitValue? c).isSome

/-- The number that a run of digits, read behind the value `n`, denotes. -/
def valueFrom (n : Nat) : List Char → Option Nat
  | [] => some n
  | c :: rest =>
    match digitValue? c with
    | some d => valueFrom (10 * n + d) rest
    | none => none

/-- The number denoted by one or more digits, and by nothing else. -/
def natural? : List Char → Option Nat
  | [] => none
  | digits => valueFrom 0 digits

/-- Reads an unsigned number below `bound`: an optional plus sign, then digits. -/
def unsigned? (bound : Nat) : List Char → Option Nat
  | '+' :: digits => (natural? digits).filter (· < bound)
  | digits => (natural? digits).filter (· < bound)

/-- Reads a signed number from `-bound` up to but without `bound`. -/
def signed? (bound : Nat) : List Char → Option Int
  | '-' :: digits => ((natural? digits).filter (· ≤ bound)).map fun n => -(n : Int)
  | '+' :: digits => ((natural? digits).filter (· < bound)).map Int.ofNat
  | digits => ((natural? digits).filter (· < bound)).map Int.ofNat

/-- The first number that no longer fits into 64 bits one of which is a sign. -/
def bound63 : Nat := Nat.pow 2 63

/-- The first number that no longer fits into 64 bits. -/
def bound64 : Nat := Nat.pow 2 64

/-- The first number that no longer fits into 128 bits. -/
def bound128 : Nat := Nat.pow 2 128

/-- The first number that no longer fits into 256 bits. -/
def bound256 : Nat := Nat.pow 2 256

/-- A number cut to the greatest one below `bound`. -/
def clamp (bound n : Nat) : Nat := min n (bound - 1)

end NodeGateway.Numeral
