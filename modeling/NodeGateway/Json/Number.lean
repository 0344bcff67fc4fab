import NodeGateway.Json.Value
import NodeGateway.Number.Binary64

/-!
# Numbers in JSON Documents

The binary64 value of a number token. It is found in **two roundings**: the digits are collected as
a whole number of at most 64 bits, that number is rounded, then multiplied with or divided by a
power of ten, and rounded again. The value may therefore differ from the nearest one in its last
bit. Digits that come when the whole number is full are not collected; in front of the point they
still count as places. A number too great to be finite has no value.
-/

namespace NodeGateway.Json

/-- The digits of a number **as far as they fit** into 64 bits, and the power of ten that goes with
them. -/
structure Scaled where
  digits : Nat := 0
  exponent : Int := 0
  deriving DecidableEq, Repr

namespace Scaled

/-- The number with one more digit, if that fits. -/
def push? (s : Scaled) (c : Char) : Option Scaled := do
  let d ← Numeral.digitValue? c
  if 10 * s.digits + d < Numeral.bound64 then some { s with digits := 10 * s.digits + d } else none

/-- Takes the digits in front of the point. -/
def takeWhole : Scaled → List Char → Scaled
  | s, [] => s
  | s, c :: rest =>
    match s.push? c with
    | some s => takeWhole s rest
    | none => { s with exponent := s.exponent + (rest.length + 1) }

/-- Takes the digits behind the point. -/
def takeFraction : Scaled → List Char → Scaled
  | s, [] => s
  | s, c :: rest =>
    match s.push? c with
    | some s => takeFraction { s with exponent := s.exponent - 1 } rest
    | none => s

/-- The greatest power of ten below the greatest binary64 number. -/
def greatestPower : Nat := 308

/-- A power of ten as a binary64 number. -/
def power (n : Nat) : Binary64 := Binary64.ofNat (Nat.pow 10 n)

/-- Divides by a power of ten, in steps of the greatest one. After `fuel` steps nothing is left of
a number of 64 bits. -/
def divide (x : Binary64) : (fuel n : Nat) → Binary64
  | 0, _ => Binary64.ofNat 0
  | fuel + 1, n =>
    if n ≤ greatestPower then x.div (power n)
    else divide (x.div (power greatestPower)) fuel (n - greatestPower)

/-- The value, if it is finite. -/
def value? (s : Scaled) : Option Binary64 :=
  let x := Binary64.ofNat s.digits
  if s.digits = 0 then some x
  else if 0 ≤ s.exponent then
    if s.exponent.toNat ≤ greatestPower then
      (some (x.mul (power s.exponent.toNat))).filter (·.isFinite)
    else none
  else some (divide x 4 (-s.exponent).toNat)

end Scaled

/-- The exponent that is written behind the letter `e`. -/
def exponentOf (text : List Char) : Int :=
  match text with
  | '-' :: digits => -(Int.ofNat ((Numeral.natural? digits).getD 0))
  | '+' :: digits => Int.ofNat ((Numeral.natural? digits).getD 0)
  | digits => Int.ofNat ((Numeral.natural? digits).getD 0)

/-- The value of a number token without its sign. -/
def magnitude? (token : List Char) : Option Binary64 :=
  let isMark := fun c => c = 'e' || c = 'E'
  let mantissa := token.takeWhile fun c => !isMark c
  let exponent := exponentOf ((token.dropWhile fun c => !isMark c).drop 1)
  let whole := mantissa.takeWhile (· != '.')
  let fraction := (mantissa.dropWhile (· != '.')).drop 1
  let s := (({} : Scaled).takeWhole whole).takeFraction fraction
  Scaled.value? { s with exponent := s.exponent + exponent }

/-- The **value of a number token**, if it is finite. -/
def numberValue? (token : String) : Option Binary64 :=
  match token.toList with
  | '-' :: rest => (magnitude? rest).map Binary64.neg
  | text => magnitude? text

end NodeGateway.Json
