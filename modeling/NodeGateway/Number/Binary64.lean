import NodeGateway.Number.Numeral

/-!
# Binary64 Numbers

Floating-point numbers of 64 bits as what they denote: a sign, a whole mantissa and a power of
two, an infinity, or no number. Every operation is exact arithmetic on natural numbers followed
by one **rounding** (`Binary64.nearest`) to the nearest value of 53 bits, a tie going to the even
mantissa. Nothing here uses the machine's own floating-point unit, so each result can be reasoned
about.

## Main definitions

* `Binary64.nearest`, the rounding of a quotient of two natural numbers;
* `Binary64.ofNat`, `Binary64.mul` and `Binary64.div`;
* `Binary64.toNatFloor` and `Binary64.toNatRound`, the two ways back to whole numbers.
-/

namespace NodeGateway

/-- A **binary64 number**. `finite negative m e` stands for `m * 2 ^ e` with its sign; zero keeps
its sign too. -/
inductive Binary64 where
  | finite (negative : Bool) (mantissa : Nat) (exponent : Int)
  | infinite (negative : Bool)
  | nan
  deriving DecidableEq, Repr, Inhabited

namespace Binary64

/-- The quotient of two natural numbers rounded to a whole number, a tie to the even one. -/
def divNearestEven (num den : Nat) : Nat :=
  let q := num / den
  let r := num % den
  if 2 * r < den then q
  else if den < 2 * r then q + 1
  else if q % 2 = 0 then q else q + 1

/-- The quotient of two natural numbers rounded to a whole number, a tie upwards. -/
def divNearestUp (num den : Nat) : Nat := (2 * num + den) / (2 * den)

/-- The fraction `num / den` divided by `2 ^ e`, as numerator and denominator. -/
def scale (num den : Nat) (e : Int) : Nat × Nat :=
  if 0 ≤ e then (num, den * Nat.pow 2 e.toNat) else (num * Nat.pow 2 (-e).toNat, den)

/-- The least exponent of a finite number. -/
def minExponent : Int := -1074

/-- The greatest exponent of a finite number with a mantissa of 53 bits. -/
def maxExponent : Int := 971

/-- The exponent at which `num / den` has a whole part of 53 bits, or the least exponent if the
number is too small for that. -/
def exponentFor (num den : Nat) : Int :=
  let e : Int := (Nat.log2 num : Int) - Nat.log2 den - 53
  let (n, d) := scale num den e
  max minExponent (if n / d < Nat.pow 2 53 then e else e + 1)

/-- The binary64 number **nearest** to `num / den`, a tie going to the even mantissa; what lies
beyond the greatest finite number becomes infinite. -/
def nearest (negative : Bool) (num den : Nat) : Binary64 :=
  if num = 0 then .finite negative 0 0
  else
    let e := exponentFor num den
    let (n, d) := scale num den e
    let m := divNearestEven n d
    let (m, e) := if m = Nat.pow 2 53 then (Nat.pow 2 52, e + 1) else (m, e)
    if maxExponent < e then .infinite negative else .finite negative m e

/-- The number nearest to a natural number. -/
def ofNat (n : Nat) : Binary64 := nearest false n 1

/-- The value `m * 2 ^ e` as numerator and denominator. -/
def fraction (m : Nat) (e : Int) : Nat × Nat :=
  if 0 ≤ e then (m * Nat.pow 2 e.toNat, 1) else (m, Nat.pow 2 (-e).toNat)

/-- The rounded product. Infinity times zero is no number. -/
def mul : Binary64 → Binary64 → Binary64
  | .finite s m e, .finite t n f =>
    let (num, den) := fraction (m * n) (e + f)
    nearest (s != t) num den
  | .infinite s, .finite t n _ => if n = 0 then .nan else .infinite (s != t)
  | .finite s m _, .infinite t => if m = 0 then .nan else .infinite (s != t)
  | .infinite s, .infinite t => .infinite (s != t)
  | .nan, _ => .nan
  | _, .nan => .nan

/-- The rounded quotient. Zero by zero and infinity by infinity are no numbers. -/
def div : Binary64 → Binary64 → Binary64
  | .finite s m e, .finite t n f =>
    if n = 0 then (if m = 0 then .nan else .infinite (s != t))
    else
      let (a, b) := fraction m e
      let (c, d) := fraction n f
      nearest (s != t) (a * d) (b * c)
  | .infinite s, .finite t _ _ => .infinite (s != t)
  | .finite s _ _, .infinite t => .finite (s != t) 0 0
  | .infinite _, .infinite _ => .nan
  | .nan, _ => .nan
  | _, .nan => .nan

/-- Whether a number is neither infinite nor undefined. -/
def isFinite : Binary64 → Bool
  | .finite .. => true
  | _ => false

/-- Whether a number is at least one. Undefined numbers are not. -/
def atLeastOne : Binary64 → Bool
  | .finite negative m e =>
    let (num, den) := fraction m e
    !negative && den ≤ num
  | .infinite negative => !negative
  | .nan => false

/-- The whole part, cut to the range from zero to `bound - 1`; an undefined number gives zero. -/
def toNatFloor (bound : Nat) : Binary64 → Nat
  | .finite negative m e =>
    let (num, den) := fraction m e
    if negative then 0 else Numeral.clamp bound (num / den)
  | .infinite negative => if negative then 0 else bound - 1
  | .nan => 0

/-- The nearest whole number, a half going away from zero, cut to the range from zero to
`bound - 1`; an undefined number gives zero. -/
def toNatRound (bound : Nat) : Binary64 → Nat
  | .finite negative m e =>
    let (num, den) := fraction m e
    if negative then 0 else Numeral.clamp bound (divNearestUp num den)
  | .infinite negative => if negative then 0 else bound - 1
  | .nan => 0

/-- The number with its sign turned. -/
def neg : Binary64 → Binary64
  | .finite negative m e => .finite (!negative) m e
  | .infinite negative => .infinite (!negative)
  | .nan => .nan

end Binary64

end NodeGateway
