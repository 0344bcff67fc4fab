import NodeGateway.Number.Binary64

/-!
# Decimal Text of Binary64 Numbers

Reading takes an optional sign and then a decimal with a point and an exponent, each optional,
or one of the words for infinity and for no number in any ASCII case. The value read is the
exact decimal, rounded once.

Writing takes the **shortest** decimal that reads back as the same number, the nearest of those,
and always writes it positionally, without an exponent and without a fraction of zero.
-/

namespace NodeGateway.Decimal

/-- A **decimal** `digits * 10 ^ exponent` without its sign. -/
structure Unsigned where
  digits : Nat
  exponent : Int
  deriving DecidableEq, Repr

/-- The number of decimal digits of a natural number, zero having none. -/
def digitCount (n : Nat) : Nat := if n = 0 then 0 else (Nat.toDigits 10 n).length

/-- The binary64 number nearest to a decimal. Exponents far outside the range are decided without
computing the power. -/
def Unsigned.nearest (negative : Bool) (d : Unsigned) : Binary64 :=
  if d.digits = 0 then .finite negative 0 0
  else
    let magnitude := d.exponent + digitCount d.digits
    if 400 < magnitude then .infinite negative
    else if magnitude < -400 then .finite negative 0 0
    else if 0 ≤ d.exponent then
      Binary64.nearest negative (d.digits * Nat.pow 10 d.exponent.toNat) 1
    else Binary64.nearest negative d.digits (Nat.pow 10 (-d.exponent).toNat)

/-- The exponent part `e5`, `E+5`, `e-5` of a decimal, or nothing if other text follows. -/
def exponentPart? : List Char → Option Int
  | [] => some 0
  | c :: rest =>
    if c = 'e' ∨ c = 'E' then
      match rest with
      | '-' :: digits => (Numeral.natural? digits).map fun n => -(n : Int)
      | '+' :: digits => (Numeral.natural? digits).map Int.ofNat
      | digits => (Numeral.natural? digits).map Int.ofNat
    else none

/-- Reads a decimal without its sign: digits, a point and an exponent, with at least one digit
before or behind the point. -/
def unsigned? (text : List Char) : Option Unsigned := do
  let whole := text.takeWhile Numeral.isDigit
  let rest := text.dropWhile Numeral.isDigit
  let (fraction, rest) := match rest with
    | '.' :: rest => (rest.takeWhile Numeral.isDigit, rest.dropWhile Numeral.isDigit)
    | rest => ([], rest)
  let digits ← Numeral.natural? (whole ++ fraction)
  let exponent ← exponentPart? rest
  return ⟨digits, exponent - fraction.length⟩

/-- Reads what stands behind the sign. -/
def magnitude? (negative : Bool) (text : List Char) : Option Binary64 :=
  let word := String.ofList (text.map Char.toLower)
  if word = "inf" ∨ word = "infinity" then some (.infinite negative)
  else if word = "nan" then some .nan
  else (unsigned? text).map (·.nearest negative)

/-- Reads a binary64 number from the whole of a text. -/
def read? : List Char → Option Binary64
  | '-' :: rest => magnitude? true rest
  | '+' :: rest => magnitude? false rest
  | text => magnitude? false text

/-- The position of the leading digit of `num / den`: the greatest `p` with
`10 ^ p ≤ num / den`, searched upwards from `p` for at most `fuel` places. -/
def leadingPlace (num den : Nat) (p : Int) : Nat → Int
  | 0 => p
  | fuel + 1 =>
    let above := p + 1
    let reached :=
      if 0 ≤ above then den * Nat.pow 10 above.toNat ≤ num
      else den ≤ num * Nat.pow 10 (-above).toNat
    if reached then leadingPlace num den above fuel else p

/-- The two decimals next to `num / den` whose last digit stands at place `p`, the nearer first;
of two equally near ones the one with the even last digit comes first. -/
def neighbours (num den : Nat) (p : Int) : List Unsigned :=
  let (n, d) :=
    if 0 ≤ p then (num, den * Nat.pow 10 p.toNat) else (num * Nat.pow 10 (-p).toNat, den)
  let low := n / d
  let near := Binary64.divNearestEven n d
  let far := if near = low then low + 1 else low
  [⟨near, p⟩, ⟨far, p⟩]

/-- The **shortest** decimal that reads back as the positive number `m * 2 ^ e`, tried with one
digit first and with `fuel` digits at most. -/
def shortestFrom (m : Nat) (e : Int) (lead : Int) (count : Nat) : Nat → Unsigned
  | 0 => ⟨m, e⟩
  | fuel + 1 =>
    let (num, den) := Binary64.fraction m e
    let target := Binary64.nearest false num den
    match (neighbours num den (lead - count)).find? (·.nearest false = target) with
    | some d => d
    | none => shortestFrom m e lead (count + 1) fuel

/-- The shortest decimal of a positive finite number. Seventeen digits always suffice. -/
def shortest (m : Nat) (e : Int) : Unsigned :=
  let (num, den) := Binary64.fraction m e
  shortestFrom m e (leadingPlace num den (-400) 800) 0 20

/-- A decimal without trailing zeros in its digits. -/
def Unsigned.normalize (d : Unsigned) : Nat → Unsigned
  | 0 => d
  | fuel + 1 =>
    if d.digits % 10 = 0 ∧ d.digits ≠ 0 then
      Unsigned.normalize ⟨d.digits / 10, d.exponent + 1⟩ fuel
    else d

/-- The positional text of a decimal, without an exponent. -/
def Unsigned.positional (d : Unsigned) : List Char :=
  let d := d.normalize 25
  let digits := Nat.toDigits 10 d.digits
  if 0 ≤ d.exponent then digits ++ List.replicate d.exponent.toNat '0'
  else
    let places := (-d.exponent).toNat
    let padded := List.replicate (places + 1 - digits.length) '0' ++ digits
    padded.take (padded.length - places) ++ '.' :: padded.drop (padded.length - places)

/-- The text of a binary64 number: the shortest digits that read back, always positional. -/
def render : Binary64 → String
  | .nan => "NaN"
  | .infinite negative => if negative then "-inf" else "inf"
  | .finite negative m e =>
    let sign := if negative then ['-'] else []
    if m = 0 then String.ofList (sign ++ ['0'])
    else String.ofList (sign ++ (shortest m e).positional)

end NodeGateway.Decimal
