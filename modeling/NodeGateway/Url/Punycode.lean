import NodeGateway.Number.Numeral

/-!
# Punycode

Labels of names in ASCII: the ASCII characters of a label come first, and a row of small letters and
digits behind the last dash tells which other characters stand where. Each of these is a number that
says how far to go from the character before it, written so that its own digits show where it ends.

## Main definitions

* `Punycode.encode` and `Punycode.decode?`, on code points.
-/

namespace NodeGateway.Punycode

/-- How many digits there are. -/
def base : Nat := 36

/-- The first code point that has to be encoded. -/
def firstEncoded : Nat := 128

/-- The threshold at a place, the first place being `base`: a digit below it is the last one. -/
def threshold (bias place : Nat) : Nat := min 26 (max 1 (place - bias))

/-- The digit for a value. -/
def digit (value : Nat) : Char :=
  if value < 26 then Char.ofNat ('a'.toNat + value) else Char.ofNat ('0'.toNat + (value - 26))

/-- The value of a digit. -/
def digitValue? (c : Char) : Option Nat :=
  if 'a' ≤ c ∧ c ≤ 'z' then some (c.toNat - 'a'.toNat)
  else (Numeral.digitValue? c).map (26 + ·)

/-- Divides the difference until it is small, counting the places. -/
def reduce : (fuel delta : Nat) → (place : Nat) → Nat × Nat
  | 0, delta, place => (delta, place)
  | fuel + 1, delta, place =>
    if delta ≤ 455 then (delta, place) else reduce fuel (delta / 35) (place + base)

/-- The bias behind a difference, given how many characters have been placed by then. -/
def adapt (delta count : Nat) (isFirst : Bool) : Nat :=
  let delta := if isFirst then delta / 700 else delta / 2
  let (delta, place) := reduce 64 (delta + delta / count) 0
  place + 36 * delta / (delta + 38)

/-- A difference as digits. -/
def digits (bias : Nat) : (fuel place delta : Nat) → List Char
  | 0, _, _ => []
  | fuel + 1, place, delta =>
    let t := threshold bias place
    if delta < t then [digit delta]
    else digit (t + (delta - t) % (base - t))
      :: digits bias fuel (place + base) ((delta - t) / (base - t))

/-- How far encoding has come. -/
structure Progress where
  delta : Nat := 0
  bias : Nat := 72
  placed : Nat
  isFirst : Bool := true
  written : List Char := []

/-- Goes on past one character of the label while the code point `n` is being placed. -/
def Progress.pass (n : Nat) (p : Progress) (c : Nat) : Progress :=
  if c < n then { p with delta := p.delta + 1 }
  else if c = n then
    { delta := 0, bias := adapt p.delta (p.placed + 1) p.isFirst, placed := p.placed + 1
      isFirst := false, written := p.written ++ digits p.bias 64 base p.delta }
  else p

/-- Places the code points of a label, the least first, from `n` on. -/
def placeFrom (label : List Nat) : List Nat → (n : Nat) → Progress → Progress
  | [], _, p => p
  | m :: rest, n, p =>
    let p := label.foldl (Progress.pass m) { p with delta := p.delta + (m - n) * (p.placed + 1) }
    placeFrom label rest (m + 1) { p with delta := p.delta + 1 }

/-- A list of code points in order and without repetitions. -/
def distinct (points : List Nat) : List Nat := (points.mergeSort (· ≤ ·)).eraseReps

/-- **Encodes** a label. -/
def encode (label : List Nat) : List Char :=
  let basic := label.filter (· < firstEncoded)
  let others := distinct (label.filter (firstEncoded ≤ ·))
  let front := if basic.isEmpty then [] else basic.map Char.ofNat ++ ['-']
  front ++ (placeFrom label others firstEncoded { placed := basic.length }).written

/-- The numbers that occur are below this bound. -/
def numberBound : Nat := Nat.pow 2 32

/-- Reads a difference: its value, and the digits behind it. -/
def readDelta (bias : Nat) : (place weight : Nat) → List Char → Option (Nat × List Char)
  | _, _, [] => none
  | place, weight, c :: rest => do
    let value ← digitValue? c
    let t := threshold bias place
    if value < t then return (value * weight, rest)
    guard (weight * (base - t) < numberBound)
    let (more, rest) ← readDelta bias (place + base) (weight * (base - t)) rest
    return (value * weight + more, rest)

/-- Puts the encoded characters into a label. At most `fuel` of them are read. -/
def decodeFrom : (fuel n index bias : Nat) → (isFirst : Bool) → List Nat → List Char →
    Option (List Nat)
  | _, _, _, _, _, label, [] => some label
  | 0, _, _, _, _, _, _ => none
  | fuel + 1, n, index, bias, isFirst, label, text => do
    let (delta, rest) ← readDelta bias base 1 text
    guard (index + delta < numberBound)
    let count := label.length + 1
    let n := n + (index + delta) / count
    let index := (index + delta) % count
    guard (n < 0x110000)
    decodeFrom fuel n (index + 1) (adapt delta count isFirst) false
      (label.take index ++ n :: label.drop index) rest

/-- **Decodes** a label. -/
def decode? (text : List Char) : Option (List Nat) :=
  let behind := (text.reverse.takeWhile (· != '-')).reverse
  let front := (text.take (text.length - behind.length)).dropLast
  decodeFrom text.length firstEncoded 0 72 true (front.map Char.toNat) behind

end NodeGateway.Punycode
