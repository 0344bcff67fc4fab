import NodeGateway.Number.Numeral
import NodeGateway.Text.Blank
import NodeGateway.Text.Quoted
import NodeGateway.Time

/-!
# Durations as People Write Them

A duration is written as one or more **terms**, such as `1h 30m` or `2.5 seconds`: a number, perhaps
with a fraction, and a unit. Terms add up. Blanks may stand between terms, between a number and its
unit, and between digits. A single `0` needs no unit.

Every amount has to be a whole number of nanoseconds, and of seconds for units of an hour and more,
and fit into 64 bits; nothing is rounded.

The text is read by a machine that takes one character at a time (`Scan.step`), so an error can say
at which byte it arose.

## Main definitions

* `TimeUnit`, and its spellings `TimeUnit.ofName?`;
* `DurationError` and its message;
* `Duration.read`.
-/

namespace NodeGateway

/-- A **unit** of time. A month is 30.44 days and a year is 365.25 days. -/
inductive TimeUnit where
  | nanosecond
  | microsecond
  | millisecond
  | second
  | minute
  | hour
  | day
  | week
  | month
  | year
  deriving DecidableEq, Repr

namespace TimeUnit

/-- The unit with the given spelling. -/
def ofName? (name : String) : Option TimeUnit :=
  if ["nanos", "nsec", "ns"].contains name then some nanosecond
  else if ["usec", "us", "µs"].contains name then some microsecond
  else if ["millis", "msec", "ms"].contains name then some millisecond
  else if ["seconds", "second", "secs", "sec", "s"].contains name then some second
  else if ["minutes", "minute", "min", "mins", "m"].contains name then some minute
  else if ["hours", "hour", "hr", "hrs", "h"].contains name then some hour
  else if ["days", "day", "d"].contains name then some day
  else if ["weeks", "week", "wk", "wks", "w"].contains name then some week
  else if ["months", "month", "M"].contains name then some month
  else if ["years", "year", "yrs", "yr", "y"].contains name then some year
  else none

/-- The seconds of one unit, and the nanoseconds of one unit that is shorter than a second. -/
def size : TimeUnit → Nat × Nat
  | nanosecond => (0, 1)
  | microsecond => (0, 1000)
  | millisecond => (0, 1000000)
  | second => (1, 0)
  | minute => (60, 0)
  | hour => (3600, 0)
  | day => (86400, 0)
  | week => (604800, 0)
  | month => (2630016, 0)
  | year => (31557600, 0)

/-- What a fraction of one unit is counted in: seconds, or nanoseconds. A nanosecond has no
fraction. -/
def fractionSize? : TimeUnit → Option (Nat × Nat)
  | nanosecond => none
  | second => some (0, 1000000000)
  | minute => some (0, 60000000000)
  | unit => some unit.size

end TimeUnit

/-- Why a text is **no duration**. Places are counted in bytes. -/
inductive DurationError where
  | empty
  | numberExpected (place : Nat)
  | invalidCharacter (place : Nat)
  | unknownUnit (name : String) (number : Nat)
  | overflow
  deriving DecidableEq, Repr

/-- The wording of why a text is no duration. -/
def DurationError.message : DurationError → String
  | empty => "value was empty"
  | numberExpected place => "expected number at " ++ toString place
  | invalidCharacter place => "invalid character at " ++ toString place
  | unknownUnit name number =>
    if name.isEmpty then
      let n := toString number
      "time unit needed, for example " ++ n ++ "sec or " ++ n ++ "ms"
    else "unknown time unit " ++ Text.quote name ++ ", supported units: ns, us/µs, ms, sec, min, "
      ++ "hours, days, weeks, months, years (and few variations)"
  | overflow => "number is too large or cannot be represented without a lack of precision "
      ++ "(values below 1ns are not supported)"

namespace DurationText

/-- A number that has to fit into 64 bits. -/
def fit (n : Nat) : Except DurationError Nat :=
  if n < Numeral.bound64 then .ok n else .error .overflow

/-- The **total** of the terms so far. -/
structure Total where
  seconds : Nat := 0
  nanos : Nat := 0
  deriving DecidableEq, Repr

namespace Total

/-- The total with more seconds and nanoseconds. -/
def add (total : Total) (seconds nanos : Nat) : Except DurationError Total := do
  let nanos ← fit (total.nanos + nanos)
  let seconds ← fit (seconds + nanos / 1000000000)
  return ⟨← fit (total.seconds + seconds), nanos % 1000000000⟩

/-- The total with an amount of some size added. -/
def addAmount (total : Total) (n : Nat) (size : Nat × Nat) : Except DurationError Total := do
  total.add (← fit (n * size.1)) (← fit (n * size.2))

/-- A part of a product that has to be whole. -/
def quotient (n size denominator : Nat) : Except DurationError Nat := do
  let product ← fit (n * size)
  if product % denominator = 0 then return product / denominator else throw .overflow

/-- The total with the fraction `numerator / denominator` of a unit added. -/
def addFraction (total : Total) (numerator denominator : Nat) (unit : TimeUnit) :
    Except DurationError Total := do
  match unit.fractionSize? with
  | none => throw .overflow
  | some size =>
    total.add (← quotient numerator size.1 denominator) (← quotient numerator size.2 denominator)

/-- The total with a **term** added. -/
def addTerm (total : Total) (n : Nat) (fraction : Option (Nat × Nat)) (name : String) :
    Except DurationError Total :=
  match TimeUnit.ofName? name with
  | none => .error (.unknownUnit name n)
  | some unit => do
    let total ← total.addAmount n unit.size
    match fraction with
    | some (numerator, denominator) => total.addFraction numerator denominator unit
    | none => return total

/-- The total as a duration. -/
def duration (total : Total) : Duration := ⟨total.seconds * 1000000000 + total.nanos⟩

end Total

/-- What the machine is **reading**. -/
inductive Stage where
  /-- It waits for a number, since the byte `since`; `first` if there was no term yet. -/
  | waiting (since : Nat) (first : Bool)
  /-- The digits of a number. -/
  | whole (n : Nat)
  /-- The digits of a fraction; a foreign character is reported at the byte `shown`. -/
  | fraction (n numerator denominator shown : Nat)
  /-- The letters of a unit, the last one first. -/
  | unit (n : Nat) (fraction : Option (Nat × Nat)) (letters : List Char)
  deriving Repr

/-- The **state** of the machine: what it is reading, at which byte, and the total so far. -/
structure Scan where
  stage : Stage := .waiting 0 true
  place : Nat := 0
  total : Total := {}
  deriving Repr

/-- Whether a character may stand in the name of a unit. -/
def isLetter (c : Char) : Bool := c.isAlpha || c = 'µ'

namespace Scan

/-- The stage behind a character of a number. -/
def inWhole (place n : Nat) (c : Char) : Except DurationError Stage :=
  match Numeral.digitValue? c with
  | some d => do return .whole (← fit (10 * n + d))
  | none =>
    if Text.isBlank c then .ok (.whole n)
    else if isLetter c then .ok (.unit n none [c])
    else if c = '.' then .ok (.fraction n 0 1 place)
    else .error (.invalidCharacter place)

/-- The stage behind a character of a fraction. -/
def inFraction (place n numerator denominator shown : Nat) (c : Char) :
    Except DurationError Stage :=
  match Numeral.digitValue? c with
  | some d => do
    let denominator ← fit (10 * denominator)
    return .fraction n (← fit (10 * numerator + d)) denominator (place + 1)
  | none =>
    if Text.isBlank c then .ok (.fraction n numerator denominator (place + c.utf8Size))
    else if isLetter c && denominator != 1 then
      .ok (.unit n (some (numerator, denominator)) [c])
    else .error (.invalidCharacter shown)

/-- Takes one character. -/
def step (scan : Scan) (c : Char) : Except DurationError Scan := do
  let next := scan.place + c.utf8Size
  match scan.stage with
  | .waiting since first =>
    match Numeral.digitValue? c with
    | some d => return { scan with stage := .whole d, place := next }
    | none =>
      if Text.isBlank c then return { scan with stage := .waiting since first, place := next }
      else throw (.numberExpected since)
  | .whole n => return { scan with stage := ← inWhole scan.place n c, place := next }
  | .fraction n numerator denominator shown =>
    return { scan with
      stage := ← inFraction scan.place n numerator denominator shown c, place := next }
  | .unit n fraction letters =>
    let close := scan.total.addTerm n fraction (String.ofList letters.reverse)
    match Numeral.digitValue? c with
    | some d => return ⟨.whole d, next, ← close⟩
    | none =>
      if Text.isBlank c then return ⟨.waiting next false, next, ← close⟩
      else if isLetter c then
        return { scan with stage := .unit n fraction (c :: letters), place := next }
      else throw (.invalidCharacter scan.place)

/-- The total at the end of the text. -/
def close (scan : Scan) : Except DurationError Total :=
  match scan.stage with
  | .waiting _ first => if first then .error .empty else .ok scan.total
  | .whole n => .error (.unknownUnit "" n)
  | .fraction n _ denominator shown =>
    if denominator = 1 then .error (.invalidCharacter shown) else .error (.unknownUnit "" n)
  | .unit n fraction letters => scan.total.addTerm n fraction (String.ofList letters.reverse)

end Scan

end DurationText

/-- Reads a **duration**. -/
def Duration.read (text : String) : Except DurationError Duration := do
  if text = "0" then return ⟨0⟩
  let scan ← text.toList.foldlM DurationText.Scan.step ({} : DurationText.Scan)
  return (← scan.close).duration

end NodeGateway
