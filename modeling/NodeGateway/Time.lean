/-!
# Instants and Durations

Wall-clock instants are counted in nanoseconds since the epoch and may lie before it. Durations
are counted in nanoseconds too and have a greatest value. A simulated run has a clock of its own,
which moves in whole milliseconds (`Clock`).
-/

namespace NodeGateway

/-- An **instant**, in nanoseconds since the epoch. -/
structure Instant where
  nanos : Int
  deriving DecidableEq, Repr, Inhabited

/-- A **duration**, in nanoseconds. -/
structure Duration where
  nanos : Nat
  deriving DecidableEq, Repr, Inhabited

namespace Duration

/-- The greatest duration: `2 ^ 64` seconds less one nanosecond. -/
def max : Duration := ⟨Nat.pow 2 64 * 1000000000 - 1⟩

/-- A duration of whole seconds. -/
def ofSeconds (n : Nat) : Duration := ⟨n * 1000000000⟩

/-- A duration of whole milliseconds. -/
def ofMillis (n : Nat) : Duration := ⟨n * 1000000⟩

/-- A duration of whole microseconds. -/
def ofMicros (n : Nat) : Duration := ⟨n * 1000⟩

/-- The number of whole milliseconds that a duration fills or begins. -/
def ceilMillis (d : Duration) : Nat := (d.nanos + 999999) / 1000000

/-- A count of smaller units, `scale` of which make one, as a decimal without trailing zeros. -/
def decimal (count scale places : Nat) : String :=
  let digits := Nat.toDigits 10 (count % scale)
  let padded := List.replicate (places - digits.length) '0' ++ digits
  let kept := (padded.reverse.dropWhile (· = '0')).reverse
  toString (count / scale) ++ (if kept.isEmpty then "" else String.ofList ('.' :: kept))

/-- The written form of a duration, in the greatest of the units `s`, `ms`, `µs` and `ns` of
which it has at least one. -/
def describe (d : Duration) : String :=
  if 1000000000 ≤ d.nanos then decimal d.nanos 1000000000 9 ++ "s"
  else if 1000000 ≤ d.nanos then decimal d.nanos 1000000 6 ++ "ms"
  else if 1000 ≤ d.nanos then decimal d.nanos 1000 3 ++ "µs"
  else toString d.nanos ++ "ns"

end Duration

namespace Instant

/-- The earlier instant is the lesser one. -/
instance : LE Instant := ⟨fun s t => s.nanos ≤ t.nanos⟩

/-- The instant in whole milliseconds, rounded down. -/
def millis (t : Instant) : Int := t.nanos / 1000000

/-- The instant that begins the given millisecond. -/
def ofMillis (n : Int) : Instant := ⟨n * 1000000⟩

/-- The instant in whole microseconds, rounded down. -/
def micros (t : Instant) : Int := t.nanos / 1000

/-- The instant that begins the given microsecond. -/
def ofMicros (n : Int) : Instant := ⟨n * 1000⟩

/-- The instant some microseconds later, or earlier if there are fewer than none. -/
def shift (t : Instant) (micros : Int) : Instant := ⟨t.nanos + micros * 1000⟩

/-- Whether at least `delay` lies between `since` and `now`, and `now` is not the earlier. -/
def hasElapsed (since now : Instant) (delay : Duration) : Bool :=
  let nanos := now.nanos - since.nanos
  decide (0 ≤ nanos) && decide ((delay.nanos : Int) ≤ nanos)

end Instant

/-- The **clock of a run**: the time set by hand, and the milliseconds that have passed since. -/
structure Clock where
  base : Instant
  elapsed : Nat := 0
  deriving Repr

namespace Clock

/-- What the clock shows. -/
def now (clock : Clock) : Instant := clock.base.shift (1000 * clock.elapsed)

/-- The clock after some milliseconds. -/
def wait (clock : Clock) (millis : Nat) : Clock := { clock with elapsed := clock.elapsed + millis }

/-- The clock after it was put forward by hand. -/
def jump (clock : Clock) (micros : Int) : Clock := { clock with base := clock.base.shift micros }

end Clock

/-- A **manual clock**, which moves only by hand and keeps whole milliseconds, rounded down. -/
structure ManualClock where
  millis : Int := 0
  deriving DecidableEq, Repr

namespace ManualClock

/-- What the clock shows. -/
def now (clock : ManualClock) : Instant := .ofMillis clock.millis

/-- The clock set to an instant. -/
def set (t : Instant) (_ : ManualClock) : ManualClock := ⟨t.millis⟩

/-- The clock put forward. -/
def advance (micros : Int) (clock : ManualClock) : ManualClock :=
  clock.set (clock.now.shift micros)

end ManualClock

end NodeGateway
