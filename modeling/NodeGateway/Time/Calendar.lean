import NodeGateway.Time

/-!
# Instants with a Date

The **calendar** is the Gregorian one, also before it was in use, and it has the years from -262143
to 262142. An instant in one of these years has a date, and a **timestamp** is an instant that has
one.

A timestamp is written down as its whole milliseconds in a signed number of 64 bits. All of them
fit: the calendar needs less than a thousandth of these numbers.

## Main definitions

* `Instant.HasDate`, `Timestamp`;
* `Timestamp.word` and `Timestamp.ofWord?`, which write a timestamp down and read it back;
* `Timestamp.floor`, what is read back.
-/

namespace NodeGateway

namespace Calendar

/-- The number of leap days from the year 1 to the end of a year. -/
def leapDays (year : Int) : Int := year / 4 - year / 100 + year / 400

/-- The number of days from the epoch to the beginning of a year. -/
def daysBefore (year : Int) : Int :=
  365 * (year - 1970) + (leapDays (year - 1) - leapDays 1969)

/-- The instant at which a year begins. -/
def yearStart (year : Int) : Instant := ⟨daysBefore year * 86400000000000⟩

/-- The first year that has dates. -/
def firstYear : Int := -262143

/-- The last year that has dates. -/
def lastYear : Int := 262142

end Calendar

namespace Instant

/-- The instant that begins a millisecond lies in it. -/
@[simp] theorem millis_ofMillis (n : Int) : (ofMillis n).millis = n :=
  Int.mul_ediv_cancel n (by decide)

/-- An instant **has a date** if it lies in one of the years of the calendar. -/
def HasDate (t : Instant) : Prop :=
  (Calendar.yearStart Calendar.firstYear).nanos ≤ t.nanos ∧
    t.nanos < (Calendar.yearStart (Calendar.lastYear + 1)).nanos

instance (t : Instant) : Decidable t.HasDate :=
  inferInstanceAs (Decidable (_ ∧ _))

/-- The ends of the calendar in nanoseconds. -/
theorem hasDate_iff {t : Instant} :
    t.HasDate ↔ -8334601228800000000000 ≤ t.nanos ∧ t.nanos < 8210266876800000000000 :=
  Iff.rfl

end Instant

/-- A **timestamp** is an instant that has a date. -/
structure Timestamp extends Instant where
  hasDate : toInstant.HasDate

namespace Timestamp

/-- The timestamp of an instant, if it has a date. -/
def ofInstant? (t : Instant) : Option Timestamp := if h : t.HasDate then some ⟨t, h⟩ else none

/-- The whole milliseconds of a timestamp as a word. -/
def word (t : Timestamp) : Int64 := Int64.ofInt t.millis

/-- The timestamp that a word gives in whole milliseconds, if it has a date. -/
def ofWord? (word : Int64) : Option Timestamp := ofInstant? (Instant.ofMillis word.toInt)

/-- The timestamp that begins the millisecond of another. Years begin with a whole millisecond, so
it has a date too. -/
def floor (t : Timestamp) : Timestamp where
  toInstant := Instant.ofMillis t.millis
  hasDate := by
    obtain ⟨hfirst, hlast⟩ := Instant.hasDate_iff.mp t.hasDate
    simp only [Instant.hasDate_iff, Instant.ofMillis, Instant.millis]
    omega

/-- Every timestamp fits into a word. -/
theorem toInt_word (t : Timestamp) : t.word.toInt = t.millis := by
  obtain ⟨hfirst, hlast⟩ := Instant.hasDate_iff.mp t.hasDate
  refine Int64.toInt_ofInt_of_le ?_ ?_ <;> simp only [Instant.millis] <;> omega

/-- What is written down is read back in whole milliseconds, rounded down. -/
theorem ofWord?_word (t : Timestamp) : ofWord? t.word = some t.floor := by
  rw [ofWord?, toInt_word]
  exact dif_pos t.floor.hasDate

/-- What is read from a word is the beginning of the millisecond that the word gives. -/
theorem toInstant_of_ofWord? {word : Int64} {t : Timestamp} (h : ofWord? word = some t) :
    t.toInstant = Instant.ofMillis word.toInt := by
  rw [ofWord?, ofInstant?] at h
  split at h
  · cases h
    rfl
  · cases h

end Timestamp

end NodeGateway
