import Mathlib.Algebra.BigOperators.Group.Finset.Basic
import Mathlib.Algebra.BigOperators.Intervals
import NodeGateway.Request.Script

/-!
# Rounds

Something that is done again and again takes some time in each round and pauses in between. The
instants at which the rounds begin and end are the same whatever becomes of a round, and they are
the same for everything in the gateway that goes on in rounds, be it a wait or a job that is polled.
-/

namespace NodeGateway

variable {α : Type}

/-- **Rounds** with a pause between them: round `k` takes the time of `answers k`. -/
structure Rounds (α : Type) where
  pause : ℕ
  answers : ℕ → Answer α

namespace Rounds

variable (rounds : Rounds α)

/-- The instant at which round `k` **begins**, if there is one: the rounds before it have ended by
then, and so have the pauses behind them. -/
def begins (k : ℕ) : ℕ := ∑ j ∈ Finset.range k, ((rounds.answers j).millis + rounds.pause)

/-- The instant at which round `k` **ends**, if there is one and it is not given up. -/
def ends (k : ℕ) : ℕ := rounds.begins k + (rounds.answers k).millis

@[simp] theorem begins_zero : rounds.begins 0 = 0 := rfl

theorem begins_succ (k : ℕ) : rounds.begins (k + 1) = rounds.ends k + rounds.pause := by
  rw [begins, Finset.sum_range_succ, ← begins, ends, Nat.add_assoc]

theorem begins_le_ends (k : ℕ) : rounds.begins k ≤ rounds.ends k := Nat.le_add_right _ _

theorem ends_le_begins_succ (k : ℕ) : rounds.ends k ≤ rounds.begins (k + 1) := by
  rw [begins_succ]
  exact Nat.le_add_right _ _

theorem begins_mono : Monotone rounds.begins :=
  monotone_nat_of_le_succ fun k => (rounds.begins_le_ends k).trans (rounds.ends_le_begins_succ k)

theorem ends_mono : Monotone rounds.ends :=
  monotone_nat_of_le_succ fun k =>
    (rounds.ends_le_begins_succ k).trans (rounds.begins_le_ends (k + 1))

/-- Rounds come **one at a time**: a later one begins when the one before has ended. -/
theorem ends_le_begins {j k : ℕ} (h : j < k) : rounds.ends j ≤ rounds.begins k :=
  (rounds.ends_le_begins_succ j).trans (rounds.begins_mono h)

end Rounds

end NodeGateway
