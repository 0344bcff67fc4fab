import Mathlib.Data.List.Induction
import NodeGateway.Failover.Register
import NodeGateway.Proofs.Failover.Pool

/-!
# What a Register Tells After Any History

The register of an endpoint is changed by operations in any order, with clocks that may go back and
times that may lie before the epoch. This module says what its two words tell after a **history** of
operations.

The second word tells the last loss of the history, in whole milliseconds, rounded down
(`Register.Records`). It is never mistaken for the number that stands for no loss, because
timestamps lie between the ends of the calendar and that number lies outside. So an endpoint that is
not ready always has a loss to wait for.

The first word goes up and down by turns and is up in the beginning. So it has gone down as often as
up, or once more if it is down now. The operations that report are those that it has gone up with.

Without the words, the readiness of an endpoint goes through the same history: what a register
stands for is changed by every operation as the register is (`Register.apply_readiness`).

## Main results

* `Register.records_after`: what is recorded after a history.
* `Register.countP_reported_add_down`: the balance of the first word.
* `Register.account_of_history`: both, and when a recheck gives another chance.
-/

namespace NodeGateway

/-! ### Rounding -/

namespace Timestamp

/-- A timestamp **begins the millisecond** of another if it is a whole one, and the last that does
not lie behind it. -/
structure BeginsMillisOf (start t : Timestamp) : Prop where
  whole : 1000000 ∣ start.nanos
  le : start.nanos ≤ t.nanos
  lt : t.nanos < start.nanos + 1000000

theorem floor_beginsMillisOf (t : Timestamp) : t.floor.BeginsMillisOf t where
  whole := Int.dvd_mul_left _ _
  le := Instant.ofMillis_millis_le t.toInstant
  lt := by
    simp only [floor, Instant.ofMillis, Instant.millis]
    omega

/-- No timestamp is written as the number that stands for no loss. -/
theorem word_ne_noLoss (t : Timestamp) : t.word ≠ Register.noLoss := by
  intro h
  have hword : t.millis = -2 ^ 63 := by
    rw [← toInt_word, h, Register.noLoss, Int64.toInt_minValue]
  obtain ⟨hfirst, -⟩ := Instant.hasDate_iff.mp t.hasDate
  simp only [Instant.millis] at hword
  omega

end Timestamp

namespace Register

/-! ### One operation -/

/-- A loss is read back in whole milliseconds. -/
theorem lastLoss?_markLost (now : Timestamp) (r : Register) :
    (r.markLost now).lastLoss? = some now.floor := by
  rw [lastLoss?, markLost, if_neg now.word_ne_noLoss, Timestamp.ofWord?_word]

/-- What is read begins a millisecond. -/
theorem ofMillis_of_lastLoss? {r : Register} {loss : Timestamp} (h : r.lastLoss? = some loss) :
    Instant.ofMillis loss.millis = loss.toInstant := by
  rw [lastLoss?] at h
  split at h
  · cases h
  · rw [Timestamp.toInstant_of_ofWord? h, Instant.millis_ofMillis]

/-- A register waits as long as the readiness that it stands for. -/
theorem isDue_readiness (now : Timestamp) (delay : Duration) (r : Register) :
    r.readiness.isDue now.toInstant delay = (!r.ready && r.hasWaited now delay) := by
  rw [Readiness.isDue, hasWaited, readiness]
  cases h : r.lastLoss? with
  | none => rfl
  | some loss => simp [ofMillis_of_lastLoss? h]

theorem recheck_eq (now : Timestamp) (delay : Duration) (r : Register) :
    r.recheck now delay =
      if r.readiness.isDue now.toInstant delay then (true, { r with ready := true })
      else (false, r) := by
  rw [isDue_readiness, recheck]
  cases r.ready <;> cases r.hasWaited now delay <;> rfl

/-- **What a register stands for** is changed as the register is, with the same reports. -/
theorem apply_readiness (operation : Operation) (r : Register) :
    r.readiness.apply operation =
      ((r.apply operation).1, (r.apply operation).2.readiness) := by
  cases operation with
  | markLost now =>
      have hloss : now.floor.millis = now.millis := Instant.millis_ofMillis now.millis
      simp only [Readiness.apply, Readiness.markLost, apply, readiness, lastLoss?_markLost,
        Option.map_some, hloss]
      rfl
  | markReady => rfl
  | recheck now delay =>
      rw [Readiness.apply, apply, recheck_eq, Readiness.recheck]
      cases r.readiness.isDue now.toInstant delay <;> rfl

/-- **A recheck gives another chance** exactly if the endpoint is not ready and the delay has passed
since the loss that is recorded, if there is one. -/
theorem reported_recheck_iff {now : Timestamp} {delay : Duration} {r : Register} :
    (r.recheck now delay).1 = true ↔
      r.ready = false ∧ ∀ loss, r.lastLoss? = some loss →
        (delay.nanos : Int) ≤ now.nanos - loss.nanos := by
  have hwaited : r.hasWaited now delay = true ↔ ∀ loss, r.lastLoss? = some loss →
      (delay.nanos : Int) ≤ now.nanos - loss.nanos := by
    cases h : r.lastLoss? <;> simp [hasWaited, h, Instant.hasElapsed_iff]
  rw [← hwaited, recheck]
  cases r.ready <;> cases r.hasWaited now delay <;> simp

/-- An operation **reports** that it has made an endpoint ready that was not. -/
theorem reported_apply_iff (operation : Operation) (r : Register) :
    (r.apply operation).1 = true ↔ r.ready = false ∧ (r.apply operation).2.ready = true := by
  cases operation with
  | markLost now => simp [apply, markLost]
  | markReady => simp [apply, markReady]
  | recheck now delay =>
      rw [apply, recheck]
      cases hready : r.ready <;> cases r.hasWaited now delay <;> simp [hready]

/-! ### Histories -/

/-- One operation in the course of a history, with the register that it finds. -/
structure Entry where
  before : Register
  operation : Operation

namespace Entry

/-- Whether the operation reports that it has made the endpoint ready. -/
def reported (entry : Entry) : Bool := (entry.before.apply entry.operation).1

/-- The register that the operation leaves behind. -/
def after (entry : Entry) : Register := (entry.before.apply entry.operation).2

/-- Whether the endpoint was ready before and is not ready any more. -/
def takesDown (entry : Entry) : Bool := entry.before.ready && !entry.after.ready

end Entry

/-- The register after a history that begins with the register `r`. -/
def after (history : List Operation) (r : Register) : Register :=
  history.foldl (fun r operation => (r.apply operation).2) r

/-- The operations of a history that begins with the register `r`, as they are carried out. -/
def entries : List Operation → Register → List Entry
  | [], _ => []
  | operation :: rest, r => ⟨r, operation⟩ :: entries rest (r.apply operation).2

/-- The last loss of a history. -/
def lastOf (history : List Operation) : Option Timestamp :=
  (history.filterMap Operation.loss?).getLast?

/-- How often a register is down more than it is up: once or not at all. -/
def down (r : Register) : Nat := if r.ready then 0 else 1

theorem after_concat (history : List Operation) (operation : Operation) (r : Register) :
    after (history ++ [operation]) r = ((after history r).apply operation).2 := by
  simp [after]

theorem lastOf_concat (history : List Operation) (operation : Operation) :
    lastOf (history ++ [operation]) = operation.loss?.or (lastOf history) := by
  rw [lastOf, lastOf, List.filterMap_append, List.getLast?_append]
  cases h : operation.loss? <;> simp only [List.filterMap_cons, h] <;> rfl

/-! ### What is recorded -/

/-- What a register **records** of the last loss. Without one it is as fresh as in the beginning. -/
inductive Records : Register → Option Timestamp → Prop
  | never : Records fresh none
  | since {r : Register} {t loss : Timestamp} (known : r.loss ≠ noLoss)
      (read : r.lastLoss? = some loss) (begins : loss.BeginsMillisOf t) : Records r (some t)

/-- A register records the loss that an operation records, or else the one before. -/
theorem Records.apply {r : Register} {last : Option Timestamp} (h : r.Records last)
    (operation : Operation) :
    (r.apply operation).2.Records (operation.loss?.or last) := by
  cases operation with
  | markLost now =>
      exact .since now.word_ne_noLoss (lastLoss?_markLost now r) now.floor_beginsMillisOf
  | markReady =>
      cases h with
      | never => exact .never
      | since known read begins => exact .since known read begins
  | recheck now delay =>
      cases h with
      | never => exact .never
      | since known read begins =>
          rw [Register.apply, recheck_eq]
          split <;> exact .since known read begins

/-- **What is recorded** after a history is its last loss. -/
theorem records_after (history : List Operation) :
    (after history fresh).Records (lastOf history) := by
  induction history using List.reverseRecOn with
  | nil => exact .never
  | append_singleton earlier operation ih =>
      rw [after_concat, lastOf_concat]
      exact ih.apply operation

/-- An endpoint that is not ready has a loss to wait for. -/
theorem Records.of_not_ready {r : Register} {last : Option Timestamp} (h : r.Records last)
    (hdown : r.ready = false) :
    ∃ t loss, last = some t ∧ r.loss ≠ noLoss ∧ r.lastLoss? = some loss ∧
      loss.BeginsMillisOf t := by
  cases h with
  | never => cases hdown
  | since known read begins => exact ⟨_, _, rfl, known, read, begins⟩

/-! ### The balance of the first word -/

/-- An operation that brings an endpoint up reports it, and one that takes it down does not. -/
theorem reported_add_down (operation : Operation) (r : Register) :
    (if Entry.reported ⟨r, operation⟩ then 1 else 0) + (r.apply operation).2.down =
      (if Entry.takesDown ⟨r, operation⟩ then 1 else 0) + r.down := by
  have hreported := reported_apply_iff operation r
  unfold Entry.reported Entry.takesDown Entry.after down
  cases hbefore : r.ready <;> cases hafter : (r.apply operation).2.ready <;>
    simp_all

/-- **The balance of the first word**: an endpoint was taken down as often as it was brought up, and
once more if it is down now. -/
theorem countP_reported_add_down (history : List Operation) (r : Register) :
    (entries history r).countP Entry.reported + (after history r).down =
      (entries history r).countP Entry.takesDown + r.down := by
  induction history generalizing r with
  | nil => rfl
  | cons operation rest ih =>
      have hentry := reported_add_down operation r
      have hrest : (entries rest (r.apply operation).2).countP Entry.reported +
          (after (operation :: rest) r).down =
          (entries rest (r.apply operation).2).countP Entry.takesDown +
            (r.apply operation).2.down := ih (r.apply operation).2
      rw [entries, List.countP_cons, List.countP_cons]
      omega

/-! ### The account of a history -/

/-- What a register stands for goes through the same history without the words. -/
theorem readiness_after (history : List Operation) :
    (after history fresh).readiness =
      history.foldl (fun r operation => (r.apply operation).2) ({} : Readiness) := by
  induction history using List.reverseRecOn with
  | nil => rfl
  | append_singleton earlier operation ih =>
      rw [after_concat, List.foldl_append, List.foldl_cons, List.foldl_nil, ← ih, apply_readiness]

/-- **The account of a history**, of any operations at any times. Afterwards

* an endpoint that is not ready has a loss, and this is the last one of the history in whole
  milliseconds, rounded down;
* the operations that report are those that have brought the endpoint up, and there is one for every
  time that it was taken down, apart from the last if it is still down;
* a recheck gives another chance exactly if the endpoint is not ready and the loss lies back by the
  delay, so a later recheck with a shorter delay does so too;
* the register stands for what the same history makes of the readiness without words, and it goes on
  like that. -/
theorem account_of_history (history : List Operation) :
    let r := after history fresh
    (r.ready = false → ∃ t loss, lastOf history = some t ∧ r.loss ≠ noLoss ∧
      r.lastLoss? = some loss ∧ loss.BeginsMillisOf t) ∧
    ((∀ entry ∈ entries history fresh, entry.reported = true ↔
        entry.before.ready = false ∧ entry.after.ready = true) ∧
      ((entries history fresh).countP Entry.reported : Int) =
        (entries history fresh).countP Entry.takesDown - if r.ready then 0 else 1) ∧
    (∀ now delay, (r.recheck now delay).1 = true ↔
      r.ready = false ∧ ∃ loss, r.lastLoss? = some loss ∧
        0 ≤ now.nanos - loss.nanos ∧ (delay.nanos : Int) ≤ now.nanos - loss.nanos) ∧
    (∀ now later delay shorter, now.nanos ≤ later.nanos → shorter.nanos ≤ delay.nanos →
      (r.recheck now delay).1 = true → (r.recheck later shorter).1 = true) ∧
    r.readiness = history.foldl (fun r operation => (r.apply operation).2) ({} : Readiness) ∧
    ∀ operation, r.readiness.apply operation =
      ((r.apply operation).1, (r.apply operation).2.readiness) := by
  intro r
  have hrecorded : r.ready = false → ∃ t loss, lastOf history = some t ∧ r.loss ≠ noLoss ∧
      r.lastLoss? = some loss ∧ loss.BeginsMillisOf t := (records_after history).of_not_ready
  refine ⟨hrecorded, ⟨fun entry _ => reported_apply_iff _ _, ?_⟩, fun now delay => ?_,
    fun now later delay shorter hlater hshorter h => ?_, readiness_after history,
    fun operation => apply_readiness operation r⟩
  · have hbalance : (entries history fresh).countP Entry.reported + r.down =
        (entries history fresh).countP Entry.takesDown := countP_reported_add_down history fresh
    rw [← hbalance, down]
    cases r.ready <;> simp
  · rw [reported_recheck_iff]
    refine and_congr_right fun hdown => ?_
    obtain ⟨-, loss, -, -, hloss, -⟩ := hrecorded hdown
    simp only [hloss, Option.some.injEq, forall_eq', exists_eq_left']
    omega
  · obtain ⟨hdown, hwaited⟩ := reported_recheck_iff.mp h
    refine reported_recheck_iff.mpr ⟨hdown, fun loss hloss => ?_⟩
    have hpast := hwaited loss hloss
    omega

/-- A loss just before the epoch is recorded as one in the millisecond before it. -/
example : (fresh.markLost ⟨⟨-1⟩, by decide⟩).loss = -1 := by decide

end Register

end NodeGateway
