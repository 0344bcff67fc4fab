import NodeGateway.Time

/-!
# Readiness of an Endpoint

Whether an endpoint is believed to be reachable, and when it was last lost. A lost endpoint is
given another chance once the **reconnect delay** has passed since then: it is marked ready
without being asked, and the next call finds out.

The time of a loss is kept in whole milliseconds, rounded down, also before the epoch.
-/

namespace NodeGateway

/-- The **readiness** of an endpoint. -/
structure Readiness where
  ready : Bool := true
  /-- When the endpoint was last lost, in whole milliseconds. -/
  lastLoss : Option Int := none
  deriving DecidableEq, Repr, Inhabited

namespace Readiness

/-- The endpoint was found to be lost. -/
def markLost (now : Instant) (_ : Readiness) : Readiness :=
  { ready := false, lastLoss := some now.millis }

/-- The endpoint was found to be reachable; the time of its last loss is kept. -/
def markReady (r : Readiness) : Readiness := { r with ready := true }

/-- Whether the endpoint is **due** for another chance: it is not ready, and the delay has passed
since it was lost. -/
def isDue (now : Instant) (delay : Duration) (r : Readiness) : Bool :=
  !r.ready &&
    match r.lastLoss with
    | some millis => (Instant.ofMillis millis).hasElapsed now delay
    | none => true

/-- Gives a due endpoint another chance. -/
def recheck (now : Instant) (delay : Duration) (r : Readiness) : Readiness :=
  if r.isDue now delay then r.markReady else r

@[simp] theorem ready_markLost (now : Instant) (r : Readiness) :
    (r.markLost now).ready = false := rfl

@[simp] theorem lastLoss_markLost (now : Instant) (r : Readiness) :
    (r.markLost now).lastLoss = some now.millis := rfl

@[simp] theorem ready_markReady (r : Readiness) : r.markReady.ready = true := rfl

@[simp] theorem lastLoss_markReady (r : Readiness) : r.markReady.lastLoss = r.lastLoss := rfl

@[simp] theorem lastLoss_recheck (now : Instant) (delay : Duration) (r : Readiness) :
    (r.recheck now delay).lastLoss = r.lastLoss := by
  unfold recheck
  split <;> rfl

/-- A recheck makes ready what is due, and nothing else. -/
theorem ready_recheck (now : Instant) (delay : Duration) (r : Readiness) :
    (r.recheck now delay).ready = (r.ready || r.isDue now delay) := by
  unfold recheck
  split <;> simp_all

/-- A recheck leaves a ready endpoint as it is. -/
theorem recheck_of_ready {r : Readiness} (h : r.ready = true) (now : Instant)
    (delay : Duration) : r.recheck now delay = r := by
  simp [recheck, isDue, h]

/-- A recheck leaves an endpoint that is not due as it is. -/
theorem recheck_of_not_isDue {r : Readiness} {now : Instant} {delay : Duration}
    (h : r.isDue now delay = false) : r.recheck now delay = r := by
  simp [recheck, h]

end Readiness

end NodeGateway
