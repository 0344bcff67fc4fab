import NodeGateway.Failover.Readiness
import NodeGateway.Time.Calendar

/-!
# Registers

The readiness of an endpoint is kept in a **register** of two words: a flag, and the whole
milliseconds of the last loss. The second word is always there, so one number stands for an endpoint
that was never lost (`Register.noLoss`); it is the least one, which lies far before the calendar.

Three operations change a register, and each reports whether it has made an endpoint ready that was
not. They are those of `Readiness`, which has no words and needs no number for "never".

## Main definitions

* `Register`, and `Register.readiness`, what it stands for;
* `Register.lastLoss?`, which reads the second word;
* `Operation`, with `Register.apply` and `Readiness.apply`.
-/

namespace NodeGateway

/-- The **register** of an endpoint. -/
structure Register where
  ready : Bool
  loss : Int64
  deriving DecidableEq, Repr

/-- An **operation** on the readiness of an endpoint. -/
inductive Operation where
  /-- The endpoint was found to be lost. -/
  | markLost (now : Timestamp)
  /-- The endpoint was found to be reachable. -/
  | markReady
  /-- The endpoint is given another chance if it is due. -/
  | recheck (now : Timestamp) (delay : Duration)

/-- The loss that an operation records, if it records one. -/
def Operation.loss? : Operation → Option Timestamp
  | markLost now => some now
  | markReady | recheck _ _ => none

namespace Register

/-- The number that stands for **no loss**. -/
def noLoss : Int64 := Int64.minValue

/-- The register of an endpoint of which nothing is known. -/
def fresh : Register := ⟨true, noLoss⟩

/-- When the endpoint was last lost, as the second word says. -/
def lastLoss? (r : Register) : Option Timestamp :=
  if r.loss = noLoss then none else Timestamp.ofWord? r.loss

/-- The endpoint was found to be lost. -/
def markLost (now : Timestamp) (_ : Register) : Register := ⟨false, now.word⟩

/-- The endpoint was found to be reachable; the time of its last loss is kept. Reports whether it
was not ready before. -/
def markReady (r : Register) : Bool × Register := (!r.ready, { r with ready := true })

/-- Whether the delay has passed since the last loss. Without one there is nothing to wait for. -/
def hasWaited (now : Timestamp) (delay : Duration) (r : Register) : Bool :=
  match r.lastLoss? with
  | some loss => loss.hasElapsed now.toInstant delay
  | none => true

/-- Gives an endpoint that is not ready another chance once it has waited. Reports if it did. -/
def recheck (now : Timestamp) (delay : Duration) (r : Register) : Bool × Register :=
  if r.ready then (false, r)
  else if r.hasWaited now delay then (true, { r with ready := true })
  else (false, r)

/-- What an operation **reports** and the register that it leaves behind. -/
def apply (operation : Operation) (r : Register) : Bool × Register :=
  match operation with
  | .markLost now => (false, r.markLost now)
  | .markReady => r.markReady
  | .recheck now delay => r.recheck now delay

/-- The **readiness** that a register stands for. -/
def readiness (r : Register) : Readiness := ⟨r.ready, r.lastLoss?.map (·.millis)⟩

end Register

/-- What an operation reports about the readiness of an endpoint, and what it leaves behind. -/
def Readiness.apply (operation : Operation) (r : Readiness) : Bool × Readiness :=
  match operation with
  | .markLost now => (false, r.markLost now.toInstant)
  | .markReady => (!r.ready, r.markReady)
  | .recheck now delay => (r.isDue now.toInstant delay, r.recheck now.toInstant delay)

end NodeGateway
