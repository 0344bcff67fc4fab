import NodeGateway.Failover.Readiness
import NodeGateway.Fault
import NodeGateway.Log

/-!
# Pools

A **pool** is a primary endpoint and perhaps a fallback, with what is known about each of them.
It does not hold a clock: whoever changes it says what time it is. The clock may go on while a
change is made, so what it shows is given for each role apart (`Readings`).

What a pool shows to the outside is kept beside the readiness itself: two gauges and two counters
(`Telemetry`), and a journal of what happened (`Notice`). They are set where the readiness
changes, so that they agree with it after every step.

## Main definitions

* `Readings`, what the clock shows during a step;
* `Pool`, `Pool.fresh`, `Pool.readiness?`;
* `Pool.recheck`, `Pool.markLost` and `Pool.markRecovered`, the only changes of readiness;
* `Readiness.Report`, the picture of a pool that is handed out, and `Pool.isHealthy`.
-/

namespace NodeGateway

/-- The **role** of an endpoint in its pool. -/
inductive Role where
  | primary
  | fallback
  deriving DecidableEq, Repr, Inhabited

/-- The written form of a role. -/
def Role.name : Role → String
  | primary => "primary"
  | fallback => "fallback"

/-- What the **clock shows** in the course of one step of a dispatch. A step looks at each role at
most once, and at the primary first. -/
structure Readings where
  primary : Instant
  fallback : Instant
  deriving DecidableEq, Repr

/-- What the clock shows when the step looks at a role. -/
def Readings.of (now : Readings) : Role → Instant
  | .primary => now.primary
  | .fallback => now.fallback

/-- A clock that stands still during a step. -/
instance : Coe Instant Readings := ⟨fun t => ⟨t, t⟩⟩

/-- What a pool notes in its **journal**. -/
inductive Notice where
  /-- A call goes to the endpoint in this role. -/
  | dispatching (role : Role)
  /-- The endpoint in this role was lost. -/
  | lost (role : Role) (fault : Fault)
  /-- No endpoint is ready, and the primary is tried all the same. -/
  | forcing
  /-- The reconnect delay of this role has passed. -/
  | delayElapsed (role : Role)
  /-- The endpoint in this role answered again. -/
  | recovered (role : Role)
  deriving DecidableEq, Repr

/-- The log line of a notice in the pool of the given client type. -/
def Notice.log (clientType : String) : Notice → LogLine
  | dispatching role => ⟨.debug, "Dispatching to " ++ role.name ++ " " ++ clientType⟩
  | lost .primary fault =>
    ⟨.warn, "Primary " ++ clientType ++ " disconnected (" ++ fault.message ++ "), using fallback"⟩
  | lost .fallback fault =>
    ⟨.warn, "Fallback " ++ clientType ++ " disconnected (" ++ fault.message ++ ")"⟩
  | forcing => ⟨.warn, "No " ++ clientType ++ "s are ready, forcing use of primary"⟩
  | delayElapsed role =>
    ⟨.info, clientType ++ " " ++ role.name
      ++ " client reconnect delay elapsed, marking it ready for the next call"⟩
  | recovered role => ⟨.info, clientType ++ " " ++ role.name ++ " client is ready again"⟩

/-- The **gauges and counters** of a pool. A pool without a fallback has no gauge for one. -/
structure Telemetry where
  primaryReady : Bool
  fallbackReady : Option Bool
  primaryLosses : Nat := 0
  fallbackLosses : Nat := 0
  deriving DecidableEq, Repr

namespace Telemetry

/-- The gauge of a role, if it has one. -/
def ready? (t : Telemetry) : Role → Option Bool
  | .primary => some t.primaryReady
  | .fallback => t.fallbackReady

/-- The number of losses counted for a role. -/
def losses (t : Telemetry) : Role → Nat
  | .primary => t.primaryLosses
  | .fallback => t.fallbackLosses

/-- Sets the gauge of a role. -/
def setReady (role : Role) (ready : Bool) (t : Telemetry) : Telemetry :=
  match role with
  | .primary => { t with primaryReady := ready }
  | .fallback => { t with fallbackReady := some ready }

/-- Counts a loss and sets the gauge. -/
def recordLoss (role : Role) (t : Telemetry) : Telemetry :=
  match role with
  | .primary => { t with primaryLosses := t.primaryLosses + 1, primaryReady := false }
  | .fallback => { t with fallbackLosses := t.fallbackLosses + 1, fallbackReady := some false }

end Telemetry

/-- A **pool** of one or two endpoints. -/
structure Pool where
  clientType : String
  reconnectDelay : Duration
  primary : Readiness
  fallback : Option Readiness
  telemetry : Telemetry
  journal : List Notice
  deriving Repr

namespace Pool

/-- A new pool: everything is believed to be reachable. -/
def fresh (clientType : String) (reconnectDelay : Duration) (hasFallback : Bool) : Pool where
  clientType := clientType
  reconnectDelay := reconnectDelay
  primary := {}
  fallback := if hasFallback then some {} else none
  telemetry := { primaryReady := true, fallbackReady := if hasFallback then some true else none }
  journal := []

/-- Whether the pool has a fallback. -/
def hasFallback (pool : Pool) : Bool := pool.fallback.isSome

/-- The readiness of the endpoint in a role, if there is one. -/
def readiness? (pool : Pool) : Role → Option Readiness
  | .primary => some pool.primary
  | .fallback => pool.fallback

/-- Whether the endpoint in a role is there and ready. -/
def isReady (pool : Pool) (role : Role) : Bool := (pool.readiness? role).any (·.ready)

/-- When the endpoint in a role was last lost. -/
def lastLoss? (pool : Pool) (role : Role) : Option Int := (pool.readiness? role).bind (·.lastLoss)

/-- Changes the readiness of the endpoint in a role, if there is one. -/
def modify (role : Role) (change : Readiness → Readiness) (pool : Pool) : Pool :=
  match role with
  | .primary => { pool with primary := change pool.primary }
  | .fallback => { pool with fallback := pool.fallback.map change }

/-- Adds a notice to the journal. -/
def note (notice : Notice) (pool : Pool) : Pool :=
  { pool with journal := pool.journal ++ [notice] }

/-- Sets the gauge of a role. -/
def setGauge (role : Role) (ready : Bool) (pool : Pool) : Pool :=
  { pool with telemetry := pool.telemetry.setReady role ready }

/-- Whether the endpoint in a role is there and due for another chance. -/
def isDue (now : Instant) (role : Role) (pool : Pool) : Bool :=
  (pool.readiness? role).any (·.isDue now pool.reconnectDelay)

/-- Gives the endpoint in a role **another chance** if it is due. -/
def recheck (now : Instant) (role : Role) (pool : Pool) : Pool :=
  if pool.isDue now role then
    ((pool.modify role Readiness.markReady).note (.delayElapsed role)).setGauge role true
  else pool

/-- Gives every endpoint that is due another chance. -/
def recheckAll (now : Readings) (pool : Pool) : Pool :=
  (pool.recheck now.primary .primary).recheck now.fallback .fallback

/-- Takes down the endpoint in a role because of a lost connection. -/
def markLost (now : Instant) (role : Role) (fault : Fault) (pool : Pool) : Pool :=
  let pool := pool.modify role (Readiness.markLost now)
  { pool with
    telemetry := pool.telemetry.recordLoss role
    journal := pool.journal ++ [.lost role fault] }

/-- The endpoint in a role answered, so it is ready. -/
def markRecovered (role : Role) (pool : Pool) : Pool :=
  let noted := if pool.isReady role then pool else pool.note (.recovered role)
  (noted.modify role Readiness.markReady).setGauge role true

end Pool

/-- The **picture of a pool** that is handed out. -/
structure ReadinessReport where
  clientType : String
  primaryReady : Bool
  fallbackEnabled : Bool
  fallbackReady : Bool
  deriving DecidableEq, Repr

/-- Whether at least one endpoint is believed to be reachable. -/
def ReadinessReport.usable (report : ReadinessReport) : Bool :=
  report.primaryReady || (report.fallbackEnabled && report.fallbackReady)

namespace Pool

/-- The picture of the pool as it is now. -/
def report (pool : Pool) : ReadinessReport where
  clientType := pool.clientType
  primaryReady := pool.isReady .primary
  fallbackEnabled := pool.hasFallback
  fallbackReady := pool.isReady .fallback

/-- Whether the pool has an endpoint that is believed to be reachable. -/
def isHealthy (pool : Pool) : Bool := pool.report.usable

/-- The journal as log lines. -/
def logLines (pool : Pool) : List LogLine := pool.journal.map (·.log pool.clientType)

/-- The pool with an empty journal. -/
def clearJournal (pool : Pool) : Pool := { pool with journal := [] }

end Pool

/-- The readiness of both layers of nodes. -/
structure HealthReport where
  execution : ReadinessReport
  beacon : ReadinessReport
  deriving DecidableEq, Repr

/-- Whether both layers are usable. -/
def HealthReport.isHealthy (report : HealthReport) : Bool :=
  report.execution.usable && report.beacon.usable

end NodeGateway
