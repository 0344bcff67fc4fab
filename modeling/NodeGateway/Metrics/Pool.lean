import NodeGateway.Failover.Pool
import NodeGateway.Metrics.Exposition

/-!
# Metrics of a Pool

The two collectors of a pool. A role has a sample in the counter only after its first loss, and a
role that the pool does not have has no sample at all.
-/

namespace NodeGateway

namespace Telemetry

/-- The samples of a gauge or counter, by role, for the roles that have a value. -/
def samples (value : Role → Option Nat) : List Sample :=
  [Role.primary, Role.fallback].filterMap fun role =>
    (value role).map fun n => ⟨[⟨"role", role.name⟩], n⟩

/-- The value of a role's gauge, one standing for ready. -/
def readyValue? (t : Telemetry) (role : Role) : Option Nat :=
  (t.ready? role).map fun ready => if ready then 1 else 0

/-- The value of a role's counter, if anything was counted. -/
def lossesValue? (t : Telemetry) (role : Role) : Option Nat :=
  if t.losses role = 0 then none else some (t.losses role)

end Telemetry

namespace Pool

/-- The counter of lost connections. -/
def lossCollector (pool : Pool) : Collector where
  name := "upstream_disconnects_total"
  help := "Number of calls that found an upstream client disconnected."
  kind := .counter
  constLabels := [⟨"client_type", pool.clientType⟩]
  samples := Telemetry.samples pool.telemetry.lossesValue?

/-- The gauge of readiness. -/
def readyCollector (pool : Pool) : Collector where
  name := "upstream_client_ready"
  help := "Whether an upstream client is currently believed reachable (1) or not (0)."
  kind := .gauge
  constLabels := [⟨"client_type", pool.clientType⟩]
  samples := Telemetry.samples pool.telemetry.readyValue?

/-- The **collectors** of a pool, in the order in which they are registered. -/
def collectors (pool : Pool) : List Collector := [pool.lossCollector, pool.readyCollector]

end Pool

end NodeGateway
