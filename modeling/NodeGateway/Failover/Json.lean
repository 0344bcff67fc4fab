import NodeGateway.Failover.Pool
import NodeGateway.Json.Access

/-!
# The JSON Form of Readiness

The picture of a pool, and that of both layers, as they are handed out by the service.
-/

namespace NodeGateway

/-- Reads a role. -/
def Role.ofJson (value : Json) : Json.Reading Role := do
  let name ← value.toText
  Json.expect "role" ([Role.primary, Role.fallback].find? (·.name = name))

namespace ReadinessReport

/-- The JSON form of a pool's picture. -/
def toJson (report : ReadinessReport) : Json :=
  .obj [("client_type", .str report.clientType), ("primary_ready", .bool report.primaryReady),
    ("fallback_enabled", .bool report.fallbackEnabled),
    ("fallback_ready", .bool report.fallbackReady)]

/-- Reads a pool's picture. -/
def ofJson (value : Json) : Json.Reading ReadinessReport := do
  return { clientType := ← value.field "client_type" Json.toText
           primaryReady := ← value.field "primary_ready" Json.toFlag
           fallbackEnabled := ← value.field "fallback_enabled" Json.toFlag
           fallbackReady := ← value.field "fallback_ready" Json.toFlag }

end ReadinessReport

/-- The JSON form of the readiness of both layers. -/
def HealthReport.toJson (report : HealthReport) : Json :=
  .obj [("execution", report.execution.toJson), ("beacon", report.beacon.toJson)]

end NodeGateway
