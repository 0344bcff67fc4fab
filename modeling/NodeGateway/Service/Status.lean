import NodeGateway.Failover.Json
import NodeGateway.Service.Backend
import NodeGateway.Service.Response

/-!
# Health and Status

Two reports on the layers. The **health** report says what is believed about the endpoints and asks
nobody; its status code says whether both layers are usable. The **status** report asks each layer
how far it has come and is always given: what a layer does not answer is left open, and the
readiness in it is that after both layers have answered.
-/

namespace NodeGateway.Service

/-- The response with the health of both layers. -/
def health (state : State σ τ ω) : Response :=
  ⟨if state.health.isHealthy then 200 else 500, .document state.health.toJson⟩

/-- The **status** of both layers. -/
structure StatusReport where
  health : HealthReport
  blockNumber : Option Nat
  sync : Option Beacon.SyncStatus
  deriving DecidableEq, Repr

namespace StatusReport

/-- The JSON form of a status report. -/
def toJson (report : StatusReport) : Json :=
  .obj [("upstreams", report.health.toJson),
    ("execution_block_number", Json.opt Json.nat report.blockNumber),
    ("beacon_head_slot", Json.opt (fun sync => .nat sync.headSlot) report.sync),
    ("beacon_syncing", Json.opt (fun sync => .bool sync.isSyncing) report.sync)]

/-- Asks both layers for their status. -/
def gather (backend : Backend σ τ ω) (state : State σ τ ω) : StatusReport × State σ τ ω :=
  let (blockNumber, state) := backend.askExecution Execution.Request.blockNumber state
  let (sync, state) := backend.askBeacon Beacon.Request.nodeSyncing state
  ({ health := state.health, blockNumber := blockNumber.toOption
     sync := sync.toOption.map Beacon.SyncStatus.ofValue }, state)

end StatusReport

/-- The response with the status of both layers. -/
def status (backend : Backend σ τ ω) (state : State σ τ ω) : Response × State σ τ ω :=
  let (report, state) := StatusReport.gather backend state
  (.ok report.toJson, state)

end NodeGateway.Service
