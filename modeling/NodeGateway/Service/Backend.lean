import NodeGateway.Beacon.Request
import NodeGateway.Execution.Request
import NodeGateway.Node.Pool
import NodeGateway.Oracle.Price
import NodeGateway.Query.Batch
import NodeGateway.Transaction.Gas

/-!
# What the Service Works With

The service reaches nodes of both layers through a pool for each, and a gas oracle if one is
configured. Nothing that one of them does depends on the others, so requests to several of them at a
time give the same answers as one after another.
-/

namespace NodeGateway.Service

/-- The **backend** of the service: the endpoints of both layers, the oracle, and how queries are
cut and gas limits derived. -/
structure Backend (σ τ ω : Type) where
  execution : Endpoints Execution.interface σ
  beacon : Endpoints Beacon.interface τ
  oracle : Option (ω → Outcome GasPrices × ω)
  queries : QuerySettings
  gas : GasPolicy

/-- The **state** of the service: the pool of each layer, and what lies behind it. -/
structure State (σ τ ω : Type) where
  execution : Pool × σ
  beacon : Pool × τ
  oracle : ω

namespace State

/-- The readiness of both layers. -/
def health (state : State σ τ ω) : HealthReport :=
  ⟨state.execution.1.report, state.beacon.1.report⟩

end State

namespace Backend

/-- Asks the execution layer. -/
def askExecution (backend : Backend σ τ ω) (request : Execution.interface.Request)
    (state : State σ τ ω) : Outcome (Execution.interface.Reply request) × State σ τ ω :=
  let (outcome, execution) := Pool.call backend.execution request state.execution
  (outcome, { state with execution })

/-- Asks the beacon layer. -/
def askBeacon (backend : Backend σ τ ω) (request : Beacon.interface.Request)
    (state : State σ τ ω) : Outcome (Beacon.interface.Reply request) × State σ τ ω :=
  let (outcome, beacon) := Pool.call backend.beacon request state.beacon
  (outcome, { state with beacon })

/-- The client that queries go through: calls of the execution layer, which take no time. -/
def client (backend : Backend σ τ ω) : Query.Client (State σ τ ω) := fun _ _ call block state =>
  let (outcome, state) := backend.askExecution (Execution.Request.call call block) state
  ({ outcome }, state)

end Backend

end NodeGateway.Service
