import NodeGateway.Json.Float
import NodeGateway.Metrics.Pool
import NodeGateway.Service.Balances
import NodeGateway.Service.Simulate
import NodeGateway.Service.Status
import NodeGateway.Url.Reader

/-!
# Routes of the Service

Which request of a caller is served in which way. Whatever has no route is not found, and neither is
a route asked for with another verb than its own.
-/

namespace NodeGateway.Service

/-- A **request** of a caller: its verb, its target and its body. -/
structure Request where
  verb : String
  target : String
  body : Option String := none
  deriving DecidableEq, Repr

namespace Request

/-- The target without what stands behind `#`. -/
def locator (request : Request) : List Char := (Url.cut '#' request.target.toList).1

/-- The path that is asked for. -/
def path (request : Request) : String :=
  String.ofList (Utf8.decode (Percent.decode (Url.cut '?' request.locator).1))

/-- The query, empty without one. -/
def query (request : Request) : List Char := ((Url.cut '?' request.locator).2).getD []

end Request

/-- The JSON form of gas prices. -/
def pricesJson (prices : GasPrices) : Json :=
  .obj [("slow_gwei", .float prices.slow), ("standard_gwei", .float prices.standard),
    ("fast_gwei", .float prices.fast)]

/-- The response with the oracle's prices. -/
def gas (backend : Backend σ τ ω) (state : State σ τ ω) : Response × State σ τ ω :=
  match backend.oracle with
  | none => (⟨404, .text "no gas oracle configured"⟩, state)
  | some ask =>
    let (outcome, oracle) := ask state.oracle
    (.ofResult pricesJson (outcome.mapError Problem.ofFault), { state with oracle })

/-- The collectors of both pools. -/
def State.collectors (state : State σ τ ω) : List Collector :=
  state.execution.1.collectors ++ state.beacon.1.collectors

/-- The response with the metrics of a registry. -/
def metrics (registry : Registry) (state : State σ τ ω) : Response :=
  ⟨200, .text (registry.exposition state.collectors)⟩

/-- The **response** to a request, with the state behind it. -/
def respond [Wording] (backend : Backend σ τ ω) (registry : Registry) (request : Request)
    (state : State σ τ ω) : Response × State σ τ ω :=
  match request.verb, request.path with
  | "GET", "/health" => (health state, state)
  | "GET", "/status" => status backend state
  | "GET", "/balances" => balances backend request.query state
  | "POST", "/simulate" => simulate backend request.body state
  | "GET", "/gas" => gas backend state
  | "GET", "/metrics" => (metrics registry state, state)
  | _, _ => (.notFound, state)

end NodeGateway.Service
