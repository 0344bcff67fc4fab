import NodeGateway.Failover.Dispatch
import NodeGateway.Node.Interface

/-!
# Pools of Nodes

A pool in front of nodes of one kind has the same interface as a single node: a request is
dispatched, and every attempt of the dispatch hands the very same request to an endpoint.
-/

namespace NodeGateway

/-- The **endpoints** behind a pool: a state that shows the time and answers a request that is
made to the endpoint in some role. -/
structure Endpoints (I : Interface) (σ : Type) where
  now : σ → Readings
  call : Role → (request : I.Request) → σ → Outcome (I.Reply request) × σ

namespace Endpoints

/-- What surrounds the dispatch of one request. -/
def surroundings (endpoints : Endpoints I σ) (request : I.Request) :
    Surroundings σ (I.Reply request) where
  now := endpoints.now
  attempt attempt state := endpoints.call attempt.role request state

end Endpoints

namespace Pool

/-- **Calls** the nodes behind a pool. -/
def call (endpoints : Endpoints I σ) (request : I.Request) (state : Pool × σ) :
    Outcome (I.Reply request) × (Pool × σ) :=
  let run := state.1.dispatch (endpoints.surroundings request) state.2
  (run.outcome, (run.pool, run.state))

end Pool

/-- A **bench**: scripted nodes in both roles, a manual clock, and the calls made so far. -/
structure Bench (I : Interface) where
  clock : ManualClock
  primary : ScriptedNode I
  fallback : ScriptedNode I
  calls : List (Role × I.Request) := []

namespace Bench

/-- The endpoints that a bench provides. -/
def endpoints (I : Interface) : Endpoints I (Bench I) where
  now bench := bench.clock.now
  call role request bench :=
    let bench := { bench with calls := bench.calls ++ [(role, request)] }
    match role with
    | .primary =>
      let (answer, node) := bench.primary.respond request
      (answer.outcome, { bench with primary := node })
    | .fallback =>
      let (answer, node) := bench.fallback.respond request
      (answer.outcome, { bench with fallback := node })

end Bench

end NodeGateway
