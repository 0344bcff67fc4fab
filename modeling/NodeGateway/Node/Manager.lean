import NodeGateway.Node.Pool

/-!
# Managers

A **manager** stands in front of two clients of one kind and is itself a client of that kind: it has
the same methods with the same arguments. Each of its methods is a wrapper that dispatches an
operation, and the operation says what every attempt does with the client that it is given.

What the methods of a kind of client are is told by its `Port`: clients are records with one member
for each method, a request can be made to a client, and whoever answers requests is a client.

## Main definitions

* `Asking`, what a client does when it is asked something;
* `Clients` and `Clients.dispatch`, which every wrapper goes through;
* `Port`, a kind of client with its manager, and `Port.call`, a call of the manager.
-/

namespace NodeGateway

/-- **Asking** for something from a state. -/
abbrev Asking (σ α : Type) : Type := σ → Outcome α × σ

/-- The **clients** behind a manager, one for each role, and the time that a state shows. -/
structure Clients (C σ : Type) where
  now : σ → Readings
  client : Role → C

namespace Clients

/-- What surrounds the dispatch of an operation: every attempt carries it out with the client in
its role. -/
def surroundings (clients : Clients C σ) (operation : C → Asking σ α) : Surroundings σ α where
  now := clients.now
  attempt attempt := operation (clients.client attempt.role)

/-- **Dispatches an operation.** -/
def dispatch (clients : Clients C σ) (operation : C → Asking σ α) : Asking (Pool × σ) α :=
  fun (pool, state) =>
    let run := pool.dispatch (clients.surroundings operation) state
    (run.outcome, (run.pool, run.state))

end Clients

/-- A **port**: a kind of client for an interface. -/
structure Port (I : Interface) where
  /-- What pools of such clients are called. -/
  clientType : String
  /-- A client that works on states of some type. -/
  Client : Type → Type
  /-- Calls the method of a request with its arguments. -/
  invoke : {σ : Type} → Client σ → (request : I.Request) → Asking σ (I.Reply request)
  /-- The client that answers each request in its own way. -/
  ofResponder : {σ : Type} → ((request : I.Request) → Asking σ (I.Reply request)) → Client σ
  /-- The manager of some clients. -/
  manager : {σ : Type} → Clients (Client σ) σ → Client (Pool × σ)

namespace Port

variable {I : Interface}

/-- The clients that some endpoints are. -/
def clients (port : Port I) (endpoints : Endpoints I σ) : Clients (port.Client σ) σ where
  now := endpoints.now
  client role := port.ofResponder (endpoints.call role)

/-- **Calls** the manager of some endpoints. -/
def call (port : Port I) (endpoints : Endpoints I σ) (request : I.Request) :
    Asking (Pool × σ) (I.Reply request) :=
  port.invoke (port.manager (port.clients endpoints)) request

end Port

end NodeGateway
