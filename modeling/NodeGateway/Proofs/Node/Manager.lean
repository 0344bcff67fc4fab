import NodeGateway.Beacon.Manager
import NodeGateway.Execution.Manager
import NodeGateway.Proofs.Node.Pool

/-!
# Managers Pass on What They Are Asked

A manager has a wrapper for each method of its clients. A wrapper that is right in ordinary times
may still be wrong when it matters: if it called another method, or gave the second attempt
something else to ask with than the first, that would only show while an endpoint is lost. This
module goes through the wrappers of both kinds of managers and shows that none of them does.

A kind of client is **lawful** (`Port.Lawful`) if its tables fit together: a client that answers
requests in some way answers each of them in this way when the method of the request is called, and
the wrapper for a method dispatches the call of this very method with these very arguments. The two
ports are lawful, which is seen method by method (`Execution.port_lawful`, `Beacon.port_lawful`).
Everything else follows from that for both at once.

## Main results

* `Port.Lawful.call_eq`: a manager is called like the pool of the endpoints behind it;
* `Port.Lawful.passesOn`: what the attempts of a call do, in a lawful port;
* `managers_pass_on`: the managers of execution nodes and of beacon nodes pass on what they are
  asked, whatever it is.
-/

namespace NodeGateway

variable {I : Interface}

namespace Port

/-- A port is **lawful** if its clients do what they are asked and its managers dispatch it. -/
structure Lawful (port : Port I) : Prop where
  /-- A client that answers requests in some way answers this request so. -/
  invoke_ofResponder : ∀ {σ : Type} (respond : (request : I.Request) → Asking σ (I.Reply request))
    (request : I.Request), port.invoke (port.ofResponder respond) request = respond request
  /-- The wrapper for the method of a request dispatches the same method with the same
  arguments. -/
  invoke_manager : ∀ {σ : Type} (clients : Clients (port.Client σ) σ) (request : I.Request),
    port.invoke (port.manager clients) request =
      clients.dispatch fun client => port.invoke client request

/-- The endpoints that some clients are. -/
def endpoints (port : Port I) (clients : Clients (port.Client σ) σ) : Endpoints I σ where
  now := clients.now
  call role request := port.invoke (clients.client role) request

/-- The same clients with a **record** of which of their methods were called, with which arguments,
and how that ended. -/
def recorded (port : Port I) (clients : Clients (port.Client σ) σ) :
    Clients (port.Client (σ × List (Role × Exchange I))) (σ × List (Role × Exchange I)) :=
  port.clients (port.endpoints clients).recorded

/-- A manager **passes on** a request. -/
structure PassesOn (port : Port I) (clients : Clients (port.Client σ) σ) (request : I.Request)
    (pool : Pool) (state : σ) (made : List (Role × Exchange I)) : Prop where
  /-- Its method ends like the dispatch of the same method with the same arguments, in the outcome
  and in what is left behind. -/
  dispatched : port.invoke (port.manager clients) request (pool, state) =
    clients.dispatch (fun client => port.invoke client request) (pool, state)
  /-- There is one entry on record for each attempt of that dispatch, in their order. Each of them
  is a call of the same method with the same arguments, of the client in the role of the attempt,
  and the attempts are a course that a dispatch can take. -/
  recorded :
    let served :=
      pool.dispatch (clients.surroundings fun client => port.invoke client request) state
    ∃ course, course.map Prod.fst = served.attempts ∧
      Stands pool.clientType pool.hasFallback (.ended served.outcome) course ∧
      port.invoke (port.manager (port.recorded clients)) request (pool, state, made) =
        (served.outcome, served.pool, served.state,
          made ++ course.map fun ended => (ended.1.role, ⟨request, ended.2⟩)) ∧
      (pool.hasFallback = true → served.attempts ∈ attemptSequences)
  /-- Without a fallback the answer of the primary is that of the manager. -/
  alone : pool.hasFallback = false →
    let single := port.invoke (clients.client .primary) request state
    port.invoke (port.manager clients) request (pool, state) = (single.1, pool, single.2)

namespace Lawful

variable {port : Port I} (lawful : port.Lawful)

include lawful

/-- A manager is called like **the pool of the endpoints** that its clients are. -/
theorem invoke_manager_eq (clients : Clients (port.Client σ) σ) (request : I.Request) :
    port.invoke (port.manager clients) request = Pool.call (port.endpoints clients) request :=
  lawful.invoke_manager clients request

/-- The clients that some endpoints are have these endpoints. -/
theorem endpoints_clients (endpoints : Endpoints I σ) :
    port.endpoints (port.clients endpoints) = endpoints := by
  have hcall : (fun role request => port.invoke (port.ofResponder (endpoints.call role)) request) =
      endpoints.call := by
    funext role request
    exact lawful.invoke_ofResponder (endpoints.call role) request
  rw [Port.endpoints, clients, hcall]

/-- **Calling the manager** of some endpoints is calling their pool. -/
theorem call_eq (endpoints : Endpoints I σ) (request : I.Request) :
    port.call endpoints request = Pool.call endpoints request := by
  rw [call, lawful.invoke_manager_eq, lawful.endpoints_clients]

/-- In a lawful port **managers pass on** what they are asked. -/
theorem passesOn (clients : Clients (port.Client σ) σ) (request : I.Request) (pool : Pool)
    (state : σ) (made : List (Role × Exchange I)) :
    port.PassesOn clients request pool state made := by
  obtain ⟨-, ⟨course, hcourse, hstands, hrecord⟩, hfallback, halone⟩ :=
    Pool.record_of_call (port.endpoints clients) request pool state made
  constructor
  case dispatched => exact congrFun (lawful.invoke_manager clients request) (pool, state)
  case recorded =>
    refine ⟨course, hcourse, hstands, ?_, hfallback⟩
    rw [lawful.invoke_manager_eq, Port.recorded, lawful.endpoints_clients]
    exact hrecord
  case alone =>
    intro hnone
    rw [lawful.invoke_manager_eq]
    exact (halone hnone).2

end Lawful

end Port

/-- The **wrappers for execution nodes**, method by method. -/
theorem Execution.port_lawful : Execution.port.Lawful where
  invoke_ofResponder _ request := by cases request <;> rfl
  invoke_manager _ request := by cases request <;> rfl

/-- The **wrappers for beacon nodes**, method by method. -/
theorem Beacon.port_lawful : Beacon.port.Lawful where
  invoke_ofResponder _ request := by cases request <;> rfl
  invoke_manager _ request := by cases request <;> rfl

/-- **Managers pass on what they are asked**, for every method of both kinds of nodes, whatever
arguments it is called with, clients that behave in whatever way and pools in whatever state. -/
theorem managers_pass_on :
    (∀ (σ : Type) (clients : Clients (Execution.Client σ) σ) (request : Execution.Request)
      (pool : Pool) (state : σ) (made : List (Role × Exchange Execution.interface)),
      Execution.port.PassesOn clients request pool state made) ∧
    ∀ (σ : Type) (clients : Clients (Beacon.Client σ) σ) (request : Beacon.Request)
      (pool : Pool) (state : σ) (made : List (Role × Exchange Beacon.interface)),
      Beacon.port.PassesOn clients request pool state made :=
  ⟨fun _ => Execution.port_lawful.passesOn, fun _ => Beacon.port_lawful.passesOn⟩

end NodeGateway
