import NodeGateway.Beacon.Error
import NodeGateway.Beacon.Request
import NodeGateway.Http.Exchange
import NodeGateway.Node.Pool

/-!
# The Binding to Beacon Nodes

How requests to a beacon node are put into calls and how its responses are read. A request has a
**route**: a path behind the base of the node, a query, and a document to be posted if there is one.

A response with a status that is no success is a fault, with one exception: a node that does not
know a block says so with the status 404, and then there is no block. A response to a submission is
not looked into any further; every other body is decoded.

## Main definitions

* `Beacon.Request.route` and `Beacon.Route.url`;
* `Beacon.fetched`, `Beacon.required` and `Beacon.submitted`, the three readings of a response;
* `Beacon.Method.ofResponse` and `Beacon.call`.
-/

namespace NodeGateway.Beacon

/-- The **route** of a request. -/
structure Route where
  path : String
  query : List (String × String) := []
  body : Option Json := none

/-- The route of a request. -/
def Request.route : Request → Route
  | nodeSyncing => { path := "/eth/v1/node/syncing" }
  | configSpec => { path := "/eth/v1/config/spec" }
  | depositContract => { path := "/eth/v1/config/deposit_contract" }
  | genesis => { path := "/eth/v1/beacon/genesis" }
  | finalityCheckpoints state =>
    { path := "/eth/v1/beacon/states/" ++ state ++ "/finality_checkpoints" }
  | fork state => { path := "/eth/v1/beacon/states/" ++ state ++ "/fork" }
  | header id => { path := "/eth/v1/beacon/headers/" ++ id }
  | attestations id => { path := "/eth/v1/beacon/blocks/" ++ id ++ "/attestations" }
  | block id => { path := "/eth/v2/beacon/blocks/" ++ id }
  | validators state ids =>
    { path := "/eth/v1/beacon/states/" ++ state ++ "/validators"
      query := if ids.isEmpty then [] else [("id", String.intercalate "," ids)] }
  | committees state epoch =>
    { path := "/eth/v1/beacon/states/" ++ state ++ "/committees"
      query := (epoch.map fun n => ("epoch", toString n)).toList }
  | submitVoluntaryExit exit =>
    { path := "/eth/v1/beacon/pool/voluntary_exits", body := some (voluntaryExit.write exit) }
  | submitCredentialsChange change =>
    { path := "/eth/v1/beacon/pool/bls_to_execution_changes"
      body := some (.array [credentialsChange.write change]) }
  | proposerDuties epoch => { path := "/eth/v1/validator/duties/proposer/" ++ toString epoch }
  | syncDuties indices epoch =>
    { path := "/eth/v1/validator/duties/sync/" ++ toString epoch
      body := some (.array (indices.map .str)) }

/-- The URL of a route behind a base, whose slashes at the end do not count. -/
def Route.url (base : Url) (route : Route) : Except UrlError Url := do
  let url ← Url.parse (Url.trimSlashes base.text ++ route.path)
  return if route.query.isEmpty then url else url.appendQuery route.query

/-! ### Reading responses -/

/-- Whether a response says that the node does not know what it was asked for. -/
def isUnknown (response : Http.Response) : Bool := response.status = 404

/-- The response, if its status is a success. -/
def successful (response : Http.Response) : Outcome Http.Response :=
  if Http.isSuccess response.status then .ok response
  else .error (BeaconError.status response.status response.bodyText).toFault

/-- Reads a response with a body of some shape. There is none if the node does not know what it was
asked for and `mayBeUnknown` allows that. -/
def fetched (shape : Shape) (mayBeUnknown : Bool) (response : Http.Response) :
    Outcome (Option shape.Value) :=
  if mayBeUnknown && isUnknown response then .ok none
  else do
    let response ← successful response
    match response.decode shape.read? shape.complaint with
    | .ok value => .ok (some value)
    | .error failure => .error (BeaconError.ofFailure failure).toFault

/-- The fault of a body that has to be there and is not. -/
def noBody (path host : String) : Fault :=
  .other (path ++ " on " ++ host ++ " returned no body")

/-- A body that has to be there. -/
def required (path host : String) : Option α → Outcome α
  | some body => .ok body
  | none => .error (noBody path host)

/-- Reads a response with an enveloped body that has to be there. -/
def enveloped (path host : String) (data : Shape) (response : Http.Response) :
    Outcome data.Value := do
  let body ← required path host (← fetched (envelope data) false response)
  return body.1

/-- Reads a response with an enveloped body that the node may not know. -/
def envelopedIfKnown (data : Shape) (response : Http.Response) : Outcome (Option data.Value) :=
  return (← fetched (envelope data) true response).map (·.1)

/-- Reads the response to a submission. -/
def submitted (response : Http.Response) : Outcome Unit := do
  let _ ← successful response
  return ()

/-- Reads the **response** to a request of a method, whose path and host are named in faults. -/
def Method.ofResponse (path host : String) (response : Http.Response) :
    (method : Method) → Outcome method.answer.Value
  | nodeSyncing => enveloped path host syncStatus response
  | configSpec => enveloped path host chainSpec response
  | depositContract => enveloped path host Beacon.depositContract response
  | genesis => enveloped path host Beacon.genesis response
  | finalityCheckpoints => enveloped path host Beacon.finalityCheckpoints response
  | fork => enveloped path host Beacon.fork response
  | header => fetched blockHeaderResponse true response
  | attestations => envelopedIfKnown (.list attestation) response
  | block => return (← envelopedIfKnown signedBeaconBlock response).map (·.1)
  | validators => enveloped path host (.list validator) response
  | committees => enveloped path host (.list committee) response
  | submitVoluntaryExit => submitted response
  | submitCredentialsChange => submitted response
  | proposerDuties => enveloped path host (.list proposerDuty) response
  | syncDuties => enveloped path host (.list syncDuty) response

/-- The fault that the failure of a transport amounts to. -/
def transportFault (failure : Http.Failure) : Fault := (BeaconError.ofFailure failure).toFault

/-- **Calls** the beacon node at a base over a network. -/
def call (network : Http.Network σ) (base : Url) (request : Request) (state : σ) :
    Outcome request.method.answer.Value × σ :=
  let route := request.route
  match route.url base with
  | .error _ => (.error (transportFault .unbuildable), state)
  | .ok url =>
    let (reply, state) := network { url, body := route.body } state
    (reply.outcome route.path url transportFault
      (fun response => request.method.ofResponse route.path base.hostText response), state)

/-- The **endpoints** of a pool whose nodes are at the given bases. -/
def endpoints (network : Http.Network σ) (now : σ → Instant) (base : Role → Url) :
    Endpoints interface σ where
  now state := now state
  call role request state := call network (base role) request state

end NodeGateway.Beacon
