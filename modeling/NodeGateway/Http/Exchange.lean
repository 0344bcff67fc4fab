import NodeGateway.Http.Failure
import NodeGateway.Json.Complaint
import NodeGateway.Json.Reader
import NodeGateway.Request.Scope
import NodeGateway.Url.Reader

/-!
# Exchanges

One **exchange** over HTTP: a call goes out, and a response comes back or does not. Who answers is a
`Network`, a function on calls with a state of its own, so a binding to some kind of node is a
function of what the network does and of nothing else.

## Main definitions

* `Http.Call`, `Http.Response`, `Http.Reply` and `Http.Network`;
* `Http.Failure.refused`, `dropped`, `brokenOff` and `undecodable`, the failures of an exchange;
* `Http.Reply.outcome`, which turns what came back into the outcome of a request, and
  `Http.Response.decode`, which reads a body as a document;
* `Http.Network.unreachable`, on which nothing accepts a connection.
-/

namespace NodeGateway.Http

/-- A **call**: with a body it is posted, and without one it is a plain request for the URL. -/
structure Call where
  url : Url
  body : Option Json := none

/-- A **response**: its status and its body, if the body arrived as a whole. -/
structure Response where
  status : Nat
  body : Option Bytes
  deriving DecidableEq, Repr

/-- What comes back of a call. -/
inductive Reply where
  /-- No connection was made. -/
  | refused
  /-- The connection was closed before anything came back. -/
  | dropped
  /-- Nothing comes back, however long the caller waits. -/
  | silence
  | response (response : Response)
  deriving DecidableEq, Repr

/-- Whoever answers calls, with a state. -/
abbrev Network (σ : Type) := Call → σ → Reply × σ

/-- The **unreachable** network: nothing accepts a connection. -/
def Network.unreachable : Network σ := fun _ state => (.refused, state)

namespace Failure

/-- The text of a call that could not be sent. -/
def sendingText (url : Url) : String := "error sending request for url (" ++ url.text ++ ")"

/-- The text of a body that could not be read, with the URL if the transport names it. -/
def decodingText (url : Option Url) : String :=
  "error decoding response body" ++ (url.elim "" fun url => " for url (" ++ url.text ++ ")")

/-- The failure of a call whose connection was refused. -/
def refused (url : Url) : Failure where
  kind := .connect
  causes := [{ text := sendingText url },
    { text := "connection refused", io := some .connectionRefused }]

/-- The failure of a call whose connection was closed without a response. -/
def dropped (url : Url) : Failure where
  kind := .other
  causes := [{ text := sendingText url }, { text := "connection closed before message completed" }]

/-- The failure of a body that broke off. -/
def brokenOff (url : Option Url) : Failure where
  kind := .decode
  causes := [{ text := decodingText url },
    { text := "end of file before message length reached" }]

/-- The failure of a body that is no document of the expected form, given what its reader complains
about. -/
def undecodable (complaint : String) : Failure where
  kind := .decode
  causes := [{ text := decodingText none }, { text := complaint }]

/-- The failure of a call for which no URL can be built. -/
def unbuildable : Failure where
  kind := .other
  causes := [{ text := "builder error" }]

end Failure

namespace Response

/-- The text of a body. -/
def text (body : Bytes) : String := String.ofList (Utf8.decode body)

/-- The body as text, or a note that it could not be read. -/
def bodyText (response : Response) : String :=
  match response.body with
  | some body => text body
  | none => "<failed to read response body: " ++ (Failure.brokenOff none).text ++ ">"

/-- The document that a body holds, if it holds one. It need not be whole. -/
def document? (body : Bytes) : Option Json := Json.parseBytes? body

/-- The beginning of the document that a body holds or should hold. A reader goes through it before
it notices that the document breaks off. -/
def beginning? (body : Bytes) : Option Json := Json.beginBytes? body

/-- **Decodes** the body with a reader of documents, given what is complained about the beginning of
a document that it does not take. -/
def decode (read : Json → Option α) (complaint : Option Json → String) (response : Response) :
    Except Failure α :=
  match response.body with
  | none => .error (.brokenOff none)
  | some body =>
    match (document? body).bind read with
    | some value => .ok value
    | none => .error (.undecodable (complaint (beginning? body)))

end Response

/-- The **outcome** of a request, given the name under which it is guarded, how the failure of a
transport is reported, and what follows from a response. A call that nothing comes back for runs
into its deadline. -/
def Reply.outcome (name : String) (url : Url) (report : Failure → Fault)
    (answer : Response → Outcome α) : Reply → Outcome α
  | .refused => .error (report (.refused url))
  | .dropped => .error (report (.dropped url))
  | .silence => .error (deadlineExceeded name)
  | .response given => answer given

end NodeGateway.Http
