import NodeGateway.Text.Search

/-!
# Connection Failures

A transport reports a failure as a chain of causes, the outermost first. This module decides
whether such a chain means that **no connection could be made or kept**. One layer is enough:
it is an input/output error of one of eight kinds, or its text holds one of ten phrases in some
ASCII case.

Whatever an endpoint did answer is no connection failure, and neither is a slow answer: neither
a wrong status nor a body that cannot be read has such a layer by itself.
-/

namespace NodeGateway

/-- The **kind of an input/output error**, as far as it matters here. -/
inductive IoKind where
  | connectionRefused
  | connectionReset
  | connectionAborted
  | notConnected
  | brokenPipe
  | addressNotAvailable
  | hostUnreachable
  | networkUnreachable
  | timedOut
  | invalidData
  | unrelated
  deriving DecidableEq, Repr

/-- The kind with a name; names that do not matter here stand for unrelated kinds. -/
def IoKind.ofName : String → IoKind
  | "ConnectionRefused" => connectionRefused
  | "ConnectionReset" => connectionReset
  | "ConnectionAborted" => connectionAborted
  | "NotConnected" => notConnected
  | "BrokenPipe" => brokenPipe
  | "AddrNotAvailable" => addressNotAvailable
  | "HostUnreachable" => hostUnreachable
  | "NetworkUnreachable" => networkUnreachable
  | "TimedOut" => timedOut
  | "InvalidData" => invalidData
  | _ => unrelated

/-- Whether an input/output error of this kind means that there is no connection. -/
def IoKind.isConnectionLoss : IoKind → Bool
  | connectionRefused | connectionReset | connectionAborted | notConnected | brokenPipe
  | addressNotAvailable | hostUnreachable | networkUnreachable => true
  | timedOut | invalidData | unrelated => false

/-- One **layer** of a chain of causes: its text, and its kind if it is an input/output error. -/
structure Layer where
  text : String
  io : Option IoKind := none
  deriving DecidableEq, Repr

/-- A **chain of causes**, the outermost first. -/
abbrev CauseChain := List Layer

/-- What failures of name resolution say. -/
def resolutionPhrases : List String :=
  ["dns error", "failed to lookup address", "name or service not known", "no such host",
    "nodename nor servname provided", "temporary failure in name resolution"]

/-- What failures of a connection say. -/
def connectionPhrases : List String :=
  ["connection refused", "connection reset", "connection aborted", "broken pipe"]

/-- Whether a text mentions a connection failure. -/
def mentionsConnectionFailure (text : String) : Bool :=
  (resolutionPhrases ++ connectionPhrases).any (Text.mentions text)

namespace Layer

/-- Whether a layer by itself says that there is no connection. -/
def isConnectionFailure (layer : Layer) : Bool :=
  layer.io.any IoKind.isConnectionLoss || mentionsConnectionFailure layer.text

end Layer

namespace CauseChain

/-- Whether a chain of causes means that no connection could be made or kept. -/
def isConnectionFailure : CauseChain → Bool
  | [] => false
  | layer :: causes => layer.isConnectionFailure || isConnectionFailure causes

/-- The text of the outermost layer. -/
def text : CauseChain → String
  | [] => ""
  | layer :: _ => layer.text

end CauseChain

end NodeGateway
