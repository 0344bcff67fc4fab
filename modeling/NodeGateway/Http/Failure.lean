import NodeGateway.Fault.Connection

/-!
# Transport Failures

What a transport reports when an exchange did not yield a usable answer: what it takes the
failure for itself, and the chain of causes.
-/

namespace NodeGateway.Http

/-- What a transport takes a failure for. -/
inductive FailureKind where
  /-- No connection was made. -/
  | connect
  /-- The exchange took too long. -/
  | timeout
  /-- A body arrived that could not be decoded. -/
  | decode
  /-- Anything else. -/
  | other
  deriving DecidableEq, Repr

/-- A **transport failure**. -/
structure Failure where
  kind : FailureKind
  causes : CauseChain
  deriving DecidableEq, Repr

namespace Failure

/-- The text that a failure is reported with. -/
def text (failure : Failure) : String := failure.causes.text

/-- Whether a failure means that the endpoint could not be reached: the transport says so or one
of the causes does. -/
def isConnectionFailure (failure : Failure) : Bool :=
  failure.kind = .connect || failure.causes.isConnectionFailure

end Failure

end NodeGateway.Http
