import NodeGateway.Fault
import NodeGateway.Http.Failure
import NodeGateway.Http.Status

/-!
# Errors of Beacon Nodes

What the binding to a beacon node reports, and the fault that it becomes. A status that is no
success and a body that cannot be decoded keep their whole wording, since both tell something
that the node answered.
-/

namespace NodeGateway

/-- What the binding to a **beacon node** reports. -/
inductive BeaconError where
  | disconnected (detail : String)
  | timeout (detail : String)
  | status (code : Nat) (body : String)
  | other (detail : String)
  deriving DecidableEq, Repr

namespace BeaconError

/-- The wording of the report. -/
def message : BeaconError → String
  | disconnected detail => "connection lost: " ++ detail
  | timeout detail => "request timed out: " ++ detail
  | status code body => "beacon node responded with " ++ Http.statusLine code ++ ": " ++ body
  | other detail => "other error: " ++ detail

/-- The fault that the report amounts to. -/
def toFault : BeaconError → Fault
  | disconnected detail => .disconnected detail
  | timeout detail => .timeout detail
  | status code body => .other (status code body).message
  | other detail => .other (other detail).message

/-- The report of a failed transport. -/
def ofFailure (failure : Http.Failure) : BeaconError :=
  if failure.isConnectionFailure then disconnected failure.text
  else match failure.kind with
    | .timeout => timeout failure.text
    | .decode => other ("malformed response: " ++ failure.text)
    | _ => other failure.text

end BeaconError

end NodeGateway
