import NodeGateway.Fault
import NodeGateway.Http.Failure
import NodeGateway.Http.Status

/-!
# Errors of Gas Oracles

What the binding to a gas oracle reports, and the fault that it becomes. A request that the
oracle rejects is told apart from one that it answered with a wrong status.
-/

namespace NodeGateway

/-- What the binding to a **gas oracle** reports. -/
inductive OracleError where
  | disconnected (detail : String)
  | timeout (detail : String)
  | status (code : Nat)
  | rejected (reason : String)
  | other (detail : String)
  deriving DecidableEq, Repr

namespace OracleError

/-- The wording of the report. -/
def message : OracleError → String
  | disconnected detail => "connection lost: " ++ detail
  | timeout detail => "request timed out: " ++ detail
  | status code => "gas oracle responded with " ++ Http.statusLine code
  | rejected reason => "gas oracle rejected the request: " ++ reason
  | other detail => "other error: " ++ detail

/-- The fault that the report amounts to. -/
def toFault : OracleError → Fault
  | disconnected detail => .disconnected detail
  | timeout detail => .timeout detail
  | status code => .other (status code).message
  | rejected reason => .other (rejected reason).message
  | other detail => .other (other detail).message

/-- The report of a failed transport. -/
def ofFailure (failure : Http.Failure) : OracleError :=
  if failure.isConnectionFailure then disconnected failure.text
  else match failure.kind with
    | .timeout => timeout failure.text
    | .decode => other ("malformed gas oracle response: " ++ failure.text)
    | _ => other failure.text

end OracleError

end NodeGateway
