import NodeGateway.Fault
import NodeGateway.Fault.Revert
import NodeGateway.Http.Failure
import NodeGateway.Http.Status

/-!
# Errors of Execution Nodes

A call to an execution node fails in one of the ways of `RpcError`. The binding reports it as an
`ExecutionError`, and that becomes a `Fault`.

Only two things count as a lost connection: a transport that is gone, and a transport failure
whose causes say so. What a node **answers** is never a lost connection, whatever its text: an
error response is a revert if it has the code for one or mentions one, and otherwise just an
error.
-/

namespace NodeGateway

/-- How a **call to an execution node** fails. -/
inductive RpcError where
  /-- The node answered with an error object. Its data are kept as the node wrote them. -/
  | response (code : Int) (message : String) (data : Option String)
  /-- The node answered `null` where a value was due. -/
  | nullResponse
  /-- The provider lacks a feature that was asked for. -/
  | unsupported (feature : String := "subscriptions")
  /-- The provider was used wrongly. -/
  | localUsage (detail : String)
  /-- The request could not be written down. -/
  | unserializable (detail : String)
  /-- The answer could not be read. The report goes on with what its reader says, and with the text
  that it was given. -/
  | malformed (report : String)
  /-- A batch answer lacked the answer to one request. -/
  | missingBatchResponse (id : String)
  /-- The task that serves the connection has stopped. -/
  | backendGone
  /-- Subscriptions are not available. -/
  | subscriptionsUnavailable
  /-- The server answered with a status that is no success. -/
  | status (code : Nat) (body : String)
  /-- The transport failed. -/
  | transport (failure : Http.Failure)

namespace RpcError

/-- The data of an error response, as it is appended to the message. -/
def dataText : Option String → String
  | none => ""
  | some data => ", data: " ++ data

/-- The **wording** of a failed call. -/
def message : RpcError → String
  | response code message data =>
    "server returned an error response: error code " ++ toString code ++ ": " ++ message
      ++ dataText data
  | nullResponse => "server returned a null response when a non-null response was expected"
  | unsupported feature => "unsupported feature: " ++ feature
  | localUsage detail => "local usage error: " ++ detail
  | unserializable detail => "serialization error: " ++ detail
  | malformed report => "deserialization error" ++ report
  | missingBatchResponse id => "missing response for request with ID " ++ id
  | backendGone => "backend connection task has stopped"
  | subscriptionsUnavailable => "subscriptions are not available on this provider"
  | status code body =>
    "HTTP error " ++ toString code ++
      (if body.isEmpty then " with empty body" else " with body: " ++ body)
  | transport failure => failure.text

end RpcError

/-- What the binding to an **execution node** reports. -/
inductive ExecutionError where
  | disconnected (detail : String)
  | timeout (detail : String)
  | reverted (reason : String)
  | other (detail : String)
  deriving DecidableEq, Repr

namespace ExecutionError

/-- The wording of the report. -/
def message : ExecutionError → String
  | disconnected detail => "connection lost: " ++ detail
  | timeout detail => "request timed out: " ++ detail
  | reverted reason => reason
  | other detail => "other error: " ++ detail

/-- The fault that the report amounts to; the detail is kept without the wording around it. -/
def toFault : ExecutionError → Fault
  | disconnected detail => .disconnected detail
  | timeout detail => .timeout detail
  | reverted reason => .reverted reason
  | other detail => .other detail

/-- The code of an error response that stands for a revert. -/
def revertCode : Int := 3

/-- Whether an error response reports a revert. -/
def isRevert (code : Int) (message : String) : Bool :=
  code = revertCode || Text.mentions message "revert"

/-- The report of a failed transport. -/
def ofFailure (failure : Http.Failure) : ExecutionError :=
  match failure.kind with
  | .connect => disconnected failure.text
  | .timeout => timeout failure.text
  | _ =>
    if failure.causes.isConnectionFailure then disconnected failure.text
    else other failure.text

/-- The report of a failed call. -/
def ofRpcError : RpcError → ExecutionError
  | .response code message data =>
    if isRevert code message then reverted (Revert.normalize message)
    else other (RpcError.message (.response code message data))
  | .backendGone => disconnected (RpcError.message .backendGone)
  | .transport failure => ofFailure failure
  | error => other error.message

end ExecutionError

end NodeGateway
