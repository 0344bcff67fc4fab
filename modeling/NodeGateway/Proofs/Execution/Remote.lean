import NodeGateway.Execution.Rpc
import NodeGateway.Proofs.Failover.Forced

/-!
# How Remote Calls End

A remote call to an execution node **ends** in one of three ways: it returns, with a result or with
an error, its deadline passes, or its caller gives it up. The outcome that is reported says less
than this: a fault has a text, and the errors of ten kinds have become faults of four.

What must survive is the difference between a node that was **not reached** and one that answered.
It is stated here on the calls themselves, without any of the faults (`RpcError.Unreached`,
`CallEnd.Unreached`), and the reported outcome keeps it: an error response is never a node that was
not reached, whatever its code, its message and its data, and neither are an absent result and a
status that is no success.

The transport has the last word on its own failures. They count by what it takes them for and by
their causes, so a connection that the node closes without a word counts as an answer, as long as no
cause of it says that the connection was lost.

## Main results

* `isUnreachable_rpcFault_iff` and `CallEnd.isUnreachable_outcome_iff`: the reported outcome says
  that no endpoint was reached exactly if none was;
* `endpoints_eq_remoteEndpoints`: the nodes at two URLs are endpoints whose calls end so.
-/

namespace NodeGateway

/-- A failed call has **not reached** the node: the task that serves the connection has stopped, or
the transport had no connection or no time. -/
inductive RpcError.Unreached : RpcError → Prop
  | backendGone : Unreached .backendGone
  | noConnection {failure : Http.Failure} (lost : failure.isConnectionFailure = true) :
      Unreached (.transport failure)
  | noTime {failure : Http.Failure} (late : failure.kind = .timeout) :
      Unreached (.transport failure)

namespace Execution

/-! ### Failed calls -/

/-- The report of a failed transport says that no endpoint was reached if the transport had no
connection or no time. -/
theorem isUnreachable_ofFailure (failure : Http.Failure) :
    (ExecutionError.ofFailure failure).toFault.isUnreachable =
      (failure.isConnectionFailure || failure.kind = .timeout) := by
  unfold ExecutionError.ofFailure Http.Failure.isConnectionFailure
  cases failure.kind with
  | connect => rfl
  | timeout => simp [ExecutionError.toFault, Fault.isUnreachable]
  | decode | other =>
      cases failure.causes.isConnectionFailure <;>
        simp [ExecutionError.toFault, Fault.isUnreachable]

/-- An error response is an answer, be it a revert or not. -/
theorem isUnreachable_response (code : Int) (message : String) (data : Option String) :
    (rpcFault (.response code message data)).isUnreachable = false := by
  rw [rpcFault, ExecutionError.ofRpcError]
  split <;> rfl

/-- **The fault of a failed call** says that no endpoint was reached exactly if the call has not
reached one. -/
theorem isUnreachable_rpcFault_iff {error : RpcError} :
    (rpcFault error).isUnreachable = true ↔ error.Unreached := by
  cases error with
  | backendGone => exact ⟨fun _ => .backendGone, fun _ => rfl⟩
  | transport failure =>
      change (ExecutionError.ofFailure failure).toFault.isUnreachable = true ↔ _
      rw [isUnreachable_ofFailure, Bool.or_eq_true, decide_eq_true_iff]
      constructor
      · rintro (hlost | hlate)
        · exact .noConnection hlost
        · exact .noTime hlate
      · rintro (_ | hlost | hlate)
        · exact .inl hlost
        · exact .inr hlate
  | response code message data =>
      rw [isUnreachable_response]
      exact ⟨nofun, nofun⟩
  | _ => exact ⟨nofun, nofun⟩

/-! ### Calls that end -/

/-- How a remote call **ends**: it returns a result or an error, or it runs into its deadline, or it
is given up. -/
inductive CallEnd (α : Type) where
  | returned (result : Except RpcError α)
  | late
  | cancelled

namespace CallEnd

/-- The **outcome** that the end of a call of some name is reported with. -/
def outcome (name : String) : CallEnd α → Outcome α
  | returned result => result.mapError rpcFault
  | late => .error (deadlineExceeded name)
  | cancelled => .error .cancelled

/-- A call that ends so has **not reached** the node. -/
inductive Unreached : CallEnd α → Prop
  | failed {error : RpcError} (h : error.Unreached) : Unreached (.returned (.error error))
  | late : Unreached .late
  | cancelled : Unreached .cancelled

/-- **The outcome of a call** says that no endpoint was reached exactly if the call has not reached
one. -/
theorem isUnreachable_outcome_iff (name : String) {ended : CallEnd α} :
    (ended.outcome name).isUnreachable = true ↔ ended.Unreached := by
  cases ended with
  | returned result =>
      cases result with
      | ok value => exact ⟨nofun, nofun⟩
      | error error =>
          change (rpcFault error).isUnreachable = true ↔ _
          rw [isUnreachable_rpcFault_iff]
          exact ⟨.failed, fun (.failed h) => h⟩
  | late => exact ⟨fun _ => .late, fun _ => rfl⟩
  | cancelled => exact ⟨fun _ => .cancelled, fun _ => rfl⟩

/-- How a call ends that a network replies to. -/
def ofReply [Wording] (method : Method) (url : Url) : Http.Reply → CallEnd method.Answer
  | .refused => .returned (.error (.transport (.refused url)))
  | .dropped => .returned (.error (.transport (.dropped url)))
  | .silence => .late
  | .response response => .returned (method.ofResponse url response)

end CallEnd

/-! ### Endpoints -/

/-- The endpoints whose remote calls end as `remote` says, from a state that shows the time. -/
def remoteEndpoints (now : σ → Readings)
    (remote : Role → (request : Request) → σ → CallEnd request.method.Answer × σ) :
    Endpoints interface σ where
  now := now
  call role request state :=
    let (ended, state) := remote role request state
    (ended.outcome request.method.remoteName, state)

/-- What a call over a network comes to is what its end is reported with. -/
theorem call_eq [Wording] (network : Http.Network σ) (encode : SignedTransaction → Bytes)
    (url : Url) (request : Request) (state : σ) :
    call network encode url request state =
      let (reply, after) := network { url, body := some (request.document encode) } state
      ((CallEnd.ofReply request.method url reply).outcome request.method.remoteName, after) := by
  unfold call
  rcases network { url, body := some (request.document encode) } state with ⟨reply, after⟩
  cases reply <;> rfl

/-- **The nodes at two URLs** are endpoints whose remote calls end as the network's replies say. -/
theorem endpoints_eq_remoteEndpoints [Wording] (network : Http.Network σ)
    (encode : SignedTransaction → Bytes) (now : σ → Instant) (url : Role → Url) :
    endpoints network encode now url = remoteEndpoints (fun state => now state)
      fun role request state =>
        let (reply, after) :=
          network { url := url role, body := some (request.document encode) } state
        (.ofReply request.method (url role) reply, after) := by
  unfold endpoints remoteEndpoints
  congr 1
  funext role request state
  exact call_eq network encode (url role) request state

end Execution

end NodeGateway
