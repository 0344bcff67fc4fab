import NodeGateway.Proofs.Execution.Remote
import NodeGateway.Proofs.Fault.Connection

/-!
# What a Failed Call Is Reported As

The ways in which a remote call fails become faults in two steps, by way of what the binding
reports. This module says of every failure which fault it becomes and with which text, without
either step.

A failure is a **lost connection** (`RpcError.Lost`) if the task behind the connection has stopped,
if the transport made no connection, or if one layer of its causes, at any depth, tells of a loss.
It is **late** (`RpcError.Late`) if the transport ran out of time, whatever its causes tell. It
**reverts** (`RpcError.Reverts`) if it is an error response with the code for that or one whose
message says so. No failure is two of these, and one that is none of them is reported in its own
words.

All texts that the three look at are their own: the causes are those of the transport, and of an
error response only the message is read, for a single word. So nothing that a node writes into its
answer makes it a node that was lost or not reached.

## Main results

* `ExecutionError.ofRpcError_eq_iff`: the report of a failed call, as a relation;
* `Execution.rpcFault_iff`: which failed calls become which fault.
-/

namespace NodeGateway

/-! ### Kinds of failures -/

namespace RpcError

/-- A failed call has **lost its connection**. A transport that has run out of time is believed,
whatever its causes are. -/
inductive Lost : RpcError → Prop
  | backendGone : Lost .backendGone
  | noConnection {failure : Http.Failure} (kind_eq : failure.kind = .connect) :
      Lost (.transport failure)
  | told {failure : Http.Failure} {layer : Layer} (kind_ne : failure.kind ≠ .timeout)
      (mem : layer ∈ failure.causes) (loss : layer.TellsOfLoss) : Lost (.transport failure)

/-- A failed call came **late**. -/
inductive Late : RpcError → Prop
  | noTime {failure : Http.Failure} (kind_eq : failure.kind = .timeout) : Late (.transport failure)

/-- A failed call **reverts** for a reason. The code for that is three; nodes that have another one
say it. -/
inductive Reverts : RpcError → String → Prop
  | response {code : Int} {message : String} {data : Option String}
      (h : code = 3 ∨ Text.Says message "revert") :
      Reverts (.response code message data) (Revert.normalize message)

theorem Lost.not_late {error : RpcError} (h : error.Lost) : ¬ error.Late := by
  rintro ⟨htimeout⟩
  cases h with
  | noConnection hconnect =>
      rw [hconnect] at htimeout
      cases htimeout
  | told hkind => exact hkind htimeout

theorem Reverts.not_lost {error : RpcError} {reason : String} (h : error.Reverts reason) :
    ¬ error.Lost := by
  cases h
  rintro ⟨⟩

theorem Reverts.not_late {error : RpcError} {reason : String} (h : error.Reverts reason) :
    ¬ error.Late := by
  cases h
  rintro ⟨⟩

theorem Reverts.unique {error : RpcError} {reason other : String} (h : error.Reverts reason)
    (hother : error.Reverts other) : reason = other := by
  cases h
  cases hother
  rfl

end RpcError

/-! ### Reports -/

namespace ExecutionError

open RpcError (Lost Late Reverts)

/-- What a failed call is **reported** as. -/
inductive Reports (error : RpcError) : ExecutionError → Prop
  | lost (h : error.Lost) : Reports error (.disconnected error.message)
  | late (h : error.Late) : Reports error (.timeout error.message)
  | reverted {reason : String} (h : error.Reverts reason) : Reports error (.reverted reason)
  | other (notLost : ¬ error.Lost) (notLate : ¬ error.Late)
      (notReverts : ∀ reason, ¬ error.Reverts reason) : Reports error (.other error.message)

/-- An error response reports a revert by its code or by its message. -/
theorem isRevert_iff {code : Int} {message : String} :
    isRevert code message = true ↔ code = 3 ∨ Text.Says message "revert" := by
  rw [isRevert, Bool.or_eq_true, decide_eq_true_iff, Text.mentions_iff, revertCode]

/-- **The report** of a failed transport. -/
theorem reports_ofFailure (failure : Http.Failure) :
    Reports (.transport failure) (ofFailure failure) := by
  unfold ofFailure
  split
  case h_1 hconnect => exact .lost (.noConnection hconnect)
  case h_2 htimeout => exact .late (.noTime htimeout)
  case h_3 hconnect htimeout =>
    split
    case isTrue hcauses =>
      obtain ⟨layer, hmem, hloss⟩ := CauseChain.isConnectionFailure_iff.mp hcauses
      exact .lost (.told htimeout hmem hloss)
    case isFalse hcauses =>
      refine .other ?_ ?_ ?_
      · rintro (_ | hkind | ⟨-, hmem, hloss⟩)
        · exact hconnect hkind
        · exact hcauses (CauseChain.isConnectionFailure_iff.mpr ⟨_, hmem, hloss⟩)
      · rintro ⟨hkind⟩
        exact htimeout hkind
      · rintro _ ⟨⟩

/-- **The report** of a failed call. -/
theorem reports_ofRpcError (error : RpcError) : Reports error (ofRpcError error) := by
  cases error with
  | response code message data =>
      rw [ofRpcError]
      split
      case isTrue hrevert => exact .reverted (.response (isRevert_iff.mp hrevert))
      case isFalse hrevert =>
        refine .other (by rintro ⟨⟩) (by rintro ⟨⟩) ?_
        rintro _ ⟨h⟩
        exact hrevert (isRevert_iff.mpr h)
  | backendGone => exact .lost .backendGone
  | transport failure => exact reports_ofFailure failure
  | _ => exact .other (by rintro ⟨⟩) (by rintro ⟨⟩) (by rintro _ ⟨⟩)

/-- A failed call is reported as **one thing** only. -/
theorem Reports.unique {error : RpcError} {report other : ExecutionError}
    (h : Reports error report) (hother : Reports error other) : report = other := by
  cases h with
  | lost hlost =>
      cases hother with
      | lost => rfl
      | late hlate => exact absurd hlate hlost.not_late
      | reverted hreverts => exact absurd hlost hreverts.not_lost
      | other notLost => exact absurd hlost notLost
  | late hlate =>
      cases hother with
      | lost hlost => exact absurd hlate hlost.not_late
      | late => rfl
      | reverted hreverts => exact absurd hlate hreverts.not_late
      | other _ notLate => exact absurd hlate notLate
  | reverted hreverts =>
      cases hother with
      | lost hlost => exact absurd hlost hreverts.not_lost
      | late hlate => exact absurd hlate hreverts.not_late
      | reverted hother => exact congrArg _ (hreverts.unique hother)
      | other _ _ notReverts => exact absurd hreverts (notReverts _)
  | other notLost notLate notReverts =>
      cases hother with
      | lost hlost => exact absurd hlost notLost
      | late hlate => exact absurd hlate notLate
      | reverted hreverts => exact absurd hreverts (notReverts _)
      | other => rfl

/-- The report of a failed call, as a relation. -/
theorem ofRpcError_eq_iff {error : RpcError} {report : ExecutionError} :
    ofRpcError error = report ↔ Reports error report :=
  ⟨fun h => h ▸ reports_ofRpcError error, (reports_ofRpcError error).unique⟩

theorem reports_disconnected_iff {error : RpcError} {detail : String} :
    Reports error (.disconnected detail) ↔ error.Lost ∧ detail = error.message := by
  constructor
  · rintro (h | _)
    exact ⟨h, rfl⟩
  · rintro ⟨h, rfl⟩
    exact .lost h

theorem reports_timeout_iff {error : RpcError} {detail : String} :
    Reports error (.timeout detail) ↔ error.Late ∧ detail = error.message := by
  constructor
  · rintro (_ | h)
    exact ⟨h, rfl⟩
  · rintro ⟨h, rfl⟩
    exact .late h

theorem reports_reverted_iff {error : RpcError} {reason : String} :
    Reports error (.reverted reason) ↔ error.Reverts reason := by
  constructor
  · rintro (_ | _ | h)
    exact h
  · exact .reverted

theorem reports_other_iff {error : RpcError} {detail : String} :
    Reports error (.other detail) ↔
      (¬ error.Lost ∧ ¬ error.Late ∧ ∀ reason, ¬ error.Reverts reason) ∧
        detail = error.message := by
  constructor
  · rintro (_ | _ | _ | ⟨notLost, notLate, notReverts⟩)
    exact ⟨⟨notLost, notLate, notReverts⟩, rfl⟩
  · rintro ⟨⟨notLost, notLate, notReverts⟩, rfl⟩
    exact .other notLost notLate notReverts

end ExecutionError

/-! ### Faults -/

namespace Execution

open ExecutionError

/-- Every report has a fault of its own. -/
theorem toFault_injective : Function.Injective toFault := by
  intro report other h
  cases report <;> cases other <;> cases h <;> rfl

/-- A failed call becomes the fault of its report. -/
theorem rpcFault_eq_iff (error : RpcError) (report : ExecutionError) :
    rpcFault error = report.toFault ↔ Reports error report := by
  rw [rpcFault, toFault_injective.eq_iff, ofRpcError_eq_iff]

/-- **Which failed calls become which fault**, and with which text. A lost connection and one that
came late keep the wording of the failure, a revert has the normalised message, and everything else
keeps its wording too. No error response and no status, whatever it is and whatever text comes with
it, is a lost connection or says that no endpoint was reached. -/
theorem rpcFault_iff (error : RpcError) :
    (∀ detail, rpcFault error = .disconnected detail ↔ error.Lost ∧ detail = error.message) ∧
    (∀ detail, rpcFault error = .timeout detail ↔ error.Late ∧ detail = error.message) ∧
    (∀ reason, rpcFault error = .reverted reason ↔ error.Reverts reason) ∧
    (∀ detail, rpcFault error = .other detail ↔
      (¬ error.Lost ∧ ¬ error.Late ∧ ∀ reason, ¬ error.Reverts reason) ∧
        detail = error.message) ∧
    (∀ code message data, (rpcFault (.response code message data)).isDisconnected = false ∧
      (rpcFault (.response code message data)).isUnreachable = false) ∧
    (∀ code body, (rpcFault (.status code body)).isDisconnected = false ∧
      (rpcFault (.status code body)).isUnreachable = false) := by
  refine ⟨fun detail => ?_, fun detail => ?_, fun reason => ?_, fun detail => ?_,
    fun code message data => ?_, fun code body => ⟨rfl, rfl⟩⟩
  · exact (rpcFault_eq_iff error (.disconnected detail)).trans reports_disconnected_iff
  · exact (rpcFault_eq_iff error (.timeout detail)).trans reports_timeout_iff
  · exact (rpcFault_eq_iff error (.reverted reason)).trans reports_reverted_iff
  · exact (rpcFault_eq_iff error (.other detail)).trans reports_other_iff
  · have hreached := isUnreachable_response code message data
    refine ⟨?_, hreached⟩
    cases h : rpcFault (.response code message data) with
    | disconnected detail =>
        rw [h] at hreached
        cases hreached
    | _ => rfl

/-- A node that cannot reach another one says so in its answer. -/
example :
    rpcFault (.response (-32000) "connection refused" (some "\"broken pipe\"")) = .other
      ("server returned an error response: error code -32000: connection refused"
        ++ ", data: \"broken pipe\"") := by
  decide +kernel

end Execution

end NodeGateway
