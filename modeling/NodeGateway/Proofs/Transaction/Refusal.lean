import NodeGateway.Proofs.Fault.Revert
import NodeGateway.Proofs.Transaction.Simulation

/-!
# A Refusal Is Read Twice

The message of a revert is normalised when the error response is reported, and the fault that comes
of it is normalised again when a simulation makes a reason of it. The second time the message is no
longer what the node has sent: where it encoded a reason, it now is this reason, which the contract
has chosen. If the reason looks like an encoded one, it is decoded as well, and the simulation tells
something that nobody has said.

So a simulation gives the reason that was reported exactly if the reported reason encodes no other
(`Draft.failure_of_response`). That is the case wherever the contract writes plain words.
-/

namespace NodeGateway

open Execution (remoteEndpoints rpcFault)

/-- Nodes that **refuse** every request with the same error. -/
def Execution.refusingNodes (now : σ → Readings) (error : RpcError) :
    Endpoints Execution.interface σ :=
  remoteEndpoints now fun _ _ state => (.returned (.error error), state)

namespace Simulation

/-- What follows from an error of a node that was reached is a refusal with its message. -/
theorem eq_refused_of_follows {policy : GasPolicy} {clientType : String} {attempt : Attempt}
    {error : RpcError} {outcome : Outcome Simulation}
    (h : Follows policy clientType attempt (.returned (.error error)) outcome)
    (hanswered : ¬ error.Unreached) : outcome = .ok (refused (rpcFault error)) := by
  cases h with
  | refused => rfl
  | unreached missed =>
      cases missed with
      | failed hmissed => exact absurd hmissed hanswered

/-- **A simulation by nodes that refuse** gives their message as its reason, normalised, whatever
the state of the pool. -/
theorem run_refusingNodes (policy : GasPolicy) (draft : Draft) (now : σ → Readings) (pool : Pool)
    (state : σ) {error : RpcError} (hanswered : ¬ error.Unreached) :
    ((draft.simulate policy).run (Pool.call (Execution.refusingNodes now error)) (pool, state)).1 =
      .ok (refused (rpcFault error)) := by
  let estimate := Execution.Request.estimateGas draft.callRequest
  obtain ⟨last, before, own, -, hanswer, houtcome, -⟩ := Pool.exists_last_dispatch
    ((Execution.refusingNodes now error).surroundings estimate) state pool
  have hown : own = .error (rpcFault error) := (congrArg Prod.fst hanswer).symm
  have hrun : ((draft.simulate policy).run (Pool.call (Execution.refusingNodes now error))
      (pool, state)).1 = ofEstimate policy (last.handedOut pool.clientType own) :=
    congrArg (ofEstimate policy) houtcome
  have hfollows := follows_ofEstimate policy pool.clientType last (.returned (.error error))
  rw [hrun, hown]
  exact eq_refused_of_follows hfollows hanswered

end Simulation

/-- An error response that reports a revert is a fault whose message is normalised. -/
theorem message_of_revert {code : Int} {message : String} (data : Option String)
    (h : ExecutionError.isRevert code message = true) :
    (rpcFault (.response code message data)).message = Revert.normalize message := by
  rw [rpcFault, ExecutionError.ofRpcError, if_pos h]
  rfl

/-- **The reason that a simulation gives** when its nodes answer with an error response, for every
draft, every pool in whatever state, and every code, message and data of the response.

A message that reports a revert is normalised twice. What the simulation gives is therefore what
normalising the message gives exactly if the message has a plain reason. After as many rounds as the
message has characters normalising leaves it alone in any case. Every message that encodes a reason
reports a revert. -/
theorem Draft.failure_of_response (policy : GasPolicy) (draft : Draft) (now : σ → Readings)
    (pool : Pool) (state : σ) (code : Int) (message : String) (data : Option String) :
    let nodes := Execution.refusingNodes now (.response code message data)
    let run := (draft.simulate policy).run (Pool.call nodes) (pool, state)
    let once := Revert.normalize message
    (∃ failure, run.1 = .ok ⟨0, 0, some failure⟩ ∧
      (ExecutionError.isRevert code message = true →
        failure = Revert.normalize once ∧ (failure = once ↔ Revert.HasPlainReason message))) ∧
      (Revert.normalize once = once ↔ Revert.HasPlainReason message) ∧
      (∀ reason, Revert.encodedReason? message.toList = some reason →
        ExecutionError.isRevert code message = true) ∧
      Revert.normalize (Revert.normalize^[message.length] message) =
        Revert.normalize^[message.length] message := by
  intro nodes run once
  have hrun : run.1 = .ok (Simulation.refused (rpcFault (.response code message data))) :=
    Simulation.run_refusingNodes policy draft now pool state nofun
  refine ⟨⟨_, hrun, fun hrevert => ?_⟩, Revert.normalize_normalize_iff,
    fun reason hreason => Revert.isRevert_of_encodedReason? hreason code,
    Revert.normalize_rounds message⟩
  rw [message_of_revert data hrevert]
  exact ⟨rfl, Revert.normalize_normalize_iff⟩

/-- **A reason that nobody has given.** A contract reverts with the words `Reverted 0x41`, and the
node encodes them. The report decodes them, and the simulation decodes what they look like. -/
theorem Draft.failure_of_nested_reason :
    let message := "Reverted 0x52657665727465642030783431"
    let once := Revert.normalize message
    let draft : Draft := ⟨.ofNat 20 1, .ofNat 20 2, [0xca, 0xfe], 0⟩
    let now : Unit → Readings := fun _ => (Instant.ofMillis 0 : Instant)
    let nodes := Execution.refusingNodes now (.response (-32015) message none)
    let pool := Pool.fresh "Execution" (.ofSeconds 60) true
    let run := (draft.simulate ⟨0, Binary64.ofNat 2⟩).run (Pool.call nodes) (pool, ())
    ExecutionError.isRevert (-32015) message = true ∧
      once = "reverted: Reverted 0x41" ∧ Revert.normalize once = "reverted: A" ∧
      run.1 = .ok ⟨0, 0, some "reverted: A"⟩ := by
  intro message once draft now nodes pool run
  have honce : once = "reverted: Reverted 0x41" := by decide +kernel
  have htwice : Revert.normalize once = "reverted: A" := by rw [honce]; decide +kernel
  have hrevert : ExecutionError.isRevert (-32015) message = true := by decide +kernel
  have hrun : run.1 = .ok (Simulation.refused (rpcFault (.response (-32015) message none))) :=
    Simulation.run_refusingNodes _ draft now pool () nofun
  refine ⟨hrevert, honce, htwice, ?_⟩
  rw [hrun, Simulation.refused, message_of_revert none hrevert, ← htwice]

end NodeGateway
