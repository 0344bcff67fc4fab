import NodeGateway.Proofs.Execution.Remote
import NodeGateway.Proofs.Failover.Health
import NodeGateway.Proofs.Node.Dialogue
import NodeGateway.Service.Simulate

/-!
# Simulations over a Failover Pool

A node that refuses to estimate the gas of a draft has answered, and a node that was not reached has
not. On its way from a remote call to the response of the service an outcome changes its form four
times: it is reported as a fault, failover hands this fault out or puts one of its own in its place,
a simulation makes a result of it, and the service a status. At each of these steps a refusal could
be taken for an outage.

None of them does so. Each step keeps what its input says about the node, so what remains at the
end is what the last remote call of the dispatch has found out (`Simulation.Follows`).

* A call and the outcome that it is reported with agree (`CallEnd.isUnreachable_outcome_iff`).
* So do that outcome and what failover hands out for it (`Attempt.isUnreachable_handedOut`).
* A simulation fails exactly with the faults that say that no endpoint was reached
  (`Simulation.ofEstimate_eq_error_iff`), and the service has a status of its own for these.

The main result is `Draft.simulate_over_failover`.
-/

namespace NodeGateway

open Execution (CallEnd remoteEndpoints rpcFault)

namespace Simulation

variable {policy : GasPolicy}

/-- A simulation **fails** exactly with the faults that say that no endpoint was reached. -/
theorem ofEstimate_eq_error_iff {outcome : Outcome Nat} {fault : Fault} :
    ofEstimate policy outcome = .error fault ↔
      outcome = .error fault ∧ fault.isUnreachable = true := by
  cases outcome with
  | ok gas => exact ⟨nofun, nofun⟩
  | error found =>
      rw [ofEstimate]
      constructor
      · intro h
        split at h
        · next hunreached =>
            cases h
            exact ⟨rfl, hunreached⟩
        · cases h
      · rintro ⟨⟨⟩, hunreached⟩
        rw [if_pos hunreached]

/-- A fault that an endpoint gave becomes part of the result. -/
theorem ofEstimate_of_answered {fault : Fault} (h : fault.isUnreachable = false) :
    ofEstimate policy (.error fault) = .ok (refused fault) := by
  rw [ofEstimate, h, if_neg Bool.false_ne_true]

/-- **What follows** for a simulation from how a remote call for the estimate has ended, if the
call was made in some attempt and no other was made afterwards. -/
inductive Follows (policy : GasPolicy) (clientType : String) (attempt : Attempt) :
    CallEnd Nat → Outcome Simulation → Prop
  /-- The node gave an estimate. -/
  | estimated (gas : Nat) :
      Follows policy clientType attempt (.returned (.ok gas))
        (.ok ⟨gas, policy.safeLimit gas, none⟩)
  /-- The node gave an error instead. -/
  | refused {error : RpcError} (answered : ¬ error.Unreached) :
      Follows policy clientType attempt (.returned (.error error))
        (.ok ⟨0, 0, some (Revert.normalize (rpcFault error).message)⟩)
  /-- The node was not reached. -/
  | unreached {ended : CallEnd Nat} {fault : Fault} (missed : ended.Unreached)
      (reported : attempt.handedOut clientType (ended.outcome "eth_estimateGas") = .error fault) :
      Follows policy clientType attempt ended (.error fault)

/-- What failover hands out for the end of a call decides about the simulation as the call itself
does. -/
theorem follows_ofEstimate (policy : GasPolicy) (clientType : String) (attempt : Attempt)
    (ended : CallEnd Nat) :
    Follows policy clientType attempt ended
      (ofEstimate policy (attempt.handedOut clientType (ended.outcome "eth_estimateGas"))) := by
  have hkept := attempt.isUnreachable_handedOut clientType (ended.outcome "eth_estimateGas")
  by_cases hmissed : ended.Unreached
  · rw [(CallEnd.isUnreachable_outcome_iff _).mpr hmissed] at hkept
    obtain ⟨fault, hreported, hunreached⟩ := Outcome.isUnreachable_iff.mp hkept
    rw [ofEstimate_eq_error_iff.mpr ⟨hreported, hunreached⟩]
    exact .unreached hmissed hreported
  · rw [Bool.eq_false_iff.mpr (mt (CallEnd.isUnreachable_outcome_iff _).mp hmissed)] at hkept
    rw [(Attempt.eq_of_handedOut hkept).1]
    cases ended with
    | returned result =>
        cases result with
        | ok gas => exact .estimated gas
        | error error =>
            have hanswered : ¬ error.Unreached := fun h => hmissed (.failed h)
            have hfault : (rpcFault error).isUnreachable = false :=
              Bool.eq_false_iff.mpr (mt Execution.isUnreachable_rpcFault_iff.mp hanswered)
            change Follows policy clientType attempt _ (ofEstimate policy (.error (rpcFault error)))
            rw [ofEstimate_of_answered hfault]
            exact .refused hanswered
    | late => exact absurd .late hmissed
    | cancelled => exact absurd .cancelled hmissed

end Simulation

section

variable {policy : GasPolicy} {draft : Draft} {state : σ}
  {respond : (request : Execution.interface.Request) → σ →
    Outcome (Execution.interface.Reply request) × σ}

/-- A draft is simulated by one request, whose outcome decides. -/
theorem Draft.run_simulate : (draft.simulate policy).run respond state =
    (Simulation.ofEstimate policy (respond (.estimateGas draft.callRequest) state).1,
      (respond (.estimateGas draft.callRequest) state).2) := rfl

/-- A draft that is kept with its simulation asks for nothing more. -/
theorem Draft.run_info : (draft.info policy).run respond state =
    (((draft.simulate policy).run respond state).1.map (TransactionInfo.mk draft),
      ((draft.simulate policy).run respond state).2) := by
  rcases hrun : (draft.simulate policy).run respond state with ⟨outcome, after⟩
  cases outcome with
  | ok simulation => exact Inquiry.run_bind_of_ok hrun
  | error fault => exact Inquiry.run_bind_of_error hrun

end

namespace Service

/-- The **response** to a draft whose simulation has some outcome. -/
def simulationResponse (draft : Draft) : Outcome Simulation → Response
  | .ok simulation => .ok (simulatedJson ⟨draft, simulation⟩)
  | .error fault => ⟨503, .text ("Network error: " ++ fault.message)⟩

/-- A simulation that fails is a problem of the network, so the service responds to a draft with
what its simulation comes to. -/
theorem simulateDraft_eq (backend : Backend σ τ ω) (draft : Draft) (state : State σ τ ω) :
    (simulateDraft backend draft state).1 = simulationResponse draft
      ((draft.simulate backend.gas).run (Pool.call backend.execution) state.execution).1 := by
  have hrun : (simulateDraft backend draft state).1 = .ofResult simulatedJson
      (((draft.info backend.gas).run backend.askExecution state).1.mapError Problem.ofFault) := rfl
  have hasked : ((draft.simulate backend.gas).run backend.askExecution state).1 =
      ((draft.simulate backend.gas).run (Pool.call backend.execution) state.execution).1 := rfl
  rw [hrun, Draft.run_info, hasked]
  generalize hsimulated :
    ((draft.simulate backend.gas).run (Pool.call backend.execution) state.execution).1 = outcome
  cases outcome with
  | ok simulation => rfl
  | error fault =>
      rw [Draft.run_simulate] at hsimulated
      have hunreached := (Simulation.ofEstimate_eq_error_iff.mp hsimulated).2
      change Response.ofProblem (.ofFault fault) = _
      rw [Problem.ofFault, if_pos hunreached]
      rfl

/-- The status tells whether an endpoint was reached. -/
theorem status_simulationResponse (policy : GasPolicy) (draft : Draft) (outcome : Outcome Nat) :
    (simulationResponse draft (Simulation.ofEstimate policy outcome)).status =
      if outcome.isUnreachable then 503 else 200 := by
  cases outcome with
  | ok gas => rfl
  | error fault =>
      change _ = if fault.isUnreachable then 503 else 200
      cases hunreached : fault.isUnreachable with
      | true => rw [Simulation.ofEstimate_eq_error_iff.mpr ⟨rfl, hunreached⟩]; rfl
      | false => rw [Simulation.ofEstimate_of_answered hunreached]; rfl

end Service

/-- **Simulations tell an outage from a refusal**, for every draft, every pool of execution nodes in
whatever state, with a fallback or without one, and however the remote calls of the dispatch end.

A simulation fails exactly if the dispatch ends in a fault which says that no endpoint was reached,
with that fault, and the service then responds with status 503. Otherwise it is an estimate, with
the safe limit for it and no failure, or a refusal, with both limits 0 and the normalized message of
the fault. Which of these it is follows from the end of the last remote call that the dispatch has
made. -/
theorem Draft.simulate_over_failover (backend : Service.Backend σ τ ω) (draft : Draft)
    (now : σ → Readings) (remote : Role → (request : Execution.Request) → σ →
      CallEnd request.method.Answer × σ) (state : Service.State σ τ ω) :
    let execution := remoteEndpoints now remote
    let estimate := Execution.Request.estimateGas draft.callRequest
    let pool := state.execution.1
    let served := pool.dispatch (execution.surroundings estimate) state.execution.2
    let run := (draft.simulate backend.gas).run (Pool.call execution) state.execution
    let response := (Service.simulateDraft { backend with execution } draft state).1
    run.2 = (served.pool, served.state) ∧
      (∀ fault, run.1 = .error fault ↔
        served.outcome = .error fault ∧ fault.isUnreachable = true) ∧
      (∀ gas, served.outcome = .ok gas → run.1 = .ok ⟨gas, backend.gas.safeLimit gas, none⟩) ∧
      (∀ fault, served.outcome = .error fault → fault.isUnreachable = false →
        run.1 = .ok ⟨0, 0, some (Revert.normalize fault.message)⟩) ∧
      (∃ last before ended, served.attempts.getLast? = some last ∧
        remote last.role estimate before = (ended, served.state) ∧
        Simulation.Follows backend.gas pool.clientType last ended run.1) ∧
      response = Service.simulationResponse draft run.1 ∧
      response.status = if served.outcome.isUnreachable then 503 else 200 := by
  intro execution estimate pool served run response
  have hrun : run.1 = Simulation.ofEstimate backend.gas served.outcome := rfl
  have hresponse : response = Service.simulationResponse draft run.1 :=
    Service.simulateDraft_eq { backend with execution } draft state
  refine ⟨rfl, fun fault => ?_, fun gas hgas => ?_, fun fault hfault hanswered => ?_, ?_,
    hresponse, ?_⟩
  · rw [hrun]
    exact Simulation.ofEstimate_eq_error_iff
  · rw [hrun, hgas]
    rfl
  · rw [hrun, hfault]
    exact Simulation.ofEstimate_of_answered hanswered
  · obtain ⟨last, before, own, hlast, hanswer, houtcome, -⟩ :=
      Pool.exists_last_dispatch (execution.surroundings estimate) state.execution.2 pool
    rcases hremote : remote last.role estimate before with ⟨ended, behind⟩
    have hended : (execution.surroundings estimate).attempt last before =
        (ended.outcome "eth_estimateGas", behind) := by
      change ((remote last.role estimate before).1.outcome _, _) = _
      rw [hremote]
      rfl
    obtain ⟨rfl, rfl⟩ := Prod.mk.inj (hended.symm.trans hanswer)
    refine ⟨last, before, ended, hlast, hremote, ?_⟩
    rw [hrun, show served.outcome = _ from houtcome]
    exact Simulation.follows_ofEstimate backend.gas pool.clientType last ended
  · rw [hresponse, hrun]
    exact Service.status_simulationResponse backend.gas draft served.outcome

end NodeGateway
