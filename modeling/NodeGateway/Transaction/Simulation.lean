import NodeGateway.Execution.Request
import NodeGateway.Fault.Revert
import NodeGateway.Node.Dialogue
import NodeGateway.Transaction.Gas

/-!
# Simulating Transactions

Before a transaction is sent, a node is asked to estimate its gas. A node that refuses the
estimate has **answered**: its reason becomes part of the simulation's result. A node that cannot
be reached has not, and the simulation fails with that fault. So "the transaction would fail" and
"nobody could be asked" are never confused.
-/

namespace NodeGateway

/-- The **result** of simulating a transaction. -/
structure Simulation where
  estimatedGas : Nat
  safeGas : Nat
  /-- Why the node refused to estimate, if it did. -/
  failure : Option String
  deriving DecidableEq, Repr

namespace Simulation

/-- Whether the node gave an estimate. -/
def succeeded (s : Simulation) : Bool := s.failure.isNone

/-- The simulation that a node estimated. -/
def estimated (policy : GasPolicy) (gas : Nat) : Simulation := ⟨gas, policy.safeLimit gas, none⟩

/-- The simulation that a node refused to estimate. -/
def refused (fault : Fault) : Simulation := ⟨0, 0, some (Revert.normalize fault.message)⟩

/-- The simulation that the outcome of an estimate amounts to. -/
def ofEstimate (policy : GasPolicy) : Outcome Nat → Outcome Simulation
  | .ok gas => .ok (estimated policy gas)
  | .error fault => if fault.isUnreachable then .error fault else .ok (refused fault)

end Simulation

/-- A **draft** of a transaction: who sends what to whom. -/
structure Draft where
  sender : Address
  target : Address
  data : Bytes
  value : Nat
  deriving DecidableEq, Repr

/-- A draft as a call whose gas is to be estimated. -/
def Draft.callRequest (draft : Draft) : Execution.CallRequest where
  sender := some draft.sender
  target := some draft.target
  value := some draft.value
  input := some draft.data

/-- A draft that has been **simulated**. -/
structure TransactionInfo where
  draft : Draft
  simulation : Simulation
  deriving DecidableEq, Repr

/-- **Simulates** a draft. -/
def Draft.simulate (policy : GasPolicy) (draft : Draft) :
    Inquiry Execution.interface Simulation := do
  let estimate ← Inquiry.attempt (I := Execution.interface) (.estimateGas draft.callRequest)
  ExceptT.mk (pure (Simulation.ofEstimate policy estimate))

/-- Simulates a draft and keeps both. -/
def Draft.info (policy : GasPolicy) (draft : Draft) :
    Inquiry Execution.interface TransactionInfo := do
  return ⟨draft, ← draft.simulate policy⟩

end NodeGateway
