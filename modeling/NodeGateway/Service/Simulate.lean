import NodeGateway.Json.Reader
import NodeGateway.Json.Record
import NodeGateway.Number.Quantity
import NodeGateway.Service.Backend
import NodeGateway.Service.Response
import NodeGateway.Transaction.Json

/-!
# Simulations on Request

A caller sends the draft of a transaction as a document, and gets the draft back with the result of
simulating it. A node that refuses the estimate has answered; only a layer that cannot be reached is
a problem.
-/

namespace NodeGateway.Service

/-- The members of a draft that a caller sends. -/
def draftMembers : List Json.RecordMember :=
  [{ name := "from" }, { name := "to" }, { name := "data", needed := false },
    { name := "value", needed := false }]

/-- Reads a value, an absent one having a value of its own. -/
def readOr (absent : α) (read : Json → Option α) : Option Json → Option α
  | none => some absent
  | some value => read value

/-- Reads the **draft** that a caller sends. -/
def readDraft? (value : Json) : Option Draft := do
  match ← value.recordValues? draftMembers with
  | [some sender, some target, data, amount] =>
    return { sender := ← sender.readSized? 20, target := ← target.readSized? 20
             data := ← readOr [] Json.readBytes? data
             value := ← readOr 0 (Json.readQuantity? Numeral.bound256) amount }
  | _ => none

/-- The JSON form of a simulated draft as callers get it, with gas as numbers. -/
def simulatedJson (info : TransactionInfo) : Json :=
  info.toJson fun simulation => .obj (simulation.members Json.nat)

/-- The response with the simulation of a draft. -/
def simulateDraft (backend : Backend σ τ ω) (draft : Draft) (state : State σ τ ω) :
    Response × State σ τ ω :=
  let (outcome, state) := (draft.info backend.gas).run backend.askExecution state
  (.ofResult simulatedJson (outcome.mapError Problem.ofFault), state)

/-- The response to a draft that a caller posts. -/
def simulate [Wording] (backend : Backend σ τ ω) (body : Option String) (state : State σ τ ω) :
    Response × State σ τ ω :=
  match body with
  | none => (.missingBody, state)
  | some text =>
    match (Json.parseRagged? text).bind readDraft? with
    | none => (.unreadableBody text, state)
    | some draft => simulateDraft backend draft state

end NodeGateway.Service
