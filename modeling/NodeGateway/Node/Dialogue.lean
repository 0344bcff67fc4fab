import NodeGateway.Node.Interface

/-!
# Dialogues with a Node

A **dialogue** is a computation that may ask a node and goes on with the outcome. It does not say
who answers: the same dialogue can be held with one endpoint, with a pool of two, or with answers
chosen by a proof. What is asked, in which order and how often, can be read off it.
-/

namespace NodeGateway

/-- A **dialogue** over an interface that ends with a value. -/
inductive Dialogue (I : Interface) (α : Type) where
  | done (value : α)
  | ask (request : I.Request) (next : Outcome (I.Reply request) → Dialogue I α)

namespace Dialogue

/-- Goes on with the value of a dialogue. -/
def bind : Dialogue I α → (α → Dialogue I β) → Dialogue I β
  | .done value, next => next value
  | .ask request rest, next => .ask request fun outcome => (rest outcome).bind next

instance : Monad (Dialogue I) where
  pure := .done
  bind := bind

/-- Holds the dialogue with whoever answers from a state. -/
def run (respond : (request : I.Request) → σ → Outcome (I.Reply request) × σ) :
    Dialogue I α → σ → α × σ
  | .done value, state => (value, state)
  | .ask request next, state =>
    let (outcome, state) := respond request state
    (next outcome).run respond state

/-- The requests that are made when every request is answered by `answers`, in order. -/
def requests (answers : (request : I.Request) → Outcome (I.Reply request)) :
    Dialogue I α → List I.Request
  | .done _ => []
  | .ask request next => request :: (next (answers request)).requests answers

end Dialogue

/-- A dialogue that may end in a fault. -/
abbrev Inquiry (I : Interface) (α : Type) := ExceptT Fault (Dialogue I) α

namespace Inquiry

/-- Asks one request; its fault ends the inquiry. -/
def request (q : I.Request) : Inquiry I (I.Reply q) := ExceptT.mk (.ask q .done)

/-- Asks one request and goes on with its outcome, fault or not. -/
def attempt (q : I.Request) : Inquiry I (Outcome (I.Reply q)) :=
  ExceptT.mk (.ask q fun outcome => .done (.ok outcome))

/-- Holds the inquiry with whoever answers from a state. -/
def run (respond : (request : I.Request) → σ → Outcome (I.Reply request) × σ)
    (inquiry : Inquiry I α) (state : σ) : Outcome α × σ :=
  Dialogue.run respond (ExceptT.run inquiry) state

/-- The outcome of an inquiry as a value. -/
def outcome (inquiry : Inquiry I α) : Dialogue I (Outcome α) := ExceptT.run inquiry

end Inquiry

end NodeGateway
