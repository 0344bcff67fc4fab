import NodeGateway.Request.Script

/-!
# Deadlines and Cancellation

Every request to a node is **guarded**: it is given up when its deadline has passed or when its
caller cancels. The deadline is that of the caller's scope if there is one, and otherwise lies a
default time, the tier of the method, behind the start. A scope's deadline is absolute, so several
attempts inside one scope share what is left of it.

Times are milliseconds of the run. At one instant finished work comes before the deadline, and the
deadline before a cancellation that becomes effective at that instant; work that does not have to
wait at all is finished even if the deadline has passed. A token that is cancelled before the
request starts keeps the work from being begun.

Instants are kept in a word, so there is a last one. A tier that reaches over it gives no deadline,
and a request without a deadline comes to no end at all: it **panics** before it has looked at its
token or begun its work.

## Main definitions

* `Scope`, with its deadline and its `Cancellation`;
* `Guarded`, how a guarded request ends;
* `Scope.deadline?` and `Scope.guarded?`, which compute the deadline and the end if there is one;
* `Scope.guard`, the end on a clock without a last instant.
-/

namespace NodeGateway

/-- When a token is **cancelled**: at an instant, and there either before everything else that
happens then or behind it. -/
structure Cancellation where
  instant : Nat
  first : Bool
  deriving DecidableEq, Repr

/-- Whether a token is cancelled already when work starts at the given instant. -/
def Cancellation.isBefore (c : Cancellation) (start : Nat) : Bool :=
  c.instant < start || (c.first && c.instant ≤ start)

/-- Whether a cancellation comes before something that ends at the given instant. -/
def Cancellation.precedes (c : Cancellation) (finish : Nat) : Bool :=
  c.instant < finish || (c.first && c.instant ≤ finish)

/-- The **scope** that a caller puts around its requests. -/
structure Scope where
  deadline : Option Nat := none
  token : Option Cancellation := none
  deriving DecidableEq, Repr, Inhabited

/-- One step in building a scope; of several of a kind the last one counts. -/
inductive ScopeStep where
  /-- A deadline some time from now. -/
  | deadlineAfter (millis : Nat)
  /-- A token that is cancelled some time from now; at once if the time is zero. -/
  | cancelAfter (millis : Nat)
  deriving DecidableEq, Repr

namespace Scope

/-- Takes one step in building a scope at the instant `now`. -/
def add (now : Nat) (scope : Scope) : ScopeStep → Scope
  | .deadlineAfter millis => { scope with deadline := some (now + millis) }
  | .cancelAfter millis => { scope with token := some ⟨now + millis, millis = 0⟩ }

/-- The scope that some steps build at the instant `now`; no steps build none. -/
def build? (now : Nat) : List ScopeStep → Option Scope
  | [] => none
  | steps => some (steps.foldl (add now) {})

/-- The scope that counts among nested ones, the outermost first: scopes do not merge, so it is
the innermost. -/
def innermost (scopes : List (Option Scope)) : Option Scope :=
  scopes.foldl (fun outer inner => inner.or outer) none

end Scope

/-- How a **guarded** request ends: when, with what, whether the end is a cancellation that comes
behind everything else of its instant, and whether the work was begun at all. -/
structure Guarded (α : Type) where
  finish : Nat
  outcome : Outcome α
  afterOthers : Bool := false
  begun : Bool := true

/-- The fault of a request that ran into its deadline. -/
def deadlineExceeded (method : String) : Fault :=
  .timeout (method ++ " exceeded its deadline")

namespace Answer

/-- The end of work that nothing bounds. -/
def unguarded (start : Nat) (work : Answer α) : Guarded α :=
  { finish := start + work.millis, outcome := work.outcome }

/-- The end of work that is bounded by a deadline only. -/
def bounded (method : String) (start deadline : Nat) (work : Answer α) : Guarded α :=
  if work.millis = 0 ∨ start + work.millis ≤ deadline then work.unguarded start
  else { finish := max start deadline, outcome := .error (deadlineExceeded method) }

end Answer

/-- The last instant of a clock that starts with the run and keeps seconds in a signed word. -/
def lastInstant : Nat := Nat.pow 2 63 * 1000 - 1

namespace Scope

/-- The **deadline** of a request that starts at `start` inside this scope: that of the scope, and
otherwise the instant that lies the tier behind the start, if it is not behind the `last` one. -/
def deadline? (scope : Scope) (last tier start : Nat) : Option Nat :=
  scope.deadline.or (if start + tier ≤ last then some (start + tier) else none)

/-- The end of a request that is guarded up to a deadline, inside this scope. -/
def guardUntil (scope : Scope) (method : String) (deadline start : Nat) (work : Answer α) :
    Guarded α :=
  let ended := work.bounded method start deadline
  match scope.token with
  | none => ended
  | some token =>
    if token.isBefore start then
      { finish := start, outcome := .error .cancelled, begun := false }
    else if token.precedes ended.finish then
      { finish := token.instant, outcome := .error .cancelled, afterOthers := true }
    else ended

/-- The end of a **guarded request** that starts at `start`, inside this scope, if it does not
panic. -/
def guarded? (scope : Scope) (last : Nat) (method : String) (tier start : Nat) (work : Answer α) :
    Option (Guarded α) :=
  (scope.deadline? last tier start).map fun deadline => scope.guardUntil method deadline start work

/-- The end of a guarded request on a clock **without a last instant**. -/
def guard (scope : Scope) (method : String) (tier start : Nat) (work : Answer α) : Guarded α :=
  scope.guardUntil method (scope.deadline.getD (start + tier)) start work

end Scope

end NodeGateway
