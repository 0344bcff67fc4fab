/-!
# Faults

Why a request to a node has no answer. The distinction that everything else rests on is between
a fault that says **no endpoint was reached** and one that an endpoint itself gave: only a lost
connection is tried again elsewhere, and only an unreachable node is reported as unavailable.

## Main definitions

* `Fault`, the causes, and `Fault.message`, their wording;
* `Fault.isDisconnected`, which decides about a second attempt;
* `Fault.isUnreachable`, which decides how the fault is reported;
* `Fault.withContext`, which says what was being done and leaves the cause as it is.
-/

namespace NodeGateway

/-- The **cause** of a failed request. -/
inductive Fault where
  /-- The connection was refused or lost. -/
  | disconnected (detail : String)
  /-- No answer came in time. -/
  | timeout (detail : String)
  /-- The caller gave the request up. -/
  | cancelled
  /-- The node ran the call and it reverted. -/
  | reverted (reason : String)
  /-- Every configured client of this type was tried and lost. -/
  | allClientsFailed (clientType : String)
  /-- Anything else that an endpoint said or that went wrong here. -/
  | other (detail : String)
  deriving DecidableEq, Repr, Inhabited

/-- The result of a request. -/
abbrev Outcome (α : Type) := Except Fault α

namespace Fault

/-- The wording of a fault. -/
def message : Fault → String
  | disconnected detail => "Disconnected: " ++ detail
  | timeout detail => "Timeout: " ++ detail
  | cancelled => "request cancelled"
  | reverted reason => reason
  | allClientsFailed clientType => "all " ++ clientType ++ "s failed"
  | other detail => detail

/-- A text with a context in front of it. -/
def inContext (context detail : String) : String := context ++ ": " ++ detail

/-- Says what was being done. The cause stays the same, and the two causes without a text of
their own stay as they are. -/
def withContext (context : String) : Fault → Fault
  | disconnected detail => disconnected (inContext context detail)
  | timeout detail => timeout (inContext context detail)
  | reverted reason => reverted (inContext context reason)
  | other detail => other (inContext context detail)
  | cancelled => cancelled
  | allClientsFailed clientType => allClientsFailed clientType

/-- Whether the connection was lost, which makes another endpoint worth trying. -/
def isDisconnected : Fault → Bool
  | disconnected _ => true
  | _ => false

/-- Whether the fault says that no endpoint was reached, as opposed to one that answered. -/
def isUnreachable : Fault → Bool
  | disconnected _ | timeout _ | cancelled | allClientsFailed _ => true
  | reverted _ | other _ => false

end Fault

/-- Whether a request ended in a lost connection. -/
def Outcome.isDisconnected : Outcome α → Bool
  | .error fault => fault.isDisconnected
  | .ok _ => false

/-- The outcome with a context in front of its fault. -/
def Outcome.withContext (context : String) (outcome : Outcome α) : Outcome α :=
  Except.mapError (Fault.withContext context) outcome

end NodeGateway
