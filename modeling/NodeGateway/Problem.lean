import NodeGateway.Fault

/-!
# Problems

What the service reports to its own callers: a problem with its wording and the HTTP status that
goes with it. A fault that reached no endpoint is a problem of the network and every other fault
is not, so a caller can tell from the status alone whether trying again may help.
-/

namespace NodeGateway

/-- A **problem** of the service. -/
inductive Problem where
  /-- The request could not be served. -/
  | other (detail : String)
  /-- No node could be reached. -/
  | network (detail : String)
  /-- The request itself is wrong. -/
  | badRequest (detail : String)
  deriving DecidableEq, Repr, Inhabited

namespace Problem

/-- The wording of a problem. -/
def message : Problem → String
  | other detail => detail
  | network detail => "Network error: " ++ detail
  | badRequest detail => "Invalid request: " ++ detail

/-- The HTTP status of a problem. -/
def status : Problem → Nat
  | other _ => 500
  | network _ => 503
  | badRequest _ => 400

/-- The problem that a fault amounts to. -/
def ofFault (fault : Fault) : Problem :=
  if fault.isUnreachable then network fault.message else other fault.message

/-- Says what was being done; the kind of the problem stays the same. -/
def withContext (context : String) : Problem → Problem
  | other detail => other (Fault.inContext context detail)
  | network detail => network (Fault.inContext context detail)
  | badRequest detail => badRequest (Fault.inContext context detail)

/-- The problem of a metrics registration that was refused. -/
def ofRegistration (detail : String) : Problem := other ("metrics registration failed: " ++ detail)

end Problem

end NodeGateway
