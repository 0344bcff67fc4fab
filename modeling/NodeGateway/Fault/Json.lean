import NodeGateway.Fault
import NodeGateway.Json.Access

/-!
# The JSON Form of Faults and Outcomes

A fault is written as the name of its kind and its wording, and read from the name and the detail.
An outcome is an object with the member `ok`, or the members of its fault.
-/

namespace NodeGateway

namespace Fault

/-- The name of a fault's kind. -/
def kindName : Fault → String
  | disconnected _ => "Disconnected"
  | timeout _ => "Timeout"
  | cancelled => "Cancelled"
  | reverted _ => "Reverted"
  | allClientsFailed _ => "AllClientsFailed"
  | other _ => "Other"

/-- The fault of the named kind with some detail. -/
def ofKind? (kind detail : String) : Option Fault :=
  [disconnected detail, timeout detail, cancelled, reverted detail, allClientsFailed detail,
    other detail].find? (·.kindName = kind)

/-- Reads a fault from the members `kind` and `msg`. -/
def ofJson (value : Json) : Json.Reading Fault := do
  let kind ← value.field "kind" Json.toText
  let detail ← value.fieldOr "msg" "" Json.toText
  Json.expect "kind of fault" (ofKind? kind detail)

/-- The members that a fault is written with. -/
def members (fault : Fault) : List (String × Json) :=
  [("error", .str fault.kindName), ("message", .str fault.message)]

end Fault

namespace Outcome

/-- The members that an outcome is written with. -/
def members (write : α → Json) : Outcome α → List (String × Json)
  | .ok value => [("ok", write value)]
  | .error fault => fault.members

/-- The JSON form of an outcome. -/
def toJson (write : α → Json) (outcome : Outcome α) : Json := .obj (members write outcome)

/-- Reads an outcome from one of the members `err` and `ok`. -/
def ofJson (read : Json → Json.Reading α) (value : Json) : Json.Reading (Outcome α) :=
  match value.get? "err" with
  | some fault => (Fault.ofJson fault).map .error
  | none => (read ((value.get? "ok").getD .null)).map .ok

end Outcome

end NodeGateway
