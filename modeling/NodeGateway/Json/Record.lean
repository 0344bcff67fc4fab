import NodeGateway.Json.Shape

/-!
# Taking Records Apart

The values of a record's members, for records whose members do not all have a shape. The rules are
those of shaped records: members may come in any order, other members are passed over, a member that
comes twice is refused, and a record may be written as the array of its members' values.
-/

namespace NodeGateway.Json

/-- A **member** that a record may have, and whether it needs it. -/
structure RecordMember where
  name : String
  needed : Bool := true
  deriving DecidableEq, Repr

/-- The value of a member of an object; a member that is not needed may be absent. -/
def memberValue? (members : List (Option String × Json)) (member : RecordMember) :
    Option (Option Json) :=
  match valuesOf member.name members with
  | [] => if member.needed then none else some none
  | [value] => some (some value)
  | _ => none

/-- The values of a record's members in the given order. -/
def recordValues? (wanted : List RecordMember) : Json → Option (List (Option Json))
  | .object members =>
    if membersReadable (wanted.map (·.name)) members then wanted.mapM (memberValue? members)
    else none
  | .array items =>
    let rest := wanted.drop items.length
    if items.length ≤ wanted.length && rest.all (!·.needed) then
      some (items.map some ++ rest.map fun _ => none)
    else none
  | _ => none

/-- The values of a record all of whose members are needed. -/
def neededValues? (names : List String) (value : Json) : Option (List Json) := do
  (← value.recordValues? (names.map fun name => { name })).mapM id

end NodeGateway.Json
