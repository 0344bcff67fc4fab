import NodeGateway.Fault.Json
import NodeGateway.Request.Scope

/-!
# The JSON Form of Scripts and Scopes

An answer is an outcome with the members `ms`, the milliseconds it takes, and `advance_us`, the
microseconds that the clock jumps when it begins. A script is a list of answers, and a scope is a
list of pairs that say how it is built. What is written of a guarded request is its end, its scope
and whether its work was begun.
-/

namespace NodeGateway

/-- Reads an answer. -/
def Answer.ofJson (read : Json → Json.Reading α) (value : Json) : Json.Reading (Answer α) := do
  return { outcome := ← Outcome.ofJson read value
           millis := ← value.fieldOr "ms" 0 Json.toNat
           jump := ← value.fieldOr "advance_us" 0 Json.toInt }

/-- Reads a script. -/
def Script.ofJson (read : Json → Json.Reading α) (value : Json) : Json.Reading (Script α) :=
  value.toList (Answer.ofJson read)

/-- Reads one step of building a scope. -/
def ScopeStep.ofJson (value : Json) : Json.Reading ScopeStep := do
  match ← value.toList pure with
  | [kind, millis] =>
    match ← kind.toText with
    | "deadline" | "timeout" => return .deadlineAfter (← millis.toNat)
    | "cancel" => return .cancelAfter (← millis.toNat)
    | _ => throw "step of a scope expected"
  | _ => throw "step of a scope expected"

/-- The JSON form of the end of a request that was guarded in a scope, if it was in one. -/
def Guarded.toJson (scope : Option Scope) (ended : Guarded String) : Json :=
  let scopeView := match scope with
    | none => .str "none"
    | some scope => .obj [("deadline_ms", Json.opt Json.nat scope.deadline)]
  .obj [("result", Outcome.toJson Json.str ended.outcome), ("elapsed_ms", .nat ended.finish),
    ("scope", scopeView), ("started", .bool ended.begun), ("outside", .bool false)]

end NodeGateway
