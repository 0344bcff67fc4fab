import NodeGateway.Json.Access
import NodeGateway.Query.Multicall

/-!
# The JSON Form of Contract Calls and Results
-/

namespace NodeGateway

/-- Reads a contract call. -/
def ContractCall.ofJson (value : Json) : Json.Reading ContractCall := do
  return ⟨← value.field "target" Json.toAddress, ← value.field "data" Json.toBytes,
    ← value.fieldOr "allow_failure" false Json.toFlag⟩

/-- The JSON form of a contract call. -/
def ContractCall.toJson (call : ContractCall) : Json :=
  .obj [("target", .fixed call.target), ("data", .hex call.data),
    ("allow_failure", .bool call.allowFailure)]

/-- The members that a result is written with. -/
def CallResult.members (result : CallResult) : List (String × Json) :=
  [("success", .bool result.success), ("data", .hex result.data)]

end NodeGateway
