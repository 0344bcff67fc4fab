import NodeGateway.Execution.Request
import NodeGateway.Number.Numeral
import NodeGateway.Wording

/-!
# Calls in One Request

Many contract calls packed into one call of the multicall contract: what is sent to it, and how
its answer is read. An answer that cannot be decoded, or that does not hold exactly one result for
each call, is a fault, so a result is never taken for that of another call.
-/

namespace NodeGateway

/-- A **contract call**. -/
structure ContractCall where
  target : Address
  data : Bytes
  /-- Whether the others still count if this one reverts. -/
  allowFailure : Bool := false
  deriving DecidableEq, Repr

/-- The **result** of a contract call. -/
structure CallResult where
  success : Bool
  data : Bytes
  deriving DecidableEq, Repr

namespace CallResult

/-- The fault of a call that reverted. -/
def revertedFault (data : Bytes) : Fault :=
  .reverted ("call reverted inside multicall: 0x" ++ String.ofList (Hex.encode data))

/-- The fault of a result whose data do not hold values of some types. -/
def undecodable [Wording] (types : AbiTypes) (data : Bytes) : Fault :=
  .other ("failed to decode call result: " ++ Wording.returned types data)

/-- Decodes the values that a call returned. -/
def decode [Wording] (types : AbiTypes) (result : CallResult) : Outcome types.Values :=
  if result.success then
    match types.decodeReturned? result.data with
    | some values => .ok values
    | none => .error (undecodable types result.data)
  else .error (revertedFault result.data)

end CallResult

namespace Multicall

/-- The address at which the contract is deployed on public networks. -/
def defaultAddress : Address := FixedBytes.ofNat 20 0xcA11bde05977b3631167028862bE2a173976CA11

/-- The type of one call: target, whether it may fail, call data. -/
def callType : AbiType := .tuple (.ofList [.address, .bool, .bytes])

/-- The type of one result: whether it succeeded, returned data. -/
def resultType : AbiType := .tuple (.ofList [.bool, .bytes])

/-- The function that takes a list of calls. -/
def aggregate : AbiFunction :=
  { selector := Bytes.ofNat 4 0x82ad56cb, inputs := .ofList [.array callType] }

/-- A call as a value of its type. -/
def callValue (call : ContractCall) : callType.Value :=
  (call.target, call.allowFailure, call.data, ())

/-- The value of a call's type as a call. -/
def callOfValue (value : callType.Value) : ContractCall :=
  ⟨value.1, value.2.2.1, value.2.1⟩

/-- The value of a result's type as a result. -/
def resultOfValue (value : resultType.Value) : CallResult := ⟨value.1, value.2.1⟩

/-- A result as a value of its type. -/
def resultValue (result : CallResult) : resultType.Value := (result.success, result.data, ())

/-- The **call data** that packs some calls. -/
def pack (calls : List ContractCall) : Bytes :=
  aggregate.callData (List.map callValue calls, ())

/-- The calls that some call data packs. -/
def unpack? (data : Bytes) : Option (List ContractCall) := do
  guard (data.take 4 = aggregate.selector)
  let (calls, _) ← aggregate.inputs.decode? (data.drop 4) 0
  return List.map callOfValue calls

/-- The **answer** of the contract that holds some results. -/
def answer (results : List CallResult) : Bytes :=
  (AbiTypes.ofList [.array resultType]).encode (List.map resultValue results, ())

/-- The results in an answer of the contract. -/
def results? (data : Bytes) : Option (List CallResult) := do
  let (results, _) ← (AbiTypes.ofList [.array resultType]).decodeReturned? data
  return List.map resultOfValue results

/-- The call of the contract that packs some calls. -/
def request (contract : Address) (calls : List ContractCall) : Execution.CallRequest :=
  { target := some contract, input := some (pack calls) }

/-- The fault of an answer that cannot be decoded. -/
def undecodable [Wording] (data : Bytes) : Fault :=
  .other ("failed to decode multicall response: "
    ++ Wording.returned (.ofList [.array resultType]) data)

/-- The fault of an answer with too few or too many results. -/
def miscounted (results calls : Nat) : Fault :=
  .other ("multicall returned " ++ toString results ++ " results for " ++ toString calls
    ++ " calls")

/-- Reads the answer to some calls: one result for each of them, in their order. -/
def readAnswer [Wording] (calls : List ContractCall) (data : Bytes) : Outcome (List CallResult) :=
  match results? data with
  | none => .error (undecodable data)
  | some results =>
    if results.length = calls.length then .ok results
    else .error (miscounted results.length calls.length)

end Multicall

end NodeGateway
