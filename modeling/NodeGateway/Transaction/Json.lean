import NodeGateway.Json.Access
import NodeGateway.Transaction.Submission

/-!
# The JSON Form of Transactions

Drafts, simulations and submissions. Values are quantities in hexadecimal, gas is a decimal text.
-/

namespace NodeGateway

namespace Draft

/-- Reads a draft. Data and value may be left out. -/
def ofJson (value : Json) : Json.Reading Draft := do
  return { sender := ← value.field "from" Json.toAddress
           target := ← value.field "to" Json.toAddress
           data := ← value.fieldOr "data" [] Json.toBytes
           value := ← value.fieldOr "value" 0 Json.toNat }

end Draft

namespace Simulation

/-- Reads a simulation. -/
def ofJson (value : Json) : Json.Reading Simulation := do
  return ⟨← value.field "estimated_gas_limit" Json.toNat,
    ← value.field "safe_gas_limit" Json.toNat, ← value.field? "simulation_error" Json.toText⟩

/-- The members that a simulation is written with, given how numbers are written. -/
def members (number : Nat → Json) (s : Simulation) : List (String × Json) :=
  [("estimated_gas_limit", number s.estimatedGas), ("safe_gas_limit", number s.safeGas),
    ("simulation_error", Json.opt Json.str s.failure)]

end Simulation

namespace TransactionInfo

/-- Reads a simulated draft. -/
def ofJson (value : Json) : Json.Reading TransactionInfo := do
  return ⟨← Draft.ofJson value, ← value.field "simulation_result" Simulation.ofJson⟩

/-- The JSON form of a simulated draft, given that of its simulation. -/
def toJson (simulation : Simulation → Json) (info : TransactionInfo) : Json :=
  .obj [("from", .fixed info.draft.sender), ("to", .fixed info.draft.target),
    ("data", .hex info.draft.data), ("value", .str (Hex.quantity info.draft.value)),
    ("simulation_result", simulation info.simulation)]

end TransactionInfo

/-- The JSON form of a submission, given that of its simulation. -/
def Submission.toJson (simulation : Simulation → Json) (submission : Submission) : Json :=
  .obj [("gas_limit", .quotedNat submission.gasLimit),
    ("tx_info", submission.info.toJson simulation)]

namespace GasPrices

/-- Reads prices. -/
def ofJson (value : Json) : Json.Reading GasPrices := do
  return { slow := ← value.field "slow" Json.toFloat
           standard := ← value.field "standard" Json.toFloat
           fast := ← value.field "fast" Json.toFloat }

end GasPrices

/-- Reads a speed. -/
def GasSpeed.ofJson (value : Json) : Json.Reading GasSpeed := do
  match ← value.toText with
  | "slow" => return .slow
  | "standard" => return .standard
  | "fast" => return .fast
  | _ => throw "speed expected"

/-- Reads what the caller of a submission fixes. A suggestion of an oracle takes the place of a
maximal fee. -/
def SendOptions.ofJson (value : Json) : Json.Reading SendOptions := do
  let options : SendOptions :=
    { nonce := ← value.field? "nonce" Json.toNat
      maxFee := ← value.field? "max_fee" Json.toNat
      tip := ← value.field? "tip" Json.toNat }
  match value.get? "oracle" with
  | some oracle =>
    return options.withSuggestedMaxFee (← GasPrices.ofJson oracle)
      (← oracle.field "speed" GasSpeed.ofJson)
  | none => return options

end NodeGateway
