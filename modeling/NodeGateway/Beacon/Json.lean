import NodeGateway.Beacon.Request
import NodeGateway.Json.Access

/-!
# The JSON Form of Beacon Requests

The arguments of a request as a list: names of states and blocks as texts, epochs as decimal
texts, and records in their shapes.
-/

namespace NodeGateway

/-- Reads a value of a shape, or says that there was none. -/
def Shape.ofJson (shape : Shape) (value : Json) : Json.Reading shape.Value :=
  Json.expect "value of another shape" (shape.read? value)

namespace Beacon.Method

/-- The name of a method. -/
def name : Method → String
  | nodeSyncing => "node_syncing"
  | configSpec => "config_spec"
  | depositContract => "config_deposit_contract"
  | genesis => "beacon_genesis"
  | finalityCheckpoints => "beacon_finality_checkpoints"
  | fork => "beacon_fork"
  | header => "beacon_header"
  | attestations => "beacon_attestations"
  | block => "beacon_block"
  | validators => "beacon_validators"
  | committees => "beacon_committees"
  | submitVoluntaryExit => "beacon_voluntary_exits_post"
  | submitCredentialsChange => "beacon_bls_to_execution_changes_post"
  | proposerDuties => "validator_duties_proposer"
  | syncDuties => "validator_duties_sync_post"

end Beacon.Method

namespace Beacon.Request

/-- Reads the request of a method from its arguments. -/
def ofArguments (method : Method) (arguments : List Json) : Json.Reading Request := do
  match method, arguments with
  | .nodeSyncing, [] => return nodeSyncing
  | .configSpec, [] => return configSpec
  | .depositContract, [] => return depositContract
  | .genesis, [] => return genesis
  | .finalityCheckpoints, [state] => return finalityCheckpoints (← state.toText)
  | .fork, [state] => return fork (← state.toText)
  | .header, [id] => return header (← id.toText)
  | .attestations, [id] => return attestations (← id.toText)
  | .block, [id] => return block (← id.toText)
  | .validators, [state, ids] => return validators (← state.toText) (← ids.toList Json.toText)
  | .committees, [state, epoch] =>
    return committees (← state.toText) (← epoch.nullable Json.toNat)
  | .submitVoluntaryExit, [exit] => return submitVoluntaryExit (← voluntaryExit.ofJson exit)
  | .submitCredentialsChange, [change] =>
    return submitCredentialsChange (← credentialsChange.ofJson change)
  | .proposerDuties, [epoch] => return proposerDuties (← epoch.toNat)
  | .syncDuties, [indices, epoch] =>
    return syncDuties (← indices.toList Json.toText) (← epoch.toNat)
  | _, _ => throw "arguments of the method expected"

/-- The arguments of a request. -/
def arguments : Request → List Json
  | nodeSyncing | configSpec | depositContract | genesis => []
  | finalityCheckpoints name | fork name | header name | attestations name | block name =>
    [.str name]
  | validators state ids => [.str state, Json.list Json.str ids]
  | committees state epoch => [.str state, Json.opt Json.quotedNat epoch]
  | submitVoluntaryExit exit => [voluntaryExit.write exit]
  | submitCredentialsChange change => [credentialsChange.write change]
  | proposerDuties epoch => [.quotedNat epoch]
  | syncDuties indices epoch => [Json.list Json.str indices, .quotedNat epoch]

end Beacon.Request

end NodeGateway
