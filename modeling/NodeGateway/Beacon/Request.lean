import NodeGateway.Beacon.Types
import NodeGateway.Node.Interface

/-!
# Requests to Beacon Nodes

What can be asked of a beacon node, and the shape of each answer. A state or a block is named by
whatever the node understands: a slot, a root or a word such as `head`.
-/

namespace NodeGateway.Beacon

/-- The **methods** of a beacon node. -/
inductive Method where
  | nodeSyncing
  | configSpec
  | depositContract
  | genesis
  | finalityCheckpoints
  | fork
  | header
  | attestations
  | block
  | validators
  | committees
  | submitVoluntaryExit
  | submitCredentialsChange
  | proposerDuties
  | syncDuties
  deriving DecidableEq, Repr

/-- A **request** to a beacon node. -/
inductive Request where
  | nodeSyncing
  | configSpec
  | depositContract
  | genesis
  | finalityCheckpoints (state : String)
  | fork (state : String)
  | header (block : String)
  | attestations (block : String)
  | block (block : String)
  | validators (state : String) (ids : List String)
  | committees (state : String) (epoch : Option Nat)
  | submitVoluntaryExit (exit : voluntaryExit.Value)
  | submitCredentialsChange (change : credentialsChange.Value)
  | proposerDuties (epoch : Nat)
  | syncDuties (indices : List String) (epoch : Nat)

/-- The method that a request belongs to. -/
def Request.method : Request → Method
  | nodeSyncing => .nodeSyncing
  | configSpec => .configSpec
  | depositContract => .depositContract
  | genesis => .genesis
  | finalityCheckpoints _ => .finalityCheckpoints
  | fork _ => .fork
  | header _ => .header
  | attestations _ => .attestations
  | block _ => .block
  | validators _ _ => .validators
  | committees _ _ => .committees
  | submitVoluntaryExit _ => .submitVoluntaryExit
  | submitCredentialsChange _ => .submitCredentialsChange
  | proposerDuties _ => .proposerDuties
  | syncDuties _ _ => .syncDuties

namespace Method

/-- Every method. -/
def all : List Method :=
  [nodeSyncing, configSpec, depositContract, genesis, finalityCheckpoints, fork, header,
    attestations, block, validators, committees, submitVoluntaryExit, submitCredentialsChange,
    proposerDuties, syncDuties]

/-- The shape of a method's answer. A block that the node does not know is answered with
none. -/
def answer : Method → Shape
  | nodeSyncing => syncStatus
  | configSpec => chainSpec
  | depositContract => Beacon.depositContract
  | genesis => Beacon.genesis
  | finalityCheckpoints => Beacon.finalityCheckpoints
  | fork => Beacon.fork
  | header => .optional blockHeaderResponse
  | attestations => .optional (.list attestation)
  | block => .optional beaconBlock
  | validators => .list validator
  | committees => .list committee
  | submitVoluntaryExit => .nothing
  | submitCredentialsChange => .nothing
  | proposerDuties => .list proposerDuty
  | syncDuties => .list syncDuty

end Method

/-- The **interface** of beacon nodes. -/
def interface : Interface where
  Request := Request
  Method := Method
  method := Request.method
  Answer method := method.answer.Value

/-- What pools of beacon nodes are called. -/
def clientType : String := "Beacon Node"

end NodeGateway.Beacon
