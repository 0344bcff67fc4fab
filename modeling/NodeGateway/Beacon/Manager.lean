import NodeGateway.Beacon.Request
import NodeGateway.Node.Manager

/-!
# The Manager of Beacon Nodes

The methods of a client of a beacon node, and the wrappers with which a manager has all of them too.
What a wrapper is given to ask with is lent to every attempt and stays as it is.
-/

namespace NodeGateway.Beacon

/-- A **client** of a beacon node. -/
structure Client (σ : Type) where
  nodeSyncing : Asking σ syncStatus.Value
  configSpec : Asking σ chainSpec.Value
  configDepositContract : Asking σ depositContract.Value
  beaconGenesis : Asking σ genesis.Value
  beaconFinalityCheckpoints : String → Asking σ finalityCheckpoints.Value
  beaconFork : String → Asking σ fork.Value
  beaconHeader : String → Asking σ (Option blockHeaderResponse.Value)
  beaconAttestations : String → Asking σ (Option (List attestation.Value))
  beaconBlock : String → Asking σ (Option beaconBlock.Value)
  beaconValidators : String → List String → Asking σ (List validator.Value)
  beaconCommittees : String → Option Nat → Asking σ (List committee.Value)
  beaconVoluntaryExitsPost : voluntaryExit.Value → Asking σ Unit
  beaconBlsToExecutionChangesPost : credentialsChange.Value → Asking σ Unit
  validatorDutiesProposer : Nat → Asking σ (List proposerDuty.Value)
  validatorDutiesSyncPost : List String → Nat → Asking σ (List syncDuty.Value)

namespace Client

/-- Calls the method of a request with its arguments. -/
def invoke (client : Client σ) : (request : Request) → Asking σ request.method.answer.Value
  | .nodeSyncing => client.nodeSyncing
  | .configSpec => client.configSpec
  | .depositContract => client.configDepositContract
  | .genesis => client.beaconGenesis
  | .finalityCheckpoints state => client.beaconFinalityCheckpoints state
  | .fork state => client.beaconFork state
  | .header block => client.beaconHeader block
  | .attestations block => client.beaconAttestations block
  | .block block => client.beaconBlock block
  | .validators state ids => client.beaconValidators state ids
  | .committees state epoch => client.beaconCommittees state epoch
  | .submitVoluntaryExit exit => client.beaconVoluntaryExitsPost exit
  | .submitCredentialsChange change => client.beaconBlsToExecutionChangesPost change
  | .proposerDuties epoch => client.validatorDutiesProposer epoch
  | .syncDuties indices epoch => client.validatorDutiesSyncPost indices epoch

/-- The client that answers each request in its own way. -/
def ofResponder (respond : (request : Request) → Asking σ request.method.answer.Value) :
    Client σ where
  nodeSyncing := respond .nodeSyncing
  configSpec := respond .configSpec
  configDepositContract := respond .depositContract
  beaconGenesis := respond .genesis
  beaconFinalityCheckpoints state := respond (.finalityCheckpoints state)
  beaconFork state := respond (.fork state)
  beaconHeader block := respond (.header block)
  beaconAttestations block := respond (.attestations block)
  beaconBlock block := respond (.block block)
  beaconValidators state ids := respond (.validators state ids)
  beaconCommittees state epoch := respond (.committees state epoch)
  beaconVoluntaryExitsPost exit := respond (.submitVoluntaryExit exit)
  beaconBlsToExecutionChangesPost change := respond (.submitCredentialsChange change)
  validatorDutiesProposer epoch := respond (.proposerDuties epoch)
  validatorDutiesSyncPost indices epoch := respond (.syncDuties indices epoch)

end Client

/-- The **manager** of two clients: a wrapper for each method. -/
def manager (clients : Clients (Client σ) σ) : Client (Pool × σ) where
  nodeSyncing := clients.dispatch fun client => client.nodeSyncing
  configSpec := clients.dispatch fun client => client.configSpec
  configDepositContract := clients.dispatch fun client => client.configDepositContract
  beaconGenesis := clients.dispatch fun client => client.beaconGenesis
  beaconFinalityCheckpoints state :=
    clients.dispatch fun client => client.beaconFinalityCheckpoints state
  beaconFork state := clients.dispatch fun client => client.beaconFork state
  beaconHeader block := clients.dispatch fun client => client.beaconHeader block
  beaconAttestations block := clients.dispatch fun client => client.beaconAttestations block
  beaconBlock block := clients.dispatch fun client => client.beaconBlock block
  beaconValidators state ids := clients.dispatch fun client => client.beaconValidators state ids
  beaconCommittees state epoch :=
    clients.dispatch fun client => client.beaconCommittees state epoch
  beaconVoluntaryExitsPost exit :=
    clients.dispatch fun client => client.beaconVoluntaryExitsPost exit
  beaconBlsToExecutionChangesPost change :=
    clients.dispatch fun client => client.beaconBlsToExecutionChangesPost change
  validatorDutiesProposer epoch :=
    clients.dispatch fun client => client.validatorDutiesProposer epoch
  validatorDutiesSyncPost indices epoch :=
    clients.dispatch fun client => client.validatorDutiesSyncPost indices epoch

/-- The **port** of beacon nodes. -/
def port : Port interface where
  clientType := clientType
  Client := Client
  invoke := Client.invoke
  ofResponder := Client.ofResponder
  manager := manager

end NodeGateway.Beacon
