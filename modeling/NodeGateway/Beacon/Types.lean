import NodeGateway.Json.Shape

/-!
# Data of Beacon Nodes

The shapes of what beacon nodes send and take, member by member in their order. Numbers are
quoted, byte strings are hexadecimal, and most answers are wrapped in an envelope with the single
member `data`.
-/

namespace NodeGateway.Beacon

/-- What an answer is wrapped in. -/
def envelope (data : Shape) : Shape := .record (.field "data" true data .nil)

/-- How far a node has come in following the chain. -/
def syncStatus : Shape :=
  .record <| .field "is_syncing" true .flag <| .field "head_slot" true .count <|
    .field "sync_distance" true .count .nil

/-- The constants of the chain. -/
def chainSpec : Shape :=
  .record <| .field "SECONDS_PER_SLOT" true .count <| .field "SLOTS_PER_EPOCH" true .count <|
    .field "EPOCHS_PER_SYNC_COMMITTEE_PERIOD" true .count <|
    .field "CAPELLA_FORK_VERSION" true (.sized 4) .nil

/-- Where deposits go. -/
def depositContract : Shape :=
  .record <| .field "chain_id" true .count <| .field "address" true (.sized 20) .nil

/-- The beginning of the chain. -/
def genesis : Shape :=
  .record <| .field "genesis_time" true .count <|
    .field "genesis_fork_version" true (.sized 4) <|
    .field "genesis_validators_root" true (.sized 32) .nil

/-- A checkpoint. -/
def checkpoint : Shape := .record (.field "epoch" true .count .nil)

/-- The checkpoints that tell what is final. -/
def finalityCheckpoints : Shape :=
  .record <| .field "previous_justified" true checkpoint <|
    .field "current_justified" true checkpoint <| .field "finalized" true checkpoint .nil

/-- A fork of the chain. -/
def fork : Shape :=
  .record <| .field "previous_version" true (.sized 4) <|
    .field "current_version" true (.sized 4) <| .field "epoch" true .count .nil

/-- The header of a block. -/
def blockHeader : Shape :=
  .record <| .field "slot" true .count <| .field "proposer_index" true .text .nil

/-- The header of a block with its signature left out. -/
def signedBlockHeader : Shape := .record (.field "message" true blockHeader .nil)

/-- A header and its place in the chain. -/
def blockHeaderData : Shape :=
  .record <| .field "root" true (.sized 32) <| .field "canonical" true .flag <|
    .field "header" true signedBlockHeader .nil

/-- The answer to a request for a header. Whether it is final may be left out. -/
def blockHeaderResponse : Shape :=
  .record <| .field "finalized" false .flag <| .field "data" true blockHeaderData .nil

/-- What an attestation attests. -/
def attestationData : Shape :=
  .record <| .field "slot" true .count <| .field "index" true .count .nil

/-- An attestation in a block. -/
def attestation : Shape :=
  .record <| .field "aggregation_bits" true .bytes <| .field "data" true attestationData .nil

/-- What a block says about deposits. -/
def eth1Data : Shape :=
  .record <| .field "deposit_root" true (.sized 32) <| .field "deposit_count" true .count <|
    .field "block_hash" true (.sized 32) .nil

/-- What a block says about the execution layer. -/
def executionPayload : Shape :=
  .record <| .field "fee_recipient" true (.sized 20) <| .field "block_number" true .count .nil

/-- The body of a block. Early blocks have no execution payload. -/
def beaconBlockBody : Shape :=
  .record <| .field "eth1_data" true eth1Data <| .field "attestations" true (.list attestation) <|
    .field "execution_payload" false (.optional executionPayload) .nil

/-- A block. -/
def beaconBlock : Shape :=
  .record <| .field "slot" true .count <| .field "proposer_index" true .text <|
    .field "body" true beaconBlockBody .nil

/-- A block with its signature left out. -/
def signedBeaconBlock : Shape := .record (.field "message" true beaconBlock .nil)

/-- What is known of a validator's key. -/
def validatorDetails : Shape :=
  .record <| .field "pubkey" true (.sized 48) <|
    .field "withdrawal_credentials" true (.sized 32) <|
    .field "effective_balance" true .count <| .field "slashed" true .flag <|
    .field "activation_eligibility_epoch" true .count <| .field "activation_epoch" true .count <|
    .field "exit_epoch" true .count <| .field "withdrawable_epoch" true .count .nil

/-- A validator. -/
def validator : Shape :=
  .record <| .field "index" true .text <| .field "balance" true .count <|
    .field "status" true .text <| .field "validator" true validatorDetails .nil

/-- A committee. -/
def committee : Shape :=
  .record <| .field "index" true .count <| .field "slot" true .count <|
    .field "validators" true (.list .text) .nil

/-- A validator's duty to propose a block. -/
def proposerDuty : Shape := .record (.field "validator_index" true .text .nil)

/-- A validator's duties in a sync committee. -/
def syncDuty : Shape :=
  .record <| .field "pubkey" true (.sized 48) <| .field "validator_index" true .text <|
    .field "validator_sync_committee_indices" true (.list .count) .nil

/-- The message of a voluntary exit. -/
def voluntaryExitMessage : Shape :=
  .record <| .field "epoch" true .count <| .field "validator_index" true .text .nil

/-- A signed voluntary exit. -/
def voluntaryExit : Shape :=
  .record <| .field "message" true voluntaryExitMessage <|
    .field "signature" true (.sized 96) .nil

/-- The message of a change of withdrawal credentials. -/
def credentialsChangeMessage : Shape :=
  .record <| .field "validator_index" true .text <| .field "from_bls_pubkey" true (.sized 48) <|
    .field "to_execution_address" true (.sized 20) .nil

/-- A signed change of withdrawal credentials. -/
def credentialsChange : Shape :=
  .record <| .field "message" true credentialsChangeMessage <|
    .field "signature" true (.sized 96) .nil

/-- Every kind of record by its name. -/
def records : List (String × Shape) :=
  [("SyncStatus", syncStatus), ("ChainSpec", chainSpec),
    ("DepositContract", depositContract), ("Genesis", genesis),
    ("Checkpoint", checkpoint), ("FinalityCheckpoints", finalityCheckpoints),
    ("Fork", fork), ("BlockHeader", blockHeader),
    ("SignedBlockHeader", signedBlockHeader), ("BlockHeaderData", blockHeaderData),
    ("BlockHeaderResponse", blockHeaderResponse), ("AttestationData", attestationData),
    ("Attestation", attestation), ("Eth1Data", eth1Data),
    ("ExecutionPayloadSummary", executionPayload), ("BeaconBlockBody", beaconBlockBody),
    ("BeaconBlock", beaconBlock), ("SignedBeaconBlock", signedBeaconBlock),
    ("ValidatorDetails", validatorDetails), ("Validator", validator),
    ("Committee", committee), ("ProposerDuty", proposerDuty),
    ("SyncDuty", syncDuty), ("VoluntaryExitMessage", voluntaryExitMessage),
    ("VoluntaryExitRequest", voluntaryExit),
    ("BlsToExecutionChangeMessage", credentialsChangeMessage),
    ("BlsToExecutionChangeRequest", credentialsChange)]

/-- How far a node has come, as a record of this library. -/
structure SyncStatus where
  isSyncing : Bool
  headSlot : Nat
  distance : Nat
  deriving DecidableEq, Repr

/-- The record of a sync status. -/
def SyncStatus.ofValue (value : syncStatus.Value) : SyncStatus :=
  let (isSyncing, headSlot, distance, _) := value
  ⟨isSyncing, UInt64.toNat headSlot, UInt64.toNat distance⟩

end NodeGateway.Beacon
