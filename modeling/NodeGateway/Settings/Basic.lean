import NodeGateway.Query.Batch
import NodeGateway.Settings.Record
import NodeGateway.Transaction.Gas

/-!
# Settings

What the gateway can be told: where the nodes of both layers are and how long they may take, how it
serves its own callers, and how gas limits are derived. Everything but the primary endpoints and the
address to listen on has a value of its own that is used where nothing is set.

Settings are read from a tree, converted, and then **checked**: a fallback has to be another
endpoint than its primary, and the gas multiplier has to be usable.

## Main definitions

* `Settings`, with one `LayerSettings` for each layer;
* `Settings.read`, `Settings.check` and `Settings.load`.
-/

namespace NodeGateway

/-- How long calls may take: ordinary ones, and those for long lists. -/
structure Tiers where
  fast : Duration
  slow : Duration
  deriving DecidableEq, Repr

namespace Tiers

/-- The times that are used where none are set. -/
def standard : Tiers := ⟨.ofSeconds 5, .ofSeconds 30⟩

end Tiers

/-- The settings of one **layer** of nodes. -/
structure LayerSettings where
  primary : Url
  fallback : Option Url
  tiers : Tiers
  deriving DecidableEq, Repr

/-- The **settings** of the gateway. -/
structure Settings where
  execution : LayerSettings
  beacon : LayerSettings
  reconnectDelay : Duration
  port : Nat
  /-- The address to listen on, of version 4. -/
  host : Nat
  multicall : Address
  /-- How many batches may be under way; the number of processors decides if nothing is set. -/
  callLimit : Option Nat
  gas : GasPolicy
  syncInterval : Duration
  requestTimeout : Duration
  oracle : Option Url
  deriving DecidableEq, Repr

namespace LayerSettings

/-- The fields of a layer's settings. -/
def fields : List String := ["primary_url", "fallback_url", "fast_timeout", "slow_timeout"]

open SettingTree in
/-- Reads the settings of a layer. -/
def read (path : SettingPath) (tree : SettingTree) : Converted LayerSettings := do
  let record ← SettingRecord.ofTree "struct Upstream" fields path tree
  let primary ← record.convert? "primary_url" toUrl
  let fallback ← record.convert? "fallback_url" toUrl?
  let fast ← record.convert? "fast_timeout" toDuration
  let slow ← record.convert? "slow_timeout" toDuration
  return { primary := ← record.require "primary_url" primary
           fallback := fallback.getD none
           tiers := ⟨fast.getD Tiers.standard.fast, slow.getD Tiers.standard.slow⟩ }

/-- Whether the fallback is another endpoint than the primary, if there is one. -/
def hasDistinctFallback (layer : LayerSettings) : Bool := layer.fallback != some layer.primary

end LayerSettings

namespace Settings

/-- How long a lost endpoint is left alone if nothing is set. -/
def defaultReconnectDelay : Duration := .ofSeconds 60

/-- How often the layers are asked for their progress if nothing is set. -/
def defaultSyncInterval : Duration := .ofSeconds 12

/-- How long a request of a caller may take if nothing is set. -/
def defaultRequestTimeout : Duration := .ofSeconds 10

open SettingTree in
/-- Reads how long a lost endpoint is left alone. -/
def readFallback (path : SettingPath) (tree : SettingTree) : Converted Duration := do
  let record ← SettingRecord.ofTree "struct Fallback" ["reconnect_delay"] path tree
  return (← record.convert? "reconnect_delay" toDuration).getD defaultReconnectDelay

/-- The fields of the settings of the service itself. -/
def serviceFields : List String :=
  ["port", "host", "multicall_address", "concurrent_call_limit", "safe_gas_buffer",
    "safe_gas_multiplier", "sync_check_interval", "request_timeout", "gas_oracle_url"]

open SettingTree in
/-- Reads the settings of the service itself and puts them together with those of the layers. -/
def readService (path : SettingPath) (tree : SettingTree) :
    Converted (LayerSettings → LayerSettings → Duration → Settings) := do
  let record ← SettingRecord.ofTree "struct App" serviceFields path tree
  let port ← record.convert? "port" toPort
  let host ← record.convert? "host" toHost
  let multicall ← record.convert? "multicall_address" toAddress
  let limit ← record.convert? "concurrent_call_limit" fun path value =>
    if value matches .nothing then .ok none else (value.toCount path).map some
  let buffer ← record.convert? "safe_gas_buffer" toCount
  let multiplier ← record.convert? "safe_gas_multiplier" toFloat
  let interval ← record.convert? "sync_check_interval" toDuration
  let timeout ← record.convert? "request_timeout" toDuration
  let oracle ← record.convert? "gas_oracle_url" toUrl?
  let port ← record.require "port" port
  let host ← record.require "host" host
  return fun execution beacon reconnectDelay =>
    { execution, beacon, reconnectDelay, port, host
      multicall := multicall.getD Multicall.defaultAddress
      callLimit := limit.getD none
      gas := ⟨buffer.getD GasPolicy.defaultBuffer, multiplier.getD GasPolicy.defaultMultiplier⟩
      syncInterval := interval.getD defaultSyncInterval
      requestTimeout := timeout.getD defaultRequestTimeout
      oracle := oracle.getD none }

/-- The records of the settings. -/
def fields : List String := ["execution", "beacon", "fallback", "app"]

/-- Reads settings from a tree. -/
def read (tree : SettingTree) : Converted Settings := do
  let record ← SettingRecord.ofTree "struct Config" fields [] tree
  let execution ← record.convert? "execution" LayerSettings.read
  let beacon ← record.convert? "beacon" LayerSettings.read
  let fallback ← record.convert? "fallback" readFallback
  let service ← record.convert? "app" readService
  let execution ← record.require "execution" execution
  let beacon ← record.require "beacon" beacon
  let service ← record.require "app" service
  return service execution beacon (fallback.getD defaultReconnectDelay)

/-- **Checks** settings that have been read. -/
def check (settings : Settings) : Converted Unit := do
  if !settings.execution.hasDistinctFallback then throw (.sameEndpoint "execution")
  if !settings.beacon.hasDistinctFallback then throw (.sameEndpoint "beacon")
  if !GasPolicy.isMultiplier settings.gas.multiplier then
    throw (.multiplier settings.gas.multiplier)

/-- **Loads** settings from a file's tree and the variables of the environment. -/
def load (file : SettingTree) (environment : List (String × String)) : Converted Settings := do
  let settings ← read (file.ofFile.overrideBy environment)
  settings.check
  return settings

end Settings

end NodeGateway
