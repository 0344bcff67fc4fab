import NodeGateway.Beacon.Request
import NodeGateway.Metrics.Pool
import NodeGateway.Settings.Basic

/-!
# Setting Up

How the parts of the gateway are made from its settings. The pool of each layer is registered with
its metrics before anything else is said about it; a registry takes each pool only once.
-/

namespace NodeGateway.Setup

/-- What is logged about a pool that has been set up. -/
def poolLog (pool : Pool) : LogLine :=
  ⟨.info, pool.clientType ++ " configured " ++ (if pool.hasFallback then "with" else "without")
    ++ " a fallback endpoint"⟩

/-- Sets up the **pool** of a layer. -/
def pool (clientType : String) (layer : LayerSettings) (reconnectDelay : Duration)
    (registry : Registry) : Except Problem (Pool × LogLine) × Registry :=
  let pool := Pool.fresh clientType reconnectDelay layer.fallback.isSome
  match registry.register pool.collectors with
  | (.ok (), registry) => (.ok (pool, poolLog pool), registry)
  | (.error detail, registry) => (.error (.ofRegistration detail), registry)

/-- Sets up the pool of execution nodes. -/
def executionPool (settings : Settings) (registry : Registry) :
    Except Problem (Pool × LogLine) × Registry :=
  pool Execution.clientType settings.execution settings.reconnectDelay registry

/-- Sets up the pool of beacon nodes. -/
def beaconPool (settings : Settings) (registry : Registry) :
    Except Problem (Pool × LogLine) × Registry :=
  pool Beacon.clientType settings.beacon settings.reconnectDelay registry

/-- How many batches are under way at most where nothing is set: one for every two processors. -/
def defaultCallLimit (processors : Nat) : Nat := max (processors / 2) 1

/-- Sets up queries, on a machine with the given number of processors. -/
def queries (settings : Settings) (processors : Nat) : QuerySettings :=
  QuerySettings.make settings.multicall
    (settings.callLimit.getD (defaultCallLimit processors)) QuerySettings.defaultBatchSize

/-- What is logged about the gas oracle. -/
def oracleLogs (settings : Settings) : List LogLine :=
  if settings.oracle.isSome then [] else [⟨.info, "No gas oracle configured"⟩]

end NodeGateway.Setup
