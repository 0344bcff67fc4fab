import NodeGateway.Beacon.Request
import NodeGateway.Execution.Request
import NodeGateway.Log
import NodeGateway.Metrics.Exposition
import NodeGateway.Node.Dialogue

/-!
# Monitoring Synchronisation

A **tick** of the monitor asks both layers how far they have come and keeps the answers in four
gauges. A layer that fails leaves its gauges as they are and does not keep the other from being
asked. Numbers that do not fit a gauge are cut to its greatest value.
-/

namespace NodeGateway

/-- The interface of both kinds of nodes together. -/
abbrev bothLayers : Interface := Execution.interface.both Beacon.interface

/-- The **gauges** of the monitor. -/
structure SyncGauges where
  executionBlock : Nat := 0
  executionSyncing : Nat := 0
  beaconHeadSlot : Nat := 0
  beaconDistance : Nat := 0
  deriving DecidableEq, Repr

namespace SyncGauges

/-- The greatest value of a gauge. -/
def greatest : Nat := Numeral.bound63 - 1

/-- A number cut to the range of a gauge. -/
def cap (n : Nat) : Nat := min n greatest

/-- What is shown of a gauge's value: it passes through a binary64 number. -/
def shown (n : Nat) : Nat := (Binary64.ofNat n).toNatFloor Numeral.bound63

/-- The collectors of the monitor, in the order in which they are registered. -/
def collectors (g : SyncGauges) : List Collector :=
  [⟨"execution_block_number", "Latest block number reported by the execution client.", .gauge, [],
      [⟨[], g.executionBlock⟩]⟩,
    ⟨"execution_syncing", "Whether the execution client reports it is syncing.", .gauge, [],
      [⟨[], g.executionSyncing⟩]⟩,
    ⟨"beacon_head_slot", "Head slot reported by the beacon node.", .gauge, [],
      [⟨[], g.beaconHeadSlot⟩]⟩,
    ⟨"beacon_sync_distance", "Slots between the beacon node head and the current slot.", .gauge, [],
      [⟨[], g.beaconDistance⟩]⟩]

end SyncGauges

/-- What asking one layer, or both, leaves behind. -/
structure SyncReport where
  outcome : Outcome Unit
  gauges : SyncGauges
  logs : List LogLine

namespace SyncMonitor

/-- What is logged about an execution node that is syncing. -/
def executionLog (progress : Execution.SyncProgress) : LogLine :=
  ⟨.info, "Execution client is syncing: block " ++ toString progress.current ++ " of "
    ++ toString progress.highest⟩

/-- What is logged about a beacon node that is syncing. -/
def beaconLog (status : Beacon.SyncStatus) : LogLine :=
  ⟨.info, "Beacon node is syncing: head slot " ++ toString status.headSlot ++ ", "
    ++ toString status.distance ++ " slots behind"⟩

/-- What is logged about a layer that failed. -/
def failureLog (layer : String) (fault : Fault) : LogLine :=
  ⟨.warn, "Failed to read " ++ layer ++ " sync status: " ++ fault.message⟩

/-- The report of a layer that failed. -/
def failed (layer : String) (gauges : SyncGauges) (fault : Fault) : SyncReport :=
  ⟨.error fault, gauges, [failureLog layer fault]⟩

/-- Asks the **execution layer**: first for its block number, then for its progress. -/
def checkExecution (gauges : SyncGauges) : Dialogue bothLayers SyncReport :=
  .ask (I := bothLayers) (.inl .blockNumber) fun
    | .error fault => .done (failed "execution" gauges fault)
    | .ok (n : Nat) =>
      let gauges := { gauges with executionBlock := SyncGauges.cap n }
      .ask (I := bothLayers) (.inl .syncProgress) fun
        | .error fault => .done (failed "execution" gauges fault)
        | .ok none => .done ⟨.ok (), { gauges with executionSyncing := 0 }, []⟩
        | .ok (some progress) =>
          .done ⟨.ok (), { gauges with executionSyncing := 1 }, [executionLog progress]⟩

/-- Asks the **beacon layer**. -/
def checkBeacon (gauges : SyncGauges) : Dialogue bothLayers SyncReport :=
  .ask (I := bothLayers) (.inr .nodeSyncing) fun
    | .error fault => .done (failed "beacon" gauges fault)
    | .ok value =>
      let status := Beacon.SyncStatus.ofValue value
      let gauges := { gauges with
        beaconHeadSlot := SyncGauges.cap status.headSlot
        beaconDistance := SyncGauges.cap status.distance }
      .done ⟨.ok (), gauges, if status.isSyncing then [beaconLog status] else []⟩

/-- One **tick**: both layers are asked, and the result is the first fault. -/
def tick (gauges : SyncGauges) : Dialogue bothLayers SyncReport := do
  let execution ← checkExecution gauges
  let beacon ← checkBeacon execution.gauges
  return ⟨execution.outcome.bind fun _ => beacon.outcome, beacon.gauges,
    execution.logs ++ beacon.logs⟩

end SyncMonitor

end NodeGateway
