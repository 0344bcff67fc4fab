import Mathlib.Data.List.Induction
import NodeGateway.Proofs.Failover.Turns
import NodeGateway.Service.Status

/-!
# The Status of Both Layers

Both layers are asked for their status at the same time. Each of them has a pool of its own, so it
does not matter in which order they take their turns: after any number of turns, a layer is where
its own turns have brought it (`Asking.run_eq`). The response can be given when both have ended,
and it is the same as if one had been asked after the other.

How long an attempt takes, and whether a deadline that both layers share cuts it short, is up to the
endpoints. They are arbitrary here, so nothing depends on it but which layer takes its turn first.

The main result is `Service.status_of_turns`. It says of every member of the response where it
comes from: what a layer was asked for from that layer alone, and the readiness from the pools as
they are when both layers have ended.
-/

namespace NodeGateway.Service

/-- The **layers** of nodes. -/
inductive Layer where
  | execution
  | beacon
  deriving DecidableEq, Repr

/-- **Both layers being asked** at the same time, one for its block number and one for its sync
status. -/
structure Asking (σ τ : Type) where
  execution : Underway σ (Execution.interface.Reply .blockNumber)
  beacon : Underway τ (Beacon.interface.Reply .nodeSyncing)

namespace Asking

/-- What surrounds the request to the execution layer. -/
def aroundExecution (backend : Backend σ τ ω) :
    Surroundings σ (Execution.interface.Reply .blockNumber) :=
  backend.execution.surroundings Execution.Request.blockNumber

/-- What surrounds the request to the beacon layer. -/
def aroundBeacon (backend : Backend σ τ ω) :
    Surroundings τ (Beacon.interface.Reply .nodeSyncing) :=
  backend.beacon.surroundings Beacon.Request.nodeSyncing

/-- Neither layer has begun. -/
def start (state : State σ τ ω) : Asking σ τ where
  execution := { pool := state.execution.1, state := state.execution.2 }
  beacon := { pool := state.beacon.1, state := state.beacon.2 }

/-- **One of the layers takes a turn.** -/
def turn (backend : Backend σ τ ω) (asking : Asking σ τ) : Layer → Asking σ τ
  | .execution => { asking with execution := asking.execution.turn (aroundExecution backend) }
  | .beacon => { asking with beacon := asking.beacon.turn (aroundBeacon backend) }

/-- The layers take turns in the given order. -/
def run (backend : Backend σ τ ω) (state : State σ τ ω) (turns : List Layer) : Asking σ τ :=
  turns.foldl (turn backend) (start state)

/-- **A layer is where its own turns have brought it**, whatever the other layer does. -/
theorem run_eq (backend : Backend σ τ ω) (state : State σ τ ω) (turns : List Layer) :
    run backend state turns =
      ⟨(Underway.turn (aroundExecution backend))^[turns.count .execution]
          { pool := state.execution.1, state := state.execution.2 },
        (Underway.turn (aroundBeacon backend))^[turns.count .beacon]
          { pool := state.beacon.1, state := state.beacon.2 }⟩ := by
  induction turns using List.reverseRecOn with
  | nil => rfl
  | append_singleton turns layer ih =>
      rw [run, List.foldl_append, ← run, ih]
      cases layer with
      | execution => simp [turn, List.count_append, Function.iterate_succ_apply']
      | beacon => simp [turn, List.count_append, Function.iterate_succ_apply']

/-- The turns of the beacon layer make no difference to the execution layer. -/
theorem execution_run (backend : Backend σ τ ω) (state : State σ τ ω) (turns : List Layer) :
    (run backend state turns).execution =
      (Underway.turn (aroundExecution backend))^[turns.count .execution]
        { pool := state.execution.1, state := state.execution.2 } :=
  congrArg execution (run_eq backend state turns)

/-- The turns of the execution layer make no difference to the beacon layer. -/
theorem beacon_run (backend : Backend σ τ ω) (state : State σ τ ω) (turns : List Layer) :
    (run backend state turns).beacon =
      (Underway.turn (aroundBeacon backend))^[turns.count .beacon]
        { pool := state.beacon.1, state := state.beacon.2 } :=
  congrArg beacon (run_eq backend state turns)

/-- When both layers have ended, they are where asking one after the other would have brought
them. -/
theorem gather_eq (backend : Backend σ τ ω) (state : State σ τ ω) (turns : List Layer)
    {blockNumber : Outcome (Execution.interface.Reply .blockNumber)}
    {sync : Outcome (Beacon.interface.Reply .nodeSyncing)}
    (hexecution : (run backend state turns).execution.result? = some blockNumber)
    (hbeacon : (run backend state turns).beacon.result? = some sync) :
    let reached := run backend state turns
    let after : State σ τ ω := { state with
      execution := (reached.execution.pool, reached.execution.state)
      beacon := (reached.beacon.pool, reached.beacon.state) }
    StatusReport.gather backend state =
      ({ health := after.health, blockNumber := blockNumber.toOption
         sync := sync.toOption.map Beacon.SyncStatus.ofValue }, after) := by
  rw [run_eq] at hexecution hbeacon ⊢
  have hfirst := Underway.eq_dispatch_of_result? hexecution
  have hsecond := Underway.eq_dispatch_of_result? hbeacon
  simp only [StatusReport.gather, Backend.askExecution, Backend.askBeacon, Pool.call]
  rw [aroundExecution] at hfirst
  rw [aroundBeacon] at hsecond
  dsimp only at hfirst hsecond
  rw [hfirst, hsecond]
  rfl

end Asking

namespace StatusReport

/-- A document **reports** what was asked for and what is believed. Null stands for an answer
exactly if there is none, and what is said about syncing comes from one answer. -/
structure Reports (document : Json) (health : HealthReport) (blockNumber : Outcome Nat)
    (sync : Outcome (Beacon.interface.Reply .nodeSyncing)) : Prop where
  upstreams : document.get? "upstreams" = some health.toJson
  blockNumber_null : document.get? "execution_block_number" = some .null ↔
    ∃ fault, blockNumber = .error fault
  blockNumber_answer : ∀ n, blockNumber = .ok n →
    document.get? "execution_block_number" = some (.nat n)
  headSlot_null : document.get? "beacon_head_slot" = some .null ↔ ∃ fault, sync = .error fault
  syncing_null : document.get? "beacon_syncing" = some .null ↔ ∃ fault, sync = .error fault
  sync_answer : ∀ answer, sync = .ok answer →
    document.get? "beacon_head_slot" = some (.nat (Beacon.SyncStatus.ofValue answer).headSlot) ∧
      document.get? "beacon_syncing" =
        some (.bool (Beacon.SyncStatus.ofValue answer).isSyncing)

/-- Null is written exactly if there is no answer. -/
theorem opt_eq_null_iff {write : α → Json} (hwrite : ∀ a, write a ≠ .null) (outcome : Outcome β)
    (read : β → α) : some (Json.opt write (outcome.toOption.map read)) = some .null ↔
      ∃ fault, outcome = .error fault := by
  cases outcome with
  | error fault => exact ⟨fun _ => ⟨fault, rfl⟩, fun _ => rfl⟩
  | ok value => exact ⟨fun h => absurd (Option.some.inj h) (hwrite _), nofun⟩

theorem reports_toJson (health : HealthReport) (blockNumber : Outcome Nat)
    (sync : Outcome (Beacon.interface.Reply .nodeSyncing)) :
    let report : StatusReport := { health, blockNumber := blockNumber.toOption
                                   sync := sync.toOption.map Beacon.SyncStatus.ofValue }
    Reports report.toJson health blockNumber sync where
  upstreams := rfl
  blockNumber_null := by
    have hnat : ∀ n, Json.nat n ≠ .null := fun _ => Json.noConfusion
    have hnull := opt_eq_null_iff hnat blockNumber id
    rwa [Option.map_id] at hnull
  blockNumber_answer := by
    rintro n rfl
    rfl
  headSlot_null := opt_eq_null_iff (fun _ => Json.noConfusion) sync _
  syncing_null := opt_eq_null_iff (fun _ => Json.noConfusion) sync _
  sync_answer := by
    rintro answer rfl
    exact ⟨rfl, rfl⟩

end StatusReport

/-- **The status of both layers**, for all endpoints, pools in whatever state, and layers that take
their turns in whatever order.

Each layer goes its own way, and has ended after three turns of its own. When both have ended, the
response is a document with the status 200. The block number in it is null exactly if asking the
execution layer has failed, and otherwise its answer; the head slot and whether the node is syncing
are null exactly if asking the beacon layer has failed, and otherwise taken from one and the same
answer. The readiness in it is that of both pools when both layers have ended, so it tells what the
request itself has found out about them. -/
theorem status_of_turns (backend : Backend σ τ ω) (state : State σ τ ω) (turns : List Layer) :
    let reached := Asking.run backend state turns
    reached.execution = (Underway.turn (Asking.aroundExecution backend))^[turns.count .execution]
        { pool := state.execution.1, state := state.execution.2 } ∧
    reached.beacon = (Underway.turn (Asking.aroundBeacon backend))^[turns.count .beacon]
        { pool := state.beacon.1, state := state.beacon.2 } ∧
    (3 ≤ turns.count .execution → reached.execution.result?.isSome = true) ∧
    (3 ≤ turns.count .beacon → reached.beacon.result?.isSome = true) ∧
    ∀ blockNumber sync, reached.execution.result? = some blockNumber →
      reached.beacon.result? = some sync →
      let after := (status backend state).2
      after.execution = (reached.execution.pool, reached.execution.state) ∧
      after.beacon = (reached.beacon.pool, reached.beacon.state) ∧
      ∃ document, (status backend state).1 = ⟨200, .document document⟩ ∧
        StatusReport.Reports document after.health blockNumber sync ∧
        Underway.Tells state.execution.1 reached.execution after.health.execution ∧
        Underway.Tells state.beacon.1 reached.beacon after.health.beacon := by
  intro reached
  have hexecution : reached.execution = _ := Asking.execution_run backend state turns
  have hbeacon : reached.beacon = _ := Asking.beacon_run backend state turns
  refine ⟨hexecution, hbeacon, fun hturns => ?_, fun hturns => ?_, ?_⟩
  · rw [hexecution]
    exact Underway.isSome_result?_turns _ _ _ hturns
  · rw [hbeacon]
    exact Underway.isSome_result?_turns _ _ _ hturns
  intro blockNumber sync hblockNumber hsync
  have hgather := Asking.gather_eq backend state turns hblockNumber hsync
  simp only [status, hgather]
  refine ⟨rfl, rfl, _, rfl, StatusReport.reports_toJson _ blockNumber sync, ?_, ?_⟩
  · exact hexecution ▸ Underway.tells_turns _ _ _ _
  · exact hbeacon ▸ Underway.tells_turns _ _ _ _

end NodeGateway.Service
