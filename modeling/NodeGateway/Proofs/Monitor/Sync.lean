import NodeGateway.Monitor.Sync
import NodeGateway.Proofs.Node.Dialogue

/-!
# What the Gauges of the Monitor Show

A tick of the monitor reads up to three values, any of which may be missing, and sets four gauges.
What the gauges show after any number of ticks is said here without the ticks: it is a function of
the exchanges so far (`SyncGauges.shownBy`), in which every gauge looks for the last value that was
read from its own source. The two gauges of the beacon layer look for the same value, so they cannot
show parts of two answers.

The link between the two is the effect of a single exchange (`SyncGauges.record`). An exchange that
failed sets nothing, and one that did not fail sets the gauges of its source and no others. A tick
has the effects of its exchanges and nothing else, and so has a sequence of ticks.

## Main definitions

* `SyncGauges.shownBy`: what the gauges show after some exchanges;
* `SyncMonitor.Course`: the exchanges of a tick, and its result;
* `SyncMonitor.watch`: ticks one after the other, with anything in between.

## Main results

* `SyncGauges.shownBy_concat`: what one more exchange changes;
* `SyncMonitor.gauges_tick`: a tick has the effects of its exchanges;
* `SyncMonitor.gauges_of_ticks`: what is asked in every tick, how it ends, and what the gauges show.
-/

namespace NodeGateway

/-! ### What the gauges show -/

namespace SyncGauges

variable {history : List (Exchange bothLayers)} {exchange : Exchange bothLayers}

/-- The block number that an exchange has read, if it has. -/
def blockNumber? : Exchange bothLayers → Option Nat
  | ⟨.inl .blockNumber, .ok (number : Nat)⟩ => some number
  | _ => none

/-- The progress of the execution layer that an exchange has read, if it has. A node that is not
syncing shows none. -/
def progress? : Exchange bothLayers → Option (Option Execution.SyncProgress)
  | ⟨.inl .syncProgress, .ok progress⟩ => some progress
  | _ => none

/-- The status of the beacon layer that an exchange has read, if it has. -/
def status? : Exchange bothLayers → Option Beacon.SyncStatus
  | ⟨.inr .nodeSyncing, .ok value⟩ => some (Beacon.SyncStatus.ofValue value)
  | _ => none

/-- The value that was read **last**. -/
def latest? (read? : Exchange bothLayers → Option α) (history : List (Exchange bothLayers)) :
    Option α :=
  (history.filterMap read?).getLast?

/-- What the gauges **show** after some exchanges: each the value that was read last from its
source, cut to the greatest number with a sign and 63 bits, and zero if none was read. -/
def shownBy (history : List (Exchange bothLayers)) : SyncGauges where
  executionBlock := (latest? blockNumber? history).elim 0 (min · (Numeral.bound63 - 1))
  executionSyncing := (latest? progress? history).elim 0 fun progress =>
    if progress.isSome then 1 else 0
  beaconHeadSlot := (latest? status? history).elim 0 fun status =>
    min status.headSlot (Numeral.bound63 - 1)
  beaconDistance := (latest? status? history).elim 0 fun status =>
    min status.distance (Numeral.bound63 - 1)

/-- What one exchange **changes**. -/
def record (gauges : SyncGauges) : Exchange bothLayers → SyncGauges
  | ⟨.inl .blockNumber, .ok (number : Nat)⟩ => { gauges with executionBlock := cap number }
  | ⟨.inl .syncProgress, .ok (progress : Option Execution.SyncProgress)⟩ =>
    { gauges with executionSyncing := if progress.isSome then 1 else 0 }
  | ⟨.inr .nodeSyncing, .ok value⟩ =>
    let status := Beacon.SyncStatus.ofValue value
    { gauges with
      beaconHeadSlot := cap status.headSlot
      beaconDistance := cap status.distance }
  | _ => gauges

theorem latest?_concat (read? : Exchange bothLayers → Option α) :
    latest? read? (history ++ [exchange]) = (read? exchange).or (latest? read? history) := by
  rw [latest?, List.filterMap_append, List.getLast?_append]
  cases hread : read? exchange <;> simp [hread, latest?]

/-- **One more exchange** changes what it has read and nothing else. -/
theorem shownBy_concat : shownBy (history ++ [exchange]) = (shownBy history).record exchange := by
  simp only [shownBy, latest?_concat]
  unfold record
  split
  case h_1 => simp [blockNumber?, progress?, status?, cap, greatest]
  case h_2 => simp [blockNumber?, progress?, status?]
  case h_3 => simp [blockNumber?, progress?, status?, cap, greatest]
  case h_4 hnumber hprogress hstatus =>
    have hunread : blockNumber? exchange = none ∧ progress? exchange = none ∧
        status? exchange = none := by
      unfold blockNumber? progress? status?
      refine ⟨?_, ?_, ?_⟩
      · split
        · exact absurd rfl (hnumber _)
        · rfl
      · split
        · exact absurd rfl (hprogress _)
        · rfl
      · split
        · exact absurd rfl (hstatus _)
        · rfl
    simp [hunread]

/-- Some more exchanges change what they have read, one after the other. -/
theorem shownBy_append (later : List (Exchange bothLayers)) :
    shownBy (history ++ later) = later.foldl record (shownBy history) := by
  induction later generalizing history with
  | nil => rw [List.append_nil]; rfl
  | cons exchange rest ih =>
      rw [List.append_cons, ih, shownBy_concat, List.foldl_cons]

end SyncGauges

/-! ### One tick -/

namespace SyncMonitor

variable {σ : Type}
  {respond : (request : bothLayers.Request) → σ → Outcome (bothLayers.Reply request) × σ}

/-- The **course** of a tick: its exchanges, and its result. -/
inductive Course : List (Exchange bothLayers) → Outcome Unit → Prop
  /-- There is no block number, so the progress is not asked for. -/
  | unnumbered {fault : Fault} {status : Outcome Beacon.syncStatus.Value} :
      Course [⟨.inl .blockNumber, .error fault⟩, ⟨.inr .nodeSyncing, status⟩] (.error fault)
  /-- There is a block number but no progress. -/
  | unfinished {number : Nat} {fault : Fault} {status : Outcome Beacon.syncStatus.Value} :
      Course [⟨.inl .blockNumber, .ok number⟩, ⟨.inl .syncProgress, .error fault⟩,
        ⟨.inr .nodeSyncing, status⟩] (.error fault)
  /-- The execution layer was read, so the beacon layer decides. -/
  | finished {number : Nat} {progress : Option Execution.SyncProgress}
      {status : Outcome Beacon.syncStatus.Value} :
      Course [⟨.inl .blockNumber, .ok number⟩, ⟨.inl .syncProgress, .ok progress⟩,
        ⟨.inr .nodeSyncing, status⟩] (status.map fun _ => ())

/-- A tick asks the execution layer and then, whatever has come of that, the beacon layer. -/
theorem run_tick (gauges : SyncGauges) (state : σ) :
    let execution := (checkExecution gauges).run respond state
    let beacon := (checkBeacon execution.1.gauges).run respond execution.2
    (tick gauges).run respond state =
      (⟨execution.1.outcome.bind fun _ => beacon.1.outcome, beacon.1.gauges,
        execution.1.logs ++ beacon.1.logs⟩, beacon.2) := by
  intro execution beacon
  refine (Dialogue.run_bind respond (checkExecution gauges) _ state).trans ?_
  exact Dialogue.run_bind respond (checkBeacon execution.1.gauges) _ execution.2

theorem exchanges_tick (gauges : SyncGauges) (state : σ) :
    let execution := (checkExecution gauges).run respond state
    (tick gauges).exchanges respond state = (checkExecution gauges).exchanges respond state ++
      (checkBeacon execution.1.gauges).exchanges respond execution.2 := by
  intro execution
  refine (Dialogue.exchanges_bind respond (checkExecution gauges) _ state).trans ?_
  refine congrArg _ ((Dialogue.exchanges_bind respond (checkBeacon execution.1.gauges) _
    execution.2).trans ?_)
  exact List.append_nil _

/-- The **course of one layer**: the execution layer is asked for its progress only if it has told
its block number. -/
inductive ExecutionCourse : List (Exchange bothLayers) → Outcome Unit → Prop
  | unnumbered {fault : Fault} :
      ExecutionCourse [⟨.inl .blockNumber, .error fault⟩] (.error fault)
  | unfinished {number : Nat} {fault : Fault} :
      ExecutionCourse [⟨.inl .blockNumber, .ok number⟩, ⟨.inl .syncProgress, .error fault⟩]
        (.error fault)
  | finished {number : Nat} {progress : Option Execution.SyncProgress} :
      ExecutionCourse [⟨.inl .blockNumber, .ok number⟩, ⟨.inl .syncProgress, .ok progress⟩] (.ok ())

variable (respond) in
theorem course_checkExecution (gauges : SyncGauges) (state : σ) :
    ExecutionCourse ((checkExecution gauges).exchanges respond state)
      ((checkExecution gauges).run respond state).1.outcome := by
  simp only [checkExecution, Dialogue.run, Dialogue.exchanges]
  rcases respond (.inl .blockNumber) state with ⟨fault | number, after⟩
  · exact .unnumbered
  · simp only [Dialogue.run, Dialogue.exchanges]
    rcases respond (.inl .syncProgress) after with ⟨fault | progress, after⟩
    · exact .unfinished
    · cases progress with
      | none => exact .finished
      | some progress => exact .finished

theorem gauges_checkExecution (gauges : SyncGauges) (state : σ) :
    ((checkExecution gauges).run respond state).1.gauges =
      ((checkExecution gauges).exchanges respond state).foldl SyncGauges.record gauges := by
  simp only [checkExecution, Dialogue.run, Dialogue.exchanges]
  rcases respond (.inl .blockNumber) state with ⟨fault | number, after⟩
  · rfl
  · simp only [Dialogue.run, Dialogue.exchanges]
    rcases respond (.inl .syncProgress) after with ⟨fault | progress, after⟩
    · rfl
    · cases progress <;> rfl

variable (respond) in
/-- The beacon layer is asked for one thing, and this decides. -/
theorem course_checkBeacon (gauges : SyncGauges) (state : σ) :
    ∃ status : Outcome Beacon.syncStatus.Value,
      (checkBeacon gauges).exchanges respond state = [⟨.inr .nodeSyncing, status⟩] ∧
      ((checkBeacon gauges).run respond state).1.outcome = status.map fun _ => () := by
  simp only [checkBeacon, Dialogue.run, Dialogue.exchanges]
  rcases respond (.inr .nodeSyncing) state with ⟨fault | value, after⟩
  · exact ⟨.error fault, rfl, rfl⟩
  · exact ⟨.ok value, rfl, rfl⟩

theorem gauges_checkBeacon (gauges : SyncGauges) (state : σ) :
    ((checkBeacon gauges).run respond state).1.gauges =
      ((checkBeacon gauges).exchanges respond state).foldl SyncGauges.record gauges := by
  simp only [checkBeacon, Dialogue.run, Dialogue.exchanges]
  rcases respond (.inr .nodeSyncing) state with ⟨fault | value, after⟩ <;> rfl

/-- What is asked in a tick, and what comes of it. -/
theorem course_tick (gauges : SyncGauges) (state : σ) :
    Course ((tick gauges).exchanges respond state) ((tick gauges).run respond state).1.outcome := by
  rw [run_tick, exchanges_tick]
  have hexecution := course_checkExecution respond gauges state
  generalize (checkExecution gauges).run respond state = ran at hexecution ⊢
  obtain ⟨execution, between⟩ := ran
  obtain ⟨status, hasked, houtcome⟩ :=
    course_checkBeacon respond execution.gauges between
  simp only [hasked, houtcome] at hexecution ⊢
  generalize (checkExecution gauges).exchanges respond state = exchanged at hexecution ⊢
  generalize execution.outcome = outcome at hexecution ⊢
  cases hexecution with
  | unnumbered => exact .unnumbered
  | unfinished => exact .unfinished
  | finished => exact .finished

variable (respond) in
/-- **A tick has the effects of its exchanges** on the gauges, and no others. -/
theorem gauges_tick (gauges : SyncGauges) (state : σ) :
    ((tick gauges).run respond state).1.gauges =
      ((tick gauges).exchanges respond state).foldl SyncGauges.record gauges := by
  rw [run_tick, exchanges_tick, List.foldl_append, ← gauges_checkExecution, gauges_checkBeacon]

/-! ### Ticks one after the other -/

/-- A **tick** that was made: its exchanges, and what it left behind. -/
structure Tick where
  exchanges : List (Exchange bothLayers)
  report : SyncReport

/-- **Watches** the nodes: one tick for each state that they are found in. What happens to them
between two ticks is left open; the gauges stay as they are. -/
def watch (respond : (request : bothLayers.Request) → σ → Outcome (bothLayers.Reply request) × σ)
    (gauges : SyncGauges) : List σ → List Tick
  | [] => []
  | state :: states =>
    let report := ((tick gauges).run respond state).1
    ⟨(tick gauges).exchanges respond state, report⟩ :: watch respond report.gauges states

/-- The gauges **after** some ticks, the last of which has left them behind. -/
def gaugesAfter (gauges : SyncGauges) (ticks : List Tick) : SyncGauges :=
  ticks.foldl (fun _ tick => tick.report.gauges) gauges

theorem length_watch (gauges : SyncGauges) (states : List σ) :
    (watch respond gauges states).length = states.length := by
  induction states generalizing gauges with
  | nil => rfl
  | cons state states ih => exact congrArg Nat.succ (ih _)

theorem course_of_mem_watch {gauges : SyncGauges} {states : List σ} {tick : Tick}
    (h : tick ∈ watch respond gauges states) : Course tick.exchanges tick.report.outcome := by
  induction states generalizing gauges with
  | nil => cases h
  | cons state states ih =>
      rcases List.mem_cons.mp h with rfl | hlater
      · exact course_tick gauges state
      · exact ih hlater

variable (respond) in
/-- Ticks that begin with what some exchanges show go on to show their own exchanges as well. -/
theorem gaugesAfter_watch (history : List (Exchange bothLayers)) (states : List σ) (count : Nat) :
    let ticks := (watch respond (SyncGauges.shownBy history) states).take count
    gaugesAfter (SyncGauges.shownBy history) ticks =
      SyncGauges.shownBy (history ++ ticks.flatMap (·.exchanges)) := by
  induction states generalizing history count with
  | nil => simp [watch, gaugesAfter]
  | cons state states ih =>
      cases count with
      | zero => simp [gaugesAfter]
      | succ count =>
          have hshown := gauges_tick respond (SyncGauges.shownBy history) state
          rw [← SyncGauges.shownBy_append] at hshown
          have hrest := ih (history ++
            (tick (SyncGauges.shownBy history)).exchanges respond state) count
          simp only [watch, List.take_succ_cons, gaugesAfter, List.foldl_cons, List.flatMap_cons,
            hshown, ← List.append_assoc]
          exact hrest

/-- **What the gauges of the monitor show**, whatever the nodes answer in any tick and whatever
happens to them in between. Every tick asks for the progress of the execution layer only if it was
told a block number, asks the beacon layer in any case, and ends with the fault of the execution
layer if there is one and as the beacon layer has answered otherwise (`Course`). After any number of
ticks every gauge shows what was read last from its source in all the exchanges so far. -/
theorem gauges_of_ticks
    (respond : (request : bothLayers.Request) → σ → Outcome (bothLayers.Reply request) × σ)
    (states : List σ) :
    let ticks := watch respond {} states
    ticks.length = states.length ∧
      (∀ tick ∈ ticks, Course tick.exchanges tick.report.outcome) ∧
      ∀ count, gaugesAfter {} (ticks.take count) =
        SyncGauges.shownBy ((ticks.take count).flatMap (·.exchanges)) := by
  intro ticks
  refine ⟨length_watch {} states, fun tick htick => course_of_mem_watch htick, fun count => ?_⟩
  have hfresh : SyncGauges.shownBy [] = {} := rfl
  have hshown := gaugesAfter_watch respond [] states count
  rw [hfresh] at hshown
  exact hshown

end SyncMonitor

end NodeGateway
