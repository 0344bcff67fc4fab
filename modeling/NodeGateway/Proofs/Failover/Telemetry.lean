import NodeGateway.Metrics.Pool
import NodeGateway.Proofs.Failover.Forced

/-!
# What the Metrics of a Pool Say

The readiness of an endpoint, its gauge and its counter are three cells that are set at four
places: when the pool is made, by a recheck, by a loss and by a recovery. They agree after every
step of every run all the same: the gauge of a role is its readiness, a pool without a fallback has
no gauge for one, and the counter of a role is the number of ordinary attempts on it that have
ended in a lost connection.

Two invariants carry this, one for each cell. That a gauge is the readiness (`Pool.Gauged`) is kept
by every change that sets both of a role and leaves both of the other alone; a loss does so only
where the role is there, which an attempt on it guarantees. The counter is compared with what the
run has written down about the attempts that have ended (`System.lossesOf`): both grow by one in
the same steps, and only there.

## Main results

* `Pool.Settled.gauged` and `Pool.Settled.losses_eq`: what the end of an attempt does to the cells.
* `System.gauged_run` and `System.losses_run`: the two invariants in every run.
* `System.metrics_of_run`: the metrics that a pool exposes.
-/

namespace NodeGateway

namespace Telemetry

/-- Setting one gauge leaves the other alone. -/
theorem ready?_setReady_of_ne {role other : Role} (h : other ≠ role) (ready : Bool)
    (telemetry : Telemetry) :
    (telemetry.setReady role ready).ready? other = telemetry.ready? other := by
  cases role <;> cases other <;> first | rfl | exact absurd rfl h

/-- A loss clears the gauge of the role. -/
@[simp] theorem ready?_recordLoss (role : Role) (telemetry : Telemetry) :
    (telemetry.recordLoss role).ready? role = some false := by
  cases role <;> rfl

/-- A loss in one role leaves the gauge of the other alone. -/
theorem ready?_recordLoss_of_ne {role other : Role} (h : other ≠ role)
    (telemetry : Telemetry) :
    (telemetry.recordLoss role).ready? other = telemetry.ready? other := by
  cases role <;> cases other <;> first | rfl | exact absurd rfl h

/-- Setting a gauge counts nothing. -/
@[simp] theorem losses_setReady (role other : Role) (ready : Bool) (telemetry : Telemetry) :
    (telemetry.setReady role ready).losses other = telemetry.losses other := by
  cases role <;> cases other <;> rfl

/-- A loss is counted once, for its role. -/
theorem losses_recordLoss (role other : Role) (telemetry : Telemetry) :
    (telemetry.recordLoss role).losses other =
      telemetry.losses other + if role = other then 1 else 0 := by
  cases role <;> cases other <;> rfl

end Telemetry

namespace Pool

/-! ### Gauges -/

/-- Every **gauge is the readiness** of its role, and only a role that is there has one. -/
def Gauged (pool : Pool) : Prop :=
  ∀ role, pool.telemetry.ready? role = (pool.readiness? role).map (·.ready)

/-- The gauges of a new pool. -/
theorem gauged_fresh (clientType : String) (delay : Duration) (hasFallback : Bool) :
    (fresh clientType delay hasFallback).Gauged := by
  intro role
  cases role <;> cases hasFallback <;> rfl

/-- A change that sets the readiness and the gauge of a role to the same value, and leaves both of
the other role alone, keeps the gauges right. -/
theorem Gauged.of_set {pool other : Pool} (h : pool.Gauged) (role : Role) (ready : Bool)
    (hready : (other.readiness? role).map (·.ready) = some ready)
    (hgauge : other.telemetry.ready? role = some ready)
    (hframe : ∀ r, r ≠ role → other.readiness? r = pool.readiness? r ∧
      other.telemetry.ready? r = pool.telemetry.ready? r) : other.Gauged := by
  intro r
  by_cases hr : r = role
  · rw [hr, hgauge, hready]
  · obtain ⟨hsame, hkept⟩ := hframe r hr
    rw [hsame, hkept, h r]

theorem Gauged.note {pool : Pool} (h : pool.Gauged) (notice : Notice) :
    (pool.note notice).Gauged := by
  intro role
  rw [telemetry_note, readiness?_note]
  exact h role

/-- A recheck keeps the gauges right. -/
theorem Gauged.recheck {pool : Pool} (h : pool.Gauged) (now : Instant) (role : Role) :
    (pool.recheck now role).Gauged := by
  cases hdue : pool.isDue now role with
  | false =>
      rw [recheck_of_not_isDue hdue]
      exact h
  | true =>
      -- What is due is there, so the gauge that is set belongs to an endpoint.
      obtain ⟨r, hr⟩ : ∃ r, pool.readiness? role = some r := by
        obtain ⟨r, hr, -⟩ := (Option.any_eq_true _ _).mp hdue
        exact ⟨r, hr⟩
      rw [Pool.recheck, if_pos hdue]
      refine h.of_set role true ?_ ?_ fun other hother => ⟨?_, ?_⟩
      · simp [hr]
      · simp
      · simp [readiness?_modify_of_ne hother]
      · simp [Telemetry.ready?_setReady_of_ne hother]

theorem Gauged.recheckAll {pool : Pool} (h : pool.Gauged) (now : Readings) :
    (pool.recheckAll now).Gauged :=
  (h.recheck now.primary .primary).recheck now.fallback .fallback

/-- A loss keeps the gauges right if the role is there. -/
theorem Gauged.markLost {pool : Pool} (h : pool.Gauged) (now : Instant) {role : Role}
    (hrole : (pool.readiness? role).isSome = true) (fault : Fault) :
    (pool.markLost now role fault).Gauged := by
  obtain ⟨r, hr⟩ := Option.isSome_iff_exists.mp hrole
  have htelemetry : (pool.markLost now role fault).telemetry =
      pool.telemetry.recordLoss role := by
    cases role <;> rfl
  refine h.of_set role false ?_ ?_ fun other hother => ⟨?_, ?_⟩
  · rw [readiness?_markLost, hr]
    rfl
  · rw [htelemetry, Telemetry.ready?_recordLoss]
  · exact readiness?_markLost_of_ne hother now fault pool
  · rw [htelemetry, Telemetry.ready?_recordLoss_of_ne hother]

/-- A recovery keeps the gauges right if the role is there. -/
theorem Gauged.markRecovered {pool : Pool} (h : pool.Gauged) {role : Role}
    (hrole : (pool.readiness? role).isSome = true) : (pool.markRecovered role).Gauged := by
  obtain ⟨r, hr⟩ := Option.isSome_iff_exists.mp hrole
  refine h.of_set role true ?_ ?_ fun other hother => ⟨?_, ?_⟩
  · rw [readiness?_markRecovered, hr]
    rfl
  · rw [telemetry_markRecovered, ready?_setReady]
  · exact readiness?_markRecovered_of_ne hother pool
  · rw [telemetry_markRecovered, Telemetry.ready?_setReady_of_ne hother]

theorem Gauged.choose {pool : Pool} (h : pool.Gauged) (primaryLost : Bool) (now : Readings) :
    (pool.choose primaryLost now).2.Gauged := by
  obtain ⟨notice, heq⟩ := exists_note_choose primaryLost now pool
  rw [heq, rechecked]
  refine Gauged.note (Gauged.recheck ?_ now.fallback .fallback) notice
  split
  · exact h
  · exact h.recheck now.primary .primary

theorem Gauged.enter {pool : Pool} (h : pool.Gauged) (now : Readings) :
    (pool.enter now).2.Gauged := by
  rw [Pool.enter]
  split
  · exact h.choose false now
  · exact h

/-- **The end of an attempt keeps the gauges right** if the endpoint that it called is there. -/
theorem Settled.gauged {now : Readings} {pool next : Pool} {attempt : Attempt}
    {outcome : Outcome α} {verdict : Verdict α}
    (h : Settled now pool attempt outcome verdict next) (hpool : pool.Gauged)
    (hrole : (pool.readiness? attempt.role).isSome = true) : next.Gauged := by
  cases h with
  | direct | answered | forcedLost => exact hpool
  | failover detail => exact (hpool.markLost now.primary hrole _).choose true now
  | exhausted detail => exact hpool.markLost now.fallback hrole _
  | recovered => exact hpool.markRecovered hrole

/-! ### Counters -/

@[simp] theorem losses_recheck (now : Instant) (role other : Role) (pool : Pool) :
    (pool.recheck now role).telemetry.losses other = pool.telemetry.losses other := by
  rw [recheck]
  split
  · simp
  · rfl

@[simp] theorem losses_recheckAll (now : Readings) (role : Role) (pool : Pool) :
    (pool.recheckAll now).telemetry.losses role = pool.telemetry.losses role := by
  simp [recheckAll]

@[simp] theorem losses_choose (primaryLost : Bool) (now : Readings) (role : Role) (pool : Pool) :
    (pool.choose primaryLost now).2.telemetry.losses role = pool.telemetry.losses role := by
  obtain ⟨notice, h⟩ := exists_note_choose primaryLost now pool
  rw [h, telemetry_note, rechecked, losses_recheck]
  split
  · rfl
  · exact losses_recheck now.primary .primary role pool

@[simp] theorem losses_enter (now : Readings) (role : Role) (pool : Pool) :
    (pool.enter now).2.telemetry.losses role = pool.telemetry.losses role := by
  rw [enter]
  split
  · exact losses_choose false now role pool
  · rfl

/-- A loss is counted once, for its role. -/
theorem losses_markLost (now : Instant) (role other : Role) (fault : Fault) (pool : Pool) :
    (pool.markLost now role fault).telemetry.losses other =
      pool.telemetry.losses other + if role = other then 1 else 0 :=
  Telemetry.losses_recordLoss role other (pool.modify role (Readiness.markLost now)).telemetry
    |>.trans (by rw [telemetry_modify])

/-- Whether the end of an attempt **counts** for a role: it was an ordinary one on this role and
lost the connection. -/
def Counts (role : Role) (attempt : Attempt) (outcome : Outcome α) : Bool :=
  attempt = .ordinary role && outcome.isDisconnected

/-- **The end of an attempt is counted if it counts**, once and for its own role. -/
theorem Settled.losses_eq {now : Readings} {pool next : Pool} {attempt : Attempt}
    {outcome : Outcome α} {verdict : Verdict α}
    (h : Settled now pool attempt outcome verdict next) (role : Role) :
    next.telemetry.losses role =
      pool.telemetry.losses role + if Counts role attempt outcome then 1 else 0 := by
  cases h with
  | direct => simp [Counts]
  | answered _ _ hkept => simp [Counts, hkept]
  | failover detail =>
      rw [losses_choose, losses_markLost]
      cases role <;> rfl
  | exhausted detail =>
      rw [losses_markLost]
      cases role <;> rfl
  | forcedLost => simp [Counts]
  | recovered => simp [Counts, telemetry_markRecovered]

end Pool

/-- An attempt that a dispatch waits for calls an endpoint that is there. -/
theorem Stands.isSome_readiness {pool : Pool} {attempt : Attempt}
    {course : List (Attempt × Outcome α)}
    (h : Stands pool.clientType pool.hasFallback (.attempting attempt) course) :
    (pool.readiness? attempt.role).isSome = true := by
  cases hfallback : pool.hasFallback with
  | true =>
      cases attempt.role with
      | primary => rfl
      | fallback => exact hfallback
  | false =>
      rw [hfallback] at h
      rw [h.direct_inv]
      rfl

namespace System

/-! ### Runs -/

/-- How many ordinary attempts on a role have ended in a **lost connection**. -/
def lossesOf (role : Role) (system : System α) : Nat :=
  system.endings.countP fun ending => Pool.Counts role ending.attempt ending.outcome

@[simp] theorem lossesOf_makeAttempt (role : Role) (index : Nat) (attempt : Attempt) (pool : Pool)
    (system : System α) :
    (system.makeAttempt index attempt pool).lossesOf role = system.lossesOf role := rfl

@[simp] theorem lossesOf_finish (role : Role) (index : Nat) (outcome : Outcome α) (pool : Pool)
    (system : System α) :
    (system.finish index outcome pool).lossesOf role = system.lossesOf role := rfl

theorem lossesOf_noteEnding (role : Role) (ending : Ending α) (system : System α) :
    (system.noteEnding ending).lossesOf role = system.lossesOf role +
      if Pool.Counts role ending.attempt ending.outcome then 1 else 0 := by
  simp [lossesOf, List.countP_singleton]

/-- Every step keeps the gauges right. -/
theorem Took.gauged {now : Readings} {event : Event α} {system next : System α}
    (h : Took now event system next) (horderly : system.Orderly)
    (hgauged : system.pool.Gauged) : next.pool.Gauged := by
  cases h with
  | ignored => exact hgauged
  | rechecked => exact hgauged.recheckAll now
  | began => exact hgauged.enter now
  | wentOn hphase hsettled | ended hphase hsettled =>
      exact hsettled.gauged hgauged (horderly _ _ hphase).1.isSome_readiness

/-- Every step counts what it writes down. -/
theorem Took.losses_eq {now : Readings} {event : Event α} {system next : System α}
    (h : Took now event system next) {role : Role}
    (hcounted : system.pool.telemetry.losses role = system.lossesOf role) :
    next.pool.telemetry.losses role = next.lossesOf role := by
  cases h with
  | ignored => exact hcounted
  | rechecked =>
      rw [Pool.losses_recheckAll]
      exact hcounted
  | began =>
      rw [pool_makeAttempt, Pool.losses_enter, lossesOf_makeAttempt]
      exact hcounted
  | wentOn _ hsettled =>
      rw [pool_makeAttempt, hsettled.losses_eq role, lossesOf_makeAttempt, lossesOf_noteEnding,
        hcounted]
  | ended _ hsettled =>
      rw [pool_finish, hsettled.losses_eq role, lossesOf_finish, lossesOf_noteEnding, hcounted]

section Run

variable (clientType : String) (delay : Duration) (hasFallback : Bool) (count : Nat)
  (events : List (Readings × Event α))

/-- **The gauges are right in every run** of dispatches and rechecks on a new pool. -/
theorem gauged_run :
    ((System.fresh (Pool.fresh clientType delay hasFallback) count).run events).pool.Gauged :=
  (run_induction (P := fun system => system.Orderly ∧ system.pool.Gauged)
    ⟨orderly_fresh _ count, Pool.gauged_fresh clientType delay hasFallback⟩
    (fun now event system h =>
      have htook := step_took now event system
      ⟨htook.orderly h.1, htook.gauged h.1 h.2⟩) events).2

/-- **The losses are counted in every run** of dispatches and rechecks on a new pool. -/
theorem losses_run (role : Role) :
    let system := (System.fresh (Pool.fresh clientType delay hasFallback) count).run events
    system.pool.telemetry.losses role = system.lossesOf role :=
  run_induction (P := fun system => system.pool.telemetry.losses role = system.lossesOf role)
    (by cases role <;> rfl)
    (fun now event system h => (step_took now event system).losses_eq h) events

end Run

end System

/-! ### What is exposed -/

/-- The value that a collector **shows for a role**, if it has a sample for it. -/
def Collector.valueOf? (role : Role) (collector : Collector) : Option Nat :=
  (collector.samples.find? (·.labels = [⟨"role", role.name⟩])).map (·.value)

/-- The value that the **metric** of a pool with the given name shows for a role. -/
def Pool.metric? (name : String) (role : Role) (pool : Pool) : Option Nat :=
  (pool.collectors.find? (·.name = name)).bind (·.valueOf? role)

/-- The sample for a role among those for all roles shows the value of the role. -/
theorem Telemetry.find?_samples (value : Role → Option Nat) (role : Role) :
    ((samples value).find? (·.labels = [⟨"role", role.name⟩])).map (·.value) = value role := by
  cases hprimary : value .primary <;> cases hfallback : value .fallback <;> cases role <;>
    simp [samples, Role.name, hprimary, hfallback]

namespace Pool

/-- The gauge that is exposed. -/
theorem metric?_ready (pool : Pool) (role : Role) :
    pool.metric? "upstream_client_ready" role = pool.telemetry.readyValue? role :=
  Telemetry.find?_samples pool.telemetry.readyValue? role

/-- The counter that is exposed. It has no sample before the first loss. -/
theorem metric?_losses (pool : Pool) (role : Role) :
    (pool.metric? "upstream_disconnects_total" role).getD 0 = pool.telemetry.losses role := by
  have h : pool.metric? "upstream_disconnects_total" role = pool.telemetry.lossesValue? role :=
    Telemetry.find?_samples pool.telemetry.lossesValue? role
  rw [h, Telemetry.lossesValue?]
  split
  · next hnone => rw [hnone]; rfl
  · rfl

end Pool

/-- **The metrics of a pool tell the truth**, after every step of every run of dispatches and
rechecks from outside on a new pool, whatever their order, the clock and the outcomes.

The gauge of a role shows one if the role is ready and nought if it is not, and there is a gauge for
exactly the roles that the pool has. The counter of a role shows the number of ordinary attempts on
it that have ended in a lost connection; it counts neither a forced attempt nor the direct attempt
of a pool without a fallback. -/
theorem System.metrics_of_run (clientType : String) (delay : Duration) (hasFallback : Bool)
    (count : Nat) (events : List (Readings × Event α)) (role : Role) :
    let system := (System.fresh (Pool.fresh clientType delay hasFallback) count).run events
    let gauge := system.pool.metric? "upstream_client_ready"
    gauge role = (system.pool.readiness? role).map (fun r => if r.ready then 1 else 0) ∧
      (gauge role = none ↔ hasFallback = false ∧ role = .fallback) ∧
      (system.pool.metric? "upstream_disconnects_total" role).getD 0 =
        system.endings.countP fun ending =>
          ending.attempt = .ordinary role && ending.outcome.isDisconnected := by
  intro system gauge
  have hgauge : gauge role =
      (system.pool.readiness? role).map (fun r => if r.ready then 1 else 0) := by
    have hgauged := gauged_run clientType delay hasFallback count events role
    rw [show gauge role = _ from Pool.metric?_ready system.pool role, Telemetry.readyValue?,
      show system.pool.telemetry.ready? role = _ from hgauged, Option.map_map]
    rfl
  have hfallback : system.pool.hasFallback = hasFallback := by
    have hfresh : (Pool.fresh clientType delay hasFallback).hasFallback = hasFallback := by
      cases hasFallback <;> rfl
    exact (Pool.hasFallback_eq (makeup_run _ events)).trans hfresh
  refine ⟨hgauge, ?_, ?_⟩
  · rw [hgauge, Option.map_eq_none_iff, ← hfallback]
    cases role with
    | primary => simp
    | fallback => simp [Pool.hasFallback, Pool.readiness?]
  · rw [Pool.metric?_losses]
    exact losses_run clientType delay hasFallback count events role

end NodeGateway
