import NodeGateway.Proofs.Failover.Sequential
import NodeGateway.Request.Scope

/-!
# What a Forced Attempt Proves

While both roles are down and neither is due, a dispatch asks the primary by force. How that
attempt ends decides whether the primary is believed to be reachable again. The rule in force
looks at one thing only: unless the connection was lost, the primary is ready.

That is more than the outcome proves. A fault may say that **no endpoint was reached** without
being a lost connection: the deadline passed, the caller gave up, or the clients behind the
attempt have all failed. Nobody has answered then, and yet the primary comes up, its gauge with
it, and the pool counts as healthy (`System.ready_after_silence`). So an outcome is judged by two
notions that ought to agree, `Fault.isDisconnected` and `Fault.isUnreachable`, and the rule is right
exactly where they do.

## Main results

* `Pool.enter_of_down`: a dispatch that finds both roles down opens with a forced attempt and
  changes no readiness, no gauge and no counter.
* `System.forced_attempt_of_run`: what becomes of the primary when a forced attempt ends, and for
  which outcomes that is no more than the outcome proves.
-/

namespace NodeGateway

/-- Whether a request ended in a fault that says that no endpoint was reached. -/
def Outcome.isUnreachable : Outcome α → Bool
  | .error fault => fault.isUnreachable
  | .ok _ => false

/-- A lost connection says that no endpoint was reached. -/
theorem Outcome.isUnreachable_of_isDisconnected {outcome : Outcome α}
    (h : outcome.isDisconnected = true) : outcome.isUnreachable = true := by
  obtain ⟨detail, rfl⟩ := isDisconnected_iff.mp h
  rfl

namespace Pool

/-! ### Gauges and health -/

@[simp] theorem telemetry_note (notice : Notice) (pool : Pool) :
    (pool.note notice).telemetry = pool.telemetry := rfl

@[simp] theorem telemetry_modify (role : Role) (change : Readiness → Readiness) (pool : Pool) :
    (pool.modify role change).telemetry = pool.telemetry := by
  cases role <;> rfl

@[simp] theorem telemetry_setGauge (role : Role) (ready : Bool) (pool : Pool) :
    (pool.setGauge role ready).telemetry = pool.telemetry.setReady role ready := rfl

@[simp] theorem ready?_setReady (role : Role) (ready : Bool) (telemetry : Telemetry) :
    (telemetry.setReady role ready).ready? role = some ready := by
  cases role <;> rfl

/-- A recovery sets the gauge of the role. -/
theorem telemetry_markRecovered (role : Role) (pool : Pool) :
    (pool.markRecovered role).telemetry = pool.telemetry.setReady role true := by
  unfold markRecovered
  split <;> simp

/-- A recovery makes the endpoint in the role ready, if there is one. -/
theorem isReady_markRecovered (role : Role) (pool : Pool) :
    (pool.markRecovered role).isReady role = (pool.readiness? role).isSome := by
  rw [isReady, readiness?_markRecovered]
  cases pool.readiness? role <;> simp

/-- A pool is healthy if one of its roles is ready. -/
theorem isHealthy_eq (pool : Pool) :
    pool.isHealthy = (pool.isReady .primary || pool.isReady .fallback) := by
  cases h : pool.isReady .fallback with
  | false => simp [isHealthy, ReadinessReport.usable, report, h]
  | true => simp [isHealthy, ReadinessReport.usable, report, h, hasFallback_of_isReady h]

/-! ### Opening by force -/

/-- A role is **down and not due**. -/
def Down (now : Instant) (role : Role) (pool : Pool) : Prop :=
  pool.isReady role = false ∧ pool.isDue now role = false

/-- A role that is not due is left alone by a recheck. -/
theorem recheck_of_not_isDue {now : Instant} {role : Role} {pool : Pool}
    (h : pool.isDue now role = false) : pool.recheck now role = pool := by
  rw [recheck, h, if_neg Bool.false_ne_true]

/-- A dispatch that finds **both roles down** opens with a forced attempt, and all that changes
about the pool is that it notes so. -/
theorem enter_of_down {now : Readings} {pool : Pool} (hfallback : pool.hasFallback = true)
    (h : ∀ role, pool.Down (now.of role) role) :
    pool.enter now = (.forced, pool.note .forcing) := by
  have hprimary : pool.recheck now.primary .primary = pool :=
    recheck_of_not_isDue (h .primary).2
  have hfallback' : pool.recheck now.fallback .fallback = pool :=
    recheck_of_not_isDue (h .fallback).2
  have hrechecked : pool.rechecked false now = pool := by
    rw [rechecked, if_neg Bool.false_ne_true, hprimary, hfallback']
  rw [enter_of_hasFallback hfallback, choose_eq, hrechecked]
  simp only [(h .primary).1, (h .fallback).1, Bool.and_false, Bool.false_eq_true, if_false]

/-- The primary **stands as it stood**: its readiness, its gauge and the health of the pool. -/
structure SamePrimary (pool other : Pool) : Prop where
  isReady : other.isReady .primary = pool.isReady .primary
  gauge : other.telemetry.ready? .primary = pool.telemetry.ready? .primary
  isHealthy : other.isHealthy = pool.isHealthy

theorem SamePrimary.refl (pool : Pool) : pool.SamePrimary pool := ⟨rfl, rfl, rfl⟩

end Pool

namespace System

/-- The end of a forced attempt ends the dispatch. It changes nothing about the pool if the
connection was lost, and makes the primary ready otherwise. -/
theorem step_settle_forced {system : System α} {index : Nat}
    (h : system.phases[index]? = some (.attempting .forced)) (now : Readings)
    (outcome : Outcome α) :
    let after := system.step now (.settle index outcome)
    after.phases[index]? = some (.ended outcome) ∧
      after.pool = if outcome.isDisconnected then system.pool
        else system.pool.markRecovered .primary := by
  have hindex : index < system.phases.length := (List.getElem?_eq_some_iff.mp h).1
  cases hlost : outcome.isDisconnected with
  | true =>
      dsimp only
      rw [step_settle_done h (Pool.Settled.forcedLost outcome hlost).eq_settle]
      exact ⟨List.getElem?_set_self hindex, rfl⟩
  | false =>
      dsimp only
      rw [step_settle_done h (Pool.Settled.recovered outcome hlost).eq_settle]
      exact ⟨List.getElem?_set_self hindex, rfl⟩

/-- **What a forced attempt does**, in every run of dispatches on a new pool with a fallback,
whatever the order of the steps, the clock and the outcomes.

A dispatch that begins while both roles are down and neither is due makes a forced attempt, and the
primary stands as it stood. When a forced attempt ends in a lost connection, nothing about the
pool changes. When it ends in anything else, the primary is ready, its gauge says so, and the pool
is healthy. So the rule that a primary which is down stands as it stood unless it was reached holds
of exactly those outcomes about which the two notions agree. -/
theorem forced_attempt_of_run (clientType : String) (delay : Duration) (count : Nat)
    (events : List (Readings × Event α)) (index : Nat) (now : Readings) :
    let before := (System.fresh (Pool.fresh clientType delay true) count).run events
    (before.phases[index]? = some .idle → (∀ role, before.pool.Down (now.of role) role) →
      let begun := before.step now (.enter index)
      begun.phases[index]? = some (.attempting .forced) ∧
        (∀ role, begun.pool.readiness? role = before.pool.readiness? role) ∧
        before.pool.SamePrimary begun.pool) ∧
    (∀ outcome : Outcome α, before.phases[index]? = some (.attempting .forced) →
      let after := before.step now (.settle index outcome)
      after.phases[index]? = some (.ended outcome) ∧
        (outcome.isDisconnected = true → after.pool = before.pool) ∧
        (outcome.isDisconnected = false → after.pool.isReady .primary = true ∧
          after.pool.telemetry.ready? .primary = some true ∧ after.pool.isHealthy = true) ∧
        (before.pool.isReady .primary = false →
          ((outcome.isUnreachable = true → before.pool.SamePrimary after.pool) ↔
            outcome.isUnreachable = outcome.isDisconnected))) := by
  intro before
  have hboth : before.pool.hasFallback = true := Pool.hasFallback_eq (makeup_run _ events)
  refine ⟨fun hidle hdown => ?_, fun outcome hforced => ?_⟩
  · have hindex : index < before.phases.length := (List.getElem?_eq_some_iff.mp hidle).1
    dsimp only
    rw [step_enter hidle, Pool.enter_of_down hboth hdown]
    refine ⟨List.getElem?_set_self hindex, fun role => ?_, ?_⟩
    · rw [pool_makeAttempt, Pool.readiness?_note]
    · exact ⟨rfl, rfl, rfl⟩
  · obtain ⟨hended, hpool⟩ := step_settle_forced hforced now outcome
    dsimp only
    rw [hpool]
    have hready : (before.pool.markRecovered .primary).isReady .primary = true :=
      Pool.isReady_markRecovered .primary before.pool
    refine ⟨hended, fun hlost => if_pos hlost, fun hkept => ?_, fun hprimary => ⟨?_, ?_⟩⟩
    · rw [hkept, if_neg Bool.false_ne_true]
      refine ⟨hready, ?_, ?_⟩
      · rw [Pool.telemetry_markRecovered, Pool.ready?_setReady]
      · rw [Pool.isHealthy_eq, hready, Bool.true_or]
    · intro hsame
      cases hlost : outcome.isDisconnected with
      | true => exact Outcome.isUnreachable_of_isDisconnected hlost
      | false =>
          refine Bool.eq_false_iff.mpr fun hunreachable => ?_
          have hstays := (hsame hunreachable).isReady
          rw [hlost, if_neg Bool.false_ne_true, hready, hprimary] at hstays
          cases hstays
    · intro hagree hunreachable
      rw [← hagree, if_pos hunreachable]
      exact Pool.SamePrimary.refl before.pool

/-- **Silence makes the primary ready.** Both endpoints are lost; a second later a dispatch asks
the primary by force and runs into its deadline. Nobody has answered, but the primary is ready, its
gauge says so, and the pool is healthy. -/
theorem ready_after_silence :
    let lost : Outcome Nat := .error (.disconnected "connection refused")
    let silent : Outcome Nat := .error (deadlineExceeded "node_syncing")
    let start : Readings := (Instant.ofMillis 0 : Instant)
    let later : Readings := (Instant.ofMillis 1000 : Instant)
    let before := (System.fresh (Pool.fresh "Beacon Node" (.ofSeconds 60) true) 2).run
      [(start, .enter 0), (start, .settle 0 lost), (start, .settle 0 lost)]
    let begun := before.step later (.enter 1)
    let after := begun.step later (.settle 1 silent)
    (∀ role, before.pool.Down (later.of role) role) ∧
      begun.phases[1]? = some (.attempting .forced) ∧
      silent.isUnreachable = true ∧
      (begun.pool.isReady .primary = false ∧
        begun.pool.telemetry.ready? .primary = some false ∧ begun.pool.isHealthy = false) ∧
      (after.pool.isReady .primary = true ∧
        after.pool.telemetry.ready? .primary = some true ∧ after.pool.isHealthy = true) := by
  refine ⟨fun role => ?_, rfl, rfl, ⟨rfl, rfl, rfl⟩, ⟨rfl, rfl, rfl⟩⟩
  cases role <;> exact ⟨rfl, rfl⟩

end System

end NodeGateway
