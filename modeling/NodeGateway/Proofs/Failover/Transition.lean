import Mathlib.Data.List.Induction
import NodeGateway.Proofs.Failover.Step

/-!
# When the Readiness of a Role Changes

In every run of dispatches and rechecks a role goes down only by the loss of an ordinary attempt
on it, and comes up only by a recheck that finds its delay elapsed or, for the primary, by a
forced attempt that does not lose the connection.

Two invariants carry this. Whatever the clock does, a role that is down has the time of a loss
(`Readiness.Accounted`), so a recheck never makes a role ready for want of one. If the clock never
goes backwards, that time lies in the past, and a ready fallback is one whose delay has elapsed
since then (`Readiness.Timely`). The second does not hold of the primary, which a forced attempt
makes ready at any time.

## Main results

* `System.accounted_run` and `System.timely_run`: the invariants hold in every run.
* `System.lastLoss_mono_run`: the time of the last loss never decreases.
* `System.transitions_of_run`: every change of readiness, and what it depends on.
-/

namespace NodeGateway

namespace Readiness

/-- A role that is down has the **time of a loss**. -/
def Accounted (r : Readiness) : Prop := r.ready = false → ∃ millis, r.lastLoss = some millis

/-- At instant `t` the **last loss has passed**, and a ready fallback has had its delay since. -/
structure Timely (delay : Duration) (t : Instant) (role : Role) (r : Readiness) : Prop where
  passed : ∀ millis, r.lastLoss = some millis → Instant.ofMillis millis ≤ t
  elapsed : role = .fallback → r.ready = true → ∀ millis, r.lastLoss = some millis →
    (Instant.ofMillis millis).hasElapsed t delay = true

/-- What was timely stays so as time passes. -/
theorem Timely.mono {delay : Duration} {s t : Instant} {role : Role} {r : Readiness}
    (h : r.Timely delay s role) (hst : s ≤ t) : r.Timely delay t role where
  passed millis hloss := le_trans (h.passed millis hloss) hst
  elapsed hrole hready millis hloss :=
    Instant.hasElapsed_mono hst (h.elapsed hrole hready millis hloss)

/-- A recheck keeps what is accounted for. -/
theorem Accounted.recheck {r : Readiness} (h : r.Accounted) (now : Instant)
    (delay : Duration) : (r.recheck now delay).Accounted := by
  intro hready
  rw [lastLoss_recheck]
  rw [ready_recheck, Bool.or_eq_false_iff] at hready
  exact h hready.1

/-- A recheck that makes a role ready has found its delay elapsed. -/
theorem elapsed_of_recheck {r : Readiness} (h : r.Accounted) {now : Instant} {delay : Duration}
    (hdown : r.ready = false) (hready : (r.recheck now delay).ready = true) :
    ∃ millis, r.lastLoss = some millis ∧
      (Instant.ofMillis millis).hasElapsed now delay = true := by
  rw [ready_recheck, hdown, Bool.false_or, isDue_iff] at hready
  obtain ⟨millis, hloss⟩ := h hdown
  exact ⟨millis, hloss, hready.2 millis hloss⟩

end Readiness

namespace System

/-! ### Losses are accounted for -/

/-- A change of readiness keeps what is accounted for. -/
theorem Changes.accounted {now : Readings} {event : Event α} {system : System α} {role : Role}
    {r r' : Readiness} (h : Changes now event system role r r') (hr : r.Accounted) :
    r'.Accounted := by
  cases h with
  | kept => exact hr
  | lost => exact fun _ => ⟨_, Readiness.lastLoss_markLost _ r⟩
  | rechecked => exact hr.recheck _ _
  | recovered => exact fun h => absurd h Bool.true_eq_false.mp

/-- The endpoints of a pool with a fallback are there, and nothing is known about them at first. -/
theorem readiness?_fresh (clientType : String) (delay : Duration) (role : Role) :
    (Pool.fresh clientType delay true).readiness? role = some {} := by
  cases role <;> rfl

/-- Every step keeps what is accounted for. -/
theorem accounted_step (now : Readings) (event : Event α) (system : System α) {role : Role}
    (h : ∃ r, system.pool.readiness? role = some r ∧ r.Accounted) :
    ∃ r, (system.step now event).pool.readiness? role = some r ∧ r.Accounted := by
  obtain ⟨r, hr, haccounted⟩ := h
  obtain ⟨r', hr', hchanges⟩ := step_changes now event system hr
  exact ⟨r', hr', hchanges.accounted haccounted⟩

/-- What is known about an endpoint at first is accounted for. -/
theorem accounted_fresh (clientType : String) (delay : Duration) (role : Role) :
    ∃ r, (Pool.fresh clientType delay true).readiness? role = some r ∧ r.Accounted :=
  ⟨_, readiness?_fresh clientType delay role, fun h => absurd h Bool.true_eq_false.mp⟩

/-- **A role that is down has been lost**, after every run of dispatches on a new pool. -/
theorem accounted_run (clientType : String) (delay : Duration) (count : Nat)
    (events : List (Readings × Event α)) (role : Role) :
    let system := (System.fresh (Pool.fresh clientType delay true) count).run events
    ∃ r, system.pool.readiness? role = some r ∧ r.Accounted :=
  run_induction (P := fun system => ∃ r, system.pool.readiness? role = some r ∧ r.Accounted)
    (accounted_fresh clientType delay role)
    (fun now event system h => accounted_step now event system h) events

/-! ### A clock that never goes backwards -/

/-- What the **clock of a run** shows, in order. -/
def readings (events : List (Readings × Event α)) : List Instant :=
  events.flatMap fun entry => [entry.1.primary, entry.1.fallback]

/-- The clock of a run never goes backwards. -/
def Forward (events : List (Readings × Event α)) : Prop :=
  (readings events).Pairwise (· ≤ ·)

theorem readings_append (events later : List (Readings × Event α)) :
    readings (events ++ later) = readings events ++ readings later :=
  List.flatMap_append

/-- What begins a run whose clock goes forward has such a clock too. -/
theorem Forward.left {events later : List (Readings × Event α)}
    (h : Forward (events ++ later)) : Forward events := by
  rw [Forward, readings_append] at h
  exact (List.pairwise_append.mp h).1

/-- The last step of a run whose clock goes forward comes behind all others, and looks at the
primary first. -/
theorem Forward.concat_inv {events : List (Readings × Event α)} {now : Readings}
    {event : Event α} (h : Forward (events ++ [(now, event)])) :
    Forward events ∧ (∀ t ∈ readings events, t ≤ now.primary) ∧ now.primary ≤ now.fallback := by
  refine ⟨h.left, ?_⟩
  rw [Forward, readings_append] at h
  obtain ⟨-, hlast, hbefore⟩ := List.pairwise_append.mp h
  refine ⟨fun t ht => hbefore t ht _ List.mem_cons_self, ?_⟩
  exact List.rel_of_pairwise_cons hlast (List.mem_singleton.mpr rfl)

/-- Nothing that the clock of a run has shown is later than the last look of its last step. -/
theorem Forward.le_last {events : List (Readings × Event α)} {now : Readings} {event : Event α}
    (h : Forward (events ++ [(now, event)])) :
    ∀ t ∈ readings (events ++ [(now, event)]), t ≤ now.fallback := by
  obtain ⟨-, hpast, hnow⟩ := h.concat_inv
  intro t ht
  rw [readings_append, List.mem_append] at ht
  rcases ht with hearlier | hlast
  · exact le_trans (hpast t hearlier) hnow
  · simp only [readings, List.flatMap_singleton, List.mem_cons, List.not_mem_nil, or_false]
      at hlast
    rcases hlast with rfl | rfl
    · exact hnow
    · exact le_refl _

/-- Whichever role a step looks at, it does so between its first look and its last. -/
theorem between_of {now : Readings} (h : now.primary ≤ now.fallback) (role : Role) :
    now.primary ≤ now.of role ∧ now.of role ≤ now.fallback := by
  cases role with
  | primary => exact ⟨le_refl _, h⟩
  | fallback => exact ⟨h, le_refl _⟩

/-- A change of readiness at a later time keeps the role timely. -/
theorem Changes.timely {now : Readings} {event : Event α} {system : System α} {role : Role}
    {r r' : Readiness} (h : Changes now event system role r r') {s t : Instant}
    (hs : s ≤ now.of role) (ht : now.of role ≤ t)
    (hr : r.Timely system.pool.reconnectDelay s role) :
    r'.Timely system.pool.reconnectDelay t role := by
  have hold := hr.mono (le_trans hs ht)
  cases h with
  | kept => exact hold
  | lost =>
      refine ⟨?_, fun _ hready => absurd hready Bool.false_ne_true⟩
      rintro millis ⟨⟩
      exact le_trans (Instant.ofMillis_millis_le _) ht
  | rechecked =>
      refine ⟨fun millis hloss => hold.passed millis (Readiness.lastLoss_recheck _ _ r ▸ hloss),
        fun hrole hready millis hloss => ?_⟩
      rw [Readiness.lastLoss_recheck] at hloss
      rw [Readiness.ready_recheck, Bool.or_eq_true] at hready
      rcases hready with hready | hdue
      · exact hold.elapsed hrole hready millis hloss
      · exact Instant.hasElapsed_mono ht ((Readiness.isDue_iff.mp hdue).2 millis hloss)
  | recovered hrole =>
      refine ⟨hold.passed, fun hfallback => ?_⟩
      exact absurd (hrole.symm.trans hfallback) (by decide)

/-- The reconnect delay is that of the new pool throughout. -/
theorem reconnectDelay_run (clientType : String) (delay : Duration) (count : Nat)
    (events : List (Readings × Event α)) :
    ((System.fresh (Pool.fresh clientType delay true) count).run events).pool.reconnectDelay =
      delay :=
  Pool.reconnectDelay_eq (makeup_run _ events)

/-- **The last loss has passed**, and a ready fallback has had its delay since, at any instant
that is not earlier than what the clock of the run has shown. -/
theorem timely_run (clientType : String) (delay : Duration) (count : Nat)
    (events : List (Readings × Event α)) (hclock : Forward events) {t : Instant}
    (ht : ∀ s ∈ readings events, s ≤ t) (role : Role) :
    let system := (System.fresh (Pool.fresh clientType delay true) count).run events
    ∃ r, system.pool.readiness? role = some r ∧ r.Timely delay t role := by
  induction events using List.reverseRecOn generalizing t with
  | nil => exact ⟨_, readiness?_fresh clientType delay role, ⟨nofun, fun _ _ => nofun⟩⟩
  | append_singleton events entry ih =>
      obtain ⟨now, event⟩ := entry
      obtain ⟨hbefore, hpast, hnow⟩ := hclock.concat_inv
      obtain ⟨r, hr, htimely⟩ := ih hbefore hpast
      obtain ⟨r', hr', hchanges⟩ := step_changes now event _ hr
      -- The last step looks at the role after everything before it, and not after `t`.
      have hlast := between_of hnow role
      have hfallback : now.fallback ≤ t :=
        ht _ (by simp [readings])
      refine ⟨r', ?_, ?_⟩
      · rw [run_concat]
        exact hr'
      · rw [← reconnectDelay_run clientType delay count events] at htimely ⊢
        exact hchanges.timely hlast.1 (le_trans hlast.2 hfallback) htimely

/-- The time of the last loss never decreases in a single change at a later time. -/
theorem Changes.lastLoss_le {now : Readings} {event : Event α} {system : System α} {role : Role}
    {r r' : Readiness} (h : Changes now event system role r r') {delay : Duration}
    (hr : r.Timely delay (now.of role) role) {millis : Int} (hloss : r.lastLoss = some millis) :
    ∃ millis', r'.lastLoss = some millis' ∧ millis ≤ millis' := by
  cases h with
  | kept => exact ⟨millis, hloss, Int.le_refl _⟩
  | lost =>
      exact ⟨_, Readiness.lastLoss_markLost _ r,
        Instant.le_millis_of_ofMillis_le (hr.passed millis hloss)⟩
  | rechecked => exact ⟨millis, (Readiness.lastLoss_recheck _ _ r).trans hloss, Int.le_refl _⟩
  | recovered => exact ⟨millis, hloss, Int.le_refl _⟩

/-- **The time of the last loss never decreases**, in runs whose clock never goes backwards. -/
theorem lastLoss_mono_run (clientType : String) (delay : Duration) (count : Nat)
    (events later : List (Readings × Event α)) (hclock : Forward (events ++ later)) (role : Role)
    {millis : Int} :
    let system := (System.fresh (Pool.fresh clientType delay true) count).run events
    system.pool.lastLoss? role = some millis →
      ∃ millis', (system.run later).pool.lastLoss? role = some millis' ∧ millis ≤ millis' := by
  intro system hloss
  induction later using List.reverseRecOn with
  | nil => exact ⟨millis, hloss, Int.le_refl _⟩
  | append_singleton later entry ih =>
      obtain ⟨now, event⟩ := entry
      rw [← List.append_assoc] at hclock
      obtain ⟨hbefore, hpast, hnow⟩ := hclock.concat_inv
      obtain ⟨millis₁, hloss₁, hle₁⟩ := ih hbefore
      obtain ⟨r, hr, htimely⟩ := timely_run clientType delay count (events ++ later) hbefore
        (fun s hs => le_trans (hpast s hs) (between_of hnow role).1) role
      rw [run_append] at hr
      obtain ⟨r', hr', hchanges⟩ := step_changes now event _ hr
      -- Whatever time was kept has passed when the last step looks, so it keeps no earlier one.
      rw [Pool.lastLoss?_eq hr] at hloss₁
      obtain ⟨millis₂, hloss₂, hle₂⟩ := hchanges.lastLoss_le htimely hloss₁
      refine ⟨millis₂, ?_, Int.le_trans hle₁ hle₂⟩
      rw [run_concat, Pool.lastLoss?_eq hr', hloss₂]

/-! ### Ordinary attempts on the fallback -/

/-- A step that makes an ordinary attempt on the fallback leaves the fallback ready. -/
theorem Took.isReady_fallback {now : Readings} {event : Event α} {system next : System α}
    (h : Took now event system next) {index : Nat}
    (hattempts : next.attempts = system.attempts ++ [(index, .ordinary .fallback)]) :
    next.pool.isReady .fallback = true := by
  cases h with
  | ignored | rechecked | ended => simp at hattempts
  | began =>
      have hattempt := (Prod.mk.inj (List.cons.inj (List.append_cancel_left hattempts)).1).2
      exact Pool.isReady_fallback_of_enter hattempt
  | wentOn _ hsettled =>
      have hattempt := (Prod.mk.inj (List.cons.inj (List.append_cancel_left hattempts)).1).2
      cases hsettled with
      | failover => exact Pool.isReady_fallback_of_choose hattempt

/-- A change that leaves a role ready keeps the time of its last loss. -/
theorem Changes.lastLoss_eq {now : Readings} {event : Event α} {system : System α} {role : Role}
    {r r' : Readiness} (h : Changes now event system role r r') (hready : r'.ready = true) :
    r'.lastLoss = r.lastLoss := by
  cases h with
  | kept | recovered => rfl
  | lost => exact absurd hready Bool.false_ne_true
  | rechecked => exact Readiness.lastLoss_recheck _ _ r

/-- An ordinary attempt on the fallback begins when the delay since its last loss has elapsed, in
runs whose clock never goes backwards. -/
theorem elapsed_of_attempt (clientType : String) (delay : Duration) (count : Nat)
    (events : List (Readings × Event α)) {now : Readings} {event : Event α}
    (hclock : Forward (events ++ [(now, event)])) {index : Nat} {millis : Int} :
    let before := (System.fresh (Pool.fresh clientType delay true) count).run events
    (before.step now event).attempts = before.attempts ++ [(index, .ordinary .fallback)] →
      before.pool.lastLoss? .fallback = some millis →
      (Instant.ofMillis millis).hasElapsed now.fallback delay = true := by
  intro before hattempts hloss
  obtain ⟨r', hr', htimely⟩ := timely_run clientType delay count (events ++ [(now, event)]) hclock
    hclock.le_last .fallback
  rw [run_concat] at hr'
  obtain ⟨r, hr, -⟩ := accounted_run clientType delay count events .fallback
  obtain ⟨r'', hr'', hchanges⟩ := step_changes now event before hr
  obtain rfl : r'' = r' := Option.some.inj (hr''.symm.trans hr')
  have hready := (step_took now event before).isReady_fallback hattempts
  rw [Pool.isReady_eq hr'] at hready
  rw [Pool.lastLoss?_eq hr, ← hchanges.lastLoss_eq hready] at hloss
  exact htimely.elapsed rfl hready millis hloss

/-! ### Every change of readiness -/

/-- A role that goes down does so by the loss of an ordinary attempt on it, whose time is kept. -/
theorem Changes.down_inv {now : Readings} {event : Event α} {system : System α} {role : Role}
    {r r' : Readiness} (h : Changes now event system role r r') (hready : r.ready = true)
    (hdown : r'.ready = false) :
    ∃ (index : Nat) (detail : String), event = .settle index (.error (.disconnected detail)) ∧
      system.phases[index]? = some (.attempting (.ordinary role)) ∧
      r'.lastLoss = some (now.of role).millis := by
  cases h with
  | kept => exact absurd (hready.symm.trans hdown) Bool.true_eq_false.mp
  | lost hevent hphase => exact ⟨_, _, hevent, hphase, rfl⟩
  | rechecked =>
      rw [Readiness.recheck_of_ready hready, hready] at hdown
      cases hdown
  | recovered => cases hdown

/-- A role that comes up does so by a recheck that finds its delay elapsed, or it is the primary
and a forced attempt did not lose the connection. -/
theorem Changes.up_inv {now : Readings} {event : Event α} {system : System α} {role : Role}
    {r r' : Readiness} (h : Changes now event system role r r') (haccounted : r.Accounted)
    (hdown : r.ready = false) (hready : r'.ready = true) :
    (system.Rechecks event role ∧ ∃ millis, r.lastLoss = some millis ∧
      (Instant.ofMillis millis).hasElapsed (now.of role) system.pool.reconnectDelay = true) ∨
    (role = .primary ∧ ∃ (index : Nat) (outcome : Outcome α), event = .settle index outcome ∧
      outcome.isDisconnected = false ∧ system.phases[index]? = some (.attempting .forced)) := by
  cases h with
  | kept => exact absurd (hready.symm.trans hdown) Bool.true_eq_false.mp
  | lost => cases hready
  | rechecked h => exact .inl ⟨h, Readiness.elapsed_of_recheck haccounted hdown hready⟩
  | recovered hrole hevent houtcome hphase =>
      exact .inr ⟨hrole, _, _, hevent, houtcome, hphase⟩

/-- **Every change of readiness**, in every run of dispatches and rechecks on a new pool with a
fallback, whatever the order of the steps, the outcomes and the clock.

A role goes down only when an ordinary attempt on it loses the connection, and the time of this
step, in whole milliseconds rounded down, is kept. It comes up only when it is rechecked and at
least the reconnect delay lies between the kept time and now, or, if it is the primary, when a
forced attempt ends without a lost connection.

If the clock never goes backwards, the time that is kept for a role never decreases, and an
ordinary attempt on the fallback begins at least the reconnect delay after the time that was last
kept for it. -/
theorem transitions_of_run (clientType : String) (delay : Duration) (count : Nat)
    (events : List (Readings × Event α)) (now : Readings) (event : Event α) (role : Role) :
    let fresh := System.fresh (Pool.fresh clientType delay true) count
    let before := fresh.run events
    let after := before.step now event
    (before.pool.isReady role = true → after.pool.isReady role = false →
      ∃ (index : Nat) (detail : String),
        event = .settle index (.error (.disconnected detail)) ∧
        before.phases[index]? = some (.attempting (.ordinary role)) ∧
        after.pool.lastLoss? role = some (now.of role).millis) ∧
    (before.pool.isReady role = false → after.pool.isReady role = true →
      (before.Rechecks event role ∧ ∃ millis, before.pool.lastLoss? role = some millis ∧
        0 ≤ (now.of role).nanos - (Instant.ofMillis millis).nanos ∧
        delay.nanos ≤ (now.of role).nanos - (Instant.ofMillis millis).nanos) ∨
      (role = .primary ∧ ∃ (index : Nat) (outcome : Outcome α),
        event = .settle index outcome ∧ outcome.isDisconnected = false ∧
        before.phases[index]? = some (.attempting .forced))) ∧
    (Forward (events ++ [(now, event)]) →
      (∀ earlier millis, earlier <+: events →
        (fresh.run earlier).pool.lastLoss? role = some millis →
        ∃ millis', after.pool.lastLoss? role = some millis' ∧ millis ≤ millis') ∧
      (∀ index millis,
        after.attempts = before.attempts ++ [(index, .ordinary .fallback)] →
        before.pool.lastLoss? .fallback = some millis →
        delay.nanos ≤ now.fallback.nanos - (Instant.ofMillis millis).nanos)) := by
  intro fresh before after
  obtain ⟨r, hr, haccounted⟩ := accounted_run clientType delay count events role
  obtain ⟨r', hr', hchanges⟩ := step_changes now event before hr
  have hdelay : before.pool.reconnectDelay = delay :=
    reconnectDelay_run clientType delay count events
  refine ⟨?_, ?_, fun hclock => ⟨?_, ?_⟩⟩
  · rw [Pool.isReady_eq hr, Pool.isReady_eq hr', Pool.lastLoss?_eq hr']
    exact hchanges.down_inv
  · rw [Pool.isReady_eq hr, Pool.isReady_eq hr', Pool.lastLoss?_eq hr]
    intro hdown hready
    rcases hchanges.up_inv haccounted hdown hready with ⟨hrechecks, millis, hloss, h⟩ | hforced
    · rw [hdelay, Instant.hasElapsed_iff] at h
      exact .inl ⟨hrechecks, millis, hloss, by omega, h⟩
    · exact .inr hforced
  · rintro earlier millis ⟨later, rfl⟩ hloss
    rw [List.append_assoc] at hclock
    obtain ⟨millis', hloss', hle⟩ := lastLoss_mono_run clientType delay count earlier _ hclock
      role hloss
    refine ⟨millis', ?_, hle⟩
    rw [← run_append, ← List.append_assoc, run_concat] at hloss'
    exact hloss'
  · intro index millis hattempts hloss
    exact Instant.hasElapsed_iff.mp
      (elapsed_of_attempt clientType delay count events hclock hattempts hloss)

end System

end NodeGateway
