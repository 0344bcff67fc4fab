import NodeGateway.Proofs.Failover.Sequential
import NodeGateway.Proofs.Failover.Transition

/-!
# Where a Dispatch Goes, and When the Primary Is Asked Again

After dispatches one after another, the next one opens on the primary if that is **available**:
ready, or lost at least the reconnect delay ago (`Pool.Available`). If not, it opens on the
fallback by the same rule, and if that is not available either, on the primary by force.

While the primary keeps being lost and the fallback keeps answering, the pool rests on its
fallback (`Pool.Resting`). A dispatch that begins before the delay has passed since the last loss
leaves the primary alone and the pool as it rests (`Visit.Covered.quiet`); one that begins later
probes the primary once, is served by the fallback all the same, and lets the delay begin anew at
the time at which the probe ended (`Visit.Covered.probe`).

## Main results

* `Pool.attempt_enter_iff`: the attempt with which a dispatch opens, by what is available.
* `Pool.isReady_fallback_after`: a fallback that has always answered is ready.
* `Pool.schedule_of_visits`: where dispatches go and when the primary is asked again.
-/

namespace NodeGateway

namespace Pool

/-! ### What is available -/

/-- An endpoint is **available** at an instant if it is ready, or if at least the reconnect delay
lies between its last loss and this instant. -/
def Available (t : Instant) (role : Role) (pool : Pool) : Prop :=
  pool.isReady role = true ∨ ∃ millis, pool.lastLoss? role = some millis ∧
    (pool.reconnectDelay.nanos : Int) ≤ t.nanos - (Instant.ofMillis millis).nanos

/-- What is available is ready or due. -/
theorem Available.ready_or_isDue {pool : Pool} {role : Role} {t : Instant}
    (h : pool.Available t role) {r : Readiness} (hr : pool.readiness? role = some r) :
    (r.ready || r.isDue t pool.reconnectDelay) = true := by
  rw [Available, isReady_eq hr, lastLoss?_eq hr] at h
  rw [Bool.or_eq_true, Readiness.isDue_iff]
  rcases h with hready | ⟨millis, hloss, helapsed⟩
  · exact .inl hready
  · cases hready : r.ready with
    | true => exact .inl rfl
    | false =>
        refine .inr ⟨rfl, fun other hother => ?_⟩
        obtain rfl : millis = other := Option.some.inj (hloss.symm.trans hother)
        exact Instant.hasElapsed_iff.mpr helapsed

/-- What is ready or due is available, if its losses are accounted for. -/
theorem available_iff {pool : Pool} {role : Role} {r : Readiness}
    (hr : pool.readiness? role = some r) (haccounted : r.Accounted) (t : Instant) :
    (r.ready || r.isDue t pool.reconnectDelay) = true ↔ pool.Available t role := by
  refine ⟨fun h => ?_, fun h => h.ready_or_isDue hr⟩
  rw [Bool.or_eq_true, Readiness.isDue_iff] at h
  rw [Available, isReady_eq hr, lastLoss?_eq hr]
  rcases h with hready | ⟨hdown, helapsed⟩
  · exact .inl hready
  · obtain ⟨millis, hloss⟩ := haccounted hdown
    exact .inr ⟨millis, hloss, Instant.hasElapsed_iff.mp (helapsed millis hloss)⟩

/-- A dispatch that begins finds ready what is available. -/
theorem isReady_enter_iff {pool : Pool} (h : pool.hasFallback = true) (now : Readings)
    {role : Role} {r : Readiness} (hr : pool.readiness? role = some r)
    (haccounted : r.Accounted) :
    (pool.enter now).2.isReady role = true ↔ pool.Available (now.of role) role := by
  rw [isReady_enter h now hr, available_iff hr haccounted]

/-- **The attempt with which a dispatch opens** follows from what is available. -/
theorem attempt_enter_iff {pool : Pool}
    (h : ∀ role, ∃ r, pool.readiness? role = some r ∧ r.Accounted) (now : Readings) :
    ((pool.enter now).1 = .ordinary .primary ↔ pool.Available now.primary .primary) ∧
    ((pool.enter now).1 = .ordinary .fallback ↔
      ¬ pool.Available now.primary .primary ∧ pool.Available now.fallback .fallback) ∧
    ((pool.enter now).1 = .forced ↔
      ¬ pool.Available now.primary .primary ∧ ¬ pool.Available now.fallback .fallback) := by
  obtain ⟨p, hp, hprimary⟩ := h .primary
  obtain ⟨f, hf, hfallback⟩ := h .fallback
  have hboth : pool.hasFallback = true := Option.isSome_iff_exists.mpr ⟨f, hf⟩
  have hp := isReady_enter_iff hboth now hp hprimary
  have hf := isReady_enter_iff hboth now hf hfallback
  rw [show now.primary = now.of .primary from rfl, show now.fallback = now.of .fallback from rfl,
    ← hp, ← hf, attempt_enter hboth]
  cases (pool.enter now).2.isReady .primary <;> cases (pool.enter now).2.isReady .fallback <;>
    simp

/-- After visits one after another to a new pool the losses are accounted for. -/
theorem accounted_after (clientType : String) (delay : Duration) (visits : List (Visit α))
    (role : Role) :
    ∃ r, ((fresh clientType delay true).after visits).readiness? role = some r ∧
      r.Accounted :=
  Visit.induction (P := fun pool => ∃ r, pool.readiness? role = some r ∧ r.Accounted)
    (fun now event system => System.accounted_step now event system)
    (System.accounted_fresh clientType delay role) visits

/-- Visits leave a pool made of what it was made of. -/
theorem makeup_after (pool : Pool) (visits : List (Visit α)) :
    (pool.after visits).makeup = pool.makeup :=
  Visit.induction (P := fun other => other.makeup = pool.makeup)
    (fun now event system h => (System.step_took now event system).makeup_eq.trans h) rfl visits

/-! ### A fallback that answers -/

/-- A ready fallback that is not lost stays ready. -/
theorem Changed.isReady_fallback {now : Readings} {delay : Duration} {attempt : Attempt}
    {outcome : Outcome α} {r r' : Readiness}
    (h : Changed now delay .fallback attempt outcome r r') (hready : r.ready = true)
    (hanswers : attempt = .ordinary .fallback → outcome.isDisconnected = false) :
    r'.ready = true := by
  cases h with
  | kept => exact hready
  | lost => exact absurd (hanswers rfl) Bool.true_eq_false.mp
  | rechecked => rw [Readiness.recheck_of_ready hready, hready]
  | recovered => rfl

/-- The end of an attempt leaves a ready fallback ready, unless it is the loss of it. -/
theorem isReady_fallback_settle {pool : Pool} (h : pool.isReady .fallback = true)
    (now : Readings) {attempt : Attempt} {outcome : Outcome α}
    (hanswers : attempt = .ordinary .fallback → outcome.isDisconnected = false) :
    (pool.settle now attempt outcome).2.isReady .fallback = true := by
  obtain ⟨r, hr, hready⟩ := isReady_iff.mp h
  obtain ⟨r', hr', hchanged⟩ := (settle_settled now attempt outcome pool).changed hr
  exact isReady_iff.mpr ⟨r', hr', hchanged.isReady_fallback hready hanswers⟩

/-- A dispatch under way leaves a ready fallback ready, unless it loses it. -/
theorem isReady_fallback_drive (visit : Visit α) (attempt : Attempt) (state : Readings)
    {pool : Pool} (h : pool.isReady .fallback = true)
    (hanswers : .ordinary .fallback ∈ (pool.drive visit.surroundings attempt state).attempts →
      (visit.outcome (.ordinary .fallback)).isDisconnected = false) :
    (pool.drive visit.surroundings attempt state).pool.isReady .fallback = true := by
  have hattempt : visit.surroundings.attempt attempt state =
      (visit.outcome attempt, visit.ends attempt) := rfl
  have hfirst : attempt ∈ (pool.drive visit.surroundings attempt state).attempts :=
    List.mem_of_mem_head? (head?_attempts_drive visit.surroundings attempt state pool)
  have hnext : (pool.settle (visit.ends attempt) attempt
      (visit.outcome attempt)).2.isReady .fallback = true := by
    refine isReady_fallback_settle h (visit.ends attempt) ?_
    rintro rfl
    exact hanswers hfirst
  rcases hsettle : pool.settle (visit.ends attempt) attempt (visit.outcome attempt) with
    ⟨verdict, next⟩
  rw [hsettle] at hnext
  cases verdict with
  | done result =>
      rw [drive_of_done hattempt hsettle]
      exact hnext
  | retry following =>
      have hfewer : following.followers < attempt.followers :=
        followers_lt_of_retry (congrArg Prod.fst hsettle)
      rw [drive_of_retry hattempt hsettle] at hanswers ⊢
      exact isReady_fallback_drive visit following (visit.ends attempt) hnext
        fun hmem => hanswers (List.mem_cons_of_mem _ hmem)
termination_by attempt.followers

/-- A visit leaves a ready fallback ready, unless it loses it. -/
theorem isReady_fallback_dispatch (visit : Visit α) {pool : Pool}
    (h : pool.isReady .fallback = true)
    (hanswers : .ordinary .fallback ∈ (visit.dispatch pool).attempts →
      (visit.outcome (.ordinary .fallback)).isDisconnected = false) :
    (visit.dispatch pool).pool.isReady .fallback = true := by
  rw [Visit.dispatch_eq] at hanswers ⊢
  exact isReady_fallback_drive visit _ visit.begins (isReady_fallback_enter h visit.begins) hanswers

/-- **A fallback that has always answered is ready**, after visits one after another. -/
theorem isReady_fallback_after {pool : Pool} (h : pool.isReady .fallback = true)
    (visits : List (Visit α))
    (hanswers : ∀ earlier visit later, visits = earlier ++ visit :: later →
      .ordinary .fallback ∈ (visit.dispatch (pool.after earlier)).attempts →
      (visit.outcome (.ordinary .fallback)).isDisconnected = false) :
    (pool.after visits).isReady .fallback = true := by
  induction visits using List.reverseRecOn with
  | nil => exact h
  | append_singleton visits visit ih =>
      rw [after_concat]
      refine isReady_fallback_dispatch visit (ih fun earlier other later heq => ?_)
        (hanswers visits visit [] rfl)
      exact hanswers earlier other (later ++ [visit]) (by simp [heq])

end Pool

/-! ### A pool that rests on its fallback -/

/-- A pool **rests on its fallback** since the given millisecond: the primary is down and was last
lost then, and the fallback is ready. -/
structure Pool.Resting (millis : Int) (pool : Pool) : Prop where
  primary : pool.primary = ⟨false, some millis⟩
  fallback : pool.isReady .fallback = true

/-- A visit is **covered** by the fallback: the primary would be lost, and the fallback answers. -/
structure Visit.Covered (visit : Visit α) : Prop where
  lost : (visit.outcome (.ordinary .primary)).isDisconnected = true
  answered : (visit.outcome (.ordinary .fallback)).isDisconnected = false

namespace Visit.Covered

variable {visit : Visit α} {pool : Pool}

/-- An attempt on a fallback that answers is the last one, and its answer is handed out. -/
theorem drive_fallback (h : visit.Covered) (state : Readings) :
    pool.drive visit.surroundings (.ordinary .fallback) state =
      ⟨visit.outcome (.ordinary .fallback), visit.ends (.ordinary .fallback), pool,
        [.ordinary .fallback]⟩ :=
  Pool.drive_of_done rfl (Pool.Settled.answered .fallback _ h.answered).eq_settle

/-- A dispatch that begins before the delay has passed leaves the primary alone. -/
theorem quiet (h : visit.Covered) {millis : Int} (hresting : pool.Resting millis)
    (hearly : visit.begins.primary.nanos - (Instant.ofMillis millis).nanos <
      (pool.reconnectDelay.nanos : Int)) :
    (visit.dispatch pool).attempts = [.ordinary .fallback] ∧
      (visit.dispatch pool).outcome = visit.outcome (.ordinary .fallback) ∧
      (visit.dispatch pool).pool.Resting millis := by
  have hfallback := Pool.isReady_fallback_enter hresting.fallback visit.begins
  have hboth := Pool.hasFallback_of_isReady hresting.fallback
  have hdue : pool.primary.isDue visit.begins.primary pool.reconnectDelay = false := by
    refine Bool.eq_false_iff.mpr fun hdue => ?_
    rw [hresting.primary] at hdue
    have helapsed := Instant.hasElapsed_iff.mp ((Readiness.isDue_iff.mp hdue).2 millis rfl)
    omega
  have hprimary : (pool.enter visit.begins).2.primary = ⟨false, some millis⟩ := by
    rw [Pool.primary_enter hboth, Readiness.recheck_of_not_isDue hdue, hresting.primary]
  have hopens : (pool.enter visit.begins).1 = .ordinary .fallback := by
    rw [Pool.attempt_enter hboth, hfallback, Pool.isReady_eq (Pool.readiness?_primary _), hprimary]
    rfl
  rw [Visit.dispatch_eq, hopens, h.drive_fallback]
  exact ⟨rfl, rfl, hprimary, hfallback⟩

/-- A dispatch that finds the primary available asks it, once, and then the fallback. -/
theorem probe (h : visit.Covered) (havailable : pool.Available visit.begins.primary .primary)
    (hfallback : pool.isReady .fallback = true) :
    (visit.dispatch pool).attempts = [.ordinary .primary, .ordinary .fallback] ∧
      (visit.dispatch pool).outcome = visit.outcome (.ordinary .fallback) ∧
      (visit.dispatch pool).pool.Resting (visit.ends (.ordinary .primary)).primary.millis := by
  have hboth := Pool.hasFallback_of_isReady hfallback
  have hopens : (pool.enter visit.begins).1 = .ordinary .primary := by
    refine Pool.enter_eq_primary hboth ?_
    rw [Pool.isReady_enter hboth visit.begins (Pool.readiness?_primary pool)]
    exact havailable.ready_or_isDue (Pool.readiness?_primary pool)
  obtain ⟨detail, hlost⟩ := Outcome.isDisconnected_iff.mp h.lost
  have hattempt : visit.surroundings.attempt (.ordinary .primary) visit.begins =
      (.error (.disconnected detail), visit.ends (.ordinary .primary)) := by
    rw [← hlost]
    rfl
  let lost := (pool.enter visit.begins).2.markLost (visit.ends (.ordinary .primary)).primary
    .primary (.disconnected detail)
  have hkept : lost.isReady .fallback = true := by
    rw [Pool.isReady, Pool.readiness?_markLost_of_ne (by decide)]
    exact Pool.isReady_fallback_enter hfallback visit.begins
  have hready : (lost.choose true (visit.ends (.ordinary .primary))).2.isReady .fallback = true :=
    Pool.isReady_fallback_choose hkept true _
  have hsettle : (pool.enter visit.begins).2.settle (visit.ends (.ordinary .primary))
      (.ordinary .primary) (.error (.disconnected detail) : Outcome α) =
      (.retry (.ordinary .fallback), (lost.choose true (visit.ends (.ordinary .primary))).2) := by
    rw [(Pool.Settled.failover detail).eq_settle, Pool.choose_eq_fallback hready]
  rw [Visit.dispatch_eq, hopens, Pool.drive_of_retry hattempt hsettle, h.drive_fallback]
  refine ⟨rfl, rfl, ?_, hready⟩
  rw [Pool.primary_choose]
  rfl

end Visit.Covered

namespace Pool

/-- A visit that begins before the reconnect delay of the pool has passed since the given
millisecond. -/
def Early (pool : Pool) (millis : Int) (visit : Visit α) : Prop :=
  visit.begins.primary.nanos - (Instant.ofMillis millis).nanos < (pool.reconnectDelay.nanos : Int)

/-- What is early for a pool is early for it after other visits. -/
theorem early_after (pool : Pool) (visits : List (Visit α)) (millis : Int) (visit : Visit α) :
    (pool.after visits).Early millis visit ↔ pool.Early millis visit := by
  rw [Early, Early, reconnectDelay_eq (makeup_after pool visits)]

/-- **Visits before the delay has passed** leave the pool as it rests. -/
theorem Resting.after {pool : Pool} {millis : Int} (h : pool.Resting millis)
    (visits : List (Visit α))
    (hvisits : ∀ visit ∈ visits, visit.Covered ∧ pool.Early millis visit) :
    (pool.after visits).Resting millis := by
  induction visits using List.reverseRecOn with
  | nil => exact h
  | append_singleton visits visit ih =>
      obtain ⟨hcovered, hearly⟩ := hvisits visit (by simp)
      have hbefore := ih fun other hmem => hvisits other (List.mem_append_left _ hmem)
      rw [after_concat]
      exact (hcovered.quiet hbefore ((early_after pool visits millis visit).mpr hearly)).2.2

/-- **Where dispatches go, and when the primary is asked again**, after any visits one after
another to a new pool with a fallback, whatever their outcomes and the clock.

The next dispatch opens on the primary if and only if that is available when it begins, otherwise
on the fallback by the same rule, and otherwise on the primary by force. A fallback that has
always answered is ready.

Let the primary be lost and the fallback answer from now on. A dispatch that finds the primary
available asks it once and hands out the answer of the fallback; the pool rests from the time at
which the probe ended. As long as the delay has not passed since then, dispatches ask the fallback
alone, and the first that begins later is such a probe again. -/
theorem schedule_of_visits (clientType : String) (delay : Duration) (visits : List (Visit α)) :
    let fresh := Pool.fresh clientType delay true
    let pool := fresh.after visits
    pool.reconnectDelay = delay ∧
    (∀ visit : Visit α,
      let first := (visit.dispatch pool).attempts.head?
      let primary := pool.Available visit.begins.primary .primary
      let fallback := pool.Available visit.begins.fallback .fallback
      (first = some (.ordinary .primary) ↔ primary) ∧
      (first = some (.ordinary .fallback) ↔ ¬ primary ∧ fallback) ∧
      (first = some .forced ↔ ¬ primary ∧ ¬ fallback)) ∧
    ((∀ earlier visit later, visits = earlier ++ visit :: later →
      .ordinary .fallback ∈ (visit.dispatch (fresh.after earlier)).attempts →
      (visit.outcome (.ordinary .fallback)).isDisconnected = false) →
      pool.isReady .fallback = true) ∧
    (∀ visit : Visit α, visit.Covered → pool.isReady .fallback = true →
      pool.Available visit.begins.primary .primary →
      let probed := visit.dispatch pool
      probed.attempts = [.ordinary .primary, .ordinary .fallback] ∧
        probed.outcome = visit.outcome (.ordinary .fallback) ∧
        probed.pool.Resting (visit.ends (.ordinary .primary)).primary.millis) ∧
    (∀ millis (quiet : List (Visit α)), pool.Resting millis →
      (∀ visit ∈ quiet, visit.Covered ∧ pool.Early millis visit) →
      (∀ earlier visit later, quiet = earlier ++ visit :: later →
        let served := visit.dispatch (pool.after earlier)
        served.attempts = [.ordinary .fallback] ∧
          served.outcome = visit.outcome (.ordinary .fallback)) ∧
      ∀ visit : Visit α, visit.Covered → ¬ pool.Early millis visit →
        let probed := visit.dispatch (pool.after quiet)
        probed.attempts = [.ordinary .primary, .ordinary .fallback] ∧
          probed.outcome = visit.outcome (.ordinary .fallback) ∧
          probed.pool.Resting (visit.ends (.ordinary .primary)).primary.millis) := by
  intro fresh pool
  refine ⟨reconnectDelay_eq (makeup_after fresh visits), fun visit => ?_, fun hanswers => ?_,
    fun visit hcovered hfallback havailable => ?_,
    fun millis quiet hresting hquiet => ⟨?_, fun visit hcovered hlate => ?_⟩⟩
  · intro first primary fallback
    have hopens := attempt_enter_iff (accounted_after clientType delay visits) visit.begins
    simp only [first, Visit.head?_attempts_dispatch, Option.some.injEq]
    exact hopens
  · exact isReady_fallback_after rfl visits hanswers
  · exact hcovered.probe havailable hfallback
  · rintro earlier visit later rfl
    obtain ⟨hcovered, hearly⟩ := hquiet visit (by simp)
    have hbefore := hresting.after earlier fun other hmem =>
      hquiet other (List.mem_append_left _ hmem)
    obtain ⟨hattempts, houtcome, -⟩ :=
      hcovered.quiet hbefore ((early_after pool earlier millis visit).mpr hearly)
    exact ⟨hattempts, houtcome⟩
  · have hbefore := hresting.after quiet hquiet
    rw [← early_after pool quiet, Early, Int.not_lt] at hlate
    refine hcovered.probe (.inr ⟨millis, ?_, hlate⟩) hbefore.fallback
    rw [lastLoss?_eq (readiness?_primary _), hbefore.primary]

/-- The time of a loss is rounded down to a millisecond: with a delay of 50 ms, a primary that was
lost 100 ns after the epoch is asked again 50 ms after the epoch, and not before. -/
example :
    let visit (nanos : Int) : Visit Nat :=
      { begins := (⟨nanos⟩ : Instant)
        ends := fun _ => (⟨nanos⟩ : Instant)
        outcome := fun attempt =>
          if attempt = .ordinary .primary then .error (.disconnected "closed") else .ok 7 }
    let pool := (Pool.fresh "Beacon API" (.ofMillis 50) true).after [visit 100]
    ((visit 49999999).dispatch pool).attempts = [.ordinary .fallback] ∧
      ((visit 50000000).dispatch pool).attempts = [.ordinary .primary, .ordinary .fallback] := by
  cbv

end Pool

end NodeGateway
