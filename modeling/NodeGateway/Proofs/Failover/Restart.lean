import NodeGateway.Proofs.Failover.Sequential

/-!
# Starting Over

A dispatch is described most simply as a recursion: recheck both roles, ask the primary if it is
ready, and when the connection is lost, take the primary down and **start over** from the recheck
(`Pool.startOver`). Nothing in this description keeps it from asking the primary again and again:
with a short reconnect delay the recheck makes ready at once what was taken down just before.

A dispatch as it runs does not start over. It remembers that it has lost the primary, and goes on
without rechecking or asking it. With a delay of at least a millisecond the two agree
(`Pool.startOver_eq_dispatch`): the time of a loss is rounded down to a millisecond, so less than
one lies between it and a recheck at the time of the loss.

## Main results

* `Pool.recheck_markLost`: a role that was just lost is not given another chance.
* `Pool.enter_markLost`: starting over after a loss of the primary is going on without it.
* `Pool.startOver_eq_dispatch`: the recursion ends with its second entry at the latest, in what a
  dispatch ends in.
-/

namespace NodeGateway

/-- Less than a millisecond lies between an instant and the millisecond that it falls into. -/
theorem Instant.hasElapsed_ofMillis_millis (t : Instant) {delay : Duration}
    (h : (Duration.ofMillis 1).nanos ≤ delay.nanos) :
    (ofMillis t.millis).hasElapsed t delay = false := by
  refine Bool.eq_false_iff.mpr fun helapsed => ?_
  rw [hasElapsed_iff] at helapsed
  simp only [ofMillis, millis, Duration.ofMillis] at h helapsed
  omega

namespace Pool

/-- The dispatch that **starts over** whenever it has lost the primary. It may begin `entries`
times; if that is not enough, there is no result. -/
def startOver (env : Surroundings σ α) : (entries : Nat) → σ → Pool → Option (Dispatched σ α)
  | 0, _, _ => none
  | entries + 1, state, pool =>
    let pool := pool.recheckAll (env.now state)
    if pool.isReady .primary then
      let pool := pool.note (.dispatching .primary)
      let (outcome, state) := env.attempt (.ordinary .primary) state
      match outcome with
      | .error (.disconnected detail) =>
        let lost := pool.markLost (env.now state).primary .primary (.disconnected detail)
        (startOver env entries state lost).map fun rest =>
          { rest with attempts := .ordinary .primary :: rest.attempts }
      | _ => some ⟨outcome, state, pool, [.ordinary .primary]⟩
    else if pool.isReady .fallback then
      let pool := pool.note (.dispatching .fallback)
      let (outcome, state) := env.attempt (.ordinary .fallback) state
      match outcome with
      | .error (.disconnected detail) =>
        let lost := pool.markLost (env.now state).fallback .fallback (.disconnected detail)
        some ⟨.error (.allClientsFailed pool.clientType), state, lost, [.ordinary .fallback]⟩
      | _ => some ⟨outcome, state, pool, [.ordinary .fallback]⟩
    else
      let pool := pool.note .forcing
      let (outcome, state) := env.attempt .forced state
      let pool := if outcome.isDisconnected then pool else pool.markRecovered .primary
      some ⟨outcome, state, pool, [.forced]⟩

/-! ### A role that was just lost -/

/-- A role that was just lost is not given another chance. -/
theorem recheck_markLost (now : Instant) (role : Role) (fault : Fault) {pool : Pool}
    (h : (Duration.ofMillis 1).nanos ≤ pool.reconnectDelay.nanos) :
    (pool.markLost now role fault).recheck now role = pool.markLost now role fault := by
  have hdue : (pool.markLost now role fault).isDue now role = false := by
    have helapsed := Instant.hasElapsed_ofMillis_millis now h
    have hdelay := reconnectDelay_eq (makeup_markLost now role fault pool)
    rw [isDue, hdelay, readiness?_markLost]
    cases pool.readiness? role <;> simp [Readiness.isDue, helapsed]
  rw [recheck, hdue, if_neg Bool.false_ne_true]

/-- A recheck of every role at the time of a loss of the primary is a recheck of the fallback. -/
theorem recheckAll_markLost (now : Readings) (fault : Fault) {pool : Pool}
    (h : (Duration.ofMillis 1).nanos ≤ pool.reconnectDelay.nanos) :
    (pool.markLost now.primary .primary fault).recheckAll now =
      (pool.markLost now.primary .primary fault).recheck now.fallback .fallback := by
  rw [recheckAll, recheck_markLost now.primary .primary fault h]

/-- Nor does it make the primary ready. -/
theorem isReady_recheckAll_markLost (now : Readings) (fault : Fault) {pool : Pool}
    (h : (Duration.ofMillis 1).nanos ≤ pool.reconnectDelay.nanos) :
    ((pool.markLost now.primary .primary fault).recheckAll now).isReady .primary = false := by
  rw [recheckAll_markLost now fault h, isReady, readiness?_recheck_of_ne (by decide), ← isReady]
  exact isReady_markLost now.primary .primary fault pool

/-- **Starting over** after a loss of the primary is going on without it. -/
theorem enter_markLost (now : Readings) (fault : Fault) {pool : Pool}
    (hfallback : pool.hasFallback = true)
    (hdelay : (Duration.ofMillis 1).nanos ≤ pool.reconnectDelay.nanos) :
    (pool.markLost now.primary .primary fault).enter now =
      (pool.markLost now.primary .primary fault).choose true now := by
  have hboth := (hasFallback_eq (makeup_markLost now.primary .primary fault pool)).trans hfallback
  have hrechecked : (pool.markLost now.primary .primary fault).rechecked false now =
      (pool.markLost now.primary .primary fault).rechecked true now :=
    recheckAll_markLost now fault hdelay
  have hdown : ((pool.markLost now.primary .primary fault).rechecked false now).isReady .primary =
      false := isReady_recheckAll_markLost now fault hdelay
  rw [enter_of_hasFallback hboth, choose_eq, choose_eq, ← hrechecked]
  simp only [hdown, Bool.and_false, Bool.false_eq_true, if_false]

/-! ### The recursion by its opening attempt -/

section Opening

variable {env : Surroundings σ α} {state : σ} {pool : Pool}

/-- A dispatch makes the attempt that is chosen for it, and those that follow. -/
theorem dispatch_eq_drive (env : Surroundings σ α) (state : σ) (pool : Pool) :
    pool.dispatch env state = (pool.enter (env.now state)).2.drive env
      (pool.enter (env.now state)).1 state := rfl

/-- The attempt that opens a dispatch, by the readiness after the recheck. -/
theorem enter_eq_recheckAll (h : pool.hasFallback = true) (now : Readings) :
    pool.enter now =
      if (pool.recheckAll now).isReady .primary then
        (.ordinary .primary, (pool.recheckAll now).note (.dispatching .primary))
      else if (pool.recheckAll now).isReady .fallback then
        (.ordinary .fallback, (pool.recheckAll now).note (.dispatching .fallback))
      else (.forced, (pool.recheckAll now).note .forcing) := by
  rw [enter_of_hasFallback h]
  exact choose_eq false now pool

/-- Without a ready primary the recursion ends at once, like a dispatch. -/
theorem startOver_of_not_isReady (hfallback : pool.hasFallback = true)
    (hprimary : (pool.recheckAll (env.now state)).isReady .primary = false) (entries : Nat) :
    pool.startOver env (entries + 1) state = some (pool.dispatch env state) := by
  rw [dispatch_eq_drive, enter_eq_recheckAll hfallback, hprimary, if_neg Bool.false_ne_true]
  cases hready : (pool.recheckAll (env.now state)).isReady .fallback with
  | true =>
      rcases hattempt : env.attempt (.ordinary .fallback) state with ⟨outcome, after⟩
      rw [startOver, hattempt]
      simp only [hprimary, hready, Bool.false_eq_true, if_false, if_true]
      cases hlost : outcome.isDisconnected with
      | true =>
          obtain ⟨detail, rfl⟩ := Outcome.isDisconnected_iff.mp hlost
          rw [drive_of_done hattempt (Settled.exhausted detail).eq_settle]
      | false =>
          rw [drive_of_done hattempt (Settled.answered .fallback outcome hlost).eq_settle]
          split
          · simp [Outcome.isDisconnected, Fault.isDisconnected] at hlost
          · rfl
  | false =>
      rcases hattempt : env.attempt .forced state with ⟨outcome, after⟩
      rw [startOver, hattempt]
      simp only [hprimary, hready, Bool.false_eq_true, if_false]
      cases hlost : outcome.isDisconnected with
      | true =>
          rw [drive_of_done hattempt (Settled.forcedLost outcome hlost).eq_settle, if_pos rfl]
      | false =>
          rw [drive_of_done hattempt (Settled.recovered outcome hlost).eq_settle,
            if_neg Bool.false_ne_true]

variable {after : σ} {outcome : Outcome α} {detail : String}

/-- A primary that does not lose the connection ends the recursion at once, like a dispatch. -/
theorem startOver_of_answered (hfallback : pool.hasFallback = true)
    (hprimary : (pool.recheckAll (env.now state)).isReady .primary = true)
    (hattempt : env.attempt (.ordinary .primary) state = (outcome, after))
    (hanswered : outcome.isDisconnected = false) (entries : Nat) :
    pool.startOver env (entries + 1) state = some (pool.dispatch env state) := by
  rw [dispatch_eq_drive, enter_eq_recheckAll hfallback, hprimary, if_pos rfl,
    drive_of_done hattempt (Settled.answered .primary outcome hanswered).eq_settle,
    startOver, hattempt]
  simp only [hprimary, if_true]
  split
  · simp [Outcome.isDisconnected, Fault.isDisconnected] at hanswered
  · rfl

/-- The pool that the loss of the opening attempt on the primary leaves behind. -/
def afterLoss (env : Surroundings σ α) (state after : σ) (detail : String) (pool : Pool) : Pool :=
  ((pool.recheckAll (env.now state)).note (.dispatching .primary)).markLost
    (env.now after).primary .primary (.disconnected detail)

/-- What a pool is made of does not change on the way to the loss. -/
theorem makeup_opened (now : Readings) (pool : Pool) :
    ((pool.recheckAll now).note (.dispatching .primary)).makeup = pool.makeup := by
  simp

theorem makeup_afterLoss (env : Surroundings σ α) (state after : σ) (detail : String)
    (pool : Pool) : (pool.afterLoss env state after detail).makeup = pool.makeup :=
  (makeup_markLost _ _ _ _).trans (makeup_opened _ pool)

/-- A primary that loses the connection makes the recursion start over. -/
theorem startOver_of_lost
    (hprimary : (pool.recheckAll (env.now state)).isReady .primary = true)
    (hattempt : env.attempt (.ordinary .primary) state = (.error (.disconnected detail), after))
    (entries : Nat) :
    pool.startOver env (entries + 1) state =
      ((pool.afterLoss env state after detail).startOver env entries after).map fun rest =>
        { rest with attempts := .ordinary .primary :: rest.attempts } := by
  rw [startOver, hattempt]
  simp only [hprimary, if_true]
  rfl

/-- A dispatch that loses the primary goes on like a new one, if the delay is long enough. -/
theorem dispatch_of_lost (hfallback : pool.hasFallback = true)
    (hdelay : (Duration.ofMillis 1).nanos ≤ pool.reconnectDelay.nanos)
    (hprimary : (pool.recheckAll (env.now state)).isReady .primary = true)
    (hattempt : env.attempt (.ordinary .primary) state = (.error (.disconnected detail), after)) :
    pool.dispatch env state =
      let rest := (pool.afterLoss env state after detail).dispatch env after
      { rest with attempts := .ordinary .primary :: rest.attempts } := by
  have hmakeup := makeup_opened (env.now state) pool
  rw [dispatch_eq_drive, enter_eq_recheckAll hfallback, hprimary, if_pos rfl,
    drive_of_retry hattempt (Settled.failover detail).eq_settle, dispatch_eq_drive, afterLoss,
    enter_markLost _ _ ((hasFallback_eq hmakeup).trans hfallback)
      (reconnectDelay_eq hmakeup ▸ hdelay)]

/-- A second entry finds the primary down, if the delay is long enough. -/
theorem isReady_recheckAll_afterLoss
    (hdelay : (Duration.ofMillis 1).nanos ≤ pool.reconnectDelay.nanos)
    (env : Surroundings σ α) (state after : σ) (detail : String) :
    ((pool.afterLoss env state after detail).recheckAll (env.now after)).isReady .primary =
      false :=
  isReady_recheckAll_markLost _ _
    (reconnectDelay_eq (makeup_opened (env.now state) pool) ▸ hdelay)

end Opening

/-! ### The recursion and the dispatch -/

/-- **A dispatch is the recursion that starts over** whenever it has lost the primary, on every
pool with a fallback, in whatever state, if the reconnect delay is at least a millisecond. The
attempts are the same, and so are the outcome and the pool that is left behind, with the readiness
of both roles and the times of their last losses. The recursion never needs a third entry. -/
theorem startOver_eq_dispatch (env : Surroundings σ α) (state : σ) {pool : Pool}
    (hfallback : pool.hasFallback = true)
    (hdelay : (Duration.ofMillis 1).nanos ≤ pool.reconnectDelay.nanos) {entries : Nat}
    (hentries : 2 ≤ entries) :
    pool.startOver env entries state = some (pool.dispatch env state) := by
  obtain ⟨entries, rfl⟩ : ∃ more, entries = more + 2 := ⟨entries - 2, by omega⟩
  cases hprimary : (pool.recheckAll (env.now state)).isReady .primary with
  | false => exact startOver_of_not_isReady hfallback hprimary _
  | true =>
      rcases hattempt : env.attempt (.ordinary .primary) state with ⟨outcome, after⟩
      cases hlost : outcome.isDisconnected with
      | false => exact startOver_of_answered hfallback hprimary hattempt hlost _
      | true =>
          obtain ⟨detail, rfl⟩ := Outcome.isDisconnected_iff.mp hlost
          -- The second entry finds the primary down, so it is the last.
          have hboth := (hasFallback_eq (makeup_afterLoss env state after detail pool)).trans
            hfallback
          have hdown := isReady_recheckAll_afterLoss hdelay env state after detail
          rw [startOver_of_lost hprimary hattempt, startOver_of_not_isReady hboth hdown,
            dispatch_of_lost hfallback hdelay hprimary hattempt]
          rfl

/-- With a delay of just a millisecond, and a primary that is lost just before the next millisecond
begins, the recursion agrees with the dispatch. -/
theorem startOver_eq_dispatch_one_milli :
    let env : Surroundings Instant Nat :=
      { now := fun t => t
        attempt := fun attempt t =>
          if attempt = .ordinary .primary then
            (.error (.disconnected "connection reset"), ⟨t.nanos + 1999999⟩)
          else (.ok 7, t) }
    let pool := Pool.fresh "Beacon Node" (.ofMillis 1) true
    (pool.hasFallback = true ∧ (Duration.ofMillis 1).nanos ≤ pool.reconnectDelay.nanos) ∧
      pool.startOver env 2 ⟨0⟩ = some (pool.dispatch env ⟨0⟩) ∧
      (pool.dispatch env ⟨0⟩).attempts = [.ordinary .primary, .ordinary .fallback] := by
  intro env pool
  have hdelay : (Duration.ofMillis 1).nanos ≤ pool.reconnectDelay.nanos := Nat.le_refl _
  exact ⟨⟨rfl, hdelay⟩, startOver_eq_dispatch env ⟨0⟩ rfl hdelay (Nat.le_refl 2), by cbv⟩

/-- With a nanosecond less, the recursion finds the primary due as soon as it was lost, and never
ends. -/
example :
    let env : Surroundings Instant Nat :=
      { now := fun t => t
        attempt := fun _ _ => (.error (.disconnected "connection reset"), ⟨1999999⟩) }
    let pool := Pool.fresh "Beacon Node" ⟨999999⟩ true
    (pool.startOver env 9 ⟨0⟩).map (·.attempts) = none ∧
      (pool.dispatch env ⟨0⟩).attempts = [.ordinary .primary, .ordinary .fallback] := by
  cbv

end Pool

end NodeGateway
