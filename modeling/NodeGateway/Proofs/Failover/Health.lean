import NodeGateway.Proofs.Failover.Forced

/-!
# Health After a Dispatch

A dispatch that nobody interferes with leaves a pool behind that agrees with its result. If an
endpoint has answered, its role is ready and the pool is healthy; if the connection was lost to the
end, both roles are down and the pool is not healthy.

Two facts carry this, and neither asks how the pool came to be as it is. The readiness that a
choice leaves behind is the reason for the attempt that it chooses (`Pool.Warrants`), so an
attempt under way on the fallback means that the primary is down, and a forced one that both are.
And the end of the last attempt leaves its role ready if the connection was kept, and everything
down if it was lost (`Pool.Standing`). A recheck that revived the other role does no harm: the
role would have been tried first, or is tried next.

## Main results

* `Pool.warrants_enter`, `Pool.Settled.warrants` and `Pool.Settled.standing`: what one step does.
* `Pool.exists_last_drive`: the last attempt of a dispatch, and where it leaves the pool.
* `Pool.report_of_dispatch`: the result, the report and the health of the pool agree.
-/

namespace NodeGateway

/-- What a report says about a role: whether it is there and ready. -/
def ReadinessReport.ready (report : ReadinessReport) : Role → Bool
  | .primary => report.primaryReady
  | .fallback => report.fallbackEnabled && report.fallbackReady

/-- What is handed out for an outcome says that no endpoint was reached exactly if the outcome
does. -/
theorem Attempt.isUnreachable_handedOut (attempt : Attempt) (clientType : String)
    (outcome : Outcome α) :
    (attempt.handedOut clientType outcome).isUnreachable = outcome.isUnreachable := by
  rw [Attempt.handedOut]
  split
  · next h =>
      rw [Outcome.isUnreachable_of_isDisconnected h.2]
      rfl
  · rfl

/-- An outcome that says that no endpoint was reached is a fault that does. -/
theorem Outcome.isUnreachable_iff {outcome : Outcome α} :
    outcome.isUnreachable = true ↔
      ∃ fault, outcome = .error fault ∧ fault.isUnreachable = true := by
  cases outcome with
  | ok value => exact ⟨nofun, nofun⟩
  | error fault => exact ⟨fun h => ⟨fault, rfl, h⟩, fun ⟨_, rfl, h⟩ => h⟩

/-- What is handed out for an outcome reached an endpoint only if the outcome did, and then it is
the outcome. -/
theorem Attempt.eq_of_handedOut {attempt : Attempt} {clientType : String} {outcome : Outcome α}
    (h : (attempt.handedOut clientType outcome).isUnreachable = false) :
    attempt.handedOut clientType outcome = outcome ∧ outcome.isDisconnected = false := by
  rw [isUnreachable_handedOut] at h
  have hkept : outcome.isDisconnected = false := by
    refine Bool.eq_false_iff.mpr fun hlost => ?_
    rw [Outcome.isUnreachable_of_isDisconnected hlost] at h
    cases h
  exact ⟨handedOut_eq_self (fun _ => hkept) clientType, hkept⟩

/-- A lost connection is handed out only where the last attempt lost it. -/
theorem Attempt.isDisconnected_of_handedOut {attempt : Attempt} {clientType : String}
    {outcome : Outcome α} (h : (attempt.handedOut clientType outcome).isDisconnected = true) :
    outcome.isDisconnected = true := by
  rw [Attempt.handedOut] at h
  split at h
  · cases h
  · exact h

namespace Pool

/-- The report says of a role what the pool does. -/
theorem ready_report (pool : Pool) (role : Role) : pool.report.ready role = pool.isReady role := by
  cases role with
  | primary => rfl
  | fallback =>
      cases h : pool.isReady .fallback with
      | false => simp [ReadinessReport.ready, report, h]
      | true => simp [ReadinessReport.ready, report, h, hasFallback_of_isReady h]

/-! ### What an attempt under way says about the pool -/

/-- The readiness of a pool with a fallback **warrants** an attempt: it is the reason for which this
attempt is made and no other. -/
def Warrants (pool : Pool) : Attempt → Prop
  | .direct => False
  | .ordinary .primary => pool.isReady .primary = true
  | .ordinary .fallback => pool.isReady .primary = false ∧ pool.isReady .fallback = true
  | .forced => ∀ role, pool.isReady role = false

/-- A choice leaves the primary down if the dispatch has lost it. -/
theorem isReady_primary_choose {pool : Pool} (h : pool.isReady .primary = false)
    (now : Readings) : (pool.choose true now).2.isReady .primary = false := by
  rw [isReady_eq (readiness?_primary _), primary_choose]
  exact h

/-- **A choice warrants the attempt that it chooses.** -/
theorem warrants_choose {primaryLost : Bool} {pool : Pool}
    (h : primaryLost = true → pool.isReady .primary = false) (now : Readings) :
    (pool.choose primaryLost now).2.Warrants (pool.choose primaryLost now).1 := by
  have hattempt := attempt_choose primaryLost now pool
  -- A dispatch that does not try the primary finds it down, or has taken it down itself.
  have hdown : ¬ (!primaryLost && (pool.choose primaryLost now).2.isReady .primary) = true →
      (pool.choose primaryLost now).2.isReady .primary = false := by
    intro hpassed
    cases primaryLost with
    | false => simpa using hpassed
    | true => exact isReady_primary_choose (h rfl) now
  rw [hattempt]
  split
  · next hprimary =>
      rw [Bool.and_eq_true] at hprimary
      exact hprimary.2
  · next hpassed =>
      split
      · next hfallback => exact ⟨hdown hpassed, hfallback⟩
      · next hfallback =>
          intro role
          cases role with
          | primary => exact hdown hpassed
          | fallback => exact Bool.eq_false_iff.mpr hfallback

/-- A dispatch that begins on a pool with a fallback makes an attempt that the pool warrants. -/
theorem warrants_enter {pool : Pool} (h : pool.hasFallback = true) (now : Readings) :
    (pool.enter now).2.Warrants (pool.enter now).1 := by
  rw [enter_of_hasFallback h]
  exact warrants_choose (fun hlost => absurd hlost Bool.false_ne_true) now

/-- A dispatch that goes on makes an attempt that the pool warrants. -/
theorem Settled.warrants {now : Readings} {pool next : Pool} {attempt replacement : Attempt}
    {outcome : Outcome α} (h : Settled now pool attempt outcome (.retry replacement) next) :
    next.Warrants replacement := by
  cases h with
  | failover detail => exact warrants_choose (fun _ => rfl) now

/-! ### What the last attempt leaves behind -/

/-- **Where an attempt leaves the pool**: with its role ready if the connection was kept, and with
both roles down if it was lost. -/
structure Standing (attempt : Attempt) (outcome : Outcome α) (pool : Pool) : Prop where
  kept : outcome.isDisconnected = false → pool.isReady attempt.role = true
  lost : outcome.isDisconnected = true → ∀ role, pool.isReady role = false

/-- **An attempt that ends the dispatch** leaves the pool where it should, if the pool warranted
it. -/
theorem Settled.standing {now : Readings} {pool next : Pool} {attempt : Attempt}
    {outcome result : Outcome α} (h : Settled now pool attempt outcome (.done result) next)
    (hpool : pool.Warrants attempt) : next.Standing attempt outcome := by
  cases h with
  | direct => exact hpool.elim
  | answered role _ hkept =>
      refine ⟨fun _ => ?_, fun hlost => absurd (hkept.symm.trans hlost) Bool.false_ne_true⟩
      cases role with
      | primary => exact hpool
      | fallback => exact hpool.2
  | exhausted detail =>
      refine ⟨fun hkept => absurd hkept Bool.true_eq_false.mp, fun _ role => ?_⟩
      cases role with
      | primary =>
          rw [isReady, readiness?_markLost_of_ne (by decide)]
          exact hpool.1
      | fallback => exact isReady_markLost now.fallback .fallback _ pool
  | forcedLost _ hlost =>
      exact ⟨fun hkept => absurd (hkept.symm.trans hlost) Bool.false_ne_true, fun _ => hpool⟩
  | recovered _ hkept =>
      refine ⟨fun _ => isReady_markRecovered .primary pool, fun hlost => ?_⟩
      exact absurd (hkept.symm.trans hlost) Bool.false_ne_true

/-- Where an attempt leaves the pool decides about its health. -/
theorem Standing.isHealthy_eq {pool : Pool} {attempt : Attempt} {outcome : Outcome α}
    (h : pool.Standing attempt outcome) : pool.isHealthy = !outcome.isDisconnected := by
  rw [Pool.isHealthy_eq]
  cases hlost : outcome.isDisconnected with
  | true => rw [h.lost hlost, h.lost hlost]; rfl
  | false =>
      have hready := h.kept hlost
      cases hrole : attempt.role with
      | primary => rw [← hrole, hready]; rfl
      | fallback => rw [← hrole, hready, Bool.or_true]; rfl

/-- **The last attempt of a dispatch**: what it ended in is handed out, and if the pool warranted
the attempt that was under way, the last one leaves it where it should. -/
theorem exists_last_drive (env : Surroundings σ α) (attempt : Attempt) (state : σ)
    (pool : Pool) :
    let dispatched := pool.drive env attempt state
    ∃ last before own, dispatched.attempts.getLast? = some last ∧
      env.attempt last before = (own, dispatched.state) ∧
      dispatched.outcome = last.handedOut pool.clientType own ∧
      (pool.Warrants attempt → dispatched.pool.Standing last own) := by
  rcases hattempt : env.attempt attempt state with ⟨own, after⟩
  have hsettled := settle_settled (env.now after) attempt own pool
  rcases hsettle : pool.settle (env.now after) attempt own with ⟨verdict, next⟩
  rw [hsettle] at hsettled
  cases verdict with
  | done result =>
      rw [drive_of_done hattempt hsettle]
      exact ⟨attempt, state, own, rfl, hattempt, hsettled.done_inv.1, hsettled.standing⟩
  | retry following =>
      have hfewer : following.followers < attempt.followers :=
        followers_lt_of_retry (congrArg Prod.fst hsettle)
      rw [drive_of_retry hattempt hsettle]
      obtain ⟨last, before, own, hlast, hanswer, hresult, hstanding⟩ :=
        exists_last_drive env following after next
      rw [clientType_eq hsettled.makeup_eq] at hresult
      refine ⟨last, before, own, ?_, hanswer, hresult, fun _ => hstanding hsettled.warrants⟩
      dsimp only
      rw [List.getLast?_cons, hlast, Option.getD_some]
termination_by attempt.followers

/-- The last attempt of a dispatch, whether or not the pool has a fallback. -/
theorem exists_last_dispatch (env : Surroundings σ α) (state : σ) (pool : Pool) :
    let served := pool.dispatch env state
    ∃ last before own, served.attempts.getLast? = some last ∧
      env.attempt last before = (own, served.state) ∧
      served.outcome = last.handedOut pool.clientType own ∧
      (pool.hasFallback = true → served.pool.Standing last own) := by
  obtain ⟨last, before, own, hlast, hanswer, hresult, hstanding⟩ :=
    exists_last_drive env (pool.enter (env.now state)).1 state (pool.enter (env.now state)).2
  rw [clientType_eq (makeup_enter (env.now state) pool)] at hresult
  exact ⟨last, before, own, hlast, hanswer, hresult,
    fun hfallback => hstanding (warrants_enter hfallback _)⟩

/-- **The result of a dispatch agrees with what the pool says about itself**, for every pool with a
fallback in whatever state, and whatever the clock shows and the endpoints answer, as long as
nobody else uses the pool in the meantime.

Let `own` be the outcome of the last attempt. If the result says that an endpoint was reached, it is
this outcome; the report then says that the role of that endpoint is ready, and the pool is healthy.
If the result is a lost connection, or stands for a fallback that was lost last, the report says
that both roles are down, and the pool is not healthy. In general the pool is healthy exactly if the
last attempt kept the connection. -/
theorem report_of_dispatch (env : Surroundings σ α) (state : σ) {pool : Pool}
    (h : pool.hasFallback = true) :
    let served := pool.dispatch env state
    let report := served.pool.report
    ∃ last before own, served.attempts.getLast? = some last ∧
      env.attempt last before = (own, served.state) ∧
      (served.outcome.isUnreachable = false → served.outcome = own ∧
        report.ready last.role = true ∧ served.pool.isHealthy = true) ∧
      ((served.outcome.isDisconnected = true ∨
          last = .ordinary .fallback ∧ own.isDisconnected = true ∧
            served.outcome = .error (.allClientsFailed pool.clientType)) →
        (∀ role, report.ready role = false) ∧ served.pool.isHealthy = false) ∧
      report.usable = served.pool.isHealthy ∧
      served.pool.isHealthy = !own.isDisconnected := by
  intro served report
  obtain ⟨last, before, own, hlast, hanswer, hresult, hleaves⟩ :=
    exists_last_dispatch env state pool
  have hstanding := hleaves h
  have hhealthy : served.pool.isHealthy = !own.isDisconnected := hstanding.isHealthy_eq
  refine ⟨last, before, own, hlast, hanswer, fun hreached => ?_, fun hunreached => ?_, rfl,
    hhealthy⟩
  · rw [show served.outcome = _ from hresult] at hreached ⊢
    obtain ⟨hsame, hkept⟩ := Attempt.eq_of_handedOut hreached
    refine ⟨hsame, ?_, ?_⟩
    · rw [ready_report]
      exact hstanding.kept hkept
    · rw [hhealthy, hkept]
      rfl
  · have hlost : own.isDisconnected = true := by
      rcases hunreached with hdisconnected | ⟨-, hlost, -⟩
      · rw [show served.outcome = _ from hresult] at hdisconnected
        exact Attempt.isDisconnected_of_handedOut hdisconnected
      · exact hlost
    refine ⟨fun role => ?_, ?_⟩
    · rw [ready_report]
      exact hstanding.lost hlost role
    · rw [hhealthy, hlost]
      rfl

/-- Surroundings in which the clock stands and every attempt ends in the same way. -/
def still (now : Instant) (outcome : Outcome α) : Surroundings Unit α where
  now _ := now
  attempt _ _ := (outcome, ())

/-- A pool that has lost both of its endpoints in one dispatch, at the epoch. -/
def bothLost : Pool :=
  ((fresh "Beacon Node" (.ofSeconds 60) true).dispatch
    (still (.ofMillis 0) (.error (.disconnected "connection refused") : Outcome Nat)) ()).pool

/-- A second later the primary is asked by force and reverts. A revert is an answer, so the primary
is ready and the pool is healthy, though the fallback is still down. -/
theorem report_of_dispatch_forced_revert :
    let reverted : Outcome Nat := .error (.reverted "execution reverted")
    let served := bothLost.dispatch (still (.ofMillis 1000) reverted) ()
    (bothLost.hasFallback = true ∧ bothLost.isHealthy = false) ∧
      served.attempts = [.forced] ∧ served.outcome = reverted ∧
      served.pool.report.ready .primary = true ∧ served.pool.report.ready .fallback = false ∧
      served.pool.isHealthy = true := by
  have hattempts : (bothLost.dispatch (still (.ofMillis 1000)
      (.error (.reverted "execution reverted") : Outcome Nat)) ()).attempts = [.forced] := by
    decide +kernel
  obtain ⟨last, before, own, hlast, -, hreached, -⟩ := report_of_dispatch
    (still (.ofMillis 1000) (.error (.reverted "execution reverted") : Outcome Nat)) ()
    (show bothLost.hasFallback = true by decide +kernel)
  obtain rfl : .forced = last := by
    rw [hattempts] at hlast
    exact Option.some.inj hlast
  obtain ⟨-, hready, hhealthy⟩ := hreached (by decide +kernel)
  exact ⟨⟨by decide +kernel, by decide +kernel⟩, hattempts, by decide +kernel, hready,
    by decide +kernel, hhealthy⟩

end Pool

end NodeGateway
