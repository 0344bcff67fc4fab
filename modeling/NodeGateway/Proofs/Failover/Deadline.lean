import NodeGateway.Proofs.Failover.Sequential
import NodeGateway.Proofs.Request.Guard

/-!
# Dispatches Inside a Deadline

A dispatch whose attempts are guarded by one scope. The scope's deadline is absolute, so all
attempts share what is left of it: a dispatch that loses the primary late leaves the fallback little
time, and one that loses it at the deadline leaves none. An attempt that is given up, since the
deadline has passed or the caller cancels, is not a lost connection. It ends the dispatch and says
nothing about the endpoint.

A dispatch is **timed** (`System.Timed`) if each of its steps is taken when the one before it is
over: the first attempt starts when the dispatch begins, the second when the first has ended.
Meanwhile other dispatches may take any steps, and the clock that the pool reads may show anything.

## Main results

* `System.ended_of_kept` and `System.isReady_of_kept`: an attempt that keeps the connection ends the
  dispatch with its outcome and takes nothing down;
* `System.Timed.le_deadline`: no step of a timed dispatch is taken behind its deadline;
* `System.deadline_of_dispatch`: both together, for every timed dispatch, with what bounds each of
  its attempts.
-/

namespace NodeGateway

/-- The outcome of a request that was **given up**: its deadline has passed, or its caller has
cancelled. -/
def Outcome.GivenUp (method : String) (outcome : Outcome α) : Prop :=
  outcome = .error (deadlineExceeded method) ∨ outcome = .error .cancelled

/-- To give up is not to lose the connection. -/
theorem Outcome.GivenUp.isDisconnected {method : String} {outcome : Outcome α}
    (h : outcome.GivenUp method) : outcome.isDisconnected = false := by
  rcases h with rfl | rfl <;> rfl

/-- An attempt that keeps the connection decides the dispatch. -/
theorem Pool.Settled.eq_done {now : Readings} {pool next : Pool} {attempt : Attempt}
    {outcome : Outcome α} {verdict : Verdict α}
    (h : Settled now pool attempt outcome verdict next) (hkept : outcome.isDisconnected = false) :
    verdict = .done outcome := by
  cases h with
  | direct | answered | forcedLost | recovered => rfl
  | failover | exhausted => cases hkept

/-- A dispatch makes two attempts at most. -/
theorem Stands.length_made_le {clientType : String} {hasFallback : Bool} {phase : Phase α}
    {course : List (Attempt × Outcome α)} (h : Stands clientType hasFallback phase course) :
    (course.map Prod.fst ++ phase.underway).length ≤ 2 := by
  cases h <;> simp [Phase.underway]

namespace System

section Kept

variable {system : System α} {index : Nat} {attempt : Attempt} {outcome : Outcome α}

/-- An attempt that keeps the connection ends the dispatch with its outcome, and none follows. -/
theorem ended_of_kept (hphase : system.phases[index]? = some (.attempting attempt))
    (hkept : outcome.isDisconnected = false) (now : Readings) :
    let next := system.step now (.settle index outcome)
    next.phases[index]? = some (.ended outcome) ∧
      next.attemptsOf index = system.attemptsOf index := by
  intro next
  have hverdict := (Pool.settle_settled now attempt outcome system.pool).eq_done hkept
  have hnext := step_settle_done hphase (Prod.ext hverdict rfl)
  rw [show next = _ from hnext, phases_finish, phases_noteEnding, attemptsOf_finish,
    attemptsOf_noteEnding]
  exact ⟨List.getElem?_set_self (List.getElem?_eq_some_iff.mp hphase).1, rfl⟩

/-- The end of an attempt ends the dispatch, or is followed by a second attempt. -/
theorem ended_or_second (horderly : system.Orderly)
    (hphase : system.phases[index]? = some (.attempting attempt)) (now : Readings)
    (outcome : Outcome α) :
    let next := system.step now (.settle index outcome)
    (∃ result, next.phases[index]? = some (.ended result)) ∨
      (system.attemptsOf index).length = 1 ∧ ∃ second,
        next.phases[index]? = some (.attempting second) ∧
          next.attemptsOf index = system.attemptsOf index ++ [second] := by
  intro next
  have hlt := (List.getElem?_eq_some_iff.mp hphase).1
  have hsettled := Pool.settle_settled now attempt outcome system.pool
  rcases hsettle : system.pool.settle now attempt outcome with ⟨verdict, pool⟩
  rw [hsettle] at hsettled
  cases verdict with
  | done result =>
      refine .inl ⟨result, ?_⟩
      rw [show next = _ from step_settle_done hphase hsettle, phases_finish, phases_noteEnding]
      exact List.getElem?_set_self hlt
  | retry second =>
      -- only the first attempt of a dispatch can be an ordinary one on the primary
      obtain ⟨rfl, -, -⟩ := hsettled.retry_inv
      obtain ⟨hstands, hmade⟩ := horderly index _ hphase
      rw [hstands.primary_inv.1] at hmade
      refine .inr ⟨by rw [hmade]; rfl, second, ?_, ?_⟩
      · rw [show next = _ from step_settle_retry hphase hsettle, phases_makeAttempt,
          phases_noteEnding]
        exact List.getElem?_set_self hlt
      · rw [show next = _ from step_settle_retry hphase hsettle, attemptsOf_makeAttempt_self,
          attemptsOf_noteEnding]

/-- An attempt that keeps the connection takes no role down. -/
theorem isReady_of_kept {role : Role} (hready : system.pool.isReady role = true)
    (hkept : outcome.isDisconnected = false) (now : Readings) :
    (system.step now (.settle index outcome)).pool.isReady role = true := by
  obtain ⟨r, hr, hready⟩ := Pool.isReady_iff.mp hready
  obtain ⟨r', hr', hchanges⟩ := step_changes now (.settle index outcome) system hr
  rw [Pool.isReady_eq hr']
  cases hchanges with
  | kept => exact hready
  | lost hevent _ =>
      obtain ⟨-, rfl⟩ := Event.settle.inj hevent
      cases hkept
  | rechecked => rw [Readiness.recheck_of_ready hready, hready]
  | recovered => rfl

/-- A dispatch that has ended takes no further step. -/
theorem step_of_ended (h : system.phases[index]? = some (.ended outcome)) (now : Readings)
    (event : Event α) :
    (system.step now event).phases[index]? = some (.ended outcome) ∧
      (system.step now event).attemptsOf index = system.attemptsOf index := by
  have htook := step_took now event system
  by_cases hindex : event.index? = some index
  · generalize system.step now event = next at htook
    cases htook with
    | ignored | rechecked => exact ⟨h, rfl⟩
    | began hidle | wentOn hidle | ended hidle =>
        obtain rfl := Option.some.inj hindex
        exact nomatch h.symm.trans hidle
  · obtain ⟨hphase, -, hmade⟩ := htook.frame hindex
    exact ⟨hphase.trans h, hmade⟩

/-- What a dispatch has ended with is never taken back. -/
theorem run_of_ended (h : system.phases[index]? = some (.ended outcome))
    (events : List (Readings × Event α)) :
    (system.run events).phases[index]? = some (.ended outcome) ∧
      (system.run events).attemptsOf index = system.attemptsOf index :=
  run_induction
    (P := fun other => other.phases[index]? = some (.ended outcome) ∧
      other.attemptsOf index = system.attemptsOf index)
    ⟨h, rfl⟩
    (fun now event _ ⟨hphase, hmade⟩ =>
      have ⟨hnext, hsame⟩ := step_of_ended hphase now event
      ⟨hnext, hsame.trans hmade⟩)
    events

end Kept

/-! ### Timed dispatches -/

/-- A **timed dispatch**, of those that `origin` starts with, whose attempts are guarded by a scope:
the instant of the last step that it has taken itself, and the system after that and after any steps
of others. Each attempt starts at the instant of the step that it follows from. -/
inductive Timed (scope : Scope) (origin : System α) (index begins : Nat) : Nat → System α → Prop
  | begun (events : List (Readings × Event α)) (now : Readings)
      (hidle : (origin.run events).phases[index]? = some .idle) :
      Timed scope origin index begins begins ((origin.run events).step now (.enter index))
  | other {instant : Nat} {system : System α} (h : Timed scope origin index begins instant system)
      (now : Readings) {event : Event α} (hother : event.index? ≠ some index) :
      Timed scope origin index begins instant (system.step now event)
  | attempted {instant : Nat} {system : System α} {attempt : Attempt}
      (h : Timed scope origin index begins instant system)
      (hphase : system.phases[index]? = some (.attempting attempt)) (now : Readings)
      (method : String) (tier : Nat) (work : Answer α) :
      Timed scope origin index begins (scope.guard method tier instant work).finish
        (system.step now (.settle index (scope.guard method tier instant work).outcome))

namespace Timed

variable {scope : Scope} {origin system : System α} {index begins instant : Nat}

/-- A timed dispatch takes its steps in a run. -/
theorem exists_run (h : Timed scope origin index begins instant system) :
    ∃ events, system = origin.run events := by
  induction h with
  | begun events now _ => exact ⟨events ++ [(now, .enter index)], (run_concat ..).symm⟩
  | @other _ _ _ now event _ ih =>
      obtain ⟨events, rfl⟩ := ih
      exact ⟨events ++ [(now, event)], (run_concat ..).symm⟩
  | @attempted instant _ _ _ _ now method tier work ih =>
      obtain ⟨events, rfl⟩ := ih
      exact ⟨events ++ [(now, .settle index (scope.guard method tier instant work).outcome)],
        (run_concat ..).symm⟩

/-- A timed dispatch waits for an attempt or has ended. -/
theorem exists_phase {pool : Pool} {count : Nat}
    (h : Timed scope (System.fresh pool count) index begins instant system) :
    (∃ attempt, system.phases[index]? = some (.attempting attempt)) ∨
      ∃ result, system.phases[index]? = some (.ended result) := by
  induction h with
  | begun events now hidle =>
      refine .inl ⟨(((System.fresh pool count).run events).pool.enter now).1, ?_⟩
      rw [step_enter hidle, phases_makeAttempt]
      exact List.getElem?_set_self (List.getElem?_eq_some_iff.mp hidle).1
  | @other _ system _ now event hother ih =>
      rw [((step_took now event system).frame hother).1]
      exact ih
  | @attempted _ system _ h hphase now _ _ _ _ =>
      obtain ⟨events, hrun⟩ := h.exists_run
      have horderly : system.Orderly := hrun ▸ orderly_run pool count events
      exact (ended_or_second horderly hphase now _).symm.imp_left fun ⟨_, second, hsecond, _⟩ =>
        ⟨second, hsecond⟩

/-- A timed dispatch takes no step behind its deadline, unless it begins there. -/
theorem le_deadline {deadline : Nat} (hdeadline : scope.deadline = some deadline)
    (h : Timed scope origin index begins instant system) : instant ≤ max begins deadline := by
  induction h with
  | begun => exact Nat.le_max_left begins deadline
  | other _ _ _ ih => exact ih
  | @attempted instant _ _ _ _ _ method tier work ih =>
      have hends := (scope.guard_ends method tier instant work).finish_le
      rw [hdeadline, Option.getD_some] at hends
      omega

end Timed

/-- **Dispatches inside a deadline**: for every pool, in every state that dispatches on it can
reach, and every dispatch whose attempts are guarded by a scope with a deadline, whether or not it
has a token.

No step of the dispatch is taken behind the deadline, unless the dispatch begins there. However long
an attempt would take and whatever it would end in, it ends by that same deadline, whatever the tier
of its method. It ends the dispatch, or it was the first and a second attempt follows. If it is
given up, it ends the dispatch for good and with that very fault, no attempt follows, and no role is
taken down. -/
theorem deadline_of_dispatch {scope : Scope} {deadline : Nat}
    (hdeadline : scope.deadline = some deadline) (pool : Pool) (count index begins : Nat)
    {instant : Nat} {system : System α}
    (h : Timed scope (System.fresh pool count) index begins instant system) :
    instant ≤ max begins deadline ∧ (system.attemptsOf index).length ≤ 2 ∧
      ∀ attempt, system.phases[index]? = some (.attempting attempt) →
        ∀ (now : Readings) (method : String) (tier : Nat) (work : Answer α),
          let ended := scope.guard method tier instant work
          let next := system.step now (.settle index ended.outcome)
          (Guarded.Ends method instant deadline work ended.finish ended.outcome ∧
            ended.finish ≤ max instant deadline ∧
              ∀ other, scope.guard method other instant work = ended) ∧
          ((∃ result, next.phases[index]? = some (.ended result)) ∨
            (system.attemptsOf index).length = 1 ∧ ∃ second,
              next.phases[index]? = some (.attempting second) ∧
                next.attemptsOf index = system.attemptsOf index ++ [second]) ∧
          (ended.outcome.GivenUp method →
            (∀ role, system.pool.isReady role = true → next.pool.isReady role = true) ∧
            ∀ later : List (Readings × Event α),
              (next.run later).phases[index]? = some (.ended ended.outcome) ∧
                (next.run later).attemptsOf index = system.attemptsOf index) := by
  obtain ⟨events, hrun⟩ := h.exists_run
  have horderly : system.Orderly := hrun ▸ orderly_run pool count events
  have hlength : (system.attemptsOf index).length ≤ 2 := by
    obtain ⟨phase, hphase⟩ : ∃ phase, system.phases[index]? = some phase :=
      h.exists_phase.elim (fun ⟨_, hphase⟩ => ⟨_, hphase⟩) fun ⟨_, hphase⟩ => ⟨_, hphase⟩
    obtain ⟨hstands, hmade⟩ := horderly index phase hphase
    rw [hmade]
    exact hstands.length_made_le
  refine ⟨h.le_deadline hdeadline, hlength, fun attempt hphase now method tier work => ?_⟩
  intro ended next
  have hends := scope.guard_ends method tier instant work
  rw [hdeadline, Option.getD_some] at hends
  refine ⟨⟨hends, hends.finish_le,
    fun other => Scope.guard_congr_tier hdeadline method other tier instant work⟩,
    ended_or_second horderly hphase now ended.outcome, fun hgiven => ?_⟩
  have hkept := hgiven.isDisconnected
  refine ⟨fun role hready => isReady_of_kept hready hkept now, fun later => ?_⟩
  obtain ⟨hended, hmade⟩ := ended_of_kept hphase hkept now
  obtain ⟨hlater, hnone⟩ := run_of_ended hended later
  exact ⟨hlater, hnone.trans hmade⟩

/-- A primary that is lost exactly at the deadline leaves the fallback no time at all, and the
fallback stays ready when the time is up. -/
theorem deadline_of_dispatch_lost_at_deadline :
    let scope : Scope := { deadline := some 10, token := some ⟨50, false⟩ }
    let fresh : System Nat := System.fresh (Pool.fresh "Execution" (.ofMillis 60000) true) 1
    let begun := fresh.step (Instant.ofMillis 0) (.enter 0)
    let first := scope.guard "call" 5000 0
      ({ outcome := .error (.disconnected "reset"), millis := 10 } : Answer Nat)
    let lost := begun.step (Instant.ofMillis 10) (.settle 0 first.outcome)
    let second := scope.guard "call" 30000 first.finish
      ({ outcome := .ok 7, millis := 1 } : Answer Nat)
    let ended := lost.step (Instant.ofMillis 10) (.settle 0 second.outcome)
    first.finish = 10 ∧ second.finish ≤ 10 ∧
      ended.phases[0]? = some (.ended (.error (deadlineExceeded "call"))) ∧
      ended.attemptsOf 0 = [.ordinary .primary, .ordinary .fallback] ∧
      ended.pool.isReady .fallback = true := by
  intro scope fresh begun first lost second ended
  have htimed : Timed scope fresh 0 0 10 lost :=
    .attempted (.begun [] (Instant.ofMillis 0) rfl) rfl (Instant.ofMillis 10) "call" 5000
      { outcome := .error (.disconnected "reset"), millis := 10 }
  obtain ⟨-, -, hattempt⟩ := deadline_of_dispatch rfl _ 1 0 0 htimed
  obtain ⟨⟨-, hfinish, -⟩, -, hgiven⟩ := hattempt (.ordinary .fallback) rfl (Instant.ofMillis 10)
    "call" 30000 { outcome := .ok 7, millis := 1 }
  obtain ⟨hready, hended⟩ := hgiven (.inl rfl)
  exact ⟨rfl, hfinish, (hended []).1, (hended []).2, hready .fallback rfl⟩

end System

end NodeGateway
