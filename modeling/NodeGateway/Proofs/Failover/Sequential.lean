import NodeGateway.Proofs.Failover.Course

/-!
# Dispatches One after Another

A dispatch that runs on its own (`Pool.dispatch`) makes no attempt twice, so all that its
surroundings can do is told by what the clock shows when it begins and when each attempt ends, and
by the outcome of each. That is a **visit** to a pool (`Visit.exists_eq_dispatch`).

Such a dispatch takes the same steps as one of several that run at the same time, only that none
of the others comes in between. So whatever every step keeps, a visit keeps too.

## Main results

* `Pool.drive_of_done`, `Pool.drive_of_retry`: the two ways in which an attempt goes on.
* `Visit.exists_eq_dispatch`: every dispatch that runs on its own is a visit.
* `System.run_visit`: a visit is a run in which nobody else takes a step.
* `Visit.induction`: what every step keeps holds after visits one after another.
-/

namespace NodeGateway

namespace Pool

/-! ### A dispatch on its own -/

section Drive

variable {env : Surroundings σ α} {attempt : Attempt} {state after : σ} {outcome : Outcome α}
  {pool next : Pool}

/-- An attempt that settles the dispatch is its last one. -/
theorem drive_of_done (hattempt : env.attempt attempt state = (outcome, after))
    {result : Outcome α}
    (hsettle : pool.settle (env.now after) attempt outcome = (.done result, next)) :
    pool.drive env attempt state = ⟨result, after, next, [attempt]⟩ := by
  rw [drive, hattempt]
  dsimp only
  split
  · next heq =>
      obtain ⟨hdone, rfl⟩ := Prod.mk.inj (heq.symm.trans hsettle)
      rw [Verdict.done.inj hdone]
  · next heq => cases (Prod.mk.inj (heq.symm.trans hsettle)).1

/-- A dispatch that goes on makes the attempts of the rest behind the one that has ended. -/
theorem drive_of_retry (hattempt : env.attempt attempt state = (outcome, after))
    {following : Attempt}
    (hsettle : pool.settle (env.now after) attempt outcome = (.retry following, next)) :
    pool.drive env attempt state =
      let rest := next.drive env following after
      { rest with attempts := attempt :: rest.attempts } := by
  rw [drive, hattempt]
  dsimp only
  split
  · next heq => cases (Prod.mk.inj (heq.symm.trans hsettle)).1
  · next heq =>
      obtain ⟨hretry, rfl⟩ := Prod.mk.inj (heq.symm.trans hsettle)
      rw [Verdict.retry.inj hretry]

end Drive

/-- The attempt that a dispatch is about to make is its first. -/
theorem head?_attempts_drive (env : Surroundings σ α) (attempt : Attempt) (state : σ)
    (pool : Pool) : (pool.drive env attempt state).attempts.head? = some attempt := by
  rcases hattempt : env.attempt attempt state with ⟨outcome, after⟩
  rcases hsettle : pool.settle (env.now after) attempt outcome with ⟨verdict, next⟩
  cases verdict with
  | done result =>
      rw [drive_of_done hattempt hsettle]
      rfl
  | retry following =>
      rw [drive_of_retry hattempt hsettle]
      rfl

/-- Without a fallback a dispatch makes the direct attempt and nothing else. -/
theorem dispatch_of_not_hasFallback {pool : Pool} (h : pool.hasFallback = false)
    (env : Surroundings σ α) (state : σ) :
    pool.dispatch env state =
      ⟨(env.attempt .direct state).1, (env.attempt .direct state).2, pool, [.direct]⟩ := by
  have hsettle : pool.settle (env.now (env.attempt .direct state).2) .direct
      (env.attempt .direct state).1 = (.done (env.attempt .direct state).1, pool) := rfl
  rw [dispatch, enter_of_not_hasFallback h]
  exact drive_of_done rfl hsettle

end Pool

/-! ### Visits -/

/-- A **visit** to a pool: what the clock shows when a dispatch begins and when each of its
attempts ends, and the outcome of each. -/
structure Visit (α : Type) where
  begins : Readings
  ends : Attempt → Readings
  outcome : Attempt → Outcome α

namespace Visit

/-- The surroundings of the dispatch. Their state is what the clock shows. -/
def surroundings (visit : Visit α) : Surroundings Readings α where
  now state := state
  attempt attempt _ := (visit.outcome attempt, visit.ends attempt)

/-- The **dispatch** of a visit. -/
def dispatch (visit : Visit α) (pool : Pool) : Dispatched Readings α :=
  pool.dispatch visit.surroundings visit.begins

/-- The end of an attempt, as a step of the dispatch with the given index. -/
def ending (visit : Visit α) (index : Nat) (attempt : Attempt) : Readings × Event α :=
  (visit.ends attempt, .settle index (visit.outcome attempt))

/-- The steps of the dispatch with the given index, if it makes these attempts. -/
def steps (visit : Visit α) (index : Nat) (attempts : List Attempt) :
    List (Readings × Event α) :=
  (visit.begins, .enter index) :: attempts.map (visit.ending index)

/-- A visit begins with the choice of an attempt and goes on from there. -/
theorem dispatch_eq (visit : Visit α) (pool : Pool) :
    visit.dispatch pool = (pool.enter visit.begins).2.drive visit.surroundings
      (pool.enter visit.begins).1 visit.begins := rfl

/-- **Visits are all that surroundings can do**: whatever answers a dispatch that runs on its own,
there is a visit with the same attempts and the same outcome that leaves the same pool behind. -/
theorem exists_eq_dispatch (env : Surroundings σ α) (state : σ) (pool : Pool) :
    ∃ visit : Visit α,
      (visit.dispatch pool).attempts = (pool.dispatch env state).attempts ∧
      (visit.dispatch pool).outcome = (pool.dispatch env state).outcome ∧
      (visit.dispatch pool).pool = (pool.dispatch env state).pool := by
  rcases hopens : pool.enter (env.now state) with ⟨opening, began⟩
  rcases hattempt : env.attempt opening state with ⟨outcome, after⟩
  -- The opening attempt finds the state as it was, and the one behind it, if any, finds `after`.
  let visit : Visit α :=
    { begins := env.now state
      ends := fun attempt =>
        if attempt = opening then env.now after else env.now (env.attempt attempt after).2
      outcome := fun attempt =>
        if attempt = opening then outcome else (env.attempt attempt after).1 }
  have hvisit : visit.surroundings.attempt opening (env.now state) =
      (outcome, env.now after) := by
    simp [visit, surroundings]
  refine ⟨visit, ?_⟩
  have hown : pool.dispatch env state = began.drive env opening state := by
    rw [Pool.dispatch, hopens]
  have hdispatch : visit.dispatch pool =
      began.drive visit.surroundings opening (env.now state) := by
    rw [dispatch_eq, hopens]
  rw [hown, hdispatch]
  rcases hsettle : began.settle (env.now after) opening outcome with ⟨verdict, next⟩
  cases verdict with
  | done result =>
      rw [Pool.drive_of_done hattempt hsettle, Pool.drive_of_done hvisit hsettle]
      exact ⟨rfl, rfl, rfl⟩
  | retry following =>
      obtain ⟨hprimary, hlast⟩ := Pool.settle_retry (congrArg Prod.fst hsettle)
      have hne : following ≠ opening := by
        rintro rfl
        rw [hprimary] at hlast
        exact absurd hlast (by decide)
      rcases hfollowing : env.attempt following after with ⟨second, ended⟩
      have hagain : visit.surroundings.attempt following (env.now after) =
          (second, env.now ended) := by
        simp [visit, surroundings, hne, hfollowing]
      rw [Pool.drive_of_retry hattempt hsettle, Pool.drive_of_retry hvisit hsettle]
      rcases hend : next.settle (env.now ended) following second with ⟨verdict, final⟩
      cases verdict with
      | done result =>
          rw [Pool.drive_of_done hfollowing hend, Pool.drive_of_done hagain hend]
          exact ⟨rfl, rfl, rfl⟩
      | retry other =>
          have hfewer := Pool.followers_lt_of_retry (congrArg Prod.fst hend)
          omega

/-- A visit opens with the attempt that is chosen when it begins. -/
theorem head?_attempts_dispatch (visit : Visit α) (pool : Pool) :
    (visit.dispatch pool).attempts.head? = some (pool.enter visit.begins).1 :=
  Pool.head?_attempts_drive visit.surroundings _ visit.begins _

end Visit

namespace System

/-- A dispatch that begins makes the attempt that is chosen for it. -/
theorem step_enter {system : System α} {index : Nat}
    (h : system.phases[index]? = some .idle) (now : Readings) :
    system.step now (.enter index) =
      system.makeAttempt index (system.pool.enter now).1 (system.pool.enter now).2 := by
  simp only [step, h]

/-- The end of an attempt that settles a dispatch ends it. -/
theorem step_settle_done {system : System α} {index : Nat} {attempt : Attempt}
    (h : system.phases[index]? = some (.attempting attempt)) {now : Readings}
    {outcome result : Outcome α} {pool : Pool}
    (hsettle : system.pool.settle now attempt outcome = (.done result, pool)) :
    system.step now (.settle index outcome) =
      (system.noteEnding ⟨index, attempt, outcome⟩).finish index result pool := by
  simp only [step, h, pool_noteEnding, hsettle]

/-- The end of an attempt that does not settle a dispatch lets it make another one. -/
theorem step_settle_retry {system : System α} {index : Nat} {attempt following : Attempt}
    (h : system.phases[index]? = some (.attempting attempt)) {now : Readings}
    {outcome : Outcome α} {pool : Pool}
    (hsettle : system.pool.settle now attempt outcome = (.retry following, pool)) :
    system.step now (.settle index outcome) =
      (system.noteEnding ⟨index, attempt, outcome⟩).makeAttempt index following pool := by
  simp only [step, h, pool_noteEnding, hsettle]

/-- A dispatch under way that runs on its own is a run in which nobody else takes a step. -/
theorem run_drive (visit : Visit α) (index : Nat) (attempt : Attempt) (state : Readings)
    (system : System α) (h : system.phases[index]? = some (.attempting attempt)) :
    let dispatched := system.pool.drive visit.surroundings attempt state
    let next := system.run (dispatched.attempts.map (visit.ending index))
    next.pool = dispatched.pool ∧
      next.phases[index]? = some (.ended dispatched.outcome) ∧
      next.course index = system.course index ++
        dispatched.attempts.map fun attempt => (attempt, visit.outcome attempt) := by
  have hindex : index < system.phases.length := (List.getElem?_eq_some_iff.mp h).1
  have hattempt : visit.surroundings.attempt attempt state =
      (visit.outcome attempt, visit.ends attempt) := rfl
  rcases hsettle : system.pool.settle (visit.ends attempt) attempt (visit.outcome attempt) with
    ⟨verdict, pool⟩
  cases verdict with
  | done result =>
      rw [Pool.drive_of_done hattempt hsettle]
      simp only [List.map_singleton, Visit.ending, run_cons, run_nil, step_settle_done h hsettle]
      refine ⟨rfl, List.getElem?_set_self hindex, ?_⟩
      rw [course_finish, course_noteEnding_self]
  | retry following =>
      have hfewer : following.followers < attempt.followers :=
        Pool.followers_lt_of_retry (congrArg Prod.fst hsettle)
      rw [Pool.drive_of_retry hattempt hsettle]
      dsimp only
      rw [List.map_cons, run_cons, Visit.ending, step_settle_retry h hsettle]
      -- The rest runs from the system in which the next attempt is under way.
      obtain ⟨hpool, hphase, hcourse⟩ := run_drive visit index following (visit.ends attempt)
        ((system.noteEnding ⟨index, attempt, visit.outcome attempt⟩).makeAttempt index following
          pool) (List.getElem?_set_self hindex)
      refine ⟨hpool, hphase, ?_⟩
      rw [pool_makeAttempt] at hcourse
      rw [hcourse, course_makeAttempt, course_noteEnding_self, List.append_assoc]
      rfl
termination_by attempt.followers

/-- **A visit is a run** in which nobody else takes a step. -/
theorem run_visit (visit : Visit α) (index : Nat) (system : System α)
    (h : system.phases[index]? = some .idle) :
    let dispatched := visit.dispatch system.pool
    let next := system.run (visit.steps index dispatched.attempts)
    next.pool = dispatched.pool ∧
      next.phases[index]? = some (.ended dispatched.outcome) ∧
      next.course index = system.course index ++
        dispatched.attempts.map fun attempt => (attempt, visit.outcome attempt) := by
  have hindex : index < system.phases.length := (List.getElem?_eq_some_iff.mp h).1
  dsimp only
  rw [Visit.steps, run_cons, step_enter h]
  exact run_drive visit index (system.pool.enter visit.begins).1 visit.begins _
    (List.getElem?_set_self hindex)

end System

/-! ### Visits one after another -/

namespace Pool

/-- The pool after **visits one after another**. -/
def after (pool : Pool) (visits : List (Visit α)) : Pool :=
  visits.foldl (fun pool visit => (visit.dispatch pool).pool) pool

theorem after_append (pool : Pool) (visits later : List (Visit α)) :
    pool.after (visits ++ later) = (pool.after visits).after later :=
  List.foldl_append

theorem after_concat (pool : Pool) (visits : List (Visit α)) (visit : Visit α) :
    pool.after (visits ++ [visit]) = (visit.dispatch (pool.after visits)).pool :=
  after_append pool visits [visit]

end Pool

/-- What every step of every dispatch keeps is kept by a visit. -/
theorem Visit.keeps {P : Pool → Prop}
    (hstep : ∀ now (event : Event α) (system : System α), P system.pool →
      P (system.step now event).pool)
    (visit : Visit α) {pool : Pool} (h : P pool) : P (visit.dispatch pool).pool := by
  have hpool : ((System.fresh pool 1).run (visit.steps 0 (visit.dispatch pool).attempts)).pool =
      (visit.dispatch pool).pool := (System.run_visit visit 0 (System.fresh pool 1) rfl).1
  rw [← hpool]
  exact System.run_induction (P := fun system => P system.pool) h hstep _

/-- What holds at first and is kept by every step holds after visits one after another. -/
theorem Visit.induction {P : Pool → Prop}
    (hstep : ∀ now (event : Event α) (system : System α), P system.pool →
      P (system.step now event).pool)
    {pool : Pool} (h : P pool) (visits : List (Visit α)) : P (pool.after visits) := by
  induction visits generalizing pool with
  | nil => exact h
  | cons visit visits ih => exact ih (visit.keeps hstep h)

end NodeGateway
