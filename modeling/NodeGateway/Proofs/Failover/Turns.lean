import Mathlib.Logic.Function.Iterate
import NodeGateway.Proofs.Failover.Health
import NodeGateway.Proofs.Failover.Sequential

/-!
# Dispatches That Take Turns

While a dispatch waits for its endpoints, something else may go on that has nothing to do with its
pool, such as a dispatch on another pool. Then it is not at one go that a dispatch runs to its end,
but in **turns**: one in which it begins, and one for each attempt, in which the attempt ends and
another one may begin (`Underway.Turned`).

Whatever happens between two turns, each of them leads to where the dispatch would end if it had
run on its own (`Underway.Leads`), and leaves fewer of them (`Underway.left`). So three turns take
it there.

On its way the dispatch asks some of its endpoints, perhaps one of them twice. A pool with a
fallback believes of every endpoint that was asked what was found there last (`Underway.Informed`).

## Main results

* `Underway.isSome_result?_turns`: three turns take a dispatch to its end.
* `Underway.eq_dispatch_of_result?`: this end is that of a dispatch on its own.
* `Underway.onCourse_turns`: its course is one of those that a dispatch can take.
* `Underway.tells_turns`: what the report of the pool tells about the endpoints that were asked.
-/

namespace NodeGateway

/-- A dispatch **under way** on a pool of which nobody else knows: where it stands, the pool, the
state of its surroundings, and the attempts that have ended. -/
structure Underway (σ α : Type) where
  phase : Phase α := .idle
  pool : Pool
  state : σ
  course : List (Attempt × Outcome α) := []

namespace Underway

/-- Takes **one turn**: the dispatch begins, or the attempt that it waits for ends. -/
def turn (env : Surroundings σ α) (underway : Underway σ α) : Underway σ α :=
  match underway.phase with
  | .idle =>
    let (attempt, pool) := underway.pool.enter (env.now underway.state)
    { underway with phase := .attempting attempt, pool }
  | .attempting attempt =>
    let (outcome, state) := env.attempt attempt underway.state
    let course := underway.course ++ [(attempt, outcome)]
    match underway.pool.settle (env.now state) attempt outcome with
    | (.retry next, pool) => { phase := .attempting next, pool, state, course }
    | (.done result, pool) => { phase := .ended result, pool, state, course }
  | .ended _ => underway

/-- The outcome of a dispatch that has ended. -/
def result? (underway : Underway σ α) : Option (Outcome α) :=
  match underway.phase with
  | .ended outcome => some outcome
  | .idle | .attempting _ => none

/-- How many turns are left at most. -/
def left (underway : Underway σ α) : Nat :=
  match underway.phase with
  | .idle => 3
  | .attempting attempt => attempt.followers + 1
  | .ended _ => 0

variable {env : Surroundings σ α} {underway next : Underway σ α} {pool : Pool} {state : σ}
  {attempt : Attempt} {outcome : Outcome α} {course : List (Attempt × Outcome α)}

/-! ### The kinds of turn -/

/-- The **kinds of turn**: what becomes of a dispatch that begins, that goes on with another
attempt, that ends, and that has ended before. -/
inductive Turned (env : Surroundings σ α) : Underway σ α → Underway σ α → Prop
  | began (pool : Pool) (state : σ) (course : List (Attempt × Outcome α)) :
      Turned env { phase := .idle, pool, state, course }
        { phase := .attempting (pool.enter (env.now state)).1
          pool := (pool.enter (env.now state)).2
          state, course }
  | wentOn {pool next : Pool} {state after : σ} {course : List (Attempt × Outcome α)}
      {attempt following : Attempt} {outcome : Outcome α}
      (hattempt : env.attempt attempt state = (outcome, after))
      (hsettle : pool.settle (env.now after) attempt outcome = (.retry following, next)) :
      Turned env { phase := .attempting attempt, pool, state, course }
        { phase := .attempting following, pool := next, state := after
          course := course ++ [(attempt, outcome)] }
  | ended {pool next : Pool} {state after : σ} {course : List (Attempt × Outcome α)}
      {attempt : Attempt} {outcome result : Outcome α}
      (hattempt : env.attempt attempt state = (outcome, after))
      (hsettle : pool.settle (env.now after) attempt outcome = (.done result, next)) :
      Turned env { phase := .attempting attempt, pool, state, course }
        { phase := .ended result, pool := next, state := after
          course := course ++ [(attempt, outcome)] }
  | stayed (outcome : Outcome α) (pool : Pool) (state : σ)
      (course : List (Attempt × Outcome α)) :
      Turned env { phase := .ended outcome, pool, state, course }
        { phase := .ended outcome, pool, state, course }

/-- Every turn is of one of these kinds. -/
theorem turn_turned (env : Surroundings σ α) (underway : Underway σ α) :
    Turned env underway (underway.turn env) := by
  rcases underway with ⟨phase, pool, state, course⟩
  cases phase with
  | idle => exact .began pool state course
  | attempting attempt =>
      rcases hattempt : env.attempt attempt state with ⟨outcome, after⟩
      rcases hsettle : pool.settle (env.now after) attempt outcome with ⟨verdict, next⟩
      simp only [turn, hattempt, hsettle]
      cases verdict with
      | retry following => exact .wentOn hattempt hsettle
      | done result => exact .ended hattempt hsettle
  | ended outcome => exact .stayed outcome pool state course

/-- The outcome of an attempt settles it. -/
theorem settled {now : Readings} {pool next : Pool} {verdict : Verdict α}
    (h : pool.settle now attempt outcome = (verdict, next)) :
    Pool.Settled now pool attempt outcome verdict next := by
  have := Pool.settle_settled now attempt outcome pool
  rwa [h] at this

/-- What holds at first and is kept by every turn holds after any number of turns. -/
theorem turns_induction {P : Underway σ α → Prop} (hstart : P underway)
    (hturn : ∀ before after, Turned env before after → P before → P after) (turns : Nat) :
    P ((turn env)^[turns] underway) := by
  induction turns with
  | zero => exact hstart
  | succ turns ih =>
      rw [Function.iterate_succ_apply']
      exact hturn _ _ (turn_turned env _) ih

/-! ### Where the turns lead -/

/-- A dispatch **leads** to what is left behind if its attempts so far and what it would leave
behind on its own from here on come to that. -/
def Leads (env : Surroundings σ α) (served : Dispatched σ α) (underway : Underway σ α) : Prop :=
  match underway.phase with
  | .idle => underway.course = [] ∧ underway.pool.dispatch env underway.state = served
  | .attempting attempt =>
    let rest := underway.pool.drive env attempt underway.state
    { rest with attempts := underway.course.map Prod.fst ++ rest.attempts } = served
  | .ended outcome =>
    ⟨outcome, underway.state, underway.pool, underway.course.map Prod.fst⟩ = served

/-- **A turn does not lead astray.** -/
theorem Turned.leads {served : Dispatched σ α} (h : Turned env underway next)
    (hleads : Leads env served underway) : Leads env served next := by
  cases h with
  | began pool state course =>
      obtain ⟨rfl, rfl⟩ := hleads
      rfl
  | wentOn hattempt hsettle =>
      obtain rfl := hleads
      simp only [Leads, Pool.drive_of_retry hattempt hsettle, List.map_append, List.map_cons,
        List.map_nil, List.append_assoc, List.singleton_append]
  | ended hattempt hsettle =>
      obtain rfl := hleads
      simp only [Leads, Pool.drive_of_done hattempt hsettle, List.map_append, List.map_cons,
        List.map_nil]
  | stayed => exact hleads

/-- A dispatch that has an outcome has ended with it. -/
theorem phase_eq_of_result? (h : underway.result? = some outcome) :
    underway.phase = .ended outcome := by
  rcases underway with ⟨phase, pool, state, course⟩
  cases phase with
  | idle | attempting attempt => cases h
  | ended result => exact congrArg Phase.ended (Option.some.inj h)

/-- **The end of the turns is that of a dispatch on its own**, whenever it is reached. -/
theorem eq_dispatch_of_result? {turns : Nat}
    (h : ((turn env)^[turns] { pool, state }).result? = some outcome) :
    let reached := (turn env)^[turns] { pool, state }
    pool.dispatch env state =
      ⟨outcome, reached.state, reached.pool, reached.course.map Prod.fst⟩ := by
  have hleads : Leads env (pool.dispatch env state) ((turn env)^[turns] { pool, state }) :=
    turns_induction ⟨rfl, rfl⟩ (fun _ _ hturned => hturned.leads) turns
  rw [Leads, phase_eq_of_result? h] at hleads
  exact hleads.symm

/-- **A turn leaves fewer turns**, if any is left. -/
theorem Turned.left_le (h : Turned env underway next) : next.left ≤ underway.left - 1 := by
  cases h with
  | began pool state course =>
      have hfollowers : ∀ attempt : Attempt, attempt.followers ≤ 1 := by
        intro attempt
        cases attempt with
        | direct | forced => exact Nat.zero_le 1
        | ordinary role => cases role <;> decide
      exact Nat.succ_le_succ (hfollowers _)
  | wentOn hattempt hsettle => exact Pool.followers_lt_of_retry (congrArg Prod.fst hsettle)
  | ended | stayed => exact Nat.zero_le _

theorem left_turns_le (env : Surroundings σ α) (underway : Underway σ α) (turns : Nat) :
    ((turn env)^[turns] underway).left ≤ underway.left - turns := by
  induction turns with
  | zero => exact Nat.le_refl _
  | succ turns ih =>
      rw [Function.iterate_succ_apply']
      have := (turn_turned env ((turn env)^[turns] underway)).left_le
      omega

/-- A dispatch without turns left has ended. -/
theorem isSome_result?_of_left (h : underway.left = 0) : underway.result?.isSome = true := by
  rcases underway with ⟨phase, pool, state, course⟩
  cases phase with
  | idle | attempting attempt => cases h
  | ended outcome => rfl

/-- **Three turns take a dispatch to its end.** -/
theorem isSome_result?_turns (env : Surroundings σ α) (pool : Pool) (state : σ) {turns : Nat}
    (h : 3 ≤ turns) : ((turn env)^[turns] { pool, state }).result?.isSome = true := by
  refine isSome_result?_of_left ?_
  have hleft := left_turns_le env ({ pool, state } : Underway σ α) turns
  have hthree : ({ pool, state } : Underway σ α).left = 3 := rfl
  omega

/-! ### The course of the turns -/

/-- A dispatch is **on course** if its pool is made of the same as at first, and it stands where its
attempts so far say. -/
structure OnCourse (pool : Pool) (underway : Underway σ α) : Prop where
  makeup_eq : underway.pool.makeup = pool.makeup
  stands : Stands pool.clientType pool.hasFallback underway.phase underway.course

/-- A turn does not change what the pool is made of. -/
theorem Turned.makeup_eq (h : Turned env underway next) :
    next.pool.makeup = underway.pool.makeup := by
  cases h with
  | began pool state course => exact Pool.makeup_enter _ pool
  | wentOn hattempt hsettle | ended hattempt hsettle => exact (settled hsettle).makeup_eq
  | stayed => rfl

/-- **A turn keeps to the course** of a dispatch. -/
theorem Turned.onCourse (h : Turned env underway next) (hcourse : OnCourse pool underway) :
    OnCourse pool next := by
  obtain ⟨hmakeup, hstands⟩ := hcourse
  refine ⟨h.makeup_eq.trans hmakeup, ?_⟩
  cases h with
  | began other state course =>
      obtain rfl := hstands.idle_inv
      rw [← Pool.hasFallback_eq hmakeup]
      exact .opening (Pool.enter_mem_openings (env.now state) other)
  | wentOn hattempt hsettle =>
      obtain ⟨rfl, ⟨detail, rfl⟩, hfollowing⟩ := (settled hsettle).retry_inv
      obtain ⟨rfl, hfallback⟩ := hstands.primary_inv
      exact .replacing hfallback hfollowing
  | ended hattempt hsettle =>
      obtain ⟨rfl, hlast⟩ := (settled hsettle).done_inv
      rw [Pool.clientType_eq hmakeup]
      exact hstands.settle hlast
  | stayed => exact hstands

/-- **A dispatch that takes turns keeps to its course.** -/
theorem onCourse_turns (env : Surroundings σ α) (pool : Pool) (state : σ) (turns : Nat) :
    OnCourse pool ((turn env)^[turns] { pool, state }) :=
  turns_induction ⟨rfl, .idle⟩ (fun _ _ hturned h => hturned.onCourse h) turns

/-- A turn does nothing to a pool **without a fallback**. -/
theorem Turned.pool_eq (h : Turned env underway next) (hcourse : OnCourse pool underway)
    (hfallback : pool.hasFallback = false) : next.pool = underway.pool := by
  obtain ⟨hmakeup, hstands⟩ := hcourse
  rw [hfallback] at hstands
  cases h with
  | began other state course =>
      have hother : other.hasFallback = false := (Pool.hasFallback_eq hmakeup).trans hfallback
      exact congrArg Prod.snd (Pool.enter_of_not_hasFallback hother (env.now state))
  | wentOn hattempt hsettle =>
      obtain rfl := hstands.direct_inv
      cases settled hsettle
  | ended hattempt hsettle =>
      obtain rfl := hstands.direct_inv
      cases settled hsettle with
      | direct => rfl
  | stayed => rfl

/-- Without a fallback there is nothing to choose from, and the pool stays as it is. -/
theorem pool_turns_of_not_hasFallback (h : pool.hasFallback = false) (env : Surroundings σ α)
    (state : σ) (turns : Nat) : ((turn env)^[turns] { pool, state }).pool = pool := by
  have hboth : OnCourse pool ((turn env)^[turns] { pool, state }) ∧
      ((turn env)^[turns] { pool, state }).pool = pool :=
    turns_induction (P := fun underway => OnCourse pool underway ∧ underway.pool = pool)
      ⟨⟨rfl, .idle⟩, rfl⟩
      (fun _ _ hturned h' => ⟨hturned.onCourse h'.1, (hturned.pool_eq h'.1 h).trans h'.2⟩) turns
  exact hboth.2

/-! ### What is found out on the way -/

/-- What was **found last** at the endpoint in a role: the outcome of the last attempt on it. -/
def found? (role : Role) (course : List (Attempt × Outcome α)) : Option (Outcome α) :=
  ((course.filter (·.1.role = role)).getLast?).map Prod.snd

theorem found?_append_self (course : List (Attempt × Outcome α)) (attempt : Attempt)
    (outcome : Outcome α) :
    found? attempt.role (course ++ [(attempt, outcome)]) = some outcome := by
  simp [found?]

theorem found?_append_of_ne {role : Role} (h : attempt.role ≠ role)
    (course : List (Attempt × Outcome α)) (outcome : Outcome α) :
    found? role (course ++ [(attempt, outcome)]) = found? role course := by
  simp [found?, h]

/-- A pool with a fallback **is informed** by a dispatch: it warrants the attempt that is under way,
and believes of every endpoint what was found there last. -/
structure Informed (underway : Underway σ α) : Prop where
  warranted : ∀ attempt, underway.phase = .attempting attempt → underway.pool.Warrants attempt
  believed : ∀ role own, found? role underway.course = some own →
    underway.pool.isReady role = !own.isDisconnected

/-- The last attempt of a dispatch changes the readiness of no other role than its own. -/
theorem isReady_of_done {now : Readings} {pool next : Pool} {result : Outcome α} {role : Role}
    (h : Pool.Settled now pool attempt outcome (.done result) next) (hrole : attempt.role ≠ role) :
    next.isReady role = pool.isReady role := by
  cases h with
  | direct | answered | forcedLost => rfl
  | exhausted detail =>
      have hne : role ≠ .fallback := Ne.symm hrole
      rw [Pool.isReady, Pool.readiness?_markLost_of_ne hne]
      rfl
  | recovered =>
      have hne : role ≠ .primary := Ne.symm hrole
      rw [Pool.isReady, Pool.readiness?_markRecovered_of_ne hne]
      rfl

/-- **A turn informs the pool** of what it has found. -/
theorem Turned.informed (h : Turned env underway next) (hcourse : OnCourse pool underway)
    (hfallback : pool.hasFallback = true) (hinformed : Informed underway) : Informed next := by
  obtain ⟨hmakeup, hstands⟩ := hcourse
  cases h with
  | began other state course =>
      obtain rfl := hstands.idle_inv
      have hother : other.hasFallback = true := (Pool.hasFallback_eq hmakeup).trans hfallback
      refine ⟨?_, nofun⟩
      rintro _ ⟨⟩
      exact Pool.warrants_enter hother _
  | @wentOn _ nextPool _ _ course _ following _ hattempt hsettle =>
      -- it was the first attempt, and it has taken the primary down
      have hwarrants := (settled hsettle).warrants
      obtain ⟨rfl, ⟨detail, rfl⟩, hfollowing⟩ := (settled hsettle).retry_inv
      obtain ⟨rfl, -⟩ := hstands.primary_inv
      have hdown : nextPool.isReady .primary = false := by
        rcases Pool.mem_replacements.mp hfollowing with rfl | rfl
        · exact hwarrants.1
        · exact hwarrants .primary
      refine ⟨?_, fun role own hown => ?_⟩
      · rintro _ ⟨⟩
        exact hwarrants
      · cases role with
        | primary =>
            obtain rfl := Option.some.inj hown
            exact hdown
        | fallback => cases hown
  | @ended _ _ _ _ course attempt outcome _ hattempt hsettle =>
      refine ⟨nofun, fun role own hown => ?_⟩
      by_cases hrole : attempt.role = role
      · subst hrole
        obtain rfl : outcome = own := by
          rw [found?_append_self] at hown
          exact Option.some.inj hown
        have hstanding := (settled hsettle).standing (hinformed.warranted attempt rfl)
        cases hlost : outcome.isDisconnected with
        | true => exact hstanding.lost hlost _
        | false => exact hstanding.kept hlost
      · rw [found?_append_of_ne hrole] at hown
        exact (isReady_of_done (settled hsettle) hrole).trans (hinformed.believed role own hown)
  | stayed => exact hinformed

/-- **What is found out about an endpoint is believed**, at every moment: a pool with a fallback
takes it to be ready exactly if the last attempt on it kept the connection. -/
theorem isReady_of_found (h : pool.hasFallback = true) (env : Surroundings σ α) (state : σ)
    (turns : Nat) :
    let reached := (turn env)^[turns] { pool, state }
    ∀ role own, found? role reached.course = some own →
      reached.pool.isReady role = !own.isDisconnected := by
  have hstart : Informed ({ pool, state } : Underway σ α) := ⟨nofun, nofun⟩
  have hboth : OnCourse pool ((turn env)^[turns] { pool, state }) ∧
      Informed ((turn env)^[turns] { pool, state }) :=
    turns_induction (P := fun underway => OnCourse pool underway ∧ Informed underway)
      ⟨⟨rfl, .idle⟩, hstart⟩
      (fun _ _ hturned h' => ⟨hturned.onCourse h'.1, hturned.informed h'.1 h h'.2⟩) turns
  exact hboth.2.believed

/-- A report **tells** what a dispatch has brought about: it is that of the pool that the dispatch
leaves behind. If there is a fallback, an endpoint that was asked is ready in it exactly if the
connection was kept when it was asked last; if there is none, nothing is noted about an endpoint. -/
structure Tells (before : Pool) (reached : Underway σ α) (report : ReadinessReport) : Prop where
  report_eq : report = reached.pool.report
  found : before.hasFallback = true → ∀ role own, found? role reached.course = some own →
    report.ready role = !own.isDisconnected
  alone : before.hasFallback = false → reached.pool = before

/-- **The report behind the turns tells** what they have brought about. -/
theorem tells_turns (env : Surroundings σ α) (pool : Pool) (state : σ) (turns : Nat) :
    let reached := (turn env)^[turns] { pool, state }
    Tells pool reached reached.pool.report where
  report_eq := rfl
  found hfallback role own hown := by
    rw [Pool.ready_report]
    exact isReady_of_found hfallback env state turns role own hown
  alone hfallback := pool_turns_of_not_hasFallback hfallback env state turns

end Underway

end NodeGateway
