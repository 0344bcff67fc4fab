import NodeGateway.Failover.Interleaving
import NodeGateway.Proofs.Failover.Pool

/-!
# What a Step Can Do

Dispatches that run at the same time take their steps in any order. This module says once what a
single step does to all of them and to the pool that they share; whatever holds of every run is
derived from it by induction on the steps.

## Main definitions

* `System.attemptsOf` and `System.course`, what a single dispatch has done: the attempts that it
  made, and those of them that have ended, each with its outcome.
* `System.Took`, the five kinds of step: one that does not apply, a recheck from outside, a
  dispatch that begins, one that goes on with another attempt, and one that ends.
* `System.Changes`, what a step can do to the readiness of a role, and on which occasion.

## Main results

* `System.step_took` and `System.step_changes`: a step does nothing else.
* `System.run_induction`: what holds at first and is kept by every step holds after every run.
-/

namespace NodeGateway

/-- The attempt that a dispatch waits for, if it does. -/
def Phase.underway : Phase α → List Attempt
  | .attempting attempt => [attempt]
  | .idle | .ended _ => []

/-- The dispatch that takes the step, if one does. -/
def Event.index? : Event α → Option Nat
  | .enter index | .settle index _ => some index
  | .recheck => none

namespace System

/-- The attempts made by a dispatch, in order. -/
def attemptsOf (index : Nat) (system : System α) : List Attempt :=
  (system.attempts.filter (·.1 = index)).map (·.2)

/-- The **course** of a dispatch: its attempts that have ended, in order, with their outcomes. -/
def course (index : Nat) (system : System α) : List (Attempt × Outcome α) :=
  (system.endings.filter (·.index = index)).map fun ending => (ending.attempt, ending.outcome)

/-! ### The parts of a system after a step -/

section Parts

variable (index : Nat) (attempt : Attempt) (outcome : Outcome α) (pool : Pool)
  (ending : Ending α) (system : System α)

@[simp] theorem pool_makeAttempt : (system.makeAttempt index attempt pool).pool = pool := rfl

@[simp] theorem pool_noteEnding : (system.noteEnding ending).pool = system.pool := rfl

@[simp] theorem pool_finish : (system.finish index outcome pool).pool = pool := rfl

@[simp] theorem phases_makeAttempt : (system.makeAttempt index attempt pool).phases =
    system.phases.set index (.attempting attempt) := rfl

@[simp] theorem phases_noteEnding : (system.noteEnding ending).phases = system.phases := rfl

@[simp] theorem phases_finish : (system.finish index outcome pool).phases =
    system.phases.set index (.ended outcome) := rfl

@[simp] theorem attempts_makeAttempt : (system.makeAttempt index attempt pool).attempts =
    system.attempts ++ [(index, attempt)] := rfl

@[simp] theorem attempts_noteEnding : (system.noteEnding ending).attempts =
    system.attempts := rfl

@[simp] theorem attempts_finish : (system.finish index outcome pool).attempts =
    system.attempts := rfl

@[simp] theorem endings_makeAttempt : (system.makeAttempt index attempt pool).endings =
    system.endings := rfl

@[simp] theorem endings_noteEnding : (system.noteEnding ending).endings =
    system.endings ++ [ending] := rfl

@[simp] theorem endings_finish : (system.finish index outcome pool).endings =
    system.endings := rfl

end Parts

/-! ### The kinds of step -/

/-- The **kinds of step**: what the clock shows, the event, and the system before and after. -/
inductive Took (now : Readings) : Event α → System α → System α → Prop
  | ignored (event : Event α) (system : System α) : Took now event system system
  | rechecked (system : System α) :
      Took now .recheck system { system with pool := system.pool.recheckAll now }
  | began {index : Nat} {system : System α} (h : system.phases[index]? = some .idle) :
      Took now (.enter index) system
        (system.makeAttempt index (system.pool.enter now).1 (system.pool.enter now).2)
  | wentOn {index : Nat} {system : System α} {attempt next : Attempt} {outcome : Outcome α}
      {pool : Pool} (h : system.phases[index]? = some (.attempting attempt))
      (hsettled : Pool.Settled now system.pool attempt outcome (.retry next) pool) :
      Took now (.settle index outcome) system
        ((system.noteEnding ⟨index, attempt, outcome⟩).makeAttempt index next pool)
  | ended {index : Nat} {system : System α} {attempt : Attempt} {outcome result : Outcome α}
      {pool : Pool} (h : system.phases[index]? = some (.attempting attempt))
      (hsettled : Pool.Settled now system.pool attempt outcome (.done result) pool) :
      Took now (.settle index outcome) system
        ((system.noteEnding ⟨index, attempt, outcome⟩).finish index result pool)

/-- Every step is of one of these kinds. -/
theorem step_took (now : Readings) (event : Event α) (system : System α) :
    Took now event system (system.step now event) := by
  cases event with
  | recheck => exact .rechecked system
  | enter index =>
      simp only [step]
      split
      · next h => exact .began h
      · exact .ignored _ system
  | settle index outcome =>
      simp only [step]
      split
      · next attempt h =>
          have hsettled := Pool.settle_settled now attempt outcome system.pool
          rw [pool_noteEnding]
          rcases hs : system.pool.settle now attempt outcome with ⟨verdict, pool⟩
          rw [hs] at hsettled
          cases verdict with
          | retry next => exact .wentOn h hsettled
          | done result => exact .ended h hsettled
      · exact .ignored _ system

/-! ### What a step writes down -/

theorem attemptsOf_makeAttempt_self (index : Nat) (attempt : Attempt) (pool : Pool)
    (system : System α) : (system.makeAttempt index attempt pool).attemptsOf index =
      system.attemptsOf index ++ [attempt] := by
  simp [attemptsOf]

theorem attemptsOf_makeAttempt_of_ne {index other : Nat} (h : other ≠ index)
    (attempt : Attempt) (pool : Pool) (system : System α) :
    (system.makeAttempt index attempt pool).attemptsOf other = system.attemptsOf other := by
  simp [attemptsOf, h.symm]

@[simp] theorem attemptsOf_noteEnding (index : Nat) (ending : Ending α) (system : System α) :
    (system.noteEnding ending).attemptsOf index = system.attemptsOf index := rfl

@[simp] theorem attemptsOf_finish (index other : Nat) (outcome : Outcome α) (pool : Pool)
    (system : System α) :
    (system.finish other outcome pool).attemptsOf index = system.attemptsOf index := rfl

@[simp] theorem course_makeAttempt (index other : Nat) (attempt : Attempt) (pool : Pool)
    (system : System α) :
    (system.makeAttempt other attempt pool).course index = system.course index := rfl

@[simp] theorem course_finish (index other : Nat) (outcome : Outcome α) (pool : Pool)
    (system : System α) :
    (system.finish other outcome pool).course index = system.course index := rfl

theorem course_noteEnding_self (index : Nat) (attempt : Attempt) (outcome : Outcome α)
    (system : System α) : (system.noteEnding ⟨index, attempt, outcome⟩).course index =
      system.course index ++ [(attempt, outcome)] := by
  simp [course]

theorem course_noteEnding_of_ne {index other : Nat} (h : other ≠ index) (attempt : Attempt)
    (outcome : Outcome α) (system : System α) :
    (system.noteEnding ⟨index, attempt, outcome⟩).course other = system.course other := by
  simp [course, h.symm]

theorem mem_attemptsOf {index : Nat} {attempt : Attempt} {system : System α} :
    attempt ∈ system.attemptsOf index ↔ (index, attempt) ∈ system.attempts := by
  simp [attemptsOf]

theorem mem_course {index : Nat} {attempt : Attempt} {outcome : Outcome α}
    {system : System α} : (attempt, outcome) ∈ system.course index ↔
      ⟨index, attempt, outcome⟩ ∈ system.endings := by
  simp only [course, List.mem_map, List.mem_filter, decide_eq_true_eq, Prod.mk.injEq]
  constructor
  · rintro ⟨ending, ⟨hmem, rfl⟩, rfl, rfl⟩
    exact hmem
  · intro h
    exact ⟨_, ⟨h, rfl⟩, rfl, rfl⟩

/-- What is written down is never taken back. -/
theorem Took.endings_mono {now : Readings} {event : Event α} {system next : System α}
    (h : Took now event system next) : system.endings <+: next.endings := by
  cases h with
  | ignored | rechecked | began => exact List.prefix_refl _
  | wentOn | ended => exact List.prefix_append _ _

/-- The end of an attempt that a dispatch waits for is always written down. -/
theorem endings_step_settle {system : System α} {index : Nat} {attempt : Attempt}
    (h : system.phases[index]? = some (.attempting attempt)) (now : Readings)
    (outcome : Outcome α) : (system.step now (.settle index outcome)).endings =
      system.endings ++ [⟨index, attempt, outcome⟩] := by
  simp only [step, h, pool_noteEnding]
  split <;> rfl

/-! ### Runs -/

@[simp] theorem run_nil (system : System α) : system.run [] = system := rfl

theorem run_cons (system : System α) (now : Readings) (event : Event α)
    (events : List (Readings × Event α)) :
    system.run ((now, event) :: events) = (system.step now event).run events := rfl

theorem run_append (system : System α) (events later : List (Readings × Event α)) :
    system.run (events ++ later) = (system.run events).run later :=
  List.foldl_append

theorem run_concat (system : System α) (events : List (Readings × Event α))
    (now : Readings) (event : Event α) :
    system.run (events ++ [(now, event)]) = (system.run events).step now event :=
  run_append system events [(now, event)]

/-- What holds at first and is kept by every step holds after every run. -/
theorem run_induction {P : System α → Prop} {system : System α} (h : P system)
    (hstep : ∀ now event system, P system → P (system.step now event))
    (events : List (Readings × Event α)) : P (system.run events) := by
  induction events generalizing system with
  | nil => exact h
  | cons first events ih => exact ih (hstep first.1 first.2 system h)

/-- What a run has written down stays written down. -/
theorem endings_mono_run (system : System α) (events : List (Readings × Event α)) :
    system.endings <+: (system.run events).endings :=
  run_induction (P := fun other => system.endings <+: other.endings) (List.prefix_refl _)
    (fun now event other h => h.trans (step_took now event other).endings_mono) events

theorem Took.makeup_eq {now : Readings} {event : Event α} {system next : System α}
    (h : Took now event system next) : next.pool.makeup = system.pool.makeup := by
  cases h with
  | ignored => rfl
  | rechecked => exact Pool.makeup_recheckAll now system.pool
  | began => exact Pool.makeup_enter now system.pool
  | wentOn _ hsettled => exact hsettled.makeup_eq
  | ended _ hsettled => exact hsettled.makeup_eq

@[simp] theorem makeup_run (system : System α) (events : List (Readings × Event α)) :
    (system.run events).pool.makeup = system.pool.makeup :=
  run_induction (P := fun other => other.pool.makeup = system.pool.makeup) rfl
    (fun now event other h => (step_took now event other).makeup_eq.trans h) events

/-! ### What a step does to the readiness of a role -/

/-- Whether an event, at this state of the dispatches, is one that **rechecks** a role: it comes
from outside, or a dispatch begins, or a dispatch loses the primary and goes on. -/
def Rechecks (event : Event α) (role : Role) (system : System α) : Prop :=
  match event with
  | .recheck => True
  | .enter index => system.phases[index]? = some .idle
  | .settle index outcome => role = .fallback ∧ outcome.isDisconnected = true ∧
      system.phases[index]? = some (.attempting (.ordinary .primary))

/-- What a step can do to the **readiness of a role**: nothing, or one of three changes, each only
on its own occasion. -/
inductive Changes (now : Readings) (event : Event α) (system : System α) (role : Role) :
    Readiness → Readiness → Prop
  | kept (r : Readiness) : Changes now event system role r r
  | lost (r : Readiness) {index : Nat} {detail : String}
      (hevent : event = .settle index (.error (.disconnected detail)))
      (hphase : system.phases[index]? = some (.attempting (.ordinary role))) :
      Changes now event system role r (r.markLost (now.of role))
  | rechecked (r : Readiness) (h : system.Rechecks event role) :
      Changes now event system role r (r.recheck (now.of role) system.pool.reconnectDelay)
  | recovered (r : Readiness) {index : Nat} {outcome : Outcome α} (hrole : role = .primary)
      (hevent : event = .settle index outcome) (houtcome : outcome.isDisconnected = false)
      (hphase : system.phases[index]? = some (.attempting .forced)) :
      Changes now event system role r r.markReady

/-- The change that the end of an attempt makes is one that its step makes. -/
theorem changes_of_changed {now : Readings} {index : Nat} {attempt : Attempt}
    {outcome : Outcome α} {system : System α} {role : Role} {r r' : Readiness}
    (hphase : system.phases[index]? = some (.attempting attempt))
    (h : Pool.Changed now system.pool.reconnectDelay role attempt outcome r r') :
    Changes now (.settle index outcome) system role r r' := by
  cases h with
  | kept => exact .kept r
  | lost => exact .lost r rfl hphase
  | rechecked _ _ hrole => exact .rechecked r ⟨hrole, rfl, hphase⟩
  | recovered _ _ hrole houtcome => exact .recovered r hrole rfl houtcome hphase

/-- A step changes the readiness of a role in one of these ways. -/
theorem Took.changes {now : Readings} {event : Event α} {system next : System α}
    (h : Took now event system next) {role : Role} {r : Readiness}
    (hr : system.pool.readiness? role = some r) :
    ∃ r', next.pool.readiness? role = some r' ∧ Changes now event system role r r' := by
  cases h with
  | ignored => exact ⟨r, hr, .kept r⟩
  | rechecked =>
      refine ⟨_, ?_, .rechecked r trivial⟩
      rw [Pool.readiness?_recheckAll, hr, Option.map_some]
  | began hidle =>
      cases hfallback : system.pool.hasFallback with
      | false =>
          rw [Pool.enter_of_not_hasFallback hfallback]
          exact ⟨r, hr, .kept r⟩
      | true =>
          refine ⟨_, ?_, .rechecked r hidle⟩
          rw [pool_makeAttempt, Pool.readiness?_enter hfallback, hr, Option.map_some]
  | wentOn hphase hsettled =>
      obtain ⟨r', hr', hchanged⟩ := hsettled.changed hr
      exact ⟨r', hr', changes_of_changed hphase hchanged⟩
  | ended hphase hsettled =>
      obtain ⟨r', hr', hchanged⟩ := hsettled.changed hr
      exact ⟨r', hr', changes_of_changed hphase hchanged⟩

/-- A step changes the readiness of a role in one of these ways, wherever it began. -/
theorem step_changes (now : Readings) (event : Event α) (system : System α) {role : Role}
    {r : Readiness} (hr : system.pool.readiness? role = some r) :
    ∃ r', (system.step now event).pool.readiness? role = some r' ∧
      Changes now event system role r r' :=
  (step_took now event system).changes hr

end System

end NodeGateway
