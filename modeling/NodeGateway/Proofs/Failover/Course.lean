import NodeGateway.Proofs.Failover.Step

/-!
# The Course of a Dispatch

However many dispatches share a pool and in whatever order they take their steps, each of them
makes one attempt or two, the second only after the first has ended. The **course** of a dispatch
is then one of a few (`Stands`): the opening attempt, and a replacement for it if and only if the
opening attempt was an ordinary one on the primary and lost the connection.

The induction is on the steps of the run. Its invariant (`System.Orderly`) ties three things
together for every dispatch: the phase that it is in, the attempts that it has made, and those of
them that have ended. A step of one dispatch changes none of the three for another
(`Took.frame`).

## Main results

* `System.orderly_run`: the invariant holds in every run of new dispatches.
* `System.course_of_run`: the five sequences of attempts, when there is a second one, what is
  handed out, and what becomes of a pool without a fallback.
-/

namespace NodeGateway

/-- What is **handed out** for the outcome of the last attempt. A lost fallback means that no
client of the type is left; everything else is handed out as it is. -/
def Attempt.handedOut (clientType : String) (attempt : Attempt) (outcome : Outcome α) :
    Outcome α :=
  if attempt = .ordinary .fallback ∧ outcome.isDisconnected = true then
    .error (.allClientsFailed clientType)
  else outcome

/-- What is handed out after a fallback that answered, or after another endpoint, is the outcome
itself. -/
theorem Attempt.handedOut_eq_self {attempt : Attempt} {outcome : Outcome α}
    (h : attempt = .ordinary .fallback → outcome.isDisconnected = false)
    (clientType : String) : attempt.handedOut clientType outcome = outcome := by
  refine if_neg ?_
  rintro ⟨hattempt, houtcome⟩
  rw [h hattempt] at houtcome
  exact Bool.false_ne_true houtcome

namespace Pool

/-- A dispatch goes on only after the loss of the primary, and then with a replacement for it. -/
theorem Settled.retry_inv {now : Readings} {pool next : Pool} {attempt replacement : Attempt}
    {outcome : Outcome α} (h : Settled now pool attempt outcome (.retry replacement) next) :
    attempt = .ordinary .primary ∧ (∃ detail, outcome = .error (.disconnected detail)) ∧
      replacement ∈ replacements := by
  cases h with
  | failover detail => exact ⟨rfl, ⟨detail, rfl⟩, choose_mem_replacements now _⟩

/-- A dispatch that ends hands out the outcome of its last attempt, and that attempt was not the
loss of the primary. -/
theorem Settled.done_inv {now : Readings} {pool next : Pool} {attempt : Attempt}
    {outcome result : Outcome α} (h : Settled now pool attempt outcome (.done result) next) :
    result = attempt.handedOut pool.clientType outcome ∧
      (attempt = .ordinary .primary → outcome.isDisconnected = false) := by
  cases h with
  | direct => exact ⟨rfl, nofun⟩
  | answered role _ h => exact ⟨(Attempt.handedOut_eq_self (fun _ => h) _).symm, fun _ => h⟩
  | exhausted detail => exact ⟨rfl, nofun⟩
  | forcedLost => exact ⟨rfl, nofun⟩
  | recovered => exact ⟨rfl, nofun⟩

end Pool

/-- **Where a dispatch stands**: the phase that goes with its course so far, on a pool of the
given client type that has a fallback or not. -/
inductive Stands (clientType : String) (hasFallback : Bool) :
    Phase α → List (Attempt × Outcome α) → Prop
  | idle : Stands clientType hasFallback .idle []
  | opening {attempt : Attempt} (h : attempt ∈ Pool.openings hasFallback) :
      Stands clientType hasFallback (.attempting attempt) []
  | opened {attempt : Attempt} {outcome : Outcome α}
      (h : attempt ∈ Pool.openings hasFallback)
      (hlast : attempt = .ordinary .primary → outcome.isDisconnected = false) :
      Stands clientType hasFallback (.ended (attempt.handedOut clientType outcome))
        [(attempt, outcome)]
  | replacing {attempt : Attempt} {detail : String} (hfallback : hasFallback = true)
      (h : attempt ∈ Pool.replacements) :
      Stands clientType hasFallback (.attempting attempt)
        [(.ordinary .primary, .error (.disconnected detail))]
  | replaced {attempt : Attempt} {detail : String} {outcome : Outcome α}
      (hfallback : hasFallback = true) (h : attempt ∈ Pool.replacements) :
      Stands clientType hasFallback (.ended (attempt.handedOut clientType outcome))
        [(.ordinary .primary, .error (.disconnected detail)), (attempt, outcome)]

namespace Stands

variable {clientType : String} {hasFallback : Bool} {phase : Phase α} {attempt : Attempt}
  {course : List (Attempt × Outcome α)}

/-- A dispatch that has not begun has no course yet. -/
theorem idle_inv (h : Stands clientType hasFallback (.idle : Phase α) course) :
    course = [] := by
  cases h with
  | idle => rfl

/-- The ordinary attempt on the primary only ever is the opening one, on a pool with a
fallback. -/
theorem primary_inv
    (h : Stands clientType hasFallback (.attempting (.ordinary .primary)) course) :
    course = [] ∧ hasFallback = true := by
  cases h with
  | opening h =>
      cases hasFallback with
      | true => exact ⟨rfl, rfl⟩
      | false => exact absurd h (by decide)
  | replacing _ h => exact absurd h (by decide)

/-- The end of an attempt that is not the loss of the primary ends the dispatch. -/
theorem settle (h : Stands clientType hasFallback (.attempting attempt) course)
    {outcome : Outcome α}
    (hlast : attempt = .ordinary .primary → outcome.isDisconnected = false) :
    Stands clientType hasFallback (.ended (attempt.handedOut clientType outcome))
      (course ++ [(attempt, outcome)]) := by
  cases h with
  | opening h => exact .opened h hlast
  | replacing hfallback h => exact .replaced hfallback h

/-- Without a fallback every attempt is the direct one. -/
theorem direct_inv (h : Stands clientType false (.attempting attempt) course) :
    attempt = .direct := by
  cases h with
  | opening h => exact List.mem_singleton.mp h
  | replacing hfallback => exact absurd hfallback Bool.false_ne_true

end Stands

namespace System

/-! ### The invariant -/

/-- **Orderly dispatches**: each stands where its course says, and the attempts that it has made
are those of its course and the one that it waits for. -/
def Orderly (system : System α) : Prop :=
  ∀ index phase, system.phases[index]? = some phase →
    Stands system.pool.clientType system.pool.hasFallback phase (system.course index) ∧
      system.attemptsOf index = (system.course index).map Prod.fst ++ phase.underway

/-- New dispatches are orderly. -/
theorem orderly_fresh (pool : Pool) (count : Nat) :
    (System.fresh pool count : System α).Orderly := by
  intro index phase h
  obtain rfl : phase = .idle := List.eq_of_mem_replicate (List.mem_of_getElem? h)
  exact ⟨.idle, rfl⟩

/-- A step of one dispatch changes nothing about another. -/
theorem Took.frame {now : Readings} {event : Event α} {system next : System α}
    (h : Took now event system next) {index : Nat} (hindex : event.index? ≠ some index) :
    next.phases[index]? = system.phases[index]? ∧ next.course index = system.course index ∧
      next.attemptsOf index = system.attemptsOf index := by
  cases h with
  | ignored | rechecked => exact ⟨rfl, rfl, rfl⟩
  | began =>
      have hne := fun heq => hindex (congrArg some heq)
      exact ⟨List.getElem?_set_ne hne, rfl, attemptsOf_makeAttempt_of_ne (Ne.symm hne) _ _ _⟩
  | wentOn =>
      have hne := fun heq => hindex (congrArg some heq)
      exact ⟨List.getElem?_set_ne hne, course_noteEnding_of_ne (Ne.symm hne) _ _ _,
        attemptsOf_makeAttempt_of_ne (Ne.symm hne) _ _ _⟩
  | ended =>
      have hne := fun heq => hindex (congrArg some heq)
      exact ⟨List.getElem?_set_ne hne, course_noteEnding_of_ne (Ne.symm hne) _ _ _, rfl⟩

/-- A phase that was just set is read back. -/
theorem eq_of_getElem?_set {phases : List (Phase α)} {index : Nat} {new phase : Phase α}
    (h : (phases.set index new)[index]? = some phase) : phase = new := by
  rw [List.getElem?_set_self' ] at h
  cases hold : phases[index]? with
  | none => simp [hold] at h
  | some old =>
      rw [hold] at h
      exact (Option.some.inj h).symm

/-- Every step keeps the dispatches orderly. -/
theorem Took.orderly {now : Readings} {event : Event α} {system next : System α}
    (h : Took now event system next) (horderly : system.Orderly) : next.Orderly := by
  intro index phase hphase
  rw [Pool.clientType_eq h.makeup_eq, Pool.hasFallback_eq h.makeup_eq]
  -- Only the dispatch that takes the step moves on; the frame covers all others.
  by_cases hindex : event.index? = some index
  · cases h with
    | ignored | rechecked => exact horderly index phase hphase
    | began hidle =>
        obtain rfl := Option.some.inj hindex
        obtain rfl := eq_of_getElem?_set hphase
        obtain ⟨hstands, hmade⟩ := horderly _ _ hidle
        have hcourse := hstands.idle_inv
        refine ⟨?_, ?_⟩
        · rw [course_makeAttempt, hcourse]
          exact .opening (Pool.enter_mem_openings now system.pool)
        · rw [attemptsOf_makeAttempt_self, course_makeAttempt, hmade, hcourse]
          rfl
    | wentOn hattempting hsettled =>
        obtain rfl := Option.some.inj hindex
        obtain rfl := eq_of_getElem?_set hphase
        obtain ⟨rfl, ⟨detail, rfl⟩, hreplacement⟩ := hsettled.retry_inv
        obtain ⟨hstands, hmade⟩ := horderly _ _ hattempting
        obtain ⟨hcourse, hfallback⟩ := hstands.primary_inv
        refine ⟨?_, ?_⟩
        · rw [course_makeAttempt, course_noteEnding_self, hcourse]
          exact .replacing hfallback hreplacement
        · rw [attemptsOf_makeAttempt_self, course_makeAttempt, course_noteEnding_self,
            attemptsOf_noteEnding, hmade, hcourse]
          rfl
    | ended hattempting hsettled =>
        obtain rfl := Option.some.inj hindex
        obtain rfl := eq_of_getElem?_set hphase
        obtain ⟨rfl, hlast⟩ := hsettled.done_inv
        obtain ⟨hstands, hmade⟩ := horderly _ _ hattempting
        refine ⟨?_, ?_⟩
        · rw [course_finish, course_noteEnding_self]
          exact hstands.settle hlast
        · rw [attemptsOf_finish, attemptsOf_noteEnding, course_finish, course_noteEnding_self,
            hmade, List.map_append]
          simp [Phase.underway]
  · obtain ⟨hphases, hcourse, hmade⟩ := h.frame hindex
    rw [hphases] at hphase
    rw [hcourse, hmade]
    exact horderly index phase hphase

/-- The dispatches of every run of new dispatches are orderly. -/
theorem orderly_run (pool : Pool) (count : Nat) (events : List (Readings × Event α)) :
    ((System.fresh pool count).run events).Orderly :=
  run_induction (orderly_fresh pool count)
    (fun now event system h => (step_took now event system).orderly h) events

/-- A step neither adds a dispatch nor takes one away. -/
theorem Took.length_phases {now : Readings} {event : Event α} {system next : System α}
    (h : Took now event system next) : next.phases.length = system.phases.length := by
  cases h with
  | ignored | rechecked => rfl
  | began | wentOn | ended => exact List.length_set

/-- There are as many dispatches after a run as before it. -/
theorem length_phases_run (pool : Pool) (count : Nat) (events : List (Readings × Event α)) :
    ((System.fresh pool count).run events).phases.length = count :=
  run_induction (P := fun system => system.phases.length = count) List.length_replicate
    (fun now event system h => (step_took now event system).length_phases.trans h) events

/-- The end of an attempt that a dispatch waits for is always taken. -/
theorem course_step_settle {system : System α} {index : Nat} {attempt : Attempt}
    (h : system.phases[index]? = some (.attempting attempt)) (now : Readings)
    (outcome : Outcome α) : (system.step now (.settle index outcome)).course index =
      system.course index ++ [(attempt, outcome)] := by
  rw [← course_noteEnding_self, course, endings_step_settle h]
  rfl

/-! ### Pools without a fallback -/

/-- Nothing ever happens to a new pool without a fallback. -/
theorem pool_run_of_not_hasFallback (clientType : String) (delay : Duration) (count : Nat)
    (events : List (Readings × Event α)) :
    ((System.fresh (Pool.fresh clientType delay false) count).run events).pool =
      Pool.fresh clientType delay false := by
  let alone := Pool.fresh clientType delay false
  refine (run_induction (P := fun system : System α => system.Orderly ∧ system.pool = alone)
    ⟨orderly_fresh alone count, rfl⟩ ?_ events).2
  rintro now event system ⟨horderly, hpool⟩
  have htook := step_took now event system
  refine ⟨htook.orderly horderly, ?_⟩
  generalize system.step now event = next at htook
  cases htook with
  | ignored => exact hpool
  | rechecked =>
      rw [hpool]
      rfl
  | began =>
      rw [hpool]
      rfl
  | wentOn hattempting hsettled =>
      have hstands := (horderly _ _ hattempting).1
      rw [hpool] at hstands
      obtain rfl := hstands.direct_inv
      cases hsettled
  | ended hattempting hsettled =>
      have hstands := (horderly _ _ hattempting).1
      rw [hpool] at hstands
      obtain rfl := hstands.direct_inv
      cases hsettled with
      | direct => exact hpool

end System

/-! ### What a course looks like -/

/-- The sequences of attempts that a dispatch on a pool with a fallback can make. -/
def attemptSequences : List (List Attempt) :=
  [[.ordinary .primary], [.ordinary .fallback], [.forced],
    [.ordinary .primary, .ordinary .fallback], [.ordinary .primary, .forced]]

namespace Stands

variable {clientType : String} {hasFallback : Bool} {phase : Phase α}
  {course : List (Attempt × Outcome α)}

/-- A dispatch has made no attempt exactly as long as it has not begun. -/
theorem made_eq_nil_iff (h : Stands clientType hasFallback phase course) :
    course.map Prod.fst ++ phase.underway = [] ↔ phase = .idle := by
  cases h <;> simp [Phase.underway]

/-- On a pool with a fallback the attempts are one of the five sequences. -/
theorem made_mem (h : Stands clientType true phase course) (hbegun : phase ≠ .idle) :
    course.map Prod.fst ++ phase.underway ∈ attemptSequences := by
  cases h with
  | idle => exact absurd rfl hbegun
  | opening h =>
      rcases Pool.mem_openings.mp h with rfl | rfl | rfl <;> simp [Phase.underway, attemptSequences]
  | opened h =>
      rcases Pool.mem_openings.mp h with rfl | rfl | rfl <;> simp [Phase.underway, attemptSequences]
  | replacing _ h =>
      rcases Pool.mem_replacements.mp h with rfl | rfl <;> simp [Phase.underway, attemptSequences]
  | replaced _ h =>
      rcases Pool.mem_replacements.mp h with rfl | rfl <;> simp [Phase.underway, attemptSequences]

/-- There is a second attempt exactly if the first was the loss of the primary. -/
theorem two_le_length_made_iff (h : Stands clientType hasFallback phase course) :
    2 ≤ (course.map Prod.fst ++ phase.underway).length ↔
      ∃ detail, course.head? = some (.ordinary .primary, .error (.disconnected detail)) := by
  cases h with
  | idle | opening => simp [Phase.underway]
  | @opened attempt outcome _ hlast =>
      constructor
      · intro h
        simp [Phase.underway] at h
      · rintro ⟨detail, h⟩
        obtain ⟨rfl, rfl⟩ := Prod.mk.inj (Option.some.inj h)
        exact absurd (hlast rfl) (by simp [Outcome.isDisconnected, Fault.isDisconnected])
  | @replacing _ detail | @replaced _ detail =>
      exact ⟨fun _ => ⟨detail, rfl⟩, fun _ => Nat.le_refl 2⟩

/-- A dispatch that has ended hands out the outcome of its last attempt. -/
theorem getLast?_eq (h : Stands clientType hasFallback phase course) {outcome : Outcome α}
    (hended : phase = .ended outcome) : ∃ last result,
      course.getLast? = some (last, result) ∧ outcome = last.handedOut clientType result := by
  cases h with
  | idle | opening | replacing => cases hended
  | opened | replaced =>
      cases hended
      exact ⟨_, _, rfl, rfl⟩

/-- A dispatch that has begun and waits for nothing has ended. -/
theorem exists_ended (h : Stands clientType hasFallback phase course)
    (hbegun : phase ≠ .idle) (hwaits : phase.underway = []) :
    ∃ outcome, phase = .ended outcome := by
  cases h with
  | idle => exact absurd rfl hbegun
  | opening | replacing => cases hwaits
  | opened | replaced => exact ⟨_, rfl⟩

/-- Without a fallback the direct attempt is the only one, and its outcome is handed out. -/
theorem made_eq_direct (h : Stands clientType false phase course) (hbegun : phase ≠ .idle) :
    course.map Prod.fst ++ phase.underway = [.direct] ∧
      ∀ outcome, phase = .ended outcome → course = [(.direct, outcome)] := by
  cases h with
  | idle => exact absurd rfl hbegun
  | opening h =>
      obtain rfl := List.mem_singleton.mp h
      exact ⟨rfl, nofun⟩
  | opened h =>
      obtain rfl := List.mem_singleton.mp h
      refine ⟨rfl, ?_⟩
      rintro _ ⟨⟩
      simp [Attempt.handedOut]
  | replacing hfallback | replaced hfallback => exact absurd hfallback Bool.false_ne_true

end Stands

/-- **The course of a dispatch**, in every run of dispatches on a new pool, whatever the order of
their steps, the clock and the outcomes. Its attempts follow one another, each begun only when
the one before it has ended, and the end of the one that it waits for is always taken; when it
waits for none, it has ended.

On a pool with a fallback its attempts are one of five sequences. There is a second attempt if
and only if the first was an ordinary one on the primary that lost the connection. Handed out is
the outcome of the last attempt, but for a lost fallback.

Without a fallback there is one attempt, on the primary, its outcome is handed out as it is, and
nothing about the pool changes: no readiness, time of a loss, gauge or counter. -/
theorem System.course_of_run (clientType : String) (delay : Duration) (hasFallback : Bool)
    {count : Nat} (index : Fin count) (events : List (Readings × Event α)) :
    let system := (System.fresh (Pool.fresh clientType delay hasFallback) count).run events
    let made := system.attemptsOf index
    let course := system.course index
    ∃ phase, system.phases[index.val]? = some phase ∧
      made = course.map Prod.fst ++ phase.underway ∧
      (made = [] ↔ phase = .idle) ∧
      (∀ attempt now outcome, phase = .attempting attempt →
        (system.step now (.settle index outcome)).course index =
          course ++ [(attempt, outcome)]) ∧
      (phase ≠ .idle → phase.underway = [] → ∃ outcome, phase = .ended outcome) ∧
      (hasFallback = true →
        (phase ≠ .idle → made ∈ attemptSequences) ∧
        (2 ≤ made.length ↔ ∃ detail, course.head? =
          some (.ordinary .primary, .error (.disconnected detail))) ∧
        ∀ outcome, phase = .ended outcome → ∃ last result,
          course.getLast? = some (last, result) ∧
            outcome = last.handedOut clientType result) ∧
      (hasFallback = false →
        (phase ≠ .idle → made = [.direct] ∧ made.map Attempt.role = [.primary]) ∧
        (∀ outcome, phase = .ended outcome → course = [(.direct, outcome)]) ∧
        system.pool = Pool.fresh clientType delay false) := by
  intro system made course
  have hlength : system.phases.length = count := length_phases_run _ count events
  obtain ⟨phase, hphase⟩ : ∃ phase, system.phases[index.val]? = some phase :=
    ⟨_, List.getElem?_eq_getElem (hlength.symm ▸ index.isLt)⟩
  have hmakeup : system.pool.makeup = (Pool.fresh clientType delay hasFallback).makeup :=
    makeup_run _ events
  obtain ⟨hstands, hmade⟩ := orderly_run _ count events index phase hphase
  rw [Pool.clientType_eq hmakeup, Pool.hasFallback_eq hmakeup] at hstands
  change Stands clientType (Pool.fresh clientType delay hasFallback).hasFallback phase course
    at hstands
  change made = course.map Prod.fst ++ phase.underway at hmade
  refine ⟨phase, hphase, hmade, hmade ▸ hstands.made_eq_nil_iff, ?_, hstands.exists_ended,
    ?_, ?_⟩
  · rintro attempt now outcome rfl
    exact course_step_settle hphase now outcome
  · rintro rfl
    refine ⟨fun hbegun => hmade ▸ hstands.made_mem hbegun,
      hmade ▸ hstands.two_le_length_made_iff, fun outcome => hstands.getLast?_eq⟩
  · rintro rfl
    refine ⟨fun hbegun => ?_, ?_, pool_run_of_not_hasFallback clientType delay count events⟩
    · rw [hmade, (hstands.made_eq_direct hbegun).1]
      exact ⟨rfl, rfl⟩
    · rintro outcome rfl
      exact (hstands.made_eq_direct nofun).2 outcome rfl

end NodeGateway
