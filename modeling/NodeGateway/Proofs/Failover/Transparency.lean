import Mathlib.Data.List.Induction
import NodeGateway.Proofs.Failover.Course

/-!
# Failover Is Transparent

A fallback that keeps answering hides the losses of the primary, whatever the reconnect delay, the
clock and the order in which concurrent dispatches take their steps. It stays ready, so nothing is
ever forced, and every dispatch hands out what one of its own attempts ended in.

If every attempt on the primary is lost, the primary is down once all dispatches have ended. A
recheck may make it ready in between, but only at the beginning of a dispatch, and then this very
dispatch asks it next (`System.Probed`); when the answer is a loss, the primary is down again.

## Main results

* `System.unforced_run`: a ready fallback and no forced attempt, after every run in which the
  fallback answers.
* `System.probed_run`: a ready primary is one that is being asked, or was never asked.
* `System.exists_answer_of_ended`: what a dispatch hands out is the answer of one of its attempts.
* `System.failover_transparent`: the first two, and what the dispatches hand out.
-/

namespace NodeGateway

namespace System

/-- No attempt on the fallback has lost the connection. -/
def FallbackAnswers (system : System α) : Prop :=
  ∀ ending ∈ system.endings, ending.attempt = .ordinary .fallback →
    ending.outcome.isDisconnected = false

/-- Every attempt on the primary that has ended has lost the connection. -/
def PrimaryLost (system : System α) : Prop :=
  ∀ ending ∈ system.endings, ending.attempt.role = .primary →
    ending.outcome.isDisconnected = true

/-- A fallback that answers after a step answered before it. -/
theorem Took.fallbackAnswers {now : Readings} {event : Event α} {system next : System α}
    (h : Took now event system next) (hanswers : next.FallbackAnswers) :
    system.FallbackAnswers :=
  fun ending hmem => hanswers ending (h.endings_mono.subset hmem)

/-- A primary that has only been lost after a step has only been lost before it. -/
theorem Took.primaryLost {now : Readings} {event : Event α} {system next : System α}
    (h : Took now event system next) (hlost : next.PrimaryLost) : system.PrimaryLost :=
  fun ending hmem => hlost ending (h.endings_mono.subset hmem)

/-! ### The fallback stays ready -/

/-- The fallback is ready, and no attempt was forced. -/
structure Unforced (system : System α) : Prop where
  isReady : system.pool.isReady .fallback = true
  not_mem : ∀ index, (index, Attempt.forced) ∉ system.attempts

/-- A ready fallback that answers stays ready: only the loss of an attempt on it could take it
down, and that would be written down. -/
theorem isReady_fallback_step {now : Readings} {event : Event α} {system : System α}
    (hready : system.pool.isReady .fallback = true)
    (hanswers : (system.step now event).FallbackAnswers) :
    (system.step now event).pool.isReady .fallback = true := by
  obtain ⟨r, hr, hready⟩ := Pool.isReady_iff.mp hready
  obtain ⟨r', hr', hchanges⟩ := step_changes now event system hr
  rw [Pool.isReady_eq hr']
  cases hchanges with
  | kept => exact hready
  | @lost index detail hevent hphase =>
      subst hevent
      have hmem : ⟨index, .ordinary .fallback, .error (.disconnected detail)⟩ ∈
          (system.step now (.settle index (.error (.disconnected detail)))).endings := by
        rw [endings_step_settle hphase]
        exact List.mem_append_right _ (List.mem_singleton.mpr rfl)
      exact absurd (hanswers _ hmem rfl) Bool.true_eq_false.mp
  | rechecked => rw [Readiness.recheck_of_ready hready, hready]
  | recovered => rfl

/-- A step of dispatches whose fallback answers forces nothing. -/
theorem unforced_step {now : Readings} {event : Event α} {system : System α}
    (h : system.Unforced) (hanswers : (system.step now event).FallbackAnswers) :
    (system.step now event).Unforced := by
  have hready := isReady_fallback_step h.isReady hanswers
  refine ⟨hready, ?_⟩
  have htook := step_took now event system
  generalize system.step now event = next at hready htook
  intro index hmem
  cases htook with
  | ignored | rechecked => exact h.not_mem index hmem
  | began =>
      rcases List.mem_append.mp hmem with hold | hnew
      · exact h.not_mem index hold
      · exact Pool.enter_ne_forced hready (Prod.mk.inj (List.mem_singleton.mp hnew)).2.symm
  | wentOn _ hsettled =>
      rcases List.mem_append.mp hmem with hold | hnew
      · exact h.not_mem index hold
      · have hforced := (Prod.mk.inj (List.mem_singleton.mp hnew)).2
        cases hsettled with
        | failover => exact Pool.choose_ne_forced hready hforced.symm
  | ended => exact h.not_mem index hmem

/-- **The fallback stays ready**, and nothing is forced, in every run of new dispatches in which it
answers, if it is ready at first. -/
theorem unforced_run_of_isReady {pool : Pool} (hready : pool.isReady .fallback = true) (count : Nat)
    (events : List (Readings × Event α)) :
    let system := (System.fresh pool count).run events
    system.FallbackAnswers → system.Unforced := by
  intro system
  refine run_induction (P := fun system => system.FallbackAnswers → system.Unforced)
    (fun _ => ⟨hready, fun _ => List.not_mem_nil⟩) ?_ events
  intro now event system ih hanswers
  exact unforced_step (ih ((step_took now event system).fallbackAnswers hanswers)) hanswers

/-- The fallback of a new pool is ready at first. -/
theorem unforced_run (clientType : String) (delay : Duration) (count : Nat)
    (events : List (Readings × Event α)) :
    let system := (System.fresh (Pool.fresh clientType delay true) count).run events
    system.FallbackAnswers → system.Unforced :=
  unforced_run_of_isReady rfl count events

/-! ### A ready primary is one that is being asked -/

/-- The primary is **probed**: if it is ready, either no dispatch has begun, or one of them waits
for an ordinary attempt on it. -/
def Probed (system : System α) : Prop :=
  system.pool.isReady .primary = true →
    (∀ phase ∈ system.phases, phase = .idle) ∨
      ∃ index : Nat, system.phases[index]? = some (.attempting (.ordinary .primary))

/-- The primary of dispatches that have not begun is yet to be probed. -/
theorem probed_fresh (pool : Pool) (count : Nat) :
    (System.fresh pool count : System α).Probed :=
  fun _ => .inl fun _ => List.eq_of_mem_replicate

/-- A dispatch that ends, but not on an answer of the primary, leaves the primary as it was and
was not waiting for an ordinary attempt on it. -/
theorem isReady_primary_of_settled {now : Readings} {pool next : Pool} {attempt : Attempt}
    {outcome result : Outcome α}
    (h : Pool.Settled now pool attempt outcome (.done result) next)
    (hlost : attempt.role = .primary → outcome.isDisconnected = true) :
    next.isReady .primary = pool.isReady .primary ∧ attempt ≠ .ordinary .primary := by
  cases h with
  | direct | forcedLost => exact ⟨rfl, nofun⟩
  | answered role _ h =>
      cases role with
      | primary => exact absurd ((hlost rfl).symm.trans h) Bool.true_eq_false.mp
      | fallback => exact ⟨rfl, nofun⟩
  | exhausted => exact ⟨rfl, nofun⟩
  | recovered _ h => exact absurd ((hlost rfl).symm.trans h) Bool.true_eq_false.mp

/-- A dispatch that goes on leaves the primary down. -/
theorem isReady_primary_of_retry {now : Readings} {pool next : Pool} {attempt replacement : Attempt}
    {outcome : Outcome α}
    (h : Pool.Settled now pool attempt outcome (.retry replacement) next) :
    next.isReady .primary = false := by
  cases h with
  | failover detail =>
      rw [Pool.isReady_eq (Pool.readiness?_primary _), Pool.primary_choose]
      rfl

/-- A step of dispatches that lose the primary each time keeps it probed. What makes the primary
ready is the beginning of a dispatch, which then asks it. -/
theorem Took.probed {now : Readings} {event : Event α} {system next : System α}
    (h : Took now event system next) (hevent : event ≠ .recheck)
    (hfallback : system.pool.hasFallback = true) (hlost : next.PrimaryLost)
    (hprobed : system.Probed) : next.Probed := by
  cases h with
  | ignored => exact hprobed
  | rechecked => exact absurd rfl hevent
  | @began index _ hidle =>
      intro hready
      refine .inr ⟨index, ?_⟩
      rw [phases_makeAttempt, Pool.enter_eq_primary hfallback hready,
        List.getElem?_set_self (List.getElem?_eq_some_iff.mp hidle).1]
  | wentOn _ hsettled =>
      intro hready
      exact absurd ((isReady_primary_of_retry hsettled).symm.trans hready) Bool.false_ne_true
  | @ended index _ attempt outcome _ pool hphase hsettled =>
      obtain ⟨hsame, hattempt⟩ := isReady_primary_of_settled hsettled
        (hlost ⟨index, attempt, outcome⟩ (List.mem_append_right _ (List.mem_singleton.mpr rfl)))
      intro hready
      rcases hprobed (hsame ▸ hready) with hidle | ⟨other, hother⟩
      -- The dispatch that ends has begun, so the probe belongs to another one.
      · exact absurd (hidle _ (List.mem_of_getElem? hphase)) nofun
      · refine .inr ⟨other, ?_⟩
        have hne : index ≠ other := by
          rintro rfl
          rw [hphase] at hother
          exact hattempt (Phase.attempting.inj (Option.some.inj hother))
        rw [phases_finish, List.getElem?_set_ne hne]
        exact hother

/-- **A ready primary is being probed**, in every run of dispatches on a new pool that lose the
primary each time, as long as nothing is rechecked from outside. -/
theorem probed_run (clientType : String) (delay : Duration) (count : Nat)
    (events : List (Readings × Event α)) (hevents : ∀ entry ∈ events, entry.2 ≠ .recheck) :
    let system := (System.fresh (Pool.fresh clientType delay true) count).run events
    system.PrimaryLost → system.Probed := by
  induction events using List.reverseRecOn with
  | nil => exact fun _ => probed_fresh _ count
  | append_singleton events entry ih =>
      intro system hlost
      obtain ⟨now, event⟩ := entry
      simp only [system, run_concat] at hlost ⊢
      have htook := step_took now event
        ((System.fresh (Pool.fresh clientType delay true) count).run events)
      have hmakeup := makeup_run (System.fresh (Pool.fresh clientType delay true) count) events
      exact htook.probed (hevents (now, event) (by simp))
        (Pool.hasFallback_eq hmakeup) hlost
        (ih (fun entry hmem => hevents entry (List.mem_append_left _ hmem))
          (htook.primaryLost hlost))

/-- Once all dispatches have ended, a primary that was probed is down. -/
theorem Probed.isReady_eq_false {system : System α} (h : system.Probed)
    (hended : ∀ phase ∈ system.phases, ∃ outcome, phase = .ended outcome)
    (hsome : system.phases ≠ []) : system.pool.isReady .primary = false := by
  refine Bool.eq_false_iff.mpr fun hready => ?_
  rcases h hready with hidle | ⟨index, hphase⟩
  · obtain ⟨phase, hmem⟩ := List.exists_mem_of_ne_nil _ hsome
    obtain ⟨outcome, rfl⟩ := hended phase hmem
    cases hidle _ hmem
  · obtain ⟨outcome, h⟩ := hended _ (List.mem_of_getElem? hphase)
    cases h

end System

/-! ### What is handed out -/

/-- The course of a dispatch that has ended, when nothing was forced and the fallback did not lose
the connection: it hands out the answer of the primary, or else that of the fallback. -/
theorem Stands.of_fallbackAnswers {clientType : String} {course : List (Attempt × Outcome α)}
    {result : Outcome α} (h : Stands clientType true (.ended result) course)
    (hforced : ∀ outcome, (.forced, outcome) ∉ course)
    (hanswers : ∀ outcome, (.ordinary .fallback, outcome) ∈ course →
      outcome.isDisconnected = false) :
    (course = [(.ordinary .primary, result)] ∧ result.isDisconnected = false) ∨
      course = [(.ordinary .fallback, result)] ∨
      ∃ detail, course = [(.ordinary .primary, .error (.disconnected detail)),
        (.ordinary .fallback, result)] := by
  cases h with
  | @opened attempt outcome h hlast =>
      rcases Pool.mem_openings.mp h with rfl | rfl | rfl
      · have houtcome := hlast rfl
        rw [Attempt.handedOut_eq_self fun _ => houtcome]
        exact .inl ⟨rfl, houtcome⟩
      · have houtcome := hanswers outcome (List.mem_singleton.mpr rfl)
        rw [Attempt.handedOut_eq_self fun _ => houtcome]
        exact .inr (.inl rfl)
      · exact absurd (List.mem_singleton.mpr rfl) (hforced outcome)
  | @replaced attempt detail outcome _ h =>
      rcases Pool.mem_replacements.mp h with rfl | rfl
      · have houtcome := hanswers outcome (by simp)
        rw [Attempt.handedOut_eq_self fun _ => houtcome]
        exact .inr (.inr ⟨detail, rfl⟩)
      · exact absurd (by simp) (hforced outcome)

/-- What a dispatch hands out is the answer of one of its attempts, if the fallback is ready at
first and never loses the connection. -/
theorem System.exists_answer_of_ended {pool : Pool} (hready : pool.isReady .fallback = true)
    (count : Nat) (events : List (Readings × Event α))
    (hanswers : ((System.fresh pool count).run events).FallbackAnswers) {index : Nat}
    {result : Outcome α}
    (hphase : ((System.fresh pool count).run events).phases[index]? = some (.ended result)) :
    result.isDisconnected = false ∧
      ∃ attempt, ⟨index, attempt, result⟩ ∈ ((System.fresh pool count).run events).endings := by
  have hunforced := System.unforced_run_of_isReady hready count events hanswers
  obtain ⟨hstands, hmade⟩ := System.orderly_run pool count events index _ hphase
  have hmakeup : ((System.fresh pool count).run events).pool.makeup = pool.makeup :=
    System.makeup_run _ events
  generalize (System.fresh pool count).run events = system at *
  rw [Pool.hasFallback_eq hmakeup, Pool.hasFallback_of_isReady hready] at hstands
  have hforced : ∀ outcome, (Attempt.forced, outcome) ∉ system.course index := by
    intro outcome hmem
    have hattempt : Attempt.forced ∈ system.attemptsOf index := by
      rw [hmade]
      exact List.mem_append_left _ (List.mem_map_of_mem hmem)
    exact hunforced.not_mem index (System.mem_attemptsOf.mp hattempt)
  have hfallback : ∀ outcome, (Attempt.ordinary .fallback, outcome) ∈ system.course index →
      outcome.isDisconnected = false :=
    fun outcome hmem => hanswers _ (System.mem_course.mp hmem) rfl
  rcases hstands.of_fallbackAnswers hforced hfallback with
    ⟨hcourse, hresult⟩ | hcourse | ⟨detail, hcourse⟩
  · exact ⟨hresult, _, System.mem_course.mp (hcourse ▸ List.mem_singleton.mpr rfl)⟩
  · have hlast : (Attempt.ordinary .fallback, result) ∈ system.course index := by simp [hcourse]
    exact ⟨hfallback result hlast, _, System.mem_course.mp hlast⟩
  · have hlast : (Attempt.ordinary .fallback, result) ∈ system.course index := by simp [hcourse]
    exact ⟨hfallback result hlast, _, System.mem_course.mp hlast⟩

/-- **Failover is transparent**: for any number of dispatches on a new pool with a fallback, in
every run of their steps, whatever the clock shows, in which no attempt on the fallback loses the
connection.

The fallback is ready all along and nothing is forced. A dispatch that has ended hands out the
answer of the primary if it got one, and otherwise that of the fallback, as it is.

If every attempt on the primary loses the connection, nothing is rechecked from outside and all
dispatches have ended, the primary is down, whatever the reconnect delay. -/
theorem System.failover_transparent (clientType : String) (delay : Duration) (count : Nat)
    (events : List (Readings × Event α)) :
    let fresh := System.fresh (Pool.fresh clientType delay true) count
    let system := fresh.run events
    system.FallbackAnswers →
      (∀ earlier, earlier <+: events → (fresh.run earlier).pool.isReady .fallback = true) ∧
      (∀ index, Attempt.forced ∉ system.attemptsOf index) ∧
      (∀ (index : Nat) result, system.phases[index]? = some (.ended result) →
        (system.course index = [(.ordinary .primary, result)] ∧
          result.isDisconnected = false) ∨
        system.course index = [(.ordinary .fallback, result)] ∨
        ∃ detail, system.course index = [(.ordinary .primary, .error (.disconnected detail)),
          (.ordinary .fallback, result)]) ∧
      (system.PrimaryLost → 0 < count → (∀ entry ∈ events, entry.2 ≠ .recheck) →
        (∀ phase ∈ system.phases, ∃ result, phase = .ended result) →
        system.pool.isReady .primary = false) := by
  intro fresh system hanswers
  have hunforced := unforced_run clientType delay count events hanswers
  refine ⟨?_, fun index hmem => hunforced.not_mem index (mem_attemptsOf.mp hmem), ?_, ?_⟩
  · rintro earlier ⟨later, rfl⟩
    have hearlier : (fresh.run earlier).FallbackAnswers := by
      intro ending hmem
      have hkept := (endings_mono_run (fresh.run earlier) later).subset hmem
      rw [← run_append] at hkept
      exact hanswers ending hkept
    exact (unforced_run clientType delay count earlier hearlier).isReady
  · intro index result hphase
    obtain ⟨hstands, hmade⟩ := orderly_run (Pool.fresh clientType delay true) count events index
      _ hphase
    have hmakeup := makeup_run fresh events
    rw [Pool.clientType_eq hmakeup, Pool.hasFallback_eq hmakeup] at hstands
    refine hstands.of_fallbackAnswers (fun outcome hmem => ?_) fun outcome hmem =>
      hanswers _ (mem_course.mp hmem) rfl
    have hforced : Attempt.forced ∈ system.attemptsOf index := by
      rw [hmade]
      exact List.mem_append_left _ (List.mem_map_of_mem hmem)
    exact hunforced.not_mem index (mem_attemptsOf.mp hforced)
  · intro hlost hcount hevents hended
    refine (probed_run clientType delay count events hevents hlost).isReady_eq_false hended ?_
    rw [← List.length_pos_iff, length_phases_run]
    exact hcount

/-- Without a reconnect delay, a dispatch that begins after the loss of the primary asks it
again, and the primary is down all the same when both have ended. -/
theorem System.failover_transparent_no_delay :
    let events : List (Readings × Event Nat) :=
      [((⟨0⟩ : Instant), .enter 0), ((⟨1⟩ : Instant), .settle 0 (.error (.disconnected "a"))),
        ((⟨2⟩ : Instant), .enter 1), ((⟨3⟩ : Instant), .settle 1 (.error (.disconnected "b"))),
        ((⟨4⟩ : Instant), .settle 0 (.ok 7)), ((⟨5⟩ : Instant), .settle 1 (.ok 8))]
    let system := (System.fresh (Pool.fresh "Beacon API" ⟨0⟩ true) 2).run events
    (system.attemptsOf 1 = [.ordinary .primary, .ordinary .fallback] ∧
      Attempt.forced ∉ system.attemptsOf 1) ∧ system.pool.isReady .primary = false := by
  intro events system
  have hanswers : system.FallbackAnswers := by
    unfold System.FallbackAnswers
    decide
  have hlost : system.PrimaryLost := by
    unfold System.PrimaryLost
    decide
  have hended : ∀ phase ∈ system.phases, ∃ result, phase = .ended result := by
    have hphases : system.phases = [.ended (.ok 7), .ended (.ok 8)] := rfl
    simp [hphases]
  obtain ⟨-, hforced, -, hdown⟩ :=
    System.failover_transparent "Beacon API" ⟨0⟩ 2 events hanswers
  exact ⟨⟨rfl, hforced 1⟩, hdown hlost Nat.zero_lt_two (by simp [events]) hended⟩

end NodeGateway
