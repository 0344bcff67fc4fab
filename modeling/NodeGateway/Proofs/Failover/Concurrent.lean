import NodeGateway.Failover.Concurrent
import NodeGateway.Proofs.Failover.Deadline

/-!
# Calls on a Clock Are Timed Dispatches

Calls that run at the same time on one clock dispatch their requests through one pool. Which of them
goes next is decided by when each has to be resumed; what is shown here does not depend on it. A
guarded call is a timed dispatch (`System.Timed`) at every moment: it waits for its beginning, or
for the end of an attempt that started at the instant of its last step, or it has ended
(`Timeline.Tracked`). So a call inside a deadline has ended by then (`Timeline.ended_le_deadline`).
-/

namespace NodeGateway

namespace Timeline

/-- The call that goes next is one of the calls, and it is resumed as it asked for. -/
theorem nextFrom_inv {offset index : Nat} {wake : Wake} {outcome : Option (Outcome α)}
    {calls : List (Running α)} (h : nextFrom offset calls = some (index, wake, outcome)) :
    ∃ place running, index = offset + place ∧ calls[place]? = some running ∧
      running.wake = some (wake, outcome) := by
  induction calls generalizing offset with
  | nil => cases h
  | cons first rest ih =>
      have hlater : nextFrom (offset + 1) rest = some (index, wake, outcome) →
          ∃ place running, index = offset + place ∧ (first :: rest)[place]? = some running ∧
            running.wake = some (wake, outcome) := fun hrest => by
        obtain ⟨place, running, rfl, hplace, hwake⟩ := ih hrest
        exact ⟨place + 1, running, by omega, hplace, hwake⟩
      rw [nextFrom] at h
      split at h
      · exact hlater h
      · next hwake _ =>
          cases h
          exact ⟨0, first, rfl, rfl, hwake⟩
      · next hwake hrest =>
          split at h
          · cases h
            exact ⟨0, first, rfl, rfl, hwake⟩
          · exact hlater (hrest.trans h)

/-- Asking for the next answer of an endpoint does not change the tier of a call. -/
theorem tier_answerOf (missing : Fault) (role : Role) (call : Call α) :
    (answerOf missing role call).2.tier = call.tier := by
  cases role <;> rfl

/-- Where a guarded call is in its dispatch. -/
inductive Tracked (origin system : System α) (index tier : Nat) (running : Running α) : Prop
  | waiting {wake : Wake} (hwake : running.wake = some (wake, none))
      (hidle : system.phases[index]? = some .idle)
  | attempting {wake : Wake} {instant : Nat} {attempt : Attempt} {work : Answer α}
      (htimed : System.Timed running.scope origin index running.began instant system)
      (hphase : system.phases[index]? = some (.attempting attempt))
      (hinstant : wake.instant = (running.scope.guard "fetch" tier instant work).finish)
      (hwake : running.wake =
        some (wake, some (running.scope.guard "fetch" tier instant work).outcome))
  | ended {result : Outcome α}
      (htimed : System.Timed running.scope origin index running.began running.ended system)
      (hphase : system.phases[index]? = some (.ended result)) (hwake : running.wake = none)

/-- A call is where it was when another one takes a step. -/
theorem Tracked.other {origin system : System α} {index tier : Nat} {running : Running α}
    (h : Tracked origin system index tier running) (now : Readings) {event : Event α}
    (hother : event.index? ≠ some index) :
    Tracked origin (system.step now event) index tier running := by
  obtain ⟨hphases, -, -⟩ := (System.step_took now event system).frame hother
  cases h with
  | waiting hwake hidle => exact .waiting hwake (hphases.trans hidle)
  | attempting htimed hphase hinstant hwake =>
      exact .attempting (htimed.other now hother) (hphases.trans hphase) hinstant hwake
  | ended htimed hphase hwake => exact .ended (htimed.other now hother) (hphases.trans hphase) hwake

/-- The calls on a clock are **tracked** if their dispatches take their steps in one run, and every
guarded call is where its dispatch is. -/
structure AllTracked (origin : System α) (timeline : Timeline α) : Prop where
  reached : ∃ events, timeline.system = origin.run events
  tracked : ∀ index running tier, timeline.calls[index]? = some running →
    running.call.tier = some tier → Tracked origin timeline.system index tier running

/-- Before any of them has begun, the calls are tracked. -/
theorem allTracked_start (pool : Pool) (clock : Clock) (missing : Fault) (calls : List (Call α)) :
    AllTracked (System.fresh pool calls.length) (start pool clock missing calls) where
  reached := ⟨[], rfl⟩
  tracked index running tier hcall _ := by
    rw [start, List.getElem?_map] at hcall
    obtain ⟨call, hmade, rfl⟩ := Option.map_eq_some_iff.mp hcall
    exact .waiting rfl (List.getElem?_replicate_of_lt (List.getElem?_eq_some_iff.mp hmade).1)

/-- How an attempt of a call **ends** that begins at an instant and whose endpoint answers so. -/
def endOf (now : Nat) (running : Running α) (answer : Answer α) : Guarded α :=
  match running.call.tier with
  | none => answer.unguarded now
  | some tier => running.scope.guard "fetch" tier now answer

/-- A call that goes on only changes itself, and it is where its dispatch is if that took a step of
its own at this instant. -/
theorem exists_follow (pool : Pool) (count index now : Nat) (running : Running α)
    (timeline : Timeline α) :
    ∃ next, (timeline.follow index now running).system = timeline.system ∧
      (timeline.follow index now running).calls = timeline.calls.set index next ∧
      ∀ tier, next.call.tier = some tier →
        (running.call.tier = some tier → System.Timed running.scope (System.fresh pool count) index
          running.began now timeline.system) →
            Tracked (System.fresh pool count) timeline.system index tier next := by
  unfold follow
  split
  · next attempt hphase =>
      let answered := answerOf timeline.missing attempt.role running.call
      let ended := endOf now running answered.1
      let wake : Wake := { instant := ended.finish, afterOthers := ended.afterOthers }
      refine ⟨{ running with call := answered.2, wake := some (wake, some ended.outcome) }, rfl,
        rfl, fun tier htier htimed => ?_⟩
      have hsame : running.call.tier = some tier :=
        (tier_answerOf timeline.missing attempt.role running.call).symm.trans htier
      have hended : ended = running.scope.guard "fetch" tier now answered.1 := by
        simp only [ended, endOf, hsame]
      exact .attempting (htimed hsame) hphase (congrArg Guarded.finish hended) (by rw [← hended])
  · next hphase =>
      refine ⟨_, rfl, rfl, fun tier htier htimed => ?_⟩
      have hnone : ¬ ∃ attempt, timeline.system.phases[index]? = some (.attempting attempt) := by
        rintro ⟨attempt, h⟩
        exact hphase attempt h
      obtain ⟨result, hended⟩ := (htimed htier).exists_phase.resolve_left hnone
      exact .ended (htimed htier) hended rfl

section Resume

variable {pool : Pool} {count index : Nat} {timeline : Timeline α}

/-- Calls stay tracked when one of them takes a step that is one of its dispatch. -/
theorem AllTracked.followed (h : AllTracked (System.fresh pool count) timeline) (now : Readings)
    {event : Event α} (hevent : event.index? = some index) (clock : Clock) (instant : Nat)
    (running : Running α)
    (htimed : ∀ tier, running.call.tier = some tier → System.Timed running.scope
      (System.fresh pool count) index running.began instant (timeline.system.step now event)) :
    AllTracked (System.fresh pool count) (follow index instant running
      { timeline with system := timeline.system.step now event, clock := clock }) := by
  obtain ⟨events, hrun⟩ := h.reached
  obtain ⟨next, hsystem, hcalls, hnext⟩ := exists_follow pool count index instant running
    { timeline with system := timeline.system.step now event, clock := clock }
  refine ⟨⟨events ++ [(now, event)], ?_⟩, fun other found tier hfound htier => ?_⟩
  · rw [hsystem, System.run_concat, ← hrun]
  rw [hcalls] at hfound
  rw [hsystem]
  by_cases hother : other = index
  · subst hother
    have hlt := (List.getElem?_eq_some_iff.mp hfound).1
    rw [List.length_set] at hlt
    obtain rfl := Option.some.inj ((List.getElem?_set_self hlt).symm.trans hfound)
    exact hnext tier htier (htimed tier)
  · rw [List.getElem?_set_ne (Ne.symm hother)] at hfound
    refine (h.tracked other found tier hfound htier).other now fun heq => hother ?_
    exact Option.some.inj (heq.symm.trans hevent)

/-- Calls stay tracked when one of them is resumed. -/
theorem AllTracked.resume (h : AllTracked (System.fresh pool count) timeline) {wake : Wake}
    {outcome : Option (Outcome α)}
    (hnext : nextFrom 0 timeline.calls = some (index, wake, outcome)) :
    AllTracked (System.fresh pool count) (timeline.resume index wake outcome) := by
  obtain ⟨place, running, hindex, hcall, hwake⟩ := nextFrom_inv hnext
  rw [Nat.zero_add] at hindex
  subst hindex
  obtain ⟨events, hrun⟩ := h.reached
  unfold Timeline.resume
  rw [hcall]
  cases outcome with
  | none =>
      refine h.followed _ rfl _ _ _ fun tier htier => ?_
      cases h.tracked _ _ tier hcall htier with
      | waiting _ hidle =>
          rw [hrun] at hidle ⊢
          exact .begun events _ hidle
      | attempting _ _ _ hother => exact nomatch hwake.symm.trans hother
      | ended _ _ hother => exact nomatch hwake.symm.trans hother
  | some outcome =>
      refine h.followed _ rfl _ _ _ fun tier htier => ?_
      cases h.tracked _ _ tier hcall htier with
      | waiting hother => exact nomatch hwake.symm.trans hother
      | attempting htimed hphase hinstant hother =>
          obtain ⟨rfl, houtcome⟩ := Prod.mk.inj (Option.some.inj (hwake.symm.trans hother))
          obtain rfl := Option.some.inj houtcome
          rw [hinstant]
          exact htimed.attempted hphase _ "fetch" tier _
      | ended _ _ hother => exact nomatch hwake.symm.trans hother

end Resume

/-- Guarded calls are timed dispatches, at every moment of a run. -/
theorem allTracked_runFor (pool : Pool) (clock : Clock) (missing : Fault) (calls : List (Call α))
    (steps : Nat) :
    AllTracked (System.fresh pool calls.length)
      ((start pool clock missing calls).runFor steps) := by
  have hstart := allTracked_start pool clock missing calls
  generalize start pool clock missing calls = timeline at hstart ⊢
  induction steps generalizing timeline with
  | zero => exact hstart
  | succ steps ih =>
      rw [runFor]
      split
      · exact hstart
      · next hnext => exact ih _ (hstart.resume hnext)

/-- **A call inside a deadline has ended by then**, or at its beginning if that comes later, in
every run of calls at the same time, whatever the endpoints answer and however long they take. -/
theorem ended_le_deadline (pool : Pool) (clock : Clock) (missing : Fault) (calls : List (Call α))
    (steps : Nat) {index tier deadline : Nat} {running : Running α}
    (hcall : ((start pool clock missing calls).runFor steps).calls[index]? = some running)
    (htier : running.call.tier = some tier) (hdeadline : running.scope.deadline = some deadline)
    (hended : running.wake = none) :
    running.ended ≤ max running.began deadline := by
  have hall := allTracked_runFor pool clock missing calls steps
  cases hall.tracked index running tier hcall htier with
  | waiting hwake | attempting _ _ _ hwake => exact nomatch hended.symm.trans hwake
  | ended htimed => exact htimed.le_deadline hdeadline

end Timeline

end NodeGateway
