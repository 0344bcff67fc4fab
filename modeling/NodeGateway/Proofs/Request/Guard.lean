import NodeGateway.Request.Scope

/-!
# How a Guarded Request Ends

A guarded request is finished, or it runs into its deadline, or it is cancelled. Which of these
happens and when follows from the scope, and there is no fourth way (`Scope.guard_ends`). In all
three the request comes to its end between its start and its deadline (`Guarded.Ends.start_le`,
`Guarded.Ends.finish_le`); only one that starts when the deadline has passed ends behind it, and
then at its start.

A deadline that the scope brings along takes the place of the tier of the method, so with such a
scope the tier has no effect (`Scope.guard_congr_tier`). Only without one can a request panic, and
it does exactly if its tier reaches over the last instant (`Scope.guarded?_eq_none_iff`).
-/

namespace NodeGateway

/-- The ways in which a guarded request **ends**: with what its work ends in, with the fault of an
expired deadline, or with that of a cancellation. -/
inductive Guarded.Ends (method : String) (start deadline : Nat) (work : Answer α) :
    (finish : Nat) → Outcome α → Prop
  | finished (h : work.millis = 0 ∨ start + work.millis ≤ deadline) :
      Ends method start deadline work (start + work.millis) work.outcome
  | expired (h : deadline < start + work.millis) :
      Ends method start deadline work (max start deadline) (.error (deadlineExceeded method))
  | cancelled {instant : Nat} (hstart : start ≤ instant)
      (hdeadline : instant ≤ max start deadline) :
      Ends method start deadline work instant (.error .cancelled)

namespace Guarded.Ends

variable {method : String} {start deadline finish : Nat} {work : Answer α} {outcome : Outcome α}

/-- A request does not end before it starts. -/
theorem start_le (h : Ends method start deadline work finish outcome) : start ≤ finish := by
  cases h with
  | finished => exact Nat.le_add_right start _
  | expired => exact Nat.le_max_left start deadline
  | cancelled hstart => exact hstart

/-- A request ends by its deadline, or at its start if that comes later. -/
theorem finish_le (h : Ends method start deadline work finish outcome) :
    finish ≤ max start deadline := by
  cases h with
  | finished h => omega
  | expired => exact Nat.le_refl _
  | cancelled _ hdeadline => exact hdeadline

end Guarded.Ends

/-- Work that is bounded by a deadline only is finished or runs into it. -/
theorem Answer.bounded_ends (method : String) (start deadline : Nat) (work : Answer α) :
    Guarded.Ends method start deadline work (work.bounded method start deadline).finish
      (work.bounded method start deadline).outcome := by
  unfold bounded
  split
  case isTrue h => exact .finished h
  case isFalse h => exact .expired (by omega)

namespace Scope

/-- A request that is guarded up to a deadline ends in one of three ways. -/
theorem guardUntil_ends (scope : Scope) (method : String) (deadline start : Nat)
    (work : Answer α) :
    Guarded.Ends method start deadline work (scope.guardUntil method deadline start work).finish
      (scope.guardUntil method deadline start work).outcome := by
  have hbounded := work.bounded_ends method start deadline
  have hle := hbounded.finish_le
  rw [guardUntil]
  cases scope.token with
  | none => exact hbounded
  | some token =>
      dsimp only
      split
      case isTrue => exact .cancelled (Nat.le_refl start) (Nat.le_max_left ..)
      case isFalse hbefore =>
        simp only [Cancellation.isBefore, Bool.or_eq_true, decide_eq_true_eq, not_or,
          Nat.not_lt] at hbefore
        split
        case isTrue hprecedes =>
          simp only [Cancellation.precedes, Bool.or_eq_true, Bool.and_eq_true,
            decide_eq_true_eq] at hprecedes
          have hinstant : token.instant ≤ (work.bounded method start deadline).finish :=
            hprecedes.elim Nat.le_of_lt And.right
          exact .cancelled hbefore.1 (Nat.le_trans hinstant hle)
        case isFalse => exact hbounded

/-- **A guarded request ends** in one of three ways. -/
theorem guard_ends (scope : Scope) (method : String) (tier start : Nat) (work : Answer α) :
    Guarded.Ends method start (scope.deadline.getD (start + tier)) work
      (scope.guard method tier start work).finish (scope.guard method tier start work).outcome :=
  scope.guardUntil_ends method _ start work

/-- The tier of the method has no effect inside a scope with a deadline. -/
theorem guard_congr_tier {scope : Scope} {deadline : Nat} (h : scope.deadline = some deadline)
    (method : String) (tier other start : Nat) (work : Answer α) :
    scope.guard method tier start work = scope.guard method other start work := by
  simp only [guard, h, Option.getD_some]

/-! ### The last instant -/

section Last

variable {scope : Scope} {last tier start : Nat}

/-- The deadline of a request is that of the scope or lies the tier behind the start. -/
theorem deadline?_eq_some (h : scope.deadline = none → start + tier ≤ last) :
    scope.deadline? last tier start = some (scope.deadline.getD (start + tier)) := by
  rw [deadline?]
  cases hdeadline : scope.deadline with
  | some deadline => rfl
  | none => exact if_pos (h hdeadline)

/-- There is no deadline exactly if the scope has none and the tier reaches over the last
instant. -/
theorem deadline?_eq_none_iff :
    scope.deadline? last tier start = none ↔ scope.deadline = none ∧ last < start + tier := by
  rw [deadline?, Option.or_eq_none_iff, ite_eq_right_iff, ← Nat.not_le]
  simp

/-- A guarded request **panics** exactly if its scope has no deadline and its tier reaches over the
last instant. -/
theorem guarded?_eq_none_iff {method : String} {work : Answer α} :
    scope.guarded? last method tier start work = none ↔
      scope.deadline = none ∧ last < start + tier := by
  rw [guarded?, Option.map_eq_none_iff, deadline?_eq_none_iff]

/-- A request that does not panic ends as on a clock without a last instant. -/
theorem guarded?_eq_guard (h : scope.deadline = none → start + tier ≤ last) (method : String)
    (work : Answer α) :
    scope.guarded? last method tier start work = some (scope.guard method tier start work) := by
  rw [guarded?, deadline?_eq_some h, guard, Option.map_some]

end Last

/-- Less is left of a deadline than the tier of the method would grant. -/
example : ({ deadline := some 10 } : Scope).guard "call" 99 8
    ({ outcome := .ok 1, millis := 3 } : Answer Nat) =
      { finish := 10, outcome := .error (deadlineExceeded "call") } := rfl

end Scope

end NodeGateway
