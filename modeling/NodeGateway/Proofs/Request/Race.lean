import Mathlib.Data.Finset.Sort
import Mathlib.Data.Prod.Lex
import NodeGateway.Proofs.Request.Guard
import NodeGateway.Settings.DurationText

/-!
# A Guarded Request as a Race of Polls

A guard does not know beforehand how its request ends. It is polled: at the start, whenever one of
the three events it waits for wakes it, and now and then for no reason. At each poll it looks at
the token first, then at the work, and at the deadline last, and it ends with the first of them
that is ready (`Race.run`). `Scope.guarded?` has one formula for the end, and none if the request
panics before there is anything to poll. The two agree for every schedule of polls that misses no
wake-up, and the order of three moments says which event wins (`Scope.guarded_of_polls`).

At one instant the finished work and the deadline are polled before a token that is cancelled only
there, so a **moment** is an instant together with the place inside it.

## Main definitions

* `Moment`, ordered lexicographically, and `Cancellation.moment`;
* `Race`, what a guard waits for, and `Race.run`, its polls;
* `Race.IsSchedule`, the lists of polls that miss no wake-up.
-/

namespace NodeGateway

/-- A **moment** of a run: an instant, and whether it lies behind everything else there. -/
abbrev Moment := Nat ×ₗ Bool

/-- The instant of a moment. -/
def Moment.instant (moment : Moment) : Nat := (ofLex moment).1

/-- The moment of an instant at which work and timers are polled. -/
def Moment.at (instant : Nat) : Moment := toLex (instant, false)

/-- The moment from which on a poll sees that a token is cancelled. -/
def Cancellation.moment (c : Cancellation) : Moment := toLex (c.instant, !c.first)

/-! ### The order of moments -/

namespace Moment

@[simp] theorem instant_at (instant : Nat) : (Moment.at instant).instant = instant := rfl

theorem instant_le_of_le {moment other : Moment} (h : moment ≤ other) :
    moment.instant ≤ other.instant :=
  (Prod.Lex.le_iff.mp h).elim Nat.le_of_lt fun heq => Nat.le_of_eq heq.1

/-- Nothing of an instant comes before its polls of work and timers. -/
theorem lt_at_iff {moment : Moment} {instant : Nat} :
    moment < .at instant ↔ moment.instant < instant := by
  rw [Prod.Lex.lt_iff]
  constructor
  · rintro (hlt | ⟨-, hplace⟩)
    · exact hlt
    · exact absurd hplace not_lt_bot
  · exact .inl

theorem instant_max (moment other : Moment) :
    (max moment other).instant = max moment.instant other.instant := by
  rcases le_total moment other with hle | hle
  · rw [max_eq_right hle, max_eq_right (instant_le_of_le hle)]
  · rw [max_eq_left hle, max_eq_left (instant_le_of_le hle)]

theorem at_le_iff {moment : Moment} {instant : Nat} :
    .at instant ≤ moment ↔ instant ≤ moment.instant := by
  rw [← not_lt, lt_at_iff, Nat.not_lt]

end Moment

namespace Cancellation

@[simp] theorem instant_moment (c : Cancellation) : c.moment.instant = c.instant := rfl

theorem moment_le_at_iff (c : Cancellation) (instant : Nat) :
    c.moment ≤ .at instant ↔ c.instant < instant ∨ (c.first = true ∧ c.instant ≤ instant) := by
  rw [Prod.Lex.le_iff]
  obtain ⟨_, first⟩ := c
  cases first with
  | true => simp [moment, Moment.at, Nat.le_iff_lt_or_eq]
  | false => simp [moment, Moment.at]

theorem isBefore_iff (c : Cancellation) (start : Nat) :
    c.isBefore start = true ↔ c.moment ≤ .at start := by
  simp [isBefore, moment_le_at_iff]

theorem precedes_iff (c : Cancellation) (finish : Nat) :
    c.precedes finish = true ↔ c.moment ≤ .at finish := by
  simp [precedes, moment_le_at_iff]

end Cancellation

/-! ### Work with a deadline -/

namespace Answer

variable {α : Type} (work : Answer α) {method : String} {start deadline : Nat}

theorem begun_bounded (method : String) (start deadline : Nat) :
    (work.bounded method start deadline).begun = true := by
  unfold bounded
  split <;> rfl

/-- A deadline does not pass for a lost connection. -/
theorem outcome_of_isDisconnected_bounded
    (h : (work.bounded method start deadline).outcome.isDisconnected = true) :
    (work.bounded method start deadline).outcome = work.outcome ∧
      work.outcome.isDisconnected = true := by
  unfold bounded at h ⊢
  split at h
  case isTrue hinTime => exact ⟨by rw [if_pos hinTime]; rfl, h⟩
  case isFalse => cases h

end Answer

/-! ### Polls -/

/-- A **race** between a token, the work and a deadline, which a guard watches. -/
structure Race (α : Type) where
  method : String
  start : Nat
  deadline : Nat
  token : Option Cancellation
  work : Answer α

/-- The race that a guard watches inside a scope, up to a deadline. -/
def Scope.race (scope : Scope) (method : String) (deadline start : Nat) (work : Answer α) :
    Race α :=
  { method, start, deadline, token := scope.token, work }

namespace Race

variable {α : Type}

/-- How the polls of a race **end**: when, with what, and whether the work was polled at all. -/
structure Ending (α : Type) where
  moment : Moment
  outcome : Outcome α
  begun : Bool

/-- Whether a poll sees that the token is cancelled. -/
def isCancelled (race : Race α) (moment : Moment) : Prop :=
  ∃ token ∈ race.token, token.moment ≤ moment

instance (race : Race α) (moment : Moment) : Decidable (race.isCancelled moment) :=
  inferInstanceAs (Decidable (∃ token ∈ race.token, token.moment ≤ moment))

/-- What a poll gets from the work, or else from the deadline. -/
def answer? (race : Race α) (moment : Moment) : Option (Outcome α) :=
  if race.start + race.work.millis ≤ moment.instant then some race.work.outcome
  else if race.deadline ≤ moment.instant then some (.error (deadlineExceeded race.method))
  else none

/-- **Polls** a race until it is ready. -/
def run (race : Race α) : (begun : Bool) → List Moment → Option (Ending α)
  | _, [] => none
  | begun, moment :: later =>
    if race.isCancelled moment then some { moment, outcome := .error .cancelled, begun }
    else match race.answer? moment with
      | some outcome => some { moment, outcome, begun := true }
      | none => race.run true later

/-- The moments at which a race wakes its guard. -/
def wakeUps (race : Race α) : List Moment :=
  [.at (race.start + race.work.millis), .at race.deadline] ++
    race.token.toList.map Cancellation.moment

/-- A list of polls is a **schedule** of a race if it is in order, begins at the start and misses
no later wake-up. Further polls are free. -/
structure IsSchedule (race : Race α) (polls : List Moment) : Prop where
  sorted : polls.Pairwise (· < ·)
  start_le : ∀ moment ∈ polls, .at race.start ≤ moment
  start_mem : .at race.start ∈ polls
  wakeUp_mem : ∀ moment ∈ race.wakeUps, .at race.start ≤ moment → moment ∈ polls

/-- Every race has a schedule. -/
theorem exists_isSchedule (race : Race α) : ∃ polls, race.IsSchedule polls := by
  let wanted := (Moment.at race.start :: race.wakeUps).filter (.at race.start ≤ ·)
  refine ⟨wanted.toFinset.sort (· ≤ ·), ?_, ?_, ?_, ?_⟩
  · exact (wanted.toFinset.sortedLT_sort).pairwise
  · intro moment hmem
    have hfilter : moment ∈ wanted := by simpa using hmem
    simpa using (List.mem_filter.mp hfilter).2
  · simp [wanted]
  · intro moment hmem hle
    simp [wanted, hmem, hle]

/-! ### The first poll that is ready -/

variable {race : Race α} {moment : Moment} {polls : List Moment}

theorem isCancelled_mono {other : Moment} (hle : moment ≤ other) (h : race.isCancelled moment) :
    race.isCancelled other := by
  obtain ⟨token, htoken, hmoment⟩ := h
  exact ⟨token, htoken, hmoment.trans hle⟩

/-- A poll is **pending** if it finds neither a cancelled token nor an answer. -/
def IsPending (race : Race α) (moment : Moment) : Prop :=
  ¬ race.isCancelled moment ∧ race.answer? moment = none

theorem run_cons_of_isPending (h : race.IsPending moment) (begun : Bool) :
    race.run begun (moment :: polls) = race.run true polls := by
  simp only [run, if_neg h.1, h.2]

/-- Pending polls only begin the work. -/
theorem run_append_of_isPending {before : List Moment}
    (h : ∀ moment ∈ before, race.IsPending moment) (begun : Bool) :
    race.run begun (before ++ polls) = race.run (begun || !before.isEmpty) polls := by
  induction before generalizing begun with
  | nil => simp
  | cons first before ih =>
      rw [List.forall_mem_cons] at h
      rw [List.cons_append, run_cons_of_isPending h.1, ih h.2]
      simp

/-- A schedule is run up to the first moment that is not pending. -/
theorem IsSchedule.run_eq (hpolls : race.IsSchedule polls) (hmem : moment ∈ polls)
    (hpending : ∀ earlier, .at race.start ≤ earlier → earlier < moment → race.IsPending earlier) :
    ∃ later, race.run false polls =
      race.run (decide (.at race.start < moment)) (moment :: later) := by
  obtain ⟨before, later, rfl⟩ := List.append_of_mem hmem
  have hsplit := List.pairwise_append.mp hpolls.sorted
  have hbefore : ∀ earlier ∈ before, earlier < moment := fun earlier hearlier =>
    hsplit.2.2 earlier hearlier moment List.mem_cons_self
  have hempty : (!before.isEmpty) = decide (Moment.at race.start < moment) := by
    rw [Bool.eq_iff_iff, decide_eq_true_eq]
    cases before with
    | nil =>
        have hstart : .at race.start ∈ moment :: later := hpolls.start_mem
        have hle : moment ≤ .at race.start := by
          rcases List.mem_cons.mp hstart with heq | hlater
          · exact heq.ge
          · exact (List.rel_of_pairwise_cons hsplit.2.1 hlater).le
        simpa using hle
    | cons first before =>
        have hfirst := hpolls.start_le first (by simp)
        simpa using hfirst.trans_lt (hbefore first List.mem_cons_self)
  refine ⟨later, ?_⟩
  rw [run_append_of_isPending, Bool.false_or, hempty]
  intro earlier hearlier
  exact hpending earlier (hpolls.start_le earlier (by simp [hearlier])) (hbefore earlier hearlier)

/-! ### What ends a race -/

/-- The instant at which a race is **due**: it ends there unless it is cancelled. Work that does not
have to wait is finished at its first poll even if the deadline has passed. -/
def due (race : Race α) : Nat :=
  if race.work.millis = 0 ∨ race.start + race.work.millis ≤ race.deadline then
    race.start + race.work.millis
  else max race.start race.deadline

theorem finish_bounded (race : Race α) :
    (race.work.bounded race.method race.start race.deadline).finish = race.due := by
  unfold Answer.bounded due
  split <;> rfl

theorem start_le_due (race : Race α) : race.start ≤ race.due := by
  unfold due
  split <;> omega

theorem answer?_due (race : Race α) :
    race.answer? (.at race.due) =
      some (race.work.bounded race.method race.start race.deadline).outcome := by
  unfold answer? Answer.bounded due
  rw [Moment.instant_at]
  split
  case isTrue => rw [if_pos (Nat.le_refl _)]; rfl
  case isFalse h => rw [if_neg (by omega), if_pos (by omega)]

theorem answer?_of_lt_due (hstart : .at race.start ≤ moment) (hdue : moment < .at race.due) :
    race.answer? moment = none := by
  rw [Moment.at_le_iff] at hstart
  rw [Moment.lt_at_iff] at hdue
  have hwork : ¬ race.start + race.work.millis ≤ moment.instant := by
    intro hle
    unfold due at hdue
    split at hdue <;> omega
  have hdeadline : ¬ race.deadline ≤ moment.instant := by
    intro hle
    unfold due at hdue
    split at hdue <;> omega
  rw [answer?, if_neg hwork, if_neg hdeadline]

theorem IsSchedule.due_mem (hpolls : race.IsSchedule polls) : .at race.due ∈ polls := by
  by_cases hstart : race.due = race.start
  · rw [hstart]
    exact hpolls.start_mem
  · refine hpolls.wakeUp_mem _ ?_ (Moment.at_le_iff.mpr race.start_le_due)
    have hwake : race.due = race.start + race.work.millis ∨ race.due = race.deadline := by
      unfold due at hstart ⊢
      split_ifs at hstart ⊢ <;> omega
    rcases hwake with hwork | hdeadline
    · simp [wakeUps, hwork]
    · simp [wakeUps, hdeadline]

/-- A race that is not cancelled when it is due ends there. -/
theorem IsSchedule.run_of_not_isCancelled (hpolls : race.IsSchedule polls)
    (h : ¬ race.isCancelled (.at race.due)) :
    race.run false polls = some ⟨.at race.due,
      (race.work.bounded race.method race.start race.deadline).outcome, true⟩ := by
  obtain ⟨later, hrun⟩ := hpolls.run_eq hpolls.due_mem fun earlier hstart hlt =>
    ⟨fun hcancelled => h (isCancelled_mono hlt.le hcancelled), answer?_of_lt_due hstart hlt⟩
  simp only [hrun, run, if_neg h, answer?_due]

/-- A race that is cancelled by the moment it is due ends with the cancellation, or at its start
if that comes later. Only in the first case is the work begun. -/
theorem IsSchedule.run_of_moment_le (hpolls : race.IsSchedule polls) {token : Cancellation}
    (htoken : race.token = some token) (hdue : token.moment ≤ .at race.due) :
    race.run false polls = some ⟨max (.at race.start) token.moment, .error .cancelled,
      decide (.at race.start < token.moment)⟩ := by
  have hmem : max (.at race.start) token.moment ∈ polls := by
    rcases le_total token.moment (.at race.start) with hle | hle
    · rw [max_eq_left hle]
      exact hpolls.start_mem
    · rw [max_eq_right hle]
      exact hpolls.wakeUp_mem _ (by simp [wakeUps, htoken]) hle
  obtain ⟨later, hrun⟩ := hpolls.run_eq hmem fun earlier hstart hlt => by
    have hearlier : earlier < token.moment := (lt_max_iff.mp hlt).resolve_left hstart.not_gt
    refine ⟨?_, answer?_of_lt_due hstart (hearlier.trans_le hdue)⟩
    rintro ⟨other, hother, hle⟩
    obtain rfl : token = other := Option.some.inj (htoken.symm.trans hother)
    exact absurd hle hearlier.not_ge
  have hcancelled : race.isCancelled (max (.at race.start) token.moment) :=
    ⟨token, htoken, le_max_right _ _⟩
  rw [hrun, run, if_pos hcancelled]
  simp only [lt_max_iff, lt_irrefl, false_or]

end Race

/-! ### The formula of the guard -/

namespace Scope

variable {α : Type} (scope : Scope) (method : String) (deadline start : Nat) (work : Answer α)

/-- A request that is not cancelled when it is due ends as its deadline lets it. -/
theorem guardUntil_of_not_isCancelled
    (h : ¬ (scope.race method deadline start work).isCancelled
      (.at (scope.race method deadline start work).due)) :
    scope.guardUntil method deadline start work = work.bounded method start deadline := by
  let race := scope.race method deadline start work
  rw [guardUntil]
  cases htoken : scope.token with
  | none => rfl
  | some token =>
      have hdue : ¬ token.moment ≤ .at race.due := fun hle => h ⟨token, htoken, hle⟩
      have hstart : ¬ token.moment ≤ .at start := fun hle =>
        hdue (hle.trans (Moment.at_le_iff.mpr race.start_le_due))
      rw [← race.finish_bounded, ← Cancellation.precedes_iff] at hdue
      rw [← Cancellation.isBefore_iff] at hstart
      dsimp only
      rw [if_neg hstart]
      exact if_neg hdue

/-- A request whose token is cancelled by the moment it is due is cancelled. -/
theorem guardUntil_of_moment_le {token : Cancellation} (htoken : scope.token = some token)
    (hdue : token.moment ≤ .at (scope.race method deadline start work).due) :
    (scope.guardUntil method deadline start work).outcome = .error .cancelled ∧
    (scope.guardUntil method deadline start work).finish = max start token.instant ∧
    (scope.guardUntil method deadline start work).begun = decide (.at start < token.moment) := by
  let race := scope.race method deadline start work
  rw [guardUntil, htoken]
  dsimp only
  by_cases hstart : token.moment ≤ .at start
  · have hinstant : token.instant ≤ start := by simpa using Moment.instant_le_of_le hstart
    rw [if_pos ((token.isBefore_iff start).mpr hstart)]
    refine ⟨rfl, (max_eq_left hinstant).symm, ?_⟩
    simpa using hstart
  · have hinstant : start ≤ token.instant := by
      simpa using Moment.instant_le_of_le (not_le.mp hstart).le
    have hfinish : (work.bounded method start deadline).finish = race.due := race.finish_bounded
    have hprecedes : token.precedes (work.bounded method start deadline).finish = true := by
      rw [Cancellation.precedes_iff, hfinish]
      exact hdue
    rw [if_neg (mt (token.isBefore_iff start).mp hstart), if_pos hprecedes]
    refine ⟨rfl, (max_eq_right hinstant).symm, ?_⟩
    simpa using hstart

/-- Every schedule of polls finds the end of a guarded request. -/
theorem run_race {polls : List Moment}
    (hpolls : (scope.race method deadline start work).IsSchedule polls) :
    ∃ ending, (scope.race method deadline start work).run false polls = some ending ∧
      ending.moment.instant = (scope.guardUntil method deadline start work).finish ∧
      ending.outcome = (scope.guardUntil method deadline start work).outcome ∧
      ending.begun = (scope.guardUntil method deadline start work).begun := by
  let race := scope.race method deadline start work
  by_cases hcancelled : race.isCancelled (.at race.due)
  · obtain ⟨token, htoken, hdue⟩ := hcancelled
    obtain ⟨houtcome, hfinish, hbegun⟩ :=
      scope.guardUntil_of_moment_le method deadline start work htoken hdue
    refine ⟨_, hpolls.run_of_moment_le htoken hdue, ?_, houtcome.symm, hbegun.symm⟩
    rw [hfinish]
    exact Moment.instant_max _ _
  · have hguard := scope.guardUntil_of_not_isCancelled method deadline start work hcancelled
    refine ⟨_, hpolls.run_of_not_isCancelled hcancelled, ?_, ?_, ?_⟩
    · rw [hguard]
      exact race.finish_bounded.symm
    · rw [hguard]
      rfl
    · rw [hguard]
      exact (work.begun_bounded _ _ _).symm

/-- How the guard of a race **ends**, given the race and the end. -/
structure Explains (race : Race α) (ended : Guarded α) : Prop where
  /-- Every schedule of polls finds this end. -/
  found : ∀ polls, race.IsSchedule polls → ∃ ending, race.run false polls = some ending ∧
    ending.moment.instant = ended.finish ∧ ending.outcome = ended.outcome ∧
      ending.begun = ended.begun
  /-- If the token is cancelled by the moment the race is due, the request is cancelled, at its
  start or when the token is. It is not begun if the token is cancelled by its start. -/
  cancelled : ∀ token, race.token = some token → token.moment ≤ .at race.due →
    ended.outcome = .error .cancelled ∧ ended.finish = max race.start token.instant ∧
      (ended.begun = false ↔ token.moment ≤ .at race.start)
  /-- Otherwise it ends with what its work ends in, if that comes by the deadline or at the first
  poll, and else with a timeout that names the method. -/
  kept : ¬ race.isCancelled (.at race.due) → ended.begun = true ∧
    if race.work.millis = 0 ∨ race.start + race.work.millis ≤ race.deadline then
      ended.outcome = race.work.outcome ∧ ended.finish = race.start + race.work.millis
    else
      ended.outcome = .error (.timeout (race.method ++ " exceeded its deadline")) ∧
        ended.finish = max race.start race.deadline
  /-- A lost connection is one that the work has lost. -/
  lost : ended.outcome.isDisconnected = true →
    ended.outcome = race.work.outcome ∧ race.work.outcome.isDisconnected = true

/-- The formula gives the end of the race up to the same deadline. -/
theorem explains_guardUntil :
    Explains (scope.race method deadline start work)
      (scope.guardUntil method deadline start work) where
  found _ hpolls := scope.run_race method deadline start work hpolls
  cancelled token htoken hdue := by
    obtain ⟨houtcome, hfinish, hbegun⟩ :=
      scope.guardUntil_of_moment_le method deadline start work htoken hdue
    refine ⟨houtcome, hfinish, ?_⟩
    simp [hbegun, race]
  kept hcancelled := by
    rw [scope.guardUntil_of_not_isCancelled method deadline start work hcancelled]
    refine ⟨work.begun_bounded _ _ _, ?_⟩
    rw [Answer.bounded]
    dsimp only [race]
    split
    case isTrue => exact ⟨rfl, rfl⟩
    case isFalse => exact ⟨rfl, rfl⟩
  lost hlost := by
    let race := scope.race method deadline start work
    by_cases hcancelled : race.isCancelled (.at race.due)
    · obtain ⟨token, htoken, hdue⟩ := hcancelled
      rw [(scope.guardUntil_of_moment_le method deadline start work htoken hdue).1] at hlost
      cases hlost
    · rw [scope.guardUntil_of_not_isCancelled method deadline start work hcancelled] at hlost ⊢
      exact work.outcome_of_isDisconnected_bounded hlost

/-- **A guarded request**, for every tier, scope, start and work. If its scope has no deadline and
the tier reaches over the last instant, it panics. In all other cases it comes to an end, and this
is the end that the race up to its deadline has: that of the scope, whether earlier or later than
the tier, or else the instant that lies the tier behind the start. -/
theorem guarded_of_polls (scope : Scope) (method : String) (last tier start : Nat)
    (work : Answer α) :
    (scope.deadline = none ∧ last < start + tier →
      scope.guarded? last method tier start work = none) ∧
    (¬ (scope.deadline = none ∧ last < start + tier) →
      ∃ ended, scope.guarded? last method tier start work = some ended ∧
        Explains (scope.race method (scope.deadline.getD (start + tier)) start work) ended) := by
  refine ⟨guarded?_eq_none_iff.mpr, fun hdeadline => ⟨_, guarded?_eq_guard ?_ method work, ?_⟩⟩
  · intro hnone
    exact Nat.not_lt.mp fun hlast => hdeadline ⟨hnone, hlast⟩
  · exact scope.explains_guardUntil method _ start work

/-- A call of five milliseconds that starts at the third is cancelled behind everything else of the
sixth. The poll at the fifth instant was for nothing. -/
theorem guarded_of_polls_cancelled :
    let scope : Scope := { token := some { instant := 6, first := false } }
    let work : Answer Nat := { outcome := .ok 1, millis := 5 }
    let polls : List Moment := [.at 3, .at 5, toLex (6, true), .at 8, .at 13]
    let race := scope.race "eth_call" 13 3 work
    race.IsSchedule polls ∧ ∃ ended, scope.guarded? lastInstant "eth_call" 10 3 work = some ended ∧
      ended.outcome = .error .cancelled ∧ ended.finish = 6 ∧ ended.begun = true ∧
      ∃ ending, race.run false polls = some ending ∧ ending.moment.instant = 6 := by
  intro scope work polls race
  have hpolls : race.IsSchedule polls := by
    constructor <;> decide
  obtain ⟨ended, hended, hexplains⟩ :=
    (scope.guarded_of_polls "eth_call" lastInstant 10 3 work).2 (by decide)
  obtain ⟨houtcome, hfinish, hbegun⟩ := hexplains.cancelled ⟨6, false⟩ rfl (by decide)
  obtain ⟨ending, hending, hmoment, -, -⟩ := hexplains.found polls hpolls
  refine ⟨hpolls, ended, hended, houtcome, hfinish, ?_, ending, hending, hmoment.trans hfinish⟩
  rw [← Bool.not_eq_false, hbegun]
  decide

/-- **A tier may reach too far.** Settings may hold a duration over which every start reaches behind
the last instant. A request with this tier panics outside scopes, even if it would be finished at
its first poll. -/
theorem guarded?_behind_last :
    let tier : Duration := .ofSeconds 18446744073709551615
    let work : Answer Nat := { outcome := .ok 1 }
    let scope : Scope := {}
    Duration.read "18446744073709551615s" = .ok tier ∧
      scope.guarded? lastInstant "eth_chainId" tier.ceilMillis 0 work = none ∧
      ¬ ∃ ended, scope.guarded? lastInstant "eth_chainId" tier.ceilMillis 0 work = some ended ∧
        ended.outcome = work.outcome ∧ ended.finish = 0 := by
  intro tier work scope
  have hpanic : scope.guarded? lastInstant "eth_chainId" tier.ceilMillis 0 work = none := by
    decide
  refine ⟨by decide, hpanic, ?_⟩
  rintro ⟨ended, hended, -⟩
  exact nomatch hpanic.symm.trans hended

end Scope

end NodeGateway
