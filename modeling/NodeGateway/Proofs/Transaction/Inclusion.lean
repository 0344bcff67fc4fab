import Mathlib.Logic.Relation
import NodeGateway.Proofs.Request.Rounds
import NodeGateway.Transaction.Inclusion

/-!
# Waiting Comes to an End

A wait for a receipt is a loop without an end of its own, put under a time limit. Here it is a task
that takes one step after the other (`Inclusion.Loop.Step`): time passes up to the next thing that
is due, a request is begun, an answer ends the wait or leads to a pause, and the limit ends it where
nothing else is due. How far time passes in one step is left open, so a task that is woken for no
reason is covered too.

What comes of a wait is said without any of these steps (`Inclusion.Loop.IsResult`): the latencies
and pauses in front of a request add up to the instant at which it begins, and the first answer that
says anything counts if it comes by the limit.

The two agree. Every step keeps the account of the requests so far, so a task that has ended has
ended with the result. Every step also lowers a measure of the time that is left, so a task cannot
go on for ever, whatever it is answered; this is where the pause has to be more than nothing. The
function that computes a wait finds one way to the end.

## Main definitions

* `Inclusion.Loop`, `Inclusion.Task` and `Inclusion.Loop.Step`, the task and its steps;
* `Inclusion.Loop.begins` and `Inclusion.Loop.ends`, the instants of the requests;
* `Inclusion.Loop.IsResult`, what comes of a wait.

## Main results

* `Inclusion.Loop.Step.keeps`: the account that every step keeps;
* `Inclusion.Loop.Step.measure_lt`: the measure that every step lowers;
* `Inclusion.waitFor_of_answers`: what comes of a wait, and that it ends.
-/

namespace NodeGateway.Inclusion

variable {α : Type}

/-- The **loop** of a wait: its requests with their answers, the pause between them, the limit, and
what is reported when that is reached. -/
structure Loop (α : Type) where
  late : Fault
  pause : ℕ
  limit : ℕ
  answers : ℕ → Answer (Option α)

namespace Loop

variable (loop : Loop α)

/-! ### The instants of the requests -/

/-- The requests as rounds. -/
def rounds : Rounds (Option α) := ⟨loop.pause, loop.answers⟩

/-- The instant at which request `k` **begins**, if it is made: the requests before it have ended by
then, and so have the pauses behind them. -/
def begins (k : ℕ) : ℕ := ∑ j ∈ Finset.range k, ((loop.answers j).millis + loop.pause)

/-- The instant at which request `k` **ends**, if it is made and not given up. -/
def ends (k : ℕ) : ℕ := loop.begins k + (loop.answers k).millis

@[simp] theorem begins_zero : loop.begins 0 = 0 := rfl

theorem begins_succ (k : ℕ) : loop.begins (k + 1) = loop.ends k + loop.pause :=
  loop.rounds.begins_succ k

theorem begins_le_ends (k : ℕ) : loop.begins k ≤ loop.ends k := loop.rounds.begins_le_ends k

theorem begins_mono : Monotone loop.begins := loop.rounds.begins_mono

/-- Requests are made **one at a time**: one that comes later begins when the one before has
ended. -/
theorem ends_le_begins {j k : ℕ} (h : j < k) : loop.ends j ≤ loop.begins k :=
  loop.rounds.ends_le_begins h

/-! ### What comes of a wait -/

/-- The first `k` requests are **fruitless** if no receipt is there yet when they are answered. -/
def IsFruitless (k : ℕ) : Prop := ∀ j < k, (loop.answers j).outcome = .ok none

/-- Request `k` **decides** if it is the first one that is not fruitless. -/
def Decides (k : ℕ) : Prop := loop.IsFruitless k ∧ (loop.answers k).outcome ≠ .ok none

variable {loop}

theorem IsFruitless.mono {j k : ℕ} (h : loop.IsFruitless k) (hle : j ≤ k) : loop.IsFruitless j :=
  fun i hi => h i (hi.trans_le hle)

theorem IsFruitless.succ {k : ℕ} (h : loop.IsFruitless k)
    (hlast : (loop.answers k).outcome = .ok none) : loop.IsFruitless (k + 1) := by
  intro j hj
  rcases Nat.lt_succ_iff_lt_or_eq.mp hj with hlt | rfl
  · exact h j hlt
  · exact hlast

theorem Decides.le_of_isFruitless {j k : ℕ} (h : loop.Decides k) (hj : loop.IsFruitless j) :
    j ≤ k :=
  not_lt.mp fun hlt => h.2 (hj k hlt)

theorem Decides.unique {j k : ℕ} (hj : loop.Decides j) (hk : loop.Decides k) : j = k :=
  le_antisymm (hk.le_of_isFruitless hj.1) (hj.le_of_isFruitless hk.1)

variable (loop) in
/-- **What comes of a wait**: which requests were begun and when, and how it ended. -/
structure IsResult (waited : Waited α) : Prop where
  /-- The requests begin when the ones before them and the pauses are over. -/
  starts_eq : waited.starts = (List.range waited.requests).map loop.begins
  /-- A request is made if there is time for it and those before it were fruitless. -/
  requests_iff : ∀ k, k < waited.requests ↔ loop.begins k ≤ loop.limit ∧ loop.IsFruitless k
  /-- The first answer that is not fruitless ends the wait, if it comes by the limit. What it is
  stays as it is, be it a receipt or a fault. -/
  decided : ∀ k, loop.Decides k → loop.ends k ≤ loop.limit → waited.requests = k + 1 ∧
    waited.finish = loop.ends k ∧ (loop.answers k).outcome = waited.outcome.map some
  /-- Otherwise the limit ends it. A request that is under way then is given up. -/
  undecided : (∀ k, loop.Decides k → loop.limit < loop.ends k) →
    waited.finish = loop.limit ∧ waited.outcome = .error loop.late

theorem map_some_injective {outcome other : Outcome α}
    (h : outcome.map some = other.map some) : outcome = other := by
  cases outcome <;> cases other <;> cases h <;> rfl

/-- Only **one thing** comes of a wait. -/
theorem IsResult.unique {waited other : Waited α} (h : loop.IsResult waited)
    (hother : loop.IsResult other) : waited = other := by
  have hrequests : waited.requests = other.requests := by
    refine le_antisymm ?_ ?_ <;> refine le_of_forall_lt fun k hk => ?_
    · exact (hother.requests_iff k).mpr ((h.requests_iff k).mp hk)
    · exact (h.requests_iff k).mpr ((hother.requests_iff k).mp hk)
  have hstarts : waited.starts = other.starts := by
    rw [h.starts_eq, hother.starts_eq, hrequests]
  have hend : waited.finish = other.finish ∧ waited.outcome = other.outcome := by
    by_cases hdecided : ∃ k, loop.Decides k ∧ loop.ends k ≤ loop.limit
    · obtain ⟨k, hk, hle⟩ := hdecided
      obtain ⟨-, hfinish, houtcome⟩ := h.decided k hk hle
      obtain ⟨-, hfinish', houtcome'⟩ := hother.decided k hk hle
      exact ⟨hfinish.trans hfinish'.symm, map_some_injective (houtcome.symm.trans houtcome')⟩
    · have hlate : ∀ k, loop.Decides k → loop.limit < loop.ends k := fun k hk =>
        not_le.mp fun hle => hdecided ⟨k, hk, hle⟩
      obtain ⟨hfinish, houtcome⟩ := h.undecided hlate
      obtain ⟨hfinish', houtcome'⟩ := hother.undecided hlate
      exact ⟨hfinish.trans hfinish'.symm, houtcome.trans houtcome'.symm⟩
  cases waited
  cases other
  obtain ⟨rfl, rfl⟩ := hend
  cases hstarts
  rfl

end Loop

/-! ### The task and its steps -/

/-- What a task is **about**: request `k` is under way and ends at `due`, or the pause in front of
it is. -/
inductive Phase where
  | asking (k due : ℕ)
  | pausing (k due : ℕ)

namespace Phase

/-- The request that a phase is about. -/
def number : Phase → ℕ
  | asking k _ | pausing k _ => k

/-- How many requests have been begun. -/
def begun : Phase → ℕ
  | asking k _ => k + 1
  | pausing k _ => k

/-- When a phase is over. -/
def due : Phase → ℕ
  | asking _ due | pausing _ due => due

end Phase

/-- A **task** that waits: how it stands at the instant `now`, or that it has ended. -/
inductive Task (α : Type) where
  | running (now : ℕ) (starts : List ℕ) (phase : Phase)
  | ended (waited : Waited α)

/-- A task at its start: nothing is in front of the first request. -/
def Task.start : Task α := .running 0 [] (.pausing 0 0)

/-- What comes of a wait that goes on **behind** some requests. -/
def Waited.behind (waited : Waited α) (starts : List ℕ) : Waited α :=
  { waited with starts := starts ++ waited.starts }

@[simp] theorem Waited.behind_nil (waited : Waited α) : waited.behind [] = waited := rfl

theorem Waited.behind_append (waited : Waited α) (starts later : List ℕ) :
    waited.behind (starts ++ later) = (waited.behind later).behind starts := by
  simp [behind]

namespace Loop

variable (loop : Loop α)

/-- One **step** of a task. What is due comes before the limit, so an answer that comes exactly then
still counts. -/
inductive Step : Task α → Task α → Prop
  /-- Time passes, but not beyond what is due and not beyond the limit. -/
  | pass {now later : ℕ} {starts : List ℕ} {phase : Phase} (later_gt : now < later)
      (le_due : later ≤ phase.due) (le_limit : later ≤ loop.limit) :
      Step (.running now starts phase) (.running later starts phase)
  /-- The pause is over. -/
  | ask {now k : ℕ} {starts : List ℕ} :
      Step (.running now starts (.pausing k now))
        (.running now (starts ++ [now]) (.asking k (now + (loop.answers k).millis)))
  /-- There is no receipt yet. -/
  | missing {now k : ℕ} {starts : List ℕ} (fruitless : (loop.answers k).outcome = .ok none) :
      Step (.running now starts (.asking k now))
        (.running now starts (.pausing (k + 1) (now + loop.pause)))
  /-- There is a receipt, or a fault. -/
  | answered {now k : ℕ} {starts : List ℕ} (outcome : Outcome α)
      (decisive : (loop.answers k).outcome = outcome.map some) :
      Step (.running now starts (.asking k now))
        (.ended { finish := now, outcome, starts })
  /-- The time is up, and what is under way is given up. -/
  | late {starts : List ℕ} {phase : Phase} (lt_due : loop.limit < phase.due) :
      Step (.running loop.limit starts phase)
        (.ended { finish := loop.limit, outcome := .error loop.late, starts })

/-- The **runs** of a task from its start. -/
def Run (task : Task α) : Prop := Relation.ReflTransGen loop.Step .start task

/-! ### The account that every step keeps -/

/-- A phase is **on time** if it is over when the requests and pauses so far add up to that. -/
inductive OnTime : Phase → Prop
  | asking (k : ℕ) : OnTime (.asking k (loop.ends k))
  | pausing (k : ℕ) : OnTime (.pausing k (loop.begins k))

/-- How a task **stands**: everything so far was on time and fruitless. -/
structure Stands (now : ℕ) (starts : List ℕ) (phase : Phase) : Prop where
  now_le_limit : now ≤ loop.limit
  now_le_due : now ≤ phase.due
  onTime : loop.OnTime phase
  starts_eq : starts = (List.range phase.begun).map loop.begins
  begins_le : ∀ k < phase.begun, loop.begins k ≤ loop.limit
  fruitless : loop.IsFruitless phase.number

/-- The **account** of a task. -/
def Keeps : Task α → Prop
  | .running now starts phase => loop.Stands now starts phase
  | .ended waited => loop.IsResult waited

variable {loop}

theorem OnTime.due_asking {k due : ℕ} (h : loop.OnTime (.asking k due)) : due = loop.ends k := by
  cases h
  rfl

theorem OnTime.due_pausing {k due : ℕ} (h : loop.OnTime (.pausing k due)) :
    due = loop.begins k := by
  cases h
  rfl

theorem stands_start : loop.Keeps .start where
  now_le_limit := Nat.zero_le _
  now_le_due := Nat.le_refl 0
  onTime := .pausing 0
  starts_eq := rfl
  begins_le := nofun
  fruitless := nofun

namespace Stands

variable {now : ℕ} {starts : List ℕ} {phase : Phase}

theorem length_starts (h : loop.Stands now starts phase) : starts.length = phase.begun := by
  simp [h.starts_eq]

/-- A request that is begun has a number below the next one, so those before it were fruitless. -/
theorem fruitless_of_lt (h : loop.Stands now starts phase) {k : ℕ} (hk : k < phase.begun) :
    loop.IsFruitless k := by
  refine h.fruitless.mono ?_
  cases phase with
  | asking => exact Nat.lt_succ_iff.mp hk
  | pausing => exact hk.le

/-- Whatever is not begun by then cannot begin before the phase is over. -/
theorem due_le_begins (h : loop.Stands now starts phase) {k : ℕ} (hk : phase.begun ≤ k) :
    phase.due ≤ loop.begins k := by
  cases h.onTime with
  | asking n => exact loop.ends_le_begins hk
  | pausing n => exact loop.begins_mono hk

/-- A request that decides has not ended before the phase is over. -/
theorem due_le_ends (h : loop.Stands now starts phase) {k : ℕ} (hk : loop.Decides k) :
    phase.due ≤ loop.ends k := by
  have hle : phase.number ≤ k := hk.le_of_isFruitless h.fruitless
  cases h.onTime with
  | asking n =>
      rcases hle.eq_or_lt with rfl | hlt
      · exact le_rfl
      · exact (loop.ends_le_begins hlt).trans (loop.begins_le_ends k)
  | pausing n => exact (loop.begins_mono hle).trans (loop.begins_le_ends k)

/-- What comes of a task that the limit ends. -/
theorem isResult_of_late (h : loop.Stands now starts phase) (hlate : loop.limit < phase.due) :
    loop.IsResult { finish := loop.limit, outcome := .error loop.late, starts } where
  starts_eq := by
    rw [Waited.requests, h.length_starts]
    exact h.starts_eq
  requests_iff k := by
    rw [Waited.requests, h.length_starts]
    refine ⟨fun hk => ⟨h.begins_le k hk, h.fruitless_of_lt hk⟩, fun ⟨hle, _⟩ => ?_⟩
    by_contra hk
    exact absurd (hlate.trans_le (h.due_le_begins (not_lt.mp hk))) hle.not_gt
  decided k hk hle := absurd (hlate.trans_le (h.due_le_ends hk)) hle.not_gt
  undecided _ := ⟨rfl, rfl⟩

/-- What comes of a task that an answer ends. -/
theorem isResult_of_answered {k : ℕ} {outcome : Outcome α}
    (h : loop.Stands now starts (.asking k now))
    (hdecisive : (loop.answers k).outcome = outcome.map some) :
    loop.IsResult { finish := now, outcome, starts } := by
  have hdecides : loop.Decides k := by
    refine ⟨h.fruitless, ?_⟩
    rw [hdecisive]
    cases outcome <;> exact nofun
  have hlength := h.length_starts
  have hends : now = loop.ends k := h.onTime.due_asking
  refine ⟨?_, fun j => ?_, fun j hj _ => ?_, fun hlate => ?_⟩
  · rw [Waited.requests, hlength]
    exact h.starts_eq
  · rw [Waited.requests, hlength]
    refine ⟨fun hj => ⟨h.begins_le j hj, h.fruitless_of_lt hj⟩, fun ⟨_, hj⟩ => ?_⟩
    exact Nat.lt_succ_iff.mpr (hdecides.le_of_isFruitless hj)
  · obtain rfl := hj.unique hdecides
    exact ⟨hlength, hends, hdecisive⟩
  · exact absurd (hends ▸ h.now_le_limit) (hlate k hdecides).not_ge

end Stands

/-- **Every step keeps the account.** -/
theorem Step.keeps {task next : Task α} (h : loop.Step task next) (hkeeps : loop.Keeps task) :
    loop.Keeps next := by
  cases h with
  | pass later_gt le_due le_limit =>
      exact { hkeeps with now_le_limit := le_limit, now_le_due := le_due }
  | @ask now k starts =>
      have hbegins : now = loop.begins k := hkeeps.onTime.due_pausing
      refine ⟨hkeeps.now_le_limit, Nat.le_add_right _ _, ?_, ?_, ?_, hkeeps.fruitless⟩
      · rw [hbegins]
        exact .asking k
      · rw [hkeeps.starts_eq, Phase.begun, Phase.begun, List.range_succ, List.map_append, hbegins]
        rfl
      · intro j hj
        rcases Nat.lt_succ_iff_lt_or_eq.mp hj with hlt | rfl
        · exact hkeeps.begins_le j hlt
        · exact hbegins ▸ hkeeps.now_le_limit
  | @missing now k starts fruitless =>
      have hends : now = loop.ends k := hkeeps.onTime.due_asking
      refine ⟨hkeeps.now_le_limit, Nat.le_add_right _ _, ?_, hkeeps.starts_eq, hkeeps.begins_le,
        hkeeps.fruitless.succ fruitless⟩
      rw [hends, ← begins_succ]
      exact .pausing (k + 1)
  | answered outcome decisive => exact hkeeps.isResult_of_answered decisive
  | late lt_due => exact hkeeps.isResult_of_late lt_due

/-- Every run keeps the account. -/
theorem Run.keeps {task : Task α} (h : loop.Run task) : loop.Keeps task := by
  induction h with
  | refl => exact stands_start
  | tail _ hstep ih => exact hstep.keeps ih

/-! ### Tasks end -/

/-- A task that has not ended can take a step. -/
theorem exists_step {now : ℕ} {starts : List ℕ} {phase : Phase}
    (h : loop.Stands now starts phase) : ∃ next, loop.Step (.running now starts phase) next := by
  rcases h.now_le_due.eq_or_lt with hdue | hdue
  · cases phase with
    | pausing k due =>
        obtain rfl : now = due := hdue
        exact ⟨_, .ask⟩
    | asking k due =>
        obtain rfl : now = due := hdue
        cases hanswer : (loop.answers k).outcome with
        | error fault => exact ⟨_, .answered (.error fault) hanswer⟩
        | ok found =>
            cases found with
            | none => exact ⟨_, .missing hanswer⟩
            | some receipt => exact ⟨_, .answered (.ok receipt) hanswer⟩
  · rcases h.now_le_limit.eq_or_lt with rfl | hlimit
    · exact ⟨_, .late hdue⟩
    · exact ⟨_, .pass (Nat.lt_succ_self now) hdue hlimit⟩

/-- What is **left** of a task: the time up to the limit, and what may still happen at the present
instant. -/
def measure (loop : Loop α) : Task α → ℕ
  | .ended _ => 0
  | .running now _ (.asking _ _) => 4 * (loop.limit - now) + 2
  | .running now _ (.pausing _ due) => 4 * (loop.limit - now) + if due = now then 3 else 1

/-- **Every step lowers the measure**, as long as a pause is more than nothing. -/
theorem Step.measure_lt (hpause : 0 < loop.pause) {task next : Task α} (h : loop.Step task next) :
    loop.measure next < loop.measure task := by
  cases h with
  | @pass now later starts phase later_gt le_due le_limit =>
      cases phase with
      | asking => simp only [measure]; omega
      | pausing => simp only [measure]; split <;> split <;> omega
  | ask => simp [measure]
  | missing => simp only [measure]; split <;> omega
  | @answered now => simp [measure]
  | @late starts phase lt_due =>
      cases phase with
      | asking => simp [measure]
      | pausing => simp only [measure]; split <;> omega

/-- **No task goes on for ever**: the limit bounds the number of its steps. -/
theorem length_le_of_steps (hpause : 0 < loop.pause) {count : ℕ} {run : ℕ → Task α}
    (hstart : run 0 = .start) (hsteps : ∀ i < count, loop.Step (run i) (run (i + 1))) :
    count ≤ 4 * loop.limit + 3 := by
  have hmeasure : ∀ i ≤ count, loop.measure (run i) + i ≤ 4 * loop.limit + 3 := by
    intro i
    induction i with
    | zero => simp [hstart, Task.start, measure]
    | succ i ih =>
        intro hi
        have := (hsteps i hi).measure_lt hpause
        have := ih (Nat.le_of_succ_le hi)
        omega
  have := hmeasure count le_rfl
  omega

/-! ### The computed wait -/

/-- A task that waits for nothing but the time gets to any later instant. -/
theorem reaches_of_le {now later : ℕ} {starts : List ℕ} {phase : Phase} (hle : now ≤ later)
    (hdue : later ≤ phase.due) (hlimit : later ≤ loop.limit) :
    Relation.ReflTransGen loop.Step (.running now starts phase) (.running later starts phase) := by
  rcases hle.eq_or_lt with rfl | hlt
  · exact .refl
  · exact .single (.pass hlt hdue hlimit)

/-- A phase that would be over behind the limit is the last one. -/
theorem reaches_late {now : ℕ} {starts : List ℕ} {phase : Phase} (hle : now ≤ loop.limit)
    (hlate : loop.limit < phase.due) :
    Relation.ReflTransGen loop.Step (.running now starts phase)
      (.ended { finish := loop.limit, outcome := .error loop.late, starts }) :=
  (reaches_of_le hle hlate.le le_rfl).tail (.late hlate)

/-- From a request on, the loop is a way to the end. There are no more requests than milliseconds,
so the fuel lasts. -/
theorem reaches_pollFrom (hpause : 0 < loop.pause) {fuel k now : ℕ} (starts : List ℕ)
    (hlimit : now ≤ loop.limit) (hfuel : loop.limit < now + fuel) :
    Relation.ReflTransGen loop.Step (.running now starts (.pausing k now))
      (.ended ((pollFrom loop.late loop.pause loop.limit loop.answers fuel k now).behind
        starts)) := by
  induction fuel generalizing k now starts with
  | zero => omega
  | succ fuel ih =>
      refine .head .ask ?_
      rw [pollFrom]
      split
      case isTrue hlate => exact reaches_late hlimit hlate
      case isFalse hintime =>
        refine (reaches_of_le (Nat.le_add_right now _) le_rfl (not_lt.mp hintime)).trans ?_
        split
        next fault hanswer => exact .single (.answered (.error fault) hanswer)
        next receipt hanswer => exact .single (.answered (.ok receipt) hanswer)
        next hanswer =>
          refine .head (.missing hanswer) ?_
          split
          case isTrue hlate => exact reaches_late (not_lt.mp hintime) hlate
          case isFalse hpaused =>
            refine (reaches_of_le (Nat.le_add_right _ _) le_rfl (not_lt.mp hpaused)).trans ?_
            have hrest := ih (k := k + 1) (starts ++ [now]) (not_lt.mp hpaused) (by omega)
            rwa [Waited.behind_append] at hrest

end Loop

/-- The loop that waits for a transaction. -/
def loopFor (hash : Hash) (pause timeout : Duration) (answers : ℕ → Answer (Option α)) :
    Loop α where
  late := .timeout
    ("transaction " ++ hash.text ++ " was not included within " ++ timeout.describe)
  pause := pause.ceilMillis
  limit := timeout.ceilMillis
  answers

theorem ceilMillis_pos {pause : Duration} (hpause : 0 < pause.nanos) : 0 < pause.ceilMillis := by
  unfold Duration.ceilMillis
  omega

/-- The computed wait is the end of a run. -/
theorem run_waitFor (hash : Hash) {pause : Duration} (hpause : 0 < pause.nanos)
    (timeout : Duration) (spare : ℕ) (answers : ℕ → Answer (Option α)) :
    (loopFor hash pause timeout answers).Run
      (.ended (waitFor hash pause timeout spare answers)) := by
  let loop := loopFor hash pause timeout answers
  have hpause : 0 < loop.pause := ceilMillis_pos hpause
  have hfuel : loop.limit < 0 + (loop.limit + spare + 1) := by omega
  have hreach := Loop.reaches_pollFrom hpause [] (k := 0) (Nat.zero_le loop.limit) hfuel
  rw [Waited.behind_nil] at hreach
  exact hreach

/-- **Waiting for a transaction**, with a pause that is more than nothing, whatever the answers are
and however long they take. The instants of the requests, the number of them and the end are as
`Loop.IsResult` says. No task ends otherwise, and none goes on for ever: it can take a step or has
ended with this, and the number of its steps is bounded. -/
theorem waitFor_of_answers (hash : Hash) {pause : Duration} (hpause : 0 < pause.nanos)
    (timeout : Duration) (spare : ℕ) (answers : ℕ → Answer (Option α)) :
    let loop := loopFor hash pause timeout answers
    let waited := waitFor hash pause timeout spare answers
    loop.IsResult waited ∧ loop.Run (.ended waited) ∧
    (∀ task, loop.Run task → task = .ended waited ∨ ∃ next, loop.Step task next) ∧
    (∀ (count : ℕ) (run : ℕ → Task α), run 0 = .start →
      (∀ i < count, loop.Step (run i) (run (i + 1))) → count ≤ 4 * loop.limit + 3) := by
  intro loop waited
  have hrun : loop.Run (.ended waited) := run_waitFor hash hpause timeout spare answers
  have hresult : loop.IsResult waited := hrun.keeps
  refine ⟨hresult, hrun, ?_, ?_⟩
  · intro task htask
    cases task with
    | running now starts phase => exact .inr (Loop.exists_step htask.keeps)
    | ended other =>
        have hother : loop.IsResult other := htask.keeps
        exact .inl (congrArg Task.ended (hother.unique hresult))
  · intro count run hstart hsteps
    exact Loop.length_le_of_steps (ceilMillis_pos hpause) hstart hsteps

/-- Three requests, the last of which begins, and is answered, when the time is just up. -/
theorem waitFor_of_answers_on_limit :
    let hash : Hash := FixedBytes.ofNat 32 1
    let pause := Duration.ofMillis 10
    let timeout := Duration.ofMillis 25
    let script : Script (Option ℕ) :=
      [{ outcome := .ok none, millis := 5 }, { outcome := .ok none }, { outcome := .ok (some 7) }]
    let loop := loopFor hash pause timeout (script.answer .cancelled)
    let waited := waitFor hash pause timeout 0 (script.answer .cancelled)
    0 < pause.nanos ∧ (loop.IsResult waited ∧ loop.Run (.ended waited) ∧
      (∀ task, loop.Run task → task = .ended waited ∨ ∃ next, loop.Step task next) ∧
      (∀ (count : ℕ) (run : ℕ → Task ℕ), run 0 = .start →
        (∀ i < count, loop.Step (run i) (run (i + 1))) → count ≤ 4 * loop.limit + 3)) ∧
    waited.finish = 25 ∧ waited.outcome = .ok 7 ∧ waited.starts = [0, 15, 25] :=
  ⟨by decide, waitFor_of_answers _ (by decide) _ 0 _, rfl, rfl, rfl⟩

/-- A request that is under way when the time is up is given up, though it would have found the
receipt. -/
example :
    let script : Script (Option ℕ) :=
      [{ outcome := .ok none, millis := 5 }, { outcome := .ok (some 7), millis := 11 }]
    (waitFor (FixedBytes.ofNat 32 1) (.ofMillis 10) (.ofMillis 25) 0
      (script.answer .cancelled)).finish = 25 := by
  rfl

end NodeGateway.Inclusion
