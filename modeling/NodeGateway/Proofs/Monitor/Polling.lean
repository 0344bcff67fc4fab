import Mathlib.Logic.Relation
import NodeGateway.Monitor.Polling
import NodeGateway.Proofs.Request.Rounds

/-!
# Polling Until It Is Cancelled

A job that is polled is a loop without an end of its own. Between two runs it waits for the first of
two things, the end of the pause and the cancellation; during a run it waits for nothing but the
run. Here it is a task that takes one step after the other (`Polling.Loop.Step`): time passes up to
the next thing that the task waits for, a run ends, a pause is over, or the cancellation is noticed.
How far time passes in one step is left open, and so is which of the two comes first where a pause
ends at the very instant of the cancellation.

What comes of it is said without any of these steps (`Polling.Loop.IsResult`): the times of the runs
and the pauses behind them add up to the instant at which the next run begins, whatever became of
the runs, and a run is made if that instant comes before the cancellation. The first run is made in
any case, so it does not matter how long before it the job was cancelled; instant zero stands for
all of that. Times are whole numbers, and nothing depends on their unit.

The two agree as long as no pause ends at the very instant of the cancellation. Every step keeps the
account of the runs so far, so a task that has stopped has stopped with the result; and every step
lowers a measure of the time that is left, so every task stops. This is where the pause has to be
more than nothing.

## Main definitions

* `Polling.Loop`, `Polling.Task` and `Polling.Loop.Step`, the task and its steps;
* `Polling.Loop.IsResult`, what comes of polling.

## Main results

* `Polling.Loop.Step.keeps`: the account that every step keeps;
* `Polling.Loop.Step.measure_lt`: the measure that every step lowers;
* `Polling.shutDown_eq_ok_iff`: when shutting down succeeds, and how long it takes;
* `Polling.polling_until_shutDown`: what comes of the jobs that are shut down together.
-/

namespace NodeGateway.Polling

/-- The **loop** of a job that is polled: what it is called, its runs with the pause between them,
and the instant at which it is cancelled. -/
structure Loop extends Rounds Unit where
  name : String
  cancelled : ℕ

namespace Loop

variable (loop : Loop)

/-! ### What comes of polling -/

/-- The cancellation is **clear** of the pauses if it does not come at the instant at which one of
them ends. -/
def IsClear : Prop := ∀ k, loop.cancelled ≠ loop.begins (k + 1)

/-- The **faults** of the first `count` runs, in their order. -/
def faults (count : ℕ) : List Fault :=
  (List.range count).filterMap fun k =>
    match (loop.answers k).outcome with
    | .ok _ => none
    | .error fault => some fault

/-- What is **logged** about the first `count` runs: each fault once. -/
def logged (count : ℕ) : List LogLine := (loop.faults count).map (failureLog loop.name)

/-- **What comes of polling**: which runs were made and when, when it stopped, and what was
logged. -/
structure IsResult (polled : Polled) : Prop where
  /-- The runs begin when the ones before them and the pauses are over. -/
  starts_eq : polled.starts = (List.range polled.starts.length).map loop.begins
  /-- The first run is made, and of the others those that begin before the cancellation. -/
  lt_length_iff : ∀ k, k < polled.starts.length ↔ k = 0 ∨ loop.begins k < loop.cancelled
  /-- The last run is finished. -/
  stopped_eq : polled.stopped = max loop.cancelled (loop.ends (polled.starts.length - 1))
  /-- Every fault is logged once, and then the end. -/
  logs_eq : polled.logs = loop.logged polled.starts.length ++ [stoppedLog loop.name]

variable {loop}

/-- Only **one thing** comes of polling. -/
theorem IsResult.unique {polled other : Polled} (h : loop.IsResult polled)
    (hother : loop.IsResult other) : polled = other := by
  have hlength : polled.starts.length = other.starts.length := by
    refine le_antisymm ?_ ?_ <;> refine le_of_forall_lt fun k hk => ?_
    · exact (hother.lt_length_iff k).mpr ((h.lt_length_iff k).mp hk)
    · exact (h.lt_length_iff k).mpr ((hother.lt_length_iff k).mp hk)
  have hstarts : polled.starts = other.starts := by
    rw [h.starts_eq, hother.starts_eq, hlength]
  have hstopped : polled.stopped = other.stopped := by
    rw [h.stopped_eq, hother.stopped_eq, hlength]
  have hlogs : polled.logs = other.logs := by
    rw [h.logs_eq, hother.logs_eq, hlength]
  cases polled
  cases other
  cases hstarts
  cases hstopped
  cases hlogs
  rfl

theorem IsResult.cancelled_le_stopped {polled : Polled} (h : loop.IsResult polled) :
    loop.cancelled ≤ polled.stopped :=
  h.stopped_eq ▸ le_max_left _ _

/-- A run that is made has ended when polling stops. -/
theorem IsResult.ends_le_stopped {polled : Polled} (h : loop.IsResult polled) {k : ℕ}
    (hk : k < polled.starts.length) : loop.ends k ≤ polled.stopped := by
  rw [h.stopped_eq]
  exact (loop.ends_mono (Nat.le_sub_one_of_lt hk)).trans (le_max_right _ _)

theorem logged_succ (k : ℕ) :
    loop.logged (k + 1) = loop.logged k ++ runLogs loop.name (loop.answers k).outcome := by
  rw [logged, logged, faults, faults, List.range_succ, List.filterMap_append, List.map_append]
  cases houtcome : (loop.answers k).outcome <;> simp [houtcome, runLogs]

end Loop

/-! ### The task and its steps -/

/-- What a task is **about**: run `k` is under way and ends at `due`, or the pause behind it is. -/
inductive Phase where
  | busy (k due : ℕ)
  | resting (k due : ℕ)

namespace Phase

/-- The number of the last run that was begun. -/
def number : Phase → ℕ
  | busy k _ | resting k _ => k

/-- How many runs have ended. -/
def ended : Phase → ℕ
  | busy k _ => k
  | resting k _ => k + 1

/-- When a phase is over. -/
def due : Phase → ℕ
  | busy _ due | resting _ due => due

end Phase

/-- A **task** that polls: how it stands at the instant `now`, or that it has stopped. -/
inductive Task where
  | active (now : ℕ) (starts : List ℕ) (logs : List LogLine) (phase : Phase)
  | stopped (polled : Polled)

/-- What comes of polling that goes on **behind** some runs. -/
def Polled.behind (polled : Polled) (starts : List ℕ) (logs : List LogLine) : Polled :=
  { polled with starts := starts ++ polled.starts, logs := logs ++ polled.logs }

namespace Loop

variable (loop : Loop)

/-- A task at its start: the first run begins, whether the job is cancelled or not. -/
def start : Task := .active 0 [0] [] (.busy 0 (loop.answers 0).millis)

/-- One **step** of a task. -/
inductive Step : Task → Task → Prop
  /-- Time passes during a run. A cancellation is no matter. -/
  | work {now later k due : ℕ} {starts : List ℕ} {logs : List LogLine} (later_gt : now < later)
      (le_due : later ≤ due) :
      Step (.active now starts logs (.busy k due)) (.active later starts logs (.busy k due))
  /-- Time passes during a pause, but not beyond its end and not beyond the cancellation. -/
  | rest {now later k due : ℕ} {starts : List ℕ} {logs : List LogLine} (later_gt : now < later)
      (le_due : later ≤ due) (le_cancelled : later ≤ loop.cancelled) :
      Step (.active now starts logs (.resting k due)) (.active later starts logs (.resting k due))
  /-- A run has ended. If it failed, this is logged. -/
  | finish {now k : ℕ} {starts : List ℕ} {logs : List LogLine} :
      Step (.active now starts logs (.busy k now))
        (.active now starts (logs ++ runLogs loop.name (loop.answers k).outcome)
          (.resting k (now + loop.pause)))
  /-- A pause is over, and the next run begins. -/
  | again {now k : ℕ} {starts : List ℕ} {logs : List LogLine} :
      Step (.active now starts logs (.resting k now))
        (.active now (starts ++ [now]) logs (.busy (k + 1) (now + (loop.answers (k + 1)).millis)))
  /-- The cancellation is noticed in a pause. -/
  | stop {now k due : ℕ} {starts : List ℕ} {logs : List LogLine}
      (cancelled_le : loop.cancelled ≤ now) :
      Step (.active now starts logs (.resting k due))
        (.stopped { starts, stopped := now, logs := logs ++ [stoppedLog loop.name] })

/-- The **runs** of a task from its start. -/
def Run (task : Task) : Prop := Relation.ReflTransGen loop.Step loop.start task

/-! ### The account that every step keeps -/

/-- The instant `now` lies where it belongs in a phase, and the phase is over when the runs and
pauses so far add up to that. In a pause the cancellation would have been noticed. -/
inductive IsIn (now : ℕ) : Phase → Prop
  | busy (k : ℕ) (le_due : now ≤ loop.ends k) : IsIn now (.busy k (loop.ends k))
  | resting (k : ℕ) (ends_le : loop.ends k ≤ now) (le_due : now ≤ loop.begins (k + 1))
      (unnoticed : now = loop.ends k ∨ now ≤ loop.cancelled) :
      IsIn now (.resting k (loop.begins (k + 1)))

/-- How a task **stands**: everything so far was on time. -/
structure Stands (now : ℕ) (starts : List ℕ) (logs : List LogLine) (phase : Phase) : Prop where
  isIn : loop.IsIn now phase
  starts_eq : starts = (List.range (phase.number + 1)).map loop.begins
  begins_lt : ∀ k ≤ phase.number, k = 0 ∨ loop.begins k < loop.cancelled
  logs_eq : logs = loop.logged phase.ended

/-- The **account** of a task. -/
def Keeps : Task → Prop
  | .active now starts logs phase => loop.Stands now starts logs phase
  | .stopped polled => loop.IsResult polled

theorem keeps_start : loop.Keeps loop.start where
  isIn := by
    have hends : loop.ends 0 = (loop.answers 0).millis := Nat.zero_add _
    rw [← hends]
    exact .busy 0 (Nat.zero_le _)
  starts_eq := rfl
  begins_lt k hk := .inl (Nat.le_zero.mp hk)
  logs_eq := rfl

variable {loop}

namespace Stands

variable {now k due : ℕ} {starts : List ℕ} {logs : List LogLine} {phase : Phase}

theorem now_le_due (h : loop.Stands now starts logs phase) : now ≤ phase.due := by
  cases h.isIn with
  | busy k le_due => exact le_due
  | resting k ends_le le_due unnoticed => exact le_due

theorem due_busy (h : loop.Stands now starts logs (.busy k due)) : due = loop.ends k := by
  cases h.isIn
  rfl

theorem due_resting (h : loop.Stands now starts logs (.resting k due)) :
    due = loop.begins (k + 1) := by
  cases h.isIn
  rfl

theorem resting_inv (h : loop.Stands now starts logs (.resting k due)) :
    loop.ends k ≤ now ∧ (now = loop.ends k ∨ now ≤ loop.cancelled) := by
  cases h.isIn with
  | resting _ ends_le _ unnoticed => exact ⟨ends_le, unnoticed⟩

/-- A pause that is over before the cancellation is followed by a run. -/
theorem begins_lt_cancelled (hpause : 0 < loop.pause) (hclear : loop.IsClear)
    (h : loop.Stands now starts logs (.resting k now)) : loop.begins (k + 1) < loop.cancelled := by
  have hnow : now = loop.begins (k + 1) := h.due_resting
  have hbegins := loop.begins_succ k
  rcases h.resting_inv.2 with hends | hle
  · omega
  · exact lt_of_le_of_ne (hnow ▸ hle) (hclear k).symm

/-- What comes of a task that stops. -/
theorem isResult (h : loop.Stands now starts logs (.resting k due))
    (hcancelled : loop.cancelled ≤ now) :
    loop.IsResult { starts, stopped := now, logs := logs ++ [stoppedLog loop.name] } := by
  have hlength : starts.length = k + 1 := by simp [h.starts_eq, Phase.number]
  have hdue : now ≤ loop.begins (k + 1) := h.due_resting ▸ h.now_le_due
  refine ⟨?_, fun j => ?_, ?_, ?_⟩
  · rw [hlength]
    exact h.starts_eq
  · rw [hlength]
    refine ⟨fun hj => h.begins_lt j (Nat.lt_succ_iff.mp hj), ?_⟩
    rintro (rfl | hj)
    · exact Nat.succ_pos k
    · -- a run that is not begun would begin when the pause is over, or later
      by_contra hlate
      have := loop.begins_mono (not_lt.mp hlate)
      omega
  · obtain ⟨hends, hnow⟩ := h.resting_inv
    simp only [hlength, Nat.add_sub_cancel]
    omega
  · rw [hlength, h.logs_eq]
    rfl

end Stands

/-- **Every step keeps the account.** -/
theorem Step.keeps (hpause : 0 < loop.pause) (hclear : loop.IsClear) {task next : Task}
    (h : loop.Step task next) (hkeeps : loop.Keeps task) : loop.Keeps next := by
  cases h with
  | work later_gt le_due =>
      obtain rfl := hkeeps.due_busy
      exact { hkeeps with isIn := .busy _ le_due }
  | rest later_gt le_due le_cancelled =>
      obtain rfl := hkeeps.due_resting
      have hends := hkeeps.resting_inv.1
      exact { hkeeps with isIn := .resting _ (hends.trans later_gt.le) le_due (.inr le_cancelled) }
  | @finish now k starts logs =>
      obtain rfl : now = loop.ends k := hkeeps.due_busy
      refine ⟨?_, hkeeps.starts_eq, hkeeps.begins_lt, ?_⟩
      · rw [← loop.begins_succ]
        exact .resting k le_rfl (loop.ends_le_begins_succ k) (.inl rfl)
      · rw [hkeeps.logs_eq]
        exact (logged_succ k).symm
  | @again now k starts logs =>
      have hlt := hkeeps.begins_lt_cancelled hpause hclear
      obtain rfl : now = loop.begins (k + 1) := hkeeps.due_resting
      refine ⟨.busy (k + 1) (loop.begins_le_ends (k + 1)), ?_, fun j hj => ?_, hkeeps.logs_eq⟩
      · rw [hkeeps.starts_eq, Phase.number, Phase.number, List.range_succ (n := k + 1),
          List.map_append]
        rfl
      · rcases Nat.le_succ_iff.mp hj with hle | rfl
        · exact hkeeps.begins_lt j hle
        · exact .inr hlt
  | stop cancelled_le => exact hkeeps.isResult cancelled_le

/-- Every run keeps the account. -/
theorem Run.keeps (hpause : 0 < loop.pause) (hclear : loop.IsClear) {task : Task}
    (h : loop.Run task) : loop.Keeps task := by
  induction h with
  | refl => exact loop.keeps_start
  | tail _ hstep ih => exact hstep.keeps hpause hclear ih

/-! ### Tasks stop -/

/-- A task that has not stopped can take a step. -/
theorem exists_step {now : ℕ} {starts : List ℕ} {logs : List LogLine} {phase : Phase}
    (h : loop.Stands now starts logs phase) :
    ∃ next, loop.Step (.active now starts logs phase) next := by
  cases phase with
  | busy k due =>
      rcases h.now_le_due.eq_or_lt with rfl | hlt
      · exact ⟨_, .finish⟩
      · exact ⟨_, .work hlt le_rfl⟩
  | resting k due =>
      rcases le_or_gt loop.cancelled now with hcancelled | hcancelled
      · exact ⟨_, .stop hcancelled⟩
      · rcases h.now_le_due.eq_or_lt with rfl | hlt
        · exact ⟨_, .again⟩
        · exact ⟨_, .rest (Nat.lt_succ_self now) hlt hcancelled⟩

/-- A task is not yet beyond the instant at which it will stop. -/
theorem Stands.le_stopped {now : ℕ} {starts : List ℕ} {logs : List LogLine} {phase : Phase}
    {polled : Polled} (h : loop.Stands now starts logs phase) (hresult : loop.IsResult polled) :
    now ≤ polled.stopped := by
  have hends : loop.ends phase.number ≤ polled.stopped :=
    hresult.ends_le_stopped ((hresult.lt_length_iff _).mpr (h.begins_lt _ le_rfl))
  cases h.isIn with
  | busy k le_due => exact le_due.trans hends
  | resting k ends_le le_due unnoticed =>
      rcases unnoticed with rfl | hle
      · exact hends
      · exact hle.trans hresult.cancelled_le_stopped

/-- What is **left** of a task that is to stop at some instant: the time until then, and what may
still happen at the present instant. -/
def measure (stopped : ℕ) : Task → ℕ
  | .stopped _ => 0
  | .active now _ _ (.busy _ _) => 4 * (stopped - now) + 2
  | .active now _ _ (.resting _ due) => 4 * (stopped - now) + if due = now then 3 else 1

/-- **Every step lowers the measure**, as long as a pause is more than nothing. -/
theorem Step.measure_lt (hpause : 0 < loop.pause) {task next : Task} {polled : Polled}
    (h : loop.Step task next) (hnext : loop.Keeps next) (hresult : loop.IsResult polled) :
    measure polled.stopped next < measure polled.stopped task := by
  cases h with
  | work later_gt le_due =>
      have := hnext.le_stopped hresult
      simp only [measure]
      omega
  | rest later_gt le_due le_cancelled =>
      have := hnext.le_stopped hresult
      simp only [measure]
      split <;> split <;> omega
  | finish =>
      simp only [measure]
      split <;> omega
  | again => simp [measure]
  | stop =>
      simp only [measure]
      split <;> omega

/-- **No task goes on for ever**: the instant at which polling stops bounds the number of its
steps. -/
theorem length_le_of_steps (hpause : 0 < loop.pause) (hclear : loop.IsClear) {polled : Polled}
    (hresult : loop.IsResult polled) {count : ℕ} {run : ℕ → Task} (hstart : run 0 = loop.start)
    (hsteps : ∀ i < count, loop.Step (run i) (run (i + 1))) : count ≤ 4 * polled.stopped + 2 := by
  have hkept : ∀ i ≤ count, loop.Keeps (run i) ∧
      measure polled.stopped (run i) + i ≤ 4 * polled.stopped + 2 := by
    intro i
    induction i with
    | zero => exact fun _ => hstart ▸ ⟨loop.keeps_start, le_rfl⟩
    | succ i ih =>
        intro hi
        obtain ⟨hkeeps, hle⟩ := ih (Nat.le_of_succ_le hi)
        have hnext := (hsteps i hi).keeps hpause hclear hkeeps
        have := (hsteps i hi).measure_lt hpause hnext hresult
        exact ⟨hnext, by omega⟩
  have := (hkept count le_rfl).2
  omega

/-! ### The computed polling -/

/-- A run that is begun comes to its end. -/
theorem reaches_finish {now k : ℕ} {starts : List ℕ} {logs : List LogLine} :
    let ended := now + (loop.answers k).millis
    Relation.ReflTransGen loop.Step (.active now starts logs (.busy k ended))
      (.active ended starts (logs ++ runLogs loop.name (loop.answers k).outcome)
        (.resting k (ended + loop.pause))) := by
  intro ended
  rcases (Nat.le_add_right now (loop.answers k).millis).eq_or_lt with hnow | hlt
  · rw [show ended = now from hnow.symm]
    exact .single .finish
  · exact .head (.work hlt le_rfl) (.single .finish)

/-- A pause that the cancellation comes into is the last one. -/
theorem reaches_stop {due : ℕ} (now k : ℕ) (starts : List ℕ) (logs : List LogLine)
    (hle : loop.cancelled ≤ due) :
    Relation.ReflTransGen loop.Step (.active now starts logs (.resting k due))
      (.stopped ⟨starts, max loop.cancelled now, logs ++ [stoppedLog loop.name]⟩) := by
  rcases le_or_gt loop.cancelled now with hcancelled | hcancelled
  · rw [max_eq_right hcancelled]
    exact .single (.stop hcancelled)
  · rw [max_eq_left hcancelled.le]
    exact .head (.rest hcancelled hle le_rfl) (.single (.stop le_rfl))

/-- Any other pause is followed by the next run. -/
theorem reaches_again {now k : ℕ} {starts : List ℕ} {logs : List LogLine}
    (hpause : 0 < loop.pause) (hlt : now + loop.pause < loop.cancelled) :
    let due := now + loop.pause
    Relation.ReflTransGen loop.Step (.active now starts logs (.resting k due))
      (.active due (starts ++ [due]) logs (.busy (k + 1) (due + (loop.answers (k + 1)).millis))) :=
  .head (.rest (Nat.lt_add_of_pos_right hpause) le_rfl hlt.le) (.single .again)

/-- From the beginning of a run on, the loop is a way to the end. There are no more runs than
instants, so the fuel lasts. -/
theorem reaches_pollFrom (hpause : 0 < loop.pause) (fuel k : ℕ) {now : ℕ} (starts : List ℕ)
    (logs : List LogLine) (hnow : now ≤ loop.cancelled) (hfuel : loop.cancelled < now + fuel) :
    Relation.ReflTransGen loop.Step
      (.active now (starts ++ [now]) logs (.busy k (now + (loop.answers k).millis)))
      (.stopped ((pollFrom loop.name loop.pause loop.cancelled loop.answers fuel k now).behind
        starts logs)) := by
  induction fuel generalizing k now starts logs with
  | zero => omega
  | succ fuel ih =>
      refine reaches_finish.trans ?_
      rw [pollFrom]
      split
      case isTrue hlast =>
        have hstop := reaches_stop (now + (loop.answers k).millis) k (starts ++ [now])
          (logs ++ runLogs loop.name (loop.answers k).outcome) hlast
        simpa [Polled.behind] using hstop
      case isFalse hmore =>
        have hlt := not_le.mp hmore
        refine (reaches_again hpause hlt).trans ?_
        have hrest := ih (k + 1) (starts ++ [now])
          (logs ++ runLogs loop.name (loop.answers k).outcome) hlt.le (by omega)
        simpa [Polled.behind] using hrest

variable (loop) in
/-- The **computed** polling. -/
def polled (spare : ℕ) : Polled :=
  pollFor loop.name loop.pause loop.cancelled spare loop.answers

/-- The computed polling is the end of a run. -/
theorem run_polled (hpause : 0 < loop.pause) (spare : ℕ) :
    loop.Run (.stopped (loop.polled spare)) := by
  have hreach := reaches_pollFrom hpause (loop.cancelled + spare + 1) 0 [] []
    (Nat.zero_le loop.cancelled) (by omega)
  simpa [Run, start, polled, pollFor, Polled.behind] using hreach

variable (loop) in
/-- Every way of a task **leads to** the same end: it can take a step until it has stopped with
this, and the number of its steps is bounded. -/
structure LeadsTo (polled : Polled) : Prop where
  reached : loop.Run (.stopped polled)
  progress : ∀ task, loop.Run task → task = .stopped polled ∨ ∃ next, loop.Step task next
  bounded : ∀ (count : ℕ) (run : ℕ → Task), run 0 = loop.start →
    (∀ i < count, loop.Step (run i) (run (i + 1))) → count ≤ 4 * polled.stopped + 2

theorem isResult_polled (hpause : 0 < loop.pause) (hclear : loop.IsClear) (spare : ℕ) :
    loop.IsResult (loop.polled spare) :=
  (run_polled hpause spare).keeps hpause hclear

theorem leadsTo_polled (hpause : 0 < loop.pause) (hclear : loop.IsClear) (spare : ℕ) :
    loop.LeadsTo (loop.polled spare) where
  reached := run_polled hpause spare
  progress task htask := by
    have hkeeps := htask.keeps hpause hclear
    cases task with
    | active now starts logs phase => exact .inr (exists_step hkeeps)
    | stopped other =>
        exact .inl (congrArg Task.stopped (hkeeps.unique (isResult_polled hpause hclear spare)))
  bounded _ _ hstart hsteps :=
    length_le_of_steps hpause hclear (isResult_polled hpause hclear spare) hstart hsteps

end Loop

/-! ### Shutting down -/

/-- **Shutting down succeeds** exactly if no task broke off, and then it is over as soon as all of
them have ended. -/
theorem shutDown_eq_ok_iff {tasks : List TaskEnd} {now finish : ℕ} :
    shutDown now tasks = (finish, .ok ()) ↔ (∀ task ∈ tasks, task.failure = none) ∧
      ∀ instant, finish ≤ instant ↔ now ≤ instant ∧ ∀ task ∈ tasks, task.finish ≤ instant := by
  induction tasks generalizing now with
  | nil =>
      simp only [shutDown, Prod.mk.injEq, and_true, List.not_mem_nil, false_implies,
        implies_true, true_and]
      exact ⟨fun h _ => h ▸ Iff.rfl, fun h => eq_of_forall_ge_iff fun instant => (h instant).symm⟩
  | cons task rest ih =>
      rw [shutDown]
      cases hfailure : task.failure with
      | some reason => simp [hfailure]
      | none => simp [hfailure, ih, and_assoc]

theorem exists_shutDown_ok {tasks : List TaskEnd} (h : ∀ task ∈ tasks, task.failure = none)
    (now : ℕ) : ∃ finish, shutDown now tasks = (finish, .ok ()) := by
  induction tasks generalizing now with
  | nil => exact ⟨now, rfl⟩
  | cons task rest ih =>
      rw [shutDown, h task List.mem_cons_self]
      exact ih (fun other hother => h other (List.mem_cons_of_mem task hother)) _

/-- **Jobs that are polled until they are cancelled**, each at an instant at which none of its
pauses ends, with pauses that are more than nothing. Whatever becomes of the runs and however long
they take, what comes of a job is as `Loop.IsResult` says, and its task cannot but end with this.

Shutting the jobs down from the instant `now` on succeeds, and it is over as soon as the last of
them has stopped. Whatever other tasks are shut down with them, it succeeds only if each task has
come to its own end by then. -/
theorem polling_until_shutDown (now spare : ℕ) {loops : List Loop}
    (hpause : ∀ loop ∈ loops, 0 < loop.pause) (hclear : ∀ loop ∈ loops, loop.IsClear) :
    let shut := shutDown now (loops.map fun loop => (loop.polled spare).taskEnd)
    (∀ loop ∈ loops, loop.IsResult (loop.polled spare) ∧ loop.LeadsTo (loop.polled spare)) ∧
    shut.2 = .ok () ∧
    (∀ instant, shut.1 ≤ instant ↔
      now ≤ instant ∧ ∀ loop ∈ loops, (loop.polled spare).stopped ≤ instant) ∧
    (∀ (tasks : List TaskEnd) (finish : ℕ), shutDown now tasks = (finish, .ok ()) →
      ∀ task ∈ tasks, task.failure = none ∧ task.finish ≤ finish) := by
  intro shut
  have hended : ∀ task ∈ loops.map fun loop => (loop.polled spare).taskEnd,
      task.failure = none := by
    intro task htask
    obtain ⟨loop, -, rfl⟩ := List.mem_map.mp htask
    rfl
  obtain ⟨finish, hshut⟩ := exists_shutDown_ok hended now
  have hfinish := (shutDown_eq_ok_iff.mp hshut).2
  rw [show shut = (finish, .ok ()) from hshut]
  refine ⟨fun loop hloop => ?_, rfl, fun instant => ?_, fun tasks finish hok task htask => ?_⟩
  · exact ⟨Loop.isResult_polled (hpause loop hloop) (hclear loop hloop) spare,
      Loop.leadsTo_polled (hpause loop hloop) (hclear loop hloop) spare⟩
  · rw [hfinish, List.forall_mem_map]
    rfl
  · obtain ⟨hnone, hlast⟩ := shutDown_eq_ok_iff.mp hok
    exact ⟨hnone task htask, ((hlast finish).mp le_rfl).2 task htask⟩

/-- Two jobs that are cancelled at instant 25. One fails whenever it runs and is cancelled in a
pause; the other is cancelled in its first run, which takes until instant 30. -/
theorem polling_until_shutDown_busy :
    let failing : Loop :=
      { pause := 10, answers := fun _ => { outcome := .error (.other "late") }, name := "Failing",
        cancelled := 25 }
    let slow : Loop :=
      { pause := 10, answers := fun _ => { outcome := .ok (), millis := 30 }, name := "Slow",
        cancelled := 25 }
    let loops := [failing, slow]
    let shut := shutDown 25 (loops.map fun loop => (loop.polled 0).taskEnd)
    ((∀ loop ∈ loops, 0 < loop.pause) ∧ ∀ loop ∈ loops, loop.IsClear) ∧
    ((∀ loop ∈ loops, loop.IsResult (loop.polled 0) ∧ loop.LeadsTo (loop.polled 0)) ∧
      shut.2 = .ok () ∧
      (∀ instant, shut.1 ≤ instant ↔
        25 ≤ instant ∧ ∀ loop ∈ loops, (loop.polled 0).stopped ≤ instant) ∧
      (∀ (tasks : List TaskEnd) (finish : ℕ), shutDown 25 tasks = (finish, .ok ()) →
        ∀ task ∈ tasks, task.failure = none ∧ task.finish ≤ finish)) ∧
    failing.polled 0 = ⟨[0, 10, 20], 25,
      List.replicate 3 (failureLog "Failing" (.other "late")) ++ [stoppedLog "Failing"]⟩ ∧
    slow.polled 0 = ⟨[0], 30, [stoppedLog "Slow"]⟩ ∧
    shut.1 = 30 := by
  intro failing slow loops shut
  have hpause : ∀ loop ∈ loops, 0 < loop.pause := by
    simp [loops, failing, slow]
  have hclear : ∀ loop ∈ loops, loop.IsClear := by
    simp only [loops, List.forall_mem_cons, List.not_mem_nil, false_implies, implies_true, and_true]
    constructor <;> intro k <;> simp [failing, slow, Rounds.begins] <;> omega
  exact ⟨⟨hpause, hclear⟩, polling_until_shutDown 25 0 hpause hclear, rfl, rfl, rfl⟩

end NodeGateway.Polling
