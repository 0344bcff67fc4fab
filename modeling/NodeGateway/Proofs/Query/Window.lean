import NodeGateway.Proofs.Fault.Sequence
import NodeGateway.Query.Window

/-!
# What a Window Does

A window works on jobs in their order, several at a time, and hands their results on in their order.
This module says what a whole run of a window amounts to, whoever works on the jobs and however long
each of them takes.

A **course** is the list of the jobs that were started, each with the instant and the answer. It
only grows, one job at a time, and what it says of each of them is all that a window ever does:
the job is started at the beginning or at the instant at which an earlier one ends; it is told how
many jobs are under way; and as many of the first jobs as have to make room for it have ended by
then, with values.

A step of a window takes a job up, waits, or hands a result on (`Window.Progress.step`), and each
job is started, waited for and handed on at most once, so a run comes to its end within a known
number of steps (`Window.runFor_eq`). At the end nothing has been lost and nothing was added: the
outcome is that of the jobs of the course in their order, and either one of them failed or every job
is in it (`Window.account_of_run`).

A run that is broken off after some number of steps shows what the window has done by then. So what
is said of a **snapshot** holds at every moment of a run (`Window.snapshots_of_run`).

## Main definitions

* `Start`, a job that was started, and `Window.Course`, the jobs that were started in a run;
* `Window.Progress`, how far a window has come;
* `Window.Account`, what a run leaves behind;
* `Window.Snapshot`, what a run that is broken off shows.
-/

namespace NodeGateway

/-- A job that was **started**: when, and what was answered. -/
structure Start (β γ : Type) where
  instant : Nat
  job : β
  answer : Answer γ

namespace Start

/-- The outcome of a job that was started. -/
def outcome (s : Start β γ) : Outcome γ := s.answer.outcome

/-- When the job ends. -/
def arrival (s : Start β γ) : Nat := s.instant + s.answer.millis

/-- The place of the job in a window. -/
def slot (s : Start β γ) : Slot β γ := .running s.arrival s.outcome

/-- How many steps a window still needs for jobs that have been started, the oldest first. The
oldest has to be waited for if it has not ended; all of them have to be handed on. -/
def stepsLeft (now : Nat) : List (Start β γ) → Nat
  | [] => 0
  | s :: rest => (if now < s.arrival then 2 else 1) + 2 * rest.length

/-- A job that was started needs two steps at most. -/
theorem stepsLeft_le (now : Nat) (running : List (Start β γ)) :
    stepsLeft now running ≤ 2 * running.length := by
  cases running with
  | nil => exact Nat.le_refl 0
  | cons s rest =>
      rw [stepsLeft, List.length_cons]
      split <;> omega

/-- Another job takes two more at most. -/
theorem stepsLeft_append_le (now : Nat) (running : List (Start β γ)) (s : Start β γ) :
    stepsLeft now (running ++ [s]) ≤ stepsLeft now running + 2 := by
  cases running with
  | nil => exact stepsLeft_le now [s]
  | cons r rest =>
      simp only [List.cons_append, stepsLeft, List.length_append, List.length_singleton]
      omega

/-- A result that is handed on need not be handed on any more. -/
theorem stepsLeft_lt_cons (now : Nat) (s : Start β γ) (rest : List (Start β γ)) :
    stepsLeft now rest < stepsLeft now (s :: rest) := by
  have := stepsLeft_le now rest
  rw [stepsLeft]
  split <;> omega

/-- A job that has ended need not be waited for any more. -/
theorem stepsLeft_lt_of_ended {now later : Nat} {s : Start β γ} (rest : List (Start β γ))
    (hbusy : now < s.arrival) (hended : s.arrival ≤ later) :
    stepsLeft later (s :: rest) < stepsLeft now (s :: rest) := by
  rw [stepsLeft, stepsLeft, if_pos hbusy, if_neg (Nat.not_lt.mpr hended)]
  omega

end Start

namespace Window

section Course

/-- How many of the jobs that were started are **under way**. -/
def underWay (now : Nat) (started : List (Start β γ)) : Nat :=
  (started.filter fun s => decide (now < s.arrival)).length

/-- An instant is **prompt** if it is the beginning or one at which a job ends. -/
def Prompt (now : Nat) (started : List (Start β γ)) : Prop :=
  now = 0 ∨ ∃ s ∈ started, now = s.arrival

/-- The **course** of a run with a given limit: the jobs that were started one after another, and
the state that they led to. -/
inductive Course (start : (now busy : Nat) → β → σ → Answer γ × σ) (limit : Nat) (origin : σ) :
    List (Start β γ) → σ → Prop where
  | none : Course start limit origin [] origin
  | next {started : List (Start β γ)} {state : σ} (now : Nat) (job : β)
      (course : Course start limit origin started state)
      (prompt : Prompt now started)
      (begun : ∀ s ∈ started, s.instant ≤ now)
      -- the jobs that would not find a place beside this one have been handed on
      (room : ∀ s ∈ started.take (started.length + 1 - limit),
        s.arrival ≤ now ∧ ∃ value, s.outcome = .ok value) :
      Course start limit origin
        (started ++ [⟨now, job, (start now (underWay now started + 1) job state).1⟩])
        (start now (underWay now started + 1) job state).2

variable {now : Nat} {started handed running : List (Start β γ)}

/-- The jobs under way are counted part by part. -/
theorem underWay_append :
    underWay now (handed ++ running) = underWay now handed + underWay now running := by
  simp [underWay]

/-- Jobs that have ended are not under way. -/
theorem underWay_eq_zero (h : ∀ s ∈ handed, s.arrival ≤ now) : underWay now handed = 0 := by
  rw [underWay, List.length_eq_zero_iff, List.filter_eq_nil_iff]
  intro s hs hbusy
  exact absurd (of_decide_eq_true hbusy) (Nat.not_lt.mpr (h s hs))

/-- An instant stays prompt when another job is started. -/
theorem Prompt.append (h : Prompt now started) (s : Start β γ) : Prompt now (started ++ [s]) :=
  h.imp_right fun ⟨earlier, hmem, heq⟩ => ⟨earlier, List.mem_append_left [s] hmem, heq⟩

end Course

/-! ### The slots of a window -/

section Slots

variable {running : List (Start β γ)} {waiting : List β}

/-- A window whose slots hold jobs that were started and, behind them, jobs that were not. -/
def slotsOf (running : List (Start β γ)) (waiting : List β) : List (Slot β γ) :=
  running.map Start.slot ++ waiting.map .waiting

/-- Every job in the window has one slot. -/
theorem length_slotsOf : (slotsOf running waiting).length = running.length + waiting.length := by
  simp [slotsOf]

/-- Jobs that are taken up take the slots at the end. -/
theorem slotsOf_append (more : List β) :
    slotsOf running (waiting ++ more) = slotsOf running waiting ++ more.map .waiting := by
  simp [slotsOf]

/-- A job that is started keeps its slot. -/
theorem slotsOf_start (s : Start β γ) (rest : List β) :
    running.map Start.slot ++ s.slot :: rest.map .waiting = slotsOf (running ++ [s]) rest := by
  simp [slotsOf]

/-- Without a job that has not started there is nothing to split at. -/
theorem splitWaiting_slotsOf_nil : splitWaiting (slotsOf running []) = none := by
  induction running with
  | nil => rfl
  | cons s rest ih => exact congrArg (Option.map _) ih

/-- The oldest job that has not started stands behind all that have. -/
theorem splitWaiting_slotsOf_cons (job : β) (rest : List β) :
    splitWaiting (slotsOf running (job :: rest)) =
      some (running.map Start.slot, job, rest.map .waiting) := by
  induction running with
  | nil => rfl
  | cons s more ih => exact congrArg (Option.map _) ih

/-- The busy slots are those of the jobs that are under way. -/
theorem busy_slotsOf (now : Nat) :
    ((slotsOf running waiting).filter (Slot.isBusy now)).length = underWay now running := by
  have hwaiting : (waiting.map .waiting : List (Slot β γ)).filter (Slot.isBusy now) = [] := by
    simp [List.filter_eq_nil_iff, Slot.isBusy]
  rw [slotsOf, List.filter_append, hwaiting, List.append_nil, List.filter_map, List.length_map]
  rfl

end Slots

/-! ### One step of a run -/

section Step

variable {start : (now busy : Nat) → β → σ → Answer γ × σ} {w : Window β γ} {state : σ}
  {running : List (Start β γ)}

/-- A window with nothing to do has ended. -/
theorem runFor_ended (h : w.fill.slots = []) (fuel : Nat) :
    runFor start (fuel + 1) w state = ⟨w.now, .ok w.delivered, state⟩ := by
  rw [runFor]
  simp only [h]
  rfl

/-- A job that has been taken up is started, if there is no result to be handed on. -/
theorem runFor_start {job : β} {rest : List β} (h : w.fill.slots = slotsOf running (job :: rest))
    (hbusy : ∀ s ∈ running.head?, w.now < s.arrival) (fuel : Nat) :
    let given := start w.now (underWay w.now running + 1) job state
    runFor start (fuel + 1) w state =
      runFor start fuel
        { w.fill with slots := slotsOf (running ++ [⟨w.now, job, given.1⟩]) rest } given.2 := by
  have hcount : w.fill.busy = underWay w.now running := by
    rw [busy, h]
    exact busy_slotsOf w.now
  have hsplit := congrArg splitWaiting h
  rw [splitWaiting_slotsOf_cons] at hsplit
  intro given
  rw [runFor, ← slotsOf_start]
  simp only [hsplit, hcount]
  cases running with
  | nil =>
      simp only [h, slotsOf, List.map_nil, List.nil_append, List.map_cons]
      rfl
  | cons s more =>
      have hhead : s.slot.isBusy w.fill.now = true := decide_eq_true (hbusy s rfl)
      simp only [h, slotsOf, List.map_cons, List.cons_append, hhead]
      rfl

/-- With nothing to hand on and nothing to start, a window waits for the oldest job. -/
theorem runFor_wait {s : Start β γ} (h : w.fill.slots = slotsOf (s :: running) [])
    (hbusy : w.now < s.arrival) (fuel : Nat) :
    runFor start (fuel + 1) w state =
      runFor start fuel { w.fill with now := max w.now s.arrival } state := by
  have hsplit := congrArg splitWaiting h
  rw [splitWaiting_slotsOf_nil] at hsplit
  have hhead : s.slot.isBusy w.fill.now = true := decide_eq_true hbusy
  rw [runFor]
  simp only [hsplit]
  simp only [h, slotsOf, List.map_cons, List.cons_append, hhead]
  rfl

/-- A value that can be handed on is handed on first. -/
theorem runFor_deliver {s : Start β γ} {waiting : List β} {value : γ}
    (h : w.fill.slots = slotsOf (s :: running) waiting) (hdone : ¬ w.now < s.arrival)
    (hvalue : s.outcome = .ok value) (fuel : Nat) :
    runFor start (fuel + 1) w state =
      runFor start fuel
        { w.fill with slots := slotsOf running waiting, delivered := w.delivered ++ [value] }
        state := by
  have hslot : s.slot = .running s.arrival (.ok value) := by rw [Start.slot, hvalue]
  have hhead : s.slot.isBusy w.fill.now = false := decide_eq_false hdone
  rw [hslot] at hhead
  rw [runFor]
  simp only [h, slotsOf, List.map_cons, List.cons_append, hslot, hhead]
  rfl

/-- The first fault that can be handed on ends the run. -/
theorem runFor_fail {s : Start β γ} {waiting : List β} {fault : Fault}
    (h : w.fill.slots = slotsOf (s :: running) waiting) (hdone : ¬ w.now < s.arrival)
    (hfault : s.outcome = .error fault) (fuel : Nat) :
    runFor start (fuel + 1) w state = ⟨w.now, .error fault, state⟩ := by
  have hslot : s.slot = .running s.arrival (.error fault) := by rw [Start.slot, hfault]
  have hhead : s.slot.isBusy w.fill.now = false := decide_eq_false hdone
  rw [hslot] at hhead
  rw [runFor]
  simp only [h, slotsOf, List.map_cons, List.cons_append, hslot, hhead]
  rfl

end Step

/-! ### Progress -/

/-- **How far a window has come** with some jobs: those at the front have been handed on, then come
those that were started, then those that have been taken up, and then those that have not. -/
structure Progress (start : (now busy : Nat) → β → σ → Answer γ × σ) (limit : Nat) (origin : σ)
    (jobs : List β) (handed running : List (Start β γ)) (waiting : List β) (w : Window β γ)
    (state : σ) : Prop where
  limit_eq : w.limit = limit
  slots_eq : w.slots = slotsOf running waiting
  room : w.slots.length ≤ limit
  jobs_eq : (handed ++ running).map Start.job ++ (waiting ++ w.pending) = jobs
  course : Course start limit origin (handed ++ running) state
  delivered_eq : handed.map Start.outcome = w.delivered.map .ok
  arrived : ∀ s ∈ handed, s.arrival ≤ w.now
  begun : ∀ s ∈ handed ++ running, s.instant ≤ w.now
  prompt : Prompt w.now (handed ++ running)

/-- How many **steps** a window still needs. -/
def stepsLeft (running : List (Start β γ)) (waiting : List β) (w : Window β γ) : Nat :=
  Start.stepsLeft w.now running + 3 * (waiting.length + w.pending.length)

namespace Progress

variable {start : (now busy : Nat) → β → σ → Answer γ × σ} {limit : Nat} {origin : σ}
  {jobs : List β} {handed running : List (Start β γ)} {waiting : List β} {w : Window β γ}
  {state : σ}

/-- Before anything is done all jobs are pending. -/
theorem initial (start : (now busy : Nat) → β → σ → Answer γ × σ) (limit : Nat) (jobs : List β)
    (state : σ) :
    Progress start limit state jobs [] [] [] { limit, pending := jobs } state where
  limit_eq := rfl
  slots_eq := rfl
  room := Nat.zero_le limit
  jobs_eq := rfl
  course := .none
  delivered_eq := rfl
  arrived := by simp
  begun := by simp
  prompt := .inl rfl

/-- The jobs that a window takes up. -/
def taken (w : Window β γ) : List β := w.pending.take (w.limit - w.slots.length)

/-- Taking jobs up changes nothing but where they are. -/
theorem fill (p : Progress start limit origin jobs handed running waiting w state) :
    Progress start limit origin jobs handed running (waiting ++ taken w) w.fill state where
  limit_eq := p.limit_eq
  slots_eq := by
    rw [slotsOf_append, ← p.slots_eq]
    rfl
  room := by
    have := p.room
    have := p.limit_eq
    simp only [Window.fill, List.length_append, List.length_map, List.length_take]
    omega
  jobs_eq := by
    have hpending : taken w ++ w.fill.pending = w.pending := List.take_append_drop _ _
    rw [← p.jobs_eq, List.append_assoc waiting, hpending]
  course := p.course
  delivered_eq := p.delivered_eq
  arrived := p.arrived
  begun := p.begun
  prompt := p.prompt

/-- A window that has taken jobs up has no free place, or no job is left. -/
theorem full_or_taken (p : Progress start limit origin jobs handed running waiting w state) :
    w.fill.slots.length = limit ∨ w.fill.pending = [] := by
  have := p.room
  have := p.limit_eq
  simp only [Window.fill, List.length_append, List.length_map, List.length_take,
    List.drop_eq_nil_iff]
  omega

/-- Taking jobs up takes no step. -/
theorem stepsLeft_fill (running : List (Start β γ)) (waiting : List β) (w : Window β γ) :
    w.fill.stepsLeft running (waiting ++ taken w) = w.stepsLeft running waiting := by
  simp only [stepsLeft, Window.fill, taken, List.length_append, List.length_take, List.length_drop]
  omega

/-- What was handed on is a value. -/
theorem ok_of_handed (p : Progress start limit origin jobs handed running waiting w state)
    {s : Start β γ} (hs : s ∈ handed) : ∃ value, s.outcome = .ok value := by
  have houtcome : s.outcome ∈ w.delivered.map Except.ok := p.delivered_eq ▸ List.mem_map_of_mem hs
  obtain ⟨value, -, hvalue⟩ := List.mem_map.mp houtcome
  exact ⟨value, hvalue.symm⟩

/-- A job that was taken up has room: the jobs that it would not have had a place beside have been
handed on. -/
theorem room_of_waiting {job : β} {rest : List β}
    (p : Progress start limit origin jobs handed running (job :: rest) w state) :
    ∀ s ∈ (handed ++ running).take ((handed ++ running).length + 1 - limit),
      s.arrival ≤ w.now ∧ ∃ value, s.outcome = .ok value := by
  have hroom := p.room
  rw [p.slots_eq, length_slotsOf, List.length_cons] at hroom
  have hcount : (handed ++ running).length + 1 - limit ≤ handed.length := by
    rw [List.length_append]
    omega
  rw [List.take_append_of_le_length hcount]
  intro s hs
  have hhanded := List.mem_of_mem_take hs
  exact ⟨p.arrived s hhanded, p.ok_of_handed hhanded⟩

/-- The jobs that were handed on do not count as under way. -/
theorem underWay_eq (p : Progress start limit origin jobs handed running waiting w state) :
    underWay w.now (handed ++ running) = underWay w.now running := by
  rw [underWay_append, underWay_eq_zero p.arrived, Nat.zero_add]

/-- A job that was taken up is **started**. -/
theorem started {job : β} {rest : List β}
    (p : Progress start limit origin jobs handed running (job :: rest) w state) :
    let given := start w.now (underWay w.now running + 1) job state
    let s : Start β γ := ⟨w.now, job, given.1⟩
    Progress start limit origin jobs handed (running ++ [s]) rest
      { w with slots := slotsOf (running ++ [s]) rest } given.2 := by
  intro given s
  have hassoc : handed ++ (running ++ [s]) = (handed ++ running) ++ [s] :=
    (List.append_assoc handed running [s]).symm
  refine ⟨p.limit_eq, rfl, ?_, ?_, ?_, p.delivered_eq, p.arrived, ?_, ?_⟩
  · have := p.room
    rw [p.slots_eq, length_slotsOf, List.length_cons] at this
    rw [length_slotsOf, List.length_append, List.length_singleton]
    omega
  · rw [hassoc, ← p.jobs_eq]
    simp [s]
  · have hcourse := Course.next w.now job p.course p.prompt p.begun p.room_of_waiting
    rw [p.underWay_eq] at hcourse
    rw [hassoc]
    exact hcourse
  · rw [hassoc]
    intro r hr
    rcases List.mem_append.mp hr with hold | hnew
    · exact p.begun r hold
    · exact Nat.le_of_eq (congrArg Start.instant (List.mem_singleton.mp hnew))
  · rw [hassoc]
    exact p.prompt.append s

/-- A window **waits** for its oldest job. -/
theorem waited {s : Start β γ}
    (p : Progress start limit origin jobs handed (s :: running) waiting w state)
    (hbusy : w.now < s.arrival) :
    Progress start limit origin jobs handed (s :: running) waiting
      { w with now := max w.now s.arrival } state where
  limit_eq := p.limit_eq
  slots_eq := p.slots_eq
  room := p.room
  jobs_eq := p.jobs_eq
  course := p.course
  delivered_eq := p.delivered_eq
  arrived := fun r hr => Nat.le_trans (p.arrived r hr) (Nat.le_max_left _ _)
  begun := fun r hr => Nat.le_trans (p.begun r hr) (Nat.le_max_left _ _)
  prompt := .inr ⟨s, List.mem_append_right handed List.mem_cons_self,
    Nat.max_eq_right (Nat.le_of_lt hbusy)⟩

/-- A value is **handed on**. -/
theorem delivered {s : Start β γ} {value : γ}
    (p : Progress start limit origin jobs handed (s :: running) waiting w state)
    (hdone : ¬ w.now < s.arrival) (hvalue : s.outcome = .ok value) :
    Progress start limit origin jobs (handed ++ [s]) running waiting
      { w with slots := slotsOf running waiting, delivered := w.delivered ++ [value] } state := by
  have hassoc : (handed ++ [s]) ++ running = handed ++ s :: running := by simp
  refine ⟨p.limit_eq, rfl, ?_, ?_, ?_, ?_, ?_, ?_, ?_⟩
  · have := p.room
    rw [p.slots_eq, length_slotsOf, List.length_cons] at this
    rw [length_slotsOf]
    omega
  · rw [hassoc]
    exact p.jobs_eq
  · rw [hassoc]
    exact p.course
  · rw [List.map_append, p.delivered_eq, List.map_append]
    exact congrArg (_ ++ [·]) hvalue
  · intro r hr
    rcases List.mem_append.mp hr with hold | hnew
    · exact p.arrived r hold
    · rw [List.mem_singleton.mp hnew]
      exact Nat.not_lt.mp hdone
  · rw [hassoc]
    exact p.begun
  · rw [hassoc]
    exact p.prompt

end Progress

/-! ### The end of a run -/

/-- **What a run leaves behind**: the jobs that were started are those at the front, and all of them
if the run ends with results; its outcome is that of their outcomes in order, the first fault
ending it; and it ends at an instant at which a job does, or at once. -/
structure Account (start : (now busy : Nat) → β → σ → Answer γ × σ) (limit : Nat) (origin : σ)
    (jobs : List β) (started : List (Start β γ)) (ended : Windowed σ γ) : Prop where
  course : Course start limit origin started ended.state
  jobs_le : started.map Start.job <+: jobs
  outcome_eq : ended.outcome = started.mapM Start.outcome
  complete : ∀ results, ended.outcome = .ok results → started.map Start.job = jobs
  prompt : Prompt ended.finish started

/-- What a run that is **broken off** shows: the jobs at the front have ended and their results have
been handed on; those behind them have been started, and there are no more of them than the window
has places. Without a fault the outcome is what has been handed on; a fault is that of the oldest
job that was not. -/
structure Snapshot (start : (now busy : Nat) → β → σ → Answer γ × σ) (limit : Nat) (origin : σ)
    (handed running : List (Start β γ)) (cut : Windowed σ γ) : Prop where
  course : Course start limit origin (handed ++ running) cut.state
  begun : ∀ s ∈ handed ++ running, s.instant ≤ cut.finish
  arrived : ∀ s ∈ handed, s.arrival ≤ cut.finish ∧ ∃ value, s.outcome = .ok value
  length_le : running.length ≤ limit
  outcome_eq : cut.outcome = handed.mapM Start.outcome ∨
    ∃ s ∈ running.head?, ∃ fault, s.outcome = .error fault ∧ cut.outcome = .error fault

namespace Progress

variable {start : (now busy : Nat) → β → σ → Answer γ × σ} {limit : Nat} {origin : σ}
  {jobs : List β} {handed running : List (Start β γ)} {waiting : List β} {w : Window β γ}
  {state : σ}

/-- A window with nothing left to do has handed everything on. -/
theorem account_of_ended (p : Progress start limit origin jobs handed [] [] w state)
    (hpending : w.pending = []) :
    Account start limit origin jobs handed ⟨w.now, .ok w.delivered, state⟩ := by
  have hcourse := p.course
  have hjobs := p.jobs_eq
  have hprompt := p.prompt
  rw [List.append_nil] at hcourse hjobs hprompt
  rw [hpending, List.append_nil, List.append_nil] at hjobs
  exact ⟨hcourse, hjobs ▸ List.prefix_rfl, (mapM_eq_ok_iff.mpr p.delivered_eq).symm,
    fun _ _ => hjobs, hprompt⟩

/-- A fault that is handed on is the first one in the order of the jobs. -/
theorem account_of_failed {s : Start β γ} {fault : Fault}
    (p : Progress start limit origin jobs handed (s :: running) waiting w state)
    (hfault : s.outcome = .error fault) :
    Account start limit origin jobs (handed ++ s :: running) ⟨w.now, .error fault, state⟩ := by
  refine ⟨p.course, p.jobs_eq ▸ List.prefix_append _ _, ?_, fun _ h => (nomatch h), p.prompt⟩
  rw [List.mapM_append, mapM_eq_ok_iff.mpr p.delivered_eq, List.mapM_cons, hfault]
  rfl

/-- What a window has handed on and started shows when its run is broken off, with any outcome that
goes with it. -/
theorem snapshot (p : Progress start limit origin jobs handed running waiting w state)
    {outcome : Outcome (List γ)}
    (houtcome : outcome = .ok w.delivered ∨
      ∃ s ∈ running.head?, ∃ fault, s.outcome = .error fault ∧ outcome = .error fault) :
    Snapshot start limit origin handed running ⟨w.now, outcome, state⟩ where
  course := p.course
  begun := p.begun
  arrived := fun s hs => ⟨p.arrived s hs, p.ok_of_handed hs⟩
  length_le := by
    have := p.room
    rw [p.slots_eq, length_slotsOf] at this
    omega
  outcome_eq := by
    rw [mapM_eq_ok_iff.mpr p.delivered_eq]
    exact houtcome

/-- **One step of a window**: the run ends, or the window comes further. Jobs that were started
stay started. -/
theorem step (hlimit : 0 < limit)
    (p : Progress start limit origin jobs handed running waiting w state) :
    (∃ handed' running' ended, Account start limit origin jobs (handed' ++ running') ended ∧
        Snapshot start limit origin handed' running' ended ∧
        handed ++ running <+: handed' ++ running' ∧
        ∀ fuel, runFor start (fuel + 1) w state = ended) ∨
      ∃ handed' running' waiting' w' state',
        Progress start limit origin jobs handed' running' waiting' w' state' ∧
          handed ++ running <+: handed' ++ running' ∧
          stepsLeft running' waiting' w' < stepsLeft running waiting w ∧
          ∀ fuel, runFor start (fuel + 1) w state = runFor start fuel w' state' := by
  have hfill := p.fill
  have hslots := hfill.slots_eq
  rw [← stepsLeft_fill running waiting w]
  generalize waiting ++ taken w = waiting at hfill hslots ⊢
  -- a job that has been taken up is started wherever there is nothing to be handed on
  have hstart : ∀ job rest, waiting = job :: rest → (∀ s ∈ running.head?, w.now < s.arrival) →
      ∃ handed' running' waiting' w' state',
        Progress start limit origin jobs handed' running' waiting' w' state' ∧
          handed ++ running <+: handed' ++ running' ∧
          stepsLeft running' waiting' w' < stepsLeft running waiting w.fill ∧
          ∀ fuel, runFor start (fuel + 1) w state = runFor start fuel w' state' := by
    rintro job rest rfl hbusy
    refine ⟨handed, _, rest, _, _, hfill.started, ?_, ?_, runFor_start hslots hbusy⟩
    · rw [← List.append_assoc]
      exact List.prefix_append _ _
    · have := Start.stepsLeft_append_le w.fill.now running
        ⟨w.fill.now, job, (start w.fill.now (underWay w.fill.now running + 1) job state).1⟩
      simp only [stepsLeft, List.length_cons]
      omega
  cases running with
  | nil =>
      cases waiting with
      | nil =>
          have hpending : w.fill.pending = [] := by
            refine p.full_or_taken.resolve_left fun hfull => ?_
            rw [hslots, length_slotsOf] at hfull
            exact absurd hfull (Nat.ne_of_lt hlimit)
          refine .inl ⟨handed, [], _, ?_, hfill.snapshot (.inl rfl), List.prefix_rfl,
            runFor_ended hslots⟩
          rw [List.append_nil]
          exact hfill.account_of_ended hpending
      | cons job rest => exact .inr (hstart job rest rfl (by simp))
  | cons s more =>
      by_cases hbusy : w.now < s.arrival
      · cases waiting with
        | nil =>
            refine .inr ⟨handed, _, [], _, _, hfill.waited hbusy, List.prefix_rfl, ?_,
              runFor_wait hslots hbusy⟩
            exact Nat.add_lt_add_right (Start.stepsLeft_lt_of_ended more hbusy
              (Nat.le_max_right w.now s.arrival)) _
        | cons job rest =>
            refine .inr (hstart job rest rfl fun r hr => ?_)
            obtain rfl := Option.some.inj hr
            exact hbusy
      · cases houtcome : s.outcome with
        | ok value =>
            refine .inr ⟨_, more, waiting, _, _, hfill.delivered hbusy houtcome, ?_, ?_,
              runFor_deliver hslots hbusy houtcome⟩
            · rw [List.append_assoc]
              exact List.prefix_rfl
            · exact Nat.add_lt_add_right (Start.stepsLeft_lt_cons w.now s more) _
        | error fault =>
            exact .inl ⟨handed, s :: more, _, hfill.account_of_failed houtcome,
              hfill.snapshot (.inr ⟨s, rfl, fault, houtcome, rfl⟩), List.prefix_rfl,
              runFor_fail hslots hbusy houtcome⟩

/-- **A run** with enough steps comes to its end, and more steps do not change what it leaves
behind. Broken off earlier, it shows a part of that. -/
theorem runFor_eq (hlimit : 0 < limit)
    (p : Progress start limit origin jobs handed running waiting w state) :
    ∃ started ended, Account start limit origin jobs started ended ∧
      handed ++ running <+: started ∧
      (∀ fuel, stepsLeft running waiting w < fuel → runFor start fuel w state = ended) ∧
      ∀ fuel, ∃ handed' running', handed' ++ running' <+: started ∧
        Snapshot start limit origin handed' running' (runFor start fuel w state) := by
  induction hsteps : stepsLeft running waiting w using Nat.strongRecOn
    generalizing handed running waiting w state with
  | ind steps ih =>
      rcases p.step hlimit with ⟨handed', running', ended, haccount, hsnapshot, hgrown, hrun⟩ |
        ⟨handed', running', waiting', w', state', p', hgrown, hless, hrun⟩
      · refine ⟨handed' ++ running', ended, haccount, hgrown, fun fuel hfuel => ?_, fun fuel => ?_⟩
        · obtain ⟨fuel, rfl⟩ := Nat.exists_eq_succ_of_ne_zero (Nat.ne_zero_of_lt hfuel)
          exact hrun fuel
        · cases fuel with
          | zero => exact ⟨handed, running, hgrown, p.snapshot (.inl rfl)⟩
          | succ fuel => exact ⟨handed', running', List.prefix_rfl, hrun fuel ▸ hsnapshot⟩
      · obtain ⟨started, ended, haccount, hlater, hrest, hcut⟩ := ih _ (hsteps ▸ hless) p' rfl
        refine ⟨started, ended, haccount, hgrown.trans hlater, fun fuel hfuel => ?_, fun fuel => ?_⟩
        · obtain ⟨fuel, rfl⟩ := Nat.exists_eq_succ_of_ne_zero (Nat.ne_zero_of_lt hfuel)
          rw [hrun fuel]
          exact hrest fuel (by omega)
        · cases fuel with
          | zero => exact ⟨handed, running, hgrown.trans hlater, p.snapshot (.inl rfl)⟩
          | succ fuel => exact hrun fuel ▸ hcut fuel

end Progress

/-- A run takes at most three steps for each job. -/
theorem stepsLeft_initial (limit : Nat) (jobs : List β) :
    stepsLeft [] [] ({ limit, pending := jobs } : Window β γ) = 3 * jobs.length := by
  simp [stepsLeft, Start.stepsLeft]

/-- **Every moment of a run**, whoever works on the jobs: broken off after any number of steps, it
shows some of the jobs that are started in the whole run. -/
theorem snapshots_of_run (start : (now busy : Nat) → β → σ → Answer γ × σ) (limit : Nat)
    (jobs : List β) (state : σ) :
    ∃ started, Account start (max limit 1) state jobs started (run start limit jobs state) ∧
      ∀ steps, ∃ handed running, handed ++ running <+: started ∧
        Snapshot start (max limit 1) state handed running
          (runFor start steps { limit := max limit 1, pending := jobs } state) := by
  obtain ⟨started, ended, haccount, -, hrun, hcut⟩ :=
    (Progress.initial start (max limit 1) jobs state).runFor_eq (Nat.le_max_right limit 1)
  rw [stepsLeft_initial] at hrun
  have hended : run start limit jobs state = ended := hrun _ (Nat.lt_succ_self _)
  exact ⟨started, hended ▸ haccount, hcut⟩

/-- **The account of a run**, whoever works on the jobs. It takes at most three steps for each
job. -/
theorem account_of_run (start : (now busy : Nat) → β → σ → Answer γ × σ) (limit : Nat)
    (jobs : List β) (state : σ) :
    (∃ started, Account start (max limit 1) state jobs started (run start limit jobs state)) ∧
      ∀ fuel, 3 * jobs.length < fuel →
        runFor start fuel { limit := max limit 1, pending := jobs } state =
          run start limit jobs state := by
  obtain ⟨started, ended, haccount, -, hrun, -⟩ :=
    (Progress.initial start (max limit 1) jobs state).runFor_eq (Nat.le_max_right limit 1)
  rw [stepsLeft_initial] at hrun
  have hended : run start limit jobs state = ended := hrun _ (Nat.lt_succ_self _)
  exact ⟨⟨started, hended ▸ haccount⟩, fun fuel hfuel => (hrun fuel hfuel).trans hended.symm⟩

end Window

end NodeGateway
