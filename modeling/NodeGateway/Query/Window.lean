import NodeGateway.Request.Script

/-!
# A Window of Requests

Jobs that are worked on in their order, several at a time, and whose results are handed on in
their order. A **window** holds the jobs that have been taken up and whose results have not been
handed on yet, at most `limit` of them; a job that has its result but has to wait for an earlier
one still takes up its place.

Taking a job up does not yet start it. At every instant a result that can be handed on is handed
on first; only then the jobs in the window that have not started do so, the oldest first. The
first fault that is handed on ends everything, also for jobs that have been taken up but not
started.
-/

namespace NodeGateway

/-- A job in the window: it has not started, or it ends at some instant with some outcome. -/
inductive Slot (β γ : Type) where
  | waiting (job : β)
  | running (finish : Nat) (outcome : Outcome γ)

/-- Whether a job has started and not ended by the instant `now`. -/
def Slot.isBusy (now : Nat) : Slot β γ → Bool
  | waiting _ => false
  | running finish _ => now < finish

/-- A **window** over jobs. -/
structure Window (β γ : Type) where
  limit : Nat
  now : Nat := 0
  /-- Jobs that have not been taken up, in their order. -/
  pending : List β
  /-- Jobs that have been taken up, the oldest first. -/
  slots : List (Slot β γ) := []
  /-- Results that have been handed on, in their order. -/
  delivered : List γ := []

namespace Window

/-- Takes up as many jobs as there are free places. -/
def fill (w : Window β γ) : Window β γ :=
  let free := w.limit - w.slots.length
  { w with
    pending := w.pending.drop free
    slots := w.slots ++ (w.pending.take free).map .waiting }

/-- Splits the slots at the oldest job that has not started. -/
def splitWaiting : List (Slot β γ) → Option (List (Slot β γ) × β × List (Slot β γ))
  | [] => none
  | .waiting job :: rest => some ([], job, rest)
  | slot :: rest => (splitWaiting rest).map fun (before, job, after) => (slot :: before, job, after)

/-- How many jobs have started and not ended. -/
def busy (w : Window β γ) : Nat := (w.slots.filter (Slot.isBusy w.now)).length

end Window

/-- How a run of a window ends: when, with the results or the first fault handed on, and the state
of whoever worked on the jobs. -/
structure Windowed (σ γ : Type) where
  finish : Nat
  outcome : Outcome (List γ)
  state : σ

namespace Window

/-- Runs a window for at most `fuel` steps. `start` works on a job: it is told the instant and how
many jobs are being worked on, this one included. -/
def runFor (start : (now busy : Nat) → β → σ → Answer γ × σ) :
    Nat → Window β γ → σ → Windowed σ γ
  | 0, w, state => ⟨w.now, .ok w.delivered, state⟩
  | fuel + 1, w, state =>
    let w := w.fill
    match w.slots with
    | [] => ⟨w.now, .ok w.delivered, state⟩
    | slot :: rest =>
      if slot.isBusy w.now || slot matches .waiting _ then
        match splitWaiting w.slots with
        | some (before, job, after) =>
          let (answer, state) := start w.now (w.busy + 1) job state
          let running := Slot.running (w.now + answer.millis) answer.outcome
          runFor start fuel { w with slots := before ++ running :: after } state
        | none =>
          match slot with
          | .running finish _ => runFor start fuel { w with now := max w.now finish } state
          | .waiting _ => ⟨w.now, .ok w.delivered, state⟩
      else
        match slot with
        | .running _ (.ok value) =>
          runFor start fuel { w with slots := rest, delivered := w.delivered ++ [value] } state
        | .running _ (.error fault) => ⟨w.now, .error fault, state⟩
        | .waiting _ => ⟨w.now, .ok w.delivered, state⟩

/-- Works on all jobs with at most `limit` places in the window, and at least one. A job is
started, waited for and handed on at most once, so three steps for each are enough. -/
def run (start : (now busy : Nat) → β → σ → Answer γ × σ) (limit : Nat) (jobs : List β)
    (state : σ) : Windowed σ γ :=
  runFor start (3 * jobs.length + 1) { limit := max limit 1, pending := jobs } state

end Window

end NodeGateway
