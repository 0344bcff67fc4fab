import NodeGateway.Log
import NodeGateway.Problem
import NodeGateway.Request.Script

/-!
# Polling

A job that is run again and again, with a pause between the end of one run and the start of the
next, until it is cancelled. A failing run is logged and changes nothing else. A cancellation takes
effect between runs: a run in progress is finished, a pause is not. At the instant at which a
pause ends the cancellation comes first.

Whoever shuts the gateway down cancels the jobs and waits for one after the other (`shutDown`).

Times are counted from the start of the first run, in whatever the clock counts in.
-/

namespace NodeGateway.Polling

/-- What polling leaves behind: when the runs started, when it stopped, and what was logged. -/
structure Polled where
  starts : List Nat
  stopped : Nat
  logs : List LogLine

/-- The log line of a run that failed. -/
def failureLog (name : String) (fault : Fault) : LogLine :=
  ⟨.error, name ++ " encountered an error: " ++ fault.message⟩

/-- The log line of the end. -/
def stoppedLog (name : String) : LogLine := ⟨.info, name ++ " stopped"⟩

/-- The log lines of a run. -/
def runLogs (name : String) : Outcome Unit → List LogLine
  | .ok () => []
  | .error fault => [failureLog name fault]

/-- Polls from the instant `now` on, beginning with run `k`, for at most `fuel` runs. -/
def pollFrom (name : String) (pause cancelled : Nat) (runs : Nat → Answer Unit) :
    (fuel k now : Nat) → Polled
  | 0, _, now => ⟨[], now, [stoppedLog name]⟩
  | fuel + 1, k, now =>
    let run := runs k
    let ended := now + run.millis
    let logs := runLogs name run.outcome
    if cancelled ≤ ended + pause then
      ⟨[now], max cancelled ended, logs ++ [stoppedLog name]⟩
    else
      let later := pollFrom name pause cancelled runs fuel (k + 1) (ended + pause)
      ⟨now :: later.starts, later.stopped, logs ++ later.logs⟩

/-- **Polls** from instant zero until it is cancelled, run `k` ending as `runs k` says. If the clock
moves during a pause there are at most as many runs as instants until then, and one more. If it does
not, `spare` further runs may take no time at all. -/
def pollFor (name : String) (pause cancelled spare : Nat) (runs : Nat → Answer Unit) : Polled :=
  pollFrom name pause cancelled runs (cancelled + spare + 1) 0 0

/-- Polls, the runs ending as a script says. -/
def poll (name : String) (missing : Fault) (pause cancelled : Nat) (runs : Script Unit) : Polled :=
  pollFor name pause cancelled runs.length (runs.answer missing)

/-! ### Shutting down -/

/-- How a task **ends**: when, and why it broke off if it did not come to its own end. -/
structure TaskEnd where
  finish : Nat
  failure : Option String := none

/-- A job that was polled has come to its own end. -/
def Polled.taskEnd (polled : Polled) : TaskEnd := { finish := polled.stopped }

/-- **Shuts down**: waits from the instant `now` on, at which the tasks are cancelled, for one task
after the other, up to the first that broke off. The result is when this is over, and how. -/
def shutDown (now : Nat) : List TaskEnd → Nat × Except Problem Unit
  | [] => (now, .ok ())
  | task :: rest =>
    let now := max now task.finish
    match task.failure with
    | some reason => (now, .error (.other reason))
    | none => shutDown now rest

end NodeGateway.Polling
