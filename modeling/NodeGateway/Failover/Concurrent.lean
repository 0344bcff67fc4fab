import NodeGateway.Failover.Interleaving
import NodeGateway.Request.Scope

/-!
# Concurrent Dispatches on a Clock

Dispatches that run at the same time against scripted endpoints. This module only decides **when**
each of them takes its next step; the steps themselves are those of `System`.

Every call knows when it has to be resumed next. The call with the least such instant goes first,
and of several at one instant the one with the least index; cancellations come behind everything
else of their instant. A call is resumed at most three times: to begin, and once for each attempt.
-/

namespace NodeGateway

/-- A **call** that dispatches a request: when it begins, the scripts of the endpoints, and what
guards its attempts. -/
structure Call (α : Type) where
  begins : Nat
  primary : Script α
  fallback : Script α
  /-- The default time of each attempt, if attempts are guarded. -/
  tier : Option Nat
  /-- The scope around the whole dispatch, built when it begins. -/
  scope : List ScopeStep

/-- When a call is resumed next: at what instant, and whether behind the others of it. -/
structure Wake where
  instant : Nat
  afterOthers : Bool := false

/-- Whether one call is resumed before another with a greater index. -/
def Wake.before (a b : Wake) : Bool :=
  a.instant < b.instant ||
    (a.instant = b.instant && (!a.afterOthers || b.afterOthers))

/-- A **call under way**. -/
structure Running (α : Type) where
  call : Call α
  scope : Scope
  /-- When to go on, and with which outcome of an attempt; none once the call has ended. -/
  wake : Option (Wake × Option (Outcome α))
  began : Nat := 0
  ended : Nat := 0

/-- The **state of the calls** and of what they share. -/
structure Timeline (α : Type) where
  system : System α
  clock : Clock
  /-- The instant of the clock at which the calls were made. -/
  origin : Nat
  calls : List (Running α)
  /-- The fault of an endpoint without a script. -/
  missing : Fault
  /-- The attempts that were begun: when, by which call and on which endpoint. -/
  begun : List (Nat × Nat × Role) := []

namespace Timeline

/-- The calls before any of them has begun. -/
def start (pool : Pool) (clock : Clock) (missing : Fault) (calls : List (Call α)) :
    Timeline α where
  system := System.fresh pool calls.length
  clock := clock
  origin := clock.elapsed
  missing := missing
  calls := calls.map fun call =>
    { call := call, scope := {}, wake := some ({ instant := call.begins }, none) }

/-- The index and the wake-up of the call that goes next among those from index `index` on. -/
def nextFrom (index : Nat) : List (Running α) → Option (Nat × Wake × Option (Outcome α))
  | [] => none
  | running :: rest =>
    match running.wake, nextFrom (index + 1) rest with
    | none, later => later
    | some (wake, outcome), none => some (index, wake, outcome)
    | some (wake, outcome), some (other, otherWake, otherOutcome) =>
      if wake.before otherWake then some (index, wake, outcome)
      else some (other, otherWake, otherOutcome)

/-- The next answer of the endpoint in a role, and the call with the script behind it. -/
def answerOf (missing : Fault) (role : Role) (call : Call α) : Answer α × Call α :=
  match role with
  | .primary =>
    let (answer, rest) := call.primary.next missing
    (answer, { call with primary := rest })
  | .fallback =>
    let (answer, rest) := call.fallback.next missing
    (answer, { call with fallback := rest })

/-- Starts the attempt that a call has just decided on. The endpoint is asked in any case: a scope
that is cancelled by then only keeps its answer from being awaited. -/
def startAttempt (index now : Nat) (attempt : Attempt) (running : Running α)
    (timeline : Timeline α) : Timeline α :=
  let (answer, call) := answerOf timeline.missing attempt.role running.call
  let ended := match running.call.tier with
    | none => answer.unguarded now
    | some tier => running.scope.guard "fetch" tier now answer
  let wake := some ({ instant := ended.finish, afterOthers := ended.afterOthers },
    some ended.outcome)
  { timeline with
    clock := timeline.clock.jump answer.jump
    calls := timeline.calls.set index { running with call := call, wake := wake }
    begun := timeline.begun ++ [(now, index, attempt.role)] }

/-- Goes on with a call according to the phase that its dispatch has reached. -/
def follow (index now : Nat) (running : Running α) (timeline : Timeline α) : Timeline α :=
  match timeline.system.phases[index]? with
  | some (.attempting attempt) => timeline.startAttempt index now attempt running
  | _ => { timeline with calls := timeline.calls.set index { running with
      wake := none, ended := now } }

/-- Resumes one call. -/
def resume (index : Nat) (wake : Wake) (outcome : Option (Outcome α)) (timeline : Timeline α) :
    Timeline α :=
  match timeline.calls[index]? with
  | none => timeline
  | some running =>
    let now := wake.instant
    let clock := { timeline.clock with elapsed := timeline.origin + now }
    match outcome with
    | none =>
      let system := timeline.system.step clock.now (.enter index)
      let scope := (Scope.build? now (running.call.scope)).getD {}
      follow index now { running with scope := scope, began := now }
        { timeline with system := system, clock := clock }
    | some outcome =>
      let system := timeline.system.step clock.now (.settle index outcome)
      follow index now running { timeline with system := system, clock := clock }

/-- Resumes calls until none is left to be resumed, at most `steps` times. -/
def runFor : Nat → Timeline α → Timeline α
  | 0, timeline => timeline
  | steps + 1, timeline =>
    match nextFrom 0 timeline.calls with
    | none => timeline
    | some (index, wake, outcome) => runFor steps (timeline.resume index wake outcome)

/-- Runs all calls to their ends. -/
def finish (timeline : Timeline α) : Timeline α :=
  timeline.runFor (3 * timeline.calls.length)

end Timeline

end NodeGateway
