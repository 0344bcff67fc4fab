import NodeGateway.Failover.Dispatch

/-!
# Interleaved Dispatches

Several dispatches on one pool. Each of them is a machine of its own (`Phase`), they share the
pool, and any of them may take the next step: nothing here says in which order they do. A
**run** is a list of steps with what the clock shows during each.

Steps that do not apply, such as the outcome of an attempt that was never made, change nothing.
-/

namespace NodeGateway

/-- Where a dispatch stands. -/
inductive Phase (α : Type) where
  /-- It has not begun. -/
  | idle
  /-- It waits for the outcome of an attempt. -/
  | attempting (attempt : Attempt)
  /-- It has ended. -/
  | ended (outcome : Outcome α)

/-- An attempt that has **ended**: by which dispatch it was made, which it was, and how it ended. -/
structure Ending (α : Type) where
  index : Nat
  attempt : Attempt
  outcome : Outcome α

/-- Some **dispatches on one pool**, with the attempts made so far (by which dispatch, and which)
and those of them that have ended. -/
structure System (α : Type) where
  pool : Pool
  phases : List (Phase α)
  attempts : List (Nat × Attempt) := []
  endings : List (Ending α) := []

/-- One **step** of a system. -/
inductive Event (α : Type) where
  /-- A dispatch begins. -/
  | enter (index : Nat)
  /-- The attempt of a dispatch ends. -/
  | settle (index : Nat) (outcome : Outcome α)
  /-- Somebody outside gives every endpoint that is due another chance. -/
  | recheck

namespace System

/-- A system of `count` dispatches that have not begun. -/
def fresh (pool : Pool) (count : Nat) : System α :=
  { pool := pool, phases := List.replicate count .idle }

/-- Lets a dispatch make an attempt. -/
def makeAttempt (index : Nat) (attempt : Attempt) (pool : Pool) (system : System α) : System α :=
  { system with
    pool := pool
    phases := system.phases.set index (.attempting attempt)
    attempts := system.attempts ++ [(index, attempt)] }

/-- Writes down that an attempt has ended. -/
def noteEnding (ending : Ending α) (system : System α) : System α :=
  { system with endings := system.endings ++ [ending] }

/-- Lets a dispatch end. -/
def finish (index : Nat) (outcome : Outcome α) (pool : Pool) (system : System α) : System α :=
  { system with
    pool := pool
    phases := system.phases.set index (.ended outcome) }

/-- Takes a step during which the clock shows `now`. -/
def step (now : Readings) (event : Event α) (system : System α) : System α :=
  match event with
  | .recheck => { system with pool := system.pool.recheckAll now }
  | .enter index =>
    match system.phases[index]? with
    | some .idle =>
      let (attempt, pool) := system.pool.enter now
      system.makeAttempt index attempt pool
    | _ => system
  | .settle index outcome =>
    match system.phases[index]? with
    | some (.attempting attempt) =>
      let noted := system.noteEnding ⟨index, attempt, outcome⟩
      match noted.pool.settle now attempt outcome with
      | (.retry next, pool) => noted.makeAttempt index next pool
      | (.done outcome, pool) => noted.finish index outcome pool
    | _ => system

/-- Takes steps one after another. -/
def run (system : System α) (events : List (Readings × Event α)) : System α :=
  events.foldl (fun system (now, event) => system.step now event) system

end System

end NodeGateway
