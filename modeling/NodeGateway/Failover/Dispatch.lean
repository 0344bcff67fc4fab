import NodeGateway.Failover.Pool

/-!
# Dispatching a Request

How a pool serves one request. A dispatch is a sequence of **attempts**, each of them one call of
one endpoint. Between two attempts nothing waits, so a dispatch is a small machine: `Pool.enter`
chooses the first attempt, and `Pool.settle` takes the outcome of an attempt and either ends the
dispatch or chooses the next one. Dispatches that run at the same time are interleavings of these
two steps on one pool.

With a fallback the order is: the primary if it is ready, else the fallback if it is ready, else
the primary all the same, by force. A lost connection to the primary takes it down and the
dispatch goes on without it; a lost connection to the fallback ends the dispatch. Whatever else
an attempt ends in is the result. A forced attempt never takes anything down, and one that does
not lose the connection makes the primary ready again.

Without a fallback there is a single attempt, and nothing is noted about it.

## Main definitions

* `Attempt`, `Verdict`, `Pool.choose`, `Pool.enter`, `Pool.settle`;
* `Pool.dispatch`, a dispatch that runs to its end on its own.

`Pool.settle_retry` says that only an ordinary attempt on the primary is followed by another
attempt, and never by one on the ordinary primary again; so there are at most two.
-/

namespace NodeGateway

/-- One call of an endpoint in the course of a dispatch. -/
inductive Attempt where
  /-- The only attempt of a pool without a fallback. -/
  | direct
  /-- An attempt on an endpoint that is ready. -/
  | ordinary (role : Role)
  /-- An attempt on the primary although it is not ready. -/
  | forced
  deriving DecidableEq, Repr

namespace Attempt

/-- The role of the endpoint that an attempt calls. -/
def role : Attempt → Role
  | direct => .primary
  | ordinary role => role
  | forced => .primary

/-- How many attempts may still follow. -/
def followers : Attempt → Nat
  | ordinary .primary => 1
  | direct | ordinary .fallback | forced => 0

end Attempt

/-- What follows from the outcome of an attempt. -/
inductive Verdict (α : Type) where
  /-- The dispatch goes on with another attempt. -/
  | retry (attempt : Attempt)
  /-- The dispatch has ended. -/
  | done (outcome : Outcome α)

namespace Pool

/-- Chooses the next attempt of a pool with a fallback. A primary that this dispatch itself has
lost is left out: it is neither rechecked nor tried in the ordinary way. -/
def choose (primaryLost : Bool) (now : Readings) (pool : Pool) : Attempt × Pool :=
  let pool := if primaryLost then pool else pool.recheck now.primary .primary
  let pool := pool.recheck now.fallback .fallback
  if !primaryLost && pool.isReady .primary then
    (.ordinary .primary, pool.note (.dispatching .primary))
  else if pool.isReady .fallback then
    (.ordinary .fallback, pool.note (.dispatching .fallback))
  else (.forced, pool.note .forcing)

/-- The **first attempt** of a dispatch. -/
def enter (now : Readings) (pool : Pool) : Attempt × Pool :=
  if pool.hasFallback then pool.choose false now else (.direct, pool)

/-- Takes the **outcome of an attempt**. -/
def settle (now : Readings) (attempt : Attempt) (outcome : Outcome α) (pool : Pool) :
    Verdict α × Pool :=
  match attempt, outcome with
  | .direct, outcome => (.done outcome, pool)
  | .ordinary role, .error fault =>
    if fault.isDisconnected then
      let pool := pool.markLost (now.of role) role fault
      match role with
      | .primary =>
        let (next, pool) := pool.choose true now
        (.retry next, pool)
      | .fallback => (.done (.error (.allClientsFailed pool.clientType)), pool)
    else (.done (.error fault), pool)
  | .ordinary _, .ok value => (.done (.ok value), pool)
  | .forced, outcome =>
    if outcome.isDisconnected then (.done outcome, pool)
    else (.done outcome, pool.markRecovered .primary)

/-- A dispatch that has lost the primary does not try it in the ordinary way again. -/
theorem choose_true_followers (now : Readings) (pool : Pool) :
    (pool.choose true now).1.followers = 0 := by
  simp only [choose, Bool.not_true, Bool.false_and, Bool.false_eq_true, if_false, if_true]
  split <;> rfl

/-- Only an ordinary attempt on the primary is followed by another one, and that other one is
the last. -/
theorem settle_retry {now : Readings} {attempt next : Attempt} {outcome : Outcome α} {pool : Pool}
    (h : (pool.settle now attempt outcome).1 = .retry next) :
    attempt = .ordinary .primary ∧ next.followers = 0 := by
  unfold settle at h
  split at h
  · simp at h
  · split at h
    · split at h
      · simp only [Verdict.retry.injEq] at h
        subst h
        exact ⟨rfl, choose_true_followers _ _⟩
      · simp at h
    · simp at h
  · simp at h
  · split at h <;> simp at h

/-- Every retry leaves fewer attempts to follow. -/
theorem followers_lt_of_retry {now : Readings} {attempt next : Attempt} {outcome : Outcome α}
    {pool : Pool} (h : (pool.settle now attempt outcome).1 = .retry next) :
    next.followers < attempt.followers := by
  obtain ⟨rfl, hnext⟩ := settle_retry h
  rw [hnext]
  decide

end Pool

/-- The **surroundings of a dispatch** that runs on its own: a state that shows the time and
answers attempts. -/
structure Surroundings (σ α : Type) where
  now : σ → Readings
  attempt : Attempt → σ → Outcome α × σ

/-- What a dispatch leaves behind: its outcome, the state of its surroundings, the pool and the
attempts that were made, in order. -/
structure Dispatched (σ α : Type) where
  outcome : Outcome α
  state : σ
  pool : Pool
  attempts : List Attempt

namespace Pool

/-- Makes an attempt and those that follow it. -/
def drive (env : Surroundings σ α) (attempt : Attempt) (state : σ) (pool : Pool) :
    Dispatched σ α :=
  let (outcome, state) := env.attempt attempt state
  match _h : pool.settle (env.now state) attempt outcome with
  | (.done outcome, pool) => ⟨outcome, state, pool, [attempt]⟩
  | (.retry next, pool) =>
    let rest := drive env next state pool
    { rest with attempts := attempt :: rest.attempts }
termination_by attempt.followers
decreasing_by exact followers_lt_of_retry (congrArg Prod.fst _h)

/-- **Dispatches** one request and stays with it until it has ended. -/
def dispatch (env : Surroundings σ α) (state : σ) (pool : Pool) : Dispatched σ α :=
  let (attempt, pool) := pool.enter (env.now state)
  pool.drive env attempt state

end Pool

end NodeGateway
