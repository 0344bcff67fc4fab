import NodeGateway.Node.Pool
import NodeGateway.Proofs.Failover.Turns
import NodeGateway.Proofs.Node.Dialogue

/-!
# Every Attempt Makes the Same Request

A pool of nodes is called like a single node. What becomes of the call is decided by the dispatch,
which knows nothing of requests; it only says in which role the endpoint stands that is to be
asked. This module shows that the endpoint is then asked for nothing else than what the pool was
called with.

To see what the endpoints are asked, they are given a **record** (`Endpoints.recorded`), in which
every call is written down with the role of the endpoint, the request and the outcome. The record
makes no difference to a dispatch (`Endpoints.turned_recorded`), and when the dispatch has ended,
its attempts stand in it one after another, all with the request of the caller.

The main result is `Pool.record_of_call`. It holds for nodes of every kind, those of the execution
layer and of the beacon layer among them, and so for each of their methods with whatever arguments.
-/

namespace NodeGateway

variable {I : Interface}

namespace Endpoints

/-- The same endpoints with a **record** of what they were asked and how that ended. -/
def recorded (endpoints : Endpoints I σ) : Endpoints I (σ × List (Role × Exchange I)) where
  now state := endpoints.now state.1
  call role request state :=
    let (outcome, after) := endpoints.call role request state.1
    (outcome, after, state.2 ++ [(role, ⟨request, outcome⟩)])

/-- The **entry** of an attempt that has made a request: the role of the endpoint that was asked,
the request, and how it ended. -/
def entry (request : I.Request) (ended : Attempt × Outcome (I.Reply request)) :
    Role × Exchange I :=
  (ended.1.role, ⟨request, ended.2⟩)

/-- A dispatch under way whose attempts are on record, behind what was there before. -/
def onRecord (request : I.Request) (made : List (Role × Exchange I))
    (underway : Underway σ (I.Reply request)) :
    Underway (σ × List (Role × Exchange I)) (I.Reply request) where
  phase := underway.phase
  pool := underway.pool
  state := (underway.state, made ++ underway.course.map (entry request))
  course := underway.course

variable {endpoints : Endpoints I σ} {request : I.Request}
  {underway next : Underway σ (I.Reply request)}

/-- An attempt that has ended is on record, and the record makes no difference to it. -/
theorem attempt_recorded {attempt : Attempt} {state after : σ}
    {outcome : Outcome (I.Reply request)}
    (h : (endpoints.surroundings request).attempt attempt state = (outcome, after))
    (made : List (Role × Exchange I)) :
    (endpoints.recorded.surroundings request).attempt attempt (state, made) =
      (outcome, after, made ++ [entry request (attempt, outcome)]) := by
  have hcall : endpoints.call attempt.role request state = (outcome, after) := h
  simp only [surroundings, recorded, hcall, entry]

/-- A turn **puts its attempt on record**, and the record makes no difference to it. -/
theorem turned_recorded (h : Underway.Turned (endpoints.surroundings request) underway next)
    (made : List (Role × Exchange I)) :
    (onRecord request made underway).turn (endpoints.recorded.surroundings request) =
      onRecord request made next := by
  cases h with
  | began => rfl
  | wentOn hattempt hsettle | ended hattempt hsettle =>
      have hsame : ∀ state : σ × List (Role × Exchange I),
          (endpoints.recorded.surroundings request).now state =
            (endpoints.surroundings request).now state.1 := fun _ => rfl
      simp only [onRecord, Underway.turn, attempt_recorded hattempt, hsame, hsettle,
        List.map_append, List.map_cons, List.map_nil, List.append_assoc]
  | stayed => rfl

/-- **The record makes no difference** to turns, and holds their attempts in the end. -/
theorem turns_recorded (endpoints : Endpoints I σ) (request : I.Request) (pool : Pool) (state : σ)
    (made : List (Role × Exchange I)) (turns : Nat) :
    (Underway.turn (endpoints.recorded.surroundings request))^[turns]
        { pool, state := (state, made) } =
      onRecord request made
        ((Underway.turn (endpoints.surroundings request))^[turns] { pool, state }) := by
  induction turns with
  | zero => simp [onRecord]
  | succ turns ih =>
      rw [Function.iterate_succ_apply', Function.iterate_succ_apply', ih]
      exact turned_recorded (Underway.turn_turned _ _) made

end Endpoints

namespace Pool

/-- **A pool of nodes passes on what it is called with**, for nodes of every kind, every request,
pools in whatever state and endpoints that behave in whatever way.

A call has the outcome of a dispatch whose attempts make this request, and leaves behind the pool
and the state that the dispatch does. Its attempts are one of the courses that a dispatch can take;
on the record of the endpoints there is an entry for each of them, in their order, and every one of
these is the request of the caller. Without a fallback there is one attempt, the answer of the
primary is that of the pool, and nothing about the pool changes. -/
theorem record_of_call (endpoints : Endpoints I σ) (request : I.Request) (pool : Pool) (state : σ)
    (made : List (Role × Exchange I)) :
    let served := pool.dispatch { now := endpoints.now
                                  attempt attempt := endpoints.call attempt.role request } state
    call endpoints request (pool, state) = (served.outcome, served.pool, served.state) ∧
    (∃ course, course.map Prod.fst = served.attempts ∧
      Stands pool.clientType pool.hasFallback (.ended served.outcome) course ∧
      call endpoints.recorded request (pool, state, made) =
        (served.outcome, served.pool, served.state,
          made ++ course.map (Endpoints.entry request))) ∧
    (pool.hasFallback = true → served.attempts ∈ attemptSequences) ∧
    (pool.hasFallback = false → served.attempts = [.direct] ∧
      let single := endpoints.call .primary request state
      call endpoints request (pool, state) = (single.1, pool, single.2)) := by
  intro served
  let env := endpoints.surroundings request
  let reached := (Underway.turn env)^[3] { pool, state }
  obtain ⟨outcome, hended⟩ : ∃ outcome, reached.result? = some outcome :=
    Option.isSome_iff_exists.mp (Underway.isSome_result?_turns env pool state (Nat.le_refl 3))
  have hserved : served = ⟨outcome, reached.state, reached.pool, reached.course.map Prod.fst⟩ :=
    Underway.eq_dispatch_of_result? hended
  have hstands : Stands pool.clientType pool.hasFallback (.ended outcome) reached.course := by
    have hcourse := (Underway.onCourse_turns env pool state 3).stands
    rwa [Underway.phase_eq_of_result? hended] at hcourse
  -- the same turns, with a record
  have hrecord := Endpoints.turns_recorded endpoints request pool state made 3
  have hrecorded : ((Underway.turn (endpoints.recorded.surroundings request))^[3]
      { pool, state := (state, made) }).result? = some outcome := by
    rw [hrecord]
    exact hended
  refine ⟨rfl, ⟨reached.course, ?_, ?_, ?_⟩, fun hfallback => ?_, fun hfallback => ?_⟩
  · rw [hserved]
  · rw [hserved]
    exact hstands
  · have hcall := Underway.eq_dispatch_of_result? hrecorded
    rw [hrecord] at hcall
    rw [call, hcall, hserved]
    rfl
  · rw [hfallback] at hstands
    rw [hserved]
    have hbegun : (.ended outcome : Phase (I.Reply request)) ≠ .idle := by simp
    simpa [Phase.underway] using hstands.made_mem hbegun
  · have halone := dispatch_of_not_hasFallback hfallback env state
    refine ⟨congrArg Dispatched.attempts halone, ?_⟩
    dsimp only
    rw [call, halone]
    rfl

end Pool

end NodeGateway
