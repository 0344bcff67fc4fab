import NodeGateway.Node.Dialogue

/-!
# What an Inquiry Asks

An inquiry is run against whoever answers, and all that can be seen of a run from outside is its
**exchanges**: the requests that were made, in their order, each with its outcome. This module says
how to reason about them without looking into the inquiry.

An inquiry **asks** a list of questions (`Inquiry.Asks`) if it makes them one after another, whoever
answers and whatever the answers are, until one of them fails. Then it stops, and its result is the
fault of the exchange that failed. If none fails, it has made all of them and ends with a value.
Which exchanges fail is a parameter, because an inquiry may also refuse an answer that it was given.

The relation follows the way in which inquiries are put together. One that asks nothing, one that
asks a single request, and one that goes on with another ask what one expects (`Asks.pure`,
`Asks.request`, `Asks.bind`), so what an inquiry asks is derived step by step along its text.

## Main definitions and results

* `Exchange`, `Dialogue.exchanges` and `Inquiry.exchanges`;
* `Inquiry.run_bind_of_ok`, `Inquiry.exchanges_bind_of_ok` and their counterparts for a fault;
* `Inquiry.run_bind_pure` and `Inquiry.exchanges_bind_pure`;
* `Inquiry.Stopped`, `Inquiry.Completed` and `Inquiry.Asks`, with a rule for each way to build one.
-/

namespace NodeGateway

/-- An **exchange**: a request that was made to a node, and how it ended. -/
structure Exchange (I : Interface) where
  request : I.Request
  outcome : Outcome (I.Reply request)

variable {I : Interface}

namespace Dialogue

/-- The **exchanges** of a dialogue with whoever answers from a state, in their order. -/
def exchanges (respond : (request : I.Request) → σ → Outcome (I.Reply request) × σ) :
    Dialogue I α → σ → List (Exchange I)
  | .done _, _ => []
  | .ask request next, state =>
    let (outcome, state) := respond request state
    ⟨request, outcome⟩ :: (next outcome).exchanges respond state

/-- A dialogue that goes on is held to its end, and what follows is held from there. -/
theorem run_bind (respond : (request : I.Request) → σ → Outcome (I.Reply request) × σ)
    (dialogue : Dialogue I α) (next : α → Dialogue I β) (state : σ) :
    (dialogue.bind next).run respond state =
      (next (dialogue.run respond state).1).run respond (dialogue.run respond state).2 := by
  induction dialogue generalizing state with
  | done value => rfl
  | ask request rest ih => exact ih (respond request state).1 (respond request state).2

/-- The exchanges of what follows come behind those of the dialogue. -/
theorem exchanges_bind (respond : (request : I.Request) → σ → Outcome (I.Reply request) × σ)
    (dialogue : Dialogue I α) (next : α → Dialogue I β) (state : σ) :
    (dialogue.bind next).exchanges respond state = dialogue.exchanges respond state ++
      (next (dialogue.run respond state).1).exchanges respond (dialogue.run respond state).2 := by
  induction dialogue generalizing state with
  | done value => rfl
  | ask request rest ih =>
      exact congrArg (List.cons _) (ih (respond request state).1 (respond request state).2)

end Dialogue

namespace Inquiry

/-- The **exchanges** of an inquiry with whoever answers from a state, in their order. -/
def exchanges (respond : (request : I.Request) → σ → Outcome (I.Reply request) × σ)
    (inquiry : Inquiry I α) (state : σ) : List (Exchange I) :=
  Dialogue.exchanges respond (ExceptT.run inquiry) state

variable {respond : (request : I.Request) → σ → Outcome (I.Reply request) × σ}
  {inquiry : Inquiry I α} {next : α → Inquiry I β} {state after : σ} {value : α}
  {fault : Fault}

/-! ### Asking and going on -/

theorem run_request (question : I.Request) (state : σ) :
    (request question).run respond state = respond question state := rfl

theorem exchanges_request (question : I.Request) (state : σ) :
    (request question).exchanges respond state = [⟨question, (respond question state).1⟩] := rfl

/-- How an inquiry has ended decides what comes behind it. -/
theorem run_bind : (inquiry >>= next).run respond state =
    Dialogue.run respond (ExceptT.bindCont next (inquiry.run respond state).1)
      (inquiry.run respond state).2 :=
  Dialogue.run_bind respond inquiry (ExceptT.bindCont next) state

theorem exchanges_bind : (inquiry >>= next).exchanges respond state =
    inquiry.exchanges respond state ++
      Dialogue.exchanges respond (ExceptT.bindCont next (inquiry.run respond state).1)
        (inquiry.run respond state).2 :=
  Dialogue.exchanges_bind respond inquiry (ExceptT.bindCont next) state

/-- An inquiry that ends with a value goes on with it. -/
theorem run_bind_of_ok (h : inquiry.run respond state = (.ok value, after)) :
    (inquiry >>= next).run respond state = (next value).run respond after := by
  rw [run_bind, h]
  rfl

/-- An inquiry that ends in a fault does not go on. -/
theorem run_bind_of_error (h : inquiry.run respond state = (.error fault, after)) :
    (inquiry >>= next).run respond state = (.error fault, after) := by
  rw [run_bind, h]
  rfl

theorem exchanges_bind_of_ok (h : inquiry.run respond state = (.ok value, after)) :
    (inquiry >>= next).exchanges respond state =
      inquiry.exchanges respond state ++ (next value).exchanges respond after := by
  rw [exchanges_bind, h]
  rfl

theorem exchanges_bind_of_error (h : inquiry.run respond state = (.error fault, after)) :
    (inquiry >>= next).exchanges respond state = inquiry.exchanges respond state := by
  rw [exchanges_bind, h]
  exact List.append_nil _

theorem run_throw (fault : Fault) (state : σ) :
    (throw fault : Inquiry I α).run respond state = (.error fault, state) := rfl

theorem exchanges_throw (fault : Fault) (state : σ) :
    (throw fault : Inquiry I α).exchanges respond state = [] := rfl

/-- Putting the value into another form changes nothing else. -/
theorem run_bind_pure (inquiry : Inquiry I α) (form : α → β) (state : σ) :
    (inquiry >>= fun value => pure (form value)).run respond state =
      ((inquiry.run respond state).1.map form, (inquiry.run respond state).2) := by
  rcases hrun : inquiry.run respond state with ⟨outcome, after⟩
  cases outcome with
  | error fault => rw [run_bind_of_error hrun]; rfl
  | ok value => rw [run_bind_of_ok hrun]; rfl

theorem exchanges_bind_pure (inquiry : Inquiry I α) (form : α → β) (state : σ) :
    (inquiry >>= fun value => pure (form value)).exchanges respond state =
      inquiry.exchanges respond state := by
  rcases hrun : inquiry.run respond state with ⟨outcome, after⟩
  cases outcome with
  | error fault => rw [exchanges_bind_of_error hrun]
  | ok value => rw [exchanges_bind_of_ok hrun]; exact List.append_nil _

/-- A request that is made for its effect decides by its outcome. -/
theorem run_request_return (question : I.Request) (value : α) (state : σ) :
    ((request question >>= fun _ => pure value).run respond state).1 =
      (respond question state).1.map fun _ => value := by
  rw [run_bind_pure, run_request]

theorem exchanges_request_return (question : I.Request) (value : α) (state : σ) :
    (request question >>= fun _ => pure value).exchanges respond state =
      [⟨question, (respond question state).1⟩] := by
  rw [exchanges_bind_pure, exchanges_request]

/-! ### Asking questions -/

variable {Fails : Exchange I → Fault → Prop} {questions rest : List I.Request}
  {exchanged before behind : List (Exchange I)} {outcome : Outcome α}

/-- Some exchanges are those of an inquiry that has **stopped** with a fault: the last of them is
the first that failed, and they are about the questions that come first. -/
structure Stopped (Fails : Exchange I → Fault → Prop) (questions : List I.Request)
    (exchanged : List (Exchange I)) (fault : Fault) : Prop where
  asked : exchanged.map (·.request) <+: questions
  failed : ∃ before last, exchanged = before ++ [last] ∧ Fails last fault ∧
    ∀ exchange ∈ before, ∀ fault, ¬ Fails exchange fault

/-- Some exchanges are those of an inquiry that has **completed** its questions: they are about all
of them, and none has failed. -/
structure Completed (Fails : Exchange I → Fault → Prop) (questions : List I.Request)
    (exchanged : List (Exchange I)) : Prop where
  asked : exchanged.map (·.request) = questions
  kept : ∀ exchange ∈ exchanged, ∀ fault, ¬ Fails exchange fault

theorem Completed.nil : Completed Fails [] [] := ⟨rfl, nofun⟩

theorem Completed.asked_le (h : Completed Fails questions exchanged) :
    exchanged.map (·.request) <+: questions :=
  h.asked ▸ List.prefix_refl _

theorem Completed.append (h : Completed Fails questions before)
    (hbehind : Completed Fails rest behind) :
    Completed Fails (questions ++ rest) (before ++ behind) := by
  refine ⟨by rw [List.map_append, h.asked, hbehind.asked], fun exchange hmem => ?_⟩
  rcases List.mem_append.mp hmem with hmem | hmem
  · exact h.kept exchange hmem
  · exact hbehind.kept exchange hmem

/-- Questions that would have come later are no matter for an inquiry that has stopped. -/
theorem Stopped.append_questions (h : Stopped Fails questions exchanged fault)
    (rest : List I.Request) : Stopped Fails (questions ++ rest) exchanged fault :=
  ⟨h.asked.trans (List.prefix_append questions rest), h.failed⟩

/-- An inquiry that stops behind one that has completed its questions stops behind both. -/
theorem Completed.append_stopped (h : Completed Fails questions before)
    (hbehind : Stopped Fails rest behind fault) :
    Stopped Fails (questions ++ rest) (before ++ behind) fault := by
  obtain ⟨middle, last, rfl, hfails, hkept⟩ := hbehind.failed
  refine ⟨?_, before ++ middle, last, (List.append_assoc ..).symm, hfails, fun exchange hmem => ?_⟩
  · rw [List.map_append, h.asked]
    exact (List.prefix_append_right_inj questions).mpr hbehind.asked
  · rcases List.mem_append.mp hmem with hmem | hmem
    · exact h.kept exchange hmem
    · exact hkept exchange hmem

/-- How an inquiry **ends** that asks some questions: it has stopped, or it has completed them and
its value stands in some relation to the exchanges. -/
inductive Ends (Fails : Exchange I → Fault → Prop) (questions : List I.Request)
    (Post : List (Exchange I) → α → Prop) : List (Exchange I) → Outcome α → Prop
  | stopped {exchanged : List (Exchange I)} {fault : Fault}
      (stopped : Stopped Fails questions exchanged fault) :
      Ends Fails questions Post exchanged (.error fault)
  | completed {exchanged : List (Exchange I)} {value : α}
      (completed : Completed Fails questions exchanged) (post : Post exchanged value) :
      Ends Fails questions Post exchanged (.ok value)

theorem Ends.imp {Post Post' : List (Exchange I) → α → Prop}
    (h : Ends Fails questions Post exchanged outcome)
    (hpost : ∀ exchanged value, Post exchanged value → Post' exchanged value) :
    Ends Fails questions Post' exchanged outcome := by
  cases h with
  | stopped hstopped => exact .stopped hstopped
  | completed hcompleted hvalue => exact .completed hcompleted (hpost _ _ hvalue)

/-- An inquiry **asks** some questions if it ends so whoever answers. -/
def Asks (Fails : Exchange I → Fault → Prop) (questions : List I.Request)
    (inquiry : Inquiry I α) (Post : List (Exchange I) → α → Prop) : Prop :=
  ∀ (σ : Type) (respond : (request : I.Request) → σ → Outcome (I.Reply request) × σ) (state : σ),
    Ends Fails questions Post (inquiry.exchanges respond state) (inquiry.run respond state).1

namespace Asks

variable {Post Post' : List (Exchange I) → α → Prop} {Next : α → List (Exchange I) → β → Prop}

/-- What is asked does not depend on how much is said about the value. -/
theorem imp (h : Asks Fails questions inquiry Post)
    (hpost : ∀ exchanged value, Post exchanged value → Post' exchanged value) :
    Asks Fails questions inquiry Post' :=
  fun σ respond state => (h σ respond state).imp hpost

/-- A value asks nothing. -/
theorem pure (value : α) :
    Asks Fails [] (Pure.pure value : Inquiry I α) fun exchanged result =>
      exchanged = [] ∧ result = value :=
  fun _ _ _ => .completed .nil ⟨rfl, rfl⟩

/-- **A single request** asks just this, and ends with the answer. -/
theorem request {question : I.Request}
    (hfails : ∀ outcome fault, Fails ⟨question, outcome⟩ fault ↔ outcome = .error fault) :
    Asks Fails [question] (Inquiry.request question) fun exchanged value =>
      exchanged = [⟨question, .ok value⟩] := by
  intro σ respond state
  rw [exchanges_request, run_request]
  generalize (respond question state).1 = outcome
  cases outcome with
  | error fault =>
      refine .stopped ⟨List.prefix_refl _, [], _, rfl, (hfails _ _).mpr rfl, nofun⟩
  | ok value =>
      refine .completed ⟨rfl, fun exchange hmem fault hfault => ?_⟩ rfl
      rw [List.mem_singleton.mp hmem, hfails] at hfault
      cases hfault

/-- **A request whose answer is judged** asks just this, if refusing an answer counts as a failure
of the exchange. -/
theorem judge {question : I.Request} {next : I.Reply question → Inquiry I α}
    (herror : ∀ fault, Fails ⟨question, .error fault⟩ fault)
    (hnext : ∀ answer,
      (∃ fault, next answer = throw fault ∧ Fails ⟨question, .ok answer⟩ fault) ∨
        ∃ value, next answer = Pure.pure value ∧ (∀ fault, ¬ Fails ⟨question, .ok answer⟩ fault) ∧
          Post [⟨question, .ok answer⟩] value) :
    Asks Fails [question] (Inquiry.request question >>= next) Post := by
  intro σ respond state
  rcases hanswer : respond question state with ⟨outcome, after⟩
  have hrun : (Inquiry.request question).run respond state = (outcome, after) := hanswer
  cases outcome with
  | error fault =>
      rw [run_bind_of_error hrun, exchanges_bind_of_error hrun, exchanges_request, hanswer]
      exact .stopped ⟨List.prefix_refl _, [], _, rfl, herror fault, nofun⟩
  | ok answer =>
      rw [run_bind_of_ok hrun, exchanges_bind_of_ok hrun, exchanges_request, hanswer]
      rcases hnext answer with ⟨fault, hthrow, hfails⟩ | ⟨value, hpure, hkept, hpost⟩
      · rw [hthrow]
        exact .stopped ⟨List.prefix_refl _, [], _, rfl, hfails, nofun⟩
      · rw [hpure]
        refine .completed ⟨rfl, fun exchange hmem => ?_⟩ hpost
        rw [List.mem_singleton.mp hmem]
        exact hkept

/-- **Going on**: an inquiry asks its questions, and what follows asks the rest. -/
theorem bind (h : Asks Fails questions inquiry Post)
    (hnext : ∀ value, Asks Fails rest (next value) (Next value)) :
    Asks Fails (questions ++ rest) (inquiry >>= next) fun exchanged result =>
      ∃ value before behind, exchanged = before ++ behind ∧ Post before value ∧
        Next value behind result := by
  intro σ respond state
  rcases hrun : inquiry.run respond state with ⟨outcome, after⟩
  have hends := h σ respond state
  rw [hrun] at hends
  generalize hexchanged : inquiry.exchanges respond state = exchanged at hends
  cases hends with
  | stopped hstopped =>
      rw [run_bind_of_error hrun, exchanges_bind_of_error hrun, hexchanged]
      exact .stopped (hstopped.append_questions rest)
  | @completed value hcompleted hpost =>
      rw [run_bind_of_ok hrun, exchanges_bind_of_ok hrun, hexchanged]
      have hrest := hnext value σ respond after
      generalize (next value).exchanges respond after = behind at hrest ⊢
      generalize ((next value).run respond after).1 = result at hrest ⊢
      cases hrest with
      | stopped hstopped => exact .stopped (hcompleted.append_stopped hstopped)
      | completed hbehind hresult =>
          exact .completed (hcompleted.append hbehind) ⟨value, _, _, rfl, hpost, hresult⟩

end Asks

end Inquiry

end NodeGateway
