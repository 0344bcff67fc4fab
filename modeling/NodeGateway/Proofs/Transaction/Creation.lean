import Mathlib.Data.List.Forall2
import NodeGateway.Proofs.Fault.Context
import NodeGateway.Proofs.Node.Dialogue
import NodeGateway.Transaction.Submission

/-!
# Creating Several Submissions

Submissions that belong together are created one after another, and creating one is itself a
conversation with a node that may change what the next one finds. A submission that cannot be had
makes those behind it useless, so nothing must be asked for them any more. And whoever reads the
fault has to learn which of the submissions it was, and whether a node was out of reach or the
transaction itself would fail.

What every creator would do if none stopped the others is laid out first (`creations`): the state
that it finds is the one that the creators before it have left. A creation **offends**
(`Creation.Offends`) if it has failed, or if failed simulations are faults and its own has failed.
The fault is part of the relation, and of a failed creation it is the same kind of fault with the
description in front of the text, where there is a text (`Fault.Labelled`). Creating submissions
ends in one of two ways (`Creation.Concludes`): no creation offends and each has become a
submission, or the first that offends is the last that is made.

## Main results

* `Submission.concludes_createAll`: how the creation ends, and what was asked until then;
* `Creation.Offends.isUnreachable_iff`: a fault says that a node is out of reach exactly if the
  creation has failed with such a fault;
* `Submission.course_of_createAll`: the submissions or the fault, and the creators that have run.
-/

namespace NodeGateway

variable {I : Interface}

/-! ### What the creators do -/

/-- What a creator of one of several submissions has done: what it is called, its exchanges with
the node, and how it has ended. -/
structure Creation (I : Interface) where
  description : String
  exchanged : List (Exchange I)
  outcome : Outcome TransactionInfo

namespace Creation

variable {strict : Bool} {creation : Creation I} {creations : List (Creation I)}
  {submission : Submission} {fault : Fault} {ran : Nat} {result : Outcome (List Submission)}

/-- A creation **offends** with a fault: it has failed, or its simulation has and that counts. -/
inductive Offends (strict : Bool) (creation : Creation I) : Fault → Prop
  | failed {cause fault : Fault} (outcome : creation.outcome = .error cause)
      (labelled : cause.Labelled ("error creating " ++ creation.description ++ " TX: ") fault) :
      Offends strict creation fault
  | refused {info : TransactionInfo} {reason : String} (counts : strict = true)
      (outcome : creation.outcome = .ok info) (failure : info.simulation.failure = some reason) :
      Offends strict creation
        (.other ("error simulating " ++ creation.description ++ " TX: " ++ reason))

/-- A creation **yields** a submission: the draft that was created, with its safe gas limit. -/
structure Yields (creation : Creation I) (submission : Submission) : Prop where
  info : creation.outcome = .ok submission.info
  gasLimit : submission.gasLimit = submission.info.simulation.safeGas

/-- **A node out of reach** is told from a simulation that failed: only a creation that has failed
with a fault of the first kind offends with one. -/
theorem Offends.isUnreachable_iff (h : Offends strict creation fault) :
    fault.isUnreachable = true ↔
      ∃ cause, creation.outcome = .error cause ∧ cause.isUnreachable = true := by
  cases h with
  | failed houtcome hlabelled =>
      rw [hlabelled.isUnreachable_eq, houtcome]
      exact ⟨fun hunreachable => ⟨_, rfl, hunreachable⟩,
        fun ⟨_, hcause, hunreachable⟩ => Except.error.inj hcause ▸ hunreachable⟩
  | refused _ houtcome _ =>
      rw [houtcome]
      exact ⟨nofun, nofun⟩

/-- The submission that a creation amounts to is refused with the fault that it offends with. -/
theorem ofOutcome_eq_error_iff :
    Submission.ofOutcome strict creation.description creation.outcome = .error fault ↔
      Offends strict creation fault := by
  have hcolon : Submission.creationContext creation.description ++ ": " =
      "error creating " ++ creation.description ++ " TX: " := by
    simp only [Submission.creationContext, String.append_assoc]
    rfl
  unfold Submission.ofOutcome
  constructor
  · intro h
    split at h
    next cause houtcome =>
      exact .failed houtcome ((Fault.labelled_iff hcolon).mpr (Except.error.inj h))
    next info houtcome =>
      split at h
      next reason hreason =>
        split at h
        next hstrict => exact Except.error.inj h ▸ .refused hstrict houtcome hreason
        next => cases h
      next => cases h
  · rintro (⟨houtcome, hlabelled⟩ | ⟨rfl, houtcome, hreason⟩)
    · rw [houtcome, ← (Fault.labelled_iff hcolon).mp hlabelled]
    · simp only [houtcome, hreason]
      rfl

/-- A submission that a creation amounts to is the one that it yields. -/
theorem yields_of_ofOutcome
    (h : Submission.ofOutcome strict creation.description creation.outcome = .ok submission) :
    Yields creation submission := by
  unfold Submission.ofOutcome at h
  split at h
  next => cases h
  next info houtcome =>
    have hinfo : Submission.ofInfo info = submission := by
      split at h
      · split at h
        · cases h
        · exact Except.ok.inj h
      · exact Except.ok.inj h
    subst hinfo
    exact ⟨houtcome, rfl⟩

/-- How creating several submissions **concludes**, with the number of creators that have run: no
creation offends and each of them yields its submission, or one offends and none before it does. -/
inductive Concludes (strict : Bool) : List (Creation I) → Nat → Outcome (List Submission) → Prop
  | all {creations : List (Creation I)} {submissions : List Submission}
      (kept : ∀ creation ∈ creations, ∀ fault, ¬ Offends strict creation fault)
      (yields : List.Forall₂ Yields creations submissions) :
      Concludes strict creations creations.length (.ok submissions)
  | stopped (before : List (Creation I)) {behind : List (Creation I)} {offender : Creation I}
      {fault : Fault}
      (kept : ∀ creation ∈ before, ∀ fault, ¬ Offends strict creation fault)
      (offends : Offends strict offender fault) :
      Concludes strict (before ++ offender :: behind) (before.length + 1) (.error fault)

/-- No more creators run than there are. -/
theorem Concludes.ran_le (h : Concludes strict creations ran result) :
    ran ≤ creations.length := by
  cases h with
  | all => exact Nat.le_refl _
  | stopped =>
      rw [List.length_append, List.length_cons]
      omega

/-- Creations behind one that does not offend conclude as they do without it. -/
theorem Concludes.cons (hkept : ∀ fault, ¬ Offends strict creation fault)
    (hyields : Yields creation submission) (h : Concludes strict creations ran result) :
    Concludes strict (creation :: creations) (ran + 1) (result.map (submission :: ·)) := by
  cases h with
  | all hall hsubmissions =>
      exact .all (List.forall_mem_cons.mpr ⟨hkept, hall⟩) (.cons hyields hsubmissions)
  | stopped before hbefore hoffends =>
      exact .stopped (creation :: before) (List.forall_mem_cons.mpr ⟨hkept, hbefore⟩) hoffends

/-- There are submissions exactly if no creation offends. -/
theorem Concludes.isOk_iff (h : Concludes strict creations ran result) :
    (∃ submissions, result = .ok submissions) ↔
      ∀ creation ∈ creations, ∀ fault, ¬ Offends strict creation fault := by
  cases h with
  | all hkept _ => exact ⟨fun _ => hkept, fun _ => ⟨_, rfl⟩⟩
  | @stopped before behind offender _ _ hoffends =>
      refine ⟨nofun, fun hkept => ?_⟩
      exact absurd hoffends (hkept offender List.mem_append_cons_self _)

/-- Submissions are what all of the creations yield. -/
theorem Concludes.yields {submissions : List Submission}
    (h : Concludes strict creations ran (.ok submissions)) :
    ran = creations.length ∧ List.Forall₂ Yields creations submissions := by
  cases h with
  | all _ hyields => exact ⟨rfl, hyields⟩

/-- A fault is that of the first creation that offends, which is the last that is made. -/
theorem Concludes.offender (h : Concludes strict creations ran (.error fault)) :
    ∃ before offender behind, creations = before ++ offender :: behind ∧
      ran = before.length + 1 ∧
      (∀ creation ∈ before, ∀ fault, ¬ Offends strict creation fault) ∧
      Offends strict offender fault := by
  cases h with
  | stopped before hkept hoffends => exact ⟨before, _, _, rfl, rfl, hkept, hoffends⟩

end Creation

namespace Submission

variable {σ : Type} (respond : (request : I.Request) → σ → Outcome (I.Reply request) × σ)
  (strict : Bool)

/-- What creators do that run **one after another**, whether or not one of them fails. -/
def creations : List (String × Inquiry I TransactionInfo) → σ → List (Creation I)
  | [], _ => []
  | (description, creator) :: rest, state =>
    ⟨description, creator.exchanges respond state, (creator.run respond state).1⟩ ::
      creations rest (creator.run respond state).2

/-- The state that creators leave behind. -/
def stateAfter (creators : List (String × Inquiry I TransactionInfo)) (state : σ) : σ :=
  creators.foldl (fun state creator => (creator.2.run respond state).2) state

theorem length_creations (creators : List (String × Inquiry I TransactionInfo)) (state : σ) :
    (creations respond creators state).length = creators.length := by
  induction creators generalizing state with
  | nil => rfl
  | cons creator rest ih => exact congrArg (· + 1) (ih _)

/-- **Creates** one of several submissions. -/
def create (description : String) (creator : Inquiry I TransactionInfo) : Inquiry I Submission :=
  ExceptT.mk (creator.outcome.bind fun outcome => .done (ofOutcome strict description outcome))

theorem createAll_cons (description : String) (creator : Inquiry I TransactionInfo)
    (rest : List (String × Inquiry I TransactionInfo)) :
    createAll strict ((description, creator) :: rest) =
      create strict description creator >>= fun submission =>
        createAll strict rest >>= fun submissions => pure (submission :: submissions) := rfl

/-- Creating one submission runs its creator and judges the outcome. -/
theorem run_create (description : String) (creator : Inquiry I TransactionInfo) (state : σ) :
    (create strict description creator).run respond state =
      (ofOutcome strict description (creator.run respond state).1,
        (creator.run respond state).2) :=
  Dialogue.run_bind respond creator.outcome _ state

theorem exchanges_create (description : String) (creator : Inquiry I TransactionInfo)
    (state : σ) :
    (create strict description creator).exchanges respond state =
      creator.exchanges respond state :=
  (Dialogue.exchanges_bind respond creator.outcome _ state).trans (List.append_nil _)

/-- **Creating submissions concludes**, and until then the creators that have run have made their
exchanges, one after another. -/
theorem concludes_createAll (creators : List (String × Inquiry I TransactionInfo)) (state : σ) :
    ∃ ran, Creation.Concludes strict (creations respond creators state) ran
        ((createAll strict creators).run respond state).1 ∧
      ((createAll strict creators).run respond state).2 =
        stateAfter respond (creators.take ran) state ∧
      (createAll strict creators).exchanges respond state =
        (creations respond (creators.take ran) state).flatMap (·.exchanged) := by
  induction creators generalizing state with
  | nil => exact ⟨0, .all nofun .nil, rfl, rfl⟩
  | cons head rest ih =>
      obtain ⟨description, creator⟩ := head
      have hrun := run_create respond strict description creator state
      let creation : Creation I :=
        ⟨description, creator.exchanges respond state, (creator.run respond state).1⟩
      cases hjudged : ofOutcome strict description (creator.run respond state).1 with
      | error fault =>
          -- the head offends, and the rest does not run
          have hoffends : creation.Offends strict fault :=
            Creation.ofOutcome_eq_error_iff.mp hjudged
          rw [hjudged] at hrun
          rw [createAll_cons, Inquiry.run_bind_of_error hrun,
            Inquiry.exchanges_bind_of_error hrun, exchanges_create]
          exact ⟨1, .stopped [] nofun hoffends, rfl, (List.append_nil _).symm⟩
      | ok submission =>
          have hkept : ∀ fault, ¬ creation.Offends strict fault := by
            intro fault hoffends
            have hrefused := Creation.ofOutcome_eq_error_iff.mpr hoffends
            rw [hjudged] at hrefused
            cases hrefused
          have hyields : creation.Yields submission := Creation.yields_of_ofOutcome hjudged
          obtain ⟨ran, hconcludes, hstate, hexchanges⟩ := ih (creator.run respond state).2
          rw [hjudged] at hrun
          rw [createAll_cons, Inquiry.run_bind_of_ok hrun, Inquiry.exchanges_bind_of_ok hrun,
            exchanges_create, Inquiry.run_bind_pure, Inquiry.exchanges_bind_pure, hstate,
            hexchanges]
          exact ⟨ran + 1, hconcludes.cons hkept hyields, rfl, rfl⟩

/-- **The course of creating several submissions**, whoever answers the creators. Some of them run,
one after another from the first, and no other makes a request or changes the state. There are
submissions exactly if no creation would offend, and then every creator has run and each submission
is what its creator has made, with the safe gas limit. Otherwise the fault is that of the first
creation that offends, which is the last that was made, and it says that a node is out of reach
exactly if the creation has failed because of that. -/
theorem course_of_createAll (creators : List (String × Inquiry I TransactionInfo)) (state : σ) :
    ∃ ran ≤ creators.length,
      ((createAll strict creators).run respond state).2 =
        stateAfter respond (creators.take ran) state ∧
      (createAll strict creators).exchanges respond state =
        (creations respond (creators.take ran) state).flatMap (·.exchanged) ∧
      ((∃ submissions, ((createAll strict creators).run respond state).1 = .ok submissions) ↔
        ∀ creation ∈ creations respond creators state, ∀ fault,
          ¬ creation.Offends strict fault) ∧
      (∀ submissions, ((createAll strict creators).run respond state).1 = .ok submissions →
        ran = creators.length ∧
          List.Forall₂ Creation.Yields (creations respond creators state) submissions) ∧
      ∀ fault, ((createAll strict creators).run respond state).1 = .error fault →
        ∃ before offender behind,
          creations respond creators state = before ++ offender :: behind ∧
          ran = before.length + 1 ∧
          (∀ creation ∈ before, ∀ fault, ¬ creation.Offends strict fault) ∧
          offender.Offends strict fault ∧
          (fault.isUnreachable = true ↔
            ∃ cause, offender.outcome = .error cause ∧ cause.isUnreachable = true) := by
  obtain ⟨ran, hconcludes, hstate, hexchanges⟩ :=
    concludes_createAll respond strict creators state
  have hran := hconcludes.ran_le
  rw [length_creations] at hran
  refine ⟨ran, hran, hstate, hexchanges, hconcludes.isOk_iff, ?_, ?_⟩
  · intro submissions hresult
    rw [hresult] at hconcludes
    obtain ⟨hall, hyields⟩ := hconcludes.yields
    exact ⟨hall.trans (length_creations ..), hyields⟩
  · intro fault hresult
    rw [hresult] at hconcludes
    obtain ⟨before, offender, behind, hcreations, hlast, hkept, hoffends⟩ := hconcludes.offender
    exact ⟨before, offender, behind, hcreations, hlast, hkept, hoffends,
      hoffends.isUnreachable_iff⟩

end Submission

end NodeGateway
