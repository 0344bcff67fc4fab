import Mathlib.Data.List.Induction
import NodeGateway.Fault.Json
import NodeGateway.Problem

/-!
# Contexts

On its way to the caller a fault is told several times what was being done, and once it has become a
problem of the service, so is the problem. Each **context** is put in front of the text, so the last
one comes first: contexts that are added one after another are one **label** (`Fault.labelOf`).

A label is only read by people. What routes a call on is the cause: a lost connection is tried
elsewhere, and a node that was not reached becomes a problem of the network. A label leaves the
cause as it is (`Fault.Labelled`), so nobody can change the way of a fault by saying what was being
done.

## Main results

* `Fault.foldl_wrap`: contexts that are added one after another are a label.
* `Fault.labelled_withContexts`, `Problem.withContexts_ofFault`: what becomes of a fault, and of the
  problem that it amounts to.
* `Problem.course_of_contexts`: both, and that the way of the fault is the same.
-/

namespace NodeGateway

/-! ### Labels -/

namespace Fault

/-- The **label** of contexts that are added one after another: each of them with a colon behind it,
the last one first. -/
def labelOf (contexts : List String) : String :=
  String.join (contexts.reverse.map (· ++ ": "))

theorem labelOf_concat (earlier : List String) (context : String) :
    labelOf (earlier ++ [context]) = context ++ ": " ++ labelOf earlier := by
  simp [labelOf]

/-- **Contexts are a label**, whatever has a text and keeps the rest of what it is when a context is
put in front of the text. -/
theorem foldl_wrap {β : Type} (wrap : String → β → β) (make : String → β)
    (hwrap : ∀ context detail, wrap context (make detail) = make (inContext context detail))
    (contexts : List String) (detail : String) :
    contexts.foldl (fun wrapped context => wrap context wrapped) (make detail) =
      make (labelOf contexts ++ detail) := by
  induction contexts using List.reverseRecOn with
  | nil => simp [labelOf]
  | append_singleton earlier context ih =>
      rw [List.foldl_append, ih, List.foldl_cons, List.foldl_nil, hwrap, labelOf_concat, inContext,
        ← String.append_assoc]

end Fault

/-! ### Faults with a label -/

namespace Fault

/-- A fault is another one **with a label**: the cause is the same, and the label stands before the
text of the cause, if it has one of its own. -/
inductive Labelled (label : String) : Fault → Fault → Prop
  | disconnected (detail : String) :
      Labelled label (.disconnected detail) (.disconnected (label ++ detail))
  | timeout (detail : String) : Labelled label (.timeout detail) (.timeout (label ++ detail))
  | reverted (reason : String) : Labelled label (.reverted reason) (.reverted (label ++ reason))
  | other (detail : String) : Labelled label (.other detail) (.other (label ++ detail))
  | cancelled : Labelled label .cancelled .cancelled
  | allClientsFailed (clientType : String) :
      Labelled label (.allClientsFailed clientType) (.allClientsFailed clientType)

variable {label context : String} {cause fault : Fault}

/-- The context is a label with a colon behind it. -/
theorem labelled_iff (hlabel : context ++ ": " = label) :
    Labelled label cause fault ↔ cause.withContext context = fault := by
  subst hlabel
  constructor
  · rintro (_ | _ | _ | _ | _ | _) <;> rfl
  · rintro rfl
    cases cause <;> constructor

/-- A label does not change whether a node is out of reach. -/
theorem Labelled.isUnreachable_eq (h : Labelled label cause fault) :
    fault.isUnreachable = cause.isUnreachable := by
  cases h <;> rfl

/-- A label does not change whether another endpoint is worth trying. -/
theorem Labelled.isDisconnected_eq (h : Labelled label cause fault) :
    fault.isDisconnected = cause.isDisconnected := by
  cases h <;> rfl

theorem Labelled.kindName_eq (h : Labelled label cause fault) :
    fault.kindName = cause.kindName := by
  cases h <;> rfl

/-- The fault with contexts that are added one after another. -/
def withContexts (contexts : List String) (fault : Fault) : Fault :=
  contexts.foldl (fun fault context => fault.withContext context) fault

/-- **What becomes of a fault**: it has the label of its contexts. -/
theorem labelled_withContexts (contexts : List String) (fault : Fault) :
    Labelled (labelOf contexts) fault (fault.withContexts contexts) := by
  have h (make : String → Fault) (hmake : ∀ context detail,
      (make detail).withContext context = make (inContext context detail)) (detail : String) :
      (make detail).withContexts contexts = make (labelOf contexts ++ detail) :=
    foldl_wrap withContext make hmake contexts detail
  cases fault with
  | disconnected detail => rw [h disconnected fun _ _ => rfl]; exact .disconnected detail
  | timeout detail => rw [h timeout fun _ _ => rfl]; exact .timeout detail
  | reverted reason => rw [h reverted fun _ _ => rfl]; exact .reverted reason
  | other detail => rw [h other fun _ _ => rfl]; exact .other detail
  | cancelled => rw [h (fun _ => cancelled) (fun _ _ => rfl) ""]; exact .cancelled
  | allClientsFailed clientType =>
      rw [h (fun _ => allClientsFailed clientType) (fun _ _ => rfl) ""]
      exact .allClientsFailed clientType

end Fault

/-! ### Problems with a label -/

namespace Problem

/-- The problem with contexts that are added one after another. -/
def withContexts (contexts : List String) (problem : Problem) : Problem :=
  contexts.foldl (fun problem context => problem.withContext context) problem

/-- The kind of a problem is that of the fault, and its text is the wording of the fault. -/
theorem ofFault_eq (fault : Fault) :
    ofFault fault = (if fault.isUnreachable then network else other) fault.message := by
  rw [ofFault]
  split <;> rfl

/-- **What becomes of the problem** that a fault amounts to: the kind is that of the fault, and the
label of its contexts stands before the wording of the fault. -/
theorem withContexts_ofFault (contexts : List String) (fault : Fault) :
    (ofFault fault).withContexts contexts =
      (if fault.isUnreachable then network else other)
        (Fault.labelOf contexts ++ fault.message) := by
  rw [ofFault_eq]
  split
  · exact Fault.foldl_wrap withContext network (fun _ _ => rfl) contexts fault.message
  · exact Fault.foldl_wrap withContext other (fun _ _ => rfl) contexts fault.message

/-- **The way of a fault** to the caller does not depend on what is said about it. With any
contexts, and any further ones once it is a problem,

* it has the same cause, with the label of its contexts before the text of the cause, if it has one;
* it is a lost connection, or says that no endpoint was reached, exactly if it was and did before;
* the problem is of the kind and has the status that the bare fault would give, and its text is the
  wording of the fault behind the label of the further contexts;
* so it is reported as unavailable exactly if the bare fault says that no endpoint was reached. -/
theorem course_of_contexts (fault : Fault) (contexts further : List String) :
    let wrapped := fault.withContexts contexts
    let problem := (ofFault wrapped).withContexts further
    (Fault.Labelled (Fault.labelOf contexts) fault wrapped ∧ wrapped.kindName = fault.kindName) ∧
    (wrapped.isDisconnected = fault.isDisconnected ∧
      wrapped.isUnreachable = fault.isUnreachable) ∧
    (ofFault fault = (if fault.isUnreachable then network else other) fault.message ∧
      problem = (if fault.isUnreachable then network else other)
        (Fault.labelOf further ++ wrapped.message) ∧
      problem.status = (ofFault fault).status) ∧
    (problem.status = 503 ↔ fault.isUnreachable = true) := by
  intro wrapped problem
  have hlabelled : Fault.Labelled (Fault.labelOf contexts) fault wrapped :=
    Fault.labelled_withContexts contexts fault
  have hproblem : problem = (if fault.isUnreachable then network else other)
      (Fault.labelOf further ++ wrapped.message) := by
    rw [← hlabelled.isUnreachable_eq]
    exact withContexts_ofFault further wrapped
  refine ⟨⟨hlabelled, hlabelled.kindName_eq⟩,
    ⟨hlabelled.isDisconnected_eq, hlabelled.isUnreachable_eq⟩,
    ⟨ofFault_eq fault, hproblem, ?_⟩, ?_⟩
  · rw [hproblem, ofFault_eq]
    split <;> rfl
  · rw [hproblem]
    cases fault.isUnreachable <;> simp [status]

end Problem

end NodeGateway
