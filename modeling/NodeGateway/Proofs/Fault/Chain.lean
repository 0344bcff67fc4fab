import NodeGateway.Proofs.Fault.Connection

/-!
# Chains of Causes

A transport wraps the failure of the layer below into its own, so what has happened to the
connection may stand at any depth of the chain. The search for it looks at every layer by itself,
and a chain of two pieces is a connection failure exactly if one of them is
(`CauseChain.isConnectionFailure_append`). So nothing that is wrapped around a chain or stands below
it hides a lost connection, and nothing but a layer that tells of one makes a chain a connection
failure.

## Main results

* `Layer.tellsOfLoss_iff`: what a layer has to be or to say.
* `CauseChain.isConnectionFailure_of_layers`: the verdict on a chain of any length.
-/

namespace NodeGateway

/-- The **kinds** of input/output errors that mean that there is no connection. -/
def IoKind.losses : List IoKind :=
  [connectionRefused, connectionReset, connectionAborted, notConnected, brokenPipe,
    addressNotAvailable, hostUnreachable, networkUnreachable]

theorem IoKind.isConnectionLoss_iff {kind : IoKind} :
    kind.isConnectionLoss = true ↔ kind ∈ losses := by
  cases kind <;> decide

/-- A layer tells of a loss if it is an error of one of the eight kinds or says one of the ten
phrases. -/
theorem Layer.tellsOfLoss_iff {layer : Layer} :
    layer.TellsOfLoss ↔ (∃ kind ∈ IoKind.losses, layer.io = some kind) ∨
      ∃ phrase ∈ resolutionPhrases ++ connectionPhrases, Text.Says layer.text phrase := by
  refine or_congr_left (exists_congr fun kind => ?_)
  rw [IoKind.isConnectionLoss_iff, and_comm]

namespace CauseChain

/-- **Each layer counts by itself**: a chain of two pieces is a connection failure if one of them
is. -/
theorem isConnectionFailure_append (above below : CauseChain) :
    isConnectionFailure (above ++ below) =
      (above.isConnectionFailure || below.isConnectionFailure) := by
  induction above with
  | nil => rfl
  | cons layer causes ih =>
      rw [List.cons_append, isConnectionFailure, ih, isConnectionFailure, Bool.or_assoc]

/-- **The verdict** on a chain of any length.

* It is a connection failure exactly if some layer is an error of one of the eight kinds, or says
  one of the ten phrases in some ASCII case.
* It stays one if it is wrapped in further layers, or if further layers stand below it.
* A chain without such a layer is none, whatever else its layers are and say. -/
theorem isConnectionFailure_of_layers (causes : CauseChain) :
    (causes.isConnectionFailure = true ↔ ∃ layer ∈ causes,
      (∃ kind ∈ IoKind.losses, layer.io = some kind) ∨
        ∃ phrase ∈ resolutionPhrases ++ connectionPhrases, Text.Says layer.text phrase) ∧
    (∀ above below : CauseChain, causes.isConnectionFailure = true →
      isConnectionFailure (above ++ causes ++ below) = true) ∧
    ((∀ layer ∈ causes, (∀ kind ∈ IoKind.losses, layer.io ≠ some kind) ∧
        ∀ phrase ∈ resolutionPhrases ++ connectionPhrases, ¬ Text.Says layer.text phrase) →
      causes.isConnectionFailure = false) := by
  have hverdict : causes.isConnectionFailure = true ↔ ∃ layer ∈ causes,
      (∃ kind ∈ IoKind.losses, layer.io = some kind) ∨
        ∃ phrase ∈ resolutionPhrases ++ connectionPhrases, Text.Says layer.text phrase := by
    simp only [isConnectionFailure_iff, Layer.tellsOfLoss_iff]
  refine ⟨hverdict, fun above below h => ?_, fun hfree => ?_⟩
  · rw [isConnectionFailure_append, isConnectionFailure_append, h, Bool.or_true, Bool.true_or]
  · refine Bool.eq_false_iff.mpr fun h => ?_
    obtain ⟨layer, hlayer, ⟨kind, hkind, hio⟩ | ⟨phrase, hphrase, hsays⟩⟩ := hverdict.mp h
    · exact (hfree layer hlayer).1 kind hkind hio
    · exact (hfree layer hlayer).2 phrase hphrase hsays

/-- A late answer below a failed request is no connection failure. -/
example :
    isConnectionFailure [⟨"error sending request", none⟩, ⟨"tcp", some .timedOut⟩] = false := by
  decide +kernel

end CauseChain

end NodeGateway
