import Mathlib.Data.Option.Basic
import Mathlib.Logic.Function.Iterate
import NodeGateway.Execution.Error
import NodeGateway.Proofs.Fault.Connection
import NodeGateway.Proofs.Text.Hex
import NodeGateway.Proofs.Text.Utf8

/-!
# Reasons inside Reasons

The reason of a revert is written by the contract that reverts, so it can be any text, and among
others one that looks like the message of a revert itself. A reason that was decoded is introduced
with words of our own. They hide nothing: the message encodes after that what the reason encodes
(`Revert.encodedReason?_introduction_append`). So normalising again leaves a message alone only if
the reason in it encodes no other reason.

Every reason is much shorter than the message that it was decoded from, so reasons are nested only
finitely deep, and as many rounds as a message has characters always lead to plain words.

## Main results

* `Revert.normalizeChars_eq_self_iff`: only messages that encode no reason are left as they are;
* `Revert.normalize_normalize_iff`: when normalising twice gives the same as normalising once;
* `Revert.normalize_rounds`: normalising again and again comes to an end;
* `Revert.isRevert_of_encodedReason?`: a message that encodes a reason reports a revert, whatever
  the code that it comes with.
-/

namespace NodeGateway

/-! ### Searching and decoding -/

namespace Text

/-- What is found behind a phrase stands behind it. -/
theorem exists_of_after? {phrase text rest : List Char} (h : after? phrase text = some rest) :
    ∃ front, text = front ++ (phrase ++ rest) := by
  induction text with
  | nil =>
      rw [after?] at h
      split at h
      case isTrue hempty =>
        obtain rfl := Option.some.inj h
        exact ⟨[], by simpa using hempty⟩
      case isFalse => cases h
  | cons c text ih =>
      rw [after?] at h
      split at h
      case isTrue hprefix =>
        obtain ⟨found, hfound⟩ := List.isPrefixOf_iff_prefix.mp hprefix
        obtain rfl := Option.some.inj h
        exact ⟨[], by rw [← hfound, List.drop_left]; rfl⟩
      case isFalse =>
        obtain ⟨front, rfl⟩ := ih h
        exact ⟨c :: front, rfl⟩

/-- A phrase does not begin in front of its first character. -/
theorem after?_append_of_not_mem {c : Char} {phrase front : List Char} (h : c ∉ front)
    (text : List Char) : after? (c :: phrase) (front ++ text) = after? (c :: phrase) text := by
  induction front with
  | nil => rfl
  | cons d front ih =>
      have hne : c ≠ d := fun heq => h (heq ▸ List.mem_cons_self)
      have hnot : (c :: phrase).isPrefixOf (d :: (front ++ text)) = false := by
        rw [List.isPrefixOf_cons_cons, beq_false_of_ne hne, Bool.false_and]
      rw [List.cons_append, after?, hnot, if_neg Bool.false_ne_true]
      exact ih fun hmem => h (List.mem_cons_of_mem d hmem)

end Text

namespace Revert

/-! ### What a message encodes -/

/-- A message that encodes a reason holds the mark and a byte string that is written behind it. -/
theorem exists_of_encodedReason? {message reason : List Char}
    (h : encodedReason? message = some reason) :
    ∃ front digits rest bytes, message = front ++ (mark ++ (digits ++ rest)) ∧ digits ≠ [] ∧
      Hex.decode? digits = some bytes ∧ reason = Utf8.decode bytes := by
  simp only [encodedReason?, bind, Option.bind_eq_some_iff, Option.guard_eq_some', Option.pure_def,
    Option.some.injEq] at h
  obtain ⟨behind, hbehind, _, hdigits, bytes, hbytes, rfl⟩ := h
  obtain ⟨front, rfl⟩ := Text.exists_of_after? hbehind
  refine ⟨front, behind.takeWhile Hex.isDigit, behind.dropWhile Hex.isDigit, bytes, ?_, ?_, hbytes,
    rfl⟩
  · rw [List.takeWhile_append_dropWhile]
  · simpa using hdigits

/-- **A reason is shorter** than the message that encodes it, and stays so with its
introduction. -/
theorem length_lt_of_encodedReason? {message reason : List Char}
    (h : encodedReason? message = some reason) :
    (introduction ++ reason).length < message.length := by
  obtain ⟨front, digits, rest, bytes, rfl, hdigits, hbytes, rfl⟩ := exists_of_encodedReason? h
  have hmark : mark.length = 11 := rfl
  have hintroduction : introduction.length = 10 := rfl
  have hcount := Hex.length_of_decode? hbytes
  have hshort := Utf8.length_decode_le bytes
  have hpos := List.length_pos_of_ne_nil hdigits
  simp only [List.length_append, hmark, hintroduction]
  omega

/-- **An introduction hides nothing**: an introduced text encodes what it encodes by itself. -/
theorem encodedReason?_introduction_append (text : List Char) :
    encodedReason? (introduction ++ text) = encodedReason? text := by
  have hcapital : 'R' ∉ introduction := by decide
  have hsearch : Text.after? mark (introduction ++ text) = Text.after? mark text :=
    Text.after?_append_of_not_mem hcapital text
  rw [encodedReason?, encodedReason?, hsearch]

/-- A message that encodes a reason **reports a revert**, whatever its code. -/
theorem isRevert_of_encodedReason? {message : String} {reason : List Char}
    (h : encodedReason? message.toList = some reason) (code : Int) :
    ExecutionError.isRevert code message = true := by
  obtain ⟨front, digits, rest, -, hmessage, -⟩ := exists_of_encodedReason? h
  have hword : "revert".toList <:+: Text.foldCase mark := by decide
  have hmark : Text.foldCase mark <:+: Text.foldCase message.toList := by
    rw [hmessage]
    exact ((List.prefix_append mark (digits ++ rest)).isInfix.trans
      (List.suffix_append front (mark ++ (digits ++ rest))).isInfix).map Char.toLower
  have hmentions : Text.mentions message "revert" = true :=
    Text.occursIn_iff.mpr (hword.trans hmark)
  rw [ExecutionError.isRevert, hmentions, Bool.or_true]

/-! ### Normalising -/

/-- A message that encodes no reason is left as it is. -/
theorem normalizeChars_of_none {message : List Char} (h : encodedReason? message = none) :
    normalizeChars message = message := by
  rw [normalizeChars, h]

/-- A message that encodes a reason becomes that reason, introduced. -/
theorem normalizeChars_of_some {message reason : List Char}
    (h : encodedReason? message = some reason) :
    normalizeChars message = introduction ++ reason := by
  rw [normalizeChars, h]

/-- **Only messages that encode no reason** are left as they are. -/
theorem normalizeChars_eq_self_iff {message : List Char} :
    normalizeChars message = message ↔ encodedReason? message = none := by
  constructor
  · intro hself
    cases h : encodedReason? message with
    | none => rfl
    | some reason =>
        have hlt := length_lt_of_encodedReason? h
        rw [← normalizeChars_of_some h, hself] at hlt
        exact absurd hlt (Nat.lt_irrefl _)
  · exact normalizeChars_of_none

/-- What a message encodes once it is normalised: nothing, or what the reason in it encodes. -/
theorem encodedReason?_normalizeChars (message : List Char) :
    encodedReason? (normalizeChars message) = (encodedReason? message).bind encodedReason? := by
  cases h : encodedReason? message with
  | none => rw [normalizeChars_of_none h, h]; rfl
  | some reason =>
      rw [normalizeChars_of_some h, encodedReason?_introduction_append]
      rfl

/-- A message is left as it is exactly if it encodes no reason, also as a text. -/
theorem normalize_eq_self_iff {message : String} :
    normalize message = message ↔ encodedReason? message.toList = none := by
  rw [← normalizeChars_eq_self_iff, normalize, ← String.toList_inj, String.toList_ofList]

/-- A message has a **plain reason** if the reason that it encodes, where there is one, encodes no
other reason. -/
def HasPlainReason (message : String) : Prop :=
  ∀ reason, encodedReason? message.toList = some reason → encodedReason? reason = none

/-- **Normalising twice** gives the same as normalising once exactly if the message has a plain
reason. -/
theorem normalize_normalize_iff {message : String} :
    normalize (normalize message) = normalize message ↔ HasPlainReason message := by
  have hchars : (normalize message).toList = normalizeChars message.toList := String.toList_ofList
  rw [normalize_eq_self_iff, hchars, encodedReason?_normalizeChars]
  constructor
  · intro hnone reason hreason
    rwa [hreason] at hnone
  · intro hplain
    cases hreason : encodedReason? message.toList with
    | none => rfl
    | some reason => exact hplain reason hreason

/-- Normalising makes no message longer, and one that it changes shorter. -/
theorem length_normalize (message : String) :
    normalize message = message ∨ (normalize message).length < message.length := by
  cases h : encodedReason? message.toList with
  | none => exact .inl (normalize_eq_self_iff.mpr h)
  | some reason =>
      refine .inr ?_
      have hlt := length_lt_of_encodedReason? h
      rwa [← normalizeChars_of_some h, ← String.length_ofList, String.length_toList] at hlt

/-- **Normalising comes to an end**: a message that has been normalised as often as it has
characters encodes no reason any more. -/
theorem normalize_rounds (message : String) :
    normalize (normalize^[message.length] message) = normalize^[message.length] message := by
  -- more rounds than characters do not help, so the number of rounds is kept apart in the induction
  suffices hrounds : ∀ (rounds : Nat) (message : String), message.length ≤ rounds →
      normalize (normalize^[rounds] message) = normalize^[rounds] message from
    hrounds message.length message (Nat.le_refl _)
  intro rounds
  induction rounds with
  | zero =>
      intro message hlength
      rcases length_normalize message with hself | hshorter
      · exact hself
      · omega
  | succ rounds ih =>
      intro message hlength
      rw [Function.iterate_succ_apply]
      rcases length_normalize message with hself | hshorter
      · have hfixed : normalize^[rounds] message = message := Function.iterate_fixed hself rounds
        rw [hself, hfixed, hself]
      · exact ih (normalize message) (by omega)

end Revert

end NodeGateway
