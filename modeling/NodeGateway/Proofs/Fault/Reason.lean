import Mathlib.Algebra.Ring.Parity
import NodeGateway.Proofs.Fault.Revert
import NodeGateway.Proofs.Text.Hex

/-!
# Encoded Reasons Read Back

A node that encodes the reason of a revert writes the bytes of the reason in hexadecimal digits
behind a mark. This module says what becomes of such a message, and what becomes of every message
that looks like one up to some point.

The mark has its first letter nowhere else, so no two occurrences of it overlap, and a text without
the mark stays without it up to the point where the mark is put behind it
(`Text.after?_append_of_absent`). So the first mark of a message is where it was written. The
digits behind it end where the first other character stands. They are read in either case, two for
each byte, and the bytes of a text always read back as that text.

Where this fails, it fails for good: the search goes no further than the first mark, and a run of
digits that cannot be read is not cut to one that can.

## Main results

* `Revert.encodedReason?_of_first`: only the digits behind the first mark count;
* `Revert.encodedReason?_of_spells`: a reason that is spelled behind the first mark reads back;
* `Revert.normalize_of_first`: which messages are decoded, and which come back unchanged.
-/

namespace NodeGateway

/-! ### The first occurrence -/

namespace Text

/-- A phrase that does not stand in a text is not found there. -/
theorem after?_of_absent {phrase text : List Char} (h : ¬ phrase <:+: text) :
    after? phrase text = none := by
  cases hfound : after? phrase text with
  | none => rfl
  | some rest =>
      obtain ⟨front, htext⟩ := exists_of_after? hfound
      exact absurd ⟨front, rest, by rw [htext, List.append_assoc]⟩ h

/-- A phrase that begins in front of itself stands there as a whole, if its first character is found
nowhere else in it. -/
theorem infix_of_prefix_append {c : Char} {phrase front rest : List Char} (hc : c ∉ phrase)
    (hne : front ≠ []) (h : c :: phrase <+: front ++ (c :: phrase ++ rest)) :
    c :: phrase <:+: front := by
  have hfront : front <+: front ++ (c :: phrase ++ rest) := List.prefix_append _ _
  rcases Nat.lt_or_ge front.length (c :: phrase).length with hshort | hlong
  · -- the first character of the phrase behind `front` is one of the phrase in front, but not the
    -- first
    have hnext : front ++ [c] <+: front ++ (c :: phrase ++ rest) :=
      (List.prefix_append_right_inj front).mpr ⟨phrase ++ rest, rfl⟩
    have hlength : (front ++ [c]).length ≤ (c :: phrase).length := by
      rw [List.length_append]
      exact hshort
    obtain ⟨behind, hbehind⟩ := List.prefix_of_prefix_length_le hnext h hlength
    cases front with
    | nil => exact absurd rfl hne
    | cons d front =>
        obtain ⟨-, hphrase⟩ := List.cons.inj hbehind
        exact absurd (hphrase ▸ by simp) hc
  · exact (List.prefix_of_prefix_length_le h hfront hlong).isInfix

/-- **The first occurrence** of a phrase is the one behind a text in which it does not stand, if its
first character is found nowhere else in it. -/
theorem after?_append_of_absent {c : Char} {phrase front : List Char} (hc : c ∉ phrase)
    (h : ¬ c :: phrase <:+: front) (rest : List Char) :
    after? (c :: phrase) (front ++ (c :: phrase ++ rest)) = some rest := by
  induction front with
  | nil =>
      have hprefix : (c :: phrase).isPrefixOf (c :: (phrase ++ rest)) = true :=
        List.isPrefixOf_iff_prefix.mpr ⟨rest, rfl⟩
      rw [List.nil_append, List.cons_append, after?, if_pos hprefix, List.length_cons,
        List.drop_succ_cons, List.drop_left]
  | cons d front ih =>
      have hprefix : ¬ (c :: phrase).isPrefixOf (d :: (front ++ (c :: phrase ++ rest))) = true :=
        fun hprefix => h (infix_of_prefix_append hc (List.cons_ne_nil d front)
          (List.isPrefixOf_iff_prefix.mp hprefix))
      rw [List.cons_append, after?, if_neg hprefix]
      exact ih fun hfront => h (hfront.trans (List.suffix_cons d front).isInfix)

end Text

namespace Revert

/-! ### Reading a reason -/

/-- **Only the digits behind the first mark count.** -/
theorem encodedReason?_of_first {front : List Char} (hfront : ¬ mark <:+: front)
    (rest : List Char) :
    encodedReason? (front ++ (mark ++ rest)) =
      if rest.takeWhile Hex.isDigit = [] then none
      else (Hex.decode? (rest.takeWhile Hex.isDigit)).map Utf8.decode := by
  have hfirst : Text.after? mark (front ++ (mark ++ rest)) = some rest :=
    Text.after?_append_of_absent (by decide) hfront rest
  rw [encodedReason?, hfirst, Option.bind_eq_bind, Option.bind_some]
  cases hdigits : rest.takeWhile Hex.isDigit with
  | nil => rfl
  | cons c digits =>
      rw [if_neg (List.cons_ne_nil c digits)]
      cases hbytes : Hex.decode? (c :: digits) with
      | none => simp [hbytes]
      | some bytes => simp [hbytes]

/-- A message without the mark encodes no reason. -/
theorem encodedReason?_of_unmarked {message : List Char} (h : ¬ mark <:+: message) :
    encodedReason? message = none := by
  rw [encodedReason?, Text.after?_of_absent h]
  rfl

/-- Behind the first mark, no digits encode nothing, and so does an odd number of them. -/
theorem encodedReason?_of_odd {front rest : List Char} (hfront : ¬ mark <:+: front)
    (hrun : rest.takeWhile Hex.isDigit = [] ∨ Odd (rest.takeWhile Hex.isDigit).length) :
    encodedReason? (front ++ (mark ++ rest)) = none := by
  rw [encodedReason?_of_first hfront]
  split
  case isTrue => rfl
  case isFalse hdigits =>
    cases hbytes : Hex.decode? (rest.takeWhile Hex.isDigit) with
    | none => rfl
    | some bytes =>
        have hodd := hrun.resolve_left hdigits
        rw [Hex.length_of_decode? hbytes] at hodd
        exact absurd (even_two_mul bytes.length) (Nat.not_even_iff_odd.mpr hodd)

/-- **A reason reads back** that is spelled behind the first mark, where the digits end with it. -/
theorem encodedReason?_of_spells {front digits behind reason : List Char}
    (hfront : ¬ mark <:+: front) (hreason : reason ≠ [])
    (hdigits : Hex.Spells digits (Utf8.encode reason))
    (hbehind : ∀ c ∈ behind.head?, Hex.isDigit c = false) :
    encodedReason? (front ++ (mark ++ (digits ++ behind))) = some reason := by
  have hbytes := hdigits.decode?
  have hend : behind.takeWhile Hex.isDigit = [] := by
    cases behind with
    | nil => rfl
    | cons c behind => rw [List.takeWhile_cons, hbehind c rfl, if_neg Bool.false_ne_true]
  have hrun : (digits ++ behind).takeWhile Hex.isDigit = digits := by
    rw [List.takeWhile_append_of_pos (Hex.isDigit_of_decode? hbytes), hend, List.append_nil]
  have hne : digits ≠ [] := by
    rintro rfl
    obtain hempty := Option.some.inj hbytes
    rw [← Utf8.decode_encode reason, ← hempty] at hreason
    exact hreason rfl
  rw [encodedReason?_of_first hfront, hrun, if_neg hne, hbytes, Option.map_some,
    Utf8.decode_encode]

/-! ### Normalising -/

/-- **Which messages are decoded.** A message whose first mark is followed by the bytes of a text in
hexadecimal digits of any case, and by no further digit, becomes that text, introduced. A message
without the mark comes back unchanged, and so does one whose first mark has no digits behind it or
an odd number of them, whatever comes after that. -/
theorem normalize_of_first :
    (∀ front reason digits behind : String, ¬ "Reverted 0x".toList <:+: front.toList →
      reason ≠ "" → Hex.Spells digits.toList reason.toUTF8.data.toList →
      (∀ c ∈ behind.toList.head?, Hex.isDigit c = false) →
      normalize (front ++ "Reverted 0x" ++ digits ++ behind) = "reverted: " ++ reason) ∧
    (∀ message : String, ¬ "Reverted 0x".toList <:+: message.toList →
      normalize message = message) ∧
    (∀ front rest : String, ¬ "Reverted 0x".toList <:+: front.toList →
      (rest.toList.takeWhile Hex.isDigit = [] ∨
        Odd (rest.toList.takeWhile Hex.isDigit).length) →
      normalize (front ++ "Reverted 0x" ++ rest) = front ++ "Reverted 0x" ++ rest) := by
  refine ⟨fun front reason digits behind hfront hreason hdigits hbehind => ?_,
    fun message hmessage => ?_, fun front rest hfront hrun => ?_⟩
  · rw [← Utf8.encode_toList] at hdigits
    have hencoded := encodedReason?_of_spells hfront (by simpa using hreason) hdigits hbehind
    rw [normalize, ← String.toList_inj, String.toList_ofList]
    simp only [String.toList_append, List.append_assoc]
    exact normalizeChars_of_some hencoded
  · exact normalize_eq_self_iff.mpr (encodedReason?_of_unmarked hmessage)
  · rw [normalize_eq_self_iff]
    simp only [String.toList_append, List.append_assoc]
    exact encodedReason?_of_odd hfront hrun

/-- The first mark decides, be it read or not, and a second one behind it that could be read is
passed over. -/
theorem normalize_of_first_twice :
    let front := "call 7: Reverted 0, Reverted "
    let reason := "naïve € 😀"
    let digits := "6E61c3AF766520E282aC20f09F9880"
    let behind := "; Reverted 0x41"
    (¬ "Reverted 0x".toList <:+: front.toList ∧ reason ≠ "" ∧
      Hex.Spells digits.toList reason.toUTF8.data.toList ∧
      (∀ c ∈ behind.toList.head?, Hex.isDigit c = false) ∧
      normalize (front ++ "Reverted 0x" ++ digits ++ behind) = "reverted: " ++ reason) ∧
    (¬ "Reverted 0x".toList <:+: (front ++ digits).toList ∧
      normalize (front ++ digits) = front ++ digits) ∧
    (("abc; Reverted 0x41".toList.takeWhile Hex.isDigit).length = 3 ∧
      normalize (front ++ "Reverted 0x" ++ "abc; Reverted 0x41") =
        front ++ "Reverted 0x" ++ "abc; Reverted 0x41") := by
  intro front reason digits behind
  obtain ⟨hdecoded, hunmarked, hunread⟩ := normalize_of_first
  have hfront : ¬ "Reverted 0x".toList <:+: front.toList := by decide +kernel
  have hdigits : Hex.Spells digits.toList reason.toUTF8.data.toList := by decide +kernel
  have hhead : behind.toList.head? = some ';' := by decide +kernel
  have hbehind : ∀ c ∈ behind.toList.head?, Hex.isDigit c = false := by
    intro c hc
    rw [hhead] at hc
    cases hc
    decide
  have hmessage : ¬ "Reverted 0x".toList <:+: (front ++ digits).toList := by decide +kernel
  have hthree : ("abc; Reverted 0x41".toList.takeWhile Hex.isDigit).length = 3 := by decide +kernel
  refine ⟨⟨hfront, by decide, hdigits, hbehind, ?_⟩, ⟨hmessage, hunmarked _ hmessage⟩, hthree, ?_⟩
  · exact hdecoded front reason digits behind hfront (by decide) hdigits hbehind
  · exact hunread front "abc; Reverted 0x41" hfront (.inr (hthree ▸ by decide))

end Revert

end NodeGateway
