import Mathlib.Data.Nat.Digits.Defs
import NodeGateway.Number.Decimal
import NodeGateway.Proofs.Json.Count
import NodeGateway.Proofs.Number.Rounding
import NodeGateway.Proofs.Text.Hex

/-!
# Reading Plain Decimals

A **plain decimal** has neither a sign nor an exponent: digits, and perhaps a point among them. Read
as a binary64 number it becomes the number nearest to what its digits say
(`Decimal.read?_of_plain`). The reader has shortcuts for decimals far outside the range of binary64;
none of them is taken for a decimal of a few digits.
-/

namespace NodeGateway

/-- A character is a decimal digit for the reader if it is one. -/
theorem Numeral.isDigit_eq (c : Char) : Numeral.isDigit c = c.isDigit := by
  by_cases h : c.isDigit = true
  · rw [Numeral.isDigit, Numeral.digitValue?_of_isDigit h, h]
    rfl
  · rw [Bool.eq_false_iff.mpr h, Numeral.isDigit, Option.isSome_eq_false_iff,
      Option.isNone_iff_eq_none]
    exact Option.eq_none_iff_forall_ne_some.mpr fun d hd => h (isDigit_of_digitValue? hd)

namespace Decimal

/-- A text is a **plain decimal** of so many billionths: digits, and perhaps a point with at most
nine of them behind it. -/
inductive Plain : List Char → ℕ → Prop
  | whole {digits : List Char} {n : ℕ} (hdigits : Numeral.Spells digits n) :
      Plain digits (n * 10 ^ 9)
  | pointed {whole fraction : List Char} {n : ℕ} (hdigits : Numeral.Spells (whole ++ fraction) n)
      (hplaces : fraction.length ≤ 9) :
      Plain (whole ++ '.' :: fraction) (n * 10 ^ (9 - fraction.length))

variable {text digits whole fraction : List Char} {n billionths : ℕ}

/-! ### The sign and the words -/

/-- A digit or a point begins no word for what is not a decimal. -/
theorem toLower_ne_of_lt {c : Char} (h : c.toNat < 58) : c.toLower ≠ 'i' ∧ c.toLower ≠ 'n' :=
  Text.forall_of_lt (P := fun c => c.toLower ≠ 'i' ∧ c.toLower ≠ 'n') (by decide) h

/-- A text that begins with a digit or a point is read as a decimal without a sign. -/
theorem read?_cons {c : Char} (h : c.isDigit = true ∨ c = '.') (rest : List Char) :
    read? (c :: rest) = (unsigned? (c :: rest)).map (·.nearest false) := by
  have hsmall : c.toNat < 58 := by
    rcases h with h | rfl
    · simp only [Char.isDigit, Bool.and_eq_true, decide_eq_true_eq] at h
      exact Nat.lt_succ_of_le (UInt32.le_iff_toNat_le.mp h.2)
    · decide
  obtain ⟨hinf, hnan⟩ := toLower_ne_of_lt hsmall
  have hword : ∀ d tail, d ≠ c.toLower →
      String.ofList ((c :: rest).map Char.toLower) ≠ String.ofList (d :: tail) := by
    intro d tail hd heq
    have hlist := congrArg String.toList heq
    rw [String.toList_ofList, String.toList_ofList, List.map_cons] at hlist
    exact hd (List.cons.inj hlist).1.symm
  have hread : read? (c :: rest) = magnitude? false (c :: rest) := by
    unfold read?
    split
    case h_1 heq =>
      obtain rfl := (List.cons.inj heq).1
      exact absurd h (by decide)
    case h_2 heq =>
      obtain rfl := (List.cons.inj heq).1
      exact absurd h (by decide)
    case h_3 => rfl
  rw [hread, magnitude?, if_neg, if_neg]
  · exact hword 'n' ['a', 'n'] hnan.symm
  · rintro (heq | heq)
    · exact hword 'i' ['n', 'f'] hinf.symm heq
    · exact hword 'i' ['n', 'f', 'i', 'n', 'i', 't', 'y'] hinf.symm heq

/-! ### The digits -/

/-- Digits alone are read as a whole number. -/
theorem unsigned?_of_digits (h : Numeral.Spells digits n) :
    unsigned? digits = some ⟨n, 0⟩ := by
  have hall : ∀ c ∈ digits, Numeral.isDigit c = true := fun c hc => by
    rw [Numeral.isDigit_eq]
    exact h.isDigit c hc
  have htake : digits.takeWhile Numeral.isDigit = digits := List.takeWhile_eq_self_iff.mpr hall
  have hdrop : digits.dropWhile Numeral.isDigit = [] := List.dropWhile_eq_nil_iff.mpr hall
  unfold unsigned?
  dsimp only
  rw [htake, hdrop]
  simp [Numeral.natural?_eq_some_iff.mpr h, exponentPart?]

/-- Digits behind a point divide by a power of ten. -/
theorem unsigned?_of_point (h : Numeral.Spells (whole ++ fraction) n) :
    unsigned? (whole ++ '.' :: fraction) = some ⟨n, -fraction.length⟩ := by
  have hall : ∀ c ∈ whole ++ fraction, Numeral.isDigit c = true := fun c hc => by
    rw [Numeral.isDigit_eq]
    exact h.isDigit c hc
  have hwhole : ∀ c ∈ whole, Numeral.isDigit c = true := fun c hc =>
    hall c (List.mem_append_left _ hc)
  have hfraction : ∀ c ∈ fraction, Numeral.isDigit c = true := fun c hc =>
    hall c (List.mem_append_right _ hc)
  have hpoint : Numeral.isDigit '.' = false := by decide
  have htake : (whole ++ '.' :: fraction).takeWhile Numeral.isDigit = whole := by
    rw [List.takeWhile_append_of_pos hwhole, List.takeWhile_cons_of_neg (by simp [hpoint]),
      List.append_nil]
  have hdrop : (whole ++ '.' :: fraction).dropWhile Numeral.isDigit = '.' :: fraction := by
    rw [List.dropWhile_append_of_pos hwhole, List.dropWhile_cons_of_neg (by simp [hpoint])]
  have htakeBehind : fraction.takeWhile Numeral.isDigit = fraction :=
    List.takeWhile_eq_self_iff.mpr hfraction
  have hdropBehind : fraction.dropWhile Numeral.isDigit = [] :=
    List.dropWhile_eq_nil_iff.mpr hfraction
  unfold unsigned?
  dsimp only
  rw [htake, hdrop]
  simp [htakeBehind, hdropBehind, Numeral.natural?_eq_some_iff.mpr h, exponentPart?]

/-! ### The number nearest to it -/

/-- A number has no more digits than the power of ten above it has zeros. -/
theorem digitCount_le {k : ℕ} (h : n < 10 ^ k) : digitCount n ≤ k := by
  unfold digitCount
  split
  · exact Nat.zero_le k
  · next hn =>
      refine Nat.toDigits_length 10 n k (Nat.pos_of_ne_zero fun hk => hn ?_) h
      rw [hk, pow_zero] at h
      omega

/-- **The number nearest to a decimal** of moderate size is that of the fraction that its digits and
its places make. -/
theorem nearest_eq {places : ℕ} (hn : n < 10 ^ 200) (hplaces : places ≤ 200) :
    (⟨n, -places⟩ : Unsigned).nearest false = Binary64.nearest false n (10 ^ places) := by
  have hcount := digitCount_le hn
  unfold Unsigned.nearest
  dsimp only
  split
  case isTrue hzero =>
    rw [hzero]
    rfl
  case isFalse =>
    rw [if_neg (by omega), if_neg (by omega)]
    split
    case isTrue hnone =>
      obtain rfl : places = 0 := by omega
      change Binary64.nearest false (n * 10 ^ 0) 1 = _
      rw [pow_zero, Nat.mul_one]
    case isFalse =>
      rw [neg_neg, Int.toNat_natCast]
      rfl

/-- **A plain decimal is read** as the binary64 number nearest to it. -/
theorem read?_of_plain (h : Plain text billionths) (hbound : billionths < 10 ^ 200) :
    ∃ num den : ℕ, 0 < den ∧ (num / den : ℚ) = billionths / 10 ^ 9 ∧
      read? text = some (Binary64.nearest false num den) := by
  cases h with
  | @whole _ n hdigits =>
      have hn : n < 10 ^ 200 := (Nat.le_mul_of_pos_right n (by decide)).trans_lt hbound
      refine ⟨n, 10 ^ 0, Nat.one_pos, ?_, ?_⟩
      · push_cast
        norm_num
      · obtain ⟨c, rest, rfl⟩ := List.exists_cons_of_ne_nil hdigits.nonempty
        rw [read?_cons (.inl (hdigits.isDigit c List.mem_cons_self)), unsigned?_of_digits hdigits,
          Option.map_some]
        exact congrArg some (nearest_eq hn (Nat.zero_le 200))
  | @pointed whole fraction n hdigits hplaces =>
      have hn : n < 10 ^ 200 :=
        (Nat.le_mul_of_pos_right n (Nat.pow_pos (by decide))).trans_lt hbound
      refine ⟨n, 10 ^ fraction.length, Nat.pow_pos (by decide), ?_, ?_⟩
      · rw [div_eq_div_iff (by positivity) (by positivity)]
        push_cast
        rw [mul_assoc, ← pow_add, Nat.sub_add_cancel hplaces]
      · have hfirst : ∃ c rest, whole ++ '.' :: fraction = c :: rest ∧
            (c.isDigit = true ∨ c = '.') := by
          cases whole with
          | nil => exact ⟨'.', fraction, rfl, .inr rfl⟩
          | cons c rest =>
              exact ⟨c, rest ++ '.' :: fraction, rfl, .inl (hdigits.isDigit c List.mem_cons_self)⟩
        obtain ⟨c, rest, heq, hc⟩ := hfirst
        have hread := read?_cons hc rest
        rw [← heq, unsigned?_of_point hdigits, Option.map_some] at hread
        rw [hread, nearest_eq hn (by omega)]

end Decimal

end NodeGateway
