import Mathlib.Algebra.Order.Field.Power
import Mathlib.Algebra.Order.Floor.Semifield
import Mathlib.Data.Int.Log
import Mathlib.Data.Rat.Floor
import Mathlib.Tactic.FieldSimp
import Mathlib.Tactic.Linarith
import Mathlib.Tactic.NormNum
import Mathlib.Tactic.Positivity
import Mathlib.Tactic.Ring
import NodeGateway.Number.Binary64

/-!
# Rounding to Binary64

The operations on binary64 numbers are arithmetic on natural numbers. Here they are read as what
they mean: a finite number denotes a rational number, and `Binary64.nearest` replaces a fraction by
the nearest multiple of a power of two, its unit in the last place, a tie going to the even
multiple. The unit is the one at which the fraction has a whole part of 53 bits, unless the fraction
is too small for that.

Rounding leaps over no number that can be represented, so every bound by such a number survives it.
Most questions about a chain of operations need no more than that, and the others need the size of
the error.

## Main definitions

* `Binary64.toRat`, the rational number that a finite number denotes;
* `Binary64.IsCanonical`, the numbers whose mantissa and exponent fit into 64 bits;
* `Binary64.rounded`, what a rational number is rounded to where no number is the greatest.

## Main results

* `Binary64.le_rounded` and `Binary64.rounded_le`: a number that can be represented bounds what it
  bounded before rounding;
* `Binary64.abs_rounded_sub_le`, `Binary64.abs_rounded_sub_le_div`: rounding moves a number by half
  a unit at most, and by no more than its `2 ^ 53`-rd part;
* `Binary64.nearest_cases` and `Binary64.toNatFloor_nearest`: `nearest` denotes what its fraction is
  rounded to, and so does its whole part.
-/

namespace NodeGateway.Binary64

/-! ### What a number denotes -/

/-- The **rational number** that a finite number denotes. The others denote none and are given
zero. -/
def toRat : Binary64 → ℚ
  | .finite negative m e => (if negative then -1 else 1) * (m * 2 ^ e)
  | _ => 0

/-- A number is **canonical** if its mantissa has at most 53 bits and its exponent lies in the range
of the format. -/
def IsCanonical : Binary64 → Prop
  | .finite _ m e => m < 2 ^ 53 ∧ minExponent ≤ e ∧ e ≤ maxExponent
  | _ => True

theorem two_zpow_pos (e : ℤ) : (0 : ℚ) < 2 ^ e := zpow_pos two_pos e

/-- A fraction divided by a power of two. -/
theorem scale_div (num den : ℕ) (e : ℤ) :
    ((scale num den e).1 / (scale num den e).2 : ℚ) = num / den / 2 ^ e := by
  unfold scale
  split
  case isTrue h =>
      obtain ⟨k, rfl⟩ := Int.eq_ofNat_of_zero_le h
      simp [div_div]
  case isFalse h =>
      obtain ⟨k, rfl⟩ : ∃ k : ℕ, e = -k := ⟨(-e).toNat, by omega⟩
      simp [div_mul_eq_mul_div]

theorem scale_pos {num den : ℕ} (h : 0 < den) (e : ℤ) : 0 < (scale num den e).2 := by
  unfold scale
  split
  · exact Nat.mul_pos h (Nat.pow_pos Nat.two_pos)
  · exact h

/-- A mantissa times a power of two. -/
theorem fraction_div (m : ℕ) (e : ℤ) :
    ((fraction m e).1 / (fraction m e).2 : ℚ) = m * 2 ^ e := by
  unfold fraction
  split
  case isTrue h =>
      obtain ⟨k, rfl⟩ := Int.eq_ofNat_of_zero_le h
      simp
  case isFalse h =>
      obtain ⟨k, rfl⟩ : ∃ k : ℕ, e = -k := ⟨(-e).toNat, by omega⟩
      simp [div_eq_mul_inv]

theorem fraction_pos (m : ℕ) (e : ℤ) : 0 < (fraction m e).2 := by
  unfold fraction
  split
  · exact Nat.one_pos
  · exact Nat.pow_pos Nat.two_pos

/-! ### Rounding to whole numbers -/

/-- The whole number **nearest** to a number that is not negative, a tie going to the even one. -/
def wholeNearest (x : ℚ) : ℕ :=
  let r := x - ⌊x⌋₊
  if 2 * r < 1 then ⌊x⌋₊
  else if 1 < 2 * r then ⌊x⌋₊ + 1
  else if ⌊x⌋₊ % 2 = 0 then ⌊x⌋₊ else ⌊x⌋₊ + 1

/-- The quotient of two natural numbers is rounded as the rational number that it is. -/
theorem divNearestEven_eq {den : ℕ} (num : ℕ) (hden : 0 < den) :
    divNearestEven num den = wholeNearest (num / den) := by
  have hpos : (0 : ℚ) < den := Nat.cast_pos.mpr hden
  have hrest : (num / den : ℚ) - (num / den : ℕ) = (num % den : ℕ) / den := by
    have hdivision : (den * (num / den : ℕ) + (num % den : ℕ) : ℚ) = num := by
      exact_mod_cast Nat.div_add_mod num den
    rw [eq_div_iff hpos.ne', sub_mul, div_mul_cancel₀ _ hpos.ne']
    linarith
  have hlow : 2 * ((num % den : ℕ) / den : ℚ) < 1 ↔ 2 * (num % den) < den := by
    rw [← mul_div_assoc, div_lt_one hpos]
    exact_mod_cast Iff.rfl
  have hhigh : 1 < 2 * ((num % den : ℕ) / den : ℚ) ↔ den < 2 * (num % den) := by
    rw [← mul_div_assoc, one_lt_div hpos]
    exact_mod_cast Iff.rfl
  simp only [divNearestEven, wholeNearest, Nat.floor_div_eq_div, hrest, hlow, hhigh]

section Whole

variable {x : ℚ}

theorem floor_le_wholeNearest (x : ℚ) : ⌊x⌋₊ ≤ wholeNearest x := by
  unfold wholeNearest
  dsimp only
  split_ifs <;> omega

/-- A whole number below stays below. -/
theorem le_wholeNearest {a : ℕ} (h : (a : ℚ) ≤ x) : a ≤ wholeNearest x :=
  (Nat.le_floor h).trans (floor_le_wholeNearest x)

/-- A whole number above stays above. -/
theorem wholeNearest_le {a : ℕ} (hx : 0 ≤ x) (h : x ≤ a) : wholeNearest x ≤ a := by
  have hfloor : (⌊x⌋₊ : ℚ) ≤ x := Nat.floor_le hx
  have hle : ⌊x⌋₊ ≤ a := by exact_mod_cast hfloor.trans h
  rcases hle.eq_or_lt with heq | hlt
  · -- the number is that whole number, so there is nothing to round
    have hself : x - (⌊x⌋₊ : ℚ) = 0 := by
      rw [heq] at hfloor ⊢
      linarith
    unfold wholeNearest
    dsimp only
    rw [hself, if_pos (by norm_num), heq]
  · unfold wholeNearest
    dsimp only
    split_ifs <;> omega

@[simp] theorem wholeNearest_zero : wholeNearest 0 = 0 := by
  simp [wholeNearest]

/-- Rounding moves a number by one half at most. -/
theorem abs_wholeNearest_sub_le (hx : 0 ≤ x) : |(wholeNearest x : ℚ) - x| ≤ 1 / 2 := by
  have hfloor : (⌊x⌋₊ : ℚ) ≤ x := Nat.floor_le hx
  have hnext : x < ⌊x⌋₊ + 1 := Nat.lt_floor_add_one x
  unfold wholeNearest
  dsimp only
  split_ifs <;> push_cast <;> rw [abs_le] <;> constructor <;> linarith

end Whole

/-! ### Rounding to 53 bits -/

/-- The exponent of the **unit in the last place** of a number: that of the lowest of its first 53
bits, or the least one. -/
def unitExponent (x : ℚ) : ℤ := max minExponent (Int.log 2 x - 52)

theorem minExponent_le_unitExponent (x : ℚ) : minExponent ≤ unitExponent x := le_max_left _ _

theorem lt_two_zpow_iff {x : ℚ} (hx : 0 < x) {e : ℤ} : x < 2 ^ e ↔ Int.log 2 x < e := by
  exact_mod_cast Int.lt_zpow_iff_log_lt one_lt_two hx

theorem two_zpow_le_iff {x : ℚ} (hx : 0 < x) {e : ℤ} : 2 ^ e ≤ x ↔ e ≤ Int.log 2 x := by
  exact_mod_cast Int.zpow_le_iff_le_log one_lt_two hx

theorem le_log_of_bits {num den : ℕ} (hnum : 0 < num) (hden : 0 < den) :
    (num.log2 : ℤ) - den.log2 - 1 ≤ Int.log 2 (num / den : ℚ) := by
  have hpos : (0 : ℚ) < den := Nat.cast_pos.mpr hden
  have hnumLow : (2 ^ num.log2 : ℚ) ≤ num := by exact_mod_cast Nat.log2_self_le hnum.ne'
  have hdenHigh : (den : ℚ) ≤ 2 ^ (den.log2 + 1) := by exact_mod_cast Nat.lt_log2_self.le
  rw [← two_zpow_le_iff (by positivity), le_div_iff₀ hpos]
  calc (2 : ℚ) ^ ((num.log2 : ℤ) - den.log2 - 1) * den
      ≤ 2 ^ ((num.log2 : ℤ) - den.log2 - 1) * 2 ^ (den.log2 + 1) := by gcongr
    _ = 2 ^ num.log2 := by
        rw [← zpow_natCast, ← zpow_natCast, ← zpow_add₀ two_ne_zero]
        congr 1
        omega
    _ ≤ num := hnumLow

theorem log_le_of_bits {num den : ℕ} (hnum : 0 < num) (hden : 0 < den) :
    Int.log 2 (num / den : ℚ) ≤ (num.log2 : ℤ) - den.log2 := by
  have hpos : (0 : ℚ) < den := Nat.cast_pos.mpr hden
  have hnumHigh : (num : ℚ) < 2 ^ (num.log2 + 1) := by exact_mod_cast Nat.lt_log2_self
  have hdenLow : (2 ^ den.log2 : ℚ) ≤ den := by exact_mod_cast Nat.log2_self_le hden.ne'
  rw [← Int.lt_add_one_iff, ← lt_two_zpow_iff (by positivity), div_lt_iff₀ hpos]
  calc (num : ℚ) < 2 ^ (num.log2 + 1) := hnumHigh
    _ = 2 ^ ((num.log2 : ℤ) - den.log2 + 1) * 2 ^ den.log2 := by
        rw [← zpow_natCast, ← zpow_natCast, ← zpow_add₀ two_ne_zero]
        congr 1
        omega
    _ ≤ 2 ^ ((num.log2 : ℤ) - den.log2 + 1) * den := by gcongr

/-- A fraction has a whole part of less than 54 bits at some exponent if it is less than that. -/
theorem scale_lt_iff (num : ℕ) {den : ℕ} (hden : 0 < den) (e : ℤ) :
    (scale num den e).1 / (scale num den e).2 < Nat.pow 2 53 ↔
      (num / den : ℚ) < 2 ^ (e + 53) := by
  have hpos : (0 : ℚ) < (scale num den e).2 := Nat.cast_pos.mpr (scale_pos hden e)
  have hwhole : (scale num den e).1 / (scale num den e).2 < Nat.pow 2 53 ↔
      ((scale num den e).1 / (scale num den e).2 : ℚ) < 2 ^ 53 := by
    rw [Nat.div_lt_iff_lt_mul (scale_pos hden e), div_lt_iff₀ hpos]
    exact_mod_cast Iff.rfl
  rw [hwhole, scale_div, div_lt_iff₀ (two_zpow_pos e), add_comm, zpow_add₀ two_ne_zero]
  exact Iff.rfl

/-- **The exponent of a fraction** is estimated from the lengths of its numerator and denominator,
and corrected if the estimate was too low. -/
theorem exponentFor_eq {num den : ℕ} (hnum : 0 < num) (hden : 0 < den) :
    exponentFor num den = unitExponent (num / den) := by
  have hlow := le_log_of_bits hnum hden
  have hhigh := log_le_of_bits hnum hden
  have htest := scale_lt_iff num hden ((num.log2 : ℤ) - den.log2 - 53)
  rw [show (num.log2 : ℤ) - den.log2 - 53 + 53 = num.log2 - den.log2 by omega,
    lt_two_zpow_iff (by positivity)] at htest
  unfold exponentFor unitExponent
  dsimp only
  simp only [htest]
  split <;> congr 1 <;> omega

/-- What a number is **rounded** to, where no number is the greatest. -/
def rounded (x : ℚ) : ℚ := wholeNearest (x / 2 ^ unitExponent x) * 2 ^ unitExponent x

section Rounded

variable {x : ℚ}

@[simp] theorem rounded_zero : rounded 0 = 0 := by
  simp [rounded]

theorem rounded_nonneg (x : ℚ) : 0 ≤ rounded x :=
  mul_nonneg (Nat.cast_nonneg _) (two_zpow_pos _).le

/-- A number is less than `2 ^ 53` units. -/
theorem lt_of_unitExponent (hx : 0 ≤ x) : x < (2 ^ 53 : ℕ) * 2 ^ unitExponent x := by
  obtain rfl | hx := hx.eq_or_lt
  · exact mul_pos (by norm_num) (two_zpow_pos _)
  have hlog : Int.log 2 x < 53 + unitExponent x := by
    unfold unitExponent
    omega
  rw [← lt_two_zpow_iff hx, zpow_add₀ two_ne_zero] at hlog
  exact_mod_cast hlog

/-- A number is at least `2 ^ 52` units, unless they are the least ones. -/
theorem le_of_unitExponent (hx : 0 < x) (h : unitExponent x ≠ minExponent) :
    (2 ^ 52 : ℕ) * 2 ^ unitExponent x ≤ x := by
  have hlog : 52 + unitExponent x ≤ Int.log 2 x := by
    unfold unitExponent at h ⊢
    omega
  rw [← two_zpow_le_iff hx, zpow_add₀ two_ne_zero] at hlog
  exact_mod_cast hlog

/-- Units below a number stay below. -/
theorem le_rounded_of_units {c : ℕ} (h : c * 2 ^ unitExponent x ≤ x) :
    c * 2 ^ unitExponent x ≤ rounded x := by
  have hunit := two_zpow_pos (unitExponent x)
  rw [← le_div_iff₀ hunit] at h
  exact mul_le_mul_of_nonneg_right (by exact_mod_cast le_wholeNearest h) hunit.le

/-- Units above a number stay above. -/
theorem rounded_le_of_units (hx : 0 ≤ x) {c : ℕ} (h : x ≤ c * 2 ^ unitExponent x) :
    rounded x ≤ c * 2 ^ unitExponent x := by
  have hunit := two_zpow_pos (unitExponent x)
  rw [← div_le_iff₀ hunit] at h
  refine mul_le_mul_of_nonneg_right ?_ hunit.le
  exact_mod_cast wholeNearest_le (div_nonneg hx hunit.le) h

/-- A multiple of a greater power is one of a lesser power. -/
theorem exists_mul_zpow {b e : ℤ} (h : e ≤ b) (a : ℕ) : ∃ c : ℕ, (a * 2 ^ b : ℚ) = c * 2 ^ e := by
  obtain ⟨k, rfl⟩ := Int.le.dest h
  refine ⟨a * 2 ^ k, ?_⟩
  rw [add_comm, zpow_add₀ two_ne_zero, zpow_natCast, ← mul_assoc]
  push_cast
  rfl

/-- What has 53 bits at some exponent is not greater than the least number that has 53 bits at a
greater one. -/
theorem mul_zpow_le {a : ℕ} {b e : ℤ} (ha : a ≤ 2 ^ 53) (h : b < e) :
    (a * 2 ^ b : ℚ) ≤ (2 ^ 52 : ℕ) * 2 ^ e := by
  calc (a * 2 ^ b : ℚ) ≤ (2 ^ 53 : ℕ) * 2 ^ b := by gcongr
    _ = (2 ^ 52 : ℕ) * 2 ^ (b + 1) := by
        rw [zpow_add₀ two_ne_zero]
        norm_num
        ring
    _ ≤ (2 ^ 52 : ℕ) * 2 ^ e := by
        gcongr
        · exact one_le_two
        · exact h

/-- **Rounding leaps over no number below** that can be represented. -/
theorem le_rounded {a : ℕ} {b : ℤ} (hx : 0 ≤ x) (ha : a ≤ 2 ^ 53) (hb : minExponent ≤ b)
    (h : a * 2 ^ b ≤ x) : a * 2 ^ b ≤ rounded x := by
  obtain rfl | hx := hx.eq_or_lt
  · rwa [rounded_zero]
  rcases le_or_gt (unitExponent x) b with hle | hlt
  · obtain ⟨c, hc⟩ := exists_mul_zpow hle a
    rw [hc] at h ⊢
    exact le_rounded_of_units h
  · exact (mul_zpow_le ha hlt).trans (le_rounded_of_units (le_of_unitExponent hx (by omega)))

/-- **Rounding leaps over no number above** that can be represented. -/
theorem rounded_le {a : ℕ} {b : ℤ} (hx : 0 ≤ x) (ha : a ≤ 2 ^ 53) (hb : minExponent ≤ b)
    (h : x ≤ a * 2 ^ b) : rounded x ≤ a * 2 ^ b := by
  obtain rfl | hx := hx.eq_or_lt
  · rwa [rounded_zero]
  rcases le_or_gt (unitExponent x) b with hle | hlt
  · obtain ⟨c, hc⟩ := exists_mul_zpow hle a
    rw [hc] at h ⊢
    exact rounded_le_of_units hx.le h
  · -- then `x` itself is the least number of 53 bits at its exponent
    have hleast := rounded_le_of_units hx.le (h.trans (mul_zpow_le ha hlt))
    exact hleast.trans ((le_of_unitExponent hx (by omega)).trans h)

/-- A number that can be represented is rounded to itself. -/
theorem rounded_eq {a : ℕ} {b : ℤ} (ha : a ≤ 2 ^ 53) (hb : minExponent ≤ b) :
    rounded (a * 2 ^ b) = a * 2 ^ b := by
  have hvalue : (0 : ℚ) ≤ a * 2 ^ b := mul_nonneg a.cast_nonneg (two_zpow_pos b).le
  exact le_antisymm (rounded_le hvalue ha hb le_rfl) (le_rounded hvalue ha hb le_rfl)

/-- **Rounding moves a number** by half a unit at most. -/
theorem abs_rounded_sub_le (hx : 0 ≤ x) : |rounded x - x| ≤ 2 ^ unitExponent x / 2 := by
  have hunit := two_zpow_pos (unitExponent x)
  have hmove := abs_wholeNearest_sub_le (div_nonneg hx hunit.le)
  have hscaled : rounded x - x =
      (wholeNearest (x / 2 ^ unitExponent x) - x / 2 ^ unitExponent x) * 2 ^ unitExponent x := by
    rw [sub_mul, div_mul_cancel₀ _ hunit.ne', rounded]
  rw [hscaled, abs_mul, abs_of_pos hunit]
  linarith [mul_le_mul_of_nonneg_right hmove hunit.le]

/-- **Rounding moves a number** by its `2 ^ 53`-rd part at most, unless the number is so small that
its unit is the least one for lack of a lesser. -/
theorem abs_rounded_sub_le_div (h : 2 ^ (-1022 : ℤ) ≤ x) : |rounded x - x| ≤ x / 2 ^ 53 := by
  have hx : 0 < x := (two_zpow_pos _).trans_le h
  have hunits : (2 ^ 52 : ℕ) * 2 ^ unitExponent x ≤ x := by
    by_cases hleast : unitExponent x = minExponent
    · rw [hleast]
      calc ((2 ^ 52 : ℕ) * 2 ^ minExponent : ℚ) = 2 ^ (-1022 : ℤ) := by
            rw [show (-1022 : ℤ) = 52 + minExponent from rfl, zpow_add₀ two_ne_zero]
            norm_cast
        _ ≤ x := h
    · exact le_of_unitExponent hx hleast
  push_cast at hunits
  linarith [abs_rounded_sub_le hx.le]

/-- The mantissa that a number is rounded to has at most 53 bits, or is the least one with more. -/
theorem wholeNearest_units_le (hx : 0 ≤ x) : wholeNearest (x / 2 ^ unitExponent x) ≤ 2 ^ 53 := by
  refine wholeNearest_le (div_nonneg hx (two_zpow_pos _).le) ?_
  exact ((div_lt_iff₀ (two_zpow_pos _)).mpr (lt_of_unitExponent hx)).le

/-- It has 53 bits unless the unit is the least one. -/
theorem le_wholeNearest_units (hx : 0 < x) (h : unitExponent x ≠ minExponent) :
    2 ^ 52 ≤ wholeNearest (x / 2 ^ unitExponent x) :=
  le_wholeNearest ((le_div_iff₀ (two_zpow_pos _)).mpr (le_of_unitExponent hx h))

/-- Rounding a second time changes nothing. -/
theorem rounded_rounded (hx : 0 ≤ x) : rounded (rounded x) = rounded x :=
  rounded_eq (wholeNearest_units_le hx) (minExponent_le_unitExponent x)

end Rounded

/-! ### What the operations denote -/

/-- The numbers behind the greatest finite one begin at `2 ^ 1024`. -/
theorem two_zpow_1024_le {m : ℕ} {e : ℤ} (hm : 2 ^ 52 ≤ m) (he : maxExponent < e) :
    (2 : ℚ) ^ (1024 : ℤ) ≤ m * 2 ^ e := by
  have hmantissa : (2 : ℚ) ^ (52 : ℤ) ≤ m := by exact_mod_cast hm
  have hpower : (2 : ℚ) ^ (972 : ℤ) ≤ 2 ^ e := zpow_le_zpow_right₀ one_le_two he
  rw [show (1024 : ℤ) = 52 + 972 from rfl, zpow_add₀ two_ne_zero]
  exact mul_le_mul hmantissa hpower (two_zpow_pos _).le m.cast_nonneg

/-- A mantissa with one bit too many is carried into the exponent, which changes no value. -/
theorem exists_carried {m : ℕ} {e : ℤ} (hm : m ≤ 2 ^ 53) (he : minExponent ≤ e)
    (hnormal : e ≠ minExponent → 2 ^ 52 ≤ m) :
    ∃ n f, (if m = Nat.pow 2 53 then (Nat.pow 2 52, e + 1) else (m, e)) = (n, f) ∧
      n < 2 ^ 53 ∧ minExponent ≤ f ∧ (f ≠ minExponent → 2 ^ 52 ≤ n) ∧
      (n * 2 ^ f : ℚ) = m * 2 ^ e := by
  by_cases hcarry : m = Nat.pow 2 53
  · refine ⟨Nat.pow 2 52, e + 1, if_pos hcarry, by decide, by omega, fun _ => le_rfl, ?_⟩
    rw [hcarry, zpow_add₀ two_ne_zero]
    norm_num
    ring
  · exact ⟨m, e, if_neg hcarry, lt_of_le_of_ne hm hcarry, he, hnormal, rfl⟩

/-- **The number nearest to a fraction** denotes what the fraction is rounded to, unless that lies
beyond the greatest finite number. -/
theorem nearest_cases (negative : Bool) (num : ℕ) {den : ℕ} (hden : 0 < den) :
    (∃ m e, nearest negative num den = .finite negative m e ∧
      (Binary64.finite negative m e).IsCanonical ∧ (m * 2 ^ e : ℚ) = rounded (num / den)) ∨
    (nearest negative num den = .infinite negative ∧
      (2 : ℚ) ^ (1024 : ℤ) ≤ rounded (num / den)) := by
  obtain rfl | hnum := num.eq_zero_or_pos
  · exact .inl ⟨0, 0, rfl, ⟨by decide, by decide, by decide⟩, by simp⟩
  have hx : (0 : ℚ) < num / den := by positivity
  have hexponent := exponentFor_eq hnum hden
  have hmantissa : divNearestEven (scale num den (exponentFor num den)).1
      (scale num den (exponentFor num den)).2 =
        wholeNearest (num / den / 2 ^ unitExponent (num / den)) := by
    rw [divNearestEven_eq _ (scale_pos hden _), scale_div, hexponent]
  obtain ⟨m, e, hcarried, hbits, hleast, hnormal, hvalue⟩ :=
    exists_carried (wholeNearest_units_le hx.le) (minExponent_le_unitExponent _)
      (le_wholeNearest_units hx)
  change (m * 2 ^ e : ℚ) = rounded (num / den) at hvalue
  rw [← hvalue]
  unfold nearest
  rw [if_neg hnum.ne']
  dsimp only
  rw [hmantissa, hexponent, hcarried]
  by_cases hmax : maxExponent < e
  · have hpositive : e ≠ minExponent := fun heq => absurd hmax (by rw [heq]; decide)
    exact .inr ⟨if_pos hmax, two_zpow_1024_le (hnormal hpositive) hmax⟩
  · exact .inl ⟨m, e, if_neg hmax, ⟨hbits, hleast, not_lt.mp hmax⟩, rfl⟩

/-- A fraction up to a number that can be represented is rounded to a finite number. -/
theorem exists_nearest_eq (negative : Bool) {num den a : ℕ} (hden : 0 < den) (ha : a ≤ 2 ^ 53)
    (h : (num / den : ℚ) ≤ a * 2 ^ (64 : ℤ)) :
    ∃ m e, nearest negative num den = .finite negative m e ∧
      (m * 2 ^ e : ℚ) = rounded (num / den) := by
  rcases nearest_cases negative num hden with ⟨m, e, hnearest, -, hvalue⟩ | ⟨-, hvalue⟩
  · exact ⟨m, e, hnearest, hvalue⟩
  · have hle : rounded (num / den) ≤ a * 2 ^ (64 : ℤ) :=
      rounded_le (div_nonneg num.cast_nonneg den.cast_nonneg) ha (by decide) h
    have hmost : (a * 2 ^ (64 : ℤ) : ℚ) ≤ (2 ^ 53 : ℕ) * 2 ^ (64 : ℤ) := by gcongr
    have hlt : ((2 ^ 53 : ℕ) * 2 ^ (64 : ℤ) : ℚ) < 2 ^ (1024 : ℤ) := by
      rw [Nat.cast_pow, Nat.cast_ofNat, ← zpow_natCast, ← zpow_add₀ two_ne_zero]
      exact zpow_lt_zpow_right₀ one_lt_two (by decide)
    exact absurd (hvalue.trans (hle.trans hmost)) hlt.not_ge

/-- A natural number of 64 bits is rounded to a finite number. -/
theorem exists_ofNat_eq {n : ℕ} (h : n ≤ 2 ^ 64) :
    ∃ m e, ofNat n = .finite false m e ∧ (m * 2 ^ e : ℚ) = rounded n := by
  have hle : (n / (1 : ℕ) : ℚ) ≤ (1 : ℕ) * 2 ^ (64 : ℤ) := by
    rw [Nat.cast_one, div_one, one_mul]
    exact_mod_cast h
  obtain ⟨m, e, hnearest, hvalue⟩ := exists_nearest_eq false Nat.one_pos (by decide) hle
  exact ⟨m, e, hnearest, by rw [hvalue, Nat.cast_one, div_one]⟩

/-- The whole part of a finite number that is not negative. -/
theorem toNatFloor_finite (bound m : ℕ) (e : ℤ) :
    (finite false m e).toNatFloor bound = Numeral.clamp bound ⌊(m * 2 ^ e : ℚ)⌋₊ := by
  rw [← fraction_div, Nat.floor_div_eq_div]
  rfl

/-- **The whole part of the number nearest to a fraction** is that of what the fraction is rounded
to. A number too great to be finite is cut like any other number beyond the bound. -/
theorem toNatFloor_nearest {bound : ℕ} (hbound : (bound : ℚ) ≤ 2 ^ (1024 : ℤ)) (num : ℕ) {den : ℕ}
    (hden : 0 < den) :
    (nearest false num den).toNatFloor bound =
      Numeral.clamp bound ⌊rounded (num / den)⌋₊ := by
  rcases nearest_cases false num hden with ⟨m, e, hnearest, -, hvalue⟩ | ⟨hnearest, hvalue⟩
  · rw [hnearest, toNatFloor_finite, hvalue]
  · have hbeyond : bound ≤ ⌊rounded (num / den)⌋₊ := Nat.le_floor (hbound.trans hvalue)
    rw [hnearest, Numeral.clamp, min_eq_right ((Nat.sub_le bound 1).trans hbeyond)]
    rfl

/-- A quotient is rounded to the whole number that is less than one half away from it. -/
theorem divNearestUp_eq {num den k : ℕ} (hden : 0 < den) (h : |(num / den : ℚ) - k| < 1 / 2) :
    divNearestUp num den = k := by
  have hpos : (0 : ℚ) < den := Nat.cast_pos.mpr hden
  obtain ⟨hlow, hhigh⟩ := abs_lt.mp h
  have hlow : ((k : ℚ) - 1 / 2) * den < num := by
    rw [← lt_div_iff₀ hpos]
    linarith
  have hhigh : (num : ℚ) < (k + 1 / 2) * den := by
    rw [← div_lt_iff₀ hpos]
    linarith
  refine Nat.div_eq_of_lt_le ?_ ?_
  · have hcast : ((k * (2 * den) : ℕ) : ℚ) < (2 * num + den : ℕ) := by
      push_cast
      linarith
    exact_mod_cast hcast.le
  · have hcast : ((2 * num + den : ℕ) : ℚ) < ((k + 1) * (2 * den) : ℕ) := by
      push_cast
      linarith
    exact_mod_cast hcast

/-- The whole number nearest to a finite number that is not negative, if it is less than one half
away. -/
theorem toNatRound_finite (bound : ℕ) {m k : ℕ} {e : ℤ} (h : |(m * 2 ^ e : ℚ) - k| < 1 / 2) :
    (finite false m e).toNatRound bound = Numeral.clamp bound k := by
  rw [← fraction_div] at h
  exact congrArg (Numeral.clamp bound) (divNearestUp_eq (fraction_pos m e) h)

/-- A finite number is at least one if what it denotes is. -/
theorem atLeastOne_finite (negative : Bool) (m : ℕ) (e : ℤ) :
    (finite negative m e).atLeastOne = true ↔ negative = false ∧ 1 ≤ (m * 2 ^ e : ℚ) := by
  have hpos : (0 : ℚ) < (fraction m e).2 := Nat.cast_pos.mpr (fraction_pos m e)
  rw [← fraction_div, one_le_div hpos, Nat.cast_le]
  simp [atLeastOne]

/-- **The product** of two finite numbers is the number nearest to the product of what they
denote. -/
theorem exists_mul_eq_nearest (s t : Bool) (m n : ℕ) (e f : ℤ) :
    ∃ num den : ℕ, 0 < den ∧ (num / den : ℚ) = m * 2 ^ e * (n * 2 ^ f) ∧
      mul (.finite s m e) (.finite t n f) = nearest (s != t) num den := by
  refine ⟨(fraction (m * n) (e + f)).1, _, fraction_pos (m * n) (e + f), ?_, rfl⟩
  rw [fraction_div, zpow_add₀ two_ne_zero, Nat.cast_mul]
  ring

end NodeGateway.Binary64
