import NodeGateway.Proofs.Number.Rounding
import NodeGateway.Transaction.Gas

/-!
# How Safe Gas Limits Are

A gas limit below the node's own estimate would make the transaction fail, so a multiplier below one
is refused. That alone does not keep a limit from lying below the estimate, for the estimate is
converted to binary64 first, which may round it down, and the product is rounded once more.

The second rounding is harmless: it leaps over no binary64 number, and the converted estimate is
one. The first one is harmless too as soon as the multiplier is greater than one at all, because
then the product is at least one unit in the last place above the converted estimate, and the
conversion lost half a unit at most. With a multiplier of exactly one, which is allowed, nothing
makes up for what the conversion has lost.

## Main results

* `GasPolicy.safeLimit_eq`: the two roundings, on rational numbers;
* `GasPolicy.safeLimit_of_make`: when exactly a limit is at least the estimate and the buffer;
* `GasPolicy.safeLimit_below_estimate`: a limit below the estimate.
-/

namespace NodeGateway.GasPolicy

open Binary64

/-- **A policy is made** of the multipliers that are finite and at least one. -/
theorem make_eq_ok_iff {buffer : ℕ} {multiplier : Binary64} {policy : GasPolicy} :
    make buffer multiplier = .ok policy ↔
      ∃ n f, multiplier = .finite false n f ∧ 1 ≤ (n * 2 ^ f : ℚ) ∧
        policy = ⟨buffer, multiplier⟩ := by
  unfold make isMultiplier
  cases multiplier with
  | finite negative n f =>
      simp only [isFinite, Bool.true_and, atLeastOne_finite]
      constructor
      · intro h
        split at h
        case isTrue hone => exact ⟨n, f, by rw [hone.1], hone.2, (Except.ok.inj h).symm⟩
        case isFalse => cases h
      · rintro ⟨n', f', heq, hone, rfl⟩
        cases heq
        rw [if_pos ⟨rfl, hone⟩]
  | infinite negative => simp [isFinite]
  | nan => simp [isFinite]

/-! ### Two roundings -/

section Product

variable {x v : ℚ}

/-- **The second rounding loses nothing** that the first one has left. -/
theorem rounded_le_rounded_mul (hx : 0 ≤ x) (hv : 1 ≤ v) :
    rounded x ≤ rounded (rounded x * v) := by
  have hgrown : rounded x ≤ rounded x * v := le_mul_of_one_le_right (rounded_nonneg x) hv
  exact le_rounded ((rounded_nonneg x).trans hgrown) (wholeNearest_units_le hx)
    (minExponent_le_unitExponent x) hgrown

/-- Numbers of 53 bits that are greater than one are so by one unit in the last place at least. -/
theorem one_add_le_of_one_lt {n : ℕ} {f : ℤ} (hn : n < 2 ^ 53) (h : 1 < (n * 2 ^ f : ℚ)) :
    1 + 2 ^ (-52 : ℤ) ≤ (n * 2 ^ f : ℚ) := by
  rcases Int.eq_nat_or_neg f with ⟨k, rfl | rfl⟩
  · have hwhole : 1 < n * 2 ^ k := by exact_mod_cast h
    have htwo : (2 : ℚ) ≤ n * 2 ^ (k : ℤ) := by exact_mod_cast hwhole
    linarith [show (2 : ℚ) ^ (-52 : ℤ) ≤ 1 by norm_num]
  · rw [zpow_neg 2 (k : ℤ), zpow_natCast, ← div_eq_mul_inv] at h ⊢
    have hpower : (0 : ℚ) < 2 ^ k := by positivity
    have hlt : 2 ^ k < n := by exact_mod_cast (one_lt_div hpower).mp h
    have hbits : k ≤ 52 :=
      Nat.lt_succ_iff.mp ((Nat.pow_lt_pow_iff_right one_lt_two).mp (hlt.trans hn))
    have hnext : (2 ^ k + 1 : ℚ) ≤ n := by exact_mod_cast hlt
    have hunit : (2 : ℚ) ^ (-52 : ℤ) ≤ 1 / 2 ^ k := by
      rw [one_div, ← zpow_natCast, ← zpow_neg]
      exact zpow_le_zpow_right₀ one_le_two (by omega)
    calc 1 + 2 ^ (-52 : ℤ) ≤ 1 + 1 / (2 : ℚ) ^ k := by gcongr
      _ = (2 ^ k + 1) / 2 ^ k := by rw [add_div, div_self hpower.ne']
      _ ≤ n / 2 ^ k := by gcongr

/-- **A factor greater than one** makes up for what the first rounding has lost. -/
theorem le_rounded_mul_of_one_lt (hx : 1 ≤ x) (hv : 1 + 2 ^ (-52 : ℤ) ≤ v) :
    x ≤ rounded (rounded x * v) := by
  have hpos : 0 < x := by linarith
  have hnormal : unitExponent x ≠ minExponent := by
    have hlog : 0 ≤ Int.log 2 x := by rwa [← two_zpow_le_iff hpos, zpow_zero]
    unfold unitExponent minExponent
    omega
  have hunits : rounded x =
      wholeNearest (x / 2 ^ unitExponent x) * 2 ^ unitExponent x := rfl
  have hlow := le_wholeNearest_units hpos hnormal
  have hhigh := wholeNearest_units_le hpos.le
  have hlost := (abs_le.mp (abs_rounded_sub_le hpos.le)).1
  have hbelow := lt_of_unitExponent hpos.le
  have hgrown := rounded_le_rounded_mul hpos.le (by linarith [two_zpow_pos (-52)] : 1 ≤ v)
  have hexponent := minExponent_le_unitExponent x
  generalize unitExponent x = e at *
  generalize wholeNearest (x / 2 ^ e) = m at *
  have hunit := two_zpow_pos e
  rcases hhigh.eq_or_lt with rfl | hlt
  · -- the first rounding went up
    exact (hbelow.le.trans hunits.ge).trans hgrown
  · have hnext : ((m + 1 : ℕ) * 2 ^ e : ℚ) ≤ rounded x * v := by
      have hbits : (2 ^ 52 : ℚ) ≤ m := by exact_mod_cast hlow
      calc ((m + 1 : ℕ) * 2 ^ e : ℚ) = rounded x + 1 * 2 ^ e := by
            rw [hunits]
            push_cast
            ring
        _ ≤ rounded x + m * 2 ^ (-52 : ℤ) * 2 ^ e := by
            gcongr
            rw [zpow_neg, ← div_eq_mul_inv, one_le_div (two_zpow_pos 52)]
            exact_mod_cast hlow
        _ = rounded x * (1 + 2 ^ (-52 : ℤ)) := by
            rw [hunits]
            ring
        _ ≤ rounded x * v := mul_le_mul_of_nonneg_left hv (rounded_nonneg x)
    have hreached : x ≤ (m + 1 : ℕ) * 2 ^ e := by
      push_cast
      linarith
    exact hreached.trans
      (le_rounded (mul_nonneg (rounded_nonneg x) (by linarith [two_zpow_pos (-52)])) hlt hexponent
        hnext)

end Product

/-! ### What the conversion keeps -/

/-- The whole part of an estimate, once it is a binary64 number. -/
def kept (estimate : ℕ) : ℕ := (ofNat estimate).toNatFloor Numeral.bound64

theorem bound64_le : (Numeral.bound64 : ℚ) ≤ 2 ^ (1024 : ℤ) := by
  have hpower : (2 : ℚ) ^ (64 : ℤ) ≤ 2 ^ (1024 : ℤ) := zpow_le_zpow_right₀ one_le_two (by decide)
  exact_mod_cast hpower

theorem kept_eq (estimate : ℕ) :
    kept estimate = Numeral.clamp Numeral.bound64 ⌊rounded estimate⌋₊ := by
  rw [kept, ofNat, toNatFloor_nearest bound64_le _ Nat.one_pos, Nat.cast_one, div_one]

/-- Estimates of up to 53 bits are kept as they are. -/
theorem kept_of_le {estimate : ℕ} (h : estimate ≤ 2 ^ 53) : kept estimate = estimate := by
  have hself : rounded estimate = estimate := by
    simpa using rounded_eq h (show minExponent ≤ 0 by decide)
  rw [kept_eq, hself, Nat.floor_natCast, Numeral.clamp]
  exact min_eq_left (h.trans (by decide))

/-- No estimate of 64 bits loses more than half a unit in its last place. -/
theorem le_kept_add {estimate : ℕ} (h : estimate < Numeral.bound64) :
    estimate ≤ kept estimate + 1024 := by
  rcases le_or_gt estimate (2 ^ 53) with hsmall | hlarge
  · exact (kept_of_le hsmall).ge.trans (Nat.le_add_right _ _)
  have hpos : (0 : ℚ) < estimate := Nat.cast_pos.mpr (by omega)
  have hunit : (2 : ℚ) ^ unitExponent estimate ≤ 2 ^ (11 : ℤ) := by
    have hlog : Int.log 2 (estimate : ℚ) < 64 := by
      rw [← lt_two_zpow_iff hpos]
      exact_mod_cast h
    refine zpow_le_zpow_right₀ one_le_two ?_
    unfold unitExponent minExponent
    omega
  have hlost := (abs_le.mp (abs_rounded_sub_le hpos.le)).1
  have hreal : (estimate : ℚ) ≤ rounded estimate + (1024 : ℕ) := by
    push_cast
    linarith [show (2 : ℚ) ^ (11 : ℤ) = 2048 by norm_num]
  have hfloor : estimate ≤ ⌊rounded estimate⌋₊ + 1024 := by
    rw [← Nat.floor_add_natCast (rounded_nonneg _)]
    exact Nat.le_floor hreal
  rw [kept_eq, Numeral.clamp]
  omega

/-! ### Limits -/

/-- **A limit** is cut twice: the product when it becomes a whole number again, and the sum. -/
theorem safeLimit_eq (buffer n : ℕ) (f : ℤ) {estimate : ℕ} (h : estimate < Numeral.bound64) :
    (⟨buffer, .finite false n f⟩ : GasPolicy).safeLimit estimate =
      Numeral.clamp Numeral.bound64
        (Numeral.clamp Numeral.bound64 ⌊rounded (rounded estimate * (n * 2 ^ f))⌋₊ + buffer) := by
  obtain ⟨m, e, hconverted, hvalue⟩ := exists_ofNat_eq h.le
  obtain ⟨num, den, hden, hproduct, hmul⟩ := exists_mul_eq_nearest false false m n e f
  rw [safeLimit, hconverted, hmul, bne_self_eq_false, toNatFloor_nearest bound64_le _ hden,
    hproduct, hvalue]

/-- **A limit is at least the estimate and the buffer**, as far as 64 bits go, unless the multiplier
is one and the conversion to binary64 has taken something from the estimate that 64 bits would have
had room for. Up to 53 bits it takes nothing, and above them 1024 at most. In no case does a limit
wrap around. -/
theorem safeLimit_of_make {buffer estimate : ℕ} {multiplier : Binary64} {policy : GasPolicy}
    (hmultiplier : multiplier.IsCanonical) (hmake : make buffer multiplier = .ok policy)
    (hestimate : estimate < Numeral.bound64) :
    policy.safeLimit estimate < Numeral.bound64 ∧
    min (Numeral.bound64 - 1) (kept estimate + buffer) ≤ policy.safeLimit estimate ∧
    estimate ≤ kept estimate + 1024 ∧ (estimate ≤ 2 ^ 53 → kept estimate = estimate) ∧
    (min (Numeral.bound64 - 1) (estimate + buffer) ≤ policy.safeLimit estimate ↔
      1 < multiplier.toRat ∨ estimate ≤ kept estimate ∨
        Numeral.bound64 - 1 ≤ kept estimate + buffer) := by
  obtain ⟨n, f, rfl, hone, rfl⟩ := make_eq_ok_iff.mp hmake
  have hvalue : (finite false n f).toRat = n * 2 ^ f := by simp [toRat]
  have hlimit := safeLimit_eq buffer n f hestimate
  have hkept := kept_eq estimate
  have hlow : ⌊rounded estimate⌋₊ ≤ ⌊rounded (rounded estimate * (n * 2 ^ f))⌋₊ :=
    Nat.floor_le_floor (rounded_le_rounded_mul estimate.cast_nonneg hone)
  have hmargin : 1 < (n * 2 ^ f : ℚ) →
      estimate ≤ ⌊rounded (rounded estimate * (n * 2 ^ f))⌋₊ := by
    intro hgreater
    obtain rfl | hpos := estimate.eq_zero_or_pos
    · exact Nat.zero_le _
    · exact Nat.le_floor (le_rounded_mul_of_one_lt (by exact_mod_cast hpos)
        (one_add_le_of_one_lt hmultiplier.1 hgreater))
  have hexact : (n * 2 ^ f : ℚ) = 1 →
      ⌊rounded (rounded estimate * (n * 2 ^ f))⌋₊ = ⌊rounded estimate⌋₊ := by
    intro hequal
    rw [hequal, mul_one, rounded_rounded estimate.cast_nonneg]
  rw [hvalue, hlimit]
  unfold Numeral.clamp at hkept ⊢
  have hbound : 0 < Numeral.bound64 := by decide
  refine ⟨by omega, by omega, le_kept_add hestimate, kept_of_le, ?_⟩
  constructor
  · intro hsafe
    rcases hone.eq_or_lt with hequal | hgreater
    · have := hexact hequal.symm
      omega
    · exact .inl hgreater
  · rintro (hgreater | hsafe)
    · have := hmargin hgreater
      omega
    · omega

/-- The least multiplier above one makes up for an estimate that has lost 1023. -/
theorem safeLimit_of_make_least_margin :
    let multiplier : Binary64 := .finite false (2 ^ 52 + 1) (-52)
    let policy : GasPolicy := ⟨0, multiplier⟩
    let estimate := 2 ^ 63 + 1023
    multiplier.IsCanonical ∧ make 0 multiplier = .ok policy ∧ estimate < Numeral.bound64 ∧
    kept estimate = 2 ^ 63 ∧
    min (Numeral.bound64 - 1) (estimate + 0) ≤ policy.safeLimit estimate := by
  intro multiplier policy estimate
  have hmultiplier : multiplier.IsCanonical := ⟨by decide, by decide, by decide⟩
  have hmake : make 0 multiplier = .ok policy := by decide +kernel
  have hestimate : estimate < Numeral.bound64 := by decide
  have hgreater : 1 < multiplier.toRat := by norm_num [multiplier, toRat]
  obtain ⟨-, -, -, -, hsafe⟩ := safeLimit_of_make hmultiplier hmake hestimate
  exact ⟨hmultiplier, hmake, hestimate, by decide +kernel, hsafe.mpr (.inl hgreater)⟩

/-- With a multiplier of one, which is allowed, the first number of 54 bits is given a limit **below
itself**. -/
theorem safeLimit_below_estimate :
    let policy : GasPolicy := ⟨0, Binary64.ofNat 1⟩
    let estimate := 2 ^ 53 + 1
    make 0 (Binary64.ofNat 1) = .ok policy ∧ policy.safeLimit estimate = 2 ^ 53 ∧
    ¬ min (Numeral.bound64 - 1) (estimate + 0) ≤ policy.safeLimit estimate := by
  decide +kernel

end NodeGateway.GasPolicy
