import NodeGateway.Proofs.Number.Plain
import NodeGateway.Proofs.Oracle.Verdict
import NodeGateway.Transaction.Submission

/-!
# Fees Are Exact

An oracle quotes prices in gwei with up to nine places, so every price is a whole number of wei. On
its way to a fee it is rounded twice: most decimals are no binary64 numbers, and neither is the
product with a billion. Below a million gwei neither rounding moves the number of wei, which is less
than `10 ^ 15`, by more than its `2 ^ 53`-rd part, so both together move it by less than one half.
The whole number nearest to the result is then the number of wei that was quoted.

The bound has a reserve of a factor four and not more: it is about `2 ^ 22` gwei where the first wei
is lost.

## Main results

* `Binary64.abs_rounded_mul_sub_lt`: how far two roundings move a number of wei;
* `GasPrices.maxFee_eq`: the fee for a price that is the number nearest to a decimal;
* `GasPrices.maxFee_of_plain`: the fee for a price that is quoted as a plain decimal.
-/

namespace NodeGateway

/-! ### Two roundings -/

/-- **Two roundings** move fewer than `10 ^ 15` billionths, which are made whole in between, by less
than one half. -/
theorem Binary64.abs_rounded_mul_sub_lt {billionths : ℕ} (h : billionths < 10 ^ 15) :
    |rounded (rounded (billionths / 10 ^ 9) * 10 ^ 9) - (billionths : ℚ)| < 1 / 2 := by
  obtain rfl | hpos := billionths.eq_zero_or_pos
  · norm_num
  have hone : (1 : ℚ) ≤ billionths := by exact_mod_cast hpos
  have hmost : (billionths : ℚ) < 10 ^ 15 := by exact_mod_cast h
  have hsmall : (2 : ℚ) ^ (-1022 : ℤ) ≤ 2 ^ (-30 : ℤ) := zpow_le_zpow_right₀ one_le_two (by decide)
  -- the first rounding, in billionths
  have hfirst : |rounded (billionths / 10 ^ 9) - (billionths / 10 ^ 9 : ℚ)| ≤
      (billionths / 10 ^ 9 : ℚ) / 2 ^ 53 := by
    refine abs_rounded_sub_le_div (hsmall.trans ?_)
    rw [le_div_iff₀ (by norm_num)]
    exact le_trans (by norm_num) hone
  generalize rounded (billionths / 10 ^ 9) = price at hfirst ⊢
  obtain ⟨hlow, hhigh⟩ := abs_le.mp hfirst
  -- the second one, of a number that the first has hardly changed
  have hsecond : |rounded (price * 10 ^ 9) - price * 10 ^ 9| ≤ price * 10 ^ 9 / 2 ^ 53 := by
    refine abs_rounded_sub_le_div (hsmall.trans ?_)
    norm_num
    linarith
  obtain ⟨hlow', hhigh'⟩ := abs_le.mp hsecond
  rw [abs_lt]
  constructor <;> linarith

namespace GasPrices

/-- A billion is a binary64 number. -/
theorem exists_weiPerGwei_eq :
    ∃ n f, weiPerGwei = .finite false n f ∧ (n * 2 ^ f : ℚ) = 10 ^ 9 := by
  obtain ⟨n, f, hfinite, hvalue⟩ := Binary64.exists_ofNat_eq (n := 10 ^ 9) (by norm_num)
  have hself := Binary64.rounded_eq (a := 10 ^ 9) (b := 0) (by norm_num) (by decide)
  rw [zpow_zero, mul_one] at hself
  exact ⟨n, f, hfinite, by rw [hvalue, hself, Nat.cast_pow, Nat.cast_ofNat]⟩

/-- **The fee for a price** that is the number nearest to fewer than `10 ^ 15` billionths is that
many wei. -/
theorem maxFee_eq {prices : GasPrices} {speed : GasSpeed} {num den billionths : ℕ}
    (hden : 0 < den) (hquoted : (num / den : ℚ) = billionths / 10 ^ 9)
    (hbelow : billionths < 10 ^ 15)
    (h : prices.gwei speed = Binary64.nearest false num den) :
    prices.maxFee speed = billionths := by
  have hmost : (billionths / 10 ^ 9 : ℚ) ≤ (10 ^ 6 : ℕ) * 2 ^ (0 : ℤ) := by
    rw [div_le_iff₀ (by norm_num)]
    exact_mod_cast hbelow.le
  -- the price is finite, and so is a billion times the price
  obtain ⟨m, e, hfinite, hprice⟩ := Binary64.exists_nearest_eq false (a := 1) hden (by decide)
    (hquoted.trans_le (hmost.trans (by norm_num)))
  obtain ⟨n, f, hgwei, hbillion⟩ := exists_weiPerGwei_eq
  obtain ⟨num', den', hden', hproduct, hmul⟩ := Binary64.exists_mul_eq_nearest false false m n e f
  rw [hprice, hbillion, hquoted] at hproduct
  have hrounded : Binary64.rounded (billionths / 10 ^ 9) ≤ (10 ^ 6 : ℕ) * 2 ^ (0 : ℤ) :=
    Binary64.rounded_le (by positivity) (by norm_num) (by decide) hmost
  obtain ⟨m', e', hfinite', hwei⟩ := Binary64.exists_nearest_eq false (a := 1) hden' (by decide) (by
    rw [hproduct]
    norm_num at hrounded ⊢
    linarith)
  rw [hproduct] at hwei
  have hclose := Binary64.abs_rounded_mul_sub_lt hbelow
  rw [← hwei] at hclose
  rw [maxFee, h, hfinite, hgwei, hmul, bne_self_eq_false, hfinite',
    Binary64.toNatRound_finite _ hclose, Numeral.clamp]
  exact min_eq_left (Nat.le_of_lt (hbelow.trans (by decide)))

end GasPrices

/-! ### Quoted prices -/

/-- The member of a result that holds the price for a speed. -/
def GasSpeed.member : GasSpeed → String
  | .slow => "SafeGasPrice"
  | .standard => "ProposeGasPrice"
  | .fast => "FastGasPrice"

/-- The place of that price in a result that is a list. -/
def GasSpeed.place : GasSpeed → ℕ
  | .slow => 0
  | .standard => 1
  | .fast => 2

namespace GasPrices

/-- A result **has a text** for the price of a speed: as the only value of its member, or at its
place in a list. -/
inductive HasText : Json → GasSpeed → String → Prop
  | object {members : List (Option String × Json)} {speed : GasSpeed} {text : String}
      (h : Json.valuesOf speed.member members = [.str text]) : HasText (.object members) speed text
  | array {items : List Json} {speed : GasSpeed} {text : String}
      (h : items[speed.place]? = some (.str text)) : HasText (.array items) speed text

/-- A number is read from the text that quotes it. -/
theorem read?_of_quotes {value : Json} {text : String} {x : Binary64} (h : value.Quotes x)
    (htext : value = .str text) : Decimal.read? (Text.trim text.toList) = some x := by
  obtain ⟨other, rfl, hread⟩ := h
  obtain rfl : other = text := Option.some.inj (Json.string.inj htext)
  exact hread

/-- **The price for a speed** is read from the text that a result has for it. -/
theorem read?_of_hasText {result : Json} {prices : GasPrices} {speed : GasSpeed} {text : String}
    (hquoted : Quoted result prices) (htext : HasText result speed text) :
    Decimal.read? (Text.trim text.toList) = some (prices.gwei speed) := by
  cases hquoted with
  | object hslow hstandard hfast hprices =>
      cases htext with
      | object h =>
          cases speed with
          | slow => exact read?_of_quotes hprices.1 (List.cons.inj (hslow.symm.trans h)).1
          | standard => exact read?_of_quotes hprices.2.1 (List.cons.inj (hstandard.symm.trans h)).1
          | fast => exact read?_of_quotes hprices.2.2 (List.cons.inj (hfast.symm.trans h)).1
  | array hprices =>
      cases htext with
      | array h =>
          cases speed with
          | slow => exact read?_of_quotes hprices.1 (Option.some.inj h)
          | standard => exact read?_of_quotes hprices.2.1 (Option.some.inj h)
          | fast => exact read?_of_quotes hprices.2.2 (Option.some.inj h)

/-- **The fee for a price that is quoted as a plain decimal** below a million gwei, with blanks
around it or not, is exactly the number of wei that the decimal says. The text is always read, it is
read into the slot of the speed for which a result has it, and a caller who takes the fee over from
the prices changes nothing else about a transaction. -/
theorem maxFee_of_plain {text : String} {billionths : ℕ}
    (hplain : Decimal.Plain (Text.trim text.toList) billionths) (hbelow : billionths < 10 ^ 15) :
    ∃ price, Decimal.read? (Text.trim text.toList) = some price ∧
      (∀ (result : Json) (prices : GasPrices) (speed : GasSpeed), Quoted result prices →
        HasText result speed text → prices.gwei speed = price) ∧
      ∀ (prices : GasPrices) (speed : GasSpeed), prices.gwei speed = price →
        prices.maxFee speed = billionths ∧
          ∀ options : SendOptions, options.withSuggestedMaxFee prices speed =
            { options with maxFee := some billionths } := by
  have hmoderate : billionths < 10 ^ 200 :=
    hbelow.trans (Nat.pow_lt_pow_right (by decide) (by decide))
  obtain ⟨num, den, hden, hquoted, hread⟩ := Decimal.read?_of_plain hplain hmoderate
  refine ⟨_, hread, fun result prices speed hresult htext => ?_, fun prices speed hprice => ?_⟩
  · exact Option.some.inj ((read?_of_hasText hresult htext).symm.trans hread)
  · have hfee := maxFee_eq hden hquoted hbelow hprice
    exact ⟨hfee, fun options => by rw [SendOptions.withSuggestedMaxFee, hfee]⟩

/-- The greatest price below a million gwei needs all its digits, and is no binary64 number. -/
theorem maxFee_of_plain_greatest :
    let text := " 999999.999999999 "
    Decimal.Plain (Text.trim text.toList) 999999999999999 ∧
    ∃ price, Decimal.read? (Text.trim text.toList) = some price ∧
      (⟨price, price, price⟩ : GasPrices).maxFee .fast = 999999999999999 := by
  intro text
  have htrim : Text.trim text.toList = "999999".toList ++ '.' :: "999999999".toList := by decide
  have hplain : Decimal.Plain (Text.trim text.toList) 999999999999999 := by
    rw [htrim]
    exact .pointed ⟨by decide, List.all_eq_true.mp (by decide), rfl⟩ (by decide)
  obtain ⟨price, hread, -, hfee⟩ := maxFee_of_plain hplain (by decide)
  exact ⟨hplain, price, hread, (hfee ⟨price, price, price⟩ .fast rfl).1⟩

/-- Above four million gwei the first wei are lost. -/
example : (Decimal.read? "4194321.618364901".toList).map
    (fun price => (⟨price, price, price⟩ : GasPrices).maxFee .fast) = some 4194321618364902 := by
  decide +kernel

end GasPrices

end NodeGateway
