import Mathlib.Data.Nat.Init
import Mathlib.Data.Option.Basic
import NodeGateway.Text.Hex

/-!
# Letters and Digits of Either Case

Hexadecimal digits are written in lower case and read in either. A text is read as some bytes
exactly if it is written like them but for the case of its letters (`Hex.Spells.decode?`,
`Hex.spells_of_decode?`).

Letters that have another case, digits and what goes with them are all among the first characters,
so most of what is said of them is looked up for each of these (`Text.forall_of_lt`).
-/

namespace NodeGateway

namespace Text

/-- What holds of each of the first characters holds of a character among them. -/
theorem forall_of_lt {P : Char → Prop} {bound : Nat} (h : ∀ n < bound, P (Char.ofNat n)) {c : Char}
    (hc : c.toNat < bound) : P c := by
  have := h c.toNat hc
  rwa [Char.ofNat_toNat] at this

/-- Only the capital letters of ASCII have another case. -/
theorem toLower_eq_self {c : Char} (h : ¬ (65 ≤ c.toNat ∧ c.toNat ≤ 90)) : c.toLower = c :=
  dif_neg fun hupper => by
    have hlow := UInt32.le_iff_toNat_le.mp hupper.1
    have hhigh := UInt32.le_iff_toNat_le.mp hupper.2
    exact h ⟨hlow, hhigh⟩

end Text

namespace Hex

variable {c : Char} {n : Nat} {digits : List Char} {bytes : Bytes}

/-- The digits that numbers are written in. -/
def lowerDigits : List Char := "0123456789abcdef".toList

/-- Numbers are written in these digits, whatever the base is. -/
theorem mem_toDigits {base : Nat} (hpos : 1 < base) (hbase : base ≤ 16) :
    ∀ c ∈ Nat.toDigits base n, c ∈ lowerDigits := by
  have hdigit : ∀ n < 16, n.digitChar ∈ lowerDigits := by decide
  induction n using Nat.strong_induction_on with
  | _ n ih =>
      by_cases h : n < base
      · rw [Nat.toDigits_of_lt_base h]
        exact List.forall_mem_singleton.mpr (hdigit n (by omega))
      · rw [Nat.toDigits_of_base_le hpos (by omega)]
        intro c hc
        rcases List.mem_append.mp hc with hc | hc
        · exact ih (n / base) (Nat.div_lt_self (by omega) hpos) c hc
        · have hmod := Nat.mod_lt n (show base > 0 by omega)
          exact List.mem_singleton.mp hc ▸ hdigit _ (by omega)

/-- The case of a digit does not matter. -/
theorem digitValue?_toLower (c : Char) : digitValue? c.toLower = digitValue? c := by
  by_cases hupper : 65 ≤ c.toNat ∧ c.toNat ≤ 90
  · exact Text.forall_of_lt (P := fun c => digitValue? c.toLower = digitValue? c) (by decide)
      (Nat.lt_succ_of_le hupper.2)
  · rw [Text.toLower_eq_self hupper]

theorem decode?_map_toLower (digits : List Char) :
    decode? (digits.map Char.toLower) = decode? digits := by
  fun_induction decode? digits with
  | case1 | case2 => rfl
  | case3 high low rest ih =>
      rw [List.map_cons, List.map_cons, decode?, ih, digitValue?_toLower, digitValue?_toLower]

/-- Digits are found among the first characters of all. -/
theorem toNat_lt_of_digitValue? (h : digitValue? c = some n) : c.toNat < 103 := by
  have hbelow : ∀ {last : Char}, c ≤ last → c.toNat ≤ last.toNat := fun hle =>
    UInt32.le_iff_toNat_le.mp hle
  have h9 : '9'.toNat = 57 := rfl
  have hf : 'f'.toNat = 102 := rfl
  have hF : 'F'.toNat = 70 := rfl
  unfold digitValue? at h
  split at h
  case isTrue hdigit =>
    have := hbelow hdigit.2
    omega
  case isFalse =>
    split at h
    case isTrue hdigit =>
      have := hbelow hdigit.2
      omega
    case isFalse =>
      split at h
      case isTrue hdigit =>
        have := hbelow hdigit.2
        omega
      case isFalse => cases h

/-- A digit is that of its value, but for its case. -/
theorem digit_of_digitValue? (h : digitValue? c = some n) : n < 16 ∧ digit n = c.toLower :=
  Text.forall_of_lt (P := fun c => ∀ v ∈ digitValue? c, v < 16 ∧ digit v = c.toLower) (by decide)
    (toNat_lt_of_digitValue? h) n h

/-- Digits **spell** bytes if they are the digits of these bytes in some case. -/
def Spells (digits : List Char) (bytes : Bytes) : Prop :=
  digits.map Char.toLower = encode bytes

instance (digits : List Char) (bytes : Bytes) : Decidable (Spells digits bytes) :=
  inferInstanceAs (Decidable (digits.map Char.toLower = encode bytes))

theorem Spells.decode? (h : Spells digits bytes) : decode? digits = some bytes := by
  rw [← decode?_map_toLower, h, decode?_encode]

/-- What can be read is spelled. -/
theorem spells_of_decode? (h : Hex.decode? digits = some bytes) : Spells digits bytes := by
  fun_induction Hex.decode? digits generalizing bytes with
  | case1 =>
      obtain rfl := Option.some.inj h
      rfl
  | case2 => cases h
  | case3 high low rest ih =>
      simp only [bind, Option.bind_eq_some_iff, Option.pure_def, Option.some.injEq] at h
      obtain ⟨m, hhigh, n, hlow, others, hothers, rfl⟩ := h
      obtain ⟨hm, hhigh⟩ := digit_of_digitValue? hhigh
      obtain ⟨hn, hlow⟩ := digit_of_digitValue? hlow
      have hbyte : (UInt8.ofNat (16 * m + n)).toNat = 16 * m + n :=
        Nat.mod_eq_of_lt (by omega)
      have hdiv : (16 * m + n) / 16 = m := by omega
      have hmod : (16 * m + n) % 16 = n := by omega
      rw [Spells, List.map_cons, List.map_cons, encode, hbyte, hdiv, hmod, hhigh, hlow, ih hothers]

/-- What can be read has nothing but digits in it. -/
theorem isDigit_of_decode? (h : Hex.decode? digits = some bytes) :
    ∀ c ∈ digits, isDigit c = true := by
  fun_induction Hex.decode? digits generalizing bytes with
  | case1 => simp
  | case2 => cases h
  | case3 high low rest ih =>
      simp only [bind, Option.bind_eq_some_iff] at h
      obtain ⟨_, hhigh, _, hlow, others, hothers, -⟩ := h
      rw [List.forall_mem_cons, List.forall_mem_cons]
      exact ⟨Option.isSome_of_mem hhigh, Option.isSome_of_mem hlow, ih hothers⟩

/-- Two digits are read for every byte. -/
theorem length_of_decode? (h : Hex.decode? digits = some bytes) :
    digits.length = 2 * bytes.length := by
  have hlength := congrArg List.length (spells_of_decode? h)
  rwa [List.length_map, length_encode] at hlength

end Hex

end NodeGateway
