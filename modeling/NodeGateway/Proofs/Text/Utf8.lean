import NodeGateway.Text.Utf8

/-!
# Text Survives Its Encoding

The bytes of a text decode to that text (`Utf8.decode_encode`). The decoder takes one byte at a
time, so the argument follows it through the bytes of one character: the first byte announces how
many are to come and what range the next one has to lie in, and each byte behind it lies in the
range that it has to and adds six bits.

The bytes themselves are the ones that a `String` of Lean is made of (`Utf8.encode_toList`).
-/

namespace NodeGateway.Utf8

variable {mark : Char} {rest : Bytes}

/-- A byte below its bound is its value. -/
theorem toNat_ofNat {n : Nat} (h : n < 256) : (UInt8.ofNat n).toNat = n := by
  rw [UInt8.toNat_ofNat']
  exact Nat.mod_eq_of_lt h

/-! ### Bytes behind the first -/

/-- A byte in range brings the character in progress further. -/
theorem decodeFrom_more {value low high missing byte : Nat} (hbyte : byte < 256)
    (hlow : low ≤ byte) (hhigh : byte ≤ high) :
    decodeFrom mark (some ⟨value, low, high, missing + 2⟩) (UInt8.ofNat byte :: rest) =
      decodeFrom mark (some ⟨64 * value + byte % 64, 0x80, 0xBF, missing + 1⟩) rest := by
  rw [decodeFrom, toNat_ofNat hbyte, if_pos ⟨hlow, hhigh⟩]
  exact if_neg (by simp)

/-- The last byte completes the character. -/
theorem decodeFrom_last {value low high byte : Nat} (hbyte : byte < 256) (hlow : low ≤ byte)
    (hhigh : byte ≤ high) :
    decodeFrom mark (some ⟨value, low, high, 1⟩) (UInt8.ofNat byte :: rest) =
      Char.ofNat (64 * value + byte % 64) :: decodeFrom mark none rest := by
  rw [decodeFrom, toNat_ofNat hbyte, if_pos ⟨hlow, hhigh⟩]
  exact if_pos (Nat.le_refl 1)

/-- A first byte that announces more bytes starts a character. -/
theorem decodeFrom_start {byte : Nat} {p : Partial} (hbyte : byte < 256)
    (hlead : lead byte = .start p) :
    decodeFrom mark none (UInt8.ofNat byte :: rest) = decodeFrom mark (some p) rest := by
  rw [decodeFrom, toNat_ofNat hbyte, hlead]

/-! ### First bytes -/

/-- The first of two bytes. -/
theorem lead_two {n : Nat} (hlow : 0x80 ≤ n) (hhigh : n < 0x800) :
    lead (0xC0 + n / 64) = .start ⟨n / 64, 0x80, 0xBF, 1⟩ := by
  rw [lead, if_neg (by omega), if_neg (by omega), if_pos (by omega), Nat.add_sub_cancel_left]

/-- The first of three bytes. The range of the second one holds the second six bits of every
character but surrogates. -/
theorem lead_three {n : Nat} (hlow : 0x800 ≤ n) (hhigh : n < 0x10000)
    (hvalid : n < 0xD800 ∨ 0xDFFF < n) :
    ∃ low high, lead (0xE0 + n / 4096) = .start ⟨n / 4096, low, high, 2⟩ ∧
      low ≤ 0x80 + n / 64 % 64 ∧ 0x80 + n / 64 % 64 ≤ high := by
  rw [lead, if_neg (by omega), if_neg (by omega), if_neg (by omega)]
  split
  case isTrue h => exact ⟨0xA0, 0xBF, by rw [show n / 4096 = 0 by omega], by omega, by omega⟩
  case isFalse =>
    split
    case isTrue h => exact ⟨0x80, 0x9F, by rw [show n / 4096 = 13 by omega], by omega, by omega⟩
    case isFalse =>
      rw [if_pos (by omega), Nat.add_sub_cancel_left]
      exact ⟨0x80, 0xBF, rfl, by omega, by omega⟩

/-- The first of four bytes. The range of the second one holds the second six bits of every
character. -/
theorem lead_four {n : Nat} (hlow : 0x10000 ≤ n) (hhigh : n < 0x110000) :
    ∃ low high, lead (0xF0 + n / 262144) = .start ⟨n / 262144, low, high, 3⟩ ∧
      low ≤ 0x80 + n / 4096 % 64 ∧ 0x80 + n / 4096 % 64 ≤ high := by
  rw [lead, if_neg (by omega), if_neg (by omega), if_neg (by omega), if_neg (by omega),
    if_neg (by omega), if_neg (by omega)]
  split
  case isTrue h => exact ⟨0x90, 0xBF, by rw [show n / 262144 = 0 by omega], by omega, by omega⟩
  case isFalse =>
    split
    case isTrue h =>
      rw [Nat.add_sub_cancel_left]
      exact ⟨0x80, 0xBF, rfl, by omega, by omega⟩
    case isFalse =>
      rw [if_pos (by omega)]
      exact ⟨0x80, 0x8F, by rw [show n / 262144 = 4 by omega], by omega, by omega⟩

/-! ### Characters and texts -/

/-- The bytes of a character decode to it, whatever follows. -/
theorem decodeFrom_encodeChar (mark c : Char) (rest : Bytes) :
    decodeFrom mark none (encodeChar c ++ rest) = c :: decodeFrom mark none rest := by
  have hc : Char.ofNat c.toNat = c := Char.ofNat_toNat c
  have hvalid : c.toNat < 0xD800 ∨ 0xDFFF < c.toNat ∧ c.toNat < 0x110000 := c.valid
  simp only [encodeChar]
  generalize c.toNat = n at hc hvalid ⊢
  subst hc
  by_cases hone : n < 0x80
  · rw [if_pos hone, List.cons_append, List.nil_append, decodeFrom, toNat_ofNat (by omega), lead,
      if_pos hone]
  rw [if_neg hone]
  by_cases htwo : n < 0x800
  · rw [if_pos htwo]
    simp only [List.cons_append, List.nil_append]
    rw [decodeFrom_start (by omega) (lead_two (Nat.not_lt.mp hone) htwo),
      decodeFrom_last (by omega) (Nat.le_add_right _ _) (by omega)]
    congr 2
    omega
  rw [if_neg htwo]
  by_cases hthree : n < 0x10000
  · obtain ⟨low, high, hlead, hlow, hhigh⟩ :=
      lead_three (Nat.not_lt.mp htwo) hthree (hvalid.imp_right And.left)
    rw [if_pos hthree]
    simp only [List.cons_append, List.nil_append]
    rw [decodeFrom_start (by omega) hlead,
      decodeFrom_more (by omega) hlow hhigh,
      decodeFrom_last (by omega) (Nat.le_add_right _ _) (by omega)]
    congr 2
    omega
  · obtain ⟨low, high, hlead, hlow, hhigh⟩ := lead_four (n := n) (by omega) (by omega)
    rw [if_neg hthree]
    simp only [List.cons_append, List.nil_append]
    rw [decodeFrom_start (by omega) hlead, decodeFrom_more (by omega) hlow hhigh,
      decodeFrom_more (by omega) (Nat.le_add_right _ _) (by omega),
      decodeFrom_last (by omega) (Nat.le_add_right _ _) (by omega)]
    congr 2
    omega

/-- The bytes of a text are well formed, so it does not matter which mark stands for those that are
not. -/
theorem decodeFrom_encode (mark : Char) (text : List Char) :
    decodeFrom mark none (encode text) = text := by
  induction text with
  | nil => rfl
  | cons c text ih => rw [encode, List.flatMap_cons, decodeFrom_encodeChar, ← encode, ih]

/-- **The bytes of a text decode to the text.** -/
theorem decode_encode (text : List Char) : decode (encode text) = text :=
  decodeFrom_encode replacement text

/-- The bytes of a character are those that a `String` has for it. -/
theorem encodeChar_eq (c : Char) : encodeChar c = String.utf8EncodeChar c := by
  have hvalid : c.toNat < 0xD800 ∨ 0xDFFF < c.toNat ∧ c.toNat < 0x110000 := c.valid
  simp only [encodeChar, String.utf8EncodeChar, Char.toNat_val]
  generalize c.toNat = n at hvalid
  by_cases hone : n < 0x80
  · rw [if_pos hone, if_pos (show n ≤ 127 by omega)]
  rw [if_neg hone, if_neg (show ¬ n ≤ 127 by omega)]
  by_cases htwo : n < 0x800
  · rw [if_pos htwo, if_pos (show n ≤ 2047 by omega), Nat.mod_eq_of_lt (show n / 64 < 32 by omega),
      Nat.add_comm (n / 64), Nat.add_comm (n % 64)]
  rw [if_neg htwo, if_neg (show ¬ n ≤ 2047 by omega)]
  by_cases hthree : n < 0x10000
  · rw [if_pos hthree, if_pos (show n ≤ 65535 by omega),
      Nat.mod_eq_of_lt (show n / 4096 < 16 by omega), Nat.add_comm (n / 4096),
      Nat.add_comm (n / 64 % 64), Nat.add_comm (n % 64)]
  · rw [if_neg hthree, if_neg (show ¬ n ≤ 65535 by omega),
      Nat.mod_eq_of_lt (show n / 262144 < 8 by omega), Nat.add_comm (n / 262144),
      Nat.add_comm (n / 4096 % 64), Nat.add_comm (n / 64 % 64), Nat.add_comm (n % 64)]

/-- The bytes of a text are those that a `String` is made of. -/
theorem encode_toList (text : String) : encode text.toList = text.toUTF8.data.toList := by
  have hchars : encodeChar = String.utf8EncodeChar := funext encodeChar_eq
  rw [String.toUTF8, ← String.utf8Encode_toList, List.utf8Encode, List.data_toByteArray, encode,
    hchars]

/-- At most one character is read for every byte, and one more for a character in progress. -/
theorem length_decodeFrom_le (mark : Char) (p : Option Partial) (bytes : Bytes) :
    (decodeFrom mark p bytes).length ≤ bytes.length + p.isSome.toNat := by
  fun_induction decodeFrom mark p bytes with
  | case1 | case2 => simp
  | case3 byte rest c hlead ih | case4 byte rest q hlead ih | case5 byte rest hlead ih =>
      simp at ih ⊢
      omega
  | case6 p byte rest hrange value hlast ih | case7 p byte rest hrange value hmore ih =>
      simp at ih ⊢
      omega
  | case8 p byte rest hrange hfresh hstarted =>
      -- the byte is looked at again as a first byte, behind the mark for what it has broken off
      simp only [List.length_cons, Option.isSome_none, Option.isSome_some, Bool.toNat_false,
        Bool.toNat_true] at hfresh hstarted ⊢
      split
      case h_1 => rw [List.length_cons]; omega
      case h_2 q _ => have := hstarted q; omega
      case h_3 => rw [List.length_cons]; omega

/-- A text has no more characters than bytes. -/
theorem length_decode_le (bytes : Bytes) : (decode bytes).length ≤ bytes.length :=
  length_decodeFrom_le replacement none bytes

end NodeGateway.Utf8
