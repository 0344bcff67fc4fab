import Mathlib.Data.List.Basic
import NodeGateway.Url.Percent

/-!
# What Percent Encoding Leaves Alone

A part of a URL is encoded when the URL is read, and it is encoded again when the written form of
the URL is read. The second time nothing changes: no character is left that would have to be encoded
in this part (`Percent.notMem_encode`), since the sign and the digits of an encoded byte never are,
and a text without such characters is left as it is (`Percent.encode_eq_self`).
-/

namespace NodeGateway.Percent

variable {inSet : Char → Bool} {text : List Char} {c : Char}

/-- The characters that encoded bytes are written with. -/
def marks : List Char := "%0123456789ABCDEF".toList

/-- A digit of an encoded byte is one of the characters for it. -/
theorem toUpper_digit_mem_marks {n : Nat} (h : n < 16) : (Hex.digit n).toUpper ∈ marks := by
  have hall : ∀ n < 16, (Hex.digit n).toUpper ∈ marks := by decide
  exact hall n h

/-- A character is written as these characters. -/
theorem mem_marks_of_mem_encodeChar {d : Char} (h : d ∈ encodeChar c) : d ∈ marks := by
  obtain ⟨byte, -, hd⟩ := List.mem_flatMap.mp h
  have hbyte : byte.toNat < 256 := byte.toNat_lt
  rcases List.mem_cons.mp hd with rfl | hd
  · decide
  · rcases List.mem_cons.mp hd with rfl | hd
    · exact toUpper_digit_mem_marks (by omega)
    · exact List.mem_singleton.mp hd ▸ toUpper_digit_mem_marks (by omega)

/-- A text without characters of the set is left as it is. -/
theorem encode_eq_self (h : ∀ c ∈ text, inSet c = false) : encode inSet text = text := by
  induction text with
  | nil => rfl
  | cons c text ih =>
      rw [List.forall_mem_cons] at h
      rw [encode, List.flatMap_cons, h.1]
      exact congrArg (c :: ·) (ih h.2)

/-- An encoded text consists of characters that were left alone and of those for encoded bytes. -/
theorem mem_or_mem_marks_of_mem_encode (h : c ∈ encode inSet text) :
    c ∈ text ∧ inSet c = false ∨ c ∈ marks := by
  obtain ⟨d, hd, hc⟩ := List.mem_flatMap.mp h
  split at hc
  case isTrue => exact .inr (mem_marks_of_mem_encodeChar hc)
  case isFalse hset =>
    obtain rfl := List.mem_singleton.mp hc
    exact .inl ⟨hd, Bool.eq_false_iff.mpr hset⟩

/-- **No character of the set is left** in an encoded text. -/
theorem notMem_encode (hset : ∀ d ∈ marks, inSet d = false) (h : c ∈ encode inSet text) :
    inSet c = false := by
  rcases mem_or_mem_marks_of_mem_encode h with ⟨-, hc⟩ | hc
  · exact hc
  · exact hset c hc

/-- What has been encoded is left as it is. -/
theorem encode_encode (hset : ∀ d ∈ marks, inSet d = false) (text : List Char) :
    encode inSet (encode inSet text) = encode inSet text :=
  encode_eq_self fun _ hc => notMem_encode hset hc

/-- The parts of a text are encoded by themselves. -/
theorem encode_append (text more : List Char) :
    encode inSet (text ++ more) = encode inSet text ++ encode inSet more :=
  List.flatMap_append

/-- What is encoded in no part and is no space is no blank. -/
theorem lt_toNat (hevery : inEvery c = false) (hspace : c ≠ ' ') : 0x20 < c.toNat := by
  have hne : c.toNat ≠ 0x20 := fun heq => hspace (Char.toNat_inj.mp heq)
  simp [inEvery] at hevery
  omega

end NodeGateway.Percent
