import NodeGateway.Text.Hex

/-!
# UTF-8

Text as bytes and bytes as text. Decoding never fails: each maximal ill-formed piece of the
input is read as one replacement character U+FFFD, so a damaged message can still be shown.

The decoder takes one byte at a time and carries the character it is in the middle of
(`Partial`). A byte that cannot continue that character ends it as ill-formed and is looked at
again as a first byte, which is exactly the rule of one replacement per maximal subpart.
-/

namespace NodeGateway.Utf8

/-- The bytes of one character. -/
def encodeChar (c : Char) : Bytes :=
  let n := c.toNat
  if n < 0x80 then [UInt8.ofNat n]
  else if n < 0x800 then [UInt8.ofNat (0xC0 + n / 64), UInt8.ofNat (0x80 + n % 64)]
  else if n < 0x10000 then
    [UInt8.ofNat (0xE0 + n / 4096), UInt8.ofNat (0x80 + n / 64 % 64), UInt8.ofNat (0x80 + n % 64)]
  else
    [UInt8.ofNat (0xF0 + n / 262144), UInt8.ofNat (0x80 + n / 4096 % 64),
      UInt8.ofNat (0x80 + n / 64 % 64), UInt8.ofNat (0x80 + n % 64)]

/-- The bytes of a text. -/
def encode (text : List Char) : Bytes := text.flatMap encodeChar

/-- A **character in progress**: the bits read so far, the range that its next byte has to lie
in, and how many bytes it still lacks. -/
structure Partial where
  value : Nat
  low : Nat
  high : Nat
  missing : Nat

/-- What a first byte announces: a whole character, the start of a longer one, or neither. -/
inductive Lead where
  | whole (c : Char)
  | start (p : Partial)
  | stray

/-- Reads a first byte. The narrowed ranges of the second byte exclude overlong forms,
surrogates and values above U+10FFFF. -/
def lead (byte : Nat) : Lead :=
  if byte < 0x80 then .whole (Char.ofNat byte)
  else if byte < 0xC2 then .stray
  else if byte < 0xE0 then .start ⟨byte - 0xC0, 0x80, 0xBF, 1⟩
  else if byte = 0xE0 then .start ⟨0, 0xA0, 0xBF, 2⟩
  else if byte = 0xED then .start ⟨13, 0x80, 0x9F, 2⟩
  else if byte < 0xF0 then .start ⟨byte - 0xE0, 0x80, 0xBF, 2⟩
  else if byte = 0xF0 then .start ⟨0, 0x90, 0xBF, 3⟩
  else if byte < 0xF4 then .start ⟨byte - 0xF0, 0x80, 0xBF, 3⟩
  else if byte = 0xF4 then .start ⟨4, 0x80, 0x8F, 3⟩
  else .stray

/-- The character that stands for an ill-formed piece. -/
def replacement : Char := '\uFFFD'

/-- Decodes the rest of a text, in the middle of the character `p` if there is one, with `mark` for
each maximal ill-formed piece. -/
def decodeFrom (mark : Char) : Option Partial → Bytes → List Char
  | none, [] => []
  | some _, [] => [mark]
  | none, byte :: rest =>
    match lead byte.toNat with
    | .whole c => c :: decodeFrom mark none rest
    | .start q => decodeFrom mark (some q) rest
    | .stray => mark :: decodeFrom mark none rest
  | some p, byte :: rest =>
    if p.low ≤ byte.toNat ∧ byte.toNat ≤ p.high then
      let value := 64 * p.value + byte.toNat % 64
      if p.missing ≤ 1 then Char.ofNat value :: decodeFrom mark none rest
      else decodeFrom mark (some ⟨value, 0x80, 0xBF, p.missing - 1⟩) rest
    else
      mark ::
        match lead byte.toNat with
        | .whole c => c :: decodeFrom mark none rest
        | .start q => decodeFrom mark (some q) rest
        | .stray => mark :: decodeFrom mark none rest

/-- Decodes a byte string, with one replacement character per maximal ill-formed piece. -/
def decode (bytes : Bytes) : List Char := decodeFrom replacement none bytes

end NodeGateway.Utf8
