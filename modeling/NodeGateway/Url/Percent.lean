import NodeGateway.Text.Hex
import NodeGateway.Text.Utf8

/-!
# Percent Encoding

Characters that may not stand in a part of a URL are written as the bytes of their UTF-8 form, each
byte as `%` and two capital digits. Which ones these are depends on the part. What is already
written with `%` is left alone, so encoding an encoded text changes nothing.

A form encodes more: only letters, digits and four marks stand for themselves, and a space is
written `+`.

## Main definitions

* `Percent.encode`, given the characters of a part that have to be encoded;
* `Percent.inFragment`, `Percent.inPath`, `Percent.inUserinfo`, `Percent.inQuery`: these sets;
* `Percent.decode`, back to bytes;
* `Percent.encodeForm`, for the names and values of a form.
-/

namespace NodeGateway.Percent

/-- A byte as `%` and two capital digits. -/
def encodeByte (b : UInt8) : List Char :=
  ['%', (Hex.digit (b.toNat / 16)).toUpper, (Hex.digit (b.toNat % 16)).toUpper]

/-- A character as its encoded bytes. -/
def encodeChar (c : Char) : List Char := (Utf8.encodeChar c).flatMap encodeByte

/-- Encodes the characters that are in a set and leaves the others. -/
def encode (inSet : Char → Bool) (text : List Char) : List Char :=
  text.flatMap fun c => if inSet c then encodeChar c else [c]

/-- The controls and everything outside ASCII, which is encoded in every part. -/
def inEvery (c : Char) : Bool := c.toNat < 0x20 || 0x7E < c.toNat

/-- What is encoded in a fragment. -/
def inFragment (c : Char) : Bool := inEvery c || [' ', '"', '<', '>', '\x60'].contains c

/-- What is encoded in a path. -/
def inPath (c : Char) : Bool := inFragment c || ['#', '?', '\x7b', '\x7d'].contains c

/-- What is encoded in a name or password. -/
def inUserinfo (c : Char) : Bool :=
  inPath c || ['/', ':', ';', '=', '@', '[', '\\', ']', '^', '|'].contains c

/-- What is encoded in a query; an apostrophe is encoded in the query of a special scheme. -/
def inQuery (special : Bool) (c : Char) : Bool :=
  inEvery c || [' ', '"', '#', '<', '>'].contains c || (special && c = '\'')

/-- The bytes that a text stands for: those of its UTF-8 form, each encoded byte being one. -/
def decode : List Char → Bytes
  | [] => []
  | '%' :: high :: low :: rest =>
    match Hex.decode? [high, low] with
    | some bytes => bytes ++ decode rest
    | none => Utf8.encodeChar '%' ++ decode (high :: low :: rest)
  | c :: rest => Utf8.encodeChar c ++ decode rest

/-- Whether a character stands for itself in a form. -/
def plainInForm (c : Char) : Bool :=
  (c.isAlphanum) || ['*', '-', '.', '_'].contains c

/-- Encodes a name or value of a form. -/
def encodeForm (text : List Char) : List Char :=
  text.flatMap fun c => if c = ' ' then ['+'] else if plainInForm c then [c] else encodeChar c

end NodeGateway.Percent
