import NodeGateway.Text.Quoted
import NodeGateway.Text.Utf8

/-!
# Text That Is No Byte String

Why a text does not spell a byte string of a given length. The number of digits is looked at before
the digits themselves, and of a text that has the right length only the first character that is no
digit is shown.
-/

namespace NodeGateway

/-- Why a text is **no byte string** of a given length. -/
inductive HexError where
  | oddLength
  | wrongLength
  | foreign (c : Char) (index : Nat)
  deriving DecidableEq, Repr

namespace HexError

/-- The wording of why a text is no byte string. -/
def message : HexError → String
  | oddLength => "odd number of digits"
  | wrongLength => "invalid string length"
  | foreign c index =>
    "invalid character " ++ Text.quoteChar c ++ " at position " ++ toString index

/-- The one character that is shown stands between quotes. -/
theorem message_foreign (c : Char) (index : Nat) :
    (foreign c index).message =
      "invalid character " ++ Text.quoteChar c ++ " at position " ++ toString index := rfl

/-- What is wrong with a text that is no byte string of `size` bytes. A foreign character is shown
by the first byte of its encoding. -/
def ofText (size : Nat) (s : String) : HexError :=
  let digits := Hex.withoutMark s.toList
  if s.utf8ByteSize % 2 = 1 then .oddLength
  else if (Utf8.encode digits).length != 2 * size then .wrongLength
  else match digits.zipIdx.find? (!Hex.isDigit ·.1) with
    | some (c, index) =>
      .foreign (((Utf8.encodeChar c).head?.map fun byte => Char.ofNat byte.toNat).getD c) index
    | none => .wrongLength

end HexError

end NodeGateway
