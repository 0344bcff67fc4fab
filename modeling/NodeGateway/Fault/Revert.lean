import NodeGateway.Text.Search
import NodeGateway.Text.Utf8

/-!
# Revert Messages

Some nodes give the reason of a revert as hexadecimal text behind the words `Reverted 0x`.
`Revert.normalize` turns such a message into plain words. Only the first occurrence of the mark
counts; a message without the mark, without digits behind it or with an odd number of them is
left as it is.
-/

namespace NodeGateway.Revert

/-- The mark in front of an encoded reason. -/
def mark : List Char := "Reverted 0x".toList

/-- What a decoded reason is introduced with. -/
def introduction : List Char := "reverted: ".toList

/-- The reason that a message encodes, if it encodes one. -/
def encodedReason? (message : List Char) : Option (List Char) := do
  let rest ← Text.after? mark message
  let digits := rest.takeWhile Hex.isDigit
  guard (!digits.isEmpty)
  let bytes ← Hex.decode? digits
  return Utf8.decode bytes

/-- A revert message in plain words, on lists of characters. -/
def normalizeChars (message : List Char) : List Char :=
  match encodedReason? message with
  | some reason => introduction ++ reason
  | none => message

/-- A revert message in **plain words**. -/
def normalize (message : String) : String := String.ofList (normalizeChars message.toList)

end NodeGateway.Revert
