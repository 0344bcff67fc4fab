import NodeGateway.Url.Domain.Direction
import NodeGateway.Url.Domain.Folding
import NodeGateway.Url.Domain.Joining
import NodeGateway.Url.Punycode

/-!
# Domain Names

Names of hosts in any script, and their form in ASCII. A name is folded and divided into **labels**
at its points. A label that has characters outside ASCII is written in Punycode behind `xn--`. A
label that is written so already has to be the form of a folded label.

No label begins with a mark, joiners stand only where they make a difference, and a name that is
written from right to left is orderly.

## Main definitions

* `Domain.label?`, a label without Punycode;
* `Domain.toAscii?`.
-/

namespace NodeGateway.Domain

/-- What a label in Punycode begins with. -/
def encodedMark : List Char := ['x', 'n', '-', '-']

/-- The code points of a text. -/
def codes (text : List Char) : List Nat := text.map Char.toNat

/-- How long a label outside ASCII may be, in code points. -/
def maxLabel : Nat := 1000

/-- How long the Punycode of a label may be. -/
def maxEncoded : Nat := 2000

/-- Whether a label is one of ASCII characters. -/
def isAscii (label : List Nat) : Bool := label.all (· < Punycode.firstEncoded)

/-- Whether a label outside ASCII may be used. -/
def isUsable (label : List Nat) : Bool :=
  !label.head?.any Text.isMark && Joining.placesAreRight label && label.length ≤ maxLabel

/-- The label that Punycode stands for, if it is the form of a folded label outside ASCII. -/
def decode? (text : List Nat) : Option (List Nat) := do
  guard (isAscii text && text.length ≤ maxEncoded)
  let written := text.map Char.ofNat
  let label ← Punycode.decode? written
  guard (!isAscii label && isFolded label && Punycode.encode label = written)
  return label

/-- The **label** that a part of a folded name stands for. -/
def label? (part : List Nat) : Option (List Nat) := do
  let isEncoded := (codes encodedMark).isPrefixOf part
  let label ← if isEncoded then decode? (part.drop encodedMark.length) else some part
  guard (isAscii label || isUsable label)
  return label

/-- The form of a label in ASCII. -/
def encodeLabel (label : List Nat) : List Char :=
  if isAscii label then label.map Char.ofNat else encodedMark ++ Punycode.encode label

/-- The parts of a name between its points. -/
def parts : List Nat → List (List Nat)
  | [] => [[]]
  | n :: rest =>
    if n = '.'.toNat then [] :: parts rest
    else match parts rest with
      | [] => [[n]]
      | part :: more => (n :: part) :: more

/-- The form of a **name** in ASCII, if it has one. -/
def toAscii? (name : List Char) : Option (List Char) := do
  let labels ← (parts (← fold? (codes name))).mapM label?
  guard (!labels.any (·.any Direction.demandsOrder) || labels.all Direction.isOrderly)
  return List.intercalate ['.'] (labels.map encodeLabel)

end NodeGateway.Domain
