import NodeGateway.Json.Shape
import NodeGateway.Text.HexError

/-!
# What a Reader Complains About

A reader of records that meets a text where it cannot take one **quotes that text** in its
complaint: in the place of a record, a list or a flag, in the place of one byte of a byte string
that is written as an array, and in the place of a byte string that the text does not spell. Where a
byte string of known length is not spelled, the complaint says what is wrong and shows at most one
character. Other complaints quote nothing of the document. This module finds the first thing that a
reader stumbles over, in the order of the document.

The complaint is not part of any answer, but it is looked through for signs of a lost connection
like every other cause of a failure.
-/

namespace NodeGateway

/-- What a reader **stumbles over**. -/
inductive Complaint where
  /-- A text that stands where a record, a list or a flag should. -/
  | misplacedText (text : String)
  /-- A text that stands where a byte should. -/
  | noByte (text : String)
  /-- A text that spells no byte string. -/
  | noBytes (text : String)
  /-- A text that spells no byte string of a known length. -/
  | misspelled (reason : HexError)
  /-- Anything else. -/
  | unquoted
  deriving DecidableEq, Repr

namespace Complaint

/-- The wording of a complaint. -/
def message : Complaint → String
  | misplacedText text => "invalid type: string " ++ Text.quote text ++ ", expected another value"
  | noByte text => "invalid type: string " ++ Text.quote text ++ ", expected u8"
  | noBytes text => "invalid value: string " ++ Text.quote text ++ ", expected a valid hex string"
  | misspelled reason => reason.message
  | unquoted => "the document does not have the expected form"

/-- The text that a complaint quotes as a whole, if it quotes one. -/
def quoted? : Complaint → Option String
  | misplacedText text | noByte text | noBytes text => some text
  | misspelled _ | unquoted => none

/-- The complaint about a value of the wrong kind. -/
def ofValue : Json → Complaint
  | .string (some text) => misplacedText text
  | _ => unquoted

/-- The complaint about a value that a reader does not take. -/
def unlessRead (read : Option α) : Option Complaint :=
  if read.isSome then none else some unquoted

/-- The complaint about an item of an array of byte values, if there is one. -/
def inByte? : Json → Option Complaint
  | .string (some text) => some (noByte text)
  | item => unlessRead (Json.readByte? item)

/-- The complaint about a value that should be a byte string, if there is one. -/
def inBytes? : Json → Option Complaint
  | .string (some text) => if (Hex.read? text).isSome then none else some (noBytes text)
  | .array items => items.findSome? inByte?
  | _ => some unquoted

/-- The complaint about a value that should be a byte string of `size` bytes, if there is one. Of an
array only so many items are looked at in turn; what stands behind them is not quoted. -/
def inSized? (size : Nat) : Json → Option Complaint
  | .string (some text) =>
    if (FixedBytes.read? size text).isSome then none else some (misspelled (.ofText size text))
  | .array items =>
    ((items.take size).findSome? inByte?).or (unlessRead ((Json.array items).readSized? size))
  | _ => some unquoted

/-- What a reader stumbles over in the members of a record, behind those named `seen`. It is told
what it stumbles over in a member, if the record has that one, and which names are enough. A member
that the record does not have is passed over if it is whole. -/
def inMembers (inMember : String → Json → Option (Option Complaint))
    (isComplete : List String → Bool) (seen : List String) :
    List (Option String × Json) → Option Complaint
  | [] => if isComplete seen then none else some unquoted
  | (none, _) :: _ => some unquoted
  | (some name, value) :: rest =>
    if seen.contains name then some unquoted
    else match inMember name value with
      | some none => inMembers inMember isComplete (name :: seen) rest
      | some (some complaint) => some complaint
      | none => if value.isWhole then inMembers inMember isComplete seen rest else some unquoted

end Complaint

/-- Whether every field that a record needs is among the given names. -/
def Fields.presentIn : Fields → List String → Bool
  | .nil, _ => true
  | .field name needed _ rest, seen => (!needed || seen.contains name) && rest.presentIn seen

mutual

/-- What a reader stumbles over **first** when it reads a value of a shape, if anything. -/
def Shape.complaint? : Shape → Json → Option Complaint
  | .nothing, value => if value matches .null then none else some (Complaint.ofValue value)
  | .flag, value => if value matches .bool _ then none else some (Complaint.ofValue value)
  | .text, value => Complaint.unlessRead value.text?
  | .count, value => Complaint.unlessRead value.readCount?
  | .bytes, value => Complaint.inBytes? value
  | .sized size, value => Complaint.inSized? size value
  | .list item, .array items => items.findSome? item.complaint?
  | .list _, value => some (Complaint.ofValue value)
  | .optional _, .null => none
  | .optional item, value => item.complaint? value
  | .record fields, .object members =>
    Complaint.inMembers fields.complaintAt? fields.presentIn [] members
  | .record fields, .array items => fields.complaintInItems? items
  | .record _, value => some (Complaint.ofValue value)

/-- What a reader stumbles over in the member with the given name, if the record has one. -/
def Fields.complaintAt? : Fields → String → Json → Option (Option Complaint)
  | .nil, _, _ => none
  | .field name _ shape rest, wanted, value =>
    if name = wanted then some (shape.complaint? value) else rest.complaintAt? wanted value

/-- What a reader stumbles over in the items of a record that is written as an array. -/
def Fields.complaintInItems? : Fields → List Json → Option Complaint
  | .nil, [] => none
  | .nil, _ :: _ => some .unquoted
  | .field _ needed _ rest, [] => if needed then some .unquoted else rest.complaintInItems? []
  | .field _ _ shape rest, item :: items =>
    (shape.complaint? item).or (rest.complaintInItems? items)

end

/-- The wording of what a reader stumbles over when it reads a document. -/
def Shape.complaint (shape : Shape) (document : Option Json) : String :=
  ((document.bind shape.complaint?).getD .unquoted).message

end NodeGateway
