import NodeGateway.Json.Value
import NodeGateway.Bytes

/-!
# Shapes of Records

A **shape** describes the JSON form of a kind of data: its members, their order and what each of
them holds. It gives a type of values (`Shape.Value`), a reader (`Shape.read?`) and a writer
(`Shape.write`), so a format is described once and its reader and writer cannot disagree.

The reader's rules for a record:

* members may come in any order, and members with other names are passed over if they are whole;
* a member that comes twice is refused, and so is a record with an unreadable member name;
* a missing member is refused, unless the shape lets it be absent;
* an array of the members' values in the order of the shape is accepted too; only members that
  may be absent can be missing at its end.

Numbers are written as decimal strings. On reading, a plain JSON integer is accepted as well.
Byte strings are written as hexadecimal text; an array of byte values is accepted too. Where the
number of bytes is known, one thing may stand behind the last of them that is no byte.
-/

namespace NodeGateway

mutual

/-- A **shape** of JSON data. `nothing` is written `null`, `count` is a number below `2 ^ 64`, and
`sized n` is a byte string of exactly `n` bytes. -/
inductive Shape where
  | nothing
  | flag
  | text
  | count
  | bytes
  | sized (size : Nat)
  | list (item : Shape)
  | optional (item : Shape)
  | record (fields : Fields)

/-- The **fields** of a record in their order. A field that is not `needed` may be absent. -/
inductive Fields where
  | nil
  | field (name : String) (needed : Bool) (shape : Shape) (rest : Fields)

end

mutual

/-- The values of a shape. -/
def Shape.Value : Shape → Type
  | .nothing => Unit
  | .flag => Bool
  | .text => String
  | .count => UInt64
  | .bytes => Bytes
  | .sized size => FixedBytes size
  | .list item => List item.Value
  | .optional item => Option item.Value
  | .record fields => fields.Values

/-- The values of a record's fields, one after another. -/
def Fields.Values : Fields → Type
  | .nil => Unit
  | .field _ _ shape rest => shape.Value × rest.Values

end

namespace Json

/-- Reads a quoted number: decimal digits in a string, with an optional plus sign, or a plain
JSON integer. Anything that is not a whole number below `2 ^ 64` is refused. -/
def readCount? : Json → Option UInt64
  | .string text => do
    let n ← Numeral.unsigned? Numeral.bound64 (← text).toList
    return UInt64.ofNat n
  | .number token => do
    let n ← (Numeral.natural? token.toList).filter (· < Numeral.bound64)
    return UInt64.ofNat n
  | _ => none

/-- Reads one byte of a byte string that is written as an array. -/
def readByte? (item : Json) : Option UInt8 :=
  (item.natural?.filter (· < 256)).map UInt8.ofNat

/-- Reads a byte string from hexadecimal text or from an array of byte values. -/
def readBytes? : Json → Option Bytes
  | .string text => text.bind Hex.read?
  | .array items => items.mapM readByte?
  | _ => none

/-- Whether a value at the end of an array is passed over by a reader of bytes. -/
def isPassedOver : Json → Bool
  | .number token => (readByte? (.number token)).isNone
  | .string text => text.isSome
  | .array _ | .object _ => false
  | .null | .bool _ | .scrap _ => true

/-- Reads a byte string of exactly `size` bytes. -/
def readSized? (size : Nat) : Json → Option (FixedBytes size)
  | .array items => do
    let bytes ← (items.take size).mapM readByte?
    guard ((items.drop size).length ≤ 1 && (items.drop size).all isPassedOver)
    FixedBytes.ofBytes? size bytes
  | value => (readBytes? value).bind (FixedBytes.ofBytes? size)

/-- The values of the members with the given name, in their order. -/
def valuesOf (name : String) (members : List (Option String × Json)) : List Json :=
  (members.filter (·.1 = some name)).map (·.2)

/-- Whether every member has a readable name, and is whole unless it has one of the given names. -/
def membersReadable (names : List String) (members : List (Option String × Json)) : Bool :=
  members.all fun (name, value) => name.any fun name => names.contains name || value.isWhole

end Json

/-- The names of a record's fields. -/
def Fields.names : Fields → List String
  | .nil => []
  | .field name _ _ rest => name :: rest.names

/-- The value of an absent member: `false` for a flag, none for an optional value. -/
def Shape.absent? : (shape : Shape) → Option shape.Value
  | .flag => some false
  | .optional _ => some none
  | .nothing | .text | .count | .bytes | .sized _ | .list _ | .record _ => none

/-- The value of an absent field, if the field may be absent. -/
def Shape.absentUnless (needed : Bool) (shape : Shape) : Option shape.Value :=
  if needed then none else shape.absent?

mutual

/-- Reads a value of a shape. -/
def Shape.read? : (shape : Shape) → Json → Option shape.Value
  | .nothing, .null => some ()
  | .nothing, _ => none
  | .flag, .bool b => some b
  | .flag, _ => none
  | .text, value => value.text?
  | .count, value => value.readCount?
  | .bytes, value => value.readBytes?
  | .sized size, value => value.readSized? size
  | .list item, .array items => items.mapM item.read?
  | .list _, _ => none
  | .optional _, .null => some none
  | .optional item, value => (item.read? value).map some
  | .record fields, .object members =>
    if Json.membersReadable fields.names members then fields.readMembers? members else none
  | .record fields, .array items => fields.readItems? items
  | .record _, _ => none

/-- Reads the fields of a record from an object's members. -/
def Fields.readMembers? : (fields : Fields) → List (Option String × Json) → Option fields.Values
  | .nil, _ => some ()
  | .field name needed shape rest, members => do
    let value ← match Json.valuesOf name members with
      | [] => shape.absentUnless needed
      | [value] => shape.read? value
      | _ => none
    let values ← rest.readMembers? members
    return (value, values)

/-- Reads the fields of a record from an array's items. -/
def Fields.readItems? : (fields : Fields) → List Json → Option fields.Values
  | .nil, [] => some ()
  | .nil, _ :: _ => none
  | .field _ needed shape rest, [] => do
    let value ← shape.absentUnless needed
    let values ← rest.readItems? []
    return (value, values)
  | .field _ _ shape rest, item :: items => do
    let value ← shape.read? item
    let values ← rest.readItems? items
    return (value, values)

end

mutual

/-- Writes a value of a shape. -/
def Shape.write : (shape : Shape) → shape.Value → Json
  | .nothing, _ => .null
  | .flag, b => .bool b
  | .text, s => .str s
  | .count, n => .quotedNat (UInt64.toNat n)
  | .bytes, bytes => .str (Hex.text bytes)
  | .sized _, bytes => .str (Hex.text bytes.val)
  | .list item, items => .array (List.map item.write items)
  | .optional _, none => .null
  | .optional item, some value => item.write value
  | .record fields, values => .object (fields.write values)

/-- Writes the fields of a record as members. -/
def Fields.write : (fields : Fields) → fields.Values → List (Option String × Json)
  | .nil, _ => []
  | .field name _ shape rest, (value, values) =>
    (some name, shape.write value) :: rest.write values

end

end NodeGateway
