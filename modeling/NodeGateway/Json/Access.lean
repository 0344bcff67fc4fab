import NodeGateway.Bytes
import NodeGateway.Json.Number
import NodeGateway.Number.Decimal

/-!
# Taking JSON Values Apart

Readers for the parts of a JSON document: texts, flags, numbers, byte strings, lists and the
members of objects. A reader that fails says what it expected.

Numbers are read from JSON numbers and from texts alike, since a number of more than 53 bits is
written as a text. A member that is `null` counts as absent wherever it may be absent.
-/

namespace NodeGateway.Json

/-- What **reading** a JSON value gives: the data, or what was expected in its place. -/
abbrev Reading (α : Type) := Except String α

/-- A value that has to be there. -/
def expect (what : String) : Option α → Reading α
  | some a => .ok a
  | none => .error (what ++ " expected")

/-- Whether a value is `null`. -/
def isNull : Json → Bool
  | .null => true
  | _ => false

/-- Reads a text. -/
def toText (value : Json) : Reading String := expect "text" value.text?

/-- Reads a flag. -/
def toFlag : Json → Reading Bool
  | .bool b => .ok b
  | _ => .error "flag expected"

/-- Reads a list, item by item. -/
def toList (read : Json → Reading α) : Json → Reading (List α)
  | .array items => items.mapM read
  | _ => .error "list expected"

/-- Reads the members of an object, all of which need readable names. -/
def toMembers : Json → Reading (List (String × Json))
  | .object members => members.mapM fun (name, value) =>
    (expect "member name" name).map fun name => (name, value)
  | _ => .error "object expected"

/-- The characters that a number is written with. -/
def numeral : Json → Reading (List Char)
  | .number token => .ok token.toList
  | .string (some text) => .ok text.toList
  | _ => .error "number expected"

/-- The first magnitude that `toInt` refuses. -/
def intBound : Nat := Nat.pow 2 300

/-- Reads an integer. -/
def toInt (value : Json) : Reading Int := do
  expect "integer" (Numeral.signed? intBound (← value.numeral))

/-- Reads a natural number. -/
def toNat (value : Json) : Reading Nat := value.toInt.map Int.toNat

/-- Reads a binary64 number. -/
def toFloat : Json → Reading Binary64
  | .number token => expect "number" (numberValue? token)
  | .string (some text) => expect "number" (Decimal.read? text.toList)
  | _ => .error "number expected"

/-- Reads a byte string from hexadecimal text. -/
def toBytes (value : Json) : Reading Bytes := expect "byte string" (value.text?.bind Hex.read?)

/-- Reads a byte string of exactly `size` bytes. -/
def toFixed (size : Nat) (value : Json) : Reading (FixedBytes size) :=
  expect "byte string" (value.text?.bind (FixedBytes.read? size))

/-- Reads an address. -/
def toAddress (value : Json) : Reading Address := value.toFixed 20

/-- Reads a hash. -/
def toHash (value : Json) : Reading Hash := value.toFixed 32

/-- Reads a value that may be `null`. -/
def nullable (read : Json → Reading α) (value : Json) : Reading (Option α) :=
  if value.isNull then .ok none else (read value).map some

/-- Reads a member that has to be there. -/
def field (value : Json) (name : String) (read : Json → Reading α) : Reading α := do
  read (← expect name (value.get? name))

/-- Reads a member that may be absent. -/
def field? (value : Json) (name : String) (read : Json → Reading α) : Reading (Option α) :=
  nullable read ((value.get? name).getD .null)

/-- Reads a member, absent ones having a value of their own. -/
def fieldOr (value : Json) (name : String) (absent : α) (read : Json → Reading α) : Reading α := do
  return (← value.field? name read).getD absent

/-- A byte string as hexadecimal text. -/
def hex (bytes : Bytes) : Json := .str (Hex.text bytes)

/-- A byte string of known length as hexadecimal text. -/
def fixed (bytes : FixedBytes size) : Json := .str bytes.text

/-- An integer as a text of decimal digits. -/
def quotedInt (n : Int) : Json := .str (toString n)

/-- A list, item by item. -/
def list (write : α → Json) (items : List α) : Json := .array (items.map write)

end NodeGateway.Json
