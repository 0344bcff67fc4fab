import NodeGateway.Number.Numeral

/-!
# JSON Values

A JSON document as it was written: members keep their order and their repetitions, and a number
keeps the token it was written with, so that a reader of a record can tell `1` from `1.0` and can
refuse a member that comes twice.

A string escape may leave half of a surrogate pair. Such a string is well formed as JSON but
denotes no text; it is kept as `none`, and whoever needs the text refuses it then.

Behind the last item of an array there may be a **scrap**: something that need not be a value, but
that a reader of numbers passes over on its way to the closing bracket. A document without such
scraps, unless they are values, is **whole**.
-/

namespace NodeGateway

/-- A **JSON value**. -/
inductive Json where
  | null
  | bool (b : Bool)
  | number (token : String)
  | string (text : Option String)
  | array (items : List Json)
  | object (members : List (Option String × Json))
  /-- What stands at the end of an array and is passed over, and whether it is a value. -/
  | scrap (isValue : Bool)
  deriving Inhabited

namespace Json

/-- The JSON string of a text. -/
def str (text : String) : Json := .string (some text)

/-- The JSON object with the given members, in this order. -/
def obj (members : List (String × Json)) : Json :=
  .object (members.map fun (name, value) => (some name, value))

/-- A natural number as a JSON number. -/
def nat (n : Nat) : Json := .number (toString n)

/-- A natural number as a JSON string of decimal digits. -/
def quotedNat (n : Nat) : Json := .str (toString n)

/-- An optional value, `null` standing for none. -/
def opt (write : α → Json) : Option α → Json
  | none => .null
  | some a => write a

mutual

/-- Whether a document is **whole**. -/
def isWhole : Json → Bool
  | .scrap isValue => isValue
  | .array items => areWhole items
  | .object members => membersWhole members
  | _ => true

/-- Whether every item of a list is whole. -/
def areWhole : List Json → Bool
  | [] => true
  | item :: items => item.isWhole && areWhole items

/-- Whether the value of every member is whole. -/
def membersWhole : List (Option String × Json) → Bool
  | [] => true
  | (_, value) :: members => value.isWhole && membersWhole members

end

/-- The first member of an object with the given name. -/
def get? (name : String) : Json → Option Json
  | .object members => (members.find? (·.1 = some name)).map (·.2)
  | _ => none

/-- The text of a JSON string. -/
def text? : Json → Option String
  | .string text => text
  | _ => none

/-- The value of a JSON number that is written as plain digits: no sign, no fraction and no
exponent. -/
def natural? : Json → Option Nat
  | .number token => Numeral.natural? token.toList
  | _ => none

end Json

end NodeGateway
