import NodeGateway.Json.Value
import NodeGateway.Text.Hex

/-!
# Writing JSON Text

The compact form: no blanks, members in their order. In a string the quote, the backslash and
the control characters are escaped and everything else stands for itself.
-/

namespace NodeGateway.Json

/-- A character as it stands inside a string. -/
def escapeChar (c : Char) : List Char :=
  match c with
  | '"' => ['\\', '"']
  | '\\' => ['\\', '\\']
  | '\x08' => ['\\', 'b']
  | '\x0c' => ['\\', 'f']
  | '\n' => ['\\', 'n']
  | '\r' => ['\\', 'r']
  | '\t' => ['\\', 't']
  | c =>
    if c.toNat < 0x20 then
      ['\\', 'u', '0', '0', Hex.digit (c.toNat / 16), Hex.digit (c.toNat % 16)]
    else [c]

/-- A string with its quotes. -/
def renderString (text : String) : List Char :=
  '"' :: text.toList.flatMap escapeChar ++ ['"']

/-- The written form of a text that a broken escape may have taken away; nothing is written for
it then. -/
def renderText : Option String → List Char
  | some text => renderString text
  | none => ['"', '"']

mutual

/-- The compact form of a value. -/
def renderChars : Json → List Char
  | .null => "null".toList
  | .bool true => "true".toList
  | .bool false => "false".toList
  | .number token => token.toList
  | .string text => renderText text
  | .array items => '[' :: renderItems items ++ [']']
  | .object members => '{' :: renderMembers members ++ ['}']
  | .scrap _ => []

/-- Items with commas between them. -/
def renderItems : List Json → List Char
  | [] => []
  | [item] => renderChars item
  | item :: items => renderChars item ++ ',' :: renderItems items

/-- Members with commas between them. -/
def renderMembers : List (Option String × Json) → List Char
  | [] => []
  | [(name, value)] => renderText name ++ ':' :: renderChars value
  | (name, value) :: members =>
    renderText name ++ ':' :: renderChars value ++ ',' :: renderMembers members

end

/-- The compact form of a value, as text. -/
def render (value : Json) : String := String.ofList (renderChars value)

/-- Inserts a member by name, in place of an earlier member of that name. -/
def insertMember (name : Option String) (value : Json) :
    List (Option String × Json) → List (Option String × Json)
  | [] => [(name, value)]
  | (other, old) :: rest =>
    if other = name then (name, value) :: rest
    else if name.getD "" < other.getD "" then (name, value) :: (other, old) :: rest
    else (other, old) :: insertMember name value rest

mutual

/-- The value with the members of every object in the order of their names, the last of several
with one name being kept. -/
def sorted : Json → Json
  | .array items => .array (sortedItems items)
  | .object members => .object (sortedMembers members [])
  | value => value

/-- The items, each with its members in order. -/
def sortedItems : List Json → List Json
  | [] => []
  | item :: items => sorted item :: sortedItems items

/-- The members inserted one after another into those already in order. -/
def sortedMembers : List (Option String × Json) → List (Option String × Json) →
    List (Option String × Json)
  | [], done => done
  | (name, value) :: members, done => sortedMembers members (insertMember name (sorted value) done)

end

end NodeGateway.Json
