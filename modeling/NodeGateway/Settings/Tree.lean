import NodeGateway.Json.Number
import NodeGateway.Settings.Path

/-!
# Setting Trees

What a settings file holds before its settings are read: scalars, lists and tables. The keys of a
file are paths into one tree, and so are the names of variables in the environment, which take the
place of what the file says.

A variable has the prefix `UPSTREAM__`, and `__` separates the levels of the tree in the rest of its
name. Its value is a text, which remembers where it came from for the sake of messages.

## Main definitions

* `SettingTree`, and `SettingTree.ofJson`;
* `SettingTree.overlay`, and `SettingTree.insert`, which does it at the end of a path;
* `SettingTree.ofFile`, `SettingTree.overrideBy`.
-/

namespace NodeGateway

/-- A **tree of settings**. -/
inductive SettingTree where
  | nothing
  | flag (b : Bool)
  | integer (n : Int)
  | decimal (x : Binary64)
  /-- A text, and whether it comes from the environment. -/
  | text (s : String) (fromEnvironment : Bool)
  | list (items : List SettingTree)
  | table (members : List (String × SettingTree))
  deriving Inhabited

namespace SettingTree

/-- The least integer that is not kept as one. -/
def integerBound : Nat := Numeral.bound63

/-- The tree of a number: an integer of 64 bits, or a binary64 number. Only the latter can be zero
with a sign. -/
def ofNumber (token : String) : SettingTree :=
  match Numeral.signed? integerBound token.toList with
  | some n => if n = 0 ∧ token.startsWith "-" then decimal (.finite true 0 0) else integer n
  | none => decimal ((Json.numberValue? token).getD .nan)

mutual

/-- The tree that a JSON document describes. -/
def ofJson : Json → SettingTree
  | .null => nothing
  | .bool b => flag b
  | .number token => ofNumber token
  | .string s => text (s.getD "") false
  | .array items => list (ofItems items)
  | .object members => table (ofMembers members)
  | .scrap _ => nothing

/-- The trees of a JSON array. -/
def ofItems : List Json → List SettingTree
  | [] => []
  | item :: items => ofJson item :: ofItems items

/-- The members of a JSON object. -/
def ofMembers : List (Option String × Json) → List (String × SettingTree)
  | [] => []
  | (name, value) :: members => (name.getD "", ofJson value) :: ofMembers members

end

/-- The members of a table; other trees have none. -/
def members : SettingTree → List (String × SettingTree)
  | table members => members
  | _ => []

/-- Changes the member with the given name, which is `none` to begin with if it is not there. -/
def alter (name : String) (change : Option SettingTree → SettingTree) :
    List (String × SettingTree) → List (String × SettingTree)
  | [] => [(name, change none)]
  | (other, old) :: rest =>
    if other = name then (name, change (some old)) :: rest
    else (other, old) :: alter name change rest

/-- The items of a list; other trees have none. -/
def items : SettingTree → List SettingTree
  | list items => items
  | _ => []

/-- Changes the item at the given place, counted from the end if it is negative. A list that is too
short gets further items, behind the others or in front of them. -/
def alterItem (index : Int) (change : SettingTree → SettingTree) (items : List SettingTree) :
    List SettingTree :=
  let start := items.length + index
  let place := if index < 0 then start.toNat else index.toNat
  let padded := List.replicate (if index < 0 then (-start).toNat else 0) nothing ++ items
    ++ List.replicate (place + 1 - items.length) nothing
  padded.modify place change

mutual

/-- What a tree becomes when another one is **laid over** it. Tables are merged, and anything else
takes the place of what was there. -/
def overlay : (upper lower : SettingTree) → SettingTree
  | table members, nothing => overlayMembers members (table [])
  | table members, lower => overlayMembers members lower
  | upper, _ => upper

/-- Lays the members of a table over a tree. What is no table becomes one with the first of them. -/
def overlayMembers : List (String × SettingTree) → SettingTree → SettingTree
  | [], lower => lower
  | (name, value) :: rest, lower =>
    overlayMembers rest (table (alter (SettingPath.foldName name)
      (fun old => overlay value (old.getD nothing)) lower.members))

end

/-- Lays a tree over what stands at the end of a path. What stands in the way and is no table, or no
list, becomes one. -/
def insert (value : SettingTree) : SettingPath → SettingTree → SettingTree
  | [], tree => overlay value tree
  | .member name :: path, tree =>
    table (alter name (fun old => insert value path (old.getD nothing)) tree.members)
  | .item index :: path, tree => list (alterItem index (insert value path) tree.items)

/-- The tree of a file, in which each key of the whole table is a path. -/
def ofFile (file : SettingTree) : SettingTree :=
  file.members.foldl (fun tree (key, value) => insert value (.ofKey key) tree) (table [])

/-- The prefix of the variables that count. -/
def variablePrefix : List Char := "upstream__".toList

/-- The text with a point in the place of each `__`. -/
def withPoints : List Char → List Char
  | [] => []
  | '_' :: '_' :: rest => '.' :: withPoints rest
  | c :: rest => c :: withPoints rest

/-- The path that the name of a variable stands for, if it is one that counts. -/
def path? (variableName : String) : Option SettingPath :=
  let name := (SettingPath.foldName variableName).toList
  if variablePrefix.isPrefixOf name then
    some (.ofKey (String.ofList (withPoints (name.drop variablePrefix.length))))
  else none

/-- The tree with the variables of the environment put into it. -/
def overrideBy (environment : List (String × String)) (tree : SettingTree) : SettingTree :=
  environment.foldl (fun tree (name, value) =>
    match path? name with
    | some path => insert (text value true) path tree
    | none => tree) tree

end SettingTree

end NodeGateway
