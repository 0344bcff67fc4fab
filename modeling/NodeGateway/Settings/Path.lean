import NodeGateway.Number.Numeral

/-!
# Paths of Settings

Where a setting stands in a tree of tables and lists. A **path** is a row of steps: to the member of
a table with some name, or to the item of a list at some place.

A key may be written as a path: `app.port` goes through a table, and `beacon[0]` into a list, whose
items are counted from its end if the number is negative. A key that is no path is a single name.
The case of letters does not count in names.

## Main definitions

* `SettingPath`, and `SettingPath.text`, as messages show it;
* `SettingPath.ofKey`.
-/

namespace NodeGateway

/-- One **step** into a tree of settings. -/
inductive SettingStep where
  | member (name : String)
  | item (index : Int)
  deriving DecidableEq, Repr

/-- A **path** into a tree of settings. -/
abbrev SettingPath := List SettingStep

namespace SettingPath

/-! ### Written paths -/

/-- A step that is not the first one, as it is written. -/
def stepText : SettingStep → String
  | .member name => "." ++ name
  | .item index => "[" ++ toString index ++ "]"

/-- The written form of a path. -/
def text : SettingPath → String
  | .member name :: rest => name ++ String.join (rest.map stepText)
  | path => String.join (path.map stepText)

/-! ### Keys -/

/-- The small letter of a capital that has one in ASCII; that of the Kelvin sign is a `k`. -/
def foldLetter (c : Char) : Char := if c = '\u212A' then 'k' else c.toLower

/-- A name in small letters. -/
def foldName (name : String) : String := String.ofList (name.toList.map foldLetter)

/-- Whether a character may stand in a name of a path. -/
def isNameChar (c : Char) : Bool := c.isAlphanum || c = ' ' || c = '_' || c = '-'

/-- Reads a name. -/
def readName (text : List Char) : Option (String × List Char) :=
  match text.takeWhile isNameChar with
  | [] => none
  | name => some (foldName (String.ofList name), text.drop name.length)

/-- The text behind spaces and tabs. -/
def skipBlanks (text : List Char) : List Char := text.dropWhile fun c => c = ' ' || c = '\t'

/-- Reads a place in a list and the bracket behind it. -/
def readPlace (text : List Char) : Option (Int × List Char) := do
  let text := skipBlanks text
  let isNegative := text.head? = some '-'
  let text := if isNegative then text.drop 1 else text
  let digits := text.takeWhile Numeral.isDigit
  let n ← Numeral.natural? digits
  guard (n < Numeral.bound63 || (isNegative && n = Numeral.bound63))
  match skipBlanks (text.drop digits.length) with
  | ']' :: rest => return (if isNegative then -(n : Int) else n, rest)
  | _ => none

/-- Reads the steps behind the first name. At most `fuel` of them are read. -/
def readSteps : (fuel : Nat) → List Char → Option SettingPath
  | _, [] => some []
  | 0, _ => none
  | fuel + 1, '.' :: rest => do
    let (name, rest) ← readName rest
    return .member name :: (← readSteps fuel rest)
  | fuel + 1, '[' :: rest => do
    let (index, rest) ← readPlace rest
    return .item index :: (← readSteps fuel rest)
  | _ + 1, _ => none

/-- Reads a path. -/
def read? (text : List Char) : Option SettingPath := do
  let (name, rest) ← readName text
  return .member name :: (← readSteps rest.length rest)

/-- The path that a **key** stands for. -/
def ofKey (key : String) : SettingPath := (read? key.toList).getD [.member (foldName key)]

end SettingPath

end NodeGateway
