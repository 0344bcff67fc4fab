import NodeGateway.Text.Blank
import NodeGateway.Text.Hex

/-!
# Tables of Code Points

Facts about characters come as tables with many rows. A table is written as a text of rows between
blanks or in lines, all numbers in hexadecimal:

* `300-36F` holds all code points from the first to the last, and `AD` just one;
* `300-314:E6` gives these code points an **image**, of one or more numbers with points between
  them; `100-12E/2:101` does so for every second of them only;
* `BC:31.2044.34,31.2044.32` gives an image to `BC` and another one to the code point behind it.

## Main definitions

* `CodeTable.ofText` reads such a text;
* `CodeTable.contains`, `CodeTable.value?` and `CodeTable.image?` look a code point up.
-/

namespace NodeGateway.Text

/-- A **row** of a table: every `step`-th code point from `first` to `last`, and their image. -/
structure CodeRow where
  first : Nat
  last : Nat
  step : Nat
  image : List Nat
  deriving Repr

/-- A **table** of code points. -/
abbrev CodeTable := List CodeRow

namespace CodeRow

/-- Whether a row is about a code point. -/
def covers (n : Nat) (row : CodeRow) : Bool :=
  row.first ≤ n && n ≤ row.last && (n - row.first) % row.step = 0

/-- The image of a code point in its row: that of the row's first code point, in which the first
number moves along with the code point. -/
def imageOf (n : Nat) (row : CodeRow) : List Nat :=
  match row.image with
  | [] => []
  | a :: rest => (a + (n - row.first)) :: rest

/-- The part of a text in front of a mark, and the part behind it, empty without the mark. -/
def cut (mark : Char) (text : List Char) : List Char × List Char :=
  (text.takeWhile (· != mark), (text.dropWhile (· != mark)).drop 1)

/-- The number that hexadecimal digits denote. -/
def number (digits : List Char) : Nat := (Hex.natOfDigits? digits).getD 0

/-- The rows that one written row stands for. -/
def ofText (text : List Char) : List CodeRow :=
  let (codes, images) := cut ':' text
  let (range, step) := cut '/' codes
  let (first, last) := cut '-' range
  let first := number first
  let last := if last.isEmpty then first else number last
  let step := if step.isEmpty then 1 else number step
  if images.isEmpty then [⟨first, last, step, []⟩]
  else match (splitAt ',' images).map fun image => (splitAt '.' image).map number with
    | [image] => [⟨first, last, step, image⟩]
    | images => images.mapIdx fun i image => ⟨first + i, first + i, 1, image⟩

end CodeRow

namespace CodeTable

/-- The table that a text describes, which may have several lines. -/
def ofText (text : String) : CodeTable :=
  let rows := splitAt ' ' (text.toList.map fun c => if c = '\n' then ' ' else c)
  (rows.filter (!·.isEmpty)).flatMap CodeRow.ofText

/-- Whether a code point is in a table. -/
def contains (table : CodeTable) (n : Nat) : Bool := table.any (·.covers n)

/-- The number that a table gives to a code point, the same for a whole row. -/
def value? (table : CodeTable) (n : Nat) : Option Nat :=
  (table.find? (·.covers n)).bind (·.image.head?)

/-- The image that a table gives to a code point. -/
def image? (table : CodeTable) (n : Nat) : Option (List Nat) :=
  (table.find? (·.covers n)).map (·.imageOf n)

end CodeTable

end NodeGateway.Text
