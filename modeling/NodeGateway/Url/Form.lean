import NodeGateway.Text.Blank
import NodeGateway.Url.Percent

/-!
# Forms in Queries

A query as a list of named values: pairs between `&`, a name and a value on the two sides of the
first `=`, `+` for a space, and everything else percent-encoded.
-/

namespace NodeGateway.Form

/-- The text that an encoded name or value stands for. -/
def decodeText (text : List Char) : String :=
  String.ofList (Utf8.decode (Percent.decode (text.map fun c => if c = '+' then ' ' else c)))

/-- Reads one pair. Without `=` the value is empty. -/
def readPair (text : List Char) : String × String :=
  (decodeText (text.takeWhile (· != '=')), decodeText ((text.dropWhile (· != '=')).drop 1))

/-- The pairs of a query, in their order; empty ones do not count. -/
def read (query : List Char) : List (String × String) :=
  ((Text.splitAt '&' query).filter (!·.isEmpty)).map readPair

/-- The value of a name that has to come exactly once. -/
def single? (name : String) (pairs : List (String × String)) : Option String :=
  match pairs.filter (·.1 = name) with
  | [(_, value)] => some value
  | _ => none

end NodeGateway.Form
