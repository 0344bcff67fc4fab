import NodeGateway.Json.Reader

/-!
# Values as They Are Written

A document forgets how it was written, blanks and all. Where a part of it is passed on to a caller,
its own text is passed on, and that is looked up in the text of the document.

## Main definitions

* `Json.takeValue?`, the text of a value;
* `Json.writtenMembers`, the members of an object with the texts of their values;
* `Json.writtenMember?`, the text of the value of one of them.
-/

namespace NodeGateway.Json

/-- The text of the value at the beginning of a text, and the text behind it. -/
def takeValue? (text : List Char) : Option (List Char × List Char) :=
  (readValue (2 * text.length + 2) text).map fun (_, rest) =>
    (text.take (text.length - rest.length), rest)

/-- The **members** that stand at the beginning of a text, each with the text of its value. -/
def writtenMembers : Nat → List Char → List (Option String × List Char)
  | 0, _ => []
  | fuel + 1, text =>
    match skipSpace text with
    | '"' :: rest =>
      match readString rest with
      | some (name, rest) =>
        match skipSpace rest with
        | ':' :: rest =>
          match takeValue? (skipSpace rest) with
          | some (written, rest) =>
            match skipSpace rest with
            | ',' :: rest => (name, written) :: writtenMembers fuel rest
            | _ => [(name, written)]
          | none => []
        | _ => []
      | none => []
    | _ => []

/-- The **text of a member** in the text of an object. -/
def writtenMember? (name : String) (text : List Char) : Option (List Char) :=
  match skipSpace text with
  | '{' :: rest => ((writtenMembers text.length rest).find? (·.1 = some name)).map (·.2)
  | _ => none

end NodeGateway.Json
