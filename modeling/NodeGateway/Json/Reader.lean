import NodeGateway.Json.Scrap
import NodeGateway.Text.Utf8

/-!
# Reading JSON Text

A reader for the whole grammar of JSON. Values may be nested to any depth, blanks are allowed
around every token, and nothing but blanks may follow the document.

Each function returns what it read and the rest of the text. Recursion is on a measure that
`Json.parse?` takes from the length of the text: every value and every separator uses up at least
one character, so twice the length is always enough.

## Main definitions

* `Json.readValue`, `Json.readItems` and `Json.readMembers` follow the grammar;
* `Json.parse?` reads a document, and `Json.parseRagged?` one whose arrays may end in scraps;
* `Json.parseBytes?` reads such a document from bytes, which need not be well-formed text;
* `Json.beginBytes?` reads what there is of it before it breaks off.
-/

namespace NodeGateway.Json

/-- One or more digits at the start of a text. -/
def readDigits (text : List Char) : Option (List Char × List Char) :=
  match text.takeWhile Numeral.isDigit with
  | [] => none
  | digits => some (digits, text.dropWhile Numeral.isDigit)

/-- The digits before a number's point: a single zero, or digits that do not start with one. -/
def readWhole : List Char → Option (List Char × List Char)
  | '0' :: rest => some (['0'], rest)
  | text => readDigits text

/-- The fraction of a number, if it has one. -/
def readFraction : List Char → Option (List Char × List Char)
  | '.' :: rest => do
    let (digits, rest) ← readDigits rest
    return ('.' :: digits, rest)
  | text => some ([], text)

/-- The exponent of a number, if it has one. -/
def readExponent : List Char → Option (List Char × List Char)
  | c :: rest =>
    if c = 'e' ∨ c = 'E' then
      match rest with
      | s :: more =>
        if s = '+' ∨ s = '-' then do
          let (digits, rest) ← readDigits more
          return (c :: s :: digits, rest)
        else do
          let (digits, rest) ← readDigits rest
          return (c :: digits, rest)
      | [] => none
    else some ([], c :: rest)
  | [] => some ([], [])

/-- Reads the token of an unsigned number. -/
def readUnsigned (text : List Char) : Option (List Char × List Char) := do
  let (whole, rest) ← readWhole text
  let (fraction, rest) ← readFraction rest
  let (exponent, rest) ← readExponent rest
  return (whole ++ fraction ++ exponent, rest)

/-- Reads the token of a number. -/
def readNumber : List Char → Option (List Char × List Char)
  | '-' :: rest => do
    let (token, rest) ← readUnsigned rest
    return ('-' :: token, rest)
  | text => readUnsigned text

/-- The text behind a fixed word. -/
def dropWord (word : String) (text : List Char) : Option (List Char) :=
  if word.toList.isPrefixOf text then some (text.drop word.length) else none

/-- The items behind a comma, and the text behind their array, given what stands behind the comma
and what was read there. A scrap takes the place of what cannot be read, and of a string that is
given up at the end of the array. -/
def closeItems (text : List Char) : Option (List Json × List Char) →
    Option (List Json × List Char)
  | some ([.string none], rest) =>
    match behindScrap? text with
    | some other =>
      some (if other.length = rest.length then [.scrap true] else [.string none], rest)
    | none => some ([.string none], rest)
  | some (items, rest) => some (items, rest)
  | none => (behindScrap? text).map fun rest => ([.scrap false], rest)

mutual

/-- Reads one value, blanks before it included. -/
def readValue : Nat → List Char → Option (Json × List Char)
  | 0, _ => none
  | fuel + 1, text =>
    match skipSpace text with
    | '{' :: rest =>
      match skipSpace rest with
      | '}' :: rest => some (.object [], rest)
      | rest => do
        let (members, rest) ← readMembers fuel rest
        return (.object members, rest)
    | '[' :: rest =>
      match skipSpace rest with
      | ']' :: rest => some (.array [], rest)
      | rest => do
        let (items, rest) ← readItems fuel rest
        return (.array items, rest)
    | '"' :: rest => do
      let (text, rest) ← readString rest
      return (.string text, rest)
    | 'n' :: rest => (dropWord "ull" rest).map (.null, ·)
    | 't' :: rest => (dropWord "rue" rest).map (.bool true, ·)
    | 'f' :: rest => (dropWord "alse" rest).map (.bool false, ·)
    | text => do
      let (token, rest) ← readNumber text
      return (.number (String.ofList token), rest)

/-- Reads one or more items up to the closing bracket. -/
def readItems : Nat → List Char → Option (List Json × List Char)
  | 0, _ => none
  | fuel + 1, text => do
    let (item, rest) ← readValue fuel text
    match skipSpace rest with
    | ']' :: rest => return ([item], rest)
    | ',' :: rest =>
      let (items, rest) ← closeItems rest (readItems fuel rest)
      return (item :: items, rest)
    | _ => none

/-- Reads one or more members up to the closing brace. -/
def readMembers : Nat → List Char → Option (List (Option String × Json) × List Char)
  | 0, _ => none
  | fuel + 1, text =>
    match skipSpace text with
    | '"' :: rest => do
      let (name, rest) ← readString rest
      match skipSpace rest with
      | ':' :: rest =>
        let (value, rest) ← readValue fuel rest
        match skipSpace rest with
        | '}' :: rest => return ([(name, value)], rest)
        | ',' :: rest =>
          let (members, rest) ← readMembers fuel rest
          return ((name, value) :: members, rest)
        | _ => none
      | _ => none
    | _ => none

end

/-- Reads a document that need not be whole: one value, and nothing but blanks behind it. -/
def parseChars? (text : List Char) : Option Json :=
  match readValue (2 * text.length + 2) text with
  | some (value, rest) => if skipSpace rest = [] then some value else none
  | none => none

/-- Reads a document that need not be whole from a text. -/
def parseRagged? (text : String) : Option Json := parseChars? text.toList

/-- Reads a **document** from a text. -/
def parse? (text : String) : Option Json := (parseRagged? text).filter (·.isWhole)

/-! ### Documents that break off -/

mutual

/-- What there is of a value that **breaks off**, blanks before it included. Only a list and an
object can be read in part. -/
def beginValue? : Nat → List Char → Option Json
  | 0, _ => none
  | fuel + 1, text =>
    match skipSpace text with
    | '{' :: rest => some (.object (beginMembers fuel rest))
    | '[' :: rest => some (.array (beginItems fuel rest))
    | _ => none

/-- The items up to where their array breaks off. -/
def beginItems : Nat → List Char → List Json
  | 0, _ => []
  | fuel + 1, text =>
    match readValue fuel text with
    | some (item, rest) =>
      match skipSpace rest with
      | ',' :: rest => item :: beginItems fuel rest
      | _ => [item]
    | none => (beginValue? fuel text).toList

/-- The members up to where their object breaks off. -/
def beginMembers : Nat → List Char → List (Option String × Json)
  | 0, _ => []
  | fuel + 1, text =>
    match skipSpace text with
    | '"' :: rest =>
      match readString rest with
      | some (name, rest) =>
        match skipSpace rest with
        | ':' :: rest =>
          match readValue fuel rest with
          | some (value, rest) =>
            match skipSpace rest with
            | ',' :: rest => (name, value) :: beginMembers fuel rest
            | _ => [(name, value)]
          | none => (beginValue? fuel rest).toList.map (name, ·)
        | _ => []
      | none => []
    | _ => []

end

/-- The **beginning** of a document: all of it if it can be read, whatever stands behind it, and
otherwise what there is of it up to where it breaks off. -/
def beginChars? (text : List Char) : Option Json :=
  match readValue (2 * text.length + 2) text with
  | some (value, _) => some value
  | none => beginValue? (2 * text.length + 2) text

/-! ### Documents in bytes -/

mutual

/-- What two readings of the same document have **in common**. A string that they read differently
has no text; whoever asks for none passes it over. -/
def common : Json → Json → Json
  | .string text, .string other => if text = other then .string text else .scrap true
  | .array items, .array others => .array (itemsInCommon items others)
  | .object members, .object others => .object (membersInCommon members others)
  | value, _ => value

/-- What two readings of the same items have in common. -/
def itemsInCommon : List Json → List Json → List Json
  | item :: items, other :: others => item.common other :: itemsInCommon items others
  | _, _ => []

/-- What two readings of the same members have in common. A name that they read differently is
unreadable. -/
def membersInCommon :
    List (Option String × Json) → List (Option String × Json) → List (Option String × Json)
  | (name, value) :: members, (name', value') :: others =>
    (if name = name' then name else none, value.common value') :: membersInCommon members others
  | _, _ => []

end

/-- Reads **bytes** with a reader of texts. It reads them with one mark for each ill-formed piece
and with another, and what depends on the mark is no text. -/
def inBytes (read : List Char → Option Json) (bytes : Bytes) : Option Json := do
  let value ← read (Utf8.decodeFrom '\uFFFD' none bytes)
  let other ← read (Utf8.decodeFrom '\uFFFC' none bytes)
  return value.common other

/-- Reads a document that need not be whole from bytes. -/
def parseBytes? : Bytes → Option Json := inBytes parseChars?

/-- The beginning of a document in bytes. -/
def beginBytes? : Bytes → Option Json := inBytes beginChars?

end NodeGateway.Json
