import NodeGateway.Text.Hex

/-!
# Texts and Keys in TOML

The four spellings of a text: between single or double quotes, on one line or, with three quotes, on
several. Between double quotes a backslash begins an escape, between single quotes everything stands
for itself. A key is a list of names between points, each of them bare or quoted.
-/

namespace NodeGateway.Toml

/-- The text behind spaces and tabs. -/
def skipSpace (text : List Char) : List Char := text.dropWhile fun c => c = ' ' || c = '\t'

/-- The text from the end of the line on, if nothing but a comment stands before it. -/
def skipComment (text : List Char) : List Char :=
  match skipSpace text with
  | '#' :: rest => rest.dropWhile (· != '\n')
  | rest => rest

/-- The text behind spaces, ends of lines and comments. At most `fuel` lines are passed. -/
def skipBlank : (fuel : Nat) → List Char → List Char
  | 0, text => text
  | fuel + 1, text =>
    match skipComment text with
    | '\n' :: rest => skipBlank fuel rest
    | '\r' :: '\n' :: rest => skipBlank fuel rest
    | rest => rest

/-- The character that a number stands for, if it stands for one. -/
def charOf? (n : Nat) : Option Char :=
  if h : n.isValidChar then some (Char.ofNatAux n h) else none

/-- What a one-letter escape stands for. -/
def escaped? : Char → Option Char
  | 'b' => some '\x08'
  | 't' => some '\t'
  | 'n' => some '\n'
  | 'f' => some '\x0c'
  | 'r' => some '\r'
  | '"' => some '"'
  | '\\' => some '\\'
  | _ => none

/-- Reads an escape behind its backslash. -/
def readEscape : List Char → Option (Char × List Char)
  | 'u' :: rest => do
    guard (4 ≤ rest.length)
    return (← charOf? (← Hex.natOfDigits? (rest.take 4)), rest.drop 4)
  | 'U' :: rest => do
    guard (8 ≤ rest.length)
    return (← charOf? (← Hex.natOfDigits? (rest.take 8)), rest.drop 8)
  | c :: rest => (escaped? c).map (·, rest)
  | [] => none

/-- Whether a character may not stand in a text. -/
def isControl (c : Char) : Bool := (c.toNat < 0x20 && c != '\t') || c.toNat = 0x7F

/-- Reads a text on one line up to the quote that closes it. At most `fuel` characters are read. -/
def readLine (quote : Char) : (fuel : Nat) → List Char → Option (List Char × List Char)
  | 0, _ | _, [] => none
  | fuel + 1, c :: rest =>
    if c = quote then some ([], rest)
    else if c = '\\' && quote = '"' then do
      let (c, rest) ← readEscape rest
      let (text, rest) ← readLine quote fuel rest
      return (c :: text, rest)
    else if isControl c then none
    else (readLine quote fuel rest).map fun (text, rest) => (c :: text, rest)

/-- The text behind a backslash at the end of a line and the blanks that follow it, if it is one. -/
def joinLines? (text : List Char) : Option (List Char) :=
  match (skipSpace text).dropWhile (· = '\r') with
  | '\n' :: rest =>
    some (rest.dropWhile fun c => c = ' ' || c = '\t' || c = '\n' || c = '\r')
  | _ => none

/-- Reads a text on several lines up to the three quotes that close it; up to two more quotes in
front of these belong to the text. At most `fuel` characters are read. -/
def readLines (quote : Char) : (fuel : Nat) → List Char → Option (List Char × List Char)
  | 0, _ | _, [] => none
  | fuel + 1, c :: rest =>
    let run := (c :: rest).takeWhile (· = quote)
    if c = quote && 3 ≤ run.length then
      let kept := min (run.length - 3) 2
      some (List.replicate kept quote, (c :: rest).drop (kept + 3))
    else if c = '\\' && quote = '"' then
      match joinLines? rest with
      | some rest => readLines quote fuel rest
      | none => do
        let (c, rest) ← readEscape rest
        let (text, rest) ← readLines quote fuel rest
        return (c :: text, rest)
    else if isControl c && c != '\n' && c != '\r' then none
    else (readLines quote fuel rest).map fun (text, rest) => (c :: text, rest)

/-- The text without the end of a line at its beginning. -/
def dropNewline : List Char → List Char
  | '\n' :: rest => rest
  | '\r' :: '\n' :: rest => rest
  | text => text

/-- Reads a **text** behind its first quote. -/
def readText (quote : Char) (text : List Char) : Option (String × List Char) := do
  let (read, rest) ← match text with
    | a :: b :: rest =>
      if a = quote && b = quote then
        let rest := dropNewline rest
        readLines quote (rest.length + 1) rest
      else readLine quote (text.length + 1) text
    | _ => readLine quote (text.length + 1) text
  return (String.ofList read, rest)

/-- Whether a character may stand in a bare name. -/
def isBare (c : Char) : Bool := c.isAlphanum || c = '_' || c = '-'

/-- Reads one name of a key. -/
def readName : List Char → Option (String × List Char)
  | [] => none
  | c :: rest =>
    if c = '"' || c = '\'' then
      (readLine c (rest.length + 1) rest).map fun (name, rest) => (String.ofList name, rest)
    else
      let name := (c :: rest).takeWhile isBare
      if name.isEmpty then none else some (String.ofList name, (c :: rest).drop name.length)

/-- Reads a **key** with blanks around its names. At most `fuel` names are read. -/
def readKey : (fuel : Nat) → List Char → Option (List String × List Char)
  | 0, _ => none
  | fuel + 1, text => do
    let (name, rest) ← readName (skipSpace text)
    match skipSpace rest with
    | '.' :: rest =>
      let (names, rest) ← readKey fuel rest
      return (name :: names, rest)
    | rest => return ([name], rest)

end NodeGateway.Toml
