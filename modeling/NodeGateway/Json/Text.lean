import NodeGateway.Json.Value
import NodeGateway.Text.Hex

/-!
# Strings in JSON Text

The blanks between tokens, and the strings of JSON with their escapes. A string is split into
characters and code units first; the surrogates among the units are paired after that.

## Main definitions

* `Json.skipSpace`;
* `Json.scanString` splits a string into its parts, and `Json.joinUnits` puts them together;
* `Json.readString`.
-/

namespace NodeGateway.Json

/-- The four blanks of JSON. -/
def isSpace (c : Char) : Bool := c = ' ' || c = '\t' || c = '\n' || c = '\r'

/-- The text behind leading blanks. -/
def skipSpace (text : List Char) : List Char := text.dropWhile isSpace

/-- A **part of a string**: a character that stands for itself, or a code unit that an escape
`\uXXXX` names. -/
inductive StringPart where
  | char (c : Char)
  | unit (code : Nat)
  deriving DecidableEq, Repr

/-- What a one-letter escape stands for. -/
def escaped? : Char → Option Char
  | '"' => some '"'
  | '\\' => some '\\'
  | '/' => some '/'
  | 'b' => some '\x08'
  | 'f' => some '\x0c'
  | 'n' => some '\n'
  | 'r' => some '\r'
  | 't' => some '\t'
  | _ => none

/-- Reads the parts of a string up to its closing quote. A control character has to be
escaped. -/
def scanString : List Char → Option (List StringPart × List Char)
  | [] => none
  | '"' :: rest => some ([], rest)
  | '\\' :: 'u' :: a :: b :: c :: d :: rest => do
    let code ← Hex.natOfDigits? [a, b, c, d]
    let (parts, rest) ← scanString rest
    return (.unit code :: parts, rest)
  | '\\' :: e :: rest => do
    let c ← escaped? e
    let (parts, rest) ← scanString rest
    return (.char c :: parts, rest)
  | c :: rest => do
    guard (0x20 ≤ c.toNat)
    let (parts, rest) ← scanString rest
    return (.char c :: parts, rest)

/-- Whether a code unit opens a surrogate pair. -/
def isHighSurrogate (code : Nat) : Bool := 0xD800 ≤ code && code < 0xDC00

/-- Whether a code unit closes a surrogate pair. -/
def isLowSurrogate (code : Nat) : Bool := 0xDC00 ≤ code && code < 0xE000

/-- The text of a string's parts, surrogates taken in pairs; half a pair has no text. -/
def joinUnits : List StringPart → Option (List Char)
  | [] => some []
  | .char c :: rest => (joinUnits rest).map (c :: ·)
  | .unit high :: .unit low :: rest =>
    if isHighSurrogate high then
      if isLowSurrogate low then
        (joinUnits rest).map (Char.ofNat (0x10000 + (high - 0xD800) * 0x400 + (low - 0xDC00)) :: ·)
      else none
    else if isLowSurrogate high then none
    else (joinUnits (.unit low :: rest)).map (Char.ofNat high :: ·)
  | .unit code :: rest =>
    if isHighSurrogate code || isLowSurrogate code then none
    else (joinUnits rest).map (Char.ofNat code :: ·)

/-- Reads a string behind its opening quote; the text is `none` if half a surrogate pair is in
it. -/
def readString (text : List Char) : Option (Option String × List Char) := do
  let (parts, rest) ← scanString text
  return ((joinUnits parts).map String.ofList, rest)

end NodeGateway.Json
