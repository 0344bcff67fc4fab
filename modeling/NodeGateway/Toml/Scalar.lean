import NodeGateway.Number.Decimal
import NodeGateway.Settings.Tree
import NodeGateway.Text.Hex

/-!
# Scalars in TOML

The values that are written as one word: flags, numbers and times. Underscores between digits do not
count. A time is kept as a text, in the one spelling that all spellings of a time have in common.
-/

namespace NodeGateway.Toml

/-- Whether every underscore stands between two digits of a number. -/
def underscoresInside : List Char → Bool
  | [] => true
  | ['_'] => false
  | '_' :: c :: rest => c != '_' && underscoresInside (c :: rest)
  | _ :: rest => underscoresInside rest

/-- The digits of a number without the underscores between them. -/
def withoutUnderscores? (digits : List Char) : Option (List Char) :=
  if digits.head? != some '_' && underscoresInside digits then some (digits.filter (· != '_'))
  else none

/-- An integer that fits into 64 bits. -/
def integer? (n : Int) : Option SettingTree :=
  if -(SettingTree.integerBound : Int) ≤ n && n < SettingTree.integerBound then some (.integer n)
  else none

/-- The number that digits of some radix denote. -/
def inRadix? (radix : Nat) (digits : List Char) : Option Nat := do
  let digits ← withoutUnderscores? digits
  guard !digits.isEmpty
  digits.foldlM (fun n c => ((Hex.digitValue? c).filter (· < radix)).map (radix * n + ·)) 0

/-- Whether digits have a zero in front that they do not need. -/
def hasLeadingZero : List Char → Bool
  | '0' :: c :: _ => Numeral.isDigit c
  | _ => false

/-- Reads a decimal number without its sign: an integer, or one with a fraction or an exponent. -/
def decimal? (negative : Bool) (word : List Char) : Option SettingTree := do
  let digits ← withoutUnderscores? word
  guard !(hasLeadingZero digits)
  match Numeral.natural? digits with
  | some n => integer? (if negative then -(n : Int) else n)
  | none =>
    let beforeMark := digits.takeWhile fun c => c != 'e' && c != 'E'
    guard (beforeMark.getLast? != some '.' && beforeMark.head? != some '.')
    return .decimal ((← Decimal.unsigned? digits).nearest negative)

/-- Reads a number behind its sign. -/
def signed? (negative : Bool) (word : List Char) : Option SettingTree :=
  if word = "inf".toList then some (.decimal (.infinite negative))
  else if word = "nan".toList then some (.decimal .nan)
  else decimal? negative word

/-- Whether a word has the form of a day, of which only the digits and dashes are looked at. -/
def isDay (word : List Char) : Bool :=
  match word with
  | [a, b, c, d, '-', e, f, '-', g, h] => [a, b, c, d, e, f, g, h].all Numeral.isDigit
  | _ => false

/-- Whether a word has the form of a time of the day. -/
def isTimeOfDay (word : List Char) : Bool :=
  match word with
  | a :: b :: ':' :: c :: d :: ':' :: e :: f :: _ => [a, b, c, d, e, f].all Numeral.isDigit
  | _ => false

/-- Whether a word is a time: a day, a time of the day, or both. -/
def isTime (word : List Char) : Bool :=
  isTimeOfDay word || isDay word ||
    (isDay (word.take 10) && ((word.drop 10).head?.any fun c => c = 'T' || c = 't' || c = ' ')
      && isTimeOfDay (word.drop 11))

/-- The fraction of a second without the zeros at its end, and without digits that are too many. -/
def fractionText (digits : List Char) : List Char :=
  match ((digits.take 9).reverse.dropWhile (· = '0')).reverse with
  | [] => []
  | kept => '.' :: kept

/-- The distance from universal time, whose own sign is a capital. -/
def offsetText (offset : List Char) : List Char :=
  if offset = ['z'] then ['Z']
  else if offset = "-00:00".toList then "+00:00".toList
  else offset

/-- The common spelling of a time of the day. -/
def timeOfDayText (word : List Char) : List Char :=
  match word.drop 8 with
  | '.' :: rest =>
    word.take 8 ++ fractionText (rest.takeWhile Numeral.isDigit)
      ++ offsetText (rest.dropWhile Numeral.isDigit)
  | offset => word.take 8 ++ offsetText offset

/-- The common spelling of a time. -/
def timeText (word : List Char) : String :=
  String.ofList (if isTimeOfDay word then timeOfDayText word
    else if isDay word then word
    else word.take 10 ++ 'T' :: timeOfDayText (word.drop 11))

/-- Reads a **word**. -/
def scalar? : List Char → Option SettingTree
  | '0' :: 'x' :: digits => (inRadix? 16 digits).bind fun n => integer? n
  | '0' :: 'o' :: digits => (inRadix? 8 digits).bind fun n => integer? n
  | '0' :: 'b' :: digits => (inRadix? 2 digits).bind fun n => integer? n
  | '+' :: word => signed? false word
  | '-' :: word => signed? true word
  | word =>
    if word = "true".toList then some (.flag true)
    else if word = "false".toList then some (.flag false)
    else if isTime word then some (.text (timeText word) false)
    else signed? false word

/-- Whether a character may stand in a word. -/
def isWordChar (c : Char) : Bool :=
  c.isAlphanum || c = '+' || c = '-' || c = '_' || c = '.' || c = ':'

/-- Reads a word from the beginning of a text. A day may have a space between it and a time. -/
def readScalar (text : List Char) : Option (SettingTree × List Char) :=
  let word := text.takeWhile isWordChar
  let rest := text.drop word.length
  let behind := (rest.drop 1).takeWhile isWordChar
  if isDay word && rest.head? = some ' ' && isTimeOfDay behind then
    some (.text (timeText (word ++ 'T' :: behind)) false, rest.drop (behind.length + 1))
  else (scalar? word).map (·, rest)

end NodeGateway.Toml
