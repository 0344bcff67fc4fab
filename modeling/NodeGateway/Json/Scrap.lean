import NodeGateway.Json.Text

/-!
# What a Reader of Numbers Passes Over

A reader that looks for one more number in an array gives up where it sees that there is none. What
it has read by then is lost, be it a value or not, and if the array ends there nobody misses it:
such a **scrap** stands at the end of an array without harm.

The reader takes the sign, digits, fraction and exponent of a number, whole strings, and the words
`true`, `false` and `null`. It gives up behind the first character that does not fit into what it
has begun, and in front of anything that it does not know how to begin.

## Main definitions

* `Json.giveUp`, the text from where the reader gives up;
* `Json.behindScrap?`, the text behind an array that ends in a scrap.
-/

namespace NodeGateway.Json

/-- The text behind digits. -/
def dropDigits (text : List Char) : List Char := text.dropWhile Numeral.isDigit

/-- The text from where the reader gives up in an exponent, behind its mark. -/
def giveUpInExponent (text : List Char) : List Char :=
  let unsigned := match text with
    | '+' :: rest => rest
    | '-' :: rest => rest
    | text => text
  match unsigned with
  | [] => []
  | c :: rest => if Numeral.isDigit c then dropDigits rest else rest

/-- The text from where the reader gives up behind the digits of a fraction, or of a number without
one. -/
def giveUpInTail : List Char → List Char
  | c :: rest => if c = 'e' || c = 'E' then giveUpInExponent rest else c :: rest
  | [] => []

/-- The text from where the reader gives up behind the whole part of a number. -/
def giveUpInFraction : List Char → List Char
  | '.' :: c :: rest => if Numeral.isDigit c then giveUpInTail (dropDigits rest) else c :: rest
  | '.' :: [] => []
  | text => giveUpInTail text

/-- The text from where the reader gives up in a number without a sign. A digit behind a leading
zero makes it give up. -/
def giveUpInNumber : List Char → List Char
  | '0' :: c :: rest =>
    if Numeral.isDigit c then c :: rest else giveUpInFraction (c :: rest)
  | text => giveUpInFraction (dropDigits text)

/-- The text from where the reader gives up in a word, behind its first letter. -/
def giveUpInWord : (word : List Char) → List Char → List Char
  | letter :: word, c :: rest => if c = letter then giveUpInWord word rest else rest
  | _, text => text

/-- The text from where the reader gives up in a string, behind its opening quote. -/
def giveUpInString : List Char → List Char
  | [] => []
  | '"' :: rest => rest
  | '\\' :: 'u' :: a :: b :: c :: d :: rest =>
    match Hex.natOfDigits? [a, b, c, d] with
    | none => rest
    | some code =>
      if isLowSurrogate code then rest
      else if !isHighSurrogate code then giveUpInString rest
      else match rest with
        | '\\' :: 'u' :: a :: b :: c :: d :: rest =>
          if (Hex.natOfDigits? [a, b, c, d]).any isLowSurrogate then giveUpInString rest else rest
        | '\\' :: _ :: rest => rest
        | _ :: rest => rest
        | [] => []
  | '\\' :: 'u' :: _ => []
  | '\\' :: e :: rest => if (escaped? e).isSome then giveUpInString rest else rest
  | c :: rest => if c.toNat < 0x20 then rest else giveUpInString rest

/-- The text from where the reader **gives up**. -/
def giveUp : List Char → List Char
  | '"' :: rest => giveUpInString rest
  | 't' :: rest => giveUpInWord "rue".toList rest
  | 'f' :: rest => giveUpInWord "alse".toList rest
  | 'n' :: rest => giveUpInWord "ull".toList rest
  | '-' :: c :: rest => if Numeral.isDigit c then giveUpInNumber (c :: rest) else rest
  | '-' :: [] => []
  | c :: rest => if Numeral.isDigit c then giveUpInNumber (c :: rest) else c :: rest
  | [] => []

/-- The text behind the closing bracket of an array that ends in a scrap, if it does. -/
def behindScrap? (text : List Char) : Option (List Char) :=
  match skipSpace (giveUp (skipSpace text)) with
  | ']' :: rest => some rest
  | _ => none

end NodeGateway.Json
