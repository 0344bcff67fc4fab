/-!
# Searching Text

Looking for a phrase inside a text, as it stands or without regard to the case of ASCII
letters. Letters outside ASCII have no case here: only the spelling of error messages is
compared, and the phrases looked for are ASCII.
-/

namespace NodeGateway.Text

/-- Whether `phrase` stands somewhere in `text`. -/
def occursIn (phrase : List Char) : List Char → Bool
  | [] => phrase.isEmpty
  | c :: rest => phrase.isPrefixOf (c :: rest) || occursIn phrase rest

/-- The text with its ASCII capitals made small. -/
def foldCase (text : List Char) : List Char := text.map Char.toLower

/-- Whether `phrase`, itself in small letters, stands in `text` in some ASCII case. -/
def mentions (text : String) (phrase : String) : Bool :=
  occursIn phrase.toList (foldCase text.toList)

/-- The text behind the first occurrence of `phrase`, if there is one. -/
def after? (phrase : List Char) : List Char → Option (List Char)
  | [] => if phrase.isEmpty then some [] else none
  | c :: rest =>
    if phrase.isPrefixOf (c :: rest) then some ((c :: rest).drop phrase.length)
    else after? phrase rest

end NodeGateway.Text
