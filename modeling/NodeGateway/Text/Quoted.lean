import NodeGateway.Text.Shapeless

/-!
# Quoted Text

A text or a character between quotes, for messages: backslashes, the quotes themselves and what
cannot be shown are escaped, and everything else stands for itself.
-/

namespace NodeGateway.Text

/-- A character as it stands between quotes of the given kind. -/
def escape (quotes c : Char) : List Char :=
  if c = quotes || c = '\\' then ['\\', c]
  else if c = '\n' then ['\\', 'n']
  else if c = '\r' then ['\\', 'r']
  else if c = '\t' then ['\\', 't']
  else if c.toNat = 0 then ['\\', '0']
  else if isShapeless c then ['\\', 'u', '\x7b'] ++ Hex.natDigits c.toNat ++ ['\x7d']
  else [c]

/-- A text between quotes. -/
def quote (text : String) : String :=
  String.ofList ('"' :: text.toList.flatMap (escape '"') ++ ['"'])

/-- A character between quotes. -/
def quoteChar (c : Char) : String := String.ofList ('\'' :: escape '\'' c ++ ['\''])

end NodeGateway.Text
