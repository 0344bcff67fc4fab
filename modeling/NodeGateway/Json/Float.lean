import NodeGateway.Json.Value
import NodeGateway.Number.Decimal

/-!
# Writing Binary64 Numbers into JSON

The token of a binary64 number has the fewest digits that read back. It is positional from `0.00001`
up to below `10 ^ 16`, always with a fraction, and has an exponent outside that range. JSON has no
token for an infinite number or for none, and they are written `null`.
-/

namespace NodeGateway.Json

/-- The token of a positive decimal without zeros at the end of its digits. -/
def decimalToken (d : Decimal.Unsigned) : List Char :=
  let digits := Nat.toDigits 10 d.digits
  let place := d.exponent + digits.length
  if 0 ≤ d.exponent ∧ place ≤ 16 then d.positional ++ ['.', '0']
  else if -5 < place ∧ place ≤ 16 then d.positional
  else
    let exponent := 'e' :: (toString (place - 1)).toList
    match digits with
    | [digit] => digit :: exponent
    | digit :: rest => digit :: '.' :: rest ++ exponent
    | [] => exponent

/-- A **binary64 number** as a JSON number. -/
def float : Binary64 → Json
  | .nan | .infinite _ => .null
  | .finite negative m e =>
    let sign := if negative then ['-'] else []
    let token :=
      if m = 0 then ['0', '.', '0'] else decimalToken ((Decimal.shortest m e).normalize 25)
    .number (String.ofList (sign ++ token))

end NodeGateway.Json
