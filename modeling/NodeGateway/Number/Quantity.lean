import NodeGateway.Json.Value
import NodeGateway.Text.Hex

/-!
# Quantities

How nodes and callers spell whole numbers: in hexadecimal behind `0x`, in octal behind `0o`, in
binary behind `0b`, or in decimal. Underscores between digits do not count, no digits at all mean
zero, and a number that does not fit is refused. A plain JSON integer of at most 64 bits is a
quantity too.
-/

namespace NodeGateway

namespace Quantity

/-- The number that some digits of a radix up to sixteen denote. -/
def ofDigits? (radix : Nat) (digits : List Char) : Option Nat :=
  digits.foldlM (fun n c =>
    if c = '_' then some n
    else ((Hex.digitValue? c).filter (· < radix)).map (radix * n + ·)) 0

/-- The number that a text denotes. -/
def value? : List Char → Option Nat
  | '0' :: 'x' :: digits | '0' :: 'X' :: digits => ofDigits? 16 digits
  | '0' :: 'o' :: digits | '0' :: 'O' :: digits => ofDigits? 8 digits
  | '0' :: 'b' :: digits | '0' :: 'B' :: digits => ofDigits? 2 digits
  | digits => ofDigits? 10 digits

/-- Reads a quantity below `bound`. -/
def read? (bound : Nat) (text : List Char) : Option Nat := (value? text).filter (· < bound)

end Quantity

/-- Reads a quantity below `bound` from a JSON text or integer. -/
def Json.readQuantity? (bound : Nat) : Json → Option Nat
  | .string text => text.bind fun text => Quantity.read? bound text.toList
  | .number token =>
    (Numeral.natural? token.toList).filter fun n => n < Numeral.bound64 && n < bound
  | _ => none

end NodeGateway
