import NodeGateway.Text.CombiningClass
import NodeGateway.Text.Decomposition

/-!
# Composed Text

One spelling of many: the text in which everything is taken apart, marks stand in the order of
their classes, and letters are then put together with the marks behind them wherever a single
character stands for both.

## Main definitions

* `orderMarks` puts marks in the order of their classes;
* `compose` puts letters and marks together;
* `composed` is the **composed form** of a text.
-/

namespace NodeGateway.Text

/-- Puts a mark behind those of lower classes. -/
def placeMark (mark : Nat) : List Nat → List Nat
  | [] => [mark]
  | n :: rest =>
    if combiningClass n != 0 && combiningClass n < combiningClass mark then
      n :: placeMark mark rest
    else mark :: n :: rest

/-- The text with the marks behind each letter in the order of their classes; marks of one class
keep theirs. -/
def orderMarks : List Nat → List Nat
  | [] => []
  | n :: rest =>
    if combiningClass n = 0 then n :: orderMarks rest else placeMark n (orderMarks rest)

/-- Puts a letter together with what stands behind it. A mark is kept from the letter by another
one between them that has its class or a higher one. -/
def composeFrom (letter : Nat) (marks : List Nat) : List Nat → List Nat
  | [] => letter :: marks
  | n :: rest =>
    let isKeptOff := marks.getLast?.any fun mark => combiningClass n ≤ combiningClass mark
    match if isKeptOff then none else composite? letter n with
    | some letter => composeFrom letter marks rest
    | none =>
      if combiningClass n = 0 then letter :: marks ++ composeFrom n [] rest
      else composeFrom letter (marks ++ [n]) rest

/-- Puts letters and marks together. Marks without a letter stay as they are. -/
def compose : List Nat → List Nat
  | [] => []
  | n :: rest => if combiningClass n = 0 then composeFrom n [] rest else n :: compose rest

/-- The **composed form** of a text. Up to the first marks every text has its composed form. -/
def composed (text : List Nat) : List Nat :=
  if text.all (· < 0x300) then text else compose (orderMarks (text.flatMap decompose))

end NodeGateway.Text
