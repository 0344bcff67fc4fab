import NodeGateway.Text.Mark

/-!
# Directions in Domain Names

Scripts are written from left to right or from right to left. A name with a letter or number of the
latter kind has to be such that it cannot be shown in an order that misleads: each of its labels
begins with a letter, keeps to the direction of that letter, and ends in a letter or number.

Only code points that can stand in a folded domain name are told apart rightly; the tables run
across the others.

## Main definitions

* `Direction`, and `Direction.ofCode`;
* `Direction.isOrderly`, for a label.
-/

namespace NodeGateway

open Text (CodeTable)

/-- How a character takes part in the **direction** of a text. -/
inductive Direction where
  /-- A letter that is written from left to right. -/
  | left
  /-- A letter that is written from right to left. -/
  | right
  /-- A digit of the European kinds. -/
  | europeanDigit
  /-- A digit of the Arabic kind, or a sign inside such numbers. -/
  | arabicDigit
  /-- A mark that takes the direction of what it belongs to. -/
  | mark
  /-- Anything that takes the direction of its neighbours. -/
  | neutral
  deriving DecidableEq, Repr

namespace Direction

/-- The letters that are written from right to left. -/
def rightTable : CodeTable := .ofText "
  5BE 5C0 5C3 5C6 5D0-5F4 608 60B 60D 61B-64A 66D-66F 671-6D5 6E5-6E6 6EE-6EF 6FA-710 712-72F
  74D-7A5 7B1 7C0-7EA 7F4-7F5 7FA 7FE-815 81A 824 828 830-858 85E 860-88F 8A0-8C9 FBB2-FBC2 FE73
  10800-1091B 10920-10A00 10A10-10A35 10A40-10AE4 10AEB-10B35 10B40-10CFF 10D00-10D23 10D4A-10D4F
  10D6F-10D8F 10E80-10EA9 10EAD-10EB1 10EC2-10EC7 10F00-10F27 10F30-10F45 10F51-10F59 10F70-10F81
  10F86-10FF6 1E800-1E8CF 1E922-1E943 1E94B-1E95F 1EC71-1ED3D"

/-- The digits of the European kinds. -/
def europeanTable : CodeTable := .ofText "
  30-39 6F0-6F9 102E1-102FB"

/-- The digits of the Arabic kind, and the signs inside numbers of theirs. -/
def arabicTable : CodeTable := .ofText "
  660-669 66B-66C 10D30-10D49 10E60-10E7E"

/-- What takes the direction of its neighbours. -/
def neutralTable : CodeTable := .ofText "
  21-22 24 26-2A 2B 2C 2D 2E 3B-60 7B-A1 A2-A5 A6-AE B0-B1 B6-D7 F7 2B9-2BA 2C2-2CF 2D2-2ED
  2EF-2FF 375 3F6 58A-58E 58F 606-607 609-60A 60C 60E-60F 66A 6DE 6E9 7F6-7F9 9F2-9F3 9FB AF1
  BF3-BF8 BF9 BFA C78-C7E E3F F3A-F3D 1390-1399 1400 169B-169C 17DB 17F0-180A 1940-1945 19DE-19FF
  200C-200D 2010-2027 2030-2032 2035-2043 2044 2045-205E 20A0-20C1 2104-2129 212E 213A-214D
  218A-2211 2212 2213 2214-2335 237B-2394 2396-26AB 26AD-27FF 2900-2BFF 2CE5-2CEA 2CF9-2CFF
  2E00-3004 3008-3020 3030 3037 303D-303F 30A0 30FB 31C0-31E5 4DC0-4DFF A490-A4C6 A60D-A60F A673
  A67E-A67F A700-A721 A788 A828-A82B A838-A839 A874-A877 AB6A-AB6B FBC3-FDFF FE45-FE46 10101
  10140-1018C 10190-101A0 1091F 10B39-10B3F 10D6E 10ED0-10ED8 11052-11065 11660-1166C 11FD5-11FDC
  11FDD-11FE0 11FE1-11FF1 16FE2 1CC00-1CEF0 1D1E9-1D241 1D245 1D300-1D356 1E2FF 1EEF0-1F12F
  1F16D-1F16F 1F1AD 1F260-1FBFA"

/-- Nonspacing marks that count as letters written from left to right. -/
def markLetterTable : CodeTable := .ofText "
  CBF CC6 11A07-11A08 11C3F"

/-- The direction of a code point. -/
def ofCode (n : Nat) : Direction :=
  if europeanTable.contains n then europeanDigit
  else if neutralTable.contains n then neutral
  else if rightTable.contains n then right
  else if arabicTable.contains n then arabicDigit
  else if Text.isNonspacing n && !markLetterTable.contains n then mark
  else left

/-- Whether a name with a code point has to be orderly. -/
def demandsOrder (n : Nat) : Bool :=
  0x590 ≤ n && (rightTable.contains n || arabicTable.contains n)

/-- Whether the characters of a label that is written from left to right may stand in it. The last
one that is no mark is a letter or a digit. -/
def isOrderlyLeft (label : List Direction) : Bool :=
  label.all (fun d => d != right && d != arabicDigit) &&
    (label.reverse.find? (· != mark)).any fun d => d = left || d = europeanDigit

/-- Whether the characters of a label that is written from right to left may stand in it. The last
one that is no mark is a letter or a digit, and all digits are of one kind. -/
def isOrderlyRight (label : List Direction) : Bool :=
  label.all (· != left) && !(label.contains europeanDigit && label.contains arabicDigit) &&
    (label.reverse.find? (· != mark)).any fun d => d != neutral

/-- Whether a label is **orderly**; an empty one is. -/
def isOrderly (label : List Nat) : Bool :=
  match label.map ofCode with
  | [] => true
  | left :: rest => isOrderlyLeft (left :: rest)
  | right :: rest => isOrderlyRight (right :: rest)
  | _ => false

end Direction

end NodeGateway
