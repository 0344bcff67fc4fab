import NodeGateway.Number.Numeral
import NodeGateway.Text.Blank
import NodeGateway.Url.Domain
import NodeGateway.Url.Percent

/-!
# Hosts

The host of a URL: a name, or an address of the internet protocol in its version 4 or 6. With a
special scheme a host whose last label looks like a number is an address of version 4, however it is
written; a host in brackets is one of version 6 with every scheme. Each kind has one written form.

## Main definitions

* `Host`, and `Host.text`, its written form;
* `Host.parse`, for special schemes, and `Host.parsePlain` for the others;
* `UrlError`, what is wrong with a URL, and `UrlError.message`.
-/

namespace NodeGateway

/-- What is **wrong with a URL**. -/
inductive UrlError where
  /-- There is no scheme. -/
  | relative
  | emptyHost
  /-- The host has a character that no name may have. -/
  | invalidName
  /-- The host of a scheme that is not special has a character that no host may have. -/
  | invalidHost
  | invalidPort
  | invalidIpv4
  | invalidIpv6
  deriving DecidableEq, Repr

/-- The wording of what is wrong with a URL. -/
def UrlError.message : UrlError → String
  | relative => "relative URL without a base"
  | emptyHost => "empty host"
  | invalidName => "invalid international domain name"
  | invalidHost => "invalid domain character"
  | invalidPort => "invalid port number"
  | invalidIpv4 => "invalid IPv4 address"
  | invalidIpv6 => "invalid IPv6 address"

/-- The **host** of a URL. -/
inductive Host where
  | name (text : String)
  /-- An address of version 4, as a number of 32 bits. -/
  | ipv4 (address : Nat)
  /-- An address of version 6, as eight pieces of 16 bits. -/
  | ipv6 (pieces : List Nat)
  deriving DecidableEq, Repr

namespace Ipv4

/-- The number in base `base` that digits denote. -/
def valueIn (base : Nat) (digits : List Char) : Option Nat :=
  digits.foldlM (fun n c => ((Hex.digitValue? c).filter (· < base)).map (base * n + ·)) 0

/-- Reads one part of an address: hexadecimal behind `0x`, octal behind `0`, else decimal. -/
def part? : List Char → Option Nat
  | [] => none
  | ['0'] => some 0
  | '0' :: 'x' :: digits => valueIn 16 digits
  | '0' :: 'X' :: digits => valueIn 16 digits
  | '0' :: digits => valueIn 8 digits
  | digits => valueIn 10 digits

/-- The labels of a name, an empty one at its end left out. -/
def labels (text : List Char) : List (List Char) :=
  let labels := Text.splitAt '.' text
  if labels.getLast? = some [] then labels.dropLast else labels

/-- Whether the last label of a name is a number, so that the name has to be an address. -/
def endsInNumber (text : List Char) : Bool :=
  match (labels text).getLast? with
  | some label => (!label.isEmpty && label.all Numeral.isDigit) || (part? label).isSome
  | none => false

/-- The address that some parts denote: all but the last are bytes, and the last fills what they
leave. -/
def ofParts? (parts : List Nat) : Option Nat := do
  let last ← parts.getLast?
  let bytes := parts.dropLast
  guard (bytes.length < 4 && bytes.all (· < 256) && last < Nat.pow 256 (4 - bytes.length))
  return bytes.foldl (fun n b => 256 * n + b) 0 * Nat.pow 256 (4 - bytes.length) + last

/-- Reads an address. -/
def read? (text : List Char) : Option Nat := do
  ofParts? (← (labels text).mapM part?)

/-- The written form of an address. -/
def text (address : Nat) : String :=
  String.intercalate "."
    ([24, 16, 8, 0].map fun shift => toString (address / Nat.pow 2 shift % 256))

/-- Reads the one strict spelling of an address: four decimal numbers without leading zeros. -/
def readStrict? (text : List Char) : Option Nat := do
  let parts := Text.splitAt '.' text
  guard (parts.length = 4)
  let bytes ← parts.mapM fun digits => do
    guard (digits.length ≤ 3 && (digits.length = 1 || digits.head? != some '0'))
    (Numeral.natural? digits).filter (· < 256)
  ofParts? bytes

end Ipv4

namespace Ipv6

/-- Reads a group of one to four digits. -/
def group? (digits : List Char) : Option Nat :=
  if digits.isEmpty || 4 < digits.length then none else Ipv4.valueIn 16 digits

/-- Reads groups between colons; the last group of the whole address may be an address of
version 4, which makes two pieces. -/
def groups? (isEnd : Bool) : List (List Char) → Option (List Nat)
  | [] => some []
  | [last] =>
    if isEnd && last.contains '.' then
      (Ipv4.readStrict? last).map fun n => [n / 65536, n % 65536]
    else (group? last).map fun piece => [piece]
  | first :: rest => do
    let piece ← group? first
    let pieces ← groups? isEnd rest
    return piece :: pieces

/-- Reads the groups on one side of a double colon, where there may be none. -/
def side? (isEnd : Bool) (text : List Char) : Option (List Nat) :=
  if text.isEmpty then some [] else groups? isEnd (Text.splitAt ':' text)

/-- The text in front of and behind the first double colon. -/
def splitDouble : List Char → Option (List Char × List Char)
  | [] => none
  | ':' :: ':' :: rest => some ([], rest)
  | c :: rest => (splitDouble rest).map fun (before, behind) => (c :: before, behind)

/-- Reads an address: eight pieces, or fewer and one double colon for the zeros left out. -/
def read? (text : List Char) : Option (List Nat) := do
  match splitDouble text with
  | none =>
    let pieces ← groups? true (Text.splitAt ':' text)
    guard (pieces.length = 8)
    return pieces
  | some (before, behind) =>
    let front ← side? false before
    let back ← side? true behind
    guard (front.length + back.length ≤ 7)
    return front ++ List.replicate (8 - front.length - back.length) 0 ++ back

/-- The length of the run of zeros at the front. -/
def zeroRun (pieces : List Nat) : Nat := (pieces.takeWhile (· = 0)).length

/-- The longest run of at least two zeros, the first of several: where it starts and its length. -/
def longestRun (start : Nat) : List Nat → Option (Nat × Nat)
  | [] => none
  | piece :: rest =>
    let here := zeroRun (piece :: rest)
    match longestRun (start + 1) rest with
    | some (other, length) =>
      if length ≤ here then some (start, here) else some (other, length)
    | none => if 2 ≤ here then some (start, here) else none

/-- Pieces with colons between them. -/
def joined (pieces : List Nat) : String :=
  String.intercalate ":" (pieces.map fun piece => String.ofList (Hex.natDigits piece))

/-- The written form of an address: the longest run of zeros is left out. -/
def text (pieces : List Nat) : String :=
  match longestRun 0 pieces with
  | some (start, length) =>
    joined (pieces.take start) ++ "::" ++ joined (pieces.drop (start + length))
  | none => joined pieces

end Ipv6

namespace Host

/-- The written form of a host. -/
def text : Host → String
  | name text => text
  | ipv4 address => Ipv4.text address
  | ipv6 pieces => "[" ++ Ipv6.text pieces ++ "]"

/-- Whether no host may have a character. -/
def isForbidden (c : Char) : Bool :=
  c.toNat = 0 || ['\t', '\n', '\r', ' ', '#', '/', ':', '<', '>', '?', '@', '[', '\\', ']', '^',
    '|'].contains c

/-- Whether no name with a special scheme may have a character. -/
def isForbiddenInName (c : Char) : Bool :=
  isForbidden c || c.toNat < 0x20 || c = '%' || 0x7E < c.toNat

/-- Reads a host in brackets. -/
def parseBracketed (text : List Char) : Except UrlError Host :=
  if text.getLast? = some ']' then
    match Ipv6.read? text.dropLast with
    | some pieces => .ok (ipv6 pieces)
    | none => .error .invalidIpv6
  else .error .invalidIpv6

/-- Reads the name that an encoded text stands for, in its form in ASCII. -/
def parseName (text : List Char) : Except UrlError Host :=
  match Domain.toAscii? (Utf8.decode (Percent.decode text)) with
  | none => .error .invalidName
  | some ascii =>
    if ascii.any isForbiddenInName then .error .invalidName
    else if ascii.isEmpty then .error .emptyHost
    else if Ipv4.endsInNumber ascii then
      match Ipv4.read? ascii with
      | some address => .ok (ipv4 address)
      | none => .error .invalidIpv4
    else .ok (name (String.ofList ascii))

/-- Reads the **host** of a special scheme. -/
def parse : List Char → Except UrlError Host
  | [] => .error .emptyHost
  | '[' :: rest => parseBracketed rest
  | text => parseName text

/-- Reads the host of a scheme that is not special. -/
def parsePlain : List Char → Except UrlError Host
  | '[' :: rest => parseBracketed rest
  | text =>
    if text.any isForbidden then .error .invalidHost
    else .ok (name (String.ofList (Percent.encode Percent.inEvery text)))

end Host

end NodeGateway
