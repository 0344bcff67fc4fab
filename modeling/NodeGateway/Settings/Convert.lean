import NodeGateway.Bytes
import NodeGateway.Settings.Error
import NodeGateway.Settings.Tree
import NodeGateway.Url.Reader

/-!
# Converting Settings

How the value in a tree becomes a value of the wanted kind. Scalars are converted generously: texts
are read as numbers, and the words for yes and no count as one and zero; flags and numbers are
written as texts. What cannot be converted is reported with the path of the setting.
-/

namespace NodeGateway

/-- What **converting** a setting gives. -/
abbrev Converted (α : Type) := Except SettingsError α

namespace SettingTree

/-- A value as messages name it. -/
def describe : SettingTree → String
  | nothing => "unit value"
  | flag b => "boolean \x60" ++ toString b ++ "\x60"
  | integer n => "64-bit integer \x60" ++ toString n ++ "\x60"
  | decimal x => "floating point \x60" ++ Decimal.render x ++ "\x60"
  | text s _ => "string " ++ Text.quote s
  | list _ => "sequence"
  | table _ => "map"

/-- A value as the messages about whole records name it. A finite decimal keeps its point. -/
def describePlain : SettingTree → String
  | integer n => "integer \x60" ++ toString n ++ "\x60"
  | decimal x =>
    let shown := Decimal.render x
    let whole := (x matches .finite ..) && !shown.contains '.'
    "floating point \x60" ++ shown ++ (if whole then ".0" else "") ++ "\x60"
  | value => value.describe

/-- Whether a value comes from the environment. -/
def isFromEnvironment : SettingTree → Bool
  | text _ fromEnvironment => fromEnvironment
  | _ => false

/-- The error of a value that is of no use. -/
def mismatch (expected : String) (path : SettingPath) (value : SettingTree) : SettingsError :=
  .mismatch value.describe expected path value.isFromEnvironment

/-- The number that a word stands for. -/
def ofWord? (s : String) : Option Nat :=
  let word := String.ofList (s.toList.map Char.toLower)
  if ["true", "on", "yes"].contains word then some 1
  else if ["false", "off", "no"].contains word then some 0
  else none

/-- Converts to a **text**. -/
def toText (path : SettingPath) : SettingTree → Converted String
  | text s _ => .ok s
  | flag b => .ok (toString b)
  | integer n => .ok (toString n)
  | decimal x => .ok (Decimal.render x)
  | value => .error (value.mismatch "a string" path)

/-- Converts to a **whole number** of 64 bits. -/
def toCount (path : SettingPath) : SettingTree → Converted Nat
  | text s fromEnvironment =>
    match (ofWord? s).or (Numeral.unsigned? Numeral.bound64 s.toList) with
    | some n => .ok n
    | none => .error ((text s fromEnvironment).mismatch "an integer" path)
  | flag b => .ok b.toNat
  | integer n =>
    if n < 0 then .error ((integer n).mismatch "an unsigned 64 bit or less integer" path)
    else .ok n.toNat
  | decimal x => .ok (x.toNatRound Numeral.bound64)
  | value => .error (value.mismatch "an integer" path)

/-- Converts to a whole number of fewer bits. -/
def toWord (bits : Nat) (path : SettingPath) (value : SettingTree) : Converted Nat := do
  let n ← value.toCount path
  if n < Nat.pow 2 bits then return n
  else throw (.mismatch ("64-bit unsigned integer \x60" ++ toString n ++ "\x60")
    ("an unsigned " ++ toString bits ++ " bit integer") path false)

/-- Converts to a **port**. -/
def toPort (path : SettingPath) (value : SettingTree) : Converted Nat := value.toWord 16 path

/-- Converts to a **byte**. -/
def toByte (path : SettingPath) (value : SettingTree) : Converted UInt8 := do
  return UInt8.ofNat (← value.toWord 8 path)

/-- Converts to a **binary64 number**. -/
def toFloat (path : SettingPath) : SettingTree → Converted Binary64
  | text s fromEnvironment =>
    match ((ofWord? s).map Binary64.ofNat).or (Decimal.read? s.toList) with
    | some x => .ok x
    | none => .error ((text s fromEnvironment).mismatch "a floating point" path)
  | flag b => .ok (.ofNat b.toNat)
  | integer n => .ok (.nearest (n < 0) n.natAbs 1)
  | decimal x => .ok x
  | value => .error (value.mismatch "a floating point" path)

/-- Converts to a **URL**. -/
def toUrl (path : SettingPath) (value : SettingTree) : Converted Url := do
  let s ← value.toText path
  match Url.parse s with
  | .ok url => return url
  | .error reason => throw (.url s reason)

/-- Converts to a URL that may be left empty. -/
def toUrl? (path : SettingPath) (value : SettingTree) : Converted (Option Url) := do
  if value matches .nothing then return none
  let s := String.ofList (Text.trim (← value.toText path).toList)
  if s.isEmpty then return none
  match Url.parse s with
  | .ok url => return some url
  | .error reason => throw (.url s reason)

/-- Converts to a **duration**. -/
def toDuration (path : SettingPath) (value : SettingTree) : Converted Duration := do
  let s ← value.toText path
  match Duration.read s with
  | .ok duration => return duration
  | .error reason => throw (.duration s reason)

/-- Converts to the **address of a host**, which has a single spelling. -/
def toHost (path : SettingPath) (value : SettingTree) : Converted Nat := do
  let s ← value.toText path
  match Ipv4.readStrict? s.toList with
  | some address => return address
  | none => throw .host

/-- Converts the items of a list to bytes, the first of them standing at place `index`. -/
def toBytes (path : SettingPath) (index : Nat) : List SettingTree → Converted Bytes
  | [] => .ok []
  | item :: items => do
    let byte ← item.toByte (path ++ [.item index])
    return byte :: (← toBytes path (index + 1) items)

/-- Converts a list to an address. A single item behind the last byte is passed over unless it is
another byte. -/
def toAddressOfItems (path : SettingPath) (items : List SettingTree) : Converted Address := do
  let bytes ← toBytes path 0 (items.take 20)
  match FixedBytes.ofBytes? 20 bytes with
  | none => throw (.length bytes.length "exactly 20 bytes")
  | some address =>
    if items[20]?.any fun item => (item.toByte path).isOk then throw (.length 21 "exactly 20 bytes")
    return address

/-- Converts to an **address** of an account: a text, or a list of its bytes. -/
def toAddress (path : SettingPath) : SettingTree → Converted Address
  | text s _ =>
    match FixedBytes.read? 20 s with
    | some address => .ok address
    | none => .error (.address (.ofText 20 s))
  | list items => toAddressOfItems path items
  | value => .error (.unexpected value.describePlain
      ("20 bytes, represented as a hex string of length 40, an array of u8, or raw bytes"))

end SettingTree

end NodeGateway
