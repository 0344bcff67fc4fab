import NodeGateway.Bytes
import NodeGateway.Text.Utf8

/-!
# Contract ABI

The encoding of values that contracts take and return. A value is either of fixed size and
written in place, or it is written behind the others of its tuple or array and its place holds
the **offset** of where it starts.

Decoding is lenient. It follows offsets wherever they lead within the data, takes no notice of
padding or of bytes that nothing refers to, keeps only the low bits of numbers and addresses and
takes every number but zero for true. The only thing that it refuses is to run past the end of
the data.

## Main definitions

* `AbiType` and `AbiType.Value`;
* `AbiType.encode`, the standard encoding, and `AbiTypes.encode`, that of a list of arguments;
* `AbiType.decode?` and `AbiTypes.decode?`.
-/

namespace NodeGateway

mutual

/-- The **type** of an ABI value. -/
inductive AbiType where
  | uint (bits : Nat)
  | bool
  | address
  | bytes
  | string
  | array (item : AbiType)
  | tuple (items : AbiTypes)

/-- A list of types, such as those of a function's arguments. -/
inductive AbiTypes where
  | nil
  | cons (head : AbiType) (tail : AbiTypes)

end

mutual

/-- The values of a type. -/
def AbiType.Value : AbiType → Type
  | .uint _ => Nat
  | .bool => Bool
  | .address => Address
  | .bytes => Bytes
  | .string => String
  | .array item => List item.Value
  | .tuple items => items.Values

/-- The values of a list of types, one after another. -/
def AbiTypes.Values : AbiTypes → Type
  | .nil => Unit
  | .cons head tail => head.Value × tail.Values

end

mutual

/-- Whether the values of a type are written behind the others. -/
def AbiType.isDynamic : AbiType → Bool
  | .uint _ | .bool | .address => false
  | .bytes | .string | .array _ => true
  | .tuple items => items.isDynamic

/-- Whether one of a list of types is dynamic. -/
def AbiTypes.isDynamic : AbiTypes → Bool
  | .nil => false
  | .cons head tail => head.isDynamic || tail.isDynamic

end

mutual

/-- How many bytes a value takes up at its place. -/
def AbiType.headSize : AbiType → Nat
  | .uint _ | .bool | .address | .bytes | .string | .array _ => 32
  | .tuple items => if items.isDynamic then 32 else items.headSize

/-- How many bytes a list of values takes up at their places. -/
def AbiTypes.headSize : AbiTypes → Nat
  | .nil => 0
  | .cons head tail => head.headSize + tail.headSize

end

namespace Abi

/-- A number as one word of 32 bytes. -/
def word (n : Nat) : Bytes := Bytes.ofNat 32 n

/-- Bytes with zeros behind them up to the next full word. -/
def padRight (bytes : Bytes) : Bytes :=
  bytes ++ List.replicate ((32 - bytes.length % 32) % 32) 0

/-- A byte string behind its length. -/
def lengthPrefixed (bytes : Bytes) : Bytes := word bytes.length ++ padRight bytes

/-- A **part** of a tuple or array: its encoding, and whether it is written behind the others. -/
structure Part where
  dynamic : Bool
  content : Bytes

/-- How many bytes a part takes up at its place. -/
def Part.headSize (part : Part) : Nat := if part.dynamic then 32 else part.content.length

/-- The places of parts, given where the content of the next dynamic one starts. -/
def heads (start : Nat) : List Part → Bytes
  | [] => []
  | part :: parts =>
    if part.dynamic then word start ++ heads (start + part.content.length) parts
    else part.content ++ heads start parts

/-- The contents of the dynamic parts. -/
def tails : List Part → Bytes
  | [] => []
  | part :: parts => (if part.dynamic then part.content else []) ++ tails parts

/-- The size of all heads together. -/
def headsSize : List Part → Nat
  | [] => 0
  | part :: parts => part.headSize + headsSize parts

/-- The parts of a tuple or array put together. -/
def assemble (parts : List Part) : Bytes := heads (headsSize parts) parts ++ tails parts

end Abi

mutual

/-- The **standard encoding** of a value. -/
def AbiType.encode : (type : AbiType) → type.Value → Bytes
  | .uint _, n => Abi.word n
  | .bool, b => Abi.word (Bool.toNat b)
  | .address, a => List.replicate 12 0 ++ a.val
  | .bytes, bytes => Abi.lengthPrefixed bytes
  | .string, s => Abi.lengthPrefixed (Utf8.encode s.toList)
  | .array item, values =>
    Abi.word (List.length values)
      ++ Abi.assemble (List.map (fun value => ⟨item.isDynamic, item.encode value⟩) values)
  | .tuple items, values => Abi.assemble (items.parts values)

/-- The parts of a tuple. -/
def AbiTypes.parts : (types : AbiTypes) → types.Values → List Abi.Part
  | .nil, _ => []
  | .cons head tail, (value, values) => ⟨head.isDynamic, head.encode value⟩ :: tail.parts values

end

/-- The standard encoding of a list of arguments. -/
def AbiTypes.encode (types : AbiTypes) (values : types.Values) : Bytes :=
  Abi.assemble (types.parts values)

namespace Abi

/-- The first `size` bytes from a place on, if there are as many. -/
def slice? (data : Bytes) (start size : Nat) : Option Bytes :=
  if start + size ≤ data.length then some ((data.drop start).take size) else none

/-- The word at a place. -/
def word? (data : Bytes) (start : Nat) : Option Bytes := slice? data start 32

/-- The number at a place. -/
def nat? (data : Bytes) (start : Nat) : Option Nat := (word? data start).map Bytes.toNat

/-- The part of the data that the offset at a place leads to. -/
def follow? (data : Bytes) (start : Nat) : Option Bytes := do
  let offset ← nat? data start
  if offset ≤ data.length then some (data.drop offset) else none

/-- A byte string behind its length. -/
def counted? (data : Bytes) : Option Bytes := do
  let size ← nat? data 0
  slice? data 32 size

/-- The lowest twenty bytes of the word at a place. -/
def address? (data : Bytes) (start : Nat) : Option Address := do
  let word ← word? data start
  FixedBytes.ofBytes? 20 (word.drop 12)

/-- Decodes `count` items that stand one after another. -/
def items? (decode : Nat → Option α) (size : Nat) : (count start : Nat) → Option (List α)
  | 0, _ => some []
  | count + 1, start => do
    let item ← decode start
    let rest ← items? decode size count (start + size)
    return item :: rest

end Abi

mutual

/-- **Decodes** the value at a place of the data that its offsets refer to. -/
def AbiType.decode? : (type : AbiType) → (data : Bytes) → (start : Nat) → Option type.Value
  | .uint bits, data, start => (Abi.nat? data start).map (· % Nat.pow 2 bits)
  | .bool, data, start => (Abi.nat? data start).map (· != 0)
  | .address, data, start => Abi.address? data start
  | .bytes, data, start => (Abi.follow? data start).bind Abi.counted?
  | .string, data, start =>
    ((Abi.follow? data start).bind Abi.counted?).map fun bytes => String.ofList (Utf8.decode bytes)
  | .array item, data, start => do
    let content ← Abi.follow? data start
    let count ← Abi.nat? content 0
    let items := content.drop 32
    if count ≤ items.length then
      Abi.items? (fun place => item.decode? items place) item.headSize count 0
    else none
  | .tuple items, data, start =>
    if items.isDynamic then (Abi.follow? data start).bind fun content => items.decode? content 0
    else items.decode? data start

/-- Decodes a list of values that stand one after another. -/
def AbiTypes.decode? : (types : AbiTypes) → (data : Bytes) → (start : Nat) → Option types.Values
  | .nil, _, _ => some ()
  | .cons head tail, data, start => do
    let value ← head.decode? data start
    let values ← tail.decode? data (start + head.headSize)
    return (value, values)

end

/-- Decodes the values that a call returned. -/
def AbiTypes.decodeReturned? (types : AbiTypes) (data : Bytes) : Option types.Values :=
  types.decode? data 0

namespace AbiTypes

/-- A list of types. -/
def ofList : List AbiType → AbiTypes
  | [] => .nil
  | head :: tail => .cons head (ofList tail)

end AbiTypes

/-- A contract **function**: its selector and the types of its arguments. -/
structure AbiFunction where
  selector : Bytes
  inputs : AbiTypes

/-- The call data of a function. -/
def AbiFunction.callData (f : AbiFunction) (arguments : f.inputs.Values) : Bytes :=
  f.selector ++ f.inputs.encode arguments

end NodeGateway
