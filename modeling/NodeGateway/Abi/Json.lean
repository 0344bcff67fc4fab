import NodeGateway.Abi.Codec
import NodeGateway.Json.Access

/-!
# The JSON Form of ABI Values

Numbers are decimal texts, byte strings and addresses hexadecimal texts, arrays and tuples lists.
-/

namespace NodeGateway

mutual

/-- The JSON form of a value. -/
def AbiType.toJson : (type : AbiType) → type.Value → Json
  | .uint _, n => .quotedNat n
  | .bool, b => .bool b
  | .address, a => .fixed a
  | .bytes, bytes => .hex bytes
  | .string, s => .str s
  | .array item, values => .array (List.map item.toJson values)
  | .tuple items, values => .array (items.toJson values)

/-- The JSON forms of a list of values. -/
def AbiTypes.toJson : (types : AbiTypes) → types.Values → List Json
  | .nil, _ => []
  | .cons head tail, (value, values) => head.toJson value :: tail.toJson values

end

mutual

/-- Reads a value of a type. -/
def AbiType.ofJson : (type : AbiType) → Json → Json.Reading type.Value
  | .uint _, value => value.toNat
  | .bool, value => value.toFlag
  | .address, value => value.toAddress
  | .bytes, value => value.toBytes
  | .string, value => value.toText
  | .array item, value => value.toList item.ofJson
  | .tuple items, .array values => items.ofJson values
  | .tuple _, _ => .error "list expected"

/-- Reads the values of a list of types. -/
def AbiTypes.ofJson : (types : AbiTypes) → List Json → Json.Reading types.Values
  | .nil, [] => .ok ()
  | .cons head tail, value :: values => do
    let first ← head.ofJson value
    let rest ← tail.ofJson values
    return (first, rest)
  | .nil, _ :: _ | .cons _ _, [] => .error "as many values as types expected"

end

end NodeGateway
