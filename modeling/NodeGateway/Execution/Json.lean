import NodeGateway.Execution.Request
import NodeGateway.Json.Access
import NodeGateway.Json.Writer

/-!
# The JSON Form of Execution Data

How requests to execution nodes and their answers are written in scripts and transcripts: numbers
as decimal texts, byte strings as hexadecimal texts, what is not known as `null`. The arguments of
a request are a list.
-/

namespace NodeGateway.Execution

/-- Every tag. -/
def BlockTag.all : List BlockTag := [latest, finalized, safe, earliest, pending]

/-- The tag with the given name. -/
def BlockTag.ofName? (name : String) : Option BlockTag := all.find? (·.name = name)

namespace BlockNumber

/-- Reads a tag or a number. -/
def ofJson (value : Json) : Json.Reading BlockNumber :=
  match value.text?.bind BlockTag.ofName? with
  | some t => .ok (.tag t)
  | none => value.toNat.map .number

/-- The JSON form of a tag or a number. -/
def toJson : BlockNumber → Json
  | tag t => .str t.name
  | number n => .quotedNat n

end BlockNumber

namespace BlockId

/-- Reads a block. -/
def ofJson (value : Json) : Json.Reading BlockId := do
  match value.get? "hash" with
  | some h => return .hash (← h.toHash) (← value.field? "canonical" Json.toFlag)
  | none => return .number (← BlockNumber.ofJson value)

/-- The JSON form of a block. -/
def toJson : BlockId → Json
  | number n => n.toJson
  | hash h canonical =>
    .obj [("hash", .fixed h), ("canonical", Json.opt Json.bool canonical)]

/-- A block in one line. -/
def describe : BlockId → String
  | number (.tag t) => t.name
  | number (.number n) => Hex.quantity n
  | hash h (some true) => "canonical hash " ++ h.text
  | hash h _ => "hash " ++ h.text

end BlockId

namespace CallRequest

/-- Reads a call. -/
def ofJson (value : Json) : Json.Reading CallRequest := do
  return { sender := ← value.field? "from" Json.toAddress
           target := ← value.field? "to" Json.toAddress
           value := ← value.field? "value" Json.toNat
           input := ← value.field? "input" Json.toBytes }

/-- The members that a call is written with. The input has one name only, and the other is left
empty. -/
def members (call : CallRequest) : List (String × Json) :=
  [("from", Json.opt Json.fixed call.sender), ("to", Json.opt Json.fixed call.target),
    ("input", Json.opt Json.hex call.input), ("data", .null),
    ("value", Json.opt Json.quotedNat call.value)]

end CallRequest

namespace LogFilter

/-- Reads a filter. -/
def ofJson (value : Json) : Json.Reading LogFilter := do
  return { fromBlock := ← value.field? "from" BlockNumber.ofJson
           toBlock := ← value.field? "to" BlockNumber.ofJson
           address := ← value.field? "address" Json.toAddress
           topic := ← value.field? "topic0" Json.toHash }

/-- A bound of a filter, if it is a number. -/
def bound : Option BlockNumber → Json
  | some (.number n) => .quotedNat n
  | _ => .null

/-- The JSON form of a filter: its numeric bounds. -/
def toJson (filter : LogFilter) : Json :=
  .obj [("from", bound filter.fromBlock), ("to", bound filter.toBlock)]

end LogFilter

/-- The JSON form of what is broadcast. -/
def Broadcast.toJson : Broadcast → Json
  | encoded raw => .hex raw
  | signed t => .obj [("type", .nat 2), ("chain_id", .quotedNat t.chainId),
      ("nonce", .quotedNat t.nonce), ("gas_limit", .quotedNat t.gasLimit),
      ("max_fee", .quotedNat t.maxFee), ("tip", .quotedNat t.tip), ("to", .fixed t.target),
      ("value", .quotedNat t.value), ("input", .hex t.input), ("signer", .fixed t.signer)]

namespace Request

/-- Reads the request of a method from its arguments. -/
def ofArguments (method : Method) (arguments : List Json) : Json.Reading Request := do
  match method, arguments with
  | .code, [a, b] => return code (← a.toAddress) (← BlockId.ofJson b)
  | .call, [c, b] => return call (← CallRequest.ofJson c) (← BlockId.ofJson b)
  | .headerByHash, [h] => return headerByHash (← h.toHash)
  | .headerByNumber, [b] => return headerByNumber (← BlockNumber.ofJson b)
  | .pendingCode, [a] => return pendingCode (← a.toAddress)
  | .pendingNonce, [a] => return pendingNonce (← a.toAddress)
  | .gasPrice, [] => return gasPrice
  | .gasTip, [] => return gasTip
  | .estimateGas, [c] => return estimateGas (← CallRequest.ofJson c)
  | .sendTransaction, [raw] => return sendTransaction (.encoded (← raw.toBytes))
  | .logs, [f] => return logs (← LogFilter.ofJson f)
  | .receipt, [h] => return receipt (← h.toHash)
  | .blockNumber, [] => return blockNumber
  | .balance, [a, b] => return balance (← a.toAddress) (← BlockId.ofJson b)
  | .transaction, [h] => return transaction (← h.toHash)
  | .nonce, [a, b] => return nonce (← a.toAddress) (← BlockId.ofJson b)
  | .syncProgress, [] => return syncProgress
  | .chainId, [] => return chainId
  | _, _ => throw "arguments of the method expected"

/-- The arguments of a request. -/
def arguments : Request → List Json
  | code account block | balance account block | nonce account block =>
    [.fixed account, block.toJson]
  | call c block => [.obj c.members, block.toJson]
  | headerByHash hash | receipt hash | transaction hash => [.fixed hash]
  | headerByNumber number => [number.toJson]
  | pendingCode account | pendingNonce account => [.fixed account]
  | estimateGas c => [.obj c.members]
  | sendTransaction t => [t.toJson]
  | logs filter => [filter.toJson]
  | gasPrice | gasTip | blockNumber | syncProgress | chainId => []

end Request

namespace Header

/-- Reads a header. -/
def ofJson (value : Json) : Json.Reading Header := do
  return ⟨← value.field "number" Json.toNat, ← value.field? "base_fee" Json.toNat⟩

/-- The JSON form of a header. -/
def toJson (header : Header) : Json :=
  .obj [("number", .quotedNat header.number), ("base_fee", Json.opt Json.quotedNat header.baseFee)]

end Header

namespace LogEntry

/-- Reads a log entry. -/
def ofJson (value : Json) : Json.Reading LogEntry := do
  return ⟨← value.field "address" Json.toAddress, ← value.field "data" Json.toBytes,
    ← value.field? "block_number" Json.toNat⟩

/-- The JSON form of a log entry. -/
def toJson (entry : LogEntry) : Json :=
  .obj [("address", .fixed entry.address), ("data", .hex entry.data),
    ("block_number", Json.opt Json.quotedNat entry.blockNumber)]

end LogEntry

namespace Receipt

/-- Reads a receipt. -/
def ofJson (value : Json) : Json.Reading Receipt := do
  return ⟨← value.field? "block_number" Json.toNat, ← value.field "gas_used" Json.toNat,
    ← value.field "status" Json.toFlag⟩

/-- The JSON form of a receipt. -/
def toJson (receipt : Receipt) : Json :=
  .obj [("block_number", Json.opt Json.quotedNat receipt.blockNumber),
    ("gas_used", .quotedNat receipt.gasUsed), ("status", .bool receipt.succeeded)]

end Receipt

namespace KnownTransaction

/-- Reads a transaction. -/
def ofJson (value : Json) : Json.Reading KnownTransaction := do
  return ⟨← value.field "nonce" Json.toNat, ← value.field "pending" Json.toFlag⟩

/-- The JSON form of a transaction. -/
def toJson (transaction : KnownTransaction) : Json :=
  .obj [("nonce", .quotedNat transaction.nonce), ("pending", .bool transaction.pending)]

end KnownTransaction

namespace SyncProgress

/-- Reads the progress of a node, a flag standing for a node that is not syncing. -/
def ofJson : Json → Json.Reading (Option SyncProgress)
  | .bool _ => .ok none
  | value => do
    return some ⟨← value.field "current" Json.toNat, ← value.field "highest" Json.toNat⟩

/-- The JSON form of a node's progress. -/
def toJson : Option SyncProgress → Json
  | none => .bool false
  | some p => .obj [("current", .quotedNat p.current), ("highest", .quotedNat p.highest)]

end SyncProgress

namespace Method

/-- The name of a method. -/
def name : Method → String
  | code => "code_at"
  | call => "call_contract"
  | headerByHash => "header_by_hash"
  | headerByNumber => "header_by_number"
  | pendingCode => "pending_code_at"
  | pendingNonce => "pending_nonce_at"
  | gasPrice => "suggest_gas_price"
  | gasTip => "suggest_gas_tip_cap"
  | estimateGas => "estimate_gas"
  | sendTransaction => "send_transaction"
  | logs => "filter_logs"
  | receipt => "transaction_receipt"
  | blockNumber => "block_number"
  | balance => "balance_at"
  | transaction => "transaction_by_hash"
  | nonce => "nonce_at"
  | syncProgress => "sync_progress"
  | chainId => "chain_id"

/-- Reads the answer of a method. -/
def readAnswer : (method : Method) → Json → Json.Reading method.Answer
  | code, value | call, value | pendingCode, value => value.toBytes
  | headerByHash, value | headerByNumber, value => value.nullable Header.ofJson
  | pendingNonce, value | gasPrice, value | gasTip, value | estimateGas, value
  | blockNumber, value | balance, value | nonce, value | chainId, value => value.toNat
  | sendTransaction, _ => .ok ()
  | logs, value => value.toList LogEntry.ofJson
  | receipt, value => value.nullable Receipt.ofJson
  | transaction, value => value.nullable KnownTransaction.ofJson
  | syncProgress, value => SyncProgress.ofJson value

/-- The JSON form of a method's answer. -/
def writeAnswer : (method : Method) → method.Answer → Json
  | code, bytes | call, bytes | pendingCode, bytes => .hex bytes
  | headerByHash, header | headerByNumber, header => Json.opt Header.toJson header
  | pendingNonce, n | gasPrice, n | gasTip, n | estimateGas, n
  | blockNumber, n | balance, n | nonce, n | chainId, n => .quotedNat n
  | sendTransaction, _ => .null
  | logs, entries => Json.list LogEntry.toJson entries
  | receipt, r => Json.opt Receipt.toJson r
  | transaction, t => Json.opt KnownTransaction.toJson t
  | syncProgress, progress => SyncProgress.toJson progress

end Method

/-- The data of an error as a node writes them that puts members in the order of their names. -/
def errorData? : Json → Option String
  | .null => none
  | data => some data.sorted.render

end NodeGateway.Execution
