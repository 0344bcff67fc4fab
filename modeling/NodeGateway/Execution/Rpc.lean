import NodeGateway.Execution.Error
import NodeGateway.Execution.Request
import NodeGateway.Http.Exchange
import NodeGateway.Json.Shape
import NodeGateway.Json.Written
import NodeGateway.Node.Pool
import NodeGateway.Number.Quantity
import NodeGateway.Wording

/-!
# Remote Calls of Execution Nodes

Requests to an execution node are **remote calls**: a method name and a list of parameters, posted
as a document to the node's URL. The node replies with a result or with an error object. How a
result is read depends on the method alone.

How a transaction that was signed here is encoded is not decided in this module; the functions that
need it take the encoding. Neither is what is said about a reply that cannot be read (`Wording`).

## Main definitions

* `Execution.Method.remoteName`, `Execution.Request.parameters` and `Execution.Request.document`;
* `Execution.RpcReply`, `Execution.RpcReply.errorData?` and `Execution.Method.readResult?`;
* `Execution.Method.ofResponse` and `Execution.call`.
-/

namespace NodeGateway.Execution

/-! ### Asking -/

/-- The name of a method in remote calls. -/
def Method.remoteName : Method → String
  | code | pendingCode => "eth_getCode"
  | call => "eth_call"
  | headerByHash => "eth_getBlockByHash"
  | headerByNumber => "eth_getBlockByNumber"
  | nonce | pendingNonce => "eth_getTransactionCount"
  | gasPrice => "eth_gasPrice"
  | gasTip => "eth_maxPriorityFeePerGas"
  | estimateGas => "eth_estimateGas"
  | sendTransaction => "eth_sendRawTransaction"
  | logs => "eth_getLogs"
  | receipt => "eth_getTransactionReceipt"
  | blockNumber => "eth_blockNumber"
  | balance => "eth_getBalance"
  | transaction => "eth_getTransactionByHash"
  | syncProgress => "eth_syncing"
  | chainId => "eth_chainId"

/-- A number as a parameter. -/
def quantity (n : Nat) : Json := .str (Hex.quantity n)

/-- A byte string of fixed length as a parameter. -/
def fixedParameter (bytes : FixedBytes size) : Json := .str bytes.text

/-- A member that is left out where there is no value. -/
def optionalMember (name : String) (write : α → Json) (value : Option α) : List (String × Json) :=
  (value.map fun a => (name, write a)).toList

/-- A block's tag or number as a parameter. -/
def BlockNumber.parameter : BlockNumber → Json
  | tag t => .str t.name
  | number n => quantity n

/-- A block as a parameter. -/
def BlockId.parameter : BlockId → Json
  | number n => n.parameter
  | hash digest canonical =>
    .obj (("blockHash", fixedParameter digest) :: optionalMember "requireCanonical" .bool canonical)

/-- A call as a parameter: the members that are given. -/
def CallRequest.parameter (call : CallRequest) : Json :=
  .obj (optionalMember "from" fixedParameter call.sender
    ++ optionalMember "to" fixedParameter call.target
    ++ optionalMember "value" quantity call.value
    ++ optionalMember "input" (fun bytes => .str (Hex.text bytes)) call.input)

/-- A filter as a parameter. -/
def LogFilter.parameter (filter : LogFilter) : Json :=
  .obj (optionalMember "fromBlock" BlockNumber.parameter filter.fromBlock
    ++ optionalMember "toBlock" BlockNumber.parameter filter.toBlock
    ++ optionalMember "address" fixedParameter filter.address
    ++ [("topics", .array (filter.topic.map fixedParameter).toList)])

/-- The bytes of what is broadcast. -/
def Broadcast.bytes (encode : SignedTransaction → Bytes) : Broadcast → Bytes
  | encoded raw => raw
  | signed t => encode t

/-- The block that a request for the state to come refers to. -/
def pendingParameter : Json := (BlockNumber.tag .pending).parameter

/-- The **parameters** of a request, if its method has any. -/
def Request.parameters (encode : SignedTransaction → Bytes) : Request → Option (List Json)
  | code account block | balance account block | nonce account block =>
    some [fixedParameter account, block.parameter]
  | call request block => some [request.parameter, block.parameter]
  | headerByHash hash => some [fixedParameter hash, .bool false]
  | headerByNumber number => some [number.parameter, .bool false]
  | pendingCode account | pendingNonce account =>
    some [fixedParameter account, pendingParameter]
  | estimateGas request => some [request.parameter, pendingParameter]
  | sendTransaction t => some [.str (Hex.text (t.bytes encode))]
  | logs f => some [f.parameter]
  | receipt hash | transaction hash => some [fixedParameter hash]
  | gasPrice | gasTip | blockNumber | syncProgress | chainId => none

/-- The **document** that is posted for a request. -/
def Request.document (encode : SignedTransaction → Bytes) (request : Request) : Json :=
  .obj ([("jsonrpc", .str "2.0"), ("id", .nat 0), ("method", .str request.method.remoteName)]
    ++ optionalMember "params" .array (request.parameters encode))

/-! ### Results -/

/-- Reads an optional value, `null` standing for none. -/
def readOptional? (read : Json → Option α) : Json → Option (Option α)
  | .null => some none
  | value => (read value).map some

/-- Reads a member that may be absent. -/
def memberOptional? (value : Json) (name : String) (read : Json → Option α) : Option (Option α) :=
  match value.get? name with
  | none => some none
  | some member => readOptional? read member

/-- Reads a number of 64 bits. -/
def readNumber? : Json → Option Nat := Json.readQuantity? Numeral.bound64

/-- Reads the header of a block. -/
def Header.read? (value : Json) : Option Header := do
  return ⟨← readNumber? (← value.get? "number"),
    ← memberOptional? value "baseFeePerGas" readNumber?⟩

/-- Reads a log entry. -/
def LogEntry.read? (value : Json) : Option LogEntry := do
  return ⟨← (← value.get? "address").readSized? 20, ← (← value.get? "data").readBytes?,
    ← memberOptional? value "blockNumber" readNumber?⟩

/-- Reads a receipt. -/
def Receipt.read? (value : Json) : Option Receipt := do
  return ⟨← memberOptional? value "blockNumber" readNumber?,
    ← readNumber? (← value.get? "gasUsed"), (← readNumber? (← value.get? "status")) = 1⟩

/-- Reads a transaction, which is pending as long as it is in no block. -/
def KnownTransaction.read? (value : Json) : Option KnownTransaction := do
  let block ← memberOptional? value "blockHash" (Json.readSized? 32)
  return ⟨← readNumber? (← value.get? "nonce"), block.isNone⟩

/-- Reads the progress of a node; a flag says that it is not syncing. -/
def SyncProgress.read? : Json → Option (Option SyncProgress)
  | .bool _ => some none
  | value => do
    return some ⟨← (← value.get? "currentBlock").readQuantity? Numeral.bound256,
      ← (← value.get? "highestBlock").readQuantity? Numeral.bound256⟩

/-- Reads a list of items. -/
def readList? (read : Json → Option α) : Json → Option (List α)
  | .array items => items.mapM read
  | _ => none

/-- Reads the **result** of a method. -/
def Method.readResult? : (method : Method) → Json → Option method.Answer
  | code, value | call, value | pendingCode, value => value.readBytes?
  | headerByHash, value | headerByNumber, value => readOptional? Header.read? value
  | gasPrice, value | gasTip, value => value.readQuantity? Numeral.bound128
  | balance, value => value.readQuantity? Numeral.bound256
  | pendingNonce, value | estimateGas, value | blockNumber, value | nonce, value
  | chainId, value => readNumber? value
  | sendTransaction, value => (value.readSized? 32).map fun _ => ()
  | logs, value => readList? LogEntry.read? value
  | receipt, value => readOptional? Receipt.read? value
  | transaction, value => readOptional? KnownTransaction.read? value
  | syncProgress, value => SyncProgress.read? value

/-! ### Replies -/

/-- What a node **replies** to a remote call. -/
inductive RpcReply where
  | result (value : Json)
  | error (code : Int) (message : String)

namespace RpcReply

/-- Reads an error object. -/
def readError? (value : Json) : Option RpcReply := do
  let code ← match ← value.get? "code" with
    | .number token => Numeral.signed? Numeral.bound63 token.toList
    | _ => none
  let message ← ((value.get? "message").map Json.text?).getD (some "")
  return .error code message

/-- Reads a reply: a result or an error, but not both. An error object may also stand alone. -/
def read? (value : Json) : Option RpcReply :=
  match value.get? "result", value.get? "error" with
  | some value, none => some (.result value)
  | none, some value => readError? value
  | some _, some _ => none
  | none, none => readError? value

/-- The **data** of an error in the text of a reply, as they are written there. `null` stands for
none. -/
def errorData? (text : List Char) : Option String :=
  let object := (Json.writtenMember? "error" text).getD text
  ((Json.writtenMember? "data" object).map String.ofList).filter (· != "null")

end RpcReply

/-- The failure of a list of replies where one reply was due. -/
def batchReceived : RpcError :=
  .transport ⟨.other, [{ text := "received batch response from single request" }]⟩

/-- The failure of a body that cannot be read as the reply to a method. -/
def unreadable [Wording] (method : Method) (body : Bytes) : RpcError :=
  .malformed (": " ++ Wording.reply method.remoteName body)

/-- What follows from the document in a body that a node sends back. -/
def Method.ofDocument [Wording] (method : Method) (body : Bytes) (document : Json) :
    Except RpcError method.Answer :=
  match document, RpcReply.read? document with
  | .array items, _ =>
    .error (if items.all fun item => (RpcReply.read? item).isSome then batchReceived
      else unreadable method body)
  | _, some (.result value) =>
    match method.readResult? value with
    | some answer => .ok answer
    | none => .error (unreadable method body)
  | _, some (.error n message) =>
    .error (.response n message (RpcReply.errorData? (Utf8.decode body)))
  | _, none => .error (unreadable method body)

/-- Reads the **response** to a call of a method. -/
def Method.ofResponse [Wording] (method : Method) (url : Url) (response : Http.Response) :
    Except RpcError method.Answer :=
  match response.body with
  | none => .error (.transport (.brokenOff (some url)))
  | some body =>
    if Http.isSuccess response.status then
      match (Http.Response.document? body).filter (·.isWhole) with
      | some document => method.ofDocument body document
      | none => .error (unreadable method body)
    else .error (.status response.status (Http.Response.text body))

/-- The fault that a failed call amounts to. -/
def rpcFault (error : RpcError) : Fault := (ExecutionError.ofRpcError error).toFault

/-- **Calls** the execution node at a URL over a network. -/
def call [Wording] (network : Http.Network σ) (encode : SignedTransaction → Bytes) (url : Url)
    (request : Request) (state : σ) : Outcome request.method.Answer × σ :=
  let (reply, state) := network { url, body := some (request.document encode) } state
  (reply.outcome request.method.remoteName url (fun failure => rpcFault (.transport failure))
    (fun response => (request.method.ofResponse url response).mapError rpcFault), state)

/-- The **endpoints** of a pool whose nodes are at the given URLs. -/
def endpoints [Wording] (network : Http.Network σ) (encode : SignedTransaction → Bytes)
    (now : σ → Instant) (url : Role → Url) : Endpoints interface σ where
  now state := now state
  call role request state := call network encode (url role) request state

end NodeGateway.Execution
