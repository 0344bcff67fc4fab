import NodeGateway.Bytes
import NodeGateway.Node.Interface

/-!
# Requests to Execution Nodes

What can be asked of an execution node, and the type of each answer. Of blocks, receipts and
transactions only what the gateway works with is kept.
-/

namespace NodeGateway.Execution

/-- A block named by its position in the chain. -/
inductive BlockTag where
  | latest
  | finalized
  | safe
  | earliest
  | pending
  deriving DecidableEq, Repr

/-- The written form of a tag. -/
def BlockTag.name : BlockTag → String
  | latest => "latest"
  | finalized => "finalized"
  | safe => "safe"
  | earliest => "earliest"
  | pending => "pending"

/-- A block named by a tag or by its number. -/
inductive BlockNumber where
  | tag (tag : BlockTag)
  | number (n : Nat)
  deriving DecidableEq, Repr

/-- A **block**, named by its number or by its hash; with a hash, whether it has to belong to the
canonical chain may be said. -/
inductive BlockId where
  | number (number : BlockNumber)
  | hash (hash : Hash) (canonical : Option Bool)
  deriving DecidableEq, Repr

/-- A **call** of a contract, or a transaction to be estimated. What is not given is left to the
node. -/
structure CallRequest where
  sender : Option Address := none
  target : Option Address := none
  value : Option Nat := none
  input : Option Bytes := none
  deriving DecidableEq, Repr

/-- Which **logs** are asked for. -/
structure LogFilter where
  fromBlock : Option BlockNumber := none
  toBlock : Option BlockNumber := none
  address : Option Address := none
  topic : Option Hash := none
  deriving DecidableEq, Repr

/-- A transaction with its own fees, signed by the account `signer`. -/
structure SignedTransaction where
  chainId : Nat
  nonce : Nat
  gasLimit : Nat
  maxFee : Nat
  tip : Nat
  target : Address
  value : Nat
  input : Bytes
  signer : Address
  deriving DecidableEq, Repr

/-- What is **broadcast**: bytes that somebody else signed and encoded, or a transaction signed
here. -/
inductive Broadcast where
  | encoded (raw : Bytes)
  | signed (transaction : SignedTransaction)
  deriving DecidableEq, Repr

/-- The header of a block. -/
structure Header where
  number : Nat
  baseFee : Option Nat
  deriving DecidableEq, Repr

/-- A log entry. -/
structure LogEntry where
  address : Address
  data : Bytes
  blockNumber : Option Nat
  deriving DecidableEq, Repr

/-- The receipt of a transaction. -/
structure Receipt where
  blockNumber : Option Nat
  gasUsed : Nat
  succeeded : Bool
  deriving DecidableEq, Repr

/-- A transaction that the node knows, and whether it is still pending. -/
structure KnownTransaction where
  nonce : Nat
  pending : Bool
  deriving DecidableEq, Repr

/-- How far a node that is syncing has come. -/
structure SyncProgress where
  current : Nat
  highest : Nat
  deriving DecidableEq, Repr

/-- The **methods** of an execution node. -/
inductive Method where
  | code
  | call
  | headerByHash
  | headerByNumber
  | pendingCode
  | pendingNonce
  | gasPrice
  | gasTip
  | estimateGas
  | sendTransaction
  | logs
  | receipt
  | blockNumber
  | balance
  | transaction
  | nonce
  | syncProgress
  | chainId
  deriving DecidableEq, Repr

/-- A **request** to an execution node. -/
inductive Request where
  | code (account : Address) (block : BlockId)
  | call (call : CallRequest) (block : BlockId)
  | headerByHash (hash : Hash)
  | headerByNumber (number : BlockNumber)
  | pendingCode (account : Address)
  | pendingNonce (account : Address)
  | gasPrice
  | gasTip
  | estimateGas (call : CallRequest)
  | sendTransaction (transaction : Broadcast)
  | logs (filter : LogFilter)
  | receipt (hash : Hash)
  | blockNumber
  | balance (account : Address) (block : BlockId)
  | transaction (hash : Hash)
  | nonce (account : Address) (block : BlockId)
  | syncProgress
  | chainId
  deriving DecidableEq, Repr

/-- The method that a request belongs to. -/
def Request.method : Request → Method
  | code _ _ => .code
  | call _ _ => .call
  | headerByHash _ => .headerByHash
  | headerByNumber _ => .headerByNumber
  | pendingCode _ => .pendingCode
  | pendingNonce _ => .pendingNonce
  | gasPrice => .gasPrice
  | gasTip => .gasTip
  | estimateGas _ => .estimateGas
  | sendTransaction _ => .sendTransaction
  | logs _ => .logs
  | receipt _ => .receipt
  | blockNumber => .blockNumber
  | balance _ _ => .balance
  | transaction _ => .transaction
  | nonce _ _ => .nonce
  | syncProgress => .syncProgress
  | chainId => .chainId

namespace Method

/-- Every method. -/
def all : List Method :=
  [code, call, headerByHash, headerByNumber, pendingCode, pendingNonce, gasPrice, gasTip,
    estimateGas, sendTransaction, logs, receipt, blockNumber, balance, transaction, nonce,
    syncProgress, chainId]

/-- The type of a method's answer. What the node does not know is answered with none, and a node
that is not syncing has no progress to show. -/
abbrev Answer : Method → Type
  | code | call | pendingCode => Bytes
  | headerByHash | headerByNumber => Option Header
  | pendingNonce | gasPrice | gasTip | estimateGas | blockNumber | balance | nonce | chainId => Nat
  | sendTransaction => Unit
  | logs => List LogEntry
  | receipt => Option Receipt
  | transaction => Option KnownTransaction
  | syncProgress => Option SyncProgress

end Method

/-- The **interface** of execution nodes. -/
def interface : Interface where
  Request := Request
  Method := Method
  method := Request.method
  Answer := Method.Answer

/-- What pools of execution nodes are called. -/
def clientType : String := "Execution Client"

end NodeGateway.Execution
