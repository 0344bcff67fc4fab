import NodeGateway.Execution.Request
import NodeGateway.Node.Manager

/-!
# The Manager of Execution Nodes

The methods of a client of an execution node, and the wrappers with which a manager has all of them
too. A wrapper that is given a record to ask with hands a copy of it to every attempt, so the next
attempt has the same to ask with as the first.
-/

namespace NodeGateway.Execution

/-- A **client** of an execution node. -/
structure Client (σ : Type) where
  codeAt : Address → BlockId → Asking σ Bytes
  callContract : CallRequest → BlockId → Asking σ Bytes
  headerByHash : Hash → Asking σ (Option Header)
  headerByNumber : BlockNumber → Asking σ (Option Header)
  pendingCodeAt : Address → Asking σ Bytes
  pendingNonceAt : Address → Asking σ Nat
  suggestGasPrice : Asking σ Nat
  suggestGasTipCap : Asking σ Nat
  estimateGas : CallRequest → Asking σ Nat
  sendTransaction : Broadcast → Asking σ Unit
  filterLogs : LogFilter → Asking σ (List LogEntry)
  transactionReceipt : Hash → Asking σ (Option Receipt)
  blockNumber : Asking σ Nat
  balanceAt : Address → BlockId → Asking σ Nat
  transactionByHash : Hash → Asking σ (Option KnownTransaction)
  nonceAt : Address → BlockId → Asking σ Nat
  syncProgress : Asking σ (Option SyncProgress)
  chainId : Asking σ Nat

namespace Client

/-- Calls the method of a request with its arguments. -/
def invoke (client : Client σ) : (request : Request) → Asking σ request.method.Answer
  | .code account block => client.codeAt account block
  | .call call block => client.callContract call block
  | .headerByHash hash => client.headerByHash hash
  | .headerByNumber number => client.headerByNumber number
  | .pendingCode account => client.pendingCodeAt account
  | .pendingNonce account => client.pendingNonceAt account
  | .gasPrice => client.suggestGasPrice
  | .gasTip => client.suggestGasTipCap
  | .estimateGas call => client.estimateGas call
  | .sendTransaction transaction => client.sendTransaction transaction
  | .logs filter => client.filterLogs filter
  | .receipt hash => client.transactionReceipt hash
  | .blockNumber => client.blockNumber
  | .balance account block => client.balanceAt account block
  | .transaction hash => client.transactionByHash hash
  | .nonce account block => client.nonceAt account block
  | .syncProgress => client.syncProgress
  | .chainId => client.chainId

/-- The client that answers each request in its own way. -/
def ofResponder (respond : (request : Request) → Asking σ request.method.Answer) : Client σ where
  codeAt account block := respond (.code account block)
  callContract call block := respond (.call call block)
  headerByHash hash := respond (.headerByHash hash)
  headerByNumber number := respond (.headerByNumber number)
  pendingCodeAt account := respond (.pendingCode account)
  pendingNonceAt account := respond (.pendingNonce account)
  suggestGasPrice := respond .gasPrice
  suggestGasTipCap := respond .gasTip
  estimateGas call := respond (.estimateGas call)
  sendTransaction transaction := respond (.sendTransaction transaction)
  filterLogs filter := respond (.logs filter)
  transactionReceipt hash := respond (.receipt hash)
  blockNumber := respond .blockNumber
  balanceAt account block := respond (.balance account block)
  transactionByHash hash := respond (.transaction hash)
  nonceAt account block := respond (.nonce account block)
  syncProgress := respond .syncProgress
  chainId := respond .chainId

end Client

/-- The **manager** of two clients: a wrapper for each method. -/
def manager (clients : Clients (Client σ) σ) : Client (Pool × σ) where
  codeAt account block := clients.dispatch fun client => client.codeAt account block
  callContract call block := clients.dispatch fun client => client.callContract call block
  headerByHash hash := clients.dispatch fun client => client.headerByHash hash
  headerByNumber number := clients.dispatch fun client => client.headerByNumber number
  pendingCodeAt account := clients.dispatch fun client => client.pendingCodeAt account
  pendingNonceAt account := clients.dispatch fun client => client.pendingNonceAt account
  suggestGasPrice := clients.dispatch fun client => client.suggestGasPrice
  suggestGasTipCap := clients.dispatch fun client => client.suggestGasTipCap
  estimateGas call := clients.dispatch fun client => client.estimateGas call
  sendTransaction transaction :=
    clients.dispatch fun client => client.sendTransaction transaction
  filterLogs filter := clients.dispatch fun client => client.filterLogs filter
  transactionReceipt hash := clients.dispatch fun client => client.transactionReceipt hash
  blockNumber := clients.dispatch fun client => client.blockNumber
  balanceAt account block := clients.dispatch fun client => client.balanceAt account block
  transactionByHash hash := clients.dispatch fun client => client.transactionByHash hash
  nonceAt account block := clients.dispatch fun client => client.nonceAt account block
  syncProgress := clients.dispatch fun client => client.syncProgress
  chainId := clients.dispatch fun client => client.chainId

/-- The **port** of execution nodes. -/
def port : Port interface where
  clientType := clientType
  Client := Client
  invoke := Client.invoke
  ofResponder := Client.ofResponder
  manager := manager

end NodeGateway.Execution
