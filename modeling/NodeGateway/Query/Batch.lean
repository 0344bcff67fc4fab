import NodeGateway.Query.Multicall
import NodeGateway.Query.Window

/-!
# Batched Queries

A long list of contract calls is cut into **batches**, each batch is packed into one request, and
the requests go through a window. The results of all batches, put together again, are one result
for each call in the order of the calls.
-/

namespace NodeGateway

/-- A list cut into pieces of `size` items, the last one perhaps shorter; a size of zero counts as
one. -/
def chunks (size : Nat) (items : List α) : List (List α) :=
  match items with
  | [] => []
  | item :: rest =>
    (item :: rest).take (max size 1) :: chunks size ((item :: rest).drop (max size 1))
termination_by items.length
decreasing_by
  simp only [List.length_drop, List.length_cons]
  omega

/-- The **settings** of queries. -/
structure QuerySettings where
  contract : Address
  limit : Nat
  batchSize : Nat
  deriving Repr

namespace QuerySettings

/-- The batch size that is used where none is configured. -/
def defaultBatchSize : Nat := 100

/-- The settings with a limit and a batch size of at least one. -/
def make (contract : Address) (limit batchSize : Nat) : QuerySettings :=
  ⟨contract, max limit 1, max batchSize 1⟩

end QuerySettings

namespace Query

/-- Who answers calls: told the instant, how many calls are under way, this one included, the call
and the block. -/
abbrev Client (σ : Type) :=
  (now busy : Nat) → Execution.CallRequest → Execution.BlockId → σ → Answer Bytes × σ

/-- Sends one batch. -/
def send [Wording] (contract : Address) (block : Execution.BlockId) (client : Client σ)
    (now busy : Nat) (calls : List ContractCall) (state : σ) : Answer (List CallResult) × σ :=
  let (answer, state) := client now busy (Multicall.request contract calls) block state
  ({ answer with outcome := answer.outcome.bind (Multicall.readAnswer calls) }, state)

/-- Queries batches that have been cut already. -/
def runBatches [Wording] (contract : Address) (block : Execution.BlockId) (limit : Nat)
    (client : Client σ) (batches : List (List ContractCall)) (state : σ) :
    Windowed σ CallResult :=
  let ended := Window.run (send contract block client) limit batches state
  ⟨ended.finish, ended.outcome.map List.flatten, ended.state⟩

/-- Queries all calls in **one request**; no calls need none. -/
def single [Wording] (settings : QuerySettings) (block : Execution.BlockId) (client : Client σ)
    (calls : List ContractCall) (state : σ) : Windowed σ CallResult :=
  runBatches settings.contract block 1 client (if calls.isEmpty then [] else [calls]) state

/-- Queries the calls in **batches** of the given size. -/
def batched [Wording] (settings : QuerySettings) (block : Execution.BlockId) (batchSize : Nat)
    (client : Client σ) (calls : List ContractCall) (state : σ) : Windowed σ CallResult :=
  runBatches settings.contract block settings.limit client (chunks batchSize calls) state

/-- Queries the calls in batches of the configured size. -/
def all [Wording] (settings : QuerySettings) (block : Execution.BlockId) (client : Client σ)
    (calls : List ContractCall) (state : σ) : Windowed σ CallResult :=
  batched settings block settings.batchSize client calls state

end Query

end NodeGateway
