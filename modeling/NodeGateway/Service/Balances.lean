import NodeGateway.Json.Access
import NodeGateway.Service.AddressList
import NodeGateway.Service.Backend
import NodeGateway.Service.Response
import NodeGateway.Url.Form

/-!
# Balances

The balances of a list of addresses, one for each address and in its order. They are read through
the multicall contract, which can be asked for the balance of an address as for anything else. A
list with a piece that is no address is refused before anybody is asked, and one balance that cannot
be read spoils the whole answer.
-/

namespace NodeGateway.Service

/-- The **balance** of an address. -/
structure Balance where
  address : Address
  balance : Nat
  deriving DecidableEq, Repr

namespace Balance

/-- The JSON form of a balance. -/
def toJson (b : Balance) : Json :=
  .obj [("address", .fixed b.address), ("balance", .str (Hex.quantity b.balance))]

/-- The function that gives the balance of an address. -/
def function : AbiFunction := { selector := Bytes.ofNat 4 0x4d2301cc, inputs := .ofList [.address] }

/-- What the function returns. -/
def returned : AbiTypes := .ofList [.uint 256]

/-- The call for the balance of an address. -/
def call (contract address : Address) : ContractCall :=
  { target := contract, data := function.callData (address, ()) }

/-- The balance of an address from the result of its call. -/
def ofResult [Wording] (address : Address) (result : CallResult) : Outcome Balance :=
  (result.decode returned).map fun values => ⟨address, values.1⟩

/-- The **balances** of some addresses, asked for through a client. -/
def gather [Wording] (queries : QuerySettings) (client : Query.Client σ) (addresses : List Address)
    (state : σ) : Outcome (List Balance) × σ :=
  let calls := addresses.map (call queries.contract)
  let queried := Query.all queries (.number (.tag .latest)) client calls state
  (queried.outcome.bind fun results => (addresses.zip results).mapM fun (address, result) =>
    ofResult address result, queried.state)

end Balance

/-- The response with the balances of the addresses in a text, asked for through a client. -/
def balancesOf [Wording] (queries : QuerySettings) (client : Query.Client σ) (addresses : String)
    (state : σ) : Response × σ :=
  match AddressList.read addresses with
  | .error problem => (.ofProblem problem, state)
  | .ok addresses =>
    let (outcome, state) := Balance.gather queries client addresses state
    (.ofResult (Json.list Balance.toJson) (outcome.mapError Problem.ofFault), state)

/-- The response with the balances that a query asks for. -/
def balances [Wording] (backend : Backend σ τ ω) (query : List Char) (state : State σ τ ω) :
    Response × State σ τ ω :=
  match Form.single? "addresses" (Form.read query) with
  | some addresses => balancesOf backend.queries backend.client addresses state
  | none => (.unreadableQuery query, state)

end NodeGateway.Service
