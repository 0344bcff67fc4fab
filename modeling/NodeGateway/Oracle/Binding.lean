import NodeGateway.Http.Exchange
import NodeGateway.Json.Number
import NodeGateway.Json.Record
import NodeGateway.Number.Decimal
import NodeGateway.Oracle.Error
import NodeGateway.Oracle.Price
import NodeGateway.Text.Blank

/-!
# The Binding to Gas Oracles

A gas oracle answers with a status, a message and a result. The status `1` goes with a result that
holds three prices; with any other status the oracle has **rejected** the request, and its message
and a textual result say why. All numbers are quoted, and blanks around them do not count.

## Main definitions

* `OracleAnswer`, and `OracleAnswer.prices`, what follows from it;
* `OracleAnswer.read?`, which takes a document apart;
* `Oracle.ofResponse` and `Oracle.call`.
-/

namespace NodeGateway

/-- The **result** that an oracle sends. -/
inductive OracleResult where
  | prices (prices : GasPrices)
  | message (text : String)
  deriving DecidableEq, Repr

/-- The **answer** of an oracle. -/
structure OracleAnswer where
  status : Nat
  message : String
  result : OracleResult
  deriving DecidableEq, Repr

namespace Json

/-- Reads a quoted number, given how the text between the blanks is read. -/
def quoted? (read : List Char → Option α) (value : Json) : Option α :=
  value.text?.bind fun text => read (Text.trim text.toList)

mutual

/-- Whether every text and every number in a document has a value. -/
def isMeaningful : Json → Bool
  | .null | .bool _ => true
  | .number token => (numberValue? token).isSome
  | .string text => text.isSome
  | .array items => areMeaningful items
  | .object members => membersMeaningful members
  | .scrap _ => false

/-- Whether every item of a list is meaningful. -/
def areMeaningful : List Json → Bool
  | [] => true
  | item :: items => item.isMeaningful && areMeaningful items

/-- Whether every member of an object is meaningful. -/
def membersMeaningful : List (Option String × Json) → Bool
  | [] => true
  | (name, value) :: members => name.isSome && value.isMeaningful && membersMeaningful members

end

mutual

/-- How deeply lists and objects are nested in a document. -/
def nesting : Json → Nat
  | .null | .bool _ | .number _ | .string _ | .scrap _ => 0
  | .array items => nestingOfItems items + 1
  | .object members => nestingOfMembers members + 1

/-- How deeply they are nested in any item of a list. -/
def nestingOfItems : List Json → Nat
  | [] => 0
  | item :: items => max item.nesting (nestingOfItems items)

/-- How deeply they are nested in any member of an object. -/
def nestingOfMembers : List (Option String × Json) → Nat
  | [] => 0
  | (_, value) :: members => max value.nesting (nestingOfMembers members)

end

/-- The deepest nesting of a value that can be kept, below the object that it is a member of. -/
def greatestNesting : Nat := 126

/-- Whether a value can be **kept**, so that it can be read in more than one way. -/
def isKept (value : Json) : Bool := value.isMeaningful && value.nesting ≤ greatestNesting

end Json

/-- Reads three prices. -/
def GasPrices.read? (value : Json) : Option GasPrices := do
  match ← value.neededValues? ["SafeGasPrice", "ProposeGasPrice", "FastGasPrice"] with
  | [slow, standard, fast] =>
    return { slow := ← slow.quoted? Decimal.read?, standard := ← standard.quoted? Decimal.read?
             fast := ← fast.quoted? Decimal.read? }
  | _ => none

/-- Reads a result, which has to be kept: prices, or else a message. -/
def OracleResult.read? (value : Json) : Option OracleResult :=
  if value.isKept then
    match GasPrices.read? value with
    | some found => some (.prices found)
    | none => value.text?.map .message
  else none

namespace OracleAnswer

/-- The status of a request that was granted. -/
def granted : Nat := 1

/-- Reads the answer of an oracle. -/
def read? (value : Json) : Option OracleAnswer := do
  match ← value.neededValues? ["status", "message", "result"] with
  | [status, message, result] =>
    return { status := ← status.quoted? (Numeral.unsigned? Numeral.bound64)
             message := ← message.text?, result := ← OracleResult.read? result }
  | _ => none

/-- Why the oracle rejected a request. -/
def rejection (answer : OracleAnswer) : String :=
  match answer.result with
  | .message text => answer.message ++ ": " ++ text
  | .prices _ => answer.message

/-- The **prices** that an answer gives. -/
def prices (answer : OracleAnswer) : Except OracleError GasPrices :=
  if answer.status = granted then
    match answer.result with
    | .prices prices => .ok prices
    | .message _ => .error (.other "gas oracle returned no prices")
  else .error (.rejected answer.rejection)

/-- What is complained about a document that is no answer. -/
def complaint (document : Option Json) : String :=
  ((document.map Complaint.ofValue).getD .unquoted).message

end OracleAnswer

namespace Oracle

/-- The URL of a public oracle that can be asked without a key. -/
def defaultUrl : String := "https://api.etherscan.io/api?module=gastracker&action=gasoracle"

/-- The name under which requests to an oracle are guarded. -/
def guardName : String := "gasoracle"

/-- Reads the **response** of an oracle. -/
def ofResponse (response : Http.Response) : Except OracleError GasPrices :=
  if Http.isSuccess response.status then
    match response.decode OracleAnswer.read? OracleAnswer.complaint with
    | .ok answer => answer.prices
    | .error failure => .error (.ofFailure failure)
  else .error (.status response.status)

/-- The fault that the failure of a transport amounts to. -/
def transportFault (failure : Http.Failure) : Fault := (OracleError.ofFailure failure).toFault

/-- **Asks** the oracle at a URL for its prices. -/
def call (network : Http.Network σ) (url : Url) (state : σ) : Outcome GasPrices × σ :=
  let (reply, state) := network { url } state
  (reply.outcome guardName url transportFault
    (fun response => (ofResponse response).mapError OracleError.toFault), state)

end Oracle

end NodeGateway
