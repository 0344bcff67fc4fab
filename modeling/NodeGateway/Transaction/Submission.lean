import NodeGateway.Oracle.Price
import NodeGateway.Transaction.Simulation

/-!
# Submitting Transactions

A **submission** is a simulated draft with the gas limit that it will be sent with. Submissions are
created one after another (`Submission.createAll`), and sent by `Submission.execute`: it asks the
node for whatever the caller has not fixed, in a fixed order, has the transaction signed, and
broadcasts last. Nothing is said here about signatures, only that a wallet may refuse to sign.
-/

namespace NodeGateway

/-- A transaction that is **ready to be sent**. -/
structure Submission where
  info : TransactionInfo
  gasLimit : Nat
  deriving DecidableEq, Repr

/-- The submission of a simulated draft, with its safe gas limit. -/
def Submission.ofInfo (info : TransactionInfo) : Submission := ⟨info, info.simulation.safeGas⟩

/-- What the caller fixes instead of asking the node. -/
structure SendOptions where
  nonce : Option Nat := none
  maxFee : Option Nat := none
  tip : Option Nat := none
  deriving DecidableEq, Repr

/-- Takes the maximal fee from an oracle's suggestion. -/
def SendOptions.withSuggestedMaxFee (prices : GasPrices) (speed : GasSpeed)
    (options : SendOptions) : SendOptions :=
  { options with maxFee := some (prices.maxFee speed) }

/-- A **wallet**: the account that it signs for, and why it refuses to sign a transaction, if it
does. -/
structure Wallet where
  account : Address
  refusal : Execution.SignedTransaction → Option String := fun _ => none

/-- The wallet of an account that signs whatever it is given. -/
instance : Coe Address Wallet := ⟨fun account => { account }⟩

/-- A value that is fixed, or else asked for. -/
def Inquiry.orAsk (fixed : Option α) (ask : Inquiry I α) : Inquiry I α :=
  match fixed with
  | some value => pure value
  | none => ask

namespace Submission

/-- The maximal fee for a base fee and a tip: twice the base fee and the tip, cut to 128 bits. -/
def feeFor (baseFee tip : Nat) : Nat :=
  Numeral.clamp Numeral.bound128 (Numeral.clamp Numeral.bound128 (2 * baseFee) + tip)

/-- The fault of a latest block from which no fee can be derived. -/
def noBaseFee : Fault := .other "latest block carries no base fee"

/-- Asks for the latest block and derives the maximal fee from it. -/
def suggestMaxFee (tip : Nat) : Inquiry Execution.interface Nat := do
  let header ← Inquiry.request (I := Execution.interface) (.headerByNumber (.tag .latest))
  match header.bind (·.baseFee) with
  | some baseFee => return feeFor baseFee tip
  | none => throw noBaseFee

/-- Asks the node for what the caller has not fixed and **prepares** the transaction that is to be
sent from the account of a wallet. -/
def prepare (wallet : Wallet) (options : SendOptions) (submission : Submission) :
    Inquiry Execution.interface Execution.SignedTransaction := do
  let nonce ← Inquiry.orAsk options.nonce
    (Inquiry.request (I := Execution.interface) (.pendingNonce wallet.account))
  let tip ← Inquiry.orAsk options.tip (Inquiry.request (I := Execution.interface) .gasTip)
  let maxFee ← Inquiry.orAsk options.maxFee (suggestMaxFee tip)
  let chainId ← Inquiry.request (I := Execution.interface) .chainId
  let draft := submission.info.draft
  return { chainId, nonce, gasLimit := submission.gasLimit, maxFee, tip, target := draft.target,
           value := draft.value, input := draft.data, signer := wallet.account }

/-- The fault of a transaction that could not be signed. -/
def signingFault (reason : String) : Fault := .other ("failed to sign transaction: " ++ reason)

/-- Has a transaction signed and **broadcasts** it. -/
def broadcast (wallet : Wallet) (transaction : Execution.SignedTransaction) :
    Inquiry Execution.interface Execution.SignedTransaction :=
  match wallet.refusal transaction with
  | some reason => throw (signingFault reason)
  | none => do
    Inquiry.request (I := Execution.interface) (.sendTransaction (.signed transaction))
    return transaction

/-- **Sends** a submission from the account of a wallet. The result is the transaction that was
broadcast. -/
def execute (wallet : Wallet) (options : SendOptions) (submission : Submission) :
    Inquiry Execution.interface Execution.SignedTransaction := do
  broadcast wallet (← submission.prepare wallet options)

/-- What the creation of one of several submissions is called in faults. -/
def creationContext (description : String) : String := "error creating " ++ description ++ " TX"

/-- The fault of a submission whose simulation failed. -/
def simulationFault (description reason : String) : Fault :=
  .other ("error simulating " ++ description ++ " TX: " ++ reason)

/-- The submission that a creator's outcome amounts to. With `strict`, a failed simulation is a
fault. -/
def ofOutcome (strict : Bool) (description : String) (outcome : Outcome TransactionInfo) :
    Outcome Submission :=
  match outcome with
  | .error fault => .error (fault.withContext (creationContext description))
  | .ok info =>
    match info.simulation.failure with
    | some reason =>
      if strict then .error (simulationFault description reason) else .ok (ofInfo info)
    | none => .ok (ofInfo info)

/-- **Creates submissions** one after another and stops at the first that cannot be had. Every
creator comes with a description for the faults. -/
def createAll (strict : Bool) :
    List (String × Inquiry I TransactionInfo) → Inquiry I (List Submission)
  | [] => pure []
  | (description, creator) :: rest => do
    let submission ← ExceptT.mk (creator.outcome.bind fun outcome =>
      .done (ofOutcome strict description outcome))
    let submissions ← createAll strict rest
    return submission :: submissions

end Submission

end NodeGateway
