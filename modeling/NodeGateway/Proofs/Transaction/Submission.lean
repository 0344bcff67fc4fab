import NodeGateway.Proofs.Node.Dialogue
import NodeGateway.Transaction.Submission

/-!
# What Is Broadcast, and When

A submission is sent after the node has been asked for what the caller has not fixed. A transaction
that goes out with a wrong nonce or fee, or after one of these requests has failed, cannot be taken
back. So what is said here is about the **exchanges** with the node, whoever answers: a single node,
a pool of two, or anybody else.

The questions are known beforehand from the options (`Submission.questions`), and an exchange can
fail in two ways, by its outcome or because the latest block has no base fee (`Submission.Fails`).
Preparing a transaction asks these questions and nothing else, stops at the first exchange that
fails, and ends with a transaction whose every field is accounted for by the submission, the options
or one of the answers (`Submission.Prepared`). Only then it is signed and broadcast.

## Main results

* `Submission.feeFor_eq`: the maximal fee is cut once, at the end;
* `Submission.asks_prepare`: preparing asks the questions and accounts for the transaction;
* `Submission.sent_execute`: the three ways in which sending ends;
* `Submission.course_of_execute`: what follows for failures, for the broadcast and for the fees.
-/

namespace NodeGateway

/-- Some questions, unless the value that they are asked for is **fixed**. -/
def Inquiry.unlessFixed (fixed : Option α) (questions : List ρ) : List ρ :=
  if fixed.isSome then [] else questions

theorem Inquiry.mem_of_mem_unlessFixed {fixed : Option α} {questions : List ρ} {question : ρ}
    (h : question ∈ unlessFixed fixed questions) : question ∈ questions := by
  unfold unlessFixed at h
  split at h
  · cases h
  · exact h

/-- A value that is fixed is not asked for. -/
theorem Inquiry.Asks.orAsk {Fails : Exchange I → Fault → Prop} {questions : List I.Request}
    {ask : Inquiry I α} {Post : List (Exchange I) → α → Prop} (h : Asks Fails questions ask Post)
    (fixed : Option α) :
    Asks Fails (unlessFixed fixed questions) (orAsk fixed ask) fun exchanged value =>
      fixed = some value ∨ fixed = none ∧ Post exchanged value := by
  cases fixed with
  | some value =>
      refine Asks.imp (Asks.pure value) ?_
      rintro exchanged result ⟨-, rfl⟩
      exact .inl rfl
  | none => exact h.imp fun _ _ hpost => .inr ⟨rfl, hpost⟩

namespace Submission

open Inquiry (unlessFixed Asks Stopped Completed)

/-! ### Fees -/

/-- Twice the base fee need not be cut before the tip is added. -/
theorem feeFor_eq (baseFee tip : Nat) :
    feeFor baseFee tip = min (Numeral.bound128 - 1) (2 * baseFee + tip) := by
  unfold feeFor Numeral.clamp
  omega

/-! ### Preparing -/

/-- An exchange **fails** with a fault if the request has ended in it, or if it has brought up a
latest block from which no fee can be derived. -/
inductive Fails : Exchange Execution.interface → Fault → Prop
  | fault {request : Execution.interface.Request} {fault : Fault} :
      Fails ⟨request, .error fault⟩ fault
  | noBaseFee {header : Option Execution.Header} (h : header.bind (·.baseFee) = none) :
      Fails ⟨.headerByNumber (.tag .latest), .ok header⟩ noBaseFee

/-- The **questions** that are asked before a submission is sent, in their order. -/
def questions (wallet : Wallet) (options : SendOptions) : List Execution.interface.Request :=
  unlessFixed options.nonce [.pendingNonce wallet.account] ++ unlessFixed options.tip [.gasTip] ++
    unlessFixed options.maxFee [.headerByNumber (.tag .latest)] ++ [.chainId]

/-- A transaction is **prepared** from some exchanges: each of its fields is what the submission
says, what the caller has fixed, or what the node has answered. -/
structure Prepared (wallet : Wallet) (options : SendOptions) (submission : Submission)
    (exchanged : List (Exchange Execution.interface)) (transaction : Execution.SignedTransaction) :
    Prop where
  signer : transaction.signer = wallet.account
  target : transaction.target = submission.info.draft.target
  input : transaction.input = submission.info.draft.data
  value : transaction.value = submission.info.draft.value
  gasLimit : transaction.gasLimit = submission.gasLimit
  nonce : options.nonce = some transaction.nonce ∨
    options.nonce = none ∧ ⟨.pendingNonce wallet.account, .ok transaction.nonce⟩ ∈ exchanged
  tip : options.tip = some transaction.tip ∨
    options.tip = none ∧ ⟨.gasTip, .ok transaction.tip⟩ ∈ exchanged
  maxFee : options.maxFee = some transaction.maxFee ∨
    options.maxFee = none ∧ ∃ header : Execution.Header, ∃ baseFee,
      ⟨.headerByNumber (.tag .latest), .ok (some header)⟩ ∈ exchanged ∧
        header.baseFee = some baseFee ∧
        transaction.maxFee = min (Numeral.bound128 - 1) (2 * baseFee + transaction.tip)
  chainId : ⟨.chainId, .ok transaction.chainId⟩ ∈ exchanged

/-- A maximal fee that is derived fits into 128 bits, and is not below a tip that does. -/
theorem Prepared.maxFee_bounds {wallet : Wallet} {options : SendOptions} {submission : Submission}
    {exchanged : List (Exchange Execution.interface)} {transaction : Execution.SignedTransaction}
    (h : Prepared wallet options submission exchanged transaction) (hfee : options.maxFee = none) :
    transaction.maxFee < Numeral.bound128 ∧
      (transaction.tip < Numeral.bound128 → transaction.tip ≤ transaction.maxFee) := by
  have hpositive : 0 < Numeral.bound128 := by decide
  rcases h.maxFee with hfixed | ⟨-, header, baseFee, -, -, hderived⟩
  · rw [hfee] at hfixed
    cases hfixed
  · omega

/-- Deriving a fee asks for the latest block, and fails without a base fee. -/
theorem asks_suggestMaxFee (tip : Nat) :
    Asks Fails [.headerByNumber (.tag .latest)] (suggestMaxFee tip) fun exchanged maxFee =>
      ∃ header : Execution.Header, ∃ baseFee,
        ⟨.headerByNumber (.tag .latest), .ok (some header)⟩ ∈ exchanged ∧
          header.baseFee = some baseFee ∧ maxFee = feeFor baseFee tip := by
  refine Asks.judge (fun _ => .fault) fun answer => ?_
  cases hfee : answer.bind (·.baseFee) with
  | none => exact .inl ⟨noBaseFee, rfl, .noBaseFee hfee⟩
  | some baseFee =>
      obtain ⟨header, rfl, hbase⟩ := Option.bind_eq_some_iff.mp hfee
      refine .inr ⟨feeFor baseFee tip, rfl, ?_, header, baseFee, by simp, hbase, rfl⟩
      rintro _ (_ | hnone)
      rw [hfee] at hnone
      cases hnone

/-- All that can fail about a request for something other than the latest block is the request. -/
theorem fails_iff {question : Execution.interface.Request}
    (h : question ≠ .headerByNumber (.tag .latest))
    (outcome : Outcome (Execution.interface.Reply question)) (fault : Fault) :
    Fails ⟨question, outcome⟩ fault ↔ outcome = .error fault := by
  constructor
  · rintro (_ | _)
    · rfl
    · exact absurd rfl h
  · rintro rfl
    exact .fault

/-- **Preparing** a transaction asks the questions in their order, and accounts for every field. -/
theorem asks_prepare (wallet : Wallet) (options : SendOptions) (submission : Submission) :
    Asks Fails (questions wallet options) (submission.prepare wallet options)
      (Prepared wallet options submission) := by
  -- each step of the text asks its own question, so the list is bracketed to the right
  have hquestions : questions wallet options =
      unlessFixed options.nonce [.pendingNonce wallet.account] ++
        (unlessFixed options.tip [.gasTip] ++
          (unlessFixed options.maxFee [.headerByNumber (.tag .latest)] ++ ([.chainId] ++ []))) := by
    simp only [questions, List.append_assoc, List.append_nil]
  rw [hquestions]
  have askNonce : Asks Fails [.pendingNonce wallet.account] _ _ := Asks.request (fails_iff nofun)
  have askTip : Asks Fails [.gasTip] _ _ := Asks.request (fails_iff nofun)
  have askChain : Asks Fails [.chainId] _ _ := Asks.request (fails_iff nofun)
  refine Asks.imp (Asks.bind (askNonce.orAsk options.nonce) fun nonce =>
    Asks.bind (askTip.orAsk options.tip) fun tip =>
      Asks.bind ((asks_suggestMaxFee tip).orAsk options.maxFee) fun maxFee =>
        Asks.bind askChain fun chainId => Asks.pure _) ?_
  rintro exchanged transaction ⟨nonce, forNonce, _, rfl, hnonce, tip, forTip, _, rfl, htip,
    maxFee, forFee, _, rfl, hfee, chainId, forChain, _, rfl, rfl, rfl, rfl⟩
  refine ⟨rfl, rfl, rfl, rfl, rfl, ?_, ?_, ?_, by simp⟩
  · rcases hnonce with hfixed | ⟨hasked, rfl⟩
    · exact .inl hfixed
    · exact .inr ⟨hasked, by simp⟩
  · rcases htip with hfixed | ⟨hasked, rfl⟩
    · exact .inl hfixed
    · exact .inr ⟨hasked, by simp⟩
  · rcases hfee with hfixed | ⟨hasked, header, baseFee, hmem, hbase, rfl⟩
    · exact .inl hfixed
    · exact .inr ⟨hasked, header, baseFee, by simp [hmem], hbase, feeFor_eq baseFee tip⟩

/-! ### Broadcasting -/

section

variable {wallet : Wallet} {transaction : Execution.SignedTransaction} {state : σ}
  {respond : (request : Execution.interface.Request) → σ →
    Outcome (Execution.interface.Reply request) × σ}

/-- A transaction that the wallet refuses to sign is not broadcast. -/
theorem broadcast_of_refusal {reason : String} (h : wallet.refusal transaction = some reason) :
    broadcast wallet transaction = throw (signingFault reason) := by
  rw [broadcast, h]

theorem run_broadcast (h : wallet.refusal transaction = none) :
    ((broadcast wallet transaction).run respond state).1 =
      (respond (.sendTransaction (.signed transaction)) state).1.map fun _ => transaction := by
  rw [broadcast, h]
  exact Inquiry.run_request_return _ transaction state

/-- A transaction that is signed is broadcast by one request. -/
theorem exchanges_broadcast (h : wallet.refusal transaction = none) :
    (broadcast wallet transaction).exchanges respond state =
      [⟨.sendTransaction (.signed transaction),
        (respond (.sendTransaction (.signed transaction)) state).1⟩] := by
  rw [broadcast, h]
  exact Inquiry.exchanges_request_return _ transaction state

end

/-- How **sending** ends. -/
inductive Sent (wallet : Wallet) (options : SendOptions) (submission : Submission) :
    List (Exchange Execution.interface) → Outcome Execution.SignedTransaction → Prop
  /-- A question has failed, and nothing is broadcast. -/
  | stopped {exchanged : List (Exchange Execution.interface)} {fault : Fault}
      (stopped : Stopped Fails (questions wallet options) exchanged fault) :
      Sent wallet options submission exchanged (.error fault)
  /-- The wallet has refused to sign, and nothing is broadcast. -/
  | unsigned {exchanged : List (Exchange Execution.interface)}
      {transaction : Execution.SignedTransaction} {reason : String}
      (completed : Completed Fails (questions wallet options) exchanged)
      (prepared : Prepared wallet options submission exchanged transaction)
      (refused : wallet.refusal transaction = some reason) :
      Sent wallet options submission exchanged (.error (signingFault reason))
  /-- The transaction is broadcast, and the outcome of this last request decides. -/
  | broadcast {exchanged : List (Exchange Execution.interface)}
      {transaction : Execution.SignedTransaction} {reply : Outcome Unit}
      (completed : Completed Fails (questions wallet options) exchanged)
      (prepared : Prepared wallet options submission exchanged transaction)
      (signed : wallet.refusal transaction = none) :
      Sent wallet options submission
        (exchanged ++ [⟨.sendTransaction (.signed transaction), reply⟩])
        (reply.map fun _ => transaction)

/-- **Sending** ends in one of three ways, whoever answers. -/
theorem sent_execute {σ : Type} (wallet : Wallet) (options : SendOptions) (submission : Submission)
    (respond : (request : Execution.interface.Request) → σ →
      Outcome (Execution.interface.Reply request) × σ) (state : σ) :
    Sent wallet options submission
      ((submission.execute wallet options).exchanges respond state)
      ((submission.execute wallet options).run respond state).1 := by
  rcases hrun : (submission.prepare wallet options).run respond state with ⟨outcome, after⟩
  have hends := asks_prepare wallet options submission σ respond state
  rw [hrun] at hends
  unfold execute
  generalize hexchanged : (submission.prepare wallet options).exchanges respond state = exchanged
    at hends
  cases hends with
  | stopped hstopped =>
      rw [Inquiry.run_bind_of_error hrun, Inquiry.exchanges_bind_of_error hrun, hexchanged]
      exact .stopped hstopped
  | @completed transaction hcompleted hprepared =>
      rw [Inquiry.run_bind_of_ok hrun, Inquiry.exchanges_bind_of_ok hrun, hexchanged]
      cases hrefusal : wallet.refusal transaction with
      | some reason =>
          rw [broadcast_of_refusal hrefusal, Inquiry.run_throw, Inquiry.exchanges_throw,
            List.append_nil]
          exact .unsigned hcompleted hprepared hrefusal
      | none =>
          rw [run_broadcast hrefusal, exchanges_broadcast hrefusal]
          exact .broadcast hcompleted hprepared hrefusal

/-! ### What follows -/

/-- Whether an exchange **broadcasts** a transaction. -/
def isBroadcast (exchange : Exchange Execution.interface) : Bool :=
  Execution.Request.method exchange.request = .sendTransaction

/-- An exchange fails with one fault at most. -/
theorem Fails.unique {exchange : Exchange Execution.interface} {fault other : Fault}
    (h : Fails exchange fault) (hother : Fails exchange other) : fault = other := by
  cases h with
  | fault => cases hother with | fault => rfl
  | noBaseFee => cases hother with | noBaseFee => rfl

/-- No question broadcasts anything. -/
theorem isBroadcast_of_asked {wallet : Wallet} {options : SendOptions}
    {exchanged : List (Exchange Execution.interface)}
    (h : exchanged.map (·.request) <+: questions wallet options) :
    ∀ exchange ∈ exchanged, isBroadcast exchange = false := by
  have hquestions : ∀ question ∈ questions wallet options,
      Execution.Request.method question ≠ .sendTransaction := by
    intro question hmem
    simp only [questions, List.mem_append] at hmem
    rcases hmem with ((hnonce | htip) | hfee) | hchain
    · rw [List.mem_singleton.mp (Inquiry.mem_of_mem_unlessFixed hnonce)]
      exact nofun
    · rw [List.mem_singleton.mp (Inquiry.mem_of_mem_unlessFixed htip)]
      exact nofun
    · rw [List.mem_singleton.mp (Inquiry.mem_of_mem_unlessFixed hfee)]
      exact nofun
    · rw [List.mem_singleton.mp hchain]
      exact nofun
  intro exchange hmem
  exact decide_eq_false (hquestions _ (h.subset (List.mem_map_of_mem hmem)))

/-- If only the last of some exchanges can fail, one that fails is the last. -/
theorem last_of_fails {kept before behind : List (Exchange Execution.interface)}
    {last exchange : Exchange Execution.interface} {fault : Fault}
    (hkept : ∀ exchange ∈ kept, ∀ fault, ¬ Fails exchange fault) (hfails : Fails exchange fault)
    (h : kept ++ [last] = before ++ exchange :: behind) :
    kept = before ∧ last = exchange ∧ behind = [] := by
  rcases List.eq_nil_or_concat behind with rfl | ⟨init, final, rfl⟩
  · obtain ⟨rfl, hlast⟩ := List.append_inj' h rfl
    exact ⟨rfl, List.head_eq_of_cons_eq hlast, rfl⟩
  · have hshift : kept ++ [last] = (before ++ exchange :: init) ++ [final] := by
      rw [h]
      simp
    obtain ⟨rfl, -⟩ := List.append_inj' hshift rfl
    exact absurd hfails (hkept exchange (by simp) fault)

namespace Sent

variable {wallet : Wallet} {options : SendOptions} {submission : Submission}
  {exchanged : List (Exchange Execution.interface)} {outcome : Outcome Execution.SignedTransaction}

/-- The requests are the first of the questions, or all of them and the broadcast. -/
theorem requests (h : Sent wallet options submission exchanged outcome) :
    exchanged.map (·.request) <+: questions wallet options ∨ ∃ transaction,
      exchanged.map (·.request) =
        questions wallet options ++ [.sendTransaction (.signed transaction)] := by
  cases h with
  | stopped hstopped => exact .inl hstopped.asked
  | unsigned hcompleted => exact .inl hcompleted.asked_le
  | @broadcast _ transaction reply hcompleted =>
      refine .inr ⟨transaction, ?_⟩
      rw [List.map_append, hcompleted.asked]
      rfl

/-- The first exchange that fails is the last, and its fault is the result. -/
theorem of_fails (h : Sent wallet options submission exchanged outcome)
    {before behind : List (Exchange Execution.interface)}
    {exchange : Exchange Execution.interface} {fault : Fault} (hfails : Fails exchange fault)
    (hexchanged : exchanged = before ++ exchange :: behind) :
    behind = [] ∧ outcome = .error fault ∧ ∀ other ∈ before, isBroadcast other = false := by
  cases h with
  | stopped hstopped =>
      obtain ⟨kept, last, rfl, hlast, hkept⟩ := hstopped.failed
      obtain ⟨rfl, rfl, rfl⟩ := last_of_fails hkept hfails hexchanged
      refine ⟨rfl, by rw [hlast.unique hfails], fun other hmem => ?_⟩
      exact isBroadcast_of_asked hstopped.asked other (List.mem_append_left _ hmem)
  | unsigned hcompleted =>
      exact absurd hfails (hcompleted.kept exchange (by simp [hexchanged]) fault)
  | broadcast hcompleted =>
      obtain ⟨rfl, rfl, rfl⟩ := last_of_fails hcompleted.kept hfails hexchanged
      cases hfails with
      | fault => exact ⟨rfl, rfl, isBroadcast_of_asked hcompleted.asked_le⟩

/-- A broadcast comes last, behind all questions, and decides. -/
theorem of_isBroadcast (h : Sent wallet options submission exchanged outcome)
    {exchange : Exchange Execution.interface} (hmem : exchange ∈ exchanged)
    (hbroadcast : isBroadcast exchange = true) :
    ∃ asked transaction reply, exchange = ⟨.sendTransaction (.signed transaction), reply⟩ ∧
      exchanged = asked ++ [exchange] ∧ Completed Fails (questions wallet options) asked ∧
      Prepared wallet options submission asked transaction ∧
      outcome = reply.map fun _ => transaction := by
  cases h with
  | stopped hstopped =>
      cases (isBroadcast_of_asked hstopped.asked exchange hmem).symm.trans hbroadcast
  | unsigned hcompleted =>
      cases (isBroadcast_of_asked hcompleted.asked_le exchange hmem).symm.trans hbroadcast
  | @broadcast asked transaction reply hcompleted hprepared =>
      rcases List.mem_append.mp hmem with hasked | hlast
      · cases (isBroadcast_of_asked hcompleted.asked_le exchange hasked).symm.trans hbroadcast
      · obtain rfl := List.mem_singleton.mp hlast
        exact ⟨asked, transaction, reply, rfl, rfl, hcompleted, hprepared, rfl⟩

/-- There is at most one broadcast. -/
theorem countP_isBroadcast_le (h : Sent wallet options submission exchanged outcome) :
    exchanged.countP isBroadcast ≤ 1 := by
  have hnone : ∀ asked : List (Exchange Execution.interface),
      asked.map (·.request) <+: questions wallet options → asked.countP isBroadcast = 0 := by
    intro asked hasked
    exact List.countP_eq_zero.mpr fun exchange hmem =>
      Bool.eq_false_iff.mp (isBroadcast_of_asked hasked exchange hmem)
  cases h with
  | stopped hstopped =>
      rw [hnone _ hstopped.asked]
      exact Nat.zero_le 1
  | unsigned hcompleted =>
      rw [hnone _ hcompleted.asked_le]
      exact Nat.zero_le 1
  | broadcast hcompleted =>
      rw [List.countP_append, hnone _ hcompleted.asked_le, Nat.zero_add]
      exact List.countP_le_length

/-- The result is a transaction only if it was broadcast with success. -/
theorem of_ok {transaction : Execution.SignedTransaction}
    (h : Sent wallet options submission exchanged (.ok transaction)) :
    exchanged.getLast? = some ⟨.sendTransaction (.signed transaction), .ok ()⟩ := by
  generalize houtcome : Except.ok transaction = outcome at h
  cases h with
  | stopped => cases houtcome
  | unsigned => cases houtcome
  | @broadcast _ _ reply =>
      cases reply with
      | error fault => cases houtcome
      | ok value =>
          cases houtcome
          exact List.getLast?_concat ..

/-- If nothing fails, the transaction is broadcast, or the wallet has refused to sign it. -/
theorem of_kept (h : Sent wallet options submission exchanged outcome)
    (hkept : ∀ exchange ∈ exchanged, ∀ fault, ¬ Fails exchange fault) :
    (∃ transaction, outcome = .ok transaction) ∨ ∃ transaction reason,
      Prepared wallet options submission exchanged transaction ∧
        wallet.refusal transaction = some reason ∧ outcome = .error (signingFault reason) := by
  cases h with
  | stopped hstopped =>
      obtain ⟨before, last, rfl, hlast, -⟩ := hstopped.failed
      exact absurd hlast (hkept last (by simp) _)
  | unsigned _ hprepared hrefused => exact .inr ⟨_, _, hprepared, hrefused, rfl⟩
  | @broadcast _ transaction reply =>
      cases reply with
      | error fault => exact absurd .fault (hkept _ List.mem_concat_self fault)
      | ok value => exact .inl ⟨transaction, rfl⟩

end Sent

/-- **The course of sending a submission**, for every submission, wallet and options, and whoever
answers.

The requests are the questions in their order, of which those about a fixed value are left out, and
behind all of them the broadcast. The first exchange that fails is the last; its fault is the
result, and nothing has been broadcast before. A broadcast comes behind all questions, none of which
has failed; what goes out is accounted for, and the result is the outcome of the broadcast. There is
at most one, and the result is a transaction only if that one was broadcast with success. If nothing
fails, either this is so or the wallet has refused to sign. A maximal fee that is derived is twice
the base fee and the tip, or the greatest number of 128 bits if that is less, so it is never below
the tip. -/
theorem course_of_execute {σ : Type} (wallet : Wallet) (options : SendOptions)
    (submission : Submission) (respond : (request : Execution.interface.Request) → σ →
      Outcome (Execution.interface.Reply request) × σ) (state : σ) :
    let exchanged := (submission.execute wallet options).exchanges respond state
    let outcome := ((submission.execute wallet options).run respond state).1
    (exchanged.map (·.request) <+: questions wallet options ∨ ∃ transaction,
        exchanged.map (·.request) =
          questions wallet options ++ [.sendTransaction (.signed transaction)]) ∧
      (∀ before exchange behind fault, Fails exchange fault →
        exchanged = before ++ exchange :: behind →
          behind = [] ∧ outcome = .error fault ∧ ∀ other ∈ before, isBroadcast other = false) ∧
      (∀ exchange ∈ exchanged, isBroadcast exchange = true → ∃ asked transaction reply,
        exchange = ⟨.sendTransaction (.signed transaction), reply⟩ ∧
          exchanged = asked ++ [exchange] ∧ Completed Fails (questions wallet options) asked ∧
          Prepared wallet options submission asked transaction ∧
          outcome = reply.map fun _ => transaction) ∧
      exchanged.countP isBroadcast ≤ 1 ∧
      (∀ transaction, outcome = .ok transaction →
        exchanged.getLast? = some ⟨.sendTransaction (.signed transaction), .ok ()⟩) ∧
      ((∀ exchange ∈ exchanged, ∀ fault, ¬ Fails exchange fault) →
        (∃ transaction, outcome = .ok transaction) ∨ ∃ transaction reason,
          Prepared wallet options submission exchanged transaction ∧
            wallet.refusal transaction = some reason ∧ outcome = .error (signingFault reason)) ∧
      (∀ asked transaction, Prepared wallet options submission asked transaction →
        options.maxFee = none → transaction.maxFee < Numeral.bound128 ∧
          (transaction.tip < Numeral.bound128 → transaction.tip ≤ transaction.maxFee)) := by
  intro exchanged outcome
  have hsent : Sent wallet options submission exchanged outcome :=
    sent_execute wallet options submission respond state
  refine ⟨hsent.requests, ?_, ?_, hsent.countP_isBroadcast_le, ?_, hsent.of_kept, ?_⟩
  · intro before exchange behind fault hfails hexchanged
    exact hsent.of_fails hfails hexchanged
  · intro exchange hmem hbroadcast
    exact hsent.of_isBroadcast hmem hbroadcast
  · intro transaction houtcome
    rw [houtcome] at hsent
    exact hsent.of_ok
  · intro asked transaction hprepared hfee
    exact hprepared.maxFee_bounds hfee

end Submission

end NodeGateway
