import Mathlib.Data.List.Induction
import NodeGateway.Proofs.Abi.RoundTrip
import NodeGateway.Proofs.Query.Record
import NodeGateway.Service.Balances

/-!
# No Balance Without Its Address

The balances of a list of addresses are made by pairing the addresses with the results of their
calls. Pairing drops what is left over on either side, so the answer is right only because there is
one result for each address and in the order of the addresses, and that is what the record of the
query says (`Query.Record.results`).

Everything that can keep a balance from being read has its place before that: a piece of the list
that is no address, before anything is sent (`AddressList.read_of_refused`); an answer that does not
fit its batch, which is a fault of the network only if no endpoint was reached; and a result that
tells no balance (`CallResult.balance?`), which spoils all.

The main result is `Service.balances_of_addresses`.
-/

namespace NodeGateway

/-! ### Reading the addresses -/

namespace AddressList

/-- The address that a piece is. -/
def address? (piece : List Char) : Option Address := FixedBytes.read? 20 (String.ofList piece)

/-- A list of addresses is read piece by piece. -/
theorem read_of_addresses {text : String} {addresses : List Address}
    (h : (pieces text).map address? = addresses.map some) : read text = .ok addresses := by
  rw [read, mapM_eq_ok_iff]
  have hread : ∀ piece address, address? piece = some address → readPiece piece = .ok address := by
    intro piece address hpiece
    rw [address?] at hpiece
    rw [readPiece, hpiece]
  generalize pieces text = all at h
  induction all generalizing addresses with
  | nil =>
      obtain rfl := List.map_eq_nil_iff.mp h.symm
      rfl
  | cons piece rest ih =>
      cases addresses with
      | nil => cases h
      | cons address addresses =>
          rw [List.map_cons, List.map_cons, List.cons.injEq] at h
          rw [List.map_cons, List.map_cons, hread piece address h.1, ih h.2]

/-- The first piece that is no address is the problem of the list. -/
theorem read_of_refused {text : String} {before after : List (List Char)} {piece : List Char}
    (h : pieces text = before ++ piece :: after)
    (hbefore : ∀ other ∈ before, (address? other).isSome = true)
    (hpiece : address? piece = none) : read text = .error (notAnAddress piece) := by
  rw [read, mapM_eq_error_iff]
  refine ⟨before, piece, after, h, fun other hother => ?_, ?_⟩
  · obtain ⟨address, haddress⟩ := Option.isSome_iff_exists.mp (hbefore other hother)
    rw [address?] at haddress
    exact ⟨address, by rw [readPiece, haddress]⟩
  · rw [address?] at hpiece
    rw [readPiece, hpiece]

end AddressList

/-! ### Reading a balance -/

/-- A number is smaller than what its bytes have room for. -/
theorem Bytes.toNat_lt (bytes : Bytes) : toNat bytes < Nat.pow 256 bytes.length := by
  induction bytes using List.reverseRecOn with
  | nil => decide
  | append_singleton bytes b ih =>
      have hb : b.toNat < 256 := b.toNat_lt
      have hpow : Nat.pow 256 (bytes.length + 1) = Nat.pow 256 bytes.length * 256 := rfl
      rw [toNat_concat, List.length_append, List.length_singleton, hpow]
      omega

/-- The **balance that a result tells**: the number in its first word. -/
def CallResult.balance? (result : CallResult) : Option Nat :=
  if result.success = true ∧ 32 ≤ result.data.length then
    some (Bytes.toNat (result.data.take 32))
  else none

namespace Service

namespace Balance

/-- What the function returns is decoded from the first word. -/
theorem decodeReturned?_returned (data : Bytes) :
    returned.decodeReturned? data =
      if 32 ≤ data.length then some (Bytes.toNat (data.take 32), ()) else none := by
  have hword : returned.decodeReturned? data =
      ((Abi.nat? data 0).map (· % Nat.pow 2 256)).bind fun n => some (n, ()) := rfl
  rw [hword, Abi.nat?, Abi.word?, Abi.slice?, Nat.zero_add, List.drop_zero]
  split
  case isFalse => rfl
  case isTrue hlength =>
    have hlt := Bytes.toNat_lt (data.take 32)
    rw [List.length_take, Nat.min_eq_left hlength] at hlt
    have hmod : Bytes.toNat (data.take 32) % Nat.pow 2 256 = Bytes.toNat (data.take 32) :=
      Nat.mod_eq_of_lt hlt
    exact congrArg (fun n : Nat => (some (n, ()) : Option returned.Values)) hmod

/-- A result gives an address the balance that it tells. -/
theorem ofResult_of_some [Wording] {result : CallResult} {balance : Nat}
    (h : result.balance? = some balance) (address : Address) :
    ofResult address result = .ok ⟨address, balance⟩ := by
  unfold CallResult.balance? at h
  split at h
  case isFalse => cases h
  case isTrue hresult =>
    obtain rfl := Option.some.inj h
    rw [ofResult, CallResult.decode, if_pos hresult.1, decodeReturned?_returned,
      if_pos hresult.2]
    rfl

/-- A result that tells no balance is a fault, and none of the network. -/
theorem ofResult_of_none [Wording] {result : CallResult} (h : result.balance? = none)
    (address : Address) :
    ∃ fault, ofResult address result = .error fault ∧ fault.isUnreachable = false := by
  unfold CallResult.balance? at h
  split at h
  case isTrue => cases h
  case isFalse hresult =>
    cases hsuccess : result.success with
    | false =>
        refine ⟨CallResult.revertedFault result.data, ?_, rfl⟩
        rw [ofResult, CallResult.decode, hsuccess]
        rfl
    | true =>
        refine ⟨CallResult.undecodable returned result.data, ?_, rfl⟩
        have hlength : ¬ 32 ≤ result.data.length := fun hle => hresult ⟨hsuccess, hle⟩
        rw [ofResult, CallResult.decode, if_pos hsuccess, decodeReturned?_returned,
          if_neg hlength]
        rfl

/-! ### Pairing addresses with results -/

/-- The balances of addresses from the results of their calls. -/
def pair [Wording] (addresses : List Address) (results : List CallResult) :
    Outcome (List Balance) :=
  (addresses.zip results).mapM fun (address, result) => ofResult address result

variable [Wording] {addresses : List Address} {results : List CallResult}

/-- **Nothing is dropped**: with one result for each address there is one balance for each, and it
is told by the result at the same place. -/
theorem getElem?_of_pair {balances : List Balance} (hlength : results.length = addresses.length)
    (h : pair addresses results = .ok balances) :
    balances.length = addresses.length ∧
      ∀ (i : Nat) address result, addresses[i]? = some address → results[i]? = some result →
        ∃ balance, result.balance? = some balance ∧ balances[i]? = some ⟨address, balance⟩ := by
  have hpairs := mapM_eq_ok_iff.mp h
  refine ⟨?_, fun i address result haddress hresult => ?_⟩
  · have hcount := congrArg List.length hpairs
    rw [List.length_map, List.length_map, List.length_zip, hlength, Nat.min_self] at hcount
    exact hcount.symm
  · have hi := congrArg (·[i]?) hpairs
    have hzip : (addresses.zip results)[i]? = some (address, result) :=
      List.getElem?_zip_eq_some.mpr ⟨haddress, hresult⟩
    simp only [List.getElem?_map, hzip, Option.map_some] at hi
    obtain ⟨found, hfound, hof⟩ := Option.map_eq_some_iff.mp hi.symm
    cases hbalance : result.balance? with
    | none =>
        obtain ⟨fault, hfault, -⟩ := ofResult_of_none hbalance address
        exact nomatch hof.trans hfault
    | some balance =>
        rw [ofResult_of_some hbalance] at hof
        exact ⟨balance, rfl, hfound.trans (congrArg some (Except.ok.inj hof))⟩

/-- If every result tells a balance, there are balances. -/
theorem exists_of_pair (addresses : List Address)
    (h : ∀ result ∈ results, result.balance?.isSome = true) :
    ∃ balances, pair addresses results = .ok balances := by
  cases hpair : pair addresses results with
  | ok balances => exact ⟨balances, rfl⟩
  | error fault =>
      obtain ⟨before, ⟨address, result⟩, after, hzip, -, hfault⟩ := mapM_eq_error_iff.mp hpair
      have hmem : (address, result) ∈ addresses.zip results := by simp [hzip]
      obtain ⟨balance, hbalance⟩ :=
        Option.isSome_iff_exists.mp (h result (List.of_mem_zip hmem).2)
      exact nomatch hfault.symm.trans (ofResult_of_some hbalance address)

/-- No endpoint is to blame for addresses without a balance. -/
theorem isUnreachable_of_pair {fault : Fault} (h : pair addresses results = .error fault) :
    fault.isUnreachable = false := by
  obtain ⟨before, ⟨address, result⟩, after, -, -, hfault⟩ := mapM_eq_error_iff.mp h
  cases hbalance : result.balance? with
  | some balance => exact nomatch hfault.symm.trans (ofResult_of_some hbalance address)
  | none =>
      obtain ⟨found, hfound, hreached⟩ := ofResult_of_none hbalance address
      obtain rfl := Except.error.inj (hfault.symm.trans hfound)
      exact hreached

end Balance

/-! ### The status of a response -/

/-- The status of a response says whether an endpoint was reached. -/
theorem status_ofFault (fault : Fault) :
    (Response.ofProblem (.ofFault fault)).status = if fault.isUnreachable then 503 else 500 := by
  unfold Problem.ofFault
  split <;> rfl

/-! ### The balances of a list of addresses -/

section Handler

variable [Wording] {queries : QuerySettings} {client : Query.Client σ} {text : String} {state : σ}
  {addresses : List Address}

/-- The result of the call for the balance of the address at some place. -/
abbrev ResultOf (queries : QuerySettings) (addresses : List Address) (exchanges : Query.Exchanges)
    (i : Nat) (result : CallResult) : Prop :=
  Query.ResultAt (max queries.batchSize 1) (addresses.map (Balance.call queries.contract)) exchanges
    i result

/-- The query for the balances of some addresses. -/
def queryBalances (queries : QuerySettings) (client : Query.Client σ) (addresses : List Address)
    (state : σ) : Windowed σ CallResult :=
  Query.batched queries (.number (.tag .latest)) queries.batchSize client
    (addresses.map (Balance.call queries.contract)) state

/-- Behind the response is the query. -/
theorem balancesOf_of_read (h : AddressList.read text = .ok addresses) :
    let queried := queryBalances queries client addresses state
    balancesOf queries client text state =
      (.ofResult (Json.list Balance.toJson)
        ((queried.outcome.bind (Balance.pair addresses)).mapError Problem.ofFault),
        queried.state) := by
  unfold balancesOf
  rw [h]
  rfl

/-- A query that fails gives the response its fault. -/
theorem response_of_error {fault : Fault} (h : AddressList.read text = .ok addresses)
    (hfault : (queryBalances queries client addresses state).outcome = .error fault) :
    (balancesOf queries client text state).1 = .ofProblem (.ofFault fault) := by
  rw [balancesOf_of_read h, hfault]
  rfl

/-- Results that tell balances are written one after another. -/
theorem response_of_pair {results : List CallResult} {balances : List Balance}
    (h : AddressList.read text = .ok addresses)
    (hresults : (queryBalances queries client addresses state).outcome = .ok results)
    (hpair : Balance.pair addresses results = .ok balances) :
    (balancesOf queries client text state).1 = .ok (Json.list Balance.toJson balances) := by
  rw [balancesOf_of_read h, hresults]
  simp only [Except.bind, hpair]
  rfl

/-- Results of which one tells no balance are an internal error. -/
theorem response_of_pair_error {results : List CallResult} {fault : Fault}
    (h : AddressList.read text = .ok addresses)
    (hresults : (queryBalances queries client addresses state).outcome = .ok results)
    (hpair : Balance.pair addresses results = .error fault) :
    (balancesOf queries client text state).1.status = 500 := by
  have hresponse : (balancesOf queries client text state).1 = .ofProblem (.ofFault fault) := by
    rw [balancesOf_of_read h, hresults]
    simp only [Except.bind, hpair]
    rfl
  rw [hresponse, status_ofFault, Balance.isUnreachable_of_pair hpair]
  rfl

variable {exchanges : Query.Exchanges} (hread : AddressList.read text = .ok addresses)
  (record : Query.Record queries (.number (.tag .latest)) queries.batchSize client
    (addresses.map (Balance.call queries.contract)) state exchanges
    (queryBalances queries client addresses state))

include record

/-- If there is a result for every address, the query has them in the order of the addresses. -/
theorem outcome_of_results
    (h : ∀ i < addresses.length, ∃ result, ResultOf queries addresses exchanges i result) :
    ∃ results, (queryBalances queries client addresses state).outcome = .ok results ∧
      results.length = addresses.length ∧
      ∀ (i : Nat) result, ResultOf queries addresses exchanges i result → i < addresses.length →
        results[i]? = some result := by
  have hcount : (addresses.map (Balance.call queries.contract)).length = addresses.length :=
    List.length_map _
  obtain ⟨results, hqueried⟩ := record.ok_of_resultAt (hcount.symm ▸ h)
  obtain ⟨hlength, hresults⟩ := record.results results hqueried
  refine ⟨results, hqueried, hlength.trans hcount, fun i result hat hi => ?_⟩
  obtain ⟨found, hfound, hother⟩ := hresults i (hcount.symm ▸ hi)
  rw [hat.unique hother]
  exact hfound

include hread

/-- A response with balances pairs every address with the balance that the result of its call
tells. -/
theorem balances_of_status (hstatus : (balancesOf queries client text state).1.status = 200) :
    ∃ balances, (balancesOf queries client text state).1 = .ok (Json.list Balance.toJson balances) ∧
      balances.length = addresses.length ∧
      ∀ (i : Nat) address, addresses[i]? = some address → ∃ result balance,
        ResultOf queries addresses exchanges i result ∧ result.balance? = some balance ∧
        balances[i]? = some ⟨address, balance⟩ := by
  cases hqueried : (queryBalances queries client addresses state).outcome with
  | error fault =>
      rw [response_of_error hread hqueried, status_ofFault] at hstatus
      split at hstatus <;> cases hstatus
  | ok results =>
      obtain ⟨hlength, hresults⟩ := record.results results hqueried
      rw [List.length_map] at hlength hresults
      cases hpair : Balance.pair addresses results with
      | error fault =>
          rw [response_of_pair_error hread hqueried hpair] at hstatus
          cases hstatus
      | ok balances =>
          obtain ⟨hcount, hbalances⟩ := Balance.getElem?_of_pair hlength hpair
          refine ⟨balances, response_of_pair hread hqueried hpair, hcount,
            fun i address haddress => ?_⟩
          obtain ⟨result, hresult, hat⟩ :=
            hresults i (List.getElem?_eq_some_iff.mp haddress).1
          obtain ⟨balance, htold, hbalance⟩ := hbalances i address result haddress hresult
          exact ⟨result, balance, hat, htold, hbalance⟩

/-- If the result for every address tells a balance, the response has balances. -/
theorem status_of_told (htold : ∀ i < addresses.length, ∃ result,
      ResultOf queries addresses exchanges i result ∧ result.balance?.isSome = true) :
    (balancesOf queries client text state).1.status = 200 := by
  obtain ⟨results, hqueried, hlength, hresults⟩ := outcome_of_results record fun i hi =>
    (htold i hi).imp fun _ h => h.1
  have hall : ∀ result ∈ results, result.balance?.isSome = true := by
    intro result hmem
    obtain ⟨i, hi⟩ := List.getElem?_of_mem hmem
    have hlt : i < addresses.length := hlength ▸ (List.getElem?_eq_some_iff.mp hi).1
    obtain ⟨other, hother, hbalance⟩ := htold i hlt
    obtain rfl := Option.some.inj (hi.symm.trans (hresults i other hother hlt))
    exact hbalance
  obtain ⟨balances, hpair⟩ := Balance.exists_of_pair addresses hall
  rw [response_of_pair hread hqueried hpair]
  rfl

/-- If there is a result for every address and one of them tells no balance, there is an internal
error. -/
theorem status_of_untold
    (h : ∀ i < addresses.length, ∃ result, ResultOf queries addresses exchanges i result)
    {i : Nat} {result : CallResult} (hi : i < addresses.length)
    (hat : ResultOf queries addresses exchanges i result)
    (huntold : result.balance? = none) :
    (balancesOf queries client text state).1.status = 500 := by
  obtain ⟨results, hqueried, hlength, hresults⟩ := outcome_of_results record h
  cases hpair : Balance.pair addresses results with
  | error fault => exact response_of_pair_error hread hqueried hpair
  | ok balances =>
      obtain ⟨balance, htold, -⟩ := (Balance.getElem?_of_pair hlength hpair).2 i addresses[i]
        result (List.getElem?_eq_getElem hi) (hresults i result hat hi)
      rw [huntold] at htold
      cases htold

/-- The first answer that does not fit decides about the response, and whether it reached an
endpoint about the status. -/
theorem response_of_unfit {k : Nat} {answer : Outcome Bytes} {fault : Fault}
    (h : Query.FirstUnfit (max queries.batchSize 1)
      (addresses.map (Balance.call queries.contract)) exchanges k answer fault) :
    (balancesOf queries client text state).1 = .ofProblem (.ofFault fault) ∧
    ((∃ lost, answer = .error lost ∧ lost.isUnreachable = true) →
      (balancesOf queries client text state).1.status = 503) ∧
    ((¬ ∃ lost, answer = .error lost ∧ lost.isUnreachable = true) →
      (balancesOf queries client text state).1.status = 500) := by
  have hresponse := response_of_error hread ((record.error_iff fault).mpr ⟨k, answer, h⟩)
  have hlost := Multicall.isUnreachable_of_bind_readAnswer h.read
  refine ⟨hresponse, fun hreached => ?_, fun hreached => ?_⟩
  · rw [hresponse, status_ofFault, if_pos (hlost.mpr hreached)]
  · rw [hresponse, status_ofFault, if_neg (mt hlost.mp hreached)]

end Handler

/-- **The balances of a list of addresses**, whatever the client answers and however long it takes.

A list with a piece that is no address is a bad request, for the first such piece, and nothing is
sent. Otherwise the calls for all addresses are sent in batches, in their order. A response with
balances has one for each address, in the order of the list, and it is the number that the result of
the call for this address tells. If an answer does not fit its batch, the first of these decides:
with the status 503 if no endpoint was reached, and else with 500. Otherwise there is a result for
each address, and if one of them tells no balance, the status is 500. -/
theorem balances_of_addresses [Wording] (queries : QuerySettings) (client : Query.Client σ)
    (text : String) (state : σ) :
    let response := (balancesOf queries client text state).1
    let after := (balancesOf queries client text state).2
    (∀ before piece rest, AddressList.pieces text = before ++ piece :: rest →
      (∀ other ∈ before, (AddressList.address? other).isSome = true) →
      AddressList.address? piece = none →
        response = .ofProblem (AddressList.notAnAddress piece) ∧ response.status = 400 ∧
        after = state) ∧
    ∀ addresses : List Address,
      (AddressList.pieces text).map AddressList.address? = addresses.map some →
      let size := max queries.batchSize 1
      let calls := addresses.map (Balance.call queries.contract)
      ∃ exchanges : Query.Exchanges,
        Window.Course (client.ask (.number (.tag .latest))) (max queries.limit 1) state exchanges
          after ∧
        (∀ j exchange, exchanges[j]? = some exchange → size * j < addresses.length ∧
          exchange.job = Multicall.request queries.contract (Query.batch size calls j)) ∧
        (response.status = 200 → ∃ balances,
          response = .ok (Json.list Balance.toJson balances) ∧
          balances.length = addresses.length ∧
          ∀ (i : Nat) address, addresses[i]? = some address → ∃ result balance,
            Query.ResultAt size calls exchanges i result ∧ result.balance? = some balance ∧
            balances[i]? = some ⟨address, balance⟩) ∧
        ((∃ k answer fault, Query.FirstUnfit size calls exchanges k answer fault) ∨
          ∀ i < addresses.length, ∃ result, Query.ResultAt size calls exchanges i result) ∧
        (∀ k answer fault, Query.FirstUnfit size calls exchanges k answer fault →
          response = .ofProblem (.ofFault fault) ∧
          ((∃ lost, answer = .error lost ∧ lost.isUnreachable = true) → response.status = 503) ∧
          ((¬ ∃ lost, answer = .error lost ∧ lost.isUnreachable = true) →
            response.status = 500)) ∧
        ((∀ i < addresses.length, ∃ result, Query.ResultAt size calls exchanges i result ∧
          result.balance?.isSome = true) → response.status = 200) ∧
        ((∀ i < addresses.length, ∃ result, Query.ResultAt size calls exchanges i result) →
          ∀ i < addresses.length, ∀ result, Query.ResultAt size calls exchanges i result →
            result.balance? = none → response.status = 500) := by
  intro response after
  constructor
  · intro before piece rest hpieces hbefore hpiece
    have hread := AddressList.read_of_refused hpieces hbefore hpiece
    have hrefused : balancesOf queries client text state =
        (.ofProblem (AddressList.notAnAddress piece), state) := by
      rw [balancesOf, hread]
    have hresponse : response = .ofProblem (AddressList.notAnAddress piece) :=
      congrArg Prod.fst hrefused
    exact ⟨hresponse, congrArg Response.status hresponse, congrArg Prod.snd hrefused⟩
  · intro addresses hpieces size calls
    have hread := AddressList.read_of_addresses hpieces
    obtain ⟨exchanges, record⟩ := Query.exists_record queries (.number (.tag .latest))
      queries.batchSize client calls state
    have hafter : after = (queryBalances queries client addresses state).state :=
      congrArg Prod.snd (balancesOf_of_read hread)
    have hsent := record.sent
    have hends := record.unfit_or_results
    rw [List.length_map] at hsent hends
    exact ⟨exchanges, hafter ▸ record.course, hsent, balances_of_status hread record, hends,
      fun k answer fault => response_of_unfit hread record, status_of_told hread record,
      fun hall i hi result => status_of_untold hread record hall hi⟩

/-- Two addresses in two batches, of which the second is answered first, and a list with a piece
that is no address. -/
theorem balances_of_two_addresses :
    letI : Wording := .silent
    let queries : QuerySettings := ⟨FixedBytes.ofNat 20 0xca, 2, 1⟩
    let client : Query.Client Nat := fun _ _ _ _ n =>
      ({ outcome := .ok (Multicall.answer [⟨true, Bytes.ofNat 32 (7 + n)⟩]), millis := 10 - n },
        n + 1)
    let first := "0x0000000000000000000000000000000000000001"
    let second := "0000000000000000000000000000000000000002"
    ((∃ balances,
        (balancesOf queries client (first ++ ", ," ++ second) 0).1 =
          .ok (Json.list Balance.toJson balances) ∧
        balances.length = 2) ∧
      (balancesOf queries client (first ++ ", ," ++ second) 0).2 ≠ 0) ∧
    (balancesOf queries client (first ++ ",0x02") 0).1.status = 400 ∧
    (balancesOf queries client (first ++ ",0x02") 0).2 = 0 := by
  let _ : Wording := .silent
  intro queries client first second
  have haddresses : (AddressList.pieces (first ++ ", ," ++ second)).map AddressList.address? =
      [FixedBytes.ofNat 20 1, FixedBytes.ofNat 20 2].map some := by decide +kernel
  obtain ⟨exchanges, -, -, hbalances, -⟩ :=
    (balances_of_addresses queries client (first ++ ", ," ++ second) 0).2 _ haddresses
  obtain ⟨balances, hresponse, hlength, -⟩ := hbalances (by decide +kernel)
  obtain ⟨-, hstatus, hafter⟩ :=
    (balances_of_addresses queries client (first ++ ",0x02") 0).1 [first.toList] "0x02".toList []
      (by decide +kernel) (by decide +kernel) (by decide +kernel)
  exact ⟨⟨⟨balances, hresponse, hlength⟩, by decide +kernel⟩, hstatus, hafter⟩

end Service

end NodeGateway
