import NodeGateway.Proofs.Query.Order

/-!
# The Record of a Query

A query in batches can be told from the exchanges with its client alone. Either some answer does not
fit its batch, and the first one that does not, in the order of the calls, gives the query its
fault; or there is a result for each call, and it stands in the answer to the batch of the call, at
the place that the call has there (`Query.exists_record`).
-/

namespace NodeGateway

namespace Multicall

variable {calls : List ContractCall} {answer : Outcome Bytes}

/-- An answer fits in one way only. -/
theorem Fits.unique {results others : List CallResult} (h : Fits calls answer results)
    (hothers : Fits calls answer others) : results = others := by
  obtain ⟨data, hdata, hresults, -⟩ := h
  obtain ⟨other, hother, hothers, -⟩ := hothers
  obtain rfl : data = other := Except.ok.inj (hdata.symm.trans hother)
  exact Option.some.inj (hresults.symm.trans hothers)

/-- An answer that reached an endpoint and does not fit is no fault of the network. -/
theorem isUnreachable_of_bind_readAnswer [Wording] {fault : Fault}
    (h : answer.bind (readAnswer calls) = .error fault) :
    fault.isUnreachable = true ↔ ∃ lost, answer = .error lost ∧ lost.isUnreachable = true := by
  cases answer with
  | error lost =>
      obtain rfl : lost = fault := Except.error.inj h
      simp
  | ok data =>
      have hread : readAnswer calls data = .error fault := h
      unfold readAnswer at hread
      split at hread
      · obtain rfl := Except.error.inj hread
        simp [undecodable, Fault.isUnreachable]
      · split at hread
        · cases hread
        · obtain rfl := Except.error.inj hread
          simp [miscounted, Fault.isUnreachable]

end Multicall

namespace Query

open Window

/-- The exchanges of a query with its client, in their order. -/
abbrev Exchanges := List (Start Execution.CallRequest Bytes)

/-- The **result of a call** in some exchanges: it stands in the answer to the batch of the call, at
the place that the call has there. -/
def ResultAt (size : Nat) (calls : List ContractCall) (exchanges : Exchanges) (i : Nat)
    (result : CallResult) : Prop :=
  ∃ exchange results, exchanges[i / size]? = some exchange ∧
    Multicall.Fits (batch size calls (i / size)) exchange.outcome results ∧
    results[i % size]? = some result

/-- There is one result for a call. -/
theorem ResultAt.unique {size : Nat} {calls : List ContractCall} {exchanges : Exchanges} {i : Nat}
    {result other : CallResult} (h : ResultAt size calls exchanges i result)
    (hother : ResultAt size calls exchanges i other) : result = other := by
  obtain ⟨exchange, results, hexchange, hfits, hresult⟩ := h
  obtain ⟨exchange', results', hexchange', hfits', hother⟩ := hother
  obtain rfl := Option.some.inj (hexchange.symm.trans hexchange')
  obtain rfl := hfits.unique hfits'
  exact Option.some.inj (hresult.symm.trans hother)

/-- The **first answer that does not fit** its batch, and the fault that it is read as. -/
structure FirstUnfit [Wording] (size : Nat) (calls : List ContractCall) (exchanges : Exchanges)
    (k : Nat) (answer : Outcome Bytes) (fault : Fault) : Prop where
  sent : ∃ exchange, exchanges[k]? = some exchange ∧ exchange.outcome = answer
  read : answer.bind (Multicall.readAnswer (batch size calls k)) = .error fault
  earlier : ∀ j < k, ∃ exchange results, exchanges[j]? = some exchange ∧
    Multicall.Fits (batch size calls j) exchange.outcome results

/-- The **record** of a query in batches. -/
structure Record [Wording] (settings : QuerySettings) (block : Execution.BlockId)
    (batchSize : Nat) (client : Client σ) (calls : List ContractCall) (state : σ)
    (exchanges : Exchanges) (ended : Windowed σ CallResult) : Prop where
  course : Course (client.ask block) (max settings.limit 1) state exchanges ended.state
  sent : ∀ j exchange, exchanges[j]? = some exchange → max batchSize 1 * j < calls.length ∧
    exchange.job = Multicall.request settings.contract (batch (max batchSize 1) calls j)
  error_iff : ∀ fault, ended.outcome = .error fault ↔
    ∃ k answer, FirstUnfit (max batchSize 1) calls exchanges k answer fault
  results : ∀ results, ended.outcome = .ok results → results.length = calls.length ∧
    ∀ i < calls.length, ∃ result, results[i]? = some result ∧
      ResultAt (max batchSize 1) calls exchanges i result

namespace Record

variable [Wording] {settings : QuerySettings} {block : Execution.BlockId} {batchSize : Nat}
  {client : Client σ} {calls : List ContractCall} {state : σ} {exchanges : Exchanges}
  {ended : Windowed σ CallResult}

/-- An answer that does not fit leaves a call without a result. -/
theorem ok_of_resultAt
    (record : Record settings block batchSize client calls state exchanges ended)
    (h : ∀ i < calls.length, ∃ result, ResultAt (max batchSize 1) calls exchanges i result) :
    ∃ results, ended.outcome = .ok results := by
  cases houtcome : ended.outcome with
  | ok results => exact ⟨results, rfl⟩
  | error fault =>
      obtain ⟨k, answer, ⟨exchange, hexchange, rfl⟩, hfault, -⟩ :=
        (record.error_iff fault).mp houtcome
      -- the first call of the batch would have a result
      obtain ⟨result, other, results, hother, hfits, -⟩ :=
        h _ (record.sent k exchange hexchange).1
      rw [Nat.mul_div_cancel_left k (Nat.le_max_right _ 1)] at hother hfits
      obtain rfl := Option.some.inj (hexchange.symm.trans hother)
      exact nomatch hfault.symm.trans (Multicall.bind_readAnswer_iff.mpr hfits)

/-- There is an answer that does not fit, or else every call has its result. -/
theorem unfit_or_results
    (record : Record settings block batchSize client calls state exchanges ended) :
    (∃ k answer fault, FirstUnfit (max batchSize 1) calls exchanges k answer fault) ∨
      ∀ i < calls.length, ∃ result, ResultAt (max batchSize 1) calls exchanges i result := by
  cases houtcome : ended.outcome with
  | error fault =>
      obtain ⟨k, answer, hunfit⟩ := (record.error_iff fault).mp houtcome
      exact .inl ⟨k, answer, fault, hunfit⟩
  | ok results =>
      refine .inr fun i hi => ?_
      obtain ⟨result, -, hat⟩ := (record.results results houtcome).2 i hi
      exact ⟨result, hat⟩

end Record

namespace Ledger

variable [Wording] {contract : Address}
  {start : (now busy : Nat) → List ContractCall → σ → Answer (List CallResult) × σ}
  {limit size : Nat} {origin : σ} {calls : List ContractCall} {pairs : List Sent}
  {ended : Windowed σ (List CallResult)}

/-- The first batch that fails is the one whose answer is the first that does not fit. -/
theorem firstFailed_iff (ledger : Ledger contract start limit size origin calls pairs ended)
    {k : Nat} {fault : Fault} :
    FirstFailed (pairs.map Prod.fst) k fault ↔
      ∃ answer, FirstUnfit (max size 1) calls (pairs.map Prod.snd) k answer fault := by
  have hread : ∀ {j : Nat} {pair : Sent}, pairs[j]? = some pair →
      pair.1.outcome =
        pair.2.outcome.bind (Multicall.readAnswer (batch (max size 1) calls j)) := by
    intro j pair hpair
    rw [← (ledger.batch_of_pair hpair).2, Start.outcome,
      (ledger.behind pair (List.mem_of_getElem? hpair)).answer_eq]
  constructor
  · rintro ⟨⟨s, hs, hfault⟩, hearlier⟩
    rw [List.getElem?_map] at hs
    obtain ⟨pair, hpair, rfl⟩ := Option.map_eq_some_iff.mp hs
    refine ⟨pair.2.outcome, ⟨pair.2, by rw [List.getElem?_map, hpair]; rfl, rfl⟩,
      (hread hpair).symm.trans hfault, fun j hj => ?_⟩
    obtain ⟨s, results, hs, hresults⟩ := hearlier j hj
    rw [List.getElem?_map] at hs
    obtain ⟨pair, hpair, rfl⟩ := Option.map_eq_some_iff.mp hs
    exact ⟨pair.2, results, by rw [List.getElem?_map, hpair]; rfl,
      Multicall.bind_readAnswer_iff.mp ((hread hpair).symm.trans hresults)⟩
  · rintro ⟨answer, ⟨exchange, hexchange, rfl⟩, hfault, hearlier⟩
    rw [List.getElem?_map] at hexchange
    obtain ⟨pair, hpair, rfl⟩ := Option.map_eq_some_iff.mp hexchange
    refine ⟨⟨pair.1, by rw [List.getElem?_map, hpair]; rfl, (hread hpair).trans hfault⟩,
      fun j hj => ?_⟩
    obtain ⟨exchange, results, hexchange, hfits⟩ := hearlier j hj
    rw [List.getElem?_map] at hexchange
    obtain ⟨pair, hpair, rfl⟩ := Option.map_eq_some_iff.mp hexchange
    exact ⟨pair.1, results, by rw [List.getElem?_map, hpair]; rfl,
      (hread hpair).trans (Multicall.bind_readAnswer_iff.mpr hfits)⟩

/-- The fault of a query is that of the first answer that does not fit. -/
theorem outcome_eq_error_iff (ledger : Ledger contract start limit size origin calls pairs ended)
    (fault : Fault) :
    ended.outcome = .error fault ↔
      ∃ k answer, FirstUnfit (max size 1) calls (pairs.map Prod.snd) k answer fault := by
  constructor
  · intro h
    obtain ⟨k, hfirst⟩ := exists_firstFailed (ledger.account.outcome_eq.symm.trans h)
    exact ⟨k, ledger.firstFailed_iff.mp hfirst⟩
  · rintro ⟨k, hunfit⟩
    exact ledger.account.outcome_of_first (ledger.firstFailed_iff.mpr hunfit)

/-- The results of a query are those that stand in the answers. -/
theorem resultAt_of_ok (ledger : Ledger contract start limit size origin calls pairs ended)
    {lists : List (List CallResult)} (hok : ended.outcome = .ok lists) {i : Nat}
    (hi : i < calls.length) :
    ∃ result, lists.flatten[i]? = some result ∧
      ResultAt (max size 1) calls (pairs.map Prod.snd) i result := by
  obtain ⟨pair, answered, hpair, hfits, hplace, hresult⟩ := ledger.result_of_call hok hi
  rw [(ledger.batch_of_pair hpair).2] at hfits
  rw [List.getElem?_eq_getElem hplace] at hresult
  exact ⟨_, hresult, pair.2, answered, by rw [List.getElem?_map, hpair]; rfl, hfits,
    List.getElem?_eq_getElem hplace⟩

end Ledger

/-- **Every query in batches leaves a record**, whatever the client answers and however long it
takes. -/
theorem exists_record [Wording] (settings : QuerySettings) (block : Execution.BlockId)
    (batchSize : Nat) (client : Client σ) (calls : List ContractCall) (state : σ) :
    ∃ exchanges, Record settings block batchSize client calls state exchanges
      (batched settings block batchSize client calls state) := by
  obtain ⟨⟨started, haccount⟩, -⟩ :=
    account_of_run (send settings.contract block client) settings.limit (chunks batchSize calls)
      state
  obtain ⟨pairs, rfl, hbehind, hcourse⟩ := exchanges_of_course haccount.course
  have ledger : Ledger settings.contract _ _ batchSize state calls pairs _ := ⟨haccount, hbehind⟩
  refine ⟨pairs.map Prod.snd, hcourse, fun j exchange hexchange => ?_, fun fault => ?_,
    fun results hresults => ?_⟩
  · rw [List.getElem?_map] at hexchange
    obtain ⟨pair, hpair, rfl⟩ := Option.map_eq_some_iff.mp hexchange
    obtain ⟨hj, hjob⟩ := ledger.batch_of_pair hpair
    exact ⟨hj, hjob ▸ (hbehind pair (List.mem_of_getElem? hpair)).job_eq⟩
  · rw [← ledger.outcome_eq_error_iff]
    exact Outcome.map_eq_error
  · obtain ⟨lists, hok, rfl⟩ := Outcome.map_eq_ok_iff.mp hresults
    refine ⟨?_, fun i hi => ledger.resultAt_of_ok hok hi⟩
    rw [List.length_flatten, ledger.map_length_of_ok hok, ← List.length_flatten, flatten_chunks]

end Query

end NodeGateway
