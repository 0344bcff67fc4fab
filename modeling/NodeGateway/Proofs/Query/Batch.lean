import NodeGateway.Proofs.Query.Window
import NodeGateway.Query.Batch

/-!
# Each Result Belongs to Its Call

A long list of calls is cut into batches, the batches are asked for through a window, and what was
answered is put together again. A client may answer whatever it likes, as late as it likes, and the
answers to later batches may arrive before those to earlier ones; still no result is ever taken for
that of another call.

The argument has three parts. **Division** says where an item of a list of pieces is found, if the
pieces are as long as the chunks of another list (`getElem?_flatten_of_chunks`). The **account** of
the window says that the outcomes of the batches that were started are handed on in the order of
the batches. And behind each of them there is an **exchange** with the client, from whose answer the
outcome is read (`Query.exchanges_of_course`); it has results only if there is one for each call of
the batch (`Multicall.Fits`).

## Main results

* `Query.Ledger.error_iff`: a query fails exactly if some answer does not fit its batch;
* `Query.Ledger.result_of_call`: where the result of a call comes from, if it does not;
* `Query.results_of_batched`: both, for every query in batches, with what was sent and when the
  query comes to its end.
-/

namespace NodeGateway

/-! ### Chunks -/

section Chunks

variable {α β : Type}

/-- No items make no chunks. -/
theorem chunks_nil (size : Nat) : chunks size ([] : List α) = [] := by
  rw [chunks]

/-- Nothing is lost, added or moved by cutting a list. -/
theorem flatten_chunks (size : Nat) (items : List α) : (chunks size items).flatten = items := by
  fun_induction chunks size items with
  | case1 => rfl
  | case2 item rest ih => rw [List.flatten_cons, ih, List.take_append_drop]

/-- The chunk with a number holds as many items as fit, from where the chunks before it end. -/
theorem getElem?_chunks (size : Nat) (items : List α) (j : Nat) :
    (chunks size items)[j]? =
      if max size 1 * j < items.length then
        some ((items.drop (max size 1 * j)).take (max size 1))
      else none := by
  fun_induction chunks size items generalizing j with
  | case1 => simp
  | case2 item rest ih =>
      cases j with
      | zero => simp
      | succ j =>
          rw [List.getElem?_cons_succ, ih, List.drop_drop, List.length_drop, Nat.mul_succ,
            Nat.add_comm (max size 1)]
          congr 1
          simp only [eq_iff_iff]
          omega

/-- There are as many chunks as begin before the end of the list. -/
theorem lt_length_chunks_iff (size : Nat) (items : List α) (j : Nat) :
    j < (chunks size items).length ↔ max size 1 * j < items.length := by
  have h := getElem?_chunks size items j
  split at h
  case isTrue hj => exact iff_of_true (List.getElem?_eq_some_iff.mp h).1 hj
  case isFalse hj => exact iff_of_false (Nat.not_lt.mpr (List.getElem?_eq_none_iff.mp h)) hj

/-- A size of zero counts as one. -/
theorem chunks_max (size : Nat) (items : List α) :
    chunks (max size 1) items = chunks size items := by
  refine List.ext_getElem? fun j => ?_
  rw [getElem?_chunks, getElem?_chunks, Nat.max_eq_left (Nat.le_max_right size 1)]

/-- **Where an item of a list of pieces is found**, if the pieces are as long as the chunks of some
list: in the piece and at the place that division says. -/
theorem getElem?_flatten_of_chunks {size : Nat} {items : List α} {pieces : List (List β)}
    (h : pieces.map List.length = (chunks size items).map List.length) (i : Nat) :
    pieces.flatten[i]? = pieces[i / max size 1]?.bind (·[i % max size 1]?) := by
  have hsize : 0 < max size 1 := Nat.le_max_right size 1
  fun_induction chunks size items generalizing pieces i with
  | case1 =>
      rw [List.map_nil, List.map_eq_nil_iff] at h
      subst h
      simp
  | case2 item rest ih =>
      obtain ⟨piece, others, rfl, hpiece, hothers⟩ := List.map_eq_cons_iff.mp h
      rw [List.length_take] at hpiece
      -- only the last piece can be too short, and nothing stands behind it
      have hlast : piece.length < max size 1 → others = [] := fun hshort => by
        have hdrop : (item :: rest).drop (max size 1) = [] := by
          rw [List.drop_eq_nil_iff]
          omega
        rwa [hdrop, chunks_nil, List.map_nil, List.map_eq_nil_iff] at hothers
      rw [List.flatten_cons]
      by_cases hfirst : i < max size 1
      · rw [Nat.div_eq_of_lt hfirst, Nat.mod_eq_of_lt hfirst, List.getElem?_cons_zero]
        by_cases hin : i < piece.length
        · exact List.getElem?_append_left hin
        · rw [hlast (by omega), List.flatten_nil, List.append_nil]
          rfl
      · obtain ⟨k, rfl⟩ := Nat.exists_eq_add_of_le (Nat.not_lt.mp hfirst)
        rw [Nat.add_div_left k hsize, Nat.add_mod_left, List.getElem?_cons_succ, ← ih hothers k]
        by_cases hfull : piece.length = max size 1
        · rw [List.getElem?_append_right (by omega), hfull, Nat.add_sub_cancel_left]
        · rw [hlast (by omega), List.flatten_nil, List.append_nil,
            List.getElem?_eq_none (by omega)]
          rfl

end Chunks

/-! ### Outcomes of what is made of values -/

namespace Outcome

variable {α β : Type} {outcome : Outcome α} {f : α → β}

/-- What is made of a value is made of one. -/
theorem map_eq_ok_iff {b : β} : outcome.map f = .ok b ↔ ∃ a, outcome = .ok a ∧ f a = b := by
  cases outcome <;> simp [Except.map]

/-- What is made of values fails with their faults. -/
theorem map_eq_error {fault : Fault} : outcome.map f = .error fault ↔ outcome = .error fault := by
  cases outcome <;> simp [Except.map]

/-- What is made of values fails only where they fail. -/
theorem map_eq_error_iff (f : α → β) :
    (∃ fault, outcome.map f = .error fault) ↔ ∃ fault, outcome = .error fault :=
  exists_congr fun _ => map_eq_error

end Outcome

/-! ### Answers that fit -/

namespace Multicall

/-- An answer **fits** some calls, with some results, if these can be decoded from it and there is
one for each call. -/
def Fits (calls : List ContractCall) (answer : Outcome Bytes) (results : List CallResult) : Prop :=
  ∃ data, answer = .ok data ∧ results? data = some results ∧ results.length = calls.length

/-- Reading an answer gives the results in it exactly if it fits the calls. -/
theorem bind_readAnswer_iff [Wording] {calls : List ContractCall} {answer : Outcome Bytes}
    {results : List CallResult} :
    answer.bind (readAnswer calls) = .ok results ↔ Fits calls answer results := by
  cases answer with
  | error fault => exact ⟨fun h => (nomatch h), fun ⟨_, h, _⟩ => (nomatch h)⟩
  | ok data =>
      simp only [Except.bind, readAnswer, Fits, Except.ok.injEq, exists_eq_left']
      cases hresults : results? data with
      | none => simp
      | some found =>
          dsimp only
          split
          case isTrue hlength =>
            constructor
            · rintro ⟨⟩
              exact ⟨rfl, hlength⟩
            · rintro ⟨⟨⟩, -⟩
              rfl
          case isFalse hlength =>
            constructor
            · rintro ⟨⟩
            · rintro ⟨⟨⟩, h⟩
              exact absurd h hlength

end Multicall

namespace Query

/-- The client as somebody who works on the calls that are sent to it, about one block. -/
def Client.ask (client : Client σ) (block : Execution.BlockId) (now busy : Nat)
    (request : Execution.CallRequest) (state : σ) : Answer Bytes × σ :=
  client now busy request block state

/-- An **exchange** with the client is behind a batch that was started: the call packs the batch,
and what the batch ends with is read from the answer. -/
structure Behind [Wording] (contract : Address)
    (s : Start (List ContractCall) (List CallResult))
    (exchange : Start Execution.CallRequest Bytes) : Prop where
  instant_eq : exchange.instant = s.instant
  job_eq : exchange.job = Multicall.request contract s.job
  answer_eq : s.answer =
    { exchange.answer with outcome := exchange.outcome.bind (Multicall.readAnswer s.job) }

namespace Behind

variable [Wording] {contract : Address} {s : Start (List ContractCall) (List CallResult)}
  {exchange : Start Execution.CallRequest Bytes}

/-- A batch ends when its answer arrives. -/
theorem arrival_eq (h : Behind contract s exchange) : exchange.arrival = s.arrival := by
  rw [Start.arrival, Start.arrival, h.instant_eq, h.answer_eq]

/-- A batch has results exactly if the answer fits it. -/
theorem outcome_iff (h : Behind contract s exchange) {results : List CallResult} :
    s.outcome = .ok results ↔ Multicall.Fits s.job exchange.outcome results := by
  rw [Start.outcome, h.answer_eq]
  exact Multicall.bind_readAnswer_iff

end Behind

/-- A batch that was started, and the exchange behind it. -/
abbrev Sent := Start (List ContractCall) (List CallResult) × Start Execution.CallRequest Bytes

open Window

section Course

variable [Wording] {contract : Address} {block : Execution.BlockId} {client : Client σ}
  {limit : Nat} {origin state : σ} {started : List (Start (List ContractCall) (List CallResult))}

/-- An instant at which a batch ends is one at which an answer arrives. -/
theorem prompt_exchanges {pairs : List Sent} {now : Nat}
    (hbehind : ∀ pair ∈ pairs, Behind contract pair.1 pair.2)
    (h : Prompt now (pairs.map Prod.fst)) : Prompt now (pairs.map Prod.snd) := by
  refine h.imp_right ?_
  rintro ⟨s, hs, rfl⟩
  obtain ⟨pair, hpair, rfl⟩ := List.mem_map.mp hs
  exact ⟨pair.2, List.mem_map_of_mem hpair, (hbehind pair hpair).arrival_eq.symm⟩

/-- As many answers are awaited as batches are under way. -/
theorem underWay_exchanges {pairs : List Sent} (now : Nat)
    (hbehind : ∀ pair ∈ pairs, Behind contract pair.1 pair.2) :
    underWay now (pairs.map Prod.snd) = underWay now (pairs.map Prod.fst) := by
  rw [underWay, underWay, List.filter_map, List.filter_map, List.length_map, List.length_map]
  refine congrArg List.length (List.filter_congr fun pair hpair => ?_)
  simp only [Function.comp, (hbehind pair hpair).arrival_eq]

/-- A batch that makes room for another by ending with results makes room by an answer. -/
theorem room_exchanges {pairs : List Sent} {now count : Nat}
    (hbehind : ∀ pair ∈ pairs, Behind contract pair.1 pair.2)
    (h : ∀ s ∈ (pairs.map Prod.fst).take count,
      s.arrival ≤ now ∧ ∃ results, s.outcome = .ok results) :
    ∀ exchange ∈ (pairs.map Prod.snd).take count,
      exchange.arrival ≤ now ∧ ∃ data, exchange.outcome = .ok data := by
  rw [← List.map_take] at h ⊢
  intro exchange hexchange
  obtain ⟨pair, hpair, rfl⟩ := List.mem_map.mp hexchange
  have hpairs := hbehind pair (List.mem_of_mem_take hpair)
  obtain ⟨harrived, results, hresults⟩ := h pair.1 (List.mem_map_of_mem hpair)
  obtain ⟨data, hdata, -⟩ := hpairs.outcome_iff.mp hresults
  exact ⟨hpairs.arrival_eq ▸ harrived, data, hdata⟩

/-- Behind the batches that were started there is one exchange for each, in the same course. -/
theorem exchanges_of_course (h : Course (send contract block client) limit origin started state) :
    ∃ pairs : List Sent,
      pairs.map Prod.fst = started ∧ (∀ pair ∈ pairs, Behind contract pair.1 pair.2) ∧
        Course (client.ask block) limit origin (pairs.map Prod.snd) state := by
  induction h with
  | none => exact ⟨[], rfl, by simp, .none⟩
  | @next started state now batch course prompt begun room ih =>
      obtain ⟨pairs, rfl, hbehind, hcourse⟩ := ih
      have hbegun : ∀ exchange ∈ pairs.map Prod.snd, exchange.instant ≤ now := by
        intro exchange hexchange
        obtain ⟨pair, hpair, rfl⟩ := List.mem_map.mp hexchange
        rw [(hbehind pair hpair).instant_eq]
        exact begun pair.1 (List.mem_map_of_mem hpair)
      rw [List.length_map, ← List.length_map Prod.snd] at room
      have hnext := Course.next now (Multicall.request contract batch) hcourse
        (prompt_exchanges hbehind prompt) hbegun (room_exchanges hbehind room)
      rw [underWay_exchanges now hbehind] at hnext
      refine ⟨pairs ++ [(_, _)], by rw [List.map_append]; rfl, ?_, by
        rw [List.map_append]; exact hnext⟩
      intro pair hpair
      rcases List.mem_append.mp hpair with hold | hnew
      · exact hbehind pair hold
      · rw [List.mem_singleton.mp hnew]
        exact ⟨rfl, rfl, rfl⟩

end Course

/-! ### The results of all batches -/

/-- The calls of the **batch** with a number. -/
def batch (size : Nat) (calls : List ContractCall) (j : Nat) : List ContractCall :=
  (calls.drop (size * j)).take size

/-- The call at some place is found in its batch. -/
theorem getElem?_batch {size : Nat} (hsize : 0 < size) (calls : List ContractCall) (i : Nat) :
    (batch size calls (i / size))[i % size]? = calls[i]? := by
  rw [batch, List.getElem?_take_of_lt (Nat.mod_lt i hsize), List.getElem?_drop, Nat.div_add_mod]

/-- The batch of a call is not over before that call. -/
theorem mod_lt_length_batch {size : Nat} (hsize : 0 < size) {calls : List ContractCall} {i : Nat}
    (hi : i < calls.length) : i % size < (batch size calls (i / size)).length := by
  have h := getElem?_batch hsize calls i
  rw [List.getElem?_eq_getElem hi] at h
  exact (List.getElem?_eq_some_iff.mp h).1

/-- The batch with a number is what its chunk holds. -/
theorem job_of_start {start : (now busy : Nat) → List ContractCall → σ → Answer γ × σ}
    {limit size : Nat} {origin : σ} {calls : List ContractCall}
    {started : List (Start (List ContractCall) γ)} {ended : Windowed σ γ}
    (h : Account start limit origin (chunks size calls) started ended) {j : Nat}
    {s : Start (List ContractCall) γ} (hs : started[j]? = some s) :
    max size 1 * j < calls.length ∧ s.job = batch (max size 1) calls j := by
  obtain ⟨rest, hrest⟩ := h.jobs_le
  have hlength : j < (started.map Start.job).length := by
    rw [List.length_map]
    exact (List.getElem?_eq_some_iff.mp hs).1
  have hjob := getElem?_chunks size calls j
  rw [← hrest, List.getElem?_append_left hlength, List.getElem?_map, hs] at hjob
  split at hjob
  case isTrue hj => exact ⟨hj, Option.some.inj hjob⟩
  case isFalse => cases hjob

/-- The **ledger** of a run over the batches of some calls: its account, and the exchange behind
each batch that was started. -/
structure Ledger [Wording] (contract : Address)
    (start : (now busy : Nat) → List ContractCall → σ → Answer (List CallResult) × σ)
    (limit size : Nat) (origin : σ) (calls : List ContractCall) (pairs : List Sent)
    (ended : Windowed σ (List CallResult)) : Prop where
  account : Account start limit origin (chunks size calls) (pairs.map Prod.fst) ended
  behind : ∀ pair ∈ pairs, Behind contract pair.1 pair.2

namespace Ledger

variable [Wording] {contract : Address}
  {start : (now busy : Nat) → List ContractCall → σ → Answer (List CallResult) × σ}
  {limit size : Nat} {origin : σ} {calls : List ContractCall} {pairs : List Sent}
  {ended : Windowed σ (List CallResult)} {lists : List (List CallResult)} {j : Nat} {pair : Sent}

/-- Batches are started in the order of the calls. -/
theorem batch_of_pair (ledger : Ledger contract start limit size origin calls pairs ended)
    (hpair : pairs[j]? = some pair) :
    max size 1 * j < calls.length ∧ pair.1.job = batch (max size 1) calls j :=
  job_of_start ledger.account (by rw [List.getElem?_map, hpair]; rfl)

/-- If there are results, every batch was started. -/
theorem exists_pair_of_ok (ledger : Ledger contract start limit size origin calls pairs ended)
    (hok : ended.outcome = .ok lists) (hj : max size 1 * j < calls.length) :
    ∃ pair, pairs[j]? = some pair := by
  have hchunk := getElem?_chunks size calls j
  rw [if_pos hj, ← ledger.account.complete lists hok, List.map_map, List.getElem?_map] at hchunk
  obtain ⟨pair, hpair, -⟩ := Option.map_eq_some_iff.mp hchunk
  exact ⟨pair, hpair⟩

/-- If there are results, every answer fits its batch, and its results are those of the batch. -/
theorem fits_of_ok (ledger : Ledger contract start limit size origin calls pairs ended)
    (hok : ended.outcome = .ok lists) (hpair : pairs[j]? = some pair) :
    ∃ answered, lists[j]? = some answered ∧
      Multicall.Fits pair.1.job pair.2.outcome answered := by
  have houtcomes := mapM_eq_ok_iff.mp (ledger.account.outcome_eq.symm.trans hok)
  have hj := congrArg (·[j]?) houtcomes
  simp only [List.getElem?_map, hpair, Option.map_some] at hj
  obtain ⟨answered, hanswered, houtcome⟩ := Option.map_eq_some_iff.mp hj.symm
  exact ⟨answered, hanswered,
    (ledger.behind pair (List.mem_of_getElem? hpair)).outcome_iff.mp houtcome.symm⟩

/-- If there are results, there are as many of them for each batch as it has calls. -/
theorem map_length_of_ok (ledger : Ledger contract start limit size origin calls pairs ended)
    (hok : ended.outcome = .ok lists) :
    lists.map List.length = (chunks size calls).map List.length := by
  have houtcomes := mapM_eq_ok_iff.mp (ledger.account.outcome_eq.symm.trans hok)
  have hcount : lists.length = pairs.length := by simpa using (congrArg List.length houtcomes).symm
  rw [← ledger.account.complete lists hok, List.map_map, List.map_map]
  refine List.ext_getElem? fun j => ?_
  rw [List.getElem?_map, List.getElem?_map]
  cases hpair : pairs[j]? with
  | none =>
      rw [List.getElem?_eq_none_iff] at hpair
      rw [List.getElem?_eq_none (by omega)]
      rfl
  | some pair =>
      obtain ⟨answered, hanswered, -, -, -, hlength⟩ := ledger.fits_of_ok hok hpair
      rw [hanswered]
      exact congrArg some hlength

/-- **A query fails** exactly if some answer does not fit its batch. -/
theorem error_iff (ledger : Ledger contract start limit size origin calls pairs ended) :
    (∃ fault, ended.outcome = .error fault) ↔
      ∃ (j : Nat) (pair : Sent), pairs[j]? = some pair ∧
        ∀ answered, ¬ Multicall.Fits pair.1.job pair.2.outcome answered := by
  constructor
  · rintro ⟨fault, hfault⟩
    obtain ⟨before, s, after, hsplit, -, hs⟩ :=
      mapM_eq_error_iff.mp (ledger.account.outcome_eq.symm.trans hfault)
    have hfailed : (pairs.map Prod.fst)[before.length]? = some s := by
      rw [hsplit, List.getElem?_append_right (Nat.le_refl _), Nat.sub_self]
      rfl
    rw [List.getElem?_map] at hfailed
    obtain ⟨pair, hpair, rfl⟩ := Option.map_eq_some_iff.mp hfailed
    refine ⟨before.length, pair, hpair, fun answered hfits => ?_⟩
    have hok := (ledger.behind pair (List.mem_of_getElem? hpair)).outcome_iff.mpr hfits
    rw [hs] at hok
    cases hok
  · rintro ⟨j, pair, hpair, hnot⟩
    cases houtcome : ended.outcome with
    | error fault => exact ⟨fault, rfl⟩
    | ok lists =>
        obtain ⟨answered, -, hfits⟩ := ledger.fits_of_ok houtcome hpair
        exact absurd hfits (hnot answered)

/-- **The results of a query**, if it does not fail: one for each call, from the answer to its batch
and at the place that it has there. -/
theorem result_of_call (ledger : Ledger contract start limit size origin calls pairs ended)
    (hok : ended.outcome = .ok lists) {i : Nat} (hi : i < calls.length) :
    ∃ (pair : Sent) (answered : List CallResult), pairs[i / max size 1]? = some pair ∧
      Multicall.Fits pair.1.job pair.2.outcome answered ∧
      i % max size 1 < answered.length ∧ lists.flatten[i]? = answered[i % max size 1]? := by
  obtain ⟨pair, hpair⟩ := ledger.exists_pair_of_ok hok
    (Nat.lt_of_le_of_lt (Nat.mul_div_le i (max size 1)) hi)
  obtain ⟨answered, hanswered, hfits⟩ := ledger.fits_of_ok hok hpair
  refine ⟨pair, answered, hpair, hfits, ?_, ?_⟩
  · obtain ⟨-, -, -, hlength⟩ := hfits
    rw [hlength, (ledger.batch_of_pair hpair).2]
    exact mod_lt_length_batch (Nat.le_max_right size 1) hi
  · rw [getElem?_flatten_of_chunks (ledger.map_length_of_ok hok), hanswered]
    rfl

end Ledger

/-- **Each result belongs to its call**, whatever the client answers and however long it takes.

A query in batches sends some of the batches, in the order of the calls and within the limit. It
fails exactly if the answer to one of those does not fit; otherwise it has one result for each call,
and the result of a call is found in the answer to the batch of that call, at the place that the
call has in the batch. It comes to its end within three steps for each batch, and at the instant of
an answer. Limits and sizes of zero count as one, and nothing is sent for no calls. -/
theorem results_of_batched [Wording] (settings : QuerySettings) (block : Execution.BlockId)
    (batchSize : Nat) (client : Client σ) (calls : List ContractCall) (state : σ) :
    let size := max batchSize 1
    let limit := max settings.limit 1
    let ended := batched settings block batchSize client calls state
    batched { settings with limit } block size client calls state = ended ∧
      (∀ fuel, 3 * (chunks batchSize calls).length < fuel →
        let run := Window.runFor (send settings.contract block client) fuel
          { limit, pending := chunks batchSize calls } state
        ended = ⟨run.finish, run.outcome.map List.flatten, run.state⟩) ∧
      ∃ exchanges : List (Start Execution.CallRequest Bytes),
        Course (client.ask block) limit state exchanges ended.state ∧
        Prompt ended.finish exchanges ∧
        (∀ j exchange, exchanges[j]? = some exchange →
          size * j < calls.length ∧
            exchange.job = Multicall.request settings.contract (batch size calls j)) ∧
        ((∃ fault, ended.outcome = .error fault) ↔
          ∃ j exchange, exchanges[j]? = some exchange ∧
            ∀ answered, ¬ Multicall.Fits (batch size calls j) exchange.outcome answered) ∧
        (∀ results, ended.outcome = .ok results →
          results.length = calls.length ∧
            ∀ i < calls.length, ∃ exchange answered,
              exchanges[i / size]? = some exchange ∧
                Multicall.Fits (batch size calls (i / size)) exchange.outcome answered ∧
                (batch size calls (i / size))[i % size]? = calls[i]? ∧
                i % size < answered.length ∧ results[i]? = answered[i % size]?) ∧
        (calls = [] → exchanges = [] ∧ ended.outcome = .ok []) := by
  intro size limit ended
  obtain ⟨⟨started, haccount⟩, hsteps⟩ :=
    account_of_run (send settings.contract block client) settings.limit (chunks batchSize calls)
      state
  obtain ⟨pairs, rfl, hbehind, hcourse⟩ := exchanges_of_course haccount.course
  have ledger : Ledger settings.contract _ limit batchSize state calls pairs _ :=
    ⟨haccount, hbehind⟩
  have hexchange : ∀ {j : Nat} {exchange : Start Execution.CallRequest Bytes},
      (pairs.map Prod.snd)[j]? = some exchange →
        ∃ pair, pairs[j]? = some pair ∧ pair.2 = exchange :=
    fun h => Option.map_eq_some_iff.mp ((List.getElem?_map ..).symm.trans h)
  have hpair : ∀ {j : Nat} {pair : Sent}, pairs[j]? = some pair →
      (pairs.map Prod.snd)[j]? = some pair.2 :=
    fun h => (List.getElem?_map ..).trans (congrArg (Option.map Prod.snd) h)
  refine ⟨?_, fun fuel hfuel => ?_, pairs.map Prod.snd, hcourse, prompt_exchanges hbehind
    haccount.prompt, fun j exchange h => ?_, ?_, fun results hresults => ?_, fun hnone => ?_⟩
  · simp only [batched, runBatches, Window.run, chunks_max, ended, limit, size,
      Nat.max_eq_left (Nat.le_max_right settings.limit 1)]
  · simp only [ended, batched, runBatches, limit, hsteps fuel hfuel]
  · obtain ⟨pair, hsent, rfl⟩ := hexchange h
    obtain ⟨hj, hjob⟩ := ledger.batch_of_pair hsent
    exact ⟨hj, hjob ▸ (hbehind pair (List.mem_of_getElem? hsent)).job_eq⟩
  · refine (Outcome.map_eq_error_iff List.flatten).trans (ledger.error_iff.trans ?_)
    constructor
    · rintro ⟨j, pair, h, hnot⟩
      exact ⟨j, pair.2, hpair h, (ledger.batch_of_pair h).2 ▸ hnot⟩
    · rintro ⟨j, exchange, h, hnot⟩
      obtain ⟨pair, hsent, rfl⟩ := hexchange h
      exact ⟨j, pair, hsent, (ledger.batch_of_pair hsent).2.symm ▸ hnot⟩
  · obtain ⟨lists, hok, rfl⟩ := Outcome.map_eq_ok_iff.mp hresults
    refine ⟨?_, fun i hi => ?_⟩
    · rw [List.length_flatten, ledger.map_length_of_ok hok, ← List.length_flatten, flatten_chunks]
    · obtain ⟨pair, answered, h, hfits, hmod, hresult⟩ := ledger.result_of_call hok hi
      rw [(ledger.batch_of_pair h).2] at hfits
      exact ⟨pair.2, answered, hpair h, hfits,
        getElem?_batch (Nat.le_max_right batchSize 1) calls i, hmod, hresult⟩
  · subst hnone
    have hjobs := haccount.jobs_le
    rw [chunks_nil, List.prefix_nil, List.map_map, List.map_eq_nil_iff] at hjobs
    subst hjobs
    exact ⟨rfl, congrArg (Except.map List.flatten) haccount.outcome_eq⟩

end Query

end NodeGateway
