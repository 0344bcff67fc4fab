import NodeGateway.Proofs.Failover.Transparency
import NodeGateway.Proofs.Query.Multicall

/-!
# Queries over a Failover Pool

A query in batches whose requests go through a pool with a fallback. The requests are dispatched at
the same time, share the readiness of both endpoints and may find the primary lost at any moment.
If both endpoints give the same results for the same calls, none of this shows: the query has one
result for each call, and it is the one that an endpoint gives for this call on its own.

Each layer contributes what it guarantees by itself.

* Failover hides the losses of the primary: what a dispatch hands out is the answer of one of its
  own attempts (`System.exists_answer_of_ended`).
* The format is exact: the calls that are read from a request are those that were packed into it,
  and likewise for the results in an answer (`Multicall.Serves.fits`).
* The window hands the results of the batches on in their order, however late each of them arrives
  (`Window.Account.outcome_of_all`), and the batches put together are all calls (`flatten_chunks`).

What connects the query with the pool is that the request with a number is answered with what the
dispatch with that number hands out (`Query.Client.Through`). Nothing is said about when, so the
steps of the dispatches may be interleaved in any way.

The main result is `Query.results_over_failover`.
-/

namespace NodeGateway

namespace Multicall

/-- An outcome **serves** a request with some results if they are the results of the calls that are
read from it, in their order. -/
def Serves (f : ContractCall → CallResult) (request : Execution.CallRequest)
    (outcome : Outcome Bytes) : Prop :=
  ∃ calls, request.input.bind unpack? = some calls ∧ outcome = .ok (answer (calls.map f))

/-- The results of the calls that a request packs serve it. -/
theorem serves_answer (f : ContractCall → CallResult) (contract : Address)
    {calls : List ContractCall} (hsent : (pack calls).length < Abi.wordBound) :
    Serves f (request contract calls) (.ok (answer (calls.map f))) := by
  refine ⟨calls, ?_, rfl⟩
  rw [request, Option.bind_some, unpack?_pack hsent]

/-- What serves a request for some calls fits these calls. -/
theorem Serves.fits {f : ContractCall → CallResult} {contract : Address}
    {calls : List ContractCall} {outcome : Outcome Bytes}
    (h : Serves f (request contract calls) outcome) (hsent : (pack calls).length < Abi.wordBound)
    (hback : (answer (calls.map f)).length < Abi.wordBound) :
    Fits calls outcome (calls.map f) := by
  obtain ⟨found, hfound, rfl⟩ := h
  rw [request, Option.bind_some, unpack?_pack hsent] at hfound
  cases hfound
  exact fits_answer (List.length_map f) hback

end Multicall

namespace Query

open Window

/-- The **requests** of a query in batches. -/
def requests (contract : Address) (batchSize : Nat) (calls : List ContractCall) :
    List Execution.CallRequest :=
  (chunks batchSize calls).map (Multicall.request contract)

/-- The request with a number packs the batch with that number. -/
theorem getElem?_requests (contract : Address) (batchSize : Nat) (calls : List ContractCall)
    {j : Nat} (hj : max batchSize 1 * j < calls.length) :
    (requests contract batchSize calls)[j]? =
      some (Multicall.request contract (batch (max batchSize 1) calls j)) := by
  rw [requests, List.getElem?_map, getElem?_chunks, if_pos hj]
  rfl

/-- A client goes **through** the dispatches of a system with some requests: on the way from one
state to another, the request with a number is answered, after any time, with what the dispatch with
that number hands out. -/
def Client.Through (client : Client σ) (block : Execution.BlockId) (limit : Nat)
    (requests : List Execution.CallRequest) (state after : σ) (system : System Bytes) : Prop :=
  ∀ exchanges, Course (client.ask block) limit state exchanges after →
    exchanges.map Start.job <+: requests →
      ∀ (j : Nat) exchange, exchanges[j]? = some exchange →
        system.phases[j]? = some (.ended exchange.outcome)

/-- The client that gives the request with a number a certain outcome after a certain time. -/
def Client.relay (outcomes : Nat → Outcome Bytes) (millis : Nat → Nat) : Client Nat :=
  fun _ _ _ _ number => ({ outcome := outcomes number, millis := millis number }, number + 1)

/-- What a relay has answered so far is what it was given. -/
theorem Client.relay_course {outcomes : Nat → Outcome Bytes} {millis : Nat → Nat}
    {block : Execution.BlockId} {limit after : Nat}
    {exchanges : List (Start Execution.CallRequest Bytes)}
    (h : Course ((relay outcomes millis).ask block) limit 0 exchanges after) :
    after = exchanges.length ∧
      ∀ (j : Nat) exchange, exchanges[j]? = some exchange → exchange.outcome = outcomes j := by
  induction h with
  | none => exact ⟨rfl, nofun⟩
  | @next exchanges number now request course prompt begun room ih =>
      obtain ⟨rfl, hold⟩ := ih
      refine ⟨by rw [List.length_append]; rfl, fun j exchange hj => ?_⟩
      rcases Nat.lt_trichotomy j exchanges.length with hlt | rfl | hgt
      · rw [List.getElem?_append_left hlt] at hj
        exact hold j exchange hj
      · obtain rfl : _ = exchange := by simpa using hj
        rfl
      · rw [List.getElem?_eq_none (by simp; omega)] at hj
        cases hj

/-- **A relay goes through** any dispatches that have ended, with the outcomes that they have handed
out and any delays. -/
theorem Client.through_relay {outcomes : Nat → Outcome Bytes}
    {requests : List Execution.CallRequest} {system : System Bytes}
    (h : ∀ j < requests.length, system.phases[j]? = some (.ended (outcomes j)))
    (millis : Nat → Nat) (block : Execution.BlockId) (limit after : Nat) :
    (relay outcomes millis).Through block limit requests 0 after system := by
  intro exchanges hcourse hjobs j exchange hj
  have hlt := (List.getElem?_eq_some_iff.mp hj).1
  have hle := hjobs.length_le
  rw [List.length_map] at hle
  rw [(relay_course hcourse).2 j exchange hj]
  exact h j (by omega)

/-- The endpoints **serve** some requests: every attempt of the dispatch with a number loses the
connection or serves the request with that number. -/
def EndpointsServe (f : ContractCall → CallResult) (requests : List Execution.CallRequest)
    (system : System Bytes) : Prop :=
  ∀ ending ∈ system.endings, ∀ request, requests[ending.index]? = some request →
    ending.outcome.isDisconnected = true ∨ Multicall.Serves f request ending.outcome

/-- The exchanges behind the batches of a query are about its requests. -/
theorem jobs_of_exchanges [Wording] {contract : Address} {batchSize : Nat}
    {calls : List ContractCall} {pairs : List Sent}
    (hbehind : ∀ pair ∈ pairs, Behind contract pair.1 pair.2)
    (hjobs : (pairs.map Prod.fst).map Start.job <+: chunks batchSize calls) :
    (pairs.map Prod.snd).map Start.job <+: requests contract batchSize calls := by
  have heq : (pairs.map Prod.snd).map Start.job =
      ((pairs.map Prod.fst).map Start.job).map (Multicall.request contract) := by
    rw [List.map_map, List.map_map, List.map_map]
    exact List.map_congr_left fun pair hpair => (hbehind pair hpair).job_eq
  rw [heq]
  exact hjobs.map _

/-- **Queries over a failover pool** give the result of each call, in the order of the calls, if an
endpoint that answers gives the result of each call that it reads from a request.

This holds of all calls, batch sizes and limits, of every pool whose fallback is ready at first,
whatever is believed of the primary, of all interleavings of the dispatches (`events`) on any clock,
with the primary lost in any attempts on it, and of a client that takes any time for its answers. -/
theorem results_over_failover [Wording] (f : ContractCall → CallResult)
    (settings : QuerySettings) (block : Execution.BlockId) (batchSize : Nat)
    (calls : List ContractCall) (client : Client σ) (state : σ) (pool : Pool) (count : Nat)
    (events : List (Readings × Event Bytes))
    (hready : pool.isReady .fallback = true) :
    let requests := requests settings.contract batchSize calls
    let system := (System.fresh pool count).run events
    let ended := batched settings block batchSize client calls state
    system.FallbackAnswers → EndpointsServe f requests system →
      client.Through block (max settings.limit 1) requests state ended.state system →
        (Multicall.pack calls).length < Abi.wordBound →
          (Multicall.answer (calls.map f)).length < Abi.wordBound →
            ended.outcome = .ok (calls.map f) := by
  intro requests system ended hanswers hserve hthrough hsent hback
  obtain ⟨⟨started, haccount⟩, -⟩ :=
    account_of_run (send settings.contract block client) settings.limit (chunks batchSize calls)
      state
  obtain ⟨pairs, rfl, hbehind, hcourse⟩ := exchanges_of_course haccount.course
  have hjobs := jobs_of_exchanges hbehind haccount.jobs_le
  have hall : ∀ s ∈ pairs.map Prod.fst, s.outcome = .ok (s.job.map f) := by
    intro s hs
    obtain ⟨j, hj⟩ := List.getElem?_of_mem hs
    obtain ⟨hlt, hjob⟩ := job_of_start haccount hj
    obtain ⟨pair, hpair, rfl⟩ := Option.map_eq_some_iff.mp ((List.getElem?_map ..).symm.trans hj)
    have hexchange : (pairs.map Prod.snd)[j]? = some pair.2 := by rw [List.getElem?_map, hpair]; rfl
    -- the dispatch hands out the answer of one of its attempts, which serves the batch
    obtain ⟨hkept, attempt, hending⟩ := System.exists_answer_of_ended hready count events hanswers
      (hthrough _ hcourse hjobs j pair.2 hexchange)
    have hserves := (hserve _ hending _ (getElem?_requests settings.contract batchSize calls hlt)
      ).resolve_left (Bool.eq_false_iff.mp hkept)
    have hsub : List.Sublist (batch (max batchSize 1) calls j) calls :=
      (List.take_sublist _ _).trans (List.drop_sublist _ _)
    have hfits := hserves.fits
      (Nat.lt_of_le_of_lt (Multicall.length_pack_le hsub) hsent)
      (Nat.lt_of_le_of_lt (Multicall.length_answer_le (hsub.map f)) hback)
    rw [← hjob] at hfits
    exact (hbehind pair (List.mem_of_getElem? hpair)).outcome_iff.mpr hfits
  have houtcome := haccount.outcome_of_all hall
  simp only [ended, batched, runBatches, houtcome]
  change Except.ok ((chunks batchSize calls).map (List.map f)).flatten = _
  rw [← List.map_flatten, flatten_chunks]

/-- **Three dispatches**, two at a time: the first loses the primary and goes to the fallback, the
second is answered by the primary in between, and the third finds the primary down. -/
def threeDispatches (first second third : Bytes) : System Bytes :=
  (System.fresh (Pool.fresh "Execution" (.ofMillis 1000) true) 3).run
    [(Instant.ofMillis 0, .enter 0), (Instant.ofMillis 0, .enter 1),
      (Instant.ofMillis 10, .settle 0 (.error (.disconnected "reset"))),
      (Instant.ofMillis 20, .settle 1 (.ok second)), (Instant.ofMillis 30, .settle 0 (.ok first)),
      (Instant.ofMillis 30, .enter 2), (Instant.ofMillis 40, .settle 2 (.ok third))]

/-- How the attempts of the three dispatches end. -/
theorem endings_threeDispatches (first second third : Bytes) :
    (threeDispatches first second third).endings =
      [⟨0, .ordinary .primary, .error (.disconnected "reset")⟩,
        ⟨1, .ordinary .primary, .ok second⟩, ⟨0, .ordinary .fallback, .ok first⟩,
        ⟨2, .ordinary .fallback, .ok third⟩] := rfl

/-- What the three dispatches hand out. -/
theorem phases_threeDispatches (first second third : Bytes) :
    (threeDispatches first second third).phases =
      [.ended (.ok first), .ended (.ok second), .ended (.ok third)] := rfl

/-- Three batches, of which the second is answered before the first. -/
theorem results_over_failover_three :
    letI : Wording := .silent
    let f : ContractCall → CallResult := fun call => ⟨!call.data.isEmpty, call.data⟩
    let settings : QuerySettings := ⟨FixedBytes.ofNat 20 0xca, 2, 100⟩
    let calls : List ContractCall :=
      [⟨FixedBytes.ofNat 20 1, [0xaa], false⟩, ⟨FixedBytes.ofNat 20 2, [], true⟩,
        ⟨FixedBytes.ofNat 20 3, List.replicate 40 0xbb, false⟩]
    let data (j : Nat) : Bytes := Multicall.answer ((batch 1 calls j).map f)
    let system := threeDispatches (data 0) (data 1) (data 2)
    let client := Client.relay (fun j => .ok (data j)) fun j => 30 - 10 * j
    let ended := batched settings (.number (.tag .latest)) 1 client calls 0
    (system.FallbackAnswers ∧ EndpointsServe f (requests settings.contract 1 calls) system ∧
      client.Through (.number (.tag .latest)) 2 (requests settings.contract 1 calls) 0 ended.state
        system) ∧
    ended.outcome = .ok (calls.map f) := by
  let _ : Wording := .silent
  intro f settings calls data system client ended
  have hsize : ∀ j < 3, (Multicall.pack (batch 1 calls j)).length < Abi.wordBound := by
    decide +kernel
  have hserves (j : Nat) (hj : j < 3) (request : Execution.CallRequest)
      (hrequest : (requests settings.contract 1 calls)[j]? = some request) :
      Multicall.Serves f request (.ok (data j)) := by
    rw [getElem?_requests settings.contract 1 calls (by simpa [calls] using hj)] at hrequest
    rw [← Option.some.inj hrequest]
    exact Multicall.serves_answer f settings.contract (hsize j hj)
  have hanswers : system.FallbackAnswers := by
    simp [System.FallbackAnswers, system, endings_threeDispatches, Outcome.isDisconnected]
  have hserve : EndpointsServe f (requests settings.contract 1 calls) system := by
    intro ending hmem request hrequest
    simp only [system, endings_threeDispatches, List.mem_cons, List.not_mem_nil, or_false] at hmem
    rcases hmem with rfl | rfl | rfl | rfl
    · exact .inl rfl
    · exact .inr (hserves 1 (by decide) request hrequest)
    · exact .inr (hserves 0 (by decide) request hrequest)
    · exact .inr (hserves 2 (by decide) request hrequest)
  have hthrough : client.Through (.number (.tag .latest)) 2 (requests settings.contract 1 calls) 0
      ended.state system := by
    refine Client.through_relay (fun j hj => ?_) _ _ _ _
    rw [requests, List.length_map, lt_length_chunks_iff, Nat.max_self, Nat.one_mul] at hj
    rw [phases_threeDispatches]
    obtain rfl | rfl | rfl : j = 0 ∨ j = 1 ∨ j = 2 := by
      simp only [calls, List.length_cons, List.length_nil] at hj
      omega
    all_goals rfl
  exact ⟨⟨hanswers, hserve, hthrough⟩,
    results_over_failover f settings (.number (.tag .latest)) 1 calls client 0 _ 3 _ rfl
      hanswers hserve hthrough (by decide +kernel) (by decide +kernel)⟩

end Query

end NodeGateway
