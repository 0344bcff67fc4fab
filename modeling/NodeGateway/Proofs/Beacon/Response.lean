import NodeGateway.Proofs.Http.Misreading

/-!
# How Responses of Beacon Nodes Are Sorted

The binding to beacon nodes has one reading of a response for each kind of method: a body that has
to be there, a body that the node may not know, and a submission, whose response is not looked into.
Here every complete response to every method is sorted by what it is, with its status and its body
in view and nothing else.

* A success whose body decodes as what the method asks for is answered with what it holds.
* The status 404 is an answer too where a block was asked for: there is none.
* Any other status is a fault that names the status and quotes the body, and a success whose body
  does not decode is a fault of the transport.

So a value is never made up, and 404 is taken for an answer nowhere else. That a body is missing
where it has to be there is checked for and never happens.

## Main definitions

* `Beacon.Method.payload?`, what a document holds for a method;
* `Beacon.Sorted`, how a response to a request is sorted.

## Main results

* `Beacon.Method.sorted_ofResponse`: how a response to a method is sorted;
* `Beacon.call_ne_noBody`: no call ends for want of a body;
* `Beacon.call_of_response`: what a call comes to that is answered by a complete response.
-/

namespace NodeGateway.Beacon

open Http (isSuccess)

/-! ### What a response may hold -/

/-- The fault of a **status** that is no success. -/
def statusFault (response : Http.Response) : Fault :=
  .other ("beacon node responded with " ++ Http.statusLine response.status ++ ": " ++
    response.bodyText)

/-- The document in the body of a response. -/
def document? (response : Http.Response) : Option Json := response.body.bind Http.Response.document?

/-- What a document holds in an envelope. -/
def enclosed? (data : Shape) (document : Json) : Option data.Value :=
  ((envelope data).read? document).map (·.1)

/-- The **payload**: what a document holds for a method, if it decodes as its response. -/
def Method.payload? : (method : Method) → Json → Option method.answer.Value
  | nodeSyncing => enclosed? syncStatus
  | configSpec => enclosed? chainSpec
  | depositContract => enclosed? Beacon.depositContract
  | genesis => enclosed? Beacon.genesis
  | finalityCheckpoints => enclosed? Beacon.finalityCheckpoints
  | fork => enclosed? Beacon.fork
  | header => fun document => (blockHeaderResponse.read? document).map some
  | attestations => fun document => (enclosed? (.list attestation) document).map some
  | block => fun document => ((enclosed? signedBeaconBlock document).map (·.1)).map some
  | validators => enclosed? (.list validator)
  | committees => enclosed? (.list committee)
  | submitVoluntaryExit => fun _ => none
  | submitCredentialsChange => fun _ => none
  | proposerDuties => enclosed? (.list proposerDuty)
  | syncDuties => enclosed? (.list syncDuty)

/-- The answer of a method that there is **no such block**, if the method asks for a block. -/
def Method.unknown? : (method : Method) → Option method.answer.Value
  | header => some (none : Option blockHeaderResponse.Value)
  | attestations => some (none : Option (Shape.list attestation).Value)
  | block => some (none : Option beaconBlock.Value)
  | _ => none

/-- What is made of a payload is made of it wherever the document comes from. -/
theorem bind_payload_map (response : Http.Response) (payload? : Json → Option α) (f : α → β) :
    (document? response).bind (fun document => (payload? document).map f) =
      ((document? response).bind payload?).map f :=
  Option.map_bind.symm

/-- How a response is **sorted**, given what a document may hold and the answer that the status 404
stands for, if it stands for one. -/
inductive Sorted (unknown? : Option α) (payload? : Json → Option α) (response : Http.Response) :
    Outcome α → Prop
  /-- The node does not know what it was asked for, and this is an answer. -/
  | unknown {answer : α} (is_answer : unknown? = some answer) (status_eq : response.status = 404) :
      Sorted unknown? payload? response (.ok answer)
  /-- The node did not do what it was asked for. -/
  | refused (failed : isSuccess response.status = false)
      (no_answer : response.status = 404 → unknown? = none) :
      Sorted unknown? payload? response (.error (statusFault response))
  /-- The node answered. -/
  | held {answer : α} (succeeded : isSuccess response.status = true)
      (payload : (document? response).bind payload? = some answer) :
      Sorted unknown? payload? response (.ok answer)
  /-- The node sent something else. -/
  | undecodable {failure : Http.Failure} (succeeded : isSuccess response.status = true)
      (no_payload : (document? response).bind payload? = none) :
      Sorted unknown? payload? response (.error (transportFault failure))

namespace Sorted

variable {unknown? : Option α} {payload? : Json → Option α} {response : Http.Response}
  {outcome : Outcome α}

/-- What is made of an answer is made of whatever it comes from. -/
theorem map (f : α → β) (h : Sorted unknown? payload? response outcome) :
    Sorted (unknown?.map f) (fun document => (payload? document).map f) response
      (outcome.map f) := by
  have hpayload := bind_payload_map response payload? f
  cases h with
  | unknown is_answer status_eq => exact .unknown (by rw [is_answer]; rfl) status_eq
  | refused failed no_answer => exact .refused failed fun h => by rw [no_answer h]; rfl
  | held succeeded payload => exact .held succeeded (by rw [hpayload, payload]; rfl)
  | undecodable succeeded no_payload =>
      exact .undecodable succeeded (by rw [hpayload, no_payload]; rfl)

/-- What is made of an answer that the node may not know. -/
theorem mapKnown (f : α → β) {outcome : Outcome (Option α)}
    (h : Sorted (some none) (fun document => (payload? document).map some) response outcome) :
    Sorted (some none) (fun document => ((payload? document).map f).map some) response
      (outcome.map (Option.map f)) := by
  have hmap := h.map (Option.map f)
  simp only [Option.map_map] at hmap ⊢
  exact hmap

theorem not_unknown_of_isSuccess (h : isSuccess response.status = true) :
    response.status ≠ 404 :=
  fun hstatus => nomatch (hstatus ▸ h : isSuccess 404 = true)

/-- **When a response is an answer**: the node does not know of anything, or it has sent what it was
asked for. -/
theorem eq_ok_iff (h : Sorted unknown? payload? response outcome) {answer : α} :
    outcome = .ok answer ↔ (unknown? = some answer ∧ response.status = 404) ∨
      (isSuccess response.status = true ∧ (document? response).bind payload? = some answer) := by
  cases h with
  | unknown is_answer status_eq =>
      simp only [is_answer, status_eq, Except.ok.injEq, Option.some.injEq, and_true]
      exact ⟨.inl, fun h => h.elim id fun h => nomatch h.1⟩
  | refused failed no_answer =>
      refine ⟨nofun, ?_⟩
      rintro (⟨his, hstatus⟩ | ⟨hsucceeded, -⟩)
      · cases (no_answer hstatus).symm.trans his
      · cases failed.symm.trans hsucceeded
  | held succeeded payload =>
      have hstatus := not_unknown_of_isSuccess succeeded
      simp [succeeded, payload, hstatus]
  | undecodable succeeded no_payload =>
      have hstatus := not_unknown_of_isSuccess succeeded
      simp [no_payload, hstatus]

/-- **Every other status** is a fault that names it. -/
theorem eq_statusFault (h : Sorted unknown? payload? response outcome)
    (hfailed : isSuccess response.status = false)
    (hknown : response.status = 404 → unknown? = none) :
    outcome = .error (statusFault response) := by
  cases h with
  | unknown is_answer status_eq => cases (hknown status_eq).symm.trans is_answer
  | refused => rfl
  | held succeeded => cases hfailed.symm.trans succeeded
  | undecodable succeeded => cases hfailed.symm.trans succeeded

end Sorted

/-! ### The readings of a response -/

section

variable (response : Http.Response)

/-- A body in some shape, which the node may not know. -/
theorem sorted_fetched (shape : Shape) (mayBeUnknown : Bool) :
    Sorted (if mayBeUnknown then some none else none)
      (fun document => (shape.read? document).map some) response
      (fetched shape mayBeUnknown response) := by
  rw [fetched]
  by_cases hunknown : (mayBeUnknown && isUnknown response) = true
  · rw [if_pos hunknown]
    obtain ⟨hmay, hstatus⟩ := Bool.and_eq_true_iff.mp hunknown
    exact .unknown (if_pos hmay) (of_decide_eq_true hstatus)
  · rw [if_neg hunknown, successful]
    by_cases hsucceeded : isSuccess response.status = true
    · rw [if_pos hsucceeded]
      have hpayload := bind_payload_map response shape.read? some
      rcases response with ⟨status, body⟩
      cases body with
      | none => exact .undecodable hsucceeded rfl
      | some body =>
          simp only [bind, Except.bind, Http.Response.decode]
          cases hread : (Http.Response.document? body).bind shape.read? with
          | some value => exact .held hsucceeded (hpayload.trans (congrArg (Option.map some) hread))
          | none =>
              exact .undecodable hsucceeded (hpayload.trans (congrArg (Option.map some) hread))
    · rw [if_neg hsucceeded]
      refine .refused (Bool.eq_false_iff.mpr hsucceeded) fun hstatus => if_neg fun hmay => ?_
      exact hunknown (Bool.and_eq_true_iff.mpr ⟨hmay, decide_eq_true hstatus⟩)

/-- An enveloped body that has to be there. It is never missing. -/
theorem sorted_enveloped (path host : String) (data : Shape) :
    Sorted none (enclosed? data) response (enveloped path host data response) := by
  have hpayload : (document? response).bind (enclosed? data) =
      ((document? response).bind (envelope data).read?).map (·.1) :=
    bind_payload_map response (envelope data).read? (·.1)
  have hfetched := sorted_fetched response (envelope data) false
  rw [enveloped]
  generalize fetched (envelope data) false response = outcome at hfetched ⊢
  cases hfetched with
  | unknown is_answer => cases is_answer
  | refused failed => exact .refused failed fun _ => rfl
  | held succeeded payload =>
      rw [bind_payload_map] at payload
      obtain ⟨value, hvalue, rfl⟩ := Option.map_eq_some_iff.mp payload
      exact .held succeeded (by rw [hpayload, hvalue]; rfl)
  | undecodable succeeded no_payload =>
      rw [bind_payload_map] at no_payload
      refine .undecodable succeeded ?_
      rw [hpayload, Option.map_eq_none_iff.mp no_payload]
      rfl

/-- An enveloped body that the node may not know. -/
theorem sorted_envelopedIfKnown (data : Shape) :
    Sorted (some none) (fun document => (enclosed? data document).map some) response
      (envelopedIfKnown data response) :=
  (sorted_fetched response (envelope data) true).mapKnown (·.1)

/-- **How a response to a method is sorted** whose response is looked into. -/
theorem Method.sorted_ofResponse (path host : String) {method : Method}
    (h : method.body? ≠ none) :
    Sorted method.unknown? method.payload? response (method.ofResponse path host response) := by
  cases method
  case header => exact sorted_fetched response blockHeaderResponse true
  case attestations => exact sorted_envelopedIfKnown response (.list attestation)
  case block => exact (sorted_envelopedIfKnown response signedBeaconBlock).mapKnown (·.1)
  case submitVoluntaryExit => exact absurd rfl h
  case submitCredentialsChange => exact absurd rfl h
  all_goals exact sorted_enveloped response path host _

/-- The response to a submission is not looked into. -/
theorem submitted_eq : submitted response =
    if isSuccess response.status then .ok () else .error (statusFault response) := by
  rw [submitted, successful]
  split <;> rfl

/-- **A submission** is accepted exactly if the status is a success, and every other status is a
fault. -/
theorem Method.ofResponse_of_submission (path host : String) {method : Method}
    (h : method.body? = none) :
    (∀ answer, method.ofResponse path host response = .ok answer ↔
        isSuccess response.status = true) ∧
      (isSuccess response.status = false →
        method.ofResponse path host response = .error (statusFault response)) := by
  have hsubmitted := submitted_eq response
  cases method <;> cases h
  all_goals
    change (∀ answer : Unit, submitted response = .ok answer ↔ _) ∧
      (_ → submitted response = .error _)
    cases hsuccess : isSuccess response.status <;> simp [hsubmitted, hsuccess]

end

/-! ### A body is never missing -/

/-- A fault that is made of a response is a report of the binding. -/
theorem Method.exists_error_of_ofResponse {path host : String} {method : Method}
    {response : Http.Response} {fault : Fault}
    (h : method.ofResponse path host response = .error fault) :
    ∃ error : BeaconError, error.toFault = fault := by
  by_cases hbody : method.body? = none
  · obtain ⟨haccepted, hrefused⟩ := ofResponse_of_submission response path host hbody
    cases hsuccess : isSuccess response.status with
    | true =>
        cases method <;> cases hbody
        all_goals exact nomatch ((haccepted ()).mpr hsuccess).symm.trans h
    | false =>
        refine ⟨.status response.status response.bodyText, ?_⟩
        exact Except.error.inj ((hrefused hsuccess).symm.trans h)
  · have hsorted := sorted_ofResponse response path host hbody
    rw [h] at hsorted
    cases hsorted with
    | refused => exact ⟨.status response.status response.bodyText, rfl⟩
    | @undecodable failure => exact ⟨.ofFailure failure, rfl⟩

/-- What comes in front does not change with what comes behind. -/
theorem head?_append {front : String} {c : Char} (h : front.toList.head? = some c)
    (back : String) : (front ++ back).toList.head? = some c := by
  rw [String.toList_append, List.head?_append, h]
  rfl

/-- The path of a request begins with a slash. -/
theorem Request.head?_path (request : Request) : request.route.path.toList.head? = some '/' := by
  have hbetween : ∀ {front : String} (name back : String), front.toList.head? = some '/' →
      (front ++ name ++ back).toList.head? = some '/' :=
    fun name back h => head?_append (head?_append h name) back
  cases request with
  | finalityCheckpoints | fork | attestations | validators | committees =>
      exact hbetween _ _ (by decide)
  | header | block | proposerDuties | syncDuties => exact head?_append (by decide) _
  | submitVoluntaryExit =>
      exact (by decide : "/eth/v1/beacon/pool/voluntary_exits".toList.head? = some '/')
  | submitCredentialsChange =>
      exact (by decide : "/eth/v1/beacon/pool/bls_to_execution_changes".toList.head? = some '/')
  | _ => decide

/-- No report of the binding says that a body is missing: none of them begins with a path. -/
theorem toFault_ne_noBody (error : BeaconError) {path : String} (host : String)
    (hpath : path.toList.head? = some '/') : error.toFault ≠ noBody path host := by
  have hhead : (path ++ " on " ++ host ++ " returned no body").toList.head? = some '/' :=
    head?_append (head?_append (head?_append hpath _) _) _
  intro h
  cases error with
  | disconnected detail => cases h
  | timeout detail => cases h
  | status code body =>
      have hstatus : (BeaconError.status code body).message.toList.head? = some 'b' :=
        head?_append (head?_append (head?_append (by decide) _) _) _
      rw [Fault.other.inj h, hhead] at hstatus
      cases hstatus
  | other detail =>
      have hother : (BeaconError.other detail).message.toList.head? = some 'o' :=
        head?_append (by decide) _
      rw [Fault.other.inj h, hhead] at hother
      cases hother

/-- **No call ends for want of a body**, whatever the network does. -/
theorem call_ne_noBody (network : Http.Network σ) (base : Url) (request : Request) (state : σ) :
    (call network base request state).1 ≠ .error (noBody request.route.path base.hostText) := by
  have hnever := fun error : BeaconError => toFault_ne_noBody error base.hostText request.head?_path
  have hreport : ∀ error : BeaconError,
      (.error error.toFault : Outcome request.method.answer.Value) ≠
        .error (noBody request.route.path base.hostText) :=
    fun error h => hnever error (Except.error.inj h)
  rw [call]
  cases request.route.url base with
  | error _ => exact hreport (.ofFailure .unbuildable)
  | ok url =>
      change (network ⟨url, request.route.body⟩ state).1.outcome _ url _ _ ≠ _
      cases (network ⟨url, request.route.body⟩ state).1 with
      | refused => exact hreport (.ofFailure (.refused url))
      | dropped => exact hreport (.ofFailure (.dropped url))
      | silence => exact hreport (.timeout (request.route.path ++ " exceeded its deadline"))
      | response response =>
          intro h
          obtain ⟨error, herror⟩ := Method.exists_error_of_ofResponse h
          exact hnever error herror

/-! ### Complete responses -/

/-- An answer without a body is none that the node may not know. -/
theorem Method.unknown?_eq_none {method : Method} (h : method.body? = none) :
    method.unknown? = none := by
  cases method <;> first | rfl | exact absurd h (Option.some_ne_none _)

/-- An answer that there is no such block is not what a document holds. -/
theorem Method.unknown?_ne_payload? {method : Method} {document : Json}
    {answer : method.answer.Value} (h : method.payload? document = some answer) :
    method.unknown? ≠ some answer := by
  have hknown : ∀ {α : Type} (found : Option α) {answer : Option α},
      found.map some = some answer → some (none : Option α) ≠ some answer := by
    rintro α (_ | value) answer hfound
    · cases hfound
    · cases hfound
      exact nofun
  cases method with
  | header | attestations | block => exact hknown _ h
  | _ => exact nofun

/-- **A call that is answered by a complete response**, whatever its status is and whatever its body
holds. A method that asks for a block is answered with none exactly if the status is 404. A method
whose response is looked into is answered with a value exactly if the status is a success and the
body decodes, and the value is the payload; a submission is accepted exactly if the status is a
success. Every other status is a fault with the status and the text of the body, and no call ends
for want of a body. -/
theorem call_of_response {network : Http.Network σ} {base url : Url} {request : Request}
    {state after : σ} {status : ℕ} {body : Bytes} (hurl : request.route.url base = .ok url)
    (hreply : network ⟨url, request.route.body⟩ state = (.response ⟨status, some body⟩, after)) :
    let method := request.method
    let outcome := (call network base request state).1
    (∀ answer, method.unknown? = some answer → (outcome = .ok answer ↔ status = 404)) ∧
    (method.body? ≠ none → ∀ answer, method.unknown? ≠ some answer →
      (outcome = .ok answer ↔ isSuccess status = true ∧
        ∃ document, Http.Response.document? body = some document ∧
          method.payload? document = some answer)) ∧
    (method.body? = none → ∀ answer, outcome = .ok answer ↔ isSuccess status = true) ∧
    (isSuccess status = false → (status = 404 → method.unknown? = none) →
      outcome = .error (.other ("beacon node responded with " ++ Http.statusLine status ++ ": " ++
        Http.Response.text body))) ∧
    outcome ≠ .error (noBody request.route.path base.hostText) := by
  intro method outcome
  have houtcome : outcome =
      method.ofResponse request.route.path base.hostText ⟨status, some body⟩ := by
    simp only [outcome, call, hurl, hreply]
    rfl
  refine ⟨fun answer hanswer => ?_, fun hbody answer hknown => ?_, fun hbody answer => ?_,
    fun hfailed hknown => ?_, call_ne_noBody network base request state⟩
  · have hbody : method.body? ≠ none := by
      intro h
      rw [Method.unknown?_eq_none h] at hanswer
      cases hanswer
    rw [houtcome, (Method.sorted_ofResponse _ _ _ hbody).eq_ok_iff]
    constructor
    · rintro (⟨-, hstatus⟩ | ⟨-, hpayload⟩)
      · exact hstatus
      · obtain ⟨document, -, hheld⟩ := Option.bind_eq_some_iff.mp hpayload
        exact absurd hanswer (Method.unknown?_ne_payload? hheld)
    · exact fun hstatus => .inl ⟨hanswer, hstatus⟩
  · rw [houtcome, (Method.sorted_ofResponse _ _ _ hbody).eq_ok_iff, ← Option.bind_eq_some_iff]
    exact ⟨fun h => h.elim (fun h => absurd h.1 hknown) id, .inr⟩
  · rw [houtcome]
    exact (Method.ofResponse_of_submission _ _ _ hbody).1 answer
  · rw [houtcome]
    by_cases hbody : method.body? = none
    · exact (Method.ofResponse_of_submission _ _ _ hbody).2 hfailed
    · exact (Method.sorted_ofResponse _ _ _ hbody).eq_statusFault hfailed hknown

/-- A node that is asked for a block and sends the status 404 knows of none, whatever it says about
it. -/
theorem call_of_response_unknown :
    let base : Url :=
      { scheme := "http"
        authority := some { userinfo := "", host := .name "primary", port := none }
        path := .segments [""], query := none, fragment := none }
    let request := Request.block "17"
    let body := Utf8.encode "connection refused".toList
    let network : Http.Network Unit := .answering 404 body
    let url := { base with path := .segments ["eth", "v2", "beacon", "blocks", "17"] }
    let method := request.method
    let outcome := (call network base request ()).1
    request.route.url base = .ok url ∧
    network ⟨url, request.route.body⟩ () = (.response ⟨404, some body⟩, ()) ∧
    ((∀ answer, method.unknown? = some answer → (outcome = .ok answer ↔ 404 = 404)) ∧
      (method.body? ≠ none → ∀ answer, method.unknown? ≠ some answer →
        (outcome = .ok answer ↔ isSuccess 404 = true ∧
          ∃ document, Http.Response.document? body = some document ∧
            method.payload? document = some answer)) ∧
      (method.body? = none → ∀ answer, outcome = .ok answer ↔ isSuccess 404 = true) ∧
      (isSuccess 404 = false → (404 = 404 → method.unknown? = none) →
        outcome = .error (.other ("beacon node responded with " ++ Http.statusLine 404 ++ ": " ++
          Http.Response.text body))) ∧
      outcome ≠ .error (noBody request.route.path base.hostText)) ∧
    outcome = .ok (none : Option beaconBlock.Value) := by
  intro base request body network url method outcome
  have hurl : request.route.url base = .ok url := by decide +kernel
  have hreply : network ⟨url, request.route.body⟩ () = (.response ⟨404, some body⟩, ()) := rfl
  have hcall := call_of_response hurl hreply
  exact ⟨hurl, hreply, hcall, (hcall.1 none rfl).mpr rfl⟩

end NodeGateway.Beacon
