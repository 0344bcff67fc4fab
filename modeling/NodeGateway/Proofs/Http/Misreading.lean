import NodeGateway.Beacon.Binding
import NodeGateway.Oracle.Binding
import NodeGateway.Proofs.Fault.Connection

/-!
# Answers That Are Taken for Lost Connections

A response that arrived as a whole is an answer, whatever its status is and whatever its body holds.
Almost every such response is reported as one: a status that is no success, a body that is no
document and a document of another form are faults that keep the connection. There is **one
exception**. The failure to decode a body carries what the reader complains about, every cause of a
failure is searched for signs of a lost connection, and a reader that meets a text where it cannot
take one may quote it: in the place of a record, a list, a flag or a single byte, and in that of a
byte string of any length. So an endpoint that answers with a success and puts a phrase such as
`connection refused` into such a place is taken for lost.

This module says exactly when that happens, for both kinds of nodes that are asked over plain HTTP.

## Main results

* `Http.Response.decode_isConnectionFailure_iff`: when the failure to decode a body counts as a lost
  connection;
* `Beacon.Method.ofResponse_isDisconnected_iff`: when the reading of a response does;
* `Beacon.Method.misreadAs_of_text` and `Oracle.misreadAnswer_of_text`: no method that looks into a
  body is safe from it;
* `Http.isDisconnected_of_complete_response`: when a call that is answered by a complete response
  ends in a lost connection;
* `Http.lost_by_its_answer`: a response for which it does.
-/

namespace NodeGateway

/-! ### Outcomes in steps -/

namespace Outcome

/-- A step that loses no connection leaves it to what comes before it. -/
theorem isDisconnected_bind {outcome : Outcome α} {next : α → Outcome β}
    (h : ∀ value, (next value).isDisconnected = false) :
    isDisconnected (outcome >>= next) = outcome.isDisconnected := by
  cases outcome with
  | error fault => rfl
  | ok value => exact h value

end Outcome

namespace Http

/-- The network on which **every call is answered**, with a status and a complete body. -/
def Network.answering (status : Nat) (body : Bytes) : Network σ :=
  fun _ state => (.response ⟨status, some body⟩, state)

/-- A body is **misread** by a reader if it is not decoded and the complaint about what the reader
stumbles over quotes a text that mentions a connection failure between its quotes. -/
structure Misread (read : Json → Option α) (stumble : Json → Option Complaint) (body : Bytes) :
    Prop where
  undecoded : (Response.document? body).bind read = none
  quoted : ∃ complaint text, (Response.beginning? body).bind stumble = some complaint ∧
    complaint.quoted? = some text ∧ mentionsConnectionFailure (Text.quote text) = true

namespace Failure

/-- A failure to decode is a connection failure exactly if the complaint mentions one. -/
theorem isConnectionFailure_undecodable (complaint : String) :
    (undecodable complaint).isConnectionFailure = mentionsConnectionFailure complaint := by
  have hwords : mentionsConnectionFailure (decodingText none) = false := by decide +kernel
  simp [isConnectionFailure, undecodable, CauseChain.isConnectionFailure, Layer.isConnectionFailure,
    hwords]

/-- A call for which there is no URL does not get as far as a connection. -/
theorem isConnectionFailure_unbuildable : unbuildable.isConnectionFailure = false := by
  decide +kernel

end Failure

namespace Response

/-- What there is of a document that can be read is the document. -/
theorem beginning?_of_document? {body : Bytes} {document : Json}
    (h : document? body = some document) : beginning? body = some document := by
  have hchars : ∀ {text : List Char} {value : Json}, Json.parseChars? text = some value →
      Json.beginChars? text = some value := by
    intro text value hparse
    unfold Json.parseChars? at hparse
    unfold Json.beginChars?
    split at hparse
    case h_1 =>
      split at hparse
      · exact hparse
      · cases hparse
    case h_2 => cases hparse
  obtain ⟨value, hvalue, hrest⟩ := Option.bind_eq_some_iff.mp h
  obtain ⟨other, hother, hcommon⟩ := Option.bind_eq_some_iff.mp hrest
  exact Option.bind_eq_some_iff.mpr ⟨value, hchars hvalue,
    Option.bind_eq_some_iff.mpr ⟨other, hchars hother, hcommon⟩⟩

/-- **When the failure to decode a body counts as a lost connection.** -/
theorem decode_isConnectionFailure_iff (read : Json → Option α)
    {stumble : Json → Option Complaint} {complaint : Option Json → String}
    (hcomplaint : ∀ document, complaint document = ((document.bind stumble).getD .unquoted).message)
    (status : Nat) (body : Bytes) :
    (∃ failure, decode read complaint ⟨status, some body⟩ = .error failure ∧
        failure.isConnectionFailure = true) ↔ Misread read stumble body := by
  simp only [decode]
  cases hread : (document? body).bind read with
  | some value =>
      exact ⟨fun ⟨_, h, _⟩ => (nomatch h), fun h => (nomatch hread.symm.trans h.undecoded)⟩
  | none =>
      simp only [Except.error.injEq, exists_eq_left', Failure.isConnectionFailure_undecodable,
        hcomplaint, Complaint.mentionsConnectionFailure_message]
      constructor
      · rintro ⟨text, htext, hmentions⟩
        cases hstumble : (beginning? body).bind stumble with
        | none => rw [hstumble] at htext; cases htext
        | some complaint =>
            rw [hstumble] at htext
            exact ⟨hread, complaint, text, hstumble, htext, hmentions⟩
      · rintro ⟨-, complaint, text, hstumble, htext, hmentions⟩
        exact ⟨text, by rw [hstumble]; exact htext, hmentions⟩

end Response

end Http

/-! ### Beacon nodes -/

namespace BeaconError

/-- A report amounts to a lost connection exactly if the failure of the transport is one. -/
theorem isDisconnected_ofFailure (failure : Http.Failure) :
    (ofFailure failure).toFault.isDisconnected = failure.isConnectionFailure := by
  unfold ofFailure
  cases failure.isConnectionFailure with
  | true => rfl
  | false =>
      rw [if_neg Bool.false_ne_true]
      cases failure.kind <;> rfl

end BeaconError

namespace Beacon

/-- The **shape of the body** that answers a method. The responses to submissions are not looked
into. -/
def Method.body? : Method → Option Shape
  | nodeSyncing => some (envelope syncStatus)
  | configSpec => some (envelope chainSpec)
  | depositContract => some (envelope Beacon.depositContract)
  | genesis => some (envelope Beacon.genesis)
  | finalityCheckpoints => some (envelope Beacon.finalityCheckpoints)
  | fork => some (envelope Beacon.fork)
  | header => some blockHeaderResponse
  | attestations => some (envelope (.list attestation))
  | block => some (envelope signedBeaconBlock)
  | validators => some (envelope (.list validator))
  | committees => some (envelope (.list committee))
  | submitVoluntaryExit => none
  | submitCredentialsChange => none
  | proposerDuties => some (envelope (.list proposerDuty))
  | syncDuties => some (envelope (.list syncDuty))

/-- Whether the node may not know what a method asks for. -/
def Method.mayBeUnknown : Method → Bool
  | header | attestations | block => true
  | _ => false

/-- A body in some shape is **misread**. -/
abbrev MisreadAs (shape : Shape) (body : Bytes) : Prop :=
  Http.Misread shape.read? shape.complaint? body

/-- **A bare text** that mentions a connection failure is misread by every method whose answer has a
body. -/
theorem Method.misreadAs_of_text {method : Method} {shape : Shape} {body : Bytes} {text : String}
    (hshape : method.body? = some shape)
    (hbody : Http.Response.document? body = some (.str text))
    (hmentions : mentionsConnectionFailure text = true) : MisreadAs shape body where
  undecoded := by
    rw [hbody]
    cases method <;> cases hshape <;> rfl
  quoted := by
    refine ⟨.misplacedText text, text, ?_, rfl, mentionsConnectionFailure_quote hmentions⟩
    rw [Http.Response.beginning?_of_document? hbody]
    cases method <;> cases hshape <;> rfl

/-- No status by itself loses the connection. -/
theorem isDisconnected_successful (response : Http.Response) :
    (successful response).isDisconnected = false := by
  unfold successful
  split <;> rfl

/-- A node that does not know what it was asked for does not report a success. -/
theorem isSuccess_eq_false_of_isUnknown {response : Http.Response} (h : isUnknown response = true) :
    Http.isSuccess response.status = false := by
  rw [of_decide_eq_true h]
  rfl

/-- The reading of a body in some shape ends in a lost connection exactly if the status is a success
and the body is misread. -/
theorem isDisconnected_fetched_iff (shape : Shape) (mayBeUnknown : Bool) (status : Nat)
    (body : Bytes) :
    (fetched shape mayBeUnknown ⟨status, some body⟩).isDisconnected = true ↔
      Http.isSuccess status = true ∧ MisreadAs shape body := by
  rw [fetched]
  split
  case isTrue hunknown =>
    have hstatus := isSuccess_eq_false_of_isUnknown (Bool.and_eq_true_iff.mp hunknown).2
    exact ⟨fun h => (nomatch h), fun h => (nomatch hstatus.symm.trans h.1)⟩
  case isFalse =>
    rw [successful]
    split
    case isFalse hstatus =>
      exact ⟨fun h => (nomatch h), fun h => absurd h.1 hstatus⟩
    case isTrue hstatus =>
      have hfailure := Http.Response.decode_isConnectionFailure_iff shape.read?
        (fun document => show shape.complaint document = _ from rfl) status body
      have hbind : ∀ next : Http.Response → Outcome (Option shape.Value),
          (Except.ok ⟨status, some body⟩ >>= next) = next ⟨status, some body⟩ := fun _ => rfl
      rw [MisreadAs, ← hfailure, and_iff_right hstatus, hbind]
      cases Http.Response.decode shape.read? shape.complaint ⟨status, some body⟩ with
      | ok value => simp [Outcome.isDisconnected]
      | error failure => simp [Outcome.isDisconnected, BeaconError.isDisconnected_ofFailure]

/-- An enveloped body that has to be there loses the connection only where its reading does. -/
theorem isDisconnected_enveloped (path host : String) (data : Shape) (response : Http.Response) :
    (enveloped path host data response).isDisconnected =
      (fetched (envelope data) false response).isDisconnected := by
  refine Outcome.isDisconnected_bind fun found => ?_
  cases found <;> rfl

/-- An enveloped body that the node may not know loses the connection only where its reading
does. -/
theorem isDisconnected_envelopedIfKnown (data : Shape) (response : Http.Response) :
    (envelopedIfKnown data response).isDisconnected =
      (fetched (envelope data) true response).isDisconnected :=
  Outcome.isDisconnected_bind fun _ => rfl

/-- The response to a submission never loses the connection. -/
theorem isDisconnected_submitted (response : Http.Response) :
    (submitted response).isDisconnected = false :=
  (Outcome.isDisconnected_bind fun _ => rfl).trans (isDisconnected_successful response)

/-- The block that a message is about is the block of an enveloped body. -/
theorem isDisconnected_ofResponse_block (path host : String) (response : Http.Response) :
    (Method.block.ofResponse path host response).isDisconnected =
      (fetched (envelope signedBeaconBlock) true response).isDisconnected :=
  (Outcome.isDisconnected_bind fun _ => rfl).trans
    (isDisconnected_envelopedIfKnown signedBeaconBlock response)

/-- A response to a method loses the connection only where the reading of its body does. -/
theorem Method.isDisconnected_ofResponse (path host : String) (method : Method)
    (response : Http.Response) :
    (method.ofResponse path host response).isDisconnected =
      method.body?.any fun shape =>
        (fetched shape method.mayBeUnknown response).isDisconnected := by
  cases method
  case header => rfl
  case attestations => exact isDisconnected_envelopedIfKnown _ response
  case block => exact isDisconnected_ofResponse_block path host response
  case submitVoluntaryExit => exact isDisconnected_submitted response
  case submitCredentialsChange => exact isDisconnected_submitted response
  all_goals exact isDisconnected_enveloped path host _ response

/-- **The reading of a response to a method** ends in a lost connection exactly if the status is a
success, the method's answer has a body, and the body is misread. -/
theorem Method.ofResponse_isDisconnected_iff (path host : String) (method : Method) (status : Nat)
    (body : Bytes) :
    (method.ofResponse path host ⟨status, some body⟩).isDisconnected = true ↔
      Http.isSuccess status = true ∧ ∃ shape, method.body? = some shape ∧ MisreadAs shape body := by
  rw [isDisconnected_ofResponse]
  cases hshape : method.body? with
  | none => simp
  | some shape => simp [isDisconnected_fetched_iff]

/-- **When a call that is answered** by a complete response ends in a lost connection. -/
theorem call_answering_isDisconnected_iff (base : Url) (request : Request) (status : Nat)
    (body : Bytes) (state : σ) :
    (call (Http.Network.answering status body) base request state).1.isDisconnected = true ↔
      (∃ url, request.route.url base = .ok url) ∧ Http.isSuccess status = true ∧
        ∃ shape, request.method.body? = some shape ∧ MisreadAs shape body := by
  rw [call]
  cases hurl : request.route.url base with
  | error problem =>
      have hfault : (transportFault .unbuildable).isDisconnected = false :=
        (BeaconError.isDisconnected_ofFailure _).trans Http.Failure.isConnectionFailure_unbuildable
      simp [Outcome.isDisconnected, hfault]
  | ok url =>
      have hresponse := Method.ofResponse_isDisconnected_iff request.route.path base.hostText
        request.method status body
      simpa [Http.Network.answering, Http.Reply.outcome] using hresponse

end Beacon

/-! ### Gas oracles -/

namespace OracleError

/-- A report amounts to a lost connection exactly if the failure of the transport is one. -/
theorem isDisconnected_ofFailure (failure : Http.Failure) :
    (ofFailure failure).toFault.isDisconnected = failure.isConnectionFailure := by
  unfold ofFailure
  cases failure.isConnectionFailure with
  | true => rfl
  | false =>
      rw [if_neg Bool.false_ne_true]
      cases failure.kind <;> rfl

end OracleError

namespace Oracle

/-- The body of an oracle is **misread**. Its reader quotes nothing but a text that stands in the
place of the whole answer. -/
abbrev MisreadAnswer (body : Bytes) : Prop :=
  Http.Misread OracleAnswer.read? (fun document => some (Complaint.ofValue document)) body

/-- **A bare text** that mentions a connection failure is misread. -/
theorem misreadAnswer_of_text {body : Bytes} {text : String}
    (hbody : Http.Response.document? body = some (.str text))
    (hmentions : mentionsConnectionFailure text = true) : MisreadAnswer body where
  undecoded := by
    rw [hbody]
    rfl
  quoted := by
    refine ⟨.misplacedText text, text, ?_, rfl, mentionsConnectionFailure_quote hmentions⟩
    rw [Http.Response.beginning?_of_document? hbody]
    rfl

/-- What follows from an answer loses no connection. -/
theorem isDisconnected_prices (answer : OracleAnswer) :
    Outcome.isDisconnected (answer.prices.mapError OracleError.toFault) = false := by
  unfold OracleAnswer.prices
  split
  · split <;> rfl
  · rfl

/-- **When a call that is answered** by a complete response ends in a lost connection. -/
theorem call_answering_isDisconnected_iff (url : Url) (status : Nat) (body : Bytes) (state : σ) :
    (call (Http.Network.answering status body) url state).1.isDisconnected = true ↔
      Http.isSuccess status = true ∧ MisreadAnswer body := by
  change Outcome.isDisconnected ((ofResponse ⟨status, some body⟩).mapError OracleError.toFault) =
    true ↔ _
  rw [ofResponse]
  cases hstatus : Http.isSuccess status with
  | false =>
      simp [Except.mapError, Outcome.isDisconnected, OracleError.toFault, Fault.isDisconnected]
  | true =>
      have hcomplaint : ∀ document : Option Json, OracleAnswer.complaint document =
          ((document.bind fun value => some (Complaint.ofValue value)).getD .unquoted).message :=
        fun document => by cases document <;> rfl
      rw [MisreadAnswer,
        ← Http.Response.decode_isConnectionFailure_iff OracleAnswer.read? hcomplaint status body,
        and_iff_right rfl, if_pos rfl]
      cases Http.Response.decode OracleAnswer.read? OracleAnswer.complaint ⟨status, some body⟩ with
      | ok answer => simp [isDisconnected_prices]
      | error failure =>
          simp [Except.mapError, Outcome.isDisconnected, OracleError.isDisconnected_ofFailure]

end Oracle

namespace Http

/-- **When a complete response is taken for a lost connection**, from a beacon node and from a gas
oracle. The status has to be a success, and the body has to fail to decode with a complaint that
quotes a text which mentions a connection failure. -/
theorem isDisconnected_of_complete_response (status : Nat) (body : Bytes) :
    (∀ (σ : Type) (base : Url) (request : Beacon.Request) (state : σ),
      (Beacon.call (.answering status body) base request state).1.isDisconnected = true ↔
        (∃ url, request.route.url base = .ok url) ∧ isSuccess status = true ∧
          ∃ shape, request.method.body? = some shape ∧ Beacon.MisreadAs shape body) ∧
      ∀ (σ : Type) (url : Url) (state : σ),
        (Oracle.call (.answering status body) url state).1.isDisconnected = true ↔
          isSuccess status = true ∧ Oracle.MisreadAnswer body :=
  ⟨fun _ base request state => Beacon.call_answering_isDisconnected_iff base request status body
      state,
    fun _ url state => Oracle.call_answering_isDisconnected_iff url status body state⟩

/-- A text in the place of the first byte of an address is quoted, and the body is misread. -/
example : Beacon.MisreadAs (Beacon.envelope Beacon.depositContract) (Utf8.encode
    "\x7b\"data\":\x7b\"chain_id\":\"1\",\"address\":[\"connection refused\"]\x7d\x7d".toList) where
  undecoded := by decide +kernel
  quoted := ⟨.noByte "connection refused", "connection refused", by decide +kernel, rfl,
    by decide +kernel⟩

/-- **A node is lost by what it answers.** The primary reports a success and sends a document with a
text in the place of the sync status. The request loses the connection, the pool goes on to the
fallback, and the primary is no longer ready. -/
theorem lost_by_its_answer :
    let body := Utf8.encode "\x7b\"data\":\"connection refused\"\x7d".toList
    let base : Url :=
      { scheme := "http"
        authority := some { userinfo := "", host := .name "primary", port := none }
        path := .segments [""], query := none, fragment := none }
    let reply := (Beacon.call (.answering 200 body) base .nodeSyncing ()).1
    let pool := Pool.fresh Beacon.clientType (.ofSeconds 60) true
    let settled := pool.settle (Instant.ofMillis 0 : Instant) (.ordinary .primary) reply
    Url.parse "http://primary" = .ok base ∧
      reply = .error (.disconnected "error decoding response body") ∧
      settled.1 = .retry (.ordinary .fallback) ∧ settled.2.isReady .primary = false := by
  intro body base reply pool settled
  have hfault : (match reply with | .error fault => some fault | .ok _ => none) =
      some (.disconnected "error decoding response body") := by decide +kernel
  have hreply : reply = .error (.disconnected "error decoding response body") := by
    cases h : reply with
    | error fault => rw [h] at hfault; exact congrArg Except.error (Option.some.inj hfault)
    | ok value => rw [h] at hfault; cases hfault
  refine ⟨by decide +kernel, hreply, ?_, ?_⟩
  · simp only [settled, hreply]; rfl
  · simp only [settled, hreply]; rfl

end Http

end NodeGateway
