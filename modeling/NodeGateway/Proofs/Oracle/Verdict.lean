import Mathlib.Data.List.Forall2
import NodeGateway.Oracle.Binding
import NodeGateway.Proofs.Http.Misreading
import NodeGateway.Proofs.Json.Count

/-!
# What an Oracle's Answer Amounts To

An oracle grants a request with the status `1` and sends prices, and it rejects one with any other
status and sends a text that says why. The binding reads the whole answer before it looks at the
status, and a result is read as prices or as a text. So the status decides only among the answers
whose result is one of the two: whatever the status is, another result makes the answer undecodable,
and the message of a rejected request is lost with it.

* `GasPrices.read?_eq_some_iff` says which results are prices, and which prices they are;
* `Oracle.ofResponse_of_answer` says what any answer amounts to, status by status and result by
  result;
* `Oracle.message_lost` is a rejected request whose message is lost.
-/

namespace NodeGateway

/-! ### Members that have to be there -/

namespace Json

variable {members : List (Option String × Json)} {names : List String} {values : List Json}

/-- The value of a member that has to be there is the only one of its name. -/
theorem memberValue?_eq_some_iff {name : String} {found : Option Json} :
    memberValue? members { name } = some found ↔
      ∃ value, valuesOf name members = [value] ∧ found = some value := by
  unfold memberValue?
  split
  next h => simp [h]
  next value h => simp [h, eq_comm]
  next h _ => simp_all

/-- The values of members that have to be there are found one by one. -/
theorem mapM_memberValue?_iff :
    ((names.map fun name => ({ name } : RecordMember)).mapM (memberValue? members)).bind
        (·.mapM id) = some values ↔
      List.Forall₂ (fun name value => valuesOf name members = [value]) names values := by
  induction names generalizing values with
  | nil => simp [eq_comm]
  | cons name names ih =>
      have hcons : (((name :: names).map fun name => ({ name } : RecordMember)).mapM
            (memberValue? members)).bind (·.mapM id) =
          ((memberValue? members { name }).bind id).bind fun value =>
            (((names.map fun name => ({ name } : RecordMember)).mapM (memberValue? members)).bind
              (·.mapM id)).map (value :: ·) := by
        rw [List.map_cons, List.mapM_cons]
        cases memberValue? members { name } with
        | none => rfl
        | some found =>
            cases (names.map fun name => ({ name } : RecordMember)).mapM (memberValue? members) with
            | none => cases found <;> rfl
            | some others => cases found <;> cases hothers : others.mapM id <;> simp [hothers]
      rw [hcons]
      constructor
      · intro h
        obtain ⟨value, hvalue, h⟩ := Option.bind_eq_some_iff.mp h
        obtain ⟨others, hothers, rfl⟩ := Option.map_eq_some_iff.mp h
        obtain ⟨found, hfound, rfl⟩ := Option.bind_eq_some_iff.mp hvalue
        obtain ⟨_, hvalues, heq⟩ := memberValue?_eq_some_iff.mp hfound
        cases heq
        exact .cons hvalues (ih.mp hothers)
      · rintro (_ | ⟨hvalue, hothers⟩)
        rw [memberValue?_eq_some_iff.mpr ⟨_, hvalue, rfl⟩, ih.mpr hothers]
        rfl

/-- **The values of members that have to be there**: the others are readable, and each name has one
value. -/
theorem neededValues?_object_iff : (object members).neededValues? names = some values ↔
    membersReadable names members = true ∧
      List.Forall₂ (fun name value => valuesOf name members = [value]) names values := by
  have hnames : (names.map fun name => ({ name } : RecordMember)).map (·.name) = names := by
    rw [List.map_map]
    exact List.map_id names
  rw [← mapM_memberValue?_iff]
  unfold neededValues? recordValues?
  rw [hnames]
  by_cases h : membersReadable names members = true
  · simp [h]
  · simp [h]

/-- In an array the values of all members have to be there, and nothing else. -/
theorem neededValues?_array (items : List Json) :
    (array items).neededValues? names =
      if items.length = names.length then some items else none := by
  have hall : ∀ {wanted : List String},
      (wanted.map fun name => ({ name } : RecordMember)).all (!·.needed) = wanted.isEmpty := by
    intro wanted
    cases wanted <;> rfl
  unfold neededValues? recordValues?
  simp only [← List.map_drop, hall, List.length_map]
  by_cases h : items.length = names.length
  · have hread : ∀ item : Json, id (some item) = some item := fun _ => rfl
    have hitems : (items.map some).mapM id = some items := mapM_map_of_read hread items
    simp [h, hitems]
  · by_cases hless : items.length ≤ names.length
    · have hdrop : (names.drop items.length).isEmpty = false := by
        rw [List.isEmpty_eq_false_iff, ne_eq, List.drop_eq_nil_iff]
        omega
      simp [h, hdrop]
    · simp [h, hless]

mutual

/-- A meaningful document is whole. -/
theorem isWhole_of_isMeaningful : ∀ {value : Json}, value.isMeaningful = true → value.isWhole = true
  | .null, _ | .bool _, _ | .number _, _ | .string _, _ => rfl
  | .array _, h => areWhole_of_areMeaningful h
  | .object _, h => membersWhole_of_membersMeaningful h

theorem areWhole_of_areMeaningful : ∀ {items : List Json}, areMeaningful items = true →
    areWhole items = true
  | [], _ => rfl
  | _ :: _, h =>
      have h := Bool.and_eq_true_iff.mp h
      Bool.and_eq_true_iff.mpr ⟨isWhole_of_isMeaningful h.1, areWhole_of_areMeaningful h.2⟩

theorem membersWhole_of_membersMeaningful : ∀ {members : List (Option String × Json)},
    membersMeaningful members = true → membersWhole members = true
  | [], _ => rfl
  | (_, _) :: _, h =>
      have h := Bool.and_eq_true_iff.mp h
      Bool.and_eq_true_iff.mpr ⟨isWhole_of_isMeaningful (Bool.and_eq_true_iff.mp h.1).2,
        membersWhole_of_membersMeaningful h.2⟩

end

/-- The members of a meaningful object are readable. -/
theorem membersReadable_of_membersMeaningful (names : List String) :
    ∀ {members : List (Option String × Json)}, membersMeaningful members = true →
      membersReadable names members = true
  | [], _ => rfl
  | (name, value) :: members, h => by
      obtain ⟨h, hmembers⟩ := Bool.and_eq_true_iff.mp h
      obtain ⟨hname, hvalue⟩ := Bool.and_eq_true_iff.mp h
      obtain ⟨name, rfl⟩ := Option.isSome_iff_exists.mp hname
      have hrest := membersReadable_of_membersMeaningful names hmembers
      rw [membersReadable, List.all_cons, Bool.and_eq_true]
      exact ⟨by simp [isWhole_of_isMeaningful hvalue], hrest⟩

end Json

/-! ### Prices -/

/-- A value **quotes** a number if it is a text that spells it between blanks. -/
def Json.Quotes (value : Json) (x : Binary64) : Prop :=
  ∃ text : String, value = .str text ∧ Decimal.read? (Text.trim text.toList) = some x

/-- A value **quotes prices** if it has exactly one member for each speed, whatever else it has, or
if it is a list of three; each of the three quotes the price of its own speed. -/
inductive GasPrices.Quoted : Json → GasPrices → Prop
  | object {members : List (Option String × Json)} {slow standard fast : Json} {prices : GasPrices}
      (hslow : Json.valuesOf "SafeGasPrice" members = [slow])
      (hstandard : Json.valuesOf "ProposeGasPrice" members = [standard])
      (hfast : Json.valuesOf "FastGasPrice" members = [fast])
      (hprices : slow.Quotes prices.slow ∧ standard.Quotes prices.standard ∧
        fast.Quotes prices.fast) : Quoted (.object members) prices
  | array {slow standard fast : Json} {prices : GasPrices}
      (hprices : slow.Quotes prices.slow ∧ standard.Quotes prices.standard ∧
        fast.Quotes prices.fast) : Quoted (.array [slow, standard, fast]) prices

/-- A quoted number is read as it is. -/
theorem Json.quoted?_eq_some_iff {value : Json} {x : Binary64} :
    value.quoted? Decimal.read? = some x ↔ value.Quotes x := by
  unfold Json.quoted?
  constructor
  · intro h
    obtain ⟨text, htext, hx⟩ := Option.bind_eq_some_iff.mp h
    match value, htext with
    | .string (some _), rfl => exact ⟨text, rfl, hx⟩
  · rintro ⟨text, rfl, hx⟩
    exact hx

/-- Three values are read as prices, each as the price of its speed. -/
theorem GasPrices.bind_quoted?_iff {slow standard fast : Json} {prices : GasPrices} :
    ((slow.quoted? Decimal.read?).bind fun first =>
      (standard.quoted? Decimal.read?).bind fun second =>
        (fast.quoted? Decimal.read?).bind fun third =>
          some ({ slow := first, standard := second, fast := third } : GasPrices)) = some prices ↔
      slow.Quotes prices.slow ∧ standard.Quotes prices.standard ∧ fast.Quotes prices.fast := by
  constructor
  · intro h
    obtain ⟨first, hfirst, h⟩ := Option.bind_eq_some_iff.mp h
    obtain ⟨second, hsecond, h⟩ := Option.bind_eq_some_iff.mp h
    obtain ⟨third, hthird, heq⟩ := Option.bind_eq_some_iff.mp h
    cases heq
    exact ⟨Json.quoted?_eq_some_iff.mp hfirst, Json.quoted?_eq_some_iff.mp hsecond,
      Json.quoted?_eq_some_iff.mp hthird⟩
  · rintro ⟨hslow, hstandard, hfast⟩
    rw [Json.quoted?_eq_some_iff.mpr hslow, Json.quoted?_eq_some_iff.mpr hstandard,
      Json.quoted?_eq_some_iff.mpr hfast]
    rfl

/-- Prices are read from the three values that a result has for them. -/
theorem GasPrices.read?_eq_some_iff_values {value : Json} {prices : GasPrices} :
    GasPrices.read? value = some prices ↔ ∃ slow standard fast,
      value.neededValues? ["SafeGasPrice", "ProposeGasPrice", "FastGasPrice"] =
        some [slow, standard, fast] ∧
      slow.Quotes prices.slow ∧ standard.Quotes prices.standard ∧ fast.Quotes prices.fast := by
  unfold GasPrices.read?
  constructor
  · intro h
    obtain ⟨values, hvalues, h⟩ := Option.bind_eq_some_iff.mp h
    split at h
    case h_1 slow standard fast =>
      exact ⟨slow, standard, fast, hvalues, GasPrices.bind_quoted?_iff.mp h⟩
    case h_2 => cases h
  · rintro ⟨slow, standard, fast, hvalues, hprices⟩
    rw [hvalues]
    exact GasPrices.bind_quoted?_iff.mpr hprices

/-- **Which results are prices**, and which prices they are. -/
theorem GasPrices.read?_eq_some_iff {value : Json} {prices : GasPrices}
    (h : value.isMeaningful = true) :
    GasPrices.read? value = some prices ↔ Quoted value prices := by
  rw [read?_eq_some_iff_values]
  constructor
  · rintro ⟨slow, standard, fast, hvalues, hprices⟩
    match value with
    | .object members =>
        obtain ⟨-, hvalues⟩ := Json.neededValues?_object_iff.mp hvalues
        match hvalues with
        | .cons hslow (.cons hstandard (.cons hfast .nil)) =>
            exact .object hslow hstandard hfast hprices
    | .array items =>
        rw [Json.neededValues?_array] at hvalues
        split at hvalues
        · cases hvalues
          exact .array hprices
        · cases hvalues
    | .null | .bool _ | .number _ | .string _ | .scrap _ => cases hvalues
  · rintro (⟨hslow, hstandard, hfast, hprices⟩ | hprices)
    · refine ⟨_, _, _, Json.neededValues?_object_iff.mpr ⟨?_, ?_⟩, hprices⟩
      · exact Json.membersReadable_of_membersMeaningful _ h
      · exact .cons hslow (.cons hstandard (.cons hfast .nil))
    · exact ⟨_, _, _, Json.neededValues?_array _, hprices⟩

/-! ### Results -/

namespace OracleResult

/-- A result is read as prices if it can be kept and quotes them. -/
theorem read?_eq_prices_iff {result : Json} {prices : GasPrices} :
    read? result = some (.prices prices) ↔
      result.isKept = true ∧ GasPrices.Quoted result prices := by
  unfold read?
  by_cases hkept : result.isKept = true
  · have hmeaningful := (Bool.and_eq_true_iff.mp hkept).1
    rw [if_pos hkept, and_iff_right hkept, ← GasPrices.read?_eq_some_iff hmeaningful]
    cases GasPrices.read? result with
    | some found => simp
    | none => simp
  · simp [hkept]

/-- A result is read as a message if it is a text. -/
theorem read?_eq_message_iff {result : Json} {text : String} :
    read? result = some (.message text) ↔ result = .str text := by
  unfold read?
  constructor
  · intro h
    split at h
    · split at h
      · cases h
      · obtain ⟨_, htext, heq⟩ := Option.map_eq_some_iff.mp h
        cases heq
        match result, htext with
        | .string (some _), rfl => rfl
    · cases h
  · rintro rfl
    rfl

end OracleResult

/-! ### Answers -/

namespace Oracle

/-- A body **answers** with a status, a message and a result if it is an object that has each of
them once. The status is a text that spells a number of 64 bits between blanks, and the message is a
text. Whatever else the object has is passed over. -/
def AnswersWith (body : Bytes) (status : Nat) (message : String) (result : Json) : Prop :=
  ∃ (members : List (Option String × Json)) (text : String) (digits : List Char),
    Http.Response.document? body = some (.object members) ∧
    Json.membersReadable ["status", "message", "result"] members = true ∧
    Json.valuesOf "status" members = [.str text] ∧
    Json.valuesOf "message" members = [.str message] ∧
    Json.valuesOf "result" members = [result] ∧
    (Text.trim text.toList = digits ∨ Text.trim text.toList = '+' :: digits) ∧
    Numeral.Spells digits status ∧ status < 2 ^ 64

/-- What is reported of an answer that cannot be decoded. -/
def undecoded : OracleError := .other "malformed gas oracle response: error decoding response body"

variable {status code : Nat} {body : Bytes} {message : String} {result : Json}

/-- **An answer is decoded** if its result is, and is then the answer with this result. -/
theorem ofResponse_eq (hsuccess : Http.isSuccess code = true)
    (h : AnswersWith body status message result) :
    ofResponse ⟨code, some body⟩ = match OracleResult.read? result with
      | some result => (⟨status, message, result⟩ : OracleAnswer).prices
      | none => .error undecoded := by
  obtain ⟨members, text, digits, hbody, hreadable, hstatus, hmessage, hresult, hdigits, hspells,
    hbound⟩ := h
  have hvalues : (Json.object members).neededValues? ["status", "message", "result"] =
      some [.str text, .str message, result] :=
    Json.neededValues?_object_iff.mpr
      ⟨hreadable, .cons hstatus (.cons hmessage (.cons hresult .nil))⟩
  have hnumber : (Json.str text).quoted? (Numeral.unsigned? Numeral.bound64) = some status :=
    Numeral.unsigned?_eq_some_iff.mpr ⟨⟨digits, hdigits, hspells⟩, hbound⟩
  have hread : OracleAnswer.read? (.object members) =
      (OracleResult.read? result).map fun result => ⟨status, message, result⟩ := by
    unfold OracleAnswer.read?
    rw [hvalues, Option.bind_eq_bind, Option.bind_some]
    simp only [hnumber]
    cases OracleResult.read? result <;> rfl
  have hfailure : OracleError.ofFailure (.undecodable Complaint.unquoted.message) = undecoded := by
    decide +kernel
  have hcomplaint : OracleAnswer.complaint (Http.Response.beginning? body) =
      Complaint.unquoted.message := by
    rw [Http.Response.beginning?_of_document? hbody]
    rfl
  unfold ofResponse Http.Response.decode
  rw [if_pos hsuccess]
  simp only [hbody, Option.bind_some, hread, hcomplaint]
  cases OracleResult.read? result with
  | some result => rfl
  | none => exact congrArg Except.error hfailure

/-- Whether a result **is prices**: it can be kept, and it quotes them. -/
def IsPrices (result : Json) (prices : GasPrices) : Prop :=
  result.isKept = true ∧ GasPrices.Quoted result prices

/-- **What an answer amounts to.** With another status than `1` it never gives prices. It is a
rejected request, with the message and what a textual result adds to it, exactly if the result is a
text or prices, and cannot be decoded otherwise. With the status `1` it gives prices exactly if its
result is those, and everything else is an error: a text says that there are no prices, and other
results cannot be decoded. -/
theorem ofResponse_of_answer (hsuccess : Http.isSuccess code = true)
    (h : AnswersWith body status message result) :
    (status ≠ 1 →
      (∀ prices, ofResponse ⟨code, some body⟩ ≠ .ok prices) ∧
      (∀ reason, ofResponse ⟨code, some body⟩ = .error (.rejected reason) ↔
        (∃ text, result = .str text ∧ reason = message ++ ": " ++ text) ∨
          (∃ prices, IsPrices result prices) ∧ reason = message) ∧
      ((∀ text, result ≠ .str text) → (∀ prices, ¬ IsPrices result prices) →
        ofResponse ⟨code, some body⟩ = .error undecoded)) ∧
    (status = 1 →
      (∀ prices, ofResponse ⟨code, some body⟩ = .ok prices ↔ IsPrices result prices) ∧
      (∀ text, result = .str text →
        ofResponse ⟨code, some body⟩ = .error (.other "gas oracle returned no prices")) ∧
      ((∀ text, result ≠ .str text) → (∀ prices, ¬ IsPrices result prices) →
        ofResponse ⟨code, some body⟩ = .error undecoded)) := by
  have hprices : ∀ {prices}, OracleResult.read? result = some (.prices prices) ↔
      IsPrices result prices := OracleResult.read?_eq_prices_iff
  have htext : ∀ {text}, OracleResult.read? result = some (.message text) ↔ result = .str text :=
    OracleResult.read?_eq_message_iff
  rw [ofResponse_eq hsuccess h]
  cases hread : OracleResult.read? result with
  | none =>
      have hnoText : ∀ text, result ≠ .str text := fun text heq => by
        rw [htext.mpr heq] at hread
        cases hread
      have hnoPrices : ∀ prices, ¬ IsPrices result prices := fun prices hfound => by
        rw [hprices.mpr hfound] at hread
        cases hread
      simp [undecoded, hnoText, hnoPrices]
  | some found =>
      cases found with
      | prices found =>
          have hfound := hprices.mp hread
          have hnoText : ∀ text, result ≠ .str text := fun text heq => by
            rw [htext.mpr heq] at hread
            cases hread
          have hsame : ∀ prices, IsPrices result prices ↔ found = prices := fun prices => by
            rw [← hprices, hread]
            simp
          refine ⟨fun hstatus => ?_, fun hstatus => ?_⟩
          · have houtcome : (⟨status, message, .prices found⟩ : OracleAnswer).prices =
                .error (.rejected message) := if_neg hstatus
            simp [houtcome, hnoText, hsame, eq_comm]
          · have houtcome : (⟨status, message, .prices found⟩ : OracleAnswer).prices = .ok found :=
              if_pos hstatus
            simp [houtcome, hnoText, hsame]
      | message text =>
          obtain rfl := htext.mp hread
          have hnoPrices : ∀ prices, ¬ IsPrices (.str text) prices := fun prices hfound => by
            rw [hprices.mpr hfound] at hread
            cases hread
          have hsame : ∀ other, Json.str text = Json.str other ↔ text = other := fun other => by
            simp [Json.str]
          refine ⟨fun hstatus => ?_, fun hstatus => ?_⟩
          · have houtcome : (⟨status, message, .message text⟩ : OracleAnswer).prices =
                .error (.rejected (message ++ ": " ++ text)) := if_neg hstatus
            simp [houtcome, hnoPrices, hsame, eq_comm]
          · have houtcome : (⟨status, message, .message text⟩ : OracleAnswer).prices =
                .error (.other "gas oracle returned no prices") := if_pos hstatus
            simp [houtcome, hnoPrices]

/-- A body that is written in full is read back as a document. -/
theorem document?_render {value : Json} (h : value.isWritten = true) :
    Http.Response.document? (Utf8.encode value.render.toList) = some value := by
  rw [Http.Response.document?, Json.parseBytes?, Json.inBytes_encode]
  exact Json.parseRagged?_render h

/-- Prices that are granted, with blanks around numbers and with members that nobody asked for. -/
theorem ofResponse_of_granted :
    let result := Json.obj [("FastGasPrice", .str "15"), ("LastBlock", .str "19000000"),
      ("SafeGasPrice", .str " 12 "), ("ProposeGasPrice", .str "13.5")]
    let answer := Json.obj [("message", .str "OK"), ("status", .str " +1"), ("result", result),
      ("more", .null)]
    let prices : GasPrices :=
      { slow := .ofNat 12, standard := .finite false 7599824371187712 (-49), fast := .ofNat 15 }
    let body := Utf8.encode answer.render.toList
    AnswersWith body 1 "OK" result ∧ ofResponse ⟨200, some body⟩ = .ok prices := by
  intro result answer prices body
  have hwritten : answer.isWritten = true := rfl
  have hanswer : AnswersWith body 1 "OK" result :=
    ⟨_, " +1", ['1'], document?_render hwritten, rfl, rfl, rfl, rfl, .inr (by decide),
      ⟨by decide, List.all_eq_true.mp (by decide), rfl⟩, by decide⟩
  have hslow : (Json.str " 12 ").Quotes prices.slow := ⟨" 12 ", rfl, by decide +kernel⟩
  have hstandard : (Json.str "13.5").Quotes prices.standard := ⟨"13.5", rfl, by decide +kernel⟩
  have hfast : (Json.str "15").Quotes prices.fast := ⟨"15", rfl, by decide +kernel⟩
  have hprices : IsPrices result prices :=
    ⟨by decide +kernel, .object rfl rfl rfl ⟨hslow, hstandard, hfast⟩⟩
  exact ⟨hanswer, (((ofResponse_of_answer rfl hanswer).2 rfl).1 prices).mpr hprices⟩

/-- **A message is lost**: a request is rejected with a message and no result. -/
theorem message_lost :
    let answer := Json.obj [("status", .str "0"), ("message", .str "NOTOK"), ("result", .null)]
    let body := Utf8.encode answer.render.toList
    Http.isSuccess 200 = true ∧ AnswersWith body 0 "NOTOK" .null ∧
      ofResponse ⟨200, some body⟩ = .error undecoded ∧
      ∀ reason, ofResponse ⟨200, some body⟩ ≠ .error (.rejected reason) := by
  intro answer body
  have hwritten : answer.isWritten = true := rfl
  have hanswer : AnswersWith body 0 "NOTOK" .null :=
    ⟨_, "0", ['0'], document?_render hwritten, rfl, rfl, rfl, rfl, .inl (by decide),
      ⟨by decide, List.all_eq_true.mp (by decide), rfl⟩, by decide⟩
  have houtcome : ofResponse ⟨200, some body⟩ = .error undecoded := ofResponse_eq rfl hanswer
  refine ⟨rfl, hanswer, houtcome, fun reason heq => ?_⟩
  rw [houtcome] at heq
  cases heq

end Oracle

end NodeGateway
