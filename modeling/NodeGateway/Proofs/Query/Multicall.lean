import NodeGateway.Proofs.Abi.RoundTrip
import NodeGateway.Proofs.Query.Order

/-!
# One Request for Many Calls

What travels between a query and the multicall contract, byte by byte. The calls are sent as a list
of tuples with byte strings in them, so there are offsets at three levels: that of the list, those
of the tuples in it, and that of the byte string in each tuple. The results come back in the same
form.

The **layout** of such a list (`Multicall.layout`) is written down here without reference to types:
the bodies of the items stand behind each other, and before them stands where each begins. The
encoder for types agrees with it (`Multicall.pack_eq`, `Multicall.answer_eq`), and what is laid out
like this is read back (`Multicall.unpack?_pack`, `Multicall.results?_answer`), since what is
encoded can be decoded.

A query that is not cut into batches sends one such request (`Window.Account.of_single`), which
leads to the main result, `Query.single_round_trip`.
-/

namespace NodeGateway

namespace Multicall

/-! ### The layout -/

/-- The **body of a call**: target and flag in place, and the offset of the call data, which stand
behind these three words. -/
def callBody (call : ContractCall) : Bytes :=
  List.replicate 12 0 ++ call.target.val ++ Abi.word call.allowFailure.toNat ++ Abi.word 96
    ++ Abi.word call.data.length ++ Abi.padRight call.data

/-- The **body of a result**: the flag in place, and the offset of the returned data, which stand
behind these two words. -/
def resultBody (result : CallResult) : Bytes :=
  Abi.word result.success.toNat ++ Abi.word 64
    ++ Abi.word result.data.length ++ Abi.padRight result.data

/-- Where each of some bodies begins, counted from the first offset: behind a word for every offset
and behind the bodies before it. -/
def offsets (bodies : List Bytes) : List Nat :=
  (List.range bodies.length).map fun i => 32 * bodies.length + (bodies.take i).flatten.length

/-- The **layout** of a list of bodies as the only argument of a function, or as its only result:
the offset of the list, its length, the offset of each body, and the bodies. -/
def layout (bodies : List Bytes) : Bytes :=
  Abi.word 32 ++ Abi.word bodies.length ++ ((offsets bodies).map Abi.word).flatten ++ bodies.flatten

/-- A body as a part that is written behind the others. -/
def behind (body : Bytes) : Abi.Part := ⟨true, body⟩

/-- Every body takes up one word before the bodies. -/
theorem headsSize_behind (bodies : List Bytes) :
    Abi.headsSize (bodies.map behind) = 32 * bodies.length := by
  induction bodies with
  | nil => rfl
  | cons body bodies ih =>
      rw [List.map_cons, Abi.headsSize, ih, List.length_cons, Nat.mul_succ, Nat.add_comm]
      rfl

/-- The words before the bodies are their offsets, if the first body begins at `start`. -/
theorem heads_behind (start : Nat) (bodies : List Bytes) :
    Abi.heads start (bodies.map behind) =
      ((List.range bodies.length).map fun i =>
        Abi.word (start + (bodies.take i).flatten.length)).flatten := by
  induction bodies generalizing start with
  | nil => rfl
  | cons body bodies ih =>
      have hnext : Abi.heads start ((body :: bodies).map behind) =
          Abi.word start ++ Abi.heads (start + body.length) (bodies.map behind) := rfl
      rw [hnext, ih, List.length_cons, List.range_succ_eq_map, List.map_cons, List.flatten_cons,
        List.map_map]
      simp only [List.take_zero, List.flatten_nil, List.length_nil, Nat.add_zero, Function.comp_def,
        List.take_succ_cons, List.flatten_cons, List.length_append, Nat.add_assoc]

/-- Behind the words stand the bodies. -/
theorem tails_behind (bodies : List Bytes) : Abi.tails (bodies.map behind) = bodies.flatten := by
  induction bodies with
  | nil => rfl
  | cons body bodies ih => exact congrArg (body ++ ·) ih

/-- A list of items that are written behind each other has the layout of their bodies. -/
theorem encode_array {item : AbiType} (hitem : item.isDynamic = true) {α : Type}
    (value : α → item.Value) (body : α → Bytes) (hbody : ∀ a, item.encode (value a) = body a)
    (items : List α) :
    (AbiTypes.ofList [.array item]).encode (items.map value, ()) = layout (items.map body) := by
  have hparts : (items.map value).map (fun v => (⟨item.isDynamic, item.encode v⟩ : Abi.Part)) =
      (items.map body).map behind := by
    rw [List.map_map, List.map_map]
    refine List.map_congr_left fun a _ => ?_
    rw [Function.comp, Function.comp, hbody, hitem]
    rfl
  change Abi.word 32 ++ [] ++ (Abi.word (items.map value).length ++ Abi.assemble
    ((items.map value).map fun v => ⟨item.isDynamic, item.encode v⟩) ++ []) = _
  rw [hparts, Abi.assemble, headsSize_behind, heads_behind, tails_behind, layout, offsets,
    List.map_map]
  simp [Function.comp_def]

/-- The encoding of a call is its body. -/
theorem encode_callValue (call : ContractCall) :
    callType.encode (callValue call) = callBody call := by
  have hsize : Abi.headsSize [⟨false, List.replicate 12 0 ++ call.target.val⟩,
      ⟨false, Abi.word call.allowFailure.toNat⟩, ⟨true, Abi.lengthPrefixed call.data⟩] = 96 := by
    rw [Abi.headsSize, Abi.headSize_inPlace (Abi.length_addressWord _), Abi.headsSize,
      Abi.headSize_inPlace (Abi.length_word _)]
    rfl
  change Abi.assemble [⟨false, List.replicate 12 0 ++ call.target.val⟩,
    ⟨false, Abi.word call.allowFailure.toNat⟩, ⟨true, Abi.lengthPrefixed call.data⟩] = _
  rw [Abi.assemble, hsize]
  simp [Abi.heads, Abi.tails, callBody, Abi.lengthPrefixed]

/-- The encoding of a result is its body. -/
theorem encode_resultValue (result : CallResult) :
    resultType.encode (resultValue result) = resultBody result := by
  have hsize : Abi.headsSize [⟨false, Abi.word result.success.toNat⟩,
      ⟨true, Abi.lengthPrefixed result.data⟩] = 64 := by
    rw [Abi.headsSize, Abi.headSize_inPlace (Abi.length_word _)]
    rfl
  change Abi.assemble [⟨false, Abi.word result.success.toNat⟩,
    ⟨true, Abi.lengthPrefixed result.data⟩] = _
  rw [Abi.assemble, hsize]
  simp [Abi.heads, Abi.tails, resultBody, Abi.lengthPrefixed]

/-- The call data are the selector and the layout of the calls. -/
theorem pack_eq (calls : List ContractCall) :
    pack calls = Bytes.ofNat 4 0x82ad56cb ++ layout (calls.map callBody) :=
  congrArg (Bytes.ofNat 4 0x82ad56cb ++ ·)
    (encode_array rfl callValue callBody encode_callValue calls)

/-- An answer is the layout of its results. -/
theorem answer_eq (results : List CallResult) : answer results = layout (results.map resultBody) :=
  encode_array rfl resultValue resultBody encode_resultValue results

/-! ### How long it is -/

/-- Every number takes up one word. -/
theorem length_words (numbers : List Nat) :
    (numbers.map Abi.word).flatten.length = 32 * numbers.length := by
  induction numbers with
  | nil => rfl
  | cons n numbers ih =>
      rw [List.map_cons, List.flatten_cons, List.length_append, Abi.length_word, ih,
        List.length_cons, Nat.mul_succ, Nat.add_comm]

/-- A layout is as long as its bodies, a word for each of them, and two more. -/
theorem length_layout (bodies : List Bytes) :
    (layout bodies).length = 64 + 32 * bodies.length + bodies.flatten.length := by
  have hcount : (offsets bodies).length = bodies.length := by
    rw [offsets, List.length_map, List.length_range]
  rw [layout, List.length_append, List.length_append, List.length_append, length_words, hcount,
    Abi.length_word, Abi.length_word]

/-- Fewer bodies do not make a longer layout. -/
theorem length_layout_le {bodies others : List Bytes} (h : List.Sublist bodies others) :
    (layout bodies).length ≤ (layout others).length := by
  rw [length_layout, length_layout]
  induction h with
  | slnil => exact Nat.le_refl _
  | cons body _ ih | cons_cons body _ ih =>
      simp only [List.length_cons, List.flatten_cons, List.length_append]
      omega

/-- Fewer calls are not packed into more bytes. -/
theorem length_pack_le {calls others : List ContractCall} (h : List.Sublist calls others) :
    (pack calls).length ≤ (pack others).length := by
  rw [pack_eq, pack_eq, List.length_append, List.length_append]
  exact Nat.add_le_add_left (length_layout_le (h.map callBody)) _

/-- Fewer results do not make a longer answer. -/
theorem length_answer_le {results others : List CallResult} (h : List.Sublist results others) :
    (answer results).length ≤ (answer others).length := by
  rw [answer_eq, answer_eq]
  exact length_layout_le (h.map resultBody)

/-! ### Reading it back -/

/-- **Calls that are packed can be unpacked.** -/
theorem unpack?_pack {calls : List ContractCall} (h : (pack calls).length < Abi.wordBound) :
    unpack? (pack calls) = some calls := by
  have hlength : aggregate.selector.length = 4 := Bytes.length_ofNat 4 0x82ad56cb
  have hfits : aggregate.inputs.Fits (List.map callValue calls, ()) :=
    ⟨⟨by decide, fun value _ => ⟨trivial, trivial, trivial, trivial⟩⟩, trivial⟩
  have hpack : pack calls =
      aggregate.selector ++ aggregate.inputs.encode (List.map callValue calls, ()) := rfl
  have hselector : (pack calls).take 4 = aggregate.selector := by
    rw [hpack, ← hlength, List.take_left]
  have hdecoded : aggregate.inputs.decode? ((pack calls).drop 4) 0 =
      some (List.map callValue calls, ()) := by
    rw [hpack, List.length_append] at h
    rw [hpack, ← hlength, List.drop_left]
    exact AbiTypes.decode?_encode _ _ hfits (by omega)
  rw [unpack?, hselector, hdecoded]
  exact congrArg some (by rw [List.map_map]; exact List.map_id calls)

/-- **Results in an answer can be read from it.** -/
theorem results?_answer {results : List CallResult} (h : (answer results).length < Abi.wordBound) :
    results? (answer results) = some results := by
  have hfits : (AbiTypes.ofList [.array resultType]).Fits (List.map resultValue results, ()) :=
    ⟨⟨by decide, fun value _ => ⟨trivial, trivial, trivial⟩⟩, trivial⟩
  rw [results?, answer, AbiTypes.decode?_encode _ _ hfits h]
  exact congrArg some (by rw [List.map_map]; exact List.map_id results)

/-- An answer with a result for each call gives these results. -/
theorem fits_answer {calls : List ContractCall} {results : List CallResult}
    (hlength : results.length = calls.length) (h : (answer results).length < Abi.wordBound) :
    Fits calls (.ok (answer results)) results :=
  ⟨answer results, rfl, results?_answer h, hlength⟩

end Multicall

/-! ### The query -/

namespace Query

/-- A query that is not cut sends its calls once and reads the answer. -/
theorem single_eq [Wording] (settings : QuerySettings) (block : Execution.BlockId)
    (client : Client σ) {calls : List ContractCall} (hcalls : calls ≠ []) (state : σ) :
    let sent := client 0 1 (Multicall.request settings.contract calls) block state
    let ended := single settings block client calls state
    ended.state = sent.2 ∧ ended.outcome = sent.1.outcome.bind (Multicall.readAnswer calls) := by
  have hbatches : (if calls.isEmpty then [] else [calls]) = [calls] :=
    if_neg fun hempty => hcalls (List.isEmpty_iff.mp hempty)
  obtain ⟨⟨started, haccount⟩, -⟩ :=
    Window.account_of_run (send settings.contract block client) 1 [calls] state
  obtain ⟨hstate, houtcome⟩ := haccount.of_single
  simp only [single, runBatches, hbatches]
  refine ⟨hstate, ?_⟩
  rw [houtcome]
  change Except.map List.flatten (Except.map ([·]) (Except.bind _ _)) = _
  cases Except.bind _ _ <;> simp [Except.map]

/-- **A query in one request**, for any number of calls with data of any length.

The client is asked once: the state is left as that one request leaves it, and the outcome is read
from its answer. The request is addressed to the contract, and its input is the selector and the
layout of the calls, from which these calls can be read in their order. If the answer is the layout
of some results, one for each call, these are the results of the query.

An offset is a word, so what is read back has to be shorter than a word can count; no machine can
hold anything longer. -/
theorem single_round_trip [Wording] (settings : QuerySettings) (block : Execution.BlockId)
    (client : Client σ) (calls : List ContractCall) (state : σ) (hcalls : calls ≠ []) :
    let input := Bytes.ofNat 4 0x82ad56cb ++ Multicall.layout (calls.map Multicall.callBody)
    let sent := client 0 1 { target := some settings.contract, input := some input } block state
    let ended := single settings block client calls state
    ended.state = sent.2 ∧
      ended.outcome = sent.1.outcome.bind (Multicall.readAnswer calls) ∧
      (input.length < Abi.wordBound → Multicall.unpack? input = some calls) ∧
      ∀ results : List CallResult, results.length = calls.length →
        let data := Multicall.layout (results.map Multicall.resultBody)
        data.length < Abi.wordBound → sent.1.outcome = .ok data → ended.outcome = .ok results := by
  intro input sent ended
  have hinput : Multicall.pack calls = input := Multicall.pack_eq calls
  obtain ⟨hstate, houtcome⟩ := single_eq settings block client hcalls state
  rw [Multicall.request, hinput] at hstate houtcome
  refine ⟨hstate, houtcome, fun hsize => ?_, ?_⟩
  · rw [← hinput] at hsize ⊢
    exact Multicall.unpack?_pack hsize
  · intro results hcount data hsize hsent
    have hdata : Multicall.answer results = data := Multicall.answer_eq results
    rw [← hdata] at hsize hsent
    refine houtcome.trans (Multicall.bind_readAnswer_iff.mpr ?_)
    rw [hsent]
    exact Multicall.fits_answer hcount hsize

/-- Two calls with data of different lengths, one of which may fail and does. -/
theorem single_round_trip_two :
    letI : Wording := .silent
    let contract : Address := FixedBytes.ofNat 20 0xca
    let calls : List ContractCall :=
      [⟨FixedBytes.ofNat 20 1, [0xaa], true⟩,
        ⟨FixedBytes.ofNat 20 2, List.replicate 36 0xbb, false⟩]
    let results : List CallResult := [⟨false, []⟩, ⟨true, List.replicate 33 0xcc⟩]
    let input := Bytes.ofNat 4 0x82ad56cb ++ Multicall.layout (calls.map Multicall.callBody)
    let data := Multicall.layout (results.map Multicall.resultBody)
    let client : Client (List Execution.CallRequest) := fun _ _ request _ sent =>
      ({ outcome := .ok data, millis := 5 }, sent ++ [request])
    let ended := single ⟨contract, 4, 100⟩ (.number (.tag .latest)) client calls []
    ended.state = [{ target := some contract, input := some input }] ∧
      Multicall.unpack? input = some calls ∧ ended.outcome = .ok results := by
  let _ : Wording := .silent
  intro contract calls results input data client ended
  have hinput : input.length < Abi.wordBound := by decide +kernel
  have hdata : data.length < Abi.wordBound := by decide +kernel
  obtain ⟨hstate, -, hunpack, hresults⟩ :=
    single_round_trip ⟨contract, 4, 100⟩ (.number (.tag .latest)) client calls []
      (List.cons_ne_nil _ _)
  exact ⟨hstate, hunpack hinput, hresults results rfl hdata rfl⟩

end Query

end NodeGateway
