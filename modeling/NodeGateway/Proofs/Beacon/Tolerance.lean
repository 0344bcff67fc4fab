import NodeGateway.Proofs.Beacon.RoundTrip
import NodeGateway.Proofs.Json.Ending
import NodeGateway.Proofs.Json.Place

/-!
# What Beacon Data Tolerate

Nodes write the members of their records in any order and add members of their own. A text that is
read as beacon data is read as the same data in any order of the members of any of its records, and
with any further members whose names the record does not know. It is refused if a member that the
record needs is left out, if one that it knows comes twice, and if anything but blanks stands behind
the document. Two members may be left out: a header does not have to say whether it is final, and a
block from before the merge has no execution payload.
-/

namespace NodeGateway.Beacon

open Relation

/-- Beacon data are not numbers. -/
theorem DataType.read?_number {data : Shape} (h : DataType data) (token : String) :
    data.read? (.number token) = none := by
  have hrecords : ∀ named ∈ records, (named.2 matches .record _) = true := by decide
  cases h with
  | record h =>
      have hrecord := hrecords _ h
      cases data with
      | record => rfl
      | nothing | flag | text | count | bytes | sized | list | optional => cases hrecord
  | enveloped => rfl
  | list => rfl

/-- **What beacon data tolerate.** Let a text be read as beacon data. Any text of the same document
with members in another order, with further members whose names are not known, or with something
else in such members, at whatever places and however many, is read as the same data. A text of the
document without a member that its record needs is refused, so is one with a second member of a name
that its record knows, and so is the text with anything but blanks behind it. Without `finalized` or
`execution_payload` the data are the same but for `false` or none in their place. -/
theorem tolerance {data : Shape} (h : DataType data) {text : String} {document : Json}
    {value : data.Value} (hdocument : Json.parse? text = some document)
    (hvalue : data.ofText? text = some value) :
    (∀ (otherText : String) (other : Json), Json.parse? otherText = some other →
      ReflTransGen data.Edit document other → data.ofText? otherText = some value) ∧
    (∀ (fields : Fields) (place : data.Place (.record fields)) (name : String) (needed : Shape)
      (given : Json) (before after : List (Option String × Json)) (otherText : String),
      fields.Has name true needed →
      document = place.put (.object (before ++ (some name, given) :: after)) →
      Json.parse? otherText = some (place.put (.object (before ++ after))) →
        data.ofText? otherText = none) ∧
    (∀ (fields : Fields) (place : data.Place (.record fields)) (name : String) (given again : Json)
      (before after : List (Option String × Json)) (otherText : String),
      name ∈ fields.names → (some name, given) ∈ before ++ after →
      document = place.put (.object (before ++ after)) →
      Json.parse? otherText = some (place.put (.object (before ++ (some name, again) :: after))) →
        data.ofText? otherText = none) ∧
    (∀ extra : String, (∃ c ∈ extra.toList, Json.isSpace c = false) →
      data.ofText? (text ++ extra) = none) ∧
    (∀ (place : data.Place blockHeaderResponse) (given : Json)
      (before after : List (Option String × Json)) (otherText : String),
      document = place.put (.object (before ++ (some "finalized", given) :: after)) →
      Json.parse? otherText = some (place.put (.object (before ++ after))) →
        ∃ (embed : Bool × blockHeaderData.Value × Unit → data.Value) (finalized : Bool)
          (header : blockHeaderData.Value),
          (∀ response, data.read? (place.put (blockHeaderResponse.write response)) =
            some (embed response)) ∧
          value = embed (finalized, header, ()) ∧
          data.ofText? otherText = some (embed (false, header, ()))) ∧
    (∀ (place : data.Place beaconBlockBody) (given : Json)
      (before after : List (Option String × Json)) (otherText : String),
      document = place.put (.object (before ++ (some "execution_payload", given) :: after)) →
      Json.parse? otherText = some (place.put (.object (before ++ after))) →
        ∃ (embed : eth1Data.Value × List attestation.Value × Option executionPayload.Value × Unit →
            data.Value)
          (eth1 : eth1Data.Value) (attestations : List attestation.Value)
          (payload : Option executionPayload.Value),
          (∀ body, data.read? (place.put (beaconBlockBody.write body)) = some (embed body)) ∧
          value = embed (eth1, attestations, payload, ()) ∧
          data.ofText? otherText = some (embed (eth1, attestations, none, ()))) := by
  have hfaithful := h.isFaithful
  have hof : ∀ {text document}, Json.parse? text = some document →
      data.ofText? text = data.read? document := fun hparse => by
    rw [Shape.ofText?, (Option.filter_eq_some_iff.mp hparse).1]
    rfl
  have hread : data.read? document = some value := (hof hdocument).symm.trans hvalue
  refine ⟨?edits, ?missing, ?repeated, ?ending, ?finalized, ?payload⟩
  case edits =>
    intro otherText other hother hedits
    rw [hof hother, Shape.read?_eq_of_edits hfaithful hedits, hread]
  case missing =>
    rintro fields place name needed given before after otherText hneeded rfl hother
    rw [hof hother]
    exact place.read?_put_of_missing hfaithful hneeded
      (Shape.Place.valuesOf_around_of_read hfaithful hneeded.mem_names hread)
  case repeated =>
    rintro fields place name given again before after otherText hname hgiven rfl hother
    rw [hof hother]
    have hvalues : given ∈ Json.valuesOf name (before ++ after) :=
      List.mem_map.mpr ⟨_, List.mem_filter.mpr ⟨hgiven, by simp⟩, rfl⟩
    exact place.read?_put_of_repeated hfaithful hname
      (Json.two_le_length_valuesOf (List.ne_nil_of_mem hvalues) again)
  case ending =>
    intro extra hextra
    rw [Shape.ofText?, Json.parseRagged?_append hdocument ?_ hextra]
    · rfl
    · rintro token rfl
      cases (h.read?_number token).symm.trans hread
  case finalized =>
    rintro place given before after otherText rfl hother
    have hname : "finalized" ∈ ["finalized", "data"] := by decide
    obtain ⟨embed, ⟨finalized, header, _⟩, hembed, heq, hleft⟩ :=
      place.read?_put_leave_out hfaithful hname hread
    exact ⟨embed, finalized, header, hembed, heq, (hof hother).trans hleft⟩
  case payload =>
    rintro place given before after otherText rfl hother
    have hname : "execution_payload" ∈ ["eth1_data", "attestations", "execution_payload"] := by
      decide
    obtain ⟨embed, ⟨eth1, attestations, payload, _⟩, hembed, heq, hleft⟩ :=
      place.read?_put_leave_out hfaithful hname hread
    exact ⟨embed, eth1, attestations, payload, hembed, heq, (hof hother).trans hleft⟩

/-- A header that is said to be final: its members may come in another order and with one more,
`data` may neither be left out nor come twice, and nothing may stand behind it. -/
theorem tolerance_header :
    let value : blockHeaderResponse.Value :=
      (true, ((⟨List.replicate 32 0xaa, rfl⟩ : Hash), true, (((9 : UInt64), "4", ()), ()), ()), ())
    let final := (some "finalized", Json.bool true)
    let header := (some "data", blockHeaderData.write value.2.1)
    let more := (some "execution_optimistic", Json.array [.null, .obj []])
    let text := blockHeaderResponse.toText value
    blockHeaderResponse.ofText? text = some value ∧
    blockHeaderResponse.ofText? (Json.object [more, header, final]).render = some value ∧
    blockHeaderResponse.ofText? (Json.object [final]).render = none ∧
    blockHeaderResponse.ofText? (Json.object [final, header, header]).render = none ∧
    blockHeaderResponse.ofText? (text ++ "\x7d") = none := by
  intro value final header more text
  have hrecord : DataType blockHeaderResponse :=
    .record (show ("BlockHeaderResponse", blockHeaderResponse) ∈ records by simp [records])
  have htext : Json.parse? text = some (.object [final, header]) :=
    Json.parse?_render (blockHeaderResponse.isWritten_write value)
  have hvalue : blockHeaderResponse.ofText? text = some value :=
    Shape.ofText?_toText hrecord.isFaithful value
  have hheader : header.2.isWritten = true := blockHeaderData.isWritten_write _
  have hparse : ∀ members, Json.membersWritten members = true →
      Json.parse? (Json.object members).render = some (.object members) :=
    fun members h => Json.parse?_render h
  obtain ⟨hedits, hmissing, hrepeated, hending, -⟩ := tolerance hrecord htext hvalue
  refine ⟨hvalue, ?edits, ?missing, ?repeated, hending "\x7d" ⟨'}', by simp, rfl⟩⟩
  case edits =>
    have hreorder : blockHeaderResponse.Edit (.object [final, header]) (.object [header, final]) :=
      .reorder .here (.swap header final [])
    have hadd : blockHeaderResponse.Edit (.object [header, final])
        (.object [more, header, final]) :=
      .add .here (by decide) rfl
    exact hedits _ _ (hparse [more, header, final] (by simp [Json.membersWritten, hheader]; decide))
      (.tail (.single hreorder) hadd)
  case missing =>
    exact hmissing _ .here "data" _ _ [final] [] _ (.tail .head) rfl (hparse [final] rfl)
  case repeated =>
    exact hrepeated _ .here "data" header.2 header.2 [final] [header] _ (by decide)
      (by simp [header]) rfl
      (hparse [final, header, header] (by simp [Json.membersWritten, hheader]; decide))

end NodeGateway.Beacon
