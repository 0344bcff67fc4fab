import NodeGateway.Beacon.Types
import NodeGateway.Proofs.Json.Shape

/-!
# Beacon Data Survives Its JSON Text

What beacon nodes send and take are records, on their own, in an envelope or in lists. Each of them
names its fields once, and the only optional value among them is a record, so every value comes back
from the text that it is written as. That text does not depend on the one that a value was read
from: whoever reads a value and writes it again has its **canonical** text.
-/

namespace NodeGateway.Beacon

/-- The types of **data** of beacon nodes: a record, and data in an envelope or in a list. -/
inductive DataType : Shape → Prop
  | record {name : String} {shape : Shape} (h : (name, shape) ∈ records) : DataType shape
  | enveloped {data : Shape} (h : DataType data) : DataType (envelope data)
  | list {item : Shape} (h : DataType item) : DataType (.list item)

/-- Every record is faithful. -/
theorem isFaithful_records : ∀ named ∈ records, named.2.isFaithful = true := by
  decide

/-- All data are faithful. -/
theorem DataType.isFaithful {data : Shape} (h : DataType data) : data.isFaithful = true := by
  induction h with
  | record h => exact isFaithful_records _ h
  | enveloped _ ih => simp [envelope, Shape.isFaithful, Fields.areFaithful, Fields.names, ih]
  | list _ ih => exact ih

/-- **Beacon data survive their JSON text.** Every value of every type of data is read back from the
text that it is written as, and from the bytes of that text. So whatever text a value is read of, it
is read again from its own text, and what is read there is written as the same text; and different
values have different texts. -/
theorem round_trip {data : Shape} (h : DataType data) :
    (∀ value : data.Value, data.ofText? (data.toText value) = some value ∧
      (Json.parseBytes? (Utf8.encode (data.toText value).toList)).bind data.read? = some value) ∧
    (∀ (text : String) (value : data.Value), data.ofText? text = some value →
      data.ofText? (data.toText value) = some value ∧
      (data.ofText? (data.toText value)).map data.toText = some (data.toText value)) ∧
    Function.Injective data.toText := by
  have hfaithful := h.isFaithful
  have hback : ∀ value : data.Value, data.ofText? (data.toText value) = some value :=
    Shape.ofText?_toText hfaithful
  refine ⟨fun value => ⟨hback value, Shape.read?_parseBytes? hfaithful value⟩,
    fun text value _ => ⟨hback value, ?_⟩, Shape.toText_injective hfaithful⟩
  rw [hback value]
  rfl

/-- Duties in an envelope, with the greatest number of 64 bits and a name that has to be escaped,
and a checkpoint from a text that nobody writes. -/
theorem round_trip_duties :
    let duties : (envelope (.list syncDuty)).Value :=
      ([(⟨List.replicate 48 0xaa, rfl⟩, "\"4\n2\\",
        [(1 : UInt64), (18446744073709551615 : UInt64)], ())], ())
    let epoch : checkpoint.Value := ((7 : UInt64), ())
    (envelope (.list syncDuty)).ofText? ((envelope (.list syncDuty)).toText duties) = some duties ∧
    checkpoint.ofText? " [7] " = some epoch ∧
    (checkpoint.ofText? (checkpoint.toText epoch)).map checkpoint.toText =
      some (checkpoint.toText epoch) := by
  intro duties epoch
  have hduty : ("SyncDuty", syncDuty) ∈ records := by simp [records]
  have hcheckpoint : ("Checkpoint", checkpoint) ∈ records := by simp [records]
  have hepoch : checkpoint.ofText? " [7] " = some epoch := rfl
  exact ⟨((round_trip (.enveloped (.list (.record hduty)))).1 duties).1, hepoch,
    ((round_trip (.record hcheckpoint)).2.1 " [7] " epoch hepoch).2⟩

end NodeGateway.Beacon
