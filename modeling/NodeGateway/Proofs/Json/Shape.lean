import NodeGateway.Json.Shape
import NodeGateway.Proofs.Json.RoundTrip

/-!
# What a Shape Writes It Reads

A shape gives a reader and a writer, and the reader takes more than the writer makes: members in any
order, numbers that are not quoted, hexadecimal digits of either case. That it takes all the writer
makes, and as what it was made from, is not said by the definition. It needs that a record names
each of its fields once, and that a value that is present is not written like one that is not
(`Shape.isFaithful`); then it holds of every value (`Shape.read?_write`).

What is written has no numbers in it and is whole, so it comes back through a text as well
(`Shape.ofText?_toText`).
-/

namespace NodeGateway

/-! ### Numerals -/

namespace Numeral

/-- A decimal digit has its value. -/
theorem digitValue?_of_isDigit {c : Char} (h : c.isDigit = true) :
    digitValue? c = some (c.toNat - '0'.toNat) := by
  have hrange : '0' ≤ c ∧ c ≤ '9' := by
    simpa [Char.isDigit, Char.le_def] using h
  rw [digitValue?, if_pos hrange]

/-- Digits behind a number are read as digits behind it. -/
theorem valueFrom_of_digits {digits : List Char} (h : ∀ c ∈ digits, c.isDigit = true) (n : Nat) :
    valueFrom n digits = some (Nat.ofDigitChars 10 digits n) := by
  induction digits generalizing n with
  | nil => rfl
  | cons c digits ih =>
      rw [List.forall_mem_cons] at h
      rw [valueFrom, digitValue?_of_isDigit h.1, Nat.ofDigitChars_cons]
      exact ih h.2 _

/-- **A number** is read from its digits. -/
theorem natural?_toString (n : Nat) : natural? (toString n).toList = some n := by
  have hdigits : (toString n).toList = Nat.toDigits 10 n := Nat.toList_repr
  have hvalue : valueFrom 0 (Nat.toDigits 10 n) = some n := by
    rw [valueFrom_of_digits fun c hc => Nat.isDigit_of_mem_toDigits (by decide) (by decide) hc,
      Nat.ofDigitChars_toDigits (by decide) (by decide)]
  rw [hdigits]
  cases hlist : Nat.toDigits 10 n with
  | nil => exact absurd hlist Nat.toDigits_ne_nil
  | cons c rest =>
      rw [natural?, ← hlist, hvalue]
      simp

/-- A number below the bound is read as an unsigned one. -/
theorem unsigned?_toString {bound n : Nat} (h : n < bound) :
    unsigned? bound (toString n).toList = some n := by
  have hdigits : (toString n).toList = Nat.toDigits 10 n := Nat.toList_repr
  have hnatural := natural?_toString n
  unfold unsigned?
  split
  case h_1 digits hplus =>
    have hmem : '+' ∈ Nat.toDigits 10 n := by
      rw [← hdigits, hplus]
      exact List.mem_cons_self
    exact absurd (Nat.isDigit_of_mem_toDigits (by decide) (by decide) hmem) (by decide)
  case h_2 => rw [hnatural]; simp [h]

end Numeral

/-! ### Values in JSON -/

/-- Items that are read back one by one are read back together. -/
theorem mapM_map_of_read {α β : Type} {read : β → Option α} {write : α → β}
    (h : ∀ a, read (write a) = some a) (items : List α) :
    (items.map write).mapM read = some items := by
  induction items with
  | nil => rfl
  | cons item items ih => simp [h, ih]

namespace Json

/-- A quoted number is read back. -/
theorem readCount?_quotedNat (n : UInt64) : (quotedNat n.toNat).readCount? = some n := by
  have hread : Numeral.unsigned? Numeral.bound64 (toString n.toNat).toList = some n.toNat :=
    Numeral.unsigned?_toString n.toNat_lt
  change ((Numeral.unsigned? Numeral.bound64 (toString n.toNat).toList).bind fun m =>
    some (UInt64.ofNat m)) = some n
  rw [hread]
  exact congrArg some (UInt64.ofNat_toNat)

/-- The written form of a byte string is read back. -/
theorem read?_text (bytes : Bytes) : Hex.read? (Hex.text bytes) = some bytes := by
  rw [Hex.read?, Hex.text, String.toList_ofList, Hex.withoutMark, Hex.decode?_encode]

/-- A byte string of known length is read back. -/
theorem readSized?_text {size : Nat} (bytes : FixedBytes size) :
    (str (Hex.text bytes.val)).readSized? size = some bytes := by
  have hread : (str (Hex.text bytes.val)).readBytes? = some bytes.val := read?_text bytes.val
  rw [str] at hread ⊢
  rw [readSized?, hread]
  · simp [FixedBytes.ofBytes?, bytes.property]
  · simp

end Json

/-! ### Records -/

/-- The members that fields are written as have their names. -/
theorem Fields.map_fst_write : ∀ (fields : Fields) (values : fields.Values),
    (fields.write values).map Prod.fst = fields.names.map some
  | .nil, _ => rfl
  | .field _ _ _ rest, (_, values) => congrArg (_ :: ·) (rest.map_fst_write values)

namespace Json

/-- A member is found behind and in front of others that do not have its name. -/
theorem valuesOf_append_cons {name : String} (value : Json)
    {before after : List (Option String × Json)} (hbefore : some name ∉ before.map Prod.fst)
    (hafter : some name ∉ after.map Prod.fst) :
    valuesOf name (before ++ (some name, value) :: after) = [value] := by
  have hnone : ∀ members : List (Option String × Json), some name ∉ members.map Prod.fst →
      members.filter (·.1 = some name) = [] := by
    intro members hmembers
    rw [List.filter_eq_nil_iff]
    intro member hmem heq
    exact hmembers (List.mem_map.mpr ⟨member, hmem, by simpa using heq⟩)
  rw [valuesOf, List.filter_append, hnone before hbefore, List.filter_cons_of_pos (by simp),
    hnone after hafter]
  rfl

end Json

/-- The members that fields are written as are readable. -/
theorem Fields.membersReadable_write (fields : Fields) (values : fields.Values) :
    Json.membersReadable fields.names (fields.write values) = true := by
  rw [Json.membersReadable, List.all_eq_true]
  rintro ⟨name, value⟩ hmem
  have hname : name ∈ fields.names.map some := by
    rw [← fields.map_fst_write values]
    exact List.mem_map_of_mem (f := Prod.fst) hmem
  obtain ⟨known, hknown, rfl⟩ := List.mem_map.mp hname
  simp [hknown]

/-! ### Reading what was written -/

/-- Whether a value of the shape may be written `null`. -/
def Shape.mayBeNull : Shape → Bool
  | .nothing | .optional _ => true
  | .flag | .text | .count | .bytes | .sized _ | .list _ | .record _ => false

mutual

/-- Whether a shape is **faithful**: a record names each of its fields once, and an optional value
is not one that may be written `null`. -/
def Shape.isFaithful : Shape → Bool
  | .nothing | .flag | .text | .count | .bytes | .sized _ => true
  | .list item => item.isFaithful
  | .optional item => item.isFaithful && !item.mayBeNull
  | .record fields => decide fields.names.Nodup && fields.areFaithful

/-- Whether the shapes of all fields are faithful. -/
def Fields.areFaithful : Fields → Bool
  | .nil => true
  | .field _ _ shape rest => shape.isFaithful && rest.areFaithful

end

/-- What may not be written `null` is written as something else. -/
theorem Shape.write_ne_null : ∀ (shape : Shape) (value : shape.Value),
    shape.mayBeNull = false → shape.write value ≠ .null
  | .flag, _, _ | .text, _, _ | .count, _, _ | .bytes, _, _ | .sized _, _, _ | .list _, _, _
  | .record _, _, _ => by simp [Shape.write, Json.str, Json.quotedNat]

/-- Whatever is not `null` is read as the value of an optional one. -/
theorem Shape.read?_optional {item : Shape} {value : Json} (h : value ≠ .null) :
    (Shape.optional item).read? value = (item.read? value).map some := by
  cases value with
  | null => exact absurd rfl h
  | bool | number | string | array | object | scrap => rfl

/-- A record is read from an object with readable members. -/
theorem Shape.read?_record {fields : Fields} {members : List (Option String × Json)}
    (h : Json.membersReadable fields.names members = true) :
    (Shape.record fields).read? (.object members) = fields.readMembers? members :=
  if_pos h

/-- A field that is there once is read with the fields behind it. -/
theorem Fields.readMembers?_field {name : String} {needed : Bool} {shape : Shape} {rest : Fields}
    {members : List (Option String × Json)} {given : Json} {value : shape.Value}
    {values : rest.Values} (hgiven : Json.valuesOf name members = [given])
    (hvalue : shape.read? given = some value) (hvalues : rest.readMembers? members = some values) :
    (Fields.field name needed shape rest).readMembers? members = some (value, values) := by
  rw [Fields.readMembers?, hgiven]
  simp only [hvalue, hvalues]
  rfl

mutual

/-- **What a shape writes it reads.** -/
theorem Shape.read?_write : ∀ (shape : Shape), shape.isFaithful = true →
    ∀ value : shape.Value, shape.read? (shape.write value) = some value
  | .nothing, _, _ => rfl
  | .flag, _, _ => rfl
  | .text, _, _ => rfl
  | .count, _, n => Json.readCount?_quotedNat n
  | .bytes, _, bytes => Json.read?_text bytes
  | .sized _, _, bytes => Json.readSized?_text bytes
  | .list item, h, values => mapM_map_of_read (item.read?_write h) values
  | .optional item, h, none => rfl
  | .optional item, h, some value => by
      rw [Shape.isFaithful, Bool.and_eq_true, Bool.not_eq_true'] at h
      have hread : (Shape.optional item).read? (item.write value) = some (some value) := by
        rw [Shape.read?_optional (item.write_ne_null value h.2), item.read?_write h.1 value]
        rfl
      exact hread
  | .record fields, h, values => by
      rw [Shape.isFaithful, Bool.and_eq_true, decide_eq_true_eq] at h
      exact (Shape.read?_record (fields.membersReadable_write values)).trans
        (fields.readMembers?_write h.2 h.1 [] values (by simp))

/-- The fields of a record are read from the members that they are written as, behind members that
have other names. -/
theorem Fields.readMembers?_write : ∀ (fields : Fields), fields.areFaithful = true →
    fields.names.Nodup → ∀ (before : List (Option String × Json)) (values : fields.Values),
      (∀ name ∈ fields.names, some name ∉ before.map Prod.fst) →
        fields.readMembers? (before ++ fields.write values) = some values
  | .nil, _, _, _, _, _ => rfl
  | .field name needed shape rest, h, hnodup, before, (value, values), hbefore => by
      rw [Fields.areFaithful, Bool.and_eq_true] at h
      obtain ⟨hname, hrest⟩ := List.nodup_cons.mp hnodup
      have hafter : some name ∉ (rest.write values).map Prod.fst := by
        rw [rest.map_fst_write values]
        simpa using hname
      have hgiven := Json.valuesOf_append_cons (shape.write value)
        (hbefore name List.mem_cons_self) hafter
      have hothers : ∀ other ∈ rest.names,
          some other ∉ (before ++ [(some name, shape.write value)]).map Prod.fst := by
        intro other hother hmem
        rw [List.map_append, List.mem_append] at hmem
        rcases hmem with hold | hnew
        · exact hbefore other (List.mem_cons_of_mem name hother) hold
        · obtain rfl : other = name := by simpa using hnew
          exact hname hother
      have hvalues := rest.readMembers?_write h.2 hrest
        (before ++ [(some name, shape.write value)]) values hothers
      rw [List.append_assoc, List.singleton_append] at hvalues
      exact Fields.readMembers?_field hgiven (shape.read?_write h.1 value) hvalues

end

/-! ### Through a text -/

/-- Items that are each written in full are so together. -/
theorem Json.areWritten_map {α : Type} {write : α → Json}
    (h : ∀ a, (write a).isWritten = true) (items : List α) :
    areWritten (items.map write) = true := by
  induction items with
  | nil => rfl
  | cons item items ih => rw [List.map_cons, areWritten, h item, ih, Bool.and_true]

mutual

/-- What a shape writes is written in full. -/
theorem Shape.isWritten_write : ∀ (shape : Shape) (value : shape.Value),
    (shape.write value).isWritten = true
  | .nothing, _ => rfl
  | .flag, _ => rfl
  | .text, _ => rfl
  | .count, _ => rfl
  | .bytes, _ => rfl
  | .sized _, _ => rfl
  | .list item, values => Json.areWritten_map item.isWritten_write values
  | .optional _, none => rfl
  | .optional item, some value => item.isWritten_write value
  | .record fields, values => fields.membersWritten_write values

/-- The members that fields are written as are written in full. -/
theorem Fields.membersWritten_write : ∀ (fields : Fields) (values : fields.Values),
    Json.membersWritten (fields.write values) = true
  | .nil, _ => rfl
  | .field _ _ shape rest, (value, values) =>
      Bool.and_eq_true_iff.mpr ⟨shape.isWritten_write value, rest.membersWritten_write values⟩

end

namespace Shape

/-- The **text** that a value is written as. -/
def toText (shape : Shape) (value : shape.Value) : String := (shape.write value).render

/-- Reads a value from a text. -/
def ofText? (shape : Shape) (text : String) : Option shape.Value :=
  (Json.parseRagged? text).bind shape.read?

variable {shape : Shape}

/-- **A value comes back** from the text that it is written as. -/
theorem ofText?_toText (h : shape.isFaithful = true) (value : shape.Value) :
    shape.ofText? (shape.toText value) = some value := by
  rw [ofText?, toText, Json.parseRagged?_render (shape.isWritten_write value)]
  exact shape.read?_write h value

/-- A value comes back from the bytes of the text that it is written as. -/
theorem read?_parseBytes? (h : shape.isFaithful = true) (value : shape.Value) :
    (Json.parseBytes? (Utf8.encode (shape.toText value).toList)).bind shape.read? = some value := by
  rw [Json.parseBytes?, Json.inBytes_encode]
  exact ofText?_toText h value

/-- Different values are written as different texts. -/
theorem toText_injective (h : shape.isFaithful = true) : Function.Injective shape.toText := by
  intro value other heq
  have hvalue := ofText?_toText h value
  rw [heq, ofText?_toText h other] at hvalue
  exact (Option.some.inj hvalue).symm

end Shape

end NodeGateway
