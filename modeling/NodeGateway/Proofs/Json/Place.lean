import Mathlib.Logic.Relation
import NodeGateway.Proofs.Json.Shape

/-!
# Places in Documents

A record may stand deep inside a document: in an envelope, in a list, or as a member of another
record. A **place** says where, and puts a value there. Whatever stands around it, the reading of
the whole document depends on the reading of the value at the place in one of two ways only: what is
read there becomes a part of what is read, or the document is refused in any case
(`Shape.Place.dependsOn`). So what changes nothing at a place changes nothing in the document, and
what is refused at a place makes the document refused.

The reader of a record asks for members by their names. So their order does not matter, and neither
do members with other names, at whatever place the record stands (`Shape.Edit.read?_eq`). A member
that is needed and missing, or that comes twice, has the record refused
(`Shape.Place.read?_put_of_missing`, `Shape.Place.read?_put_of_repeated`).
-/

namespace NodeGateway

/-! ### Readings that depend on others -/

namespace Json

/-- How the reading of a whole **depends on** the reading of a part of it that is not `null`: what
is read of the part becomes a part of what is read, or nothing is read whatever the part is. -/
def DependsOn {α β : Type} (whole : Json → Option β) (part : Json → Option α) : Prop :=
  (∃ embed : α → β, ∀ value, value ≠ .null → whole value = (part value).map embed) ∨
    ∀ value, value ≠ .null → whole value = none

namespace DependsOn

variable {α β γ : Type} {whole : Json → Option γ} {middle : Json → Option β}
  {part : Json → Option α}

/-- The reading of a value itself. -/
theorem refl (read : Json → Option α) : DependsOn read read :=
  .inl ⟨id, fun value _ => by rw [Option.map_id_fun, id]⟩

/-- The part of a part. -/
theorem trans {put : Json → Json} (hput : ∀ value, value ≠ .null → put value ≠ .null)
    (h : DependsOn whole middle) (hpart : DependsOn (fun value => middle (put value)) part) :
    DependsOn (fun value => whole (put value)) part := by
  rcases h with ⟨outer, houter⟩ | hrefused
  · have hmiddle : ∀ value, value ≠ .null → whole (put value) = (middle (put value)).map outer :=
      fun value hvalue => houter _ (hput value hvalue)
    rcases hpart with ⟨inner, hinner⟩ | hrefused
    · refine .inl ⟨outer ∘ inner, fun value hvalue => ?_⟩
      calc whole (put value) = (middle (put value)).map outer := hmiddle value hvalue
        _ = ((part value).map inner).map outer := congrArg _ (hinner value hvalue)
        _ = (part value).map (outer ∘ inner) := Option.map_map ..
    · refine .inr fun value hvalue => ?_
      calc whole (put value) = (middle (put value)).map outer := hmiddle value hvalue
        _ = none := congrArg (Option.map outer) (hrefused value hvalue)
  · exact .inr fun value hvalue => hrefused _ (hput value hvalue)

/-- Parts that are read alike make wholes that are. -/
theorem congr (h : DependsOn whole part) {value other : Json} (hvalue : value ≠ .null)
    (hother : other ≠ .null) (heq : part value = part other) : whole value = whole other := by
  rcases h with ⟨embed, hembed⟩ | hnone
  · rw [hembed value hvalue, hembed other hother, heq]
  · rw [hnone value hvalue, hnone other hother]

/-- A part that is refused makes the whole refused. -/
theorem eq_none (h : DependsOn whole part) {value : Json} (hvalue : value ≠ .null)
    (hpart : part value = none) : whole value = none := by
  rcases h with ⟨embed, hembed⟩ | hnone
  · rw [hembed value hvalue, hpart]
    rfl
  · exact hnone value hvalue

/-- Where something is read of the whole, it is made of what is read of the part. -/
theorem exists_embed (h : DependsOn whole part) {value : Json} {result : γ}
    (hvalue : value ≠ .null) (hresult : whole value = some result) :
    ∃ embed : α → γ, ∀ other, other ≠ .null → whole other = (part other).map embed := by
  rcases h with h | hrefused
  · exact h
  · cases (hrefused value hvalue).symm.trans hresult

/-- A reading that is followed by another one, of something else. -/
theorem followed {δ ε : Type} (h : DependsOn whole part) (next : Option δ) (pair : γ → δ → ε) :
    DependsOn (fun value => (whole value).bind fun first => next.map (pair first)) part := by
  rcases h with ⟨embed, hembed⟩ | hrefused
  · cases next with
    | none => exact .inr fun value _ => by simp only [Option.map_none, Option.bind_fun_none]
    | some second =>
        refine .inl ⟨fun found => pair (embed found) second, fun value hvalue => ?_⟩
        simp only [hembed value hvalue]
        cases part value <;> rfl
  · exact .inr fun value hvalue => by simp only [hrefused value hvalue, Option.bind_none]

/-- A reading that follows another one, of something else. -/
theorem preceded {δ ε : Type} (h : DependsOn whole part) (first : Option δ) (pair : δ → γ → ε) :
    DependsOn (fun value => first.bind fun before => (whole value).map (pair before)) part := by
  cases first with
  | none => exact .inr fun _ _ => rfl
  | some before =>
      rcases h with ⟨embed, hembed⟩ | hrefused
      · refine .inl ⟨pair before ∘ embed, fun value hvalue => ?_⟩
        simp only [hembed value hvalue, Option.bind_some, Option.map_map]
      · exact .inr fun value hvalue => by
          simp only [hrefused value hvalue, Option.bind_some, Option.map_none]

end DependsOn

/-- The reading of a list depends on the reading of each item. -/
theorem dependsOn_mapM {α : Type} (read : Json → Option α) (before after : List Json) :
    DependsOn (fun value => (before ++ value :: after).mapM read) read := by
  have hsplit : (fun value => (before ++ value :: after).mapM read) = fun value =>
      (before.mapM read).bind fun front => ((read value).bind fun found =>
        (after.mapM read).map (found :: ·)).map (front ++ ·) := by
    funext value
    simp only [List.mapM_append, List.mapM_cons]
    cases before.mapM read <;> cases read value <;> cases after.mapM read <;> rfl
  rw [hsplit]
  exact ((DependsOn.refl read).followed (after.mapM read) List.cons).preceded (before.mapM read)
    List.append

end Json

/-! ### Members of records -/

/-- A record **has** a field with a name and a shape, which it needs or does not. -/
inductive Fields.Has : Fields → String → Bool → Shape → Prop
  | head {name : String} {needed : Bool} {shape : Shape} {rest : Fields} :
      Has (.field name needed shape rest) name needed shape
  | tail {other : String} {otherNeeded : Bool} {otherShape : Shape} {rest : Fields} {name : String}
      {needed : Bool} {shape : Shape} (h : rest.Has name needed shape) :
      Has (.field other otherNeeded otherShape rest) name needed shape

/-- The shapes of a record's fields in their order. -/
def Fields.shapes : Fields → List Shape
  | .nil => []
  | .field _ _ shape rest => shape :: rest.shapes

namespace Fields

variable {fields : Fields} {name : String} {needed : Bool} {shape : Shape}
  {members others before after : List (Option String × Json)}

theorem Has.mem_names (h : fields.Has name needed shape) : name ∈ fields.names := by
  induction h with
  | head => exact List.mem_cons_self
  | tail _ ih => exact List.mem_cons_of_mem _ ih

theorem Has.isFaithful (h : fields.Has name needed shape) (hfields : fields.areFaithful = true) :
    shape.isFaithful = true := by
  induction h with
  | head => exact (Bool.and_eq_true_iff.mp hfields).1
  | tail _ ih => exact ih (Bool.and_eq_true_iff.mp hfields).2

/-- Every shape among those of faithful fields is faithful. -/
theorem isFaithful_of_shapes {shape : Shape} : ∀ {fields : Fields} {index : Nat},
    fields.areFaithful = true → fields.shapes[index]? = some shape → shape.isFaithful = true
  | .nil, _, _, h => nomatch h
  | .field .., 0, hfields, h => by
      cases h
      exact (Bool.and_eq_true_iff.mp hfields).1
  | .field .., _ + 1, hfields, h => isFaithful_of_shapes (Bool.and_eq_true_iff.mp hfields).2 h

end Fields

namespace Json

variable {name : String} {value : Json} {members others before after : List (Option String × Json)}

theorem valuesOf_append :
    valuesOf name (before ++ after) = valuesOf name before ++ valuesOf name after := by
  simp [valuesOf]

theorem valuesOf_cons_self :
    valuesOf name ((some name, value) :: members) = value :: valuesOf name members := by
  simp [valuesOf]

/-- A member does not matter to who asks for another name. -/
theorem valuesOf_cons_of_ne {found : Option String} (h : found ≠ some name) :
    valuesOf name ((found, value) :: members) = valuesOf name members := by
  simp [valuesOf, h]

/-- A member with another name may be left out. -/
theorem valuesOf_around {other : String} (h : name ≠ other) (value : Json)
    (before after : List (Option String × Json)) :
    valuesOf other (before ++ (some name, value) :: after) = valuesOf other (before ++ after) := by
  rw [valuesOf_append, valuesOf_append, valuesOf_cons_of_ne (by simpa using h)]

/-- The values of a name are the same in any order of the members, but for their own order. -/
theorem valuesOf_perm (h : members.Perm others) :
    (valuesOf name members).Perm (valuesOf name others) :=
  (h.filter _).map _

/-- One more value of a name that has one makes two. -/
theorem two_le_length_valuesOf (h : valuesOf name (before ++ after) ≠ []) (value : Json) :
    2 ≤ (valuesOf name (before ++ (some name, value) :: after)).length := by
  have hpos := List.length_pos_iff.mpr h
  rw [valuesOf_append, List.length_append] at hpos
  rw [valuesOf_append, valuesOf_cons_self, List.length_append, List.length_cons]
  omega

end Json

namespace Shape

/-- What is read from the values of a field's name: there may be one of them, or none if the field
may be absent. -/
def ofValues? (needed : Bool) (shape : Shape) : List Json → Option shape.Value
  | [] => shape.absentUnless needed
  | [value] => shape.read? value
  | _ :: _ :: _ => none

/-- The order of several values does not matter, since they are refused. -/
theorem ofValues?_perm {needed : Bool} {shape : Shape} {values others : List Json}
    (h : values.Perm others) : shape.ofValues? needed values = shape.ofValues? needed others := by
  match values, others with
  | [], [] => rfl
  | [value], [other] =>
      obtain rfl : value = other := by simpa using h
      rfl
  | _ :: _ :: _, _ :: _ :: _ => rfl
  | [], _ :: _ | _ :: _, [] | [_], _ :: _ :: _ | _ :: _ :: _, [_] => exact nomatch h.length_eq

/-- The reading of a field depends on each value that its name has. -/
theorem dependsOn_ofValues? (needed : Bool) (shape : Shape) (before after : List Json) :
    Json.DependsOn (fun value => shape.ofValues? needed (before ++ value :: after))
      shape.read? := by
  match before, after with
  | [], [] => exact .refl shape.read?
  | [], _ :: _ | [_], _ | _ :: _ :: _, _ => exact .inr fun _ _ => rfl

end Shape

namespace Fields

/-- A field is read from the values of its name, and the fields behind it by themselves. -/
theorem readMembers?_field_eq (name : String) (needed : Bool) (shape : Shape) (rest : Fields)
    (members : List (Option String × Json)) :
    (Fields.field name needed shape rest).readMembers? members =
      (shape.ofValues? needed (Json.valuesOf name members)).bind fun value =>
        (rest.readMembers? members).map fun values => (value, values) := by
  rcases hvalues : Json.valuesOf name members with _ | ⟨value, _ | ⟨next, values⟩⟩
  all_goals
    rw [readMembers?, hvalues, Shape.ofValues?]
    cases rest.readMembers? members <;> rfl

/-- **Only the values of the names matter**, in whatever order they come. -/
theorem readMembers?_congr {members others : List (Option String × Json)} :
    ∀ {fields : Fields}, (∀ name ∈ fields.names,
      (Json.valuesOf name members).Perm (Json.valuesOf name others)) →
        fields.readMembers? members = fields.readMembers? others
  | .nil, _ => rfl
  | .field name needed shape rest, h => by
      have hrest := readMembers?_congr fun other hother => h other (List.mem_cons_of_mem _ hother)
      have hname := h name List.mem_cons_self
      rw [readMembers?_field_eq, readMembers?_field_eq, hrest, Shape.ofValues?_perm hname]

/-- The reading of a record's fields depends on the value of each member that there is a field for.
-/
theorem dependsOn_readMembers? {name : String} {needed : Bool} {shape : Shape}
    (before after : List (Option String × Json)) {fields : Fields}
    (h : fields.Has name needed shape) (hnodup : fields.names.Nodup) :
    Json.DependsOn (fun value => fields.readMembers? (before ++ (some name, value) :: after))
      shape.read? := by
  induction h with
  | @head name needed shape rest =>
      obtain ⟨hname, -⟩ := List.nodup_cons.mp hnodup
      have hrest : ∀ value, rest.readMembers? (before ++ (some name, value) :: after) =
          rest.readMembers? (before ++ after) := by
        intro value
        refine readMembers?_congr fun other hother => .of_eq ?_
        exact Json.valuesOf_around (fun heq : name = other => hname (heq ▸ hother)) value _ _
      simp only [readMembers?_field_eq, Json.valuesOf_append, Json.valuesOf_cons_self, hrest]
      exact (shape.dependsOn_ofValues? needed _ _).followed (rest.readMembers? (before ++ after))
        Prod.mk
  | @tail other otherNeeded otherShape rest name needed shape h ih =>
      obtain ⟨hother, hnodup⟩ := List.nodup_cons.mp hnodup
      have hne : name ≠ other := fun heq => hother (heq ▸ h.mem_names)
      simp only [readMembers?_field_eq, Json.valuesOf_around hne]
      exact (ih hnodup).preceded (otherShape.ofValues? otherNeeded
        (Json.valuesOf other (before ++ after))) Prod.mk

/-- A field is read from the first item, and the fields behind it from the others. -/
theorem readItems?_cons (name : String) (needed : Bool) (shape : Shape) (rest : Fields)
    (item : Json) (items : List Json) :
    (Fields.field name needed shape rest).readItems? (item :: items) =
      (shape.read? item).bind fun value => (rest.readItems? items).map fun values =>
        (value, values) := by
  rw [readItems?]
  cases rest.readItems? items <;> rfl

/-- The reading of a record that is written as a list depends on each item. -/
theorem dependsOn_readItems? {shape : Shape} (after : List Json) :
    ∀ {fields : Fields} (before : List Json), fields.shapes[before.length]? = some shape →
      Json.DependsOn (fun value => fields.readItems? (before ++ value :: after)) shape.read?
  | .nil, _, h => nomatch h
  | .field _ _ _ rest, [], h => by
      cases h
      simp only [List.nil_append, readItems?_cons]
      exact (Json.DependsOn.refl shape.read?).followed (rest.readItems? after) Prod.mk
  | .field _ _ first rest, item :: before, h => by
      simp only [List.cons_append, readItems?_cons]
      exact (dependsOn_readItems? after before h).preceded (first.read? item) Prod.mk

/-- A field that a record needs is not read from members without its name. -/
theorem readMembers?_of_missing {name : String} {shape : Shape}
    {members : List (Option String × Json)} {fields : Fields} (h : fields.Has name true shape)
    (hmembers : Json.valuesOf name members = []) : fields.readMembers? members = none := by
  generalize hneeded : true = needed at h
  induction h with
  | head =>
      subst hneeded
      rw [readMembers?_field_eq, hmembers]
      rfl
  | @tail other otherNeeded otherShape rest name needed shape h ih =>
      rw [readMembers?_field_eq, ih hmembers hneeded]
      cases otherShape.ofValues? otherNeeded (Json.valuesOf other members) <;> rfl

/-- A field is not read from several members with its name. -/
theorem readMembers?_of_repeated {members : List (Option String × Json)} :
    ∀ {fields : Fields} {name : String}, name ∈ fields.names →
      2 ≤ (Json.valuesOf name members).length → fields.readMembers? members = none
  | .field first needed shape rest, name, hname, hmembers => by
      rw [readMembers?_field_eq]
      rcases List.mem_cons.mp hname with rfl | hrest
      · match hvalues : Json.valuesOf name members with
        | [] | [_] => simp [hvalues] at hmembers
        | _ :: _ :: _ => rfl
      · rw [readMembers?_of_repeated hrest hmembers]
        cases shape.ofValues? needed (Json.valuesOf first members) <;> rfl

/-- A record **without a member**: the field has the value that it has where it is absent, if it may
be absent. -/
def without? (name : String) : (fields : Fields) → fields.Values → Option fields.Values
  | .nil, _ => none
  | .field other needed shape rest, (value, values) =>
    if other = name then (shape.absentUnless needed).map fun absent => (absent, values)
    else (rest.without? name values).map fun values => (value, values)

/-- **Leaving out a member** gives the record without it. -/
theorem readMembers?_leave_out {name : String} {given : Json}
    {before after : List (Option String × Json)}
    (hother : Json.valuesOf name (before ++ after) = []) :
    ∀ {fields : Fields} {values : fields.Values}, fields.names.Nodup → name ∈ fields.names →
      fields.readMembers? (before ++ (some name, given) :: after) = some values →
        fields.readMembers? (before ++ after) = fields.without? name values
  | .field found needed shape rest, (value, values), hnodup, hname, h => by
      obtain ⟨hfound, hnodup⟩ := List.nodup_cons.mp hnodup
      rw [readMembers?_field_eq] at h ⊢
      obtain ⟨first, hfirst, h⟩ := Option.bind_eq_some_iff.mp h
      obtain ⟨others, hothers, heq⟩ := Option.map_eq_some_iff.mp h
      cases heq
      by_cases heq : found = name
      · subst heq
        have hrest : rest.readMembers? (before ++ after) = some values := by
          rw [← hothers]
          refine readMembers?_congr fun other hmem => .of_eq (Json.valuesOf_around ?_ _ _ _).symm
          rintro rfl
          exact hfound hmem
        rw [hother, hrest, without?, if_pos rfl]
        rw [Shape.ofValues?]
        cases shape.absentUnless needed <;> rfl
      · have hmem : name ∈ rest.names := (List.mem_cons.mp hname).resolve_left (Ne.symm heq)
        rw [Json.valuesOf_around (Ne.symm heq)] at hfirst
        rw [hfirst, readMembers?_leave_out hother hnodup hmem hothers, without?, if_neg heq]
        rfl

end Fields

/-! ### Records in objects -/

namespace Json

variable {names : List String} {name : String} {value : Json}
  {before after members others : List (Option String × Json)}

/-- What a known member holds does not matter to whether the members are readable. -/
theorem membersReadable_around (h : name ∈ names) :
    membersReadable names (before ++ (some name, value) :: after) =
      membersReadable names (before ++ after) := by
  simp [membersReadable, h]

/-- The order of the members does not matter to whether they are readable. -/
theorem membersReadable_perm (h : members.Perm others) :
    membersReadable names members = membersReadable names others :=
  h.all_eq

end Json

namespace Shape

/-- A record is read from the members of an object, if all of them are readable. -/
theorem read?_object (fields : Fields) (members : List (Option String × Json)) :
    (record fields).read? (.object members) =
      if Json.membersReadable fields.names members then fields.readMembers? members else none :=
  rfl

/-- The reading of a record depends on the value of each member that it has a field for. -/
theorem dependsOn_member {fields : Fields} {name : String} {needed : Bool} {shape : Shape}
    (before after : List (Option String × Json)) (h : fields.Has name needed shape)
    (hnodup : fields.names.Nodup) :
    Json.DependsOn
      (fun value => (Shape.record fields).read? (.object (before ++ (some name, value) :: after)))
      shape.read? := by
  simp only [read?_object, Json.membersReadable_around h.mem_names]
  cases Json.membersReadable fields.names (before ++ after) with
  | false => exact .inr fun _ _ => rfl
  | true => exact Fields.dependsOn_readMembers? before after h hnodup

end Shape

/-! ### Places -/

namespace Shape

/-- A **place** for a value of one shape in a document of another, with everything that stands
around it. -/
inductive Place : Shape → Shape → Type
  | here {shape : Shape} : Place shape shape
  | item {shape part : Shape} (before after : List Json) (place : Place shape part) :
      Place (.list shape) part
  | present {shape part : Shape} (place : Place shape part) : Place (.optional shape) part
  | member {fields : Fields} {needed : Bool} {shape part : Shape} (name : String)
      (h : fields.Has name needed shape) (before after : List (Option String × Json))
      (place : Place shape part) : Place (.record fields) part
  | entry {fields : Fields} {shape part : Shape} (before after : List Json)
      (h : fields.shapes[before.length]? = some shape) (place : Place shape part) :
      Place (.record fields) part

namespace Place

variable {shape part : Shape}

/-- The document with a value at the place. -/
def put {shape part : Shape} : Place shape part → Json → Json
  | here, value => value
  | item before after place, value => .array (before ++ place.put value :: after)
  | present place, value => place.put value
  | member name _ before after place, value =>
    .object (before ++ (some name, place.put value) :: after)
  | entry before after _ place, value => .array (before ++ place.put value :: after)

/-- What is not `null` does not become so at its place. -/
theorem put_ne_null {value : Json} (h : value ≠ .null) :
    ∀ {shape : Shape} (place : Place shape part), place.put value ≠ .null
  | _, here => h
  | _, item .. | _, member .. | _, entry .. => by simp [put]
  | _, present place => put_ne_null h place

/-- **The reading of a document depends on the reading of the value at a place.** -/
theorem dependsOn (place : Place shape part) (h : shape.isFaithful = true) :
    Json.DependsOn (fun value => shape.read? (place.put value)) part.read? := by
  induction place with
  | here => exact .refl _
  | @item shape part before after place ih =>
      have hlist : Json.DependsOn
          (fun value => (Shape.list shape).read? (.array (before ++ value :: after)))
          shape.read? := Json.dependsOn_mapM shape.read? before after
      have hplace := hlist.trans (fun _ hvalue => place.put_ne_null hvalue) (ih h)
      exact hplace
  | @present shape part place ih =>
      have hoptional : Json.DependsOn (Shape.optional shape).read? shape.read? :=
        .inl ⟨some, fun value hvalue => read?_optional hvalue⟩
      have hplace := hoptional.trans (fun _ hvalue => place.put_ne_null hvalue)
        (ih (Bool.and_eq_true_iff.mp h).1)
      exact hplace
  | @member fields needed shape part name hname before after place ih =>
      rw [isFaithful, Bool.and_eq_true, decide_eq_true_eq] at h
      have hrecord : Json.DependsOn (fun value =>
          (Shape.record fields).read? (.object (before ++ (some name, value) :: after)))
          shape.read? := dependsOn_member before after hname h.1
      have hplace := hrecord.trans (fun _ hvalue => place.put_ne_null hvalue)
        (ih (hname.isFaithful h.2))
      exact hplace
  | @entry fields shape part before after hentry place ih =>
      rw [isFaithful, Bool.and_eq_true, decide_eq_true_eq] at h
      have hrecord : Json.DependsOn
          (fun value => (Shape.record fields).read? (.array (before ++ value :: after)))
          shape.read? := Fields.dependsOn_readItems? after before hentry
      have hplace := hrecord.trans (fun _ hvalue => place.put_ne_null hvalue)
        (ih (Fields.isFaithful_of_shapes h.2 hentry))
      exact hplace

/-- Objects that are read alike make documents that are. -/
theorem read?_put_congr (place : Place shape part) (h : shape.isFaithful = true)
    {members others : List (Option String × Json)}
    (heq : part.read? (.object members) = part.read? (.object others)) :
    shape.read? (place.put (.object members)) = shape.read? (place.put (.object others)) :=
  (place.dependsOn h).congr nofun nofun heq

/-- An object that is refused makes the document refused. -/
theorem read?_put_eq_none (place : Place shape part) (h : shape.isFaithful = true)
    {members : List (Option String × Json)} (hpart : part.read? (.object members) = none) :
    shape.read? (place.put (.object members)) = none :=
  (place.dependsOn h).eq_none nofun hpart

variable {fields : Fields} {name : String} {members : List (Option String × Json)}

/-- **A missing member** that a record needs makes the document refused. -/
theorem read?_put_of_missing (place : Place shape (.record fields)) (h : shape.isFaithful = true)
    {needed : Shape} (hfield : fields.Has name true needed)
    (hmissing : Json.valuesOf name members = []) :
    shape.read? (place.put (.object members)) = none := by
  refine place.read?_put_eq_none h ?_
  rw [read?_object, Fields.readMembers?_of_missing hfield hmissing]
  exact ite_self none

/-- **A repeated member** that a record knows makes the document refused. -/
theorem read?_put_of_repeated (place : Place shape (.record fields)) (h : shape.isFaithful = true)
    (hname : name ∈ fields.names) (hrepeated : 2 ≤ (Json.valuesOf name members).length) :
    shape.read? (place.put (.object members)) = none := by
  refine place.read?_put_eq_none h ?_
  rw [read?_object, Fields.readMembers?_of_repeated hname hrepeated]
  exact ite_self none

/-- In a document that is read, no known member is repeated. -/
theorem valuesOf_around_of_read {place : Place shape (.record fields)} {value : shape.Value}
    {given : Json} {before after : List (Option String × Json)} (h : shape.isFaithful = true)
    (hname : name ∈ fields.names)
    (hread : shape.read? (place.put (.object (before ++ (some name, given) :: after))) =
      some value) :
    Json.valuesOf name (before ++ after) = [] := by
  by_contra hother
  have hrepeated := Json.two_le_length_valuesOf hother given
  cases (place.read?_put_of_repeated h hname hrepeated).symm.trans hread

/-- The shape of what stands at a place is faithful as well. -/
theorem isFaithful (place : Place shape part) (h : shape.isFaithful = true) :
    part.isFaithful = true := by
  induction place with
  | here => exact h
  | item _ _ _ ih => exact ih h
  | present _ ih => exact ih (Bool.and_eq_true_iff.mp h).1
  | member _ hname _ _ _ ih =>
      exact ih (hname.isFaithful (Bool.and_eq_true_iff.mp h).2)
  | entry _ _ hentry _ ih =>
      exact ih (Fields.isFaithful_of_shapes (Bool.and_eq_true_iff.mp h).2 hentry)

/-- **Leaving out a member** of the record at a place: what is read of the document is made of what
is read of the record, and the record is then the one without the member. -/
theorem read?_put_leave_out (place : Place shape (.record fields)) (h : shape.isFaithful = true)
    {given : Json} {before after : List (Option String × Json)} {value : shape.Value}
    (hname : name ∈ fields.names)
    (hread : shape.read? (place.put (.object (before ++ (some name, given) :: after))) =
      some value) :
    ∃ (embed : fields.Values → shape.Value) (values : fields.Values),
      (∀ others, shape.read? (place.put ((record fields).write others)) = some (embed others)) ∧
      value = embed values ∧
      shape.read? (place.put (.object (before ++ after))) =
        (fields.without? name values).map embed := by
  have hrecord := place.isFaithful h
  have hnodup : fields.names.Nodup := of_decide_eq_true (Bool.and_eq_true_iff.mp hrecord).1
  have hother := valuesOf_around_of_read h hname hread
  have hne : ∀ members, Json.object members ≠ .null := nofun
  obtain ⟨embed, hembed⟩ := (place.dependsOn h).exists_embed (hne _) hread
  obtain ⟨values, hvalues, rfl⟩ := Option.map_eq_some_iff.mp ((hembed _ (hne _)).symm.trans hread)
  rw [read?_object] at hvalues
  split at hvalues
  case isFalse => cases hvalues
  case isTrue hreadable =>
    refine ⟨embed, values, fun others => ?_, rfl, ?_⟩
    · have hwritten := hembed ((record fields).write others) (hne _)
      rw [(record fields).read?_write hrecord] at hwritten
      exact hwritten
    · rw [Json.membersReadable_around hname] at hreadable
      rw [hembed _ (hne _), read?_object, if_pos hreadable,
        Fields.readMembers?_leave_out hother hnodup hname hvalues]
      rfl

end Place

/-! ### Edits that change nothing -/

/-- An **edit** of a document that changes nothing of what it says to a reader of a shape: in one of
its records the members come in another order, or there is one more whose name the record does not
know, or such a member holds something else. -/
inductive Edit (shape : Shape) : Json → Json → Prop
  | reorder {fields : Fields} (place : Place shape (.record fields))
      {members others : List (Option String × Json)} (h : members.Perm others) :
      Edit shape (place.put (.object members)) (place.put (.object others))
  | add {fields : Fields} (place : Place shape (.record fields)) {name : String} {value : Json}
      {members : List (Option String × Json)} (hname : name ∉ fields.names)
      (hvalue : value.isWhole = true) :
      Edit shape (place.put (.object members)) (place.put (.object ((some name, value) :: members)))
  | alter {fields : Fields} (place : Place shape (.record fields)) {name : String}
      {value other : Json} {before after : List (Option String × Json)}
      (hname : name ∉ fields.names) (hvalue : value.isWhole = true)
      (hother : other.isWhole = true) :
      Edit shape (place.put (.object (before ++ (some name, value) :: after)))
        (place.put (.object (before ++ (some name, other) :: after)))

variable {shape : Shape} {fields : Fields} {members others : List (Option String × Json)}

/-- Records whose members differ only in their order are read alike. -/
theorem read?_object_perm (h : members.Perm others) :
    (record fields).read? (.object members) = (record fields).read? (.object others) := by
  rw [read?_object, read?_object, Json.membersReadable_perm h,
    Fields.readMembers?_congr fun _ _ => Json.valuesOf_perm h]

/-- A whole member with an unknown name is passed over. -/
theorem read?_object_cons {name : String} {value : Json} (hname : name ∉ fields.names)
    (hvalue : value.isWhole = true) :
    (record fields).read? (.object ((some name, value) :: members)) =
      (record fields).read? (.object members) := by
  have hreadable : Json.membersReadable fields.names ((some name, value) :: members) =
      Json.membersReadable fields.names members := by
    simp [Json.membersReadable, hvalue]
  have hfields : fields.readMembers? ((some name, value) :: members) =
      fields.readMembers? members := by
    refine Fields.readMembers?_congr fun other hother => .of_eq (Json.valuesOf_cons_of_ne ?_)
    rintro ⟨⟩
    exact hname hother
  rw [read?_object, read?_object, hreadable, hfields]

/-- **An edit changes nothing** of what is read of a document. -/
theorem Edit.read?_eq (hshape : shape.isFaithful = true) {document other : Json}
    (h : shape.Edit document other) : shape.read? other = shape.read? document := by
  cases h with
  | reorder place h => exact place.read?_put_congr hshape (read?_object_perm h.symm)
  | add place hname hvalue => exact place.read?_put_congr hshape (read?_object_cons hname hvalue)
  | alter place hname hvalue hother =>
      refine place.read?_put_congr hshape ?_
      rw [read?_object_perm List.perm_middle, read?_object_cons hname hother,
        read?_object_perm List.perm_middle, read?_object_cons hname hvalue]

/-- Any number of edits, one after another, change nothing. -/
theorem read?_eq_of_edits (hshape : shape.isFaithful = true) {document other : Json}
    (h : Relation.ReflTransGen shape.Edit document other) :
    shape.read? other = shape.read? document := by
  induction h with
  | refl => rfl
  | tail _ hlast ih => exact (hlast.read?_eq hshape).trans ih

end Shape

end NodeGateway
