import NodeGateway.Settings.Convert

/-!
# Records in a Tree of Settings

Settings that belong together are the fields of a **record**. It is written as a table, where each
field has its name, or as a list of the fields in their order. Fields with other names, and items
behind the last field, are passed over.

## Main definitions

* `SettingRecord`, and `SettingRecord.ofTree`;
* `SettingRecord.convert?`, `SettingRecord.require`.
-/

namespace NodeGateway

/-- A **record** in a tree: what it is called, the names of its fields in their order, where it
stands, and the table or the list that holds the fields. -/
structure SettingRecord where
  title : String
  fields : List String
  path : SettingPath
  content : List (String × SettingTree) ⊕ List SettingTree

namespace SettingRecord

/-- The record that stands at a path of a tree. -/
def ofTree (title : String) (fields : List String) (path : SettingPath) :
    SettingTree → Converted SettingRecord
  | .table members => .ok ⟨title, fields, path, .inl members⟩
  | .list items => .ok ⟨title, fields, path, .inr items⟩
  | value => .error (.unexpected value.describePlain title)

/-- A field of a record and its path, if the record has it. -/
def field? (name : String) (record : SettingRecord) : Option (SettingPath × SettingTree) :=
  match record.content with
  | .inl members => (members.lookup name).map fun value => (record.path ++ [.member name], value)
  | .inr items => do
    let index ← record.fields.idxOf? name
    let value ← items[index]?
    return (record.path ++ [.item index], value)

/-- Converts a field if it is there. -/
def convert? (record : SettingRecord) (name : String)
    (convert : SettingPath → SettingTree → Converted α) : Converted (Option α) :=
  match record.field? name with
  | some (path, value) => (convert path value).map some
  | none => .ok none

/-- The error of a record that lacks a field. A list that lacks one is too short. -/
def lacking (name : String) (record : SettingRecord) : SettingsError :=
  match record.content with
  | .inl _ => .missing name
  | .inr items =>
    .length items.length (record.title ++ " with " ++ toString record.fields.length ++ " elements")

/-- A field that has to be there. -/
def require (record : SettingRecord) (name : String) : Option α → Converted α
  | some a => .ok a
  | none => .error (record.lacking name)

end SettingRecord

end NodeGateway
