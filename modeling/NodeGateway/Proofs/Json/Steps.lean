import Mathlib.Data.List.DropRight
import NodeGateway.Proofs.Json.RoundTrip

/-!
# How a Document Is Read

What one step of the reader of JSON does, said once for values (`Json.ValueStep`), for the items of
an array (`Json.readItems_succ_iff`) and for the members of an object
(`Json.readMembers_succ_iff`). Whatever is proved of all documents that are read goes through these
and does not open the reader.
-/

namespace NodeGateway.Json

variable {text rest token : List Char} {fuel : Nat}

/-- How a **value** is read with `fuel` left for what it contains. -/
inductive ValueStep (fuel : Nat) (text : List Char) : Json → List Char → Prop
  | emptyObject {tail rest : List Char} (h : skipSpace text = '{' :: tail)
      (hclose : skipSpace tail = '}' :: rest) : ValueStep fuel text (.object []) rest
  | object {tail rest : List Char} {members : List (Option String × Json)}
      (h : skipSpace text = '{' :: tail)
      (hmembers : readMembers fuel (skipSpace tail) = some (members, rest)) :
      ValueStep fuel text (.object members) rest
  | emptyArray {tail rest : List Char} (h : skipSpace text = '[' :: tail)
      (hclose : skipSpace tail = ']' :: rest) : ValueStep fuel text (.array []) rest
  | array {tail rest : List Char} {items : List Json} (h : skipSpace text = '[' :: tail)
      (hitems : readItems fuel (skipSpace tail) = some (items, rest)) :
      ValueStep fuel text (.array items) rest
  | string {tail rest : List Char} {string : Option String} (h : skipSpace text = '"' :: tail)
      (hstring : readString tail = some (string, rest)) : ValueStep fuel text (.string string) rest
  | null {tail rest : List Char} (h : skipSpace text = 'n' :: tail)
      (hword : dropWord "ull" tail = some rest) : ValueStep fuel text .null rest
  | true {tail rest : List Char} (h : skipSpace text = 't' :: tail)
      (hword : dropWord "rue" tail = some rest) : ValueStep fuel text (.bool .true) rest
  | false {tail rest : List Char} (h : skipSpace text = 'f' :: tail)
      (hword : dropWord "alse" tail = some rest) : ValueStep fuel text (.bool .false) rest
  | number {rest token : List Char} (h : readNumber (skipSpace text) = some (token, rest)) :
      ValueStep fuel text (.number (String.ofList token)) rest

/-- Blanks are skipped once. -/
theorem skipSpace_skipSpace (text : List Char) : skipSpace (skipSpace text) = skipSpace text :=
  List.dropWhile_idempotent isSpace text

/-- An array has no items in front of a closing bracket. -/
theorem readItems_of_close (h : skipSpace text = ']' :: rest) : readItems fuel text = none := by
  match fuel with
  | 0 => rfl
  | 1 => rfl
  | fuel + 2 =>
      rw [readItems, readValue, h]
      rfl

/-- An object has no members in front of a closing brace. -/
theorem readMembers_of_close (h : skipSpace text = '}' :: rest) :
    readMembers fuel text = none := by
  cases fuel with
  | zero => rfl
  | succ fuel =>
      rw [readMembers, h]
      rfl

/-- **A value is read** in one of these ways. -/
theorem readValue_succ_iff {value : Json} :
    readValue (fuel + 1) text = some (value, rest) ↔ ValueStep fuel text value rest := by
  constructor
  · intro h
    rw [readValue] at h
    split at h
    case h_1 tail heq =>
      split at h
      case h_1 hclose =>
        cases h
        exact .emptyObject heq hclose
      case h_2 =>
        obtain ⟨⟨members, behind⟩, hmembers, h⟩ := Option.bind_eq_some_iff.mp h
        cases h
        exact .object heq hmembers
    case h_2 tail heq =>
      split at h
      case h_1 hclose =>
        cases h
        exact .emptyArray heq hclose
      case h_2 =>
        obtain ⟨⟨items, behind⟩, hitems, h⟩ := Option.bind_eq_some_iff.mp h
        cases h
        exact .array heq hitems
    case h_3 tail heq =>
      obtain ⟨⟨string, behind⟩, hstring, h⟩ := Option.bind_eq_some_iff.mp h
      cases h
      exact .string heq hstring
    case h_4 tail heq =>
      obtain ⟨behind, hword, h⟩ := Option.map_eq_some_iff.mp h
      cases h
      exact .null heq hword
    case h_5 tail heq =>
      obtain ⟨behind, hword, h⟩ := Option.map_eq_some_iff.mp h
      cases h
      exact .true heq hword
    case h_6 tail heq =>
      obtain ⟨behind, hword, h⟩ := Option.map_eq_some_iff.mp h
      cases h
      exact .false heq hword
    case h_7 =>
      obtain ⟨⟨token, behind⟩, hnumber, h⟩ := Option.bind_eq_some_iff.mp h
      cases h
      exact .number hnumber
  · intro h
    rw [readValue]
    cases h with
    | emptyObject h hclose => simp only [h, hclose]
    | @object tail _ members h hmembers =>
        simp only [h]
        split
        case h_1 hclose =>
          rw [readMembers_of_close ((skipSpace_skipSpace tail).trans hclose)] at hmembers
          cases hmembers
        case h_2 => rw [hmembers]; rfl
    | emptyArray h hclose => simp only [h, hclose]
    | @array tail _ items h hitems =>
        simp only [h]
        split
        case h_1 hclose =>
          rw [readItems_of_close ((skipSpace_skipSpace tail).trans hclose)] at hitems
          cases hitems
        case h_2 => rw [hitems]; rfl
    | string h hstring => simp [h, hstring]
    | null h hword | true h hword | false h hword => simp [h, hword]
    | number h =>
        split
        case h_7 => rw [h]; rfl
        all_goals
          rename_i heq
          rw [heq] at h
          cases h

/-- **Items are read** up to the closing bracket or up to a comma and from behind it. -/
theorem readItems_succ_iff {items : List Json} :
    readItems (fuel + 1) text = some (items, rest) ↔
      ∃ item behind, readValue fuel text = some (item, behind) ∧
        (skipSpace behind = ']' :: rest ∧ items = [item] ∨
          ∃ tail more, skipSpace behind = ',' :: tail ∧
            closeItems tail (readItems fuel tail) = some (more, rest) ∧ items = item :: more) := by
  rw [readItems]
  constructor
  · intro h
    obtain ⟨⟨item, behind⟩, hitem, h⟩ := Option.bind_eq_some_iff.mp h
    refine ⟨item, behind, hitem, ?_⟩
    dsimp only at h
    split at h
    case h_1 hclose =>
      cases h
      exact .inl ⟨hclose, rfl⟩
    case h_2 tail hcomma =>
      obtain ⟨⟨more, last⟩, hmore, h⟩ := Option.bind_eq_some_iff.mp h
      cases h
      exact .inr ⟨tail, more, hcomma, hmore, rfl⟩
    case h_3 => cases h
  · rintro ⟨item, behind, hitem, ⟨hclose, rfl⟩ | ⟨tail, more, hcomma, hmore, rfl⟩⟩
    · simp [hitem, hclose]
    · simp [hitem, hcomma, hmore]

/-- **Members are read** up to the closing brace or up to a comma and from behind it. -/
theorem readMembers_succ_iff {members : List (Option String × Json)} :
    readMembers (fuel + 1) text = some (members, rest) ↔
      ∃ tail name behindName behindColon value behind,
        skipSpace text = '"' :: tail ∧ readString tail = some (name, behindName) ∧
        skipSpace behindName = ':' :: behindColon ∧
        readValue fuel behindColon = some (value, behind) ∧
        (skipSpace behind = '}' :: rest ∧ members = [(name, value)] ∨
          ∃ tail more, skipSpace behind = ',' :: tail ∧
            readMembers fuel tail = some (more, rest) ∧ members = (name, value) :: more) := by
  rw [readMembers]
  constructor
  · intro h
    split at h
    case h_1 tail hquote =>
      obtain ⟨⟨name, behindName⟩, hname, h⟩ := Option.bind_eq_some_iff.mp h
      dsimp only at h
      split at h
      case h_1 behindColon hcolon =>
        obtain ⟨⟨value, behind⟩, hvalue, h⟩ := Option.bind_eq_some_iff.mp h
        refine ⟨tail, name, behindName, behindColon, value, behind, hquote, hname, hcolon, hvalue,
          ?_⟩
        dsimp only at h
        split at h
        case h_1 hclose =>
          cases h
          exact .inl ⟨hclose, rfl⟩
        case h_2 tail hcomma =>
          obtain ⟨⟨more, last⟩, hmore, h⟩ := Option.bind_eq_some_iff.mp h
          cases h
          exact .inr ⟨tail, more, hcomma, hmore, rfl⟩
        case h_3 => cases h
      case h_2 => cases h
    case h_2 => cases h
  · rintro ⟨tail, name, behindName, behindColon, value, behind, hquote, hname, hcolon, hvalue,
      ⟨hclose, rfl⟩ | ⟨tail', more, hcomma, hmore, rfl⟩⟩
    · simp [hquote, hname, hcolon, hvalue, hclose]
    · simp [hquote, hname, hcolon, hvalue, hcomma, hmore]

end NodeGateway.Json
