import Mathlib.Data.Option.Basic
import NodeGateway.Json.Reader
import NodeGateway.Json.Writer
import NodeGateway.Proofs.Text.Utf8

/-!
# What Is Written Reads Back

The reader of JSON knows nothing of the writer: it takes blanks between all tokens, several
spellings of a character, and arrays that end in scraps. Still a document that is written in its
compact form is read back from it as it was (`Json.parseRagged?_render`), if it is **written in
full**, that is, without numbers, whose tokens need not be numerals, without scraps, and without
strings that have no text.

* A string is written character by character, and each character is scanned as one part that names
  it (`Json.exists_scanString_escapeChar`).
* A value is read from its compact form whatever stands behind it, which carries the induction over
  items and members (`Json.readValue_renderChars`). The reader counts down; every value and every
  separator that it reads has been written with at least one character, so twice the length is
  enough.
* From the bytes of a text the reader gets what it gets from the text (`Json.inBytes_encode`).
-/

namespace NodeGateway.Json

/-! ### Strings -/

/-- A part of a string **names** a character if it is the character itself, or the code unit of a
control character. -/
inductive StringPart.Names : StringPart → Char → Prop
  | char (c : Char) : Names (.char c) c
  | unit {c : Char} (h : c.toNat < 0x20) : Names (.unit c.toNat) c

/-- A code unit is read from its digits. -/
theorem natOfDigits?_unit {n : Nat} (h : n < 256) :
    Hex.natOfDigits? ['0', '0', Hex.digit (n / 16), Hex.digit (n % 16)] = some n := by
  have hzero : Hex.digitValue? '0' = some 0 := rfl
  have hhigh := Hex.digitValue?_digit (show n / 16 < 16 by omega)
  have hlow := Hex.digitValue?_digit (show n % 16 < 16 by omega)
  simp [Hex.natOfDigits?, List.foldlM, hzero, hhigh, hlow, Nat.div_add_mod]

/-- A part in front of those that are scanned behind it. -/
def withPart (part : StringPart) :
    List StringPart × List Char → List StringPart × List Char
  | (parts, rest) => (part :: parts, rest)

/-- A character that stands for itself is scanned. -/
theorem scanString_char {c : Char} (hquote : c ≠ '"') (hescape : c ≠ '\\')
    (hplain : 0x20 ≤ c.toNat) (rest : List Char) :
    scanString (c :: rest) = (scanString rest).map (withPart (.char c)) := by
  have hpass : (guard (0x20 ≤ c.toNat) : Option Unit) = some () := if_pos hplain
  rw [scanString]
  · rw [hpass]
    cases scanString rest <;> rfl
  · exact hquote
  · exact fun _ _ _ _ _ h => absurd h hescape
  · exact fun _ _ h => absurd h hescape

/-- An escape of one letter is scanned as the character that it stands for. -/
theorem scanString_escape {e c : Char} (h : escaped? e = some c) (hunit : e ≠ 'u')
    (rest : List Char) :
    scanString ('\\' :: e :: rest) = (scanString rest).map (withPart (.char c)) := by
  rw [scanString]
  · rw [h]
    cases scanString rest <;> rfl
  · exact fun _ _ _ _ _ h => absurd h hunit

/-- An escape of four digits is scanned as a code unit. -/
theorem scanString_unit {first second third fourth : Char} {code : Nat}
    (h : Hex.natOfDigits? [first, second, third, fourth] = some code) (rest : List Char) :
    scanString ('\\' :: 'u' :: first :: second :: third :: fourth :: rest) =
      (scanString rest).map (withPart (.unit code)) := by
  rw [scanString, h]
  cases scanString rest <;> rfl

/-- What is written for a character is scanned as a part that names it. -/
theorem exists_scanString_escapeChar (c : Char) :
    ∃ part : StringPart, part.Names c ∧
      ∀ rest, scanString (escapeChar c ++ rest) = (scanString rest).map (withPart part) := by
  unfold escapeChar
  split
  case h_8 _ hquote hescape _ _ _ _ _ =>
    split
    case isTrue hcontrol =>
      exact ⟨.unit c.toNat, .unit hcontrol, scanString_unit (natOfDigits?_unit (by omega))⟩
    case isFalse hplain =>
      exact ⟨.char c, .char c, scanString_char hquote hescape (Nat.not_lt.mp hplain)⟩
  all_goals exact ⟨.char _, .char _, scanString_escape rfl (by decide)⟩

/-- A part that names a character adds it to the text. -/
theorem joinUnits_cons {part : StringPart} {c : Char} (h : part.Names c)
    (parts : List StringPart) :
    joinUnits (part :: parts) = (joinUnits parts).map (c :: ·) := by
  cases h with
  | char => rw [joinUnits]
  | unit hcontrol =>
      have hhigh : isHighSurrogate c.toNat = false := by
        simp [isHighSurrogate]
        omega
      have hlow : isLowSurrogate c.toNat = false := by
        simp [isLowSurrogate]
        omega
      cases parts with
      | nil => simp [joinUnits, hhigh, hlow]
      | cons next parts =>
          cases next with
          | char => simp [joinUnits, hhigh, hlow]
          | unit => simp [joinUnits, hhigh, hlow]

/-- The characters of a string are scanned up to the quote behind them. -/
theorem exists_scanString (text rest : List Char) :
    ∃ parts, scanString (text.flatMap escapeChar ++ '"' :: rest) = some (parts, rest) ∧
      joinUnits parts = some text := by
  induction text with
  | nil => exact ⟨[], by rw [List.flatMap_nil, List.nil_append, scanString], rfl⟩
  | cons c text ih =>
      obtain ⟨parts, hscan, hjoin⟩ := ih
      obtain ⟨part, hnames, hpart⟩ := exists_scanString_escapeChar c
      refine ⟨part :: parts, ?_, ?_⟩
      · rw [List.flatMap_cons, List.append_assoc, hpart, hscan]
        rfl
      · rw [joinUnits_cons hnames, hjoin]
        rfl

/-- **A string** is read from its written form. -/
theorem readString_flatMap_escapeChar (text : String) (rest : List Char) :
    readString (text.toList.flatMap escapeChar ++ '"' :: rest) = some (some text, rest) := by
  obtain ⟨parts, hscan, hjoin⟩ := exists_scanString text.toList rest
  rw [readString, hscan]
  simp [hjoin]

/-! ### Documents -/

mutual

/-- Whether a document is one that is **written in full**: without numbers and scraps, and with a
text in every string and for every name. -/
def isWritten : Json → Bool
  | .null | .bool _ => true
  | .number _ | .scrap _ => false
  | .string text => text.isSome
  | .array items => areWritten items
  | .object members => membersWritten members

/-- Whether every item of a list is written in full. -/
def areWritten : List Json → Bool
  | [] => true
  | item :: items => item.isWritten && areWritten items

/-- Whether every member is written in full, with its name. -/
def membersWritten : List (Option String × Json) → Bool
  | [] => true
  | (name, value) :: members => name.isSome && value.isWritten && membersWritten members

end

/-- There are no blanks to skip in front of a character that is none. -/
theorem skipSpace_cons {c : Char} (h : isSpace c = false) (rest : List Char) :
    skipSpace (c :: rest) = c :: rest := by
  rw [skipSpace, List.dropWhile_cons_of_neg (by simp [h])]

/-- A text **opens** a document if it begins with a character that is no blank and closes
nothing. -/
def Opens (text : List Char) : Prop :=
  ∃ c tail, text = c :: tail ∧ isSpace c = false ∧ c ≠ ']' ∧ c ≠ '}'

namespace Opens

variable {text : List Char}

/-- What stands behind does not matter. -/
theorem append (h : Opens text) (rest : List Char) : Opens (text ++ rest) := by
  obtain ⟨c, tail, rfl, hc⟩ := h
  exact ⟨c, tail ++ rest, rfl, hc⟩

/-- There are no blanks to skip. -/
theorem skipSpace_eq (h : Opens text) : skipSpace text = text := by
  obtain ⟨c, tail, rfl, hspace, -⟩ := h
  exact skipSpace_cons hspace tail

theorem ne_cons (h : Opens text) (rest : List Char) :
    text ≠ ']' :: rest ∧ text ≠ '}' :: rest := by
  obtain ⟨c, tail, rfl, -, hbracket, hbrace⟩ := h
  exact ⟨fun heq => hbracket (List.cons.inj heq).1, fun heq => hbrace (List.cons.inj heq).1⟩

end Opens

/-- The name of a member opens it. -/
theorem opens_renderText {name : Option String} : Opens (renderText name) := by
  cases name <;> exact ⟨'"', _, rfl, by decide⟩

/-- What is written for a document opens it. -/
theorem opens_renderChars {value : Json} (h : value.isWritten = true) :
    Opens (renderChars value) := by
  cases value with
  | null => exact ⟨'n', _, rfl, by decide⟩
  | bool b => cases b with
    | true => exact ⟨'t', _, rfl, by decide⟩
    | false => exact ⟨'f', _, rfl, by decide⟩
  | number | scrap => cases h
  | string text => exact opens_renderText
  | array items => exact ⟨'[', _, by rw [renderChars, List.cons_append], by decide⟩
  | object members => exact ⟨'{', _, by rw [renderChars, List.cons_append], by decide⟩

theorem opens_renderItems {item : Json} {items : List Json}
    (h : areWritten (item :: items) = true) : Opens (renderItems (item :: items)) := by
  rw [areWritten, Bool.and_eq_true] at h
  cases items with
  | nil => rw [renderItems]; exact opens_renderChars h.1
  | cons next items =>
      rw [renderItems]
      · exact (opens_renderChars h.1).append _
      · simp

theorem opens_renderMembers (member : Option String × Json)
    (members : List (Option String × Json)) : Opens (renderMembers (member :: members)) := by
  cases members with
  | nil => rw [renderMembers]; exact opens_renderText.append _
  | cons next members =>
      rw [renderMembers]
      · simp only [List.append_assoc]
        exact opens_renderText.append _
      · simp

/-- A word is dropped from in front of a text. -/
theorem dropWord_append (word : String) (rest : List Char) :
    dropWord word (word.toList ++ rest) = some rest := by
  have hprefix : word.toList.isPrefixOf (word.toList ++ rest) = true :=
    List.isPrefixOf_iff_prefix.mpr (List.prefix_append _ _)
  rw [dropWord, if_pos hprefix, ← String.length_toList, List.drop_left]

/-- Items that are written in full are no scrap. -/
theorem closeItems_of_areWritten {items : List Json} (h : areWritten items = true)
    (text rest : List Char) : closeItems text (some (items, rest)) = some (items, rest) := by
  unfold closeItems
  split
  case h_1 heq =>
    cases heq
    cases h
  case h_2 heq =>
    cases heq
    rfl
  case h_3 heq => cases heq

mutual

/-- **A value** is read from its compact form, whatever stands behind it. -/
theorem readValue_renderChars : ∀ (value : Json) (fuel : Nat) (rest : List Char),
    value.isWritten = true → 2 * (renderChars value).length ≤ fuel →
      readValue fuel (renderChars value ++ rest) = some (value, rest)
  | value, 0, rest, hwritten, hfuel => by
      obtain ⟨c, tail, hrender, -⟩ := opens_renderChars hwritten
      rw [hrender] at hfuel
      exact absurd hfuel (by simp)
  | .null, fuel + 1, rest, _, _ => by
      change readValue (fuel + 1) ('n' :: ("ull".toList ++ rest)) = _
      rw [readValue, skipSpace_cons rfl]
      exact congrArg (Option.map _) (dropWord_append "ull" rest)
  | .bool true, fuel + 1, rest, _, _ => by
      change readValue (fuel + 1) ('t' :: ("rue".toList ++ rest)) = _
      rw [readValue, skipSpace_cons rfl]
      exact congrArg (Option.map _) (dropWord_append "rue" rest)
  | .bool false, fuel + 1, rest, _, _ => by
      change readValue (fuel + 1) ('f' :: ("alse".toList ++ rest)) = _
      rw [readValue, skipSpace_cons rfl]
      exact congrArg (Option.map _) (dropWord_append "alse" rest)
  | .string (some text), fuel + 1, rest, _, _ => by
      have hrender : renderChars (.string (some text)) ++ rest =
          '"' :: (text.toList.flatMap escapeChar ++ '"' :: rest) := by
        simp [renderChars, renderText, renderString]
      rw [hrender, readValue, skipSpace_cons rfl]
      simp [readString_flatMap_escapeChar]
  | .array [], fuel + 1, rest, _, _ => by
      have hrender : renderChars (.array []) ++ rest = '[' :: ']' :: rest := by
        simp [renderChars, renderItems]
      rw [hrender, readValue, skipSpace_cons rfl]
      simp [skipSpace, isSpace]
  | .array (item :: items), fuel + 1, rest, hwritten, hfuel => by
      have hrender : renderChars (.array (item :: items)) ++ rest =
          '[' :: (renderItems (item :: items) ++ ']' :: rest) := by
        simp [renderChars]
      have hlength : (renderChars (.array (item :: items))).length =
          (renderItems (item :: items)).length + 2 := by
        simp [renderChars]
      have hitems := readItems_renderItems item items fuel rest hwritten (by omega)
      have hopens := (opens_renderItems hwritten).append (']' :: rest)
      rw [hrender, readValue, skipSpace_cons rfl]
      simp only [hopens.skipSpace_eq]
      split
      case h_1 heq => exact absurd heq (hopens.ne_cons _).1
      case h_2 => rw [hitems]; rfl
  | .object [], fuel + 1, rest, _, _ => by
      have hrender : renderChars (.object []) ++ rest = '{' :: '}' :: rest := by
        simp [renderChars, renderMembers]
      rw [hrender, readValue, skipSpace_cons rfl]
      simp [skipSpace, isSpace]
  | .object (member :: members), fuel + 1, rest, hwritten, hfuel => by
      have hrender : renderChars (.object (member :: members)) ++ rest =
          '{' :: (renderMembers (member :: members) ++ '}' :: rest) := by
        simp [renderChars]
      have hlength : (renderChars (.object (member :: members))).length =
          (renderMembers (member :: members)).length + 2 := by
        simp [renderChars]
      have hmembers := readMembers_renderMembers member members fuel rest hwritten (by omega)
      have hopens := (opens_renderMembers member members).append ('}' :: rest)
      rw [hrender, readValue, skipSpace_cons rfl]
      simp only [hopens.skipSpace_eq]
      split
      case h_1 heq => exact absurd heq (hopens.ne_cons _).2
      case h_2 => rw [hmembers]; rfl

/-- Items are read up to the closing bracket. -/
theorem readItems_renderItems : ∀ (item : Json) (items : List Json) (fuel : Nat)
    (rest : List Char), areWritten (item :: items) = true →
      2 * (renderItems (item :: items)).length + 1 ≤ fuel →
        readItems fuel (renderItems (item :: items) ++ ']' :: rest) = some (item :: items, rest)
  | _, _, 0, _, _, hfuel => absurd hfuel (by simp)
  | item, [], fuel + 1, rest, hwritten, hfuel => by
      rw [areWritten, Bool.and_eq_true] at hwritten
      rw [renderItems] at hfuel ⊢
      have hitem := readValue_renderChars item fuel (']' :: rest) hwritten.1 (by omega)
      rw [readItems, hitem]
      simp [skipSpace_cons, isSpace]
  | item, next :: items, fuel + 1, rest, hwritten, hfuel => by
      rw [areWritten, Bool.and_eq_true] at hwritten
      have hrender : renderItems (item :: next :: items) =
          renderChars item ++ ',' :: renderItems (next :: items) := by
        rw [renderItems]
        simp
      rw [hrender, List.length_append, List.length_cons] at hfuel
      have hitem := readValue_renderChars item fuel
        (',' :: (renderItems (next :: items) ++ ']' :: rest)) hwritten.1 (by omega)
      have hitems := readItems_renderItems next items fuel rest hwritten.2 (by omega)
      rw [hrender, List.append_assoc, List.cons_append, readItems, hitem]
      simp [skipSpace_cons, isSpace, hitems, closeItems_of_areWritten hwritten.2]

/-- Members are read up to the closing brace. -/
theorem readMembers_renderMembers : ∀ (member : Option String × Json)
    (members : List (Option String × Json)) (fuel : Nat) (rest : List Char),
      membersWritten (member :: members) = true →
        2 * (renderMembers (member :: members)).length ≤ fuel →
          readMembers fuel (renderMembers (member :: members) ++ '}' :: rest) =
            some (member :: members, rest)
  | member, members, 0, rest, hwritten, hfuel => by
      obtain ⟨c, tail, hrender, -⟩ := opens_renderMembers member members
      rw [hrender] at hfuel
      exact absurd hfuel (by simp)
  | (none, value), members, fuel + 1, rest, hwritten, hfuel => nomatch hwritten
  | (some name, value), [], fuel + 1, rest, hwritten, hfuel => by
      rw [membersWritten, Bool.and_eq_true, Bool.and_eq_true] at hwritten
      have hrender : renderMembers [(some name, value)] =
          '"' :: (name.toList.flatMap escapeChar ++ '"' :: ':' :: renderChars value) := by
        simp [renderMembers, renderText, renderString]
      rw [hrender, List.length_cons, List.length_append, List.length_cons,
        List.length_cons] at hfuel
      have hvalue := readValue_renderChars value fuel ('}' :: rest) hwritten.1.2 (by omega)
      rw [hrender, readMembers]
      simp [skipSpace_cons, isSpace, readString_flatMap_escapeChar, hvalue]
  | (some name, value), next :: members, fuel + 1, rest, hwritten, hfuel => by
      rw [membersWritten, Bool.and_eq_true, Bool.and_eq_true] at hwritten
      have hrender : renderMembers ((some name, value) :: next :: members) =
          '"' :: (name.toList.flatMap escapeChar ++ '"' :: ':' ::
            (renderChars value ++ ',' :: renderMembers (next :: members))) := by
        simp [renderMembers, renderText, renderString]
      rw [hrender, List.length_cons, List.length_append, List.length_cons, List.length_cons,
        List.length_append, List.length_cons] at hfuel
      have hvalue := readValue_renderChars value fuel
        (',' :: (renderMembers (next :: members) ++ '}' :: rest)) hwritten.1.2 (by omega)
      have hmembers := readMembers_renderMembers next members fuel rest hwritten.2 (by omega)
      rw [hrender, readMembers]
      simp [skipSpace_cons, isSpace, readString_flatMap_escapeChar, hvalue, hmembers]

end

/-- **What is written reads back**: a document that is written in full is read from its compact
form. -/
theorem parseRagged?_render {value : Json} (h : value.isWritten = true) :
    parseRagged? value.render = some value := by
  have hread := readValue_renderChars value (2 * (renderChars value).length + 2) [] h (by omega)
  rw [List.append_nil] at hread
  rw [parseRagged?, render, String.toList_ofList, parseChars?, hread]
  rfl

mutual

/-- What is written in full is whole. -/
theorem isWhole_of_isWritten : ∀ {value : Json}, value.isWritten = true → value.isWhole = true
  | .null, _ | .bool _, _ | .string _, _ => rfl
  | .array _, h => areWhole_of_areWritten h
  | .object _, h => membersWhole_of_membersWritten h

theorem areWhole_of_areWritten : ∀ {items : List Json}, areWritten items = true →
    areWhole items = true
  | [], _ => rfl
  | _ :: _, h =>
      have h := Bool.and_eq_true_iff.mp h
      Bool.and_eq_true_iff.mpr ⟨isWhole_of_isWritten h.1, areWhole_of_areWritten h.2⟩

theorem membersWhole_of_membersWritten : ∀ {members : List (Option String × Json)},
    membersWritten members = true → membersWhole members = true
  | [], _ => rfl
  | (_, _) :: _, h =>
      have h := Bool.and_eq_true_iff.mp h
      Bool.and_eq_true_iff.mpr ⟨isWhole_of_isWritten (Bool.and_eq_true_iff.mp h.1).2,
        membersWhole_of_membersWritten h.2⟩

end

/-- What is written is read back as a whole document. -/
theorem parse?_render {value : Json} (h : value.isWritten = true) :
    parse? value.render = some value := by
  rw [parse?, parseRagged?_render h, Option.filter_some, isWhole_of_isWritten h]
  rfl

/-! ### Documents in bytes -/

mutual

/-- Two equal readings have everything in common. -/
theorem common_self : ∀ value : Json, value.common value = value
  | .null | .bool _ | .number _ | .scrap _ => by simp only [common]
  | .string text => by rw [common, if_pos rfl]
  | .array items => by rw [common, itemsInCommon_self]
  | .object members => by rw [common, membersInCommon_self]

theorem itemsInCommon_self : ∀ items : List Json, itemsInCommon items items = items
  | [] => by rw [itemsInCommon]; simp
  | item :: items => by rw [itemsInCommon, common_self, itemsInCommon_self]

theorem membersInCommon_self :
    ∀ members : List (Option String × Json), membersInCommon members members = members
  | [] => by rw [membersInCommon]; simp
  | (name, value) :: members => by
      rw [membersInCommon, if_pos rfl, common_self, membersInCommon_self]

end

/-- The bytes of a text are read as the text. -/
theorem inBytes_encode (read : List Char → Option Json) (text : List Char) :
    inBytes read (Utf8.encode text) = read text := by
  rw [inBytes, Utf8.decodeFrom_encode, Utf8.decodeFrom_encode]
  cases hread : read text <;> simp [common_self]

end NodeGateway.Json
