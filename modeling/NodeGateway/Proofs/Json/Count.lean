import Mathlib.Algebra.Ring.Nat
import Mathlib.Data.List.Forall2
import NodeGateway.Proofs.Json.Shape
import NodeGateway.Proofs.Json.Steps

/-!
# Which Values Are Counts

A count is written in one of two notations. As a number of a document it has the grammar of JSON: no
leading zeros, and a sign, a fraction or an exponent make it something else. As a text it has the
grammar of the decimal numerals of programs: an optional plus sign, then digits, with leading zeros
if need be. What either notation spells is a natural number of any size; the reader takes it if it
is below `2 ^ 64` and takes nothing else (`Json.readCount?_iff`). It neither wraps nor rounds.

That a number token has no leading zeros is up to the reader of documents
(`Json.isPlain_of_parseRagged?`).
-/

namespace NodeGateway

/-! ### Digits -/

namespace Numeral

variable {digits text : List Char} {n bound : Nat}

/-- Digits **spell** a number. -/
structure Spells (digits : List Char) (n : Nat) : Prop where
  nonempty : digits ≠ []
  isDigit : ∀ c ∈ digits, c.isDigit = true
  value : Nat.ofDigitChars 10 digits 0 = n

/-- Only digits have a value. -/
theorem isDigit_of_digitValue? {c : Char} {d : Nat} (h : digitValue? c = some d) :
    c.isDigit = true := by
  unfold digitValue? at h
  split at h
  case isTrue hrange => simpa [Char.isDigit, Char.le_def] using hrange
  case isFalse => cases h

/-- Only digits are read as a number. -/
theorem digits_of_valueFrom {start : Nat} (h : valueFrom start digits = some n) :
    ∀ c ∈ digits, c.isDigit = true := by
  induction digits generalizing start with
  | nil => exact nofun
  | cons c digits ih =>
      rw [valueFrom] at h
      split at h
      case h_1 hc => exact List.forall_mem_cons.mpr ⟨isDigit_of_digitValue? hc, ih h⟩
      case h_2 => cases h

/-- What is read of a text is the number that its digits spell. -/
theorem natural?_eq_some_iff : natural? digits = some n ↔ Spells digits n := by
  have hread : digits ≠ [] → natural? digits = valueFrom 0 digits := fun hne => by
    cases digits with
    | nil => exact absurd rfl hne
    | cons => rfl
  constructor
  · intro h
    have hne : digits ≠ [] := by
      rintro rfl
      cases h
    rw [hread hne] at h
    have hdigits := digits_of_valueFrom h
    rw [valueFrom_of_digits hdigits] at h
    exact ⟨hne, hdigits, Option.some.inj h⟩
  · rintro ⟨hne, hdigits, rfl⟩
    rw [hread hne, valueFrom_of_digits hdigits]

/-- A plus sign is no digit. -/
theorem Spells.ne_plus (h : Spells digits n) (rest : List Char) : digits ≠ '+' :: rest := by
  rintro rfl
  cases h.isDigit '+' List.mem_cons_self

/-- An unsigned number may have a plus sign. -/
theorem unsigned?_eq_some_iff : unsigned? bound text = some n ↔
    (∃ digits, (text = digits ∨ text = '+' :: digits) ∧ Spells digits n) ∧ n < bound := by
  have hfilter : ∀ digits, (natural? digits).filter (· < bound) = some n ↔
      Spells digits n ∧ n < bound := fun digits => by
    rw [Option.filter_eq_some_iff, natural?_eq_some_iff, decide_eq_true_eq]
  unfold unsigned?
  split
  case h_1 digits =>
    rw [hfilter]
    constructor
    · rintro ⟨hspells, hbound⟩
      exact ⟨⟨digits, .inr rfl, hspells⟩, hbound⟩
    · rintro ⟨⟨other, rfl | heq, hspells⟩, hbound⟩
      · exact absurd rfl (hspells.ne_plus digits)
      · cases heq
        exact ⟨hspells, hbound⟩
  case h_2 hplus =>
    rw [hfilter]
    constructor
    · rintro ⟨hspells, hbound⟩
      exact ⟨⟨text, .inl rfl, hspells⟩, hbound⟩
    · rintro ⟨⟨digits, rfl | rfl, hspells⟩, hbound⟩
      · exact ⟨hspells, hbound⟩
      · exact absurd rfl (hplus digits)

end Numeral

namespace Json

/-! ### Number tokens -/

/-- A token is **plain** if no digit stands behind a leading zero. -/
def IsPlain (token : List Char) : Prop := ∀ c tail, token = '0' :: c :: tail → c.isDigit = false

variable {text rest token : List Char} {fuel : Nat}

/-- The digits in front of the point are a single zero, or do not begin with one. -/
theorem readWhole_plain (h : readWhole text = some (token, rest)) :
    token = ['0'] ∨ ∃ c tail, token = c :: tail ∧ c ≠ '0' := by
  match text with
  | [] => cases h
  | c :: tail =>
      by_cases hzero : c = '0'
      · subst hzero
        cases h
        exact .inl rfl
      · rw [readWhole] at h
        · unfold readDigits at h
          by_cases hc : Numeral.isDigit c
          · rw [List.takeWhile_cons_of_pos hc] at h
            cases h
            exact .inr ⟨c, _, rfl, hzero⟩
          · rw [List.takeWhile_cons_of_neg hc] at h
            cases h
        · exact fun _ heq => hzero (List.cons.inj heq).1

/-- A fraction begins with no digit. -/
theorem readFraction_plain (h : readFraction text = some (token, rest)) :
    ∀ c tail, token = c :: tail → c.isDigit = false := by
  rintro c tail rfl
  unfold readFraction at h
  split at h
  · obtain ⟨⟨digits, behind⟩, -, heq⟩ := Option.bind_eq_some_iff.mp h
    cases heq
    rfl
  · cases h

/-- An exponent begins with no digit. -/
theorem readExponent_plain (h : readExponent text = some (token, rest)) :
    ∀ c tail, token = c :: tail → c.isDigit = false := by
  rintro c tail rfl
  unfold readExponent at h
  split at h
  case h_1 e more =>
    split at h
    case isTrue hmark =>
      have hmark : e.isDigit = false := by
        rcases hmark with rfl | rfl <;> rfl
      split at h
      case h_1 =>
        split at h
        all_goals
          obtain ⟨⟨digits, behind⟩, -, heq⟩ := Option.bind_eq_some_iff.mp h
          cases heq
          exact hmark
      case h_2 => cases h
    case isFalse => cases h
  case h_2 => cases h

/-- **Number tokens are plain.** -/
theorem isPlain_of_readNumber (h : readNumber text = some (token, rest)) : IsPlain token := by
  rintro c tail rfl
  have hunsigned : ∃ text, readUnsigned text = some ('0' :: c :: tail, rest) := by
    unfold readNumber at h
    split at h
    · obtain ⟨⟨unsigned, behind⟩, -, heq⟩ := Option.bind_eq_some_iff.mp h
      cases heq
    · exact ⟨_, h⟩
  obtain ⟨text, h⟩ := hunsigned
  obtain ⟨⟨whole, _⟩, hwhole, h⟩ := Option.bind_eq_some_iff.mp h
  obtain ⟨⟨fraction, _⟩, hfraction, h⟩ := Option.bind_eq_some_iff.mp h
  obtain ⟨⟨exponent, _⟩, hexponent, heq⟩ := Option.bind_eq_some_iff.mp h
  have htoken : whole ++ fraction ++ exponent = '0' :: c :: tail :=
    congrArg Prod.fst (Option.some.inj heq)
  rcases readWhole_plain hwhole with rfl | ⟨first, more, rfl, hfirst⟩
  · -- what stands behind the zero is the fraction or the exponent
    cases fraction with
    | nil => exact readExponent_plain hexponent c tail (List.cons.inj htoken).2
    | cons point digits =>
        have heq := (List.cons.inj htoken).2
        exact (List.cons.inj heq).1 ▸ readFraction_plain hfraction point digits rfl
  · exact absurd (List.cons.inj htoken).1 hfirst

/-! ### Numbers in documents -/

/-- What a document **contains**: itself, and what its items and the values of its members
contain. -/
inductive Contains : Json → Json → Prop
  | self (value : Json) : Contains value value
  | item {items : List Json} {item part : Json} (hitem : item ∈ items)
      (h : Contains item part) : Contains (.array items) part
  | member {members : List (Option String × Json)} {name : Option String} {value part : Json}
      (hmember : (name, value) ∈ members) (h : Contains value part) :
      Contains (.object members) part

/-- All numbers that a value contains have plain tokens. -/
def HasPlainNumbers (value : Json) : Prop :=
  ∀ token : String, value.Contains (.number token) → IsPlain token.toList

/-- The items behind a comma are those that were read there, but for scraps. -/
theorem hasPlainNumbers_of_closeItems {text : List Char} {read : Option (List Json × List Char)}
    {items : List Json} (h : closeItems text read = some (items, rest))
    (hread : ∀ items rest, read = some (items, rest) → ∀ item ∈ items, item.HasPlainNumbers) :
    ∀ item ∈ items, item.HasPlainNumbers := by
  have hscrap : ∀ isValue, (scrap isValue).HasPlainNumbers := fun _ _ hcontains => nomatch hcontains
  unfold closeItems at h
  split at h
  case h_1 rest' =>
    have hstring := hread _ _ rfl
    split at h
    case h_1 other _ =>
      have hitems := congrArg Prod.fst (Option.some.inj h)
      dsimp only at hitems
      subst hitems
      split
      · exact List.forall_mem_singleton.mpr (hscrap _)
      · exact hstring
    case h_2 =>
      cases h
      exact hstring
  case h_2 =>
    cases h
    exact hread _ _ rfl
  case h_3 =>
    obtain ⟨behind, -, heq⟩ := Option.map_eq_some_iff.mp h
    cases heq
    exact List.forall_mem_singleton.mpr (hscrap _)

mutual

theorem hasPlainNumbers_of_readValue : ∀ {fuel : Nat} {text rest : List Char} {value : Json},
    readValue fuel text = some (value, rest) → value.HasPlainNumbers
  | 0, _, _, _, h => by cases h
  | fuel + 1, text, rest, value, h => by
      intro token hcontains
      cases readValue_succ_iff.mp h with
      | object _ hmembers =>
          cases hcontains with
          | member hmember hcontains =>
              exact hasPlainNumbers_of_readMembers hmembers _ hmember token hcontains
      | array _ hitems =>
          cases hcontains with
          | item hitem hcontains =>
              exact hasPlainNumbers_of_readItems hitems _ hitem token hcontains
      | @number _ digits h =>
          cases hcontains with
          | self =>
              rw [String.toList_ofList]
              exact isPlain_of_readNumber h
      | emptyObject =>
          cases hcontains with
          | member hmember => cases hmember
      | emptyArray =>
          cases hcontains with
          | item hitem => cases hitem
      | string | null | true | false => cases hcontains

theorem hasPlainNumbers_of_readItems : ∀ {fuel : Nat} {text rest : List Char} {items : List Json},
    readItems fuel text = some (items, rest) → ∀ item ∈ items, item.HasPlainNumbers
  | 0, _, _, _, h => by cases h
  | fuel + 1, text, rest, items, h => by
      obtain ⟨item, behind, hitem, hbehind⟩ := readItems_succ_iff.mp h
      have hplain := hasPlainNumbers_of_readValue hitem
      rcases hbehind with ⟨-, rfl⟩ | ⟨tail, more, -, hmore, rfl⟩
      · exact List.forall_mem_singleton.mpr hplain
      · exact List.forall_mem_cons.mpr ⟨hplain, hasPlainNumbers_of_closeItems hmore
          fun _ _ hread => hasPlainNumbers_of_readItems hread⟩

theorem hasPlainNumbers_of_readMembers : ∀ {fuel : Nat} {text rest : List Char}
    {members : List (Option String × Json)}, readMembers fuel text = some (members, rest) →
      ∀ member ∈ members, member.2.HasPlainNumbers
  | 0, _, _, _, h => by cases h
  | fuel + 1, text, rest, members, h => by
      obtain ⟨_, name, _, _, value, _, -, -, -, hvalue, hbehind⟩ := readMembers_succ_iff.mp h
      have hplain := hasPlainNumbers_of_readValue hvalue
      rcases hbehind with ⟨-, rfl⟩ | ⟨tail, more, -, hmore, rfl⟩
      · exact List.forall_mem_singleton.mpr hplain
      · exact List.forall_mem_cons.mpr ⟨hplain, hasPlainNumbers_of_readMembers hmore⟩

end

/-- **No number of a document has a leading zero.** -/
theorem hasPlainNumbers_of_parseRagged? {text : String} {document : Json}
    (h : parseRagged? text = some document) : document.HasPlainNumbers := by
  rw [parseRagged?, parseChars?] at h
  split at h
  case h_1 hread =>
    split at h
    · cases h
      exact hasPlainNumbers_of_readValue hread
    · cases h
  case h_2 => cases h

/-- What a part contains the whole does. -/
theorem HasPlainNumbers.of_contains {value part : Json} (h : value.HasPlainNumbers)
    (hpart : value.Contains part) : part.HasPlainNumbers := by
  induction hpart with
  | self => exact h
  | item hitem _ ih => exact ih fun token hcontains => h token (.item hitem hcontains)
  | member hmember _ ih => exact ih fun token hcontains => h token (.member hmember hcontains)

/-! ### Counts -/

/-- A value **is a count** if it spells a number in one of the two notations: an integer of a
document without a sign, or a text of digits behind an optional plus sign. -/
inductive IsCount : Json → Nat → Prop
  | plain {token : String} {n : Nat} (h : Numeral.Spells token.toList n)
      (hzero : ∀ c tail, token.toList ≠ '0' :: c :: tail) : IsCount (.number token) n
  | quoted {text : String} {digits : List Char} {n : Nat} (h : Numeral.Spells digits n)
      (htext : text.toList = digits ∨ text.toList = '+' :: digits) :
      IsCount (.string (some text)) n

/-- A number below the bound is kept as it is. -/
theorem map_toNat_eq_some_iff {found : Option Nat} {n : Nat}
    (h : ∀ m, found = some m → m < 2 ^ 64) :
    (found.bind fun m => some (UInt64.ofNat m)).map UInt64.toNat = some n ↔ found = some n := by
  cases found with
  | none => simp
  | some m =>
      have hm : (UInt64.ofNat m).toNat = m := UInt64.toNat_ofNat_of_lt (h m rfl)
      rw [Option.bind_some, Option.map_some, hm]

/-- **Which values are read as counts**, and as which. -/
theorem readCount?_iff {value : Json} (hplain : value.HasPlainNumbers) (n : Nat) :
    value.readCount?.map UInt64.toNat = some n ↔ value.IsCount n ∧ n < 2 ^ 64 := by
  have hfilter : ∀ digits m, (Numeral.natural? digits).filter (· < Numeral.bound64) = some m ↔
      Numeral.Spells digits m ∧ m < 2 ^ 64 := fun digits m => by
    rw [Option.filter_eq_some_iff, Numeral.natural?_eq_some_iff, decide_eq_true_eq]
    rfl
  match value with
  | .number token =>
      refine (map_toNat_eq_some_iff fun m hm => ((hfilter _ _).mp hm).2).trans
        ((hfilter _ _).trans ?_)
      refine and_congr_left fun _ => ⟨fun hspells => .plain hspells ?_, fun h => ?_⟩
      · intro c tail heq
        have hdigit := hspells.isDigit c (by simp [heq])
        cases hdigit.symm.trans (hplain token (.self _) c tail heq)
      · cases h with
        | plain hspells => exact hspells
  | .string (some text) =>
      refine (map_toNat_eq_some_iff fun m hm => (Numeral.unsigned?_eq_some_iff.mp hm).2).trans
        (Numeral.unsigned?_eq_some_iff.trans (and_congr_left fun _ => ⟨?_, fun h => ?_⟩))
      · rintro ⟨digits, htext, hspells⟩
        exact .quoted hspells htext
      · cases h with
        | quoted hspells htext => exact ⟨_, htext, hspells⟩
  | .string none | .null | .bool _ | .array _ | .object _ | .scrap _ =>
      exact ⟨nofun, fun h => nomatch h.1⟩

/-- A list is read item by item. -/
theorem map_mapM_eq_some_iff {α β : Type} {read : Json → Option α} {f : α → β} {items : List Json}
    {values : List β} : (items.mapM read).map (List.map f) = some values ↔
      List.Forall₂ (fun item value => (read item).map f = some value) items values := by
  induction items generalizing values with
  | nil => simp [eq_comm]
  | cons item items ih =>
      have hcons : ((item :: items).mapM read).map (List.map f) =
          ((read item).map f).bind fun value =>
            ((items.mapM read).map (List.map f)).map (value :: ·) := by
        rw [List.mapM_cons]
        cases read item <;> cases items.mapM read <;> rfl
      rw [hcons]
      constructor
      · intro h
        obtain ⟨value, hvalue, h⟩ := Option.bind_eq_some_iff.mp h
        obtain ⟨others, hothers, rfl⟩ := Option.map_eq_some_iff.mp h
        exact .cons hvalue (ih.mp hothers)
      · rintro (_ | ⟨hvalue, hothers⟩)
        rw [hvalue, ih.mpr hothers]
        rfl

end Json

/-- **Which values of a document are counts and lists of counts**: a count is one that spells a
number below `2 ^ 64` in one of the two notations, and is read as this number. What spells no
number, or a greater one, is refused. A list of counts is read if each item is one, in the order of
the items. -/
theorem Shape.read?_count_iff {text : String} {document value : Json}
    (hdocument : Json.parseRagged? text = some document) (hvalue : document.Contains value) :
    (∀ n : Nat,
      (Shape.count.read? value).map UInt64.toNat = some n ↔ value.IsCount n ∧ n < 2 ^ 64) ∧
    (Shape.count.read? value = none ↔ ∀ n, value.IsCount n → 2 ^ 64 ≤ n) ∧
    ∀ numbers : List Nat,
      ((Shape.list .count).read? value).map (List.map UInt64.toNat) = some numbers ↔
        ∃ items, value = .array items ∧
          List.Forall₂ (fun item n => item.IsCount n ∧ n < 2 ^ 64) items numbers := by
  have hplain := (Json.hasPlainNumbers_of_parseRagged? hdocument).of_contains hvalue
  have hcount : ∀ n : Nat,
      (Shape.count.read? value).map UInt64.toNat = some n ↔ value.IsCount n ∧ n < 2 ^ 64 :=
    fun n => Json.readCount?_iff hplain n
  refine ⟨hcount, ⟨fun hnone n hn => ?_, fun hgreater => ?_⟩, fun numbers => ?_⟩
  · by_contra hlt
    have hread := (hcount n).mpr ⟨hn, Nat.lt_of_not_le hlt⟩
    rw [hnone] at hread
    cases hread
  · cases hread : Shape.count.read? value with
    | none => rfl
    | some found =>
        obtain ⟨hn, hlt⟩ := (hcount (UInt64.toNat found)).mp (by rw [hread]; rfl)
        exact absurd hlt (Nat.not_lt.mpr (hgreater _ hn))
  · match value with
    | .array items =>
        have hlist : ((Shape.list .count).read? (.array items)).map (List.map UInt64.toNat) =
            some numbers ↔
              List.Forall₂ (fun item n => item.readCount?.map UInt64.toNat = some n) items
                numbers :=
          Json.map_mapM_eq_some_iff
        have hitems : ∀ {item}, item ∈ items → ∀ n : Nat,
            item.readCount?.map UInt64.toNat = some n ↔ item.IsCount n ∧ n < 2 ^ 64 :=
          fun hitem => Json.readCount?_iff (hplain.of_contains (.item hitem (.self _)))
        rw [hlist, List.forall₂_iff_zip]
        constructor
        · rintro ⟨hlength, hread⟩
          refine ⟨items, rfl, List.forall₂_iff_zip.mpr ⟨hlength, fun hmem => ?_⟩⟩
          exact (hitems (List.of_mem_zip hmem).1 _).mp (hread hmem)
        · rintro ⟨_, ⟨⟩, hcounts⟩
          obtain ⟨hlength, hcounts⟩ := List.forall₂_iff_zip.mp hcounts
          exact ⟨hlength, fun hmem => (hitems (List.of_mem_zip hmem).1 _).mpr (hcounts hmem)⟩
    | .string _ | .null | .bool _ | .number _ | .object _ | .scrap _ =>
        exact ⟨nofun, fun ⟨_, h, _⟩ => nomatch h⟩

/-- The greatest count as a text with a sign and a leading zero, and the number behind it. -/
theorem Shape.read?_count_greatest :
    let greatest : Json := .str "+018446744073709551615"
    let beyond : Json := .number "18446744073709551616"
    Json.parseRagged? "[\"+018446744073709551615\", 18446744073709551616]" =
      some (.array [greatest, beyond]) ∧
    (Shape.count.read? greatest).map UInt64.toNat = some 18446744073709551615 ∧
    Shape.count.read? beyond = none := by
  intro greatest beyond
  have hdocument : Json.parseRagged? "[\"+018446744073709551615\", 18446744073709551616]" =
      some (.array [greatest, beyond]) := by cbv
  have hgreatest : Json.Contains (.array [greatest, beyond]) greatest :=
    .item (by simp) (.self greatest)
  have hbeyond : Json.Contains (.array [greatest, beyond]) beyond := .item (by simp) (.self beyond)
  refine ⟨hdocument, ?_, ?_⟩
  · rw [(read?_count_iff hdocument hgreatest).1]
    exact ⟨.quoted ⟨by decide, List.all_eq_true.mp (by decide), by decide⟩ (.inr rfl), by decide⟩
  · rw [(read?_count_iff hdocument hbeyond).2.1]
    intro n hcount
    change Json.IsCount (.number "18446744073709551616") n at hcount
    cases hcount with
    | plain h => exact h.value ▸ (by decide)

end NodeGateway
