import NodeGateway.Proofs.Text.Hex
import NodeGateway.Proofs.Text.Pieces
import NodeGateway.Service.AddressList

/-!
# Every Spelling of a List of Addresses

A piece of a list is blank, or an address is spelled in it, or something else stands in it
(`AddressList.blank_or_spelling_or_foreign`). Blank pieces do not count, a spelling gives its
address, and the first piece of the third kind refuses the list, whatever follows it. These are the
three steps of reading the pieces one after another (`AddressList.readAll`), and each list of pieces
is either read to its end or has a first piece that is refused.

The main result is `AddressList.read_iff`. It says which texts are read as which addresses, and
which texts are refused with which problem, without mention of how they are read: a text is made
of pieces with commas between them, and there is one way to take it apart into pieces without
commas.
-/

namespace NodeGateway.AddressList

/-! ### Spellings -/

/-- The **spellings of an address**: its forty digits, each in either case, by themselves or behind
one of the two marks. -/
inductive Spelling (address : Address) : List Char → Prop
  | plain {digits : List Char} (h : Hex.Spells digits address.val) : Spelling address digits
  | small {digits : List Char} (h : Hex.Spells digits address.val) :
      Spelling address ('0' :: 'x' :: digits)
  | capital {digits : List Char} (h : Hex.Spells digits address.val) :
      Spelling address ('0' :: 'X' :: digits)

/-- Pieces **spell addresses** if they are blank but for those in which the addresses are spelled,
in the order of the addresses. -/
inductive Spells : List (List Char) → List Address → Prop
  | nil : Spells [] []
  | blank {piece pieces addresses} (hblank : Text.Blank piece) (hrest : Spells pieces addresses) :
      Spells (piece :: pieces) addresses
  | address {piece core pieces address addresses} (hcore : Spelling address core)
      (hpadded : Text.Padded core piece) (hrest : Spells pieces addresses) :
      Spells (piece :: pieces) (address :: addresses)

/-- Something **foreign** stands in a piece: it is not blank, and no spelling of an address. -/
structure Foreign (piece core : List Char) : Prop where
  padded : Text.Padded core piece
  bare : Text.Bare core
  filled : core ≠ []
  spells : ∀ address, ¬ Spelling address core

/-- A text is **cut into pieces** at its commas. -/
structure Cut (text : String) (pieces : List (List Char)) : Prop where
  whole : text.toList = [','].intercalate pieces
  commas : ∀ piece ∈ pieces, ',' ∉ piece

variable {address : Address} {addresses : List Address} {core piece digits : List Char}
variable {before all behind : List (List Char)} {text : String}

/-- Digits that can be read have no mark in front of them. -/
theorem withoutMark_of_spells {bytes : Bytes} (h : Hex.Spells digits bytes) :
    Hex.withoutMark digits = digits := by
  have hdigits := Hex.isDigit_of_decode? h.decode?
  unfold Hex.withoutMark
  split
  · exact absurd (hdigits 'x' (by simp)) (by decide)
  · exact absurd (hdigits 'X' (by simp)) (by decide)
  · rfl

/-- A piece is read as an address if its digits spell that address behind the mark. -/
theorem readPiece_eq_ok_iff :
    readPiece piece = .ok address ↔ Hex.Spells (Hex.withoutMark piece) address.val := by
  have hread : FixedBytes.read? 20 (String.ofList piece) = some address ↔
      Hex.Spells (Hex.withoutMark piece) address.val := by
    rw [FixedBytes.read?, Hex.read?, String.toList_ofList, Option.bind_eq_some_iff]
    constructor
    · rintro ⟨bytes, hbytes, haddress⟩
      rw [FixedBytes.ofBytes?] at haddress
      split at haddress
      case isTrue =>
        obtain rfl := Option.some.inj haddress
        exact Hex.spells_of_decode? hbytes
      case isFalse => cases haddress
    · exact fun h => ⟨address.val, h.decode?, dif_pos address.property⟩
  rw [← hread, readPiece]
  cases FixedBytes.read? 20 (String.ofList piece) <;> simp

/-- **Spellings are read**, and nothing else. -/
theorem spelling_iff : Spelling address piece ↔ readPiece piece = .ok address := by
  rw [readPiece_eq_ok_iff]
  constructor
  · intro h
    cases h with
    | plain h => rwa [withoutMark_of_spells h]
    | small h | capital h => exact h
  · intro h
    unfold Hex.withoutMark at h
    split at h
    · exact .small h
    · exact .capital h
    · exact .plain h

/-- What is no spelling is the problem of its piece. -/
theorem readPiece_of_foreign (h : ∀ address, ¬ Spelling address piece) :
    readPiece piece = .error (notAnAddress piece) := by
  cases hread : FixedBytes.read? 20 (String.ofList piece) with
  | none => rw [readPiece, hread]
  | some address => exact absurd (spelling_iff.mpr (by rw [readPiece, hread])) (h address)

/-- No blank and no comma is a digit. -/
theorem of_isDigit {c : Char} (h : Hex.isDigit c = true) : Text.isBlank c = false ∧ c ≠ ',' := by
  obtain ⟨n, hn⟩ := Option.isSome_iff_exists.mp h
  exact Text.forall_of_lt
    (P := fun c => Hex.isDigit c = true → Text.isBlank c = false ∧ c ≠ ',') (by decide)
    (Hex.toNat_lt_of_digitValue? hn) h

/-- Neither blanks nor commas stand in a spelling. -/
theorem Spelling.of_mem (h : Spelling address core) :
    ∀ c ∈ core, Text.isBlank c = false ∧ c ≠ ',' := by
  have hdigits : ∀ {digits}, Hex.Spells digits address.val →
      ∀ c ∈ digits, Text.isBlank c = false ∧ c ≠ ',' := fun hspells c hc =>
    of_isDigit (Hex.isDigit_of_decode? hspells.decode? c hc)
  cases h with
  | plain h => exact hdigits h
  | small h | capital h =>
      rw [List.forall_mem_cons, List.forall_mem_cons]
      exact ⟨by decide, by decide, hdigits h⟩

/-- A spelling neither begins nor ends with a blank. -/
theorem Spelling.bare (h : Spelling address core) : Text.Bare core where
  first c hc := (h.of_mem c (List.mem_of_mem_head? hc)).1
  last c hc := (h.of_mem c (List.mem_of_getLast? hc)).1

/-- Something stands in a spelling. -/
theorem Spelling.ne_nil (h : Spelling address core) : core ≠ [] := by
  cases h with
  | plain h =>
      rintro rfl
      have hlength := Hex.length_of_decode? h.decode?
      rw [address.property, List.length_nil] at hlength
      omega
  | small h | capital h => exact List.cons_ne_nil _ _

/-! ### One piece -/

/-- **Each piece is of one of three kinds.** -/
theorem blank_or_spelling_or_foreign (piece : List Char) :
    Text.Blank piece ∨ (∃ address core, Spelling address core ∧ Text.Padded core piece) ∨
      ∃ core, Foreign piece core := by
  by_cases hblank : Text.Blank piece
  · exact .inl hblank
  · by_cases hspelling : ∃ address, Spelling address (Text.trim piece)
    · obtain ⟨address, hspelling⟩ := hspelling
      exact .inr (.inl ⟨address, Text.trim piece, hspelling, Text.padded_trim piece⟩)
    · exact .inr (.inr ⟨Text.trim piece, Text.padded_trim piece, Text.bare_trim piece,
        mt Text.trim_eq_nil_iff.mp hblank, not_exists.mp hspelling⟩)

/-- Reads pieces one after another. -/
def readAll (all : List (List Char)) : Except Problem (List Address) :=
  ((all.map Text.trim).filter (!·.isEmpty)).mapM readPiece

/-- A list is read by reading its pieces. -/
theorem read_eq_readAll (text : String) : read text = readAll (Text.splitAt ',' text.toList) :=
  rfl

/-- A blank piece does not count. -/
theorem readAll_of_blank (hblank : Text.Blank piece) (behind : List (List Char)) :
    readAll (piece :: behind) = readAll behind := by
  rw [readAll, List.map_cons, Text.trim_eq_nil_iff.mpr hblank, List.filter_cons_of_neg (by simp)]
  rfl

/-- A piece with something in it is read before those behind it. -/
theorem readAll_of_padded (hpadded : Text.Padded core piece) (hbare : Text.Bare core)
    (hfilled : core ≠ []) (behind : List (List Char)) :
    readAll (piece :: behind) =
      (readPiece core).bind fun address => (readAll behind).map (address :: ·) := by
  rw [readAll, List.map_cons, hpadded.trim_eq hbare,
    List.filter_cons_of_pos (by simpa using hfilled), List.mapM_cons]
  rfl

/-- A spelling gives its address. -/
theorem readAll_of_spelling (hcore : Spelling address core) (hpadded : Text.Padded core piece)
    (behind : List (List Char)) :
    readAll (piece :: behind) = (readAll behind).map (address :: ·) := by
  rw [readAll_of_padded hpadded hcore.bare hcore.ne_nil, spelling_iff.mp hcore]
  rfl

/-- What is foreign refuses the list, **whatever follows it**. -/
theorem readAll_of_foreign (hforeign : Foreign piece core) (behind : List (List Char)) :
    readAll (piece :: behind) = .error (notAnAddress core) := by
  rw [readAll_of_padded hforeign.padded hforeign.bare hforeign.filled,
    readPiece_of_foreign hforeign.spells]
  rfl

/-! ### All pieces -/

/-- Pieces that spell addresses are read as these. -/
theorem Spells.readAll_eq (h : Spells all addresses) : readAll all = .ok addresses := by
  induction h with
  | nil => rfl
  | blank hblank hrest ih => rw [readAll_of_blank hblank, ih]
  | address hcore hpadded hrest ih =>
      rw [readAll_of_spelling hcore hpadded, ih]
      rfl

/-- The first piece with something foreign in it refuses the list. -/
theorem readAll_of_first (hbefore : ∀ other ∈ before, ∀ core, ¬ Foreign other core)
    (hforeign : Foreign piece core) (behind : List (List Char)) :
    readAll (before ++ piece :: behind) = .error (notAnAddress core) := by
  induction before with
  | nil => exact readAll_of_foreign hforeign behind
  | cons other before ih =>
      rw [List.forall_mem_cons] at hbefore
      obtain ⟨hother, hbefore⟩ := hbefore
      rw [List.cons_append]
      rcases blank_or_spelling_or_foreign other with hblank | ⟨_, _, hcore, hpadded⟩ | ⟨core, h⟩
      · rw [readAll_of_blank hblank, ih hbefore]
      · rw [readAll_of_spelling hcore hpadded, ih hbefore]
        rfl
      · exact absurd h (hother core)

/-- Nothing foreign stands in a blank piece. -/
theorem not_foreign_of_blank (hblank : Text.Blank piece) (core : List Char) :
    ¬ Foreign piece core := by
  intro h
  have hcore := h.padded.trim_eq h.bare
  rw [Text.trim_eq_nil_iff.mpr hblank] at hcore
  exact h.filled hcore.symm

/-- Nothing foreign stands in a piece in which an address is spelled. -/
theorem not_foreign_of_spelling (hcore : Spelling address core) (hpadded : Text.Padded core piece)
    (other : List Char) : ¬ Foreign piece other := by
  intro h
  obtain rfl : core = other :=
    (hpadded.trim_eq hcore.bare).symm.trans (h.padded.trim_eq h.bare)
  exact h.spells address hcore

/-- Pieces spell addresses, or there is **a first one** with something foreign in it. -/
theorem spells_or_first (all : List (List Char)) :
    (∃ addresses, Spells all addresses) ∨
      ∃ before piece core behind, all = before ++ piece :: behind ∧
        (∀ other ∈ before, ∀ core, ¬ Foreign other core) ∧ Foreign piece core := by
  induction all with
  | nil => exact .inl ⟨[], .nil⟩
  | cons piece all ih =>
      have hlater (hpiece : ∀ core, ¬ Foreign piece core)
          (hall : ∃ before later core behind, all = before ++ later :: behind ∧
            (∀ other ∈ before, ∀ core, ¬ Foreign other core) ∧ Foreign later core) :
          ∃ before later core behind, piece :: all = before ++ later :: behind ∧
            (∀ other ∈ before, ∀ core, ¬ Foreign other core) ∧ Foreign later core := by
        obtain ⟨before, later, core, behind, rfl, hbefore, hlater⟩ := hall
        exact ⟨piece :: before, later, core, behind, rfl,
          List.forall_mem_cons.mpr ⟨hpiece, hbefore⟩, hlater⟩
      rcases blank_or_spelling_or_foreign piece with
        hblank | ⟨address, core, hcore, hpadded⟩ | ⟨core, hforeign⟩
      · exact ih.imp (fun ⟨addresses, h⟩ => ⟨addresses, .blank hblank h⟩)
          (hlater (not_foreign_of_blank hblank))
      · exact ih.imp (fun ⟨addresses, h⟩ => ⟨address :: addresses, .address hcore hpadded h⟩)
          (hlater (not_foreign_of_spelling hcore hpadded))
      · exact .inr ⟨[], piece, core, all, rfl, by simp, hforeign⟩

/-! ### From pieces to texts -/

/-- No comma is among blanks. -/
theorem comma_notMem_of_blank (hblank : Text.Blank piece) : ',' ∉ piece := fun hmem =>
  absurd (hblank ',' hmem) (by decide)

/-- No comma stands in pieces that spell addresses. -/
theorem Spells.commas (h : Spells all addresses) : ∀ piece ∈ all, ',' ∉ piece := by
  induction h with
  | nil => simp
  | blank hblank hrest ih => exact List.forall_mem_cons.mpr ⟨comma_notMem_of_blank hblank, ih⟩
  | address hcore hpadded hrest ih =>
      refine List.forall_mem_cons.mpr ⟨?_, ih⟩
      cases hpadded with
      | intro hleft hright =>
        rw [List.mem_append, List.mem_append, not_or, not_or]
        exact ⟨comma_notMem_of_blank hleft, fun hmem => (hcore.of_mem ',' hmem).2 rfl,
          comma_notMem_of_blank hright⟩

/-- Every text is cut into pieces. -/
theorem cut_splitAt (text : String) : Cut text (Text.splitAt ',' text.toList) where
  whole := by rw [Text.splitAt_eq_splitOn, List.intercalate_splitOn]
  commas _ hpiece hmem := (Text.mem_of_mem_splitAt hpiece ',' hmem).2 rfl

/-- A text is read by reading its pieces, **however it was put together** from pieces without
commas. -/
theorem read_of_cut (h : Cut text all) : read text = readAll all := by
  rw [read_eq_readAll, h.whole]
  cases all with
  | nil => exact readAll_of_blank (by simp [Text.Blank]) []
  | cons piece all =>
      rw [Text.splitAt_eq_splitOn, List.splitOn_intercalate ',' h.commas (List.cons_ne_nil _ _)]

/-- **Reading a list of addresses.** A text is read as some addresses exactly if it joins with
commas pieces that are blank, and pieces in which these addresses are spelled, in this order and
with these repetitions: in any case, with or without a mark, and with any blanks around them. A text
is refused exactly if something foreign stands in one of its pieces; the problem is a bad request
and names what stands in the first of these pieces. -/
theorem read_iff (text : String) :
    (∀ addresses, read text = .ok addresses ↔
      ∃ pieces, text.toList = [','].intercalate pieces ∧ Spells pieces addresses) ∧
    (∀ problem, read text = .error problem ↔
      ∃ before piece core behind, Cut text (before ++ piece :: behind) ∧
        (∀ other ∈ before, ∀ core, ¬ Foreign other core) ∧ Foreign piece core ∧
        problem = .badRequest ("'" ++ String.ofList core ++ "' is not an address: "
          ++ (HexError.ofText 20 (String.ofList core)).message)) := by
  have hcut := cut_splitAt text
  have hread := read_of_cut hcut
  refine ⟨fun addresses => ⟨fun hok => ?_, ?_⟩, fun problem => ⟨fun herror => ?_, ?_⟩⟩
  · rcases spells_or_first (Text.splitAt ',' text.toList) with ⟨others, h⟩ |
      ⟨before, piece, core, behind, hall, hbefore, hforeign⟩
    · rw [hok, h.readAll_eq] at hread
      exact ⟨_, hcut.whole, Except.ok.inj hread ▸ h⟩
    · rw [hok, hall, readAll_of_first hbefore hforeign] at hread
      cases hread
  · rintro ⟨pieces, hwhole, hspells⟩
    rw [read_of_cut ⟨hwhole, hspells.commas⟩, hspells.readAll_eq]
  · rcases spells_or_first (Text.splitAt ',' text.toList) with ⟨others, h⟩ |
      ⟨before, piece, core, behind, hall, hbefore, hforeign⟩
    · rw [herror, h.readAll_eq] at hread
      cases hread
    · rw [herror, hall, readAll_of_first hbefore hforeign] at hread
      exact ⟨before, piece, core, behind, hall ▸ hcut, hbefore, hforeign, Except.error.inj hread⟩
  · rintro ⟨before, piece, core, behind, hcut, hbefore, hforeign, rfl⟩
    exact (read_of_cut hcut).trans (readAll_of_first hbefore hforeign behind)

end NodeGateway.AddressList
