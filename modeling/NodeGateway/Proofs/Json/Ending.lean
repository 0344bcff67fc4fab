import NodeGateway.Proofs.Json.Steps

/-!
# Where a Document Ends

A list or an object ends with its closing bracket, so a reader that has come that far takes nothing
of what stands behind it, and a document that is one of these is refused with anything but blanks
behind it (`Json.parse?_append`).

A number has no closing character: it ends in front of the first character that does not go on with
it. So each reader of a part of a number is said to stop only where something stands behind the
part.
-/

namespace NodeGateway.Json

variable {text rest token inner : List Char} {parts : List StringPart}

/-! ### Tokens -/

/-- Blanks are skipped up to the first character that is none, whatever stands behind it. -/
theorem skipSpace_append (h : skipSpace text ≠ []) (extra : List Char) :
    skipSpace (text ++ extra) = skipSpace text ++ extra := by
  rw [skipSpace, List.dropWhile_append, if_neg (by simpa [skipSpace] using h)]
  rfl

/-- Digits end in front of a character that is none. -/
theorem readDigits_append (h : readDigits text = some (token, rest)) (hrest : rest ≠ [])
    (extra : List Char) : readDigits (text ++ extra) = some (token, rest ++ extra) := by
  unfold readDigits at h ⊢
  have hdrop : text.dropWhile Numeral.isDigit ≠ [] := by
    split at h
    · cases h
    · cases h
      exact hrest
  have htake : (text ++ extra).takeWhile Numeral.isDigit = text.takeWhile Numeral.isDigit := by
    rw [List.takeWhile_append, if_neg]
    intro hlength
    have hall := congrArg List.length
      (List.takeWhile_append_dropWhile (p := Numeral.isDigit) (l := text))
    rw [List.length_append, hlength] at hall
    exact hdrop (List.length_eq_zero_iff.mp (by omega))
  rw [htake, List.dropWhile_append, if_neg (by simpa using hdrop)]
  split at h
  · cases h
  · cases h
    rfl

theorem readWhole_append (h : readWhole text = some (token, rest)) (hrest : rest ≠ [])
    (extra : List Char) : readWhole (text ++ extra) = some (token, rest ++ extra) := by
  match text with
  | [] => cases h
  | c :: tail =>
      by_cases hzero : c = '0'
      · subst hzero
        cases h
        rfl
      · have hdigits : ∀ tail, readWhole (c :: tail) = readDigits (c :: tail) := fun tail => by
          rw [readWhole]
          exact fun _ heq => hzero (List.cons.inj heq).1
        rw [hdigits] at h
        exact (hdigits (tail ++ extra)).trans (readDigits_append h hrest extra)

theorem readFraction_append (h : readFraction text = some (token, rest)) (hrest : rest ≠ [])
    (extra : List Char) : readFraction (text ++ extra) = some (token, rest ++ extra) := by
  match text with
  | [] =>
      cases h
      exact absurd rfl hrest
  | c :: tail =>
      by_cases hpoint : c = '.'
      · subst hpoint
        obtain ⟨⟨digits, behind⟩, hdigits, heq⟩ := Option.bind_eq_some_iff.mp h
        cases heq
        rw [List.cons_append, readFraction, readDigits_append hdigits hrest extra]
        rfl
      · have hnone : ∀ tail, readFraction (c :: tail) = some ([], c :: tail) := fun tail => by
          rw [readFraction]
          exact fun _ heq => hpoint (List.cons.inj heq).1
        rw [hnone] at h
        cases h
        exact hnone (tail ++ extra)

theorem readExponent_append (h : readExponent text = some (token, rest)) (hrest : rest ≠ [])
    (extra : List Char) : readExponent (text ++ extra) = some (token, rest ++ extra) := by
  match text with
  | [] =>
      cases h
      exact absurd rfl hrest
  | c :: tail =>
      by_cases hmark : c = 'e' ∨ c = 'E'
      · match tail with
        | [] =>
            rw [readExponent, if_pos hmark] at h
            cases h
        | s :: tail =>
            rw [readExponent, if_pos hmark] at h
            rw [List.cons_append, List.cons_append, readExponent, if_pos hmark]
            by_cases hsign : s = '+' ∨ s = '-'
            · obtain ⟨⟨digits, behind⟩, hdigits, heq⟩ :=
                Option.bind_eq_some_iff.mp ((if_pos hsign).symm.trans h)
              cases heq
              simp only [if_pos hsign, readDigits_append hdigits hrest extra]
              rfl
            · obtain ⟨⟨digits, behind⟩, hdigits, heq⟩ :=
                Option.bind_eq_some_iff.mp ((if_neg hsign).symm.trans h)
              cases heq
              have hread := readDigits_append hdigits hrest extra
              rw [List.cons_append] at hread
              simp only [if_neg hsign, hread]
              rfl
      · have hnone : ∀ tail, readExponent (c :: tail) = some ([], c :: tail) := fun tail =>
          (readExponent.eq_def (c :: tail)).trans (if_neg hmark)
        rw [hnone] at h
        cases h
        exact hnone (tail ++ extra)

theorem readUnsigned_append (h : readUnsigned text = some (token, rest)) (hrest : rest ≠ [])
    (extra : List Char) : readUnsigned (text ++ extra) = some (token, rest ++ extra) := by
  obtain ⟨⟨whole, behindWhole⟩, hwhole, h⟩ := Option.bind_eq_some_iff.mp h
  obtain ⟨⟨fraction, behindFraction⟩, hfraction, h⟩ := Option.bind_eq_some_iff.mp h
  obtain ⟨⟨exponent, behind⟩, hexponent, heq⟩ := Option.bind_eq_some_iff.mp h
  cases heq
  -- with nothing behind it a part of a number would leave nothing for the parts that follow
  have hbehindFraction : behindFraction ≠ [] := by
    rintro rfl
    cases hexponent
    exact hrest rfl
  have hbehindWhole : behindWhole ≠ [] := by
    rintro rfl
    cases hfraction
    exact hbehindFraction rfl
  simp [readUnsigned, readWhole_append hwhole hbehindWhole extra,
    readFraction_append hfraction hbehindFraction extra, readExponent_append hexponent hrest extra]

/-- **A number** ends in front of a character that does not go on with it. -/
theorem readNumber_append (h : readNumber text = some (token, rest)) (hrest : rest ≠ [])
    (extra : List Char) : readNumber (text ++ extra) = some (token, rest ++ extra) := by
  match text with
  | [] => cases h
  | c :: tail =>
      by_cases hminus : c = '-'
      · subst hminus
        obtain ⟨⟨unsigned, behind⟩, hunsigned, heq⟩ := Option.bind_eq_some_iff.mp h
        cases heq
        rw [List.cons_append, readNumber, readUnsigned_append hunsigned hrest extra]
        rfl
      · have hplain : ∀ tail, readNumber (c :: tail) = readUnsigned (c :: tail) := fun tail => by
          rw [readNumber]
          exact fun _ heq => hminus (List.cons.inj heq).1
        rw [hplain] at h
        exact (hplain (tail ++ extra)).trans (readUnsigned_append h hrest extra)

/-- A word ends with its last letter. -/
theorem dropWord_of_append {word : String} (h : dropWord word text = some rest)
    (extra : List Char) : dropWord word (text ++ extra) = some (rest ++ extra) := by
  unfold dropWord at h
  split at h
  · next hprefix =>
    cases h
    obtain ⟨tail, rfl⟩ := List.isPrefixOf_iff_prefix.mp hprefix
    rw [List.append_assoc, dropWord_append, ← String.length_toList, List.drop_left]
  · cases h

/-- Behind the code unit of an escape the string goes on. -/
theorem exists_scanString_of_unit {first second third fourth : Char}
    (h : scanString ('\\' :: 'u' :: first :: second :: third :: fourth :: text) =
      some (parts, rest)) :
    (∃ code, Hex.natOfDigits? [first, second, third, fourth] = some code) ∧
      ∃ more, scanString text = some (more, rest) := by
  rw [scanString] at h
  obtain ⟨code, hcode, h⟩ := Option.bind_eq_some_iff.mp h
  obtain ⟨⟨more, behind⟩, hmore, heq⟩ := Option.bind_eq_some_iff.mp h
  cases heq
  exact ⟨⟨code, hcode⟩, more, hmore⟩

/-- Behind an escape of one letter the string goes on. -/
theorem exists_scanString_of_escape {e : Char}
    (hunit : ∀ first second third fourth tail, e = 'u' →
      text = first :: second :: third :: fourth :: tail → False)
    (h : scanString ('\\' :: e :: text) = some (parts, rest)) :
    (∃ c, escaped? e = some c) ∧ ∃ more, scanString text = some (more, rest) := by
  rw [scanString] at h
  · obtain ⟨c, hc, h⟩ := Option.bind_eq_some_iff.mp h
    obtain ⟨⟨more, behind⟩, hmore, heq⟩ := Option.bind_eq_some_iff.mp h
    cases heq
    exact ⟨⟨c, hc⟩, more, hmore⟩
  · exact hunit

/-- Behind a character that stands for itself the string goes on. -/
theorem exists_scanString_of_char {c : Char} (hquote : c ≠ '"') (hescape : c ≠ '\\')
    (h : scanString (c :: text) = some (parts, rest)) :
    0x20 ≤ c.toNat ∧ ∃ more, scanString text = some (more, rest) := by
  rw [scanString] at h
  · obtain ⟨_, hplain, h⟩ := Option.bind_eq_some_iff.mp h
    obtain ⟨⟨more, behind⟩, hmore, heq⟩ := Option.bind_eq_some_iff.mp h
    cases heq
    refine ⟨?_, more, hmore⟩
    by_contra hcontrol
    simp [guard, hcontrol] at hplain
  · exact hquote
  · exact fun _ _ _ _ _ h => absurd h hescape
  · exact fun _ _ h => absurd h hescape

/-- An escape that breaks off is not scanned. -/
theorem ne_escape_of_scanString {c : Char} (hescape : ∀ e tail, c = '\\' → text = e :: tail → False)
    (h : scanString (c :: text) = some (parts, rest)) : c ≠ '\\' := by
  rintro rfl
  cases text with
  | nil => cases h
  | cons e tail => exact hescape e tail rfl rfl

/-- **A string** ends with its closing quote. -/
theorem scanString_append (h : scanString text = some (parts, rest)) (extra : List Char) :
    scanString (text ++ extra) = some (parts, rest ++ extra) := by
  fun_induction scanString text generalizing parts rest with
  | case1 => cases h
  | case2 rest =>
      cases h
      rw [List.cons_append, scanString]
  | case3 a b c d tail ih =>
      obtain ⟨code, hcode, h⟩ := Option.bind_eq_some_iff.mp h
      obtain ⟨⟨more, behind⟩, hmore, heq⟩ := Option.bind_eq_some_iff.mp h
      cases heq
      simp only [List.cons_append]
      rw [scanString_unit hcode, ih hmore]
      rfl
  | case4 e tail hunit ih =>
      obtain ⟨c, hc, h⟩ := Option.bind_eq_some_iff.mp h
      obtain ⟨⟨more, behind⟩, hmore, heq⟩ := Option.bind_eq_some_iff.mp h
      cases heq
      have hne : e ≠ 'u' := by
        rintro rfl
        cases hc
      simp only [List.cons_append]
      rw [scanString_escape hc hne, ih hmore]
      rfl
  | case5 c tail hquote hunit hescape ih =>
      have hne : c ≠ '\\' := by
        rintro rfl
        obtain ⟨_, -, h⟩ := Option.bind_eq_some_iff.mp h
        cases tail with
        | nil => cases h
        | cons e tail => exact hescape e tail rfl rfl
      obtain ⟨_, hplain, h⟩ := Option.bind_eq_some_iff.mp h
      obtain ⟨⟨more, behind⟩, hmore, heq⟩ := Option.bind_eq_some_iff.mp h
      cases heq
      have hcontrol : 0x20 ≤ c.toNat := by
        by_contra hcontrol
        simp [guard, hcontrol] at hplain
      rw [List.cons_append, scanString_char hquote hne hcontrol, ih hmore]
      rfl

theorem readString_append {string : Option String} (h : readString text = some (string, rest))
    (extra : List Char) : readString (text ++ extra) = some (string, rest ++ extra) := by
  obtain ⟨⟨parts, _⟩, hscan, heq⟩ := Option.bind_eq_some_iff.mp h
  cases heq
  rw [readString, scanString_append hscan extra]
  rfl

/-- What stands behind a string is the end of the text that it was read from. -/
theorem suffix_of_scanString (h : scanString text = some (parts, rest)) : rest <:+ text := by
  fun_induction scanString text generalizing parts rest with
  | case1 => cases h
  | case2 rest =>
      cases h
      exact List.suffix_cons _ _
  | case3 a b c d tail ih =>
      obtain ⟨code, hcode, h⟩ := Option.bind_eq_some_iff.mp h
      obtain ⟨⟨more, behind⟩, hmore, heq⟩ := Option.bind_eq_some_iff.mp h
      cases heq
      exact (ih hmore).trans (List.suffix_append ['\\', 'u', a, b, c, d] tail)
  | case4 e tail hunit ih =>
      obtain ⟨c, hc, h⟩ := Option.bind_eq_some_iff.mp h
      obtain ⟨⟨more, behind⟩, hmore, heq⟩ := Option.bind_eq_some_iff.mp h
      cases heq
      exact (ih hmore).trans (List.suffix_append ['\\', e] tail)
  | case5 c tail hquote hunit hescape ih =>
      obtain ⟨_, hplain, h⟩ := Option.bind_eq_some_iff.mp h
      obtain ⟨⟨more, behind⟩, hmore, heq⟩ := Option.bind_eq_some_iff.mp h
      cases heq
      exact (ih hmore).trans (List.suffix_cons c tail)

/-- A reader of numbers gives up in a string at its closing quote at the latest, so what stands
behind the string makes no difference to where it does. -/
theorem giveUpInString_append (h : scanString text = some (parts, rest)) :
    rest <:+ giveUpInString text ∧
      ∀ extra, giveUpInString (text ++ extra) = giveUpInString text ++ extra := by
  fun_induction giveUpInString text generalizing parts rest with
  | case1 => cases h
  | case2 rest =>
      cases h
      exact ⟨List.suffix_rfl, fun extra => rfl⟩
  | case3 a b c d tail hcode =>
      obtain ⟨⟨code, hsome⟩, -⟩ := exists_scanString_of_unit h
      cases hcode.symm.trans hsome
  | case4 a b c d tail code hcode hlow =>
      obtain ⟨-, more, hmore⟩ := exists_scanString_of_unit h
      refine ⟨suffix_of_scanString hmore, fun extra => ?_⟩
      simp only [List.cons_append]
      rw [giveUpInString.eq_def]
      simp only [hcode, hlow, if_true]
  | case5 a b c d tail code hcode hlow hhigh ih =>
      obtain ⟨-, more, hmore⟩ := exists_scanString_of_unit h
      refine ⟨(ih hmore).1, fun extra => ?_⟩
      simp only [List.cons_append]
      rw [giveUpInString.eq_def]
      simp only [hcode, if_neg hlow, if_pos hhigh, (ih hmore).2 extra]
  | case6 a b c d code hcode hlow hhigh a' b' c' d' tail hpair ih =>
      obtain ⟨-, more, hmore⟩ := exists_scanString_of_unit h
      obtain ⟨-, more, hmore⟩ := exists_scanString_of_unit hmore
      refine ⟨(ih hmore).1, fun extra => ?_⟩
      simp only [List.cons_append]
      rw [giveUpInString.eq_def]
      simp only [hcode, if_neg hlow, if_neg hhigh, if_pos hpair, (ih hmore).2 extra]
  | case7 a b c d code hcode hlow hhigh a' b' c' d' tail hpair =>
      obtain ⟨-, more, hmore⟩ := exists_scanString_of_unit h
      obtain ⟨-, more, hmore⟩ := exists_scanString_of_unit hmore
      refine ⟨suffix_of_scanString hmore, fun extra => ?_⟩
      simp only [List.cons_append]
      rw [giveUpInString.eq_def]
      simp only [hcode, if_neg hlow, if_neg hhigh, if_neg hpair]
  | case8 a b c d code hcode hlow hhigh e tail hunit =>
      obtain ⟨-, more, hmore⟩ := exists_scanString_of_unit h
      obtain ⟨⟨_, he⟩, more, hmore⟩ := exists_scanString_of_escape hunit hmore
      have hne : e ≠ 'u' := by
        rintro rfl
        cases he
      refine ⟨suffix_of_scanString hmore, fun extra => ?_⟩
      simp only [List.cons_append]
      rw [giveUpInString.eq_def]
      simp [hcode, hlow, hhigh, hne]
  | case9 a b c d code hcode hlow hhigh next tail hunit hescape =>
      obtain ⟨-, more, hmore⟩ := exists_scanString_of_unit h
      have hne := ne_escape_of_scanString hescape hmore
      refine ⟨?_, fun extra => ?_⟩
      · by_cases hquote : next = '"'
        · subst hquote
          rw [scanString] at hmore
          cases hmore
          exact List.suffix_rfl
        · obtain ⟨-, more, hmore⟩ := exists_scanString_of_char hquote hne hmore
          exact suffix_of_scanString hmore
      · simp only [List.cons_append]
        rw [giveUpInString.eq_def]
        simp [hcode, hlow, hhigh, hne]
  | case10 a b c d code hcode hlow hhigh =>
      obtain ⟨-, more, hmore⟩ := exists_scanString_of_unit h
      cases hmore
  | case11 tail hunit =>
      obtain ⟨⟨_, he⟩, -⟩ :=
        exists_scanString_of_escape (fun a b c d rest _ => hunit a b c d rest) h
      cases he
  | case12 e tail hunit hne he ih =>
      obtain ⟨-, more, hmore⟩ := exists_scanString_of_escape hunit h
      refine ⟨(ih hmore).1, fun extra => ?_⟩
      simp only [List.cons_append]
      rw [giveUpInString, if_pos he, (ih hmore).2 extra]
      · exact fun _ _ _ _ _ heq => absurd heq hne
      · exact hne
  | case13 e tail hunit hne he =>
      obtain ⟨⟨c, hc⟩, -⟩ := exists_scanString_of_escape hunit h
      exact absurd (Option.isSome_iff_exists.mpr ⟨c, hc⟩) he
  | case14 c tail hquote hunit hbreak hescape hcontrol =>
      have hne := ne_escape_of_scanString hescape h
      have hplain := (exists_scanString_of_char hquote hne h).1
      omega
  | case15 c tail hquote hunit hbreak hescape hcontrol ih =>
      have hne := ne_escape_of_scanString hescape h
      obtain ⟨-, more, hmore⟩ := exists_scanString_of_char hquote hne h
      refine ⟨(ih hmore).1, fun extra => ?_⟩
      rw [List.cons_append, giveUpInString]
      · rw [if_neg hcontrol, (ih hmore).2 extra]
      all_goals simp_all

/-! ### Documents -/

/-- The first character that is no blank stays the first one. -/
theorem skipSpace_append_of_cons {c : Char} (h : skipSpace text = c :: rest) (extra : List Char) :
    skipSpace (text ++ extra) = c :: (rest ++ extra) := by
  rw [skipSpace_append (by simp [h]), h, List.cons_append]

theorem readValue_of_blank {fuel : Nat} (h : skipSpace text = []) : readValue fuel text = none := by
  cases fuel with
  | zero => rfl
  | succ fuel =>
      rw [readValue, h]
      rfl

theorem readItems_of_blank {fuel : Nat} (h : skipSpace text = []) : readItems fuel text = none := by
  cases fuel with
  | zero => rfl
  | succ fuel =>
      rw [readItems, readValue_of_blank h]
      rfl

theorem readMembers_of_blank {fuel : Nat} (h : skipSpace text = []) :
    readMembers fuel text = none := by
  cases fuel with
  | zero => rfl
  | succ fuel => rw [readMembers, h]

/-- There is at least one item in front of the closing bracket. -/
theorem readItems_ne_nil {fuel : Nat} : readItems fuel text ≠ some ([], rest) := by
  intro h
  cases fuel with
  | zero => cases h
  | succ fuel =>
      obtain ⟨item, behind, -, ⟨-, heq⟩ | ⟨tail, more, -, -, heq⟩⟩ := readItems_succ_iff.mp h
      · cases heq
      · cases heq

/-- A string is read from behind its opening quote. -/
theorem exists_readString_of_readValue {fuel : Nat} {string : Option String}
    (h : readValue fuel text = some (.string string, rest)) :
    ∃ tail, skipSpace text = '"' :: tail ∧ readString tail = some (string, rest) := by
  cases fuel with
  | zero => cases h
  | succ fuel =>
      cases readValue_succ_iff.mp h with
      | string h hstring => exact ⟨_, h, hstring⟩

/-- A string that is read as the only item stands between its quotes in front of the bracket. -/
theorem exists_readString_of_readItems {fuel : Nat} {string : Option String}
    (h : readItems fuel text = some ([.string string], rest)) :
    ∃ tail behind, skipSpace text = '"' :: tail ∧ readString tail = some (string, behind) ∧
      skipSpace behind = ']' :: rest := by
  cases fuel with
  | zero => cases h
  | succ fuel =>
      obtain ⟨item, behind, hitem, ⟨hclose, heq⟩ | ⟨tail, more, -, hmore, heq⟩⟩ :=
        readItems_succ_iff.mp h
      · cases heq
        obtain ⟨tail, hopen, hstring⟩ := exists_readString_of_readValue hitem
        exact ⟨tail, behind, hopen, hstring, hclose⟩
      · cases heq
        unfold closeItems at hmore
        split at hmore
        · split at hmore
          · have hitems := congrArg Prod.fst (Option.some.inj hmore)
            dsimp only at hitems
            split at hitems <;> cases hitems
          · cases hmore
        · cases hmore
          exact absurd ‹_› readItems_ne_nil
        · obtain ⟨_, -, heq⟩ := Option.map_eq_some_iff.mp hmore
          cases heq

/-- Whether there is a scrap does not depend on what stands behind the array, if it ends in a
string. -/
theorem behindScrap?_append {fuel : Nat} {string : Option String}
    (h : readItems fuel text = some ([.string string], rest)) (extra : List Char) :
    behindScrap? (text ++ extra) = (behindScrap? text).map (· ++ extra) := by
  obtain ⟨tail, behind, hopen, hstring, hclose⟩ := exists_readString_of_readItems h
  obtain ⟨⟨parts, _⟩, hscan, heq⟩ := Option.bind_eq_some_iff.mp hstring
  cases heq
  obtain ⟨⟨front, hfront⟩, happend⟩ := giveUpInString_append hscan
  -- the bracket stands behind the place where the reader gives up
  have hne : skipSpace (giveUpInString tail) ≠ [] := by
    intro hblank
    have hall := List.dropWhile_eq_nil_iff.mp hblank
    have hbehind : skipSpace behind = [] :=
      List.dropWhile_eq_nil_iff.mpr fun c hc => hall c (hfront ▸ List.mem_append_right front hc)
    cases hclose.symm.trans hbehind
  have hgiven : giveUp (skipSpace text) = giveUpInString tail := by
    rw [hopen, giveUp]
  have hgiven' : giveUp (skipSpace (text ++ extra)) = giveUpInString tail ++ extra := by
    rw [skipSpace_append_of_cons hopen, giveUp, happend]
  unfold behindScrap?
  rw [hgiven', hgiven, skipSpace_append hne]
  match skipSpace (giveUpInString tail), hne with
  | c :: tail, _ =>
      by_cases hc : c = ']'
      · subst hc
        rfl
      · simp [hc]

/-- The items behind a comma are closed in the same way whatever stands behind their array. -/
theorem closeItems_append {fuel fuel' : Nat} {items : List Json}
    (h : closeItems text (readItems fuel text) = some (items, rest))
    (hwhole : areWhole items = true)
    (hitems : ∀ items rest, readItems fuel text = some (items, rest) → areWhole items = true →
      ∀ extra, readItems fuel' (text ++ extra) = some (items, rest ++ extra)) (extra : List Char) :
    closeItems (text ++ extra) (readItems fuel' (text ++ extra)) = some (items, rest ++ extra) := by
  cases hread : readItems fuel text with
  | none =>
      rw [hread] at h
      obtain ⟨behind, -, heq⟩ := Option.map_eq_some_iff.mp h
      cases heq
      cases hwhole
  | some given =>
      obtain ⟨given, behind⟩ := given
      rw [hread] at h
      by_cases hstring : given = [.string none]
      · subst hstring
        rw [hitems _ _ hread rfl extra]
        simp only [closeItems] at h ⊢
        rw [behindScrap?_append hread extra]
        cases hscrap : behindScrap? text with
        | none =>
            rw [hscrap] at h
            cases h
            rfl
        | some other =>
            rw [hscrap] at h
            cases h
            simp
      · have hclose : ∀ text rest, closeItems text (some (given, rest)) = some (given, rest) :=
          fun text rest => by
            unfold closeItems
            split
            case h_1 heq =>
              cases heq
              exact absurd rfl hstring
            case h_2 heq => exact heq.symm
            case h_3 heq => cases heq
        rw [hclose] at h
        cases h
        rw [hitems _ _ hread hwhole extra, hclose]

mutual

/-- **A value** ends where it ends whatever stands behind it, if it is whole, and if something
stands behind it in case that it is a number. -/
theorem readValue_append : ∀ {fuel fuel' : Nat} {text rest : List Char} {value : Json},
    readValue fuel text = some (value, rest) → value.isWhole = true →
      (∀ token, value = .number token → rest ≠ []) → fuel ≤ fuel' → ∀ extra,
        readValue fuel' (text ++ extra) = some (value, rest ++ extra)
  | 0, _, _, _, _, h, _, _, _, _ => by cases h
  | _ + 1, 0, _, _, _, _, _, _, hfuel, _ => absurd hfuel (by omega)
  | fuel + 1, fuel' + 1, text, rest, value, h, hwhole, hnumber, hfuel, extra => by
      rw [readValue_succ_iff] at h ⊢
      cases h with
      | emptyObject h hclose =>
          exact .emptyObject (skipSpace_append_of_cons h extra)
            (skipSpace_append_of_cons hclose extra)
      | @object tail _ members h hmembers =>
          have hne : skipSpace tail ≠ [] := fun hblank => by
            rw [readMembers_of_blank ((skipSpace_skipSpace tail).trans hblank)] at hmembers
            cases hmembers
          refine .object (skipSpace_append_of_cons h extra) ?_
          rw [skipSpace_append hne]
          exact readMembers_append hmembers hwhole (by omega) extra
      | emptyArray h hclose =>
          exact .emptyArray (skipSpace_append_of_cons h extra)
            (skipSpace_append_of_cons hclose extra)
      | @array tail _ items h hitems =>
          have hne : skipSpace tail ≠ [] := fun hblank => by
            rw [readItems_of_blank ((skipSpace_skipSpace tail).trans hblank)] at hitems
            cases hitems
          refine .array (skipSpace_append_of_cons h extra) ?_
          rw [skipSpace_append hne]
          exact readItems_append hitems hwhole (by omega) extra
      | string h hstring =>
          exact .string (skipSpace_append_of_cons h extra) (readString_append hstring extra)
      | null h hword =>
          exact .null (skipSpace_append_of_cons h extra) (dropWord_of_append hword extra)
      | true h hword =>
          exact .true (skipSpace_append_of_cons h extra) (dropWord_of_append hword extra)
      | false h hword =>
          exact .false (skipSpace_append_of_cons h extra) (dropWord_of_append hword extra)
      | @number _ token h =>
          have hne : skipSpace text ≠ [] := fun hblank => by
            rw [hblank] at h
            cases h
          refine .number ?_
          rw [skipSpace_append hne]
          exact readNumber_append h (hnumber _ rfl) extra

/-- Items end with their closing bracket whatever stands behind it, if they are whole. -/
theorem readItems_append : ∀ {fuel fuel' : Nat} {text rest : List Char} {items : List Json},
    readItems fuel text = some (items, rest) → areWhole items = true → fuel ≤ fuel' → ∀ extra,
      readItems fuel' (text ++ extra) = some (items, rest ++ extra)
  | 0, _, _, _, _, h, _, _, _ => by cases h
  | _ + 1, 0, _, _, _, _, _, hfuel, _ => absurd hfuel (by omega)
  | fuel + 1, fuel' + 1, text, rest, items, h, hwhole, hfuel, extra => by
      rw [readItems_succ_iff] at h ⊢
      obtain ⟨item, behind, hitem, hbehind⟩ := h
      have hitemWhole : item.isWhole = true := by
        rcases hbehind with ⟨-, rfl⟩ | ⟨tail, more, -, -, rfl⟩ <;>
          exact (Bool.and_eq_true_iff.mp hwhole).1
      have hne : behind ≠ [] := by
        rintro rfl
        rcases hbehind with ⟨hclose, -⟩ | ⟨tail, more, hcomma, -⟩
        · cases hclose
        · cases hcomma
      have hread := readValue_append hitem hitemWhole (fun _ _ => hne)
        (Nat.le_of_succ_le_succ hfuel) extra
      refine ⟨item, behind ++ extra, hread, ?_⟩
      rcases hbehind with ⟨hclose, rfl⟩ | ⟨tail, more, hcomma, hmore, rfl⟩
      · exact .inl ⟨skipSpace_append_of_cons hclose extra, rfl⟩
      · refine .inr ⟨tail ++ extra, more, skipSpace_append_of_cons hcomma extra, ?_, rfl⟩
        exact closeItems_append hmore (Bool.and_eq_true_iff.mp hwhole).2
          (fun _ _ hread hwhole => readItems_append hread hwhole (Nat.le_of_succ_le_succ hfuel))
          extra

/-- Members end with their closing brace whatever stands behind it, if they are whole. -/
theorem readMembers_append : ∀ {fuel fuel' : Nat} {text rest : List Char}
    {members : List (Option String × Json)},
    readMembers fuel text = some (members, rest) → membersWhole members = true → fuel ≤ fuel' →
      ∀ extra, readMembers fuel' (text ++ extra) = some (members, rest ++ extra)
  | 0, _, _, _, _, h, _, _, _ => by cases h
  | _ + 1, 0, _, _, _, _, _, hfuel, _ => absurd hfuel (by omega)
  | fuel + 1, fuel' + 1, text, rest, members, h, hwhole, hfuel, extra => by
      rw [readMembers_succ_iff] at h ⊢
      obtain ⟨tail, name, behindName, behindColon, value, behind, hquote, hname, hcolon, hvalue,
        hbehind⟩ := h
      have hvalueWhole : value.isWhole = true := by
        rcases hbehind with ⟨-, rfl⟩ | ⟨tail, more, -, -, rfl⟩ <;>
          exact (Bool.and_eq_true_iff.mp hwhole).1
      have hne : behind ≠ [] := by
        rintro rfl
        rcases hbehind with ⟨hclose, -⟩ | ⟨tail, more, hcomma, -⟩
        · cases hclose
        · cases hcomma
      have hread := readValue_append hvalue hvalueWhole (fun _ _ => hne)
        (Nat.le_of_succ_le_succ hfuel) extra
      refine ⟨tail ++ extra, name, behindName ++ extra, behindColon ++ extra, value,
        behind ++ extra,
        skipSpace_append_of_cons hquote extra, readString_append hname extra,
        skipSpace_append_of_cons hcolon extra, hread, ?_⟩
      rcases hbehind with ⟨hclose, rfl⟩ | ⟨tail, more, hcomma, hmore, rfl⟩
      · exact .inl ⟨skipSpace_append_of_cons hclose extra, rfl⟩
      · exact .inr ⟨tail ++ extra, more, skipSpace_append_of_cons hcomma extra,
          readMembers_append hmore (Bool.and_eq_true_iff.mp hwhole).2
            (Nat.le_of_succ_le_succ hfuel) extra, rfl⟩

end

/-- **Nothing but blanks may stand behind a document** that is a list or an object. -/
theorem parseRagged?_append {text extra : String} {document : Json}
    (h : parse? text = some document) (hdocument : ∀ token, document ≠ .number token)
    (hextra : ∃ c ∈ extra.toList, isSpace c = false) :
    parseRagged? (text ++ extra) = none := by
  obtain ⟨hread, hwhole⟩ := Option.filter_eq_some_iff.mp h
  rw [parseRagged?, parseChars?] at hread ⊢
  split at hread
  case h_2 => cases hread
  case h_1 value rest hvalue =>
    split at hread
    case isFalse => cases hread
    case isTrue hblank =>
      cases hread
      have hmore : 2 * text.toList.length + 2 ≤ 2 * (text ++ extra).toList.length + 2 := by
        rw [String.toList_append, List.length_append]
        omega
      have hlong := readValue_append hvalue hwhole (fun token heq => absurd heq (hdocument token))
        hmore extra.toList
      rw [String.toList_append] at hlong ⊢
      rw [hlong]
      obtain ⟨c, hc, hspace⟩ := hextra
      have hbehind : skipSpace (rest ++ extra.toList) ≠ [] := fun hnil => by
        have hall := List.dropWhile_eq_nil_iff.mp hnil c (List.mem_append_right rest hc)
        rw [hspace] at hall
        cases hall
      exact if_neg hbehind

end NodeGateway.Json
