import Mathlib.Data.Bool.AllAny
import Mathlib.Data.List.Infix
import NodeGateway.Fault.Connection
import NodeGateway.Json.Complaint
import NodeGateway.Proofs.Text.Hex

/-!
# Phrases in Quoted Texts

Whether a text mentions a connection failure is a search for ten phrases, and none of them has a
quote in it. So a phrase cannot reach over a quote, and a message that **quotes a text** mentions a
connection failure exactly if what stands between the quotes does, provided that the words around
it do not. What stands between the quotes comes from whoever wrote the text.

## Main results

* `Text.occursIn_iff`: the search finds what stands in one piece somewhere in the text;
* `CauseChain.isConnectionFailure_iff`: a chain of causes counts if one of its layers does;
* `mentionsConnectionFailure_around_quote`: only what is between the quotes counts;
* `mentionsConnectionFailure_quote`: a text that mentions a connection failure still does so between
  quotes, where its other characters may be escaped;
* `Text.mentions_around_char`: a single character between quotes has no room for a phrase;
* `Complaint.mentionsConnectionFailure_message`: what a reader complains about mentions a connection
  failure only if it quotes a text that does.
-/

namespace NodeGateway

/-! ### Searching for phrases -/

namespace Text

/-- The search finds a phrase that stands in one piece somewhere in the text. -/
theorem occursIn_iff {phrase text : List Char} :
    occursIn phrase text = true ↔ phrase <:+: text := by
  induction text with
  | nil => simp [occursIn]
  | cons c rest ih =>
      rw [occursIn, Bool.or_eq_true, List.isPrefixOf_iff_prefix, ih, List.infix_cons_iff]

/-- A text **says** a phrase if the phrase stands in it, in some ASCII case. -/
def Says (text phrase : String) : Prop :=
  ∃ piece, piece <:+: text.toList ∧ phrase.toList = piece.map Char.toLower

/-- A search without regard to the case finds the phrases that a text says. -/
theorem mentions_iff {text phrase : String} : mentions text phrase = true ↔ Says text phrase := by
  rw [mentions, occursIn_iff, foldCase, List.infix_map_iff, Says]

/-- A phrase without some character stands before that character or behind it. -/
theorem infix_append_cons_iff {phrase front back : List Char} {c : Char} (hc : c ∉ phrase) :
    phrase <:+: front ++ c :: back ↔ phrase <:+: front ∨ phrase <:+: back := by
  constructor
  · intro h
    rcases List.infix_append_iff.mp h with hfront | hback | ⟨head, tail, rfl, hhead, htail⟩
    · exact .inl hfront
    · rcases List.infix_cons_iff.mp hback with hprefix | hinfix
      · cases phrase with
        | nil => exact .inl List.nil_infix
        | cons d rest =>
            obtain ⟨rfl, -⟩ := List.cons_prefix_cons.mp hprefix
            exact absurd List.mem_cons_self hc
      · exact .inr hinfix
    · -- what reaches over the character begins with it behind it, or does not reach over it
      cases tail with
      | nil => exact .inl (by simpa using hhead.isInfix)
      | cons d rest =>
          obtain ⟨rfl, -⟩ := List.cons_prefix_cons.mp htail
          exact absurd (List.mem_append_right head List.mem_cons_self) hc
  · rintro (h | h)
    · exact h.trans (List.prefix_append front (c :: back)).isInfix
    · exact h.trans ((List.suffix_cons c back).trans (List.suffix_append front (c :: back))).isInfix

/-- A phrase without some character stands before two of that character, between them or behind
them. -/
theorem infix_between_iff {phrase front inside back : List Char} {c : Char} (hc : c ∉ phrase) :
    phrase <:+: front ++ c :: (inside ++ c :: back) ↔
      phrase <:+: front ∨ phrase <:+: inside ∨ phrase <:+: back := by
  rw [infix_append_cons_iff hc, infix_append_cons_iff hc]

/-- The characters between the quotes of a quoted text. -/
def inner (text : String) : List Char := text.toList.flatMap (escape '"')

/-- Whether a phrase stands between the quotes, before them or behind them, is all that counts for
a phrase without a quote. -/
theorem mentions_around_quote (front back text : String) {phrase : String}
    (h : '"' ∉ phrase.toList) :
    mentions (front ++ quote text ++ back) phrase =
      (mentions front phrase || occursIn phrase.toList (foldCase (inner text)) ||
        mentions back phrase) := by
  have hchars : foldCase (front ++ quote text ++ back).toList =
      foldCase front.toList ++ '"' :: (foldCase (inner text) ++ '"' :: foldCase back.toList) := by
    simp [foldCase, quote, inner]
  rw [Bool.eq_iff_iff]
  simp only [mentions, Bool.or_eq_true, occursIn_iff]
  rw [hchars, infix_between_iff h, or_assoc]

/-- Letters and blanks stand for themselves between quotes, in either case. Outside ASCII there is
no other case, so the characters below 128 are all that have to be looked at. -/
theorem escape_of_toLower {c : Char} (h : c.toLower = ' ' ∨ c.toLower.isLower = true) :
    escape '"' c = [c] := by
  have hsmall : c.toNat < 128 := by
    by_contra hlarge
    rw [toLower_eq_self (by omega)] at h
    rcases h with rfl | hlower
    · exact hlarge (by decide)
    · have := UInt32.le_iff_toNat_le.mp (of_decide_eq_true (Bool.and_eq_true_iff.mp hlower).2)
      exact hlarge (Nat.lt_of_le_of_lt this (by decide))
  exact forall_of_lt
    (P := fun c => c.toLower = ' ' ∨ c.toLower.isLower = true → escape '"' c = [c])
    (by decide +kernel) hsmall h

/-- A phrase of small letters and blanks that a text mentions stands between the quotes too. -/
theorem occursIn_inner {text phrase : String}
    (hletters : ∀ d ∈ phrase.toList, d = ' ' ∨ d.isLower = true)
    (h : mentions text phrase = true) : occursIn phrase.toList (foldCase (inner text)) = true := by
  obtain ⟨piece, hpiece, hfold⟩ := mentions_iff.mp h
  have hkept : piece.flatMap (escape '"') = piece := by
    calc piece.flatMap (escape '"') = piece.flatMap fun c => [c] := by
          refine List.flatMap_congr fun c hc => escape_of_toLower (hletters _ ?_)
          rw [hfold]
          exact List.mem_map_of_mem hc
      _ = piece := List.flatMap_singleton' piece
  have hinner : piece <:+: inner text := hkept ▸ hpiece.flatMap (escape '"')
  rw [occursIn_iff, hfold]
  exact hinner.map Char.toLower

end Text

/-! ### The ten phrases -/

/-- The phrases that are looked for have small letters and blanks in them and nothing else. -/
theorem phrases_spelling {phrase : String} (h : phrase ∈ resolutionPhrases ++ connectionPhrases) :
    phrase.toList ≠ [] ∧ '"' ∉ phrase.toList ∧
      ∀ d ∈ phrase.toList, d = ' ' ∨ d.isLower = true := by
  have hall : (resolutionPhrases ++ connectionPhrases).all (fun phrase =>
      !phrase.toList.isEmpty && !phrase.toList.contains '"' &&
        phrase.toList.all fun d => d == ' ' || d.isLower) = true := by decide +kernel
  simpa [and_assoc] using List.all_eq_true.mp hall phrase h

/-- A text mentions a connection failure if it mentions one of the phrases. -/
theorem mentionsConnectionFailure_iff {text : String} :
    mentionsConnectionFailure text = true ↔
      ∃ phrase ∈ resolutionPhrases ++ connectionPhrases, Text.mentions text phrase = true :=
  List.any_eq_true

/-- A layer **tells of a loss** if it is an input/output error of one of the eight kinds, or if it
says one of the ten phrases. -/
def Layer.TellsOfLoss (layer : Layer) : Prop :=
  (∃ kind, layer.io = some kind ∧ kind.isConnectionLoss = true) ∨
    ∃ phrase ∈ resolutionPhrases ++ connectionPhrases, Text.Says layer.text phrase

theorem Layer.isConnectionFailure_iff {layer : Layer} :
    layer.isConnectionFailure = true ↔ layer.TellsOfLoss := by
  rw [isConnectionFailure, Bool.or_eq_true, Option.any_eq_true, mentionsConnectionFailure_iff]
  simp only [Text.mentions_iff]
  rfl

/-- **One layer is enough**, however deep it lies. -/
theorem CauseChain.isConnectionFailure_iff {causes : CauseChain} :
    causes.isConnectionFailure = true ↔ ∃ layer ∈ causes, layer.TellsOfLoss := by
  induction causes with
  | nil => simp [isConnectionFailure]
  | cons layer causes ih =>
      rw [isConnectionFailure, Bool.or_eq_true, ih, Layer.isConnectionFailure_iff,
        List.exists_mem_cons_iff]

/-- A quoted text mentions a connection failure if one of the phrases is between the quotes. -/
theorem mentionsConnectionFailure_quote_iff {text : String} :
    mentionsConnectionFailure (Text.quote text) = true ↔
      ∃ phrase ∈ resolutionPhrases ++ connectionPhrases,
        Text.occursIn phrase.toList (Text.foldCase (Text.inner text)) = true := by
  rw [mentionsConnectionFailure_iff]
  refine exists_congr fun phrase => and_congr_right fun hphrase => ?_
  obtain ⟨hsome, hquote, -⟩ := phrases_spelling hphrase
  have hnowhere : Text.mentions "" phrase = false := by
    cases hchars : phrase.toList with
    | nil => exact absurd hchars hsome
    | cons d rest => rw [Text.mentions, hchars]; rfl
  have h := Text.mentions_around_quote "" "" text hquote
  rw [hnowhere, Bool.false_or, Bool.or_false, String.empty_append, String.append_empty] at h
  rw [h]

/-- **Only what is between the quotes counts**, if the words around a quoted text mention no
connection failure. -/
theorem mentionsConnectionFailure_around_quote {front back : String} (text : String)
    (hfront : mentionsConnectionFailure front = false)
    (hback : mentionsConnectionFailure back = false) :
    mentionsConnectionFailure (front ++ Text.quote text ++ back) =
      mentionsConnectionFailure (Text.quote text) := by
  rw [Bool.eq_iff_iff, mentionsConnectionFailure_iff, mentionsConnectionFailure_quote_iff]
  refine exists_congr fun phrase => and_congr_right fun hphrase => ?_
  have hnot : ∀ {words : String}, mentionsConnectionFailure words = false →
      Text.mentions words phrase = false := fun hwords =>
    Bool.eq_false_iff.mpr fun h =>
      Bool.eq_false_iff.mp hwords (mentionsConnectionFailure_iff.mpr ⟨phrase, hphrase, h⟩)
  rw [Text.mentions_around_quote _ _ _ (phrases_spelling hphrase).2.1, hnot hfront, hnot hback,
    Bool.false_or, Bool.or_false]

/-- Whoever mentions a connection failure still does so between quotes. -/
theorem mentionsConnectionFailure_quote {text : String}
    (h : mentionsConnectionFailure text = true) :
    mentionsConnectionFailure (Text.quote text) = true := by
  obtain ⟨phrase, hphrase, hmentions⟩ := mentionsConnectionFailure_iff.mp h
  exact mentionsConnectionFailure_quote_iff.mpr
    ⟨phrase, hphrase, Text.occursIn_inner (phrases_spelling hphrase).2.2 hmentions⟩

/-! ### Complaints -/

namespace Text

/-- The blank has no other case. -/
theorem toLower_eq_blank {c : Char} (h : c.toLower = ' ') : c = ' ' := by
  have hsmall : c.toNat < 128 := by
    by_contra hlarge
    rw [toLower_eq_self (by omega)] at h
    subst h
    exact hlarge (by decide)
  exact forall_of_lt (P := fun c => c.toLower = ' ' → c = ' ') (by decide +kernel) hsmall h

/-- A character stands for itself between quotes, or it is escaped and there is no blank. -/
theorem escape_eq_or (c : Char) : escape '\'' c = [c] ∨ ' ' ∉ escape '\'' c := by
  have hdigits : ' ' ∉ Hex.natDigits c.toNat := fun h =>
    absurd (Hex.mem_toDigits (by decide) (by decide) ' ' h) (by decide)
  rw [escape]
  split_ifs with hquote
  · have hc : c = '\'' ∨ c = '\\' := by simpa using hquote
    rcases hc with rfl | rfl <;> exact .inr (by decide)
  · exact .inr (by decide)
  · exact .inr (by decide)
  · exact .inr (by decide)
  · exact .inr (by decide)
  · exact .inr (by simpa using hdigits)
  · exact .inl rfl

/-- A single character between quotes has no room for a phrase with a blank. -/
theorem not_infix_escape {phrase : List Char} (hblank : ' ' ∈ phrase) (hlong : 1 < phrase.length)
    (c : Char) : ¬ phrase <:+: foldCase (escape '\'' c) := by
  intro h
  rcases escape_eq_or c with hself | hescaped
  · have hlength := h.length_le
    rw [hself] at hlength
    simp only [foldCase, List.map_cons, List.map_nil, List.length_singleton] at hlength
    omega
  · obtain ⟨d, hd, hfold⟩ := List.mem_map.mp (h.subset hblank)
    exact hescaped (toLower_eq_blank hfold ▸ hd)

/-- A single character between quotes is as good as none, for a phrase with a blank and without a
quote. -/
theorem mentions_around_char (front back : String) (c : Char) {phrase : String}
    (hquote : '\'' ∉ phrase.toList) (hblank : ' ' ∈ phrase.toList)
    (hlong : 1 < phrase.toList.length) :
    mentions (front ++ quoteChar c ++ back) phrase =
      (mentions front phrase || mentions back phrase) := by
  have hchars : foldCase (front ++ quoteChar c ++ back).toList = foldCase front.toList ++
      '\'' :: (foldCase (escape '\'' c) ++ '\'' :: foldCase back.toList) := by
    simp [foldCase, quoteChar]
  rw [Bool.eq_iff_iff]
  simp only [mentions, Bool.or_eq_true, occursIn_iff]
  rw [hchars, infix_between_iff hquote, or_iff_right (not_infix_escape hblank hlong c)]

/-- A text says no phrase with a character in it that no character of the text stands for. -/
theorem mentions_eq_false_of_mem {text phrase : String} {d : Char} (hd : d ∈ phrase.toList)
    (h : ∀ c ∈ text.toList, c.toLower ≠ d) : mentions text phrase = false := by
  rw [Bool.eq_false_iff, ne_eq, mentions_iff]
  rintro ⟨piece, hpiece, hfold⟩
  rw [hfold, List.mem_map] at hd
  obtain ⟨c, hc, rfl⟩ := hd
  exact h c (hpiece.subset hc) rfl

end Text

namespace HexError

/-- What the words behind a foreign character are written in. -/
def behindForeign : List Char := " at position ".toList ++ Hex.lowerDigits

/-- Every phrase has a blank in it and no quote, and it cannot be said by the words behind a foreign
character. -/
theorem phrases_shape {phrase : String} (h : phrase ∈ resolutionPhrases ++ connectionPhrases) :
    ' ' ∈ phrase.toList ∧ 1 < phrase.toList.length ∧ '\'' ∉ phrase.toList ∧
      ∃ d ∈ phrase.toList, d ∉ behindForeign := by
  have hall : (resolutionPhrases ++ connectionPhrases).all (fun phrase =>
      phrase.toList.contains ' ' && decide (1 < phrase.toList.length) &&
        !phrase.toList.contains '\'' && phrase.toList.any (!behindForeign.contains ·)) = true := by
    decide +kernel
  simpa [and_assoc] using List.all_eq_true.mp hall phrase h

/-- What is wrong with a text that is no byte string has nothing to do with connections, whatever
character is shown. -/
theorem mentionsConnectionFailure_message (reason : HexError) :
    mentionsConnectionFailure reason.message = false := by
  cases reason with
  | oddLength => decide +kernel
  | wrongLength => decide +kernel
  | foreign c index =>
      have hfront : mentionsConnectionFailure "invalid character " = false := by decide +kernel
      have hsmall : ∀ c ∈ behindForeign, c.toLower = c := List.all_iff_forall_prop.mp (by decide)
      rw [Bool.eq_false_iff, ne_eq, mentionsConnectionFailure_iff]
      rintro ⟨phrase, hphrase, hmentions⟩
      obtain ⟨hblank, hlong, hquote, d, hd, hforeign⟩ := phrases_shape hphrase
      rw [message_foreign, String.append_assoc,
        Text.mentions_around_char _ _ c hquote hblank hlong, Bool.or_eq_true] at hmentions
      rcases hmentions with hmentions | hmentions
      · exact Bool.eq_false_iff.mp hfront
          (mentionsConnectionFailure_iff.mpr ⟨phrase, hphrase, hmentions⟩)
      · refine absurd hmentions (Bool.eq_false_iff.mp (Text.mentions_eq_false_of_mem hd ?_))
        intro c hc
        have hbehind : c ∈ behindForeign := by
          rw [String.toList_append, List.mem_append] at hc
          refine List.mem_append.mpr (hc.imp_right fun hindex => ?_)
          have hdigit : c ∈ Nat.toDigits 10 index := by rwa [← Nat.toList_repr]
          exact Hex.mem_toDigits (by decide) (by decide) c hdigit
        rw [hsmall c hbehind]
        rintro rfl
        exact hforeign hbehind

end HexError

namespace Complaint

/-- A complaint mentions a connection failure exactly if it quotes a text that does. -/
theorem mentionsConnectionFailure_message {complaint : Complaint} :
    mentionsConnectionFailure complaint.message = true ↔
      ∃ text, complaint.quoted? = some text ∧
        mentionsConnectionFailure (Text.quote text) = true := by
  have hquoted : ∀ {front back text : String}, mentionsConnectionFailure front = false →
      mentionsConnectionFailure back = false →
      (mentionsConnectionFailure (front ++ Text.quote text ++ back) = true ↔
        ∃ other, some text = some other ∧ mentionsConnectionFailure (Text.quote other) = true) := by
    intro front back text hfront hback
    rw [mentionsConnectionFailure_around_quote text hfront hback]
    simp
  have hnone : ∀ {words : String}, mentionsConnectionFailure words = false →
      (mentionsConnectionFailure words = true ↔ ∃ text, none = some text ∧
        mentionsConnectionFailure (Text.quote text) = true) := by
    intro words hwords
    simp [hwords]
  cases complaint with
  | misplacedText text => exact hquoted (by decide +kernel) (by decide +kernel)
  | noByte text => exact hquoted (by decide +kernel) (by decide +kernel)
  | noBytes text => exact hquoted (by decide +kernel) (by decide +kernel)
  | misspelled reason => exact hnone reason.mentionsConnectionFailure_message
  | unquoted => exact hnone (by decide +kernel)

end Complaint

end NodeGateway
