import Mathlib.Data.List.DropRight
import NodeGateway.Text.Blank

/-!
# Pieces of a Text, and the Blanks Around Them

Cutting a text at a character undoes joining pieces with it, and the other way round. This is what
the library knows about `List.splitOn`, which is the same function (`Text.splitAt_eq_splitOn`).

A text has one part that neither begins nor ends with a blank and has only blanks around it, and
trimming finds that part (`Text.padded_trim`, `Text.bare_trim`) and no other
(`Text.Padded.trim_eq`).
-/

namespace NodeGateway.Text

variable {separator : Char} {text piece core left right : List Char}

/-! ### Cutting -/

theorem splitAt_eq_splitOn (separator : Char) (text : List Char) :
    splitAt separator text = text.splitOn separator := by
  induction text with
  | nil => rfl
  | cons c text ih =>
      rw [splitAt, ih, List.splitOn_cons_eq_if_modifyHead]
      by_cases hc : c = separator
      · rw [if_pos hc, if_pos (beq_iff_eq.mpr hc)]
      · obtain ⟨first, rest, hpieces⟩ := List.exists_cons_of_ne_nil
          (List.splitOn_ne_nil separator text)
        rw [if_neg hc, if_neg (mt beq_iff_eq.mp hc), hpieces]
        rfl

/-- Pieces consist of characters of the text, and none is the separator. -/
theorem mem_of_mem_splitAt (h : piece ∈ splitAt separator text) :
    ∀ c ∈ piece, c ∈ text ∧ c ≠ separator := by
  rw [splitAt_eq_splitOn] at h
  induction text generalizing piece with
  | nil =>
      obtain rfl := List.mem_singleton.mp h
      simp
  | cons d text ih =>
      have hlater : ∀ other ∈ text.splitOn separator, ∀ c ∈ other, c ∈ d :: text ∧ c ≠ separator :=
        fun other hother c hc => (ih hother c hc).imp_left (List.mem_cons_of_mem d)
      rw [List.splitOn_cons_eq_if_modifyHead] at h
      split at h
      case isTrue =>
        rcases List.mem_cons.mp h with rfl | h
        · simp
        · exact hlater piece h
      case isFalse hd =>
        obtain ⟨first, pieces, hpieces⟩ := List.exists_cons_of_ne_nil
          (List.splitOn_ne_nil separator text)
        rw [hpieces, List.modifyHead_cons] at h
        rw [hpieces] at hlater
        rcases List.mem_cons.mp h with rfl | h
        · intro c hc
          rcases List.mem_cons.mp hc with rfl | hc
          · exact ⟨List.mem_cons_self, mt beq_iff_eq.mpr hd⟩
          · exact hlater first List.mem_cons_self c hc
        · exact hlater piece (List.mem_cons_of_mem _ h)

/-! ### Trimming -/

/-- A text is **blank** if it has nothing but blanks in it. -/
def Blank (text : List Char) : Prop := ∀ c ∈ text, isBlank c = true

/-- A text is **bare** if it neither begins nor ends with a blank. -/
structure Bare (text : List Char) : Prop where
  first : ∀ c, text.head? = some c → isBlank c = false
  last : ∀ c, text.getLast? = some c → isBlank c = false

/-- A text stands in a piece with nothing but blanks around it. -/
inductive Padded (core : List Char) : List Char → Prop
  | intro {left right : List Char} (hleft : Blank left) (hright : Blank right) :
      Padded core (left ++ (core ++ right))

/-- Nothing is taken from a text that does not begin with a blank. -/
theorem dropWhile_eq_self (h : ∀ c, text.head? = some c → isBlank c = false) :
    text.dropWhile isBlank = text := by
  cases text with
  | nil => rfl
  | cons c text => exact List.dropWhile_cons_of_neg (by simp [h c rfl])

/-- The blanks behind a text are taken away, and nothing else. -/
theorem trimEnd_append (h : ∀ c, text.getLast? = some c → isBlank c = false)
    (hright : Blank right) : trimEnd (text ++ right) = text := by
  have hblank : ∀ c ∈ right.reverse, isBlank c = true := fun c hc =>
    hright c (List.mem_reverse.mp hc)
  have hstop : ∀ c, text.reverse.head? = some c → isBlank c = false := by
    rwa [List.head?_reverse]
  rw [trimEnd, List.reverse_append, List.dropWhile_append_of_pos hblank, dropWhile_eq_self hstop,
    List.reverse_reverse]

/-- **Blanks around a text are taken away, and nothing else.** -/
theorem Padded.trim_eq (hpadded : Padded core piece) (hbare : Bare core) : trim piece = core := by
  cases hpadded with
  | @intro left right hleft hright =>
    rw [trim, List.dropWhile_append_of_pos hleft]
    cases core with
    | nil =>
        rw [List.nil_append, List.dropWhile_eq_nil_iff.mpr hright]
        rfl
    | cons c core =>
        have hstop : ∀ d, (c :: core ++ right).head? = some d → isBlank d = false := hbare.first
        rw [dropWhile_eq_self hstop, trimEnd_append hbare.last hright]

theorem trim_eq_rdropWhile (text : List Char) :
    trim text = (text.dropWhile isBlank).rdropWhile isBlank :=
  rfl

/-- What is left of a text stands in it between blanks. -/
theorem padded_trim (text : List Char) : Padded (trim text) text := by
  have hfront : Blank (text.takeWhile isBlank) := fun c hc => List.mem_takeWhile_imp hc
  have hend : Blank ((text.dropWhile isBlank).rtakeWhile isBlank) := fun c hc =>
    List.mem_rtakeWhile_imp hc
  have hwhole : text.takeWhile isBlank ++
      (trim text ++ (text.dropWhile isBlank).rtakeWhile isBlank) = text := by
    rw [trim_eq_rdropWhile, List.rdropWhile_append_rtakeWhile, List.takeWhile_append_dropWhile]
  have hpadded : Padded (trim text) _ := .intro hfront hend
  rwa [hwhole] at hpadded

/-- What is left of a text is bare. -/
theorem bare_trim (text : List Char) : Bare (trim text) := by
  refine ⟨fun c hc => ?_, fun c hc => ?_⟩
  · obtain ⟨behind, hbehind⟩ : trim text <+: text.dropWhile isBlank :=
      List.rdropWhile_prefix isBlank _
    have hhead : (text.dropWhile isBlank).head? = some c := by
      rw [← hbehind, List.head?_append, hc]
      rfl
    have := List.head?_dropWhile_not isBlank text
    rwa [hhead] at this
  · rw [trim, trimEnd, List.getLast?_reverse] at hc
    have := List.head?_dropWhile_not isBlank (text.dropWhile isBlank).reverse
    rwa [hc] at this

/-- Nothing is left of a text exactly if it is blank. -/
theorem trim_eq_nil_iff : trim text = [] ↔ Blank text := by
  constructor
  · intro h
    have hpadded := h ▸ padded_trim text
    cases hpadded with
    | intro hleft hright => exact List.forall_mem_append.mpr ⟨hleft, hright⟩
  · intro hblank
    rw [trim, List.dropWhile_eq_nil_iff.mpr hblank]
    rfl

end NodeGateway.Text
