import Mathlib.Data.Bool.AllAny
import Mathlib.Data.List.DropRight
import NodeGateway.Proofs.Text.Pieces
import NodeGateway.Proofs.Url.Percent
import NodeGateway.Url.Reader

/-!
# Paths Read Back

The segments of a path are written with a slash in front of each. None of them has a character that
would be encoded or would divide it, and none stands for a directory, so a path that is read from
its written form has the same segments (`Url.pieces_joined`), and the segments of a path that goes
on behind it are resolved as if they stood alone, unless one of them leads to a directory above
(`Url.resolveFrom_of_stays`).

Slashes at the end of the written form stand for empty segments at the end of the path
(`Url.rdropWhile_joined`).
-/

namespace NodeGateway

namespace Url

/-! ### Segments -/

/-- Whether a character may stand in a segment of a path: it is not encoded there, and does not
divide the path. -/
def isInSegment (c : Char) : Bool := !Percent.inPath c && c != '/' && c != '\\'

/-- Whether a text is a **segment** of a path that was read: its characters may stand there, and it
does not stand for a directory. -/
def isSegment (text : List Char) : Bool :=
  text.all isInSegment && !isSingleDot text && !isDoubleDot text

/-- The written form of segments. -/
def joined (segments : List String) : List Char :=
  segments.flatMap fun segment => '/' :: segment.toList

variable {c : Char} {segment rest : List Char} {segments taken : List String}

/-- A character of a segment neither ends the path nor divides it, and it is left alone. -/
theorem of_isInSegment (h : isInSegment c = true) :
    (c != '?' && c != '#') = true ∧ c ≠ '/' ∧ c ≠ '\\' ∧ Percent.inPath c = false := by
  simp only [isInSegment, Bool.and_eq_true, Bool.not_eq_true', bne_iff_ne] at h
  obtain ⟨⟨hpath, hslash⟩, hback⟩ := h
  refine ⟨?_, hslash, hback, hpath⟩
  simp [Percent.inPath] at hpath
  simp [hpath]

/-- A character of a segment is no blank. -/
theorem lt_toNat_of_isInSegment (h : isInSegment c = true) : 0x20 < c.toNat := by
  have hpath := (of_isInSegment h).2.2.2
  simp [Percent.inPath, Percent.inFragment] at hpath
  exact Percent.lt_toNat (by simp [hpath]) (by simp [hpath])

/-- The pieces of a text behind a slash, up to a query or a fragment. These are its segments before
they are resolved. -/
def pieces (text : List Char) : List (List Char) :=
  Text.splitAt '/' (Percent.encode Percent.inPath
    ((beforeQuery text).map fun c => if c = '\\' then '/' else c))

/-- The path of a special scheme is resolved from its pieces. -/
theorem readSegments_eq (text : List Char) :
    readSegments true text = resolveFrom [] (pieces text) :=
  rfl

/-- What ends a path behind some characters of segments has no part in the path. -/
theorem beforeQuery_append (h : ∀ c ∈ segment, isInSegment c = true) (rest : List Char) :
    beforeQuery (segment ++ rest) = segment ++ beforeQuery rest :=
  List.takeWhile_append_of_pos fun c hc => (of_isInSegment (h c hc)).1

/-- Characters of segments are taken over as they are. -/
theorem encode_segment (h : ∀ c ∈ segment, isInSegment c = true) :
    Percent.encode Percent.inPath (segment.map fun c => if c = '\\' then '/' else c) = segment := by
  have hmap : segment.map (fun c => if c = '\\' then '/' else c) = segment := by
    rw [List.map_congr_left fun c hc => if_neg (of_isInSegment (h c hc)).2.2.1, List.map_id']
  rw [hmap, Percent.encode_eq_self fun c hc => (of_isInSegment (h c hc)).2.2.2]

/-- No slash stands in a segment. -/
theorem slash_notMem (h : ∀ c ∈ segment, isInSegment c = true) : '/' ∉ segment :=
  fun hmem => (of_isInSegment (h '/' hmem)).2.1 rfl

/-- A segment is the first piece in front of a slash. -/
theorem pieces_append (h : ∀ c ∈ segment, isInSegment c = true) (rest : List Char) :
    pieces (segment ++ '/' :: rest) = segment :: pieces rest := by
  have hslash : beforeQuery ('/' :: rest) = '/' :: beforeQuery rest := rfl
  rw [pieces, beforeQuery_append h, hslash, List.map_append, Percent.encode_append,
    encode_segment h]
  rw [pieces, Text.splitAt_eq_splitOn, Text.splitAt_eq_splitOn]
  exact List.splitOn_append_cons_self_of_not_mem (slash_notMem h) _

/-- A segment is the only piece in front of the end of the path. -/
theorem pieces_of_end (h : ∀ c ∈ segment, isInSegment c = true) (hrest : beforeQuery rest = []) :
    pieces (segment ++ rest) = [segment] := by
  rw [pieces, beforeQuery_append h, hrest, List.append_nil, encode_segment h]
  rw [Text.splitAt_eq_splitOn]
  exact List.splitOn_eq_singleton (slash_notMem h)

/-- The characters of a segment may stand in one. -/
theorem isInSegment_of_isSegment (h : isSegment segment = true) :
    ∀ c ∈ segment, isInSegment c = true := by
  simp only [isSegment, Bool.and_eq_true, List.all_eq_true] at h
  exact h.1.1

/-- **Segments are read back** in front of a path that goes on. -/
theorem pieces_joined_slash {text : List Char} (h : ∀ s ∈ segments, isSegment s.toList = true)
    (htext : '/' :: text = joined segments ++ '/' :: rest) :
    pieces text = segments.map String.toList ++ pieces rest := by
  induction segments generalizing text with
  | nil =>
      obtain rfl : text = rest := by simpa [joined] using htext
      rfl
  | cons s segments ih =>
      rw [List.forall_mem_cons] at h
      obtain ⟨behind, hbehind⟩ : ∃ behind, joined segments ++ '/' :: rest = '/' :: behind := by
        cases segments with
        | nil => exact ⟨rest, rfl⟩
        | cons next segments => exact ⟨_, rfl⟩
      obtain rfl : text = s.toList ++ '/' :: behind := by
        rw [← hbehind]
        simpa [joined] using htext
      rw [pieces_append (isInSegment_of_isSegment h.1), ih h.2 hbehind.symm]
      rfl

/-- **Segments are read back** in front of the end of the path. -/
theorem pieces_joined_end {text : List Char} (h : ∀ s ∈ segments, isSegment s.toList = true)
    (hfilled : segments ≠ []) (hrest : beforeQuery rest = [])
    (htext : '/' :: text = joined segments ++ rest) :
    pieces text = segments.map String.toList := by
  obtain ⟨front, last, rfl⟩ : ∃ front last, segments = front ++ [last] :=
    (List.eq_nil_or_concat' segments).resolve_left hfilled
  rw [List.forall_mem_append, List.forall_mem_singleton] at h
  have htext : '/' :: text = joined front ++ '/' :: (last.toList ++ rest) := by
    simpa [joined] using htext
  rw [pieces_joined_slash h.1 htext, pieces_of_end (isInSegment_of_isSegment h.2) hrest,
    List.map_append]
  rfl

/-! ### Resolving -/

/-- Segments that stand for no directory are taken over. -/
theorem resolveFrom_append (h : ∀ s ∈ segments, isSegment s.toList = true)
    (taken : List String) (behind : List (List Char)) :
    resolveFrom taken (segments.map String.toList ++ behind) =
      resolveFrom (taken ++ segments) behind := by
  induction segments generalizing taken with
  | nil => rw [List.append_nil]; rfl
  | cons s segments ih =>
      rw [List.forall_mem_cons] at h
      have hs := h.1
      simp only [isSegment, Bool.and_eq_true, Bool.not_eq_true'] at hs
      rw [List.map_cons, List.cons_append, resolveFrom, hs.2, hs.1.2]
      simp only [Bool.false_eq_true, if_false, String.ofList_toList]
      rw [ih h.2, List.append_assoc, List.singleton_append]

/-- Whether no piece leads to a directory above. -/
def stays (pieces : List (List Char)) : Bool := pieces.all (!isDoubleDot ·)

/-- **Pieces that lead to no directory above** are resolved as if they stood alone. -/
theorem resolveFrom_of_stays {behind : List (List Char)} (h : stays behind = true)
    (taken : List String) : resolveFrom taken behind = taken ++ resolveFrom [] behind := by
  induction behind generalizing taken with
  | nil => rw [resolveFrom, resolveFrom, List.append_nil]
  | cons piece behind ih =>
      rw [stays, List.all_cons, Bool.and_eq_true, Bool.not_eq_true'] at h
      rw [resolveFrom, resolveFrom, h.1]
      simp only [Bool.false_eq_true, if_false, List.nil_append]
      split
      · rw [ih h.2, ih h.2 (if behind.isEmpty then [""] else []), List.append_assoc]
      · rw [ih h.2, ih h.2 [String.ofList piece], List.append_assoc]

/-- Something is left of pieces. -/
theorem resolveFrom_ne_nil {behind : List (List Char)} (h : behind ≠ []) (taken : List String) :
    resolveFrom taken behind ≠ [] := by
  induction behind generalizing taken with
  | nil => exact absurd rfl h
  | cons piece behind ih =>
      rw [resolveFrom]
      cases behind with
      | nil =>
          simp only [List.isEmpty_nil, if_true, resolveFrom]
          split
          · simp
          · split <;> simp
      | cons next behind =>
          split
          · exact ih (by simp) _
          · split <;> exact ih (by simp) _

/-- The segments of the directory above are among those taken. -/
theorem mem_of_mem_above {s : String} (h : s ∈ above taken) : s ∈ taken := by
  rw [above] at h
  split at h
  · exact h
  · exact List.dropLast_subset _ h

/-- What is resolved from pieces with characters of segments consists of segments. -/
theorem isSegment_of_mem_resolveFrom {behind : List (List Char)}
    (htaken : ∀ s ∈ taken, isSegment s.toList = true)
    (hbehind : ∀ piece ∈ behind, ∀ c ∈ piece, isInSegment c = true) :
    ∀ s ∈ resolveFrom taken behind, isSegment s.toList = true := by
  induction behind generalizing taken with
  | nil => exact htaken
  | cons piece behind ih =>
      rw [List.forall_mem_cons] at hbehind
      have hclosing : ∀ s ∈ (if behind.isEmpty then [""] else []),
          isSegment s.toList = true := by
        intro s hs
        split at hs
        · obtain rfl := List.mem_singleton.mp hs
          decide
        · cases hs
      rw [resolveFrom]
      split
      · refine ih ?_ hbehind.2
        rw [List.forall_mem_append]
        exact ⟨fun s hs => htaken s (mem_of_mem_above hs), hclosing⟩
      · split
        · refine ih ?_ hbehind.2
          rw [List.forall_mem_append]
          exact ⟨htaken, hclosing⟩
        · rename_i hdouble hsingle
          refine ih ?_ hbehind.2
          rw [List.forall_mem_append, List.forall_mem_singleton, String.toList_ofList]
          refine ⟨htaken, ?_⟩
          simpa [isSegment, hdouble, hsingle] using hbehind.1

/-- The marks of encoded bytes stand for themselves in a path. -/
theorem inPath_of_mem_marks : ∀ c ∈ Percent.marks, Percent.inPath c = false :=
  List.all_iff_forall_prop.mp (by decide)

/-- The pieces of a text have characters of segments. -/
theorem isInSegment_of_mem_pieces {text piece : List Char} (h : piece ∈ pieces text) :
    ∀ c ∈ piece, isInSegment c = true := by
  intro c hc
  obtain ⟨hmem, hslash⟩ := Text.mem_of_mem_splitAt h c hc
  have hback : c ≠ '\\' := by
    rintro rfl
    rcases Percent.mem_or_mem_marks_of_mem_encode hmem with ⟨hmem, -⟩ | hmem
    · obtain ⟨d, -, hd⟩ := List.mem_map.mp hmem
      split at hd
      · exact absurd hd (by decide)
      · contradiction
    · exact absurd hmem (by decide)
  have hpath := Percent.notMem_encode inPath_of_mem_marks hmem
  simp [isInSegment, hpath, hslash, hback]

/-- **The path of a special scheme** has segments, and at least one. -/
theorem readSegments_spec (text : List Char) :
    readSegments true text ≠ [] ∧ ∀ s ∈ readSegments true text, isSegment s.toList = true := by
  have hfilled : pieces text ≠ [] := by
    rw [pieces, Text.splitAt_eq_splitOn]
    exact List.splitOn_ne_nil _ _
  rw [readSegments_eq]
  exact ⟨resolveFrom_ne_nil hfilled [],
    isSegment_of_mem_resolveFrom (by simp) fun _ hpiece => isInSegment_of_mem_pieces hpiece⟩

/-! ### Slashes at the end -/

/-- A text that does not end with a slash keeps everything in front of it. -/
theorem rdropWhile_append_of_last {p : Char → Bool} {front : List Char} (hfilled : front ≠ [])
    (hlast : p (front.getLast hfilled) = false) (text : List Char) :
    (front ++ text).rdropWhile p = front ++ text.rdropWhile p := by
  induction text using List.reverseRecOn with
  | nil =>
      rw [List.append_nil, List.rdropWhile_nil, List.append_nil, List.rdropWhile_eq_self_iff]
      intro _
      simp [hlast]
  | append_singleton text c ih =>
      rw [← List.append_assoc]
      by_cases hc : p c = true
      · rw [List.rdropWhile_concat_pos _ _ _ hc, List.rdropWhile_concat_pos _ _ _ hc, ih]
      · rw [List.rdropWhile_concat_neg _ _ _ hc, List.rdropWhile_concat_neg _ _ _ hc,
          List.append_assoc]

/-- **Slashes at the end of segments** stand for the empty ones at their end. -/
theorem rdropWhile_joined (h : ∀ s ∈ segments, isSegment s.toList = true) :
    (joined segments).rdropWhile (· = '/') = joined (segments.rdropWhile (·.isEmpty)) := by
  induction segments using List.reverseRecOn with
  | nil => rfl
  | append_singleton front last ih =>
      rw [List.forall_mem_append, List.forall_mem_singleton] at h
      have hjoined : joined (front ++ [last]) = joined front ++ '/' :: last.toList := by
        simp [joined]
      by_cases hempty : last.isEmpty = true
      · obtain rfl : last = "" := by simpa using hempty
        rw [List.rdropWhile_concat_pos _ _ _ rfl, hjoined, String.toList_empty,
          List.rdropWhile_concat_pos _ _ _ (by decide), ih h.1]
      · rw [List.rdropWhile_concat_neg _ _ _ hempty, hjoined, List.rdropWhile_eq_self_iff]
        intro hne
        have hfilled : last.toList ≠ [] := by simpa using hempty
        rw [List.getLast_append_of_ne_nil _ (by simp), List.getLast_cons hfilled]
        have hin := isInSegment_of_isSegment h.2 _ (List.getLast_mem hfilled)
        simpa using (of_isInSegment hin).2.1

end Url

end NodeGateway
