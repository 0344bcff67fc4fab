import NodeGateway.Proofs.Url.Authority
import NodeGateway.Proofs.Url.Path

/-!
# Paths Behind a Base

Requests are made by writing a path behind the written form of a base URL without the slashes at its
end, and reading the whole as a URL again. What comes of that depends on where the base ends
(`Url.parse_trimmed`): the path goes on behind the path of the base, or behind its query, where it
is no path any more. In both cases it can be told from the URL that comes of it what the base was,
up to the slashes at its end (`Url.Base.trimmed_eq_of_target`).

All this is about bases that are read from a text, have one of the schemes that requests are sent
with, have no fragment, and whose host reads back (`Url.Base`).
-/

namespace NodeGateway.Url

/-! ### Bases -/

/-- Whether requests are sent with a scheme. -/
def isWebScheme (scheme : String) : Bool := ["http", "https"].contains scheme

/-- A **base** to write paths behind: the parts of a URL of the web without a fragment, in the form
that reading gives them. -/
structure Base where
  scheme : String
  authority : Authority
  segments : List String
  query : Option String
  isWeb : isWebScheme scheme = true
  isNormal : authority.IsNormal scheme
  segments_ne_nil : segments ≠ []
  areSegments : ∀ s ∈ segments, isSegment s.toList = true
  isQuery : ∀ q ∈ query, ∀ c ∈ q.toList, Percent.inQuery true c = false

/-- A scheme of the web is special, and not the one of local files. -/
theorem of_isWebScheme {scheme : String} (h : isWebScheme scheme = true) :
    isSpecial scheme = true ∧ scheme ≠ "file" := by
  obtain rfl | rfl : scheme = "http" ∨ scheme = "https" := by simpa [isWebScheme] using h
  all_goals decide

/-- Behind a scheme of the web slashes stand in front of the authority. -/
theorem readBody_of_isWebScheme {scheme : String} (h : isWebScheme scheme = true)
    (text : List Char) :
    readBody scheme text =
      readHierarchy scheme (text.dropWhile fun c => c = '/' || c = '\\') := by
  obtain ⟨hspecial, hfile⟩ := of_isWebScheme h
  rw [readBody.eq_def]
  simp only [if_neg hfile, if_pos hspecial]

/-- A scheme of the web is read back. -/
theorem scheme?_text {scheme : String} (h : isWebScheme scheme = true) (rest : List Char) :
    scheme? (scheme.toList ++ ':' :: rest) = some (scheme, rest) := by
  obtain rfl | rfl : scheme = "http" ∨ scheme = "https" := by simpa [isWebScheme] using h
  all_goals rfl

/-- Slashes at the end are dropped character by character. -/
theorem toList_trim (text : String) :
    (trimSlashes text).toList = text.toList.rdropWhile (· = '/') :=
  String.toList_ofList

namespace Base

variable (base : Base)

/-- The base as a URL. -/
def url : Url := ⟨base.scheme, some base.authority, .segments base.segments, base.query, none⟩

/-- The written form of scheme and authority. -/
def root : List Char := base.scheme.toList ++ ':' :: '/' :: '/' :: base.authority.text.toList

/-- The written form of a query. -/
def queryText : Option String → List Char
  | some q => '?' :: q.toList
  | none => []

/-- The written form of a base, part by part. -/
theorem toList_text :
    base.url.text.toList = base.root ++ (joined base.segments ++ queryText base.query) := by
  obtain ⟨scheme, authority, segments, query, -, -, -, -, -⟩ := base
  cases query <;>
    simp [url, text, UrlPath.text, root, joined, queryText, String.toList_join, List.flatMap_map]

/-- The end of scheme and authority is no slash. -/
theorem root_getLast : ∃ hfilled : base.root ≠ [], base.root.getLast hfilled ≠ '/' := by
  have hfilled := base.isNormal.text_ne_nil
  refine ⟨by simp [root], ?_⟩
  have hlast : base.root.getLast (by simp [root]) = base.authority.text.toList.getLast hfilled := by
    simp [root, List.getLast_append_of_ne_nil, List.getLast_cons, hfilled]
  rw [hlast]
  intro hslash
  have hends := (base.isNormal.of_mem_text _ (List.getLast_mem hfilled)).1
  rw [hslash] at hends
  exact absurd hends (by decide)

/-- The base without the slashes at its end. -/
def trimmed : List Char :=
  match base.query with
  | none => base.root ++ joined (base.segments.rdropWhile (·.isEmpty))
  | some q => base.root ++ (joined base.segments ++ '?' :: q.toList.rdropWhile (· = '/'))

/-- **The slashes at the end of a base** are those of empty segments at the end of its path, or
those at the end of its query. -/
theorem toList_trimSlashes : (trimSlashes base.url.text).toList = base.trimmed := by
  obtain ⟨hfilled, hlast⟩ := base.root_getLast
  rw [toList_trim, toList_text, trimmed]
  cases base.query with
  | none =>
      simp only [queryText, List.append_nil]
      rw [rdropWhile_append_of_last hfilled (by simpa using hlast),
        rdropWhile_joined base.areSegments]
  | some q =>
      have hsplit : base.root ++ (joined base.segments ++ queryText (some q)) =
          (base.root ++ joined base.segments ++ ['?']) ++ q.toList := by
        simp [queryText]
      rw [hsplit, rdropWhile_append_of_last (by simp) (by simp)]
      simp

/-- No character of a scheme is a blank. -/
theorem lt_toNat_of_mem_scheme : ∀ c ∈ base.scheme.toList, 0x20 < c.toNat := by
  obtain h | h : base.scheme = "http" ∨ base.scheme = "https" := by
    simpa [isWebScheme] using base.isWeb
  all_goals rw [h]; exact List.all_iff_forall_prop.mp (by decide)

/-- No character of a query is a blank. -/
theorem lt_toNat_of_mem_query : ∀ c ∈ queryText base.query, 0x20 < c.toNat := by
  cases hquery : base.query with
  | none => simp [queryText]
  | some q =>
      rw [queryText, List.forall_mem_cons]
      refine ⟨by decide, fun c hc => ?_⟩
      have hin := base.isQuery q hquery c hc
      simp [Percent.inQuery] at hin
      exact Percent.lt_toNat (by simp [hin]) (by simp [hin])

/-- No character of a base is a blank. -/
theorem lt_toNat_of_mem_text : ∀ c ∈ base.url.text.toList, 0x20 < c.toNat := by
  intro c hc
  rw [toList_text, root, List.append_assoc] at hc
  simp only [List.cons_append, List.mem_append, List.mem_cons, joined, List.mem_flatMap] at hc
  rcases hc with hc | rfl | rfl | rfl | hc | ⟨s, hs, rfl | hc⟩ | hc
  · exact base.lt_toNat_of_mem_scheme c hc
  · decide
  · decide
  · decide
  · exact (base.isNormal.of_mem_text c hc).2
  · decide
  · exact lt_toNat_of_isInSegment (isInSegment_of_isSegment (base.areSegments s hs) c hc)
  · exact base.lt_toNat_of_mem_query c hc

/-- No character of a base without the slashes at its end is a blank. -/
theorem lt_toNat_of_mem_trimmed : ∀ c ∈ base.trimmed, 0x20 < c.toNat := by
  intro c hc
  rw [← toList_trimSlashes, toList_trim] at hc
  exact base.lt_toNat_of_mem_text c ((List.rdropWhile_prefix _ _).subset hc)

end Base

/-! ### Reading a path behind a base -/

/-- What is left of a text behind a slash: blanks at its end, line breaks and tabs are dropped. -/
def cleanedBehind (text : List Char) : List Char :=
  (text.rdropWhile fun c => c.toNat ≤ 0x20).filter fun c => c != '\t' && c != '\n' && c != '\r'

/-- A text without blanks in front of a slash stays. -/
theorem cleaned_append {front : List Char} (h : ∀ c ∈ front, 0x20 < c.toNat) {text : String}
    {behind : List Char} (htext : text.toList = front ++ '/' :: behind) :
    cleaned text = front ++ '/' :: cleanedBehind behind := by
  have hstays : ∀ c ∈ front ++ ['/'], 0x20 < c.toNat := by
    rw [List.forall_mem_append, List.forall_mem_singleton]
    exact ⟨h, by decide⟩
  have htext : text.toList = (front ++ ['/']) ++ behind := by simp [htext]
  have hfront : text.toList.dropWhile (fun c => c.toNat ≤ 0x20) = text.toList := by
    rw [htext]
    cases front with
    | nil => rfl
    | cons c front =>
        have hc : ¬c.toNat ≤ 0x20 := by have := h c List.mem_cons_self; omega
        simp [hc]
  have hfilter : (front ++ ['/']).filter (fun c => c != '\t' && c != '\n' && c != '\r') =
      front ++ ['/'] := by
    rw [List.filter_eq_self]
    intro c hc
    have hc := hstays c hc
    simp only [Bool.and_eq_true, bne_iff_ne]
    refine ⟨⟨?_, ?_⟩, ?_⟩ <;> rintro rfl <;> exact absurd hc (by decide)
  have hend : (text.toList.rdropWhile fun c => c.toNat ≤ 0x20) =
      (front ++ ['/']) ++ behind.rdropWhile fun c => c.toNat ≤ 0x20 := by
    rw [htext, rdropWhile_append_of_last (by simp) (by simp)]
  have hcleaned : cleaned text = ((text.toList.dropWhile fun c => c.toNat ≤ 0x20).rdropWhile
      fun c => c.toNat ≤ 0x20).filter fun c => c != '\t' && c != '\n' && c != '\r' := rfl
  rw [hcleaned, hfront, hend, List.filter_append, hfilter, cleanedBehind, List.append_assoc]
  rfl

/-- A text is cut behind a part without the separator. -/
theorem cut_append {separator : Char} {front : List Char} (h : separator ∉ front)
    (text : List Char) :
    cut separator (front ++ text) = (front ++ (cut separator text).1, (cut separator text).2) := by
  have hne : ∀ c ∈ front, (c != separator) = true := by
    intro c hc
    rw [bne_iff_ne]
    rintro rfl
    exact h hc
  rw [cut, cut, List.dropWhile_append_of_pos hne, List.takeWhile_append_of_pos hne]
  split <;> simp_all

/-- A slash at the beginning is in the part in front of a separator. -/
theorem cut_slash {separator : Char} (h : separator ≠ '/') (text : List Char) :
    cut separator ('/' :: text) = ('/' :: (cut separator text).1, (cut separator text).2) := by
  have hfront : separator ∉ ['/'] := fun hmem => h (List.mem_singleton.mp hmem)
  exact cut_append hfront text

/-- The path behind an authority begins behind its slash. -/
theorem readPath_slash (text : List Char) :
    readPath true ('/' :: text) = .segments (readSegments true text) := by
  have hslash : beforeQuery ('/' :: text) = '/' :: beforeQuery text := rfl
  have htwice : beforeQuery (beforeQuery text) = beforeQuery text := List.takeWhile_idem
  simp only [readPath, hslash, decide_true, Bool.true_or, if_true, readSegments, htwice]

section Hierarchy

variable {scheme : String} {authority : Authority}

/-- Slashes in front of an authority are dropped up to it. -/
theorem dropWhile_slashes (hnormal : authority.IsNormal scheme) (rest : List Char) :
    ('/' :: '/' :: (authority.text.toList ++ rest)).dropWhile (fun c => c = '/' || c = '\\') =
      authority.text.toList ++ rest := by
  obtain ⟨c, text, hc⟩ := List.exists_cons_of_ne_nil hnormal.text_ne_nil
  have hfirst := (hnormal.of_mem_text c (hc ▸ List.mem_cons_self)).1
  simp [endsAuthority] at hfirst
  rw [hc]
  simp [hfirst]

/-- Neither a query nor a fragment begins in an authority. -/
theorem cut_authority (hnormal : authority.IsNormal scheme) {mark : Char}
    (hmark : endsAuthority true mark = true) (hslash : mark ≠ '/') (rest : List Char) :
    cut mark ('/' :: '/' :: (authority.text.toList ++ rest)) =
      ('/' :: '/' :: (authority.text.toList ++ (cut mark rest).1), (cut mark rest).2) := by
  rw [cut_slash hslash, cut_slash hslash, cut_append (hnormal.notMem_text hmark)]

/-- **What is read behind scheme and authority**: a path, a query and a fragment. -/
theorem parse_hierarchy (hscheme : isWebScheme scheme = true)
    (hnormal : authority.IsNormal scheme) {text : String} {behind : List Char}
    (htext : cleaned text =
      scheme.toList ++ ':' :: '/' :: '/' :: (authority.text.toList ++ '/' :: behind)) :
    parse text = .ok (finish scheme (some authority) (.segments (readSegments true behind))
      (cut '?' (cut '#' ('/' :: behind)).1).2 (cut '#' ('/' :: behind)).2) := by
  have hspecial := (of_isWebScheme hscheme).1
  have hbody : readBody scheme ('/' :: '/' :: (authority.text.toList ++ '/' :: behind)) =
      .ok (some authority, .segments (readSegments true behind)) := by
    rw [readBody_of_isWebScheme hscheme, dropWhile_slashes hnormal, readHierarchy,
      readAuthority_text hspecial hnormal, hspecial]
    exact congrArg (fun path => Except.ok (some authority, path)) (readPath_slash behind)
  simp only [parse, htext, scheme?_text hscheme, hbody,
    cut_authority hnormal (show endsAuthority true '#' = true from rfl) (by decide),
    cut_authority hnormal (show endsAuthority true '?' = true from rfl) (by decide)]
  rfl

end Hierarchy

namespace Base

variable (base : Base)

/-- The URL that a text behind a slash makes of a base: the text goes on behind the path or, if
there is one, behind the query. -/
def extended (behind : List Char) : Url :=
  let (whole, fragment) := cut '#' ('/' :: behind)
  match base.query with
  | none =>
    finish base.scheme (some base.authority)
      (.segments (base.segments.rdropWhile (·.isEmpty) ++ resolveFrom [] (pieces behind)))
      (cut '?' whole).2 fragment
  | some q =>
    finish base.scheme (some base.authority) (.segments base.segments)
      (some (q.toList.rdropWhile (· = '/') ++ whole)) fragment

/-- Neither a query nor a fragment begins in front of the end of segments. -/
theorem notMem_joined {segments : List String} (h : ∀ s ∈ segments, isSegment s.toList = true)
    {mark : Char} (hmark : isInSegment mark = false) (hslash : mark ≠ '/') :
    mark ∉ joined segments := by
  intro hmem
  rw [joined, List.mem_flatMap] at hmem
  obtain ⟨s, hs, hmem⟩ := hmem
  rcases List.mem_cons.mp hmem with rfl | hmem
  · exact hslash rfl
  · rw [isInSegment_of_isSegment (h s hs) mark hmem] at hmark
    cases hmark

/-- Empty segments at the end may be missing. -/
theorem areSegments_trimmed :
    ∀ s ∈ base.segments.rdropWhile (·.isEmpty), isSegment s.toList = true :=
  fun s hs => base.areSegments s (List.rdropWhile_prefix _ _ |>.subset hs)

/-- What stands behind scheme and authority is read as a path, a query and a fragment. -/
theorem parse_behind_root {path : String} {behind tail : List Char}
    (hpath : path.toList = '/' :: behind)
    (htail : base.trimmed ++ '/' :: cleanedBehind behind = base.root ++ '/' :: tail) :
    parse (trimSlashes base.url.text ++ path) =
      .ok (finish base.scheme (some base.authority) (.segments (readSegments true tail))
        (cut '?' (cut '#' ('/' :: tail)).1).2 (cut '#' ('/' :: tail)).2) := by
  have hwritten : (trimSlashes base.url.text ++ path).toList = base.trimmed ++ '/' :: behind := by
    rw [String.toList_append, toList_trimSlashes, hpath]
  refine parse_hierarchy base.isWeb base.isNormal ?_
  rw [cleaned_append base.lt_toNat_of_mem_trimmed hwritten, htail, root]
  simp

/-- A text goes on behind the path of a base without a query. -/
theorem parse_of_none (hquery : base.query = none) {path : String} {behind : List Char}
    (hpath : path.toList = '/' :: behind) (hstays : stays (pieces (cleanedBehind behind)) = true) :
    parse (trimSlashes base.url.text ++ path) = .ok (base.extended (cleanedBehind behind)) := by
  have hsegments := base.areSegments_trimmed
  obtain ⟨tail, htail⟩ : ∃ tail, '/' :: tail =
      joined (base.segments.rdropWhile (·.isEmpty)) ++ '/' :: cleanedBehind behind := by
    cases base.segments.rdropWhile (·.isEmpty) with
    | nil => exact ⟨_, rfl⟩
    | cons s segments => exact ⟨_, rfl⟩
  have hmark : ∀ {mark : Char}, isInSegment mark = false → mark ≠ '/' →
      mark ∉ joined (base.segments.rdropWhile (·.isEmpty)) := notMem_joined hsegments
  rw [base.parse_behind_root hpath (by rw [trimmed, hquery, htail, List.append_assoc]), htail,
    cut_append (hmark (by decide) (by decide)), cut_append (hmark (by decide) (by decide)),
    readSegments_eq, pieces_joined_slash hsegments htail, resolveFrom_append hsegments,
    List.nil_append, resolveFrom_of_stays hstays, extended, hquery]

/-- A text goes on behind the query of a base that has one. -/
theorem parse_of_some {q : String} (hquery : base.query = some q) {path : String}
    {behind : List Char} (hpath : path.toList = '/' :: behind) :
    parse (trimSlashes base.url.text ++ path) = .ok (base.extended (cleanedBehind behind)) := by
  set kept := q.toList.rdropWhile (· = '/') with hkept
  obtain ⟨tail, htail⟩ : ∃ tail, '/' :: tail =
      joined base.segments ++ '?' :: (kept ++ '/' :: cleanedBehind behind) := by
    cases hs : base.segments with
    | nil => exact absurd hs base.segments_ne_nil
    | cons s segments => exact ⟨_, rfl⟩
  have hwhole : '/' :: tail =
      (joined base.segments ++ '?' :: kept) ++ '/' :: cleanedBehind behind := by
    rw [htail, List.append_assoc]
    rfl
  have hmark : ∀ {mark : Char}, isInSegment mark = false → mark ≠ '/' →
      mark ∉ joined base.segments := notMem_joined base.areSegments
  have hfront : '#' ∉ joined base.segments ++ '?' :: kept := by
    rw [List.mem_append, List.mem_cons]
    rintro (hmem | hmem | hmem)
    · exact hmark (by decide) (by decide) hmem
    · exact absurd hmem (by decide)
    · have hin := base.isQuery q hquery '#' ((List.rdropWhile_prefix _ _).subset hmem)
      exact absurd hin (by decide)
  have hsegments : resolveFrom [] (pieces tail) = base.segments := by
    rw [pieces_joined_end base.areSegments base.segments_ne_nil rfl htail, ← List.append_nil
      (base.segments.map String.toList), resolveFrom_append base.areSegments, List.nil_append,
      resolveFrom]
  have hcut : ∀ text : List Char, cut '?' ('?' :: text) = ([], some text) := fun _ => rfl
  have hroot : base.trimmed ++ '/' :: cleanedBehind behind = base.root ++ '/' :: tail := by
    rw [hwhole, trimmed, hquery]
    exact List.append_assoc ..
  rw [base.parse_behind_root hpath hroot, hwhole, cut_append hfront, List.append_assoc,
    cut_append (hmark (by decide) (by decide)), List.cons_append, hcut, readSegments_eq,
    hsegments, extended, hquery]

/-- **A path behind a base without the slashes at its end** is read as the base, extended. -/
theorem parse_trimmed {path : String} {behind : List Char} (hpath : path.toList = '/' :: behind)
    (hstays : stays (pieces (cleanedBehind behind)) = true) :
    parse (trimSlashes base.url.text ++ path) = .ok (base.extended (cleanedBehind behind)) := by
  cases hquery : base.query with
  | none => exact base.parse_of_none hquery hpath hstays
  | some q => exact base.parse_of_some hquery hpath

end Base

/-! ### Telling bases apart -/

/-- What of a URL a request is sent with: everything but the fragment. -/
def sent (url : Url) : Url := { url with fragment := none }

/-- The **target** of a URL: what of it stays recognizable where pairs are added to the query. There
no query is as good as an empty one. -/
def target (url : Url) : String × Option Authority × UrlPath × String :=
  (url.scheme, url.authority, url.path, url.query.getD "")

/-- What is left alone in the query of a special scheme. -/
theorem inQuery_of_mem_marks : ∀ c ∈ Percent.marks, Percent.inQuery true c = false :=
  List.all_iff_forall_prop.mp (by decide)

/-- The part of a text behind a separator is no longer than the text when both are encoded. -/
theorem length_encode_cut_le (text : List Char) :
    (Percent.encode (Percent.inQuery true) ((cut '?' text).2.getD [])).length ≤
      (Percent.encode (Percent.inQuery true) text).length := by
  rw [cut]
  split
  · simp [Percent.encode]
  · rename_i c behind hdrop
    obtain ⟨front, rfl⟩ : ∃ front, text = front ++ ([c] ++ behind) :=
      ⟨_, hdrop ▸ List.takeWhile_append_dropWhile.symm⟩
    rw [Percent.encode_append, Percent.encode_append]
    simp only [Option.getD_some, List.length_append]
    omega

namespace Base

variable {base first second : Base} {behind : List Char}

/-- The query of a special scheme. -/
def encodeQuery (text : List Char) : List Char := Percent.encode (Percent.inQuery true) text

/-- The target behind a base without a query. -/
theorem target_of_none (h : base.query = none) :
    (base.extended behind).target =
      (base.scheme, some base.authority,
        .segments (base.segments.rdropWhile (·.isEmpty) ++ resolveFrom [] (pieces behind)),
        String.ofList (encodeQuery
          ((cut '?' ('/' :: (cut '#' behind).1)).2.getD []))) := by
  rw [extended, cut_slash (by decide), h, encodeQuery]
  simp only [target, finish, (of_isWebScheme base.isWeb).1]
  cases (cut '?' ('/' :: (cut '#' behind).1)).2 <;> rfl

/-- The target behind a base with a query. -/
theorem target_of_some {q : String} (h : base.query = some q) :
    (base.extended behind).target =
      (base.scheme, some base.authority, .segments base.segments,
        String.ofList (q.toList.rdropWhile (· = '/') ++
          encodeQuery ('/' :: (cut '#' behind).1))) := by
  have hkept : Percent.encode (Percent.inQuery true) (q.toList.rdropWhile (· = '/')) =
      q.toList.rdropWhile (· = '/') :=
    Percent.encode_eq_self fun c hc =>
      base.isQuery q h c ((List.rdropWhile_prefix _ _).subset hc)
  rw [extended, cut_slash (by decide), h, encodeQuery]
  simp only [target, finish, (of_isWebScheme base.isWeb).1, Option.map_some, Option.getD_some,
    Percent.encode_append, hkept]

/-- A base with a query is told from one without. -/
theorem target_ne {q : String} (hfirst : first.query = none) (hsecond : second.query = some q) :
    (first.extended behind).target ≠ (second.extended behind).target := by
  intro h
  rw [target_of_none hfirst, target_of_some hsecond] at h
  have hquery := congrArg List.length
    (String.ofList_inj.mp (Prod.mk.inj (Prod.mk.inj (Prod.mk.inj h).2).2).2)
  have hlength := length_encode_cut_le (cut '#' behind).1
  have hslash : encodeQuery ('/' :: (cut '#' behind).1) =
      '/' :: encodeQuery (cut '#' behind).1 := rfl
  rw [cut_slash (by decide), hslash, List.length_append, List.length_cons] at hquery
  dsimp only [encodeQuery] at hquery
  omega

/-- **It can be told from the target what the base was**, up to the slashes at its end. -/
theorem trimmed_eq_of_target
    (h : (first.extended behind).target = (second.extended behind).target) :
    first.trimmed = second.trimmed := by
  cases hfirst : first.query with
  | none =>
      cases hsecond : second.query with
      | none =>
          rw [target_of_none hfirst, target_of_none hsecond] at h
          simp only [Prod.mk.injEq, Option.some.injEq, UrlPath.segments.injEq,
            List.append_cancel_right_eq] at h
          obtain ⟨hscheme, hauthority, hsegments, -⟩ := h
          rw [trimmed, trimmed, hfirst, hsecond, root, root, hscheme, hauthority, hsegments]
      | some q => exact absurd h (target_ne hfirst hsecond)
  | some q =>
      cases hsecond : second.query with
      | none => exact absurd h.symm (target_ne hsecond hfirst)
      | some other =>
          rw [target_of_some hfirst, target_of_some hsecond] at h
          simp only [Prod.mk.injEq, Option.some.injEq, UrlPath.segments.injEq, String.ofList_inj,
            List.append_cancel_right_eq] at h
          obtain ⟨hscheme, hauthority, hsegments, hquery⟩ := h
          rw [trimmed, trimmed, hfirst, hsecond, root, root, hscheme, hauthority, hsegments]
          simp only [hquery]

end Base

/-- A query with a text added to it. -/
def withAdded (added query : String) : String :=
  if query.isEmpty then added else query ++ "&" ++ added

/-- Pairs are added as one text, and no query is as good as an empty one. -/
theorem exists_query_appendQuery (pairs : List (String × String)) :
    ∃ added, ∀ url : Url,
      (url.appendQuery pairs).query = some (withAdded added (url.query.getD "")) := by
  let bare : Url := ⟨"", none, .segments [], none, none⟩
  refine ⟨(bare.appendQuery pairs).query.getD "", fun url => ?_⟩
  rw [appendQuery, appendQuery, withAdded]
  cases url.query <;> rfl

/-- It can be told what a text was added to. -/
theorem withAdded_injective (added : String) : Function.Injective (withAdded added) := by
  -- a text that is added to something is longer than it is alone
  have hlonger : ∀ query : String, added ≠ query ++ "&" ++ added := by
    intro query h
    have hlength := congrArg (·.toList.length) h
    simp at hlength
    omega
  intro query other h
  rw [withAdded, withAdded] at h
  split at h
  · split at h
    · simp_all
    · exact absurd h (hlonger other)
  · split at h
    · exact absurd h.symm (hlonger query)
    · simpa [← String.toList_inj] using h

/-- Pairs that are added to the query leave the target recognizable. -/
theorem target_eq_of_appendQuery {url other : Url} {pairs : List (String × String)}
    (h : (url.appendQuery pairs).sent = (other.appendQuery pairs).sent) :
    url.target = other.target := by
  obtain ⟨added, hadded⟩ := exists_query_appendQuery pairs
  simp only [sent, mk.injEq, hadded, Option.some.injEq] at h
  have hscheme : url.scheme = other.scheme := h.1
  have hauthority : url.authority = other.authority := h.2.1
  have hpath : url.path = other.path := h.2.2.1
  rw [target, target, hscheme, hauthority, hpath, withAdded_injective added h.2.2.2.1]

/-- What is sent has the target. -/
theorem target_eq_of_sent {url other : Url} (h : url.sent = other.sent) :
    url.target = other.target := by
  simp only [sent, mk.injEq] at h
  obtain ⟨hscheme, hauthority, hpath, hquery, -⟩ := h
  rw [target, target, hscheme, hauthority, hpath, hquery]

/-! ### Bases that are read -/

/-- A URL is an **endpoint** to send requests to if it has a scheme for that, no fragment, and a
host that reads back. -/
structure IsEndpoint (url : Url) : Prop where
  scheme : isWebScheme url.scheme = true
  fragment : url.fragment = none
  host : ∀ authority ∈ url.authority, authority.host.ReadsBack

/-- The path behind the authority of a special scheme has segments, and at least one. -/
theorem readPath_spec (text : List Char) :
    ∃ segments, readPath true text = .segments segments ∧ segments ≠ [] ∧
      ∀ s ∈ segments, isSegment s.toList = true := by
  unfold readPath
  split
  · exact ⟨[""], rfl, by simp, by decide⟩
  · split
    · exact ⟨_, rfl, readSegments_spec _⟩
    · exact ⟨_, rfl, readSegments_spec _⟩

/-- **An endpoint that is read is a base.** -/
theorem exists_base_of_parse {text : String} {url : Url} (h : parse text = .ok url)
    (hendpoint : url.IsEndpoint) : ∃ base : Base, base.url = url := by
  obtain ⟨hscheme, hfragment, hhost⟩ := hendpoint
  unfold parse at h
  split at h
  · cases h
  · rename_i scheme rest _
    obtain ⟨⟨authority?, path⟩, hbody, h⟩ := exists_of_bind_eq_ok h
    obtain ⟨query, fragment, rfl⟩ :
        ∃ query fragment, url = finish scheme authority? path query fragment :=
      ⟨_, _, (Except.ok.inj h).symm⟩
    change isWebScheme scheme = true at hscheme
    have hspecial := (of_isWebScheme hscheme).1
    rw [readBody_of_isWebScheme hscheme, readHierarchy] at hbody
    obtain ⟨⟨authority, behind⟩, hauthority, hbody⟩ := exists_of_bind_eq_ok hbody
    obtain ⟨rfl, rfl⟩ := Prod.mk.inj (Except.ok.inj hbody)
    obtain ⟨segments, hpath, hfilled, hsegments⟩ := readPath_spec behind
    have hquery : ∀ q ∈ (finish scheme none (.segments []) query none).query, ∀ c ∈ q.toList,
        Percent.inQuery true c = false := by
      intro q hq c hc
      obtain ⟨given, -, rfl⟩ := Option.map_eq_some_iff.mp hq
      rw [String.toList_ofList, hspecial] at hc
      exact Percent.notMem_encode inQuery_of_mem_marks hc
    refine ⟨⟨scheme, authority, segments, _, hscheme,
      isNormal_of_readAuthority hspecial hauthority (hhost authority rfl), hfilled, hsegments,
      hquery⟩, ?_⟩
    simp only [finish] at hfragment
    simp only [Base.url, finish, hspecial, hpath, hfragment]

end NodeGateway.Url
