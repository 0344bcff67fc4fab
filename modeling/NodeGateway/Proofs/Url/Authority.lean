import Mathlib.Data.Bool.AllAny
import Mathlib.Data.List.Basic
import NodeGateway.Proofs.Json.Count
import NodeGateway.Proofs.Text.Hex
import NodeGateway.Proofs.Url.Percent
import NodeGateway.Url.Reader

/-!
# Authorities Read Back

The name and password, the host and the port of a URL stand in front of the first slash behind the
two. Each has a written form that cannot be taken for more or less than it is: a name and password
are encoded down to their `@`, a host has none of the characters that end an authority, and a port
is written in digits. So an authority that was read is read again from its written form, whatever
path follows (`Url.readAuthority_text`).

That this holds of the host on its own is up to the rules for hosts: every host has one written
form, and reading it is to give the host again (`Host.ReadsBack`).
-/

namespace NodeGateway

open Url (endsAuthority)

/-- A result of two steps is one of the second step, behind a result of the first. -/
theorem exists_of_bind_eq_ok {ε α β : Type} {first : Except ε α} {second : α → Except ε β} {b : β}
    (h : first >>= second = .ok b) : ∃ a, first = .ok a ∧ second a = .ok b := by
  cases first with
  | error e => cases h
  | ok a => exact ⟨a, rfl, h⟩

/-! ### Characters of hosts -/

/-- A host **reads back** if its written form is read as this host. -/
def Host.ReadsBack (host : Host) : Prop := Host.parse host.text.toList = .ok host

instance (host : Host) : Decidable host.ReadsBack :=
  inferInstanceAs (Decidable (Host.parse host.text.toList = .ok host))

namespace Host

/-- Whether a character may stand in the written form of a host: it is no blank, does not end the
authority, and does not close a name and password. -/
def isInText (c : Char) : Bool := !endsAuthority true c && c != '@' && 0x20 < c.toNat

/-- A character of a joined text comes from the separator or from one of the parts. -/
theorem mem_intercalate {separator : List Char} {parts : List (List Char)} {c : Char}
    (h : c ∈ separator.intercalate parts) : c ∈ separator ∨ ∃ part ∈ parts, c ∈ part := by
  induction parts with
  | nil => cases h
  | cons part parts ih =>
      cases parts with
      | nil => exact .inr ⟨part, by simp, by simpa using h⟩
      | cons next parts =>
          rw [List.intercalate_cons_cons, List.mem_append, List.mem_append] at h
          rcases h with (h | h) | h
          · exact .inr ⟨part, by simp, h⟩
          · exact .inl h
          · rcases ih h with h | ⟨other, hother, h⟩
            · exact .inl h
            · exact .inr ⟨other, List.mem_cons_of_mem _ hother, h⟩

/-- An address of version 4 is written in digits and points. -/
theorem mem_ipv4 {address : Nat} :
    ∀ c ∈ (Ipv4.text address).toList, c ∈ '.' :: Hex.lowerDigits := by
  intro c hc
  rw [Ipv4.text, String.toList_intercalate, List.map_map] at hc
  rcases mem_intercalate hc with hc | ⟨_, hpart, hc⟩
  · exact List.mem_singleton.mp hc ▸ List.mem_cons_self
  · obtain ⟨shift, -, rfl⟩ := List.mem_map.mp hpart
    have hc : c ∈ Nat.toDigits 10 (address / Nat.pow 2 shift % 256) := by
      rwa [← Nat.toList_repr]
    exact List.mem_cons_of_mem _ (Hex.mem_toDigits (by decide) (by decide) c hc)

/-- Pieces of an address of version 6 are written in digits, with colons between them. -/
theorem mem_joined {pieces : List Nat} :
    ∀ c ∈ (Ipv6.joined pieces).toList, c ∈ ':' :: Hex.lowerDigits := by
  intro c hc
  rw [Ipv6.joined, String.toList_intercalate, List.map_map] at hc
  rcases mem_intercalate hc with hc | ⟨_, hpart, hc⟩
  · exact List.mem_singleton.mp hc ▸ List.mem_cons_self
  · obtain ⟨piece, -, rfl⟩ := List.mem_map.mp hpart
    rw [Function.comp_apply, String.toList_ofList] at hc
    exact List.mem_cons_of_mem _ (Hex.mem_toDigits (by decide) (by decide) c hc)

/-- An address of version 6 is written in digits and colons. -/
theorem mem_ipv6 {pieces : List Nat} :
    ∀ c ∈ (Ipv6.text pieces).toList, c ∈ ':' :: Hex.lowerDigits := by
  unfold Ipv6.text
  split
  · intro c hc
    rw [String.toList_append, String.toList_append, List.mem_append, List.mem_append] at hc
    rcases hc with (hc | hc) | hc
    · exact mem_joined c hc
    · have hcolons : ∀ c ∈ "::".toList, c ∈ ':' :: Hex.lowerDigits :=
        List.all_iff_forall_prop.mp (by decide)
      exact hcolons c hc
    · exact mem_joined c hc
  · exact mem_joined

/-- No host is read from nothing. -/
theorem ne_nil_of_parse {text : List Char} {host : Host} (h : parse text = .ok host) :
    text ≠ [] := by
  rintro rfl
  cases h

/-- A name that is read has no character that names may not have. -/
theorem isForbiddenInName_of_parse {text : List Char} {written : String}
    (h : parse text = .ok (.name written)) :
    ∀ c ∈ written.toList, isForbiddenInName c = false := by
  unfold parse at h
  split at h
  case h_1 => cases h
  case h_2 =>
    unfold parseBracketed at h
    split at h
    · split at h <;> cases h
    · cases h
  case h_3 =>
    unfold parseName at h
    split at h
    · cases h
    · split at h
      · cases h
      · split at h
        · cases h
        · split at h
          · split at h <;> cases h
          · rename_i ascii _ hallowed _ _
            obtain rfl : String.ofList ascii = written := by injection h with h; injection h
            intro c hc
            rw [String.toList_ofList] at hc
            simpa using fun hbad => hallowed (List.any_eq_true.mpr ⟨c, hc, hbad⟩)

/-- **How a host is written**: as characters of its own, or as such characters between brackets,
where colons may be among them. -/
theorem text_cases {host : Host} (h : host.ReadsBack) :
    (∀ c ∈ host.text.toList, isInText c = true ∧ c ∉ [':', '[', ']']) ∨
      ∃ body, host.text.toList = '[' :: (body ++ [']']) ∧
        ∀ c ∈ body, isInText c = true ∧ c ∉ ['[', ']'] := by
  cases host with
  | name written =>
      refine .inl fun c hc => ?_
      have hc := isForbiddenInName_of_parse h c hc
      simp [isForbiddenInName, isForbidden] at hc
      have hblank : 0x20 < c.toNat :=
        Percent.lt_toNat (by simp [Percent.inEvery, hc]) (by simp [hc])
      simp [isInText, endsAuthority, hc, hblank]
  | ipv4 address =>
      have hpoint : ∀ c ∈ '.' :: Hex.lowerDigits, isInText c = true ∧ c ∉ [':', '[', ']'] :=
        List.all_iff_forall_prop.mp (by decide)
      exact .inl fun c hc => hpoint c (mem_ipv4 c hc)
  | ipv6 pieces =>
      have hcolon : ∀ c ∈ ':' :: Hex.lowerDigits, isInText c = true ∧ c ∉ ['[', ']'] :=
        List.all_iff_forall_prop.mp (by decide)
      have htext : (Host.ipv6 pieces).text.toList =
          '[' :: ((Ipv6.text pieces).toList ++ [']']) := by
        simp [Host.text]
      exact .inr ⟨_, htext, fun c hc => hcolon c (mem_ipv6 c hc)⟩

/-- Every character of a host may stand in its written form. -/
theorem isInText_of_mem {host : Host} (h : host.ReadsBack) :
    ∀ c ∈ host.text.toList, isInText c = true := by
  rcases text_cases h with h | ⟨body, htext, h⟩
  · exact fun c hc => (h c hc).1
  · intro c hc
    rw [htext, List.mem_cons, List.mem_append, List.mem_singleton] at hc
    rcases hc with rfl | hc | rfl
    · decide
    · exact (h c hc).1
    · decide

end Host

/-! ### Authorities -/

namespace Url

open Host (isInText)

/-- What may stand in a host does not end the authority. -/
theorem endsAuthority_of_isInText {c : Char} (h : isInText c = true) :
    endsAuthority true c = false := by
  rw [isInText, Bool.and_eq_true, Bool.and_eq_true, Bool.not_eq_true'] at h
  exact h.1.1

/-- Whether a text behind a host ends it: it begins with a colon, or ends the authority. -/
def endsHost (text : List Char) : Bool :=
  text.head?.any fun c => c = ':' || endsAuthority true c

/-- Behind a host there is nothing of it. -/
theorem splitHost_of_endsHost {rest : List Char} (h : endsHost rest = true) :
    splitHost true false rest = ([], rest) := by
  cases rest with
  | nil => cases h
  | cons c rest =>
      rw [endsHost, List.head?_cons, Option.any_some] at h
      rw [splitHost, if_pos (by simpa using h)]

/-- A character of a host is split off with what is split off behind it. -/
theorem splitHost_cons {c : Char} {inBrackets : Bool} {rest : List Char} (hc : isInText c = true)
    (hcolon : c = ':' → inBrackets = true) :
    splitHost true inBrackets (c :: rest) =
      (splitHost true (if c = '[' then true else if c = ']' then false else inBrackets)
        rest).map (c :: ·) id := by
  have hstays : ((c = ':' && !inBrackets) || endsAuthority true c) = false := by
    simpa [endsAuthority_of_isInText hc] using hcolon
  rw [splitHost, hstays]
  rfl

/-- A host without brackets is split off. -/
theorem splitHost_plain {body rest : List Char}
    (h : ∀ c ∈ body, isInText c = true ∧ c ∉ [':', '[', ']']) (hrest : endsHost rest = true) :
    splitHost true false (body ++ rest) = (body, rest) := by
  induction body with
  | nil => exact splitHost_of_endsHost hrest
  | cons c body ih =>
      rw [List.forall_mem_cons] at h
      obtain ⟨⟨hc, hmarks⟩, hbody⟩ := h
      simp only [List.mem_cons, List.not_mem_nil, or_false, not_or] at hmarks
      rw [List.cons_append, splitHost_cons hc fun hcolon => absurd hcolon hmarks.1,
        if_neg hmarks.2.1, if_neg hmarks.2.2, ih hbody]
      rfl

/-- The inside of brackets is split off with what is split off behind it. -/
theorem splitHost_inside {body rest : List Char}
    (h : ∀ c ∈ body, isInText c = true ∧ c ∉ ['[', ']']) (hrest : endsHost rest = true) :
    splitHost true true (body ++ ']' :: rest) = (body ++ [']'], rest) := by
  induction body with
  | nil =>
      rw [List.nil_append, splitHost_cons (by decide) (by decide), if_neg (by decide), if_pos rfl,
        splitHost_of_endsHost hrest]
      rfl
  | cons c body ih =>
      rw [List.forall_mem_cons] at h
      obtain ⟨⟨hc, hmarks⟩, hbody⟩ := h
      simp only [List.mem_cons, List.not_mem_nil, or_false, not_or] at hmarks
      rw [List.cons_append, splitHost_cons hc fun _ => rfl, if_neg hmarks.1, if_neg hmarks.2,
        ih hbody]
      rfl

/-- **A host is split off** from what ends it. -/
theorem splitHost_text {host : Host} {rest : List Char} (h : host.ReadsBack)
    (hrest : endsHost rest = true) :
    splitHost true false (host.text.toList ++ rest) = (host.text.toList, rest) := by
  rcases Host.text_cases h with hplain | ⟨body, htext, hbody⟩
  · exact splitHost_plain hplain hrest
  · rw [htext, List.cons_append, List.append_assoc, List.singleton_append,
      splitHost_cons (by decide) (by decide), if_pos rfl, splitHost_inside hbody hrest]
    rfl

/-! ### Ports -/

/-- The written form of a port. -/
def portText : Option Nat → List Char
  | some n => ':' :: (toString n).toList
  | none => []

/-- Whether a port may stand in a URL with the scheme: it is one of 16 bits, and not the one that
goes with the scheme. -/
def isPort (scheme : String) (port : Option Nat) : Bool :=
  port.all fun n => n < 65536 && some n != defaultPort? scheme

/-- **A port is read** from its written form. -/
theorem readPort_text {scheme : String} {port : Option Nat} {rest : List Char}
    (h : isPort scheme port = true) :
    readPort scheme (portText port ++ '/' :: rest) = .ok (port, '/' :: rest) := by
  cases port with
  | none => rfl
  | some n =>
      rw [isPort, Option.all_some, Bool.and_eq_true, decide_eq_true_eq, bne_iff_ne] at h
      have hdigits : ∀ c ∈ (toString n).toList, Numeral.isDigit c = true := by
        intro c hc
        have hc : c.isDigit = true :=
          Nat.isDigit_of_mem_toDigits (by decide) (by decide) (Nat.toList_repr ▸ hc)
        rw [Numeral.isDigit, Numeral.digitValue?_of_isDigit hc]
        rfl
      have hfilled : (toString n).toList.isEmpty = false := by
        have hne := Nat.toDigits_ne_nil (n := n) (b := 10)
        rw [show (toString n).toList = Nat.toDigits 10 n from Nat.toList_repr]
        simp [hne]
      have htake : ((toString n).toList ++ '/' :: rest).takeWhile Numeral.isDigit =
          (toString n).toList := by
        rw [List.takeWhile_append_of_pos hdigits]
        simp [show Numeral.isDigit '/' = false from rfl]
      rw [portText, List.cons_append, readPort]
      simp only [htake, List.drop_left, hfilled, Numeral.natural?_toString]
      simp [h.1, h.2, show endsAuthority true '/' = true from rfl, Option.filter]

/-! ### Names and passwords -/

/-- The sign and the digits of encoded bytes may stand in a name and a password. -/
theorem inUserinfo_of_mem_marks : ∀ c ∈ Percent.marks, Percent.inUserinfo c = false :=
  List.all_iff_forall_prop.mp (by decide)

/-- What is left alone in a name or a password does not end it, and is no colon. -/
theorem isInText_of_not_inUserinfo {c : Char} (h : Percent.inUserinfo c = false) :
    isInText c = true ∧ (c != ':') = true := by
  simp [Percent.inUserinfo, Percent.inPath, Percent.inFragment] at h
  have hblank : 0x20 < c.toNat := Percent.lt_toNat (by simp [h]) (by simp [h])
  simp [isInText, endsAuthority, h, hblank]

/-- An encoded name or password is left alone, does not end the name and password, and has no
colon. -/
theorem encode_userinfo (text : List Char) :
    ∀ c ∈ Percent.encode Percent.inUserinfo text, isInText c = true ∧ (c != ':') = true :=
  fun _ hc => isInText_of_not_inUserinfo (Percent.notMem_encode inUserinfo_of_mem_marks hc)

/-- A name and a password as they are shown: behind the colon is the password, and there is no colon
without one. -/
def shown (name password : List Char) : List Char :=
  name ++ (if password.isEmpty then [] else ':' :: password)

variable {name : List Char}

/-- In front of the colon stands the name. -/
theorem takeWhile_shown (h : ∀ c ∈ name, (c != ':') = true) (password : List Char) :
    (shown name password).takeWhile (· != ':') = name := by
  rw [shown, List.takeWhile_append_of_pos h]
  by_cases hnone : password.isEmpty <;> simp [hnone]

/-- Behind the colon stands the password. -/
theorem dropWhile_shown (h : ∀ c ∈ name, (c != ':') = true) (password : List Char) :
    ((shown name password).dropWhile (· != ':')).drop 1 = password := by
  rw [shown, List.dropWhile_append_of_pos h]
  by_cases hnone : password.isEmpty
  · simp [List.isEmpty_iff.mp hnone]
  · simp [hnone]

/-- A name and a password that do not end themselves do not do so together. -/
theorem isInText_of_mem_shown {password : List Char} (hname : ∀ c ∈ name, isInText c = true)
    (hpassword : ∀ c ∈ password, isInText c = true) :
    ∀ c ∈ shown name password, isInText c = true := by
  intro c hc
  rcases List.mem_append.mp hc with hc | hc
  · exact hname c hc
  · split at hc
    · cases hc
    · rcases List.mem_cons.mp hc with rfl | hc
      · decide
      · exact hpassword c hc

/-- **A name and a password** are written as nothing, or as a text that is encoded as itself in
front of an `@`. -/
theorem encodeUserinfo_cases (text : List Char) :
    encodeUserinfo text = "" ∨
      ∃ written, written ≠ [] ∧ (encodeUserinfo text).toList = written ++ ['@'] ∧
        encodeUserinfo written = encodeUserinfo text ∧ ∀ c ∈ written, isInText c = true := by
  have hname := encode_userinfo (text.takeWhile (· != ':'))
  have hpassword := encode_userinfo ((text.dropWhile (· != ':')).drop 1)
  have htake := takeWhile_shown (fun c hc => (hname c hc).2)
    (Percent.encode Percent.inUserinfo ((text.dropWhile (· != ':')).drop 1))
  have hdrop := dropWhile_shown (fun c hc => (hname c hc).2)
    (Percent.encode Percent.inUserinfo ((text.dropWhile (· != ':')).drop 1))
  have hchars := isInText_of_mem_shown (fun c hc => (hname c hc).1) fun c hc => (hpassword c hc).1
  set written := shown (Percent.encode Percent.inUserinfo (text.takeWhile (· != ':')))
    (Percent.encode Percent.inUserinfo ((text.dropWhile (· != ':')).drop 1)) with hwritten
  have hencoded : encodeUserinfo text =
      String.ofList (if written.isEmpty then [] else written ++ ['@']) := rfl
  by_cases hempty : written.isEmpty = true
  · exact .inl (by rw [hencoded, if_pos hempty, String.ofList_nil])
  · refine .inr ⟨written, by simpa using hempty, ?_, ?_, hchars⟩
    · rw [hencoded, if_neg hempty, String.toList_ofList]
    · rw [hencoded, encodeUserinfo, htake, hdrop, Percent.encode_encode inUserinfo_of_mem_marks,
        Percent.encode_encode inUserinfo_of_mem_marks, hwritten, shown]

/-- A text without an `@` is not split. -/
theorem splitLastAt_none {text : List Char} (h : '@' ∉ text) : splitLastAt text = none := by
  have hdrop : text.reverse.dropWhile (· != '@') = [] := by
    rw [List.dropWhile_eq_nil_iff]
    intro c hc
    rw [bne_iff_ne]
    rintro rfl
    exact h (List.mem_reverse.mp hc)
  rw [splitLastAt, hdrop]

/-- A text is split at an `@` behind which there is none. -/
theorem splitLastAt_append {before behind : List Char} (h : '@' ∉ behind) :
    splitLastAt (before ++ '@' :: behind) = some (before, behind) := by
  have hreverse : (before ++ '@' :: behind).reverse = behind.reverse ++ '@' :: before.reverse := by
    simp
  have hbehind : ∀ c ∈ behind.reverse, (c != '@') = true := by
    intro c hc
    rw [bne_iff_ne]
    rintro rfl
    exact h (List.mem_reverse.mp hc)
  rw [splitLastAt, hreverse, List.dropWhile_append_of_pos hbehind,
    List.takeWhile_append_of_pos hbehind]
  simp

/-- **A name and a password are read** from their written form, in front of a host that has no `@`.
-/
theorem readUserinfo_text {written : List Char} (text rest : List Char)
    (h : ∀ c ∈ written, isInText c = true) :
    readUserinfo true ((encodeUserinfo text).toList ++ (written ++ '/' :: rest)) =
      .ok (encodeUserinfo text, written ++ '/' :: rest) := by
  have hat : '@' ∉ written := fun hmem => absurd (h '@' hmem) (by decide)
  have hinside : ∀ c, isInText c = true → (!endsAuthority true c) = true := by
    intro c hc
    rw [endsAuthority_of_isInText hc]
    rfl
  have hslash : ('/' :: rest).takeWhile (fun c => !endsAuthority true c) = [] := rfl
  have htake : (written ++ '/' :: rest).takeWhile (fun c => !endsAuthority true c) = written := by
    rw [List.takeWhile_append_of_pos fun c hc => hinside c (h c hc), hslash, List.append_nil]
  rcases encodeUserinfo_cases text with hnone | ⟨shown, hfilled, hshown, hsame, hchars⟩
  · rw [hnone, String.toList_empty, List.nil_append, readUserinfo, htake, splitLastAt_none hat]
  · have hall : ((encodeUserinfo text).toList ++ (written ++ '/' :: rest)).takeWhile
        (fun c => !endsAuthority true c) = shown ++ '@' :: written := by
      have hfront : ∀ c ∈ shown ++ ['@'], (!endsAuthority true c) = true := by
        intro c hc
        rcases List.mem_append.mp hc with hc | hc
        · exact hinside c (hchars c hc)
        · obtain rfl := List.mem_singleton.mp hc
          rfl
      rw [hshown, List.takeWhile_append_of_pos hfront, htake, List.append_assoc,
        List.singleton_append]
    rw [readUserinfo, hall, splitLastAt_append hat, hshown]
    simp [hfilled, hsame]

end Url

/-! ### Reading an authority back -/

namespace Authority

/-- An authority is in the form that reading gives it: its host reads back, its name and password
are encoded, and its port is not the one that goes with the scheme. -/
structure IsNormal (scheme : String) (authority : Authority) : Prop where
  userinfo : ∃ text, authority.userinfo = Url.encodeUserinfo text
  host : authority.host.ReadsBack
  port : Url.isPort scheme authority.port = true

/-- The written form of an authority, part by part. -/
theorem toList_text (authority : Authority) :
    authority.text.toList =
      authority.userinfo.toList ++ (authority.host.text.toList ++ Url.portText authority.port) := by
  obtain ⟨userinfo, host, port⟩ := authority
  cases port <;> simp [text, Url.portText]

end Authority

namespace Url

variable {scheme : String} {authority : Authority}

/-- A port is written with characters that may stand in a host. -/
theorem isInText_portText (port : Option Nat) : ∀ c ∈ portText port, Host.isInText c = true := by
  cases port with
  | none => simp [portText]
  | some n =>
      have hall : ∀ c ∈ ':' :: Hex.lowerDigits, Host.isInText c = true :=
        List.all_iff_forall_prop.mp (by decide)
      intro c hc
      rcases List.mem_cons.mp hc with rfl | hc
      · decide
      · have hdigit := Hex.mem_toDigits (by decide) (by decide) c (Nat.toList_repr ▸ hc)
        exact hall c (List.mem_cons_of_mem _ hdigit)

/-- **An authority is read back** from its written form in front of a path. -/
theorem readAuthority_text (hscheme : isSpecial scheme = true) (h : authority.IsNormal scheme)
    (rest : List Char) :
    readAuthority scheme (authority.text.toList ++ '/' :: rest) = .ok (authority, '/' :: rest) := by
  obtain ⟨⟨text, huserinfo⟩, hhost, hport⟩ := h
  have hchars : ∀ c ∈ authority.host.text.toList ++ portText authority.port,
      Host.isInText c = true := by
    intro c hc
    rcases List.mem_append.mp hc with hc | hc
    · exact Host.isInText_of_mem hhost c hc
    · exact isInText_portText _ c hc
  have hends : endsHost (portText authority.port ++ '/' :: rest) = true := by
    cases authority.port <;> rfl
  have hread := readUserinfo_text text rest hchars
  rw [← huserinfo, ← List.append_assoc, ← authority.toList_text] at hread
  have hhostRead : Host.parse authority.host.text.toList = .ok authority.host := hhost
  have hnamed : authority.host ≠ .name "" := by
    intro hname
    rw [hname] at hhostRead
    exact Host.ne_nil_of_parse hhostRead rfl
  simp only [readAuthority, hscheme, hread, List.append_assoc, splitHost_text hhost hends,
    hhostRead, readPort_text hport, if_true, bind, Except.bind]
  simp [hnamed]
  rfl

/-- What is read as a name and a password is encoded. -/
theorem exists_of_readUserinfo {special : Bool} {text rest : List Char} {userinfo : String}
    (h : readUserinfo special text = .ok (userinfo, rest)) :
    ∃ shown, userinfo = encodeUserinfo shown := by
  unfold readUserinfo at h
  split at h
  · obtain ⟨rfl, -⟩ := Prod.mk.inj (Except.ok.inj h)
    exact ⟨[], rfl⟩
  · dsimp only at h
    split at h
    · cases h
    · obtain ⟨rfl, -⟩ := Prod.mk.inj (Except.ok.inj h)
      exact ⟨_, rfl⟩

/-- What is read as a port may stand in a URL. -/
theorem isPort_of_readPort {text rest : List Char} {port : Option Nat}
    (h : readPort scheme text = .ok (port, rest)) : isPort scheme port = true := by
  unfold readPort at h
  split at h
  · dsimp only at h
    split at h
    · cases h
    · split at h
      · obtain ⟨rfl, -⟩ := Prod.mk.inj (Except.ok.inj h)
        rfl
      · split at h
        · rename_i n hn
          obtain ⟨rfl, -⟩ := Prod.mk.inj (Except.ok.inj h)
          have hsmall := (Option.filter_eq_some_iff.mp hn).2
          by_cases hdefault : some n = defaultPort? scheme
          · rw [if_pos hdefault]
            rfl
          · rw [if_neg hdefault]
            simpa [isPort, hdefault] using hsmall
        · cases h
  · obtain ⟨rfl, -⟩ := Prod.mk.inj (Except.ok.inj h)
    rfl

/-- **What is read as an authority** is in normal form, if its host reads back. -/
theorem isNormal_of_readAuthority {text rest : List Char} (hscheme : isSpecial scheme = true)
    (h : readAuthority scheme text = .ok (authority, rest)) (hhost : authority.host.ReadsBack) :
    authority.IsNormal scheme := by
  obtain ⟨⟨userinfo, behind⟩, huserinfo, h⟩ := exists_of_bind_eq_ok h
  dsimp only at h
  rw [if_pos hscheme] at h
  obtain ⟨host, -, h⟩ := exists_of_bind_eq_ok h
  split at h
  · cases h
  · obtain ⟨⟨port, last⟩, hport, h⟩ := exists_of_bind_eq_ok h
    obtain ⟨rfl, rfl⟩ := Prod.mk.inj (Except.ok.inj h)
    exact ⟨exists_of_readUserinfo huserinfo, hhost, isPort_of_readPort hport⟩

end Url

namespace Authority.IsNormal

open Url (endsAuthority)

variable {scheme : String} {authority : Authority}

/-- A host is written with at least one character, and with it the authority. -/
theorem text_ne_nil (h : authority.IsNormal scheme) : authority.text.toList ≠ [] := by
  have hhost : authority.host.text.toList ≠ [] := Host.ne_nil_of_parse h.host
  rw [authority.toList_text]
  simp [hhost]

/-- No character of an authority ends it or is a blank. -/
theorem of_mem_text (h : authority.IsNormal scheme) :
    ∀ c ∈ authority.text.toList, endsAuthority true c = false ∧ 0x20 < c.toNat := by
  have hplain : ∀ c, Host.isInText c = true → endsAuthority true c = false ∧ 0x20 < c.toNat := by
    intro c hc
    refine ⟨Url.endsAuthority_of_isInText hc, ?_⟩
    simp only [Host.isInText, Bool.and_eq_true, decide_eq_true_eq] at hc
    exact hc.2
  intro c hc
  rw [authority.toList_text, List.mem_append, List.mem_append] at hc
  rcases hc with hc | hc | hc
  · obtain ⟨text, htext⟩ := h.userinfo
    rw [htext] at hc
    rcases Url.encodeUserinfo_cases text with hnone | ⟨shown, -, hshown, -, hchars⟩
    · rw [hnone] at hc
      cases hc
    · rw [hshown, List.mem_append, List.mem_singleton] at hc
      rcases hc with hc | rfl
      · exact hplain c (hchars c hc)
      · decide
  · exact hplain c (Host.isInText_of_mem h.host c hc)
  · exact hplain c (Url.isInText_portText _ c hc)

/-- What ends an authority is not in it. -/
theorem notMem_text (h : authority.IsNormal scheme) {mark : Char}
    (hmark : endsAuthority true mark = true) : mark ∉ authority.text.toList := by
  intro hmem
  rw [(h.of_mem_text mark hmem).1] at hmark
  cases hmark

end Authority.IsNormal

end NodeGateway
