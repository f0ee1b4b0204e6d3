import CrankerRouter.Http.RequestHead
import CrankerRouter.Http.Response

/-!
# Writing a header block and reading it again

The writer prints one line for each value and one for all cookies together, the reader splits the
text at its newlines and every line at its first colon.  The block is followed as a list of lines:
what the writer prints is their text, and what the reader finds are the lines again.
-/

namespace CrankerRouter.Http

open Lib

private theorem lower_cookie : "cookie".toList.map Char.toLower = "cookie".toList := by decide

def HeaderName.cookie : HeaderName := ⟨"cookie", lower_cookie⟩

/-- The name is a token, as those of `http::HeaderName` are, and on neither of the lists that are held
back; the value is text that `trim` leaves as it is. -/
def printable (header : HeaderName × HeaderValue) : Bool :=
  isHeaderName header.1.text && !held header.1 && header.2.toStr.any fun s => trim s == s

def HeaderMap.Printable (hdr : HeaderMap) : Prop := ∀ header ∈ hdr.iter, printable header

def HeaderValue.texts (vs : List HeaderValue) : List String := vs.filterMap HeaderValue.toStr

/-- The cookies as they arrive: joined, without the blank that an empty last one leaves. -/
def cookieText (cookies : List String) : String :=
  if 1 < cookies.length ∧ cookies.getLast? = some "" then
    String.ofList ("; ".intercalate cookies).toList.dropLast
  else "; ".intercalate cookies

section Values

private theorem HeaderValue.bytes_of_toStr {v : HeaderValue} {s : String} (h : v.toStr = some s) :
    v.bytes = utf8 s := by
  have hchar : ∀ n < 256, (Char.ofNat n).toNat = n := by decide +kernel
  have hback : ∀ b ∈ v.bytes, UInt8.ofNat (Char.ofNat b.toNat).toNat = b := by
    intro b _
    rw [hchar b.toNat b.toNat_lt, UInt8.ofNat_toNat]
  rw [utf8_of_isTextChar (isTextChar_of_toStr h)]
  unfold toStr at h
  split_ifs at h
  rw [← Option.some.inj h, String.toList_ofList, List.map_map]
  exact ((List.map_congr_left hback).trans (List.map_id _)).symm

private theorem HeaderValue.parse_of_toStr {v : HeaderValue} {s : String} (h : v.toStr = some s) :
    HeaderValue.parse s = some v := by
  obtain ⟨w, hparse, hbytes⟩ := parse_of_isTextChar (isTextChar_of_toStr h)
  obtain ⟨bytes, hvalid⟩ := w
  obtain rfl : bytes = v.bytes := hbytes.trans (bytes_of_toStr h).symm
  exact hparse

theorem HeaderValue.toStr_of_parse {s : String} (h : ∀ c ∈ s.toList, isTextChar c) :
    ∃ v, HeaderValue.parse s = some v ∧ v.toStr = some s := by
  obtain ⟨v, hparse, hbytes⟩ := parse_of_isTextChar h
  have hbyte : ∀ c ∈ s.toList,
      isVisibleAscii (UInt8.ofNat c.toNat) ∧ Char.ofNat (UInt8.ofNat c.toNat).toNat = c := by
    intro c hc
    exact ascii_forall (P := fun c => isTextChar c → isVisibleAscii (UInt8.ofNat c.toNat) ∧
        Char.ofNat (UInt8.ofNat c.toNat).toNat = c)
      (by decide +kernel) (toNat_lt_of_isTextChar (h c hc)) (h c hc)
  have hchars : v.bytes = s.toList.map fun c => UInt8.ofNat c.toNat := by
    rw [hbytes, utf8_of_isTextChar h]
  have hvisible : v.bytes.all isVisibleAscii := by
    rw [hchars, List.all_map, List.all_eq_true]
    exact fun c hc => (hbyte c hc).1
  have hback : v.bytes.map (fun b => Char.ofNat b.toNat) = s.toList := by
    rw [hchars, List.map_map]
    exact (List.map_congr_left fun c hc => (hbyte c hc).2).trans (List.map_id _)
  exact ⟨v, hparse, by rw [toStr, if_pos hvisible, hback, String.ofList_toList]⟩

private theorem dropWhile_eq_self_iff_head {p : Char → Bool} {cs : List Char} :
    cs.dropWhile p = cs ↔ ∀ c, cs.head? = some c → p c = false := by
  cases cs with
  | nil => simp
  | cons c cs => simp [List.dropWhile_eq_self_iff]

private theorem rdropWhile_eq_self_iff_last {p : Char → Bool} {cs : List Char} :
    cs.rdropWhile p = cs ↔ ∀ c, cs.getLast? = some c → p c = false := by
  rw [List.rdropWhile_eq_self_iff]
  constructor
  · intro h c hc
    have hne : cs ≠ [] := by
      rintro rfl
      cases hc
    rw [List.getLast?_eq_some_getLast hne] at hc
    rw [← Option.some.inj hc]
    simpa using h hne
  · intro h hne
    simp [h _ (List.getLast?_eq_some_getLast hne)]

private theorem trim_eq_self_iff (s : String) :
    trim s = s ↔ (∀ c, s.toList.head? = some c → isWhitespace c = false) ∧
      ∀ c, s.toList.getLast? = some c → isWhitespace c = false := by
  have htrim : trim s = s ↔
      (s.toList.dropWhile isWhitespace).rdropWhile isWhitespace = s.toList := by
    rw [trim, ← String.toList_inj, String.toList_ofList]
  rw [htrim, ← dropWhile_eq_self_iff_head, ← rdropWhile_eq_self_iff_last]
  constructor
  · intro h
    have hle : s.toList.length ≤ (s.toList.dropWhile isWhitespace).length := by
      have hlength := (List.rdropWhile_prefix isWhitespace
        (l := s.toList.dropWhile isWhitespace)).length_le
      rwa [h] at hlength
    have hall : s.toList.dropWhile isWhitespace = s.toList :=
      (List.dropWhile_suffix isWhitespace).eq_of_length_le hle
    exact ⟨hall, by rwa [hall] at h⟩
  · rintro ⟨hhead, hlast⟩
    rw [hhead, hlast]

end Values

section StatusLine

private theorem digitsToU16_append {acc n : Nat} {cs : List Char} (h : digitsToU16 acc cs = .ok n)
    (c : Char) : digitsToU16 acc (cs ++ [c]) = digitsToU16 n [c] := by
  induction cs generalizing acc with
  | nil =>
      obtain rfl : acc = n := by simpa [digitsToU16] using h
      rfl
  | cons d cs ih =>
      unfold digitsToU16 at h
      split_ifs at h with hdigit hsmall
      rw [List.cons_append, digitsToU16, if_pos hdigit, if_pos hsmall]
      exact ih h

private theorem digitsToU16_toDigits {n : Nat} (h : n < 2 ^ 16) :
    digitsToU16 0 (Nat.toDigits 10 n) = .ok n := by
  have hlast : ∀ m d, d < 10 → 10 * m + d < 2 ^ 16 →
      digitsToU16 m [Nat.digitChar d] = .ok (10 * m + d) := by
    intro m d hd hsmall
    have hval : (Nat.digitChar d).toNat - '0'.toNat = d := by
      rw [Nat.toNat_digitChar_of_lt_ten hd]
      exact Nat.add_sub_cancel_left 48 d
    rw [digitsToU16, Nat.isDigit_digitChar, hval, if_pos (by simpa using hd), if_pos hsmall]
    rfl
  induction n using Nat.strong_induction_on with
  | _ n ih =>
      rw [Nat.toDigits_eq_if (by decide)]
      split_ifs with hone
      · simpa using hlast 0 n hone (by omega)
      · rw [digitsToU16_append (ih (n / 10) (by omega) (by omega)),
          hlast (n / 10) (n % 10) (by omega) (by omega), Nat.div_add_mod]

private theorem notMem_toString {c : Char} (hc : c.isDigit = false) (n : Nat) :
    c ∉ (toString n).toList := by
  have hchars : (toString n).toList = Nat.toDigits 10 n := Nat.toList_repr
  intro hmem
  rw [hchars] at hmem
  have hdigit := Nat.isDigit_of_mem_toDigits (by decide) (by decide) hmem
  rw [hc] at hdigit
  cases hdigit

private theorem u16FromStr_toString {n : Nat} (h : n < 2 ^ 16) : u16FromStr
    (toString n) = .ok n := by
  have hdigits : digitsToU16 0 (toString n).toList = .ok n := by
    rw [show (toString n).toList = Nat.toDigits 10 n from Nat.toList_repr]
    exact digitsToU16_toDigits h
  have hplus : '+' ∉ (toString n).toList := notMem_toString (by decide) n
  unfold u16FromStr
  split
  · rename_i hnil
    simp at hnil
  · rename_i hone
    rw [hone] at hplus
    simp at hplus
  · rename_i hmore
    rw [hmore] at hplus
    simp at hplus
  · exact hdigits

def statusLine (n : Nat) : String := "HTTP/1.1 " ++ toString n ++ " OK"

private theorem toList_statusLine (n : Nat) : (statusLine n).toList =
    "HTTP/1.1".toList ++ ' ' :: ((toString n).toList ++ ' ' :: "OK".toList) := by
  simp [statusLine]

private theorem splitAt_statusLine (n : Nat) :
    splitAt ' ' (statusLine n) = ["HTTP/1.1", toString n, "OK"] := by
  have hok : "OK".toList.splitOn ' ' = ["OK".toList] := by decide
  rw [splitAt, toList_statusLine, splitOn_append_cons (by decide),
    splitOn_append_cons (notMem_toString (by decide) n), hok]
  simp only [List.map_cons, List.map_nil, String.ofList_toList]

private theorem newline_notMem_statusLine (n : Nat) : '\n' ∉ (statusLine n).toList := by
  have hdigits : '\n' ∉ (toString n).toList := notMem_toString (by decide) n
  rw [toList_statusLine]
  simp only [List.mem_append, List.mem_cons, hdigits, false_or, not_or]
  decide

end StatusLine

section Lines

/-- The line of one value. -/
def headerLine (k : HeaderName) (s : String) : String := k.text ++ ":" ++ s

/-- The lines of a header map: one for each value that is no cookie, and one for the cookies. -/
def HeaderMap.lines (hdr : HeaderMap) : List String :=
  ((hdr.iter.filter fun e => e.1 ≠ .cookie).filterMap fun e => e.2.toStr.map (headerLine e.1)) ++
    if (HeaderValue.texts (hdr.getAll .cookie)).isEmpty then []
    else [headerLine .cookie ("; ".intercalate (HeaderValue.texts (hdr.getAll .cookie)))]

private theorem eqIgnoreAsciiCase_cookie (k : HeaderName) :
    eqIgnoreAsciiCase k.text "cookie" = decide (k = .cookie) := by
  obtain ⟨text, lower⟩ := k
  have hcookie : "cookie".toList.map Char.toLower = "cookie".toList := by decide
  rw [eqIgnoreAsciiCase, lower, hcookie]
  simp only [HeaderName.cookie, HeaderName.mk.injEq, ← String.toList_inj]
  rw [Bool.eq_iff_iff, beq_iff_eq, decide_eq_true_iff]

private theorem HeaderMap.flatMap_getAll (hdr : HeaderMap) :
    (hdr.keys.flatMap fun k => (hdr.getAll k).map fun v => (k, v)) = hdr.iter := by
  have hbucket : ∀ e ∈ hdr.entries, hdr.getAll e.1 = Bucket.values e.2 := by
    intro e he
    rw [getAll, Assoc.lookup_of_mem hdr.nodup he]
  rw [keys, List.flatMap_map, iter]
  apply List.flatMap_congr
  intro e he
  rw [hbucket e he]

private theorem foldl_add (headers : List (HeaderName × HeaderValue)) (block : HeaderBlock) :
    (headers.foldl HeaderBlock.add block).headersStr.toList = block.headersStr.toList ++
        (((headers.filter fun e => e.1 ≠ .cookie).filterMap fun e =>
          e.2.toStr.map (headerLine e.1)).flatMap fun line => line.toList ++ ['\n']) ∧
      (headers.foldl HeaderBlock.add block).cookieList = block.cookieList ++
        HeaderValue.texts (valuesOf .cookie headers) := by
  induction headers generalizing block with
  | nil => simp [valuesOf, HeaderValue.texts]
  | cons header headers ih =>
      obtain ⟨k, v⟩ := header
      obtain ⟨hstr, hcookies⟩ := ih (block.add (k, v))
      rw [List.foldl_cons, hstr, hcookies]
      unfold HeaderBlock.add
      cases htext : v.toStr with
      | none =>
          by_cases hk : k = .cookie
          · simp [hk, valuesOf, HeaderValue.texts, htext]
          · simp [hk, valuesOf, HeaderValue.texts, htext]
      | some s =>
          by_cases hk : k = .cookie
          · simp [hk, valuesOf, HeaderValue.texts, htext, eqIgnoreAsciiCase_cookie]
          · simp [hk, valuesOf, HeaderValue.texts, htext, eqIgnoreAsciiCase_cookie, headerLine]

private theorem toList_buildHeaderStr (hdr : HeaderMap) :
    (buildHeaderStr hdr).toList = hdr.lines.flatMap fun line => line.toList ++ ['\n'] := by
  obtain ⟨hstr, hcookies⟩ := foldl_add hdr.iter ⟨"", []⟩
  have hvalues : valuesOf .cookie hdr.iter = hdr.getAll .cookie := hdr.iter_values .cookie
  rw [hvalues, List.nil_append] at hcookies
  rw [String.toList_empty, List.nil_append] at hstr
  unfold buildHeaderStr HeaderMap.lines
  simp only [HeaderMap.flatMap_getAll, hcookies]
  split_ifs
  · rw [hstr, List.append_nil]
  · rw [String.toList_append, hstr, List.flatMap_append]
    simp [headerLine, HeaderName.cookie]

private theorem isTChar_of_isHeaderName {k : String} (h : isHeaderName k) :
    ∀ c ∈ k.toList, isTChar c := by
  rw [isHeaderName, Bool.and_eq_true, List.all_eq_true] at h
  exact h.2

private theorem isTChar_apart {c : Char} (h : isTChar c) :
    c ≠ ':' ∧ c ≠ '\n' ∧ isWhitespace c = false :=
  ascii_forall (P := fun c => isTChar c → c ≠ ':' ∧ c ≠ '\n' ∧ isWhitespace c = false)
    (by decide +kernel) (toNat_lt_of_isTChar h) h

private theorem splitAtColon_headerLine {k : HeaderName} (h : isHeaderName k.text) (s : String) :
    splitAtColon (headerLine k s) = some (k.text, s) := by
  have hname : ∀ c ∈ k.text.toList, (decide (c ≠ ':')) = true := by
    intro c hc
    simpa using (isTChar_apart (isTChar_of_isHeaderName h c hc)).1
  have hchars : (headerLine k s).toList = k.text.toList ++ ':' :: s.toList := by simp [headerLine]
  rw [splitAtColon, hchars, List.span_eq_takeWhile_dropWhile,
    List.takeWhile_append_of_pos hname, List.dropWhile_append_of_pos hname]
  simp

private theorem field_headerLine {k : HeaderName} (h : isHeaderName k.text) {s : String}
    {v : HeaderValue}
    (hv : HeaderValue.parse (trim s) = some v) : field (headerLine k s) = some (k, v) := by
  have htrim : trim k.text = k.text := by
    have hplain : ∀ c ∈ k.text.toList, isWhitespace c = false := fun c hc =>
      (isTChar_apart (isTChar_of_isHeaderName h c hc)).2.2
    rw [trim_eq_self_iff]
    exact ⟨fun c hc => hplain c (List.mem_of_mem_head? hc),
      fun c hc => hplain c (List.mem_of_mem_getLast? hc)⟩
  have hname : HeaderName.parse k.text = some k := by
    obtain ⟨text, lower⟩ := k
    rw [HeaderName.parse, dif_pos h, Option.some.injEq, HeaderName.mk.injEq]
    exact toLowercase_headerName ⟨text, lower⟩
  rw [field, splitAtColon_headerLine h]
  simp only [htrim, hname, hv]

end Lines

section Cookies

variable {cookies : List String}

private theorem toList_joined_cons (t u : String) (ts : List String) :
    ("; ".intercalate (t :: u :: ts)).toList =
      t.toList ++ ';' :: ' ' :: ("; ".intercalate (u :: ts)).toList := by
  simp [String.intercalate_cons_cons]

private theorem head_joined (h : ∀ t ∈ cookies, trim t = t) (c : Char)
    (hc : ("; ".intercalate cookies).toList.head? = some c) : isWhitespace c = false := by
  cases cookies with
  | nil => simp at hc
  | cons t ts =>
      have ht := ((trim_eq_self_iff t).mp (h t (by simp))).1
      rw [toList_intercalate] at hc
      cases htext : t.toList with
      | cons d ds =>
          rw [htext] at ht hc
          exact ht c hc
      | nil =>
          -- a first cookie that is empty leaves the semicolon in front
          cases ts with
          | nil => simp [htext] at hc
          | cons u ts =>
              obtain rfl : c = ';' := by simpa [htext, eq_comm] using hc
              decide

private theorem last_joined (h : ∀ t ∈ cookies, trim t = t)
    (hlast : ¬(1 < cookies.length ∧ cookies.getLast? = some "")) (c : Char)
    (hc : ("; ".intercalate cookies).toList.getLast? = some c) : isWhitespace c = false := by
  induction cookies with
  | nil => simp at hc
  | cons t ts ih =>
      cases ts with
      | nil =>
          have ht := ((trim_eq_self_iff t).mp (h t (by simp))).2
          exact ht c (by simpa using hc)
      | cons u ts =>
          rw [toList_joined_cons] at hc
          have hne : ("; ".intercalate (u :: ts)).toList ≠ [] := by
            intro hnil
            rw [toList_intercalate, List.append_eq_nil_iff, List.flatMap_eq_nil_iff] at hnil
            obtain rfl : u = "" := String.toList_eq_nil_iff.mp hnil.1
            cases ts with
            | nil => exact hlast ⟨by simp, by simp⟩
            | cons w ts => simpa using hnil.2 w (by simp)
          have hrest : ¬(1 < (u :: ts).length ∧ (u :: ts).getLast? = some "") := by
            rintro ⟨-, hempty⟩
            exact hlast ⟨by simp, by simpa [List.getLast?_cons_cons] using hempty⟩
          apply ih (fun w hw => h w (List.mem_cons_of_mem t hw)) hrest
          rwa [List.append_cons, List.append_cons, List.getLast?_append_of_ne_nil _ hne] at hc

private theorem joined_of_last_empty (hmany : 1 < cookies.length)
    (hlast : cookies.getLast? = some "") :
    ∃ text, ("; ".intercalate cookies).toList = text ++ [';', ' '] := by
  induction cookies with
  | nil => simp at hmany
  | cons t ts ih =>
      cases ts with
      | nil => simp at hmany
      | cons u ts =>
          rw [toList_joined_cons]
          rw [List.getLast?_cons_cons] at hlast
          cases ts with
          | nil =>
              obtain rfl : u = "" := by simpa using hlast
              exact ⟨t.toList, by simp⟩
          | cons w ts =>
              obtain ⟨text, htext⟩ := ih (by simp) hlast
              exact ⟨t.toList ++ ';' :: ' ' :: text, by rw [htext]; simp⟩

private theorem trim_joined (h : ∀ t ∈ cookies, trim t = t) :
    trim ("; ".intercalate cookies) = cookieText cookies := by
  unfold cookieText
  split_ifs with hempty
  · obtain ⟨text, htext⟩ := joined_of_last_empty hempty.1 hempty.2
    have hhead := dropWhile_eq_self_iff_head.mpr (head_joined h)
    have hcut : (text ++ [';'] ++ [' ']).rdropWhile isWhitespace = text ++ [';'] := by
      rw [List.rdropWhile_concat_pos _ _ _ (by decide), List.rdropWhile_concat_neg _ _ _ (by decide)]
    rw [trim, hhead, htext, List.append_cons, hcut, List.dropLast_concat]
  · rw [trim_eq_self_iff]
    exact ⟨head_joined h, last_joined h hempty⟩

end Cookies

section Reader

/-- A line as the reader needs it: it has no newline, and the header `f` is in it. -/
structure Carries (line : String) (f : HeaderName × HeaderValue) : Prop where
  oneLine : '\n' ∉ line.toList
  field : field line = some f

private theorem Carries.not_isEmpty {line : String} {f : HeaderName × HeaderValue}
    (h : Carries line f) :
    (!line.isEmpty) = true := by
  by_contra hempty
  obtain rfl : line = "" := by simpa using hempty
  have hfield := h.field
  simp [Http.field, splitAtColon] at hfield

private theorem carries_headerLine {k : HeaderName} (hk : isHeaderName k.text) {s : String}
    (hs : ∀ c ∈ s.toList, isTextChar c) {v : HeaderValue}
    (hv : HeaderValue.parse (trim s) = some v) : Carries (headerLine k s) (k, v) := by
  refine ⟨?_, field_headerLine hk hv⟩
  intro hmem
  have hchars : (headerLine k s).toList = k.text.toList ++ ':' :: s.toList := by simp [headerLine]
  rw [hchars, List.mem_append, List.mem_cons] at hmem
  obtain hname | hcolon | htext := hmem
  · exact (isTChar_apart (isTChar_of_isHeaderName hk _ hname)).2.1 rfl
  · exact absurd hcolon (by decide)
  · exact absurd (hs _ htext) (by decide)

private theorem forall_of_carries {lines : List String} {fields : List (HeaderName × HeaderValue)}
    (h : List.Forall₂ Carries lines fields) : ∀ line ∈ lines, ∃ f, Carries line f := by
  intro line hline
  obtain ⟨i, hi, rfl⟩ := List.mem_iff_getElem.mp hline
  exact ⟨_, h.get hi (h.length_eq ▸ hi)⟩

private theorem splitAt_message {lines : List String} (h : ∀ line ∈ lines, '\n' ∉ line.toList)
    (n : Nat)
    {block : String} (hblock : block.toList = lines.flatMap fun line => line.toList ++ ['\n']) :
    splitAt '\n' ("HTTP/1.1 " ++ toString n ++ " OK\n" ++ block) =
      statusLine n :: (lines ++ [""]) := by
  have hchars : ("HTTP/1.1 " ++ toString n ++ " OK\n" ++ block).toList =
      (statusLine n).toList ++ '\n' :: block.toList := by
    simp [statusLine]
  have hrest : block.toList.splitOn '\n' = lines.map String.toList ++ [[]] := by
    rw [hblock, ← List.flatMap_map (f := String.toList) (g := fun piece => piece ++ ['\n'])]
    apply splitOn_terminated
    intro piece hpiece
    obtain ⟨line, hline, rfl⟩ := List.mem_map.mp hpiece
    exact h line hline
  rw [splitAt, hchars, splitOn_append_cons (newline_notMem_statusLine n), hrest]
  simp [Function.comp_def]

private theorem tryFromString_lines {lines : List String} {fields : List (HeaderName × HeaderValue)}
    (h : List.Forall₂ Carries lines fields) {n : Nat} (hn : n < 2 ^ 16) {block : String}
    (hblock : block.toList = lines.flatMap fun line => line.toList ++ ['\n']) :
    tryFromString ("HTTP/1.1 " ++ toString n ++ " OK\n" ++ block) = .ok ⟨lines, n⟩ := by
  have hlines := forall_of_carries h
  have hsplit := splitAt_message (fun line hline => (hlines line hline).choose_spec.oneLine) n hblock
  have hfilter : (lines ++ [""]).filter (fun s => !s.isEmpty) = lines := by
    rw [List.filter_append, List.filter_eq_self.mpr]
    · simp
    · exact fun line hline => (hlines line hline).choose_spec.not_isEmpty
  unfold tryFromString
  rw [hsplit]
  simp only [splitAt_statusLine, u16FromStr_toString hn, hfilter]

private theorem filterMap_field {lines : List String} {fields : List (HeaderName × HeaderValue)}
    (h : List.Forall₂ Carries lines fields) : lines.filterMap field = fields := by
  induction h with
  | nil => rfl
  | cons hline _ ih => rw [List.filterMap_cons_some hline.field, ih]

variable {hdr : HeaderMap}

private theorem HeaderMap.mem_iter_iff {k : HeaderName} {v : HeaderValue} :
    (k, v) ∈ hdr.iter ↔ v ∈ hdr.getAll k := by
  rw [← hdr.iter_values k]
  simp

private theorem printable_iff (e : HeaderName × HeaderValue) : printable e ↔
    isHeaderName e.1.text ∧ held e.1 = false ∧ ∃ s, e.2.toStr = some s ∧ trim s = s := by
  simp [printable, Option.any_eq_true, and_assoc]

private theorem forall₂_headerLine {fields : List (HeaderName × HeaderValue)}
    (h : ∀ e ∈ fields, printable e) :
    List.Forall₂ Carries (fields.filterMap fun e => e.2.toStr.map (headerLine e.1)) fields := by
  induction fields with
  | nil => exact .nil
  | cons e fields ih =>
      obtain ⟨hname, -, s, hs, htrim⟩ := (printable_iff e).mp (h e List.mem_cons_self)
      have hline : Carries (headerLine e.1 s) e := by
        apply carries_headerLine hname (HeaderValue.isTextChar_of_toStr hs)
        rw [htrim]
        exact HeaderValue.parse_of_toStr hs
      rw [List.filterMap_cons_some (by rw [hs]; rfl)]
      exact .cons hline (ih fun e he => h e (List.mem_cons_of_mem _ he))

theorem HeaderMap.Printable.values (h : hdr.Printable) {k : HeaderName} {v : HeaderValue}
    (hv : v ∈ hdr.getAll k) : ∃ s, v.toStr = some s ∧ trim s = s :=
  ((printable_iff _).mp (h _ (mem_iter_iff.mpr hv))).2.2

theorem HeaderMap.Printable.texts (h : hdr.Printable) (k : HeaderName) :
    ∀ s ∈ HeaderValue.texts (hdr.getAll k), trim s = s ∧ ∀ c ∈ s.toList, isTextChar c := by
  intro s hs
  obtain ⟨v, hv, htext⟩ := List.mem_filterMap.mp hs
  obtain ⟨s', hs', htrim⟩ := h.values hv
  obtain rfl : s' = s := Option.some.inj (hs'.symm.trans htext)
  exact ⟨htrim, HeaderValue.isTextChar_of_toStr htext⟩

private theorem HeaderMap.Printable.texts_eq_nil_iff (h : hdr.Printable) (k : HeaderName) :
    HeaderValue.texts (hdr.getAll k) = [] ↔ hdr.getAll k = [] := by
  constructor
  · intro hnone
    rw [HeaderValue.texts, List.filterMap_eq_nil_iff] at hnone
    rw [List.eq_nil_iff_forall_not_mem]
    intro v hv
    obtain ⟨s, hs, -⟩ := h.values hv
    rw [hnone v hv] at hs
    cases hs
  · intro hnone
    rw [hnone]
    rfl

theorem isTextChar_intercalate {sep : String} (hsep : sep.toList.all isTextChar) {texts : List String}
    (h : ∀ s ∈ texts, ∀ c ∈ s.toList, isTextChar c) :
    ∀ c ∈ (sep.intercalate texts).toList, isTextChar c := by
  cases texts with
  | nil => simp
  | cons t ts =>
      intro c hc
      rw [toList_intercalate, List.mem_append, List.mem_flatMap] at hc
      obtain hfirst | ⟨u, hu, hc⟩ := hc
      · exact h t List.mem_cons_self c hfirst
      · rcases List.mem_append.mp hc with hc | htext
        · exact List.all_eq_true.mp hsep c hc
        · exact h u (List.mem_cons_of_mem t hu) c htext

private theorem carries_cookieLine {cookies : List String}
    (h : ∀ s ∈ cookies, trim s = s ∧ ∀ c ∈ s.toList, isTextChar c) :
    ∃ v, v.toStr = some (cookieText cookies) ∧
      Carries (headerLine .cookie ("; ".intercalate cookies)) (.cookie, v) := by
  have htext : ∀ c ∈ ("; ".intercalate cookies).toList, isTextChar c :=
    isTextChar_intercalate (by decide) fun s hs => (h s hs).2
  have htrim := trim_joined fun s hs => (h s hs).1
  have htrimmed : ∀ c ∈ (trim ("; ".intercalate cookies)).toList, isTextChar c := by
    intro c hc
    rw [trim, String.toList_ofList] at hc
    exact htext c ((List.dropWhile_sublist _).mem ((List.rdropWhile_prefix _ _).mem hc))
  obtain ⟨v, hparse, hv⟩ := HeaderValue.toStr_of_parse htrimmed
  refine ⟨v, by rw [hv, htrim], carries_headerLine ?_ htext hparse⟩
  decide

private theorem HeaderMap.Printable.forall₂_lines (h : hdr.Printable) :
    ∃ cookies : List HeaderValue, List.Forall₂ Carries hdr.lines
        ((hdr.iter.filter fun e => e.1 ≠ .cookie) ++ cookies.map fun v => (.cookie, v)) ∧
      cookies.map HeaderValue.toStr = if hdr.getAll .cookie = [] then []
        else [some (cookieText (HeaderValue.texts (hdr.getAll .cookie)))] := by
  have hfields : List.Forall₂ Carries ((hdr.iter.filter fun e => e.1 ≠ .cookie).filterMap
      fun e => e.2.toStr.map (headerLine e.1)) (hdr.iter.filter fun e => e.1 ≠ .cookie) := by
    apply forall₂_headerLine
    intro e he
    exact h e (List.mem_filter.mp he).1
  have hnone := h.texts_eq_nil_iff .cookie
  unfold HeaderMap.lines
  by_cases hcookies : hdr.getAll .cookie = []
  · refine ⟨[], ?_, by simp [hcookies]⟩
    simpa [hnone.mpr hcookies] using hfields
  · obtain ⟨v, hv, hline⟩ := carries_cookieLine (h.texts .cookie)
    refine ⟨[v], ?_, by simp [hcookies, hv]⟩
    rw [if_neg (by simpa [List.isEmpty_iff, hnone] using hcookies)]
    exact List.rel_append hfields (.cons hline .nil)

private theorem HeaderMap.valuesOf_lines (hdr : HeaderMap) {k : HeaderName} (hk : k ≠ .cookie)
    (cookies : List HeaderValue) :
    valuesOf k ((hdr.iter.filter fun e => e.1 ≠ .cookie) ++ cookies.map fun v => (.cookie, v)) =
      hdr.getAll k := by
  have hsame : (hdr.iter.filter fun e => e.1 ≠ .cookie).filter (fun e => e.1 = k) =
      hdr.iter.filter fun e => e.1 = k := by
    rw [List.filter_filter]
    apply List.filter_congr
    intro e _
    by_cases he : e.1 = k
    · simp [he, hk]
    · simp [he]
  have hnone : (cookies.map fun v => (HeaderName.cookie, v)).filter (fun e => e.1 = k) = [] := by
    simp [List.filter_eq_nil_iff, hk.symm]
  rw [valuesOf, List.filter_append, hsame, hnone, List.append_nil]
  exact hdr.iter_values k

private theorem HeaderMap.Printable.getAll_of_held (h : hdr.Printable) {k : HeaderName}
    (hk : held k) :
    hdr.getAll k = [] := by
  rw [List.eq_nil_iff_forall_not_mem]
  intro v hv
  have hheld := ((printable_iff _).mp (h _ (mem_iter_iff.mpr hv))).2.1
  rw [hk] at hheld
  cases hheld

/-- Every header map that can be printed is read back with its values in order, under every status;
only the cookies have become one. -/
theorem header_block_read_back (debug : List String → String) (hdr : HeaderMap) (h : hdr.Printable)
    (status : Nat) (hstatus : 100 ≤ status ∧ status < 1000) :
    ∃ res parts,
      tryFromString ("HTTP/1.1 " ++ toString status ++ " OK\n" ++ buildHeaderStr hdr) = .ok res ∧
      res.build debug = .ok (.ok parts) ∧ parts.status = status ∧
      (∀ k, k ≠ .cookie → parts.headers.getAll k = hdr.getAll k) ∧
      (parts.headers.getAll .cookie).map HeaderValue.toStr = if hdr.getAll .cookie = [] then []
        else [some (cookieText (HeaderValue.texts (hdr.getAll .cookie)))] := by
  obtain ⟨cookies, hlines, hcookies⟩ := h.forall₂_lines
  have hread := tryFromString_lines hlines (Nat.lt_trans hstatus.2 (by decide))
    (toList_buildHeaderStr hdr)
  have hvalid : ∀ line ∈ hdr.lines, (field line).isSome := by
    intro line hline
    obtain ⟨f, hf⟩ := forall_of_carries hlines line hline
    rw [hf.field]
    rfl
  have hbuild := build_of_valid debug ⟨hdr.lines, status⟩ hvalid
  rw [if_pos hstatus] at hbuild
  obtain ⟨parts, hparts, hsame, hvalues⟩ := hbuild
  rw [filterMap_field hlines] at hvalues
  refine ⟨_, parts, hread, hparts, hsame, ?_, ?_⟩
  · intro k hk
    rw [hvalues k, hdr.valuesOf_lines hk cookies]
    split_ifs with hheld
    · exact (h.getAll_of_held hheld).symm
    · rfl
  · have hall : valuesOf .cookie ((hdr.iter.filter fun e => e.1 ≠ .cookie) ++
        cookies.map fun v => (.cookie, v)) = cookies := by
      simp [valuesOf, List.filter_map, Function.comp_def]
    rw [hvalues, hall, if_neg (by decide), hcookies]

/-- Repeated names, a colon in a value, an empty value and three cookies. -/
def repeatedHdr : HeaderMap :=
  [(xTrace, "a:b"), (.cookie, ""), (xTrace, ""), (.cookie, "x=1"), (.host, "h"), (.cookie, "y=2")
    ].foldl (fun hdr header => appendText hdr header.1 header.2) .new

theorem header_block_read_back_repeatedHdr :
    repeatedHdr.Printable ∧
    ∃ res parts,
      tryFromString ("HTTP/1.1 " ++ toString 404 ++ " OK\n" ++ buildHeaderStr repeatedHdr) =
        .ok res ∧
      res.build (fun _ => "") = .ok (.ok parts) ∧ parts.status = 404 ∧
      (∀ k, k ≠ .cookie → parts.headers.getAll k = repeatedHdr.getAll k) ∧
      (parts.headers.getAll .cookie).map HeaderValue.toStr = [some "; x=1; y=2"] := by
  have hprintable : repeatedHdr.Printable := by
    unfold HeaderMap.Printable
    decide +kernel
  exact ⟨hprintable,
    header_block_read_back (fun _ => "") repeatedHdr hprintable 404 (by decide)⟩

/-- Two cookies, the last of them empty. -/
def emptyCookieHdr : HeaderMap := appendText (appendText .new .cookie "a") .cookie ""

/-- The blank after the semicolon is trimmed away. -/
theorem empty_cookie_trimmed :
    emptyCookieHdr.Printable ∧ HeaderValue.texts (emptyCookieHdr.getAll .cookie) = ["a", ""] ∧
    ∃ res parts,
      tryFromString ("HTTP/1.1 " ++ toString 200 ++ " OK\n" ++ buildHeaderStr emptyCookieHdr) =
        .ok res ∧
      res.build (fun _ => "") = .ok (.ok parts) ∧
      (parts.headers.getAll .cookie).map HeaderValue.toStr = [some "a;"] ∧
      (parts.headers.getAll .cookie).map HeaderValue.toStr ≠ [some "a; "] ∧
      "; ".intercalate ["a", ""] = "a; " := by
  refine ⟨?_, by decide +kernel, ⟨["cookie:a; "], 200⟩, ⟨200, appendText .new .cookie "a;"⟩, ?_⟩
  · unfold HeaderMap.Printable
    decide +kernel
  · exact ⟨by decide +kernel, rfl, by decide +kernel, by decide +kernel, by decide +kernel⟩

end Reader

end CrankerRouter.Http
