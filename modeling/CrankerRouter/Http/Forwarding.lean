import CrankerRouter.Http.Target
import CrankerRouter.Lib.Traverse

/-!
# What reaches the target through the forwarding headers

The router's own element is appended last and is always a header value, so it is sent whenever the
client's headers are read without failure.  When they are discarded, nothing of them is read.
-/

namespace CrankerRouter.Http

open Lib

section Text

/-- The characters of `to_str`. -/
def isTextChar (c : Char) : Bool := (32 ≤ c.toNat && c.toNat < 127) || c.toNat == 9

theorem toNat_lt_of_isTextChar {c : Char} (h : isTextChar c) : c.toNat < 128 := by
  simp only [isTextChar, Bool.or_eq_true, Bool.and_eq_true, decide_eq_true_eq, beq_iff_eq] at h
  omega

private theorem isTextChar_of_isVChar {c : Char} (h : isVChar c) : isTextChar c := by
  simp only [isVChar, isTextChar, Bool.or_eq_true, Bool.and_eq_true, decide_eq_true_eq] at h ⊢
  omega

private theorem isValidByte_of_isTextChar {c : Char} (h : isTextChar c) :
    isValidByte (UInt8.ofNat c.toNat) :=
  ascii_forall (P := fun c => isTextChar c → isValidByte (UInt8.ofNat c.toNat))
    (by decide +kernel) (toNat_lt_of_isTextChar h) h

private theorem isTextChar_of_isVisibleAscii {b : UInt8} (h : isVisibleAscii b) :
    isTextChar (Char.ofNat b.toNat) := by
  have hb : b.toNat < 128 := by
    simp only [isVisibleAscii, Bool.or_eq_true, Bool.and_eq_true, decide_eq_true_eq,
      UInt8.lt_iff_toNat_lt, beq_iff_eq] at h
    rcases h with h | rfl
    · exact Nat.lt_trans h.2 (by decide)
    · decide
  have hall : ∀ n < 128, isVisibleAscii (UInt8.ofNat n) → isTextChar (Char.ofNat n) := by
    decide +kernel
  exact hall b.toNat hb (by simpa using h)

theorem HeaderValue.isTextChar_of_toStr {v : HeaderValue} {s : String} (h : v.toStr = some s) :
    ∀ c ∈ s.toList, isTextChar c := by
  unfold toStr at h
  split_ifs at h with hvisible
  obtain rfl := Option.some.inj h
  intro c hc
  rw [String.toList_ofList, List.mem_map] at hc
  obtain ⟨b, hb, rfl⟩ := hc
  exact isTextChar_of_isVisibleAscii (List.all_eq_true.mp hvisible b hb)

theorem utf8_of_isTextChar {s : String} (h : ∀ c ∈ s.toList, isTextChar c) :
    utf8 s = s.toList.map fun c => UInt8.ofNat c.toNat := by
  have hascii := utf8_ofList_ascii fun c hc => toNat_lt_of_isTextChar (h c hc)
  rwa [String.ofList_toList] at hascii

theorem HeaderValue.parse_of_isTextChar {s : String} (h : ∀ c ∈ s.toList, isTextChar c) :
    ∃ v, HeaderValue.parse s = some v ∧ v.bytes = utf8 s := by
  have hvalid : (utf8 s).all isValidByte := by
    rw [utf8_of_isTextChar h, List.all_map, List.all_eq_true]
    exact fun c hc => isValidByte_of_isTextChar (h c hc)
  exact ⟨⟨utf8 s, hvalid⟩, by simp [parse, hvalid], rfl⟩

end Text

namespace ForwardedHeader

private theorem isTextChar_quoteIfNeeded {v : String} (hv : ∀ c ∈ v.toList, isTextChar c) :
    ∀ c ∈ (quoteIfNeeded v).toList, isTextChar c := by
  have hquote : isTextChar '"' ∧ isTextChar '\\' := by decide
  unfold quoteIfNeeded
  split_ifs
  · exact hv
  · intro c hc
    simp only [String.toList_append, String.toList_ofList, List.mem_append, escapeQuotes,
      List.mem_flatMap] at hc
    rcases hc with (hc | ⟨d, hd, hc⟩) | hc
    · obtain rfl : c = '"' := by simpa using hc
      exact hquote.1
    · split_ifs at hc
      · rcases List.mem_cons.mp hc with rfl | hc
        · exact hquote.2
        · obtain rfl : c = '"' := by simpa using hc
          exact hquote.1
      · obtain rfl : c = d := by simpa using hc
        exact hv c hd
    · obtain rfl : c = '"' := by simpa using hc
      exact hquote.1

/-- An element whose names and values are text is printed as text. -/
theorem isTextChar_display {fh : ForwardedHeader}
    (h : ∀ f ∈ fh.fields, (∀ c ∈ f.1.toList, isTextChar c) ∧ ∀ c ∈ f.2.toList, isTextChar c) :
    ∀ c ∈ fh.display.toList, isTextChar c := by
  have hprinted : ∀ f ∈ fh.fields, ∀ c ∈ printed f, isTextChar c := by
    intro f hf c hc
    rw [printed, List.mem_append, List.mem_cons] at hc
    rcases hc with hc | rfl | hc
    · exact (h f hf).1 c hc
    · decide
    · exact isTextChar_quoteIfNeeded (h f hf).2 c hc
  intro c hc
  cases hfields : fh.fields with
  | nil =>
      rw [display_eq, hfields] at hc
      exact absurd hc (by simp [appendFields])
  | cons f fs =>
      rw [toList_display fh hfields, List.mem_append, List.mem_flatMap] at hc
      rcases hc with hc | ⟨g, hg, hc⟩
      · exact hprinted f (by simp [hfields]) c hc
      · rcases List.mem_cons.mp hc with rfl | hc
        · decide
        · exact hprinted g (by simp [hfields, hg]) c hc

end ForwardedHeader

section Own

variable (localIp cliRemoteIp : VisibleText) (uri : OriginalUri) (isTls : Bool)

theorem VisibleText.isTextChar (t : VisibleText) : ∀ c ∈ t.text.toList, isTextChar c :=
  fun c hc => isTextChar_of_isVChar (List.all_eq_true.mp t.visible c hc)

private theorem isTextChar_createForwardedHeaderToTgt (cliHdr : HeaderMap) :
    ∀ c ∈ (createForwardedHeaderToTgt localIp cliRemoteIp uri isTls cliHdr).display.toList,
      isTextChar c := by
  have hnames : ∀ k ∈ ["by", "for", "host", "proto"], k.toList.all isTextChar := by decide
  have hproto : ∀ c ∈ (if isTls then "https" else
      (uri.schemeStr.map VisibleText.text).getD "http").toList, isTextChar c := by
    have hliteral : ("https".toList.all isTextChar) ∧ ("http".toList.all isTextChar) := by decide
    split_ifs
    · exact List.all_eq_true.mp hliteral.1
    · cases uri.schemeStr with
      | none => exact List.all_eq_true.mp hliteral.2
      | some scheme => exact scheme.isTextChar
  have hhost : ∀ host, ((cliHdr.get .host).bind HeaderValue.toStr).or
      (uri.authority.map VisibleText.text) = some host → ∀ c ∈ host.toList, isTextChar c := by
    intro host h
    rcases Option.or_eq_some_iff.mp h with h | ⟨-, h⟩
    · obtain ⟨v, -, hv⟩ := Option.bind_eq_some_iff.mp h
      exact v.isTextChar_of_toStr hv
    · obtain ⟨authority, -, rfl⟩ := Option.map_eq_some_iff.mp h
      exact authority.isTextChar
  apply ForwardedHeader.isTextChar_display
  intro f hf
  simp only [ForwardedHeader.fields, createForwardedHeaderToTgt, List.mem_append,
    Option.mem_toList, Option.map_eq_some_iff, Option.map_none, Option.getD_none,
    List.not_mem_nil, or_false] at hf
  rcases hf with ((⟨v, hv, rfl⟩ | ⟨v, hv, rfl⟩) | ⟨v, hv, rfl⟩) | ⟨v, hv, rfl⟩
  · obtain rfl := Option.some.inj hv
    exact ⟨List.all_eq_true.mp (hnames "by" (by simp)), localIp.isTextChar⟩
  · obtain rfl := Option.some.inj hv
    exact ⟨List.all_eq_true.mp (hnames "for" (by simp)), cliRemoteIp.isTextChar⟩
  · exact ⟨List.all_eq_true.mp (hnames "host" (by simp)), hhost v hv⟩
  · obtain rfl := Option.some.inj hv
    exact ⟨List.all_eq_true.mp (hnames "proto" (by simp)), hproto⟩

theorem getAll_insertText_ne {k k' : HeaderName} (h : k' ≠ k) (hdr : HeaderMap)
    (s : Option String) : (insertText hdr k s).getAll k' = hdr.getAll k' := by
  unfold insertText
  split
  · rw [HeaderMap.getAll_insert, if_neg h]
  · rfl

theorem getAll_appendText_ne {k k' : HeaderName} (h : k' ≠ k) (hdr : HeaderMap) (s : String) :
    (appendText hdr k s).getAll k' = hdr.getAll k' := by
  unfold appendText
  split
  · rw [HeaderMap.getAll_append, if_neg h]
  · rfl

theorem getAll_setXForwardedHeaders (hdr : HeaderMap) (fh : ForwardedHeader) :
    (setXForwardedHeaders hdr fh).getAll .forwarded = hdr.getAll .forwarded := by
  unfold setXForwardedHeaders
  rw [getAll_insertText_ne (by decide), getAll_insertText_ne (by decide),
    getAll_insertText_ne (by decide)]

private theorem addForwardedHeaders_own (config : Config) (cliHdr hdrToTgt : HeaderMap)
    (fhs : List ForwardedHeader) :
    ∃ v, ((addForwardedHeaders localIp cliRemoteIp uri isTls config cliHdr hdrToTgt fhs).getAll
        .forwarded).getLast? = some v ∧
      v.bytes = utf8 (createForwardedHeaderToTgt localIp cliRemoteIp uri isTls cliHdr).display := by
  obtain ⟨v, hparse, hbytes⟩ := HeaderValue.parse_of_isTextChar
    (isTextChar_createForwardedHeaderToTgt localIp cliRemoteIp uri isTls cliHdr)
  refine ⟨v, ?_, hbytes⟩
  simp only [addForwardedHeaders, appendText, hparse]
  split_ifs
  · rw [getAll_setXForwardedHeaders, HeaderMap.getAll_append]
    simp
  · rw [HeaderMap.getAll_append]
    simp

end Own

section Readable

/-- The last character that is no digit is a colon. -/
def hasPort (host : String) : Bool :=
  (host.toList.reverse.dropWhile Char.isDigit).head? == some ':'

private theorem cutAtColon_isOk (cs : List Char) :
    (cutAtColon cs).isOk = ((cs.dropWhile Char.isDigit).head? == some ':') := by
  induction cs with
  | nil => rfl
  | cons c cs ih =>
      unfold cutAtColon
      by_cases hdigit : c.isDigit
      · rw [if_pos hdigit, ih, List.dropWhile_cons_of_pos hdigit]
      · rw [if_neg hdigit, List.dropWhile_cons_of_neg hdigit, List.head?_cons]
        by_cases hcolon : c = ':'
        · rw [if_neg (not_not_intro hcolon), hcolon]
          rfl
        · rw [if_pos hcolon]
          simp [Except.isOk, Except.toBool, hcolon]

private theorem cutPort_isOk (host : String) : (cutPort host).isOk = hasPort host := by
  unfold cutPort hasPort
  rw [← cutAtColon_isOk]
  cases cutAtColon host.toList.reverse <;> rfl

theorem XForwarded.element_isOk (x : XForwarded) (i : Nat) :
    (x.element i).isOk = ((x.hostToCut i).map hasPort).getD true := by
  unfold element
  cases hcut : x.hostToCut i with
  | none => rfl
  | some host =>
      simp only [Option.map_some, Option.getD_some]
      rw [← cutPort_isOk]
      cases cutPort host <;> rfl

/-- The client's forwarding headers can be read: the parser takes every `Forwarded` text, and if
there is none, every host whose port is to be cut off has one. -/
def ForwardingReadable (cliHdr : HeaderMap) : Prop :=
  (∀ s ∈ headerMapGetAllOkToString cliHdr .forwarded, (ForwardedHeader.fromString s).isOk) ∧
    (headerMapGetAllOkToString cliHdr .forwarded = [] →
      ∀ i < (xForwarded cliHdr).max, ∀ host ∈ (xForwarded cliHdr).hostToCut i, hasPort host)

private theorem getExistingForwardedHeaders_isOk_iff (cliHdr : HeaderMap) :
    (getExistingForwardedHeaders cliHdr).isOk = true ↔ ForwardingReadable cliHdr := by
  have hmap : ∀ r : Except Failure (List (List ForwardedHeader)),
      (r.map List.flatten).isOk = r.isOk := by
    intro r
    cases r <;> rfl
  have hparse : ∀ s, ((ForwardedHeader.fromString s).mapError Failure.error).isOk =
      (ForwardedHeader.fromString s).isOk := by
    intro s
    cases ForwardedHeader.fromString s <;> rfl
  unfold getExistingForwardedHeaders ForwardingReadable
  by_cases hnone : headerMapGetAllOkToString cliHdr .forwarded = []
  · simp only [hnone, List.isEmpty_nil, if_true, mapM_isOk_iff, List.mem_range,
      XForwarded.element_isOk, List.not_mem_nil, false_implies, implies_true, true_and, true_implies]
    apply forall₂_congr
    intro i hi
    cases (xForwarded cliHdr).hostToCut i <;> simp
  · simp only [List.isEmpty_iff, hnone, if_false, hmap, mapM_isOk_iff, hparse, false_implies, and_true]

end Readable

namespace HeaderMap

/-- The same multimap. -/
def Same (m₁ m₂ : HeaderMap) : Prop := ∀ k, m₁.getAll k = m₂.getAll k

variable {m₁ m₂ : HeaderMap}

theorem Same.append (h : Same m₁ m₂) (k : HeaderName) (v : HeaderValue) :
    Same (m₁.append k v) (m₂.append k v) := by
  intro k'
  rw [getAll_append, getAll_append, h k, h k']

theorem Same.insert (h : Same m₁ m₂) (k : HeaderName) (v : HeaderValue) :
    Same (m₁.insert k v) (m₂.insert k v) := by
  intro k'
  rw [getAll_insert, getAll_insert, h k']

theorem Same.appendText (h : Same m₁ m₂) (k : HeaderName) (s : String) :
    Same (appendText m₁ k s) (appendText m₂ k s) := by
  unfold Http.appendText
  split
  · exact h.append k _
  · exact h

theorem Same.insertText (h : Same m₁ m₂) (k : HeaderName) (s : Option String) :
    Same (insertText m₁ k s) (insertText m₂ k s) := by
  unfold Http.insertText
  split
  · exact h.insert k _
  · exact h

end HeaderMap

section Copy

/-- Whether the copy loop skips a name. -/
def skips (config : Config) (customHopByHop : List String) (k : HeaderName) : Bool :=
  config.doNotProxyHeaders.contains (toLowercase k.text) ||
    customHopByHop.contains (toLowercase k.text)

/-- The values of a name after the loop has met `vs` under it. -/
def copiedValues (k : HeaderName) (old vs : List HeaderValue) : List HeaderValue :=
  if toLowercase k.text = "host" then vs.foldl (fun _ v => [v]) old else old ++ vs

private theorem getAll_foldl_copyHeader (config : Config) (custom : List String)
    (headers : List (HeaderName × HeaderValue)) (acc : HeaderMap × Bool) (k : HeaderName) :
    (headers.foldl (copyHeader config custom) acc).1.getAll k =
      if skips config custom k then acc.1.getAll k
      else copiedValues k (acc.1.getAll k) ((headers.filter fun e => e.1 = k).map Prod.snd) := by
  induction headers generalizing acc with
  | nil => simp [copiedValues]
  | cons header headers ih =>
      rw [List.foldl_cons, ih]
      by_cases hk : header.1 = k
      · subst hk
        by_cases hskip : skips config custom header.1
        · have hacc : copyHeader config custom acc header = acc := if_pos hskip
          rw [hacc, if_pos hskip, if_pos hskip]
        · have hacc : copyHeader config custom acc header = _ := if_neg hskip
          rw [hacc, if_neg hskip, if_neg hskip]
          by_cases hhost : toLowercase header.1.text = "host"
          · simp [copiedValues, hhost, HeaderMap.getAll_insert]
          · simp [copiedValues, hhost, HeaderMap.getAll_append]
      · have hother : (copyHeader config custom acc header).1.getAll k = acc.1.getAll k := by
          have hne : ¬k = header.1 := fun h => hk h.symm
          unfold copyHeader
          dsimp only
          split_ifs
          · rfl
          · rw [HeaderMap.getAll_insert, if_neg hne]
          · rw [HeaderMap.getAll_append, if_neg hne]
        rw [hother]
        simp [hk]

/-- What the copy loop takes over of one name depends on the client's values of that name. -/
theorem getAll_copyHeaders (config : Config) (cliHdr hdrToTgt : HeaderMap) (k : HeaderName) :
    (copyHeaders config cliHdr hdrToTgt).1.getAll k =
      if skips config (getCustomHopByHopHeaders (cliHdr.get .connection)) k then hdrToTgt.getAll k
      else copiedValues k (hdrToTgt.getAll k) (cliHdr.getAll k) := by
  rw [← HeaderMap.iter_values cliHdr k]
  exact getAll_foldl_copyHeader config _ cliHdr.iter (hdrToTgt, false) k

end Copy

section Sent

variable (localIp cliRemoteIp : VisibleText) (uri : OriginalUri) (isTls : Bool)

private theorem forwardedHeaders_isOk_iff (config : Config) (cliHdr : HeaderMap) :
    (forwardedHeaders config cliHdr).isOk = true ↔
      config.discardClientForwardedHeaders = true ∨ ForwardingReadable cliHdr := by
  unfold forwardedHeaders
  by_cases hdiscard : config.discardClientForwardedHeaders = true
  · simp [hdiscard, Except.isOk, Except.toBool]
  · simp [hdiscard, getExistingForwardedHeaders_isOk_iff]

private theorem getAll_forwarded_of_skipped {config : Config}
    (hskip : "forwarded" ∈ config.doNotProxyHeaders)
    {hdrToTgt : HeaderMap} (hnone : hdrToTgt.getAll .forwarded = []) (version : Version)
    (cliHdr : HeaderMap) :
    (addVia config version cliHdr (copyHeaders config cliHdr hdrToTgt).1).getAll .forwarded = [] := by
  have hskips : skips config (getCustomHopByHopHeaders (cliHdr.get .connection)) .forwarded := by
    have hlower : toLowercase HeaderName.forwarded.text = "forwarded" := by decide
    simp [skips, hlower, hskip]
  rw [addVia, getAll_appendText_ne (by decide), getAll_copyHeaders, if_pos hskips, hnone]

/-- The router's own element is the last `Forwarded` value that the target gets. -/
def OwnForwardedLast (config : Config) (version : Version) (cliHdr hdrToTgt : HeaderMap) : Prop :=
  ∃ hdr b v, setTargetRequestHeaders localIp cliRemoteIp uri isTls config version cliHdr hdrToTgt =
      .ok (hdr, b) ∧
    (hdr.getAll .forwarded).getLast? = some v ∧ v.bytes =
      utf8 (createForwardedHeaderToTgt localIp cliRemoteIp uri isTls cliHdr).display

/-- It is whenever the client's headers are discarded or can be read; and where they are not copied,
as the router is configured, only then. -/
theorem own_forwarded_sent_last (config : Config) (version : Version)
    (cliHdr hdrToTgt : HeaderMap) :
    (config.discardClientForwardedHeaders ∨ ForwardingReadable cliHdr →
      OwnForwardedLast localIp cliRemoteIp uri isTls config version cliHdr hdrToTgt) ∧
    ("forwarded" ∈ config.doNotProxyHeaders → hdrToTgt.getAll .forwarded = [] →
      OwnForwardedLast localIp cliRemoteIp uri isTls config version cliHdr hdrToTgt →
      config.discardClientForwardedHeaders ∨ ForwardingReadable cliHdr) := by
  constructor
  · intro h
    cases hread : forwardedHeaders config cliHdr with
    | error e =>
        have hok := (forwardedHeaders_isOk_iff config cliHdr).mpr h
        rw [hread] at hok
        cases hok
    | ok fhs =>
        obtain ⟨v, hlast, hbytes⟩ := addForwardedHeaders_own localIp cliRemoteIp uri isTls config
          cliHdr (addVia config version cliHdr (copyHeaders config cliHdr hdrToTgt).1) fhs
        refine ⟨_, (copyHeaders config cliHdr hdrToTgt).2, v, ?_, hlast, hbytes⟩
        simp only [setTargetRequestHeaders, setForwardedHeaders, hread]
        rfl
  · rintro hskip hnone ⟨hdr, b, v, hset, hlast, -⟩
    rw [← forwardedHeaders_isOk_iff]
    cases hread : forwardedHeaders config cliHdr with
    | ok fhs => rfl
    | error failure =>
        simp only [setTargetRequestHeaders, setForwardedHeaders, hread, Except.map] at hset
        cases failure with
        | panic p => cases hset
        | error e =>
            -- the error is logged and the map goes out as it was
            obtain ⟨rfl, -⟩ := Prod.mk.inj (Except.ok.inj hset)
            rw [getAll_forwarded_of_skipped hskip hnone] at hlast
            cases hlast

/-- The default settings. -/
def defaultConfig : Config where
  doNotProxyHeaders := repressedHeaders
  viaName := "scr-axum"
  discardClientForwardedHeaders := false
  sendLegacyForwardedHeaders := false

def routerIp : VisibleText := ⟨"10.0.0.1", by decide⟩

def clientIp : VisibleText := ⟨"10.0.0.2", by decide⟩

def plainUri : OriginalUri := ⟨none, none, some "/"⟩

/-- The `Forwarded` values sent for a client header map, under the default settings. -/
def sentForwarded (cliHdr : HeaderMap) : Except Panic (List HeaderValue) :=
  (setTargetRequestHeaders routerIp clientIp plainUri false defaultConfig .http11 cliHdr .new).map
    fun sent => sent.1.getAll .forwarded

def proxiedClient : HeaderMap :=
  appendText (appendText .new .xForwardedHost "example.org:8080") .xForwardedPort "8080"

theorem own_forwarded_sent_last_proxiedClient :
    ForwardingReadable proxiedClient ∧
      OwnForwardedLast routerIp clientIp plainUri false defaultConfig .http11 proxiedClient .new := by
  have hread : ForwardingReadable proxiedClient := by
    unfold ForwardingReadable
    decide +kernel
  exact ⟨hread, (own_forwarded_sent_last routerIp clientIp plainUri false defaultConfig .http11
    proxiedClient .new).1 (.inr hread)⟩

/-- A `Forwarded` text that does not parse, or a forwarded port beside a host without one, leaves
no `Forwarded` value at all; a host of digits only stops the program. -/
theorem own_forwarded_suppressed :
    sentForwarded (appendText .new .forwarded "for") = .ok [] ∧
      sentForwarded (appendText (appendText .new .xForwardedHost "example.org") .xForwardedPort
        "8080") = .ok [] ∧
      sentForwarded (appendText (appendText .new .xForwardedHost "1") .xForwardedPort "8080") =
        .error .shortRead := by
  decide +kernel

end Sent

section Discard

variable (localIp cliRemoteIp : VisibleText) (uri : OriginalUri) (isTls : Bool)

def clientForwardingHeaders : List String :=
  ["forwarded", "x-forwarded-by", "x-forwarded-for", "x-forwarded-host", "x-forwarded-proto",
    "x-forwarded-port", "x-forwarded-server"]

/-- The client header maps differ in forwarding headers at most. -/
def AgreeOutsideForwarding (cli₁ cli₂ : HeaderMap) : Prop :=
  ∀ k : HeaderName, k.text ∉ clientForwardingHeaders → cli₁.getAll k = cli₂.getAll k

variable {cli₁ cli₂ : HeaderMap}

private theorem same_copyHeaders (h : AgreeOutsideForwarding cli₁ cli₂) {config : Config}
    (hdefault : config.doNotProxyHeaders = repressedHeaders) (hdrToTgt : HeaderMap) :
    HeaderMap.Same (copyHeaders config cli₁ hdrToTgt).1 (copyHeaders config cli₂ hdrToTgt).1 := by
  have hconnection : cli₁.get .connection = cli₂.get .connection := by
    unfold HeaderMap.get
    rw [h .connection (by decide)]
  intro k
  rw [getAll_copyHeaders, getAll_copyHeaders, hconnection]
  by_cases hk : k.text ∈ clientForwardingHeaders
  · -- a forwarding header is on the default list, so the loop skips it
    have hskip : skips config (getCustomHopByHopHeaders (cli₂.get .connection)) k := by
      have hlower : toLowercase k.text = k.text := by
        rw [toLowercase, k.lower, String.ofList_toList]
      have hsub : ∀ t ∈ clientForwardingHeaders, t ∈ repressedHeaders := by decide
      simp [skips, hlower, hdefault, hsub k.text hk]
    rw [if_pos hskip, if_pos hskip]
  · rw [h k hk]

private theorem same_addForwardedHeaders (h : AgreeOutsideForwarding cli₁ cli₂) {m₁ m₂ : HeaderMap}
    (hm : HeaderMap.Same m₁ m₂) (config : Config) (fhs : List ForwardedHeader) :
    HeaderMap.Same (addForwardedHeaders localIp cliRemoteIp uri isTls config cli₁ m₁ fhs)
      (addForwardedHeaders localIp cliRemoteIp uri isTls config cli₂ m₂ fhs) := by
  have hown : createForwardedHeaderToTgt localIp cliRemoteIp uri isTls cli₁ =
      createForwardedHeaderToTgt localIp cliRemoteIp uri isTls cli₂ := by
    unfold createForwardedHeaderToTgt HeaderMap.get
    rw [h .host (by decide)]
  have hclient : HeaderMap.Same
      (fhs.foldl (fun hdr j => appendText hdr .forwarded j.display) m₁)
      (fhs.foldl (fun hdr j => appendText hdr .forwarded j.display) m₂) := by
    induction fhs generalizing m₁ m₂ with
    | nil => exact hm
    | cons fh fhs ih => exact ih (hm.appendText .forwarded fh.display)
  unfold addForwardedHeaders
  rw [hown]
  dsimp only
  split_ifs
  · exact (((hclient.appendText _ _).insertText _ _).insertText _ _).insertText _ _
  · exact hclient.appendText _ _

/-- A router that discards forwarding headers sends the same for clients that differ in nothing
else. -/
theorem discard_forwarding_noninterference (config : Config) (version : Version)
    (hdiscard : config.discardClientForwardedHeaders)
    (hdefault : config.doNotProxyHeaders = repressedHeaders) (cli₁ cli₂ hdrToTgt : HeaderMap)
    (h : AgreeOutsideForwarding cli₁ cli₂) :
    ∃ hdr₁ hdr₂ b₁ b₂,
      setTargetRequestHeaders localIp cliRemoteIp uri isTls config version cli₁ hdrToTgt =
        .ok (hdr₁, b₁) ∧
      setTargetRequestHeaders localIp cliRemoteIp uri isTls config version cli₂ hdrToTgt =
        .ok (hdr₂, b₂) ∧
      HeaderMap.Same hdr₁ hdr₂ := by
  have hread : ∀ cli, forwardedHeaders config cli = .ok [] := fun _ => if_pos hdiscard
  have hvia : HeaderMap.Same (addVia config version cli₁ (copyHeaders config cli₁ hdrToTgt).1)
      (addVia config version cli₂ (copyHeaders config cli₂ hdrToTgt).1) := by
    unfold addVia headerMapGetAllOkToString
    rw [h .via (by decide)]
    exact (same_copyHeaders h hdefault hdrToTgt).appendText _ _
  have hset : ∀ cli, setTargetRequestHeaders localIp cliRemoteIp uri isTls config version cli
      hdrToTgt = .ok (addForwardedHeaders localIp cliRemoteIp uri isTls config cli
        (addVia config version cli (copyHeaders config cli hdrToTgt).1) [],
        (copyHeaders config cli hdrToTgt).2) := by
    intro cli
    simp only [setTargetRequestHeaders, setForwardedHeaders, hread]
    rfl
  exact ⟨_, _, _, _, hset cli₁, hset cli₂,
    same_addForwardedHeaders localIp cliRemoteIp uri isTls h hvia config []⟩

def discardConfig : Config :=
  { defaultConfig with discardClientForwardedHeaders := true, sendLegacyForwardedHeaders := true }

/-- A client behind a proxy and one that sends nothing of the kind. -/
theorem discard_forwarding_noninterference_proxiedClient :
    AgreeOutsideForwarding proxiedClient .new ∧ ∃ hdr₁ hdr₂ b₁ b₂,
      setTargetRequestHeaders routerIp clientIp plainUri false discardConfig .http11 proxiedClient
        .new = .ok (hdr₁, b₁) ∧
      setTargetRequestHeaders routerIp clientIp plainUri false discardConfig .http11 .new .new =
        .ok (hdr₂, b₂) ∧
      HeaderMap.Same hdr₁ hdr₂ := by
  have hagree : AgreeOutsideForwarding proxiedClient .new := by
    intro k hk
    have hport : k ≠ .xForwardedPort := fun h => hk (by rw [h]; decide)
    have hhost : k ≠ .xForwardedHost := fun h => hk (by rw [h]; decide)
    rw [proxiedClient, getAll_appendText_ne hport, getAll_appendText_ne hhost]
  exact ⟨hagree, discard_forwarding_noninterference routerIp clientIp plainUri false discardConfig
    .http11 rfl rfl proxiedClient .new .new hagree⟩

end Discard

end CrankerRouter.Http
