import CrankerRouter.Http.Conversion
import CrankerRouter.Lib.Split

/-!
# Which client headers are sent on

The copy loop drops the names of a fixed list and the names in the first `Connection` value, as they
are spelled there.  `Connection` may occur several times and in any letter case, so a name can be
listed without being dropped.
-/

namespace CrankerRouter.Http

open Lib

section Lists

variable {α : Type}

private theorem dropWhile_congr_of_mem {p q : α → Bool} {xs : List α} (h : ∀ x ∈ xs, p x = q x) :
    xs.dropWhile p = xs.dropWhile q := by
  induction xs with
  | nil => rfl
  | cons x xs ih =>
      have hx : p x = q x := h x List.mem_cons_self
      by_cases hp : p x
      · rw [List.dropWhile_cons_of_pos hp, List.dropWhile_cons_of_pos (hx ▸ hp)]
        exact ih fun y hy => h y (List.mem_cons_of_mem x hy)
      · rw [List.dropWhile_cons_of_neg hp, List.dropWhile_cons_of_neg (hx ▸ hp)]

end Lists

section Tokens

/-- The list without the blanks around it. -/
def trimOws (cs : List Char) : List Char := (cs.dropWhile isOws).rdropWhile isOws

/-- The comma-separated tokens of a value. -/
def HeaderValue.tokens (v : HeaderValue) : List String :=
  ((v.bytes.map fun b => Char.ofNat b.toNat).splitOn ',').map fun t => String.ofList (trimOws t)

private theorem isWhitespace_eq_isOws {c : Char} (h : isTextChar c) : isWhitespace c = isOws c :=
  ascii_forall (P := fun c => isTextChar c → isWhitespace c = isOws c)
    (by decide +kernel) (toNat_lt_of_isTextChar h) h

private theorem trim_ofList {cs : List Char} (h : ∀ c ∈ cs, isTextChar c) :
    trim (String.ofList cs) = String.ofList (trimOws cs) := by
  have hleft : cs.dropWhile isWhitespace = cs.dropWhile isOws :=
    dropWhile_congr_of_mem fun c hc => isWhitespace_eq_isOws (h c hc)
  unfold trim trimOws List.rdropWhile
  rw [String.toList_ofList, hleft]
  congr 2
  apply dropWhile_congr_of_mem
  intro c hc
  exact isWhitespace_eq_isOws (h c ((List.dropWhile_sublist _).mem (List.mem_reverse.mp hc)))

private theorem HeaderValue.tokens_of_toStr {v : HeaderValue} {s : String} (h : v.toStr = some s) :
    v.tokens = (splitAt ',' s).map trim := by
  have htext := HeaderValue.isTextChar_of_toStr h
  have hchars : v.bytes.map (fun b => Char.ofNat b.toNat) = s.toList := by
    unfold toStr at h
    split_ifs at h
    rw [← Option.some.inj h, String.toList_ofList]
  rw [tokens, splitAt, hchars, List.map_map]
  apply List.map_congr_left
  intro piece hpiece
  exact (trim_ofList fun c hc => htext c (mem_of_mem_splitOn hpiece hc)).symm

/-- The name is listed in one of the values, in any letter case. -/
def listed (vs : List HeaderValue) (k : HeaderName) : Bool :=
  vs.any fun v => v.tokens.any fun token => eqIgnoreAsciiCase token k.text

private theorem mem_tokens_of_mem_getCustomHopByHopHeaders {v : HeaderValue} {t : String}
    (h : t ∈ getCustomHopByHopHeaders (some v)) : t ∈ v.tokens := by
  unfold getCustomHopByHopHeaders at h
  rw [Option.bind_some] at h
  cases hstr : v.toStr with
  | none => simp [hstr] at h
  | some s =>
      rw [HeaderValue.tokens_of_toStr hstr]
      simp only [hstr] at h
      split_ifs at h
      · cases h
      · exact h

private theorem listed_of_mem_getCustomHopByHopHeaders {vs : List HeaderValue} {k : HeaderName}
    (h : k.text ∈ getCustomHopByHopHeaders vs.head?) : listed vs k := by
  cases vs with
  | nil => simp [getCustomHopByHopHeaders] at h
  | cons v vs =>
      have htoken := mem_tokens_of_mem_getCustomHopByHopHeaders h
      have hself : eqIgnoreAsciiCase k.text k.text := by simp [eqIgnoreAsciiCase]
      simp only [listed, List.any_cons, Bool.or_eq_true]
      exact .inl (List.any_eq_true.mpr ⟨k.text, htoken, hself⟩)

end Tokens

section Filter

/-- The names that the router writes itself. -/
def rewritten (k : HeaderName) : Bool :=
  k.text == "via" || k.text == "forwarded" || "x-forwarded-".toList.isPrefixOf k.text.toList

/-- What is kept of the values of a name: all of them, of `Host` the last. -/
def keptValues (k : HeaderName) (vs : List HeaderValue) : List HeaderValue :=
  if k = .host then vs.getLast?.toList else vs

/-- The client's values that are to be sent under a name. -/
def valuesToSend (config : Config) (cliHdr : HeaderMap) (k : HeaderName) : List HeaderValue :=
  if config.doNotProxyHeaders.contains k.text || listed (cliHdr.getAll .connection) k then []
  else keptValues k (cliHdr.getAll k)

/-- Apart from the rewritten names, the map holds what is to be sent. -/
def FilteredExactly (config : Config) (cliHdr hdr : HeaderMap) : Prop :=
  ∀ k, rewritten k = false → hdr.getAll k = valuesToSend config cliHdr k

variable (localIp cliRemoteIp : VisibleText) (uri : OriginalUri) (isTls : Bool)

/-- The forwarding headers leave the other names alone. -/
theorem getAll_addForwardedHeaders {k : HeaderName} (hk : rewritten k = false ∨ k = .via)
    (config : Config) (cliHdr hdrToTgt : HeaderMap) (fhs : List ForwardedHeader) :
    (addForwardedHeaders localIp cliRemoteIp uri isTls config cliHdr hdrToTgt fhs).getAll k =
      hdrToTgt.getAll k := by
  have hne : ∀ name, rewritten name = true → name ≠ .via → k ≠ name := by
    rintro name hname hvia rfl
    rcases hk with hk | hk
    · rw [hk] at hname
      cases hname
    · exact hvia hk
  have hforwarded := hne .forwarded (by decide) (by decide)
  have hclient : (fhs.foldl (fun hdr j => appendText hdr .forwarded j.display) hdrToTgt).getAll k =
      hdrToTgt.getAll k := by
    induction fhs generalizing hdrToTgt with
    | nil => rfl
    | cons fh fhs ih => rw [List.foldl_cons, ih, getAll_appendText_ne hforwarded]
  unfold addForwardedHeaders setXForwardedHeaders
  dsimp only
  split_ifs
  · rw [getAll_insertText_ne (hne _ (by decide) (by decide)),
      getAll_insertText_ne (hne _ (by decide) (by decide)),
      getAll_insertText_ne (hne _ (by decide) (by decide)), getAll_appendText_ne hforwarded, hclient]
  · rw [getAll_appendText_ne hforwarded, hclient]

private theorem setTargetRequestHeaders_cases (config : Config) (version : Version)
    (cliHdr : HeaderMap) :
    (panics (forwardedHeaders config cliHdr) = true ∧
      ∃ p, setTargetRequestHeaders localIp cliRemoteIp uri isTls config version cliHdr .new =
        .error p) ∨
    (panics (forwardedHeaders config cliHdr) = false ∧
      ∃ hdr b, setTargetRequestHeaders localIp cliRemoteIp uri isTls config version cliHdr .new =
          .ok (hdr, b) ∧
        ∀ k, rewritten k = false → hdr.getAll k = (copyHeaders config cliHdr .new).1.getAll k) := by
  have hvia : ∀ k, rewritten k = false →
      (addVia config version cliHdr (copyHeaders config cliHdr .new).1).getAll k =
        (copyHeaders config cliHdr .new).1.getAll k := by
    intro k hk
    have hne : k ≠ .via := by
      rintro rfl
      cases hk
    exact getAll_appendText_ne hne _ _
  unfold setTargetRequestHeaders setForwardedHeaders
  cases hread : forwardedHeaders config cliHdr with
  | ok fhs =>
      refine .inr ⟨rfl, _, _, rfl, ?_⟩
      intro k hk
      rw [getAll_addForwardedHeaders localIp cliRemoteIp uri isTls (.inl hk), hvia k hk]
  | error e =>
      cases e with
      | error e => exact .inr ⟨rfl, _, _, rfl, hvia⟩
      | panic p => exact .inl ⟨rfl, p, rfl⟩

private theorem foldl_last (vs : List HeaderValue) :
    vs.foldl (fun _ v => [v]) [] = vs.getLast?.toList := by
  cases h : vs.getLast? with
  | none =>
      rw [List.getLast?_eq_none_iff.mp h]
      rfl
  | some v =>
      obtain ⟨ws, rfl⟩ := List.getLast?_eq_some_iff.mp h
      simp

theorem toLowercase_headerName (k : HeaderName) : toLowercase k.text = k.text := by
  rw [toLowercase, k.lower, String.ofList_toList]

private theorem copiedValues_nil (k : HeaderName) (vs : List HeaderValue) :
    copiedValues k [] vs = keptValues k vs := by
  have hhost : toLowercase k.text = "host" ↔ k = .host := by
    rw [toLowercase_headerName]
    constructor
    · intro h
      cases k
      simp only at h
      subst h
      rfl
    · rintro rfl
      rfl
  unfold copiedValues keptValues
  by_cases hk : k = .host
  · rw [if_pos (hhost.mpr hk), if_pos hk, foldl_last]
  · rw [if_neg fun h => hk (hhost.mp h), if_neg hk, List.nil_append]

theorem getAll_copyHeaders_new (config : Config) (cliHdr : HeaderMap) (k : HeaderName) :
    (copyHeaders config cliHdr .new).1.getAll k =
      if config.doNotProxyHeaders.contains k.text ||
          (getCustomHopByHopHeaders (cliHdr.get .connection)).contains k.text then []
      else keptValues k (cliHdr.getAll k) := by
  rw [getAll_copyHeaders, HeaderMap.getAll_new, copiedValues_nil, skips, toLowercase_headerName]

private theorem keptValues_eq_nil_iff (k : HeaderName) (vs : List HeaderValue) :
    keptValues k vs = [] ↔ vs = [] := by
  unfold keptValues
  split_ifs
  · cases h : vs.getLast? with
    | none => simp [List.getLast?_eq_none_iff.mp h]
    | some v =>
        have hne : vs ≠ [] := by
          rintro rfl
          cases h
        simp [hne]
  · rfl

private theorem copied_eq_valuesToSend_iff (config : Config) (cliHdr : HeaderMap) (k : HeaderName) :
    (copyHeaders config cliHdr .new).1.getAll k = valuesToSend config cliHdr k ↔
      (cliHdr.getAll k ≠ [] → listed (cliHdr.getAll .connection) k →
        k.text ∈ config.doNotProxyHeaders ∨
          k.text ∈ getCustomHopByHopHeaders (cliHdr.get .connection)) := by
  rw [getAll_copyHeaders_new, valuesToSend]
  have hsub : k.text ∈ getCustomHopByHopHeaders (cliHdr.get .connection) →
      listed (cliHdr.getAll .connection) k := listed_of_mem_getCustomHopByHopHeaders
  by_cases hfixed : k.text ∈ config.doNotProxyHeaders
  · simp [hfixed]
  · by_cases hcustom : k.text ∈ getCustomHopByHopHeaders (cliHdr.get .connection)
    · simp [hcustom, hsub hcustom]
    · by_cases hlisted : listed (cliHdr.getAll .connection) k
      · simp [hfixed, hcustom, hlisted, keptValues_eq_nil_iff]
      · simp [hfixed, hcustom, hlisted]

/-- The client's headers are filtered exactly unless the conversion panics or a header that
`Connection` lists is sent. -/
theorem request_headers_filtered_exactly_iff (config : Config) (version : Version)
    (cliHdr : HeaderMap) :
    (∃ hdr b, setTargetRequestHeaders localIp cliRemoteIp uri isTls config version cliHdr .new =
        .ok (hdr, b) ∧ FilteredExactly config cliHdr hdr) ↔
      panics (forwardedHeaders config cliHdr) = false ∧
        ∀ k, rewritten k = false → cliHdr.getAll k ≠ [] →
          listed (cliHdr.getAll .connection) k →
            k.text ∈ config.doNotProxyHeaders ∨
              k.text ∈ getCustomHopByHopHeaders (cliHdr.get .connection) := by
  rcases setTargetRequestHeaders_cases localIp cliRemoteIp uri isTls config version cliHdr with
    ⟨hpanics, p, hset⟩ | ⟨hpanics, hdr, b, hset, hcopied⟩
  · rw [hset, hpanics]
    simp
  · rw [hset, hpanics]
    constructor
    · rintro ⟨hdr', b', heq, hexact⟩
      obtain ⟨rfl, rfl⟩ : hdr = hdr' ∧ b = b' := by simpa using heq
      refine ⟨rfl, ?_⟩
      intro k hk
      exact (copied_eq_valuesToSend_iff config cliHdr k).mp ((hcopied k hk).symm.trans (hexact k hk))
    · rintro ⟨-, hlisted⟩
      refine ⟨hdr, b, rfl, ?_⟩
      intro k hk
      rw [hcopied k hk]
      exact (copied_eq_valuesToSend_iff config cliHdr k).mpr (hlisted k hk)

def xTrace : HeaderName := ⟨"x-trace", by decide⟩

/-- A client that lists the texts in `Connection` values and sends an `X-Trace` header. -/
def tracingClient (connection : List String) : HeaderMap :=
  appendText (connection.foldl (fun hdr s => appendText hdr .connection s) .new) xTrace "1"

/-- The `X-Trace` values sent under the default settings. -/
def sentTrace (cliHdr : HeaderMap) : Except Panic (List HeaderValue) :=
  (setTargetRequestHeaders routerIp clientIp plainUri false defaultConfig .http11 cliHdr .new).map
    fun sent => sent.1.getAll xTrace

/-- A name in upper case, in a second value, or beside a byte that is no text, is sent. -/
theorem listed_request_header_sent :
    rewritten xTrace = false ∧
      ∀ connection ∈ [["X-Trace"], ["close", "x-trace"], ["x-trace, \u00e9"]],
        valuesToSend defaultConfig (tracingClient connection) xTrace = [] ∧
          sentTrace (tracingClient connection) =
            .ok ((tracingClient connection).getAll xTrace) ∧
          (tracingClient connection).getAll xTrace ≠ [] := by
  decide +kernel

end Filter

end CrankerRouter.Http
