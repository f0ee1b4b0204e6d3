import CrankerRouter.Http.Target

/-!
# Protocol versions

The versions a router is configured with, and the version it agrees on with a connector: the first
item of `Sec-WebSocket-Protocol` that is supported, and else the one in `CrankerProtocol`.
-/

namespace CrankerRouter.Http

open Lib

/-! ### The configured versions -/

/-- The entries of `SUPPORTED_CRANKER_VERSION`. -/
def supportedCrankerVersion : List (String × String) :=
  [("1.0", "cranker_1.0"), ("3.0", "cranker_3.0")]

/-- The `HashMap` of versions. -/
abbrev VersionMap := AList (fun _ : String => String)

/-- What the inner loop does with one entry of the table; `error` is a panic and its message. -/
def checkEntry (ver : String) (res : VersionMap) (entry : String × String) :
    Except String VersionMap :=
  if eqIgnoreAsciiCase entry.1 ver then .ok (res.insert entry.1 entry.2)
  else if eqIgnoreAsciiCase entry.2 ver then .ok (res.insert entry.1 entry.2)
  else .error s!"Not supported cranker version: {entry.2}"

/-- `check_supported_cranker_version`, for the orders in which the table and the set are walked. -/
def checkSupportedCrankerVersion (table : List (String × String)) (versions : List String) :
    Except String VersionMap :=
  if versions.isEmpty then .error "No supported cranker version provided."
  else
    match versions.foldlM (fun res ver => table.foldlM (checkEntry ver) res) ∅ with
    | .error panic => .error panic
    | .ok res =>
        if res.entries.isEmpty then .error "No supported cranker version provided." else .ok res

/-- The string names the entry. -/
def names (ver : String) (entry : String × String) : Bool :=
  eqIgnoreAsciiCase entry.1 ver || eqIgnoreAsciiCase entry.2 ver

/-- What the check should do: accept a set of names of entries, and return the entries named. -/
structure ChecksVersions (table : List (String × String)) (versions : List String) : Prop where
  accepts : (∃ res, checkSupportedCrankerVersion table versions = .ok res) ↔
    ∀ ver ∈ versions, ∃ entry ∈ supportedCrankerVersion, names ver entry = true
  returns : ∀ res, checkSupportedCrankerVersion table versions = .ok res → ∀ k v,
    res.lookup k = some v ↔
      (k, v) ∈ supportedCrankerVersion ∧ ∃ ver ∈ versions, names ver (k, v) = true

private theorem names_unique {ver : String} (h : names ver ("1.0", "cranker_1.0") = true)
    (h' : names ver ("3.0", "cranker_3.0") = true) : False := by
  have hcases : ∀ entry, names ver entry = true →
      ver.toList.map Char.toLower = entry.1.toList.map Char.toLower ∨
      ver.toList.map Char.toLower = entry.2.toList.map Char.toLower := by
    intro entry hnames
    simp only [names, eqIgnoreAsciiCase, Bool.or_eq_true, beq_iff_eq] at hnames
    exact hnames.imp Eq.symm Eq.symm
  obtain h | h := hcases _ h <;> obtain h' | h' := hcases _ h' <;>
    exact absurd (h.symm.trans h') (by decide)

private theorem checkEntry_error {ver : String} {res : VersionMap} {entry : String × String}
    (h : names ver entry = false) :
    checkEntry ver res entry = .error s!"Not supported cranker version: {entry.2}" := by
  simp only [names, Bool.or_eq_false_iff] at h
  simp [checkEntry, h.1, h.2]

private theorem foldlM_error {α β ε : Type} {f : β → α → Except ε β} {a : α} {l : List α}
    (ha : a ∈ l)
    (h : ∀ b, ∃ e, f b a = .error e) (b : β) : ∃ e, l.foldlM f b = .error e := by
  induction l generalizing b with
  | nil => cases ha
  | cons c l ih =>
      rw [List.foldlM_cons]
      cases hstep : f b c with
      | error e => exact ⟨e, rfl⟩
      | ok b' =>
          obtain rfl | ha := List.mem_cons.mp ha
          · obtain ⟨e, he⟩ := h b
            rw [hstep] at he
            cases he
          · exact ih ha b'

/-- Every entry of the table has to be named by every string, which no string does. -/
theorem checkSupportedCrankerVersion_panics {table : List (String × String)}
    (htable : table.Perm supportedCrankerVersion) (versions : List String) :
    ∃ panic, checkSupportedCrankerVersion table versions = .error panic := by
  cases versions with
  | nil => exact ⟨_, rfl⟩
  | cons ver rest =>
      have hmiss : ∃ entry ∈ table, names ver entry = false := by
        by_contra! hall
        apply @names_unique ver
        · simpa using hall ("1.0", "cranker_1.0") (htable.mem_iff.mpr (by decide))
        · simpa using hall ("3.0", "cranker_3.0") (htable.mem_iff.mpr (by decide))
      obtain ⟨entry, hentry, hnot⟩ := hmiss
      have hinner : ∀ res : VersionMap, ∃ e, table.foldlM (checkEntry ver) res = .error e :=
        fun res => foldlM_error hentry (fun _ => ⟨_, checkEntry_error hnot⟩) res
      obtain ⟨e, he⟩ := foldlM_error (l := ver :: rest) (a := ver) (by simp)
        (f := fun res ver => table.foldlM (checkEntry ver) res) hinner ∅
      exact ⟨e, by simp [checkSupportedCrankerVersion, he]⟩

/-- The check does what it should exactly when there is something to reject. -/
theorem supported_versions_checked_iff (table : List (String × String))
    (htable : table.Perm supportedCrankerVersion) (versions : List String) :
    ChecksVersions table versions ↔
      ∃ ver ∈ versions, ∀ entry ∈ supportedCrankerVersion, names ver entry = false := by
  obtain ⟨panic, hpanic⟩ := checkSupportedCrankerVersion_panics htable versions
  have hnever : ∀ res, checkSupportedCrankerVersion table versions ≠ .ok res := by
    intro res hok
    rw [hpanic] at hok
    cases hok
  constructor
  · intro h
    by_contra! hnone
    obtain ⟨res, hok⟩ := h.accepts.mpr fun ver hver => by
      obtain ⟨entry, hentry, hnames⟩ := hnone ver hver
      exact ⟨entry, hentry, by simpa using hnames⟩
    exact hnever res hok
  · rintro ⟨ver, hver, hnot⟩
    constructor
    · constructor
      · rintro ⟨res, hok⟩
        exact absurd hok (hnever res)
      · intro hall
        obtain ⟨entry, hentry, hnames⟩ := hall ver hver
        simp [hnot entry hentry] at hnames
    · intro res hok
      exact absurd hok (hnever res)

theorem supported_versions_checked_iff_unsupported :
    ChecksVersions supportedCrankerVersion ["3.0", "2.0"] ∧
    ∃ ver ∈ ["3.0", "2.0"], ∀ entry ∈ supportedCrankerVersion, names ver entry = false := by
  have hnot : ∃ ver ∈ ["3.0", "2.0"], ∀ entry ∈ supportedCrankerVersion,
      names ver entry = false := by decide +kernel
  exact ⟨(supported_versions_checked_iff _ (.refl _) _).mpr hnot, hnot⟩

/-- The default of the router, given as a configuration, panics. -/
theorem supported_versions_rejected :
    (∀ ver ∈ ["cranker_1.0", "cranker_3.0"], ∃ entry ∈ supportedCrankerVersion,
      names ver entry = true) ∧
    checkSupportedCrankerVersion supportedCrankerVersion ["cranker_1.0", "cranker_3.0"] =
      .error "Not supported cranker version: cranker_3.0" := by
  refine ⟨by decide +kernel, ?_⟩
  rfl

/-! ### The negotiated version -/

namespace HeaderName

def secWebsocketProtocol : HeaderName := ⟨"sec-websocket-protocol", by decide⟩
def crankerProtocol : HeaderName := ⟨"crankerprotocol", by decide⟩

end HeaderName

/-- `Ok`, `Err`, and the panic of an `unwrap` on a value that is no text. -/
inductive Negotiated
  | version (v : String)
  | refused (crex : CrankerRouterException)
  | panicked

/-- Drops `skip` characters and, from there on, every occurrence of the pattern from left to
right. -/
def removeFrom (pat : List Char) : Nat → List Char → List Char
  | _, [] => []
  | skip + 1, _ :: cs => removeFrom pat skip cs
  | 0, c :: cs =>
      if pat.isPrefixOf (c :: cs) then removeFrom pat (pat.length - 1) cs
      else c :: removeFrom pat 0 cs

def crankerUnderscore : List Char := "cranker_".toList

/-- `replace("cranker_", "")`. -/
def replaceCranker (s : String) : String := String.ofList (removeFrom crankerUnderscore 0 s.toList)

/-- The loop over the items. -/
def firstSupported (supported : String → Option String) : List String → Option String
  | [] => none
  | v :: vs =>
      match supported (replaceCranker (trim v)) with
      | some res => some res
      | none => firstSupported supported vs

def versionIsNull : CrankerRouterException :=
  (CrankerRouterException.new
    "Version is null. Please set header Sec-WebSocket-Protocol for cranker protocol negotiation").withErrKind
    .crankerProtocolVersionNotFound0003

def versionNotSupported (debug : Option HeaderValue → String)
    (subProtocols legacyProtocolHeader : Option HeaderValue) : CrankerRouterException :=
  (CrankerRouterException.new
    s!"Cranker version not supported! sub protocols = {debug subProtocols}, legacy protocols = {debug legacyProtocolHeader}").withErrKind
    .crankerProtocolVersionNotSupported0004

/-- `extract_cranker_version`; `debug` is what `{:?}` prints for a header. -/
def extractCrankerVersion (debug : Option HeaderValue → String) (supported : String → Option String)
    (headers : HeaderMap) : Negotiated :=
  let subProtocols := headers.get .secWebsocketProtocol
  let legacyProtocolHeader := headers.get .crankerProtocol
  let legacy : Negotiated :=
    match legacyProtocolHeader with
    | some lph =>
        match lph.toStr with
        | none => .panicked
        | some lp =>
            match supported lp with
            | some res => .version res
            | none => .refused (versionNotSupported debug subProtocols legacyProtocolHeader)
    | none => .refused (versionNotSupported debug subProtocols legacyProtocolHeader)
  if subProtocols.isNone && legacyProtocolHeader.isNone then .refused versionIsNull
  else
    match subProtocols with
    | some sp =>
        match sp.toStr with
        | none => .panicked
        | some spStr =>
            match firstSupported supported (splitAt ',' spStr) with
            | some res => .version res
            | none => legacy
    | none => legacy

/-- The item without one leading `cranker_`. -/
def stripCranker (s : String) : String :=
  if crankerUnderscore.isPrefixOf s.toList then
    String.ofList (s.toList.drop crankerUnderscore.length)
  else s

/-- The comma-separated items of `Sec-WebSocket-Protocol`, as far as it is text. -/
def subProtocolItems (headers : HeaderMap) : List String :=
  (((headers.get .secWebsocketProtocol).bind HeaderValue.toStr).map (splitAt ',')).getD []

/-- What should be agreed on: the first supported item, and else the version of `CrankerProtocol`. -/
def negotiated (supported : String → Option String) (headers : HeaderMap) : Option String :=
  ((subProtocolItems headers).findSome? fun item => supported (stripCranker (trim item))).or
    (((headers.get .crankerProtocol).bind HeaderValue.toStr).bind supported)

/-- The version in `CrankerProtocol`, as far as it is text. -/
def legacyVersion (supported : String → Option String) (headers : HeaderMap) : Option String :=
  ((headers.get .crankerProtocol).bind HeaderValue.toStr).bind supported

/-- The header is absent or text. -/
def AbsentOrText (headers : HeaderMap) (name : HeaderName) : Prop :=
  ∀ v, headers.get name = some v → v.toStr.isSome = true

instance (headers : HeaderMap) (name : HeaderName) : Decidable (AbsentOrText headers name) :=
  inferInstanceAs (Decidable (∀ v, headers.get name = some v → v.toStr.isSome = true))

/-- Up to the first item that is supported, it makes no difference whether every `cranker_` is taken
out of an item or only a leading one. Where one reading passes over an item that the other one
takes, it has to come to the same version further on. -/
def ReadAlike (supported : String → Option String) (legacy : Option String) : List String → Prop
  | [] => True
  | item :: items =>
      match supported (replaceCranker (trim item)), supported (stripCranker (trim item)) with
      | none, none => ReadAlike supported legacy items
      | some v, some w => v = w
      | some v, none =>
          (items.findSome? fun i => supported (stripCranker (trim i))).or legacy = some v
      | none, some w =>
          (items.findSome? fun i => supported (replaceCranker (trim i))).or legacy = some w

private theorem firstSupported_eq_findSome? (supported : String → Option String)
    (items : List String) :
    firstSupported supported items =
      items.findSome? fun item => supported (replaceCranker (trim item)) := by
  induction items with
  | nil => rfl
  | cons item items ih =>
      rw [firstSupported, List.findSome?_cons, ih]
      cases supported (replaceCranker (trim item)) <;> rfl

private theorem readAlike_iff (supported : String → Option String) (legacy : Option String)
    (items : List String) :
    ReadAlike supported legacy items ↔
      (firstSupported supported items).or legacy =
        (items.findSome? fun item => supported (stripCranker (trim item))).or legacy := by
  rw [firstSupported_eq_findSome?]
  induction items with
  | nil => simp [ReadAlike]
  | cons item items ih =>
      simp only [ReadAlike, List.findSome?_cons]
      cases supported (replaceCranker (trim item)) with
      | none =>
          cases supported (stripCranker (trim item)) with
          | none => exact ih
          | some w => simp
      | some v =>
          cases supported (stripCranker (trim item)) with
          | none => simp [eq_comm]
          | some w => simp

private theorem extractCrankerVersion_eq (debug : Option HeaderValue → String)
    {supported : String → Option String} {headers : HeaderMap}
    (hsub : AbsentOrText headers .secWebsocketProtocol)
    (hlegacy : firstSupported supported (subProtocolItems headers) = none →
      AbsentOrText headers .crankerProtocol) :
    ∃ crex, extractCrankerVersion debug supported headers =
      ((firstSupported supported (subProtocolItems headers)).or
        (legacyVersion supported headers)).elim (.refused crex) .version := by
  unfold extractCrankerVersion legacyVersion
  cases hfound : firstSupported supported (subProtocolItems headers) with
  | some v =>
      -- an item is supported, so the header is there and is text
      cases hsp : headers.get .secWebsocketProtocol with
      | none => simp [subProtocolItems, hsp, firstSupported] at hfound
      | some sp =>
          obtain ⟨spStr, hstr⟩ := Option.isSome_iff_exists.mp (hsub sp hsp)
          simp only [subProtocolItems, hsp, Option.bind_some, hstr, Option.map_some,
            Option.getD_some] at hfound
          exact ⟨versionIsNull, by simp [hstr, hfound]⟩
  | none =>
      have hitem : ∀ sp spStr, headers.get .secWebsocketProtocol = some sp →
          sp.toStr = some spStr → firstSupported supported (splitAt ',' spStr) = none := by
        intro sp spStr hsp hstr
        simpa [subProtocolItems, hsp, hstr] using hfound
      cases hlp : headers.get .crankerProtocol with
      | none =>
          cases hsp : headers.get .secWebsocketProtocol with
          | none => exact ⟨versionIsNull, by simp⟩
          | some sp =>
              obtain ⟨spStr, hstr⟩ := Option.isSome_iff_exists.mp (hsub sp hsp)
              exact ⟨versionNotSupported debug (some sp) none,
                by simp [hstr, hitem sp spStr hsp hstr]⟩
      | some lph =>
          obtain ⟨lp, hlpStr⟩ := Option.isSome_iff_exists.mp (hlegacy hfound lph hlp)
          cases hsp : headers.get .secWebsocketProtocol with
          | none =>
              refine ⟨versionNotSupported debug none (some lph), ?_⟩
              cases hv : supported lp <;> simp [hlpStr, hv]
          | some sp =>
              obtain ⟨spStr, hstr⟩ := Option.isSome_iff_exists.mp (hsub sp hsp)
              have hnot := hitem sp spStr hsp hstr
              refine ⟨versionNotSupported debug (some sp) (some lph), ?_⟩
              cases hv : supported lp <;> simp [hstr, hlpStr, hnot, hv]

private theorem text_of_not_panicked {debug : Option HeaderValue → String}
    {supported : String → Option String} {headers : HeaderMap}
    (h : extractCrankerVersion debug supported headers ≠ .panicked) :
    AbsentOrText headers .secWebsocketProtocol ∧
    (firstSupported supported (subProtocolItems headers) = none →
      AbsentOrText headers .crankerProtocol) := by
  unfold extractCrankerVersion at h
  constructor
  · intro sp hsp
    by_contra hstr
    rw [Option.not_isSome_iff_eq_none] at hstr
    simp [hsp, hstr] at h
  · intro hfound lph hlp
    by_contra hstr
    rw [Option.not_isSome_iff_eq_none] at hstr
    cases hsp : headers.get .secWebsocketProtocol with
    | none => simp [hsp, hlp, hstr] at h
    | some sp =>
        cases hspStr : sp.toStr with
        | none => simp [hsp, hspStr] at h
        | some spStr =>
            simp only [subProtocolItems, hsp, Option.bind_some, hspStr, Option.map_some,
              Option.getD_some] at hfound
            simp [hsp, hspStr, hlp, hstr, hfound] at h

private theorem outcome_iff (crex : CrankerRouterException) (found agreed : Option String) :
    (match agreed with
      | some v => found.elim (Negotiated.refused crex) .version = .version v
      | none => ∃ crex', found.elim (Negotiated.refused crex) .version = .refused crex') ↔
    found = agreed := by
  cases found <;> cases agreed <;> simp

/-- The negotiation comes out as it should exactly on headers that are text as far as they are read
and whose items read alike. -/
theorem version_negotiated (debug : Option HeaderValue → String)
    (supported : String → Option String) (headers : HeaderMap) :
    (match negotiated supported headers with
      | some v => extractCrankerVersion debug supported headers = .version v
      | none => ∃ crex, extractCrankerVersion debug supported headers = .refused crex) ↔
    AbsentOrText headers .secWebsocketProtocol ∧
    ReadAlike supported (legacyVersion supported headers) (subProtocolItems headers) ∧
    ((∀ item ∈ subProtocolItems headers, supported (replaceCranker (trim item)) = none) →
      AbsentOrText headers .crankerProtocol) := by
  have hnone : (∀ item ∈ subProtocolItems headers, supported (replaceCranker (trim item)) = none) ↔
      firstSupported supported (subProtocolItems headers) = none := by
    rw [firstSupported_eq_findSome?, List.findSome?_eq_none_iff]
  rw [hnone, readAlike_iff]
  have hspec : negotiated supported headers =
      ((subProtocolItems headers).findSome? fun item => supported (stripCranker (trim item))).or
        (legacyVersion supported headers) := rfl
  rw [← hspec]
  constructor
  · intro h
    have hnot : extractCrankerVersion debug supported headers ≠ .panicked := by
      intro hpanic
      rw [hpanic] at h
      cases hneg : negotiated supported headers <;> simp [hneg] at h
    obtain ⟨hsub, hlegacy⟩ := text_of_not_panicked hnot
    obtain ⟨crex, heq⟩ := extractCrankerVersion_eq debug hsub hlegacy
    refine ⟨hsub, ?_, hlegacy⟩
    rw [heq] at h
    exact (outcome_iff crex _ _).mp h
  · rintro ⟨hsub, halike, hlegacy⟩
    obtain ⟨crex, heq⟩ := extractCrankerVersion_eq debug hsub hlegacy
    rw [heq]
    exact (outcome_iff crex _ _).mpr halike

/-- The supported versions of a router that is not configured otherwise. -/
def defaultVersions (k : String) : Option String := supportedCrankerVersion.lookup k

def connectorHeaders (subProtocols : HeaderValue) : HeaderMap :=
  HeaderMap.new.insert .secWebsocketProtocol subProtocols

/-- A byte that is no text, and an item with `cranker_` in its middle. -/
theorem version_not_negotiated :
    extractCrankerVersion (fun _ => "") defaultVersions
      (connectorHeaders ⟨[0x80], by decide⟩) = .panicked ∧
    negotiated defaultVersions (connectorHeaders ⟨utf8 "3.cranker_0", by decide +kernel⟩) = none ∧
    extractCrankerVersion (fun _ => "") defaultVersions
      (connectorHeaders ⟨utf8 "3.cranker_0", by decide +kernel⟩) = .version "cranker_3.0" := by
  refine ⟨?_, ?_, ?_⟩
  · rfl
  · decide +kernel
  · rfl

end CrankerRouter.Http
