import CrankerRouter.Http.RequestFilter

/-!
# The response head of the target

`CrankerProtocolResponse`: the status and the header lines of the text that the target sends, and
the response that is built from them.  Lines are filtered by fixed names while they are added, and
the names in `Connection` are removed afterwards; but `Connection` is one of the fixed names, so
there is nothing left to read then.
-/

namespace CrankerRouter.Http

open Lib

section StatusCode

inductive IntErrorKind
  | empty
  | invalidDigit
  | posOverflow
  deriving DecidableEq, Repr

/-- What `{:?}` prints of the parse error. -/
def IntErrorKind.debug : IntErrorKind → String
  | .empty => "ParseIntError \x7b kind: Empty \x7d"
  | .invalidDigit => "ParseIntError \x7b kind: InvalidDigit \x7d"
  | .posOverflow => "ParseIntError \x7b kind: PosOverflow \x7d"

/-- The digits of a `u16`, read from the left. -/
def digitsToU16 (acc : Nat) : List Char → Except IntErrorKind Nat
  | [] => .ok acc
  | c :: cs =>
      if c.isDigit then
        if 10 * acc + (c.toNat - '0'.toNat) < 2 ^ 16 then
          digitsToU16 (10 * acc + (c.toNat - '0'.toNat)) cs
        else .error .posOverflow
      else .error .invalidDigit

/-- `u16::from_str`. -/
def u16FromStr (s : String) : Except IntErrorKind Nat :=
  match s.toList with
  | [] => .error .empty
  | ['+'] => .error .invalidDigit
  | '+' :: cs => digitsToU16 0 cs
  | cs => digitsToU16 0 cs

end StatusCode

structure CrankerProtocolResponse where
  headers : List String
  status : Nat
  deriving DecidableEq

def tryFromString (messageToApply : String) :
    Except CrankerRouterException CrankerProtocolResponse :=
  match splitAt '\n' messageToApply with
  | [] => .error ((CrankerRouterException.new
      ("failed to parse header from target response (" ++ messageToApply ++ ")")).withErrKind
        .crankerProtocolZeroLengthHeaderLine0006)
  | line :: lines =>
      match splitAt ' ' line with
      | _ :: bit :: _ =>
          match u16FromStr bit with
          | .ok status => .ok { headers := lines.filter (fun s => !s.isEmpty), status }
          | .error pie => .error (.new ("failed to parse status code from target response header (" ++
              bit ++ "): " ++ pie.debug))
      | _ => .error ((CrankerRouterException.new
          ("failed to parse status code from target response (" ++ messageToApply ++
            "): no status code found")).withErrKind .crankerProtocolHttpStatusCodeMissing0007)

section Builder

def maxHeaderNameLen : Nat := 2 ^ 16 - 1

def isHeaderName (s : String) : Bool :=
  !s.toList.isEmpty && s.toList.length ≤ maxHeaderNameLen && s.toList.all isTChar

private theorem map_toLower_toLowercase {s : String} (h : isHeaderName s) :
    (toLowercase s).toList.map Char.toLower = (toLowercase s).toList := by
  rw [isHeaderName, Bool.and_eq_true, List.all_eq_true] at h
  rw [toLowercase, String.toList_ofList, List.map_map]
  exact List.map_congr_left fun c hc => (isTChar_toLower (h.2 c hc)).2

/-- `HeaderName::try_from`: a token, kept in lower case. -/
def HeaderName.parse (s : String) : Option HeaderName :=
  if h : isHeaderName s then some ⟨toLowercase s, map_toLower_toLowercase h⟩ else none

/-- Drops the name with all its values. -/
def HeaderMap.remove (m : HeaderMap) (k : HeaderName) : HeaderMap where
  entries := m.entries.filter fun e => e.1 ≠ k
  nodup := m.nodup.sublist (List.filter_sublist.map _)

/-- `remove` by a text, which finds nothing if the text is no name. -/
def HeaderMap.removeText (m : HeaderMap) (s : String) : HeaderMap :=
  match HeaderName.parse s with
  | some k => m.remove k
  | none => m

inductive BuilderError
  | invalidStatusCode
  | invalidHeaderName
  | invalidHeaderValue
  deriving DecidableEq, Repr

structure Parts where
  status : Nat
  headers : HeaderMap

/-- `http::response::Builder`: once a call has failed, the later calls do nothing. -/
abbrev Builder := Except BuilderError Parts

def Builder.status (status : Nat) : Builder :=
  if 100 ≤ status ∧ status < 1000 then .ok { status, headers := .new }
  else .error .invalidStatusCode

def Builder.header (res : Builder) (key value : String) : Builder :=
  match res with
  | .error e => .error e
  | .ok parts =>
      match HeaderName.parse key with
      | none => .error .invalidHeaderName
      | some k =>
          match HeaderValue.parse value with
          | none => .error .invalidHeaderValue
          | some v => .ok { parts with headers := parts.headers.append k v }

def responseHeadersToNotSendBack : List String := ["server"]

/-- The text before the first colon and the text after it. -/
def splitAtColon (line : String) : Option (String × String) :=
  match line.toList.span (· ≠ ':') with
  | (_, []) => none
  | (before, _ :: after) => some (String.ofList before, String.ofList after)

namespace CrankerProtocolResponse

variable (debug : List String → String)

/-- One turn of the loop over the lines; `debug` is the `{:?}` of all of them. -/
def addHeaderLine (self : CrankerProtocolResponse) (res : Builder) (headerLine : String) :
    Except CrankerRouterException Builder :=
  match splitAtColon headerLine with
  | none => .error (.new ("failed to parse protocol response, header seems corrupted: " ++
      debug self.headers))
  | some (before, after) =>
      let key := trim before
      let lowercaseKey := toLowercase key
      if !hopByHopHeaders.contains lowercaseKey &&
          !responseHeadersToNotSendBack.contains lowercaseKey then
        .ok (res.header key (trim after))
      else .ok res

def removeCustomHopByHop (parts : Parts) : Parts :=
  let custom := getCustomHopByHopHeaders (parts.headers.get .connection)
  { parts with headers := custom.foldl HeaderMap.removeText parts.headers }

def build (self : CrankerProtocolResponse) : Except CrankerRouterException Builder :=
  (self.headers.foldlM (self.addHeaderLine debug) (Builder.status self.status)).map fun res =>
    res.map removeCustomHopByHop

end CrankerProtocolResponse

end Builder

section Lines

/-- The header of a line, if the line is valid. -/
def field (line : String) : Option (HeaderName × HeaderValue) :=
  match splitAtColon line with
  | none => none
  | some (before, after) =>
      match HeaderName.parse (trim before), HeaderValue.parse (trim after) with
      | some k, some v => some (k, v)
      | _, _ => none

/-- The values of a name in a list of headers. -/
def valuesOf (k : HeaderName) (fields : List (HeaderName × HeaderValue)) : List HeaderValue :=
  (fields.filter fun f => f.1 = k).map Prod.snd

/-- The name is on one of the two fixed lists. -/
def held (k : HeaderName) : Bool :=
  hopByHopHeaders.contains k.text || responseHeadersToNotSendBack.contains k.text

/-- The values that are to be sent back under a name. -/
def valuesToSendBack (fields : List (HeaderName × HeaderValue)) (k : HeaderName) :
    List HeaderValue :=
  if held k || listed (valuesOf .connection fields) k then [] else valuesOf k fields

private theorem text_of_parse {s : String} {k : HeaderName} (h : HeaderName.parse s = some k) :
    k.text = toLowercase s := by
  unfold HeaderName.parse at h
  split_ifs at h
  rw [← Option.some.inj h]

variable (debug : List String → String)

private theorem addHeaderLine_of_field (self : CrankerProtocolResponse) {line : String}
    {f : HeaderName × HeaderValue} (h : field line = some f) (parts : Parts) :
    self.addHeaderLine debug (.ok parts) line =
      .ok (.ok (if held f.1 then parts
        else { parts with headers := parts.headers.append f.1 f.2 })) := by
  unfold field at h
  unfold CrankerProtocolResponse.addHeaderLine
  cases hline : splitAtColon line with
  | none => simp [hline] at h
  | some halves =>
      obtain ⟨before, after⟩ := halves
      simp only [hline] at h
      cases hkey : HeaderName.parse (trim before) with
      | none => simp [hkey] at h
      | some k =>
          cases hvalue : HeaderValue.parse (trim after) with
          | none => simp [hkey, hvalue] at h
          | some v =>
              simp only [hkey, hvalue] at h
              obtain rfl := Option.some.inj h
              have hheld : held k = (hopByHopHeaders.contains (toLowercase (trim before)) ||
                  responseHeadersToNotSendBack.contains (toLowercase (trim before))) := by
                rw [held, text_of_parse hkey]
              dsimp only
              rw [hheld]
              split_ifs with h₁ h₂ h₂
              · simp_all
              · simp [Builder.header, hkey, hvalue]
              · rfl
              · simp_all

private theorem foldlM_addHeaderLine (self : CrankerProtocolResponse) {lines : List String}
    (hvalid : ∀ line ∈ lines, (field line).isSome) (parts : Parts) :
    ∃ parts', lines.foldlM (self.addHeaderLine debug) (.ok parts) = .ok (.ok parts') ∧
      parts'.status = parts.status ∧ ∀ k, parts'.headers.getAll k = parts.headers.getAll k ++
        if held k then [] else valuesOf k (lines.filterMap field) := by
  induction lines generalizing parts with
  | nil => exact ⟨parts, rfl, rfl, by simp [valuesOf]⟩
  | cons line lines ih =>
      obtain ⟨f, hf⟩ := Option.isSome_iff_exists.mp (hvalid line List.mem_cons_self)
      have hstep := addHeaderLine_of_field debug self hf parts
      obtain ⟨parts', hrun, hstatus, hvalues⟩ := ih
        (fun l hl => hvalid l (List.mem_cons_of_mem line hl))
        (if held f.1 then parts else { parts with headers := parts.headers.append f.1 f.2 })
      refine ⟨parts', ?_, ?_, ?_⟩
      · rw [List.foldlM_cons, hstep]
        exact hrun
      · rw [hstatus]
        split_ifs <;> rfl
      · intro k
        rw [hvalues k, List.filterMap_cons_some hf]
        by_cases hk : f.1 = k
        · subst hk
          by_cases hheld : held f.1
          · simp [hheld]
          · simp [hheld, valuesOf, HeaderMap.getAll_append]
        · have hne : ¬k = f.1 := fun h => hk h.symm
          by_cases hheld : held f.1
          · simp [hheld, valuesOf, hk]
          · simp [hheld, valuesOf, hk, HeaderMap.getAll_append, hne]

private theorem foldlM_addHeaderLine_error (self : CrankerProtocolResponse) {lines : List String}
    (hvalid : ∀ line ∈ lines, (field line).isSome) (e : BuilderError) :
    lines.foldlM (self.addHeaderLine debug) (.error e) = .ok (.error e) := by
  induction lines with
  | nil => rfl
  | cons line lines ih =>
      have hstep : self.addHeaderLine debug (.error e) line = .ok (.error e) := by
        have hsome := hvalid line List.mem_cons_self
        unfold field at hsome
        unfold CrankerProtocolResponse.addHeaderLine
        cases hline : splitAtColon line with
        | none => simp [hline] at hsome
        | some halves =>
            dsimp only
            split_ifs <;> rfl
      rw [List.foldlM_cons, hstep]
      exact ih fun l hl => hvalid l (List.mem_cons_of_mem line hl)

private theorem removeCustomHopByHop_eq {parts : Parts}
    (h : parts.headers.getAll .connection = []) :
    CrankerProtocolResponse.removeCustomHopByHop parts = parts := by
  have hnone : parts.headers.get .connection = none := by rw [HeaderMap.get, h, List.head?_nil]
  unfold CrankerProtocolResponse.removeCustomHopByHop
  rw [hnone]
  rfl

/-- The response has the headers of the lines that are not held back. -/
theorem build_of_valid (self : CrankerProtocolResponse)
    (hvalid : ∀ line ∈ self.headers, (field line).isSome) :
    if 100 ≤ self.status ∧ self.status < 1000 then
      ∃ parts, self.build debug = .ok (.ok parts) ∧ parts.status = self.status ∧
        ∀ k, parts.headers.getAll k =
          if held k then [] else valuesOf k (self.headers.filterMap field)
    else self.build debug = .ok (.error .invalidStatusCode) := by
  unfold CrankerProtocolResponse.build Builder.status
  split_ifs with hstatus
  · obtain ⟨parts, hrun, hkept, hvalues⟩ := foldlM_addHeaderLine debug self hvalid
      { status := self.status, headers := .new }
    have hconnection : parts.headers.getAll .connection = [] := by
      rw [hvalues]
      rfl
    refine ⟨parts, ?_, hkept, ?_⟩
    · rw [hrun]
      simp [Except.map, removeCustomHopByHop_eq hconnection]
    · intro k
      rw [hvalues k, HeaderMap.getAll_new, List.nil_append]
  · rw [foldlM_addHeaderLine_error debug self hvalid]
    rfl

private theorem sent_eq_valuesToSendBack_iff (fields : List (HeaderName × HeaderValue))
    (k : HeaderName) :
    (if held k then [] else valuesOf k fields) = valuesToSendBack fields k ↔
      (valuesOf k fields ≠ [] → listed (valuesOf .connection fields) k → held k) := by
  unfold valuesToSendBack
  by_cases hheld : held k
  · simp [hheld]
  · by_cases hlisted : listed (valuesOf .connection fields) k
    · simp [hheld, hlisted]
    · simp [hheld, hlisted]

/-- The header lines of a response head: the lines after the first that are not empty. -/
def headerLines (text : String) : List String :=
  ((splitAt '\n' text).drop 1).filter fun s => !s.isEmpty

private theorem headers_of_tryFromString {text : String} {res : CrankerProtocolResponse}
    (h : tryFromString text = .ok res) : res.headers = headerLines text := by
  unfold tryFromString at h
  unfold headerLines
  cases hlines : splitAt '\n' text with
  | nil => simp [hlines] at h
  | cons line lines =>
      simp only [hlines] at h
      split at h
      · split at h
        · rw [← Except.ok.inj h]
          rfl
        · cases h
      · cases h

/-- The response headers are filtered exactly if the status is a valid one and every header that
`Connection` lists is held back anyway. -/
theorem response_headers_filtered_exactly_iff (text : String) (res : CrankerProtocolResponse)
    (hres : tryFromString text = .ok res)
    (hvalid : ∀ line ∈ headerLines text, (field line).isSome) :
    (∃ parts, res.build debug = .ok (.ok parts) ∧
        ∀ k, parts.headers.getAll k = valuesToSendBack ((headerLines text).filterMap field) k) ↔
      100 ≤ res.status ∧ res.status < 1000 ∧
        ∀ k, valuesOf k ((headerLines text).filterMap field) ≠ [] →
          listed (valuesOf .connection ((headerLines text).filterMap field)) k → held k := by
  have hheaders := headers_of_tryFromString hres
  have hbuild := build_of_valid debug res (by rwa [hheaders])
  rw [hheaders] at hbuild
  split_ifs at hbuild with hstatus
  · obtain ⟨parts, hparts, -, hvalues⟩ := hbuild
    rw [hparts]
    constructor
    · rintro ⟨parts', heq, hexact⟩
      obtain rfl : parts = parts' := by simpa using heq
      refine ⟨hstatus.1, hstatus.2, ?_⟩
      intro k
      exact (sent_eq_valuesToSendBack_iff _ k).mp ((hvalues k).symm.trans (hexact k))
    · rintro ⟨-, -, hlisted⟩
      refine ⟨parts, rfl, ?_⟩
      intro k
      rw [hvalues k]
      exact (sent_eq_valuesToSendBack_iff _ k).mpr (hlisted k)
  · rw [hbuild]
    constructor
    · rintro ⟨parts, heq, -⟩
      simp at heq
    · rintro ⟨hlow, hhigh, -⟩
      exact absurd ⟨hlow, hhigh⟩ hstatus

/-- A response whose `Connection` lists names that are held back anyway. -/
def keepAliveHead : String :=
  "HTTP/1.1 200 OK\nConnection: keep-alive\nKeep-Alive: timeout=5\nX-Trace: 1\n"

theorem response_headers_filtered_exactly_iff_keepAlive :
    ∃ res, tryFromString keepAliveHead = .ok res ∧
      (∀ line ∈ headerLines keepAliveHead, (field line).isSome) ∧
      ∃ parts, res.build (fun _ => "") = .ok (.ok parts) ∧
        ∀ k, parts.headers.getAll k =
          valuesToSendBack ((headerLines keepAliveHead).filterMap field) k := by
  have hvalid : ∀ line ∈ headerLines keepAliveHead, (field line).isSome := by decide +kernel
  have hres : tryFromString keepAliveHead = .ok ⟨headerLines keepAliveHead, 200⟩ := by
    decide +kernel
  refine ⟨_, hres, hvalid, ?_⟩
  apply (response_headers_filtered_exactly_iff _ keepAliveHead _ hres hvalid).mpr
  refine ⟨by decide, by decide, ?_⟩
  intro k hvalues
  have hnames : ∀ f ∈ (headerLines keepAliveHead).filterMap field,
      listed (valuesOf .connection ((headerLines keepAliveHead).filterMap field)) f.1 →
        held f.1 := by
    decide +kernel
  obtain ⟨v, hv⟩ := List.exists_mem_of_ne_nil _ hvalues
  obtain ⟨f, hf, -⟩ := List.mem_map.mp hv
  obtain ⟨hmem, hk⟩ := List.mem_filter.mp hf
  obtain rfl : f.1 = k := by simpa using hk
  exact hnames f hmem

/-- A name that only `Connection` lists is sent back. -/
theorem listed_response_header_sent_back :
    ∃ res parts, tryFromString "HTTP/1.1 200 OK\nConnection: X-Trace\nX-Trace: 1\n" = .ok res ∧
      (∀ line ∈ res.headers, (field line).isSome) ∧
      res.build (fun _ => "") = .ok (.ok parts) ∧
      valuesToSendBack (res.headers.filterMap field) xTrace = [] ∧
      parts.headers.getAll xTrace ≠ [] := by
  refine ⟨⟨["Connection: X-Trace", "X-Trace: 1"], 200⟩,
    ⟨200, appendText .new xTrace "1"⟩, by decide +kernel, by decide +kernel, rfl,
    by decide +kernel, by decide +kernel⟩

end Lines

end CrankerRouter.Http
