import CrankerRouter.Http.Forwarding

/-!
# The request head in both protocol versions

Version 1 renders the headers before the listeners run and adds an end marker; version 3 renders
them afterwards.
-/

namespace CrankerRouter.Http

open Lib

inductive EndMarker
  | requestBodyPending
  | requestHasNoBody
  | requestBodyEnded
  deriving DecidableEq, Repr

def EndMarker.asStr : EndMarker → String
  | .requestBodyPending => "_1"
  | .requestHasNoBody => "_2"
  | .requestBodyEnded => "_3"

/-- The two lists that the loop of `build_header_str` fills. -/
structure HeaderBlock where
  headersStr : String
  cookieList : List String

def HeaderBlock.add (block : HeaderBlock) (header : HeaderName × HeaderValue) : HeaderBlock :=
  match header.2.toStr with
  | some s =>
      if eqIgnoreAsciiCase header.1.text "cookie" then
        { block with cookieList := block.cookieList ++ [s] }
      else { block with headersStr := block.headersStr ++ (header.1.text ++ ":" ++ s ++ "\n") }
  | none => block

/-- Several cookie headers become one, at the end. -/
def buildHeaderStr (hdr : HeaderMap) : String :=
  let headers := hdr.keys.flatMap fun k => (hdr.getAll k).map fun v => (k, v)
  let block := headers.foldl HeaderBlock.add ⟨"", []⟩
  if block.cookieList.isEmpty then block.headersStr
  else block.headersStr ++ ("cookie:" ++ "; ".intercalate block.cookieList ++ "\n")

structure CrankerProtocolRequestBuilder where
  requestLine : Option String
  headerMapStr : Option String
  endMarker : Option EndMarker

namespace CrankerProtocolRequestBuilder

def new : CrankerProtocolRequestBuilder := ⟨none, none, none⟩

def withRequestLine (b : CrankerProtocolRequestBuilder) (line : String) :
    CrankerProtocolRequestBuilder := { b with requestLine := some line }

def withRequestHeaders (b : CrankerProtocolRequestBuilder) (hdr : HeaderMap) :
    CrankerProtocolRequestBuilder := { b with headerMapStr := some (buildHeaderStr hdr) }

def withRequestBodyPending (b : CrankerProtocolRequestBuilder) : CrankerProtocolRequestBuilder :=
  { b with endMarker := some .requestBodyPending }

def withRequestHasNoBody (b : CrankerProtocolRequestBuilder) : CrankerProtocolRequestBuilder :=
  { b with endMarker := some .requestHasNoBody }

def withRequestBodyEnded (b : CrankerProtocolRequestBuilder) : CrankerProtocolRequestBuilder :=
  { b with endMarker := some .requestBodyEnded }

def build (b : CrankerProtocolRequestBuilder) : Except CrankerRouterException String :=
  match b.endMarker with
  | none => .error ((CrankerRouterException.new
      "failed to build cranker protocol request. end marker missing").withErrKind
        .crankerProtocolEndMarkerMissing0005)
  | some endMarker =>
      match b.requestLine, b.headerMapStr with
      | some requestLine, some headerMapStr =>
          .ok (requestLine ++ "\n" ++ headerMapStr ++ "\n" ++ endMarker.asStr)
      | _, _ =>
          if endMarker = .requestBodyEnded then .ok endMarker.asStr
          else .error (CrankerRouterException.new
            ("failed to build cranker protocol request. end marker should be RequestBodyEnded " ++
              "when no request line and header map str is present."))

end CrankerProtocolRequestBuilder

def createRequestLine (method : String) (uri : OriginalUri) : String :=
  method ++ " " ++ uri.pathAndQuery.getD "" ++ " HTTP/1.1"

/-- `on_before_proxy_to_target` of a listener, as an edit of the outgoing headers. -/
abbrev OnBeforeProxyToTarget := HeaderMap → Except CrankerRouterException HeaderMap

/-- The listeners run in turn until one fails. -/
def onBeforeProxyToTarget (listeners : List OnBeforeProxyToTarget) (hdr : HeaderMap) :
    Except CrankerRouterException HeaderMap :=
  listeners.foldlM (fun hdr listener => listener hdr) hdr

/-- A listener that, unless it fails, leaves the rendered headers as they were. -/
def KeepsHead (listener : OnBeforeProxyToTarget) : Prop :=
  ∀ hdr hdr', listener hdr = .ok hdr' → buildHeaderStr hdr' = buildHeaderStr hdr

private theorem onBeforeProxyToTarget_cons {listener : OnBeforeProxyToTarget}
    {listeners : List OnBeforeProxyToTarget} {hdr hdr' : HeaderMap} :
    onBeforeProxyToTarget (listener :: listeners) hdr = .ok hdr' ↔
      ∃ mid, listener hdr = .ok mid ∧ onBeforeProxyToTarget listeners mid = .ok hdr' := by
  simp only [onBeforeProxyToTarget, List.foldlM_cons]
  cases listener hdr <;> simp [bind, Except.bind]

private theorem onBeforeProxyToTarget_append {pre post : List OnBeforeProxyToTarget}
    {hdr mid hdr' : HeaderMap} (hpre : onBeforeProxyToTarget pre hdr = .ok mid)
    (hpost : onBeforeProxyToTarget post mid = .ok hdr') :
    onBeforeProxyToTarget (pre ++ post) hdr = .ok hdr' := by
  induction pre generalizing hdr with
  | nil =>
      cases hpre
      exact hpost
  | cons listener pre ih =>
      obtain ⟨next, hnext, hrest⟩ := onBeforeProxyToTarget_cons.mp hpre
      exact onBeforeProxyToTarget_cons.mpr ⟨next, hnext, ih hrest⟩

private theorem buildHeaderStr_onBeforeProxyToTarget {listeners : List OnBeforeProxyToTarget}
    (hkeep : ∀ listener ∈ listeners, KeepsHead listener) {hdr hdr' : HeaderMap}
    (h : onBeforeProxyToTarget listeners hdr = .ok hdr') :
    buildHeaderStr hdr' = buildHeaderStr hdr := by
  induction listeners generalizing hdr with
  | nil =>
      cases h
      rfl
  | cons listener listeners ih =>
      obtain ⟨mid, hmid, hrest⟩ := onBeforeProxyToTarget_cons.mp h
      rw [ih (fun l hl => hkeep l (List.mem_cons_of_mem _ hl)) hrest,
        hkeep listener (by simp) hdr mid hmid]

section Heads

variable (localIp cliRemoteIp : VisibleText) (uri : OriginalUri) (isTls : Bool) (config : Config)
  (version : Version) (method : String) (listeners : List OnBeforeProxyToTarget)

/-- `on_client_req` of version 1, up to the text that it sends. -/
def crankerReq (hasBody : Bool) (cliHdr : HeaderMap) :
    Except Panic (Except CrankerRouterException String) :=
  match setTargetRequestHeaders localIp cliRemoteIp uri isTls config version cliHdr .new with
  | .error p => .error p
  | .ok (hdrToTgt, _) =>
      let crankerReqBdr := (CrankerProtocolRequestBuilder.new.withRequestLine
        (createRequestLine method uri)).withRequestHeaders hdrToTgt
      match onBeforeProxyToTarget listeners hdrToTgt with
      | .error e => .ok (.error e)
      | .ok _ =>
          .ok (if hasBody then crankerReqBdr.withRequestBodyPending.build
            else crankerReqBdr.withRequestHasNoBody.build)

/-- `send_request_over_websocket_v3`, up to the text that it sends. -/
def headerText (cliHdr : HeaderMap) : Except Panic (Except CrankerRouterException String) :=
  match setTargetRequestHeaders localIp cliRemoteIp uri isTls config version cliHdr .new with
  | .error p => .error p
  | .ok (hdrToTgt, _) =>
      match onBeforeProxyToTarget listeners hdrToTgt with
      | .error e => .ok (.error (e.withErrKind .proxyListenerError0009))
      | .ok hdrToTgt =>
          .ok (.ok (createRequestLine method uri ++ "\n" ++ buildHeaderStr hdrToTgt ++ "\n"))

/-- What goes out: nothing after a failure. -/
def sentText : Except Panic (Except CrankerRouterException String) → Option String
  | .ok (.ok text) => some text
  | _ => none

private theorem build_head (hdr : HeaderMap) (hasBody : Bool) :
    (if hasBody then
      ((CrankerProtocolRequestBuilder.new.withRequestLine (createRequestLine method uri)
        ).withRequestHeaders hdr).withRequestBodyPending.build
    else
      ((CrankerProtocolRequestBuilder.new.withRequestLine (createRequestLine method uri)
        ).withRequestHeaders hdr).withRequestHasNoBody.build) =
      .ok (createRequestLine method uri ++ "\n" ++ buildHeaderStr hdr ++ "\n" ++
        if hasBody then "_1" else "_2") := by
  cases hasBody <;> rfl

/-- The text of version 1 is that of version 3 with the end marker. -/
def SameHead (hasBody : Bool) (cliHdr : HeaderMap) : Prop :=
  sentText (crankerReq localIp cliRemoteIp uri isTls config version method listeners hasBody
      cliHdr) =
    (sentText (headerText localIp cliRemoteIp uri isTls config version method listeners
      cliHdr)).map (· ++ if hasBody then "_1" else "_2")

/-- The heads compare as the map that version 1 renders does with the one version 3 renders. -/
private theorem sameHead_iff (hasBody : Bool) (cliHdr : HeaderMap) :
    SameHead localIp cliRemoteIp uri isTls config version method listeners hasBody cliHdr ↔
      ∀ hdr b hdr', setTargetRequestHeaders localIp cliRemoteIp uri isTls config version cliHdr
          .new = .ok (hdr, b) →
        onBeforeProxyToTarget listeners hdr = .ok hdr' →
        buildHeaderStr hdr' = buildHeaderStr hdr := by
  unfold SameHead crankerReq headerText
  cases setTargetRequestHeaders localIp cliRemoteIp uri isTls config version cliHdr .new with
  | error p => simp [sentText]
  | ok built =>
      obtain ⟨hdr, b⟩ := built
      cases hrun : onBeforeProxyToTarget listeners hdr with
      | error e =>
          simp only [hrun, sentText, Option.map_none, true_iff]
          rintro _ _ hdr' ⟨⟩ hrun'
          rw [hrun] at hrun'
          cases hrun'
      | ok hdr' =>
          simp only [hrun, build_head, sentText, Option.map_some, Option.some.injEq,
            Except.ok.injEq, Prod.mk.injEq]
          constructor
          · rintro h _ _ _ ⟨rfl, -⟩ hrun'
            obtain rfl : hdr' = _ := by simpa [hrun] using hrun'
            simpa [String.ext_iff] using h.symm
          · intro h
            rw [h hdr b hdr' ⟨rfl, rfl⟩ hrun]

/-- The heads agree where every listener keeps the rendered headers, and one that does not is
noticed if the others do. Version 3 sends what the last listener leaves, and a listener that fails
stops both. -/
theorem heads_agree (hasBody : Bool) (cliHdr : HeaderMap) :
    ((∀ listener ∈ listeners, KeepsHead listener) →
      SameHead localIp cliRemoteIp uri isTls config version method listeners hasBody cliHdr) ∧
    (∀ pre listener post, listeners = pre ++ listener :: post →
      (∀ other ∈ pre ++ post, KeepsHead other) →
      SameHead localIp cliRemoteIp uri isTls config version method listeners hasBody cliHdr →
      ∀ hdr b before after left,
        setTargetRequestHeaders localIp cliRemoteIp uri isTls config version cliHdr .new =
          .ok (hdr, b) →
        onBeforeProxyToTarget pre hdr = .ok before → listener before = .ok after →
        onBeforeProxyToTarget post after = .ok left →
        buildHeaderStr after = buildHeaderStr before) ∧
    (∀ hdr b hdr', setTargetRequestHeaders localIp cliRemoteIp uri isTls config version cliHdr
        .new = .ok (hdr, b) →
      onBeforeProxyToTarget listeners hdr = .ok hdr' →
      sentText (headerText localIp cliRemoteIp uri isTls config version method listeners cliHdr) =
        some (createRequestLine method uri ++ "\n" ++ buildHeaderStr hdr' ++ "\n")) ∧
    ∀ hdr b e, setTargetRequestHeaders localIp cliRemoteIp uri isTls config version cliHdr
        .new = .ok (hdr, b) →
      onBeforeProxyToTarget listeners hdr = .error e →
      sentText (crankerReq localIp cliRemoteIp uri isTls config version method listeners hasBody
          cliHdr) = none ∧
        sentText (headerText localIp cliRemoteIp uri isTls config version method listeners
          cliHdr) = none := by
  refine ⟨?_, ?_, ?_, ?_⟩
  · intro hkeep
    rw [sameHead_iff]
    intro hdr b hdr' _ hrun
    exact buildHeaderStr_onBeforeProxyToTarget hkeep hrun
  · rintro pre listener post rfl hothers hsame hdr b before after left hset hpre hlistener hpost
    have hrun := onBeforeProxyToTarget_append hpre
      (onBeforeProxyToTarget_cons.mpr ⟨after, hlistener, hpost⟩)
    have hpreKeep := buildHeaderStr_onBeforeProxyToTarget
      (fun l hl => hothers l (List.mem_append_left _ hl)) hpre
    have hpostKeep := buildHeaderStr_onBeforeProxyToTarget
      (fun l hl => hothers l (List.mem_append_right _ hl)) hpost
    rw [← hpostKeep, hpreKeep]
    exact (sameHead_iff localIp cliRemoteIp uri isTls config version method _ hasBody cliHdr).mp
      hsame hdr b left hset hrun
  · intro hdr b hdr' hset hrun
    simp only [headerText, hset, hrun, sentText]
  · intro hdr b e hset hrun
    simp only [crankerReq, headerText, hset, hrun, sentText, and_self]

end Heads

/-- A listener that adds a header. -/
def addsHeader : OnBeforeProxyToTarget := fun hdr => .ok (appendText hdr ⟨"x-a", by decide⟩ "1")

/-- A listener that refuses requests that carry a cookie. -/
def refusesCookies : OnBeforeProxyToTarget := fun hdr =>
  if (hdr.get ⟨"cookie", by decide⟩).isSome then .error (.new "no cookies") else .ok hdr

theorem heads_agree_refusesCookies :
    (∀ listener ∈ [refusesCookies], KeepsHead listener) ∧
      SameHead routerIp clientIp plainUri false defaultConfig .http11 "GET" [refusesCookies] true
        proxiedClient := by
  have hkeep : ∀ listener ∈ [refusesCookies], KeepsHead listener := by
    intro listener hmem hdr hdr' hrun
    obtain rfl := List.mem_singleton.mp hmem
    unfold refusesCookies at hrun
    split_ifs at hrun
    cases hrun
    rfl
  exact ⟨hkeep, (heads_agree routerIp clientIp plainUri false defaultConfig .http11 "GET"
    [refusesCookies] true proxiedClient).1 hkeep⟩

/-- Version 1 has rendered the headers before the listener adds its own. -/
theorem listener_edit_lost_in_v1 :
    sentText (crankerReq routerIp clientIp plainUri false defaultConfig .http11 "GET" [addsHeader]
        false .new) =
      some ("GET / HTTP/1.1\nvia:HTTP/1.1 scr-axum\n" ++
        "forwarded:by=10.0.0.1;for=10.0.0.2;proto=http\n\n_2") ∧
    sentText (headerText routerIp clientIp plainUri false defaultConfig .http11 "GET" [addsHeader]
        .new) =
      some ("GET / HTTP/1.1\nvia:HTTP/1.1 scr-axum\n" ++
        "forwarded:by=10.0.0.1;for=10.0.0.2;proto=http\nx-a:1\n\n") := by
  decide +kernel

end CrankerRouter.Http
