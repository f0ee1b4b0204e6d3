import CrankerRouter.V1.Upload

/-!
# The response of a V1 socket

The callbacks that build the response, one event after the other: `on_text`, `on_binary`,
`on_close`, `on_error` and `terminate_all_conn`, each with its result.  The socket machine takes
their operations one by one; `text_steps`, `binary_steps`, `close_steps`, `error_steps` and
`terminate_steps` say that a task which is not interrupted does what is written here.
-/

namespace CrankerRouter.V1

open Lib

/-- The socket with the counters of its response, which the socket machine leaves out.  The fields
of `RSv1ClientSideResponseSender` are the two channels and the two header flags of the socket and
the fields here. -/
structure Responder where
  rs : RouterSocketV1
  bytesSent : BitVec 64
  binaryFrameReceived : BitVec 64
  isTgtResBdyReceived : Bool

abbrev CallResult := Except CrankerRouterException Unit

namespace Responder

def new (rs : RouterSocketV1) : Responder := ⟨rs, 0, 0, false⟩

variable (dbg : DebugText)

/-- The send of the header, its bytes counted if it succeeds. -/
def queueHeader (x : Responder) (txt : String) : Responder × CallResult :=
  if x.rs.tgtResHdr.closed then
    (x, .error (.new s!"rare ex: failed to send txt to cli res chan: {dbg.sendError}. "))
  else
    ({ x with
        rs := x.rs.sendHdr (.ok txt)
        bytesSent := x.bytesSent + BitVec.ofNat 64 (utf8 txt).length }, .ok ())

def sendTargetResponseHeaderTextToClient (x : Responder) (txt : String) :
    Responder × CallResult :=
  if x.rs.isTgtResHdrSent || x.rs.isTgtResHdrReceived then
    (x, .error (.new "res header already handled!"))
  else
    let x := { x with rs := { x.rs with isTgtResHdrReceived := true } }
    if headerMaxSize < (utf8 txt).length then
      (x, .error (.new "response header too large: over 64 * 1024 bytes."))
    else
      match x.queueHeader dbg txt with
      | (x, res) =>
          ({ x with rs := { x.rs with
              tgtResHdr := x.rs.tgtResHdr.close
              isTgtResHdrSent := true } }, res)

def sendTargetResponseBodyBinaryFragmentToClient (x : Responder) (bin : Bytes) :
    Responder × CallResult :=
  if !x.rs.isTgtResHdrReceived || !x.rs.isTgtResHdrSent then
    (x, .error (.new "res header not handle yet but comes binary first"))
  else
    let x := { x with isTgtResBdyReceived := true }
    if x.rs.tgtResBdy.closed then
      (x, .error (.new s!"failed to send binary to cli res chan: {dbg.sendError}"))
    else
      ({ x with
          rs := x.rs.sendBdy (.ok bin)
          bytesSent := x.bytesSent + BitVec.ofNat 64 bin.length }, .ok ())

def onText (x : Responder) (txt : String) : Responder × CallResult :=
  if !x.rs.isTgtCanSendResNow then (x, .error (.new "recv txt before handle cli req."))
  else x.sendTargetResponseHeaderTextToClient dbg txt

/-- `answer` is that of the listeners that really need the chunk. -/
def onBinary (x : Responder) (bin : Bytes) (answer : Option CrankerRouterException) :
    Responder × CallResult :=
  if !x.rs.isTgtCanSendResNow then (x, .error (.new "recv bin before handle cli req."))
  else
    match { x with binaryFrameReceived := x.binaryFrameReceived + 1
        }.sendTargetResponseBodyBinaryFragmentToClient dbg bin with
    | (x, .error crex) => (x, .error crex)
    | (x, .ok ()) =>
        (x, match x.rs.reallyNeedOnResponseBodyChunkReceivedFromTarget, answer with
          | true, some crex => .error crex
          | _, _ => .ok ())

/-- The calls of `on_complete` from a listener on; the first error ends them. -/
def completions (answers : Nat → Option CrankerRouterException) :
    List Nat → List Nat × CallResult
  | [] => ([], .ok ())
  | i :: is =>
      match answers i with
      | some crex => ([i], .error crex)
      | none => (i :: (completions answers is).1, (completions answers is).2)

def raiseCompletionEvent (x : Responder) (answers : Nat → Option CrankerRouterException) :
    Responder × CallResult :=
  if x.rs.clientReqStartTs = 0 ∨ x.rs.proxyListeners = 0 then (x, .ok ())
  else
    ({ x with rs := { x.rs with
        durationMillis := x.rs.now - x.rs.clientReqStartTs
        onComplete := x.rs.onComplete ++ (completions answers (List.range x.rs.proxyListeners)).1 } },
      (completions answers (List.range x.rs.proxyListeners)).2)

def onError (x : Responder) (crex : CrankerRouterException)
    (answers : Nat → Option CrankerRouterException) : Responder × CallResult :=
  if x.rs.errChan.closed then (x, .error (rareErrChanClosed dbg))
  else
    (({ x with rs := { x.rs with errChan := x.rs.errChan.send crex } }.raiseCompletionEvent
      answers).1, .ok ())

def sendHdrErr (x : Responder) (ex : CrankerRouterException) : Responder :=
  { x with rs := x.rs.sendHdr (.error ex) }

def sendBdyErr (x : Responder) (ex : CrankerRouterException) : Responder :=
  { x with rs := x.rs.sendBdy (.error ex) }

def closeBoth (x : Responder) : Responder :=
  { x with rs := { x.rs with
      tgtResHdr := x.rs.tgtResHdr.close
      tgtResBdy := x.rs.tgtResBdy.close } }

/-- `total_err = exceptions::compose_ex(total_err, may_ex)`. -/
def compose (total : Option CrankerRouterException) : CallResult → Option CrankerRouterException
  | .ok () => total
  | .error ex => composeEx total ex

/-- The answers of the listeners to the calls of `on_complete` within one `on_close`. -/
structure CloseAnswers where
  failPrior : Nat → Option CrankerRouterException
  upstream : Nat → Option CrankerRouterException
  closed : Nat → Option CrankerRouterException

/-- The part of `on_close` for a client request of which nothing was sent. -/
def failPrior (x : Responder) (code : Nat) (answers : Nat → Option CrankerRouterException) :
    Responder × Option CrankerRouterException :=
  if x.rs.isTgtCanSendResNow && x.rs.bytesReceived == 0 then
    match V3.cliFailPriorToTgtRes code with
    | some ex => ((x.onError dbg ex answers).1, compose none (x.onError dbg ex answers).2)
    | none => (x, none)
  else (x, none)

/-- The part of `on_close` that ends the response. -/
def closeResponse (x : Responder) (code : Nat) (reason : String)
    (answers : Nat → Option CrankerRouterException) (total : Option CrankerRouterException) :
    Responder × Option CrankerRouterException :=
  if !x.rs.tgtResHdr.closed || !x.rs.tgtResBdy.closed then
    if code = 1000 then (x.closeBoth, total)
    else
      let ex := V3.upstreamServerError code reason
      match ((x.sendHdrErr ex).sendBdyErr ex).onError dbg ex answers with
      | (x, res) => (x.closeBoth, compose total res)
  else (x, total)

def onClose (x : Responder) (frame : Option CloseFrame) (answers : CloseAnswers) :
    Responder × CallResult :=
  let code := (frame.map (·.code)).getD 4000
  let reason := (frame.map (·.reason)).getD ""
  let x := { x with rs := ({ x.rs with isCloseMsgReceived := true }.sendData (.close frame)) }
  match x.failPrior dbg code answers.failPrior with
  | (x, total) =>
    match x.closeResponse dbg code reason answers.upstream total with
    | (x, total) =>
      match x.raiseCompletionEvent answers.closed with
      | (x, res) =>
          (x, match compose total res with
            | some ex => .error ex
            | none => .ok ())

def terminateAllConn (x : Responder) (optCrex : Option CrankerRouterException) :
    Responder × CallResult :=
  let crex := optCrex.getD (.new "ex occurs and should terminate all conn.")
  (((x.sendHdrErr crex).sendBdyErr crex).closeBoth, .ok ())

/-! ### The machine of the events -/

/-- What the callbacks write of the response. -/
structure Response where
  isTgtResHdrReceived : Bool
  isTgtResHdrSent : Bool
  header : List (Except CrankerRouterException String)
  headerClosed : Bool
  body : List (Except CrankerRouterException Bytes)
  bodyClosed : Bool
  deriving DecidableEq

def response (rs : RouterSocketV1) : Response :=
  ⟨rs.isTgtResHdrReceived, rs.isTgtResHdrSent, rs.tgtResHdr.sent, rs.tgtResHdr.closed,
    rs.tgtResBdy.sent, rs.tgtResBdy.closed⟩

/-- `start` is the store of the sender before it sends the request head, and `elsewhere` whatever
the other tasks do to the socket: they read the channels, but do not write the response. -/
inductive Event
  | start
  | text (txt : String)
  | binary (bin : Bytes) (answer : Option CrankerRouterException)
  | close (frame : Option CloseFrame) (answers : CloseAnswers)
  | error (crex : CrankerRouterException) (answers : Nat → Option CrankerRouterException)
  | terminate (optCrex : Option CrankerRouterException)
  | elsewhere (rs : RouterSocketV1)

def step (x : Responder) : Event → Option Responder
  | .start => some { x with rs := { x.rs with isTgtCanSendResNow := true } }
  | .text txt => some (x.onText dbg txt).1
  | .binary bin answer => some (x.onBinary dbg bin answer).1
  | .close frame answers => some (x.onClose dbg frame answers).1
  | .error crex answers => some (x.onError dbg crex answers).1
  | .terminate optCrex => some (x.terminateAllConn optCrex).1
  | .elsewhere rs =>
      if response rs = response x.rs ∧ (x.rs.isTgtCanSendResNow → rs.isTgtCanSendResNow) then
        some { x with rs := rs }
      else none

def machine : Machine Responder Event where
  init x := ∃ proxyListeners needResponseChunks needRequestChunks now,
    x = .new (.new proxyListeners needResponseChunks needRequestChunks now)
  step := step dbg

/-- History: the texts received after the request was started, and the binary messages that were
accepted for the body. -/
structure ResponseLog where
  texts : List String
  accepted : List Bytes

def ResponseLog.empty : ResponseLog := ⟨[], []⟩

/-- The result of the send to the body within `on_binary`. -/
def accepts (x : Responder) (bin : Bytes) : CallResult :=
  if !x.rs.isTgtCanSendResNow then .error (.new "recv bin before handle cli req.")
  else (x.sendTargetResponseBodyBinaryFragmentToClient dbg bin).2

def note (x : Responder) (e : Event) (log : ResponseLog) : ResponseLog :=
  match e with
  | .text txt => if x.rs.isTgtCanSendResNow then { log with texts := log.texts ++ [txt] } else log
  | .binary bin _ =>
      match x.accepts dbg bin with
      | .ok () => { log with accepted := log.accepted ++ [bin] }
      | .error _ => log
  | _ => log

def loggedMachine : Machine (Responder × ResponseLog) Event :=
  (machine dbg).logged .empty (note dbg)

variable {dbg}

/-- The items on the two channels that are no errors. -/
def headers (x : Responder) : List String := x.rs.tgtResHdr.oks

def chunks (x : Responder) : List Bytes := x.rs.tgtResBdy.oks

def responseLength (x : Responder) : Nat :=
  (x.headers.map fun txt => (utf8 txt).length).sum + (x.chunks.map List.length).sum

/-- At most one header, the first text after the start and no longer than allowed; no chunk without
it; the chunks are the messages accepted; and all bytes are counted. -/
structure Responds (x : Responder) (log : ResponseLog) : Prop where
  header : x.headers = [] ∨ ∃ txt, x.headers = [txt] ∧ log.texts.head? = some txt ∧
    (utf8 txt).length ≤ headerMaxSize
  headerFirst : x.headers = [] → x.chunks = []
  chunks : x.chunks = log.accepted
  bytesSent : x.bytesSent = BitVec.ofNat 64 x.responseLength

/-- What carries the response through a run: the flags follow the first text, and a header channel
that was closed without a header has its body channel closed as well. -/
structure Invariant (x : Responder) (log : ResponseLog) : Prop extends Responds x log where
  received : x.rs.isTgtResHdrSent = true → x.rs.isTgtResHdrReceived = true
  texts : x.rs.isTgtResHdrReceived = false → log.texts = []
  unsent : x.rs.isTgtResHdrReceived = false → x.headers = []
  shut : x.rs.isTgtResHdrReceived = false → x.rs.tgtResHdr.closed = true →
    x.rs.tgtResBdy.closed = true
  lost : x.rs.isTgtResHdrSent = true → x.headers = [] → x.rs.tgtResBdy.closed = true

/-! ### Events that add nothing to the response -/

section Quiet

variable {x y z : Responder}

/-- Nothing is added, and the body is closed if a channel is. -/
structure Quiet (x y : Responder) : Prop where
  received : y.rs.isTgtResHdrReceived = x.rs.isTgtResHdrReceived
  sent : y.rs.isTgtResHdrSent = x.rs.isTgtResHdrSent
  headers : y.headers = x.headers
  chunks : y.chunks = x.chunks
  bytesSent : y.bytesSent = x.bytesSent
  closed : y.rs.tgtResBdy.closed = true ∨ y.rs.tgtResHdr.closed = x.rs.tgtResHdr.closed ∧
    y.rs.tgtResBdy.closed = x.rs.tgtResBdy.closed

theorem Quiet.refl (x : Responder) : Quiet x x := ⟨rfl, rfl, rfl, rfl, rfl, .inr ⟨rfl, rfl⟩⟩

theorem Quiet.trans (hxy : Quiet x y) (hyz : Quiet y z) : Quiet x z := by
  refine ⟨hyz.received.trans hxy.received, hyz.sent.trans hxy.sent, hyz.headers.trans hxy.headers,
    hyz.chunks.trans hxy.chunks, hyz.bytesSent.trans hxy.bytesSent, ?_⟩
  obtain hz | ⟨hhdr, hbdy⟩ := hyz.closed
  · exact .inl hz
  · obtain hy | ⟨hhdr', hbdy'⟩ := hxy.closed
    · exact .inl (hbdy.trans hy)
    · exact .inr ⟨hhdr.trans hhdr', hbdy.trans hbdy'⟩

private theorem quiet_of_response (h : response y.rs = response x.rs)
    (hbytes : y.bytesSent = x.bytesSent) :
    Quiet x y := by
  simp only [response, Response.mk.injEq] at h
  obtain ⟨hreceived, hsent, hhdr, hhdr', hbdy, hbdy'⟩ := h
  refine ⟨hreceived, hsent, ?_, ?_, hbytes, .inr ⟨hhdr', hbdy'⟩⟩
  · simp only [headers, Chan.oks, hhdr]
  · simp only [Responder.chunks, Chan.oks, hbdy]

private theorem quiet_sendHdrErr (x : Responder) (ex : CrankerRouterException) :
    Quiet x (x.sendHdrErr ex) :=
  ⟨rfl, rfl, Chan.oks_send_error _ _, rfl, rfl, .inr ⟨Chan.send_closed _ _, rfl⟩⟩

private theorem quiet_sendBdyErr (x : Responder) (ex : CrankerRouterException) :
    Quiet x (x.sendBdyErr ex) :=
  ⟨rfl, rfl, rfl, Chan.oks_send_error _ _, rfl, .inr ⟨rfl, Chan.send_closed _ _⟩⟩

private theorem quiet_closeBoth (x : Responder) :
    Quiet x x.closeBoth := ⟨rfl, rfl, rfl, rfl, rfl, .inl rfl⟩

private theorem quiet_raiseCompletionEvent (x : Responder)
    (answers : Nat → Option CrankerRouterException) :
    Quiet x (x.raiseCompletionEvent answers).1 := by
  unfold raiseCompletionEvent
  split
  · exact .refl x
  · exact quiet_of_response rfl rfl

private theorem quiet_onError (x : Responder) (crex : CrankerRouterException)
    (answers : Nat → Option CrankerRouterException) : Quiet x (x.onError dbg crex answers).1 := by
  unfold onError
  split
  · exact .refl x
  · have hsent : Quiet x { x with rs := { x.rs with errChan := x.rs.errChan.send crex } } :=
      quiet_of_response rfl rfl
    exact hsent.trans (quiet_raiseCompletionEvent _ answers)

private theorem quiet_failPrior (x : Responder) (code : Nat)
    (answers : Nat → Option CrankerRouterException) :
    Quiet x (x.failPrior dbg code answers).1 := by
  unfold failPrior
  split
  · split
    · exact quiet_onError x _ answers
    · exact .refl x
  · exact .refl x

private theorem quiet_closeResponse (x : Responder) (code : Nat) (reason : String)
    (answers : Nat → Option CrankerRouterException) (total : Option CrankerRouterException) :
    Quiet x (x.closeResponse dbg code reason answers total).1 := by
  unfold closeResponse
  split
  · split
    · exact quiet_closeBoth x
    · have herr := (quiet_sendHdrErr x (V3.upstreamServerError code reason)).trans
        (quiet_sendBdyErr _ (V3.upstreamServerError code reason))
      exact (herr.trans (quiet_onError _ _ answers)).trans (quiet_closeBoth _)
  · exact .refl x

private theorem quiet_onClose (x : Responder) (frame : Option CloseFrame) (answers : CloseAnswers) :
    Quiet x (x.onClose dbg frame answers).1 := by
  have hsent : Quiet x
      { x with rs := ({ x.rs with isCloseMsgReceived := true }.sendData (.close frame)) } :=
    quiet_of_response rfl rfl
  exact ((hsent.trans (quiet_failPrior _ _ _)).trans (quiet_closeResponse _ _ _ _ _)).trans
    (quiet_raiseCompletionEvent _ _)

private theorem quiet_terminateAllConn (x : Responder) (optCrex : Option CrankerRouterException) :
    Quiet x (x.terminateAllConn optCrex).1 :=
  ((quiet_sendHdrErr x _).trans (quiet_sendBdyErr _ _)).trans (quiet_closeBoth _)

variable {log : ResponseLog}

theorem Invariant.quiet (h : Invariant x log) (hq : Quiet x y) : Invariant y log := by
  have hlength : y.responseLength = x.responseLength := by
    rw [responseLength, responseLength, hq.headers, hq.chunks]
  refine ⟨⟨?_, ?_, ?_, ?_⟩, ?_, ?_, ?_, ?_, ?_⟩
  · rw [hq.headers]
    exact h.header
  · rw [hq.headers, hq.chunks]
    exact h.headerFirst
  · rw [hq.chunks]
    exact h.chunks
  · rw [hq.bytesSent, hlength]
    exact h.bytesSent
  · rw [hq.sent, hq.received]
    exact h.received
  · rw [hq.received]
    exact h.texts
  · rw [hq.received, hq.headers]
    exact h.unsent
  · intro hreceived hhdr
    rw [hq.received] at hreceived
    obtain hclosed | ⟨hhdr', hbdy⟩ := hq.closed
    · exact hclosed
    · exact hbdy.trans (h.shut hreceived (hhdr'.symm.trans hhdr))
  · intro hsent hnone
    rw [hq.sent] at hsent
    rw [hq.headers] at hnone
    obtain hclosed | ⟨-, hbdy⟩ := hq.closed
    · exact hclosed
    · exact hbdy.trans (h.lost hsent hnone)

end Quiet

/-! ### The messages of the target -/

section Messages

variable {x : Responder} {log : ResponseLog}

private theorem Invariant.later (h : Invariant x log) (hreceived : x.rs.isTgtResHdrReceived = true)
    (txt : String) : Invariant x { log with texts := log.texts ++ [txt] } := by
  refine ⟨⟨?_, h.headerFirst, h.chunks, h.bytesSent⟩, h.received, ?_, h.unsent, h.shut, h.lost⟩
  · obtain hnone | ⟨first, hheaders, hfirst, hlength⟩ := h.header
    · exact .inl hnone
    · refine .inr ⟨first, hheaders, ?_, hlength⟩
      simp [List.head?_append, hfirst]
  · intro hnot
    rw [hreceived] at hnot
    cases hnot

theorem Invariant.first (h : Invariant x log) (hreceived : x.rs.isTgtResHdrReceived = false)
    (hsent : x.rs.isTgtResHdrSent = false) (txt : String) :
    Invariant (x.sendTargetResponseHeaderTextToClient dbg txt).1
      { log with texts := log.texts ++ [txt] } := by
  have hnone := h.unsent hreceived
  have htexts := h.texts hreceived
  have hchunks := h.headerFirst hnone
  unfold sendTargetResponseHeaderTextToClient
  simp only [hreceived, hsent, Bool.or_self, Bool.false_eq_true, if_false]
  split
  · -- too large: the header counts as received and is never sent
    exact ⟨⟨.inl hnone, h.headerFirst, h.chunks, h.bytesSent⟩, fun _ => rfl, nofun, nofun, nofun,
      nofun⟩
  · rename_i hlength
    unfold queueHeader
    cases hclosed : x.rs.tgtResHdr.closed with
    | true =>
        simp only [if_true]
        exact ⟨⟨.inl hnone, h.headerFirst, h.chunks, h.bytesSent⟩, fun _ => rfl, nofun, nofun, nofun,
          fun _ _ => h.shut hreceived hclosed⟩
    | false =>
        have hheaders : (x.rs.tgtResHdr.send (.ok txt)).oks = [txt] := by
          rw [Chan.oks_send_ok hclosed]
          simpa [headers] using hnone
        simp only [Bool.false_eq_true, if_false]
        refine ⟨⟨.inr ⟨txt, hheaders, ?_, Nat.not_lt.mp hlength⟩, fun _ => hchunks, h.chunks, ?_⟩,
          fun _ => rfl, nofun, nofun, nofun, ?_⟩
        · simp [htexts]
        · have hbytes := h.bytesSent
          simp only [responseLength, hnone, hchunks, List.map_nil, List.sum_nil] at hbytes
          show x.bytesSent + BitVec.ofNat 64 (utf8 txt).length = BitVec.ofNat 64
            (((x.rs.tgtResHdr.send (.ok txt)).oks.map fun txt => (utf8 txt).length).sum +
              (x.chunks.map List.length).sum)
          rw [hheaders, hchunks, hbytes]
          simp
        · intro _ hempty
          have hcontra := hheaders.symm.trans hempty
          cases hcontra

theorem Invariant.text (h : Invariant x log) (txt : String) :
    Invariant (x.onText dbg txt).1 (note dbg x (.text txt) log) := by
  unfold onText note
  cases hstarted : x.rs.isTgtCanSendResNow with
  | false => exact h
  | true =>
      simp only [Bool.not_true, Bool.false_eq_true, if_false, if_true]
      cases hreceived : x.rs.isTgtResHdrReceived with
      | true =>
          have hsame : (x.sendTargetResponseHeaderTextToClient dbg txt).1 = x := by
            simp [sendTargetResponseHeaderTextToClient, hreceived]
          rw [hsame]
          exact h.later hreceived txt
      | false =>
          have hsent : x.rs.isTgtResHdrSent = false := by
            by_contra hsent
            have hcontra := h.received (by simpa using hsent)
            rw [hreceived] at hcontra
            cases hcontra
          exact h.first hreceived hsent txt

theorem Invariant.chunk (h : Invariant x log) (hsent : x.rs.isTgtResHdrSent = true)
    (hopen : x.rs.tgtResBdy.closed = false) (bin : Bytes) (frames : BitVec 64) (received : Bool) :
    Invariant ⟨x.rs.sendBdy (.ok bin), x.bytesSent + BitVec.ofNat 64 bin.length, frames, received⟩
      { log with accepted := log.accepted ++ [bin] } := by
  have hsome : x.headers ≠ [] := by
    intro hnone
    have hclosed := h.lost hsent hnone
    rw [hopen] at hclosed
    cases hclosed
  have hchunks : (x.rs.tgtResBdy.send (.ok bin)).oks = x.chunks ++ [bin] :=
    Chan.oks_send_ok hopen bin
  refine ⟨⟨h.header, fun hnone => absurd hnone hsome, ?_, ?_⟩, h.received, h.texts, h.unsent, ?_,
    fun _ hnone => absurd hnone hsome⟩
  · show (x.rs.tgtResBdy.send (.ok bin)).oks = log.accepted ++ [bin]
    rw [hchunks, h.chunks]
  · show x.bytesSent + BitVec.ofNat 64 bin.length = BitVec.ofNat 64
      ((x.headers.map fun txt => (utf8 txt).length).sum +
        ((x.rs.tgtResBdy.send (.ok bin)).oks.map List.length).sum)
    rw [hchunks, h.bytesSent, ← BitVec.ofNat_add]
    simp [responseLength, Nat.add_assoc]
  · intro hreceived
    exact absurd (h.unsent hreceived) hsome

theorem Invariant.binary (h : Invariant x log) (bin : Bytes)
    (answer : Option CrankerRouterException) :
    Invariant (x.onBinary dbg bin answer).1 (note dbg x (.binary bin answer) log) := by
  unfold onBinary note accepts sendTargetResponseBodyBinaryFragmentToClient
  cases hstarted : x.rs.isTgtCanSendResNow with
  | false => exact h
  | true =>
      simp only [Bool.not_true, Bool.false_eq_true, if_false]
      cases hflags : !x.rs.isTgtResHdrReceived || !x.rs.isTgtResHdrSent with
      | true =>
          simp only [if_true]
          exact h.quiet (quiet_of_response rfl rfl)
      | false =>
          have hsent : x.rs.isTgtResHdrSent = true := by
            simp only [Bool.or_eq_false_iff, Bool.not_eq_false'] at hflags
            exact hflags.2
          simp only [Bool.false_eq_true, if_false]
          cases hclosed : x.rs.tgtResBdy.closed with
          | true =>
              simp only [if_true]
              exact h.quiet (quiet_of_response rfl rfl)
          | false =>
              simp only [Bool.false_eq_true, if_false]
              exact h.chunk hsent hclosed bin _ _

end Messages

theorem Invariant.step {x y : Responder} {log : ResponseLog} {e : Event} (h : Invariant x log)
    (hstep : step dbg x e = some y) : Invariant y (note dbg x e log) := by
  cases e with
  | text txt =>
      cases hstep
      exact h.text txt
  | binary bin answer =>
      cases hstep
      exact h.binary bin answer
  | start =>
      cases hstep
      exact h.quiet (quiet_of_response rfl rfl)
  | close frame answers =>
      cases hstep
      exact h.quiet (quiet_onClose x frame answers)
  | error crex answers =>
      cases hstep
      exact h.quiet (quiet_onError x crex answers)
  | terminate optCrex =>
      cases hstep
      exact h.quiet (quiet_terminateAllConn x optCrex)
  | elsewhere rs =>
      simp only [Responder.step] at hstep
      split at hstep <;> cases hstep
      rename_i hkeeps
      exact h.quiet (quiet_of_response hkeeps.1 rfl)

private theorem invariant_init {x : Responder} (h : (machine dbg).init x) : Invariant x .empty := by
  obtain ⟨proxyListeners, needResponseChunks, needRequestChunks, now, rfl⟩ := h
  exact ⟨⟨.inl rfl, fun _ => rfl, rfl, rfl⟩, nofun, fun _ => rfl, fun _ => rfl, nofun, nofun⟩

/-! ### The socket machine runs the callbacks -/

section Machine

variable {role : Role} {s t u : RouterSocketV1 × Option CrankerRouterException}
  {ops ops' ops'' : List Op}

/-- The task of `role` comes from `ops` to `ops'` by steps of its own, which take the socket and the
`total_err` of `on_close` from `s` to `t`. -/
def Works (dbg : DebugText) (role : Role) (s : RouterSocketV1 × Option CrankerRouterException)
    (ops : List Op) (t : RouterSocketV1 × Option CrankerRouterException) (ops' : List Op) : Prop :=
  ∀ (z : Socket) (rest : List Op), (z.rs, z.totalErr) = s → z.tasks role = ops ++ rest →
    ∃ z', (socketMachine dbg).Reach Machine.anyAction z z' ∧ (z'.rs, z'.totalErr) = t ∧
      z'.tasks role = ops' ++ rest

theorem Works.trans (h : Works dbg role s ops t ops') (h' : Works dbg role t ops' u ops'') :
    Works dbg role s ops u ops'' := by
  intro z rest hs htodo
  obtain ⟨y, hreach, ht, htodo'⟩ := h z rest hs htodo
  obtain ⟨y', hreach', hu, htodo''⟩ := h' y rest ht htodo'
  exact ⟨y', hreach.trans hreach', hu, htodo''⟩

theorem Works.frame (h : Works dbg role s ops t ops') (more : List Op) :
    Works dbg role s (ops ++ more) t (ops' ++ more) := by
  intro z rest hs htodo
  obtain ⟨y, hreach, ht, htodo'⟩ := h z (more ++ rest) hs (by simpa using htodo)
  exact ⟨y, hreach, ht, by simpa using htodo'⟩

theorem Works.cons {op : Op} (h : Works dbg role s [op] t [])
    (h' : Works dbg role t ops u ops') : Works dbg role s (op :: ops) u ops' :=
  (h.frame ops).trans h'

private theorem works_exec {op : Op} (c : Choice)
    (hexec : ∀ z : Socket, op.exec dbg { z with rs := s.1, totalErr := s.2 } c =
      some ({ z with rs := t.1, totalErr := t.2 }, ops', none)) :
    Works dbg role s [op] t ops' := by
  intro z rest hs htodo
  have hexec' : op.exec dbg z c = some ({ z with rs := t.1, totalErr := t.2 }, ops', none) := by
    subst hs
    exact hexec z
  have hstep : (socketMachine dbg).step z (.task role c) =
      some (({ z with rs := t.1, totalErr := t.2 } : Socket).setTask role (ops' ++ rest)) := by
    simp only [socketMachine, V1.step, htodo, List.cons_append, List.nil_append, hexec']
    rfl
  exact ⟨_, Machine.reach_one hstep, rfl, by simp [Socket.setTask]⟩

/-- What the receive pipe does with the `Err` of a callback. -/
def failed : CallResult → List Op
  | .ok () => []
  | .error crex => [.onError crex false]

/-- What a result adds to `total_err`. -/
def collect (inClose : Bool) (total : Option CrankerRouterException) (res : CallResult) :
    Option CrankerRouterException := if inClose then compose total res else total

variable {total : Option CrankerRouterException} {rs : RouterSocketV1}

private theorem works_closeHdr : Works dbg role (rs, total) [.closeHdr]
    ({ rs with tgtResHdr := rs.tgtResHdr.close }, total) [] := works_exec .go fun _ => rfl

private theorem works_closeBdy : Works dbg role (rs, total) [.closeBdy]
    ({ rs with tgtResBdy := rs.tgtResBdy.close }, total) [] := works_exec .go fun _ => rfl

private theorem works_sendHdrErr (ex : CrankerRouterException) :
    Works dbg role (rs, total) [.sendHdrErr ex] (rs.sendHdr (.error ex), total) [] :=
  works_exec .go fun _ => rfl

private theorem works_sendBdyErr (ex : CrankerRouterException) :
    Works dbg role (rs, total) [.sendBdyErr ex] (rs.sendBdy (.error ex), total) [] :=
  works_exec .go fun _ => rfl

private theorem works_storeHdrSent : Works dbg role (rs, total) [.storeHdrSent]
    ({ rs with isTgtResHdrSent := true }, total) [] := works_exec .go fun _ => rfl

private theorem queueHeader_steps (x : Responder) (txt : String) :
    Works dbg role (x.rs, total) [.queueHeaderText txt] ((x.queueHeader dbg txt).1.rs, total)
      ([.closeHdr, .storeHdrSent] ++ failed (x.queueHeader dbg txt).2) := by
  apply works_exec .go
  intro z
  unfold queueHeader
  cases hclosed : x.rs.tgtResHdr.closed with
  | true => simp [Op.exec, Op.group, execRecv, hclosed, failed]
  | false => simp [Op.exec, Op.group, execRecv, hclosed, failed]

private theorem header_steps (x : Responder) (txt : String) :
    Works dbg role (x.rs, total) [.sendHeaderText txt]
      ((x.sendTargetResponseHeaderTextToClient dbg txt).1.rs, total)
      (failed (x.sendTargetResponseHeaderTextToClient dbg txt).2) := by
  unfold sendTargetResponseHeaderTextToClient
  cases hflags : x.rs.isTgtResHdrSent || x.rs.isTgtResHdrReceived with
  | true =>
      apply works_exec .go
      intro z
      simp [Op.exec, Op.group, execRecv, hflags, failed]
  | false =>
      by_cases hlength : headerMaxSize < (utf8 txt).length
      · apply works_exec .go
        intro z
        simp [Op.exec, Op.group, execRecv, hflags, hlength, failed]
      have hreceived : Works dbg role (x.rs, total) [.sendHeaderText txt]
          ({ x.rs with isTgtResHdrReceived := true }, total) [.queueHeaderText txt] := by
        apply works_exec .go
        intro z
        simp [Op.exec, Op.group, execRecv, hflags, hlength]
      let y : Responder := { x with rs := { x.rs with isTgtResHdrReceived := true } }
      simp only [hlength, Bool.false_eq_true, if_false]
      exact (hreceived.trans (queueHeader_steps y txt)).trans
        ((works_closeHdr.cons works_storeHdrSent).frame _)

theorem text_steps (x : Responder) (txt : String) :
    Works dbg .recv (x.rs, total) [.onText txt] ((x.onText dbg txt).1.rs, total)
      (failed (x.onText dbg txt).2) := by
  unfold onText
  cases hstarted : x.rs.isTgtCanSendResNow with
  | false =>
      apply works_exec .go
      intro z
      simp [Op.exec, Op.group, execRecv, hstarted, failed]
  | true =>
      have hchecked : Works dbg .recv (x.rs, total) [.onText txt] (x.rs, total)
          [.sendHeaderText txt] := by
        apply works_exec .go
        intro z
        simp [Op.exec, Op.group, execRecv, hstarted]
      exact hchecked.trans (header_steps x txt)

private theorem fragment_steps (x : Responder) (bin : Bytes) :
    Works dbg role (x.rs, total) [.sendBinary bin]
      ((x.sendTargetResponseBodyBinaryFragmentToClient dbg bin).1.rs, total)
      (match (x.sendTargetResponseBodyBinaryFragmentToClient dbg bin).2 with
        | .ok () => [.bodyListeners]
        | .error crex => [.onError crex false]) := by
  apply works_exec .go
  intro z
  unfold sendTargetResponseBodyBinaryFragmentToClient
  cases hflags : !x.rs.isTgtResHdrReceived || !x.rs.isTgtResHdrSent with
  | true => simp [Op.exec, Op.group, execRecv, hflags]
  | false =>
      cases hclosed : x.rs.tgtResBdy.closed with
      | true => simp [Op.exec, Op.group, execRecv, hflags, hclosed]
      | false => simp [Op.exec, Op.group, execRecv, hflags, hclosed]

theorem binary_steps (x : Responder) (bin : Bytes) (answer : Option CrankerRouterException) :
    Works dbg .recv (x.rs, total) [.onBinary bin] ((x.onBinary dbg bin answer).1.rs, total)
      (failed (x.onBinary dbg bin answer).2) := by
  unfold onBinary
  cases hstarted : x.rs.isTgtCanSendResNow with
  | false =>
      apply works_exec .go
      intro z
      simp [Op.exec, Op.group, execRecv, hstarted, failed]
  | true =>
      have hchecked : Works dbg .recv (x.rs, total) [.onBinary bin] (x.rs, total)
          [.sendBinary bin] := by
        apply works_exec .go
        intro z
        simp [Op.exec, Op.group, execRecv, hstarted]
      have hsent := hchecked.trans (fragment_steps
        { x with binaryFrameReceived := x.binaryFrameReceived + 1 } bin)
      simp only [Bool.not_true, Bool.false_eq_true, if_false]
      cases hres : { x with binaryFrameReceived := x.binaryFrameReceived + 1
          }.sendTargetResponseBodyBinaryFragmentToClient dbg bin with
      | mk y res =>
          rw [hres] at hsent
          cases res with
          | error crex => exact hsent
          | ok _ =>
              refine hsent.trans ?_
              apply works_exec (.answer answer)
              intro z
              cases hneed : y.rs.reallyNeedOnResponseBodyChunkReceivedFromTarget with
              | false => simp [Op.exec, Op.group, execRecv, hneed, failed]
              | true =>
                  cases answer <;> simp [Op.exec, Op.group, execRecv, fallible, hneed, failed]

private theorem complete_steps (answers : Nat → Option CrankerRouterException) (inClose : Bool)
    (k : Nat) :
    ∀ (i : Nat) (rs : RouterSocketV1), rs.proxyListeners = i + (k + 1) →
      Works dbg role (rs, total) [.complete i inClose]
        ({ rs with onComplete :=
            rs.onComplete ++ (completions answers (List.range' i (k + 1))).1 },
          collect inClose total (completions answers (List.range' i (k + 1))).2) [] := by
  induction k with
  | zero =>
      intro i rs hlen
      apply works_exec (.answer (answers i))
      intro z
      cases hanswer : answers i with
      | none =>
          cases inClose <;>
            simp [Op.exec, Op.group, execShared, hlen, completions, hanswer, collect, compose]
      | some crex =>
          cases inClose <;> simp [Op.exec, Op.group, execShared, completions, hanswer, collect,
            compose, Socket.collectErr]
  | succ k ih =>
      intro i rs hlen
      cases hanswer : answers i with
      | some crex =>
          apply works_exec (.answer (some crex))
          intro z
          cases inClose <;> simp [Op.exec, Op.group, execShared, List.range'_succ, completions,
            hanswer, collect, compose, Socket.collectErr]
      | none =>
          have hfirst : Works dbg role (rs, total) [.complete i inClose]
              ({ rs with onComplete := rs.onComplete ++ [i] }, total)
              [.complete (i + 1) inClose] := by
            apply works_exec (.answer none)
            intro z
            simp [Op.exec, Op.group, execShared, hlen]
          have hrest := ih (i + 1) { rs with onComplete := rs.onComplete ++ [i] }
            (by rw [hlen]; omega)
          have hcalls := hfirst.trans hrest
          rw [List.range'_succ]
          simpa [completions, hanswer] using hcalls

private theorem raise_steps (x : Responder) (answers : Nat → Option CrankerRouterException)
    (inClose : Bool) :
    Works dbg role (x.rs, total) [.raise inClose] ((x.raiseCompletionEvent answers).1.rs,
      collect inClose total (x.raiseCompletionEvent answers).2) [] := by
  unfold raiseCompletionEvent
  by_cases hnone : x.rs.clientReqStartTs = 0 ∨ x.rs.proxyListeners = 0
  · apply works_exec .go
    intro z
    cases inClose <;> simp [Op.exec, Op.group, execShared, hnone, collect, compose]
  · have hraised : Works dbg role (x.rs, total) [.raise inClose]
        ({ x.rs with durationMillis := x.rs.now - x.rs.clientReqStartTs }, total)
        [.complete 0 inClose] := by
      apply works_exec .go
      intro z
      simp [Op.exec, Op.group, execShared, hnone]
    obtain ⟨k, hk⟩ : ∃ k, x.rs.proxyListeners = k + 1 := by
      apply Nat.exists_eq_succ_of_ne_zero
      exact fun hzero => hnone (.inr hzero)
    have hrange : List.range x.rs.proxyListeners = List.range' 0 (k + 1) := by
      rw [hk, List.range_eq_range']
    rw [if_neg hnone, hrange]
    refine hraised.trans (complete_steps answers inClose k 0
      { x.rs with durationMillis := x.rs.now - x.rs.clientReqStartTs } ?_)
    simp [hk]

private theorem error_steps (x : Responder) (crex : CrankerRouterException)
    (answers : Nat → Option CrankerRouterException) (inClose : Bool) :
    Works dbg role (x.rs, total) [.onError crex inClose] ((x.onError dbg crex answers).1.rs,
      collect inClose total (x.onError dbg crex answers).2) [] := by
  unfold onError
  cases hclosed : x.rs.errChan.closed with
  | true =>
      apply works_exec .go
      intro z
      cases inClose <;>
        simp [Op.exec, Op.group, execShared, hclosed, collect, compose, Socket.collectErr]
  | false =>
      have hsent : Works dbg role (x.rs, total) [.onError crex inClose]
          ({ x.rs with errChan := x.rs.errChan.send crex }, total) [.raise false] := by
        apply works_exec .go
        intro z
        simp [Op.exec, Op.group, execShared, hclosed]
      have htotal : collect inClose total (.ok ()) = total := by cases inClose <;> rfl
      simp only [Bool.false_eq_true, if_false, htotal]
      exact hsent.trans (raise_steps
        { x with rs := { x.rs with errChan := x.rs.errChan.send crex } } answers false)

theorem terminate_steps (x : Responder) (optCrex : Option CrankerRouterException) :
    let crex := optCrex.getD (.new "ex occurs and should terminate all conn.")
    Works dbg .sendPipe (x.rs, total) [.sendHdrErr crex, .sendBdyErr crex, .closeHdr, .closeBdy]
      ((x.terminateAllConn optCrex).1.rs, total) [] :=
  (works_sendHdrErr _).cons ((works_sendBdyErr _).cons (works_closeHdr.cons works_closeBdy))

private theorem failPrior_steps (x : Responder) (code : Nat)
    (answers : Nat → Option CrankerRouterException) :
    Works dbg .recv (x.rs, none) [.failPrior code]
      ((x.failPrior dbg code answers).1.rs, (x.failPrior dbg code answers).2) [] := by
  unfold failPrior
  cases hstarted : x.rs.isTgtCanSendResNow && x.rs.bytesReceived == 0 with
  | false =>
      apply works_exec .go
      intro z
      simp only [Op.exec, Op.group, execRecv, hstarted, Bool.false_eq_true, if_false]
  | true =>
      cases hex : V3.cliFailPriorToTgtRes code with
      | none =>
          apply works_exec .go
          intro z
          simp only [Op.exec, Op.group, execRecv, hstarted, hex, if_true]
      | some ex =>
          have hchecked : Works dbg .recv (x.rs, none) [.failPrior code] (x.rs, none)
              [.onError ex true] := by
            apply works_exec .go
            intro z
            simp only [Op.exec, Op.group, execRecv, hstarted, hex, if_true]
          exact hchecked.trans (error_steps x ex answers true)

private theorem closeResponse_steps (x : Responder) (code : Nat) (reason : String)
    (answers : Nat → Option CrankerRouterException) :
    Works dbg .recv (x.rs, total) [.checkClosed code reason]
      ((x.closeResponse dbg code reason answers total).1.rs,
        (x.closeResponse dbg code reason answers total).2) [] := by
  have hclose : ∀ rs : RouterSocketV1, ∀ total, Works dbg .recv (rs, total) [.closeHdr, .closeBdy]
      ({ rs with tgtResHdr := rs.tgtResHdr.close, tgtResBdy := rs.tgtResBdy.close }, total) [] :=
    fun _ _ => works_closeHdr.cons works_closeBdy
  unfold closeResponse
  cases hopen : !x.rs.tgtResHdr.closed || !x.rs.tgtResBdy.closed with
  | false =>
      apply works_exec .go
      intro z
      simp [Op.exec, Op.group, execRecv, hopen]
  | true =>
      by_cases hcode : code = 1000
      · have hchecked : Works dbg .recv (x.rs, total) [.checkClosed code reason] (x.rs, total)
            [.closeHdr, .closeBdy] := by
          apply works_exec .go
          intro z
          simp [Op.exec, Op.group, execRecv, hopen, hcode]
        simp only [hcode, if_true]
        rw [hcode] at hchecked
        exact hchecked.trans (hclose _ _)
      · let ex := V3.upstreamServerError code reason
        have hchecked : Works dbg .recv (x.rs, total) [.checkClosed code reason] (x.rs, total)
            [.sendHdrErr ex, .sendBdyErr ex, .onError ex true, .closeHdr, .closeBdy] := by
          apply works_exec .go
          intro z
          simp [Op.exec, Op.group, execRecv, hopen, hcode, ex]
        simp only [hcode, if_true, if_false]
        refine hchecked.trans ((works_sendHdrErr ex).cons ((works_sendBdyErr ex).cons ?_))
        exact (error_steps ((x.sendHdrErr ex).sendBdyErr ex) ex answers true).cons (hclose _ _)

theorem close_steps (x : Responder) (frame : Option CloseFrame) (answers : CloseAnswers) :
    ∃ total', Works dbg .recv (x.rs, total) [.onClose frame]
      ((x.onClose dbg frame answers).1.rs, total') (failed (x.onClose dbg frame answers).2) := by
  let y : Responder := { x with rs := { x.rs with isCloseMsgReceived := true } }
  let code := (frame.map (·.code)).getD 4000
  let reason := (frame.map (·.reason)).getD ""
  have hstart : Works dbg .recv (x.rs, total) [.onClose frame] (y.rs, none)
      [.queueClose frame, .failPrior code, .checkClosed code reason, .raise true,
        .returnTotalErr] := works_exec .go fun _ => rfl
  let y₁ : Responder := { y with rs := y.rs.sendData (.close frame) }
  have hqueued : Works dbg .recv (y.rs, none) [.queueClose frame] (y₁.rs, none) [] :=
    works_exec .go fun _ => rfl
  let r₂ := y₁.failPrior dbg code answers.failPrior
  let r₃ := r₂.1.closeResponse dbg code reason answers.upstream r₂.2
  let r₄ := r₃.1.raiseCompletionEvent answers.closed
  have hreturn : Works dbg .recv (r₄.1.rs, compose r₃.2 r₄.2) [.returnTotalErr]
      (r₄.1.rs, compose r₃.2 r₄.2) (failed (match compose r₃.2 r₄.2 with
        | some ex => .error ex
        | none => .ok ())) := by
    apply works_exec .go
    intro z
    cases htotal : compose r₃.2 r₄.2 with
    | none => simp [Op.exec, Op.group, execRecv, failed]
    | some ex => simp [Op.exec, Op.group, execRecv, failed]
  refine ⟨compose r₃.2 r₄.2, hstart.trans (hqueued.cons ?_)⟩
  refine (failPrior_steps y₁ code answers.failPrior).cons ?_
  refine (closeResponse_steps r₂.1 code reason answers.upstream).cons ?_
  exact (raise_steps r₃.1 answers.closed true).cons hreturn

end Machine

end Responder

open Responder in
/-- For every sequence of events, in any order and before or after the request is started: at most
one header was sent, the first text after the start and at most `HEADER_MAX_SIZE` bytes long, no
chunk before it, the chunks are the binary messages accepted, in order, and `bytes_sent` is the
length of all that. -/
theorem response_follows_events (dbg : DebugText) {x : Responder × ResponseLog}
    (h : (loggedMachine dbg).Reachable Machine.anyAction x) : Responds x.1 x.2 := by
  have hinv : Invariant x.1 x.2 := by
    refine h.invariant (P := fun x => Invariant x.1 x.2) ?_ ?_
    · rintro ⟨x, log⟩ ⟨hinit, rfl⟩
      exact invariant_init hinit
    · rintro ⟨x, log⟩ e ⟨y, log'⟩ hinv - hstep
      obtain ⟨hstep, rfl⟩ := Machine.logged_step hstep
      exact hinv.step hstep
  exact hinv.toResponds

open Responder in
/-- A text and a chunk before the start, the response, a second text, a close and a late chunk. -/
def answeredRun : Responder × ResponseLog :=
  (loggedMachine plainText).run Machine.anyAction (.new (.new 1 false false 1), .empty)
    [.text "early", .binary [9] none, .start, .binary [9] none, .text "HTTP/1.1 200 OK",
      .binary [1, 2] none, .text "again", .binary [3] (some (.new "refused")),
      .close (some ⟨1000, ""⟩) ⟨fun _ => none, fun _ => none, fun _ => none⟩, .binary [4] none]

theorem response_follows_events_answeredRun :
    Responder.Responds answeredRun.1 answeredRun.2 ∧
    answeredRun.1.headers = ["HTTP/1.1 200 OK"] ∧ answeredRun.1.chunks = [[1, 2], [3]] ∧
    answeredRun.1.bytesSent = 18 := by
  have hinit : (Responder.loggedMachine plainText).init (.new (.new 1 false false 1), .empty) :=
    ⟨⟨1, false, false, 1, rfl⟩, rfl⟩
  have hreach : (Responder.loggedMachine plainText).Reachable Machine.anyAction answeredRun :=
    Machine.reachable_run _ _ hinit _
  exact ⟨response_follows_events plainText hreach, by decide +kernel⟩

end CrankerRouter.V1
