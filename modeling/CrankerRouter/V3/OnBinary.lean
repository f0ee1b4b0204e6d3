import CrankerRouter.V3.Socket

/-!
# Receiving frames

`on_binary` and the routines it calls, run without interruption.  The receive pipe awaits each
call before it takes the next message, so on one socket the calls follow one another.  The answer
of the listeners to a body chunk is an argument: the first error, if there is one.
-/

namespace CrankerRouter.V3

open Lib

/-- What a handler returns. -/
abbrev Outcome := Except CrankerRouterException Unit

/-- What `notify_client_request_error` tells the client. -/
def clientRequestError (ctx : RequestContext) (crex : CrankerRouterException) :
    CrankerRouterException :=
  if crex.optErrKind = some .timeout0001 then
    if ctx.isCliReqNotStartToSendToTgtYet then crex
    else ((crex.withStatusCode 504).appendStr "closing cli req early due to timeout").prependStr
      "504 Gateway Timeout"
  else if ctx.isCliReqNotStartToSendToTgtYet then
    (crex.withStatusCode 502).prependStr "502 Bad Gateway"
  else crex.appendStr "closing cli req early due to cranker wss conn err"

/-- What a close code tells a client whose request has not reached the target. -/
def cliFailPriorToTgtRes (code : Nat) : Option CrankerRouterException :=
  if code = 1011 then some ((CrankerRouterException.new "ws code 1011").withStatusCode 502)
  else if code = 1008 then some ((CrankerRouterException.new "ws code 1008").withStatusCode 400)
  else none

def upstreamServerError (code : Nat) (reason : String) : CrankerRouterException :=
  .new s!"upstream server error: ws code={code}, reason={reason}"

namespace RouterSocketV3

/-- The same error on the header and on the body channel. -/
def sendErr (rs : RouterSocketV3) (r : ReqId) (ex : CrankerRouterException) : RouterSocketV3 :=
  (rs.sendHdr r (.error ex)).sendBdy r (.error ex)

def notifyClientRequestError (rs : RouterSocketV3) (r : ReqId) (crex : CrankerRouterException) :
    RouterSocketV3 :=
  let rs := rs.setError r crex
  let rs := rs.sendErr r (clientRequestError (rs.contexts r) crex)
  (rs.raiseCompletionEvent r).trySpawnRemoveReqCtx r

/-- The first part of `notify_client_request_close`. -/
def failPrior (rs : RouterSocketV3) (r : ReqId) (code : Nat) : RouterSocketV3 :=
  if (rs.contexts r).isCliReqNotStartToSendToTgtYet then
    match cliFailPriorToTgtRes code with
    | some ex => rs.sendErr r ex
    | none => rs
  else rs

/-- The second part: both channels are closed, after an error unless the code is 1000. -/
def closeChannels (rs : RouterSocketV3) (r : ReqId) (code : Nat) (optReason : Option String) :
    RouterSocketV3 :=
  if !(rs.contexts r).tgtResHdr.closed || !(rs.contexts r).tgtResBdy.closed then
    ((if code = 1000 then rs
      else rs.sendErr r (upstreamServerError code (optReason.getD "closed by router"))).closeHdr
        r).closeBdy r
  else rs

def notifyClientRequestClose (rs : RouterSocketV3) (r : ReqId) (code : Nat)
    (optReason : Option String) : RouterSocketV3 :=
  (((rs.failPrior r code).closeChannels r code optReason).raiseCompletionEvent r).trySpawnRemoveReqCtx r

def resetStream (rs : RouterSocketV3) (r : ReqId) (errCode : BitVec 32) (msg : String) :
    RouterSocketV3 :=
  let rs :=
    if !(rs.contexts r).state.isCompleted && !(rs.contexts r).isRstStreamSent then
      (rs.sendData (.binary (rstMessage r errCode msg))).storeRstStreamSent r
    else rs
  rs.trySpawnRemoveReqCtx r

end RouterSocketV3

def canNotSendYet (rs : RouterSocketV3) (r : ReqId) : CrankerRouterException :=
  .new s!"recv data/bin before handle cli req. route = {rs.route} , router socket id = {rs.routerSocketId} , req id = {r.toInt}"

def streamClosedByConnector (rs : RouterSocketV3) (r : ReqId) (errorCode : BitVec 32)
    (errorMessage : String) : CrankerRouterException :=
  .new s!"stream closed by connector, error code: {errorCode.toInt}, error message: {errorMessage}, req id = {r.toInt} , router socket id = {rs.routerSocketId} , route = {rs.route}"

variable (dbg : DebugText)

def bodyChanClosed : CrankerRouterException :=
  .new s!"rare ex failed to send bin to tgt_res_bdy chan: {dbg.sendError}"

def headerTooLong (rs : RouterSocketV3) (r : ReqId) : CrankerRouterException :=
  .new s!"failed to handle remaining bin msg len, it's even larger than i32::MAX ? ex : {dbg.tryFromIntError} , req id = {r.toInt} , router socket id = {rs.routerSocketId} , route = {rs.route}"

def headerNotUtf8 (rs : RouterSocketV3) (r : ReqId) (bin : Bytes) : CrankerRouterException :=
  .new s!"failed to convert binary to header text in utf8 : {dbg.fromUtf8Error bin}, req id = {r.toInt} , router socket id = {rs.routerSocketId} , route = {rs.route}"

def headerChanClosed : CrankerRouterException :=
  .new s!"failed to send header text : {dbg.sendError}"

def sendDataFailed (rs : RouterSocketV3) : CrankerRouterException :=
  .new s!"failed to send_data: {dbg.sendError}. route = {rs.route} , router socket id = {rs.routerSocketId}"

def chunkCredit (r : ReqId) (len : Nat) : Message :=
  .binary (windowUpdateMessage r (BitVec.ofNat 32 len))

/-- The end-of-stream parts of a frame handler. -/
def RouterSocketV3.storeEndStreamIf (rs : RouterSocketV3) (r : ReqId) (isEnd : Bool) :
    RouterSocketV3 :=
  if isEnd then rs.storeEndStreamReceived r else rs

def RouterSocketV3.closeIf (rs : RouterSocketV3) (r : ReqId) (isEnd : Bool) : RouterSocketV3 :=
  if isEnd then rs.notifyClientRequestClose r 1000 none else rs

def RouterSocketV3.countBinary (rs : RouterSocketV3) (r : ReqId) : RouterSocketV3 :=
  rs.modify r fun ctx => { ctx with wssOnBinaryCallCount := ctx.wssOnBinaryCallCount + 1 }

def RouterSocketV3.addToClient (rs : RouterSocketV3) (r : ReqId) (len : Nat) : RouterSocketV3 :=
  rs.modify r fun ctx => { ctx with toClientBytes := ctx.toClientBytes + BitVec.ofNat 64 len }

/-- The chunk goes to the body channel and is acknowledged to the connector. -/
def sendBody (rs : RouterSocketV3) (r : ReqId) (isEndStream : Bool) (bin : Bytes) :
    RouterSocketV3 × Outcome :=
  if (rs.contexts r).tgtResBdy.closed then
    (rs.tryProvideGeneralError (bodyChanClosed dbg), .error (bodyChanClosed dbg))
  else
    ((((rs.sendBdy r (.ok bin)).closeIf r isEndStream).addToClient r bin.length).sendData
      (chunkCredit r bin.length), .ok ())

/-- The answer of the listeners that really need the chunk goes before the result. -/
def bodyListeners (answer : Option CrankerRouterException) :
    RouterSocketV3 × Outcome → RouterSocketV3 × Outcome
  | (rs, res) =>
      match rs.reallyNeedOnResponseBodyChunkReceivedFromTarget, answer with
      | true, some crex => (rs, .error crex)
      | _, _ => (rs, res)

def handleData (rs : RouterSocketV3) (r : ReqId) (flags : UInt8) (bin : Bytes)
    (answer : Option CrankerRouterException) : RouterSocketV3 × Outcome :=
  let isEndStream := judgeIsStreamEndFromFlags flags
  if !(rs.contexts r).isTgtCanSendResNow then (rs, .error (canNotSendYet rs r))
  else if bin.length = 0 then
    ((rs.storeEndStreamIf r isEndStream).closeIf r isEndStream, .ok ())
  else
    bodyListeners answer
      (sendBody dbg ((rs.storeEndStreamIf r isEndStream).countBinary r) r isEndStream bin)

def creditHeader (rs : RouterSocketV3) (r : ReqId) (len : Nat) : RouterSocketV3 × Outcome :=
  if rs.wssSendTask.closed then (rs, .error (sendDataFailed dbg rs))
  else (rs.sendData (chunkCredit r len), .ok ())

def sendHeader (rs : RouterSocketV3) (r : ReqId) (isStreamEnd : Bool) (len : Nat) :
    RouterSocketV3 × Outcome :=
  if (rs.contexts r).tgtResHdr.closed then (rs, .error (headerChanClosed dbg))
  else
    creditHeader dbg
      ((rs.sendHdr r (.ok (rs.contexts r).headerLineBuilder)).closeIf r isStreamEnd) r len

def RouterSocketV3.pushHeader (rs : RouterSocketV3) (r : ReqId) (content : String) :
    RouterSocketV3 :=
  rs.modify r fun ctx => { ctx with headerLineBuilder := ctx.headerLineBuilder ++ content }

def appendHeader (rs : RouterSocketV3) (r : ReqId) (flags : UInt8) (bin : Bytes) :
    RouterSocketV3 × Outcome :=
  let isStreamEnd := judgeIsStreamEndFromFlags flags
  if 2 ^ 31 ≤ bin.length then (rs, .error (headerTooLong dbg rs r))
  else
    match fromUtf8 bin with
    | none => (rs, .error (headerNotUtf8 dbg rs r bin))
    | some content =>
        if judgeIsHeaderEndFromFlags flags then
          sendHeader dbg (rs.pushHeader r content) r isStreamEnd bin.length
        else creditHeader dbg ((rs.pushHeader r content).closeIf r isStreamEnd) r bin.length

def handleHeader (rs : RouterSocketV3) (r : ReqId) (flags : UInt8) (bin : Bytes) :
    RouterSocketV3 × Outcome :=
  if !(rs.contexts r).isTgtCanSendResNow then (rs, .error (canNotSendYet rs r))
  else appendHeader dbg (rs.storeEndStreamIf r (judgeIsStreamEndFromFlags flags)) r flags bin

def handleRstStream (rs : RouterSocketV3) (r : ReqId) (bin : Bytes) :
    Except Panic (RouterSocketV3 × Outcome) := do
  let (errorCode, bin) ← getErrorCode bin
  let crex := streamClosedByConnector rs r errorCode (getErrorMessage bin)
  return (rs.notifyClientRequestError r crex, .ok ())

/-- The amount is read without a look at the length. -/
def handleWindowUpdate (overflowChecks : Bool) (rs : RouterSocketV3) (r : ReqId) (bin : Bytes) :
    Except Panic (RouterSocketV3 × Outcome) := do
  let (windowUpdate, _) ← Bytes.getI32 bin
  let ctx ← (rs.contexts r).targetConnectorAckBytes overflowChecks windowUpdate
  return (rs.modify r fun _ => ctx, .ok ())

/-- The four handlers; a frame of another type is logged and dropped. -/
def dispatch (overflowChecks : Bool) (rs : RouterSocketV3) (type flags : UInt8) (r : ReqId)
    (bin : Bytes) (answer : Option CrankerRouterException) :
    Except Panic (RouterSocketV3 × Outcome) :=
  if type = messageTypeData then .ok (handleData dbg rs r flags bin answer)
  else if type = messageTypeHeader then .ok (handleHeader dbg rs r flags bin)
  else if type = messageTypeRstStream then handleRstStream rs r bin
  else if type = messageTypeWindowUpdate then handleWindowUpdate overflowChecks rs r bin
  else .ok (rs, .ok ())

/-- The error path of `on_binary`. -/
def settle (r : ReqId) : RouterSocketV3 × Outcome → RouterSocketV3
  | (rs, .ok ()) => rs
  | (rs, .error crex) => (rs.notifyClientRequestError r crex).resetStream r 1001 "Going away"

/-- `on_binary`: the socket afterwards and the result, which is always `Ok(())`. -/
def onBinary (overflowChecks : Bool) (rs : RouterSocketV3) (b : Bytes)
    (answer : Option CrankerRouterException) : Except Panic (RouterSocketV3 × Outcome) := do
  match ← readHead b with
  | none => return (rs, .ok ())
  | some (type, flags, r, bin) =>
      if r ∉ rs.contextMap then return (rs, .ok ())
      let out ← dispatch dbg overflowChecks rs type flags r bin answer
      return (settle r out, .ok ())

variable {dbg : DebugText} {overflowChecks : Bool}

theorem handleWindowUpdate_eq_ok {rs : RouterSocketV3} {r : ReqId} {bin : Bytes}
    {out : RouterSocketV3 × Outcome} (h : handleWindowUpdate overflowChecks rs r bin = .ok out) :
    ∃ ack : BitVec 32, out = (rs.modify r (·.acked ack), .ok ()) := by
  unfold handleWindowUpdate RequestContext.targetConnectorAckBytes at h
  cases hread : Bytes.getI32 bin with
  | error e => simp [hread, bind, Except.bind] at h
  | ok a =>
      simp only [hread, bind, Except.bind] at h
      by_cases hmin : (overflowChecks && a.1 == BitVec.intMin 32) = true
      · simp [hmin] at h
      · simp only [hmin, Bool.false_eq_true, ↓reduceIte, pure, Except.pure, Except.ok.injEq] at h
        exact ⟨a.1, h.symm⟩

/-- `on_binary` without its reads: only the dispatch can panic. -/
theorem onBinary_eq (rs : RouterSocketV3) (b : Bytes) (answer : Option CrankerRouterException) :
    onBinary dbg overflowChecks rs b answer =
      match head? b with
      | none => .ok (rs, .ok ())
      | some (type, flags, r, bin) =>
          if r ∈ rs.contextMap then
            (dispatch dbg overflowChecks rs type flags r bin answer).map
              fun out => (settle r out, .ok ())
          else .ok (rs, .ok ()) := by
  unfold onBinary
  rw [readHead_eq]
  cases head? b with
  | none => rfl
  | some h =>
      obtain ⟨type, flags, r, bin⟩ := h
      by_cases hr : r ∈ rs.contextMap
      · simp only [bind, Except.bind, hr, not_true_eq_false, ↓reduceIte]
        cases dispatch dbg overflowChecks rs type flags r bin answer <;> rfl
      · simp only [bind, Except.bind, hr, not_false_eq_true, ↓reduceIte]
        rfl

section Close

variable (rs : RouterSocketV3) (r : ReqId) (isEnd : Bool)

private theorem failPrior_normal : rs.failPrior r 1000 = rs := by
  unfold RouterSocketV3.failPrior
  split <;> rfl

private theorem notifyClientRequestClose_contexts :
    ∃ d, (rs.notifyClientRequestClose r 1000 none).contexts r = { rs.contexts r with
      tgtResHdr := (rs.contexts r).tgtResHdr.close
      tgtResBdy := (rs.contexts r).tgtResBdy.close
      durationMillis := d } := by
  obtain ⟨d, hd⟩ := RouterSocketV3.raiseCompletionEvent_contexts
    (rs.closeChannels r 1000 none) r
  refine ⟨d, ?_⟩
  unfold RouterSocketV3.notifyClientRequestClose
  rw [failPrior_normal, RouterSocketV3.trySpawnRemoveReqCtx_contexts, hd]
  unfold RouterSocketV3.closeChannels
  split
  · simp [RouterSocketV3.closeHdr, RouterSocketV3.closeBdy]
  · rename_i hclosed
    simp only [Bool.or_eq_true, Bool.not_eq_eq_eq_not, Bool.not_true, not_or,
      Bool.not_eq_false] at hclosed
    rw [Chan.close_of_closed hclosed.1, Chan.close_of_closed hclosed.2]

theorem closeIf_contexts : ∃ d, (rs.closeIf r isEnd).contexts r = { rs.contexts r with
    tgtResHdr := { (rs.contexts r).tgtResHdr with
      closed := (rs.contexts r).tgtResHdr.closed || isEnd }
    tgtResBdy := { (rs.contexts r).tgtResBdy with
      closed := (rs.contexts r).tgtResBdy.closed || isEnd }
    durationMillis := d } := by
  cases isEnd with
  | false => exact ⟨(rs.contexts r).durationMillis, by simp [RouterSocketV3.closeIf]⟩
  | true =>
      obtain ⟨d, hd⟩ := notifyClientRequestClose_contexts rs r
      exact ⟨d, by simp [RouterSocketV3.closeIf, hd, Chan.close]⟩

@[simp] theorem closeIf_hdr : ((rs.closeIf r isEnd).contexts r).tgtResHdr =
    { (rs.contexts r).tgtResHdr with closed := (rs.contexts r).tgtResHdr.closed || isEnd } := by
  obtain ⟨d, hd⟩ := closeIf_contexts rs r isEnd
  rw [hd]

@[simp] theorem closeIf_bdy : ((rs.closeIf r isEnd).contexts r).tgtResBdy =
    { (rs.contexts r).tgtResBdy with closed := (rs.contexts r).tgtResBdy.closed || isEnd } := by
  obtain ⟨d, hd⟩ := closeIf_contexts rs r isEnd
  rw [hd]

@[simp] theorem closeIf_headerLineBuilder : ((rs.closeIf r isEnd).contexts r).headerLineBuilder =
    (rs.contexts r).headerLineBuilder := by
  obtain ⟨d, hd⟩ := closeIf_contexts rs r isEnd
  rw [hd]

@[simp] theorem closeIf_canSend : ((rs.closeIf r isEnd).contexts r).isTgtCanSendResNow =
    (rs.contexts r).isTgtCanSendResNow := by
  obtain ⟨d, hd⟩ := closeIf_contexts rs r isEnd
  rw [hd]

private theorem notifyClientRequestClose_fields (code : Nat) (optReason : Option String) :
    (rs.notifyClientRequestClose r code optReason).wssSendTask = rs.wssSendTask ∧
    (rs.notifyClientRequestClose r code optReason).contextMap = rs.contextMap ∧
    (rs.notifyClientRequestClose r code optReason).removals = rs.removals ++ [r] := by
  have hprior : (rs.failPrior r code).wssSendTask = rs.wssSendTask ∧
      (rs.failPrior r code).contextMap = rs.contextMap ∧
      (rs.failPrior r code).removals = rs.removals := by
    unfold RouterSocketV3.failPrior
    cases cliFailPriorToTgtRes code <;> split <;> exact ⟨rfl, rfl, rfl⟩
  have hclose : ∀ rs' : RouterSocketV3, (rs'.closeChannels r code optReason).wssSendTask =
        rs'.wssSendTask ∧ (rs'.closeChannels r code optReason).contextMap = rs'.contextMap ∧
      (rs'.closeChannels r code optReason).removals = rs'.removals := by
    intro rs'
    unfold RouterSocketV3.closeChannels
    split_ifs <;> exact ⟨rfl, rfl, rfl⟩
  obtain ⟨hqueue, hmap, hremovals⟩ := hclose (rs.failPrior r code)
  unfold RouterSocketV3.notifyClientRequestClose
  simp [hqueue, hmap, hremovals, hprior]

@[simp] theorem closeIf_wssSendTask : (rs.closeIf r isEnd).wssSendTask = rs.wssSendTask := by
  unfold RouterSocketV3.closeIf
  split
  · exact (notifyClientRequestClose_fields rs r 1000 none).1
  · rfl

@[simp] theorem closeIf_contextMap : (rs.closeIf r isEnd).contextMap = rs.contextMap := by
  unfold RouterSocketV3.closeIf
  split
  · exact (notifyClientRequestClose_fields rs r 1000 none).2.1
  · rfl

@[simp] theorem closeIf_removals :
    (rs.closeIf r isEnd).removals = rs.removals ++ if isEnd then [r] else [] := by
  unfold RouterSocketV3.closeIf
  split
  · exact (notifyClientRequestClose_fields rs r 1000 none).2.2
  · simp

end Close

end CrankerRouter.V3
