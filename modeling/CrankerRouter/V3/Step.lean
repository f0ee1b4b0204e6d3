import CrankerRouter.V3.Ops

/-!
# Steps of a V3 socket

The meaning of each operation, and the machine that interleaves the tasks of the socket with what
happens outside: requests, frames, close frames, errors on the error channel, clients that go
away, and the spawned removals.
-/

namespace CrankerRouter.V3

open Lib

/-- The same error on the header and on the body channel. -/
def errOps (r : ReqId) (ex : CrankerRouterException) : List Op :=
  [.notify r (.sendHdrErr ex), .notify r (.sendBdyErr ex)]

/-- `notify_client_request_close` at the end of a stream. -/
def closeOpsIf (r : ReqId) (isEnd : Bool) : List Op :=
  if isEnd then [.notify r (.notifyClose 1000 none)] else []

def NotifyOp.run (rs : RouterSocketV3) (r : ReqId) : NotifyOp → RouterSocketV3 × List Op
  | .notifyError crex => (rs.setError r crex,
      [.notify r (.decideError crex), .notify r .raiseCompletion, .notify r .spawnRemove])
  | .decideError crex => (rs, errOps r (clientRequestError (rs.contexts r) crex))
  | .sendHdrErr ex => (rs.sendHdr r (.error ex), [])
  | .sendBdyErr ex => (rs.sendBdy r (.error ex), [])
  | .raiseCompletion => (rs.raiseCompletionEvent r, [])
  | .spawnRemove => (rs.trySpawnRemoveReqCtx r, [])
  | .resetStream errCode msg =>
      (rs, if !(rs.contexts r).state.isCompleted && !(rs.contexts r).isRstStreamSent then
        [.notify r (.queueRst errCode msg), .notify r .storeRstSent, .notify r .spawnRemove]
      else [.notify r .spawnRemove])
  | .queueRst errCode msg => (rs.sendData (.binary (rstMessage r errCode msg)), [])
  | .storeRstSent => (rs.storeRstStreamSent r, [])
  | .notifyClose code optReason =>
      (rs,
        (if (rs.contexts r).isCliReqNotStartToSendToTgtYet then
          match cliFailPriorToTgtRes code with
          | some ex => errOps r ex
          | none => []
        else []) ++
          [.notify r (.checkClosed code optReason), .notify r .raiseCompletion,
            .notify r .spawnRemove])
  | .checkClosed code optReason =>
      (rs,
        if !(rs.contexts r).tgtResHdr.closed || !(rs.contexts r).tgtResBdy.closed then
          (if code = 1000 then []
          else errOps r (upstreamServerError code (optReason.getD "closed by router"))) ++
            [.notify r .closeHdr, .notify r .closeBdy]
        else [])
  | .closeHdr => (rs.closeHdr r, [])
  | .closeBdy => (rs.closeBdy r, [])

variable (dbg : DebugText) (overflowChecks : Bool)

def FrameOp.run (rs : RouterSocketV3) (r : ReqId) (c : Choice) :
    FrameOp → Option (RouterSocketV3 × List Op)
  | .handleData flags bin =>
      if !(rs.contexts r).isTgtCanSendResNow then some (rs, failFrame r (canNotSendYet rs r))
      else some (rs, (if judgeIsStreamEndFromFlags flags then [.frame r .storeEndStream] else []) ++
        if bin.length = 0 then closeOpsIf r (judgeIsStreamEndFromFlags flags)
        else [.frame r .countBinary, .frame r (.sendBody (judgeIsStreamEndFromFlags flags) bin)])
  | .handleHeader flags bin =>
      if !(rs.contexts r).isTgtCanSendResNow then some (rs, failFrame r (canNotSendYet rs r))
      else some (rs, (if judgeIsStreamEndFromFlags flags then [.frame r .storeEndStream] else []) ++
        [.frame r (.appendHeader flags bin)])
  | .handleRstStream bin =>
      match getErrorCode bin with
      | .ok (errorCode, bin) => some (rs, [.notify r
          (.notifyError (streamClosedByConnector rs r errorCode (getErrorMessage bin)))])
      | .error _ => none
  | .handleWindowUpdate bin =>
      match V3.handleWindowUpdate overflowChecks rs r bin with
      | .ok (rs, _) => some (rs, [])
      | .error _ => none
  | .storeEndStream => some (rs.storeEndStreamReceived r, [])
  | .countBinary => some (rs.countBinary r, [])
  | .sendBody isEndStream bin =>
      if (rs.contexts r).tgtResBdy.closed then
        some (rs, [.frame r (.provideGeneralError (bodyChanClosed dbg)),
          .frame r (.bodyListeners (some (bodyChanClosed dbg)))])
      else some (rs.sendBdy r (.ok bin), closeOpsIf r isEndStream ++
        [.frame r (.addToClient bin.length), .frame r (.queueCredit bin.length),
          .frame r (.bodyListeners none)])
  | .addToClient len => some (rs.addToClient r len, [])
  | .queueCredit len => some (rs.sendData (chunkCredit r len), [])
  | .provideGeneralError crex => some (rs.tryProvideGeneralError crex, [])
  | .bodyListeners res =>
      match c with
      | .answer a =>
          some (rs, listenerOps rs.reallyNeedOnResponseBodyChunkReceivedFromTarget r a res)
      | _ => none
  | .appendHeader flags bin =>
      if 2 ^ 31 ≤ bin.length then some (rs, failFrame r (headerTooLong dbg rs r))
      else match fromUtf8 bin with
        | none => some (rs, failFrame r (headerNotUtf8 dbg rs r bin))
        | some content =>
            some (rs.pushHeader r content,
              if judgeIsHeaderEndFromFlags flags then
                [.frame r (.sendHeader (judgeIsStreamEndFromFlags flags) bin.length)]
              else closeOpsIf r (judgeIsStreamEndFromFlags flags) ++
                [.frame r (.creditHeader bin.length)])
  | .sendHeader isStreamEnd len =>
      if (rs.contexts r).tgtResHdr.closed then some (rs, failFrame r (headerChanClosed dbg))
      else some (rs.sendHdr r (.ok (rs.contexts r).headerLineBuilder),
        closeOpsIf r isStreamEnd ++ [.frame r (.creditHeader len)])
  | .creditHeader len =>
      if rs.wssSendTask.closed then some (rs, failFrame r (sendDataFailed dbg rs))
      else some (rs.sendData (chunkCredit r len), [])

def SocketOp.run (rs : RouterSocketV3) (c : Choice) :
    SocketOp → Option (RouterSocketV3 × List Op)
  | .storeRemoved => some ({ rs with isRemoved := true }, [])
  | .visitToClose code optReason =>
      some (rs, [.socket (.closeEach code optReason rs.contextMap [])])
  | .closeEach code optReason todo visited =>
      match c with
      | .visit r =>
          if r ∈ rs.contextMap ∧ r ∉ visited then
            some (rs, [.notify r (.notifyClose code optReason),
              .socket (.closeEach code optReason todo (r :: visited))])
          else none
      | .stop => if iterated rs todo visited then some (rs, []) else none
      | _ => none
  | .generalErrorUnlessRemoved crex =>
      some (if rs.isRemoved then rs else rs.tryProvideGeneralError crex, [])
  | .closeSendTask => some ({ rs with wssSendTask := rs.wssSendTask.close }, [])
  | .visitToTerminate crex => some (rs, [.socket (.collect crex rs.contextMap [])])
  | .collect crex todo visited =>
      match c with
      | .visit r =>
          if r ∈ rs.contextMap ∧ r ∉ visited then
            some (rs, [.socket (.collect crex todo (r :: visited))])
          else none
      | .stop =>
          if iterated rs todo visited then
            some (rs, visited.reverse.map (fun r => .notify r (.notifyError crex)) ++
              [.socket .retainNone])
          else none
      | _ => none
  | .retainNone => some ({ rs with contextMap := [] }, [])

/-- `Err` out of `split_part_one_send_or_err` when the send queue is closed. -/
def uploadFrame (rs : RouterSocketV3) (r : ReqId) (f : Bytes) (next : List Op) :
    RouterSocketV3 × List Op :=
  if rs.wssSendTask.closed then (rs, [.upload r (.senderError (sendDataFailed dbg rs))])
  else (rs.sendData (.binary f), next)

def UploadOp.run (rs : RouterSocketV3) (r : ReqId) (c : Choice) :
    UploadOp → Option (RouterSocketV3 × List Op)
  | .storeCanSend text hasBody =>
      some (rs.modify r fun ctx => { ctx with isTgtCanSendResNow := true },
        [.upload r (.uploadHeader (headerParts true text) hasBody)])
  | .uploadHeader ((isHeaderEnd, part) :: parts) hasBody => some (rs,
      [.upload r (.incPending (utf8 part).length),
        .upload r (.queueHeader isHeaderEnd part parts hasBody)])
  | .uploadHeader [] hasBody =>
      some (rs, if hasBody then [.upload r .nextChunk] else [.upload r .afterSent])
  | .queueHeader isHeaderEnd part parts hasBody =>
      some (uploadFrame dbg rs r (headerMessage r isHeaderEnd (!hasBody) part)
        [.upload r (.addFromClient (utf8 part).length), .upload r (.uploadHeader parts hasBody)])
  | .incPending len =>
      some (rs.modify r fun ctx => ctx.incRtrToTgtPendingAckBytes (BitVec.ofNat 32 len), [])
  | .addFromClient len =>
      some (rs.modify r fun ctx =>
        { ctx with fromClientBytes := ctx.fromClientBytes + BitVec.ofNat 64 len }, [])
  | .nextChunk =>
      match c with
      | .chunk b => some (rs, [.upload r (.beforeChunk b)])
      | .bodyError crex => some (rs,
          [.upload r (.senderError (crex.withErrKind .clientRequestBodyReadError0010))])
      | .bodyEnd => some (rs, [.upload r .queueEnd])
      | _ => none
  | .beforeChunk chunk =>
      match c with
      | .answer (some crex) => some (rs, [.upload r (.senderError crex)])
      | .answer none => some (rs,
          [.upload r (.incPending chunk.length), .upload r (.queueChunk chunk)])
      | _ => none
  | .queueChunk chunk =>
      some (uploadFrame dbg rs r (dataMessages r false (some chunk))
        [.upload r (.addFromClient chunk.length), .upload r .chunkListeners])
  | .chunkListeners =>
      match c with
      | .answer (some crex) => some (rs, [.upload r (.senderError crex)])
      | .answer none => some (rs, [.upload r .flowControl])
      | _ => none
  | .flowControl =>
      some (rs, if (rs.contexts r).isWssWritable then [.upload r .nextChunk]
        else [.upload r .pushCallback])
  | .pushCallback =>
      let callback := (rs.contexts r).resumed.length + (rs.contexts r).shouldKeepReadFromCli.length
      some (rs.modify r fun ctx =>
          { ctx with shouldKeepReadFromCli := ctx.shouldKeepReadFromCli ++ [callback] },
        [.upload r .writeItMaybe, .upload r (.awaitNotify callback)])
  | .writeItMaybe => some (rs.modify r RequestContext.writeItMaybe, [])
  | .awaitNotify callback =>
      if callback ∈ (rs.contexts r).resumed then some (rs, [.upload r .nextChunk]) else none
  | .queueEnd => some (uploadFrame dbg rs r (dataMessages r true none) [.upload r .afterSent])
  | .afterSent =>
      match c with
      | .answer (some crex) => some (rs, [.upload r (.senderError crex)])
      | .answer none => some (rs, [])
      | _ => none
  | .senderError crex =>
      some (rs, if (rs.contexts r).isEndStreamReceivedFromTgt then []
        else [.notify r (.notifyError crex)])

/-- The operations that only touch the socket. -/
def Op.run (rs : RouterSocketV3) (c : Choice) : Op → Option (RouterSocketV3 × List Op)
  | .notify r o => some (o.run rs r)
  | .frame r o => o.run dbg overflowChecks rs r c
  | .upload r o => o.run dbg rs r c
  | .socket o => o.run rs c
  | .checkRemoved text hasBody =>
      some (rs, if rs.isRemoved then [] else [.nextReqId text hasBody])
  | .request _ _ | .nextReqId _ _ => none

def Shared.setBodyStream (x : Shared) (r : ReqId) (s : BodyStream) : Shared :=
  { x with bodyStream := Function.update x.bodyStream r s }

def RouterSocketV3.insertCtx (rs : RouterSocketV3) (r : ReqId) : RouterSocketV3 :=
  { rs with
    contextMap := r :: rs.contextMap.filter (· ≠ r)
    contexts := Function.update rs.contexts r (.new rs.now) }

def RouterSocketV3.takeHdr (rs : RouterSocketV3) (r : ReqId) : RouterSocketV3 :=
  rs.modify r fun ctx => { ctx with tgtResHdr := ctx.tgtResHdr.take }

def RequestOp.exec (x : Shared) (r : ReqId) (c : Choice) :
    RequestOp → Option (Shared × List Op × List Task)
  | .insertCtx text hasBody => some ({ x with rs := x.rs.insertCtx r },
      [.request r (.beforeProxyToTarget text hasBody)], [])
  | .beforeProxyToTarget text hasBody =>
      match c with
      | .answer (some crex) =>
          some (x, failRequest r (crex.withErrKind .proxyListenerError0009), [])
      | .answer none => some (x, [.request r .recvHeader],
          [⟨.sender, [.upload r (.storeCanSend text hasBody)]⟩])
      | _ => none
  | .recvHeader =>
      match (x.rs.contexts r).tgtResHdr.next? with
      | some (.ok fullContent) =>
          some ({ x with rs := x.rs.takeHdr r }, [.request r (.respond fullContent)], [])
      | some (.error crex) => some ({ x with rs := x.rs.takeHdr r }, failRequest r crex, [])
      | none =>
          if (x.rs.contexts r).tgtResHdr.closed then
            some (x, failRequest r (.new s!"failed to receive header from ctx: {dbg.recvError}"), [])
          else none
  | .respond _ =>
      match c with
      | .answer (some crex) => some (x, failRequest r crex, [])
      | .answer none => some (x.setBodyStream r .live,
          [.request r .buildBody], [⟨.watcher, [.request r .awaitStreamEnd]⟩])
      | _ => none
  | .buildBody =>
      match c with
      | .answer (some crex) => some (x.setBodyStream r .gone, failRequest r crex, [])
      | .answer none => some (x, [], [])
      | _ => none
  | .awaitStreamEnd =>
      if x.bodyStream r = .gone then some (x, [.request r .checkEndStream], []) else none
  | .checkEndStream => some (x,
      if (x.rs.contexts r).isEndStreamReceivedFromTgt then []
      else [.request r .checkIfContextExists], [])
  | .checkIfContextExists =>
      if r ∈ x.rs.contextMap then
        some ({ x with rs := x.rs.setError r clientConnectionClosed },
          [.notify r (.resetStream 1001 "Going away")], [])
      else some (x, [], [])

/-- `req_id_generator.fetch_add`.  The ids of a socket come round after 2^32 requests, which is
where the model ends. -/
def Shared.nextReqId (x : Shared) (text : String) (hasBody : Bool) :
    Option (Shared × List Op × List Task) :=
  let r := x.rs.reqIdGenerator + 1
  if r ∈ x.admitted then none
  else some ({ x with rs := { x.rs with reqIdGenerator := r }, admitted := r :: x.admitted },
    [.request r (.insertCtx text hasBody)], [])

/-- One operation: the state after it, the operations that follow from it and the tasks it
spawns. -/
def execOp (x : Shared) (op : Op) (c : Choice) : Option (Shared × List Op × List Task) :=
  match op with
  | .request r o => o.exec dbg x r c
  | .nextReqId text hasBody => x.nextReqId text hasBody
  | op => (op.run dbg overflowChecks x.rs c).map fun (rs, more) => ({ x with rs := rs }, more, [])

def execTask (x : Shared) (t : Task) (c : Choice) : Option (Shared × List Task) :=
  match t.ops with
  | [] => none
  | op :: rest =>
      (execOp dbg overflowChecks x op c).map fun (y, more, spawned) =>
        (y, { t with ops := more ++ rest } :: spawned)

def execRecv (x : Shared) (c : Choice) : Option Shared :=
  match x.recv with
  | [] => none
  | op :: rest =>
      (execOp dbg overflowChecks x op c).map fun (y, more, _) => { y with recv := more ++ rest }

/-- The number of frames of a type ever queued for an id. -/
def RouterSocketV3.queued (rs : RouterSocketV3) (type : UInt8) (r : ReqId) : Nat :=
  rs.wssSendTask.sent.countP (isFor type r)

def frameOps (type flags : UInt8) (r : ReqId) (bin : Bytes) : List Op :=
  if type = messageTypeData then [.frame r (.handleData flags bin)]
  else if type = messageTypeHeader then [.frame r (.handleHeader flags bin)]
  else if type = messageTypeRstStream then [.frame r (.handleRstStream bin)]
  else if type = messageTypeWindowUpdate then [.frame r (.handleWindowUpdate bin)]
  else []

/-- A frame by which the connector says that it will send nothing more for the id. -/
def marksEndStream (type flags : UInt8) : Bool :=
  (type == messageTypeData || type == messageTypeHeader) && judgeIsStreamEndFromFlags flags

/-- The history of a received frame. -/
def Shared.noteFrame (x : Shared) (type flags : UInt8) (r : ReqId) : Shared :=
  { x with
    endStreamSeen := Function.update x.endStreamSeen r
      (x.endStreamSeen r || marksEndStream type flags)
    endedAt := Function.update x.endedAt r
      (if (x.endedAt r).isNone && (marksEndStream type flags || type == messageTypeRstStream) then
        some (x.rs.queued messageTypeRstStream r) else x.endedAt r) }

/-- `on_binary` up to the dispatch: a short message and one without context are dropped. -/
def Shared.receive (x : Shared) (b : Bytes) : Shared :=
  match head? b with
  | none => x
  | some (type, flags, r, bin) =>
      if r ∈ x.rs.contextMap then
        { x.noteFrame type flags r with recv := frameOps type flags r bin }
      else x

/-- Where the future of `on_client_req` can be dropped: at an await that may suspend.  A send to an
unbounded channel never does; `reset_stream` awaits the lock of the stream state. -/
def Op.awaits : Op → Bool
  | .request _ .recvHeader | .notify _ (.resetStream _ _) => true
  | _ => false

def Task.req (t : Task) : Option ReqId := t.ops.head?.bind Op.req

/-- `dropHandler` drops the future of `on_client_req`, `dropStream` the response body; `setRemoved`
is the farm's write to `is_removed`. -/
inductive Label
  | request (text : String) (hasBody : Bool)
  | task (i : Nat) (c : Choice)
  | receive (b : Bytes)
  | close (frame : Option CloseFrame)
  | recv (c : Choice)
  | remove (r : ReqId)
  | dropHandler (i : Nat)
  | dropStream (r : ReqId)
  | fail (crex : CrankerRouterException)
  | setRemoved
  | tick (now : Int)
  deriving DecidableEq

/-- `on_close` up to its loop. -/
def closeOps (frame : Option CloseFrame) : List Op :=
  [.socket .storeRemoved,
    .socket (.visitToClose ((frame.map (·.code)).getD 4000) (frame.map (·.reason)))]

/-- The error branch of the send pipe. -/
def teardownOps (crex : CrankerRouterException) : List Op :=
  [.socket (.generalErrorUnlessRemoved crex), .socket .closeSendTask,
    .socket (.visitToTerminate crex)]

def Shared.markGone (x : Shared) : Option ReqId → Shared
  | some r => { x with clientGone := Function.update x.clientGone r true }
  | none => x

def step (p : SocketPool) : Label → Option SocketPool
  | .request text hasBody =>
      some ⟨p.shared, p.tasks ++ [⟨.handler, [.checkRemoved text hasBody]⟩]⟩
  | .task i c => Pool.step (execTask dbg overflowChecks) p i c
  | .receive b => if p.shared.recv = [] then some ⟨p.shared.receive b, p.tasks⟩ else none
  | .close frame =>
      if p.shared.recv = [] then some ⟨{ p.shared with recv := closeOps frame }, p.tasks⟩ else none
  | .recv c => (execRecv dbg overflowChecks p.shared c).map fun x => ⟨x, p.tasks⟩
  | .remove r =>
      if r ∈ p.shared.rs.removals then
        some ⟨{ p.shared with rs := p.shared.rs.removeReqCtx r }, p.tasks⟩
      else none
  | .dropHandler i =>
      match p.tasks[i]? with
      | some t =>
          if t.kind = .handler ∧ t.ops.head?.any Op.awaits then
            some ⟨p.shared.markGone t.req, p.tasks.take i ++ p.tasks.drop (i + 1)⟩
          else none
      | none => none
  | .dropStream r =>
      if p.shared.bodyStream r = .live then
        some ⟨(p.shared.markGone (some r)).setBodyStream r .gone, p.tasks⟩
      else none
  | .fail crex =>
      if p.shared.tornDown then none
      else some ⟨{ p.shared with tornDown := true },
        p.tasks ++ [⟨.teardown, teardownOps crex⟩]⟩
  | .setRemoved =>
      some ⟨{ p.shared with rs := { p.shared.rs with isRemoved := true } }, p.tasks⟩
  | .tick now => some ⟨{ p.shared with rs := { p.shared.rs with now := now } }, p.tasks⟩

def RouterSocketV3.new (route routerSocketId : String) (reallyNeed : Bool) (now : Int) :
    RouterSocketV3 where
  route := route
  routerSocketId := routerSocketId
  isRemoved := false
  reallyNeedOnResponseBodyChunkReceivedFromTarget := reallyNeed
  contextMap := []
  contexts := fun _ => .new now
  reqIdGenerator := 0
  wssSendTask := .new
  removals := []
  onComplete := []
  now := now

def Shared.new (rs : RouterSocketV3) : Shared where
  rs := rs
  recv := []
  bodyStream := fun _ => .none
  tornDown := false
  admitted := []
  endStreamSeen := fun _ => false
  endedAt := fun _ => none
  clientGone := fun _ => false

def socketMachine : Machine SocketPool Label where
  init := fun p => ∃ route routerSocketId reallyNeed now,
    p = ⟨.new (.new route routerSocketId reallyNeed now), []⟩
  step := step dbg overflowChecks

/-- A new socket. -/
def freshSocket : SocketPool := ⟨.new (.new "orders" "socket" false 0), []⟩

theorem init_freshSocket (overflowChecks : Bool) :
    (socketMachine plainText overflowChecks).init freshSocket :=
  ⟨"orders", "socket", false, 0, rfl⟩

end CrankerRouter.V3
