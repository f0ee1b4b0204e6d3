import CrankerRouter.ErrBranch
import CrankerRouter.Http.RequestHead
import CrankerRouter.V3.Ops

/-!
# State of a V1 socket

A V1 socket serves one request.  Its tasks are the handler in `on_client_req`, the sender it
spawns, the watcher of the response body, the receive pipe, the send pipe and the idle timer; each
is a list of operations that touch the shared state once.  A listener's answer, the request body
and the fate of a message on the wire are choices of the outside.  `onComplete` is history: the
listeners whose `on_complete` was called.
-/

namespace CrankerRouter.V1

open Lib Http

structure RouterSocketV1 where
  isRemoved : Bool
  isTgtCanSendResNow : Bool
  bytesReceived : BitVec 64
  error : Option CrankerRouterException
  clientReqStartTs : Int
  durationMillis : Int
  errChan : Chan CrankerRouterException
  isTgtResHdrReceived : Bool
  isTgtResHdrSent : Bool
  tgtResHdr : Chan (Except CrankerRouterException String)
  tgtResBdy : Chan (Except CrankerRouterException Bytes)
  wssSendTask : Chan Message
  reallyNeedOnResponseBodyChunkReceivedFromTarget : Bool
  reallyNeedOnRequestBodyChunkSentToTarget : Bool
  isCloseMsgReceived : Bool
  proxyListeners : Nat
  onComplete : List Nat
  now : Int

def RouterSocketV1.new (proxyListeners : Nat) (needResponseChunks needRequestChunks : Bool)
    (now : Int) : RouterSocketV1 where
  isRemoved := false
  isTgtCanSendResNow := false
  bytesReceived := 0
  error := none
  clientReqStartTs := 0
  durationMillis := -now
  errChan := .new
  isTgtResHdrReceived := false
  isTgtResHdrSent := false
  tgtResHdr := .new
  tgtResBdy := .new
  wssSendTask := .new
  reallyNeedOnResponseBodyChunkReceivedFromTarget := needResponseChunks
  reallyNeedOnRequestBodyChunkSentToTarget := needRequestChunks
  isCloseMsgReceived := false
  proxyListeners := proxyListeners
  onComplete := []
  now := now

/-- The operations of all tasks.  `inClose` marks a call of `on_error` or of
`raise_completion_event` whose result `on_close` collects. -/
inductive Op
  | checkRemoved (text : String) (hasBody : Bool)
  | storeStart (text : String) (hasBody : Bool)
  | beforeProxyToTarget (text : String) (hasBody : Bool)
  | recvHeader
  | respond (content : String)
  | buildBody
  | portalError
  | storeCanSend (text : String) (hasBody : Bool)
  | queueHead (text : String) (hasBody : Bool)
  | nextChunk
  | beforeChunk (chunk : Bytes)
  | sentListeners (chunk : Bytes)
  | queueChunk (chunk : Bytes)
  | chunkListeners
  | queueEnd
  | afterSent
  | awaitStreamEnd
  | checkCloseReceived
  | onText (txt : String)
  | sendHeaderText (txt : String)
  | queueHeaderText (txt : String)
  | storeHdrSent
  | onBinary (bin : Bytes)
  | sendBinary (bin : Bytes)
  | bodyListeners
  | sendPong (ping : Bytes)
  | onClose (frame : Option CloseFrame)
  | queueClose (frame : Option CloseFrame)
  | failPrior (code : Nat)
  | checkClosed (code : Nat) (reason : String)
  | returnTotalErr
  | endCheck
  | onError (crex : CrankerRouterException) (inClose : Bool)
  | raise (inClose : Bool)
  | complete (listener : Nat) (inClose : Bool)
  | sendHdrErr (ex : CrankerRouterException)
  | sendBdyErr (ex : CrankerRouterException)
  | closeHdr
  | closeBdy
  | sendLoop
  | incBytes (len : Nat)
  | transmit (msg : Message)
  | sendFailed (msg : Message) (err : String)
  | generalErrorUnlessRemoved (crex : CrankerRouterException)
  | closeSendTask
  | endPipe
  deriving DecidableEq

inductive Role
  | handler
  | sender
  | watcher
  | recv
  | sendPipe
  | timer
  deriving DecidableEq, Repr

/-- The socket with its tasks.  `totalErr` is the variable of `on_close`; the receive pipe runs
while `recvOpen`.  `closedNormally` is history: a close frame with code 1000 was received. -/
structure Socket where
  rs : RouterSocketV1
  tasks : Role → List Op
  bodyStream : V3.BodyStream
  totalErr : Option CrankerRouterException
  recvOpen : Bool
  timedOut : Bool
  served : Bool
  closedNormally : Bool

inductive Choice
  | go
  | answer (crex : Option CrankerRouterException)
  | chunk (b : Bytes)
  | bodyError (crex : CrankerRouterException)
  | bodyEnd
  | takeError
  | takeMessage
  | sent
  | failed (err : String)
  deriving DecidableEq

def headerMaxSize : Nat := 64 * 1024

/-- The text message that ends a request body. -/
def endOfBody : Except CrankerRouterException String :=
  CrankerProtocolRequestBuilder.new.withRequestBodyEnded.build

@[simp] theorem endOfBody_eq : endOfBody = .ok "_3" := rfl

namespace RouterSocketV1

def sendData (rs : RouterSocketV1) (m : Message) : RouterSocketV1 :=
  { rs with wssSendTask := rs.wssSendTask.send m }

def sendHdr (rs : RouterSocketV1) (item : Except CrankerRouterException String) : RouterSocketV1 :=
  { rs with tgtResHdr := rs.tgtResHdr.send item }

def sendBdy (rs : RouterSocketV1) (item : Except CrankerRouterException Bytes) : RouterSocketV1 :=
  { rs with tgtResBdy := rs.tgtResBdy.send item }

end RouterSocketV1

/-- `exceptions::compose_ex` with an error. -/
def composeEx (total : Option CrankerRouterException) (ex : CrankerRouterException) :
    Option CrankerRouterException :=
  some (match total with
    | none => ex
    | some e => ⟨e.reason ++ ex.reason, e.optStatusCode.or ex.optStatusCode,
        e.optErrKind.or ex.optErrKind⟩)

def Socket.collectErr (x : Socket) (inClose : Bool) (ex : CrankerRouterException) : Socket :=
  if inClose then { x with totalErr := composeEx x.totalErr ex } else x

/-- What an operation leaves: the state, the operations that follow, and a task it spawns. -/
abbrev Outcome := Socket × List Op × Option (Role × List Op)

variable (dbg : DebugText)

def rareErrChanClosed : CrankerRouterException :=
  .new s!"rare ex that failed to send error to err chan: {dbg.sendError}"

/-- A listener call whose error ends the task. -/
def fallible (x : Socket) (c : Choice) (next : List Op) : Option Outcome :=
  match c with
  | .answer none => some (x, next, none)
  | .answer (some crex) => some (x, [.onError crex false], none)
  | _ => none

/-- A message queued for the target, with the error of a closed queue. -/
def queueOrFail (x : Socket) (m : Message) (reason : String) (next : List Op) : Outcome :=
  if x.rs.wssSendTask.closed then (x, [.onError (.new s!"{reason}{dbg.sendError}") false], none)
  else ({ x with rs := x.rs.sendData m }, next, none)

/-- `on_client_req`, and the portal that called it. -/
def execHandler (x : Socket) (c : Choice) : Op → Option Outcome
  | .checkRemoved text hasBody =>
      some (x, if x.rs.isRemoved then [.portalError] else [.storeStart text hasBody], none)
  | .storeStart text hasBody =>
      some ({ x with rs := { x.rs with
          clientReqStartTs := x.rs.now, durationMillis := -x.rs.now } },
        [.beforeProxyToTarget text hasBody], none)
  | .beforeProxyToTarget text hasBody =>
      match c with
      | .answer none => some (x, [.recvHeader], some (.sender, [.storeCanSend text hasBody]))
      | .answer (some _) => some (x, [.portalError], none)
      | _ => none
  | .recvHeader =>
      match x.rs.tgtResHdr.next? with
      | some (.ok content) => some ({ x with rs := { x.rs with tgtResHdr := x.rs.tgtResHdr.take } },
          [.respond content], none)
      | some (.error _) => some ({ x with rs := { x.rs with tgtResHdr := x.rs.tgtResHdr.take } },
          [.portalError], none)
      | none => if x.rs.tgtResHdr.closed then some (x, [.portalError], none) else none
  | .respond _ =>
      match c with
      | .answer none => some ({ x with bodyStream := .live }, [.buildBody],
          some (.watcher, [.awaitStreamEnd]))
      | .answer (some _) => some (x, [.portalError], none)
      | _ => none
  | .buildBody =>
      match c with
      | .answer none => some (x, [], none)
      | .answer (some _) => some ({ x with bodyStream := .gone }, [.portalError], none)
      | _ => none
  | .portalError => some (x, if x.rs.isRemoved then [] else [.raise false], none)
  | _ => none

/-- `split_part_one_send_or_err`; its error goes to `on_error`. -/
def execSender (x : Socket) (c : Choice) : Op → Option Outcome
  | .storeCanSend text hasBody =>
      some ({ x with rs := { x.rs with isTgtCanSendResNow := true } }, [.queueHead text hasBody],
        none)
  | .queueHead text hasBody =>
      some (queueOrFail dbg x (.text text) "failed to send cli req hdr to tgt: "
        (if hasBody then [.nextChunk] else [.afterSent]))
  | .nextChunk =>
      match c with
      | .chunk b => some (x, [.beforeChunk b], none)
      | .bodyError crex => some (x, [.onError crex false], none)
      | .bodyEnd => some (x, [.queueEnd], none)
      | _ => none
  | .beforeChunk chunk => fallible x c [.sentListeners chunk]
  | .sentListeners chunk => fallible x c [.queueChunk chunk]
  | .queueChunk chunk =>
      some (queueOrFail dbg x (.binary chunk) "error when sending req body to tgt: "
        [.chunkListeners])
  | .chunkListeners =>
      if x.rs.reallyNeedOnRequestBodyChunkSentToTarget then fallible x c [.nextChunk]
      else some (x, [.nextChunk], none)
  | .queueEnd =>
      match endOfBody with
      | .ok text => some (queueOrFail dbg x (.text text)
          "failed to send end of body end marker to tgt: " [.afterSent])
      | .error crex => some (x, [.onError crex false], none)
  | .afterSent => fallible x c []
  | _ => none

/-- The callbacks of the receive pipe; an `Err` goes to `on_error`. -/
def execRecv (x : Socket) (c : Choice) : Op → Option Outcome
  | .onText txt =>
      some (x, if x.rs.isTgtCanSendResNow then [.sendHeaderText txt]
        else [.onError (.new "recv txt before handle cli req.") false], none)
  | .sendHeaderText txt =>
      if x.rs.isTgtResHdrSent || x.rs.isTgtResHdrReceived then
        some (x, [.onError (.new "res header already handled!") false], none)
      else some ({ x with rs := { x.rs with isTgtResHdrReceived := true } },
        if headerMaxSize < (utf8 txt).length then
          [.onError (.new "response header too large: over 64 * 1024 bytes.") false]
        else [.queueHeaderText txt], none)
  | .queueHeaderText txt =>
      if x.rs.tgtResHdr.closed then
        some (x, [.closeHdr, .storeHdrSent, .onError (.new
          s!"rare ex: failed to send txt to cli res chan: {dbg.sendError}. ") false], none)
      else some ({ x with rs := x.rs.sendHdr (.ok txt) }, [.closeHdr, .storeHdrSent], none)
  | .storeHdrSent => some ({ x with rs := { x.rs with isTgtResHdrSent := true } }, [], none)
  | .onBinary bin =>
      some (x, if x.rs.isTgtCanSendResNow then [.sendBinary bin]
        else [.onError (.new "recv bin before handle cli req.") false], none)
  | .sendBinary bin =>
      if !x.rs.isTgtResHdrReceived || !x.rs.isTgtResHdrSent then
        some (x, [.onError (.new "res header not handle yet but comes binary first") false], none)
      else if x.rs.tgtResBdy.closed then
        some (x, [.onError (.new
          s!"failed to send binary to cli res chan: {dbg.sendError}") false], none)
      else some ({ x with rs := x.rs.sendBdy (.ok bin) }, [.bodyListeners], none)
  | .bodyListeners =>
      if x.rs.reallyNeedOnResponseBodyChunkReceivedFromTarget then fallible x c []
      else some (x, [], none)
  | .sendPong ping => some (queueOrFail dbg x (.pong ping) "failed to pong back " [])
  | .onClose frame =>
      some ({ x with rs := { x.rs with isCloseMsgReceived := true }, totalErr := none },
        [.queueClose frame, .failPrior ((frame.map (·.code)).getD 4000),
          .checkClosed ((frame.map (·.code)).getD 4000) ((frame.map (·.reason)).getD ""),
          .raise true, .returnTotalErr], none)
  | .failPrior code =>
      some (x,
        if x.rs.isTgtCanSendResNow && x.rs.bytesReceived == 0 then
          match V3.cliFailPriorToTgtRes code with
          | some ex => [.onError ex true]
          | none => []
        else [], none)
  | .checkClosed code reason =>
      some (x,
        if !x.rs.tgtResHdr.closed || !x.rs.tgtResBdy.closed then
          (if code = 1000 then []
          else
            [.sendHdrErr (V3.upstreamServerError code reason),
              .sendBdyErr (V3.upstreamServerError code reason),
              .onError (V3.upstreamServerError code reason) true]) ++ [.closeHdr, .closeBdy]
        else [], none)
  | .returnTotalErr =>
      some (x, match x.totalErr with
        | some e => [.onError e false]
        | none => [], none)
  | .endCheck =>
      some (x, if x.rs.isRemoved then []
        else [.onError (.new "underlying wss already closed but still is_removed = false") false],
        none)
  | _ => none

/-- What `err_msg_for_uwss` prints before the error of the wire. -/
def errMsgForUwss : Message → String
  | .text _ => "err sending txt to uwss"
  | .binary _ => "err sending bin to uwss"
  | .ping _ => "err sending ping to uwss"
  | .pong _ => "err sending pong to uwss"
  | .close _ => "err sending close to uwss"

/-- The error branch of the send pipe, with `terminate_all_conn`.  A panic at the reason of the
close frame ends the task, which drops its receivers as the end of the loop does. -/
def teardownOps (crex : CrankerRouterException) : List Op :=
  [.generalErrorUnlessRemoved crex, .closeSendTask] ++
    (if (reasonInCloFrame crex.reason).isSome then
      [.sendHdrErr crex, .sendBdyErr crex, .closeHdr, .closeBdy] else []) ++ [.endPipe]

/-- The loop of the send pipe.  Its end drops the receivers of the queue and of the error channel. -/
def execSendPipe (x : Socket) (c : Choice) : Op → Option Outcome
  | .sendLoop =>
      match c with
      | .takeError =>
          match x.rs.errChan.next? with
          | some crex => some ({ x with rs := { x.rs with errChan := x.rs.errChan.take } },
              teardownOps crex, none)
          | none => none
      | .takeMessage =>
          match x.rs.wssSendTask.next? with
          | some msg => some ({ x with rs := { x.rs with wssSendTask := x.rs.wssSendTask.take } },
              (match msg with
                | .binary bin => [.incBytes bin.length]
                | .text txt => [.incBytes (utf8 txt).length]
                | _ => []) ++ [.transmit msg], none)
          | none => if x.rs.wssSendTask.closed then some (x, [.endPipe], none) else none
      | _ => none
  | .incBytes len =>
      some ({ x with rs := { x.rs with
        bytesReceived := x.rs.bytesReceived + BitVec.ofNat 64 len } }, [], none)
  | .transmit msg =>
      match c with
      | .sent => some (x, [.sendLoop], none)
      | .failed err => some (x, [.sendFailed msg err], none)
      | _ => none
  | .sendFailed msg err =>
      some (x,
        match msg with
        | .text _ | .binary _ | .close _ =>
            [.onError (.new s!"{errMsgForUwss msg} : {err}") false, .sendLoop]
        | .ping _ | .pong _ =>
            if x.rs.isRemoved then [.endPipe]
            else [.onError (.new s!"{errMsgForUwss msg} : {err}") false, .sendLoop], none)
  | .generalErrorUnlessRemoved crex =>
      some (if x.rs.isRemoved then x else { x with rs := { x.rs with error := some crex } }, [], none)
  | .closeSendTask =>
      some ({ x with rs := { x.rs with wssSendTask := x.rs.wssSendTask.close } }, [], none)
  | .endPipe =>
      some ({ x with rs := { x.rs with
        wssSendTask := x.rs.wssSendTask.close, errChan := x.rs.errChan.close } }, [], none)
  | _ => none

/-- The watcher of the response body. -/
def execWatcher (x : Socket) : Op → Option Outcome
  | .awaitStreamEnd =>
      if x.bodyStream = .gone then some (x, [.checkCloseReceived], none) else none
  | .checkCloseReceived =>
      some (x, if x.rs.isCloseMsgReceived then [] else [.onError V3.clientConnectionClosed false],
        none)
  | _ => none

/-- The operations that any task may execute. -/
def execShared (x : Socket) (c : Choice) : Op → Option Outcome
  | .onError crex inClose =>
      if x.rs.errChan.closed then some (x.collectErr inClose (rareErrChanClosed dbg), [], none)
      else some ({ x with rs := { x.rs with errChan := x.rs.errChan.send crex } }, [.raise false],
        none)
  | .raise inClose =>
      if x.rs.clientReqStartTs = 0 ∨ x.rs.proxyListeners = 0 then some (x, [], none)
      else some ({ x with rs := { x.rs with
          durationMillis := x.rs.now - x.rs.clientReqStartTs } }, [.complete 0 inClose], none)
  | .complete listener inClose =>
      match c with
      | .answer none => some ({ x with rs := { x.rs with
            onComplete := x.rs.onComplete ++ [listener] } },
          if listener + 1 < x.rs.proxyListeners then [.complete (listener + 1) inClose] else [],
          none)
      | .answer (some crex) => some (({ x with rs := { x.rs with
            onComplete := x.rs.onComplete ++ [listener] } } : Socket).collectErr inClose crex,
          [], none)
      | _ => none
  | .sendHdrErr ex => some ({ x with rs := x.rs.sendHdr (.error ex) }, [], none)
  | .sendBdyErr ex => some ({ x with rs := x.rs.sendBdy (.error ex) }, [], none)
  | .closeHdr => some ({ x with rs := { x.rs with tgtResHdr := x.rs.tgtResHdr.close } }, [], none)
  | .closeBdy => some ({ x with rs := { x.rs with tgtResBdy := x.rs.tgtResBdy.close } }, [], none)
  | .queueClose frame => some ({ x with rs := x.rs.sendData (.close frame) }, [], none)
  | _ => none

inductive OpGroup
  | handler
  | sender
  | watcher
  | recv
  | sendPipe
  | shared
  deriving DecidableEq, Repr

def Op.group : Op → OpGroup
  | .checkRemoved _ _ | .storeStart _ _ | .beforeProxyToTarget _ _ | .recvHeader | .respond _
  | .buildBody | .portalError => .handler
  | .storeCanSend _ _ | .queueHead _ _ | .nextChunk | .beforeChunk _ | .sentListeners _
  | .queueChunk _ | .chunkListeners | .queueEnd | .afterSent => .sender
  | .awaitStreamEnd | .checkCloseReceived => .watcher
  | .onText _ | .sendHeaderText _ | .queueHeaderText _ | .storeHdrSent | .onBinary _ | .sendBinary _
  | .bodyListeners | .sendPong _ | .onClose _ | .failPrior _ | .checkClosed _ _ | .returnTotalErr
  | .endCheck => .recv
  | .sendLoop | .incBytes _ | .transmit _ | .sendFailed _ _ | .generalErrorUnlessRemoved _
  | .closeSendTask | .endPipe => .sendPipe
  | .onError _ _ | .raise _ | .complete _ _ | .sendHdrErr _ | .sendBdyErr _ | .closeHdr | .closeBdy
  | .queueClose _ => .shared

def Op.exec (x : Socket) (c : Choice) (op : Op) : Option Outcome :=
  match op.group with
  | .handler => execHandler x c op
  | .sender => execSender dbg x c op
  | .watcher => execWatcher x op
  | .recv => execRecv dbg x c op
  | .sendPipe => execSendPipe x c op
  | .shared => execShared dbg x c op

/-- `dropHandler` drops the future of `on_client_req`, `dropStream` the response body;
`setRemoved` is the farm's write to `is_removed`, and `ping` the keep-alive task. -/
inductive Label
  | request (text : String) (hasBody : Bool)
  | task (role : Role) (c : Choice)
  | text (txt : String)
  | binary (bin : Bytes)
  | pinged (ping : Bytes)
  | close (frame : Option CloseFrame)
  | recvError (ex : CrankerRouterException)
  | wssEnd
  | idleTimeout
  | ping
  | dropHandler
  | dropStream
  | setRemoved
  | tick (now : Int)
  deriving DecidableEq

def Socket.setTask (x : Socket) (role : Role) (ops : List Op) : Socket :=
  { x with tasks := Function.update x.tasks role ops }

def Socket.spawn (x : Socket) : Option (Role × List Op) → Socket
  | some (role, ops) => x.setTask role ops
  | none => x

/-- The next callback of the receive pipe. -/
def Socket.receive (x : Socket) (ops : List Op) : Option Socket :=
  if x.recvOpen ∧ x.tasks .recv = [] then some (x.setTask .recv ops) else none

/-- The end of the receive pipe. -/
def Socket.endRecv (x : Socket) (ops : List Op) : Option Socket :=
  (x.receive ops).map fun x => { x with recvOpen := false }

def timeoutEx : CrankerRouterException :=
  (CrankerRouterException.new "uwss read idle timeout").withErrKind .timeout0001

def step (x : Socket) : Label → Option Socket
  | .request text hasBody =>
      if x.served then none
      else some { x.setTask .handler [.checkRemoved text hasBody] with served := true }
  | .task role c =>
      match x.tasks role with
      | [] => none
      | op :: rest => (op.exec dbg x c).map fun (y, more, spawned) =>
          (y.setTask role (more ++ rest)).spawn spawned
  | .text txt => x.receive [.onText txt]
  | .binary bin => x.receive [.onBinary bin]
  | .pinged ping => x.receive [.sendPong ping]
  | .close frame => (x.receive [.onClose frame]).map fun x =>
      { x with closedNormally := x.closedNormally || frame.any (·.code == 1000) }
  | .recvError ex => x.endRecv [.onError ex false, .endCheck]
  | .wssEnd => x.endRecv [.endCheck]
  | .idleTimeout =>
      if x.recvOpen ∧ !x.timedOut then
        some { x.setTask .timer [.queueClose (some ⟨1001, "timeout"⟩), .onError timeoutEx false] with
          timedOut := true }
      else none
  | .ping => some { x with rs := x.rs.sendData (.ping (utf8 "ping")) }
  | .dropHandler =>
      if x.tasks .handler = [.recvHeader] then some (x.setTask .handler []) else none
  | .dropStream => if x.bodyStream = .live then some { x with bodyStream := .gone } else none
  | .setRemoved => some { x with rs := { x.rs with isRemoved := true } }
  | .tick now => if 0 < now then some { x with rs := { x.rs with now := now } } else none

def Socket.new (rs : RouterSocketV1) : Socket where
  rs := rs
  tasks := Function.update (fun _ => []) .sendPipe [.sendLoop]
  bodyStream := .none
  totalErr := none
  recvOpen := true
  timedOut := false
  served := false
  closedNormally := false

def socketMachine : Machine Socket Label where
  init x := ∃ proxyListeners needResponseChunks needRequestChunks now, 0 < now ∧
    x = .new (.new proxyListeners needResponseChunks needRequestChunks now)
  step := step dbg

/-- A socket with one listener. -/
def freshSocket : Socket := .new (.new 1 false false 1)

theorem init_freshSocket : (socketMachine plainText).init freshSocket :=
  ⟨1, false, false, 1, by decide, rfl⟩

end CrankerRouter.V1
