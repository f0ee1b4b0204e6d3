import CrankerRouter.Lib.Machine
import CrankerRouter.V3.OnBinary

/-!
# Tasks of a V3 socket

Several tasks work on a request: the handler in `on_client_req`, the sender it spawns, the receive
pipe, the watcher of the response body and the teardown in the send pipe.  Each is a list of
operations.  An operation touches the shared state once and is replaced by the operations that
follow from it, so the tasks interleave at every access.  An operation that can fail comes last in
its list, which is how the `?` of the source drops the rest of the function.
-/

namespace CrankerRouter.V3

open Lib

/-- The parts of `notify_client_request_error`, `reset_stream` and `notify_client_request_close`. -/
inductive NotifyOp
  | notifyError (crex : CrankerRouterException)
  | decideError (crex : CrankerRouterException)
  | sendHdrErr (ex : CrankerRouterException)
  | sendBdyErr (ex : CrankerRouterException)
  | raiseCompletion
  | spawnRemove
  | resetStream (errCode : BitVec 32) (msg : String)
  | queueRst (errCode : BitVec 32) (msg : String)
  | storeRstSent
  | notifyClose (code : Nat) (optReason : Option String)
  | checkClosed (code : Nat) (optReason : Option String)
  | closeHdr
  | closeBdy
  deriving DecidableEq

/-- The parts of the handlers of `on_binary`. -/
inductive FrameOp
  | handleData (flags : UInt8) (bin : Bytes)
  | handleHeader (flags : UInt8) (bin : Bytes)
  | handleRstStream (bin : Bytes)
  | handleWindowUpdate (bin : Bytes)
  | storeEndStream
  | countBinary
  | sendBody (isEndStream : Bool) (bin : Bytes)
  | addToClient (len : Nat)
  | queueCredit (len : Nat)
  | provideGeneralError (crex : CrankerRouterException)
  | bodyListeners (res : Option CrankerRouterException)
  | appendHeader (flags : UInt8) (bin : Bytes)
  | sendHeader (isStreamEnd : Bool) (len : Nat)
  | creditHeader (len : Nat)
  deriving DecidableEq

/-- The parts of `on_close` and of the error branch of the send pipe. -/
inductive SocketOp
  | storeRemoved
  | visitToClose (code : Nat) (optReason : Option String)
  | closeEach (code : Nat) (optReason : Option String) (todo visited : List ReqId)
  | generalErrorUnlessRemoved (crex : CrankerRouterException)
  | closeSendTask
  | visitToTerminate (crex : CrankerRouterException)
  | collect (crex : CrankerRouterException) (todo visited : List ReqId)
  | retainNone
  deriving DecidableEq

/-- The parts of `send_request_over_websocket_v3`, `split_part_two_recv_and_res` and the watcher. -/
inductive RequestOp
  | insertCtx (text : String) (hasBody : Bool)
  | beforeProxyToTarget (text : String) (hasBody : Bool)
  | recvHeader
  | respond (fullContent : String)
  | buildBody
  | awaitStreamEnd
  | checkEndStream
  | checkIfContextExists
  deriving DecidableEq

/-- The parts of `split_part_one_send_or_err`. -/
inductive UploadOp
  | storeCanSend (text : String) (hasBody : Bool)
  | uploadHeader (parts : List (Bool × String)) (hasBody : Bool)
  | queueHeader (isHeaderEnd : Bool) (part : String) (parts : List (Bool × String)) (hasBody : Bool)
  | incPending (len : Nat)
  | addFromClient (len : Nat)
  | nextChunk
  | beforeChunk (chunk : Bytes)
  | queueChunk (chunk : Bytes)
  | chunkListeners
  | flowControl
  | pushCallback
  | writeItMaybe
  | awaitNotify (callback : Nat)
  | queueEnd
  | afterSent
  | senderError (crex : CrankerRouterException)
  deriving DecidableEq

/-- An operation, with the request it works for; `checkRemoved` and `nextReqId` open
`on_client_req`. -/
inductive Op
  | notify (r : ReqId) (o : NotifyOp)
  | frame (r : ReqId) (o : FrameOp)
  | request (r : ReqId) (o : RequestOp)
  | upload (r : ReqId) (o : UploadOp)
  | socket (o : SocketOp)
  | checkRemoved (text : String) (hasBody : Bool)
  | nextReqId (text : String) (hasBody : Bool)
  deriving DecidableEq

/-- The request an operation works for. -/
def Op.req : Op → Option ReqId
  | .notify r _ | .frame r _ | .request r _ | .upload r _ => some r
  | .socket _ | .checkRemoved _ _ | .nextReqId _ _ => none

inductive TaskKind
  | handler
  | sender
  | watcher
  | teardown
  deriving DecidableEq, Repr

structure Task where
  kind : TaskKind
  ops : List Op
  deriving DecidableEq

/-- The response body of a request: not handed over yet, being read, or dropped. -/
inductive BodyStream
  | none
  | live
  | gone
  deriving DecidableEq, Repr

/-- The socket with what is left of the receive pipe's callback.  The last four fields are
history: the ids given out, the requests a frame with END_STREAM arrived for, the number of
RST_STREAM frames queued for a request when the connector ended its stream, and the requests whose
client went away. -/
structure Shared where
  rs : RouterSocketV3
  recv : List Op
  bodyStream : ReqId → BodyStream
  tornDown : Bool
  admitted : List ReqId
  endStreamSeen : ReqId → Bool
  endedAt : ReqId → Option Nat
  clientGone : ReqId → Bool

abbrev SocketPool := Pool Shared Task

/-- What the outside decides: the answers of listeners and of the response builder, the request
body, the order of a map iteration. -/
inductive Choice
  | go
  | answer (crex : Option CrankerRouterException)
  | chunk (b : Bytes)
  | bodyError (crex : CrankerRouterException)
  | bodyEnd
  | visit (r : ReqId)
  | stop
  deriving DecidableEq

/-- `Err` out of a handler of `on_binary`. -/
def failFrame (r : ReqId) (crex : CrankerRouterException) : List Op :=
  [.notify r (.notifyError crex), .notify r (.resetStream 1001 "Going away")]

/-- After the listeners' answer to a chunk: their error first, then the result of the send. -/
def listenerOps (reallyNeed : Bool) (r : ReqId) (answer res : Option CrankerRouterException) :
    List Op :=
  match reallyNeed, answer, res with
  | true, some crex, _ => failFrame r crex
  | _, _, some crex => failFrame r crex
  | _, _, none => []

def resetAfter (crex : CrankerRouterException) : NotifyOp :=
  match crex.optErrKind with
  | some .proxyListenerError0009 => .resetStream errorInternal "Proxy listener error"
  | some .clientRequestBodyReadError0010 =>
      .resetStream errorInternal "Client request body read error"
  | _ => .resetStream 1001 "Going away"

/-- `Err` out of `send_request_over_websocket_v3`. -/
def failRequest (r : ReqId) (crex : CrankerRouterException) : List Op :=
  [.notify r (.notifyError crex), .notify r (resetAfter crex)]

def clientConnectionClosed : CrankerRouterException :=
  (CrankerRouterException.new "connection to client closed unexpectedly").withErrKind
    .brokenConnection0011

/-- What remains to visit of an iteration over the map: an entry that was there at the start and
still is comes up; one inserted meanwhile may. -/
def iterated (rs : RouterSocketV3) (todo visited : List ReqId) : Bool :=
  todo.all fun r => visited.contains r || !rs.contextMap.contains r

end CrankerRouter.V3
