import CrankerRouter.Lib.Chan
import CrankerRouter.V3.Frames

/-!
# State of a V3 socket

One websocket carries any number of requests.  `contextMap` is the key set of the map of the same
name.  A context outlives its entry, because the tasks of the request hold it, so the contexts
stand apart; a request id names one context.  `removals` are the spawned tasks that will remove
an entry.  `onComplete` is history: the calls of the listeners' `on_complete`.
-/

namespace CrankerRouter.V3

open Lib

def waterMarkHigh : Int := 64 * 1024
def waterMarkLow : Int := 16 * 1024

inductive StreamState
  | opened
  | halfClose
  | closed
  | error
  deriving DecidableEq, Repr

def StreamState.isCompleted : StreamState → Bool
  | .opened | .halfClose => false
  | .closed | .error => true

/-- `shouldKeepReadFromCli` holds the callbacks of an upload that waits for window, `resumed`
those that were notified. -/
structure RequestContext where
  wssTgtConnectorAckBytes : BitVec 32
  wssRtrToTgtPendingAckBytes : BitVec 32
  isWssWritable : Bool
  isWssWriting : Bool
  shouldKeepReadFromCli : List Nat
  resumed : List Nat
  wssOnBinaryCallCount : BitVec 64
  reqStartTime : Int
  tgtResHdr : Chan (Except CrankerRouterException String)
  tgtResBdy : Chan (Except CrankerRouterException Bytes)
  fromClientBytes : BitVec 64
  toClientBytes : BitVec 64
  durationMillis : Int
  error : Option CrankerRouterException
  isRstStreamSent : Bool
  state : StreamState
  headerLineBuilder : String
  isTgtCanSendResNow : Bool
  isEndStreamReceivedFromTgt : Bool

def RequestContext.new (now : Int) : RequestContext where
  wssTgtConnectorAckBytes := 0
  wssRtrToTgtPendingAckBytes := 0
  isWssWritable := true
  isWssWriting := false
  shouldKeepReadFromCli := []
  resumed := []
  wssOnBinaryCallCount := 0
  reqStartTime := now
  tgtResHdr := .new
  tgtResBdy := .new
  fromClientBytes := 0
  toClientBytes := 0
  durationMillis := 0
  error := none
  isRstStreamSent := false
  state := .opened
  headerLineBuilder := ""
  isTgtCanSendResNow := false
  isEndStreamReceivedFromTgt := false

structure RouterSocketV3 where
  route : String
  routerSocketId : String
  isRemoved : Bool
  reallyNeedOnResponseBodyChunkReceivedFromTarget : Bool
  contextMap : List ReqId
  contexts : ReqId → RequestContext
  reqIdGenerator : BitVec 32
  wssSendTask : Chan Message
  removals : List ReqId
  onComplete : List ReqId
  now : Int

namespace RequestContext

/-- The loop takes every waiting callback; the call at its end then finds the queue empty. -/
def writeItMaybe (ctx : RequestContext) : RequestContext :=
  if ctx.isWssWritable && !ctx.shouldKeepReadFromCli.isEmpty && !ctx.isWssWriting then
    { ctx with shouldKeepReadFromCli := [], resumed := ctx.resumed ++ ctx.shouldKeepReadFromCli }
  else ctx

/-- `void sendingBytes`. -/
def incRtrToTgtPendingAckBytes (ctx : RequestContext) (pending : BitVec 32) : RequestContext :=
  let total := ctx.wssRtrToTgtPendingAckBytes + pending
  { ctx with
    wssRtrToTgtPendingAckBytes := total
    isWssWritable := if total.toInt > waterMarkHigh then false else ctx.isWssWritable }

/-- `void ackedBytes`, past the negation. -/
def acked (ctx : RequestContext) (ack : BitVec 32) : RequestContext :=
  let pending := ctx.wssRtrToTgtPendingAckBytes + -ack
  let ctx := { ctx with
    wssTgtConnectorAckBytes := ctx.wssTgtConnectorAckBytes + ack
    wssRtrToTgtPendingAckBytes := pending }
  if pending.toInt < waterMarkLow && !ctx.isWssWritable then
    { ctx with isWssWritable := true }.writeItMaybe
  else ctx

/-- The negation is the only checked arithmetic. -/
def targetConnectorAckBytes (overflowChecks : Bool) (ctx : RequestContext) (ack : BitVec 32) :
    Except Panic RequestContext :=
  if overflowChecks && ack == BitVec.intMin 32 then .error .overflow else .ok (ctx.acked ack)

/-- `is_cli_req_not_start_to_send_to_tgt_yet`. -/
def isCliReqNotStartToSendToTgtYet (ctx : RequestContext) : Bool :=
  ctx.isTgtCanSendResNow && ctx.fromClientBytes == 0

end RequestContext

namespace RouterSocketV3

/-- Changes the context of one request. -/
def modify (rs : RouterSocketV3) (r : ReqId) (f : RequestContext → RequestContext) :
    RouterSocketV3 :=
  { rs with contexts := Function.update rs.contexts r (f (rs.contexts r)) }

def setError (rs : RouterSocketV3) (r : ReqId) (crex : CrankerRouterException) : RouterSocketV3 :=
  rs.modify r fun ctx => { ctx with error := some crex }

def sendHdr (rs : RouterSocketV3) (r : ReqId) (item : Except CrankerRouterException String) :
    RouterSocketV3 :=
  rs.modify r fun ctx => { ctx with tgtResHdr := ctx.tgtResHdr.send item }

def sendBdy (rs : RouterSocketV3) (r : ReqId) (item : Except CrankerRouterException Bytes) :
    RouterSocketV3 :=
  rs.modify r fun ctx => { ctx with tgtResBdy := ctx.tgtResBdy.send item }

def closeHdr (rs : RouterSocketV3) (r : ReqId) : RouterSocketV3 :=
  rs.modify r fun ctx => { ctx with tgtResHdr := ctx.tgtResHdr.close }

def closeBdy (rs : RouterSocketV3) (r : ReqId) : RouterSocketV3 :=
  rs.modify r fun ctx => { ctx with tgtResBdy := ctx.tgtResBdy.close }

def storeRstStreamSent (rs : RouterSocketV3) (r : ReqId) : RouterSocketV3 :=
  rs.modify r fun ctx => { ctx with isRstStreamSent := true }

def storeEndStreamReceived (rs : RouterSocketV3) (r : ReqId) : RouterSocketV3 :=
  rs.modify r fun ctx => { ctx with isEndStreamReceivedFromTgt := true }

/-- `send_data` when its result is not looked at. -/
def sendData (rs : RouterSocketV3) (m : Message) : RouterSocketV3 :=
  { rs with wssSendTask := rs.wssSendTask.send m }

def trySpawnRemoveReqCtx (rs : RouterSocketV3) (r : ReqId) : RouterSocketV3 :=
  { rs with removals := rs.removals ++ [r] }

/-- The body of the task that `try_spawn_remove_req_ctx` spawns. -/
def removeReqCtx (rs : RouterSocketV3) (r : ReqId) : RouterSocketV3 :=
  { rs with contextMap := rs.contextMap.filter (· ≠ r), removals := rs.removals.erase r }

/-- The listeners' `on_complete`; a failing one is only logged. -/
def callOnComplete (rs : RouterSocketV3) (r : ReqId) : RouterSocketV3 :=
  { rs with onComplete := rs.onComplete ++ [r] }

def raiseCompletionEvent (rs : RouterSocketV3) (r : ReqId) : RouterSocketV3 :=
  if r ∈ rs.contextMap then
    (rs.modify r fun ctx =>
      { ctx with durationMillis := rs.now - ctx.reqStartTime }).callOnComplete r
  else rs

/-- Writes the error of every context in the map. -/
def tryProvideGeneralError (rs : RouterSocketV3) (crex : CrankerRouterException) :
    RouterSocketV3 :=
  { rs with contexts := fun r =>
      if r ∈ rs.contextMap then { rs.contexts r with error := some crex } else rs.contexts r }

@[simp] theorem modify_contexts_self (rs : RouterSocketV3) (r : ReqId)
    (f : RequestContext → RequestContext) : (rs.modify r f).contexts r = f (rs.contexts r) := by
  simp [modify]

@[simp] theorem modify_contexts_ne (rs : RouterSocketV3) {r r' : ReqId} (h : r' ≠ r)
    (f : RequestContext → RequestContext) :
    (rs.modify r f).contexts r' = rs.contexts r' := by
  simp [modify, h]

section Fields

variable (rs : RouterSocketV3) (r : ReqId) (f : RequestContext → RequestContext) (m : Message)

@[simp] theorem modify_wssSendTask : (rs.modify r f).wssSendTask = rs.wssSendTask := rfl
@[simp] theorem modify_contextMap : (rs.modify r f).contextMap = rs.contextMap := rfl
@[simp] theorem modify_removals : (rs.modify r f).removals = rs.removals := rfl
@[simp] theorem modify_now : (rs.modify r f).now = rs.now := rfl
@[simp] theorem sendData_contexts : (rs.sendData m).contexts = rs.contexts := rfl
@[simp] theorem sendData_contextMap : (rs.sendData m).contextMap = rs.contextMap := rfl
@[simp] theorem sendData_removals : (rs.sendData m).removals = rs.removals := rfl
@[simp] theorem sendData_wssSendTask : (rs.sendData m).wssSendTask = rs.wssSendTask.send m := rfl
@[simp] theorem trySpawnRemoveReqCtx_contexts :
    (rs.trySpawnRemoveReqCtx r).contexts = rs.contexts := rfl
@[simp] theorem trySpawnRemoveReqCtx_contextMap :
    (rs.trySpawnRemoveReqCtx r).contextMap = rs.contextMap := rfl
@[simp] theorem trySpawnRemoveReqCtx_wssSendTask :
    (rs.trySpawnRemoveReqCtx r).wssSendTask = rs.wssSendTask := rfl
@[simp] theorem trySpawnRemoveReqCtx_removals :
    (rs.trySpawnRemoveReqCtx r).removals = rs.removals ++ [r] := rfl

@[simp] theorem raiseCompletionEvent_wssSendTask :
    (rs.raiseCompletionEvent r).wssSendTask = rs.wssSendTask := by
  unfold raiseCompletionEvent
  split <;> rfl

@[simp] theorem raiseCompletionEvent_contextMap :
    (rs.raiseCompletionEvent r).contextMap = rs.contextMap := by
  unfold raiseCompletionEvent
  split <;> rfl

@[simp] theorem raiseCompletionEvent_removals :
    (rs.raiseCompletionEvent r).removals = rs.removals := by
  unfold raiseCompletionEvent
  split <;> rfl

theorem raiseCompletionEvent_contexts :
    ∃ d, (rs.raiseCompletionEvent r).contexts r = { rs.contexts r with durationMillis := d } := by
  unfold raiseCompletionEvent
  split
  · exact ⟨rs.now - (rs.contexts r).reqStartTime, by simp [callOnComplete]⟩
  · exact ⟨_, rfl⟩

end Fields

end RouterSocketV3

end CrankerRouter.V3
