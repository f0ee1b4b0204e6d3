import CrankerRouter.V3.Sequential

/-!
# What one operation does

Every task and the receive pipe is a list of operations, and a step of one of them replaces the
head of its list.  The relations below say once what an operation can do; the invariants are
derived from them.
-/

namespace CrankerRouter.V3

open Lib

/-- A change of a context that leaves alone what decides the end of its stream. -/
def KeepsStream (f : RequestContext → RequestContext) : Prop :=
  ∀ ctx, (f ctx).isRstStreamSent = ctx.isRstStreamSent ∧ (f ctx).state = ctx.state ∧
    (f ctx).tgtResHdr = ctx.tgtResHdr ∧ (f ctx).tgtResBdy = ctx.tgtResBdy ∧
    (f ctx).isEndStreamReceivedFromTgt = ctx.isEndStreamReceivedFromTgt

private theorem keepsStream_writeItMaybe : KeepsStream RequestContext.writeItMaybe := by
  intro ctx
  unfold RequestContext.writeItMaybe
  split <;> exact ⟨rfl, rfl, rfl, rfl, rfl⟩

theorem keepsStream_acked (ack : BitVec 32) : KeepsStream (·.acked ack) := by
  intro ctx
  simp only [RequestContext.acked]
  split
  · exact keepsStream_writeItMaybe _
  · exact ⟨rfl, rfl, rfl, rfl, rfl⟩

/-- The frame operations that return a `Result`. -/
def FrameOp.fallible : FrameOp → Bool
  | .handleData _ _ | .handleHeader _ _ | .appendHeader _ _ | .sendHeader _ _ | .creditHeader _
  | .bodyListeners _ => true
  | _ => false

variable {dbg : DebugText} {overflowChecks : Bool}

inductive FrameMove (dbg : DebugText) (rs : RouterSocketV3) (r : ReqId) :
    FrameOp → RouterSocketV3 → List Op → Prop
  | fails (o : FrameOp) (crex : CrankerRouterException) (ho : o.fallible = true) :
      FrameMove dbg rs r o rs (failFrame r crex)
  | data (flags : UInt8) (bin : Bytes) :
      FrameMove dbg rs r (.handleData flags bin) rs
        ((if judgeIsStreamEndFromFlags flags then [.frame r .storeEndStream] else []) ++
          if bin.length = 0 then closeOpsIf r (judgeIsStreamEndFromFlags flags)
          else [.frame r .countBinary, .frame r (.sendBody (judgeIsStreamEndFromFlags flags) bin)])
  | header (flags : UInt8) (bin : Bytes) :
      FrameMove dbg rs r (.handleHeader flags bin) rs
        ((if judgeIsStreamEndFromFlags flags then [.frame r .storeEndStream] else []) ++
          [.frame r (.appendHeader flags bin)])
  | rst (bin : Bytes) (crex : CrankerRouterException) :
      FrameMove dbg rs r (.handleRstStream bin) rs [.notify r (.notifyError crex)]
  | windowUpdate (bin : Bytes) (ack : BitVec 32) :
      FrameMove dbg rs r (.handleWindowUpdate bin) (rs.modify r (·.acked ack)) []
  | storeEndStream : FrameMove dbg rs r .storeEndStream (rs.storeEndStreamReceived r) []
  | countBinary : FrameMove dbg rs r .countBinary (rs.countBinary r) []
  | addToClient (len : Nat) : FrameMove dbg rs r (.addToClient len) (rs.addToClient r len) []
  | bodyClosed (isEnd : Bool) (bin : Bytes) (hclosed : (rs.contexts r).tgtResBdy.closed = true) :
      FrameMove dbg rs r (.sendBody isEnd bin) rs
        [.frame r (.provideGeneralError (bodyChanClosed dbg)),
          .frame r (.bodyListeners (some (bodyChanClosed dbg)))]
  | bodySent (isEnd : Bool) (bin : Bytes) (hopen : (rs.contexts r).tgtResBdy.closed = false) :
      FrameMove dbg rs r (.sendBody isEnd bin) (rs.sendBdy r (.ok bin)) (closeOpsIf r isEnd ++
        [.frame r (.addToClient bin.length), .frame r (.queueCredit bin.length),
          .frame r (.bodyListeners none)])
  | credit (o : FrameOp) (len : Nat) (ho : o = .queueCredit len ∨ o = .creditHeader len) :
      FrameMove dbg rs r o (rs.sendData (chunkCredit r len)) []
  | generalError (crex : CrankerRouterException) :
      FrameMove dbg rs r (.provideGeneralError crex) (rs.tryProvideGeneralError crex) []
  | heard : FrameMove dbg rs r (.bodyListeners none) rs []
  | appended (flags : UInt8) (bin : Bytes) (content : String) :
      FrameMove dbg rs r (.appendHeader flags bin) (rs.pushHeader r content)
        (if judgeIsHeaderEndFromFlags flags then
          [.frame r (.sendHeader (judgeIsStreamEndFromFlags flags) bin.length)]
        else closeOpsIf r (judgeIsStreamEndFromFlags flags) ++ [.frame r (.creditHeader bin.length)])
  | headerSent (isEnd : Bool) (len : Nat) :
      FrameMove dbg rs r (.sendHeader isEnd len)
        (rs.sendHdr r (.ok (rs.contexts r).headerLineBuilder))
        (closeOpsIf r isEnd ++ [.frame r (.creditHeader len)])

theorem frameMove_of_run {rs rs' : RouterSocketV3} {r : ReqId} {c : Choice} {o : FrameOp}
    {more : List Op} (h : o.run dbg overflowChecks rs r c = some (rs', more)) :
    FrameMove dbg rs r o rs' more := by
  cases o <;> simp only [FrameOp.run] at h
  case handleData flags bin =>
    split at h <;> cases h
    · exact .fails _ _ rfl
    · exact .data flags bin
  case handleHeader flags bin =>
    split at h <;> cases h
    · exact .fails _ _ rfl
    · exact .header flags bin
  case handleRstStream bin =>
    split at h <;> cases h
    exact .rst bin _
  case handleWindowUpdate bin =>
    cases hout : handleWindowUpdate overflowChecks rs r bin with
    | error e => simp [hout] at h
    | ok out =>
        obtain ⟨ack, rfl⟩ := handleWindowUpdate_eq_ok hout
        simp only [hout, Option.some.injEq, Prod.mk.injEq] at h
        obtain ⟨rfl, rfl⟩ := h
        exact .windowUpdate bin ack
  case storeEndStream => cases h; exact .storeEndStream
  case countBinary => cases h; exact .countBinary
  case sendBody isEnd bin =>
    split at h <;> cases h
    · rename_i hclosed
      exact .bodyClosed isEnd bin hclosed
    · rename_i hopen
      exact .bodySent isEnd bin (by simpa using hopen)
  case addToClient len => cases h; exact .addToClient len
  case queueCredit len => cases h; exact .credit _ len (.inl rfl)
  case provideGeneralError crex => cases h; exact .generalError crex
  case bodyListeners res =>
    cases c <;> simp only [Option.some.injEq, Prod.mk.injEq, reduceCtorEq] at h
    obtain ⟨rfl, rfl⟩ := h
    unfold listenerOps
    split
    · exact .fails _ _ rfl
    · exact .fails _ _ rfl
    · exact .heard
  case appendHeader flags bin =>
    split at h
    · cases h
      exact .fails _ _ rfl
    · split at h <;> cases h
      · exact .fails _ _ rfl
      · exact .appended flags bin _
  case sendHeader isEnd len =>
    split at h <;> cases h
    · exact .fails _ _ rfl
    · exact .headerSent isEnd len
  case creditHeader len =>
    split at h <;> cases h
    · exact .fails _ _ rfl
    · exact .credit _ len (.inr rfl)

/-- The upload operations that something may follow in their list. -/
def UploadOp.simple : UploadOp → Bool
  | .incPending _ | .addFromClient _ | .writeItMaybe => true
  | _ => false

/-- Apart from a failure, the sender goes on with its own operations; it queues no RST_STREAM
frame and leaves the stream alone. -/
inductive UploadMove (rs : RouterSocketV3) (r : ReqId) :
    UploadOp → RouterSocketV3 → List Op → Prop
  | keeps (o : UploadOp) (f : RequestContext → RequestContext) (hf : KeepsStream f)
      (us : List UploadOp) (hus : ∀ u ∈ us.dropLast, u.simple = true)
      (ho : o.simple = true → us = []) :
      UploadMove rs r o (rs.modify r f) (us.map (.upload r))
  | queues (o : UploadOp) (type flags : UInt8) (payload : Bytes) (htype : type ≠ messageTypeRstStream)
      (us : List UploadOp) (hus : ∀ u ∈ us.dropLast, u.simple = true) (ho : o.simple = false) :
      UploadMove rs r o (rs.sendData (.binary (frame type flags r payload))) (us.map (.upload r))
  | fails (crex : CrankerRouterException)
      (hend : (rs.contexts r).isEndStreamReceivedFromTgt = false) :
      UploadMove rs r (.senderError crex) rs [.notify r (.notifyError crex)]

private theorem keepsStream_id : KeepsStream id := fun _ => ⟨rfl, rfl, rfl, rfl, rfl⟩

private theorem modify_id (rs : RouterSocketV3) (r : ReqId) : rs.modify r id = rs := by
  simp [RouterSocketV3.modify]

theorem UploadMove.idle {rs : RouterSocketV3} {r : ReqId} (o : UploadOp) (us : List UploadOp)
    (hus : ∀ u ∈ us.dropLast, u.simple = true) (ho : o.simple = true → us = []) :
    UploadMove rs r o rs (us.map (.upload r)) := by
  have h := @UploadMove.keeps rs r o id keepsStream_id us hus ho
  rwa [modify_id] at h

private theorem uploadMove_frame {rs rs' : RouterSocketV3} {r : ReqId} {more : List Op}
    (o : UploadOp)
    (type flags : UInt8) (payload : Bytes) (htype : type ≠ messageTypeRstStream)
    (ho : o.simple = false) (us : List UploadOp) (hus : ∀ u ∈ us.dropLast, u.simple = true)
    (h : uploadFrame dbg rs r (frame type flags r payload) (us.map (.upload r)) = (rs', more)) :
    UploadMove rs r o rs' more := by
  unfold uploadFrame at h
  split at h <;> cases h
  · exact .idle o [.senderError _] (by simp) (by simp [ho])
  · exact .queues o type flags payload htype us hus ho

private theorem uploadMove_of_run {rs rs' : RouterSocketV3} {r : ReqId} {c : Choice} {o : UploadOp}
    {more : List Op} (h : o.run dbg rs r c = some (rs', more)) : UploadMove rs r o rs' more := by
  cases o
  case storeCanSend text hasBody =>
    cases h
    refine .keeps _ _ ?_ [.uploadHeader _ hasBody] (by simp) (by simp [UploadOp.simple])
    exact fun _ => ⟨rfl, rfl, rfl, rfl, rfl⟩
  case uploadHeader parts hasBody =>
    match parts with
    | [] =>
        cases h
        cases hasBody
        · exact .idle _ [.afterSent] (by simp) (by simp [UploadOp.simple])
        · exact .idle _ [.nextChunk] (by simp) (by simp [UploadOp.simple])
    | (isHeaderEnd, part) :: parts =>
        cases h
        exact .idle _ [.incPending _, .queueHeader isHeaderEnd part parts hasBody]
          (by simp [UploadOp.simple]) (by simp [UploadOp.simple])
  case queueHeader isHeaderEnd part parts hasBody =>
    exact uploadMove_frame _ messageTypeHeader _ _ (by decide) rfl
      [.addFromClient _, .uploadHeader parts hasBody] (by simp [UploadOp.simple]) (Option.some.inj h)
  case incPending len =>
    cases h
    refine .keeps _ _ ?_ [] (by simp) (by simp)
    exact fun _ => ⟨rfl, rfl, rfl, rfl, rfl⟩
  case addFromClient len =>
    cases h
    refine .keeps _ _ ?_ [] (by simp) (by simp)
    exact fun _ => ⟨rfl, rfl, rfl, rfl, rfl⟩
  case nextChunk =>
    cases c <;> cases h
    · exact .idle _ [.beforeChunk _] (by simp) (by simp [UploadOp.simple])
    · exact .idle _ [.senderError _] (by simp) (by simp [UploadOp.simple])
    · exact .idle _ [.queueEnd] (by simp) (by simp [UploadOp.simple])
  case beforeChunk chunk =>
    cases c <;> try cases h
    rename_i a
    cases a <;> cases h
    · exact .idle _ [.incPending _, .queueChunk chunk] (by simp [UploadOp.simple])
        (by simp [UploadOp.simple])
    · exact .idle _ [.senderError _] (by simp) (by simp [UploadOp.simple])
  case queueChunk chunk =>
    exact uploadMove_frame _ messageTypeData _ _ (by decide) rfl
      [.addFromClient _, .chunkListeners] (by simp [UploadOp.simple]) (Option.some.inj h)
  case chunkListeners =>
    cases c <;> try cases h
    rename_i a
    cases a <;> cases h
    · exact .idle _ [.flowControl] (by simp) (by simp [UploadOp.simple])
    · exact .idle _ [.senderError _] (by simp) (by simp [UploadOp.simple])
  case flowControl =>
    cases h
    split
    · exact .idle _ [.nextChunk] (by simp) (by simp [UploadOp.simple])
    · exact .idle _ [.pushCallback] (by simp) (by simp [UploadOp.simple])
  case pushCallback =>
    cases h
    refine .keeps _ _ ?_ [.writeItMaybe, .awaitNotify _] (by simp [UploadOp.simple])
      (by simp [UploadOp.simple])
    exact fun _ => ⟨rfl, rfl, rfl, rfl, rfl⟩
  case writeItMaybe =>
    cases h
    exact .keeps _ _ keepsStream_writeItMaybe [] (by simp) (by simp)
  case awaitNotify callback =>
    simp only [UploadOp.run] at h
    split at h <;> cases h
    exact .idle (.awaitNotify callback) [.nextChunk] (by simp) (by simp [UploadOp.simple])
  case queueEnd =>
    exact uploadMove_frame _ messageTypeData _ _ (by decide) rfl [.afterSent] (by simp)
      (Option.some.inj h)
  case afterSent =>
    cases c <;> try cases h
    rename_i a
    cases a <;> cases h
    · exact .idle _ [] (by simp) (by simp)
    · exact .idle _ [.senderError _] (by simp) (by simp [UploadOp.simple])
  case senderError crex =>
    cases h
    split
    · exact .idle _ [] (by simp) (by simp)
    · rename_i hend
      exact .fails crex (by simpa using hend)

/-- The parts of `on_close` and of the teardown. -/
inductive SocketMove (rs : RouterSocketV3) : SocketOp → RouterSocketV3 → List Op → Prop
  | storeRemoved : SocketMove rs .storeRemoved { rs with isRemoved := true } []
  | visitToClose (code : Nat) (optReason : Option String) :
      SocketMove rs (.visitToClose code optReason) rs
        [.socket (.closeEach code optReason rs.contextMap [])]
  | closeVisit (code : Nat) (optReason : Option String) (todo visited : List ReqId) (r : ReqId)
      (hr : r ∈ rs.contextMap) :
      SocketMove rs (.closeEach code optReason todo visited) rs
        [.notify r (.notifyClose code optReason),
          .socket (.closeEach code optReason todo (r :: visited))]
  | closeStop (code : Nat) (optReason : Option String) (todo visited : List ReqId) :
      SocketMove rs (.closeEach code optReason todo visited) rs []
  | generalError (crex : CrankerRouterException) (rs' : RouterSocketV3)
      (hrs : rs' = rs ∨ rs' = rs.tryProvideGeneralError crex) :
      SocketMove rs (.generalErrorUnlessRemoved crex) rs' []
  | closeSendTask :
      SocketMove rs .closeSendTask { rs with wssSendTask := rs.wssSendTask.close } []
  | visitToTerminate (crex : CrankerRouterException) :
      SocketMove rs (.visitToTerminate crex) rs [.socket (.collect crex rs.contextMap [])]
  | collectVisit (crex : CrankerRouterException) (todo visited : List ReqId) (r : ReqId)
      (hr : r ∈ rs.contextMap) :
      SocketMove rs (.collect crex todo visited) rs [.socket (.collect crex todo (r :: visited))]
  | collectStop (crex : CrankerRouterException) (todo visited : List ReqId)
      (hall : ∀ r ∈ todo, r ∈ visited ∨ r ∉ rs.contextMap) :
      SocketMove rs (.collect crex todo visited) rs
        (visited.reverse.map (fun r => .notify r (.notifyError crex)) ++ [.socket .retainNone])
  | retainNone : SocketMove rs .retainNone { rs with contextMap := [] } []

theorem socketMove_of_run {rs rs' : RouterSocketV3} {o : SocketOp} {c : Choice} {more : List Op}
    (h : o.run rs c = some (rs', more)) : SocketMove rs o rs' more := by
  cases o with
  | storeRemoved => cases h; exact .storeRemoved
  | visitToClose code optReason => cases h; exact .visitToClose code optReason
  | closeEach code optReason todo visited =>
      unfold SocketOp.run at h
      cases c with
      | visit r =>
          simp only at h
          split at h <;> cases h
          rename_i hr
          exact .closeVisit code optReason todo visited r hr.1
      | stop =>
          simp only at h
          split at h <;> cases h
          exact .closeStop code optReason todo visited
      | _ => cases h
  | generalErrorUnlessRemoved crex =>
      cases h
      refine .generalError crex _ ?_
      split
      · exact .inl rfl
      · exact .inr rfl
  | closeSendTask => cases h; exact .closeSendTask
  | visitToTerminate crex => cases h; exact .visitToTerminate crex
  | collect crex todo visited =>
      unfold SocketOp.run at h
      cases c with
      | visit r =>
          simp only at h
          split at h <;> cases h
          rename_i hr
          exact .collectVisit crex todo visited r hr.1
      | stop =>
          simp only at h
          split at h <;> cases h
          rename_i hall
          refine .collectStop crex todo visited ?_
          simpa [iterated] using hall
      | _ => cases h
  | retainNone => cases h; exact .retainNone

/-- What an operation can do to the shared state, the operations that follow from it and the tasks
it spawns. -/
inductive Move (dbg : DebugText) (x : Shared) : Op → Shared → List Op → List Task → Prop
  | notify (r : ReqId) (o : NotifyOp) :
      Move dbg x (.notify r o) { x with rs := (o.run x.rs r).1 } (o.run x.rs r).2 []
  | frame {rs' : RouterSocketV3} {more : List Op} (r : ReqId) (o : FrameOp)
      (h : FrameMove dbg x.rs r o rs' more) : Move dbg x (.frame r o) { x with rs := rs' } more []
  | upload {rs' : RouterSocketV3} {more : List Op} (r : ReqId) (o : UploadOp)
      (h : UploadMove x.rs r o rs' more) : Move dbg x (.upload r o) { x with rs := rs' } more []
  | socket {rs' : RouterSocketV3} {more : List Op} (o : SocketOp) (c : Choice)
      (h : o.run x.rs c = some (rs', more)) : Move dbg x (.socket o) { x with rs := rs' } more []
  | checkRemoved (text : String) (hasBody : Bool) :
      Move dbg x (.checkRemoved text hasBody) x
        (if x.rs.isRemoved then [] else [.nextReqId text hasBody]) []
  | nextReqId (text : String) (hasBody : Bool) (hnew : x.rs.reqIdGenerator + 1 ∉ x.admitted) :
      Move dbg x (.nextReqId text hasBody)
        { x with
          rs := { x.rs with reqIdGenerator := x.rs.reqIdGenerator + 1 }
          admitted := (x.rs.reqIdGenerator + 1) :: x.admitted }
        [.request (x.rs.reqIdGenerator + 1) (.insertCtx text hasBody)] []
  | insertCtx (r : ReqId) (text : String) (hasBody : Bool) :
      Move dbg x (.request r (.insertCtx text hasBody)) { x with rs := x.rs.insertCtx r }
        [.request r (.beforeProxyToTarget text hasBody)] []
  | requestFails (r : ReqId) (o : RequestOp) (crex : CrankerRouterException)
      (ho : (∃ text hasBody, o = .beforeProxyToTarget text hasBody) ∨ (∃ text, o = .respond text) ∨
        (o = .recvHeader ∧ (x.rs.contexts r).tgtResHdr.next? = none ∧
          (x.rs.contexts r).tgtResHdr.closed = true)) :
      Move dbg x (.request r o) x (failRequest r crex) []
  | proxied (r : ReqId) (text : String) (hasBody : Bool) :
      Move dbg x (.request r (.beforeProxyToTarget text hasBody)) x [.request r .recvHeader]
        [⟨.sender, [.upload r (.storeCanSend text hasBody)]⟩]
  | headerTaken (r : ReqId) (content : String)
      (hnext : (x.rs.contexts r).tgtResHdr.next? = some (.ok content)) :
      Move dbg x (.request r .recvHeader) { x with rs := x.rs.takeHdr r }
        [.request r (.respond content)] []
  | errorTaken (r : ReqId) (crex : CrankerRouterException)
      (hnext : (x.rs.contexts r).tgtResHdr.next? = some (.error crex)) :
      Move dbg x (.request r .recvHeader) { x with rs := x.rs.takeHdr r } (failRequest r crex) []
  | responded (r : ReqId) (content : String) :
      Move dbg x (.request r (.respond content)) (x.setBodyStream r .live)
        [.request r .buildBody] [⟨.watcher, [.request r .awaitStreamEnd]⟩]
  | buildFails (r : ReqId) (crex : CrankerRouterException) :
      Move dbg x (.request r .buildBody) (x.setBodyStream r .gone) (failRequest r crex) []
  | built (r : ReqId) : Move dbg x (.request r .buildBody) x [] []
  | streamEnded (r : ReqId) (hgone : x.bodyStream r = .gone) :
      Move dbg x (.request r .awaitStreamEnd) x [.request r .checkEndStream] []
  | endSeen (r : ReqId) (hend : (x.rs.contexts r).isEndStreamReceivedFromTgt = true) :
      Move dbg x (.request r .checkEndStream) x [] []
  | notEnded (r : ReqId) (hend : (x.rs.contexts r).isEndStreamReceivedFromTgt = false) :
      Move dbg x (.request r .checkEndStream) x [.request r .checkIfContextExists] []
  | ctxFound (r : ReqId) (hr : r ∈ x.rs.contextMap) :
      Move dbg x (.request r .checkIfContextExists)
        { x with rs := x.rs.setError r clientConnectionClosed }
        [.notify r (.resetStream 1001 "Going away")] []
  | ctxMissing (r : ReqId) (hr : r ∉ x.rs.contextMap) :
      Move dbg x (.request r .checkIfContextExists) x [] []

private theorem move_of_requestExec {x y : Shared} {r : ReqId} {c : Choice} {o : RequestOp}
    {more : List Op} {ts : List Task} (h : o.exec dbg x r c = some (y, more, ts)) :
    Move dbg x (.request r o) y more ts := by
  cases o <;> simp only [RequestOp.exec] at h
  case insertCtx text hasBody => cases h; exact .insertCtx r text hasBody
  case beforeProxyToTarget text hasBody =>
    split at h <;> cases h
    · exact .requestFails r _ _ (.inl ⟨text, hasBody, rfl⟩)
    · exact .proxied r text hasBody
  case recvHeader =>
    split at h
    · rename_i hnext
      cases h
      exact .headerTaken r _ hnext
    · rename_i hnext
      cases h
      exact .errorTaken r _ hnext
    · rename_i hnext
      split at h <;> cases h
      rename_i hclosed
      exact .requestFails r _ _ (.inr (.inr ⟨rfl, hnext, hclosed⟩))
  case respond content =>
    split at h <;> cases h
    · exact .requestFails r _ _ (.inr (.inl ⟨content, rfl⟩))
    · exact .responded r content
  case buildBody =>
    split at h <;> cases h
    · exact .buildFails r _
    · exact .built r
  case awaitStreamEnd =>
    split at h <;> cases h
    rename_i hgone
    exact .streamEnded r hgone
  case checkEndStream =>
    cases h
    split
    · rename_i hend
      exact .endSeen r hend
    · rename_i hend
      exact .notEnded r (by simpa using hend)
  case checkIfContextExists =>
    split at h <;> cases h
    · rename_i hr
      exact .ctxFound r hr
    · rename_i hr
      exact .ctxMissing r hr

theorem move_of_execOp {x y : Shared} {op : Op} {c : Choice} {more : List Op} {ts : List Task}
    (h : execOp dbg overflowChecks x op c = some (y, more, ts)) : Move dbg x op y more ts := by
  cases op with
  | request r o => exact move_of_requestExec h
  | nextReqId text hasBody =>
      change x.nextReqId text hasBody = _ at h
      unfold Shared.nextReqId at h
      simp only at h
      split at h <;> cases h
      rename_i hnew
      exact .nextReqId text hasBody hnew
  | notify r o =>
      cases h
      exact .notify r o
  | checkRemoved text hasBody =>
      cases h
      exact .checkRemoved text hasBody
  | frame r o =>
      change (o.run dbg overflowChecks x.rs r c).map _ = _ at h
      obtain ⟨⟨rs', more'⟩, hrun, hout⟩ := Option.map_eq_some_iff.mp h
      cases hout
      exact .frame r o (frameMove_of_run hrun)
  | upload r o =>
      change (o.run dbg x.rs r c).map _ = _ at h
      obtain ⟨⟨rs', more'⟩, hrun, hout⟩ := Option.map_eq_some_iff.mp h
      cases hout
      exact .upload r o (uploadMove_of_run hrun)
  | socket o =>
      change (o.run x.rs c).map _ = _ at h
      obtain ⟨⟨rs', more'⟩, hrun, hout⟩ := Option.map_eq_some_iff.mp h
      cases hout
      exact .socket o c hrun

theorem Move.recv {x y : Shared} {op : Op} {more : List Op} {ts : List Task}
    (h : Move dbg x op y more ts) : y.recv = x.recv := by
  cases h <;> rfl

/-- The operation lists of the receive pipe and of all tasks. -/
def lists (p : SocketPool) : List (List Op) := p.shared.recv :: p.tasks.map Task.ops

/-- The operation list that a label advances. -/
def Label.ops (p : SocketPool) : Label → List Op
  | .task i _ => (p.tasks[i]?.map Task.ops).getD []
  | .recv _ => p.shared.recv
  | _ => []

/-- One list takes its next operation; the lists in `others` stay as they are. -/
structure ListStep (dbg : DebugText) (p q : SocketPool) (op : Op) (rest more : List Op)
    (spawned others : List (List Op)) (y : Shared) : Prop where
  move : ∃ ts, Move dbg p.shared op y more ts ∧
    (spawned = ts.map Task.ops ∨ spawned = [] ∧ p.shared.recv = op :: rest)
  before : (lists p).Perm ((op :: rest) :: others)
  after : (lists q).Perm ((more ++ rest) :: (spawned ++ others))
  shared : q.shared = { y with recv := q.shared.recv }
  recv : q.shared.recv = p.shared.recv ∨
    p.shared.recv = op :: rest ∧ q.shared.recv = more ++ rest

/-- What a step of the machine can be. -/
inductive StepCases (dbg : DebugText) (p : SocketPool) : Label → SocketPool → Prop
  | list {a : Label} {q : SocketPool} {op : Op} {rest more : List Op}
      {spawned others : List (List Op)} {y : Shared} (hops : a.ops p = op :: rest)
      (h : ListStep dbg p q op rest more spawned others y) : StepCases dbg p a q
  | request (text : String) (hasBody : Bool) :
      StepCases dbg p (.request text hasBody)
        ⟨p.shared, p.tasks ++ [⟨.handler, [.checkRemoved text hasBody]⟩]⟩
  | receive (b : Bytes) (hidle : p.shared.recv = []) :
      StepCases dbg p (.receive b) ⟨p.shared.receive b, p.tasks⟩
  | close (frame : Option CloseFrame) (hidle : p.shared.recv = []) :
      StepCases dbg p (.close frame) ⟨{ p.shared with recv := closeOps frame }, p.tasks⟩
  | remove (r : ReqId) (hr : r ∈ p.shared.rs.removals) :
      StepCases dbg p (.remove r) ⟨{ p.shared with rs := p.shared.rs.removeReqCtx r }, p.tasks⟩
  | dropHandler (i : Nat) (l r : List Task) (t : Task) (hget : p.tasks[i]? = some t)
      (htasks : p.tasks = l ++ t :: r) (hawaits : t.ops.head?.any Op.awaits = true) :
      StepCases dbg p (.dropHandler i) ⟨p.shared.markGone t.req, l ++ r⟩
  | dropStream (r : ReqId) (hlive : p.shared.bodyStream r = .live) :
      StepCases dbg p (.dropStream r)
        ⟨(p.shared.markGone (some r)).setBodyStream r .gone, p.tasks⟩
  | fail (crex : CrankerRouterException) (hup : p.shared.tornDown = false) :
      StepCases dbg p (.fail crex) ⟨{ p.shared with tornDown := true },
        p.tasks ++ [⟨.teardown, teardownOps crex⟩]⟩
  | setRemoved :
      StepCases dbg p .setRemoved
        ⟨{ p.shared with rs := { p.shared.rs with isRemoved := true } }, p.tasks⟩
  | tick (now : Int) :
      StepCases dbg p (.tick now) ⟨{ p.shared with rs := { p.shared.rs with now := now } }, p.tasks⟩

theorem task_step_cases {p q : SocketPool} {i : Nat} {c : Choice}
    (h : step dbg overflowChecks p (.task i c) = some q) :
    ∃ l t r op rest y more ts, p.tasks[i]? = some t ∧ p.tasks = l ++ t :: r ∧ t.ops = op :: rest ∧
      execOp dbg overflowChecks p.shared op c = some (y, more, ts) ∧
      q = ⟨y, l ++ ({ t with ops := more ++ rest } :: ts) ++ r⟩ := by
  obtain ⟨l, t, r, s, ts, hget, htasks, hexec, rfl⟩ := Pool.step_cases h
  unfold execTask at hexec
  cases hops : t.ops with
  | nil => simp [hops] at hexec
  | cons op rest =>
      simp only [hops] at hexec
      obtain ⟨⟨y, more, spawned⟩, hrun, hout⟩ := Option.map_eq_some_iff.mp hexec
      cases hout
      exact ⟨l, t, r, op, rest, y, more, spawned, hget, htasks, hops, hrun, rfl⟩

theorem recv_step_cases {p q : SocketPool} {c : Choice}
    (h : step dbg overflowChecks p (.recv c) = some q) :
    ∃ op rest y more ts, p.shared.recv = op :: rest ∧
      execOp dbg overflowChecks p.shared op c = some (y, more, ts) ∧
      q = ⟨{ y with recv := more ++ rest }, p.tasks⟩ := by
  change (execRecv dbg overflowChecks p.shared c).map _ = _ at h
  obtain ⟨x, hexec, rfl⟩ := Option.map_eq_some_iff.mp h
  unfold execRecv at hexec
  cases hops : p.shared.recv with
  | nil => simp [hops] at hexec
  | cons op rest =>
      simp only [hops] at hexec
      obtain ⟨⟨y, more, spawned⟩, hrun, rfl⟩ := Option.map_eq_some_iff.mp hexec
      exact ⟨op, rest, y, more, spawned, rfl, hrun, rfl⟩

/-- A step of a task or of the receive pipe executes the head of its list. -/
theorem listStep_of_task {p q : SocketPool} {i : Nat} {c : Choice}
    (h : step dbg overflowChecks p (.task i c) = some q) :
    ∃ op rest y more ts spawned others, (Label.task i c).ops p = op :: rest ∧
      execOp dbg overflowChecks p.shared op c = some (y, more, ts) ∧
      ListStep dbg p q op rest more spawned others y := by
  obtain ⟨l, t, r, op, rest, y, more, spawned, hget, htasks, hops, hrun, rfl⟩ := task_step_cases h
  have hmove := move_of_execOp hrun
  have hstep : ListStep dbg p
      ⟨y, l ++ ({ t with ops := more ++ rest } :: spawned) ++ r⟩ op rest more
      (spawned.map Task.ops) (p.shared.recv :: (l.map Task.ops ++ r.map Task.ops)) y := by
    refine ⟨⟨spawned, hmove, .inl rfl⟩, ?_, ?_, rfl, .inl hmove.recv⟩
    · simp only [lists, htasks, List.map_append, List.map_cons, hops]
      exact (List.Perm.cons _ List.perm_middle).trans (List.Perm.swap _ _ _)
    · simp only [lists, hmove.recv, List.map_append, List.map_cons]
      grind -ring -linarith
  exact ⟨op, rest, y, more, spawned, _, _, by simp [Label.ops, hget, hops], hrun, hstep⟩

private theorem listStep_of_recv {p q : SocketPool} {c : Choice}
    (h : step dbg overflowChecks p (.recv c) = some q) :
    ∃ op rest y more ts spawned others, (Label.recv c).ops p = op :: rest ∧
      execOp dbg overflowChecks p.shared op c = some (y, more, ts) ∧
      ListStep dbg p q op rest more spawned others y := by
  obtain ⟨op, rest, y, more, spawned, hops, hrun, rfl⟩ := recv_step_cases h
  have hstep : ListStep dbg p ⟨{ y with recv := more ++ rest }, p.tasks⟩ op rest more []
      (p.tasks.map Task.ops) y := by
    refine ⟨⟨spawned, move_of_execOp hrun, .inr ⟨rfl, hops⟩⟩, ?_, ?_, rfl, .inr ⟨hops, rfl⟩⟩
    · simp only [lists, hops]
      exact List.Perm.refl _
    · exact List.Perm.refl _
  exact ⟨op, rest, y, more, spawned, [], _, hops, hrun, hstep⟩

theorem stepCases {p q : SocketPool} {a : Label} (h : step dbg overflowChecks p a = some q) :
    StepCases dbg p a q := by
  cases a with
  | task i c =>
      obtain ⟨op, rest, y, more, ts, spawned, others, hops, -, hstep⟩ := listStep_of_task h
      exact .list hops hstep
  | recv c =>
      obtain ⟨op, rest, y, more, ts, spawned, others, hops, -, hstep⟩ := listStep_of_recv h
      exact .list hops hstep
  | request text hasBody =>
      cases h
      exact .request text hasBody
  | receive b =>
      simp only [step] at h
      split at h <;> cases h
      rename_i hidle
      exact .receive b hidle
  | close frame =>
      simp only [step] at h
      split at h <;> cases h
      rename_i hidle
      exact .close frame hidle
  | remove r =>
      simp only [step] at h
      split at h <;> cases h
      rename_i hr
      exact .remove r hr
  | dropHandler i =>
      simp only [step] at h
      split at h
      · rename_i t hget
        split at h <;> cases h
        rename_i hdrop
        obtain ⟨hi, ht⟩ := List.getElem?_eq_some_iff.mp hget
        refine .dropHandler i _ _ t hget ?_ hdrop.2
        rw [← ht, List.cons_getElem_drop_succ, List.take_append_drop]
      · cases h
  | dropStream r =>
      simp only [step] at h
      split at h <;> cases h
      rename_i hlive
      exact .dropStream r hlive
  | fail crex =>
      simp only [step] at h
      split at h <;> cases h
      rename_i hup
      exact .fail crex (by simpa using hup)
  | setRemoved =>
      cases h
      exact .setRemoved
  | tick now =>
      cases h
      exact .tick now

/-- What the outside decides in a step of a task or of the receive pipe. -/
def Label.choice : Label → Choice
  | .task _ c | .recv c => c
  | _ => .go

/-- The operation that a label executes, with what it did. -/
theorem listStep_of_ops {p q : SocketPool} {a : Label} {op : Op} {rest : List Op}
    (h : step dbg overflowChecks p a = some q) (hops : a.ops p = op :: rest) :
    ∃ y more ts spawned others, execOp dbg overflowChecks p.shared op a.choice = some (y, more, ts) ∧
      ListStep dbg p q op rest more spawned others y := by
  cases a with
  | task i c =>
      obtain ⟨op', rest', y, more, ts, spawned, others, hops', hrun, hstep⟩ := listStep_of_task h
      cases hops.symm.trans hops'
      exact ⟨y, more, ts, spawned, others, hrun, hstep⟩
  | recv c =>
      obtain ⟨op', rest', y, more, ts, spawned, others, hops', hrun, hstep⟩ := listStep_of_recv h
      cases hops.symm.trans hops'
      exact ⟨y, more, ts, spawned, others, hrun, hstep⟩
  | _ => cases hops

end CrankerRouter.V3
