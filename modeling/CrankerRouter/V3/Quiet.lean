import CrankerRouter.V3.Effect

/-!
# One request among the others

What an operation does to a given request: most leave its stream alone, an operation works for one
request and is followed by operations for the same one, and a request id is used for one request.
-/

namespace CrankerRouter.V3

open Lib

variable {dbg : DebugText}

/-- A notify operation of the request with the given property. -/
def Op.isNotify (r : ReqId) (P : NotifyOp → Bool) : Op → Bool
  | .notify r' o => r' == r && P o
  | _ => false

@[simp] theorem Op.isNotify_notify (r : ReqId) (P : NotifyOp → Bool) (o : NotifyOp) :
    (Op.notify r o).isNotify r P = P o := by
  simp [Op.isNotify]

def Op.isRequest (r : ReqId) (P : RequestOp → Bool) : Op → Bool
  | .request r' o => r' == r && P o
  | _ => false

def Op.isFrame (r : ReqId) (P : FrameOp → Bool) : Op → Bool
  | .frame r' o => r' == r && P o
  | _ => false

def Op.isSocket : Op → Bool
  | .socket _ => true
  | _ => false

def NotifyOp.isSpawnRemove : NotifyOp → Bool
  | .spawnRemove => true
  | _ => false

def NotifyOp.isQueueRst : NotifyOp → Bool
  | .queueRst _ _ => true
  | _ => false

def NotifyOp.isStoreRstSent : NotifyOp → Bool
  | .storeRstSent => true
  | _ => false

def RequestOp.isInsertCtx : RequestOp → Bool
  | .insertCtx _ _ => true
  | _ => false

def RequestOp.isRecvHeader : RequestOp → Bool
  | .recvHeader => true
  | _ => false

def FrameOp.isStoreEndStream : FrameOp → Bool
  | .storeEndStream => true
  | _ => false

/-- The operations that change the stream of the request or its entry in the map. -/
def Op.isSpecial (r : ReqId) (op : Op) : Bool :=
  op.isNotify r (fun o => o.isSpawnRemove || o.isQueueRst || o.isStoreRstSent) ||
    op.isRequest r (fun o => o.isInsertCtx || o.isRecvHeader) || op.isFrame r (·.isStoreEndStream)

/-- Nothing is taken from the header channel, and what decides resets stays as it is. -/
structure QuietCtx (c c' : RequestContext) : Prop where
  flag : c'.isRstStreamSent = c.isRstStreamSent
  state : c'.state = c.state
  endStream : c'.isEndStreamReceivedFromTgt = c.isEndStreamReceivedFromTgt
  taken : c'.tgtResHdr.taken = c.tgtResHdr.taken
  sent : ∃ l, c'.tgtResHdr.sent = c.tgtResHdr.sent ++ l

theorem QuietCtx.refl (c : RequestContext) : QuietCtx c c := ⟨rfl, rfl, rfl, rfl, [], by simp⟩

private theorem KeepsStream.quietCtx {f : RequestContext → RequestContext} (hf : KeepsStream f)
    (c : RequestContext) : QuietCtx c (f c) := by
  obtain ⟨hflag, hstate, hhdr, -, hend⟩ := hf c
  exact ⟨hflag, hstate, hend, by rw [hhdr], [], by rw [hhdr, List.append_nil]⟩

private theorem Chan.exists_send {α : Type*} (c : Chan α) (a : α) : ∃ l,
    (c.send a).sent = c.sent ++ l := by
  unfold Chan.send
  split
  · exact ⟨[], by simp⟩
  · exact ⟨[a], rfl⟩

/-- The stream of the request is left alone. -/
structure Quiet (r : ReqId) (rs rs' : RouterSocketV3) : Prop where
  contextMap : r ∈ rs'.contextMap ↔ r ∈ rs.contextMap
  removals : rs'.removals.count r = rs.removals.count r
  closed : rs'.wssSendTask.closed = rs.wssSendTask.closed
  queued : rs'.queued messageTypeRstStream r = rs.queued messageTypeRstStream r
  ctx : QuietCtx (rs.contexts r) (rs'.contexts r)

namespace Quiet

variable {r r' : ReqId} {rs : RouterSocketV3}

theorem refl (r : ReqId) (rs : RouterSocketV3) : Quiet r rs rs :=
  ⟨Iff.rfl, rfl, rfl, rfl, .refl _⟩

theorem mem_removals {rs' : RouterSocketV3} (h : Quiet r rs rs') :
    r ∈ rs'.removals ↔ r ∈ rs.removals := by
  rw [← List.count_pos_iff, h.removals, List.count_pos_iff]

theorem modify {f : RequestContext → RequestContext}
    (hf : QuietCtx (rs.contexts r) (f (rs.contexts r))) : Quiet r rs (rs.modify r' f) := by
  refine ⟨Iff.rfl, rfl, rfl, rfl, ?_⟩
  by_cases hr : r = r'
  · subst hr
    rw [rs.modify_contexts_self]
    exact hf
  · rw [rs.modify_contexts_ne hr]
    exact .refl _

private theorem modify_ne {f : RequestContext → RequestContext} (hr : r ≠ r') :
    Quiet r rs (rs.modify r' f) := by
  refine ⟨Iff.rfl, rfl, rfl, rfl, ?_⟩
  rw [rs.modify_contexts_ne hr]
  exact .refl _

theorem sendData {m : Message} (hm : isFor messageTypeRstStream r m = false) :
    Quiet r rs (rs.sendData m) := by
  refine ⟨Iff.rfl, rfl, by simp, ?_, .refl _⟩
  unfold RouterSocketV3.queued
  rw [RouterSocketV3.sendData_wssSendTask]
  unfold Chan.send
  split
  · rfl
  · simp [List.countP_append, hm]

private theorem sendData_frame {type flags : UInt8} {payload : Bytes}
    (htype : type ≠ messageTypeRstStream) :
    Quiet r rs (rs.sendData (.binary (frame type flags r' payload))) :=
  sendData (by simp [htype])

theorem trySpawnRemoveReqCtx (hr : r ≠ r') : Quiet r rs (rs.trySpawnRemoveReqCtx r') := by
  refine ⟨Iff.rfl, ?_, rfl, rfl, .refl _⟩
  rw [RouterSocketV3.trySpawnRemoveReqCtx_removals, List.count_append, List.count_singleton]
  simp [hr.symm]

theorem raiseCompletionEvent : Quiet r rs (rs.raiseCompletionEvent r') := by
  unfold RouterSocketV3.raiseCompletionEvent
  split
  · have h : Quiet r rs (rs.modify r' fun ctx =>
        { ctx with durationMillis := rs.now - ctx.reqStartTime }) :=
      modify ⟨rfl, rfl, rfl, rfl, [], by simp⟩
    exact ⟨h.contextMap, h.removals, h.closed, h.queued, h.ctx⟩
  · exact refl r rs

theorem tryProvideGeneralError {crex : CrankerRouterException} :
    Quiet r rs (rs.tryProvideGeneralError crex) := by
  refine ⟨Iff.rfl, rfl, rfl, rfl, ?_⟩
  unfold RouterSocketV3.tryProvideGeneralError
  simp only
  split
  · exact ⟨rfl, rfl, rfl, rfl, [], by simp⟩
  · exact .refl _

theorem setError {crex : CrankerRouterException} : Quiet r rs (rs.setError r' crex) :=
  modify ⟨rfl, rfl, rfl, rfl, [], by simp⟩

theorem closeHdr : Quiet r rs (rs.closeHdr r') :=
  modify ⟨rfl, rfl, rfl, rfl, [], by simp⟩

theorem closeBdy : Quiet r rs (rs.closeBdy r') :=
  modify ⟨rfl, rfl, rfl, rfl, [], by simp⟩

theorem storeRstStreamSent (hr : r ≠ r') : Quiet r rs (rs.storeRstStreamSent r') := modify_ne hr

theorem takeHdr (hr : r ≠ r') : Quiet r rs (rs.takeHdr r') := modify_ne hr

theorem sendHdr {item : Except CrankerRouterException String} : Quiet r rs (rs.sendHdr r' item) :=
  modify ⟨rfl, rfl, rfl, by simp, Chan.exists_send _ item⟩

theorem sendBdy {item : Except CrankerRouterException Bytes} : Quiet r rs (rs.sendBdy r' item) :=
  modify ⟨rfl, rfl, rfl, rfl, [], by simp⟩

end Quiet

variable {r : ReqId} {rs rs' : RouterSocketV3} {x y : Shared} {op o : Op} {more : List Op}
  {ts : List Task}

theorem NotifyOp.quiet {r r' : ReqId} (rs : RouterSocketV3) (o : NotifyOp)
    (h : (Op.notify r' o).isSpecial r = false) : Quiet r rs (o.run rs r').1 := by
  cases o with
  | notifyError crex => exact .setError
  | sendHdrErr ex => exact .sendHdr
  | sendBdyErr ex => exact .sendBdy
  | raiseCompletion => exact .raiseCompletionEvent
  | spawnRemove =>
      have hr : r ≠ r' := by
        rintro rfl
        simp [Op.isSpecial, Op.isNotify, NotifyOp.isSpawnRemove] at h
      exact .trySpawnRemoveReqCtx hr
  | queueRst errCode msg =>
      have hr : r' ≠ r := by
        rintro rfl
        simp [Op.isSpecial, Op.isNotify, NotifyOp.isQueueRst] at h
      exact .sendData (by simp [rstMessage, hr])
  | storeRstSent =>
      have hr : r ≠ r' := by
        rintro rfl
        simp [Op.isSpecial, Op.isNotify, NotifyOp.isStoreRstSent] at h
      exact .storeRstStreamSent hr
  | closeHdr => exact .closeHdr
  | closeBdy => exact .closeBdy
  | _ => exact .refl r rs

theorem FrameMove.quiet {r r' : ReqId} {o : FrameOp} (hmove : FrameMove dbg rs r' o rs' more)
    (h : (Op.frame r' o).isSpecial r = false) :
    Quiet r rs rs' := by
  cases hmove with
  | windowUpdate bin ack => exact .modify ((keepsStream_acked ack).quietCtx _)
  | storeEndStream =>
      have hr : r ≠ r' := by
        rintro rfl
        simp [Op.isSpecial, Op.isFrame, Op.isNotify, Op.isRequest, FrameOp.isStoreEndStream] at h
      exact .modify_ne hr
  | countBinary => exact .modify ⟨rfl, rfl, rfl, rfl, [], by simp⟩
  | addToClient len => exact .modify ⟨rfl, rfl, rfl, rfl, [], by simp⟩
  | bodySent isEnd bin hopen => exact .sendBdy
  | credit o len ho => exact .sendData_frame (by decide)
  | generalError crex => exact .tryProvideGeneralError
  | appended flags bin content => exact .modify ⟨rfl, rfl, rfl, rfl, [], by simp⟩
  | headerSent isEnd len => exact .sendHdr
  | _ => exact .refl r rs

theorem UploadMove.quiet {r r' : ReqId} {o : UploadOp} (hmove : UploadMove rs r' o rs' more) :
    Quiet r rs rs' := by
  cases hmove with
  | keeps o f hf us hus ho => exact .modify (hf.quietCtx _)
  | queues o type flags payload htype us hus ho => exact .sendData_frame htype
  | fails crex hend => exact .refl r rs

theorem Move.quiet (hmove : Move dbg x op y more ts) (hsocket : op.isSocket = false)
    (h : op.isSpecial r = false) : Quiet r x.rs y.rs := by
  cases hmove with
  | notify r' o => exact NotifyOp.quiet x.rs o h
  | frame r' o hframe => exact hframe.quiet h
  | upload r' o hupload => exact hupload.quiet
  | socket o c hrun => cases hsocket
  | nextReqId text hasBody hnew => exact ⟨Iff.rfl, rfl, rfl, rfl, .refl _⟩
  | insertCtx r' text hasBody =>
      have hr : r ≠ r' := by
        rintro rfl
        simp [Op.isSpecial, Op.isNotify, Op.isRequest, RequestOp.isInsertCtx] at h
      refine ⟨by simp [RouterSocketV3.insertCtx, hr], rfl, rfl, rfl, ?_⟩
      simp only [RouterSocketV3.insertCtx, Function.update_of_ne hr]
      exact .refl _
  | headerTaken r' content hnext =>
      have hr : r ≠ r' := by
        rintro rfl
        simp [Op.isSpecial, Op.isNotify, Op.isRequest, RequestOp.isRecvHeader] at h
      exact .takeHdr hr
  | errorTaken r' crex hnext =>
      have hr : r ≠ r' := by
        rintro rfl
        simp [Op.isSpecial, Op.isNotify, Op.isRequest, RequestOp.isRecvHeader] at h
      exact .takeHdr hr
  | ctxFound r' hr => exact .setError
  | _ => exact .refl r x.rs

/-- What a special operation does. -/
inductive Special (r : ReqId) (x : Shared) : Op → Shared → Prop
  | spawnRemove : Special r x (.notify r .spawnRemove) { x with rs := x.rs.trySpawnRemoveReqCtx r }
  | queueRst (errCode : BitVec 32) (msg : String) :
      Special r x (.notify r (.queueRst errCode msg))
        { x with rs := x.rs.sendData (.binary (rstMessage r errCode msg)) }
  | storeRstSent : Special r x (.notify r .storeRstSent) { x with rs := x.rs.storeRstStreamSent r }
  | insertCtx (text : String) (hasBody : Bool) :
      Special r x (.request r (.insertCtx text hasBody)) { x with rs := x.rs.insertCtx r }
  | headerTaken (item : Except CrankerRouterException String)
      (hnext : (x.rs.contexts r).tgtResHdr.next? = some item) :
      Special r x (.request r .recvHeader) { x with rs := x.rs.takeHdr r }
  | headerClosed : Special r x (.request r .recvHeader) x
  | storeEndStream :
      Special r x (.frame r .storeEndStream) { x with rs := x.rs.storeEndStreamReceived r }

private theorem Move.special (hmove : Move dbg x op y more ts) (h : op.isSpecial r = true) :
    Special r x op y := by
  cases hmove with
  | notify r' o =>
      obtain ⟨rfl, ho⟩ : r' = r ∧ _ := by
        simpa [Op.isSpecial, Op.isNotify, Op.isRequest, Op.isFrame] using h
      cases o <;> simp [NotifyOp.isSpawnRemove, NotifyOp.isQueueRst, NotifyOp.isStoreRstSent] at ho
      · exact .spawnRemove
      · exact .queueRst _ _
      · exact .storeRstSent
  | frame r' o hframe =>
      obtain ⟨rfl, ho⟩ : r' = r ∧ _ := by
        simpa [Op.isSpecial, Op.isNotify, Op.isRequest, Op.isFrame] using h
      cases hframe <;> simp_all [FrameOp.isStoreEndStream, FrameOp.fallible]
      · grind -ring -linarith
      · exact .storeEndStream
      · grind -ring -linarith
  | insertCtx r' text hasBody =>
      obtain rfl : r' = r := by
        simpa [Op.isSpecial, Op.isNotify, Op.isRequest, Op.isFrame, RequestOp.isInsertCtx] using h
      exact .insertCtx text hasBody
  | headerTaken r' content hnext =>
      obtain rfl : r' = r := by
        simpa [Op.isSpecial, Op.isNotify, Op.isRequest, Op.isFrame, RequestOp.isRecvHeader,
          RequestOp.isInsertCtx] using h
      exact .headerTaken _ hnext
  | errorTaken r' crex hnext =>
      obtain rfl : r' = r := by
        simpa [Op.isSpecial, Op.isNotify, Op.isRequest, Op.isFrame, RequestOp.isRecvHeader,
          RequestOp.isInsertCtx] using h
      exact .headerTaken _ hnext
  | requestFails r' o crex ho =>
      obtain ⟨rfl, hspecial⟩ : r' = r ∧ (o.isInsertCtx = true ∨ o.isRecvHeader = true) := by
        simpa [Op.isSpecial, Op.isNotify, Op.isRequest, Op.isFrame] using h
      obtain ⟨text, hasBody, rfl⟩ | ⟨text, rfl⟩ | ⟨rfl, -, -⟩ := ho
      · cases hspecial <;> contradiction
      · cases hspecial <;> contradiction
      · exact .headerClosed
  | _ => simp [Op.isSpecial, Op.isNotify, Op.isRequest, Op.isFrame, RequestOp.isRecvHeader,
      RequestOp.isInsertCtx] at h

/-- An operation leaves the stream of a request alone, or it is one of a few. -/
theorem Move.quiet_or_special (r : ReqId) (hmove : Move dbg x op y more ts)
    (hsocket : op.isSocket = false) :
    op.isSpecial r = false ∧ Quiet r x.rs y.rs ∨ Special r x op y := by
  cases h : op.isSpecial r with
  | false => exact .inl ⟨rfl, hmove.quiet hsocket h⟩
  | true => exact .inr (hmove.special h)

theorem Move.closed_eq (hmove : Move dbg x op y more ts) (hsocket : op.isSocket = false) :
    y.rs.wssSendTask.closed = x.rs.wssSendTask.closed := by
  obtain ⟨-, hquiet⟩ | hspecial := hmove.quiet_or_special 0 hsocket
  · exact hquiet.closed
  · cases hspecial <;> simp [RouterSocketV3.storeRstStreamSent, RouterSocketV3.insertCtx,
      RouterSocketV3.takeHdr, RouterSocketV3.storeEndStreamReceived]

/-- No operation writes the state of a stream. -/
theorem Move.state_opened (hmove : Move dbg x op y more ts) (hsocket : op.isSocket = false)
    (h : (x.rs.contexts r).state = .opened) : (y.rs.contexts r).state = .opened := by
  obtain ⟨-, hquiet⟩ | hspecial := hmove.quiet_or_special r hsocket
  · exact hquiet.ctx.state.trans h
  · cases hspecial <;> simp [RouterSocketV3.storeRstStreamSent, RouterSocketV3.insertCtx,
      RouterSocketV3.takeHdr, RouterSocketV3.storeEndStreamReceived, RequestContext.new, h]

/-- An entry appears only by its insertion, and no operation takes one out. -/
theorem Move.mem_contextMap_iff (hmove : Move dbg x op y more ts) (hsocket : op.isSocket = false) :
    r ∈ y.rs.contextMap ↔ r ∈ x.rs.contextMap ∨ op.isRequest r (·.isInsertCtx) = true := by
  obtain ⟨hop, hquiet⟩ | hspecial := hmove.quiet_or_special r hsocket
  · have hinsert : op.isRequest r (·.isInsertCtx) = false := by
      cases op <;> simp_all [Op.isSpecial, Op.isRequest]
    rw [hquiet.contextMap, hinsert]
    simp
  · cases hspecial <;> simp [RouterSocketV3.storeRstStreamSent, RouterSocketV3.insertCtx,
      RouterSocketV3.takeHdr, RouterSocketV3.storeEndStreamReceived, Op.isRequest,
      RequestOp.isInsertCtx]

/-- A removal is spawned only as such. -/
theorem Move.mem_removals_iff (hmove : Move dbg x op y more ts) (hsocket : op.isSocket = false) :
    r ∈ y.rs.removals ↔ r ∈ x.rs.removals ∨ op = .notify r .spawnRemove := by
  obtain ⟨hop, hquiet⟩ | hspecial := hmove.quiet_or_special r hsocket
  · have hne : op ≠ .notify r .spawnRemove := by
      rintro rfl
      simp [Op.isSpecial, Op.isNotify, NotifyOp.isSpawnRemove] at hop
    rw [hquiet.mem_removals]
    simp [hne]
  · cases hspecial <;> simp [RouterSocketV3.storeRstStreamSent, RouterSocketV3.insertCtx,
      RouterSocketV3.takeHdr, RouterSocketV3.storeEndStreamReceived]

/-- The handler takes only what was sent. -/
theorem Move.hdr_taken_le (hmove : Move dbg x op y more ts) (hsocket : op.isSocket = false)
    (h : (x.rs.contexts r).tgtResHdr.taken ≤ (x.rs.contexts r).tgtResHdr.sent.length) :
    (y.rs.contexts r).tgtResHdr.taken ≤ (y.rs.contexts r).tgtResHdr.sent.length := by
  obtain ⟨-, hquiet⟩ | hspecial := hmove.quiet_or_special r hsocket
  · obtain ⟨l, hsent⟩ := hquiet.ctx.sent
    rw [hquiet.ctx.taken, hsent, List.length_append]
    omega
  · cases hspecial with
    | headerTaken item hnext =>
        have hlt := (List.getElem?_eq_some_iff.mp hnext).1
        simpa [RouterSocketV3.takeHdr, Chan.take] using hlt
    | _ => simp [RouterSocketV3.storeRstStreamSent, RouterSocketV3.insertCtx,
        RouterSocketV3.storeEndStreamReceived, RequestContext.new, Chan.new, h]

/-! ### What follows an operation -/

theorem NotifyOp.mem_run {o : NotifyOp} (h : op ∈ (o.run rs r).2) : ∃ o', op = .notify r o' := by
  cases o <;> simp only [NotifyOp.run] at h <;> grind -ring -linarith [errOps]

theorem FrameMove.mem_more {o : FrameOp} (hmove : FrameMove dbg rs r o rs' more) (h : op ∈ more) :
    (∃ o', op = .notify r o') ∨ ∃ o', op = .frame r o' := by
  cases hmove <;> grind -ring -linarith [failFrame, closeOpsIf]

theorem UploadMove.mem_more {o : UploadOp} (hmove : UploadMove rs r o rs' more) (h : op ∈ more) :
    (∃ crex, op = .notify r (.notifyError crex)) ∨ ∃ o', op = .upload r o' := by
  cases hmove <;> grind -ring -linarith

/-- An operation is followed by operations for the same request; a new id is the exception. -/
theorem Move.req_cases (hmove : Move dbg x op y more ts) (hsocket : op.isSocket = false)
    (ho : o ∈ more ∨ ∃ t ∈ ts, o ∈ t.ops) :
    o.req = op.req ∨ ∃ text hasBody, op = .nextReqId text hasBody ∧
      o = .request (x.rs.reqIdGenerator + 1) (.insertCtx text hasBody) := by
  cases hmove with
  | notify r' o' =>
      obtain ⟨o'', rfl⟩ := NotifyOp.mem_run (by simpa using ho)
      exact .inl rfl
  | frame r' o' hframe =>
      obtain ⟨o'', rfl⟩ | ⟨o'', rfl⟩ := hframe.mem_more (by simpa using ho) <;> exact .inl rfl
  | upload r' o' hupload =>
      obtain ⟨o'', rfl⟩ | ⟨o'', rfl⟩ := hupload.mem_more (by simpa using ho) <;> exact .inl rfl
  | socket o' c hrun => cases hsocket
  | _ => grind -ring -linarith [Op.req, failRequest]

theorem Move.isSocket_of_mem (hmove : Move dbg x op y more ts) (hsocket : op.isSocket = false)
    (ho : o ∈ more) :
    o.isSocket = false := by
  cases hmove with
  | notify r' o' =>
      obtain ⟨o'', rfl⟩ := NotifyOp.mem_run ho
      rfl
  | frame r' o' hframe =>
      obtain ⟨o'', rfl⟩ | ⟨o'', rfl⟩ := hframe.mem_more ho <;> rfl
  | upload r' o' hupload =>
      obtain ⟨o'', rfl⟩ | ⟨o'', rfl⟩ := hupload.mem_more ho <;> rfl
  | socket o' c hrun => cases hsocket
  | _ => grind -ring -linarith [Op.isSocket, failRequest]

/-- The operations after which a list goes on. -/
def Op.simple : Op → Bool
  | .notify _ _ | .frame _ _ => true
  | .upload _ o => o.simple
  | _ => false

theorem Move.simple_of_mem (hmove : Move dbg x op y more ts) (hop : op.simple = true)
    (ho : o ∈ more) :
    o.simple = true := by
  cases hmove with
  | notify r' o' =>
      obtain ⟨o'', rfl⟩ := NotifyOp.mem_run ho
      rfl
  | frame r' o' hframe =>
      obtain ⟨o'', rfl⟩ | ⟨o'', rfl⟩ := hframe.mem_more ho <;> rfl
  | upload r' o' hupload =>
      obtain ⟨o'', rfl⟩ | ⟨o'', rfl⟩ := hupload.mem_more ho
      · rfl
      · cases hupload <;> grind -ring -linarith [Op.simple]
  | _ => cases hop

theorem Move.spawns_nothing (hmove : Move dbg x op y more ts) (hop : op.simple = true) :
    ts = [] := by
  cases hmove <;> first | rfl | cases hop

theorem Move.simple_of_mem_dropLast (hmove : Move dbg x op y more ts)
    (hsocket : op.isSocket = false) (ho : o ∈ more.dropLast) :
    o.simple = true := by
  by_cases hop : op.simple = true
  · exact hmove.simple_of_mem hop (List.mem_of_mem_dropLast ho)
  · cases hmove with
    | notify r' o' => simp [Op.simple] at hop
    | frame r' o' hframe => simp [Op.simple] at hop
    | socket o' c hrun => cases hsocket
    | upload r' o' hupload => cases hupload <;> grind -ring -linarith [Op.simple]
    | _ => grind -ring -linarith [failRequest, Op.simple]

/-- A spawned task starts with one operation of the sender or of the watcher. -/
theorem Move.spawned_ops {t : Task} (hmove : Move dbg x op y more ts) (ht : t ∈ ts) :
    (∃ r text hasBody, t.ops = [.upload r (.storeCanSend text hasBody)]) ∨
      ∃ r, t.ops = [.request r .awaitStreamEnd] := by
  cases hmove <;> grind -ring -linarith

/-- The parts of a reset that are still to queue its frame. -/
def NotifyOp.isReset : NotifyOp → Bool
  | .resetStream _ _ | .queueRst _ _ => true
  | _ => false

/-- The steps of a failure before the handler hears of it. -/
def NotifyOp.isFail : NotifyOp → Bool
  | .notifyError _ | .decideError _ | .sendHdrErr _ => true
  | _ => false

def NotifyOp.isRemove : NotifyOp → Bool
  | .spawnRemove | .notifyClose _ _ | .checkClosed _ _ => true
  | _ => false

/-- The frame operations of a stream that the connector ends. -/
def FrameOp.isEnd : FrameOp → Bool
  | .handleData flags _ | .handleHeader flags _ | .appendHeader flags _ =>
      judgeIsStreamEndFromFlags flags
  | .sendBody isEnd _ | .sendHeader isEnd _ => isEnd
  | .handleRstStream _ | .storeEndStream => true
  | _ => false

/-- The operations that lead to the removal of the context. -/
def Op.isHot (r : ReqId) (op : Op) : Bool :=
  op.isNotify r (fun o => o.isFail || o.isRemove) || op.isFrame r (·.isEnd)

private theorem FrameMove.isHot_of_mem {o : FrameOp} (hmove : FrameMove dbg rs r o rs' more)
    (hend : o.isEnd = false) :
    (∀ op ∈ more, op.isHot r = false) ∨ ∃ op ∈ more, op.isNotify r (·.isReset) = true := by
  cases hmove with
  | fails o crex ho =>
      exact .inr ⟨.notify r (.resetStream 1001 "Going away"), by simp [failFrame], by
        simp [Op.isNotify, NotifyOp.isReset]⟩
  | _ => grind -ring -linarith [Op.isHot, Op.isNotify, Op.isFrame, FrameOp.isEnd, closeOpsIf]

theorem exists_isReset_failRequest (r : ReqId) (crex : CrankerRouterException) :
    ∃ op ∈ failRequest r crex, op.isNotify r (·.isReset) = true := by
  refine ⟨.notify r (resetAfter crex), by simp [failRequest], ?_⟩
  unfold resetAfter
  split <;> simp [Op.isNotify, NotifyOp.isReset]

/-- A list that neither resets nor removes goes on like that, unless it starts to fail. -/
theorem Move.isHot_cases (hmove : Move dbg x op y more ts) (hsocket : op.isSocket = false)
    (hhot : op.isHot r = false) (hreset : op.isNotify r (·.isReset) = false) :
    (∀ o ∈ more, o.isHot r = false) ∨ (∃ o ∈ more, o.isNotify r (·.isReset) = true) ∨
      ∃ crex, more = [.notify r (.notifyError crex)] := by
  by_cases hr : op.req = some r
  · cases hmove with
    | notify r' o =>
        obtain rfl : r' = r := by simpa [Op.req] using hr
        left
        cases o <;> simp_all [Op.isHot, Op.isNotify, NotifyOp.isFail, NotifyOp.isRemove,
          NotifyOp.isReset, NotifyOp.run]
    | frame r' o hframe =>
        obtain rfl : r' = r := by simpa [Op.req] using hr
        have hend : o.isEnd = false := by simpa [Op.isHot, Op.isNotify, Op.isFrame] using hhot
        exact (hframe.isHot_of_mem hend).imp_right .inl
    | upload r' o hupload =>
        obtain rfl : r' = r := by simpa [Op.req] using hr
        cases hupload <;> grind -ring -linarith [Op.isHot, Op.isNotify, Op.isFrame]
    | socket o c hrun => cases hsocket
    | requestFails r' o crex ho =>
        obtain rfl : r' = r := by simpa [Op.req] using hr
        exact .inr (.inl (exists_isReset_failRequest r' crex))
    | errorTaken r' crex hnext =>
        obtain rfl : r' = r := by simpa [Op.req] using hr
        exact .inr (.inl (exists_isReset_failRequest r' crex))
    | buildFails r' crex =>
        obtain rfl : r' = r := by simpa [Op.req] using hr
        exact .inr (.inl (exists_isReset_failRequest r' crex))
    | _ => grind -ring -linarith [Op.isHot, Op.isNotify, Op.isFrame, NotifyOp.isFail, NotifyOp.isRemove]
  · left
    intro o ho
    have hne : o.req ≠ some r ∨ ∃ r' text hasBody, o = .request r' (.insertCtx text hasBody) := by
      obtain h | ⟨text, hasBody, -, h⟩ := hmove.req_cases hsocket (.inl ho)
      · exact .inl (h ▸ hr)
      · exact .inr ⟨_, text, hasBody, h⟩
    cases o <;> grind -ring -linarith [Op.isHot, Op.isNotify, Op.isFrame, Op.req]

/-- A context is inserted for a new id only. -/
theorem Move.not_insertCtx_of_mem (hmove : Move dbg x op y more ts) (hreq : op.req = some r)
    (ho : o ∈ more) :
    o.isRequest r (·.isInsertCtx) = false := by
  cases hmove with
  | notify r' o' =>
      obtain ⟨o'', rfl⟩ := NotifyOp.mem_run ho
      rfl
  | frame r' o' hframe =>
      obtain ⟨o'', rfl⟩ | ⟨o'', rfl⟩ := hframe.mem_more ho <;> rfl
  | upload r' o' hupload =>
      obtain ⟨o'', rfl⟩ | ⟨o'', rfl⟩ := hupload.mem_more ho <;> rfl
  | nextReqId text hasBody hnew => cases hreq
  | socket o' c hrun => cases hreq
  | _ => grind -ring -linarith [Op.isRequest, RequestOp.isInsertCtx, failRequest]

/-- The two parts of a reset come from `resetStream`. -/
theorem Move.window_of_mem (hmove : Move dbg x op y more ts) (hsocket : op.isSocket = false)
    (hop : ∀ errCode msg, op ≠ .notify r (.resetStream errCode msg)) (ho : o ∈ more) :
    o.isNotify r (fun o => o.isQueueRst || o.isStoreRstSent) = false := by
  cases hmove with
  | notify r' o' =>
      cases o' <;> simp only [NotifyOp.run] at ho <;>
        grind -ring -linarith [errOps, Op.isNotify, NotifyOp.isQueueRst, NotifyOp.isStoreRstSent]
  | frame r' o' hframe =>
      cases hframe <;> grind -ring -linarith [failFrame, closeOpsIf, Op.isNotify, NotifyOp.isQueueRst,
        NotifyOp.isStoreRstSent]
  | upload r' o' hupload =>
      cases hupload <;> grind -ring -linarith [Op.isNotify, NotifyOp.isQueueRst, NotifyOp.isStoreRstSent]
  | socket o' c hrun => cases hsocket
  | _ => grind -ring -linarith [Op.isNotify, failRequest, resetAfter, NotifyOp.isQueueRst, NotifyOp.isStoreRstSent]

end CrankerRouter.V3
