import CrankerRouter.V3.Lifetime

/-!
# Bytes and frames of a response

`bytes_sent` and `response_body_frames` are added up by the receive pipe, around the send of a
chunk to the body channel.  A chunk that ends its stream is reported as complete before its bytes
are added; the totals are right whenever the stream ends on a frame without a chunk.
-/

namespace CrankerRouter.V3

open Lib

variable {dbg : DebugText} {overflowChecks : Bool} {p q : SocketPool} {r : ReqId}

/-- `ProxyInfo::bytes_sent`. -/
def RequestContext.bytesSent (ctx : RequestContext) : Int := ctx.toClientBytes.toInt

/-- `ProxyInfo::response_body_frames`. -/
def RequestContext.responseBodyFrames (ctx : RequestContext) : Int := ctx.wssOnBinaryCallCount.toInt

/-- The chunks that were put on the body channel. -/
def RequestContext.bodyChunks (ctx : RequestContext) : List Bytes := ctx.tgtResBdy.oks

def RequestContext.bodyLength (ctx : RequestContext) : Nat := (ctx.bodyChunks.map List.length).sum

/-! ### What changes the counters -/

def RequestContext.counters (ctx : RequestContext) : BitVec 64 × BitVec 64 :=
  (ctx.toClientBytes, ctx.wssOnBinaryCallCount)

/-- The operations that write a counter. -/
def Op.counts : Op → Bool
  | .frame _ .countBinary | .frame _ (.addToClient _) | .request _ (.insertCtx _ _) => true
  | _ => false

private theorem counters_modify {rs : RouterSocketV3} {r' : ReqId}
    {f : RequestContext → RequestContext}
    (hf : ∀ ctx, (f ctx).counters = ctx.counters) :
    ((rs.modify r' f).contexts r).counters = (rs.contexts r).counters := by
  by_cases hr : r = r'
  · subst hr
    rw [rs.modify_contexts_self, hf]
  · rw [rs.modify_contexts_ne hr]

private theorem counters_writeItMaybe (ctx : RequestContext) :
    ctx.writeItMaybe.counters = ctx.counters := by
  unfold RequestContext.writeItMaybe
  split <;> rfl

private theorem counters_acked (ack : BitVec 32) (ctx : RequestContext) :
    (ctx.acked ack).counters = ctx.counters := by
  simp only [RequestContext.acked]
  split
  · exact counters_writeItMaybe _
  · rfl

private theorem counters_generalError (rs : RouterSocketV3) (crex : CrankerRouterException) :
    ((rs.tryProvideGeneralError crex).contexts r).counters = (rs.contexts r).counters := by
  unfold RouterSocketV3.tryProvideGeneralError
  simp only
  split <;> rfl

private theorem NotifyOp.counters (rs : RouterSocketV3) (r' : ReqId) (o : NotifyOp) :
    ((o.run rs r').1.contexts r).counters = (rs.contexts r).counters := by
  cases o with
  | raiseCompletion =>
      by_cases hr : r' ∈ rs.contextMap
      · simp only [NotifyOp.run, RouterSocketV3.raiseCompletionEvent, if_pos hr,
          RouterSocketV3.callOnComplete]
        exact counters_modify fun _ => rfl
      · simp only [NotifyOp.run, RouterSocketV3.raiseCompletionEvent, if_neg hr]
  | notifyError | sendHdrErr | sendBdyErr | storeRstSent | closeHdr | closeBdy =>
      simp only [NotifyOp.run, RouterSocketV3.setError, RouterSocketV3.sendHdr,
        RouterSocketV3.sendBdy, RouterSocketV3.storeRstStreamSent, RouterSocketV3.closeHdr,
        RouterSocketV3.closeBdy]
      exact counters_modify fun _ => rfl
  | _ => rfl

private theorem FrameMove.counters {rs rs' : RouterSocketV3} {r' : ReqId} {o : FrameOp}
    {more : List Op}
    (h : FrameMove dbg rs r' o rs' more) (ho : (Op.frame r' o).counts = false) :
    (rs'.contexts r).counters = (rs.contexts r).counters := by
  cases h with
  | countBinary => cases ho
  | addToClient len => cases ho
  | windowUpdate bin ack => exact counters_modify (counters_acked ack)
  | generalError crex => exact counters_generalError rs crex
  | storeEndStream => exact counters_modify fun _ => rfl
  | bodySent isEnd bin hopen => exact counters_modify fun _ => rfl
  | appended flags bin content => exact counters_modify fun _ => rfl
  | headerSent isEnd len => exact counters_modify fun _ => rfl
  | _ => rfl

theorem uploadFrame_contexts {rs rs' : RouterSocketV3} {f : Bytes} {next more : List Op}
    {r' : ReqId} (h : uploadFrame dbg rs r' f next = (rs', more)) : rs'.contexts = rs.contexts := by
  unfold uploadFrame at h
  split at h <;> cases h <;> rfl

private theorem UploadOp.counters {rs rs' : RouterSocketV3} {r' : ReqId} {o : UploadOp} {c : Choice}
    {more : List Op} (h : o.run dbg rs r' c = some (rs', more)) :
    (rs'.contexts r).counters = (rs.contexts r).counters := by
  cases o with
  | storeCanSend text hasBody =>
      cases h
      exact counters_modify fun _ => rfl
  | incPending len =>
      cases h
      exact counters_modify fun _ => rfl
  | addFromClient len =>
      cases h
      exact counters_modify fun _ => rfl
  | pushCallback =>
      cases h
      exact counters_modify fun _ => rfl
  | writeItMaybe =>
      cases h
      exact counters_modify counters_writeItMaybe
  | queueHeader isHeaderEnd part parts hasBody => rw [uploadFrame_contexts (Option.some.inj h)]
  | queueChunk chunk => rw [uploadFrame_contexts (Option.some.inj h)]
  | queueEnd => rw [uploadFrame_contexts (Option.some.inj h)]
  | uploadHeader parts hasBody =>
      cases parts with
      | nil => cases h; rfl
      | cons part parts => cases h; rfl
  | awaitNotify callback =>
      simp only [UploadOp.run] at h
      split at h <;> cases h
      rfl
  | flowControl => cases h; rfl
  | senderError crex => cases h; rfl
  | nextChunk => cases c <;> cases h <;> rfl
  | beforeChunk chunk =>
      cases c <;> try cases h
      rename_i a
      cases a <;> cases h <;> rfl
  | chunkListeners =>
      cases c <;> try cases h
      rename_i a
      cases a <;> cases h <;> rfl
  | afterSent =>
      cases c <;> try cases h
      rename_i a
      cases a <;> cases h <;> rfl

private theorem execOp_counters {x y : Shared} {op : Op} {c : Choice} {more : List Op}
    {ts : List Task}
    (h : execOp dbg overflowChecks x op c = some (y, more, ts)) (hop : op.counts = false) :
    (y.rs.contexts r).counters = (x.rs.contexts r).counters := by
  cases move_of_execOp h with
  | notify r' o => exact NotifyOp.counters x.rs r' o
  | frame r' o hframe => exact hframe.counters hop
  | upload r' o hupload =>
      change (o.run dbg x.rs r' c).map _ = _ at h
      obtain ⟨⟨rs', more'⟩, hrun, hout⟩ := Option.map_eq_some_iff.mp h
      cases hout
      exact UploadOp.counters hrun
  | socket o c hrun =>
      cases socketMove_of_run hrun with
      | generalError crex rs' hrs =>
          obtain rfl | rfl := hrs
          · rfl
          · exact counters_generalError x.rs crex
      | _ => rfl
  | insertCtx r' text hasBody => cases hop
  | headerTaken | errorTaken | ctxFound =>
      simp only [RouterSocketV3.takeHdr, RouterSocketV3.setError]
      exact counters_modify fun _ => rfl
  | _ => rfl

/-! ### The receive pipe -/

def NotifyOp.closes : NotifyOp → Bool
  | .notifyClose _ _ | .checkClosed _ _ | .closeHdr | .closeBdy => true
  | _ => false

def SocketOp.closes : SocketOp → Bool
  | .storeRemoved | .visitToClose _ _ | .closeEach _ _ _ _ => true
  | _ => false

/-- The operations that only the receive pipe runs. -/
def Op.receives : Op → Bool
  | .frame _ _ => true
  | .notify _ o => o.closes
  | .socket o => o.closes
  | _ => false

/-- Only the receive pipe handles frames and closes channels. -/
def Apart (p : SocketPool) : Prop := ∀ t ∈ p.tasks, ∀ o ∈ t.ops, o.receives = false

private theorem NotifyOp.closes_of_mem {rs : RouterSocketV3} {r' : ReqId} {o : NotifyOp} {o' : Op}
    (ho : o.closes = false) (h : o' ∈ (o.run rs r').2) : o'.receives = false := by
  cases o with
  | notifyClose | checkClosed | closeHdr | closeBdy => cases ho
  | notifyError crex =>
      simp only [NotifyOp.run, List.mem_cons, List.not_mem_nil, or_false] at h
      obtain rfl | rfl | rfl := h <;> rfl
  | decideError crex =>
      simp only [NotifyOp.run, errOps, List.mem_cons, List.not_mem_nil, or_false] at h
      obtain rfl | rfl := h <;> rfl
  | resetStream errCode msg =>
      simp only [NotifyOp.run] at h
      split at h
      · simp only [List.mem_cons, List.not_mem_nil, or_false] at h
        obtain rfl | rfl | rfl := h <;> rfl
      · rw [List.mem_singleton.mp h]
        rfl
  | _ => cases h

private theorem SocketMove.closes_of_mem {rs rs' : RouterSocketV3} {o : SocketOp}
    {more : List Op} {o' : Op}
    (hmove : SocketMove rs o rs' more) (ho : o.closes = false) (h : o' ∈ more) :
    o'.receives = false := by
  cases hmove with
  | storeRemoved | visitToClose | closeVisit | closeStop => cases ho
  | visitToTerminate crex =>
      rw [List.mem_singleton.mp h]
      rfl
  | collectVisit crex todo visited r' hr =>
      rw [List.mem_singleton.mp h]
      rfl
  | collectStop crex todo visited hall =>
      obtain h | h := List.mem_append.mp h
      · obtain ⟨r', -, rfl⟩ := List.mem_map.mp h
        rfl
      · rw [List.mem_singleton.mp h]
        rfl
  | _ => cases h

private theorem failRequest_receives {crex : CrankerRouterException} {o : Op}
    (h : o ∈ failRequest r crex) :
    o.receives = false := by
  simp only [failRequest, List.mem_cons, List.not_mem_nil, or_false] at h
  obtain rfl | rfl := h
  · rfl
  · unfold resetAfter
    split <;> rfl

theorem Move.receives_of_mem {x y : Shared} {op o : Op} {more : List Op} {ts : List Task}
    (h : Move dbg x op y more ts) (hop : op.receives = false)
    (ho : o ∈ more ∨ ∃ t ∈ ts, o ∈ t.ops) : o.receives = false := by
  cases h with
  | notify r' o' => exact NotifyOp.closes_of_mem hop (by simpa using ho)
  | frame => cases hop
  | upload r' o' hupload =>
      have ho : o ∈ more := by simpa using ho
      cases hupload with
      | keeps | queues =>
          obtain ⟨u, -, rfl⟩ := List.mem_map.mp ho
          rfl
      | fails crex hend =>
          rw [List.mem_singleton.mp ho]
          rfl
  | socket o' c hrun => exact (socketMove_of_run hrun).closes_of_mem hop (by simpa using ho)
  | checkRemoved text hasBody =>
      have ho : o = .nextReqId text hasBody := by grind -ring -linarith
      rw [ho]
      rfl
  | requestFails | errorTaken | buildFails => exact failRequest_receives (by simpa using ho)
  | proxied | responded =>
      simp only [List.mem_cons, List.not_mem_nil, or_false, exists_eq_left] at ho
      obtain rfl | rfl := ho <;> rfl
  | built | endSeen | ctxMissing => simp at ho
  | _ =>
      simp only [List.mem_cons, List.not_mem_nil, or_false, false_and, exists_false] at ho
      subst ho
      rfl

/-! ### The totals -/

/-- The counters of a context, with `bytes` still to be added and `frames` added too early. -/
structure Totals (ctx : RequestContext) (bytes frames : Nat) : Prop where
  bytes : ctx.toClientBytes + BitVec.ofNat 64 bytes = BitVec.ofNat 64 ctx.bodyLength
  frames : ctx.wssOnBinaryCallCount = BitVec.ofNat 64 (ctx.bodyChunks.length + frames)

/-- The operations around a chunk. -/
def FrameOp.handlesChunk : FrameOp → Bool
  | .handleData _ bin => !bin.isEmpty
  | .countBinary | .sendBody _ _ | .addToClient _ => true
  | _ => false

def Op.handlesChunk : Op → Bool
  | .frame _ o => o.handlesChunk
  | _ => false

/-- Where the receive pipe is: between chunks, or at one that does not end its stream.  A chunk is
counted before it is sent, and its bytes are added after that. -/
inductive Counting (rs : RouterSocketV3) : List Op → Prop
  | between (l : List Op) (hl : ∀ o ∈ l, o.handlesChunk = false)
      (h : ∀ r, Totals (rs.contexts r) 0 0) : Counting rs l
  | arrived (r : ReqId) (flags : UInt8) (bin : Bytes) (hend : judgeIsStreamEndFromFlags flags = false)
      (hopen : (rs.contexts r).tgtResBdy.closed = false) (h : ∀ r, Totals (rs.contexts r) 0 0) :
      Counting rs [.frame r (.handleData flags bin)]
  | accepted (r : ReqId) (bin : Bytes) (hopen : (rs.contexts r).tgtResBdy.closed = false)
      (h : ∀ r, Totals (rs.contexts r) 0 0) :
      Counting rs [.frame r .countBinary, .frame r (.sendBody false bin)]
  | counted (r : ReqId) (bin : Bytes) (hopen : (rs.contexts r).tgtResBdy.closed = false)
      (h : ∀ r', Totals (rs.contexts r') 0 (if r' = r then 1 else 0)) :
      Counting rs [.frame r (.sendBody false bin)]
  | sent (r : ReqId) (len : Nat) (l : List Op) (hl : ∀ o ∈ l, o.handlesChunk = false)
      (h : ∀ r', Totals (rs.contexts r') (if r' = r then len else 0) 0) :
      Counting rs (.frame r (.addToClient len) :: l)

section Counting

variable {rs rs' : RouterSocketV3} {l : List Op} {c c' : RequestContext}

/-- The counters, the chunks sent and whether the body is open are as before. -/
structure KeepsBody (c c' : RequestContext) : Prop where
  counters : c'.counters = c.counters
  chunks : c'.bodyChunks = c.bodyChunks
  closed : c'.tgtResBdy.closed = c.tgtResBdy.closed

theorem Totals.of_kept {bytes frames : Nat} (h : Totals c bytes frames)
    (hcounters : c'.counters = c.counters) (hchunks : c'.bodyChunks = c.bodyChunks) :
    Totals c' bytes frames := by
  obtain ⟨htoClient, hcount⟩ := Prod.mk.inj hcounters
  constructor
  · have hbytes := h.bytes
    unfold RequestContext.bodyLength at hbytes ⊢
    rw [htoClient, hchunks, hbytes]
  · rw [hcount, hchunks, h.frames]

private theorem totals_new (now : Int) : Totals (.new now) 0 0 := ⟨rfl, rfl⟩

theorem ChanMove.bodyChunks {op : Op} (h : ChanMove r c op c') (hop : op.handlesChunk = false)
    (hins : op.inserts r = false) : c'.bodyChunks = c.bodyChunks := by
  cases h with
  | keeps _ _ hhdr hbdy hend => rw [RequestContext.bodyChunks, hbdy, RequestContext.bodyChunks]
  | sendBdyErr ex => exact Chan.oks_send_error _ ex
  | bodySent isEnd bin => cases hop
  | insertCtx text hasBody now =>
      rw [Op.inserts_iff.mpr ⟨text, hasBody, rfl⟩] at hins
      cases hins
  | _ => rfl

theorem ChanMove.bodyClosed {op : Op} (h : ChanMove r c op c') (hop : op.receives = false)
    (hins : op.inserts r = false) : c'.tgtResBdy.closed = c.tgtResBdy.closed := by
  cases h with
  | keeps _ _ hhdr hbdy hend => rw [hbdy]
  | sendBdyErr ex => exact Chan.send_closed _ _
  | closeBdy => cases hop
  | bodySent isEnd bin => cases hop
  | insertCtx text hasBody now =>
      rw [Op.inserts_iff.mpr ⟨text, hasBody, rfl⟩] at hins
      cases hins
  | _ => rfl

/-- A step that changes a request as little as this, or inserts it while nothing works for it,
leaves the receive pipe where it was. -/
theorem Counting.of_kept (h : Counting rs l)
    (hctx : ∀ r, KeepsBody (rs.contexts r) (rs'.contexts r) ∨
      (∃ now, rs'.contexts r = .new now) ∧ ∀ o ∈ l, o.req ≠ some r) : Counting rs' l := by
  have htotals : ∀ {r bytes frames}, Totals (rs.contexts r) bytes frames →
      ((∀ o ∈ l, o.req ≠ some r) → bytes = 0 ∧ frames = 0) → Totals (rs'.contexts r) bytes frames := by
    intro r bytes frames ht hfree
    obtain hkept | ⟨⟨now, hnew⟩, hreq⟩ := hctx r
    · exact ht.of_kept hkept.counters hkept.chunks
    · obtain ⟨rfl, rfl⟩ := hfree hreq
      rw [hnew]
      exact totals_new now
  have hopen : ∀ {r}, (rs.contexts r).tgtResBdy.closed = false →
      (rs'.contexts r).tgtResBdy.closed = false := by
    intro r hopen
    obtain hkept | ⟨⟨now, hnew⟩, -⟩ := hctx r
    · exact hkept.closed.trans hopen
    · rw [hnew]
      rfl
  cases h with
  | between l hl h => exact .between l hl fun r => htotals (h r) fun _ => ⟨rfl, rfl⟩
  | arrived r flags bin hend hbody h =>
      exact .arrived r flags bin hend (hopen hbody) fun r => htotals (h r) fun _ => ⟨rfl, rfl⟩
  | accepted r bin hbody h =>
      exact .accepted r bin (hopen hbody) fun r => htotals (h r) fun _ => ⟨rfl, rfl⟩
  | counted r bin hbody h =>
      refine .counted r bin (hopen hbody) fun r' => htotals (h r') fun hfree => ⟨rfl, if_neg ?_⟩
      rintro rfl
      exact hfree _ (List.mem_singleton.mpr rfl) rfl
  | sent r len l hl h =>
      refine .sent r len l hl fun r' => htotals (h r') fun hfree => ⟨if_neg ?_, rfl⟩
      rintro rfl
      exact hfree _ List.mem_cons_self rfl

private theorem Counting.totals {op : Op} (h : Counting rs (op :: l))
    (hop : op.handlesChunk = false)
    (r : ReqId) : Totals (rs.contexts r) 0 0 := by
  generalize hl : op :: l = ops at h
  cases h with
  | between _ _ h => exact h r
  | arrived _ _ _ _ _ h => exact h r
  | accepted _ _ _ h => exact h r
  | counted => cases hl; cases hop
  | sent => cases hl; cases hop

private theorem Counting.totals_nil (h : Counting rs []) (r : ReqId) : Totals
    (rs.contexts r) 0 0 := by
  cases h with
  | between _ _ h => exact h r

private theorem Move.handlesChunk_of_mem {x y : Shared} {op o : Op} {more : List Op}
    {ts : List Task}
    (h : Move dbg x op y more ts) (hop : op.handlesChunk = false) (hpiped : op.piped = true)
    (ho : o ∈ more) : o.handlesChunk = false := by
  cases h with
  | notify r' o' =>
      obtain ⟨o'', rfl⟩ := NotifyOp.mem_run ho
      rfl
  | frame r' o' hframe =>
      cases hframe with
      | data flags bin =>
          have hbin : bin = [] := by simpa [Op.handlesChunk, FrameOp.handlesChunk] using hop
          subst hbin
          grind -ring -linarith [Op.handlesChunk, FrameOp.handlesChunk, closeOpsIf]
      | bodyClosed | bodySent => cases hop
      | _ => grind -ring -linarith [Op.handlesChunk, FrameOp.handlesChunk, closeOpsIf, failFrame]
  | socket o' c hrun => cases socketMove_of_run hrun <;> grind -ring -linarith [Op.handlesChunk]
  | _ => cases hpiped

private theorem Op.counts_of_piped {op : Op} (hop : op.handlesChunk = false)
    (hpiped : op.piped = true) :
    op.counts = false := by
  cases op with
  | frame r' o => cases o <;> first | rfl | cases hop
  | request => cases hpiped
  | _ => rfl

theorem Op.inserts_of_piped {op : Op} (hpiped : op.piped = true) : op.inserts r = false := by
  by_contra hins
  obtain ⟨text, hasBody, rfl⟩ := Op.inserts_iff.mp (by simpa using hins : op.inserts r = true)
  cases hpiped

private theorem forall_modify {P : ReqId → RequestContext → Prop}
    {f : RequestContext → RequestContext}
    (hself : P r (f (rs.contexts r))) (hother : ∀ r' ≠ r, P r' (rs.contexts r')) (r' : ReqId) :
    P r' ((rs.modify r f).contexts r') := by
  by_cases hr : r' = r
  · subst hr
    rwa [rs.modify_contexts_self]
  · rw [rs.modify_contexts_ne hr]
    exact hother r' hr

private theorem totals_countBinary (h : ∀ r', Totals (rs.contexts r') 0 0) (r' : ReqId) :
    Totals ((rs.countBinary r).contexts r') 0 (if r' = r then 1 else 0) := by
  refine forall_modify (P := fun r' c => Totals c 0 (if r' = r then 1 else 0)) ⟨(h r).bytes, ?_⟩ ?_ r'
  · rw [if_pos rfl]
    show (rs.contexts r).wssOnBinaryCallCount + 1 =
      BitVec.ofNat 64 ((rs.contexts r).bodyChunks.length + 1)
    rw [(h r).frames]
    exact (BitVec.ofNat_add _ 1).symm
  · intro r' hr
    rw [if_neg hr]
    exact h r'

private theorem totals_sendBody (h : ∀ r', Totals (rs.contexts r') 0 (if r' = r then 1 else 0))
    (hopen : (rs.contexts r).tgtResBdy.closed = false) (bin : Bytes) (r' : ReqId) :
    Totals ((rs.sendBdy r (.ok bin)).contexts r') (if r' = r then bin.length else 0) 0 := by
  refine forall_modify (P := fun r' c => Totals c (if r' = r then bin.length else 0) 0) ?_ ?_ r'
  · have hr := h r
    have hchunks := Chan.oks_send_ok hopen bin
    rw [if_pos rfl] at hr ⊢
    constructor
    · have hbytes := hr.bytes
      rw [BitVec.add_zero] at hbytes
      simp only [RequestContext.bodyLength, RequestContext.bodyChunks, hchunks, List.map_append,
        List.sum_append]
      rw [hbytes, BitVec.ofNat_add]
      simp [RequestContext.bodyLength, RequestContext.bodyChunks]
    · rw [RequestContext.bodyChunks, hchunks, List.length_append]
      exact hr.frames
  · intro r' hr
    have hr' := h r'
    rw [if_neg hr] at hr' ⊢
    exact hr'

private theorem totals_addToClient {len : Nat}
    (h : ∀ r', Totals (rs.contexts r') (if r' = r then len else 0) 0) (r' : ReqId) :
    Totals ((rs.addToClient r len).contexts r') 0 0 := by
  refine forall_modify (P := fun _ c => Totals c 0 0) ?_ ?_ r'
  · have hr := h r
    rw [if_pos rfl] at hr
    refine ⟨?_, hr.frames⟩
    show (rs.contexts r).toClientBytes + BitVec.ofNat 64 len + BitVec.ofNat 64 0 =
      BitVec.ofNat 64 (rs.contexts r).bodyLength
    rw [hr.bytes]
    simp
  · intro r' hr
    have hr' := h r'
    rwa [if_neg hr] at hr'

theorem Counting.recv {x y : Shared} {op : Op} {rest more : List Op} {ch : Choice} {ts : List Task}
    (h : Counting x.rs (op :: rest)) (hpiped : op.piped = true)
    (hexec : execOp dbg overflowChecks x op ch = some (y, more, ts)) :
    Counting y.rs (more ++ rest) := by
  have hmove := move_of_execOp hexec
  generalize hl : op :: rest = l at h
  cases h with
  | between _ hquiet h =>
      subst hl
      have hop := hquiet op List.mem_cons_self
      refine .between _ ?_ ?_
      · intro o ho
        obtain ho | ho := List.mem_append.mp ho
        · exact hmove.handlesChunk_of_mem hop hpiped ho
        · exact hquiet o (List.mem_cons_of_mem _ ho)
      · intro r
        exact (h r).of_kept (execOp_counters hexec (Op.counts_of_piped hop hpiped))
          (hmove.chanMove.bodyChunks hop (Op.inserts_of_piped hpiped))
  | arrived r flags bin hend hopen h =>
      cases hl
      cases hmove with
      | frame _ _ hframe =>
          cases hframe with
          | fails _ crex ho =>
              refine .between _ ?_ h
              intro o ho
              simp only [failFrame, List.append_nil, List.mem_cons, List.not_mem_nil, or_false] at ho
              obtain rfl | rfl := ho <;> rfl
          | data =>
              rw [hend]
              by_cases hbin : bin.length = 0
              · simp only [hbin, if_true, Bool.false_eq_true, if_false, List.nil_append, closeOpsIf]
                exact .between _ (by simp) h
              · simp only [hbin, if_false, Bool.false_eq_true, List.nil_append, List.append_nil]
                exact .accepted r bin hopen h
          | credit _ _ ho => obtain ho | ho := ho <;> cases ho
  | accepted r bin hopen h =>
      cases hl
      cases hmove with
      | frame _ _ hframe =>
          cases hframe with
          | countBinary =>
              refine .counted r bin ?_ (totals_countBinary h)
              simpa [RouterSocketV3.countBinary] using hopen
          | fails _ _ ho => cases ho
          | credit _ _ ho => obtain ho | ho := ho <;> cases ho
  | counted r bin hopen h =>
      cases hl
      cases hmove with
      | frame _ _ hframe =>
          cases hframe with
          | bodyClosed _ _ hclosed => simp [hopen] at hclosed
          | bodySent =>
              refine .sent r bin.length _ ?_ (totals_sendBody h hopen bin)
              intro o ho
              have ho : o = .frame r (.queueCredit bin.length) ∨ o = .frame r (.bodyListeners none) := by
                simpa using ho
              obtain rfl | rfl := ho <;> rfl
          | fails _ _ ho => cases ho
          | credit _ _ ho => obtain ho | ho := ho <;> cases ho
  | sent r len l hquiet h =>
      cases hl
      cases hmove with
      | frame _ _ hframe =>
          cases hframe with
          | addToClient => exact .between _ hquiet (totals_addToClient h)
          | fails _ _ ho => cases ho
          | credit _ _ ho => obtain ho | ho := ho <;> cases ho

end Counting

/-! ### Over whole runs -/

/-- A chunk comes while the body of its request is open, and not with the end of its stream. -/
def endsWithoutChunk (p : SocketPool) : Label → Bool
  | .receive b =>
      match head? b with
      | some (type, flags, r, bin) => type != messageTypeData || bin.isEmpty ||
          (!judgeIsStreamEndFromFlags flags && !(p.shared.rs.contexts r).tgtResBdy.closed)
      | none => true
  | _ => true

structure Accounted (p : SocketPool) : Prop where
  orderly : ∀ r, Orderly r p
  apart : Apart p
  counting : Counting p.shared.rs p.shared.recv

/-- While a request is in the receive pipe, its context is not inserted. -/
theorem Orderly.not_in_recv {text : String} {hasBody : Bool} {rest more : List Op}
    {spawned others : List (List Op)} {y : Shared} (h : Orderly r p)
    (hstep : ListStep dbg p q (.request r (.insertCtx text hasBody)) rest more spawned others y) :
    ∀ o ∈ p.shared.recv, o.req ≠ some r := by
  intro o ho hreq
  have hpiped := h.tidy.recv o ho
  have hzero := h.life.tally_of_insertCtx hstep (P := fun o => o.piped && o.mentions r)
    (fun o ho => Op.mentions_iff.mp (by simp_all)) rfl
  have hpos : 0 < tally (fun o => o.piped && o.mentions r) p :=
    tally_pos_iff.mpr ⟨_, List.mem_cons_self, o, ho, by simp [hpiped, Op.mentions_iff.mpr hreq]⟩
  omega

theorem Apart.task {i : Nat} {c : Choice} (h : Apart p)
    (hstep : step dbg overflowChecks p (.task i c) = some q) :
    Apart q ∧ q.shared.recv = p.shared.recv ∧
      ∀ op rest, (Label.task i c).ops p = op :: rest → op.receives = false := by
  obtain ⟨l, t, rt, op, rest, y, more, ts, hget, htasks, hops, hrun, rfl⟩ := task_step_cases hstep
  have hmove := move_of_execOp hrun
  have hfree := h t (by simp [htasks])
  rw [hops] at hfree
  have hop := hfree op List.mem_cons_self
  refine ⟨?_, hmove.recv, ?_⟩
  · intro u hu o ho
    simp only [List.mem_append, List.mem_cons] at hu
    obtain (hu | rfl | hu) | hu := hu
    · exact h u (by simp [htasks, hu]) o ho
    · obtain ho | ho := List.mem_append.mp ho
      · exact hmove.receives_of_mem hop (.inl ho)
      · exact hfree o (List.mem_cons_of_mem _ ho)
    · exact hmove.receives_of_mem hop (.inr ⟨u, hu, ho⟩)
    · exact h u (by simp [htasks, hu]) o ho
  · intro op' rest' hops'
    have heq : op :: rest = op' :: rest' := by simpa [Label.ops, hget, hops] using hops'
    cases heq
    exact hop

theorem Apart.add {t : Task} {x : Shared} (h : Apart p) (ht : ∀ o ∈ t.ops, o.receives = false) :
    Apart ⟨x, p.tasks ++ [t]⟩ := by
  intro u hu
  obtain hu | hu := List.mem_append.mp hu
  · exact h u hu
  · rw [List.mem_singleton.mp hu]
    exact ht

theorem Apart.step {a : Label} (h : Apart p) (hstep : step dbg overflowChecks p a = some q) :
    Apart q := by
  cases stepCases hstep with
  | list hops hlist =>
      cases a with
      | task i c => exact (h.task hstep).1
      | recv c =>
          obtain ⟨op, rest, y, more, ts, -, -, rfl⟩ := recv_step_cases hstep
          exact h
      | _ => cases hops
  | request text hasBody => exact h.add (by simp [Op.receives])
  | fail crex hup => exact h.add (by simp [teardownOps, Op.receives, SocketOp.closes])
  | dropHandler i l rt t hget htasks hawaits =>
      intro u hu
      refine h u ?_
      rw [htasks]
      grind -ring -linarith
  | _ => exact h

private theorem Op.kept_of_task {op : Op} (hop : op.receives = false) :
    op.handlesChunk = false ∧ (op.counts = true → ∃ r, op.inserts r = true) := by
  cases op with
  | frame => cases hop
  | request r' o =>
      refine ⟨rfl, fun hcounts => ⟨r', ?_⟩⟩
      cases o with
      | insertCtx text hasBody => exact Op.inserts_iff.mpr ⟨text, hasBody, rfl⟩
      | _ => cases hcounts
  | _ => exact ⟨rfl, nofun⟩

theorem Accounted.task {i : Nat} {c : Choice} (h : Accounted p)
    (hstep : step dbg overflowChecks p (.task i c) = some q) :
    Counting q.shared.rs q.shared.recv := by
  obtain ⟨-, hrecv, hreceives⟩ := h.apart.task hstep
  obtain ⟨op, rest, y, more, ts, spawned, others, hops, hexec, hlist⟩ := listStep_of_task hstep
  have hop := hreceives op rest hops
  obtain ⟨hchunk, hcounts⟩ := Op.kept_of_task hop
  have hmove := move_of_execOp hexec
  rw [hrecv, hlist.rs_eq]
  refine h.counting.of_kept fun r => ?_
  by_cases hins : op.inserts r = true
  · obtain ⟨text, hasBody, rfl⟩ := Op.inserts_iff.mp hins
    obtain ⟨rfl, -, -⟩ := hmove.of_insertCtx
    exact .inr ⟨⟨_, Function.update_self ..⟩, (h.orderly r).not_in_recv hlist⟩
  · have hins : op.inserts r = false := by simpa using hins
    refine .inl ⟨?_, hmove.chanMove.bodyChunks hchunk hins, hmove.chanMove.bodyClosed hop hins⟩
    by_cases hcount : op.counts = true
    · -- the context of another request is inserted
      obtain ⟨r', hins'⟩ := hcounts hcount
      obtain ⟨text, hasBody, rfl⟩ := Op.inserts_iff.mp hins'
      obtain ⟨rfl, -, -⟩ := hmove.of_insertCtx
      have hr : r ≠ r' := by
        rintro rfl
        rw [hins'] at hins
        cases hins
      simp [RouterSocketV3.insertCtx, hr]
    · exact execOp_counters hexec (by simpa using hcount)

theorem Accounted.takes {l : List Op} {rs : RouterSocketV3} (h : Accounted p)
    (hidle : p.shared.recv = []) (hrs : rs.contexts = p.shared.rs.contexts)
    (hl : ∀ o ∈ l, o.handlesChunk = false) : Counting rs l := by
  have hcounting := h.counting
  rw [hidle] at hcounting
  refine .between l hl fun r => ?_
  rw [hrs]
  exact hcounting.totals_nil r

theorem Accounted.receive {b : Bytes} (h : Accounted p) (hidle : p.shared.recv = [])
    (hok : endsWithoutChunk p (.receive b) = true) :
    Counting (p.shared.receive b).rs (p.shared.receive b).recv := by
  unfold Shared.receive
  simp only [endsWithoutChunk] at hok
  cases hhead : head? b with
  | none => exact hidle ▸ h.counting
  | some head =>
      obtain ⟨type, flags, r, bin⟩ := head
      rw [hhead] at hok
      simp only at hok ⊢
      split_ifs with hr
      · show Counting p.shared.rs (frameOps type flags r bin)
        by_cases hdata : type = messageTypeData ∧ bin ≠ []
        · obtain ⟨rfl, hbin⟩ := hdata
          have hlive : judgeIsStreamEndFromFlags flags = false ∧
              (p.shared.rs.contexts r).tgtResBdy.closed = false := by
            simpa [hbin] using hok
          have hcounting := h.counting
          rw [hidle] at hcounting
          exact .arrived r flags bin hlive.1 hlive.2 hcounting.totals_nil
        · refine h.takes hidle rfl fun o ho => ?_
          unfold frameOps at ho
          split_ifs at ho with htype
          · obtain rfl := List.mem_singleton.mp ho
            have hbin : bin = [] := by
              by_contra hbin
              exact hdata ⟨htype, hbin⟩
            rw [hbin]
            rfl
          all_goals
            first
              | (rw [List.mem_singleton.mp ho]; rfl)
              | cases ho
      · exact hidle ▸ h.counting

theorem Accounted.recv {c : Choice} (h : Accounted p)
    (hstep : step dbg overflowChecks p (.recv c) = some q) :
    Counting q.shared.rs q.shared.recv := by
  obtain ⟨op, rest, y, more, ts, hrecv, hexec, rfl⟩ := recv_step_cases hstep
  have hpiped := (h.orderly 0).tidy.recv op (by simp [hrecv])
  have hcounting := h.counting
  rw [hrecv] at hcounting
  have hnext := hcounting.recv hpiped hexec
  exact hnext

theorem Accounted.step {a : Label} (h : Accounted p) (hok : endsWithoutChunk p a = true)
    (hstep : step dbg overflowChecks p a = some q) : Accounted q := by
  refine ⟨fun r => (h.orderly r).step hstep, h.apart.step hstep, ?_⟩
  cases stepCases hstep with
  | list hops hlist =>
      cases a with
      | task i c => exact h.task hstep
      | recv c => exact h.recv hstep
      | _ => cases hops
  | request | fail | dropStream => exact h.counting
  | receive b hidle => exact h.receive hidle hok
  | close frame hidle => exact h.takes hidle rfl (by simp [closeOps, Op.handlesChunk])
  | dropHandler i l rt t hget htasks hawaits =>
      have hcounting := h.counting
      cases t.req <;> exact hcounting
  | remove | setRemoved | tick => exact h.counting.of_kept fun _ => .inl ⟨rfl, rfl, rfl⟩

private theorem accounted_init (h : (socketMachine dbg overflowChecks).init p) : Accounted p := by
  have horderly : ∀ r, Orderly r p := fun r => orderly_init r h
  obtain ⟨route, routerSocketId, reallyNeed, now, rfl⟩ := h
  exact ⟨horderly, nofun, .between [] nofun fun r => totals_new now⟩

theorem toInt_ofNat_of_lt {n : Nat} (h : n < 2 ^ 63) : (BitVec.ofNat 64 n).toInt = n := by
  rw [BitVec.toInt_eq_toNat_cond, BitVec.toNat_ofNat]
  have hmod : n % 2 ^ 64 = n := Nat.mod_eq_of_lt (by omega)
  rw [hmod, if_pos (by omega)]

/-- When the receive pipe calls the listeners' `on_complete`, as it does at the end of a stream,
the bytes and the frames of the response are those put on the body channel: in every run in which
no chunk ends its stream or comes after the body was closed. -/
theorem totals_final_at_completion (dbg : DebugText) (overflowChecks : Bool) {p : SocketPool}
    (hp : (socketMachine dbg overflowChecks).Reachable (fun p a => endsWithoutChunk p a = true) p)
    {r : ReqId} {rest : List Op} (hcall : p.shared.recv = .notify r .raiseCompletion :: rest)
    (hbytes : (p.shared.rs.contexts r).bodyLength < 2 ^ 63)
    (hframes : (p.shared.rs.contexts r).bodyChunks.length < 2 ^ 63) :
    (p.shared.rs.contexts r).bytesSent = (p.shared.rs.contexts r).bodyLength ∧
      (p.shared.rs.contexts r).responseBodyFrames = (p.shared.rs.contexts r).bodyChunks.length := by
  have hinv : Accounted p :=
    hp.invariant (fun _ hp => accounted_init hp) fun _ _ _ h hok hstep => h.step hok hstep
  have hcounting := hinv.counting
  rw [hcall] at hcounting
  have htotals := hcounting.totals rfl r
  have hbytes' := htotals.bytes
  rw [BitVec.add_zero] at hbytes'
  constructor
  · rw [RequestContext.bytesSent, hbytes']
    exact toInt_ofNat_of_lt hbytes
  · rw [RequestContext.responseBodyFrames, htotals.frames]
    exact toInt_ofNat_of_lt hframes

/-- A request whose response has begun: the header and a chunk of three bytes have arrived. -/
def oneChunkReceived : List Label :=
  List.flatten [[.request "GET / HTTP/1.1\n\n" false], List.replicate 3 (.task 0 .go),
    [.task 0 (.answer none), .task 1 .go,
      .receive (headerMessage 1 true false "HTTP/1.1 200 OK\n")], List.replicate 4 (.recv .go),
    [.receive (dataMessages 1 false (some [1, 2, 3]))], List.replicate 5 (.recv .go),
    [.recv (.answer none)]]

/-- An empty frame ends the stream, and the listeners are about to be called. -/
def endedByEmptyFrame : SocketPool :=
  (socketMachine plainText false).run (fun p a => endsWithoutChunk p a = true) freshSocket
    (oneChunkReceived ++ .receive (dataMessages 1 true none) :: List.replicate 6 (.recv .go))

theorem totals_final_at_completion_emptyFrame :
    1 ∈ endedByEmptyFrame.shared.rs.contextMap ∧
    (endedByEmptyFrame.shared.rs.contexts 1).bytesSent = 3 ∧
    (endedByEmptyFrame.shared.rs.contexts 1).responseBodyFrames = 1 := by
  have hcall : endedByEmptyFrame.shared.recv =
      .notify 1 .raiseCompletion :: [.notify 1 .spawnRemove] := by decide +kernel
  have hchunks : (endedByEmptyFrame.shared.rs.contexts 1).bodyChunks = [[1, 2, 3]] := by
    decide +kernel
  have hlength : (endedByEmptyFrame.shared.rs.contexts 1).bodyLength = 3 := by
    rw [RequestContext.bodyLength, hchunks]
    rfl
  have hreach : (socketMachine plainText false).Reachable
      (fun p a => endsWithoutChunk p a = true) endedByEmptyFrame :=
    Machine.reachable_run _ _ (init_freshSocket false) _
  obtain ⟨hbytes, hframes⟩ := totals_final_at_completion plainText false hreach hcall
    (by rw [hlength]; decide) (by rw [hchunks]; decide)
  refine ⟨by decide +kernel, ?_, ?_⟩
  · rw [hbytes, hlength]
    rfl
  · rw [hframes, hchunks]
    rfl

/-- The chunk itself ends the stream. -/
def endedByChunk : SocketPool :=
  (socketMachine plainText false).run Machine.anyAction freshSocket
    (oneChunkReceived ++ .receive (dataMessages 1 true (some [4, 5])) ::
      List.replicate 8 (.recv .go))

/-- A chunk comes after the end of the stream, while the context is still there, and after that
another end. -/
def endedTwice : SocketPool :=
  (socketMachine plainText false).run Machine.anyAction freshSocket
    (List.flatten [oneChunkReceived, [.receive (dataMessages 1 true none)],
      List.replicate 8 (.recv .go), [.receive (dataMessages 1 false (some [4, 5]))],
      List.replicate 4 (.recv .go), [.recv (.answer none)], List.replicate 10 (.recv .go),
      [.receive (dataMessages 1 true none)], List.replicate 4 (.recv .go)])

/-- In the first run `bytes_sent` lacks the last chunk when the listeners are called; in the second
`response_body_frames` counts a frame that was not put on the body channel. -/
theorem totals_not_final :
    ((socketMachine plainText false).Reachable Machine.anyAction endedByChunk ∧
      endedByChunk.shared.recv.head? = some (.notify 1 .raiseCompletion) ∧
      1 ∈ endedByChunk.shared.rs.contextMap ∧
      (endedByChunk.shared.rs.contexts 1).bodyChunks = [[1, 2, 3], [4, 5]] ∧
      (endedByChunk.shared.rs.contexts 1).bytesSent = 3 ∧
      (endedByChunk.shared.rs.contexts 1).responseBodyFrames = 2) ∧
    ((socketMachine plainText false).Reachable Machine.anyAction endedTwice ∧
      endedTwice.shared.recv.head? = some (.notify 1 .raiseCompletion) ∧
      1 ∈ endedTwice.shared.rs.contextMap ∧
      (endedTwice.shared.rs.contexts 1).bodyChunks = [[1, 2, 3]] ∧
      (endedTwice.shared.rs.contexts 1).bytesSent = 3 ∧
      (endedTwice.shared.rs.contexts 1).responseBodyFrames = 2) := by
  refine ⟨⟨Machine.reachable_run _ _ (init_freshSocket false) _, ?_⟩,
    ⟨Machine.reachable_run _ _ (init_freshSocket false) _, ?_⟩⟩
  · decide +kernel
  · decide +kernel

end CrankerRouter.V3
