import CrankerRouter.V3.Answers
import CrankerRouter.V3.ByteCounts
import CrankerRouter.V3.Demux

/-!
# Credit for a response

Every byte of a response that the receive pipe passes on, to the header text or to the body
channel, is given back to the connector as credit in a WINDOW_UPDATE frame.  Between the two the
credit is owed by the operations that are left in the receive pipe, while the handlers, the senders
and the teardown of all requests go on and the connector sends frames for other ids.
-/

namespace CrankerRouter.V3

open Lib

variable {dbg : DebugText} {overflowChecks : Bool} {p q : SocketPool} {r r' : ReqId}
  {rs rs' : RouterSocketV3} {op : Op} {more : List Op} {ts : List Task} {c : Choice}

/-- The bytes of a response that were passed on. -/
def RequestContext.passedOn (ctx : RequestContext) : Nat :=
  (utf8 ctx.headerLineBuilder).length + ctx.bodyLength

/-- The credit that an operation of the receive pipe is to queue. -/
def FrameOp.credits : FrameOp → Nat
  | .queueCredit len | .creditHeader len | .sendHeader _ len => len
  | _ => 0

def Op.owes (r : ReqId) : Op → Nat
  | .frame r' o => if r' = r then o.credits else 0
  | _ => 0

def owed (r : ReqId) (l : List Op) : Nat := (l.map (Op.owes r)).sum

/-- An operation fails to queue its credit: the header channel or the send queue is closed. -/
def Op.forfeits (rs : RouterSocketV3) : Op → Bool
  | .frame r (.sendHeader _ _) => (rs.contexts r).tgtResHdr.closed
  | .frame _ (.queueCredit _) | .frame _ (.creditHeader _) => rs.wssSendTask.closed
  | _ => false

/-- The number of bytes an operation is about fits in an `i32`. -/
def FrameOp.fits : FrameOp → Bool
  | .handleData _ bin | .sendBody _ bin => bin.length < 2 ^ 31
  | .queueCredit len | .creditHeader len | .sendHeader _ len => len < 2 ^ 31
  | _ => true

def Op.fits : Op → Bool
  | .frame _ o => o.fits
  | _ => true

@[simp] theorem owed_nil : owed r [] = 0 := rfl

@[simp] theorem owed_cons (op : Op) (l : List Op) : owed r (op :: l) = op.owes r + owed r l := by
  simp [owed]

@[simp] theorem owed_append (l l' : List Op) : owed r (l ++ l') = owed r l + owed r l' := by
  simp [owed]

private theorem owed_eq_zero {l : List Op} (h : ∀ o ∈ l, o.owes r = 0) : owed r l = 0 := by
  simpa [owed, List.sum_eq_zero_iff] using h

@[simp] theorem owed_closeOpsIf (r' : ReqId) (isEnd : Bool) : owed r (closeOpsIf r' isEnd) = 0 := by
  cases isEnd <;> rfl

private theorem Op.owes_of_receives (h : op.receives = false) : op.owes r = 0 := by
  cases op with
  | frame => cases h
  | _ => rfl

private theorem Op.forfeits_of_receives (h : op.receives = false) :
    op.forfeits rs = false := by
  cases op with
  | frame => cases h
  | _ => rfl

/-! ### What changes the credit queued -/

private theorem credit_sendData_of_closed (h : rs.wssSendTask.closed = true) (m : Message) :
    (rs.sendData m).credit r = rs.credit r := by
  rw [RouterSocketV3.credit, RouterSocketV3.sendData_wssSendTask, Chan.send_of_closed h]
  rfl

private theorem credit_sendData_of_open (h : rs.wssSendTask.closed = false) (m : Message) :
    (rs.sendData m).credit r = rs.credit r + creditOf r m := by
  simp [RouterSocketV3.credit, Chan.send_sent_of_open h]

private theorem credit_sendData_of_not {m : Message} (h : creditOf r m = 0) :
    (rs.sendData m).credit r = rs.credit r := by
  cases hclosed : rs.wssSendTask.closed with
  | true => exact credit_sendData_of_closed hclosed m
  | false => rw [credit_sendData_of_open hclosed, h, add_zero]

private theorem creditOf_frame {type : UInt8} (htype : type ≠ messageTypeWindowUpdate)
    (flags : UInt8)
    (r' : ReqId) (payload : Bytes) : creditOf r (.binary (frame type flags r' payload)) = 0 := by
  simp [creditOf, htype]

theorem NotifyOp.credit (rs : RouterSocketV3) (r' : ReqId) (o : NotifyOp) :
    (o.run rs r').1.credit r = rs.credit r := by
  cases o with
  | queueRst errCode msg => exact credit_sendData_of_not (creditOf_frame (by decide) _ _ _)
  | raiseCompletion => simp [NotifyOp.run, RouterSocketV3.credit]
  | _ => rfl

private theorem uploadFrame_credit {next more : List Op} {type flags : UInt8} {payload : Bytes}
    (htype : type ≠ messageTypeWindowUpdate)
    (h : uploadFrame dbg rs r' (frame type flags r' payload) next = (rs', more)) :
    rs'.credit r = rs.credit r := by
  unfold uploadFrame at h
  split at h <;> cases h
  · rfl
  · exact credit_sendData_of_not (creditOf_frame htype _ _ _)

theorem UploadOp.credit {o : UploadOp} (h : o.run dbg rs r' c = some (rs', more)) :
    rs'.credit r = rs.credit r := by
  cases o with
  | queueHeader isHeaderEnd part parts hasBody =>
      exact uploadFrame_credit (by decide) (Option.some.inj h)
  | queueChunk chunk => exact uploadFrame_credit (by decide) (Option.some.inj h)
  | queueEnd => exact uploadFrame_credit (by decide) (Option.some.inj h)
  | uploadHeader parts hasBody => cases parts <;> cases h <;> rfl
  | awaitNotify callback =>
      simp only [UploadOp.run] at h
      split at h <;> cases h
      rfl
  | nextChunk => cases c <;> cases h <;> rfl
  | beforeChunk | chunkListeners | afterSent =>
      cases c <;> try cases h
      rename_i a
      cases a <;> cases h <;> rfl
  | _ => cases h; rfl

theorem SocketMove.credit {o : SocketOp} (h : SocketMove rs o rs' more) :
    rs'.credit r = rs.credit r := by
  cases h with
  | generalError crex rs' hrs => obtain rfl | rfl := hrs <;> rfl
  | _ => rfl

/-! ### What changes the bytes passed on -/

def RequestContext.passed (ctx : RequestContext) : String × List Bytes :=
  (ctx.headerLineBuilder, ctx.bodyChunks)

private theorem RequestContext.passedOn_congr {ctx ctx' : RequestContext}
    (h : ctx'.passed = ctx.passed) :
    ctx'.passedOn = ctx.passedOn := by
  obtain ⟨hheader, hbody⟩ := Prod.mk.inj h
  rw [passedOn, bodyLength, hheader, hbody]
  rfl

private theorem passed_modify {f : RequestContext → RequestContext}
    (hf : ∀ ctx, (f ctx).passed = ctx.passed) :
    ((rs.modify r' f).contexts r).passed = (rs.contexts r).passed := by
  by_cases hr : r = r'
  · subst hr
    rw [rs.modify_contexts_self, hf]
  · rw [rs.modify_contexts_ne hr]

private theorem passed_writeItMaybe (ctx : RequestContext) :
    ctx.writeItMaybe.passed = ctx.passed := by
  unfold RequestContext.writeItMaybe
  split <;> rfl

private theorem passed_acked (ack : BitVec 32) (ctx : RequestContext) :
    (ctx.acked ack).passed = ctx.passed := by
  simp only [RequestContext.acked]
  split
  · exact passed_writeItMaybe _
  · rfl

private theorem passed_generalError (rs : RouterSocketV3) (crex : CrankerRouterException) :
    ((rs.tryProvideGeneralError crex).contexts r).passed = (rs.contexts r).passed := by
  unfold RouterSocketV3.tryProvideGeneralError
  simp only
  split <;> rfl

private theorem NotifyOp.passed (rs : RouterSocketV3) (r' : ReqId) (o : NotifyOp) :
    ((o.run rs r').1.contexts r).passed = (rs.contexts r).passed := by
  cases o with
  | raiseCompletion =>
      by_cases hr : r' ∈ rs.contextMap
      · simp only [NotifyOp.run, RouterSocketV3.raiseCompletionEvent, if_pos hr,
          RouterSocketV3.callOnComplete]
        exact passed_modify fun _ => rfl
      · simp only [NotifyOp.run, RouterSocketV3.raiseCompletionEvent, if_neg hr]
  | sendBdyErr ex =>
      simp only [NotifyOp.run, RouterSocketV3.sendBdy]
      exact passed_modify fun ctx => Prod.ext rfl (Chan.oks_send_error ctx.tgtResBdy ex)
  | notifyError | sendHdrErr | storeRstSent | closeHdr | closeBdy =>
      simp only [NotifyOp.run, RouterSocketV3.setError, RouterSocketV3.sendHdr,
        RouterSocketV3.storeRstStreamSent, RouterSocketV3.closeHdr, RouterSocketV3.closeBdy]
      exact passed_modify fun _ => rfl
  | _ => rfl

private theorem UploadOp.passed {o : UploadOp} (h : o.run dbg rs r' c = some (rs', more)) :
    (rs'.contexts r).passed = (rs.contexts r).passed := by
  cases o with
  | storeCanSend | incPending | addFromClient | pushCallback =>
      cases h
      exact passed_modify fun _ => rfl
  | writeItMaybe =>
      cases h
      exact passed_modify passed_writeItMaybe
  | queueHeader | queueChunk | queueEnd => rw [uploadFrame_contexts (Option.some.inj h)]
  | uploadHeader parts hasBody => cases parts <;> cases h <;> rfl
  | awaitNotify callback =>
      simp only [UploadOp.run] at h
      split at h <;> cases h
      rfl
  | flowControl | senderError => cases h; rfl
  | nextChunk => cases c <;> cases h <;> rfl
  | beforeChunk | chunkListeners | afterSent =>
      cases c <;> try cases h
      rename_i a
      cases a <;> cases h <;> rfl

private theorem SocketMove.passed {o : SocketOp} (h : SocketMove rs o rs' more) :
    (rs'.contexts r).passed = (rs.contexts r).passed := by
  cases h with
  | generalError crex rs' hrs =>
      obtain rfl | rfl := hrs
      · rfl
      · exact passed_generalError rs crex
  | _ => rfl

/-! ### One operation -/

/-- What one operation does to the balance of a request: what it passes on it owes or queues as
credit, unless it forfeits it. -/
structure Settles (r : ReqId) (rs rs' : RouterSocketV3) (op : Op) (more : List Op) : Prop where
  balance : ∃ lost : Nat, rs'.credit r + owed r more + lost + (rs.contexts r).passedOn =
    rs.credit r + op.owes r + (rs'.contexts r).passedOn ∧ (op.forfeits rs = false → lost = 0)

private theorem Settles.of_owed {n : Nat} (hcredit : rs'.credit r = rs.credit r)
    (hpassed : (rs'.contexts r).passedOn = (rs.contexts r).passedOn + n)
    (howed : owed r more = op.owes r + n) : Settles r rs rs' op more := by
  refine ⟨0, ?_, fun _ => rfl⟩
  rw [hcredit, hpassed, howed]
  push_cast
  ring

theorem Settles.of_kept (hcredit : rs'.credit r = rs.credit r)
    (hpassed : (rs'.contexts r).passed = (rs.contexts r).passed) (hop : op.owes r = 0)
    (hmore : owed r more = 0) : Settles r rs rs' op more :=
  .of_owed (n := 0) hcredit (RequestContext.passedOn_congr hpassed) (by rw [hop, hmore])

private theorem Settles.of_forfeit (hop : op.forfeits rs = true) (hmore : owed r more = 0) :
    Settles r rs rs op more := by
  refine ⟨op.owes r, ?_, ?_⟩
  · simp [hmore]
  · simp [hop]

private theorem fromUtf8_length {b : Bytes} {s : String} (h : fromUtf8 b = some s) :
    (utf8 s).length = b.length := by
  unfold fromUtf8 String.fromUTF8? at h
  split at h <;> cases h
  rfl

private theorem passedOn_pushHeader (rs : RouterSocketV3) (r' : ReqId) (content : String) :
    ((rs.pushHeader r' content).contexts r).passedOn =
      (rs.contexts r).passedOn + if r' = r then (utf8 content).length else 0 := by
  by_cases hr : r' = r
  · subst hr
    simp only [RouterSocketV3.pushHeader, rs.modify_contexts_self, RequestContext.passedOn,
      utf8_append, List.length_append, if_pos]
    rw [add_right_comm]
    rfl
  · simp only [RouterSocketV3.pushHeader, rs.modify_contexts_ne (Ne.symm hr), if_neg hr, add_zero]

private theorem passedOn_sendBdy (hopen : (rs.contexts r').tgtResBdy.closed = false) (bin : Bytes) :
    ((rs.sendBdy r' (.ok bin)).contexts r).passedOn =
      (rs.contexts r).passedOn + if r' = r then bin.length else 0 := by
  by_cases hr : r' = r
  · subst hr
    simp only [RouterSocketV3.sendBdy, rs.modify_contexts_self, RequestContext.passedOn,
      RequestContext.bodyLength, RequestContext.bodyChunks, Chan.oks_send_ok hopen, List.map_append,
      List.sum_append, if_pos]
    simp [add_assoc]
  · simp only [RouterSocketV3.sendBdy, rs.modify_contexts_ne (Ne.symm hr), if_neg hr, add_zero]

private theorem settles_credit {o : FrameOp} {len : Nat}
    (ho : o = .queueCredit len ∨ o = .creditHeader len) (hlen : len < 2 ^ 31) :
    Settles r rs (rs.sendData (chunkCredit r' len)) (.frame r' o) [] := by
  have howes : (Op.frame r' o).owes r = if r' = r then len else 0 := by
    obtain rfl | rfl := ho <;> rfl
  have hforfeits : (Op.frame r' o).forfeits rs = rs.wssSendTask.closed := by
    obtain rfl | rfl := ho <;> rfl
  cases hclosed : rs.wssSendTask.closed with
  | true =>
      refine ⟨(Op.frame r' o).owes r, ?_, ?_⟩
      · rw [credit_sendData_of_closed hclosed]
        simp
      · rw [hforfeits, hclosed]
        simp
  | false =>
      refine ⟨0, ?_, fun _ => rfl⟩
      rw [credit_sendData_of_open hclosed, creditOf_chunkCredit r r' len hlen, howes]
      split <;> simp

private theorem Op.owes_of_credits {o : FrameOp} (h : o.credits = 0) :
    (Op.frame r' o).owes r = 0 := by
  simp [Op.owes, h]

private theorem FrameOp.settles {o : FrameOp}
    (h : o.run dbg overflowChecks rs r' c = some (rs', more)) (hfits : o.fits = true) :
    Settles r rs rs' (.frame r' o) more := by
  cases o with
  | appendHeader flags bin =>
      simp only [FrameOp.run] at h
      split at h
      · cases h
        exact .of_kept rfl rfl (Op.owes_of_credits rfl) rfl
      · split at h <;> cases h
        · exact .of_kept rfl rfl (Op.owes_of_credits rfl) rfl
        · rename_i content hcontent
          refine .of_owed rfl (passedOn_pushHeader rs r' content) ?_
          rw [fromUtf8_length hcontent]
          split <;> simp [Op.owes, FrameOp.credits]
  | sendBody isEnd bin =>
      simp only [FrameOp.run] at h
      split at h <;> cases h
      · exact .of_kept rfl rfl (Op.owes_of_credits rfl) (by simp [Op.owes, FrameOp.credits])
      · rename_i hopen
        refine .of_owed rfl (passedOn_sendBdy (by simpa using hopen) bin) ?_
        simp [Op.owes, FrameOp.credits]
  | sendHeader isEnd len =>
      simp only [FrameOp.run] at h
      split at h <;> cases h
      · rename_i hclosed
        exact .of_forfeit hclosed rfl
      · have hpassed : ((rs.sendHdr r' (.ok (rs.contexts r').headerLineBuilder)).contexts r).passed =
            (rs.contexts r).passed := passed_modify fun _ => rfl
        refine .of_owed (n := 0) rfl (RequestContext.passedOn_congr hpassed) ?_
        simp [Op.owes, FrameOp.credits]
  | queueCredit len =>
      cases h
      exact settles_credit (.inl rfl) (by simpa [FrameOp.fits] using hfits)
  | creditHeader len =>
      simp only [FrameOp.run] at h
      split at h <;> cases h
      · rename_i hclosed
        exact .of_forfeit hclosed rfl
      · exact settles_credit (.inr rfl) (by simpa [FrameOp.fits] using hfits)
  | handleData flags bin =>
      cases frameMove_of_run h with
      | fails => exact .of_kept rfl rfl (Op.owes_of_credits rfl) rfl
      | data =>
          refine .of_kept rfl rfl (Op.owes_of_credits rfl) ?_
          split <;> split <;> simp [Op.owes, FrameOp.credits]
      | credit _ _ ho => obtain ho | ho := ho <;> cases ho
  | handleHeader flags bin =>
      cases frameMove_of_run h with
      | fails => exact .of_kept rfl rfl (Op.owes_of_credits rfl) rfl
      | header =>
          refine .of_kept rfl rfl (Op.owes_of_credits rfl) ?_
          split <;> simp [Op.owes, FrameOp.credits]
      | credit _ _ ho => obtain ho | ho := ho <;> cases ho
  | handleRstStream bin =>
      simp only [FrameOp.run] at h
      split at h <;> cases h
      exact .of_kept rfl rfl (Op.owes_of_credits rfl) rfl
  | handleWindowUpdate bin =>
      cases frameMove_of_run h with
      | windowUpdate _ ack =>
          exact .of_kept rfl (passed_modify (passed_acked ack)) (Op.owes_of_credits rfl) rfl
      | fails _ _ ho => cases ho
      | credit _ _ ho => obtain ho | ho := ho <;> cases ho
  | storeEndStream | countBinary | addToClient =>
      cases h
      exact .of_kept rfl (passed_modify fun _ => rfl) (Op.owes_of_credits rfl) rfl
  | provideGeneralError crex =>
      cases h
      exact .of_kept rfl (passed_generalError rs crex) (Op.owes_of_credits rfl) rfl
  | bodyListeners res =>
      cases frameMove_of_run h with
      | fails => exact .of_kept rfl rfl (Op.owes_of_credits rfl) rfl
      | heard => exact .of_kept rfl rfl (Op.owes_of_credits rfl) rfl
      | credit _ _ ho => obtain ho | ho := ho <;> cases ho

theorem UploadMove.owed {o : UploadOp} (h : UploadMove rs r' o rs' more) : owed r more = 0 := by
  refine owed_eq_zero fun o' ho => ?_
  cases h with
  | keeps | queues =>
      obtain ⟨u, -, rfl⟩ := List.mem_map.mp ho
      rfl
  | fails =>
      rw [List.mem_singleton.mp ho]
      rfl

theorem SocketMove.owed {o : SocketOp} (h : SocketMove rs o rs' more) : owed r more = 0 := by
  cases h with
  | collectStop crex todo visited hall =>
      rw [owed_append, owed_eq_zero, zero_add]
      · rfl
      · intro o ho
        obtain ⟨r', -, rfl⟩ := List.mem_map.mp ho
        rfl
  | _ => rfl

private theorem execOp_settles {x y : Shared}
    (h : execOp dbg overflowChecks x op c = some (y, more, ts)) (hfits : op.fits = true)
    (hins : op.inserts r = false) : Settles r x.rs y.rs op more := by
  cases move_of_execOp h with
  | notify r' o =>
      refine .of_kept (NotifyOp.credit _ _ _) (NotifyOp.passed _ _ _) rfl (owed_eq_zero ?_)
      intro o' ho
      obtain ⟨o'', rfl⟩ := NotifyOp.mem_run ho
      rfl
  | frame r' o hframe =>
      change (o.run dbg overflowChecks x.rs r' c).map _ = _ at h
      obtain ⟨⟨rs', more'⟩, hrun, hout⟩ := Option.map_eq_some_iff.mp h
      cases hout
      exact FrameOp.settles hrun hfits
  | upload r' o hupload =>
      change (o.run dbg x.rs r' c).map _ = _ at h
      obtain ⟨⟨rs', more'⟩, hrun, hout⟩ := Option.map_eq_some_iff.mp h
      cases hout
      exact .of_kept (UploadOp.credit hrun) (UploadOp.passed hrun) rfl hupload.owed
  | socket o c' hrun =>
      have hmove := socketMove_of_run hrun
      exact .of_kept hmove.credit hmove.passed rfl hmove.owed
  | insertCtx r' text hasBody =>
      have hr : r ≠ r' := by
        rintro rfl
        rw [Op.inserts_iff.mpr ⟨text, hasBody, rfl⟩] at hins
        cases hins
      refine .of_kept rfl ?_ rfl rfl
      simp [RouterSocketV3.insertCtx, hr]
  | headerTaken | errorTaken | ctxFound =>
      simp only [RouterSocketV3.takeHdr, RouterSocketV3.setError]
      exact .of_kept rfl (passed_modify fun _ => rfl) rfl rfl
  | checkRemoved => exact .of_kept rfl rfl rfl (by split <;> rfl)
  | _ => exact .of_kept rfl rfl rfl rfl

/-! ### Before the request starts -/

private theorem Lifetime.started_of_names {rest more : List Op} {spawned others : List (List Op)}
    {y : Shared} (hlife : Lifetime r p) (h : ListStep dbg p q op rest more spawned others y)
    (hnames : op.names r = true) (hins : op.inserts r = false) : Started r p := by
  have hbefore := h.tally_before (Op.names r)
  have hinserts := h.tally_before (Op.inserts r)
  have hone : [op].countP (Op.names r) = 1 := by simp [hnames]
  have hzero : [op].countP (Op.inserts r) = 0 := by simp [hins]
  have hrest := inserts_le_names r rest
  have hothers : Pool.total (List.countP (Op.inserts r)) others ≤
      Pool.total (List.countP (Op.names r)) others :=
    total_le_total fun l _ => inserts_le_names r l
  refine ⟨?_, ?_⟩
  · by_contra hadmitted
    have hnone := hlife.unknown hadmitted
    omega
  · by_contra hpos
    have halone := hlife.alone (by omega)
    omega

private theorem FrameMove.passed_of_ne {o : FrameOp} (h : FrameMove dbg rs r' o rs' more)
    (hr : r ≠ r') :
    (rs'.contexts r).passed = (rs.contexts r).passed := by
  cases h with
  | generalError crex => exact passed_generalError rs crex
  | windowUpdate | storeEndStream | countBinary | addToClient | bodySent | appended | headerSent =>
      exact congrArg RequestContext.passed (rs.modify_contexts_ne hr _)
  | _ => rfl

private theorem execOp_passed_of_names {x y : Shared}
    (h : execOp dbg overflowChecks x op c = some (y, more, ts)) (hnames : op.names r = false) :
    (y.rs.contexts r).passed = (x.rs.contexts r).passed := by
  cases move_of_execOp h with
  | notify r' o => exact NotifyOp.passed _ _ _
  | frame r' o hframe =>
      refine hframe.passed_of_ne ?_
      rintro rfl
      simp [Op.names, Op.req] at hnames
  | upload r' o hupload =>
      change (o.run dbg x.rs r' c).map _ = _ at h
      obtain ⟨⟨rs', more'⟩, hrun, hout⟩ := Option.map_eq_some_iff.mp h
      cases hout
      exact UploadOp.passed hrun
  | socket o c' hrun => exact (socketMove_of_run hrun).passed
  | insertCtx r' text hasBody =>
      have hr : r ≠ r' := by
        rintro rfl
        simp [Op.names, Op.req] at hnames
      simp [RouterSocketV3.insertCtx, hr]
  | headerTaken | errorTaken | ctxFound =>
      simp only [RouterSocketV3.takeHdr, RouterSocketV3.setError]
      exact passed_modify fun _ => rfl
  | _ => rfl

/-! ### Over whole runs -/

/-- A frame is shorter than 2 GiB. -/
def framesFit : Label → Bool
  | .receive b => b.length < 2 ^ 31
  | _ => true

/-- A complete header is put on a channel that is still open. -/
def headersTaken (p : SocketPool) : Label → Bool
  | .recv _ =>
      match p.shared.recv with
      | .frame r (.sendHeader _ _) :: _ => !(p.shared.rs.contexts r).tgtResHdr.closed
      | _ => true
  | _ => true

/-- The credit queued and owed against the bytes passed on.  Where no header is refused, the rest
is lost to a closed send queue. -/
def Balance (strict : Bool) (rs : RouterSocketV3) (l : List Op) (r : ReqId) : Prop :=
  ∃ lost : Nat, rs.credit r + owed r l + lost = (rs.contexts r).passedOn ∧
    (strict = true → rs.wssSendTask.closed = false → lost = 0)

section Balance

variable {strict : Bool} {l l' : List Op}

private theorem Balance.congr_owed (h : Balance strict rs l r) (howed : owed r l' = owed r l) :
    Balance strict rs l' r := by
  obtain ⟨lost, hsum, hlost⟩ := h
  exact ⟨lost, by rw [howed, hsum], hlost⟩

theorem Balance.settle (h : Balance strict rs (op :: l) r) (hsettles : Settles r rs rs' op more)
    (hqueue : rs'.wssSendTask.closed = false → rs.wssSendTask.closed = false)
    (hkept : strict = true → rs.wssSendTask.closed = false → op.forfeits rs = false) :
    Balance strict rs' (more ++ l) r := by
  obtain ⟨lost, hsum, hlost⟩ := h
  obtain ⟨lost', hsum', hlost'⟩ := hsettles.balance
  refine ⟨lost + lost', ?_, ?_⟩
  · rw [owed_cons] at hsum
    rw [owed_append]
    push_cast at hsum ⊢
    linarith
  · intro hstrict hopen
    have hopen' := hqueue hopen
    rw [hlost hstrict hopen', hlost' (hkept hstrict hopen')]

private theorem passedOn_insertCtx (rs : RouterSocketV3) (r : ReqId) :
    ((rs.insertCtx r).contexts r).passedOn = 0 := by
  simp [RouterSocketV3.insertCtx, RequestContext.passedOn, RequestContext.bodyLength,
    RequestContext.bodyChunks, RequestContext.new, Chan.oks]

theorem Balance.insertCtx (h : Balance strict rs l r) (hzero : (rs.contexts r).passedOn = 0) :
    Balance strict (rs.insertCtx r) l r := by
  obtain ⟨lost, hsum, hlost⟩ := h
  refine ⟨lost, ?_, hlost⟩
  rw [passedOn_insertCtx, ← hzero, ← hsum]
  rfl

private theorem fits_of_mem_failFrame {crex : CrankerRouterException} {o : Op}
    (h : o ∈ failFrame r' crex) : o.fits = true := by
  simp only [failFrame, List.mem_cons, List.not_mem_nil, or_false] at h
  obtain rfl | rfl := h <;> rfl

private theorem fits_of_mem_closeOpsIf {isEnd : Bool} {o : Op} (h : o ∈ closeOpsIf r' isEnd) :
    o.fits = true := by
  cases isEnd with
  | false => cases h
  | true =>
      rw [List.mem_singleton.mp h]
      rfl

private theorem fits_of_mem_appendHeader {flags : UInt8} {bin : Bytes} {o : Op}
    (h : (FrameOp.appendHeader flags bin).run dbg overflowChecks rs r' c = some (rs', more))
    (ho : o ∈ more) : o.fits = true := by
  simp only [FrameOp.run] at h
  split at h
  · cases h
    exact fits_of_mem_failFrame ho
  · rename_i hlen
    have hfits : decide (bin.length < 2 ^ 31) = true := by simpa using hlen
    split at h <;> cases h
    · exact fits_of_mem_failFrame ho
    · split at ho
      · rw [List.mem_singleton.mp ho]
        exact hfits
      · obtain ho | ho := List.mem_append.mp ho
        · exact fits_of_mem_closeOpsIf ho
        · rw [List.mem_singleton.mp ho]
          exact hfits

theorem FrameOp.fits_of_mem {o : FrameOp} (h : o.run dbg overflowChecks rs r' c = some (rs', more))
    (hfits : o.fits = true) {o' : Op} (ho : o' ∈ more) : o'.fits = true := by
  have hmove := frameMove_of_run h
  cases hmove with
  | fails => exact fits_of_mem_failFrame ho
  | data flags bin =>
      obtain ho | ho := List.mem_append.mp ho
      · grind -ring -linarith [Op.fits, FrameOp.fits]
      · split at ho
        · exact fits_of_mem_closeOpsIf ho
        · simp only [List.mem_cons, List.not_mem_nil, or_false] at ho
          obtain rfl | rfl := ho
          · rfl
          · exact hfits
  | header flags bin => grind -ring -linarith [Op.fits, FrameOp.fits]
  | bodyClosed =>
      simp only [List.mem_cons, List.not_mem_nil, or_false] at ho
      obtain rfl | rfl := ho <;> rfl
  | bodySent isEnd bin hopen =>
      obtain ho | ho := List.mem_append.mp ho
      · exact fits_of_mem_closeOpsIf ho
      · simp only [List.mem_cons, List.not_mem_nil, or_false] at ho
        obtain rfl | rfl | rfl := ho
        · rfl
        · exact hfits
        · rfl
  | appended => exact fits_of_mem_appendHeader h ho
  | headerSent isEnd len =>
      obtain ho | ho := List.mem_append.mp ho
      · exact fits_of_mem_closeOpsIf ho
      · rw [List.mem_singleton.mp ho]
        exact hfits
  | rst =>
      rw [List.mem_singleton.mp ho]
      rfl
  | _ => cases ho

private theorem execOp_fits {x y : Shared}
    (h : execOp dbg overflowChecks x op c = some (y, more, ts)) (hfits : op.fits = true)
    (hpiped : op.piped = true) {o : Op} (ho : o ∈ more) : o.fits = true := by
  cases move_of_execOp h with
  | notify r' o' =>
      obtain ⟨o'', rfl⟩ := NotifyOp.mem_run ho
      rfl
  | frame r' o' hframe =>
      change (o'.run dbg overflowChecks x.rs r' c).map _ = _ at h
      obtain ⟨⟨rs', more'⟩, hrun, hout⟩ := Option.map_eq_some_iff.mp h
      cases hout
      exact FrameOp.fits_of_mem hrun hfits ho
  | socket o' c' hrun => cases socketMove_of_run hrun <;> grind -ring -linarith [Op.fits]
  | _ => cases hpiped

end Balance

private theorem Move.queue_open {x y : Shared} (h : Move dbg x op y more ts)
    (hopen : y.rs.wssSendTask.closed = false) :
    x.rs.wssSendTask.closed = false := by
  by_contra hclosed
  rw [h.queue_closed (by simpa using hclosed)] at hopen
  cases hopen

private theorem head?_length {b : Bytes} {type flags : UInt8} {r : ReqId} {bin : Bytes}
    (h : head? b = some (type, flags, r, bin)) : bin.length ≤ b.length := by
  match b with
  | [] | [_] | [_, _] | [_, _, _] | [_, _, _, _] | [_, _, _, _, _] => simp [head?, Bytes.getI32] at h
  | _ :: _ :: _ :: _ :: _ :: _ :: rest =>
      simp only [head?, Bytes.getI32, Option.some.injEq, Prod.mk.injEq] at h
      obtain ⟨-, -, -, rfl⟩ := h
      simp only [List.length_cons]
      omega

private theorem frameOps_fits {type flags : UInt8} {bin : Bytes} (hlen : bin.length < 2 ^ 31)
    {o : Op}
    (h : o ∈ frameOps type flags r bin) : o.fits = true := by
  unfold frameOps at h
  split_ifs at h
  · rw [List.mem_singleton.mp h]
    simpa [Op.fits, FrameOp.fits] using hlen
  · rw [List.mem_singleton.mp h]
    rfl
  · rw [List.mem_singleton.mp h]
    rfl
  · rw [List.mem_singleton.mp h]
    rfl
  · cases h

private theorem frameOps_owes {type flags : UInt8} {bin : Bytes} {o : Op}
    (h : o ∈ frameOps type flags r' bin) : o.owes r = 0 := by
  obtain ⟨o', rfl, hstarts⟩ := frameOps_starts type flags r' bin h
  refine Op.owes_of_credits ?_
  cases o' <;> first | rfl | cases hstarts

structure Credited (strict : Bool) (p : SocketPool) : Prop where
  orderly : ∀ r, Orderly r p
  apart : Apart p
  fits : ∀ o ∈ p.shared.recv, o.fits = true
  untouched : ∀ r, ¬ Started r p → (p.shared.rs.contexts r).passedOn = 0
  balance : ∀ r, Balance strict p.shared.rs p.shared.recv r

namespace Credited

variable {strict : Bool}

theorem task {i : Nat} (h : Credited strict p)
    (hstep : step dbg overflowChecks p (.task i c) = some q) (r : ReqId) :
    Balance strict q.shared.rs q.shared.recv r := by
  obtain ⟨-, hrecv, hreceives⟩ := h.apart.task hstep
  obtain ⟨op, rest, y, more, ts, spawned, others, hops, hexec, hlist⟩ := listStep_of_task hstep
  have hop := hreceives op rest hops
  have hmove := move_of_execOp hexec
  rw [hrecv, hlist.rs_eq]
  by_cases hins : op.inserts r = true
  · obtain ⟨text, hasBody, rfl⟩ := Op.inserts_iff.mp hins
    obtain ⟨rfl, -, -⟩ := hmove.of_insertCtx
    refine (h.balance r).insertCtx (h.untouched r fun hstarted => ?_)
    rw [hstarted.not_inserts hlist] at hins
    cases hins
  · have hfits : op.fits = true := by
      cases op with
      | frame => cases hop
      | _ => rfl
    have hsettles : Settles r p.shared.rs y.rs op more :=
      execOp_settles hexec hfits (by simpa using hins)
    have hmore : owed r more = 0 := owed_eq_zero fun o ho =>
      Op.owes_of_receives (hmove.receives_of_mem hop (.inl ho))
    have hbalance : Balance strict p.shared.rs (op :: p.shared.recv) r :=
      (h.balance r).congr_owed (by rw [owed_cons, Op.owes_of_receives hop, zero_add])
    have hnext := hbalance.settle hsettles hmove.queue_open
      fun _ _ => Op.forfeits_of_receives hop
    exact hnext.congr_owed (by rw [owed_append, hmore, zero_add])

theorem recv (h : Credited strict p) (hok : strict = true → headersTaken p (.recv c) = true)
    (hstep : step dbg overflowChecks p (.recv c) = some q) :
    (∀ o ∈ q.shared.recv, o.fits = true) ∧ ∀ r, Balance strict q.shared.rs q.shared.recv r := by
  obtain ⟨op, rest, y, more, ts, hrecv, hexec, rfl⟩ := recv_step_cases hstep
  have hpiped := (h.orderly 0).tidy.recv op (by simp [hrecv])
  have hfits := h.fits op (by simp [hrecv])
  have hmove := move_of_execOp hexec
  constructor
  · intro o ho
    obtain ho | ho := List.mem_append.mp ho
    · exact execOp_fits hexec hfits hpiped ho
    · exact h.fits o (by simp [hrecv, ho])
  · intro r
    have hbalance := h.balance r
    rw [hrecv] at hbalance
    have hsettles : Settles r p.shared.rs y.rs op more :=
      execOp_settles hexec hfits (Op.inserts_of_piped hpiped)
    refine hbalance.settle hsettles hmove.queue_open ?_
    intro hstrict hopen
    have htaken := hok hstrict
    simp only [headersTaken, hrecv] at htaken
    unfold Op.forfeits
    split
    · simpa using htaken
    · exact hopen
    · exact hopen
    · rfl

private theorem untouched_list {a : Label} {rest : List Op} (h : Credited strict p)
    (hstep : step dbg overflowChecks p a = some q) (hops : a.ops p = op :: rest) (r : ReqId)
    (hnot : ¬ Started r q) : (q.shared.rs.contexts r).passedOn = 0 := by
  obtain ⟨y, more, ts, spawned, others, hexec, hlist⟩ := listStep_of_ops hstep hops
  have hnot' : ¬ Started r p := fun hstarted => hnot (hstarted.list hlist)
  rw [hlist.rs_eq]
  by_cases hins : op.inserts r = true
  · obtain ⟨text, hasBody, rfl⟩ := Op.inserts_iff.mp hins
    obtain ⟨rfl, -, -⟩ := (move_of_execOp hexec).of_insertCtx
    exact passedOn_insertCtx p.shared.rs r
  · have hnames : op.names r = false := by
      by_contra hnames
      exact hnot' ((h.orderly r).life.started_of_names hlist (by simpa using hnames)
        (by simpa using hins))
    rw [RequestContext.passedOn_congr (execOp_passed_of_names hexec hnames)]
    exact h.untouched r hnot'

theorem takes {l : List Op} (h : Credited strict p) (hidle : p.shared.recv = [])
    (hl : ∀ o ∈ l, o.owes r = 0) : Balance strict p.shared.rs l r := by
  refine (h.balance r).congr_owed ?_
  rw [owed_eq_zero hl, hidle, owed_nil]

theorem receive {b : Bytes} (h : Credited strict p) (hidle : p.shared.recv = [])
    (hok : framesFit (.receive b) = true) :
    (∀ o ∈ (p.shared.receive b).recv, o.fits = true) ∧
      ∀ r, Balance strict (p.shared.receive b).rs (p.shared.receive b).recv r := by
  obtain hsame | ⟨type, flags, r', bin, hhead, -, hrecv⟩ := receive_cases p.shared b
  · rw [hsame]
    exact ⟨h.fits, h.balance⟩
  · rw [hrecv]
    have hlen : bin.length < 2 ^ 31 := by
      have hshort := head?_length hhead
      have hb : b.length < 2 ^ 31 := by simpa [framesFit] using hok
      omega
    exact ⟨fun _ => frameOps_fits hlen, fun r => h.takes hidle fun _ => frameOps_owes⟩

private theorem untouched_idle {gone new kept : List (List Op)} (h : Credited strict p)
    (hidle : IdleStep p q gone new kept) (r : ReqId) (hnot : ¬ Started r q) :
    (q.shared.rs.contexts r).passedOn = 0 := by
  rw [hidle.contexts]
  refine h.untouched r fun hstarted => hnot ⟨hidle.admitted ▸ hstarted.1, ?_⟩
  have hle : tally (Op.inserts r) q ≤ tally (Op.inserts r) p := by
    refine hidle.tally_le fun l hl o ho => ?_
    by_contra hins
    obtain ⟨text, hasBody, rfl⟩ := Op.inserts_iff.mp (by simpa using hins : o.inserts r = true)
    obtain ⟨_, _, heq⟩ | ⟨_, -, _, heq, -⟩ | ⟨_, heq, -⟩ := hidle.arrives.mem_cases hl ho <;>
      cases heq
  have hzero := hstarted.2
  omega

theorem step {a : Label} (h : Credited strict p) (hfit : framesFit a = true)
    (hok : strict = true → headersTaken p a = true)
    (hstep : step dbg overflowChecks p a = some q) : Credited strict q := by
  have huntouched : ∀ r, ¬ Started r q → (q.shared.rs.contexts r).passedOn = 0 := by
    intro r hnot
    cases hops : a.ops p with
    | cons op rest => exact h.untouched_list hstep hops r hnot
    | nil =>
        obtain ⟨gone, new, kept, hidle⟩ := idleStep_of_step hstep hops
        exact h.untouched_idle hidle r hnot
  have hrest : (∀ o ∈ q.shared.recv, o.fits = true) ∧
      ∀ r, Balance strict q.shared.rs q.shared.recv r := by
    cases stepCases hstep with
    | list hops hlist =>
        cases a with
        | task i c =>
            refine ⟨?_, h.task hstep⟩
            rw [(h.apart.task hstep).2.1]
            exact h.fits
        | recv c => exact h.recv hok hstep
        | _ => cases hops
    | receive b hidle => exact h.receive hidle hfit
    | close frame hidle =>
        exact ⟨by simp [closeOps, Op.fits], fun r => h.takes hidle (by simp [closeOps, Op.owes])⟩
    | dropHandler i l rt t hget htasks hawaits =>
        have hsame := And.intro h.fits h.balance
        cases t.req <;> exact hsame
    | _ => exact ⟨h.fits, h.balance⟩
  exact ⟨fun r => (h.orderly r).step hstep, h.apart.step hstep, hrest.1, huntouched, hrest.2⟩

end Credited

private theorem credited_init (strict : Bool) (h : (socketMachine dbg overflowChecks).init p) :
    Credited strict p := by
  have horderly : ∀ r, Orderly r p := fun r => orderly_init r h
  obtain ⟨route, routerSocketId, reallyNeed, now, rfl⟩ := h
  exact ⟨horderly, nofun, nofun, fun _ _ => rfl, fun r => ⟨0, rfl, fun _ _ => rfl⟩⟩

/-- In every run, the credit that the router has queued for an id is at most the bytes of its
response that were passed on.  It is exactly these once the receive pipe has no operation left,
while the send queue is open and as long as no header came after its channel was closed. -/
theorem response_credit_exact (dbg : DebugText) (overflowChecks : Bool) (r : ReqId) :
    (∀ p, (socketMachine dbg overflowChecks).Reachable (fun _ a => framesFit a = true) p →
      p.shared.rs.credit r ≤ (p.shared.rs.contexts r).passedOn) ∧
    ∀ p, (socketMachine dbg overflowChecks).Reachable
        (fun p a => framesFit a = true ∧ headersTaken p a = true) p →
      p.shared.rs.wssSendTask.closed = false →
      p.shared.rs.credit r + owed r p.shared.recv = (p.shared.rs.contexts r).passedOn := by
  constructor
  · intro p hp
    have hinv : Credited false p :=
      hp.invariant (fun _ hp => credited_init false hp)
        fun _ _ _ h hok hstep => h.step hok nofun hstep
    obtain ⟨lost, hsum, -⟩ := hinv.balance r
    omega
  · intro p hp hopen
    have hinv : Credited true p :=
      hp.invariant (fun _ hp => credited_init true hp)
        fun _ _ _ h hok hstep => h.step hok.1 (fun _ => hok.2) hstep
    obtain ⟨lost, hsum, hlost⟩ := hinv.balance r
    rw [hlost rfl hopen] at hsum
    simpa using hsum

/-- A header of sixteen bytes and a chunk of three have arrived. -/
def responseBegun : SocketPool :=
  (socketMachine plainText false).run (fun p a => framesFit a = true ∧ headersTaken p a = true)
    freshSocket oneChunkReceived

theorem response_credit_exact_begun :
    responseBegun.shared.recv = [] ∧ responseBegun.shared.rs.credit 1 = 19 := by
  have hreach : (socketMachine plainText false).Reachable
      (fun p a => framesFit a = true ∧ headersTaken p a = true) responseBegun :=
    Machine.reachable_run _ _ (init_freshSocket false) _
  have hidle : responseBegun.shared.recv = [] := by decide +kernel
  have hpassed : (responseBegun.shared.rs.contexts 1).passedOn = 19 := by decide +kernel
  have hexact := (response_credit_exact plainText false 1).2 responseBegun hreach (by decide +kernel)
  rw [hidle, hpassed] at hexact
  exact ⟨hidle, by simpa using hexact⟩

end CrankerRouter.V3
