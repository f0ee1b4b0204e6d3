import CrankerRouter.V3.Resets

/-!
# How a stream ends

A stream ends by a frame of the connector or by an RST_STREAM frame of the router.  Whoever gives a
request up either resets its stream or leaves that to the handler, by an error on the header
channel.
-/

namespace CrankerRouter.V3

open Lib

variable {dbg : DebugText} {overflowChecks : Bool} {p q : SocketPool} {r : ReqId}

/-- The connector ended the stream, or a reset frame is queued or under way. -/
def accounted (r : ReqId) (p : SocketPool) : Bool :=
  (p.shared.endedAt r).isSome ||
    decide (0 < p.shared.rs.queued messageTypeRstStream r + tally (Op.resets r) p)

/-- The next item on the header channel is an error. -/
def RequestContext.errorNext (ctx : RequestContext) : Bool :=
  match ctx.tgtResHdr.next? with
  | some (.error _) => true
  | _ => false

/-- Nothing is on the header channel yet. -/
def RequestContext.headerPending (ctx : RequestContext) : Bool :=
  ctx.tgtResHdr.next?.isNone && !ctx.tgtResHdr.closed

/-- The stream is accounted for, or the handler is about to read the error that makes it reset. -/
def Done (r : ReqId) (p : SocketPool) : Prop :=
  accounted r p = true ∨
    0 < tally (Op.awaitsHeader r) p ∧ (p.shared.rs.contexts r).errorNext = true

/-- A failure reaches the handler while that waits for the header, unless the end of the stream is
accounted for anyway. -/
def failureHeard (p : SocketPool) (a : Label) : Bool :=
  match (a.ops p).head? with
  | some (.notify r (.sendHdrErr _)) =>
      accounted r p ||
        decide (0 < tally (Op.awaitsHeader r) p) && (p.shared.rs.contexts r).headerPending
  | _ => true

/-- A handler is dropped only while it waits for the header and has no error to read. -/
def dropsUnanswered (p : SocketPool) : Label → Bool
  | .dropHandler i =>
      match p.tasks[i]?.bind (·.ops.head?) with
      | some (.request r .recvHeader) => !(p.shared.rs.contexts r).errorNext
      | _ => false
  | _ => true

/-- A reset that finds the flag unset is the only one under way. -/
def resetsAlone (p : SocketPool) (a : Label) : Bool :=
  match (a.ops p).head? with
  | some (.notify r (.resetStream _ _)) =>
      (p.shared.rs.contexts r).isRstStreamSent || decide (tally (Op.storesRst r) p = 0)
  | _ => true

theorem dropsAtHeader_of_unanswered {a : Label} (h : dropsUnanswered p a = true) :
    dropsAtHeader p a = true := by
  cases a with
  | dropHandler i =>
      simp only [dropsUnanswered] at h
      split at h
      · rename_i r hhead
        simp [dropsAtHeader, hhead]
      · cases h
  | _ => rfl

private theorem errorNext_mono {c c' : RequestContext} (h : c.errorNext = true)
    (htaken : c'.tgtResHdr.taken = c.tgtResHdr.taken)
    (hsent : ∃ l, c'.tgtResHdr.sent = c.tgtResHdr.sent ++ l) : c'.errorNext = true := by
  obtain ⟨l, hsent⟩ := hsent
  unfold RequestContext.errorNext Chan.next? at h ⊢
  rw [htaken, hsent]
  split at h
  · rename_i e hnext
    have hlt : c.tgtResHdr.taken < c.tgtResHdr.sent.length := (List.getElem?_eq_some_iff.mp hnext).1
    rw [List.getElem?_append_left hlt, hnext]
  · cases h

private theorem errorNext_sendHdr {rs : RouterSocketV3} {ex : CrankerRouterException}
    (h : (rs.contexts r).headerPending = true)
    (htaken : (rs.contexts r).tgtResHdr.taken ≤ (rs.contexts r).tgtResHdr.sent.length) :
    ((rs.sendHdr r (.error ex)).contexts r).errorNext = true := by
  simp only [RequestContext.headerPending, Chan.next?, Option.isNone_iff_eq_none, Bool.and_eq_true,
    List.getElem?_eq_none_iff, Bool.not_eq_true'] at h
  have heq : (rs.contexts r).tgtResHdr.taken = (rs.contexts r).tgtResHdr.sent.length := by omega
  simp [RequestContext.errorNext, Chan.next?, RouterSocketV3.sendHdr,
    Chan.send_sent_of_open h.2, heq]

private theorem accounted_iff : accounted r p = true ↔ (p.shared.endedAt r).isSome = true ∨
    0 < p.shared.rs.queued messageTypeRstStream r + tally (Op.resets r) p := by
  simp [accounted]

private theorem queuesRst_le_resets : tally (Op.queuesRst r) p ≤ tally (Op.resets r) p := by
  refine tally_mono fun o ho => ?_
  cases o <;> simp [Op.queuesRst, Op.resets, Op.isNotify] at ho ⊢
  rename_i r' o
  obtain ⟨rfl, ho⟩ := ho
  cases o <;> simp_all [NotifyOp.isQueueRst, NotifyOp.isReset]

private theorem accounted_of_window
    (h : 1 ≤ (resetWindow r p).queued + (resetWindow r p).queueing) :
    accounted r p = true := by
  have hle : tally (Op.queuesRst r) p ≤ tally (Op.resets r) p := queuesRst_le_resets
  simp only [resetWindow] at h
  exact accounted_iff.mpr (.inr (by omega))

private theorem Move.errorNext {x y : Shared} {op : Op} {more : List Op} {ts : List Task}
    (hmove : Move dbg x op y more ts) (hsocket : op.isSocket = false)
    (hrecv : op.awaitsHeader r = false) (hinsert : op.inserts r = false)
    (h : (x.rs.contexts r).errorNext = true) : (y.rs.contexts r).errorNext = true := by
  obtain ⟨-, hquiet⟩ | hspecial := hmove.quiet_or_special r hsocket
  · exact errorNext_mono h hquiet.ctx.taken hquiet.ctx.sent
  · cases hspecial with
    | insertCtx text hasBody => simp [Op.inserts, Op.isRequest, RequestOp.isInsertCtx] at hinsert
    | headerTaken item hnext => simp [Op.awaitsHeader, Op.isRequest, RequestOp.isRecvHeader] at hrecv
    | headerClosed => simp [Op.awaitsHeader, Op.isRequest, RequestOp.isRecvHeader] at hrecv
    | spawnRemove => exact h
    | queueRst errCode msg => exact h
    | storeRstSent =>
        exact errorNext_mono h (by simp [RouterSocketV3.storeRstStreamSent])
          ⟨[], by simp [RouterSocketV3.storeRstStreamSent]⟩
    | storeEndStream =>
        exact errorNext_mono h (by simp [RouterSocketV3.storeEndStreamReceived])
          ⟨[], by simp [RouterSocketV3.storeEndStreamReceived]⟩

section ListStep

variable {op : Op} {rest more : List Op} {spawned others : List (List Op)} {y : Shared}

private theorem ListStep.accounted (hbase : Base p) (hfresh : Fresh r p)
    (hbacked : (resetWindow r p).Backed) (h : ListStep dbg p q op rest more spawned others y)
    (hreq : op.req = some r) (hacc : accounted r p = true) : accounted r q = true := by
  obtain ⟨ts, hmove, -⟩ := h.move
  have hended : q.shared.endedAt = p.shared.endedAt := by rw [h.shared, hmove.history.1]
  have hresets := h.tally_eq (P := Op.resets r) (fun _ _ _ => rfl) fun _ => rfl
  have hwindow := h.windowMove hbase hfresh hreq
  have hwindow' := hwindow.backed hbacked
  obtain hend | hpos := accounted_iff.mp hacc
  · exact accounted_iff.mpr (.inl (hended ▸ hend))
  · generalize hw : resetWindow r q = w at hwindow hwindow'
    cases hwindow with
    | same hop =>
        by_cases hreset : op.resets r = true
        · refine accounted_of_window ?_
          rw [hw]
          exact hbacked.2 (hop hreset)
        · have hqueued := congrArg ResetWindow.queued hw
          have hzero : [op].countP (Op.resets r) = 0 := by simp [hreset]
          simp only [resetWindow] at hqueued
          exact accounted_iff.mpr (.inr (by omega))
    | start errCode msg hsent =>
        refine accounted_of_window ?_
        rw [hw]
        simp only
        omega
    | queue errCode msg n hn =>
        refine accounted_of_window ?_
        rw [hw]
        simp only
        omega
    | store n hn =>
        refine accounted_of_window ?_
        rw [hw]
        exact hwindow'.2 rfl
    | insert text hasBody hqueued =>
        obtain ⟨hblank, hzero⟩ := hfresh.of_insertCtx h
        have hzero := hzero (Op.resets r) (fun _ => Op.req_of_isNotify) rfl
        simp only [resetWindow] at hqueued
        omega

theorem ListStep.done (hbase : Base p) (hfresh : Fresh r p) (hbacked : (resetWindow r p).Backed)
    (h : ListStep dbg p q op rest more spawned others y) (hreq : op.req = some r)
    (hdone : Done r p) : Done r q := by
  obtain hacc | ⟨hwait, herror⟩ := hdone
  · exact .inl (h.accounted hbase hfresh hbacked hreq hacc)
  obtain ⟨ts, hmove, -⟩ := h.move
  have hsocket : op.isSocket = false :=
    hbase.noSocket _ (h.mem_before.mpr (.inl rfl)) op (by simp)
  have hresets := h.tally_eq (P := Op.resets r) (fun _ _ _ => rfl) fun _ => rfl
  have hwaits := h.tally_eq (P := Op.awaitsHeader r) (fun _ _ _ => rfl)
    fun r' => by simp [Op.awaitsHeader, Op.isRequest, RequestOp.isRecvHeader]
  by_cases hrecv : op.awaitsHeader r = true
  · -- the handler reads the error and resets
    left
    obtain ⟨rfl⟩ : op = .request r .recvHeader := by
      cases op <;> simp [Op.awaitsHeader, Op.isRequest] at hrecv
      rename_i r' o
      obtain ⟨rfl, ho⟩ := hrecv
      cases o <;> simp_all [RequestOp.isRecvHeader]
    cases hmove with
    | requestFails _ _ crex ho =>
        obtain ⟨_, _, ho⟩ | ⟨_, ho⟩ | ⟨-, hnext, -⟩ := ho
        · cases ho
        · cases ho
        · simp [RequestContext.errorNext, hnext] at herror
    | headerTaken _ content hnext => simp [RequestContext.errorNext, hnext] at herror
    | errorTaken _ crex hnext =>
        have hpos : 0 < (failRequest r crex).countP (Op.resets r) :=
          List.countP_pos_iff.mpr (exists_isReset_failRequest r crex)
        have hzero : [Op.request r .recvHeader].countP (Op.resets r) = 0 := rfl
        exact accounted_iff.mpr (.inr (by omega))
  · right
    by_cases hinsert : op.inserts r = true
    · obtain ⟨text, hasBody, rfl⟩ : ∃ text hasBody, op = .request r (.insertCtx text hasBody) := by
        cases op <;> simp [Op.inserts, Op.isRequest] at hinsert
        rename_i r' o
        obtain ⟨rfl, ho⟩ := hinsert
        cases o <;> simp_all [RequestOp.isInsertCtx]
      have hzero := (hfresh.of_insertCtx h).2 (Op.awaitsHeader r) (fun _ => Op.req_of_isRequest)
        (by simpa using hrecv)
      omega
    · have hop : [op].countP (Op.awaitsHeader r) = 0 := by simp [hrecv]
      refine ⟨by omega, ?_⟩
      rw [h.shared]
      exact hmove.errorNext hsocket (by simpa using hrecv) (by simpa using hinsert) herror

end ListStep

theorem Done.step {a : Label} (hbase : Base p) (hfresh : Fresh r p)
    (hbacked : (resetWindow r p).Backed) (hdrop : dropsUnanswered p a = true)
    (h : StepFor dbg r p a q) (hdone : Done r p) : Done r q := by
  cases h with
  | same h =>
      have hresets := h.tally (Op.resets r) fun _ => Op.req_of_isNotify
      have hwaits := h.tally (Op.awaitsHeader r) fun _ => Op.req_of_isRequest
      refine hdone.imp (fun hacc => ?_) fun ⟨hwait, herror⟩ => ⟨by omega, ?_⟩
      · rw [accounted_iff] at hacc ⊢
        rw [h.endedAt, h.quiet.queued, hresets]
        exact hacc
      · exact errorNext_mono herror h.quiet.ctx.taken h.quiet.ctx.sent
  | list hops h hreq => exact h.done hbase hfresh hbacked hreq hdone
  | born text hasBody others hnew hadmitted hquiet hended hseen hstream hgone hbefore hafter =>
      have hzero := hfresh.unknown hnew
      have hblank := hfresh.blank fun hstarted => hnew hstarted.1
      have hresets : tally (Op.resets r) p ≤ tally (Op.mentions r) p :=
        tally_mono fun o ho => Op.mentions_iff.mpr (Op.req_of_isNotify ho)
      have hwaits : tally (Op.awaitsHeader r) p ≤ tally (Op.mentions r) p :=
        tally_mono fun o ho => Op.mentions_iff.mpr (Op.req_of_isRequest ho)
      obtain hacc | ⟨hwait, -⟩ := hdone
      · obtain hend | hpos := accounted_iff.mp hacc
        · simp [hblank.endedAt] at hend
        · have hqueued := hblank.queued
          omega
      · omega
  | receive b type flags bin ha hhead hidle hr hq =>
      subst hq
      refine hdone.imp (fun hacc => ?_) fun ⟨hwait, herror⟩ => ⟨?_, herror⟩
      · rw [accounted_iff] at hacc ⊢
        rw [tally_receive _ hidle]
        refine hacc.imp (fun hend => ?_) fun hpos => by simp only [Shared.noteFrame]; omega
        have hnone : (p.shared.endedAt r).isNone = false := by
          cases hn : p.shared.endedAt r <;> simp_all
        simpa [Shared.noteFrame, hnone] using hend
      · rw [tally_receive _ hidle]
        omega
  | remove hr hq =>
      subst hq
      exact hdone
  | dropHandler i ha hget hlists hshared =>
      subst ha
      simp only [dropsUnanswered, hget, Bool.not_eq_true'] at hdrop
      have hresets := tally_dropped (P := Op.resets r) hlists
      have hzero : [Op.request r .recvHeader].countP (Op.resets r) = 0 := rfl
      obtain hacc | ⟨-, herror⟩ := hdone
      · left
        rw [accounted_iff] at hacc ⊢
        rw [hshared]
        refine hacc.imp_right fun hpos => ?_
        simp only [Shared.markGone]
        omega
      · simp [herror] at hdrop
  | dropStream hlive hq =>
      subst hq
      exact hdone

/-- A list that will not give the request up, or that is about to tell the handler. -/
def Calm (r : ReqId) (l : List Op) : Prop :=
  (∃ o tail, l = .notify r o :: tail ∧ o.isFail = true) ∨ ∀ o ∈ l, o.isHot r = false

/-- Nobody has given the request up. -/
structure Pristine (r : ReqId) (p : SocketPool) : Prop where
  calm : ∀ l ∈ lists p, Calm r l
  removals : r ∉ p.shared.rs.removals
  kept : Started r p → r ∈ p.shared.rs.contextMap

private theorem calm_of_req {l : List Op} (h : ∀ o ∈ l, o.req ≠ some r) : Calm r l := by
  right
  intro o ho
  by_contra hhot
  refine h o ho ?_
  simp only [Bool.not_eq_false, Op.isHot, Bool.or_eq_true] at hhot
  exact hhot.elim Op.req_of_isNotify Op.req_of_isFrame

private theorem frameOps_not_hot {type flags : UInt8} {bin : Bytes}
    (hmark : (marksEndStream type flags || type == messageTypeRstStream) = false) :
    ∀ o ∈ frameOps type flags r bin, o.isHot r = false := by
  intro o ho
  unfold frameOps at ho
  split_ifs at ho with hdata hheader hrst hupdate
  · simp_all [Op.isHot, Op.isNotify, Op.isFrame, FrameOp.isEnd, marksEndStream]
  · simp_all [Op.isHot, Op.isNotify, Op.isFrame, FrameOp.isEnd, marksEndStream]
  · simp_all
  · simp_all [Op.isHot, Op.isNotify, Op.isFrame, FrameOp.isEnd]
  · simp at ho

section ListStep

variable {op : Op} {rest more : List Op} {spawned others : List (List Op)} {y : Shared}

private theorem ListStep.done_of_sendHdrErr {a : Label} {ex : CrankerRouterException}
    (hbase : Base p)
    (hfresh : Fresh r p) (hbacked : (resetWindow r p).Backed) (hheard : failureHeard p a = true)
    (hops : a.ops p = .notify r (.sendHdrErr ex) :: rest)
    (h : ListStep dbg p q (.notify r (.sendHdrErr ex)) rest more spawned others y) : Done r q := by
  simp only [failureHeard, hops, List.head?_cons, Bool.or_eq_true, Bool.and_eq_true,
    decide_eq_true_eq] at hheard
  obtain hacc | ⟨hwait, hpending⟩ := hheard
  · exact .inl (h.accounted hbase hfresh hbacked rfl hacc)
  · right
    obtain ⟨ts, hmove, -⟩ := h.move
    have hwaits := h.tally_eq (P := Op.awaitsHeader r) (fun _ _ _ => rfl)
      fun r' => by simp [Op.awaitsHeader, Op.isRequest, RequestOp.isRecvHeader]
    have hop : [Op.notify r (.sendHdrErr ex)].countP (Op.awaitsHeader r) = 0 := rfl
    refine ⟨by omega, ?_⟩
    rw [h.shared]
    cases hmove with
    | notify => exact errorNext_sendHdr hpending (hbase.taken r)

theorem ListStep.calm {a : Label} (hbase : Base p) (hfresh : Fresh r p)
    (hbacked : (resetWindow r p).Backed) (hheard : failureHeard p a = true)
    (hops : a.ops p = op :: rest) (h : ListStep dbg p q op rest more spawned others y)
    (hreq : op.req = some r) (hcalm : Calm r (op :: rest)) : Done r q ∨ Calm r (more ++ rest) := by
  obtain ⟨ts, hmove, -⟩ := h.move
  have hsocket : op.isSocket = false :=
    hbase.noSocket _ (h.mem_before.mpr (.inl rfl)) op (by simp)
  have hresets := h.tally_eq (P := Op.resets r) (fun _ _ _ => rfl) fun _ => rfl
  obtain ⟨o, tail, hcons, hfail⟩ | hcold := hcalm
  · obtain ⟨rfl, rfl⟩ := List.cons.inj hcons
    cases o with
    | notifyError crex =>
        cases hmove
        exact .inr (.inl ⟨.decideError crex, _, rfl, rfl⟩)
    | decideError crex =>
        cases hmove
        exact .inr (.inl ⟨.sendHdrErr _, _, rfl, rfl⟩)
    | sendHdrErr ex => exact .inl (h.done_of_sendHdrErr hbase hfresh hbacked hheard hops)
    | _ => cases hfail
  · have hhot : op.isHot r = false := hcold op (by simp)
    cases hreset : op.resets r with
    | true =>
        -- a reset under way accounts for the end of the stream
        refine .inl (.inl (h.accounted hbase hfresh hbacked hreq ?_))
        have hpos : 0 < tally (Op.resets r) p :=
          tally_pos_iff.mpr ⟨_, h.mem_before.mpr (.inl rfl), op, by simp, hreset⟩
        exact accounted_iff.mpr (.inr (by omega))
    | false =>
        obtain hmore | ⟨o, ho, hresets'⟩ | ⟨crex, rfl⟩ := hmove.isHot_cases hsocket hhot hreset
        · refine .inr (.inr fun o ho => ?_)
          obtain ho | ho := List.mem_append.mp ho
          · exact hmore o ho
          · exact hcold o (by simp [ho])
        · have hpos : 0 < more.countP (Op.resets r) := List.countP_pos_iff.mpr ⟨o, ho, hresets'⟩
          have hzero : [op].countP (Op.resets r) = 0 := by simp [hreset]
          exact .inl (.inl (accounted_iff.mpr (.inr (by omega))))
        · exact .inr (.inl ⟨.notifyError crex, _, rfl, rfl⟩)

private theorem ListStep.pristine {a : Label} (hbase : Base p) (hfresh : Fresh r p)
    (hbacked : (resetWindow r p).Backed) (hheard : failureHeard p a = true)
    (hops : a.ops p = op :: rest) (h : ListStep dbg p q op rest more spawned others y)
    (hreq : op.req = some r) (hp : Pristine r p) : Done r q ∨ Pristine r q := by
  obtain ⟨ts, hmove, -⟩ := h.move
  have hmem : op :: rest ∈ lists p := h.mem_before.mpr (.inl rfl)
  have hsocket : op.isSocket = false := hbase.noSocket _ hmem op (by simp)
  have hcalm := hp.calm _ hmem
  refine (h.calm hbase hfresh hbacked hheard hops hreq hcalm).imp_right fun hcalm' => ?_
  constructor
  · intro l hl
    obtain rfl | hl | hl := h.mem_after.mp hl
    · exact hcalm'
    · obtain ⟨r', text, hasBody, rfl⟩ | ⟨r', rfl⟩ := h.mem_spawned hl <;>
        exact .inr (by simp [Op.isHot, Op.isNotify, Op.isFrame])
    · exact hp.calm l (h.mem_before.mpr (.inr hl))
  · rw [h.shared, hmove.mem_removals_iff hsocket]
    rintro (hr | rfl)
    · exact hp.removals hr
    · obtain ⟨o, tail, hcons, hfail⟩ | hcold := hcalm
      · obtain ⟨rfl, -⟩ := by simpa using List.cons.inj hcons
        cases hfail
      · have hhot := hcold (.notify r .spawnRemove) (by simp)
        simp [Op.isHot, NotifyOp.isFail, NotifyOp.isRemove] at hhot
  · intro _
    rw [h.shared, hmove.mem_contextMap_iff hsocket]
    cases hinsert : op.inserts r with
    | true => exact .inr hinsert
    | false => exact .inl (hp.kept (hfresh.started_of_not_inserts h hreq hinsert))

end ListStep

/-- Either nobody has given the request up, or the end of its stream is accounted for. -/
theorem settled_step {a : Label} (hbase : Base p) (hfresh : Fresh r p)
    (hbacked : (resetWindow r p).Backed) (hheard : failureHeard p a = true)
    (hdrop : dropsUnanswered p a = true) (h : StepFor dbg r p a q)
    (hsettled : Done r p ∨ Pristine r p) : Done r q ∨ Pristine r q := by
  obtain hdone | hp := hsettled
  · exact .inl (hdone.step hbase hfresh hbacked hdrop h)
  cases h with
  | same h =>
      right
      have hinserts := h.tally (Op.inserts r) fun _ => Op.req_of_isRequest
      constructor
      · exact fun l hl => (h.lists l hl).elim (hp.calm l) calm_of_req
      · rw [h.quiet.mem_removals]
        exact hp.removals
      · rw [h.quiet.contextMap]
        rintro ⟨hr, hzero⟩
        exact hp.kept ⟨h.admitted.mp hr, hinserts ▸ hzero⟩
  | list hops h hreq => exact h.pristine hbase hfresh hbacked hheard hops hreq hp
  | born text hasBody others hnew hadmitted hquiet hended hseen hstream hgone hbefore hafter =>
      right
      constructor
      · intro l hl
        obtain rfl | hl := List.mem_cons.mp (hafter.mem_iff.mp hl)
        · exact .inr (by simp [Op.isHot, Op.isNotify, Op.isFrame])
        · exact hp.calm l (hbefore.mem_iff.mpr (List.mem_cons_of_mem _ hl))
      · rw [hquiet.mem_removals]
        exact hp.removals
      · rintro ⟨-, hzero⟩
        rw [tally_of_perm hafter, Pool.total_cons] at hzero
        simp [Op.inserts, Op.isRequest, RequestOp.isInsertCtx] at hzero
  | receive b type flags bin ha hhead hidle hr hq =>
      subst hq
      cases hmark : marksEndStream type flags || type == messageTypeRstStream with
      | true =>
          refine .inl (.inl (accounted_iff.mpr (.inl ?_)))
          cases hend : p.shared.endedAt r <;> simp [Shared.noteFrame, hend, hmark]
      | false =>
          right
          refine ⟨fun l hl => ?_, hp.removals, fun _ => hr⟩
          obtain rfl | hl := List.mem_cons.mp hl
          · exact .inr (frameOps_not_hot hmark)
          · exact hp.calm l (List.mem_cons_of_mem _ hl)
  | remove hr hq => exact absurd hr hp.removals
  | dropHandler i ha hget hlists hshared =>
      right
      have hinserts := tally_dropped (P := Op.inserts r) hlists
      have hzero : [Op.request r .recvHeader].countP (Op.inserts r) = 0 := by
        simp [Op.inserts, Op.isRequest, RequestOp.isInsertCtx]
      constructor
      · exact fun l hl => hp.calm l (hlists.mem_iff.mpr (List.mem_cons_of_mem _ hl))
      · rw [hshared]
        exact hp.removals
      · rw [hshared]
        rintro ⟨hr, hzero'⟩
        exact hp.kept ⟨by rw [hshared] at hr; exact hr, by omega⟩
  | dropStream hlive hq =>
      subst hq
      exact .inr ⟨hp.calm, hp.removals, hp.kept⟩

private theorem StepFor.endedAt_cases {a : Label} (h : StepFor dbg r p a q) :
    q.shared.endedAt r = p.shared.endedAt r ∨
      q.shared.endedAt r = some (p.shared.rs.queued messageTypeRstStream r) := by
  cases h with
  | same h => exact .inl h.endedAt
  | list hops h hreq =>
      obtain ⟨ts, hmove, -⟩ := h.move
      exact .inl (by rw [h.shared, hmove.history.1])
  | born text hasBody others hnew hadmitted hquiet hended hseen hstream hgone hbefore hafter =>
      exact .inl (by rw [hended])
  | receive b type flags bin ha hhead hidle hr hq =>
      subst hq
      simp only [Shared.noteFrame, Function.update_self]
      split
      · exact .inr rfl
      · exact .inl rfl
  | remove hr hq =>
      subst hq
      exact .inl rfl
  | dropHandler i ha hget hlists hshared => exact .inl (by rw [hshared]; rfl)
  | dropStream hlive hq =>
      subst hq
      exact .inl rfl

/-- What is known of a request's stream while every failure reaches somebody who resets it. -/
structure Ledger (r : ReqId) (p : SocketPool) : Prop where
  base : Base p
  fresh : Fresh r p
  backed : (resetWindow r p).Backed
  settled : Done r p ∨ Pristine r p
  noted : ∀ n, p.shared.endedAt r = some n → n ≤ p.shared.rs.queued messageTypeRstStream r

theorem ledger_init (r : ReqId) (h : (socketMachine dbg overflowChecks).init p) : Ledger r p := by
  obtain ⟨route, routerSocketId, reallyNeed, now, rfl⟩ := h
  have hlists : lists ⟨.new (.new route routerSocketId reallyNeed now), []⟩ = [[]] := rfl
  have htally : ∀ P, tally P ⟨.new (.new route routerSocketId reallyNeed now), []⟩ = 0 :=
    fun P => rfl
  refine ⟨?_, ?_, ?_, ?_, ?_⟩
  · refine ⟨?_, ?_, ?_, ?_, rfl, fun _ => rfl, fun _ => le_rfl⟩
    · simp [Shared.new]
    · simp [hlists]
    · simp [hlists]
    · simp [hlists]
  · refine ⟨fun _ => htally _, fun hpos => ?_, fun _ => ⟨rfl, ?_, ?_, rfl, rfl, rfl⟩⟩
    · simp [htally] at hpos
    · simp [Shared.new, RouterSocketV3.new]
    · simp [Shared.new, RouterSocketV3.new]
  · exact ⟨by simp [resetWindow, htally], fun h => by cases h⟩
  · refine .inr ⟨?_, ?_, fun hstarted => ?_⟩
    · simp [hlists, Calm]
    · simp [Shared.new, RouterSocketV3.new]
    · simp [Started, Shared.new] at hstarted
  · intro n hn
    cases hn

theorem Ledger.step {a : Label} (h : Ledger r p) (hopen : a.staysOpen = true)
    (hheard : failureHeard p a = true) (hdrop : dropsUnanswered p a = true)
    (hstep : V3.step dbg overflowChecks p a = some q) : Ledger r q := by
  have hfor : StepFor dbg r p a q :=
    stepFor r h.base hopen (dropsAtHeader_of_unanswered hdrop) hstep
  have hwindow := hfor.resetWindow_cases h.base h.fresh
  have hqueued : p.shared.rs.queued messageTypeRstStream r ≤
      q.shared.rs.queued messageTypeRstStream r := by
    obtain hsame | ⟨op, rest, -, hmove⟩ := hwindow
    · exact (congrArg ResetWindow.queued hsame).ge
    · exact hmove.queued_le
  constructor
  · exact h.base.step hopen hstep
  · exact h.fresh.step hfor
  · obtain hsame | ⟨op, rest, -, hmove⟩ := hwindow
    · rw [hsame]
      exact h.backed
    · exact hmove.backed h.backed
  · exact settled_step h.base h.fresh h.backed hheard hdrop hfor h.settled
  · intro n hn
    obtain hsame | hnow := hfor.endedAt_cases
    · exact (h.noted n (hsame ▸ hn)).trans hqueued
    · obtain rfl : _ = n := Option.some.inj (hnow.symm.trans hn)
      exact hqueued

/-- What a task waits for: the response header, the end of the response body, the next chunk of
the request body, or a callback. -/
def waits (x : Shared) : Op → Bool
  | .request r .recvHeader => (x.rs.contexts r).headerPending
  | .request r .awaitStreamEnd => x.bodyStream r != .gone
  | .upload _ .nextChunk => true
  | .upload r (.awaitNotify callback) => !(x.rs.contexts r).resumed.contains callback
  | _ => false

/-- No task of the request is runnable. -/
def quiescent (r : ReqId) (p : SocketPool) : Bool :=
  !p.shared.rs.removals.contains r &&
    (lists p).all fun l => !l.any (Op.mentions r) || l.head?.any (waits p.shared)

/-- An operation that waits cannot be taken, whatever is chosen; only the next chunk of an upload
depends on the client as well. -/
theorem execOp_of_waits {x : Shared} {op : Op} {c : Choice} (h : waits x op = true)
    (hchunk : ∀ r, op ≠ .upload r .nextChunk) : execOp dbg overflowChecks x op c = none := by
  cases op with
  | request r o =>
      cases o <;> simp [waits, RequestContext.headerPending] at h
      · simp [execOp, RequestOp.exec, h]
      · simp [execOp, RequestOp.exec, h]
  | upload r o =>
      cases o <;> simp [waits] at h
      · exact absurd rfl (hchunk r)
      · simp [execOp, Op.run, UploadOp.run, h]
  | _ => cases h

private theorem not_simple_of_waits {x : Shared} {op : Op} (h : waits x op = true) :
    op.simple = false := by
  cases op with
  | request r o => rfl
  | upload r o => cases o <;> simp_all [waits, Op.simple, UploadOp.simple]
  | _ => cases h

private theorem waits_of_quiescent (hbase : Base p) (hquiet : quiescent r p = true) {l : List Op}
    {o : Op}
    (hl : l ∈ lists p) (ho : o ∈ l) (hreq : o.req = some r) : waits p.shared o = true := by
  simp only [quiescent, Bool.and_eq_true, List.all_eq_true, Bool.or_eq_true, Bool.not_eq_true',
    List.any_eq_false] at hquiet
  obtain hnone | hhead := hquiet.2 l hl
  · exact absurd (Op.mentions_iff.mpr hreq) (hnone o ho)
  · cases l with
    | nil => cases ho
    | cons op rest =>
        simp only [List.head?_cons, Option.any_some] at hhead
        obtain rfl := eq_nil_of_not_simple (not_simple_of_waits hhead) (hbase.shape _ hl)
        rwa [List.mem_singleton.mp ho]

theorem tally_of_quiescent (hbase : Base p) (hquiet : quiescent r p = true) {P : Op → Bool}
    (hP : ∀ o, P o = true → o.req = some r) (hwaits : ∀ o, P o = true → waits p.shared o = false) :
    tally P p = 0 := by
  refine tally_eq_zero fun l hl o ho => ?_
  by_contra hPo
  have hPo : P o = true := by simpa using hPo
  have hwait := waits_of_quiescent hbase hquiet hl ho (hP o hPo)
  rw [hwaits o hPo] at hwait
  cases hwait

theorem waits_of_isNotify {x : Shared} {P : NotifyOp → Bool} {o : Op}
    (h : o.isNotify r P = true) : waits x o = false := by
  cases o <;> simp_all [Op.isNotify, waits]

/-- When nothing is left to run for a request whose context is gone, its end is known. -/
theorem Ledger.ended_or_reset (h : Ledger r p) (hr : r ∈ p.shared.admitted)
    (hgone : r ∉ p.shared.rs.contextMap) (hquiet : quiescent r p = true) :
    (p.shared.endedAt r).isSome = true ∨ 0 < p.shared.rs.queued messageTypeRstStream r := by
  have hinserts : tally (Op.inserts r) p = 0 := by
    refine tally_of_quiescent h.base hquiet (fun _ => Op.req_of_isRequest) fun o ho => ?_
    cases o <;> simp [Op.inserts, Op.isRequest] at ho
    rename_i r' o
    cases o <;> simp_all [waits, RequestOp.isInsertCtx]
  have hresets : tally (Op.resets r) p = 0 :=
    tally_of_quiescent h.base hquiet (fun _ => Op.req_of_isNotify) fun _ => waits_of_isNotify
  have hdone : Done r p := by
    obtain hdone | hpristine := h.settled
    · exact hdone
    · exact absurd (hpristine.kept ⟨hr, hinserts⟩) hgone
  obtain hacc | ⟨hwait, herror⟩ := hdone
  · refine (accounted_iff.mp hacc).imp_right fun hpos => ?_
    omega
  · -- a handler that has an error to read is runnable
    obtain ⟨l, hl, o, ho, hrecv⟩ := tally_pos_iff.mp hwait
    have hwaits := waits_of_quiescent h.base hquiet hl ho (Op.req_of_isRequest hrecv)
    cases o <;> simp [Op.awaitsHeader, Op.isRequest] at hrecv
    rename_i r' o
    obtain ⟨rfl, hrecv⟩ := hrecv
    cases o <;> simp [RequestOp.isRecvHeader] at hrecv
    simp only [waits, RequestContext.headerPending, Bool.and_eq_true, Option.isNone_iff_eq_none]
      at hwaits
    simp [RequestContext.errorNext, hwaits.1] at herror

/-- The websocket stays open, a failure reaches a handler that can still hear of it, no handler is
dropped with an error to read, and no two resets of a request overlap. -/
def accountsForEnds (p : SocketPool) (a : Label) : Bool :=
  a.staysOpen && failureHeard p a && dropsUnanswered p a && resetsAlone p a

private theorem single_step {a : Label} (h : Ledger r p) (hopen : a.staysOpen = true)
    (hdrop : dropsUnanswered p a = true) (halone : resetsAlone p a = true)
    (hstep : V3.step dbg overflowChecks p a = some q) (hsingle : (resetWindow r p).Single) :
    (resetWindow r q).Single := by
  have hfor : StepFor dbg r p a q :=
    stepFor r h.base hopen (dropsAtHeader_of_unanswered hdrop) hstep
  obtain hsame | ⟨op, rest, hops, hmove⟩ := hfor.resetWindow_cases h.base h.fresh
  · rw [hsame]
    exact hsingle
  · refine hmove.single hsingle ?_
    rintro errCode msg rfl hsent
    simp only [resetWindow] at hsent ⊢
    simpa [resetsAlone, hops, hsent] using halone

/-- Every stream ends once: when the context of a request is gone and none of its tasks is
runnable, the connector ended the stream and no reset frame was queued after that, or exactly one
was queued. -/
theorem stream_ends_once (dbg : DebugText) (overflowChecks : Bool) {p : SocketPool}
    (hp : (socketMachine dbg overflowChecks).Reachable (fun p a => accountsForEnds p a = true) p)
    (r : ReqId) (hr : r ∈ p.shared.admitted) (hgone : r ∉ p.shared.rs.contextMap)
    (hquiet : quiescent r p = true) :
    p.shared.endedAt r = some (p.shared.rs.queued messageTypeRstStream r) ∨
      p.shared.rs.queued messageTypeRstStream r = 1 := by
  have hinv : Ledger r p ∧ (resetWindow r p).Single := by
    refine hp.invariant (P := fun p => Ledger r p ∧ (resetWindow r p).Single)
      (fun p hp => ⟨ledger_init r hp, ?_⟩) fun p a q ⟨hledger, hsingle⟩ hok hstep => ?_
    · obtain ⟨route, routerSocketId, reallyNeed, now, rfl⟩ := hp
      refine ⟨fun _ => ?_, fun h => by cases h⟩
      exact ⟨Nat.le_of_eq rfl, Nat.zero_le 1⟩
    · simp only [accountsForEnds, Bool.and_eq_true] at hok
      obtain ⟨⟨⟨hopen, hheard⟩, hdrop⟩, halone⟩ := hok
      exact ⟨hledger.step hopen hheard hdrop hstep,
        single_step hledger hopen hdrop halone hstep hsingle⟩
  obtain ⟨hledger, hunset, hset⟩ := hinv
  have hle : p.shared.rs.queued messageTypeRstStream r ≤ 1 := by
    simp only [resetWindow] at hunset hset
    cases hsent : (p.shared.rs.contexts r).isRstStreamSent with
    | true =>
        have h := hset hsent
        omega
    | false =>
        have h := hunset hsent
        omega
  obtain hend | hpos := hledger.ended_or_reset hr hgone hquiet
  · obtain ⟨n, hn⟩ := Option.isSome_iff_exists.mp hend
    have hnoted := hledger.noted n hn
    by_cases hone : p.shared.rs.queued messageTypeRstStream r = 1
    · exact .inr hone
    · left
      rw [hn]
      congr 1
      omega
  · exact .inr (by omega)

/-- Task `i` takes `n` steps that the outside has no say in. -/
def go (i n : Nat) : List Label := List.replicate n (.task i .go)

/-- A listener refuses the request before it is proxied, and the handler resets its stream. -/
def refusedRequest : SocketPool :=
  (socketMachine plainText false).run (fun p a => accountsForEnds p a = true) freshSocket
    (List.flatten [[.request "GET / HTTP/1.1\n\n" false], go 0 3,
      [.task 0 (.answer (some (.new "refused")))], go 0 10, [.remove 1, .remove 1]])

theorem stream_ends_once_refusedRequest :
    (1 ∈ refusedRequest.shared.admitted ∧ 1 ∉ refusedRequest.shared.rs.contextMap ∧
      quiescent 1 refusedRequest = true) ∧
    (refusedRequest.shared.endedAt 1 =
        some (refusedRequest.shared.rs.queued messageTypeRstStream 1) ∨
      refusedRequest.shared.rs.queued messageTypeRstStream 1 = 1) := by
  have hadmitted : 1 ∈ refusedRequest.shared.admitted := by decide +kernel
  have hgone : 1 ∉ refusedRequest.shared.rs.contextMap := by decide +kernel
  have hquiet : quiescent 1 refusedRequest = true := by decide +kernel
  exact ⟨⟨hadmitted, hgone, hquiet⟩, stream_ends_once plainText false
    (Machine.reachable_run _ _ (init_freshSocket false) _) 1 hadmitted hgone hquiet⟩

/-- The target answers early; then the client's upload breaks off. -/
def uploadFailsLate : SocketPool :=
  (socketMachine plainText false).run Machine.anyAction freshSocket
    (List.flatten [[.request "POST / HTTP/1.1\n\n" true], go 0 3, [.task 0 (.answer none)], go 1 6,
      [.receive (headerMessage 1 true false "HTTP/1.1 200 OK\n"), .recv .go, .recv .go, .recv .go,
        .recv .go, .task 0 .go, .task 0 (.answer none), .task 0 (.answer none),
        .task 2 (.bodyError (.new "client went away"))], go 2 7, [.remove 1]])

/-- A HEADER frame that is no text fails; the receive pipe and the handler, which reads the error,
both look at the flag before either sets it. -/
def resetTwice : SocketPool :=
  (socketMachine plainText false).run Machine.anyAction freshSocket
    (List.flatten [[.request "GET / HTTP/1.1\n\n" false], go 0 3, [.task 0 (.answer none)], go 1 6,
      [.task 1 (.answer none), .receive (frame messageTypeHeader endHeaderFlagMask 1 [255])],
      List.replicate 8 (.recv .go), go 0 8, List.replicate 4 (.recv .go), go 0 3,
      [.remove 1, .remove 1, .remove 1, .remove 1]])

/-- The connector is never told in the first run, and told twice in the second. -/
theorem stream_end_miscounted :
    ((socketMachine plainText false).Reachable Machine.anyAction uploadFailsLate ∧
      1 ∈ uploadFailsLate.shared.admitted ∧ 1 ∉ uploadFailsLate.shared.rs.contextMap ∧
      quiescent 1 uploadFailsLate = true ∧ uploadFailsLate.shared.endedAt 1 = none ∧
      uploadFailsLate.shared.rs.queued messageTypeRstStream 1 = 0) ∧
    ((socketMachine plainText false).Reachable Machine.anyAction resetTwice ∧
      1 ∈ resetTwice.shared.admitted ∧ 1 ∉ resetTwice.shared.rs.contextMap ∧
      quiescent 1 resetTwice = true ∧ resetTwice.shared.endedAt 1 = none ∧
      resetTwice.shared.rs.queued messageTypeRstStream 1 = 2) := by
  refine ⟨⟨Machine.reachable_run _ _ (init_freshSocket false) _, ?_⟩,
    ⟨Machine.reachable_run _ _ (init_freshSocket false) _, ?_⟩⟩
  · decide +kernel
  · decide +kernel

end CrankerRouter.V3
