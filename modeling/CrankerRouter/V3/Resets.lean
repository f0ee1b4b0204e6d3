import CrankerRouter.V3.Requests

/-!
# Resets of a stream

The router resets a stream in three steps: it looks at a flag, queues an RST_STREAM frame and sets
the flag.  Tasks that do so at the same time may both find the flag unset.
-/

namespace CrankerRouter.V3

open Lib

variable {dbg : DebugText} {overflowChecks : Bool} {p q : SocketPool} {r : ReqId}

/-- The operation is about to queue a reset frame of the request. -/
def Op.queuesRst (r : ReqId) (op : Op) : Bool := op.isNotify r (·.isQueueRst)

/-- The operation is about to set the flag of the request. -/
def Op.storesRst (r : ReqId) (op : Op) : Bool := op.isNotify r (·.isStoreRstSent)

/-- The operation resets the stream of the request, or is about to queue the frame. -/
def Op.resets (r : ReqId) (op : Op) : Bool := op.isNotify r (·.isReset)

/-- The handler of the request waits for its response header. -/
def Op.awaitsHeader (r : ReqId) (op : Op) : Bool := op.isRequest r (·.isRecvHeader)

/-- The progress of the resets of a request: frames queued, frames about to be queued, flags about
to be set, and the flag. -/
structure ResetWindow where
  queued : Nat
  queueing : Nat
  storing : Nat
  sent : Bool
  deriving DecidableEq

def resetWindow (r : ReqId) (p : SocketPool) : ResetWindow where
  queued := p.shared.rs.queued messageTypeRstStream r
  queueing := tally (Op.queuesRst r) p
  storing := tally (Op.storesRst r) p
  sent := (p.shared.rs.contexts r).isRstStreamSent

/-- What an operation of the request does to its resets. -/
inductive WindowMove (r : ReqId) (w : ResetWindow) : Op → ResetWindow → Prop
  | same {op : Op} (hop : op.resets r = true → w.sent = true) :
      WindowMove r w op w
  | start (errCode : BitVec 32) (msg : String) (hsent : w.sent = false) :
      WindowMove r w (.notify r (.resetStream errCode msg))
        { w with queueing := w.queueing + 1, storing := w.storing + 1 }
  | queue (errCode : BitVec 32) (msg : String) (n : Nat) (hn : w.queueing = n + 1) :
      WindowMove r w (.notify r (.queueRst errCode msg)) { w with queued := w.queued + 1, queueing := n }
  | store (n : Nat) (hn : w.storing = n + 1) :
      WindowMove r w (.notify r .storeRstSent) { w with storing := n, sent := true }
  | insert (text : String) (hasBody : Bool) (hqueued : w.queued = 0) :
      WindowMove r w (.request r (.insertCtx text hasBody)) ⟨0, 0, 0, false⟩

private theorem resetWindow_eq {w : ResetWindow}
    (hqueued : p.shared.rs.queued messageTypeRstStream r = w.queued)
    (hqueueing : tally (Op.queuesRst r) p = w.queueing)
    (hstoring : tally (Op.storesRst r) p = w.storing)
    (hsent : (p.shared.rs.contexts r).isRstStreamSent = w.sent) : resetWindow r p = w := by
  simp only [resetWindow, hqueued, hqueueing, hstoring, hsent]

private theorem queued_sendData_rst {rs : RouterSocketV3} (hopen : rs.wssSendTask.closed = false)
    (errCode : BitVec 32) (msg : String) :
    (rs.sendData (.binary (rstMessage r errCode msg))).queued messageTypeRstStream r =
      rs.queued messageTypeRstStream r + 1 := by
  simp [RouterSocketV3.queued, Chan.send_sent_of_open hopen, List.countP_append, rstMessage]

section ListStep

variable {op : Op} {rest more : List Op} {spawned others : List (List Op)} {y : Shared}

theorem ListStep.tally_eq (h : ListStep dbg p q op rest more spawned others y) {P : Op → Bool}
    (hupload : ∀ r text hasBody, P (.upload r (.storeCanSend text hasBody)) = false)
    (hwatch : ∀ r, P (.request r .awaitStreamEnd) = false) :
    tally P q + [op].countP P = tally P p + more.countP P := by
  have hspawned : Pool.total (List.countP P) spawned = 0 := by
    refine Pool.total_eq_zero fun l hl => ?_
    obtain ⟨r', text, hasBody, rfl⟩ | ⟨r', rfl⟩ := h.mem_spawned hl
    · simp [hupload]
    · simp [hwatch]
  have hbefore := h.tally_before P
  have hafter := h.tally_after P
  omega

private theorem Move.countP_window {x : Shared} {ts : List Task} (hmove : Move dbg x op y more ts)
    (hsocket : op.isSocket = false) (hop : ∀ errCode msg, op ≠ .notify r (.resetStream errCode msg)) :
    more.countP (Op.queuesRst r) = 0 ∧ more.countP (Op.storesRst r) = 0 := by
  constructor <;> rw [List.countP_eq_zero] <;> intro o ho <;>
    have hzero := hmove.window_of_mem hsocket hop ho <;>
    cases o <;> simp_all [Op.queuesRst, Op.storesRst, Op.isNotify]

private theorem NotifyOp.countP_resetStream {rs : RouterSocketV3}
    (hopen : (rs.contexts r).state = .opened)
    (errCode : BitVec 32) (msg : String) :
    let more := ((NotifyOp.resetStream errCode msg).run rs r).2
    let n := if (rs.contexts r).isRstStreamSent then 0 else 1
    more.countP (Op.queuesRst r) = n ∧ more.countP (Op.storesRst r) = n := by
  cases hflag : (rs.contexts r).isRstStreamSent <;>
    simp [NotifyOp.run, hflag, hopen, StreamState.isCompleted, Op.queuesRst, Op.storesRst,
      Op.isNotify, NotifyOp.isQueueRst, NotifyOp.isStoreRstSent]

/-- The resets of the request advance by one part at a time. -/
theorem ListStep.windowMove (hbase : Base p) (hfresh : Fresh r p)
    (h : ListStep dbg p q op rest more spawned others y) (hreq : op.req = some r) :
    WindowMove r (resetWindow r p) op (resetWindow r q) := by
  obtain ⟨ts, hmove, -⟩ := h.move
  have hsocket : op.isSocket = false :=
    hbase.noSocket _ (h.mem_before.mpr (.inl rfl)) op (by simp)
  have hrs : q.shared.rs = y.rs := by rw [h.shared]
  have hqueueing := h.tally_eq (P := Op.queuesRst r) (fun _ _ _ => rfl) fun _ => rfl
  have hstoring := h.tally_eq (P := Op.storesRst r) (fun _ _ _ => rfl) fun _ => rfl
  by_cases hreset : ∃ errCode msg, op = .notify r (.resetStream errCode msg)
  · obtain ⟨errCode, msg, rfl⟩ := hreset
    have hop : [Op.notify r (.resetStream errCode msg)].countP (Op.queuesRst r) = 0 ∧
        [Op.notify r (.resetStream errCode msg)].countP (Op.storesRst r) = 0 := by
      simp [Op.queuesRst, Op.storesRst, NotifyOp.isQueueRst, NotifyOp.isStoreRstSent]
    cases hmove with
    | notify =>
        obtain ⟨hmore, hmore'⟩ := NotifyOp.countP_resetStream (hbase.opened r) errCode msg
        cases hflag : (p.shared.rs.contexts r).isRstStreamSent with
        | true =>
            simp only [hflag, if_true] at hmore hmore'
            have hw : resetWindow r q = resetWindow r p :=
              resetWindow_eq (by rw [hrs]; rfl) (by simp only [resetWindow]; omega)
                (by simp only [resetWindow]; omega) (by rw [hrs]; rfl)
            rw [hw]
            exact .same fun _ => hflag
        | false =>
            simp only [hflag, Bool.false_eq_true, if_false] at hmore hmore'
            have hw : resetWindow r q = { resetWindow r p with
                queueing := (resetWindow r p).queueing + 1
                storing := (resetWindow r p).storing + 1 } :=
              resetWindow_eq (by rw [hrs]; rfl) (by simp only [resetWindow]; omega)
                (by simp only [resetWindow]; omega) (by rw [hrs]; rfl)
            rw [hw]
            exact .start errCode msg hflag
  · have hop : ∀ errCode msg, op ≠ .notify r (.resetStream errCode msg) :=
      fun errCode msg h => hreset ⟨errCode, msg, h⟩
    obtain ⟨hmore, hmore'⟩ := hmove.countP_window hsocket hop
    -- every other operation queues a frame, sets the flag, starts the request or does neither
    have hsame : [op].countP (Op.queuesRst r) = 0 → [op].countP (Op.storesRst r) = 0 →
        q.shared.rs.queued messageTypeRstStream r = p.shared.rs.queued messageTypeRstStream r →
        (q.shared.rs.contexts r).isRstStreamSent = (p.shared.rs.contexts r).isRstStreamSent →
        WindowMove r (resetWindow r p) op (resetWindow r q) := by
      intro hcount hcount' hqueued hsent
      have hw : resetWindow r q = resetWindow r p :=
        resetWindow_eq hqueued (by simp only [resetWindow]; omega)
          (by simp only [resetWindow]; omega) hsent
      rw [hw]
      refine .same fun hresets => ?_
      cases op <;> simp [Op.resets, Op.isNotify] at hresets
      rename_i o
      obtain ⟨rfl, hresets⟩ := hresets
      cases o <;> simp_all [NotifyOp.isReset, Op.queuesRst, NotifyOp.isQueueRst]
    obtain ⟨hspecial, hquiet⟩ | hspecial := hmove.quiet_or_special r hsocket
    · refine hsame ?_ ?_ (by rw [hrs, hquiet.queued]) (by rw [hrs, hquiet.ctx.flag])
      · cases op <;> simp_all [Op.isSpecial, Op.isNotify, Op.queuesRst]
      · cases op <;> simp_all [Op.isSpecial, Op.isNotify, Op.storesRst]
    · cases hspecial with
      | spawnRemove =>
          exact hsame (by simp [Op.queuesRst, NotifyOp.isQueueRst])
            (by simp [Op.storesRst, NotifyOp.isStoreRstSent]) (by rw [hrs]; rfl) (by rw [hrs]; rfl)
      | queueRst errCode msg =>
          have hcount : [Op.notify r (.queueRst errCode msg)].countP (Op.queuesRst r) = 1 ∧
              [Op.notify r (.queueRst errCode msg)].countP (Op.storesRst r) = 0 := by
            simp [Op.queuesRst, Op.storesRst, NotifyOp.isQueueRst, NotifyOp.isStoreRstSent]
          have hw : resetWindow r q = { resetWindow r p with
              queued := (resetWindow r p).queued + 1
              queueing := tally (Op.queuesRst r) q } :=
            resetWindow_eq (by rw [hrs]; exact queued_sendData_rst hbase.queueOpen errCode msg) rfl
              (by simp only [resetWindow]; omega) (by rw [hrs]; rfl)
          rw [hw]
          exact .queue errCode msg _ (by simp only [resetWindow]; omega)
      | storeRstSent =>
          have hcount : [Op.notify r .storeRstSent].countP (Op.queuesRst r) = 0 ∧
              [Op.notify r .storeRstSent].countP (Op.storesRst r) = 1 := by
            simp [Op.queuesRst, Op.storesRst, NotifyOp.isQueueRst, NotifyOp.isStoreRstSent]
          have hw : resetWindow r q = { resetWindow r p with
              storing := tally (Op.storesRst r) q, sent := true } :=
            resetWindow_eq (by rw [hrs]; rfl) (by simp only [resetWindow]; omega) rfl
              (by rw [hrs]; simp [RouterSocketV3.storeRstStreamSent])
          rw [hw]
          exact .store _ (by simp only [resetWindow]; omega)
      | insertCtx text hasBody =>
          obtain ⟨hblank, hzero⟩ := hfresh.of_insertCtx h
          have hqueueing' := hzero (Op.queuesRst r) (fun _ => Op.req_of_isNotify) rfl
          have hstoring' := hzero (Op.storesRst r) (fun _ => Op.req_of_isNotify) rfl
          have hw : resetWindow r q = ⟨0, 0, 0, false⟩ :=
            resetWindow_eq (by rw [hrs]; exact hblank.queued) (by simp only; omega)
              (by simp only; omega) (by rw [hrs]; simp [RouterSocketV3.insertCtx, RequestContext.new])
          rw [hw]
          exact .insert text hasBody hblank.queued
      | headerTaken item hnext =>
          exact hsame rfl rfl (by rw [hrs]; rfl) (by rw [hrs]; simp [RouterSocketV3.takeHdr])
      | headerClosed => exact hsame rfl rfl (by rw [hrs]) (by rw [hrs])
      | storeEndStream =>
          exact hsame rfl rfl (by rw [hrs]; rfl)
            (by rw [hrs]; simp [RouterSocketV3.storeEndStreamReceived])

end ListStep

private theorem countP_isNotify_frameOps (type flags : UInt8) (P : NotifyOp → Bool) (bin : Bytes) :
    (frameOps type flags r bin).countP (Op.isNotify r P) = 0 := by
  obtain h | ⟨o, h⟩ := frameOps_cases type flags r bin <;> simp [h, Op.isNotify]

theorem tally_receive {type flags : UInt8} {bin : Bytes} (P : Op → Bool)
    (hidle : p.shared.recv = []) :
    tally P ⟨{ p.shared.noteFrame type flags r with recv := frameOps type flags r bin }, p.tasks⟩ =
      tally P p + (frameOps type flags r bin).countP P := by
  simp [tally, lists, hidle, Nat.add_comm]

theorem StepFor.resetWindow_cases {a : Label} (hbase : Base p) (hfresh : Fresh r p)
    (h : StepFor dbg r p a q) :
    resetWindow r q = resetWindow r p ∨
      ∃ op rest, a.ops p = op :: rest ∧ WindowMove r (resetWindow r p) op (resetWindow r q) := by
  cases h with
  | same h =>
      refine .inl (resetWindow_eq h.quiet.queued ?_ ?_ h.quiet.ctx.flag)
      · exact h.tally _ fun _ => Op.req_of_isNotify
      · exact h.tally _ fun _ => Op.req_of_isNotify
  | list hops h hreq => exact .inr ⟨_, _, hops, h.windowMove hbase hfresh hreq⟩
  | born text hasBody others hnew hadmitted hquiet hended hseen hstream hgone hbefore hafter =>
      refine .inl (resetWindow_eq hquiet.queued ?_ ?_ hquiet.ctx.flag)
      · simp only [resetWindow, tally_of_perm hbefore, tally_of_perm hafter]
        rfl
      · simp only [resetWindow, tally_of_perm hbefore, tally_of_perm hafter]
        rfl
  | receive b type flags bin ha hhead hidle hr hq =>
      subst hq
      refine .inl (resetWindow_eq rfl ?_ ?_ rfl)
      · rw [tally_receive _ hidle]
        exact congrArg _ (countP_isNotify_frameOps type flags _ bin)
      · rw [tally_receive _ hidle]
        exact congrArg _ (countP_isNotify_frameOps type flags _ bin)
  | remove hr hq =>
      subst hq
      exact .inl rfl
  | dropHandler i ha hget hlists hshared =>
      refine .inl (resetWindow_eq (by rw [hshared]; rfl) ?_ ?_ (by rw [hshared]; rfl))
      · exact ((tally_dropped hlists).trans (Nat.zero_add _)).symm
      · exact ((tally_dropped hlists).trans (Nat.zero_add _)).symm
  | dropStream hlive hq =>
      subst hq
      exact .inl rfl

/-- A flag is set only after its frame. -/
def ResetWindow.Backed (w : ResetWindow) : Prop :=
  w.storing ≤ w.queued + w.queueing ∧ (w.sent = true → 1 ≤ w.queued + w.queueing)

/-- At most one frame is queued or about to be. -/
def ResetWindow.Single (w : ResetWindow) : Prop :=
  (w.sent = false → w.queued + w.queueing ≤ w.storing ∧ w.storing ≤ 1) ∧
    (w.sent = true → w.queued + w.queueing ≤ 1 ∧ w.storing = 0)

theorem WindowMove.backed {w w' : ResetWindow} {op : Op} (h : WindowMove r w op w')
    (hw : w.Backed) : w'.Backed := by
  obtain ⟨hstoring, hsent⟩ := hw
  cases h with
  | same hop => exact ⟨hstoring, hsent⟩
  | start errCode msg hflag =>
      exact ⟨by simp only; omega, fun h => absurd h (by simp [hflag])⟩
  | queue errCode msg n hn => exact ⟨by simp only; omega, fun h => by simp only; omega⟩
  | store n hn => exact ⟨by simp only; omega, fun _ => by simp only; omega⟩
  | insert text hasBody hqueued => simp [ResetWindow.Backed]

theorem WindowMove.single {w w' : ResetWindow} {op : Op} (h : WindowMove r w op w')
    (hw : w.Single)
    (halone : ∀ errCode msg, op = .notify r (.resetStream errCode msg) → w.sent = false →
      w.storing = 0) : w'.Single := by
  obtain ⟨hunset, hset⟩ := hw
  cases h with
  | same hop => exact ⟨hunset, hset⟩
  | start errCode msg hflag =>
      have hzero := halone errCode msg rfl hflag
      have hle := hunset hflag
      exact ⟨fun _ => ⟨by simp only; omega, by simp only; omega⟩, fun h => absurd h (by simp [hflag])⟩
  | queue errCode msg n hn =>
      refine ⟨fun h => ?_, fun h => ?_⟩
      · have hle := hunset h
        exact ⟨by simp only; omega, hle.2⟩
      · have hle := hset h
        exact ⟨by simp only; omega, hle.2⟩
  | store n hn =>
      refine ⟨fun h => ?_, fun _ => ?_⟩
      · cases h
      cases hflag : w.sent with
      | false =>
          have hle := hunset hflag
          exact ⟨by simp only; omega, by simp only; omega⟩
      | true =>
          have hzero := (hset hflag).2
          omega
  | insert text hasBody hqueued => simp [ResetWindow.Single]

theorem WindowMove.queued_le {w w' : ResetWindow} {op : Op} (h : WindowMove r w op w') :
    w.queued ≤ w'.queued := by
  cases h <;> simp_all

end CrankerRouter.V3
