import CrankerRouter.V3.Streams

/-!
# A client that goes away

While the response body is being read a watcher waits for its end, and resets the stream if the
connector has not ended it.  Before that, while the handler waits for the response header, nobody
watches.
-/

namespace CrankerRouter.V3

open Lib

variable {dbg : DebugText} {overflowChecks : Bool} {p q : SocketPool} {r : ReqId}

def RequestOp.isBeforeBody : RequestOp → Bool
  | .insertCtx _ _ | .beforeProxyToTarget _ _ | .recvHeader | .respond _ => true
  | _ => false

def RequestOp.isHandler : RequestOp → Bool
  | .buildBody => true
  | o => o.isBeforeBody

def RequestOp.isWatcher : RequestOp → Bool
  | .awaitStreamEnd | .checkEndStream | .checkIfContextExists => true
  | _ => false

def NotifyOp.isLeaving : NotifyOp → Bool
  | .resetStream _ _ | .spawnRemove => true
  | _ => false

/-- The frame operations up to the store of the end flag. -/
def FrameOp.marksEnd : FrameOp → Bool
  | .handleData flags _ | .handleHeader flags _ => judgeIsStreamEndFromFlags flags
  | .storeEndStream => true
  | _ => false

def Op.handles (r : ReqId) (op : Op) : Bool := op.isRequest r (·.isHandler)

def Op.beforeBody (r : ReqId) (op : Op) : Bool := op.isRequest r (·.isBeforeBody)

def Op.watches (r : ReqId) (op : Op) : Bool := op.isRequest r (·.isWatcher)

def Op.leaves (r : ReqId) (op : Op) : Bool := op.isNotify r (·.isLeaving)

def Op.endsStream (r : ReqId) (op : Op) : Bool := op.isFrame r (·.marksEnd)

private theorem countP_isRequest_eq_zero {l : List Op} {P : RequestOp → Bool}
    (h : ∀ o ∈ l, ∀ r' o', o ≠ .request r' o') : l.countP (Op.isRequest r P) = 0 := by
  rw [List.countP_eq_zero]
  intro o ho
  cases o with
  | request r' o' => exact absurd rfl (h _ ho r' o')
  | _ => simp [Op.isRequest]

private theorem failRequest_ne_request (crex : CrankerRouterException) :
    ∀ o ∈ failRequest r crex, ∀ r' o', o ≠ .request r' o' := by
  simp [failRequest]

private theorem Move.ne_request_of_mem {x y : Shared} {op : Op} {more : List Op} {ts : List Task}
    (hmove : Move dbg x op y more ts) (hreq : op.req = some r) (hop : ∀ r' o, op ≠ .request r' o) :
    ∀ o ∈ more, ∀ r' o', o ≠ .request r' o' := by
  intro o ho
  cases hmove with
  | notify r' o' =>
      obtain ⟨o'', rfl⟩ := NotifyOp.mem_run ho
      simp
  | frame r' o' hframe => obtain ⟨o'', rfl⟩ | ⟨o'', rfl⟩ := hframe.mem_more ho <;> simp
  | upload r' o' hupload => obtain ⟨o'', rfl⟩ | ⟨o'', rfl⟩ := hupload.mem_more ho <;> simp
  | socket o' c hrun => cases hreq
  | checkRemoved text hasBody => cases hreq
  | nextReqId text hasBody hnew => cases hreq
  | _ => exact absurd rfl (hop _ _)

private theorem Move.countP_handler {x y : Shared} {op : Op} {more : List Op} {ts : List Task}
    (hmove : Move dbg x op y more ts) (hreq : op.req = some r) :
    more.countP (Op.handles r) ≤ [op].countP (Op.handles r) ∧
      more.countP (Op.beforeBody r) ≤ [op].countP (Op.beforeBody r) := by
  unfold Op.handles Op.beforeBody
  by_cases hop : ∀ r' o, op ≠ .request r' o
  · have hnone := hmove.ne_request_of_mem hreq hop
    constructor <;> rw [countP_isRequest_eq_zero hnone] <;> exact Nat.zero_le _
  · cases hmove with
    | requestFails r' o crex ho =>
        constructor <;> rw [countP_isRequest_eq_zero (failRequest_ne_request crex)] <;>
          exact Nat.zero_le _
    | errorTaken r' crex hnext =>
        constructor <;> rw [countP_isRequest_eq_zero (failRequest_ne_request crex)] <;>
          exact Nat.zero_le _
    | buildFails r' crex =>
        constructor <;> rw [countP_isRequest_eq_zero (failRequest_ne_request crex)] <;>
          exact Nat.zero_le _
    | notify | frame | upload | socket | checkRemoved | nextReqId => simp at hop
    | _ => simp [Op.isRequest, RequestOp.isHandler, RequestOp.isBeforeBody, List.countP_cons]

private theorem Move.marksEnd_of_mem {x y : Shared} {op o : Op} {more : List Op} {ts : List Task}
    (hmove : Move dbg x op y more ts) (hreq : op.req = some r)
    (hop : op.endsStream r = false) (ho : o ∈ more) : o.endsStream r = false := by
  cases hmove with
  | notify r' o' =>
      obtain ⟨o'', rfl⟩ := NotifyOp.mem_run ho
      rfl
  | frame r' o' hframe =>
      obtain rfl : r' = r := by simpa [Op.req] using hreq
      cases hframe <;> grind -ring -linarith [Op.endsStream, Op.isFrame, FrameOp.marksEnd, closeOpsIf, failFrame]
  | upload r' o' hupload => obtain ⟨o'', rfl⟩ | ⟨o'', rfl⟩ := hupload.mem_more ho <;> rfl
  | socket o' c hrun => cases hreq
  | _ => grind -ring -linarith [Op.endsStream, Op.isFrame, failRequest]

private theorem Move.endFlag_cases {x y : Shared} {op : Op} {more : List Op} {ts : List Task}
    (hmove : Move dbg x op y more ts) (hsocket : op.isSocket = false)
    (h : (y.rs.contexts r).isEndStreamReceivedFromTgt = true) :
    (x.rs.contexts r).isEndStreamReceivedFromTgt = true ∨ op = .frame r .storeEndStream := by
  obtain ⟨-, hquiet⟩ | hspecial := hmove.quiet_or_special r hsocket
  · exact .inl (hquiet.ctx.endStream ▸ h)
  · cases hspecial with
    | storeEndStream => exact .inr rfl
    | insertCtx text hasBody => simp [RouterSocketV3.insertCtx, RequestContext.new] at h
    | storeRstSent => exact .inl (by simpa [RouterSocketV3.storeRstStreamSent] using h)
    | headerTaken item hnext => exact .inl (by simpa [RouterSocketV3.takeHdr] using h)
    | _ => exact .inl h

private theorem Move.bodyStream_cases {x y : Shared} {op : Op} {more : List Op} {ts : List Task}
    (hmove : Move dbg x op y more ts) :
    y.bodyStream r = x.bodyStream r ∨
      (∃ content, op = .request r (.respond content)) ∧ y.bodyStream r = .live ∧
        ts = [⟨.watcher, [.request r .awaitStreamEnd]⟩] ∨
      op = .request r .buildBody ∧ y.bodyStream r = .gone ∧ ∃ crex, more = failRequest r crex := by
  cases hmove with
  | responded r' content =>
      by_cases hr : r = r'
      · subst hr
        exact .inr (.inl ⟨⟨content, rfl⟩, by simp [Shared.setBodyStream], rfl⟩)
      · exact .inl (by simp [Shared.setBodyStream, hr])
  | buildFails r' crex =>
      by_cases hr : r = r'
      · subst hr
        exact .inr (.inr ⟨rfl, by simp [Shared.setBodyStream], crex, rfl⟩)
      · exact .inl (by simp [Shared.setBodyStream, hr])
  | _ => exact .inl rfl

/-- The context of the request is gone or will be. -/
def Leaving (r : ReqId) (p : SocketPool) : Prop :=
  r ∉ p.shared.rs.contextMap ∨ r ∈ p.shared.rs.removals ∨ 0 < tally (Op.leaves r) p

/-- While a response body is read, somebody watches it or the request is on its way out. -/
structure Watched (r : ReqId) (p : SocketPool) : Prop where
  ends : 0 < tally (Op.endsStream r) p → p.shared.endStreamSeen r = true
  endFlag : (p.shared.rs.contexts r).isEndStreamReceivedFromTgt = true →
    p.shared.endStreamSeen r = true
  ended : (p.shared.endedAt r).isSome = true → p.shared.endStreamSeen r = true
  handler : tally (Op.handles r) p ≤ 1
  early : p.shared.bodyStream r ≠ .none → tally (Op.beforeBody r) p = 0
  gone : p.shared.clientGone r = true → p.shared.bodyStream r = .gone
  watch : p.shared.bodyStream r ≠ .none →
    p.shared.endStreamSeen r = true ∨ 0 < tally (Op.watches r) p ∨ Leaving r p

private theorem beforeBody_le_handles (l : List Op) : l.countP (Op.beforeBody r) ≤ l.countP
    (Op.handles r) := by
  refine List.countP_mono_left fun o _ ho => ?_
  cases o with
  | request r' o =>
      simp only [Op.beforeBody, Op.handles, Op.isRequest, Bool.and_eq_true] at ho ⊢
      refine ⟨ho.1, ?_⟩
      cases o <;> simp_all [RequestOp.isHandler, RequestOp.isBeforeBody]
  | _ => simp [Op.beforeBody, Op.isRequest] at ho

section ListStep

variable {op : Op} {rest more : List Op} {spawned others : List (List Op)} {y : Shared}

theorem ListStep.leaving (hbase : Base p) (h : ListStep dbg p q op rest more spawned others y)
    (hinsert : op.inserts r = false) (hleaving : Leaving r p) : Leaving r q := by
  obtain ⟨ts, hmove, -⟩ := h.move
  have hsocket : op.isSocket = false :=
    hbase.noSocket _ (h.mem_before.mpr (.inl rfl)) op (by simp)
  have hleaves := h.tally_eq (P := Op.leaves r) (fun _ _ _ => rfl) fun _ => rfl
  obtain hr | hr | hpos := hleaving
  · left
    rw [h.shared, hmove.mem_contextMap_iff hsocket]
    rintro (hr' | hinsert')
    · exact hr hr'
    · simp [Op.inserts, hinsert'] at hinsert
  · right; left
    rw [h.shared, hmove.mem_removals_iff hsocket]
    exact .inl hr
  · by_cases hop : op.leaves r = true
    · cases op <;> simp [Op.leaves, Op.isNotify] at hop
      rename_i r' o
      obtain ⟨rfl, hop⟩ := hop
      cases o <;> simp [NotifyOp.isLeaving] at hop
      · right; left
        rw [h.shared, hmove.mem_removals_iff hsocket]
        exact .inr rfl
      · -- both branches of a reset end with the removal
        have hmore : 0 < more.countP (Op.leaves r') := by
          cases hmove
          refine List.countP_pos_iff.mpr ⟨.notify r' .spawnRemove, ?_, by
            simp [Op.leaves, NotifyOp.isLeaving]⟩
          simp only [NotifyOp.run]
          split <;> simp
        have hone := h.tally_before (Op.leaves r')
        have hafter := h.tally_after (Op.leaves r')
        exact .inr (.inr (by omega))
    · have hzero : [op].countP (Op.leaves r) = 0 := by simp [hop]
      exact .inr (.inr (by omega))

private theorem ListStep.watch (h : ListStep dbg p q op rest more spawned others y)
    (hwatched : Watched r p) (hop : op.watches r = true) :
    p.shared.endStreamSeen r = true ∨ 0 < tally (Op.watches r) q ∨ Leaving r q := by
  obtain ⟨ts, hmove, -⟩ := h.move
  have hafter := h.tally_after (Op.watches r)
  have hleaves := h.tally_after (Op.leaves r)
  cases op <;> simp [Op.watches, Op.isRequest] at hop
  rename_i r' o
  obtain ⟨rfl, hop⟩ := hop
  cases hmove with
  | streamEnded =>
      have hone : [Op.request r' .checkEndStream].countP (Op.watches r') = 1 := by
        simp [Op.watches, Op.isRequest, RequestOp.isWatcher]
      exact .inr (.inl (by omega))
  | endSeen _ hend => exact .inl (hwatched.endFlag hend)
  | notEnded =>
      have hone : [Op.request r' .checkIfContextExists].countP (Op.watches r') = 1 := by
        simp [Op.watches, Op.isRequest, RequestOp.isWatcher]
      exact .inr (.inl (by omega))
  | ctxFound =>
      have hone : [Op.notify r' (.resetStream 1001 "Going away")].countP (Op.leaves r') = 1 := by
        simp [Op.leaves, NotifyOp.isLeaving]
      exact .inr (.inr (.inr (.inr (by omega))))
  | ctxMissing _ hr => exact .inr (.inr (.inl (by rw [h.shared]; exact hr)))
  | requestFails _ _ _ ho =>
      obtain ⟨_, _, rfl⟩ | ⟨_, rfl⟩ | ⟨rfl, -, -⟩ := ho <;> cases hop
  | _ => cases hop

theorem ListStep.watched (hbase : Base p) (hfresh : Fresh r p)
    (h : ListStep dbg p q op rest more spawned others y) (hreq : op.req = some r)
    (hwatched : Watched r p) : Watched r q := by
  obtain ⟨ts, hmove, hspawned⟩ := h.move_spawned hbase
  have hsocket : op.isSocket = false :=
    hbase.noSocket _ (h.mem_before.mpr (.inl rfl)) op (by simp)
  obtain ⟨hended, hseen, hgone⟩ := hmove.history
  have hseen' : q.shared.endStreamSeen = p.shared.endStreamSeen := by rw [h.shared, hseen]
  obtain ⟨hhandles, hbefore⟩ := hmove.countP_handler hreq
  have hends := h.tally_eq (P := Op.endsStream r) (fun _ _ _ => rfl) fun _ => rfl
  have hhandler := h.tally_eq (P := Op.handles r) (fun _ _ _ => rfl)
    fun r' => by simp [Op.handles, Op.isRequest, RequestOp.isHandler, RequestOp.isBeforeBody]
  have hearly := h.tally_eq (P := Op.beforeBody r) (fun _ _ _ => rfl)
    fun r' => by simp [Op.beforeBody, Op.isRequest, RequestOp.isBeforeBody]
  have hstream := hmove.bodyStream_cases (r := r)
  -- an operation of the handler that is left is the only one
  have halone : [op].countP (Op.handles r) = 1 →
      rest.countP (Op.handles r) + Pool.total (List.countP (Op.handles r)) others = 0 := by
    have hone := hwatched.handler
    rw [h.tally_before] at hone
    omega
  constructor
  · intro hpos
    rw [hseen']
    by_cases hop : op.endsStream r = true
    · exact hwatched.ends (tally_pos_iff.mpr ⟨_, h.mem_before.mpr (.inl rfl), op, by simp, hop⟩)
    · have hmore : more.countP (Op.endsStream r) = 0 := by
        rw [List.countP_eq_zero]
        intro o ho
        simp [hmove.marksEnd_of_mem hreq (by simpa using hop) ho]
      have hzero : [op].countP (Op.endsStream r) = 0 := by simp [hop]
      exact hwatched.ends (by omega)
  · intro hflag
    rw [hseen']
    rw [h.shared] at hflag
    obtain hflag | rfl := hmove.endFlag_cases hsocket hflag
    · exact hwatched.endFlag hflag
    · refine hwatched.ends (tally_pos_iff.mpr
        ⟨_, h.mem_before.mpr (.inl rfl), .frame r .storeEndStream, by simp, ?_⟩)
      simp [Op.endsStream, Op.isFrame, FrameOp.marksEnd]
  · rw [hseen', h.shared, hended]
    exact hwatched.ended
  · have hone := hwatched.handler
    omega
  · intro hbody
    rw [h.shared] at hbody
    have hle : rest.countP (Op.beforeBody r) ≤ rest.countP (Op.handles r) := beforeBody_le_handles rest
    have hle' : Pool.total (List.countP (Op.beforeBody r)) others ≤
        Pool.total (List.countP (Op.handles r)) others :=
      total_le_total fun l _ => beforeBody_le_handles l
    have hafter := h.tally_before (Op.beforeBody r)
    obtain hsame | ⟨⟨content, rfl⟩, -, rfl⟩ | ⟨rfl, -, crex, rfl⟩ := hstream
    · have hzero := hwatched.early (hsame ▸ hbody)
      omega
    · have hrest := halone (by simp [Op.handles, Op.isRequest, RequestOp.isHandler,
        RequestOp.isBeforeBody])
      cases hmove with
      | responded =>
          have hmore : [Op.request r .buildBody].countP (Op.beforeBody r) = 0 := by
            simp [Op.beforeBody, Op.isRequest, RequestOp.isBeforeBody]
          omega
    · have hrest := halone (by simp [Op.handles, Op.isRequest, RequestOp.isHandler])
      have hmore : (failRequest r crex).countP (Op.beforeBody r) = 0 :=
        countP_isRequest_eq_zero (failRequest_ne_request crex)
      omega
  · intro hclient
    rw [h.shared] at hclient ⊢
    have hbody := hwatched.gone (hgone ▸ hclient)
    obtain hsame | ⟨⟨content, rfl⟩, -, -⟩ | ⟨-, hgone', -⟩ := hstream
    · exact hsame.trans hbody
    · have hzero := hwatched.early (by simp [hbody])
      have hone := h.tally_before (Op.beforeBody r)
      have hop : [Op.request r (.respond content)].countP (Op.beforeBody r) = 1 := by
        simp [Op.beforeBody, Op.isRequest, RequestOp.isBeforeBody]
      omega
    · exact hgone'
  · intro hbody
    rw [hseen']
    rw [h.shared] at hbody
    obtain hsame | ⟨⟨content, rfl⟩, -, rfl⟩ | ⟨rfl, -, crex, rfl⟩ := hstream
    · obtain hend | hpos | hleaving := hwatched.watch (hsame ▸ hbody)
      · exact .inl hend
      · by_cases hop : op.watches r = true
        · exact h.watch hwatched hop
        · have hzero : [op].countP (Op.watches r) = 0 := by simp [hop]
          have hbefore := h.tally_before (Op.watches r)
          have hafter := h.tally_after (Op.watches r)
          exact .inr (.inl (by omega))
      · by_cases hinsert : op.inserts r = true
        · obtain ⟨text, hasBody, rfl⟩ : ∃ text hasBody, op = .request r (.insertCtx text hasBody) := by
            cases op <;> simp [Op.inserts, Op.isRequest] at hinsert
            rename_i r' o
            obtain ⟨rfl, ho⟩ := hinsert
            cases o <;> simp_all [RequestOp.isInsertCtx]
          exact absurd ((hsame ▸ hbody)) (by simp [(hfresh.of_insertCtx h).1.bodyStream])
        · exact .inr (.inr (h.leaving hbase (by simpa using hinsert) hleaving))
    · refine .inr (.inl (tally_pos_iff.mpr ⟨[.request r .awaitStreamEnd],
        h.mem_after.mpr (.inr (.inl ?_)), .request r .awaitStreamEnd, by simp, ?_⟩))
      · simp [hspawned]
      · simp [Op.watches, Op.isRequest, RequestOp.isWatcher]
    · refine .inr (.inr (.inr (.inr (tally_pos_iff.mpr ⟨_, h.mem_after.mpr (.inl rfl),
        .notify r (resetAfter crex), by simp [failRequest], ?_⟩))))
      unfold resetAfter
      split <;> simp [Op.leaves, NotifyOp.isLeaving]

end ListStep

/-- The client goes away only while it reads the response body, and the connector does not reset an
open request. -/
def disconnectsInBody (p : SocketPool) : Label → Bool
  | .dropHandler _ => false
  | .receive b =>
      match head? b with
      | some (type, _, r, _) => !(p.shared.rs.contextMap.contains r && type == messageTypeRstStream)
      | none => true
  | _ => true

private theorem dropsUnanswered_of_disconnects {a : Label} (h : disconnectsInBody p a = true) :
    dropsUnanswered p a = true := by
  cases a <;> first | rfl | cases h

private theorem countP_endsStream_frameOps {type flags : UInt8} {bin : Bytes}
    (hpos : 0 < (frameOps type flags r bin).countP (Op.endsStream r)) :
    marksEndStream type flags = true := by
  unfold frameOps at hpos
  split_ifs at hpos with hdata hheader hrst hupdate
  · obtain ⟨o, ho, hends⟩ := List.countP_pos_iff.mp hpos
    obtain rfl := List.mem_singleton.mp ho
    simpa [Op.endsStream, Op.isFrame, FrameOp.marksEnd, marksEndStream, hdata] using hends
  · obtain ⟨o, ho, hends⟩ := List.countP_pos_iff.mp hpos
    obtain rfl := List.mem_singleton.mp ho
    simpa [Op.endsStream, Op.isFrame, FrameOp.marksEnd, marksEndStream, hheader] using hends
  · simp [Op.endsStream, Op.isFrame, FrameOp.marksEnd] at hpos
  · simp [Op.endsStream, Op.isFrame, FrameOp.marksEnd] at hpos
  · simp at hpos

private theorem countP_isRequest_frameOps (type flags : UInt8) (P : RequestOp → Bool)
    (bin : Bytes) :
    (frameOps type flags r bin).countP (Op.isRequest r P) = 0 := by
  obtain h | ⟨o, h⟩ := frameOps_cases type flags r bin <;> simp [h, Op.isRequest]

theorem Watched.receive {type flags : UInt8} {bin : Bytes} (hwatched : Watched r p)
    (hidle : p.shared.recv = []) (htype : type ≠ messageTypeRstStream) :
    Watched r ⟨{ p.shared.noteFrame type flags r with recv := frameOps type flags r bin }, p.tasks⟩ := by
  have hseen : p.shared.endStreamSeen r = true →
      (p.shared.noteFrame type flags r).endStreamSeen r = true := by
    intro h
    simp [Shared.noteFrame, h]
  have hrequest : ∀ P : RequestOp → Bool, tally (Op.isRequest r P)
      ⟨{ p.shared.noteFrame type flags r with recv := frameOps type flags r bin }, p.tasks⟩ =
        tally (Op.isRequest r P) p := by
    intro P
    rw [tally_receive _ hidle, countP_isRequest_frameOps, Nat.add_zero]
  constructor
  · rw [tally_receive _ hidle]
    intro hpos
    by_cases hframe : 0 < (frameOps type flags r bin).countP (Op.endsStream r)
    · simp [Shared.noteFrame, countP_endsStream_frameOps hframe]
    · exact hseen (hwatched.ends (by omega))
  · exact fun hflag => hseen (hwatched.endFlag hflag)
  · intro hended
    cases hmark : marksEndStream type flags with
    | true => simp [Shared.noteFrame, hmark]
    | false =>
        refine hseen (hwatched.ended ?_)
        simpa [Shared.noteFrame, hmark, htype] using hended
  · exact (hrequest _).trans_le hwatched.handler
  · exact fun hbody => (hrequest _).trans (hwatched.early hbody)
  · exact hwatched.gone
  · intro hbody
    obtain hend | hpos | hr | hr | hpos := hwatched.watch hbody
    · exact .inl (hseen hend)
    · exact .inr (.inl (hpos.trans_eq (hrequest _).symm))
    · exact .inr (.inr (.inl hr))
    · exact .inr (.inr (.inr (.inl hr)))
    · refine .inr (.inr (.inr (.inr ?_)))
      rw [tally_receive _ hidle]
      omega

theorem Watched.of_eq (hwatched : Watched r p)
    (htally : ∀ P : Op → Bool, (∀ o, P o = true → o.req = some r) → tally P q = tally P p)
    (hquiet : Quiet r p.shared.rs q.shared.rs) (hended : q.shared.endedAt r = p.shared.endedAt r)
    (hseen : q.shared.endStreamSeen r = p.shared.endStreamSeen r)
    (hbody : q.shared.bodyStream r = p.shared.bodyStream r)
    (hgone : q.shared.clientGone r = p.shared.clientGone r) : Watched r q := by
  constructor
  · rw [htally (Op.endsStream r) fun _ => Op.req_of_isFrame, hseen]
    exact hwatched.ends
  · rw [hquiet.ctx.endStream, hseen]
    exact hwatched.endFlag
  · rw [hended, hseen]
    exact hwatched.ended
  · rw [htally (Op.handles r) fun _ => Op.req_of_isRequest]
    exact hwatched.handler
  · rw [hbody, htally (Op.beforeBody r) fun _ => Op.req_of_isRequest]
    exact hwatched.early
  · rw [hgone, hbody]
    exact hwatched.gone
  · unfold Leaving
    rw [hbody, hseen, htally (Op.watches r) fun _ => Op.req_of_isRequest,
      htally (Op.leaves r) fun _ => Op.req_of_isNotify, hquiet.contextMap, hquiet.mem_removals]
    exact hwatched.watch

theorem Watched.step {a : Label} (hbase : Base p) (hfresh : Fresh r p)
    (hbody : disconnectsInBody p a = true) (h : StepFor dbg r p a q)
    (hwatched : Watched r p) : Watched r q := by
  cases h with
  | same h =>
      exact hwatched.of_eq h.tally h.quiet h.endedAt h.endStreamSeen h.bodyStream h.clientGone
  | list hops h hreq => exact h.watched hbase hfresh hreq hwatched
  | born text hasBody others hnew hadmitted hquiet hended hseen hstream hgone hbefore hafter =>
      have hblank := hfresh.blank fun hstarted => hnew hstarted.1
      have hzero := hfresh.unknown hnew
      have hbody : q.shared.bodyStream r = .none := by rw [hstream, hblank.bodyStream]
      have hone : tally (Op.handles r) q ≤ 1 := by
        have hle : tally (Op.handles r) p ≤ tally (Op.mentions r) p :=
          tally_mono fun o ho => Op.mentions_iff.mpr (Op.req_of_isRequest ho)
        have hcount : [Op.request r (.insertCtx text hasBody)].countP (Op.handles r) ≤ 1 :=
          List.countP_le_length
        rw [tally_of_perm hbefore, Pool.total_cons] at hle
        rw [tally_of_perm hafter, Pool.total_cons]
        omega
      refine ⟨?_, ?_, ?_, hone, fun h => absurd hbody h, fun h => ?_, fun h => absurd hbody h⟩
      · rw [hseen, tally_of_perm hafter]
        exact fun hpos => hwatched.ends (by rwa [tally_of_perm hbefore])
      · rw [hquiet.ctx.endStream, hseen]
        exact hwatched.endFlag
      · rw [hended, hseen]
        exact hwatched.ended
      · rw [hgone, hblank.clientGone] at h
        cases h
  | receive b type flags bin ha hhead hidle hr hq =>
      subst ha
      subst hq
      refine hwatched.receive hidle ?_
      simpa [disconnectsInBody, hhead, hr] using hbody
  | remove hr hq =>
      subst hq
      refine ⟨hwatched.ends, hwatched.endFlag, hwatched.ended, hwatched.handler, hwatched.early,
        hwatched.gone, fun _ => .inr (.inr (.inl ?_))⟩
      simp [RouterSocketV3.removeReqCtx]
  | dropHandler i ha hget hlists hshared =>
      subst ha
      cases hbody
  | dropStream hlive hq =>
      subst hq
      have hstream : p.shared.bodyStream r ≠ .none := by simp [hlive]
      exact ⟨hwatched.ends, hwatched.endFlag, hwatched.ended, hwatched.handler,
        fun _ => hwatched.early hstream, fun _ => by simp [Shared.setBodyStream],
        fun _ => hwatched.watch hstream⟩

private theorem watched_init (r : ReqId) (h : (socketMachine dbg overflowChecks).init p) :
    Watched r p := by
  obtain ⟨route, routerSocketId, reallyNeed, now, rfl⟩ := h
  refine ⟨fun h => ?_, fun h => ?_, fun h => ?_, Nat.zero_le 1, fun _ => rfl, fun h => ?_, fun h => ?_⟩
  · exact absurd h (lt_irrefl 0)
  · cases h
  · cases h
  · cases h
  · exact absurd rfl h

/-- The websocket stays open, a failure reaches a handler that can still hear of it, and the client
goes away only while it reads the response body. -/
def watchesClients (p : SocketPool) (a : Label) : Bool :=
  a.staysOpen && failureHeard p a && disconnectsInBody p a

/-- When the client of a request went away and none of its tasks is runnable, then without a frame
with END_STREAM the context is gone and a reset frame was queued. -/
theorem disconnect_cleans_up (dbg : DebugText) (overflowChecks : Bool) {p : SocketPool}
    (hp : (socketMachine dbg overflowChecks).Reachable (fun p a => watchesClients p a = true) p)
    (r : ReqId) (hclient : p.shared.clientGone r = true) (hquiet : quiescent r p = true)
    (hend : p.shared.endStreamSeen r = false) :
    r ∉ p.shared.rs.contextMap ∧ 0 < p.shared.rs.queued messageTypeRstStream r := by
  have hinv : Ledger r p ∧ Watched r p := by
    refine hp.invariant (P := fun p => Ledger r p ∧ Watched r p)
      (fun p hp => ⟨ledger_init r hp, watched_init r hp⟩) fun p a q ⟨hledger, hwatched⟩ hok hstep => ?_
    simp only [watchesClients, Bool.and_eq_true] at hok
    obtain ⟨⟨hopen, hheard⟩, hbody⟩ := hok
    have hdrop := dropsUnanswered_of_disconnects hbody
    have hfor : StepFor dbg r p a q :=
      stepFor r hledger.base hopen (dropsAtHeader_of_unanswered hdrop) hstep
    exact ⟨hledger.step hopen hheard hdrop hstep,
      hwatched.step hledger.base hledger.fresh hbody hfor⟩
  obtain ⟨hledger, hwatched⟩ := hinv
  have hgone := hwatched.gone hclient
  have hwatches : tally (Op.watches r) p = 0 := by
    refine tally_of_quiescent hledger.base hquiet (fun _ => Op.req_of_isRequest) fun o ho => ?_
    cases o <;> simp [Op.watches, Op.isRequest] at ho
    rename_i r' o
    obtain ⟨rfl, ho⟩ := ho
    cases o <;> simp_all [waits, RequestOp.isWatcher]
  have hleaves : tally (Op.leaves r) p = 0 :=
    tally_of_quiescent hledger.base hquiet (fun _ => Op.req_of_isNotify) fun _ => waits_of_isNotify
  have hremovals : r ∉ p.shared.rs.removals := by
    simp only [quiescent, Bool.and_eq_true, Bool.not_eq_true'] at hquiet
    simpa using hquiet.1
  have hleft : r ∉ p.shared.rs.contextMap := by
    obtain hseen | hpos | hr | hr | hpos := hwatched.watch (by simp [hgone])
    · simp [hend] at hseen
    · omega
    · exact hr
    · exact absurd hr hremovals
    · omega
  have hstarted : Started r p := by
    by_contra hnot
    simp [(hledger.fresh.blank hnot).clientGone] at hclient
  refine ⟨hleft, ?_⟩
  obtain hended | hpos := hledger.ended_or_reset hstarted.1 hleft hquiet
  · simp [hwatched.ended hended] at hend
  · exact hpos

/-- A request without body, up to its response header. -/
def proxied : List Label :=
  List.flatten [[.request "GET / HTTP/1.1\n\n" false], go 0 3, [.task 0 (.answer none)], go 1 6,
    [.task 1 (.answer none)]]

/-- The client leaves while it reads the body; the watcher resets the stream. -/
def leavesInBody : SocketPool :=
  (socketMachine plainText false).run (fun p a => watchesClients p a = true) freshSocket
    (List.flatten [proxied, [.receive (headerMessage 1 true false "HTTP/1.1 200 OK\n")],
      List.replicate 4 (.recv .go),
      [.task 0 .go, .task 0 (.answer none), .task 0 (.answer none), .dropStream 1], go 1 7,
      [.remove 1]])

theorem disconnect_cleans_up_leavesInBody :
    (leavesInBody.shared.clientGone 1 = true ∧ quiescent 1 leavesInBody = true ∧
      leavesInBody.shared.endStreamSeen 1 = false) ∧
    1 ∉ leavesInBody.shared.rs.contextMap ∧
    0 < leavesInBody.shared.rs.queued messageTypeRstStream 1 := by
  have hclient : leavesInBody.shared.clientGone 1 = true := by decide +kernel
  have hquiet : quiescent 1 leavesInBody = true := by decide +kernel
  have hend : leavesInBody.shared.endStreamSeen 1 = false := by decide +kernel
  exact ⟨⟨hclient, hquiet, hend⟩, disconnect_cleans_up plainText false
    (Machine.reachable_run _ _ (init_freshSocket false) _) 1 hclient hquiet hend⟩

/-- The client leaves before the response header; then the connector answers. -/
def leavesBeforeHeader : SocketPool :=
  (socketMachine plainText false).run Machine.anyAction freshSocket
    (List.flatten [proxied,
      [.dropHandler 0, .receive (headerMessage 1 true false "HTTP/1.1 200 OK\n")],
      List.replicate 4 (.recv .go), [.receive (dataMessages 1 false (some [104, 105]))],
      List.replicate 5 (.recv .go), [.recv (.answer none)]])

/-- Nobody resets the stream or removes the context, and the response piles up. -/
theorem disconnect_before_header_leaks :
    (socketMachine plainText false).Reachable Machine.anyAction leavesBeforeHeader ∧
      leavesBeforeHeader.shared.clientGone 1 = true ∧ quiescent 1 leavesBeforeHeader = true ∧
      leavesBeforeHeader.shared.endStreamSeen 1 = false ∧
      1 ∈ leavesBeforeHeader.shared.rs.contextMap ∧
      leavesBeforeHeader.shared.rs.queued messageTypeRstStream 1 = 0 ∧
      (leavesBeforeHeader.shared.rs.contexts 1).tgtResBdy.sent.length = 1 := by
  refine ⟨Machine.reachable_run _ _ (init_freshSocket false) _, ?_⟩
  decide +kernel

end CrankerRouter.V3
