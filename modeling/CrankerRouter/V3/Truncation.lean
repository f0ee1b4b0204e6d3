import CrankerRouter.Lib.Ending
import CrankerRouter.V3.ByteCounts

/-!
# The end of a response on a V3 socket

The body channel of a request is closed in `notify_client_request_close` only, which the receive
pipe calls at the end of a stream and for every open request when the websocket is closed.
-/

namespace CrankerRouter.V3

open Lib

def NotifyOp.endAct : NotifyOp → Option EndAct
  | .sendBdyErr _ => some .fails
  | .notifyClose code _ | .checkClosed code _ => if code = 1000 then some .closes else none
  | .closeBdy => some .closes
  | _ => none

/-- The operation comes from a frame with END_STREAM. -/
def FrameOp.isLast : FrameOp → Bool
  | .handleData flags _ | .handleHeader flags _ | .appendHeader flags _ =>
      judgeIsStreamEndFromFlags flags
  | .sendBody isEnd _ | .sendHeader isEnd _ => isEnd
  | _ => false

def FrameOp.isBody : FrameOp → Bool
  | .handleData _ _ | .sendBody _ _ => true
  | _ => false

def FrameOp.endAct (o : FrameOp) : Option EndAct :=
  if o.isLast then some .ends else if o.isBody then some .delivers else none

/-- What an operation does to the body channel of a request, or what follows from it does. -/
def Op.endAct (r : ReqId) : Op → Option EndAct
  | .notify r' o => if r' = r then o.endAct else none
  | .frame r' o => if r' = r then o.endAct else none
  | _ => none

/-- The receive pipe may close the body channel where it is going to. -/
def Shared.Closable (r : ReqId) (x : Shared) (l : List Op) : Prop :=
  Lib.Closable (Op.endAct r) (x.endStreamSeen r = true)
    (Settled (x.endStreamSeen r = true) (x.rs.contexts r).tgtResBdy) l

variable {dbg : DebugText} {overflowChecks : Bool} {r : ReqId} {rs rs' : RouterSocketV3}
  {ended : Prop} {rest more : List Op}

@[simp] theorem endAct_notify (o : NotifyOp) : Op.endAct r (.notify r o) = o.endAct := if_pos rfl

@[simp] theorem endAct_frame (o : FrameOp) : Op.endAct r (.frame r o) = o.endAct := if_pos rfl

private theorem endAct_of_req {o : Op} (h : o.req ≠ some r) : o.endAct r = none := by
  cases o with
  | notify r' o' | frame r' o' =>
      refine if_neg ?_
      rintro rfl
      exact h rfl
  | _ => rfl

private theorem closable_errOps {ok : Prop} (ex : CrankerRouterException) :
    Lib.Closable (Op.endAct r) ended ok (errOps r ex ++ rest) ↔
      Lib.Closable (Op.endAct r) ended True rest := by
  simp [errOps, Lib.Closable, NotifyOp.endAct]

/-- A close with another code puts an error on the channel before it closes it. -/
theorem NotifyOp.closable (o : NotifyOp)
    (h : Lib.Closable (Op.endAct r) ended (Settled ended (rs.contexts r).tgtResBdy)
      (.notify r o :: rest)) :
    Lib.Closable (Op.endAct r) ended (Settled ended ((o.run rs r).1.contexts r).tgtResBdy)
      ((o.run rs r).2 ++ rest) := by
  cases o with
  | sendBdyErr ex =>
      rw [closable_fails (endAct_notify _)] at h
      refine h.mono id fun _ => ?_
      simp only [NotifyOp.run, RouterSocketV3.sendBdy, rs.modify_contexts_self]
      exact .send_error _ _ ex
  | decideError crex =>
      rw [closable_none (endAct_notify _)] at h
      exact (closable_errOps _).mpr (h.mono id fun _ => trivial)
  | notifyClose code optReason =>
      have hlast : ∀ ok, Lib.Closable (Op.endAct r) ended ok
          (.notify r (.checkClosed code optReason) :: rest) →
          Lib.Closable (Op.endAct r) ended ok ([.notify r (.checkClosed code optReason),
            .notify r .raiseCompletion, .notify r .spawnRemove] ++ rest) := by
        intro ok hok
        simpa [Lib.Closable, NotifyOp.endAct] using hok
      have hsame : ∀ ok, Lib.Closable (Op.endAct r) ended ok
          (.notify r (.notifyClose code optReason) :: rest) →
          Lib.Closable (Op.endAct r) ended ok
            (.notify r (.checkClosed code optReason) :: rest) := by
        intro ok hok
        simpa [Lib.Closable, NotifyOp.endAct] using hok
      simp only [NotifyOp.run, List.append_assoc]
      split
      · split
        · exact (closable_errOps _).mpr (hlast _ (hsame _ (h.mono id fun _ => trivial)))
        · exact hlast _ (hsame _ h)
      · exact hlast _ (hsame _ h)
  | checkClosed code optReason =>
      have hclose : ∀ ok : Prop, ok → Lib.Closable (Op.endAct r) ended True rest →
          Lib.Closable (Op.endAct r) ended ok
            ([.notify r .closeHdr, .notify r .closeBdy] ++ rest) := by
        intro ok hok hrest
        simpa [Lib.Closable, NotifyOp.endAct] using ⟨hok, hrest⟩
      simp only [NotifyOp.run]
      by_cases hcode : code = 1000
      · subst hcode
        rw [closable_closes (endAct_notify _)] at h
        split
        · exact hclose _ h.1 h.2
        · exact h.2.mono id fun _ => h.1
      · have hnone : Op.endAct r (.notify r (.checkClosed code optReason)) = none := by
          simp [NotifyOp.endAct, hcode]
        rw [closable_none hnone] at h
        split
        · rw [List.append_assoc, closable_errOps]
          exact hclose _ trivial (h.mono id fun _ => trivial)
        · exact h
  | closeBdy =>
      rw [closable_closes (endAct_notify _)] at h
      refine h.2.mono id fun _ => ?_
      simp only [NotifyOp.run, RouterSocketV3.closeBdy, rs.modify_contexts_self]
      exact .close _ _
  | raiseCompletion =>
      rw [closable_none (endAct_notify _)] at h
      have hchan : ((rs.raiseCompletionEvent r).contexts r).tgtResBdy =
          (rs.contexts r).tgtResBdy := by
        unfold RouterSocketV3.raiseCompletionEvent
        split <;> simp [RouterSocketV3.callOnComplete]
      simp only [NotifyOp.run, hchan]
      exact h
  | resetStream errCode msg =>
      rw [closable_none (endAct_notify _)] at h
      simp only [NotifyOp.run]
      split <;> exact (closable_append (by simp [NotifyOp.endAct])).mpr h
  | notifyError crex =>
      rw [closable_none (endAct_notify _)] at h
      simp only [NotifyOp.run, RouterSocketV3.setError, rs.modify_contexts_self]
      exact (closable_append (by simp [NotifyOp.endAct])).mpr h
  | sendHdrErr | storeRstSent | closeHdr =>
      rw [closable_none (endAct_notify _)] at h
      simp only [NotifyOp.run, RouterSocketV3.sendHdr, RouterSocketV3.storeRstStreamSent,
        RouterSocketV3.closeHdr, rs.modify_contexts_self]
      exact h
  | spawnRemove | queueRst =>
      rw [closable_none (endAct_notify _)] at h
      exact h

private theorem closable_closeOpsIf {ok : Prop} {isEnd : Bool} (hend : isEnd = true → ok)
    (h : Lib.Closable (Op.endAct r) ended ok rest) :
    Lib.Closable (Op.endAct r) ended ok (closeOpsIf r isEnd ++ rest) := by
  cases isEnd with
  | false => exact h
  | true => exact (closable_closes (endAct_notify _)).mpr ⟨hend rfl, h.mono id fun _ => trivial⟩

private theorem ended_of_last {ok : Prop} {o : FrameOp}
    (h : Lib.Closable (Op.endAct r) ended ok (.frame r o :: rest)) (hlast : o.isLast = true) :
    ended :=
  ((closable_ends (by simp [FrameOp.endAct, hlast])).mp h).1

private theorem closable_body {ok : Prop} {o : FrameOp} (hbody : o.isBody = true)
    (h : Lib.Closable (Op.endAct r) ended ok (.frame r o :: rest)) :
    Lib.Closable (Op.endAct r) ended ended rest := by
  by_cases hlast : o.isLast = true
  · exact ((closable_ends (by simp [FrameOp.endAct, hlast])).mp h).2
  · exact (closable_delivers (by simp [FrameOp.endAct, hlast, hbody])).mp h

private theorem closable_rest {ok : Prop} {o : FrameOp} (hok : ended → ok)
    (h : Lib.Closable (Op.endAct r) ended ok (.frame r o :: rest)) :
    Lib.Closable (Op.endAct r) ended ok rest := by
  by_cases hbody : o.isBody = true
  · exact (closable_body hbody h).mono id hok
  · by_cases hlast : o.isLast = true
    · exact ((closable_ends (by simp [FrameOp.endAct, hlast])).mp h).2.mono id hok
    · exact (closable_none (by simp [FrameOp.endAct, hlast, hbody])).mp h

private theorem closable_storeEndStream {ok : Prop} (isEnd : Bool) :
    Lib.Closable (Op.endAct r) ended ok
        ((if isEnd then [.frame r .storeEndStream] else []) ++ rest) ↔
      Lib.Closable (Op.endAct r) ended ok rest := by
  cases isEnd with
  | false => rfl
  | true => exact closable_none (endAct_frame _)

theorem FrameMove.closable {o : FrameOp} (hmove : FrameMove dbg rs r o rs' more)
    (h : Lib.Closable (Op.endAct r) ended (Settled ended (rs.contexts r).tgtResBdy)
      (.frame r o :: rest)) :
    Lib.Closable (Op.endAct r) ended (Settled ended (rs'.contexts r).tgtResBdy)
      (more ++ rest) := by
  cases hmove with
  | fails _ crex ho =>
      exact (closable_append (by simp [failFrame, NotifyOp.endAct])).mpr (closable_rest .inl h)
  | data flags bin =>
      rw [List.append_assoc, closable_storeEndStream]
      split
      · exact closable_closeOpsIf (fun hlast => .inl (ended_of_last h hlast))
          (closable_rest .inl h)
      · rw [List.cons_append, closable_none (endAct_frame _)]
        exact (closable_congr (by rw [endAct_frame, endAct_frame]; rfl)).mpr h
  | header flags bin =>
      rw [List.append_assoc, closable_storeEndStream]
      exact (closable_congr (by rw [endAct_frame, endAct_frame]; rfl)).mpr h
  | rst bin crex =>
      exact (closable_append (by simp [NotifyOp.endAct])).mpr (closable_rest .inl h)
  | windowUpdate bin ack =>
      obtain ⟨-, -, -, hbdy, -⟩ := keepsStream_acked ack (rs.contexts r)
      rw [rs.modify_contexts_self, hbdy]
      exact closable_rest .inl h
  | storeEndStream | countBinary | addToClient =>
      simp only [RouterSocketV3.storeEndStreamReceived, RouterSocketV3.countBinary,
        RouterSocketV3.addToClient, rs.modify_contexts_self]
      exact closable_rest .inl h
  | bodyClosed isEnd bin hclosed =>
      exact (closable_append (by simp [FrameOp.endAct, FrameOp.isLast, FrameOp.isBody])).mpr
        (closable_rest .inl h)
  | bodySent isEnd bin hopen =>
      rw [List.append_assoc]
      refine closable_closeOpsIf (fun hlast => .inl (ended_of_last h hlast)) ?_
      refine (closable_append (by simp [FrameOp.endAct, FrameOp.isLast, FrameOp.isBody])).mpr ?_
      exact (closable_body rfl h).mono id .inl
  | credit _ len ho => exact closable_rest .inl h
  | generalError crex =>
      have hchan : ((rs.tryProvideGeneralError crex).contexts r).tgtResBdy =
          (rs.contexts r).tgtResBdy := by
        simp only [RouterSocketV3.tryProvideGeneralError]
        split <;> rfl
      rw [hchan]
      exact closable_rest .inl h
  | heard => exact closable_rest .inl h
  | appended flags bin content =>
      simp only [RouterSocketV3.pushHeader, rs.modify_contexts_self]
      split
      · exact (closable_congr (by rw [endAct_frame, endAct_frame]; rfl)).mpr h
      · rw [List.append_assoc]
        refine closable_closeOpsIf (fun hlast => .inl (ended_of_last h hlast)) ?_
        exact (closable_none (endAct_frame _)).mpr (closable_rest .inl h)
  | headerSent isEnd len =>
      simp only [RouterSocketV3.sendHdr, rs.modify_contexts_self]
      rw [List.append_assoc]
      refine closable_closeOpsIf (fun hlast => .inl (ended_of_last h hlast)) ?_
      exact (closable_none (endAct_frame _)).mpr (closable_rest .inl h)

/-! ### Operations of other lists and requests -/

section Move

variable {x y : Shared} {op o : Op} {ts : List Task}

private theorem Move.endStreamSeen_eq (hmove : Move dbg x op y more ts) :
    y.endStreamSeen = x.endStreamSeen := by
  cases hmove <;> rfl

private theorem Move.tgtResBdy_of_req (hmove : Move dbg x op y more ts) (hreq : op.req ≠ some r) :
    (y.rs.contexts r).tgtResBdy = (x.rs.contexts r).tgtResBdy := by
  have hchan := hmove.chanMove (r := r)
  generalize y.rs.contexts r = c at hchan
  cases hchan with
  | keeps _ _ _ hbdy _ => exact hbdy
  | _ => exact absurd rfl hreq

theorem Move.settled (hmove : Move dbg x op y more ts) (hop : op.receives = false)
    (hinsert : op.inserts r = false) (h : Settled ended (x.rs.contexts r).tgtResBdy) :
    Settled ended (y.rs.contexts r).tgtResBdy := by
  have hchan := hmove.chanMove (r := r)
  generalize y.rs.contexts r = c at hchan
  cases hchan with
  | keeps _ _ _ hbdy _ => rwa [hbdy]
  | sendBdyErr ex => exact .send_error _ _ ex
  | sendHdrErr | closeHdr | takeHdr => exact h
  | closeBdy | storeEndStream | bodySent | headerSent => cases hop
  | insertCtx text hasBody now =>
      simp [Op.inserts, Op.isRequest, RequestOp.isInsertCtx] at hinsert

private theorem SocketMove.endAct_none {o' : SocketOp} (hmove : SocketMove rs o' rs' more)
    (hclose : ∀ optReason, .notify r (.notifyClose 1000 optReason) ∉ more) (ho : o ∈ more) :
    o.endAct r = none := by
  cases hmove with
  | closeVisit code optReason todo visited r' hr' =>
      obtain rfl | rfl : o = .notify r' (.notifyClose code optReason) ∨
          o = .socket (.closeEach code optReason todo (r' :: visited)) := by simpa using ho
      · by_cases hr : r' = r
        · have hcode : code ≠ 1000 := by
            rintro rfl
            exact hclose optReason (by simp [hr])
          simp [Op.endAct, NotifyOp.endAct, hcode]
        · exact if_neg hr
      · rfl
  | collectStop crex todo visited hall =>
      obtain ⟨r', -, rfl⟩ | rfl : (∃ r' ∈ visited, .notify r' (.notifyError crex) = o) ∨
          o = .socket .retainNone := by simpa using ho
      · simp [Op.endAct, NotifyOp.endAct]
      · rfl
  | visitToClose | visitToTerminate | collectVisit =>
      obtain rfl := List.mem_singleton.mp ho
      rfl
  | _ => cases ho

theorem Shared.Closable.other (hmove : Move dbg x op y more ts) (hreq : op.req ≠ some r)
    (hmore : ∀ o ∈ more, o.endAct r = none) (h : x.Closable r (op :: rest)) :
    y.Closable r (more ++ rest) := by
  unfold Shared.Closable at h ⊢
  rw [hmove.endStreamSeen_eq, hmove.tgtResBdy_of_req hreq, closable_append hmore]
  exact (closable_none (endAct_of_req hreq)).mp h

theorem Shared.Closable.socket {o' : SocketOp} (hmove : SocketMove x.rs o' rs' more)
    (hvisit : ∀ optReason, .notify r (.notifyClose 1000 optReason) ∈ more →
      Settled (x.endStreamSeen r = true) (x.rs.contexts r).tgtResBdy)
    (h : x.Closable r (.socket o' :: rest)) : x.Closable r (more ++ rest) := by
  have hrest := (closable_none rfl).mp h
  by_cases hclose : ∃ optReason, .notify r (.notifyClose 1000 optReason) ∈ more
  · obtain ⟨optReason, hmem⟩ := hclose
    have hsettled := hvisit optReason hmem
    cases hmove with
    | closeVisit code optReason' todo visited r' hr' =>
        obtain ⟨rfl, rfl, -⟩ : r = r' ∧ 1000 = code ∧ optReason = optReason' := by
          simpa using hmem
        refine (closable_closes (endAct_notify _)).mpr ⟨hsettled, ?_⟩
        exact (closable_none rfl).mpr (hrest.mono id fun _ => trivial)
    | _ => simp at hmem
  · exact (closable_append fun o ho => hmove.endAct_none (not_exists.mp hclose) ho).mpr hrest

theorem Shared.Closable.move (hmove : Move dbg x op y more ts) (hpiped : op.piped = true)
    (hvisit : op.isSocket = true → ∀ optReason, .notify r (.notifyClose 1000 optReason) ∈ more →
      Settled (x.endStreamSeen r = true) (x.rs.contexts r).tgtResBdy)
    (h : x.Closable r (op :: rest)) : y.Closable r (more ++ rest) := by
  by_cases hsocket : op.isSocket = true
  · have hbdy : op.req ≠ some r → _ := hmove.tgtResBdy_of_req
    cases hmove with
    | socket o' c hrun =>
        have hnext := h.socket (socketMove_of_run hrun) (hvisit rfl)
        specialize hbdy nofun
        unfold Shared.Closable at hnext ⊢
        rwa [hbdy]
    | _ => cases hsocket
  · by_cases hreq : op.req = some r
    · cases hmove with
      | notify r' o' =>
          obtain rfl : r' = r := Option.some.inj hreq
          exact NotifyOp.closable o' h
      | frame r' o' hframe =>
          obtain rfl : r' = r := Option.some.inj hreq
          exact hframe.closable h
      | socket => exact absurd rfl hsocket
      | _ => cases hpiped
    · refine h.other hmove hreq fun o ho => endAct_of_req ?_
      obtain hsame | ⟨text, hasBody, rfl, -⟩ :=
        hmove.req_cases (by simpa using hsocket) (.inl ho)
      · rwa [hsame]
      · cases hpiped

/-- Only `closeBdy` closes the channel. -/
theorem Move.endedOrFailed (hmove : Move dbg x op y more ts)
    (hclose : op = .notify r .closeBdy → Settled ended (x.rs.contexts r).tgtResBdy)
    (h : EndedOrFailed ended (x.rs.contexts r).tgtResBdy) :
    EndedOrFailed ended (y.rs.contexts r).tgtResBdy := by
  have hchan := hmove.chanMove (r := r)
  generalize y.rs.contexts r = c at hchan
  cases hchan with
  | keeps _ _ _ hbdy _ => rwa [hbdy]
  | sendBdyErr ex => exact h.send _
  | bodySent isEnd bin => exact h.send _
  | closeBdy => exact h.close (hclose rfl)
  | sendHdrErr | closeHdr | takeHdr | storeEndStream | headerSent => exact h
  | insertCtx text hasBody now => exact endedOrFailed_of_open rfl

end Move

/-! ### Over whole runs -/

/-- A close of the websocket with code 1000 comes to a request when the end of its stream was
received, or its body channel is closed or has failed. -/
def closesInTime (p : SocketPool) : Label → Bool
  | .recv (.visit r) =>
      match p.shared.recv with
      | .socket (.closeEach code _ _ _) :: _ =>
          code != 1000 || p.shared.endStreamSeen r || (p.shared.rs.contexts r).tgtResBdy.closed ||
            (p.shared.rs.contexts r).tgtResBdy.failed
      | _ => true
  | _ => true

/-- The body channel of a request, with what the receive pipe still does for it. -/
structure Unbroken (r : ReqId) (p : SocketPool) : Prop where
  orderly : Orderly r p
  apart : Apart p
  endedOrFailed : EndedOrFailed (p.shared.endStreamSeen r = true) (p.shared.rs.contexts r).tgtResBdy
  closable : p.shared.Closable r p.shared.recv

variable {p q : SocketPool}

private theorem SocketOp.visits_of_run {o : SocketOp} {c : Choice} {optReason : Option String}
    (h : o.run rs c = some (rs', more)) (hmem : .notify r (.notifyClose 1000 optReason) ∈ more) :
    c = .visit r ∧ ∃ todo visited, o = .closeEach 1000 optReason todo visited := by
  cases o with
  | closeEach code reason todo visited =>
      unfold SocketOp.run at h
      cases c with
      | visit r' =>
          simp only at h
          split at h <;> cases h
          obtain ⟨rfl, rfl, rfl⟩ : r = r' ∧ 1000 = code ∧ optReason = reason := by
            simpa using hmem
          exact ⟨rfl, todo, visited, rfl⟩
      | stop =>
          simp only at h
          split at h <;> cases h
          cases hmem
      | _ => cases h
  | collect crex todo visited =>
      unfold SocketOp.run at h
      cases c with
      | visit r' | stop =>
          simp only at h
          split at h <;> cases h
          simp at hmem
      | _ => cases h
  | _ =>
      cases h
      simp at hmem

private theorem settled_of_closesInTime {op : Op} {c : Choice} {y : Shared} {ts : List Task}
    {optReason : Option String} (hok : closesInTime p (.recv c) = true)
    (hrecv : p.shared.recv = op :: rest)
    (hexec : execOp dbg overflowChecks p.shared op c = some (y, more, ts))
    (hsocket : op.isSocket = true) (hmem : .notify r (.notifyClose 1000 optReason) ∈ more) :
    Settled (p.shared.endStreamSeen r = true) (p.shared.rs.contexts r).tgtResBdy := by
  cases op with
  | socket o =>
      obtain ⟨⟨rs', more'⟩, hrun, heq⟩ := Option.map_eq_some_iff.mp hexec
      cases heq
      obtain ⟨rfl, todo, visited, rfl⟩ := SocketOp.visits_of_run hrun hmem
      simp only [closesInTime, hrecv] at hok
      simpa [Settled, or_assoc] using hok
  | _ => cases hsocket

theorem Unbroken.recv {c : Choice} (h : Unbroken r p) (hok : closesInTime p (.recv c) = true)
    (hstep : step dbg overflowChecks p (.recv c) = some q) :
    EndedOrFailed (q.shared.endStreamSeen r = true) (q.shared.rs.contexts r).tgtResBdy ∧
      q.shared.Closable r q.shared.recv := by
  obtain ⟨op, rest, y, more, ts, hrecv, hexec, rfl⟩ := recv_step_cases hstep
  have hmove := move_of_execOp hexec
  have hpiped := h.orderly.tidy.recv op (by simp [hrecv])
  have hclosable := h.closable
  rw [hrecv] at hclosable
  constructor
  · have hbody := hmove.endedOrFailed (fun hop => ?_) h.endedOrFailed
    · rw [← hmove.endStreamSeen_eq] at hbody
      exact hbody
    · rw [hop] at hclosable
      exact ((closable_closes (endAct_notify _)).mp hclosable).1
  · have hnext := hclosable.move hmove hpiped fun hsocket _ hmem =>
      settled_of_closesInTime hok hrecv hexec hsocket hmem
    exact hnext

theorem Unbroken.task {i : Nat} {c : Choice} (h : Unbroken r p)
    (hstep : step dbg overflowChecks p (.task i c) = some q) :
    EndedOrFailed (q.shared.endStreamSeen r = true) (q.shared.rs.contexts r).tgtResBdy ∧
      q.shared.Closable r q.shared.recv := by
  obtain ⟨-, hrecv, hreceives⟩ := h.apart.task hstep
  obtain ⟨op, rest, y, more, ts, spawned, others, hops, hexec, hlist⟩ := listStep_of_task hstep
  have hop := hreceives op rest hops
  have hmove := move_of_execOp hexec
  have hseen : q.shared.endStreamSeen = p.shared.endStreamSeen := by
    rw [hlist.shared]
    exact hmove.endStreamSeen_eq
  rw [Shared.Closable, hseen, hlist.rs_eq, hrecv]
  constructor
  · refine hmove.endedOrFailed ?_ h.endedOrFailed
    rintro rfl
    cases hop
  by_cases hins : op.inserts r = true
  · obtain ⟨text, hasBody, rfl⟩ := Op.inserts_iff.mp hins
    exact closable_of_none fun o ho => endAct_of_req (h.orderly.not_in_recv hlist o ho)
  · exact h.closable.mono id (hmove.settled hop (by simpa using hins))

private theorem closable_frameOps {ok : Prop} (type flags : UInt8) (r' : ReqId) (bin : Bytes)
    (hended : r' = r → marksEndStream type flags = true → ended) :
    Lib.Closable (Op.endAct r) ended ok (frameOps type flags r' bin) := by
  by_cases hr : r' = r
  · subst hr
    unfold frameOps
    split_ifs with hdata hheader hrst hwindow
    · by_cases hlast : judgeIsStreamEndFromFlags flags = true
      · refine (closable_ends ?_).mpr
          ⟨hended rfl (by simp [marksEndStream, hdata, hlast]), trivial⟩
        simp [FrameOp.endAct, FrameOp.isLast, hlast]
      · refine (closable_delivers ?_).mpr trivial
        simp [FrameOp.endAct, FrameOp.isLast, FrameOp.isBody, hlast]
    · by_cases hlast : judgeIsStreamEndFromFlags flags = true
      · refine (closable_ends ?_).mpr
          ⟨hended rfl (by simp [marksEndStream, hheader, hlast]), trivial⟩
        simp [FrameOp.endAct, FrameOp.isLast, hlast]
      · refine (closable_none ?_).mpr trivial
        simp [FrameOp.endAct, FrameOp.isLast, FrameOp.isBody, hlast]
    · exact (closable_none (endAct_frame _)).mpr trivial
    · exact (closable_none (endAct_frame _)).mpr trivial
    · trivial
  · refine closable_of_none fun o ho => ?_
    obtain ⟨o', rfl, -⟩ := frameOps_starts type flags r' bin ho
    exact if_neg hr

theorem Unbroken.receive {b : Bytes} (h : Unbroken r p) :
    EndedOrFailed ((p.shared.receive b).endStreamSeen r = true)
        ((p.shared.receive b).rs.contexts r).tgtResBdy ∧
      (p.shared.receive b).Closable r (p.shared.receive b).recv := by
  obtain hx | ⟨type, flags, r', bin, -, -, hx⟩ := receive_cases p.shared b <;> rw [hx]
  · exact ⟨h.endedOrFailed, h.closable⟩
  · constructor
    · refine h.endedOrFailed.mono fun hseen => ?_
      by_cases hr : r = r' <;> simp_all [Shared.noteFrame]
    · refine closable_frameOps type flags r' bin ?_
      rintro rfl hmarks
      simp [Shared.noteFrame, hmarks]

theorem Unbroken.step {a : Label} (h : Unbroken r p) (hok : closesInTime p a = true)
    (hstep : step dbg overflowChecks p a = some q) : Unbroken r q := by
  suffices hnext :
      EndedOrFailed (q.shared.endStreamSeen r = true) (q.shared.rs.contexts r).tgtResBdy ∧
        q.shared.Closable r q.shared.recv from
    ⟨h.orderly.step hstep, h.apart.step hstep, hnext.1, hnext.2⟩
  cases stepCases hstep with
  | list hops hlist =>
      cases a with
      | task i c => exact h.task hstep
      | recv c => exact h.recv hok hstep
      | _ => cases hops
  | receive b hidle => exact h.receive
  | close frame hidle => exact ⟨h.endedOrFailed, closable_of_none (by simp [closeOps, Op.endAct])⟩
  | dropHandler i l rt t hget htasks hawaits =>
      have hbody := h.endedOrFailed
      have hclosable := h.closable
      cases t.req <;> exact ⟨hbody, hclosable⟩
  | _ => exact ⟨h.endedOrFailed, h.closable⟩

theorem unbroken_init (r : ReqId) (h : (socketMachine dbg overflowChecks).init p) :
    Unbroken r p := by
  have horderly := orderly_init r h
  obtain ⟨route, routerSocketId, reallyNeed, now, rfl⟩ := h
  exact ⟨horderly, nofun, endedOrFailed_of_open rfl, trivial⟩

/-- The body of a response ends with its stream or with an error: in every run in which a close of
the websocket with code 1000 leaves no response unfinished. -/
theorem endedOrFailed_of_closesInTime
    (hp : (socketMachine dbg overflowChecks).Reachable (fun p a => closesInTime p a = true) p)
    (r : ReqId) :
    EndedOrFailed (p.shared.endStreamSeen r = true) (p.shared.rs.contexts r).tgtResBdy := by
  have hinv : Unbroken r p :=
    hp.invariant (fun _ hp => unbroken_init r hp) fun _ _ _ h hok hstep => h.step hok hstep
  exact hinv.endedOrFailed

end CrankerRouter.V3
