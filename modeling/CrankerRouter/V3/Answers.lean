import CrankerRouter.V3.Codec
import CrankerRouter.V3.Lifetime

/-!
# Who tells a handler

A handler waits for the first item on its header channel, or for its end.  The operations that lead
to one go on until it is there; those that come after it, the removal of the context and the end of
the stream among them, come with or after them; and a sender that finds the send queue closed is
one of them.
-/

namespace CrankerRouter.V3

open Lib

variable {dbg : DebugText} {overflowChecks : Bool} {p q : SocketPool} {r : ReqId}

def NotifyOp.tells : NotifyOp → Bool
  | .notifyError _ | .decideError _ | .sendHdrErr _ | .notifyClose _ _ | .checkClosed _ _
  | .closeHdr => true
  | _ => false

def FrameOp.tells : FrameOp → Bool
  | .sendBody isEndStream _ => isEndStream
  | .bodyListeners res => res.isSome
  | .appendHeader flags _ => judgeIsHeaderEndFromFlags flags || judgeIsStreamEndFromFlags flags
  | .sendHeader _ _ => true
  | _ => false

/-- The operations that lead to an item on the header channel or to its end. -/
def Op.tells (r : ReqId) (op : Op) : Bool :=
  op.isNotify r (·.tells) || op.isFrame r (·.tells)

def NotifyOp.follows : NotifyOp → Bool
  | .spawnRemove | .resetStream _ _ => true
  | _ => false

def RequestOp.follows : RequestOp → Bool
  | .respond _ | .buildBody | .awaitStreamEnd | .checkEndStream | .checkIfContextExists => true
  | _ => false

/-- The operations that come after the handler was told, or with those that tell it. -/
def Op.follows (r : ReqId) (op : Op) : Bool :=
  op.isNotify r (·.follows) || op.isRequest r (·.follows) || op.isFrame r (·.isStoreEndStream)

def UploadOp.attempts : UploadOp → Bool
  | .storeCanSend _ _ | .queueHeader _ _ _ _ | .senderError _ => true
  | .uploadHeader parts _ => !parts.isEmpty
  | _ => false

/-- The operations that lead to a frame on the send queue, and fail if that is closed. -/
def Op.attempts (r : ReqId) : Op → Bool
  | .request r' (.beforeProxyToTarget _ _) => r' == r
  | .upload r' o => r' == r && o.attempts
  | _ => false

/-- Something was put on the header channel, or it was closed. -/
def RequestContext.told (c : RequestContext) : Bool :=
  !c.tgtResHdr.sent.isEmpty || c.tgtResHdr.closed

section Move

variable {x y : Shared} {op o : Op} {more : List Op} {ts : List Task} {c c' : RequestContext}

private theorem told_send (c : RequestContext) (item : Except CrankerRouterException String) :
    RequestContext.told { c with tgtResHdr := c.tgtResHdr.send item } = true := by
  cases hclosed : c.tgtResHdr.closed <;> simp [RequestContext.told, Chan.send, hclosed]

theorem ChanMove.told (h : ChanMove r c op c') (hop : op.inserts r = false)
    (htold : c.told = true) : c'.told = true := by
  cases h with
  | keeps op c' hhdr hbdy hend =>
      unfold RequestContext.told at htold ⊢
      rwa [hhdr]
  | sendHdrErr ex => exact told_send c _
  | headerSent isEnd len => exact told_send c _
  | closeHdr => simp [RequestContext.told]
  | insertCtx text hasBody now =>
      rw [Op.inserts_iff.mpr ⟨text, hasBody, rfl⟩] at hop
      cases hop
  | _ => exact htold

theorem NotifyOp.tells_next {rs : RouterSocketV3} {o : NotifyOp} (ho : o.tells = true) :
    (((o.run rs r).1).contexts r).told = true ∨ ∃ o' ∈ (o.run rs r).2, o'.tells r = true := by
  cases o with
  | notifyError crex =>
      exact .inr ⟨.notify r (.decideError crex), by simp [run], by simp [Op.tells, tells]⟩
  | decideError crex =>
      exact .inr ⟨.notify r (.sendHdrErr (clientRequestError (rs.contexts r) crex)),
        by simp [run, errOps], by simp [Op.tells, tells]⟩
  | sendHdrErr ex =>
      left
      simp only [run, RouterSocketV3.sendHdr, RouterSocketV3.modify_contexts_self]
      exact told_send _ _
  | notifyClose code optReason =>
      exact .inr ⟨.notify r (.checkClosed code optReason), by simp [run], by simp [Op.tells, tells]⟩
  | checkClosed code optReason =>
      by_cases hclosed : (rs.contexts r).tgtResHdr.closed = true
      · left
        simp [run, RequestContext.told, hclosed]
      · exact .inr ⟨.notify r .closeHdr, by simp [run, hclosed], by simp [Op.tells, tells]⟩
  | closeHdr =>
      left
      simp [run, RouterSocketV3.closeHdr, RequestContext.told]
  | _ => cases ho

private theorem tells_failFrame (crex : CrankerRouterException) :
    ∃ o ∈ failFrame r crex, o.tells r = true :=
  ⟨.notify r (.notifyError crex), by simp [failFrame], by simp [Op.tells, NotifyOp.tells]⟩

theorem tells_failRequest (crex : CrankerRouterException) :
    ∃ o ∈ failRequest r crex, o.tells r = true :=
  ⟨.notify r (.notifyError crex), by simp [failRequest], by simp [Op.tells, NotifyOp.tells]⟩

private theorem req_of_mem_failRequest {crex : CrankerRouterException}
    (h : o ∈ failRequest r crex) :
    o.req = some r := by
  simp only [failRequest, List.mem_cons, List.not_mem_nil, or_false] at h
  obtain rfl | rfl := h <;> rfl

private theorem tells_closeOpsIf {isEnd : Bool} (h : isEnd = true) :
    ∃ o ∈ closeOpsIf r isEnd, o.tells r = true :=
  ⟨.notify r (.notifyClose 1000 none), by simp [closeOpsIf, h], by simp [Op.tells, NotifyOp.tells]⟩

theorem FrameMove.tells_next {rs rs' : RouterSocketV3} {o : FrameOp}
    (h : FrameMove dbg rs r o rs' more) (ho : o.tells = true) :
    (rs'.contexts r).told = true ∨ ∃ o' ∈ more, o'.tells r = true := by
  cases h with
  | fails o crex hfails => exact .inr (tells_failFrame crex)
  | bodyClosed isEnd bin hclosed =>
      exact .inr ⟨.frame r (.bodyListeners (some (bodyChanClosed dbg))), by simp,
        by simp [Op.tells, Op.isFrame, FrameOp.tells]⟩
  | bodySent isEnd bin hopen =>
      obtain ⟨o', ho', htells⟩ := tells_closeOpsIf (r := r) ho
      exact .inr ⟨o', List.mem_append_left _ ho', htells⟩
  | appended flags bin content =>
      right
      split_ifs with hheader
      · exact ⟨_, List.mem_singleton.mpr rfl, by simp [Op.tells, Op.isFrame, FrameOp.tells]⟩
      · simp only [FrameOp.tells, hheader, Bool.false_or] at ho
        obtain ⟨o', ho', htells⟩ := tells_closeOpsIf (r := r) ho
        exact ⟨o', List.mem_append_left _ ho', htells⟩
  | headerSent isEnd len =>
      left
      simp only [RouterSocketV3.sendHdr, RouterSocketV3.modify_contexts_self]
      exact told_send _ _
  | credit o len hcredit => obtain rfl | rfl := hcredit <;> cases ho
  | _ => cases ho

/-- What is to tell the handler goes on doing so until it is told. -/
theorem Move.tells_next (h : Move dbg x op y more ts) (hop : op.tells r = true) :
    (y.rs.contexts r).told = true ∨ ∃ o ∈ more, o.tells r = true := by
  cases h with
  | notify r' o =>
      obtain ⟨rfl, ho⟩ : r' = r ∧ o.tells = true := by
        simpa [Op.tells, Op.isNotify, Op.isFrame] using hop
      exact NotifyOp.tells_next ho
  | frame r' o hframe =>
      obtain ⟨rfl, ho⟩ : r' = r ∧ o.tells = true := by
        simpa [Op.tells, Op.isNotify, Op.isFrame] using hop
      exact hframe.tells_next ho
  | _ => simp [Op.tells, Op.isNotify, Op.isFrame] at hop

theorem Op.req_of_follows (h : op.follows r = true) : op.req = some r := by
  simp only [Op.follows, Bool.or_eq_true] at h
  obtain (h | h) | h := h
  · exact Op.req_of_isNotify h
  · exact Op.req_of_isRequest h
  · exact Op.req_of_isFrame h

theorem NotifyOp.follows_cases {rs : RouterSocketV3} {o' : NotifyOp} (ho : o ∈ (o'.run rs r).2)
    (hfollows : o.follows r = true) :
    o'.follows = true ∨ ∃ o'' ∈ (o'.run rs r).2, o''.tells r = true := by
  cases o' with
  | notifyError crex =>
      exact .inr ⟨.notify r (.decideError crex), by simp [run], by simp [Op.tells, tells]⟩
  | notifyClose code optReason =>
      exact .inr ⟨.notify r (.checkClosed code optReason), by simp [run], by simp [Op.tells, tells]⟩
  | resetStream errCode msg => exact .inl rfl
  | checkClosed code optReason =>
      simp only [run] at ho
      grind -ring -linarith [errOps, Op.follows, Op.isNotify, Op.isRequest, Op.isFrame, NotifyOp.follows]
  | decideError crex =>
      simp only [run] at ho
      grind -ring -linarith [errOps, Op.follows, Op.isNotify, Op.isRequest, Op.isFrame, NotifyOp.follows]
  | _ => cases ho

theorem FrameMove.follows_cases {rs rs' : RouterSocketV3} {o' : FrameOp}
    (h : FrameMove dbg rs r o' rs' more) (ho : o ∈ more) (hfollows : o.follows r = true) :
    ∃ o'' ∈ more, o''.tells r = true := by
  cases h with
  | fails o' crex hfails => exact tells_failFrame crex
  | rst bin crex =>
      exact ⟨.notify r (.notifyError crex), by simp, by simp [Op.tells, NotifyOp.tells]⟩
  | data flags bin =>
      have hend : judgeIsStreamEndFromFlags flags = true := by
        by_contra hnot
        simp only [hnot, closeOpsIf] at ho
        grind -ring -linarith [Op.follows, Op.isNotify, Op.isRequest, Op.isFrame, FrameOp.isStoreEndStream]
      by_cases hlen : bin.length = 0
      · obtain ⟨o', ho', htells⟩ := tells_closeOpsIf (r := r) hend
        exact ⟨o', by simp [hlen, ho'], htells⟩
      · exact ⟨.frame r (.sendBody (judgeIsStreamEndFromFlags flags) bin), by simp [hlen],
          by simp [Op.tells, Op.isFrame, FrameOp.tells, hend]⟩
  | header flags bin =>
      have hend : judgeIsStreamEndFromFlags flags = true := by
        by_contra hnot
        simp only [hnot] at ho
        grind -ring -linarith [Op.follows, Op.isNotify, Op.isRequest, Op.isFrame, FrameOp.isStoreEndStream]
      exact ⟨.frame r (.appendHeader flags bin), by simp,
        by simp [Op.tells, Op.isFrame, FrameOp.tells, hend]⟩
  | bodySent isEnd bin hopen =>
      grind -ring -linarith [closeOpsIf, Op.follows, Op.isNotify, Op.isRequest, Op.isFrame,
        FrameOp.isStoreEndStream, NotifyOp.follows]
  | appended flags bin content =>
      grind -ring -linarith [closeOpsIf, Op.follows, Op.isNotify, Op.isRequest, Op.isFrame,
        FrameOp.isStoreEndStream, NotifyOp.follows]
  | headerSent isEnd len =>
      grind -ring -linarith [closeOpsIf, Op.follows, Op.isNotify, Op.isRequest, Op.isFrame,
        FrameOp.isStoreEndStream, NotifyOp.follows]
  | bodyClosed isEnd bin hclosed =>
      grind -ring -linarith [Op.follows, Op.isNotify, Op.isRequest, Op.isFrame, FrameOp.isStoreEndStream]
  | _ => cases ho

/-- What comes after the handler was told does not come before. -/
theorem Move.follows_cases (h : Move dbg x op y more ts) (ho : o ∈ more ∨ ∃ t ∈ ts, o ∈ t.ops)
    (hfollows : o.follows r = true) :
    op.follows r = true ∨ (∃ o' ∈ more, o'.tells r = true) ∨ (x.rs.contexts r).told = true := by
  have hreq := Op.req_of_follows hfollows
  cases h with
  | notify r' o' =>
      have ho : o ∈ (o'.run x.rs r').2 := by simpa using ho
      obtain ⟨o'', rfl⟩ := NotifyOp.mem_run ho
      obtain rfl : r' = r := Option.some.inj hreq
      refine (NotifyOp.follows_cases ho hfollows).imp (fun h => ?_) .inl
      simp [Op.follows, h]
  | frame r' o' hframe =>
      have ho : o ∈ more := by simpa using ho
      obtain rfl : r' = r := by
        obtain ⟨o'', rfl⟩ | ⟨o'', rfl⟩ := hframe.mem_more ho <;> exact Option.some.inj hreq
      exact .inr (.inl (hframe.follows_cases ho hfollows))
  | upload r' o' hupload =>
      have ho : o ∈ more := by simpa using ho
      cases hupload <;> grind -ring -linarith [Op.follows, Op.isNotify, Op.isRequest, Op.isFrame, NotifyOp.follows]
  | socket o' c hrun =>
      have ho : o ∈ more := by simpa using ho
      cases socketMove_of_run hrun <;>
        grind -ring -linarith [Op.follows, Op.isNotify, Op.isRequest, Op.isFrame, NotifyOp.follows]
  | requestFails r' o' crex ho' =>
      obtain rfl := Option.some.inj ((req_of_mem_failRequest (by simpa using ho)).symm.trans hreq)
      exact .inr (.inl (tells_failRequest crex))
  | errorTaken r' crex hnext =>
      obtain rfl := Option.some.inj ((req_of_mem_failRequest (by simpa using ho)).symm.trans hreq)
      exact .inr (.inl (tells_failRequest crex))
  | buildFails r' crex =>
      obtain rfl := Option.some.inj ((req_of_mem_failRequest (by simpa using ho)).symm.trans hreq)
      exact .inr (.inl (tells_failRequest crex))
  | headerTaken r' content hnext =>
      obtain rfl : o = .request r' (.respond content) := by simpa using ho
      obtain rfl : r' = r := Option.some.inj hreq
      right
      right
      have hne : (x.rs.contexts r').tgtResHdr.sent ≠ [] := by
        intro hnil
        simp [Chan.next?, hnil] at hnext
      simp [RequestContext.told, hne]
  | _ => grind -ring -linarith [Op.follows, Op.isNotify, Op.isRequest, Op.isFrame, NotifyOp.follows,
      RequestOp.follows, Op.req]

private theorem headerParts_ne_nil (t : String) : headerParts true t ≠ [] := by
  intro hnil
  obtain ⟨⟨n, hflags⟩, -⟩ := headerParts_spec t
  rw [hnil] at hflags
  simp at hflags

/-- A sender that finds the queue closed tells the handler, unless the stream has ended. -/
theorem UploadOp.attempts_next {rs rs' : RouterSocketV3} {ch : Choice} {o' : UploadOp}
    (h : o'.run dbg rs r ch = some (rs', more)) (ho : o'.attempts = true)
    (hclosed : rs.wssSendTask.closed = true) :
    (∃ o ∈ more, o.attempts r = true ∨ o.tells r = true) ∨
      (rs.contexts r).isEndStreamReceivedFromTgt = true := by
  cases o' with
  | storeCanSend text hasBody =>
      cases h
      refine .inl ⟨_, List.mem_singleton.mpr rfl, .inl ?_⟩
      simp [Op.attempts, attempts, headerParts_ne_nil]
  | uploadHeader parts hasBody =>
      cases parts with
      | nil => cases ho
      | cons part parts =>
          cases h
          exact .inl ⟨.upload r (.queueHeader part.1 part.2 parts hasBody), by simp,
            .inl (by simp [Op.attempts, attempts])⟩
  | queueHeader isHeaderEnd part parts hasBody =>
      simp only [run, uploadFrame, hclosed, if_true] at h
      cases h
      exact .inl ⟨_, List.mem_singleton.mpr rfl, .inl (by simp [Op.attempts, attempts])⟩
  | senderError crex =>
      cases h
      cases hend : (rs.contexts r).isEndStreamReceivedFromTgt with
      | true => exact .inr rfl
      | false =>
          exact .inl ⟨.notify r (.notifyError crex), by simp,
            .inr (by simp [Op.tells, NotifyOp.tells])⟩
  | _ => cases ho

theorem SocketMove.closed {rs rs' : RouterSocketV3} {o' : SocketOp} (h : SocketMove rs o' rs' more)
    (hclosed : rs.wssSendTask.closed = true) : rs'.wssSendTask.closed = true := by
  cases h with
  | generalError crex rs' hrs => obtain rfl | rfl := hrs <;> exact hclosed
  | closeSendTask => rfl
  | _ => exact hclosed

theorem Move.queue_closed (h : Move dbg x op y more ts) (hclosed : x.rs.wssSendTask.closed = true) :
    y.rs.wssSendTask.closed = true := by
  by_cases hsocket : op.isSocket = true
  · cases h with
    | socket o' c hrun => exact (socketMove_of_run hrun).closed hclosed
    | _ => cases hsocket
  · rwa [h.closed_eq (by simpa using hsocket)]

theorem Move.tornDown (h : Move dbg x op y more ts) : y.tornDown = x.tornDown := by
  cases h <;> rfl

end Move

end CrankerRouter.V3
