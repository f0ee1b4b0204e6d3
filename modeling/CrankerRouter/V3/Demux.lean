import CrankerRouter.V3.Isolation

/-!
# Demultiplexing

The frames of many responses arrive interleaved on one socket, and the spawned removals run at any
time between them.  Each request still gets its own response: one header text, its body chunks in
order, the end of the body, and the connector gets back the credit of every byte it sent.
-/

namespace CrankerRouter.V3

open Lib

/-- The frames of a response; a header frame carries text. -/
inductive ResponseFrame
  | header (flags : UInt8) (content : String)
  | data (flags : UInt8) (bin : Bytes)

namespace ResponseFrame

def flags : ResponseFrame → UInt8
  | header flags _ | data flags _ => flags

def payload : ResponseFrame → Bytes
  | header _ content => utf8 content
  | data _ bin => bin

def encode (r : ReqId) : ResponseFrame → Bytes
  | header flags content => frame messageTypeHeader flags r (utf8 content)
  | data flags bin => frame messageTypeData flags r bin

def isLast (f : ResponseFrame) : Bool := judgeIsStreamEndFromFlags f.flags

/-- The part of the header text in a frame. -/
def text : ResponseFrame → String
  | header _ content => content
  | data _ _ => ""

def endsHeader : ResponseFrame → Bool
  | header flags _ => judgeIsHeaderEndFromFlags flags
  | data _ _ => false

/-- The window update a frame is answered with; an empty data frame gets none. -/
def acks (r : ReqId) : ResponseFrame → List Message
  | header _ content => [chunkCredit r (utf8 content).length]
  | data _ bin => if bin.length = 0 then [] else [chunkCredit r bin.length]

/-- The chunk of the body in a frame, if there is one. -/
def chunk : ResponseFrame → List Bytes
  | header _ _ => []
  | data _ bin => if bin.length = 0 then [] else [bin]

end ResponseFrame

open ResponseFrame

/-- What follows a header block: data frames, the last of which ends the stream. -/
inductive BodyFrames : List ResponseFrame → Prop
  | last {flags : UInt8} {bin : Bytes} (hend : judgeIsStreamEndFromFlags flags = true) :
      BodyFrames [data flags bin]
  | more {flags : UInt8} {bin : Bytes} {fs : List ResponseFrame}
      (hend : judgeIsStreamEndFromFlags flags = false) (h : BodyFrames fs) :
      BodyFrames (data flags bin :: fs)

/-- A response: one or more header frames, the last of which ends the header, then data frames;
the last frame, and only that, ends the stream. -/
inductive Response : List ResponseFrame → Prop
  | headerOnly {flags : UInt8} {content : String} (hheader : judgeIsHeaderEndFromFlags flags = true)
      (hend : judgeIsStreamEndFromFlags flags = true) : Response [header flags content]
  | lastHeader {flags : UInt8} {content : String} {fs : List ResponseFrame}
      (hheader : judgeIsHeaderEndFromFlags flags = true)
      (hend : judgeIsStreamEndFromFlags flags = false) (h : BodyFrames fs) :
      Response (header flags content :: fs)
  | more {flags : UInt8} {content : String} {fs : List ResponseFrame}
      (hheader : judgeIsHeaderEndFromFlags flags = false)
      (hend : judgeIsStreamEndFromFlags flags = false) (h : Response fs) :
      Response (header flags content :: fs)

def headerText (fs : List ResponseFrame) : String := (fs.map text).foldl (· ++ ·) ""

def bodyChunks (fs : List ResponseFrame) : List Bytes := fs.flatMap chunk

def totalLen (fs : List ResponseFrame) : Nat := (fs.map fun f => f.payload.length).sum

/-- The credit a queued message gives to an id. -/
def creditOf (r : ReqId) (m : Message) : Int :=
  match m with
  | .binary b =>
      match head? b with
      | some (type, _, r', payload) =>
          if type = messageTypeWindowUpdate ∧ r' = r then
            match Bytes.getI32 payload with
            | .ok (amount, _) => amount.toInt
            | .error _ => 0
          else 0
      | none => 0
  | _ => 0

/-- All credit ever queued for an id. -/
def RouterSocketV3.credit (rs : RouterSocketV3) (r : ReqId) : Int :=
  (rs.wssSendTask.sent.map (creditOf r)).sum

/-- What happens to the socket: a frame arrives, or a spawned removal runs. -/
inductive Event
  | frame (r : ReqId) (f : ResponseFrame)
  | removal (r : ReqId)

def framesOf (r : ReqId) (es : List Event) : List ResponseFrame :=
  es.filterMap fun
    | .frame r' f => if r' = r then some f else none
    | .removal _ => none

variable (dbg : DebugText) (overflowChecks : Bool)

/-- The listeners answer `Ok`. -/
def feed (rs : RouterSocketV3) : Event → Except Panic RouterSocketV3
  | .frame r f => (onBinary dbg overflowChecks rs (f.encode r) none).map Prod.fst
  | .removal r => .ok (if r ∈ rs.removals then rs.removeReqCtx r else rs)

def feedAll (rs : RouterSocketV3) (es : List Event) : Except Panic RouterSocketV3 :=
  es.foldlM (feed dbg overflowChecks) rs

/-- An open request whose headers are sent and whose response has not begun. -/
structure Awaiting (rs : RouterSocketV3) (r : ReqId) : Prop where
  contextMap : r ∈ rs.contextMap
  removals : r ∉ rs.removals
  canSend : (rs.contexts r).isTgtCanSendResNow = true
  builder : (rs.contexts r).headerLineBuilder = ""
  hdr : (rs.contexts r).tgtResHdr = .new
  bdy : (rs.contexts r).tgtResBdy = .new
  credit : rs.credit r = 0

/-- A request in the middle of its response. -/
structure Receiving (rs : RouterSocketV3) (r : ReqId) : Prop where
  contextMap : r ∈ rs.contextMap
  canSend : (rs.contexts r).isTgtCanSendResNow = true
  hdr : (rs.contexts r).tgtResHdr.closed = false
  bdy : (rs.contexts r).tgtResBdy.closed = false
  queue : rs.wssSendTask.closed = false

/-- What one frame of a response does. -/
structure Received (rs : RouterSocketV3) (r : ReqId) (f : ResponseFrame) (rs' : RouterSocketV3) :
    Prop where
  contextMap : rs'.contextMap = rs.contextMap
  removals : rs'.removals = rs.removals ++ if f.isLast then [r] else []
  canSend : (rs'.contexts r).isTgtCanSendResNow = true
  builder : (rs'.contexts r).headerLineBuilder = (rs.contexts r).headerLineBuilder ++ f.text
  hdr : (rs'.contexts r).tgtResHdr.sent = (rs.contexts r).tgtResHdr.sent ++
    if f.endsHeader then [.ok ((rs.contexts r).headerLineBuilder ++ f.text)] else []
  hdrClosed : (rs'.contexts r).tgtResHdr.closed = f.isLast
  bdy : (rs'.contexts r).tgtResBdy.sent = (rs.contexts r).tgtResBdy.sent ++ f.chunk.map .ok
  bdyClosed : (rs'.contexts r).tgtResBdy.closed = f.isLast
  queue : rs'.wssSendTask = { rs.wssSendTask with sent := rs.wssSendTask.sent ++ f.acks r }
  others : ∀ r', r' ≠ r → Untouched r' rs rs'

@[simp] theorem storeEndStreamIf_contexts (rs : RouterSocketV3) (r : ReqId) (isEnd : Bool) :
    (rs.storeEndStreamIf r isEnd).contexts r = { rs.contexts r with
      isEndStreamReceivedFromTgt := (rs.contexts r).isEndStreamReceivedFromTgt || isEnd } := by
  cases isEnd <;> simp [RouterSocketV3.storeEndStreamIf, RouterSocketV3.storeEndStreamReceived]

@[simp] theorem storeEndStreamIf_fields (rs : RouterSocketV3) (r : ReqId) (isEnd : Bool) :
    (rs.storeEndStreamIf r isEnd).wssSendTask = rs.wssSendTask ∧
    (rs.storeEndStreamIf r isEnd).contextMap = rs.contextMap ∧
    (rs.storeEndStreamIf r isEnd).removals = rs.removals := by
  unfold RouterSocketV3.storeEndStreamIf
  split <;> exact ⟨rfl, rfl, rfl⟩

@[simp] theorem bodyListeners_none (out : RouterSocketV3 × Outcome) : bodyListeners none out = out := by
  obtain ⟨rs, res⟩ := out
  unfold bodyListeners
  simp only
  split <;> simp_all

variable {dbg : DebugText} {overflowChecks : Bool} {rs : RouterSocketV3} {r : ReqId}

attribute [local simp] RouterSocketV3.countBinary RouterSocketV3.sendBdy RouterSocketV3.addToClient
  RouterSocketV3.pushHeader RouterSocketV3.sendHdr

private theorem feed_eq {f : ResponseFrame} {type : UInt8} {rs' : RouterSocketV3}
    (h : r ∈ rs.contextMap)
    (hencode : f.encode r = frame type f.flags r f.payload)
    (hout : dispatch dbg overflowChecks rs type f.flags r f.payload none = .ok (rs', .ok ())) :
    feed dbg overflowChecks rs (.frame r f) = .ok rs' := by
  show (onBinary dbg overflowChecks rs (f.encode r) none).map Prod.fst = _
  rw [onBinary_eq, hencode]
  simp [h, hout, settle, Except.map]

private theorem received_data (h : Receiving rs r) (flags : UInt8) (bin : Bytes) :
    ∃ rs', feed dbg overflowChecks rs (.frame r (data flags bin)) = .ok rs' ∧
      Received rs r (data flags bin) rs' := by
  have hdispatch : dispatch dbg overflowChecks rs messageTypeData flags r bin none =
      .ok (handleData dbg rs r flags bin none) := by simp [dispatch]
  have hothers : ∀ r', r' ≠ r → Untouched r' rs (handleData dbg rs r flags bin none).1 := by
    intro r' hne
    refine handleData_untouched rs flags bin none hne ?_
    rintro ⟨-, -, hclosed⟩
    rw [h.bdy] at hclosed
    cases hclosed
  by_cases hlen : bin.length = 0
  · have hout : handleData dbg rs r flags bin none =
        ((rs.storeEndStreamIf r (judgeIsStreamEndFromFlags flags)).closeIf r
          (judgeIsStreamEndFromFlags flags), .ok ()) := by
      simp [handleData, h.canSend, hlen]
    rw [hout] at hdispatch hothers
    refine ⟨_, feed_eq h.contextMap rfl hdispatch, ?_⟩
    exact
      { contextMap := by simp
        removals := by simp [isLast]; rfl
        canSend := by simp [h.canSend]
        builder := by simp [text]
        hdr := by simp [endsHeader]
        hdrClosed := by simp [h.hdr, isLast, ResponseFrame.flags]
        bdy := by simp [chunk, hlen]
        bdyClosed := by simp [h.bdy, isLast, ResponseFrame.flags]
        queue := by simp [acks, hlen]
        others := hothers }
  · have hbdy : ((beforeChunk rs r flags).contexts r).tgtResBdy.closed = false := by
      rw [beforeChunk_closed, h.bdy]
    have hout : handleData dbg rs r flags bin none =
        (((((beforeChunk rs r flags).sendBdy r (.ok bin)).closeIf r
          (judgeIsStreamEndFromFlags flags)).addToClient r bin.length).sendData
            (chunkCredit r bin.length), .ok ()) := by
      simp only [handleData, h.canSend, Bool.not_true, Bool.false_eq_true, ↓reduceIte, hlen,
        bodyListeners_none, sendBody, hbdy]
    rw [hout] at hdispatch hothers
    refine ⟨_, feed_eq h.contextMap rfl hdispatch, ?_⟩
    exact
      { contextMap := by simp
        removals := by simp; rfl
        canSend := by simp [h.canSend]
        builder := by simp [text]
        hdr := by simp [endsHeader]
        hdrClosed := by simp [h.hdr, isLast, ResponseFrame.flags]
        bdy := by simp [chunk, hlen, Chan.send, h.bdy]
        bdyClosed := by simp [h.bdy, isLast, ResponseFrame.flags]
        queue := by simp [acks, hlen, Chan.send, h.queue]
        others := hothers }

/-- The socket after the text of a header frame is appended. -/
abbrev appended (rs : RouterSocketV3) (r : ReqId) (flags : UInt8) (content : String) :
    RouterSocketV3 :=
  (rs.storeEndStreamIf r (judgeIsStreamEndFromFlags flags)).pushHeader r content

private theorem received_header (h : Receiving rs r) (flags : UInt8) (content : String)
    (hlen : (utf8 content).length < 2 ^ 31) :
    ∃ rs', feed dbg overflowChecks rs (.frame r (header flags content)) = .ok rs' ∧
      Received rs r (header flags content) rs' := by
  have hdispatch : dispatch dbg overflowChecks rs messageTypeHeader flags r (utf8 content) none =
      .ok (handleHeader dbg rs r flags (utf8 content)) := by
    simp [dispatch, messageTypeHeader, messageTypeData]
  have hothers : ∀ r', r' ≠ r → Untouched r' rs (handleHeader dbg rs r flags (utf8 content)).1 :=
    fun r' hne => handleHeader_untouched rs flags (utf8 content) hne
  have hshort : (utf8 content).length < 2147483648 := by omega
  cases hend : judgeIsHeaderEndFromFlags flags with
  | true =>
      have hout : handleHeader dbg rs r flags (utf8 content) =
          ((((appended rs r flags content).sendHdr r
            (.ok ((rs.contexts r).headerLineBuilder ++ content))).closeIf r
              (judgeIsStreamEndFromFlags flags)).sendData
                (chunkCredit r (utf8 content).length), .ok ()) := by
        simp [handleHeader, appendHeader, sendHeader, creditHeader, h.canSend, h.hdr, h.queue,
          hshort, hend]
      rw [hout] at hdispatch hothers
      refine ⟨_, feed_eq h.contextMap rfl hdispatch, ?_⟩
      exact
        { contextMap := by simp
          removals := by simp; rfl
          canSend := by simp [h.canSend]
          builder := by simp [text]
          hdr := by simp [endsHeader, hend, text, Chan.send, h.hdr]
          hdrClosed := by simp [h.hdr, isLast, ResponseFrame.flags]
          bdy := by simp [chunk]
          bdyClosed := by simp [h.bdy, isLast, ResponseFrame.flags]
          queue := by simp [acks, Chan.send, h.queue]
          others := hothers }
  | false =>
      have hout : handleHeader dbg rs r flags (utf8 content) =
          (((appended rs r flags content).closeIf r (judgeIsStreamEndFromFlags flags)).sendData
            (chunkCredit r (utf8 content).length), .ok ()) := by
        simp [handleHeader, appendHeader, creditHeader, h.canSend, h.queue, hshort, hend]
      rw [hout] at hdispatch hothers
      refine ⟨_, feed_eq h.contextMap rfl hdispatch, ?_⟩
      exact
        { contextMap := by simp
          removals := by simp; rfl
          canSend := by simp [h.canSend]
          builder := by simp [text]
          hdr := by simp [endsHeader, hend]
          hdrClosed := by simp [h.hdr, isLast, ResponseFrame.flags]
          bdy := by simp [chunk]
          bdyClosed := by simp [h.bdy, isLast, ResponseFrame.flags]
          queue := by simp [acks, Chan.send, h.queue]
          others := hothers }

/-- A frame of a response is processed, whichever it is. -/
theorem received (h : Receiving rs r) (f : ResponseFrame) (hlen : f.payload.length < 2 ^ 31) :
    ∃ rs', feed dbg overflowChecks rs (.frame r f) = .ok rs' ∧ Received rs r f rs' := by
  cases f with
  | header flags content => exact received_header h flags content hlen
  | data flags bin => exact received_data h flags bin

theorem creditOf_chunkCredit (r r' : ReqId) (n : Nat) (hn : n < 2 ^ 31) :
    creditOf r (chunkCredit r' n) = if r' = r then (n : Int) else 0 := by
  have hword : (BitVec.ofNat 32 n).toInt = n := by
    rw [BitVec.toInt_eq_toNat_of_lt] <;> simp <;> omega
  have hread := Bytes.getI32_putI32 (BitVec.ofNat 32 n) []
  rw [List.append_nil] at hread
  simp [creditOf, chunkCredit, windowUpdateMessage, hread, hword]

private theorem acks_credit (r r' : ReqId) (f : ResponseFrame) (hlen : f.payload.length < 2 ^ 31) :
    ((f.acks r').map (creditOf r)).sum = if r' = r then (f.payload.length : Int) else 0 := by
  cases f with
  | header flags content =>
      simpa [acks, payload] using creditOf_chunkCredit r r' _ hlen
  | data flags bin =>
      by_cases hzero : bin.length = 0
      · simp [acks, payload, hzero]
      · simpa [acks, payload, hzero] using creditOf_chunkCredit r r' _ hlen

theorem Received.credit {f : ResponseFrame} {rs' : RouterSocketV3} (h : Received rs r f rs')
    (hlen : f.payload.length < 2 ^ 31) (r' : ReqId) :
    rs'.credit r' = rs.credit r' + if r = r' then (f.payload.length : Int) else 0 := by
  unfold RouterSocketV3.credit
  rw [h.queue, List.map_append, List.sum_append, acks_credit r' r f hlen]

/-- How far the response of a request is. -/
inductive Phase (rs : RouterSocketV3) (r : ReqId) (done : List ResponseFrame) :
    List ResponseFrame → Prop
  | header {todo : List ResponseFrame} (hreceiving : Receiving rs r) (hremoval : r ∉ rs.removals)
      (hhdr : (rs.contexts r).tgtResHdr.sent = []) (h : Response todo) : Phase rs r done todo
  | body {todo : List ResponseFrame} (hreceiving : Receiving rs r) (hremoval : r ∉ rs.removals)
      (hhdr : (rs.contexts r).tgtResHdr.sent = [.ok (headerText done)]) (h : BodyFrames todo) :
      Phase rs r done todo
  | ended (hhdr : (rs.contexts r).tgtResHdr.sent = [.ok (headerText done)])
      (hclosed : (rs.contexts r).tgtResBdy.closed = true) : Phase rs r done []

/-- The frames `done` have arrived for the request, the frames `todo` have not. -/
structure Progress (rs : RouterSocketV3) (r : ReqId) (done todo : List ResponseFrame) : Prop where
  builder : (rs.contexts r).headerLineBuilder = headerText done
  bdy : (rs.contexts r).tgtResBdy.sent = (bodyChunks done).map .ok
  credit : rs.credit r = totalLen done
  phase : Phase rs r done todo

private theorem headerText_append (done : List ResponseFrame) (f : ResponseFrame) :
    headerText (done ++ [f]) = headerText done ++ f.text := by
  simp [headerText]

private theorem bodyChunks_append (done : List ResponseFrame) (f : ResponseFrame) :
    bodyChunks (done ++ [f]) = bodyChunks done ++ f.chunk := by
  simp [bodyChunks]

private theorem totalLen_append (done : List ResponseFrame) (f : ResponseFrame) :
    totalLen (done ++ [f]) = totalLen done + f.payload.length := by
  simp [totalLen]

private theorem Received.receiving {f : ResponseFrame} {rs' : RouterSocketV3}
    (h : Received rs r f rs')
    (hrec : Receiving rs r) (hlast : f.isLast = false) : Receiving rs' r where
  contextMap := by rw [h.contextMap]; exact hrec.contextMap
  canSend := h.canSend
  hdr := by rw [h.hdrClosed, hlast]
  bdy := by rw [h.bdyClosed, hlast]
  queue := by rw [h.queue]; exact hrec.queue

private theorem Received.removals_of_not_last {f : ResponseFrame} {rs' : RouterSocketV3}
    (h : Received rs r f rs') (hremoval : r ∉ rs.removals) (hlast : f.isLast = false) :
    r ∉ rs'.removals := by
  rw [h.removals, hlast]
  simpa using hremoval

private theorem Phase.receiving {done todo : List ResponseFrame} {f : ResponseFrame}
    (h : Phase rs r done (f :: todo)) : Receiving rs r := by
  cases h with
  | header hreceiving _ _ _ => exact hreceiving
  | body hreceiving _ _ _ => exact hreceiving

/-- The next frame of the request takes its response one frame further. -/
theorem Phase.next {done todo : List ResponseFrame} {f : ResponseFrame} {rs' : RouterSocketV3}
    (hbuilder : (rs.contexts r).headerLineBuilder = headerText done)
    (h : Phase rs r done (f :: todo)) (hf : Received rs r f rs') : Phase rs' r (done ++ [f]) todo := by
  have hhdr := hf.hdr
  rw [hbuilder, ← headerText_append] at hhdr
  cases h with
  | header hreceiving hremoval hsent hresponse =>
      rw [hsent, List.nil_append] at hhdr
      cases hresponse with
      | headerOnly hheader hend =>
          exact .ended (hhdr.trans (if_pos hheader)) (hf.bdyClosed.trans hend)
      | lastHeader hheader hend hbody =>
          exact .body (hf.receiving hreceiving hend) (hf.removals_of_not_last hremoval hend)
            (hhdr.trans (if_pos hheader)) hbody
      | more hheader hend hmore =>
          refine .header (hf.receiving hreceiving hend) (hf.removals_of_not_last hremoval hend)
            (hhdr.trans (if_neg ?_)) hmore
          show ¬judgeIsHeaderEndFromFlags _ = true
          rw [hheader]
          exact Bool.false_ne_true
  | body hreceiving hremoval hsent hbody =>
      have htext : headerText (done ++ [f]) = headerText done := by
        cases hbody <;> simp [headerText_append, text]
      have hnone : (rs'.contexts r).tgtResHdr.sent = [.ok (headerText (done ++ [f]))] := by
        rw [hhdr, hsent, htext]
        cases hbody <;> simp [endsHeader]
      cases hbody with
      | last hend => exact .ended hnone (hf.bdyClosed.trans hend)
      | more hend hmore =>
          exact .body (hf.receiving hreceiving hend) (hf.removals_of_not_last hremoval hend) hnone hmore

theorem Progress.next {done todo : List ResponseFrame} {f : ResponseFrame} {rs' : RouterSocketV3}
    (h : Progress rs r done (f :: todo)) (hf : Received rs r f rs')
    (hlen : f.payload.length < 2 ^ 31) : Progress rs' r (done ++ [f]) todo where
  builder := by rw [hf.builder, h.builder, headerText_append]
  bdy := by rw [hf.bdy, h.bdy, bodyChunks_append, List.map_append]
  credit := by
    rw [hf.credit hlen, h.credit, totalLen_append, if_pos rfl]
    push_cast
    rfl
  phase := h.phase.next h.builder hf

private theorem Progress.of_untouched {done todo : List ResponseFrame} {rs' : RouterSocketV3}
    (h : Progress rs r done todo) (hsame : Untouched r rs rs') (hcredit : rs'.credit r = rs.credit r)
    (hqueue : rs'.wssSendTask.closed = rs.wssSendTask.closed) : Progress rs' r done todo := by
  have hreceiving : Receiving rs r → Receiving rs' r := by
    intro hrec
    refine ⟨hsame.contextMap.mpr hrec.contextMap, ?_, ?_, ?_, hqueue.trans hrec.queue⟩ <;>
      rw [hsame.contexts]
    exacts [hrec.canSend, hrec.hdr, hrec.bdy]
  have hremoval : r ∉ rs.removals → r ∉ rs'.removals := by
    intro hnot
    rw [← List.count_eq_zero, hsame.removals, List.count_eq_zero]
    exact hnot
  have hctx := hsame.contexts
  refine ⟨by rw [hctx]; exact h.builder, by rw [hctx]; exact h.bdy, hcredit.trans h.credit, ?_⟩
  cases h.phase with
  | header hrec hnot hhdr hresponse =>
      exact .header (hreceiving hrec) (hremoval hnot) (by rw [hctx]; exact hhdr) hresponse
  | body hrec hnot hhdr hbody =>
      exact .body (hreceiving hrec) (hremoval hnot) (by rw [hctx]; exact hhdr) hbody
  | ended hhdr hclosed =>
      exact .ended (by rw [hctx]; exact hhdr) (by rw [hctx]; exact hclosed)

private theorem Progress.removal {done todo : List ResponseFrame} (h : Progress rs r done todo)
    (r' : ReqId) :
    Progress (if r' ∈ rs.removals then rs.removeReqCtx r' else rs) r done todo := by
  split
  · rename_i hpending
    by_cases hr : r = r'
    · subst hr
      refine ⟨h.builder, h.bdy, h.credit, ?_⟩
      cases h.phase with
      | header _ hnot _ _ => exact absurd hpending hnot
      | body _ hnot _ _ => exact absurd hpending hnot
      | ended hhdr hclosed => exact .ended hhdr hclosed
    · refine h.of_untouched ⟨rfl, ?_, ?_⟩ rfl rfl
      · simp [RouterSocketV3.removeReqCtx, hr]
      · exact List.count_erase_of_ne hr
  · exact h

private theorem framesOf_frame_self (r : ReqId) (f : ResponseFrame) (es : List Event) :
    framesOf r (.frame r f :: es) = f :: framesOf r es := by
  simp [framesOf]

private theorem framesOf_frame_ne {r r' : ReqId} (h : r' ≠ r) (f : ResponseFrame)
    (es : List Event) :
    framesOf r (.frame r' f :: es) = framesOf r es := by
  simp [framesOf, h]

private theorem framesOf_removal (r r' : ReqId) (es : List Event) :
    framesOf r (.removal r' :: es) = framesOf r es := by
  simp [framesOf]

/-- The events are frames of the given requests, small enough for the length field of their
credit, and removals. -/
def Admissible (ids : Set ReqId) (es : List Event) : Prop :=
  ∀ r f, Event.frame r f ∈ es → r ∈ ids ∧ f.payload.length < 2 ^ 31

/-- A run over any interleaving brings every response to its end. -/
private theorem feedAll_progress (ids : Set ReqId) (es : List Event) (rs : RouterSocketV3)
    (done : ReqId → List ResponseFrame) (hes : Admissible ids es)
    (h : ∀ r ∈ ids, Progress rs r (done r) (framesOf r es)) :
    ∃ rs', feedAll dbg overflowChecks rs es = .ok rs' ∧
      ∀ r ∈ ids, Progress rs' r (done r ++ framesOf r es) [] := by
  induction es generalizing rs done with
  | nil => exact ⟨rs, rfl, fun r hr => by simpa [framesOf] using h r hr⟩
  | cons e es ih =>
      have hes' : Admissible ids es := fun r f hmem => hes r f (List.mem_cons_of_mem e hmem)
      cases e with
      | removal r' =>
          obtain ⟨rs', hrun, hend⟩ := ih (if r' ∈ rs.removals then rs.removeReqCtx r' else rs) done
            hes' fun r hr => by
              have := h r hr
              rw [framesOf_removal] at this
              exact this.removal r'
          refine ⟨rs', hrun, fun r hr => ?_⟩
          rw [framesOf_removal]
          exact hend r hr
      | frame r' f =>
          obtain ⟨hr', hlen⟩ := hes r' f List.mem_cons_self
          have hown := h r' hr'
          rw [framesOf_frame_self] at hown
          obtain ⟨rs₁, hfeed, hreceived⟩ :=
            @received dbg overflowChecks rs r' hown.phase.receiving f hlen
          -- The frame goes to its own response; the others stay where they are.
          have hnext : ∀ r ∈ ids, Progress rs₁ r
              (if r = r' then done r ++ [f] else done r) (framesOf r es) := by
            intro r hr
            by_cases hrr : r = r'
            · subst hrr
              rw [if_pos rfl]
              exact hown.next hreceived hlen
            · have hother := h r hr
              rw [framesOf_frame_ne (Ne.symm hrr)] at hother
              rw [if_neg hrr]
              refine hother.of_untouched (hreceived.others r hrr) ?_ ?_
              · rw [hreceived.credit hlen, if_neg (Ne.symm hrr), add_zero]
              · rw [hreceived.queue]
          obtain ⟨rs', hrun, hend⟩ := ih rs₁ _ hes' hnext
          refine ⟨rs', ?_, fun r hr => ?_⟩
          · show (feed dbg overflowChecks rs (.frame r' f) >>= fun s =>
              es.foldlM (feed dbg overflowChecks) s) = _
            rw [hfeed]
            exact hrun
          · have hlast := hend r hr
            by_cases hrr : r = r'
            · subst hrr
              rw [framesOf_frame_self]
              simpa using hlast
            · rw [framesOf_frame_ne (Ne.symm hrr)]
              simpa [hrr] using hlast

/-- Demultiplexing is faithful: over every interleaving of the responses to any set of open
requests, and of the removals, each request gets its own header text once, its own chunks in
order and the end of its body, and its id gets the credit of all its bytes. -/
theorem demux_faithful (dbg : DebugText) (overflowChecks : Bool) (ids : Set ReqId)
    (rs : RouterSocketV3) (es : List Event) (hqueue : rs.wssSendTask.closed = false)
    (hopen : ∀ r ∈ ids, Awaiting rs r) (hes : Admissible ids es)
    (hresponse : ∀ r ∈ ids, Response (framesOf r es)) :
    ∃ rs', feedAll dbg overflowChecks rs es = .ok rs' ∧
      ∀ r ∈ ids, (rs'.contexts r).tgtResHdr.sent = [.ok (headerText (framesOf r es))] ∧
        (rs'.contexts r).tgtResBdy.sent = (bodyChunks (framesOf r es)).map .ok ∧
        (rs'.contexts r).tgtResBdy.closed = true ∧
        rs'.credit r = totalLen (framesOf r es) := by
  have hstart : ∀ r ∈ ids, Progress rs r [] (framesOf r es) := by
    intro r hr
    have ho := hopen r hr
    refine ⟨ho.builder, by rw [ho.bdy]; rfl, ho.credit, .header ?_ ho.removals ?_ (hresponse r hr)⟩
    · exact ⟨ho.contextMap, ho.canSend, by rw [ho.hdr]; rfl, by rw [ho.bdy]; rfl, hqueue⟩
    · rw [ho.hdr]
      rfl
  obtain ⟨rs', hrun, hend⟩ := feedAll_progress ids es rs (fun _ => []) hes hstart
  refine ⟨rs', hrun, fun r hr => ?_⟩
  obtain ⟨-, hbdy, hcredit, hphase⟩ := hend r hr
  cases hphase with
  | header _ _ _ h => cases h
  | body _ _ _ h => cases h
  | ended hhdr hclosed => exact ⟨hhdr, hbdy, hclosed, hcredit⟩

/-- Requests 1 and 2 with their heads queued. -/
def bothSent : SocketPool :=
  (socketMachine plainText false).run Machine.anyAction freshSocket
    (twoRequests ++ [.task 2 (.answer none), .task 3 .go] ++
      List.replicate 4 (.task 1 .go) ++ List.replicate 4 (.task 3 .go))

/-- Two responses, one with a body, and their removals. -/
def interleaved : List Event :=
  [.frame 1 (header 0 "HTTP/1.1 200 OK\n"), .frame 2 (header 5 "HTTP/1.1 204 No Content\n"),
    .frame 1 (header 4 "a: b\n"), .frame 1 (data 0 [104, 105]), .removal 2, .frame 1 (data 1 []),
    .removal 1]

private theorem awaiting_bothSent (r : ReqId) (hr : r ∈ ({1, 2} : Set ReqId)) :
    Awaiting bothSent.shared.rs r := by
  obtain rfl | rfl := hr
  all_goals
    exact ⟨by decide +kernel, by decide +kernel, by decide +kernel, rfl, rfl, rfl, by decide +kernel⟩

private theorem admissible_interleaved : Admissible {1, 2} interleaved := by
  intro r f hmem
  simp only [interleaved, List.mem_cons, Event.frame.injEq, reduceCtorEq, List.not_mem_nil, or_false,
    false_or] at hmem
  obtain ⟨rfl, rfl⟩ | ⟨rfl, rfl⟩ | ⟨rfl, rfl⟩ | ⟨rfl, rfl⟩ | ⟨rfl, rfl⟩ := hmem
  all_goals exact ⟨by decide, by decide +kernel⟩

private theorem response_interleaved (r : ReqId) (hr : r ∈ ({1, 2} : Set ReqId)) :
    Response (framesOf r interleaved) := by
  obtain rfl | rfl := hr
  · exact .more rfl rfl (.lastHeader rfl rfl (.more rfl (.last rfl)))
  · exact .headerOnly rfl rfl

theorem demux_faithful_interleaved :
    ∃ rs', feedAll plainText false bothSent.shared.rs interleaved = .ok rs' ∧
      (rs'.contexts 1).tgtResHdr.sent = [.ok "HTTP/1.1 200 OK\na: b\n"] ∧
      (rs'.contexts 1).tgtResBdy.sent = [.ok [104, 105]] ∧
      (rs'.contexts 2).tgtResBdy.closed = true ∧ rs'.credit 1 = 23 := by
  obtain ⟨rs', hrun, hend⟩ := demux_faithful plainText false {1, 2} bothSent.shared.rs interleaved
    (by decide +kernel) awaiting_bothSent admissible_interleaved response_interleaved
  obtain ⟨hhdr, hbdy, -, hcredit⟩ := hend 1 (by decide)
  obtain ⟨-, -, hclosed, -⟩ := hend 2 (by decide)
  refine ⟨rs', hrun, ?_, hbdy, hclosed, hcredit.trans ?_⟩
  · rw [hhdr]
    decide +kernel
  · decide +kernel

end CrankerRouter.V3
