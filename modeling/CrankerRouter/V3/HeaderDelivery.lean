import CrankerRouter.V3.Codec
import CrankerRouter.V3.Isolation

/-!
# A header text and the end of its stream

The sender sets the end-of-stream flag on every part of a header text.  The receiver closes the
request at the first part that has it, so a text of several parts is lost if it also ends the
stream, whenever the removal of the context runs.
-/

namespace CrankerRouter.V3

open Lib

section Parts

variable {α : Type*}

private theorem toChunks_go_of_le {n : Nat} (xs : List α) (acc : Array α) (done : Array (List α))
    (h : acc.size + xs.length ≤ n) :
    List.toChunks.go n xs acc done = done.toList ++ [acc.toList ++ xs] := by
  induction xs generalizing acc with
  | nil => simp [List.toChunks.go]
  | cons x xs ih =>
      have hroom : ¬acc.size = n := by
        rw [List.length_cons] at h
        omega
      have hfits : (acc.push x).size + xs.length ≤ n := by
        rw [Array.size_push]
        rw [List.length_cons] at h
        omega
      have hgo := ih (acc.push x) hfits
      simpa [List.toChunks.go, hroom] using hgo

private theorem toChunks_of_le {n : Nat} {xs : List α} (hne : xs ≠ []) (h : xs.length ≤ n) :
    xs.toChunks n = [xs] := by
  cases xs with
  | nil => exact absurd rfl hne
  | cons x xs =>
      cases n with
      | zero => exact absurd h (Nat.not_succ_le_zero _)
      | succ n =>
          show List.toChunks.go (n + 1) xs #[x] #[] = [x :: xs]
          rw [toChunks_go_of_le _ _ _ (by simpa [Nat.add_comm] using h)]
          rfl

private theorem headerParts_of_le {t : String} (h : t.length ≤ headerChunkSize) :
    headerParts true t = [(true, t)] := by
  unfold headerParts
  split_ifs with hshort
  · rfl
  · have hne : t.toList ≠ [] := by
      intro hnil
      obtain rfl : t = "" := String.toList_eq_nil_iff.mp hnil
      exact hshort (by decide)
    rw [toChunks_of_le hne (by rwa [String.length_toList])]
    simp [headerChunks]

/-- The text of the parts. -/
def joinParts (parts : List (Bool × String)) : String :=
  parts.foldr (fun part text => part.2 ++ text) ""

private theorem joinParts_headerParts (t : String) : joinParts (headerParts true t) = t := by
  have hjoin : ∀ parts : List (Bool × String),
      utf8 (joinParts parts) = (parts.map fun part => utf8 part.2).flatten := by
    intro parts
    induction parts with
    | nil => rfl
    | cons part parts ih =>
        show utf8 (part.2 ++ joinParts parts) = _
        rw [utf8_append, ih, List.map_cons, List.flatten_cons]
  have hbytes := (hjoin (headerParts true t)).trans (headerParts_spec t).2.2
  have htext := congrArg fromUtf8 hbytes
  rw [fromUtf8_utf8, fromUtf8_utf8] at htext
  exact Option.some.inj htext

private theorem length_utf8_le (s : String) : (utf8 s).length ≤ 4 * s.length := by
  have hlist : ∀ cs : List Char, (utf8 (String.ofList cs)).length ≤ 4 * cs.length := by
    intro cs
    rw [utf8_ofList]
    induction cs with
    | nil => exact Nat.zero_le _
    | cons c cs ih =>
        have hsize := c.utf8Size_le_four
        rw [List.flatMap_cons, List.length_append, String.length_utf8EncodeChar, List.length_cons]
        omega
  have h := hlist s.toList
  rwa [String.ofList_toList, String.length_toList] at h

private theorem length_part_lt {t : String} {part : Bool × String} (h : part ∈ headerParts true t) :
    (utf8 part.2).length < 2 ^ 31 := by
  have hchars := (headerParts_spec t).2.1 part h
  have hbytes := length_utf8_le part.2
  unfold headerChunkSize at hchars
  omega

end Parts

section Frames

variable {dbg : DebugText} {overflowChecks : Bool} {r : ReqId} {rs : RouterSocketV3}

def headerFlags (isHeaderEnd isStreamEnd : Bool) : UInt8 :=
  (if isStreamEnd then endStreamFlagMask else 0) ||| (if isHeaderEnd then endHeaderFlagMask else 0)

private theorem onBinary_headerMessage (rs : RouterSocketV3) (isHeaderEnd isStreamEnd : Bool)
    (line : String)
    (answer : Option CrankerRouterException) :
    onBinary dbg overflowChecks rs (headerMessage r isHeaderEnd isStreamEnd line) answer =
      .ok (if r ∈ rs.contextMap then
        settle r (handleHeader dbg rs r (headerFlags isHeaderEnd isStreamEnd) (utf8 line))
        else rs, .ok ()) := by
  rw [onBinary_eq, headerMessage, head?_frame]
  by_cases hr : r ∈ rs.contextMap
  · rw [if_pos hr]
    exact if_pos hr
  · rw [if_neg hr]
    exact if_neg hr

/-- The context of `r` is open and `text` is what came of its header. -/
structure Reading (rs : RouterSocketV3) (r : ReqId) (text : String) : Prop where
  mem : r ∈ rs.contextMap
  kept : r ∉ rs.removals
  canSend : (rs.contexts r).isTgtCanSendResNow = true
  headerOpen : (rs.contexts r).tgtResHdr.closed = false
  headerUnsent : (rs.contexts r).tgtResHdr.sent = []
  bodyOpen : (rs.contexts r).tgtResBdy.closed = false
  notEnded : (rs.contexts r).isEndStreamReceivedFromTgt = false
  text : (rs.contexts r).headerLineBuilder = text
  queueOpen : rs.wssSendTask.closed = false

/-- The header was delivered once, and the stream has ended if `isEnd`. -/
structure HeaderDelivered (rs : RouterSocketV3) (r : ReqId) (text : String) (isEnd : Bool) :
    Prop where
  delivered : (rs.contexts r).tgtResHdr.sent = [.ok text]
  ended : (rs.contexts r).isEndStreamReceivedFromTgt = isEnd
  closed : (rs.contexts r).tgtResBdy.closed = isEnd

/-- The header channel was closed before anything was sent. -/
structure HeaderLost (ctx : RequestContext) : Prop where
  closed : ctx.tgtResHdr.closed = true
  unsent : ctx.tgtResHdr.sent = []

/-- The socket after the text of a part was read. -/
def partRead (rs : RouterSocketV3) (r : ReqId) (isStreamEnd : Bool) (line : String) :
    RouterSocketV3 :=
  (rs.storeEndStreamIf r isStreamEnd).pushHeader r line

variable {text line : String}

private theorem Reading.handleHeader_eq (h : Reading rs r text) (hlen : (utf8 line).length < 2 ^ 31)
    (isHeaderEnd isStreamEnd : Bool) :
    handleHeader dbg rs r (headerFlags isHeaderEnd isStreamEnd) (utf8 line) =
      if isHeaderEnd then
        sendHeader dbg (partRead rs r isStreamEnd line) r isStreamEnd (utf8 line).length
      else creditHeader dbg ((partRead rs r isStreamEnd line).closeIf r isStreamEnd) r
        (utf8 line).length := by
  unfold handleHeader appendHeader headerFlags
  rw [judgeIsStreamEndFromFlags_or, judgeIsHeaderEndFromFlags_or]
  simp only [h.canSend, Bool.not_true, Bool.false_eq_true, if_false, fromUtf8_utf8,
    if_neg (Nat.not_le.mpr hlen)]
  rfl

private theorem Reading.partRead_contexts (h : Reading rs r text) (isStreamEnd : Bool)
    (line : String) :
    (partRead rs r isStreamEnd line).contexts r =
      { rs.contexts r with
        headerLineBuilder := text ++ line
        isEndStreamReceivedFromTgt := isStreamEnd } := by
  have htext := h.text
  have hend := h.notEnded
  cases isStreamEnd with
  | false =>
      simp only [partRead, RouterSocketV3.storeEndStreamIf, RouterSocketV3.pushHeader,
        RouterSocketV3.modify_contexts_self, Bool.false_eq_true, if_false, htext]
      rw [← hend]
  | true =>
      simp [partRead, RouterSocketV3.storeEndStreamIf, RouterSocketV3.pushHeader,
        RouterSocketV3.storeEndStreamReceived, htext]

private theorem Reading.partRead_queueOpen (h : Reading rs r text) (isStreamEnd : Bool)
    (line : String) :
    (partRead rs r isStreamEnd line).wssSendTask.closed = false := by
  have hqueue := h.queueOpen
  cases isStreamEnd <;>
    simpa [partRead, RouterSocketV3.storeEndStreamIf, RouterSocketV3.pushHeader,
      RouterSocketV3.storeEndStreamReceived] using hqueue

private theorem creditHeader_of_open (h : rs.wssSendTask.closed = false) (len : Nat) :
    creditHeader dbg rs r len = (rs.sendData (chunkCredit r len), .ok ()) :=
  if_neg (by rw [h]; exact Bool.false_ne_true)

theorem Reading.more (h : Reading rs r text) (hlen : (utf8 line).length < 2 ^ 31) :
    Reading (settle r (handleHeader dbg rs r (headerFlags false false) (utf8 line))) r
      (text ++ line) := by
  have hctx := h.partRead_contexts false line
  rw [h.handleHeader_eq hlen]
  simp only [Bool.false_eq_true, if_false, RouterSocketV3.closeIf]
  rw [creditHeader_of_open (h.partRead_queueOpen false line)]
  refine ⟨h.mem, h.kept, ?_, ?_, ?_, ?_, ?_, ?_, ?_⟩
  · simpa [settle, hctx] using h.canSend
  · simpa [settle, hctx] using h.headerOpen
  · simpa [settle, hctx] using h.headerUnsent
  · simpa [settle, hctx] using h.bodyOpen
  · simp [settle, hctx]
  · simp [settle, hctx]
  · simpa [settle] using h.partRead_queueOpen false line

theorem Reading.last (h : Reading rs r text) (hlen : (utf8 line).length < 2 ^ 31)
    (isStreamEnd : Bool) :
    HeaderDelivered (settle r (handleHeader dbg rs r (headerFlags true isStreamEnd) (utf8 line))) r
      (text ++ line) isStreamEnd := by
  have hctx := h.partRead_contexts isStreamEnd line
  have hqueue := h.partRead_queueOpen isStreamEnd line
  generalize hread : partRead rs r isStreamEnd line = rs₁ at hctx hqueue
  have hhdr : (rs₁.contexts r).tgtResHdr.closed = false := by
    rw [hctx]
    exact h.headerOpen
  have hsent : ((rs₁.sendHdr r (.ok (text ++ line))).contexts r).tgtResHdr.sent =
      [.ok (text ++ line)] := by
    have hunsent := h.headerUnsent
    simp [RouterSocketV3.sendHdr, hctx, Chan.send, h.headerOpen, hunsent]
  have hbdy : ((rs₁.sendHdr r (.ok (text ++ line))).contexts r).tgtResBdy.closed = false := by
    simpa [RouterSocketV3.sendHdr, hctx] using h.bodyOpen
  have hend : ((rs₁.sendHdr r (.ok (text ++ line))).contexts r).isEndStreamReceivedFromTgt =
      isStreamEnd := by
    simp [RouterSocketV3.sendHdr, hctx]
  have hbuilder : (rs₁.contexts r).headerLineBuilder = text ++ line := by rw [hctx]
  rw [h.handleHeader_eq hlen, if_pos rfl, hread]
  unfold sendHeader
  rw [if_neg (by rw [hhdr]; exact Bool.false_ne_true), hbuilder,
    creditHeader_of_open (by rw [closeIf_wssSendTask]; exact hqueue)]
  obtain ⟨d, hd⟩ := closeIf_contexts (rs₁.sendHdr r (.ok (text ++ line))) r isStreamEnd
  refine ⟨?_, ?_, ?_⟩
  · show ((RouterSocketV3.closeIf _ r isStreamEnd).contexts r).tgtResHdr.sent = _
    rw [hd, hsent]
  · show ((RouterSocketV3.closeIf _ r isStreamEnd).contexts r).isEndStreamReceivedFromTgt = _
    rw [hd, hend]
  · show ((RouterSocketV3.closeIf _ r isStreamEnd).contexts r).tgtResBdy.closed = _
    rw [hd, hbdy, Bool.false_or]

private theorem Reading.cutShort (h : Reading rs r text) (hlen : (utf8 line).length < 2 ^ 31) :
    HeaderLost ((settle r (handleHeader dbg rs r (headerFlags false true) (utf8 line))).contexts r) := by
  have hctx := h.partRead_contexts true line
  obtain ⟨d, hd⟩ := closeIf_contexts (partRead rs r true line) r true
  rw [h.handleHeader_eq hlen, if_neg Bool.false_ne_true, creditHeader_of_open
    (by rw [closeIf_wssSendTask]; exact h.partRead_queueOpen true line)]
  refine ⟨?_, ?_⟩
  · show ((RouterSocketV3.closeIf _ r true).contexts r).tgtResHdr.closed = _
    rw [hd, Bool.or_true]
  · show ((RouterSocketV3.closeIf _ r true).contexts r).tgtResHdr.sent = _
    rw [hd, hctx]
    exact h.headerUnsent

end Frames

section Lost

variable {dbg : DebugText} {r : ReqId} {rs : RouterSocketV3}

namespace HeaderLost

theorem modify (h : HeaderLost (rs.contexts r)) {f : RequestContext → RequestContext}
    (hf : (f (rs.contexts r)).tgtResHdr = (rs.contexts r).tgtResHdr) :
    HeaderLost ((rs.modify r f).contexts r) := by
  rw [RouterSocketV3.modify_contexts_self]
  exact ⟨by rw [hf]; exact h.closed, by rw [hf]; exact h.unsent⟩

theorem sendErr (h : HeaderLost (rs.contexts r)) (ex : CrankerRouterException) :
    HeaderLost ((rs.sendErr r ex).contexts r) := by
  unfold RouterSocketV3.sendErr RouterSocketV3.sendHdr RouterSocketV3.sendBdy
  exact modify (modify h (Chan.send_of_closed h.closed _)) rfl

theorem raiseCompletionEvent (h : HeaderLost (rs.contexts r)) :
    HeaderLost ((rs.raiseCompletionEvent r).contexts r) := by
  obtain ⟨d, hd⟩ := rs.raiseCompletionEvent_contexts r
  rw [hd]
  exact ⟨h.closed, h.unsent⟩

theorem notifyClientRequestError (h : HeaderLost (rs.contexts r)) (crex : CrankerRouterException) :
    HeaderLost ((rs.notifyClientRequestError r crex).contexts r) := by
  have herror : HeaderLost ((rs.setError r crex).contexts r) := modify h rfl
  exact raiseCompletionEvent (sendErr herror _)

theorem closeIf (h : HeaderLost (rs.contexts r)) (isEnd : Bool) :
    HeaderLost ((rs.closeIf r isEnd).contexts r) := by
  obtain ⟨d, hd⟩ := closeIf_contexts rs r isEnd
  rw [hd]
  exact ⟨by simp [h.closed], h.unsent⟩

theorem storeEndStreamIf (h : HeaderLost (rs.contexts r)) (isEnd : Bool) :
    HeaderLost ((rs.storeEndStreamIf r isEnd).contexts r) := by
  unfold RouterSocketV3.storeEndStreamIf RouterSocketV3.storeEndStreamReceived
  split_ifs
  · exact modify h rfl
  · exact h

theorem settle {out : RouterSocketV3 × Outcome} (h : HeaderLost (out.1.contexts r)) :
    HeaderLost ((settle r out).contexts r) := by
  obtain ⟨rs₁, res⟩ := out
  cases res with
  | ok _ => exact h
  | error crex =>
      have herr := notifyClientRequestError h crex
      have hsent : ∀ m, HeaderLost ((((rs₁.notifyClientRequestError r crex).sendData
          m).storeRstStreamSent r).contexts r) := by
        intro m
        have hqueued : HeaderLost
            (((rs₁.notifyClientRequestError r crex).sendData m).contexts r) := herr
        exact modify hqueued rfl
      unfold V3.settle RouterSocketV3.resetStream
      dsimp only
      split_ifs
      · exact hsent _
      · exact herr

theorem creditHeader (h : HeaderLost (rs.contexts r)) (len : Nat) :
    HeaderLost ((creditHeader dbg rs r len).1.contexts r) := by
  unfold V3.creditHeader
  split_ifs
  · exact h
  · exact h

theorem handleHeader (h : HeaderLost (rs.contexts r)) (flags : UInt8) (bin : Bytes) :
    HeaderLost ((handleHeader dbg rs r flags bin).1.contexts r) := by
  have hend := storeEndStreamIf h (judgeIsStreamEndFromFlags flags)
  unfold V3.handleHeader appendHeader
  split
  · exact h
  · dsimp only
    split
    · exact hend
    · cases fromUtf8 bin with
      | none => exact hend
      | some content =>
          have hpush : HeaderLost (((rs.storeEndStreamIf r
              (judgeIsStreamEndFromFlags flags)).pushHeader r content).contexts r) :=
            modify hend rfl
          dsimp only
          split
          · unfold sendHeader
            rw [if_pos hpush.closed]
            exact hpush
          · exact creditHeader (closeIf hpush _) _

end HeaderLost

end Lost

section Fed

variable (dbg : DebugText) (overflowChecks : Bool)

/-- The frames are fed to `on_binary` in order, and pending removals run in between. -/
inductive Fed : RouterSocketV3 → List Bytes → RouterSocketV3 → Prop
  | done (rs : RouterSocketV3) : Fed rs [] rs
  | frame {rs rs₁ rs' : RouterSocketV3} {b : Bytes} {bs : List Bytes} {res : Outcome}
      (answer : Option CrankerRouterException)
      (hframe : onBinary dbg overflowChecks rs b answer = .ok (rs₁, res)) (hrest : Fed rs₁ bs rs') :
      Fed rs (b :: bs) rs'
  | remove {rs rs' : RouterSocketV3} {bs : List Bytes} (r : ReqId) (hr : r ∈ rs.removals)
      (hrest : Fed (rs.removeReqCtx r) bs rs') : Fed rs bs rs'

variable {dbg overflowChecks} {r : ReqId} {rs rs' : RouterSocketV3} {text : String}

private theorem fed_exists (dbg : DebugText) (overflowChecks : Bool) (rs : RouterSocketV3)
    (r : ReqId)
    (parts : List (Bool × String)) (e : Bool) :
    ∃ rs', Fed dbg overflowChecks rs (parts.map fun part => headerMessage r part.1 e part.2) rs' := by
  induction parts generalizing rs with
  | nil => exact ⟨rs, .done rs⟩
  | cons part parts ih =>
      obtain ⟨rs', hrest⟩ := ih _
      exact ⟨rs', .frame none (onBinary_headerMessage rs part.1 e part.2 none) hrest⟩

theorem Reading.remove (h : Reading rs r text) {r' : ReqId} (hr' : r' ∈ rs.removals) :
    Reading (rs.removeReqCtx r') r text := by
  have hne : r ≠ r' := by
    rintro rfl
    exact h.kept hr'
  refine ⟨?_, ?_, h.canSend, h.headerOpen, h.headerUnsent, h.bodyOpen, h.notEnded, h.text,
    h.queueOpen⟩
  · exact List.mem_filter.mpr ⟨h.mem, by simpa using hne⟩
  · exact fun hmem => h.kept (List.mem_of_mem_erase hmem)

private theorem HeaderDelivered.fed {e : Bool} (h : HeaderDelivered rs r text e) {bs : List Bytes}
    (hfed : Fed dbg overflowChecks rs bs rs') (hbs : bs = []) : HeaderDelivered rs' r text e := by
  induction hfed with
  | done rs => exact h
  | frame answer hframe hrest ih => cases hbs
  | remove r' hr' hrest ih => exact ih ⟨h.delivered, h.ended, h.closed⟩ hbs

private theorem HeaderLost.fed (h : HeaderLost (rs.contexts r)) {bs : List Bytes}
    (hfed : Fed dbg overflowChecks rs bs rs') {parts : List (Bool × String)} {e : Bool}
    (hbs : bs = parts.map fun part => headerMessage r part.1 e part.2) :
    HeaderLost (rs'.contexts r) := by
  induction hfed generalizing parts with
  | done rs => exact h
  | frame answer hframe hrest ih =>
      cases parts with
      | nil => cases hbs
      | cons part parts =>
          rw [List.map_cons, List.cons.injEq] at hbs
          obtain ⟨rfl, hbs⟩ := hbs
          rw [onBinary_headerMessage, Except.ok.injEq, Prod.mk.injEq] at hframe
          refine ih ?_ hbs
          rw [← hframe.1]
          split_ifs
          · exact .settle (.handleHeader h _ _)
          · exact h
  | remove r' hr' hrest ih => exact ih ⟨h.closed, h.unsent⟩ hbs

/-- A run over the parts of a header: all but the last are read, the last delivers the text.  With
the end of the stream on the first of several parts the header is lost. -/
private theorem Reading.fed (h : Reading rs r text) {bs : List Bytes}
    (hfed : Fed dbg overflowChecks rs bs rs') {parts : List (Bool × String)} {e : Bool} {n : Nat}
    (hbs : bs = parts.map fun part => headerMessage r part.1 e part.2)
    (hflags : parts.map Prod.fst = List.replicate n false ++ [true])
    (hlen : ∀ part ∈ parts, (utf8 part.2).length < 2 ^ 31) :
    if e = false ∨ n = 0 then HeaderDelivered rs' r (text ++ joinParts parts) e
    else HeaderLost (rs'.contexts r) := by
  induction hfed generalizing parts text n with
  | done rs =>
      obtain rfl : parts = [] := List.map_eq_nil_iff.mp hbs.symm
      simp at hflags
  | frame answer hframe hrest ih =>
      cases parts with
      | nil => cases hbs
      | cons part parts =>
          rw [List.map_cons, List.cons.injEq] at hbs
          obtain ⟨rfl, hbs⟩ := hbs
          rw [onBinary_headerMessage, Except.ok.injEq, Prod.mk.injEq, if_pos h.mem] at hframe
          obtain ⟨rfl, -⟩ := hframe
          have hpart := hlen part List.mem_cons_self
          obtain ⟨isHeaderEnd, line⟩ := part
          cases n with
          | zero =>
              obtain ⟨rfl, hnil⟩ : isHeaderEnd = true ∧ parts = [] := by simpa using hflags
              rw [if_pos (.inr rfl)]
              have hdelivered := (h.last hpart e).fed hrest (by rw [hbs, hnil]; rfl)
              simpa [joinParts, hnil] using hdelivered
          | succ n =>
              rw [List.map_cons, List.replicate_succ, List.cons_append, List.cons.injEq] at hflags
              obtain ⟨rfl, hflags⟩ := hflags
              cases e with
              | true =>
                  rw [if_neg (by simp)]
                  exact (h.cutShort hpart).fed hrest hbs
              | false =>
                  have hmore := ih (h.more hpart) hbs hflags
                    fun p hp => hlen p (List.mem_cons_of_mem _ hp)
                  rw [if_pos (.inl rfl)] at hmore ⊢
                  simpa [joinParts, String.append_assoc] using hmore
  | remove r' hr' hrest ih => exact ih (h.remove hr') hbs hflags hlen

private theorem length_le_of_one_part {t : String}
    (hflags : (headerParts true t).map Prod.fst = List.replicate 0 false ++ [true]) :
    t.length ≤ headerChunkSize := by
  have hjoin := joinParts_headerParts t
  cases hparts : headerParts true t with
  | nil => simp [hparts] at hflags
  | cons part parts =>
      obtain ⟨-, rfl⟩ : part.1 = true ∧ parts = [] := by simpa [hparts] using hflags
      have htext : part.2 = t := by simpa [joinParts, hparts] using hjoin
      rw [← htext]
      exact (headerParts_spec t).2.1 part (by rw [hparts]; exact List.mem_cons_self)

/-- A header that is sent in parts is delivered unless the end of the stream is on the first of
several. -/
theorem header_delivered_iff (dbg : DebugText) (overflowChecks : Bool) (rs : RouterSocketV3)
    (r : ReqId) (hopen : Reading rs r "") (t : String) (e : Bool) :
    ((∃ rs', Fed dbg overflowChecks rs (headerMessages r true e t) rs') ∧
        ∀ rs', Fed dbg overflowChecks rs (headerMessages r true e t) rs' →
          HeaderDelivered rs' r t e) ↔
      e = false ∨ t.length ≤ headerChunkSize := by
  obtain ⟨⟨n, hflags⟩, -, -⟩ := headerParts_spec t
  have hrun : ∀ rs', Fed dbg overflowChecks rs (headerMessages r true e t) rs' →
      if e = false ∨ n = 0 then HeaderDelivered rs' r t e else HeaderLost (rs'.contexts r) := by
    intro rs' hfed
    have h := hopen.fed hfed rfl hflags fun part hpart => length_part_lt hpart
    rwa [joinParts_headerParts, String.empty_append] at h
  have hone : n = 0 ↔ t.length ≤ headerChunkSize := by
    constructor
    · rintro rfl
      exact length_le_of_one_part hflags
    · intro hle
      rw [headerParts_of_le hle] at hflags
      have hlength := congrArg List.length hflags
      simpa using hlength.symm
  rw [← hone]
  obtain ⟨rs', hfed⟩ := fed_exists dbg overflowChecks rs r (headerParts true t) e
  constructor
  · rintro ⟨-, hall⟩
    by_contra hnot
    have hlost := hrun rs' hfed
    rw [if_neg hnot] at hlost
    have hdelivered := (hall rs' hfed).delivered
    rw [hlost.unsent] at hdelivered
    cases hdelivered
  · intro hcond
    refine ⟨⟨rs', hfed⟩, ?_⟩
    intro rs'' hfed''
    have h := hrun rs'' hfed''
    rwa [if_pos hcond] at h

private theorem reading_twoOpen : Reading twoOpen.shared.rs 1 "" where
  mem := by decide +kernel
  kept := by decide +kernel
  canSend := by decide +kernel
  headerOpen := by decide +kernel
  headerUnsent := by decide +kernel
  bodyOpen := by decide +kernel
  notEnded := by decide +kernel
  text := by decide +kernel
  queueOpen := by decide +kernel

/-- A short header that ends its stream. -/
theorem header_delivered_short :
    Reading twoOpen.shared.rs 1 "" ∧
      ∀ rs', Fed plainText false twoOpen.shared.rs
          (headerMessages 1 true true "HTTP/1.1 204 No Content\n") rs' →
        HeaderDelivered rs' 1 "HTTP/1.1 204 No Content\n" true :=
  ⟨reading_twoOpen, ((header_delivered_iff plainText false _ 1 reading_twoOpen _ true).mpr
    (.inr (by decide))).2⟩

/-- A header of 16001 characters that ends its stream is never delivered. -/
theorem long_header_lost :
    (∃ rs', Fed plainText false twoOpen.shared.rs
      (headerMessages 1 true true (String.ofList (List.replicate 16001 'a'))) rs') ∧
    ∀ rs', Fed plainText false twoOpen.shared.rs
        (headerMessages 1 true true (String.ofList (List.replicate 16001 'a'))) rs' →
      (rs'.contexts 1).tgtResHdr.sent = [] := by
  refine ⟨fed_exists _ _ _ _ _ _, ?_⟩
  intro rs' hfed
  obtain ⟨⟨n, hflags⟩, -, -⟩ :=
    headerParts_spec (String.ofList (List.replicate 16001 'a'))
  have hlong : n ≠ 0 := by
    rintro rfl
    have hle := length_le_of_one_part hflags
    rw [String.length_ofList, List.length_replicate] at hle
    exact absurd hle (by decide)
  have h := reading_twoOpen.fed hfed rfl hflags fun part hpart => length_part_lt hpart
  rw [if_neg (by simp [hlong])] at h
  exact h.unsent

end Fed

end CrankerRouter.V3
