import CrankerRouter.V3.Step

/-!
# Isolation of requests

A frame for one request leaves every other request as it was, except through one path: a body
chunk that finds its own body channel closed writes its error into every open context.
-/

namespace CrankerRouter.V3

open Lib

/-- The request is as before: its context, its entry in the map and its pending removals. -/
structure Untouched (r : ReqId) (rs rs' : RouterSocketV3) : Prop where
  contexts : rs'.contexts r = rs.contexts r
  contextMap : r ∈ rs'.contextMap ↔ r ∈ rs.contextMap
  removals : rs'.removals.count r = rs.removals.count r

namespace Untouched

variable {r r' : ReqId} {rs rs₁ rs₂ : RouterSocketV3}

theorem refl (r : ReqId) (rs : RouterSocketV3) : Untouched r rs rs := ⟨rfl, Iff.rfl, rfl⟩

theorem trans (h₁ : Untouched r rs rs₁) (h₂ : Untouched r rs₁ rs₂) : Untouched r rs rs₂ :=
  ⟨h₂.contexts.trans h₁.contexts, h₂.contextMap.trans h₁.contextMap,
    h₂.removals.trans h₁.removals⟩

private theorem ite {c : Prop} [Decidable c] (h₁ : Untouched r rs rs₁) (h₂ : Untouched r rs rs₂) :
    Untouched r rs (if c then rs₁ else rs₂) := by
  split
  · exact h₁
  · exact h₂

theorem modify (h : Untouched r' rs rs₁) (hne : r' ≠ r) (f : RequestContext → RequestContext) :
    Untouched r' rs (rs₁.modify r f) :=
  h.trans ⟨rs₁.modify_contexts_ne hne f, Iff.rfl, rfl⟩

theorem sendData (h : Untouched r' rs rs₁) (m : Message) : Untouched r' rs (rs₁.sendData m) :=
  h.trans ⟨rfl, Iff.rfl, rfl⟩

theorem trySpawnRemoveReqCtx (h : Untouched r' rs rs₁) (hne : r' ≠ r) :
    Untouched r' rs (rs₁.trySpawnRemoveReqCtx r) := by
  refine h.trans ⟨rfl, Iff.rfl, ?_⟩
  show (rs₁.removals ++ [r]).count r' = _
  rw [List.count_append, List.count_singleton]
  simp [hne.symm]

theorem callOnComplete (h : Untouched r' rs rs₁) (r : ReqId) :
    Untouched r' rs (rs₁.callOnComplete r) :=
  h.trans ⟨rfl, Iff.rfl, rfl⟩

theorem raiseCompletionEvent (h : Untouched r' rs rs₁) (hne : r' ≠ r) :
    Untouched r' rs (rs₁.raiseCompletionEvent r) := by
  unfold RouterSocketV3.raiseCompletionEvent
  exact ite ((h.modify hne _).callOnComplete r) h

theorem sendErr (h : Untouched r' rs rs₁) (hne : r' ≠ r) (ex : CrankerRouterException) :
    Untouched r' rs (rs₁.sendErr r ex) := by
  unfold RouterSocketV3.sendErr RouterSocketV3.sendHdr RouterSocketV3.sendBdy
  exact (h.modify hne _).modify hne _

theorem notifyClientRequestError (h : Untouched r' rs rs₁) (hne : r' ≠ r)
    (crex : CrankerRouterException) : Untouched r' rs (rs₁.notifyClientRequestError r crex) :=
  (((h.modify hne _).sendErr hne _).raiseCompletionEvent hne).trySpawnRemoveReqCtx hne

theorem failPrior (h : Untouched r' rs rs₁) (hne : r' ≠ r) (code : Nat) :
    Untouched r' rs (rs₁.failPrior r code) := by
  unfold RouterSocketV3.failPrior
  refine ite ?_ h
  cases cliFailPriorToTgtRes code with
  | none => exact h
  | some ex => exact h.sendErr hne ex

theorem closeChannels (h : Untouched r' rs rs₁) (hne : r' ≠ r) (code : Nat)
    (optReason : Option String) : Untouched r' rs (rs₁.closeChannels r code optReason) := by
  unfold RouterSocketV3.closeChannels
  exact ite (((ite h (h.sendErr hne _)).modify hne _).modify hne _) h

theorem notifyClientRequestClose (h : Untouched r' rs rs₁) (hne : r' ≠ r) (code : Nat)
    (optReason : Option String) :
    Untouched r' rs (rs₁.notifyClientRequestClose r code optReason) :=
  (((h.failPrior hne code).closeChannels hne code optReason).raiseCompletionEvent
    hne).trySpawnRemoveReqCtx hne

theorem resetStream (h : Untouched r' rs rs₁) (hne : r' ≠ r) (errCode : BitVec 32) (msg : String) :
    Untouched r' rs (rs₁.resetStream r errCode msg) := by
  unfold RouterSocketV3.resetStream
  exact (ite ((h.sendData _).modify hne _) h).trySpawnRemoveReqCtx hne

end Untouched

variable {dbg : DebugText} {overflowChecks : Bool} {r r' : ReqId}

private theorem settle_untouched {rs : RouterSocketV3} {out : RouterSocketV3 × Outcome}
    (h : Untouched r' rs out.1) (hne : r' ≠ r) : Untouched r' rs (settle r out) := by
  obtain ⟨rs₁, res⟩ := out
  cases res with
  | ok _ => exact h
  | error crex => exact (h.notifyClientRequestError hne crex).resetStream hne _ _

/-- A chunk that finds its body channel closed. -/
def BodyClosed (rs : RouterSocketV3) (r : ReqId) (bin : Bytes) : Prop :=
  (rs.contexts r).isTgtCanSendResNow = true ∧ bin.length ≠ 0 ∧ (rs.contexts r).tgtResBdy.closed = true

theorem Untouched.storeEndStreamIf {rs rs₁ : RouterSocketV3} (h : Untouched r' rs rs₁)
    (hne : r' ≠ r) (isEnd : Bool) : Untouched r' rs (rs₁.storeEndStreamIf r isEnd) := by
  unfold RouterSocketV3.storeEndStreamIf
  exact ite (h.modify hne _) h

theorem Untouched.closeIf {rs rs₁ : RouterSocketV3} (h : Untouched r' rs rs₁)
    (hne : r' ≠ r) (isEnd : Bool) : Untouched r' rs (rs₁.closeIf r isEnd) := by
  unfold RouterSocketV3.closeIf
  exact ite (h.notifyClientRequestClose hne 1000 none) h

private theorem creditHeader_untouched {rs rs₁ : RouterSocketV3} (h : Untouched r' rs rs₁)
    (len : Nat) :
    Untouched r' rs (creditHeader dbg rs₁ r len).1 := by
  unfold creditHeader
  split
  · exact h
  · exact h.sendData _

theorem handleHeader_untouched (rs : RouterSocketV3) (flags : UInt8) (bin : Bytes) (hne : r' ≠ r) :
    Untouched r' rs (handleHeader dbg rs r flags bin).1 := by
  have hrefl := Untouched.refl r' rs
  have hend := hrefl.storeEndStreamIf hne (judgeIsStreamEndFromFlags flags)
  unfold handleHeader
  split
  · exact hrefl
  unfold appendHeader
  split
  · exact hend
  cases fromUtf8 bin with
  | none => exact hend
  | some content =>
      have hpush : Untouched r' rs
          ((rs.storeEndStreamIf r (judgeIsStreamEndFromFlags flags)).pushHeader r content) :=
        hend.modify hne _
      simp only
      split
      · unfold sendHeader
        split
        · exact hpush
        · exact creditHeader_untouched ((hpush.modify hne _).closeIf hne _) _
      · exact creditHeader_untouched (hpush.closeIf hne _) _

private theorem bodyListeners_fst (answer : Option CrankerRouterException)
    (out : RouterSocketV3 × Outcome) :
    (bodyListeners answer out).1 = out.1 := by
  obtain ⟨rs, res⟩ := out
  unfold bodyListeners
  simp only
  split <;> rfl

/-- The socket just before a chunk is sent. -/
abbrev beforeChunk (rs : RouterSocketV3) (r : ReqId) (flags : UInt8) : RouterSocketV3 :=
  (rs.storeEndStreamIf r (judgeIsStreamEndFromFlags flags)).countBinary r

theorem beforeChunk_closed (rs : RouterSocketV3) (r : ReqId) (flags : UInt8) :
    ((beforeChunk rs r flags).contexts r).tgtResBdy.closed = (rs.contexts r).tgtResBdy.closed := by
  unfold beforeChunk RouterSocketV3.countBinary RouterSocketV3.storeEndStreamIf
    RouterSocketV3.storeEndStreamReceived
  split <;> simp

private theorem beforeChunk_untouched (rs : RouterSocketV3) (flags : UInt8) (hne : r' ≠ r) :
    Untouched r' rs (beforeChunk rs r flags) :=
  ((Untouched.refl r' rs).storeEndStreamIf hne _).modify hne _

/-- A chunk that is delivered touches its own request only. -/
theorem handleData_untouched (rs : RouterSocketV3) (flags : UInt8) (bin : Bytes)
    (answer : Option CrankerRouterException) (hne : r' ≠ r) (hopen : ¬BodyClosed rs r bin) :
    Untouched r' rs (handleData dbg rs r flags bin answer).1 := by
  unfold handleData
  simp only
  split
  · exact .refl r' rs
  rename_i hsend
  split
  · exact ((Untouched.refl r' rs).storeEndStreamIf hne _).closeIf hne _
  rename_i hlen
  have hbdy : ¬((beforeChunk rs r flags).contexts r).tgtResBdy.closed = true := by
    rw [beforeChunk_closed]
    intro hclosed
    exact hopen ⟨by simpa using hsend, hlen, hclosed⟩
  rw [bodyListeners_fst]
  unfold sendBody
  rw [if_neg hbdy]
  exact ((((beforeChunk_untouched rs flags hne).modify hne _).closeIf hne _).modify hne _).sendData _

private theorem handleData_of_bodyClosed (rs : RouterSocketV3) (flags : UInt8) (bin : Bytes)
    (answer : Option CrankerRouterException) (h : BodyClosed rs r bin) :
    (handleData dbg rs r flags bin answer).1 =
      (beforeChunk rs r flags).tryProvideGeneralError (bodyChanClosed dbg) := by
  obtain ⟨hsend, hlen, hclosed⟩ := h
  unfold handleData
  simp only [hsend, Bool.not_true, Bool.false_eq_true, ↓reduceIte, hlen]
  rw [bodyListeners_fst]
  unfold sendBody
  rw [if_pos (by rw [beforeChunk_closed]; exact hclosed)]

private theorem handleRstStream_untouched {rs : RouterSocketV3} {bin : Bytes}
    {out : RouterSocketV3 × Outcome} (h : handleRstStream rs r bin = .ok out) (hne : r' ≠ r) :
    Untouched r' rs out.1 := by
  obtain ⟨code, rest, hcode⟩ := getErrorCode_ok bin
  simp only [handleRstStream, hcode, bind, Except.bind, pure, Except.pure, Except.ok.injEq] at h
  subst h
  exact (Untouched.refl r' rs).notifyClientRequestError hne _

private theorem handleWindowUpdate_untouched {rs : RouterSocketV3} {bin : Bytes}
    {out : RouterSocketV3 × Outcome} (h : handleWindowUpdate overflowChecks rs r bin = .ok out)
    (hne : r' ≠ r) : Untouched r' rs out.1 := by
  obtain ⟨ack, rfl⟩ := handleWindowUpdate_eq_ok h
  exact (Untouched.refl r' rs).modify hne (·.acked ack)

/-- The request a message is for. -/
def target? (b : Bytes) : Option ReqId := (head? b).map fun h => h.2.2.1

/-- A chunk for an open request whose body channel is closed: one that follows the end of its
stream, before its context is removed. -/
def LateChunk (rs : RouterSocketV3) (b : Bytes) : Prop :=
  ∃ flags r bin, head? b = some (messageTypeData, flags, r, bin) ∧ r ∈ rs.contextMap ∧
    BodyClosed rs r bin

private theorem dispatch_untouched {rs : RouterSocketV3} {type flags : UInt8} {bin : Bytes}
    {answer : Option CrankerRouterException} {out : RouterSocketV3 × Outcome}
    (h : dispatch dbg overflowChecks rs type flags r bin answer = .ok out) (hne : r' ≠ r)
    (hopen : type = messageTypeData → ¬BodyClosed rs r bin) : Untouched r' rs out.1 := by
  unfold dispatch at h
  split_ifs at h with hdata
  · cases h
    exact handleData_untouched rs flags bin answer hne (hopen hdata)
  · cases h
    exact handleHeader_untouched rs flags bin hne
  · exact handleRstStream_untouched h hne
  · exact handleWindowUpdate_untouched h hne
  · cases h
    exact .refl r' rs

private theorem tryProvideGeneralError_contexts (rs : RouterSocketV3)
    (crex : CrankerRouterException)
    (r : ReqId) : (rs.tryProvideGeneralError crex).contexts r = rs.contexts r ↔
      (r ∈ rs.contextMap → (rs.contexts r).error = some crex) := by
  unfold RouterSocketV3.tryProvideGeneralError
  by_cases hr : r ∈ rs.contextMap
  · simp only [hr, ↓reduceIte, true_imp_iff]
    constructor
    · intro h
      rw [← h]
    · intro h
      rw [← h]
  · simp [hr]

private theorem lateChunk_untouched_iff {rs : RouterSocketV3} {flags : UInt8} {bin : Bytes}
    (answer : Option CrankerRouterException) (hne : r' ≠ r) (h : BodyClosed rs r bin) :
    Untouched r' rs (settle r (handleData dbg rs r flags bin answer)) ↔
      (r' ∈ rs.contextMap → (rs.contexts r').error = some (bodyChanClosed dbg)) := by
  have hbefore := beforeChunk_untouched rs flags hne
  have hafter : Untouched r' ((beforeChunk rs r flags).tryProvideGeneralError (bodyChanClosed dbg))
      (settle r (handleData dbg rs r flags bin answer)) := by
    apply settle_untouched _ hne
    rw [handleData_of_bodyClosed rs flags bin answer h]
    exact .refl _ _
  rw [← hbefore.contextMap, ← hbefore.contexts, ← tryProvideGeneralError_contexts]
  constructor
  · intro hall
    rw [← hafter.contexts, hall.contexts, hbefore.contexts]
  · intro hctx
    have herror : Untouched r' (beforeChunk rs r flags)
        ((beforeChunk rs r flags).tryProvideGeneralError (bodyChanClosed dbg)) :=
      ⟨hctx, Iff.rfl, rfl⟩
    exact (hbefore.trans herror).trans hafter

/-- `on_binary` leaves every other request as it was, if and only if the message is no late chunk
or all open requests carry the error of a late chunk already. -/
theorem onBinary_isolates_iff (dbg : DebugText) (overflowChecks : Bool) (rs rs' : RouterSocketV3)
    (b : Bytes) (answer : Option CrankerRouterException)
    (h : onBinary dbg overflowChecks rs b answer = .ok (rs', .ok ())) :
    (∀ r', target? b ≠ some r' → Untouched r' rs rs') ↔
      (LateChunk rs b → ∀ r' ∈ rs.contextMap, target? b ≠ some r' →
        (rs.contexts r').error = some (bodyChanClosed dbg)) := by
  rw [onBinary_eq] at h
  cases hhead : head? b with
  | none =>
      rw [hhead] at h
      cases h
      simp [LateChunk, hhead, Untouched.refl]
  | some hd =>
      obtain ⟨type, flags, r, bin⟩ := hd
      have htarget : ∀ r', target? b ≠ some r' ↔ r' ≠ r := by
        intro r'
        simp [target?, hhead, eq_comm]
      have hlate : LateChunk rs b ↔
          type = messageTypeData ∧ r ∈ rs.contextMap ∧ BodyClosed rs r bin := by
        simp only [LateChunk, hhead, Option.some.injEq, Prod.mk.injEq]
        constructor
        · rintro ⟨_, _, _, ⟨rfl, rfl, rfl, rfl⟩, hr, hclosed⟩
          exact ⟨rfl, hr, hclosed⟩
        · rintro ⟨rfl, hr, hclosed⟩
          exact ⟨flags, r, bin, ⟨rfl, rfl, rfl, rfl⟩, hr, hclosed⟩
      simp only [htarget, hlate]
      rw [hhead] at h
      by_cases hr : r ∈ rs.contextMap
      · simp only [hr, ↓reduceIte] at h
        cases hout : dispatch dbg overflowChecks rs type flags r bin answer with
        | error e => simp [hout, Except.map] at h
        | ok out =>
            obtain rfl : settle r out = rs' := by simpa [hout, Except.map] using h
            by_cases hclosed : type = messageTypeData ∧ BodyClosed rs r bin
            · obtain ⟨rfl, hclosed⟩ := hclosed
              obtain rfl : handleData dbg rs r flags bin answer = out := by
                simpa [dispatch] using hout
              simp only [hr, hclosed, true_and, true_imp_iff]
              constructor
              · intro hall r' hr' hne
                exact (lateChunk_untouched_iff answer hne hclosed).mp (hall r' hne) hr'
              · intro hall r' hne
                exact (lateChunk_untouched_iff answer hne hclosed).mpr fun hr' => hall r' hr' hne
            · have hopen : type = messageTypeData → ¬BodyClosed rs r bin :=
                fun htype hbody => hclosed ⟨htype, hbody⟩
              refine iff_of_true (fun r' hne => ?_) fun ⟨htype, _, hbody⟩ => absurd hbody (hopen htype)
              exact settle_untouched (dispatch_untouched hout hne hopen) hne
      · simp only [hr, ↓reduceIte] at h
        cases h
        simp [hr, Untouched.refl]

/-- Requests 1 and 2 are open and the sender of request 1 has started. -/
def twoRequests : List Label :=
  [.request "GET /a HTTP/1.1\n\n" false, .task 0 .go, .task 0 .go, .task 0 .go,
    .task 0 (.answer none), .task 1 .go,
    .request "GET /b HTTP/1.1\n\n" false, .task 2 .go, .task 2 .go, .task 2 .go]

def twoOpen : SocketPool :=
  (socketMachine plainText false).run Machine.anyAction freshSocket twoRequests

/-- The target has ended request 1, and its removal has not run. -/
def oneEnded : SocketPool :=
  (socketMachine plainText false).run Machine.anyAction freshSocket
    (twoRequests ++ .receive [0, 1, 0, 0, 0, 1] :: List.replicate 7 (.recv .go))

/-- A chunk for request 1. -/
def chunkForOne : Bytes := [0, 0, 0, 0, 0, 1, 65]

theorem onBinary_isolates_chunkForOne :
    onBinary plainText false twoOpen.shared.rs chunkForOne none =
      .ok (settle 1 (handleData plainText twoOpen.shared.rs 1 0 [65] none), .ok ()) ∧
    ∀ r', target? chunkForOne ≠ some r' → Untouched r' twoOpen.shared.rs
      (settle 1 (handleData plainText twoOpen.shared.rs 1 0 [65] none)) := by
  have hret : onBinary plainText false twoOpen.shared.rs chunkForOne none =
      .ok (settle 1 (handleData plainText twoOpen.shared.rs 1 0 [65] none), .ok ()) := rfl
  refine ⟨hret, (onBinary_isolates_iff plainText false _ _ chunkForOne none hret).mpr ?_⟩
  rintro ⟨flags, r, bin, hhead, -, -, -, hclosed⟩
  obtain rfl : 1#32 = r := by
    have hid : head? chunkForOne = some (0, 0, 1#32, [65]) := rfl
    rw [hid] at hhead
    cases hhead
    rfl
  exact absurd hclosed (by decide +kernel)

/-- The same chunk after the end of its stream writes its error into request 2. -/
theorem lateChunk_leaks :
    (socketMachine plainText false).Reachable Machine.anyAction oneEnded ∧
    1#32 ∈ oneEnded.shared.rs.contextMap ∧ 2#32 ∈ oneEnded.shared.rs.contextMap ∧
    (oneEnded.shared.rs.contexts 2).error = none ∧
    ∃ rs', onBinary plainText false oneEnded.shared.rs chunkForOne none = .ok (rs', .ok ()) ∧
      (rs'.contexts 2).error = some (bodyChanClosed plainText) :=
  ⟨Machine.reachable_run _ _ (init_freshSocket false) _, by decide +kernel, by decide +kernel,
    rfl, _, rfl, rfl⟩

end CrankerRouter.V3
