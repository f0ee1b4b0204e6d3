import CrankerRouter.V3.Step

/-!
# Reads of `on_binary`

The head of a message is read behind length checks, and so is the error code of a reset.  The
amount of a window update is not, and its negation overflows at the least `i32`.
-/

namespace CrankerRouter.V3

open Lib

/-- A window update for an open request carries its amount, and where arithmetic is checked the
amount can be negated. -/
def WindowUpdateReadable (overflowChecks : Bool) (rs : RouterSocketV3) (b : Bytes) : Prop :=
  ∀ flags r bin, head? b = some (messageTypeWindowUpdate, flags, r, bin) → r ∈ rs.contextMap →
    4 ≤ bin.length ∧
      (overflowChecks = true → ∀ rest, Bytes.getI32 bin ≠ .ok (BitVec.intMin 32, rest))

variable {dbg : DebugText} {overflowChecks : Bool}

private theorem targetConnectorAckBytes_isOk (overflowChecks : Bool) (ctx : RequestContext)
    (ack : BitVec 32) :
    (ctx.targetConnectorAckBytes overflowChecks ack).isOk = true ↔
      ¬(overflowChecks = true ∧ ack = BitVec.intMin 32) := by
  unfold RequestContext.targetConnectorAckBytes
  split_ifs with h <;> simp_all [Except.isOk, Except.toBool]

private theorem handleRstStream_isOk (rs : RouterSocketV3) (r : ReqId) (bin : Bytes) :
    (handleRstStream rs r bin).isOk = true := by
  obtain ⟨code, rest, h⟩ := getErrorCode_ok bin
  simp only [handleRstStream, h]
  rfl

private theorem getI32_eq_ok_of_le {bin : Bytes} (h : 4 ≤ bin.length) :
    ∃ x rest, Bytes.getI32 bin = .ok (x, rest) := by
  cases hread : Bytes.getI32 bin with
  | ok out => exact ⟨out.1, out.2, rfl⟩
  | error e =>
      have hlen : bin.length < 4 := by
        cases e with
        | shortRead => exact (Bytes.getI32_eq_error_iff bin).mp hread
        | overflow =>
            unfold Bytes.getI32 at hread
            split at hread <;> cases hread
      omega

private theorem handleWindowUpdate_isOk (rs : RouterSocketV3) (r : ReqId) (bin : Bytes) :
    (handleWindowUpdate overflowChecks rs r bin).isOk = true ↔
      4 ≤ bin.length ∧
        (overflowChecks = true → ∀ rest, Bytes.getI32 bin ≠ .ok (BitVec.intMin 32, rest)) := by
  unfold handleWindowUpdate
  by_cases hlen : 4 ≤ bin.length
  · obtain ⟨ack, rest, hread⟩ := getI32_eq_ok_of_le hlen
    have hack := targetConnectorAckBytes_isOk overflowChecks (rs.contexts r) ack
    have hneg : (∀ rest', Bytes.getI32 bin ≠ .ok (BitVec.intMin 32, rest')) ↔
        ack ≠ BitVec.intMin 32 := by
      constructor
      · intro hne heq
        exact hne rest (by rw [hread, heq])
      · intro hne rest' heq
        rw [hread] at heq
        simp only [Except.ok.injEq, Prod.mk.injEq] at heq
        exact hne heq.1
    rw [hneg, hread]
    cases hctx : (rs.contexts r).targetConnectorAckBytes overflowChecks ack with
    | error e =>
        rw [hctx] at hack
        simp_all [bind, Except.bind, Except.isOk, Except.toBool]
    | ok ctx =>
        rw [hctx] at hack
        simp_all [bind, Except.bind, pure, Except.pure, Except.isOk, Except.toBool]
  · have hread : Bytes.getI32 bin = .error .shortRead :=
      (Bytes.getI32_eq_error_iff bin).mpr (by omega)
    simp [hlen, hread, bind, Except.bind, Except.isOk, Except.toBool]

private theorem dispatch_isOk (rs : RouterSocketV3) (type flags : UInt8) (r : ReqId) (bin : Bytes)
    (answer : Option CrankerRouterException) :
    (dispatch dbg overflowChecks rs type flags r bin answer).isOk = true ↔
      (type = messageTypeWindowUpdate → (handleWindowUpdate overflowChecks rs r bin).isOk = true) := by
  unfold dispatch
  split_ifs with hdata hheader hrst hwindow
  · simp [hdata, messageTypeData, messageTypeWindowUpdate, Except.isOk, Except.toBool]
  · simp [hheader, messageTypeHeader, messageTypeWindowUpdate, Except.isOk, Except.toBool]
  · simp [hrst, handleRstStream_isOk, messageTypeRstStream, messageTypeWindowUpdate]
  · simp [hwindow]
  · simp [hwindow, Except.isOk, Except.toBool]

private theorem windowUpdateReadable_iff {rs : RouterSocketV3} {b : Bytes} {type flags : UInt8}
    {r : ReqId}
    {bin : Bytes} (h : head? b = some (type, flags, r, bin)) :
    WindowUpdateReadable overflowChecks rs b ↔
      (r ∈ rs.contextMap → type = messageTypeWindowUpdate →
        (handleWindowUpdate overflowChecks rs r bin).isOk = true) := by
  constructor
  · intro hread hr htype
    subst htype
    exact (handleWindowUpdate_isOk rs r bin).mpr (hread flags r bin h hr)
  · intro hread flags' r' bin' hhead hr
    simp only [h, Option.some.injEq, Prod.mk.injEq] at hhead
    obtain ⟨htype, -, rfl, rfl⟩ := hhead
    exact (handleWindowUpdate_isOk rs r bin).mp (hread hr htype)

/-- `on_binary` returns `Ok(())` exactly on the messages whose window update it can read. -/
theorem onBinary_returns_iff (dbg : DebugText) (overflowChecks : Bool) (rs : RouterSocketV3)
    (b : Bytes) (answer : Option CrankerRouterException) :
    (∃ rs', onBinary dbg overflowChecks rs b answer = .ok (rs', .ok ())) ↔
      WindowUpdateReadable overflowChecks rs b := by
  rw [onBinary_eq]
  cases hhead : head? b with
  | none => simp [WindowUpdateReadable, hhead]
  | some h =>
      obtain ⟨type, flags, r, bin⟩ := h
      rw [windowUpdateReadable_iff hhead]
      by_cases hr : r ∈ rs.contextMap
      · have hok : _ ↔ _ := @dispatch_isOk dbg overflowChecks rs type flags r bin answer
        simp only [hr, ↓reduceIte, true_imp_iff, ← hok]
        cases dispatch dbg overflowChecks rs type flags r bin answer <;>
          simp [Except.map, Except.isOk, Except.toBool]
      · simp [hr]

/-- One request, with id 1, whose context is in the map. -/
def oneRequest (overflowChecks : Bool) : SocketPool :=
  (socketMachine plainText overflowChecks).run Machine.anyAction freshSocket
    [.request "GET / HTTP/1.1\n\n" false, .task 0 .go, .task 0 .go, .task 0 .go]

/-- A window update for that request with no amount aborts the router in both profiles, and one
with the least amount aborts it where arithmetic is checked. -/
theorem windowUpdate_panics :
    (∀ overflowChecks, (socketMachine plainText overflowChecks).Reachable Machine.anyAction
      (oneRequest overflowChecks)) ∧
    (∀ overflowChecks, onBinary plainText overflowChecks (oneRequest overflowChecks).shared.rs
      [8, 0, 0, 0, 0, 1] none = .error .shortRead) ∧
    onBinary plainText true (oneRequest true).shared.rs [8, 0, 0, 0, 0, 1, 128, 0, 0, 0] none =
      .error .overflow := by
  refine ⟨fun oc => Machine.reachable_run _ _ (init_freshSocket oc) _, ?_, ?_⟩
  · intro oc
    cases oc <;> rfl
  · rfl

end CrankerRouter.V3
