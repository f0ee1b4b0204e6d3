import CrankerRouter.V3.Isolation

/-!
# The receive pipe on its own

The operations of a received frame, run to their end without interruption, compute `on_binary`.
So what holds of the tasks under every interleaving is about the same handlers.
-/

namespace CrankerRouter.V3

open Lib

variable (dbg : DebugText) (overflowChecks : Bool) (answer : Option CrankerRouterException)

/-- The operations run to their end, with one answer of the listeners. -/
inductive Finishes : RouterSocketV3 → List Op → RouterSocketV3 → Prop
  | nil (rs : RouterSocketV3) : Finishes rs [] rs
  | run {rs rs₁ rs' : RouterSocketV3} {op : Op} {more ops : List Op}
      (hrun : op.run dbg overflowChecks rs (.answer answer) = some (rs₁, more))
      (h : Finishes rs₁ (more ++ ops) rs') : Finishes rs (op :: ops) rs'

variable {dbg overflowChecks answer}

theorem Finishes.exec {rs rs' : RouterSocketV3} {ops : List Op}
    (h : Finishes dbg overflowChecks answer rs ops rs') (x : Shared) (hx : x.rs = rs)
    (hops : x.recv = ops) :
    ∃ cs : List Choice, cs.foldlM (execRecv dbg overflowChecks) x =
      some { x with rs := rs', recv := [] } := by
  induction h generalizing x with
  | nil rs =>
      subst hx
      exact ⟨[], by simp [← hops]⟩
  | @run rs rs₁ rs' op more ops hrun _ ih =>
      subst hx
      obtain ⟨cs, hcs⟩ := ih { x with rs := rs₁, recv := more ++ ops } rfl rfl
      refine ⟨.answer answer :: cs, ?_⟩
      have hexec : execOp dbg overflowChecks x op (.answer answer) =
          some ({ x with rs := rs₁ }, more, []) := by
        unfold execOp
        split
        · cases hrun
        · cases hrun
        · rw [hrun]
          rfl
      have hstep : execRecv dbg overflowChecks x (.answer answer) =
          some { x with rs := rs₁, recv := more ++ ops } := by
        simp [execRecv, hops, hexec]
      rw [List.foldlM_cons, hstep]
      exact hcs

theorem Finishes.append {rs rs₁ rs' : RouterSocketV3} {ops ops' : List Op}
    (h : Finishes dbg overflowChecks answer rs ops rs₁)
    (h' : Finishes dbg overflowChecks answer rs₁ ops' rs') :
    Finishes dbg overflowChecks answer rs (ops ++ ops') rs' := by
  induction h with
  | nil rs => exact h'
  | run hrun _ ih =>
      rw [List.cons_append]
      refine .run hrun ?_
      rw [← List.append_assoc]
      exact ih h'

private theorem Finishes.of_run {rs rs₁ rs' : RouterSocketV3} {op : Op} {more : List Op}
    (hrun : op.run dbg overflowChecks rs (.answer answer) = some (rs₁, more))
    (h : Finishes dbg overflowChecks answer rs₁ more rs') :
    Finishes dbg overflowChecks answer rs [op] rs' := by
  refine .run hrun ?_
  rw [List.append_nil]
  exact h

variable (rs : RouterSocketV3) (r : ReqId)

private theorem notifyError_finishes (crex : CrankerRouterException) :
    Finishes dbg overflowChecks answer rs [.notify r (.notifyError crex)]
      (rs.notifyClientRequestError r crex) :=
  .run rfl <| .run rfl <| .run rfl <| .run rfl <| .run rfl <| .run rfl <| .nil _

private theorem resetStream_finishes (errCode : BitVec 32) (msg : String) :
    Finishes dbg overflowChecks answer rs [.notify r (.resetStream errCode msg)]
      (rs.resetStream r errCode msg) := by
  unfold RouterSocketV3.resetStream
  refine .of_run rfl ?_
  split
  · exact .run rfl <| .run rfl <| .run rfl <| .nil _
  · exact .run rfl <| .nil _

private theorem failFrame_finishes (crex : CrankerRouterException) :
    Finishes dbg overflowChecks answer rs (failFrame r crex) (settle r (rs, .error crex)) :=
  (notifyError_finishes rs r crex).append (resetStream_finishes _ r 1001 "Going away")

private theorem errOps_finishes (ex : CrankerRouterException) :
    Finishes dbg overflowChecks answer rs (errOps r ex) (rs.sendErr r ex) :=
  .run rfl <| .run rfl <| .nil _

private theorem notifyClose_finishes (code : Nat) (optReason : Option String) :
    Finishes dbg overflowChecks answer rs [.notify r (.notifyClose code optReason)]
      (rs.notifyClientRequestClose r code optReason) := by
  have hclose : ∀ rs' : RouterSocketV3, Finishes dbg overflowChecks answer rs'
      [.notify r (.checkClosed code optReason)] (rs'.closeChannels r code optReason) := by
    intro rs'
    unfold RouterSocketV3.closeChannels
    refine .of_run rfl ?_
    split
    · split
      · exact .run rfl <| .run rfl <| .nil _
      · exact (errOps_finishes rs' r _).append <| .run rfl <| .run rfl <| .nil _
    · exact .nil _
  refine .of_run rfl (.append ?_ ((hclose (rs.failPrior r code)).append <|
    .run rfl <| .run rfl <| .nil _))
  unfold RouterSocketV3.failPrior
  split
  · cases cliFailPriorToTgtRes code with
    | none => exact .nil _
    | some ex => exact errOps_finishes rs r ex
  · exact .nil _

private theorem closeIf_finishes (isEnd : Bool) :
    Finishes dbg overflowChecks answer rs (closeOpsIf r isEnd) (rs.closeIf r isEnd) := by
  cases isEnd with
  | false => exact .nil _
  | true => exact notifyClose_finishes rs r 1000 none

private theorem storeEndStreamIf_finishes (isEnd : Bool) :
    Finishes dbg overflowChecks answer rs (if isEnd then [.frame r .storeEndStream] else [])
      (rs.storeEndStreamIf r isEnd) := by
  cases isEnd with
  | false => exact .nil _
  | true => exact .run rfl <| .nil _

def Outcome.err : Outcome → Option CrankerRouterException
  | .ok _ => none
  | .error crex => some crex

private theorem bodyListeners_finishes (res : Outcome) :
    Finishes dbg overflowChecks answer rs [.frame r (.bodyListeners (Outcome.err res))]
      (settle r (bodyListeners answer (rs, res))) := by
  refine .of_run rfl ?_
  cases hneed : rs.reallyNeedOnResponseBodyChunkReceivedFromTarget <;> cases answer <;> cases res <;>
    simp only [listenerOps, bodyListeners, hneed, Outcome.err] <;>
    first
    | exact failFrame_finishes rs r _
    | exact .nil _

private theorem sendBody_finishes (isEndStream : Bool) (bin : Bytes) :
    Finishes dbg overflowChecks answer rs [.frame r (.sendBody isEndStream bin)]
      (settle r (bodyListeners answer (sendBody dbg rs r isEndStream bin))) := by
  unfold sendBody
  split
  · rename_i hclosed
    exact .of_run (if_pos hclosed) <|
      .run rfl <| bodyListeners_finishes _ r (.error (bodyChanClosed dbg))
  · rename_i hopen
    exact .of_run (if_neg hopen) <| (closeIf_finishes _ r isEndStream).append <|
      .run rfl <| .run rfl <| bodyListeners_finishes _ r (.ok ())

private theorem handleData_finishes (flags : UInt8) (bin : Bytes) :
    Finishes dbg overflowChecks answer rs [.frame r (.handleData flags bin)]
      (settle r (handleData dbg rs r flags bin answer)) := by
  unfold handleData
  simp only
  split
  · rename_i hsend
    exact .of_run (if_pos hsend) (failFrame_finishes rs r _)
  · rename_i hsend
    refine .of_run (if_neg hsend) ((storeEndStreamIf_finishes rs r _).append ?_)
    split
    · exact closeIf_finishes _ r _
    · exact .run rfl <| sendBody_finishes _ r _ bin

private theorem creditHeader_finishes (len : Nat) :
    Finishes dbg overflowChecks answer rs [.frame r (.creditHeader len)]
      (settle r (creditHeader dbg rs r len)) := by
  unfold creditHeader
  split
  · rename_i hclosed
    exact .of_run (if_pos hclosed) (failFrame_finishes rs r _)
  · rename_i hopen
    exact .of_run (if_neg hopen) (.nil _)

private theorem sendHeader_finishes (isStreamEnd : Bool) (len : Nat) :
    Finishes dbg overflowChecks answer rs [.frame r (.sendHeader isStreamEnd len)]
      (settle r (sendHeader dbg rs r isStreamEnd len)) := by
  unfold sendHeader
  split
  · rename_i hclosed
    exact .of_run (if_pos hclosed) (failFrame_finishes rs r _)
  · rename_i hopen
    exact .of_run (if_neg hopen) <|
      (closeIf_finishes _ r isStreamEnd).append (creditHeader_finishes _ r len)

private theorem appendHeader_finishes (flags : UInt8) (bin : Bytes) :
    Finishes dbg overflowChecks answer rs [.frame r (.appendHeader flags bin)]
      (settle r (appendHeader dbg rs r flags bin)) := by
  unfold appendHeader
  simp only
  split
  · rename_i hlong
    exact .of_run (if_pos hlong) (failFrame_finishes rs r _)
  rename_i hshort
  cases hutf8 : fromUtf8 bin with
  | none =>
      refine .of_run ((if_neg hshort).trans ?_) (failFrame_finishes rs r _)
      rw [hutf8]
  | some content =>
      refine .of_run ((if_neg hshort).trans (by rw [hutf8])) ?_
      simp only
      split
      · exact sendHeader_finishes _ r _ _
      · exact (closeIf_finishes _ r _).append (creditHeader_finishes _ r _)

private theorem handleHeader_finishes (flags : UInt8) (bin : Bytes) :
    Finishes dbg overflowChecks answer rs [.frame r (.handleHeader flags bin)]
      (settle r (handleHeader dbg rs r flags bin)) := by
  unfold handleHeader
  split
  · rename_i hsend
    exact .of_run (if_pos hsend) (failFrame_finishes rs r _)
  · rename_i hsend
    exact .of_run (if_neg hsend) <|
      (storeEndStreamIf_finishes rs r _).append (appendHeader_finishes _ r flags bin)

private theorem handleRstStream_finishes {bin : Bytes} {out : RouterSocketV3 × Outcome}
    (h : handleRstStream rs r bin = .ok out) :
    Finishes dbg overflowChecks answer rs [.frame r (.handleRstStream bin)] (settle r out) := by
  obtain ⟨code, rest, hcode⟩ := getErrorCode_ok bin
  simp only [handleRstStream, hcode, bind, Except.bind, pure, Except.pure, Except.ok.injEq] at h
  subst h
  have hrun : (FrameOp.handleRstStream bin).run dbg overflowChecks rs r (.answer answer) =
      some (rs, [.notify r (.notifyError (streamClosedByConnector rs r code (getErrorMessage rest)))]) := by
    simp only [FrameOp.run, hcode]
  exact .of_run hrun (notifyError_finishes rs r _)

private theorem handleWindowUpdate_finishes {bin : Bytes} {out : RouterSocketV3 × Outcome}
    (h : handleWindowUpdate overflowChecks rs r bin = .ok out) :
    Finishes dbg overflowChecks answer rs [.frame r (.handleWindowUpdate bin)] (settle r out) := by
  obtain ⟨ack, rfl⟩ := handleWindowUpdate_eq_ok h
  have hrun : (FrameOp.handleWindowUpdate bin).run dbg overflowChecks rs r (.answer answer) =
      some (rs.modify r (·.acked ack), []) := by
    simp only [FrameOp.run, h]
  exact .of_run hrun (.nil _)

private theorem dispatch_finishes {type flags : UInt8} {bin : Bytes}
    {out : RouterSocketV3 × Outcome}
    (h : dispatch dbg overflowChecks rs type flags r bin answer = .ok out) :
    Finishes dbg overflowChecks answer rs (frameOps type flags r bin) (settle r out) := by
  unfold dispatch at h
  unfold frameOps
  split_ifs at h ⊢
  · cases h
    exact handleData_finishes rs r flags bin
  · cases h
    exact handleHeader_finishes rs r flags bin
  · exact handleRstStream_finishes rs r h
  · exact handleWindowUpdate_finishes rs r h
  · cases h
    exact .nil rs

/-- A frame that arrives while the receive pipe is idle, and whose operations nothing interrupts,
leaves the socket as `on_binary` does. -/
theorem receive_computes_onBinary (x : Shared) (hidle : x.recv = []) (b : Bytes)
    {rs' : RouterSocketV3} (h : onBinary dbg overflowChecks x.rs b answer = .ok (rs', .ok ())) :
    ∃ cs : List Choice, cs.foldlM (execRecv dbg overflowChecks) (x.receive b) =
      some { x.receive b with rs := rs', recv := [] } := by
  rw [onBinary_eq] at h
  cases hhead : head? b with
  | none =>
      rw [hhead] at h
      cases h
      exact ⟨[], by simp [Shared.receive, hhead, ← hidle]⟩
  | some hd =>
      obtain ⟨type, flags, r, bin⟩ := hd
      rw [hhead] at h
      by_cases hr : r ∈ x.rs.contextMap
      · simp only [hr, ↓reduceIte] at h
        cases hout : dispatch dbg overflowChecks x.rs type flags r bin answer with
        | error e => simp [hout, Except.map] at h
        | ok out =>
            obtain rfl : settle r out = rs' := by simpa [hout, Except.map] using h
            refine (dispatch_finishes x.rs r hout).exec (x.receive b) ?_ ?_ <;>
              simp [Shared.receive, hhead, hr, Shared.noteFrame]
      · simp only [hr, ↓reduceIte] at h
        cases h
        exact ⟨[], by simp [Shared.receive, hhead, hr, ← hidle]⟩

end CrankerRouter.V3
