import CrankerRouter.V3.Lifetime

/-!
# States in which nothing runs

An operation that cannot run waits for something, or a panic has ended its task; it is then the
last of its list.
-/

namespace CrankerRouter.V3

open Lib

variable {dbg : DebugText} {overflowChecks : Bool} {p : SocketPool} {r : ReqId}

/-- No task is runnable: the spawned removals have run, and every list is at its end, waits for the
client's next chunk, or cannot take its next operation whatever the outside decides. -/
def AtRest (dbg : DebugText) (overflowChecks : Bool) (p : SocketPool) : Prop :=
  p.shared.rs.removals = [] ∧ ∀ l ∈ lists p, ∀ op ∈ l.head?, (∃ r, op = .upload r .nextChunk) ∨
    ∀ c, execOp dbg overflowChecks p.shared op c = none

/-- The operations that can be unable to run: they wait, or a panic has ended their task. -/
def Op.blocks : Op → Bool
  | .request _ .recvHeader | .request _ .awaitStreamEnd | .upload _ .nextChunk
  | .upload _ (.awaitNotify _) | .frame _ (.handleRstStream _) | .frame _ (.handleWindowUpdate _)
  | .nextReqId _ _ => true
  | _ => false

private theorem RequestOp.exists_exec (x : Shared) {o : RequestOp}
    (ho : (Op.request r o).blocks = false) :
    ∃ c, (o.exec dbg x r c).isSome = true := by
  cases o with
  | insertCtx | checkEndStream => exact ⟨.go, rfl⟩
  | beforeProxyToTarget | respond | buildBody => exact ⟨.answer none, rfl⟩
  | checkIfContextExists =>
      refine ⟨.go, ?_⟩
      simp only [RequestOp.exec]
      split <;> rfl
  | _ => cases ho

private theorem FrameOp.exists_run (dbg : DebugText) (overflowChecks : Bool) (rs : RouterSocketV3)
    {o : FrameOp} (ho : (Op.frame r o).blocks = false) :
    ∃ c, (o.run dbg overflowChecks rs r c).isSome = true := by
  cases o with
  | bodyListeners res => exact ⟨.answer none, rfl⟩
  | appendHeader flags bin =>
      refine ⟨.go, ?_⟩
      simp only [FrameOp.run]
      split
      · rfl
      · split <;> rfl
  | handleRstStream | handleWindowUpdate => cases ho
  | storeEndStream | countBinary | addToClient | queueCredit | provideGeneralError => exact ⟨.go, rfl⟩
  | _ =>
      refine ⟨.go, ?_⟩
      simp only [FrameOp.run]
      split <;> rfl

private theorem UploadOp.exists_run (dbg : DebugText) (rs : RouterSocketV3) {o : UploadOp}
    (ho : (Op.upload r o).blocks = false) : ∃ c, (o.run dbg rs r c).isSome = true := by
  cases o with
  | beforeChunk | chunkListeners | afterSent => exact ⟨.answer none, rfl⟩
  | uploadHeader parts hasBody => exact ⟨.go, by cases parts <;> rfl⟩
  | nextChunk | awaitNotify => cases ho
  | _ => exact ⟨.go, rfl⟩

private theorem SocketOp.exists_run (rs : RouterSocketV3) (o : SocketOp) :
    ∃ c, (o.run rs c).isSome = true := by
  have hiter : ∀ todo visited : List ReqId, iterated rs todo visited = true ∨
      ∃ r, r ∈ rs.contextMap ∧ r ∉ visited := by
    intro todo visited
    by_cases hdone : iterated rs todo visited = true
    · exact .inl hdone
    · right
      simp only [iterated, List.all_eq_true, Bool.or_eq_true, List.contains_iff_mem,
        Bool.not_eq_true', not_forall, not_or] at hdone
      obtain ⟨r, -, hnot, hin⟩ := hdone
      exact ⟨r, by simpa using hin, hnot⟩
  cases o with
  | closeEach code optReason todo visited =>
      obtain hdone | ⟨r, hr⟩ := hiter todo visited
      · refine ⟨.stop, ?_⟩
        unfold SocketOp.run
        simp only [if_pos hdone]
        rfl
      · refine ⟨.visit r, ?_⟩
        unfold SocketOp.run
        simp only [if_pos hr]
        rfl
  | collect crex todo visited =>
      obtain hdone | ⟨r, hr⟩ := hiter todo visited
      · refine ⟨.stop, ?_⟩
        unfold SocketOp.run
        simp only [if_pos hdone]
        rfl
      · refine ⟨.visit r, ?_⟩
        unfold SocketOp.run
        simp only [if_pos hr]
        rfl
  | _ => exact ⟨.go, rfl⟩

theorem exists_execOp (dbg : DebugText) (overflowChecks : Bool) (x : Shared) {op : Op}
    (hop : op.blocks = false) : ∃ c, (execOp dbg overflowChecks x op c).isSome = true := by
  cases op with
  | notify r o => exact ⟨.go, rfl⟩
  | frame r o =>
      obtain ⟨c, hc⟩ := FrameOp.exists_run dbg overflowChecks x.rs hop
      exact ⟨c, by simpa [execOp, Op.run] using hc⟩
  | request r o => exact RequestOp.exists_exec x hop
  | upload r o =>
      obtain ⟨c, hc⟩ := UploadOp.exists_run dbg x.rs hop
      exact ⟨c, by simpa [execOp, Op.run] using hc⟩
  | socket o =>
      obtain ⟨c, hc⟩ := SocketOp.exists_run x.rs o
      exact ⟨c, by simpa [execOp, Op.run] using hc⟩
  | checkRemoved text hasBody => exact ⟨.go, rfl⟩
  | nextReqId text hasBody => cases hop

private theorem Op.not_mid_of_blocks {op : Op} (h : op.blocks = true) : op.mid = false := by
  cases op with
  | frame r o => cases o <;> first | rfl | cases h
  | upload r o => cases o <;> first | rfl | cases h
  | notify r o => cases h
  | socket o => cases h
  | _ => rfl

/-- At rest, a list is one operation that blocks. -/
theorem AtRest.blocks (hrest : AtRest dbg overflowChecks p) (htidy : Tidy p) {l : List Op} {o : Op}
    (hl : l ∈ lists p) (ho : o ∈ l) : l = [o] ∧ o.blocks = true := by
  cases l with
  | nil => cases ho
  | cons op rest =>
      have hblocks : op.blocks = true := by
        obtain ⟨r, rfl⟩ | hnone := hrest.2 _ hl op (by simp)
        · rfl
        · by_contra hnot
          obtain ⟨c, hc⟩ := exists_execOp dbg overflowChecks p.shared
            (by simpa using hnot : op.blocks = false)
          rw [hnone c] at hc
          cases hc
      obtain rfl := htidy.rest_nil hl (Op.not_mid_of_blocks hblocks)
      obtain rfl := List.mem_singleton.mp ho
      exact ⟨rfl, hblocks⟩

theorem AtRest.tally_eq_zero (hrest : AtRest dbg overflowChecks p) (htidy : Tidy p) {P : Op → Bool}
    (hP : ∀ o : Op, o.blocks = true → P o = false) : tally P p = 0 :=
  V3.tally_eq_zero fun _ hl o ho => hP o (hrest.blocks htidy hl ho).2

end CrankerRouter.V3
