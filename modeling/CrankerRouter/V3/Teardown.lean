import CrankerRouter.V3.Answers
import CrankerRouter.V3.Rest
import CrankerRouter.V3.Streams

/-!
# A teardown leaves no handler waiting

The error branch closes the send queue before it visits the contexts.  A request whose context the
visit misses was inserted after it, and its sender then finds the queue closed; a request that
left the map before was told so on its header channel.  Whatever the order, somebody tells the
handler.
-/

namespace CrankerRouter.V3

open Lib

variable {dbg : DebugText} {overflowChecks : Bool} {p q : SocketPool} {r : ReqId}

/-! ### The stages of the teardown -/

/-- `terminate_all_conn`, from the visit of the contexts to its end. -/
def Op.stage : Op → Bool
  | .socket (.visitToTerminate _) | .socket (.collect _ _ _) | .socket .retainNone => true
  | _ => false

/-- The contexts are still to be visited. -/
def Op.terminates : Op → Bool
  | .socket (.visitToTerminate _) => true
  | _ => false

/-- The iteration has visited the request, or will. -/
def Op.reaches (r : ReqId) (inMap : Bool) : Op → Bool
  | .socket (.collect _ todo visited) => visited.contains r || inMap && todo.contains r
  | _ => false

section Move

variable {x y : Shared} {op o : Op} {more : List Op} {ts : List Task}

private theorem Op.not_stage {op : Op} (h : op.isSocket = false) : op.stage = false := by
  cases op <;> first | rfl | cases h

private theorem Move.countP_stage (h : Move dbg x op y more ts) :
    more.countP Op.stage ≤ [op].countP Op.stage := by
  by_cases hsocket : op.isSocket = true
  · cases h with
    | socket o' c hrun =>
        cases socketMove_of_run hrun with
        | collectStop crex todo visited hall =>
            have hnotify : (visited.reverse.map fun r => Op.notify r (.notifyError crex)).countP
                Op.stage = 0 := by
              rw [List.countP_eq_zero]
              intro o ho
              obtain ⟨r, -, rfl⟩ := List.mem_map.mp ho
              exact Bool.false_ne_true
            rw [List.countP_append, hnotify]
            exact le_rfl
        | _ => simp [Op.stage, List.countP_cons]
    | _ => cases hsocket
  · have hzero : more.countP Op.stage = 0 := by
      rw [List.countP_eq_zero]
      intro o ho
      rw [Op.not_stage (h.isSocket_of_mem (by simpa using hsocket) ho)]
      exact Bool.false_ne_true
    omega

private theorem Op.isSocket_of_terminates (h : op.terminates = true) :
    ∃ crex, op = .socket (.visitToTerminate crex) := by
  cases op with
  | socket o => cases o <;> first | exact ⟨_, rfl⟩ | cases h
  | _ => cases h

private theorem Move.not_terminates_of_mem (h : Move dbg x op y more ts) (ho : o ∈ more) :
    o.terminates = false := by
  by_cases hsocket : op.isSocket = true
  · cases h with
    | socket o' c hrun => cases socketMove_of_run hrun <;> grind -ring -linarith [Op.terminates]
    | _ => cases hsocket
  · have hmem := h.isSocket_of_mem (by simpa using hsocket) ho
    cases o <;> first | rfl | cases hmem

end Move

/-- The stages of the teardown come one after the other, and none before the send queue is closed,
save the visit that stands after that in its list. -/
structure Staged (p : SocketPool) : Prop where
  single : tally Op.stage p ≤ 1
  up : p.shared.tornDown = false → tally Op.stage p = 0
  down : p.shared.tornDown = true → p.shared.rs.wssSendTask.closed = true ∨ 0 < tally Op.terminates p
  order : ∀ l ∈ lists p, ∀ crex, .socket (.visitToTerminate crex) ∈ l →
    l = teardownOps crex ∨ l = [.socket .closeSendTask, .socket (.visitToTerminate crex)] ∨
      p.shared.rs.wssSendTask.closed = true

section ListStep

variable {op : Op} {rest more : List Op} {spawned others : List (List Op)} {y : Shared}

theorem ListStep.tornDown (h : ListStep dbg p q op rest more spawned others y) :
    q.shared.tornDown = p.shared.tornDown := by
  obtain ⟨ts, hmove, -⟩ := h.move
  rw [h.shared]
  exact hmove.tornDown

private theorem ListStep.isSocket_of_spawned (h : ListStep dbg p q op rest more spawned others y)
    {l : List Op} (hl : l ∈ spawned) {o : Op} (ho : o ∈ l) : o.isSocket = false := by
  obtain ⟨r, text, hasBody, rfl⟩ | ⟨r, rfl⟩ := h.mem_spawned hl <;>
    (rw [List.mem_singleton.mp ho]; rfl)

private theorem Staged.closed_of_visit (hp : Staged p) {crex : CrankerRouterException}
    (h : .socket (.visitToTerminate crex) :: rest ∈ lists p) :
    p.shared.rs.wssSendTask.closed = true := by
  obtain heq | heq | hclosed := hp.order _ h crex (by simp)
  · cases heq
  · cases heq
  · exact hclosed

theorem Staged.list (hp : Staged p) (h : ListStep dbg p q op rest more spawned others y) :
    Staged q := by
  obtain ⟨ts, hmove, -⟩ := h.move
  have hmem : op :: rest ∈ lists p := h.mem_before.mpr (.inl rfl)
  have hclosed : p.shared.rs.wssSendTask.closed = true → q.shared.rs.wssSendTask.closed = true := by
    rw [h.rs_eq]
    exact hmove.queue_closed
  have hstage := h.tally_eq (P := Op.stage) (fun _ _ _ => rfl) fun _ => rfl
  have hcount := hmove.countP_stage
  have hsingle := hp.single
  constructor
  · omega
  · intro hup
    have hzero := hp.up (h.tornDown ▸ hup)
    omega
  · intro hdown
    obtain hqueue | hvisit := hp.down (h.tornDown ▸ hdown)
    · exact .inl (hclosed hqueue)
    · obtain hop | hvisit := h.tally_pos_next hvisit
      · obtain ⟨crex, rfl⟩ := Op.isSocket_of_terminates hop
        exact .inl (hclosed (hp.closed_of_visit hmem))
      · exact .inr hvisit
  · intro l hl crex hvisit
    obtain rfl | hl | hl := h.mem_after.mp hl
    · obtain hnew | hold := List.mem_append.mp hvisit
      · cases hmove.not_terminates_of_mem hnew
      · obtain heq | heq | hqueue := hp.order _ hmem crex (List.mem_cons_of_mem _ hold)
        · obtain ⟨rfl, rfl⟩ := List.cons.inj heq
          cases hmove with
          | socket o' c hrun =>
              cases hrun
              exact .inr (.inl rfl)
        · obtain ⟨rfl, rfl⟩ := List.cons.inj heq
          refine .inr (.inr ?_)
          rw [h.rs_eq]
          cases hmove with
          | socket o' c hrun =>
              cases hrun
              rfl
        · exact .inr (.inr (hclosed hqueue))
    · cases h.isSocket_of_spawned hl hvisit
    · exact (hp.order l (h.mem_before.mpr (.inr hl)) crex hvisit).imp_right (.imp_right hclosed)

end ListStep

section IdleStep

variable {gone new kept : List (List Op)}

private theorem Arrives.fail_or (h : Arrives p q new) :
    (∃ crex, new = [teardownOps crex] ∧ p.shared.tornDown = false ∧ q.shared.tornDown = true) ∨
      (∀ l ∈ new, ∀ o ∈ l, o.stage = false) ∧ ∀ crex, new ≠ [teardownOps crex] := by
  cases h with
  | fail crex hup hdown => exact .inl ⟨crex, rfl, hup, hdown⟩
  | frame type flags r bin hr =>
      right
      obtain hnil | ⟨o, hframe⟩ := frameOps_cases type flags r bin
      · simp [hnil, teardownOps]
      · simp [hframe, teardownOps, Op.stage]
  | _ => exact .inr (by simp [teardownOps, closeOps, Op.stage])

theorem Staged.idle (hp : Staged p) (htidy : Tidy p) (h : IdleStep p q gone new kept) :
    Staged q := by
  have hkept : ∀ l ∈ kept, l ∈ lists p := fun l hl =>
    h.before.mem_iff.mpr (List.mem_append_right _ hl)
  obtain ⟨crex, rfl, hup, hdown⟩ | ⟨hstage, hnot⟩ := h.arrives.fail_or
  · have hzero := hp.up hup
    have hbefore := tally_of_perm (P := Op.stage) h.before
    have hafter := tally_of_perm (P := Op.stage) h.after
    rw [Pool.total_append] at hbefore hafter
    have hone : Pool.total (List.countP Op.stage) [teardownOps crex] = 1 := rfl
    constructor
    · omega
    · intro h'
      rw [hdown] at h'
      cases h'
    · intro _
      right
      rw [tally_pos_iff]
      exact ⟨teardownOps crex, h.after.mem_iff.mpr (by simp), .socket (.visitToTerminate crex),
        by simp [teardownOps], rfl⟩
    · intro l hl crex' hvisit
      rw [h.queue]
      obtain hl | hl := List.mem_append.mp (h.after.mem_iff.mp hl)
      · obtain rfl := List.mem_singleton.mp hl
        obtain rfl : crex' = crex := by simpa [teardownOps] using hvisit
        exact .inl rfl
      · exact hp.order l (hkept l hl) crex' hvisit
  · have htorn : q.shared.tornDown = p.shared.tornDown := by
      obtain hsame | ⟨crex, hnew⟩ := h.tornDown
      · exact hsame
      · exact absurd hnew (hnot crex)
    have hle := h.tally_le hstage
    have hsingle := hp.single
    constructor
    · omega
    · intro hup
      have hzero := hp.up (htorn ▸ hup)
      omega
    · intro hdown
      rw [h.queue]
      refine (hp.down (htorn ▸ hdown)).imp_right (htidy.tally_pos_idle h ?_)
      intro o hawaits
      cases o <;> first | rfl | cases hawaits
    · intro l hl crex hvisit
      rw [h.queue]
      obtain hl | hl := List.mem_append.mp (h.after.mem_iff.mp hl)
      · cases hstage l hl _ hvisit
      · exact hp.order l (hkept l hl) crex hvisit

end IdleStep

/-! ### The handler is told -/

/-- The handler was told, or somebody is about to tell it. -/
def Answered (r : ReqId) (p : SocketPool) : Prop :=
  (p.shared.rs.contexts r).told = true ∨ 0 < tally (Op.tells r) p

/-- The request is on its way out, or the stream has ended. -/
def Concluded (r : ReqId) (p : SocketPool) : Prop :=
  (p.shared.rs.contexts r).isEndStreamReceivedFromTgt = true ∨ r ∈ p.shared.rs.removals ∨
    0 < tally (Op.follows r) p

/-- The teardown will find the request or has found it, or the request will find the queue
closed. -/
def Kept (r : ReqId) (p : SocketPool) : Prop :=
  r ∈ p.shared.rs.contextMap ∧ (p.shared.tornDown = false ∨ 0 < tally Op.terminates p) ∨
    0 < tally (Op.reaches r (decide (r ∈ p.shared.rs.contextMap))) p ∨
    p.shared.rs.wssSendTask.closed = true ∧ 0 < tally (Op.attempts r) p

/-- The handler has not read its header channel yet. -/
def Op.unread (r : ReqId) : Op → Bool
  | .request r' (.beforeProxyToTarget _ _) | .request r' .recvHeader => r' == r
  | _ => false

structure Attended (r : ReqId) (p : SocketPool) : Prop where
  orderly : Orderly r p
  staged : Staged p
  concluded : Started r p → Concluded r p → Answered r p
  heard : Started r p → Answered r p ∨ Kept r p
  reader : tally (Op.unread r) p ≤ 1
  unread : 0 < tally (Op.unread r) p → (p.shared.rs.contexts r).tgtResHdr.taken = 0

section ListStep

variable {op : Op} {rest more : List Op} {spawned others : List (List Op)} {y : Shared}

theorem Answered.list (hp : Answered r p) (h : ListStep dbg p q op rest more spawned others y)
    (hop : op.inserts r = false) : Answered r q := by
  obtain ⟨ts, hmove, -⟩ := h.move
  unfold Answered
  rw [h.rs_eq]
  obtain htold | htells := hp
  · exact .inl (hmove.chanMove.told hop htold)
  · obtain htells | htells := h.tally_pos_next htells
    · obtain htold | ⟨o, ho, hP⟩ := hmove.tells_next htells
      · exact .inl htold
      · exact .inr (h.tally_pos_of_new (.inl ho) hP)
    · exact .inr htells

theorem Concluded.of_list (hq : Concluded r q) (h : ListStep dbg p q op rest more spawned others y)
    (hop : op.inserts r = false) : Concluded r p ∨ Answered r q := by
  obtain ⟨ts, hmove, hmem⟩ := h.exists_move
  have hfollows : op.follows r = true → Concluded r p := fun hfollows =>
    .inr (.inr (tally_pos_iff.mpr ⟨_, h.mem_before.mpr (.inl rfl), op, by simp, hfollows⟩))
  unfold Concluded at hq
  rw [h.rs_eq] at hq
  obtain hend | hremove | hnew := hq
  · left
    have hchan := hmove.chanMove (r := r)
    generalize hctx : y.rs.contexts r = c' at hchan hend
    generalize hop' : op = op' at hchan
    cases hchan with
    | keeps op' c' hhdr hbdy hsame => exact .inl (hsame ▸ hend)
    | storeEndStream =>
        refine hfollows ?_
        simp [hop', Op.follows, Op.isFrame, FrameOp.isStoreEndStream]
    | insertCtx text hasBody now => cases hend
    | _ => exact .inl hend
  · left
    obtain hsame | ⟨r', rfl, hadd⟩ := hmove.removals_cases
    · exact .inr (.inl (hsame ▸ hremove))
    · rw [hadd, List.mem_append, List.mem_singleton] at hremove
      obtain hremove | rfl := hremove
      · exact .inr (.inl hremove)
      · exact hfollows (by simp [Op.follows, NotifyOp.follows])
  · obtain hold | ⟨o, ho, hP⟩ := h.tally_pos_cases hnew
    · exact .inl (.inr (.inr hold))
    · obtain hop' | ⟨o', ho', htells⟩ | htold := hmove.follows_cases (hmem o ho) hP
      · exact .inl (hfollows hop')
      · exact .inr (.inr (h.tally_pos_of_new (.inl ho') htells))
      · right
        left
        rw [h.rs_eq]
        exact hmove.chanMove.told hop htold

/-- While one stage runs, no other is pending. -/
theorem Staged.tally_eq_zero (hp : Staged p) (h : ListStep dbg p q op rest more spawned others y)
    (hop : op.stage = true) {P : Op → Bool} (hstage : ∀ o, P o = true → o.stage = true)
    (hP : P op = false) : tally P p = 0 := by
  have hsingle := hp.single
  have hone : [op].countP Op.stage = 1 := by simp [hop]
  have hzero : [op].countP P = 0 := by simp [hP]
  have hrest : rest.countP P ≤ rest.countP Op.stage :=
    List.countP_mono_left fun o _ ho => hstage o ho
  have hothers : Pool.total (List.countP P) others ≤ Pool.total (List.countP Op.stage) others :=
    total_le_total fun l _ => List.countP_mono_left fun o _ ho => hstage o ho
  have hbefore := h.tally_before P
  have hbefore' := h.tally_before Op.stage
  omega

private theorem reaches_mono {b b' : Bool} (hb : b = true → b' = true) {o : Op}
    (h : o.reaches r b = true) : o.reaches r b' = true := by
  cases o with
  | socket o =>
      cases o with
      | collect crex todo visited =>
          simp only [Op.reaches, Bool.or_eq_true, Bool.and_eq_true] at h ⊢
          exact h.imp_right (.imp_left hb)
      | _ => cases h
  | _ => cases h

private theorem ListStep.reaches (h : ListStep dbg p q op rest more spawned others y)
    (hop : op.reaches r (decide (r ∈ p.shared.rs.contextMap)) = true) :
    0 < tally (Op.tells r) q ∨
      0 < tally (Op.reaches r (decide (r ∈ q.shared.rs.contextMap))) q := by
  obtain ⟨ts, hmove, -⟩ := h.move
  cases hmove with
  | socket o c hrun =>
      have hmap := h.mem_contextMap (r := r)
      cases socketMove_of_run hrun with
      | collectVisit crex todo visited r' hr' =>
          right
          refine h.tally_pos_of_new (.inl (List.mem_singleton.mpr rfl)) ?_
          simp only [Op.reaches, List.contains_cons, Bool.or_eq_true, Bool.and_eq_true,
            decide_eq_true_eq] at hop ⊢
          exact hop.imp .inr (.imp_left fun hr => hmap hr (by simp))
      | collectStop crex todo visited hall =>
          left
          have hvisited : r ∈ visited := by
            simp only [Op.reaches, Bool.or_eq_true, Bool.and_eq_true, List.contains_iff_mem,
              decide_eq_true_eq] at hop
            obtain hvisited | ⟨hr, htodo⟩ := hop
            · exact hvisited
            · exact (hall r htodo).resolve_right fun hnot => hnot hr
          exact h.tally_pos_of_new (o := .notify r (.notifyError crex)) (.inl (by simp [hvisited]))
            (by simp [Op.tells, NotifyOp.tells])
      | _ => cases hop
  | _ => cases hop

/-- A sender finds the queue closed. -/
theorem ListStep.attempts {ch : Choice} {ts' : List Task} (htidy : Tidy p)
    (h : ListStep dbg p q op rest more spawned others y)
    (hexec : execOp dbg overflowChecks p.shared op ch = some (y, more, ts'))
    (hclosed : p.shared.rs.wssSendTask.closed = true) (hop : op.attempts r = true) :
    0 < tally (Op.tells r) q ∨ 0 < tally (Op.attempts r) q ∨
      (p.shared.rs.contexts r).isEndStreamReceivedFromTgt = true := by
  obtain ⟨ts, hmove, hspawned⟩ := htidy.move h
  cases op with
  | request r' o =>
      cases o with
      | beforeProxyToTarget text hasBody =>
          obtain rfl : r' = r := by simpa [Op.attempts] using hop
          cases hmove with
          | requestFails _ _ crex ho =>
              obtain ⟨o, ho, htells⟩ := tells_failRequest (r := r') crex
              exact .inl (h.tally_pos_of_new (.inl ho) htells)
          | proxied =>
              refine .inr (.inl (h.tally_pos_of_new
                (o := .upload r' (.storeCanSend text hasBody)) (.inr ?_) ?_))
              · exact ⟨_, by simp [hspawned], List.mem_singleton.mpr rfl⟩
              · simp [Op.attempts, UploadOp.attempts]
      | _ => cases hop
  | upload r' o =>
      obtain ⟨rfl, ho⟩ : r' = r ∧ o.attempts = true := by simpa [Op.attempts] using hop
      change (o.run dbg p.shared.rs r' ch).map _ = _ at hexec
      obtain ⟨⟨rs', more'⟩, hrun, hout⟩ := Option.map_eq_some_iff.mp hexec
      cases hout
      obtain ⟨o', ho', hattempts | htells⟩ | hend := UploadOp.attempts_next hrun ho hclosed
      · exact .inr (.inl (h.tally_pos_of_new (.inl ho') hattempts))
      · exact .inl (h.tally_pos_of_new (.inl ho') htells)
      · exact .inr (.inr hend)
  | _ => cases hop

theorem Kept.list {ch : Choice} {ts' : List Task} (hp : Attended r p) (hstarted : Started r p)
    (hkept : Kept r p) (h : ListStep dbg p q op rest more spawned others y)
    (hexec : execOp dbg overflowChecks p.shared op ch = some (y, more, ts')) :
    Answered r q ∨ Kept r q := by
  obtain ⟨ts, hmove, -⟩ := h.move
  have hop := hstarted.not_inserts h
  obtain ⟨hr, hstage⟩ | hreaches | ⟨hclosed, hattempts⟩ := hkept
  · by_cases hretain : op = .socket .retainNone
    · -- nothing is retained before the contexts were visited
      subst hretain
      have hpos : 0 < tally Op.stage p :=
        tally_pos_iff.mpr ⟨_, h.mem_before.mpr (.inl rfl), .socket .retainNone, by simp, rfl⟩
      obtain hup | hvisit := hstage
      · have hzero := hp.staged.up hup
        omega
      · have hzero := hp.staged.tally_eq_zero h rfl (P := Op.terminates) (fun o ho => by
          obtain ⟨crex, rfl⟩ := Op.isSocket_of_terminates ho
          rfl) rfl
        omega
    · have hr' := h.mem_contextMap hr hretain
      obtain hup | hvisit := hstage
      · exact .inr (.inl ⟨hr', .inl (h.tornDown ▸ hup)⟩)
      · obtain hterm | hvisit := h.tally_pos_next hvisit
        · obtain ⟨crex, rfl⟩ := Op.isSocket_of_terminates hterm
          cases hmove with
          | socket o c hrun =>
              cases hrun
              refine .inr (.inr (.inl ?_))
              refine h.tally_pos_of_new (.inl (List.mem_singleton.mpr rfl)) ?_
              simp [Op.reaches, hr, hr']
        · exact .inr (.inl ⟨hr', .inr hvisit⟩)
  · obtain hreach | hreaches := h.tally_pos_next hreaches
    · exact (h.reaches hreach).imp .inr fun hpos => .inr (.inl hpos)
    · by_cases hretain : op = .socket .retainNone
      · subst hretain
        have hpos : 0 < tally (Op.reaches r (decide (r ∈ p.shared.rs.contextMap))) p := by
          have hadd := h.tally_add (P := Op.reaches r (decide (r ∈ p.shared.rs.contextMap))) (by
            intro o ho
            obtain ho | ⟨l, hl, ho⟩ := ho
            · cases hmove with
              | socket o c hrun =>
                  cases hrun
                  cases ho
            · have hsocket := h.isSocket_of_spawned hl ho
              cases o <;> first | rfl | cases hsocket)
          omega
        have hzero := hp.staged.tally_eq_zero h rfl
          (P := Op.reaches r (decide (r ∈ p.shared.rs.contextMap))) (fun o ho => by
            cases o with
            | socket o => cases o <;> first | rfl | cases ho
            | _ => cases ho) rfl
        omega
      · refine .inr (.inr (.inl (hreaches.trans_le (tally_mono fun o => reaches_mono ?_))))
        simp only [decide_eq_true_eq]
        exact fun hr => h.mem_contextMap hr hretain
  · have hclosed' : q.shared.rs.wssSendTask.closed = true := by
      rw [h.rs_eq]
      exact hmove.queue_closed hclosed
    obtain hattempt | hattempts := h.tally_pos_next hattempts
    · obtain htells | hattempts | hend := h.attempts hp.orderly.tidy hexec hclosed hattempt
      · exact .inl (.inr htells)
      · exact .inr (.inr (.inr ⟨hclosed', hattempts⟩))
      · exact .inl ((hp.concluded hstarted (.inl hend)).list h hop)
    · exact .inr (.inr (.inr ⟨hclosed', hattempts⟩))

theorem Kept.of_insertCtx {text : String} {hasBody : Bool} (hp : Staged p)
    (h : ListStep dbg p q (.request r (.insertCtx text hasBody)) rest more spawned others y) :
    Kept r q := by
  obtain ⟨ts, hmove, -⟩ := h.move
  have hr : r ∈ q.shared.rs.contextMap := by
    rw [h.rs_eq, hmove.of_insertCtx.1]
    simp [RouterSocketV3.insertCtx]
  cases hdown : p.shared.tornDown with
  | false => exact .inl ⟨hr, .inl (h.tornDown.trans hdown)⟩
  | true =>
      obtain hclosed | hvisit := hp.down hdown
      · refine .inr (.inr ⟨?_, ?_⟩)
        · rw [h.rs_eq]
          exact hmove.queue_closed hclosed
        · obtain ⟨-, rfl, -⟩ := hmove.of_insertCtx
          exact h.tally_pos_of_new (.inl (List.mem_singleton.mpr rfl)) (by simp [Op.attempts])
      · exact .inl ⟨hr, .inr ((h.tally_pos_next hvisit).resolve_left Bool.false_ne_true)⟩

private theorem not_concluded_of_insertCtx {text : String} {hasBody : Bool} (hlife : Lifetime r p)
    (hnot : ¬ Started r p)
    (h : ListStep dbg p q (.request r (.insertCtx text hasBody)) rest more spawned others y) :
    ¬ Concluded r q := by
  obtain ⟨ts, hmove, hmem⟩ := h.exists_move
  unfold Concluded
  rw [h.rs_eq]
  rintro (hend | hremove | hfollows)
  · rw [hmove.of_insertCtx.1] at hend
    simp [RouterSocketV3.insertCtx, RequestContext.new] at hend
  · obtain hsame | ⟨r', hop, -⟩ := hmove.removals_cases
    · exact (hlife.unused hnot).removals (hsame ▸ hremove)
    · cases hop
  · obtain hold | ⟨o, ho, hP⟩ := h.tally_pos_cases hfollows
    · have hzero := hlife.tally_of_insertCtx h (P := Op.follows r) (fun o => Op.req_of_follows) (by
        simp [Op.follows, Op.isNotify, Op.isRequest, Op.isFrame, RequestOp.follows])
      omega
    · have ho := hmem o ho
      obtain ⟨-, rfl, rfl⟩ := hmove.of_insertCtx
      obtain rfl : o = .request r (.beforeProxyToTarget text hasBody) := by simpa using ho
      simp [Op.follows, Op.isNotify, Op.isRequest, Op.isFrame, RequestOp.follows] at hP

private theorem Op.unread_cases {op : Op} (h : op.unread r = true) :
    (∃ text hasBody, op = .request r (.beforeProxyToTarget text hasBody)) ∨
      op = .request r .recvHeader := by
  cases op with
  | request r' o =>
      cases o with
      | beforeProxyToTarget text hasBody =>
          obtain rfl : r' = r := by simpa [Op.unread] using h
          exact .inl ⟨text, hasBody, rfl⟩
      | recvHeader =>
          obtain rfl : r' = r := by simpa [Op.unread] using h
          exact .inr rfl
      | _ => cases h
  | _ => cases h

private theorem countP_unread_failRequest (r' : ReqId) (crex : CrankerRouterException) :
    (failRequest r' crex).countP (Op.unread r) = 0 := by
  simp [failRequest, Op.unread]

private theorem Move.countP_unread {x y : Shared} {op : Op} {more : List Op} {ts : List Task}
    (h : Move dbg x op y more ts) :
    more.countP (Op.unread r) ≤ [op].countP (Op.unread r) ∧
        (op = .request r .recvHeader → more.countP (Op.unread r) = 0) ∨
      ∃ text hasBody, op = .request r (.insertCtx text hasBody) ∧
        more = [.request r (.beforeProxyToTarget text hasBody)] := by
  have hnone : (∀ o ∈ more, ∀ r' o', o ≠ .request r' o') → more.countP (Op.unread r) = 0 := by
    intro hne
    rw [List.countP_eq_zero]
    intro o ho hunread
    obtain ⟨text, hasBody, rfl⟩ | rfl := Op.unread_cases hunread <;> exact hne _ ho _ _ rfl
  have hzero : more.countP (Op.unread r) = 0 →
      more.countP (Op.unread r) ≤ [op].countP (Op.unread r) ∧
        (op = .request r .recvHeader → more.countP (Op.unread r) = 0) := fun hzero =>
    ⟨hzero ▸ Nat.zero_le _, fun _ => hzero⟩
  cases h with
  | notify r' o' =>
      refine .inl (hzero (hnone fun o ho => ?_))
      obtain ⟨o'', rfl⟩ := NotifyOp.mem_run ho
      simp
  | frame r' o' hframe =>
      refine .inl (hzero (hnone fun o ho => ?_))
      obtain ⟨o'', rfl⟩ | ⟨o'', rfl⟩ := hframe.mem_more ho <;> simp
  | upload r' o' hupload =>
      refine .inl (hzero (hnone fun o ho => ?_))
      obtain ⟨o'', rfl⟩ | ⟨o'', rfl⟩ := hupload.mem_more ho <;> simp
  | socket o' c hrun =>
      refine .inl (hzero (hnone fun o ho => ?_))
      cases socketMove_of_run hrun <;> grind -ring -linarith
  | insertCtx r' text hasBody =>
      by_cases hr : r' = r
      · subst hr
        exact .inr ⟨text, hasBody, rfl, rfl⟩
      · exact .inl (hzero (by simp [Op.unread, hr]))
  | proxied r' text hasBody => exact .inl ⟨by simp [Op.unread, List.countP_cons], nofun⟩
  | requestFails r' o' crex ho => exact .inl (hzero (countP_unread_failRequest r' crex))
  | errorTaken r' crex hnext => exact .inl (hzero (countP_unread_failRequest r' crex))
  | buildFails r' crex => exact .inl (hzero (countP_unread_failRequest r' crex))
  | checkRemoved text hasBody => exact .inl (hzero (by split_ifs <;> simp [Op.unread]))
  | _ => exact .inl (hzero (by simp [Op.unread]))

theorem ChanMove.taken {c c' : RequestContext} (h : ChanMove r c op c')
    (hop : op ≠ .request r .recvHeader) (htaken : c.tgtResHdr.taken = 0) :
    c'.tgtResHdr.taken = 0 := by
  cases h with
  | keeps op c' hhdr hbdy hend => rwa [hhdr]
  | sendHdrErr ex => simpa using htaken
  | headerSent isEnd len => simpa using htaken
  | takeHdr => exact absurd rfl hop
  | insertCtx text hasBody now => rfl
  | _ => exact htaken

theorem Attended.list {ch : Choice} {ts' : List Task} (hp : Attended r p) (horderly : Orderly r q)
    (h : ListStep dbg p q op rest more spawned others y)
    (hexec : execOp dbg overflowChecks p.shared op ch = some (y, more, ts')) : Attended r q := by
  obtain ⟨ts, hmove, -⟩ := h.move
  have htally := h.tally_eq (P := Op.unread r) (fun _ _ _ => rfl) fun _ => rfl
  refine ⟨horderly, hp.staged.list h, fun hq hconcluded => ?_, fun hq => ?_, ?_, fun hpos => ?_⟩
  · by_cases hstarted : Started r p
    · have hop := hstarted.not_inserts h
      obtain hold | hanswered := hconcluded.of_list h hop
      · exact (hp.concluded hstarted hold).list h hop
      · exact hanswered
    · obtain ⟨text, hasBody, rfl⟩ := hq.of_list hstarted h
      exact absurd hconcluded (not_concluded_of_insertCtx hp.orderly.life hstarted h)
  · by_cases hstarted : Started r p
    · obtain hanswered | hkept := hp.heard hstarted
      · exact .inl (hanswered.list h (hstarted.not_inserts h))
      · exact hkept.list hp hstarted h hexec
    · obtain ⟨text, hasBody, rfl⟩ := hq.of_list hstarted h
      exact .inr (.of_insertCtx hp.staged h)
  · have hreader := hp.reader
    obtain ⟨hcount, -⟩ | ⟨text, hasBody, rfl, rfl⟩ := hmove.countP_unread (r := r)
    · omega
    · have hzero := hp.orderly.life.tally_of_insertCtx h (P := Op.unread r) (fun o ho => by
        obtain ⟨_, _, rfl⟩ | rfl := Op.unread_cases ho <;> rfl) rfl
      have hone : [Op.request r (.beforeProxyToTarget text hasBody)].countP (Op.unread r) = 1 := by
        simp [Op.unread]
      omega
  · rw [h.rs_eq]
    obtain ⟨hcount, hrecv⟩ | ⟨text, hasBody, rfl, rfl⟩ := hmove.countP_unread (r := r)
    · have hreader := hp.reader
      refine hmove.chanMove.taken ?_ (hp.unread (by omega))
      rintro rfl
      have hone : [Op.request r .recvHeader].countP (Op.unread r) = 1 := by simp [Op.unread]
      have hnone := hrecv rfl
      omega
    · rw [hmove.of_insertCtx.1]
      simp [RouterSocketV3.insertCtx, RequestContext.new, Chan.new]

end ListStep

section IdleStep

variable {gone new kept : List (List Op)}

theorem Answered.idle (hp : Answered r p) (htidy : Tidy p) (h : IdleStep p q gone new kept) :
    Answered r q := by
  unfold Answered
  rw [h.contexts]
  refine hp.imp_right (htidy.tally_pos_idle h fun o hawaits => ?_)
  cases o with
  | notify r' o =>
      cases o <;> first
        | (cases hawaits; done)
        | simp [Op.tells, Op.isNotify, Op.isFrame, NotifyOp.tells]
  | request r' o => rfl
  | _ => cases hawaits

theorem Concluded.of_idle (hq : Concluded r q) (h : IdleStep p q gone new kept) :
    Concluded r p := by
  unfold Concluded at hq
  rw [h.contexts] at hq
  obtain hend | hremove | hfollows := hq
  · exact .inl hend
  · right
    left
    obtain ⟨-, hsame⟩ | ⟨r', -, -, herase⟩ := h.map
    · exact hsame ▸ hremove
    · exact List.mem_of_mem_erase (herase ▸ hremove)
  · obtain hold | ⟨l, hl, o, ho, hP⟩ := h.tally_pos_cases hfollows
    · exact .inr (.inr hold)
    · obtain ⟨text, hasBody, rfl⟩ | ⟨r', -, o', rfl, hstarts⟩ | ⟨o', rfl, -⟩ :=
        h.arrives.mem_cases hl ho
      · cases hP
      · cases o' <;> first
          | (cases hstarts; done)
          | simp [Op.follows, Op.isNotify, Op.isRequest, Op.isFrame, FrameOp.isStoreEndStream] at hP
      · cases hP

theorem Kept.idle (hp : Attended r p) (hstarted : Started r p) (hkept : Kept r p)
    (h : IdleStep p q gone new kept) : Answered r q ∨ Kept r q := by
  have htidy := hp.orderly.tidy
  have hmap : Answered r q ∨ (r ∈ p.shared.rs.contextMap → r ∈ q.shared.rs.contextMap) := by
    obtain ⟨hsame, -⟩ | ⟨r', hr', hfilter, -⟩ := h.map
    · exact .inr fun hr => hsame ▸ hr
    · by_cases hrr : r' = r
      · subst hrr
        exact .inl ((hp.concluded hstarted (.inr (.inl hr'))).idle htidy h)
      · refine .inr fun hr => ?_
        rw [hfilter]
        exact List.mem_filter.mpr ⟨hr, by simpa using Ne.symm hrr⟩
  obtain hanswered | hmap := hmap
  · exact .inl hanswered
  right
  obtain ⟨hr, hstage⟩ | hreaches | ⟨hclosed, hattempts⟩ := hkept
  · refine .inl ⟨hmap hr, ?_⟩
    obtain hup | hvisit := hstage
    · obtain hsame | ⟨crex, rfl⟩ := h.tornDown
      · exact .inl (hsame.trans hup)
      · right
        rw [tally_pos_iff]
        exact ⟨teardownOps crex, h.after.mem_iff.mpr (by simp), .socket (.visitToTerminate crex),
          by simp [teardownOps], rfl⟩
    · refine .inr (htidy.tally_pos_idle h (fun o hawaits => ?_) hvisit)
      cases o <;> first | rfl | cases hawaits
  · refine .inr (.inl ?_)
    have hreaches' := htidy.tally_pos_idle h (fun o hawaits => by
      cases o <;> first | rfl | cases hawaits) hreaches
    refine hreaches'.trans_le (tally_mono fun o => reaches_mono ?_)
    simpa using hmap
  · refine .inr (.inr ⟨h.queue ▸ hclosed, htidy.tally_pos_idle h (fun o hawaits => ?_) hattempts⟩)
    cases o with
    | request r' o => cases o <;> first | rfl | cases hawaits
    | notify r' o => rfl
    | _ => cases hawaits

theorem Attended.idle (hp : Attended r p) (horderly : Orderly r q)
    (h : IdleStep p q gone new kept) : Attended r q := by
  have htidy := hp.orderly.tidy
  have hunread : ∀ l ∈ new, ∀ o ∈ l, o.unread r = false := by
    intro l hl o ho
    obtain ⟨text, hasBody, rfl⟩ | ⟨r', -, o', rfl, -⟩ | ⟨o', rfl, -⟩ := h.arrives.mem_cases hl ho <;>
      rfl
  refine ⟨horderly, hp.staged.idle htidy h, fun hq hconcluded => ?_, fun hq => ?_, ?_, fun hpos => ?_⟩
  · exact (hp.concluded (hq.of_idle htidy h) (hconcluded.of_idle h)).idle htidy h
  · obtain hanswered | hkept := hp.heard (hq.of_idle htidy h)
    · exact .inl (hanswered.idle htidy h)
    · exact hkept.idle hp (hq.of_idle htidy h) h
  · exact (h.tally_le hunread).trans hp.reader
  · rw [h.contexts]
    exact hp.unread (hpos.trans_le (h.tally_le hunread))

end IdleStep

theorem Attended.step (hp : Attended r p) {a : Label} (hstep : step dbg overflowChecks p a = some q) :
    Attended r q := by
  have horderly := hp.orderly.step hstep
  cases hops : a.ops p with
  | cons op rest =>
      obtain ⟨y, more, ts, spawned, others, hexec, hlist⟩ := listStep_of_ops hstep hops
      exact hp.list horderly hlist hexec
  | nil =>
      obtain ⟨gone, new, kept, hidle⟩ := idleStep_of_step hstep hops
      exact hp.idle horderly hidle

private theorem attended_init (r : ReqId) (h : (socketMachine dbg overflowChecks).init p) :
    Attended r p := by
  have horderly := orderly_init r h
  obtain ⟨route, routerSocketId, reallyNeed, now, rfl⟩ := h
  have hnot : ¬ Started r ⟨.new (.new route routerSocketId reallyNeed now), []⟩ := fun hstarted =>
    nomatch hstarted.1
  refine ⟨horderly, ⟨Nat.zero_le 1, fun _ => rfl, nofun, ?_⟩, fun h => absurd h hnot,
    fun h => absurd h hnot, Nat.zero_le 1, fun _ => rfl⟩
  intro l hl crex hvisit
  obtain rfl : l = [] := by simpa [lists, Shared.new] using hl
  cases hvisit

private theorem blocks_not_tells (o : Op) (h : o.blocks = true) : o.tells r = false := by
  cases o with
  | frame r' o =>
      cases o <;> first
        | (cases h; done)
        | simp [Op.tells, Op.isNotify, Op.isFrame, FrameOp.tells]
  | notify r' o => cases h
  | _ => rfl

private theorem blocks_not_attempts (o : Op) (h : o.blocks = true) : o.attempts r = false := by
  cases o with
  | request r' o => cases o <;> first | rfl | cases h
  | upload r' o =>
      cases o <;> first
        | (cases h; done)
        | simp [Op.attempts, UploadOp.attempts]
  | _ => rfl

private theorem headerPending_of_exec {x : Shared}
    (h : RequestOp.exec dbg x r .go .recvHeader = none) :
    (x.rs.contexts r).tgtResHdr.next? = none ∧ (x.rs.contexts r).tgtResHdr.closed = false := by
  simp only [RequestOp.exec] at h
  split at h
  · cases h
  · cases h
  · rename_i hnext
    split_ifs at h with hclosed
    exact ⟨hnext, by simpa using hclosed⟩

/-- In every state after a teardown in which no task is runnable, the header channel of every
request has an item or is closed, and no handler waits for its header. -/
theorem teardown_leaves_none_waiting (dbg : DebugText) (overflowChecks : Bool) {p : SocketPool}
    (hp : (socketMachine dbg overflowChecks).Reachable Machine.anyAction p)
    (htorn : p.shared.tornDown = true) (hrest : AtRest dbg overflowChecks p) (r : ReqId)
    (hr : r ∈ p.shared.admitted) :
    ((p.shared.rs.contexts r).tgtResHdr.sent ≠ [] ∨
        (p.shared.rs.contexts r).tgtResHdr.closed = true) ∧
      ∀ l ∈ lists p, .request r .recvHeader ∉ l := by
  have hatt : Attended r p :=
    hp.invariant (fun p hp => attended_init r hp) fun p a q hatt _ hstep => hatt.step hstep
  have htidy := hatt.orderly.tidy
  have hstarted : Started r p := by
    refine ⟨hr, hrest.tally_eq_zero htidy fun o ho => ?_⟩
    by_contra hins
    obtain ⟨text, hasBody, rfl⟩ := Op.inserts_iff.mp (by simpa using hins : o.inserts r = true)
    cases ho
  have htold : (p.shared.rs.contexts r).told = true := by
    obtain (htold | htells) | ⟨-, hup | hvisit⟩ | hreaches | ⟨-, hattempts⟩ := hatt.heard hstarted
    · exact htold
    · have hzero := hrest.tally_eq_zero htidy (P := Op.tells r) blocks_not_tells
      omega
    · rw [htorn] at hup
      cases hup
    · have hzero := hrest.tally_eq_zero htidy (P := Op.terminates) fun o ho => by
        cases o <;> first | rfl | cases ho
      omega
    · have hzero := hrest.tally_eq_zero htidy
        (P := Op.reaches r (decide (r ∈ p.shared.rs.contextMap))) fun o ho => by
          cases o <;> first | rfl | cases ho
      omega
    · have hzero := hrest.tally_eq_zero htidy (P := Op.attempts r) blocks_not_attempts
      omega
  simp only [RequestContext.told, Bool.or_eq_true, Bool.not_eq_true', List.isEmpty_eq_false_iff]
    at htold
  refine ⟨htold, fun l hl hmem => ?_⟩
  -- a handler that still waits has read nothing, so it could read what it was told
  have hunread := hatt.unread (tally_pos_iff.mpr ⟨l, hl, _, hmem, by simp [Op.unread]⟩)
  obtain ⟨rfl, -⟩ := hrest.blocks htidy hl hmem
  obtain ⟨_, heq⟩ | hnone := hrest.2 _ hl (.request r .recvHeader) rfl
  · cases heq
  have hexec : RequestOp.exec dbg p.shared r .go .recvHeader = none := hnone .go
  obtain ⟨hnext, hopen⟩ := headerPending_of_exec hexec
  rw [Chan.next?, hunread] at hnext
  obtain hsent | hclosed := htold
  · exact hsent (by simpa using hnext)
  · rw [hopen] at hclosed
    cases hclosed

private theorem atRest_of_empty (hremovals : p.shared.rs.removals = [])
    (hlists : (lists p).all List.isEmpty = true) : AtRest dbg overflowChecks p := by
  refine ⟨hremovals, fun l hl op hop => ?_⟩
  rw [List.all_eq_true] at hlists
  rw [List.isEmpty_iff.mp (hlists l hl)] at hop
  cases hop

/-- The first request waits for its header when an error ends the socket; the second is admitted
while the teardown iterates, and its context goes without a visit. -/
def admittedMeanwhile : SocketPool :=
  (socketMachine plainText false).run Machine.anyAction freshSocket
    (List.flatten [[.request "GET / HTTP/1.1\n\n" false], go 0 3, [.task 0 (.answer none)], go 1 6,
      [.task 1 (.answer none), .fail (.new "uwss read idle timeout")], go 2 3,
      [.task 2 (.visit 1), .request "GET / HTTP/1.1\n\n" false], go 3 3, [.task 2 .stop], go 2 7,
      go 0 11, List.replicate 3 (.remove 1), [.task 3 (.answer none)], go 4 11, go 3 11,
      List.replicate 3 (.remove 2)])

theorem teardown_leaves_none_waiting_admittedMeanwhile :
    2 ∈ admittedMeanwhile.shared.admitted ∧
      (admittedMeanwhile.shared.rs.contexts 2).tgtResHdr.sent ≠ [] := by
  have hadmitted : 2 ∈ admittedMeanwhile.shared.admitted := by decide +kernel
  have hrest : AtRest plainText false admittedMeanwhile :=
    atRest_of_empty (by decide +kernel) (by decide +kernel)
  have htold := (teardown_leaves_none_waiting plainText false (p := admittedMeanwhile)
    (Machine.reachable_run _ _ (init_freshSocket false) _) (by decide +kernel) hrest 2
    hadmitted).1
  have hopen : (admittedMeanwhile.shared.rs.contexts 2).tgtResHdr.closed = false := by
    decide +kernel
  refine ⟨hadmitted, htold.resolve_right ?_⟩
  rw [hopen]
  exact Bool.false_ne_true

end CrankerRouter.V3
