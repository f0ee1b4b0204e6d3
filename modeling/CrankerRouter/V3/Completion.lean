import CrankerRouter.V3.Disconnect
import CrankerRouter.V3.Lifetime

/-!
# The completion event of a request

`raise_completion_event` calls the listeners if the context is still in the map.  Every end of a
request raises it and then spawns the removal of the context.  A request is counted once if no
second end begins before that removal has run, and if no entry leaves the map by another way: with a
client that leaves in the body, or with a teardown that did not visit it.
-/

namespace CrankerRouter.V3

open Lib

variable {dbg : DebugText} {overflowChecks : Bool} {p q : SocketPool} {r : ReqId}

def NotifyOp.isRaise : NotifyOp → Bool
  | .raiseCompletion => true
  | _ => false

/-- The entries of `notify_client_request_error` and `notify_client_request_close`. -/
def NotifyOp.isNotification : NotifyOp → Bool
  | .notifyError _ | .notifyClose _ _ => true
  | _ => false

/-- The last parts of a notification: the event, and the spawn of the removal. -/
def NotifyOp.isLast : NotifyOp → Bool
  | .raiseCompletion | .spawnRemove => true
  | _ => false

def Op.completes (r : ReqId) (op : Op) : Bool := op.isNotify r (·.isRaise)

def Op.finishes (r : ReqId) (op : Op) : Bool := op.isNotify r (·.isLast)

/-- The operations after which the event has been raised once their list is done with them. -/
def Op.raises (r : ReqId) (op : Op) : Bool := op.isNotify r fun o => o.isRaise || o.isNotification

/-! ### Lists that raise the event before they remove the entry -/

/-- Whatever removes the entry of the request comes after an operation that raises the event, if
it has not been raised before. -/
def Led (r : ReqId) : Prop → List Op → Prop
  | _, [] => True
  | raised, op :: rest => (op.leaves r = true → raised) ∧ Led r (raised ∨ op.raises r = true) rest

theorem Led.mono {raised raised' : Prop} (h : raised → raised') {l : List Op} (hl : Led r raised l) :
    Led r raised' l := by
  induction l generalizing raised raised' with
  | nil => trivial
  | cons op rest ih => exact ⟨fun hop => h (hl.1 hop), ih (Or.imp_left h) hl.2⟩

theorem Led.append {raised : Prop} {l l' : List Op} (hl : Led r raised l)
    (hl' : Led r (raised ∨ ∃ o ∈ l, o.raises r = true) l') : Led r raised (l ++ l') := by
  induction l generalizing raised with
  | nil => exact hl'.mono (by simp)
  | cons op rest ih =>
      refine ⟨hl.1, ih hl.2 (hl'.mono ?_)⟩
      rintro (h | ⟨o, ho, hraises⟩)
      · exact .inl (.inl h)
      · obtain rfl | ho := List.mem_cons.mp ho
        · exact .inl (.inr hraises)
        · exact .inr ⟨o, ho, hraises⟩

private theorem led_of_leaves {raised : Prop} {l : List Op} (h : ∀ o ∈ l, o.leaves r = false) :
    Led r raised l := by
  induction l generalizing raised with
  | nil => trivial
  | cons op rest ih =>
      refine ⟨fun hop => ?_, ih fun o ho => h o (List.mem_cons_of_mem _ ho)⟩
      simp [h op List.mem_cons_self] at hop

private theorem led_of_raised {raised : Prop} (h : raised) (l : List Op) : Led r raised l := by
  induction l generalizing raised with
  | nil => trivial
  | cons op rest ih => exact ⟨fun _ => h, ih (.inl h)⟩

private theorem led_of_head {raised : Prop} {op : Op} {l : List Op} (hleaves : op.leaves r = false)
    (hraises : op.raises r = true) : Led r raised (op :: l) :=
  ⟨fun h => by simp [hleaves] at h, led_of_raised (.inr hraises) l⟩

/-! ### One operation -/

section Move

variable {x y : Shared} {op o : Op} {more : List Op} {ts : List Task}

private theorem Op.leaves_of_req {r' : ReqId} (hr : r' ≠ r) (hreq : o.req = some r') :
    o.leaves r = false := by
  by_contra h
  have hreq' := Op.req_of_isNotify (by simpa using h : o.leaves r = true)
  exact hr (Option.some.inj (hreq.symm.trans hreq'))

/-- After the completion event the listeners have been called, or the entry was gone. -/
def Shared.completed (x : Shared) (r : ReqId) : Prop :=
  r ∈ x.rs.onComplete ∨ r ∉ x.rs.contextMap

private theorem completed_raiseCompletion (x : Shared) (r : ReqId) :
    Shared.completed { x with rs := (NotifyOp.raiseCompletion.run x.rs r).1 } r := by
  by_cases hr : r ∈ x.rs.contextMap
  · left
    simp [NotifyOp.run, RouterSocketV3.raiseCompletionEvent, hr, RouterSocketV3.callOnComplete]
  · right
    simpa [NotifyOp.run] using hr

private theorem NotifyOp.led {rs : RouterSocketV3} {o : NotifyOp} {raised : Prop}
    (h : o.isLeaving = true → raised) : Led r raised (o.run rs r).2 := by
  cases o with
  | notifyError crex =>
      refine ⟨?_, led_of_head ?_ ?_⟩ <;> simp [Op.leaves, Op.raises, isLeaving, isRaise]
  | notifyClose code optReason =>
      refine Led.append (led_of_leaves ?_) ⟨?_, led_of_head ?_ ?_⟩
      · grind -ring -linarith [errOps, Op.leaves, Op.isNotify, isLeaving]
      all_goals simp [Op.leaves, Op.raises, isLeaving, isRaise]
  | resetStream errCode msg => exact led_of_raised (h rfl) _
  | _ => exact led_of_leaves (by simp only [NotifyOp.run]; grind -ring -linarith [errOps, Op.leaves, Op.isNotify,
      isLeaving])

private theorem led_failure {raised : Prop} (r' : ReqId) (crex : CrankerRouterException)
    (o : NotifyOp) :
    Led r raised [.notify r' (.notifyError crex), .notify r' o] := by
  by_cases hr : r' = r
  · subst hr
    exact led_of_head (by simp [Op.leaves, NotifyOp.isLeaving])
      (by simp [Op.raises, NotifyOp.isNotification])
  · refine led_of_leaves fun o' ho => Op.leaves_of_req hr ?_
    simp only [List.mem_cons, List.not_mem_nil, or_false] at ho
    obtain rfl | rfl := ho <;> rfl

private theorem Move.led (hmove : Move dbg x op y more ts) {raised : Prop}
    (hop : op.leaves r = true → raised)
    (hctx : op = .request r .checkIfContextExists → r ∈ x.rs.contextMap → raised) :
    Led r raised more := by
  cases hmove with
  | notify r' o =>
      by_cases hr : r' = r
      · subst hr
        exact NotifyOp.led fun hleaving => hop (by simpa [Op.leaves] using hleaving)
      · refine led_of_leaves fun o' ho => Op.leaves_of_req hr ?_
        obtain ⟨o'', rfl⟩ := NotifyOp.mem_run ho
        rfl
  | frame r' o hframe =>
      cases hframe with
      | fails o crex ho => exact led_failure r' crex _
      | _ => exact led_of_leaves (by grind -ring -linarith [closeOpsIf, Op.leaves, Op.isNotify, NotifyOp.isLeaving])
  | upload r' o hupload =>
      cases hupload <;>
        exact led_of_leaves (by grind -ring -linarith [Op.leaves, Op.isNotify, NotifyOp.isLeaving])
  | socket o c hrun =>
      cases socketMove_of_run hrun <;>
        exact led_of_leaves (by grind -ring -linarith [Op.leaves, Op.isNotify, NotifyOp.isLeaving])
  | requestFails r' o crex ho => exact led_failure r' crex _
  | errorTaken r' crex hnext => exact led_failure r' crex _
  | buildFails r' crex => exact led_failure r' crex _
  | ctxFound r' hr =>
      by_cases hrr : r' = r
      · subst hrr
        exact led_of_raised (hctx rfl hr) _
      · exact led_of_leaves (by simp [Op.leaves, Op.isNotify, hrr])
  | _ => exact led_of_leaves (by grind -ring -linarith [Op.leaves, Op.isNotify])

private theorem Move.raises_next (hmove : Move dbg x op y more ts) (hop : op.raises r = true) :
    y.completed r ∨ ∃ o ∈ more, o.raises r = true := by
  cases hmove with
  | notify r' o =>
      obtain rfl : r' = r := Option.some.inj (Op.req_of_isNotify hop)
      have hraise : (Op.notify r' .raiseCompletion).raises r' = true := by
        simp [Op.raises, NotifyOp.isRaise]
      cases o with
      | raiseCompletion => exact .inl (completed_raiseCompletion x r')
      | notifyError crex => exact .inr ⟨_, by simp [NotifyOp.run], hraise⟩
      | notifyClose code optReason => exact .inr ⟨_, by simp [NotifyOp.run], hraise⟩
      | _ => simp [Op.raises, NotifyOp.isRaise, NotifyOp.isNotification] at hop
  | _ => simp [Op.raises, Op.isNotify] at hop

/-- Only a notification brings the event. -/
theorem Move.completes_of_mem (hmove : Move dbg x op y more ts) (ho : o ∈ more)
    (hraise : o.completes r = true) : op.isNotify r (·.isNotification) = true := by
  cases hmove with
  | notify r' o' =>
      cases o' <;> simp only [NotifyOp.run] at ho <;>
        grind -ring -linarith [errOps, Op.completes, Op.isNotify, NotifyOp.isRaise, NotifyOp.isNotification]
  | frame r' o' hframe =>
      cases hframe <;> grind -ring -linarith [failFrame, closeOpsIf, Op.completes, Op.isNotify, NotifyOp.isRaise]
  | upload r' o' hupload => cases hupload <;> grind -ring -linarith [Op.completes, Op.isNotify, NotifyOp.isRaise]
  | socket o' c hrun =>
      cases socketMove_of_run hrun <;> grind -ring -linarith [Op.completes, Op.isNotify, NotifyOp.isRaise]
  | _ => grind -ring -linarith [failRequest, resetAfter, Op.completes, Op.isNotify, NotifyOp.isRaise]

/-- A notification brings the event once. -/
theorem NotifyOp.countP_completes {o : NotifyOp} {rs : RouterSocketV3}
    (ho : o.isNotification = true) : (o.run rs r).2.countP (Op.completes r) = 1 := by
  cases o with
  | notifyError crex => simp [NotifyOp.run, Op.completes, isRaise]
  | notifyClose code optReason =>
      simp only [NotifyOp.run]
      rw [List.countP_append, List.countP_eq_zero.mpr]
      · simp [Op.completes, isRaise]
      · grind -ring -linarith [errOps, Op.completes, Op.isNotify, isRaise]
  | _ => cases ho

end Move

private theorem Op.completes_iff {op : Op} :
    op.completes r = true ↔ op = .notify r .raiseCompletion := by
  constructor
  · intro h
    cases op with
    | notify r' o => cases o <;> simp_all [Op.completes, Op.isNotify, NotifyOp.isRaise]
    | _ => cases h
  · rintro rfl
    simp [Op.completes, NotifyOp.isRaise]

/-! ### The removal follows the event -/

/-- The event is followed by the spawn of the removal. -/
def Paired (r : ReqId) : List Op → Prop
  | [] => True
  | op :: rest =>
      (op.completes r = true → rest.head? = some (.notify r .spawnRemove)) ∧ Paired r rest

theorem Paired.append {l l' : List Op} (hl : Paired r l) (hl' : Paired r l') :
    Paired r (l ++ l') := by
  induction l with
  | nil => exact hl'
  | cons op rest ih =>
      refine ⟨fun hop => ?_, ih hl.2⟩
      have hhead : (rest ++ l').head? = rest.head?.or l'.head? := List.head?_append
      exact hhead.trans (by rw [hl.1 hop, Option.some_or])

private theorem paired_of_completes {l : List Op} (h : ∀ o ∈ l, o.completes r = false) :
    Paired r l := by
  induction l with
  | nil => trivial
  | cons op rest ih =>
      refine ⟨fun hop => ?_, ih fun o ho => h o (List.mem_cons_of_mem _ ho)⟩
      simp [h op List.mem_cons_self] at hop

private theorem Paired.spawnRemove_mem {op : Op} {rest : List Op} (h : Paired r (op :: rest))
    (hop : op.completes r = true) : .notify r .spawnRemove ∈ rest :=
  List.mem_of_mem_head? (h.1 hop)

private theorem NotifyOp.paired {rs : RouterSocketV3} {o : NotifyOp}
    (ho : o.isNotification = true) :
    Paired r (o.run rs r).2 := by
  cases o with
  | notifyError crex => simp [NotifyOp.run, Paired, Op.completes, isRaise]
  | notifyClose code optReason =>
      refine Paired.append (paired_of_completes ?_) (by simp [Paired, Op.completes, isRaise])
      grind -ring -linarith [errOps, Op.completes, Op.isNotify, isRaise]
  | _ => cases ho

private theorem Move.paired {x y : Shared} {op : Op} {more : List Op} {ts : List Task}
    (hmove : Move dbg x op y more ts) : Paired r more := by
  by_cases hop : op.isNotify r (·.isNotification) = true
  · cases hmove with
    | notify r' o =>
        obtain rfl : r' = r := Option.some.inj (Op.req_of_isNotify hop)
        exact NotifyOp.paired (by simpa using hop)
    | _ => cases hop
  · refine paired_of_completes fun o ho => ?_
    by_contra hcompletes
    exact hop (hmove.completes_of_mem ho (by simpa using hcompletes))

/-! ### The condition -/

/-- An end of the request is under way until the removal that it spawns has run. -/
def underWay (p : SocketPool) (r : ReqId) : Bool :=
  p.shared.rs.removals.contains r || decide (0 < tally (Op.finishes r) p)

/-- An end of a request begins when `notify_client_request_error` or `notify_client_request_close`
is called: at a reset, at a frame that fails or ends the stream, at a close frame, at a failed
upload, in the teardown, and in the handler when it takes an error from the header channel.  None
begins while another one is under way.  The watcher of a response body that is dropped, and the
teardown when it empties the map, find no entry but those whose end is under way. -/
def completesOnce (p : SocketPool) (a : Label) : Bool :=
  match (a.ops p).head? with
  | some (.notify r o) =>
      !o.isNotification || !p.shared.rs.contextMap.contains r || !underWay p r
  | some (.request r .checkIfContextExists) =>
      !p.shared.rs.contextMap.contains r || p.shared.rs.removals.contains r
  | some (.socket .retainNone) =>
      p.shared.rs.contextMap.all fun r => p.shared.rs.removals.contains r
  | _ => true

private theorem Op.finishes_of_completes {op : Op} (h : op.completes r = true) :
    op.finishes r = true := by
  obtain rfl := Op.completes_iff.mp h
  simp [Op.finishes, NotifyOp.isLast]

private theorem underWay_of_mem {l : List Op} {o : Op} (hl : l ∈ lists p) (ho : o ∈ l)
    (hfinishes : o.finishes r = true) : underWay p r = true := by
  have hpos : 0 < tally (Op.finishes r) p := tally_pos_iff.mpr ⟨l, hl, o, ho, hfinishes⟩
  simp [underWay, hpos]

/-- Over the runs that meet the condition: the event is raised once for an entry of the map, and
before the entry leaves it. -/
structure Counted (r : ReqId) (p : SocketPool) : Prop where
  orderly : Orderly r p
  pending : r ∈ p.shared.rs.contextMap →
    p.shared.rs.onComplete.count r + tally (Op.completes r) p ≤ 1
  led : Started r p → ∀ l ∈ lists p, Led r (p.shared.completed r) l
  removals : r ∈ p.shared.rs.removals → p.shared.completed r
  paired : ∀ l ∈ lists p, Paired r l
  marked : r ∈ p.shared.rs.contextMap → r ∈ p.shared.rs.onComplete → underWay p r = true
  gone : Started r p → r ∉ p.shared.rs.contextMap → p.shared.rs.onComplete.count r = 1

theorem Counted.raised (h : Counted r p) (hr : r ∈ p.shared.rs.contextMap)
    (hremoval : r ∈ p.shared.rs.removals) : r ∈ p.shared.rs.onComplete :=
  (h.removals hremoval).resolve_right (not_not.mpr hr)

private theorem Counted.count_le (h : Counted r p) (hr : r ∈ p.shared.rs.contextMap)
    (hraised : r ∈ p.shared.rs.onComplete) : p.shared.rs.onComplete.count r = 1 := by
  have hpos := List.count_pos_iff.mpr hraised
  have hle := h.pending hr
  omega

section ListStep

variable {op : Op} {rest more : List Op} {spawned others : List (List Op)} {y : Shared}

private theorem Started.not_mem_contextMap (hstarted : Started r p)
    (h : ListStep dbg p q op rest more spawned others y) (hr : r ∉ p.shared.rs.contextMap) :
    r ∉ q.shared.rs.contextMap := by
  obtain ⟨ts, hmove, -⟩ := h.move
  have hins := hstarted.not_inserts h
  rw [h.rs_eq]
  obtain hsame | ⟨r', text, hasBody, rfl, hcons⟩ | ⟨-, hnone⟩ := hmove.contextMap_cases
  · rwa [hsame]
  · have hne : r ≠ r' := by
      rintro rfl
      simp [Op.inserts_iff.mpr ⟨text, hasBody, rfl⟩] at hins
    rw [hcons]
    simp [hne, hr]
  · simp [hnone]

private theorem ListStep.mem_onComplete (h : ListStep dbg p q op rest more spawned others y)
    (hr : r ∈ p.shared.rs.onComplete) : r ∈ q.shared.rs.onComplete := by
  obtain ⟨ts, hmove, -⟩ := h.move
  rw [h.rs_eq]
  obtain hsame | ⟨r', -, -, hadd⟩ := hmove.onComplete_cases
  · rwa [hsame]
  · rw [hadd]
    exact List.mem_append_left _ hr

theorem ListStep.completed (h : ListStep dbg p q op rest more spawned others y)
    (hstarted : Started r p) (hdone : p.shared.completed r) : q.shared.completed r :=
  hdone.imp h.mem_onComplete (hstarted.not_mem_contextMap h)

private theorem Orderly.started (h : Orderly r p) (hr : r ∈ p.shared.rs.contextMap) :
    Started r p := by
  by_contra hnot
  exact (h.life.unused hnot).contextMap hr

section Guard

variable {a : Label} (hcount : Counted r p) (hok : completesOnce p a = true)
  (hops : a.ops p = op :: rest)

include hcount hok hops

private theorem Counted.notification (hop : op.isNotify r (·.isNotification) = true)
    (hr : r ∈ p.shared.rs.contextMap) :
    r ∉ p.shared.rs.onComplete ∧ tally (Op.completes r) p = 0 := by
  have hnot : underWay p r = false := by
    cases op with
    | notify r' o =>
        obtain rfl : r' = r := Option.some.inj (Op.req_of_isNotify hop)
        have ho : o.isNotification = true := by simpa using hop
        simpa [completesOnce, hops, ho, hr] using hok
    | _ => cases hop
  constructor
  · intro hraised
    rw [hcount.marked hr hraised] at hnot
    cases hnot
  · by_contra hpending
    obtain ⟨l, hl, o, ho, hcompletes⟩ := tally_pos_iff.mp (Nat.pos_of_ne_zero hpending)
    rw [underWay_of_mem hl ho (Op.finishes_of_completes hcompletes)] at hnot
    cases hnot

theorem Counted.watcher (hop : op = .request r .checkIfContextExists)
    (hr : r ∈ p.shared.rs.contextMap) : r ∈ p.shared.rs.onComplete := by
  subst hop
  exact hcount.raised hr (by simpa [completesOnce, hops, hr] using hok)

theorem Counted.retainNone (hop : op = .socket .retainNone)
    (hr : r ∈ p.shared.rs.contextMap) : r ∈ p.shared.rs.onComplete := by
  subst hop
  have hall : ∀ r ∈ p.shared.rs.contextMap, r ∈ p.shared.rs.removals := by
    simpa [completesOnce, hops] using hok
  exact hcount.raised hr (hall r hr)

end Guard

/-- The event that was pending is raised, a notification makes it pending, and nothing else touches
it. -/
private theorem ListStep.spawned_completes (h : ListStep dbg p q op rest more spawned others y)
    {o : Op} (ho : ∃ l ∈ spawned, o ∈ l) : o.completes r = false := by
  obtain ⟨l, hl, ho⟩ := ho
  obtain ⟨r', text, hasBody, rfl⟩ | ⟨r', rfl⟩ := h.mem_spawned hl <;>
    rw [List.mem_singleton.mp ho] <;> rfl

/-- Where a notification starts nothing was pending and nothing had been raised. -/
private theorem Counted.pending_notification (hcount : Counted r p) {a : Label}
    (hok : completesOnce p a = true) (hops : a.ops p = op :: rest)
    (h : ListStep dbg p q op rest more spawned others y) (hrp : r ∈ p.shared.rs.contextMap)
    (hnotify : op.isNotify r (·.isNotification) = true) :
    q.shared.rs.onComplete.count r + tally (Op.completes r) q ≤ 1 := by
  obtain ⟨ts, hmove, hmem⟩ := h.exists_move
  obtain ⟨hnone, hzero⟩ := hcount.notification hok hops hnotify hrp
  have hbefore := h.tally_before (Op.completes r)
  have hafter := h.tally_after (Op.completes r)
  have hspawned0 : Pool.total (List.countP (Op.completes r)) spawned = 0 :=
    Pool.total_eq_zero fun l hl => List.countP_eq_zero.mpr fun o ho => by
      simp [h.spawned_completes ⟨l, hl, ho⟩]
  have hsame : q.shared.rs.onComplete = p.shared.rs.onComplete := by
    rw [h.rs_eq]
    obtain hsame | ⟨r', rfl, -, -⟩ := hmove.onComplete_cases
    · exact hsame
    · simp [Op.isNotify, NotifyOp.isNotification] at hnotify
  have hone : more.countP (Op.completes r) = 1 := by
    cases hmove with
    | notify r' o =>
        obtain rfl : r' = r := Option.some.inj (Op.req_of_isNotify hnotify)
        exact NotifyOp.countP_completes (by simpa using hnotify)
    | _ => cases hnotify
  rw [hsame, List.count_eq_zero.mpr hnone]
  omega

/-- Any other operation on a context that stays raises what was pending, or nothing. -/
private theorem Counted.pending_kept (hcount : Counted r p)
    (h : ListStep dbg p q op rest more spawned others y) (hrp : r ∈ p.shared.rs.contextMap)
    (hnotify : op.isNotify r (·.isNotification) = false) :
    q.shared.rs.onComplete.count r + tally (Op.completes r) q ≤ 1 := by
  obtain ⟨ts, hmove, hmem⟩ := h.exists_move
  have hadd := h.tally_add (P := Op.completes r) fun o ho => by
    obtain ho | ho := ho
    · by_contra hraise
      rw [hmove.completes_of_mem ho (by simpa using hraise)] at hnotify
      cases hnotify
    · exact h.spawned_completes ho
  have hle := hcount.pending hrp
  rw [h.rs_eq]
  obtain hsame | ⟨r', rfl, -, hcalled⟩ := hmove.onComplete_cases
  · rw [hsame]
    omega
  · rw [hcalled, List.count_append]
    by_cases hrr : r' = r
    · have hop : [Op.notify r' .raiseCompletion].countP (Op.completes r) = 1 := by
        simp [Op.completes_iff, hrr]
      have hcall : [r'].count r = 1 := by simp [hrr]
      omega
    · have hcall : [r'].count r = 0 := by simp [hrr]
      omega

private theorem Counted.pending_list (hcount : Counted r p) {a : Label}
    (hok : completesOnce p a = true)
    (hops : a.ops p = op :: rest) (h : ListStep dbg p q op rest more spawned others y)
    (horderly : Orderly r q) (hr : r ∈ q.shared.rs.contextMap) :
    q.shared.rs.onComplete.count r + tally (Op.completes r) q ≤ 1 := by
  by_cases hrp : r ∈ p.shared.rs.contextMap
  · by_cases hnotify : op.isNotify r (·.isNotification) = true
    · exact hcount.pending_notification hok hops h hrp hnotify
    · exact hcount.pending_kept h hrp (by simpa using hnotify)
  · -- the entry is new
    obtain ⟨ts, hmove, hmem⟩ := h.exists_move
    have hstarted : ¬ Started r p := fun hstarted => hstarted.not_mem_contextMap h hrp hr
    obtain ⟨text, hasBody, rfl⟩ := (horderly.started hr).of_list hstarted h
    have hzero : tally (Op.completes r) p = 0 :=
      hcount.orderly.life.tally_of_insertCtx h (fun o ho => Op.req_of_isNotify ho) rfl
    obtain ⟨rfl, rfl, -⟩ := hmove.of_insertCtx
    have hadd := h.tally_add (P := Op.completes r) fun o ho => by
      obtain ho | ho := ho
      · rw [List.mem_singleton.mp ho]
        rfl
      · exact h.spawned_completes ho
    have hnone : r ∉ q.shared.rs.onComplete := by
      rw [h.rs_eq]
      exact (hcount.orderly.life.unused hstarted).onComplete
    rw [List.count_eq_zero.mpr hnone]
    omega

private theorem Counted.led_list (hcount : Counted r p) {a : Label} (hok : completesOnce p a = true)
    (hops : a.ops p = op :: rest) (h : ListStep dbg p q op rest more spawned others y)
    (hstarted : Started r q) {l : List Op} (hl : l ∈ lists q) :
    Led r (q.shared.completed r) l := by
  obtain ⟨ts, hmove, hmem⟩ := h.exists_move
  by_cases hstartedp : Started r p
  · have hmono : p.shared.completed r → q.shared.completed r := h.completed hstartedp
    have hled := hcount.led hstartedp
    obtain rfl | hl | hl := h.mem_after.mp hl
    · have hhead := hled _ (h.mem_before.mpr (.inl rfl))
      refine Led.append (hmove.led (fun hop => hmono (hhead.1 hop)) ?_) (hhead.2.mono ?_)
      · intro hop hr
        exact hmono (.inl (hcount.watcher hok hops hop hr))
      · rintro (hdone | hraises)
        · exact .inl (hmono hdone)
        · have hcompleted : y.completed r → q.shared.completed r := by
            unfold Shared.completed
            rw [h.rs_eq]
            exact id
          exact (hmove.raises_next hraises).imp_left hcompleted
    · refine led_of_leaves fun o ho => ?_
      obtain ⟨r', text, hasBody, rfl⟩ | ⟨r', rfl⟩ := h.mem_spawned hl <;>
        rw [List.mem_singleton.mp ho] <;> rfl
    · exact (hled l (h.mem_before.mpr (.inr hl))).mono hmono
  · -- nothing works for the request yet but its handler
    obtain ⟨text, hasBody, rfl⟩ := hstarted.of_list hstartedp h
    have hzero : tally (Op.leaves r) p = 0 :=
      hcount.orderly.life.tally_of_insertCtx h (fun o ho => Op.req_of_isNotify ho) rfl
    have hzero' : tally (Op.leaves r) q = 0 := by
      obtain ⟨-, rfl, -⟩ := hmove.of_insertCtx
      have hadd := h.tally_add (P := Op.leaves r) fun o ho => by
        obtain ho | ⟨l, hl, ho⟩ := ho
        · rw [List.mem_singleton.mp ho]
          rfl
        · obtain ⟨r', text, hasBody, rfl⟩ | ⟨r', rfl⟩ := h.mem_spawned hl <;>
            rw [List.mem_singleton.mp ho] <;> rfl
      omega
    refine led_of_leaves fun o ho => ?_
    by_contra hleaves
    have hpos := tally_pos_iff.mpr ⟨l, hl, o, ho, (by simpa using hleaves : o.leaves r = true)⟩
    omega

/-- Whatever works for a request, other than the insertion of its context, runs after that. -/
theorem Lifetime.started_of_op (hlife : Lifetime r p)
    (h : ListStep dbg p q op rest more spawned others y) (hreq : op.req = some r)
    (hins : op.inserts r = false) : Started r p := by
  have hnames := h.tally_before (Op.names r)
  have hinserts := h.tally_before (Op.inserts r)
  have hone : [op].countP (Op.names r) = 1 := by simp [Op.names_of_req hreq]
  have hzero : [op].countP (Op.inserts r) = 0 := by simp [hins]
  have hrest := inserts_le_names r rest
  have hothers : Pool.total (List.countP (Op.inserts r)) others ≤
      Pool.total (List.countP (Op.names r)) others :=
    total_le_total fun l _ => inserts_le_names r l
  have hadm : r ∈ p.shared.admitted := by
    by_contra hr
    have hnone := hlife.unknown hr
    omega
  refine ⟨hadm, ?_⟩
  by_contra hpos
  have halone := hlife.alone (by omega)
  omega

private theorem Counted.removals_list (hcount : Counted r p)
    (h : ListStep dbg p q op rest more spawned others y) (hr : r ∈ q.shared.rs.removals) :
    q.shared.completed r := by
  obtain ⟨ts, hmove, -⟩ := h.move
  have hold : r ∈ p.shared.rs.removals → q.shared.completed r := by
    intro hr
    have hstarted : Started r p := by
      by_contra hnot
      exact (hcount.orderly.life.unused hnot).removals hr
    exact h.completed hstarted (hcount.removals hr)
  rw [h.rs_eq] at hr
  obtain hsame | ⟨r', rfl, hadd⟩ := hmove.removals_cases
  · exact hold (hsame ▸ hr)
  · rw [hadd] at hr
    obtain hr | hr := List.mem_append.mp hr
    · exact hold hr
    · obtain rfl := List.mem_singleton.mp hr
      have hstarted : Started r p := hcount.orderly.life.started_of_op h rfl rfl
      have hhead := hcount.led hstarted _ (h.mem_before.mpr (.inl rfl))
      exact h.completed hstarted (hhead.1 (by simp [Op.leaves, NotifyOp.isLeaving]))

private theorem Counted.paired_list (hcount : Counted r p)
    (h : ListStep dbg p q op rest more spawned others y) {l : List Op} (hl : l ∈ lists q) :
    Paired r l := by
  obtain ⟨ts, hmove, -⟩ := h.move
  obtain rfl | hl | hl := h.mem_after.mp hl
  · exact hmove.paired.append (hcount.paired _ (h.mem_before.mpr (.inl rfl))).2
  · refine paired_of_completes fun o ho => ?_
    obtain ⟨r', text, hasBody, rfl⟩ | ⟨r', rfl⟩ := h.mem_spawned hl <;>
      rw [List.mem_singleton.mp ho] <;> rfl
  · exact hcount.paired l (h.mem_before.mpr (.inr hl))

private theorem Counted.marked_list (hcount : Counted r p)
    (h : ListStep dbg p q op rest more spawned others y) (hr : r ∈ q.shared.rs.contextMap)
    (hraised : r ∈ q.shared.rs.onComplete) : underWay q r = true := by
  obtain ⟨ts, hmove, -⟩ := h.move
  have hspawns : op.completes r = true → underWay q r = true := by
    intro hop
    have hnext := (hcount.paired _ (h.mem_before.mpr (.inl rfl))).spawnRemove_mem hop
    exact underWay_of_mem (h.mem_after.mpr (.inl rfl)) (List.mem_append_right _ hnext)
      (by simp [Op.finishes, NotifyOp.isLast])
  have hremovals : r ∈ p.shared.rs.removals → underWay q r = true := by
    intro hr
    have hmem : r ∈ q.shared.rs.removals := by
      rw [h.rs_eq]
      obtain hsame | ⟨r', -, hadd⟩ := hmove.removals_cases
      · rwa [hsame]
      · rw [hadd]
        exact List.mem_append_left _ hr
    simp [underWay, hmem]
  have hold : r ∈ p.shared.rs.onComplete → underWay q r = true := by
    intro hold
    have hstarted : Started r p := by
      by_contra hnot
      exact (hcount.orderly.life.unused hnot).onComplete hold
    have hrp : r ∈ p.shared.rs.contextMap := by
      by_contra hnot
      exact hstarted.not_mem_contextMap h hnot hr
    have hway := hcount.marked hrp hold
    simp only [underWay, Bool.or_eq_true, List.contains_iff_mem, decide_eq_true_eq] at hway
    obtain hremoval | hpos := hway
    · exact hremovals hremoval
    · obtain hop | hpos := h.tally_pos_next hpos
      · cases op with
        | notify r' o =>
            obtain rfl : r' = r := Option.some.inj (Op.req_of_isNotify hop)
            cases o with
            | raiseCompletion => exact hspawns (by simp [Op.completes, NotifyOp.isRaise])
            | spawnRemove =>
                have hmem : r' ∈ q.shared.rs.removals := by
                  rw [h.rs_eq]
                  cases hmove
                  simp [NotifyOp.run]
                simp [underWay, hmem]
            | _ => simp [Op.finishes, NotifyOp.isLast] at hop
        | _ => cases hop
      · simp [underWay, hpos]
  rw [h.rs_eq] at hraised
  obtain hsame | ⟨r', rfl, -, hadd⟩ := hmove.onComplete_cases
  · exact hold (hsame ▸ hraised)
  · rw [hadd] at hraised
    obtain hraised | hraised := List.mem_append.mp hraised
    · exact hold hraised
    · obtain rfl := List.mem_singleton.mp hraised
      exact hspawns (by simp [Op.completes, NotifyOp.isRaise])

private theorem Counted.gone_list (hcount : Counted r p) {a : Label}
    (hok : completesOnce p a = true)
    (hops : a.ops p = op :: rest) (h : ListStep dbg p q op rest more spawned others y)
    (hstarted : Started r q) (hr : r ∉ q.shared.rs.contextMap) :
    q.shared.rs.onComplete.count r = 1 := by
  obtain ⟨ts, hmove, -⟩ := h.move
  have hstartedp : Started r p := by
    by_contra hnot
    obtain ⟨text, hasBody, rfl⟩ := hstarted.of_list hnot h
    obtain ⟨rfl, -⟩ := hmove.of_insertCtx
    rw [h.rs_eq] at hr
    exact hr (by simp [RouterSocketV3.insertCtx])
  rw [h.rs_eq]
  by_cases hrp : r ∈ p.shared.rs.contextMap
  · -- the teardown empties the map
    have hop : op = .socket .retainNone := by
      by_contra hop
      exact hr (h.mem_contextMap hrp hop)
    have hone := hcount.count_le hrp (hcount.retainNone hok hops hop hrp)
    obtain hsame | ⟨r', hraise, -⟩ := hmove.onComplete_cases
    · rwa [hsame]
    · rw [hop] at hraise
      cases hraise
  · have hone := hcount.gone hstartedp hrp
    obtain hsame | ⟨r', -, hr', hadd⟩ := hmove.onComplete_cases
    · rwa [hsame]
    · have hne : r' ≠ r := by
        rintro rfl
        exact hrp hr'
      rw [hadd, List.count_append, hone, List.count_singleton]
      simp [hne]

theorem Counted.list (hcount : Counted r p) {a : Label} (hok : completesOnce p a = true)
    (hops : a.ops p = op :: rest) (h : ListStep dbg p q op rest more spawned others y)
    (horderly : Orderly r q) : Counted r q where
  orderly := horderly
  pending := hcount.pending_list hok hops h horderly
  led := fun hstarted _ hl => hcount.led_list hok hops h hstarted hl
  removals := hcount.removals_list h
  paired := fun _ hl => hcount.paired_list h hl
  marked := hcount.marked_list h
  gone := hcount.gone_list hok hops h

end ListStep

private theorem Arrives.not_isNotify {new : List (List Op)} {l : List Op} {o : Op}
    {P : NotifyOp → Bool}
    (h : Arrives p q new) (hl : l ∈ new) (ho : o ∈ l) : o.isNotify r P = false := by
  obtain ⟨text, hasBody, rfl⟩ | ⟨r', -, o', rfl, -⟩ | ⟨o', rfl, -⟩ := h.mem_cases hl ho <;> rfl

theorem IdleStep.mem_contextMap {gone new kept : List (List Op)} (h : IdleStep p q gone new kept)
    (hr : r ∈ q.shared.rs.contextMap) : r ∈ p.shared.rs.contextMap := by
  obtain ⟨hmap, -⟩ | ⟨r', -, hmap, -⟩ := h.map
  · exact hmap ▸ hr
  · rw [hmap] at hr
    exact List.mem_of_mem_filter hr

theorem IdleStep.removed {gone new kept : List (List Op)} (h : IdleStep p q gone new kept)
    (hp : r ∈ p.shared.rs.contextMap) (hq : r ∉ q.shared.rs.contextMap) :
    r ∈ p.shared.rs.removals := by
  obtain ⟨hmap, -⟩ | ⟨r', hr', hmap, -⟩ := h.map
  · rw [hmap] at hq
    exact absurd hp hq
  · by_cases hrr : r = r'
    · exact hrr ▸ hr'
    · refine absurd ?_ hq
      rw [hmap]
      simp [hp, hrr]

theorem Counted.idle (hcount : Counted r p) {gone new kept : List (List Op)}
    (h : IdleStep p q gone new kept) (horderly : Orderly r q) : Counted r q := by
  have hcompleted : p.shared.completed r → q.shared.completed r := by
    unfold Shared.completed
    rw [h.onComplete]
    exact Or.imp_right fun hnot hr => hnot (h.mem_contextMap hr)
  refine ⟨horderly, ?_, ?_, ?_, ?_, ?_, ?_⟩
  · intro hr
    have hle := hcount.pending (h.mem_contextMap hr)
    have htally : tally (Op.completes r) q ≤ tally (Op.completes r) p :=
      h.tally_le fun l hl o ho => h.arrives.not_isNotify hl ho
    rw [h.onComplete]
    omega
  · intro hstarted l hl
    have hstartedp : Started r p := hstarted.of_idle hcount.orderly.tidy h
    obtain hl | hl := List.mem_append.mp (h.after.mem_iff.mp hl)
    · exact led_of_leaves fun o ho => h.arrives.not_isNotify hl ho
    · have hmem := h.before.mem_iff.mpr (List.mem_append_right _ hl)
      exact (hcount.led hstartedp l hmem).mono hcompleted
  · intro hr
    refine hcompleted (hcount.removals ?_)
    obtain ⟨-, hsame⟩ | ⟨r', -, -, hless⟩ := h.map
    · exact hsame ▸ hr
    · rw [hless] at hr
      exact List.mem_of_mem_erase hr
  · intro l hl
    obtain hl | hl := List.mem_append.mp (h.after.mem_iff.mp hl)
    · exact paired_of_completes fun o ho => h.arrives.not_isNotify hl ho
    · exact hcount.paired l (h.before.mem_iff.mpr (List.mem_append_right _ hl))
  · intro hr hraised
    have hway := hcount.marked (h.mem_contextMap hr) (h.onComplete ▸ hraised)
    simp only [underWay, Bool.or_eq_true, List.contains_iff_mem, decide_eq_true_eq] at hway ⊢
    refine hway.imp (fun hremoval => ?_) fun hpos => ?_
    · obtain ⟨-, hsame⟩ | ⟨r', -, hmap, hless⟩ := h.map
      · rwa [hsame]
      · -- the removal that ran is that of another entry
        have hne : r ≠ r' := by
          rintro rfl
          simp [hmap] at hr
        rw [hless]
        exact (List.mem_erase_of_ne hne).mpr hremoval
    · refine hcount.orderly.tidy.tally_pos_idle h (fun o hawaits => ?_) hpos
      cases o with
      | notify r' o =>
          cases o <;> first | cases hawaits; done | simp [Op.finishes, Op.isNotify, NotifyOp.isLast]
      | _ => rfl
  · intro hstarted hr
    rw [h.onComplete]
    by_cases hrp : r ∈ p.shared.rs.contextMap
    · have hdone := hcount.removals (h.removed hrp hr)
      exact hcount.count_le hrp (hdone.resolve_right (not_not.mpr hrp))
    · exact hcount.gone (hstarted.of_idle hcount.orderly.tidy h) hrp

theorem Counted.step (hcount : Counted r p) {a : Label} (hok : completesOnce p a = true)
    (hstep : step dbg overflowChecks p a = some q) : Counted r q := by
  have horderly : Orderly r q := hcount.orderly.step hstep
  cases hops : a.ops p with
  | cons op rest =>
      obtain ⟨y, more, ts, spawned, others, -, hlist⟩ := listStep_of_ops hstep hops
      exact hcount.list hok hops hlist horderly
  | nil =>
      obtain ⟨gone, new, kept, hidle⟩ := idleStep_of_step hstep hops
      exact hcount.idle hidle horderly

private theorem counted_init (r : ReqId) (h : (socketMachine dbg overflowChecks).init p) :
    Counted r p := by
  have horderly := orderly_init r h
  have hnot : ¬ Started r p := by
    obtain ⟨route, routerSocketId, reallyNeed, now, rfl⟩ := h
    exact fun hstarted => nomatch hstarted.1
  have hunused := horderly.life.unused hnot
  have hpaired : ∀ l ∈ lists p, Paired r l := by
    obtain ⟨route, routerSocketId, reallyNeed, now, rfl⟩ := h
    intro l hl
    obtain rfl : l = [] := by simpa [lists, Shared.new] using hl
    trivial
  exact ⟨horderly, fun hr => absurd hr hunused.contextMap, fun hstarted => absurd hstarted hnot,
    fun hr => absurd hr hunused.removals, hpaired, fun hr => absurd hr hunused.contextMap,
    fun hstarted => absurd hstarted hnot⟩

/-- Over every run that meets the condition, a request whose entry has left the map was completed
once. -/
theorem count_onComplete
    (hp : (socketMachine dbg overflowChecks).Reachable (fun p a => completesOnce p a = true) p)
    (hstarted : Started r p) (hr : r ∉ p.shared.rs.contextMap) :
    p.shared.rs.onComplete.count r = 1 := by
  have hcount : Counted r p := by
    refine hp.invariant (P := Counted r) ?_ ?_
    · intro p hp
      exact counted_init r hp
    · intro p a q hcount hok hstep
      exact hcount.step hok hstep
  exact hcount.gone hstarted hr

end CrankerRouter.V3
