import CrankerRouter.V1.Spent
import CrankerRouter.V1.Tasks
import CrankerRouter.V3.Completion

/-!
# The completion event of a V1 socket

`raise_completion_event` calls the listeners one after the other, without a mark that it has been
called before.  It is reached from `on_close`, from `on_error` and from the portal.  It is called once
if one error or one close frame ends the request and the portal has nothing to add.
-/

namespace CrankerRouter.V1

open Lib

variable {dbg : DebugText} {x y z : Socket} {role : Role}

def Op.completes : Op → Bool
  | .complete _ _ => true
  | _ => false

def Op.isRaise : Op → Bool
  | .raise _ => true
  | _ => false

/-- The operations before the start of the request is noted. -/
def Op.begins : Op → Bool
  | .checkRemoved _ _ | .storeStart _ _ => true
  | _ => false

/-- The operations by which the end of the receive pipe is reported. -/
def Op.reports : Op → Bool
  | .onError _ _ | .endCheck => true
  | _ => false

/-- The listeners are called, have been called, or nobody is to be called. -/
def Socket.reported (x : Socket) : Bool :=
  x.rs.clientReqStartTs == 0 || x.rs.proxyListeners == 0 || !x.rs.onComplete.isEmpty ||
    decide (0 < x.tally Op.raises)

/-- A request starts on an open socket, neither removed nor settled.  From then on no error is
reported and no close frame handled on a socket that is settled already, the portal finds a socket
that is removed if it has to report a failed request, no listener but the last fails, and no ping or
pong fails on a removed socket that is not settled.  Of the transport it is assumed that a stream
ends without an error only after a close frame. -/
def endsOnce (x : Socket) : Label → Bool
  | .wssEnd => x.rs.isCloseMsgReceived
  | .task role c =>
      match (x.tasks role).head?, c with
      | some (.checkRemoved _ _), _ => !x.rs.isRemoved
      | some (.storeStart _ _), _ => !x.rs.isRemoved && !x.settled && x.recvOpen
      | some .portalError, _ => x.rs.isRemoved
      | some (.onError _ _), _ => x.rs.clientReqStartTs == 0 || x.rs.errChan.closed || !x.settled
      | some (.onClose _), _ => x.rs.clientReqStartTs == 0 || !x.settled
      | some (.complete listener _), .answer (some _) => x.rs.proxyListeners ≤ listener + 1
      | some (.sendFailed msg _), _ =>
          !keepsAlive msg || !x.rs.isRemoved || x.rs.clientReqStartTs == 0 || x.settled
      | _, _ => true
  | _ => true

/-- Without listeners there is nobody to call. -/
def completesOnce (x : Socket) (a : Label) : Bool := x.rs.proxyListeners == 0 || endsOnce x a

/-- The send pipe has ended or is about to. -/
def Socket.PipeEnds (x : Socket) : Prop :=
  x.rs.errChan.closed = true ∨ x.rs.wssSendTask.closed = true ∨
    ∃ o ∈ x.tasks .sendPipe, o.endsPipe = true

/-- Something has happened that raises the event. -/
def Socket.Signalled (x : Socket) : Prop :=
  x.rs.isCloseMsgReceived = true ∨ x.rs.errChan.sent ≠ [] ∨ x.PipeEnds

/-- The listeners are called one after the other, once. -/
structure Calls (x : Socket) : Prop where
  one : x.tally Op.completes ≤ 1
  next : ∀ role i inClose, .complete i inClose ∈ x.tasks role →
    x.rs.onComplete = List.range i ∧ i < x.rs.proxyListeners
  done : x.tally Op.completes = 0 →
    x.rs.onComplete = [] ∨ x.rs.onComplete = List.range x.rs.proxyListeners

/-- Over the runs that meet the condition: the listeners are called before the socket is closed. -/
structure Counted (x : Socket) : Prop where
  staged : Staged x
  clock : 0 < x.rs.now
  begun : x.served = true → x.rs.clientReqStartTs ≠ 0 ∨ ∃ o ∈ x.tasks .handler, o.begins = true
  quiet : x.settled = false →
    x.rs.onComplete = [] ∧ x.tally Op.isRaise = 0 ∧ x.tally Op.completes = 0
  alone : x.rs.clientReqStartTs ≠ 0 → 0 < x.tally Op.isRaise →
    x.tally Op.isRaise = 1 ∧ x.tally Op.completes = 0 ∧ x.rs.onComplete = []
  calls : Calls x
  signalled : x.Signalled → x.reported = true
  origin : x.PipeEnds → x.rs.errChan.sent ≠ [] ∨ x.rs.isRemoved = true
  recv : x.recvOpen = false →
    x.reported = true ∨ ∃ crex inClose, .onError crex inClose ∈ x.tasks .recv

section Task

variable {op o : Op} {rest more : List Op} {spawned : Option (Role × List Op)} {c : Choice}

private theorem Op.raises_of_isRaise (h : op.isRaise = true) : op.raises = true := by
  cases op <;> first | rfl | cases h

private theorem Op.raises_of_completes (h : op.completes = true) : op.raises = true := by
  cases op <;> first | rfl | cases h

/-- The listeners are called from `raise_completion_event` only. -/
theorem Move.completes_of_mem (h : Move dbg x op y more spawned) (ho : o ∈ more)
    (hcompletes : o.completes = true) : op.raises = true := by
  have hleads := h.leadsTo_of_mem ho
  cases o with
  | complete => cases op <;> first | rfl | cases hleads
  | _ => cases hcompletes

private theorem Move.isRaise_of_mem (h : Move dbg x op y more spawned) (ho : o ∈ more)
    (hraise : o.isRaise = true) :
    op = .portalError ∨ (∃ frame, op = .onClose frame) ∨ ∃ crex inClose, op = .onError crex inClose := by
  have hleads := h.leadsTo_of_mem ho
  cases o with
  | raise =>
      cases op <;> first
        | exact .inl rfl
        | exact .inr (.inl ⟨_, rfl⟩)
        | exact .inr (.inr ⟨_, _, rfl⟩)
        | cases hleads
  | _ => cases hraise

private theorem Op.not_of_raises (h : op.raises = false) :
    op.isRaise = false ∧ op.completes = false := by
  cases op <;> first | exact ⟨rfl, rfl⟩ | cases h

theorem Move.countP_completes (h : Move dbg x op y more spawned) (hraise : op.isRaise = false)
    (hop : op.completes = false) : more.countP Op.completes = 0 := by
  refine List.countP_eq_zero.mpr fun o ho hcompletes => ?_
  have hraises := h.completes_of_mem ho hcompletes
  cases op <;> first | cases hraises; done | cases hraise; done | cases hop

private theorem Move.onComplete_eq (h : Move dbg x op y more spawned) (hop : op.completes = false) :
    y.rs.onComplete = x.rs.onComplete := by
  cases h with
  | completed | completeFails => cases hop
  | errorLost crex inClose hclosed => simp
  | _ => rfl

private theorem Move.start_eq (h : Move dbg x op y more spawned)
    (hop : ∀ text hasBody, op ≠ .storeStart text hasBody) :
    y.rs.clientReqStartTs = x.rs.clientReqStartTs := by
  cases h with
  | storeStart text hasBody => exact absurd rfl (hop text hasBody)
  | errorLost crex inClose hclosed | completeFails listener inClose crex => simp
  | _ => rfl

private theorem Move.isRemoved_eq (h : Move dbg x op y more spawned) :
    y.rs.isRemoved = x.rs.isRemoved := by
  cases h with
  | errorLost crex inClose hclosed | completeFails listener inClose crex => simp
  | _ => rfl

private theorem raise_exec {inClose : Bool}
    (h : (Op.raise inClose).exec dbg x c = some (y, more, spawned)) :
    (x.rs.clientReqStartTs = 0 ∨ x.rs.proxyListeners = 0) ∧ more = [] ∨
      x.rs.clientReqStartTs ≠ 0 ∧ x.rs.proxyListeners ≠ 0 ∧ more = [.complete 0 inClose] := by
  simp only [Op.exec, Op.group, execShared] at h
  split_ifs at h with hnone <;> cases h
  · exact .inl ⟨hnone, rfl⟩
  · rw [not_or] at hnone
    exact .inr ⟨hnone.1, hnone.2, rfl⟩

private theorem complete_exec {i : Nat} {inClose : Bool}
    (h : (Op.complete i inClose).exec dbg x c = some (y, more, spawned)) :
    y.rs.onComplete = x.rs.onComplete ++ [i] ∧
      (more = (if i + 1 < x.rs.proxyListeners then [.complete (i + 1) inClose] else []) ∨
        more = [] ∧ ∃ crex, c = .answer (some crex)) := by
  simp only [Op.exec, Op.group, execShared] at h
  split at h <;> cases h
  · exact ⟨rfl, .inl rfl⟩
  · exact ⟨by simp, .inr ⟨rfl, _, rfl⟩⟩

private theorem onError_exec {crex : CrankerRouterException} {inClose : Bool}
    (h : (Op.onError crex inClose).exec dbg x c = some (y, more, spawned)) :
    x.rs.errChan.closed = true ∧ more = [] ∨
      x.rs.errChan.closed = false ∧ y.rs.errChan.sent ≠ [] ∧ more = [.raise false] := by
  simp only [Op.exec, Op.group, execShared] at h
  split_ifs at h with hclosed <;> cases h
  · exact .inl ⟨hclosed, rfl⟩
  · refine .inr ⟨by simpa using hclosed, ?_, rfl⟩
    rw [Chan.send_sent_of_open (by simpa using hclosed)]
    simp

private theorem portalError_exec (h : Op.portalError.exec dbg x c = some (y, more, spawned)) :
    x.rs.isRemoved = false ∨ more = [] := by
  simp only [Op.exec, Op.group, execHandler, Option.some.injEq, Prod.mk.injEq] at h
  obtain ⟨-, rfl, -⟩ := h
  split_ifs with hremoved
  · exact .inr rfl
  · exact .inl (by simpa using hremoved)

private theorem onClose_exec {frame : Option CloseFrame}
    (h : (Op.onClose frame).exec dbg x c = some (y, more, spawned)) :
    y.rs.isCloseMsgReceived = true ∧ y.rs.onComplete = x.rs.onComplete ∧ .raise true ∈ more ∧
      more.countP Op.isRaise = 1 ∧ more.countP Op.completes = 0 := by
  simp only [Op.exec, Op.group, execRecv, Option.some.injEq, Prod.mk.injEq] at h
  obtain ⟨rfl, rfl, -⟩ := h
  exact ⟨rfl, rfl, by simp, rfl, rfl⟩

private theorem Move.errSent (h : Move dbg x op y more spawned) (hx : x.rs.errChan.sent ≠ []) :
    y.rs.errChan.sent ≠ [] := by
  rcases h.errChan with heq | ⟨crex, inClose, -, hopen, heq⟩ | ⟨crex, -, -, -, heq⟩ | ⟨-, heq⟩
  · rwa [heq]
  · rw [heq, Chan.send_sent_of_open hopen]
    simp
  · rwa [heq, Chan.take_sent]
  · rwa [heq, Chan.close_sent]

private theorem Socket.not_settled_iff :
    x.settled = false ↔ x.rs.isCloseMsgReceived = false ∧ x.rs.errChan.sent = [] := by
  simp [Socket.settled]

private theorem Socket.signalled_of_settled (h : x.settled = true) : x.Signalled := by
  simp only [Socket.settled, Bool.or_eq_true, Bool.not_eq_true', List.isEmpty_eq_false_iff] at h
  exact h.imp_right .inl

private theorem Socket.reported_iff : x.reported = true ↔ x.rs.clientReqStartTs = 0 ∨
    x.rs.proxyListeners = 0 ∨ x.rs.onComplete ≠ [] ∨ 0 < x.tally Op.raises := by
  simp [Socket.reported, or_assoc]

private theorem eq_of_tally_le_one {P : Op → Bool} (h : x.tally P ≤ 1) {role' : Role} {o' : Op}
    (ho : o ∈ x.tasks role) (hP : P o = true) (ho' : o' ∈ x.tasks role') (hP' : P o' = true) :
    o = o' := by
  have hpos : 0 < (x.tasks role).countP P := List.countP_pos_iff.mpr ⟨o, ho, hP⟩
  have hpos' : 0 < (x.tasks role').countP P := List.countP_pos_iff.mpr ⟨o', ho', hP'⟩
  by_cases hrole : role = role'
  · subst hrole
    have hle : (x.tasks role).countP P ≤ 1 :=
      (Pool.le_total_of_mem (fun role => (x.tasks role).countP P) role.mem_all).trans h
    have hlen : ((x.tasks role).filter P).length ≤ 1 := by rwa [← List.countP_eq_length_filter]
    have hmem : o ∈ (x.tasks role).filter P := List.mem_filter.mpr ⟨ho, hP⟩
    have hmem' : o' ∈ (x.tasks role).filter P := List.mem_filter.mpr ⟨ho', hP'⟩
    obtain ⟨o'', hfilter⟩ : ∃ o'', (x.tasks role).filter P = [o''] :=
      List.length_eq_one_iff.mp (hlen.antisymm (List.length_pos_of_mem hmem))
    rw [hfilter, List.mem_singleton] at hmem hmem'
    rw [hmem, hmem']
  · -- the lists without the first one still hold the other
    have hset := tally_setTask x role [] P
    have hother : 0 < (x.setTask role []).tally P :=
      tally_pos_iff.mpr ⟨role', o', by simpa [Socket.setTask, Ne.symm hrole] using ho', hP'⟩
    rw [List.countP_nil] at hset
    omega

private theorem calls_of_next {i : Nat} {inClose : Bool} (htally : x.tally Op.completes = 1)
    (hmem : .complete i inClose ∈ x.tasks role) (hcalled : x.rs.onComplete = List.range i)
    (hlt : i < x.rs.proxyListeners) : Calls x := by
  refine ⟨htally.le, ?_, ?_⟩
  · intro role' i' inClose' ho
    have heq := eq_of_tally_le_one htally.le ho rfl hmem rfl
    obtain ⟨rfl, -⟩ := Op.complete.inj heq
    exact ⟨hcalled, hlt⟩
  · intro hzero
    omega

private theorem calls_of_done (htally : x.tally Op.completes = 0)
    (hcalled : x.rs.onComplete = List.range x.rs.proxyListeners) : Calls x := by
  refine ⟨by omega, ?_, fun _ => .inr hcalled⟩
  intro role i inClose ho
  have hpos : 0 < x.tally Op.completes := tally_pos_iff.mpr ⟨role, _, ho, rfl⟩
  omega

theorem Calls.of_same (h : Calls x) (htally : z.tally Op.completes = x.tally Op.completes)
    (hcalled : z.rs.onComplete = x.rs.onComplete)
    (hlisteners : z.rs.proxyListeners = x.rs.proxyListeners)
    (hmem : ∀ role i inClose, .complete i inClose ∈ z.tasks role →
      ∃ role', .complete i inClose ∈ x.tasks role') : Calls z := by
  refine ⟨?_, ?_, ?_⟩
  · rw [htally]
    exact h.one
  · intro role i inClose ho
    obtain ⟨role', ho⟩ := hmem role i inClose ho
    rw [hcalled, hlisteners]
    exact h.next role' i inClose ho
  · rw [htally, hcalled, hlisteners]
    exact h.done

variable (hx : Counted x) (hops : x.tasks role = op :: rest)
  (hexec : op.exec dbg x c = some (y, more, spawned))
  (hok : endsOnce x (.task role c) = true)

include hx hops hexec

private theorem Counted.tally_raises :
    ((y.setTask role (more ++ rest)).spawn spawned).tally Op.raises + [op].countP Op.raises =
      x.tally Op.raises + more.countP Op.raises :=
  hx.staged.tally_task hops (move_of_exec hexec) fun _ h => h

private theorem Counted.reported_of_mem (ho : o ∈ more) (hraises : o.raises = true)
    (hop : op.raises = false) : ((y.setTask role (more ++ rest)).spawn spawned).reported = true := by
  have htally := hx.tally_raises hops hexec
  have hpos : 0 < more.countP Op.raises := List.countP_pos_iff.mpr ⟨o, ho, hraises⟩
  have hzero : [op].countP Op.raises = 0 := by simp [hop]
  exact Socket.reported_iff.mpr (.inr (.inr (.inr (by omega))))

private theorem Counted.reported_task (hop : ∀ text hasBody, op ≠ .storeStart text hasBody)
    (h : x.reported = true) : ((y.setTask role (more ++ rest)).spawn spawned).reported = true := by
  have hmove := move_of_exec hexec
  have htally := hx.tally_raises hops hexec
  rw [Socket.reported_iff, Socket.spawn_rs, Socket.setTask_rs, hmove.start_eq hop,
    hmove.frame.proxyListeners]
  by_cases hcompletes : op.completes = true
  · obtain ⟨i, inClose, rfl⟩ : ∃ i inClose, op = .complete i inClose := by
      cases op <;> first | exact ⟨_, _, rfl⟩ | cases hcompletes
    right; right; left
    rw [(complete_exec hexec).1]
    simp
  · have hsame := hmove.onComplete_eq (by simpa using hcompletes)
    rw [hsame]
    rcases Socket.reported_iff.mp h with hstart | hnone | hcalled | hpos
    · exact .inl hstart
    · exact .inr (.inl hnone)
    · exact .inr (.inr (.inl hcalled))
    · by_cases hraises : op.raises = true
      · obtain ⟨inClose, rfl⟩ : ∃ inClose, op = .raise inClose := by
          cases op <;> first | exact ⟨_, rfl⟩ | exact absurd rfl hcompletes | cases hraises
        rcases raise_exec hexec with ⟨hnone, -⟩ | ⟨-, -, rfl⟩
        · exact hnone.imp_right .inl
        · have hone : [Op.complete 0 inClose].countP Op.raises = 1 := by simp [Op.raises]
          have hop : [Op.raise inClose].countP Op.raises = 1 := by simp [Op.raises]
          exact .inr (.inr (.inr (by omega)))
      · have hzero : [op].countP Op.raises = 0 := by simp [hraises]
        exact .inr (.inr (.inr (by omega)))

omit hx in
private theorem pipeEnds_of_op (hfits : Fits x) (hop : op.endsPipe = true) : x.PipeEnds := by
  have hgroup : op.group = .sendPipe := by cases op <;> first | rfl | cases hop
  obtain rfl := hfits.role_eq hops (fits_sendPipe hgroup)
  exact .inr (.inr ⟨op, by simp [hops], hop⟩)

private theorem Counted.pipeEnds_cases
    (h : ((y.setTask role (more ++ rest)).spawn spawned).PipeEnds) :
    x.PipeEnds ∨ x.rs.errChan.sent ≠ [] ∨
      ∃ msg err, op = .sendFailed msg err ∧ x.rs.isRemoved = true ∧ keepsAlive msg = true := by
  have hmove := move_of_exec hexec
  unfold Socket.PipeEnds at h
  rw [Socket.spawn_rs, Socket.setTask_rs, hmove.tasks_own role rest (by simp) (by simp)] at h
  rcases h with hclosed | hclosed | ⟨o, ho, hends⟩
  · left
    rcases hmove.errChan with heq | ⟨crex, inClose, -, -, heq⟩ | ⟨crex, -, -, -, heq⟩ | ⟨rfl, -⟩
    · exact .inl (by rwa [← heq])
    · exact .inl (by rwa [heq, Chan.send_closed] at hclosed)
    · exact .inl (by rwa [heq, Chan.take_closed] at hclosed)
    · exact pipeEnds_of_op hops hexec hx.staged.fits rfl
  · left
    rcases hmove.sendTask_closed hclosed with hold | rfl | rfl
    · exact .inr (.inl hold)
    · exact pipeEnds_of_op hops hexec hx.staged.fits rfl
    · exact pipeEnds_of_op hops hexec hx.staged.fits rfl
  · split_ifs at ho with hrole
    · subst hrole
      rcases List.mem_append.mp ho with ho | ho
      · rcases hmove.endsPipe_of_mem ho hends with ⟨crex, -, rfl, htake⟩ | hclosed | ⟨msg, err, rfl, hend⟩
        · right; left
          -- the error that was taken had been sent
          rcases hmove.errChan with heq | ⟨_, _, hop, -⟩ | ⟨crex', -, hnext, -, -⟩ | ⟨hop, -⟩
          · have htaken := congrArg Chan.taken (heq.symm.trans htake)
            simp [Chan.take] at htaken
          · cases hop
          · intro hnil
            simp [Chan.next?, hnil] at hnext
          · cases hop
        · exact .inl (.inr (.inl hclosed))
        · obtain ⟨hremoved, hkeeps⟩ := sendFailed_exec hexec hend
          exact .inr (.inr ⟨msg, err, rfl, hremoved, hkeeps⟩)
      · exact .inl (.inr (.inr ⟨o, by simp [hops, ho], hends⟩))
    · exact .inl (.inr (.inr ⟨o, ho, hends⟩))

private theorem Counted.origin_task (h : ((y.setTask role (more ++ rest)).spawn spawned).PipeEnds) :
    y.rs.errChan.sent ≠ [] ∨ y.rs.isRemoved = true := by
  have hmove := move_of_exec hexec
  rw [hmove.isRemoved_eq]
  rcases hx.pipeEnds_cases hops hexec h with hends | hsent | ⟨msg, err, -, hremoved, -⟩
  · exact (hx.origin hends).imp_left hmove.errSent
  · exact .inl (hmove.errSent hsent)
  · exact .inr hremoved

include hok

private theorem Counted.signalled_storeStart {text : String} {hasBody : Bool}
    (hop : op = .storeStart text hasBody) :
    ¬ ((y.setTask role (more ++ rest)).spawn spawned).Signalled := by
  have hpipe := hx.pipeEnds_cases hops hexec
  subst hop
  simp only [endsOnce, hops, List.head?_cons, Bool.and_eq_true, Bool.not_eq_true'] at hok
  obtain ⟨⟨hremoved, hsettled⟩, -⟩ := hok
  obtain ⟨hclose, hsent⟩ := Socket.not_settled_iff.mp hsettled
  have hrs : y.rs.isCloseMsgReceived = x.rs.isCloseMsgReceived ∧ y.rs.errChan = x.rs.errChan := by
    simp only [Op.exec, Op.group, execHandler, Option.some.injEq, Prod.mk.injEq] at hexec
    obtain ⟨rfl, -⟩ := hexec
    exact ⟨rfl, rfl⟩
  unfold Socket.Signalled
  rw [Socket.spawn_rs, Socket.setTask_rs, hrs.1, hrs.2, hclose, hsent]
  rintro (hclose | hsent | hends)
  · cases hclose
  · exact hsent rfl
  · rcases hpipe hends with hends | hne | ⟨_, _, hop, -⟩
    · rcases hx.origin hends with hne | hr
      · exact hne hsent
      · rw [hremoved] at hr
        cases hr
    · exact hne hsent
    · cases hop

private theorem Counted.signalled_task
    (h : ((y.setTask role (more ++ rest)).spawn spawned).Signalled) :
    ((y.setTask role (more ++ rest)).spawn spawned).reported = true := by
  have hmove := move_of_exec hexec
  by_cases hstart : ∃ text hasBody, op = .storeStart text hasBody
  · obtain ⟨text, hasBody, hop⟩ := hstart
    exact absurd h (hx.signalled_storeStart hops hexec hok hop)
  have hop : ∀ text hasBody, op ≠ .storeStart text hasBody := fun text hasBody heq =>
    hstart ⟨text, hasBody, heq⟩
  have hold : x.Signalled → ((y.setTask role (more ++ rest)).spawn spawned).reported = true :=
    fun hsig => hx.reported_task hops hexec hop (hx.signalled hsig)
  rcases h with hclose | hsent | hends
  · rw [Socket.spawn_rs, Socket.setTask_rs] at hclose
    rcases hmove.isCloseMsgReceived with heq | ⟨frame, rfl, -⟩
    · exact hold (.inl (by rwa [← heq]))
    · exact hx.reported_of_mem hops hexec (onClose_exec hexec).2.2.1 rfl rfl
  · rw [Socket.spawn_rs, Socket.setTask_rs] at hsent
    rcases hmove.errChan with heq | ⟨crex, inClose, rfl, hopen, -⟩ | ⟨crex, -, -, -, heq⟩ | ⟨-, heq⟩
    · exact hold (.inr (.inl (by rwa [← heq])))
    · rcases onError_exec hexec with ⟨hclosed, -⟩ | ⟨-, -, rfl⟩
      · rw [hopen] at hclosed
        cases hclosed
      · exact hx.reported_of_mem hops hexec (o := .raise false) (by simp) rfl rfl
    · exact hold (.inr (.inl (by rwa [heq, Chan.take_sent] at hsent)))
    · exact hold (.inr (.inl (by rwa [heq, Chan.close_sent] at hsent)))
  · rcases hx.pipeEnds_cases hops hexec hends with hends | hsent | ⟨msg, err, rfl, hremoved, hkeeps⟩
    · exact hold (.inr (.inr hends))
    · exact hold (.inr (.inl hsent))
    · have hguard : x.rs.clientReqStartTs = 0 ∨ x.settled = true := by
        simpa [endsOnce, hops, hremoved, hkeeps] using hok
      refine hx.reported_task hops hexec hop (hguard.elim (fun hzero => ?_) fun hsettled => ?_)
      · exact Socket.reported_iff.mpr (.inl hzero)
      · exact hx.signalled (Socket.signalled_of_settled hsettled)

private theorem Counted.recv_task (hopen : x.recvOpen = false) :
    ((y.setTask role (more ++ rest)).spawn spawned).reported = true ∨
      ∃ crex inClose, .onError crex inClose ∈
        ((y.setTask role (more ++ rest)).spawn spawned).tasks .recv := by
  have hmove := move_of_exec hexec
  have hop : ∀ text hasBody, op ≠ .storeStart text hasBody := by
    rintro text hasBody rfl
    simp [endsOnce, hops, hopen] at hok
  have hreport := hx.reported_task hops hexec hop
  rw [hmove.tasks_own role rest (by simp) (by simp)]
  rcases hx.recv hopen with hreported | ⟨crex, inClose, ho⟩
  · exact .inl (hreport hreported)
  by_cases hrole : Role.recv = role
  · subst hrole
    rw [if_pos rfl]
    rw [hops, List.mem_cons] at ho
    rcases ho with rfl | ho
    · left
      rcases onError_exec hexec with ⟨hclosed, -⟩ | ⟨-, -, rfl⟩
      · exact hreport (hx.signalled (.inr (.inr (.inl hclosed))))
      · exact hx.reported_of_mem hops hexec (o := .raise false) (by simp) rfl rfl
    · exact .inr ⟨crex, inClose, List.mem_append_right _ ho⟩
  · rw [if_neg hrole]
    exact .inr ⟨crex, inClose, ho⟩

omit hx hexec hok in
private theorem tally_pos_of_head {P : Op → Bool} (h : P op = true) : 0 < x.tally P :=
  tally_pos_iff.mpr ⟨role, op, by simp [hops], h⟩

omit hx in
private theorem raise_new (ho : o ∈ more) (hraise : o.isRaise = true) :
    y.settled = true ∧ op.raises = false ∧ more.countP Op.isRaise = 1 ∧
      more.countP Op.completes = 0 ∧ (x.rs.clientReqStartTs ≠ 0 → x.settled = false) := by
  rcases (move_of_exec hexec).isRaise_of_mem ho hraise with rfl | ⟨frame, rfl⟩ |
    ⟨crex, inClose, rfl⟩
  · have hremoved : x.rs.isRemoved = true := by simpa [endsOnce, hops] using hok
    rcases portalError_exec hexec with hnot | rfl
    · rw [hremoved] at hnot
      cases hnot
    · cases ho
  · obtain ⟨hclose, -, -, hone, hzero⟩ := onClose_exec hexec
    refine ⟨by simp [Socket.settled, hclose], rfl, hone, hzero, fun hstart => ?_⟩
    simpa [endsOnce, hops, hstart] using hok
  · rcases onError_exec hexec with ⟨-, rfl⟩ | ⟨hopen, hsent, rfl⟩
    · cases ho
    · refine ⟨by simp [Socket.settled, hsent], rfl, rfl, rfl, fun hstart => ?_⟩
      simpa [endsOnce, hops, hstart, hopen] using hok

private theorem Counted.quiet_task
    (hsettled : ((y.setTask role (more ++ rest)).spawn spawned).settled = false) :
    y.rs.onComplete = [] ∧ ((y.setTask role (more ++ rest)).spawn spawned).tally Op.isRaise = 0 ∧
      ((y.setTask role (more ++ rest)).spawn spawned).tally Op.completes = 0 := by
  have hmove := move_of_exec hexec
  have hy : y.settled = false := by
    rw [← hsettled, Socket.settled, Socket.settled, Socket.spawn_rs, Socket.setTask_rs]
  have hbefore : x.settled = false := by
    by_contra hx'
    rw [hmove.settled (by simpa using hx')] at hy
    cases hy
  obtain ⟨hnone, hraise, hcompletes⟩ := hx.quiet hbefore
  have hop : op.isRaise = false ∧ op.completes = false := by
    constructor <;> by_contra h
    · have hpos := tally_pos_of_head hops (P := Op.isRaise) (by simpa using h)
      omega
    · have hpos := tally_pos_of_head hops (P := Op.completes) (by simpa using h)
      omega
  have hnew : more.countP Op.isRaise = 0 := by
    refine List.countP_eq_zero.mpr fun o ho h => ?_
    rw [(raise_new hops hexec hok ho h).1] at hy
    cases hy
  have hnew' : more.countP Op.completes = 0 :=
    hmove.countP_completes hop.1 hop.2
  have htally := hx.staged.tally_task (P := Op.isRaise) hops hmove fun _ => Op.raises_of_isRaise
  have htally' := hx.staged.tally_task (P := Op.completes) hops hmove fun _ =>
    Op.raises_of_completes
  exact ⟨(hmove.onComplete_eq hop.2).trans hnone, by omega, by omega⟩

private theorem Counted.alone_task
    (hstart : y.rs.clientReqStartTs ≠ 0)
    (hpos : 0 < ((y.setTask role (more ++ rest)).spawn spawned).tally Op.isRaise) :
    ((y.setTask role (more ++ rest)).spawn spawned).tally Op.isRaise = 1 ∧
      ((y.setTask role (more ++ rest)).spawn spawned).tally Op.completes = 0 ∧
      y.rs.onComplete = [] := by
  have hmove := move_of_exec hexec
  have htally := hx.staged.tally_task (P := Op.isRaise) hops hmove fun _ => Op.raises_of_isRaise
  have htally' := hx.staged.tally_task (P := Op.completes) hops hmove fun _ =>
    Op.raises_of_completes
  have hstartx : x.rs.clientReqStartTs ≠ 0 ∨ x.settled = false := by
    by_cases hop : ∃ text hasBody, op = .storeStart text hasBody
    · obtain ⟨text, hasBody, rfl⟩ := hop
      right
      simp only [endsOnce, hops, List.head?_cons, Bool.and_eq_true, Bool.not_eq_true'] at hok
      exact hok.1.2
    · left
      rwa [hmove.start_eq fun text hasBody heq => hop ⟨text, hasBody, heq⟩] at hstart
  by_cases hnew : ∃ o ∈ more, o.isRaise = true
  · obtain ⟨o, ho, hraise⟩ := hnew
    obtain ⟨-, hraises, hone, hzero, hsettled⟩ := raise_new hops hexec hok ho hraise
    obtain ⟨hnone, hraise0, hcompletes0⟩ := hx.quiet (hstartx.elim hsettled id)
    have hop := Op.not_of_raises hraises
    have hop0 : [op].countP Op.isRaise = 0 := by simp [hop.1]
    exact ⟨by omega, by omega, (hmove.onComplete_eq hop.2).trans hnone⟩
  · have hzero : more.countP Op.isRaise = 0 :=
      List.countP_eq_zero.mpr fun o ho h => hnew ⟨o, ho, h⟩
    have hbefore : x.rs.clientReqStartTs ≠ 0 := by
      refine hstartx.resolve_right fun hsettled => ?_
      have hquiet := hx.quiet hsettled
      omega
    obtain ⟨hone, hcompletes, hnone⟩ := hx.alone hbefore (by omega)
    have hop : op.isRaise = false ∧ op.completes = false := by
      constructor <;> by_contra h
      · have hop1 : [op].countP Op.isRaise = 1 := by simp [h]
        omega
      · have hpos' := tally_pos_of_head hops (P := Op.completes) (by simpa using h)
        omega
    have hop0 : [op].countP Op.isRaise = 0 := by simp [hop.1]
    have hnew' : more.countP Op.completes = 0 := hmove.countP_completes hop.1 hop.2
    exact ⟨by omega, by omega, (hmove.onComplete_eq hop.2).trans hnone⟩

private theorem Counted.begun_task (hserved : x.served = true) :
    y.rs.clientReqStartTs ≠ 0 ∨
      ∃ o ∈ ((y.setTask role (more ++ rest)).spawn spawned).tasks .handler, o.begins = true := by
  have hmove := move_of_exec hexec
  rw [hmove.handler_after]
  by_cases hstart : ∃ text hasBody, op = .storeStart text hasBody
  · left
    obtain ⟨text, hasBody, rfl⟩ := hstart
    simp only [Op.exec, Op.group, execHandler, Option.some.injEq, Prod.mk.injEq] at hexec
    obtain ⟨rfl, -⟩ := hexec
    exact hx.clock.ne'
  have hop : ∀ text hasBody, op ≠ .storeStart text hasBody := fun text hasBody heq =>
    hstart ⟨text, hasBody, heq⟩
  rw [hmove.start_eq hop]
  rcases hx.begun hserved with hne | ⟨o, ho, hbegins⟩
  · exact .inl hne
  by_cases hrole : Role.handler = role
  · subst hrole
    right
    rw [if_pos rfl]
    obtain rfl := hx.staged.rest_eq hops
    rw [hops, List.mem_singleton] at ho
    subst ho
    cases o with
    | checkRemoved text hasBody =>
        have hremoved : x.rs.isRemoved = false := by simpa [endsOnce, hops] using hok
        simp only [Op.exec, Op.group, execHandler, hremoved, Option.some.injEq, Prod.mk.injEq] at hexec
        obtain ⟨-, rfl, -⟩ := hexec
        exact ⟨.storeStart text hasBody, by simp, rfl⟩
    | storeStart text hasBody => exact absurd rfl (hop text hasBody)
    | _ => cases hbegins
  · rw [if_neg hrole]
    exact .inr ⟨o, ho, hbegins⟩

omit hok in
private theorem Counted.calls_of_no_call (hnew : ∀ o ∈ more, o.completes = false)
    (hop : op.completes = false) : Calls ((y.setTask role (more ++ rest)).spawn spawned) := by
  have hmove := move_of_exec hexec
  have htally := hx.staged.tally_task (P := Op.completes) hops hmove fun _ => Op.raises_of_completes
  have hzero : more.countP Op.completes = 0 := List.countP_eq_zero.mpr (by simpa using hnew)
  have hzero' : [op].countP Op.completes = 0 := by simp [hop]
  refine hx.calls.of_same (by omega) ?_ ?_ ?_
  · rw [Socket.spawn_rs, Socket.setTask_rs, hmove.onComplete_eq hop]
  · rw [Socket.spawn_rs, Socket.setTask_rs, hmove.frame.proxyListeners]
  · intro role' i inClose ho
    rcases hmove.mem_after hops ho with hold | ⟨-, ho⟩ | ⟨text, hasBody, ho⟩ | ho
    · exact ⟨role', hold⟩
    · cases hnew _ ho
    · cases ho
    · cases ho

omit hx hops hok in
private theorem mem_after_of_raises (hraises : op.raises = true) (ho : o ∈ more) :
    o ∈ ((y.setTask role (more ++ rest)).spawn spawned).tasks role := by
  rcases (move_of_exec hexec).spawned_cases with rfl | ⟨_, _, rfl, -⟩ | ⟨_, rfl, -⟩
  · simp [Socket.spawn, Socket.setTask, ho]
  · cases hraises
  · cases hraises

omit hok in
private theorem Counted.calls_raise {inClose : Bool} (hop : op = .raise inClose) :
    Calls ((y.setTask role (more ++ rest)).spawn spawned) := by
  subst hop
  have hmove := move_of_exec hexec
  rcases raise_exec hexec with ⟨-, rfl⟩ | ⟨hstart, hsome, rfl⟩
  · exact hx.calls_of_no_call hops hexec (by simp) rfl
  · -- no listener has been called yet: this is the only operation that raises the event
    obtain ⟨-, hzero, hnone⟩ := hx.alone hstart (tally_pos_of_head hops rfl)
    have htally := hx.staged.tally_task (P := Op.completes) hops hmove fun _ =>
      Op.raises_of_completes
    have hop : [Op.raise inClose].countP Op.completes = 0 := by simp [Op.completes]
    have hone : [Op.complete 0 inClose].countP Op.completes = 1 := by simp [Op.completes]
    refine calls_of_next (by omega)
      (mem_after_of_raises hexec rfl (o := .complete 0 inClose) (by simp)) ?_ ?_
    · rw [Socket.spawn_rs, Socket.setTask_rs, hmove.onComplete_eq rfl, hnone]
      rfl
    · rw [Socket.spawn_rs, Socket.setTask_rs, hmove.frame.proxyListeners]
      omega

private theorem Counted.calls_complete {i : Nat} {inClose : Bool} (hop : op = .complete i inClose) :
    Calls ((y.setTask role (more ++ rest)).spawn spawned) := by
  subst hop
  have hmove := move_of_exec hexec
  have htally := hx.staged.tally_task (P := Op.completes) hops hmove fun _ => Op.raises_of_completes
  have hlisteners : ((y.setTask role (more ++ rest)).spawn spawned).rs.proxyListeners =
      x.rs.proxyListeners := by rw [Socket.spawn_rs, Socket.setTask_rs, hmove.frame.proxyListeners]
  have hmem : .complete i inClose ∈ x.tasks role := by simp [hops]
  obtain ⟨hbefore, hlt⟩ := hx.calls.next role i inClose hmem
  obtain ⟨hcalled, hmore⟩ := complete_exec hexec
  have hpos : 0 < x.tally Op.completes := tally_pos_iff.mpr ⟨role, _, hmem, rfl⟩
  have hone := hx.calls.one
  have hop : [Op.complete i inClose].countP Op.completes = 1 := by simp [Op.completes]
  have hrange : ((y.setTask role (more ++ rest)).spawn spawned).rs.onComplete =
      List.range (i + 1) := by
    rw [Socket.spawn_rs, Socket.setTask_rs, hcalled, hbefore, List.range_succ]
  -- after the last listener nothing is left to call
  have hlast : more = [] → i + 1 = x.rs.proxyListeners →
      Calls ((y.setTask role (more ++ rest)).spawn spawned) := by
    intro hnil hlast
    rw [hnil, List.countP_nil] at htally
    refine calls_of_done (by rw [hnil]; omega) ?_
    rw [hrange, hlast, hlisteners]
  rcases hmore with hmore | ⟨hmore, crex, rfl⟩
  · split_ifs at hmore with hlt'
    · subst hmore
      have hnew : [Op.complete (i + 1) inClose].countP Op.completes = 1 := by
        simp [Op.completes]
      exact calls_of_next (by omega)
        (mem_after_of_raises hexec rfl (o := .complete (i + 1) inClose) (by simp)) hrange (by omega)
    · exact hlast hmore (by omega)
  · have hle : x.rs.proxyListeners ≤ i + 1 := by simpa [endsOnce, hops] using hok
    exact hlast hmore (by omega)

private theorem Counted.calls_task : Calls ((y.setTask role (more ++ rest)).spawn spawned) := by
  by_cases hraises : op.raises = true
  · cases op with
    | raise inClose => exact hx.calls_raise hops hexec rfl
    | complete i inClose => exact hx.calls_complete hops hexec hok rfl
    | _ => cases hraises
  · have hop := Op.not_of_raises (by simpa using hraises)
    refine hx.calls_of_no_call hops hexec (fun o ho => ?_) hop.2
    by_contra hcompletes
    exact hraises ((move_of_exec hexec).completes_of_mem ho (by simpa using hcompletes))

theorem Counted.task : Counted ((y.setTask role (more ++ rest)).spawn spawned) := by
  have hmove := move_of_exec hexec
  have hstep : step dbg x (.task role c) = some ((y.setTask role (more ++ rest)).spawn spawned) := by
    simp [step, hops, hexec]
  refine ⟨hx.staged.step hstep, ?_, ?_, ?_, ?_, hx.calls_task hops hexec hok,
    hx.signalled_task hops hexec hok, ?_, ?_⟩
  · rw [Socket.spawn_rs, Socket.setTask_rs, hmove.frame.now]
    exact hx.clock
  · rw [Socket.spawn_served, Socket.setTask_served, hmove.frame.served, Socket.spawn_rs,
      Socket.setTask_rs]
    exact hx.begun_task hops hexec hok
  · intro hsettled
    rw [Socket.spawn_rs, Socket.setTask_rs]
    exact hx.quiet_task hops hexec hok hsettled
  · rw [Socket.spawn_rs, Socket.setTask_rs]
    exact hx.alone_task hops hexec hok
  · rw [Socket.spawn_rs, Socket.setTask_rs]
    exact hx.origin_task hops hexec
  · have hopen : ((y.setTask role (more ++ rest)).spawn spawned).recvOpen = x.recvOpen := by
      rw [← hmove.frame.recvOpen]
      cases spawned <;> rfl
    rw [hopen]
    exact hx.recv_task hops hexec hok

end Task

/-- A step from the outside: it changes no channel and calls no listener. -/
theorem Counted.outside (hx : Counted x) {a : Label} (hstep : step dbg x a = some z)
    (hout : ∀ role c, a ≠ .task role c) (hclock : 0 < z.rs.now)
    (hstart : z.rs.clientReqStartTs = x.rs.clientReqStartTs)
    (hlisteners : z.rs.proxyListeners = x.rs.proxyListeners)
    (hcalled : z.rs.onComplete = x.rs.onComplete)
    (hclose : z.rs.isCloseMsgReceived = x.rs.isCloseMsgReceived)
    (herr : z.rs.errChan = x.rs.errChan)
    (hsend : z.rs.wssSendTask.closed = x.rs.wssSendTask.closed)
    (hremoved : x.rs.isRemoved = true → z.rs.isRemoved = true)
    (hpipe : z.tasks .sendPipe = x.tasks .sendPipe)
    (hnew : ∀ role, ∀ o ∈ z.tasks role, o ∈ x.tasks role ∨ o.completes = false)
    (hbegun : z.served = true → x.served = true ∧ (∀ o ∈ x.tasks .handler, o.begins = true →
      o ∈ z.tasks .handler) ∨ ∃ o ∈ z.tasks .handler, o.begins = true)
    (hrecv : z.recvOpen = false → x.recvOpen = false ∧ (∀ o ∈ x.tasks .recv, o ∈ z.tasks .recv) ∨
      x.Signalled ∨ ∃ crex inClose, .onError crex inClose ∈ z.tasks .recv) : Counted z := by
  have hreported : x.reported = true → z.reported = true := by
    rw [Socket.reported_iff, Socket.reported_iff, hstart, hlisteners, hcalled,
      hx.staged.tally_outside hstep hout fun _ h => h]
    exact id
  have hends : z.PipeEnds → x.PipeEnds := by
    unfold Socket.PipeEnds
    rw [herr, hsend, hpipe]
    exact id
  have hraise := hx.staged.tally_outside hstep hout (P := Op.isRaise) fun _ => Op.raises_of_isRaise
  have hcompletes := hx.staged.tally_outside hstep hout (P := Op.completes) fun _ =>
    Op.raises_of_completes
  refine ⟨hx.staged.step hstep, hclock, ?_, ?_, ?_, ?_, ?_, ?_, ?_⟩
  · intro hserved
    rw [hstart]
    rcases hbegun hserved with ⟨hserved, hold⟩ | hbegins
    · rcases hx.begun hserved with hne | ⟨o, ho, hbegins⟩
      · exact .inl hne
      · exact .inr ⟨o, hold o ho hbegins, hbegins⟩
    · exact .inr hbegins
  · intro hsettled
    rw [hcalled, hraise, hcompletes]
    refine hx.quiet ?_
    rw [← hsettled, Socket.settled, Socket.settled, hclose, herr]
  · rw [hstart, hcalled, hraise, hcompletes]
    exact hx.alone
  · refine hx.calls.of_same hcompletes hcalled hlisteners ?_
    intro role i inClose ho
    rcases hnew role _ ho with hold | hnot
    · exact ⟨role, hold⟩
    · cases hnot
  · rintro (h | h | h)
    · exact hreported (hx.signalled (.inl (by rwa [← hclose])))
    · exact hreported (hx.signalled (.inr (.inl (by rwa [← herr]))))
    · exact hreported (hx.signalled (.inr (.inr (hends h))))
  · intro h
    rw [herr]
    exact (hx.origin (hends h)).imp_right hremoved
  · intro hopen
    rcases hrecv hopen with ⟨hopen, hold⟩ | hsignalled | hreports
    · rcases hx.recv hopen with h | ⟨crex, inClose, ho⟩
      · exact .inl (hreported h)
      · exact .inr ⟨crex, inClose, hold _ ho⟩
    · exact .inl (hreported (hx.signalled hsignalled))
    · exact .inr hreports

theorem Counted.step (hx : Counted x) {a : Label} (hok : endsOnce x a = true)
    (h : V1.step dbg x a = some z) : Counted z := by
  by_cases htask : ∃ role c, a = .task role c
  · obtain ⟨role, c, rfl⟩ := htask
    obtain ⟨op, rest, y, more, spawned, hops, hexec, rfl⟩ := step_task h
    exact hx.task hops hexec hok
  have hout : ∀ role c, a ≠ .task role c := fun role c heq => htask ⟨role, c, heq⟩
  cases stepCases h with
  | task => exact absurd rfl (hout _ _)
  | request text hasBody hserved =>
      refine hx.outside h hout hx.clock rfl rfl rfl rfl rfl rfl id rfl ?_ ?_ fun h =>
        .inl ⟨h, fun _ ho => ho⟩
      · intro role o ho
        refine (mem_setTask ho).imp_right fun ho => ?_
        rw [List.mem_singleton.mp ho]
        rfl
      · intro _
        exact .inr ⟨.checkRemoved text hasBody, by simp [Socket.setTask], rfl⟩
  | receive a op hop hidle =>
      refine hx.outside h hout hx.clock rfl rfl rfl rfl rfl rfl id rfl ?_
        (fun h => .inl ⟨h, fun _ ho _ => ho⟩) fun h => .inl ⟨h, by simp [hidle]⟩
      intro role o ho
      refine (mem_setTask ho).imp_right fun ho => ?_
      rw [List.mem_singleton.mp ho]
      cases op <;> first | rfl | cases hop
  | close frame hidle =>
      refine hx.outside h hout hx.clock rfl rfl rfl rfl rfl rfl id rfl ?_
        (fun h => .inl ⟨h, fun _ ho _ => ho⟩) fun h => .inl ⟨h, by simp [hidle]⟩
      intro role o ho
      refine (mem_setTask ho).imp_right fun ho => ?_
      rw [List.mem_singleton.mp ho]
      rfl
  | endRecv a errs herrs hidle =>
      refine hx.outside h hout hx.clock rfl rfl rfl rfl rfl rfl id rfl ?_
        (fun h => .inl ⟨h, fun _ ho _ => ho⟩) fun _ => .inr ?_
      · intro role o ho
        refine (mem_setTask ho).imp_right fun ho => ?_
        rcases herrs with ⟨-, rfl⟩ | ⟨ex, rfl⟩
        · rw [List.mem_singleton.mp ho]
          rfl
        · rcases List.mem_cons.mp ho with rfl | ho
          · rfl
          · rw [List.mem_singleton.mp ho]
            rfl
      · rcases herrs with ⟨rfl, rfl⟩ | ⟨ex, rfl⟩
        · exact .inl (.inl hok)
        · exact .inr ⟨ex, false, by simp [Socket.setTask]⟩
  | idleTimeout hopen =>
      refine hx.outside h hout hx.clock rfl rfl rfl rfl rfl rfl id rfl ?_
        (fun h => .inl ⟨h, fun _ ho _ => ho⟩) fun h => .inl ⟨h, fun _ ho => ho⟩
      intro role o ho
      refine (mem_setTask ho).imp_right fun ho => ?_
      rcases List.mem_cons.mp ho with rfl | ho
      · rfl
      · rw [List.mem_singleton.mp ho]
        rfl
  | ping =>
      exact hx.outside h hout hx.clock rfl rfl rfl rfl rfl (by simp [RouterSocketV1.sendData]) id rfl
        (fun _ _ ho => .inl ho) (fun h => .inl ⟨h, fun _ ho _ => ho⟩) fun h =>
          .inl ⟨h, fun _ ho => ho⟩
  | dropHandler hdrop =>
      refine hx.outside h hout hx.clock rfl rfl rfl rfl rfl rfl id rfl ?_
        (fun h => .inl ⟨h, ?_⟩) fun h => .inl ⟨h, fun _ ho => ho⟩
      · intro role o ho
        exact (mem_setTask ho).imp_right fun ho => by cases ho
      · intro o ho hbegins
        rw [hdrop, List.mem_singleton] at ho
        rw [ho] at hbegins
        cases hbegins
  | tick now hnow =>
      exact hx.outside h hout hnow rfl rfl rfl rfl rfl rfl id rfl (fun _ _ ho => .inl ho)
        (fun h => .inl ⟨h, fun _ ho _ => ho⟩) fun h => .inl ⟨h, fun _ ho => ho⟩
  | setRemoved =>
      exact hx.outside h hout hx.clock rfl rfl rfl rfl rfl rfl (fun _ => rfl) rfl
        (fun _ _ ho => .inl ho) (fun h => .inl ⟨h, fun _ ho _ => ho⟩) fun h =>
          .inl ⟨h, fun _ ho => ho⟩
  | dropStream =>
      exact hx.outside h hout hx.clock rfl rfl rfl rfl rfl rfl id rfl (fun _ _ ho => .inl ho)
        (fun h => .inl ⟨h, fun _ ho _ => ho⟩) fun h => .inl ⟨h, fun _ ho => ho⟩

private theorem counted_new {rs : RouterSocketV1} {proxyListeners : Nat} {need need' : Bool}
    {now : Int}
    (hnow : 0 < now) (hrs : rs = .new proxyListeners need need' now) : Counted (.new rs) := by
  subst hrs
  have hcompletes : (Socket.new (.new proxyListeners need need' now)).tally Op.completes = 0 := rfl
  refine ⟨staged_new _, hnow, nofun, fun _ => ⟨rfl, rfl, rfl⟩, fun h => absurd rfl h,
    ⟨hcompletes.le.trans (Nat.zero_le 1), ?_, fun _ => .inl rfl⟩, ?_, ?_, nofun⟩
  · intro role i inClose ho
    have hpos : 0 < (Socket.new (.new proxyListeners need need' now)).tally Op.completes :=
      tally_pos_iff.mpr ⟨role, _, ho, rfl⟩
    omega
  · intro _
    rfl
  · rintro (h | h | ⟨o, ho, hends⟩)
    · cases h
    · cases h
    · rw [List.mem_singleton.mp ho] at hends
      cases hends

private theorem step_proxyListeners {a : Label} (h : V1.step dbg x a = some z) :
    z.rs.proxyListeners = x.rs.proxyListeners := by
  cases stepCases h with
  | task hops hmove => rw [Socket.spawn_rs, Socket.setTask_rs, hmove.frame.proxyListeners]
  | _ => rfl

theorem counted_of_reachable
    (h : (socketMachine dbg).Reachable (fun x a => completesOnce x a = true) x) :
    x.rs.proxyListeners = 0 ∨ Counted x := by
  refine h.invariant (P := fun x => x.rs.proxyListeners = 0 ∨ Counted x) ?_ ?_
  · rintro x ⟨proxyListeners, need, need', now, hnow, rfl⟩
    exact .inr (counted_new hnow rfl)
  · intro x a y hx hok hstep
    rw [step_proxyListeners hstep]
    by_cases hnone : x.rs.proxyListeners = 0
    · exact .inl hnone
    · exact .inr ((hx.resolve_left hnone).step (by simpa [completesOnce, hnone] using hok) hstep)

/-- The request is over: the websocket is closed, from either side, and no task is about to start the
request, to report an error or to call a listener. -/
def Socket.over (x : Socket) : Bool :=
  x.served && (x.rs.isCloseMsgReceived || !x.recvOpen || x.rs.errChan.closed) &&
    x.tally (fun o => o.begins || o.reports || o.raises) == 0

theorem Counted.count_onComplete (hx : Counted x) (hover : x.over = true) {i : Nat}
    (hi : i < x.rs.proxyListeners) : x.rs.onComplete.count i = 1 := by
  simp only [Socket.over, Bool.and_eq_true, Bool.or_eq_true, beq_iff_eq, Bool.not_eq_true'] at hover
  obtain ⟨⟨hserved, hclosed⟩, hnone⟩ := hover
  have hnot : ∀ role, ∀ o ∈ x.tasks role, o.begins = false ∧ o.reports = false ∧ o.raises = false := by
    intro role o ho
    by_contra h
    have hpos : 0 < x.tally (fun o => o.begins || o.reports || o.raises) := by
      refine tally_pos_iff.mpr ⟨role, o, ho, ?_⟩
      cases hb : o.begins <;> cases hr : o.reports <;> cases hs : o.raises <;> simp_all
    omega
  have hstart : x.rs.clientReqStartTs ≠ 0 := by
    rcases hx.begun hserved with hne | ⟨o, ho, hbegins⟩
    · exact hne
    · rw [(hnot _ o ho).1] at hbegins
      cases hbegins
  have hreported : x.reported = true := by
    rcases hclosed with (hclose | hopen) | hclosed
    · exact hx.signalled (.inl hclose)
    · refine (hx.recv hopen).resolve_right ?_
      rintro ⟨crex, inClose, ho⟩
      have hreports := (hnot _ _ ho).2.1
      cases hreports
    · exact hx.signalled (.inr (.inr (.inl hclosed)))
  have hcalled : x.rs.onComplete ≠ [] := by
    rcases Socket.reported_iff.mp hreported with hzero | hzero | hcalled | hpos
    · exact absurd hzero hstart
    · omega
    · exact hcalled
    · obtain ⟨role, o, ho, hraises⟩ := tally_pos_iff.mp hpos
      rw [(hnot role o ho).2.2] at hraises
      cases hraises
  have hzero : x.tally Op.completes = 0 := by
    by_contra hne
    obtain ⟨role, o, ho, hcompletes⟩ := tally_pos_iff.mp (Nat.pos_of_ne_zero hne)
    have hraises := Op.raises_of_completes hcompletes
    rw [(hnot role o ho).2.2] at hraises
    cases hraises
  rw [(hx.calls.done hzero).resolve_left hcalled]
  exact List.count_eq_one_of_mem List.nodup_range (List.mem_range.mpr hi)

/-- In both protocol versions, once a request is over its completion event has been raised once. -/
theorem completed_exactly_once (dbg : DebugText) (overflowChecks : Bool) :
    (∀ p, (V3.socketMachine dbg overflowChecks).Reachable
        (fun p a => V3.completesOnce p a = true) p →
      ∀ r, V3.Started r p → r ∉ p.shared.rs.contextMap → p.shared.rs.onComplete.count r = 1) ∧
    ∀ x, (socketMachine dbg).Reachable (fun x a => completesOnce x a = true) x →
      x.over = true → ∀ i < x.rs.proxyListeners, x.rs.onComplete.count i = 1 :=
  ⟨fun _ hp _ hstarted hr => V3.count_onComplete hp hstarted hr,
    fun _ hx hover _ hi => ((counted_of_reachable hx).resolve_left (by omega)).count_onComplete
      hover hi⟩

/-- A V3 request that the connector ends. -/
def endedByConnector : V3.SocketPool :=
  (V3.socketMachine plainText false).run (fun p a => V3.completesOnce p a = true) V3.freshSocket
    (List.flatten [V3.proxied, [.receive (V3.headerMessage 1 true false "HTTP/1.1 200 OK\n")],
      List.replicate 4 (.recv .go), [.task 0 .go, .task 0 (.answer none), .task 0 (.answer none),
        .receive (V3.dataMessages 1 true none)], List.replicate 8 (.recv .go), [.remove 1]])

/-- A V1 request whose response the client is reading. -/
def responding : List Label :=
  List.flatten [headSent, headerArrives, [.task .handler (.answer none),
    .task .handler (.answer none)]]

/-- The connector closes the websocket with code 1000. -/
def closedCleanly : Socket :=
  (socketMachine plainText).run (fun x a => completesOnce x a = true) freshSocket
    (List.flatten [responding, [.close (some ⟨1000, ""⟩)], List.replicate 7 (.task .recv .go),
      [.task .recv (.answer none), .task .recv .go]])

theorem completed_exactly_once_ended :
    (1 ∉ endedByConnector.shared.rs.contextMap ∧ closedCleanly.over = true) ∧
    endedByConnector.shared.rs.onComplete.count 1 = 1 ∧
    closedCleanly.rs.onComplete.count 0 = 1 := by
  have hleft : 1 ∉ endedByConnector.shared.rs.contextMap := by decide +kernel
  have hover : closedCleanly.over = true := by decide +kernel
  have honce := completed_exactly_once plainText false
  have hreach : (V3.socketMachine plainText false).Reachable
      (fun p a => V3.completesOnce p a = true) endedByConnector :=
    Machine.reachable_run _ _ (V3.init_freshSocket false) _
  have hreach' : (socketMachine plainText).Reachable
      (fun x a => completesOnce x a = true) closedCleanly :=
    Machine.reachable_run _ _ init_freshSocket _
  refine ⟨⟨hleft, hover⟩, honce.1 _ hreach 1 ⟨?_, ?_⟩ hleft, honce.2 _ hreach' hover 0 ?_⟩ <;>
    decide +kernel

/-- The connector resets a V3 stream, and the handler gets the error before the context is
removed. -/
def resetByConnector : V3.SocketPool :=
  (V3.socketMachine plainText false).run Machine.anyAction V3.freshSocket
    (List.flatten [V3.proxied, [.receive (V3.rstMessage 1 1000 "reset")],
      List.replicate 7 (.recv .go), List.replicate 8 (.task 0 .go), [.remove 1]])

/-- The connector closes a V1 websocket with another code. -/
def closedEarly : Socket :=
  (socketMachine plainText).run Machine.anyAction freshSocket
    (List.flatten [responding, [.close (some ⟨1011, ""⟩)], List.replicate 8 (.task .recv .go),
      [.task .recv (.answer none)], List.replicate 3 (.task .recv .go),
      [.task .recv (.answer none), .task .recv .go]])

/-- A request of a client that goes away while it reads the body is not completed, one that the
connector resets is completed twice, and so is one whose V1 websocket is closed with another code
than 1000. -/
theorem completed_twice_or_never :
    ((V3.socketMachine plainText false).Reachable Machine.anyAction V3.leavesInBody ∧
      V3.Started 1 V3.leavesInBody ∧ 1 ∉ V3.leavesInBody.shared.rs.contextMap ∧
      V3.leavesInBody.shared.rs.onComplete.count 1 = 0) ∧
    ((V3.socketMachine plainText false).Reachable Machine.anyAction resetByConnector ∧
      V3.Started 1 resetByConnector ∧ 1 ∉ resetByConnector.shared.rs.contextMap ∧
      resetByConnector.shared.rs.onComplete.count 1 = 2) ∧
    (socketMachine plainText).Reachable Machine.anyAction closedEarly ∧
      closedEarly.over = true ∧ closedEarly.rs.onComplete.count 0 = 2 := by
  have hleaves : (V3.socketMachine plainText false).Reachable
      (fun p a => V3.watchesClients p a = true) V3.leavesInBody :=
    Machine.reachable_run _ _ (V3.init_freshSocket false) _
  refine ⟨⟨hleaves.mono fun _ _ _ => trivial, ⟨?_, ?_⟩, ?_, ?_⟩,
    ⟨Machine.reachable_run _ _ (V3.init_freshSocket false) _, ⟨?_, ?_⟩, ?_, ?_⟩,
    Machine.reachable_run _ _ init_freshSocket _, ?_, ?_⟩ <;> decide +kernel

end CrankerRouter.V1
