import CrankerRouter.V1.Channels
import CrankerRouter.V1.Upload

/-!
# The end of a V1 socket

A V1 socket that has served its request is closed by the connector, or by the error branch of the
send pipe when an error has been reported to it.  The watcher of the response body reports one when
the body ends without a close frame, and so does every failure of the pipes and of the sender; the
early returns of `on_client_req` do not, nor does a client that leaves before the header.
-/

namespace CrankerRouter.V1

open Lib

variable {dbg : DebugText}

section Invariant

variable {x y z : Socket}

/-- The connector has sent a close frame, or the error branch of the send pipe has begun. -/
def Socket.Handled (x : Socket) : Prop :=
  x.rs.isCloseMsgReceived = true ∨ 0 < x.rs.errChan.taken

/-- The connector has sent a close frame, or an error has been reported. -/
def Socket.settled (x : Socket) : Bool :=
  x.rs.isCloseMsgReceived || !x.rs.errChan.sent.isEmpty

/-- The error branch can say goodbye with this error: its reason can be cut. -/
def sendsClose (crex : CrankerRouterException) : Bool := (reasonInCloFrame crex.reason).isSome

/-- The steps that leave a socket open: a request that is refused before anything was sent or because
of its header, a client that leaves before the header, a ping or pong that fails on a removed
socket, and an error whose reason cannot be cut. -/
def leavesNothingOpen (x : Socket) : Label → Bool
  | .dropHandler => x.settled
  | .task .handler c =>
      match (x.tasks .handler).head?, c with
      | some (.checkRemoved _ _), _ => !x.rs.isRemoved || x.settled
      | some (.beforeProxyToTarget _ _), .answer (some _) => x.settled
      | some (.respond _), .answer (some _) => x.settled
      | _, _ => true
  | .task .sendPipe c =>
      match (x.tasks .sendPipe).head?, c with
      | some (.sendFailed msg _), _ =>
          !keepsAlive msg || !x.rs.isRemoved || x.rs.isCloseMsgReceived
      | some .sendLoop, .takeError => x.rs.errChan.next?.all sendsClose
      | _, _ => true
  | _ => true

/-- Whatever ends the request, a close frame or an error is there, or the watcher will report one. -/
structure Closing (x : Socket) : Prop where
  fits : Fits x
  errBound : x.rs.errChan.taken ≤ x.rs.errChan.sent.length
  cut : ∀ crex ∈ x.rs.errChan.sent.take x.rs.errChan.taken, sendsClose crex = true
  ends : ∀ o ∈ x.tasks .sendPipe, o.endsPipe = true → x.Handled
  pumps : x.Handled ∨ ∃ o ∈ x.tasks .sendPipe, o.pumps = true
  torn : 0 < x.rs.errChan.taken → x.rs.errChan.closed = true ∨ .endPipe ∈ x.tasks .sendPipe
  sendClosed : x.rs.wssSendTask.closed = true → x.Handled
  errClosed : x.rs.errChan.closed = true → x.Handled
  closing : ∀ o ∈ x.tasks .recv, o.afterClose = true → x.rs.isCloseMsgReceived = true
  hdrErr : ∀ e, .error e ∈ x.rs.tgtResHdr.sent → x.Handled
  hdrFails : ∀ role, ∀ o ∈ x.tasks role, o.failsHdr = true → x.Handled
  hdrCloses : ∀ role, .closeHdr ∈ x.tasks role → x.Handled ∨ x.rs.tgtResHdr.sent ≠ []
  hdrClosed : x.rs.tgtResHdr.closed = true → x.Handled ∨ x.rs.tgtResHdr.sent ≠ []
  short : (x.tasks .handler).length ≤ 1 ∧ (x.tasks .watcher).length ≤ 1
  untaken : (x.served = false ∨ ∃ o ∈ x.tasks .handler, o.awaitsHdr = true) →
    x.rs.tgtResHdr.taken = 0
  fresh : x.served = false → x.tasks .handler = []
  answered : x.served = true → x.settled = true ∨ (∃ o ∈ x.tasks .handler, o.serves = true) ∨
    ∃ o ∈ x.tasks .watcher, o.watches = true

private theorem Closing.settled_of_handled (hx : Closing x) (h : x.Handled) : x.settled = true := by
  unfold Socket.settled
  rcases h with hclose | htaken
  · simp [hclose]
  · have hne : x.rs.errChan.sent ≠ [] := by
      intro hnil
      have hbound := hx.errBound
      rw [hnil, List.length_nil] at hbound
      omega
    simp [hne]

section Task

variable {op o : Op} {c : Choice} {more rest : List Op} {spawned : Option (Role × List Op)}
  {role : Role}

private theorem Move.handled (h : Move dbg x op y more spawned) (hx : x.Handled) : y.Handled := by
  rcases hx with hclose | htaken
  · left
    rcases h.isCloseMsgReceived with heq | ⟨frame, -, heq⟩
    · rw [heq, hclose]
    · exact heq
  · right
    rcases h.errChan with heq | ⟨crex, inClose, -, -, heq⟩ | ⟨crex, -, -, -, heq⟩ | ⟨-, heq⟩
    · rwa [heq]
    · rwa [heq, Chan.send_taken]
    · rw [heq]
      exact Nat.succ_pos _
    · rwa [heq, Chan.close_taken]

theorem Move.settled (h : Move dbg x op y more spawned) (hx : x.settled = true) :
    y.settled = true := by
  unfold Socket.settled at hx ⊢
  rw [Bool.or_eq_true] at hx ⊢
  rcases hx with hclose | hsent
  · left
    rcases h.isCloseMsgReceived with heq | ⟨frame, -, heq⟩
    · rw [heq, hclose]
    · exact heq
  · right
    rcases h.errChan with heq | ⟨crex, inClose, -, hopen, heq⟩ | ⟨crex, -, -, -, heq⟩ | ⟨-, heq⟩
    · rwa [heq]
    · rw [heq, Chan.send_sent_of_open hopen]
      simp
    · rwa [heq, Chan.take_sent]
    · rwa [heq, Chan.close_sent]

private theorem Move.hdr_sent (h : Move dbg x op y more spawned) (hx : x.rs.tgtResHdr.sent ≠ []) :
    y.rs.tgtResHdr.sent ≠ [] := by
  have hsend : ∀ item, (x.rs.tgtResHdr.send item).sent ≠ [] := by
    intro item
    unfold Chan.send
    split_ifs
    · exact hx
    · simp
  rcases h.tgtResHdr with heq | ⟨-, heq⟩ | ⟨txt, -, heq⟩ | ⟨ex, -, heq⟩ | ⟨-, heq⟩
  · rwa [heq]
  · rwa [heq, Chan.take_sent]
  · rw [heq]
    exact hsend _
  · rw [heq]
    exact hsend _
  · rwa [heq, Chan.close_sent]

theorem Fits.role_eq (hx : Fits x) (hops : x.tasks role = op :: rest) {own : Role}
    (hown : ∀ role', op.fits role' = true → role' = own) : role = own :=
  hown role (hx role op (by simp [hops]))

theorem fits_sendPipe (hop : op.group = .sendPipe) :
    ∀ role', op.fits role' = true → role' = .sendPipe := by
  intro role' hfit
  cases role' <;> simp [Op.fits, hop] at hfit ⊢

private theorem fits_handler (hop : op.group = .handler) :
    ∀ role', op.fits role' = true → role' = .handler := by
  intro role' hfit
  cases role' <;> simp [Op.fits, hop] at hfit ⊢

private theorem fits_recv (hop : op.group = .recv) :
    ∀ role', op.fits role' = true → role' = .recv := by
  intro role' hfit
  cases role' <;> simp [Op.fits, hop] at hfit ⊢

private theorem Closing.of_endsPipe (hx : Closing x) (hops : x.tasks role = op :: rest)
    (hop : op.endsPipe = true) : x.Handled := by
  have hgroup : op.group = .sendPipe := by cases op <;> first | rfl | cases hop
  obtain rfl := hx.fits.role_eq hops (fits_sendPipe hgroup)
  exact hx.ends op (by simp [hops]) hop

theorem Move.mem_after (h : Move dbg x op y more spawned) (hops : x.tasks role = op :: rest)
    {role' : Role} (ho : o ∈ ((y.setTask role (more ++ rest)).spawn spawned).tasks role') :
    o ∈ x.tasks role' ∨ (role' = role ∧ o ∈ more) ∨ (∃ text hasBody, o = .storeCanSend text hasBody) ∨
      o = .awaitStreamEnd := by
  rcases h.tasks_after role rest role' with heq | ⟨-, text, hasBody, heq⟩ | ⟨-, -, heq⟩
  · rw [heq] at ho
    split_ifs at ho with hrole
    · subst hrole
      rcases List.mem_append.mp ho with ho | ho
      · exact .inr (.inl ⟨rfl, ho⟩)
      · exact .inl (by simp [hops, ho])
    · exact .inl ho
  · rw [heq] at ho
    exact .inr (.inr (.inl ⟨text, hasBody, List.mem_singleton.mp ho⟩))
  · rw [heq] at ho
    exact .inr (.inr (.inr (List.mem_singleton.mp ho)))

theorem Move.tasks_own (h : Move dbg x op y more spawned) (role : Role) (rest : List Op)
    {role' : Role} (hsender : role' ≠ .sender) (hwatcher : role' ≠ .watcher) :
    ((y.setTask role (more ++ rest)).spawn spawned).tasks role' =
      if role' = role then more ++ rest else x.tasks role' := by
  rcases h.tasks_after role rest role' with heq | ⟨hrole, -⟩ | ⟨hrole, -⟩
  · exact heq
  · exact absurd hrole hsender
  · exact absurd hrole hwatcher

private theorem Closing.handled_of_endsPipe (hx : Closing x) (hops : x.tasks .sendPipe = op :: rest)
    (hexec : op.exec dbg x c = some (y, more, spawned))
    (hok : leavesNothingOpen x (.task .sendPipe c) = true) :
    ∀ o ∈ more, o.endsPipe = true → y.Handled := by
  have hmove := move_of_exec hexec
  intro o ho hend
  rcases hmove.endsPipe_of_mem ho hend with ⟨crex, -, -, heq⟩ | hclosed | ⟨msg, err, rfl, hstop⟩
  · right
    rw [heq]
    exact Nat.succ_pos _
  · exact hmove.handled (hx.sendClosed hclosed)
  · obtain ⟨hremoved, hkeeps⟩ := sendFailed_exec hexec hstop
    refine hmove.handled (.inl ?_)
    simpa [leavesNothingOpen, hops, hkeeps, hremoved] using hok

private theorem Closing.task_pipe (hx : Closing x) (hops : x.tasks role = op :: rest)
    (hexec : op.exec dbg x c = some (y, more, spawned))
    (hok : leavesNothingOpen x (.task role c) = true) :
    (∀ o ∈ ((y.setTask role (more ++ rest)).spawn spawned).tasks .sendPipe,
      o.endsPipe = true → y.Handled) ∧
    (y.Handled ∨ ∃ o ∈ ((y.setTask role (more ++ rest)).spawn spawned).tasks .sendPipe,
      o.pumps = true) := by
  have hmove := move_of_exec hexec
  rw [hmove.tasks_own role rest (by simp) (by simp)]
  by_cases hrole : Role.sendPipe = role
  · subst hrole
    have hends := hx.handled_of_endsPipe hops hexec hok
    rw [if_pos rfl]
    constructor
    · intro o ho hend
      rcases List.mem_append.mp ho with ho | ho
      · exact hends o ho hend
      · exact hmove.handled (hx.ends o (by simp [hops, ho]) hend)
    · rcases hx.pumps with hdone | ⟨o, ho, hpump⟩
      · exact .inl (hmove.handled hdone)
      · rw [hops] at ho
        rcases List.mem_cons.mp ho with rfl | ho
        · obtain ⟨o', ho', hpump' | hend⟩ := hmove.pumps_next hpump
          · exact .inr ⟨o', List.mem_append_left _ ho', hpump'⟩
          · exact .inl (hends o' ho' hend)
        · exact .inr ⟨o, List.mem_append_right _ ho, hpump⟩
  · rw [if_neg hrole]
    exact ⟨fun o ho hend => hmove.handled (hx.ends o ho hend), hx.pumps.imp hmove.handled id⟩

private theorem Closing.task_torn (hx : Closing x) (hops : x.tasks role = op :: rest)
    (hexec : op.exec dbg x c = some (y, more, spawned)) (htaken : 0 < y.rs.errChan.taken) :
    y.rs.errChan.closed = true ∨
      .endPipe ∈ ((y.setTask role (more ++ rest)).spawn spawned).tasks .sendPipe := by
  have hmove := move_of_exec hexec
  rw [hmove.tasks_own role rest (by simp) (by simp)]
  by_cases hend : op = .endPipe
  · subst hend
    exact .inl (by rw [hmove.of_endPipe, Chan.close_closed])
  -- the end of the pipe is still to come, if it was
  have hold : 0 < x.rs.errChan.taken → x.rs.errChan.closed = true ∨
      .endPipe ∈ if Role.sendPipe = role then more ++ rest else x.tasks .sendPipe := by
    intro htaken
    rcases hx.torn htaken with hclosed | hmem
    · exact .inl hclosed
    · right
      split_ifs with hrole
      · rw [hrole, hops] at hmem
        rcases List.mem_cons.mp hmem with heq | hmem
        · exact absurd heq.symm hend
        · exact List.mem_append_right _ hmem
      · exact hmem
  rcases hmove.errChan with heq | ⟨crex, inClose, -, -, heq⟩ | ⟨crex, rfl, -, rfl, -⟩ | ⟨heq, -⟩
  · rw [heq] at htaken ⊢
    exact hold htaken
  · rw [heq, Chan.send_taken] at htaken
    rw [heq, Chan.send_closed]
    exact hold htaken
  · obtain rfl := hx.fits.role_eq hops (fits_sendPipe rfl)
    exact .inr (by simp [teardownOps])
  · exact absurd heq hend

private theorem Closing.task_cut (hx : Closing x) (hops : x.tasks role = op :: rest)
    (hexec : op.exec dbg x c = some (y, more, spawned))
    (hok : leavesNothingOpen x (.task role c) = true) :
    ∀ crex ∈ y.rs.errChan.sent.take y.rs.errChan.taken, sendsClose crex = true := by
  rcases (move_of_exec hexec).errChan with heq | ⟨crex, inClose, -, hopen, heq⟩ |
    ⟨crex, rfl, hnext, -, heq⟩ | ⟨-, heq⟩
  · rw [heq]
    exact hx.cut
  · rw [heq, Chan.send_taken, Chan.send_sent_of_open hopen, List.take_append_of_le_length hx.errBound]
    exact hx.cut
  · obtain rfl := hx.fits.role_eq hops (fits_sendPipe rfl)
    rcases sendLoop_exec hexec with rfl | hsame
    · simp only [leavesNothingOpen, hops, List.head?_cons, hnext, Option.all_some] at hok
      intro crex' hmem
      rw [heq] at hmem
      change crex' ∈ x.rs.errChan.sent.take (x.rs.errChan.taken + 1) at hmem
      have hget : x.rs.errChan.sent[x.rs.errChan.taken]? = some crex := hnext
      rw [List.take_add_one, hget, List.mem_append] at hmem
      rcases hmem with hmem | hmem
      · exact hx.cut crex' hmem
      · rw [List.mem_singleton.mp hmem]
        exact hok
    · rw [hsame]
      exact hx.cut
  · rw [heq]
    exact hx.cut

private theorem Closing.task_chans (hx : Closing x) (hops : x.tasks role = op :: rest)
    (hexec : op.exec dbg x c = some (y, more, spawned)) :
    y.rs.errChan.taken ≤ y.rs.errChan.sent.length ∧
    (y.rs.wssSendTask.closed = true → y.Handled) ∧ (y.rs.errChan.closed = true → y.Handled) ∧
    (∀ e, .error e ∈ y.rs.tgtResHdr.sent → y.Handled) ∧
    (y.rs.tgtResHdr.closed = true → y.Handled ∨ y.rs.tgtResHdr.sent ≠ []) := by
  have hmove := move_of_exec hexec
  have hmem : op ∈ x.tasks role := by simp [hops]
  refine ⟨?_, ?_, ?_, ?_, ?_⟩
  · have hbound := hx.errBound
    rcases hmove.errChan with heq | ⟨crex, inClose, -, hopen, heq⟩ | ⟨crex, -, hnext, -, heq⟩ |
      ⟨-, heq⟩
    · rwa [heq]
    · rw [heq, Chan.send_taken, Chan.send_sent_of_open hopen, List.length_append]
      omega
    · have hlt : x.rs.errChan.taken < x.rs.errChan.sent.length :=
        (List.getElem?_eq_some_iff.mp hnext).1
      rw [heq]
      exact hlt
    · rwa [heq]
  · intro hclosed
    rcases hmove.sendTask_closed hclosed with hold | rfl | rfl
    · exact hmove.handled (hx.sendClosed hold)
    · exact hmove.handled (hx.of_endsPipe hops rfl)
    · exact hmove.handled (hx.of_endsPipe hops rfl)
  · intro hclosed
    rcases hmove.errChan with heq | ⟨crex, inClose, -, -, heq⟩ | ⟨crex, -, -, -, heq⟩ | ⟨rfl, -⟩
    · exact hmove.handled (hx.errClosed (by rwa [← heq]))
    · exact hmove.handled (hx.errClosed (by rwa [heq, Chan.send_closed] at hclosed))
    · exact hmove.handled (hx.errClosed (by rwa [heq, Chan.take_closed] at hclosed))
    · exact hmove.handled (hx.of_endsPipe hops rfl)
  · intro e he
    rcases hmove.tgtResHdr with heq | ⟨-, heq⟩ | ⟨txt, -, heq⟩ | ⟨ex, rfl, -⟩ | ⟨-, heq⟩
    · exact hmove.handled (hx.hdrErr e (by rwa [← heq]))
    · exact hmove.handled (hx.hdrErr e (by rwa [heq, Chan.take_sent] at he))
    · refine hmove.handled (hx.hdrErr e ?_)
      rw [heq] at he
      unfold Chan.send at he
      split_ifs at he
      · exact he
      · simpa using he
    · exact hmove.handled (hx.hdrFails role _ hmem rfl)
    · exact hmove.handled (hx.hdrErr e (by rwa [heq, Chan.close_sent] at he))
  · intro hclosed
    rcases hmove.tgtResHdr with heq | ⟨-, heq⟩ | ⟨txt, -, heq⟩ | ⟨ex, -, heq⟩ | ⟨rfl, -⟩
    · exact (hx.hdrClosed (by rwa [← heq])).imp hmove.handled hmove.hdr_sent
    · exact (hx.hdrClosed (by rwa [heq, Chan.take_closed] at hclosed)).imp hmove.handled
        hmove.hdr_sent
    · exact (hx.hdrClosed (by rwa [heq, Chan.send_closed] at hclosed)).imp hmove.handled
        hmove.hdr_sent
    · exact (hx.hdrClosed (by rwa [heq, Chan.send_closed] at hclosed)).imp hmove.handled
        hmove.hdr_sent
    · exact (hx.hdrCloses role hmem).imp hmove.handled hmove.hdr_sent

private theorem Closing.task_ops (hx : Closing x) (hops : x.tasks role = op :: rest)
    (hexec : op.exec dbg x c = some (y, more, spawned)) {role' : Role}
    (ho : o ∈ ((y.setTask role (more ++ rest)).spawn spawned).tasks role') :
    (o.afterClose = true → role' = .recv → y.rs.isCloseMsgReceived = true) ∧
    (o.failsHdr = true → y.Handled) ∧
    (o = .closeHdr → y.Handled ∨ y.rs.tgtResHdr.sent ≠ []) := by
  have hmove := move_of_exec hexec
  have hclose : x.rs.isCloseMsgReceived = true → y.rs.isCloseMsgReceived = true := by
    intro hx
    rcases hmove.isCloseMsgReceived with heq | ⟨frame, -, heq⟩
    · rw [heq, hx]
    · exact heq
  have hchecked : ∀ code reason, op = .checkClosed code reason → y.Handled := by
    rintro code reason rfl
    obtain rfl := hx.fits.role_eq hops (fits_recv rfl)
    exact .inl (hclose (hx.closing (.checkClosed code reason) (by simp [hops]) rfl))
  have htaken : y.rs.errChan = x.rs.errChan.take → y.Handled := by
    intro heq
    right
    rw [heq]
    exact Nat.succ_pos _
  rcases hmove.mem_after hops ho with hold | ⟨rfl, hnew⟩ | ⟨text, hasBody, rfl⟩ | rfl
  · refine ⟨?_, ?_, ?_⟩
    · rintro hafter rfl
      exact hclose (hx.closing o hold hafter)
    · intro hfails
      exact hmove.handled (hx.hdrFails role' o hold hfails)
    · rintro rfl
      exact (hx.hdrCloses role' hold).imp hmove.handled hmove.hdr_sent
  · refine ⟨?_, ?_, ?_⟩
    · intro hafter _
      obtain ⟨frame, rfl⟩ := hmove.afterClose_of_mem hnew hafter
      exact hmove.of_onClose
    · intro hfails
      rcases hmove.failsHdr_of_mem hnew hfails with ⟨-, heq⟩ | ⟨code, reason, hop⟩
      · exact htaken heq
      · exact hchecked code reason hop
    · rintro rfl
      rcases hmove.closeHdr_mem hnew with ⟨-, heq⟩ | ⟨code, reason, hop⟩ | ⟨txt, rfl⟩
      · exact .inl (htaken heq)
      · exact .inl (hchecked code reason hop)
      · rcases queueHeaderText_exec hexec with ⟨hclosed, -⟩ | hsent
        · exact (hx.hdrClosed hclosed).imp hmove.handled hmove.hdr_sent
        · exact .inr hsent
  · exact ⟨by simp [Op.afterClose], by simp [Op.failsHdr], by simp⟩
  · exact ⟨by simp [Op.afterClose], by simp [Op.failsHdr], by simp⟩

private theorem Move.hdr_taken (h : Move dbg x op y more spawned) (hop : op ≠ .recvHeader) :
    y.rs.tgtResHdr.taken = x.rs.tgtResHdr.taken := by
  rcases h.tgtResHdr with heq | ⟨heq, -⟩ | ⟨txt, -, heq⟩ | ⟨ex, -, heq⟩ | ⟨-, heq⟩
  · rw [heq]
  · exact absurd heq hop
  · rw [heq, Chan.send_taken]
  · rw [heq, Chan.send_taken]
  · rw [heq, Chan.close_taken]

theorem Closing.rest_eq (hx : Closing x) (hops : x.tasks role = op :: rest)
    (hrole : role = .handler ∨ role = .watcher) : rest = [] := by
  have hlen : (x.tasks role).length ≤ 1 := by
    rcases hrole with rfl | rfl
    · exact hx.short.1
    · exact hx.short.2
  rw [hops, List.length_cons] at hlen
  exact List.length_eq_zero_iff.mp (by omega)

private theorem Closing.task_short (hx : Closing x) (hops : x.tasks role = op :: rest)
    (hmove : Move dbg x op y more spawned) {role' : Role}
    (hrole' : role' = .handler ∨ role' = .watcher) :
    (((y.setTask role (more ++ rest)).spawn spawned).tasks role').length ≤ 1 := by
  rcases hmove.tasks_after role rest role' with heq | ⟨rfl, -⟩ | ⟨-, -, heq⟩
  · rw [heq]
    split_ifs with hrole
    · subst hrole
      have hgroup : op.group = .handler ∨ op.group = .watcher ∨ op.group = .shared := by
        have hfit := hx.fits role' op (by simp [hops])
        rcases hrole' with rfl | rfl <;> cases op <;> simp [Op.fits, Op.group] at hfit ⊢
      rw [hx.rest_eq hops hrole', List.append_nil]
      exact hmove.length_le_one hgroup
    · rcases hrole' with rfl | rfl
      · exact hx.short.1
      · exact hx.short.2
  · simp at hrole'
  · simp [heq]

private theorem Closing.task_untaken (hx : Closing x) (hops : x.tasks role = op :: rest)
    (hmove : Move dbg x op y more spawned)
    (h : y.served = false ∨ ∃ o ∈ ((y.setTask role (more ++ rest)).spawn spawned).tasks .handler,
      o.awaitsHdr = true) : y.rs.tgtResHdr.taken = 0 := by
  rw [hmove.tasks_own role rest (by simp) (by simp), hmove.frame.served] at h
  by_cases hrole : Role.handler = role
  · subst hrole
    rw [if_pos rfl, hx.rest_eq hops (.inl rfl), List.append_nil] at h
    rcases h with hserved | ⟨o, ho, hawaits⟩
    · rw [hx.fresh hserved] at hops
      cases hops
    · obtain ⟨hop, heq⟩ := hmove.awaitsHdr_of_mem ho hawaits
      rw [heq]
      exact hx.untaken (.inr ⟨op, by simp [hops], hop⟩)
  · rw [if_neg hrole] at h
    have hne : op ≠ .recvHeader := by
      rintro rfl
      exact hrole (hx.fits.role_eq hops (fits_handler rfl)).symm
    rw [hmove.hdr_taken hne]
    exact hx.untaken h

private theorem Closing.settled_of_portalError (hx : Closing x)
    (hops : x.tasks .handler = op :: rest)
    (hexec : op.exec dbg x c = some (y, more, spawned))
    (hok : leavesNothingOpen x (.task .handler c) = true) (hop : op.serves = true)
    (hmem : .portalError ∈ more) : x.settled = true := by
  simp only [leavesNothingOpen, hops, List.head?_cons] at hok
  rcases portalError_of_exec hexec hmem with ⟨text, hasBody, rfl, hremoved⟩ |
    ⟨text, hasBody, crex, rfl, rfl⟩ | ⟨content, crex, rfl, rfl⟩ | ⟨rfl, hheader⟩ | rfl
  · simpa [hremoved] using hok
  · exact hok
  · exact hok
  · apply hx.settled_of_handled
    rcases hheader with ⟨e, hnext⟩ | ⟨hnext, hclosed⟩
    · exact hx.hdrErr e (List.mem_of_getElem? hnext)
    · -- nothing was taken, so a closed channel without a header was closed by an error
      have htaken := hx.untaken (.inr ⟨.recvHeader, by simp [hops], rfl⟩)
      rcases hx.hdrClosed hclosed with hhandled | hsent
      · exact hhandled
      · rw [Chan.next?, htaken] at hnext
        exact absurd (by simpa using hnext) hsent
  · cases hop

private theorem Closing.settled_of_onError {crex : CrankerRouterException} {inClose : Bool}
    (hx : Closing x) (h : Move dbg x (.onError crex inClose) y more spawned) :
    y.settled = true := by
  by_cases hclosed : x.rs.errChan.closed = true
  · exact h.settled (hx.settled_of_handled (hx.errClosed hclosed))
  · have hsend : y.rs.errChan = x.rs.errChan.send crex := by
      cases h with
      | errorSent => rfl
      | errorLost _ _ h => exact absurd h hclosed
      | refused _ hop | senderGoes _ _ hop | senderQueues _ _ _ hop | senderFails _ _ hop
      | recvFails _ _ hop => cases hop
    unfold Socket.settled
    rw [hsend, Chan.send_sent_of_open (by simpa using hclosed)]
    simp

private theorem Closing.task_answered (hx : Closing x) (hops : x.tasks role = op :: rest)
    (hexec : op.exec dbg x c = some (y, more, spawned))
    (hok : leavesNothingOpen x (.task role c) = true) (hserved : y.served = true) :
    y.settled = true ∨
      (∃ o ∈ ((y.setTask role (more ++ rest)).spawn spawned).tasks .handler, o.serves = true) ∨
      ∃ o ∈ ((y.setTask role (more ++ rest)).spawn spawned).tasks .watcher, o.watches = true := by
  have hmove := move_of_exec hexec
  rw [hmove.frame.served] at hserved
  rcases hx.answered hserved with hsettled | ⟨o, ho, hserves⟩ | ⟨o, ho, hwatches⟩
  · exact .inl (hmove.settled hsettled)
  · by_cases hrole : Role.handler = role
    · subst hrole
      obtain rfl := hx.rest_eq hops (.inl rfl)
      rw [hops] at ho
      obtain rfl := List.mem_singleton.mp ho
      rcases hmove.serves_next hserves with ⟨o', ho', hserves'⟩ | rfl | hmem
      · refine .inr (.inl ⟨o', ?_, hserves'⟩)
        rw [hmove.tasks_own .handler [] (by simp) (by simp), if_pos rfl]
        exact List.mem_append_left _ ho'
      · exact .inr (.inr ⟨.awaitStreamEnd, by simp [Socket.spawn, Socket.setTask], rfl⟩)
      · exact .inl (hmove.settled (hx.settled_of_portalError hops hexec hok hserves hmem))
    · refine .inr (.inl ⟨o, ?_, hserves⟩)
      rw [hmove.tasks_own role rest (by simp) (by simp), if_neg hrole]
      exact ho
  · rcases hmove.tasks_after role rest .watcher with heq | ⟨hrole, -⟩ | ⟨-, -, heq⟩
    · by_cases hrole : Role.watcher = role
      · subst hrole
        obtain rfl := hx.rest_eq hops (.inr rfl)
        rw [hops] at ho
        obtain rfl := List.mem_singleton.mp ho
        rcases watches_exec hexec hwatches with ⟨o', ho', hwatches'⟩ | hclose | ⟨crex, inClose, rfl⟩
        · refine .inr (.inr ⟨o', ?_, hwatches'⟩)
          rw [heq, if_pos rfl]
          exact List.mem_append_left _ ho'
        · exact .inl (hmove.settled (by simp [Socket.settled, hclose]))
        · exact .inl (hx.settled_of_onError hmove)
      · refine .inr (.inr ⟨o, ?_, hwatches⟩)
        rw [heq, if_neg hrole]
        exact ho
    · cases hrole
    · exact .inr (.inr ⟨.awaitStreamEnd, by simp [heq], rfl⟩)

theorem Closing.task (hx : Closing x) (hops : x.tasks role = op :: rest)
    (hexec : op.exec dbg x c = some (y, more, spawned))
    (hok : leavesNothingOpen x (.task role c) = true)
    (hfits : Fits ((y.setTask role (more ++ rest)).spawn spawned)) :
    Closing ((y.setTask role (more ++ rest)).spawn spawned) := by
  have hmove := move_of_exec hexec
  have hrs : ((y.setTask role (more ++ rest)).spawn spawned).rs = y.rs := by simp
  have hserved : ((y.setTask role (more ++ rest)).spawn spawned).served = y.served := by simp
  have hhandled : y.Handled → ((y.setTask role (more ++ rest)).spawn spawned).Handled := by
    unfold Socket.Handled
    rw [hrs]
    exact id
  obtain ⟨hends, hpumps⟩ := hx.task_pipe hops hexec hok
  obtain ⟨hbound, hsend, herr, hhdrErr, hhdrClosed⟩ := hx.task_chans hops hexec
  exact
    { fits := hfits
      errBound := by rw [hrs]; exact hbound
      cut := by rw [hrs]; exact hx.task_cut hops hexec hok
      ends := fun o ho hend => hhandled (hends o ho hend)
      pumps := hpumps.imp hhandled id
      torn := by rw [hrs]; exact hx.task_torn hops hexec
      sendClosed := by rw [hrs]; exact fun h => hhandled (hsend h)
      errClosed := by rw [hrs]; exact fun h => hhandled (herr h)
      closing := by
        rw [hrs]
        exact fun o ho hafter => (hx.task_ops hops hexec ho).1 hafter rfl
      hdrErr := by rw [hrs]; exact fun e he => hhandled (hhdrErr e he)
      hdrFails := fun role' o ho hfails => hhandled ((hx.task_ops hops hexec ho).2.1 hfails)
      hdrCloses := by
        rw [hrs]
        exact fun role' ho => ((hx.task_ops hops hexec ho).2.2 rfl).imp hhandled id
      hdrClosed := by rw [hrs]; exact fun h => (hhdrClosed h).imp hhandled id
      short := ⟨hx.task_short hops hmove (.inl rfl), hx.task_short hops hmove (.inr rfl)⟩
      untaken := by
        rw [hrs, hserved]
        exact hx.task_untaken hops hmove
      fresh := by
        rw [hserved, hmove.frame.served]
        intro hfresh
        rw [hmove.tasks_own role rest (by simp) (by simp)]
        split_ifs with hrole
        · rw [← hrole, hx.fresh hfresh] at hops
          cases hops
        · exact hx.fresh hfresh
      answered := by
        rw [hserved]
        intro h
        refine (hx.task_answered hops hexec hok h).imp_left ?_
        unfold Socket.settled
        rw [hrs]
        exact id }

end Task

/-- The operations that the invariant does not restrict. -/
def Op.calm : Op → Bool
  | .closeHdr => false
  | op => !op.afterClose && !op.failsHdr

/-- A step from the outside changes no channel and begins only calm operations. -/
theorem Closing.outside (hx : Closing x) (hfits : Fits y)
    (herr : y.rs.errChan = x.rs.errChan) (hhdr : y.rs.tgtResHdr = x.rs.tgtResHdr)
    (hclose : y.rs.isCloseMsgReceived = x.rs.isCloseMsgReceived)
    (hsend : y.rs.wssSendTask.closed = x.rs.wssSendTask.closed)
    (hpipe : y.tasks .sendPipe = x.tasks .sendPipe)
    (hwatcher : y.tasks .watcher = x.tasks .watcher)
    (hcalm : ∀ role, ∀ o ∈ y.tasks role, o ∈ x.tasks role ∨ o.calm = true)
    (hhandler : y.tasks .handler = x.tasks .handler ∧ y.served = x.served ∨
      y.tasks .handler = [] ∧ x.settled = true ∧ x.served = true ∧ y.served = true ∨
      x.served = false ∧ y.served = true ∧
        ∃ text hasBody, y.tasks .handler = [.checkRemoved text hasBody]) : Closing y := by
  have hhandled : x.Handled → y.Handled := by
    unfold Socket.Handled
    rw [herr, hclose]
    exact id
  have hsettled : x.settled = true → y.settled = true := by
    unfold Socket.settled
    rw [herr, hclose]
    exact id
  have hold : ∀ role, ∀ o ∈ y.tasks role, o.calm = false → o ∈ x.tasks role := by
    intro role o ho hnot
    refine (hcalm role o ho).resolve_right ?_
    rw [hnot]
    exact Bool.false_ne_true
  refine
    { fits := hfits
      errBound := by rw [herr]; exact hx.errBound
      cut := by rw [herr]; exact hx.cut
      ends := by rw [hpipe]; exact fun o ho hend => hhandled (hx.ends o ho hend)
      pumps := by rw [hpipe]; exact hx.pumps.imp hhandled id
      torn := by rw [hpipe, herr]; exact hx.torn
      sendClosed := by rw [hsend]; exact fun h => hhandled (hx.sendClosed h)
      errClosed := by rw [herr]; exact fun h => hhandled (hx.errClosed h)
      closing := ?_
      hdrErr := by rw [hhdr]; exact fun e he => hhandled (hx.hdrErr e he)
      hdrFails := ?_
      hdrCloses := ?_
      hdrClosed := by rw [hhdr]; exact fun h => (hx.hdrClosed h).imp hhandled id
      short := ⟨?_, by rw [hwatcher]; exact hx.short.2⟩
      untaken := ?_
      fresh := ?_
      answered := ?_ }
  · intro o ho hafter
    rw [hclose]
    refine hx.closing o (hold .recv o ho ?_) hafter
    cases o <;> first | rfl | cases hafter
  · intro role o ho hfails
    refine hhandled (hx.hdrFails role o (hold role o ho ?_) hfails)
    cases o <;> first | rfl | cases hfails
  · intro role ho
    rw [hhdr]
    exact (hx.hdrCloses role (hold role _ ho rfl)).imp hhandled id
  · rcases hhandler with ⟨heq, -⟩ | ⟨heq, -⟩ | ⟨-, -, text, hasBody, heq⟩
    · rw [heq]
      exact hx.short.1
    · simp [heq]
    · simp [heq]
  · rw [hhdr]
    intro h
    rcases hhandler with ⟨heq, hserved⟩ | ⟨heq, -, -, hserved⟩ | ⟨hserved, -⟩
    · rw [heq, hserved] at h
      exact hx.untaken h
    · simp [heq, hserved] at h
    · exact hx.untaken (.inl hserved)
  · intro hfresh
    rcases hhandler with ⟨heq, hserved⟩ | ⟨heq, -⟩ | ⟨-, hserved, -⟩
    · rw [heq]
      exact hx.fresh (hserved ▸ hfresh)
    · exact heq
    · rw [hserved] at hfresh
      cases hfresh
  · intro hserved'
    rcases hhandler with ⟨heq, hserved⟩ | ⟨-, h, -⟩ | ⟨-, -, text, hasBody, heq⟩
    · rw [heq, hwatcher]
      exact (hx.answered (hserved ▸ hserved')).imp_left hsettled
    · exact .inl (hsettled h)
    · exact .inr (.inl ⟨_, heq ▸ List.mem_singleton.mpr rfl, rfl⟩)

theorem mem_setTask {role role' : Role} {ops : List Op} {o : Op}
    (ho : o ∈ (x.setTask role ops).tasks role') : o ∈ x.tasks role' ∨ o ∈ ops := by
  simp only [Socket.setTask, Function.update_apply] at ho
  split_ifs at ho
  · exact .inr ho
  · exact .inl ho

theorem Closing.step {a : Label} (hx : Closing x) (hok : leavesNothingOpen x a = true)
    (h : step dbg x a = some z) : Closing z := by
  have hfits := hx.fits.step h
  by_cases htask : ∃ role c, a = .task role c
  · obtain ⟨role, c, rfl⟩ := htask
    obtain ⟨op, rest, y, more, spawned, hops, hexec, rfl⟩ := step_task h
    exact hx.task hops hexec hok hfits
  cases stepCases h with
  | @task role c => exact absurd ⟨role, c, rfl⟩ htask
  | request text hasBody hserved =>
      refine hx.outside hfits rfl rfl rfl rfl rfl rfl ?_ (.inr (.inr ⟨hserved, rfl, text, hasBody, rfl⟩))
      intro role o ho
      refine (mem_setTask ho).imp_right fun ho => ?_
      rw [List.mem_singleton.mp ho]
      rfl
  | receive a op hop hidle =>
      refine hx.outside hfits rfl rfl rfl rfl rfl rfl ?_ (.inl ⟨rfl, rfl⟩)
      intro role o ho
      refine (mem_setTask ho).imp_right fun ho => ?_
      rw [List.mem_singleton.mp ho]
      cases op <;> first | rfl | cases hop
  | close frame hidle =>
      refine hx.outside hfits rfl rfl rfl rfl rfl rfl ?_ (.inl ⟨rfl, rfl⟩)
      intro role o ho
      refine (mem_setTask ho).imp_right fun ho => ?_
      rw [List.mem_singleton.mp ho]
      rfl
  | endRecv a errs herrs hidle =>
      refine hx.outside hfits rfl rfl rfl rfl rfl rfl ?_ (.inl ⟨rfl, rfl⟩)
      intro role o ho
      refine (mem_setTask ho).imp_right fun ho => ?_
      rcases List.mem_append.mp ho with ho | ho
      · rcases herrs with ⟨-, rfl⟩ | ⟨ex, rfl⟩
        · cases ho
        · rw [List.mem_singleton.mp ho]
          rfl
      · rw [List.mem_singleton.mp ho]
        rfl
  | idleTimeout hopen =>
      refine hx.outside hfits rfl rfl rfl rfl rfl rfl ?_ (.inl ⟨rfl, rfl⟩)
      intro role o ho
      refine (mem_setTask ho).imp_right fun ho => ?_
      rcases List.mem_cons.mp ho with rfl | ho
      · rfl
      · rw [List.mem_singleton.mp ho]
        rfl
  | ping =>
      exact hx.outside hfits rfl rfl rfl (by simp [RouterSocketV1.sendData]) rfl rfl
        (fun _ _ ho => .inl ho) (.inl ⟨rfl, rfl⟩)
  | dropHandler hdrop =>
      -- a handler that waits for the header belongs to a request
      have hserved : x.served = true := by
        by_contra hnot
        rw [hx.fresh (by simpa using hnot)] at hdrop
        cases hdrop
      refine hx.outside hfits rfl rfl rfl rfl rfl rfl ?_ (.inr (.inl ⟨rfl, hok, hserved, hserved⟩))
      intro role o ho
      exact (mem_setTask ho).imp_right fun ho => by cases ho
  | dropStream | setRemoved | tick =>
      exact hx.outside hfits rfl rfl rfl rfl rfl rfl (fun _ _ ho => .inl ho) (.inl ⟨rfl, rfl⟩)

theorem Closing.new (proxyListeners : Nat) (needResponseChunks needRequestChunks : Bool) (now : Int) :
    Closing (.new (.new proxyListeners needResponseChunks needRequestChunks now)) := by
  have htasks : ∀ role, ∀ o ∈ (Socket.new (.new proxyListeners needResponseChunks needRequestChunks
      now)).tasks role, role = .sendPipe ∧ o = .sendLoop := by
    intro role o ho
    simp only [Socket.new, Function.update_apply] at ho
    split_ifs at ho with hrole
    · exact ⟨hrole, List.mem_singleton.mp ho⟩
    · cases ho
  constructor
  · intro role o ho
    obtain ⟨rfl, rfl⟩ := htasks role o ho
    rfl
  · exact le_rfl
  · intro o ho
    cases ho
  · intro o ho hend
    obtain ⟨-, rfl⟩ := htasks _ o ho
    cases hend
  · exact .inr ⟨.sendLoop, List.mem_singleton.mpr rfl, rfl⟩
  · intro htaken
    cases htaken
  · intro hclosed
    cases hclosed
  · intro hclosed
    cases hclosed
  · intro o ho
    cases (htasks _ o ho).1
  · intro e he
    cases he
  · intro role o ho hfails
    obtain ⟨-, rfl⟩ := htasks role o ho
    cases hfails
  · intro role ho
    cases (htasks role _ ho).2
  · intro hclosed
    cases hclosed
  · exact ⟨Nat.zero_le _, Nat.zero_le _⟩
  · exact fun _ => rfl
  · exact fun _ => rfl
  · intro hserved
    cases hserved

private theorem closing_of_reachable
    (h : (socketMachine dbg).Reachable (fun x a => leavesNothingOpen x a = true) x) : Closing x := by
  refine h.invariant ?_ ?_
  · rintro x ⟨proxyListeners, needResponseChunks, needRequestChunks, now, -, rfl⟩
    exact .new _ _ _ _
  · intro x a y hx hok hstep
    exact hx.step hok hstep

end Invariant

/-- No task has anything left to do: only the send pipe may be there, and it waits. -/
def Socket.idle (x : Socket) : Bool :=
  [Role.handler, .sender, .watcher, .recv, .timer].all (fun role => (x.tasks role).isEmpty) &&
    ((x.tasks .sendPipe).isEmpty ||
      decide (x.tasks .sendPipe = [.sendLoop]) && x.rs.errChan.next?.isNone &&
        x.rs.wssSendTask.next?.isNone && !x.rs.wssSendTask.closed)

private theorem Socket.idle_tasks {x : Socket} (h : x.idle = true) :
    x.tasks .handler = [] ∧ x.tasks .watcher = [] ∧
      (x.tasks .sendPipe = [] ∨ x.tasks .sendPipe = [.sendLoop] ∧ x.rs.errChan.next? = none) := by
  simp only [Socket.idle, List.all_cons, List.all_nil, Bool.and_eq_true, Bool.or_eq_true,
    List.isEmpty_iff, decide_eq_true_eq, Option.isNone_iff_eq_none] at h
  obtain ⟨⟨hhandler, -, hwatcher, -⟩, hpipe⟩ := h
  exact ⟨hhandler, hwatcher, hpipe.imp_right fun h => ⟨h.1.1.1, h.1.1.2⟩⟩

/-- The error branch has run to its end, and sent a close frame on its way. -/
def Socket.tornDown (x : Socket) : Bool :=
  x.rs.errChan.closed && (x.rs.errChan.sent.take x.rs.errChan.taken).any sendsClose

theorem Closing.tornDown {x : Socket} (hx : Closing x) (htaken : 0 < x.rs.errChan.taken)
    (hclosed : x.rs.errChan.closed = true) : x.tornDown = true := by
  have hne : x.rs.errChan.sent.take x.rs.errChan.taken ≠ [] := by
    have hbound := hx.errBound
    rw [← List.length_pos_iff, List.length_take]
    omega
  obtain ⟨crex, hmem⟩ := List.exists_mem_of_ne_nil _ hne
  rw [Socket.tornDown, hclosed, Bool.true_and, List.any_eq_true]
  exact ⟨crex, hmem, hx.cut crex hmem⟩

/-- A V1 socket that has served its request is closed: the connector has sent a close frame, or the
error branch of the send pipe has run to its end. -/
theorem spent_socket_closed {x : Socket}
    (h : (socketMachine dbg).Reachable (fun x a => leavesNothingOpen x a = true) x)
    (hserved : x.served = true) (hidle : x.idle = true) :
    x.rs.isCloseMsgReceived = true ∨ x.tornDown = true := by
  have hx := closing_of_reachable h
  obtain ⟨hhandler, hwatcher, hpipe⟩ := Socket.idle_tasks hidle
  have hhandled : x.Handled := by
    rcases hpipe with hnil | ⟨-, hnext⟩
    · refine hx.pumps.resolve_right ?_
      rintro ⟨o, ho, -⟩
      rw [hnil] at ho
      cases ho
    · rcases hx.answered hserved with hsettled | ⟨o, ho, -⟩ | ⟨o, ho, -⟩
      · simp only [Socket.settled, Bool.or_eq_true, Bool.not_eq_true', List.isEmpty_eq_false_iff]
          at hsettled
        refine hsettled.imp_right fun hsent => ?_
        -- every reported error was taken, and there is one
        have htaken : x.rs.errChan.sent.length ≤ x.rs.errChan.taken :=
          List.getElem?_eq_none_iff.mp hnext
        exact (List.length_pos_iff.mpr hsent).trans_le htaken
      · rw [hhandler] at ho
        cases ho
      · rw [hwatcher] at ho
        cases ho
  refine hhandled.imp_right fun htaken => hx.tornDown htaken ((hx.torn htaken).resolve_right ?_)
  intro hmem
  rcases hpipe with hnil | ⟨hloop, -⟩
  · rw [hnil] at hmem
    cases hmem
  · rw [hloop] at hmem
    cases List.mem_singleton.mp hmem

/-- A request whose head went to the target. -/
def headSent : List Label :=
  [.request "GET / HTTP/1.1\n_2" false, .task .handler .go, .task .handler .go,
    .task .handler (.answer none), .task .sender .go, .task .sender .go,
    .task .sender (.answer none), .task .sendPipe .takeMessage, .task .sendPipe .go,
    .task .sendPipe .sent]

/-- The response header reaches the handler. -/
def headerArrives : List Label :=
  .text "HTTP/1.1 200 OK" :: List.replicate 5 (.task .recv .go) ++ [.task .handler .go]

/-- The portal's call of `raise_completion_event`. -/
def portalReturns : List Label :=
  [.task .handler .go, .task .handler .go, .task .handler (.answer none)]

/-- The client goes away in the middle of the body, and the watcher reports it. -/
def clientLeft : Socket :=
  (socketMachine plainText).run (fun x a => leavesNothingOpen x a = true) freshSocket
    (List.flatten [headSent, headerArrives, [.task .handler (.answer none),
      .task .handler (.answer none), .dropStream], List.replicate 4 (.task .watcher .go),
      [.task .watcher (.answer none), .task .sendPipe .takeError],
      List.replicate 7 (.task .sendPipe .go)])

theorem spent_socket_closed_clientLeft :
    clientLeft.rs.isCloseMsgReceived = false ∧ clientLeft.tornDown = true := by
  have hclose : clientLeft.rs.isCloseMsgReceived = false := by decide +kernel
  have hended := spent_socket_closed (x := clientLeft)
    (Machine.reachable_run _ _ init_freshSocket _) (by decide +kernel) (by decide +kernel)
  exact ⟨hclose, hended.resolve_left (by rw [hclose]; exact Bool.false_ne_true)⟩

/-- A listener refuses the request before anything was sent. -/
def refusedBeforeProxy : Socket :=
  (socketMachine plainText).run Machine.anyAction freshSocket
    ([.request "GET / HTTP/1.1\n_2" false, .task .handler .go, .task .handler .go,
      .task .handler (.answer (some (.new "refused")))] ++ portalReturns)

/-- The response header cannot be made a response. -/
def malformedHeader : Socket :=
  (socketMachine plainText).run Machine.anyAction freshSocket
    (List.flatten [headSent, headerArrives,
      [.task .handler (.answer (some (.new "failed to build response")))], portalReturns])

/-- The client goes away before the response header. -/
def leftBeforeHeader : Socket :=
  (socketMachine plainText).run Machine.anyAction freshSocket (headSent ++ [.dropHandler])

/-- A request is over, and nothing closes the websocket. -/
def LeftOpen (x : Socket) : Prop :=
  (socketMachine plainText).Reachable Machine.anyAction x ∧ x.served = true ∧ x.idle = true ∧
    x.rs.isCloseMsgReceived = false ∧ x.tornDown = false

private theorem leftOpen_run (labels : List Label)
    (h : let x := (socketMachine plainText).run Machine.anyAction freshSocket labels
      x.served = true ∧ x.idle = true ∧ x.rs.isCloseMsgReceived = false ∧ x.tornDown = false) :
    LeftOpen ((socketMachine plainText).run Machine.anyAction freshSocket labels) :=
  ⟨Machine.reachable_run _ _ init_freshSocket labels, h⟩

theorem spent_socket_left_open :
    LeftOpen refusedBeforeProxy ∧ LeftOpen malformedHeader ∧ LeftOpen leftBeforeHeader :=
  ⟨leftOpen_run _ (by decide +kernel), leftOpen_run _ (by decide +kernel),
    leftOpen_run _ (by decide +kernel)⟩

end CrankerRouter.V1
