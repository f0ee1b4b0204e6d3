import CrankerRouter.V1.Effect

/-!
# Channels and lists of a V1 socket

What an operation does to each channel of the socket, and what it leaves for the lists: who ends
the send pipe, who fails or closes the header channel, and what the handler and the watcher go on
with.
-/

namespace CrankerRouter.V1

open Lib

variable {dbg : DebugText}

section Effects

variable {x y : Socket} {op o : Op} {more : List Op} {spawned : Option (Role × List Op)}

@[simp] theorem Socket.collectErr_rs (x : Socket) (inClose : Bool) (ex : CrankerRouterException) :
    (x.collectErr inClose ex).rs = x.rs := by
  unfold Socket.collectErr
  split <;> rfl

/-- What an operation does to the error channel. -/
theorem Move.errChan (h : Move dbg x op y more spawned) :
    y.rs.errChan = x.rs.errChan ∨
    (∃ crex inClose, op = .onError crex inClose ∧ x.rs.errChan.closed = false ∧
      y.rs.errChan = x.rs.errChan.send crex) ∨
    (∃ crex, op = .sendLoop ∧ x.rs.errChan.next? = some crex ∧ more = teardownOps crex ∧
      y.rs.errChan = x.rs.errChan.take) ∨
    (op = .endPipe ∧ y.rs.errChan = x.rs.errChan.close) := by
  cases h with
  | errorSent crex inClose hopen => exact .inr (.inl ⟨crex, inClose, rfl, hopen, rfl⟩)
  | takeError crex hnext => exact .inr (.inr (.inl ⟨crex, rfl, hnext, rfl, rfl⟩))
  | endPipe => exact .inr (.inr (.inr ⟨rfl, rfl⟩))
  | errorLost crex inClose hclosed | completeFails listener inClose crex =>
      exact .inl (by simp)
  | _ => exact .inl rfl

theorem Move.of_endPipe (h : Move dbg x .endPipe y more spawned) :
    y.rs.errChan = x.rs.errChan.close := by
  cases h with
  | endPipe => rfl
  | refused _ hop | senderGoes _ _ hop | senderQueues _ _ _ hop | senderFails _ _ hop
  | recvFails _ _ hop => cases hop

theorem Move.of_onClose {frame : Option CloseFrame} (h : Move dbg x (.onClose frame) y more spawned) :
    y.rs.isCloseMsgReceived = true := by
  cases h with
  | onClose => rfl
  | refused _ hop | senderGoes _ _ hop | senderQueues _ _ _ hop | senderFails _ _ hop
  | recvFails _ _ hop => cases hop

theorem Move.isCloseMsgReceived (h : Move dbg x op y more spawned) :
    y.rs.isCloseMsgReceived = x.rs.isCloseMsgReceived ∨
      ∃ frame, op = .onClose frame ∧ y.rs.isCloseMsgReceived = true := by
  cases h with
  | onClose frame => exact .inr ⟨frame, rfl, rfl⟩
  | errorLost crex inClose hclosed | completeFails listener inClose crex =>
      exact .inl (by simp)
  | _ => exact .inl rfl

theorem Move.sendTask_closed (h : Move dbg x op y more spawned)
    (hclosed : y.rs.wssSendTask.closed = true) :
    x.rs.wssSendTask.closed = true ∨ op = .closeSendTask ∨ op = .endPipe := by
  cases h with
  | closeSendTask => exact .inr (.inl rfl)
  | endPipe => exact .inr (.inr rfl)
  | errorLost crex inClose h | completeFails listener inClose crex =>
      exact .inl (by simpa using hclosed)
  | senderQueues op next m hop hnext =>
      exact .inl (by simpa [RouterSocketV1.sendData] using hclosed)
  | ponged ping => exact .inl (by simpa [RouterSocketV1.sendData] using hclosed)
  | queueClose frame => exact .inl (by simpa [RouterSocketV1.sendData] using hclosed)
  | _ => exact .inl hclosed

/-- What an operation does to the header channel. -/
theorem Move.tgtResHdr (h : Move dbg x op y more spawned) :
    y.rs.tgtResHdr = x.rs.tgtResHdr ∨
    (op = .recvHeader ∧ y.rs.tgtResHdr = x.rs.tgtResHdr.take) ∨
    (∃ txt, op = .queueHeaderText txt ∧ y.rs.tgtResHdr = x.rs.tgtResHdr.send (.ok txt)) ∨
    (∃ ex, op = .sendHdrErr ex ∧ y.rs.tgtResHdr = x.rs.tgtResHdr.send (.error ex)) ∨
    (op = .closeHdr ∧ y.rs.tgtResHdr = x.rs.tgtResHdr.close) := by
  cases h with
  | headerTaken next hnext => exact .inr (.inl ⟨rfl, rfl⟩)
  | headerQueued txt => exact .inr (.inr (.inl ⟨txt, rfl, rfl⟩))
  | sendHdrErr ex => exact .inr (.inr (.inr (.inl ⟨ex, rfl, rfl⟩)))
  | closeHdr => exact .inr (.inr (.inr (.inr ⟨rfl, rfl⟩)))
  | errorLost crex inClose hclosed | completeFails listener inClose crex =>
      exact .inl (by simp)
  | _ => exact .inl rfl

/-- The operations after the receive pipe has got a close frame. -/
def Op.afterClose : Op → Bool
  | .failPrior _ | .checkClosed _ _ => true
  | _ => false

/-- The operations that end the send pipe. -/
def Op.endsPipe : Op → Bool
  | .closeSendTask | .endPipe => true
  | _ => false

/-- The loop of the send pipe goes on. -/
def Op.pumps : Op → Bool
  | .sendLoop | .transmit _ | .sendFailed _ _ => true
  | _ => false

def Op.failsHdr : Op → Bool
  | .sendHdrErr _ => true
  | _ => false

/-- The operations of `on_client_req` up to the header. -/
def Op.awaitsHdr : Op → Bool
  | .checkRemoved _ _ | .storeStart _ _ | .beforeProxyToTarget _ _ | .recvHeader => true
  | _ => false

/-- The operations of `on_client_req` until the body is watched. -/
def Op.serves : Op → Bool
  | .respond _ => true
  | op => op.awaitsHdr

def Op.watches : Op → Bool
  | .awaitStreamEnd | .checkCloseReceived | .onError _ _ => true
  | _ => false

theorem Move.afterClose_of_mem (h : Move dbg x op y more spawned) (ho : o ∈ more)
    (hafter : o.afterClose = true) : ∃ frame, op = .onClose frame := by
  have hleads := h.leadsTo_of_mem ho
  cases o with
  | failPrior | checkClosed => cases op <;> first | exact ⟨_, rfl⟩ | cases hleads
  | _ => cases hafter

/-- The send pipe is ended by the error branch, by a closed queue, or by a ping or a pong that fails on
a removed socket. -/
theorem Move.endsPipe_of_mem (h : Move dbg x op y more spawned) (ho : o ∈ more)
    (hends : o.endsPipe = true) :
    (∃ crex, more = teardownOps crex ∧ op = .sendLoop ∧ y.rs.errChan = x.rs.errChan.take) ∨
      x.rs.wssSendTask.closed = true ∨
      ∃ msg err, op = .sendFailed msg err ∧ .endPipe ∈ more := by
  have hleads := h.leadsTo_of_mem ho
  obtain rfl | ⟨msg, err, rfl⟩ : op = .sendLoop ∨ ∃ msg err, op = .sendFailed msg err := by
    cases o with
    | closeSendTask | endPipe =>
        cases op <;> first | exact .inl rfl | exact .inr ⟨_, _, rfl⟩ | cases hleads
    | _ => cases hends
  · cases h with
    | takeError crex hnext => exact .inl ⟨crex, rfl, rfl, rfl⟩
    | drained hclosed => exact .inr (.inl hclosed)
    | takeMessage msg incs hincs =>
        obtain rfl | ⟨len, rfl⟩ := hincs
        · rw [List.mem_singleton.mp ho] at hends
          cases hends
        · obtain rfl | rfl : o = .incBytes len ∨ o = .transmit msg := by simpa using ho
          all_goals cases hends
    | refused _ hop | senderGoes _ _ hop | senderQueues _ _ _ hop | senderFails _ _ hop
    | recvFails _ _ hop => cases hop
  · cases h with
    | pipeStops _ _ hremoved => exact .inr (.inr ⟨msg, err, rfl, by simp⟩)
    | pipeFails _ _ crex =>
        obtain rfl | rfl : o = .onError crex false ∨ o = .sendLoop := by simpa using ho
        all_goals cases hends
    | refused _ hop | senderGoes _ _ hop | senderQueues _ _ _ hop | senderFails _ _ hop
    | recvFails _ _ hop => cases hop

private theorem Move.errChan_of_teardown (h : Move dbg x .sendLoop y more spawned) (ho : o ∈ more)
    (hshared : o.group = .shared) : y.rs.errChan = x.rs.errChan.take := by
  cases h with
  | takeError crex hnext => rfl
  | takeMessage msg incs hincs =>
      obtain rfl | ⟨len, rfl⟩ := hincs
      · rw [List.mem_singleton.mp ho] at hshared
        cases hshared
      · obtain rfl | rfl : o = .incBytes len ∨ o = .transmit msg := by simpa using ho
        all_goals cases hshared
  | drained hclosed =>
      rw [List.mem_singleton.mp ho] at hshared
      cases hshared
  | refused _ hop | senderGoes _ _ hop | senderQueues _ _ _ hop | senderFails _ _ hop
  | recvFails _ _ hop => cases hop

theorem Move.failsHdr_of_mem (h : Move dbg x op y more spawned) (ho : o ∈ more)
    (hfails : o.failsHdr = true) :
    (op = .sendLoop ∧ y.rs.errChan = x.rs.errChan.take) ∨
      ∃ code reason, op = .checkClosed code reason := by
  have hleads := h.leadsTo_of_mem ho
  cases o with
  | sendHdrErr ex =>
      cases op <;> first | exact .inr ⟨_, _, rfl⟩ | cases hleads
      exact .inl ⟨rfl, h.errChan_of_teardown ho rfl⟩
  | _ => cases hfails

theorem Move.closeHdr_mem (h : Move dbg x op y more spawned) (ho : .closeHdr ∈ more) :
    (op = .sendLoop ∧ y.rs.errChan = x.rs.errChan.take) ∨
      (∃ code reason, op = .checkClosed code reason) ∨ ∃ txt, op = .queueHeaderText txt := by
  have hleads := h.leadsTo_of_mem ho
  cases op <;> first
    | exact .inr (.inl ⟨_, _, rfl⟩)
    | exact .inr (.inr ⟨_, rfl⟩)
    | cases hleads
  exact .inl ⟨rfl, h.errChan_of_teardown ho rfl⟩

/-- The operations up to the header come one after the other. -/
theorem Move.awaitsHdr_of_mem (h : Move dbg x op y more spawned) (ho : o ∈ more)
    (hawaits : o.awaitsHdr = true) : op.awaitsHdr = true ∧ y.rs.tgtResHdr = x.rs.tgtResHdr := by
  have hleads := h.leadsTo_of_mem ho
  obtain ⟨hop, hne⟩ : op.awaitsHdr = true ∧ op ≠ .recvHeader := by
    cases o with
    | storeStart | beforeProxyToTarget | recvHeader =>
        cases op <;> first | (cases hleads; done) | exact ⟨rfl, by simp⟩
    | checkRemoved => cases hleads
    | _ => cases hawaits
  refine ⟨hop, ?_⟩
  obtain hsame | ⟨rfl, -⟩ | ⟨txt, rfl, -⟩ | ⟨ex, rfl, -⟩ | ⟨rfl, -⟩ := h.tgtResHdr
  · exact hsame
  · exact absurd rfl hne
  all_goals cases hop

theorem Move.length_le_one (h : Move dbg x op y more spawned)
    (hop : op.group = .handler ∨ op.group = .watcher ∨ op.group = .shared) : more.length ≤ 1 := by
  cases h with
  | completed listener inClose => split_ifs <;> simp
  | refused | senderGoes | senderQueues | senderFails | recvFails => simp
  | _ => first | (simp; done) | simp [Op.group] at hop

theorem Move.serves_next (h : Move dbg x op y more spawned) (hop : op.serves = true) :
    (∃ o ∈ more, o.serves = true) ∨ spawned = some (.watcher, [.awaitStreamEnd]) ∨
      .portalError ∈ more := by
  cases h with
  | admitted | storeStart | proxied => exact .inl ⟨_, List.mem_singleton.mpr rfl, rfl⟩
  | responded content => exact .inr (.inl rfl)
  | removed | refused => exact .inr (.inr (List.mem_singleton.mpr rfl))
  | headerTaken next hnext =>
      rcases hnext with rfl | ⟨content, rfl⟩
      · exact .inr (.inr (List.mem_singleton.mpr rfl))
      · exact .inl ⟨_, List.mem_singleton.mpr rfl, rfl⟩
  | senderGoes op next hgroup | senderQueues op next m hgroup | senderFails op crex hgroup =>
      cases op <;> first | (cases hop; done) | cases hgroup
  | recvFails op crex hfails => cases op <;> first | (cases hop; done) | cases hfails
  | _ => cases hop

theorem Move.pumps_next (h : Move dbg x op y more spawned) (hop : op.pumps = true) :
    ∃ o ∈ more, o.pumps = true ∨ o.endsPipe = true := by
  cases h with
  | takeError crex hnext => exact ⟨.endPipe, by simp [teardownOps], .inr rfl⟩
  | takeMessage msg incs hincs => exact ⟨.transmit msg, by simp, .inl rfl⟩
  | drained | pipeStops => exact ⟨.endPipe, by simp, .inr rfl⟩
  | transmitted | pipeFails => exact ⟨.sendLoop, by simp, .inl rfl⟩
  | transmitFails msg err => exact ⟨.sendFailed msg err, by simp, .inl rfl⟩
  | refused op hrefuses => cases op <;> first | (cases hop; done) | cases hrefuses
  | senderGoes op next hgroup | senderQueues op next m hgroup | senderFails op crex hgroup =>
      cases op <;> first | (cases hop; done) | cases hgroup
  | recvFails op crex hfails => cases op <;> first | (cases hop; done) | cases hfails
  | _ => cases hop

end Effects

section Exec

variable {x y : Socket} {c : Choice} {op : Op} {more : List Op}
  {spawned : Option (Role × List Op)}

/-- When `on_client_req` returns an error to the portal. -/
theorem portalError_of_exec (h : op.exec dbg x c = some (y, more, spawned))
    (hmem : .portalError ∈ more) :
    (∃ text hasBody, op = .checkRemoved text hasBody ∧ x.rs.isRemoved = true) ∨
    (∃ text hasBody crex, op = .beforeProxyToTarget text hasBody ∧ c = .answer (some crex)) ∨
    (∃ content crex, op = .respond content ∧ c = .answer (some crex)) ∨
    (op = .recvHeader ∧ ((∃ e, x.rs.tgtResHdr.next? = some (.error e)) ∨
      (x.rs.tgtResHdr.next? = none ∧ x.rs.tgtResHdr.closed = true))) ∨
    op = .buildBody := by
  have hgroup : op.group = .handler := by
    rcases (move_of_exec h).group_of_mem hmem with hgroup | hgroup
    · exact hgroup.symm
    · cases hgroup
  simp only [Op.exec, hgroup] at h
  unfold execHandler at h
  split at h
  · rename_i text hasBody
    cases h
    split_ifs at hmem with hremoved
    · exact .inl ⟨text, hasBody, rfl, hremoved⟩
    · simp at hmem
  · cases h
    simp at hmem
  · split at h <;> cases h
    · simp at hmem
    · exact .inr (.inl ⟨_, _, _, rfl, rfl⟩)
  · split at h
    · cases h
      simp at hmem
    · rename_i e hnext
      exact .inr (.inr (.inr (.inl ⟨rfl, .inl ⟨e, hnext⟩⟩)))
    · rename_i hnext
      split_ifs at h with hclosed
      exact .inr (.inr (.inr (.inl ⟨rfl, .inr ⟨hnext, hclosed⟩⟩)))
  · split at h <;> cases h
    · simp at hmem
    · exact .inr (.inr (.inl ⟨_, _, rfl, rfl⟩))
  · exact .inr (.inr (.inr (.inr rfl)))
  · cases h
    split_ifs at hmem <;> simp at hmem
  · cases h

theorem queueHeaderText_exec {txt : String}
    (h : (Op.queueHeaderText txt).exec dbg x c = some (y, more, spawned)) :
    (x.rs.tgtResHdr.closed = true ∧ y.rs = x.rs) ∨ y.rs.tgtResHdr.sent ≠ [] := by
  simp only [Op.exec, Op.group, execRecv] at h
  split_ifs at h with hclosed <;> cases h
  · exact .inl ⟨hclosed, rfl⟩
  · refine .inr ?_
    simp [RouterSocketV1.sendHdr, Chan.send_sent_of_open (by simpa using hclosed)]

/-- The loop of the send pipe takes an error or leaves the errors alone. -/
theorem sendLoop_exec (h : Op.sendLoop.exec dbg x c = some (y, more, spawned)) :
    c = .takeError ∨ y.rs.errChan = x.rs.errChan := by
  simp only [Op.exec, Op.group, execSendPipe] at h
  split at h
  · exact .inl rfl
  · split at h
    · cases h
      exact .inr rfl
    · split_ifs at h
      cases h
      exact .inr rfl
  · cases h

/-- Messages whose failure ends the send pipe of a removed socket. -/
def keepsAlive : Message → Bool
  | .ping _ | .pong _ => true
  | _ => false

theorem sendFailed_exec {msg : Message} {err : String}
    (h : (Op.sendFailed msg err).exec dbg x c = some (y, more, spawned)) (hmem : .endPipe ∈ more) :
    x.rs.isRemoved = true ∧ keepsAlive msg = true := by
  simp only [Op.exec, Op.group, execSendPipe, Option.some.injEq, Prod.mk.injEq] at h
  obtain ⟨-, rfl, -⟩ := h
  cases msg <;> simp only [List.mem_cons, reduceCtorEq, List.not_mem_nil, or_self] at hmem
  all_goals
    split_ifs at hmem with hremoved
    · exact ⟨hremoved, rfl⟩
    · simp at hmem

/-- The watcher is done when it has seen a close frame, or else reports an error. -/
theorem watches_exec (h : op.exec dbg x c = some (y, more, spawned)) (hop : op.watches = true) :
    (∃ o ∈ more, o.watches = true) ∨ x.rs.isCloseMsgReceived = true ∨
      ∃ crex inClose, op = .onError crex inClose := by
  cases op <;> simp only [Op.watches, Bool.false_eq_true] at hop
  case awaitStreamEnd =>
    simp only [Op.exec, Op.group, execWatcher] at h
    split_ifs at h
    cases h
    exact .inl ⟨.checkCloseReceived, by simp, rfl⟩
  case checkCloseReceived =>
    simp only [Op.exec, Op.group, execWatcher, Option.some.injEq, Prod.mk.injEq] at h
    obtain ⟨-, rfl, -⟩ := h
    split_ifs with hclose
    · exact .inr (.inl hclose)
    · exact .inl ⟨_, List.mem_singleton.mpr rfl, rfl⟩
  case onError crex inClose => exact .inr (.inr ⟨crex, inClose, rfl⟩)

theorem step_task {role : Role} {z : Socket} (h : step dbg x (.task role c) = some z) :
    ∃ op rest y more spawned, x.tasks role = op :: rest ∧
      op.exec dbg x c = some (y, more, spawned) ∧
      z = (y.setTask role (more ++ rest)).spawn spawned := by
  simp only [step] at h
  cases hops : x.tasks role with
  | nil => simp [hops] at h
  | cons op rest =>
      simp only [hops] at h
      obtain ⟨⟨y, more, spawned⟩, hexec, rfl⟩ := Option.map_eq_some_iff.mp h
      exact ⟨op, rest, y, more, spawned, rfl, hexec, rfl⟩

@[simp] theorem Socket.setTask_rs (x : Socket) (role : Role) (ops : List Op) :
    (x.setTask role ops).rs = x.rs := rfl
@[simp] theorem Socket.setTask_served (x : Socket) (role : Role) (ops : List Op) :
    (x.setTask role ops).served = x.served := rfl

@[simp] theorem Socket.spawn_rs (x : Socket) (spawned : Option (Role × List Op)) :
    (x.spawn spawned).rs = x.rs := by
  cases spawned <;> rfl

@[simp] theorem Socket.spawn_served (x : Socket) (spawned : Option (Role × List Op)) :
    (x.spawn spawned).served = x.served := by
  cases spawned <;> rfl

theorem Move.tasks_after (h : Move dbg x op y more spawned) (role : Role) (rest : List Op)
    (role' : Role) :
    ((y.setTask role (more ++ rest)).spawn spawned).tasks role' =
        (if role' = role then more ++ rest else x.tasks role') ∨
      (role' = .sender ∧ ∃ text hasBody,
        ((y.setTask role (more ++ rest)).spawn spawned).tasks role' =
          [.storeCanSend text hasBody]) ∨
      (role' = .watcher ∧ spawned = some (.watcher, [.awaitStreamEnd]) ∧
        ((y.setTask role (more ++ rest)).spawn spawned).tasks role' = [.awaitStreamEnd]) := by
  have hset : (y.setTask role (more ++ rest)).tasks role' =
      if role' = role then more ++ rest else x.tasks role' := by
    simp only [Socket.setTask, Function.update_apply, h.frame.tasks]
  rcases h.spawned_cases with rfl | ⟨text, hasBody, -, rfl⟩ | ⟨content, -, rfl⟩
  · exact .inl hset
  · by_cases hrole : role' = .sender
    · subst hrole
      exact .inr (.inl ⟨rfl, text, hasBody, by simp [Socket.spawn, Socket.setTask]⟩)
    · left
      rw [← hset]
      simp [Socket.spawn, Socket.setTask, hrole]
  · by_cases hrole : role' = .watcher
    · subst hrole
      exact .inr (.inr ⟨rfl, rfl, by simp [Socket.spawn, Socket.setTask]⟩)
    · left
      rw [← hset]
      simp [Socket.spawn, Socket.setTask, hrole]

end Exec

end CrankerRouter.V1
