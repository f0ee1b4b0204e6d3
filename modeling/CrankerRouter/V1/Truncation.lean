import CrankerRouter.V1.Completion
import CrankerRouter.V3.Truncation

/-!
# The end of a response on a V1 socket

The receive pipe closes the body channel when the websocket is closed, the send pipe when it is
torn down; both put an error on it first unless the close frame has code 1000.
-/

namespace CrankerRouter.V1

open Lib

/-- What an operation does to the body channel; `on_close` is going to close it. -/
def Op.endAct : Op → Option EndAct
  | .sendBdyErr _ => some .fails
  | .closeBdy => some .closes
  | .checkClosed code _ => if code = 1000 then some .closes else none
  | .onClose frame => if frame.any (·.code == 1000) then some .ends else none
  | _ => none

/-- The operations close the body channel only where they may. -/
def Socket.Closable (x : Socket) (l : List Op) : Prop :=
  Lib.Closable Op.endAct (x.closedNormally = true)
    (Settled (x.closedNormally = true) x.rs.tgtResBdy) l

variable {dbg : DebugText} {x y : Socket} {op : Op} {rest more : List Op}
  {spawned : Option (Role × List Op)} {ended ok : Prop}

/-! ### One operation -/

/-- What an operation does to the body channel. -/
theorem Move.tgtResBdy (h : Move dbg x op y more spawned) :
    y.rs.tgtResBdy = x.rs.tgtResBdy ∨
    (∃ bin, op = .sendBinary bin ∧ x.rs.tgtResBdy.closed = false ∧
      y.rs.tgtResBdy = x.rs.tgtResBdy.send (.ok bin)) ∨
    (∃ ex, op = .sendBdyErr ex ∧ y.rs.tgtResBdy = x.rs.tgtResBdy.send (.error ex)) ∨
    (op = .closeBdy ∧ y.rs.tgtResBdy = x.rs.tgtResBdy.close) := by
  cases h with
  | chunkSent bin hopen => exact .inr (.inl ⟨bin, rfl, hopen, rfl⟩)
  | sendBdyErr ex => exact .inr (.inr (.inl ⟨ex, rfl, rfl⟩))
  | closeBdy => exact .inr (.inr (.inr ⟨rfl, rfl⟩))
  | errorLost crex inClose hclosed | completeFails listener inClose crex =>
      exact .inl (by simp)
  | _ => exact .inl rfl

private theorem Move.bdySettled (h : Move dbg x op y more spawned)
    (hchunk : ∀ bin, op = .sendBinary bin → x.rs.tgtResBdy.failed = false)
    (hsettled : Settled ended x.rs.tgtResBdy) : Settled ended y.rs.tgtResBdy := by
  obtain hbdy | ⟨bin, hop, hopen, -⟩ | ⟨ex, -, hbdy⟩ | ⟨-, hbdy⟩ := h.tgtResBdy
  · rwa [hbdy]
  · obtain hended | hclosed | hfailed := hsettled
    · exact .inl hended
    · rw [hopen] at hclosed
      cases hclosed
    · rw [hchunk bin hop] at hfailed
      cases hfailed
  · rw [hbdy]
    exact .send_error _ _ ex
  · rw [hbdy]
    exact .close _ _

theorem Move.endedOrFailed (h : Move dbg x op y more spawned)
    (hclose : op = .closeBdy → Settled ended x.rs.tgtResBdy)
    (hbody : EndedOrFailed ended x.rs.tgtResBdy) : EndedOrFailed ended y.rs.tgtResBdy := by
  obtain hbdy | ⟨bin, -, -, hbdy⟩ | ⟨ex, -, hbdy⟩ | ⟨hop, hbdy⟩ := h.tgtResBdy <;> rw [hbdy]
  · exact hbody
  · exact hbody.send _
  · exact hbody.send _
  · exact hbody.close (hclose hop)

private theorem endAct_of_group
    (h : op.group = .handler ∨ op.group = .sender ∨ op.group = .sendPipe) :
    op.endAct = none := by
  cases op <;> first | rfl | simp [Op.group] at h

private theorem closable_teardownOps (crex : CrankerRouterException)
    (h : Lib.Closable Op.endAct ended ok rest) :
    Lib.Closable Op.endAct ended ok (teardownOps crex ++ rest) := by
  unfold teardownOps
  split
  · simpa [Lib.Closable, Op.endAct] using h.mono id fun _ => trivial
  · simpa [Lib.Closable, Op.endAct] using h

private theorem closable_onClose {frame : Option CloseFrame}
    (h : Lib.Closable Op.endAct ended (Settled ended x.rs.tgtResBdy) (.onClose frame :: rest)) :
    Lib.Closable Op.endAct ended (Settled ended x.rs.tgtResBdy)
      ([.queueClose frame, .failPrior ((frame.map (·.code)).getD 4000),
        .checkClosed ((frame.map (·.code)).getD 4000) ((frame.map (·.reason)).getD ""),
        .raise true, .returnTotalErr] ++ rest) := by
  by_cases hcode : frame.any (·.code == 1000) = true
  · obtain ⟨hended, hrest⟩ := (closable_ends (by simp [Op.endAct, hcode])).mp h
    obtain ⟨fr, rfl, hfr⟩ : ∃ fr, frame = some fr ∧ fr.code = 1000 := by
      cases frame <;> simp_all
    have hlast : Lib.Closable Op.endAct ended True rest := hrest.mono id fun _ => trivial
    simpa [Lib.Closable, Op.endAct, hfr] using ⟨.inl hended, hlast⟩
  · have hrest := (closable_none (by simp [Op.endAct, hcode])).mp h
    have hother : (frame.map (·.code)).getD 4000 ≠ 1000 := by
      cases frame <;> simp_all
    simpa [Lib.Closable, Op.endAct, hother] using hrest

theorem Move.closable (hmove : Move dbg x op y more spawned)
    (hsettled : Settled ended x.rs.tgtResBdy → Settled ended y.rs.tgtResBdy)
    (h : Lib.Closable Op.endAct ended (Settled ended x.rs.tgtResBdy) (op :: rest)) :
    Lib.Closable Op.endAct ended (Settled ended y.rs.tgtResBdy) (more ++ rest) := by
  have hquiet : op.endAct = none → (∀ o ∈ more, o.endAct = none) →
      Lib.Closable Op.endAct ended (Settled ended y.rs.tgtResBdy) (more ++ rest) :=
    fun hop hmore => (closable_append hmore).mpr (((closable_none hop).mp h).mono id hsettled)
  cases hmove with
  | sendBdyErr ex =>
      have hrest := (closable_fails (by rfl)).mp h
      exact hrest.mono id fun _ => .send_error _ _ ex
  | closeBdy =>
      have hrest := ((closable_closes (by rfl)).mp h).2
      exact hrest.mono id fun _ => .close _ _
  | alreadyClosed code reason hhdr hbdy =>
      by_cases hcode : code = 1000
      · have hrest := ((closable_closes (by simp [Op.endAct, hcode])).mp h).2
        exact hrest.mono id fun _ => .inr (.inl hbdy)
      · exact hquiet (by simp [Op.endAct, hcode]) nofun
  | closesClean reason =>
      obtain ⟨hok, hrest⟩ := (closable_closes (by rfl)).mp h
      exact (closable_none rfl).mpr ((closable_closes (by rfl)).mpr ⟨hok, hrest⟩)
  | closesFailed code reason hcode =>
      have hrest := (closable_none (by simp [Op.endAct, hcode])).mp h
      simpa [Lib.Closable, Op.endAct] using hrest.mono id fun _ => trivial
  | onClose frame => exact closable_onClose h
  | takeError crex hnext => exact closable_teardownOps crex ((closable_none rfl).mp h)
  | refused op hop => exact hquiet (by cases op <;> first | rfl | cases hop) (by simp [Op.endAct])
  | recvFails op crex hop =>
      exact hquiet (by cases op <;> first | rfl | cases hop) (by simp [Op.endAct])
  | senderGoes op next hop hnext =>
      exact hquiet (endAct_of_group (.inr (.inl hop)))
        (by simp [endAct_of_group (.inr (.inl hnext))])
  | senderQueues op next m hop hnext =>
      exact hquiet (endAct_of_group (.inr (.inl hop)))
        (by simp [endAct_of_group (.inr (.inl hnext))])
  | senderFails op crex hop =>
      exact hquiet (endAct_of_group (.inr (.inl hop))) (by simp [Op.endAct])
  | headerTaken next hnext =>
      refine hquiet rfl fun o ho => ?_
      obtain rfl := List.mem_singleton.mp ho
      obtain rfl | ⟨content, rfl⟩ := hnext <;> rfl
  | headerFirst txt next hnext =>
      refine hquiet rfl fun o ho => ?_
      obtain rfl := List.mem_singleton.mp ho
      obtain rfl | ⟨crex, rfl⟩ := hnext <;> rfl
  | failPrior code more hmore =>
      refine hquiet rfl ?_
      obtain rfl | ⟨ex, rfl⟩ := hmore <;> simp [Op.endAct]
  | takeMessage msg incs hincs =>
      refine hquiet rfl ?_
      obtain rfl | ⟨len, rfl⟩ := hincs <;> simp [Op.endAct]
  | completed listener inClose =>
      refine hquiet rfl ?_
      split <;> simp [Op.endAct]
  | _ => exact hquiet rfl (by simp [Op.endAct])

/-! ### Over whole runs -/

/-- No chunk is put on the body channel after an error. -/
def chunksBeforeError (x : Socket) : Label → Bool
  | .task role _ =>
      match x.tasks role with
      | .sendBinary _ :: _ => !x.rs.tgtResBdy.failed
      | _ => true
  | _ => true

/-- The body channel, with what the tasks still do to it. -/
structure Unbroken (x : Socket) : Prop where
  endedOrFailed : EndedOrFailed (x.closedNormally = true) x.rs.tgtResBdy
  closable : ∀ role, x.Closable (x.tasks role)

theorem Unbroken.setTask (h : Unbroken x) {role : Role} {ops : List Op} (hops : x.Closable ops) :
    Unbroken (x.setTask role ops) := by
  refine ⟨h.endedOrFailed, fun role' => ?_⟩
  by_cases hrole : role' = role
  · subst hrole
    simpa [Socket.Closable, Socket.setTask] using hops
  · simpa [Socket.Closable, Socket.setTask, hrole] using h.closable role'

private theorem Unbroken.setQuiet (h : Unbroken x) (role : Role) (ops : List Op)
    (hops : ∀ o ∈ ops, o.endAct = none) : Unbroken (x.setTask role ops) :=
  h.setTask (closable_of_none hops)

theorem Unbroken.task {role : Role} (h : Unbroken x) (hops : x.tasks role = op :: rest)
    (hchunk : ∀ bin, op = .sendBinary bin → x.rs.tgtResBdy.failed = false)
    (hmove : Move dbg x op y more spawned) : Unbroken (y.setTask role (more ++ rest)) := by
  have hclosable := h.closable role
  rw [hops] at hclosable
  have hended := hmove.frame.closedNormally
  have hsettled : Settled (x.closedNormally = true) x.rs.tgtResBdy →
      Settled (x.closedNormally = true) y.rs.tgtResBdy := hmove.bdySettled hchunk
  have hy : Unbroken y := by
    constructor
    · rw [hended]
      refine hmove.endedOrFailed ?_ h.endedOrFailed
      rintro rfl
      exact ((closable_closes (by rfl)).mp hclosable).1
    · intro role'
      rw [Socket.Closable, hended, hmove.frame.tasks]
      exact (h.closable role').mono id hsettled
  refine hy.setTask ?_
  rw [Socket.Closable, hended]
  exact hmove.closable hsettled hclosable

theorem Unbroken.close (h : Unbroken x) (frame : Option CloseFrame) :
    Unbroken { x.setTask .recv [.onClose frame] with
      closedNormally := x.closedNormally || frame.any (·.code == 1000) } := by
  have hended : x.closedNormally = true →
      (x.closedNormally || frame.any (·.code == 1000)) = true := by
    intro hclosed
    simp [hclosed]
  have hnoted : Unbroken { x with
      closedNormally := x.closedNormally || frame.any (·.code == 1000) } :=
    ⟨h.endedOrFailed.mono hended, fun role => (h.closable role).mono hended (.imp_left hended)⟩
  have hops : Socket.Closable { x with
      closedNormally := x.closedNormally || frame.any (·.code == 1000) } [.onClose frame] := by
    by_cases hcode : frame.any (·.code == 1000) = true
    · exact (closable_ends (by simp [Op.endAct, hcode])).mpr ⟨by simp [hcode], trivial⟩
    · exact (closable_none (by simp [Op.endAct, hcode])).mpr trivial
  have hnext : Unbroken (Socket.setTask _ .recv [.onClose frame]) := hnoted.setTask hops
  exact ⟨hnext.endedOrFailed, hnext.closable⟩

theorem Unbroken.step {a : Label} (h : Unbroken x) (hok : chunksBeforeError x a = true)
    (hstep : step dbg x a = some y) : Unbroken y := by
  cases stepCases hstep with
  | @task role c op rest more z spawned hops hmove =>
      have hnext : Unbroken (z.setTask role (more ++ rest)) := by
        refine h.task hops ?_ hmove
        rintro bin rfl
        simpa [chunksBeforeError, hops] using hok
      obtain rfl | ⟨text, hasBody, -, rfl⟩ | ⟨content, -, rfl⟩ := hmove.spawned_cases
      · exact hnext
      · exact hnext.setQuiet _ _ (by simp [Op.endAct])
      · exact hnext.setQuiet _ _ (by simp [Op.endAct])
  | request text hasBody hserved =>
      have hnext := h.setQuiet .handler [.checkRemoved text hasBody] (by simp [Op.endAct])
      exact ⟨hnext.endedOrFailed, hnext.closable⟩
  | receive a op hop hidle =>
      refine h.setQuiet _ _ fun o ho => ?_
      obtain rfl := List.mem_singleton.mp ho
      cases o <;> first | rfl | cases hop
  | close frame hidle => exact h.close frame
  | endRecv a errs herrs hidle =>
      have hquiet : ∀ o ∈ errs ++ [.endCheck], o.endAct = none := by
        obtain ⟨-, rfl⟩ | ⟨ex, rfl⟩ := herrs <;> simp [Op.endAct]
      have hnext := h.setQuiet .recv _ hquiet
      exact ⟨hnext.endedOrFailed, hnext.closable⟩
  | idleTimeout hopen =>
      have hnext := h.setQuiet .timer
        [.queueClose (some ⟨1001, "timeout"⟩), .onError timeoutEx false] (by simp [Op.endAct])
      exact ⟨hnext.endedOrFailed, hnext.closable⟩
  | dropHandler hdrop => exact h.setQuiet _ _ (by simp)
  | ping | dropStream | setRemoved | tick => exact ⟨h.endedOrFailed, h.closable⟩

theorem unbroken_init (h : (socketMachine dbg).init x) : Unbroken x := by
  obtain ⟨proxyListeners, needResponseChunks, needRequestChunks, now, -, rfl⟩ := h
  refine ⟨endedOrFailed_of_open rfl, fun role => closable_of_none fun o ho => ?_⟩
  cases role <;> simp [Socket.new] at ho
  rw [ho]
  rfl

/-- The body of a response ends with a close of the websocket with code 1000 or with an error: in
every run in which no chunk follows an error on the body channel. -/
private theorem endedOrFailed_of_chunksBeforeError
    (hx : (socketMachine dbg).Reachable (fun x a => chunksBeforeError x a = true) x) :
    EndedOrFailed (x.closedNormally = true) x.rs.tgtResBdy := by
  have hinv : Unbroken x :=
    hx.invariant (fun _ hx => unbroken_init hx) fun _ _ _ h hok hstep => h.step hok hstep
  exact hinv.endedOrFailed

end CrankerRouter.V1

namespace CrankerRouter

open Lib

/-- On both kinds of socket, the body of a response ends without an error only if the target ended
the response, and it is closed otherwise only after an error: in every run in which a close of a V3
websocket with code 1000 leaves no response unfinished, and no chunk follows an error on the body
channel of a V1 socket. -/
theorem no_silent_truncation (dbg : DebugText) (overflowChecks : Bool) :
    (∀ p, (V3.socketMachine dbg overflowChecks).Reachable
        (fun p a => V3.closesInTime p a = true) p → ∀ r : V3.ReqId,
      ((p.shared.rs.contexts r).tgtResBdy.endsCleanly = true → p.shared.endStreamSeen r = true) ∧
      ((p.shared.rs.contexts r).tgtResBdy.closed = true → p.shared.endStreamSeen r = false →
        (p.shared.rs.contexts r).tgtResBdy.failed = true)) ∧
    ∀ x, (V1.socketMachine dbg).Reachable (fun x a => V1.chunksBeforeError x a = true) x →
      (x.rs.tgtResBdy.endsCleanly = true → x.closedNormally = true) ∧
      (x.rs.tgtResBdy.closed = true → x.closedNormally = false →
        x.rs.tgtResBdy.failed = true) := by
  constructor
  · intro p hp r
    have hbody := V3.endedOrFailed_of_closesInTime hp r
    refine ⟨hbody.ended_of_endsCleanly, fun hclosed hseen => ?_⟩
    exact (hbody hclosed).resolve_left (by simp [hseen])
  · intro x hx
    have hbody := V1.endedOrFailed_of_chunksBeforeError hx
    refine ⟨hbody.ended_of_endsCleanly, fun hclosed hnormal => ?_⟩
    exact (hbody hclosed).resolve_left (by simp [hnormal])

/-- A response that its target ends, on a websocket that is then closed with code 1000. -/
def V3.closedAfterEnd : V3.SocketPool :=
  (V3.socketMachine plainText false).run (fun p a => V3.closesInTime p a = true) V3.freshSocket
    (List.flatten [V3.oneChunkReceived, [.receive (V3.dataMessages 1 true none)],
      List.replicate 8 (.recv .go), [.close (some ⟨1000, ""⟩), .recv .go, .recv .go,
        .recv (.visit 1)]])

/-- A response whose target closes the websocket with code 1000. -/
def V1.closedAfterChunk : V1.Socket :=
  (V1.socketMachine plainText).run (fun x a => V1.chunksBeforeError x a = true) V1.freshSocket
    (List.flatten [V1.responding, [.binary [1, 2]], List.replicate 3 (.task .recv .go),
      [.close (some ⟨1000, ""⟩)], List.replicate 6 (.task .recv .go)])

theorem no_silent_truncation_ended :
    ((V3.closedAfterEnd.shared.rs.contexts 1).tgtResBdy.sent.length = 1 ∧
      V3.closedAfterEnd.shared.endStreamSeen 1 = true) ∧
    V1.closedAfterChunk.rs.tgtResBdy.sent.length = 1 ∧
      V1.closedAfterChunk.closedNormally = true := by
  obtain ⟨hv3, hv1⟩ := no_silent_truncation plainText false
  have hended := (hv3 V3.closedAfterEnd
    (Machine.reachable_run _ _ (V3.init_freshSocket false) _) 1).1 (by decide +kernel)
  have hclosed := (hv1 V1.closedAfterChunk
    (Machine.reachable_run _ _ V1.init_freshSocket _)).1 (by decide +kernel)
  exact ⟨⟨by decide +kernel, hended⟩, by decide +kernel, hclosed⟩

/-- The websocket of a V3 socket is closed with code 1000 in the middle of a response. -/
def V3.closedInResponse : V3.SocketPool :=
  (V3.socketMachine plainText false).run Machine.anyAction V3.freshSocket
    (List.flatten [V3.oneChunkReceived, [.close (some ⟨1000, ""⟩), .recv .go, .recv .go,
      .recv (.visit 1)], List.replicate 4 (.recv .go)])

/-- A chunk arrives between the error and the close of the teardown after a timeout. -/
def V1.chunkInTeardown : V1.Socket :=
  (V1.socketMachine plainText).run Machine.anyAction V1.freshSocket
    (List.flatten [V1.responding, [.binary [1, 2]], List.replicate 3 (.task .recv .go),
      [.idleTimeout, .task .timer .go, .task .timer .go, .task .sendPipe .takeError],
      List.replicate 4 (.task .sendPipe .go), [.binary [3], .task .recv .go, .task .recv .go],
      List.replicate 2 (.task .sendPipe .go)])

/-- The first response is cut short and the client cannot tell; in the second the error is
followed by a chunk, after which the body ends like one that is complete. -/
theorem response_cut_silently :
    ((V3.socketMachine plainText false).Reachable Machine.anyAction V3.closedInResponse ∧
      (V3.closedInResponse.shared.rs.contexts 1).tgtResBdy.sent = [.ok [1, 2, 3]] ∧
      (V3.closedInResponse.shared.rs.contexts 1).tgtResBdy.endsCleanly = true ∧
      V3.closedInResponse.shared.endStreamSeen 1 = false) ∧
    ((V1.socketMachine plainText).Reachable Machine.anyAction V1.chunkInTeardown ∧
      V1.chunkInTeardown.rs.tgtResBdy.sent =
        [.ok [1, 2], .error V1.timeoutEx, .ok [3]] ∧
      V1.chunkInTeardown.rs.tgtResBdy.endsCleanly = true ∧
      V1.chunkInTeardown.closedNormally = false) := by
  refine ⟨⟨Machine.reachable_run _ _ (V3.init_freshSocket false) _, ?_⟩,
    ⟨Machine.reachable_run _ _ V1.init_freshSocket _, ?_⟩⟩
  · decide +kernel
  · decide +kernel

end CrankerRouter
