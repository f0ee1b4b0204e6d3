import CrankerRouter.V1.Socket

/-!
# What one operation of a V1 socket does

`Move` says once what an operation can do; the invariants are derived from it.  An operation never
changes the lists of the tasks, and its list goes on with operations of the same task.
-/

namespace CrankerRouter.V1

open Lib

/-- The operations whose error makes `on_client_req` return it to the portal. -/
def Op.refuses : Op → Bool
  | .beforeProxyToTarget _ _ | .respond _ | .recvHeader => true
  | _ => false

/-- The callbacks, or parts of them, that return an error. -/
def Op.failsRecv : Op → Bool
  | .onText _ | .sendHeaderText _ | .onBinary _ | .sendBinary _ | .bodyListeners | .sendPong _ => true
  | _ => false

variable {dbg : DebugText}

/-- What an operation can do: the state after it, the operations that follow from it and the task
it spawns. -/
inductive Move (dbg : DebugText) (x : Socket) :
    Op → Socket → List Op → Option (Role × List Op) → Prop
  | removed (text : String) (hasBody : Bool) :
      Move dbg x (.checkRemoved text hasBody) x [.portalError] none
  | admitted (text : String) (hasBody : Bool) :
      Move dbg x (.checkRemoved text hasBody) x [.storeStart text hasBody] none
  | storeStart (text : String) (hasBody : Bool) :
      Move dbg x (.storeStart text hasBody)
        { x with rs := { x.rs with clientReqStartTs := x.rs.now, durationMillis := -x.rs.now } }
        [.beforeProxyToTarget text hasBody] none
  | proxied (text : String) (hasBody : Bool) :
      Move dbg x (.beforeProxyToTarget text hasBody) x [.recvHeader]
        (some (.sender, [.storeCanSend text hasBody]))
  | refused (op : Op) (hop : op.refuses = true) : Move dbg x op x [.portalError] none
  | headerTaken (next : Op) (hnext : next = .portalError ∨ ∃ content, next = .respond content) :
      Move dbg x .recvHeader { x with rs := { x.rs with tgtResHdr := x.rs.tgtResHdr.take } }
        [next] none
  | responded (content : String) :
      Move dbg x (.respond content) { x with bodyStream := .live } [.buildBody]
        (some (.watcher, [.awaitStreamEnd]))
  | built : Move dbg x .buildBody x [] none
  | buildFails : Move dbg x .buildBody { x with bodyStream := .gone } [.portalError] none
  | portalSilent (hremoved : x.rs.isRemoved = true) : Move dbg x .portalError x [] none
  | portalRaises : Move dbg x .portalError x [.raise false] none
  | storeCanSend (text : String) (hasBody : Bool) :
      Move dbg x (.storeCanSend text hasBody)
        { x with rs := { x.rs with isTgtCanSendResNow := true } } [.queueHead text hasBody] none
  | senderGoes (op next : Op) (hop : op.group = .sender) (hnext : next.group = .sender) :
      Move dbg x op x [next] none
  | senderEnds : Move dbg x .afterSent x [] none
  | senderQueues (op next : Op) (m : Message) (hop : op.group = .sender)
      (hnext : next.group = .sender) :
      Move dbg x op { x with rs := x.rs.sendData m } [next] none
  | senderFails (op : Op) (crex : CrankerRouterException) (hop : op.group = .sender) :
      Move dbg x op x [.onError crex false] none
  | streamEnded : Move dbg x .awaitStreamEnd x [.checkCloseReceived] none
  | watched : Move dbg x .checkCloseReceived x [] none
  | clientGone (hclose : x.rs.isCloseMsgReceived = false) :
      Move dbg x .checkCloseReceived x [.onError V3.clientConnectionClosed false] none
  | recvFails (op : Op) (crex : CrankerRouterException) (hop : op.failsRecv = true) :
      Move dbg x op x [.onError crex false] none
  | textAllowed (txt : String) : Move dbg x (.onText txt) x [.sendHeaderText txt] none
  | headerFirst (txt : String) (next : Op)
      (hnext : next = .queueHeaderText txt ∨ ∃ crex, next = .onError crex false) :
      Move dbg x (.sendHeaderText txt) { x with rs := { x.rs with isTgtResHdrReceived := true } }
        [next] none
  | headerQueued (txt : String) :
      Move dbg x (.queueHeaderText txt) { x with rs := x.rs.sendHdr (.ok txt) }
        [.closeHdr, .storeHdrSent] none
  | headerLost (txt : String) (crex : CrankerRouterException) :
      Move dbg x (.queueHeaderText txt) x [.closeHdr, .storeHdrSent, .onError crex false] none
  | storeHdrSent :
      Move dbg x .storeHdrSent { x with rs := { x.rs with isTgtResHdrSent := true } } [] none
  | binaryAllowed (bin : Bytes) : Move dbg x (.onBinary bin) x [.sendBinary bin] none
  | chunkSent (bin : Bytes) (hopen : x.rs.tgtResBdy.closed = false) :
      Move dbg x (.sendBinary bin) { x with rs := x.rs.sendBdy (.ok bin) } [.bodyListeners] none
  | heard : Move dbg x .bodyListeners x [] none
  | ponged (ping : Bytes) :
      Move dbg x (.sendPong ping) { x with rs := x.rs.sendData (.pong ping) } [] none
  | onClose (frame : Option CloseFrame) :
      Move dbg x (.onClose frame)
        { x with rs := { x.rs with isCloseMsgReceived := true }, totalErr := none }
        [.queueClose frame, .failPrior ((frame.map (·.code)).getD 4000),
          .checkClosed ((frame.map (·.code)).getD 4000) ((frame.map (·.reason)).getD ""),
          .raise true, .returnTotalErr] none
  | failPrior (code : Nat) (more : List Op) (hmore : more = [] ∨ ∃ ex, more = [.onError ex true]) :
      Move dbg x (.failPrior code) x more none
  | alreadyClosed (code : Nat) (reason : String) (hhdr : x.rs.tgtResHdr.closed = true)
      (hbdy : x.rs.tgtResBdy.closed = true) : Move dbg x (.checkClosed code reason) x [] none
  | closesClean (reason : String) :
      Move dbg x (.checkClosed 1000 reason) x [.closeHdr, .closeBdy] none
  | closesFailed (code : Nat) (reason : String) (hcode : code ≠ 1000) :
      Move dbg x (.checkClosed code reason) x
        [.sendHdrErr (V3.upstreamServerError code reason),
          .sendBdyErr (V3.upstreamServerError code reason),
          .onError (V3.upstreamServerError code reason) true, .closeHdr, .closeBdy] none
  | returnsOk (herr : x.totalErr = none) : Move dbg x .returnTotalErr x [] none
  | returnsErr (e : CrankerRouterException) (herr : x.totalErr = some e) :
      Move dbg x .returnTotalErr x [.onError e false] none
  | endsRemoved (hremoved : x.rs.isRemoved = true) : Move dbg x .endCheck x [] none
  | endsEarly (crex : CrankerRouterException) : Move dbg x .endCheck x [.onError crex false] none
  | takeError (crex : CrankerRouterException) (hnext : x.rs.errChan.next? = some crex) :
      Move dbg x .sendLoop { x with rs := { x.rs with errChan := x.rs.errChan.take } }
        (teardownOps crex) none
  | takeMessage (msg : Message) (incs : List Op) (hincs : incs = [] ∨ ∃ len, incs = [.incBytes len]) :
      Move dbg x .sendLoop { x with rs := { x.rs with wssSendTask := x.rs.wssSendTask.take } }
        (incs ++ [.transmit msg]) none
  | drained (hclosed : x.rs.wssSendTask.closed = true) : Move dbg x .sendLoop x [.endPipe] none
  | incBytes (len : Nat) :
      Move dbg x (.incBytes len) { x with rs := { x.rs with
        bytesReceived := x.rs.bytesReceived + BitVec.ofNat 64 len } } [] none
  | transmitted (msg : Message) : Move dbg x (.transmit msg) x [.sendLoop] none
  | transmitFails (msg : Message) (err : String) :
      Move dbg x (.transmit msg) x [.sendFailed msg err] none
  | pipeFails (msg : Message) (err : String) (crex : CrankerRouterException) :
      Move dbg x (.sendFailed msg err) x [.onError crex false, .sendLoop] none
  | pipeStops (msg : Message) (err : String) (hremoved : x.rs.isRemoved = true) :
      Move dbg x (.sendFailed msg err) x [.endPipe] none
  | generalError (crex : CrankerRouterException) (error : Option CrankerRouterException) :
      Move dbg x (.generalErrorUnlessRemoved crex) { x with rs := { x.rs with error := error } } []
        none
  | closeSendTask :
      Move dbg x .closeSendTask
        { x with rs := { x.rs with wssSendTask := x.rs.wssSendTask.close } } [] none
  | endPipe :
      Move dbg x .endPipe { x with rs := { x.rs with
        wssSendTask := x.rs.wssSendTask.close, errChan := x.rs.errChan.close } } [] none
  | errorLost (crex : CrankerRouterException) (inClose : Bool) (hclosed : x.rs.errChan.closed = true) :
      Move dbg x (.onError crex inClose) (x.collectErr inClose (rareErrChanClosed dbg)) [] none
  | errorSent (crex : CrankerRouterException) (inClose : Bool)
      (hopen : x.rs.errChan.closed = false) :
      Move dbg x (.onError crex inClose)
        { x with rs := { x.rs with errChan := x.rs.errChan.send crex } } [.raise false] none
  | raisedNothing (inClose : Bool) (h : x.rs.clientReqStartTs = 0 ∨ x.rs.proxyListeners = 0) :
      Move dbg x (.raise inClose) x [] none
  | raised (inClose : Bool) (hstart : x.rs.clientReqStartTs ≠ 0) (hsome : x.rs.proxyListeners ≠ 0) :
      Move dbg x (.raise inClose)
        { x with rs := { x.rs with durationMillis := x.rs.now - x.rs.clientReqStartTs } }
        [.complete 0 inClose] none
  | completed (listener : Nat) (inClose : Bool) :
      Move dbg x (.complete listener inClose)
        { x with rs := { x.rs with onComplete := x.rs.onComplete ++ [listener] } }
        (if listener + 1 < x.rs.proxyListeners then [.complete (listener + 1) inClose] else []) none
  | completeFails (listener : Nat) (inClose : Bool) (crex : CrankerRouterException) :
      Move dbg x (.complete listener inClose)
        (({ x with rs := { x.rs with onComplete := x.rs.onComplete ++ [listener] } } :
          Socket).collectErr inClose crex) [] none
  | sendHdrErr (ex : CrankerRouterException) :
      Move dbg x (.sendHdrErr ex) { x with rs := x.rs.sendHdr (.error ex) } [] none
  | sendBdyErr (ex : CrankerRouterException) :
      Move dbg x (.sendBdyErr ex) { x with rs := x.rs.sendBdy (.error ex) } [] none
  | closeHdr :
      Move dbg x .closeHdr { x with rs := { x.rs with tgtResHdr := x.rs.tgtResHdr.close } } [] none
  | closeBdy :
      Move dbg x .closeBdy { x with rs := { x.rs with tgtResBdy := x.rs.tgtResBdy.close } } [] none
  | queueClose (frame : Option CloseFrame) :
      Move dbg x (.queueClose frame) { x with rs := x.rs.sendData (.close frame) } [] none

variable {x y : Socket} {c : Choice} {op : Op} {more : List Op} {spawned : Option (Role × List Op)}

private theorem move_of_execHandler (h : execHandler x c op = some (y, more, spawned)) :
    Move dbg x op y more spawned := by
  unfold execHandler at h
  split at h
  · cases h
    split
    · exact .removed _ _
    · exact .admitted _ _
  · cases h
    exact .storeStart _ _
  · split at h <;> cases h
    · exact .proxied _ _
    · exact .refused _ rfl
  · split at h
    · cases h
      exact .headerTaken _ (.inr ⟨_, rfl⟩)
    · cases h
      exact .headerTaken _ (.inl rfl)
    · split at h <;> cases h
      exact .refused _ rfl
  · split at h <;> cases h
    · exact .responded _
    · exact .refused _ rfl
  · split at h <;> cases h
    · exact .built
    · exact .buildFails
  · cases h
    split
    · exact .portalSilent ‹_›
    · exact .portalRaises
  · cases h

theorem fallible_cases {next : List Op} (h : fallible x c next = some (y, more, spawned)) :
    y = x ∧ spawned = none ∧ (more = next ∨ ∃ crex, more = [.onError crex false]) := by
  unfold fallible at h
  split at h <;> cases h
  · exact ⟨rfl, rfl, .inl rfl⟩
  · exact ⟨rfl, rfl, .inr ⟨_, rfl⟩⟩

private theorem queueOrFail_cases {m : Message} {reason : String} {next : List Op}
    (h : queueOrFail dbg x m reason next = (y, more, spawned)) :
    spawned = none ∧ (y = { x with rs := x.rs.sendData m } ∧ more = next ∨
      y = x ∧ ∃ crex, more = [.onError crex false]) := by
  unfold queueOrFail at h
  split at h <;> cases h
  · exact ⟨rfl, .inr ⟨rfl, _, rfl⟩⟩
  · exact ⟨rfl, .inl ⟨rfl, rfl⟩⟩

private theorem move_of_queue {m : Message} {reason : String} {next : Op} (hop : op.group = .sender)
    (hnext : next.group = .sender)
    (h : queueOrFail dbg x m reason [next] = (y, more, spawned)) : Move dbg x op y more spawned := by
  obtain ⟨rfl, ⟨rfl, rfl⟩ | ⟨rfl, crex, rfl⟩⟩ := queueOrFail_cases h
  · exact .senderQueues op next m hop hnext
  · exact .senderFails op crex hop

private theorem move_of_fallible {next : Op} (hop : op.group = .sender)
    (hnext : next.group = .sender)
    (h : fallible x c [next] = some (y, more, spawned)) : Move dbg x op y more spawned := by
  obtain ⟨rfl, rfl, rfl | ⟨crex, rfl⟩⟩ := fallible_cases h
  · exact .senderGoes op next hop hnext
  · exact .senderFails op crex hop

private theorem move_of_execSender (h : execSender dbg x c op = some (y, more, spawned)) :
    Move dbg x op y more spawned := by
  unfold execSender at h
  split at h
  · cases h
    exact .storeCanSend _ _
  · rename_i text hasBody
    cases hasBody
    · exact move_of_queue rfl rfl (Option.some.inj h)
    · exact move_of_queue rfl rfl (Option.some.inj h)
  · split at h <;> cases h
    · exact .senderGoes _ _ rfl rfl
    · exact .senderFails _ _ rfl
    · exact .senderGoes _ _ rfl rfl
  · exact move_of_fallible rfl rfl h
  · exact move_of_fallible rfl rfl h
  · exact move_of_queue rfl rfl (Option.some.inj h)
  · split at h
    · exact move_of_fallible rfl rfl h
    · cases h
      exact .senderGoes _ _ rfl rfl
  · simp only [endOfBody_eq] at h
    exact move_of_queue rfl rfl (Option.some.inj h)
  · obtain ⟨rfl, rfl, rfl | ⟨crex, rfl⟩⟩ := fallible_cases h
    · exact .senderEnds
    · exact .senderFails _ crex rfl
  · cases h

private theorem move_of_execRecv (h : execRecv dbg x c op = some (y, more, spawned)) :
    Move dbg x op y more spawned := by
  unfold execRecv at h
  split at h
  · cases h
    split
    · exact .textAllowed _
    · exact .recvFails _ _ rfl
  · split at h <;> cases h
    · exact .recvFails _ _ rfl
    · split
      · exact .headerFirst _ _ (.inr ⟨_, rfl⟩)
      · exact .headerFirst _ _ (.inl rfl)
  · split at h <;> cases h
    · exact .headerLost _ _
    · exact .headerQueued _
  · cases h
    exact .storeHdrSent
  · cases h
    split
    · exact .binaryAllowed _
    · exact .recvFails _ _ rfl
  · split at h
    · cases h
      exact .recvFails _ _ rfl
    · split at h <;> cases h
      · exact .recvFails _ _ rfl
      · rename_i hopen
        exact .chunkSent _ (by simpa using hopen)
  · split at h
    · obtain ⟨rfl, rfl, rfl | ⟨crex, rfl⟩⟩ := fallible_cases h
      · exact .heard
      · exact .recvFails _ crex rfl
    · cases h
      exact .heard
  · obtain ⟨rfl, ⟨rfl, rfl⟩ | ⟨rfl, crex, rfl⟩⟩ := queueOrFail_cases (Option.some.inj h)
    · exact .ponged _
    · exact .recvFails _ crex rfl
  · cases h
    exact .onClose _
  · cases h
    refine .failPrior _ _ ?_
    split
    · split
      · exact .inr ⟨_, rfl⟩
      · exact .inl rfl
    · exact .inl rfl
  · rename_i code reason
    cases h
    split
    · split
      · rename_i hcode
        subst hcode
        exact .closesClean _
      · rename_i hcode
        exact .closesFailed _ _ hcode
    · rename_i hclosed
      simp only [Bool.or_eq_true, Bool.not_eq_true', not_or, Bool.not_eq_false] at hclosed
      exact .alreadyClosed _ _ hclosed.1 hclosed.2
  · cases h
    split
    · exact .returnsErr _ ‹_›
    · exact .returnsOk ‹_›
  · cases h
    split
    · exact .endsRemoved ‹_›
    · exact .endsEarly _
  · cases h

private theorem move_of_execSendPipe (h : execSendPipe x c op = some (y, more, spawned)) :
    Move dbg x op y more spawned := by
  unfold execSendPipe at h
  split at h
  · split at h
    · split at h <;> cases h
      exact .takeError _ ‹_›
    · split at h
      · rename_i msg hnext
        cases h
        refine .takeMessage _ _ ?_
        split
        · exact .inr ⟨_, rfl⟩
        · exact .inr ⟨_, rfl⟩
        · exact .inl rfl
      · split at h <;> cases h
        exact .drained ‹_›
    · cases h
  · cases h
    exact .incBytes _
  · split at h <;> cases h
    · exact .transmitted _
    · exact .transmitFails _ _
  · cases h
    split
    · exact .pipeFails _ _ _
    · exact .pipeFails _ _ _
    · exact .pipeFails _ _ _
    all_goals
      split
      · exact .pipeStops _ _ ‹_›
      · exact .pipeFails _ _ _
  · cases h
    split
    · exact .generalError _ x.rs.error
    · exact .generalError _ _
  · cases h
    exact .closeSendTask
  · cases h
    exact .endPipe
  · cases h

private theorem move_of_execWatcher (h : execWatcher x op = some (y, more, spawned)) :
    Move dbg x op y more spawned := by
  unfold execWatcher at h
  split at h
  · split at h <;> cases h
    exact .streamEnded
  · cases h
    split
    · exact .watched
    · rename_i hclose
      exact .clientGone (by simpa using hclose)
  · cases h

private theorem move_of_execShared (h : execShared dbg x c op = some (y, more, spawned)) :
    Move dbg x op y more spawned := by
  unfold execShared at h
  split at h
  · split at h <;> cases h
    · exact .errorLost _ _ ‹_›
    · rename_i hopen
      exact .errorSent _ _ (by simpa using hopen)
  · split at h <;> cases h
    · exact .raisedNothing _ ‹_›
    · rename_i hraise
      rw [not_or] at hraise
      exact .raised _ hraise.1 hraise.2
  · split at h <;> cases h
    · exact .completed _ _
    · exact .completeFails _ _ _
  · cases h; exact .sendHdrErr _
  · cases h; exact .sendBdyErr _
  · cases h; exact .closeHdr
  · cases h; exact .closeBdy
  · cases h; exact .queueClose _
  · cases h

theorem move_of_exec (h : op.exec dbg x c = some (y, more, spawned)) :
    Move dbg x op y more spawned := by
  unfold Op.exec at h
  split at h
  · exact move_of_execHandler h
  · exact move_of_execSender h
  · exact move_of_execWatcher h
  · exact move_of_execRecv h
  · exact move_of_execSendPipe h
  · exact move_of_execShared h

/-- What no operation changes. -/
structure Frame (x y : Socket) : Prop where
  tasks : y.tasks = x.tasks
  served : y.served = x.served
  recvOpen : y.recvOpen = x.recvOpen
  closedNormally : y.closedNormally = x.closedNormally
  proxyListeners : y.rs.proxyListeners = x.rs.proxyListeners
  now : y.rs.now = x.rs.now

theorem Frame.refl (x : Socket) : Frame x x := ⟨rfl, rfl, rfl, rfl, rfl, rfl⟩

theorem Frame.collectErr (h : Frame x y) (inClose : Bool) (ex : CrankerRouterException) :
    Frame x (y.collectErr inClose ex) := by
  unfold Socket.collectErr
  split
  · exact ⟨h.tasks, h.served, h.recvOpen, h.closedNormally, h.proxyListeners, h.now⟩
  · exact h

theorem Move.frame (h : Move dbg x op y more spawned) : Frame x y := by
  cases h with
  | errorLost crex inClose hclosed => exact (Frame.refl x).collectErr inClose _
  | completeFails listener inClose crex =>
      refine Frame.collectErr ?_ inClose crex
      exact ⟨rfl, rfl, rfl, rfl, rfl, rfl⟩
  | _ => exact ⟨rfl, rfl, rfl, rfl, rfl, rfl⟩

/-- The tasks an operation may belong to. -/
def Op.fits (op : Op) (role : Role) : Bool :=
  match op.group, role with
  | .handler, .handler | .sender, .sender | .watcher, .watcher | .recv, .recv
  | .sendPipe, .sendPipe | .shared, _ => true
  | _, _ => false

private theorem Op.fits_of_shared {o : Op} {role : Role} (h : o.group = .shared) :
    o.fits role = true := by
  simp [Op.fits, h]

private theorem Op.fits_of_group {o : Op} {role : Role} (h : o.group = op.group)
    (hop : op.fits role = true) : o.fits role = true := by
  simpa [Op.fits, h] using hop

/-- The operations that may follow from an operation, given by those they follow from. -/
def Op.leadsTo (op : Op) : Op → Bool
  | .checkRemoved _ _ | .awaitStreamEnd | .onText _ | .onBinary _ | .sendPong _ | .onClose _
  | .endCheck => false
  | .storeStart _ _ => match op with | .checkRemoved _ _ => true | _ => false
  | .beforeProxyToTarget _ _ => match op with | .storeStart _ _ => true | _ => false
  | .recvHeader => match op with | .beforeProxyToTarget _ _ => true | _ => false
  | .respond _ => match op with | .recvHeader => true | _ => false
  | .buildBody => match op with | .respond _ => true | _ => false
  | .portalError => op.group == .handler
  | .storeCanSend _ _ | .queueHead _ _ | .nextChunk | .beforeChunk _ | .sentListeners _
  | .queueChunk _ | .chunkListeners | .queueEnd | .afterSent => op.group == .sender
  | .checkCloseReceived => match op with | .awaitStreamEnd => true | _ => false
  | .sendHeaderText _ => match op with | .onText _ => true | _ => false
  | .queueHeaderText _ => match op with | .sendHeaderText _ => true | _ => false
  | .storeHdrSent => match op with | .queueHeaderText _ => true | _ => false
  | .sendBinary _ => match op with | .onBinary _ => true | _ => false
  | .bodyListeners => match op with | .sendBinary _ => true | _ => false
  | .queueClose _ | .failPrior _ | .checkClosed _ _ | .returnTotalErr =>
      match op with | .onClose _ => true | _ => false
  | .onError _ _ => true
  | .raise _ => match op with | .portalError | .onClose _ | .onError _ _ => true | _ => false
  | .complete _ _ => match op with | .raise _ | .complete _ _ => true | _ => false
  | .sendHdrErr _ | .sendBdyErr _ | .closeBdy =>
      match op with | .sendLoop | .checkClosed _ _ => true | _ => false
  | .closeHdr => match op with | .sendLoop | .checkClosed _ _ | .queueHeaderText _ => true | _ => false
  | .sendLoop => match op with | .transmit _ | .sendFailed _ _ => true | _ => false
  | .incBytes _ | .transmit _ | .generalErrorUnlessRemoved _ | .closeSendTask =>
      match op with | .sendLoop => true | _ => false
  | .sendFailed _ _ => match op with | .transmit _ => true | _ => false
  | .endPipe => match op with | .sendLoop | .sendFailed _ _ => true | _ => false

/-- An operation is followed by operations of its own kind or by shared ones. -/
def Op.goesOn (op o : Op) : Bool := op.leadsTo o && (o.group == .shared || o.group == op.group)

private theorem Op.goesOn_of_sender {o : Op} (hop : op.group = .sender) (ho : o.group = .sender) :
    op.goesOn o = true := by
  have hleads : op.leadsTo o = true := by
    cases o <;> first | exact beq_iff_eq.mpr hop | cases ho
  simp [Op.goesOn, hleads, hop, ho]

private theorem teardownOps_all (crex : CrankerRouterException) :
    (teardownOps crex).all (Op.goesOn .sendLoop) = true := by
  unfold teardownOps
  split <;> rfl

private theorem Move.goesOn_all (h : Move dbg x op y more spawned) : more.all op.goesOn = true := by
  cases h with
  | refused op hop => cases op <;> first | rfl | cases hop
  | headerTaken next hnext => obtain rfl | ⟨content, rfl⟩ := hnext <;> rfl
  | senderGoes op next hop hnext => simpa using Op.goesOn_of_sender hop hnext
  | senderQueues op next m hop hnext => simpa using Op.goesOn_of_sender hop hnext
  | headerFirst txt next hnext => obtain rfl | ⟨crex, rfl⟩ := hnext <;> rfl
  | failPrior code more hmore => obtain rfl | ⟨ex, rfl⟩ := hmore <;> rfl
  | takeError crex hnext => exact teardownOps_all crex
  | takeMessage msg incs hincs => obtain rfl | ⟨len, rfl⟩ := hincs <;> rfl
  | completed listener inClose => split <;> rfl
  | _ => rfl

theorem Move.leadsTo_of_mem {o : Op} (h : Move dbg x op y more spawned) (ho : o ∈ more) :
    op.leadsTo o = true :=
  (Bool.and_eq_true_iff.mp (List.all_eq_true.mp h.goesOn_all o ho)).1

theorem Move.group_of_mem {o : Op} (h : Move dbg x op y more spawned) (ho : o ∈ more) :
    o.group = op.group ∨ o.group = .shared := by
  have hgroup := (Bool.and_eq_true_iff.mp (List.all_eq_true.mp h.goesOn_all o ho)).2
  simpa [or_comm] using hgroup

theorem Move.fits_of_mem {o : Op} {role : Role} (h : Move dbg x op y more spawned)
    (hop : op.fits role = true) (ho : o ∈ more) : o.fits role = true :=
  (h.group_of_mem ho).elim (fun hgroup => Op.fits_of_group hgroup hop) Op.fits_of_shared

theorem Move.spawned_cases (h : Move dbg x op y more spawned) :
    spawned = none ∨ (∃ text hasBody, op = .beforeProxyToTarget text hasBody ∧
      spawned = some (.sender, [.storeCanSend text hasBody])) ∨
    ∃ content, op = .respond content ∧ spawned = some (.watcher, [.awaitStreamEnd]) := by
  cases h with
  | proxied text hasBody => exact .inr (.inl ⟨text, hasBody, rfl, rfl⟩)
  | responded content => exact .inr (.inr ⟨content, rfl, rfl⟩)
  | _ => exact .inl rfl

/-- A callback of the receive pipe other than `on_close`. -/
def Op.receives : Op → Bool
  | .onText _ | .onBinary _ | .sendPong _ => true
  | _ => false

/-- What a step of the socket can be. -/
inductive StepCases (dbg : DebugText) (x : Socket) : Label → Socket → Prop
  | task {role : Role} {c : Choice} {op : Op} {rest more : List Op} {y : Socket}
      {spawned : Option (Role × List Op)} (hops : x.tasks role = op :: rest)
      (hmove : Move dbg x op y more spawned) :
      StepCases dbg x (.task role c) ((y.setTask role (more ++ rest)).spawn spawned)
  | request (text : String) (hasBody : Bool) (hserved : x.served = false) :
      StepCases dbg x (.request text hasBody)
        { x.setTask .handler [.checkRemoved text hasBody] with served := true }
  | receive (a : Label) (op : Op) (hop : op.receives = true) (hidle : x.tasks .recv = []) :
      StepCases dbg x a (x.setTask .recv [op])
  | close (frame : Option CloseFrame) (hidle : x.tasks .recv = []) :
      StepCases dbg x (.close frame) { x.setTask .recv [.onClose frame] with
        closedNormally := x.closedNormally || frame.any (·.code == 1000) }
  | endRecv (a : Label) (errs : List Op)
      (herrs : a = .wssEnd ∧ errs = [] ∨ ∃ ex, errs = [.onError ex false]) (hidle : x.tasks .recv = []) :
      StepCases dbg x a { x.setTask .recv (errs ++ [.endCheck]) with recvOpen := false }
  | idleTimeout (hopen : x.recvOpen = true) :
      StepCases dbg x .idleTimeout
        { x.setTask .timer [.queueClose (some ⟨1001, "timeout"⟩), .onError timeoutEx false] with
          timedOut := true }
  | ping : StepCases dbg x .ping { x with rs := x.rs.sendData (.ping (utf8 "ping")) }
  | dropHandler (h : x.tasks .handler = [.recvHeader]) :
      StepCases dbg x .dropHandler (x.setTask .handler [])
  | dropStream : StepCases dbg x .dropStream { x with bodyStream := .gone }
  | setRemoved : StepCases dbg x .setRemoved { x with rs := { x.rs with isRemoved := true } }
  | tick (now : Int) (hnow : 0 < now) :
      StepCases dbg x (.tick now) { x with rs := { x.rs with now := now } }

private theorem receive_eq {ops : List Op} (h : x.receive ops = some y) :
    x.tasks .recv = [] ∧ y = x.setTask .recv ops := by
  unfold Socket.receive at h
  split at h <;> cases h
  rename_i hidle
  exact ⟨hidle.2, rfl⟩

private theorem endRecv_eq {ops : List Op} (h : x.endRecv ops = some y) :
    x.tasks .recv = [] ∧ y = { x.setTask .recv ops with recvOpen := false } := by
  obtain ⟨z, hz, rfl⟩ := Option.map_eq_some_iff.mp h
  obtain ⟨hidle, rfl⟩ := receive_eq hz
  exact ⟨hidle, rfl⟩

theorem stepCases {a : Label} (h : step dbg x a = some y) : StepCases dbg x a y := by
  cases a with
  | request text hasBody =>
      simp only [step] at h
      split at h <;> cases h
      rename_i hserved
      exact .request text hasBody (by simpa using hserved)
  | task role c =>
      simp only [step] at h
      cases hops : x.tasks role with
      | nil => simp [hops] at h
      | cons op rest =>
          simp only [hops] at h
          obtain ⟨⟨z, more, spawned⟩, hexec, rfl⟩ := Option.map_eq_some_iff.mp h
          exact .task hops (move_of_exec hexec)
  | text txt | binary bin | pinged ping =>
      obtain ⟨hidle, rfl⟩ := receive_eq h
      exact .receive _ _ rfl hidle
  | close frame =>
      obtain ⟨z, hz, rfl⟩ := Option.map_eq_some_iff.mp h
      obtain ⟨hidle, rfl⟩ := receive_eq hz
      exact .close frame hidle
  | recvError ex =>
      obtain ⟨hidle, rfl⟩ := endRecv_eq h
      exact .endRecv _ [.onError ex false] (.inr ⟨ex, rfl⟩) hidle
  | wssEnd =>
      obtain ⟨hidle, rfl⟩ := endRecv_eq h
      exact .endRecv _ [] (.inl ⟨rfl, rfl⟩) hidle
  | idleTimeout =>
      simp only [step] at h
      split at h <;> cases h
      rename_i hopen
      exact .idleTimeout hopen.1
  | ping =>
      cases h
      exact .ping
  | dropHandler =>
      simp only [step] at h
      split at h <;> cases h
      exact .dropHandler ‹_›
  | dropStream =>
      simp only [step] at h
      split at h <;> cases h
      exact .dropStream
  | setRemoved =>
      cases h
      exact .setRemoved
  | tick now =>
      simp only [step] at h
      split at h <;> cases h
      exact .tick now ‹_›

/-- Every operation stands in a task it belongs to. -/
def Fits (x : Socket) : Prop := ∀ role, ∀ o ∈ x.tasks role, o.fits role = true

theorem Fits.setTask (h : Fits x) {role : Role} {ops : List Op}
    (hops : ∀ o ∈ ops, o.fits role = true) : Fits (x.setTask role ops) := by
  intro role' o ho
  by_cases hrole : role' = role
  · subst hrole
    exact hops o (by simpa [Socket.setTask] using ho)
  · exact h role' o (by simpa [Socket.setTask, hrole] using ho)

theorem Fits.step (h : Fits x) {a : Label} (hstep : step dbg x a = some y) : Fits y := by
  cases stepCases hstep with
  | @task role c op rest more z spawned hops hmove =>
      have hz : Fits z := by
        intro role o ho
        rw [hmove.frame.tasks] at ho
        exact h role o ho
      have hset : Fits (z.setTask role (more ++ rest)) := by
        refine hz.setTask fun o ho => ?_
        obtain ho | ho := List.mem_append.mp ho
        · exact hmove.fits_of_mem (h role op (by simp [hops])) ho
        · exact h role o (by simp [hops, ho])
      obtain rfl | ⟨text, hasBody, -, rfl⟩ | ⟨content, -, rfl⟩ := hmove.spawned_cases
      · exact hset
      · exact hset.setTask (by simp [Op.fits, Op.group])
      · exact hset.setTask (by simp [Op.fits, Op.group])
  | request text hasBody hserved => exact h.setTask (by simp [Op.fits, Op.group])
  | receive a op hop hidle =>
      refine h.setTask fun o ho => ?_
      obtain rfl := List.mem_singleton.mp ho
      cases o <;> first | rfl | cases hop
  | close frame hidle => exact h.setTask (by simp [Op.fits, Op.group])
  | endRecv a errs herrs hidle =>
      refine h.setTask fun o ho => ?_
      obtain ⟨-, rfl⟩ | ⟨ex, rfl⟩ := herrs <;> simp_all [Op.fits, Op.group]
      obtain rfl | rfl := ho <;> rfl
  | idleTimeout hopen => exact h.setTask (by simp [Op.fits, Op.group])
  | dropHandler hdrop => exact h.setTask (by simp)
  | ping | dropStream | setRemoved | tick => exact h

end CrankerRouter.V1
