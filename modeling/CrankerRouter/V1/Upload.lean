import CrankerRouter.V1.Effect
import CrankerRouter.V3.Upload

/-!
# What an upload queues

On a V1 socket the text and binary messages are those of the one request, queued by its sender.
The sender follows the steps of `Lib.Sender` whatever the other tasks do; here the listeners hear
of a chunk twice, before it is queued and after.
-/

namespace CrankerRouter.V1

open Lib

variable {dbg : DebugText}

/-- A message of the upload; the others keep the websocket alive or close it. -/
def uploads : Message → Bool
  | .text _ | .binary _ => true
  | _ => false

def RouterSocketV1.uploaded (rs : RouterSocketV1) : List Message :=
  rs.wssSendTask.sent.filter uploads

/-- The text message that ends a body. -/
def endMessage : Message := .text "_3"

/-- A listener call that failed. -/
def noteAnswer (c : Choice) (log : V3.UploadLog) : V3.UploadLog :=
  match c with
  | .answer (some _) => { log with failed := true }
  | _ => log

/-- What an operation of the sender adds to the log: the chunk or the end it read, the listener
call or the send that failed. -/
def Op.note (x : Socket) (c : Choice) (log : V3.UploadLog) : Op → V3.UploadLog
  | .storeCanSend text hasBody => { log with head := [.text text], hasBody := hasBody }
  | .nextChunk =>
      match c with
      | .chunk b => { log with read := log.read ++ [b] }
      | .bodyError _ => { log with failed := true }
      | .bodyEnd => { log with ended := true }
      | _ => log
  | .beforeChunk _ | .sentListeners _ => noteAnswer c log
  | .chunkListeners =>
      if x.rs.reallyNeedOnRequestBodyChunkSentToTarget then noteAnswer c log else log
  | .queueHead _ _ | .queueChunk _ | .queueEnd =>
      if x.rs.wssSendTask.closed then { log with failed := true } else log
  | _ => log

def noteUpload (x : Socket) (a : Label) (log : V3.UploadLog) : V3.UploadLog :=
  match a with
  | .task .sender c =>
      match (x.tasks .sender).head? with
      | some op => op.note x c log
      | none => log
  | _ => log

/-- The socket with the log of its upload. -/
def uploadMachine (dbg : DebugText) : Machine (Socket × V3.UploadLog) Label :=
  (socketMachine dbg).logged .empty noteUpload

theorem uploaded_sendData_of_not {rs : RouterSocketV1} {m : Message} (h : uploads m = false) :
    (rs.sendData m).uploaded = rs.uploaded := by
  cases hclosed : rs.wssSendTask.closed with
  | true => simp [RouterSocketV1.uploaded, RouterSocketV1.sendData, Chan.send_of_closed hclosed]
  | false =>
      simp [RouterSocketV1.uploaded, RouterSocketV1.sendData, Chan.send_sent_of_open hclosed, h]

theorem uploaded_sendData {rs : RouterSocketV1} {m : Message}
    (hopen : rs.wssSendTask.closed = false) (h : uploads m = true) :
    (rs.sendData m).uploaded = rs.uploaded ++ [m] := by
  simp [RouterSocketV1.uploaded, RouterSocketV1.sendData, Chan.send_sent_of_open hopen, h]

section Move

variable {x y : Socket} {op : Op} {more : List Op} {spawned : Option (Role × List Op)}

private theorem uploaded_collectErr (inClose : Bool) (ex : CrankerRouterException) :
    (x.collectErr inClose ex).rs.uploaded = x.rs.uploaded := by
  unfold Socket.collectErr
  split <;> rfl

/-- Only the sender queues messages of the upload. -/
theorem Move.uploaded (h : Move dbg x op y more spawned) (hop : op.group ≠ .sender) :
    y.rs.uploaded = x.rs.uploaded := by
  cases h with
  | senderQueues op next m hsender hnext => exact absurd hsender hop
  | ponged ping => exact uploaded_sendData_of_not rfl
  | queueClose frame => exact uploaded_sendData_of_not rfl
  | errorLost crex inClose hclosed => exact uploaded_collectErr inClose _
  | completeFails listener inClose crex => exact uploaded_collectErr inClose crex
  | _ => rfl

/-- The operations before the sender is spawned. -/
def Op.starts : Op → Bool
  | .checkRemoved _ _ | .storeStart _ _ | .beforeProxyToTarget _ _ => true
  | _ => false

theorem Move.starts_of_mem {o : Op} (h : Move dbg x op y more spawned) (ho : o ∈ more)
    (hstarts : o.starts = true) : op.starts = true ∧ more = [o] ∧ spawned = none := by
  have hgroup : op.group = .handler := by
    have ho' : o.group = .handler := by
      cases o <;> first | rfl | cases hstarts
    obtain hgroup | hgroup := h.group_of_mem ho
    · exact hgroup.symm.trans ho'
    · cases ho'.symm.trans hgroup
  cases h with
  | admitted text hasBody =>
      obtain rfl := List.mem_singleton.mp ho
      exact ⟨rfl, rfl, rfl⟩
  | storeStart text hasBody =>
      obtain rfl := List.mem_singleton.mp ho
      exact ⟨rfl, rfl, rfl⟩
  | headerTaken next hnext =>
      obtain rfl := List.mem_singleton.mp ho
      obtain rfl | ⟨content, rfl⟩ := hnext <;> cases hstarts
  | built | portalSilent => cases ho
  | removed | proxied | refused | responded | buildFails | portalRaises | senderFails | recvFails =>
      obtain rfl := List.mem_singleton.mp ho
      cases hstarts
  | senderGoes op next hop hnext => cases hop.symm.trans hgroup
  | senderQueues op next m hop hnext => cases hop.symm.trans hgroup
  | _ => cases hgroup

end Move

/-! ### The sender and what it follows -/

/-- Where the sender stands when an operation is its next one. -/
def At (s : Sender Message Bytes) : Op → Prop
  | .queueHead text hasBody => s.phase = .head [.text text] ∧ s.log.hasBody = hasBody
  | .nextChunk => s.phase = .reading
  | .beforeChunk chunk | .sentListeners chunk | .queueChunk chunk => s.phase = .holding chunk
  | .chunkListeners => s.phase = .sent
  | .queueEnd => s.phase = .ending
  | .afterSent => s.phase = .done
  | _ => s.phase = .idle

/-- The operations by which the sender goes on: one of its own, or those of `on_error`. -/
inductive GoesOn (s : Sender Message Bytes) : List Op → Prop
  | on (op : Op) (hop : op.group = .sender) (hat : At s op) : GoesOn s [op]
  | off (ops : List Op) (hops : ∀ o ∈ ops, o.group = .shared)
      (hrests : s.phase = .idle ∨ s.phase = .done ∨ s.phase = .failed) : GoesOn s ops

def Answers (s : Sender Message Bytes) (log : V3.UploadLog) (queued : List Message)
    (more : List Op) : Prop :=
  ∃ s', (Sender.machine Message.binary endMessage).Reach Machine.anyAction s s' ∧
    log = s'.log ∧ queued = s'.queued ∧ GoesOn s' more

section Answers

variable {x y : Socket} {s s' : Sender Message Bytes} {c : Choice} {op : Op} {more : List Op}
  {log : V3.UploadLog} {queued : List Message} {spawned : Option (Role × List Op)}

theorem Answers.one (a : SendAct Message Bytes)
    (h : Sender.step Message.binary endMessage s a = some s') (hlog : log = s'.log)
    (hqueued : queued = s'.queued) (hmore : GoesOn s' more) : Answers s log queued more :=
  ⟨s', Machine.reach_one h, hlog, hqueued, hmore⟩

theorem Answers.fails {crex : CrankerRouterException}
    (h : Sender.step Message.binary endMessage s .fail =
      some { s with phase := .failed, log := { s.log with failed := true } }) :
    Answers s { s.log with failed := true } s.queued [.onError crex false] :=
  .one .fail h rfl rfl (.off _ (by simp [Op.group]) (.inr (.inr rfl)))

private theorem answers_queue {m : Message} {reason : String} {next : List Op}
    (hout : queueOrFail dbg x m reason next = (y, more, spawned)) (hqueued : x.rs.uploaded = s.queued)
    (hm : uploads m = true)
    (hfail : Sender.step Message.binary endMessage s .fail =
      some { s with phase := .failed, log := { s.log with failed := true } })
    (hqueue : (Sender.machine Message.binary endMessage).Reach Machine.anyAction s s')
    (hlog : s'.log = s.log) (hadd : s'.queued = s.queued ++ [m]) (hnext : GoesOn s' next) :
    Answers s (if x.rs.wssSendTask.closed then { s.log with failed := true } else s.log)
      y.rs.uploaded more := by
  unfold queueOrFail at hout
  cases hclosed : x.rs.wssSendTask.closed with
  | true =>
      rw [if_pos hclosed] at hout
      cases hout
      rw [hqueued]
      exact .fails hfail
  | false =>
      rw [if_neg (by simp [hclosed])] at hout
      cases hout
      refine ⟨s', hqueue, hlog.symm, ?_, hnext⟩
      rw [uploaded_sendData hclosed hm, hqueued, hadd]

private theorem answers_fallible {next : Op}
    (hout : fallible x c [next] = some (y, more, spawned)) (hqueued : x.rs.uploaded = s.queued)
    (hfail : Sender.step Message.binary endMessage s .fail =
      some { s with phase := .failed, log := { s.log with failed := true } })
    (hreach : (Sender.machine Message.binary endMessage).Reach Machine.anyAction s s')
    (hlog : s'.log = s.log) (hqueued' : s'.queued = s.queued) (hnext : GoesOn s' [next]) :
    Answers s (noteAnswer c s.log) y.rs.uploaded more := by
  unfold fallible at hout
  split at hout <;> cases hout
  · exact ⟨s', hreach, hlog.symm, hqueued.trans hqueued'.symm, hnext⟩
  · rw [hqueued]
    exact .fails hfail

private theorem sender_answers (hop : op.group = .sender) (hat : At s op)
    (hqueued : x.rs.uploaded = s.queued)
    (hrun : execSender dbg x c op = some (y, more, spawned)) :
    Answers s (op.note x c s.log) y.rs.uploaded more := by
  obtain ⟨phase, log, queued⟩ := s
  cases op with
  | storeCanSend text hasBody =>
      obtain rfl : phase = .idle := hat
      cases hrun
      exact .one (.start _ hasBody) rfl rfl hqueued (.on _ rfl ⟨rfl, rfl⟩)
  | queueHead text hasBody =>
      obtain ⟨rfl, hbody⟩ : phase = .head [.text text] ∧ log.hasBody = hasBody := hat
      subst hbody
      have hhead : (Sender.machine Message.binary endMessage).Reach Machine.anyAction
          ⟨.head [.text text], log, queued⟩ ⟨.head [], log, queued ++ [.text text]⟩ :=
        Machine.reach_one (a := .queue) rfl
      refine answers_queue (Option.some.inj hrun) hqueued rfl rfl
        (hhead.trans (Machine.reach_one (a := .body) rfl)) rfl rfl ?_
      cases log.hasBody
      · exact .on .afterSent rfl rfl
      · exact .on .nextChunk rfl rfl
  | nextChunk =>
      obtain rfl : phase = .reading := hat
      cases c <;> cases hrun
      · exact .one (.read _) rfl rfl hqueued (.on _ rfl rfl)
      · exact hqueued ▸ .fails rfl
      · exact .one .finish rfl rfl hqueued (.on _ rfl rfl)
  | beforeChunk chunk =>
      obtain rfl : phase = .holding chunk := hat
      exact answers_fallible hrun hqueued rfl .refl rfl rfl (.on _ rfl rfl)
  | sentListeners chunk =>
      obtain rfl : phase = .holding chunk := hat
      exact answers_fallible hrun hqueued rfl .refl rfl rfl (.on _ rfl rfl)
  | queueChunk chunk =>
      obtain rfl : phase = .holding chunk := hat
      exact answers_queue (Option.some.inj hrun) hqueued rfl rfl
        (Machine.reach_one (a := .queue) rfl) rfl rfl (.on _ rfl rfl)
  | chunkListeners =>
      obtain rfl : phase = .sent := hat
      simp only [execSender] at hrun
      cases hneed : x.rs.reallyNeedOnRequestBodyChunkSentToTarget with
      | true =>
          rw [if_pos hneed] at hrun
          rw [Op.note, if_pos hneed]
          exact answers_fallible hrun hqueued rfl (Machine.reach_one (a := .accept) rfl) rfl rfl
            (.on _ rfl rfl)
      | false =>
          rw [if_neg (by simp [hneed])] at hrun
          cases hrun
          rw [Op.note, if_neg (by simp [hneed])]
          exact .one .accept rfl rfl hqueued (.on _ rfl rfl)
  | queueEnd =>
      obtain rfl : phase = .ending := hat
      exact answers_queue (Option.some.inj hrun) hqueued rfl rfl
        (Machine.reach_one (a := .queue) rfl) rfl rfl (.on _ rfl rfl)
  | afterSent =>
      obtain rfl : phase = .done := hat
      obtain ⟨rfl, rfl, rfl | ⟨crex, rfl⟩⟩ := fallible_cases hrun
      · exact ⟨_, .refl, rfl, hqueued, .off _ (by simp) (.inr (.inl rfl))⟩
      · exact ⟨_, .refl, rfl, hqueued, .off _ (by simp [Op.group]) (.inr (.inl rfl))⟩
  | _ => cases hop

end Answers

/-- The sender of the socket and the abstract sender. -/
structure Follows (x : Socket × V3.UploadLog) (s : Sender Message Bytes) : Prop where
  fits : Fits x.1
  log : x.2 = s.log
  queued : x.1.rs.uploaded = s.queued
  place : GoesOn s (x.1.tasks .sender)
  fresh : x.1.served = false → x.1.tasks .handler = [] ∧ x.1.tasks .sender = [] ∧ s.phase = .idle
  starting : ∀ o ∈ x.1.tasks .handler, o.starts = true →
    x.1.tasks .handler = [o] ∧ x.1.tasks .sender = [] ∧ s.phase = .idle

private theorem Op.note_of_shared {x : Socket} {c : Choice} {log : V3.UploadLog} {op : Op}
    (h : op.group = .shared) : op.note x c log = log := by
  cases op <;> first | rfl | cases h

section Step

variable {x y z : Socket} {a : Label} {log : V3.UploadLog} {s : Sender Message Bytes} {op : Op}
  {rest more : List Op} {spawned : Option (Role × List Op)}

theorem Follows.of_same (hF : Follows (x, log) s) (hfits : Fits y)
    (hqueued : y.rs.uploaded = x.rs.uploaded) (hsender : y.tasks .sender = x.tasks .sender)
    (hserved : y.served = false → x.served = false ∧ y.tasks .handler = x.tasks .handler)
    (hhandler : ∀ o ∈ y.tasks .handler, o.starts = true →
      y.tasks .handler = [o] ∧ (x.served = false ∨ ∃ o' ∈ x.tasks .handler, o'.starts = true)) :
    Follows (y, log) s := by
  refine ⟨hfits, hF.log, hqueued.trans hF.queued, hsender ▸ hF.place, ?_, ?_⟩
  · intro h
    obtain ⟨hx, htasks⟩ := hserved h
    rw [htasks, hsender]
    exact hF.fresh hx
  · intro o ho hstarts
    obtain ⟨hsingle, hnew | ⟨o', ho', hstarts'⟩⟩ := hhandler o ho hstarts
    · have hfresh := hF.fresh hnew
      exact ⟨hsingle, hsender ▸ hfresh.2.1, hfresh.2.2⟩
    · have hold := hF.starting o' ho' hstarts'
      exact ⟨hsingle, hsender ▸ hold.2.1, hold.2.2⟩

private theorem Follows.senderStep (hF : Follows (x, log) s) {c : Choice}
    (hops : x.tasks .sender = op :: rest) (hexec : op.exec dbg x c = some (y, more, spawned)) :
    ∃ s', (Sender.machine Message.binary endMessage).Reach Machine.anyAction s s' ∧
      Follows ((y.setTask .sender (more ++ rest)).spawn spawned, op.note x c log) s' := by
  have hmove := move_of_exec hexec
  have hframe := hmove.frame
  have hfits : op.fits .sender = true := hF.fits .sender op (by simp [hops])
  obtain rfl : spawned = none := by
    obtain hnone | ⟨text, hasBody, rfl, -⟩ | ⟨content, rfl, -⟩ := hmove.spawned_cases
    · exact hnone
    · cases hfits
    · cases hfits
  have hplace := hF.place
  simp only [hops] at hplace
  -- the sender has work, so the request is past its start
  have hserved : x.served = true := by
    by_contra h
    have hnil := (hF.fresh (by simpa using h)).2.1
    simp only [hops] at hnil
    cases hnil
  have hstart : ∀ o ∈ x.tasks .handler, o.starts = false := by
    intro o ho
    by_contra h
    have hnil := (hF.starting o ho (by simpa using h)).2.1
    simp only [hops] at hnil
    cases hnil
  have hkeep : ∀ {s' : Sender Message Bytes} {log' : V3.UploadLog}, log' = s'.log →
      y.rs.uploaded = s'.queued → GoesOn s' (more ++ rest) →
      Follows (y.setTask .sender (more ++ rest), log') s' := by
    intro s' log' hlog hqueued hgoes
    have hhandler : (y.setTask .sender (more ++ rest)).tasks .handler = x.tasks .handler := by
      simp [Socket.setTask, hframe.tasks]
    refine ⟨?_, hlog, hqueued, by simpa [Socket.setTask] using hgoes, ?_, ?_⟩
    · have hy : Fits y := fun role o ho => hF.fits role o (by simpa [hframe.tasks] using ho)
      refine hy.setTask fun o ho => ?_
      obtain ho | ho := List.mem_append.mp ho
      · exact hmove.fits_of_mem hfits ho
      · exact hF.fits .sender o (by simp [hops, ho])
    · intro h
      simp [Socket.setTask, hframe.served, hserved] at h
    · intro o ho hstarts
      rw [hhandler] at ho
      simp [hstart o ho] at hstarts
  obtain rfl : log = s.log := hF.log
  cases hplace with
  | on op hop hat =>
      have hrun : execSender dbg x c op = some (y, more, none) := by simpa [Op.exec, hop] using hexec
      obtain ⟨s', hreach, hlog, hqueued, hgoes⟩ := sender_answers hop hat hF.queued hrun
      exact ⟨s', hreach, hkeep hlog hqueued (by simpa using hgoes)⟩
  | off ops hshared hrests =>
      have hop : op.group = .shared := hshared op (by simp)
      refine ⟨s, .refl, hkeep (Op.note_of_shared hop) ?_ (.off _ ?_ hrests)⟩
      · rw [hmove.uploaded (by simp [hop])]
        exact hF.queued
      · intro o ho
        obtain ho | ho := List.mem_append.mp ho
        · exact (hmove.group_of_mem ho).elim (fun h => h.trans hop) id
        · exact hshared o (by simp [ho])

private theorem Follows.otherStep (hF : Follows (x, log) s) {role : Role} (hrole : role ≠ .sender)
    (hops : x.tasks role = op :: rest) (hmove : Move dbg x op y more spawned)
    (hfits : Fits ((y.setTask role (more ++ rest)).spawn spawned)) :
    Follows ((y.setTask role (more ++ rest)).spawn spawned, log) s := by
  have hframe := hmove.frame
  have hop : op.fits role = true := hF.fits role op (by simp [hops])
  have hgroup : op.group ≠ .sender := by
    intro h
    cases role <;> first | exact hrole rfl | simp [Op.fits, h] at hop
  have hqueued : y.rs.uploaded = x.rs.uploaded := hmove.uploaded hgroup
  have hspawn := hmove.spawned_cases
  by_cases hsender : ∃ text hasBody, op = .beforeProxyToTarget text hasBody ∧
      spawned = some (.sender, [.storeCanSend text hasBody])
  · -- the handler, which has nothing else to do, starts the sender
    obtain ⟨text, hasBody, rfl, rfl⟩ := hsender
    obtain rfl : role = .handler := by cases role <;> first | rfl | cases hop
    obtain ⟨hsingle, hnil, hidle⟩ := hF.starting (.beforeProxyToTarget text hasBody)
      (by simp [hops]) rfl
    simp only [hops, List.cons.injEq, true_and] at hsingle
    subst hsingle
    cases hmove with
    | proxied =>
        refine ⟨hfits, hF.log, hF.queued, .on _ rfl hidle, ?_, ?_⟩
        · intro h
          have hhandler := (hF.fresh h).1
          simp only [hops] at hhandler
          cases hhandler
        · intro o ho hstarts
          obtain rfl : o = .recvHeader := by simpa [Socket.spawn, Socket.setTask] using ho
          cases hstarts
  · have hkeeps : ∀ role', role' = .sender ∨ role' = .handler →
        ((y.setTask role (more ++ rest)).spawn spawned).tasks role' =
          if role' = role then more ++ rest else x.tasks role' := by
      intro role' hrole'
      obtain rfl | ⟨text, hasBody, rfl, rfl⟩ | ⟨content, rfl, rfl⟩ := hspawn
      · by_cases h : role' = role <;> simp [Socket.spawn, Socket.setTask, h, hframe.tasks]
      · exact absurd ⟨text, hasBody, rfl, rfl⟩ hsender
      · have hw : role' ≠ .watcher := by
          obtain rfl | rfl := hrole' <;> decide
        by_cases h : role' = role
        · subst h
          simp [Socket.spawn, Socket.setTask, hw]
        · simp [Socket.spawn, Socket.setTask, h, hw, hframe.tasks]
    have hrs : ((y.setTask role (more ++ rest)).spawn spawned).rs = y.rs := by
      cases spawned <;> rfl
    have hserved : ((y.setTask role (more ++ rest)).spawn spawned).served = x.served := by
      rw [← hframe.served]
      cases spawned <;> rfl
    refine hF.of_same hfits (by rw [hrs, hqueued]) ?_ ?_ ?_
    · rw [hkeeps .sender (.inl rfl), if_neg (Ne.symm hrole)]
    · intro h
      rw [hserved] at h
      refine ⟨h, ?_⟩
      have hnil := (hF.fresh h).1
      rw [hkeeps .handler (.inr rfl), if_neg]
      rintro rfl
      simp only [hops] at hnil
      cases hnil
    · intro o ho hstarts
      rw [hkeeps .handler (.inr rfl)] at ho ⊢
      by_cases hh : Role.handler = role
      · subst hh
        rw [if_pos rfl] at ho ⊢
        have hsingle : ∀ o ∈ op :: rest, o.starts = true → op :: rest = [o] := by
          intro o ho hstarts
          have hold := (hF.starting o (by simpa [hops] using ho) hstarts).1
          simpa only [hops] using hold
        obtain ho | ho := List.mem_append.mp ho
        · obtain ⟨hopstarts, hmore, -⟩ := hmove.starts_of_mem ho hstarts
          have hrest := hsingle op (by simp) hopstarts
          simp only [List.cons.injEq, true_and] at hrest
          exact ⟨by simp [hmore, hrest], .inr ⟨op, by simp [hops], hopstarts⟩⟩
        · have hrest := hsingle o (by simp [ho]) hstarts
          simp only [List.cons.injEq] at hrest
          simp [hrest.2] at ho
      · rw [if_neg hh] at ho ⊢
        exact ⟨(hF.starting o ho hstarts).1, .inr ⟨o, ho, hstarts⟩⟩

theorem Follows.step (hF : Follows (x, log) s) (h : step dbg x a = some y) :
    ∃ s', (Sender.machine Message.binary endMessage).Reach Machine.anyAction s s' ∧
      Follows (y, noteUpload x a log) s' := by
  have hfits := hF.fits.step h
  by_cases hsender : ∃ c op rest, a = .task .sender c ∧ x.tasks .sender = op :: rest
  · obtain ⟨c, op, rest, rfl, hops⟩ := hsender
    simp only [V1.step, hops] at h
    obtain ⟨⟨z, more, spawned⟩, hexec, rfl⟩ := Option.map_eq_some_iff.mp h
    simp only [noteUpload, hops, List.head?_cons]
    exact hF.senderStep hops hexec
  · have hlog : noteUpload x a log = log := by
      unfold noteUpload
      split
      · split
        · rename_i c _ op hhead
          obtain ⟨rest, hops⟩ := List.head?_eq_some_iff.mp hhead
          exact absurd ⟨c, op, rest, rfl, hops⟩ hsender
        · rfl
      · rfl
    rw [hlog]
    refine ⟨s, .refl, ?_⟩
    have hstarting : ∀ o ∈ x.tasks .handler, o.starts = true → x.tasks .handler = [o] ∧
        (x.served = false ∨ ∃ o' ∈ x.tasks .handler, o'.starts = true) :=
      fun o ho hstarts => ⟨(hF.starting o ho hstarts).1, .inr ⟨o, ho, hstarts⟩⟩
    cases stepCases h with
    | @task role c op rest more z spawned hops hmove =>
        have hrole : role ≠ .sender := by
          rintro rfl
          exact hsender ⟨c, op, rest, rfl, hops⟩
        exact hF.otherStep hrole hops hmove hfits
    | request text hasBody hserved =>
        refine hF.of_same hfits rfl rfl (fun h => by cases h) ?_
        intro o ho hstarts
        obtain rfl : o = .checkRemoved text hasBody := by simpa [Socket.setTask] using ho
        exact ⟨by simp [Socket.setTask], .inl hserved⟩
    | receive a op hop hidle => exact hF.of_same hfits rfl rfl (fun h => ⟨h, rfl⟩) hstarting
    | close frame hidle => exact hF.of_same hfits rfl rfl (fun h => ⟨h, rfl⟩) hstarting
    | endRecv a errs herrs hidle => exact hF.of_same hfits rfl rfl (fun h => ⟨h, rfl⟩) hstarting
    | idleTimeout hopen => exact hF.of_same hfits rfl rfl (fun h => ⟨h, rfl⟩) hstarting
    | ping =>
        exact hF.of_same hfits (uploaded_sendData_of_not rfl) rfl (fun h => ⟨h, rfl⟩) hstarting
    | dropHandler hdrop =>
        refine hF.of_same hfits rfl rfl ?_ ?_
        · intro h
          have hnil := (hF.fresh h).1
          simp [hdrop] at hnil
        · intro o ho
          simp [Socket.setTask] at ho
    | dropStream => exact hF.of_same hfits rfl rfl (fun h => ⟨h, rfl⟩) hstarting
    | setRemoved => exact hF.of_same hfits rfl rfl (fun h => ⟨h, rfl⟩) hstarting
    | tick now hnow => exact hF.of_same hfits rfl rfl (fun h => ⟨h, rfl⟩) hstarting

end Step

/-- The upload of the request is one of an abstract sender. -/
theorem exists_sender {x : Socket × V3.UploadLog}
    (h : (uploadMachine dbg).Reachable Machine.anyAction x) :
    ∃ s, (Sender.machine Message.binary endMessage).Reachable Machine.anyAction s ∧ Follows x s := by
  refine h.simulates (R := Follows) ?_ ?_
  · rintro ⟨x, log⟩ ⟨⟨n, need, need', now, -, rfl⟩, rfl⟩
    refine ⟨_, rfl, ?_, rfl, rfl, .off _ (by simp [Socket.new]) (.inl rfl), fun _ => ⟨rfl, rfl, rfl⟩, ?_⟩
    · intro role o ho
      cases role <;> simp [Socket.new] at ho
      subst ho
      rfl
    · intro o ho
      simp [Socket.new] at ho
  · rintro ⟨x, log⟩ a ⟨y, log'⟩ s hF - hstep
    obtain ⟨hstep, rfl⟩ := Machine.logged_step hstep
    exact hF.step hstep

/-- At any time of any run, the messages queued for the target report the body. -/
theorem upload_reported {x : Socket × V3.UploadLog}
    (h : (uploadMachine dbg).Reachable Machine.anyAction x) :
    x.2.Reported Message.binary endMessage x.1.rs.uploaded (.nextChunk ∈ x.1.tasks .sender)
      (∀ o ∈ x.1.tasks .sender, o.group ≠ .sender) := by
  obtain ⟨s, hs, hF⟩ := exists_sender h
  rw [hF.log, hF.queued]
  refine (Sender.progress_of_reachable hs).reported ?_ ?_
  · intro hmem
    have hplace := hF.place
    generalize x.1.tasks .sender = ops at hplace hmem
    cases hplace with
    | on op hop hat =>
        obtain rfl := List.mem_singleton.mp hmem
        exact hat
    | off ops hshared hrests => cases hshared _ hmem
  · intro hnone
    have hplace := hF.place
    generalize x.1.tasks .sender = ops at hplace hnone
    cases hplace with
    | on op hop hat => exact absurd hop (hnone op (by simp))
    | off ops hshared hrests => exact hrests

/-- In both protocol versions, at any time of any run, the messages queued for a request report
its body. -/
theorem upload_reports_body (dbg : DebugText) (overflowChecks : Bool) :
    (∀ x, (V3.uploadMachine dbg overflowChecks).Reachable Machine.anyAction x → ∀ r,
      (x.2 r).Reported (V3.chunkMessage r) (V3.endMessage r) (x.1.shared.rs.uploaded r)
        (V3.Pending r .nextChunk x.1) (∀ o, ¬ V3.Pending r o x.1)) ∧
    ∀ x, (uploadMachine dbg).Reachable Machine.anyAction x →
      x.2.Reported Message.binary endMessage x.1.rs.uploaded (.nextChunk ∈ x.1.tasks .sender)
        (∀ o ∈ x.1.tasks .sender, o.group ≠ .sender) :=
  ⟨fun _ hx r => V3.upload_reported r hx, fun _ hx => upload_reported hx⟩

private theorem init_unlogged : (uploadMachine plainText).init (freshSocket, .empty) :=
  ⟨init_freshSocket, rfl⟩

private theorem init_unlogged_v3 :
    (V3.uploadMachine plainText false).init (V3.freshSocket, fun _ => .empty) :=
  ⟨V3.init_freshSocket false, rfl⟩

/-- A V3 request whose sender has queued the head. -/
def headQueued : List V3.Label :=
  .request "POST / HTTP/1.1\n\n" true ::
    List.flatten [List.replicate 3 (.task 0 .go), [.task 0 (.answer none)],
      List.replicate 6 (.task 1 .go)]

/-- The upload of one chunk. -/
def oneChunkV3 : V3.SocketPool × (V3.ReqId → V3.UploadLog) :=
  (V3.uploadMachine plainText false).run Machine.anyAction (V3.freshSocket, fun _ => .empty)
    (List.flatten [headQueued, [.task 1 (.chunk [1, 2]), .task 1 (.answer none)],
      List.replicate 3 (.task 1 .go), [.task 1 (.answer none), .task 1 .go, .task 1 .bodyEnd,
        .task 1 .go, .task 1 (.answer none)]])

def oneChunkV1 : Socket × V3.UploadLog :=
  (uploadMachine plainText).run Machine.anyAction (freshSocket, .empty)
    [.request "POST / HTTP/1.1\n_1" true, .task .handler .go, .task .handler .go,
      .task .handler (.answer none), .task .sender .go, .task .sender .go,
      .task .sender (.chunk [1, 2]), .task .sender (.answer none), .task .sender (.answer none),
      .task .sender .go, .task .sender .go, .task .sender .bodyEnd, .task .sender .go,
      .task .sender (.answer none)]

theorem upload_reports_body_oneChunk :
    oneChunkV3.1.shared.rs.uploaded 1 =
      V3.headMessages 1 true "POST / HTTP/1.1\n\n" ++ [V3.chunkMessage 1 [1, 2]] ++
        [V3.endMessage 1] ∧
    oneChunkV1.1.rs.uploaded =
      [.text "POST / HTTP/1.1\n_1", .binary [1, 2], .text "_3"] := by
  obtain ⟨hV3, hV1⟩ := upload_reports_body plainText false
  constructor
  · have hreport := hV3 oneChunkV3
      (Machine.reachable_run _ _ init_unlogged_v3 _) 1
    have hlists : V3.lists oneChunkV3.1 = [[], [.request 1 .recvHeader], []] := by decide +kernel
    have hreturned : ∀ o, ¬ V3.Pending 1 o oneChunkV3.1 := by
      rintro o ⟨l, hl, ho⟩
      rw [hlists] at hl
      simp only [List.mem_cons, List.not_mem_nil, or_false] at hl
      obtain rfl | rfl | rfl := hl <;> simp at ho
    have hmarked := (hreport.marked hreturned (by decide +kernel)).mpr (by decide +kernel)
    rw [hmarked]
    decide +kernel
  · have hreport := hV1 oneChunkV1 (Machine.reachable_run _ _ init_unlogged _)
    have hreturned : ∀ o ∈ oneChunkV1.1.tasks .sender, o.group ≠ .sender := by decide +kernel
    have hmarked := (hreport.marked hreturned (by decide +kernel)).mpr (by decide +kernel)
    rw [hmarked]
    decide +kernel

/-- A listener refuses the first chunk: it was read, and only the head is queued. -/
def refusedChunk : V3.SocketPool × (V3.ReqId → V3.UploadLog) :=
  (V3.uploadMachine plainText false).run Machine.anyAction (V3.freshSocket, fun _ => .empty)
    (headQueued ++ [.task 1 (.chunk [1, 2]), .task 1 (.answer (some (.new "refused")))])

theorem refused_chunk_not_queued :
    (V3.uploadMachine plainText false).Reachable Machine.anyAction refusedChunk ∧
    (refusedChunk.2 1).read = [[1, 2]] ∧
    refusedChunk.1.shared.rs.uploaded 1 = (refusedChunk.2 1).head ∧
    refusedChunk.1.shared.rs.uploaded 1 ≠
      (refusedChunk.2 1).head ++ (refusedChunk.2 1).read.map (V3.chunkMessage 1) := by
  refine ⟨Machine.reachable_run _ _ init_unlogged_v3 _, ?_⟩
  decide +kernel

end CrankerRouter.V1
