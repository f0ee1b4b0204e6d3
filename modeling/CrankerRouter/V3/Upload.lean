import CrankerRouter.Lib.Sender
import CrankerRouter.V3.Requests

/-!
# What an upload queues

The DATA and HEADER frames of a request are queued by its sender alone, one at a time.  The sender
follows the steps of `Lib.Sender`, whatever the other tasks and the connector do meanwhile; a log
beside the machine records what the client sent and what failed.
-/

namespace CrankerRouter.V3

open Lib

variable {dbg : DebugText} {overflowChecks : Bool} {r : ReqId}

/-- A frame of the upload of a request. -/
def uploads (r : ReqId) (m : Message) : Bool :=
  isFor messageTypeData r m || isFor messageTypeHeader r m

def RouterSocketV3.uploaded (rs : RouterSocketV3) (r : ReqId) : List Message :=
  rs.wssSendTask.sent.filter (uploads r)

def chunkMessage (r : ReqId) (chunk : Bytes) : Message := .binary (dataMessages r false (some chunk))

/-- The empty DATA frame with END_STREAM. -/
def endMessage (r : ReqId) : Message := .binary (dataMessages r true none)

def partMessage (r : ReqId) (hasBody : Bool) (part : Bool × String) : Message :=
  .binary (headerMessage r part.1 (!hasBody) part.2)

def headMessages (r : ReqId) (hasBody : Bool) (text : String) : List Message :=
  (headerParts true text).map (partMessage r hasBody)

abbrev UploadLog := SendLog Message Bytes

/-- What an operation of the sender adds to the log: the chunk or the end it read, the listener
call or the send that failed. -/
def UploadOp.note (queueClosed : Bool) (r : ReqId) (c : Choice) (log : UploadLog) :
    UploadOp → UploadLog
  | .storeCanSend text hasBody =>
      { log with head := headMessages r hasBody text, hasBody := hasBody }
  | .nextChunk =>
      match c with
      | .chunk b => { log with read := log.read ++ [b] }
      | .bodyError _ => { log with failed := true }
      | .bodyEnd => { log with ended := true }
      | _ => log
  | .beforeChunk _ | .chunkListeners =>
      match c with
      | .answer (some _) => { log with failed := true }
      | _ => log
  | .queueHeader _ _ _ _ | .queueChunk _ | .queueEnd =>
      if queueClosed then { log with failed := true } else log
  | _ => log

def noteUpload (p : SocketPool) (a : Label) (logs : ReqId → UploadLog) : ReqId → UploadLog :=
  match (a.ops p).head? with
  | some (.upload r o) =>
      Function.update logs r (o.note p.shared.rs.wssSendTask.closed r a.choice (logs r))
  | _ => logs

/-- The socket with the logs of its uploads. -/
def uploadMachine (dbg : DebugText) (overflowChecks : Bool) :
    Machine (SocketPool × (ReqId → UploadLog)) Label :=
  (socketMachine dbg overflowChecks).logged (fun _ => .empty) noteUpload

/-! ### Frames of other kinds and of other requests -/

theorem uploads_frame (type flags : UInt8) (r r' : ReqId) (payload : Bytes) :
    uploads r (.binary (frame type flags r' payload)) =
      ((type == messageTypeData || type == messageTypeHeader) && r' == r) := by
  simp only [uploads, isFor_frame]
  cases type == messageTypeData <;> cases type == messageTypeHeader <;> cases r' == r <;> rfl

theorem uploaded_sendData_of_not {rs : RouterSocketV3} {m : Message} (h : uploads r m = false) :
    (rs.sendData m).uploaded r = rs.uploaded r := by
  cases hclosed : rs.wssSendTask.closed with
  | true => simp [RouterSocketV3.uploaded, Chan.send_of_closed hclosed]
  | false => simp [RouterSocketV3.uploaded, Chan.send_sent_of_open hclosed, h]

theorem uploaded_sendData {rs : RouterSocketV3} {m : Message}
    (hopen : rs.wssSendTask.closed = false) (h : uploads r m = true) :
    (rs.sendData m).uploaded r = rs.uploaded r ++ [m] := by
  simp [RouterSocketV3.uploaded, Chan.send_sent_of_open hopen, h]

private theorem uploaded_of_queue {rs rs' : RouterSocketV3}
    (h : rs'.wssSendTask.sent = rs.wssSendTask.sent) : rs'.uploaded r = rs.uploaded r := by
  rw [RouterSocketV3.uploaded, RouterSocketV3.uploaded, h]

/-- The operations that decide how the upload of a request goes on. -/
def Op.drives (r : ReqId) : Op → Bool
  | .request r' (.insertCtx _ _) | .request r' (.beforeProxyToTarget _ _) => r' == r
  | .upload r' o => r' == r && !o.simple
  | _ => false

theorem NotifyOp.uploaded (rs : RouterSocketV3) (r' : ReqId) (o : NotifyOp) :
    (o.run rs r').1.uploaded r = rs.uploaded r := by
  cases o with
  | queueRst errCode msg => exact uploaded_sendData_of_not (by rw [rstMessage, uploads_frame]; rfl)
  | raiseCompletion => exact uploaded_of_queue (by simp [NotifyOp.run])
  | _ => rfl

theorem FrameMove.uploaded {rs rs' : RouterSocketV3} {r' : ReqId} {o : FrameOp} {more : List Op}
    (h : FrameMove dbg rs r' o rs' more) : rs'.uploaded r = rs.uploaded r := by
  cases h with
  | credit o len ho =>
      exact uploaded_sendData_of_not (by rw [chunkCredit, windowUpdateMessage, uploads_frame]; rfl)
  | _ => rfl

theorem UploadMove.uploaded {rs rs' : RouterSocketV3} {r' : ReqId} {o : UploadOp} {more : List Op}
    (h : UploadMove rs r' o rs' more) (hop : (Op.upload r' o).drives r = false) :
    rs'.uploaded r = rs.uploaded r := by
  cases h with
  | queues o type flags payload htype us hus ho =>
      have hne : (r' == r) = false := by simpa [Op.drives, ho] using hop
      exact uploaded_sendData_of_not (by simp [uploads_frame, hne])
  | _ => rfl

theorem SocketMove.uploaded {rs rs' : RouterSocketV3} {o : SocketOp} {more : List Op}
    (h : SocketMove rs o rs' more) : rs'.uploaded r = rs.uploaded r := by
  cases h with
  | generalError crex rs' hrs => obtain rfl | rfl := hrs <;> rfl
  | _ => rfl

/-- Only the sender of a request queues frames of its upload. -/
theorem Move.uploaded {x y : Shared} {op : Op} {more : List Op} {ts : List Task}
    (h : Move dbg x op y more ts) (hop : op.drives r = false) :
    y.rs.uploaded r = x.rs.uploaded r := by
  cases h with
  | notify r' o => exact NotifyOp.uploaded _ _ _
  | frame r' o h => exact h.uploaded
  | upload r' o h => exact h.uploaded hop
  | socket o c h => exact (socketMove_of_run h).uploaded
  | _ => rfl

/-! ### The sender and what it follows -/

/-- Where the sender of a request stands when an operation is its next one. -/
def At (r : ReqId) (s : Sender Message Bytes) : Op → Prop
  | .upload _ (.uploadHeader parts hasBody) =>
      s.phase = .head (parts.map (partMessage r hasBody)) ∧ s.log.hasBody = hasBody
  | .upload _ (.queueHeader isHeaderEnd part parts hasBody) =>
      s.phase = .head (((isHeaderEnd, part) :: parts).map (partMessage r hasBody)) ∧
        s.log.hasBody = hasBody
  | .upload _ .nextChunk | .upload _ .flowControl | .upload _ .pushCallback
  | .upload _ (.awaitNotify _) => s.phase = .reading
  | .upload _ (.beforeChunk chunk) | .upload _ (.queueChunk chunk) => s.phase = .holding chunk
  | .upload _ .chunkListeners => s.phase = .sent
  | .upload _ .queueEnd => s.phase = .ending
  | .upload _ .afterSent => s.phase = .done
  | .upload _ (.senderError _) => s.phase = .done ∨ s.phase = .failed
  | _ => s.phase = .idle

/-- The phases in which no operation of the sender is left. -/
def Rests (s : Sender Message Bytes) : Prop :=
  s.phase = .idle ∨ s.phase = .done ∨ s.phase = .failed

/-- The operations by which the sender goes on, the last of them deciding. -/
inductive GoesOn (r : ReqId) (s : Sender Message Bytes) : List Op → Prop
  | on (us : List UploadOp) (d : Op) (hus : ∀ u ∈ us, u.simple = true)
      (hd : d.drives r = true) (hat : At r s d) : GoesOn r s (us.map (.upload r) ++ [d])
  | off (more : List Op) (hmore : ∀ o ∈ more, o.drives r = false) (hrests : Rests s) :
      GoesOn r s more

theorem GoesOn.upload {s : Sender Message Bytes} (us : List UploadOp) (d : UploadOp)
    (hus : ∀ u ∈ us, u.simple = true) (hd : d.simple = false) (hat : At r s (.upload r d)) :
    GoesOn r s (us.map (.upload r) ++ [.upload r d]) :=
  .on us (.upload r d) hus (by simp [Op.drives, hd]) hat

/-- The states of the sender that an operation can lead to. -/
def Answers (r : ReqId) (s : Sender Message Bytes) (log : UploadLog) (queued : List Message)
    (more : List Op) : Prop :=
  ∃ s', (Sender.machine (chunkMessage r) (endMessage r)).Reach Machine.anyAction s s' ∧
    log = s'.log ∧ queued = s'.queued ∧ GoesOn r s' more

theorem Answers.stay {s : Sender Message Bytes} (us : List UploadOp) (d : UploadOp)
    (hus : ∀ u ∈ us, u.simple = true) (hd : d.simple = false) (hat : At r s (.upload r d)) :
    Answers r s s.log s.queued (us.map (.upload r) ++ [.upload r d]) :=
  ⟨s, .refl, rfl, rfl, .upload us d hus hd hat⟩

theorem Answers.one {s s' : Sender Message Bytes} {log : UploadLog} {queued : List Message}
    {more : List Op} (a : SendAct Message Bytes)
    (h : Sender.step (chunkMessage r) (endMessage r) s a = some s') (hlog : log = s'.log)
    (hqueued : queued = s'.queued) (hmore : GoesOn r s' more) : Answers r s log queued more :=
  ⟨s', Machine.reach_one h, hlog, hqueued, hmore⟩

theorem Answers.fails {s : Sender Message Bytes} {crex : CrankerRouterException}
    (h : Sender.step (chunkMessage r) (endMessage r) s .fail =
      some { s with phase := .failed, log := { s.log with failed := true } }) :
    Answers r s { s.log with failed := true } s.queued [.upload r (.senderError crex)] :=
  .one .fail h rfl rfl (.upload [] _ (by simp) rfl (.inr rfl))

private theorem answers_uploadFrame {rs rs' : RouterSocketV3} {s s' : Sender Message Bytes}
    {f : Bytes}
    {next more : List Op} (hout : uploadFrame dbg rs r f next = (rs', more))
    (hqueued : rs.uploaded r = s.queued) (hf : uploads r (.binary f) = true)
    (hfail : Sender.step (chunkMessage r) (endMessage r) s .fail =
      some { s with phase := .failed, log := { s.log with failed := true } })
    (hqueue : Sender.step (chunkMessage r) (endMessage r) s .queue = some s')
    (hlog : s'.log = s.log) (hadd : s'.queued = s.queued ++ [.binary f]) (hnext : GoesOn r s' next) :
    Answers r s (if rs.wssSendTask.closed then { s.log with failed := true } else s.log)
      (rs'.uploaded r) more := by
  unfold uploadFrame at hout
  cases hclosed : rs.wssSendTask.closed with
  | true =>
      rw [if_pos hclosed] at hout
      cases hout
      rw [hqueued]
      exact .fails hfail
  | false =>
      rw [if_neg (by simp [hclosed])] at hout
      cases hout
      refine .one .queue hqueue hlog.symm ?_ hnext
      rw [uploaded_sendData hclosed hf, hqueued, hadd]

private theorem upload_answers {rs rs' : RouterSocketV3} {s : Sender Message Bytes} {o : UploadOp}
    {c : Choice} {more : List Op} (ho : o.simple = false) (hat : At r s (.upload r o))
    (hqueued : rs.uploaded r = s.queued) (hrun : o.run dbg rs r c = some (rs', more)) :
    Answers r s (o.note rs.wssSendTask.closed r c s.log) (rs'.uploaded r) more := by
  obtain ⟨phase, log, queued⟩ := s
  cases o with
  | incPending | addFromClient | writeItMaybe => cases ho
  | storeCanSend text hasBody =>
      obtain rfl : phase = .idle := hat
      cases hrun
      exact .one (.start _ hasBody) rfl rfl hqueued (.upload [] _ (by simp) rfl ⟨rfl, rfl⟩)
  | uploadHeader parts hasBody =>
      cases parts with
      | nil =>
          obtain ⟨rfl, rfl⟩ : phase = .head [] ∧ log.hasBody = hasBody := hat
          cases hrun
          refine .one .body rfl rfl hqueued ?_
          cases log.hasBody
          · exact .upload [] .afterSent (by simp) rfl (by simp [At])
          · exact .upload [] .nextChunk (by simp) rfl (by simp [At])
      | cons part parts =>
          cases hrun
          rw [hqueued]
          exact .stay [.incPending _] (.queueHeader part.1 part.2 parts hasBody)
            (by simp [UploadOp.simple]) rfl hat
  | queueHeader isHeaderEnd part parts hasBody =>
      obtain ⟨rfl, hbody⟩ : phase = .head (((isHeaderEnd, part) :: parts).map (partMessage r hasBody)) ∧
        log.hasBody = hasBody := hat
      refine answers_uploadFrame (Option.some.inj hrun) hqueued ?_ rfl rfl rfl rfl ?_
      · simp [headerMessage, uploads_frame]
      · exact .upload [.addFromClient _] _ (by simp [UploadOp.simple]) rfl ⟨rfl, hbody⟩
  | nextChunk =>
      obtain rfl : phase = .reading := hat
      cases c <;> cases hrun
      · exact .one (.read _) rfl rfl hqueued (.upload [] (.beforeChunk _) (by simp) rfl rfl)
      · exact hqueued ▸ .fails rfl
      · exact .one .finish rfl rfl hqueued (.upload [] .queueEnd (by simp) rfl rfl)
  | beforeChunk chunk =>
      obtain rfl : phase = .holding chunk := hat
      cases c <;> try cases hrun
      rename_i answer
      cases answer <;> cases hrun
      · exact hqueued ▸ .stay [.incPending _] (.queueChunk chunk) (by simp [UploadOp.simple]) rfl rfl
      · exact hqueued ▸ .fails rfl
  | queueChunk chunk =>
      obtain rfl : phase = .holding chunk := hat
      refine answers_uploadFrame (Option.some.inj hrun) hqueued ?_ rfl rfl rfl rfl ?_
      · simp [dataMessages, uploads_frame]
      · exact .upload [.addFromClient _] .chunkListeners (by simp [UploadOp.simple]) rfl rfl
  | chunkListeners =>
      obtain rfl : phase = .sent := hat
      cases c <;> try cases hrun
      rename_i answer
      cases answer <;> cases hrun
      · exact .one .accept rfl rfl hqueued (.upload [] .flowControl (by simp) rfl rfl)
      · exact hqueued ▸ .fails rfl
  | flowControl =>
      cases hrun
      split
      · exact hqueued ▸ .stay [] .nextChunk (by simp) rfl hat
      · exact hqueued ▸ .stay [] .pushCallback (by simp) rfl hat
  | pushCallback =>
      cases hrun
      exact ⟨_, .refl, rfl, hqueued,
        .upload [.writeItMaybe] (.awaitNotify _) (by simp [UploadOp.simple]) rfl hat⟩
  | awaitNotify callback =>
      simp only [UploadOp.run] at hrun
      split at hrun <;> cases hrun
      exact hqueued ▸ .stay [] .nextChunk (by simp) rfl hat
  | queueEnd =>
      obtain rfl : phase = .ending := hat
      refine answers_uploadFrame (Option.some.inj hrun) hqueued ?_ rfl rfl rfl rfl ?_
      · simp [dataMessages, uploads_frame]
      · exact .upload [] .afterSent (by simp) rfl rfl
  | afterSent =>
      obtain rfl : phase = .done := hat
      cases c <;> try cases hrun
      rename_i answer
      cases answer <;> cases hrun
      · exact ⟨_, .refl, rfl, hqueued, .off [] (by simp) (.inr (.inl rfl))⟩
      · exact hqueued ▸ .stay [] (.senderError _) (by simp) rfl (.inl rfl)
  | senderError crex =>
      cases hrun
      refine ⟨_, .refl, rfl, hqueued, .off _ ?_ (.inr hat)⟩
      split <;> simp [Op.drives]

/-- The sender of a request in the socket and the abstract sender. -/
structure Follows (r : ReqId) (x : SocketPool × (ReqId → UploadLog)) (s : Sender Message Bytes) :
    Prop where
  log : x.2 r = s.log
  queued : x.1.shared.rs.uploaded r = s.queued
  fresh : r ∉ x.1.shared.admitted → tally (Op.drives r) x.1 = 0 ∧ s.phase = .idle
  one : tally (Op.drives r) x.1 ≤ 1
  place : ∀ l ∈ lists x.1, ∀ o ∈ l, o.drives r = true →
    At r s o ∧ ∀ o' ∈ l.dropLast, ∃ u, o' = .upload r u ∧ u.simple = true
  rests : tally (Op.drives r) x.1 = 0 → Rests s

section Step

variable {p q : SocketPool} {a : Label} {logs : ReqId → UploadLog} {s : Sender Message Bytes}
  {op : Op} {rest more : List Op} {spawned others : List (List Op)} {y : Shared}

private theorem noteUpload_of_not_drives (hops : (a.ops p).head? = some op)
    (hop : op.drives r = false) :
    noteUpload p a logs r = logs r := by
  unfold noteUpload
  rw [hops]
  cases op with
  | upload r' o =>
      by_cases hr : r' = r
      · subst hr
        have ho : o.simple = true := by simpa [Op.drives] using hop
        cases o with
        | incPending | addFromClient | writeItMaybe => simp [UploadOp.note]
        | _ => cases ho
      · simp [Function.update_of_ne (Ne.symm hr)]
  | _ => rfl

private theorem Move.drives_of_mem {x : Shared} {ts : List Task} {o : Op}
    (h : Move dbg x op y more ts)
    (hop : op.drives r = false) (ho : o ∈ more ∨ ∃ t ∈ ts, o ∈ t.ops) (hdrives : o.drives r = true) :
    ∃ text hasBody, op = .nextReqId text hasBody ∧ r = x.rs.reqIdGenerator + 1 := by
  cases h with
  | notify r' o' =>
      obtain ⟨o'', rfl⟩ := NotifyOp.mem_run (by simpa using ho)
      cases hdrives
  | frame r' o' hframe =>
      obtain ⟨o'', rfl⟩ | ⟨o'', rfl⟩ := hframe.mem_more (by simpa using ho) <;> cases hdrives
  | upload r' o' hupload =>
      have hmem : o ∈ more := by simpa using ho
      obtain ⟨crex, rfl⟩ | ⟨o'', rfl⟩ := hupload.mem_more hmem
      · cases hdrives
      · -- an operation of the same sender follows one that does not drive it
        have hr : r' = r := by
          simp only [Op.drives, Bool.and_eq_true, beq_iff_eq] at hdrives
          exact hdrives.1
        have ho' : o'.simple = true := by simpa [Op.drives, hr] using hop
        cases hupload <;> grind -ring -linarith
  | socket o' c hrun =>
      cases socketMove_of_run hrun <;> grind -ring -linarith [Op.drives]
  | nextReqId text hasBody hnew =>
      obtain rfl : o = .request (x.rs.reqIdGenerator + 1) (.insertCtx text hasBody) := by
        simpa using ho
      have hr : x.rs.reqIdGenerator + 1 = r := by simpa [Op.drives] using hdrives
      exact ⟨text, hasBody, rfl, hr.symm⟩
  | _ => grind -ring -linarith [Op.drives, failRequest]

private theorem Move.nil_of_simple {x : Shared} {ts : List Task} {u : UploadOp}
    (h : Move dbg x (.upload r u) y more ts) (hu : u.simple = true) : more = [] := by
  cases h with
  | upload _ _ hupload =>
      cases hupload with
      | keeps _ f hf us hus ho => simp [ho hu]
      | queues _ _ _ _ _ us _ ho => simp [hu] at ho
      | fails => cases hu

theorem Follows.other (hF : Follows r (p, logs) s) (h : ListStep dbg p q op rest more spawned others y)
    (hop : op.drives r = false) (hmore : ∀ o ∈ more, o.drives r = false)
    (hspawned : ∀ l ∈ spawned, ∀ o ∈ l, o.drives r = false) : Follows r (q, logs) s := by
  obtain ⟨ts, hmove, -⟩ := h.move
  have hrs : q.shared.rs = y.rs := by rw [h.shared]
  have hadm : q.shared.admitted = y.admitted := by rw [h.shared]
  have htally : tally (Op.drives r) q = tally (Op.drives r) p := by
    have hmore' : more.countP (Op.drives r) = 0 := List.countP_eq_zero.mpr (by simpa using hmore)
    have hspawned' : Pool.total (List.countP (Op.drives r)) spawned = 0 :=
      Pool.total_eq_zero fun l hl => List.countP_eq_zero.mpr (by simpa using hspawned l hl)
    have hop' : [op].countP (Op.drives r) = 0 := by simp [hop]
    rw [h.tally_after, h.tally_before, hmore', hspawned', hop']
    omega
  refine ⟨hF.log, ?_, ?_, htally ▸ hF.one, ?_, fun hzero => hF.rests (htally ▸ hzero)⟩
  · rw [hrs, hmove.uploaded hop]
    exact hF.queued
  · intro hr
    rw [htally]
    refine hF.fresh fun hr' => hr ?_
    rw [hadm]
    obtain hsame | ⟨text, hasBody, -, -, hcons⟩ := hmove.admitted_cases
    · exact hsame ▸ hr'
    · rw [hcons]
      exact List.mem_cons_of_mem _ hr'
  · intro l hl o ho hdrives
    obtain rfl | hl | hl := h.mem_after.mp hl
    · obtain ho | ho := List.mem_append.mp ho
      · simp [hmore o ho] at hdrives
      · have hp := hF.place _ (h.mem_before.mpr (.inl rfl)) o (by simp [ho]) hdrives
        -- what stands before the operation of the sender is a simple one, followed by nothing
        have hdrop : (op :: rest).dropLast = op :: rest.dropLast :=
          List.dropLast_cons_of_ne_nil (List.ne_nil_of_mem ho)
        obtain ⟨u, rfl, hu⟩ : ∃ u, op = .upload r u ∧ u.simple = true :=
          hp.2 op (by simp [hdrop])
        have hnil : more = [] := hmove.nil_of_simple hu
        refine ⟨hp.1, fun o' ho' => hp.2 o' ?_⟩
        rw [hnil, List.nil_append] at ho'
        rw [hdrop]
        exact List.mem_cons_of_mem _ ho'
    · simp [hspawned l hl o ho] at hdrives
    · exact hF.place l (h.mem_before.mpr (.inr hl)) o ho hdrives

/-- The one list in which the sender goes on. -/
theorem Follows.of_list {logs' : ReqId → UploadLog} {l : List Op} {ls : List (List Op)}
    (hlog : logs' r = s.log) (hqueued : q.shared.rs.uploaded r = s.queued)
    (hadm : r ∈ q.shared.admitted) (hperm : (lists q).Perm (l :: ls))
    (hls : ∀ l' ∈ ls, ∀ o ∈ l', o.drives r = false) (hl : GoesOn r s l) :
    Follows r (q, logs') s := by
  have hrest : Pool.total (List.countP (Op.drives r)) ls = 0 :=
    Pool.total_eq_zero fun l' hl' => List.countP_eq_zero.mpr (by simpa using hls l' hl')
  have htally : tally (Op.drives r) q = l.countP (Op.drives r) := by
    rw [tally_of_perm hperm, Pool.total_cons, hrest, add_zero]
  cases hl with
  | on us d hus hd hat =>
      have hus' : ∀ o ∈ us.map (Op.upload r), o.drives r = false := by
        intro o ho
        obtain ⟨u, hu, rfl⟩ := List.mem_map.mp ho
        simp [Op.drives, hus u hu]
      have hcount : (us.map (Op.upload r) ++ [d]).countP (Op.drives r) = 1 := by
        rw [List.countP_append, List.countP_eq_zero.mpr (by simpa using hus')]
        simp [hd]
      refine ⟨hlog, hqueued, fun h => absurd hadm h, by simp [htally, hcount], ?_, ?_⟩
      · intro l' hl' o ho hdrives
        obtain rfl | hl' := List.mem_cons.mp (hperm.mem_iff.mp hl')
        · obtain ho | ho := List.mem_append.mp ho
          · simp [hus' o ho] at hdrives
          · obtain rfl := List.mem_singleton.mp ho
            refine ⟨hat, fun o' ho' => ?_⟩
            rw [List.dropLast_concat] at ho'
            obtain ⟨u, hu, rfl⟩ := List.mem_map.mp ho'
            exact ⟨u, rfl, hus u hu⟩
        · simp [hls l' hl' o ho] at hdrives
      · intro hzero
        rw [htally, hcount] at hzero
        cases hzero
  | off l hmore hrests =>
      have hcount : l.countP (Op.drives r) = 0 := List.countP_eq_zero.mpr (by simpa using hmore)
      refine ⟨hlog, hqueued, fun h => absurd hadm h, by simp [htally, hcount], ?_, fun _ => hrests⟩
      intro l' hl' o ho hdrives
      obtain rfl | hl' := List.mem_cons.mp (hperm.mem_iff.mp hl')
      · simp [hmore o ho] at hdrives
      · simp [hls l' hl' o ho] at hdrives

theorem Follows.alone (hF : Follows r (p, logs) s)
    (h : ListStep dbg p q op rest more spawned others y) (hop : op.drives r = true) :
    At r s op ∧ r ∈ p.shared.admitted ∧ rest = [] ∧ ∀ l ∈ others, ∀ o ∈ l, o.drives r = false := by
  have hmem : op :: rest ∈ lists p := h.mem_before.mpr (.inl rfl)
  have hplace := hF.place _ hmem op (by simp) hop
  have htally := h.tally_before (Op.drives r)
  have hone : tally (Op.drives r) p ≤ 1 := hF.one
  have hcount : [op].countP (Op.drives r) = 1 := by simp [hop]
  refine ⟨hplace.1, ?_, ?_, ?_⟩
  · by_contra hr
    have hzero : tally (Op.drives r) p = 0 := (hF.fresh hr).1
    omega
  · cases rest with
    | nil => rfl
    | cons o rest =>
        obtain ⟨u, rfl, hu⟩ := hplace.2 op (by simp)
        simp [Op.drives, hu] at hop
  · intro l hl o ho
    have hle := Pool.le_total_of_mem (List.countP (Op.drives r)) hl
    have hzero : l.countP (Op.drives r) = 0 := by omega
    simpa using List.countP_eq_zero.mp hzero o ho

private theorem Follows.driven (hF : Follows r (p, logs) s)
    (hops : (a.ops p).head? = some op) (hop : op.drives r = true)
    {ts : List Task} (hexec : execOp dbg overflowChecks p.shared op a.choice = some (y, more, ts))
    (h : ListStep dbg p q op rest more spawned others y) :
    ∃ s', (Sender.machine (chunkMessage r) (endMessage r)).Reach Machine.anyAction s s' ∧
      Follows r (q, noteUpload p a logs) s' := by
  obtain ⟨hat, hadm, rfl, hothers⟩ := hF.alone h hop
  have hrs : q.shared.rs = y.rs := by rw [h.shared]
  have hadm' : r ∈ q.shared.admitted := by
    obtain ⟨ts, hmove, -⟩ := h.move
    rw [show q.shared.admitted = y.admitted by rw [h.shared]]
    obtain hsame | ⟨text, hasBody, -, -, hcons⟩ := hmove.admitted_cases
    · exact hsame ▸ hadm
    · exact hcons ▸ List.mem_cons_of_mem _ hadm
  have hafter := h.after
  rw [List.append_nil] at hafter
  cases op with
  | upload r' o =>
      simp only [Op.drives, Bool.and_eq_true, beq_iff_eq, Bool.not_eq_true'] at hop
      obtain ⟨rfl, ho⟩ := hop
      change (o.run dbg p.shared.rs r' a.choice).map _ = _ at hexec
      obtain ⟨⟨rs', more'⟩, hrun, hout⟩ := Option.map_eq_some_iff.mp hexec
      cases hout
      obtain ⟨s', hreach, hlog, hqueued, hmore⟩ := upload_answers ho hat hF.queued hrun
      have hspawned : spawned = [] := by
        obtain ⟨ts, hmove, hspawned | hspawned⟩ := h.move
        · cases hmove
          exact hspawned
        · exact hspawned.1
      subst hspawned
      refine ⟨s', hreach, .of_list ?_ (hrs ▸ hqueued) hadm' hafter (by simpa using hothers) hmore⟩
      have hlogs : logs r' = s.log := hF.log
      simp only [noteUpload, hops, Function.update_self]
      rw [hlogs]
      exact hlog
  | request r' o =>
      have hlog : noteUpload p a logs r = s.log := by
        simp only [noteUpload, hops]
        exact hF.log
      have hqueued : p.shared.rs.uploaded r = s.queued := hF.queued
      refine ⟨s, .refl, ?_⟩
      obtain ⟨ts, hmove, hspawned⟩ := h.move
      cases hmove with
      | insertCtx _ text hasBody =>
          obtain rfl : spawned = [] := hspawned.elim id And.left
          refine .of_list hlog (hrs ▸ hqueued) hadm' hafter (by simpa using hothers) ?_
          exact .on [] _ (by simp) (by simpa [Op.drives] using hop) hat
      | requestFails _ _ crex ho =>
          obtain rfl : spawned = [] := hspawned.elim id And.left
          refine .of_list hlog (hrs ▸ hqueued) hadm' hafter (by simpa using hothers) (.off _ ?_ ?_)
          · simp [failRequest, Op.drives]
          · obtain ⟨text, hasBody, rfl⟩ | ⟨text, rfl⟩ | ⟨rfl, -⟩ := ho
            · exact .inl hat
            · cases hop
            · cases hop
      | proxied _ text hasBody =>
          have hr : r' = r := by simpa [Op.drives] using hop
          obtain rfl | ⟨rfl, -⟩ := hspawned
          · refine .of_list hlog (hrs ▸ hqueued) hadm' (hafter.trans (.swap _ _ _)) ?_
              (.on [] _ (by simp) (by simp [Op.drives, UploadOp.simple, hr]) hat)
            intro l hl
            obtain rfl | hl := List.mem_cons.mp hl
            · simp [Op.drives]
            · exact hothers l hl
          · exact .of_list hlog (hrs ▸ hqueued) hadm' hafter (by simpa using hothers)
              (.off _ (by simp [Op.drives]) (.inl hat))
      | _ => cases hop
  | _ => cases hop

/-- The operations that open `on_client_req`. -/
def Op.opens : Op → Bool
  | .checkRemoved _ _ | .nextReqId _ _ => true
  | _ => false

/-- Nothing stands beside the first operations of `on_client_req`. -/
def Opening (p : SocketPool) : Prop := ∀ l ∈ lists p, ∀ o ∈ l, o.opens = true → l = [o]

private theorem Move.opens_of_mem {x : Shared} {ts : List Task} {o : Op}
    (h : Move dbg x op y more ts)
    (ho : o ∈ more) (hopens : o.opens = true) : op.opens = true ∧ more = [o] := by
  cases h with
  | notify r' o' =>
      obtain ⟨o'', rfl⟩ := NotifyOp.mem_run ho
      cases hopens
  | frame r' o' hframe => obtain ⟨o'', rfl⟩ | ⟨o'', rfl⟩ := hframe.mem_more ho <;> cases hopens
  | upload r' o' hupload => obtain ⟨o'', rfl⟩ | ⟨o'', rfl⟩ := hupload.mem_more ho <;> cases hopens
  | socket o' c hrun => cases socketMove_of_run hrun <;> grind -ring -linarith [Op.opens]
  | _ => grind -ring -linarith [Op.opens, failRequest]

theorem Opening.list (hopen : Opening p) (h : ListStep dbg p q op rest more spawned others y) :
    Opening q := by
  obtain ⟨ts, hmove, -⟩ := h.move
  intro l hl o ho hopens
  have hmem : op :: rest ∈ lists p := h.mem_before.mpr (.inl rfl)
  obtain rfl | hl | hl := h.mem_after.mp hl
  · obtain ho | ho := List.mem_append.mp ho
    · obtain ⟨hop, hmore⟩ := hmove.opens_of_mem ho hopens
      have hsingle := hopen _ hmem op (by simp) hop
      simp_all
    · -- an opening operation has nothing before it
      have hsingle := hopen _ hmem o (by simp [ho]) hopens
      simp_all
  · obtain ⟨r, text, hasBody, rfl⟩ | ⟨r, rfl⟩ := h.mem_spawned hl <;>
      (obtain rfl := List.mem_singleton.mp ho; cases hopens)
  · exact hopen l (h.mem_before.mpr (.inr hl)) o ho hopens

/-- The new id of a request that starts. -/
theorem Follows.born (hF : Follows r (p, logs) s) (hopen : Opening p) {text : String}
    {hasBody : Bool} (h : ListStep dbg p q (.nextReqId text hasBody) rest more spawned others y)
    (hr : r = p.shared.rs.reqIdGenerator + 1) : Follows r (q, logs) s := by
  obtain ⟨ts, hmove, hspawned⟩ := h.move
  have hrs : q.shared.rs = y.rs := by rw [h.shared]
  have hadm : q.shared.admitted = y.admitted := by rw [h.shared]
  obtain rfl : rest = [] := by
    simpa using hopen _ (h.mem_before.mpr (.inl rfl)) _ (List.mem_cons_self ..) rfl
  cases hmove with
  | nextReqId _ _ hnew =>
      obtain rfl : spawned = [] := hspawned.elim id And.left
      obtain ⟨hzero, hidle⟩ : tally (Op.drives r) p = 0 ∧ s.phase = .idle := hF.fresh (hr ▸ hnew)
      have hothers : ∀ l ∈ others, ∀ o ∈ l, o.drives r = false := by
        intro l hl o ho
        by_contra hdrives
        have hpos := tally_pos_iff.mpr
          ⟨l, h.mem_before.mpr (.inr hl), o, ho, by simpa using hdrives⟩
        omega
      refine .of_list hF.log (hrs ▸ hF.queued) (by simp [hadm, hr]) h.after
        (by simpa using hothers) ?_
      exact .on [] _ (by simp) (by simp [Op.drives, hr]) hidle

theorem Follows.list (hF : Follows r (p, logs) s) (hopen : Opening p) (hops : a.ops p = op :: rest)
    {ts : List Task} (hexec : execOp dbg overflowChecks p.shared op a.choice = some (y, more, ts))
    (h : ListStep dbg p q op rest more spawned others y) :
    ∃ s', (Sender.machine (chunkMessage r) (endMessage r)).Reach Machine.anyAction s s' ∧
      Follows r (q, noteUpload p a logs) s' := by
  have hhead : (a.ops p).head? = some op := by simp [hops]
  by_cases hop : op.drives r = true
  · exact hF.driven hhead hop hexec h
  · have hop : op.drives r = false := by simpa using hop
    refine ⟨s, .refl, ?_⟩
    have hlogs : noteUpload p a logs r = logs r := noteUpload_of_not_drives hhead hop
    have hkeep : Follows r (q, logs) s := by
      obtain ⟨ts, hmove, hspawned⟩ := h.move
      by_cases hnew : ∃ text hasBody, op = .nextReqId text hasBody ∧
          r = p.shared.rs.reqIdGenerator + 1
      · obtain ⟨text, hasBody, rfl, hr⟩ := hnew
        exact hF.born hopen h hr
      · refine hF.other h hop ?_ ?_
        · intro o ho
          by_contra hdrives
          exact hnew (hmove.drives_of_mem hop (.inl ho) (by simpa using hdrives))
        · intro l hl o ho
          by_contra hdrives
          obtain rfl | ⟨rfl, -⟩ := hspawned
          · obtain ⟨t, ht, rfl⟩ := List.mem_map.mp hl
            exact hnew (hmove.drives_of_mem hop (.inr ⟨t, ht, ho⟩) (by simpa using hdrives))
          · cases hl
    exact ⟨hlogs.trans hkeep.log, hkeep.queued, hkeep.fresh, hkeep.one, hkeep.place, hkeep.rests⟩

theorem Follows.swap (hF : Follows r (p, logs) s) {gone new kept : List (List Op)}
    (hqueued : q.shared.rs.uploaded r = p.shared.rs.uploaded r)
    (hadm : q.shared.admitted = p.shared.admitted) (hp : (lists p).Perm (gone ++ kept))
    (hq : (lists q).Perm (new ++ kept)) (hgone : ∀ l ∈ gone, ∀ o ∈ l, o.drives r = false)
    (hnew : ∀ l ∈ new, ∀ o ∈ l, o.drives r = false) : Follows r (q, logs) s := by
  have hzero : ∀ ls : List (List Op), (∀ l ∈ ls, ∀ o ∈ l, o.drives r = false) →
      Pool.total (List.countP (Op.drives r)) ls = 0 := fun ls hls =>
    Pool.total_eq_zero fun l hl => List.countP_eq_zero.mpr (by simpa using hls l hl)
  have htally : tally (Op.drives r) q = tally (Op.drives r) p := by
    rw [tally_of_perm hp, tally_of_perm hq, Pool.total_append, Pool.total_append, hzero _ hgone,
      hzero _ hnew]
  refine ⟨hF.log, hqueued.trans hF.queued, ?_, htally ▸ hF.one, ?_, fun h => hF.rests (htally ▸ h)⟩
  · rw [hadm, htally]
    exact hF.fresh
  · intro l hl o ho hdrives
    obtain hl | hl := List.mem_append.mp (hq.mem_iff.mp hl)
    · simp [hnew l hl o ho] at hdrives
    · exact hF.place l (hp.mem_iff.mpr (List.mem_append_right _ hl)) o ho hdrives

theorem Opening.swap (hopen : Opening p) {gone new kept : List (List Op)}
    (hp : (lists p).Perm (gone ++ kept)) (hq : (lists q).Perm (new ++ kept))
    (hnew : ∀ l ∈ new, ∀ o ∈ l, o.opens = true → l = [o]) : Opening q := by
  intro l hl o ho hopens
  obtain hl | hl := List.mem_append.mp (hq.mem_iff.mp hl)
  · exact hnew l hl o ho hopens
  · exact hopen l (hp.mem_iff.mpr (List.mem_append_right _ hl)) o ho hopens

theorem Follows.step (hF : Follows r (p, logs) s) (hopen : Opening p)
    (h : step dbg overflowChecks p a = some q) :
    Opening q ∧ ∃ s', (Sender.machine (chunkMessage r) (endMessage r)).Reach Machine.anyAction s s' ∧
      Follows r (q, noteUpload p a logs) s' := by
  cases hops : a.ops p with
  | cons op rest =>
      obtain ⟨y, more, ts, spawned, others, hexec, hlist⟩ := listStep_of_ops h hops
      exact ⟨hopen.list hlist, hF.list hopen hops hexec hlist⟩
  | nil =>
      obtain ⟨gone, new, kept, hidle⟩ := idleStep_of_step h hops
      have hp := hidle.before
      have hq := hidle.after
      have hlogs : noteUpload p a logs = logs := by simp [noteUpload, hops]
      rw [hlogs]
      have hnew' : ∀ l ∈ new, ∀ o ∈ l, o.drives r = false ∧ (o.opens = true → l = [o]) := by
        intro l hl o ho
        cases hidle.arrives with
        | nothing => cases hl
        | frame type flags r' bin hr =>
            obtain rfl := List.mem_singleton.mp hl
            obtain hnil | ⟨o', hframe⟩ := frameOps_cases type flags r' bin
            · simp [hnil] at ho
            · rw [hframe, List.mem_singleton] at ho
              subst ho
              exact ⟨rfl, nofun⟩
        | _ => grind -ring -linarith [closeOps, teardownOps, Op.drives, Op.opens]
      refine ⟨hopen.swap hp hq fun l hl o ho => (hnew' l hl o ho).2, s, .refl, ?_⟩
      refine hF.swap ?_ hidle.admitted hp hq ?_ fun l hl o ho => (hnew' l hl o ho).1
      · rw [RouterSocketV3.uploaded, hidle.queue]
        rfl
      · intro l hl o ho
        -- the sender's list does not begin with an operation that waits
        by_contra hdrives
        have hplace := hF.place l (hp.mem_iff.mpr (List.mem_append_left _ hl)) o ho
          (by simpa using hdrives)
        cases l with
        | nil => cases ho
        | cons d l =>
            have hawaits : d.awaits = true := by simpa using hidle.leaves _ hl
            cases l with
            | nil =>
                obtain rfl := List.mem_singleton.mp ho
                cases o with
                | request r' o' => cases o' <;> first | exact hdrives rfl | cases hawaits
                | notify r' o' => exact hdrives rfl
                | _ => cases hawaits
            | cons o' l =>
                obtain ⟨u, rfl, -⟩ := hplace.2 d (by simp)
                cases hawaits

end Step

/-- The upload of a request is one of an abstract sender. -/
theorem exists_sender {x : SocketPool × (ReqId → UploadLog)} (r : ReqId)
    (h : (uploadMachine dbg overflowChecks).Reachable Machine.anyAction x) :
    ∃ s, (Sender.machine (chunkMessage r) (endMessage r)).Reachable Machine.anyAction s ∧
      Opening x.1 ∧ Follows r x s := by
  refine h.simulates (R := fun x s => Opening x.1 ∧ Follows r x s) ?_ ?_
  · rintro ⟨p, logs⟩ ⟨⟨route, routerSocketId, reallyNeed, now, rfl⟩, rfl⟩
    refine ⟨_, rfl, ?_, ⟨rfl, rfl, fun _ => ⟨rfl, rfl⟩, Nat.zero_le 1, ?_, fun _ => .inl rfl⟩⟩
    all_goals
      intro l hl o ho
      obtain rfl : l = [] := by simpa [lists, Shared.new] using hl
      cases ho
  · rintro ⟨p, logs⟩ a ⟨q, logs'⟩ s ⟨hopen, hF⟩ - hstep
    obtain ⟨hstep, rfl⟩ := Machine.logged_step hstep
    obtain ⟨hopen', s', hreach, hF'⟩ := hF.step hopen hstep
    exact ⟨s', hreach, hopen', hF'⟩

/-- An operation of the request's sender is still to run. -/
def Pending (r : ReqId) (o : UploadOp) (p : SocketPool) : Prop := ∃ l ∈ lists p, .upload r o ∈ l

/-- At any time of any run, the upload frames queued for a request report its body. -/
theorem upload_reported {x : SocketPool × (ReqId → UploadLog)} (r : ReqId)
    (h : (uploadMachine dbg overflowChecks).Reachable Machine.anyAction x) :
    (x.2 r).Reported (chunkMessage r) (endMessage r) (x.1.shared.rs.uploaded r)
      (Pending r .nextChunk x.1) (∀ o, ¬ Pending r o x.1) := by
  obtain ⟨s, hs, hopen, hF⟩ := exists_sender r h
  rw [hF.log, hF.queued]
  refine (Sender.progress_of_reachable hs).reported ?_ ?_
  · rintro ⟨l, hl, ho⟩
    exact (hF.place l hl _ ho (by simp [Op.drives, UploadOp.simple])).1
  · intro hnone
    by_cases hzero : tally (Op.drives r) x.1 = 0
    · exact hF.rests hzero
    · obtain ⟨l, hl, o, ho, hdrives⟩ := tally_pos_iff.mp (Nat.pos_of_ne_zero hzero)
      have hat := (hF.place l hl o ho hdrives).1
      cases o with
      | upload r' o' =>
          simp only [Op.drives, Bool.and_eq_true, beq_iff_eq] at hdrives
          obtain ⟨rfl, -⟩ := hdrives
          exact absurd ⟨l, hl, ho⟩ (hnone o')
      | request r' o' => exact .inl (by cases o' <;> exact hat)
      | _ => cases hdrives

end CrankerRouter.V3
