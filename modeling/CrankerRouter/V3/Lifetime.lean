import CrankerRouter.V3.Requests

/-!
# A request over whole runs

When the websocket closes or fails, the receive pipe and the teardown work for many requests in one
list.  What still holds: an operation that may fail or wait comes last in its list, the receive
pipe runs no part of a handler, and an id is used once.
-/

namespace CrankerRouter.V3

open Lib

variable {dbg : DebugText} {overflowChecks : Bool} {p q : SocketPool} {r : ReqId}

/-! ### The shape of the lists -/

/-- The frame operations that something may follow in their list. -/
def FrameOp.mid : FrameOp → Bool
  | .storeEndStream | .countBinary | .addToClient _ | .queueCredit _ | .provideGeneralError _ => true
  | _ => false

/-- The operations that something may follow in their list. -/
def Op.mid : Op → Bool
  | .notify _ (.resetStream _ _) => false
  | .notify _ _ | .socket _ => true
  | .frame _ o => o.mid
  | .upload _ o => o.simple
  | _ => false

/-- The operations of the receive pipe. -/
def Op.piped : Op → Bool
  | .notify _ _ | .frame _ _ | .socket _ => true
  | _ => false

structure Tidy (p : SocketPool) : Prop where
  shape : ∀ l ∈ lists p, ∀ o ∈ l.dropLast, o.mid = true
  recv : ∀ o ∈ p.shared.recv, o.piped = true

section Move

variable {x y : Shared} {op o : Op} {more : List Op} {ts : List Task}

private theorem Move.piped_of_mem (hmove : Move dbg x op y more ts) (hop : op.piped = true)
    (ho : o ∈ more) :
    o.piped = true := by
  cases hmove with
  | notify r' o' =>
      obtain ⟨o'', rfl⟩ := NotifyOp.mem_run ho
      rfl
  | frame r' o' hframe =>
      obtain ⟨o'', rfl⟩ | ⟨o'', rfl⟩ := hframe.mem_more ho <;> rfl
  | socket o' c hrun => cases socketMove_of_run hrun <;> grind -ring -linarith [Op.piped]
  | _ => cases hop

private theorem Move.spawns_nothing_of_piped (hmove : Move dbg x op y more ts)
    (hop : op.piped = true) :
    ts = [] := by
  cases hmove <;> first | rfl | cases hop

private theorem NotifyOp.mid_of_mem {rs : RouterSocketV3} {o' : NotifyOp}
    (h : o ∈ (o'.run rs r).2) :
    o.mid = true := by
  cases o' <;> simp only [NotifyOp.run] at h <;> grind -ring -linarith [errOps, Op.mid]

private theorem FrameMove.nil_of_mid {rs rs' : RouterSocketV3} {o' : FrameOp}
    (h : FrameMove dbg rs r o' rs' more) (hmid : o'.mid = true) : more = [] := by
  cases h with
  | fails o' crex ho => cases o' <;> simp_all [FrameOp.fallible, FrameOp.mid]
  | _ => first | rfl | cases hmid

private theorem SocketMove.mid_of_mem {rs rs' : RouterSocketV3} {o' : SocketOp}
    (h : SocketMove rs o' rs' more) (ho : o ∈ more) : o.mid = true := by
  cases h <;> grind -ring -linarith [Op.mid]

private theorem Move.mid_of_mem (hmove : Move dbg x op y more ts) (hop : op.mid = true)
    (ho : o ∈ more) :
    o.mid = true := by
  cases hmove with
  | notify r' o' => exact NotifyOp.mid_of_mem ho
  | frame r' o' hframe => simp [hframe.nil_of_mid hop] at ho
  | upload r' o' hupload => cases hupload <;> grind -ring -linarith [Op.mid]
  | socket o' c hrun => exact (socketMove_of_run hrun).mid_of_mem ho
  | _ => cases hop

private theorem Move.mid_of_mem_dropLast (hmove : Move dbg x op y more ts)
    (ho : o ∈ more.dropLast) :
    o.mid = true := by
  cases hmove with
  | notify r' o' => exact NotifyOp.mid_of_mem (List.mem_of_mem_dropLast ho)
  | frame r' o' hframe => cases hframe <;> grind -ring -linarith [failFrame, closeOpsIf, Op.mid, FrameOp.mid]
  | upload r' o' hupload => cases hupload <;> grind -ring -linarith [Op.mid]
  | socket o' c hrun => exact (socketMove_of_run hrun).mid_of_mem (List.mem_of_mem_dropLast ho)
  | _ => grind -ring -linarith [failRequest, Op.mid]

end Move

section ListStep

variable {op : Op} {rest more : List Op} {spawned others : List (List Op)} {y : Shared}

/-- Nothing follows an operation that does not let anything follow it. -/
theorem Tidy.rest_nil (h : Tidy p) (hmem : op :: rest ∈ lists p) (hop : op.mid = false) :
    rest = [] := by
  cases rest with
  | nil => rfl
  | cons o rest =>
      have hmid := h.shape _ hmem op (by simp)
      simp [hop] at hmid

theorem Tidy.move (h : Tidy p) (hlist : ListStep dbg p q op rest more spawned others y) :
    ∃ ts, Move dbg p.shared op y more ts ∧ spawned = ts.map Task.ops := by
  obtain ⟨ts, hmove, hspawned | ⟨hspawned, hrecv⟩⟩ := hlist.move
  · exact ⟨ts, hmove, hspawned⟩
  · have hnone : ts = [] := hmove.spawns_nothing_of_piped (h.recv op (by simp [hrecv]))
    exact ⟨ts, hmove, by simp [hspawned, hnone]⟩

theorem Tidy.list (h : Tidy p) (hlist : ListStep dbg p q op rest more spawned others y) :
    Tidy q := by
  obtain ⟨ts, hmove, -⟩ := hlist.move
  have hmem : op :: rest ∈ lists p := hlist.mem_before.mpr (.inl rfl)
  constructor
  · intro l hl o ho
    obtain rfl | hl | hl := hlist.mem_after.mp hl
    · by_cases hrest : rest = []
      · rw [hrest, List.append_nil] at ho
        exact hmove.mid_of_mem_dropLast ho
      · have hdrop : (op :: rest).dropLast = op :: rest.dropLast :=
          List.dropLast_cons_of_ne_nil hrest
        have hop : op.mid = true := h.shape _ hmem op (by simp [hdrop])
        rw [List.dropLast_append_of_ne_nil hrest] at ho
        obtain ho | ho := List.mem_append.mp ho
        · exact hmove.mid_of_mem hop ho
        · exact h.shape _ hmem o (by simp [hdrop, ho])
    · obtain ⟨r, text, hasBody, rfl⟩ | ⟨r, rfl⟩ := hlist.mem_spawned hl <;> simp at ho
    · exact h.shape l (hlist.mem_before.mpr (.inr hl)) o ho
  · obtain hsame | ⟨hrecv, hrecv'⟩ := hlist.recv
    · rw [hsame]
      exact h.recv
    · intro o ho
      rw [hrecv'] at ho
      obtain ho | ho := List.mem_append.mp ho
      · exact hmove.piped_of_mem (h.recv op (by simp [hrecv])) ho
      · exact h.recv o (by simp [hrecv, ho])

end ListStep

/-- The operations by which a handler of `on_binary` starts. -/
def FrameOp.starts : FrameOp → Bool
  | .handleData _ _ | .handleHeader _ _ | .handleRstStream _ | .handleWindowUpdate _ => true
  | _ => false

/-- The operations by which `on_close` and the teardown start. -/
def SocketOp.starts : SocketOp → Bool
  | .closeEach _ _ _ _ | .collect _ _ _ | .retainNone => false
  | _ => true

theorem frameOps_starts (type flags : UInt8) (r : ReqId) (bin : Bytes) {o : Op}
    (h : o ∈ frameOps type flags r bin) : ∃ o', o = .frame r o' ∧ o'.starts = true := by
  unfold frameOps at h
  split_ifs at h
  case neg => cases h
  all_goals exact ⟨_, List.mem_singleton.mp h, rfl⟩

theorem Arrives.mem_cases {new : List (List Op)} {l : List Op} {o : Op} (h : Arrives p q new)
    (hl : l ∈ new) (ho : o ∈ l) :
    (∃ text hasBody, o = .checkRemoved text hasBody) ∨
      (∃ r ∈ p.shared.rs.contextMap, ∃ o', o = .frame r o' ∧ o'.starts = true) ∨
      ∃ o', o = .socket o' ∧ o'.starts = true := by
  cases h with
  | nothing => cases hl
  | request text hasBody =>
      obtain rfl := List.mem_singleton.mp hl
      exact .inl ⟨text, hasBody, List.mem_singleton.mp ho⟩
  | dropped hidle =>
      obtain rfl := List.mem_singleton.mp hl
      cases ho
  | frame type flags r bin hr =>
      obtain rfl := List.mem_singleton.mp hl
      exact .inr (.inl ⟨r, hr, frameOps_starts type flags r bin ho⟩)
  | close frame =>
      obtain rfl := List.mem_singleton.mp hl
      simp only [closeOps, List.mem_cons, List.not_mem_nil, or_false] at ho
      obtain rfl | rfl := ho <;> exact .inr (.inr ⟨_, rfl, rfl⟩)
  | fail crex hup hdown =>
      obtain rfl := List.mem_singleton.mp hl
      simp only [teardownOps, List.mem_cons, List.not_mem_nil, or_false] at ho
      obtain rfl | rfl | rfl := ho <;> exact .inr (.inr ⟨_, rfl, rfl⟩)

private theorem Arrives.mid_of_mem {new : List (List Op)} {l : List Op} {o : Op}
    (h : Arrives p q new)
    (hl : l ∈ new) (ho : o ∈ l.dropLast) : o.mid = true := by
  cases h with
  | nothing => cases hl
  | frame type flags r bin hr =>
      obtain hnil | ⟨o', hframe⟩ := frameOps_cases type flags r bin <;> simp_all
  | close frame =>
      obtain rfl := List.mem_singleton.mp hl
      obtain rfl : o = .socket .storeRemoved := by simpa [closeOps] using ho
      rfl
  | fail crex hup hdown =>
      obtain rfl := List.mem_singleton.mp hl
      have ho : o = .socket (.generalErrorUnlessRemoved crex) ∨ o = .socket .closeSendTask := by
        simpa [teardownOps] using ho
      obtain rfl | rfl := ho <;> rfl
  | _ => simp_all

private theorem recv_of_idle {a : Label} (h : step dbg overflowChecks p a = some q)
    (hops : a.ops p = []) :
    q.shared.recv = p.shared.recv ∨ ∀ o ∈ q.shared.recv, o.piped = true := by
  cases stepCases h with
  | list hops' h => simp [hops] at hops'
  | receive b hidle =>
      obtain hsame | ⟨type, flags, r, bin, -, hr, hrecv⟩ := receive_cases p.shared b
      · exact .inl (by rw [hsame])
      · right
        intro o ho
        rw [hrecv] at ho
        obtain ⟨o', rfl, -⟩ := frameOps_starts type flags r bin ho
        rfl
  | close frame hidle =>
      right
      intro o ho
      simp only [closeOps, List.mem_cons, List.not_mem_nil, or_false] at ho
      obtain rfl | rfl := ho <;> rfl
  | dropHandler i l r t hget htasks hawaits => exact .inl (by cases t.req <;> rfl)
  | _ => exact .inl rfl

theorem Tidy.step (h : Tidy p) {a : Label} (hstep : step dbg overflowChecks p a = some q) :
    Tidy q := by
  cases hops : a.ops p with
  | cons op rest =>
      obtain ⟨y, more, ts, spawned, others, -, hlist⟩ := listStep_of_ops hstep hops
      exact h.list hlist
  | nil =>
      obtain ⟨gone, new, kept, hidle⟩ := idleStep_of_step hstep hops
      constructor
      · intro l hl o ho
        obtain hl | hl := List.mem_append.mp (hidle.after.mem_iff.mp hl)
        · exact hidle.arrives.mid_of_mem hl ho
        · exact h.shape l (hidle.before.mem_iff.mpr (List.mem_append_right _ hl)) o ho
      · obtain hsame | hpiped := recv_of_idle hstep hops
        · rw [hsame]
          exact h.recv
        · exact hpiped

private theorem tidy_init (h : (socketMachine dbg overflowChecks).init p) : Tidy p := by
  obtain ⟨route, routerSocketId, reallyNeed, now, rfl⟩ := h
  constructor
  · intro l hl o ho
    obtain rfl : l = [] := by simpa [lists, Shared.new] using hl
    cases ho
  · intro o ho
    cases ho

/-- A handler is dropped at its last operation. -/
theorem Tidy.leaves (h : Tidy p) {gone new kept : List (List Op)} (hidle : IdleStep p q gone new kept)
    {l : List Op} (hl : l ∈ gone) : l = [] ∨ ∃ o, l = [o] ∧ o.awaits = true := by
  obtain rfl | ⟨o, hhead, hawaits⟩ := hidle.leaves l hl
  · exact .inl rfl
  · right
    obtain ⟨rest, rfl⟩ : ∃ rest, l = o :: rest := List.head?_eq_some_iff.mp hhead
    have hmem : o :: rest ∈ lists p := hidle.before.mem_iff.mpr (List.mem_append_left _ hl)
    have hmid : o.mid = false := by
      cases o with
      | notify r o => cases o <;> first | rfl | cases hawaits
      | request r o => rfl
      | _ => cases hawaits
    exact ⟨o, by rw [h.rest_nil hmem hmid], hawaits⟩

/-! ### The map, the removals and the completions -/

section Fields

variable {rs rs' : RouterSocketV3} {more : List Op} {x y : Shared} {op : Op} {ts : List Task}

theorem FrameMove.fields {o : FrameOp} (h : FrameMove dbg rs r o rs' more) :
    rs'.contextMap = rs.contextMap ∧ rs'.removals = rs.removals ∧ rs'.onComplete = rs.onComplete := by
  cases h <;> exact ⟨rfl, rfl, rfl⟩

theorem UploadMove.fields {o : UploadOp} (h : UploadMove rs r o rs' more) :
    rs'.contextMap = rs.contextMap ∧ rs'.removals = rs.removals ∧ rs'.onComplete = rs.onComplete := by
  cases h <;> exact ⟨rfl, rfl, rfl⟩

theorem SocketMove.fields {o : SocketOp} (h : SocketMove rs o rs' more) :
    (rs'.contextMap = rs.contextMap ∨ o = .retainNone ∧ rs'.contextMap = []) ∧
      rs'.removals = rs.removals ∧ rs'.onComplete = rs.onComplete := by
  cases h with
  | generalError crex rs' hrs => obtain rfl | rfl := hrs <;> exact ⟨.inl rfl, rfl, rfl⟩
  | retainNone => exact ⟨.inr ⟨rfl, rfl⟩, rfl, rfl⟩
  | _ => exact ⟨.inl rfl, rfl, rfl⟩

/-- An entry comes with its request and goes, apart from its removal, with all others. -/
theorem Move.contextMap_cases (h : Move dbg x op y more ts) :
    y.rs.contextMap = x.rs.contextMap ∨
      (∃ r text hasBody, op = .request r (.insertCtx text hasBody) ∧
        y.rs.contextMap = r :: x.rs.contextMap.filter (· ≠ r)) ∨
      op = .socket .retainNone ∧ y.rs.contextMap = [] := by
  cases h with
  | notify r o => cases o <;> first | exact .inl rfl | exact .inl (by simp [NotifyOp.run])
  | frame r o h => exact .inl h.fields.1
  | upload r o h => exact .inl h.fields.1
  | socket o c h =>
      obtain hsame | ⟨rfl, hnone⟩ := (socketMove_of_run h).fields.1
      · exact .inl hsame
      · exact .inr (.inr ⟨rfl, hnone⟩)
  | insertCtx r text hasBody => exact .inr (.inl ⟨r, text, hasBody, rfl, rfl⟩)
  | _ => exact .inl rfl

theorem Move.removals_cases (h : Move dbg x op y more ts) :
    y.rs.removals = x.rs.removals ∨
      ∃ r, op = .notify r .spawnRemove ∧ y.rs.removals = x.rs.removals ++ [r] := by
  cases h with
  | notify r o =>
      cases o with
      | spawnRemove => exact .inr ⟨r, rfl, rfl⟩
      | raiseCompletion => exact .inl (by simp [NotifyOp.run])
      | _ => exact .inl rfl
  | frame r o h => exact .inl h.fields.2.1
  | upload r o h => exact .inl h.fields.2.1
  | socket o c h => exact .inl (socketMove_of_run h).fields.2.1
  | _ => exact .inl rfl

/-- The listeners are called for an entry of the map. -/
theorem Move.onComplete_cases (h : Move dbg x op y more ts) :
    y.rs.onComplete = x.rs.onComplete ∨
      ∃ r, op = .notify r .raiseCompletion ∧ r ∈ x.rs.contextMap ∧
        y.rs.onComplete = x.rs.onComplete ++ [r] := by
  cases h with
  | notify r o =>
      cases o with
      | raiseCompletion =>
          by_cases hr : r ∈ x.rs.contextMap
          · refine .inr ⟨r, rfl, hr, ?_⟩
            simp [NotifyOp.run, RouterSocketV3.raiseCompletionEvent, hr,
              RouterSocketV3.callOnComplete, RouterSocketV3.modify]
          · exact .inl (by simp [NotifyOp.run, RouterSocketV3.raiseCompletionEvent, hr])
      | _ => exact .inl rfl
  | frame r o h => exact .inl h.fields.2.2
  | upload r o h => exact .inl h.fields.2.2
  | socket o c h => exact .inl (socketMove_of_run h).fields.2.2
  | _ => exact .inl rfl

end Fields

/-! ### The channels of a context -/

/-- What an operation can do to the channels of a request and to the mark of its end. -/
inductive ChanMove (r : ReqId) (c : RequestContext) : Op → RequestContext → Prop
  | keeps (op : Op) (c' : RequestContext) (hhdr : c'.tgtResHdr = c.tgtResHdr)
      (hbdy : c'.tgtResBdy = c.tgtResBdy)
      (hend : c'.isEndStreamReceivedFromTgt = c.isEndStreamReceivedFromTgt) : ChanMove r c op c'
  | sendHdrErr (ex : CrankerRouterException) :
      ChanMove r c (.notify r (.sendHdrErr ex))
        { c with tgtResHdr := c.tgtResHdr.send (.error ex) }
  | sendBdyErr (ex : CrankerRouterException) :
      ChanMove r c (.notify r (.sendBdyErr ex))
        { c with tgtResBdy := c.tgtResBdy.send (.error ex) }
  | closeHdr : ChanMove r c (.notify r .closeHdr) { c with tgtResHdr := c.tgtResHdr.close }
  | closeBdy : ChanMove r c (.notify r .closeBdy) { c with tgtResBdy := c.tgtResBdy.close }
  | storeEndStream :
      ChanMove r c (.frame r .storeEndStream) { c with isEndStreamReceivedFromTgt := true }
  | bodySent (isEnd : Bool) (bin : Bytes) :
      ChanMove r c (.frame r (.sendBody isEnd bin))
        { c with tgtResBdy := c.tgtResBdy.send (.ok bin) }
  | headerSent (isEnd : Bool) (len : Nat) :
      ChanMove r c (.frame r (.sendHeader isEnd len))
        { c with tgtResHdr := c.tgtResHdr.send (.ok c.headerLineBuilder) }
  | takeHdr : ChanMove r c (.request r .recvHeader) { c with tgtResHdr := c.tgtResHdr.take }
  | insertCtx (text : String) (hasBody : Bool) (now : Int) :
      ChanMove r c (.request r (.insertCtx text hasBody)) (.new now)

theorem ChanMove.same (r : ReqId) (c : RequestContext) (op : Op) : ChanMove r c op c :=
  .keeps op c rfl rfl rfl

private theorem chanMove_modify {rs : RouterSocketV3} {r' : ReqId} {op : Op}
    {f : RequestContext → RequestContext}
    (h : r' = r → ChanMove r (rs.contexts r) op (f (rs.contexts r))) :
    ChanMove r (rs.contexts r) op ((rs.modify r' f).contexts r) := by
  by_cases hr : r = r'
  · subst hr
    rw [rs.modify_contexts_self]
    exact h rfl
  · rw [rs.modify_contexts_ne hr]
    exact .same r _ op

private theorem chanMove_generalError (rs : RouterSocketV3) (crex : CrankerRouterException)
    (op : Op) :
    ChanMove r (rs.contexts r) op ((rs.tryProvideGeneralError crex).contexts r) := by
  unfold RouterSocketV3.tryProvideGeneralError
  simp only
  split
  · exact .keeps op _ rfl rfl rfl
  · exact .same r _ op

theorem NotifyOp.chanMove (rs : RouterSocketV3) (r' : ReqId) (o : NotifyOp) :
    ChanMove r (rs.contexts r) (.notify r' o) ((o.run rs r').1.contexts r) := by
  cases o with
  | notifyError crex =>
      simp only [NotifyOp.run, RouterSocketV3.setError]
      exact chanMove_modify fun _ => .keeps _ _ rfl rfl rfl
  | sendHdrErr ex =>
      simp only [NotifyOp.run, RouterSocketV3.sendHdr]
      refine chanMove_modify ?_
      rintro rfl
      exact .sendHdrErr ex
  | sendBdyErr ex =>
      simp only [NotifyOp.run, RouterSocketV3.sendBdy]
      refine chanMove_modify ?_
      rintro rfl
      exact .sendBdyErr ex
  | raiseCompletion =>
      by_cases hr : r' ∈ rs.contextMap
      · simp only [NotifyOp.run, RouterSocketV3.raiseCompletionEvent, if_pos hr,
          RouterSocketV3.callOnComplete]
        exact chanMove_modify fun _ => .keeps _ _ rfl rfl rfl
      · simp only [NotifyOp.run, RouterSocketV3.raiseCompletionEvent, if_neg hr]
        exact .same r _ _
  | storeRstSent =>
      simp only [NotifyOp.run, RouterSocketV3.storeRstStreamSent]
      exact chanMove_modify fun _ => .keeps _ _ rfl rfl rfl
  | closeHdr =>
      simp only [NotifyOp.run, RouterSocketV3.closeHdr]
      refine chanMove_modify ?_
      rintro rfl
      exact .closeHdr
  | closeBdy =>
      simp only [NotifyOp.run, RouterSocketV3.closeBdy]
      refine chanMove_modify ?_
      rintro rfl
      exact .closeBdy
  | _ => exact .same r _ _

theorem FrameMove.chanMove {rs rs' : RouterSocketV3} {r' : ReqId} {o : FrameOp} {more : List Op}
    (h : FrameMove dbg rs r' o rs' more) :
    ChanMove r (rs.contexts r) (.frame r' o) (rs'.contexts r) := by
  cases h with
  | windowUpdate bin ack =>
      refine chanMove_modify fun _ => ?_
      obtain ⟨-, -, hhdr, hbdy, hend⟩ := keepsStream_acked ack (rs.contexts r)
      exact .keeps _ _ hhdr hbdy hend
  | storeEndStream =>
      refine chanMove_modify ?_
      rintro rfl
      exact .storeEndStream
  | bodySent isEnd bin hopen =>
      refine chanMove_modify ?_
      rintro rfl
      exact .bodySent isEnd bin
  | headerSent isEnd len =>
      refine chanMove_modify ?_
      rintro rfl
      exact .headerSent isEnd len
  | generalError crex => exact chanMove_generalError rs crex _
  | countBinary => exact chanMove_modify fun _ => .keeps _ _ rfl rfl rfl
  | addToClient len => exact chanMove_modify fun _ => .keeps _ _ rfl rfl rfl
  | appended flags bin content => exact chanMove_modify fun _ => .keeps _ _ rfl rfl rfl
  | _ => exact .same r _ _

theorem Move.chanMove {x y : Shared} {op : Op} {more : List Op} {ts : List Task}
    (h : Move dbg x op y more ts) : ChanMove r (x.rs.contexts r) op (y.rs.contexts r) := by
  cases h with
  | notify r' o => exact NotifyOp.chanMove x.rs r' o
  | frame r' o h => exact h.chanMove
  | upload r' o h =>
      cases h with
      | keeps o f hf us hus ho =>
          refine chanMove_modify fun _ => ?_
          obtain ⟨-, -, hhdr, hbdy, hend⟩ := hf (x.rs.contexts r)
          exact .keeps _ _ hhdr hbdy hend
      | _ => exact .same r _ _
  | socket o c h =>
      cases socketMove_of_run h with
      | generalError crex rs' hrs =>
          obtain rfl | rfl := hrs
          · exact .same r _ _
          · exact chanMove_generalError x.rs crex _
      | _ => exact .same r _ _
  | insertCtx r' text hasBody =>
      by_cases hr : r = r'
      · subst hr
        simp only [RouterSocketV3.insertCtx, Function.update_self]
        exact .insertCtx text hasBody _
      · simp only [RouterSocketV3.insertCtx, Function.update_of_ne hr]
        exact .same r _ _
  | headerTaken r' content hnext =>
      simp only [RouterSocketV3.takeHdr]
      refine chanMove_modify ?_
      rintro rfl
      exact .takeHdr
  | errorTaken r' crex hnext =>
      simp only [RouterSocketV3.takeHdr]
      refine chanMove_modify ?_
      rintro rfl
      exact .takeHdr
  | ctxFound r' hr =>
      simp only [RouterSocketV3.setError]
      exact chanMove_modify fun _ => .keeps _ _ rfl rfl rfl
  | _ => exact .same r _ _

/-! ### An id is used once -/

/-- The operations that will work for a request: its own, and the teardown that has visited it. -/
def Op.names (r : ReqId) : Op → Bool
  | .socket (.collect _ _ visited) => visited.contains r
  | op => op.req == some r

theorem Op.names_of_req {op : Op} (h : op.req = some r) : op.names r = true := by
  cases op <;> simp_all [Op.names, Op.req]

private theorem Op.names_iff_req {op : Op} (hsocket : op.isSocket = false) :
    op.names r = true ↔ op.req = some r := by
  cases op <;> simp_all [Op.names, Op.isSocket]

private theorem Move.names_cases {x y : Shared} {op o : Op} {more : List Op} {ts : List Task}
    (hmove : Move dbg x op y more ts) (ho : o ∈ more ∨ ∃ t ∈ ts, o ∈ t.ops)
    (hnames : o.names r = true) :
    op.names r = true ∨ r ∈ x.rs.contextMap ∨ ∃ text hasBody, op = .nextReqId text hasBody ∧
      r = x.rs.reqIdGenerator + 1 := by
  by_cases hsocket : op.isSocket = true
  · cases hmove with
    | socket o' c hrun => cases socketMove_of_run hrun <;> grind -ring -linarith [Op.names, Op.req]
    | _ => cases hsocket
  · have hsocket : op.isSocket = false := by simpa using hsocket
    have hsocket' : o.isSocket = false := by
      obtain ho | ⟨t, ht, ho⟩ := ho
      · exact hmove.isSocket_of_mem hsocket ho
      · obtain ⟨r', text, hasBody, hops⟩ | ⟨r', hops⟩ := hmove.spawned_ops ht <;>
          (rw [hops, List.mem_singleton] at ho; subst ho; rfl)
    rw [Op.names_iff_req hsocket'] at hnames
    obtain hreq | ⟨text, hasBody, hop, rfl⟩ := hmove.req_cases hsocket ho
    · exact .inl (Op.names_of_req (hreq ▸ hnames))
    · exact .inr (.inr ⟨text, hasBody, hop, (Option.some.inj hnames).symm⟩)

/-- Nothing has happened to the id yet. -/
structure Unused (r : ReqId) (rs : RouterSocketV3) : Prop where
  contextMap : r ∉ rs.contextMap
  removals : r ∉ rs.removals
  onComplete : r ∉ rs.onComplete

/-- Over all runs: until its context is inserted, nothing else works for the request. -/
structure Lifetime (r : ReqId) (p : SocketPool) : Prop where
  unknown : r ∉ p.shared.admitted → tally (Op.names r) p = 0
  alone : 0 < tally (Op.inserts r) p → tally (Op.names r) p ≤ 1
  unused : ¬ Started r p → Unused r p.shared.rs

theorem Lifetime.of_started (h : Started r q) : Lifetime r q where
  unknown := fun hr => absurd h.1 hr
  alone := fun hpos => by
    have hzero := h.2
    omega
  unused := fun hnot => absurd h hnot

section ListStep

variable {op : Op} {rest more : List Op} {spawned others : List (List Op)} {y : Shared}

theorem inserts_le_names (r : ReqId) (l : List Op) :
    l.countP (Op.inserts r) ≤ l.countP (Op.names r) :=
  List.countP_mono_left fun _ _ ho => Op.names_of_req (Op.req_of_isRequest ho)

theorem Op.inserts_iff {op : Op} :
    op.inserts r = true ↔ ∃ text hasBody, op = .request r (.insertCtx text hasBody) := by
  constructor
  · intro h
    cases op with
    | request r' o =>
        cases o <;> simp_all [Op.inserts, Op.isRequest, RequestOp.isInsertCtx]
    | _ => cases h
  · rintro ⟨text, hasBody, rfl⟩
    simp [Op.inserts, Op.isRequest, RequestOp.isInsertCtx]

/-- Only a new id lets a context be inserted. -/
theorem Move.inserts_of_mem {x y : Shared} {op o : Op} {more : List Op} {ts : List Task}
    (hmove : Move dbg x op y more ts) (ho : o ∈ more ∨ ∃ t ∈ ts, o ∈ t.ops)
    (hinserts : o.inserts r = true) :
    ∃ text hasBody, op = .nextReqId text hasBody ∧ r = x.rs.reqIdGenerator + 1 ∧
      r ∉ x.admitted := by
  obtain ⟨text, hasBody, rfl⟩ := Op.inserts_iff.mp hinserts
  cases hmove with
  | notify r' o' =>
      obtain ⟨o'', h⟩ := NotifyOp.mem_run (by simpa using ho)
      cases h
  | frame r' o' hframe =>
      obtain ⟨o'', h⟩ | ⟨o'', h⟩ := hframe.mem_more (by simpa using ho) <;> cases h
  | upload r' o' hupload =>
      obtain ⟨o'', h⟩ | ⟨o'', h⟩ := hupload.mem_more (by simpa using ho) <;> cases h
  | socket o' c hrun => cases socketMove_of_run hrun <;> grind -ring -linarith
  | nextReqId text' hasBody' hnew =>
      have h : r = x.rs.reqIdGenerator + 1 ∧ text = text' ∧ hasBody = hasBody' := by simpa using ho
      exact ⟨text', hasBody', rfl, h.1, h.1 ▸ hnew⟩
  | _ => grind -ring -linarith [failRequest]

theorem Move.unused {x y : Shared} {more : List Op} {ts : List Task}
    (hmove : Move dbg x op y more ts) (hnames : op.names r = false) (h : Unused r x.rs) :
    Unused r y.rs := by
  have hne : ∀ {r' : ReqId} {op' : Op}, op = op' → op'.req = some r' → r ≠ r' := by
    rintro r' op' rfl hreq rfl
    simp [Op.names_of_req hreq] at hnames
  constructor
  · obtain hsame | ⟨r', text, hasBody, hop, hcons⟩ | ⟨-, hnone⟩ := hmove.contextMap_cases
    · rw [hsame]
      exact h.contextMap
    · rw [hcons]
      simp [hne hop rfl, h.contextMap]
    · simp [hnone]
  · obtain hsame | ⟨r', hop, hadd⟩ := hmove.removals_cases
    · rw [hsame]
      exact h.removals
    · rw [hadd]
      simp [hne hop rfl, h.removals]
  · obtain hsame | ⟨r', hop, -, hadd⟩ := hmove.onComplete_cases
    · rw [hsame]
      exact h.onComplete
    · rw [hadd]
      simp [hne hop rfl, h.onComplete]

theorem ListStep.exists_move (h : ListStep dbg p q op rest more spawned others y) :
    ∃ ts, Move dbg p.shared op y more ts ∧ ∀ o, (o ∈ more ∨ ∃ l ∈ spawned, o ∈ l) →
      o ∈ more ∨ ∃ t ∈ ts, o ∈ t.ops := by
  obtain ⟨ts, hmove, hspawned⟩ := h.move
  refine ⟨ts, hmove, fun o ho => ho.imp_right ?_⟩
  rintro ⟨l, hl, ho⟩
  obtain rfl | ⟨rfl, -⟩ := hspawned
  · obtain ⟨t, ht, rfl⟩ := List.mem_map.mp hl
    exact ⟨t, ht, ho⟩
  · cases hl

/-- What does not come with the step was there before it. -/
theorem ListStep.tally_add (h : ListStep dbg p q op rest more spawned others y) {P : Op → Bool}
    (hnew : ∀ o, (o ∈ more ∨ ∃ l ∈ spawned, o ∈ l) → P o = false) :
    tally P p = [op].countP P + tally P q := by
  have hmore : more.countP P = 0 :=
    List.countP_eq_zero.mpr fun o ho => by simp [hnew o (.inl ho)]
  have hspawned : Pool.total (List.countP P) spawned = 0 :=
    Pool.total_eq_zero fun l hl => List.countP_eq_zero.mpr fun o ho => by
      simp [hnew o (.inr ⟨l, hl, ho⟩)]
  rw [h.tally_before, h.tally_after, hmore, hspawned]
  omega

/-- What is still to run after the step was so before, or comes with it. -/
theorem ListStep.tally_pos_cases (h : ListStep dbg p q op rest more spawned others y) {P : Op → Bool}
    (hq : 0 < tally P q) :
    0 < tally P p ∨ ∃ o, (o ∈ more ∨ ∃ l ∈ spawned, o ∈ l) ∧ P o = true := by
  by_cases hnew : ∃ o, (o ∈ more ∨ ∃ l ∈ spawned, o ∈ l) ∧ P o = true
  · exact .inr hnew
  · left
    have hadd := h.tally_add (P := P) fun o ho => by
      by_contra hP
      exact hnew ⟨o, ho, by simpa using hP⟩
    omega

/-- What is still to run before the step and is not its operation is so after it. -/
theorem ListStep.tally_pos_next (h : ListStep dbg p q op rest more spawned others y) {P : Op → Bool}
    (hp : 0 < tally P p) : P op = true ∨ 0 < tally P q := by
  by_cases hop : P op = true
  · exact .inl hop
  · right
    have hzero : [op].countP P = 0 := by simp [hop]
    have hbefore := h.tally_before P
    have hafter := h.tally_after P
    omega

theorem ListStep.tally_pos_of_new (h : ListStep dbg p q op rest more spawned others y) {P : Op → Bool}
    {o : Op} (ho : o ∈ more ∨ ∃ l ∈ spawned, o ∈ l) (hP : P o = true) : 0 < tally P q := by
  rw [tally_pos_iff]
  obtain ho | ⟨l, hl, ho⟩ := ho
  · exact ⟨more ++ rest, h.mem_after.mpr (.inl rfl), o, List.mem_append_left _ ho, hP⟩
  · exact ⟨l, h.mem_after.mpr (.inr (.inl hl)), o, ho, hP⟩

theorem ListStep.mem_admitted (h : ListStep dbg p q op rest more spawned others y)
    (hr : r ∈ p.shared.admitted) : r ∈ q.shared.admitted := by
  obtain ⟨ts, hmove, -⟩ := h.move
  rw [show q.shared.admitted = y.admitted by rw [h.shared]]
  obtain hsame | ⟨text, hasBody, -, -, hcons⟩ := hmove.admitted_cases
  · rwa [hsame]
  · rw [hcons]
    exact List.mem_cons_of_mem _ hr

/-- An id that was given out is not given out again. -/
theorem ListStep.tally_inserts (h : ListStep dbg p q op rest more spawned others y)
    (hr : r ∈ p.shared.admitted) :
    tally (Op.inserts r) p = [op].countP (Op.inserts r) + tally (Op.inserts r) q := by
  obtain ⟨ts, hmove, hmem⟩ := h.exists_move
  refine h.tally_add fun o ho => ?_
  by_contra hinserts
  obtain ⟨-, -, -, -, hnew⟩ := hmove.inserts_of_mem (hmem o ho) (by simpa using hinserts)
  exact hnew hr

theorem Started.list (hstarted : Started r p)
    (h : ListStep dbg p q op rest more spawned others y) : Started r q := by
  have hinserts := h.tally_inserts hstarted.1
  have hzero := hstarted.2
  exact ⟨h.mem_admitted hstarted.1, by omega⟩

theorem ListStep.rs_eq (h : ListStep dbg p q op rest more spawned others y) :
    q.shared.rs = y.rs := by rw [h.shared]

theorem Started.not_inserts (hstarted : Started r p)
    (h : ListStep dbg p q op rest more spawned others y) : op.inserts r = false := by
  by_contra hop
  have hpos : 0 < tally (Op.inserts r) p :=
    tally_pos_iff.mpr ⟨_, h.mem_before.mpr (.inl rfl), op, by simp, by simpa using hop⟩
  have hzero := hstarted.2
  omega

/-- The context of a request that starts is inserted by this step. -/
theorem Started.of_list (hq : Started r q) (hp : ¬ Started r p)
    (h : ListStep dbg p q op rest more spawned others y) :
    ∃ text hasBody, op = .request r (.insertCtx text hasBody) := by
  obtain ⟨ts, hmove, -⟩ := h.move
  have hadmitted : r ∈ p.shared.admitted := by
    by_contra hnot
    have hr := hq.1
    rw [h.shared] at hr
    obtain hsame | ⟨text, hasBody, rfl, -, hcons⟩ := hmove.admitted_cases
    · exact hnot (hsame ▸ hr)
    · obtain rfl : r = p.shared.rs.reqIdGenerator + 1 := by
        rw [hcons, List.mem_cons] at hr
        exact hr.resolve_right hnot
      have hnew : 0 < tally (Op.inserts (p.shared.rs.reqIdGenerator + 1)) q := by
        cases hmove
        exact h.tally_pos_of_new (.inl (List.mem_singleton.mpr rfl))
          (Op.inserts_iff.mpr ⟨text, hasBody, rfl⟩)
      have hzero := hq.2
      omega
  rw [← Op.inserts_iff]
  by_contra hop
  have hinserts := h.tally_inserts hadmitted
  have hzero : [op].countP (Op.inserts r) = 0 := by simp [hop]
  have hzero' := hq.2
  exact hp ⟨hadmitted, by omega⟩

theorem ListStep.mem_contextMap (h : ListStep dbg p q op rest more spawned others y)
    (hr : r ∈ p.shared.rs.contextMap) (hop : op ≠ .socket .retainNone) :
    r ∈ q.shared.rs.contextMap := by
  obtain ⟨ts, hmove, -⟩ := h.move
  rw [h.rs_eq]
  obtain hsame | ⟨r', text, hasBody, -, hcons⟩ | ⟨hretain, -⟩ := hmove.contextMap_cases
  · rwa [hsame]
  · rw [hcons]
    by_cases hrr : r = r'
    · simp [hrr]
    · simp [hr, hrr]
  · exact absurd hretain hop

theorem Move.of_insertCtx {x y : Shared} {text : String} {hasBody : Bool} {more : List Op}
    {ts : List Task} (h : Move dbg x (.request r (.insertCtx text hasBody)) y more ts) :
    y = { x with rs := x.rs.insertCtx r } ∧
      more = [.request r (.beforeProxyToTarget text hasBody)] ∧ ts = [] := by
  cases h with
  | insertCtx => exact ⟨rfl, rfl, rfl⟩
  | requestFails _ _ crex ho =>
      obtain ⟨_, _, ho⟩ | ⟨_, ho⟩ | ⟨ho, -⟩ := ho <;> cases ho

theorem Lifetime.tally_of_insertCtx {text : String} {hasBody : Bool} (hlife : Lifetime r p)
    (h : ListStep dbg p q (.request r (.insertCtx text hasBody)) rest more spawned others y)
    {P : Op → Bool} (hreq : ∀ o, P o = true → o.req = some r)
    (hop : P (.request r (.insertCtx text hasBody)) = false) : tally P p = 0 := by
  have hpos : 0 < tally (Op.inserts r) p :=
    tally_pos_iff.mpr ⟨_, h.mem_before.mpr (.inl rfl), _, by simp,
      Op.inserts_iff.mpr ⟨text, hasBody, rfl⟩⟩
  have halone := hlife.alone hpos
  have hnames := h.tally_before (Op.names r)
  have hone : [Op.request r (.insertCtx text hasBody)].countP (Op.names r) = 1 := by
    simp [Op.names, Op.req]
  have hrest : rest.countP P ≤ rest.countP (Op.names r) :=
    List.countP_mono_left fun o _ ho => Op.names_of_req (hreq o ho)
  have hothers : Pool.total (List.countP P) others ≤ Pool.total (List.countP (Op.names r)) others :=
    total_le_total fun l _ => List.countP_mono_left fun o _ ho => Op.names_of_req (hreq o ho)
  have hbefore := h.tally_before P
  have hzero : [Op.request r (.insertCtx text hasBody)].countP P = 0 := by simp [hop]
  omega

theorem Lifetime.list (hlife : Lifetime r p)
    (h : ListStep dbg p q op rest more spawned others y) : Lifetime r q := by
  by_cases hstarted : Started r p
  · exact .of_started (hstarted.list h)
  obtain ⟨ts, hmove, hmem⟩ := h.exists_move
  have hunused := hlife.unused hstarted
  have hbefore := h.tally_before (Op.names r)
  by_cases hnames : op.names r = true
  · -- nothing else worked for the request, so this inserted its context
    have hop : [op].countP (Op.names r) = 1 := by simp [hnames]
    have hadm : r ∈ p.shared.admitted := by
      by_contra hr
      have hzero := hlife.unknown hr
      omega
    have hpos : 0 < tally (Op.inserts r) p :=
      Nat.pos_of_ne_zero fun hzero => hstarted ⟨hadm, hzero⟩
    have halone := hlife.alone hpos
    have hrest : rest.countP (Op.inserts r) ≤ rest.countP (Op.names r) := inserts_le_names r rest
    have hothers : Pool.total (List.countP (Op.inserts r)) others ≤
        Pool.total (List.countP (Op.names r)) others :=
      total_le_total fun l _ => inserts_le_names r l
    have hinserts := h.tally_inserts hadm
    have hinserts' := h.tally_before (Op.inserts r)
    exact .of_started ⟨h.mem_admitted hadm, by omega⟩
  · have hnames : op.names r = false := by simpa using hnames
    have hop : [op].countP (Op.names r) = 0 := by simp [hnames]
    have hunused' : Unused r q.shared.rs := by
      rw [h.shared]
      exact hmove.unused hnames hunused
    by_cases hborn : ∃ text hasBody, op = .nextReqId text hasBody ∧
        r = p.shared.rs.reqIdGenerator + 1
    · obtain ⟨text, hasBody, rfl, hr⟩ := hborn
      have hafter := h.tally_after (Op.names r)
      have hshared := h.shared
      cases hmove with
      | nextReqId _ _ hnew =>
          have hzero := hlife.unknown (hr ▸ hnew)
          have hspawned : spawned = [] := by
            obtain ⟨ts, hmove, hspawned | hspawned⟩ := h.move
            · cases hmove
              exact hspawned
            · exact hspawned.1
          have hone : [Op.request (p.shared.rs.reqIdGenerator + 1)
              (.insertCtx text hasBody)].countP (Op.names r) = 1 := by
            simp [Op.names, Op.req, hr]
          refine ⟨fun hnot => ?_, fun _ => ?_, fun _ => hunused'⟩
          · rw [hshared] at hnot
            exact absurd (by simp [hr]) hnot
          · rw [hspawned, Pool.total_nil] at hafter
            omega
    · have hnone : ∀ o, (o ∈ more ∨ ∃ l ∈ spawned, o ∈ l) → o.names r = false := by
        intro o ho
        by_contra hnew
        obtain hold | hopen | hnext := hmove.names_cases (hmem o ho) (by simpa using hnew)
        · simp [hnames] at hold
        · exact hunused.contextMap hopen
        · exact hborn hnext
      have hinserts : ∀ o : Op, o.names r = false → o.inserts r = false := by
        intro o ho
        by_contra hinserts
        have hins : o.inserts r = true := by simpa using hinserts
        simp [Op.names_of_req (Op.req_of_isRequest hins)] at ho
      have htally := h.tally_add hnone
      have htally' := h.tally_add fun o ho => hinserts o (hnone o ho)
      have hop' : [op].countP (Op.inserts r) = 0 := by simp [hinserts op hnames]
      refine ⟨fun hr => ?_, fun hpos => ?_, fun _ => hunused'⟩
      · have hzero := hlife.unknown fun hr' => hr (h.mem_admitted hr')
        omega
      · have halone := hlife.alone (by omega)
        omega

end ListStep

private theorem Arrives.names_of_mem {new : List (List Op)} {l : List Op} {o : Op}
    (h : Arrives p q new)
    (hl : l ∈ new) (ho : o ∈ l) (hnames : o.names r = true) : r ∈ p.shared.rs.contextMap := by
  obtain ⟨text, hasBody, rfl⟩ | ⟨r', hr, o', rfl, -⟩ | ⟨o', rfl, hstarts⟩ := h.mem_cases hl ho
  · cases hnames
  · obtain rfl : r' = r := by simpa [Op.names, Op.req] using hnames
    exact hr
  · cases o' <;> simp_all [Op.names, Op.req, SocketOp.starts]

section IdleStep

variable {gone new kept : List (List Op)} {P : Op → Bool}

theorem IdleStep.tally_pos_cases (h : IdleStep p q gone new kept) (hq : 0 < tally P q) :
    0 < tally P p ∨ ∃ l ∈ new, ∃ o ∈ l, P o = true := by
  obtain ⟨l, hl, o, ho, hP⟩ := tally_pos_iff.mp hq
  obtain hl | hl := List.mem_append.mp (h.after.mem_iff.mp hl)
  · exact .inr ⟨l, hl, o, ho, hP⟩
  · left
    rw [tally_pos_iff]
    exact ⟨l, h.before.mem_iff.mpr (List.mem_append_right _ hl), o, ho, hP⟩

/-- Only an operation at which a handler can be dropped goes away. -/
theorem Tidy.tally_pos_idle (htidy : Tidy p) (h : IdleStep p q gone new kept)
    (hawaits : ∀ o : Op, o.awaits = true → P o = false) (hp : 0 < tally P p) : 0 < tally P q := by
  obtain ⟨l, hl, o, ho, hP⟩ := tally_pos_iff.mp hp
  rw [tally_pos_iff]
  obtain hl | hl := List.mem_append.mp (h.before.mem_iff.mp hl)
  · obtain rfl | ⟨o', rfl, hawait⟩ := htidy.leaves h hl
    · cases ho
    · rw [List.mem_singleton.mp ho, hawaits o' hawait] at hP
      cases hP
  · exact ⟨l, h.after.mem_iff.mpr (List.mem_append_right _ hl), o, ho, hP⟩

theorem IdleStep.tally_le (h : IdleStep p q gone new kept) {P : Op → Bool}
    (hnew : ∀ l ∈ new, ∀ o ∈ l, P o = false) : tally P q ≤ tally P p := by
  have hzero : Pool.total (List.countP P) new = 0 :=
    Pool.total_eq_zero fun l hl => List.countP_eq_zero.mpr (by simpa using hnew l hl)
  rw [tally_of_perm h.before, tally_of_perm h.after, Pool.total_append, Pool.total_append, hzero]
  omega

theorem Started.of_idle (hq : Started r q) (htidy : Tidy p) (h : IdleStep p q gone new kept) :
    Started r p := by
  refine ⟨h.admitted ▸ hq.1, ?_⟩
  by_contra hpos
  have hpos' := htidy.tally_pos_idle h (P := Op.inserts r) (fun o hawaits => by
    by_contra hins
    obtain ⟨text, hasBody, rfl⟩ := Op.inserts_iff.mp (by simpa using hins : o.inserts r = true)
    cases hawaits) (by omega)
  have hzero := hq.2
  omega

end IdleStep

theorem Lifetime.idle (hlife : Lifetime r p) {gone new kept : List (List Op)}
    (h : IdleStep p q gone new kept) : Lifetime r q := by
  have hinserts : tally (Op.inserts r) q ≤ tally (Op.inserts r) p := by
    refine h.tally_le fun l hl o ho => ?_
    by_contra hins
    obtain ⟨text, hasBody, rfl⟩ := Op.inserts_iff.mp (by simpa using hins : o.inserts r = true)
    obtain ⟨_, _, heq⟩ | ⟨_, -, _, heq, -⟩ | ⟨_, heq, -⟩ := h.arrives.mem_cases hl ho <;> cases heq
  by_cases hstarted : Started r p
  · have hzero := hstarted.2
    exact .of_started ⟨h.admitted ▸ hstarted.1, by omega⟩
  · have hunused := hlife.unused hstarted
    have hnames : tally (Op.names r) q ≤ tally (Op.names r) p := by
      refine h.tally_le fun l hl o ho => ?_
      by_contra hnew
      exact hunused.contextMap (h.arrives.names_of_mem hl ho (by simpa using hnew))
    refine ⟨fun hr => ?_, fun hpos => ?_, fun _ => ⟨?_, ?_, h.onComplete ▸ hunused.onComplete⟩⟩
    · have hzero := hlife.unknown (h.admitted ▸ hr)
      omega
    · have halone := hlife.alone (by omega)
      omega
    · obtain ⟨hmap, -⟩ | ⟨r', -, hmap, -⟩ := h.map
      · exact hmap ▸ hunused.contextMap
      · rw [hmap]
        exact fun hr => hunused.contextMap (List.mem_of_mem_filter hr)
    · obtain ⟨-, hremovals⟩ | ⟨r', -, -, hremovals⟩ := h.map
      · exact hremovals ▸ hunused.removals
      · rw [hremovals]
        exact fun hr => hunused.removals (List.mem_of_mem_erase hr)

/-- An id over whole runs of the socket. -/
structure Orderly (r : ReqId) (p : SocketPool) : Prop where
  tidy : Tidy p
  life : Lifetime r p

theorem Orderly.step (h : Orderly r p) {a : Label} (hstep : step dbg overflowChecks p a = some q) :
    Orderly r q := by
  refine ⟨h.tidy.step hstep, ?_⟩
  cases hops : a.ops p with
  | cons op rest =>
      obtain ⟨y, more, ts, spawned, others, -, hlist⟩ := listStep_of_ops hstep hops
      exact h.life.list hlist
  | nil =>
      obtain ⟨gone, new, kept, hidle⟩ := idleStep_of_step hstep hops
      exact h.life.idle hidle

theorem orderly_init (r : ReqId) (h : (socketMachine dbg overflowChecks).init p) : Orderly r p := by
  refine ⟨tidy_init h, ?_⟩
  obtain ⟨route, routerSocketId, reallyNeed, now, rfl⟩ := h
  exact ⟨fun _ => rfl, fun _ => Nat.zero_le 1, fun _ => ⟨nofun, nofun, nofun⟩⟩

end CrankerRouter.V3
