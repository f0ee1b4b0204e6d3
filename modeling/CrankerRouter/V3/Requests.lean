import CrankerRouter.V3.Quiet

/-!
# A step, seen by one request

The operations that are still to run are counted over all lists.  While the websocket stays open,
a step either has nothing to do with a given request or is one of a few.
-/

namespace CrankerRouter.V3

open Lib

variable {dbg : DebugText} {overflowChecks : Bool} {p q : SocketPool} {r : ReqId} {op : Op}
  {rest more : List Op} {spawned others : List (List Op)} {y : Shared}

/-- The number of operations with a property that are still to run. -/
def tally (P : Op → Bool) (p : SocketPool) : Nat := Pool.total (List.countP P) (lists p)

theorem tally_pos_iff {P : Op → Bool} : 0 < tally P p ↔ ∃ l ∈ lists p, ∃ o ∈ l, P o = true := by
  constructor
  · intro h
    by_contra hnone
    have hzero : tally P p = 0 := by
      refine Pool.total_eq_zero fun l hl => List.countP_eq_zero.mpr fun o ho hP => ?_
      exact hnone ⟨l, hl, o, ho, hP⟩
    omega
  · rintro ⟨l, hl, o, ho, hP⟩
    have hcount : 0 < l.countP P := List.countP_pos_iff.mpr ⟨o, ho, hP⟩
    exact hcount.trans_le (Pool.le_total_of_mem _ hl)

theorem total_le_total {τ : Type*} {f g : τ → Nat} {ts : List τ} (h : ∀ t ∈ ts, f t ≤ g t) :
    Pool.total f ts ≤ Pool.total g ts := List.sum_le_sum h

theorem tally_mono {P Q : Op → Bool} (h : ∀ o, P o = true → Q o = true) : tally P p ≤ tally Q p :=
  total_le_total fun _ _ => List.countP_mono_left fun o _ => h o

theorem tally_of_perm {P : Op → Bool} {ls : List (List Op)} (h : (lists p).Perm ls) :
    tally P p = Pool.total (List.countP P) ls := (h.map _).sum_eq

theorem tally_dropped {P : Op → Bool} {l : List Op} (h : (lists p).Perm (l :: lists q)) :
    tally P p = l.countP P + tally P q := by
  rw [tally_of_perm h, Pool.total_cons]
  rfl

theorem tally_eq_zero {P : Op → Bool} (h : ∀ l ∈ lists p, ∀ o ∈ l, P o = false) :
    tally P p = 0 :=
  Pool.total_eq_zero fun l hl => List.countP_eq_zero.mpr fun o ho => by simp [h l hl o ho]

theorem ListStep.tally_before (h : ListStep dbg p q op rest more spawned others y)
    (P : Op → Bool) :
    tally P p = [op].countP P + rest.countP P + Pool.total (List.countP P) others := by
  rw [tally_of_perm h.before, Pool.total_cons, ← List.singleton_append, List.countP_append]

theorem ListStep.tally_after (h : ListStep dbg p q op rest more spawned others y)
    (P : Op → Bool) :
    tally P q = more.countP P + rest.countP P +
      (Pool.total (List.countP P) spawned + Pool.total (List.countP P) others) := by
  rw [tally_of_perm h.after, Pool.total_cons, Pool.total_append, List.countP_append]

theorem ListStep.mem_before (h : ListStep dbg p q op rest more spawned others y) {l : List Op} :
    l ∈ lists p ↔ l = op :: rest ∨ l ∈ others := by
  rw [h.before.mem_iff, List.mem_cons]

theorem ListStep.mem_after (h : ListStep dbg p q op rest more spawned others y) {l : List Op} :
    l ∈ lists q ↔ l = more ++ rest ∨ l ∈ spawned ∨ l ∈ others := by
  rw [h.after.mem_iff, List.mem_cons, List.mem_append]

theorem ListStep.mem_spawned (h : ListStep dbg p q op rest more spawned others y) {l : List Op}
    (hl : l ∈ spawned) :
    (∃ r text hasBody, l = [.upload r (.storeCanSend text hasBody)]) ∨
      ∃ r, l = [.request r .awaitStreamEnd] := by
  obtain ⟨ts, hmove, hspawned | ⟨hspawned, -⟩⟩ := h.move
  · obtain ⟨t, ht, rfl⟩ := List.mem_map.mp (hspawned ▸ hl)
    exact hmove.spawned_ops ht
  · simp [hspawned] at hl

theorem ListStep.req_cases (h : ListStep dbg p q op rest more spawned others y) {o : Op}
    (hsocket : op.isSocket = false) (ho : o ∈ more ∨ ∃ l ∈ spawned, o ∈ l) :
    o.req = op.req ∨ ∃ text hasBody, op = .nextReqId text hasBody ∧
      o = .request (p.shared.rs.reqIdGenerator + 1) (.insertCtx text hasBody) := by
  obtain ⟨ts, hmove, hspawned | ⟨hspawned, -⟩⟩ := h.move
  · exact hmove.req_cases hsocket (by simpa [hspawned] using ho)
  · exact hmove.req_cases hsocket (.inl (by simpa [hspawned] using ho))

/-- The websocket does not go away. -/
def Label.staysOpen : Label → Bool
  | .close _ | .fail _ => false
  | _ => true

/-- Only a handler that waits for the response header is dropped. -/
def dropsAtHeader (p : SocketPool) : Label → Bool
  | .dropHandler i =>
      match p.tasks[i]?.bind (·.ops.head?) with
      | some (.request _ .recvHeader) => true
      | _ => false
  | _ => true

/-- What holds of every list while the websocket stays open: it works for one request, and an
operation that may wait or decide comes last. -/
structure Base (p : SocketPool) : Prop where
  recv : ∀ o ∈ p.shared.recv, o.simple = true
  noSocket : ∀ l ∈ lists p, ∀ o ∈ l, o.isSocket = false
  uniform : ∀ l ∈ lists p, ∀ o ∈ l, ∀ o' ∈ l, o'.req = o.req
  shape : ∀ l ∈ lists p, ∀ o ∈ l.dropLast, o.simple = true
  queueOpen : p.shared.rs.wssSendTask.closed = false
  opened : ∀ r, (p.shared.rs.contexts r).state = .opened
  taken : ∀ r, (p.shared.rs.contexts r).tgtResHdr.taken ≤
    (p.shared.rs.contexts r).tgtResHdr.sent.length

theorem eq_nil_of_not_simple {rest : List Op} (hop : op.simple = false)
    (hshape : ∀ o ∈ (op :: rest).dropLast, o.simple = true) : rest = [] := by
  cases rest with
  | nil => rfl
  | cons o rest =>
      have h := hshape op (by simp)
      simp [hop] at h

private theorem Base.of_lists (hbase : Base p)
    (hrecv : ∀ o ∈ q.shared.recv, o ∈ p.shared.recv ∨ o.simple = true)
    (hlists : ∀ l ∈ lists q, l ∈ lists p ∨ l = [] ∨ ∃ o, l = [o] ∧ o.isSocket = false)
    (hqueue : q.shared.rs.wssSendTask = p.shared.rs.wssSendTask)
    (hcontexts : q.shared.rs.contexts = p.shared.rs.contexts) : Base q := by
  constructor
  · exact fun o ho => (hrecv o ho).elim (hbase.recv o) id
  · intro l hl
    obtain hl | rfl | ⟨o, rfl, ho⟩ := hlists l hl
    · exact hbase.noSocket l hl
    · simp
    · simpa using ho
  · intro l hl
    obtain hl | rfl | ⟨o, rfl, -⟩ := hlists l hl
    · exact hbase.uniform l hl
    · simp
    · simp
  · intro l hl
    obtain hl | rfl | ⟨o, rfl, -⟩ := hlists l hl
    · exact hbase.shape l hl
    · simp
    · simp
  · exact hqueue ▸ hbase.queueOpen
  · exact fun r => hcontexts ▸ hbase.opened r
  · exact fun r => hcontexts ▸ hbase.taken r

theorem Base.list (hbase : Base p) (h : ListStep dbg p q op rest more spawned others y) :
    Base q := by
  obtain ⟨ts, hmove, -⟩ := h.move
  have hmem : op :: rest ∈ lists p := h.mem_before.mpr (.inl rfl)
  have hothers : ∀ l ∈ others, l ∈ lists p := fun l hl => h.mem_before.mpr (.inr hl)
  have hsocket : op.isSocket = false := hbase.noSocket _ hmem op (by simp)
  have hrs : q.shared.rs = y.rs := by rw [h.shared]
  constructor
  · obtain hsame | ⟨hrecv, hrecv'⟩ := h.recv
    · rw [hsame]
      exact hbase.recv
    · intro o ho
      rw [hrecv'] at ho
      obtain ho | ho := List.mem_append.mp ho
      · exact hmove.simple_of_mem (hbase.recv op (by simp [hrecv])) ho
      · exact hbase.recv o (by simp [hrecv, ho])
  · intro l hl o ho
    obtain rfl | hl | hl := h.mem_after.mp hl
    · obtain ho | ho := List.mem_append.mp ho
      · exact hmove.isSocket_of_mem hsocket ho
      · exact hbase.noSocket _ hmem o (by simp [ho])
    · obtain ⟨r, text, hasBody, rfl⟩ | ⟨r, rfl⟩ := h.mem_spawned hl <;>
        (rw [List.mem_singleton.mp ho]; rfl)
    · exact hbase.noSocket l (hothers l hl) o ho
  · intro l hl
    obtain rfl | hl | hl := h.mem_after.mp hl
    · by_cases hop : op.simple = true
      · -- an operation that something follows names its request in all that comes after it
        have hreq : ∀ o ∈ more ++ rest, o.req = op.req := by
          intro o ho
          obtain ho | ho := List.mem_append.mp ho
          · obtain hreq | ⟨text, hasBody, rfl, -⟩ := h.req_cases hsocket (.inl ho)
            · exact hreq
            · cases hop
          · exact hbase.uniform _ hmem op (by simp) o (by simp [ho])
        intro o ho o' ho'
        rw [hreq o ho, hreq o' ho']
      · obtain rfl : rest = [] :=
          eq_nil_of_not_simple (by simpa using hop) (hbase.shape _ hmem)
        rw [List.append_nil]
        intro o ho o' ho'
        obtain hreq | ⟨text, hasBody, rfl, rfl⟩ := h.req_cases hsocket (.inl ho) <;>
          obtain hreq' | ⟨text', hasBody', hop', rfl⟩ := h.req_cases hsocket (.inl ho')
        · rw [hreq, hreq']
        · subst hop'
          cases hmove
          simp_all
        · cases hmove
          simp_all
        · rfl
    · obtain ⟨r, text, hasBody, rfl⟩ | ⟨r, rfl⟩ := h.mem_spawned hl <;>
        (intro o ho o' ho'; rw [List.mem_singleton.mp ho, List.mem_singleton.mp ho'])
    · exact hbase.uniform l (hothers l hl)
  · intro l hl o ho
    obtain rfl | hl | hl := h.mem_after.mp hl
    · by_cases hop : op.simple = true
      · have hdrop : o ∈ more ∨ o ∈ rest.dropLast := by
          by_cases hrest : rest = []
          · exact .inl (List.mem_of_mem_dropLast (by simpa [hrest] using ho))
          · rw [List.dropLast_append_of_ne_nil hrest] at ho
            exact List.mem_append.mp ho
        obtain ho | ho := hdrop
        · exact hmove.simple_of_mem hop ho
        · refine hbase.shape _ hmem o ?_
          rw [List.dropLast_cons_of_ne_nil (by rintro rfl; simp at ho)]
          exact List.mem_cons_of_mem _ ho
      · obtain rfl : rest = [] :=
          eq_nil_of_not_simple (by simpa using hop) (hbase.shape _ hmem)
        rw [List.append_nil] at ho
        exact hmove.simple_of_mem_dropLast hsocket ho
    · obtain ⟨r, text, hasBody, rfl⟩ | ⟨r, rfl⟩ := h.mem_spawned hl <;> simp at ho
    · exact hbase.shape l (hothers l hl) o ho
  · rw [hrs, hmove.closed_eq hsocket]
    exact hbase.queueOpen
  · intro r
    rw [hrs]
    exact hmove.state_opened hsocket (hbase.opened r)
  · intro r
    rw [hrs]
    exact hmove.hdr_taken_le hsocket (hbase.taken r)

theorem frameOps_cases (type flags : UInt8) (r : ReqId) (bin : Bytes) :
    frameOps type flags r bin = [] ∨ ∃ o, frameOps type flags r bin = [.frame r o] := by
  unfold frameOps
  split_ifs <;> simp

/-- A received frame is noted and handled if its request is open. -/
theorem receive_cases (x : Shared) (b : Bytes) :
    x.receive b = x ∨ ∃ type flags r bin, head? b = some (type, flags, r, bin) ∧
      r ∈ x.rs.contextMap ∧
      x.receive b = { x.noteFrame type flags r with recv := frameOps type flags r bin } := by
  unfold Shared.receive
  split
  · exact .inl rfl
  · rename_i type flags r bin hhead
    split
    · rename_i hr
      exact .inr ⟨type, flags, r, bin, hhead, hr, rfl⟩
    · exact .inl rfl

/-- The lists that come from outside. -/
inductive Arrives (p q : SocketPool) : List (List Op) → Prop
  | nothing : Arrives p q []
  | request (text : String) (hasBody : Bool) : Arrives p q [[.checkRemoved text hasBody]]
  | dropped (hidle : p.shared.recv = []) : Arrives p q [[]]
  | frame (type flags : UInt8) (r : ReqId) (bin : Bytes) (hr : r ∈ p.shared.rs.contextMap) :
      Arrives p q [frameOps type flags r bin]
  | close (frame : Option CloseFrame) : Arrives p q [closeOps frame]
  | fail (crex : CrankerRouterException) (hup : p.shared.tornDown = false)
      (hdown : q.shared.tornDown = true) : Arrives p q [teardownOps crex]

/-- A step that executes no operation: lists come and go, an entry may leave the map. -/
structure IdleStep (p q : SocketPool) (gone new kept : List (List Op)) : Prop where
  before : (lists p).Perm (gone ++ kept)
  after : (lists q).Perm (new ++ kept)
  leaves : ∀ l ∈ gone, l = [] ∨ ∃ o ∈ l.head?, o.awaits = true
  arrives : Arrives p q new
  contexts : q.shared.rs.contexts = p.shared.rs.contexts
  queue : q.shared.rs.wssSendTask = p.shared.rs.wssSendTask
  onComplete : q.shared.rs.onComplete = p.shared.rs.onComplete
  admitted : q.shared.admitted = p.shared.admitted
  map : q.shared.rs.contextMap = p.shared.rs.contextMap ∧
      q.shared.rs.removals = p.shared.rs.removals ∨
    ∃ r ∈ p.shared.rs.removals, q.shared.rs.contextMap = p.shared.rs.contextMap.filter (· ≠ r) ∧
      q.shared.rs.removals = p.shared.rs.removals.erase r
  tornDown : q.shared.tornDown = p.shared.tornDown ∨ ∃ crex, new = [teardownOps crex]

private theorem IdleStep.of_rs {gone new kept : List (List Op)}
    (before : (lists p).Perm (gone ++ kept))
    (after : (lists q).Perm (new ++ kept))
    (leaves : ∀ l ∈ gone, l = [] ∨ ∃ o ∈ l.head?, o.awaits = true) (arrives : Arrives p q new)
    (hrs : q.shared.rs = p.shared.rs) (admitted : q.shared.admitted = p.shared.admitted)
    (tornDown : q.shared.tornDown = p.shared.tornDown ∨ ∃ crex, new = [teardownOps crex]) :
    IdleStep p q gone new kept where
  before := before
  after := after
  leaves := leaves
  arrives := arrives
  contexts := by rw [hrs]
  queue := by rw [hrs]
  onComplete := by rw [hrs]
  admitted := admitted
  map := .inl (by rw [hrs]; exact ⟨rfl, rfl⟩)
  tornDown := tornDown

theorem idleStep_of_step {a : Label} (h : step dbg overflowChecks p a = some q)
    (hops : a.ops p = []) : ∃ gone new kept, IdleStep p q gone new kept := by
  have hadd : ∀ l : List Op,
      (p.shared.recv :: (p.tasks.map Task.ops ++ [l])).Perm ([l] ++ lists p) := by
    intro l
    exact ((List.perm_append_singleton _ _).cons _).trans (.swap _ _ _)
  cases stepCases h with
  | list hops' h => simp [hops] at hops'
  | request text hasBody =>
      refine ⟨[], [[.checkRemoved text hasBody]], lists p,
        .of_rs (.refl _) ?_ (by simp) (.request text hasBody) rfl rfl (.inl rfl)⟩
      simp only [lists, List.map_append]
      exact hadd _
  | receive b hidle =>
      have hgone : (lists p).Perm ([[]] ++ p.tasks.map Task.ops) := by simp [lists, hidle]
      obtain hsame | ⟨type, flags, r, bin, -, hr, hrecv⟩ := receive_cases p.shared b
      · rw [hsame]
        exact ⟨[[]], [[]], _, .of_rs hgone hgone (by simp) (.dropped hidle) rfl rfl (.inl rfl)⟩
      · rw [hrecv]
        exact ⟨[[]], [frameOps type flags r bin], p.tasks.map Task.ops,
          .of_rs hgone (.refl _) (by simp) (.frame type flags r bin hr) rfl rfl (.inl rfl)⟩
  | close frame hidle =>
      refine ⟨[[]], [closeOps frame], p.tasks.map Task.ops,
        .of_rs ?_ (.refl _) (by simp) (.close frame) rfl rfl (.inl rfl)⟩
      simp [lists, hidle]
  | dropHandler i l r t hget htasks hawaits =>
      have hshared : (p.shared.markGone t.req).rs = p.shared.rs ∧
          (p.shared.markGone t.req).recv = p.shared.recv ∧
          (p.shared.markGone t.req).admitted = p.shared.admitted ∧
          (p.shared.markGone t.req).tornDown = p.shared.tornDown := by
        cases t.req <;> exact ⟨rfl, rfl, rfl, rfl⟩
      obtain ⟨hrs, hrecv, hadm, htorn⟩ := hshared
      refine ⟨[t.ops], [], p.shared.recv :: (l.map Task.ops ++ r.map Task.ops),
        .of_rs ?_ ?_ ?_ .nothing hrs hadm (.inl htorn)⟩
      · simp only [lists, htasks, List.map_append, List.map_cons, List.singleton_append]
        exact (List.Perm.cons _ List.perm_middle).trans (List.Perm.swap _ _ _)
      · simp [lists, hrecv]
      · intro l' hl'
        obtain rfl := List.mem_singleton.mp hl'
        cases hhead : t.ops.head? with
        | none => simp [hhead] at hawaits
        | some o => exact .inr ⟨o, by simp, by simpa [hhead] using hawaits⟩
  | fail crex hup =>
      refine ⟨[], [teardownOps crex], lists p,
        .of_rs (.refl _) ?_ (by simp) (.fail crex hup rfl) rfl rfl (.inr ⟨crex, rfl⟩)⟩
      simp only [lists, List.map_append]
      exact hadd _
  | remove r hr =>
      exact ⟨[], [], lists p, .refl _, .refl _, by simp, .nothing, rfl, rfl, rfl, rfl,
        .inr ⟨r, hr, rfl, rfl⟩, .inl rfl⟩
  | dropStream | setRemoved | tick =>
      exact ⟨[], [], lists p, .refl _, .refl _, by simp, .nothing, rfl, rfl, rfl, rfl,
        .inl ⟨rfl, rfl⟩, .inl rfl⟩

private theorem mem_lists {l : List Op} :
    l ∈ lists p ↔ l = p.shared.recv ∨ ∃ t ∈ p.tasks, t.ops = l := by
  simp [lists, eq_comm]

theorem Base.step (hbase : Base p) {a : Label} (hopen : a.staysOpen = true)
    (hstep : step dbg overflowChecks p a = some q) : Base q := by
  cases stepCases hstep with
  | list hops h => exact hbase.list h
  | request text hasBody =>
      refine hbase.of_lists (fun o ho => .inl ho) ?_ rfl rfl
      intro l hl
      simp only [lists, List.map_append, ← List.cons_append, List.mem_append] at hl
      refine hl.imp_right fun hl => .inr ⟨.checkRemoved text hasBody, ?_, rfl⟩
      simpa using hl
  | receive b hidle =>
      obtain hx | ⟨type, flags, r, bin, -, -, hx⟩ := receive_cases p.shared b <;> rw [hx]
      · exact hbase.of_lists (fun o ho => .inl ho) (fun l hl => .inl hl) rfl rfl
      · refine hbase.of_lists (fun o ho => .inr ?_) ?_ rfl rfl
        · obtain h | ⟨o', h⟩ := frameOps_cases type flags r bin
          · simp [h] at ho
          · obtain rfl : o = .frame r o' := by simpa [h] using ho
            rfl
        intro l hl
        obtain rfl | hl := List.mem_cons.mp hl
        · obtain h | ⟨o, h⟩ := frameOps_cases type flags r bin
          · exact .inr (.inl h)
          · exact .inr (.inr ⟨.frame r o, h, rfl⟩)
        · exact .inl (List.mem_cons_of_mem _ hl)
  | close frame hidle => cases hopen
  | remove r hr => exact hbase.of_lists (fun o ho => .inl ho) (fun l hl => .inl hl) rfl rfl
  | dropHandler i l r t hget htasks hawaits =>
      have hshared : (p.shared.markGone t.req).recv = p.shared.recv ∧
          (p.shared.markGone t.req).rs = p.shared.rs := by
        cases t.req <;> exact ⟨rfl, rfl⟩
      refine hbase.of_lists (fun o ho => .inl (hshared.1 ▸ ho)) ?_ (by rw [hshared.2]) (by rw [hshared.2])
      intro ops hops
      simp only [lists, hshared.1, htasks] at hops ⊢
      left
      grind -ring -linarith
  | dropStream r hlive => exact hbase.of_lists (fun o ho => .inl ho) (fun l hl => .inl hl) rfl rfl
  | fail crex => cases hopen
  | setRemoved => exact hbase.of_lists (fun o ho => .inl ho) (fun l hl => .inl hl) rfl rfl
  | tick now => exact hbase.of_lists (fun o ho => .inl ho) (fun l hl => .inl hl) rfl rfl

/-- The receive pipe spawns no task. -/
theorem ListStep.move_spawned (hbase : Base p) (h : ListStep dbg p q op rest more spawned others y)
    :
    ∃ ts, Move dbg p.shared op y more ts ∧ spawned = ts.map Task.ops := by
  obtain ⟨ts, hmove, hspawned | ⟨hspawned, hrecv⟩⟩ := h.move
  · exact ⟨ts, hmove, hspawned⟩
  · have hnone : ts = [] := hmove.spawns_nothing (hbase.recv op (by simp [hrecv]))
    exact ⟨ts, hmove, by simp [hspawned, hnone]⟩

/-- The step has nothing to do with the request. -/
structure Same (r : ReqId) (p q : SocketPool) : Prop where
  quiet : Quiet r p.shared.rs q.shared.rs
  admitted : r ∈ q.shared.admitted ↔ r ∈ p.shared.admitted
  endedAt : q.shared.endedAt r = p.shared.endedAt r
  endStreamSeen : q.shared.endStreamSeen r = p.shared.endStreamSeen r
  bodyStream : q.shared.bodyStream r = p.shared.bodyStream r
  clientGone : q.shared.clientGone r = p.shared.clientGone r
  lists : ∀ l ∈ lists q, l ∈ lists p ∨ ∀ o ∈ l, o.req ≠ some r
  tally : ∀ P, (∀ o, P o = true → o.req = some r) → tally P q = tally P p

private theorem Same.of_rs {rs' : RouterSocketV3} (hquiet : Quiet r p.shared.rs rs') :
    Same r p ⟨{ p.shared with rs := rs' }, p.tasks⟩ where
  quiet := hquiet
  admitted := Iff.rfl
  endedAt := rfl
  endStreamSeen := rfl
  bodyStream := rfl
  clientGone := rfl
  lists := fun _ hl => .inl hl
  tally := fun _ _ => rfl

/-- What a step can be for one request. -/
inductive StepFor (dbg : DebugText) (r : ReqId) (p : SocketPool) (a : Label) (q : SocketPool) : Prop
  | same (h : Same r p q)
  | list {op : Op} {rest more : List Op} {spawned others : List (List Op)} {y : Shared}
      (hops : a.ops p = op :: rest) (h : ListStep dbg p q op rest more spawned others y)
      (hreq : op.req = some r)
  | born (text : String) (hasBody : Bool) (others : List (List Op))
      (hnew : r ∉ p.shared.admitted) (hadmitted : q.shared.admitted = r :: p.shared.admitted)
      (hquiet : Quiet r p.shared.rs q.shared.rs)
      (hended : q.shared.endedAt = p.shared.endedAt)
      (hseen : q.shared.endStreamSeen = p.shared.endStreamSeen)
      (hstream : q.shared.bodyStream = p.shared.bodyStream)
      (hgone : q.shared.clientGone = p.shared.clientGone)
      (hbefore : (lists p).Perm ([.nextReqId text hasBody] :: others))
      (hafter : (lists q).Perm ([.request r (.insertCtx text hasBody)] :: others))
  | receive (b : Bytes) (type flags : UInt8) (bin : Bytes) (ha : a = .receive b)
      (hhead : head? b = some (type, flags, r, bin)) (hidle : p.shared.recv = [])
      (hr : r ∈ p.shared.rs.contextMap)
      (hq : q = ⟨{ p.shared.noteFrame type flags r with recv := frameOps type flags r bin }, p.tasks⟩)
  | remove (hr : r ∈ p.shared.rs.removals)
      (hq : q = ⟨{ p.shared with rs := p.shared.rs.removeReqCtx r }, p.tasks⟩)
  | dropHandler (i : Nat) (ha : a = .dropHandler i)
      (hget : p.tasks[i]?.bind (·.ops.head?) = some (.request r .recvHeader))
      (hlists : (lists p).Perm ([.request r .recvHeader] :: lists q))
      (hshared : q.shared = p.shared.markGone (some r))
  | dropStream (hlive : p.shared.bodyStream r = .live)
      (hq : q = ⟨(p.shared.markGone (some r)).setBodyStream r .gone, p.tasks⟩)

/-- No operation writes the history of the frames and of the client. -/
theorem Move.history {x y : Shared} {more : List Op} {ts : List Task}
    (hmove : Move dbg x op y more ts) :
    y.endedAt = x.endedAt ∧ y.endStreamSeen = x.endStreamSeen ∧ y.clientGone = x.clientGone := by
  cases hmove <;> exact ⟨rfl, rfl, rfl⟩

private theorem Move.bodyStream_eq {x y : Shared} {more : List Op} {ts : List Task}
    (hmove : Move dbg x op y more ts) (hreq : op.req ≠ some r) :
    y.bodyStream r = x.bodyStream r := by
  cases hmove with
  | responded r' content =>
      have hr : r ≠ r' := by
        rintro rfl
        exact hreq rfl
      simp [Shared.setBodyStream, hr]
  | buildFails r' crex =>
      have hr : r ≠ r' := by
        rintro rfl
        exact hreq rfl
      simp [Shared.setBodyStream, hr]
  | _ => rfl

theorem Move.admitted_cases {x y : Shared} {more : List Op} {ts : List Task}
    (hmove : Move dbg x op y more ts) :
    y.admitted = x.admitted ∨ ∃ text hasBody, op = .nextReqId text hasBody ∧
      x.rs.reqIdGenerator + 1 ∉ x.admitted ∧
      y.admitted = (x.rs.reqIdGenerator + 1) :: x.admitted := by
  cases hmove with
  | nextReqId text hasBody hnew => exact .inr ⟨text, hasBody, rfl, hnew, rfl⟩
  | _ => exact .inl rfl

private theorem Op.not_isSpecial (hreq : op.req ≠ some r) :
    op.isSpecial r = false := by
  cases op <;> simp_all [Op.isSpecial, Op.isNotify, Op.isRequest, Op.isFrame, Op.req]

theorem ListStep.same (hbase : Base p) (h : ListStep dbg p q op rest more spawned others y)
    (hreq : op.req ≠ some r)
    (hnext : ∀ text hasBody, op = .nextReqId text hasBody → p.shared.rs.reqIdGenerator + 1 ≠ r) :
    Same r p q := by
  obtain ⟨ts, hmove, -⟩ := h.move
  have hmem : op :: rest ∈ V3.lists p := h.mem_before.mpr (.inl rfl)
  have hsocket : op.isSocket = false := hbase.noSocket _ hmem op (by simp)
  have hnew : ∀ o, (o ∈ more ∨ ∃ l ∈ spawned, o ∈ l) → o.req ≠ some r := by
    intro o ho
    obtain hsame | ⟨text, hasBody, hop, rfl⟩ := h.req_cases hsocket ho
    · rw [hsame]
      exact hreq
    · simpa [Op.req] using hnext text hasBody hop
  have hrest : ∀ o ∈ rest, o.req ≠ some r := by
    intro o ho
    rw [hbase.uniform _ hmem op (by simp) o (by simp [ho])]
    exact hreq
  have hshared := h.shared
  obtain ⟨hended, hseen, hgone⟩ := hmove.history
  constructor
  · rw [hshared]
    exact hmove.quiet hsocket (Op.not_isSpecial hreq)
  · rw [hshared]
    obtain hsame | ⟨text, hasBody, hop, -, hadmitted⟩ := hmove.admitted_cases
    · rw [hsame]
    · rw [hadmitted, List.mem_cons, or_iff_right (hnext text hasBody hop).symm]
  · rw [hshared, hended]
  · rw [hshared, hseen]
  · rw [hshared]
    exact hmove.bodyStream_eq hreq
  · rw [hshared, hgone]
  · intro l hl
    obtain rfl | hl | hl := h.mem_after.mp hl
    · right
      intro o ho
      obtain ho | ho := List.mem_append.mp ho
      · exact hnew o (.inl ho)
      · exact hrest o ho
    · exact .inr fun o ho => hnew o (.inr ⟨l, hl, ho⟩)
    · exact .inl (h.mem_before.mpr (.inr hl))
  · intro P hP
    have hmore : more.countP P = 0 :=
      List.countP_eq_zero.mpr fun o ho hPo => hnew o (.inl ho) (hP o hPo)
    have hspawned : Pool.total (List.countP P) spawned = 0 :=
      Pool.total_eq_zero fun l hl => List.countP_eq_zero.mpr fun o ho hPo =>
        hnew o (.inr ⟨l, hl, ho⟩) (hP o hPo)
    have hop : [op].countP P = 0 := by
      rw [List.countP_eq_zero]
      intro o ho hPo
      rw [List.mem_singleton.mp ho] at hPo
      exact hreq (hP op hPo)
    have hbefore := h.tally_before P
    have hafter := h.tally_after P
    omega

theorem ListStep.born {a : Label} {text : String} {hasBody : Bool} (hbase : Base p)
    (h : ListStep dbg p q (.nextReqId text hasBody) rest more spawned others y) :
    StepFor dbg (p.shared.rs.reqIdGenerator + 1) p a q := by
  obtain rfl : rest = [] :=
    eq_nil_of_not_simple rfl (hbase.shape _ (h.mem_before.mpr (.inl rfl)))
  obtain ⟨ts, hmove, hspawned⟩ := h.move
  have hshared := h.shared
  have hbefore := h.before
  have hafter := h.after
  cases hmove with
  | nextReqId _ _ hnew =>
      obtain rfl : spawned = [] := hspawned.elim id And.left
      exact .born text hasBody others hnew (by rw [hshared])
        (by rw [hshared]; exact ⟨Iff.rfl, rfl, rfl, rfl, .refl _⟩) (by rw [hshared]) (by rw [hshared])
        (by rw [hshared]) (by rw [hshared]) hbefore (by simpa using hafter)

private theorem dropped_ops {i : Nat} {t : Task} (hbase : Base p) (hget : p.tasks[i]? = some t)
    (hdrop : dropsAtHeader p (.dropHandler i) = true) :
    ∃ r, t.ops = [.request r .recvHeader] := by
  have hmem : t.ops ∈ lists p := mem_lists.mpr (.inr ⟨t, List.mem_of_getElem? hget, rfl⟩)
  simp only [dropsAtHeader, hget, Option.bind_some] at hdrop
  split at hdrop
  · rename_i r hhead
    obtain ⟨rest, hops⟩ : ∃ rest, t.ops = .request r .recvHeader :: rest :=
      List.head?_eq_some_iff.mp hhead
    rw [hops] at hmem ⊢
    exact ⟨r, by rw [eq_nil_of_not_simple rfl (hbase.shape _ hmem)]⟩
  · cases hdrop

theorem stepFor (r : ReqId) (hbase : Base p) {a : Label} (hopen : a.staysOpen = true)
    (hdrop : dropsAtHeader p a = true) (hstep : step dbg overflowChecks p a = some q) :
    StepFor dbg r p a q := by
  cases stepCases hstep with
  | @list _ _ op rest more spawned others y hops h =>
      have hmem : op :: rest ∈ lists p := h.mem_before.mpr (.inl rfl)
      by_cases hreq : op.req = some r
      · exact .list hops h hreq
      · by_cases hnext : ∃ text hasBody, op = .nextReqId text hasBody ∧
            p.shared.rs.reqIdGenerator + 1 = r
        · obtain ⟨text, hasBody, rfl, rfl⟩ := hnext
          exact h.born hbase
        · refine .same (h.same hbase hreq fun text hasBody hop hr => hnext ?_)
          exact ⟨text, hasBody, hop, hr⟩
  | request text hasBody =>
      refine .same ⟨.refl r _, Iff.rfl, rfl, rfl, rfl, rfl, ?_, ?_⟩
      · intro l hl
        simp only [lists, List.map_append, ← List.cons_append, List.mem_append] at hl
        refine hl.imp_right fun hl => ?_
        simp only [List.map_cons, List.map_nil, List.mem_singleton] at hl
        simp [hl, Op.req]
      · intro P hP
        have hcheck : P (.checkRemoved text hasBody) = false := by
          by_contra h
          have hreq := hP _ (by simpa using h)
          simp [Op.req] at hreq
        simp [tally, lists, hcheck]
  | receive b hidle =>
      obtain hx | ⟨type, flags, r', bin, hhead, hr, hx⟩ := receive_cases p.shared b <;> rw [hx]
      · exact .same (.of_rs (.refl r _))
      · by_cases hrr : r = r'
        · subst hrr
          exact .receive b type flags bin rfl hhead hidle hr rfl
        · refine .same ⟨.refl r _, Iff.rfl, ?_, ?_, rfl, rfl, ?_, ?_⟩
          · simp [Shared.noteFrame, hrr]
          · simp [Shared.noteFrame, hrr]
          · intro l hl
            obtain rfl | hl := List.mem_cons.mp hl
            · right
              obtain h | ⟨o, h⟩ := frameOps_cases type flags r' bin
              · simp [h]
              · simp [h, Op.req, Ne.symm hrr]
            · exact .inl (List.mem_cons_of_mem _ hl)
          · intro P hP
            have hcount : (frameOps type flags r' bin).countP P = 0 := by
              rw [List.countP_eq_zero]
              intro o ho hPo
              have hreq := hP o hPo
              obtain h | ⟨o', h⟩ := frameOps_cases type flags r' bin
              · simp [h] at ho
              · rw [h, List.mem_singleton] at ho
                simp [ho, Op.req, Ne.symm hrr] at hreq
            simp [tally, lists, hidle, hcount]
  | close frame hidle => cases hopen
  | remove r' hr =>
      by_cases hrr : r = r'
      · subst hrr
        exact .remove hr rfl
      · refine .same (.of_rs ⟨?_, ?_, rfl, rfl, .refl _⟩)
        · simp [RouterSocketV3.removeReqCtx, hrr]
        · simp [RouterSocketV3.removeReqCtx, List.count_erase_of_ne hrr]
  | dropHandler i l l' t hget htasks hawaits =>
      obtain ⟨r', hops⟩ := dropped_ops hbase hget hdrop
      have hreq : t.req = some r' := by simp [Task.req, hops, Op.req]
      have hlists : (lists p).Perm
          ([.request r' .recvHeader] :: lists ⟨p.shared.markGone t.req, l ++ l'⟩) := by
        rw [hreq]
        simp only [lists, htasks, List.map_append, List.map_cons, hops, Shared.markGone]
        exact (List.Perm.cons _ List.perm_middle).trans (List.Perm.swap _ _ _)
      rw [hreq] at hlists ⊢
      by_cases hrr : r = r'
      · subst hrr
        exact .dropHandler i rfl (by simp [hget, hops]) hlists rfl
      · refine .same ⟨.refl r _, Iff.rfl, rfl, rfl, rfl, ?_, ?_, ?_⟩
        · simp [Shared.markGone, hrr]
        · exact fun ops hops => .inl (hlists.mem_iff.mpr (by simp [hops]))
        · intro P hP
          have hrecv : P (.request r' .recvHeader) = false := by
            by_contra h
            have hreq := hP _ (by simpa using h)
            simp [Op.req, Ne.symm hrr] at hreq
          rw [tally_of_perm hlists, Pool.total_cons]
          simp [tally, hrecv]
  | dropStream r' hlive =>
      by_cases hrr : r = r'
      · subst hrr
        exact .dropStream hlive rfl
      · refine .same ⟨.refl r _, Iff.rfl, rfl, rfl, ?_, ?_, fun _ hl => .inl hl, fun _ _ => rfl⟩
        · simp [Shared.setBodyStream, Shared.markGone, hrr]
        · simp [Shared.setBodyStream, Shared.markGone, hrr]
  | fail crex => cases hopen
  | setRemoved => exact .same (.of_rs ⟨Iff.rfl, rfl, rfl, rfl, .refl _⟩)
  | tick now => exact .same (.of_rs ⟨Iff.rfl, rfl, rfl, rfl, .refl _⟩)

/-- The operation works for the request. -/
def Op.mentions (r : ReqId) (op : Op) : Bool := op.req == some r

def Op.inserts (r : ReqId) (op : Op) : Bool := op.isRequest r (·.isInsertCtx)

theorem Op.mentions_iff : op.mentions r = true ↔ op.req = some r := by
  simp [Op.mentions]

theorem Op.req_of_isNotify {P : NotifyOp → Bool} (h : op.isNotify r P = true) :
    op.req = some r := by
  cases op <;> simp_all [Op.isNotify, Op.req]

theorem Op.req_of_isRequest {P : RequestOp → Bool} (h : op.isRequest r P = true) :
    op.req = some r := by
  cases op <;> simp_all [Op.isRequest, Op.req]

theorem Op.req_of_isFrame {P : FrameOp → Bool} (h : op.isFrame r P = true) : op.req = some r := by
  cases op <;> simp_all [Op.isFrame, Op.req]

/-- Nothing has happened to the id yet. -/
structure Blank (r : ReqId) (x : Shared) : Prop where
  queued : x.rs.queued messageTypeRstStream r = 0
  contextMap : r ∉ x.rs.contextMap
  removals : r ∉ x.rs.removals
  endedAt : x.endedAt r = none
  bodyStream : x.bodyStream r = .none
  clientGone : x.clientGone r = false

/-- The context of the request has been inserted. -/
def Started (r : ReqId) (p : SocketPool) : Prop :=
  r ∈ p.shared.admitted ∧ tally (Op.inserts r) p = 0

/-- An id is used once: until its context is inserted, nothing else works for it. -/
structure Fresh (r : ReqId) (p : SocketPool) : Prop where
  unknown : r ∉ p.shared.admitted → tally (Op.mentions r) p = 0
  alone : 0 < tally (Op.inserts r) p → tally (Op.mentions r) p ≤ 1
  blank : ¬ Started r p → Blank r p.shared

theorem Fresh.of_started (h : Started r q) : Fresh r q where
  unknown := fun hr => absurd h.1 hr
  alone := fun hpos => by
    have hzero := h.2
    omega
  blank := fun hnot => absurd h hnot

private theorem inserts_le_mentions (r : ReqId) (l : List Op) :
    l.countP (Op.inserts r) ≤ l.countP (Op.mentions r) :=
  List.countP_mono_left fun _ _ ho => Op.mentions_iff.mpr (Op.req_of_isRequest ho)

private theorem Fresh.started_of_list (hfresh : Fresh r p)
    (h : ListStep dbg p q op rest more spawned others y) (hreq : op.req = some r) :
    Started r q := by
  obtain ⟨ts, hmove, -⟩ := h.move
  have hop : [op].countP (Op.mentions r) = 1 := by simp [Op.mentions, hreq]
  have hmentions := h.tally_before (Op.mentions r)
  have hadmitted : r ∈ p.shared.admitted := by
    by_contra hr
    have hzero := hfresh.unknown hr
    omega
  have hmore : more.countP (Op.inserts r) = 0 := by
    rw [List.countP_eq_zero]
    intro o ho
    simp [Op.inserts, hmove.not_insertCtx_of_mem hreq ho]
  have hspawned : Pool.total (List.countP (Op.inserts r)) spawned = 0 := by
    refine Pool.total_eq_zero fun l hl => ?_
    obtain ⟨r', text, hasBody, rfl⟩ | ⟨r', rfl⟩ := h.mem_spawned hl <;>
      simp [Op.inserts, Op.isRequest, RequestOp.isInsertCtx]
  -- if a context was still to be inserted, that was this operation
  have hrest : rest.countP (Op.inserts r) + Pool.total (List.countP (Op.inserts r)) others = 0 := by
    have hle : rest.countP (Op.inserts r) ≤ rest.countP (Op.mentions r) := inserts_le_mentions r rest
    have hle' : Pool.total (List.countP (Op.inserts r)) others ≤
        Pool.total (List.countP (Op.mentions r)) others :=
      total_le_total fun l _ => inserts_le_mentions r l
    have hinserts := h.tally_before (Op.inserts r)
    by_cases hpos : 0 < tally (Op.inserts r) p
    · have halone := hfresh.alone hpos
      omega
    · omega
  have hafter := h.tally_after (Op.inserts r)
  refine ⟨?_, by omega⟩
  rw [h.shared]
  obtain hsame | ⟨-, -, -, -, hcons⟩ := hmove.admitted_cases
  · rw [hsame]
    exact hadmitted
  · rw [hcons]
    exact List.mem_cons_of_mem _ hadmitted

theorem Fresh.of_insertCtx {text : String} {hasBody : Bool} (hfresh : Fresh r p)
    (h : ListStep dbg p q (.request r (.insertCtx text hasBody)) rest more spawned others y) :
    Blank r p.shared ∧ ∀ P : Op → Bool, (∀ o, P o = true → o.req = some r) →
      P (.request r (.insertCtx text hasBody)) = false → tally P p = 0 := by
  have hinserts := h.tally_before (Op.inserts r)
  have hmentions := h.tally_before (Op.mentions r)
  have hone : [Op.request r (.insertCtx text hasBody)].countP (Op.inserts r) = 1 := by
    simp [Op.inserts, Op.isRequest, RequestOp.isInsertCtx]
  have hone' : [Op.request r (.insertCtx text hasBody)].countP (Op.mentions r) = 1 := by
    simp [Op.mentions, Op.req]
  have halone := hfresh.alone (by omega)
  refine ⟨hfresh.blank fun hstarted => ?_, fun P hP hop => ?_⟩
  · have hzero := hstarted.2
    omega
  · have hrest : rest.countP P ≤ rest.countP (Op.mentions r) :=
      List.countP_mono_left fun o _ ho => Op.mentions_iff.mpr (hP o ho)
    have hothers : Pool.total (List.countP P) others ≤
        Pool.total (List.countP (Op.mentions r)) others :=
      total_le_total fun l _ => List.countP_mono_left fun o _ ho => Op.mentions_iff.mpr (hP o ho)
    have hzero : [Op.request r (.insertCtx text hasBody)].countP P = 0 := by simp [hop]
    have hbefore := h.tally_before P
    omega

/-- Any other operation of the request comes after the insertion. -/
theorem Fresh.started_of_not_inserts (hfresh : Fresh r p)
    (h : ListStep dbg p q op rest more spawned others y) (hreq : op.req = some r)
    (hop : op.inserts r = false) : Started r p := by
  have hmention : [op].countP (Op.mentions r) = 1 := by simp [Op.mentions, hreq]
  have hinsert : [op].countP (Op.inserts r) = 0 := by simp [hop]
  have hmentions := h.tally_before (Op.mentions r)
  have hinserts := h.tally_before (Op.inserts r)
  have hle : rest.countP (Op.inserts r) ≤ rest.countP (Op.mentions r) := inserts_le_mentions r rest
  have hle' : Pool.total (List.countP (Op.inserts r)) others ≤
      Pool.total (List.countP (Op.mentions r)) others :=
    total_le_total fun l _ => inserts_le_mentions r l
  constructor
  · by_contra hr
    have hzero := hfresh.unknown hr
    omega
  · by_contra hpos
    have halone := hfresh.alone (by omega)
    omega

private theorem countP_inserts_frameOps (type flags : UInt8) (r r' : ReqId) (bin : Bytes) :
    (frameOps type flags r' bin).countP (Op.inserts r) = 0 := by
  obtain h | ⟨o, h⟩ := frameOps_cases type flags r' bin <;>
    simp [h, Op.inserts, Op.isRequest]

theorem Fresh.step {a : Label} (hfresh : Fresh r p) (h : StepFor dbg r p a q) :
    Fresh r q := by
  cases h with
  | same h =>
      have hmentions : tally (Op.mentions r) q = tally (Op.mentions r) p :=
        h.tally _ fun o ho => Op.mentions_iff.mp ho
      have hinserts : tally (Op.inserts r) q = tally (Op.inserts r) p :=
        h.tally _ fun o ho => Op.req_of_isRequest ho
      constructor
      · rw [h.admitted, hmentions]
        exact hfresh.unknown
      · rw [hinserts, hmentions]
        exact hfresh.alone
      · intro hnot
        have hblank := hfresh.blank (by simpa [Started, h.admitted, hinserts] using hnot)
        refine ⟨?_, ?_, ?_, ?_, ?_, ?_⟩
        · rw [h.quiet.queued, hblank.queued]
        · rw [h.quiet.contextMap]
          exact hblank.contextMap
        · rw [h.quiet.mem_removals]
          exact hblank.removals
        · rw [h.endedAt, hblank.endedAt]
        · rw [h.bodyStream, hblank.bodyStream]
        · rw [h.clientGone, hblank.clientGone]
  | list hops h hreq => exact .of_started (hfresh.started_of_list h hreq)
  | born text hasBody others hnew hadmitted hquiet hended hseen hstream hgone hbefore hafter =>
      have hzero := hfresh.unknown hnew
      have hblank := hfresh.blank fun hstarted => hnew hstarted.1
      rw [tally_of_perm hbefore, Pool.total_cons] at hzero
      have hone : tally (Op.mentions r) q = 1 := by
        rw [tally_of_perm hafter, Pool.total_cons]
        simp [Op.mentions, Op.req] at hzero ⊢
        exact hzero
      refine ⟨fun hr => ?_, fun _ => hone.le, fun _ => ⟨?_, ?_, ?_, ?_, ?_, ?_⟩⟩
      · rw [hadmitted] at hr
        simp at hr
      · rw [hquiet.queued, hblank.queued]
      · rw [hquiet.contextMap]
        exact hblank.contextMap
      · rw [hquiet.mem_removals]
        exact hblank.removals
      · rw [hended, hblank.endedAt]
      · rw [hstream, hblank.bodyStream]
      · rw [hgone, hblank.clientGone]
  | receive b type flags bin ha hhead hidle hr hq =>
      have hstarted : Started r p := by
        by_contra hnot
        exact (hfresh.blank hnot).contextMap hr
      subst hq
      refine .of_started ⟨hstarted.1, ?_⟩
      have hzero := hstarted.2
      simp only [tally, lists, Pool.total_cons, hidle, List.countP_nil, countP_inserts_frameOps]
        at hzero ⊢
      exact hzero
  | remove hr hq =>
      have hstarted : Started r p := by
        by_contra hnot
        exact (hfresh.blank hnot).removals hr
      subst hq
      exact .of_started hstarted
  | dropHandler i ha hget hlists hshared =>
      have hmentions := tally_dropped (P := Op.mentions r) hlists
      have hinserts := tally_dropped (P := Op.inserts r) hlists
      have hle : tally (Op.inserts r) q ≤ tally (Op.mentions r) q :=
        total_le_total fun l _ => inserts_le_mentions r l
      have hrecv : [Op.request r .recvHeader].countP (Op.inserts r) = 0 := by
        simp [Op.inserts, Op.isRequest, RequestOp.isInsertCtx]
      have hrecv' : [Op.request r .recvHeader].countP (Op.mentions r) = 1 := by
        simp [Op.mentions, Op.req]
      refine .of_started ⟨?_, ?_⟩
      · rw [hshared]
        by_contra hr
        have hzero := hfresh.unknown hr
        omega
      · by_contra hpos
        have halone := hfresh.alone (by omega)
        omega
  | dropStream hlive hq =>
      have hstarted : Started r p := by
        by_contra hnot
        rw [(hfresh.blank hnot).bodyStream] at hlive
        cases hlive
      subst hq
      exact .of_started hstarted

end CrankerRouter.V3
