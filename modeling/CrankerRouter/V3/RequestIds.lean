import CrankerRouter.Lib.Assoc
import CrankerRouter.Lib.Machine
import CrankerRouter.V3.Completion

/-!
# Request ids

`on_client_req` draws an id from a wrapping counter, builds the context and stores it under the id;
the removals that are spawned later know the id only.  Requests are numbered here in the order in
which they drew their ids, so that two requests with one id can be told apart.
-/

namespace CrankerRouter.V3.RequestIds

open Lib

/-- A `RequestContext`, with the number of the request it was made for. -/
structure Context where
  request : Nat
  requestId : ReqId
  deriving DecidableEq

/-- `waiting` holds the contexts that are not stored yet and `removals` the spawned removals that
have not run.  `admitted`, `inserted` and `opened` are history: how many ids were drawn, the
contexts stored so far, and those of them for which no removal was spawned. -/
structure State where
  reqIdGenerator : BitVec 32
  contextMap : AList (fun _ : ReqId => Context)
  waiting : List Context
  removals : List Context
  admitted : Nat
  inserted : List Context
  opened : List Context

def State.new : State where
  reqIdGenerator := 0
  contextMap := ∅
  waiting := []
  removals := []
  admitted := 0
  inserted := []
  opened := []

/-- The context that the next request is given. -/
def State.nextContext (s : State) : Context := ⟨s.admitted + 1, s.reqIdGenerator + 1⟩

/-- `req_id_generator.fetch_add(1) + 1` and `RequestContext::new`. -/
def State.nextReqId (s : State) : State :=
  { s with
    reqIdGenerator := s.reqIdGenerator + 1
    waiting := s.nextContext :: s.waiting
    admitted := s.admitted + 1 }

/-- `context_map.insert(req_id, ctx)`. -/
def State.insertCtx (s : State) (ctx : Context) : State :=
  { s with
    contextMap := s.contextMap.insert ctx.requestId ctx
    waiting := s.waiting.erase ctx
    inserted := ctx :: s.inserted
    opened := ctx :: s.opened }

def State.trySpawnRemoveReqCtx (s : State) (ctx : Context) : State :=
  { s with
    removals := ctx :: s.removals
    opened := s.opened.filter (· ≠ ctx) }

/-- The spawned task: `context_map.remove(&req_id)`. -/
def State.remove (s : State) (ctx : Context) : State :=
  { s with
    contextMap := s.contextMap.erase ctx.requestId
    removals := s.removals.erase ctx }

/-- `context_map.retain(|_, _| return false)` at the end of `terminate_all_conn`. -/
def State.retainNone (s : State) : State := { s with contextMap := ∅, opened := [] }

inductive Label
  | nextReqId
  | insertCtx (ctx : Context)
  | trySpawnRemoveReqCtx (ctx : Context)
  | remove (ctx : Context)
  | retainNone

/-- One step of a task on the socket.  A context outlives its entry of the map, so a removal may be
spawned for any context that was stored, and more than once: `on_client_req` does so in
`notify_client_request_error` and again in `reset_stream`. -/
def step (s : State) : Label → Option State
  | .nextReqId => some s.nextReqId
  | .insertCtx ctx => if ctx ∈ s.waiting then some (s.insertCtx ctx) else none
  | .trySpawnRemoveReqCtx ctx =>
      if ctx ∈ s.inserted then some (s.trySpawnRemoveReqCtx ctx) else none
  | .remove ctx => if ctx ∈ s.removals then some (s.remove ctx) else none
  | .retainNone => some s.retainNone

def machine : Machine State Label where
  init s := s = .new
  step := step

def State.checkIfContextExists (s : State) (reqId : ReqId) : Option Context :=
  s.contextMap.lookup reqId

private theorem checkIfContextExists_insertCtx (s : State) (ctx : Context) (reqId : ReqId) :
    (s.insertCtx ctx).checkIfContextExists reqId =
      if reqId = ctx.requestId then some ctx else s.checkIfContextExists reqId :=
  Assoc.lookup_insert_eq _ _ _ _

private theorem checkIfContextExists_remove (s : State) (ctx : Context) (reqId : ReqId) :
    (s.remove ctx).checkIfContextExists reqId =
      if reqId = ctx.requestId then none else s.checkIfContextExists reqId :=
  Assoc.lookup_erase_eq _ _ _

@[simp] theorem checkIfContextExists_retainNone (s : State) (reqId : ReqId) :
    s.retainNone.checkIfContextExists reqId = none :=
  AList.lookup_empty _

/-- Fewer than `2 ^ 32` requests are admitted after this one, the next one included. -/
def State.recent (s : State) (ctx : Context) : Bool := s.admitted + 1 < ctx.request + 2 ^ 32

/-- No context stays open, from the draw of its id to the end of its entry, while `2 ^ 32` later
requests are admitted. -/
def closesInTime (s : State) : Label → Bool
  | .nextReqId => s.waiting.all s.recent && s.contextMap.entries.all fun e => s.recent e.2
  | _ => true

/-- The same for the removals: none is spawned or still pending that late. -/
def removesInTime (s : State) : Label → Bool
  | .nextReqId => s.removals.all s.recent
  | .trySpawnRemoveReqCtx ctx => s.admitted < ctx.request + 2 ^ 32
  | _ => true

/-- Nothing about a request is late. -/
def InTime (s : State) (a : Label) : Prop := closesInTime s a = true ∧ removesInTime s a = true

instance (s : State) (a : Label) : Decidable (InTime s a) :=
  inferInstanceAs (Decidable (_ ∧ _))

/-! ### What a step does -/

inductive Next (s : State) : Label → State → Prop
  | nextReqId : Next s .nextReqId s.nextReqId
  | insertCtx (ctx : Context) (h : ctx ∈ s.waiting) : Next s (.insertCtx ctx) (s.insertCtx ctx)
  | trySpawnRemoveReqCtx (ctx : Context) (h : ctx ∈ s.inserted) :
      Next s (.trySpawnRemoveReqCtx ctx) (s.trySpawnRemoveReqCtx ctx)
  | remove (ctx : Context) (h : ctx ∈ s.removals) : Next s (.remove ctx) (s.remove ctx)
  | retainNone : Next s .retainNone s.retainNone

private theorem step_next {s t : State} {a : Label} (h : step s a = some t) : Next s a t := by
  cases a with
  | nextReqId =>
      obtain rfl := Option.some.inj h
      exact .nextReqId
  | insertCtx ctx =>
      simp only [step] at h
      split_ifs at h with hctx
      obtain rfl := Option.some.inj h
      exact .insertCtx ctx hctx
  | trySpawnRemoveReqCtx ctx =>
      simp only [step] at h
      split_ifs at h with hctx
      obtain rfl := Option.some.inj h
      exact .trySpawnRemoveReqCtx ctx hctx
  | remove ctx =>
      simp only [step] at h
      split_ifs at h with hctx
      obtain rfl := Option.some.inj h
      exact .remove ctx hctx
  | retainNone =>
      obtain rfl := Option.some.inj h
      exact .retainNone

theorem Next.step {s t : State} {a : Label} (h : Next s a t) : machine.step s a = some t := by
  cases h with
  | nextReqId | retainNone => rfl
  | insertCtx _ hctx | trySpawnRemoveReqCtx _ hctx | remove _ hctx => exact if_pos hctx

/-! ### Ids within a window -/

/-- The context was made by a draw of the counter. -/
structure Context.Drawn (admitted : Nat) (ctx : Context) : Prop where
  requestId : ctx.requestId = BitVec.ofNat 32 ctx.request
  drawn : ctx.request ≤ admitted

/-- Fewer than `2 ^ 32` draws came after it. -/
structure Context.Within (admitted : Nat) (ctx : Context) : Prop extends ctx.Drawn admitted where
  recent : admitted < ctx.request + 2 ^ 32

theorem Context.Drawn.mono {n m : Nat} {ctx : Context} (h : ctx.Drawn n) (hle : n ≤ m) :
    ctx.Drawn m :=
  ⟨h.requestId, h.drawn.trans hle⟩

private theorem Context.Drawn.request_mod {n : Nat} {ctx ctx' : Context} (h : ctx.Drawn n)
    (h' : ctx'.Drawn n) (hid : ctx.requestId = ctx'.requestId) :
    ctx.request % 2 ^ 32 = ctx'.request % 2 ^ 32 := by
  have heq := congrArg BitVec.toNat hid
  rwa [h.requestId, h'.requestId, BitVec.toNat_ofNat, BitVec.toNat_ofNat] at heq

private theorem Context.Within.eq_of_requestId {n : Nat} {ctx ctx' : Context} (h : ctx.Within n)
    (h' : ctx'.Within n) (hid : ctx.requestId = ctx'.requestId) : ctx = ctx' := by
  have hmod := h.request_mod h'.toDrawn hid
  have hle := h.drawn
  have hle' := h'.drawn
  have hrecent := h.recent
  have hrecent' := h'.recent
  have hrequest : ctx.request = ctx'.request := by omega
  cases ctx
  cases ctx'
  simp_all

theorem Context.Within.next {s : State} {ctx : Context} (h : ctx.Within s.admitted)
    (hrecent : s.recent ctx = true) : ctx.Within (s.admitted + 1) :=
  ⟨h.mono (Nat.le_succ _), by simpa [State.recent] using hrecent⟩

/-! ### The invariants -/

/-- The contexts that wait and those in the map have ids of their own. -/
structure Unique (s : State) : Prop where
  generator : s.reqIdGenerator = BitVec.ofNat 32 s.admitted
  waiting : ∀ ctx ∈ s.waiting, ctx.Within s.admitted ∧ ctx ∉ s.inserted
  nodup : s.waiting.Nodup
  stored : ∀ reqId ctx, s.checkIfContextExists reqId = some ctx →
    ctx.requestId = reqId ∧ ctx.Within s.admitted ∧ ctx ∈ s.inserted
  inserted : ∀ ctx ∈ s.inserted, ctx.Drawn s.admitted
  removals : ∀ ctx ∈ s.removals, ctx ∈ s.inserted

/-- The entry under the id of a context that waits would be the same context. -/
theorem Unique.free {s : State} (h : Unique s) {ctx : Context} (hctx : ctx ∈ s.waiting) :
    s.checkIfContextExists ctx.requestId = none := by
  obtain ⟨hwithin, hnew⟩ := h.waiting ctx hctx
  by_contra hsome
  obtain ⟨ctx', hctx'⟩ := Option.ne_none_iff_exists'.mp hsome
  obtain ⟨hid, hwithin', hold⟩ := h.stored _ ctx' hctx'
  obtain rfl := hwithin'.eq_of_requestId hwithin hid
  exact hnew hold

private theorem Unique.latest {s : State} (h : Unique s) {reqId : ReqId} {ctx ctx' : Context}
    (hctx : s.checkIfContextExists reqId = some ctx) (hctx' : ctx' ∈ s.inserted)
    (hid : ctx'.requestId = reqId) : ctx'.request ≤ ctx.request := by
  obtain ⟨rfl, hwithin, -⟩ := h.stored reqId ctx hctx
  have hdrawn := h.inserted ctx' hctx'
  have hmod := Context.Drawn.request_mod hdrawn hwithin.toDrawn hid
  have hle := hdrawn.drawn
  have hrecent := hwithin.recent
  omega

private theorem unique_new : Unique .new where
  generator := rfl
  waiting := by simp [State.new]
  nodup := List.nodup_nil
  stored := by simp [State.new, State.checkIfContextExists]
  inserted := by simp [State.new]
  removals := by simp [State.new]

theorem Unique.next {s t : State} {a : Label} (h : Unique s) (hok : closesInTime s a = true)
    (hnext : Next s a t) : Unique t := by
  cases hnext with
  | nextReqId =>
      have hok : (∀ ctx ∈ s.waiting, s.recent ctx = true) ∧
          ∀ e ∈ s.contextMap.entries, s.recent e.2 = true := by
        simpa [closesInTime] using hok
      have hid : s.reqIdGenerator + 1 = BitVec.ofNat 32 (s.admitted + 1) := by
        rw [h.generator]
        exact (BitVec.ofNat_add _ 1).symm
      refine ⟨hid, ?_, ?_, ?_, fun ctx hctx => (h.inserted ctx hctx).mono (Nat.le_succ _),
        h.removals⟩
      · intro ctx hctx
        rcases List.mem_cons.mp hctx with rfl | hctx
        · refine ⟨⟨⟨hid, le_rfl⟩, Nat.lt_add_of_pos_right (by decide)⟩, fun hold => ?_⟩
          exact Nat.not_succ_le_self _ (h.inserted _ hold).drawn
        · obtain ⟨hwithin, hnew⟩ := h.waiting ctx hctx
          exact ⟨hwithin.next (hok.1 ctx hctx), hnew⟩
      · refine List.nodup_cons.mpr ⟨fun hold => ?_, h.nodup⟩
        exact Nat.not_succ_le_self _ (h.waiting _ hold).1.drawn
      · intro reqId ctx hctx
        obtain ⟨hreq, hwithin, hold⟩ := h.stored reqId ctx hctx
        have hentry := hok.2 ⟨reqId, ctx⟩ (AList.mem_lookup_iff.mp hctx)
        exact ⟨hreq, hwithin.next hentry, hold⟩
  | insertCtx ctx hctx =>
      obtain ⟨hwithin, -⟩ := h.waiting ctx hctx
      refine ⟨h.generator, ?_, h.nodup.erase ctx, ?_, ?_, ?_⟩
      · intro ctx' hctx'
        obtain ⟨hne, hold⟩ := h.nodup.mem_erase_iff.mp hctx'
        obtain ⟨hwithin', hnew'⟩ := h.waiting ctx' hold
        exact ⟨hwithin', by simp [State.insertCtx, hne, hnew']⟩
      · intro reqId ctx' hctx'
        rw [checkIfContextExists_insertCtx] at hctx'
        split_ifs at hctx' with hreq
        · obtain rfl := Option.some.inj hctx'
          exact ⟨hreq.symm, hwithin, List.mem_cons_self⟩
        · obtain ⟨hreq', hwithin', hold⟩ := h.stored reqId ctx' hctx'
          exact ⟨hreq', hwithin', List.mem_cons_of_mem _ hold⟩
      · intro ctx' hctx'
        rcases List.mem_cons.mp hctx' with rfl | hold
        · exact hwithin.toDrawn
        · exact h.inserted ctx' hold
      · exact fun ctx' hctx' => List.mem_cons_of_mem _ (h.removals ctx' hctx')
  | trySpawnRemoveReqCtx ctx hctx =>
      refine ⟨h.generator, h.waiting, h.nodup, h.stored, h.inserted, ?_⟩
      intro ctx' hctx'
      rcases List.mem_cons.mp hctx' with rfl | hold
      · exact hctx
      · exact h.removals ctx' hold
  | remove ctx _ =>
      refine ⟨h.generator, h.waiting, h.nodup, ?_, h.inserted,
        fun ctx' hctx' => h.removals ctx' (List.mem_of_mem_erase hctx')⟩
      intro reqId ctx' hctx'
      rw [checkIfContextExists_remove] at hctx'
      split_ifs at hctx'
      exact h.stored reqId ctx' hctx'
  | retainNone =>
      exact ⟨h.generator, h.waiting, h.nodup, by simp, h.inserted, h.removals⟩

private theorem unique_of_reachable {s : State}
    (h : machine.Reachable (fun s a => closesInTime s a = true) s) : Unique s := by
  refine h.invariant (P := Unique) ?_ ?_
  · rintro s rfl
    exact unique_new
  · intro s a t hs hok hstep
    exact hs.next hok (step_next hstep)

/-- Moreover no removal is late: the requests without a removal are in the map. -/
structure Kept (s : State) : Prop where
  unique : Unique s
  pending : ∀ ctx ∈ s.removals, ctx.Within s.admitted
  opened : ∀ ctx ∈ s.opened, s.checkIfContextExists ctx.requestId = some ctx ∧ ctx ∉ s.removals

theorem Kept.next {s t : State} {a : Label} (h : Kept s) (hcloses : closesInTime s a = true)
    (hremoves : removesInTime s a = true) (hnext : Next s a t) : Kept t := by
  have hunique := h.unique.next hcloses hnext
  refine ⟨hunique, ?_, ?_⟩
  · cases hnext with
    | nextReqId =>
        have hrecent : ∀ ctx ∈ s.removals, s.recent ctx = true := by
          simpa [removesInTime] using hremoves
        exact fun ctx hctx => (h.pending ctx hctx).next (hrecent ctx hctx)
    | trySpawnRemoveReqCtx ctx hctx =>
        intro ctx' hctx'
        rcases List.mem_cons.mp hctx' with rfl | hold
        · have hrecent : s.admitted < ctx'.request + 2 ^ 32 := by
            simpa [removesInTime] using hremoves
          exact ⟨h.unique.inserted ctx' hctx, hrecent⟩
        · exact h.pending ctx' hold
    | remove ctx _ => exact fun ctx' hctx' => h.pending ctx' (List.mem_of_mem_erase hctx')
    | insertCtx | retainNone => exact h.pending
  · cases hnext with
    | nextReqId => exact h.opened
    | insertCtx ctx hctx =>
        intro ctx' hctx'
        rw [checkIfContextExists_insertCtx]
        rcases List.mem_cons.mp hctx' with rfl | hold
        · have hnew := (h.unique.waiting ctx' hctx).2
          exact ⟨if_pos rfl, fun hpending => hnew (h.unique.removals ctx' hpending)⟩
        · obtain ⟨hfound, hpending⟩ := h.opened ctx' hold
          have hne : ctx'.requestId ≠ ctx.requestId := by
            intro hid
            rw [hid, h.unique.free hctx] at hfound
            cases hfound
          exact ⟨by rw [if_neg hne]; exact hfound, hpending⟩
    | trySpawnRemoveReqCtx ctx hctx =>
        intro ctx' hctx'
        obtain ⟨hold, hne⟩ : ctx' ∈ s.opened ∧ ctx' ≠ ctx := by
          simpa [State.trySpawnRemoveReqCtx] using hctx'
        obtain ⟨hfound, hpending⟩ := h.opened ctx' hold
        exact ⟨hfound, by simp [State.trySpawnRemoveReqCtx, hne, hpending]⟩
    | remove ctx hctx =>
        intro ctx' hctx'
        obtain ⟨hfound, hpending⟩ := h.opened ctx' hctx'
        -- A removal for the same id would be one for the same request.
        have hne : ctx'.requestId ≠ ctx.requestId := by
          intro hid
          have hwithin := (h.unique.stored _ ctx' hfound).2.1
          obtain rfl := hwithin.eq_of_requestId (h.pending ctx hctx) hid
          exact hpending hctx
        rw [checkIfContextExists_remove, if_neg hne]
        exact ⟨hfound, fun hmem => hpending (List.mem_of_mem_erase hmem)⟩
    | retainNone => exact fun _ hctx' => nomatch hctx'

private theorem kept_of_reachable {s : State}
    (h : machine.Reachable InTime s) : Kept s := by
  refine h.invariant (P := Kept) ?_ ?_
  · rintro s rfl
    exact ⟨unique_new, by simp [State.new], by simp [State.new]⟩
  · intro s a t hs hok hstep
    exact hs.next hok.1 hok.2 (step_next hstep)

/-- While no context stays open for `2 ^ 32` later requests, storing a context replaces none, and a
frame goes to the latest request with its id or to none.  If the removals come in time too, it
goes to the request that was sent with the id as long as no removal was spawned for it. -/
theorem request_ids_in_use :
    (∀ s, machine.Reachable (fun s a => closesInTime s a = true) s →
      (∀ ctx ∈ s.waiting, s.checkIfContextExists ctx.requestId = none) ∧
      ∀ reqId ctx, s.checkIfContextExists reqId = some ctx →
        ctx.requestId = reqId ∧ ctx ∈ s.inserted ∧
          ∀ ctx' ∈ s.inserted, ctx'.requestId = reqId → ctx'.request ≤ ctx.request) ∧
    ∀ s, machine.Reachable InTime s →
      ∀ ctx ∈ s.opened, s.checkIfContextExists ctx.requestId = some ctx := by
  refine ⟨fun s h => ⟨?_, ?_⟩, fun s h ctx hctx => ?_⟩
  · exact fun ctx hctx => (unique_of_reachable h).free hctx
  · intro reqId ctx hctx
    have hunique := unique_of_reachable h
    obtain ⟨hid, -, hinserted⟩ := hunique.stored reqId ctx hctx
    exact ⟨hid, hinserted, fun ctx' hctx' hid' => hunique.latest hctx hctx' hid'⟩
  · exact ((kept_of_reachable h).opened ctx hctx).1

/-- Two requests, the first of them removed before the second is stored. -/
def secondState : State :=
  machine.run InTime .new
    [.nextReqId, .nextReqId, .insertCtx ⟨1, 1⟩, .trySpawnRemoveReqCtx ⟨1, 1⟩, .remove ⟨1, 1⟩,
      .insertCtx ⟨2, 2⟩]

theorem request_ids_in_use_secondState :
    secondState.opened = [⟨2, 2⟩] ∧ secondState.checkIfContextExists 2 = some ⟨2, 2⟩ := by
  have hopened : secondState.opened = [⟨2, 2⟩] := by decide +kernel
  exact ⟨hopened, request_ids_in_use.2 secondState (Machine.reachable_run _ _ rfl _) ⟨2, 2⟩
    (by simp [hopened])⟩

/-! ### A late removal -/

/-- The first request has ended, one of its removals is still to come, and `k` more requests have
come and gone. -/
structure Cycled (k : Nat) (s : State) : Prop where
  reachable : machine.Reachable (fun s a => closesInTime s a = true) s
  admitted : s.admitted = k + 1
  generator : s.reqIdGenerator = BitVec.ofNat 32 (k + 1)
  contextMap : s.contextMap.entries = []
  waiting : s.waiting = []
  removals : s.removals = [⟨1, 1⟩]
  opened : s.opened = []

theorem Cycled.closesInTime {k : Nat} {s : State} (h : Cycled k s) :
    RequestIds.closesInTime s .nextReqId = true := by
  simp [RequestIds.closesInTime, h.waiting, h.contextMap]

theorem Cycled.succ {k : Nat} {s : State} (h : Cycled k s) :
    Cycled (k + 1)
      (((s.nextReqId.insertCtx s.nextContext).trySpawnRemoveReqCtx s.nextContext).remove
        s.nextContext) := by
  have hdrawn := h.reachable.next h.closesInTime Next.nextReqId.step
  have hstored := hdrawn.next rfl (Next.insertCtx s.nextContext List.mem_cons_self).step
  have hspawned := hstored.next rfl
    (Next.trySpawnRemoveReqCtx s.nextContext List.mem_cons_self).step
  have hremoved := hspawned.next rfl (Next.remove s.nextContext List.mem_cons_self).step
  refine ⟨hremoved, ?_, ?_, ?_, ?_, ?_, ?_⟩
  · exact congrArg Nat.succ h.admitted
  · change s.reqIdGenerator + 1 = _
    rw [h.generator]
    exact (BitVec.ofNat_add _ 1).symm
  · simp [State.remove, State.trySpawnRemoveReqCtx, State.insertCtx, State.nextReqId, AList.erase,
      AList.insert, List.kinsert, h.contextMap]
  · simp [State.remove, State.trySpawnRemoveReqCtx, State.insertCtx, State.nextReqId, h.waiting]
  · simp [State.remove, State.trySpawnRemoveReqCtx, State.insertCtx, State.nextReqId, h.removals]
  · simp [State.remove, State.trySpawnRemoveReqCtx, State.insertCtx, State.nextReqId, h.opened]

private theorem exists_cycled (k : Nat) : ∃ s, Cycled k s := by
  induction k with
  | zero =>
      refine ⟨machine.run (fun s a => RequestIds.closesInTime s a = true) .new
        [.nextReqId, .insertCtx ⟨1, 1⟩, .trySpawnRemoveReqCtx ⟨1, 1⟩,
          .trySpawnRemoveReqCtx ⟨1, 1⟩, .remove ⟨1, 1⟩], ?_⟩
      exact ⟨Machine.reachable_run _ _ rfl _, by decide +kernel, by decide +kernel,
        by decide +kernel, by decide +kernel, by decide +kernel, by decide +kernel⟩
  | succ k ih =>
      obtain ⟨s, hs⟩ := ih
      exact ⟨_, hs.succ⟩

/-- The second removal of the first request comes after `2 ^ 32` later requests and takes the
context of the request that has the same id, which is open and for which none was spawned. -/
theorem late_removal_loses_request :
    ∃ s, machine.Reachable (fun s a => closesInTime s a = true) s ∧
      ∃ ctx ∈ s.opened, s.checkIfContextExists ctx.requestId = none := by
  obtain ⟨s, hs⟩ := exists_cycled (2 ^ 32 - 1)
  have hid : s.nextContext.requestId = 1 := by
    simp [State.nextContext, hs.generator]
  have hdrawn := hs.reachable.next hs.closesInTime Next.nextReqId.step
  have hstored := hdrawn.next rfl (Next.insertCtx s.nextContext List.mem_cons_self).step
  have hpending : (⟨1, 1⟩ : Context) ∈ (s.nextReqId.insertCtx s.nextContext).removals := by
    simp [State.insertCtx, State.nextReqId, hs.removals]
  have hremoved := hstored.next rfl (Next.remove _ hpending).step
  refine ⟨_, hremoved, s.nextContext, List.mem_cons_self, ?_⟩
  rw [checkIfContextExists_remove, if_pos hid]

end CrankerRouter.V3.RequestIds

/-! ### The socket

The machine of the whole socket uses each id once.  What it does with the ids is a run of the
machine above within the first round of the counter. -/

namespace CrankerRouter.V3

open Lib

section Moves

variable {dbg : DebugText} {rs rs' : RouterSocketV3} {x y : Shared} {op : Op} {more : List Op}
  {ts : List Task} {r : ReqId}

/-- What the socket knows about its ids. -/
structure IdData where
  reqIdGenerator : BitVec 32
  contextMap : List ReqId
  removals : List ReqId

def RouterSocketV3.idData (rs : RouterSocketV3) : IdData :=
  ⟨rs.reqIdGenerator, rs.contextMap, rs.removals⟩

def Op.admits : Op → Bool
  | .nextReqId _ _ | .request _ (.insertCtx _ _) => true
  | _ => false

/-- What an operation can do to the ids. -/
inductive IdMove (d : IdData) : Op → IdData → Prop
  | same {op : Op} {d' : IdData} (hop : op.admits = false) (hd : d' = d) : IdMove d op d'
  | nextReqId (text : String) (hasBody : Bool) :
      IdMove d (.nextReqId text hasBody) { d with reqIdGenerator := d.reqIdGenerator + 1 }
  | insertCtx (r : ReqId) (text : String) (hasBody : Bool) :
      IdMove d (.request r (.insertCtx text hasBody))
        { d with contextMap := r :: d.contextMap.filter (· ≠ r) }
  | spawnRemove (r : ReqId) :
      IdMove d (.notify r .spawnRemove) { d with removals := d.removals ++ [r] }
  | retainNone : IdMove d (.socket .retainNone) { d with contextMap := [] }

private theorem idData_raiseCompletionEvent (rs : RouterSocketV3) (r : ReqId) :
    (rs.raiseCompletionEvent r).idData = rs.idData := by
  unfold RouterSocketV3.raiseCompletionEvent
  split <;> rfl

private theorem FrameMove.idData_eq {o : FrameOp} (h : FrameMove dbg rs r o rs' more) :
    rs'.idData = rs.idData := by
  cases h <;> rfl

private theorem UploadMove.idData_eq {o : UploadOp} (h : UploadMove rs r o rs' more) :
    rs'.idData = rs.idData := by
  cases h <;> rfl

private theorem Move.idMove (h : Move dbg x op y more ts) : IdMove x.rs.idData op y.rs.idData := by
  cases h with
  | notify r o =>
      cases o with
      | spawnRemove => exact .spawnRemove r
      | raiseCompletion => exact .same rfl (idData_raiseCompletionEvent x.rs r)
      | _ => exact .same rfl rfl
  | frame r o h => exact .same rfl h.idData_eq
  | upload r o h => exact .same rfl h.idData_eq
  | socket o c h =>
      cases socketMove_of_run h with
      | generalError crex rs' hrs => obtain rfl | rfl := hrs <;> exact .same rfl rfl
      | retainNone => exact .retainNone
      | _ => exact .same rfl rfl
  | insertCtx r text hasBody => exact .insertCtx r text hasBody
  | nextReqId text hasBody hnew => exact .nextReqId text hasBody
  | requestFails r o crex ho =>
      obtain ⟨text, hasBody, rfl⟩ | ⟨text, rfl⟩ | ⟨rfl, -⟩ := ho <;> exact .same rfl rfl
  | _ => exact .same rfl rfl

end Moves

section Traces

open RequestIds (State InTime closesInTime removesInTime)

variable {dbg : DebugText} {overflowChecks : Bool} {p q : SocketPool} {s : State} {op : Op}
  {rest more : List Op} {spawned others : List (List Op)} {y : Shared} {r : ReqId}

/-- The requests that drew an id, as the machine of the ids numbers them. -/
structure Admissions (p : SocketPool) (s : State) : Prop where
  waiting : ∀ r, 0 < tally (Op.inserts r) p → ∃ ctx ∈ s.waiting, ctx.requestId = r
  inserted : ∀ r, Started r p → ∃ ctx ∈ s.inserted, ctx.requestId = r
  admitted : s.admitted = p.shared.admitted.length
  once : p.shared.admitted.Nodup
  numbered : ∀ ctx, ctx ∈ s.waiting ∨ ctx ∈ s.inserted → 0 < ctx.request

/-- The state of the ids says what the socket knows of them. -/
structure Traces (p : SocketPool) (s : State) : Prop extends Admissions p s where
  reqIdGenerator : s.reqIdGenerator = p.shared.rs.reqIdGenerator
  contextMap : ∀ r, r ∈ p.shared.rs.contextMap ↔ s.checkIfContextExists r ≠ none
  removals : (s.removals.map RequestIds.Context.requestId).Perm p.shared.rs.removals

private theorem length_le_of_nodup {l : List ReqId} (h : l.Nodup) : l.length ≤ 2 ^ 32 := by
  have hnats : (l.map BitVec.toNat).Nodup := h.map (fun _ _ => BitVec.eq_of_toNat_eq)
  have hrange : l.map BitVec.toNat ⊆ List.range (2 ^ 32) := by
    intro n hn
    obtain ⟨r, -, rfl⟩ := List.mem_map.mp hn
    exact List.mem_range.mpr r.isLt
  have hle := (hnats.subperm hrange).length_le
  rwa [List.length_map, List.length_range] at hle

private theorem ListStep.tally_inserts_cases (h : ListStep dbg p q op rest more spawned others y)
    (hq : 0 < tally (Op.inserts r) q) :
    0 < tally (Op.inserts r) p ∨
      ∃ text hasBody, op = .nextReqId text hasBody ∧ r = p.shared.rs.reqIdGenerator + 1 := by
  obtain ⟨ts, hmove, hmem⟩ := h.exists_move
  obtain hold | ⟨o, ho, hinserts⟩ := h.tally_pos_cases hq
  · exact .inl hold
  · obtain ⟨text, hasBody, hop, hr, -⟩ := hmove.inserts_of_mem (hmem o ho) hinserts
    exact .inr ⟨text, hasBody, hop, hr⟩

theorem Admissions.same (hadm : Admissions p s)
    (h : ListStep dbg p q op rest more spawned others y) (hop : op.admits = false) :
    Admissions q s := by
  obtain ⟨ts, hmove, -⟩ := h.move
  have hadmitted : q.shared.admitted = p.shared.admitted := by
    rw [h.shared]
    obtain hsame | ⟨text, hasBody, rfl, -⟩ := hmove.admitted_cases
    · exact hsame
    · cases hop
  refine ⟨fun r hr => ?_, fun r hr => ?_, by rw [hadmitted, hadm.admitted],
    hadmitted ▸ hadm.once, hadm.numbered⟩
  · obtain hold | ⟨text, hasBody, rfl, -⟩ := h.tally_inserts_cases hr
    · exact hadm.waiting r hold
    · cases hop
  · by_cases hold : Started r p
    · exact hadm.inserted r hold
    · obtain ⟨text, hasBody, rfl⟩ := hr.of_list hold h
      cases hop

theorem Admissions.nextReqId {text : String} {hasBody : Bool} (hadm : Admissions p s)
    (hgen : s.reqIdGenerator = p.shared.rs.reqIdGenerator)
    (h : ListStep dbg p q (.nextReqId text hasBody) rest more spawned others y) :
    Admissions q s.nextReqId := by
  obtain ⟨ts, hmove, -⟩ := h.move
  have hshared := h.shared
  cases hmove with
  | nextReqId _ _ hnew =>
      have hadmitted : q.shared.admitted =
          (p.shared.rs.reqIdGenerator + 1) :: p.shared.admitted := by rw [hshared]
      refine ⟨fun r hr => ?_, fun r hr => ?_, ?_, ?_, ?_⟩
      · obtain hold | ⟨-, -, -, rfl⟩ := h.tally_inserts_cases hr
        · obtain ⟨ctx, hctx, hid⟩ := hadm.waiting r hold
          exact ⟨ctx, List.mem_cons_of_mem _ hctx, hid⟩
        · exact ⟨s.nextContext, List.mem_cons_self, by rw [← hgen]; rfl⟩
      · by_cases hold : Started r p
        · exact hadm.inserted r hold
        · obtain ⟨_, _, heq⟩ := hr.of_list hold h
          cases heq
      · rw [hadmitted, List.length_cons, ← hadm.admitted]
        rfl
      · rw [hadmitted]
        exact hadm.once.cons hnew
      · intro ctx hctx
        obtain hctx | hctx := hctx
        · obtain rfl | hold := List.mem_cons.mp hctx
          · exact Nat.succ_pos _
          · exact hadm.numbered ctx (.inl hold)
        · exact hadm.numbered ctx (.inr hctx)

private theorem Lifetime.started_of_insertCtx {text : String} {hasBody : Bool}
    (hlife : Lifetime r p)
    (h : ListStep dbg p q (.request r (.insertCtx text hasBody)) rest more spawned others y) :
    Started r q := by
  have hop : [Op.request r (.insertCtx text hasBody)].countP (Op.inserts r) = 1 := by
    simp [Op.inserts, Op.isRequest, RequestOp.isInsertCtx]
  have hbefore := h.tally_before (Op.inserts r)
  have halone := hlife.alone (by omega)
  have hle : tally (Op.inserts r) p ≤ tally (Op.names r) p :=
    total_le_total fun l _ => inserts_le_names r l
  have hadmitted : r ∈ p.shared.admitted := by
    by_contra hr
    have hzero := hlife.unknown hr
    omega
  have hinserts := h.tally_inserts hadmitted
  exact ⟨h.mem_admitted hadmitted, by omega⟩

theorem Admissions.insertCtx {text : String} {hasBody : Bool} (hadm : Admissions p s)
    (hlife : Lifetime r p)
    (h : ListStep dbg p q (.request r (.insertCtx text hasBody)) rest more spawned others y)
    {ctx : RequestIds.Context} (hctx : ctx ∈ s.waiting) (hid : ctx.requestId = r) :
    Admissions q (s.insertCtx ctx) := by
  obtain ⟨ts, hmove, -⟩ := h.move
  have hshared := h.shared
  obtain ⟨rfl, -, -⟩ := hmove.of_insertCtx
  have hadmitted : q.shared.admitted = p.shared.admitted := by rw [hshared]
  have hgone := (hlife.started_of_insertCtx h).2
  refine ⟨fun r' hr' => ?_, fun r' hr' => ?_, by rw [hadmitted]; exact hadm.admitted,
    hadmitted ▸ hadm.once, ?_⟩
  · obtain hold | ⟨_, _, heq, -⟩ := h.tally_inserts_cases hr'
    · obtain ⟨ctx', hctx', hid'⟩ := hadm.waiting r' hold
      have hne : ctx' ≠ ctx := by
        rintro rfl
        rw [← hid', hid, hgone] at hr'
        cases hr'
      exact ⟨ctx', (List.mem_erase_of_ne hne).mpr hctx', hid'⟩
    · cases heq
  · by_cases hold : Started r' p
    · obtain ⟨ctx', hctx', hid'⟩ := hadm.inserted r' hold
      exact ⟨ctx', List.mem_cons_of_mem _ hctx', hid'⟩
    · obtain ⟨_, _, heq⟩ := hr'.of_list hold h
      cases heq
      exact ⟨ctx, List.mem_cons_self, hid⟩
  · intro ctx' hctx'
    obtain hctx' | hctx' := hctx'
    · exact hadm.numbered ctx' (.inl (List.mem_of_mem_erase hctx'))
    · obtain rfl | hold := List.mem_cons.mp hctx'
      · exact hadm.numbered ctx' (.inl hctx)
      · exact hadm.numbered ctx' (.inr hold)

theorem Admissions.idle {gone new kept : List (List Op)} (hadm : Admissions p s) (htidy : Tidy p)
    (h : IdleStep p q gone new kept) : Admissions q s := by
  refine ⟨fun r hr => ?_, fun r hr => hadm.inserted r (hr.of_idle htidy h),
    by rw [h.admitted, hadm.admitted], h.admitted ▸ hadm.once, hadm.numbered⟩
  obtain hold | ⟨l, hl, o, ho, hinserts⟩ := h.tally_pos_cases hr
  · exact hadm.waiting r hold
  · obtain ⟨text, hasBody, rfl⟩ := Op.inserts_iff.mp hinserts
    obtain ⟨_, _, heq⟩ | ⟨_, -, _, heq, -⟩ | ⟨_, heq, -⟩ := h.arrives.mem_cases hl ho <;> cases heq

private theorem ListStep.idMove (h : ListStep dbg p q op rest more spawned others y) :
    IdMove p.shared.rs.idData op q.shared.rs.idData := by
  obtain ⟨ts, hmove, -⟩ := h.move
  rw [h.rs_eq]
  exact hmove.idMove

private theorem Traces.of_idData (hadm : Admissions q s) (h : Traces p s)
    (hd : q.shared.rs.idData = p.shared.rs.idData) : Traces q s := by
  simp only [RouterSocketV3.idData, IdData.mk.injEq] at hd
  obtain ⟨hgen, hmap, hremovals⟩ := hd
  exact ⟨hadm, hgen ▸ h.reqIdGenerator, hmap ▸ h.contextMap, hremovals ▸ h.removals⟩

private theorem Admissions.inTime (hadm : Admissions p s) (hunique : RequestIds.Unique s)
    (hlength : s.admitted < 2 ^ 32) :
    InTime s .nextReqId := by
  have hrecent : ∀ ctx, ctx ∈ s.waiting ∨ ctx ∈ s.inserted → s.recent ctx = true := by
    intro ctx hctx
    have hpos := hadm.numbered ctx hctx
    simp only [State.recent, decide_eq_true_eq]
    omega
  refine ⟨?_, ?_⟩
  · simp only [closesInTime, Bool.and_eq_true, List.all_eq_true]
    refine ⟨fun ctx hctx => hrecent ctx (.inl hctx), fun e he => ?_⟩
    exact hrecent e.2 (.inr (hunique.stored e.1 e.2 (AList.mem_lookup_iff.mpr he)).2.2)
  · simp only [removesInTime, List.all_eq_true]
    exact fun ctx hctx => hrecent ctx (.inr (hunique.removals ctx hctx))

theorem Traces.list (h : Traces p s)
    (hreach : RequestIds.machine.Reachable InTime s)
    (hlife : ∀ r, Lifetime r p) (hlist : ListStep dbg p q op rest more spawned others y) :
    ∃ t, RequestIds.machine.Reachable InTime t ∧ Traces q t := by
  have hmove := hlist.idMove
  generalize hd : q.shared.rs.idData = d at hmove
  cases hmove with
  | same hop hsame =>
      exact ⟨s, hreach, .of_idData (h.toAdmissions.same hlist hop) h (hd.trans hsame)⟩
  | nextReqId text hasBody =>
      simp only [RouterSocketV3.idData, IdData.mk.injEq] at hd
      obtain ⟨hgen, hmap, hremovals⟩ := hd
      have hadm := h.toAdmissions.nextReqId h.reqIdGenerator hlist
      have hlength : s.admitted + 1 ≤ 2 ^ 32 := by
        have hle := length_le_of_nodup hadm.once
        rwa [← hadm.admitted] at hle
      have hunique := (RequestIds.kept_of_reachable hreach).unique
      refine ⟨s.nextReqId, hreach.next (h.toAdmissions.inTime hunique hlength)
        RequestIds.Next.nextReqId.step, hadm, ?_, hmap ▸ h.contextMap, hremovals ▸ h.removals⟩
      rw [hgen, ← h.reqIdGenerator]
      rfl
  | insertCtx r text hasBody =>
      simp only [RouterSocketV3.idData, IdData.mk.injEq] at hd
      obtain ⟨hgen, hmap, hremovals⟩ := hd
      have hpos : 0 < tally (Op.inserts r) p :=
        tally_pos_iff.mpr ⟨_, hlist.mem_before.mpr (.inl rfl), _, List.mem_cons_self,
          Op.inserts_iff.mpr ⟨text, hasBody, rfl⟩⟩
      obtain ⟨ctx, hctx, hid⟩ := h.waiting r hpos
      refine ⟨s.insertCtx ctx, hreach.next ⟨rfl, rfl⟩ (RequestIds.Next.insertCtx ctx hctx).step,
        h.toAdmissions.insertCtx (hlife r) hlist hctx hid, hgen ▸ h.reqIdGenerator, fun r' => ?_,
        hremovals ▸ h.removals⟩
      rw [hmap, RequestIds.checkIfContextExists_insertCtx, hid]
      by_cases hr : r' = r
      · simp [hr]
      · simp [hr, h.contextMap r']
  | spawnRemove r =>
      simp only [RouterSocketV3.idData, IdData.mk.injEq] at hd
      obtain ⟨hgen, hmap, hremovals⟩ := hd
      obtain ⟨ctx, hctx, hid⟩ := h.inserted r ((hlife r).started_of_op hlist rfl rfl)
      have hadm := h.toAdmissions.same hlist rfl
      have hlate : removesInTime s (.trySpawnRemoveReqCtx ctx) = true := by
        have hpos := h.numbered ctx (.inr hctx)
        have hle := length_le_of_nodup h.once
        rw [← h.admitted] at hle
        simp only [removesInTime, decide_eq_true_eq]
        omega
      refine ⟨s.trySpawnRemoveReqCtx ctx, hreach.next ⟨rfl, hlate⟩
        (RequestIds.Next.trySpawnRemoveReqCtx ctx hctx).step,
        ⟨hadm.waiting, hadm.inserted, hadm.admitted, hadm.once, hadm.numbered⟩,
        hgen ▸ h.reqIdGenerator, hmap ▸ h.contextMap, ?_⟩
      rw [hremovals, ← hid]
      exact (h.removals.cons _).trans (List.perm_append_singleton _ _).symm
  | retainNone =>
      simp only [RouterSocketV3.idData, IdData.mk.injEq] at hd
      obtain ⟨hgen, hmap, hremovals⟩ := hd
      have hadm := h.toAdmissions.same hlist rfl
      refine ⟨s.retainNone, hreach.next ⟨rfl, rfl⟩ RequestIds.Next.retainNone.step,
        ⟨hadm.waiting, hadm.inserted, hadm.admitted, hadm.once, hadm.numbered⟩,
        hgen ▸ h.reqIdGenerator, fun r => ?_, hremovals ▸ h.removals⟩
      rw [hmap, RequestIds.checkIfContextExists_retainNone]
      simp

private theorem idData_of_step {a : Label} (hstep : step dbg overflowChecks p a = some q)
    (hops : a.ops p = []) :
    q.shared.rs.idData = p.shared.rs.idData ∨
      ∃ r ∈ p.shared.rs.removals, q.shared.rs.idData = (p.shared.rs.removeReqCtx r).idData := by
  cases stepCases hstep with
  | list hops' h => simp [hops] at hops'
  | receive b hidle =>
      left
      obtain hx | ⟨type, flags, r, bin, -, -, hx⟩ := receive_cases p.shared b
      · rw [hx]
      · rw [hx]
        rfl
  | remove r hr => exact .inr ⟨r, hr, rfl⟩
  | dropHandler i l r t hget htasks hawaits =>
      left
      cases t.req <;> rfl
  | _ => exact .inl rfl

theorem Traces.idle {a : Label} (h : Traces p s)
    (hreach : RequestIds.machine.Reachable InTime s)
    (htidy : Tidy p) (hstep : step dbg overflowChecks p a = some q) (hops : a.ops p = []) :
    ∃ t, RequestIds.machine.Reachable InTime t ∧ Traces q t := by
  obtain ⟨gone, new, kept, hidle⟩ := idleStep_of_step hstep hops
  have hadm := h.toAdmissions.idle htidy hidle
  obtain hsame | ⟨r, hr, hd⟩ := idData_of_step hstep hops
  · exact ⟨s, hreach, .of_idData hadm h hsame⟩
  · simp only [RouterSocketV3.idData, RouterSocketV3.removeReqCtx, IdData.mk.injEq] at hd
    obtain ⟨hgen, hmap, hremovals⟩ := hd
    obtain ⟨ctx, hctx, rfl⟩ := List.mem_map.mp (h.removals.mem_iff.mpr hr)
    refine ⟨s.remove ctx, hreach.next ⟨rfl, rfl⟩ (RequestIds.Next.remove ctx hctx).step,
      ⟨hadm.waiting, hadm.inserted, hadm.admitted, hadm.once, hadm.numbered⟩,
      hgen ▸ h.reqIdGenerator, fun r' => ?_, ?_⟩
    · rw [hmap, RequestIds.checkIfContextExists_remove]
      by_cases hr' : r' = ctx.requestId
      · simp [hr']
      · simp [hr', h.contextMap r']
    · rw [hremovals]
      have hsplit := ((List.perm_cons_erase hctx).map RequestIds.Context.requestId).symm.trans
        h.removals
      exact (hsplit.trans (List.perm_cons_erase hr)).cons_inv

/-- Every run of the socket is a run of its ids in which nothing is late. -/
theorem socket_traces_ids (h : (socketMachine dbg overflowChecks).Reachable Machine.anyAction p) :
    ∃ s, RequestIds.machine.Reachable InTime s ∧ Traces p s := by
  have hrun : (∀ r, Orderly r p) ∧ ∃ s, RequestIds.machine.Reachable InTime s ∧ Traces p s := by
    refine h.invariant (P := fun p => (∀ r, Orderly r p) ∧
      ∃ s, RequestIds.machine.Reachable InTime s ∧ Traces p s) ?_ ?_
    · intro p hinit
      refine ⟨fun r => orderly_init r hinit, .new, ⟨.new, rfl, .refl⟩, ?_⟩
      obtain ⟨route, routerSocketId, reallyNeed, now, rfl⟩ := hinit
      refine ⟨⟨nofun, nofun, rfl, List.nodup_nil, nofun⟩, rfl, fun r => ?_, .refl _⟩
      exact ⟨nofun, fun hr => absurd (AList.lookup_empty r) hr⟩
    · intro p a q hp _ hstep
      obtain ⟨horderly, s, hreach, htraces⟩ := hp
      refine ⟨fun r => (horderly r).step hstep, ?_⟩
      cases hops : a.ops p with
      | cons op rest =>
          obtain ⟨y, more, ts, spawned, others, -, hlist⟩ := listStep_of_ops hstep hops
          exact htraces.list hreach (fun r => (horderly r).life) hlist
      | nil => exact htraces.idle hreach (horderly 0).tidy hstep hops
  exact hrun.2

end Traces

end CrankerRouter.V3
