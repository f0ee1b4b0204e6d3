import CrankerRouter.Farm.Transitions

/-!
# What one step does to the places of the sockets

A socket is in a channel, in the hands of a scan step, or not yet sent by its add task.  No step
copies a socket, and a step loses one only when the socket is dead, is marked removed, or is a V1
socket handed to a client request.  `exec_effect` says this and what else a step can do; the
invariants of the farm are derived from it.
-/

namespace CrankerRouter.Farm

open Lib

/-- One entry of channel `c` for socket `t`, seen from channel `c'` and socket `s`. -/
def entry (c : ChanId) (t : SocketId) (c' : ChanId) (s : SocketId) : Nat :=
  if c = c' ∧ t = s then 1 else 0

/-- The entries that a list of sockets taken from channel `c` stands for. -/
def entries (c : ChanId) (l : List SocketId) (c' : ChanId) (s : SocketId) : Nat :=
  if c = c' then l.count s else 0

@[simp] theorem entries_nil (c c' : ChanId) (s : SocketId) : entries c [] c' s = 0 := by
  simp [entries]

@[simp] theorem entries_cons (c c' : ChanId) (t s : SocketId) (l : List SocketId) :
    entries c (t :: l) c' s = entry c t c' s + entries c l c' s := by
  by_cases hc : c = c' <;> by_cases ht : t = s <;>
    simp [entries, entry, hc, ht, Nat.add_comm]

@[simp] theorem entries_append (c c' : ChanId) (s : SocketId) (l l' : List SocketId) :
    entries c (l ++ l') c' s = entries c l c' s + entries c l' c' s := by
  by_cases hc : c = c' <;> simp [entries, hc]

theorem entry_pos {c c' : ChanId} {t s : SocketId} (h : 0 < entry c t c' s) : c = c' ∧ t = s := by
  by_contra hne
  simp [entry, hne] at h

@[simp] theorem entry_self (c : ChanId) (s : SocketId) : entry c s c s = 1 := by simp [entry]

/-- How many entries of channel `c` for socket `s` the task has taken out and still holds. -/
def Task.holding (c : ChanId) (s : SocketId) : Task → Nat
  | .acquire q (.scan (.upgrade t _ _)) => entry q.chan t c s
  | .acquire q (.scan (.checkRemoved t _ _)) => entry q.chan t c s
  | .acquire q (.scan (.checkDark t _ _)) => entry q.chan t c s
  | .acquire q (.scan (.putBack t _)) => entry q.chan t c s
  | .acquire _ (.fallback (.drain d)) => entries d.chan d.skipped c s
  | .acquire _ (.fallback (.upgrade d t)) => entries d.chan d.skipped c s + entry d.chan t c s
  | .acquire _ (.fallback (.checkRemoved d t)) =>
      entries d.chan d.skipped c s + entry d.chan t c s
  | .acquire _ (.fallback (.flush d pick)) =>
      entries d.chan d.skipped c s + entries d.chan pick.toList c s
  | .putBack c' t => entry c' t c s
  | _ => 0

/-- The add task of the socket has not sent it yet. -/
def Task.sending (s : SocketId) : Task → Nat
  | .add t .insert => if t = s then 1 else 0
  | .add t .send => if t = s then 1 else 0
  | _ => 0

/-- How often a socket occurs in a channel, counting the entries held by running steps. -/
def occurrences (f : WebSocketFarm) (ts : List Task) (c : ChanId) (s : SocketId) : Nat :=
  (f.chan c).count s + Pool.total (Task.holding c s) ts

private theorem count_send (f : WebSocketFarm) (c c' : ChanId) (t s : SocketId) :
    ((f.send c t).chan c').count s = (f.chan c').count s + entry c t c' s := by
  by_cases hc : c = c'
  · subst hc
    by_cases ht : t = s <;> simp [WebSocketFarm.send, entry, ht]
  · simp [WebSocketFarm.send, entry, hc, Function.update_of_ne (Ne.symm hc)]

private theorem count_takeHead (f : WebSocketFarm) (c c' : ChanId) (t s : SocketId)
    (rest : List SocketId) (h : f.chan c = t :: rest) :
    ((f.takeHead c).chan c').count s + entry c t c' s = (f.chan c').count s := by
  by_cases hc : c = c'
  · subst hc
    by_cases ht : t = s <;> simp [WebSocketFarm.takeHead, entry, ht, h]
  · simp [WebSocketFarm.takeHead, entry, hc, Function.update_of_ne (Ne.symm hc)]

@[simp] theorem handOut_chan (f : WebSocketFarm) (s : SocketId) : (f.handOut s).chan = f.chan := rfl
@[simp] theorem setSockets_chan (f : WebSocketFarm) (k : Route) (l : List SocketId) :
    (f.setSockets k l).chan = f.chan := rfl
@[simp] theorem setRemoved_chan (f : WebSocketFarm) (s : SocketId) :
    (f.setRemoved s).chan = f.chan := rfl
@[simp] theorem addIdle_chan (f : WebSocketFarm) (n : Int) : (f.addIdle n).chan = f.chan := rfl
@[simp] theorem addIdle_isRemoved (f : WebSocketFarm) (n : Int) :
    (f.addIdle n).isRemoved = f.isRemoved := rfl
@[simp] theorem addIdle_darkHosts (f : WebSocketFarm) (n : Int) :
    (f.addIdle n).darkHosts = f.darkHosts := rfl
@[simp] theorem addIdle_routeToSocketChan (f : WebSocketFarm) (n : Int) :
    (f.addIdle n).routeToSocketChan = f.routeToSocketChan := rfl
@[simp] theorem recordRemoval_chan (f : WebSocketFarm) (k : Route) (n : Int) :
    (f.recordRemoval k n).chan = f.chan := rfl

variable {dir : SocketId → RouterSocket} {f f' : WebSocketFarm} {t : Task} {q : Acquisition}
  {ts : List Task}

/-- What may become of the entries of a socket in one step: all are still there, or the step was
entitled to lose one. -/
def Conserves (dir : SocketId → RouterSocket) (f f' : WebSocketFarm) (s : SocketId)
    (before after : Nat) : Prop :=
  after ≤ before ∧
    (after = before ∨ f.alive s = false ∨ f.isRemoved s = true ∨
      ((dir s).crankerVersion = .v1 ∧ s ∈ f'.returned))

theorem Conserves.of_eq {s : SocketId} {before after : Nat} (h : after = before) :
    Conserves dir f f' s before after :=
  ⟨h.le, .inl h⟩

private theorem Conserves.of_lost (c c' : ChanId) (t : SocketId) {s : SocketId} {before after : Nat}
    (h : after + entry c t c' s = before)
    (ht : f.alive t = false ∨ f.isRemoved t = true ∨ ((dir t).crankerVersion = .v1 ∧ t ∈ f'.returned))
    :
    Conserves dir f f' s before after := by
  refine ⟨by omega, ?_⟩
  rcases Nat.eq_zero_or_pos (entry c t c' s) with hz | hpos
  · exact .inl (by omega)
  · obtain ⟨-, rfl⟩ := entry_pos hpos
    exact .inr ht

/-- One when this step of the task sends `s` for the first time, to channel `c`. -/
def arrivals (dir : SocketId → RouterSocket) (f : WebSocketFarm) (t : Task) (c : ChanId)
    (s : SocketId) : Nat :=
  match t with
  | .add u .send => entry (f.openChan (dir u).route).2 u c s
  | _ => 0

/-- One when the task is a clean task that holds the lock of route `k`. -/
def Task.cleaning (k : Route) : Task → Nat
  | .cleanRoutes _ (.dropChan k') => if k' = k then 1 else 0
  | .cleanRoutes _ (.dropEntry k') => if k' = k then 1 else 0
  | _ => 0

def lockCount (f : WebSocketFarm) (k : Route) : Nat := if f.mapLocked k then 1 else 0

/-- Only V3 sockets are put back when they are handed out. -/
def Task.WellFormed (dir : SocketId → RouterSocket) : Task → Prop
  | .acquire _ (.scan (.putBack s .handOut)) => (dir s).crankerVersion = .v3
  | _ => True

/-- Everything that one step of a task can do to the places of the sockets. -/
structure Effect (dir : SocketId → RouterSocket) (f f' : WebSocketFarm) (t : Task)
    (ts : List Task) : Prop where
  conserves : ∀ c s, Conserves dir f f' s (occurrences f [t] c s + arrivals dir f t c s)
    (occurrences f' ts c s)
  sending : ∀ c s, Pool.total (Task.sending s) ts + arrivals dir f t c s ≤ t.sending s
  handed : f'.returned = f.returned ∨ ∃ s c, f'.returned = s :: f.returned ∧ 0 < t.holding c s ∧
    ((dir s).crankerVersion = .v1 → occurrences f' ts c s + 1 = occurrences f [t] c s)
  alive : f'.alive = f.alive
  added : f'.added = f.added
  removed : ∀ s, f.isRemoved s = true → f'.isRemoved s = true
  chanCount : f.chanCount ≤ f'.chanCount
  arrived : ∀ c s, 0 < arrivals dir f t c s →
    f'.routeToSocketChan.lookup (dir s).route = some c
  routes : ∀ k c, f'.routeToSocketChan.lookup k = some c →
    f.routeToSocketChan.lookup k = some c ∨ c < f'.chanCount
  routesKept : ∀ k c, f.routeToSocketChan.lookup k = some c →
    f'.routeToSocketChan.lookup k = some c ∨ 0 < t.cleaning k
  registered : ∀ s, Registered dir f' s → Registered dir f s ∨ t = .add s .insert
  inserted : ∀ s, t = .add s .insert → Task.add s .send ∈ ts
  noInsert : ∀ s, Task.add s .insert ∉ ts
  locks : ∀ k, Pool.total (Task.cleaning k) ts + lockCount f k = t.cleaning k + lockCount f' k
  empty : ∀ k, f'.mapLocked k = true → (f.mapLocked k = true → f.socketsOf k = []) →
    f'.socketsOf k = []
  wellFormed : ∀ u ∈ ts, u.WellFormed dir

/-- Tasks that neither send a new socket nor hold the lock of a route. -/
def Task.isPlain : Task → Bool
  | .add _ _ | .cleanRoutes _ _ => false
  | _ => true

private theorem sending_of_isPlain (h : t.isPlain = true) (s : SocketId) :
    t.sending s = 0 := by
  cases t <;> simp_all [Task.isPlain, Task.sending]

private theorem cleaning_of_isPlain (h : t.isPlain = true) (k : Route) :
    t.cleaning k = 0 := by
  cases t <;> simp_all [Task.isPlain, Task.cleaning]

private theorem arrivals_of_isPlain (h : t.isPlain = true) (f : WebSocketFarm) (c : ChanId)
    (s : SocketId) : arrivals dir f t c s = 0 := by
  cases t <;> simp_all [Task.isPlain, arrivals]

private theorem Task.Follows.isPlain {f : WebSocketFarm} {u : Task} (h : u.Follows f) :
    u.isPlain = true := by
  rcases h with h | ⟨s, rfl, -⟩
  · cases u <;> simp_all [Task.isAcquisition, Task.isPlain]
  · rfl

private theorem plain_not_add (h : ∀ u ∈ ts, u.isPlain = true) (s : SocketId) (pc : AddPc) :
    Task.add s pc ∉ ts := by
  intro hm
  simpa [Task.isPlain] using h _ hm

private theorem Effect.of_sameRegistry (hsame : SameRegistry f f') (ht : t.isPlain = true)
    (hts : ∀ u ∈ ts, u.Follows f ∧ u.WellFormed dir)
    (hcons : ∀ c s, Conserves dir f f' s (occurrences f [t] c s) (occurrences f' ts c s))
    (hhanded : f'.returned = f.returned ∨ ∃ s c, f'.returned = s :: f.returned ∧ 0 < t.holding c s ∧ ((dir s).crankerVersion = .v1 → occurrences f' ts c s + 1 = occurrences f [t] c s))
    :
    Effect dir f f' t ts where
  conserves c s := by rw [arrivals_of_isPlain ht]; exact hcons c s
  sending c s := by
    rw [arrivals_of_isPlain ht, sending_of_isPlain ht,
      Pool.total_eq_zero fun u hu => sending_of_isPlain (hts u hu).1.isPlain s]
  handed := hhanded
  alive := hsame.alive
  added := hsame.added
  removed s h := by rw [hsame.isRemoved]; exact h
  chanCount := hsame.chanCount.ge
  arrived c s h := by simp [arrivals_of_isPlain ht] at h
  routes k c h := .inl (hsame.routeToSocketChan ▸ h)
  routesKept k c h := .inl (hsame.routeToSocketChan.symm ▸ h)
  registered s h := by
    rw [Registered, WebSocketFarm.socketsOf, hsame.socketMap] at h
    exact .inl h
  inserted s h := by subst h; simp [Task.isPlain] at ht
  noInsert s := plain_not_add (fun u hu => (hts u hu).1.isPlain) s .insert
  locks k := by
    rw [cleaning_of_isPlain ht,
      Pool.total_eq_zero fun u hu => cleaning_of_isPlain (hts u hu).1.isPlain k, lockCount, lockCount, hsame.mapLocked]
  empty k hk h := by
    rw [WebSocketFarm.socketsOf, hsame.socketMap]
    exact h (hsame.mapLocked ▸ hk)
  wellFormed u hu := (hts u hu).2

private theorem occurrences_of_chan_eq (hchan : f'.chan = f.chan) (ht : ∀ c s, t.holding c s = 0)
    (hts : ∀ u ∈ ts, ∀ c s, u.holding c s = 0) (c : ChanId) (s : SocketId) :
    occurrences f' ts c s = occurrences f [t] c s := by
  simp [occurrences, hchan, ht, Pool.total_eq_zero fun u hu => hts u hu c s]

/-- An acquisition moves sockets between its channel and its hands; it lets go of one for good only
when the socket is dead or removed, or when a V1 socket is handed out. -/
theorem AcquireMove.conserves {pc : AcquirePc} {ch : Choice} (h : AcquireMove dir f q pc ch f' ts)
    (c : ChanId) (s : SocketId) :
    Conserves dir f f' s (occurrences f [.acquire q pc] c s) (occurrences f' ts c s) := by
  cases h with
  | take visited precise t rest hc =>
      have hcount := count_takeHead f q.chan c t s rest hc
      exact .of_eq (by simpa [occurrences, Task.holding] using hcount)
  | drainTake d ch t rest hc =>
      have hcount := count_takeHead f d.chan c t s rest hc
      refine .of_eq ?_
      simp only [occurrences, Task.holding, Pool.total_cons, Pool.total_nil]
      omega
  | dead t visited precise ch ha =>
      exact .of_lost q.chan c t (by simp [occurrences, Task.holding]) (.inl ha)
  | removed t visited precise ch hr =>
      exact .of_lost q.chan c t (by simp [occurrences, Task.holding]) (.inr (.inl hr))
  | pickV1 t visited precise hdark hdomain hv =>
      exact .of_lost q.chan c t (by simp [occurrences, Task.holding])
        (.inr (.inr ⟨hv, by simp [WebSocketFarm.handOut]⟩))
  | drainDead d t ch ha =>
      exact .of_lost d.chan c t (by simp [occurrences, Task.holding]; omega) (.inl ha)
  | drainRemoved d t ch hr =>
      exact .of_lost d.chan c t (by simp [occurrences, Task.holding]; omega) (.inr (.inl hr))
  | flushV1 d t ch hs hv =>
      exact .of_lost d.chan c t (by simp [occurrences, Task.holding, hs])
        (.inr (.inr ⟨hv, by simp [WebSocketFarm.handOut]⟩))
  | putBack t | putBackLast t | putBackPicked t =>
      have hcount := count_send f q.chan c t s
      exact .of_eq (by simpa [occurrences, Task.holding] using hcount)
  | flushOne d pick ch t rest hs =>
      have hcount := count_send f d.chan c t s
      refine .of_eq ?_
      simp only [occurrences, Task.holding, hs, Pool.total_cons, Pool.total_nil, entries_cons]
      omega
  | flushV3 d t ch hs =>
      have hcount := count_send f d.chan c t s
      exact .of_eq (by simpa [occurrences, Task.holding, hs] using hcount)
  | _ => exact .of_eq (by simp [occurrences, Task.holding, *])

theorem AcquireMove.handed {pc : AcquirePc} {ch : Choice} (h : AcquireMove dir f q pc ch f' ts)
    (hwf : Task.WellFormed dir (.acquire q pc)) :
    f'.returned = f.returned ∨ ∃ s c, f'.returned = s :: f.returned ∧
      0 < Task.holding c s (.acquire q pc) ∧ ((dir s).crankerVersion = .v1 →
        occurrences f' ts c s + 1 = occurrences f [.acquire q pc] c s) := by
  cases h with
  | pickV1 s | putBackPicked s =>
      refine .inr ⟨s, q.chan, rfl, by simp [Task.holding], ?_⟩
      simp_all [occurrences, Task.holding, Task.WellFormed]
  | flushV3 d s | flushV1 d s =>
      refine .inr ⟨s, d.chan, rfl, by simp [Task.holding], ?_⟩
      simp_all [occurrences, Task.holding]
  | _ => exact .inl rfl

theorem AcquireMove.wellFormed {pc : AcquirePc} {ch : Choice} (h : AcquireMove dir f q pc ch f' ts)
    :
    ∀ u ∈ ts, u.WellFormed dir := by
  cases h <;> simp [Task.WellFormed, *]

private theorem execResolve_effect {config : AcquireConfig} {ch : Choice}
    (h : execResolve f config ch = some (f', ts)) :
    Effect dir f f' (.resolve config) ts := by
  rcases execResolve_cases h with ⟨s, -, hr, rfl, rfl⟩ | ⟨k, -, -, rfl, rfl⟩ |
    ⟨k, c, -, -, rfl, rfl⟩ <;>
    exact .of_sameRegistry (.refl _) rfl
      (by simp [Task.Follows, Task.isAcquisition, Task.WellFormed, *])
      (fun c s => .of_eq (by simp [occurrences, Task.holding])) (.inl rfl)

private theorem putBack_effect (f : WebSocketFarm) (c : ChanId) (s : SocketId) :
    Effect dir f (f.send c s) (.putBack c s) [] := by
  refine .of_sameRegistry (.send f c s) rfl (by simp) (fun c' s' => .of_eq ?_) (.inl rfl)
  have hcount := count_send f c c' s s'
  simpa [occurrences, Task.holding] using hcount

/-- What remove, de-register and terminate steps do to the farm. -/
structure Shrinks (f f' : WebSocketFarm) : Prop where
  chan : f'.chan = f.chan
  returned : f'.returned = f.returned
  routeToSocketChan : f'.routeToSocketChan = f.routeToSocketChan
  chanCount : f'.chanCount = f.chanCount
  mapLocked : f'.mapLocked = f.mapLocked
  alive : f'.alive = f.alive
  added : f'.added = f.added
  removed : ∀ s, f.isRemoved s = true → f'.isRemoved s = true
  sockets : ∀ k s, s ∈ f'.socketsOf k → s ∈ f.socketsOf k

theorem Shrinks.refl (f : WebSocketFarm) : Shrinks f f :=
  ⟨rfl, rfl, rfl, rfl, rfl, rfl, rfl, fun _ h => h, fun _ _ h => h⟩

theorem Shrinks.trans {f g h : WebSocketFarm} (hfg : Shrinks f g) (hgh : Shrinks g h) :
    Shrinks f h :=
  ⟨hgh.1.trans hfg.1, hgh.2.trans hfg.2, hgh.3.trans hfg.3, hgh.4.trans hfg.4, hgh.5.trans hfg.5,
    hgh.6.trans hfg.6, hgh.7.trans hfg.7, fun s hs => hgh.8 s (hfg.8 s hs),
    fun k s hs => hfg.9 k s (hgh.9 k s hs)⟩

theorem Shrinks.addIdle (f : WebSocketFarm) (n : Int) : Shrinks f (f.addIdle n) :=
  ⟨rfl, rfl, rfl, rfl, rfl, rfl, rfl, fun _ h => h, fun _ _ h => h⟩

theorem Shrinks.recordRemoval (f : WebSocketFarm) (k : Route) (n : Int) :
    Shrinks f (f.recordRemoval k n) :=
  ⟨rfl, rfl, rfl, rfl, rfl, rfl, rfl, fun _ h => h, fun _ _ h => h⟩

theorem Shrinks.setRemoved (f : WebSocketFarm) (s : SocketId) : Shrinks f (f.setRemoved s) := by
  refine ⟨rfl, rfl, rfl, rfl, rfl, rfl, rfl, fun t h => ?_, fun _ _ h => h⟩
  by_cases ht : t = s <;> simp [WebSocketFarm.setRemoved, ht, h]

theorem registered_congr (h : f'.socketMap = f.socketMap) (s : SocketId) :
    Registered dir f' s ↔ Registered dir f s := by
  rw [Registered, Registered, WebSocketFarm.socketsOf, WebSocketFarm.socketsOf, h]

@[simp] theorem registered_addIdle (f : WebSocketFarm) (n : Int) (s : SocketId) :
    Registered dir (f.addIdle n) s ↔ Registered dir f s := by
  rw [Registered, Registered, WebSocketFarm.socketsOf, WebSocketFarm.socketsOf,
    WebSocketFarm.addIdle]

@[simp] theorem registered_recordRemoval (f : WebSocketFarm) (k : Route) (n : Int) (s : SocketId) :
    Registered dir (f.recordRemoval k n) s ↔ Registered dir f s := by
  rw [Registered, Registered, WebSocketFarm.socketsOf, WebSocketFarm.socketsOf,
    WebSocketFarm.recordRemoval]

@[simp] theorem registered_setRemoved (f : WebSocketFarm) (u s : SocketId) :
    Registered dir (f.setRemoved u) s ↔ Registered dir f s := by
  rw [Registered, Registered, WebSocketFarm.socketsOf, WebSocketFarm.socketsOf,
    WebSocketFarm.setRemoved]

theorem socketsOf_setSockets (f : WebSocketFarm) (k k' : Route) (l : List SocketId) :
    (f.setSockets k l).socketsOf k' = if k' = k then l else f.socketsOf k' := by
  simp only [WebSocketFarm.socketsOf, WebSocketFarm.setSockets, Assoc.lookup_insert_eq]
  split <;> rfl

theorem Shrinks.setSockets (f : WebSocketFarm) (k : Route) (l : List SocketId)
    (hl : ∀ s ∈ l, s ∈ f.socketsOf k) : Shrinks f (f.setSockets k l) := by
  refine ⟨rfl, rfl, rfl, rfl, rfl, rfl, rfl, fun _ h => h, fun k' s h => ?_⟩
  rw [socketsOf_setSockets] at h
  split at h
  · subst k'
    exact hl s h
  · exact h

private theorem Effect.of_shrinks (hf : Shrinks f f') (ht : t.isPlain = true)
    (hth : ∀ c s, t.holding c s = 0)
    (hts : ∀ u ∈ ts, u.isPlain = true ∧ u.WellFormed dir ∧ ∀ c s, u.holding c s = 0) :
    Effect dir f f' t ts where
  conserves c s := by
    rw [arrivals_of_isPlain ht]
    exact .of_eq (occurrences_of_chan_eq hf.chan hth (fun u hu => (hts u hu).2.2) c s)
  sending c s := by
    rw [arrivals_of_isPlain ht, sending_of_isPlain ht,
      Pool.total_eq_zero fun u hu => sending_of_isPlain (hts u hu).1 s]
  handed := .inl hf.returned
  alive := hf.alive
  added := hf.added
  removed := hf.removed
  chanCount := hf.chanCount.ge
  arrived c s h := by simp [arrivals_of_isPlain ht] at h
  routes k c h := .inl (hf.routeToSocketChan ▸ h)
  routesKept k c h := .inl (hf.routeToSocketChan.symm ▸ h)
  registered s h := .inl (hf.sockets _ s h)
  inserted s h := by subst h; simp [Task.isPlain] at ht
  noInsert s := plain_not_add (fun u hu => (hts u hu).1) s .insert
  locks k := by
    rw [cleaning_of_isPlain ht, Pool.total_eq_zero fun u hu => cleaning_of_isPlain (hts u hu).1 k,
      lockCount, lockCount, hf.mapLocked]
  empty k hk h := by
    have hnil := h (hf.mapLocked ▸ hk)
    rw [List.eq_nil_iff_forall_not_mem] at hnil ⊢
    exact fun s hs => hnil s (hf.sockets k s hs)
  wellFormed u hu := (hts u hu).2.1

/-- The tasks that a remove, de-register or terminate step leaves. -/
def Task.isRemoval : Task → Bool
  | .remove _ _ | .deRegister _ _ _ | .terminateAll _ _ => true
  | _ => false

private theorem Effect.of_removal (hf : Shrinks f f') (ht : t.isRemoval = true)
    (hts : ∀ u ∈ ts, u.isRemoval = true) :
    Effect dir f f' t ts := by
  have hplain : ∀ u : Task, u.isRemoval = true →
      u.isPlain = true ∧ u.WellFormed dir ∧ ∀ c s, u.holding c s = 0 := by
    intro u hu
    cases u <;> simp_all [Task.isRemoval, Task.isPlain, Task.WellFormed, Task.holding]
  exact .of_shrinks hf (hplain t ht).1 (hplain t ht).2.2 fun u hu => hplain u (hts u hu)

theorem socketsOf_erase {k : Route} (h : f'.socketMap = f.socketMap.erase k) (k' : Route) :
    f'.socketsOf k' = if k' = k then [] else f.socketsOf k' := by
  simp only [WebSocketFarm.socketsOf, h, Assoc.lookup_erase_eq]
  split <;> rfl

theorem openChan_lookup (f : WebSocketFarm) (k k' : Route) :
    (f.openChan k).1.routeToSocketChan.lookup k' =
      if k' = k then some (f.openChan k).2 else f.routeToSocketChan.lookup k' := by
  unfold WebSocketFarm.openChan
  cases hl : f.routeToSocketChan.lookup k with
  | some c =>
      by_cases hk : k' = k
      · subst hk
        simp [hl]
      · simp [hk]
  | none => simp only [Assoc.lookup_insert_eq]

private theorem openChan_count (f : WebSocketFarm) (k : Route) (hfresh : f.chan f.chanCount = [])
    (c : ChanId) : (f.openChan k).1.chan c = f.chan c := by
  unfold WebSocketFarm.openChan
  cases f.routeToSocketChan.lookup k with
  | some _ => rfl
  | none =>
      by_cases hc : c = f.chanCount
      · subst hc
        simp [hfresh]
      · simp [hc]

private theorem openChan_chanCount (f : WebSocketFarm) (k : Route) :
    f.chanCount ≤ (f.openChan k).1.chanCount ∧
      (f.routeToSocketChan.lookup k = some (f.openChan k).2 ∨
        (f.openChan k).2 < (f.openChan k).1.chanCount) := by
  unfold WebSocketFarm.openChan
  cases f.routeToSocketChan.lookup k <;> simp

private theorem addInsert_effect (f : WebSocketFarm) (s : SocketId)
    (hlocked : f.mapLocked (dir s).route = false) :
    Effect dir f (f.setSockets (dir s).route ((f.socketsOf (dir s).route).insert s))
      (.add s .insert) [.add s .send] where
  conserves c u := .of_eq (by simp [occurrences, Task.holding, arrivals])
  sending c u := by simp [Task.sending, arrivals]
  handed := .inl rfl
  alive := rfl
  added := rfl
  removed _ h := h
  chanCount := le_rfl
  arrived c u h := by simp [arrivals] at h
  routes _ _ h := .inl h
  routesKept _ _ h := .inl h
  registered u h := by
    rw [Registered, socketsOf_setSockets] at h
    split at h
    · rename_i hk
      rcases List.mem_insert_iff.mp h with rfl | hu
      · exact .inr rfl
      · exact .inl (by rw [Registered, hk]; exact hu)
    · exact .inl h
  inserted u h := by simpa [eq_comm] using h
  noInsert u := by simp
  locks k := by simp only [Pool.total_cons, Pool.total_nil, Task.cleaning]; rfl
  empty k hk h := by
    have hne : k ≠ (dir s).route := by
      rintro rfl
      simp [WebSocketFarm.setSockets, hlocked] at hk
    rw [socketsOf_setSockets, if_neg hne]
    exact h hk
  wellFormed u hu := by
    obtain rfl : u = .add s .send := by simpa using hu
    trivial

private theorem addSend_effect (f : WebSocketFarm) (s : SocketId)
    (hfresh : f.chan f.chanCount = []) :
    Effect dir f ((f.openChan (dir s).route).1.send (f.openChan (dir s).route).2 s)
      (.add s .send) [.add s .count] := by
  obtain ⟨hmap, hlocked, hremoved, halive, hadded, hreturned⟩ := openChan_frame f (dir s).route
  refine
    { conserves := fun c u => .of_eq ?_
      sending := fun c u => ?_
      handed := .inl hreturned
      alive := halive
      added := hadded
      removed := fun u hu => ?_
      chanCount := (openChan_chanCount f _).1
      arrived := fun c u hu => ?_
      routes := fun k c hk => ?_
      routesKept := fun k c hk => .inl ?_
      registered := fun u hu => .inl ?_
      inserted := fun u hu => by simp at hu
      noInsert := by simp
      locks := fun k => ?_
      empty := fun k hk h => ?_
      wellFormed := fun u hu => ?_ }
  · have hcount := count_send (f.openChan (dir s).route).1 (f.openChan (dir s).route).2 c s u
    rw [openChan_count f _ hfresh] at hcount
    simpa [occurrences, Task.holding, arrivals] using hcount
  · by_cases hu : s = u
    · simp [Task.sending, arrivals, entry, hu]
      split <;> simp
    · simp [Task.sending, arrivals, entry, hu]
  · simpa [WebSocketFarm.send, hremoved] using hu
  · obtain ⟨rfl, rfl⟩ := entry_pos hu
    simp [WebSocketFarm.send, openChan_lookup]
  · rw [WebSocketFarm.send, openChan_lookup] at hk
    split at hk
    · subst k
      obtain rfl : (f.openChan (dir s).route).2 = c := by simpa using hk
      exact (openChan_chanCount f _).2
    · exact .inl hk
  · rw [WebSocketFarm.send, openChan_lookup]
    split
    · subst k
      simp [WebSocketFarm.openChan, hk]
    · exact hk
  · simpa [Registered, WebSocketFarm.socketsOf, WebSocketFarm.send, hmap] using hu
  · simp [Task.cleaning, lockCount, WebSocketFarm.send, hlocked]
  · have hk' : f.mapLocked k = true := by simpa [WebSocketFarm.send, hlocked] using hk
    simpa [WebSocketFarm.socketsOf, WebSocketFarm.send, hmap] using h hk'
  · obtain rfl : u = .add s .count := by simpa using hu
    trivial

private theorem addCount_effect (f : WebSocketFarm) (s : SocketId) :
    Effect dir f (f.addIdle 1) (.add s .count) [] where
  conserves c u := .of_eq (by simp [occurrences, Task.holding, arrivals])
  sending c u := by simp [Task.sending, arrivals]
  handed := .inl rfl
  alive := rfl
  added := rfl
  removed _ h := h
  chanCount := le_rfl
  arrived c u h := by simp [arrivals] at h
  routes _ _ h := .inl h
  routesKept _ _ h := .inl h
  registered _ h := .inl h
  inserted u h := by simp at h
  noInsert u := by simp
  locks k := by simp only [Pool.total_nil, Task.cleaning]; rfl
  empty k hk h := h hk
  wellFormed := by simp

private theorem Effect.of_clean {cutOff : Int} {pc : CleanPc} (hchan : f'.chan = f.chan)
    (hreturned : f'.returned = f.returned) (halive : f'.alive = f.alive)
    (hadded : f'.added = f.added) (hremoved : f'.isRemoved = f.isRemoved)
    (hcount : f'.chanCount = f.chanCount) (hts : ∀ u ∈ ts, ∃ pc', u = .cleanRoutes cutOff pc')
    (hroutes : ∀ k c, f'.routeToSocketChan.lookup k = some c → f.routeToSocketChan.lookup k = some c)
    (hkept : ∀ k c, f.routeToSocketChan.lookup k = some c → f'.routeToSocketChan.lookup k = some c ∨ 0 < Task.cleaning k (.cleanRoutes cutOff pc))
    (hsockets : ∀ k s, s ∈ f'.socketsOf k → s ∈ f.socketsOf k)
    (hlocks : ∀ k, Pool.total (Task.cleaning k) ts + lockCount f k = Task.cleaning k (.cleanRoutes cutOff pc) + lockCount f' k)
    (hempty : ∀ k, f'.mapLocked k = true → f.mapLocked k = true ∨ f.socketsOf k = []) :
    Effect dir f f' (.cleanRoutes cutOff pc) ts where
  conserves c s := .of_eq <| occurrences_of_chan_eq hchan (fun _ _ => rfl) (fun u hu => by
    obtain ⟨pc', rfl⟩ := hts u hu
    exact fun _ _ => rfl) c s
  sending c s := by
    rw [Pool.total_eq_zero fun u hu => ?_]
    · simp [arrivals]
    · obtain ⟨pc', rfl⟩ := hts u hu
      rfl
  handed := .inl hreturned
  alive := halive
  added := hadded
  removed s h := by rw [hremoved]; exact h
  chanCount := hcount.ge
  arrived c s h := by simp [arrivals] at h
  routes k c h := .inl (hroutes k c h)
  routesKept := hkept
  registered s h := .inl (hsockets _ s h)
  inserted s h := by simp at h
  noInsert s h := by
    obtain ⟨pc', hpc⟩ := hts _ h
    simp at hpc
  locks := hlocks
  empty k hk h := by
    have hnil : f.socketsOf k = [] := (hempty k hk).elim h id
    rw [List.eq_nil_iff_forall_not_mem] at hnil ⊢
    exact fun s hs => hnil s (hsockets k s hs)
  wellFormed u hu := by
    obtain ⟨pc', rfl⟩ := hts u hu
    trivial

private theorem socketsOf_erase_subset {k : Route} (h : f'.socketMap = f.socketMap.erase k)
    (k' : Route) (s : SocketId) (hs : s ∈ f'.socketsOf k') : s ∈ f.socketsOf k' := by
  rw [socketsOf_erase h] at hs
  split at hs
  · cases hs
  · exact hs

/-- What a step of any task can do. -/
theorem exec_effect {ch : Choice} (h : exec dir f t ch = some (f', ts)) (hwf : t.WellFormed dir)
    (hfresh : f.chan f.chanCount = []) (hlocked : ∀ k, 0 < t.cleaning k → f.mapLocked k = true) :
    Effect dir f f' t ts := by
  cases exec_transition h with
  | acquisition ht hsame hts =>
      cases t with
      | resolve config => exact execResolve_effect h
      | acquire q pc =>
          have hmove := execAcquire_move h
          exact .of_sameRegistry hsame rfl (fun u hu => ⟨hts u hu, hmove.wellFormed u hu⟩)
            hmove.conserves (hmove.handed hwf)
      | putBack c s =>
          simp only [exec, Option.some.injEq, Prod.mk.injEq] at h
          obtain ⟨rfl, rfl⟩ := h
          exact putBack_effect f c s
      | _ => cases ht
  | addInsert s c hfree => exact addInsert_effect f s hfree
  | addSend s c => exact addSend_effect f s hfresh
  | addCount s c => exact addCount_effect f s
  | recordTime s time => exact .of_removal (.recordRemoval f _ _) rfl (by simp [Task.isRemoval])
  | removeFound s c hreg =>
      exact .of_removal (.setSockets f _ _ fun u hu => List.mem_of_mem_erase hu) rfl
        (by simp [Task.isRemoval])
  | decrement | closeCount => exact .of_removal (.addIdle f _) rfl (by simp [Task.isRemoval])
  | store s | closeStore k connectorId s =>
      exact .of_removal (.setRemoved f s) rfl (by simp [Task.isRemoval])
  | retain k connectorId l sockets time hk =>
      refine .of_removal (.trans (.recordRemoval f k time) (.setSockets _ k _ ?_)) rfl
        (by simp [Task.isRemoval])
      intro u hu
      have hsockets : (f.recordRemoval k time).socketsOf k = sockets := by
        simp [WebSocketFarm.socketsOf, WebSocketFarm.recordRemoval, hk]
      rw [hsockets]
      exact (List.mem_filter.mp hu).1
  | removeMissing | collect | retainNone | closeEnd | closeActive | closeIdle | terminateEnd =>
      exact .of_removal (.refl f) rfl (by simp [Task.isRemoval])
  | terminate force visited k =>
      exact .of_removal ⟨rfl, rfl, rfl, rfl, rfl, rfl, rfl, fun _ h => h,
        socketsOf_erase_subset rfl⟩ rfl (by simp [Task.isRemoval])
  | cleanStay cutOff c ts hts =>
      refine .of_clean rfl rfl rfl rfl rfl rfl ?_ (fun _ _ h => h) (fun _ _ h => .inl h)
        (fun _ _ h => h) ?_ (fun _ h => .inl h)
      · rcases hts with rfl | rfl <;> simp
      · rcases hts with rfl | rfl <;> simp [Task.cleaning]
  | cleanLock cutOff k hk hfree =>
      refine .of_clean rfl rfl rfl rfl rfl rfl (by simp) (fun _ _ h => h) (fun _ _ h => .inl h)
        (fun _ _ h => h) (fun k' => ?_) (fun k' hk' => ?_)
      · by_cases hkk : k' = k
        · simp [Task.cleaning, lockCount, hkk, hfree]
        · simp [Task.cleaning, lockCount, Ne.symm hkk, Function.update_of_ne hkk]
      · by_cases hkk : k' = k
        · subst hkk
          exact .inr (by simp [WebSocketFarm.socketsOf, hk])
        · exact .inl (by simpa [Function.update_of_ne hkk] using hk')
  | cleanChan cutOff k c =>
      refine .of_clean rfl rfl rfl rfl rfl rfl (by simp) (fun k' c hc => ?_) (fun k' c hc => ?_)
        (fun _ _ h => h) (fun k' => ?_) (fun _ h => .inl h)
      · rw [Assoc.lookup_erase_eq] at hc
        split at hc
        · simp at hc
        · exact hc
      · by_cases hkk : k' = k
        · exact .inr (by simp [Task.cleaning, hkk])
        · exact .inl (by simp only [Assoc.lookup_erase_eq, if_neg hkk]; exact hc)
      · simp only [Pool.total_cons, Pool.total_nil, Task.cleaning]
        rfl
  | cleanEntry cutOff k c =>
      have hk : f.mapLocked k = true := hlocked k (by simp [Task.cleaning])
      refine .of_clean rfl rfl rfl rfl rfl rfl (by simp) (fun _ _ h => h) (fun _ _ h => .inl h)
        (socketsOf_erase_subset rfl) (fun k' => ?_) (fun k' hk' => ?_)
      · by_cases hkk : k' = k
        · simp [Task.cleaning, lockCount, hkk, hk]
        · simp [Task.cleaning, lockCount, Ne.symm hkk, Function.update_of_ne hkk]
      · by_cases hkk : k' = k
        · subst hkk
          exact .inl hk
        · exact .inl (by simpa [Function.update_of_ne hkk] using hk')

end CrankerRouter.Farm
