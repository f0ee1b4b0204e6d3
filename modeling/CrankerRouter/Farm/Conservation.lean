import CrankerRouter.Farm.Effect

/-!
# Hand-out and conservation

Over every run of the farm, with any number of concurrent acquisitions and cancellations, a
socket is in at most one place, a V1 socket is handed out at most once, and a usable socket can
be found in the channel of its route.
-/

namespace CrankerRouter.Farm

open Lib

variable {dir : SocketId → RouterSocket}

/-- The invariant of the farm. -/
structure Conserved (dir : SocketId → RouterSocket) (f : WebSocketFarm) (ts : List Task) :
    Prop where
  once : ∀ c s, occurrences f ts c s + Pool.total (Task.sending s) ts ≤ 1
  home : ∀ c c' s, 0 < occurrences f ts c s → 0 < occurrences f ts c' s → c = c'
  spent : ∀ s, (dir s).crankerVersion = .v1 → s ∈ f.returned →
    (∀ c, occurrences f ts c s = 0) ∧ Pool.total (Task.sending s) ts = 0
  handedOnce : ∀ s, (dir s).crankerVersion = .v1 → f.returned.count s ≤ 1
  sendingKnown : ∀ s, 0 < Pool.total (Task.sending s) ts → s ∈ f.added
  placeKnown : ∀ c s, 0 < occurrences f ts c s → s ∈ f.added
  returnedKnown : ∀ s, s ∈ f.returned → s ∈ f.added
  registeredKnown : ∀ s, Registered dir f s → s ∈ f.added
  fresh : ∀ c s, f.chanCount ≤ c → occurrences f ts c s = 0
  chanLt : ∀ k c, f.routeToSocketChan.lookup k = some c → c < f.chanCount
  live : ∀ s, Registered dir f s → f.alive s = true
  inserting : ∀ s, Task.add s .insert ∈ ts → f.alive s = true
  placed : ∀ s, Registered dir f s → Task.add s .send ∈ ts ∨ f.isRemoved s = true ∨
    ((dir s).crankerVersion = .v1 ∧ s ∈ f.returned) ∨
    ∃ c, f.routeToSocketChan.lookup (dir s).route = some c ∧ 0 < occurrences f ts c s
  locks : ∀ k, Pool.total (Task.cleaning k) ts = lockCount f k
  empty : ∀ k, f.mapLocked k = true → f.socketsOf k = []
  wellFormed : ∀ t ∈ ts, t.WellFormed dir

theorem conserved_new : Conserved dir .new [] := by
  constructor <;>
    simp [WebSocketFarm.new, occurrences, Registered, WebSocketFarm.socketsOf, lockCount]

private theorem occurrences_append (f : WebSocketFarm) (l ts r : List Task) (c : ChanId)
    (s : SocketId) :
    occurrences f (l ++ ts ++ r) c s = occurrences f ts c s +
      (Pool.total (Task.holding c s) l + Pool.total (Task.holding c s) r) := by
  simp only [occurrences, Pool.total_append]
  omega

theorem Conserves.frame {f f' : WebSocketFarm} {s : SocketId} {before after : Nat} (n : Nat)
    (h : Conserves dir f f' s before after) : Conserves dir f f' s (before + n) (after + n) := by
  obtain ⟨hle, hcase⟩ := h
  refine ⟨by omega, ?_⟩
  rcases hcase with heq | hlost
  · exact .inl (by omega)
  · exact .inr hlost

private theorem arrivals_unique {f : WebSocketFarm} {t : Task} {c c' : ChanId} {s : SocketId}
    (h : 0 < arrivals dir f t c s) (h' : 0 < arrivals dir f t c' s) : c = c' := by
  unfold arrivals at h h'
  split at h
  · exact (entry_pos h).1.symm.trans (entry_pos h').1
  · simp at h

section Step

variable {f f' : WebSocketFarm} {t : Task} {ts l r : List Task}

/-- The effect of a step on all tasks of the pool. -/
theorem Effect.conserves_pool (he : Effect dir f f' t ts) (c : ChanId) (s : SocketId) :
    Conserves dir f f' s (occurrences f (l ++ t :: r) c s + arrivals dir f t c s)
      (occurrences f' (l ++ ts ++ r) c s) := by
  have hframe := (he.conserves c s).frame
    (Pool.total (Task.holding c s) l + Pool.total (Task.holding c s) r)
  have hsplit := occurrences_append f l [t] r c s
  rw [List.append_assoc, List.singleton_append] at hsplit
  rw [occurrences_append, hsplit, Nat.add_right_comm]
  exact hframe

theorem Effect.sending_pool (he : Effect dir f f' t ts) (c : ChanId) (s : SocketId) :
    Pool.total (Task.sending s) (l ++ ts ++ r) + arrivals dir f t c s ≤
      Pool.total (Task.sending s) (l ++ t :: r) := by
  have hs := he.sending c s
  simp only [Pool.total_append, Pool.total_cons]
  omega

theorem Effect.returned_mono (he : Effect dir f f' t ts) {s : SocketId} (hs : s ∈ f.returned) :
    s ∈ f'.returned := by
  rcases he.handed with heq | ⟨u, c, heq, -⟩ <;> simp [heq, hs]

/-- A socket that the step hands out was in the hands of the task, and was not handed out before
if it is V1. -/
theorem Conserved.handed (hp : Conserved dir f (l ++ t :: r)) (he : Effect dir f f' t ts) :
    f'.returned = f.returned ∨ ∃ s c, f'.returned = s :: f.returned ∧
      occurrences f (l ++ t :: r) c s = 1 ∧ ((dir s).crankerVersion = .v1 →
        s ∉ f.returned ∧ occurrences f' (l ++ ts ++ r) c s = 0) := by
  rcases he.handed with heq | ⟨s, c, heq, hpos, hv1⟩
  · exact .inl heq
  have hocc : 0 < occurrences f (l ++ t :: r) c s := by
    simp only [occurrences, Pool.total_append, Pool.total_cons]
    omega
  have honce := hp.once c s
  refine .inr ⟨s, c, heq, by omega, fun hv => ⟨fun hmem => ?_, ?_⟩⟩
  · have hzero := (hp.spent s hv hmem).1 c
    omega
  · have hdrop := hv1 hv
    have hsplit := occurrences_append f l [t] r c s
    rw [List.append_assoc, List.singleton_append] at hsplit
    rw [occurrences_append]
    omega

/-- An entry that appears is an old one or the first one of its socket. -/
theorem Effect.entry_cases (he : Effect dir f f' t ts) {c : ChanId} {s : SocketId}
    (h : 0 < occurrences f' (l ++ ts ++ r) c s) :
    0 < occurrences f (l ++ t :: r) c s ∨ 0 < arrivals dir f t c s := by
  have hle := (he.conserves_pool (l := l) (r := r) c s).1
  omega

private theorem Conserved.arriving (hp : Conserved dir f (l ++ t :: r)) (he : Effect dir f f' t ts)
    {c : ChanId} {s : SocketId} (h : 0 < arrivals dir f t c s) :
    0 < Pool.total (Task.sending s) (l ++ t :: r) ∧
      ∀ c', occurrences f (l ++ t :: r) c' s = 0 := by
  have hsend := he.sending_pool (l := l) (r := r) c s
  refine ⟨by omega, fun c' => ?_⟩
  have honce := hp.once c' s
  omega

private theorem Conserved.once_step (hp : Conserved dir f (l ++ t :: r)) (he : Effect dir f f' t ts)
    (c : ChanId) (s : SocketId) :
    occurrences f' (l ++ ts ++ r) c s + Pool.total (Task.sending s) (l ++ ts ++ r) ≤ 1 := by
  have honce := hp.once c s
  have hcons := (he.conserves_pool (l := l) (r := r) c s).1
  have hsend := he.sending_pool (l := l) (r := r) c s
  omega

private theorem Conserved.home_step (hp : Conserved dir f (l ++ t :: r)) (he : Effect dir f f' t ts)
    (c c' : ChanId) (s : SocketId) (h : 0 < occurrences f' (l ++ ts ++ r) c s)
    (h' : 0 < occurrences f' (l ++ ts ++ r) c' s) : c = c' := by
  rcases he.entry_cases h with hc | hc <;> rcases he.entry_cases h' with hc' | hc'
  · exact hp.home c c' s hc hc'
  · have hzero := (hp.arriving he hc').2 c
    omega
  · have hzero := (hp.arriving he hc).2 c'
    omega
  · exact arrivals_unique hc hc'

private theorem Conserved.spent_step (hp : Conserved dir f (l ++ t :: r))
    (he : Effect dir f f' t ts)
    (s : SocketId) (hv : (dir s).crankerVersion = .v1) (hs : s ∈ f'.returned) :
    (∀ c, occurrences f' (l ++ ts ++ r) c s = 0) ∧
      Pool.total (Task.sending s) (l ++ ts ++ r) = 0 := by
  -- Nothing is left of a socket that has no entry in the next state in the channel it came from.
  have hgone : ∀ c, Pool.total (Task.sending s) (l ++ t :: r) = 0 →
      occurrences f' (l ++ ts ++ r) c s = 0 →
      (∀ c', 0 < occurrences f (l ++ t :: r) c' s → c = c') →
      (∀ c, occurrences f' (l ++ ts ++ r) c s = 0) ∧
        Pool.total (Task.sending s) (l ++ ts ++ r) = 0 := by
    intro c hsending hzero honly
    have hsend := he.sending_pool (l := l) (r := r) c s
    refine ⟨fun c' => ?_, by omega⟩
    by_contra hne
    rcases he.entry_cases (Nat.pos_of_ne_zero hne) with hc' | hc'
    · exact hne (honly c' hc' ▸ hzero)
    · have hpos := (hp.arriving he hc').1
      omega
  have hold : s ∈ f.returned → (∀ c, occurrences f' (l ++ ts ++ r) c s = 0) ∧
      Pool.total (Task.sending s) (l ++ ts ++ r) = 0 := by
    intro hmem
    obtain ⟨hocc, hsending⟩ := hp.spent s hv hmem
    have hcons := (he.conserves_pool (l := l) (r := r) 0 s).1
    have hsend := he.sending_pool (l := l) (r := r) 0 s
    have hocc' := hocc 0
    refine hgone 0 hsending (by omega) fun c' hc' => ?_
    have hzero := hocc c'
    omega
  rcases hp.handed he with heq | ⟨u, c, heq, hone, hv1⟩
  · exact hold (heq ▸ hs)
  · rw [heq, List.mem_cons] at hs
    rcases hs with rfl | hs
    · have honce := hp.once c s
      exact hgone c (by omega) (hv1 hv).2 fun c' hc' => hp.home c c' s (by omega) hc'
    · exact hold hs

private theorem Conserved.handedOnce_step (hp : Conserved dir f (l ++ t :: r))
    (he : Effect dir f f' t ts) (s : SocketId) (hv : (dir s).crankerVersion = .v1) :
    f'.returned.count s ≤ 1 := by
  rcases hp.handed he with heq | ⟨u, c, heq, -, hv1⟩
  · rw [heq]
    exact hp.handedOnce s hv
  · by_cases hu : u = s
    · subst hu
      rw [heq, List.count_cons_self, List.count_eq_zero_of_not_mem (hv1 hv).1]
    · rw [heq, List.count_cons_of_ne hu]
      exact hp.handedOnce s hv

private theorem Conserved.returnedKnown_step (hp : Conserved dir f (l ++ t :: r))
    (he : Effect dir f f' t ts) (s : SocketId) (h : s ∈ f'.returned) : s ∈ f.added := by
  rcases hp.handed he with heq | ⟨u, c, heq, hone, -⟩
  · exact hp.returnedKnown s (heq ▸ h)
  · rw [heq, List.mem_cons] at h
    rcases h with rfl | h
    · exact hp.placeKnown c s (by omega)
    · exact hp.returnedKnown s h

theorem Conserved.fresh_step (hp : Conserved dir f (l ++ t :: r)) (he : Effect dir f f' t ts)
    (c : ChanId) (s : SocketId) (hc : f'.chanCount ≤ c) :
    occurrences f' (l ++ ts ++ r) c s = 0 := by
  have hcount := he.chanCount
  by_contra hne
  rcases he.entry_cases (Nat.pos_of_ne_zero hne) with hpos | hpos
  · have hzero := hp.fresh c s (hcount.trans hc)
    omega
  · rcases he.routes _ c (he.arrived c s hpos) with hk | hk
    · exact absurd ((hp.chanLt _ c hk).trans_le (hcount.trans hc)) (lt_irrefl c)
    · exact absurd (hk.trans_le hc) (lt_irrefl c)

theorem Conserved.locked (hp : Conserved dir f (l ++ t :: r)) {k : Route} (hk : 0 < t.cleaning k) :
    f.mapLocked k = true := by
  by_contra hno
  have hlock := hp.locks k
  simp only [Pool.total_append, Pool.total_cons, lockCount, if_neg hno] at hlock
  omega

/-- A registered socket has an entry in the channel of its route unless it has been told removed
or is spent: the channel of a route is dropped only while the route has no sockets. -/
private theorem Conserved.placed_step (hp : Conserved dir f (l ++ t :: r))
    (he : Effect dir f f' t ts)
    (s : SocketId) (h : Registered dir f' s) :
    Task.add s .send ∈ l ++ ts ++ r ∨ f'.isRemoved s = true ∨
      ((dir s).crankerVersion = .v1 ∧ s ∈ f'.returned) ∨
      ∃ c, f'.routeToSocketChan.lookup (dir s).route = some c ∧
        0 < occurrences f' (l ++ ts ++ r) c s := by
  rcases he.registered s h with hreg | rfl
  swap
  · exact .inl (by simp [he.inserted s rfl])
  -- An entry in the channel of the route stays there, or the step was entitled to take it.
  have hstays : ∀ c, f'.routeToSocketChan.lookup (dir s).route = some c →
      0 < occurrences f (l ++ t :: r) c s + arrivals dir f t c s →
      f'.isRemoved s = true ∨ ((dir s).crankerVersion = .v1 ∧ s ∈ f'.returned) ∨
        ∃ c, f'.routeToSocketChan.lookup (dir s).route = some c ∧
          0 < occurrences f' (l ++ ts ++ r) c s := by
    intro c hk hpos
    rcases (he.conserves_pool (l := l) (r := r) c s).2 with heq | hdead | hrem | hv1
    · exact .inr (.inr ⟨c, hk, by omega⟩)
    · simp [hp.live s hreg] at hdead
    · exact .inl (he.removed s hrem)
    · exact .inr (.inl hv1)
  rcases hp.placed s hreg with hadd | hrem | ⟨hv, hret⟩ | ⟨c, hk, hocc⟩
  · by_cases ht : t = .add s .send
    · subst ht
      have harr : 0 < arrivals dir f (.add s .send) (f.openChan (dir s).route).2 s := by
        simp [arrivals]
      exact .inr (hstays _ (he.arrived _ s harr) (by omega))
    · refine .inl ?_
      simp only [List.mem_append, List.mem_cons] at hadd ⊢
      tauto
  · exact .inr (.inl (he.removed s hrem))
  · exact .inr (.inr (.inl ⟨hv, he.returned_mono hret⟩))
  · rcases he.routesKept _ c hk with hk' | hclean
    · exact .inr (hstays c hk' (by omega))
    · rw [Registered, hp.empty _ (hp.locked hclean)] at hreg
      simp at hreg

theorem Conserved.task (hp : Conserved dir f (l ++ t :: r)) (he : Effect dir f f' t ts) :
    Conserved dir f' (l ++ ts ++ r) where
  once := hp.once_step he
  home := hp.home_step he
  spent := hp.spent_step he
  handedOnce := hp.handedOnce_step he
  sendingKnown s h := by
    have hsend := he.sending_pool (l := l) (r := r) 0 s
    rw [he.added]
    exact hp.sendingKnown s (by omega)
  placeKnown c s h := by
    rw [he.added]
    rcases he.entry_cases h with hc | hc
    · exact hp.placeKnown c s hc
    · exact hp.sendingKnown s (hp.arriving he hc).1
  returnedKnown s h := by
    rw [he.added]
    exact hp.returnedKnown_step he s h
  registeredKnown s h := by
    rw [he.added]
    rcases he.registered s h with h | rfl
    · exact hp.registeredKnown s h
    · exact hp.sendingKnown s (by simp [Task.sending])
  fresh := hp.fresh_step he
  chanLt k c h := by
    rcases he.routes k c h with hk | hk
    · exact (hp.chanLt k c hk).trans_le he.chanCount
    · exact hk
  live s h := by
    rw [he.alive]
    rcases he.registered s h with h | rfl
    · exact hp.live s h
    · exact hp.inserting s (by simp)
  inserting s h := by
    rw [he.alive]
    refine hp.inserting s ?_
    have hno := he.noInsert s
    simp only [List.mem_append, List.mem_cons] at h ⊢
    tauto
  placed := hp.placed_step he
  locks k := by
    have hlock := hp.locks k
    have hstep := he.locks k
    simp only [Pool.total_append, Pool.total_cons] at hlock ⊢
    omega
  empty k hk := he.empty k hk (hp.empty k)
  wellFormed u hu := by
    simp only [List.mem_append] at hu
    rcases hu with (hu | hu) | hu
    · exact hp.wellFormed u (by simp [hu])
    · exact he.wellFormed u hu
    · exact hp.wellFormed u (by simp [hu])

end Step

theorem Conserved.env {f f' : WebSocketFarm} {ts us : List Task} (hp : Conserved dir f ts)
    (hchan : f'.chan = f.chan) (hreturned : f'.returned = f.returned)
    (hroutes : f'.routeToSocketChan = f.routeToSocketChan) (hcount : f'.chanCount = f.chanCount)
    (hmap : f'.socketMap = f.socketMap) (hlocked : f'.mapLocked = f.mapLocked)
    (hremoved : ∀ s, f.isRemoved s = true → f'.isRemoved s = true)
    (hadded : ∀ s, s ∈ f.added → s ∈ f'.added)
    (hlive : ∀ s, Registered dir f s → f'.alive s = true)
    (hinserting : ∀ s, Task.add s .insert ∈ ts ++ us → f'.alive s = true)
    (hsending : ∀ s, 0 < Pool.total (Task.sending s) us →
      Pool.total (Task.sending s) us = 1 ∧ s ∉ f.added ∧ s ∈ f'.added)
    (hus : ∀ u ∈ us, u.WellFormed dir ∧ (∀ c s, u.holding c s = 0) ∧ ∀ k, u.cleaning k = 0) :
    Conserved dir f' (ts ++ us) := by
  have hocc : ∀ c s, occurrences f' (ts ++ us) c s = occurrences f ts c s := by
    intro c s
    simp [occurrences, hchan, Pool.total_eq_zero fun u hu => (hus u hu).2.1 c s]
  have hreg : ∀ s, Registered dir f' s ↔ Registered dir f s := registered_congr hmap
  -- A socket with a new add task is nowhere else.
  have hnew : ∀ s, 0 < Pool.total (Task.sending s) us →
      Pool.total (Task.sending s) ts = 0 ∧ ∀ c, occurrences f ts c s = 0 := by
    intro s hs
    have hnot := (hsending s hs).2.1
    refine ⟨?_, fun c => ?_⟩
    · by_contra hne
      exact hnot (hp.sendingKnown s (Nat.pos_of_ne_zero hne))
    · by_contra hne
      exact hnot (hp.placeKnown c s (Nat.pos_of_ne_zero hne))
  refine
    { once := fun c s => ?once
      home := fun c c' s => by rw [hocc, hocc]; exact hp.home c c' s
      spent := fun s hv hs => ?spent
      handedOnce := fun s hv => hreturned ▸ hp.handedOnce s hv
      sendingKnown := fun s hs => ?sendingKnown
      placeKnown := fun c s h => hadded s (hp.placeKnown c s (hocc c s ▸ h))
      returnedKnown := fun s h => hadded s (hp.returnedKnown s (hreturned ▸ h))
      registeredKnown := fun s h => hadded s (hp.registeredKnown s ((hreg s).mp h))
      fresh := fun c s hc => by rw [hocc]; exact hp.fresh c s (hcount ▸ hc)
      chanLt := fun k c h => by rw [hcount]; exact hp.chanLt k c (hroutes ▸ h)
      live := fun s h => hlive s ((hreg s).mp h)
      inserting := hinserting
      placed := fun s h => ?placed
      locks := fun k => ?locks
      empty := fun k hk => ?empty
      wellFormed := fun u hu => ?wellFormed }
  case once =>
    rw [hocc, Pool.total_append]
    rcases Nat.eq_zero_or_pos (Pool.total (Task.sending s) us) with hz | hpos
    · rw [hz]
      exact hp.once c s
    · have hone := (hsending s hpos).1
      obtain ⟨hsent, hzero⟩ := hnew s hpos
      rw [hsent, hzero]
      omega
  case spent =>
    have hmem : s ∈ f.returned := hreturned ▸ hs
    obtain ⟨hzero, hnone⟩ := hp.spent s hv hmem
    refine ⟨fun c => by rw [hocc]; exact hzero c, ?_⟩
    rw [Pool.total_append, hnone, Nat.zero_add]
    by_contra hne
    exact (hsending s (Nat.pos_of_ne_zero hne)).2.1 (hp.returnedKnown s hmem)
  case sendingKnown =>
    rw [Pool.total_append] at hs
    rcases Nat.eq_zero_or_pos (Pool.total (Task.sending s) us) with hz | hpos
    · exact hadded s (hp.sendingKnown s (by omega))
    · exact (hsending s hpos).2.2
  case placed =>
    rcases hp.placed s ((hreg s).mp h) with hadd | hrem | ⟨hv, hret⟩ | ⟨c, hk, hpos⟩
    · exact .inl (by simp [hadd])
    · exact .inr (.inl (hremoved s hrem))
    · exact .inr (.inr (.inl ⟨hv, hreturned.symm ▸ hret⟩))
    · exact .inr (.inr (.inr ⟨c, hroutes.symm ▸ hk, by rw [hocc]; exact hpos⟩))
  case locks =>
    rw [Pool.total_append, Pool.total_eq_zero fun u hu => (hus u hu).2.2 k, Nat.add_zero,
      hp.locks k, lockCount, lockCount, hlocked]
  case empty =>
    rw [WebSocketFarm.socketsOf, hmap]
    exact hp.empty k (hlocked ▸ hk)
  case wellFormed =>
    rcases List.mem_append.mp hu with hu | hu
    · exact hp.wellFormed u hu
    · exact (hus u hu).1

theorem Env.apply_frame (f : WebSocketFarm) (e : Env) :
    (e.apply f).chan = f.chan ∧ (e.apply f).returned = f.returned ∧
      (e.apply f).routeToSocketChan = f.routeToSocketChan ∧
      (e.apply f).chanCount = f.chanCount ∧ (e.apply f).socketMap = f.socketMap ∧
      (e.apply f).mapLocked = f.mapLocked := by
  cases e <;> simp only [Env.apply, WebSocketFarm.setRemoved, and_self]
  split <;> simp

theorem Env.apply_isRemoved {f : WebSocketFarm} {s : SocketId} (e : Env)
    (hs : f.isRemoved s = true) : (e.apply f).isRemoved s = true := by
  cases e with
  | storeRemoved u => exact (Shrinks.setRemoved f u).removed s hs
  | enableDarkMode host =>
      simp only [Env.apply]
      split <;> exact hs
  | _ => exact hs

theorem Env.apply_added (f : WebSocketFarm) (e : Env) :
    (∃ u, e = .add u ∧ (e.apply f).added = u :: f.added) ∨
      (∀ u, e ≠ .add u) ∧ (e.apply f).added = f.added := by
  cases e with
  | add u => exact .inl ⟨u, rfl, rfl⟩
  | enableDarkMode host =>
      refine .inr ⟨by simp, ?_⟩
      simp only [Env.apply]
      split <;> rfl
  | _ => exact .inr ⟨by simp, rfl⟩

theorem Env.apply_alive (f : WebSocketFarm) (e : Env) :
    (∃ u, e = .dropLast u ∧ (e.apply f).alive = Function.update f.alive u false) ∨
      (e.apply f).alive = f.alive := by
  cases e with
  | dropLast u => exact .inl ⟨u, rfl, rfl⟩
  | enableDarkMode host =>
      right
      simp only [Env.apply]
      split <;> rfl
  | _ => exact .inr rfl

private theorem Env.spawned_inert (e : Env) :
    ∀ u ∈ e.spawned, u.WellFormed dir ∧ (∀ c s, u.holding c s = 0) ∧ ∀ k, u.cleaning k = 0 := by
  cases e <;> simp [Env.spawned, Task.WellFormed, Task.holding, Task.cleaning]

theorem Env.spawned_holding (e : Env) (c : ChanId) (s : SocketId) :
    Pool.total (Task.holding c s) e.spawned = 0 := by
  cases e <;> simp [Env.spawned, Task.holding]

private theorem Env.alive_of_enabled {p : FarmPool} {e : Env} (hen : e.enabled dir p = true)
    {s : SocketId}
    (halive : p.shared.alive s = true)
    (hs : Registered dir p.shared s ∨ Task.add s .insert ∈ p.tasks) :
    (e.apply p.shared).alive s = true := by
  rcases Env.apply_alive p.shared e with ⟨u, rfl, hu⟩ | hsame
  · have hne : s ≠ u := by
      rintro rfl
      simp only [Env.enabled, Bool.and_eq_true, Bool.not_eq_true', decide_eq_false_iff_not,
        List.all_eq_true] at hen
      rcases hs with hreg | htask
      · exact hen.1 hreg
      · simpa [Task.holdsStrong] using hen.2 _ htask
    rw [hu, Function.update_of_ne hne]
    exact halive
  · rw [hsame]
    exact halive

theorem Conserved.env_step {p : FarmPool} {e : Env} (hp : Conserved dir p.shared p.tasks)
    (hen : e.enabled dir p = true) :
    Conserved dir (e.apply p.shared) (p.tasks ++ e.spawned) := by
  obtain ⟨hchan, hreturned, hroutes, hcount, hmap, hlocked⟩ := Env.apply_frame p.shared e
  refine hp.env hchan hreturned hroutes hcount hmap hlocked (fun s => Env.apply_isRemoved e)
    (fun s hs => ?_) (fun s hs => Env.alive_of_enabled hen (hp.live s hs) (.inl hs))
    (fun s hs => ?_) (fun s hs => ?_) e.spawned_inert
  · rcases Env.apply_added p.shared e with ⟨u, -, hadd⟩ | ⟨-, hadd⟩ <;> simp [hadd, hs]
  · rcases List.mem_append.mp hs with hs | hs
    · exact Env.alive_of_enabled hen (hp.inserting s hs) (.inr hs)
    · cases e <;> simp [Env.spawned] at hs
      subst hs
      simp only [Env.enabled, Bool.and_eq_true] at hen
      exact hen.2
  · cases e <;> simp [Env.spawned, Task.sending] at hs
    rename_i u
    obtain rfl : u = s := by
      by_contra hne
      simp [hne] at hs
    simp only [Env.enabled, Bool.and_eq_true, Bool.not_eq_true', List.contains_eq_mem,
      decide_eq_false_iff_not] at hen
    exact ⟨by simp [Env.spawned, Task.sending], hen.1, by simp [Env.apply]⟩

/-- Under the invariant, a step of a task has its effect. -/
theorem Conserved.effect {f f' : WebSocketFarm} {t : Task} {c : Choice} {ts l r : List Task}
    (hp : Conserved dir f (l ++ t :: r)) (hexec : exec dir f t c = some (f', ts)) :
    Effect dir f f' t ts := by
  refine exec_effect hexec (hp.wellFormed t (by simp)) ?_ fun k => hp.locked
  refine List.eq_nil_iff_forall_not_mem.mpr fun s hs => ?_
  have hfresh := hp.fresh f.chanCount s le_rfl
  have hcount := List.count_pos_iff.mpr hs
  simp only [occurrences] at hfresh
  omega

theorem Conserved.step {p q : FarmPool} {a : Label} (hp : Conserved dir p.shared p.tasks)
    (h : step dir p a = some q) : Conserved dir q.shared q.tasks := by
  rcases step_cases dir h with ⟨i, c, l, t, r, f, ts, -, -, htasks, hexec, rfl⟩ | ⟨e, -, hen, rfl⟩
  · rw [htasks] at hp
    exact hp.task (hp.effect hexec)
  · exact hp.env_step hen

/-- The invariant holds in every state of every run. -/
theorem conserved_of_reachable {p : FarmPool}
    (h : (machine dir).Reachable Machine.anyAction p) : Conserved dir p.shared p.tasks := by
  refine h.invariant (P := fun p => Conserved dir p.shared p.tasks) ?_ ?_
  · rintro p rfl
    exact conserved_new
  · intro p a q hp _ hstep
    exact hp.step hstep

/-- Hand-out and conservation, in every reachable state of the farm: a socket occurs at most once
in a channel, counting the entries held by running steps; a V1 socket that an acquisition has
returned occurs nowhere and is returned once; and a socket whose add task is done, that is
registered, not marked removed and not handed out as V1, occurs exactly once in the channel that
is registered for its route. -/
theorem handOut_and_conservation (dir : SocketId → RouterSocket) (p : FarmPool)
    (h : (machine dir).Reachable Machine.anyAction p) :
    (∀ c s, occurrences p.shared p.tasks c s ≤ 1) ∧
    (∀ s, (dir s).crankerVersion = .v1 → s ∈ p.shared.returned →
      ∀ c, occurrences p.shared p.tasks c s = 0) ∧
    (∀ s, (dir s).crankerVersion = .v1 → p.shared.returned.count s ≤ 1) ∧
    (∀ s, s ∈ p.shared.added → (∀ pc, Task.add s pc ∉ p.tasks) → Registered dir p.shared s →
      p.shared.isRemoved s = false →
      ¬((dir s).crankerVersion = .v1 ∧ s ∈ p.shared.returned) →
      ∃ c, p.shared.routeToSocketChan.lookup (dir s).route = some c ∧
        occurrences p.shared p.tasks c s = 1) := by
  have hinv := conserved_of_reachable h
  refine ⟨fun c s => ?_, fun s hv hs => (hinv.spent s hv hs).1, hinv.handedOnce,
    fun s _ hdone hreg hrem hout => ?_⟩
  · have honce := hinv.once c s
    omega
  · rcases hinv.placed s hreg with hadd | hrem' | hout' | ⟨c, hk, hpos⟩
    · exact absurd hadd (hdone .send)
    · simp [hrem] at hrem'
    · exact absurd hout' hout
    · have honce := hinv.once c s
      exact ⟨c, hk, by omega⟩

/-- A V1 socket and a V3 socket of one connector on one route. -/
def ordersDir : SocketId → RouterSocket := fun s =>
  { route := "orders", domain := "*", connectorId := "connector", remoteIp := 1
    crankerVersion := if s = 0 then .v1 else .v3 }

/-- Both sockets have been added, and one request has got the V1 socket. -/
def handOutState : FarmPool :=
  (machine ordersDir).run Machine.anyAction ⟨.new, []⟩
    [.env (.add 0), .task 0 .go, .task 0 .go, .task 0 .go,
     .env (.add 1), .task 0 .go, .task 0 .go, .task 0 .go,
     .env (.acquire ⟨false, false, false⟩), .task 0 (.route "orders"), .task 0 (.precise false),
     .task 0 .go, .task 0 .go, .task 0 .go, .task 0 (.verdict true)]

theorem handOut_and_conservation_handOutState :
    handOutState.shared.returned = [0] ∧
      occurrences handOutState.shared handOutState.tasks 0 0 = 0 ∧
      ∃ c, handOutState.shared.routeToSocketChan.lookup "orders" = some c ∧
        occurrences handOutState.shared handOutState.tasks c 1 = 1 := by
  obtain ⟨-, hspent, -, hplaced⟩ := handOut_and_conservation ordersDir handOutState
    (Machine.reachable_run _ _ rfl _)
  have hidle : handOutState.tasks = [] := by decide +kernel
  exact ⟨by decide +kernel, hspent 0 rfl (by decide +kernel) 0,
    hplaced 1 (by decide +kernel) (by simp [hidle]) (by decide +kernel) (by decide +kernel)
      (by decide +kernel)⟩

end CrankerRouter.Farm
