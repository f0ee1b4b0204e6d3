import CrankerRouter.Farm.RouteResolver
import CrankerRouter.Farm.Conservation

/-!
# Catch-all

Every channel is opened for one route and only ever holds sockets of that route, also after the
farm has dropped it.  An acquisition takes sockets from the channel of its resolved route, and from
a channel of `"*"` only if catch-all is allowed.  What the flag does not cover is the answer of the
resolver: a path that names no route resolves to `"*"` itself.
-/

namespace CrankerRouter.Farm

open Lib

variable {dir : SocketId → RouterSocket}

section Labels

/-- The variables of the drain loop that the program point is in. -/
def AcquirePc.draining : AcquirePc → Option Drain
  | .fallback (.drain d) | .fallback (.upgrade d _) => some d
  | .fallback (.checkRemoved d _) | .fallback (.flush d _) => some d
  | _ => none

/-- The drain loop works on the channel of the resolved route or, where catch-all is allowed, on one
of `"*"`. -/
def Drain.Asks (g : ChanId → Route) (n : ChanId) (q : Acquisition) (d : Drain) : Prop :=
  d.chan = q.chan ∨ (d.chan < n ∧ g d.chan = "*" ∧ q.config.allowCatchAll = true)

/-- An acquisition takes sockets from channels that `g` labels with the routes it may use. -/
def Task.Asks (g : ChanId → Route) (n : ChanId) : Task → Prop
  | .acquire q pc => (q.chan < n ∧ g q.chan = q.resolvedRoute) ∧
      ∀ d ∈ pc.draining, d.Asks g n q
  | _ => True

/-- `g` names the route that each channel was opened for. -/
structure Labelled (dir : SocketId → RouterSocket) (g : ChanId → Route) (f : WebSocketFarm)
    (ts : List Task) : Prop where
  current : ∀ k c, f.routeToSocketChan.lookup k = some c → g c = k
  home : ∀ c s, 0 < occurrences f ts c s → g c = (dir s).route
  asks : ∀ t ∈ ts, t.Asks g f.chanCount

variable {f f' : WebSocketFarm} {t : Task} {ts l r : List Task} {g g' : ChanId → Route}

theorem Drain.Asks.mono {q : Acquisition} {d : Drain} {n n' : ChanId} (h : d.Asks g n q)
    (hn : n ≤ n') (hg : ∀ c < n, g' c = g c) : d.Asks g' n' q := by
  rcases h with hown | ⟨hlt, hstar, hallow⟩
  · exact .inl hown
  · exact .inr ⟨hlt.trans_le hn, by rw [hg d.chan hlt, hstar], hallow⟩

theorem Task.Asks.mono {n n' : ChanId} (h : t.Asks g n) (hn : n ≤ n')
    (hg : ∀ c < n, g' c = g c) : t.Asks g' n' := by
  cases t with
  | acquire q pc =>
      obtain ⟨⟨hlt, hroute⟩, hdrain⟩ := h
      exact ⟨⟨hlt.trans_le hn, by rw [hg q.chan hlt, hroute]⟩,
        fun d hd => (hdrain d hd).mono hn hg⟩
  | _ => trivial

private theorem asks_of_not_acquire {n : ChanId} (h : ∀ q pc, t ≠ .acquire q pc) : t.Asks g n := by
  cases t with
  | acquire q pc => exact absurd rfl (h q pc)
  | _ => trivial

theorem AcquireMove.asks {n : ChanId} {q : Acquisition} {pc : AcquirePc} {c : Choice}
    (h : AcquireMove dir f q pc c f' ts) (ht : Task.Asks g n (.acquire q pc))
    (hcur : ∀ k c, f.routeToSocketChan.lookup k = some c → g c = k ∧ c < n) :
    ∀ u ∈ ts, u.Asks g n := by
  obtain ⟨hq, hdrain⟩ := ht
  cases h with
  | startFirst timedOut c hfirst =>
      intro u hu
      obtain rfl := List.mem_singleton.mp hu
      refine ⟨hq, ?_⟩
      rintro d ⟨rfl⟩
      exact .inl rfl
  | catchAll hosts timedOut c ch hallow hch =>
      intro u hu
      obtain rfl := List.mem_singleton.mp hu
      refine ⟨hq, ?_⟩
      rintro d ⟨rfl⟩
      obtain ⟨hstar, hlt⟩ := hcur "*" ch hch
      exact .inr ⟨hlt, hstar, hallow⟩
  | drainEmpty d | drainTake d | drainDead d | drainAlive d | drainPick d =>
      intro u hu
      obtain rfl := List.mem_singleton.mp hu
      exact ⟨hq, hdrain⟩
  | drainRemoved d s c hr =>
      intro u hu
      rcases List.mem_cons.mp hu with rfl | hu
      · exact ⟨hq, hdrain⟩
      · obtain rfl := List.mem_singleton.mp hu
        trivial
  | drainDark d | flushOne d =>
      intro u hu
      obtain rfl := List.mem_singleton.mp hu
      refine ⟨hq, ?_⟩
      rintro d' ⟨rfl⟩
      exact hdrain d rfl
  | _ => simp [Task.Asks, AcquirePc.draining, hq]

/-- The route table only gains the channel that an add task opens. -/
theorem Transition.opens {c : Choice} (h : Transition dir f t c f' ts) :
    (∀ k ch, f'.routeToSocketChan.lookup k = some ch → f.routeToSocketChan.lookup k = some ch) ∨
    ∃ s, t = .add s .send ∧ f'.chanCount = f.chanCount + 1 ∧
      ∀ k ch, f'.routeToSocketChan.lookup k = some ch →
        f.routeToSocketChan.lookup k = some ch ∨ (k = (dir s).route ∧ ch = f.chanCount) := by
  cases h with
  | acquisition hacq hsame =>
      refine .inl fun k ch hk => ?_
      rwa [hsame.routeToSocketChan] at hk
  | addSend s c =>
      cases hlook : f.routeToSocketChan.lookup (dir s).route with
      | some ch =>
          refine .inl fun k ch' hk => ?_
          simpa [WebSocketFarm.openChan, WebSocketFarm.send, hlook] using hk
      | none =>
          refine .inr ⟨s, rfl, by simp [WebSocketFarm.openChan, WebSocketFarm.send, hlook], ?_⟩
          intro k ch hk
          simp only [WebSocketFarm.send, WebSocketFarm.openChan, hlook,
            Assoc.lookup_insert_eq] at hk
          split_ifs at hk with heq
          · exact .inr ⟨heq, (Option.some.inj hk).symm⟩
          · exact .inl hk
  | cleanChan cutOff k c =>
      refine .inl fun k' ch hk => ?_
      by_cases heq : k' = k
      · subst heq
        simp [AList.lookup_erase] at hk
      · simpa [AList.lookup_erase_ne heq] using hk
  | addCount | decrement | closeCount =>
      refine .inl fun k ch hk => ?_
      rwa [addIdle_routeToSocketChan] at hk
  | _ => exact .inl fun k ch hk => hk

theorem Labelled.task {c : Choice} (hg : Labelled dir g f (l ++ t :: r))
    (hp : Conserved dir f (l ++ t :: r)) (hexec : exec dir f t c = some (f', ts)) :
    ∃ g', Labelled dir g' f' (l ++ ts ++ r) := by
  have he := hp.effect hexec
  have hcur : ∀ k c, f.routeToSocketChan.lookup k = some c → g c = k ∧ c < f.chanCount :=
    fun k c hk => ⟨hg.current k c hk, hp.chanLt k c hk⟩
  -- the step's own tasks, under the old labels
  have hts : ∀ u ∈ ts, u.Asks g f.chanCount := by
    cases t with
    | acquire q pc => exact (execAcquire_move hexec).asks (hg.asks (.acquire q pc) (by simp)) hcur
    | resolve config =>
        rcases execResolve_cases hexec with ⟨s, -, -, rfl, rfl⟩ | ⟨k, -, -, rfl, rfl⟩ |
          ⟨k, ch, -, hk, rfl, rfl⟩
        · simp [Task.Asks]
        · simp
        · intro u hu
          obtain rfl := List.mem_singleton.mp hu
          obtain ⟨hlabel, hlt⟩ := hcur k ch hk
          exact ⟨⟨hlt, hlabel⟩, by simp [AcquirePc.draining]⟩
    | putBack c' s =>
        simp only [exec, Option.some.injEq, Prod.mk.injEq] at hexec
        simp [← hexec.2]
    | _ =>
        intro u hu
        rcases ((exec_transition hexec).of_not_acquisition rfl).2 with rfl | ⟨v, rfl, hv⟩
        · cases hu
        · obtain rfl := List.mem_singleton.mp hu
          refine asks_of_not_acquire ?_
          rintro q pc rfl
          cases hv
  have hpool : ∀ u ∈ l ++ ts ++ r, u.Asks g f.chanCount := by
    intro u hu
    simp only [List.mem_append] at hu
    rcases hu with (hu | hu) | hu
    · exact hg.asks u (by simp [hu])
    · exact hts u hu
    · exact hg.asks u (by simp [hu])
  -- it is enough to label the channels that the route table names
  have hbuild : ∀ g', (∀ c < f.chanCount, g' c = g c) →
      (∀ k c, f'.routeToSocketChan.lookup k = some c → g' c = k) →
      Labelled dir g' f' (l ++ ts ++ r) := by
    intro g' hsame hcurrent
    refine ⟨hcurrent, ?_, fun u hu => (hpool u hu).mono he.chanCount hsame⟩
    intro c s hpos
    rcases he.entry_cases hpos with hold | harr
    · have hlt : c < f.chanCount := by
        by_contra hge
        have hzero := hp.fresh c s (not_lt.mp hge)
        omega
      rw [hsame c hlt, hg.home c s hold]
    · exact hcurrent _ _ (he.arrived c s harr)
  rcases (exec_transition hexec).opens with hold | ⟨s, -, -, hnew⟩
  · exact ⟨g, hbuild g (fun _ _ => rfl) fun k c hk => hg.current k c (hold k c hk)⟩
  · refine ⟨Function.update g f.chanCount (dir s).route, hbuild _ ?_ ?_⟩
    · intro c hlt
      exact Function.update_of_ne hlt.ne _ _
    · intro k c hk
      rcases hnew k c hk with hk | ⟨rfl, rfl⟩
      · rw [Function.update_of_ne (hp.chanLt k c hk).ne, hg.current k c hk]
      · exact Function.update_self _ _ _

theorem Labelled.env {p : FarmPool} (hg : Labelled dir g p.shared p.tasks) (e : Env) :
    Labelled dir g (e.apply p.shared) (p.tasks ++ e.spawned) := by
  obtain ⟨hchan, -, hroutes, hcount, -⟩ := Env.apply_frame p.shared e
  refine ⟨?_, ?_, ?_⟩
  · simpa only [hroutes] using hg.current
  · intro c s hpos
    exact hg.home c s (by simpa [occurrences, hchan, e.spawned_holding] using hpos)
  · intro t ht
    rw [hcount]
    rcases List.mem_append.mp ht with ht | ht
    · exact hg.asks t ht
    · cases e <;> simp only [Env.spawned, List.mem_singleton, List.not_mem_nil] at ht <;>
        subst ht <;> trivial

private theorem labelled_of_reachable {p : FarmPool}
    (h : (machine dir).Reachable Machine.anyAction p) :
    ∃ g, Labelled dir g p.shared p.tasks := by
  refine (h.invariant (P := fun p => Conserved dir p.shared p.tasks ∧
    ∃ g, Labelled dir g p.shared p.tasks) ?_ ?_).2
  · rintro p rfl
    exact ⟨conserved_new, fun _ => "*", by simp [WebSocketFarm.new],
      by simp [occurrences, WebSocketFarm.new], by simp⟩
  · rintro p a q ⟨hp, g, hg⟩ - hstep
    refine ⟨hp.step hstep, ?_⟩
    rcases step_cases dir hstep with
      ⟨i, c, l, t, r, f, ts, -, -, htasks, hexec, rfl⟩ | ⟨e, -, -, rfl⟩
    · rw [htasks] at hp hg
      exact hg.task hp hexec
    · exact ⟨g, hg.env e⟩

private theorem entries_pos {c c' : ChanId} {us : List SocketId} {s : SocketId}
    (h : 0 < entries c us c' s) : c = c' := by
  by_contra hne
  simp [entries, hne] at h

private theorem chan_of_holding {q : Acquisition} {pc : AcquirePc} {c : ChanId} {s : SocketId}
    (h : 0 < Task.holding c s (.acquire q pc)) :
    q.chan = c ∨ ∃ d ∈ pc.draining, d.chan = c := by
  cases pc with
  | main | waitNotified => simp [Task.holding] at h
  | scan pc =>
      cases pc with
      | recv => simp [Task.holding] at h
      | _ => exact .inl (entry_pos h).1
  | fallback pc =>
      cases pc with
      | start | catchAll => simp [Task.holding] at h
      | drain d => exact .inr ⟨d, rfl, entries_pos h⟩
      | upgrade d u | checkRemoved d u =>
          refine .inr ⟨d, rfl, ?_⟩
          rcases Nat.add_pos_iff_pos_or_pos.mp h with h | h
          · exact entries_pos h
          · exact (entry_pos h).1
      | flush d pick =>
          refine .inr ⟨d, rfl, ?_⟩
          rcases Nat.add_pos_iff_pos_or_pos.mp h with h | h
          · exact entries_pos h
          · exact entries_pos h

private theorem Labelled.returned_route {q : Acquisition} {pc : AcquirePc} {c : Choice}
    {s : SocketId}
    (hg : Labelled dir g f (l ++ .acquire q pc :: r))
    (hp : Conserved dir f (l ++ .acquire q pc :: r))
    (hexec : exec dir f (.acquire q pc) c = some (f', ts)) (hret : f'.returned = s :: f.returned) :
    (dir s).route = q.resolvedRoute ∨
      ((dir s).route = "*" ∧ q.config.allowCatchAll = true) := by
  have hnew : f'.returned ≠ f.returned := by
    intro heq
    simp [heq] at hret
  obtain ⟨u, ch, hu, hheld, -⟩ := (hp.effect hexec).handed.resolve_left hnew
  obtain rfl : u = s := (List.cons.inj (hu.symm.trans hret)).1
  have hroute : g ch = (dir u).route := by
    apply hg.home
    simp only [occurrences, Pool.total_append, Pool.total_cons]
    omega
  obtain ⟨⟨-, hown⟩, hdrain⟩ := hg.asks (.acquire q pc) (by simp)
  rcases chan_of_holding hheld with rfl | ⟨d, hd, rfl⟩
  · exact .inl (hroute.symm.trans hown)
  · rcases hdrain d hd with hsame | ⟨-, hstar, hallow⟩
    · rw [hsame] at hroute
      exact .inl (hroute.symm.trans hown)
    · exact .inr ⟨hroute.symm.trans hstar, hallow⟩

end Labels

section Requests

/-- A step of the farm in which the route of an acquisition is the answer of a resolver for the path
of its request and the routes it has collected. -/
inductive RequestLabel
  | farm (a : Label)
  | resolve (i : Nat) (r : RouteResolver) (routes : List Route) (target : String)
  deriving DecidableEq, Repr

def requestStep (dir : SocketId → RouterSocket) (p : FarmPool) : RequestLabel → Option FarmPool
  | .farm (.task _ (.route _)) => none
  | .farm a => step dir p a
  | .resolve i r routes target =>
      match r.resolve routes target with
      | some k => step dir p (.task i (.route k))
      | none => none

def requestMachine (dir : SocketId → RouterSocket) : Machine FarmPool RequestLabel where
  init := fun p => p = ⟨.new, []⟩
  step := requestStep dir

private theorem requestStep_cases {p p' : FarmPool} {b : RequestLabel}
    (h : requestStep dir p b = some p') :
    (∃ a, b = .farm a ∧ (∀ i k, a ≠ .task i (.route k)) ∧ step dir p a = some p') ∨
    ∃ i r routes target k, b = .resolve i r routes target ∧ r.resolve routes target = some k ∧
      step dir p (.task i (.route k)) = some p' := by
  unfold requestStep at h
  split at h
  · cases h
  · rename_i a hne
    exact .inl ⟨a, rfl, hne, h⟩
  · rename_i i r routes target
    cases hk : r.resolve routes target with
    | none => simp [hk] at h
    | some k => exact .inr ⟨i, r, routes, target, k, rfl, hk, by simpa [hk] using h⟩

private theorem reachable_of_request {ok : FarmPool → RequestLabel → Prop} {p : FarmPool}
    (h : (requestMachine dir).Reachable ok p) : (machine dir).Reachable Machine.anyAction p := by
  refine h.invariant (P := (machine dir).Reachable Machine.anyAction) ?_ ?_
  · rintro p rfl
    exact ⟨_, rfl, .refl⟩
  · intro p b p' hp _ hstep
    rcases requestStep_cases hstep with ⟨a, -, -, hfarm⟩ | ⟨i, r, routes, target, k, -, -, hfarm⟩
    · exact hp.next (a := a) trivial hfarm
    · exact hp.next (a := .task i (.route k)) trivial hfarm

/-- When catch-all is not allowed and the resolver answers `"*"`, there is no channel for `"*"`. -/
def catchAllUnregistered (p : FarmPool) : RequestLabel → Bool
  | .farm _ => true
  | .resolve i r routes target =>
      match p.tasks[i]? with
      | some (.resolve config) => config.allowCatchAll || r.resolve routes target != some "*" ||
          (p.shared.routeToSocketChan.lookup "*").isNone
      | _ => true

/-- An acquisition that must not use catch-all has resolved to another route. -/
def Task.ownRoute : Task → Prop
  | .acquire q _ => q.config.allowCatchAll = false → q.resolvedRoute ≠ "*"
  | _ => True

private theorem ownRoute_of_acquire {t : Task} (h : ∀ q pc, t = .acquire q pc → t.ownRoute) :
    t.ownRoute := by
  cases t with
  | acquire q pc => exact h q pc rfl
  | _ => trivial

private theorem step_ownRoute {p p' : FarmPool} {a : Label} (hp : ∀ t ∈ p.tasks, t.ownRoute)
    (h : step dir p a = some p')
    (hroute : ∀ i config k ch, a = .task i (.route k) → p.tasks[i]? = some (.resolve config) →
      config.allowCatchAll = false → p.shared.routeToSocketChan.lookup k = some ch → k ≠ "*") :
    ∀ t ∈ p'.tasks, t.ownRoute := by
  intro u hu
  refine ownRoute_of_acquire ?_
  rintro q pc rfl
  rcases step_cases dir h with
    ⟨i, c, l, t, r, f, ts, rfl, hi, htasks, hexec, rfl⟩ | ⟨e, -, -, rfl⟩
  · rw [htasks] at hp
    simp only [List.mem_append] at hu
    rcases hu with (hu | hu) | hu
    · exact hp _ (by simp [hu])
    · rcases exec_acquisitions hexec hu with ⟨pc', rfl⟩ | ⟨rfl, rfl, hch⟩
      · exact hp (.acquire q pc') (by simp)
      · exact fun hallow => hroute i q.config q.resolvedRoute q.chan rfl hi hallow hch
    · exact hp _ (by simp [hu])
  · rcases List.mem_append.mp hu with hu | hu
    · exact hp _ hu
    · cases e <;> simp [Env.spawned] at hu

private theorem ownRoute_of_reachable {p : FarmPool}
    (h : (requestMachine dir).Reachable (fun p b => catchAllUnregistered p b = true) p) :
    ∀ t ∈ p.tasks, t.ownRoute := by
  refine h.invariant (P := fun p => ∀ t ∈ p.tasks, t.ownRoute) ?_ ?_
  · rintro p rfl
    simp
  · intro p b p' hp hok hstep
    rcases requestStep_cases hstep with
      ⟨a, -, hne, hfarm⟩ | ⟨i, r, routes, target, k, rfl, hk, hfarm⟩
    · refine step_ownRoute hp hfarm ?_
      rintro i config k ch rfl
      exact absurd rfl (hne i k)
    · refine step_ownRoute hp hfarm ?_
      rintro i' config k' ch ha hi hallow hch rfl
      obtain ⟨rfl, rfl⟩ : i = i' ∧ k = "*" := by simpa using ha
      simp [catchAllUnregistered, hi, hallow, hk, hch] at hok

end Requests

/-- With `allow_catch_all = false`, and unless an acquisition whose path resolves to `"*"` finds a
channel for `"*"`: every socket that is returned is of the route that the acquisition resolved
to and not of `"*"`, and an acquisition whose path names no collected route but `"*"` ends at
once. -/
theorem catch_all_switched_off (dir : SocketId → RouterSocket) (p : FarmPool)
    (h : (requestMachine dir).Reachable (fun p b => catchAllUnregistered p b = true) p) :
    (∀ i c q pc p' s, p.tasks[i]? = some (.acquire q pc) → q.config.allowCatchAll = false →
      requestStep dir p (.farm (.task i c)) = some p' →
      p'.shared.returned = s :: p.shared.returned →
      (dir s).route = q.resolvedRoute ∧ (dir s).route ≠ "*") ∧
    ∀ i config r routes target p', p.tasks[i]? = some (.resolve config) →
      config.allowCatchAll = false → (∀ k ∈ routes, r.Names target k → k = "*") →
      catchAllUnregistered p (.resolve i r routes target) = true →
      requestStep dir p (.resolve i r routes target) = some p' →
      p' = ⟨p.shared, p.tasks.eraseIdx i⟩ := by
  have hreach := reachable_of_request h
  have hcons := conserved_of_reachable hreach
  obtain ⟨g, hg⟩ := labelled_of_reachable hreach
  refine ⟨?_, ?_⟩
  · intro i c q pc p' s hi hallow hstep hret
    have hfarm : step dir p (.task i c) = some p' := by
      rcases requestStep_cases hstep with ⟨a, ha, -, hfarm⟩ | ⟨j, r, routes, target, k, ha, -, -⟩
      · obtain rfl : Label.task i c = a := by simpa using ha
        exact hfarm
      · cases ha
    obtain ⟨l, t, r, f, ts, hi', htasks, hexec, rfl⟩ := Pool.step_cases hfarm
    obtain rfl : t = .acquire q pc := Option.some.inj (hi'.symm.trans hi)
    have hown := ownRoute_of_reachable h (.acquire q pc) (by simp [htasks])
    rw [htasks] at hcons hg
    rcases hg.returned_route hcons hexec hret with hroute | ⟨-, hyes⟩
    · exact ⟨hroute, hroute ▸ hown hallow⟩
    · rw [hallow] at hyes
      cases hyes
  · intro i config r routes target p' hi hallow hnames hok hstep
    rcases requestStep_cases hstep with ⟨a, ha, -, -⟩ | ⟨j, r', routes', target', k, ha, hk, hfarm⟩
    · cases ha
    obtain ⟨rfl, rfl, rfl, rfl⟩ : i = j ∧ r = r' ∧ routes = routes' ∧ target = target' := by
      simpa using ha
    obtain rfl : k = "*" := by
      rcases RouteResolver.resolve_spec hk with ⟨hmem, hnamed⟩ | ⟨hstar, -⟩
      · exact hnames k hmem hnamed
      · exact hstar
    have hnone : p.shared.routeToSocketChan.lookup "*" = none := by
      simpa [catchAllUnregistered, hi, hallow, hk] using hok
    simp only [step, Pool.step, hi, exec, execResolve, hnone, Option.some.injEq] at hfarm
    rw [← hfarm, List.eraseIdx_eq_take_drop_succ, List.append_nil]

/-- One socket of `"*"` and one of `"orders"`. -/
def starDir : SocketId → RouterSocket := fun s =>
  { route := if s = 0 then "*" else "orders", domain := "*", connectorId := "connector"
    remoteIp := 1, crankerVersion := .v3 }

/-- An acquisition of `/orders/7` is about to return the socket of `"orders"`. -/
def ordersState : FarmPool :=
  (requestMachine starDir).run (fun p b => catchAllUnregistered p b = true) ⟨.new, []⟩
    [.farm (.env (.add 0)), .farm (.task 0 .go), .farm (.task 0 .go), .farm (.task 0 .go),
     .farm (.env (.add 1)), .farm (.task 0 .go), .farm (.task 0 .go), .farm (.task 0 .go),
     .farm (.env (.acquire ⟨false, true, true⟩)), .resolve 0 .default ["*", "orders"] "/orders/7",
     .farm (.task 0 (.precise false)), .farm (.task 0 .go), .farm (.task 0 .go),
     .farm (.task 0 .go), .farm (.task 0 (.verdict true))]

theorem catch_all_switched_off_ordersState :
    ∃ p', requestStep starDir ordersState (.farm (.task 0 .go)) = some p' ∧
      p'.shared.returned = [1] ∧ (starDir 1).route ≠ "*" := by
  have hoff := (catch_all_switched_off starDir ordersState (Machine.reachable_run _ _ rfl _)).1
  have hnew : ordersState.shared.returned = [] := by decide +kernel
  have hret : (requestStep starDir ordersState (.farm (.task 0 .go))).map (·.shared.returned) =
      some [1] := by decide +kernel
  obtain ⟨p', hp', h1⟩ := Option.map_eq_some_iff.mp hret
  refine ⟨p', hp', h1, (hoff 0 .go ⟨⟨false, true, true⟩, "orders", 1⟩
    (.scan (.putBack 1 .handOut)) p' 1 (by decide +kernel) rfl hp' ?_).2⟩
  rw [h1, hnew]

/-- A request for a path that names no route, with catch-all switched off: it is about to return. -/
def unmatchedState (r : RouteResolver) : FarmPool :=
  (requestMachine starDir).run Machine.anyAction ⟨.new, []⟩
    [.farm (.env (.add 0)), .farm (.task 0 .go), .farm (.task 0 .go), .farm (.task 0 .go),
     .farm (.env (.acquire ⟨false, true, true⟩)), .resolve 0 r ["*"] "/orders/7",
     .farm (.task 0 (.precise false)), .farm (.task 0 .go), .farm (.task 0 .go),
     .farm (.task 0 .go), .farm (.task 0 (.verdict true))]

/-- With either resolver it returns the socket of `"*"`. -/
theorem catch_all_socket_returned :
    ((unmatchedState .default).tasks =
        [.acquire ⟨⟨false, true, true⟩, "*", 0⟩ (.scan (.putBack 0 .handOut))] ∧
      (requestStep starDir (unmatchedState .default) (.farm (.task 0 .go))).map
        (·.shared.returned) = some [0]) ∧
    ((unmatchedState .longestFirst).tasks =
        [.acquire ⟨⟨false, true, true⟩, "*", 0⟩ (.scan (.putBack 0 .handOut))] ∧
      (requestStep starDir (unmatchedState .longestFirst) (.farm (.task 0 .go))).map
        (·.shared.returned) = some [0]) ∧
    (starDir 0).route = "*" := by
  decide +kernel

end CrankerRouter.Farm
