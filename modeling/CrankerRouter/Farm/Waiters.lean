import CrankerRouter.Farm.Conservation

/-!
# Waiters

An acquisition keeps the channel it cloned.  As long as the farm does not drop the channel of a
route that an acquisition is for, that channel stays the current one of the route, and every new
socket of the route arrives in it.
-/

namespace CrankerRouter.Farm

open Lib

variable {dir : SocketId → RouterSocket}

/-- `clean_routes_in_background` drops the channel of a route only when no acquisition for the route is
in progress. -/
def keepsWaiters (p : FarmPool) : Label → Bool
  | .task i _ =>
      match p.tasks[i]? with
      | some (.cleanRoutes _ (.dropChan k)) => p.tasks.all fun
          | .acquire q _ => q.resolvedRoute != k
          | _ => true
      | _ => true
  | .env _ => true

/-- Every acquisition has the current channel of its route. -/
def UpToDate (p : FarmPool) : Prop :=
  ∀ q pc, Task.acquire q pc ∈ p.tasks →
    p.shared.routeToSocketChan.lookup q.resolvedRoute = some q.chan

private theorem Transition.current_kept {f f' : WebSocketFarm} {t : Task} {c : Choice}
    {ts : List Task}
    {k : Route} {ch : ChanId} (h : Transition dir f t c f' ts)
    (hk : f.routeToSocketChan.lookup k = some ch)
    (ht : ∀ cutOff, t ≠ .cleanRoutes cutOff (.dropChan k)) :
    f'.routeToSocketChan.lookup k = some ch := by
  cases h with
  | acquisition hacq hsame => rwa [hsame.routeToSocketChan]
  | addSend s c =>
      have hlook := openChan_lookup f (dir s).route k
      by_cases heq : k = (dir s).route
      · have hch : (f.openChan (dir s).route).2 = ch := by
          rw [heq] at hk
          simp [WebSocketFarm.openChan, hk]
        simpa [WebSocketFarm.send, heq, hch] using hlook
      · simpa [WebSocketFarm.send, heq, hk] using hlook
  | cleanChan cutOff k' c =>
      have hne : k ≠ k' := by
        rintro rfl
        exact ht cutOff rfl
      simpa [AList.lookup_erase_ne hne] using hk
  | addCount | decrement | closeCount => rwa [addIdle_routeToSocketChan]
  | _ => exact hk

theorem UpToDate.step {p p' : FarmPool} {a : Label} (hp : UpToDate p)
    (hok : keepsWaiters p a = true) (h : Farm.step dir p a = some p') : UpToDate p' := by
  intro q pc hmem
  rcases step_cases dir h with
    ⟨i, c, l, t, r, f, ts, rfl, hi, htasks, hexec, rfl⟩ | ⟨e, -, -, rfl⟩
  · have hold : (∃ pc', Task.acquire q pc' ∈ p.tasks) ∨
        (t = .resolve q.config ∧
          p.shared.routeToSocketChan.lookup q.resolvedRoute = some q.chan) := by
      rw [htasks]
      simp only [List.mem_append] at hmem
      rcases hmem with (hmem | hmem) | hmem
      · exact .inl ⟨pc, by simp [hmem]⟩
      · rcases exec_acquisitions hexec hmem with ⟨pc', rfl⟩ | ⟨rfl, -, hk⟩
        · exact .inl ⟨pc', by simp⟩
        · exact .inr ⟨rfl, hk⟩
      · exact .inl ⟨pc, by simp [hmem]⟩
    rcases hold with ⟨pc', hacq⟩ | ⟨rfl, hk⟩
    · refine (exec_transition hexec).current_kept (hp q pc' hacq) ?_
      rintro cutOff rfl
      simp only [keepsWaiters, hi, List.all_eq_true] at hok
      simpa using hok (.acquire q pc') hacq
    · exact (exec_transition hexec).current_kept hk (by simp)
  · rw [(Env.apply_frame p.shared e).2.2.1]
    rcases List.mem_append.mp hmem with hmem | hmem
    · exact hp q pc hmem
    · cases e <;> simp [Env.spawned] at hmem

/-- In the runs in which no channel is dropped under an acquisition: whenever an acquisition waits in
`recv`, every socket of its route whose add is done, that is registered, not marked removed, not
handed out as V1 and in nobody's hands is in the channel that the acquisition waits on. -/
theorem waiter_not_stranded (dir : SocketId → RouterSocket) (p : FarmPool)
    (h : (machine dir).Reachable (fun p a => keepsWaiters p a = true) p) :
    ∀ q visited precise s, Task.acquire q (.scan (.recv visited precise)) ∈ p.tasks →
      (dir s).route = q.resolvedRoute → (∀ pc, Task.add s pc ∉ p.tasks) →
      Registered dir p.shared s → p.shared.isRemoved s = false →
      ((dir s).crankerVersion = .v1 → s ∉ p.shared.returned) →
      (∀ t ∈ p.tasks, ∀ c, t.holding c s = 0) → s ∈ p.shared.chan q.chan := by
  intro q visited precise s hwait hroute hdone hreg hrem hout hfree
  have hcons := conserved_of_reachable (h.mono fun _ _ _ => trivial)
  have hcurrent : UpToDate p := by
    refine h.invariant (P := UpToDate) ?_ fun u a v hu hok hstep => hu.step hok hstep
    rintro p rfl q pc hmem
    simp at hmem
  rcases hcons.placed s hreg with hadd | hmarked | ⟨hv, hmem⟩ | ⟨c, hk, hpos⟩
  · exact absurd hadd (hdone .send)
  · rw [hrem] at hmarked
    cases hmarked
  · exact absurd hmem (hout hv)
  · rw [hroute, hcurrent q _ hwait] at hk
    obtain rfl := Option.some.inj hk
    have hnobody : Pool.total (Task.holding q.chan s) p.tasks = 0 :=
      Pool.total_eq_zero fun t ht => hfree t ht q.chan
    rw [occurrences, hnobody, Nat.add_zero] at hpos
    exact List.count_pos_iff.mp hpos

/-- The V1 socket has gone, an acquisition waits, and the V3 socket is added. -/
def waitingState : FarmPool :=
  (machine ordersDir).run (fun p a => keepsWaiters p a = true) ⟨.new, []⟩
    [.env (.add 0), .task 0 .go, .task 0 .go, .task 0 .go,
     .env (.remove 0), .task 0 (.now 0), .task 0 .go, .task 0 .go, .task 0 .go, .env (.dropLast 0),
     .env (.acquire ⟨false, false, false⟩), .task 0 (.route "orders"), .task 0 (.precise false),
     .task 0 .go, .task 0 .go, .env (.add 1), .task 1 .go, .task 1 .go, .task 1 .go]

theorem waiter_not_stranded_waitingState :
    waitingState.tasks = [.acquire ⟨⟨false, false, false⟩, "orders", 0⟩ (.scan (.recv [] false))] ∧
      1 ∈ waitingState.shared.chan 0 := by
  have htasks : waitingState.tasks =
      [.acquire ⟨⟨false, false, false⟩, "orders", 0⟩ (.scan (.recv [] false))] := by decide +kernel
  refine ⟨htasks, waiter_not_stranded ordersDir waitingState (Machine.reachable_run _ _ rfl _)
    ⟨⟨false, false, false⟩, "orders", 0⟩ [] false 1 (by simp [htasks]) rfl
    (by simp [htasks]) (by decide +kernel) (by decide +kernel) (by decide +kernel) ?_⟩
  simp [htasks, Task.holding]

/-- The same, with a cleanup tick between the wait and the registration. -/
def strandedState : FarmPool :=
  (machine ordersDir).run Machine.anyAction ⟨.new, []⟩
    [.env (.add 0), .task 0 .go, .task 0 .go, .task 0 .go,
     .env (.remove 0), .task 0 (.now 0), .task 0 .go, .task 0 .go, .task 0 .go, .env (.dropLast 0),
     .env (.acquire ⟨false, false, false⟩), .task 0 (.route "orders"), .task 0 (.precise false),
     .task 0 .go, .task 0 .go, .env (.cleanRoutes 10), .task 1 (.visit "orders"), .task 1 .go,
     .task 1 .go, .task 1 .stop, .env (.add 1), .task 1 .go, .task 1 .go, .task 1 .go]

/-- The waiter is left with a channel of its own, and the new socket is in another one. -/
theorem waiter_stranded :
    strandedState.tasks = [.acquire ⟨⟨false, false, false⟩, "orders", 0⟩ (.scan (.recv [] false))] ∧
      (ordersDir 1).route = "orders" ∧ 1 ∈ strandedState.shared.added ∧
      Registered ordersDir strandedState.shared 1 ∧ strandedState.shared.alive 1 = true ∧
      strandedState.shared.isRemoved 1 = false ∧ strandedState.shared.returned = [] ∧
      strandedState.shared.chan 0 = [] ∧ strandedState.shared.chan 1 = [1] := by
  decide +kernel

end CrankerRouter.Farm
