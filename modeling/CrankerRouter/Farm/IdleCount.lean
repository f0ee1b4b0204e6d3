import CrankerRouter.Farm.Selection

/-!
# The idle counter

`idle_count` is exact when no background task is pending if every task that changes the socket
map pays for the change.  Each task owes the counter what it has done to the map and not yet
counted, and the counter together with what is owed is the number of entries.
-/

namespace CrankerRouter.Farm

open Lib

variable {dir : SocketId → RouterSocket}

private theorem entryCount_setSockets (f : WebSocketFarm) (k : Route) (l : List SocketId) :
    (f.setSockets k l).entryCount + (f.socketsOf k).length = f.entryCount + l.length := by
  unfold WebSocketFarm.entryCount WebSocketFarm.socketsOf WebSocketFarm.setSockets
  cases hk : f.socketMap.lookup k with
  | none => simpa using Assoc.total_insert_none List.length f.socketMap k l hk
  | some l' => simpa using Assoc.total_insert_some List.length f.socketMap k l' l hk

private theorem entryCount_erase (f f' : WebSocketFarm) (k : Route)
    (h : f'.socketMap = f.socketMap.erase k) :
    f'.entryCount + (f.socketsOf k).length = f.entryCount := by
  unfold WebSocketFarm.entryCount WebSocketFarm.socketsOf
  rw [h]
  cases hk : f.socketMap.lookup k with
  | none => simpa using Assoc.total_erase_none List.length f.socketMap k hk
  | some l => simpa using Assoc.total_erase List.length f.socketMap k l hk

/-- What the task has done to the map and not yet added to the counter. -/
def Task.owed : Task → Int
  | .add _ .send | .add _ .count => 1
  | .remove _ .decrement => -1
  | .deRegister _ _ (.close l) => -(l.length : Int)
  | .deRegister _ _ (.closeStore _ l) | .deRegister _ _ (.closeCount _ l) =>
      -((l.length : Int) + 1)
  | _ => 0

/-- De-registration counts what it takes out: its list has as many sockets as it takes from the
map, and it finds none of them active.  `terminate_all` drops empty routes only. -/
def countsWhatItTakes (dir : SocketId → RouterSocket) (p : FarmPool) : Label → Bool
  | .task i c =>
      match p.tasks[i]?, c with
      | some (.deRegister k connectorId (.retain l)), _ =>
          l.length == (socketsOfConnector dir p.shared k connectorId).length
      | some (.deRegister _ _ (.close (s :: _))), _ => !p.shared.isActive s
      | some (.terminateAll _ _), .visit k => (p.shared.socketsOf k).isEmpty
      | _, _ => true
  | .env _ => true

/-- The same condition, on the task that takes the step. -/
structure Pays (dir : SocketId → RouterSocket) (f : WebSocketFarm) (t : Task) (c : Choice) :
    Prop where
  fresh : ∀ s, t = .add s .insert → ¬Registered dir f s
  retains : ∀ k connectorId l, t = .deRegister k connectorId (.retain l) →
    l.length = (socketsOfConnector dir f k connectorId).length
  active : ∀ k connectorId s l, t = .deRegister k connectorId (.close (s :: l)) →
    f.isActive s = false
  terminated : ∀ force visited k, t = .terminateAll force visited → c = .visit k →
    f.socketsOf k = []
  cleaned : ∀ cutOff k, t = .cleanRoutes cutOff (.dropEntry k) → f.socketsOf k = []

private theorem entryCount_congr {f f' : WebSocketFarm} (h : f'.socketMap = f.socketMap) :
    f'.entryCount = f.entryCount := by
  rw [WebSocketFarm.entryCount, WebSocketFarm.entryCount, h]

@[simp] theorem entryCount_addIdle (f : WebSocketFarm) (n : Int) :
    (f.addIdle n).entryCount = f.entryCount := rfl

@[simp] theorem entryCount_recordRemoval (f : WebSocketFarm) (k : Route) (n : Int) :
    (f.recordRemoval k n).entryCount = f.entryCount := rfl

@[simp] theorem entryCount_setRemoved (f : WebSocketFarm) (s : SocketId) :
    (f.setRemoved s).entryCount = f.entryCount := rfl

@[simp] theorem entryCount_send (f : WebSocketFarm) (c : ChanId) (s : SocketId) :
    (f.send c s).entryCount = f.entryCount := rfl

private theorem openChan_idleCount (f : WebSocketFarm) (k : Route) :
    (f.openChan k).1.idleCount = f.idleCount := by
  unfold WebSocketFarm.openChan
  cases f.routeToSocketChan.lookup k <;> rfl

/-- A step adds to the counter what it pays, and owes the rest. -/
theorem Transition.pays {f f' : WebSocketFarm} {t : Task} {c : Choice} {ts : List Task}
    (h : Transition dir f t c f' ts) (hp : Pays dir f t c) :
    ∃ n, f'.idleCount = f.idleCount + BitVec.ofInt 32 n ∧
      (f'.entryCount : Int) - Pool.total Task.owed ts = f.entryCount - t.owed + n := by
  have hfree : f'.idleCount = f.idleCount → (f'.entryCount : Int) - Pool.total Task.owed ts =
      f.entryCount - t.owed → ∃ n, f'.idleCount = f.idleCount + BitVec.ofInt 32 n ∧
      (f'.entryCount : Int) - Pool.total Task.owed ts = f.entryCount - t.owed + n :=
    fun hidle hcount => ⟨0, by simp [hidle], by rw [hcount]; omega⟩
  cases h with
  | acquisition ht hf hts =>
      refine hfree hf.idleCount ?_
      have howed : ∀ u : Task, u.Follows f → u.owed = 0 := by
        rintro u (hu | ⟨s, rfl, -⟩)
        · cases u <;> first | rfl | simp [Task.isAcquisition] at hu
        · rfl
      rw [entryCount_congr hf.socketMap, howed t (.inl ht), Pool.total,
        List.map_congr_left fun u hu => howed u (hts u hu)]
      simp
  | addInsert s c _ =>
      refine hfree rfl ?_
      have hcount := entryCount_setSockets f (dir s).route ((f.socketsOf (dir s).route).insert s)
      rw [List.length_insert_of_not_mem (hp.fresh s rfl)] at hcount
      simp only [Pool.total_cons, Pool.total_nil, Task.owed]
      omega
  | addSend s c =>
      obtain ⟨hmap, -⟩ := openChan_frame f (dir s).route
      refine hfree (openChan_idleCount f _) ?_
      have hcount : (f.openChan (dir s).route).1.entryCount = f.entryCount :=
        entryCount_congr hmap
      simp [Task.owed, hcount]
  | addCount s c => exact ⟨1, rfl, by rw [entryCount_addIdle]; simp [Task.owed]⟩
  | removeFound s c hreg =>
      refine hfree rfl ?_
      have hcount := entryCount_setSockets f (dir s).route ((f.socketsOf (dir s).route).erase s)
      have hlen := List.length_erase_add_one hreg
      simp only [Pool.total_cons, Pool.total_nil, Task.owed]
      omega
  | decrement s c => exact ⟨-1, rfl, by rw [entryCount_addIdle]; simp [Task.owed]⟩
  | retainNone k connectorId l time hk =>
      have hlen := hp.retains k connectorId l rfl
      simp only [socketsOfConnector, WebSocketFarm.socketsOf, hk, Option.getD_none, List.filter_nil,
        List.length_nil] at hlen
      exact hfree rfl (by simp [Task.owed, hlen])
  | retain k connectorId l sockets time hk =>
      refine hfree rfl ?_
      have hcount := entryCount_setSockets (f.recordRemoval k time) k
        (sockets.filter fun s => !((dir s).connectorId == connectorId))
      have hsockets : f.socketsOf k = sockets := by simp [WebSocketFarm.socketsOf, hk]
      have hlen := hp.retains k connectorId l rfl
      have hsplit := List.length_eq_length_filter_add (l := sockets)
        (fun s => (dir s).connectorId == connectorId)
      have hrecorded : (f.recordRemoval k time).socketsOf k = sockets := hsockets
      rw [socketsOfConnector, hsockets] at hlen
      rw [hrecorded, entryCount_recordRemoval] at hcount
      simp only [Pool.total_cons, Pool.total_nil, Task.owed]
      omega
  | closeActive k connectorId s rest c hactive =>
      simp [hp.active k connectorId s rest rfl] at hactive
  | closeIdle k connectorId s rest c _ => exact hfree rfl (by simp [Task.owed])
  | closeStore k connectorId s rest c =>
      exact hfree rfl (by simp [Task.owed])
  | closeCount k connectorId s rest c =>
      refine ⟨-1, rfl, ?_⟩
      rw [entryCount_addIdle]
      simp only [Pool.total_cons, Pool.total_nil, Task.owed]
      omega
  | cleanEntry cutOff k c =>
      refine hfree rfl ?_
      have hcount := entryCount_erase f { f with
        socketMap := f.socketMap.erase k
        mapLocked := Function.update f.mapLocked k false } k rfl
      rw [hp.cleaned cutOff k rfl] at hcount
      simp only [Pool.total_cons, Pool.total_nil, Task.owed]
      simp only [List.length_nil] at hcount
      omega
  | terminate force visited k =>
      refine hfree rfl ?_
      have hcount := entryCount_erase f { f with socketMap := f.socketMap.erase k } k rfl
      rw [hp.terminated force visited k rfl rfl] at hcount
      simp only [Pool.total_cons, Pool.total_nil, Task.owed]
      simp only [List.length_nil] at hcount
      omega
  | cleanStay cutOff c ts hts => rcases hts with rfl | rfl <;> exact hfree rfl (by simp [Task.owed])
  | cleanLock cutOff k _ | cleanChan cutOff k c => exact hfree rfl (by simp [Task.owed]; rfl)
  | _ => exact hfree rfl (by simp [Task.owed])

/-- The invariant: the counter and what the tasks owe make up the entries, and a socket whose add
task has not stored it yet is not registered. -/
structure Counted (dir : SocketId → RouterSocket) (f : WebSocketFarm) (ts : List Task) : Prop where
  conserved : Conserved dir f ts
  idle : f.idleCount = BitVec.ofInt 32 ((f.entryCount : Int) - Pool.total Task.owed ts)
  fresh : ∀ s, Task.add s .insert ∈ ts → ¬Registered dir f s

theorem Counted.fresh_step {f f' : WebSocketFarm} {t : Task} {ts l r : List Task}
    (hp : Counted dir f (l ++ t :: r)) (heff : Effect dir f f' t ts) (s : SocketId)
    (hs : Task.add s .insert ∈ l ++ ts ++ r) : ¬Registered dir f' s := by
  intro hreg
  have hno := heff.noInsert s
  simp only [List.mem_append] at hs
  have hrest : Task.add s .insert ∈ l ∨ Task.add s .insert ∈ r := by tauto
  rcases heff.registered s hreg with hold | rfl
  · exact hp.fresh s (by simp only [List.mem_append, List.mem_cons]; tauto) hold
  · -- A second add task of the same socket would be a second place for it.
    have honce := hp.conserved.once 0 s
    have hother : 1 ≤ Pool.total (Task.sending s) l + Pool.total (Task.sending s) r := by
      have hone : Task.sending s (.add s .insert) = 1 := by simp [Task.sending]
      rcases hrest with hl | hr
      · have hle := Pool.le_total_of_mem (Task.sending s) hl
        omega
      · have hle := Pool.le_total_of_mem (Task.sending s) hr
        omega
    simp only [Pool.total_append, Pool.total_cons, Task.sending, if_pos] at honce
    omega

theorem Counted.task {p : FarmPool} {i : Nat} {c : Choice} {l r ts : List Task} {t : Task}
    {f : WebSocketFarm} (hp : Counted dir p.shared p.tasks)
    (hok : countsWhatItTakes dir p (.task i c) = true) (hi : p.tasks[i]? = some t)
    (htasks : p.tasks = l ++ t :: r) (hexec : exec dir p.shared t c = some (f, ts)) :
    Counted dir f (l ++ ts ++ r) := by
  rw [htasks] at hp
  have hcons := hp.conserved
  have heff := hcons.effect hexec
  have hpays : Pays dir p.shared t c := by
    refine ⟨?_, ?_, ?_, ?_, ?_⟩
    · rintro s rfl
      exact hp.fresh s (by simp)
    · rintro k connectorId sockets rfl
      simpa [countsWhatItTakes, hi] using hok
    · rintro k connectorId s rest rfl
      simpa [countsWhatItTakes, hi] using hok
    · rintro force visited k rfl rfl
      simpa [countsWhatItTakes, hi] using hok
    · rintro cutOff k rfl
      exact hcons.empty k (hcons.locked (by simp [Task.cleaning]))
  obtain ⟨n, hidle, hcount⟩ := (exec_transition hexec).pays hpays
  refine ⟨hcons.task heff, ?_, hp.fresh_step heff⟩
  rw [hidle, hp.idle, ← BitVec.ofInt_add]
  congr 1
  simp only [Pool.total_append, Pool.total_cons]
  omega

theorem Counted.env {p : FarmPool} {e : Env} (hp : Counted dir p.shared p.tasks)
    (hen : e.enabled dir p = true) : Counted dir (e.apply p.shared) (p.tasks ++ e.spawned) := by
  obtain ⟨-, -, -, -, hmap, -⟩ := Env.apply_frame p.shared e
  refine ⟨hp.conserved.env_step hen, ?_, fun s hs hreg => ?_⟩
  · have hidle : (e.apply p.shared).idleCount = p.shared.idleCount := by
      cases e with
      | enableDarkMode host =>
          simp only [Env.apply]
          split <;> rfl
      | _ => rfl
    have howed : Pool.total Task.owed e.spawned = 0 := by
      cases e <;> simp [Env.spawned, Task.owed]
    rw [hidle, hp.idle, entryCount_congr hmap, Pool.total_append, howed, add_zero]
  · rw [registered_congr hmap] at hreg
    rcases List.mem_append.mp hs with hs | hs
    · exact hp.fresh s hs hreg
    · cases e <;> simp [Env.spawned] at hs
      subst hs
      simp [Env.enabled, hp.conserved.registeredKnown s hreg] at hen

theorem counted_of_reachable {p : FarmPool}
    (h : (machine dir).Reachable (fun p a => countsWhatItTakes dir p a = true) p) :
    Counted dir p.shared p.tasks := by
  refine h.invariant (P := fun p => Counted dir p.shared p.tasks) ?_ ?_
  · rintro p rfl
    exact ⟨conserved_new, rfl, by simp⟩
  · intro p a q hp hok hstep
    rcases step_cases dir hstep with
      ⟨i, c, l, t, r, f, ts, rfl, hi, htasks, hexec, rfl⟩ | ⟨e, rfl, hen, rfl⟩
    · exact hp.task hok hi htasks hexec
    · exact hp.env hen

/-- In the runs in which de-registration counts what it takes out and `terminate_all` drops empty
routes only, `idle_count` is the number of registered sockets in every state with no background
task pending, as long as that number fits an `i32`. -/
theorem idleCount_exact (dir : SocketId → RouterSocket) (p : FarmPool)
    (h : (machine dir).Reachable (fun p a => countsWhatItTakes dir p a = true) p)
    (hidle : ∀ t ∈ p.tasks, t.isAcquisition = true) (hsize : p.shared.entryCount < 2 ^ 31) :
    p.shared.idleCount.toInt = p.shared.entryCount := by
  have hcount := (counted_of_reachable h).idle
  have howed : Pool.total Task.owed p.tasks = 0 := by
    have hzero : ∀ t ∈ p.tasks, t.owed = 0 := by
      intro t ht
      have hacq := hidle t ht
      cases t <;> first | rfl | simp [Task.isAcquisition] at hacq
    rw [Pool.total, List.map_congr_left hzero]
    simp
  rw [hcount, howed, BitVec.toInt_ofInt]
  rw [Int.bmod_eq_of_le] <;> omega

/-- Two sockets added, one of them removed. -/
def removedState : FarmPool :=
  (machine ordersDir).run (fun p a => countsWhatItTakes ordersDir p a = true) ⟨.new, []⟩
    [.env (.add 0), .env (.add 1), .task 0 .go, .task 1 .go, .task 0 .go, .task 1 .go, .task 0 .go,
     .task 0 .go, .env (.remove 0), .task 0 (.now 0), .task 0 .go, .task 0 .go, .task 0 .go]

theorem idleCount_exact_removedState :
    removedState.shared.entryCount = 1 ∧
      removedState.shared.idleCount.toInt = removedState.shared.entryCount :=
  ⟨by decide +kernel, idleCount_exact ordersDir removedState (Machine.reachable_run _ _ rfl _)
    (by decide +kernel) (by decide +kernel)⟩

/-- The V3 socket is registered. -/
def addRun : List Label := [.env (.add 1), .task 0 .go, .task 0 .go, .task 0 .go]

/-- De-registered while active; the removal that comes with its close finds nothing to count. -/
def activeDriftState : FarmPool :=
  (machine ordersDir).run Machine.anyAction ⟨.new, []⟩
    (addRun ++ [.env (.setActive 1 true), .env (.deRegister "orders" "connector"), .task 0 .go,
      .task 0 (.now 0), .task 0 .go, .task 0 .go, .env (.setActive 1 false), .env (.remove 1),
      .task 0 (.now 1), .task 0 .go])

/-- Two de-registrations of the connector have collected the same idle socket. -/
def twiceDriftState : FarmPool :=
  (machine ordersDir).run Machine.anyAction ⟨.new, []⟩
    (addRun ++ [.env (.deRegister "orders" "connector"), .env (.deRegister "orders" "connector"),
      .task 0 .go, .task 1 .go, .task 0 (.now 0), .task 1 (.now 0), .task 0 .go, .task 1 .go,
      .task 0 .go, .task 1 .go, .task 0 .go, .task 1 .go, .task 0 .go, .task 0 .go])

/-- `terminate_all` has emptied the map. -/
def terminateDriftState : FarmPool :=
  (machine ordersDir).run Machine.anyAction ⟨.new, []⟩
    (addRun ++ [.env (.terminateAll false), .task 0 (.visit "orders"), .task 0 .stop])

/-- With no task pending and no socket registered, the counter stands at one, at minus one and at
one. -/
theorem idleCount_drifts :
    (activeDriftState.tasks = [] ∧ activeDriftState.shared.entryCount = 0 ∧
      activeDriftState.shared.idleCount.toInt = 1) ∧
    (twiceDriftState.tasks = [] ∧ twiceDriftState.shared.entryCount = 0 ∧
      twiceDriftState.shared.idleCount.toInt = -1) ∧
    (terminateDriftState.tasks = [] ∧ terminateDriftState.shared.entryCount = 0 ∧
      terminateDriftState.shared.idleCount.toInt = 1) := by
  decide +kernel

end CrankerRouter.Farm
