import CrankerRouter.Farm.Acquire

/-!
# Transitions of the bookkeeping tasks

The socket map, the idle counter and the removal flags are written by five background tasks.
`Transition` lists their steps one by one and treats the steps of acquisitions as one case:
they write none of the three, and spawn removals only for sockets that are marked removed.
-/

namespace CrankerRouter.Farm

open Lib

/-- The steps of acquisitions write channels and history only. -/
structure SameRegistry (f f' : WebSocketFarm) : Prop where
  routeToSocketChan : f'.routeToSocketChan = f.routeToSocketChan
  chanCount : f'.chanCount = f.chanCount
  socketMap : f'.socketMap = f.socketMap
  mapLocked : f'.mapLocked = f.mapLocked
  isRemoved : f'.isRemoved = f.isRemoved
  isActive : f'.isActive = f.isActive
  alive : f'.alive = f.alive
  added : f'.added = f.added
  idleCount : f'.idleCount = f.idleCount

theorem SameRegistry.refl (f : WebSocketFarm) : SameRegistry f f :=
  ⟨rfl, rfl, rfl, rfl, rfl, rfl, rfl, rfl, rfl⟩

theorem SameRegistry.send (f : WebSocketFarm) (c : ChanId) (s : SocketId) :
    SameRegistry f (f.send c s) :=
  ⟨rfl, rfl, rfl, rfl, rfl, rfl, rfl, rfl, rfl⟩

/-- Tasks of an acquisition. -/
def Task.isAcquisition : Task → Bool
  | .resolve _ | .acquire _ _ | .putBack _ _ => true
  | _ => false

/-- What a step of an acquisition may leave in the pool: the rest of the acquisition, and
removals of sockets that are marked removed. -/
def Task.Follows (f : WebSocketFarm) (u : Task) : Prop :=
  u.isAcquisition = true ∨ ∃ s, u = .remove s .recordTime ∧ f.isRemoved s = true

/-- What one step of a task does, case by case. -/
inductive Transition (dir : SocketId → RouterSocket) (f : WebSocketFarm) :
    Task → Choice → WebSocketFarm → List Task → Prop
  | acquisition {t : Task} {c : Choice} {f' : WebSocketFarm} {ts : List Task}
      (ht : t.isAcquisition = true) (hf : SameRegistry f f') (hts : ∀ u ∈ ts, u.Follows f) :
      Transition dir f t c f' ts
  | addInsert (s : SocketId) (c : Choice) (hlocked : f.mapLocked (dir s).route = false) :
      Transition dir f (.add s .insert) c
        (f.setSockets (dir s).route ((f.socketsOf (dir s).route).insert s)) [.add s .send]
  | addSend (s : SocketId) (c : Choice) :
      Transition dir f (.add s .send) c
        ((f.openChan (dir s).route).1.send (f.openChan (dir s).route).2 s) [.add s .count]
  | addCount (s : SocketId) (c : Choice) :
      Transition dir f (.add s .count) c (f.addIdle 1) []
  | recordTime (s : SocketId) (time : Int) :
      Transition dir f (.remove s .recordTime) (.now time) (f.recordRemoval (dir s).route time)
        [.remove s .lookup]
  | removeFound (s : SocketId) (c : Choice) (hreg : Registered dir f s) :
      Transition dir f (.remove s .lookup) c
        (f.setSockets (dir s).route ((f.socketsOf (dir s).route).erase s)) [.remove s .decrement]
  | removeMissing (s : SocketId) (c : Choice) (hreg : ¬Registered dir f s) :
      Transition dir f (.remove s .lookup) c f []
  | decrement (s : SocketId) (c : Choice) :
      Transition dir f (.remove s .decrement) c (f.addIdle (-1)) [.remove s .store]
  | store (s : SocketId) (c : Choice) :
      Transition dir f (.remove s .store) c (f.setRemoved s) []
  | collect (k : Route) (connectorId : String) (c : Choice) :
      Transition dir f (.deRegister k connectorId .collect) c f
        [.deRegister k connectorId (.retain (socketsOfConnector dir f k connectorId))]
  | retainNone (k : Route) (connectorId : String) (l : List SocketId) (time : Int)
      (hk : f.socketMap.lookup k = none) :
      Transition dir f (.deRegister k connectorId (.retain l)) (.now time) f
        [.deRegister k connectorId (.close l)]
  | retain (k : Route) (connectorId : String) (l sockets : List SocketId) (time : Int)
      (hk : f.socketMap.lookup k = some sockets) :
      Transition dir f (.deRegister k connectorId (.retain l)) (.now time)
        ((f.recordRemoval k time).setSockets k
          (sockets.filter fun s => !((dir s).connectorId == connectorId)))
        [.deRegister k connectorId (.close l)]
  | closeEnd (k : Route) (connectorId : String) (c : Choice) :
      Transition dir f (.deRegister k connectorId (.close [])) c f []
  | closeActive (k : Route) (connectorId : String) (s : SocketId) (rest : List SocketId)
      (c : Choice) (hactive : f.isActive s = true) :
      Transition dir f (.deRegister k connectorId (.close (s :: rest))) c f
        [.deRegister k connectorId (.close rest)]
  | closeIdle (k : Route) (connectorId : String) (s : SocketId) (rest : List SocketId)
      (c : Choice) (hidle : f.isActive s = false) :
      Transition dir f (.deRegister k connectorId (.close (s :: rest))) c f
        [.deRegister k connectorId (.closeStore s rest)]
  | closeStore (k : Route) (connectorId : String) (s : SocketId) (rest : List SocketId)
      (c : Choice) :
      Transition dir f (.deRegister k connectorId (.closeStore s rest)) c (f.setRemoved s)
        [.deRegister k connectorId (.closeCount s rest)]
  | closeCount (k : Route) (connectorId : String) (s : SocketId) (rest : List SocketId)
      (c : Choice) :
      Transition dir f (.deRegister k connectorId (.closeCount s rest)) c (f.addIdle (-1))
        [.deRegister k connectorId (.close rest)]
  | cleanStay (cutOff : Int) (c : Choice) (ts : List Task)
      (hts : ts = [] ∨ ts = [.cleanRoutes cutOff .scan]) :
      Transition dir f (.cleanRoutes cutOff .scan) c f ts
  | cleanLock (cutOff : Int) (k : Route) (hk : f.socketMap.lookup k = some [])
      (hlocked : f.mapLocked k = false) :
      Transition dir f (.cleanRoutes cutOff .scan) (.visit k)
        { f with mapLocked := Function.update f.mapLocked k true }
        [.cleanRoutes cutOff (.dropChan k)]
  | cleanChan (cutOff : Int) (k : Route) (c : Choice) :
      Transition dir f (.cleanRoutes cutOff (.dropChan k)) c
        { f with routeToSocketChan := f.routeToSocketChan.erase k }
        [.cleanRoutes cutOff (.dropEntry k)]
  | cleanEntry (cutOff : Int) (k : Route) (c : Choice) :
      Transition dir f (.cleanRoutes cutOff (.dropEntry k)) c
        { f with
          socketMap := f.socketMap.erase k
          mapLocked := Function.update f.mapLocked k false }
        [.cleanRoutes cutOff .scan]
  | terminate (force : Bool) (visited : List Route) (k : Route) :
      Transition dir f (.terminateAll force visited) (.visit k)
        { f with socketMap := f.socketMap.erase k } [.terminateAll force (k :: visited)]
  | terminateEnd (force : Bool) (visited : List Route)
      (hall : ∀ k, f.socketMap.lookup k ≠ none → k ∈ visited) :
      Transition dir f (.terminateAll force visited) .stop f []

variable {dir : SocketId → RouterSocket} {f f' : WebSocketFarm} {t : Task} {q : Acquisition}
  {c : Choice} {ts : List Task}

theorem AcquireMove.frame {pc : AcquirePc} (h : AcquireMove dir f q pc c f' ts) :
    SameRegistry f f' ∧ ∀ u ∈ ts, u.Follows f := by
  cases h <;> exact ⟨⟨rfl, rfl, rfl, rfl, rfl, rfl, rfl, rfl, rfl⟩,
    by simp [Task.Follows, Task.isAcquisition, *]⟩

private theorem execAdd_transition {s : SocketId} {pc : AddPc}
    (h : execAdd dir f s pc = some (f', ts)) :
    Transition dir f (.add s pc) c f' ts := by
  cases pc <;> simp only [execAdd] at h
  · split_ifs at h with hlocked
    simp only [Option.some.injEq, Prod.mk.injEq] at h
    obtain ⟨rfl, rfl⟩ := h
    exact .addInsert s c (by simpa using hlocked)
  · simp only [Option.some.injEq, Prod.mk.injEq] at h
    obtain ⟨rfl, rfl⟩ := h
    exact .addSend s c
  · simp only [Option.some.injEq, Prod.mk.injEq] at h
    obtain ⟨rfl, rfl⟩ := h
    exact .addCount s c

private theorem execRemove_transition {s : SocketId} {pc : RemovePc}
    (h : execRemove dir f s pc c = some (f', ts)) :
    Transition dir f (.remove s pc) c f' ts := by
  cases pc with
  | recordTime =>
      cases c <;> simp only [execRemove, reduceCtorEq, Option.some.injEq, Prod.mk.injEq] at h
      obtain ⟨rfl, rfl⟩ := h
      exact .recordTime s _
  | lookup =>
      simp only [execRemove] at h
      split_ifs at h with _ hreg <;> simp only [Option.some.injEq, Prod.mk.injEq] at h <;>
        obtain ⟨rfl, rfl⟩ := h
      · exact .removeFound s c hreg
      · exact .removeMissing s c hreg
  | decrement =>
      simp only [execRemove, Option.some.injEq, Prod.mk.injEq] at h
      obtain ⟨rfl, rfl⟩ := h
      exact .decrement s c
  | store =>
      simp only [execRemove, Option.some.injEq, Prod.mk.injEq] at h
      obtain ⟨rfl, rfl⟩ := h
      exact .store s c

private theorem execDeRegister_transition {k : Route} {connectorId : String} {pc : DeRegisterPc}
    (h : execDeRegister dir f k connectorId pc c = some (f', ts)) :
    Transition dir f (.deRegister k connectorId pc) c f' ts := by
  cases pc with
  | collect =>
      simp only [execDeRegister] at h
      split_ifs at h
      simp only [Option.some.injEq, Prod.mk.injEq] at h
      obtain ⟨rfl, rfl⟩ := h
      exact .collect k connectorId c
  | retain l =>
      cases c <;> simp only [execDeRegister, reduceCtorEq] at h
      split_ifs at h
      cases hk : f.socketMap.lookup k <;>
        simp only [hk, Option.some.injEq, Prod.mk.injEq] at h <;> obtain ⟨rfl, rfl⟩ := h
      · exact .retainNone k connectorId l _ hk
      · exact .retain k connectorId l _ _ hk
  | close rest =>
      cases rest with
      | nil =>
          simp only [execDeRegister, Option.some.injEq, Prod.mk.injEq] at h
          obtain ⟨rfl, rfl⟩ := h
          exact .closeEnd k connectorId c
      | cons s rest =>
          simp only [execDeRegister] at h
          split_ifs at h with hactive <;> simp only [Option.some.injEq, Prod.mk.injEq] at h <;>
            obtain ⟨rfl, rfl⟩ := h
          · exact .closeActive k connectorId s rest c hactive
          · exact .closeIdle k connectorId s rest c (by simpa using hactive)
  | closeStore s rest =>
      simp only [execDeRegister, Option.some.injEq, Prod.mk.injEq] at h
      obtain ⟨rfl, rfl⟩ := h
      exact .closeStore k connectorId s rest c
  | closeCount s rest =>
      simp only [execDeRegister, Option.some.injEq, Prod.mk.injEq] at h
      obtain ⟨rfl, rfl⟩ := h
      exact .closeCount k connectorId s rest c

private theorem execClean_transition {cutOff : Int} {pc : CleanPc}
    (h : execClean f cutOff pc c = some (f', ts)) :
    Transition dir f (.cleanRoutes cutOff pc) c f' ts := by
  cases pc with
  | scan =>
      cases c <;> simp only [execClean, reduceCtorEq] at h
      case stop =>
        simp only [Option.some.injEq, Prod.mk.injEq] at h
        obtain ⟨rfl, rfl⟩ := h
        exact .cleanStay cutOff _ _ (.inl rfl)
      case visit k =>
        split_ifs at h with hlocked
        split at h
        · rename_i hk _
          split_ifs at h <;> simp only [Option.some.injEq, Prod.mk.injEq] at h <;>
            obtain ⟨rfl, rfl⟩ := h
          · exact .cleanLock cutOff k hk (by simpa using hlocked)
          · exact .cleanStay cutOff _ _ (.inr rfl)
        · simp only [Option.some.injEq, Prod.mk.injEq] at h
          obtain ⟨rfl, rfl⟩ := h
          exact .cleanStay cutOff _ _ (.inr rfl)
        · simp at h
  | dropChan k =>
      simp only [execClean, Option.some.injEq, Prod.mk.injEq] at h
      obtain ⟨rfl, rfl⟩ := h
      exact .cleanChan cutOff k c
  | dropEntry k =>
      simp only [execClean, Option.some.injEq, Prod.mk.injEq] at h
      obtain ⟨rfl, rfl⟩ := h
      exact .cleanEntry cutOff k c

private theorem execTerminateAll_transition {force : Bool} {visited : List Route}
    (h : execTerminateAll f force visited c = some (f', ts)) :
    Transition dir f (.terminateAll force visited) c f' ts := by
  cases c <;> simp only [execTerminateAll, reduceCtorEq] at h
  all_goals
    split_ifs at h with hall
    simp only [Option.some.injEq, Prod.mk.injEq] at h
    obtain ⟨rfl, rfl⟩ := h
  · exact .terminate force visited _
  · refine .terminateEnd force visited fun k hk => ?_
    have hmem : k ∈ f.socketMap := by
      rw [← AList.lookup_isSome]
      exact Option.isSome_iff_ne_none.mpr hk
    simpa using List.all_eq_true.mp hall k hmem

theorem exec_transition (h : exec dir f t c = some (f', ts)) : Transition dir f t c f' ts := by
  cases t with
  | add s pc => exact execAdd_transition h
  | remove s pc => exact execRemove_transition h
  | deRegister k connectorId pc => exact execDeRegister_transition h
  | cleanRoutes cutOff pc => exact execClean_transition h
  | terminateAll force visited => exact execTerminateAll_transition h
  | resolve config =>
      rcases execResolve_cases h with ⟨s, -, hr, rfl, rfl⟩ | ⟨k, -, -, rfl, rfl⟩ |
        ⟨k, ch, -, -, rfl, rfl⟩ <;>
        exact .acquisition rfl (.refl _) (by simp [Task.Follows, Task.isAcquisition, *])
  | acquire q pc =>
      obtain ⟨hsame, hts⟩ := (execAcquire_move h).frame
      exact .acquisition rfl hsame hts
  | putBack c' s =>
      simp only [exec, Option.some.injEq, Prod.mk.injEq] at h
      obtain ⟨rfl, rfl⟩ := h
      exact .acquisition rfl (.send f c' s) (by simp)

theorem openChan_frame (f : WebSocketFarm) (k : Route) :
    let g := (f.openChan k).1
    g.socketMap = f.socketMap ∧ g.mapLocked = f.mapLocked ∧ g.isRemoved = f.isRemoved ∧
      g.alive = f.alive ∧ g.added = f.added ∧ g.returned = f.returned := by
  simp only [WebSocketFarm.openChan]
  cases f.routeToSocketChan.lookup k <;> simp

private theorem addIdle_returned (f : WebSocketFarm) (n : Int) :
    (f.addIdle n).returned = f.returned := rfl

/-- The steps of the bookkeeping tasks stay among themselves and hand nothing out. -/
theorem Transition.of_not_acquisition (h : Transition dir f t c f' ts)
    (ht : t.isAcquisition = false) :
    f'.returned = f.returned ∧ (ts = [] ∨ ∃ u, ts = [u] ∧ u.isAcquisition = false) := by
  cases h with
  | acquisition ht' => simp [ht] at ht'
  | addSend s c => exact ⟨(openChan_frame f (dir s).route).2.2.2.2.2, .inr ⟨_, rfl, rfl⟩⟩
  | cleanStay cutOff c ts hts =>
      rcases hts with rfl | rfl
      · exact ⟨rfl, .inl rfl⟩
      · exact ⟨rfl, .inr ⟨_, rfl, rfl⟩⟩
  | addCount => exact ⟨addIdle_returned f _, .inl rfl⟩
  | decrement | closeCount => exact ⟨addIdle_returned f _, .inr ⟨_, rfl, rfl⟩⟩
  | removeMissing | store | closeEnd | terminateEnd => exact ⟨rfl, .inl rfl⟩
  | _ => exact ⟨rfl, .inr ⟨_, rfl, rfl⟩⟩

/-- The acquisitions that a step leaves: the one that took the step, or one that has just resolved
its route. -/
theorem exec_acquisitions {q' : Acquisition} {pc' : AcquirePc} (h : exec dir f t c = some (f', ts))
    (hmem : Task.acquire q' pc' ∈ ts) :
    (∃ pc, t = .acquire q' pc) ∨
      (t = .resolve q'.config ∧ c = .route q'.resolvedRoute ∧
        f.routeToSocketChan.lookup q'.resolvedRoute = some q'.chan) := by
  cases t with
  | acquire q pc =>
      obtain rfl := (execAcquire_move h).continues hmem
      exact .inl ⟨pc, rfl⟩
  | resolve config =>
      rcases execResolve_cases h with ⟨s, -, -, -, rfl⟩ | ⟨k, -, -, -, rfl⟩ |
        ⟨k, ch, rfl, hk, -, rfl⟩
      · simp at hmem
      · simp at hmem
      · obtain ⟨rfl, -⟩ : q' = ⟨config, k, ch⟩ ∧ pc' = .main := by simpa using hmem
        exact .inr ⟨rfl, rfl, hk⟩
  | putBack c' s =>
      simp only [exec, Option.some.injEq, Prod.mk.injEq] at h
      simp [← h.2] at hmem
  | _ =>
      rcases ((exec_transition h).of_not_acquisition rfl).2 with rfl | ⟨v, rfl, hv⟩
      · cases hmem
      · obtain rfl := List.mem_singleton.mp hmem
        cases hv

/-- The socket that an acquisition has chosen: it has passed the removal check and will be
handed out unless a later test sends it back. -/
def Task.picked : Task → Option SocketId
  | .acquire _ (.scan (.checkDark s _ _)) => some s
  | .acquire _ (.scan (.putBack s .handOut)) => some s
  | .acquire _ (.fallback (.flush _ pick)) => pick
  | _ => none

theorem isAcquisition_of_picked {s : SocketId} (h : t.picked = some s) :
    t.isAcquisition = true := by
  cases t <;> first | rfl | simp [Task.picked] at h

theorem AcquireMove.picked {pc : AcquirePc} (h : AcquireMove dir f q pc c f' ts) :
    (∀ u ∈ ts, ∀ s, u.picked = some s →
      Task.picked (.acquire q pc) = some s ∨ f.isRemoved s = false) ∧
    (f'.returned = f.returned ∨
      ∃ s, f'.returned = s :: f.returned ∧ Task.picked (.acquire q pc) = some s) := by
  cases h with
  | pickV1 | putBackPicked | flushV3 | flushV1 => exact ⟨by simp, .inr ⟨_, rfl, rfl⟩⟩
  | _ => exact ⟨by simp_all [Task.picked], .inl rfl⟩

/-- An acquisition chooses only a socket that it has seen unmarked, and hands out only the
socket it has chosen. -/
theorem exec_picked (h : exec dir f t c = some (f', ts)) :
    (∀ u ∈ ts, ∀ s, u.picked = some s → t.picked = some s ∨ f.isRemoved s = false) ∧
    (f'.returned = f.returned ∨
      ∃ s, f'.returned = s :: f.returned ∧ t.picked = some s) := by
  have hbooks : t.isAcquisition = false →
      (∀ u ∈ ts, ∀ s, u.picked = some s → t.picked = some s ∨ f.isRemoved s = false) ∧
      (f'.returned = f.returned ∨
        ∃ s, f'.returned = s :: f.returned ∧ t.picked = some s) := by
    intro ht
    obtain ⟨hret, hts⟩ := (exec_transition h).of_not_acquisition ht
    refine ⟨fun u hu s hs => ?_, .inl hret⟩
    rcases hts with rfl | ⟨v, rfl, hv⟩
    · simp at hu
    · obtain rfl : u = v := by simpa using hu
      simp [isAcquisition_of_picked hs] at hv
  cases t with
  | resolve config =>
      rcases execResolve_cases h with ⟨s, -, -, rfl, rfl⟩ | ⟨k, -, -, rfl, rfl⟩ |
        ⟨k, ch, -, -, rfl, rfl⟩ <;> exact ⟨by simp [Task.picked], .inl rfl⟩
  | acquire q pc => exact (execAcquire_move h).picked
  | putBack c' s =>
      simp only [exec, Option.some.injEq, Prod.mk.injEq] at h
      obtain ⟨rfl, rfl⟩ := h
      exact ⟨by simp, .inl rfl⟩
  | _ => exact hbooks rfl

end CrankerRouter.Farm
