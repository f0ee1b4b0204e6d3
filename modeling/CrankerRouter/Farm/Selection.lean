import CrankerRouter.Farm.Conservation

/-!
# Only registered sockets are selected

Selection reads weak references from a channel, registration lives in the socket map.  The two
agree as long as every task that takes a socket out of the map also marks it removed.
De-registration does not mark a socket it finds active, and `terminate_all` marks none.
-/

namespace CrankerRouter.Farm

open Lib

/-- Tasks that can run beside acquisitions without hiding a socket from them. -/
def Task.isQuiet (f : WebSocketFarm) : Task → Bool
  | .remove s _ => f.isRemoved s
  | t => t.isAcquisition

/-- The calls that change the registration run to completion, one at a time; acquisitions come
between them, in any number. -/
def oneAtATime (p : FarmPool) : Label → Prop
  | .task _ _ => True
  | .env (.acquire _) => p.tasks.all (Task.isQuiet p.shared) = true
  | .env (.setActive _ _) | .env (.dropLast _) => True
  | .env (.enableDarkMode _) | .env (.disableDarkMode _) => True
  | .env _ => p.tasks = []

instance (p : FarmPool) : (a : Label) → Decidable (oneAtATime p a)
  | .task _ _ | .env (.setActive _ _) | .env (.dropLast _) => .isTrue trivial
  | .env (.enableDarkMode _) | .env (.disableDarkMode _) => .isTrue trivial
  | .env (.acquire _) => inferInstanceAs (Decidable (_ = true))
  | .env (.add _) | .env (.remove _) | .env (.deRegister _ _) | .env (.cleanRoutes _)
  | .env (.terminateAll _) | .env (.storeRemoved _) => inferInstanceAs (Decidable (p.tasks = []))

/-- The socket cannot be returned any more: it is marked removed, or it is a V1 socket that some
request has got. -/
def OutOfUse (dir : SocketId → RouterSocket) (f : WebSocketFarm) (s : SocketId) : Prop :=
  f.isRemoved s = true ∨ ((dir s).crankerVersion = .v1 ∧ s ∈ f.returned)

instance (dir : SocketId → RouterSocket) (f : WebSocketFarm) (s : SocketId) :
    Decidable (OutOfUse dir f s) :=
  inferInstanceAs (Decidable (_ ∨ _))

/-- De-registration finds no socket active, and `terminate_all` drops no socket, that could still
be returned. -/
def leavesNothingInUse (dir : SocketId → RouterSocket) (p : FarmPool) : Label → Bool
  | .task i c =>
      match p.tasks[i]?, c with
      | some (.deRegister _ _ (.close (s :: _))), _ =>
          !p.shared.isActive s || decide (OutOfUse dir p.shared s)
      | some (.terminateAll _ _), .visit k =>
          (p.shared.socketsOf k).all fun s => decide (OutOfUse dir p.shared s)
      | _, _ => true
  | .env _ => true

variable {dir : SocketId → RouterSocket}

/-- The task is about to register the socket, or has taken it from the map and is about to mark
it removed. -/
def Task.settling (s : SocketId) : Task → Prop
  | .add t .insert => t = s
  | .remove t .decrement | .remove t .store => t = s
  | .deRegister _ _ (.close l) => s ∈ l
  | .deRegister _ _ (.closeStore t l) => s = t ∨ s ∈ l
  | .deRegister _ _ (.closeCount _ l) => s ∈ l
  | _ => False

theorem OutOfUse.mono {f f' : WebSocketFarm} {s : SocketId}
    (hremoved : f.isRemoved s = true → f'.isRemoved s = true)
    (hreturned : s ∈ f.returned → s ∈ f'.returned) (h : OutOfUse dir f s) : OutOfUse dir f' s := by
  rcases h with h | ⟨hv, h⟩
  · exact .inl (hremoved h)
  · exact .inr ⟨hv, hreturned h⟩

/-- A socket is registered, out of use, or in the hands of a task that will make it so. -/
def Settled (dir : SocketId → RouterSocket) (f : WebSocketFarm) (ts : List Task) (s : SocketId) :
    Prop :=
  Registered dir f s ∨ OutOfUse dir f s ∨ ∃ t ∈ ts, t.settling s

/-- What the steps of a task may rely on when they take sockets from the map. -/
structure Settles (dir : SocketId → RouterSocket) (f : WebSocketFarm) (t : Task) (c : Choice) :
    Prop where
  collected : ∀ k connectorId l, t = .deRegister k connectorId (.retain l) →
    ∀ s ∈ f.socketsOf k, (dir s).connectorId = connectorId → s ∈ l
  active : ∀ k connectorId s l, t = .deRegister k connectorId (.close (s :: l)) →
    f.isActive s = true → OutOfUse dir f s
  terminated : ∀ force visited k, t = .terminateAll force visited → c = .visit k →
    ∀ s ∈ f.socketsOf k, OutOfUse dir f s
  cleaned : ∀ cutOff k, t = .cleanRoutes cutOff (.dropEntry k) → f.socketsOf k = []

private theorem registered_setSockets_of_ne {f : WebSocketFarm} {k : Route} {l : List SocketId}
    {s : SocketId} (hk : (dir s).route ≠ k) (h : Registered dir f s) :
    Registered dir (f.setSockets k l) s := by
  rw [Registered, socketsOf_setSockets, if_neg hk]
  exact h

theorem Transition.settled {f f' : WebSocketFarm} {t : Task} {c : Choice} {ts : List Task}
    (h : Transition dir f t c f' ts) (hs : Settles dir f t c) (heff : Effect dir f f' t ts)
    (s : SocketId) (hset : Settled dir f [t] s) : Settled dir f' ts s := by
  have hout : OutOfUse dir f s → Settled dir f' ts s := fun hu =>
    .inr (.inl (hu.mono (heff.removed s) heff.returned_mono))
  have hcases : Registered dir f s ∨ OutOfUse dir f s ∨ t.settling s := by
    simpa [Settled] using hset
  rcases hcases with hreg | hu | hpend
  · -- The socket is registered: only four steps can take it out.
    cases h with
    | acquisition _ hf _ => exact .inl ((registered_congr hf.socketMap s).mpr hreg)
    | addInsert u c _ =>
        by_cases hk : (dir s).route = (dir u).route
        · refine .inl ?_
          rw [Registered, socketsOf_setSockets, if_pos hk]
          rw [Registered, hk] at hreg
          exact List.mem_insert_of_mem hreg
        · exact .inl (registered_setSockets_of_ne hk hreg)
    | addSend u c =>
        exact .inl ((registered_congr (openChan_frame f (dir u).route).1 s).mpr hreg)
    | removeFound u c _ =>
        by_cases hk : (dir s).route = (dir u).route
        · by_cases hu : s = u
          · exact .inr (.inr ⟨_, List.mem_singleton_self _, hu.symm⟩)
          · refine .inl ?_
            rw [Registered, socketsOf_setSockets, if_pos hk]
            rw [Registered, hk] at hreg
            exact (List.mem_erase_of_ne hu).mpr hreg
        · exact .inl (registered_setSockets_of_ne hk hreg)
    | retain k connectorId l sockets time hk =>
        by_cases hroute : (dir s).route = k
        · subst hroute
          by_cases hconn : (dir s).connectorId = connectorId
          · have hl := hs.collected _ connectorId l rfl s hreg hconn
            exact .inr (.inr ⟨_, List.mem_singleton_self _, hl⟩)
          · refine .inl ?_
            have hmem : s ∈ sockets := by
              simpa [Registered, WebSocketFarm.socketsOf, hk] using hreg
            rw [Registered, socketsOf_setSockets, if_pos rfl]
            exact List.mem_filter.mpr ⟨hmem, by simpa using hconn⟩
        · exact .inl (registered_setSockets_of_ne hroute hreg)
    | cleanEntry cutOff k c =>
        by_cases hk : (dir s).route = k
        · rw [Registered, hk, hs.cleaned cutOff k rfl] at hreg
          simp at hreg
        · refine .inl ?_
          rw [Registered, socketsOf_erase rfl, if_neg hk]
          exact hreg
    | terminate force visited k =>
        by_cases hk : (dir s).route = k
        · exact hout (hs.terminated force visited k rfl rfl s (hk ▸ hreg))
        · refine .inl ?_
          rw [Registered, socketsOf_erase rfl, if_neg hk]
          exact hreg
    | cleanLock cutOff k _ | cleanChan cutOff k c => exact .inl hreg
    | _ => exact .inl (by simpa using hreg)
  · exact hout hu
  · -- The task itself has the socket in hand.
    cases h with
    | addInsert u c _ =>
        obtain rfl : u = s := hpend
        refine .inl ?_
        rw [Registered, socketsOf_setSockets, if_pos rfl]
        exact List.mem_insert_self
    | decrement u c => exact .inr (.inr ⟨_, List.mem_singleton_self _, hpend⟩)
    | store u c =>
        obtain rfl : u = s := hpend
        exact .inr (.inl (.inl (by simp [WebSocketFarm.setRemoved])))
    | closeActive k connectorId u rest c hactive =>
        rcases List.mem_cons.mp hpend with rfl | hrest
        · exact hout (hs.active k connectorId s rest rfl hactive)
        · exact .inr (.inr ⟨_, List.mem_singleton_self _, hrest⟩)
    | closeIdle k connectorId u rest c _ =>
        exact .inr (.inr ⟨_, List.mem_singleton_self _, List.mem_cons.mp hpend⟩)
    | closeStore k connectorId u rest c =>
        rcases hpend with rfl | hrest
        · exact .inr (.inl (.inl (by simp [WebSocketFarm.setRemoved])))
        · exact .inr (.inr ⟨_, List.mem_singleton_self _, hrest⟩)
    | closeCount k connectorId u rest c =>
        exact .inr (.inr ⟨_, List.mem_singleton_self _, hpend⟩)
    | acquisition ht _ _ =>
        cases t with
        | resolve | acquire | putBack => exact hpend.elim
        | _ => simp [Task.isAcquisition] at ht
    | closeEnd k connectorId c => simp [Task.settling] at hpend
    | _ => exact hpend.elim

theorem Settled.task {f f' : WebSocketFarm} {t : Task} {c : Choice} {ts l r : List Task}
    {s : SocketId} (hold : Settled dir f (l ++ t :: r) s) (htrans : Transition dir f t c f' ts)
    (hsettles : Settles dir f t c) (heff : Effect dir f f' t ts) :
    Settled dir f' (l ++ ts ++ r) s := by
  have hstep : Settled dir f [t] s → Settled dir f' (l ++ ts ++ r) s := by
    intro hset
    rcases htrans.settled hsettles heff s hset with hreg | hout | ⟨u, hu, hset⟩
    · exact .inl hreg
    · exact .inr (.inl hout)
    · exact .inr (.inr ⟨u, by simp [hu], hset⟩)
  rcases hold with hreg | hout | ⟨u, hu, hset⟩
  · exact hstep (.inl hreg)
  · exact hstep (.inr (.inl hout))
  · simp only [List.mem_append, List.mem_cons] at hu
    rcases hu with hu | rfl | hu
    · exact .inr (.inr ⟨u, by simp [hu], hset⟩)
    · exact hstep (.inr (.inr ⟨u, by simp, hset⟩))
    · exact .inr (.inr ⟨u, by simp [hu], hset⟩)

theorem settled_env {f : WebSocketFarm} {ts : List Task} {e : Env}
    (hold : ∀ s ∈ f.added, Settled dir f ts s) (s : SocketId) (hs : s ∈ (e.apply f).added) :
    Settled dir (e.apply f) (ts ++ e.spawned) s := by
  obtain ⟨-, hreturned, -, -, hmap, -⟩ := Env.apply_frame f e
  have hkept : s ∈ f.added → Settled dir (e.apply f) (ts ++ e.spawned) s := by
    intro hmem
    rcases hold s hmem with hreg | hout | ⟨t, ht, hset⟩
    · exact .inl ((registered_congr hmap s).mpr hreg)
    · exact .inr (.inl (hout.mono (Env.apply_isRemoved e) (hreturned.symm ▸ id)))
    · exact .inr (.inr ⟨t, by simp [ht], hset⟩)
  rcases Env.apply_added f e with ⟨u, rfl, hadd⟩ | ⟨-, hadd⟩
  · rw [hadd, List.mem_cons] at hs
    rcases hs with rfl | hs
    · exact .inr (.inr ⟨.add s .insert, by simp [Env.spawned], rfl⟩)
    · exact hkept hs
  · exact hkept (hadd ▸ hs)

/-- What a task knows of the farm as long as no other task changes the registration. -/
def Task.Knows (dir : SocketId → RouterSocket) (f : WebSocketFarm) : Task → Prop
  | .deRegister k connectorId (.retain l) =>
      ∀ s ∈ f.socketsOf k, (dir s).connectorId = connectorId → s ∈ l
  | .deRegister k connectorId (.close _) | .deRegister k connectorId (.closeStore _ _)
  | .deRegister k connectorId (.closeCount _ _) =>
      ∀ s ∈ f.socketsOf k, (dir s).connectorId ≠ connectorId
  | .terminateAll _ visited => ∀ k ∈ visited, f.socketsOf k = []
  | t => ∀ s, t.picked = some s → f.isRemoved s = false

/-- The invariant of the runs in which the calls run one at a time. -/
structure Orderly (dir : SocketId → RouterSocket) (f : WebSocketFarm) (ts : List Task) :
    Prop where
  shape : (∃ t, ts = [t] ∧ t.isAcquisition = false) ∨ ∀ t ∈ ts, t.isQuiet f = true
  settled : ∀ s ∈ f.added, Settled dir f ts s
  knows : ∀ t ∈ ts, t.Knows dir f

private theorem orderly_new : Orderly dir .new [] :=
  ⟨.inr (by simp), by simp [WebSocketFarm.new], by simp⟩

private theorem Transition.knows {f f' : WebSocketFarm} {t : Task} {c : Choice} {ts : List Task}
    (h : Transition dir f t c f' ts) (ht : t.isAcquisition = false) (hk : t.Knows dir f) :
    ∀ u ∈ ts, u.Knows dir f' := by
  cases h with
  | acquisition ht' => simp [ht] at ht'
  | collect k connectorId c =>
      simp only [List.mem_singleton, forall_eq]
      intro s hs hconn
      exact List.mem_filter.mpr ⟨hs, by simpa using hconn⟩
  | retainNone k connectorId l time hl =>
      simp only [List.mem_singleton, forall_eq]
      intro s hs
      simp [WebSocketFarm.socketsOf, hl] at hs
  | retain k connectorId l sockets time hl =>
      simp only [List.mem_singleton, forall_eq]
      intro s hs
      rw [socketsOf_setSockets, if_pos rfl] at hs
      simpa using (List.mem_filter.mp hs).2
  | closeActive | closeIdle | closeStore =>
      simp only [List.mem_singleton, forall_eq]
      exact hk
  | closeCount k connectorId s rest c =>
      simp only [List.mem_singleton, forall_eq]
      intro u hu
      exact hk u (((Shrinks.addIdle f _).sockets k u) hu)
  | terminate force visited k =>
      simp only [List.mem_singleton, forall_eq]
      intro k' hk'
      rw [socketsOf_erase rfl]
      split
      · rfl
      · rename_i hne
        exact hk k' ((List.mem_cons.mp hk').resolve_left hne)
  | cleanStay cutOff c ts hts =>
      rcases hts with rfl | rfl
      · simp
      · simp only [List.mem_singleton, forall_eq]
        intro s hs
        cases hs
  | addCount | removeMissing | store | closeEnd | terminateEnd => simp
  | _ =>
      simp only [List.mem_singleton, forall_eq]
      intro s hs
      cases hs

private theorem isQuiet_congr {f f' : WebSocketFarm} (h : f'.isRemoved = f.isRemoved) (t : Task) :
    t.isQuiet f' = t.isQuiet f := by
  cases t <;> simp [Task.isQuiet, h]

private theorem knows_iff_of_isQuiet {f : WebSocketFarm} {t : Task} (hquiet : t.isQuiet f = true)
    (f' : WebSocketFarm) :
    t.Knows dir f' ↔ ∀ s, t.picked = some s → f'.isRemoved s = false := by
  cases t with
  | remove | resolve | acquire | putBack => exact Iff.rfl
  | _ => simp [Task.isQuiet, Task.isAcquisition] at hquiet

theorem Transition.quiet {f f' : WebSocketFarm} {t : Task} {c : Choice} {ts : List Task}
    (h : Transition dir f t c f' ts) (ht : t.isQuiet f = true) :
    f'.isRemoved = f.isRemoved ∧ ∀ u ∈ ts, u.isQuiet f = true := by
  cases h with
  | acquisition _ hf hts =>
      refine ⟨hf.isRemoved, fun u hu => ?_⟩
      rcases hts u hu with hacq | ⟨s, rfl, hs⟩
      · cases u <;> first | rfl | cases hacq
      · exact hs
  | recordTime | removeFound => exact ⟨rfl, by simpa [Task.isQuiet] using ht⟩
  | decrement => exact ⟨addIdle_isRemoved f _, by simpa [Task.isQuiet] using ht⟩
  | removeMissing => exact ⟨rfl, by simp⟩
  | store s c =>
      refine ⟨?_, by simp⟩
      have hs : f.isRemoved s = true := ht
      simp [WebSocketFarm.setRemoved, ← hs]
  | _ => simp [Task.isQuiet, Task.isAcquisition] at ht

theorem Orderly.task {f f' : WebSocketFarm} {t : Task} {c : Choice} {ts l r : List Task}
    (hp : Orderly dir f (l ++ t :: r)) (hexec : exec dir f t c = some (f', ts))
    (heff : Effect dir f f' t ts) (hsettles : Settles dir f t c) :
    Orderly dir f' (l ++ ts ++ r) := by
  have htrans := exec_transition hexec
  refine ⟨?_, fun s hs => ?_, ?_⟩
  · rcases hp.shape with ⟨u, hu, hwork⟩ | hquiet
    · obtain ⟨rfl, rfl, rfl⟩ : l = [] ∧ t = u ∧ r = [] := by
        simpa [List.append_eq_singleton_iff] using hu
      rcases (htrans.of_not_acquisition hwork).2 with rfl | ⟨v, rfl, hv⟩
      · exact .inr (by simp)
      · exact .inl ⟨v, rfl, hv⟩
    · obtain ⟨hremoved, hts⟩ := htrans.quiet (hquiet t (by simp))
      refine .inr fun u hu => ?_
      rw [isQuiet_congr hremoved]
      simp only [List.mem_append] at hu
      rcases hu with (hu | hu) | hu
      · exact hquiet u (by simp [hu])
      · exact hts u hu
      · exact hquiet u (by simp [hu])
  · exact (hp.settled s (heff.added ▸ hs)).task htrans hsettles heff
  · rcases hp.shape with ⟨u, hu, hwork⟩ | hquiet
    · obtain ⟨rfl, rfl, rfl⟩ : l = [] ∧ t = u ∧ r = [] := by
        simpa [List.append_eq_singleton_iff] using hu
      simpa using htrans.knows hwork (hp.knows t (by simp))
    · obtain ⟨hremoved, hts⟩ := htrans.quiet (hquiet t (by simp))
      have hkept : ∀ u ∈ l ++ t :: r, ∀ s, u.picked = some s → f.isRemoved s = false :=
        fun u hu => (knows_iff_of_isQuiet (hquiet u hu) f).mp (hp.knows u hu)
      have hpick : ∀ u ∈ l ++ ts ++ r, ∀ s, u.picked = some s → f.isRemoved s = false := by
        intro u hu s hs
        simp only [List.mem_append] at hu
        rcases hu with (hu | hu) | hu
        · exact hkept u (by simp [hu]) s hs
        · rcases (exec_picked hexec).1 u hu s hs with ht | hfree
          · exact hkept t (by simp) s ht
          · exact hfree
        · exact hkept u (by simp [hu]) s hs
      have hquiet' : ∀ u ∈ l ++ ts ++ r, u.isQuiet f = true := by
        intro u hu
        simp only [List.mem_append] at hu
        rcases hu with (hu | hu) | hu
        · exact hquiet u (by simp [hu])
        · exact hts u hu
        · exact hquiet u (by simp [hu])
      exact fun u hu => (knows_iff_of_isQuiet (hquiet' u hu) f').mpr fun s hs =>
        hremoved ▸ hpick u hu s hs

private theorem knows_congr {f f' : WebSocketFarm} (hmap : f'.socketMap = f.socketMap)
    (hremoved : f'.isRemoved = f.isRemoved) (t : Task) : t.Knows dir f' ↔ t.Knows dir f := by
  have hsockets : f'.socketsOf = f.socketsOf := by
    funext k
    rw [WebSocketFarm.socketsOf, WebSocketFarm.socketsOf, hmap]
  unfold Task.Knows
  rw [hsockets, hremoved]

private theorem Env.apply_isRemoved_eq {f : WebSocketFarm} {e : Env}
    (he : ∀ s, e ≠ .storeRemoved s) :
    (e.apply f).isRemoved = f.isRemoved := by
  cases e with
  | storeRemoved s => exact absurd rfl (he s)
  | enableDarkMode host =>
      simp only [Env.apply]
      split <;> rfl
  | _ => rfl

private theorem oneAtATime_cases {p : FarmPool} {e : Env} (h : oneAtATime p (.env e)) :
    (p.tasks = [] ∧ (e.spawned = [] ∨ ∃ t, e.spawned = [t] ∧ t.isAcquisition = false)) ∨
    (∃ config, e = .acquire config ∧ ∀ t ∈ p.tasks, t.isQuiet p.shared = true) ∨
    (e.spawned = [] ∧ ∀ s, e ≠ .storeRemoved s) := by
  cases e with
  | acquire config => exact .inr (.inl ⟨config, rfl, List.all_eq_true.mp h⟩)
  | setActive | dropLast | enableDarkMode | disableDarkMode => exact .inr (.inr ⟨rfl, by simp⟩)
  | storeRemoved => exact .inl ⟨h, .inl rfl⟩
  | _ => exact .inl ⟨h, .inr ⟨_, rfl, rfl⟩⟩

private theorem Env.spawned_knows (e : Env) (f : WebSocketFarm) :
    ∀ t ∈ e.spawned, t.Knows dir f := by
  cases e with
  | terminateAll force =>
      simp only [Env.spawned, List.mem_singleton, forall_eq]
      exact fun k hk => by simp at hk
  | storeRemoved | setActive | dropLast | enableDarkMode | disableDarkMode => simp [Env.spawned]
  | _ =>
      simp only [Env.spawned, List.mem_singleton, forall_eq]
      intro s hs
      cases hs

theorem Orderly.env {p : FarmPool} {e : Env} (hp : Orderly dir p.shared p.tasks)
    (hok : oneAtATime p (.env e)) : Orderly dir (e.apply p.shared) (p.tasks ++ e.spawned) := by
  obtain ⟨-, -, -, -, hmap, -⟩ := Env.apply_frame p.shared e
  have hkept : (∀ s, e ≠ .storeRemoved s) →
      ∀ t ∈ p.tasks ++ e.spawned, t.Knows dir (e.apply p.shared) := by
    intro he t ht
    rcases List.mem_append.mp ht with ht | ht
    · exact (knows_congr hmap (Env.apply_isRemoved_eq he) t).mpr (hp.knows t ht)
    · exact e.spawned_knows _ t ht
  refine ⟨?_, fun s hs => ?_, ?_⟩
  · rcases oneAtATime_cases hok with ⟨hidle, hspawn⟩ | ⟨config, rfl, hquiet⟩ | ⟨hspawn, he⟩
    · rcases hspawn with hspawn | ⟨t, hspawn, ht⟩
      · exact .inr (by simp [hidle, hspawn])
      · exact .inl ⟨t, by simp [hidle, hspawn], ht⟩
    · refine .inr fun t ht => ?_
      rcases List.mem_append.mp ht with ht | ht
      · exact hquiet t ht
      · obtain rfl : t = .resolve config := by simpa [Env.spawned] using ht
        rfl
    · rw [hspawn, List.append_nil]
      rcases hp.shape with hwork | hquiet
      · exact .inl hwork
      · exact .inr fun t ht => by rw [isQuiet_congr (Env.apply_isRemoved_eq he)]; exact hquiet t ht
  · exact settled_env hp.settled s hs
  · rcases oneAtATime_cases hok with ⟨hidle, -⟩ | ⟨config, rfl, -⟩ | ⟨-, he⟩
    · rw [hidle, List.nil_append]
      exact e.spawned_knows _
    · exact hkept (by simp)
    · exact hkept he

/-- The runs of the registration calls, one at a time, that leave no usable socket behind. -/
def selectionGuard (dir : SocketId → RouterSocket) (p : FarmPool) (a : Label) : Prop :=
  oneAtATime p a ∧ leavesNothingInUse dir p a = true

instance (dir : SocketId → RouterSocket) (p : FarmPool) (a : Label) :
    Decidable (selectionGuard dir p a) :=
  inferInstanceAs (Decidable (_ ∧ _))

/-- The two invariants together. -/
def SelectionInv (dir : SocketId → RouterSocket) (p : FarmPool) : Prop :=
  Conserved dir p.shared p.tasks ∧ Orderly dir p.shared p.tasks

theorem SelectionInv.task {p : FarmPool} {i : Nat} {c : Choice} {l r ts : List Task} {t : Task}
    {f : WebSocketFarm} (hp : SelectionInv dir p) (hok : leavesNothingInUse dir p (.task i c) = true)
    (hi : p.tasks[i]? = some t) (htasks : p.tasks = l ++ t :: r)
    (hexec : exec dir p.shared t c = some (f, ts)) : Orderly dir f (l ++ ts ++ r) := by
  obtain ⟨hcons, hord⟩ := hp
  rw [htasks] at hcons hord
  refine hord.task hexec (hcons.effect hexec) ⟨?_, ?_, ?_, ?_⟩
  · rintro k connectorId sockets rfl
    exact hord.knows (.deRegister k connectorId (.retain sockets)) (by simp)
  · rintro k connectorId s rest rfl hactive
    simpa [leavesNothingInUse, hi, hactive] using hok
  · rintro force visited k rfl rfl
    simpa [leavesNothingInUse, hi] using hok
  · rintro cutOff k rfl
    exact hcons.empty k (hcons.locked (by simp [Task.cleaning]))

theorem SelectionInv.step {p q : FarmPool} {a : Label} (hp : SelectionInv dir p)
    (hok : selectionGuard dir p a) (h : step dir p a = some q) : SelectionInv dir q := by
  refine ⟨hp.1.step h, ?_⟩
  rcases step_cases dir h with
    ⟨i, c, l, t, r, f, ts, rfl, hi, htasks, hexec, rfl⟩ | ⟨e, rfl, -, rfl⟩
  · exact hp.task hok.2 hi htasks hexec
  · exact hp.2.env hok.1

private theorem selectionInv_of_reachable {p : FarmPool}
    (h : (machine dir).Reachable (selectionGuard dir) p) : SelectionInv dir p := by
  refine h.invariant ?_ fun p a q hp hok hstep => hp.step hok hstep
  rintro p rfl
  exact ⟨conserved_new, orderly_new⟩

private theorem SelectionInv.selects {p q : FarmPool} {a : Label} {s : SocketId}
    (hp : SelectionInv dir p)
    (h : Farm.step dir p a = some q) (hs : q.shared.returned = s :: p.shared.returned) :
    Registered dir p.shared s := by
  obtain ⟨hcons, hord⟩ := hp
  rcases step_cases dir h with
    ⟨i, c, l, t, r, f, ts, rfl, -, htasks, hexec, rfl⟩ | ⟨e, rfl, -, rfl⟩
  · rw [htasks] at hcons hord
    obtain ⟨u, hu, hpick⟩ : ∃ u, f.returned = u :: p.shared.returned ∧ t.picked = some u := by
      rcases (exec_picked hexec).2 with heq | hpick
      · simp [heq] at hs
      · exact hpick
    obtain rfl : u = s := by simpa [hu] using hs
    -- The pool is quiet, because it has an acquisition.
    have hquiet : ∀ t' ∈ l ++ t :: r, t'.isQuiet p.shared = true := by
      refine hord.shape.resolve_left ?_
      rintro ⟨v, hv, hwork⟩
      obtain ⟨-, rfl, -⟩ : l = [] ∧ t = v ∧ r = [] := by
        simpa [List.append_eq_singleton_iff] using hv
      simp [isAcquisition_of_picked hpick] at hwork
    have hfree := (knows_iff_of_isQuiet (hquiet t (by simp)) p.shared).mp
      (hord.knows t (by simp)) u hpick
    obtain ⟨c', hocc⟩ : ∃ c', occurrences p.shared (l ++ t :: r) c' u = 1 := by
      rcases hcons.handed (hcons.effect hexec) with heq | ⟨v, c', heq, hone, -⟩
      · simp [heq] at hs
      · obtain rfl : v = u := by simpa [heq] using hs
        exact ⟨c', hone⟩
    rcases hord.settled u (hcons.placeKnown c' u (by omega)) with hreg | hout | ⟨v, hv, hset⟩
    · exact hreg
    · rcases hout with hrem | ⟨hv1, hret⟩
      · simp [hfree] at hrem
      · have hzero := (hcons.spent u hv1 hret).1 c'
        omega
    · have hq := hquiet v hv
      cases v with
      | remove w pc =>
          cases pc with
          | decrement | store =>
              obtain rfl : w = u := hset
              simp [Task.isQuiet, hfree] at hq
          | _ => exact hset.elim
      | resolve | acquire | putBack => exact hset.elim
      | _ => simp [Task.isQuiet, Task.isAcquisition] at hq
  · simp [(Env.apply_frame p.shared e).2.1] at hs

/-- No later acquisition of the run returns the socket. -/
def NeverReturned (dir : SocketId → RouterSocket) (p : FarmPool) (s : SocketId) : Prop :=
  ∀ q, (machine dir).Reach (selectionGuard dir) p q →
    q.shared.returned.count s = p.shared.returned.count s

/-- A socket that has been added and has left the map is never registered again. -/
theorem unregistered_step {p q : FarmPool} {a : Label} {s : SocketId}
    (hp : Conserved dir p.shared p.tasks) (h : step dir p a = some q)
    (hadded : s ∈ p.shared.added) (hreg : ¬Registered dir p.shared s)
    (hadd : Task.add s .insert ∉ p.tasks) :
    s ∈ q.shared.added ∧ ¬Registered dir q.shared s ∧ Task.add s .insert ∉ q.tasks := by
  rcases step_cases dir h with
    ⟨i, c, l, t, r, f, ts, rfl, -, htasks, hexec, rfl⟩ | ⟨e, rfl, hen, rfl⟩
  · rw [htasks] at hp hadd
    have heff := hp.effect hexec
    simp only [List.mem_append, List.mem_cons, not_or] at hadd ⊢
    refine ⟨heff.added.symm ▸ hadded, fun hreg' => ?_, ⟨hadd.1, heff.noInsert s⟩, hadd.2.2⟩
    rcases heff.registered s hreg' with hold | rfl
    · exact hreg hold
    · exact hadd.2.1 rfl
  · obtain ⟨-, -, -, -, hmap, -⟩ := Env.apply_frame p.shared e
    refine ⟨?_, fun hreg' => hreg ((registered_congr hmap s).mp hreg'), ?_⟩
    · rcases Env.apply_added p.shared e with ⟨u, -, hu⟩ | ⟨-, hu⟩ <;> simp [hu, hadded]
    · simp only [List.mem_append, not_or]
      refine ⟨hadd, fun hmem => ?_⟩
      cases e <;> simp [Env.spawned] at hmem
      subst hmem
      simp [Env.enabled, hadded] at hen

private theorem neverReturned_of_unregistered {p : FarmPool} {s : SocketId}
    (hp : SelectionInv dir p)
    (hadded : s ∈ p.shared.added) (hreg : ¬Registered dir p.shared s)
    (hadd : Task.add s .insert ∉ p.tasks) : NeverReturned dir p s := by
  intro q hq
  refine (hq.invariant (P := fun q => SelectionInv dir q ∧ s ∈ q.shared.added ∧
    ¬Registered dir q.shared s ∧ Task.add s .insert ∉ q.tasks ∧
    q.shared.returned.count s = p.shared.returned.count s) ?_ ⟨hp, hadded, hreg, hadd, rfl⟩).2.2.2.2
  rintro u a v ⟨hu, hadded, hreg, hadd, hcount⟩ hok hstep
  obtain ⟨hadded', hreg', hadd'⟩ := unregistered_step hu.1 hstep hadded hreg hadd
  refine ⟨hu.step hok hstep, hadded', hreg', hadd', hcount ▸ ?_⟩
  -- A step that returns a socket returns a registered one, so not this one.
  have hreturned : v.shared.returned = u.shared.returned ∨
      ∃ w, v.shared.returned = w :: u.shared.returned := by
    rcases step_cases dir hstep with
      ⟨i, c, l, t, r, f, ts, -, -, -, hexec, rfl⟩ | ⟨e, -, -, rfl⟩
    · rcases (exec_picked hexec).2 with heq | ⟨w, heq, -⟩
      · exact .inl heq
      · exact .inr ⟨w, heq⟩
    · exact .inl (Env.apply_frame u.shared e).2.1
  rcases hreturned with heq | ⟨w, heq⟩
  · rw [heq]
  · have hw := hu.selects hstep heq
    rw [heq, List.count_cons_of_ne]
    rintro rfl
    exact hreg hw

theorem Orderly.alone {f : WebSocketFarm} {l r : List Task} {t : Task}
    (hp : Orderly dir f (l ++ t :: r)) (ht : t.isQuiet f = false) : l = [] ∧ r = [] := by
  rcases hp.shape with ⟨u, hu, -⟩ | hquiet
  · obtain ⟨hl, -, hr⟩ : l = [] ∧ t = u ∧ r = [] := by
      simpa [List.append_eq_singleton_iff] using hu
    exact ⟨hl, hr⟩
  · simp [hquiet t (by simp)] at ht

/-- In the runs whose calls run one at a time and leave no usable socket behind, every socket that
is returned is registered when it is selected; once `de_register` has finished, no socket of the
connector on the route is returned any more, and once `terminate_all` has finished, no socket
added before. -/
theorem selected_sockets_registered (dir : SocketId → RouterSocket) (p : FarmPool)
    (h : (machine dir).Reachable (selectionGuard dir) p) :
    (∀ a q s, step dir p a = some q → q.shared.returned = s :: p.shared.returned →
      Registered dir p.shared s) ∧
    (∀ i c k connectorId q, p.tasks[i]? = some (.deRegister k connectorId (.close [])) →
      step dir p (.task i c) = some q → ∀ s ∈ q.shared.added, (dir s).route = k →
        (dir s).connectorId = connectorId → NeverReturned dir q s) ∧
    (∀ i force visited q, p.tasks[i]? = some (.terminateAll force visited) →
      step dir p (.task i .stop) = some q → ∀ s ∈ q.shared.added, NeverReturned dir q s) := by
  have hinv := selectionInv_of_reachable h
  refine ⟨fun a q s hstep hs => hinv.selects hstep hs, ?_, ?_⟩
  · intro i c k connectorId q hi hstep s hs hroute hconn
    have hq := hinv.step (a := .task i c) ⟨trivial, by simp [leavesNothingInUse, hi]⟩ hstep
    rcases step_cases dir hstep with
      ⟨i', c', l, t, r, f, ts, ha, hi', htasks, hexec, rfl⟩ | ⟨e, ha, -, -⟩
    swap
    · simp at ha
    obtain ⟨rfl, rfl⟩ : i = i' ∧ c = c' := by simpa using ha
    obtain rfl : t = .deRegister k connectorId (.close []) := by simpa [hi] using hi'.symm
    obtain ⟨rfl, rfl⟩ : p.shared = f ∧ [] = ts := by
      simpa [exec, execDeRegister] using hexec
    have hord := hinv.2
    rw [htasks] at hord
    obtain ⟨rfl, rfl⟩ := hord.alone rfl
    refine neverReturned_of_unregistered hq hs (fun hreg => ?_) (by simp)
    rw [Registered, hroute] at hreg
    exact hord.knows (.deRegister k connectorId (.close [])) (by simp) s hreg hconn
  · intro i force visited q hi hstep s hs
    have hq := hinv.step (a := .task i .stop) ⟨trivial, by simp [leavesNothingInUse, hi]⟩ hstep
    rcases step_cases dir hstep with
      ⟨i', c', l, t, r, f, ts, ha, hi', htasks, hexec, rfl⟩ | ⟨e, ha, -, -⟩
    swap
    · simp at ha
    obtain ⟨rfl, rfl⟩ : i = i' ∧ Choice.stop = c' := by simpa using ha
    obtain rfl : t = .terminateAll force visited := by simpa [hi] using hi'.symm
    have hord := hinv.2
    rw [htasks] at hord
    obtain ⟨rfl, rfl⟩ := hord.alone rfl
    have hknows := hord.knows (.terminateAll force visited) (by simp)
    cases exec_transition hexec with
    | acquisition ht => simp [Task.isAcquisition] at ht
    | terminateEnd _ _ hall =>
        refine neverReturned_of_unregistered hq hs (fun hreg => ?_) (by simp)
        by_cases hk : p.shared.socketMap.lookup (dir s).route = none
        · simp [Registered, WebSocketFarm.socketsOf, hk] at hreg
        · rw [Registered, hknows _ (hall _ hk)] at hreg
          simp at hreg

/-- The V3 socket has been added and is idle, de-registration has closed it and is about to end. -/
def closedState : FarmPool :=
  (machine ordersDir).run (selectionGuard ordersDir) ⟨.new, []⟩
    [.env (.add 1), .task 0 .go, .task 0 .go, .task 0 .go,
     .env (.deRegister "orders" "connector"), .task 0 .go, .task 0 (.now 0), .task 0 .go,
     .task 0 .go, .task 0 .go]

theorem selected_sockets_registered_closedState :
    ∃ q, step ordersDir closedState (.task 0 .go) = some q ∧ 1 ∈ q.shared.added ∧
      NeverReturned ordersDir q 1 := by
  have htask : closedState.tasks[0]? = some (.deRegister "orders" "connector" (.close [])) := by
    decide +kernel
  have hadded : (step ordersDir closedState (.task 0 .go)).map (·.shared.added) = some [1] := by
    decide +kernel
  obtain ⟨q, hq, h1⟩ := Option.map_eq_some_iff.mp hadded
  have hmem : 1 ∈ q.shared.added := by simp [h1]
  exact ⟨q, hq, hmem, (selected_sockets_registered ordersDir closedState
    (Machine.reachable_run _ _ rfl _)).2.1 0 .go "orders" "connector" q htask hq 1 hmem rfl rfl⟩

/-- An acquisition that finds socket 1 in the channel and is about to return it. -/
def acquireRun : List Label :=
  [.env (.acquire ⟨false, false, false⟩), .task 0 (.route "orders"), .task 0 (.precise false),
   .task 0 .go, .task 0 .go, .task 0 .go, .task 0 (.verdict true)]

/-- De-registration has finished while the V3 socket had a request in flight. -/
def deRegisteredState : FarmPool :=
  (machine ordersDir).run oneAtATime ⟨.new, []⟩
    ([.env (.add 1), .task 0 .go, .task 0 .go, .task 0 .go, .env (.setActive 1 true),
      .env (.deRegister "orders" "connector"), .task 0 .go, .task 0 (.now 0), .task 0 .go,
      .task 0 .go] ++ acquireRun)

/-- `terminate_all(false)` has finished. -/
def terminatedState : FarmPool :=
  (machine ordersDir).run oneAtATime ⟨.new, []⟩
    ([.env (.add 1), .task 0 .go, .task 0 .go, .task 0 .go, .env (.terminateAll false),
      .task 0 (.visit "orders"), .task 0 .stop] ++ acquireRun)

/-- A socket that is no longer registered is returned, after `de_register` of an active V3 socket
and after `terminate_all`. -/
theorem unregistered_socket_returned :
    (¬Registered ordersDir deRegisteredState.shared 1 ∧
      (step ordersDir deRegisteredState (.task 0 .go)).map (·.shared.returned) = some [1]) ∧
    (¬Registered ordersDir terminatedState.shared 1 ∧
      (step ordersDir terminatedState (.task 0 .go)).map (·.shared.returned) = some [1]) := by
  decide +kernel

end CrankerRouter.Farm
