import CrankerRouter.Lib.Broadcast
import CrankerRouter.Farm.Dark
import CrankerRouter.Farm.Pass

/-!
# Waiting for a notification

`new_socket_notifier` is a broadcast channel.  Every addition sends the route of its socket after
the socket is in the channel of the route, and a host that leaves dark mode sends `*`.  An
acquisition subscribes before its first pass and reads only while it waits, so what was sent
during a pass is still there when the pass has found nothing.
-/

namespace CrankerRouter.Farm

open Lib

variable {dir : SocketId → RouterSocket}

/-! ### The notifier -/

/-- The capacity of `broadcast::channel`. -/
def notifierCapacity : Nat := 128

/-- `notified_route == resolved_route || notified_route == "*"`. -/
def concerns (resolvedRoute notifiedRoute : Route) : Bool :=
  notifiedRoute == resolvedRoute || notifiedRoute == "*"

/-- What is to be sent to the notifier after a step: an addition has counted its socket, or a host
was taken out of the dark hosts. -/
def announced (dir : SocketId → RouterSocket) (x : Following) : FollowLabel → List Route
  | .task turn _ =>
      match x.taskAt turn with
      | some (.add s .count) => [(dir s).route]
      | _ => []
  | .env (.disableDarkMode host) =>
      if x.shared.darkHosts.any (·.sameHost host.address) then ["*"] else []
  | .env _ => []

/-- The step begins a pass, or leads up to one. -/
def beginsPass (x : Following) : FollowLabel → Bool
  | .task .own _ =>
      match x.task with
      | some (.acquire _ pc) => !pc.inPass
      | _ => false
  | _ => false

/-- An acquisition with its receiver.  `notifying` are the tasks that are about to send; `sent` is
all that was sent since the acquisition is followed, and `sentBefore` how much of it before its
last pass began. -/
structure Watch where
  followed : Following × PassLog
  notifying : List Route
  sent : List Route
  newSocketRx : Option Nat
  sentBefore : Nat

inductive WatchLabel
  | farm (a : FollowLabel)
  | subscribe
  | recv
  | notify (i : Nat)
  deriving DecidableEq, Repr

/-- The acquisition goes on only after it has subscribed, and is notified only by what it reads. -/
def Watch.admits (w : Watch) : FollowLabel → Bool
  | .task .own c => w.newSocketRx.isSome && c != .notified
  | _ => true

def Watch.follow (dir : SocketId → RouterSocket) (w : Watch) (a : FollowLabel) : Option Watch :=
  ((following dir).step w.followed a).map fun y =>
    { w with
      followed := y
      notifying := w.notifying ++ announced dir w.followed.1 a
      sentBefore := if beginsPass w.followed.1 a then w.sent.length else w.sentBefore }

/-- One turn of the loop `match new_socket_rx.recv().await`.  The sender lives as long as the farm,
so the channel is never closed. -/
def Watch.recv (dir : SocketId → RouterSocket) (w : Watch) : Option Watch :=
  match w.followed.1.task, w.newSocketRx with
  | some (.acquire q .waitNotified), some next =>
      match Broadcast.recv notifierCapacity w.sent next with
      | some (.value notifiedRoute, next') =>
          if concerns q.resolvedRoute notifiedRoute then
            Watch.follow dir { w with newSocketRx := some next' } (.task .own .notified)
          else some { w with newSocketRx := some next' }
      | some (.lagged, next') =>
          Watch.follow dir { w with newSocketRx := some next' } (.task .own .notified)
      | none => none
  | _, _ => none

def watchStep (dir : SocketId → RouterSocket) (w : Watch) : WatchLabel → Option Watch
  | .farm a => if w.admits a then w.follow dir a else none
  | .subscribe =>
      if w.newSocketRx.isNone then some { w with newSocketRx := some w.sent.length } else none
  | .recv => w.recv dir
  | .notify i =>
      w.notifying[i]?.map fun route =>
        { w with notifying := w.notifying.eraseIdx i, sent := w.sent ++ [route] }

/-- An acquisition that has the channel of its route and has not subscribed yet. -/
def watching (dir : SocketId → RouterSocket) : Machine Watch WatchLabel where
  init := fun w => (following dir).init w.followed ∧ w.sent = [] ∧ w.newSocketRx = none ∧
    w.sentBefore = 0
  step := watchStep dir

/-! ### What a step announces -/

/-- The add task of the socket has put it into the channel of its route. -/
def Arrived (p : FarmPool) (s : SocketId) : Prop :=
  s ∈ p.shared.added ∧ Pool.total (Task.sending s) p.tasks = 0

private theorem task_of_sending {t : Task} {s : SocketId} (h : 0 < t.sending s) :
    t = .add s .insert ∨ t = .add s .send := by
  unfold Task.sending at h
  split at h
  · split_ifs at h with hs
    · exact .inl (hs ▸ rfl)
    · cases h
  · split_ifs at h with hs
    · exact .inr (hs ▸ rfl)
    · cases h
  · cases h

private theorem Arrived.of_step {p p' : FarmPool} {a : Label} {s : SocketId}
    (hp : Conserved dir p.shared p.tasks) (h : Farm.step dir p a = some p') (hs : Arrived p' s) :
    Arrived p s ∨ .add s .count ∈ p'.tasks := by
  obtain ⟨hadded, hsent⟩ := hs
  rcases step_cases dir h with ⟨i, c, l, t, r, f, ts, -, -, htasks, hexec, rfl⟩ | ⟨e, -, hen, rfl⟩
  · rw [htasks] at hp
    rw [(hp.effect hexec).added] at hadded
    simp only [Pool.total_append] at hsent
    rcases Nat.eq_zero_or_pos (t.sending s) with hzero | hpos
    · left
      refine ⟨hadded, ?_⟩
      rw [htasks, Pool.total_append, Pool.total_cons]
      omega
    · right
      rcases task_of_sending hpos with rfl | rfl
      · -- the socket is still to be sent
        have hts : ts = [.add s .send] := by
          simp only [exec, execAdd] at hexec
          split_ifs at hexec
          exact (Prod.mk.inj (Option.some.inj hexec)).2.symm
        simp [hts, Task.sending] at hsent
      · simp only [exec, execAdd, Option.some.injEq, Prod.mk.injEq] at hexec
        simp [← hexec.2]
  · left
    rcases Env.apply_added p.shared e with ⟨u, rfl, hadd⟩ | ⟨-, hadd⟩
    · simp only [hadd, List.mem_cons] at hadded
      simp only [Env.spawned, Pool.total_append, Pool.total_cons, Task.sending] at hsent
      rcases hadded with rfl | hadded
      · simp at hsent
      · exact ⟨hadded, by omega⟩
    · simp only [hadd] at hadded
      simp only [Pool.total_append] at hsent
      exact ⟨hadded, by omega⟩

private theorem add_count_or_announced {x y : Following} {a : FollowLabel} {s : SocketId}
    (h : followStep dir x a = some y) (hmem : Task.add s .count ∈ x.pool.tasks)
    (hacq : ∀ t, x.task = some t → ∃ q pc, t = .acquire q pc) :
    .add s .count ∈ y.pool.tasks ∨ (dir s).route ∈ announced dir x a := by
  cases a with
  | env e =>
      simp only [followStep] at h
      split_ifs at h
      cases h
      simp only [Focus.pool_tasks, List.mem_append] at hmem ⊢
      tauto
  | task turn c =>
      rcases Focus.step_cases h with ⟨t, f, ts, rfl, ht, hexec, rfl⟩ |
        ⟨hturn, htask, l, t, r, f, ts, hat, hl, hexec, hy⟩
      · obtain ⟨q, pc, rfl⟩ := hacq t ht
        simp only [Focus.pool_tasks, ht, Option.toList_some, List.mem_append, List.mem_singleton,
          reduceCtorEq, or_false] at hmem ⊢
        tauto
      · rw [hl, List.mem_append, List.mem_cons] at hmem
        by_cases htc : t = .add s .count
        · right
          subst htc
          simp [announced, hat]
        · left
          rw [hy]
          simp only [List.mem_append]
          rcases hmem with hmem | rfl | hmem
          · exact .inl (.inl hmem)
          · exact absurd rfl htc
          · exact .inr hmem

private theorem avoids_nil (t : Task) : t.Avoids dir [] := by
  unfold Task.Avoids FallbackPc.Avoids
  split <;> (try split) <;> simp

private theorem exec_darkHosts {f f' : WebSocketFarm} {t : Task} {c : Choice} {ts : List Task}
    (h : exec dir f t c = some (f', ts)) : f'.darkHosts = f.darkHosts :=
  (exec_avoids h (List.nil_subset _) (avoids_nil t)).1

private theorem dark_or_announced {x y : Following} {a : FollowLabel} {ip : IpAddr}
    (h : followStep dir x a = some y) (hip : ip ∈ darkAddresses x.shared.darkHosts) :
    ip ∈ darkAddresses y.shared.darkHosts ∨ "*" ∈ announced dir x a := by
  cases a with
  | env e =>
      simp only [followStep] at h
      split_ifs at h
      cases h
      cases e with
      | enableDarkMode host =>
          left
          simp only [darkAddresses_enable]
          split_ifs
          · exact hip
          · exact List.mem_cons_of_mem _ hip
      | disableDarkMode host =>
          simp only [darkAddresses_disable, List.mem_filter]
          by_cases hsame : host.address = ip
          · right
            obtain ⟨h, hh, rfl⟩ := List.mem_map.mp hip
            have hany : (x.shared.darkHosts.any fun h => h.sameHost host.address) = true :=
              List.any_eq_true.mpr ⟨h, hh, by simp [DarkHost.sameHost, hsame]⟩
            simp [announced, hany]
          · left
            exact ⟨hip, by simp [DarkHost.sameHost, hsame]⟩
      | _ => exact .inl hip
  | task turn c =>
      left
      rcases Focus.step_cases h with ⟨t, f, ts, -, -, hexec, rfl⟩ |
        ⟨-, -, l, t, r, f, ts, -, -, hexec, hy⟩
      · simpa only [exec_darkHosts hexec] using hip
      · have hshared : y.shared = f := congrArg Pool.shared hy
        rw [hshared, exec_darkHosts hexec]
        exact hip

/-! ### Notifications are kept -/

/-- The acquisition has begun a pass. -/
def Watch.Begun (w : Watch) : Prop := ∀ q, w.followed.1.task ≠ some (.acquire q .main)

/-- A notification for this route is to be sent, or was sent since the pass began. -/
def Watch.News (w : Watch) (k : Route) : Prop :=
  k ∈ w.notifying ∨ k ∈ w.sent.drop w.sentBefore

/-- What an acquisition has not heard of is still to be read by it. -/
structure Alert (dir : SocketId → RouterSocket) (w : Watch) : Prop where
  reachable : (following dir).Reachable Machine.anyAction w.followed
  before : w.sentBefore ≤ w.sent.length
  position : ∀ n, w.newSocketRx = some n → n ≤ w.sent.length
  subscribed : w.Begun → w.newSocketRx.isSome = true
  unread : w.Begun → ∀ q pc n, w.followed.1.task = some (.acquire q pc) → w.newSocketRx = some n →
    ∀ j k, w.sentBefore ≤ j → j < n → w.sent[j]? = some k → concerns q.resolvedRoute k = false
  arrivals : w.Begun → ∀ s, Arrived w.followed.1.pool s →
    Arrived w.followed.2.start s ∨ .add s .count ∈ w.followed.1.pool.tasks ∨ w.News (dir s).route
  lights : w.Begun → ∀ ip ∈ darkAddresses w.followed.2.start.shared.darkHosts,
    ip ∈ darkAddresses w.followed.1.shared.darkHosts ∨ w.News "*"

section Follow

variable {w w' : Watch} {a : FollowLabel}

private theorem follow_cases (h : w.follow dir a = some w') :
    ∃ y, followStep dir w.followed.1 a = some y ∧ w' =
      { w with
        followed := (y, w.followed.2.note w.followed.1 a)
        notifying := w.notifying ++ announced dir w.followed.1 a
        sentBefore := if beginsPass w.followed.1 a then w.sent.length else w.sentBefore } := by
  obtain ⟨⟨y, log⟩, hy, rfl⟩ := Option.map_eq_some_iff.mp h
  obtain ⟨hstep, hlog⟩ := Machine.logged_step hy
  obtain rfl : log = w.followed.2.note w.followed.1 a := hlog
  exact ⟨y, hstep, rfl⟩

private theorem note_of_beginsPass {x : Following} (log : PassLog) (h : beginsPass x a = true) :
    log.note x a = ⟨0, x.pool⟩ := by
  unfold beginsPass at h
  split at h
  · split at h
    · rename_i c q pc htask
      have hpass : pc.inPass = false := by simpa using h
      simp [PassLog.note, htask, hpass]
    · cases h
  · cases h

private theorem note_start {x : Following} (log : PassLog) (h : beginsPass x a = false) :
    (log.note x a).start = log.start := by
  unfold PassLog.note
  split
  · rename_i q pc c htask
    have hpass : pc.inPass = true := by simpa [beginsPass, htask] using h
    rw [if_pos hpass]
  · rfl

private theorem Alert.begin (hreach : (following dir).Reachable Machine.anyAction w.followed)
    (hsome : w.newSocketRx.isSome = true)
    (hposition : ∀ n, w.newSocketRx = some n → n ≤ w.sent.length)
    (hbegins : beginsPass w.followed.1 a = true) (hstep : w.follow dir a = some w') :
    Alert dir w' := by
  obtain ⟨y, hfollow, rfl⟩ := follow_cases hstep
  have hpaced := paced_of_reachable hreach
  have hp := conserved_of_reachable hpaced.reachable
  obtain ⟨b, hb⟩ := followStep_pool hfollow
  rw [note_of_beginsPass _ hbegins, if_pos hbegins]
  refine ⟨?_, le_rfl, hposition, fun _ => hsome, ?_, ?_, ?_⟩
  · rw [← note_of_beginsPass w.followed.2 hbegins]
    exact hreach.next trivial (following_step hfollow)
  · intro _ q pc n _ hn j k hj hjn
    have hle := hposition n hn
    simp only at hj
    omega
  · intro _ s hs
    rcases Arrived.of_step hp hb hs with hs | hs
    · exact .inl hs
    · exact .inr (.inl hs)
  · intro _ ip hip
    rcases dark_or_announced hfollow hip with hip | hip
    · exact .inl hip
    · exact .inr (.inl (List.mem_append_right _ hip))

private theorem task_of_not_beginsPass {x y : Following} (h : followStep dir x a = some y)
    (hbegins : beginsPass x a = false)
    (hacq : ∀ t, x.task = some t → ∃ q pc, t = .acquire q pc) :
    y.task = x.task ∨ ∃ q pc, x.task = some (.acquire q pc) ∧ pc.inPass = true ∧
      ∀ t, y.task = some t → ∃ pc', t = .acquire q pc' := by
  cases a with
  | env e =>
      simp only [followStep] at h
      split_ifs at h
      cases h
      exact .inl rfl
  | task turn c =>
      rcases Focus.step_cases h with ⟨t, f, ts, rfl, ht, hexec, rfl⟩ | ⟨hturn, htask, -⟩
      · obtain ⟨q, pc, rfl⟩ := hacq t ht
        have hpass : pc.inPass = true := by simpa [beginsPass, ht] using hbegins
        exact .inr ⟨q, pc, ht, hpass, fun t => (execAcquire_move hexec).followed⟩
      · exact .inl htask

theorem Watch.News.append {k : Route} (h : w.News k) (more : List Route)
    (followed : Following × PassLog) :
    Watch.News { w with followed := followed, notifying := w.notifying ++ more } k := by
  rcases h with h | h
  · exact .inl (List.mem_append_left _ h)
  · exact .inr h

/-- A step that begins no pass: what the acquisition does not know of stays to be read. -/
theorem Alert.within (h : Alert dir w) (hbegins : beginsPass w.followed.1 a = false)
    (hstep : w.follow dir a = some w') : Alert dir w' := by
  obtain ⟨y, hfollow, rfl⟩ := follow_cases hstep
  have hpaced := paced_of_reachable h.reachable
  have hp := conserved_of_reachable hpaced.reachable
  obtain ⟨b, hb⟩ := followStep_pool hfollow
  have hacq : ∀ t, w.followed.1.task = some t → ∃ q pc, t = .acquire q pc := by
    intro t ht
    obtain ⟨q, pc, rfl, -⟩ := hpaced.followed t ht
    exact ⟨q, pc, rfl⟩
  rw [hbegins, if_neg (by simp)]
  have htask := task_of_not_beginsPass hfollow hbegins hacq
  have hbegun : (∀ q, y.task ≠ some (.acquire q .main)) → w.Begun := by
    intro hy q hq
    rcases htask with heq | ⟨q', pc, hpc, hpass, -⟩
    · exact hy q (heq.trans hq)
    · cases hq.symm.trans hpc
      cases hpass
  refine ⟨h.reachable.next trivial (following_step hfollow), h.before, h.position,
    fun hy => h.subscribed (hbegun hy), ?_, ?_, ?_⟩
  · intro hy q pc n hq hn
    rcases htask with heq | ⟨q', pc', hpc', -, hnext⟩
    · exact h.unread (hbegun hy) q pc n (heq.symm.trans hq) hn
    · obtain ⟨pc'', heq⟩ := hnext _ hq
      cases heq
      exact h.unread (hbegun hy) q pc' n hpc' hn
  · intro hy s hs
    simp only [note_start _ hbegins]
    rcases Arrived.of_step hp hb hs with hs | hs
    · rcases h.arrivals (hbegun hy) s hs with hs | hs | hs
      · exact .inl hs
      · rcases add_count_or_announced hfollow hs hacq with hs | hs
        · exact .inr (.inl hs)
        · exact .inr (.inr (.inl (List.mem_append_right _ hs)))
      · exact .inr (.inr (hs.append _ _))
    · exact .inr (.inl hs)
  · intro hy ip hip
    simp only [note_start _ hbegins] at hip
    rcases h.lights (hbegun hy) ip hip with hip | hip
    · rcases dark_or_announced hfollow hip with hip | hip
      · exact .inl hip
      · exact .inr (.inl (List.mem_append_right _ hip))
    · exact .inr (hip.append _ _)

end Follow

private theorem Alert.subscribe {w : Watch} (h : Alert dir w) (hnone : w.newSocketRx = none) :
    Alert dir { w with newSocketRx := some w.sent.length } := by
  have hmain : ¬w.Begun := by
    intro hbegun
    have hsome := h.subscribed hbegun
    rw [hnone] at hsome
    cases hsome
  refine ⟨h.reachable, h.before, ?_, fun hb => absurd hb hmain, fun hb => absurd hb hmain,
    fun hb => absurd hb hmain, fun hb => absurd hb hmain⟩
  intro n hn
  cases hn
  exact le_rfl

/-- A notification for another route is passed over. -/
theorem Alert.pass {w : Watch} (h : Alert dir w) {q : Acquisition} {pc : AcquirePc} {n : Nat}
    {k : Route} (htask : w.followed.1.task = some (.acquire q pc)) (hn : w.newSocketRx = some n)
    (hk : w.sent[n]? = some k) (hother : concerns q.resolvedRoute k = false) :
    Alert dir { w with newSocketRx := some (n + 1) } := by
  refine ⟨h.reachable, h.before, ?_, fun _ => rfl, ?_, h.arrivals, h.lights⟩
  · intro m hm
    cases hm
    exact (List.getElem?_eq_some_iff.mp hk).1
  · intro hbegun q' pc' m hq hm j k' hj hjm hk'
    cases hm
    cases htask.symm.trans hq
    rcases Nat.lt_succ_iff_lt_or_eq.mp hjm with hlt | rfl
    · exact h.unread hbegun q pc n htask hn j k' hj hlt hk'
    · cases hk.symm.trans hk'
      exact hother

theorem Alert.notify {w : Watch} (h : Alert dir w) {i : Nat} {k : Route}
    (hk : w.notifying[i]? = some k) :
    Alert dir { w with notifying := w.notifying.eraseIdx i, sent := w.sent ++ [k] } := by
  have hnews : ∀ k', w.News k' →
      Watch.News { w with notifying := w.notifying.eraseIdx i, sent := w.sent ++ [k] } k' := by
    intro k' hk'
    simp only [Watch.News, List.drop_append_of_le_length h.before, List.mem_append,
      List.mem_singleton]
    rcases hk' with hk' | hk'
    · by_cases heq : k' = k
      · exact .inr (.inr heq)
      · left
        obtain ⟨j, hj⟩ := List.mem_iff_getElem?.mp hk'
        refine List.mem_eraseIdx_iff_getElem?.mpr ⟨j, ?_, hj⟩
        rintro rfl
        cases hj.symm.trans hk
        exact heq rfl
    · exact .inr (.inl hk')
  refine ⟨h.reachable, ?_, ?_, h.subscribed, ?_, ?_, ?_⟩
  · exact h.before.trans (by simp)
  · intro n hn
    exact (h.position n hn).trans (by simp)
  · intro hbegun q pc n htask hn j k' hj hjn hk'
    rw [List.getElem?_append_left (hjn.trans_le (h.position n hn))] at hk'
    exact h.unread hbegun q pc n htask hn j k' hj hjn hk'
  · intro hbegun s hs
    rcases h.arrivals hbegun s hs with hs | hs | hs
    · exact .inl hs
    · exact .inr (.inl hs)
    · exact .inr (.inr (hnews _ hs))
  · intro hbegun ip hip
    rcases h.lights hbegun ip hip with hip | hip
    · exact .inl hip
    · exact .inr (hnews _ hip)

/-- What a turn of the waiting loop does: it reads past a notification that does not concern the
acquisition, or lets it begin another pass. -/
theorem recv_cases {w w' : Watch} (h : w.recv dir = some w') :
    ∃ q n r n', w.followed.1.task = some (.acquire q .waitNotified) ∧ w.newSocketRx = some n ∧
      Broadcast.recv notifierCapacity w.sent n = some (r, n') ∧
      ((∃ k, r = .value k ∧ concerns q.resolvedRoute k = false ∧
          w' = { w with newSocketRx := some n' }) ∨
        Watch.follow dir { w with newSocketRx := some n' } (.task .own .notified) = some w') := by
  unfold Watch.recv at h
  split at h
  · rename_i q n htask hn
    split at h
    · rename_i k n' hrecv
      refine ⟨q, n, _, n', htask, hn, hrecv, ?_⟩
      split_ifs at h with hk
      · exact .inr h
      · cases h
        exact .inl ⟨k, rfl, by simpa using hk, rfl⟩
    · rename_i n' hrecv
      exact ⟨q, n, _, n', htask, hn, hrecv, .inr h⟩
    · cases h
  · cases h

theorem Alert.step {w w' : Watch} {a : WatchLabel} (h : Alert dir w)
    (hstep : watchStep dir w a = some w') : Alert dir w' := by
  cases a with
  | farm a =>
      simp only [watchStep] at hstep
      split_ifs at hstep with hadmits
      cases hbegins : beginsPass w.followed.1 a with
      | false => exact h.within hbegins hstep
      | true =>
          have hsome : w.newSocketRx.isSome = true := by
            unfold beginsPass at hbegins
            split at hbegins
            · simp only [Watch.admits, Bool.and_eq_true] at hadmits
              exact hadmits.1
            · cases hbegins
          exact Alert.begin h.reachable hsome h.position hbegins hstep
  | subscribe =>
      simp only [watchStep] at hstep
      split_ifs at hstep with hnone
      cases hstep
      exact h.subscribe (by simpa using hnone)
  | recv =>
      obtain ⟨q, n, r, n', htask, hn, hrecv, hcase⟩ := recv_cases hstep
      rcases hcase with ⟨k, rfl, hother, rfl⟩ | hfollow
      · rcases Broadcast.recv_cases hrecv with ⟨hlag, -⟩ | ⟨v, hv, -, hk, rfl⟩
        · cases hlag
        · cases hv
          exact h.pass htask hn hk hother
      · refine Alert.begin (w := { w with newSocketRx := some n' }) h.reachable rfl ?_ ?_ hfollow
        · intro m hm
          cases hm
          exact Broadcast.recv_le hrecv
        · simp [beginsPass, htask, AcquirePc.inPass]
  | notify i =>
      obtain ⟨k, hk, rfl⟩ := Option.map_eq_some_iff.mp hstep
      exact h.notify hk

private theorem alert_of_reachable {w : Watch} (h : (watching dir).Reachable Machine.anyAction w) :
    Alert dir w := by
  apply h.invariant (P := Alert dir)
  · intro w hinit
    obtain ⟨hfollowed, hsent, hrx, hbefore⟩ := hinit
    have hmain : ¬w.Begun := by
      obtain ⟨⟨-, q, htask⟩, -⟩ := hfollowed
      exact fun hbegun => hbegun q htask
    refine ⟨⟨w.followed, hfollowed, .refl⟩, by simp [hbefore], by simp [hrx],
      fun hb => absurd hb hmain, fun hb => absurd hb hmain, fun hb => absurd hb hmain,
      fun hb => absurd hb hmain⟩
  · intro w a w' hw _ hstep
    exact hw.step hstep

/-! ### Waking up -/

private theorem follow_notified (dir : SocketId → RouterSocket) {w : Watch} {q : Acquisition}
    (htask : w.followed.1.task = some (.acquire q .waitNotified)) :
    ∃ w', w.follow dir (.task .own .notified) = some w' ∧
      w'.followed.1.task = some (.acquire q .main) := by
  have hstep : followStep dir w.followed.1 (.task .own .notified) = some
      ⟨w.followed.1.shared, w.followed.1.before, some (.acquire q .main),
        w.followed.1.behind⟩ := by
    simp [followStep, Focus.step, htask, exec, execAcquire]
  unfold Watch.follow
  rw [following_step hstep]
  exact ⟨_, rfl, rfl⟩

/-- The receiver has a notification to read that concerns the acquisition, or it has lagged. -/
def Watch.Wakes (w : Watch) (q : Acquisition) (n : Nat) : Prop :=
  notifierCapacity < w.sent.length - n ∨ ∃ k ∈ w.sent.drop n, concerns q.resolvedRoute k = true

private theorem exists_wake (dir : SocketId → RouterSocket) {w : Watch} {q : Acquisition} {n : Nat}
    (htask : w.followed.1.task = some (.acquire q .waitNotified)) (hn : w.newSocketRx = some n)
    (hwakes : w.Wakes q n) :
    ∃ m w', m ≤ w.sent.length - n ∧
      (watching dir).exec Machine.anyAction w (List.replicate m .recv) = some w' ∧
      w'.followed.1.task = some (.acquire q .main) := by
  induction hleft : w.sent.length - n generalizing w n with
  | zero =>
      rcases hwakes with hlag | ⟨k, hk, -⟩
      · omega
      · rw [List.drop_eq_nil_of_le (by omega)] at hk
        cases hk
  | succ left ih =>
      have hlt : n < w.sent.length := by omega
      obtain ⟨⟨r, n'⟩, hrecv⟩ := Broadcast.exists_recv notifierCapacity hlt
      -- a turn that lets the acquisition begin another pass
      have hone : w.recv dir =
          Watch.follow dir { w with newSocketRx := some n' } (.task .own .notified) →
          ∃ m w', m ≤ left + 1 ∧
            (watching dir).exec Machine.anyAction w (List.replicate m .recv) = some w' ∧
            w'.followed.1.task = some (.acquire q .main) := by
        intro heq
        obtain ⟨w', hw', hmain⟩ :=
          follow_notified dir (w := { w with newSocketRx := some n' }) htask
        refine ⟨1, w', by omega, ?_, hmain⟩
        have hstep : (watching dir).step w .recv = some w' := heq.trans hw'
        simp [Machine.exec, Machine.anyAction, hstep]
      rcases Broadcast.recv_cases hrecv with ⟨rfl, -, -⟩ | ⟨k, rfl, hlag, hk, rfl⟩
      · exact hone (by simp [Watch.recv, htask, hn, hrecv])
      · cases hother : concerns q.resolvedRoute k with
        | true => exact hone (by simp [Watch.recv, htask, hn, hrecv, hother])
        | false =>
            have hstep : (watching dir).step w .recv =
                some { w with newSocketRx := some (n + 1) } := by
              simp [watching, watchStep, Watch.recv, htask, hn, hrecv, hother]
            have hrest : Watch.Wakes { w with newSocketRx := some (n + 1) } q (n + 1) := by
              rcases hwakes with hlagged | ⟨k', hk', hconcerns⟩
              · exact absurd hlagged hlag
              · rw [List.drop_eq_getElem_cons hlt, List.mem_cons] at hk'
                rw [List.getElem?_eq_getElem hlt, Option.some.injEq] at hk
                rcases hk' with rfl | hk'
                · rw [hk, hother] at hconcerns
                  cases hconcerns
                · exact .inr ⟨k', hk', hconcerns⟩
            obtain ⟨m, w', hm, hexec, hmain⟩ :=
              ih (w := { w with newSocketRx := some (n + 1) }) htask rfl hrest (by simp only; omega)
            refine ⟨m + 1, w', by omega, ?_, hmain⟩
            simpa [List.replicate_succ, Machine.exec, Machine.anyAction, hstep] using hexec

/-- No notification is lost: an acquisition that waits is woken by what was sent already, or it has
nothing to try again for.  Then, unless an announcement is still to be sent, every socket of its
route that was counted had arrived when its last pass began, and every host that was dark then is
still dark. -/
theorem no_wakeup_lost (dir : SocketId → RouterSocket) (w : Watch)
    (h : (watching dir).Reachable Machine.anyAction w) (q : Acquisition)
    (hwaits : w.followed.1.task = some (.acquire q .waitNotified)) :
    (following dir).Reachable Machine.anyAction w.followed ∧
    ((∃ m w', (watching dir).exec Machine.anyAction w (List.replicate m .recv) = some w' ∧
        w'.followed.1.task = some (.acquire q .main)) ∨
      ((∀ s, (dir s).route = q.resolvedRoute → Arrived w.followed.1.pool s →
          .add s .count ∉ w.followed.1.pool.tasks → q.resolvedRoute ∉ w.notifying →
          Arrived w.followed.2.start s) ∧
        ("*" ∉ w.notifying → ∀ ip ∈ darkAddresses w.followed.2.start.shared.darkHosts,
          ip ∈ darkAddresses w.followed.1.shared.darkHosts))) := by
  have halert := alert_of_reachable h
  have hbegun : w.Begun := by
    intro q' hq'
    cases hwaits.symm.trans hq'
  obtain ⟨n, hn⟩ := Option.isSome_iff_exists.mp (halert.subscribed hbegun)
  refine ⟨halert.reachable, ?_⟩
  by_cases hwakes : w.Wakes q n
  · left
    obtain ⟨m, w', -, hexec, hmain⟩ := exists_wake dir hwaits hn hwakes
    exact ⟨m, w', hexec, hmain⟩
  right
  -- nothing that concerns the acquisition was sent since its pass began: not before its receiver,
  -- which would have stopped there, and not behind
  have hquiet : ∀ k, concerns q.resolvedRoute k = true → k ∉ w.sent.drop w.sentBefore := by
    intro k hk hmem
    obtain ⟨i, hi⟩ := List.mem_iff_getElem?.mp hmem
    rw [List.getElem?_drop] at hi
    by_cases hread : w.sentBefore + i < n
    · rw [halert.unread hbegun q _ n hwaits hn _ k (Nat.le_add_right _ _) hread hi] at hk
      cases hk
    · refine hwakes (.inr ⟨k, ?_, hk⟩)
      refine List.mem_iff_getElem?.mpr ⟨w.sentBefore + i - n, ?_⟩
      rw [List.getElem?_drop, Nat.add_sub_cancel' (Nat.le_of_not_lt hread)]
      exact hi
  constructor
  · intro s hroute hs hcount hnotifying
    rcases halert.arrivals hbegun s hs with hs | hs | hs | hs
    · exact hs
    · exact absurd hs hcount
    · exact absurd (hroute ▸ hs) hnotifying
    · exact absurd hs (hquiet _ (by simp [concerns, hroute]))
  · intro hnotifying ip hip
    rcases halert.lights hbegun ip hip with hip | hip | hip
    · exact hip
    · exact absurd hip hnotifying
    · exact absurd hip (hquiet _ (by simp [concerns]))

/-- A pass has gone over two sockets that the filter does not take, and a third one is added and
announced before the acquisition waits. -/
def lateSocket : Watch :=
  (watching ordersDir).run Machine.anyAction ⟨resolvedFollowing, [], [], none, 0⟩
    ([.subscribe] ++
      [.precise false, .go, .go, .go, .verdict false, .go, .go, .go, .go, .verdict false, .go, .go,
        .go, .go, .go].map (fun c => .farm (.task .own c)) ++
      [.farm (.env (.add 3)), .farm (.task (.behind 0) .go), .farm (.task (.behind 0) .go),
        .farm (.task (.behind 0) .go), .notify 0, .farm (.task .own .go)])

theorem no_wakeup_lost_lateSocket :
    lateSocket.followed.1.task =
        some (.acquire ⟨⟨false, false, false⟩, "orders", 0⟩ .waitNotified) ∧
      ∃ m w', (watching ordersDir).exec Machine.anyAction lateSocket
          (List.replicate m .recv) = some w' ∧
        w'.followed.1.task = some (.acquire ⟨⟨false, false, false⟩, "orders", 0⟩ .main) := by
  have hwaits : lateSocket.followed.1.task =
      some (.acquire ⟨⟨false, false, false⟩, "orders", 0⟩ .waitNotified) := by decide +kernel
  have hinit : (watching ordersDir).init ⟨resolvedFollowing, [], [], none, 0⟩ :=
    ⟨init_resolvedFollowing, rfl, rfl, rfl⟩
  have hreach : (watching ordersDir).Reachable Machine.anyAction lateSocket :=
    Machine.reachable_run _ _ hinit _
  refine ⟨hwaits, ?_⟩
  rcases (no_wakeup_lost ordersDir lateSocket hreach _ hwaits).2 with hwoken | ⟨harrived, -⟩
  · exact hwoken
  · have hstart := harrived 3 rfl ⟨by decide +kernel, by decide +kernel⟩ (by decide +kernel)
      (by decide +kernel)
    exact absurd hstart.1 (by decide +kernel)

end CrankerRouter.Farm
