import CrankerRouter.Farm.Pipes

/-!
# No zombie registration

A websocket that closes or fails makes its pipes spawn removals.  A removal marks the socket only
if it finds it in the map, so it must not run before the add task has stored the socket; the V3
close callback marks the socket itself.
-/

namespace CrankerRouter.Farm

open Lib

variable {dir : SocketId → RouterSocket}

/-- A step of a pipe leaves the farm alone, spawns a removal or sets the removal flag. -/
theorem PipeMove.farm {x y : Router} {t t' : Pipe} (h : PipeMove dir x t y t') :
    y.farm = x.farm ∨ step dir x.farm (.env (.remove t.socket)) = some y.farm ∨
      step dir x.farm (.env (.storeRemoved t.socket)) = some y.farm := by
  cases h with
  | act a rest =>
      cases a with
      | pushError =>
          simp only [execAct]
          split <;> exact .inl rfl
      | spawnRemove => exact .inr (.inl rfl)
      | storeRemoved =>
          exact .inr (.inr (by
            simp [step, Env.enabled, Env.apply, Env.spawned, execAct, Router.storeRemoved]))
      | _ => exact .inl rfl
  | _ => exact .inl rfl

/-- Every step of the router is a step of the farm or leaves the farm alone. -/
theorem routerStep_farm {p q : RouterPool} {a : RouterLabel} (h : routerStep dir p a = some q) :
    q.shared.farm = p.shared.farm ∨ ∃ b, step dir p.shared.farm b = some q.shared.farm ∧
      ∀ i c, b = .task i c → a = .farm b := by
  cases a with
  | farm b =>
      simp only [routerStep] at h
      split_ifs at h
      obtain ⟨r, hr, rfl⟩ := Option.map_eq_some_iff.mp h
      exact .inr ⟨b, hr, fun _ _ _ => rfl⟩
  | pipe i c =>
      obtain ⟨l, t, r, x, ts, -, -, hexec, rfl⟩ := Pool.step_cases h
      obtain ⟨t', -, hmove⟩ := execPipe_cases hexec
      rcases hmove.farm with heq | hb | hb
      · exact .inl heq
      · exact .inr ⟨_, hb, by simp⟩
      · exact .inr ⟨_, hb, by simp⟩
  | _ =>
      simp only [routerStep] at h
      split_ifs at h
      obtain rfl := Option.some.inj h
      exact .inl rfl

/-- What holds of the farm in every step of its own holds of the farm of the router. -/
private theorem routerStep_farm_invariant {P : FarmPool → Prop} {p q : RouterPool} {a : RouterLabel}
    (hstep : ∀ f b g, P f → step dir f b = some g → P g) (h : routerStep dir p a = some q)
    (hp : P p.shared.farm) : P q.shared.farm := by
  rcases routerStep_farm h with heq | ⟨b, hb, -⟩
  · rw [heq]
    exact hp
  · exact hstep _ b _ hp hb

/-- The task of the label looks a socket up for removal only after its add task has stored it.
The exceptions do no harm: the socket is marked already, or its V3 close callback will mark it. -/
def looksUpAfterAdd (dir : SocketId → RouterSocket) (p : RouterPool) : RouterLabel → Bool
  | .farm (.task i _) =>
      match p.shared.farm.tasks[i]? with
      | some (.remove s .lookup) =>
          (decide (s ∈ p.shared.farm.shared.added) &&
            !decide (Task.add s .insert ∈ p.shared.farm.tasks)) ||
          p.shared.farm.shared.isRemoved s ||
          ((dir s).crankerVersion == .v3 && p.shared.closeReceived s)
      | _ => true
  | _ => true

/-- The removal of the socket is certain: it is marked, it will be marked by the V3 close callback,
a removal is on its way, or it has been stored and taken out. -/
def Handled (dir : SocketId → RouterSocket) (x : Router) (s : SocketId) : Prop :=
  x.farm.shared.isRemoved s = true ∨
  ((dir s).crankerVersion = .v3 ∧ x.closeReceived s = true) ∨
  (∃ pc, Task.remove s pc ∈ x.farm.tasks) ∨
  (s ∈ x.farm.shared.added ∧ ¬Registered dir x.farm.shared s ∧
    Task.add s .insert ∉ x.farm.tasks)

private theorem Transition.remove_cases {f f' : WebSocketFarm} {s : SocketId} {pc : RemovePc}
    {c : Choice}
    {ts : List Task} (h : Transition dir f (.remove s pc) c f' ts) :
    (∃ pc', Task.remove s pc' ∈ ts) ∨ f'.isRemoved s = true ∨
      (pc = .lookup ∧ ¬Registered dir f s ∧ f' = f ∧ ts = []) := by
  cases h with
  | acquisition ht => simp [Task.isAcquisition] at ht
  | recordTime | removeFound | decrement => exact .inl ⟨_, List.mem_singleton_self _⟩
  | removeMissing _ _ hreg => exact .inr (.inr ⟨rfl, hreg, rfl, rfl⟩)
  | store => exact .inr (.inl (by simp [WebSocketFarm.setRemoved]))

private theorem step_isRemoved {f g : FarmPool} {b : Label} {s : SocketId}
    (hcons : Conserved dir f.shared f.tasks) (h : step dir f b = some g)
    (hs : f.shared.isRemoved s = true) : g.shared.isRemoved s = true := by
  rcases step_cases dir h with
    ⟨i, c, l, t, r, f', ts, -, -, htasks, hexec, rfl⟩ | ⟨e, -, -, rfl⟩
  · rw [htasks] at hcons
    exact (hcons.effect hexec).removed s hs
  · exact Env.apply_isRemoved e hs

theorem PipeMove.closeReceived {x y : Router} {t t' : Pipe} (h : PipeMove dir x t y t')
    {s : SocketId} (hs : x.closeReceived s = true) : y.closeReceived s = true := by
  cases h with
  | act a rest =>
      cases a with
      | pushError =>
          simp only [execAct]
          split <;> exact hs
      | _ => exact hs
  | close => by_cases hts : s = t.socket <;> simp [hts, hs]
  | _ => exact hs

private theorem routerStep_closeReceived {p q : RouterPool} {a : RouterLabel} {s : SocketId}
    (h : routerStep dir p a = some q) (hs : p.shared.closeReceived s = true) :
    q.shared.closeReceived s = true := by
  rcases routerStep_cases h with ⟨-, g, hq⟩ | ⟨u, -, -, hq⟩ | ⟨u, acts, -, hq, -⟩ |
    ⟨l, t, r, x, t', -, hmove, rfl⟩
  · rw [hq]
    exact hs
  · rw [hq]
    exact hs
  · rw [hq]
    exact hs
  · exact hmove.closeReceived hs

theorem Handled.step {p q : RouterPool} {a : RouterLabel} {s : SocketId}
    (hcons : Conserved dir p.shared.farm.shared p.shared.farm.tasks)
    (h : routerStep dir p a = some q) (hok : looksUpAfterAdd dir p a = true)
    (hs : Handled dir p.shared s) : Handled dir q.shared s := by
  have hclosed : (dir s).crankerVersion = .v3 ∧ p.shared.closeReceived s = true →
      Handled dir q.shared s := fun hcl => .inr (.inl ⟨hcl.1, routerStep_closeReceived h hcl.2⟩)
  rcases routerStep_farm h with heq | ⟨b, hb, htask⟩
  · rcases hs with hrem | hcl | hpc | hdone
    · exact .inl (heq ▸ hrem)
    · exact hclosed hcl
    · exact .inr (.inr (.inl (heq ▸ hpc)))
    · exact .inr (.inr (.inr (heq ▸ hdone)))
  · have hmarked : p.shared.farm.shared.isRemoved s = true → Handled dir q.shared s :=
      fun hrem => .inl (step_isRemoved hcons hb hrem)
    have hdone : s ∈ p.shared.farm.shared.added ∧ ¬Registered dir p.shared.farm.shared s ∧
        Task.add s .insert ∉ p.shared.farm.tasks → Handled dir q.shared s :=
      fun hd => .inr (.inr (.inr (unregistered_step hcons hb hd.1 hd.2.1 hd.2.2)))
    rcases hs with hrem | hcl | ⟨pc, hpc⟩ | hd
    · exact hmarked hrem
    · exact hclosed hcl
    · rcases step_cases dir hb with
        ⟨i, c, l, t, r, f, ts, rfl, hi, htasks, hexec, hq⟩ | ⟨e, -, -, hq⟩
      · rw [htasks] at hpc
        simp only [List.mem_append, List.mem_cons] at hpc
        by_cases ht : t = .remove s pc
        · subst ht
          rcases (exec_transition hexec).remove_cases with ⟨pc', hpc'⟩ | hrem | ⟨rfl, hreg, -, -⟩
          · exact .inr (.inr (.inl ⟨pc', by simp [hq, hpc']⟩))
          · exact .inl (by rw [hq]; exact hrem)
          · -- The socket is not in the map: its add task must have stored it before.
            obtain rfl := htask i c rfl
            simp only [looksUpAfterAdd, hi, Bool.or_eq_true, Bool.and_eq_true, decide_eq_true_eq,
              Bool.not_eq_true', decide_eq_false_iff_not, beq_iff_eq] at hok
            rcases hok with (⟨hadded, hadd⟩ | hrem) | hcl
            · exact hdone ⟨hadded, hreg, hadd⟩
            · exact hmarked hrem
            · exact hclosed hcl
        · refine .inr (.inr (.inl ⟨pc, ?_⟩))
          rw [hq]
          simp only [List.mem_append]
          rcases hpc with hl | heq | hr
          · exact .inl (.inl hl)
          · exact absurd heq.symm ht
          · exact .inr hr
      · exact .inr (.inr (.inl ⟨pc, by simp [hq, hpc]⟩))
    · exact hdone hd

/-- The removal is certain, or a pipe is about to spawn it. -/
def Firm (dir : SocketId → RouterSocket) (x : Router) (ts : List Pipe) (s : SocketId) : Prop :=
  Handled dir x s ∨ ∃ t ∈ ts, t.socket = s ∧ .spawnRemove ∈ t.todo

/-- Actions that end in a removal as long as the error channel is open. -/
def Act.leadsToRemove : Act → Bool
  | .pushError | .errorUnlessRemoved | .removeUnlessRemoved => true
  | _ => false

/-- The removal is certain, or an error is on its way to the send pipe, which will remove the
socket. -/
def Promised (dir : SocketId → RouterSocket) (x : Router) (ts : List Pipe) (s : SocketId) : Prop :=
  Firm dir x ts s ∨ (∃ n, x.errChan s = some (n + 1)) ∨
    ∃ t ∈ ts, t.socket = s ∧ ∃ a ∈ t.todo, a.leadsToRemove = true

/-- The pipe itself will set the removal flag. -/
def Pipe.marks (t : Pipe) : Prop := .closeUnlessRemoved ∈ t.todo ∨ .storeRemoved ∈ t.todo

/-- The invariant of the pipes. -/
structure Pledged (dir : SocketId → RouterSocket) (x : Router) (ts : List Pipe) : Prop where
  opened : ∀ s n, x.errChan s = some n → s ∈ x.connected
  known : ∀ t ∈ ts, t.socket ∈ x.connected
  closedChan : ∀ s ∈ x.connected, x.errChan s = none → Firm dir x ts s
  closedV1 : ∀ s, (dir s).crankerVersion = .v1 → x.closeReceived s = true → Firm dir x ts s
  closedV3 : ∀ s, (dir s).crankerVersion = .v3 → x.closeReceived s = true →
    x.farm.shared.isRemoved s = true ∨ ∃ t ∈ ts, t.socket = s ∧ t.marks
  left : ∀ t ∈ ts, t.kind = .recv → t.phase ≠ .looping → Promised dir x ts t.socket
  handling : ∀ t ∈ ts, t.kind = .send → t.phase = .leaving →
    .removeUnlessRemoved ∈ t.todo ∨ Firm dir x ts t.socket

private theorem handled_spawnRemove (x : Router) (s : SocketId) : Handled dir (x.spawnRemove s) s :=
  .inr (.inr (.inl ⟨.recordTime, by simp [Router.spawnRemove]⟩))

section Move

variable {x y : Router} {t t' : Pipe}

private theorem PipeMove.socket_eq (h : PipeMove dir x t y t') :
    t'.socket = t.socket ∧ t'.kind = t.kind := by
  cases h <;> exact ⟨rfl, rfl⟩

theorem PipeMove.connected_eq (h : PipeMove dir x t y t') : y.connected = x.connected := by
  cases h with
  | act a rest =>
      cases a with
      | pushError =>
          simp only [execAct]
          split <;> rfl
      | _ => rfl
  | _ => rfl

private theorem PipeMove.firm (h : PipeMove dir x t y t') (hs : .spawnRemove ∈ t.todo) :
    Handled dir y t.socket ∨ .spawnRemove ∈ t'.todo := by
  cases h with
  | act a rest htodo =>
      rw [htodo, List.mem_cons] at hs
      rcases hs with rfl | hs
      · exact .inl (handled_spawnRemove x t.socket)
      · exact .inr (by simp [hs])
  | _ => simp_all

private theorem PipeMove.leads (h : PipeMove dir x t y t')
    (hs : ∃ a ∈ t.todo, a.leadsToRemove = true) :
    x.farm.shared.isRemoved t.socket = true ∨ x.errChan t.socket = none ∨
      (∃ n, y.errChan t.socket = some (n + 1)) ∨ .spawnRemove ∈ t'.todo ∨
      ∃ a ∈ t'.todo, a.leadsToRemove = true := by
  obtain ⟨b, hb, hleads⟩ := hs
  cases h with
  | act a rest htodo =>
      rw [htodo, List.mem_cons] at hb
      rcases hb with rfl | hb
      · cases b with
        | pushError =>
            cases hc : x.errChan t.socket with
            | none => exact .inr (.inl rfl)
            | some n =>
                exact .inr (.inr (.inl ⟨n, by simp [execAct, hc, Router.setErrChan]⟩))
        | errorUnlessRemoved =>
            by_cases hr : x.farm.shared.isRemoved t.socket = true
            · exact .inl hr
            · exact .inr (.inr (.inr (.inr ⟨.pushError, by simp [execAct, hr], rfl⟩)))
        | removeUnlessRemoved =>
            by_cases hr : x.farm.shared.isRemoved t.socket = true
            · exact .inl hr
            · exact .inr (.inr (.inr (.inl (by simp [execAct, hr]))))
        | _ => simp [Act.leadsToRemove] at hleads
      · exact .inr (.inr (.inr (.inr ⟨b, by simp [hb], hleads⟩)))
  | _ => simp_all

theorem PipeMove.errChan (h : PipeMove dir x t y t') {s : SocketId} {n : Nat}
    (hn : x.errChan s = some (n + 1)) :
    (∃ m, y.errChan s = some (m + 1)) ∨ (t.socket = s ∧ ∃ a ∈ t'.todo, a.leadsToRemove = true) ∨
      (t.socket = s ∧ t.kind = .send ∧ t.phase = .leaving ∧ t.todo = []) := by
  cases h with
  | act a rest htodo =>
      cases a with
      | pushError =>
          simp only [execAct]
          by_cases hs : s = t.socket
          · subst hs
            exact .inl ⟨n + 1, by simp [hn, Router.setErrChan]⟩
          · refine .inl ⟨n, ?_⟩
            split <;> simp [Router.setErrChan, hs, hn]
      | _ => exact .inl ⟨n, hn⟩
  | endSend hphase hkind htodo =>
      by_cases hs : s = t.socket
      · exact .inr (.inr ⟨hs.symm, hkind, hphase, htodo⟩)
      · exact .inl ⟨n, by simp [Router.setErrChan, hs, hn]⟩
  | takeError m hm =>
      by_cases hs : s = t.socket
      · exact .inr (.inl ⟨hs.symm, .removeUnlessRemoved, by simp, rfl⟩)
      · exact .inl ⟨n, by simp [Router.setErrChan, hs, hn]⟩
  | _ => exact .inl ⟨n, hn⟩

private theorem PipeMove.errChan_eq (h : PipeMove dir x t y t') (s : SocketId) :
    (∀ n, y.errChan s = some n → ∃ m, x.errChan s = some m) ∧
    (y.errChan s = none → x.errChan s = none ∨
      (t.socket = s ∧ t.kind = .send ∧ t.phase = .leaving ∧ t.todo = [])) := by
  cases h with
  | act a rest htodo =>
      cases a with
      | pushError =>
          simp only [execAct]
          cases hc : x.errChan t.socket with
          | none => exact ⟨fun n hn => ⟨n, hn⟩, .inl⟩
          | some m =>
              by_cases hs : s = t.socket
              · subst hs
                exact ⟨fun _ _ => ⟨m, hc⟩, by simp [Router.setErrChan]⟩
              · simp only [Router.setErrChan, Function.update_of_ne hs]
                exact ⟨fun n hn => ⟨n, hn⟩, .inl⟩
      | _ => exact ⟨fun n hn => ⟨n, hn⟩, .inl⟩
  | endSend hphase hkind htodo =>
      by_cases hs : s = t.socket
      · exact ⟨by simp [Router.setErrChan, hs], fun _ => .inr ⟨hs.symm, hkind, hphase, htodo⟩⟩
      · simp only [Router.setErrChan, Function.update_of_ne hs]
        exact ⟨fun n hn => ⟨n, hn⟩, .inl⟩
  | takeError m hm =>
      by_cases hs : s = t.socket
      · subst hs
        exact ⟨fun _ _ => ⟨m + 1, hm⟩, by simp [Router.setErrChan]⟩
      · simp only [Router.setErrChan, Function.update_of_ne hs]
        exact ⟨fun n hn => ⟨n, hn⟩, .inl⟩
  | _ => exact ⟨fun n hn => ⟨n, hn⟩, .inl⟩

private theorem PipeMove.closeReceived_cases (h : PipeMove dir x t y t') {s : SocketId}
    (hs : y.closeReceived s = true) :
    x.closeReceived s = true ∨ (t.socket = s ∧
      ((dir s).crankerVersion = .v1 → .spawnRemove ∈ t'.todo) ∧
      ((dir s).crankerVersion = .v3 → t'.marks)) := by
  cases h with
  | act a rest htodo =>
      cases a with
      | pushError =>
          simp only [execAct] at hs
          split at hs <;> exact .inl hs
      | _ => exact .inl hs
  | close errors after =>
      by_cases hts : s = t.socket
      · subst hts
        exact .inr ⟨rfl, fun hv => by simp [hv, onClose], fun hv => by simp [hv, onClose, Pipe.marks]⟩
      · exact .inl (by simpa [hts] using hs)
  | _ => exact .inl hs

/-- The close callback of V3 marks the socket, or finds it marked. -/
theorem PipeMove.marks (h : PipeMove dir x t y t') (hm : t.marks)
    (hremoved : ∀ s, x.farm.shared.isRemoved s = true → y.farm.shared.isRemoved s = true) :
    y.farm.shared.isRemoved t.socket = true ∨ t'.marks := by
  cases h with
  | act a rest htodo =>
      simp only [Pipe.marks, htodo, List.mem_cons] at hm
      have hrest : .closeUnlessRemoved ∈ rest ∨ .storeRemoved ∈ rest →
          Pipe.marks { t with todo := (execAct dir x t.socket a).2 ++ rest } := by
        rintro (h | h)
        · exact .inl (by simp [h])
        · exact .inr (by simp [h])
      rcases hm with (rfl | hm) | (rfl | hm)
      · by_cases hr : x.farm.shared.isRemoved t.socket = true
        · exact .inl (hremoved _ hr)
        · exact .inr (.inr (by simp [execAct, hr]))
      · exact .inr (hrest (.inl hm))
      · exact .inl (by simp [execAct, Router.storeRemoved, WebSocketFarm.setRemoved])
      · exact .inr (hrest (.inr hm))
  | _ => simp_all [Pipe.marks]

end Move

theorem Firm.mono {x y : Router} {ts us : List Pipe} {s : SocketId}
    (hhandled : Handled dir x s → Handled dir y s) (hts : ∀ t ∈ ts, t ∈ us)
    (h : Firm dir x ts s) : Firm dir y us s := by
  rcases h with h | ⟨t, ht, hs⟩
  · exact .inl (hhandled h)
  · exact .inr ⟨t, hts t ht, hs⟩

private theorem Pledged.extend {x y : Router} {ts us : List Pipe} (hp : Pledged dir x ts)
    (hhandled : ∀ s, Handled dir x s → Handled dir y s)
    (hremoved : ∀ s, x.farm.shared.isRemoved s = true → y.farm.shared.isRemoved s = true)
    (hclose : y.closeReceived = x.closeReceived)
    (hchan : ∀ s, y.errChan s = x.errChan s ∨ (s ∉ x.connected ∧ y.errChan s = some 0))
    (hconn : ∀ s, s ∈ x.connected → s ∈ y.connected)
    (hnew : ∀ s, s ∈ y.connected → s ∈ x.connected ∨ y.errChan s = some 0)
    (hus : ∀ t ∈ us, t.socket ∈ y.connected ∧ (t.kind = .recv → t.phase = .looping) ∧
      (t.kind = .send → t.phase = .looping))
    (hopened : ∀ s, y.errChan s = some 0 → s ∈ y.connected) : Pledged dir y (ts ++ us) := by
  have hsub : ∀ t ∈ ts, t ∈ ts ++ us := fun t ht => by simp [ht]
  have hfirm : ∀ s, Firm dir x ts s → Firm dir y (ts ++ us) s := fun s =>
    Firm.mono (hhandled s) hsub
  refine ⟨fun s n hn => ?_, fun t ht => ?_, fun s hs hnone => ?_, fun s hv hc => ?_,
    fun s hv hc => ?_, fun t ht hk hph => ?_, fun t ht hk hph => ?_⟩
  · rcases hchan s with heq | ⟨-, hzero⟩
    · exact hconn s (hp.opened s n (heq ▸ hn))
    · exact hopened s hzero
  · rcases List.mem_append.mp ht with ht | ht
    · exact hconn _ (hp.known t ht)
    · exact (hus t ht).1
  · rcases hnew s hs with hold | hzero
    · rcases hchan s with heq | ⟨-, hzero⟩
      · exact hfirm s (hp.closedChan s hold (heq ▸ hnone))
      · simp [hzero] at hnone
    · simp [hzero] at hnone
  · exact hfirm s (hp.closedV1 s hv (hclose ▸ hc))
  · rcases hp.closedV3 s hv (hclose ▸ hc) with hrem | ⟨t, ht, hs⟩
    · exact .inl (hremoved s hrem)
    · exact .inr ⟨t, hsub t ht, hs⟩
  · rcases List.mem_append.mp ht with ht | ht
    · rcases hp.left t ht hk hph with hf | ⟨n, hn⟩ | ⟨u, hu, hsu, hleads⟩
      · exact .inl (hfirm _ hf)
      · rcases hchan t.socket with heq | ⟨hno, -⟩
        · exact .inr (.inl ⟨n, heq.trans hn⟩)
        · exact absurd (hp.opened _ _ hn) hno
      · exact .inr (.inr ⟨u, hsub u hu, hsu, hleads⟩)
    · exact absurd ((hus t ht).2.1 hk) hph
  · rcases List.mem_append.mp ht with ht | ht
    · rcases hp.handling t ht hk hph with hrem | hf
      · exact .inl hrem
      · exact .inr (hfirm _ hf)
    · simp [(hus t ht).2.2 hk] at hph

section Step

variable {x y : Router} {t t' : Pipe} {l r : List Pipe}

theorem Firm.move (hmove : PipeMove dir x t y t')
    (hhandled : ∀ s, Handled dir x s → Handled dir y s) {s : SocketId}
    (h : Firm dir x (l ++ t :: r) s) : Firm dir y (l ++ t' :: r) s := by
  rcases h with h | ⟨u, hu, rfl, hspawn⟩
  · exact .inl (hhandled s h)
  · simp only [List.mem_append, List.mem_cons] at hu
    by_cases hut : u = t
    · subst hut
      rcases hmove.firm hspawn with h | h
      · exact .inl h
      · exact .inr ⟨t', by simp, hmove.socket_eq.1, h⟩
    · refine .inr ⟨u, ?_, rfl, hspawn⟩
      simp only [List.mem_append, List.mem_cons]
      tauto

private theorem Pledged.promised_move (hp : Pledged dir x (l ++ t :: r))
    (hmove : PipeMove dir x t y t')
    (hhandled : ∀ s, Handled dir x s → Handled dir y s) {s : SocketId}
    (h : Promised dir x (l ++ t :: r) s) : Promised dir y (l ++ t' :: r) s := by
  have hmem : t ∈ l ++ t :: r := by simp
  rcases h with hf | ⟨n, hn⟩ | ⟨u, hu, rfl, hleads⟩
  · exact .inl (hf.move hmove hhandled)
  · rcases hmove.errChan hn with hm | ⟨rfl, hleads⟩ | ⟨rfl, hkind, hphase, htodo⟩
    · exact .inr (.inl hm)
    · exact .inr (.inr ⟨t', by simp, hmove.socket_eq.1, hleads⟩)
    · rcases hp.handling t hmem hkind hphase with hrem | hf
      · simp [htodo] at hrem
      · exact .inl (hf.move hmove hhandled)
  · simp only [List.mem_append, List.mem_cons] at hu
    by_cases hut : u = t
    · subst hut
      rcases hmove.leads hleads with hrem | hnone | hn | hspawn | hlead
      · exact .inl (.inl (hhandled _ (.inl hrem)))
      · exact .inl ((hp.closedChan _ (hp.known u hmem) hnone).move hmove hhandled)
      · exact .inr (.inl hn)
      · exact .inl (.inr ⟨t', by simp, hmove.socket_eq.1, hspawn⟩)
      · exact .inr (.inr ⟨t', by simp, hmove.socket_eq.1, hlead⟩)
    · refine .inr (.inr ⟨u, ?_, rfl, hleads⟩)
      simp only [List.mem_append, List.mem_cons]
      tauto

private theorem Pledged.left_move (hp : Pledged dir x (l ++ t :: r)) (hmove : PipeMove dir x t y t')
    (hhandled : ∀ s, Handled dir x s → Handled dir y s) (hkind : t'.kind = .recv)
    (hphase : t'.phase ≠ .looping) : Promised dir y (l ++ t' :: r) t'.socket := by
  obtain ⟨hsocket, hkind'⟩ := hmove.socket_eq
  by_cases hloop : t.phase = .looping
  · -- The pipe has just left its loop, with a check ahead.
    cases hmove with
    | leaveRecv acts hacts => exact .inr (.inr ⟨_, by simp, rfl, _, hacts, rfl⟩)
    | endSend hph | endOther hph => simp [hph] at hloop
    | takeError _ _ hk | quit _ hk => simp [hk] at hkind
    | act | message | close => exact absurd hloop hphase
  · rw [hsocket]
    exact hp.promised_move hmove hhandled (hp.left t (by simp) (hkind' ▸ hkind) hloop)

private theorem Pledged.handling_move (hp : Pledged dir x (l ++ t :: r))
    (hmove : PipeMove dir x t y t')
    (hhandled : ∀ s, Handled dir x s → Handled dir y s) (hkind : t'.kind = .send)
    (hphase : t'.phase = .leaving) :
    .removeUnlessRemoved ∈ t'.todo ∨ Firm dir y (l ++ t' :: r) t'.socket := by
  have hold : t.kind = .send → t.phase = .leaving →
      .removeUnlessRemoved ∈ t.todo ∨ Firm dir x (l ++ t :: r) t.socket :=
    hp.handling t (by simp)
  cases hmove with
  | act a rest htodo =>
      rcases hold hkind hphase with hrem | hf
      · rw [htodo, List.mem_cons] at hrem
        rcases hrem with rfl | hrem
        · by_cases hr : x.farm.shared.isRemoved t.socket = true
          · exact .inr (.inl (.inl hr))
          · exact .inr (.inr ⟨_, by simp, rfl, by simp [execAct, hr]⟩)
        · exact .inl (by simp [hrem])
      · exact .inr (hf.move (.act a rest htodo) hhandled)
  | takeError => exact .inl (by simp)
  | quit hremoved => exact .inr (.inl (.inl hremoved))
  | endSend | endOther => simp at hphase
  | message _ hph | close _ _ _ hph => simp [hph] at hphase
  | leaveRecv _ _ hk => simp [hk] at hkind

theorem Pledged.move (hp : Pledged dir x (l ++ t :: r)) (hmove : PipeMove dir x t y t')
    (hhandled : ∀ s, Handled dir x s → Handled dir y s)
    (hremoved : ∀ s, x.farm.shared.isRemoved s = true → y.farm.shared.isRemoved s = true) :
    Pledged dir y (l ++ t' :: r) := by
  obtain ⟨hsocket, -⟩ := hmove.socket_eq
  have hrest : ∀ {u}, u ∈ l ++ t' :: r → u = t' ∨ u ∈ l ++ t :: r := by
    intro u hu
    simp only [List.mem_append, List.mem_cons] at hu ⊢
    tauto
  have hfirm : ∀ s, Firm dir x (l ++ t :: r) s → Firm dir y (l ++ t' :: r) s := fun s hf =>
    hf.move hmove hhandled
  refine ⟨fun s n hn => ?_, fun u hu => ?_, fun s hs hnone => ?_, fun s hv hc => ?_,
    fun s hv hc => ?_, fun u hu hk hph => ?_, fun u hu hk hph => ?_⟩
  · obtain ⟨m, hm⟩ := (hmove.errChan_eq s).1 n hn
    exact hmove.connected_eq ▸ hp.opened s m hm
  · rw [hmove.connected_eq]
    rcases hrest hu with rfl | hu
    · exact hsocket ▸ hp.known t (by simp)
    · exact hp.known u hu
  · rw [hmove.connected_eq] at hs
    rcases (hmove.errChan_eq s).2 hnone with hold | ⟨rfl, hkind, hphase, htodo⟩
    · exact hfirm s (hp.closedChan s hs hold)
    · rcases hp.handling t (by simp) hkind hphase with hrem | hf
      · simp [htodo] at hrem
      · exact hfirm _ hf
  · rcases hmove.closeReceived_cases hc with hold | ⟨rfl, hspawn, -⟩
    · exact hfirm s (hp.closedV1 s hv hold)
    · exact .inr ⟨t', by simp, hsocket, hspawn hv⟩
  · rcases hmove.closeReceived_cases hc with hold | ⟨rfl, -, hmarks⟩
    · rcases hp.closedV3 s hv hold with hrem | ⟨u, hu, rfl, hm⟩
      · exact .inl (hremoved s hrem)
      · simp only [List.mem_append, List.mem_cons] at hu
        by_cases hut : u = t
        · subst hut
          rcases hmove.marks hm hremoved with hrem | hm'
          · exact .inl hrem
          · exact .inr ⟨t', by simp, hsocket, hm'⟩
        · refine .inr ⟨u, ?_, rfl, hm⟩
          simp only [List.mem_append, List.mem_cons]
          tauto
    · exact .inr ⟨t', by simp, hsocket, hmarks hv⟩
  · rcases hrest hu with rfl | hu
    · exact hp.left_move hmove hhandled hk hph
    · exact hp.promised_move hmove hhandled (hp.left u hu hk hph)
  · rcases hrest hu with rfl | hu
    · exact hp.handling_move hmove hhandled hk hph
    · rcases hp.handling u hu hk hph with hrem | hf
      · exact .inl hrem
      · exact .inr (hfirm _ hf)

end Step

/-- The invariants of the farm and of the pipes. -/
def RouterInv (dir : SocketId → RouterSocket) (p : RouterPool) : Prop :=
  Conserved dir p.shared.farm.shared p.shared.farm.tasks ∧ Pledged dir p.shared p.tasks

theorem routerStep_conserved {p q : RouterPool} {a : RouterLabel}
    (hp : Conserved dir p.shared.farm.shared p.shared.farm.tasks)
    (h : routerStep dir p a = some q) :
    Conserved dir q.shared.farm.shared q.shared.farm.tasks :=
  routerStep_farm_invariant (P := fun f => Conserved dir f.shared f.tasks)
    (fun _ _ _ hf hb => hf.step hb) h hp

theorem RouterInv.step {p q : RouterPool} {a : RouterLabel} (hp : RouterInv dir p)
    (h : routerStep dir p a = some q) (hok : looksUpAfterAdd dir p a = true) :
    RouterInv dir q := by
  obtain ⟨hcons, hpl⟩ := hp
  refine ⟨routerStep_conserved hcons h, ?_⟩
  have hhandled : ∀ s, Handled dir p.shared s → Handled dir q.shared s := fun s =>
    Handled.step hcons h hok
  have hremoved : ∀ s, p.shared.farm.shared.isRemoved s = true →
      q.shared.farm.shared.isRemoved s = true := by
    intro s hs
    rcases routerStep_farm h with heq | ⟨b, hb, -⟩
    · rw [heq]
      exact hs
    · exact step_isRemoved hcons hb hs
  rcases routerStep_cases h with ⟨htasks, g, hq⟩ | ⟨u, hu, htasks, hq⟩ | ⟨u, acts, hu, hq, htasks⟩ |
    ⟨l, t, r, x, t', htasks, hmove, rfl⟩
  · rw [htasks, ← List.append_nil p.tasks]
    exact hpl.extend hhandled hremoved (by rw [hq]) (fun s => .inl (by rw [hq]))
      (fun s hs => by rw [hq]; exact hs) (fun s hs => .inl (by rw [hq] at hs; exact hs)) (by simp)
      (fun s hs => by rw [hq] at hs ⊢; exact hpl.opened s 0 hs)
  · rw [htasks]
    have hchan : ∀ s, q.shared.errChan s = if s = u then some 0 else p.shared.errChan s := by
      intro s
      by_cases hs : s = u <;> simp [hq, Router.setErrChan, hs]
    have hconn : q.shared.connected = u :: p.shared.connected := by rw [hq]
    refine hpl.extend hhandled hremoved (by rw [hq]; rfl) (fun s => ?_) (fun s hs => ?_)
      (fun s hs => ?_) ?_ (fun s hs => ?_)
    · rw [hchan]
      split
      · rename_i hs
        exact .inr ⟨hs ▸ hu, rfl⟩
      · exact .inl rfl
    · simp [hconn, hs]
    · rw [hconn, List.mem_cons] at hs
      rcases hs with rfl | hs
      · exact .inr (by simp [hchan])
      · exact .inl hs
    · simp [hconn]
    · rw [hchan] at hs
      split at hs
      · rename_i hsu
        simp [hconn, hsu]
      · simp [hconn, hpl.opened s 0 hs]
  · rw [htasks]
    exact hpl.extend hhandled hremoved (by rw [hq]) (fun s => .inl (by rw [hq]))
      (fun s hs => by rw [hq]; exact hs) (fun s hs => .inl (by rw [hq] at hs; exact hs))
      (by simp [hq, hu]) (fun s hs => by rw [hq] at hs ⊢; exact hpl.opened s 0 hs)
  · rw [htasks] at hpl
    exact hpl.move hmove hhandled hremoved

private theorem routerInv_of_reachable {p : RouterPool}
    (h : (routerMachine dir).Reachable (fun p a => looksUpAfterAdd dir p a = true) p) :
    RouterInv dir p := by
  refine h.invariant ?_ fun p a q hp hok hstep => hp.step hstep hok
  rintro p rfl
  refine ⟨conserved_new, ?_⟩
  constructor <;> simp [Router.new]

/-- The close or the failure of the websocket has been processed: its close callback has been
called or its receive pipe has returned, its error channel is empty or gone, and no task of the
socket is in a callback. -/
def Processed (p : RouterPool) (s : SocketId) : Prop :=
  (p.shared.closeReceived s = true ∨
    ∃ t ∈ p.tasks, t.socket = s ∧ t.kind = .recv ∧ t.phase = .ended) ∧
  (p.shared.errChan s = none ∨ p.shared.errChan s = some 0) ∧
  ∀ t ∈ p.tasks, t.socket = s → t.todo = []

instance (p : RouterPool) (s : SocketId) : Decidable (Processed p s) :=
  inferInstanceAs (Decidable (_ ∧ _ ∧ _))

private theorem RouterInv.not_registered {p : RouterPool} {s : SocketId} (hp : RouterInv dir p)
    (hdone : Processed p s) (hidle : ∀ t ∈ p.shared.farm.tasks, t.isAcquisition = true) :
    ¬Registered dir p.shared.farm.shared s ∨ p.shared.farm.shared.isRemoved s = true := by
  obtain ⟨-, hpl⟩ := hp
  obtain ⟨hclosed, hempty, htodo⟩ := hdone
  have hv3 : (dir s).crankerVersion = .v3 → p.shared.closeReceived s = true →
      p.shared.farm.shared.isRemoved s = true := by
    intro hv hc
    rcases hpl.closedV3 s hv hc with hrem | ⟨t, ht, hs, hm⟩
    · exact hrem
    · simp [Pipe.marks, htodo t ht hs] at hm
  have hfirm : Firm dir p.shared p.tasks s →
      ¬Registered dir p.shared.farm.shared s ∨ p.shared.farm.shared.isRemoved s = true := by
    rintro ((hrem | ⟨hv, hc⟩ | ⟨pc, hpc⟩ | ⟨-, hreg, -⟩) | ⟨t, ht, hs, hspawn⟩)
    · exact .inr hrem
    · exact .inr (hv3 hv hc)
    · have hacq := hidle _ hpc
      simp [Task.isAcquisition] at hacq
    · exact .inl hreg
    · simp [htodo t ht hs] at hspawn
  rcases hclosed with hc | ⟨t, ht, rfl, hkind, hphase⟩
  · cases hv : (dir s).crankerVersion with
    | v1 => exact hfirm (hpl.closedV1 s hv hc)
    | v3 => exact .inr (hv3 hv hc)
  · rcases hpl.left t ht hkind (by simp [hphase]) with hf | ⟨n, hn⟩ | ⟨u, hu, hsu, a, ha, -⟩
    · exact hfirm hf
    · rcases hempty with h | h <;> simp [h] at hn
    · simp [htodo u hu hsu] at ha

/-- De-registration takes from the map only sockets it has on its list, and neither it nor
`terminate_all` leaves a usable socket behind. -/
def takesListed (dir : SocketId → RouterSocket) (f : FarmPool) (a : Label) : Bool :=
  leavesNothingInUse dir f a &&
    match a with
    | .task i _ =>
        match f.tasks[i]? with
        | some (.deRegister k connectorId (.retain l)) =>
            (socketsOfConnector dir f.shared k connectorId).all fun s => decide (s ∈ l)
        | _ => true
    | .env _ => true

/-- Every added socket stays registered, gets out of use, or is being settled. -/
theorem settled_step {f g : FarmPool} {b : Label} (hcons : Conserved dir f.shared f.tasks)
    (hok : takesListed dir f b = true) (h : step dir f b = some g)
    (hset : ∀ s ∈ f.shared.added, Settled dir f.shared f.tasks s) :
    ∀ s ∈ g.shared.added, Settled dir g.shared g.tasks s := by
  rcases step_cases dir h with
    ⟨i, c, l, t, r, f', ts, rfl, hi, htasks, hexec, rfl⟩ | ⟨e, rfl, -, rfl⟩
  · rw [htasks] at hcons hset
    have heff := hcons.effect hexec
    simp only [takesListed, Bool.and_eq_true, hi] at hok
    have hsettles : Settles dir f.shared t c := by
      refine ⟨?_, ?_, ?_, ?_⟩
      · rintro k connectorId sockets rfl s hs hconn
        have hall := hok.2
        simp only [List.all_eq_true, decide_eq_true_eq] at hall
        exact hall s (List.mem_filter.mpr ⟨hs, by simpa using hconn⟩)
      · rintro k connectorId s rest rfl hactive
        simpa [leavesNothingInUse, hi, hactive] using hok.1
      · rintro force visited k rfl rfl
        simpa [leavesNothingInUse, hi] using hok.1
      · rintro cutOff k rfl
        exact hcons.empty k (hcons.locked (by simp [Task.cleaning]))
    exact fun s hs => (hset s (heff.added ▸ hs)).task (exec_transition hexec) hsettles heff
  · exact settled_env hset

/-- The socket will not be returned again: it is marked and no acquisition has it in hand, or it
is a V1 socket that has been returned. -/
def Retired (dir : SocketId → RouterSocket) (f : FarmPool) (s : SocketId) : Prop :=
  (f.shared.isRemoved s = true ∧ ∀ t ∈ f.tasks, t.picked ≠ some s) ∨
  ((dir s).crankerVersion = .v1 ∧ s ∈ f.shared.returned)

theorem Retired.step {f g : FarmPool} {b : Label} {s : SocketId}
    (hcons : Conserved dir f.shared f.tasks) (h : step dir f b = some g) (hs : Retired dir f s) :
    Retired dir g s ∧ g.shared.returned.count s = f.shared.returned.count s := by
  rcases step_cases dir h with
    ⟨i, c, l, t, r, f', ts, -, -, htasks, hexec, rfl⟩ | ⟨e, -, -, rfl⟩
  · rw [htasks] at hcons
    have heff := hcons.effect hexec
    obtain ⟨hpick, hhanded⟩ := exec_picked hexec
    rcases hs with ⟨hrem, hfree⟩ | ⟨hv, hret⟩
    · rw [htasks] at hfree
      refine ⟨.inl ⟨heff.removed s hrem, fun u hu hus => ?_⟩, ?_⟩
      · simp only [List.mem_append] at hu
        rcases hu with (hu | hu) | hu
        · exact hfree u (by simp [hu]) hus
        · rcases hpick u hu s hus with ht | hno
          · exact hfree t (by simp) ht
          · simp [hrem] at hno
        · exact hfree u (by simp [hu]) hus
      · rcases hhanded with heq | ⟨u, heq, ht⟩
        · exact congrArg (List.count s) heq
        · change f'.returned.count s = _
          rw [heq, List.count_cons_of_ne]
          rintro rfl
          exact hfree t (by simp) ht
    · refine ⟨.inr ⟨hv, heff.returned_mono hret⟩, ?_⟩
      change f'.returned.count s = _
      rcases hcons.handed heff with heq | ⟨u, c', heq, -, hv1⟩
      · rw [heq]
      · rw [heq, List.count_cons_of_ne]
        rintro rfl
        exact (hv1 hv).1 hret
  · obtain ⟨-, hreturned, -⟩ := Env.apply_frame f.shared e
    refine ⟨?_, congrArg (List.count s) hreturned⟩
    rcases hs with ⟨hrem, hfree⟩ | ⟨hv, hret⟩
    · refine .inl ⟨Env.apply_isRemoved e hrem, fun u hu hus => ?_⟩
      rcases List.mem_append.mp hu with hu | hu
      · exact hfree u hu hus
      · cases e <;> simp [Env.spawned] at hu <;> subst hu <;> simp [Task.picked] at hus
    · exact .inr ⟨hv, hreturned.symm ▸ hret⟩

private theorem Retired.never_returned {p q : RouterPool} {s : SocketId}
    (hcons : Conserved dir p.shared.farm.shared p.shared.farm.tasks)
    (hs : Retired dir p.shared.farm s)
    (h : (routerMachine dir).Reach Machine.anyAction p q) :
    q.shared.farm.shared.returned.count s = p.shared.farm.shared.returned.count s := by
  refine (h.invariant (P := fun q => Conserved dir q.shared.farm.shared q.shared.farm.tasks ∧
    Retired dir q.shared.farm s ∧ q.shared.farm.shared.returned.count s =
      p.shared.farm.shared.returned.count s) ?_ ⟨hcons, hs, rfl⟩).2.2
  rintro u a v ⟨hu, hret, hcount⟩ - hstep
  refine ⟨routerStep_conserved hu hstep, ?_⟩
  rcases routerStep_farm hstep with heq | ⟨b, hb, -⟩
  · rw [heq]
    exact ⟨hret, hcount⟩
  · obtain ⟨hret', hcount'⟩ := hret.step hu hb
    exact ⟨hret', hcount'.trans hcount⟩

/-- Removals look up after the add, and nothing else takes usable sockets from the map. -/
def registrationGuard (dir : SocketId → RouterSocket) (p : RouterPool) (a : RouterLabel) : Bool :=
  looksUpAfterAdd dir p a &&
    match a with
    | .farm b => takesListed dir p.shared.farm b
    | _ => true

private theorem settled_of_reachable {p : RouterPool}
    (h : (routerMachine dir).Reachable (fun p a => registrationGuard dir p a = true) p) :
    ∀ s ∈ p.shared.farm.shared.added,
      Settled dir p.shared.farm.shared p.shared.farm.tasks s := by
  refine (h.invariant (P := fun p => Conserved dir p.shared.farm.shared p.shared.farm.tasks ∧
    ∀ s ∈ p.shared.farm.shared.added,
      Settled dir p.shared.farm.shared p.shared.farm.tasks s) ?_ ?_).2
  · rintro p rfl
    exact ⟨conserved_new, by simp [Router.new, WebSocketFarm.new]⟩
  · rintro u a v ⟨hcons, hset⟩ hok hstep
    refine ⟨routerStep_conserved hcons hstep, ?_⟩
    rcases routerStep_farm hstep with heq | ⟨b, hb, htask⟩
    · rw [heq]
      exact hset
    · refine settled_step hcons ?_ hb hset
      cases b with
      | task i c =>
          obtain rfl := htask i c rfl
          simp only [registrationGuard, Bool.and_eq_true] at hok
          exact hok.2
      | env e => rfl

/-- No zombie registration, for V1 and V3 sockets.  In the runs in which a removal looks a socket
up only after its add task has stored it, a socket whose websocket has closed or failed is not
registered or is marked removed once no background task is pending.  If moreover nothing else
takes usable sockets from the map, no acquisition that has not chosen it by then returns it. -/
theorem no_zombie_registration (dir : SocketId → RouterSocket) (p : RouterPool) (s : SocketId)
    (hdone : Processed p s) (hidle : ∀ t ∈ p.shared.farm.tasks, t.isAcquisition = true) :
    ((routerMachine dir).Reachable (fun p a => looksUpAfterAdd dir p a = true) p →
      ¬Registered dir p.shared.farm.shared s ∨ p.shared.farm.shared.isRemoved s = true) ∧
    ((routerMachine dir).Reachable (fun p a => registrationGuard dir p a = true) p →
      s ∈ p.shared.farm.shared.added → (∀ t ∈ p.shared.farm.tasks, t.picked ≠ some s) →
      ∀ q, (routerMachine dir).Reach Machine.anyAction p q →
        q.shared.farm.shared.returned.count s = p.shared.farm.shared.returned.count s) := by
  refine ⟨fun h => (routerInv_of_reachable h).not_registered hdone hidle,
    fun h hadded hfree q hq => ?_⟩
  have hmono : (routerMachine dir).Reachable (fun p a => looksUpAfterAdd dir p a = true) p := by
    refine h.mono fun u a hok => ?_
    simp only [registrationGuard, Bool.and_eq_true] at hok
    exact hok.1
  have hinv := routerInv_of_reachable hmono
  have hgone := hinv.not_registered hdone hidle
  have hretired : Retired dir p.shared.farm s := by
    rcases settled_of_reachable h s hadded with hreg | (hrem | hv1) | ⟨t, ht, hset⟩
    · exact .inl ⟨hgone.resolve_left (not_not_intro hreg), hfree⟩
    · exact .inl ⟨hrem, hfree⟩
    · exact .inr hv1
    · have hacq := hidle t ht
      cases t with
      | resolve | acquire | putBack => exact hset.elim
      | _ => simp [Task.isAcquisition] at hacq
  exact hretired.never_returned hinv.1 hq

/-- The V1 socket is registered, its websocket closes, and its removal runs. -/
def closedV1State : RouterPool :=
  (routerMachine ordersDir).run (fun p a => registrationGuard ordersDir p a = true) ⟨.new, []⟩
    [.connect 0, .farm (.env (.add 0)), .farm (.task 0 .go), .farm (.task 0 .go),
     .farm (.task 0 .go), .pipe 0 (.close 0 0), .pipe 0 .go, .farm (.task 0 (.now 0)),
     .farm (.task 0 .go), .farm (.task 0 .go), .farm (.task 0 .go), .pipe 0 .eof, .pipe 0 .go,
     .pipe 0 .go]

theorem no_zombie_registration_closedV1State :
    0 ∈ closedV1State.shared.farm.shared.added ∧
      (∀ q, (routerMachine ordersDir).Reach Machine.anyAction closedV1State q →
        q.shared.farm.shared.returned.count 0 = 0) := by
  have hadded : 0 ∈ closedV1State.shared.farm.shared.added := by decide +kernel
  have htasks : closedV1State.shared.farm.tasks = [] := by decide +kernel
  have hnone : closedV1State.shared.farm.shared.returned.count 0 = 0 := by decide +kernel
  have hreach : (routerMachine ordersDir).Reachable
      (fun p a => registrationGuard ordersDir p a = true) closedV1State :=
    Machine.reachable_run _ _ rfl _
  refine ⟨hadded, fun q hq => ?_⟩
  rw [← hnone]
  exact (no_zombie_registration ordersDir closedV1State 0 (by decide +kernel)
    (by simp [htasks])).2 hreach hadded (by simp [htasks]) q hq

/-- The add task of the V1 socket runs after every removal that its close has spawned. -/
def zombieV1Run : List RouterLabel :=
  [.connect 0, .pipe 0 (.close 0 0), .pipe 0 .go, .farm (.task 0 (.now 0)), .farm (.task 0 .go),
   .pipe 0 .eof, .pipe 0 .go, .pipe 0 .go, .pipe 0 .go, .pipe 0 .go, .pipe 1 .takeError,
   .pipe 1 .go, .pipe 1 .go, .pipe 1 .go, .farm (.task 0 (.now 1)), .farm (.task 0 .go),
   .farm (.task 0 (.now 2)), .farm (.task 0 .go), .farm (.env (.add 0)), .farm (.task 0 .go),
   .farm (.task 0 .go), .farm (.task 0 .go)]

/-- The same for the V3 socket, whose websocket fails without a close frame. -/
def zombieV3Run : List RouterLabel :=
  [.connect 1, .pipe 0 .fail, .pipe 0 .go, .pipe 0 .go, .pipe 0 .go, .pipe 0 .go,
   .pipe 1 .takeError, .pipe 1 .go, .pipe 1 .go, .pipe 1 .go, .farm (.task 0 (.now 0)),
   .farm (.task 0 .go), .farm (.env (.add 1)), .farm (.task 0 .go), .farm (.task 0 .go),
   .farm (.task 0 .go)]

def zombieState (run : List RouterLabel) : RouterPool :=
  (routerMachine ordersDir).run Machine.anyAction ⟨.new, []⟩ run

/-- The closed socket is registered and not marked, and the next acquisition returns it. -/
theorem zombie_registration :
    (Processed (zombieState zombieV1Run) 0 ∧
      (zombieState zombieV1Run).shared.farm.tasks = [] ∧
      Registered ordersDir (zombieState zombieV1Run).shared.farm.shared 0 ∧
      (zombieState zombieV1Run).shared.farm.shared.isRemoved 0 = false ∧
      (zombieState (zombieV1Run ++ acquireRun.map .farm)).shared.farm.shared.returned = [0]) ∧
    (Processed (zombieState zombieV3Run) 1 ∧
      (zombieState zombieV3Run).shared.farm.tasks = [] ∧
      Registered ordersDir (zombieState zombieV3Run).shared.farm.shared 1 ∧
      (zombieState zombieV3Run).shared.farm.shared.isRemoved 1 = false ∧
      (zombieState (zombieV3Run ++ (acquireRun ++ [Label.task 0 .go]).map
        .farm)).shared.farm.shared.returned = [1]) := by
  decide +kernel

end CrankerRouter.Farm
