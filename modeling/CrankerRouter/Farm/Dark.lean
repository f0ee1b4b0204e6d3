import CrankerRouter.Lib.Marked
import CrankerRouter.Farm.Conservation

/-!
# Dark mode

Every acquisition is marked with the addresses that were dark when it began and have not been
disabled since.  Whatever loop it chooses a socket in, with whatever snapshot of the dark hosts, the
socket it returns is not at a marked address.
-/

namespace CrankerRouter.Farm

open Lib

variable {dir : SocketId → RouterSocket}

section Calls

/-- A call of `enable_dark_mode` or `disable_dark_mode` that has returned. -/
structure DarkCall where
  address : IpAddr
  enable : Bool
  deriving DecidableEq, Repr

/-- The last call for the address was an enable; calls are listed latest first. -/
def enabledLast (calls : List DarkCall) (a : IpAddr) : Bool :=
  (calls.find? fun call => call.address == a).any DarkCall.enable

def darkByCalls (calls : List DarkCall) : List IpAddr :=
  (calls.map DarkCall.address).filter (enabledLast calls)

def Env.darkCall : Env → Option DarkCall
  | .enableDarkMode host => some ⟨host.address, true⟩
  | .disableDarkMode host => some ⟨host.address, false⟩
  | _ => none

/-- A mark loses the address that is disabled. -/
def Env.remark (e : Env) (mark : List IpAddr) : List IpAddr :=
  match e with
  | .disableDarkMode host => mark.filter fun a => !host.sameHost a
  | _ => mark

private theorem mem_darkByCalls {calls : List DarkCall} {a : IpAddr} (h : a ∈ darkByCalls calls) :
    enabledLast calls a = true :=
  (List.mem_filter.mp h).2

private theorem enabledLast_cons (call : DarkCall) (calls : List DarkCall) (a : IpAddr) :
    enabledLast (call :: calls) a =
      if call.address = a then call.enable else enabledLast calls a := by
  by_cases h : call.address = a
  · simp [enabledLast, h]
  · have hbeq : (call.address == a) = false := by simpa using h
    simp [enabledLast, h, hbeq]

end Calls

/-- The farm with marked tasks, and the calls of the dark-mode interface. -/
abbrev DarkRun := Pool WebSocketFarm (Task × List IpAddr) × List DarkCall

def darkStep (dir : SocketId → RouterSocket) (x : DarkRun) : Label → Option DarkRun
  | .task i c => (Pool.step (Pool.inherit (exec dir)) x.1 i c).map fun p => (p, x.2)
  | .env e =>
      if e.enabled dir x.1.erase then
        some (⟨e.apply x.1.shared, x.1.tasks.map (fun t => (t.1, e.remark t.2)) ++
          e.spawned.map fun t => (t, darkByCalls x.2)⟩, e.darkCall.toList ++ x.2)
      else none

def darkMachine (dir : SocketId → RouterSocket) : Machine DarkRun Label where
  init x := x = (⟨.new, []⟩, [])
  step := darkStep dir

section Erasure

private theorem darkStep_erase {x y : DarkRun} {a : Label} (h : darkStep dir x a = some y) :
    step dir x.1.erase a = some y.1.erase := by
  cases a with
  | task i c =>
      obtain ⟨p, hp, rfl⟩ := Option.map_eq_some_iff.mp h
      exact Pool.step_erase hp
  | env e =>
      simp only [darkStep] at h
      split_ifs at h with hen
      obtain rfl := Option.some.inj h
      simp only [step, if_pos hen]
      simp [Pool.erase, Function.comp_def]

private theorem exists_darkStep {x : DarkRun} {p : FarmPool} {a : Label}
    (h : step dir x.1.erase a = some p) :
    ∃ y, darkStep dir x a = some y ∧ y.1.erase = p := by
  cases a with
  | task i c =>
      obtain ⟨p', hstep, herase⟩ := Pool.exists_step_erase h
      exact ⟨(p', x.2), by simp [darkStep, hstep], herase⟩
  | env e =>
      simp only [step] at h
      split_ifs at h with hen
      obtain rfl := Option.some.inj h
      simp only [darkStep, if_pos hen]
      refine ⟨_, rfl, ?_⟩
      simp [Pool.erase, Function.comp_def]

private theorem reachable_erase {x : DarkRun}
    (h : (darkMachine dir).Reachable Machine.anyAction x) :
    (machine dir).Reachable Machine.anyAction x.1.erase := by
  refine h.invariant (P := fun x => (machine dir).Reachable Machine.anyAction x.1.erase) ?_ ?_
  · rintro x rfl
    exact ⟨_, rfl, .refl⟩
  · intro x a y hx _ hstep
    exact hx.next trivial (darkStep_erase hstep)

/-- Every run of the farm can be marked. -/
theorem exists_reachable_erase {p : FarmPool} (h : (machine dir).Reachable Machine.anyAction p) :
    ∃ x, (darkMachine dir).Reachable Machine.anyAction x ∧ p = x.1.erase := by
  refine h.simulates (R := fun p (x : DarkRun) => p = x.1.erase) ?_ ?_
  · rintro p rfl
    exact ⟨(⟨.new, []⟩, []), rfl, rfl⟩
  · rintro p a p' x rfl _ hstep
    obtain ⟨y, hy, rfl⟩ := exists_darkStep hstep
    exact ⟨y, Machine.reach_one hy, rfl⟩

end Erasure

section Marks

def darkAddresses (hosts : List DarkHost) : List IpAddr := hosts.map DarkHost.address

private theorem isDarkModeOn_iff (rs : RouterSocket) (hosts : List DarkHost) :
    rs.isDarkModeOn hosts = true ↔ rs.remoteIp ∈ darkAddresses hosts := by
  unfold RouterSocket.isDarkModeOn darkAddresses DarkHost.sameHost
  rw [List.any_eq_true, List.mem_map]
  constructor
  · rintro ⟨host, hmem, heq⟩
    exact ⟨host, hmem, by simpa using heq⟩
  · rintro ⟨host, hmem, heq⟩
    exact ⟨host, hmem, by simpa using heq⟩

/-- In the fallback loops the snapshot covers the mark. -/
def FallbackPc.Avoids (dir : SocketId → RouterSocket) (mark : List IpAddr) : FallbackPc → Prop
  | .start _ => True
  | .catchAll hosts _ => mark ⊆ darkAddresses hosts
  | .drain d | .upgrade d _ | .checkRemoved d _ => mark ⊆ darkAddresses d.darkHosts
  | .flush d pick => mark ⊆ darkAddresses d.darkHosts ∧ ∀ s ∈ pick, (dir s).remoteIp ∉ mark

/-- What the acquisition has chosen is not at a marked address. -/
def Task.Avoids (dir : SocketId → RouterSocket) (mark : List IpAddr) : Task → Prop
  | .acquire _ (.scan (.putBack s .handOut)) => (dir s).remoteIp ∉ mark
  | .acquire _ (.fallback pc) => pc.Avoids dir mark
  | _ => True

variable {f f' : WebSocketFarm} {t : Task} {ts : List Task} {mark : List IpAddr}

private theorem avoids_of_not_acquire (h : ∀ q pc, t ≠ .acquire q pc) : t.Avoids dir mark := by
  cases t with
  | acquire q pc => exact absurd rfl (h q pc)
  | _ => trivial

private theorem AcquireMove.avoids {q : Acquisition} {pc : AcquirePc} {c : Choice}
    (h : AcquireMove dir f q pc c f' ts) (hdark : mark ⊆ darkAddresses f.darkHosts)
    (ht : Task.Avoids dir mark (.acquire q pc)) :
    f'.darkHosts = f.darkHosts ∧ (∀ u ∈ ts, u.Avoids dir mark) ∧
      ∀ s, f'.returned = s :: f.returned → (dir s).remoteIp ∉ mark := by
  have hlit : ∀ {s hosts}, (dir s).isDarkModeOn hosts = false → mark ⊆ darkAddresses hosts →
      (dir s).remoteIp ∉ mark := by
    intro s hosts hoff hsub hmem
    rw [(isDarkModeOn_iff _ _).mpr (hsub hmem)] at hoff
    cases hoff
  have hkept : ∀ s, f.returned = s :: f.returned → (dir s).remoteIp ∉ mark := by
    intro s hs
    exact absurd (congrArg List.length hs) (by simp)
  have hhanded : ∀ s u, u :: f.returned = s :: f.returned → u = s := by
    intro s u hs
    exact (List.cons.inj hs).1
  cases h with
  | pickV3 s visited precise hoff hdomain hv =>
      refine ⟨rfl, ?_, hkept⟩
      simpa [Task.Avoids] using hlit hoff hdark
  | pickV1 s visited precise hoff hdomain hv =>
      refine ⟨rfl, by simp, ?_⟩
      intro u hu
      obtain rfl := hhanded u s hu
      exact hlit hoff hdark
  | putBackPicked s c =>
      refine ⟨rfl, by simp, ?_⟩
      intro u hu
      obtain rfl := hhanded u s hu
      exact ht
  | startFirst timedOut c hfirst =>
      refine ⟨rfl, ?_, hkept⟩
      simpa [Task.Avoids, FallbackPc.Avoids] using hdark
  | startCatchAll timedOut c hfirst =>
      refine ⟨rfl, ?_, hkept⟩
      simpa [Task.Avoids, FallbackPc.Avoids] using hdark
  | drainPick d s c hr hoff =>
      refine ⟨rfl, ?_, hkept⟩
      have hsub : mark ⊆ darkAddresses d.darkHosts := ht
      simpa [Task.Avoids, FallbackPc.Avoids] using ⟨hsub, hlit hoff hsub⟩
  | drainEmpty d c hc =>
      refine ⟨rfl, ?_, hkept⟩
      have hsub : mark ⊆ darkAddresses d.darkHosts := ht
      simpa [Task.Avoids, FallbackPc.Avoids] using hsub
  | flushNext d c hs hstage =>
      refine ⟨rfl, ?_, hkept⟩
      simpa [Task.Avoids, FallbackPc.Avoids] using ht.1
  | flushV3 d s c hs hv | flushV1 d s c hs hv =>
      refine ⟨rfl, by simp, ?_⟩
      intro u hu
      obtain rfl := hhanded u s hu
      exact ht.2 s rfl
  | catchAll hosts timedOut c ch hallow hch | drainTake d c s rest hc | drainDead d s c ha
  | drainAlive d s c ha | drainRemoved d s c hr | drainDark d s c hr hoff
  | flushOne d pick c s rest hs =>
      refine ⟨rfl, ?_, hkept⟩
      simpa [Task.Avoids, FallbackPc.Avoids] using ht
  | _ => exact ⟨rfl, by simp [Task.Avoids, FallbackPc.Avoids], hkept⟩

theorem Transition.darkHosts {c : Choice} (h : Transition dir f t c f' ts)
    (ht : t.isAcquisition = false) : f'.darkHosts = f.darkHosts := by
  cases h with
  | acquisition hacq => simp [ht] at hacq
  | addSend s c =>
      unfold WebSocketFarm.openChan
      split <;> rfl
  | addCount | decrement | closeCount => exact addIdle_darkHosts f _
  | _ => rfl

/-- No task but the acquisitions hands out, and none writes the dark hosts. -/
theorem exec_avoids {c : Choice} (h : exec dir f t c = some (f', ts))
    (hdark : mark ⊆ darkAddresses f.darkHosts) (ht : t.Avoids dir mark) :
    f'.darkHosts = f.darkHosts ∧ (∀ u ∈ ts, u.Avoids dir mark) ∧
      ∀ s, f'.returned = s :: f.returned → (dir s).remoteIp ∉ mark := by
  have hkept : f'.returned = f.returned →
      ∀ s, f'.returned = s :: f.returned → (dir s).remoteIp ∉ mark := by
    intro heq s hs
    exact absurd (congrArg List.length (heq.symm.trans hs)) (by simp)
  have hbooks : t.isAcquisition = false → (∀ u ∈ ts, u.Avoids dir mark) ∧
      ∀ s, f'.returned = s :: f.returned → (dir s).remoteIp ∉ mark := by
    intro hacq
    obtain ⟨hret, hts⟩ := (exec_transition h).of_not_acquisition hacq
    refine ⟨?_, hkept hret⟩
    intro u hu
    rcases hts with rfl | ⟨v, rfl, hv⟩
    · cases hu
    · obtain rfl : u = v := by simpa using hu
      refine avoids_of_not_acquire ?_
      rintro q pc rfl
      cases hv
  cases t with
  | acquire q pc => exact (execAcquire_move h).avoids hdark ht
  | resolve config =>
      rcases execResolve_cases h with ⟨s, -, -, rfl, rfl⟩ | ⟨k, -, -, rfl, rfl⟩ |
          ⟨k, ch, -, -, rfl, rfl⟩ <;>
        exact ⟨rfl, by simp [Task.Avoids], hkept rfl⟩
  | putBack c' s =>
      simp only [exec, Option.some.injEq, Prod.mk.injEq] at h
      obtain ⟨rfl, rfl⟩ := h
      exact ⟨rfl, by simp, hkept rfl⟩
  | _ => exact ⟨(exec_transition h).darkHosts rfl, hbooks rfl⟩

end Marks

section Runs

/-- The invariant of marked runs. -/
structure Spared (dir : SocketId → RouterSocket) (x : DarkRun) : Prop where
  nodup : (darkAddresses x.1.shared.darkHosts).Nodup
  calls : ∀ a, a ∈ darkAddresses x.1.shared.darkHosts ↔ enabledLast x.2 a = true
  marks : ∀ t ∈ x.1.tasks, t.2 ⊆ darkAddresses x.1.shared.darkHosts
  avoids : ∀ t ∈ x.1.tasks, t.1.Avoids dir t.2

theorem darkAddresses_enable (f : WebSocketFarm) (host : DarkHost) :
    darkAddresses ((Env.enableDarkMode host).apply f).darkHosts =
      if host.address ∈ darkAddresses f.darkHosts then darkAddresses f.darkHosts
      else host.address :: darkAddresses f.darkHosts := by
  have hany : (f.darkHosts.any fun h => h.sameHost host.address) = true ↔
      host.address ∈ darkAddresses f.darkHosts := by
    simp [darkAddresses, DarkHost.sameHost]
  unfold Env.apply
  by_cases hmem : host.address ∈ darkAddresses f.darkHosts
  · rw [if_pos hmem]
    simp only [if_pos (hany.mpr hmem)]
  · rw [if_neg hmem]
    simp only [if_neg fun h => hmem (hany.mp h)]
    rfl

theorem darkAddresses_disable (f : WebSocketFarm) (host : DarkHost) :
    darkAddresses ((Env.disableDarkMode host).apply f).darkHosts =
      (darkAddresses f.darkHosts).filter fun a => !host.sameHost a := by
  unfold Env.apply darkAddresses
  rw [List.filter_map]
  congr 1
  apply List.filter_congr
  intro h _
  simp [DarkHost.sameHost, eq_comm]

private theorem Env.apply_dark (f : WebSocketFarm) (e : Env) {calls : List DarkCall}
    (hnodup : (darkAddresses f.darkHosts).Nodup)
    (hcalls : ∀ a, a ∈ darkAddresses f.darkHosts ↔ enabledLast calls a = true) :
    (darkAddresses (e.apply f).darkHosts).Nodup ∧
      (∀ a, a ∈ darkAddresses (e.apply f).darkHosts ↔
        enabledLast (e.darkCall.toList ++ calls) a = true) ∧
      ∀ mark, mark ⊆ darkAddresses f.darkHosts →
        e.remark mark ⊆ darkAddresses (e.apply f).darkHosts ∧ e.remark mark ⊆ mark := by
  cases e with
  | enableDarkMode host =>
      rw [darkAddresses_enable]
      refine ⟨?_, ?_, ?_⟩
      · split_ifs with hmem
        · exact hnodup
        · exact List.nodup_cons.mpr ⟨hmem, hnodup⟩
      · intro a
        simp only [Env.darkCall, Option.toList_some, List.singleton_append]
        rw [enabledLast_cons]
        by_cases ha : host.address = a
        · subst ha
          rw [if_pos rfl]
          split_ifs with hmem <;> simp [hmem]
        · have hne : a ≠ host.address := fun h => ha h.symm
          rw [if_neg ha, ← hcalls a]
          split_ifs <;> simp [hne]
      · intro mark hsub
        refine ⟨?_, List.Subset.refl _⟩
        intro a ha
        split_ifs
        · exact hsub ha
        · exact List.mem_cons_of_mem _ (hsub ha)
  | disableDarkMode host =>
      rw [darkAddresses_disable]
      refine ⟨hnodup.filter _, ?_, ?_⟩
      · intro a
        simp only [Env.darkCall, Option.toList_some, List.singleton_append]
        rw [enabledLast_cons, List.mem_filter, hcalls a]
        by_cases ha : host.address = a
        · simp [ha, DarkHost.sameHost]
        · simp [ha, DarkHost.sameHost]
      · intro mark hsub
        refine ⟨?_, fun a ha => (List.mem_filter.mp ha).1⟩
        intro a ha
        obtain ⟨hmem, hother⟩ := List.mem_filter.mp ha
        exact List.mem_filter.mpr ⟨hsub hmem, hother⟩
  | _ => exact ⟨hnodup, hcalls, fun mark hsub => ⟨hsub, List.Subset.refl _⟩⟩

theorem FallbackPc.Avoids.mono {mark mark' : List IpAddr} {pc : FallbackPc}
    (h : pc.Avoids dir mark) (hsub : mark' ⊆ mark) : pc.Avoids dir mark' := by
  cases pc with
  | start timedOut => trivial
  | flush d pick => exact ⟨List.Subset.trans hsub h.1, fun s hs hmem => h.2 s hs (hsub hmem)⟩
  | _ => exact List.Subset.trans hsub h

theorem Task.Avoids.mono {mark mark' : List IpAddr} {t : Task} (h : t.Avoids dir mark)
    (hsub : mark' ⊆ mark) : t.Avoids dir mark' := by
  unfold Task.Avoids at h ⊢
  split at h
  · exact fun hmem => h (hsub hmem)
  · exact FallbackPc.Avoids.mono h hsub
  · trivial

private theorem Env.spawned_avoids (e : Env) (mark : List IpAddr) :
    ∀ t ∈ e.spawned, t.Avoids dir mark := by
  cases e <;> simp [Env.spawned, Task.Avoids]

theorem Spared.step {x y : DarkRun} {a : Label} (hx : Spared dir x)
    (h : darkStep dir x a = some y) : Spared dir y := by
  cases a with
  | task i c =>
      obtain ⟨p, hp, rfl⟩ := Option.map_eq_some_iff.mp h
      obtain ⟨l, t, r, f', ts, -, htasks, hinherit, rfl⟩ := Pool.step_cases hp
      obtain ⟨us, hexec, rfl⟩ := Pool.inherit_eq_some hinherit
      have hmem : t ∈ x.1.tasks := by simp [htasks]
      obtain ⟨hsame, hus, -⟩ := exec_avoids hexec (hx.marks t hmem) (hx.avoids t hmem)
      have hold : ∀ u ∈ l ++ us.map (fun u => (u, t.2)) ++ r,
          u ∈ x.1.tasks ∨ u.2 = t.2 ∧ u.1 ∈ us := by
        intro u hu
        rw [htasks]
        simp only [List.mem_append, List.mem_map] at hu
        rcases hu with (hu | ⟨v, hv, rfl⟩) | hu
        · exact .inl (by simp [hu])
        · exact .inr ⟨rfl, hv⟩
        · exact .inl (by simp [hu])
      refine ⟨?_, ?_, ?_, ?_⟩
      · simpa only [hsame] using hx.nodup
      · simpa only [hsame] using hx.calls
      · intro u hu
        simp only [hsame]
        rcases hold u hu with hu | ⟨hmark, -⟩
        · exact hx.marks u hu
        · rw [hmark]
          exact hx.marks t hmem
      · intro u hu
        rcases hold u hu with hu | ⟨hmark, hu⟩
        · exact hx.avoids u hu
        · rw [hmark]
          exact hus u.1 hu
  | env e =>
      simp only [darkStep] at h
      split_ifs at h with hen
      obtain rfl := Option.some.inj h
      obtain ⟨hnodup, hcalls, hmarks⟩ := Env.apply_dark x.1.shared e hx.nodup hx.calls
      -- a new task is marked with the addresses that are dark before the event
      have hfresh : darkByCalls x.2 ⊆ darkAddresses x.1.shared.darkHosts :=
        fun a ha => (hx.calls a).mpr (mem_darkByCalls ha)
      refine ⟨hnodup, hcalls, ?_, ?_⟩
      · intro t ht
        rcases List.mem_append.mp ht with ht | ht
        · obtain ⟨u, hu, rfl⟩ := List.mem_map.mp ht
          exact (hmarks u.2 (hx.marks u hu)).1
        · obtain ⟨u, hu, rfl⟩ := List.mem_map.mp ht
          have hnone : e.apply x.1.shared = x.1.shared ∨ ∃ s, e = .add s := by
            cases e <;> simp_all [Env.spawned, Env.apply]
          rcases hnone with hsame | ⟨s, rfl⟩
          · simpa only [hsame] using hfresh
          · exact hfresh
      · intro t ht
        rcases List.mem_append.mp ht with ht | ht
        · obtain ⟨u, hu, rfl⟩ := List.mem_map.mp ht
          exact (hx.avoids u hu).mono (hmarks u.2 (hx.marks u hu)).2
        · obtain ⟨u, hu, rfl⟩ := List.mem_map.mp ht
          exact e.spawned_avoids _ u hu

private theorem spared_of_reachable {x : DarkRun}
    (h : (darkMachine dir).Reachable Machine.anyAction x) :
    Spared dir x := by
  refine h.invariant (P := Spared dir) ?_ ?_
  · rintro x rfl
    exact ⟨by simp [darkAddresses, WebSocketFarm.new],
      by simp [darkAddresses, WebSocketFarm.new, enabledLast], by simp, by simp⟩
  · intro x a y hx _ hstep
    exact hx.step hstep

end Runs

section Kept

/-- An entry of a socket stays in its channel, or in the hands of an acquisition that took it from
there, as long as the socket lives, is not marked removed and, if V1, has not been handed out. -/
private theorem entry_kept {p p' : FarmPool} (hp : Conserved dir p.shared p.tasks)
    (hreach : (machine dir).Reach Machine.anyAction p p') {c : ChanId} {s : SocketId}
    (hpos : 0 < occurrences p.shared p.tasks c s) (halive : p'.shared.alive s = true)
    (hrem : p'.shared.isRemoved s = false)
    (hout : (dir s).crankerVersion = .v1 → s ∉ p'.shared.returned) :
    0 < occurrences p'.shared p'.tasks c s := by
  have hinv := hreach.invariant (P := fun u : FarmPool => Conserved dir u.shared u.tasks ∧
    (u.shared.alive s = true → u.shared.isRemoved s = false →
      ((dir s).crankerVersion = .v1 → s ∉ u.shared.returned) →
      0 < occurrences u.shared u.tasks c s)) ?_ ⟨hp, fun _ _ _ => hpos⟩
  · exact hinv.2 halive hrem hout
  · rintro u a v ⟨hu, hentry⟩ - hstep
    refine ⟨hu.step hstep, ?_⟩
    intro halive' hrem' hout'
    rcases step_cases dir hstep with
      ⟨i, ch, l, t, r, f, ts, -, -, htasks, hexec, rfl⟩ | ⟨e, -, hen, rfl⟩
    · rw [htasks] at hu hentry
      have he := hu.effect hexec
      have hlive : u.shared.alive s = true := by rw [← he.alive]; exact halive'
      have hunmarked : u.shared.isRemoved s = false := by
        by_contra hmarked
        simp only [Bool.not_eq_false] at hmarked
        rw [he.removed s hmarked] at hrem'
        cases hrem'
      have hbefore := hentry hlive hunmarked fun hv hmem => hout' hv (he.returned_mono hmem)
      rcases (he.conserves_pool (l := l) (r := r) c s).2 with heq | hdead | hmarked | ⟨hv, hmem⟩
      · show 0 < occurrences f (l ++ ts ++ r) c s
        omega
      · rw [hlive] at hdead
        cases hdead
      · rw [hunmarked] at hmarked
        cases hmarked
      · exact absurd hmem (hout' hv)
    · obtain ⟨hchan, hreturned, -⟩ := Env.apply_frame u.shared e
      have hlive : u.shared.alive s = true := by
        rcases Env.apply_alive u.shared e with ⟨v, rfl, hv⟩ | hsame
        · by_contra hdead
          simp only [hv, Function.update_apply] at halive'
          split_ifs at halive'
          exact hdead halive'
        · rw [← hsame]
          exact halive'
      have hunmarked : u.shared.isRemoved s = false := by
        by_contra hmarked
        simp only [Bool.not_eq_false] at hmarked
        rw [Env.apply_isRemoved e hmarked] at hrem'
        cases hrem'
      have hbefore := hentry hlive hunmarked (by rwa [← hreturned])
      simpa [occurrences, hchan, e.spawned_holding] using hbefore

end Kept

section Selectable

/-- Only the task at position `i` takes steps. -/
def onlyTask (i : Nat) (_ : FarmPool) (a : Label) : Prop := ∃ c, a = .task i c

variable {f f' : WebSocketFarm} {q : Acquisition} {s : SocketId}

theorem next_onlyTask {t : Task} {c : Choice} {ts : List Task} (l r : List Task)
    (h : exec dir f t c = some (f', ts)) :
    (machine dir).Next (onlyTask l.length) ⟨f, l ++ t :: r⟩ ⟨f', l ++ ts ++ r⟩ := by
  refine ⟨.task l.length c, ⟨c, rfl⟩, ?_⟩
  simp [machine, step, Pool.step, h]

/-- What a scan reads besides its channel. -/
structure SameView (f f' : WebSocketFarm) : Prop where
  alive : f'.alive = f.alive
  isRemoved : f'.isRemoved = f.isRemoved
  darkHosts : f'.darkHosts = f.darkHosts
  returned : f'.returned = f.returned

private theorem scan_passes (dir : SocketId → RouterSocket) (l r : List Task) {u : SocketId}
    {rest visited : List SocketId}
    (precise : Bool) (hchan : f.chan q.chan = u :: rest) (hu : u ∉ visited) :
    ∃ f' visited' r' post, (machine dir).Reach (onlyTask l.length)
        ⟨f, l ++ .acquire q (.scan (.recv visited precise)) :: r⟩
        ⟨f', l ++ .acquire q (.scan (.recv visited' precise)) :: r'⟩ ∧
      f'.chan q.chan = rest ++ post ∧ visited' ⊆ u :: visited ∧ SameView f f' := by
  have htake : (machine dir).Next (onlyTask l.length)
      ⟨f, l ++ .acquire q (.scan (.recv visited precise)) :: r⟩
      ⟨f.takeHead q.chan, l ++ [.acquire q (.scan (.upgrade u visited precise))] ++ r⟩ :=
    next_onlyTask (c := .go) l r (by simp [exec, execAcquire, execScan, hchan])
  have hrest : (f.takeHead q.chan).chan q.chan = rest := by simp [WebSocketFarm.takeHead, hchan]
  by_cases halive : f.alive u = true
  · have hupgrade : (machine dir).Next (onlyTask l.length)
        ⟨f.takeHead q.chan, l ++ .acquire q (.scan (.upgrade u visited precise)) :: r⟩
        ⟨f.takeHead q.chan,
          l ++ [.acquire q (.scan (.checkRemoved u (u :: visited) precise))] ++ r⟩ :=
      next_onlyTask (c := .go) l r
        (by simp [exec, execAcquire, execScan, WebSocketFarm.takeHead, halive, hu])
    simp only [List.append_assoc, List.singleton_append] at htake hupgrade
    by_cases hrem : f.isRemoved u = true
    · have hremoved : (machine dir).Next (onlyTask l.length)
          ⟨f.takeHead q.chan, l ++ .acquire q (.scan (.checkRemoved u (u :: visited) precise)) :: r⟩
          ⟨f.takeHead q.chan, l ++ [.acquire q (.scan (.recv ((u :: visited).erase u) precise)),
            .remove u .recordTime] ++ r⟩ :=
        next_onlyTask (c := .go) l r
          (by simp [exec, execAcquire, execScan, WebSocketFarm.takeHead, hrem])
      simp only [List.append_assoc, List.cons_append, List.nil_append] at hremoved
      refine ⟨_, _, _, [], ((Relation.ReflTransGen.single htake).tail hupgrade).tail hremoved,
        by simp [hrest], ?_, ⟨rfl, rfl, rfl, rfl⟩⟩
      exact fun v hv => List.mem_of_mem_erase hv
    · have hkept : (machine dir).Next (onlyTask l.length)
          ⟨f.takeHead q.chan, l ++ .acquire q (.scan (.checkRemoved u (u :: visited) precise)) :: r⟩
          ⟨f.takeHead q.chan,
            l ++ [.acquire q (.scan (.checkDark u (u :: visited) precise))] ++ r⟩ :=
        next_onlyTask (c := .go) l r
          (by simp [exec, execAcquire, execScan, WebSocketFarm.takeHead, hrem])
      have hskip : (machine dir).Next (onlyTask l.length)
          ⟨f.takeHead q.chan, l ++ .acquire q (.scan (.checkDark u (u :: visited) precise)) :: r⟩
          ⟨f.takeHead q.chan,
            l ++ [.acquire q (.scan (.putBack u (.recv (u :: visited) precise)))] ++ r⟩ :=
        next_onlyTask (c := .verdict false) l r (by simp [exec, execAcquire, execScan])
      have hback : (machine dir).Next (onlyTask l.length)
          ⟨f.takeHead q.chan,
            l ++ .acquire q (.scan (.putBack u (.recv (u :: visited) precise))) :: r⟩
          ⟨(f.takeHead q.chan).send q.chan u,
            l ++ [.acquire q (.scan (.recv (u :: visited) precise))] ++ r⟩ :=
        next_onlyTask (c := .go) l r (by simp [exec, execAcquire, execScan])
      simp only [List.append_assoc, List.singleton_append] at hkept hskip hback
      refine ⟨_, _, _, [u], ((((Relation.ReflTransGen.single htake).tail hupgrade).tail
        hkept).tail hskip).tail hback, ?_, List.Subset.refl _, ⟨rfl, rfl, rfl, rfl⟩⟩
      simp [WebSocketFarm.send, hrest]
  · have hdead : (machine dir).Next (onlyTask l.length)
        ⟨f.takeHead q.chan, l ++ .acquire q (.scan (.upgrade u visited precise)) :: r⟩
        ⟨f.takeHead q.chan, l ++ [.acquire q (.scan (.recv visited precise))] ++ r⟩ :=
      next_onlyTask (c := .go) l r
        (by simp [exec, execAcquire, execScan, WebSocketFarm.takeHead, halive])
    simp only [List.append_assoc, List.singleton_append] at htake hdead
    exact ⟨_, _, _, [], (Relation.ReflTransGen.single htake).tail hdead, by simp [hrest],
      List.subset_cons_self u visited, ⟨rfl, rfl, rfl, rfl⟩⟩

private theorem scan_takes (l r : List Task) {rest visited : List SocketId} {precise : Bool}
    (hchan : f.chan q.chan = s :: rest) (hs : s ∉ visited) (halive : f.alive s = true)
    (hrem : f.isRemoved s = false) (hlit : (dir s).isDarkModeOn f.darkHosts = false)
    (hdomain : precise = true → (dir s).domain ≠ "*") :
    ∃ f' ts, (machine dir).Reach (onlyTask l.length)
        ⟨f, l ++ .acquire q (.scan (.recv visited precise)) :: r⟩ ⟨f', l ++ ts ++ r⟩ ∧
      f'.returned = s :: f.returned := by
  have htake : (machine dir).Next (onlyTask l.length)
      ⟨f, l ++ .acquire q (.scan (.recv visited precise)) :: r⟩
      ⟨f.takeHead q.chan, l ++ [.acquire q (.scan (.upgrade s visited precise))] ++ r⟩ :=
    next_onlyTask (c := .go) l r (by simp [exec, execAcquire, execScan, hchan])
  have hupgrade : (machine dir).Next (onlyTask l.length)
      ⟨f.takeHead q.chan, l ++ .acquire q (.scan (.upgrade s visited precise)) :: r⟩
      ⟨f.takeHead q.chan,
        l ++ [.acquire q (.scan (.checkRemoved s (s :: visited) precise))] ++ r⟩ :=
    next_onlyTask (c := .go) l r
      (by simp [exec, execAcquire, execScan, WebSocketFarm.takeHead, halive, hs])
  have hkept : (machine dir).Next (onlyTask l.length)
      ⟨f.takeHead q.chan, l ++ .acquire q (.scan (.checkRemoved s (s :: visited) precise)) :: r⟩
      ⟨f.takeHead q.chan, l ++ [.acquire q (.scan (.checkDark s (s :: visited) precise))] ++ r⟩ :=
    next_onlyTask (c := .go) l r
      (by simp [exec, execAcquire, execScan, WebSocketFarm.takeHead, hrem])
  simp only [List.append_assoc, List.singleton_append] at htake hupgrade hkept
  have hchosen := ((Relation.ReflTransGen.single htake).tail hupgrade).tail hkept
  have hwanted : ¬((precise && (dir s).domain == "*") = true) := by simpa using hdomain
  have hlit' : ¬((dir s).isDarkModeOn (f.takeHead q.chan).darkHosts = true) := by
    simp [WebSocketFarm.takeHead, hlit]
  cases hv : (dir s).crankerVersion with
  | v1 =>
      have hpick : (machine dir).Next (onlyTask l.length)
          ⟨f.takeHead q.chan, l ++ .acquire q (.scan (.checkDark s (s :: visited) precise)) :: r⟩
          ⟨(f.takeHead q.chan).handOut s, l ++ [] ++ r⟩ :=
        next_onlyTask (c := .verdict true) l r
          (by simp only [exec, execAcquire, execScan, if_neg hlit', if_neg hwanted, hv, if_true])
      exact ⟨_, _, hchosen.tail hpick, rfl⟩
  | v3 =>
      have hpick : (machine dir).Next (onlyTask l.length)
          ⟨f.takeHead q.chan, l ++ .acquire q (.scan (.checkDark s (s :: visited) precise)) :: r⟩
          ⟨f.takeHead q.chan, l ++ [.acquire q (.scan (.putBack s .handOut))] ++ r⟩ :=
        next_onlyTask (c := .verdict true) l r
          (by simp only [exec, execAcquire, execScan, if_neg hlit', if_neg hwanted, hv, if_true])
      simp only [List.append_assoc, List.singleton_append] at hpick
      exact ⟨_, _, (hchosen.tail hpick).tail (next_onlyTask (c := .go) l r rfl), rfl⟩

/-- A scan that begins can return any socket of its channel that lives, is not marked removed, not
dark, and of a domain the request may have. -/
private theorem scan_selects (l : List Task) {precise : Bool} (pre : List SocketId)
    (hdomain : precise = true → (dir s).domain ≠ "*") :
    ∀ (f : WebSocketFarm) (visited post : List SocketId) (r : List Task),
      f.chan q.chan = pre ++ s :: post → (pre ++ [s]).Nodup → (∀ u ∈ pre ++ [s], u ∉ visited) →
      f.alive s = true → f.isRemoved s = false → (dir s).isDarkModeOn f.darkHosts = false →
      ∃ p, (machine dir).Reach (onlyTask l.length)
        ⟨f, l ++ .acquire q (.scan (.recv visited precise)) :: r⟩ p ∧
        p.shared.returned = s :: f.returned := by
  induction pre with
  | nil =>
      intro f visited post r hchan _ hvis halive hrem hlit
      obtain ⟨f', ts, hreach, hret⟩ := scan_takes l r hchan (hvis s (by simp)) halive hrem hlit
        hdomain
      exact ⟨_, hreach, hret⟩
  | cons u pre ih =>
      intro f visited post r hchan hnodup hvis halive hrem hlit
      obtain ⟨hfirst, hnodup'⟩ := List.nodup_cons.mp hnodup
      obtain ⟨f', visited', r', back, hreach, hchan', hsub, hview⟩ :=
        scan_passes dir l r precise hchan (hvis u (by simp))
      have hvis' : ∀ v ∈ pre ++ [s], v ∉ visited' := by
        intro v hv hmem
        rcases List.mem_cons.mp (hsub hmem) with rfl | hold
        · exact hfirst hv
        · exact hvis v (List.mem_cons_of_mem u hv) hold
      obtain ⟨p, hreach', hret⟩ := ih f' visited' (post ++ back) r' (by simp [hchan']) hnodup'
        hvis' (by rw [hview.alive, halive]) (by rw [hview.isRemoved, hrem])
        (by rw [hview.darkHosts, hlit])
      exact ⟨p, hreach.trans hreach', by rw [hret, hview.returned]⟩

end Selectable

/-- Dark mode in every run: an acquisition that began after `enable_dark_mode` for an address had
returned, with no disable of it since, returns no socket at that address; `dark_hosts` has one entry
for each address and holds those whose last call was an enable; and the entries of a living socket
that is neither removed nor handed out as V1 stay in their channel, where a scan that begins
returns the socket, if its filter wants no other, once its address is not dark. -/
theorem dark_mode_never_leaks (dir : SocketId → RouterSocket) (x : DarkRun)
    (h : (darkMachine dir).Reachable Machine.anyAction x) :
    (∀ i c y t s, darkStep dir x (.task i c) = some y → x.1.tasks[i]? = some t →
      y.1.shared.returned = s :: x.1.shared.returned → (dir s).remoteIp ∉ t.2) ∧
    (darkAddresses x.1.shared.darkHosts).Nodup ∧
    (∀ a, a ∈ darkAddresses x.1.shared.darkHosts ↔ enabledLast x.2 a = true) ∧
    (∀ p' c s, (machine dir).Reach Machine.anyAction x.1.erase p' →
      0 < occurrences x.1.shared x.1.erase.tasks c s → p'.shared.alive s = true →
      p'.shared.isRemoved s = false →
      ((dir s).crankerVersion = .v1 → s ∉ p'.shared.returned) →
      0 < occurrences p'.shared p'.tasks c s) ∧
    ∀ l q precise r s, x.1.erase.tasks = l ++ .acquire q (.scan (.recv [] precise)) :: r →
      s ∈ x.1.shared.chan q.chan → x.1.shared.alive s = true → x.1.shared.isRemoved s = false →
      (precise = true → (dir s).domain ≠ "*") → enabledLast x.2 (dir s).remoteIp = false →
      ∃ p', (machine dir).Reach (onlyTask l.length) x.1.erase p' ∧
        p'.shared.returned = s :: x.1.shared.returned := by
  have hspared := spared_of_reachable h
  have hcons := conserved_of_reachable (reachable_erase h)
  refine ⟨?_, hspared.nodup, hspared.calls, ?_, ?_⟩
  · intro i c y t s hstep hi hret
    obtain ⟨p, hp, rfl⟩ := Option.map_eq_some_iff.mp hstep
    obtain ⟨l, t', r, f, ts, hi', htasks, hinherit, rfl⟩ := Pool.step_cases hp
    obtain rfl : t' = t := Option.some.inj (hi'.symm.trans hi)
    obtain ⟨us, hexec, rfl⟩ := Pool.inherit_eq_some hinherit
    have hmem : t' ∈ x.1.tasks := by simp [htasks]
    exact (exec_avoids hexec (hspared.marks t' hmem) (hspared.avoids t' hmem)).2.2 s hret
  · intro p' c s hreach hpos halive hrem hout
    exact entry_kept hcons hreach hpos halive hrem hout
  · intro l q precise r s htasks hs halive hrem hdomain hoff
    obtain ⟨pre, post, hchan⟩ := List.append_of_mem hs
    have hnodup : (x.1.shared.chan q.chan).Nodup := by
      refine List.nodup_iff_count_le_one.mpr fun u => ?_
      have honce := hcons.once q.chan u
      simp only [occurrences, Pool.erase_shared] at honce
      omega
    have hlit : (dir s).isDarkModeOn x.1.shared.darkHosts = false := by
      refine Bool.eq_false_iff.mpr fun hdark => ?_
      rw [isDarkModeOn_iff, hspared.calls, hoff] at hdark
      cases hdark
    rw [hchan, List.append_cons] at hnodup
    obtain ⟨p', hreach, hret⟩ := scan_selects (q := q) l pre hdomain x.1.shared [] post r hchan
      (List.nodup_append.mp hnodup).1 (by simp) halive hrem hlit
    refine ⟨p', ?_, hret⟩
    rw [show x.1.erase = ⟨x.1.shared, l ++ .acquire q (.scan (.recv [] precise)) :: r⟩ from
      congrArg (Pool.mk x.1.shared) htasks]
    exact hreach

/-- The V3 socket has been added, its address enabled and disabled again, and a scan begins. -/
def litState : DarkRun :=
  (darkMachine ordersDir).run Machine.anyAction (⟨.new, []⟩, [])
    [.env (.add 1), .task 0 .go, .task 0 .go, .task 0 .go,
     .env (.enableDarkMode ⟨1, 0, "maintenance"⟩), .env (.enableDarkMode ⟨1, 7, ""⟩),
     .env (.disableDarkMode ⟨1, 9, "done"⟩),
     .env (.acquire ⟨false, false, false⟩), .task 0 (.route "orders"), .task 0 (.precise false)]

theorem dark_mode_never_leaks_litState :
    ∃ p', (machine ordersDir).Reach (onlyTask 0) litState.1.erase p' ∧
      p'.shared.returned = [1] := by
  have hlit := dark_mode_never_leaks ordersDir litState (Machine.reachable_run _ _ rfl _)
  have hnew : litState.1.shared.returned = [] := by decide +kernel
  have hselect := hlit.2.2.2.2 [] ⟨⟨false, false, false⟩, "orders", 0⟩ false [] 1
    (by decide +kernel) (by decide +kernel) (by decide +kernel) (by decide +kernel) (by simp)
    (by decide +kernel)
  rwa [hnew] at hselect

end CrankerRouter.Farm
