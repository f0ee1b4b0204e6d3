import CrankerRouter.Lib.Focus
import CrankerRouter.Farm.Conservation

/-!
# The passes of an acquisition

An acquisition goes over the channel of its route, over what it may fall back to, and then waits
to be notified.  Other acquisitions put sockets back into the channel while it takes them out, and
connectors register.  It is followed here through any interleaving: a socket that it drops is in
no place any more, and one that it has put back ends the loop when it comes again, so the sockets
that have a place bound the length of a pass.
-/

namespace CrankerRouter.Farm

open Lib

variable {dir : SocketId → RouterSocket}

/-! ### Following an acquisition -/

/-- The farm with one task that is followed. -/
abbrev Following := Focus WebSocketFarm Task

inductive FollowLabel
  | task (turn : Focus.Turn) (c : Choice)
  | env (e : Env)
  deriving DecidableEq, Repr

def followStep (dir : SocketId → RouterSocket) (x : Following) : FollowLabel → Option Following
  | .task turn c => Focus.step (exec dir) x turn c
  | .env e =>
      if e.enabled dir x.pool then
        some { x with shared := e.apply x.shared, behind := x.behind ++ e.spawned }
      else none

/-- The acquisition is in a pass: it neither computes `has_precise_match` nor waits to be
notified. -/
def AcquirePc.inPass : AcquirePc → Bool
  | .scan _ | .fallback _ => true
  | .main | .waitNotified => false

/-- The steps of the acquisition in its last pass, and the farm in which the pass began. -/
structure PassLog where
  steps : Nat
  start : FarmPool

def PassLog.note (x : Following) (a : FollowLabel) (log : PassLog) : PassLog :=
  match x.task, a with
  | some (.acquire _ pc), .task .own _ =>
      if pc.inPass then { log with steps := log.steps + 1 } else ⟨0, x.pool⟩
  | _, _ => log

/-- An acquisition from the moment when it has the channel of its route. -/
def following (dir : SocketId → RouterSocket) : Machine (Following × PassLog) FollowLabel :=
  Machine.logged
    { init := fun x => (machine dir).Reachable Machine.anyAction x.pool ∧
        ∃ q, x.task = some (.acquire q .main)
      step := followStep dir }
    ⟨0, ⟨.new, []⟩⟩ PassLog.note

theorem following_step {x : Following × PassLog} {y : Following} {a : FollowLabel}
    (h : followStep dir x.1 a = some y) :
    (following dir).step x a = some (y, x.2.note x.1 a) := by
  simp [following, Machine.logged, h]

/-- Following an acquisition is a run of the farm. -/
theorem followStep_pool {x y : Following} {a : FollowLabel} (h : followStep dir x a = some y) :
    ∃ b, Farm.step dir x.pool b = some y.pool := by
  cases a with
  | task turn c =>
      obtain ⟨i, hi⟩ := Focus.step_pool h
      exact ⟨.task i c, hi⟩
  | env e =>
      refine ⟨.env e, ?_⟩
      simp only [followStep] at h
      split_ifs at h with hen
      cases h
      rw [Farm.step, if_pos hen]
      simp [Focus.pool]

private theorem exists_followStep {x : Following} {p : FarmPool} {a : Label}
    (h : Farm.step dir x.pool a = some p) :
    ∃ b y, followStep dir x b = some y ∧ y.pool = p := by
  cases a with
  | task i c =>
      obtain ⟨turn, y, hy, hp⟩ := Focus.exists_step h
      exact ⟨.task turn c, y, hy, hp⟩
  | env e =>
      simp only [Farm.step] at h
      split_ifs at h with hen
      cases h
      refine ⟨.env e,
        { x with shared := e.apply x.shared, behind := x.behind ++ e.spawned }, ?_, ?_⟩
      · simp [followStep, hen]
      · simp [Focus.pool]

/-! ### Sockets without a place -/

/-- The socket was added and is in no channel, in no hands and not to be sent any more. -/
structure Gone (p : FarmPool) (s : SocketId) : Prop where
  added : s ∈ p.shared.added
  nowhere : ∀ c, occurrences p.shared p.tasks c s = 0
  sent : Pool.total (Task.sending s) p.tasks = 0

private theorem Env.added_subset (f : WebSocketFarm) (e : Env) : ∀ s ∈ f.added, s ∈
    (e.apply f).added := by
  intro s hs
  rcases Env.apply_added f e with ⟨u, -, hadd⟩ | ⟨-, hadd⟩ <;> simp [hadd, hs]

theorem Conserved.added_step {p p' : FarmPool} {a : Label} (hp : Conserved dir p.shared p.tasks)
    (h : Farm.step dir p a = some p') : ∀ s ∈ p.shared.added, s ∈ p'.shared.added := by
  rcases step_cases dir h with ⟨i, c, l, t, r, f, ts, -, -, htasks, hexec, rfl⟩ | ⟨e, -, -, rfl⟩
  · rw [htasks] at hp
    rw [(hp.effect hexec).added]
    exact fun s hs => hs
  · exact e.added_subset p.shared

theorem Gone.step {p p' : FarmPool} {a : Label} {s : SocketId} (hg : Gone p s)
    (hp : Conserved dir p.shared p.tasks) (h : Farm.step dir p a = some p') : Gone p' s := by
  have hadded := hp.added_step h s hg.added
  rcases step_cases dir h with ⟨i, c, l, t, r, f, ts, -, -, htasks, hexec, rfl⟩ | ⟨e, -, hen, rfl⟩
  · rw [htasks] at hp
    have he := hp.effect hexec
    have hnowhere := hg.nowhere
    have hsent := hg.sent
    rw [htasks] at hnowhere hsent
    refine ⟨hadded, ?_, ?_⟩
    · intro ch
      have hle := (he.conserves_pool (l := l) (r := r) ch s).1
      have hsend := he.sending_pool (l := l) (r := r) ch s
      have hzero := hnowhere ch
      simp only
      omega
    · have hsend := he.sending_pool (l := l) (r := r) 0 s
      simp only
      omega
  · obtain ⟨hchan, -⟩ := Env.apply_frame p.shared e
    refine ⟨hadded, ?_, ?_⟩
    · intro ch
      have hzero := hg.nowhere ch
      simpa [occurrences, hchan, Env.spawned_holding] using hzero
    · have hnew : Pool.total (Task.sending s) e.spawned = 0 := by
        cases e <;> simp [Env.spawned, Task.sending]
        rintro rfl
        simp only [Env.enabled, Bool.and_eq_true, Bool.not_eq_true', List.contains_eq_mem,
          decide_eq_false_iff_not] at hen
        exact hen.1 hg.added
      simpa [hnew] using hg.sent

theorem Conserved.gone {f : WebSocketFarm} {l r ts : List Task} {t : Task} {c : ChanId}
    {s : SocketId} (hp : Conserved dir f (l ++ t :: r)) (he : Effect dir f f t ts)
    (hdrop : ∀ c', Pool.total (Task.holding c' s) ts + entry c s c' s = t.holding c' s) :
    Gone ⟨f, l ++ ts ++ r⟩ s ∧ ¬Gone ⟨f, l ++ t :: r⟩ s := by
  have hdropped : ∀ c', occurrences f (l ++ ts ++ r) c' s + entry c s c' s =
      occurrences f (l ++ t :: r) c' s := by
    intro c'
    have hc := hdrop c'
    simp only [occurrences, Pool.total_append, Pool.total_cons]
    omega
  have hself := hdropped c
  rw [entry_self] at hself
  have hpos : 0 < occurrences f (l ++ t :: r) c s := by omega
  have honce := hp.once c s
  have hsend := he.sending_pool (l := l) (r := r) c s
  refine ⟨⟨hp.placeKnown c s hpos, ?_, ?_⟩, ?_⟩
  · intro c'
    show occurrences f (l ++ ts ++ r) c' s = 0
    by_contra hne
    have hc' := hdropped c'
    obtain rfl := hp.home c c' s hpos (by omega)
    omega
  · show Pool.total (Task.sending s) (l ++ ts ++ r) = 0
    omega
  · intro hgone
    have hzero := hgone.nowhere c
    simp only at hzero
    omega

open Classical in
/-- The sockets that the farm knows and that had a place when the pass began, or were added
since. -/
noncomputable def present (start : FarmPool) (f : WebSocketFarm) : Finset SocketId :=
  f.added.toFinset.filter fun s => ¬Gone start s

open Classical in
/-- Those of them that are gone by now. -/
noncomputable def lost (start now : FarmPool) : Finset SocketId :=
  (present start now.shared).filter (Gone now)

section Step

variable {start p p' : FarmPool} {a : Label}

private theorem mem_present {f : WebSocketFarm} {s : SocketId} :
    s ∈ present start f ↔ s ∈ f.added ∧ ¬Gone start s := by
  simp [present]

private theorem mem_lost {s : SocketId} :
    s ∈ lost start p ↔ s ∈ present start p.shared ∧ Gone p s := by
  simp [lost]

private theorem card_lost_le (start p : FarmPool) :
    (lost start p).card ≤ (present start p.shared).card := by
  apply Finset.card_le_card
  intro s hs
  exact (mem_lost.mp hs).1

private theorem present_subset (hp : Conserved dir p.shared p.tasks)
    (h : Farm.step dir p a = some p') :
    present start p.shared ⊆ present start p'.shared := by
  intro s hs
  rw [mem_present] at hs ⊢
  exact ⟨hp.added_step h s hs.1, hs.2⟩

private theorem lost_subset (hp : Conserved dir p.shared p.tasks)
    (h : Farm.step dir p a = some p') :
    lost start p ⊆ lost start p' := by
  intro s hs
  rw [mem_lost] at hs ⊢
  exact ⟨present_subset hp h hs.1, hs.2.step hp h⟩

end Step

/-! ### What a pass may take -/

section Allowance

variable (present lost : Nat)

def Stage.base : Stage → Nat
  | .firstPathMatched => 4
  | .catchAll => 4 * present + 9

/-- The most steps with which a pass comes to a point of the scan loop: five for every socket that
it has visited and put back, or that is lost. -/
def ScanPc.allowance : ScanPc → Nat
  | .recv visited _ => 5 * (lost + visited.length)
  | .upgrade _ visited _ => 5 * (lost + visited.length) + 1
  | .checkRemoved s visited _ => 5 * (lost + (visited.erase s).length) + 2
  | .checkDark s visited _ => 5 * (lost + (visited.erase s).length) + 3
  | .putBack s (.recv visited _) => 5 * (lost + (visited.erase s).length) + 4
  | .putBack _ .fallback | .putBack _ .handOut => 5 * (lost + present) + 2

/-- A drain takes three steps for every socket that it skips, and one to put it back. -/
def FallbackPc.allowance : FallbackPc → Nat
  | .start _ => 5 * (lost + present) + 3
  | .drain d => 5 * (lost + present) + d.stage.base present + 3 * d.skipped.length
  | .upgrade d _ => 5 * (lost + present) + d.stage.base present + 3 * d.skipped.length + 1
  | .checkRemoved d _ => 5 * (lost + present) + d.stage.base present + 3 * d.skipped.length + 2
  | .flush d _ =>
      5 * (lost + present) + d.stage.base present + 3 * present + 3 + (present - d.skipped.length)
  | .catchAll _ _ => 5 * (lost + present) + 4 * present + 8

def AcquirePc.allowance : AcquirePc → Nat
  | .main => 0
  | .scan pc => pc.allowance present lost
  | .fallback pc => pc.allowance present lost
  | .waitNotified => 5 * (lost + present) + 8 * present + 13

/-- With the pass over, or with the acquisition. -/
def passAllowance : Option Task → Nat
  | some (.acquire _ pc) => pc.allowance present lost
  | _ => 5 * (lost + present) + 8 * present + 13

end Allowance

/-- The sockets that a pass has on its list: those visited by the scan, or those skipped by a drain
with the one in its hands. -/
def AcquirePc.collected : AcquirePc → List SocketId
  | .scan (.recv visited _) | .scan (.upgrade _ visited _) | .scan (.checkRemoved _ visited _) =>
      visited
  | .scan (.checkDark _ visited _) | .scan (.putBack _ (.recv visited _)) => visited
  | .fallback (.drain d) | .fallback (.flush d _) => d.skipped
  | .fallback (.upgrade d s) | .fallback (.checkRemoved d s) => d.skipped ++ [s]
  | _ => []

/-- The socket that the scan has visited last and still has in its hands. -/
def AcquirePc.current : AcquirePc → Option SocketId
  | .scan (.checkRemoved s _ _) | .scan (.checkDark s _ _) => some s
  | .scan (.putBack s (.recv _ _)) => some s
  | _ => none

/-- The next step drops the socket in the hands of the acquisition. -/
def AcquirePc.drops (f : WebSocketFarm) : AcquirePc → Bool
  | .scan (.upgrade s _ _) | .fallback (.upgrade _ s) => !f.alive s
  | .scan (.checkRemoved s _ _) | .fallback (.checkRemoved _ s) => f.isRemoved s
  | _ => false

private theorem passAllowance_mono {P P' L L' : Nat} (hP : P ≤ P') (hL : L ≤ L') (t : Option Task) :
    passAllowance P L t ≤ passAllowance P' L' t := by
  have hlimit : 5 * (L + P) + 8 * P + 13 ≤ 5 * (L' + P') + 8 * P' + 13 := by omega
  have hbase : ∀ stage : Stage, stage.base P ≤ stage.base P' := by
    intro stage
    cases stage <;> simp only [Stage.base] <;> omega
  unfold passAllowance
  split
  · rename_i q pc
    cases pc with
    | main => exact le_rfl
    | waitNotified => exact hlimit
    | scan pc =>
        simp only [AcquirePc.allowance]
        fun_cases ScanPc.allowance P L pc <;> simp only [ScanPc.allowance] <;> omega
    | fallback pc =>
        simp only [AcquirePc.allowance]
        cases pc with
        | drain d | upgrade d s | checkRemoved d s | flush d pick =>
            have hd := hbase d.stage
            simp only [FallbackPc.allowance]
            omega
        | start timedOut | catchAll darkHosts timedOut =>
            simp only [FallbackPc.allowance]
            omega
  · exact hlimit

/-- Every step of a pass is within what the pass may take. -/
theorem AcquireMove.pays {f f' : WebSocketFarm} {q : Acquisition} {pc : AcquirePc} {c : Choice}
    {ts : List Task} {P L L' : Nat} (h : AcquireMove dir f q pc c f' ts)
    (hpass : pc.inPass = true) (hL : L ≤ L') (hdrop : pc.drops f = true → L + 1 ≤ L')
    (hcollected : pc.collected.length ≤ P) (hcurrent : ∀ s ∈ pc.current, s ∈ pc.collected) :
    pc.allowance P L + 1 ≤ passAllowance P L' ts.head? := by
  cases h with
  | sweep | enter | notified | waitTimeout | waitCancel => cases hpass
  | dead s visited precise c hdead | drainDead d s c hdead =>
      have hlost := hdrop (by simp [AcquirePc.drops, hdead])
      simp only [List.head?_cons, passAllowance, AcquirePc.allowance, ScanPc.allowance,
        FallbackPc.allowance]
      omega
  | removed s visited precise c hr | drainRemoved d s c hr =>
      have hlost := hdrop (by simp [AcquirePc.drops, hr])
      simp only [List.head?_cons, passAllowance, AcquirePc.allowance, ScanPc.allowance,
        FallbackPc.allowance]
      omega
  | putBack s visited precise c =>
      have hmem : s ∈ visited := hcurrent s rfl
      have hlen := List.length_erase_add_one hmem
      simp only [List.head?_cons, passAllowance, AcquirePc.allowance, ScanPc.allowance]
      omega
  | pickV3 s visited precise | pickV1 s visited precise =>
      have hmem : s ∈ visited := hcurrent s rfl
      have hlen := List.length_erase_add_one hmem
      simp only [AcquirePc.collected] at hcollected
      simp only [List.head?_cons, List.head?_nil, passAllowance, AcquirePc.allowance,
        ScanPc.allowance]
      omega
  | flushNext d c hs hstage | flushTimedOut d c hs hstage | flushWait d c hs hstage =>
      simp only [List.head?_cons, List.head?_nil, passAllowance, AcquirePc.allowance,
        FallbackPc.allowance, Stage.base, hs, hstage, List.length_nil]
      omega
  | flushOne d pick c s rest hs =>
      simp only [AcquirePc.collected, hs, List.length_cons] at hcollected
      simp only [List.head?_cons, passAllowance, AcquirePc.allowance, FallbackPc.allowance, hs,
        List.length_cons]
      omega
  | flushV3 d s c hs | flushV1 d s c hs =>
      have hbase : d.stage.base P ≤ 4 * P + 9 := by
        cases d.stage <;> simp only [Stage.base] <;> omega
      simp only [List.head?_nil, passAllowance, AcquirePc.allowance, FallbackPc.allowance]
      omega
  | _ =>
      simp only [AcquirePc.collected, List.length_append, List.length_cons,
        List.length_nil] at hcollected
      simp only [List.head?_cons, List.head?_nil, passAllowance, AcquirePc.allowance,
        ScanPc.allowance, FallbackPc.allowance, Stage.base, List.erase_cons_head,
        List.length_append, List.length_cons, List.length_nil]
      omega

/-! ### The run of an acquisition -/

/-- The sockets on the list of the acquisition are known, and none is on it twice. -/
structure AcquirePc.Tracked (known : Finset SocketId) (pc : AcquirePc) : Prop where
  nodup : pc.collected.Nodup
  known : ∀ s ∈ pc.collected, s ∈ known
  current : ∀ s ∈ pc.current, s ∈ pc.collected

private theorem AcquirePc.Tracked.of_nil {known : Finset SocketId} {pc : AcquirePc}
    (hcollected : pc.collected = []) (hcurrent : pc.current = none) : pc.Tracked known :=
  ⟨by simp [hcollected], by simp [hcollected], by simp [hcurrent]⟩

theorem AcquirePc.Tracked.length_le {known : Finset SocketId} {pc : AcquirePc}
    (h : pc.Tracked known) : pc.collected.length ≤ known.card := by
  rw [← List.toFinset_card_of_nodup h.nodup]
  apply Finset.card_le_card
  intro s hs
  exact h.known s (List.mem_toFinset.mp hs)

section Held

variable {f : WebSocketFarm} {l r : List Task} {q : Acquisition}

private theorem count_collected_le_holding (q : Acquisition) (pc : FallbackPc) :
    ∃ c, ∀ s, (AcquirePc.fallback pc).collected.count s ≤
      (Task.acquire q (.fallback pc)).holding c s := by
  cases pc with
  | start timedOut | catchAll darkHosts timedOut => exact ⟨0, by simp [AcquirePc.collected]⟩
  | drain d | upgrade d t | checkRemoved d t | flush d pick =>
      refine ⟨d.chan, ?_⟩
      intro s
      simp [AcquirePc.collected, Task.holding, entries, entry, List.count_singleton]

/-- What a task holds is not gone. -/
theorem Conserved.held {t : Task} {c : ChanId} {s : SocketId} (hp : Conserved dir f (l ++ t :: r))
    (h : 0 < t.holding c s) : s ∈ f.added ∧ ¬Gone ⟨f, l ++ t :: r⟩ s := by
  have hpos : 0 < occurrences f (l ++ t :: r) c s := by
    simp only [occurrences, Pool.total_append, Pool.total_cons]
    omega
  refine ⟨hp.placeKnown c s hpos, ?_⟩
  intro hgone
  have hzero := hgone.nowhere c
  simp only at hzero
  omega

private theorem Conserved.tracked_fallback {pc : FallbackPc} {start : FarmPool}
    (hp : Conserved dir f (l ++ .acquire q (.fallback pc) :: r))
    (hsince : ∀ s, Gone start s → Gone ⟨f, l ++ .acquire q (.fallback pc) :: r⟩ s) :
    (AcquirePc.fallback pc).Tracked (present start f) := by
  obtain ⟨c, hcount⟩ := count_collected_le_holding q pc
  refine ⟨?_, ?_, ?_⟩
  · rw [List.nodup_iff_count_le_one]
    intro s
    have honce := hp.once c s
    have hle := hcount s
    simp only [occurrences, Pool.total_append, Pool.total_cons] at honce
    omega
  · intro s hs
    have hpos := (List.count_pos_iff.mpr hs).trans_le (hcount s)
    obtain ⟨hadded, hnot⟩ := hp.held hpos
    exact mem_present.mpr ⟨hadded, fun hgone => hnot (hsince s hgone)⟩
  · intro s hs
    cases hs

end Held

private theorem AcquireMove.tracked {f f' : WebSocketFarm} {q : Acquisition} {pc pc' : AcquirePc}
    {c : Choice} {ts : List Task} {known : Finset SocketId} (h : AcquireMove dir f q pc c f' ts)
    (hpc : pc.Tracked known) (hheld : ∀ s ∈ pc.guarded, s ∈ known)
    (hnext : ts.head? = some (.acquire q pc')) (hscan : ∀ pc'', pc' ≠ .fallback pc'') :
    pc'.Tracked known := by
  cases h with
  | recvCancel | pickV1 | putBackPicked | flushV1 | flushV3 | waitCancel | noneTimedOut
  | flushTimedOut => cases hnext
  | sweep | enter | again | pickV3 | notified | noneWait | flushWait =>
      cases hnext
      exact .of_nil rfl rfl
  | take | dead | putBack =>
      cases hnext
      exact ⟨hpc.nodup, hpc.known, by simp [AcquirePc.current]⟩
  | first s visited precise c ha hv =>
      cases hnext
      refine ⟨List.nodup_cons.mpr ⟨hv, hpc.nodup⟩, ?_, ?_⟩
      · intro u hu
        rcases List.mem_cons.mp hu with rfl | hu
        · exact hheld u rfl
        · exact hpc.known u hu
      · simp [AcquirePc.current, AcquirePc.collected]
  | removed s visited precise c hr =>
      cases hnext
      refine ⟨hpc.nodup.erase s, ?_, by simp [AcquirePc.current]⟩
      intro u hu
      exact hpc.known u (List.mem_of_mem_erase hu)
  | kept | skip =>
      cases hnext
      exact ⟨hpc.nodup, hpc.known, hpc.current⟩
  | _ =>
      cases hnext
      exact absurd rfl (hscan _)

/-- The acquisition that takes a step goes on as itself, or it is over. -/
theorem AcquireMove.followed {f f' : WebSocketFarm} {q : Acquisition} {pc : AcquirePc} {c : Choice}
    {ts : List Task} (h : AcquireMove dir f q pc c f' ts) {t : Task} (ht : ts.head? = some t) :
    ∃ pc', t = .acquire q pc' := by
  cases h with
  | recvCancel | pickV1 | putBackPicked | flushV1 | flushV3 | waitCancel | noneTimedOut
  | flushTimedOut => cases ht
  | _ =>
      cases ht
      exact ⟨_, rfl⟩

private theorem Conserved.gone_of_drops {f f' : WebSocketFarm} {l r ts : List Task}
    {q : Acquisition}
    {pc : AcquirePc} {c : Choice} (hp : Conserved dir f (l ++ .acquire q pc :: r))
    (hexec : exec dir f (.acquire q pc) c = some (f', ts)) (hdrops : pc.drops f = true) :
    ∃ s, s ∈ f.added ∧ Gone ⟨f', l ++ ts ++ r⟩ s ∧ ¬Gone ⟨f, l ++ .acquire q pc :: r⟩ s := by
  have he := hp.effect hexec
  cases execAcquire_move hexec with
  | dead s visited precise c ha =>
      have h := hp.gone (c := q.chan) (s := s) he (by simp [Task.holding])
      exact ⟨s, h.1.added, h⟩
  | removed s visited precise c hr =>
      have h := hp.gone (c := q.chan) (s := s) he (by simp [Task.holding])
      exact ⟨s, h.1.added, h⟩
  | drainDead d s c ha =>
      have h := hp.gone (c := d.chan) (s := s) he (by simp [Task.holding])
      exact ⟨s, h.1.added, h⟩
  | drainRemoved d s c hr =>
      have h := hp.gone (c := d.chan) (s := s) he (by simp [Task.holding])
      exact ⟨s, h.1.added, h⟩
  | again | first | kept | drainAlive | drainDark | drainPick => simp_all [AcquirePc.drops]
  | _ => cases hdrops

/-- The state of a run that follows an acquisition. -/
structure Paced (dir : SocketId → RouterSocket) (x : Following × PassLog) : Prop where
  reachable : (machine dir).Reachable Machine.anyAction x.1.pool
  since : ∀ s, Gone x.2.start s → Gone x.1.pool s
  followed : ∀ t, x.1.task = some t → ∃ q pc, t = .acquire q pc ∧
    pc.Tracked (present x.2.start x.1.shared)
  pace : x.2.steps ≤ passAllowance (present x.2.start x.1.shared).card
    (lost x.2.start x.1.pool).card x.1.task

theorem AcquirePc.Tracked.mono {known known' : Finset SocketId} {pc : AcquirePc}
    (h : pc.Tracked known) (hsub : known ⊆ known') : pc.Tracked known' :=
  ⟨h.nodup, fun s hs => hsub (h.known s hs), h.current⟩

theorem Paced.other {x : Following × PassLog} {y : Following} {a : Label} (h : Paced dir x)
    (hstep : Farm.step dir x.1.pool a = some y.pool) (htask : y.task = x.1.task) :
    Paced dir (y, x.2) := by
  have hp := conserved_of_reachable h.reachable
  have hpresent : present x.2.start x.1.shared ⊆ present x.2.start y.shared :=
    present_subset hp hstep
  refine ⟨h.reachable.next trivial hstep, fun s hs => (h.since s hs).step hp hstep, ?_, ?_⟩
  · intro t ht
    rw [htask] at ht
    obtain ⟨q, pc, rfl, hpc⟩ := h.followed t ht
    exact ⟨q, pc, rfl, hpc.mono hpresent⟩
  · simp only [htask]
    exact h.pace.trans (passAllowance_mono (Finset.card_le_card hpresent)
      (Finset.card_le_card (lost_subset hp hstep)) _)

section Own

variable {x : Following × PassLog} {q : Acquisition} {pc : AcquirePc} {c : Choice}
  {f' : WebSocketFarm} {ts : List Task}

private theorem Paced.tracked_next {start : FarmPool}
    (hp : Conserved dir f' (x.1.before ++ ts ++ x.1.behind))
    (hmove : AcquireMove dir x.1.shared q pc c f' ts)
    (hsince : ∀ s, Gone start s → Gone ⟨f', x.1.before ++ ts ++ x.1.behind⟩ s)
    (hscan : ∀ pc', ts.head? = some (.acquire q pc') → (∀ pc'', pc' ≠ .fallback pc'') →
      pc'.Tracked (present start f')) :
    ∀ t, ts.head? = some t → ∃ q pc, t = .acquire q pc ∧ pc.Tracked (present start f') := by
  intro t ht
  obtain ⟨pc', rfl⟩ := hmove.followed ht
  refine ⟨q, pc', rfl, ?_⟩
  cases pc' with
  | fallback pc'' =>
      have hts : x.1.before ++ ts ++ x.1.behind =
          x.1.before ++ .acquire q (.fallback pc'') :: (ts.tail ++ x.1.behind) := by
        cases ts with
        | nil => cases ht
        | cons u us =>
            cases ht
            simp
      rw [hts] at hp hsince
      exact hp.tracked_fallback hsince
  | main | scan | waitNotified => exact hscan _ ht (by simp)

private theorem Paced.own_inPass (h : Paced dir x) (htask : x.1.task = some (.acquire q pc))
    (hexec : exec dir x.1.shared (.acquire q pc) c = some (f', ts))
    (hreach : (machine dir).Reachable Machine.anyAction ⟨f', x.1.before ++ ts ++ x.1.behind⟩)
    {a : Label} (hstep : Farm.step dir x.1.pool a = some ⟨f', x.1.before ++ ts ++ x.1.behind⟩)
    (hpass : pc.inPass = true) :
    (∀ t, ts.head? = some t → ∃ q pc, t = .acquire q pc ∧ pc.Tracked (present x.2.start f')) ∧
    x.2.steps + 1 ≤ passAllowance (present x.2.start f').card
      (lost x.2.start ⟨f', x.1.before ++ ts ++ x.1.behind⟩).card ts.head? := by
  have hmove := execAcquire_move hexec
  have hp := conserved_of_reachable h.reachable
  have hpool : x.1.pool = ⟨x.1.shared, x.1.before ++ .acquire q pc :: x.1.behind⟩ := by
    simp [Focus.pool, htask]
  have hpresent : present x.2.start x.1.shared ⊆ present x.2.start f' := present_subset hp hstep
  have hlost : lost x.2.start x.1.pool ⊆ lost x.2.start ⟨f', x.1.before ++ ts ++ x.1.behind⟩ :=
    lost_subset hp hstep
  have hsince : ∀ s, Gone x.2.start s → Gone ⟨f', x.1.before ++ ts ++ x.1.behind⟩ s :=
    fun s hs => (h.since s hs).step hp hstep
  obtain ⟨q', pc', heq, htracked⟩ := h.followed _ htask
  cases heq
  have hpace := h.pace
  have hsinceNow := h.since
  rw [hpool] at hp hsinceNow
  constructor
  · apply Paced.tracked_next (conserved_of_reachable hreach) hmove hsince
    intro pc' hnext hscan
    refine (hmove.tracked htracked ?_ hnext hscan).mono hpresent
    intro s hs
    have hpos : 0 < (Task.acquire q pc).holding q.chan s := by
      unfold AcquirePc.guarded at hs
      split at hs <;> cases hs <;> simp [Task.holding]
    obtain ⟨hadded, hnot⟩ := hp.held hpos
    exact mem_present.mpr ⟨hadded, fun hgone => hnot (hsinceNow s hgone)⟩
  · have hpays : pc.allowance (present x.2.start x.1.shared).card
          (lost x.2.start x.1.pool).card + 1 ≤
        passAllowance (present x.2.start x.1.shared).card
          (lost x.2.start ⟨f', x.1.before ++ ts ++ x.1.behind⟩).card ts.head? := by
      apply hmove.pays hpass (Finset.card_le_card hlost) ?_ htracked.length_le htracked.current
      intro hdrops
      obtain ⟨s, hadded, hgone, hnot⟩ := hp.gone_of_drops hexec hdrops
      have hmem : s ∈ present x.2.start x.1.shared :=
        mem_present.mpr ⟨hadded, fun hs => hnot (hsinceNow s hs)⟩
      apply Finset.card_lt_card
      refine (Finset.ssubset_iff_of_subset hlost).mpr ⟨s, mem_lost.mpr ⟨hpresent hmem, hgone⟩, ?_⟩
      rw [mem_lost, hpool]
      exact fun hs => hnot hs.2
    rw [htask] at hpace
    calc x.2.steps + 1 ≤ _ := Nat.succ_le_succ hpace
      _ ≤ _ := hpays
      _ ≤ _ := passAllowance_mono (Finset.card_le_card hpresent) le_rfl _

private theorem Paced.own_outside (h : Paced dir x)
    (hexec : exec dir x.1.shared (.acquire q pc) c = some (f', ts))
    (hreach : (machine dir).Reachable Machine.anyAction ⟨f', x.1.before ++ ts ++ x.1.behind⟩)
    {a : Label} (hstep : Farm.step dir x.1.pool a = some ⟨f', x.1.before ++ ts ++ x.1.behind⟩)
    (hpass : pc.inPass = false) :
    ∀ t, ts.head? = some t → ∃ q pc, t = .acquire q pc ∧ pc.Tracked (present x.1.pool f') := by
  have hmove := execAcquire_move hexec
  have hp := conserved_of_reachable h.reachable
  apply Paced.tracked_next (conserved_of_reachable hreach) hmove fun s hs => hs.step hp hstep
  intro pc' hnext hscan
  cases hmove with
  | sweep | enter | notified =>
      cases hnext
      exact .of_nil rfl rfl
  | waitTimeout =>
      cases hnext
      exact absurd rfl (hscan _)
  | waitCancel => cases hnext
  | _ => cases hpass

end Own

private theorem PassLog.note_other {x : Following} {a : FollowLabel} (log : PassLog)
    (ha : ∀ c, a ≠ .task .own c) : log.note x a = log := by
  unfold PassLog.note
  split
  · exact absurd rfl (ha _)
  · rfl

theorem Paced.step {x y : Following × PassLog} {a : FollowLabel} (h : Paced dir x)
    (hstep : (following dir).step x a = some y) : Paced dir y := by
  obtain ⟨z, log⟩ := y
  obtain ⟨hfollow, hlog⟩ := Machine.logged_step hstep
  obtain rfl : log = x.2.note x.1 a := hlog
  obtain ⟨b, hb⟩ := followStep_pool hfollow
  cases a with
  | env e =>
      rw [PassLog.note_other _ (by simp)]
      apply h.other hb
      simp only [followStep] at hfollow
      split_ifs at hfollow
      cases hfollow
      rfl
  | task turn c =>
      rcases Focus.step_cases hfollow with ⟨t, f', ts, rfl, ht, hexec, rfl⟩ | ⟨hturn, htask, -⟩
      · obtain ⟨q, pc, rfl, -⟩ := h.followed t ht
        have hpool : Focus.pool ⟨f', x.1.before, ts.head?, ts.tail ++ x.1.behind⟩ =
            ⟨f', x.1.before ++ ts ++ x.1.behind⟩ := by
          cases ts <;> simp [Focus.pool]
        simp only [hpool] at hb
        have hreach := h.reachable.next trivial hb
        have hp := conserved_of_reachable h.reachable
        cases hpass : pc.inPass with
        | true =>
            obtain ⟨hfollowed, hpace⟩ := h.own_inPass ht hexec hreach hb hpass
            have hnote : x.2.note x.1 (.task .own c) = { x.2 with steps := x.2.steps + 1 } := by
              simp [PassLog.note, ht, hpass]
            rw [hnote]
            refine ⟨hpool ▸ hreach, ?_, hfollowed, hpool ▸ hpace⟩
            rw [hpool]
            exact fun s hs => (h.since s hs).step hp hb
        | false =>
            have hnote : x.2.note x.1 (.task .own c) = ⟨0, x.1.pool⟩ := by
              simp [PassLog.note, ht, hpass]
            rw [hnote]
            refine ⟨hpool ▸ hreach, ?_, h.own_outside hexec hreach hb hpass, Nat.zero_le _⟩
            rw [hpool]
            exact fun s hs => hs.step hp hb
      · rw [PassLog.note_other _ (by simp [hturn])]
        exact h.other hb htask

theorem paced_of_reachable {x : Following × PassLog}
    (h : (following dir).Reachable Machine.anyAction x) : Paced dir x := by
  apply h.invariant (P := Paced dir)
  · rintro ⟨x, log⟩ ⟨⟨hreach, q, htask⟩, hlog⟩
    obtain rfl : log = ⟨0, ⟨.new, []⟩⟩ := hlog
    refine ⟨hreach, ?_, ?_, Nat.zero_le _⟩
    · intro s hs
      cases hs.added
    · intro t ht
      cases ht.symm.trans htask
      exact ⟨q, .main, rfl, .of_nil rfl rfl⟩
  · intro x a y hx _ hstep
    exact hx.step hstep

private theorem AcquirePc.allowance_le {P L : Nat} {pc : AcquirePc} (h : pc.collected.length ≤ P) :
    pc.allowance P L ≤ 5 * (L + P) + 8 * P + 13 := by
  cases pc with
  | main => exact Nat.zero_le _
  | waitNotified => exact le_rfl
  | scan pc =>
      have herase : ∀ (s : SocketId) (l : List SocketId), (l.erase s).length ≤ l.length :=
        fun s l => List.length_erase_le
      simp only [AcquirePc.allowance]
      fun_cases ScanPc.allowance P L pc <;> simp only [AcquirePc.collected] at h
      case case1 => omega
      case case2 => omega
      case case6 => omega
      case case7 => omega
      all_goals
        rename_i s visited precise
        have hs := herase s visited
        omega
  | fallback pc =>
      have hbase : ∀ stage : Stage, stage.base P ≤ 4 * P + 9 := by
        intro stage
        cases stage <;> simp only [Stage.base] <;> omega
      simp only [AcquirePc.allowance]
      cases pc with
      | drain d | flush d pick =>
          have hd := hbase d.stage
          simp only [AcquirePc.collected] at h
          simp only [FallbackPc.allowance]
          omega
      | upgrade d s | checkRemoved d s =>
          have hd := hbase d.stage
          simp only [AcquirePc.collected, List.length_append, List.length_singleton] at h
          simp only [FallbackPc.allowance]
          omega
      | start timedOut | catchAll darkHosts timedOut =>
          simp only [FallbackPc.allowance]
          omega

private theorem execAcquire_enabled (dir : SocketId → RouterSocket) (f : WebSocketFarm)
    (q : Acquisition)
    {pc : AcquirePc} (hpass : pc.inPass = true) :
    (∃ visited precise, pc = .scan (.recv visited precise) ∧ f.chan q.chan = []) ∨
      ∃ c f' ts, c ≠ .timeout ∧ c ≠ .cancel ∧ execAcquire dir f q pc c = some (f', ts) := by
  have henabled : ∀ c : Choice, c ≠ .timeout → c ≠ .cancel →
      (execAcquire dir f q pc c).isSome = true →
      ∃ c f' ts, c ≠ .timeout ∧ c ≠ .cancel ∧ execAcquire dir f q pc c = some (f', ts) := by
    intro c htimeout hcancel hsome
    obtain ⟨⟨f', ts⟩, hexec⟩ := Option.isSome_iff_exists.mp hsome
    exact ⟨c, f', ts, htimeout, hcancel, hexec⟩
  cases pc with
  | main | waitNotified => cases hpass
  | scan pc =>
      cases pc with
      | recv visited precise =>
          cases hchan : f.chan q.chan with
          | nil => exact .inl ⟨visited, precise, rfl, rfl⟩
          | cons s rest =>
              refine .inr (henabled .go (by simp) (by simp) ?_)
              simp [execAcquire, execScan, hchan]
      | upgrade s visited precise =>
          refine .inr (henabled .go (by simp) (by simp) ?_)
          simp only [execAcquire, execScan]
          split_ifs <;> rfl
      | checkRemoved s visited precise =>
          refine .inr (henabled .go (by simp) (by simp) ?_)
          simp only [execAcquire, execScan]
          split_ifs <;> rfl
      | checkDark s visited precise =>
          refine .inr (henabled (.verdict false) (by simp) (by simp) ?_)
          simp only [execAcquire, execScan, Bool.false_eq_true, if_false]
          split_ifs <;> rfl
      | putBack s next =>
          refine .inr (henabled .go (by simp) (by simp) ?_)
          cases next <;> rfl
  | fallback pc =>
      refine .inr (henabled .go (by simp) (by simp) ?_)
      simp only [execAcquire]
      cases pc with
      | start timedOut | upgrade d s | checkRemoved d s =>
          simp only [execFallback]
          split_ifs <;> rfl
      | catchAll darkHosts timedOut =>
          simp only [execFallback]
          split_ifs
          · split <;> rfl
          · rfl
      | drain d =>
          simp only [execFallback]
          split <;> rfl
      | flush d pick =>
          simp only [execFallback]
          split
          · rfl
          · rfl
          · split <;> rfl

/-- Whatever the other acquisitions, the connectors and the background tasks do meanwhile: the
steps of a pass are at most 18 for every socket that had a place in the farm when it began or was
added since, and 13 more; and within a pass an acquisition waits only in `recv`, at an empty
channel. -/
theorem acquisition_pass_bounded (dir : SocketId → RouterSocket) (x : Following × PassLog)
    (h : (following dir).Reachable Machine.anyAction x) :
    (machine dir).Reachable Machine.anyAction x.1.pool ∧
    (∀ a p, Farm.step dir x.1.pool a = some p →
      ∃ b y, (following dir).step x b = some y ∧ y.1.pool = p) ∧
    x.2.steps ≤ 18 * (present x.2.start x.1.shared).card + 13 ∧
    ∀ q pc, x.1.task = some (.acquire q pc) → pc.inPass = true →
      (∃ visited precise, pc = .scan (.recv visited precise) ∧ x.1.shared.chan q.chan = []) ∨
      ∃ c y, c ≠ .timeout ∧ c ≠ .cancel ∧ (following dir).step x (.task .own c) = some y := by
  have hx := paced_of_reachable h
  refine ⟨hx.reachable, ?_, ?_, ?_⟩
  · intro a p hstep
    obtain ⟨b, y, hy, rfl⟩ := exists_followStep hstep
    exact ⟨b, (y, x.2.note x.1 b), following_step hy, rfl⟩
  · have hlost := card_lost_le x.2.start x.1.pool
    have hpace := hx.pace
    have hlimit : passAllowance (present x.2.start x.1.shared).card
        (lost x.2.start x.1.pool).card x.1.task ≤
        5 * ((lost x.2.start x.1.pool).card + (present x.2.start x.1.shared).card) +
          8 * (present x.2.start x.1.shared).card + 13 := by
      cases htask : x.1.task with
      | none => exact le_rfl
      | some t =>
          obtain ⟨q, pc, rfl, hpc⟩ := hx.followed t htask
          exact AcquirePc.allowance_le hpc.length_le
    simp only [Focus.pool_shared] at hlost
    omega
  · intro q pc htask hpass
    rcases execAcquire_enabled dir x.1.shared q hpass with hwait | hnext
    · exact .inl hwait
    · obtain ⟨c, f', ts, htimeout, hcancel, hexec⟩ := hnext
      have hstep : followStep dir x.1 (.task .own c) =
          some ⟨f', x.1.before, ts.head?, ts.tail ++ x.1.behind⟩ := by
        simp [followStep, Focus.step, htask, exec, hexec]
      exact .inr ⟨c, _, htimeout, hcancel, following_step hstep⟩

/-- Two V3 sockets are registered, and an acquisition has the channel of their route. -/
def resolvedState : FarmPool :=
  (machine ordersDir).run Machine.anyAction ⟨.new, []⟩
    [.env (.add 1), .task 0 .go, .task 0 .go, .task 0 .go,
     .env (.add 2), .task 0 .go, .task 0 .go, .task 0 .go,
     .env (.acquire ⟨false, false, false⟩), .task 0 (.route "orders")]

def resolvedFollowing : Following × PassLog :=
  (⟨resolvedState.shared, [], resolvedState.tasks.head?, []⟩, ⟨0, ⟨.new, []⟩⟩)

/-- The filter takes neither socket, and a third one is added while the scan has the first. -/
def fruitlessPass : Following × PassLog :=
  (following ordersDir).run Machine.anyAction resolvedFollowing
    [.task .own (.precise false), .task .own .go, .env (.add 3), .task .own .go, .task .own .go,
     .task .own (.verdict false), .task .own .go, .task .own .go, .task (.behind 0) .go,
     .task .own .go, .task .own .go, .task .own (.verdict false), .task .own .go, .task .own .go,
     .task .own .go, .task .own .go, .task .own .go, .task .own .go]

theorem init_resolvedFollowing : (following ordersDir).init resolvedFollowing := by
  have htasks : resolvedState.tasks = [.acquire ⟨⟨false, false, false⟩, "orders", 0⟩ .main] := by
    decide +kernel
  have hpool : resolvedFollowing.1.pool = resolvedState := by
    simp only [resolvedFollowing, Focus.pool, htasks]
    exact congrArg _ htasks.symm
  refine ⟨⟨?_, ⟨⟨false, false, false⟩, "orders", 0⟩, ?_⟩, rfl⟩
  · rw [hpool]
    exact Machine.reachable_run _ _ rfl _
  · simp only [resolvedFollowing, htasks]
    rfl

theorem acquisition_pass_bounded_fruitless :
    fruitlessPass.1.task = some (.acquire ⟨⟨false, false, false⟩, "orders", 0⟩ .waitNotified) ∧
      fruitlessPass.2.steps = 15 ∧
      15 ≤ 18 * (present fruitlessPass.2.start fruitlessPass.1.shared).card + 13 := by
  have hsteps : fruitlessPass.2.steps = 15 := by decide +kernel
  have hbound := (acquisition_pass_bounded ordersDir fruitlessPass
    (Machine.reachable_run _ _ init_resolvedFollowing _)).2.2.1
  rw [hsteps] at hbound
  exact ⟨by decide +kernel, hsteps, hbound⟩

end CrankerRouter.Farm
