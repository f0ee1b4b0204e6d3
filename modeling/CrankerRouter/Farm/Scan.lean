import CrankerRouter.Farm.Dark
import CrankerRouter.Farm.Domain

/-!
# The scan loop

A scan that runs alone dequeues the entries of its channel one after the other, drops those that
are dead or removed and puts the others back, until it comes to one it may return or meets one it
has put back itself.
-/

namespace CrankerRouter.Farm

open Lib

variable {dir : SocketId → RouterSocket}

/-- What a scan is told: the filter's answer, where it asks. -/
def ScanPc.answer (accepts : SocketId → Bool) : ScanPc → Choice
  | .checkDark s _ _ => .verdict (accepts s)
  | _ => .go

def ScanPc.dequeues : ScanPc → Nat
  | .recv _ _ => 1
  | _ => 0

/-- What the loop leaves: the farm, the tasks that go on in its place, and how often it has
dequeued. -/
structure ScanResult where
  farm : WebSocketFarm
  tasks : List Task
  dequeued : Nat

/-- The scan loop with nothing else going on, to its end; `none` is a loop that has not ended or
waits at an empty channel. -/
def scanLoop (dir : SocketId → RouterSocket) (accepts : SocketId → Bool) (q : Acquisition) :
    Nat → WebSocketFarm → ScanPc → Option ScanResult
  | 0, _, _ => none
  | fuel + 1, f, pc =>
      match execScan dir f q pc (pc.answer accepts) with
      | some (f', .acquire _ (.scan pc') :: ts) =>
          (scanLoop dir accepts q fuel f' pc').map fun out =>
            ⟨out.farm, out.tasks ++ ts, out.dequeued + pc.dequeues⟩
      | some (f', ts) => some ⟨f', ts, pc.dequeues⟩
      | none => none

/-- The loop of the source is a run of the farm in which only the acquisition takes steps. -/
theorem scanLoop_reach {accepts : SocketId → Bool} {q : Acquisition} {fuel : Nat}
    {f : WebSocketFarm} {pc : ScanPc} {out : ScanResult} (l r : List Task)
    (h : scanLoop dir accepts q fuel f pc = some out) :
    (machine dir).Reach (onlyTask l.length) ⟨f, l ++ .acquire q (.scan pc) :: r⟩
      ⟨out.farm, l ++ out.tasks ++ r⟩ := by
  induction fuel generalizing f pc out r with
  | zero => cases h
  | succ fuel ih =>
      rw [scanLoop] at h
      split at h
      · rename_i f' q' pc' ts hexec
        obtain ⟨out', hout', rfl⟩ := Option.map_eq_some_iff.mp h
        obtain rfl : q' = q := (execScan_move hexec).continues List.mem_cons_self
        have hnext : (machine dir).Next (onlyTask l.length) ⟨f, l ++ .acquire q' (.scan pc) :: r⟩
            ⟨f', l ++ (.acquire q' (.scan pc') :: ts) ++ r⟩ := next_onlyTask l r hexec
        have hrest := ih (ts ++ r) hout'
        simp only [List.append_assoc, List.cons_append] at hnext hrest ⊢
        exact hrest.head hnext
      · rename_i f' ts hother hexec
        cases h
        exact .single (next_onlyTask l r hexec)
      · cases h

/-! ### One round -/

section Round

variable {accepts : SocketId → Bool} {q : Acquisition} {f g : WebSocketFarm} {us : List Task}
  {n : Nat} {u : SocketId} {rest visited : List SocketId} {precise : Bool}

/-- The loop ends with this result, and does so with any more fuel. -/
def Scans (dir : SocketId → RouterSocket) (accepts : SocketId → Bool) (q : Acquisition)
    (f : WebSocketFarm) (pc : ScanPc) (out : ScanResult) : Prop :=
  ∃ n, ∀ fuel, n ≤ fuel → scanLoop dir accepts q fuel f pc = some out

theorem Scans.next {f' : WebSocketFarm} {pc pc' : ScanPc} {ts : List Task}
    (hexec : execScan dir f q pc (pc.answer accepts) = some (f', .acquire q (.scan pc') :: ts))
    (h : Scans dir accepts q f' pc' ⟨g, us, n⟩) :
    Scans dir accepts q f pc ⟨g, us ++ ts, n + pc.dequeues⟩ := by
  obtain ⟨m, hm⟩ := h
  refine ⟨m + 1, ?_⟩
  intro fuel hfuel
  obtain ⟨k, rfl⟩ : ∃ k, fuel = k + 1 := ⟨fuel - 1, by omega⟩
  rw [scanLoop, hexec]
  simp [hm k (by omega)]

theorem Scans.within {f' : WebSocketFarm} {pc pc' : ScanPc}
    (hexec : execScan dir f q pc (pc.answer accepts) = some (f', [.acquire q (.scan pc')]))
    (hpc : pc.dequeues = 0) (h : Scans dir accepts q f' pc' ⟨g, us, n⟩) :
    Scans dir accepts q f pc ⟨g, us, n⟩ := by
  have hnext := h.next hexec
  rwa [hpc, List.append_nil] at hnext

theorem Scans.ends {f' : WebSocketFarm} {pc : ScanPc} {ts : List Task}
    (hexec : execScan dir f q pc (pc.answer accepts) = some (f', ts))
    (hts : ∀ q' pc' us, ts ≠ .acquire q' (.scan pc') :: us) :
    Scans dir accepts q f pc ⟨f', ts, pc.dequeues⟩ := by
  refine ⟨1, ?_⟩
  intro fuel hfuel
  obtain ⟨m, rfl⟩ : ∃ m, fuel = m + 1 := ⟨fuel - 1, by omega⟩
  rw [scanLoop, hexec]
  split
  · rename_i heq
    cases heq
    exact absurd rfl (hts _ _ _)
  · rename_i heq
    cases heq
    rfl
  · rename_i heq
    cases heq

/-- The farm with other entries in one channel. -/
def WebSocketFarm.setChan (f : WebSocketFarm) (c : ChanId) (l : List SocketId) : WebSocketFarm :=
  { f with chan := Function.update f.chan c l }

@[simp] theorem setChan_chan (f : WebSocketFarm) (c : ChanId) (l : List SocketId) :
    (f.setChan c l).chan c = l := by simp [WebSocketFarm.setChan]

@[simp] theorem setChan_self (f : WebSocketFarm) (c : ChanId) : f.setChan c (f.chan c) = f := by
  simp [WebSocketFarm.setChan]

@[simp] theorem takeHead_setChan (f : WebSocketFarm) (c : ChanId) (s : SocketId)
    (l : List SocketId) : (f.setChan c (s :: l)).takeHead c = f.setChan c l := by
  simp [WebSocketFarm.setChan, WebSocketFarm.takeHead]

@[simp] theorem send_setChan (f : WebSocketFarm) (c : ChanId) (s : SocketId) (l : List SocketId) :
    (f.setChan c l).send c s = f.setChan c (l ++ [s]) := by
  simp [WebSocketFarm.setChan, WebSocketFarm.send]

theorem Scans.take
    (h : Scans dir accepts q (f.setChan q.chan rest) (.upgrade u visited precise) ⟨g, us, n⟩) :
    Scans dir accepts q (f.setChan q.chan (u :: rest)) (.recv visited precise) ⟨g, us, n + 1⟩ := by
  have hexec : execScan dir (f.setChan q.chan (u :: rest)) q (.recv visited precise)
      ((ScanPc.recv visited precise).answer accepts) =
      some (f.setChan q.chan rest, [.acquire q (.scan (.upgrade u visited precise))]) := by
    simp [ScanPc.answer, execScan]
  have hnext := h.next hexec
  rwa [List.append_nil] at hnext

/-- A dead entry is dropped. -/
theorem Scans.dead (halive : f.alive u = false)
    (h : Scans dir accepts q (f.setChan q.chan rest) (.recv visited precise) ⟨g, us, n⟩) :
    Scans dir accepts q (f.setChan q.chan (u :: rest)) (.recv visited precise)
      ⟨g, us, n + 1⟩ := by
  apply Scans.take
  exact h.within (by simp [execScan, WebSocketFarm.setChan, halive]) rfl

theorem Scans.removed (halive : f.alive u = true) (hrem : f.isRemoved u = true) (hu : u ∉ visited)
    (h : Scans dir accepts q (f.setChan q.chan rest) (.recv visited precise) ⟨g, us, n⟩) :
    Scans dir accepts q (f.setChan q.chan (u :: rest)) (.recv visited precise)
      ⟨g, us ++ [.remove u .recordTime], n + 1⟩ := by
  have hcheck : execScan dir (f.setChan q.chan rest) q (.checkRemoved u (u :: visited) precise)
      ((ScanPc.checkRemoved u (u :: visited) precise).answer accepts) =
      some (f.setChan q.chan rest,
        [.acquire q (.scan (.recv visited precise)), .remove u .recordTime]) := by
    simp [execScan, WebSocketFarm.setChan, hrem]
  apply Scans.take
  refine Scans.within ?_ rfl (h.next hcheck)
  simp [execScan, WebSocketFarm.setChan, halive, hu]

/-- The entry is alive and not removed. -/
def kept (f : WebSocketFarm) (u : SocketId) : Bool := f.alive u && !f.isRemoved u

theorem Scans.asks (hkept : kept f u = true) (hu : u ∉ visited)
    (h : Scans dir accepts q (f.setChan q.chan rest) (.checkDark u (u :: visited) precise)
      ⟨g, us, n⟩) :
    Scans dir accepts q (f.setChan q.chan (u :: rest)) (.recv visited precise)
      ⟨g, us, n + 1⟩ := by
  obtain ⟨halive, hrem⟩ : f.alive u = true ∧ f.isRemoved u = false := by simpa [kept] using hkept
  apply Scans.take
  have hfirst : execScan dir (f.setChan q.chan rest) q (.upgrade u visited precise)
      ((ScanPc.upgrade u visited precise).answer accepts) =
      some (f.setChan q.chan rest,
        [.acquire q (.scan (.checkRemoved u (u :: visited) precise))]) := by
    simp [execScan, WebSocketFarm.setChan, halive, hu]
  refine Scans.within hfirst rfl (Scans.within ?_ rfl h)
  simp [execScan, WebSocketFarm.setChan, hrem]

private theorem Scans.rejected (hkept : kept f u = true)
    (helig : eligible dir f accepts precise u = false)
    (hu : u ∉ visited)
    (h : Scans dir accepts q (f.setChan q.chan (rest ++ [u])) (.recv (u :: visited) precise)
      ⟨g, us, n⟩) :
    Scans dir accepts q (f.setChan q.chan (u :: rest)) (.recv visited precise)
      ⟨g, us, n + 1⟩ := by
  have hskip : execScan dir (f.setChan q.chan rest) q (.checkDark u (u :: visited) precise)
      ((ScanPc.checkDark u (u :: visited) precise).answer accepts) =
      some (f.setChan q.chan rest,
        [.acquire q (.scan (.putBack u (.recv (u :: visited) precise)))]) := by
    have hdark : (f.setChan q.chan rest).darkHosts = f.darkHosts := rfl
    simp only [ScanPc.answer, execScan, hdark]
    by_cases hd : (dir u).isDarkModeOn f.darkHosts = true
    · rw [if_pos hd]
    · rw [if_neg hd]
      by_cases hp : (precise && (dir u).domain == "*") = true
      · rw [if_pos hp]
      · have hno : accepts u = false := by
          simp only [kept] at hkept
          simpa only [eligible, hkept, hd, hp, Bool.true_and, Bool.not_false] using helig
        rw [if_neg hp, if_neg (by simp [hno])]
  apply Scans.asks hkept hu
  refine Scans.within hskip rfl (Scans.within ?_ rfl h)
  simp [execScan]

/-- The first entry that the scan may return ends the loop. -/
theorem Scans.accepted (helig : eligible dir f accepts precise u = true) (hu : u ∉ visited) :
    Scans dir accepts q (f.setChan q.chan (u :: rest)) (.recv visited precise)
      ⟨(f.setChan q.chan (rest ++ if (dir u).crankerVersion = .v3 then [u] else [])).handOut u, [],
        1⟩ := by
  simp only [eligible, Bool.and_eq_true, Bool.not_eq_true'] at helig
  obtain ⟨⟨⟨⟨halive, hrem⟩, hlit⟩, hdomain'⟩, haccept⟩ := helig
  have hdomain : ¬ (precise && (dir u).domain == "*") = true := by simp [hdomain']
  have hlit' : ¬ (dir u).isDarkModeOn (f.setChan q.chan rest).darkHosts = true := by
    simp [WebSocketFarm.setChan, hlit]
  apply Scans.asks (by simp [kept, halive, hrem]) hu
  cases hv : (dir u).crankerVersion with
  | v1 =>
      refine Scans.ends ?_ (by simp)
      simp only [ScanPc.answer, execScan, if_neg hlit', if_neg hdomain, haccept, if_true, hv]
      simp
  | v3 =>
      have hpick : execScan dir (f.setChan q.chan rest) q (.checkDark u (u :: visited) precise)
          ((ScanPc.checkDark u (u :: visited) precise).answer accepts) =
          some (f.setChan q.chan rest, [.acquire q (.scan (.putBack u .handOut))]) := by
        simp only [ScanPc.answer, execScan, if_neg hlit', if_neg hdomain, haccept, if_true, hv]
      refine Scans.within hpick rfl (Scans.ends ?_ (by simp))
      simp [execScan]

/-- An entry that the scan has put back ends the loop, and is put back again. -/
theorem Scans.again (halive : f.alive u = true) (hu : u ∈ visited) :
    Scans dir accepts q (f.setChan q.chan (u :: rest)) (.recv visited precise)
      ⟨f.setChan q.chan (rest ++ [u]), [.acquire q (.fallback (.start false))], 1⟩ := by
  have hseen : execScan dir (f.setChan q.chan rest) q (.upgrade u visited precise)
      ((ScanPc.upgrade u visited precise).answer accepts) =
      some (f.setChan q.chan rest, [.acquire q (.scan (.putBack u .fallback))]) := by
    simp [execScan, WebSocketFarm.setChan, halive, hu]
  apply Scans.take
  refine Scans.within hseen rfl (Scans.ends ?_ (by simp))
  simp [execScan]

/-- The removals that a scan has spawned when it is past these entries, latest first. -/
def removalsPast (f : WebSocketFarm) (l : List SocketId) : List Task :=
  ((l.filter fun u => f.alive u && f.isRemoved u).map fun u => Task.remove u .recordTime).reverse

/-- Entries that the scan may not return are passed: those kept end up behind the others, in
order. -/
theorem Scans.pass {pre : List SocketId} (hnodup : pre.Nodup)
    (hnot : ∀ v ∈ pre, eligible dir f accepts precise v = false) (hfresh : ∀ v ∈ pre, v ∉ visited)
    (h : Scans dir accepts q (f.setChan q.chan (rest ++ pre.filter (kept f)))
      (.recv ((pre.filter (kept f)).reverse ++ visited) precise) ⟨g, us, n⟩) :
    Scans dir accepts q (f.setChan q.chan (pre ++ rest)) (.recv visited precise)
      ⟨g, us ++ removalsPast f pre, n + pre.length⟩ := by
  induction pre generalizing rest visited with
  | nil => simpa [removalsPast] using h
  | cons v pre ih =>
      obtain ⟨hv, hnodup'⟩ := List.nodup_cons.mp hnodup
      have hnot' : ∀ w ∈ pre, eligible dir f accepts precise w = false :=
        fun w hw => hnot w (List.mem_cons_of_mem v hw)
      have hfresh' : ∀ w ∈ pre, w ∉ visited := fun w hw => hfresh w (List.mem_cons_of_mem v hw)
      have hlen : n + (v :: pre).length = n + pre.length + 1 := by
        rw [List.length_cons]
        omega
      rw [List.cons_append, hlen]
      by_cases hkept : kept f v = true
      · -- put back: it is now behind the rest and has been visited
        have hpast : removalsPast f (v :: pre) = removalsPast f pre := by
          have hnotRemoved : (f.alive v && f.isRemoved v) = false := by
            simp only [kept, Bool.and_eq_true, Bool.not_eq_true'] at hkept
            simp [hkept.2]
          simp [removalsPast, hnotRemoved]
        rw [hpast]
        refine Scans.rejected hkept (hnot v List.mem_cons_self) (hfresh v List.mem_cons_self) ?_
        rw [List.append_assoc]
        refine ih hnodup' hnot' ?_ ?_
        · intro w hw hmem
          obtain rfl | hmem := List.mem_cons.mp hmem
          · exact hv hw
          · exact hfresh' w hw hmem
        · simpa [List.filter_cons, hkept] using h
      · rw [List.filter_cons_of_neg hkept] at h
        have hrest := ih hnodup' hnot' hfresh' h
        by_cases halive : f.alive v = true
        · have hrem : f.isRemoved v = true := by simpa [kept, halive] using hkept
          have hpast : removalsPast f (v :: pre) =
              removalsPast f pre ++ [.remove v .recordTime] := by
            simp [removalsPast, halive, hrem]
          rw [hpast, ← List.append_assoc]
          exact Scans.removed halive hrem (hfresh v List.mem_cons_self) hrest
        · have hpast : removalsPast f (v :: pre) = removalsPast f pre := by
            simp [removalsPast, halive]
          rw [hpast]
          exact Scans.dead (by simpa using halive) hrest

end Round

/-! ### Whole scans -/

/-- What a request brings to an acquisition: its filter and its host. -/
structure Request where
  accepts : SocketId → Bool
  optHost : Option String

/-- The scans of requests that come one after the other. -/
def acquireAll (dir : SocketId → RouterSocket) (q : Acquisition) (fuel : Nat) :
    WebSocketFarm → List Request → Option WebSocketFarm
  | f, [] => some f
  | f, r :: rs =>
      match scanLoop dir r.accepts q fuel f
        (.recv [] (hasPreciseMatch dir f q.resolvedRoute r.optHost)) with
      | some out => acquireAll dir q fuel out.farm rs
      | none => none

/-- The first `k` of the entries, over and over again. -/
def cycle (l : List SocketId) (k : Nat) : List SocketId :=
  (List.range k).filterMap fun i => l[i % l.length]?

section Whole

variable {accepts : SocketId → Bool} {q : Acquisition} {f : WebSocketFarm} {precise : Bool}

private theorem scans_first {pre post : List SocketId} {s : SocketId}
    (hnodup : (f.chan q.chan).Nodup)
    (hchan : f.chan q.chan = pre ++ s :: post)
    (hnot : ∀ u ∈ pre, eligible dir f accepts precise u = false)
    (helig : eligible dir f accepts precise s = true) :
    Scans dir accepts q f (.recv [] precise)
      ⟨(f.setChan q.chan (post ++ pre.filter (kept f) ++
        if (dir s).crankerVersion = .v3 then [s] else [])).handOut s, removalsPast f pre,
        pre.length + 1⟩ := by
  rw [hchan] at hnodup
  obtain ⟨hpre, -, hdisj⟩ := List.nodup_append.mp hnodup
  have hs : s ∉ (pre.filter (kept f)).reverse ++ [] := by
    intro hmem
    have hmem' : s ∈ pre := by
      rw [List.append_nil, List.mem_reverse] at hmem
      exact List.mem_of_mem_filter hmem
    exact hdisj s hmem' s List.mem_cons_self rfl
  have htake : Scans dir accepts q (f.setChan q.chan (s :: post ++ pre.filter (kept f)))
      (.recv ((pre.filter (kept f)).reverse ++ []) precise) _ := Scans.accepted helig hs
  have hall := Scans.pass hpre hnot (by simp) htake
  rw [← hchan, setChan_self] at hall
  simpa [Nat.add_comm] using hall

private theorem scans_none (hnodup : (f.chan q.chan).Nodup)
    (hnot : ∀ u ∈ f.chan q.chan, eligible dir f accepts precise u = false)
    (hsome : ∃ u ∈ f.chan q.chan, kept f u = true) :
    Scans dir accepts q f (.recv [] precise)
      ⟨f.setChan q.chan (((f.chan q.chan).filter (kept f)).rotate 1),
        .acquire q (.fallback (.start false)) :: removalsPast f (f.chan q.chan),
        (f.chan q.chan).length + 1⟩ := by
  obtain ⟨u, hu, hkept⟩ := hsome
  cases hlive : (f.chan q.chan).filter (kept f) with
  | nil =>
      have hmem : u ∈ (f.chan q.chan).filter (kept f) := List.mem_filter.mpr ⟨hu, hkept⟩
      rw [hlive] at hmem
      cases hmem
  | cons v vs =>
      have hv : kept f v = true := by
        have hmem : v ∈ (f.chan q.chan).filter (kept f) := by simp [hlive]
        exact (List.mem_filter.mp hmem).2
      have halive : f.alive v = true := by
        simp only [kept, Bool.and_eq_true] at hv
        exact hv.1
      -- after the pass the first kept entry is at the head again, and visited
      have hagain : Scans dir accepts q
          (f.setChan q.chan ([] ++ (f.chan q.chan).filter (kept f)))
          (.recv (((f.chan q.chan).filter (kept f)).reverse ++ []) precise)
          ⟨f.setChan q.chan (vs ++ [v]), [.acquire q (.fallback (.start false))], 1⟩ := by
        rw [hlive, List.nil_append]
        exact Scans.again halive (by simp)
      have hall := Scans.pass hnodup hnot (by simp) hagain
      rw [List.append_nil, setChan_self] at hall
      simpa [Nat.add_comm] using hall

private theorem eligible_setChan_handOut (f : WebSocketFarm) (c : ChanId) (l : List SocketId)
    (s : SocketId) :
    eligible dir ((f.setChan c l).handOut s) accepts precise = eligible dir f accepts precise := rfl

private theorem hasPreciseMatch_setChan_handOut (f : WebSocketFarm) (c : ChanId) (l : List SocketId)
    (s : SocketId) (k : Route) (optHost : Option String) :
    hasPreciseMatch dir ((f.setChan c l).handOut s) k optHost = hasPreciseMatch dir f k optHost := by
  cases optHost <;> rfl

private theorem cycle_rotate (s : SocketId) (l : List SocketId) (k : Nat) :
    cycle (s :: l) (k + 1) = s :: cycle (l ++ [s]) k := by
  have hrot : l ++ [s] = (s :: l).rotate 1 := by simp
  have hlen : (l ++ [s]).length = (s :: l).length := by simp
  unfold cycle
  rw [List.range_succ_eq_map, List.filterMap_cons, List.filterMap_map]
  simp only [Nat.zero_mod, List.getElem?_cons_zero]
  congr 1
  refine List.filterMap_congr fun i _ => ?_
  have hi : i % (s :: l).length < (s :: l).length := Nat.mod_lt _ (by simp)
  simp only [Function.comp_apply]
  rw [hlen, hrot, List.getElem?_rotate hi, Nat.mod_add_mod]

private theorem acquireAll_cycle (requests : List Request) :
    ∀ f : WebSocketFarm, (f.chan q.chan).Nodup → f.chan q.chan ≠ [] →
      (∀ s ∈ f.chan q.chan, (dir s).crankerVersion = .v3 ∧ ∀ r ∈ requests,
        eligible dir f r.accepts (hasPreciseMatch dir f q.resolvedRoute r.optHost) s = true) →
      ∃ n, ∀ fuel, n ≤ fuel → acquireAll dir q fuel f requests =
        some { f.setChan q.chan ((f.chan q.chan).rotate requests.length) with
          returned := (cycle (f.chan q.chan) requests.length).reverse ++ f.returned } := by
  induction requests with
  | nil =>
      intro f _ _ _
      exact ⟨0, fun fuel _ => by simp [acquireAll, cycle]⟩
  | cons r requests ih =>
      intro f hnodup hne hall
      cases hchan : f.chan q.chan with
      | nil => exact absurd hchan hne
      | cons s rest =>
          obtain ⟨hv3, helig⟩ := hall s (by simp [hchan])
          have hfirst : f.chan q.chan = [] ++ s :: rest := hchan
          have hnodup' : (rest ++ [s]).Nodup := by
            rw [hchan] at hnodup
            exact (List.perm_append_singleton s rest).nodup_iff.mpr hnodup
          have hall' : ∀ u ∈ rest ++ [s], (dir u).crankerVersion = .v3 ∧ ∀ r' ∈ requests,
              eligible dir f r'.accepts (hasPreciseMatch dir f q.resolvedRoute r'.optHost) u =
                true := by
            intro u hu
            have hmem : u ∈ f.chan q.chan := by
              rw [hchan]
              simpa [or_comm] using hu
            obtain ⟨hv, helig'⟩ := hall u hmem
            exact ⟨hv, fun r' hr' => helig' r' (List.mem_cons_of_mem r hr')⟩
          -- the head is returned and goes to the back
          obtain ⟨n, hn⟩ := scans_first hnodup hfirst (by simp) (helig r List.mem_cons_self)
          have hchan' : ((f.setChan q.chan (rest ++ [s])).handOut s).chan q.chan = rest ++ [s] :=
            setChan_chan f q.chan (rest ++ [s])
          obtain ⟨m, hm⟩ := ih ((f.setChan q.chan (rest ++ [s])).handOut s)
            (by rwa [hchan']) (by simp [hchan'])
            (by
              rw [hchan']
              intro u hu
              refine ⟨(hall' u hu).1, fun r' hr' => ?_⟩
              rw [eligible_setChan_handOut, hasPreciseMatch_setChan_handOut]
              exact (hall' u hu).2 r' hr')
          refine ⟨max n m, ?_⟩
          intro fuel hfuel
          have hscan := hn fuel (le_trans (le_max_left n m) hfuel)
          have hrest := hm fuel (le_trans (le_max_right n m) hfuel)
          simp only [List.filter_nil, List.append_nil, hv3, if_true] at hscan
          rw [acquireAll, hscan]
          simp only [hrest, hchan']
          simp [WebSocketFarm.handOut, WebSocketFarm.setChan, cycle_rotate]

end Whole

/-- A scan that runs alone, whatever its channel holds: it returns the first entry it may return,
behind which the channel then goes on with the entries that were kept; with none to return it stops
at the first kept entry it meets again; and V3 sockets that every request may get are returned in
turn. -/
theorem scan_complete_and_fair (dir : SocketId → RouterSocket) (q : Acquisition)
    (f : WebSocketFarm) (hnodup : (f.chan q.chan).Nodup) :
    (∀ accepts precise pre s post, f.chan q.chan = pre ++ s :: post →
      (∀ u ∈ pre, eligible dir f accepts precise u = false) →
      eligible dir f accepts precise s = true →
      Scans dir accepts q f (.recv [] precise)
        ⟨(f.setChan q.chan (post ++ pre.filter (kept f) ++
          if (dir s).crankerVersion = .v3 then [s] else [])).handOut s, removalsPast f pre,
          pre.length + 1⟩) ∧
    (∀ accepts precise, (∀ u ∈ f.chan q.chan, eligible dir f accepts precise u = false) →
      (∃ u ∈ f.chan q.chan, kept f u = true) →
      Scans dir accepts q f (.recv [] precise)
        ⟨f.setChan q.chan (((f.chan q.chan).filter (kept f)).rotate 1),
          .acquire q (.fallback (.start false)) :: removalsPast f (f.chan q.chan),
          (f.chan q.chan).length + 1⟩) ∧
    ∀ requests : List Request, f.chan q.chan ≠ [] →
      (∀ s ∈ f.chan q.chan, (dir s).crankerVersion = .v3 ∧ ∀ r ∈ requests,
        eligible dir f r.accepts (hasPreciseMatch dir f q.resolvedRoute r.optHost) s = true) →
      ∃ n, ∀ fuel, n ≤ fuel → acquireAll dir q fuel f requests =
        some { f.setChan q.chan ((f.chan q.chan).rotate requests.length) with
          returned := (cycle (f.chan q.chan) requests.length).reverse ++ f.returned } :=
  ⟨fun _ _ _ _ _ hchan hnot helig => scans_first hnodup hchan hnot helig,
    fun _ _ hnot hsome => scans_none hnodup hnot hsome,
    fun requests hne hall => acquireAll_cycle requests f hnodup hne hall⟩

/-- Channel 0 holds a dead entry, a removed one, and two that live; channel 1 holds three that
live. -/
def mixedFarm : WebSocketFarm :=
  { WebSocketFarm.new with
    chan := fun c => if c = 0 then [1, 2, 3, 4] else [5, 6, 7]
    alive := fun s => s != 1
    isRemoved := fun s => s == 2 }

def mixedDir : SocketId → RouterSocket := fun s => ⟨"orders", "*", "connector", .v3, s⟩

def mixedQuery (c : ChanId) : Acquisition := ⟨⟨false, false, false⟩, "orders", c⟩

theorem scan_complete_and_fair_mixedFarm :
    Scans mixedDir (· == 4) (mixedQuery 0) mixedFarm (.recv [] false)
      ⟨(mixedFarm.setChan 0 [3, 4]).handOut 4, [.remove 2 .recordTime], 4⟩ ∧
    Scans mixedDir (fun _ => false) (mixedQuery 0) mixedFarm (.recv [] false)
      ⟨mixedFarm.setChan 0 [4, 3],
        [.acquire (mixedQuery 0) (.fallback (.start false)), .remove 2 .recordTime], 5⟩ ∧
    ∃ n, ∀ fuel, n ≤ fuel →
      acquireAll mixedDir (mixedQuery 1) fuel mixedFarm
        (List.replicate 5 ⟨fun _ => true, none⟩) =
        some { mixedFarm.setChan 1 [7, 5, 6] with returned := [6, 5, 7, 6, 5] } :=
  ⟨(scan_complete_and_fair mixedDir (mixedQuery 0) mixedFarm (by decide)).1 (· == 4) false
      [1, 2, 3] 4 [] rfl (by decide) (by decide),
    (scan_complete_and_fair mixedDir (mixedQuery 0) mixedFarm (by decide)).2.1 (fun _ => false)
      false (by decide) (by decide),
    (scan_complete_and_fair mixedDir (mixedQuery 1) mixedFarm (by decide)).2.2
      (List.replicate 5 ⟨fun _ => true, none⟩) (by decide) (by decide)⟩

end CrankerRouter.Farm
