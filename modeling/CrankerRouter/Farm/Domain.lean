import CrankerRouter.Farm.Conservation
import CrankerRouter.Http.Headers

/-!
# Domains

An acquisition that runs alone hunts for the first eligible entry of its channel: it passes every
entry before it, putting back those that live and are not removed, and returns it.  A domain only
counts through the flag `has_precise_match`, which makes entries of domain `"*"` ineligible.
-/

namespace CrankerRouter.Farm

open Lib Http

variable {dir : SocketId → RouterSocket}

section Request

/-- `get_opt_host_from_uri_and_headers`. -/
def getOptHostFromUriAndHeaders (uriHost : Option String) (headers : HeaderMap) : Option String :=
  uriHost.or (((headers.get .host).bind HeaderValue.toStr).map fun h =>
    String.ofList (h.toList.takeWhile (· != ':')))

/-- `has_precise_match` of the main loop: some socket of the route in the socket map is not removed
and of the domain that the request asks for. -/
def hasPreciseMatch (dir : SocketId → RouterSocket) (f : WebSocketFarm) (k : Route) :
    Option String → Bool
  | some host => (f.socketsOf k).any fun s => !f.isRemoved s && (dir s).domain == host
  | none => false

/-- The scan returns this entry when it comes to it. -/
def eligible (dir : SocketId → RouterSocket) (f : WebSocketFarm) (accepts : SocketId → Bool)
    (precise : Bool) (s : SocketId) : Bool :=
  f.alive s && !f.isRemoved s && !(dir s).isDarkModeOn f.darkHosts &&
    !(precise && (dir s).domain == "*") && accepts s

def firstEligible (dir : SocketId → RouterSocket) (f : WebSocketFarm) (q : Acquisition)
    (accepts : SocketId → Bool) (optHost : Option String) : Option SocketId :=
  (f.chan q.chan).find? (eligible dir f accepts (hasPreciseMatch dir f q.resolvedRoute optHost))

/-- Nothing happens beside one acquisition and the removals it spawns, and what it asks is answered by
its filter and the farm.  It finds its channel not empty, so neither the timer nor the client gets
a turn. -/
def alone (dir : SocketId → RouterSocket) (accepts : SocketId → Bool) (optHost : Option String)
    (p : FarmPool) : Label → Bool
  | .env _ => false
  | .task i c =>
      match p.tasks[i]? with
      | some (.acquire q .main) =>
          match c with
          | .sweep _ => true
          | _ => c == .precise (hasPreciseMatch dir p.shared q.resolvedRoute optHost)
      | some (.acquire _ (.scan (.recv _ _))) => c == .go
      | some (.acquire _ (.scan (.checkDark s _ _))) => c == .verdict (accepts s)
      | _ => true

/-- The acquisition in `p`, alone, returns `e`: no run returns another socket, and every run can go on
until it is returned. -/
def Returns (dir : SocketId → RouterSocket) (accepts : SocketId → Bool) (optHost : Option String)
    (p : FarmPool) (e : SocketId) : Prop :=
  ∀ p', (machine dir).Reach (fun p a => alone dir accepts optHost p a = true) p p' →
    (p'.shared.returned = p.shared.returned ∨ p'.shared.returned = e :: p.shared.returned) ∧
    ∃ p'', (machine dir).Reach (fun p a => alone dir accepts optHost p a = true) p' p'' ∧
      p''.shared.returned = e :: p.shared.returned

private theorem eligible_of_pick {f : WebSocketFarm} {accepts : SocketId → Bool} {precise : Bool}
    {s : SocketId} (halive : f.alive s = true) (hrem : f.isRemoved s = false)
    (hlit : (dir s).isDarkModeOn f.darkHosts = false)
    (hdomain : precise = true → (dir s).domain ≠ "*") (haccept : accepts s = true) :
    eligible dir f accepts precise s = true := by
  cases precise with
  | false => simp [eligible, halive, hrem, hlit, haccept]
  | true => simp [eligible, halive, hrem, hlit, haccept, hdomain rfl]

end Request

section Hunt

variable {elig : SocketId → Bool} {e u : SocketId} {pre post rest visited : List SocketId}

/-- The way to `e`: nothing before it is eligible, nothing is met twice. -/
structure Clear (elig : SocketId → Bool) (e : SocketId) (pre visited : List SocketId) : Prop where
  before : ∀ v ∈ pre, elig v = false
  target : elig e = true
  nodup : (pre ++ [e]).Nodup
  fresh : ∀ v ∈ pre ++ [e], v ∉ visited

private theorem head_cases (h : u :: rest = pre ++ e :: post) :
    (pre = [] ∧ u = e) ∨ ∃ pre', pre = u :: pre' ∧ rest = pre' ++ e :: post := by
  cases pre with
  | nil => exact .inl ⟨rfl, (List.cons.inj h).1⟩
  | cons v pre' =>
      obtain ⟨rfl, hrest⟩ := List.cons.inj h
      exact .inr ⟨pre', rfl, hrest⟩

private theorem Clear.head_fresh (h : Clear elig e pre visited)
    (hchan : u :: rest = pre ++ e :: post) :
    u ∉ visited := by
  rcases head_cases hchan with ⟨rfl, rfl⟩ | ⟨pre', rfl, -⟩
  · exact h.fresh u (by simp)
  · exact h.fresh u (by simp)

/-- An entry that is not eligible is passed. -/
theorem Clear.pass (h : Clear elig e pre visited) (hchan : u :: rest = pre ++ e :: post)
    (hu : elig u = false) :
    ∃ pre', pre = u :: pre' ∧ rest = pre' ++ e :: post ∧ Clear elig e pre' (u :: visited) := by
  rcases head_cases hchan with ⟨-, rfl⟩ | ⟨pre', rfl, hrest⟩
  · simp [h.target] at hu
  · obtain ⟨hfirst, hnodup⟩ := List.nodup_cons.mp h.nodup
    refine ⟨pre', rfl, hrest, fun v hv => h.before v (by simp [hv]), h.target, hnodup, ?_⟩
    intro v hv hmem
    rcases List.mem_cons.mp hmem with rfl | hmem
    · exact hfirst hv
    · exact h.fresh v (List.mem_cons_of_mem u hv) hmem

private theorem Clear.reached (h : Clear elig e pre visited) (hchan : u :: rest = pre ++ e :: post)
    (hu : elig u = true) : u = e := by
  rcases head_cases hchan with ⟨-, rfl⟩ | ⟨pre', rfl, -⟩
  · rfl
  · simp [h.before u (by simp)] at hu

theorem Clear.subset {visited' : List SocketId} (h : Clear elig e pre visited)
    (hsub : visited' ⊆ visited) : Clear elig e pre visited' :=
  ⟨h.before, h.target, h.nodup, fun v hv hmem => h.fresh v hv (hsub hmem)⟩

end Hunt

section Scan

variable (dir) (accepts : SocketId → Bool) (optHost : Option String) (q : Acquisition)
  (e : SocketId)

/-- The acquisition is on its way to `e`, with `pre` still before it. -/
inductive Hunting (f : WebSocketFarm) (pre : List SocketId) : AcquirePc → Prop
  | main (post : List SocketId) (hchan : f.chan q.chan = pre ++ e :: post)
      (hclear : Clear (eligible dir f accepts (hasPreciseMatch dir f q.resolvedRoute optHost)) e
        pre []) : Hunting f pre .main
  | recv (visited post : List SocketId) (hchan : f.chan q.chan = pre ++ e :: post)
      (hclear : Clear (eligible dir f accepts (hasPreciseMatch dir f q.resolvedRoute optHost)) e
        pre visited) :
      Hunting f pre (.scan (.recv visited (hasPreciseMatch dir f q.resolvedRoute optHost)))
  | upgrade (u : SocketId) (visited post : List SocketId)
      (hchan : u :: f.chan q.chan = pre ++ e :: post)
      (hclear : Clear (eligible dir f accepts (hasPreciseMatch dir f q.resolvedRoute optHost)) e
        pre visited) :
      Hunting f pre (.scan (.upgrade u visited (hasPreciseMatch dir f q.resolvedRoute optHost)))
  | checkRemoved (u : SocketId) (visited post : List SocketId)
      (hchan : u :: f.chan q.chan = pre ++ e :: post)
      (hclear : Clear (eligible dir f accepts (hasPreciseMatch dir f q.resolvedRoute optHost)) e
        pre visited) (halive : f.alive u = true) :
      Hunting f pre
        (.scan (.checkRemoved u (u :: visited) (hasPreciseMatch dir f q.resolvedRoute optHost)))
  | checkDark (u : SocketId) (visited post : List SocketId)
      (hchan : u :: f.chan q.chan = pre ++ e :: post)
      (hclear : Clear (eligible dir f accepts (hasPreciseMatch dir f q.resolvedRoute optHost)) e
        pre visited) (halive : f.alive u = true) (hrem : f.isRemoved u = false) :
      Hunting f pre
        (.scan (.checkDark u (u :: visited) (hasPreciseMatch dir f q.resolvedRoute optHost)))
  | putBack (u : SocketId) (visited post : List SocketId)
      (hchan : f.chan q.chan = pre ++ e :: post)
      (hclear : Clear (eligible dir f accepts (hasPreciseMatch dir f q.resolvedRoute optHost)) e
        pre visited) :
      Hunting f pre
        (.scan (.putBack u (.recv visited (hasPreciseMatch dir f q.resolvedRoute optHost))))
  | handOut : Hunting f pre (.scan (.putBack e .handOut))

variable {dir accepts optHost q e}

/-- How far the acquisition is from returning. -/
def rank (pre : List SocketId) : AcquirePc → Nat
  | .main => 8 * pre.length + 7
  | .scan (.putBack _ (.recv _ _)) => 8 * pre.length + 6
  | .scan (.recv _ _) => 8 * pre.length + 5
  | .scan (.upgrade _ _ _) => 8 * pre.length + 4
  | .scan (.checkRemoved _ _ _) => 8 * pre.length + 3
  | .scan (.checkDark _ _ _) => 8 * pre.length + 2
  | _ => 0

/-- The removals that the acquisition has spawned. -/
def Removals (f : WebSocketFarm) (ts : List Task) : Prop :=
  ∀ t ∈ ts, ∃ s pc, t = .remove s pc ∧ f.isRemoved s = true

/-- What the choices of an acquisition on its way are. -/
def AcquirePc.Answered (dir : SocketId → RouterSocket) (accepts : SocketId → Bool)
    (optHost : Option String) (f : WebSocketFarm) (q : Acquisition) (c : Choice) :
    AcquirePc → Prop
  | .main => (∃ s, c = .sweep s) ∨ c = .precise (hasPreciseMatch dir f q.resolvedRoute optHost)
  | .scan (.recv _ _) => c = .go
  | .scan (.checkDark s _ _) => c = .verdict (accepts s)
  | _ => True

variable {f f' : WebSocketFarm} {pre : List SocketId} {pc : AcquirePc} {c : Choice}
  {ts : List Task}

/-- What an acquisition and its removals leave as it is. -/
structure Still (dir : SocketId → RouterSocket) (optHost : Option String) (k : Route)
    (f f' : WebSocketFarm) : Prop where
  alive : f'.alive = f.alive
  isRemoved : f'.isRemoved = f.isRemoved
  darkHosts : f'.darkHosts = f.darkHosts
  precise : hasPreciseMatch dir f' k optHost = hasPreciseMatch dir f k optHost

private theorem AcquireMove.hunting (h : AcquireMove dir f q pc c f' ts)
    (hunt : Hunting dir accepts optHost q e f pre pc)
    (hanswer : pc.Answered dir accepts optHost f q c) :
    Still dir optHost q.resolvedRoute f f' ∧
    ((ts = [] ∧ f'.returned = e :: f.returned) ∨
      ∃ pre' pc' removals, ts = .acquire q pc' :: removals ∧ Removals f' removals ∧
        Hunting dir accepts optHost q e f' pre' pc' ∧ f'.returned = f.returned ∧
        (rank pre' pc' < rank pre pc ∨ ∃ s, c = .sweep s)) := by
  have hstill : ∀ {f'' : WebSocketFarm}, f''.alive = f.alive → f''.isRemoved = f.isRemoved →
      f''.darkHosts = f.darkHosts → f''.socketMap = f.socketMap →
      Still dir optHost q.resolvedRoute f f'' := by
    intro f'' halive hrem hdark hmap
    refine ⟨halive, hrem, hdark, ?_⟩
    cases optHost <;> simp [hasPreciseMatch, WebSocketFarm.socketsOf, hmap, hrem]
  have hnil : ∀ f'', Removals f'' [] := by simp [Removals]
  cases hunt with
  | main post hchan hclear =>
      cases h with
      | sweep s hr =>
          refine ⟨hstill rfl rfl rfl rfl, .inr ⟨pre, .main, [.remove s .recordTime], rfl, ?_,
            .main post hchan hclear, rfl, .inr ⟨s, rfl⟩⟩⟩
          simpa [Removals] using hr
      | enter b =>
          obtain rfl : b = hasPreciseMatch dir f q.resolvedRoute optHost := by
            simpa [AcquirePc.Answered] using hanswer
          exact ⟨hstill rfl rfl rfl rfl, .inr ⟨pre, _, [], rfl, hnil f, .recv [] post hchan hclear,
            rfl, .inl (by simp [rank])⟩⟩
  | recv visited post hchan hclear =>
      obtain rfl : c = .go := hanswer
      cases h with
      | take _ _ u rest hc =>
          refine ⟨hstill rfl rfl rfl rfl, .inr ⟨pre, _, [], rfl, hnil _,
            .upgrade u visited post ?_ hclear, rfl, .inl (by simp [rank])⟩⟩
          simpa [WebSocketFarm.takeHead, hc] using hchan
  | upgrade u visited post hchan hclear =>
      cases h with
      | dead _ _ _ _ ha =>
          obtain ⟨pre', rfl, hrest, hclear'⟩ := hclear.pass hchan (by simp [eligible, ha])
          exact ⟨hstill rfl rfl rfl rfl, .inr ⟨pre', _, [], rfl, hnil f,
            .recv visited post hrest (hclear'.subset (List.subset_cons_self u visited)), rfl,
            .inl (by simp [rank]; omega)⟩⟩
      | again _ _ _ _ ha hv => exact absurd hv (hclear.head_fresh hchan)
      | first _ _ _ _ ha hv =>
          exact ⟨hstill rfl rfl rfl rfl, .inr ⟨pre, _, [], rfl, hnil f,
            .checkRemoved u visited post hchan hclear ha, rfl, .inl (by simp [rank])⟩⟩
  | checkRemoved u visited post hchan hclear halive =>
      cases h with
      | removed _ _ _ _ hr =>
          obtain ⟨pre', rfl, hrest, hclear'⟩ := hclear.pass hchan (by simp [eligible, hr])
          refine ⟨hstill rfl rfl rfl rfl, .inr ⟨pre', _, [.remove u .recordTime], rfl, ?_,
            .recv _ post hrest (hclear'.subset fun v hv => List.mem_of_mem_erase hv), rfl,
            .inl (by simp [rank]; omega)⟩⟩
          simpa [Removals] using hr
      | kept _ _ _ _ hr =>
          exact ⟨hstill rfl rfl rfl rfl, .inr ⟨pre, _, [], rfl, hnil f,
            .checkDark u visited post hchan hclear halive hr, rfl, .inl (by simp [rank])⟩⟩
  | checkDark u visited post hchan hclear halive hrem =>
      have huse : ∀ {b}, c = .verdict b → b = accepts u := by
        rintro b rfl
        simpa [AcquirePc.Answered] using hanswer
      cases h with
      | skip _ _ _ shouldUse hskip =>
          obtain rfl := huse rfl
          have hnot : eligible dir f accepts (hasPreciseMatch dir f q.resolvedRoute optHost) u =
              false := by
            rcases hskip with hdark | ⟨hprecise, hdomain⟩ | hno
            · simp [eligible, hdark]
            · simp [eligible, hprecise, hdomain]
            · simp [eligible, hno]
          obtain ⟨pre', rfl, hrest, hclear'⟩ := hclear.pass hchan hnot
          exact ⟨hstill rfl rfl rfl rfl, .inr ⟨pre', _, [], rfl, hnil f,
            .putBack u (u :: visited) post hrest hclear', rfl, .inl (by simp [rank]; omega)⟩⟩
      | pickV3 _ _ _ hdark hdomain hv =>
          have hyes : accepts u = true := (huse rfl).symm
          obtain rfl := hclear.reached hchan (eligible_of_pick halive hrem hdark hdomain hyes)
          exact ⟨hstill rfl rfl rfl rfl, .inr ⟨pre, _, [], rfl, hnil f, .handOut, rfl,
            .inl (by simp [rank])⟩⟩
      | pickV1 _ _ _ hdark hdomain hv =>
          have hyes : accepts u = true := (huse rfl).symm
          obtain rfl := hclear.reached hchan (eligible_of_pick halive hrem hdark hdomain hyes)
          exact ⟨hstill rfl rfl rfl rfl, .inl ⟨rfl, rfl⟩⟩
  | putBack u visited post hchan hclear =>
      cases h with
      | putBack =>
          refine ⟨hstill rfl rfl rfl rfl, .inr ⟨pre, _, [], rfl, hnil _,
            .recv visited (post ++ [u]) ?_ hclear, rfl, .inl (by simp [rank])⟩⟩
          simp [WebSocketFarm.send, hchan]
  | handOut =>
      cases h with
      | putBackPicked => exact ⟨hstill rfl rfl rfl rfl, .inl ⟨rfl, rfl⟩⟩

theorem Removals.one {s : SocketId} (pc : RemovePc) (hs : f.isRemoved s = true) :
    Removals f [.remove s pc] := by
  intro t ht
  exact ⟨s, pc, List.mem_singleton.mp ht, hs⟩

private theorem removal_still {s : SocketId} {pc : RemovePc} (optHost : Option String) (k : Route)
    (h : exec dir f (.remove s pc) c = some (f', ts)) (hs : f.isRemoved s = true) :
    Still dir optHost k f f' ∧ f'.chan = f.chan ∧ f'.returned = f.returned ∧ Removals f' ts := by
  have hprecise : ∀ {f'' : WebSocketFarm}, f''.isRemoved = f.isRemoved →
      f''.socketMap = f.socketMap →
      hasPreciseMatch dir f'' k optHost = hasPreciseMatch dir f k optHost := by
    intro f'' hrem hmap
    cases optHost <;> simp [hasPreciseMatch, WebSocketFarm.socketsOf, hmap, hrem]
  have hidle : ∀ n, Still dir optHost k f (f.addIdle n) ∧ (f.addIdle n).chan = f.chan ∧
      (f.addIdle n).returned = f.returned ∧ Removals (f.addIdle n) [.remove s .store] :=
    fun n => ⟨⟨rfl, rfl, rfl, hprecise rfl rfl⟩, rfl, rfl, .one .store hs⟩
  cases exec_transition h with
  | acquisition hacq => simp [Task.isAcquisition] at hacq
  | recordTime s time =>
      exact ⟨⟨rfl, rfl, rfl, hprecise rfl rfl⟩, rfl, rfl, .one .lookup hs⟩
  | removeFound s c hreg =>
      refine ⟨⟨rfl, rfl, rfl, ?_⟩, rfl, rfl, .one .decrement hs⟩
      cases optHost with
      | none => rfl
      | some host =>
          simp only [hasPreciseMatch, socketsOf_setSockets]
          split_ifs with hk
          · -- the erased socket is marked removed, so it does not count
            subst hk
            rw [Bool.eq_iff_iff, List.any_eq_true, List.any_eq_true]
            constructor
            · rintro ⟨v, hv, hmatch⟩
              exact ⟨v, List.mem_of_mem_erase hv, hmatch⟩
            · rintro ⟨v, hv, hmatch⟩
              have hne : v ≠ s := by
                rintro rfl
                simp [hs] at hmatch
              exact ⟨v, (List.mem_erase_of_ne hne).mpr hv, hmatch⟩
          · rfl
  | removeMissing s c hreg =>
      exact ⟨⟨rfl, rfl, rfl, rfl⟩, rfl, rfl, by simp [Removals]⟩
  | decrement s c => exact hidle (-1)
  | store s c =>
      have hsame : (f.setRemoved s).isRemoved = f.isRemoved := by
        rw [WebSocketFarm.setRemoved, ← hs]
        exact Function.update_eq_self s f.isRemoved
      exact ⟨⟨rfl, hsame, rfl, hprecise hsame rfl⟩, rfl, rfl, by simp [Removals]⟩

theorem Hunting.congr (h : Hunting dir accepts optHost q e f pre pc)
    (hstill : Still dir optHost q.resolvedRoute f f') (hchan : f'.chan = f.chan) :
    Hunting dir accepts optHost q e f' pre pc := by
  have helig : eligible dir f' accepts = eligible dir f accepts := by
    funext precise s
    simp [eligible, hstill.alive, hstill.isRemoved, hstill.darkHosts]
  cases h with
  | handOut => exact .handOut
  | main post hc hclear =>
      refine .main post (by rw [hchan, hc]) ?_
      rwa [helig, hstill.precise]
  | recv visited post hc hclear =>
      rw [← hstill.precise]
      refine .recv visited post (by rw [hchan, hc]) ?_
      rwa [helig, hstill.precise]
  | upgrade u visited post hc hclear =>
      rw [← hstill.precise]
      refine .upgrade u visited post (by rw [hchan, hc]) ?_
      rwa [helig, hstill.precise]
  | checkRemoved u visited post hc hclear halive =>
      rw [← hstill.precise]
      refine .checkRemoved u visited post (by rw [hchan, hc]) ?_ (by rw [hstill.alive, halive])
      rwa [helig, hstill.precise]
  | checkDark u visited post hc hclear halive hrem =>
      rw [← hstill.precise]
      refine .checkDark u visited post (by rw [hchan, hc]) ?_ (by rw [hstill.alive, halive])
        (by rw [hstill.isRemoved, hrem])
      rwa [helig, hstill.precise]
  | putBack u visited post hc hclear =>
      rw [← hstill.precise]
      refine .putBack u visited post (by rw [hchan, hc]) ?_
      rwa [helig, hstill.precise]

end Scan

section Runs

variable (dir) (accepts : SocketId → Bool) (optHost : Option String) (q : Acquisition)
  (e : SocketId) (returned : List SocketId)

/-- The runs of one acquisition that returns `e`: it is on its way, or it has returned. -/
inductive OnTheWay (p : FarmPool) : Prop
  | hunting (pre : List SocketId) (pc : AcquirePc) (removals : List Task)
      (htasks : p.tasks = .acquire q pc :: removals) (hremovals : Removals p.shared removals)
      (hunt : Hunting dir accepts optHost q e p.shared pre pc)
      (hret : p.shared.returned = returned) : OnTheWay p
  | done (hremovals : Removals p.shared p.tasks) (hret : p.shared.returned = e :: returned) :
      OnTheWay p

variable {dir accepts optHost q e returned}

theorem Removals.congr {f f' : WebSocketFarm} {ts : List Task} (h : Removals f ts)
    (hrem : f'.isRemoved = f.isRemoved) : Removals f' ts := by
  intro t ht
  obtain ⟨s, pc, rfl, hs⟩ := h t ht
  exact ⟨s, pc, rfl, by rw [hrem, hs]⟩

private theorem Removals.replace {f : WebSocketFarm} {l ts r : List Task} {t : Task}
    (h : Removals f (l ++ t :: r)) (hts : Removals f ts) : Removals f (l ++ ts ++ r) := by
  intro u hu
  simp only [List.mem_append] at hu
  rcases hu with (hu | hu) | hu
  · exact h u (by simp [hu])
  · exact hts u hu
  · exact h u (by simp [hu])

private theorem answered_of_alone {p : FarmPool} {i : Nat} {c : Choice} {pc : AcquirePc}
    (hi : p.tasks[i]? = some (.acquire q pc)) (h : alone dir accepts optHost p (.task i c) = true) :
    pc.Answered dir accepts optHost p.shared q c := by
  cases pc with
  | main => cases c <;> simp_all [alone, AcquirePc.Answered]
  | scan pc => cases pc <;> simp_all [alone, AcquirePc.Answered]
  | _ => trivial

theorem OnTheWay.step {p p' : FarmPool} {a : Label}
    (hp : OnTheWay dir accepts optHost q e returned p)
    (hok : alone dir accepts optHost p a = true) (h : Farm.step dir p a = some p') :
    OnTheWay dir accepts optHost q e returned p' := by
  rcases step_cases dir h with ⟨i, c, l, t, r, f, ts, rfl, hi, htasks, hexec, rfl⟩ | ⟨e', rfl, -, -⟩
  swap
  · simp [alone] at hok
  cases hp with
  | done hremovals hret =>
      rw [htasks] at hremovals
      obtain ⟨s, pc, rfl, hs⟩ := hremovals t (by simp)
      obtain ⟨hstill, -, hret', hts⟩ := removal_still optHost q.resolvedRoute hexec hs
      exact .done ((hremovals.congr hstill.isRemoved).replace hts) (hret'.trans hret)
  | hunting pre pc removals hacq hremovals hunt hret =>
      rw [htasks] at hacq
      cases l with
      | nil =>
          obtain ⟨rfl, rfl⟩ := List.cons.inj hacq
          obtain ⟨hstill, hnext⟩ := (execAcquire_move hexec).hunting hunt
            (answered_of_alone hi hok)
          have hkept := hremovals.congr hstill.isRemoved
          rcases hnext with ⟨rfl, hret'⟩ | ⟨pre', pc', more, rfl, hmore, hunt', hret', -⟩
          · exact .done hkept (by rw [hret', hret])
          · refine .hunting pre' pc' (more ++ r) (by simp) ?_ hunt' (hret'.trans hret)
            intro u hu
            rcases List.mem_append.mp hu with hu | hu
            · exact hmore u hu
            · exact hkept u hu
      | cons first l =>
          obtain ⟨rfl, rfl⟩ := List.cons.inj hacq
          obtain ⟨s, pc', rfl, hs⟩ := hremovals t (by simp)
          obtain ⟨hstill, hchan, hret', hts⟩ :=
            removal_still optHost q.resolvedRoute hexec hs
          exact .hunting pre pc (l ++ ts ++ r) (by simp)
            ((hremovals.congr hstill.isRemoved).replace hts) (hunt.congr hstill hchan)
            (hret'.trans hret)

/-- An acquisition on its way is never stuck. -/
theorem Hunting.enabled {f : WebSocketFarm} {pre : List SocketId} {pc : AcquirePc}
    (h : Hunting dir accepts optHost q e f pre pc) :
    ∃ c, pc.Answered dir accepts optHost f q c ∧ (∀ s, c ≠ .sweep s) ∧
      (exec dir f (.acquire q pc) c).isSome = true := by
  cases h with
  | main post hchan hclear => exact ⟨.precise _, .inr rfl, by simp, rfl⟩
  | recv visited post hchan hclear =>
      refine ⟨.go, rfl, by simp, ?_⟩
      simp only [exec, execAcquire, execScan]
      cases hc : f.chan q.chan with
      | nil => simp [hc] at hchan
      | cons u rest => rfl
  | upgrade u visited post hchan hclear =>
      refine ⟨.go, trivial, by simp, ?_⟩
      simp only [exec, execAcquire, execScan]
      split_ifs <;> rfl
  | checkRemoved u visited post hchan hclear halive =>
      refine ⟨.go, trivial, by simp, ?_⟩
      simp only [exec, execAcquire, execScan]
      split_ifs <;> rfl
  | checkDark u visited post hchan hclear halive hrem =>
      refine ⟨.verdict (accepts u), rfl, by simp, ?_⟩
      simp only [exec, execAcquire, execScan]
      split_ifs <;> first | rfl | (split <;> rfl)
  | putBack u visited post hchan hclear => exact ⟨.go, trivial, by simp, rfl⟩
  | handOut => exact ⟨.go, trivial, by simp, rfl⟩

private theorem alone_of_answered {p : FarmPool} {c : Choice} {pc : AcquirePc}
    (hi : p.tasks[0]? = some (.acquire q pc)) (h : pc.Answered dir accepts optHost p.shared q c) :
    alone dir accepts optHost p (.task 0 c) = true := by
  cases pc with
  | main =>
      rcases h with ⟨s, rfl⟩ | rfl
      · simp [alone, hi]
      · simp [alone, hi]
  | scan pc => cases pc <;> simp_all [alone, AcquirePc.Answered]
  | _ => simp [alone, hi]

/-- Every run can go on until the acquisition returns. -/
theorem Hunting.returns {n : Nat} : ∀ {f : WebSocketFarm} {pre : List SocketId} {pc : AcquirePc}
    (removals : List Task), Hunting dir accepts optHost q e f pre pc → rank pre pc < n →
    ∃ p', (machine dir).Reach (fun p a => alone dir accepts optHost p a = true)
      ⟨f, .acquire q pc :: removals⟩ p' ∧ p'.shared.returned = e :: f.returned := by
  induction n with
  | zero =>
      intro f pre pc removals _ hlt
      omega
  | succ n ih =>
      intro f pre pc removals hunt hlt
      obtain ⟨c, hanswer, hsweep, hsome⟩ := hunt.enabled
      obtain ⟨⟨f', ts⟩, hexec⟩ := Option.isSome_iff_exists.mp hsome
      have hnext : (machine dir).Next (fun p a => alone dir accepts optHost p a = true)
          ⟨f, .acquire q pc :: removals⟩ ⟨f', ts ++ removals⟩ := by
        refine ⟨.task 0 c, alone_of_answered rfl hanswer, ?_⟩
        simp [machine, Farm.step, Pool.step, hexec]
      obtain ⟨-, ⟨rfl, hret⟩ | ⟨pre', pc', more, rfl, -, hunt', hret, hrank⟩⟩ :=
        (execAcquire_move hexec).hunting hunt hanswer
      · exact ⟨_, .single hnext, hret⟩
      · have hless : rank pre' pc' < n := by
          rcases hrank with hrank | ⟨s, rfl⟩
          · omega
          · exact absurd rfl (hsweep s)
        obtain ⟨p', hreach, hret'⟩ := ih (more ++ removals) hunt' hless
        exact ⟨p', hreach.head hnext, by rw [hret', hret]⟩

/-- An acquisition that begins its main loop returns the first eligible entry of its channel. -/
private theorem returns_firstEligible {p : FarmPool} (hp : Conserved dir p.shared p.tasks)
    (htasks : p.tasks = [.acquire q .main])
    (he : firstEligible dir p.shared q accepts optHost = some e) :
    Returns dir accepts optHost p e := by
  obtain ⟨helig, pre, post, hchan, hbefore⟩ := List.find?_eq_some_iff_append.mp he
  have hnodup : (p.shared.chan q.chan).Nodup := by
    refine List.nodup_iff_count_le_one.mpr fun u => ?_
    have honce := hp.once q.chan u
    simp only [occurrences] at honce
    omega
  have hclear : Clear (eligible dir p.shared accepts
      (hasPreciseMatch dir p.shared q.resolvedRoute optHost)) e pre [] := by
    refine ⟨fun v hv => by simpa using hbefore v hv, helig, ?_, by simp⟩
    rw [hchan, List.append_cons] at hnodup
    exact (List.nodup_append.mp hnodup).1
  have hstart : OnTheWay dir accepts optHost q e p.shared.returned p :=
    .hunting pre .main [] htasks (by simp [Removals]) (.main post hchan hclear) rfl
  intro p' hreach
  have hway : OnTheWay dir accepts optHost q e p.shared.returned p' :=
    hreach.invariant (fun u a v hu hok hstep => hu.step hok hstep) hstart
  obtain ⟨f, ts⟩ := p'
  cases hway with
  | done hremovals hret => exact ⟨.inr hret, _, .refl, hret⟩
  | hunting pre' pc removals htasks' hremovals hunt hret =>
      obtain rfl : ts = .acquire q pc :: removals := htasks'
      obtain ⟨p'', hreach', hret'⟩ := Hunting.returns removals hunt (Nat.lt_succ_self _)
      exact ⟨.inl hret, p'', hreach', by rw [hret']; exact congrArg (e :: ·) hret⟩

theorem Returns.unique {p : FarmPool} {e e' : SocketId} (h : Returns dir accepts optHost p e)
    (h' : Returns dir accepts optHost p e') : e = e' := by
  obtain ⟨-, p', hreach, hret⟩ := h p .refl
  rcases (h' p' hreach).1 with hnone | hsome
  · rw [hret] at hnone
    simp at hnone
  · exact (List.cons.inj (hret.symm.trans hsome)).1

end Runs

/-- An acquisition of a request with host `host`, run alone, whose channel holds a living socket of
that domain that is not removed, not dark and accepted by the filter: if the first eligible entry of
the channel is of the domain, the socket it returns is.  The converse is for hosts other than `"*"`:
a socket of domain `"*"` is never a precise match. -/
theorem precise_domain_wins_iff (dir : SocketId → RouterSocket) (p : FarmPool) (q : Acquisition)
    (accepts : SocketId → Bool) (uriHost : Option String) (headers : HeaderMap) (host : String)
    (s : SocketId) (h : (machine dir).Reachable Machine.anyAction p)
    (htasks : p.tasks = [.acquire q .main])
    (hhost : getOptHostFromUriAndHeaders uriHost headers = some host)
    (hs : s ∈ p.shared.chan q.chan) (halive : p.shared.alive s = true)
    (hrem : p.shared.isRemoved s = false)
    (hlit : (dir s).isDarkModeOn p.shared.darkHosts = false) (hdomain : (dir s).domain = host)
    (haccept : accepts s = true) :
    ((∃ e, firstEligible dir p.shared q accepts (getOptHostFromUriAndHeaders uriHost headers) =
        some e ∧ (dir e).domain = host) →
      ∃ e, Returns dir accepts (getOptHostFromUriAndHeaders uriHost headers) p e ∧
        (dir e).domain = host) ∧
    (host ≠ "*" →
      (∃ e, Returns dir accepts (getOptHostFromUriAndHeaders uriHost headers) p e ∧
        (dir e).domain = host) →
      ∃ e, firstEligible dir p.shared q accepts (getOptHostFromUriAndHeaders uriHost headers) =
        some e ∧ (dir e).domain = host) := by
  have hcons := conserved_of_reachable h
  rw [hhost]
  refine ⟨?_, ?_⟩
  · rintro ⟨e, he, hde⟩
    exact ⟨e, returns_firstEligible hcons htasks he, hde⟩
  · rintro hstar ⟨e, hret, hde⟩
    have helig : eligible dir p.shared accepts
        (hasPreciseMatch dir p.shared q.resolvedRoute (some host)) s = true :=
      eligible_of_pick halive hrem hlit (fun _ => hdomain ▸ hstar) haccept
    obtain ⟨e', he'⟩ : ∃ e', firstEligible dir p.shared q accepts (some host) = some e' := by
      rw [← Option.isSome_iff_exists]
      exact List.find?_isSome.mpr ⟨s, hs, helig⟩
    obtain rfl := (returns_firstEligible hcons htasks he').unique hret
    exact ⟨e', he', hde⟩

/-- Three V3 sockets of one route, of domains `"*"`, `"shop"` and `"blog"`. -/
def shopDir : SocketId → RouterSocket := fun s =>
  { route := "orders", connectorId := "connector", remoteIp := 1, crankerVersion := .v3
    domain := if s = 0 then "*" else if s = 1 then "shop" else "blog" }

/-- The sockets have been added in the given order, and an acquisition begins. -/
def shopState (first second : SocketId) : FarmPool :=
  (machine shopDir).run Machine.anyAction ⟨.new, []⟩
    [.env (.add first), .task 0 .go, .task 0 .go, .task 0 .go,
     .env (.add second), .task 0 .go, .task 0 .go, .task 0 .go,
     .env (.acquire ⟨true, false, true⟩), .task 0 (.route "orders")]

theorem precise_domain_wins_iff_shop :
    ∃ e, Returns shopDir (fun _ => true) (some "shop") (shopState 0 1) e ∧
      (shopDir e).domain = "shop" := by
  have hwins := precise_domain_wins_iff shopDir (shopState 0 1) ⟨⟨true, false, true⟩, "orders", 0⟩
    (fun _ => true) (some "shop") .new "shop" 1 (Machine.reachable_run _ _ rfl _)
    (by decide +kernel) rfl (by decide +kernel) (by decide +kernel) (by decide +kernel)
    (by decide +kernel) rfl rfl
  exact hwins.1 ⟨1, by decide +kernel, rfl⟩

/-- The filter that accepts every socket, and a socket of another domain first in the channel: the
acquisition for host `"shop"` returns the socket of domain `"blog"`. -/
theorem other_domain_returned :
    (shopState 2 1).shared.chan 0 = [2, 1] ∧ (shopDir 1).domain = "shop" ∧
      eligible shopDir (shopState 2 1).shared (fun _ => true) true 1 = true ∧
      (((machine shopDir).exec (fun p a => alone shopDir (fun _ => true) (some "shop") p a = true)
        (shopState 2 1) [.task 0 (.precise true), .task 0 .go, .task 0 .go, .task 0 .go,
          .task 0 (.verdict true), .task 0 .go]).map (·.shared.returned) = some [2]) ∧
      (shopDir 2).domain = "blog" := by
  decide +kernel

end CrankerRouter.Farm
