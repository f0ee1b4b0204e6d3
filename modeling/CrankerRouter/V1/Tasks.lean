import CrankerRouter.V1.Channels
import CrankerRouter.V1.Upload

/-!
# The tasks of a V1 socket

The operations that are still to run are counted over all tasks.  A task is spawned, and the timer
goes off, where the list is empty: no operation is lost.
-/

namespace CrankerRouter.V1

open Lib

variable {dbg : DebugText} {x y z : Socket} {role : Role}

def Role.all : List Role := [.handler, .sender, .watcher, .recv, .sendPipe, .timer]

theorem Role.mem_all (role : Role) : role ∈ Role.all := by cases role <;> decide

/-- The number of operations with a property that are still to run. -/
def Socket.tally (P : Op → Bool) (x : Socket) : Nat :=
  Pool.total (fun role => (x.tasks role).countP P) Role.all

theorem tally_pos_iff {P : Op → Bool} : 0 < x.tally P ↔ ∃ role, ∃ o ∈ x.tasks role, P o = true := by
  constructor
  · intro h
    by_contra hnone
    have hzero : x.tally P = 0 := by
      refine Pool.total_eq_zero fun role _ => List.countP_eq_zero.mpr fun o ho hP => ?_
      exact hnone ⟨role, o, ho, hP⟩
    omega
  · rintro ⟨role, o, ho, hP⟩
    have hcount : 0 < (x.tasks role).countP P := List.countP_pos_iff.mpr ⟨o, ho, hP⟩
    exact hcount.trans_le (Pool.le_total_of_mem (fun role => (x.tasks role).countP P) role.mem_all)

theorem tally_congr {P : Op → Bool} (h : y.tasks = x.tasks) : y.tally P = x.tally P := by
  unfold Socket.tally
  rw [h]

theorem tally_setTask (x : Socket) (role : Role) (ops : List Op) (P : Op → Bool) :
    (x.setTask role ops).tally P + (x.tasks role).countP P = x.tally P + ops.countP P := by
  cases role <;> simp [Socket.tally, Role.all, Socket.setTask] <;> omega

/-- The operations of `raise_completion_event`. -/
def Op.raises : Op → Bool
  | .raise _ | .complete _ _ => true
  | _ => false

private theorem countP_eq_zero_of_raises {P : Op → Bool} (hP : ∀ o, P o = true → o.raises = true)
    {l : List Op} (hl : ∀ o ∈ l, o.raises = false) : l.countP P = 0 := by
  refine List.countP_eq_zero.mpr fun o ho h => ?_
  have hraises := hP o h
  rw [hl o ho] at hraises
  cases hraises

/-- Over all runs: what is spawned finds an empty list. -/
structure Staged (x : Socket) : Prop where
  fits : Fits x
  handler : (x.tasks .handler).length ≤ 1
  fresh : x.served = false → x.tasks .handler = [] ∧ x.tasks .sender = [] ∧ x.tasks .watcher = []
  starting : ∀ o ∈ x.tasks .handler, o.starts = true → x.tasks .sender = []
  serving : ∀ o ∈ x.tasks .handler, o.serves = true → x.tasks .watcher = []
  timer : x.timedOut = false → x.tasks .timer = []

section Move

variable {op o : Op} {rest more : List Op} {spawned : Option (Role × List Op)}

private theorem Move.serves_of_mem (h : Move dbg x op y more spawned) (ho : o ∈ more)
    (hserves : o.serves = true) :
    op.serves = true ∧ spawned ≠ some (.watcher, [.awaitStreamEnd]) := by
  have hleads := h.leadsTo_of_mem ho
  obtain ⟨hop, hne⟩ : op.serves = true ∧ ∀ content, op ≠ .respond content := by
    cases o with
    | storeStart | beforeProxyToTarget | recvHeader | respond =>
        cases op <;> first | (cases hleads; done) | exact ⟨rfl, by simp⟩
    | checkRemoved => cases hleads
    | _ => cases hserves
  refine ⟨hop, ?_⟩
  obtain rfl | ⟨text, hasBody, -, rfl⟩ | ⟨content, hrespond, -⟩ := h.spawned_cases
  · simp
  · simp
  · exact absurd hrespond (hne content)

theorem Move.timedOut (h : Move dbg x op y more spawned) : y.timedOut = x.timedOut := by
  cases h with
  | errorLost crex inClose hclosed | completeFails listener inClose crex =>
      unfold Socket.collectErr
      split <;> rfl
  | _ => rfl

private theorem Staged.role_of_spawned (hx : Staged x) (hops : x.tasks role = op :: rest)
    (hmove : Move dbg x op y more spawned) : spawned = none ∨ role = .handler := by
  have hfit : op.fits role = true := hx.fits role op (by simp [hops])
  rcases hmove.spawned_cases with hnone | ⟨text, hasBody, rfl, -⟩ | ⟨content, rfl, -⟩
  · exact .inl hnone
  · exact .inr (by cases role <;> first | rfl | cases hfit)
  · exact .inr (by cases role <;> first | rfl | cases hfit)

theorem Staged.rest_eq (hx : Staged x) (hops : x.tasks .handler = op :: rest) : rest = [] := by
  have hlen := hx.handler
  rw [hops, List.length_cons] at hlen
  exact List.length_eq_zero_iff.mp (by omega)

/-- What a step adds to the count; what is spawned is not counted. -/
theorem Staged.tally_task (hx : Staged x) (hops : x.tasks role = op :: rest)
    (hmove : Move dbg x op y more spawned) {P : Op → Bool}
    (hP : ∀ o, P o = true → o.raises = true) :
    ((y.setTask role (more ++ rest)).spawn spawned).tally P + [op].countP P =
      x.tally P + more.countP P := by
  have hset := tally_setTask y role (more ++ rest) P
  rw [hmove.frame.tasks, hops, tally_congr hmove.frame.tasks, List.countP_append,
    ← List.singleton_append, List.countP_append] at hset
  rcases hmove.spawned_cases with rfl | ⟨text, hasBody, rfl, rfl⟩ | ⟨content, rfl, rfl⟩
  · simp only [Socket.spawn]
    omega
  · obtain rfl : role = .handler := (hx.role_of_spawned hops hmove).resolve_left (by simp)
    have hsender : x.tasks .sender = [] :=
      hx.starting (.beforeProxyToTarget text hasBody) (by simp [hops]) rfl
    have hspawn := tally_setTask (y.setTask .handler (more ++ rest)) .sender
      [.storeCanSend text hasBody] P
    have hempty : (y.setTask .handler (more ++ rest)).tasks .sender = [] := by
      simp [Socket.setTask, hmove.frame.tasks, hsender]
    have hzero : [Op.storeCanSend text hasBody].countP P = 0 :=
      countP_eq_zero_of_raises hP (by simp [Op.raises])
    rw [hempty, List.countP_nil] at hspawn
    simp only [Socket.spawn]
    omega
  · obtain rfl : role = .handler := (hx.role_of_spawned hops hmove).resolve_left (by simp)
    have hwatcher : x.tasks .watcher = [] := hx.serving (.respond content) (by simp [hops]) rfl
    have hspawn := tally_setTask (y.setTask .handler (more ++ rest)) .watcher [.awaitStreamEnd] P
    have hempty : (y.setTask .handler (more ++ rest)).tasks .watcher = [] := by
      simp [Socket.setTask, hmove.frame.tasks, hwatcher]
    have hzero : [Op.awaitStreamEnd].countP P = 0 :=
      countP_eq_zero_of_raises hP (by simp [Op.raises])
    rw [hempty, List.countP_nil] at hspawn
    simp only [Socket.spawn]
    omega

/-- Every task but the handler leaves the handler's list alone. -/
theorem Move.handler_after (hmove : Move dbg x op y more spawned) (role : Role) (rest : List Op) :
    ((y.setTask role (more ++ rest)).spawn spawned).tasks .handler =
      if .handler = role then more ++ rest else x.tasks .handler := by
  rcases hmove.tasks_after role rest .handler with heq | ⟨hrole, -⟩ | ⟨hrole, -⟩
  · exact heq
  · cases hrole
  · cases hrole

private theorem Move.nil_after (hmove : Move dbg x op y more spawned)
    (hops : x.tasks role = op :: rest)
    {role' : Role} (hnil : x.tasks role' = []) (hspawn : ∀ ops, spawned ≠ some (role', ops)) :
    ((y.setTask role (more ++ rest)).spawn spawned).tasks role' = [] := by
  have hne : role' ≠ role := by
    rintro rfl
    rw [hnil] at hops
    cases hops
  have hset : (y.setTask role (more ++ rest)).tasks role' = [] := by
    simp [Socket.setTask, hne, hmove.frame.tasks, hnil]
  rcases hmove.spawned_cases with rfl | ⟨text, hasBody, -, rfl⟩ | ⟨content, -, rfl⟩
  · exact hset
  · have hsender : role' ≠ .sender := by
      rintro rfl
      exact hspawn _ rfl
    simpa [Socket.spawn, Socket.setTask, hsender] using hset
  · have hwatcher : role' ≠ .watcher := by
      rintro rfl
      exact hspawn _ rfl
    simpa [Socket.spawn, Socket.setTask, hwatcher] using hset

theorem Staged.task (hx : Staged x) (hops : x.tasks role = op :: rest)
    (hmove : Move dbg x op y more spawned)
    (hfits : Fits ((y.setTask role (more ++ rest)).spawn spawned)) :
    Staged ((y.setTask role (more ++ rest)).spawn spawned) := by
  have hhandler := hmove.handler_after role rest
  -- what the handler goes on with follows from its operation
  have hmem : ∀ o ∈ ((y.setTask role (more ++ rest)).spawn spawned).tasks .handler,
      role ≠ .handler ∧ o ∈ x.tasks .handler ∨ x.tasks .handler = [op] ∧ o ∈ more := by
    intro o ho
    rw [hhandler] at ho
    split_ifs at ho with hrole
    · subst hrole
      obtain rfl := hx.rest_eq hops
      exact .inr ⟨hops, by simpa using ho⟩
    · exact .inl ⟨Ne.symm hrole, ho⟩
  refine ⟨hfits, ?_, ?_, ?_, ?_, ?_⟩
  · rw [hhandler]
    split_ifs with hrole
    · subst hrole
      obtain rfl := hx.rest_eq hops
      rw [List.append_nil]
      refine hmove.length_le_one ?_
      have hfit := hx.fits .handler op (by simp [hops])
      cases hgroup : op.group <;> simp [Op.fits, hgroup] at hfit ⊢
    · exact hx.handler
  · intro hserved
    rw [Socket.spawn_served, Socket.setTask_served, hmove.frame.served] at hserved
    obtain ⟨hnone, hsender, hwatcher⟩ := hx.fresh hserved
    have hne : role ≠ .handler := by
      rintro rfl
      rw [hnone] at hops
      cases hops
    have hspawned : spawned = none := (hx.role_of_spawned hops hmove).resolve_right hne
    refine ⟨?_, hmove.nil_after hops hsender (by simp [hspawned]),
      hmove.nil_after hops hwatcher (by simp [hspawned])⟩
    rw [hhandler, if_neg (Ne.symm hne)]
    exact hnone
  · intro o ho hstarts
    rcases hmem o ho with ⟨hne, hold⟩ | ⟨hold, hnew⟩
    · have hspawned : spawned = none := (hx.role_of_spawned hops hmove).resolve_right hne
      exact hmove.nil_after hops (hx.starting o hold hstarts) (by simp [hspawned])
    · obtain ⟨hop, -, hspawned⟩ := hmove.starts_of_mem hnew hstarts
      have hsender := hx.starting op (by simp [hold]) hop
      exact hmove.nil_after hops hsender (by simp [hspawned])
  · intro o ho hserves
    rcases hmem o ho with ⟨hne, hold⟩ | ⟨hold, hnew⟩
    · have hspawned : spawned = none := (hx.role_of_spawned hops hmove).resolve_right hne
      exact hmove.nil_after hops (hx.serving o hold hserves) (by simp [hspawned])
    · obtain ⟨hop, hspawned⟩ := hmove.serves_of_mem hnew hserves
      have hwatcher := hx.serving op (by simp [hold]) hop
      refine hmove.nil_after hops hwatcher fun ops heq => ?_
      rcases hmove.spawned_cases with hnone | ⟨text, hasBody, -, hsome⟩ | ⟨content, -, hsome⟩
      · rw [hnone] at heq
        cases heq
      · rw [hsome] at heq
        cases heq
      · exact hspawned hsome
  · intro htimer
    have htimed : ((y.setTask role (more ++ rest)).spawn spawned).timedOut = x.timedOut := by
      rw [← hmove.timedOut]
      cases spawned <;> rfl
    rw [htimed] at htimer
    refine hmove.nil_after hops (hx.timer htimer) fun ops heq => ?_
    rcases hmove.spawned_cases with hnone | ⟨text, hasBody, -, hsome⟩ | ⟨content, -, hsome⟩ <;>
      simp_all

end Move

theorem Staged.of_same (hx : Staged x) (hfits : Fits y) (hserved : y.served = x.served)
    (htasks : ∀ role ∈ [Role.handler, .sender, .watcher], y.tasks role = x.tasks role)
    (htimer : y.timedOut = false → x.timedOut = false ∧ y.tasks .timer = x.tasks .timer) :
    Staged y := by
  have hhandler := htasks .handler (by simp)
  have hsender := htasks .sender (by simp)
  have hwatcher := htasks .watcher (by simp)
  refine ⟨hfits, ?_, ?_, ?_, ?_, ?_⟩
  · rw [hhandler]
    exact hx.handler
  · rw [hserved, hhandler, hsender, hwatcher]
    exact hx.fresh
  · rw [hhandler, hsender]
    exact hx.starting
  · rw [hhandler, hwatcher]
    exact hx.serving
  · intro h
    rw [(htimer h).2]
    exact hx.timer (htimer h).1

theorem Staged.step (hx : Staged x) {a : Label} (h : step dbg x a = some z) : Staged z := by
  have hfits := hx.fits.step h
  cases stepCases h with
  | task hops hmove => exact hx.task hops hmove hfits
  | request text hasBody hserved =>
      obtain ⟨-, hsender, hwatcher⟩ := hx.fresh hserved
      refine ⟨hfits, le_rfl, ?_, fun _ _ _ => hsender, fun _ _ _ => hwatcher, hx.timer⟩
      intro hfresh
      cases hfresh
  | receive a op hop hidle => exact hx.of_same hfits rfl (by simp [Socket.setTask]) fun h => ⟨h, rfl⟩
  | close frame hidle => exact hx.of_same hfits rfl (by simp [Socket.setTask]) fun h => ⟨h, rfl⟩
  | endRecv a errs herrs hidle =>
      exact hx.of_same hfits rfl (by simp [Socket.setTask]) fun h => ⟨h, rfl⟩
  | idleTimeout hopen =>
      refine hx.of_same hfits rfl (by simp [Socket.setTask]) ?_
      intro htimer
      cases htimer
  | dropHandler hdrop =>
      have hserved : x.served ≠ false := by
        intro hserved
        rw [(hx.fresh hserved).1] at hdrop
        cases hdrop
      refine ⟨hfits, Nat.zero_le _, fun h => absurd h hserved, ?_, ?_, hx.timer⟩
      · intro o ho
        cases ho
      · intro o ho
        cases ho
  | ping | dropStream | setRemoved | tick => exact hx.of_same hfits rfl (by simp) fun h => ⟨h, rfl⟩

theorem staged_new (rs : RouterSocketV1) : Staged (.new rs) := by
  refine ⟨?_, Nat.zero_le _, fun _ => ⟨rfl, rfl, rfl⟩, nofun, nofun, fun _ => rfl⟩
  intro role o ho
  cases role <;> simp [Socket.new] at ho
  subst ho
  rfl

/-- No event begins with the operations of `raise_completion_event`. -/
theorem Staged.tally_outside (hx : Staged x) {a : Label} (h : V1.step dbg x a = some z)
    (hout : ∀ role c, a ≠ .task role c) {P : Op → Bool} (hP : ∀ o, P o = true → o.raises = true) :
    z.tally P = x.tally P := by
  have hset : ∀ {role ops}, (∀ o ∈ x.tasks role, o.raises = false) → (∀ o ∈ ops, o.raises = false) →
      (x.setTask role ops).tally P = x.tally P := by
    intro role ops hold hnew
    have hcount := tally_setTask x role ops P
    rw [countP_eq_zero_of_raises hP hold, countP_eq_zero_of_raises hP hnew] at hcount
    omega
  cases stepCases h with
  | task => exact absurd rfl (hout _ _)
  | request text hasBody hserved =>
      refine (tally_congr rfl).trans (hset (by simp [(hx.fresh hserved).1]) ?_)
      simp [Op.raises]
  | receive a op hop hidle =>
      refine hset (by simp [hidle]) ?_
      intro o ho
      rw [List.mem_singleton.mp ho]
      cases op <;> first | rfl | cases hop
  | close frame hidle =>
      refine (tally_congr rfl).trans (hset (by simp [hidle]) ?_)
      simp [Op.raises]
  | endRecv a errs herrs hidle =>
      refine (tally_congr rfl).trans (hset (by simp [hidle]) ?_)
      rcases herrs with ⟨-, rfl⟩ | ⟨ex, rfl⟩ <;> simp [Op.raises]
  | idleTimeout hopen =>
      have htimer : x.timedOut = false := by
        simp only [V1.step] at h
        split_ifs at h with hopen
        simpa using hopen.2
      refine (tally_congr rfl).trans (hset (by simp [hx.timer htimer]) ?_)
      simp [Op.raises]
  | dropHandler hdrop => exact hset (by simp [hdrop, Op.raises]) (by simp)
  | ping | dropStream | setRemoved | tick => exact tally_congr rfl

end CrankerRouter.V1
