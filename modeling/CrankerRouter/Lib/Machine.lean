import Mathlib

/-!
# Machines and task pools

A machine takes one atomic action at a time, and a run is a chain of actions admitted by a
guard.  A task pool interleaves the atomic steps of any number of tasks over one shared state:
a step replaces one task by the tasks that continue it, so spawning, continuing and finishing
are the same operation.
-/

namespace CrankerRouter.Lib

/-- An executable transition system; `step s a = none` when `a` is not enabled in `s`. -/
structure Machine (σ α : Type*) where
  init : σ → Prop
  step : σ → α → Option σ

namespace Machine

variable {σ α : Type*}

/-- The guard that admits every action. -/
def anyAction : σ → α → Prop := fun _ _ => True

instance : ∀ (s : σ) (a : α), Decidable (anyAction s a) := fun _ _ => .isTrue trivial

/-- One step by an action that the guard admits. -/
def Next (M : Machine σ α) (ok : σ → α → Prop) (s t : σ) : Prop :=
  ∃ a, ok s a ∧ M.step s a = some t

/-- Zero or more admitted steps. -/
def Reach (M : Machine σ α) (ok : σ → α → Prop) : σ → σ → Prop :=
  Relation.ReflTransGen (M.Next ok)

/-- The states of the runs whose actions are all admitted. -/
def Reachable (M : Machine σ α) (ok : σ → α → Prop) (t : σ) : Prop :=
  ∃ s, M.init s ∧ M.Reach ok s t

variable {M : Machine σ α} {ok : σ → α → Prop}

/-- What every admitted step preserves, every run preserves. -/
theorem Reach.invariant {P : σ → Prop}
    (hstep : ∀ s a t, P s → ok s a → M.step s a = some t → P t)
    {s t : σ} (h : M.Reach ok s t) (hs : P s) : P t := by
  induction h with
  | refl => exact hs
  | tail _ hnext ih =>
      obtain ⟨a, hok, hstep'⟩ := hnext
      exact hstep _ a _ ih hok hstep'

theorem Reachable.invariant {P : σ → Prop} (hinit : ∀ s, M.init s → P s)
    (hstep : ∀ s a t, P s → ok s a → M.step s a = some t → P t)
    {t : σ} (h : M.Reachable ok t) : P t := by
  obtain ⟨s, hs, hr⟩ := h
  exact hr.invariant hstep (hinit s hs)

theorem Reachable.next {s t : σ} {a : α} (h : M.Reachable ok s) (hok : ok s a)
    (hstep : M.step s a = some t) : M.Reachable ok t := by
  obtain ⟨s₀, hs₀, hr⟩ := h
  exact ⟨s₀, hs₀, hr.tail ⟨a, hok, hstep⟩⟩

/-- Runs under a stronger guard are runs under the weaker one. -/
theorem Reachable.mono {ok' : σ → α → Prop} (hmono : ∀ s a, ok s a → ok' s a)
    {t : σ} (h : M.Reachable ok t) : M.Reachable ok' t := by
  obtain ⟨s, hs, hr⟩ := h
  have hnext : ∀ u v, M.Next ok u v → M.Next ok' u v := by
    rintro u v ⟨a, hok, hstep⟩
    exact ⟨a, hmono u a hok, hstep⟩
  exact ⟨s, hs, Relation.ReflTransGen.mono hnext s t hr⟩

/-- A relation that every admitted step of `M` keeps, with steps of `N` in answer, holds along
every run. -/
theorem Reachable.simulates {τ β : Type*} {N : Machine τ β} {R : σ → τ → Prop}
    (hinit : ∀ s, M.init s → ∃ t, N.init t ∧ R s t)
    (hstep : ∀ s a s' t, R s t → ok s a → M.step s a = some s' →
      ∃ t', N.Reach anyAction t t' ∧ R s' t')
    {s : σ} (h : M.Reachable ok s) : ∃ t, N.Reachable anyAction t ∧ R s t := by
  refine h.invariant (P := fun s => ∃ t, N.Reachable anyAction t ∧ R s t) ?_ ?_
  · intro s hs
    obtain ⟨t, ht, hR⟩ := hinit s hs
    exact ⟨t, ⟨t, ht, .refl⟩, hR⟩
  · intro s a s' hs hok hstep'
    obtain ⟨t, ⟨t₀, ht₀, hreach⟩, hR⟩ := hs
    obtain ⟨t', hreach', hR'⟩ := hstep s a s' t hR hok hstep'
    exact ⟨t', ⟨t₀, ht₀, hreach.trans hreach'⟩, hR'⟩

/-- The answer to a step of `M` may be one step of `N`. -/
theorem reach_one {s t : σ} {a : α} (h : M.step s a = some t) : M.Reach anyAction s t :=
  .single ⟨a, trivial, h⟩

/-- The machine with a log that takes a note of every action. -/
def logged {Λ : Type*} (M : Machine σ α) (start : Λ) (note : σ → α → Λ → Λ) :
    Machine (σ × Λ) α where
  init x := M.init x.1 ∧ x.2 = start
  step x a := (M.step x.1 a).map fun t => (t, note x.1 a x.2)

theorem logged_step {Λ : Type*} {start : Λ} {note : σ → α → Λ → Λ} {x y : σ × Λ} {a : α}
    (h : (M.logged start note).step x a = some y) :
    M.step x.1 a = some y.1 ∧ y.2 = note x.1 a x.2 := by
  obtain ⟨t, ht, rfl⟩ := Option.map_eq_some_iff.mp h
  exact ⟨ht, rfl⟩

/-- Executes a list of actions as long as the guard admits them. -/
def exec (M : Machine σ α) (ok : σ → α → Prop) [∀ s a, Decidable (ok s a)] :
    σ → List α → Option σ
  | s, [] => some s
  | s, a :: as =>
      if ok s a then
        match M.step s a with
        | some t => M.exec ok t as
        | none => none
      else none

theorem reach_of_exec [∀ s a, Decidable (ok s a)] (as : List α) (s t : σ)
    (h : M.exec ok s as = some t) : M.Reach ok s t := by
  induction as generalizing s with
  | nil =>
      obtain rfl : s = t := by simpa [exec] using h
      exact .refl
  | cons a as ih =>
      by_cases hok : ok s a
      · cases hstep : M.step s a with
        | none => simp [exec, hok, hstep] at h
        | some u =>
            have hu : M.exec ok u as = some t := by simpa [exec, hok, hstep] using h
            exact (ih u hu).head ⟨a, hok, hstep⟩
      · simp [exec, hok] at h

/-- The state after a list of actions, `s` itself if one of them is not admitted. -/
def run (M : Machine σ α) (ok : σ → α → Prop) [∀ s a, Decidable (ok s a)] (s : σ)
    (as : List α) : σ := (M.exec ok s as).getD s

theorem reachable_run (M : Machine σ α) (ok : σ → α → Prop) [∀ s a, Decidable (ok s a)] {s : σ}
    (hs : M.init s) (as : List α) : M.Reachable ok (M.run ok s as) := by
  unfold run
  cases h : M.exec ok s as with
  | none => exact ⟨s, hs, .refl⟩
  | some t => exact ⟨s, hs, reach_of_exec as s t h⟩

end Machine

/-- Tasks over one shared state. -/
structure Pool (S τ : Type*) where
  shared : S
  tasks : List τ

namespace Pool

variable {S τ χ : Type*}

/-- Task `i` takes one atomic step with choice `c`, and the tasks `exec` returns take its place. -/
def step (exec : S → τ → χ → Option (S × List τ)) (p : Pool S τ) (i : Nat) (c : χ) :
    Option (Pool S τ) :=
  match p.tasks[i]? with
  | none => none
  | some t =>
      match exec p.shared t c with
      | none => none
      | some (s, ts) => some ⟨s, p.tasks.take i ++ ts ++ p.tasks.drop (i + 1)⟩

theorem step_cases {exec : S → τ → χ → Option (S × List τ)} {p q : Pool S τ} {i : Nat} {c : χ}
    (h : step exec p i c = some q) :
    ∃ l t r s ts, p.tasks[i]? = some t ∧ p.tasks = l ++ t :: r ∧
      exec p.shared t c = some (s, ts) ∧ q = ⟨s, l ++ ts ++ r⟩ := by
  unfold step at h
  cases ht : p.tasks[i]? with
  | none => simp [ht] at h
  | some t =>
      cases he : exec p.shared t c with
      | none => simp [ht, he] at h
      | some out =>
          obtain ⟨s, ts⟩ := out
          simp only [ht, he, Option.some.injEq] at h
          obtain ⟨hi, hget⟩ := List.getElem?_eq_some_iff.mp ht
          refine ⟨p.tasks.take i, t, p.tasks.drop (i + 1), s, ts, rfl, ?_, he, h.symm⟩
          rw [← hget, List.cons_getElem_drop_succ, List.take_append_drop]

/-- Total of a quantity over the tasks of the pool. -/
def total {M : Type*} [AddMonoid M] (f : τ → M) (ts : List τ) : M := (ts.map f).sum

@[simp] theorem total_nil {M : Type*} [AddMonoid M] (f : τ → M) : total f [] = 0 := rfl

@[simp] theorem total_cons {M : Type*} [AddMonoid M] (f : τ → M) (t : τ) (ts : List τ) :
    total f (t :: ts) = f t + total f ts := by
  simp [total]

@[simp] theorem total_append {M : Type*} [AddMonoid M] (f : τ → M) (ts us : List τ) :
    total f (ts ++ us) = total f ts + total f us := by
  simp [total]

theorem le_total_of_mem (f : τ → Nat) {t : τ} {ts : List τ} (h : t ∈ ts) :
    f t ≤ total f ts :=
  List.le_sum_of_mem (List.mem_map_of_mem h)

theorem total_eq_zero {f : τ → Nat} {ts : List τ} (h : ∀ t ∈ ts, f t = 0) :
    total f ts = 0 := by
  induction ts with
  | nil => rfl
  | cons t ts ih =>
      rw [total_cons, h t (by simp), ih (fun u hu => h u (by simp [hu]))]

end Pool

end CrankerRouter.Lib
