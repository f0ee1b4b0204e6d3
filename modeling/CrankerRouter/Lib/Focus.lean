import CrankerRouter.Lib.Machine

/-!
# Following one task of a pool

A step replaces a task by the tasks that continue it, so a task has no fixed place in its pool.
A pool with a focus keeps one task apart from those before and behind it; the first of the tasks
that its step leaves continues it.  Steps with a focus are the steps of the pool, so following a
task restricts nothing.
-/

namespace CrankerRouter.Lib

namespace Pool

variable {S τ χ : Type*} {exec : S → τ → χ → Option (S × List τ)}

private theorem step_at {s s' : S} {l r ts : List τ} {t : τ} {c : χ}
    (h : exec s t c = some (s', ts)) :
    step exec ⟨s, l ++ t :: r⟩ l.length c = some ⟨s', l ++ ts ++ r⟩ := by
  simp [step, h]

end Pool

/-- A pool in which one task is followed, as long as it goes on. -/
structure Focus (S τ : Type*) where
  shared : S
  before : List τ
  task : Option τ
  behind : List τ

namespace Focus

variable {S τ χ : Type*}

def pool (x : Focus S τ) : Pool S τ := ⟨x.shared, x.before ++ x.task.toList ++ x.behind⟩

@[simp] theorem pool_shared (x : Focus S τ) : x.pool.shared = x.shared := rfl
@[simp] theorem pool_tasks (x : Focus S τ) :
    x.pool.tasks = x.before ++ x.task.toList ++ x.behind := rfl

/-- Whose step it is. -/
inductive Turn
  | own
  | before (i : Nat)
  | behind (i : Nat)
  deriving DecidableEq, Repr

/-- The task whose step it is. -/
def taskAt (x : Focus S τ) : Turn → Option τ
  | .own => x.task
  | .before i => x.before[i]?
  | .behind i => x.behind[i]?

def step (exec : S → τ → χ → Option (S × List τ)) (x : Focus S τ) :
    Turn → χ → Option (Focus S τ)
  | .own, c =>
      match x.task with
      | none => none
      | some t =>
          (exec x.shared t c).map fun out => ⟨out.1, x.before, out.2.head?, out.2.tail ++ x.behind⟩
  | .before i, c =>
      (Pool.step exec ⟨x.shared, x.before⟩ i c).map fun p =>
        ⟨p.shared, p.tasks, x.task, x.behind⟩
  | .behind i, c =>
      (Pool.step exec ⟨x.shared, x.behind⟩ i c).map fun p =>
        ⟨p.shared, x.before, x.task, p.tasks⟩

variable {exec : S → τ → χ → Option (S × List τ)} {x y : Focus S τ} {turn : Turn} {c : χ}

/-- A step is one of the task that is followed, or one of another task that leaves it alone. -/
theorem step_cases (h : step exec x turn c = some y) :
    (∃ t s ts, turn = .own ∧ x.task = some t ∧ exec x.shared t c = some (s, ts) ∧
      y = ⟨s, x.before, ts.head?, ts.tail ++ x.behind⟩) ∨
    (turn ≠ .own ∧ y.task = x.task ∧ ∃ l t r s ts, x.taskAt turn = some t ∧
      x.pool.tasks = l ++ t :: r ∧ exec x.shared t c = some (s, ts) ∧
      y.pool = ⟨s, l ++ ts ++ r⟩) := by
  cases turn with
  | own =>
      cases ht : x.task with
      | none => simp [step, ht] at h
      | some t =>
          simp only [step, ht] at h
          obtain ⟨⟨s, ts⟩, hexec, rfl⟩ := Option.map_eq_some_iff.mp h
          exact .inl ⟨t, s, ts, rfl, rfl, hexec, rfl⟩
  | before i =>
      obtain ⟨p, hp, rfl⟩ := Option.map_eq_some_iff.mp h
      obtain ⟨l, t, r, s, ts, hi, hl, hexec, rfl⟩ := Pool.step_cases hp
      refine .inr ⟨by simp, rfl, l, t, r ++ x.task.toList ++ x.behind, s, ts, hi, ?_, hexec, ?_⟩
      · simp only at hl
        simp [hl]
      · simp [pool]
  | behind i =>
      obtain ⟨p, hp, rfl⟩ := Option.map_eq_some_iff.mp h
      obtain ⟨l, t, r, s, ts, hi, hl, hexec, rfl⟩ := Pool.step_cases hp
      refine .inr ⟨by simp, rfl, x.before ++ x.task.toList ++ l, t, r, s, ts, hi, ?_, hexec, ?_⟩
      · simp only at hl
        simp [hl]
      · simp [pool]

theorem step_pool (h : step exec x turn c = some y) :
    ∃ i, Pool.step exec x.pool i c = some y.pool := by
  rcases step_cases h with ⟨t, s, ts, -, ht, hexec, rfl⟩ | ⟨-, -, l, t, r, s, ts, -, hl, hexec, hy⟩
  · refine ⟨x.before.length, ?_⟩
    have hpool : x.pool = ⟨x.shared, x.before ++ t :: x.behind⟩ := by simp [pool, ht]
    rw [hpool, Pool.step_at hexec]
    cases ts <;> simp [pool]
  · refine ⟨l.length, ?_⟩
    have hpool : x.pool = ⟨x.shared, l ++ t :: r⟩ := by rw [← hl]; rfl
    rw [hpool, hy, Pool.step_at hexec]

private theorem exists_step_behind {l r ts : List τ} {t : τ} {s : S}
    (hl : x.task.toList ++ x.behind = l ++ t :: r) (h : exec x.shared t c = some (s, ts)) :
    ∃ turn y, step exec x turn c = some y ∧ y.pool = ⟨s, x.before ++ l ++ ts ++ r⟩ := by
  have hother : ∀ l', x.behind = l' ++ t :: r → x.task.toList ++ l' = l →
      ∃ turn y, step exec x turn c = some y ∧ y.pool = ⟨s, x.before ++ l ++ ts ++ r⟩ := by
    intro l' hbehind hl'
    refine ⟨.behind l'.length, ⟨s, x.before, x.task, l' ++ ts ++ r⟩, ?_, ?_⟩
    · simp [step, hbehind, Pool.step_at h]
    · simp [pool, ← hl']
  cases htask : x.task with
  | none =>
      rw [htask, Option.toList_none, List.nil_append] at hl
      exact hother l hl (by simp [htask])
  | some u =>
      rw [htask, Option.toList_some, List.singleton_append] at hl
      cases l with
      | nil =>
          obtain ⟨rfl, rfl⟩ := List.cons_eq_cons.mp hl
          refine ⟨.own, ⟨s, x.before, ts.head?, ts.tail ++ x.behind⟩, ?_, ?_⟩
          · simp [step, htask, h]
          · cases ts <;> simp [pool]
      | cons v l =>
          obtain ⟨rfl, hbehind⟩ := List.cons_eq_cons.mp hl
          exact hother l hbehind (by simp [htask])

/-- Every step of the pool is one with the focus. -/
theorem exists_step {p : Pool S τ} {i : Nat} (h : Pool.step exec x.pool i c = some p) :
    ∃ turn y, step exec x turn c = some y ∧ y.pool = p := by
  obtain ⟨l, t, r, s, ts, -, hl, hexec, rfl⟩ := Pool.step_cases h
  rw [pool_tasks, List.append_assoc] at hl
  rw [pool_shared] at hexec
  rcases List.append_eq_append_iff.mp hl with ⟨l', rfl, hrest⟩ | ⟨r', hbefore, hrest⟩
  · exact exists_step_behind hrest hexec
  · cases r' with
    | nil =>
        rw [List.append_nil] at hbefore
        have hstep := exists_step_behind (l := []) hrest.symm hexec
        rwa [hbefore, List.append_nil] at hstep
    | cons u r' =>
        obtain ⟨rfl, rfl⟩ := List.cons_eq_cons.mp hrest
        refine ⟨.before l.length, ⟨s, l ++ ts ++ r', x.task, x.behind⟩, ?_, ?_⟩
        · simp [step, hbefore, Pool.step_at hexec]
        · simp [pool]

end Focus

end CrankerRouter.Lib
