import CrankerRouter.Lib.Machine

/-!
# Task pools whose tasks carry marks

A mark is history that belongs to one task: what was the case when it began.  The tasks that
continue a task inherit its mark.  Erasing the marks gives a step of the pool, and every step of
the pool is the erasure of a marked one, so marks restrict nothing.
-/

namespace CrankerRouter.Lib

namespace Pool

variable {S τ χ μ : Type*}

/-- The step of a marked task. -/
def inherit (exec : S → τ → χ → Option (S × List τ)) (s : S) (t : τ × μ) (c : χ) :
    Option (S × List (τ × μ)) :=
  (exec s t.1 c).map fun out => (out.1, out.2.map fun u => (u, t.2))

/-- The pool without the marks. -/
def erase (p : Pool S (τ × μ)) : Pool S τ := ⟨p.shared, p.tasks.map Prod.fst⟩

@[simp] theorem erase_shared (p : Pool S (τ × μ)) : p.erase.shared = p.shared := rfl
@[simp] theorem erase_tasks (p : Pool S (τ × μ)) : p.erase.tasks = p.tasks.map Prod.fst := rfl

theorem inherit_eq_some {exec : S → τ → χ → Option (S × List τ)} {s s' : S} {t : τ × μ} {c : χ}
    {ts : List (τ × μ)} (h : inherit exec s t c = some (s', ts)) :
    ∃ us, exec s t.1 c = some (s', us) ∧ ts = us.map fun u => (u, t.2) := by
  obtain ⟨⟨s₁, us⟩, hexec, hout⟩ := Option.map_eq_some_iff.mp h
  obtain ⟨rfl, rfl⟩ := Prod.mk.inj hout
  exact ⟨us, hexec, rfl⟩

variable {exec : S → τ → χ → Option (S × List τ)}

theorem step_erase {p q : Pool S (τ × μ)} {i : Nat} {c : χ}
    (h : step (inherit exec) p i c = some q) : step exec p.erase i c = some q.erase := by
  unfold step at h ⊢
  rw [erase_tasks, List.getElem?_map]
  cases ht : p.tasks[i]? with
  | none => simp [ht] at h
  | some t =>
      cases hexec : exec p.shared t.1 c with
      | none => simp [ht, inherit, hexec] at h
      | some out =>
          simp only [ht, inherit, hexec, Option.map_some, Option.some.injEq] at h
          subst h
          simp [hexec, erase, List.map_take, List.map_drop, Function.comp_def]

/-- Every step of the pool can be marked. -/
theorem exists_step_erase {p : Pool S (τ × μ)} {q : Pool S τ} {i : Nat} {c : χ}
    (h : step exec p.erase i c = some q) :
    ∃ q', step (inherit exec) p i c = some q' ∧ q'.erase = q := by
  unfold step at h ⊢
  rw [erase_tasks, List.getElem?_map] at h
  cases ht : p.tasks[i]? with
  | none => simp [ht] at h
  | some t =>
      cases hexec : exec p.shared t.1 c with
      | none => simp [ht, hexec] at h
      | some out =>
          simp only [ht, Option.map_some, erase_shared, hexec, Option.some.injEq] at h
          subst h
          simp only [inherit, hexec, Option.map_some]
          refine ⟨_, rfl, ?_⟩
          simp [erase, List.map_take, List.map_drop, Function.comp_def]

end Pool

end CrankerRouter.Lib
