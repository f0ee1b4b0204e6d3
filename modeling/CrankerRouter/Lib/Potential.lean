import CrankerRouter.Lib.Machine

/-!
# Runs that pay for their steps

A number of the state that no step raises, and that every step of some kind lowers, bounds how many
steps of that kind a run can have.  The step may look ahead to the state in which the run ends.
-/

namespace CrankerRouter.Lib.Machine

variable {σ α : Type*} {M : Machine σ α} {ok : σ → α → Prop} [∀ s a, Decidable (ok s a)]

private theorem exec_cons {s t : σ} {a : α} {as : List α} (h : M.exec ok s (a :: as) = some t) :
    ∃ u, ok s a ∧ M.step s a = some u ∧ M.exec ok u as = some t := by
  rw [exec] at h
  split at h
  · rename_i hok
    cases hstep : M.step s a with
    | none => simp [hstep] at h
    | some u => exact ⟨u, hok, rfl, by simpa [hstep] using h⟩
  · cases h

/-- The steps that `c` counts are paid for from `f`, along a run that keeps `P`. -/
theorem exec_count {P : σ → Prop} {c : α → Bool} {f : σ → Nat} {last : σ}
    (hstep : ∀ s a t, P s → ok s a → M.step s a = some t → M.Reach ok t last →
      P t ∧ f t + (if c a then 1 else 0) ≤ f s)
    {as : List α} {s : σ} (hs : P s) (h : M.exec ok s as = some last) :
    P last ∧ f last + as.countP c ≤ f s := by
  induction as generalizing s with
  | nil =>
      obtain rfl : s = last := by simpa [exec] using h
      simpa using hs
  | cons a as ih =>
      obtain ⟨u, hok, hu, hrest⟩ := exec_cons h
      obtain ⟨hP, hpaid⟩ := hstep s a u hs hok hu (reach_of_exec as u last hrest)
      obtain ⟨hlast, hcount⟩ := ih hP hrest
      refine ⟨hlast, ?_⟩
      rw [List.countP_cons]
      omega

end CrankerRouter.Lib.Machine
