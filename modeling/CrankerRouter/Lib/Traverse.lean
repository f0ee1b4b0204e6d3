import Mathlib

/-!
# Walking a list with `Except`

`List.mapM` stops at the first element that fails: it succeeds just if every element does, with the
list of their results.
-/

namespace CrankerRouter.Lib

variable {α β ε : Type} {f : α → Except ε β}

theorem mapM_eq_ok_iff {xs : List α} {ys : List β} :
    xs.mapM f = .ok ys ↔ List.Forall₂ (fun x y => f x = .ok y) xs ys := by
  induction xs generalizing ys with
  | nil =>
      rw [List.mapM_nil, List.forall₂_nil_left_iff]
      exact ⟨fun h => (Except.ok.inj h).symm, fun h => by rw [h]; rfl⟩
  | cons x xs ih =>
      rw [List.mapM_cons]
      cases hx : f x with
      | error e =>
          constructor
          · intro h
            cases h
          · intro h
            cases h with
            | cons hy _ =>
                rw [hx] at hy
                cases hy
      | ok y =>
          cases hxs : xs.mapM f with
          | error e =>
              constructor
              · intro h
                cases h
              · intro h
                cases h with
                | cons _ hrest =>
                    rw [← ih, hxs] at hrest
                    cases hrest
          | ok zs =>
              constructor
              · intro h
                obtain rfl : y :: zs = ys := Except.ok.inj h
                exact .cons hx (ih.mp hxs)
              · intro h
                cases h with
                | cons hy hrest =>
                    rw [← ih, hxs] at hrest
                    obtain rfl := Except.ok.inj hrest
                    obtain rfl := Except.ok.inj (hx.symm.trans hy)
                    rfl

theorem mapM_of_ok {g : α → β} {xs : List α} (h : ∀ x ∈ xs, f x = .ok (g x)) :
    xs.mapM f = .ok (xs.map g) := by
  rw [mapM_eq_ok_iff, List.forall₂_map_right_iff, List.forall₂_same]
  exact h

theorem mapM_isOk_iff {xs : List α} :
    (xs.mapM f).isOk = true ↔ ∀ x ∈ xs, (f x).isOk = true := by
  induction xs with
  | nil => simp [pure, Except.pure, Except.isOk, Except.toBool]
  | cons x xs ih =>
      rw [List.forall_mem_cons, ← ih, List.mapM_cons]
      cases f x with
      | error e => simp [bind, Except.bind, Except.isOk, Except.toBool]
      | ok y => cases xs.mapM f <;> simp [bind, Except.bind, pure, Except.pure, Except.isOk, Except.toBool]

end CrankerRouter.Lib
