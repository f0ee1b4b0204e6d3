import Mathlib.Data.List.Basic

/-!
# Broadcast channels

A bounded channel with many receivers: a sender never waits, and what a receiver has not read is
overwritten once the buffer is full.  A receiver has a position in all that was sent; one that has
fallen behind by more than the buffer is told so and goes on with the oldest value left.
-/

namespace CrankerRouter.Lib.Broadcast

variable {α : Type*}

inductive Received (α : Type*)
  | value (v : α)
  | lagged
  deriving DecidableEq, Repr

/-- What `recv` gives at position `next`, and the position after it; `none` when it waits. -/
def recv (capacity : Nat) (sent : List α) (next : Nat) : Option (Received α × Nat) :=
  if capacity < sent.length - next then some (.lagged, sent.length - capacity)
  else sent[next]?.map fun v => (.value v, next + 1)

variable {capacity next : Nat} {sent : List α}

/-- A receiver that has something left to read does not wait. -/
theorem exists_recv (capacity : Nat) (h : next < sent.length) :
    ∃ out, recv capacity sent next = some out := by
  unfold recv
  split
  · exact ⟨_, rfl⟩
  · rw [List.getElem?_eq_getElem h]
    exact ⟨_, rfl⟩

theorem recv_cases {r : Received α} {next' : Nat} (h : recv capacity sent next = some (r, next')) :
    (r = .lagged ∧ capacity < sent.length - next ∧ next' = sent.length - capacity) ∨
      ∃ v, r = .value v ∧ ¬capacity < sent.length - next ∧ sent[next]? = some v ∧
        next' = next + 1 := by
  unfold recv at h
  split at h
  · rename_i hlag
    cases h
    exact .inl ⟨rfl, hlag, rfl⟩
  · rename_i hlag
    obtain ⟨v, hv, hout⟩ := Option.map_eq_some_iff.mp h
    cases hout
    exact .inr ⟨v, rfl, hlag, hv, rfl⟩

/-- No receiver gets ahead of what was sent. -/
theorem recv_le {r : Received α} {next' : Nat} (h : recv capacity sent next = some (r, next')) :
    next' ≤ sent.length := by
  rcases recv_cases h with ⟨-, -, rfl⟩ | ⟨v, -, -, hv, rfl⟩
  · exact Nat.sub_le _ _
  · exact (List.getElem?_eq_some_iff.mp hv).1

end CrankerRouter.Lib.Broadcast
