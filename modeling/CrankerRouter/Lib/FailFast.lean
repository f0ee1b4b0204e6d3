import Mathlib

/-!
# Code that an error ends

A function with `?` after its calls changes a state until it returns or a call fails.  The rules
are those of Hoare logic with one postcondition for the return and one for the failure.
-/

namespace CrankerRouter.Lib

/-- Code over a state `σ` that stops at the first error. -/
abbrev FailFast (ε σ α : Type) := ExceptT ε (StateM σ) α

namespace FailFast

variable {ε σ α β : Type}

/-- The result of the code and the state it leaves. -/
def exec (m : FailFast ε σ α) (s : σ) : Except ε α × σ := m.run.run s

/-- Code that asks the outside for an answer, which may depend on the state, and records the
request. -/
def attempt (answer : σ → Option ε) (record : σ → σ) : FailFast ε σ Unit :=
  ExceptT.mk fun s => (match answer s with
    | some e => .error e
    | none => .ok (), record s)

private theorem exec_bind (m : FailFast ε σ α) (f : α → FailFast ε σ β) (s : σ) :
    (m >>= f).exec s =
      match m.exec s with
      | (.ok a, t) => (f a).exec t
      | (.error e, t) => (.error e, t) := by
  unfold exec
  rw [ExceptT.run_bind, StateT.run_bind]
  rcases m.run.run s with ⟨e | a, t⟩ <;> rfl

private theorem exec_attempt (answer : σ → Option ε) (record : σ → σ) (s : σ) :
    (attempt answer record).exec s =
      (match answer s with
        | some e => .error e
        | none => .ok (), record s) := rfl

/-- Started where `P` holds, the code returns where `Q` holds or fails where `R` holds of the
error and the state. -/
def Triple (P : σ → Prop) (m : FailFast ε σ α) (Q : σ → Prop) (R : ε → σ → Prop) : Prop :=
  ∀ s, P s →
    match m.exec s with
    | (.ok _, t) => Q t
    | (.error e, t) => R e t

variable {P Q S : σ → Prop} {R : ε → σ → Prop} {m : FailFast ε σ α}

namespace Triple

theorem ret (a : α) : Triple P (pure a : FailFast ε σ α) P R := fun _ hs => hs

theorem fail (e : ε) (h : ∀ s, P s → R e s) : Triple P (throw e : FailFast ε σ α) Q R := h

theorem mono (h : Triple P m Q R) (hQ : ∀ s, Q s → S s) : Triple P m S R := by
  intro s hs
  have hend := h s hs
  rcases hm : m.exec s with ⟨e | a, t⟩ <;> rw [hm] at hend
  · exact hend
  · exact hQ t hend

theorem bind {f : α → FailFast ε σ β} (hm : Triple P m Q R) (hf : ∀ a, Triple Q (f a) S R) :
    Triple P (m >>= f) S R := by
  intro s hs
  have hleft := hm s hs
  rw [exec_bind]
  rcases h : m.exec s with ⟨e | a, t⟩ <;> rw [h] at hleft
  · exact hleft
  · exact hf a t hleft

theorem attempt {answer : σ → Option ε} {record : σ → σ}
    (hok : ∀ s, P s → answer s = none → Q (record s))
    (herr : ∀ s e, P s → answer s = some e → R e (record s)) :
    Triple P (FailFast.attempt answer record) Q R := by
  intro s hs
  rw [exec_attempt]
  cases h : answer s with
  | none => exact hok s hs h
  | some e => exact herr s e hs h

/-- A loop over a list; the invariant speaks of what is left of it. -/
theorem forM {ι : Type} {I : List ι → σ → Prop} {body : ι → FailFast ε σ Unit} (xs : List ι)
    (hbody : ∀ x rest, x :: rest <:+ xs → Triple (I (x :: rest)) (body x) (I rest) R) :
    Triple (I xs) (xs.forM body) (I []) R := by
  induction xs with
  | nil => exact ret ()
  | cons x xs ih =>
      refine bind (hbody x xs List.suffix_rfl) fun _ => ih ?_
      intro y rest hsuffix
      exact hbody y rest (hsuffix.trans (List.suffix_cons x xs))

/-- What holds of the state however the code ends. -/
theorem final (h : Triple P m Q fun _ => Q) {s : σ} (hs : P s) : Q (m.exec s).2 := by
  have hend := h s hs
  rcases hm : m.exec s with ⟨e | a, t⟩ <;> rw [hm] at hend <;> exact hend

end Triple

end FailFast

end CrankerRouter.Lib
