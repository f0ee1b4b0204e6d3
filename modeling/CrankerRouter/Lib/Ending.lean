import CrankerRouter.Lib.Chan

/-!
# How a stream of results ends

A channel of results ends cleanly when it is closed and its last item is no error.  `Closable` says
of the operations a task still has to run that wherever they close the channel, the channel has
failed, is closed already or its stream was really ended; it is computed like a weakest
precondition, from the first operation on.
-/

namespace CrankerRouter.Lib

namespace Chan

variable {ε α : Type*}

/-- The last item is an error. -/
def failed (c : Chan (Except ε α)) : Bool :=
  match c.sent.getLast? with
  | some (.error _) => true
  | _ => false

def endsCleanly (c : Chan (Except ε α)) : Bool := c.closed && !c.failed

private theorem failed_send_error {c : Chan (Except ε α)} (h : c.closed = false) (e : ε) :
    (c.send (.error e)).failed = true := by
  simp [failed, send_sent_of_open h]

end Chan

/-- What an operation does to the channel: an error, an item, the close, or something that only
the end of the stream brings about. -/
inductive EndAct
  | fails
  | delivers
  | closes
  | ends
  deriving DecidableEq, Repr

section Closable

variable {τ ε α : Type*} {act : τ → Option EndAct} {ended ended' ok ok' : Prop} {o : τ}
  {l l' : List τ}

/-- The channel may be closed: its stream was ended, it is closed, or it has failed. -/
def Settled (ended : Prop) (c : Chan (Except ε α)) : Prop :=
  ended ∨ c.closed = true ∨ c.failed = true

/-- The operations close the channel only where they may, if `ok` says whether they may do so
now. -/
def Closable (act : τ → Option EndAct) (ended : Prop) : Prop → List τ → Prop
  | _, [] => True
  | ok, o :: l =>
      match act o with
      | some .fails => Closable act ended True l
      | some .delivers => Closable act ended ended l
      | some .closes => ok ∧ Closable act ended True l
      | some .ends => ended ∧ Closable act ended ended l
      | none => Closable act ended ok l

@[simp] theorem closable_nil : Closable act ended ok [] := trivial

theorem closable_none (h : act o = none) :
    Closable act ended ok (o :: l) ↔ Closable act ended ok l := by
  rw [Closable, h]

theorem closable_fails (h : act o = some .fails) :
    Closable act ended ok (o :: l) ↔ Closable act ended True l := by
  rw [Closable, h]

theorem closable_delivers (h : act o = some .delivers) :
    Closable act ended ok (o :: l) ↔ Closable act ended ended l := by
  rw [Closable, h]

theorem closable_closes (h : act o = some .closes) :
    Closable act ended ok (o :: l) ↔ ok ∧ Closable act ended True l := by
  rw [Closable, h]

theorem closable_ends (h : act o = some .ends) :
    Closable act ended ok (o :: l) ↔ ended ∧ Closable act ended ended l := by
  rw [Closable, h]

theorem closable_congr {o' : τ} (h : act o' = act o) :
    Closable act ended ok (o' :: l) ↔ Closable act ended ok (o :: l) := by
  rw [Closable, Closable, h]

theorem Closable.mono (hended : ended → ended') (hok : ok → ok') (h : Closable act ended ok l) :
    Closable act ended' ok' l := by
  induction l generalizing ok ok' with
  | nil => trivial
  | cons o l ih =>
      cases hact : act o with
      | none =>
          rw [closable_none hact] at h ⊢
          exact ih hok h
      | some a =>
          cases a with
          | fails =>
              rw [closable_fails hact] at h ⊢
              exact ih id h
          | delivers =>
              rw [closable_delivers hact] at h ⊢
              exact ih hended h
          | closes =>
              rw [closable_closes hact] at h ⊢
              exact ⟨hok h.1, ih id h.2⟩
          | ends =>
              rw [closable_ends hact] at h ⊢
              exact ⟨hended h.1, ih hended h.2⟩

/-- Operations that leave the channel alone can go first. -/
theorem closable_append (h : ∀ o ∈ l, act o = none) :
    Closable act ended ok (l ++ l') ↔ Closable act ended ok l' := by
  induction l with
  | nil => rfl
  | cons o l ih =>
      rw [List.cons_append, closable_none (h o List.mem_cons_self)]
      exact ih fun o' ho' => h o' (List.mem_cons_of_mem _ ho')

theorem closable_of_none (h : ∀ o ∈ l, act o = none) : Closable act ended ok l := by
  have happend : Closable act ended ok (l ++ []) := (closable_append h).mpr closable_nil
  rwa [List.append_nil] at happend

theorem Settled.send_error (ended : Prop) (c : Chan (Except ε α)) (e : ε) :
    Settled ended (c.send (.error e)) := by
  cases h : c.closed with
  | true => exact .inr (.inl (by rw [Chan.send_closed, h]))
  | false => exact .inr (.inr (Chan.failed_send_error h e))

theorem Settled.close (ended : Prop) (c : Chan (Except ε α)) : Settled ended c.close :=
  .inr (.inl rfl)

/-- If the channel is closed, it has failed or its stream was ended. -/
def EndedOrFailed (ended : Prop) (c : Chan (Except ε α)) : Prop :=
  c.closed = true → ended ∨ c.failed = true

theorem endedOrFailed_of_open {c : Chan (Except ε α)} (h : c.closed = false) :
    EndedOrFailed ended c := by
  intro hclosed
  rw [h] at hclosed
  cases hclosed

theorem EndedOrFailed.send {c : Chan (Except ε α)} (h : EndedOrFailed ended c) (a : Except ε α) :
    EndedOrFailed ended (c.send a) := by
  cases hclosed : c.closed with
  | true => rwa [Chan.send_of_closed hclosed]
  | false => exact endedOrFailed_of_open (by rw [Chan.send_closed, hclosed])

theorem EndedOrFailed.close {c : Chan (Except ε α)} (h : EndedOrFailed ended c)
    (hsettled : Settled ended c) : EndedOrFailed ended c.close := by
  intro
  obtain hended | hclosed | hfailed := hsettled
  · exact .inl hended
  · exact h hclosed
  · exact .inr hfailed

theorem EndedOrFailed.mono {c : Chan (Except ε α)} (hended : ended → ended')
    (h : EndedOrFailed ended c) : EndedOrFailed ended' c :=
  fun hclosed => (h hclosed).imp_left hended

theorem EndedOrFailed.ended_of_endsCleanly {c : Chan (Except ε α)} (h : EndedOrFailed ended c)
    (hclean : c.endsCleanly = true) : ended := by
  obtain ⟨hclosed, hfailed⟩ : c.closed = true ∧ c.failed = false := by
    simpa [Chan.endsCleanly] using hclean
  exact (h hclosed).resolve_right (by simp [hfailed])

end Closable

end CrankerRouter.Lib
