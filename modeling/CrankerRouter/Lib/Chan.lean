import Mathlib

/-!
# Unbounded channels

A channel keeps everything it ever accepted, the number of items its receiver has taken and
whether it is closed.  Sending to a closed channel fails and leaves it as it was.
-/

namespace CrankerRouter.Lib

structure Chan (α : Type*) where
  sent : List α
  taken : Nat
  closed : Bool
  deriving DecidableEq, Repr

namespace Chan

variable {α : Type*}

/-- An open channel that nothing was sent to. -/
def new : Chan α := ⟨[], 0, false⟩

/-- The channel after a send whose result is not looked at. -/
def send (c : Chan α) (a : α) : Chan α :=
  if c.closed then c else { c with sent := c.sent ++ [a] }

def close (c : Chan α) : Chan α := { c with closed := true }

/-- What the receiver would get now. -/
def next? (c : Chan α) : Option α := c.sent[c.taken]?

def take (c : Chan α) : Chan α := { c with taken := c.taken + 1 }

@[simp] theorem new_sent : (new : Chan α).sent = [] := rfl
@[simp] theorem new_closed : (new : Chan α).closed = false := rfl
@[simp] theorem close_sent (c : Chan α) : c.close.sent = c.sent := rfl
@[simp] theorem close_taken (c : Chan α) : c.close.taken = c.taken := rfl
@[simp] theorem close_closed (c : Chan α) : c.close.closed = true := rfl
@[simp] theorem take_sent (c : Chan α) : c.take.sent = c.sent := rfl
@[simp] theorem take_closed (c : Chan α) : c.take.closed = c.closed := rfl

@[simp] theorem send_closed (c : Chan α) (a : α) : (c.send a).closed = c.closed := by
  unfold send
  split <;> rfl

@[simp] theorem send_taken (c : Chan α) (a : α) : (c.send a).taken = c.taken := by
  unfold send
  split <;> rfl

theorem send_of_closed {c : Chan α} (h : c.closed = true) (a : α) : c.send a = c := by
  simp [send, h]

theorem close_of_closed {c : Chan α} (h : c.closed = true) : c.close = c := by
  cases c
  simp_all [close]

theorem send_sent_of_open {c : Chan α} (h : c.closed = false) (a : α) :
    (c.send a).sent = c.sent ++ [a] := by
  simp [send, h]

section Results

variable {ε : Type*}

/-- Everything that was sent and is no error. -/
def oks (c : Chan (Except ε α)) : List α :=
  c.sent.filterMap fun
    | .ok a => some a
    | .error _ => none

@[simp] theorem oks_send_error (c : Chan (Except ε α)) (e : ε) : (c.send (.error e)).oks = c.oks := by
  unfold oks
  cases h : c.closed with
  | true => rw [send_of_closed h]
  | false => simp [send_sent_of_open h]

theorem oks_send_ok {c : Chan (Except ε α)} (h : c.closed = false) (a : α) :
    (c.send (.ok a)).oks = c.oks ++ [a] := by
  simp [oks, send_sent_of_open h]

end Results

end Chan

end CrankerRouter.Lib
