import CrankerRouter.Lib.Machine

/-!
# Sending a body in pieces

A sender queues the messages of its head, then one message for each chunk it reads, and an end
marker after the last.  It may fail at every step, and a sender that failed queues nothing more.
-/

namespace CrankerRouter.Lib

variable {μ β : Type*}

/-- What a sender was given and what became of it: its head, the chunks read so far, whether the
body came to its end, and whether something failed. -/
structure SendLog (μ β : Type*) where
  head : List μ
  hasBody : Bool
  read : List β
  ended : Bool
  failed : Bool
  deriving DecidableEq

/-- The log of a sender that was not started. -/
def SendLog.empty : SendLog μ β := ⟨[], false, [], false, false⟩

inductive SendPhase (μ β : Type*)
  | idle
  | head (todo : List μ)
  | reading
  | holding (chunk : β)
  | sent
  | ending
  | done
  | failed

structure Sender (μ β : Type*) where
  phase : SendPhase μ β
  log : SendLog μ β
  queued : List μ

/-- `queue` queues what is due next: a message of the head, the chunk in hand or the end marker. -/
inductive SendAct (μ β : Type*)
  | start (head : List μ) (hasBody : Bool)
  | queue
  | body
  | read (chunk : β)
  | accept
  | finish
  | fail

namespace Sender

variable (enc : β → μ) (marker : μ)

def step (s : Sender μ β) (a : SendAct μ β) : Option (Sender μ β) :=
  match s.phase, a with
  | .idle, .start head hasBody =>
      some { s with phase := .head head, log := { s.log with head := head, hasBody := hasBody } }
  | .head (m :: todo), .queue => some { s with phase := .head todo, queued := s.queued ++ [m] }
  | .head [], .body => some { s with phase := if s.log.hasBody then .reading else .done }
  | .reading, .read chunk =>
      some { s with phase := .holding chunk, log := { s.log with read := s.log.read ++ [chunk] } }
  | .holding chunk, .queue => some { s with phase := .sent, queued := s.queued ++ [enc chunk] }
  | .sent, .accept => some { s with phase := .reading }
  | .reading, .finish => some { s with phase := .ending, log := { s.log with ended := true } }
  | .ending, .queue => some { s with phase := .done, queued := s.queued ++ [marker] }
  | .head (_ :: _), .fail | .reading, .fail | .holding _, .fail | .sent, .fail | .ending, .fail =>
      some { s with phase := .failed, log := { s.log with failed := true } }
  | _, _ => none

def machine : Machine (Sender μ β) (SendAct μ β) where
  init s := s = ⟨.idle, .empty, []⟩
  step := step enc marker

/-- The states a sender can be in. -/
inductive Progress : Sender μ β → Prop
  | idle : Progress ⟨.idle, .empty, []⟩
  | head {head queued todo : List μ} {hasBody : Bool} (h : head = queued ++ todo) :
      Progress ⟨.head todo, ⟨head, hasBody, [], false, false⟩, queued⟩
  | noBody {head : List μ} : Progress ⟨.done, ⟨head, false, [], false, false⟩, head⟩
  | headFailed {head queued todo : List μ} {hasBody : Bool} (h : head = queued ++ todo) :
      Progress ⟨.failed, ⟨head, hasBody, [], false, true⟩, queued⟩
  | reading {head queued : List μ} {read : List β} (h : queued = head ++ read.map enc) :
      Progress ⟨.reading, ⟨head, true, read, false, false⟩, queued⟩
  | holding {head queued : List μ} {sent : List β} {chunk : β} (h : queued = head ++ sent.map enc) :
      Progress ⟨.holding chunk, ⟨head, true, sent ++ [chunk], false, false⟩, queued⟩
  | sent {head queued : List μ} {read : List β} (h : queued = head ++ read.map enc) :
      Progress ⟨.sent, ⟨head, true, read, false, false⟩, queued⟩
  | ending {head queued : List μ} {read : List β} (h : queued = head ++ read.map enc) :
      Progress ⟨.ending, ⟨head, true, read, true, false⟩, queued⟩
  | done {head queued : List μ} {read : List β} (h : queued = head ++ read.map enc ++ [marker]) :
      Progress ⟨.done, ⟨head, true, read, true, false⟩, queued⟩
  | bodyFailed {head queued : List μ} {read sent last : List β} {ended : Bool}
      (h : queued = head ++ sent.map enc) (hread : read = sent ++ last) (hlast : last.length ≤ 1) :
      Progress ⟨.failed, ⟨head, true, read, ended, true⟩, queued⟩

variable {enc marker}

private theorem Progress.of_failed {head queued : List μ} {read : List β} {ended : Bool}
    (h : queued = head ++ read.map enc) :
    Progress enc marker ⟨.failed, ⟨head, true, read, ended, true⟩, queued⟩ :=
  .bodyFailed h (List.append_nil read).symm (by simp)

theorem Progress.step {s t : Sender μ β} {a : SendAct μ β}
    (h : Sender.step enc marker s a = some t) (hs : Progress enc marker s) :
    Progress enc marker t := by
  cases hs with
  | idle =>
      cases a <;> cases h
      exact .head rfl
  | @head head queued todo hasBody hhead =>
      cases todo with
      | nil =>
          cases a <;> cases h
          simp only [List.append_nil] at hhead
          subst hhead
          cases hasBody
          · exact .noBody
          · exact .reading (by simp)
      | cons m todo =>
          cases a <;> cases h
          · exact .head (by simp [hhead])
          · exact .headFailed hhead
  | noBody => cases a <;> cases h
  | headFailed => cases a <;> cases h
  | reading hqueued =>
      cases a <;> cases h
      · exact .holding hqueued
      · exact .ending hqueued
      · exact .of_failed hqueued
  | holding hqueued =>
      cases a <;> cases h
      · exact .sent (by simp [hqueued])
      · exact .bodyFailed hqueued rfl (by simp)
  | sent hqueued =>
      cases a <;> cases h
      · exact .reading hqueued
      · exact .of_failed hqueued
  | ending hqueued =>
      cases a <;> cases h
      · exact .done (by simp [hqueued])
      · exact .of_failed hqueued
  | done => cases a <;> cases h
  | bodyFailed => cases a <;> cases h

theorem progress_of_reachable {s : Sender μ β}
    (h : (machine enc marker).Reachable Machine.anyAction s) : Progress enc marker s := by
  refine h.invariant (P := Progress enc marker) ?_ ?_
  · rintro s rfl
    exact .idle
  · intro s a t hs _ hstep
    exact hs.step hstep

end Sender

/-- What queued messages tell about a body.  At any time they are a part of the head, or the head
and the messages of all chunks read, apart from the last one at most, and an end marker only
stands after all chunks of a body that came to its end without a failure.  A sender that waits for
its next chunk has queued every chunk read so far, and one that has returned has queued the end
marker if and only if the body came to its end and nothing failed. -/
structure SendLog.Reported (enc : β → μ) (marker : μ) (log : SendLog μ β) (queued : List μ)
    (waiting returned : Prop) : Prop where
  partly : queued <+: log.head ∧ log.read = [] ∧ log.ended = false ∨
    ∃ sent tail, queued = log.head ++ sent.map enc ++ tail ∧ sent <+: log.read ∧
      log.read.length ≤ sent.length + 1 ∧
      (tail = [] ∨ tail = [marker] ∧ sent = log.read ∧ log.ended = true ∧ log.failed = false)
  between : waiting → queued = log.head ++ log.read.map enc
  marked : returned → log.hasBody = true →
    (queued = log.head ++ log.read.map enc ++ [marker] ↔ log.ended = true ∧ log.failed = false)

private theorem Sender.Progress.partly {enc : β → μ} {marker : μ} {s : Sender μ β}
    (h : Progress enc marker s) :
    s.queued <+: s.log.head ∧ s.log.read = [] ∧ s.log.ended = false ∨
      ∃ sent tail, s.queued = s.log.head ++ sent.map enc ++ tail ∧ sent <+: s.log.read ∧
        s.log.read.length ≤ sent.length + 1 ∧
        (tail = [] ∨
          tail = [marker] ∧ sent = s.log.read ∧ s.log.ended = true ∧ s.log.failed = false) := by
  cases h with
  | idle => exact .inl ⟨List.prefix_rfl, rfl, rfl⟩
  | head h | headFailed h => exact .inl ⟨⟨_, h.symm⟩, rfl, rfl⟩
  | noBody => exact .inl ⟨List.prefix_rfl, rfl, rfl⟩
  | @reading head queued read h | @sent head queued read h | @ending head queued read h =>
      exact .inr ⟨read, [], by simpa using h, List.prefix_rfl, by simp, .inl rfl⟩
  | @holding head queued sent chunk h =>
      exact .inr ⟨sent, [], by simpa using h, List.prefix_append _ _, by simp, .inl rfl⟩
  | @done head queued read h =>
      exact .inr ⟨read, [marker], h, List.prefix_rfl, by simp, .inr ⟨rfl, rfl, rfl, rfl⟩⟩
  | @bodyFailed head queued read sent last ended h hread hlast =>
      subst hread
      exact .inr ⟨sent, [], by simpa using h, List.prefix_append _ _, by simpa using hlast, .inl rfl⟩

/-- The report of a sender in a known phase. -/
theorem Sender.Progress.reported {enc : β → μ} {marker : μ} {s : Sender μ β}
    (h : Progress enc marker s) {waiting returned : Prop} (hwaiting : waiting → s.phase = .reading)
    (hreturned : returned → s.phase = .idle ∨ s.phase = .done ∨ s.phase = .failed) :
    s.log.Reported enc marker s.queued waiting returned := by
  refine ⟨h.partly, ?_, ?_⟩
  · intro hw
    have hphase := hwaiting hw
    cases h with
    | reading hqueued => exact hqueued
    | _ => cases hphase
  · intro hr hbody
    have hphase := hreturned hr
    cases h with
    | noBody | idle => cases hbody
    | headFailed hhead => simp [hhead]
    | done hqueued => simp [hqueued]
    | bodyFailed hqueued hread => simp [hqueued, hread]
    | _ => simp at hphase

end CrankerRouter.Lib
