import CrankerRouter.V3.FlowControl

/-!
# No lost wake-up in an upload

The same upload with the individual loads, stores, compare-exchanges and queue operations as its
steps.  The sender and the receiver share the counter, the gate, the writer lock and the queue of
callbacks, and both run `write_it_maybe`.
-/

namespace CrankerRouter.V3.WakeUp

open Lib

/-- Where a task stands in `write_it_maybe`; `lock` to `unlock` is the part with the lock. -/
inductive Writer
  | testGate
  | testQueue
  | lock
  | loopGate
  | loopQueue
  | receive
  | store (callback : Nat)
  | notify (callback : Nat)
  | unlock
  deriving DecidableEq, Repr

inductive Frame
  | header
  | chunk
  deriving DecidableEq, Repr

/-- Where the sender stands. -/
inductive Sender
  | headers
  | loadPending (n : Nat) (frame : Frame)
  | closeGate (n : Nat) (frame : Frame)
  | queue (n : Nat) (frame : Frame)
  | next
  | check
  | push
  | write (w : Writer)
  | parked
  | woken
  | failed
  | ended
  deriving DecidableEq, Repr

/-- Where the receiver stands in `target_connector_ack_bytes`. -/
inductive Receiver
  | idle
  | subtract (n : Nat)
  | loadPending
  | openGate
  | write (w : Writer)
  deriving DecidableEq, Repr

/-- `shouldRead` and `notified` are the callbacks whose flag is set and whose notification holds
a permit.  `queued` and `acked` are the payload bytes queued and acknowledged. -/
structure Flow where
  pending : BitVec 32
  isWssWritable : Bool
  isWssWriting : Bool
  shouldKeepReadFromCli : List Nat
  shouldRead : List Nat
  notified : List Nat
  sender : Sender
  receiver : Receiver
  headers : List Nat
  body : Option (List Nat)
  callback : Nat
  queued : Nat
  acked : Nat

inductive Act
  | sender
  | receiver
  | ack (n : Nat)
  deriving DecidableEq, Repr

namespace Flow

/-- One operation of `write_it_maybe`; `none` when it returns.  The call of itself at its end
begins it again. -/
def write (f : Flow) : Writer → Flow × Option Writer
  | .testGate => (f, if f.isWssWritable then some .testQueue else none)
  | .testQueue => (f, if f.shouldKeepReadFromCli.isEmpty then none else some .lock)
  | .lock =>
      if f.isWssWriting then (f, none) else ({ f with isWssWriting := true }, some .loopGate)
  | .loopGate => (f, some (if f.isWssWritable then .loopQueue else .unlock))
  | .loopQueue => (f, some (if f.shouldKeepReadFromCli.isEmpty then .unlock else .receive))
  | .receive =>
      match f.shouldKeepReadFromCli with
      | callback :: rest => ({ f with shouldKeepReadFromCli := rest }, some (.store callback))
      | [] => (f, some .loopGate)
  | .store callback =>
      ({ f with shouldRead := f.shouldRead ++ [callback] }, some (.notify callback))
  | .notify callback => ({ f with notified := f.notified ++ [callback] }, some .loopGate)
  | .unlock => ({ f with isWssWriting := false }, some .testGate)

/-- `fetch_add` of a frame of `n` bytes. -/
def count (f : Flow) (n : Nat) (frame : Frame) : Flow :=
  { f with pending := f.pending + BitVec.ofNat 32 n, sender := .loadPending n frame }

def stepSender (f : Flow) : Option Flow :=
  match f.sender with
  | .headers =>
      match f.headers with
      | n :: headers => some ({ f with headers := headers }.count n .header)
      | [] => some { f with sender := if f.body.isSome then .next else .ended }
  | .loadPending n frame =>
      some { f with
        sender := if f.pending.toInt > waterMarkHigh then .closeGate n frame else .queue n frame }
  | .closeGate n frame => some { f with isWssWritable := false, sender := .queue n frame }
  | .queue n frame =>
      some { f with
        queued := f.queued + n
        sender := match frame with
          | .header => .headers
          | .chunk => .check }
  | .next =>
      match f.body with
      | some (n :: chunks) => some ({ f with body := some chunks }.count n .chunk)
      | _ => some { f with sender := .ended }
  | .check => some { f with sender := if f.isWssWritable then .next else .push }
  | .push =>
      some { f with
        shouldKeepReadFromCli := f.shouldKeepReadFromCli ++ [f.callback]
        sender := .write .testGate }
  | .write w =>
      some { (f.write w).1 with
        sender := match (f.write w).2 with
          | some w => .write w
          | none => .parked }
  | .parked => if f.callback ∈ f.notified then some { f with sender := .woken } else none
  | .woken =>
      some (if f.callback ∈ f.shouldRead then
        { f with callback := f.callback + 1, sender := .next }
      else { f with sender := .failed })
  | .failed => none
  | .ended => none

def stepReceiver (f : Flow) : Option Flow :=
  match f.receiver with
  | .idle => none
  | .subtract n =>
      some { f with pending := f.pending + -BitVec.ofNat 32 n, receiver := .loadPending }
  | .loadPending =>
      some { f with receiver := if f.pending.toInt < waterMarkLow then .openGate else .idle }
  | .openGate =>
      some (if f.isWssWritable then { f with receiver := .idle }
        else { f with isWssWritable := true, receiver := .write .testGate })
  | .write w =>
      some { (f.write w).1 with
        receiver := match (f.write w).2 with
          | some w => .write w
          | none => .idle }

/-- The connector acknowledges bytes that were queued and not acknowledged before. -/
def stepAck (f : Flow) (n : Nat) : Option Flow :=
  if f.receiver = .idle ∧ n < 2 ^ 31 ∧ f.acked + n ≤ f.queued then
    some { f with acked := f.acked + n, receiver := .subtract n }
  else none

def step (f : Flow) : Act → Option Flow
  | .sender => f.stepSender
  | .receiver => f.stepReceiver
  | .ack n => f.stepAck n

/-- An upload before its first frame. -/
def start (headers : List Nat) (body : Option (List Nat)) : Flow where
  pending := 0
  isWssWritable := true
  isWssWriting := false
  shouldKeepReadFromCli := []
  shouldRead := []
  notified := []
  sender := .headers
  receiver := .idle
  headers := headers
  body := body
  callback := 0
  queued := 0
  acked := 0

/-- Nothing is left that could wake the sender. -/
def Stalled (f : Flow) : Prop :=
  f.sender = .parked ∧ f.callback ∉ f.notified ∧ f.receiver = .idle ∧ f.acked = f.queued

end Flow

/-- The uploads of one header text and one body. -/
def machine (headerText : String) (body : Option (List Bytes)) : Machine Flow Act where
  init f := ∃ r : ReqId, f = .start
    ((headerMessages r true body.isNone headerText).map fun hb => hb.length - headerLenInBytes)
    (body.map fun chunks => chunks.map List.length)
  step := Flow.step

/-- The part of `write_it_maybe` that runs with the lock. -/
def Writer.holds : Writer → Bool
  | .testGate | .testQueue | .lock => false
  | _ => true

/-- The callback that was taken from the queue and not yet notified. -/
def Writer.held : Writer → List Nat
  | .store callback | .notify callback => [callback]
  | _ => []

def Writer.flagged : Writer → List Nat
  | .notify callback => [callback]
  | _ => []

namespace Sender

def writer : Sender → Option Writer
  | .write w => some w
  | _ => none

/-- The payload that is counted and not yet queued. -/
def counting : Sender → Nat
  | .loadPending n _ | .closeGate n _ | .queue n _ => n
  | _ => 0

/-- The chunk that is counted and not yet queued. -/
def chunk : Sender → Option Nat
  | .loadPending n .chunk | .closeGate n .chunk | .queue n .chunk => some n
  | _ => none

/-- Between a chunk that was queued and the next one. -/
def settled : Sender → Bool
  | .check | .push | .write _ | .parked => true
  | _ => false

/-- The callback of this wait was pushed. -/
def waits : Sender → Bool
  | .write _ | .parked => true
  | _ => false

end Sender

namespace Receiver

def writer : Receiver → Option Writer
  | .write w => some w
  | _ => none

/-- The bytes acknowledged and not yet subtracted. -/
def owing : Receiver → Nat
  | .subtract n => n
  | _ => 0

/-- The receiver has yet to look at the gate. -/
def beforeGate : Receiver → Bool
  | .subtract _ | .loadPending | .openGate => true
  | _ => false

end Receiver

/-- The same for a task that may be elsewhere. -/
def holds (w : Option Writer) : Bool := (w.map Writer.holds).getD false

def held (w : Option Writer) : List Nat := (w.map Writer.held).getD []

def flagged (w : Option Writer) : List Nat := (w.map Writer.flagged).getD []

section Write

variable (f : Flow) (w : Writer)

@[simp] theorem holds_none : holds none = false := rfl
@[simp] theorem holds_some : holds (some w) = w.holds := rfl
@[simp] theorem held_none : held none = [] := rfl
@[simp] theorem held_some : held (some w) = w.held := rfl
@[simp] theorem flagged_none : flagged none = [] := rfl
@[simp] theorem flagged_some : flagged (some w) = w.flagged := rfl

@[simp] theorem write_pending : (f.write w).1.pending = f.pending := by
  cases w <;> simp only [Flow.write] <;> split <;> rfl

@[simp] theorem write_isWssWritable : (f.write w).1.isWssWritable = f.isWssWritable := by
  cases w <;> simp only [Flow.write] <;> split <;> rfl

@[simp] theorem write_sender : (f.write w).1.sender = f.sender := by
  cases w <;> simp only [Flow.write] <;> split <;> rfl

@[simp] theorem write_receiver : (f.write w).1.receiver = f.receiver := by
  cases w <;> simp only [Flow.write] <;> split <;> rfl

@[simp] theorem write_body : (f.write w).1.body = f.body := by
  cases w <;> simp only [Flow.write] <;> split <;> rfl

@[simp] theorem write_callback : (f.write w).1.callback = f.callback := by
  cases w <;> simp only [Flow.write] <;> split <;> rfl

@[simp] theorem write_queued : (f.write w).1.queued = f.queued := by
  cases w <;> simp only [Flow.write] <;> split <;> rfl

@[simp] theorem write_acked : (f.write w).1.acked = f.acked := by
  cases w <;> simp only [Flow.write] <;> split <;> rfl

private theorem write_notified : (f.write w).1.notified = f.notified ++ w.flagged := by
  cases w <;> simp only [Flow.write, Writer.flagged, List.append_nil] <;> split <;> rfl

private theorem write_tokens :
    ((f.write w).1.shouldKeepReadFromCli ++ held (f.write w).2 ++ w.flagged).Perm
      (f.shouldKeepReadFromCli ++ w.held) := by
  cases w with
  | receive =>
      cases hq : f.shouldKeepReadFromCli with
      | nil => simp [Flow.write, Writer.held, Writer.flagged, hq]
      | cons callback rest =>
          simp [Flow.write, Writer.held, Writer.flagged, hq]
  | lock => by_cases h : f.isWssWriting <;> simp [Flow.write, Writer.held, Writer.flagged, h]
  | loopGate => by_cases h : f.isWssWritable <;> simp [Flow.write, Writer.held, Writer.flagged, h]
  | loopQueue => by_cases h : f.shouldKeepReadFromCli = [] <;> simp [Flow.write, Writer.held, Writer.flagged, h]
  | testGate => by_cases h : f.isWssWritable <;> simp [Flow.write, Writer.held, Writer.flagged, h]
  | testQueue => by_cases h : f.shouldKeepReadFromCli = [] <;> simp [Flow.write, Writer.held, Writer.flagged, h]
  | store callback => simp [Flow.write, Writer.held, Writer.flagged]
  | notify callback => simp [Flow.write, Writer.held, Writer.flagged]
  | unlock => simp [Flow.write, Writer.held, Writer.flagged]

private theorem write_shouldRead {i : Nat} (h : i ∈ f.shouldRead ∨ i ∈ flagged (f.write w).2) :
    i ∈ (f.write w).1.shouldRead := by
  cases w with
  | receive => cases hq : f.shouldKeepReadFromCli <;> simpa [Flow.write, Writer.flagged, hq] using h
  | lock => by_cases hl : f.isWssWriting <;> simpa [Flow.write, Writer.flagged, hl] using h
  | loopGate => by_cases hl : f.isWssWritable <;> simpa [Flow.write, Writer.flagged, hl] using h
  | loopQueue => by_cases hl : f.shouldKeepReadFromCli = [] <;> simpa [Flow.write, Writer.flagged, hl] using h
  | testGate => by_cases hl : f.isWssWritable <;> simpa [Flow.write, Writer.flagged, hl] using h
  | testQueue => by_cases hl : f.shouldKeepReadFromCli = [] <;> simpa [Flow.write, Writer.flagged, hl] using h
  | store callback => simpa [Flow.write, Writer.flagged] using h
  | notify callback => simpa [Flow.write, Writer.flagged] using h
  | unlock => simpa [Flow.write, Writer.flagged] using h

private theorem write_isWssWriting {other : Bool} (hlock : f.isWssWriting = (w.holds || other))
    (hexclusive : ¬(w.holds ∧ other)) :
    (f.write w).1.isWssWriting = (holds (f.write w).2 || other) ∧
      ¬(holds (f.write w).2 ∧ other) := by
  cases w with
  | receive => cases hq : f.shouldKeepReadFromCli <;> simp_all [Flow.write, Writer.holds]
  | lock => cases other <;> simp_all [Flow.write, Writer.holds]
  | loopGate => by_cases hl : f.isWssWritable <;> simp_all [Flow.write, Writer.holds]
  | loopQueue => by_cases hl : f.shouldKeepReadFromCli = [] <;> simp_all [Flow.write, Writer.holds]
  | testGate => by_cases hl : f.isWssWritable <;> simp_all [Flow.write, Writer.holds]
  | testQueue => by_cases hl : f.shouldKeepReadFromCli = [] <;> simp_all [Flow.write, Writer.holds]
  | store callback => simp_all [Flow.write, Writer.holds]
  | notify callback => simp_all [Flow.write, Writer.holds]
  | unlock => simp_all [Flow.write, Writer.holds]

private theorem write_returns (h : (f.write w).2 = none) :
    (f.write w).1 = f ∧ (w = .testGate ∧ f.isWssWritable = false ∨
      w = .testQueue ∧ f.shouldKeepReadFromCli = [] ∨ w = .lock ∧ f.isWssWriting = true) := by
  cases w with
  | receive => cases hq : f.shouldKeepReadFromCli <;> simp [Flow.write, hq] at h
  | lock => by_cases hl : f.isWssWriting <;> simp_all [Flow.write]
  | loopGate => simp [Flow.write] at h
  | loopQueue => simp [Flow.write] at h
  | testGate => by_cases hl : f.isWssWritable <;> simp_all [Flow.write]
  | testQueue => by_cases hl : f.shouldKeepReadFromCli = [] <;> simp_all [Flow.write]
  | store callback => simp [Flow.write] at h
  | notify callback => simp [Flow.write] at h
  | unlock => simp [Flow.write] at h

private theorem idle_of_returns (h : (f.write w).2 = none) :
    w.holds = false ∧ w.held = [] ∧ w.flagged = [] := by
  rcases (write_returns f w h).2 with ⟨rfl, -⟩ | ⟨rfl, -⟩ | ⟨rfl, -⟩ <;> exact ⟨rfl, rfl, rfl⟩

end Write

/-- What a step can do. -/
inductive Move (f : Flow) : Flow → Prop
  | startBody (hs : f.sender = .headers) (s : Sender) (h : s = .next ∨ s = .ended) :
      Move f { f with sender := s }
  | countHeader (hs : f.sender = .headers) (n : Nat) (rest : List Nat) :
      Move f ({ f with headers := rest }.count n .header)
  | load (n : Nat) (frame : Frame) (hs : f.sender = .loadPending n frame) (s : Sender)
      (h : s = .closeGate n frame ∨ s = .queue n frame) : Move f { f with sender := s }
  | closeGate (n : Nat) (frame : Frame) (hs : f.sender = .closeGate n frame) :
      Move f { f with isWssWritable := false, sender := .queue n frame }
  | queueHeader (n : Nat) (hs : f.sender = .queue n .header) :
      Move f { f with queued := f.queued + n, sender := .headers }
  | queueChunk (n : Nat) (hs : f.sender = .queue n .chunk) :
      Move f { f with queued := f.queued + n, sender := .check }
  | countChunk (hs : f.sender = .next) (n : Nat) (rest : List Nat)
      (hbody : f.body = some (n :: rest)) : Move f ({ f with body := some rest }.count n .chunk)
  | endBody (hs : f.sender = .next) : Move f { f with sender := .ended }
  | goOn (hs : f.sender = .check) : Move f { f with sender := .next }
  | stop (hs : f.sender = .check) : Move f { f with sender := .push }
  | push (hs : f.sender = .push) :
      Move f { f with
        shouldKeepReadFromCli := f.shouldKeepReadFromCli ++ [f.callback]
        sender := .write .testGate }
  | senderWrite (w w' : Writer) (hs : f.sender = .write w) (hw : (f.write w).2 = some w') :
      Move f { (f.write w).1 with sender := .write w' }
  | park (w : Writer) (hs : f.sender = .write w) (hw : (f.write w).2 = none) :
      Move f { f with sender := .parked }
  | wake (hs : f.sender = .parked) (h : f.callback ∈ f.notified) :
      Move f { f with sender := .woken }
  | resume (hs : f.sender = .woken) :
      Move f { f with callback := f.callback + 1, sender := .next }
  | fail (hs : f.sender = .woken) (h : f.callback ∉ f.shouldRead) :
      Move f { f with sender := .failed }
  | ack (n : Nat) (hr : f.receiver = .idle) (h : f.acked + n ≤ f.queued) :
      Move f { f with acked := f.acked + n, receiver := .subtract n }
  | subtract (n : Nat) (hr : f.receiver = .subtract n) :
      Move f { f with pending := f.pending + -BitVec.ofNat 32 n, receiver := .loadPending }
  | low (hr : f.receiver = .loadPending) : Move f { f with receiver := .openGate }
  | notLow (hr : f.receiver = .loadPending) (h : ¬f.pending.toInt < waterMarkLow) :
      Move f { f with receiver := .idle }
  | isOpen (hr : f.receiver = .openGate) (h : f.isWssWritable) :
      Move f { f with receiver := .idle }
  | openGate (hr : f.receiver = .openGate) :
      Move f { f with isWssWritable := true, receiver := .write .testGate }
  | receiverWrite (w w' : Writer) (hr : f.receiver = .write w) (hw : (f.write w).2 = some w') :
      Move f { (f.write w).1 with receiver := .write w' }
  | leave (w : Writer) (hr : f.receiver = .write w) (hw : (f.write w).2 = none) :
      Move f { f with receiver := .idle }

private theorem move_of_stepSender {f g : Flow} (h : f.stepSender = some g) : Move f g := by
  unfold Flow.stepSender at h
  cases hs : f.sender with
  | headers =>
      simp only [hs] at h
      split at h
      · obtain rfl := Option.some.inj h
        exact .countHeader hs _ _
      · obtain rfl := Option.some.inj h
        refine .startBody hs _ ?_
        split_ifs
        · exact .inl rfl
        · exact .inr rfl
  | loadPending n frame =>
      simp only [hs] at h
      obtain rfl := Option.some.inj h
      refine .load n frame hs _ ?_
      split_ifs
      · exact .inl rfl
      · exact .inr rfl
  | closeGate n frame =>
      simp only [hs] at h
      obtain rfl := Option.some.inj h
      exact .closeGate n frame hs
  | queue n frame =>
      simp only [hs] at h
      obtain rfl := Option.some.inj h
      cases frame with
      | header => exact .queueHeader n hs
      | chunk => exact .queueChunk n hs
  | next =>
      simp only [hs] at h
      split at h
      · rename_i n rest hbody
        obtain rfl := Option.some.inj h
        exact .countChunk hs n rest hbody
      · obtain rfl := Option.some.inj h
        exact .endBody hs
  | check =>
      simp only [hs] at h
      obtain rfl := Option.some.inj h
      split_ifs
      · exact .goOn hs
      · exact .stop hs
  | push =>
      simp only [hs] at h
      obtain rfl := Option.some.inj h
      exact .push hs
  | write w =>
      simp only [hs] at h
      obtain rfl := Option.some.inj h
      cases hw : (f.write w).2 with
      | some w' => exact .senderWrite w w' hs hw
      | none =>
          rw [(write_returns f w hw).1]
          exact .park w hs hw
  | parked =>
      simp only [hs] at h
      split_ifs at h with hmem
      obtain rfl := Option.some.inj h
      exact .wake hs hmem
  | woken =>
      simp only [hs] at h
      obtain rfl := Option.some.inj h
      split_ifs with hmem
      · exact .resume hs
      · exact .fail hs hmem
  | failed => simp [hs] at h
  | ended => simp [hs] at h

private theorem move_of_step {f g : Flow} {a : Act} (h : f.step a = some g) : Move f g := by
  cases a with
  | sender => exact move_of_stepSender h
  | ack n =>
      simp only [Flow.step, Flow.stepAck] at h
      split_ifs at h with hn
      obtain rfl := Option.some.inj h
      exact .ack n hn.1 hn.2.2
  | receiver =>
      simp only [Flow.step, Flow.stepReceiver] at h
      cases hr : f.receiver with
      | idle => simp [hr] at h
      | subtract n =>
          simp only [hr] at h
          obtain rfl := Option.some.inj h
          exact .subtract n hr
      | loadPending =>
          simp only [hr] at h
          obtain rfl := Option.some.inj h
          split_ifs with hlow
          · exact .low hr
          · exact .notLow hr hlow
      | openGate =>
          simp only [hr] at h
          obtain rfl := Option.some.inj h
          split_ifs with hopen
          · exact .isOpen hr hopen
          · exact .openGate hr
      | write w =>
          simp only [hr] at h
          obtain rfl := Option.some.inj h
          cases hw : (f.write w).2 with
          | some w' => exact .receiverWrite w w' hr hw
          | none =>
              rw [(write_returns f w hw).1]
              exact .leave w hr hw

variable {f g : Flow}

/-- Bytes are counted once and subtracted once, and no chunk is empty. -/
structure Counts (f : Flow) : Prop where
  chunks : ∀ n ∈ f.body.getD [], 0 < n
  chunk : ∀ n ∈ f.sender.chunk, 0 < n
  acked : f.acked ≤ f.queued
  pending : f.pending + BitVec.ofNat 32 f.acked =
    BitVec.ofNat 32 (f.queued + f.sender.counting) + BitVec.ofNat 32 f.receiver.owing

theorem Counts.congr (hf : Counts f) (hbody : g.body = f.body)
    (hchunk : ∀ n ∈ g.sender.chunk, 0 < n) (hacked : g.acked = f.acked)
    (hqueued : g.queued = f.queued) (hpending : g.pending = f.pending)
    (hcounting : g.sender.counting = f.sender.counting)
    (howing : g.receiver.owing = f.receiver.owing) : Counts g where
  chunks := hbody ▸ hf.chunks
  chunk := hchunk
  acked := by
    rw [hacked, hqueued]
    exact hf.acked
  pending := by
    rw [hacked, hqueued, hpending, hcounting, howing]
    exact hf.pending

theorem Counts.count (hf : Counts f) {headers : List Nat} {body : Option (List Nat)} {n : Nat}
    {frame : Frame} (hbody : ∀ n ∈ body.getD [], 0 < n) (hn : frame = .chunk → 0 < n)
    (hcounting : f.sender.counting = 0) :
    Counts ({ f with headers := headers, body := body }.count n frame) where
  chunks := hbody
  chunk := by
    cases frame with
    | header => simp [Flow.count, Sender.chunk]
    | chunk => simpa [Flow.count, Sender.chunk] using hn rfl
  acked := hf.acked
  pending := by
    have hpending := hf.pending
    rw [hcounting, Nat.add_zero] at hpending
    show f.pending + BitVec.ofNat 32 n + BitVec.ofNat 32 f.acked =
      BitVec.ofNat 32 (f.queued + n) + BitVec.ofNat 32 f.receiver.owing
    rw [BitVec.add_assoc, BitVec.add_comm (BitVec.ofNat 32 n), ← BitVec.add_assoc, hpending,
      BitVec.ofNat_add, BitVec.add_assoc, BitVec.add_assoc, BitVec.add_comm (BitVec.ofNat 32 n)]

theorem Counts.queue (hf : Counts f) {n : Nat} {s : Sender} (hn : f.sender.counting = n)
    (hs : s.counting = 0 ∧ s.chunk = none) :
    Counts { f with queued := f.queued + n, sender := s } where
  chunks := hf.chunks
  chunk := by simp [hs.2]
  acked := Nat.le_add_right_of_le hf.acked
  pending := by
    have hpending := hf.pending
    rw [hn] at hpending
    show _ = BitVec.ofNat 32 (f.queued + n + s.counting) + _
    rw [hs.1, Nat.add_zero]
    exact hpending

theorem Counts.step (hf : Counts f) (h : Move f g) : Counts g := by
  have hchunk := hf.chunk
  cases h with
  | startBody hs s h =>
      rcases h with rfl | rfl <;>
        exact hf.congr rfl (by simp [Sender.chunk]) rfl rfl rfl (by rw [hs]; rfl) rfl
  | countHeader hs n rest => exact hf.count hf.chunks (by simp) (by rw [hs]; rfl)
  | load n frame hs s h =>
      rw [hs] at hchunk
      rcases h with rfl | rfl <;> cases frame <;>
        exact hf.congr rfl hchunk rfl rfl rfl (by rw [hs]; rfl) rfl
  | closeGate n frame hs =>
      rw [hs] at hchunk
      cases frame <;> exact hf.congr rfl hchunk rfl rfl rfl (by rw [hs]; rfl) rfl
  | queueHeader n hs => exact hf.queue (by rw [hs]; rfl) ⟨rfl, rfl⟩
  | queueChunk n hs => exact hf.queue (by rw [hs]; rfl) ⟨rfl, rfl⟩
  | countChunk hs n rest hbody =>
      have hchunks := hf.chunks
      rw [hbody] at hchunks
      exact hf.count (fun m hm => hchunks m (List.mem_cons_of_mem n hm))
        (fun _ => hchunks n (by simp)) (by rw [hs]; rfl)
  | endBody hs => exact hf.congr rfl (by simp [Sender.chunk]) rfl rfl rfl (by rw [hs]; rfl) rfl
  | goOn hs => exact hf.congr rfl (by simp [Sender.chunk]) rfl rfl rfl (by rw [hs]; rfl) rfl
  | stop hs => exact hf.congr rfl (by simp [Sender.chunk]) rfl rfl rfl (by rw [hs]; rfl) rfl
  | push hs => exact hf.congr rfl (by simp [Sender.chunk]) rfl rfl rfl (by rw [hs]; rfl) rfl
  | senderWrite w w' hs hw =>
      exact hf.congr (by simp) (by simp [Sender.chunk]) (by simp) (by simp) (by simp)
        (by rw [hs]; rfl) (by simp)
  | park w hs hw => exact hf.congr rfl (by simp [Sender.chunk]) rfl rfl rfl (by rw [hs]; rfl) rfl
  | wake hs h => exact hf.congr rfl (by simp [Sender.chunk]) rfl rfl rfl (by rw [hs]; rfl) rfl
  | resume hs => exact hf.congr rfl (by simp [Sender.chunk]) rfl rfl rfl (by rw [hs]; rfl) rfl
  | fail hs h => exact hf.congr rfl (by simp [Sender.chunk]) rfl rfl rfl (by rw [hs]; rfl) rfl
  | ack n hr h =>
      have hpending := hf.pending
      rw [hr] at hpending
      refine ⟨hf.chunks, hchunk, h, ?_⟩
      show f.pending + BitVec.ofNat 32 (f.acked + n) = _ + BitVec.ofNat 32 n
      rw [BitVec.ofNat_add, ← BitVec.add_assoc, hpending]
      show _ + BitVec.ofNat 32 0 + _ = _
      rw [BitVec.add_zero]
  | subtract n hr =>
      have hpending := hf.pending
      rw [hr] at hpending
      refine ⟨hf.chunks, hchunk, hf.acked, ?_⟩
      show f.pending + -BitVec.ofNat 32 n + BitVec.ofNat 32 f.acked = _ + BitVec.ofNat 32 0
      rw [BitVec.add_assoc, BitVec.add_comm (-_), ← BitVec.add_assoc, hpending, BitVec.add_assoc]
      congr 1
      exact BitVec.add_right_neg _
  | low hr => exact hf.congr rfl hchunk rfl rfl rfl rfl (by rw [hr]; rfl)
  | notLow hr h => exact hf.congr rfl hchunk rfl rfl rfl rfl (by rw [hr]; rfl)
  | isOpen hr h => exact hf.congr rfl hchunk rfl rfl rfl rfl (by rw [hr]; rfl)
  | openGate hr => exact hf.congr rfl hchunk rfl rfl rfl rfl (by rw [hr]; rfl)
  | receiverWrite w w' hr hw =>
      exact hf.congr (by simp) (by simpa using hchunk) (by simp) (by simp) (by simp) (by simp)
        (by rw [hr]; rfl)
  | leave w hr hw => exact hf.congr rfl hchunk rfl rfl rfl rfl (by rw [hr]; rfl)

/-- The lock is held by at most one of the two tasks. -/
structure Locks (f : Flow) : Prop where
  lock : f.isWssWriting = (holds f.sender.writer || holds f.receiver.writer)
  exclusive : ¬(holds f.sender.writer ∧ holds f.receiver.writer)

theorem Locks.congr (hf : Locks f) (hlock : g.isWssWriting = f.isWssWriting)
    (hs : holds g.sender.writer = holds f.sender.writer)
    (hr : holds g.receiver.writer = holds f.receiver.writer) : Locks g where
  lock := by
    rw [hlock, hs, hr]
    exact hf.lock
  exclusive := by
    rw [hs, hr]
    exact hf.exclusive

theorem Locks.step (hf : Locks f) (h : Move f g) : Locks g := by
  cases h with
  | startBody hs s h => rcases h with rfl | rfl <;> exact hf.congr rfl (by rw [hs]; rfl) rfl
  | countHeader hs n rest => exact hf.congr rfl (by rw [hs]; rfl) rfl
  | load n frame hs s h => rcases h with rfl | rfl <;> exact hf.congr rfl (by rw [hs]; rfl) rfl
  | closeGate n frame hs => exact hf.congr rfl (by rw [hs]; rfl) rfl
  | queueHeader n hs => exact hf.congr rfl (by rw [hs]; rfl) rfl
  | queueChunk n hs => exact hf.congr rfl (by rw [hs]; rfl) rfl
  | countChunk hs n rest hbody => exact hf.congr rfl (by rw [hs]; rfl) rfl
  | endBody hs => exact hf.congr rfl (by rw [hs]; rfl) rfl
  | goOn hs => exact hf.congr rfl (by rw [hs]; rfl) rfl
  | stop hs => exact hf.congr rfl (by rw [hs]; rfl) rfl
  | push hs => exact hf.congr rfl (by rw [hs]; rfl) rfl
  | senderWrite w w' hs hw =>
      have hlock := hf.lock
      have hexcl := hf.exclusive
      rw [hs] at hlock hexcl
      have hwrite := write_isWssWriting f w hlock hexcl
      rw [hw] at hwrite
      exact ⟨by simpa [Sender.writer] using hwrite.1, by simpa [Sender.writer] using hwrite.2⟩
  | park w hs hw =>
      refine hf.congr rfl ?_ rfl
      rw [hs]
      exact (idle_of_returns f w hw).1.symm
  | wake hs h => exact hf.congr rfl (by rw [hs]; rfl) rfl
  | resume hs => exact hf.congr rfl (by rw [hs]; rfl) rfl
  | fail hs h => exact hf.congr rfl (by rw [hs]; rfl) rfl
  | ack n hr h => exact hf.congr rfl rfl (by rw [hr]; rfl)
  | subtract n hr => exact hf.congr rfl rfl (by rw [hr]; rfl)
  | low hr => exact hf.congr rfl rfl (by rw [hr]; rfl)
  | notLow hr h => exact hf.congr rfl rfl (by rw [hr]; rfl)
  | isOpen hr h => exact hf.congr rfl rfl (by rw [hr]; rfl)
  | openGate hr => exact hf.congr rfl rfl (by rw [hr]; rfl)
  | receiverWrite w w' hr hw =>
      have hlock := hf.lock
      have hexcl := hf.exclusive
      rw [hr, Bool.or_comm] at hlock
      rw [hr, and_comm] at hexcl
      obtain ⟨hlock', hexcl'⟩ := write_isWssWriting f w hlock hexcl
      rw [hw, Bool.or_comm] at hlock'
      rw [hw, and_comm] at hexcl'
      exact ⟨by simpa [Receiver.writer] using hlock', by simpa [Receiver.writer] using hexcl'⟩
  | leave w hr hw =>
      refine hf.congr rfl rfl ?_
      rw [hr]
      exact (idle_of_returns f w hw).1.symm

/-- The callback that is on its way, if there is one. -/
def Flow.expected (f : Flow) : List Nat :=
  if f.sender.waits ∧ f.callback ∉ f.notified then [f.callback] else []

/-- The callback of a wait is in one place until it is notified, with its flag set. -/
structure Calls (f : Flow) : Prop where
  tokens : (f.shouldKeepReadFromCli ++ held f.sender.writer ++ held f.receiver.writer).Perm
    f.expected
  fresh : ∀ i ∈ f.notified, i < f.callback ∨
    i = f.callback ∧ (f.sender.waits ∨ f.sender = .woken)
  woken : f.sender = .woken → f.callback ∈ f.notified
  flags : ∀ i, i ∈ f.notified ∨ i ∈ flagged f.sender.writer ∨ i ∈ flagged f.receiver.writer →
    i ∈ f.shouldRead
  alive : f.sender ≠ .failed

private theorem perm_of_notified {rest fl notified : List Nat} {waits : Bool} {cb : Nat}
    (h : (rest ++ fl).Perm (if waits ∧ cb ∉ notified then [cb] else [])) :
    rest.Perm (if waits ∧ cb ∉ notified ++ fl then [cb] else []) := by
  by_cases hexp : waits ∧ cb ∉ notified
  · rw [if_pos hexp, List.perm_singleton] at h
    cases rest with
    | nil =>
        obtain rfl : fl = [cb] := h
        simp
    | cons c rest =>
        simp only [List.cons_append, List.cons.injEq, List.append_eq_nil_iff] at h
        obtain ⟨rfl, rfl, rfl⟩ := h
        simp [hexp]
  · rw [if_neg hexp, List.perm_nil, List.append_eq_nil_iff] at h
    obtain ⟨rfl, rfl⟩ := h
    simp [hexp]

/-- The sender has no callback on its way. -/
def Sender.uploads : Sender → Bool
  | .write _ | .parked | .woken | .failed => false
  | _ => true

private theorem Sender.uploads_spec {s : Sender} (h : s.uploads = true) :
    s.writer = none ∧ s.waits = false ∧ s ≠ .woken ∧ s ≠ .failed := by
  cases s with
  | write | parked | woken | failed => cases h
  | _ => exact ⟨rfl, rfl, by simp, by simp⟩

namespace Calls

private theorem of_sender (hf : Calls f) {s : Sender} (hs : s.uploads = true)
    (hs' : f.sender.uploads = true) : Calls { f with sender := s } := by
  obtain ⟨hwriter, hwaits, hwoken, halive⟩ := Sender.uploads_spec hs
  obtain ⟨hwriter', hwaits', hwoken', -⟩ := Sender.uploads_spec hs'
  have htokens := hf.tokens
  simp only [Flow.expected, hwriter', hwaits'] at htokens
  exact {
    tokens := by simpa [Flow.expected, hwriter, hwaits] using htokens
    fresh := fun i hi => .inl (by simpa [hwaits', hwoken'] using hf.fresh i hi)
    woken := fun h => absurd h hwoken
    flags := fun i hi => hf.flags i (by simpa [hwriter, hwriter'] using hi)
    alive := halive }

theorem congr (hf : Calls f) (hqueue : g.shouldKeepReadFromCli = f.shouldKeepReadFromCli)
    (hread : g.shouldRead = f.shouldRead) (hnotified : g.notified = f.notified)
    (hsender : g.sender = f.sender) (hcallback : g.callback = f.callback)
    (hheld : held g.receiver.writer = held f.receiver.writer)
    (hflagged : flagged g.receiver.writer = flagged f.receiver.writer) : Calls g where
  tokens := by
    have htokens := hf.tokens
    unfold Flow.expected at *
    rw [hqueue, hsender, hheld, hnotified, hcallback]
    exact htokens
  fresh := by
    rw [hnotified, hcallback, hsender]
    exact hf.fresh
  woken := by
    rw [hsender, hcallback, hnotified]
    exact hf.woken
  flags := by
    rw [hnotified, hsender, hflagged, hread]
    exact hf.flags
  alive := by
    rw [hsender]
    exact hf.alive

private theorem write_perm {w : Writer} {o : Option Writer} {other : List Nat}
    (ho : (f.write w).2 = o)
    (h : (f.shouldKeepReadFromCli ++ w.held ++ other).Perm f.expected) :
    ((f.write w).1.shouldKeepReadFromCli ++ held o ++ other).Perm
      (if f.sender.waits ∧ f.callback ∉ (f.write w).1.notified then [f.callback] else []) := by
  rw [write_notified]
  apply perm_of_notified
  have hmove := write_tokens f w
  rw [ho] at hmove
  have hswap : ((f.write w).1.shouldKeepReadFromCli ++ held o ++ other ++ w.flagged).Perm
      ((f.write w).1.shouldKeepReadFromCli ++ held o ++ w.flagged ++ other) := by
    rw [List.append_assoc, List.append_assoc _ w.flagged]
    exact List.perm_append_comm.append_left _
  exact (hswap.trans (hmove.append_right other)).trans h

private theorem expected_of_waits_false (hf : Calls f) (hwaits : f.sender.waits = false) :
    f.shouldKeepReadFromCli = [] ∧ held f.receiver.writer = [] := by
  have htokens := hf.tokens
  simp only [Flow.expected, hwaits, Bool.false_eq_true, false_and, if_false,
    List.perm_nil, List.append_eq_nil_iff] at htokens
  exact ⟨htokens.1.1, htokens.2⟩

private theorem senderWrite (hf : Calls f) {w w' : Writer} (hs : f.sender = .write w)
    (hw : (f.write w).2 = some w') : Calls { (f.write w).1 with sender := .write w' } where
  tokens := by
    have htokens := hf.tokens
    rw [hs] at htokens
    have hperm := write_perm hw htokens
    rw [hs] at hperm
    simpa [Flow.expected, Sender.writer, Sender.waits] using hperm
  fresh i hi := by
    have hold : i ∈ f.notified ∨ i ∈ w.flagged := by
      simpa [write_notified] using hi
    rcases hold with hold | hnew
    · simpa [hs, Sender.waits] using hf.fresh i hold
    · have hheld : i ∈ w.held := by
        cases w <;> simp [Writer.flagged] at hnew
        simpa [Writer.held] using hnew
      have hmem : i ∈ f.expected :=
        hf.tokens.subset (by simp [hs, Sender.writer, hheld])
      unfold Flow.expected at hmem
      split_ifs at hmem
      · exact .inr ⟨by simpa using hmem, .inl rfl⟩
      · simp at hmem
  woken h := by simp at h
  flags i hi := by
    apply write_shouldRead
    rw [hw]
    rcases hi with hi | hi | hi
    · have hold : i ∈ f.notified ∨ i ∈ w.flagged := by
        simpa [write_notified] using hi
      refine .inl (hf.flags i ?_)
      rw [hs]
      exact hold.imp_right .inl
    · exact .inr hi
    · exact .inl (hf.flags i (.inr (.inr (by simpa using hi))))
  alive := by simp

private theorem receiverWrite (hf : Calls f) {w w' : Writer} (hr : f.receiver = .write w)
    (hw : (f.write w).2 = some w') : Calls { (f.write w).1 with receiver := .write w' } where
  tokens := by
    have htokens := hf.tokens
    rw [hr] at htokens
    have hswap : ∀ a b c : List Nat, (a ++ b ++ c).Perm (a ++ c ++ b) := by
      intro a b c
      rw [List.append_assoc, List.append_assoc]
      exact List.perm_append_comm.append_left a
    have hperm := write_perm hw ((hswap _ _ _).symm.trans htokens)
    have hback := (hswap _ _ _).symm.trans hperm
    simpa [Flow.expected, Receiver.writer] using hback
  fresh i hi := by
    have hold : i ∈ f.notified ∨ i ∈ w.flagged := by
      simpa [write_notified] using hi
    rcases hold with hold | hnew
    · simpa using hf.fresh i hold
    · have hheld : i ∈ w.held := by
        cases w <;> simp [Writer.flagged] at hnew
        simpa [Writer.held] using hnew
      have hmem : i ∈ f.expected :=
        hf.tokens.subset (by simp [hr, Receiver.writer, hheld])
      unfold Flow.expected at hmem
      split_ifs at hmem with hexp
      · exact .inr ⟨by simpa using hmem, .inl (by simpa using hexp.1)⟩
      · simp at hmem
  woken h := by
    rw [write_notified]
    exact List.mem_append_left _ (by simpa using hf.woken (by simpa using h))
  flags i hi := by
    apply write_shouldRead
    rw [hw]
    rcases hi with hi | hi | hi
    · have hold : i ∈ f.notified ∨ i ∈ w.flagged := by
        simpa [write_notified] using hi
      refine .inl (hf.flags i ?_)
      rw [hr]
      exact hold.imp_right .inr
    · exact .inl (hf.flags i (.inr (.inl (by simpa using hi))))
    · exact .inr hi
  alive := by simpa using hf.alive

theorem push (hf : Calls f) (hs : f.sender = .push) :
    Calls { f with
      shouldKeepReadFromCli := f.shouldKeepReadFromCli ++ [f.callback]
      sender := .write .testGate } := by
  obtain ⟨hqueue, hheld⟩ := hf.expected_of_waits_false (by rw [hs]; rfl)
  have hfresh : ∀ i ∈ f.notified, i < f.callback := by
    intro i hi
    simpa [hs, Sender.waits] using hf.fresh i hi
  have hnew : f.callback ∉ f.notified := fun h => Nat.lt_irrefl _ (hfresh _ h)
  refine ⟨?_, fun i hi => .inl (hfresh i hi), by simp, ?_, by simp⟩
  · simp [Flow.expected, hqueue, hheld, hnew, Sender.waits, Sender.writer, Writer.held]
  · intro i hi
    refine hf.flags i ?_
    rw [hs]
    exact hi

private theorem park (hf : Calls f) {w : Writer} (hs : f.sender = .write w)
    (hw : (f.write w).2 = none) : Calls { f with sender := .parked } := by
  obtain ⟨-, hheld, hflagged⟩ := idle_of_returns f w hw
  have htokens := hf.tokens
  have hfresh := hf.fresh
  have hflags := hf.flags
  simp only [hs, Flow.expected, Sender.writer, Sender.waits, held_some, flagged_some, hheld,
    hflagged] at htokens hfresh hflags
  exact ⟨by simpa [Flow.expected, Sender.writer, Sender.waits] using htokens,
    by simpa [Sender.waits] using hfresh, by simp, by simpa [Sender.writer] using hflags, by simp⟩

private theorem wake (hf : Calls f) (hs : f.sender = .parked) (h : f.callback ∈ f.notified) :
    Calls { f with sender := .woken } := by
  have htokens := hf.tokens
  have hfresh := hf.fresh
  have hflags := hf.flags
  simp only [hs, Flow.expected, Sender.writer, Sender.waits, h] at htokens hfresh hflags
  exact ⟨by simpa [Flow.expected, Sender.writer, Sender.waits] using htokens,
    by simpa using hfresh, fun _ => h, by simpa [Sender.writer] using hflags, by simp⟩

private theorem resume (hf : Calls f) (hs : f.sender = .woken) :
    Calls { f with callback := f.callback + 1, sender := .next } := by
  have htokens := hf.tokens
  have hflags := hf.flags
  simp only [hs, Flow.expected, Sender.writer, Sender.waits] at htokens hflags
  refine ⟨by simpa [Flow.expected, Sender.writer, Sender.waits] using htokens, ?_, by simp,
    by simpa [Sender.writer] using hflags, by simp⟩
  intro i hi
  rcases hf.fresh i hi with hlt | ⟨rfl, -⟩
  · exact .inl (Nat.lt_succ_of_lt hlt)
  · exact .inl (Nat.lt_succ_self _)

theorem step (hf : Calls f) (h : Move f g) : Calls g := by
  cases h with
  | startBody hs s h =>
      rcases h with rfl | rfl <;>
        exact hf.of_sender rfl (by rw [hs]; rfl)
  | countHeader hs n rest =>
      have hsender := hf.of_sender (s := .loadPending n .header) rfl (by rw [hs]; rfl)
      exact hsender.congr rfl rfl rfl rfl rfl rfl rfl
  | load n frame hs s h =>
      rcases h with rfl | rfl <;>
        exact hf.of_sender rfl (by rw [hs]; rfl)
  | closeGate n frame hs =>
      have hsender := hf.of_sender (s := .queue n frame) rfl (by rw [hs]; rfl)
      exact hsender.congr rfl rfl rfl rfl rfl rfl rfl
  | queueHeader n hs =>
      have hsender := hf.of_sender (s := .headers) rfl (by rw [hs]; rfl)
      exact hsender.congr rfl rfl rfl rfl rfl rfl rfl
  | queueChunk n hs =>
      have hsender := hf.of_sender (s := .check) rfl (by rw [hs]; rfl)
      exact hsender.congr rfl rfl rfl rfl rfl rfl rfl
  | countChunk hs n rest hbody =>
      have hsender := hf.of_sender (s := .loadPending n .chunk) rfl (by rw [hs]; rfl)
      exact hsender.congr rfl rfl rfl rfl rfl rfl rfl
  | endBody hs =>
      exact hf.of_sender rfl (by rw [hs]; rfl)
  | goOn hs =>
      exact hf.of_sender rfl (by rw [hs]; rfl)
  | stop hs =>
      exact hf.of_sender rfl (by rw [hs]; rfl)
  | push hs => exact hf.push hs
  | senderWrite w w' hs hw => exact hf.senderWrite hs hw
  | park w hs hw => exact hf.park hs hw
  | wake hs h => exact hf.wake hs h
  | resume hs => exact hf.resume hs
  | fail hs h => exact absurd (hf.flags _ (.inl (hf.woken hs))) h
  | ack n hr h => exact hf.congr rfl rfl rfl rfl rfl (by rw [hr]; rfl) (by rw [hr]; rfl)
  | subtract n hr => exact hf.congr rfl rfl rfl rfl rfl (by rw [hr]; rfl) (by rw [hr]; rfl)
  | low hr => exact hf.congr rfl rfl rfl rfl rfl (by rw [hr]; rfl) (by rw [hr]; rfl)
  | notLow hr h => exact hf.congr rfl rfl rfl rfl rfl (by rw [hr]; rfl) (by rw [hr]; rfl)
  | isOpen hr h => exact hf.congr rfl rfl rfl rfl rfl (by rw [hr]; rfl) (by rw [hr]; rfl)
  | openGate hr => exact hf.congr rfl rfl rfl rfl rfl (by rw [hr]; rfl) (by rw [hr]; rfl)
  | receiverWrite w w' hr hw => exact hf.receiverWrite hr hw
  | leave w hr hw =>
      obtain ⟨-, hheld, hflagged⟩ := idle_of_returns f w hw
      exact hf.congr rfl rfl rfl rfl rfl (by rw [hr]; exact hheld.symm)
        (by rw [hr]; exact hflagged.symm)

end Calls

/-- Once everything queued is acknowledged the gate is open or about to be opened, and whoever
opens it looks at the queue afterwards. -/
structure Gates (f : Flow) : Prop where
  gate : f.sender.settled → f.acked = f.queued → f.isWssWritable ∨ f.receiver.beforeGate
  served : f.sender = .parked → f.shouldKeepReadFromCli ≠ [] → f.isWssWritable →
    f.receiver.writer.isSome

private theorem Counts.pending_eq_zero (hf : Counts f) (hcounting : f.sender.counting = 0)
    (howing : f.receiver.owing = 0) (hacked : f.acked = f.queued) : f.pending = 0 := by
  have hpending := hf.pending
  rw [hcounting, howing, hacked, Nat.add_zero, BitVec.add_zero] at hpending
  have hzero : f.pending + BitVec.ofNat 32 f.queued = 0 + BitVec.ofNat 32 f.queued := by
    rw [hpending]
    exact (BitVec.zero_add _).symm
  exact (BitVec.add_left_inj _).mp hzero

namespace Gates

private theorem of_unsettled (hs : g.sender.settled = false) : Gates g where
  gate h := by simp [hs] at h
  served h := by simp [h, Sender.settled] at hs

private theorem of_receiver (hf : Gates f) (hwriter : f.receiver.writer = none)
    (hsender : g.sender = f.sender) (hqueue : g.shouldKeepReadFromCli = f.shouldKeepReadFromCli)
    (hwritable : g.isWssWritable = f.isWssWritable)
    (hgate : g.sender.settled → g.acked = g.queued → g.isWssWritable ∨ g.receiver.beforeGate) :
    Gates g where
  gate := hgate
  served hparked hne hopen := by
    have hserved := hf.served (hsender ▸ hparked) (hqueue ▸ hne) (hwritable ▸ hopen)
    simp [hwriter] at hserved

private theorem park (hf : Gates f) (hl : Locks f) {w : Writer} (hs : f.sender = .write w)
    (hw : (f.write w).2 = none) : Gates { f with sender := .parked } where
  gate _ := hf.gate (by rw [hs]; rfl)
  served _ hne hopen := by
    rcases (write_returns f w hw).2 with ⟨-, hclosed⟩ | ⟨-, hempty⟩ | ⟨rfl, hlocked⟩
    · exact absurd hopen (by simp [hclosed])
    · exact absurd hempty hne
    · -- the lock is the receiver's
      have hlock := hl.lock
      rw [hs, hlocked] at hlock
      cases hr : f.receiver.writer with
      | none => simp [hr, Sender.writer, Writer.holds] at hlock
      | some w => rfl

private theorem leave (hf : Gates f) (hl : Locks f) {w : Writer} (hr : f.receiver = .write w)
    (hw : (f.write w).2 = none) : Gates { f with receiver := .idle } where
  gate hsettled hacked := by
    have hgate := hf.gate hsettled hacked
    simpa [hr, Receiver.beforeGate] using hgate
  served hparked hne hopen := by
    rcases (write_returns f w hw).2 with ⟨-, hclosed⟩ | ⟨-, hempty⟩ | ⟨rfl, hlocked⟩
    · exact absurd hopen (by simp [hclosed])
    · exact absurd hempty hne
    · -- nobody has the lock: the sender is parked
      have hsender : f.sender = .parked := hparked
      have hlock := hl.lock
      rw [hr, hsender, hlocked] at hlock
      simp [Sender.writer, Receiver.writer, Writer.holds] at hlock

theorem step (hf : Gates f) (hc : Counts f) (hl : Locks f) (h : Move f g) : Gates g := by
  have hacked := hc.acked
  have hchunk := hc.chunk
  cases h with
  | startBody hs s h => rcases h with rfl | rfl <;> exact of_unsettled rfl
  | countHeader hs n rest => exact of_unsettled rfl
  | load n frame hs s h => rcases h with rfl | rfl <;> exact of_unsettled rfl
  | closeGate n frame hs => exact of_unsettled rfl
  | queueHeader n hs => exact of_unsettled rfl
  | queueChunk n hs =>
      rw [hs] at hchunk
      have hn : 0 < n := hchunk n rfl
      refine ⟨fun _ heq => ?_, by simp⟩
      have hall : f.acked = f.queued + n := heq
      omega
  | countChunk hs n rest hbody => exact of_unsettled rfl
  | endBody hs => exact of_unsettled rfl
  | goOn hs => exact of_unsettled rfl
  | stop hs => exact ⟨fun _ => hf.gate (by rw [hs]; rfl), by simp⟩
  | push hs => exact ⟨fun _ => hf.gate (by rw [hs]; rfl), by simp⟩
  | senderWrite w w' hs hw =>
      exact ⟨fun _ => by simpa using hf.gate (by rw [hs]; rfl), by simp⟩
  | park w hs hw => exact hf.park hl hs hw
  | wake hs h => exact of_unsettled rfl
  | resume hs => exact of_unsettled rfl
  | fail hs h => exact of_unsettled rfl
  | ack n hr h => exact hf.of_receiver (by rw [hr]; rfl) rfl rfl rfl (fun _ _ => .inr rfl)
  | subtract n hr => exact hf.of_receiver (by rw [hr]; rfl) rfl rfl rfl (fun _ _ => .inr rfl)
  | low hr => exact hf.of_receiver (by rw [hr]; rfl) rfl rfl rfl (fun _ _ => .inr rfl)
  | notLow hr h =>
      refine hf.of_receiver (by rw [hr]; rfl) rfl rfl rfl (fun hsettled heq => ?_)
      have hcounting : f.sender.counting = 0 := by
        cases hs : f.sender <;> simp_all [Sender.settled, Sender.counting]
      have hzero := hc.pending_eq_zero hcounting (by rw [hr]; rfl) heq
      exact absurd (by rw [hzero]; decide) h
  | isOpen hr h => exact hf.of_receiver (by rw [hr]; rfl) rfl rfl rfl (fun _ _ => .inl h)
  | openGate hr => exact ⟨fun _ _ => .inl rfl, fun _ _ _ => rfl⟩
  | receiverWrite w w' hr hw =>
      refine ⟨fun hsettled heq => ?_, fun _ _ _ => rfl⟩
      have hgate := hf.gate (by simpa using hsettled) (by simpa using heq)
      simpa [hr, Receiver.beforeGate] using hgate
  | leave w hr hw => exact hf.leave hl hr hw

end Gates

/-- All of it. -/
structure Awake (f : Flow) : Prop where
  counts : Counts f
  locks : Locks f
  calls : Calls f
  gates : Gates f

theorem Awake.step (hf : Awake f) {a : Act} (h : f.step a = some g) : Awake g := by
  have hmove := move_of_step h
  exact ⟨hf.counts.step hmove, hf.locks.step hmove, hf.calls.step hmove,
    hf.gates.step hf.counts hf.locks hmove⟩

private theorem awake_start (headers : List Nat) {body : Option (List Nat)}
    (hbody : ∀ n ∈ body.getD [], 0 < n) : Awake (.start headers body) where
  counts := ⟨hbody, by simp [Flow.start, Sender.chunk], Nat.le_refl 0, rfl⟩
  locks := ⟨rfl, by simp [Flow.start, Sender.writer]⟩
  calls := by
    constructor <;> simp [Flow.start, Flow.expected, Sender.writer, Receiver.writer, Sender.waits]
  gates := .of_unsettled rfl

private theorem Awake.not_stalled (hf : Awake f) : ¬f.Stalled := by
  rintro ⟨hparked, hnotified, hidle, hacked⟩
  have hopen : f.isWssWritable := by
    have hgate := hf.gates.gate (by rw [hparked]; rfl) hacked
    simpa [hidle, Receiver.beforeGate] using hgate
  have htokens := hf.calls.tokens
  have hexpected : f.expected = [f.callback] := by
    simp [Flow.expected, hparked, Sender.waits, hnotified]
  rw [hexpected, hparked, hidle] at htokens
  have hqueue : f.shouldKeepReadFromCli ≠ [] := by
    intro hempty
    simp [hempty, Sender.writer, Receiver.writer] at htokens
  have hserved := hf.gates.served hparked hqueue hopen
  simp [hidle, Receiver.writer] at hserved

/-- Without empty chunks no upload stalls: a sender that waits is woken, and finds its flag set. -/
theorem upload_wakes_up (headerText : String) (body : Option (List Bytes))
    (hchunks : ∀ chunk ∈ body.getD [], chunk ≠ []) {f : Flow}
    (hf : (machine headerText body).Reachable Machine.anyAction f) :
    ¬f.Stalled ∧ (f.sender = .woken → f.callback ∈ f.shouldRead) ∧ f.sender ≠ .failed := by
  have hlengths : ∀ n ∈ (body.map fun chunks => chunks.map List.length).getD [], 0 < n := by
    intro n hn
    cases body with
    | none => simp at hn
    | some chunks =>
        simp only [Option.map_some, Option.getD_some, List.mem_map] at hn
        obtain ⟨chunk, hchunk, rfl⟩ := hn
        exact List.length_pos_of_ne_nil (hchunks chunk hchunk)
  have hawake : Awake f :=
    hf.invariant (P := Awake) (by rintro _ ⟨r, rfl⟩; exact awake_start _ hlengths)
      (fun _ _ _ hs _ h => hs.step h)
  exact ⟨hawake.not_stalled, fun h => hawake.calls.flags _ (.inl (hawake.calls.woken h)),
    hawake.calls.alive⟩

/-- A chunk of 70000 bytes fills the window. -/
def bigChunk : Bytes := List.replicate 70000 0

private theorem init_bigChunk (rest : List Bytes) :
    (machine "x" (some (bigChunk :: rest))).init
      (.start [1] (some (70000 :: rest.map List.length))) := by
  have hheaders : ((headerMessages 0 true false "x").map fun hb => hb.length - headerLenInBytes) =
      [1] := by
    decide +kernel
  have hlength : bigChunk.length = 70000 := List.length_replicate
  refine ⟨0, ?_⟩
  rw [Option.isNone_some, hheaders, Option.map_some, List.map_cons, hlength]

/-- The sender finds the gate closed, pushes its callback and parks; the acknowledgement opens
the gate and notifies it. -/
def parksAndWakes : List Act :=
  List.flatten [List.replicate 11 .sender, [.ack 70000], List.replicate 11 .receiver, [.sender]]

theorem upload_wakes_up_bigChunk :
    ((machine "x" (some [bigChunk])).run Machine.anyAction (.start [1] (some [70000]))
      parksAndWakes).sender = .woken ∧
    ((machine "x" (some [bigChunk])).run Machine.anyAction (.start [1] (some [70000]))
      parksAndWakes).callback ∈
      ((machine "x" (some [bigChunk])).run Machine.anyAction (.start [1] (some [70000]))
        parksAndWakes).shouldRead := by
  have hreach := Machine.reachable_run (machine "x" (some [bigChunk])) Machine.anyAction
    (init_bigChunk []) parksAndWakes
  have hchunks : ∀ chunk ∈ (some [bigChunk]).getD [], chunk ≠ [] := by
    rintro chunk hmem rfl
    have hnil : [] = bigChunk := List.mem_singleton.mp hmem
    have hlength : bigChunk.length = 70000 := List.length_replicate
    rw [← hnil] at hlength
    exact absurd hlength (by decide)
  have hwoken : ((machine "x" (some [bigChunk])).run Machine.anyAction (.start [1] (some [70000]))
      parksAndWakes).sender = .woken := by
    decide +kernel
  exact ⟨hwoken, (upload_wakes_up "x" (some [bigChunk]) hchunks hreach).2.1 hwoken⟩

/-- The receiver has seen the counter low before the big chunk was counted, so it opens the gate
that the sender has just closed.  Then the counter is seen high for an empty chunk, everything is
acknowledged, and the gate is closed with nothing left to acknowledge. -/
def closesLast : List Act :=
  List.flatten [List.replicate 3 .sender, [.ack 1], List.replicate 2 .receiver,
    List.replicate 4 .sender, List.replicate 3 .receiver, List.replicate 4 .sender, [.ack 70000],
    List.replicate 3 .receiver, List.replicate 5 .sender]

theorem empty_chunk_stalls : ∃ f, (machine "x" (some [bigChunk, []])).Reachable Machine.anyAction f ∧
    f.Stalled := by
  refine ⟨_, Machine.reachable_run (machine "x" (some [bigChunk, []])) Machine.anyAction
    (init_bigChunk [[]]) closesLast, ?_⟩
  unfold Flow.Stalled
  decide +kernel

end CrankerRouter.V3.WakeUp
