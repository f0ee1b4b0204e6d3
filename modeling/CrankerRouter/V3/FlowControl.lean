import CrankerRouter.Lib.Machine
import CrankerRouter.V3.Codec
import CrankerRouter.V3.Socket

/-!
# Flow control of an upload

The sender counts the payload of a frame before it queues the frame, and after a body frame it
waits while the gate is closed.  Acknowledgements arrive at any point.  Here a call of one of the
counting functions is one step, and a frame is the length of its payload.
-/

namespace CrankerRouter.V3.FlowControl

open Lib

/-- Where the sender stands in `split_part_one_send_or_err`. -/
inductive Phase
  | headers
  | queueHeader (n : Nat)
  | next
  | queueChunk (n : Nat)
  | check
  | push
  | write
  | parked
  | ended
  deriving DecidableEq, Repr

/-- An upload under way.  `counted`, `queued` and `acked` are history: the payload bytes counted
by the sender, given to the websocket, and acknowledged. -/
structure Upload where
  ctx : RequestContext
  phase : Phase
  headers : List Nat
  body : Option (List Nat)
  callback : Nat
  counted : Nat
  queued : Nat
  acked : Nat

inductive Act
  | sender
  | ack (n : BitVec 32)
  deriving DecidableEq, Repr

namespace Upload

/-- `inc_rtr_to_tgt_pending_ack_bytes` for a payload of `n` bytes. -/
def count (u : Upload) (n : Nat) (phase : Phase) : Upload :=
  { u with
    ctx := u.ctx.incRtrToTgtPendingAckBytes (BitVec.ofNat 32 n)
    counted := u.counted + n
    phase := phase }

/-- `send_data` of a payload of `n` bytes. -/
def queue (u : Upload) (n : Nat) (phase : Phase) : Upload :=
  { u with queued := u.queued + n, phase := phase }

def sender (u : Upload) : Option Upload :=
  match u.phase with
  | .headers =>
      match u.headers with
      | n :: headers => some ({ u with headers := headers }.count n (.queueHeader n))
      | [] => some { u with phase := if u.body.isSome then .next else .ended }
  | .queueHeader n => some (u.queue n .headers)
  | .next =>
      match u.body with
      | some (n :: chunks) => some ({ u with body := some chunks }.count n (.queueChunk n))
      | _ => some { u with phase := .ended }
  | .queueChunk n => some (u.queue n .check)
  | .check => some { u with phase := if u.ctx.isWssWritable then .next else .push }
  | .push =>
      some { u with
        ctx := { u.ctx with
          shouldKeepReadFromCli := u.ctx.shouldKeepReadFromCli ++ [u.callback] }
        phase := .write }
  | .write => some { u with ctx := u.ctx.writeItMaybe, phase := .parked }
  | .parked =>
      if u.callback ∈ u.ctx.resumed then
        some { u with callback := u.callback + 1, phase := .next }
      else none
  | .ended => none

/-- A window update acknowledges bytes that were queued and not acknowledged before. -/
def ack (u : Upload) (n : BitVec 32) : Option Upload :=
  if 0 ≤ n.toInt ∧ u.acked + n.toNat ≤ u.queued then
    some { u with ctx := u.ctx.acked n, acked := u.acked + n.toNat }
  else none

def step (u : Upload) : Act → Option Upload
  | .sender => u.sender
  | .ack n => u.ack n

/-- The upload of a header text and a body, if there is one. -/
def start (r : ReqId) (now : Int) (headerText : String) (body : Option (List Bytes)) : Upload where
  ctx := .new now
  phase := .headers
  headers := (headerMessages r true body.isNone headerText).map fun hb =>
    hb.length - headerLenInBytes
  body := body.map fun chunks => chunks.map List.length
  callback := 0
  counted := 0
  queued := 0
  acked := 0

end Upload

/-- The uploads of one header text and one body. -/
def machine (headerText : String) (body : Option (List Bytes)) : Machine Upload Act where
  init u := ∃ r now, u = .start r now headerText body
  step := Upload.step

/-- The largest chunk of a body. -/
def largestChunk (body : Option (List Bytes)) : Nat :=
  (body.getD []).foldr (fun chunk n => max chunk.length n) 0

/-- The bound on the bytes in flight. -/
def inFlightBound (headerText : String) (body : Option (List Bytes)) : Nat :=
  max (64 * 1024) (utf8 headerText).length + largestChunk body

section Context

variable {ctx : RequestContext} {n : BitVec 32} {i : Nat}

private theorem toInt_add_of_lt {x y : BitVec 32} {a b : Int} (hx : x.toInt = a) (hy : y.toInt = b)
    (hlow : -2147483648 ≤ a + b) (hhigh : a + b < 2147483648) : (x + y).toInt = a + b := by
  rw [BitVec.toInt_add, hx, hy, Int.bmod_eq_of_le (by simpa using hlow) (by simpa using hhigh)]

theorem toInt_ofNat_of_lt {k : Nat} (h : k < 2147483648) : (BitVec.ofNat 32 k).toInt = k := by
  have hk : (BitVec.ofNat 32 k).toNat = k := by
    rw [BitVec.toNat_ofNat]
    exact Nat.mod_eq_of_lt (by omega)
  rw [BitVec.toInt_eq_toNat_of_lt (by omega), hk]

private theorem acked_pending :
    (ctx.acked n).wssRtrToTgtPendingAckBytes = ctx.wssRtrToTgtPendingAckBytes + -n := by
  unfold RequestContext.acked RequestContext.writeItMaybe
  dsimp only
  split_ifs <;> rfl

private theorem acked_isWssWritable :
    (ctx.acked n).isWssWritable =
      (ctx.isWssWritable || (ctx.wssRtrToTgtPendingAckBytes + -n).toInt < waterMarkLow) := by
  unfold RequestContext.acked RequestContext.writeItMaybe
  dsimp only
  split_ifs <;> simp_all

private theorem writeItMaybe_pending :
    ctx.writeItMaybe.wssRtrToTgtPendingAckBytes = ctx.wssRtrToTgtPendingAckBytes := by
  unfold RequestContext.writeItMaybe
  split_ifs <;> rfl

private theorem writeItMaybe_isWssWritable :
    ctx.writeItMaybe.isWssWritable = ctx.isWssWritable := by
  unfold RequestContext.writeItMaybe
  split_ifs <;> rfl

private theorem mem_writeItMaybe_resumed (h : i ∈ ctx.writeItMaybe.resumed) :
    i ∈ ctx.resumed ∨ i ∈ ctx.shouldKeepReadFromCli ∧ ctx.isWssWritable := by
  unfold RequestContext.writeItMaybe at h
  split_ifs at h with hopen
  · simp only [Bool.and_eq_true] at hopen
    exact (List.mem_append.mp h).imp_right fun h => ⟨h, hopen.1.1⟩
  · exact .inl h

private theorem mem_writeItMaybe_shouldKeep (h : i ∈ ctx.writeItMaybe.shouldKeepReadFromCli) :
    i ∈ ctx.shouldKeepReadFromCli := by
  unfold RequestContext.writeItMaybe at h
  split_ifs at h
  · simp at h
  · exact h

private theorem mem_acked_resumed (h : i ∈ (ctx.acked n).resumed) :
    i ∈ ctx.resumed ∨ i ∈ ctx.shouldKeepReadFromCli ∧ (ctx.acked n).isWssWritable := by
  rw [acked_isWssWritable]
  unfold RequestContext.acked at h
  dsimp only at h
  split_ifs at h with hopen
  · simp only [Bool.and_eq_true, decide_eq_true_eq] at hopen
    refine (mem_writeItMaybe_resumed h).imp_right fun h => ⟨h.1, ?_⟩
    simp only [hopen.1, decide_true, Bool.or_true]
  · exact .inl h

private theorem mem_acked_shouldKeep (h : i ∈ (ctx.acked n).shouldKeepReadFromCli) :
    i ∈ ctx.shouldKeepReadFromCli := by
  unfold RequestContext.acked at h
  dsimp only at h
  split_ifs at h
  · have hold := mem_writeItMaybe_shouldKeep h
    exact hold
  · exact h

end Context

/-- The payload that is counted and not yet queued. -/
def Phase.counting : Phase → Nat
  | .queueHeader n | .queueChunk n => n
  | _ => 0

def Phase.inHeaders : Phase → Bool
  | .headers | .queueHeader _ => true
  | _ => false

/-- The phases in which the current callback may be in the queue or notified. -/
def Phase.waits : Phase → Bool
  | .write | .parked => true
  | _ => false

/-- The invariant of an upload with `H` header bytes and chunks of at most `C` bytes. -/
structure Bounded (H C : Nat) (u : Upload) : Prop where
  chunks : ∀ n ∈ u.body.getD [], n ≤ C
  acked : u.acked ≤ u.queued
  counted : u.counted = u.queued + u.phase.counting
  headers : u.phase.inHeaders → u.counted + u.headers.sum = H
  pending : u.ctx.wssRtrToTgtPendingAckBytes.toInt = (u.counted : Int) - u.acked
  high : 65536 + u.acked < u.counted → u.ctx.isWssWritable = false
  low : u.counted < u.acked + 16384 → u.ctx.isWssWritable = true
  bound : u.counted ≤ u.acked + (max 65536 H + C)
  gate : u.phase = .next → u.counted ≤ u.acked + max 65536 H
  ids : ∀ i, i ∈ u.ctx.resumed ∨ i ∈ u.ctx.shouldKeepReadFromCli →
    i < u.callback ∨ i = u.callback ∧ u.phase.waits
  woken : u.callback ∈ u.ctx.resumed → u.ctx.isWssWritable = true

namespace Bounded

variable {H C : Nat} {u : Upload}

private theorem lt_callback (hu : Bounded H C u) (hwaits : u.phase.waits = false) {i : Nat}
    (hi : i ∈ u.ctx.resumed ∨ i ∈ u.ctx.shouldKeepReadFromCli) : i < u.callback := by
  simpa [hwaits] using hu.ids i hi

theorem count (hu : Bounded H C u) (hsmall : max 65536 H + C < 2147483648) {n : Nat}
    {phase : Phase} {headers : List Nat} {body : Option (List Nat)}
    (hchunks : ∀ n ∈ body.getD [], n ≤ C) (hcounting : u.phase.counting = 0)
    (hwaits : u.phase.waits = false)
    (hphase : phase = .queueHeader n ∧ u.phase.inHeaders ∧ u.headers = n :: headers ∨
      phase = .queueChunk n ∧ u.phase = .next ∧ n ≤ C) :
    Bounded H C ({ u with headers := headers, body := body }.count n phase) := by
  have hroom : u.counted + n ≤ u.acked + (max 65536 H + C) := by
    rcases hphase with ⟨-, hin, hheaders⟩ | ⟨-, hnext, hn⟩
    · have hsum := hu.headers hin
      rw [hheaders, List.sum_cons] at hsum
      omega
    · have hgate := hu.gate hnext
      omega
  have hn : n < 2147483648 := by
    have hacked := hu.acked
    have hcounted := hu.counted
    omega
  have hacked := hu.acked
  have hcounted := hu.counted
  have hpending : (u.ctx.wssRtrToTgtPendingAckBytes + BitVec.ofNat 32 n).toInt =
      ((u.counted : Int) - u.acked) + n :=
    toInt_add_of_lt hu.pending (toInt_ofNat_of_lt hn) (by omega) (by omega)
  have hcount : phase.counting = n := by
    rcases hphase with ⟨rfl, -⟩ | ⟨rfl, -⟩ <;> rfl
  have hfresh : u.callback ∉ u.ctx.resumed := by
    intro hmem
    exact Nat.lt_irrefl _ (hu.lt_callback hwaits (.inl hmem))
  have hwritable : (u.ctx.incRtrToTgtPendingAckBytes (BitVec.ofNat 32 n)).isWssWritable =
      if (u.counted : Int) - u.acked + n > 65536 then false else u.ctx.isWssWritable := by
    show (if (u.ctx.wssRtrToTgtPendingAckBytes + BitVec.ofNat 32 n).toInt > waterMarkHigh then false
      else u.ctx.isWssWritable) = _
    rw [hpending]
    rfl
  constructor
  · exact hchunks
  · exact hacked
  · show u.counted + n = u.queued + phase.counting
    omega
  · intro hin
    rcases hphase with ⟨-, hin', hheaders⟩ | ⟨rfl, -⟩
    · have hsum := hu.headers hin'
      rw [hheaders, List.sum_cons] at hsum
      show u.counted + n + headers.sum = H
      omega
    · simp [Upload.count, Phase.inHeaders] at hin
  · show (u.ctx.wssRtrToTgtPendingAckBytes + BitVec.ofNat 32 n).toInt =
      ((u.counted + n : Nat) : Int) - u.acked
    omega
  · intro hhigh
    have hmore : (u.counted : Int) - u.acked + n > 65536 := by
      have hlt : 65536 + u.acked < u.counted + n := hhigh
      omega
    exact hwritable.trans (if_pos hmore)
  · intro hlow
    have hlt : u.counted + n < u.acked + 16384 := hlow
    have hless : ¬(u.counted : Int) - u.acked + n > 65536 := by omega
    exact (hwritable.trans (if_neg hless)).trans (hu.low (by omega))
  · exact hroom
  · intro hnext
    rcases hphase with ⟨rfl, -⟩ | ⟨rfl, -⟩ <;> simp [Upload.count] at hnext
  · intro i hi
    exact .inl (hu.lt_callback hwaits hi)
  · intro hmem
    exact absurd hmem hfresh

theorem ack (hu : Bounded H C u) (hsmall : max 65536 H + C < 2147483648) {n : BitVec 32}
    (hn : 0 ≤ n.toInt) (hle : u.acked + n.toNat ≤ u.queued) :
    Bounded H C { u with ctx := u.ctx.acked n, acked := u.acked + n.toNat } := by
  have hcounted := hu.counted
  have hbound := hu.bound
  have htoInt : n.toInt = n.toNat := by
    rw [BitVec.toInt_eq_toNat_cond] at hn ⊢
    have hlt := n.isLt
    split_ifs at hn ⊢ with hcond
    · rfl
    · omega
  have hneg : (-n).toInt = -(n.toNat : Int) := by
    rw [BitVec.toInt_neg, htoInt, Int.bmod_eq_of_le (by omega) (by omega)]
  have hpending : (u.ctx.wssRtrToTgtPendingAckBytes + -n).toInt =
      ((u.counted : Int) - u.acked) + -(n.toNat : Int) :=
    toInt_add_of_lt hu.pending hneg (by omega) (by omega)
  have hwritable : (u.ctx.acked n).isWssWritable = (u.ctx.isWssWritable ||
      decide ((u.counted : Int) - u.acked + -(n.toNat : Int) < 16384)) := by
    rw [acked_isWssWritable, hpending]
    rfl
  constructor
  · exact hu.chunks
  · exact hle
  · exact hu.counted
  · exact hu.headers
  · show (u.ctx.acked n).wssRtrToTgtPendingAckBytes.toInt =
      (u.counted : Int) - ((u.acked + n.toNat : Nat) : Int)
    rw [acked_pending, hpending]
    omega
  · intro hhigh
    have hlt : 65536 + (u.acked + n.toNat) < u.counted := hhigh
    have hclosed := hu.high (by omega)
    refine hwritable.trans ?_
    simp only [hclosed, Bool.false_or, decide_eq_false_iff_not]
    omega
  · intro hlow
    have hlt : u.counted < u.acked + n.toNat + 16384 := hlow
    refine hwritable.trans ?_
    have hless : (u.counted : Int) - u.acked + -(n.toNat : Int) < 16384 := by omega
    simp only [hless, decide_true, Bool.or_true]
  · show u.counted ≤ u.acked + n.toNat + (max 65536 H + C)
    omega
  · intro hnext
    have hgate := hu.gate hnext
    show u.counted ≤ u.acked + n.toNat + max 65536 H
    omega
  · intro i hi
    rcases hi with hi | hi
    · rcases mem_acked_resumed hi with hold | hnew
      · exact hu.ids i (.inl hold)
      · exact hu.ids i (.inr hnew.1)
    · exact hu.ids i (.inr (mem_acked_shouldKeep hi))
  · intro hmem
    rcases mem_acked_resumed hmem with hold | hnew
    · refine hwritable.trans ?_
      simp [hu.woken hold]
    · exact hnew.2

theorem queue (hu : Bounded H C u) {n : Nat} {phase : Phase} (hn : u.phase.counting = n)
    (hcounting : phase.counting = 0) (hin : phase.inHeaders → u.phase.inHeaders)
    (hnext : phase ≠ .next) (hwaits : u.phase.waits = false) :
    Bounded H C (u.queue n phase) where
  chunks := hu.chunks
  acked := Nat.le_add_right_of_le hu.acked
  counted := by
    have hcounted := hu.counted
    show u.counted = u.queued + n + phase.counting
    omega
  headers h := hu.headers (hin h)
  pending := hu.pending
  high := hu.high
  low := hu.low
  bound := hu.bound
  gate h := absurd h hnext
  ids _ hi := .inl (hu.lt_callback hwaits hi)
  woken := hu.woken

private theorem goto (hu : Bounded H C u) {phase : Phase} (hcounting : u.phase.counting = 0)
    (hcounting' : phase.counting = 0) (hin : phase.inHeaders = false)
    (hgate : phase = .next → u.counted ≤ u.acked + max 65536 H)
    (hwaits : u.phase.waits = false) : Bounded H C { u with phase := phase } where
  chunks := hu.chunks
  acked := hu.acked
  counted := by
    have hcounted := hu.counted
    show u.counted = u.queued + phase.counting
    omega
  headers h := by simp [hin] at h
  pending := hu.pending
  high := hu.high
  low := hu.low
  bound := hu.bound
  gate := hgate
  ids _ hi := .inl (hu.lt_callback hwaits hi)
  woken := hu.woken

private theorem le_of_writable (hu : Bounded H C u) (h : u.ctx.isWssWritable = true) :
    u.counted ≤ u.acked + max 65536 H := by
  by_contra hover
  have hclosed := hu.high (by omega)
  simp [h] at hclosed

theorem sender (hu : Bounded H C u) (hsmall : max 65536 H + C < 2147483648) {u' : Upload}
    (h : u.sender = some u') : Bounded H C u' := by
  unfold Upload.sender at h
  cases hphase : u.phase with
  | headers =>
      cases hheaders : u.headers with
      | nil =>
          simp only [hphase, hheaders, Option.some.injEq] at h
          subst h
          have hsum := hu.headers (by rw [hphase]; rfl)
          rw [hheaders, List.sum_nil] at hsum
          rw [← hheaders]
          refine hu.goto (by rw [hphase]; rfl) ?_ ?_ (fun _ => by omega) (by rw [hphase]; rfl)
          · split_ifs <;> rfl
          · split_ifs <;> rfl
      | cons n headers =>
          simp only [hphase, hheaders, Option.some.injEq] at h
          subst h
          exact hu.count hsmall hu.chunks (by rw [hphase]; rfl) (by rw [hphase]; rfl)
            (.inl ⟨rfl, by rw [hphase]; rfl, hheaders⟩)
  | queueHeader n =>
      simp only [hphase, Option.some.injEq] at h
      subst h
      exact hu.queue (by rw [hphase]; rfl) rfl (fun _ => by rw [hphase]; rfl) (by simp)
        (by rw [hphase]; rfl)
  | next =>
      have hend : Bounded H C { u with phase := .ended } :=
        hu.goto (by rw [hphase]; rfl) rfl rfl (by simp) (by rw [hphase]; rfl)
      cases hbody : u.body with
      | none =>
          simp only [hphase, hbody, Option.some.injEq] at h
          subst h
          simpa [hbody] using hend
      | some chunks =>
          cases chunks with
          | nil =>
              simp only [hphase, hbody, Option.some.injEq] at h
              subst h
              simpa [hbody] using hend
          | cons n chunks =>
              simp only [hphase, hbody, Option.some.injEq] at h
              subst h
              have hchunks := hu.chunks
              rw [hbody] at hchunks
              exact hu.count hsmall (fun m hm => hchunks m (by simpa using .inr hm))
                (by rw [hphase]; rfl) (by rw [hphase]; rfl)
                (.inr ⟨rfl, hphase, hchunks n (by simp)⟩)
  | queueChunk n =>
      simp only [hphase, Option.some.injEq] at h
      subst h
      exact hu.queue (by rw [hphase]; rfl) rfl (by simp [Phase.inHeaders]) (by simp)
        (by rw [hphase]; rfl)
  | check =>
      simp only [hphase, Option.some.injEq] at h
      subst h
      refine hu.goto (by rw [hphase]; rfl) ?_ ?_ ?_ (by rw [hphase]; rfl)
      · split_ifs <;> rfl
      · split_ifs <;> rfl
      · intro hnext
        split_ifs at hnext with hopen
        exact hu.le_of_writable hopen
  | push =>
      simp only [hphase, Option.some.injEq] at h
      subst h
      have hcounted := hu.counted
      rw [hphase] at hcounted
      refine ⟨hu.chunks, hu.acked, hcounted, by simp [Phase.inHeaders], hu.pending, hu.high,
        hu.low, hu.bound, by simp, ?_, hu.woken⟩
      intro i hi
      simp only [List.mem_append, List.mem_singleton, ← or_assoc] at hi
      exact hi.imp (hu.lt_callback (by rw [hphase]; rfl)) fun hi => ⟨hi, rfl⟩
  | write =>
      simp only [hphase, Option.some.injEq] at h
      subst h
      have hcounted := hu.counted
      rw [hphase] at hcounted
      refine ⟨hu.chunks, hu.acked, hcounted, by simp [Phase.inHeaders], ?_, ?_, ?_, hu.bound,
        by simp, ?_, ?_⟩
      · rw [writeItMaybe_pending]
        exact hu.pending
      · rw [writeItMaybe_isWssWritable]
        exact hu.high
      · rw [writeItMaybe_isWssWritable]
        exact hu.low
      · intro i hi
        have hids := hu.ids i
        rw [hphase] at hids
        rcases hi with hi | hi
        · exact hids ((mem_writeItMaybe_resumed hi).imp_right And.left)
        · exact hids (.inr (mem_writeItMaybe_shouldKeep hi))
      · rw [writeItMaybe_isWssWritable]
        intro hmem
        exact (mem_writeItMaybe_resumed hmem).elim hu.woken And.right
  | parked =>
      simp only [hphase] at h
      split_ifs at h with hmem
      obtain rfl := Option.some.inj h
      have hcounted := hu.counted
      rw [hphase] at hcounted
      refine ⟨hu.chunks, hu.acked, hcounted, by simp [Phase.inHeaders], hu.pending, hu.high,
        hu.low, hu.bound, fun _ => hu.le_of_writable (hu.woken hmem), ?_, ?_⟩
      · intro i hi
        have hid := hu.ids i hi
        exact .inl (by show i < u.callback + 1; omega)
      · intro hnew
        rcases hu.ids (u.callback + 1) (.inl hnew) with hid | hid
        · omega
        · omega
  | ended => simp [hphase] at h

theorem step (hu : Bounded H C u) (hsmall : max 65536 H + C < 2147483648) {a : Act} {u' : Upload}
    (h : u.step a = some u') : Bounded H C u' := by
  cases a with
  | sender => exact hu.sender hsmall h
  | ack n =>
      simp only [Upload.step, Upload.ack] at h
      split_ifs at h with hn
      obtain rfl := Option.some.inj h
      exact hu.ack hsmall hn.1 hn.2

end Bounded

section Main

variable {headerText : String} {body : Option (List Bytes)}

private theorem sum_headers (r : ReqId) (e : Bool) (t : String) :
    ((headerMessages r true e t).map fun hb => hb.length - headerLenInBytes).sum =
      (utf8 t).length := by
  have hframe : ∀ b line, (headerMessage r b e line).length - headerLenInBytes =
      (utf8 line).length := by
    intro b line
    simp [headerMessage, frame, headerLenInBytes]
  rw [← (headerParts_spec t).2.2, List.length_flatten]
  simp [headerMessages, hframe, Function.comp_def]

private theorem bounded_start (r : ReqId) (now : Int) :
    Bounded (utf8 headerText).length (largestChunk body) (.start r now headerText body) where
  chunks := by
    intro n hn
    cases body with
    | none => simp [Upload.start] at hn
    | some chunks =>
        simp only [Upload.start, Option.map_some, Option.getD_some, List.mem_map] at hn
        obtain ⟨chunk, hchunk, rfl⟩ := hn
        show chunk.length ≤ chunks.foldr (fun chunk n => max chunk.length n) 0
        induction chunks with
        | nil => simp at hchunk
        | cons c cs ih =>
            rw [List.foldr_cons]
            rcases List.mem_cons.mp hchunk with rfl | hmem
            · exact le_max_left _ _
            · exact (ih hmem).trans (le_max_right _ _)
  acked := Nat.le_refl 0
  counted := rfl
  headers := by
    intro _
    show 0 + _ = _
    rw [Nat.zero_add]
    exact sum_headers r body.isNone headerText
  pending := by simp [Upload.start, RequestContext.new]
  high := by simp [Upload.start]
  low := fun _ => rfl
  bound := Nat.zero_le _
  gate := by simp [Upload.start]
  ids := by simp [Upload.start, RequestContext.new]
  woken := fun _ => rfl

/-- The counter, as the machine word it is. -/
def Exact (u : Upload) : Prop :=
  u.ctx.wssRtrToTgtPendingAckBytes = BitVec.ofNat 32 u.counted - BitVec.ofNat 32 u.acked

theorem Exact.count {u : Upload} (hu : Exact u) (n : Nat) (phase : Phase) :
    Exact (u.count n phase) := by
  show u.ctx.wssRtrToTgtPendingAckBytes + BitVec.ofNat 32 n =
    BitVec.ofNat 32 (u.counted + n) - BitVec.ofNat 32 u.acked
  rw [hu, BitVec.ofNat_add, BitVec.sub_eq_add_neg, BitVec.sub_eq_add_neg, BitVec.add_assoc,
    BitVec.add_assoc, BitVec.add_comm (-_)]

theorem Exact.step {u u' : Upload} {a : Act} (hu : Exact u) (h : u.step a = some u') :
    Exact u' := by
  cases a with
  | ack n =>
      simp only [Upload.step, Upload.ack] at h
      split_ifs at h
      obtain rfl := Option.some.inj h
      show (u.ctx.acked n).wssRtrToTgtPendingAckBytes =
        BitVec.ofNat 32 u.counted - BitVec.ofNat 32 (u.acked + n.toNat)
      have hword : BitVec.ofNat 32 (u.acked + n.toNat) = BitVec.ofNat 32 u.acked + n := by
        rw [BitVec.ofNat_add, BitVec.ofNat_toNat, BitVec.setWidth_eq]
      rw [acked_pending, hword, hu, BitVec.sub_eq_add_neg, BitVec.sub_eq_add_neg, BitVec.neg_add,
        BitVec.add_assoc, BitVec.sub_eq_add_neg]
  | sender =>
      simp only [Upload.step, Upload.sender] at h
      split at h
      · split at h
        · obtain rfl := Option.some.inj h
          apply Exact.count
          exact hu
        · obtain rfl := Option.some.inj h
          exact hu
      · obtain rfl := Option.some.inj h
        exact hu
      · split at h
        · obtain rfl := Option.some.inj h
          apply Exact.count
          exact hu
        · obtain rfl := Option.some.inj h
          exact hu
      · obtain rfl := Option.some.inj h
        exact hu
      · obtain rfl := Option.some.inj h
        exact hu
      · obtain rfl := Option.some.inj h
        exact hu
      · obtain rfl := Option.some.inj h
        show u.ctx.writeItMaybe.wssRtrToTgtPendingAckBytes = _
        rw [writeItMaybe_pending]
        exact hu
      · split_ifs at h
        obtain rfl := Option.some.inj h
        exact hu
      · exact absurd h (by simp)

/-- The counter is the bytes counted less the bytes acknowledged; as long as the bound fits into an
`i32`, it keeps to the bound and the gate follows the two watermarks. -/
theorem in_flight_bound (headerText : String) (body : Option (List Bytes)) {u : Upload}
    (hu : (machine headerText body).Reachable Machine.anyAction u) :
    u.ctx.wssRtrToTgtPendingAckBytes = BitVec.ofNat 32 u.counted - BitVec.ofNat 32 u.acked ∧
      (inFlightBound headerText body < 2 ^ 31 →
        u.ctx.wssRtrToTgtPendingAckBytes.toInt = (u.counted : Int) - u.acked ∧
        0 ≤ u.ctx.wssRtrToTgtPendingAckBytes.toInt ∧
        u.ctx.wssRtrToTgtPendingAckBytes.toInt ≤ inFlightBound headerText body ∧
        (u.ctx.wssRtrToTgtPendingAckBytes.toInt > waterMarkHigh → u.ctx.isWssWritable = false) ∧
        (u.ctx.wssRtrToTgtPendingAckBytes.toInt < waterMarkLow → u.ctx.isWssWritable = true)) := by
  have hexact : Exact u :=
    hu.invariant (P := Exact) (by rintro _ ⟨r, now, rfl⟩; exact (BitVec.sub_self _).symm)
      (fun _ _ _ hs _ h => hs.step h)
  refine ⟨hexact, fun hsmall => ?_⟩
  have hb : Bounded (utf8 headerText).length (largestChunk body) u :=
    hu.invariant (P := Bounded (utf8 headerText).length (largestChunk body))
      (by rintro _ ⟨r, now, rfl⟩; exact bounded_start r now)
      (fun _ _ _ hs _ hstep => hs.step hsmall hstep)
  have hacked := hb.acked
  have hcounted := hb.counted
  have hbound := hb.bound
  rw [hb.pending]
  refine ⟨rfl, by omega, ?_, ?_, ?_⟩
  · show _ ≤ ((max 65536 (utf8 headerText).length + largestChunk body : Nat) : Int)
    omega
  · intro hover
    have hlt : (u.counted : Int) - u.acked > 65536 := hover
    exact hb.high (by omega)
  · intro hunder
    have hlt : (u.counted : Int) - u.acked < 16384 := hunder
    exact hb.low (by omega)

def shortHead : String := "PUT / HTTP/1.1\n\n"

def shortBody : Option (List Bytes) := some [[1, 2, 3], [], [4]]

/-- The header is acknowledged while the first chunk is counted and not yet queued. -/
def shortUpload : Upload :=
  (machine shortHead shortBody).run Machine.anyAction (.start 1 0 shortHead shortBody)
    [.sender, .sender, .sender, .sender, .ack 16]

theorem in_flight_bound_shortUpload :
    shortUpload.counted = 19 ∧ shortUpload.acked = 16 ∧
      shortUpload.ctx.wssRtrToTgtPendingAckBytes.toInt = 3 ∧
      shortUpload.ctx.wssRtrToTgtPendingAckBytes.toInt ≤ inFlightBound shortHead shortBody := by
  have hreach := Machine.reachable_run (machine shortHead shortBody) Machine.anyAction
    ⟨1, 0, rfl⟩ [.sender, .sender, .sender, .sender, .ack 16]
  obtain ⟨hpending, -, hbound, -⟩ := (in_flight_bound shortHead shortBody hreach).2 (by decide)
  have hcounted : shortUpload.counted = 19 ∧ shortUpload.acked = 16 := by decide +kernel
  refine ⟨hcounted.1, hcounted.2, ?_, hbound⟩
  refine hpending.trans ?_
  show (shortUpload.counted : Int) - shortUpload.acked = 3
  rw [hcounted.1, hcounted.2]
  rfl

end Main

end CrankerRouter.V3.FlowControl
