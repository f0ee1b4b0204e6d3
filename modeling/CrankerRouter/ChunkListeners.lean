import CrankerRouter.Lib.FailFast
import CrankerRouter.V1.Upload

/-!
# Listeners of the request body

The upload loops of both socket versions, one call of a listener at a time.  The socket machines
take the calls of one loop over the listeners together; `V1.uploadChunk_steps` and
`V3.uploadChunk_steps` say that they do what the loops here do.
-/

namespace CrankerRouter

open Lib

/-- What the upload of a chunk does that a listener or the target can see:
`on_before_request_body_chunk_sent_to_target`, the send to the queue and
`on_request_body_chunk_sent_to_target`. -/
inductive ChunkEvent
  | before (listener : Nat) (chunk : Bytes)
  | queued (chunk : Bytes)
  | sent (listener : Nat) (chunk : Bytes)
  deriving DecidableEq, Repr

abbrev ChunkLog := List ChunkEvent

/-- The listeners of a socket, each by its place in the list. -/
structure ProxyListeners where
  len : Nat
  reallyNeedOnRequestBodyChunkSentToTarget : Nat → Bool

namespace ProxyListeners

variable (ls : ProxyListeners)

def iter : List Nat := List.range ls.len

/-- The listeners that the filter keeps. -/
def needing : List Nat := ls.iter.filter ls.reallyNeedOnRequestBodyChunkSentToTarget

/-- The flag of the socket. -/
def reallyNeed : Bool := ls.iter.any ls.reallyNeedOnRequestBodyChunkSentToTarget

end ProxyListeners

/-- What the outside decides, given what was done before: the answer of a listener, whether the
queue to the target is open, and the error of flow control. -/
structure Outside where
  answer : ChunkLog → ChunkEvent → Option CrankerRouterException
  queueOpen : ChunkLog → Bool
  flowControl : ChunkLog → Option CrankerRouterException

abbrev Uploading := FailFast CrankerRouterException ChunkLog

namespace Outside

variable (out : Outside)

def call (ev : ChunkEvent) : Uploading Unit :=
  .attempt (out.answer · ev) (· ++ [ev])

def queue (chunk : Bytes) (crex : CrankerRouterException) : Uploading Unit :=
  .attempt (fun log => if out.queueOpen log then none else some crex)
    (fun log => if out.queueOpen log then log ++ [.queued chunk] else log)

end Outside

variable (ls : ProxyListeners) (out : Outside)

/-- The body of the upload loop in `RouterSocketV1::split_part_one_send_or_err`. -/
def V1.uploadChunk (dbg : DebugText) (bytes : Bytes) : Uploading Unit := do
  ls.iter.forM fun i => out.call (.before i bytes)
  ls.iter.forM fun i => out.call (.sent i bytes)
  out.queue bytes (.new s!"error when sending req body to tgt: {dbg.sendError}")
  if ls.reallyNeed then ls.needing.forM fun i => out.call (.sent i bytes)

/-- The body of the upload loop in `RouterSocketV3::split_part_one_send_or_err`, up to flow
control; `crex` is the error of `send_data`. -/
def V3.uploadChunk (crex : CrankerRouterException) (bytes : Bytes) : Uploading Unit := do
  ls.iter.forM fun i => out.call (.before i bytes)
  out.queue bytes crex
  if ls.reallyNeed then ls.needing.forM fun i => out.call (.sent i bytes)

/-- The upload loop of `RouterSocketV1::split_part_one_send_or_err`. -/
def V1.uploadBody (dbg : DebugText) (body : List (Except CrankerRouterException Bytes)) :
    Uploading Unit :=
  body.forM fun item =>
    match item with
    | .ok bytes => V1.uploadChunk ls out dbg bytes
    | .error crex => throw crex

/-- The upload loop of `RouterSocketV3::split_part_one_send_or_err`. -/
def V3.uploadBody (crex : CrankerRouterException)
    (body : List (Except CrankerRouterException Bytes)) : Uploading Unit :=
  body.forM fun item =>
    match item with
    | .ok bytes => do
        V3.uploadChunk ls out crex bytes
        .attempt out.flowControl id
    | .error crex => throw (crex.withErrKind .clientRequestBodyReadError0010)

/-- The chunks a listener was told were sent. -/
def toldTo (i : Nat) (log : ChunkLog) : List Bytes :=
  log.filterMap fun
    | .sent j chunk => if j = i then some chunk else none
    | _ => none

def queuedChunks (log : ChunkLog) : List Bytes :=
  log.filterMap fun
    | .queued chunk => some chunk
    | _ => none

/-- Each queued chunk was reported once and in order to the listeners that need it and to no other,
and at no time a chunk that was not queued. -/
structure ReportsChunks (log : ChunkLog) : Prop where
  once : ∀ i < ls.len, ls.reallyNeedOnRequestBodyChunkSentToTarget i →
    toldTo i log = queuedChunks log
  none : ∀ i < ls.len, ¬ ls.reallyNeedOnRequestBodyChunkSentToTarget i → toldTo i log = []
  queued : ∀ i < ls.len, ∀ before, before <+: log → toldTo i before <+: queuedChunks before

section Events

variable {i j : Nat} {b : Bytes} {log : ChunkLog}

@[simp] theorem toldTo_before : toldTo i (log ++ [.before j b]) = toldTo i log := by
  simp [toldTo]

@[simp] theorem toldTo_queued : toldTo i (log ++ [.queued b]) = toldTo i log := by
  simp [toldTo]

@[simp] theorem toldTo_sent :
    toldTo i (log ++ [.sent j b]) = toldTo i log ++ if j = i then [b] else [] := by
  by_cases h : j = i <;> simp [toldTo, h]

@[simp] theorem queuedChunks_before :
    queuedChunks (log ++ [.before j b]) = queuedChunks log := by
  simp [queuedChunks]

@[simp] theorem queuedChunks_queued :
    queuedChunks (log ++ [.queued b]) = queuedChunks log ++ [b] := by
  simp [queuedChunks]

@[simp] theorem queuedChunks_sent : queuedChunks (log ++ [.sent j b]) = queuedChunks log := by
  simp [queuedChunks]

end Events

/-- The chunk `b` is queued and has still to be reported to the listeners `todo`. -/
structure Reporting (b : Bytes) (todo : List Nat) (log : ChunkLog) : Prop where
  once : ∀ i < ls.len, ls.reallyNeedOnRequestBodyChunkSentToTarget i →
    toldTo i log ++ (if i ∈ todo then [b] else []) = queuedChunks log
  none : ∀ i < ls.len, ¬ ls.reallyNeedOnRequestBodyChunkSentToTarget i → toldTo i log = []
  queued : ∀ i < ls.len, ∀ before, before <+: log → toldTo i before <+: queuedChunks before

section Reporting

variable {ls : ProxyListeners} {b : Bytes} {todo : List Nat} {log : ChunkLog}

private theorem reporting_nil : Reporting ls b [] = ReportsChunks ls := by
  funext log
  apply propext
  constructor
  · rintro ⟨honce, hnone, hqueued⟩
    exact ⟨by simpa using honce, hnone, hqueued⟩
  · rintro ⟨honce, hnone, hqueued⟩
    exact ⟨by simpa using honce, hnone, hqueued⟩

private theorem Reporting.concat {b' : Bytes} {todo' : List Nat} {ev : ChunkEvent}
    (h : Reporting ls b todo log)
    (honce : ∀ i < ls.len, ls.reallyNeedOnRequestBodyChunkSentToTarget i →
      toldTo i (log ++ [ev]) ++ (if i ∈ todo' then [b'] else []) = queuedChunks (log ++ [ev]))
    (hnone : ∀ i < ls.len, ¬ ls.reallyNeedOnRequestBodyChunkSentToTarget i →
      toldTo i (log ++ [ev]) = toldTo i log) :
    Reporting ls b' todo' (log ++ [ev]) := by
  refine ⟨honce, fun i hi hneed => (hnone i hi hneed).trans (h.none i hi hneed), ?_⟩
  intro i hi before hbefore
  rcases List.prefix_concat_iff.mp hbefore with rfl | hbefore
  · by_cases hneed : ls.reallyNeedOnRequestBodyChunkSentToTarget i
    · exact ⟨_, honce i hi hneed⟩
    · rw [hnone i hi hneed, h.none i hi hneed]
      exact List.nil_prefix
  · exact h.queued i hi before hbefore

theorem ReportsChunks.before (h : ReportsChunks ls log) (i : Nat) (b : Bytes) :
    ReportsChunks ls (log ++ [.before i b]) := by
  rw [← reporting_nil (b := b)] at h ⊢
  apply h.concat
  · simpa using h.once
  · simp

theorem ReportsChunks.queue (h : ReportsChunks ls log) (b : Bytes) :
    Reporting ls b ls.needing (log ++ [.queued b]) := by
  rw [← reporting_nil (b := b)] at h
  apply h.concat
  · intro i hi hneed
    have hmem : i ∈ ls.needing := by simp [ProxyListeners.needing, ProxyListeners.iter, hi, hneed]
    have honce := h.once i hi hneed
    simpa [hmem] using honce
  · simp

theorem Reporting.sent {i : Nat} (h : Reporting ls b (i :: todo) log)
    (hneed : ls.reallyNeedOnRequestBodyChunkSentToTarget i) (hnodup : i ∉ todo) :
    Reporting ls b todo (log ++ [.sent i b]) := by
  apply h.concat
  · intro j hj hneed'
    have honce := h.once j hj hneed'
    by_cases hij : i = j
    · subst hij
      simpa [hnodup] using honce
    · have hji : j ≠ i := fun h => hij h.symm
      simpa [hij, hji] using honce
  · intro j hj hneed'
    have hij : i ≠ j := by
      rintro rfl
      exact hneed' hneed
    simp [hij]

end Reporting

/-- Of the listeners that need the report, only the last one answered one with an error: a report
that was made, when the calls before it were those of `before`. -/
def OnlyLastFails (log : ChunkLog) : Prop :=
  ∀ before i chunk, before ++ [.sent i chunk] <+: log → out.answer before (.sent i chunk) ≠ none →
    ∀ j < ls.len, ls.reallyNeedOnRequestBodyChunkSentToTarget j → j ≤ i

/-- All is reported, and no failed report left a listener out. -/
def Reported (log : ChunkLog) : Prop := ReportsChunks ls log ∧ OnlyLastFails ls out log

/-- When a chunk ends the upload, it was reported unless a listener was left out. -/
def Ended (log : ChunkLog) : Prop := ReportsChunks ls log ↔ OnlyLastFails ls out log

section Loops

variable {ls : ProxyListeners} {out : Outside}

private theorem needing_of_suffix {i : Nat} {rest : List Nat} (h : i :: rest <:+ ls.needing) :
    ls.reallyNeedOnRequestBodyChunkSentToTarget i = true ∧
      ∀ j ∈ rest, i < j ∧ j < ls.len ∧ ls.reallyNeedOnRequestBodyChunkSentToTarget j = true := by
  have hsorted : ls.needing.Pairwise (· < ·) := List.pairwise_lt_range.filter _
  have hlt : ∀ j ∈ rest, i < j := (List.pairwise_cons.mp (hsorted.sublist h.sublist)).1
  have hmem : ∀ j ∈ i :: rest, j < ls.len ∧ ls.reallyNeedOnRequestBodyChunkSentToTarget j = true := by
    intro j hj
    simpa [ProxyListeners.needing, ProxyListeners.iter] using h.subset hj
  exact ⟨(hmem i (by simp)).2, fun j hj => ⟨hlt j hj, hmem j (by simp [hj])⟩⟩

private theorem last_needing {i : Nat} (h : [i] <:+ ls.needing) (j : Nat) (hj : j < ls.len)
    (hneed : ls.reallyNeedOnRequestBodyChunkSentToTarget j) : j ≤ i := by
  have hsorted : ls.needing.Pairwise (· < ·) := List.pairwise_lt_range.filter _
  have hmem : j ∈ ls.needing := by simp [ProxyListeners.needing, ProxyListeners.iter, hj, hneed]
  obtain ⟨front, hfront⟩ := h
  rw [← hfront] at hsorted hmem
  obtain hmem | hmem := List.mem_append.mp hmem
  · exact ((List.pairwise_append.mp hsorted).2.2 j hmem i (by simp)).le
  · exact (List.mem_singleton.mp hmem).le

private theorem needing_eq_nil (h : ls.reallyNeed = false) : ls.needing = [] := by
  simpa [ProxyListeners.reallyNeed, ProxyListeners.needing] using h

variable {b : Bytes}

private theorem OnlyLastFails.concat {log : ChunkLog} {ev : ChunkEvent}
    (h : OnlyLastFails ls out log)
    (hev : ∀ i chunk, ev = .sent i chunk → out.answer log ev ≠ none →
      ∀ j < ls.len, ls.reallyNeedOnRequestBodyChunkSentToTarget j → j ≤ i) :
    OnlyLastFails ls out (log ++ [ev]) := by
  intro before i chunk hmade hfails
  obtain hlast | hearlier := List.prefix_concat_iff.mp hmade
  · obtain ⟨rfl, hsame⟩ := List.append_inj' hlast rfl
    obtain rfl := (List.cons.inj hsame).1
    exact hev i chunk rfl hfails
  · exact h before i chunk hearlier hfails

theorem Reported.ended {log : ChunkLog} (h : Reported ls out log) : Ended ls out log :=
  iff_of_true h.1 h.2

private theorem callsBefore_triple :
    FailFast.Triple (Reported ls out) (ls.iter.forM fun i => out.call (.before i b))
      (Reported ls out) (fun _ => Ended ls out) := by
  have hbefore : ∀ i log, Reported ls out log → Reported ls out (log ++ [.before i b]) := by
    rintro i log ⟨hlog, hfails⟩
    exact ⟨hlog.before i b, hfails.concat fun _ _ hev => by cases hev⟩
  refine FailFast.Triple.forM (I := fun _ => Reported ls out) _ ?_
  intro i rest _
  apply FailFast.Triple.attempt
  · intro log hlog _
    exact hbefore i log hlog
  · intro log _ hlog _
    exact (hbefore i log hlog).ended

private theorem queue_triple (crex : CrankerRouterException) :
    FailFast.Triple (Reported ls out) (out.queue b crex)
      (fun log => Reporting ls b ls.needing log ∧ OnlyLastFails ls out log)
      (fun _ => Ended ls out) := by
  apply FailFast.Triple.attempt
  · rintro log ⟨hlog, hfails⟩ hanswer
    cases hopen : out.queueOpen log with
    | true =>
        simp only [if_true]
        exact ⟨hlog.queue b, hfails.concat fun _ _ hev => by cases hev⟩
    | false => simp [hopen] at hanswer
  · intro log _ hlog hanswer
    cases hopen : out.queueOpen log with
    | true => simp [hopen] at hanswer
    | false => simpa [hopen] using hlog.ended

theorem Reporting.failed {i : Nat} {rest : List Nat} {log : ChunkLog}
    (h : Reporting ls b (i :: rest) log) (hfails : OnlyLastFails ls out log)
    (hsuffix : i :: rest <:+ ls.needing) (hanswer : out.answer log (.sent i b) ≠ .none) :
    Ended ls out (log ++ [.sent i b]) := by
  obtain ⟨hi, hrest⟩ := needing_of_suffix hsuffix
  have hnodup : i ∉ rest := fun hmem => (hrest i hmem).1.false
  have hsent := h.sent hi hnodup
  cases rest with
  | nil =>
      rw [reporting_nil] at hsent
      refine iff_of_true hsent (hfails.concat ?_)
      rintro i' chunk hev - j hj hneed
      cases hev
      exact last_needing hsuffix j hj hneed
  | cons j rest =>
      obtain ⟨hij, hj, hneed⟩ := hrest j (by simp)
      apply iff_of_false
      · intro hreports
        have honce := hsent.once j hj hneed
        rw [if_pos (by simp), ← hreports.once j hj hneed] at honce
        simp at honce
      · intro hlast
        have hle := hlast log i b List.prefix_rfl hanswer j hj hneed
        omega

private theorem callsSent_triple :
    FailFast.Triple (fun log => Reporting ls b ls.needing log ∧ OnlyLastFails ls out log)
      (if ls.reallyNeed then ls.needing.forM fun i => out.call (.sent i b) else pure ())
      (Reported ls out) (fun _ => Ended ls out) := by
  have hend : ∀ log, Reporting ls b [] log ∧ OnlyLastFails ls out log → Reported ls out log := by
    intro log h
    rwa [reporting_nil] at h
  by_cases hneed : ls.reallyNeed = true
  · rw [if_pos hneed]
    refine FailFast.Triple.mono (FailFast.Triple.forM
      (I := fun todo log => Reporting ls b todo log ∧ OnlyLastFails ls out log) _ ?_) hend
    intro i rest hsuffix
    obtain ⟨hi, hrest⟩ := needing_of_suffix hsuffix
    apply FailFast.Triple.attempt
    · rintro log ⟨hlog, hfails⟩ hanswer
      refine ⟨hlog.sent hi fun hmem => (hrest i hmem).1.false, hfails.concat ?_⟩
      intro _ _ _ hsome
      exact absurd hanswer hsome
    · rintro log crex ⟨hlog, hfails⟩ hanswer
      exact hlog.failed hfails hsuffix (by simp [hanswer])
  · rw [if_neg hneed, needing_eq_nil (by simpa using hneed)]
    exact FailFast.Triple.mono (.ret ()) hend

private theorem V3.uploadChunk_triple (crex : CrankerRouterException) :
    FailFast.Triple (Reported ls out) (V3.uploadChunk ls out crex b) (Reported ls out)
      (fun _ => Ended ls out) :=
  .bind callsBefore_triple fun _ => .bind (queue_triple crex) fun _ => callsSent_triple

private theorem V3.uploadBody_triple (crex : CrankerRouterException)
    (body : List (Except CrankerRouterException Bytes)) :
    FailFast.Triple (Reported ls out) (V3.uploadBody ls out crex body) (Reported ls out)
      (fun _ => Ended ls out) := by
  refine FailFast.Triple.forM (I := fun _ => Reported ls out) _ ?_
  intro item rest _
  cases item with
  | error crex => exact .fail _ fun _ hlog => hlog.ended
  | ok bytes =>
      refine .bind (V3.uploadChunk_triple crex) fun _ => .attempt ?_ ?_
      · intro log hlog _
        exact hlog
      · intro log _ hlog _
        exact hlog.ended

end Loops

private theorem reportsChunks_nil : ReportsChunks ls [] := by
  constructor
  · intro i _ _
    rfl
  · intro i _ _
    rfl
  · intro i _ before hbefore
    rw [List.prefix_nil.mp hbefore]
    exact List.prefix_rfl

/-! ### The first chunk in V1 -/

/-- What is done when the listeners up to `n` have been asked about the first chunk. -/
def askedBefore (n : Nat) (b : Bytes) : ChunkLog := (List.range n).map (.before · b)

private theorem askedBefore_succ (n : Nat) (b : Bytes) :
    askedBefore (n + 1) b = askedBefore n b ++ [.before n b] := by
  simp [askedBefore, List.range_succ]

/-- A listener refuses the chunk, the first of the body, before it is sent. -/
def RefusedBefore (b : Bytes) : Prop :=
  ∃ i < ls.len, out.answer (askedBefore i b) (.before i b) ≠ none

/-- There is no listener, or the body does not start with a chunk that the listeners let pass. -/
def NothingToReport (body : List (Except CrankerRouterException Bytes)) : Prop :=
  ls.len = 0 ∨ ∀ bytes, body.head? = some (.ok bytes) → RefusedBefore ls out bytes

/-- A listener was told of a chunk that was not queued. -/
def ToldEarly (log : ChunkLog) : Prop :=
  ∃ i < ls.len, ∃ before, before <+: log ∧ ¬ toldTo i before <+: queuedChunks before

section FirstChunk

variable {ls : ProxyListeners} {out : Outside} {b : Bytes}

private theorem reportsChunks_askedBefore (n : Nat) : ReportsChunks ls (askedBefore n b) := by
  induction n with
  | zero => exact reportsChunks_nil ls
  | succ n ih =>
      rw [askedBefore_succ]
      exact ih.before n b

private theorem ToldEarly.not_reportsChunks {log : ChunkLog} (h : ToldEarly ls log) :
    ¬ ReportsChunks ls log := by
  obtain ⟨i, hi, before, hbefore, hnot⟩ := h
  intro hreports
  exact hnot (hreports.queued i hi before hbefore)

theorem ToldEarly.append {log : ChunkLog} (h : ToldEarly ls log) (more : ChunkLog) :
    ToldEarly ls (log ++ more) := by
  obtain ⟨i, hi, before, hbefore, hnot⟩ := h
  exact ⟨i, hi, before, hbefore.trans (List.prefix_append log more), hnot⟩

private theorem toldEarly_first (hlen : 0 < ls.len) :
    ToldEarly ls (askedBefore ls.len b ++ [.sent 0 b]) := by
  have hasked : toldTo 0 (askedBefore ls.len b) = [] := by simp [toldTo, askedBefore]
  have hqueued : queuedChunks (askedBefore ls.len b) = [] := by simp [queuedChunks, askedBefore]
  refine ⟨0, hlen, _, List.prefix_rfl, ?_⟩
  rw [toldTo_sent, queuedChunks_sent, hasked, hqueued]
  simp

private theorem asking_triple {Q : ChunkLog → Prop} {R : CrankerRouterException → ChunkLog → Prop}
    (hok : ¬ RefusedBefore ls out b → Q (askedBefore ls.len b))
    (herr : RefusedBefore ls out b → ∀ crex n, R crex (askedBefore n b)) :
    FailFast.Triple (· = []) (ls.iter.forM fun i => out.call (.before i b)) Q R := by
  -- the listeners asked so far are those that are no longer in the rest of the list
  let asked (rest : List Nat) (log : ChunkLog) : Prop :=
    log = askedBefore (ls.len - rest.length) b ∧
      ∀ i < ls.len - rest.length, out.answer (askedBefore i b) (.before i b) = none
  have hloop : FailFast.Triple (asked ls.iter) (ls.iter.forM fun i => out.call (.before i b))
      (asked []) R := by
    refine FailFast.Triple.forM (I := asked) _ ?_
    rintro i rest ⟨front, hfront⟩
    have hlen : front.length + rest.length + 1 = ls.len := by
      have hlength := congrArg List.length hfront
      simp only [ProxyListeners.iter, List.length_append, List.length_cons, List.length_range]
        at hlength
      omega
    have hi : i = front.length := by
      have hget := congrArg (·[front.length]?) hfront
      have hlt : front.length < ls.len := by omega
      simpa [ProxyListeners.iter, hlt] using hget
    have hrest : ls.len - rest.length = i + 1 := by omega
    have hnow : ls.len - (i :: rest).length = i := by rw [List.length_cons]; omega
    apply FailFast.Triple.attempt
    · rintro log ⟨hlog, hpassed⟩ hanswer
      rw [hnow] at hlog hpassed
      subst hlog
      refine ⟨by rw [hrest, askedBefore_succ], ?_⟩
      intro i' hi'
      rw [hrest] at hi'
      obtain hlt | rfl := Nat.lt_succ_iff_lt_or_eq.mp hi'
      · exact hpassed i' hlt
      · exact hanswer
    · rintro log crex ⟨hlog, -⟩ hanswer
      rw [hnow] at hlog
      subst hlog
      rw [← askedBefore_succ]
      exact herr ⟨i, by omega, by simp [hanswer]⟩ crex (i + 1)
  intro log hlog
  refine FailFast.Triple.mono hloop ?_ log ?_
  · rintro log ⟨rfl, hpassed⟩
    apply hok
    rintro ⟨i, hi, hrefuses⟩
    exact hrefuses (hpassed i hi)
  · simp [asked, hlog, ProxyListeners.iter, askedBefore]

private theorem toldEarly_calls (is : List Nat) (ev : Nat → ChunkEvent) :
    FailFast.Triple (ToldEarly ls) (is.forM fun i => out.call (ev i) : Uploading Unit)
      (ToldEarly ls) (fun _ => ToldEarly ls) := by
  refine FailFast.Triple.forM (I := fun _ => ToldEarly ls) is ?_
  intro i rest _
  apply FailFast.Triple.attempt
  · intro log hlog _
    exact hlog.append _
  · intro log _ hlog _
    exact hlog.append _

private theorem toldEarly_queue (crex : CrankerRouterException) :
    FailFast.Triple (ToldEarly ls) (out.queue b crex) (ToldEarly ls) (fun _ => ToldEarly ls) := by
  apply FailFast.Triple.attempt
  · intro log hlog _
    split_ifs
    · exact hlog.append _
    · exact hlog
  · intro log _ hlog _
    split_ifs
    · exact hlog.append _
    · exact hlog

private theorem toldEarly_rest (crex : CrankerRouterException) :
    FailFast.Triple (ToldEarly ls)
      (do
        out.queue b crex
        if ls.reallyNeed then ls.needing.forM fun i => out.call (.sent i b))
      (ToldEarly ls) (fun _ => ToldEarly ls) := by
  refine .bind (toldEarly_queue crex) fun _ => ?_
  split_ifs
  · exact toldEarly_calls _ _
  · exact .ret ()

private theorem V1.toldEarly_uploadChunk (dbg : DebugText) :
    FailFast.Triple (ToldEarly ls) (V1.uploadChunk ls out dbg b) (ToldEarly ls)
      (fun _ => ToldEarly ls) :=
  .bind (toldEarly_calls _ _) fun _ => .bind (toldEarly_calls _ _) fun _ => toldEarly_rest _

private theorem V1.toldEarly_uploadBody (dbg : DebugText)
    (body : List (Except CrankerRouterException Bytes)) :
    FailFast.Triple (ToldEarly ls) (V1.uploadBody ls out dbg body) (ToldEarly ls)
      (fun _ => ToldEarly ls) := by
  refine FailFast.Triple.forM (I := fun _ => ToldEarly ls) _ ?_
  intro item rest _
  cases item with
  | error crex => exact .fail _ fun _ hlog => hlog
  | ok bytes => exact V1.toldEarly_uploadChunk dbg

private theorem V1.toldEarly_firstChunk (dbg : DebugText) (hlen : 0 < ls.len)
    (hpasses : ¬ RefusedBefore ls out b) :
    FailFast.Triple (· = []) (V1.uploadChunk ls out dbg b) (ToldEarly ls)
      (fun _ => ToldEarly ls) := by
  have hfirst : FailFast.Triple (· = askedBefore ls.len b)
      (ls.iter.forM fun i => out.call (.sent i b)) (ToldEarly ls) (fun _ => ToldEarly ls) := by
    obtain ⟨rest, hiter⟩ : ∃ rest, ls.iter = 0 :: rest := by
      obtain ⟨n, hn⟩ : ∃ n, ls.len = n + 1 := ⟨ls.len - 1, by omega⟩
      exact ⟨_, by rw [ProxyListeners.iter, hn, List.range_succ_eq_map]⟩
    rw [hiter]
    refine .bind (Q := ToldEarly ls) (.attempt ?_ ?_) fun _ => toldEarly_calls rest (.sent · b)
    · rintro log rfl _
      exact toldEarly_first hlen
    · rintro log _ rfl _
      exact toldEarly_first hlen
  exact .bind (Q := (· = askedBefore ls.len b))
    (asking_triple (fun _ => rfl) fun h => absurd h hpasses) fun _ =>
    .bind hfirst fun _ => toldEarly_rest _

private theorem V1.refused_firstChunk (dbg : DebugText) (hrefused : RefusedBefore ls out b) :
    FailFast.Triple (· = []) (V1.uploadChunk ls out dbg b) (fun _ => False)
      (fun _ => ReportsChunks ls) :=
  .bind (Q := fun _ => False) (asking_triple (fun h => h hrefused)
    fun _ _ n => reportsChunks_askedBefore n) fun _ _ h => h.elim

end FirstChunk

private theorem V1.uploadBody_reports_iff (dbg : DebugText)
    (body : List (Except CrankerRouterException Bytes)) :
    ReportsChunks ls ((V1.uploadBody ls out dbg body).exec []).2 ↔ NothingToReport ls out body := by
  by_cases hlen : ls.len = 0
  · refine iff_of_true ?_ (.inl hlen)
    constructor <;> intro i hi <;> omega
  · match body with
    | [] => exact iff_of_true (reportsChunks_nil ls) (.inr fun _ h => by cases h)
    | .error _ :: _ => exact iff_of_true (reportsChunks_nil ls) (.inr fun _ h => by cases h)
    | .ok bytes :: rest =>
        have hnothing : NothingToReport ls out (.ok bytes :: rest) ↔ RefusedBefore ls out bytes := by
          simp [NothingToReport, hlen]
        rw [hnothing]
        by_cases hrefused : RefusedBefore ls out bytes
        · refine iff_of_true ?_ hrefused
          have hbody : FailFast.Triple (· = []) (V1.uploadBody ls out dbg (.ok bytes :: rest))
              (ReportsChunks ls) (fun _ => ReportsChunks ls) :=
            .bind (V1.refused_firstChunk dbg hrefused) fun _ _ h => h.elim
          exact hbody.final rfl
        · refine iff_of_false ?_ hrefused
          have hbody : FailFast.Triple (· = []) (V1.uploadBody ls out dbg (.ok bytes :: rest))
              (ToldEarly ls) (fun _ => ToldEarly ls) :=
            .bind (V1.toldEarly_firstChunk dbg (by omega) hrefused) fun _ =>
              V1.toldEarly_uploadBody dbg rest
          exact (hbody.final rfl).not_reportsChunks

private theorem V3.uploadBody_reports_iff (crex : CrankerRouterException)
    (body : List (Except CrankerRouterException Bytes)) :
    ReportsChunks ls ((V3.uploadBody ls out crex body).exec []).2 ↔
      OnlyLastFails ls out ((V3.uploadBody ls out crex body).exec []).2 := by
  have hstart : Reported ls out [] := by
    refine ⟨reportsChunks_nil ls, ?_⟩
    intro before i chunk hmade
    simp at hmade
  have hbody : FailFast.Triple (Reported ls out) (V3.uploadBody ls out crex body) (Ended ls out)
      (fun _ => Ended ls out) :=
    (V3.uploadBody_triple crex body).mono fun _ h => h.ended
  exact hbody.final hstart

/-- Each chunk is reported once, after it was queued, to each listener that needs the report: in
V3 exactly if of them only the last answers a report with an error, in V1 exactly if there is nothing
to report. -/
theorem chunks_reported_once (dbg : DebugText) (crex : CrankerRouterException)
    (body : List (Except CrankerRouterException Bytes)) :
    (ReportsChunks ls ((V3.uploadBody ls out crex body).exec []).2 ↔
      OnlyLastFails ls out ((V3.uploadBody ls out crex body).exec []).2) ∧
    (ReportsChunks ls ((V1.uploadBody ls out dbg body).exec []).2 ↔
      NothingToReport ls out body) :=
  ⟨V3.uploadBody_reports_iff ls out crex body, V1.uploadBody_reports_iff ls out dbg body⟩

/-! ### The loops and the socket machines -/

section Machines

variable {out}

private theorem calls_triple (P Q : List Bytes → Prop)
    (R : CrankerRouterException → List Bytes → Prop)
    (is : List Nat) (ev : Nat → ChunkEvent)
    (hev : ∀ i log, queuedChunks (log ++ [ev i]) = queuedChunks log)
    (hok : ∀ chunks, P chunks → Q chunks) (herr : ∀ crex chunks, P chunks → R crex chunks) :
    FailFast.Triple (fun log => P (queuedChunks log))
      (is.forM fun i => out.call (ev i) : Uploading Unit)
      (fun log => Q (queuedChunks log)) (fun crex log => R crex (queuedChunks log)) := by
  have hloop : FailFast.Triple (fun log => P (queuedChunks log))
      (is.forM fun i => out.call (ev i) : Uploading Unit)
      (fun log => P (queuedChunks log)) (fun crex log => R crex (queuedChunks log)) := by
    refine FailFast.Triple.forM (I := fun _ log => P (queuedChunks log)) is ?_
    intro i rest _
    apply FailFast.Triple.attempt
    · intro log hlog _
      rwa [hev]
    · intro log crex hlog _
      rw [hev]
      exact herr crex _ hlog
  exact hloop.mono fun log hlog => hok _ hlog

private theorem queue_triple_of_open (P Q : List Bytes → Prop)
    (R : CrankerRouterException → List Bytes → Prop) {closed : Bool} {b : Bytes}
    {crex : CrankerRouterException} (hopen : ∀ log, out.queueOpen log = !closed)
    (hok : ∀ chunks, closed = false → P chunks → Q (chunks ++ [b]))
    (herr : ∀ chunks, closed = true → P chunks → R crex chunks) :
    FailFast.Triple (fun log => P (queuedChunks log)) (out.queue b crex)
      (fun log => Q (queuedChunks log)) (fun crex log => R crex (queuedChunks log)) := by
  apply FailFast.Triple.attempt
  · intro log hlog hanswer
    cases closed with
    | true => simp [hopen] at hanswer
    | false => simpa [hopen] using hok _ rfl hlog
  · intro log crex' hlog hanswer
    cases closed with
    | true =>
        obtain rfl : crex = crex' := by simpa [hopen] using hanswer
        simpa [hopen] using herr _ rfl hlog
    | false => simp [hopen] at hanswer

end Machines

namespace V1

variable {dbg : DebugText} {x : Socket} {ls out}

/-- The socket `x` comes to `op` by steps of its sender alone, with `chunks` queued. -/
def Sends (dbg : DebugText) (x : Socket) (op : Op) (chunks : List Bytes) : Prop :=
  ∃ z, (socketMachine dbg).Reach Machine.anyAction x z ∧ z.tasks .sender = [op] ∧
    z.rs.reallyNeedOnRequestBodyChunkSentToTarget =
      x.rs.reallyNeedOnRequestBodyChunkSentToTarget ∧
    z.rs.wssSendTask.closed = x.rs.wssSendTask.closed ∧
    z.rs.uploaded = x.rs.uploaded ++ chunks.map .binary

theorem Sends.step {op op' : Op} {chunks : List Bytes} (h : Sends dbg x op chunks) (c : Choice)
    (hexec : ∀ z : Socket, z.rs.reallyNeedOnRequestBodyChunkSentToTarget =
        x.rs.reallyNeedOnRequestBodyChunkSentToTarget →
      z.rs.wssSendTask.closed = x.rs.wssSendTask.closed →
      op.exec dbg z c = some (z, [op'], none)) :
    Sends dbg x op' chunks := by
  obtain ⟨z, hreach, htodo, hneed, hclosed, huploaded⟩ := h
  have hstep : (socketMachine dbg).step z (.task .sender c) = some (z.setTask .sender [op']) := by
    simp only [socketMachine, V1.step, htodo, hexec z hneed hclosed]
    rfl
  exact ⟨_, hreach.tail ⟨_, trivial, hstep⟩, by simp [Socket.setTask], hneed, hclosed, huploaded⟩

theorem Sends.queue {b : Bytes} {chunks : List Bytes} (h : Sends dbg x (.queueChunk b) chunks)
    (hopen : x.rs.wssSendTask.closed = false) :
    Sends dbg x .chunkListeners (chunks ++ [b]) := by
  obtain ⟨z, hreach, htodo, hneed, hclosed, huploaded⟩ := h
  rw [hopen] at hclosed
  have hstep : (socketMachine dbg).step z (.task .sender .go) =
      some (({ z with rs := z.rs.sendData (.binary b) } : Socket).setTask .sender
        [.chunkListeners]) := by
    simp only [socketMachine, V1.step, htodo, Op.exec, Op.group, execSender, queueOrFail, hclosed]
    rfl
  have hsent := uploaded_sendData (m := .binary b) hclosed rfl
  refine ⟨_, hreach.tail ⟨_, trivial, hstep⟩, by simp [Socket.setTask], hneed, ?_, ?_⟩
  · simpa [Socket.setTask, RouterSocketV1.sendData, hopen] using hclosed
  · simpa [Socket.setTask, huploaded] using hsent

private theorem listeners_triple (op next : Op) (is : List Nat) (ev : Nat → ChunkEvent)
    (hev : ∀ i log, queuedChunks (log ++ [ev i]) = queuedChunks log)
    (hexec : ∀ (z : Socket) (c : Choice), z.rs.reallyNeedOnRequestBodyChunkSentToTarget =
        x.rs.reallyNeedOnRequestBodyChunkSentToTarget →
      op.exec dbg z c = fallible z c [next]) :
    FailFast.Triple (fun log => Sends dbg x op (queuedChunks log))
      (is.forM fun i => out.call (ev i) : Uploading Unit)
      (fun log => Sends dbg x next (queuedChunks log))
      (fun crex log => Sends dbg x (.onError crex false) (queuedChunks log)) := by
  refine calls_triple (Sends dbg x op) (Sends dbg x next)
    (fun crex => Sends dbg x (.onError crex false)) is ev hev ?_ ?_
  · intro chunks h
    exact h.step (.answer none) fun z hneed _ => hexec z _ hneed
  · intro crex chunks h
    exact h.step (.answer (some crex)) fun z hneed _ => hexec z _ hneed

/-- The sender of a V1 socket with a chunk in hand does what the loop body does: it queues the
chunk if the body does, and goes on or fails with the same error. -/
theorem uploadChunk_steps (hneed : x.rs.reallyNeedOnRequestBodyChunkSentToTarget = ls.reallyNeed)
    (hopen : ∀ log, out.queueOpen log = !x.rs.wssSendTask.closed) (b : Bytes) :
    FailFast.Triple (fun log => Sends dbg x (.beforeChunk b) (queuedChunks log))
      (uploadChunk ls out dbg b)
      (fun log => Sends dbg x .nextChunk (queuedChunks log))
      (fun crex log => Sends dbg x (.onError crex false) (queuedChunks log)) := by
  refine .bind (listeners_triple (.beforeChunk b) (.sentListeners b) ls.iter (.before · b)
    (fun _ _ => queuedChunks_before) fun _ _ _ => rfl) fun _ => ?_
  refine .bind (listeners_triple (.sentListeners b) (.queueChunk b) ls.iter (.sent · b)
    (fun _ _ => queuedChunks_sent) fun _ _ _ => rfl) fun _ => ?_
  refine .bind (queue_triple_of_open (Sends dbg x (.queueChunk b)) (Sends dbg x .chunkListeners)
    (fun crex => Sends dbg x (.onError crex false)) hopen ?_ ?_) fun _ => ?_
  · intro chunks hclosed h
    exact h.queue hclosed
  · intro chunks hclosed h
    apply h.step .go
    intro z _ hz
    simp [Op.exec, Op.group, execSender, queueOrFail, hz, hclosed]
  · cases hall : ls.reallyNeed with
    | true =>
        refine listeners_triple .chunkListeners .nextChunk ls.needing (.sent · b)
          (fun _ _ => queuedChunks_sent) ?_
        intro z c hz
        simp [Op.exec, Op.group, execSender, hz, hneed, hall]
    | false =>
        refine FailFast.Triple.mono (.ret ()) ?_
        intro log h
        apply h.step .go
        intro z hz _
        simp [Op.exec, Op.group, execSender, hz, hneed, hall]

end V1

namespace V3

variable {dbg : DebugText} {overflowChecks : Bool} {p : SocketPool} {i : Nat} {r : ReqId} {ls out}

/-- The socket `p` comes to `ops` by steps of its task `i` alone, the sender of `r`, with `chunks`
queued. -/
def Sends (dbg : DebugText) (overflowChecks : Bool) (p : SocketPool) (i : Nat) (r : ReqId)
    (ops : List UploadOp) (chunks : List Bytes) : Prop :=
  ∃ q, (socketMachine dbg overflowChecks).Reach Machine.anyAction p q ∧
    q.tasks[i]? = some ⟨.sender, ops.map (.upload r)⟩ ∧
    sendDataFailed dbg q.shared.rs = sendDataFailed dbg p.shared.rs ∧
    q.shared.rs.wssSendTask.closed = p.shared.rs.wssSendTask.closed ∧
    q.shared.rs.uploaded r = p.shared.rs.uploaded r ++ chunks.map (chunkMessage r)

theorem Sends.step {o : UploadOp} {rest : List UploadOp} {chunks : List Bytes}
    (h : Sends dbg overflowChecks p i r (o :: rest) chunks) (c : Choice) (more : List UploadOp)
    (new : List Bytes)
    (hrun : ∀ rs : RouterSocketV3, sendDataFailed dbg rs = sendDataFailed dbg p.shared.rs →
      rs.wssSendTask.closed = p.shared.rs.wssSendTask.closed →
      ∃ rs', o.run dbg rs r c = some (rs', more.map (.upload r)) ∧
        sendDataFailed dbg rs' = sendDataFailed dbg rs ∧
        rs'.wssSendTask.closed = rs.wssSendTask.closed ∧
        rs'.uploaded r = rs.uploaded r ++ new.map (chunkMessage r)) :
    Sends dbg overflowChecks p i r (more ++ rest) (chunks ++ new) := by
  obtain ⟨q, hreach, htask, hfailed, hclosed, huploaded⟩ := h
  obtain ⟨rs, hrun, hfailed', hclosed', huploaded'⟩ := hrun _ hfailed hclosed
  have hstep : (socketMachine dbg overflowChecks).step q (.task i c) =
      some ⟨{ q.shared with rs := rs }, q.tasks.take i ++
        [⟨.sender, (more ++ rest).map (.upload r)⟩] ++ q.tasks.drop (i + 1)⟩ := by
    simp [socketMachine, V3.step, Pool.step, htask, execTask, execOp, Op.run, hrun]
  obtain ⟨hi, -⟩ := List.getElem?_eq_some_iff.mp htask
  refine ⟨_, hreach.tail ⟨_, trivial, hstep⟩, ?_, hfailed'.trans hfailed, hclosed'.trans hclosed, ?_⟩
  · have hlen : (q.tasks.take i).length = i := by simp [hi.le]
    simp [hlen]
  · simp [huploaded', huploaded]

theorem Sends.quiet {o : UploadOp} {rest : List UploadOp} {chunks : List Bytes}
    (h : Sends dbg overflowChecks p i r (o :: rest) chunks) (c : Choice) (more : List UploadOp)
    (hrun : ∀ rs : RouterSocketV3, ∃ rs', o.run dbg rs r c = some (rs', more.map (.upload r)) ∧
      sendDataFailed dbg rs' = sendDataFailed dbg rs ∧ rs'.wssSendTask = rs.wssSendTask) :
    Sends dbg overflowChecks p i r (more ++ rest) chunks := by
  rw [← List.append_nil chunks]
  apply h.step c more []
  intro rs _ _
  obtain ⟨rs', hrun, hfailed, hqueue⟩ := hrun rs
  exact ⟨rs', hrun, hfailed, by rw [hqueue], by simp [RouterSocketV3.uploaded, hqueue]⟩

theorem Sends.queue {b : Bytes} {chunks : List Bytes}
    (h : Sends dbg overflowChecks p i r [.queueChunk b] chunks)
    (hopen : p.shared.rs.wssSendTask.closed = false) :
    Sends dbg overflowChecks p i r [.chunkListeners] (chunks ++ [b]) := by
  have hqueued : Sends dbg overflowChecks p i r [.addFromClient b.length, .chunkListeners]
      (chunks ++ [b]) := by
    apply h.step .go [.addFromClient b.length, .chunkListeners] [b]
    intro rs _ hclosed
    rw [hopen] at hclosed
    have hsent : (rs.sendData (chunkMessage r b)).uploaded r = rs.uploaded r ++ [chunkMessage r b] :=
      uploaded_sendData hclosed (by simp [chunkMessage, dataMessages, uploads_frame])
    refine ⟨rs.sendData (chunkMessage r b), ?_, rfl, by simp, hsent⟩
    simp [UploadOp.run, uploadFrame, hclosed, chunkMessage]
  apply hqueued.quiet .go []
  intro rs
  exact ⟨_, rfl, rfl, rfl⟩

/-- The sender of a V3 request with a chunk in hand does what the loop body does. -/
theorem uploadChunk_steps
    (hopen : ∀ log, out.queueOpen log = !p.shared.rs.wssSendTask.closed) (b : Bytes) :
    FailFast.Triple (fun log => Sends dbg overflowChecks p i r [.beforeChunk b] (queuedChunks log))
      (uploadChunk ls out (sendDataFailed dbg p.shared.rs) b)
      (fun log => Sends dbg overflowChecks p i r [.flowControl] (queuedChunks log))
      (fun crex log => Sends dbg overflowChecks p i r [.senderError crex] (queuedChunks log)) := by
  refine .bind (calls_triple (Sends dbg overflowChecks p i r [.beforeChunk b])
    (Sends dbg overflowChecks p i r [.queueChunk b])
    (fun crex => Sends dbg overflowChecks p i r [.senderError crex]) ls.iter (.before · b)
    (fun _ _ => queuedChunks_before) ?_ ?_) fun _ => ?_
  · intro chunks h
    have hbefore : Sends dbg overflowChecks p i r [.incPending b.length, .queueChunk b] chunks :=
      h.quiet (.answer none) [.incPending b.length, .queueChunk b] fun rs => ⟨rs, rfl, rfl, rfl⟩
    exact hbefore.quiet .go [] fun rs => ⟨_, rfl, rfl, rfl⟩
  · intro crex chunks h
    exact h.quiet (.answer (some crex)) [.senderError crex] fun rs => ⟨rs, rfl, rfl, rfl⟩
  refine .bind (queue_triple_of_open (Sends dbg overflowChecks p i r [.queueChunk b])
    (Sends dbg overflowChecks p i r [.chunkListeners])
    (fun crex => Sends dbg overflowChecks p i r [.senderError crex]) hopen ?_ ?_) fun _ => ?_
  · intro chunks hclosed h
    exact h.queue hclosed
  · intro chunks hclosed h
    rw [← List.append_nil chunks]
    apply h.step .go [.senderError (sendDataFailed dbg p.shared.rs)] []
    intro rs hfailed hrs
    refine ⟨rs, ?_, rfl, rfl, by simp⟩
    simp [UploadOp.run, uploadFrame, hrs, hclosed, hfailed]
  · have hsilent : ∀ chunks, Sends dbg overflowChecks p i r [.chunkListeners] chunks →
        Sends dbg overflowChecks p i r [.flowControl] chunks := by
      intro chunks h
      exact h.quiet (.answer none) [.flowControl] fun rs => ⟨rs, rfl, rfl, rfl⟩
    cases hall : ls.reallyNeed with
    | true =>
        refine calls_triple (Sends dbg overflowChecks p i r [.chunkListeners])
          (Sends dbg overflowChecks p i r [.flowControl])
          (fun crex => Sends dbg overflowChecks p i r [.senderError crex]) ls.needing (.sent · b)
          (fun _ _ => queuedChunks_sent) hsilent ?_
        intro crex chunks h
        exact h.quiet (.answer (some crex)) [.senderError crex] fun rs => ⟨rs, rfl, rfl, rfl⟩
    | false => exact FailFast.Triple.mono (.ret ()) fun log h => hsilent _ h

end V3

/-! ### Where the reports go wrong -/

/-- An outside in which `failing` answers every report with an error. -/
def refusing (failing : Nat → Bool) : Outside where
  answer _ ev :=
    match ev with
    | .sent i _ => if failing i then some (.new "refused") else none
    | _ => none
  queueOpen _ := true
  flowControl _ := none

def allNeed (len : Nat) : ProxyListeners := ⟨len, fun _ => true⟩

/-- V1 reports a chunk to both listeners before it is queued and again to the one that needs the
report; V3 does not report a queued chunk to the second listener when the first answers with an
error. -/
theorem chunks_not_reported_once :
    ((V1.uploadBody ⟨2, (· == 0)⟩ (refusing fun _ => false) plainText [.ok [1]]).exec []).2 =
      [.before 0 [1], .before 1 [1], .sent 0 [1], .sent 1 [1], .queued [1], .sent 0 [1]] ∧
    ¬ ReportsChunks ⟨2, (· == 0)⟩
      ((V1.uploadBody ⟨2, (· == 0)⟩ (refusing fun _ => false) plainText [.ok [1]]).exec []).2 ∧
    ((V3.uploadBody (allNeed 2) (refusing (· == 0)) (.new "closed") [.ok [1]]).exec []).2 =
      [.before 0 [1], .before 1 [1], .queued [1], .sent 0 [1]] ∧
    ¬ ReportsChunks (allNeed 2)
      ((V3.uploadBody (allNeed 2) (refusing (· == 0)) (.new "closed") [.ok [1]]).exec []).2 := by
  refine ⟨by decide, ?_, by decide, ?_⟩
  · intro h
    exact absurd (h.once 0 (by decide) (by decide)) (by decide)
  · intro h
    exact absurd (h.once 1 (by decide) (by decide)) (by decide)

end CrankerRouter
