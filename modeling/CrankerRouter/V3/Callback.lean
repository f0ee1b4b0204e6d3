import CrankerRouter.Lib.Potential
import CrankerRouter.V3.Rest

/-!
# The callbacks of the receive pipe run to their end

The receive pipe takes up a frame or a close, calls `on_binary` or `on_close`, and takes up nothing
else until the callback has returned.  Whatever the other tasks of the socket do meanwhile, the
callback always has a next step, and the number of its steps is bounded: by a constant for a frame,
by the number of requests for a close.
-/

namespace CrankerRouter.V3

open Lib

variable {dbg : DebugText} {overflowChecks : Bool} {p q : SocketPool} {r : ReqId}

/-! ### How many steps are left -/

def NotifyOp.weight : NotifyOp → Nat
  | .notifyClose _ _ => 10
  | .notifyError _ => 6
  | .checkClosed _ _ => 5
  | .resetStream _ _ => 4
  | .decideError _ => 3
  | _ => 1

def FrameOp.weight : FrameOp → Nat
  | .handleData _ _ => 27
  | .handleHeader _ _ => 25
  | .sendBody _ _ => 24
  | .appendHeader _ _ => 23
  | .sendHeader _ _ => 22
  | .bodyListeners _ | .creditHeader _ => 11
  | .handleRstStream _ => 7
  | _ => 1

/-- In the loop of `on_close` each of `n` requests may still come up. -/
def SocketOp.weight (n : Nat) : SocketOp → Nat
  | .visitToClose _ _ => 2 + 11 * n
  | .closeEach _ _ _ visited => 1 + 11 * (n - visited.length)
  | _ => 1

def Op.weight (n : Nat) : Op → Nat
  | .notify _ o => o.weight
  | .frame _ o => o.weight
  | .socket o => o.weight n
  | _ => 1

/-- The steps that a list of operations takes at most. -/
def weight (n : Nat) (l : List Op) : Nat := (l.map (Op.weight n)).sum

/-- The operations of a callback; `on_close` visits each request once. -/
def Op.called (admitted : List ReqId) : Op → Prop
  | .frame _ _ | .notify _ _ => True
  | .socket .storeRemoved | .socket (.visitToClose _ _) => True
  | .socket (.closeEach _ _ _ visited) => visited.Nodup ∧ visited ⊆ admitted
  | _ => False

section Weight

variable {n : Nat}

@[simp] theorem weight_nil : weight n [] = 0 := rfl

@[simp] theorem weight_cons (op : Op) (l : List Op) : weight n (op :: l) = op.weight n + weight n l := by
  simp [weight]

@[simp] theorem weight_append (l l' : List Op) : weight n (l ++ l') = weight n l + weight n l' := by
  simp [weight]

@[simp] theorem weight_failFrame (crex : CrankerRouterException) : weight n (failFrame r crex) = 10 := rfl

@[simp] theorem weight_errOps (ex : CrankerRouterException) : weight n (errOps r ex) = 2 := rfl

private theorem weight_closeOpsIf (isEnd : Bool) : weight n (closeOpsIf r isEnd) ≤ 10 := by
  cases isEnd <;> simp [closeOpsIf, Op.weight, NotifyOp.weight]

private theorem NotifyOp.weight_run (rs : RouterSocketV3) (o : NotifyOp) :
    V3.weight n (o.run rs r).2 < o.weight := by
  cases o with
  | resetStream errCode msg =>
      simp only [NotifyOp.run]
      split <;> simp [Op.weight, NotifyOp.weight]
  | notifyClose code optReason =>
      simp only [NotifyOp.run]
      split
      · split <;> simp [Op.weight, NotifyOp.weight]
      · simp [Op.weight, NotifyOp.weight]
  | checkClosed code optReason =>
      simp only [NotifyOp.run]
      split
      · split <;> simp [Op.weight, NotifyOp.weight]
      · simp [NotifyOp.weight]
  | _ => simp [NotifyOp.run, Op.weight, NotifyOp.weight]

theorem FrameMove.weight {rs rs' : RouterSocketV3} {o : FrameOp} {more : List Op}
    (h : FrameMove dbg rs r o rs' more) : V3.weight n more < o.weight := by
  cases h with
  | fails o crex ho =>
      rw [weight_failFrame]
      cases o <;> first | (cases ho; done) | simp [FrameOp.weight]
  | data flags bin =>
      have hclose := weight_closeOpsIf (n := n) (r := r) (judgeIsStreamEndFromFlags flags)
      simp only [weight_append]
      split <;> split <;> simp [Op.weight, FrameOp.weight] <;> omega
  | header flags bin => split <;> simp [Op.weight, FrameOp.weight]
  | bodySent isEnd bin hopen =>
      have hclose := weight_closeOpsIf (n := n) (r := r) isEnd
      simp [Op.weight, FrameOp.weight]
      omega
  | appended flags bin content =>
      have hclose := weight_closeOpsIf (n := n) (r := r) (judgeIsStreamEndFromFlags flags)
      split <;> simp [Op.weight, FrameOp.weight]
      omega
  | headerSent isEnd len =>
      have hclose := weight_closeOpsIf (n := n) (r := r) isEnd
      simp [Op.weight, FrameOp.weight]
      omega
  | credit o len ho => obtain rfl | rfl := ho <;> simp [FrameOp.weight]
  | _ => simp [Op.weight, FrameOp.weight, NotifyOp.weight]

private theorem execOp_weight {x y : Shared} {op : Op} {c : Choice} {more : List Op}
    {ts : List Task}
    (h : execOp dbg overflowChecks x op c = some (y, more, ts)) (hop : op.called x.admitted)
    (hmap : ∀ r ∈ x.rs.contextMap, r ∈ x.admitted) (hn : x.admitted.length ≤ n) :
    V3.weight n more < op.weight n ∧ ∀ o ∈ more, o.called x.admitted := by
  cases op with
  | notify r o =>
      cases h
      refine ⟨NotifyOp.weight_run x.rs o, fun o' ho => ?_⟩
      obtain ⟨o'', rfl⟩ := NotifyOp.mem_run ho
      trivial
  | frame r o =>
      cases move_of_execOp h with
      | frame _ _ hframe =>
          refine ⟨hframe.weight, fun o' ho => ?_⟩
          obtain ⟨o'', rfl⟩ | ⟨o'', rfl⟩ := hframe.mem_more ho <;> trivial
  | socket o =>
      change (o.run x.rs c).map _ = _ at h
      obtain ⟨⟨rs', more'⟩, hrun, hout⟩ := Option.map_eq_some_iff.mp h
      cases hout
      cases o with
      | storeRemoved =>
          cases hrun
          exact ⟨by simp [Op.weight, SocketOp.weight], nofun⟩
      | visitToClose code optReason =>
          cases hrun
          refine ⟨by simp [Op.weight, SocketOp.weight], fun o' ho => ?_⟩
          rw [List.mem_singleton.mp ho]
          exact ⟨List.nodup_nil, List.nil_subset _⟩
      | closeEach code optReason todo visited =>
          obtain ⟨hnodup, hsub⟩ := hop
          unfold SocketOp.run at hrun
          cases c with
          | visit r =>
              simp only at hrun
              split at hrun <;> cases hrun
              rename_i hr
              -- a request that comes up is one that was admitted and not visited before
              have hnext : (r :: visited).Nodup := List.nodup_cons.mpr ⟨hr.2, hnodup⟩
              have hsub' : r :: visited ⊆ x.admitted :=
                List.cons_subset.mpr ⟨hmap r hr.1, hsub⟩
              have hlen := (hnext.subperm hsub').length_le
              rw [List.length_cons] at hlen
              refine ⟨?_, fun o' ho => ?_⟩
              · simp only [weight_cons, weight_nil, Op.weight, SocketOp.weight, NotifyOp.weight,
                  List.length_cons]
                omega
              · simp only [List.mem_cons, List.not_mem_nil, or_false] at ho
                obtain rfl | rfl := ho
                · trivial
                · exact ⟨hnext, hsub'⟩
          | stop =>
              simp only at hrun
              split at hrun <;> cases hrun
              exact ⟨by simp [Op.weight, SocketOp.weight], nofun⟩
          | _ => cases hrun
      | _ => cases hop
  | _ => cases hop

end Weight

/-! ### The next step -/

/-- A window update that panics. -/
def Op.panics (overflowChecks : Bool) (rs : RouterSocketV3) : Op → Bool
  | .frame r (.handleWindowUpdate bin) => !(handleWindowUpdate overflowChecks rs r bin).isOk
  | _ => false

private theorem exists_execOp_of_called (dbg : DebugText) {x : Shared} {op : Op}
    (hop : op.called x.admitted)
    (hpanic : op.panics overflowChecks x.rs = false) :
    ∃ c, (execOp dbg overflowChecks x op c).isSome = true := by
  by_cases hblocks : op.blocks = true
  · cases op with
    | frame r o =>
        cases o with
        | handleRstStream bin =>
            obtain ⟨code, rest, hcode⟩ := getErrorCode_ok bin
            exact ⟨.go, by simp [execOp, Op.run, FrameOp.run, hcode]⟩
        | handleWindowUpdate bin =>
            cases hout : handleWindowUpdate overflowChecks x.rs r bin with
            | ok out => exact ⟨.go, by simp [execOp, Op.run, FrameOp.run, hout]⟩
            | error e => simp [Op.panics, hout, Except.isOk, Except.toBool] at hpanic
        | _ => cases hblocks
    | notify | socket => cases hblocks
    | _ => cases hop
  · exact exists_execOp dbg overflowChecks x (by simpa using hblocks)

/-! ### Over whole runs -/

/-- The pipe takes up a frame or a close. -/
def Label.startsCallback : Label → Bool
  | .receive _ | .close _ => true
  | _ => false

/-- The pipe takes a step of its callback. -/
def Label.runsCallback : Label → Bool
  | .recv _ => true
  | _ => false

/-- The steps of a callback, with `n` requests on the socket. -/
def Label.callbackBound (n : Nat) : Label → Nat
  | .close _ => 3 + 11 * n
  | _ => 27

structure Calling (p : SocketPool) : Prop where
  orderly : ∀ r, Orderly r p
  called : ∀ o ∈ p.shared.recv, o.called p.shared.admitted

theorem Orderly.mem_admitted (h : Orderly r p) (hr : r ∈ p.shared.rs.contextMap) :
    r ∈ p.shared.admitted := by
  by_contra hnot
  exact (h.life.unused fun hstarted => hnot hstarted.1).contextMap hr

theorem Op.called.mono {op : Op} {l l' : List ReqId} (h : op.called l) (hsub : l ⊆ l') :
    op.called l' := by
  cases op with
  | socket o =>
      cases o with
      | closeEach => exact ⟨h.1, List.Subset.trans h.2 hsub⟩
      | _ => exact h
  | _ => exact h

private theorem admitted_suffix {a : Label} (h : step dbg overflowChecks p a = some q) :
    p.shared.admitted <:+ q.shared.admitted := by
  cases hops : a.ops p with
  | cons op rest =>
      obtain ⟨y, more, ts, spawned, others, hexec, hlist⟩ := listStep_of_ops h hops
      rw [hlist.shared]
      obtain hsame | ⟨-, -, -, -, hcons⟩ := (move_of_execOp hexec).admitted_cases
      · rw [hsame]
      · rw [hcons]
        exact List.suffix_cons _ _
  | nil =>
      obtain ⟨gone, new, kept, hidle⟩ := idleStep_of_step h hops
      rw [hidle.admitted]

private theorem frameOps_weight (n : Nat) (type flags : UInt8) (bin : Bytes) :
    weight n (frameOps type flags r bin) ≤ 27 := by
  unfold frameOps
  split_ifs <;> simp [Op.weight, FrameOp.weight]

private theorem called_of_starts {a : Label} {n : Nat} (ha : a.startsCallback = true)
    (hstep : step dbg overflowChecks p a = some q) :
    (∀ o ∈ q.shared.recv, o.called q.shared.admitted) ∧
      weight n q.shared.recv ≤ a.callbackBound n := by
  cases stepCases hstep with
  | receive b hidle =>
      obtain hsame | ⟨type, flags, r', bin, -, -, hrecv⟩ := receive_cases p.shared b
      · simp [hsame, hidle]
      · simp only [hrecv]
        refine ⟨fun o ho => ?_, frameOps_weight n type flags bin⟩
        obtain ⟨o', rfl, -⟩ := frameOps_starts type flags r' bin ho
        trivial
  | close frame hidle =>
      refine ⟨?_, ?_⟩
      · simp [closeOps, Op.called]
      · simp [closeOps, Op.weight, SocketOp.weight, Label.callbackBound]
        omega
  | list hops => cases a <;> first | (cases ha; done) | cases hops
  | _ => cases ha

private theorem recv_of_task {a : Label} (ha : a.startsCallback = false)
    (ha' : a.runsCallback = false)
    (hstep : step dbg overflowChecks p a = some q) : q.shared.recv = p.shared.recv := by
  cases stepCases hstep with
  | list hops =>
      cases a with
      | task i c =>
          obtain ⟨l, t, rt, op, rest, y, more, ts, -, -, -, hexec, rfl⟩ := task_step_cases hstep
          exact (move_of_execOp hexec).recv
      | recv => cases ha'
      | _ => cases hops
  | receive | close => cases ha
  | dropHandler i l rt t =>
      show (p.shared.markGone t.req).recv = p.shared.recv
      cases t.req <;> rfl
  | _ => rfl

namespace Calling

theorem recv {c : Choice} {n : Nat} (h : Calling p) (hn : p.shared.admitted.length ≤ n)
    (hstep : V3.step dbg overflowChecks p (.recv c) = some q) :
    (∀ o ∈ q.shared.recv, o.called p.shared.admitted) ∧
      weight n q.shared.recv < weight n p.shared.recv := by
  obtain ⟨op, rest, y, more, ts, hrecv, hexec, rfl⟩ := recv_step_cases hstep
  have hcalled := h.called
  rw [hrecv] at hcalled
  obtain ⟨hless, hmore⟩ := execOp_weight hexec (hcalled op List.mem_cons_self)
    (fun r hr => (h.orderly r).mem_admitted hr) hn
  refine ⟨fun o ho => ?_, ?_⟩
  · obtain ho | ho := List.mem_append.mp ho
    · exact hmore o ho
    · exact hcalled o (List.mem_cons_of_mem _ ho)
  · simp only [hrecv, weight_append, weight_cons]
    omega

theorem step {a : Label} (h : Calling p) (hstep : V3.step dbg overflowChecks p a = some q) :
    Calling q := by
  refine ⟨fun r => (h.orderly r).step hstep, ?_⟩
  have hsub := (admitted_suffix hstep).subset
  cases hstart : a.startsCallback with
  | true => exact (called_of_starts (n := 0) hstart hstep).1
  | false =>
      cases hrun : a.runsCallback with
      | true =>
          cases a <;> first | (cases hrun; done) | skip
          exact fun o ho => ((h.recv le_rfl hstep).1 o ho).mono hsub
      | false =>
          rw [recv_of_task hstart hrun hstep]
          exact fun o ho => (h.called o ho).mono hsub

end Calling

private theorem calling_init (h : (socketMachine dbg overflowChecks).init p) : Calling p := by
  have horderly : ∀ r, Orderly r p := fun r => orderly_init r h
  obtain ⟨route, routerSocketId, reallyNeed, now, rfl⟩ := h
  exact ⟨horderly, nofun⟩

private theorem calling_of_reachable
    (h : (socketMachine dbg overflowChecks).Reachable Machine.anyAction p) : Calling p :=
  h.invariant (fun _ hp => calling_init hp) fun _ _ _ hp _ hstep => hp.step hstep

private theorem admitted_length_of_reach {ok : SocketPool → Label → Prop}
    (h : (socketMachine dbg overflowChecks).Reach ok p q) :
    p.shared.admitted.length ≤ q.shared.admitted.length :=
  h.invariant (P := fun x => p.shared.admitted.length ≤ x.shared.admitted.length)
    (fun _ _ _ hle _ hstep => hle.trans (admitted_suffix hstep).length_le) le_rfl

/-- Every step of a callback is paid for; the other steps cost nothing. -/
theorem Calling.pays {a : Label} {n : Nat} (h : Calling p) (ha : a.startsCallback = false)
    (hn : p.shared.admitted.length ≤ n) (hstep : V3.step dbg overflowChecks p a = some q) :
    weight n q.shared.recv + (if a.runsCallback then 1 else 0) ≤ weight n p.shared.recv := by
  cases hrun : a.runsCallback with
  | true =>
      cases a <;> first | (cases hrun; done) | skip
      have hless := (h.recv hn hstep).2
      rw [if_pos rfl]
      omega
  | false =>
      rw [recv_of_task ha hrun hstep]
      simp

/-- Whatever the socket does after the receive pipe has taken up a frame or a close: the callback
takes no more than a bounded number of steps, and as long as it has not returned it can take the
next one, unless that is a window update that panics. -/
theorem callback_runs_to_end (dbg : DebugText) (overflowChecks : Bool) {p p' q : SocketPool}
    {a : Label} {as : List Label}
    (hp : (socketMachine dbg overflowChecks).Reachable Machine.anyAction p)
    (ha : a.startsCallback = true) (hstart : step dbg overflowChecks p a = some p')
    (hrun : (socketMachine dbg overflowChecks).exec
      (fun _ a => a.startsCallback = false) p' as = some q) :
    as.countP Label.runsCallback ≤ a.callbackBound q.shared.admitted.length ∧
    ∀ op rest, q.shared.recv = op :: rest → op.panics overflowChecks q.shared.rs = false →
      ∃ c q', step dbg overflowChecks q (.recv c) = some q' := by
  have hcalling : Calling p' := (calling_of_reachable hp).step hstart
  obtain ⟨hlast, hcount⟩ := Machine.exec_count (P := Calling) (c := Label.runsCallback)
    (f := fun p => weight q.shared.admitted.length p.shared.recv)
    (fun s b t hs hb hstep hreach => ⟨hs.step hstep, hs.pays hb
      ((admitted_suffix hstep).length_le.trans (admitted_length_of_reach hreach)) hstep⟩)
    hcalling hrun
  refine ⟨?_, ?_⟩
  · have hbound := (called_of_starts (n := q.shared.admitted.length) ha hstart).2
    omega
  · intro op rest hrecv hpanic
    have hop := hlast.called op (by simp [hrecv])
    obtain ⟨c, hexec⟩ := exists_execOp_of_called dbg hop hpanic
    obtain ⟨out, hout⟩ := Option.isSome_iff_exists.mp hexec
    exact ⟨c, _, by simp only [step, execRecv, hrecv, hout]; rfl⟩

/-- Two requests are open. -/
def closingSocket : SocketPool :=
  (socketMachine plainText false).run Machine.anyAction freshSocket
    (List.flatten [[.request "GET / HTTP/1.1\n\n" false], List.replicate 3 (.task 0 .go),
      [.request "GET / HTTP/1.1\n\n" false], List.replicate 3 (.task 1 .go)])

/-- The connector closes the socket, and `on_close` has begun with the second request. -/
def closeBegun : List Label :=
  List.flatten [List.replicate 2 (.recv .go), [.recv (.visit 2)], List.replicate 5 (.recv .go)]

theorem callback_runs_to_end_closing :
    ∃ q, (socketMachine plainText false).exec (fun _ a => a.startsCallback = false)
        ⟨{ closingSocket.shared with recv := closeOps none }, closingSocket.tasks⟩ closeBegun =
        some q ∧
      closeBegun.countP Label.runsCallback ≤ 25 ∧ ∃ c q', step plainText false q (.recv c) = some q' := by
  have hstart : step plainText false closingSocket (.close none) =
      some ⟨{ closingSocket.shared with recv := closeOps none }, closingSocket.tasks⟩ := by
    rw [step, if_pos (by decide +kernel)]
  have hview : ((socketMachine plainText false).exec (fun _ a => a.startsCallback = false)
      ⟨{ closingSocket.shared with recv := closeOps none }, closingSocket.tasks⟩ closeBegun).map
        (fun q => (q.shared.recv.head?, q.shared.admitted)) =
      some (some (.notify 2 .closeBdy), [2, 1]) := by
    decide +kernel
  obtain ⟨q, hrun, hq⟩ := Option.map_eq_some_iff.mp hview
  obtain ⟨hhead, hadmitted⟩ := Prod.mk.inj hq
  obtain ⟨rest, hrecv⟩ := List.head?_eq_some_iff.mp hhead
  obtain ⟨hcount, hnext⟩ := callback_runs_to_end plainText false
    (Machine.reachable_run _ _ (init_freshSocket false) _) rfl hstart hrun
  rw [hadmitted] at hcount
  exact ⟨q, hrun, hcount, hnext _ rest hrecv rfl⟩

end CrankerRouter.V3
