import CrankerRouter.Farm.Selection

/-!
# The websocket pipes of a socket

`RouterSocketV1::new_arc` and `RouterSocketV3::new_arc` spawn two tasks for each websocket: one
receives and calls the listener callbacks, the other sends and handles the error channel.  Only
afterwards is the socket given to the farm.  The callbacks reach the farm through a few actions:
spawn a removal, set the removal flag, report an error on the error channel.  A callback is the
list of these actions, taken one at a time; everything else it does is no business of the farm.
-/

namespace CrankerRouter.Farm

open Lib

/-- The actions of the callbacks. -/
inductive Act
  | pushError
  | spawnRemove
  | storeRemoved
  | removeUnlessRemoved
  | closeUnlessRemoved
  | errorUnlessRemoved
  deriving DecidableEq, Repr

/-- `recv` is `pipe_underlying_wss_recv_and_send_err_to_err_chan_if_necessary`, `send` is
`pipe_and_queue_the_wss_send_task_and_handle_err_chan`; `call` is any other task that calls
`on_error` or `raise_completion_event`: the idle timer, a request. -/
inductive PipeKind
  | recv
  | send
  | call
  deriving DecidableEq, Repr

/-- In the loop of the pipe, after the loop, or returned. -/
inductive Phase
  | looping
  | leaving
  | ended
  deriving DecidableEq, Repr

structure Pipe where
  socket : SocketId
  kind : PipeKind
  phase : Phase
  todo : List Act
  deriving DecidableEq, Repr

/-- What the pipes share.  `errChan s` is the number of errors waiting in the error channel of
`s`, `none` when its receiver is gone.  `connected` and `closeReceived` are history: the sockets
whose `new_arc` has run, and those whose `on_close` has been called. -/
structure Router where
  farm : FarmPool
  errChan : SocketId → Option Nat
  connected : List SocketId
  closeReceived : SocketId → Bool

abbrev RouterPool := Pool Router Pipe

/-- `remove_router_socket_in_background`. -/
def Router.spawnRemove (x : Router) (s : SocketId) : Router :=
  { x with farm := ⟨x.farm.shared, x.farm.tasks ++ [.remove s .recordTime]⟩ }

def Router.storeRemoved (x : Router) (s : SocketId) : Router :=
  { x with farm := ⟨x.farm.shared.setRemoved s, x.farm.tasks⟩ }

def Router.setErrChan (x : Router) (s : SocketId) (n : Option Nat) : Router :=
  { x with errChan := Function.update x.errChan s n }

variable (dir : SocketId → RouterSocket)

/-- One action of a callback, and the actions that follow from it. -/
def execAct (x : Router) (s : SocketId) : Act → Router × List Act
  | .pushError =>
      -- `on_error`: V1 also raises the completion event when the channel takes the error.
      match x.errChan s with
      | some n => (x.setErrChan s (some (n + 1)),
          if (dir s).crankerVersion = .v1 then [.spawnRemove] else [])
      | none => (x, [])
  | .spawnRemove => (x.spawnRemove s, [])
  | .storeRemoved => (x.storeRemoved s, [])
  | .removeUnlessRemoved => (x, if x.farm.shared.isRemoved s then [] else [.spawnRemove])
  | .closeUnlessRemoved =>
      (x, if x.farm.shared.isRemoved s then [] else [.spawnRemove, .storeRemoved])
  | .errorUnlessRemoved => (x, if x.farm.shared.isRemoved s then [] else [.pushError])

/-- `on_close`, with the errors it reports itself and those its result makes the pipe report. -/
def onClose : CrankerVersion → Nat → Nat → List Act
  | .v1, errors, after =>
      List.replicate errors .pushError ++ .spawnRemove :: List.replicate after .pushError
  | .v3, _, _ => [.closeUnlessRemoved]

/-- What happens to a pipe between two actions: for `recv` a frame of another kind whose callback
reports errors, a close frame, a receive error, the end of the websocket; for `send` an error in
the error channel, a failed send, a failed ping of a removed socket. -/
inductive PipeEvent
  | go
  | message (errors : Nat)
  | close (errors after : Nat)
  | fail
  | eof
  | takeError
  | sendFailed
  | quit
  deriving DecidableEq, Repr

/-- A pipe between two actions: it waits for its next event, or leaves its loop for good.  The
send pipe owns the receiver of the error channel. -/
def execIdle (x : Router) (t : Pipe) : Phase → PipeKind → PipeEvent → Option (Router × List Pipe)
  | .leaving, .send, .go => some (x.setErrChan t.socket none, [{ t with phase := .ended }])
  | .leaving, _, .go => some (x, [{ t with phase := .ended }])
  | .looping, .recv, .message errors =>
      some (x, [{ t with todo := List.replicate errors .pushError }])
  | .looping, .recv, .close errors after =>
      some ({ x with closeReceived := Function.update x.closeReceived t.socket true },
        [{ t with todo := onClose (dir t.socket).crankerVersion errors after }])
  | .looping, .recv, .fail =>
      some (x, [{ t with phase := .leaving, todo := [.pushError, .errorUnlessRemoved] }])
  | .looping, .recv, .eof =>
      some (x, [{ t with phase := .leaving, todo := [.errorUnlessRemoved] }])
  | .looping, .send, .takeError =>
      match x.errChan t.socket with
      | some (n + 1) => some (x.setErrChan t.socket (some n),
          [{ t with phase := .leaving, todo := [.removeUnlessRemoved] }])
      | _ => none
  | .looping, .send, .sendFailed => some (x, [{ t with todo := [.pushError] }])
  | .looping, .send, .quit =>
      if x.farm.shared.isRemoved t.socket then some (x, [{ t with phase := .leaving }]) else none
  | _, _, _ => none

def execPipe (x : Router) (t : Pipe) (c : PipeEvent) : Option (Router × List Pipe) :=
  match t.todo with
  | a :: rest =>
      let (y, more) := execAct dir x t.socket a
      some (y, [{ t with todo := more ++ rest }])
  | [] => execIdle dir x t t.phase t.kind c

inductive RouterLabel
  | farm (a : Label)
  | connect (s : SocketId)
  | error (s : SocketId)
  | complete (s : SocketId)
  | pipe (i : Nat) (c : PipeEvent)
  deriving DecidableEq, Repr

/-- The steps that the rest of the router may take on the farm.  Removals and removal flags come
from the pipes, a socket is registered after it is connected, and its pipes hold it alive. -/
def farmEnabled (p : RouterPool) : Label → Bool
  | .env (.add s) => p.shared.connected.contains s
  | .env (.remove _) | .env (.storeRemoved _) => false
  | .env (.dropLast s) => p.tasks.all fun t => t.socket != s || t.phase == .ended
  | _ => true

/-- One step of the router: a step of the farm, `new_arc`, a call of `on_error` or of
`raise_completion_event` from outside the pipes, or a step of a pipe. -/
def routerStep (p : RouterPool) : RouterLabel → Option RouterPool
  | .farm a =>
      if farmEnabled p a then
        (step dir p.shared.farm a).map fun q => ⟨{ p.shared with farm := q }, p.tasks⟩
      else none
  | .connect s =>
      if s ∈ p.shared.connected then none
      else some ⟨{ p.shared.setErrChan s (some 0) with connected := s :: p.shared.connected },
        p.tasks ++ [⟨s, .recv, .looping, []⟩, ⟨s, .send, .looping, []⟩]⟩
  | .error s =>
      if s ∈ p.shared.connected then
        some ⟨p.shared, p.tasks ++ [⟨s, .call, .leaving, [.pushError]⟩]⟩
      else none
  | .complete s =>
      if s ∈ p.shared.connected ∧ (dir s).crankerVersion = .v1 then
        some ⟨p.shared, p.tasks ++ [⟨s, .call, .leaving, [.spawnRemove]⟩]⟩
      else none
  | .pipe i c => Pool.step (execPipe dir) p i c

def Router.new : Router := ⟨⟨.new, []⟩, fun _ => none, [], fun _ => false⟩

def routerMachine : Machine RouterPool RouterLabel where
  init := fun p => p = ⟨.new, []⟩
  step := routerStep dir

/-- What one step of a pipe does, case by case. -/
inductive PipeMove (x : Router) (t : Pipe) : Router → Pipe → Prop
  | act (a : Act) (rest : List Act) (htodo : t.todo = a :: rest) :
      PipeMove x t (execAct dir x t.socket a).1
        { t with todo := (execAct dir x t.socket a).2 ++ rest }
  | endSend (hphase : t.phase = .leaving) (hkind : t.kind = .send) (htodo : t.todo = []) :
      PipeMove x t (x.setErrChan t.socket none) { t with phase := .ended }
  | endOther (hphase : t.phase = .leaving) (hkind : t.kind ≠ .send) (htodo : t.todo = []) :
      PipeMove x t x { t with phase := .ended }
  | message (errors : Nat) (hphase : t.phase = .looping) (htodo : t.todo = []) :
      PipeMove x t x { t with todo := List.replicate errors .pushError }
  | close (errors after : Nat) (hkind : t.kind = .recv) (hphase : t.phase = .looping)
      (htodo : t.todo = []) :
      PipeMove x t { x with closeReceived := Function.update x.closeReceived t.socket true }
        { t with todo := onClose (dir t.socket).crankerVersion errors after }
  | leaveRecv (acts : List Act) (hacts : .errorUnlessRemoved ∈ acts) (hkind : t.kind = .recv)
      (htodo : t.todo = []) :
      PipeMove x t x { t with phase := .leaving, todo := acts }
  | takeError (n : Nat) (hn : x.errChan t.socket = some (n + 1)) (hkind : t.kind = .send)
      (htodo : t.todo = []) :
      PipeMove x t (x.setErrChan t.socket (some n))
        { t with phase := .leaving, todo := [.removeUnlessRemoved] }
  | quit (hremoved : x.farm.shared.isRemoved t.socket = true) (hkind : t.kind = .send)
      (htodo : t.todo = []) :
      PipeMove x t x { t with phase := .leaving }

variable {dir}

theorem execPipe_cases {x y : Router} {t : Pipe} {c : PipeEvent} {ts : List Pipe}
    (h : execPipe dir x t c = some (y, ts)) : ∃ t', ts = [t'] ∧ PipeMove dir x t y t' := by
  simp only [execPipe] at h
  split at h
  · rename_i a rest htodo
    simp only [Option.some.injEq, Prod.mk.injEq] at h
    obtain ⟨rfl, rfl⟩ := h
    exact ⟨_, rfl, .act a rest htodo⟩
  · rename_i htodo
    obtain ⟨s, kind, phase, todo⟩ := t
    obtain rfl : todo = [] := htodo
    cases phase <;> cases kind <;> cases c <;>
      simp only [execIdle, reduceCtorEq, Option.some.injEq, Prod.mk.injEq] at h
    case looping.recv.message n =>
      obtain ⟨rfl, rfl⟩ := h
      exact ⟨_, rfl, .message n rfl rfl⟩
    case looping.recv.close errors after =>
      obtain ⟨rfl, rfl⟩ := h
      exact ⟨_, rfl, .close errors after rfl rfl rfl⟩
    case looping.recv.fail =>
      obtain ⟨rfl, rfl⟩ := h
      exact ⟨_, rfl, .leaveRecv _ (by simp) rfl rfl⟩
    case looping.recv.eof =>
      obtain ⟨rfl, rfl⟩ := h
      exact ⟨_, rfl, .leaveRecv _ (by simp) rfl rfl⟩
    case looping.send.takeError =>
      split at h
      · rename_i n hn
        simp only [Option.some.injEq, Prod.mk.injEq] at h
        obtain ⟨rfl, rfl⟩ := h
        exact ⟨_, rfl, .takeError n hn rfl rfl⟩
      · simp at h
    case looping.send.sendFailed =>
      obtain ⟨rfl, rfl⟩ := h
      exact ⟨_, rfl, .message 1 rfl rfl⟩
    case looping.send.quit =>
      split at h
      · rename_i hremoved
        simp only [Option.some.injEq, Prod.mk.injEq] at h
        obtain ⟨rfl, rfl⟩ := h
        exact ⟨_, rfl, .quit hremoved rfl rfl⟩
      · simp at h
    case leaving.send.go =>
      obtain ⟨rfl, rfl⟩ := h
      exact ⟨_, rfl, .endSend rfl rfl rfl⟩
    all_goals
      obtain ⟨rfl, rfl⟩ := h
      exact ⟨_, rfl, .endOther rfl (by simp) rfl⟩

/-- What one step of the router does to the pipes and to what they share. -/
theorem routerStep_cases {p q : RouterPool} {a : RouterLabel} (h : routerStep dir p a = some q) :
    (q.tasks = p.tasks ∧ ∃ g, q.shared = { p.shared with farm := g }) ∨
    (∃ s, s ∉ p.shared.connected ∧ q.tasks = p.tasks ++
        [⟨s, .recv, .looping, []⟩, ⟨s, .send, .looping, []⟩] ∧
      q.shared = { p.shared.setErrChan s (some 0) with connected := s :: p.shared.connected }) ∨
    (∃ s acts, s ∈ p.shared.connected ∧ q.shared = p.shared ∧
      q.tasks = p.tasks ++ [⟨s, .call, .leaving, acts⟩]) ∨
    (∃ l t r x t', p.tasks = l ++ t :: r ∧ PipeMove dir p.shared t x t' ∧
      q = ⟨x, l ++ t' :: r⟩) := by
  cases a with
  | farm b =>
      simp only [routerStep] at h
      split_ifs at h
      obtain ⟨g, -, rfl⟩ := Option.map_eq_some_iff.mp h
      exact .inl ⟨rfl, g, rfl⟩
  | connect s =>
      simp only [routerStep] at h
      split_ifs at h with hs
      obtain rfl := Option.some.inj h
      exact .inr (.inl ⟨s, hs, rfl, rfl⟩)
  | error s =>
      simp only [routerStep] at h
      split_ifs at h with hs
      obtain rfl := Option.some.inj h
      exact .inr (.inr (.inl ⟨s, _, hs, rfl, rfl⟩))
  | complete s =>
      simp only [routerStep] at h
      split_ifs at h with hs
      obtain rfl := Option.some.inj h
      exact .inr (.inr (.inl ⟨s, _, hs.1, rfl, rfl⟩))
  | pipe i c =>
      obtain ⟨l, t, r, x, ts, -, htasks, hexec, rfl⟩ := Pool.step_cases h
      obtain ⟨t', rfl, hmove⟩ := execPipe_cases hexec
      exact .inr (.inr (.inr ⟨l, t, r, x, t', htasks, hmove, by simp⟩))

end CrankerRouter.Farm
