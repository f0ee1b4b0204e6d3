import CrankerRouter.Farm.State

/-!
# Atomic steps of the farm

Every background task and every acquisition is a small program over the shared farm.  One step
is one access to shared state: a map access, a channel operation, or a load or store of an
atomic.  What the code does between two accesses is local and is folded into the step before.
Answers that come from outside the farm (the route resolver, the socket filter, the clock, the
notifier, the timer, the client) are the `Choice` of a step.

The sends of `async_channel` never suspend on an unbounded channel, so an acquisition can be
cancelled or timed out only where it waits: at `recv` and while it waits for a notification.
-/

namespace CrankerRouter.Farm

open Lib

/-- `add_router_socket_in_background`. -/
inductive AddPc
  | insert
  | send
  | count
  deriving DecidableEq, Repr

/-- `remove_router_socket_in_background`. -/
inductive RemovePc
  | recordTime
  | lookup
  | decrement
  | store
  deriving DecidableEq, Repr

/-- `de_register_router_socket_in_background`.  The lists are `sockets_to_close` and what is
left of it in the closing loop. -/
inductive DeRegisterPc
  | collect
  | retain (socketsToClose : List SocketId)
  | close (rest : List SocketId)
  | closeStore (s : SocketId) (rest : List SocketId)
  | closeCount (s : SocketId) (rest : List SocketId)
  deriving DecidableEq, Repr

/-- `clean_routes_in_background`: the closure of `retain` runs for one route at a time under
the lock of the map entry. -/
inductive CleanPc
  | scan
  | dropChan (k : Route)
  | dropEntry (k : Route)
  deriving DecidableEq, Repr

/-- What the filter and the configuration say about falling back. -/
structure AcquireConfig where
  allowCatchAll : Bool
  shouldFallbackToFirstPathMatched : Bool
  shouldFallbackToCatchAll : Bool
  deriving DecidableEq, Repr

/-- An acquisition that has resolved its route and cloned the channel of the route. -/
structure Acquisition where
  config : AcquireConfig
  resolvedRoute : Route
  chan : ChanId
  deriving DecidableEq, Repr

/-- Where an acquisition goes on after it has put a socket back. -/
inductive AfterPutBack
  | recv (visited : List SocketId) (precise : Bool)
  | fallback
  | handOut
  deriving DecidableEq, Repr

/-- The two drain loops of `try_fallback_sockets`. -/
inductive Stage
  | firstPathMatched
  | catchAll
  deriving DecidableEq, Repr

/-- The variables of one drain loop of `try_fallback_sockets`. -/
structure Drain where
  stage : Stage
  chan : ChanId
  darkHosts : List DarkHost
  skipped : List SocketId
  timedOut : Bool
  deriving DecidableEq, Repr

/-- Program points of the scan loop `while let Ok(rs) = router_socket_receiver.recv().await`. -/
inductive ScanPc
  | recv (visited : List SocketId) (precise : Bool)
  | upgrade (s : SocketId) (visited : List SocketId) (precise : Bool)
  | checkRemoved (s : SocketId) (visited : List SocketId) (precise : Bool)
  | checkDark (s : SocketId) (visited : List SocketId) (precise : Bool)
  | putBack (s : SocketId) (next : AfterPutBack)
  deriving DecidableEq, Repr

/-- Program points of `try_fallback_sockets`. -/
inductive FallbackPc
  | start (timedOut : Bool)
  | catchAll (darkHosts : List DarkHost) (timedOut : Bool)
  | drain (d : Drain)
  | upgrade (d : Drain) (s : SocketId)
  | checkRemoved (d : Drain) (s : SocketId)
  | flush (d : Drain) (pick : Option SocketId)
  deriving DecidableEq, Repr

/-- Program points of `get_router_socket_by_target_path_and_apply_filter` after the channel of
the resolved route has been cloned. -/
inductive AcquirePc
  | main
  | scan (pc : ScanPc)
  | fallback (pc : FallbackPc)
  | waitNotified
  deriving DecidableEq, Repr

inductive Task
  | add (s : SocketId) (pc : AddPc)
  | remove (s : SocketId) (pc : RemovePc)
  | deRegister (k : Route) (connectorId : String) (pc : DeRegisterPc)
  | cleanRoutes (cutOffTime : Int) (pc : CleanPc)
  | terminateAll (force : Bool) (visited : List Route)
  | resolve (config : AcquireConfig)
  | acquire (q : Acquisition) (pc : AcquirePc)
  | putBack (c : ChanId) (s : SocketId)
  deriving DecidableEq, Repr

inductive Choice
  | go
  | now (time : Int)
  | route (k : Route)
  | visit (k : Route)
  | stop
  | sweep (s : SocketId)
  | precise (b : Bool)
  | verdict (shouldUse : Bool)
  | notified
  | timeout
  | cancel
  deriving DecidableEq, Repr

variable (dir : SocketId → RouterSocket)

def execAdd (f : WebSocketFarm) (s : SocketId) : AddPc → Option (WebSocketFarm × List Task)
  | .insert =>
      let k := (dir s).route
      if f.mapLocked k then none
      else some (f.setSockets k ((f.socketsOf k).insert s), [.add s .send])
  | .send =>
      let (g, c) := f.openChan (dir s).route
      some (g.send c s, [.add s .count])
  | .count => some (f.addIdle 1, [])

def execRemove (f : WebSocketFarm) (s : SocketId) :
    RemovePc → Choice → Option (WebSocketFarm × List Task)
  | .recordTime, .now time => some (f.recordRemoval (dir s).route time, [.remove s .lookup])
  | .recordTime, _ => none
  | .lookup, _ =>
      let k := (dir s).route
      if f.mapLocked k then none
      else if s ∈ f.socketsOf k then
        some (f.setSockets k ((f.socketsOf k).erase s), [.remove s .decrement])
      else some (f, [])
  | .decrement, _ => some (f.addIdle (-1), [.remove s .store])
  | .store, _ => some (f.setRemoved s, [])

/-- The sockets of a route that a connector registered. -/
def socketsOfConnector (f : WebSocketFarm) (k : Route) (connectorId : String) : List SocketId :=
  (f.socketsOf k).filter fun s => (dir s).connectorId == connectorId

def execDeRegister (f : WebSocketFarm) (k : Route) (connectorId : String) :
    DeRegisterPc → Choice → Option (WebSocketFarm × List Task)
  | .collect, _ =>
      if f.mapLocked k then none
      else some (f, [.deRegister k connectorId (.retain (socketsOfConnector dir f k connectorId))])
  | .retain sockets, .now time =>
      if f.mapLocked k then none
      else
        match f.socketMap.lookup k with
        | none => some (f, [.deRegister k connectorId (.close sockets)])
        | some l =>
            let kept := l.filter fun s => !((dir s).connectorId == connectorId)
            some ((f.recordRemoval k time).setSockets k kept,
              [.deRegister k connectorId (.close sockets)])
  | .retain _, _ => none
  | .close [], _ => some (f, [])
  | .close (s :: rest), _ =>
      if f.isActive s then some (f, [.deRegister k connectorId (.close rest)])
      else some (f, [.deRegister k connectorId (.closeStore s rest)])
  | .closeStore s rest, _ =>
      some (f.setRemoved s, [.deRegister k connectorId (.closeCount s rest)])
  | .closeCount _ rest, _ => some (f.addIdle (-1), [.deRegister k connectorId (.close rest)])

def execClean (f : WebSocketFarm) (cutOffTime : Int) :
    CleanPc → Choice → Option (WebSocketFarm × List Task)
  | .scan, .visit k =>
      if f.mapLocked k then none
      else
        match f.socketMap.lookup k, f.routeLastRemovalTimes k with
        | some [], some time =>
            if time < cutOffTime then
              some ({ f with mapLocked := Function.update f.mapLocked k true },
                [.cleanRoutes cutOffTime (.dropChan k)])
            else some (f, [.cleanRoutes cutOffTime .scan])
        | some _, _ => some (f, [.cleanRoutes cutOffTime .scan])
        | none, _ => none
  | .scan, .stop => some (f, [])
  | .scan, _ => none
  | .dropChan k, _ =>
      some ({ f with routeToSocketChan := f.routeToSocketChan.erase k },
        [.cleanRoutes cutOffTime (.dropEntry k)])
  | .dropEntry k, _ =>
      some ({ f with
          socketMap := f.socketMap.erase k
          mapLocked := Function.update f.mapLocked k false }, [.cleanRoutes cutOffTime .scan])

/-- `terminate_all`: `retain(|_, _| false)` on the socket map, which locks one part of the map at
a time and has passed every route when it ends.  With `force` the sockets are told to end their
requests first, which is no business of the farm. -/
def execTerminateAll (f : WebSocketFarm) (force : Bool) (visited : List Route) :
    Choice → Option (WebSocketFarm × List Task)
  | .visit k =>
      if f.mapLocked k then none
      else some ({ f with socketMap := f.socketMap.erase k }, [.terminateAll force (k :: visited)])
  | .stop => if f.socketMap.keys.all visited.contains then some (f, []) else none
  | _ => none

/-- `should_remove_from_web_socket_farm_if_is_removed` on the entries of the socket map, on the
way to the channel of the resolved route.  Which entries the iteration meets and what route the
resolver answers are choices. -/
def execResolve (f : WebSocketFarm) (config : AcquireConfig) :
    Choice → Option (WebSocketFarm × List Task)
  | .sweep s =>
      if f.isRemoved s then some (f, [.resolve config, .remove s .recordTime]) else none
  | .route k =>
      match f.routeToSocketChan.lookup k with
      | none => some (f, [])
      | some c => some (f, [.acquire ⟨config, k, c⟩ .main])
  | _ => none

/-- The socket in the `SocketGuard` of a program point. -/
def AcquirePc.guarded : AcquirePc → Option SocketId
  | .scan (.upgrade s _ _) | .scan (.checkRemoved s _ _) => some s
  | .scan (.checkDark s _ _) | .scan (.putBack s _) => some s
  | _ => none

/-- The future is dropped: the guard of the program point, if armed, spawns a send that puts
its socket back. -/
def dropFuture (q : Acquisition) (pc : AcquirePc) : List Task :=
  pc.guarded.toList.map (Task.putBack q.chan)

def execScan (f : WebSocketFarm) (q : Acquisition) :
    ScanPc → Choice → Option (WebSocketFarm × List Task)
  | .recv visited precise, .go =>
      match f.chan q.chan with
      | [] => none
      | s :: _ => some (f.takeHead q.chan, [.acquire q (.scan (.upgrade s visited precise))])
  | .recv visited precise, .timeout =>
      some (f, .acquire q (.fallback (.start true)) ::
        dropFuture q (.scan (.recv visited precise)))
  | .recv visited precise, .cancel => some (f, dropFuture q (.scan (.recv visited precise)))
  | .recv _ _, _ => none
  | .upgrade s visited precise, _ =>
      if f.alive s then
        if s ∈ visited then some (f, [.acquire q (.scan (.putBack s .fallback))])
        else some (f, [.acquire q (.scan (.checkRemoved s (s :: visited) precise))])
      else some (f, [.acquire q (.scan (.recv visited precise))])
  | .checkRemoved s visited precise, _ =>
      if f.isRemoved s then
        some (f, [.acquire q (.scan (.recv (visited.erase s) precise)), .remove s .recordTime])
      else some (f, [.acquire q (.scan (.checkDark s visited precise))])
  | .checkDark s visited precise, .verdict shouldUse =>
      if (dir s).isDarkModeOn f.darkHosts then
        some (f, [.acquire q (.scan (.putBack s (.recv visited precise)))])
      else if precise && (dir s).domain == "*" then
        some (f, [.acquire q (.scan (.putBack s (.recv visited precise)))])
      else if shouldUse then
        match (dir s).crankerVersion with
        | .v3 => some (f, [.acquire q (.scan (.putBack s .handOut))])
        | .v1 => some (f.handOut s, [])
      else some (f, [.acquire q (.scan (.putBack s (.recv visited precise)))])
  | .checkDark _ _ _, _ => none
  | .putBack s (.recv visited precise), _ =>
      some (f.send q.chan s, [.acquire q (.scan (.recv visited precise))])
  | .putBack s .fallback, _ => some (f.send q.chan s, [.acquire q (.fallback (.start false))])
  | .putBack s .handOut, _ => some ((f.send q.chan s).handOut s, [])

/-- Where an acquisition goes on after `try_fallback_sockets` has found nothing. -/
def missed (q : Acquisition) (timedOut : Bool) : List Task :=
  if timedOut then [] else [.acquire q .waitNotified]

/-- Where it goes on after one drain loop has found nothing. -/
def drained (q : Acquisition) (d : Drain) : List Task :=
  match d.stage with
  | .firstPathMatched => [.acquire q (.fallback (.catchAll d.darkHosts d.timedOut))]
  | .catchAll => missed q d.timedOut

def execFallback (f : WebSocketFarm) (q : Acquisition) :
    FallbackPc → Option (WebSocketFarm × List Task)
  | .start timedOut =>
      if q.config.shouldFallbackToFirstPathMatched then
        some (f, [.acquire q
          (.fallback (.drain ⟨.firstPathMatched, q.chan, f.darkHosts, [], timedOut⟩))])
      else some (f, [.acquire q (.fallback (.catchAll f.darkHosts timedOut))])
  | .catchAll darkHosts timedOut =>
      if q.config.allowCatchAll && q.config.shouldFallbackToCatchAll then
        match f.routeToSocketChan.lookup "*" with
        | some c =>
            some (f, [.acquire q (.fallback (.drain ⟨.catchAll, c, darkHosts, [], timedOut⟩))])
        | none => some (f, missed q timedOut)
      else some (f, missed q timedOut)
  | .drain d =>
      match f.chan d.chan with
      | [] => some (f, [.acquire q (.fallback (.flush d none))])
      | s :: _ => some (f.takeHead d.chan, [.acquire q (.fallback (.upgrade d s))])
  | .upgrade d s =>
      if f.alive s then some (f, [.acquire q (.fallback (.checkRemoved d s))])
      else some (f, [.acquire q (.fallback (.drain d))])
  | .checkRemoved d s =>
      if f.isRemoved s then
        some (f, [.acquire q (.fallback (.drain d)), .remove s .recordTime])
      else if (dir s).isDarkModeOn d.darkHosts then
        some (f, [.acquire q (.fallback (.drain { d with skipped := d.skipped ++ [s] }))])
      else some (f, [.acquire q (.fallback (.flush d (some s)))])
  | .flush d pick =>
      match d.skipped, pick with
      | x :: rest, _ =>
          some (f.send d.chan x,
            [.acquire q (.fallback (.flush { d with skipped := rest } pick))])
      | [], none => some (f, drained q d)
      | [], some s =>
          match (dir s).crankerVersion with
          | .v3 => some ((f.send d.chan s).handOut s, [])
          | .v1 => some (f.handOut s, [])

def execAcquire (f : WebSocketFarm) (q : Acquisition) :
    AcquirePc → Choice → Option (WebSocketFarm × List Task)
  | .main, .sweep s =>
      if f.isRemoved s then some (f, [.acquire q .main, .remove s .recordTime]) else none
  | .main, .precise b => some (f, [.acquire q (.scan (.recv [] b))])
  | .main, _ => none
  | .scan pc, c => execScan dir f q pc c
  | .fallback pc, _ => execFallback dir f q pc
  | .waitNotified, .notified => some (f, [.acquire q .main])
  | .waitNotified, .timeout =>
      some (f, .acquire q (.fallback (.start true)) :: dropFuture q .waitNotified)
  | .waitNotified, .cancel => some (f, dropFuture q .waitNotified)
  | .waitNotified, _ => none

/-- One atomic step of a task. -/
def exec (f : WebSocketFarm) : Task → Choice → Option (WebSocketFarm × List Task)
  | .add s pc, _ => execAdd dir f s pc
  | .remove s pc, c => execRemove dir f s pc c
  | .deRegister k connectorId pc, c => execDeRegister dir f k connectorId pc c
  | .cleanRoutes cutOffTime pc, c => execClean f cutOffTime pc c
  | .terminateAll force visited, c => execTerminateAll f force visited c
  | .resolve config, c => execResolve f config c
  | .acquire q pc, c => execAcquire dir f q pc c
  | .putBack c s, _ => some (f.send c s, [])

/-- The task keeps the socket alive by an `Arc` of its own. -/
def Task.holdsStrong (s : SocketId) : Task → Bool
  | .add t .insert => t == s
  | .deRegister _ _ (.retain l) | .deRegister _ _ (.close l) => l.contains s
  | .deRegister _ _ (.closeStore t l) | .deRegister _ _ (.closeCount t l) => (t :: l).contains s
  | .acquire _ (.scan (.checkRemoved t _ _)) | .acquire _ (.scan (.checkDark t _ _)) => t == s
  | .acquire _ (.scan (.putBack t _)) | .acquire _ (.fallback (.checkRemoved _ t)) => t == s
  | .acquire _ (.fallback (.flush _ pick)) => pick == some s
  | _ => false

/-- What the rest of the router does to the farm: the calls that spawn a task, and the events of
the sockets that the farm reads.  `storeRemoved` is the store in `RouterSocketV3::on_close`;
`dropLast` drops the last strong reference that is not in the farm. -/
inductive Env
  | add (s : SocketId)
  | remove (s : SocketId)
  | deRegister (k : Route) (connectorId : String)
  | cleanRoutes (cutOffTime : Int)
  | terminateAll (force : Bool)
  | acquire (config : AcquireConfig)
  | storeRemoved (s : SocketId)
  | setActive (s : SocketId) (active : Bool)
  | dropLast (s : SocketId)
  | enableDarkMode (host : DarkHost)
  | disableDarkMode (host : DarkHost)
  deriving DecidableEq, Repr

abbrev FarmPool := Pool WebSocketFarm Task

/-- The task an environment call spawns. -/
def Env.spawned : Env → List Task
  | .add s => [.add s .insert]
  | .remove s => [.remove s .recordTime]
  | .deRegister k connectorId => [.deRegister k connectorId .collect]
  | .cleanRoutes cutOffTime => [.cleanRoutes cutOffTime .scan]
  | .terminateAll force => [.terminateAll force []]
  | .acquire config => [.resolve config]
  | _ => []

/-- A call is possible: a socket is added once, while it lives, and dies only when neither the
socket map nor a task holds it. -/
def Env.enabled (p : FarmPool) : Env → Bool
  | .add s => !p.shared.added.contains s && p.shared.alive s
  | .dropLast s =>
      !decide (Registered dir p.shared s) && p.tasks.all fun t => !t.holdsStrong s
  | _ => true

/-- What an environment event writes to the shared state at once. -/
def Env.apply (f : WebSocketFarm) : Env → WebSocketFarm
  | .add s => { f with added := s :: f.added }
  | .storeRemoved s => f.setRemoved s
  | .setActive s active => { f with isActive := Function.update f.isActive s active }
  | .dropLast s => { f with alive := Function.update f.alive s false }
  | .enableDarkMode host =>
      if f.darkHosts.any (·.sameHost host.address) then f
      else { f with darkHosts := host :: f.darkHosts }
  | .disableDarkMode host =>
      { f with darkHosts := f.darkHosts.filter fun h => !h.sameHost host.address }
  | _ => f

inductive Label
  | task (i : Nat) (c : Choice)
  | env (e : Env)
  deriving DecidableEq, Repr

/-- One step of the farm: some task takes an atomic step, or the rest of the router acts. -/
def step (p : FarmPool) : Label → Option FarmPool
  | .task i c => Pool.step (exec dir) p i c
  | .env e =>
      if e.enabled dir p then some ⟨e.apply p.shared, p.tasks ++ e.spawned⟩ else none

/-- The farm with any number of concurrent tasks, from `WebSocketFarm::new` on. -/
def machine : Machine FarmPool Label where
  init := fun p => p = ⟨.new, []⟩
  step := step dir

/-- A step is a step of one task or one event of the environment. -/
theorem step_cases {p q : FarmPool} {a : Label} (h : step dir p a = some q) :
    (∃ i c l t r f ts, a = .task i c ∧ p.tasks[i]? = some t ∧ p.tasks = l ++ t :: r ∧
      exec dir p.shared t c = some (f, ts) ∧ q = ⟨f, l ++ ts ++ r⟩) ∨
    (∃ e, a = .env e ∧ e.enabled dir p = true ∧ q = ⟨e.apply p.shared, p.tasks ++ e.spawned⟩) := by
  cases a with
  | task i c =>
      obtain ⟨l, t, r, f, ts, hi, hp, he, hq⟩ := Pool.step_cases h
      exact .inl ⟨i, c, l, t, r, f, ts, rfl, hi, hp, he, hq⟩
  | env e =>
      simp only [step] at h
      split at h
      · exact .inr ⟨e, rfl, by assumption, by simpa using h.symm⟩
      · simp at h

end CrankerRouter.Farm
