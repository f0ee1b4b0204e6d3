import CrankerRouter.Lib.Machine
import CrankerRouter.Lib.Assoc

/-!
# The state of the websocket farm

`WebSocketFarm` keeps one unbounded channel of weak socket references for each route and one
map of strong references for each route.  A channel is an object of its own: acquisitions and
background tasks clone its two ends and go on using them after the farm has dropped the route,
so channels are named by `ChanId` and the route table only says which one is current.
-/

namespace CrankerRouter.Farm

abbrev Route := String

/-- `router_socket_id`, a fresh uuid for each socket; a `Weak<dyn RouterSocket>` is its id. -/
abbrev SocketId := Nat

abbrev ChanId := Nat

abbrev IpAddr := Nat

inductive CrankerVersion
  | v1
  | v3
  deriving DecidableEq, Repr

/-- Equality and hashing of a `DarkHost` look at its address only. -/
structure DarkHost where
  address : IpAddr
  dateEnabled : Int
  reason : String
  deriving DecidableEq, Repr

def DarkHost.sameHost (host : DarkHost) (another : IpAddr) : Bool := host.address == another

/-- What a `RouterSocket` is created with and never changes. -/
structure RouterSocket where
  route : Route
  domain : String
  connectorId : String
  crankerVersion : CrankerVersion
  remoteIp : IpAddr
  deriving DecidableEq, Repr

def RouterSocket.isDarkModeOn (rs : RouterSocket) (darkHosts : List DarkHost) : Bool :=
  darkHosts.any fun host => host.sameHost rs.remoteIp

/-- The shared state of the farm.  `isRemoved`, `isActive` and `alive` belong to the sockets:
the `is_removed` flag, the answer of `is_active()` and whether a weak reference upgrades.
`added` and `returned` are history: the sockets given to `add_router_socket_in_background`, and
the sockets returned to client requests, latest first. -/
structure WebSocketFarm where
  routeToSocketChan : AList (fun _ : Route => ChanId)
  chan : ChanId → List SocketId
  chanCount : ChanId
  socketMap : AList (fun _ : Route => List SocketId)
  mapLocked : Route → Bool
  routeLastRemovalTimes : Route → Option Int
  idleCount : BitVec 32
  darkHosts : List DarkHost
  isRemoved : SocketId → Bool
  isActive : SocketId → Bool
  alive : SocketId → Bool
  added : List SocketId
  returned : List SocketId

def WebSocketFarm.new : WebSocketFarm where
  routeToSocketChan := ∅
  chan := fun _ => []
  chanCount := 0
  socketMap := ∅
  mapLocked := fun _ => false
  routeLastRemovalTimes := fun _ => none
  idleCount := 0
  darkHosts := []
  isRemoved := fun _ => false
  isActive := fun _ => false
  alive := fun _ => true
  added := []
  returned := []

namespace WebSocketFarm

/-- `sender.send(weak)` on an unbounded channel. -/
def send (f : WebSocketFarm) (c : ChanId) (s : SocketId) : WebSocketFarm :=
  { f with chan := Function.update f.chan c (f.chan c ++ [s]) }

/-- What `receiver.recv()` and `try_recv()` leave behind when they take the head. -/
def takeHead (f : WebSocketFarm) (c : ChanId) : WebSocketFarm :=
  { f with chan := Function.update f.chan c (f.chan c).tail }

/-- `route_to_socket_chan.entry(route).or_insert_with(unbounded)`. -/
def openChan (f : WebSocketFarm) (k : Route) : WebSocketFarm × ChanId :=
  match f.routeToSocketChan.lookup k with
  | some c => (f, c)
  | none =>
      ({ f with
          routeToSocketChan := f.routeToSocketChan.insert k f.chanCount
          chan := Function.update f.chan f.chanCount []
          chanCount := f.chanCount + 1 }, f.chanCount)

/-- The sockets stored for a route, none when the route has no entry. -/
def socketsOf (f : WebSocketFarm) (k : Route) : List SocketId := (f.socketMap.lookup k).getD []

def setSockets (f : WebSocketFarm) (k : Route) (l : List SocketId) : WebSocketFarm :=
  { f with socketMap := f.socketMap.insert k l }

def setRemoved (f : WebSocketFarm) (s : SocketId) : WebSocketFarm :=
  { f with isRemoved := Function.update f.isRemoved s true }

def addIdle (f : WebSocketFarm) (n : Int) : WebSocketFarm :=
  { f with idleCount := f.idleCount + BitVec.ofInt 32 n }

def recordRemoval (f : WebSocketFarm) (k : Route) (now : Int) : WebSocketFarm :=
  { f with routeLastRemovalTimes := Function.update f.routeLastRemovalTimes k (some now) }

/-- The acquisition hands the socket to its client request. -/
def handOut (f : WebSocketFarm) (s : SocketId) : WebSocketFarm :=
  { f with returned := s :: f.returned }

/-- Total number of entries over all routes of the socket map. -/
def entryCount (f : WebSocketFarm) : Nat := Lib.Assoc.total List.length f.socketMap

end WebSocketFarm

/-- The socket is in `route_to_router_socket_id_to_arc_router_socket_map` under its route. -/
def Registered (dir : SocketId → RouterSocket) (f : WebSocketFarm) (s : SocketId) : Prop :=
  s ∈ f.socketsOf (dir s).route

instance (dir : SocketId → RouterSocket) (f : WebSocketFarm) (s : SocketId) :
    Decidable (Registered dir f s) :=
  inferInstanceAs (Decidable (s ∈ f.socketsOf (dir s).route))

end CrankerRouter.Farm
