import CrankerRouter.Farm.Conservation

/-!
# The health report

`get_connector_service_list` groups the live sockets of each route by their connector.  Hash maps
and sets are walked in any order, so the orders are a parameter.
-/

namespace CrankerRouter.Farm

open Lib

def CrankerVersion.text : CrankerVersion → String
  | .v1 => "cranker_1.0"
  | .v3 => "cranker_3.0"

/-- What a live socket answers to the report. -/
structure SocketInfo extends RouterSocket where
  componentName : String
  port : UInt16
  inflightCount : Int

structure ConnectorConnection where
  domain : String
  port : Int
  routerSocketId : SocketId
  protocol : String
  inflight : Int
  deriving DecidableEq

structure ConnectorInstance where
  ip : IpAddr
  connectorId : String
  connectionCount : Nat
  connections : List ConnectorConnection
  darkMode : Bool
  componentName : String
  deriving DecidableEq

structure ConnectorService where
  route : Route
  componentName : String
  connectors : List ConnectorInstance
  isCatchAll : Bool
  deriving DecidableEq

/-- The orders in which the set of routes and the map of instances of a route are walked. -/
structure IterationOrder where
  routes : List Route → List Route
  values : Route → List ConnectorInstance → List ConnectorInstance
  routes_perm : ∀ l, (routes l).Perm l
  values_perm : ∀ route l, (values route l).Perm l

section Report

variable (info : SocketId → SocketInfo) (alive : SocketId → Bool) (darkHosts : List DarkHost)

def ConnectorConnection.of (s : SocketId) : ConnectorConnection where
  domain := (info s).domain
  port := (info s).port.toNat
  routerSocketId := s
  protocol := (info s).crankerVersion.text
  inflight := (info s).inflightCount

/-- The instance of a connector whose first socket is found. -/
def ConnectorInstance.of (s : SocketId) : ConnectorInstance where
  ip := (info s).remoteIp
  connectorId := (info s).connectorId
  connectionCount := 0
  connections := []
  darkMode := (info s).isDarkModeOn darkHosts
  componentName := (info s).componentName

def ConnectorInstance.push (inst : ConnectorInstance) (c : ConnectorConnection) :
    ConnectorInstance :=
  { inst with connections := inst.connections ++ [c], connectionCount := inst.connectionCount + 1 }

/-- The instances found so far, by connector id, and the component name of the last live socket. -/
abbrev Gathered := List (String × ConnectorInstance) × Option String

/-- The body of the loop over the references of a route. -/
def gather (acc : Gathered) (s : SocketId) : Gathered :=
  if alive s then
    (Assoc.upsert (info s).connectorId
        (fun inst => (inst.getD (.of info darkHosts s)).push (.of info s)) acc.1,
      some (info s).componentName)
  else acc

/-- `a.connections.first().map(|c| c.protocol.as_str()).unwrap_or("")`. -/
def ConnectorInstance.protocol (inst : ConnectorInstance) : String :=
  (inst.connections.head?.map ConnectorConnection.protocol).getD ""

def connectorService (order : IterationOrder) (route : Route) (refs : List SocketId) :
    ConnectorService :=
  let acc := refs.foldl (gather info alive darkHosts) ([], none)
  { route := route
    componentName := acc.2.getD "[UNKNOWN]"
    connectors := (order.values route (acc.1.map Prod.snd)).mergeSort
      fun a b => decide (a.protocol ≤ b.protocol)
    isCatchAll := route == "*" }

def getConnectorServiceList (order : IterationOrder)
    (sockets : AList (fun _ : Route => List SocketId)) : List ConnectorService :=
  (order.routes sockets.keys).map fun route =>
    connectorService info alive darkHosts order route ((sockets.lookup route).getD [])

end Report

/-- `get_sockets`: each route is inserted with the references to its sockets. -/
def getSockets (f : WebSocketFarm) : AList (fun _ : Route => List SocketId) :=
  f.socketMap.entries.toAList

/-! ### One route -/

section Route

variable {info : SocketId → SocketInfo} {alive : SocketId → Bool} {darkHosts : List DarkHost}

/-- The connections of an instance, under its connector id. -/
def ConnectorInstance.entries (inst : ConnectorInstance) : List (String × ConnectorConnection) :=
  inst.connections.map fun c => (inst.connectorId, c)

/-- What the report says of a live socket. -/
def entryOf (info : SocketId → SocketInfo) (s : SocketId) : String × ConnectorConnection :=
  ((info s).connectorId, .of info s)

/-- The instances stand for the live sockets seen so far. -/
structure Groups (info : SocketId → SocketInfo) (live : List SocketId)
    (es : List (String × ConnectorInstance)) : Prop where
  nodup : (es.map Prod.fst).Nodup
  sound : ∀ e ∈ es, e.2.connectorId = e.1 ∧ e.2.connectionCount = e.2.connections.length
  entries : (es.flatMap fun e => e.2.connections.map fun c => (e.1, c)).Perm
    (live.map (entryOf info))

private theorem Groups.gather (alive : SocketId → Bool) (darkHosts : List DarkHost)
    {live : List SocketId}
    {acc : Gathered} (h : Groups info live acc.1) (s : SocketId) :
    Groups info (live ++ [s].filter alive) (Farm.gather info alive darkHosts acc s).1 := by
  unfold Farm.gather
  split_ifs with hs
  · refine ⟨Assoc.nodup_keys_upsert _ _ h.nodup, ?_, ?_⟩
    · refine Assoc.forall_mem_upsert ⟨rfl, rfl⟩ ?_ h.sound
      rintro inst ⟨hid, hcount⟩
      have hcount : inst.connectionCount = inst.connections.length := hcount
      exact ⟨hid, by simp [ConnectorInstance.push, hcount]⟩
    · have hlive : (live ++ [s].filter alive).map (entryOf info) =
          live.map (entryOf info) ++ [entryOf info s] := by simp [hs]
      rw [hlive]
      refine (Assoc.flatMap_upsert (b := entryOf info s) rfl ?_ acc.1).trans ?_
      · intro inst
        simp [ConnectorInstance.push, entryOf]
      · exact (h.entries.cons _).trans (List.perm_append_singleton _ _).symm
  · simpa [hs] using h

private theorem groups_foldl (alive : SocketId → Bool) (darkHosts : List DarkHost)
    {live : List SocketId}
    {acc : Gathered} (h : Groups info live acc.1) (refs : List SocketId) :
    Groups info (live ++ refs.filter alive)
      (refs.foldl (Farm.gather info alive darkHosts) acc).1 := by
  induction refs generalizing live acc with
  | nil => simpa using h
  | cons s refs ih =>
      have hnext := ih (h.gather alive darkHosts s)
      rw [List.append_assoc, ← List.filter_append] at hnext
      exact hnext

def ConnectorService.entries (service : ConnectorService) : List (String × ConnectorConnection) :=
  service.connectors.flatMap ConnectorInstance.entries

/-- The entries of a service for one socket. -/
def ConnectorService.entriesOf (service : ConnectorService) (s : SocketId) :
    List (String × ConnectorConnection) :=
  service.entries.filter fun e => e.2.routerSocketId == s

/-- The service partitions the references of its route: a live socket has one entry for each of
them, under the instance of its own connector, and a dead one has none. -/
structure Partitions (info : SocketId → SocketInfo) (alive : SocketId → Bool)
    (refs : List SocketId) (service : ConnectorService) : Prop where
  distinct : (service.connectors.map ConnectorInstance.connectorId).Nodup
  counted : ∀ inst ∈ service.connectors, inst.connectionCount = inst.connections.length
  live : ∀ s, alive s = true → service.entriesOf s = List.replicate (refs.count s) (entryOf info s)
  dead : ∀ s, alive s = false → service.entriesOf s = []

private theorem groups_route (alive : SocketId → Bool) (darkHosts : List DarkHost)
    (refs : List SocketId) :
    Groups info (refs.filter alive)
      (refs.foldl (Farm.gather info alive darkHosts) ([], none)).1 := by
  have hnew : Groups info [] (([], none) : Gathered).1 := ⟨List.nodup_nil, by simp, .refl _⟩
  exact groups_foldl alive darkHosts hnew refs

private theorem connectors_perm (order : IterationOrder) (route : Route) (refs : List SocketId) :
    (connectorService info alive darkHosts order route refs).connectors.Perm
      ((refs.foldl (Farm.gather info alive darkHosts) ([], none)).1.map Prod.snd) :=
  (List.mergeSort_perm _ _).trans (order.values_perm route _)

private theorem connectorService_entries (order : IterationOrder) (route : Route)
    (refs : List SocketId) :
    (connectorService info alive darkHosts order route refs).entries.Perm
      ((refs.filter alive).map (entryOf info)) := by
  have hgroups : Groups info _ _ := groups_route alive darkHosts refs
  refine ((connectors_perm order route refs).flatMap_right _).trans ?_
  rw [List.flatMap_map]
  have hsame : ∀ e ∈ (refs.foldl (Farm.gather info alive darkHosts) ([], none)).1,
      e.2.entries = e.2.connections.map fun c => (e.1, c) := by
    intro e he
    rw [ConnectorInstance.entries, (hgroups.sound e he).1]
  rw [List.flatMap_congr hsame]
  exact hgroups.entries

private theorem entriesOf_eq {service : ConnectorService} {live : List SocketId}
    (h : service.entries.Perm (live.map (entryOf info))) (s : SocketId) :
    service.entriesOf s = List.replicate (live.count s) (entryOf info s) := by
  have hperm := h.filter fun e : String × ConnectorConnection => e.2.routerSocketId == s
  rw [List.filter_map] at hperm
  have hsame : live.filter ((fun e => e.2.routerSocketId == s) ∘ entryOf info) =
      List.replicate (live.count s) s := List.filter_beq s
  rw [hsame, List.map_replicate] at hperm
  exact List.perm_replicate.mp hperm

private theorem connectorService_partitions (order : IterationOrder) (route : Route)
    (refs : List SocketId) :
    Partitions info alive refs (connectorService info alive darkHosts order route refs) := by
  have hgroups : Groups info _ _ := groups_route alive darkHosts refs
  refine ⟨?_, ?_, ?_, ?_⟩
  · have hids : ((refs.foldl (Farm.gather info alive darkHosts) ([], none)).1.map Prod.snd).map
        ConnectorInstance.connectorId =
        (refs.foldl (Farm.gather info alive darkHosts) ([], none)).1.map Prod.fst := by
      rw [List.map_map]
      exact List.map_congr_left fun e he => (hgroups.sound e he).1
    rw [((connectors_perm order route refs).map _).nodup_iff, hids]
    exact hgroups.nodup
  · intro inst hinst
    obtain ⟨e, he, rfl⟩ := List.mem_map.mp ((connectors_perm order route refs).subset hinst)
    exact (hgroups.sound e he).2
  · intro s hs
    rw [entriesOf_eq (connectorService_entries order route refs), List.count_filter hs]
  · intro s hs
    have hdead : s ∉ refs.filter alive := by simp [hs]
    rw [entriesOf_eq (connectorService_entries order route refs),
      List.count_eq_zero_of_not_mem hdead, List.replicate_zero]

end Route

/-- The health report has one service for each route of the map, and within it distinct
connectors, the right connection counts, one entry under its own connector for each reference to a
live socket, so exactly one for a socket listed once, and none for a dead one. -/
theorem health_report_partitions (info : SocketId → SocketInfo) (alive : SocketId → Bool)
    (darkHosts : List DarkHost) (order : IterationOrder)
    (sockets : AList (fun _ : Route => List SocketId)) :
    let report := getConnectorServiceList info alive darkHosts order sockets
    (report.map ConnectorService.route).Nodup ∧
      (∀ route, route ∈ report.map ConnectorService.route ↔ route ∈ sockets) ∧
      ∀ service ∈ report, ∃ refs, sockets.lookup service.route = some refs ∧
        Partitions info alive refs service := by
  intro report
  have hroutes : report.map ConnectorService.route = order.routes sockets.keys := by
    simp only [report, getConnectorServiceList, List.map_map]
    exact List.map_id _
  have hperm := order.routes_perm sockets.keys
  refine ⟨?_, ?_, ?_⟩
  · rw [hroutes, hperm.nodup_iff]
    exact sockets.keys_nodup
  · intro route
    rw [hroutes, hperm.mem_iff, AList.mem_keys]
  · intro service hservice
    obtain ⟨route, hroute, rfl⟩ := List.mem_map.mp hservice
    have hmem : route ∈ sockets := AList.mem_keys.mp (hperm.subset hroute)
    obtain ⟨refs, hrefs⟩ := Option.isSome_iff_exists.mp (AList.lookup_isSome.mpr hmem)
    refine ⟨refs, hrefs, ?_⟩
    rw [hrefs]
    exact connectorService_partitions order route refs

/-- A live socket that is listed twice. -/
def listedTwice : AList (fun _ : Route => List SocketId) := AList.singleton "orders" [0, 0]

/-- The function takes any lists: a socket listed twice has two connection entries. -/
theorem listed_twice_reported_twice :
    ∃ info order, ∃ service ∈ getConnectorServiceList info (fun _ => true) [] order listedTwice,
      service.route = "orders" ∧ (service.entriesOf 0).length = 2 := by
  let info : SocketId → SocketInfo :=
    fun _ => ⟨⟨"orders", "*", "connector", .v3, 1⟩, "orders", 1, 0⟩
  let order : IterationOrder := ⟨id, fun _ => id, fun _ => .refl _, fun _ _ => .refl _⟩
  have hparts : Partitions info (fun _ => true) [0, 0]
      (connectorService info (fun _ => true) [] order "orders" [0, 0]) :=
    connectorService_partitions order "orders" [0, 0]
  refine ⟨info, order, _, List.mem_map.mpr ⟨"orders", List.mem_singleton_self _, rfl⟩, rfl, ?_⟩
  have hlist : (listedTwice.lookup "orders").getD [] = [0, 0] := by decide +kernel
  rw [hlist, hparts.live 0 rfl]
  rfl

/-! ### The farm's own report

The farm keeps the sockets of a route by their id, so what it reports lists none of them twice. -/

private theorem lookup_getSockets (f : WebSocketFarm) (k : Route) :
    (getSockets f).lookup k = f.socketMap.lookup k :=
  AList.lookup_to_alist _

def ListedOnce (f : WebSocketFarm) : Prop := ∀ k, (f.socketsOf k).Nodup

theorem ListedOnce.congr {f f' : WebSocketFarm} (h : ListedOnce f)
    (hmap : f'.socketMap = f.socketMap) : ListedOnce f' := by
  intro k
  rw [WebSocketFarm.socketsOf, hmap]
  exact h k

theorem ListedOnce.addIdle {f : WebSocketFarm} (h : ListedOnce f) (n : Int) :
    ListedOnce (f.addIdle n) :=
  h.congr rfl

theorem ListedOnce.setSockets {f : WebSocketFarm} (h : ListedOnce f) (k : Route)
    {l : List SocketId} (hl : l.Nodup) : ListedOnce (f.setSockets k l) := by
  intro k'
  rw [socketsOf_setSockets]
  split_ifs
  · exact hl
  · exact h k'

theorem ListedOnce.erase {f f' : WebSocketFarm} (h : ListedOnce f) {k : Route}
    (hmap : f'.socketMap = f.socketMap.erase k) : ListedOnce f' := by
  intro k'
  rw [socketsOf_erase hmap]
  split_ifs
  · exact List.nodup_nil
  · exact h k'

private theorem Transition.listedOnce {dir : SocketId → RouterSocket} {f f' : WebSocketFarm}
    {t : Task}
    {c : Choice} {ts : List Task} (h : Transition dir f t c f' ts) (hf : ListedOnce f) :
    ListedOnce f' := by
  cases h with
  | acquisition _ hsame _ => exact hf.congr hsame.socketMap
  | addInsert s _ _ => exact hf.setSockets _ ((hf _).insert)
  | addSend s _ => exact hf.congr (openChan_frame f (dir s).route).1
  | removeFound s _ _ => exact hf.setSockets _ ((hf _).erase s)
  | retain k _ _ sockets _ hk =>
      have hsockets : f.socketsOf k = sockets := by simp [WebSocketFarm.socketsOf, hk]
      have hnodup : sockets.Nodup := hsockets ▸ hf k
      exact (hf.congr rfl : ListedOnce (f.recordRemoval k _)).setSockets k (hnodup.filter _)
  | cleanEntry _ k _ | terminate _ _ k => exact hf.erase (k := k) rfl
  | addCount | decrement | closeCount => exact hf.addIdle _
  | _ => exact hf.congr rfl

private theorem listedOnce_of_reachable {dir : SocketId → RouterSocket} {p : FarmPool}
    (h : (machine dir).Reachable Machine.anyAction p) : ListedOnce p.shared := by
  refine h.invariant (P := fun p => ListedOnce p.shared) ?_ ?_
  · rintro p rfl k
    exact List.nodup_nil
  · intro p a q hp _ hstep
    rcases step_cases dir hstep with
      ⟨i, c, l, t, r, f, ts, rfl, -, -, hexec, rfl⟩ | ⟨e, rfl, -, rfl⟩
    · exact (exec_transition hexec).listedOnce hp
    · obtain ⟨-, -, -, -, hmap, -⟩ := Env.apply_frame p.shared e
      exact hp.congr hmap

/-- In every state of the farm each live socket in the map has exactly one entry in the report. -/
theorem farm_report_once (info : SocketId → SocketInfo) (order : IterationOrder) {p : FarmPool}
    (h : (machine fun s => (info s).toRouterSocket).Reachable Machine.anyAction p)
    {service : ConnectorService}
    (hservice : service ∈ getConnectorServiceList info p.shared.alive p.shared.darkHosts order
      (getSockets p.shared)) {s : SocketId} (hs : s ∈ p.shared.socketsOf service.route)
    (halive : p.shared.alive s = true) : service.entriesOf s = [entryOf info s] := by
  obtain ⟨route, -, rfl⟩ := List.mem_map.mp hservice
  have hrefs : ((getSockets p.shared).lookup route).getD [] = p.shared.socketsOf route := by
    rw [lookup_getSockets, WebSocketFarm.socketsOf]
  have hs : s ∈ p.shared.socketsOf route := hs
  have hcount := List.count_eq_one_of_mem (listedOnce_of_reachable h route) hs
  rw [hrefs, (connectorService_partitions order route _).live s halive, hcount]
  rfl

end CrankerRouter.Farm
