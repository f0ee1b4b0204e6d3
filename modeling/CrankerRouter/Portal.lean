import CrankerRouter.Farm.Registration
import CrankerRouter.Http.Builder

/-!
# The registration portal

A connector registers by a request that is checked first and then upgraded to a websocket, and
deregisters by a request that is checked and starts the removal of its sockets.  The two handlers
stand in front of the router: no other way leads into the farm.
-/

namespace CrankerRouter.Portal

open Lib Farm

/-- What the handlers read of a request.  `isUpgrade` says that it is a websocket handshake, and
`uuid` is drawn for a connector that gives no id. -/
structure PortalRequest where
  isTrace : Bool
  params : String → Option String
  headers : Http.HeaderMap
  ip : IpAddr
  isUpgrade : Bool
  uuid : String

/-- How a request is answered.  `missingExtension` is the answer to a handler that finds no value
of the type it asks for, `goodbye` an upgrade after which the websocket is closed. -/
inductive Answer
  | refused (status : Nat) (text : String)
  | noHandshake
  | missingExtension
  | upgraded (crankerProtocol : String)
  | goodbye (frame : CloseFrame)
  | panicked
  deriving DecidableEq

structure CrankerConnectorInfo where
  connectorId : String
  route : Route
  componentName : String
  domain : String
  negotiatedCrankerVersion : String

def routeHeader : Http.HeaderName := ⟨"route", by decide⟩

def domainHeader : Http.HeaderName := ⟨"domain", by decide⟩

namespace PortalRequest

variable (req : PortalRequest)

/-- The first value of a header if it is text, `*` otherwise. -/
def headerOrStar (k : Http.HeaderName) : String :=
  ((req.headers.get k).bind Http.HeaderValue.toStr).getD "*"

end PortalRequest

section Handlers

-- `ipText` prints an address, `debug` a header.
variable (ipText : IpAddr → String) (debug : Option Http.HeaderValue → String)
  (config : Http.CrankerRouterConfig)

def failedAtIpValidation (ip : IpAddr) (route : Route) (connectorId : String) : Answer :=
  .refused 403 ("Fail to establish websocket connection to cranker connector because of not " ++
    "supported ip address=" ++ ipText ip ++ ". Route=" ++ route ++ ". Connector Id=" ++ connectorId)

def regCheckAndExtract (req : PortalRequest) : Except Answer CrankerConnectorInfo :=
  if req.isTrace then .error (.refused 405 "Method not allowed.")
  else
    let connectorId := (req.params "connectorInstanceID").getD req.uuid
    let route := req.headerOrStar routeHeader
    if !config.registrationIpValidator req.ip then
      .error (failedAtIpValidation ipText req.ip route connectorId)
    else
      let componentName := (req.params "componentName").getD
        ("unknown-" ++ String.ofList (connectorId.toList.take 5))
      let domain := req.headerOrStar domainHeader
      match Http.extractCrankerVersion debug (config.supportedCrankerProtocols.lookup ·)
        req.headers with
      | .panicked => .error .panicked
      | .refused crex => .error (.refused 400
          ("Failed to negotiate cranker version: Cranker router exception: " ++ crex.reason))
      | .version v => .ok ⟨connectorId, route, componentName, domain, v⟩

/-- `register_handler` behind its check. -/
def registerHandler (req : PortalRequest) : Except Answer CrankerConnectorInfo :=
  match regCheckAndExtract ipText debug config req with
  | .error answer => .error answer
  | .ok cif => if req.isUpgrade then .ok cif else .error .noHandshake

def registerAnswer (req : PortalRequest) : Answer :=
  match registerHandler ipText debug config req with
  | .error answer => answer
  | .ok cif => .upgraded cif.negotiatedCrankerVersion

/-- What `harvest_router_socket` gives to the farm; a version of neither kind closes the
websocket. -/
def harvestRouterSocket (cif : CrankerConnectorInfo) (addr : IpAddr) : Option RouterSocket :=
  if cif.negotiatedCrankerVersion = "cranker_1.0" then
    some ⟨cif.route, "*", cif.connectorId, .v1, addr⟩
  else if cif.negotiatedCrankerVersion = "cranker_3.0" then
    some ⟨cif.route, cif.domain, cif.connectorId, .v3, addr⟩
  else none

/-- The route and the connector to deregister; none if no connector is named. -/
def deRegCheck (req : PortalRequest) : Except Answer (Option (Route × String)) :=
  let route := req.headerOrStar routeHeader
  let connectorId := req.params "connectorInstanceID"
  if !config.registrationIpValidator req.ip then
    .error (failedAtIpValidation ipText req.ip route (connectorId.getD "N/A"))
  else .ok (connectorId.map fun id => (route, id))

/-- `de_register_handler` behind its check.  Without a connector id the check inserts a unit where
the handler asks for a `String`. -/
def deRegisterHandler (req : PortalRequest) : Answer :=
  match deRegCheck ipText config req with
  | .error answer => answer
  | .ok none => .missingExtension
  | .ok (some _) => if req.isUpgrade then .goodbye ⟨1000, "Deregister complete"⟩ else .noHandshake

end Handlers

/-! ### The portal in front of the router -/

/-- A registration that passed the check, with what was read from it. -/
abbrev Admission := PortalRequest × CrankerConnectorInfo

/-- The router behind its portal.  `pending` are the registrations whose websocket is not there
yet; `admitted`, `deRegistered` and `answers` are history. -/
structure PortalState where
  router : RouterPool
  pending : List Admission
  admitted : List Admission
  deRegistered : List (PortalRequest × Route × String)
  answers : List (PortalRequest × Answer)

def PortalState.answer (p : PortalState) (req : PortalRequest) (answer : Answer) : PortalState :=
  { p with answers := (req, answer) :: p.answers }

inductive PortalLabel
  | register (req : PortalRequest)
  | harvest (i : Nat) (s : SocketId)
  | lose (i : Nat)
  | deRegister (req : PortalRequest)
  | router (a : RouterLabel)

/-- These steps of the router are taken by the portal only. -/
def ofPortal : RouterLabel → Bool
  | .connect _ => true
  | .farm (.env (.deRegister _ _)) => true
  | _ => false

section Machine

variable (ipText : IpAddr → String) (debug : Option Http.HeaderValue → String)
  (config : Http.CrankerRouterConfig) (dir : SocketId → RouterSocket)

/-- One step: a request is answered, a websocket comes about or is lost, or the router takes a step
of its own.  The deregistration is started before the handler looks at the handshake. -/
def portalStep (p : PortalState) : PortalLabel → Option PortalState
  | .register req =>
      let p := p.answer req (registerAnswer ipText debug config req)
      match registerHandler ipText debug config req with
      | .error _ => some p
      | .ok cif => some { p with
          pending := p.pending ++ [(req, cif)], admitted := (req, cif) :: p.admitted }
  | .harvest i s =>
      match p.pending[i]? with
      | none => none
      | some (req, cif) =>
          match harvestRouterSocket cif req.ip with
          | none => some { p with pending := p.pending.eraseIdx i }
          | some rs =>
              if rs = dir s then
                (routerStep dir p.router (.connect s)).map fun q =>
                  { p with router := q, pending := p.pending.eraseIdx i }
              else none
  | .lose i => some { p with pending := p.pending.eraseIdx i }
  | .deRegister req =>
      let p := p.answer req (deRegisterHandler ipText config req)
      match deRegCheck ipText config req with
      | .error _ | .ok none => some p
      | .ok (some (route, id)) =>
          (routerStep dir p.router (.farm (.env (.deRegister route id)))).map fun q =>
            { p with router := q, deRegistered := (req, route, id) :: p.deRegistered }
  | .router a =>
      if ofPortal a then none
      else (routerStep dir p.router a).map fun q => { p with router := q }

def portalMachine : Machine PortalState PortalLabel where
  init := fun p => p = ⟨⟨.new, []⟩, [], [], [], []⟩
  step := portalStep ipText debug config dir

end Machine

/-! ### Ways into the farm -/

section Router

variable {dir : SocketId → RouterSocket} {p q : RouterPool} {a : RouterLabel}

private theorem routerStep_connected (h : routerStep dir p a = some q) (ha : ∀ s, a ≠ .connect s) :
    q.shared.connected = p.shared.connected := by
  cases a with
  | connect s => exact absurd rfl (ha s)
  | farm b =>
      simp only [routerStep] at h
      split_ifs at h
      obtain ⟨g, -, rfl⟩ := Option.map_eq_some_iff.mp h
      rfl
  | pipe i c =>
      obtain ⟨l, t, r, x, ts, -, -, hexec, rfl⟩ := Pool.step_cases h
      obtain ⟨t', -, hmove⟩ := execPipe_cases hexec
      exact hmove.connected_eq
  | _ =>
      simp only [routerStep] at h
      split_ifs at h
      obtain rfl := Option.some.inj h
      rfl

private theorem step_added {f g : FarmPool} {b : Label} (hcons : Conserved dir f.shared f.tasks)
    (h : step dir f b = some g) :
    g.shared.added = f.shared.added ∨
      ∃ s, b = .env (.add s) ∧ g.shared.added = s :: f.shared.added := by
  rcases step_cases dir h with ⟨i, c, l, t, r, f', ts, -, -, htasks, hexec, rfl⟩ | ⟨e, rfl, -, rfl⟩
  · rw [htasks] at hcons
    exact .inl (hcons.effect hexec).added
  · rcases Env.apply_added f.shared e with ⟨u, rfl, hu⟩ | ⟨-, hsame⟩
    · exact .inr ⟨u, rfl, hu⟩
    · exact .inl hsame

private theorem routerStep_added (hcons : Conserved dir p.shared.farm.shared p.shared.farm.tasks)
    (h : routerStep dir p a = some q) :
    q.shared.farm.shared.added = p.shared.farm.shared.added ∨
      ∃ s ∈ p.shared.connected, q.shared.farm.shared.added = s :: p.shared.farm.shared.added := by
  cases a with
  | farm b =>
      simp only [routerStep] at h
      split_ifs at h with henabled
      obtain ⟨g, hstep, rfl⟩ := Option.map_eq_some_iff.mp h
      rcases step_added hcons hstep with hsame | ⟨s, rfl, hs⟩
      · exact .inl hsame
      · exact .inr ⟨s, by simpa [farmEnabled] using henabled, hs⟩
  | pipe i c =>
      obtain ⟨l, t, r, x, ts, -, -, hexec, rfl⟩ := Pool.step_cases h
      obtain ⟨t', -, hmove⟩ := execPipe_cases hexec
      rcases hmove.farm with heq | hb | hb
      · exact .inl (by rw [heq])
      · rcases step_added hcons hb with hsame | ⟨s, hs, -⟩
        · exact .inl hsame
        · cases hs
      · rcases step_added hcons hb with hsame | ⟨s, hs, -⟩
        · exact .inl hsame
        · cases hs
  | _ =>
      simp only [routerStep] at h
      split_ifs at h
      obtain rfl := Option.some.inj h
      exact .inl rfl

end Router

/-! ### Ways out of the farm -/

section Out

variable {dir : SocketId → RouterSocket}

private theorem deRegister_of_transition {f f' : WebSocketFarm} {t : Task} {c : Choice}
    {ts : List Task}
    (h : Transition dir f t c f' ts) {k : Route} {id : String} {pc : DeRegisterPc}
    (ht : Task.deRegister k id pc ∈ ts) : ∃ pc', t = .deRegister k id pc' := by
  cases h with
  | acquisition _ _ hts =>
      rcases hts _ ht with hacq | ⟨s, hs, -⟩
      · cases hacq
      · cases hs
  | cleanStay cutOff c ts hts => rcases hts with rfl | rfl <;> simp at ht
  | collect | retainNone | retain | closeActive | closeIdle | closeStore | closeCount =>
      simp only [List.mem_singleton, Task.deRegister.injEq] at ht
      obtain ⟨rfl, rfl, -⟩ := ht
      exact ⟨_, rfl⟩
  | _ => simp at ht

private theorem step_deRegister {f g : FarmPool} {b : Label} (h : step dir f b = some g) {k : Route}
    {id : String} {pc : DeRegisterPc} (ht : Task.deRegister k id pc ∈ g.tasks) :
    (∃ pc', Task.deRegister k id pc' ∈ f.tasks) ∨ b = .env (.deRegister k id) := by
  rcases step_cases dir h with ⟨i, c, l, t, r, f', ts, -, -, htasks, hexec, rfl⟩ | ⟨e, rfl, -, rfl⟩
  · left
    rw [htasks]
    simp only [List.mem_append] at ht
    rcases ht with (ht | ht) | ht
    · exact ⟨pc, by simp [ht]⟩
    · obtain ⟨pc', rfl⟩ := deRegister_of_transition (exec_transition hexec) ht
      exact ⟨pc', by simp⟩
    · exact ⟨pc, by simp [ht]⟩
  · rcases List.mem_append.mp ht with ht | ht
    · exact .inl ⟨pc, ht⟩
    · right
      cases e <;> simp [Env.spawned] at ht
      obtain ⟨rfl, rfl, -⟩ := ht
      rfl

private theorem routerStep_deRegister {p q : RouterPool} {a : RouterLabel}
    (h : routerStep dir p a = some q) {k : Route} {id : String} {pc : DeRegisterPc}
    (ht : Task.deRegister k id pc ∈ q.shared.farm.tasks) :
    (∃ pc', Task.deRegister k id pc' ∈ p.shared.farm.tasks) ∨
      a = .farm (.env (.deRegister k id)) := by
  cases a with
  | farm b =>
      simp only [routerStep] at h
      split_ifs at h
      obtain ⟨g, hstep, rfl⟩ := Option.map_eq_some_iff.mp h
      rcases step_deRegister hstep ht with hold | rfl
      · exact .inl hold
      · exact .inr rfl
  | pipe i c =>
      obtain ⟨l, t, r, x, ts, -, -, hexec, rfl⟩ := Pool.step_cases h
      obtain ⟨t', -, hmove⟩ := execPipe_cases hexec
      rcases hmove.farm with heq | hb | hb
      · exact .inl ⟨pc, heq ▸ ht⟩
      · rcases step_deRegister hb ht with hold | hnew
        · exact .inl hold
        · cases hnew
      · rcases step_deRegister hb ht with hold | hnew
        · exact .inl hold
        · cases hnew
  | _ =>
      simp only [routerStep] at h
      split_ifs at h
      obtain rfl := Option.some.inj h
      exact .inl ⟨pc, ht⟩

/-- The tasks that take a socket out of the map. -/
def takesOut (dir : SocketId → RouterSocket) (s : SocketId) : Task → Prop
  | .remove t .lookup => t = s
  | .deRegister k id (.retain _) => k = (dir s).route ∧ id = (dir s).connectorId
  | .terminateAll _ _ => True
  | _ => False

private theorem registered_setSockets {f : WebSocketFarm} {k : Route} {l : List SocketId}
    {s : SocketId}
    (hs : Registered dir f s) (hl : (dir s).route = k → s ∈ l) :
    Registered dir (f.setSockets k l) s := by
  rw [Registered, socketsOf_setSockets]
  split_ifs with hk
  · exact hl hk
  · exact hs

private theorem takesOut_of_transition {f f' : WebSocketFarm} {t : Task} {c : Choice}
    {ts : List Task}
    (h : Transition dir f t c f' ts) (hclean : ∀ k, 0 < t.cleaning k → f.socketsOf k = [])
    {s : SocketId} (hs : Registered dir f s) (hno : ¬Registered dir f' s) : takesOut dir s t := by
  cases h with
  | acquisition _ hf _ => exact absurd ((registered_congr hf.socketMap s).mpr hs) hno
  | addInsert u c hlocked =>
      refine absurd (registered_setSockets hs fun hk => ?_) hno
      exact List.mem_insert_of_mem (hk ▸ hs)
  | addSend u c =>
      exact absurd ((registered_congr (openChan_frame f (dir u).route).1 s).mpr hs) hno
  | removeFound u c hreg =>
      by_contra hne
      refine hno (registered_setSockets hs fun hk => ?_)
      exact (List.mem_erase_of_ne fun heq => hne heq.symm).mpr (hk ▸ hs)
  | retain k id l sockets time hk =>
      by_contra hne
      have hset : Registered dir (f.setSockets k
          (sockets.filter fun s => !((dir s).connectorId == id))) s := by
        refine registered_setSockets hs fun hroute => ?_
        have hmem : s ∈ sockets := by
          rw [Registered, WebSocketFarm.socketsOf, hroute, hk] at hs
          exact hs
        have hother : ¬(dir s).connectorId = id := fun hid => hne ⟨hroute.symm, hid.symm⟩
        exact List.mem_filter.mpr ⟨hmem, by simpa using hother⟩
      exact hno hset
  | cleanEntry cutOff k c =>
      refine absurd ?_ hno
      rw [Registered, socketsOf_erase (f := f) rfl]
      split_ifs with hk
      · have hnone := hclean k (by simp [Task.cleaning])
        rw [Registered, hk, hnone] at hs
        cases hs
      · exact hs
  | terminate => trivial
  | addCount | decrement | closeCount => exact absurd ((registered_addIdle f _ s).mpr hs) hno
  | _ => exact absurd hs hno

private theorem step_takesOut {f g : FarmPool} {b : Label} {s : SocketId}
    (hcons : Conserved dir f.shared f.tasks) (h : step dir f b = some g)
    (hs : Registered dir f.shared s) (hno : ¬Registered dir g.shared s) :
    ∃ i c t, b = .task i c ∧ f.tasks[i]? = some t ∧ takesOut dir s t := by
  rcases step_cases dir h with ⟨i, c, l, t, r, f', ts, rfl, hi, htasks, hexec, rfl⟩ |
    ⟨e, rfl, -, rfl⟩
  · rw [htasks] at hcons
    have hclean : ∀ k, 0 < t.cleaning k → f.shared.socketsOf k = [] :=
      fun k hk => hcons.empty k (hcons.locked hk)
    exact ⟨i, c, t, rfl, hi, takesOut_of_transition (exec_transition hexec) hclean hs hno⟩
  · exact absurd ((registered_congr (Env.apply_frame f.shared e).2.2.2.2.1 s).mpr hs) hno

private theorem routerStep_takesOut {p q : RouterPool} {a : RouterLabel} {s : SocketId}
    (hcons : Conserved dir p.shared.farm.shared p.shared.farm.tasks)
    (h : routerStep dir p a = some q) (hs : Registered dir p.shared.farm.shared s)
    (hno : ¬Registered dir q.shared.farm.shared s) :
    ∃ i c t, a = .farm (.task i c) ∧ p.shared.farm.tasks[i]? = some t ∧ takesOut dir s t := by
  rcases routerStep_farm h with heq | ⟨b, hb, hlabel⟩
  · rw [heq] at hno
    exact absurd hs hno
  · obtain ⟨i, c, t, rfl, ht, hout⟩ := step_takesOut hcons hb hs hno
    exact ⟨i, c, t, hlabel i c rfl, ht, hout⟩

end Out

/-! ### Every run -/

section Guarded

variable (ipText : IpAddr → String) (debug : Option Http.HeaderValue → String)
  (config : Http.CrankerRouterConfig) (dir : SocketId → RouterSocket)

/-- The registration was allowed, and the socket is what was harvested from it. -/
structure Admits (e : Admission) (s : SocketId) : Prop where
  allowed : config.registrationIpValidator e.1.ip = true
  upgrade : e.1.isUpgrade = true
  extracted : regCheckAndExtract ipText debug config e.1 = .ok e.2
  harvested : harvestRouterSocket e.2 e.1.ip = some (dir s)

/-- The `origin` of a socket is the admission it was harvested from, counted from the first, and
`waiting` are those of the pending registrations.  No admission is counted twice. -/
structure Traced (connected : List SocketId) (pending admitted : List Admission)
    (origin : SocketId → Nat) (waiting : List Nat) : Prop where
  waits : waiting.map (admitted.reverse[·]?) = pending.map some
  nodup : waiting.Nodup
  harvested : ∀ s ∈ connected, ∃ e, admitted.reverse[origin s]? = some e ∧
    harvestRouterSocket e.2 e.1.ip = some (dir s)
  taken : ∀ s ∈ connected, origin s ∉ waiting
  injective : Set.InjOn origin {s | s ∈ connected}

/-- The invariant of the portal. -/
structure Guarded (p : PortalState) : Prop where
  conserved : Conserved dir p.router.shared.farm.shared p.router.shared.farm.tasks
  added : ∀ s ∈ p.router.shared.farm.shared.added, s ∈ p.router.shared.connected
  traced : ∃ origin waiting,
    Traced dir p.router.shared.connected p.pending p.admitted origin waiting
  admitted : ∀ e ∈ p.admitted, registerHandler ipText debug config e.1 = .ok e.2
  deRegistering : ∀ k id pc, Task.deRegister k id pc ∈ p.router.shared.farm.tasks →
    ∃ req, (req, k, id) ∈ p.deRegistered
  deRegistered : ∀ e ∈ p.deRegistered, deRegCheck ipText config e.1 = .ok (some e.2)
  answers : ∀ e ∈ p.answers, config.registrationIpValidator e.1.ip = false →
    ∃ status text, e.2 = .refused status text

variable {ipText debug config dir}

private theorem registerHandler_ok {req : PortalRequest} {cif : CrankerConnectorInfo}
    (h : registerHandler ipText debug config req = .ok cif) :
    regCheckAndExtract ipText debug config req = .ok cif ∧ req.isUpgrade = true ∧
      config.registrationIpValidator req.ip = true := by
  unfold registerHandler at h
  cases hcheck : regCheckAndExtract ipText debug config req with
  | error answer =>
      rw [hcheck] at h
      cases h
  | ok cif' =>
      simp only [hcheck] at h
      split_ifs at h with hupgrade
      obtain rfl := Except.ok.inj h
      refine ⟨rfl, hupgrade, ?_⟩
      unfold regCheckAndExtract at hcheck
      split_ifs at hcheck with htrace hallow
      simpa using hallow

private theorem deRegCheck_ok {req : PortalRequest} {k : Route} {id : String}
    (h : deRegCheck ipText config req = .ok (some (k, id))) :
    config.registrationIpValidator req.ip = true ∧
      req.params "connectorInstanceID" = some id ∧ req.headerOrStar routeHeader = k := by
  unfold deRegCheck at h
  split_ifs at h with hallow
  have hmap := Except.ok.inj h
  obtain ⟨id', hid, hpair⟩ := Option.map_eq_some_iff.mp hmap
  obtain ⟨hk, rfl⟩ := Prod.mk.inj hpair
  exact ⟨by simpa using hallow, hid, hk⟩

private theorem registerAnswer_of_not_allowed (ipText : IpAddr → String)
    (debug : Option Http.HeaderValue → String) (req : PortalRequest)
    (h : config.registrationIpValidator req.ip = false) :
    ∃ status text, registerAnswer ipText debug config req = .refused status text := by
  unfold registerAnswer registerHandler regCheckAndExtract failedAtIpValidation
  by_cases htrace : req.isTrace
  · simp [htrace]
  · simp [htrace, h]

private theorem deRegisterHandler_of_not_allowed (ipText : IpAddr → String) (req : PortalRequest)
    (h : config.registrationIpValidator req.ip = false) :
    ∃ status text, deRegisterHandler ipText config req = .refused status text := by
  unfold deRegisterHandler deRegCheck failedAtIpValidation
  simp [h]

section Traced

variable {connected : List SocketId} {pending admitted : List Admission} {origin : SocketId → Nat}
  {waiting : List Nat}

private theorem Traced.register (h : Traced dir connected pending admitted origin waiting)
    (e : Admission) :
    Traced dir connected (pending ++ [e]) (e :: admitted) origin (waiting ++ [admitted.length]) := by
  have hold : ∀ n, n < admitted.length →
      (e :: admitted).reverse[n]? = admitted.reverse[n]? := by
    intro n hn
    rw [List.reverse_cons, List.getElem?_append_left (by simpa using hn)]
  have hwaiting : ∀ n ∈ waiting, n < admitted.length := by
    intro n hn
    have hmem : admitted.reverse[n]? ∈ pending.map some := h.waits ▸ List.mem_map_of_mem hn
    obtain ⟨d, -, hd⟩ := List.mem_map.mp hmem
    simpa using (List.getElem?_eq_some_iff.mp hd.symm).1
  have horigin : ∀ s ∈ connected, origin s < admitted.length := by
    intro s hs
    obtain ⟨d, hd, -⟩ := h.harvested s hs
    simpa using (List.getElem?_eq_some_iff.mp hd).1
  refine ⟨?_, ?_, ?_, ?_, h.injective⟩
  · have hmap : waiting.map ((e :: admitted).reverse[·]?) = waiting.map (admitted.reverse[·]?) :=
      List.map_congr_left fun n hn => hold n (hwaiting n hn)
    rw [List.map_append, hmap, h.waits, List.map_append]
    simp
  · refine List.Nodup.append h.nodup (List.nodup_singleton _) ?_
    simpa using fun hmem => (hwaiting _ hmem).false
  · intro s hs
    rw [hold _ (horigin s hs)]
    exact h.harvested s hs
  · intro s hs hmem
    obtain hmem | hmem := List.mem_append.mp hmem
    · exact h.taken s hs hmem
    · exact (horigin s hs).ne (List.mem_singleton.mp hmem)

private theorem Traced.lose (h : Traced dir connected pending admitted origin waiting) (i : Nat) :
    Traced dir connected (pending.eraseIdx i) admitted origin (waiting.eraseIdx i) where
  waits := by rw [← List.eraseIdx_map, h.waits, List.eraseIdx_map]
  nodup := h.nodup.eraseIdx i
  harvested := h.harvested
  taken := fun s hs hmem => h.taken s hs (List.mem_of_mem_eraseIdx hmem)
  injective := h.injective

private theorem Traced.harvest (h : Traced dir connected pending admitted origin waiting) {i : Nat}
    {s : SocketId} {e : Admission} (hnew : s ∉ connected) (he : pending[i]? = some e)
    (hharvest : harvestRouterSocket e.2 e.1.ip = some (dir s)) :
    ∃ origin', Traced dir (s :: connected) (pending.eraseIdx i) admitted origin'
      (waiting.eraseIdx i) := by
  obtain ⟨n, hn, hadmitted⟩ : ∃ n, waiting[i]? = some n ∧ admitted.reverse[n]? = some e := by
    have hget := congrArg (·[i]?) h.waits
    simpa [he] using hget
  have hother : ∀ u ∈ connected, Function.update origin s n u = origin u := by
    intro u hu
    apply Function.update_of_ne
    rintro rfl
    exact hnew hu
  have hfree : ∀ u ∈ connected, origin u ≠ n := by
    rintro u hu rfl
    exact h.taken u hu (List.mem_of_getElem? hn)
  have hlose := h.lose i
  refine ⟨Function.update origin s n, hlose.waits, hlose.nodup, ?_, ?_, ?_⟩
  · intro u hu
    obtain rfl | hu := List.mem_cons.mp hu
    · exact ⟨e, by rwa [Function.update_self], hharvest⟩
    · rw [hother u hu]
      exact h.harvested u hu
  · intro u hu hmem
    obtain rfl | hu := List.mem_cons.mp hu
    · rw [Function.update_self] at hmem
      obtain ⟨j, hne, hj⟩ := List.mem_eraseIdx_iff_getElem?.mp hmem
      obtain ⟨hj, hjn⟩ := List.getElem?_eq_some_iff.mp hj
      obtain ⟨hi, hin⟩ := List.getElem?_eq_some_iff.mp hn
      exact hne (h.nodup.getElem_inj_iff.mp (hjn.trans hin.symm))
    · rw [hother u hu] at hmem
      exact hlose.taken u hu hmem
  · intro u hu v hv huv
    obtain rfl | hu' := List.mem_cons.mp hu <;> obtain rfl | hv' := List.mem_cons.mp hv
    · rfl
    · rw [Function.update_self, hother v hv'] at huv
      exact absurd huv.symm (hfree v hv')
    · rw [Function.update_self, hother u hu'] at huv
      exact absurd huv (hfree u hu')
    · rw [hother u hu', hother v hv'] at huv
      exact h.injective hu' hv' huv

end Traced

private theorem guarded_init : Guarded ipText debug config dir ⟨⟨.new, []⟩, [], [], [], []⟩ := by
  refine ⟨conserved_new, ?_, ⟨fun _ => 0, [], ?_⟩, ?_, ?_, ?_, ?_⟩
  case refine_2 => constructor <;> simp [Router.new]
  all_goals simp [Router.new, WebSocketFarm.new]

variable {p q : PortalState}

theorem Guarded.added_step (hp : Guarded ipText debug config dir p) {a : RouterLabel}
    {x : RouterPool} (h : routerStep dir p.router a = some x)
    (hconn : x.shared.connected = p.router.shared.connected) :
    ∀ s ∈ x.shared.farm.shared.added, s ∈ x.shared.connected := by
  intro s hs
  rw [hconn]
  rcases routerStep_added hp.conserved h with hsame | ⟨u, hu, hadd⟩
  · exact hp.added s (hsame ▸ hs)
  · rw [hadd, List.mem_cons] at hs
    rcases hs with rfl | hs
    · exact hu
    · exact hp.added s hs

theorem Guarded.router (hp : Guarded ipText debug config dir p) {a : RouterLabel} {x : RouterPool}
    (ha : ofPortal a = false) (h : routerStep dir p.router a = some x) :
    Guarded ipText debug config dir { p with router := x } := by
  have hconn : x.shared.connected = p.router.shared.connected := by
    refine routerStep_connected h ?_
    rintro s rfl
    cases ha
  refine ⟨routerStep_conserved hp.conserved h, hp.added_step h hconn, ?_, hp.admitted, ?_,
    hp.deRegistered, hp.answers⟩
  · rw [hconn]
    exact hp.traced
  · intro k id pc ht
    obtain ⟨pc', hpc⟩ : ∃ pc', Task.deRegister k id pc' ∈ p.router.shared.farm.tasks := by
      rcases routerStep_deRegister h ht with hold | hnew
      · exact hold
      · rw [hnew] at ha
        cases ha
    exact hp.deRegistering k id pc' hpc

private theorem connect_cases {x y : RouterPool} {s : SocketId}
    (h : routerStep dir x (.connect s) = some y) :
    s ∉ x.shared.connected ∧ y.shared.connected = s :: x.shared.connected ∧
      y.shared.farm = x.shared.farm := by
  simp only [routerStep] at h
  split_ifs at h with hnew
  obtain rfl := Option.some.inj h
  exact ⟨hnew, rfl, rfl⟩

private theorem Guarded.harvest (hp : Guarded ipText debug config dir p) {i : Nat} {s : SocketId}
    {e : Admission} (he : p.pending[i]? = some e)
    (hharvest : harvestRouterSocket e.2 e.1.ip = some (dir s)) {x : RouterPool}
    (h : routerStep dir p.router (.connect s) = some x) :
    Guarded ipText debug config dir { p with router := x, pending := p.pending.eraseIdx i } := by
  obtain ⟨hnew, hconn, hfarm⟩ := connect_cases h
  obtain ⟨origin, waiting, htraced⟩ := hp.traced
  refine ⟨hfarm ▸ hp.conserved, ?_, ?_, hp.admitted, ?_, hp.deRegistered, hp.answers⟩
  · intro u hu
    rw [hfarm] at hu
    rw [hconn]
    exact List.mem_cons_of_mem s (hp.added u hu)
  · obtain ⟨origin', htraced'⟩ := htraced.harvest hnew he hharvest
    exact ⟨origin', waiting.eraseIdx i, hconn ▸ htraced'⟩
  · intro k id pc ht
    rw [hfarm] at ht
    exact hp.deRegistering k id pc ht

theorem Guarded.answer (hp : Guarded ipText debug config dir p) {req : PortalRequest}
    {answer : Answer} (h : config.registrationIpValidator req.ip = false →
      ∃ status text, answer = .refused status text) :
    Guarded ipText debug config dir (p.answer req answer) where
  conserved := hp.conserved
  added := hp.added
  traced := hp.traced
  admitted := hp.admitted
  deRegistering := hp.deRegistering
  deRegistered := hp.deRegistered
  answers := by
    intro e he
    rcases List.mem_cons.mp he with rfl | he
    · exact h
    · exact hp.answers e he

private theorem Guarded.lose (hp : Guarded ipText debug config dir p) (i : Nat) :
    Guarded ipText debug config dir { p with pending := p.pending.eraseIdx i } where
  conserved := hp.conserved
  added := hp.added
  traced := by
    obtain ⟨origin, waiting, htraced⟩ := hp.traced
    exact ⟨origin, waiting.eraseIdx i, htraced.lose i⟩
  admitted := hp.admitted
  deRegistering := hp.deRegistering
  deRegistered := hp.deRegistered
  answers := hp.answers

private theorem Guarded.register (hp : Guarded ipText debug config dir p) {req : PortalRequest}
    {cif : CrankerConnectorInfo} (h : registerHandler ipText debug config req = .ok cif) :
    Guarded ipText debug config dir { p with
      pending := p.pending ++ [(req, cif)], admitted := (req, cif) :: p.admitted } where
  conserved := hp.conserved
  added := hp.added
  traced := by
    obtain ⟨origin, waiting, htraced⟩ := hp.traced
    exact ⟨origin, waiting ++ [p.admitted.length], htraced.register (req, cif)⟩
  admitted := by
    intro e he
    rcases List.mem_cons.mp he with rfl | he
    · exact h
    · exact hp.admitted e he
  deRegistering := hp.deRegistering
  deRegistered := hp.deRegistered
  answers := hp.answers

theorem Guarded.deRegister (hp : Guarded ipText debug config dir p) {req : PortalRequest}
    {route : Route} {id : String} (hcheck : deRegCheck ipText config req = .ok (some (route, id)))
    {x : RouterPool} (h : routerStep dir p.router (.farm (.env (.deRegister route id))) = some x) :
    Guarded ipText debug config dir { p with
      router := x, deRegistered := (req, route, id) :: p.deRegistered } := by
  have hconn := routerStep_connected h nofun
  refine ⟨routerStep_conserved hp.conserved h, hp.added_step h hconn, ?_, hp.admitted, ?_, ?_,
    hp.answers⟩
  · rw [hconn]
    exact hp.traced
  · intro k id' pc ht
    rcases routerStep_deRegister h ht with ⟨pc', hold⟩ | hnew
    · obtain ⟨req', hreq⟩ := hp.deRegistering k id' pc' hold
      exact ⟨req', List.mem_cons_of_mem _ hreq⟩
    · cases hnew
      exact ⟨req, List.mem_cons_self⟩
  · intro e he
    rcases List.mem_cons.mp he with rfl | he
    · exact hcheck
    · exact hp.deRegistered e he

theorem Guarded.step (hp : Guarded ipText debug config dir p) {a : PortalLabel}
    (h : portalStep ipText debug config dir p a = some q) : Guarded ipText debug config dir q := by
  cases a with
  | register req =>
      have hanswered := hp.answer (registerAnswer_of_not_allowed ipText debug req)
      simp only [portalStep] at h
      split at h
      · obtain rfl := Option.some.inj h
        exact hanswered
      · rename_i cif hreq
        obtain rfl := Option.some.inj h
        exact hanswered.register hreq
  | harvest i s =>
      simp only [portalStep] at h
      split at h
      · cases h
      · rename_i req cif hpending
        split at h
        · obtain rfl := Option.some.inj h
          exact hp.lose i
        · rename_i rs hharvest
          split_ifs at h with hdir
          obtain ⟨x, hx, rfl⟩ := Option.map_eq_some_iff.mp h
          exact hp.harvest hpending (hdir ▸ hharvest) hx
  | lose i =>
      obtain rfl := Option.some.inj h
      exact hp.lose i
  | deRegister req =>
      have hanswered := hp.answer (deRegisterHandler_of_not_allowed ipText req)
      simp only [portalStep] at h
      split at h
      · obtain rfl := Option.some.inj h
        exact hanswered
      · obtain rfl := Option.some.inj h
        exact hanswered
      · rename_i route id hcheck
        obtain ⟨x, hx, rfl⟩ := Option.map_eq_some_iff.mp h
        exact hanswered.deRegister hcheck hx
  | router a =>
      simp only [portalStep] at h
      split_ifs at h with ha
      obtain ⟨x, hx, rfl⟩ := Option.map_eq_some_iff.mp h
      exact hp.router (by simpa using ha) hx

private theorem portalStep_takesOut (hp : Guarded ipText debug config dir p) {a : PortalLabel}
    (h : portalStep ipText debug config dir p a = some q) {s : SocketId}
    (hs : Registered dir p.router.shared.farm.shared s)
    (hno : ¬Registered dir q.router.shared.farm.shared s) :
    ∃ i c t, a = .router (.farm (.task i c)) ∧ p.router.shared.farm.tasks[i]? = some t ∧
      takesOut dir s t := by
  cases a with
  | register req =>
      simp only [portalStep] at h
      split at h <;> (obtain rfl := Option.some.inj h; exact absurd hs hno)
  | harvest i u =>
      simp only [portalStep] at h
      split at h
      · cases h
      · split at h
        · obtain rfl := Option.some.inj h
          exact absurd hs hno
        · split_ifs at h
          obtain ⟨x, hx, rfl⟩ := Option.map_eq_some_iff.mp h
          obtain ⟨j, c, t, hlabel, -⟩ := routerStep_takesOut hp.conserved hx hs hno
          cases hlabel
  | lose i =>
      obtain rfl := Option.some.inj h
      exact absurd hs hno
  | deRegister req =>
      simp only [portalStep] at h
      split at h
      · obtain rfl := Option.some.inj h
        exact absurd hs hno
      · obtain rfl := Option.some.inj h
        exact absurd hs hno
      · obtain ⟨x, hx, rfl⟩ := Option.map_eq_some_iff.mp h
        obtain ⟨j, c, t, hlabel, -⟩ := routerStep_takesOut hp.conserved hx hs hno
        cases hlabel
  | router a =>
      simp only [portalStep] at h
      split_ifs at h
      obtain ⟨x, hx, rfl⟩ := Option.map_eq_some_iff.mp h
      obtain ⟨i, c, t, rfl, ht, hout⟩ := routerStep_takesOut hp.conserved hx hs hno
      exact ⟨i, c, t, rfl, ht, hout⟩

end Guarded

/-- The step is one of these: the socket's own removal, a deregistration that names its connector
and its route and was sent from an allowed address, or the end of all sockets. -/
inductive WayOut (config : Http.CrankerRouterConfig) (dir : SocketId → RouterSocket)
    (p : PortalState) (s : SocketId) : PortalLabel → Prop
  | removed (i : Nat) (c : Choice)
      (ht : p.router.shared.farm.tasks[i]? = some (.remove s .lookup)) :
      WayOut config dir p s (.router (.farm (.task i c)))
  | deRegistered (i : Nat) (c : Choice) (l : List SocketId) (req : PortalRequest)
      (ht : p.router.shared.farm.tasks[i]? =
        some (.deRegister (dir s).route (dir s).connectorId (.retain l)))
      (hreq : (req, (dir s).route, (dir s).connectorId) ∈ p.deRegistered)
      (hallowed : config.registrationIpValidator req.ip = true)
      (hid : req.params "connectorInstanceID" = some (dir s).connectorId)
      (hroute : req.headerOrStar routeHeader = (dir s).route) :
      WayOut config dir p s (.router (.farm (.task i c)))
  | terminated (i : Nat) (c : Choice) (force : Bool) (visited : List Route)
      (ht : p.router.shared.farm.tasks[i]? = some (.terminateAll force visited)) :
      WayOut config dir p s (.router (.farm (.task i c)))

/-- The socket is registered, was given to a client, lies in a channel or is in the hands of a
task. -/
def InFarm (dir : SocketId → RouterSocket) (p : PortalState) (s : SocketId) : Prop :=
  Registered dir p.router.shared.farm.shared s ∨ s ∈ p.router.shared.farm.shared.returned ∨
    ∃ c, 0 < occurrences p.router.shared.farm.shared p.router.shared.farm.tasks c s

/-- In every run, each socket of the farm comes from a registration of its own, which an allowed
address sent, no socket leaves the map on another way, and an address that is not allowed gets
refusals only. -/
theorem portal_guards_farm (ipText : IpAddr → String) (debug : Option Http.HeaderValue → String)
    (config : Http.CrankerRouterConfig) (dir : SocketId → RouterSocket) {p : PortalState}
    (hp : (portalMachine ipText debug config dir).Reachable Machine.anyAction p) :
    (∃ origin : SocketId → Nat, Set.InjOn origin {s | InFarm dir p s} ∧
      ∀ s, InFarm dir p s → ∃ e, p.admitted.reverse[origin s]? = some e ∧
        Admits ipText debug config dir e s) ∧
    (∀ e ∈ p.answers, config.registrationIpValidator e.1.ip = false →
      ∃ status text, e.2 = .refused status text) ∧
    ∀ a q s, portalStep ipText debug config dir p a = some q →
      Registered dir p.router.shared.farm.shared s →
      ¬Registered dir q.router.shared.farm.shared s → WayOut config dir p s a := by
  have hinv : Guarded ipText debug config dir p := by
    refine hp.invariant (P := Guarded ipText debug config dir) ?_ fun _ _ _ hp _ h => hp.step h
    rintro p rfl
    exact guarded_init
  refine ⟨?_, hinv.answers, ?_⟩
  · have hconnected : ∀ s, InFarm dir p s → s ∈ p.router.shared.connected := by
      intro s hs
      apply hinv.added
      rcases hs with hs | hs | ⟨c, hs⟩
      · exact hinv.conserved.registeredKnown s hs
      · exact hinv.conserved.returnedKnown s hs
      · exact hinv.conserved.placeKnown c s hs
    obtain ⟨origin, waiting, htraced⟩ := hinv.traced
    refine ⟨origin, htraced.injective.mono hconnected, ?_⟩
    intro s hs
    obtain ⟨e, he, hharvest⟩ := htraced.harvested s (hconnected s hs)
    have hmem : e ∈ p.admitted := List.mem_reverse.mp (List.mem_of_getElem? he)
    obtain ⟨hextracted, hupgrade, hallowed⟩ := registerHandler_ok (hinv.admitted e hmem)
    exact ⟨e, he, hallowed, hupgrade, hextracted, hharvest⟩
  · intro a q s hstep hs hno
    obtain ⟨i, c, t, rfl, ht, hout⟩ := portalStep_takesOut hinv hstep hs hno
    unfold takesOut at hout
    split at hout
    · rw [hout] at ht
      exact .removed i c ht
    · obtain ⟨rfl, rfl⟩ := hout
      obtain ⟨req, hreq⟩ := hinv.deRegistering _ _ _ (List.mem_of_getElem? ht)
      obtain ⟨hallowed, hid, hroute⟩ := deRegCheck_ok (hinv.deRegistered _ hreq)
      exact .deRegistered i c _ req ht hreq hallowed hid hroute
    · exact .terminated i c _ _ ht
    · cases hout

/-- The value `foo, cranker_3.0`. -/
def fooOrV3 : Http.HeaderValue := ⟨utf8 "foo, cranker_3.0", by decide +kernel⟩

/-- A V3 connector of the route `orders`, whose registration the address 7 sends. -/
def ordersRequest : PortalRequest where
  isTrace := false
  params := fun k => if k = "connectorInstanceID" then some "c1" else none
  headers := (Http.connectorHeaders fooOrV3).insert routeHeader ⟨utf8 "orders", by decide⟩
  ip := 7
  isUpgrade := true
  uuid := ""

def onlySeven : Http.CrankerRouterConfig :=
  Http.CrankerRouterConfig.new.withRegistrationIpValidator fun ip => ip == 7

def ordersSocket : SocketId → RouterSocket := fun _ => ⟨"orders", "*", "c1", .v3, 7⟩

/-- The same request from the address 8 is refused, the one from 7 leads to a socket. -/
def ordersRegistered : PortalState :=
  (portalMachine toString (fun _ => "") onlySeven ordersSocket).run Machine.anyAction
    ⟨⟨.new, []⟩, [], [], [], []⟩ [.register { ordersRequest with ip := 8 }, .register ordersRequest,
      .harvest 0 0, .router (.farm (.env (.add 0))), .router (.farm (.task 0 .go))]

theorem portal_guards_farm_orders :
    ordersRegistered.admitted.length = 1 ∧ ∃ (origin : SocketId → Nat) (e : Admission),
      ordersRegistered.admitted.reverse[origin 0]? = some e ∧
      Admits toString (fun _ => "") onlySeven ordersSocket e 0 := by
  have hreach : (portalMachine toString (fun _ => "") onlySeven ordersSocket).Reachable
      Machine.anyAction ordersRegistered :=
    Machine.reachable_run _ _ rfl _
  have hregistered : Registered ordersSocket ordersRegistered.router.shared.farm.shared 0 := by
    decide +kernel
  obtain ⟨origin, -, hadmits⟩ := (portal_guards_farm toString (fun _ => "") onlySeven ordersSocket
    hreach).1
  exact ⟨by decide +kernel, origin, hadmits 0 (.inl hregistered)⟩

end CrankerRouter.Portal
