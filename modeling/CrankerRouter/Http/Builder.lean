import CrankerRouter.Http.Negotiation
import CrankerRouter.Lib.Machine

/-!
# The builder of a router

A `CrankerRouterConfig` is its own builder: a call gives a changed copy, or it panics on a value
that it refuses.  The settings of a router are what some sequence of calls has made of the default.
-/

namespace CrankerRouter.Http

open Lib

/-- `CrankerRouterConfig`, up to the listeners, the filter and the resolver, which are parameters of
what uses them.  Addresses are numbers, as in the farm. -/
structure CrankerRouterConfig extends Config where
  routesKeepTimeMillis : Int
  connectorMaxWaitTimeMillis : Int
  pingSentAfterNoWriteForMs : Int
  idleReadTimeoutMs : Int
  allowCatchAll : Bool
  registrationIpValidator : Nat → Bool
  supportedCrankerProtocols : VersionMap

/-- An order in which the table of versions is walked. -/
structure VersionTable where
  entries : List (String × String)
  perm : entries.Perm supportedCrankerVersion

namespace CrankerRouterConfig

def new : CrankerRouterConfig where
  doNotProxyHeaders := repressedHeaders
  viaName := "scr-axum"
  discardClientForwardedHeaders := false
  sendLegacyForwardedHeaders := false
  routesKeepTimeMillis := 2 * 60 * 60 * 1000
  connectorMaxWaitTimeMillis := 5000
  pingSentAfterNoWriteForMs := 10000
  idleReadTimeoutMs := 60000
  allowCatchAll := true
  registrationIpValidator := fun _ => true
  supportedCrankerProtocols := (supportedCrankerVersion.map fun e => ⟨e.1, e.2⟩).toAList

/-- `error` is a panic and its message. -/
def panicIfLessThanZero (name : String) (val : Int) : Except String Unit :=
  if 0 ≤ val then .ok () else .error (name ++ " must be greater or equals to 0")

def viaAllowed : List Char :=
  "0123456789abcdefghijklmnopqrstuvwxyzABCDEFGHIJKLMNOPQRSTUVWXYZ!#$%&'*+,-.^_`|~:".toList

def checkViaName (viaName : String) : Except String Unit :=
  if 1023 < viaName.utf8ByteSize then .error "The via name you set is too long!"
  else
    match viaName.toList.find? (fun c => 128 ≤ c.toNat) with
    | some c => .error ("non ascii letter in via header: \"" ++ String.ofList [c] ++ "\"")
    | none =>
        match viaName.toList.find? (fun c => !viaAllowed.contains c) with
        | some c => .error ("not allowed character in via header: \"" ++ String.ofList [c] ++ "\"")
        | none => .ok ()

variable (c : CrankerRouterConfig)

def withDiscardClientForwardedHeaders (b : Bool) : CrankerRouterConfig :=
  { c with discardClientForwardedHeaders := b }

def withSendLegacyForwardedHeaders (b : Bool) : CrankerRouterConfig :=
  { c with sendLegacyForwardedHeaders := b }

def withViaName (viaName : String) : Except String CrankerRouterConfig :=
  (checkViaName viaName).map fun _ => { c with viaName := viaName }

def withIdleReadTimeoutMs (ms : Int) : Except String CrankerRouterConfig :=
  (panicIfLessThanZero "idle_read_timeout_ms" ms).map fun _ => { c with idleReadTimeoutMs := ms }

def withRoutesKeepTimeMillis (ms : Int) : Except String CrankerRouterConfig :=
  (panicIfLessThanZero "routes_keep_time_millis" ms).map fun _ =>
    { c with routesKeepTimeMillis := ms }

def withPingSentAfterNoWriteForMs (ms : Int) : Except String CrankerRouterConfig :=
  (panicIfLessThanZero "ping_sent_after_no_write_for_ms" ms).map fun _ =>
    { c with pingSentAfterNoWriteForMs := ms }

def withConnectorMaxWaitTimeMillis (ms : Int) : Except String CrankerRouterConfig :=
  (panicIfLessThanZero "connector_max_wait_time_millis" ms).map fun _ =>
    { c with connectorMaxWaitTimeMillis := ms }

def shouldAllowCatchAll (b : Bool) : CrankerRouterConfig := { c with allowCatchAll := b }

/-- The headers are a set: `host` is taken out of it or put into it. -/
def shouldProxyHostHeader (b : Bool) : CrankerRouterConfig :=
  { c with doNotProxyHeaders :=
      if b then c.doNotProxyHeaders.filter (fun h => h ≠ "host")
      else if c.doNotProxyHeaders.contains "host" then c.doNotProxyHeaders
      else "host" :: c.doNotProxyHeaders }

def withRegistrationIpValidator (allow : Nat → Bool) : CrankerRouterConfig :=
  { c with registrationIpValidator := allow }

def withSupportedCrankerVersion (table : VersionTable) (versions : List String) :
    Except String CrankerRouterConfig :=
  (checkSupportedCrankerVersion table.entries versions).map fun scv =>
    { c with supportedCrankerProtocols := scv }

end CrankerRouterConfig

/-- A call of the builder. -/
inductive BuilderCall
  | withDiscardClientForwardedHeaders (b : Bool)
  | withSendLegacyForwardedHeaders (b : Bool)
  | withViaName (viaName : String)
  | withIdleReadTimeoutMs (ms : Int)
  | withRoutesKeepTimeMillis (ms : Int)
  | withPingSentAfterNoWriteForMs (ms : Int)
  | withConnectorMaxWaitTimeMillis (ms : Int)
  | shouldAllowCatchAll (b : Bool)
  | shouldProxyHostHeader (b : Bool)
  | withRegistrationIpValidator (allow : Nat → Bool)
  | withSupportedCrankerVersion (table : VersionTable) (versions : List String)

def BuilderCall.apply (c : CrankerRouterConfig) : BuilderCall → Except String CrankerRouterConfig
  | .withDiscardClientForwardedHeaders b => .ok (c.withDiscardClientForwardedHeaders b)
  | .withSendLegacyForwardedHeaders b => .ok (c.withSendLegacyForwardedHeaders b)
  | .withViaName viaName => c.withViaName viaName
  | .withIdleReadTimeoutMs ms => c.withIdleReadTimeoutMs ms
  | .withRoutesKeepTimeMillis ms => c.withRoutesKeepTimeMillis ms
  | .withPingSentAfterNoWriteForMs ms => c.withPingSentAfterNoWriteForMs ms
  | .withConnectorMaxWaitTimeMillis ms => c.withConnectorMaxWaitTimeMillis ms
  | .shouldAllowCatchAll b => .ok (c.shouldAllowCatchAll b)
  | .shouldProxyHostHeader b => .ok (c.shouldProxyHostHeader b)
  | .withRegistrationIpValidator allow => .ok (c.withRegistrationIpValidator allow)
  | .withSupportedCrankerVersion table versions => c.withSupportedCrankerVersion table versions

def builder : Machine CrankerRouterConfig BuilderCall where
  init c := c = .new
  step c call := (call.apply c).toOption

theorem exists_of_map_ok {ε α β : Type} {r : Except ε α} {f : α → β} {b : β}
    (h : r.map f = .ok b) : ∃ a, r = .ok a ∧ f a = b := by
  cases r with
  | error e => cases h
  | ok a => exact ⟨a, rfl, Except.ok.inj h⟩

namespace CrankerRouterConfig

/-- What the calls keep. -/
structure Sound (c : CrankerRouterConfig) : Prop where
  represses : ∀ h ∈ repressedHeaders, h ∈ c.doNotProxyHeaders
  onlyHost : ∀ h ∈ c.doNotProxyHeaders, h ∈ repressedHeaders ∨ h = "host"
  viaName : c.viaName.toList.all viaAllowed.contains
  times : 0 ≤ c.routesKeepTimeMillis ∧ 0 ≤ c.connectorMaxWaitTimeMillis ∧
    0 ≤ c.pingSentAfterNoWriteForMs ∧ 0 ≤ c.idleReadTimeoutMs
  versions : c.supportedCrankerProtocols = new.supportedCrankerProtocols

theorem sound_new : new.Sound where
  represses := fun _ h => h
  onlyHost := fun _ h => .inl h
  viaName := by decide +kernel
  times := by decide
  versions := rfl

private theorem checkViaName_ok {viaName : String} {u : Unit} (h : checkViaName viaName = .ok u) :
    viaName.toList.all viaAllowed.contains := by
  unfold checkViaName at h
  split_ifs at h
  split at h
  · cases h
  split at h
  · cases h
  · rename_i hnone
    rw [List.all_eq_true]
    intro d hd
    simpa using List.find?_eq_none.mp hnone d hd

private theorem nonneg_of_panicIfLessThanZero {name : String} {val : Int} {u : Unit}
    (h : panicIfLessThanZero name val = .ok u) : 0 ≤ val := by
  unfold panicIfLessThanZero at h
  split_ifs at h with hval
  exact hval

private theorem host_notMem_repressedHeaders : "host" ∉ repressedHeaders := by decide

theorem Sound.shouldProxyHostHeader {c : CrankerRouterConfig} (hc : c.Sound) (b : Bool) :
    (c.shouldProxyHostHeader b).Sound := by
  refine ⟨?_, ?_, hc.viaName, hc.times, hc.versions⟩
  · intro h hh
    have hne : h ≠ "host" := fun heq => host_notMem_repressedHeaders (heq ▸ hh)
    unfold CrankerRouterConfig.shouldProxyHostHeader
    dsimp only
    split_ifs
    · exact List.mem_filter.mpr ⟨hc.represses h hh, by simpa using hne⟩
    · exact hc.represses h hh
    · exact List.mem_cons_of_mem _ (hc.represses h hh)
  · intro h hh
    unfold CrankerRouterConfig.shouldProxyHostHeader at hh
    dsimp only at hh
    split_ifs at hh
    · exact hc.onlyHost h (List.mem_filter.mp hh).1
    · exact hc.onlyHost h hh
    · rcases List.mem_cons.mp hh with rfl | hh
      · exact .inr rfl
      · exact hc.onlyHost h hh

theorem Sound.apply {c d : CrankerRouterConfig} (hc : c.Sound) {call : BuilderCall}
    (h : call.apply c = .ok d) : d.Sound := by
  cases call with
  | withDiscardClientForwardedHeaders b =>
      obtain rfl := Except.ok.inj h
      exact { hc with }
  | withSendLegacyForwardedHeaders b =>
      obtain rfl := Except.ok.inj h
      exact { hc with }
  | withViaName viaName =>
      obtain ⟨u, hcheck, rfl⟩ := exists_of_map_ok h
      exact { hc with viaName := checkViaName_ok hcheck }
  | withIdleReadTimeoutMs ms =>
      obtain ⟨u, hcheck, rfl⟩ := exists_of_map_ok h
      have hms := nonneg_of_panicIfLessThanZero hcheck
      exact { hc with times := ⟨hc.times.1, hc.times.2.1, hc.times.2.2.1, hms⟩ }
  | withRoutesKeepTimeMillis ms =>
      obtain ⟨u, hcheck, rfl⟩ := exists_of_map_ok h
      have hms := nonneg_of_panicIfLessThanZero hcheck
      exact { hc with times := ⟨hms, hc.times.2⟩ }
  | withPingSentAfterNoWriteForMs ms =>
      obtain ⟨u, hcheck, rfl⟩ := exists_of_map_ok h
      have hms := nonneg_of_panicIfLessThanZero hcheck
      exact { hc with times := ⟨hc.times.1, hc.times.2.1, hms, hc.times.2.2.2⟩ }
  | withConnectorMaxWaitTimeMillis ms =>
      obtain ⟨u, hcheck, rfl⟩ := exists_of_map_ok h
      have hms := nonneg_of_panicIfLessThanZero hcheck
      exact { hc with times := ⟨hc.times.1, hms, hc.times.2.2⟩ }
  | shouldAllowCatchAll b =>
      obtain rfl := Except.ok.inj h
      exact { hc with }
  | shouldProxyHostHeader b =>
      obtain rfl := Except.ok.inj h
      exact hc.shouldProxyHostHeader b
  | withRegistrationIpValidator allow =>
      obtain rfl := Except.ok.inj h
      exact { hc with }
  | withSupportedCrankerVersion table versions =>
      -- this call never returns
      obtain ⟨scv, hcheck, -⟩ := exists_of_map_ok h
      obtain ⟨panic, hpanic⟩ := checkSupportedCrankerVersion_panics table.perm versions
      rw [hpanic] at hcheck
      cases hcheck

theorem sound_of_reachable {c : CrankerRouterConfig} (h : builder.Reachable Machine.anyAction c) :
    c.Sound := by
  refine h.invariant (P := Sound) ?_ ?_
  · rintro c rfl
    exact sound_new
  · intro c call d hc _ hstep
    cases happly : call.apply c with
    | error panic => simp [builder, happly, Except.toOption] at hstep
    | ok e =>
        obtain rfl : e = d := by simpa [builder, happly, Except.toOption] using hstep
        exact hc.apply happly

end CrankerRouterConfig

end CrankerRouter.Http
