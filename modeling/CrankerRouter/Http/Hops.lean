import CrankerRouter.Http.BlockRoundTrip
import CrankerRouter.Http.Builder
import CrankerRouter.Http.RequestFilter

/-!
# Several routers in a row

The target of a router may be another router.  Of the headers that one router sends, the next one
reads `Via`, the forwarding headers, `Host` and `Connection`; a `Trail` is what these say, and one
router extends it by one entry.  The header maps carry the trail along.
-/

namespace CrankerRouter.Http

open Lib

/-! ### The texts of the values that are read -/

private theorem ForwardedHeader.mem_values {fh : ForwardedHeader} {v : String} :
    v ∈ fh.values ↔ fh.byValue = some v ∨ fh.forValue = some v ∨ fh.host = some v ∨
      fh.proto = some v ∨ ∃ m, fh.extensions = some m ∧ ∃ k, (k, v) ∈ m.entries := by
  obtain ⟨byValue, forValue, host, proto, extensions⟩ := fh
  cases extensions <;> simp [values, fields]

namespace FHParser

private theorem mem_values_header {p : FHParser} {v : String} :
    v ∈ p.header.values ↔ p.byValue = some v ∨ p.forValue = some v ∨ p.host = some v ∨
      p.proto = some v ∨ ∃ k, (k, v) ∈ p.extensions.entries := by
  rw [ForwardedHeader.mem_values]
  unfold header LinkedHashMap.isEmpty
  by_cases hempty : p.extensions.entries = []
  · simp [hempty]
  · simp [hempty]

variable {P : Char → Prop}

/-- What has been read is made of such characters. -/
structure Over (P : Char → Prop) (p : FHParser) : Prop where
  buffer : ∀ c ∈ p.buffer, P c
  values : ∀ v ∈ p.header.values, ∀ c ∈ v.toList, P c

private theorem over_new : new.Over P where
  buffer := by simp [new]
  values := by simp [mem_values_header, new, LinkedHashMap.empty]

private theorem mem_values_assign {p : FHParser} {pn val v : String}
    (h : v ∈ (p.assign pn val).header.values) : v = val ∨ v ∈ p.header.values := by
  rw [mem_values_header] at h
  rw [mem_values_header]
  unfold assign at h
  split_ifs at h
  · simp only [Option.some.injEq] at h
    tauto
  · simp only [Option.some.injEq] at h
    tauto
  · simp only [Option.some.injEq] at h
    tauto
  · simp only [Option.some.injEq] at h
    tauto
  · simp only [LinkedHashMap.insert, List.mem_append, List.mem_filter, List.mem_singleton,
      Prod.mk.injEq, exists_or] at h
    tauto

private theorem Over.assigned {p : FHParser} (hp : p.Over P) (pn : String) :
    ∀ v ∈ (p.assign pn (String.ofList p.buffer)).header.values, ∀ c ∈ v.toList, P c := by
  intro v hv
  rcases mem_values_assign hv with rfl | hv
  · simpa using hp.buffer
  · exact hp.values v hv

theorem Over.push {p : FHParser} (hp : p.Over P) {c : Char} (hc : P c) : (p.push c).Over P where
  buffer := by
    intro d hd
    rcases List.mem_append.mp hd with hd | hd
    · exact hp.buffer d hd
    · obtain rfl := List.mem_singleton.mp hd
      exact hc
  values := hp.values

theorem Over.reads {p q : FHParser} (hp : p.Over P) {c : Char} (hc : P c) (h : Reads p c q) :
    q.Over P := by
  cases h with
  | quote b => exact ⟨hp.buffer, hp.values⟩
  | name | value => exact hp.push hc
  | equals hstate heq => exact ⟨by simp, hp.values⟩
  | store hstate pn hname => exact ⟨by simp, hp.assigned _⟩

theorem Over.finish {p : FHParser} (hp : p.Over P) {input : String} {fh : ForwardedHeader}
    (h : p.finish input = .ok fh) : ∀ v ∈ fh.values, ∀ c ∈ v.toList, P c := by
  rcases finish_cases h with ⟨-, rfl⟩ | ⟨pn, -, -, rfl⟩
  · exact hp.values
  · exact hp.assigned _

theorem Over.loop {p : FHParser} (hp : p.Over P) {input : String} {last : Option Char}
    {cs : List Char} (hcs : ∀ c ∈ cs, P c) {hs : List ForwardedHeader}
    (h : FHParser.loop input last p cs = .ok hs) :
    ∀ fh ∈ hs, ∀ v ∈ fh.values, ∀ c ∈ v.toList, P c := by
  refine loop_induction (P := fun _ p cs hs => p.Over P → (∀ c ∈ cs, P c) →
    ∀ fh ∈ hs, ∀ v ∈ fh.values, ∀ c ∈ v.toList, P c) ?_ ?_ ?_ ?_ h hp hcs
  · intro last p fh hfin hp hcs
    simpa using hp.finish hfin
  · intro last p c q cs hs hchar hloop ih hp hcs
    have hc : P c := hcs c List.mem_cons_self
    exact ih (hp.reads hc (reads_of_onChar hchar)) fun d hd => hcs d (List.mem_cons_of_mem c hd)
  · intro last p fh hfin hp hcs
    simpa using hp.finish hfin
  · intro last p cs fh hs hchar hfin hne hloop ih hp hcs g hg
    rcases List.mem_cons.mp hg with rfl | hg
    · exact hp.finish hfin
    · exact ih over_new (fun d hd => hcs d (List.mem_cons_of_mem _ hd)) g hg

end FHParser

/-- The element can be sent on and read again. -/
structure ForwardedHeader.Relayable (fh : ForwardedHeader) : Prop where
  printable : fh.Printable
  text : ∀ v ∈ fh.values, ∀ c ∈ v.toList, isTextChar c

namespace ForwardedHeader

private theorem valid_of_extensions {fh : ForwardedHeader} (h : fh.extensions = none) :
    fh.Valid := by
  intro m hm
  rw [h] at hm
  cases hm

private theorem isTextChar_of_isTChar {c : Char} (h : isTChar c) : isTextChar c :=
  ascii_forall (P := fun c => isTChar c → isTextChar c) (by decide +kernel)
    (toNat_lt_of_isTChar h) h

theorem Relayable.isTextChar_display {fh : ForwardedHeader} (h : fh.Relayable) :
    ∀ c ∈ fh.display.toList, isTextChar c := by
  apply ForwardedHeader.isTextChar_display
  intro f hf
  have hname := (readable_fields h.printable.valid h.printable.plain f hf).token
  exact ⟨fun c hc => isTextChar_of_isTChar (hname c hc), h.text f.2 (List.mem_map_of_mem hf)⟩

private theorem fromString_display {fh : ForwardedHeader} (h : fh.Printable) :
    fromString fh.display = .ok [fh] := by
  have hall : ∀ g ∈ [fh], g.Printable := by simpa using h
  have hloop := loop_displayAll hall fh.display none
  have hprinted : '=' ∈ fh.display.toList := by
    obtain ⟨field, fields, hcons⟩ := List.exists_cons_of_ne_nil (fields_ne_nil h.valid h.hasField)
    rw [toList_display fh hcons]
    simp [printed]
  rw [fromString, if_neg]
  · simpa using hloop
  · intro hblank
    exact absurd (List.all_eq_true.mp hblank '=' hprinted) (by decide)

end ForwardedHeader

section Read

variable {hdr : HeaderMap}

private theorem isTextChar_of_mem_getAllOk {k : HeaderName} {s : String}
    (h : s ∈ headerMapGetAllOkToString hdr k) : ∀ c ∈ s.toList, isTextChar c := by
  obtain ⟨v, -, hv⟩ := List.mem_filterMap.mp h
  exact v.isTextChar_of_toStr hv

private theorem isTextChar_of_mem_getXForwardedValue {k : HeaderName} {s : String}
    (h : s ∈ getXForwardedValue hdr k) : ∀ c ∈ s.toList, isTextChar c := by
  obtain ⟨i, hi, hs⟩ := List.mem_flatMap.mp h
  obtain ⟨piece, hpiece, rfl⟩ := List.mem_map.mp hs
  obtain ⟨cs, hcs, rfl⟩ := List.mem_map.mp hpiece
  intro c hc
  have hmem : c ∈ cs := by
    simp only [trim, String.toList_ofList] at hc
    exact (List.dropWhile_sublist _).mem ((List.rdropWhile_prefix _ _).mem hc)
  exact isTextChar_of_mem_getAllOk hi c (mem_of_mem_splitOn hcs hmem)

private theorem isTextChar_of_item {x : XForwarded} {xs : List String} {i : Nat} {s : String}
    (hxs : ∀ s ∈ xs, ∀ c ∈ s.toList, isTextChar c) (h : x.item xs i = some s) :
    ∀ c ∈ s.toList, isTextChar c := by
  unfold XForwarded.item at h
  split_ifs at h
  exact hxs s (List.mem_of_getElem? h)

private theorem isTextChar_of_hostToUse {i : Nat} {s : String}
    (h : (xForwarded hdr).hostToUse i = some s) : ∀ c ∈ s.toList, isTextChar c := by
  unfold XForwarded.hostToUse at h
  split_ifs at h
  · exact isTextChar_of_item (fun _ => isTextChar_of_mem_getXForwardedValue) h
  · obtain ⟨v, -, hv⟩ := Option.bind_eq_some_iff.mp h
    exact v.isTextChar_of_toStr hv

private theorem isTextChar_of_builtFrom {i : Nat} {fh : ForwardedHeader}
    (h : (xForwarded hdr).BuiltFrom i fh) : ∀ v ∈ fh.values, ∀ c ∈ v.toList, isTextChar c := by
  intro v hv
  have hcases : fh.forValue = some v ∨ fh.host = some v ∨ fh.proto = some v := by
    simpa [ForwardedHeader.mem_values, h.byValue, h.extensions] using hv
  rcases hcases with hv | hv | hv
  · exact isTextChar_of_item (fun _ => isTextChar_of_mem_getXForwardedValue)
      (h.forValue.symm.trans hv)
  · cases hcut : (xForwarded hdr).hostToCut i with
    | none => exact isTextChar_of_hostToUse ((h.kept hcut).symm.trans hv)
    | some host =>
        obtain ⟨name, digits, hname, rfl, -⟩ := h.cut host hcut
        obtain rfl : name = v := Option.some.inj (hname.symm.trans hv)
        have huse : (xForwarded hdr).hostToUse i = some (name ++ ":" ++ digits) := by
          unfold XForwarded.hostToCut at hcut
          split_ifs at hcut
          exact hcut
        intro c hc
        exact isTextChar_of_hostToUse huse c (by simp [hc])
  · exact isTextChar_of_item (fun _ => isTextChar_of_mem_getXForwardedValue)
      (h.proto.symm.trans hv)

private theorem relayable_of_getExistingForwardedHeaders {fhs : List ForwardedHeader}
    (h : getExistingForwardedHeaders hdr = .ok fhs) {fh : ForwardedHeader} (hfh : fh ∈ fhs)
    (hfield : fh.hasField) (hplain : ∀ v ∈ fh.values, '\\' ∉ v.toList) : fh.Relayable := by
  unfold getExistingForwardedHeaders at h
  dsimp only at h
  split_ifs at h
  · obtain ⟨-, hbuilt⟩ := XForwarded.length_and_builtFrom_of_mapM h
    obtain ⟨i, hi⟩ := List.mem_iff_getElem?.mp hfh
    have hfrom := hbuilt i fh hi
    exact ⟨⟨ForwardedHeader.valid_of_extensions hfrom.extensions, hfield, hplain⟩,
      isTextChar_of_builtFrom hfrom⟩
  · obtain ⟨lines, hlines, rfl⟩ := exists_of_map_ok h
    obtain ⟨line, hline, hfh⟩ := List.mem_flatten.mp hfh
    obtain ⟨s, hs, hok⟩ : ∃ s ∈ headerMapGetAllOkToString hdr .forwarded,
        ForwardedHeader.fromString s = .ok line := by
      have hall := mapM_eq_ok_iff.mp hlines
      obtain ⟨j, hj, rfl⟩ := List.getElem_of_mem hline
      have hlen : j < (headerMapGetAllOkToString hdr .forwarded).length := by
        rwa [hall.length_eq]
      have hparse := hall.get hlen hj
      refine ⟨_, List.get_mem _ ⟨j, hlen⟩, ?_⟩
      cases hs : ForwardedHeader.fromString
          ((headerMapGetAllOkToString hdr .forwarded).get ⟨j, hlen⟩) with
      | error e =>
          rw [hs] at hparse
          cases hparse
      | ok line =>
          rw [hs] at hparse
          exact congrArg Except.ok (Except.ok.inj hparse)
    refine ⟨⟨ForwardedHeader.valid_of_fromString hok fh hfh, hfield, hplain⟩, ?_⟩
    unfold ForwardedHeader.fromString at hok
    split_ifs at hok
    · obtain rfl := Except.ok.inj hok
      cases hfh
    · exact FHParser.over_new.loop (isTextChar_of_mem_getAllOk hs) hok fh hfh

end Read

/-! ### What a router appends -/

section Appended

private theorem getAllOk_appendText (hdr : HeaderMap) (k : HeaderName) {s : String}
    (h : ∀ c ∈ s.toList, isTextChar c) :
    headerMapGetAllOkToString (appendText hdr k s) k = headerMapGetAllOkToString hdr k ++ [s] := by
  obtain ⟨v, hparse, hstr⟩ := HeaderValue.toStr_of_parse h
  simp [headerMapGetAllOkToString, appendText, hparse, HeaderMap.getAll_append, hstr]

private theorem getAllOk_appendDisplays (hdr : HeaderMap) {fhs : List ForwardedHeader}
    (h : ∀ fh ∈ fhs, fh.Relayable) :
    headerMapGetAllOkToString
        (fhs.foldl (fun hdr j => appendText hdr .forwarded j.display) hdr) .forwarded =
      headerMapGetAllOkToString hdr .forwarded ++ fhs.map ForwardedHeader.display := by
  induction fhs generalizing hdr with
  | nil => simp
  | cons fh fhs ih =>
      have hfh := (h fh List.mem_cons_self).isTextChar_display
      rw [List.foldl_cons, ih _ fun g hg => h g (List.mem_cons_of_mem fh hg),
        getAllOk_appendText hdr .forwarded hfh]
      simp

private theorem mapM_fromString_display {fhs : List ForwardedHeader}
    (h : ∀ fh ∈ fhs, fh.Relayable) :
    (fhs.map ForwardedHeader.display).mapM
        (fun s => (ForwardedHeader.fromString s).mapError Failure.error) =
      .ok (fhs.map fun fh => [fh]) := by
  induction fhs with
  | nil => rfl
  | cons fh fhs ih =>
      have hfh := ForwardedHeader.fromString_display (h fh List.mem_cons_self).printable
      rw [List.map_cons, List.mapM_cons, hfh, ih fun g hg => h g (List.mem_cons_of_mem fh hg)]
      rfl

private theorem getExistingForwardedHeaders_displays {hdr : HeaderMap} {fhs : List ForwardedHeader}
    (hne : fhs ≠ []) (h : ∀ fh ∈ fhs, fh.Relayable)
    (hlines : headerMapGetAllOkToString hdr .forwarded = fhs.map ForwardedHeader.display) :
    getExistingForwardedHeaders hdr = .ok fhs := by
  unfold getExistingForwardedHeaders
  rw [hlines]
  dsimp only
  rw [if_neg (by simpa using hne), mapM_fromString_display h]
  refine congrArg Except.ok ?_
  simp [List.flatten_eq_flatMap, List.flatMap_map]

private theorem getNewViaValue_eq (v : String) (vias : List String) :
    getNewViaValue v vias = ", ".intercalate (vias ++ [v]) := by
  unfold getNewViaValue
  cases vias with
  | nil => simp
  | cons via vias =>
      have hjoined : (", ".intercalate (via :: vias) ++ ", " ++ v).toList =
          (", ".intercalate (via :: (vias ++ [v]))).toList := by
        rw [String.toList_append, String.toList_append, toList_intercalate, toList_intercalate]
        simp
      exact String.toList_inj.mp hjoined

private theorem intercalate_joined (v : String) {vias : List String} (hne : vias ≠ []) :
    ", ".intercalate ([", ".intercalate vias] ++ [v]) = ", ".intercalate (vias ++ [v]) := by
  cases vias with
  | nil => exact absurd rfl hne
  | cons via vias =>
      rw [← String.toList_inj, List.singleton_append, List.cons_append, toList_intercalate,
        toList_intercalate, toList_intercalate]
      simp

end Appended

/-! ### The trail -/

/-- A router on the way, with what it reads besides the headers.  Addresses, schemes and authorities
have no backslash. -/
structure Hop where
  config : CrankerRouterConfig
  built : builder.Reachable Machine.anyAction config
  version : Version
  localIp : VisibleText
  cliRemoteIp : VisibleText
  uri : OriginalUri
  isTls : Bool
  plain : ∀ t ∈ [localIp, cliRemoteIp] ++ uri.schemeStr.toList ++ uri.authority.toList,
    '\\' ∉ t.text.toList

namespace Hop

variable (hop : Hop)

/-- The headers that the router sends to its target. -/
def headersToTarget (cliHdr : HeaderMap) : Except Panic HeaderMap :=
  (setTargetRequestHeaders hop.localIp hop.cliRemoteIp hop.uri hop.isTls hop.config.toConfig
    hop.version cliHdr .new).map Prod.fst

def discards : Bool := hop.config.discardClientForwardedHeaders

def via : String := hop.version.debug ++ " " ++ hop.config.viaName

/-- The router's own element. -/
def element (hosts : List HeaderValue) : ForwardedHeader where
  byValue := some hop.localIp.text
  forValue := some hop.cliRemoteIp.text
  host := (hosts.head?.bind HeaderValue.toStr).or (hop.uri.authority.map VisibleText.text)
  proto := some (if hop.isTls then "https" else (hop.uri.schemeStr.map VisibleText.text).getD "http")
  extensions := none

end Hop

/-- What the headers say about the way so far. -/
structure Trail where
  vias : List String
  elements : List ForwardedHeader
  hosts : List HeaderValue
  hopByHop : List String

namespace Trail

/-- The way goes on through one more router. -/
def through (t : Trail) (hop : Hop) : Trail where
  vias := t.vias ++ [hop.via]
  elements := (if hop.discards then [] else t.elements) ++ [hop.element t.hosts]
  hosts := if hop.config.doNotProxyHeaders.contains "host" || t.hopByHop.contains "host" then []
    else t.hosts.getLast?.toList
  hopByHop := []

/-- No host has a backslash. -/
def PlainHosts (t : Trail) : Prop := ∀ v ∈ t.hosts, ∀ s, v.toStr = some s → '\\' ∉ s.toList

end Trail

/-- A header map that a router has sent carries the trail. -/
structure HeaderMap.Carries (hdr : HeaderMap) (t : Trail) : Prop where
  via : headerMapGetAllOkToString hdr .via = [", ".intercalate t.vias]
  vias : t.vias ≠ []
  elements : getExistingForwardedHeaders hdr = .ok t.elements
  relayable : ∀ fh ∈ t.elements, fh.Relayable
  hosts : hdr.getAll .host = t.hosts
  plainHosts : t.PlainHosts
  hopByHop : getCustomHopByHopHeaders (hdr.get .connection) = t.hopByHop

/-- The router finds the trail in the header map that it gets. -/
structure Hop.Finds (hop : Hop) (hdr : HeaderMap) (t : Trail) : Prop where
  via : ∀ v, getNewViaValue v (headerMapGetAllOkToString hdr .via) =
    ", ".intercalate (t.vias ++ [v])
  elements : forwardedHeaders hop.config.toConfig hdr =
    .ok (if hop.discards then [] else t.elements)
  relayable : ∀ fh ∈ (if hop.discards then [] else t.elements), fh.Relayable
  hosts : hdr.getAll .host = t.hosts
  plainHosts : t.PlainHosts
  hopByHop : getCustomHopByHopHeaders (hdr.get .connection) = t.hopByHop

section Step

variable {hop : Hop} {hdr : HeaderMap} {t : Trail}

private theorem HeaderMap.Carries.finds (h : hdr.Carries t) (hop : Hop) : hop.Finds hdr t where
  via := by
    intro v
    rw [h.via, getNewViaValue_eq, intercalate_joined v h.vias]
  elements := by
    unfold forwardedHeaders Hop.discards
    split_ifs
    · rfl
    · exact h.elements
  relayable := by
    split_ifs
    · simp
    · exact h.relayable
  hosts := h.hosts
  plainHosts := h.plainHosts
  hopByHop := h.hopByHop

private theorem Hop.element_eq (hop : Hop) (hdr : HeaderMap) :
    createForwardedHeaderToTgt hop.localIp hop.cliRemoteIp hop.uri hop.isTls hdr =
      hop.element (hdr.getAll .host) :=
  rfl

private theorem Hop.relayable_element (hop : Hop) (h : t.PlainHosts) :
    (hop.element t.hosts).Relayable := by
  have hliteral : '\\' ∉ "https".toList ∧ '\\' ∉ "http".toList ∧
      ("https".toList.all isTextChar) ∧ ("http".toList.all isTextChar) := by decide
  have hvisible : ∀ s ∈ [hop.localIp, hop.cliRemoteIp] ++ hop.uri.schemeStr.toList ++
      hop.uri.authority.toList, '\\' ∉ s.text.toList ∧ ∀ c ∈ s.text.toList, isTextChar c :=
    fun s hs => ⟨hop.plain s hs, s.isTextChar⟩
  have hvalues : ∀ v ∈ (hop.element t.hosts).values,
      '\\' ∉ v.toList ∧ ∀ c ∈ v.toList, isTextChar c := by
    intro v hv
    have hcases : hop.localIp.text = v ∨ hop.cliRemoteIp.text = v ∨
        (t.hosts.head?.bind HeaderValue.toStr).or (hop.uri.authority.map VisibleText.text) =
          some v ∨
        (if hop.isTls then "https" else (hop.uri.schemeStr.map VisibleText.text).getD "http") =
          v := by
      simpa only [ForwardedHeader.mem_values, Hop.element, Option.some.injEq, reduceCtorEq, false_and,
        exists_false, or_false] using hv
    rcases hcases with rfl | rfl | hhost | rfl
    · exact hvisible hop.localIp (by simp)
    · exact hvisible hop.cliRemoteIp (by simp)
    · rcases Option.or_eq_some_iff.mp hhost with hhost | ⟨-, hhost⟩
      · obtain ⟨w, hw, hstr⟩ := Option.bind_eq_some_iff.mp hhost
        exact ⟨h w (List.mem_of_head? hw) v hstr, w.isTextChar_of_toStr hstr⟩
      · obtain ⟨authority, hauthority, rfl⟩ := Option.map_eq_some_iff.mp hhost
        exact hvisible authority (by simp [hauthority])
    · split_ifs
      · exact ⟨hliteral.1, List.all_eq_true.mp hliteral.2.2.1⟩
      · cases hscheme : hop.uri.schemeStr with
        | none => exact ⟨hliteral.2.1, List.all_eq_true.mp hliteral.2.2.2⟩
        | some scheme => exact hvisible scheme (by simp [hscheme])
  exact ⟨⟨ForwardedHeader.valid_of_extensions rfl, rfl, fun v hv => (hvalues v hv).1⟩,
    fun v hv => (hvalues v hv).2⟩

private theorem Hop.isTextChar_via (hop : Hop) : ∀ c ∈ hop.via.toList, isTextChar c := by
  have hallowed : CrankerRouterConfig.viaAllowed.all isTextChar := by decide +kernel
  have hversion : ∀ v : Version, (v.debug ++ " ").toList.all isTextChar := by
    intro v
    cases v <;> decide
  intro c hc
  rw [Hop.via, String.toList_append, List.mem_append] at hc
  rcases hc with hc | hc
  · exact List.all_eq_true.mp (hversion hop.version) c hc
  · have hname := (CrankerRouterConfig.sound_of_reachable hop.built).viaName
    have hmem := List.all_eq_true.mp hname c hc
    exact List.all_eq_true.mp hallowed c (by simpa using hmem)

private theorem Hop.copied_of_repressed (hop : Hop) (hdr : HeaderMap) {k : HeaderName}
    (hk : k.text ∈ repressedHeaders) :
    (copyHeaders hop.config.toConfig hdr .new).1.getAll k = [] := by
  have hmem := (CrankerRouterConfig.sound_of_reachable hop.built).represses k.text hk
  rw [getAll_copyHeaders_new, if_pos (by simp [hmem])]

private theorem Hop.headersToTarget_eq {fhs : List ForwardedHeader}
    (h : forwardedHeaders hop.config.toConfig hdr = .ok fhs) :
    hop.headersToTarget hdr = .ok (addForwardedHeaders hop.localIp hop.cliRemoteIp hop.uri hop.isTls
      hop.config.toConfig hdr (addVia hop.config.toConfig hop.version hdr
        (copyHeaders hop.config.toConfig hdr .new).1) fhs) := by
  unfold Hop.headersToTarget setTargetRequestHeaders setForwardedHeaders
  rw [h]
  rfl

private theorem getAllOk_addForwardedHeaders (hop : Hop) (cliHdr hdrToTgt : HeaderMap)
    {fhs : List ForwardedHeader} (h : ∀ fh ∈ fhs, fh.Relayable)
    (hown : (hop.element (cliHdr.getAll .host)).Relayable) :
    headerMapGetAllOkToString (addForwardedHeaders hop.localIp hop.cliRemoteIp hop.uri hop.isTls
        hop.config.toConfig cliHdr hdrToTgt fhs) .forwarded =
      headerMapGetAllOkToString hdrToTgt .forwarded ++
        (fhs ++ [hop.element (cliHdr.getAll .host)]).map ForwardedHeader.display := by
  have hsent : headerMapGetAllOkToString (appendText (fhs.foldl (fun hdr j =>
      appendText hdr .forwarded j.display) hdrToTgt) .forwarded
      (hop.element (cliHdr.getAll .host)).display) .forwarded =
      headerMapGetAllOkToString hdrToTgt .forwarded ++
        (fhs ++ [hop.element (cliHdr.getAll .host)]).map ForwardedHeader.display := by
    rw [getAllOk_appendText _ _ hown.isTextChar_display, getAllOk_appendDisplays _ h]
    simp
  unfold addForwardedHeaders
  rw [Hop.element_eq]
  dsimp only
  split_ifs
  · unfold headerMapGetAllOkToString
    rw [getAll_setXForwardedHeaders]
    exact hsent
  · exact hsent

private theorem Hop.Finds.via_sent (h : hop.Finds hdr t) {out : HeaderMap}
    (hout : hop.headersToTarget hdr = .ok out) :
    headerMapGetAllOkToString out .via = [", ".intercalate (t.vias ++ [hop.via])] := by
  have hcopied : headerMapGetAllOkToString (copyHeaders hop.config.toConfig hdr .new).1 .via =
      [] := by
    unfold headerMapGetAllOkToString
    rw [hop.copied_of_repressed hdr (by decide)]
    rfl
  have htext : ∀ c ∈ (getNewViaValue hop.via (headerMapGetAllOkToString hdr .via)).toList,
      isTextChar c := by
    rw [getNewViaValue_eq]
    apply isTextChar_intercalate (by decide)
    intro s hs
    rcases List.mem_append.mp hs with hs | hs
    · exact isTextChar_of_mem_getAllOk hs
    · obtain rfl := List.mem_singleton.mp hs
      exact hop.isTextChar_via
  obtain rfl := Except.ok.inj ((Hop.headersToTarget_eq h.elements).symm.trans hout)
  calc headerMapGetAllOkToString _ .via
      = headerMapGetAllOkToString (addVia hop.config.toConfig hop.version hdr
          (copyHeaders hop.config.toConfig hdr .new).1) .via := by
        unfold headerMapGetAllOkToString
        rw [getAll_addForwardedHeaders _ _ _ _ (.inr rfl)]
    _ = headerMapGetAllOkToString (copyHeaders hop.config.toConfig hdr .new).1 .via ++
          [getNewViaValue hop.via (headerMapGetAllOkToString hdr .via)] :=
        getAllOk_appendText _ _ htext
    _ = [", ".intercalate (t.vias ++ [hop.via])] := by
        rw [hcopied, h.via]
        rfl

private theorem Hop.Finds.elements_sent (h : hop.Finds hdr t) {out : HeaderMap}
    (hout : hop.headersToTarget hdr = .ok out) :
    getExistingForwardedHeaders out = .ok (t.through hop).elements ∧
      ∀ fh ∈ (t.through hop).elements, fh.Relayable := by
  have hown := hop.relayable_element h.plainHosts
  have hall : ∀ fh ∈ (t.through hop).elements, fh.Relayable := by
    intro fh hfh
    rcases List.mem_append.mp hfh with hfh | hfh
    · exact h.relayable fh hfh
    · obtain rfl := List.mem_singleton.mp hfh
      exact hown
  refine ⟨getExistingForwardedHeaders_displays (by simp [Trail.through]) hall ?_, hall⟩
  obtain rfl := Except.ok.inj ((Hop.headersToTarget_eq h.elements).symm.trans hout)
  have hbefore : headerMapGetAllOkToString (addVia hop.config.toConfig hop.version hdr
      (copyHeaders hop.config.toConfig hdr .new).1) .forwarded = [] := by
    unfold headerMapGetAllOkToString addVia
    rw [getAll_appendText_ne (by decide), hop.copied_of_repressed hdr (by decide)]
    rfl
  rw [getAllOk_addForwardedHeaders hop _ _ h.relayable (by rwa [h.hosts]), hbefore, h.hosts]
  rfl

/-- One router: it does not fail, and what it sends carries the trail through it. -/
theorem Hop.Finds.sent (h : hop.Finds hdr t) :
    ∃ out, hop.headersToTarget hdr = .ok out ∧ out.Carries (t.through hop) := by
  refine ⟨_, Hop.headersToTarget_eq h.elements, ?_⟩
  obtain ⟨helements, hrelayable⟩ := h.elements_sent (Hop.headersToTarget_eq h.elements)
  have hother : ∀ k, rewritten k = false → (addForwardedHeaders hop.localIp hop.cliRemoteIp hop.uri
      hop.isTls hop.config.toConfig hdr (addVia hop.config.toConfig hop.version hdr
        (copyHeaders hop.config.toConfig hdr .new).1)
      (if hop.discards then [] else t.elements)).getAll k =
      (copyHeaders hop.config.toConfig hdr .new).1.getAll k := by
    intro k hk
    have hne : k ≠ .via := by
      rintro rfl
      cases hk
    rw [getAll_addForwardedHeaders _ _ _ _ (.inl hk), addVia, getAll_appendText_ne hne]
  refine ⟨h.via_sent (Hop.headersToTarget_eq h.elements), by simp [Trail.through], helements,
    hrelayable, ?_, ?_, ?_⟩
  · rw [hother _ (by decide), getAll_copyHeaders_new, h.hopByHop, h.hosts]
    rfl
  · intro v hv s hs
    unfold Trail.through at hv
    dsimp only at hv
    split_ifs at hv
    · cases hv
    · rw [Option.mem_toList] at hv
      exact h.plainHosts v (List.mem_of_getLast? hv) s hs
  · unfold HeaderMap.get
    rw [hother _ (by decide), hop.copied_of_repressed hdr (by decide)]
    rfl

end Step

/-! ### All routers on the way -/

/-- The headers after all routers on the way. -/
def headersToTarget (hops : List Hop) (cliHdr : HeaderMap) : Except Panic HeaderMap :=
  hops.foldlM (fun hdr hop => hop.headersToTarget hdr) cliHdr

private theorem headersToTarget_carries {hop : Hop} {hdr : HeaderMap} {t : Trail}
    (h : hop.Finds hdr t)
    (hops : List Hop) : ∃ out, headersToTarget (hop :: hops) hdr = .ok out ∧
      out.Carries ((hop :: hops).foldl Trail.through t) := by
  induction hops generalizing hop hdr t with
  | nil =>
      obtain ⟨out, hout, hcarries⟩ := h.sent
      exact ⟨out, by simp [headersToTarget, hout], hcarries⟩
  | cons next hops ih =>
      obtain ⟨mid, hmid, hcarries⟩ := h.sent
      obtain ⟨out, hout, hend⟩ := ih (hcarries.finds next)
      refine ⟨out, ?_, hend⟩
      rw [headersToTarget, List.foldlM_cons, hmid]
      exact hout

namespace Trail

private theorem vias_foldl (t : Trail) (hops : List Hop) :
    (hops.foldl through t).vias = t.vias ++ hops.map Hop.via := by
  induction hops generalizing t with
  | nil => simp
  | cons hop hops ih => simp [ih, through]

/-- The addresses that the elements were received from. -/
def addresses (t : Trail) : List (Option String) := t.elements.map ForwardedHeader.forValue

private theorem addresses_through (t : Trail) (hop : Hop) :
    (t.through hop).addresses =
      (if hop.discards then [] else t.addresses) ++ [some hop.cliRemoteIp.text] := by
  unfold addresses through
  split_ifs <;> simp [Hop.element]

private theorem addresses_foldl (t : Trail) {hops : List Hop}
    (h : ∀ hop ∈ hops, hop.discards = false) :
    (hops.foldl through t).addresses =
      t.addresses ++ hops.map fun hop => some hop.cliRemoteIp.text := by
  induction hops generalizing t with
  | nil => simp
  | cons hop hops ih =>
      rw [List.foldl_cons, ih _ fun g hg => h g (List.mem_cons_of_mem hop hg), addresses_through,
        h hop List.mem_cons_self]
      simp

private theorem addresses_foldl_discards (t : Trail) (before : List Hop) {hop : Hop}
    {after : List Hop}
    (hdiscards : hop.discards = true) (h : ∀ g ∈ after, g.discards = false) :
    ((before ++ hop :: after).foldl through t).addresses =
      (hop :: after).map fun g => some g.cliRemoteIp.text := by
  rw [List.foldl_append, List.foldl_cons, addresses_foldl _ h, addresses_through, if_pos hdiscards]
  rfl

end Trail

/-- What the first router finds in the client's headers. -/
def clientTrail (cliHdr : HeaderMap) (fhs : List ForwardedHeader) : Trail where
  vias := headerMapGetAllOkToString cliHdr .via
  elements := fhs
  hosts := cliHdr.getAll .host
  hopByHop := getCustomHopByHopHeaders (cliHdr.get .connection)

/-- Behind any number of routers, whatever their settings: `Via` names them after the client's, in
the order of the way; the elements of `Forwarded` are read as those of the trail, and their
addresses are the client's and those that the routers saw, from the last router on that discards
what it gets. -/
theorem headers_through_routers (hop : Hop) (hops : List Hop) (cliHdr : HeaderMap)
    (fhs : List ForwardedHeader) (hread : forwardedHeaders hop.config.toConfig cliHdr = .ok fhs)
    (hfields : ∀ fh ∈ fhs, fh.hasField ∧ ∀ v ∈ fh.values, '\\' ∉ v.toList)
    (hhosts : (clientTrail cliHdr fhs).PlainHosts) :
    ∃ out t, headersToTarget (hop :: hops) cliHdr = .ok out ∧
      t = (hop :: hops).foldl Trail.through (clientTrail cliHdr fhs) ∧
      headerMapGetAllOkToString out .via =
        [", ".intercalate (headerMapGetAllOkToString cliHdr .via ++ (hop :: hops).map Hop.via)] ∧
      getExistingForwardedHeaders out = .ok t.elements ∧
      ((∀ g ∈ hops, g.discards = false) → t.addresses =
        fhs.map ForwardedHeader.forValue ++ (hop :: hops).map fun g => some g.cliRemoteIp.text) ∧
      ∀ before last after, hops = before ++ last :: after → last.discards = true →
        (∀ g ∈ after, g.discards = false) →
        t.addresses = (last :: after).map fun g => some g.cliRemoteIp.text := by
  have hnone : hop.discards = true → fhs = [] := by
    intro hdiscards
    unfold Hop.discards at hdiscards
    rw [forwardedHeaders, if_pos hdiscards] at hread
    exact (Except.ok.inj hread).symm
  have hrelayable : ∀ fh ∈ fhs, fh.Relayable := by
    intro fh hfh
    have hkept : ¬hop.config.discardClientForwardedHeaders := by
      intro hdiscards
      rw [hnone hdiscards] at hfh
      cases hfh
    rw [forwardedHeaders, if_neg hkept] at hread
    exact relayable_of_getExistingForwardedHeaders hread hfh (hfields fh hfh).1 (hfields fh hfh).2
  have hfinds : hop.Finds cliHdr (clientTrail cliHdr fhs) := by
    refine ⟨fun v => getNewViaValue_eq v _, ?_, ?_, rfl, hhosts, rfl⟩
    · rw [hread]
      split_ifs with hdiscards
      · rw [hnone hdiscards]
      · rfl
    · split_ifs
      · simp
      · exact hrelayable
  obtain ⟨out, hout, hcarries⟩ := headersToTarget_carries hfinds hops
  refine ⟨out, _, hout, rfl, ?_, hcarries.elements, ?_, ?_⟩
  · rw [hcarries.via, Trail.vias_foldl]
    rfl
  · intro h
    rw [List.foldl_cons, Trail.addresses_foldl _ h, Trail.addresses_through]
    split_ifs with hdiscards
    · rw [hnone hdiscards]
      rfl
    · simp [Trail.addresses, clientTrail]
  · rintro before last after rfl hdiscards h
    rw [List.foldl_cons]
    exact Trail.addresses_foldl_discards _ before hdiscards h

/-- A router made by builder calls, seen from one address. -/
def hopAt (calls : List BuilderCall) (cliRemoteIp : VisibleText)
    (h : '\\' ∉ cliRemoteIp.text.toList) : Hop where
  config := builder.run Machine.anyAction .new calls
  built := Machine.reachable_run _ _ rfl calls
  version := .http11
  localIp := routerIp
  cliRemoteIp := cliRemoteIp
  uri := plainUri
  isTls := true
  plain := by
    have hrouter : '\\' ∉ routerIp.text.toList := by decide
    simpa [plainUri] using ⟨hrouter, h⟩

def edgeHop : Hop := hopAt [.withViaName "edge", .withDiscardClientForwardedHeaders true] clientIp
  (by decide)

def innerHop : Hop := hopAt [.shouldProxyHostHeader false] routerIp (by decide)

/-- A client that comes through a proxy and claims an address. -/
def claimingClient : HeaderMap :=
  appendText (appendText .new .via "1.0 fred") .forwarded "for=\"\\"

theorem headers_through_routers_edge :
    ∃ out, headersToTarget [edgeHop, innerHop] claimingClient = .ok out ∧
      headerMapGetAllOkToString out .via = ["1.0 fred, HTTP/1.1 edge, HTTP/1.1 scr-axum"] ∧
      (getExistingForwardedHeaders out).map (List.map ForwardedHeader.forValue) =
        .ok [some "10.0.0.2", some "10.0.0.1"] := by
  have hvia : ", ".intercalate (headerMapGetAllOkToString claimingClient .via ++
      [edgeHop, innerHop].map Hop.via) = "1.0 fred, HTTP/1.1 edge, HTTP/1.1 scr-axum" := by
    decide +kernel
  have hhosts : (clientTrail claimingClient []).PlainHosts := by
    have hnone : claimingClient.getAll .host = [] := by decide +kernel
    intro v hv
    rw [clientTrail, hnone] at hv
    cases hv
  obtain ⟨out, t, hout, -, hsent, helements, haddresses, -⟩ :=
    headers_through_routers edgeHop [innerHop] claimingClient [] rfl (by simp) hhosts
  refine ⟨out, hout, hsent.trans (by rw [hvia]), ?_⟩
  rw [helements]
  exact congrArg Except.ok (haddresses (by decide))

end CrankerRouter.Http
