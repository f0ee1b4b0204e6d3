import CrankerRouter.Http.Forwarded
import CrankerRouter.Lib.Split

/-!
# Printing and parsing `Forwarded` again

An element is printed as its fields in a fixed order.  Parsing follows one field at a time: the
name, then the value with or without quotes, then the separator.
-/

namespace CrankerRouter.Http

section Characters

theorem toNat_lt_of_isTChar {c : Char} (h : isTChar c) : c.toNat < 128 := by
  simp only [isTChar, Bool.or_eq_true, Bool.and_eq_true, decide_eq_true_eq, Char.le_def,
    UInt32.le_iff_toNat_le, List.contains_iff_mem] at h
  rcases h with ((h | h) | h) | h
  · exact Nat.lt_of_le_of_lt h.2 (by decide)
  · exact Nat.lt_of_le_of_lt h.2 (by decide)
  · exact Nat.lt_of_le_of_lt h.2 (by decide)
  · have hall : ("!#$%&'*+-.^_`|~".toList.all fun d => d.toNat < 128) = true := by decide
    simpa using List.all_eq_true.mp hall c h

/-- A property of characters below 128 is checked one by one. -/
theorem ascii_forall {P : Char → Prop} (h : ∀ n < 128, P (Char.ofNat n)) {c : Char}
    (hc : c.toNat < 128) : P c := by
  have hp := h c.toNat hc
  rwa [Char.ofNat_toNat] at hp

private theorem isTChar_plain {c : Char} (h : isTChar c) :
    isVChar c ∧ isOws c = false ∧ (c == ',') = false ∧ (c == ';') = false ∧ (c == '=') = false ∧
      (c == '"') = false :=
  ascii_forall (P := fun c => isTChar c → isVChar c ∧ isOws c = false ∧ (c == ',') = false ∧
      (c == ';') = false ∧ (c == '=') = false ∧ (c == '"') = false)
    (by decide +kernel) (toNat_lt_of_isTChar h) h

theorem isTChar_toLower {c : Char} (h : isTChar c) :
    isTChar c.toLower ∧ c.toLower.toLower = c.toLower :=
  ascii_forall (P := fun c => isTChar c → isTChar c.toLower ∧ c.toLower.toLower = c.toLower)
    (by decide +kernel) (toNat_lt_of_isTChar h) h

end Characters

/-- The names the parser gives to extensions. -/
structure IsExtensionName (k : String) : Prop where
  token : ∀ c ∈ k.toList, isTChar c
  lower : toLowercase k = k
  free : k ≠ "by" ∧ k ≠ "for" ∧ k ≠ "host" ∧ k ≠ "proto"

/-- What the parser returns: extensions are present only if there are any. -/
def ForwardedHeader.Valid (fh : ForwardedHeader) : Prop :=
  ∀ m, fh.extensions = some m → m.entries ≠ [] ∧ ∀ e ∈ m.entries, IsExtensionName e.1

namespace FHParser

variable {p q : FHParser} {c : Char} {input : String} {last : Option Char} {cs : List Char}
  {fh : ForwardedHeader} {hs : List ForwardedHeader}

/-- What a character does that does not end the element. -/
inductive Reads (p : FHParser) (c : Char) : FHParser → Prop
  | quote (b : Bool) : Reads p c { p with isQuotedString := b }
  | name (hstate : p.state = .paramName) (ht : isTChar c) : Reads p c (p.push c)
  | equals (hstate : p.state = .paramName) (hc : c = '=') : Reads p c
      { p with paramName := some (String.ofList p.buffer), buffer := [], state := .paramValue }
  | value (hstate : p.state = .paramValue) : Reads p c (p.push c)
  | store (hstate : p.state = .paramValue) (pn : String) (hname : p.paramName = some pn) :
      Reads p c { p.assign (toLowercase pn) (String.ofList p.buffer) with
        buffer := [], paramName := none, state := .paramName }

private theorem Reads.same (p : FHParser) (c : Char) : Reads p c p := Reads.quote p.isQuotedString

private theorem reads_of_onNameChar (hstate : p.state = .paramName)
    (h : p.onNameChar c = .ok (.more q)) : Reads p c q := by
  unfold onNameChar at h
  split_ifs at h with hend heq ht hows hempty
  · cases h
  · obtain rfl := Parsed.more.inj (Except.ok.inj h)
    exact .equals hstate (by simpa using heq)
  · obtain rfl := Parsed.more.inj (Except.ok.inj h)
    exact .name hstate ht
  · obtain rfl := Parsed.more.inj (Except.ok.inj h)
    exact .same p c

private theorem reads_of_onPlainChar (hstate : p.state = .paramValue)
    (h : p.onPlainChar c = .ok (.more q)) : Reads p c q := by
  unfold onPlainChar at h
  split_ifs at h with hsemi hcomma hv hows
  · cases hname : p.paramName with
    | none => simp [FHParser.store, hname, Except.map] at h
    | some pn =>
        simp only [FHParser.store, hname, Except.map] at h
        obtain rfl := Parsed.more.inj (Except.ok.inj h)
        exact .store hstate pn hname
  · cases h
  · obtain rfl := Parsed.more.inj (Except.ok.inj h)
    exact .value hstate
  · obtain rfl := Parsed.more.inj (Except.ok.inj h)
    exact .same p c

private theorem reads_onQuotedChar (hstate : p.state = .paramValue) (last : Option Char) (c : Char)
    : Reads p c (p.onQuotedChar last c) := by
  unfold onQuotedChar
  split_ifs
  · exact .same p c
  · exact .value hstate
  · exact .quote false
  · exact .value hstate

theorem reads_of_onChar (h : p.onChar last c = .ok (.more q)) : Reads p c q := by
  unfold onChar at h
  cases hstate : p.state with
  | paramName =>
      rw [hstate] at h
      exact reads_of_onNameChar hstate h
  | paramValue =>
      simp only [hstate, onValueChar] at h
      split_ifs at h with hows hquote hquoted
      · obtain rfl := Parsed.more.inj (Except.ok.inj h)
        exact .same p c
      · obtain rfl := Parsed.more.inj (Except.ok.inj h)
        rw [← hstate]
        exact .quote true
      · obtain rfl := Parsed.more.inj (Except.ok.inj h)
        exact reads_onQuotedChar hstate last c
      · exact reads_of_onPlainChar hstate h

private theorem end_of_onChar (h : p.onChar last c = .ok (.endOfElement q)) :
    c = ',' ∧ q = p := by
  unfold onChar at h
  cases hstate : p.state with
  | paramName =>
      simp only [hstate, onNameChar] at h
      split_ifs at h with hend
      all_goals cases h
      simp only [Bool.and_eq_true, beq_iff_eq] at hend
      exact ⟨hend.1, rfl⟩
  | paramValue =>
      simp only [hstate, onValueChar, onPlainChar] at h
      split_ifs at h with hows hquote hquoted hsemi hcomma
      any_goals cases h
      · cases hstore : p.store <;> simp [hstore, Except.map] at h
      · exact ⟨by simpa using hcomma, rfl⟩

theorem finish_cases (h : p.finish input = .ok fh) :
    (p.state = .paramName ∧ fh = p.header) ∨
      ∃ pn, p.state = .paramValue ∧ p.paramName = some pn ∧
        fh = (p.assign (toLowercase pn) (String.ofList p.buffer)).header := by
  unfold finish at h
  cases hstate : p.state with
  | paramName =>
      simp only [hstate] at h
      split_ifs at h
      exact .inl ⟨rfl, (Except.ok.inj h).symm⟩
  | paramValue =>
      cases hname : p.paramName with
      | none => simp [hstate, store, hname, Except.map] at h
      | some pn =>
          simp only [hstate, store, hname, Except.map] at h
          exact .inr ⟨pn, rfl, rfl, (Except.ok.inj h).symm⟩

/-- The induction over a text that is accepted: it ends inside an element, its first character is
one of an element, or a comma, behind which there may be nothing. -/
theorem loop_induction {P : Option Char → FHParser → List Char → List ForwardedHeader → Prop}
    (finish : ∀ last p fh, p.finish input = .ok fh → P last p [] [fh])
    (more : ∀ last p c q cs hs, p.onChar last c = .ok (.more q) → loop input (some c) q cs = .ok hs → P (some c) q cs hs → P last p (c :: cs) hs)
    (stop : ∀ last p fh, p.finish input = .ok fh → P last p [','] [fh])
    (next : ∀ last p cs fh hs, p.onChar last ',' = .ok (.endOfElement p) → p.finish input = .ok fh → cs ≠ [] → loop input (some ',') .new cs = .ok hs → P (some ',') .new cs hs → P last p (',' :: cs) (fh :: hs))
    (h : loop input last p cs = .ok hs) : P last p cs hs := by
  induction cs generalizing last p hs with
  | nil =>
      cases hfin : p.finish input with
      | error e => simp [loop, hfin, Except.map] at h
      | ok fh =>
          simp only [loop, hfin] at h
          obtain rfl := Except.ok.inj h
          exact finish last p fh hfin
  | cons c cs ih =>
      cases hchar : p.onChar last c with
      | error e => simp [loop, hchar] at h
      | ok out =>
          cases out with
          | more q =>
              simp only [loop, hchar] at h
              exact more last p c q cs hs hchar h (ih h)
          | endOfElement q =>
              obtain ⟨rfl, rfl⟩ := end_of_onChar hchar
              cases hfin : q.finish input with
              | error e => simp [loop, hchar, hfin] at h
              | ok fh =>
                  simp only [loop, hchar, hfin, List.isEmpty_iff] at h
                  split_ifs at h with hcs
                  · obtain rfl := Except.ok.inj h
                    subst hcs
                    exact stop last q fh hfin
                  · cases hrest : loop input (some ',') .new cs with
                    | error e => simp [hrest, Except.map] at h
                    | ok rest =>
                        rw [hrest] at h
                        obtain rfl := Except.ok.inj h
                        exact next last q cs fh rest hchar hfin hcs hrest (ih hrest)

/-- The names that are read and stored are tokens. -/
structure Sound (p : FHParser) : Prop where
  buffer : p.state = .paramName → ∀ c ∈ p.buffer, isTChar c
  paramName : ∀ pn, p.paramName = some pn → ∀ c ∈ pn.toList, isTChar c
  extensions : ∀ e ∈ p.extensions.entries, IsExtensionName e.1

theorem sound_new : new.Sound where
  buffer := by simp [new]
  paramName := by simp [new]
  extensions := by simp [new, LinkedHashMap.empty]

private theorem toLowercase_token {pn : String} (h : ∀ c ∈ pn.toList, isTChar c) :
    (∀ c ∈ (toLowercase pn).toList, isTChar c) ∧
      toLowercase (toLowercase pn) = toLowercase pn := by
  constructor
  · intro c hc
    simp only [toLowercase, String.toList_ofList, List.mem_map] at hc
    obtain ⟨d, hd, rfl⟩ := hc
    exact (isTChar_toLower (h d hd)).1
  · simp only [toLowercase, String.toList_ofList, List.map_map]
    congr 1
    apply List.map_congr_left
    intro c hc
    exact (isTChar_toLower (h c hc)).2

private theorem assign_extensions {pn val : String} (hp : p.Sound)
    (hpn : ∀ c ∈ pn.toList, isTChar c) (hlower : toLowercase pn = pn) :
    ∀ e ∈ (p.assign pn val).extensions.entries, IsExtensionName e.1 := by
  unfold assign
  split_ifs with hby hfor hhost hproto
  · exact hp.extensions
  · exact hp.extensions
  · exact hp.extensions
  · exact hp.extensions
  · intro e he
    simp only [LinkedHashMap.insert, List.mem_append, List.mem_filter, List.mem_singleton] at he
    rcases he with hold | rfl
    · exact hp.extensions e hold.1
    · exact ⟨hpn, hlower, hby, hfor, hhost, hproto⟩

private theorem assigned_extensions (hp : p.Sound) {pn : String} (hname : p.paramName = some pn)
    (val : String) :
    ∀ e ∈ (p.assign (toLowercase pn) val).extensions.entries, IsExtensionName e.1 := by
  obtain ⟨htoken, hlower⟩ := toLowercase_token (hp.paramName pn hname)
  exact assign_extensions hp htoken hlower

theorem Sound.push (hp : p.Sound) (hc : p.state = .paramName → isTChar c) : (p.push c).Sound where
  buffer := by
    intro hstate d hd
    simp only [FHParser.push, List.mem_append, List.mem_singleton] at hd
    rcases hd with hd | rfl
    · exact hp.buffer hstate d hd
    · exact hc hstate
  paramName := hp.paramName
  extensions := hp.extensions

theorem Sound.reads (hp : p.Sound) (h : Reads p c q) : q.Sound := by
  cases h with
  | quote b => exact ⟨hp.buffer, hp.paramName, hp.extensions⟩
  | name hstate ht => exact hp.push fun _ => ht
  | value hstate => exact hp.push fun h => by simp [hstate] at h
  | equals hstate hc =>
      refine ⟨by simp, ?_, hp.extensions⟩
      intro pn hpn
      obtain rfl := Option.some.inj hpn
      simpa using hp.buffer hstate
  | store hstate pn hname => exact ⟨by simp, by simp, assigned_extensions hp hname _⟩

private theorem valid_header (h : ∀ e ∈ p.extensions.entries, IsExtensionName e.1) :
    p.header.Valid := by
  intro m hm
  unfold header LinkedHashMap.isEmpty at hm
  by_cases hempty : p.extensions.entries.isEmpty
  · simp [hempty] at hm
  · obtain rfl : p.extensions = m := by simpa [hempty] using hm
    exact ⟨by simpa using hempty, h⟩

theorem Sound.finish (hp : p.Sound) (h : p.finish input = .ok fh) : fh.Valid := by
  rcases finish_cases h with ⟨-, rfl⟩ | ⟨pn, -, hname, rfl⟩
  · exact valid_header hp.extensions
  · exact valid_header (assigned_extensions hp hname _)

theorem Sound.loop (hp : p.Sound) (h : FHParser.loop input last p cs = .ok hs) :
    ∀ fh ∈ hs, fh.Valid := by
  refine loop_induction (P := fun _ p _ hs => p.Sound → ∀ fh ∈ hs, fh.Valid) ?_ ?_ ?_ ?_ h hp
  · intro last p fh hfin hp
    simpa using hp.finish hfin
  · intro last p c q cs hs hchar hloop ih hp
    exact ih (hp.reads (reads_of_onChar hchar))
  · intro last p fh hfin hp
    simpa using hp.finish hfin
  · intro last p cs fh hs hchar hfin hcs hloop ih hp
    simpa using ⟨hp.finish hfin, ih sound_new⟩

end FHParser

theorem ForwardedHeader.valid_of_fromString {s : String} {hs : List ForwardedHeader}
    (h : fromString s = .ok hs) : ∀ fh ∈ hs, fh.Valid := by
  unfold fromString at h
  split_ifs at h
  · obtain rfl := Except.ok.inj h
    simp
  · exact FHParser.sound_new.loop h

namespace ForwardedHeader

/-- The fields present, in the order they are printed. -/
def fields (fh : ForwardedHeader) : List (String × String) :=
  (fh.byValue.map fun v => ("by", v)).toList ++ (fh.forValue.map fun v => ("for", v)).toList ++
    (fh.host.map fun v => ("host", v)).toList ++ (fh.proto.map fun v => ("proto", v)).toList ++
    (fh.extensions.map LinkedHashMap.entries).getD []

def values (fh : ForwardedHeader) : List String := fh.fields.map Prod.snd

/-- One field, printed. -/
def printed (field : String × String) : List Char :=
  field.1.toList ++ '=' :: (quoteIfNeeded field.2).toList

def appendFields (sb : String) (fields : List (String × String)) : String :=
  fields.foldl (fun sb field => appendStringForForwardedHeader sb field.1 (some field.2)) sb

private theorem appendFields_append (sb : String) (fs gs : List (String × String)) :
    appendFields sb (fs ++ gs) = appendFields (appendFields sb fs) gs :=
  List.foldl_append

private theorem appendFields_option (sb k : String) (v : Option String) :
    appendFields sb (v.map fun v => (k, v)).toList = appendStringForForwardedHeader sb k v := by
  cases v <;> rfl

theorem display_eq (fh : ForwardedHeader) : fh.display = appendFields "" fh.fields := by
  unfold fields
  simp only [appendFields_append, appendFields_option, display]
  cases fh.extensions <;> rfl

private theorem toList_append_some (sb : String) (field : String × String) :
    (appendStringForForwardedHeader sb field.1 (some field.2)).toList =
      (if sb.toList = [] then [] else sb.toList ++ [';']) ++ printed field := by
  by_cases hsb : sb = ""
  · simp [appendStringForForwardedHeader, hsb, printed]
  · simp [appendStringForForwardedHeader, hsb, printed]

private theorem toList_appendFields (sb : String) (hsb : sb.toList ≠ [])
    (fields : List (String × String)) :
    (appendFields sb fields).toList =
      sb.toList ++ fields.flatMap fun field => ';' :: printed field := by
  induction fields generalizing sb with
  | nil => simp [appendFields]
  | cons field fields ih =>
      have hstep := toList_append_some sb field
      rw [if_neg hsb] at hstep
      have hne : (appendStringForForwardedHeader sb field.1 (some field.2)).toList ≠ [] := by
        simp [hstep]
      have hrest := ih _ hne
      rw [hstep] at hrest
      simpa [appendFields] using hrest

theorem toList_display (fh : ForwardedHeader) {field : String × String}
    {rest : List (String × String)} (h : fh.fields = field :: rest) :
    fh.display.toList = printed field ++ rest.flatMap fun field => ';' :: printed field := by
  have hstep : (appendStringForForwardedHeader "" field.1 (some field.2)).toList =
      printed field := by
    simpa using toList_append_some "" field
  have hne : (appendStringForForwardedHeader "" field.1 (some field.2)).toList ≠ [] := by
    simp [hstep, printed]
  have hrest := toList_appendFields _ hne rest
  rw [hstep] at hrest
  rw [display_eq, h]
  exact hrest

theorem fields_ne_nil {fh : ForwardedHeader} (hvalid : fh.Valid) (h : fh.hasField) :
    fh.fields ≠ [] := by
  rcases fh with ⟨_ | _, _ | _, _ | _, _ | _, _ | m⟩ <;> simp [fields, hasField] at h ⊢
  exact (hvalid m rfl).1

end ForwardedHeader

namespace FHParser

variable (input : String)

/-- Between two fields of an element. -/
structure AtName (p : FHParser) : Prop where
  state : p.state = .paramName
  paramName : p.paramName = none
  buffer : p.buffer = []
  plain : p.isQuotedString = false

/-- At the end of a field that is not stored yet. -/
def holding (p : FHParser) (k v : String) : FHParser :=
  { p with state := .paramValue, paramName := some k, buffer := v.toList }

theorem loop_more {last : Option Char} {p q : FHParser} {c : Char} {cs : List Char}
    (h : p.onChar last c = .ok (.more q)) : loop input last p (c :: cs) = loop input (some c) q cs := by
  simp only [loop, h]

theorem loop_name {p : FHParser} (hstate : p.state = .paramName) (ks : List Char)
    (hks : ∀ c ∈ ks, isTChar c) (last : Option Char) (rest : List Char) :
    ∃ last', loop input last p (ks ++ rest) =
      loop input last' { p with buffer := p.buffer ++ ks } rest := by
  induction ks generalizing p last with
  | nil => exact ⟨last, by simp⟩
  | cons c ks ih =>
      have hc := hks c (by simp)
      have hplain := isTChar_plain hc
      have hstep : p.onChar last c = .ok (.more (p.push c)) := by
        simp [onChar, hstate, onNameChar, hplain, hc]
      obtain ⟨last', hrest⟩ := ih (p := p.push c) hstate (fun d hd => hks d (by simp [hd])) (some c)
      refine ⟨last', ?_⟩
      rw [List.cons_append, loop_more input hstep, hrest]
      simp [push]

private theorem loop_plain {p : FHParser} (hstate : p.state = .paramValue)
    (hquoted : p.isQuotedString = false)
    (vs : List Char) (hvs : ∀ c ∈ vs, isTChar c) (last : Option Char) (rest : List Char) :
    ∃ last', loop input last p (vs ++ rest) =
      loop input last' { p with buffer := p.buffer ++ vs } rest := by
  induction vs generalizing p last with
  | nil => exact ⟨last, by simp⟩
  | cons c vs ih =>
      have hc := hvs c (by simp)
      have hplain := isTChar_plain hc
      have hstep : p.onChar last c = .ok (.more (p.push c)) := by
        simp [onChar, hstate, onValueChar, onPlainChar, hquoted, hplain]
      obtain ⟨last', hrest⟩ :=
        ih (p := p.push c) hstate hquoted (fun d hd => hvs d (by simp [hd])) (some c)
      refine ⟨last', ?_⟩
      rw [List.cons_append, loop_more input hstep, hrest]
      simp [push]

private theorem loop_escaped {p : FHParser} (hstate : p.state = .paramValue)
    (hquoted : p.isQuotedString)
    (vs : List Char) (hvs : '\\' ∉ vs) (last : Option Char) (hlast : last ≠ some '\\')
    (rest : List Char) :
    ∃ last', last' ≠ some '\\' ∧ loop input last p (ForwardedHeader.escapeQuotes vs ++ rest) =
      loop input last' { p with buffer := p.buffer ++ vs } rest := by
  induction vs generalizing p last with
  | nil => exact ⟨last, hlast, by simp [ForwardedHeader.escapeQuotes]⟩
  | cons c vs ih =>
      have hc : c ≠ '\\' := fun h => hvs (by simp [h])
      obtain ⟨last', hlast', hrest⟩ := ih (p := p.push c) hstate hquoted
        (fun h => hvs (by simp [h])) (some c) (by simpa using hc)
      refine ⟨last', hlast', ?_⟩
      have hpush : { p.push c with buffer := (p.push c).buffer ++ vs } =
          { p with buffer := p.buffer ++ c :: vs } := by
        simp [push]
      rw [hpush] at hrest
      by_cases hq : c = '"'
      · have hback : p.onChar last '\\' = .ok (.more p) := by
          simp [onChar, hstate, onValueChar, onQuotedChar, hquoted]
        have hstep : p.onChar (some '\\') '"' = .ok (.more (p.push '"')) := by
          simp [onChar, hstate, onValueChar, onQuotedChar, hquoted]
        subst hq
        rw [← hrest]
        simp only [ForwardedHeader.escapeQuotes, List.flatMap_cons, beq_self_eq_true, if_true,
          List.cons_append, List.nil_append]
        rw [loop_more input hback, loop_more input hstep]
      · have hstep : p.onChar last c = .ok (.more (p.push c)) := by
          simp [onChar, hstate, onValueChar, onQuotedChar, hquoted, hc, hlast, hq]
        rw [← hrest]
        simp only [ForwardedHeader.escapeQuotes, List.flatMap_cons, beq_iff_eq, hq, if_false,
          List.cons_append, List.nil_append]
        rw [loop_more input hstep]

private theorem loop_value {p : FHParser} (hstate : p.state = .paramValue) (hbuffer : p.buffer = [])
    (hquoted : p.isQuotedString = false) (v : String) (hv : '\\' ∉ v.toList)
    (last : Option Char) (rest : List Char) :
    ∃ last', loop input last p ((ForwardedHeader.quoteIfNeeded v).toList ++ rest) =
      loop input last' { p with buffer := v.toList } rest := by
  unfold ForwardedHeader.quoteIfNeeded
  split_ifs with htoken
  · obtain ⟨last', h⟩ := loop_plain input hstate hquoted v.toList
      (List.all_eq_true.mp htoken) last rest
    exact ⟨last', by simpa [hbuffer] using h⟩
  · have hopen : p.onChar last '"' = .ok (.more { p with isQuotedString := true }) := by
      simp [onChar, hstate, onValueChar, hquoted, hbuffer, isOws]
    obtain ⟨last', hlast', h⟩ := loop_escaped input (p := { p with isQuotedString := true }) hstate rfl v.toList hv (some '"') (by simp)
      ('"' :: rest)
    have hsame : { p with buffer := v.toList } =
        { p with isQuotedString := false, buffer := v.toList } := by
      rw [← hquoted]
    have hclose : { p with isQuotedString := true, buffer := v.toList }.onChar last' '"' =
        .ok (.more { p with buffer := v.toList }) := by
      rw [hsame]
      simp [onChar, hstate, onValueChar, onQuotedChar, hlast']
    have hchars : ("\"" ++ String.ofList (ForwardedHeader.escapeQuotes v.toList) ++ "\"").toList ++
        rest = '"' :: (ForwardedHeader.escapeQuotes v.toList ++ '"' :: rest) := by
      simp
    refine ⟨some '"', ?_⟩
    simp only [hbuffer, List.nil_append] at h hopen
    rw [hchars, loop_more input hopen, h, loop_more input hclose]

/-- A field as the parser gives it: its name is a token in lower case. -/
structure Named (field : String × String) : Prop where
  token : ∀ c ∈ field.1.toList, isTChar c
  lower : toLowercase field.1 = field.1

/-- A field that is read back as it was printed. -/
structure Readable (field : String × String) : Prop extends Named field where
  plain : '\\' ∉ field.2.toList

theorem loop_field {p : FHParser} (hp : p.AtName) {field : String × String}
    (hfield : Readable field) (last : Option Char) (rest : List Char) :
    ∃ last', loop input last p (ForwardedHeader.printed field ++ rest) =
      loop input last' (p.holding field.1 field.2) rest := by
  obtain ⟨last₁, hname⟩ := loop_name input hp.state field.1.toList hfield.token last
    ('=' :: ((ForwardedHeader.quoteIfNeeded field.2).toList ++ rest))
  rw [hp.buffer, List.nil_append] at hname
  have heq : { p with buffer := field.1.toList }.onChar last₁ '=' =
      .ok (.more { p with paramName := some field.1, buffer := [], state := .paramValue }) := by
    simp [onChar, hp.state, onNameChar]
  obtain ⟨last₂, hvalue⟩ := loop_value input
    (p := { p with paramName := some field.1, buffer := [], state := .paramValue })
    rfl rfl hp.plain field.2 hfield.plain (some '=') rest
  refine ⟨last₂, ?_⟩
  unfold ForwardedHeader.printed
  rw [List.append_assoc, List.cons_append, hname, loop_more input heq, hvalue]
  rfl

private theorem store_holding (p : FHParser) {k : String} (v : String) (hk : toLowercase k = k) :
    (p.holding k v).store = .ok ((p.holding k v).assign k v) := by
  simp [store, holding, hk]

private theorem header_assign_holding (p : FHParser) (k v : String) :
    ((p.holding k v).assign k v).header = (p.assign k v).header := by
  unfold assign
  split_ifs <;> rfl

private theorem finish_holding (p : FHParser) {k : String} (v : String) (hk : toLowercase k = k) :
    (p.holding k v).finish input = .ok (p.assign k v).header := by
  have hfinish : (p.holding k v).finish input = (p.holding k v).store.map header := rfl
  rw [hfinish, store_holding p v hk, Except.map, header_assign_holding]

theorem AtName.assign {p : FHParser} (hp : p.AtName) (k v : String) : (p.assign k v).AtName := by
  unfold FHParser.assign
  split_ifs <;> exact ⟨hp.state, hp.paramName, hp.buffer, hp.plain⟩

/-- A semicolon stores the field and leaves the parser between two fields. -/
theorem onChar_semicolon {p : FHParser} (hp : p.AtName) {k : String} (v : String)
    (hk : toLowercase k = k) (last : Option Char) :
    (p.holding k v).onChar last ';' = .ok (.more (p.assign k v)) := by
  have hclear : { (p.holding k v).assign k v with
      buffer := [], paramName := none, state := .paramName } = p.assign k v := by
    obtain ⟨hstate, hname, hbuffer, -⟩ := hp
    unfold FHParser.assign holding
    split_ifs <;> simp [← hstate, ← hname, ← hbuffer]
  have hplain : (p.holding k v).onChar last ';' = (p.holding k v).onPlainChar ';' := by
    simp [onChar, onValueChar, holding, hp.plain, isOws]
  rw [hplain, ← hclear]
  simp [onPlainChar, store_holding p v hk, Except.map]

def assignAll (p : FHParser) (fields : List (String × String)) : FHParser :=
  fields.foldl (fun p field => p.assign field.1 field.2) p

private theorem loop_fields {p : FHParser} (hp : p.AtName) {field : String × String}
    {fields : List (String × String)} (hall : ∀ f ∈ field :: fields, Readable f)
    (last : Option Char) (rest : List Char) :
    ∃ (last' : Option Char) (q : FHParser) (k v : String), q.AtName ∧ (q.holding k v).finish input =
        .ok (p.assignAll (field :: fields)).header ∧
      loop input last p (ForwardedHeader.printed field ++
        (fields.flatMap fun f => ';' :: ForwardedHeader.printed f) ++ rest) =
      loop input last' (q.holding k v) rest := by
  have hfield := hall field (by simp)
  induction fields generalizing p field last with
  | nil =>
      obtain ⟨last', h⟩ := loop_field input hp hfield last rest
      exact ⟨last', p, field.1, field.2, hp, finish_holding input p field.2 hfield.lower,
        by simpa using h⟩
  | cons next fields ih =>
      obtain ⟨last₁, h⟩ := loop_field input hp hfield last
        (';' :: (ForwardedHeader.printed next ++
          (fields.flatMap fun f => ';' :: ForwardedHeader.printed f) ++ rest))
      have hnext : ∀ f ∈ next :: fields, Readable f := fun f hf => hall f (by simp [hf])
      obtain ⟨last₂, q, k, v, hq, hfinish, hrest⟩ := ih (hp.assign field.1 field.2) hnext (some ';')
        (hall next (by simp))
      refine ⟨last₂, q, k, v, hq, hfinish, ?_⟩
      rw [loop_more input (onChar_semicolon hp field.2 hfield.lower last₁), hrest] at h
      simpa using h

private theorem assign_extension (p : FHParser) {k : String} (v : String) (hk : IsExtensionName k) :
    p.assign k v = { p with extensions := p.extensions.insert k v } := by
  obtain ⟨hby, hfor, hhost, hproto⟩ := hk.free
  simp [assign, hby, hfor, hhost, hproto]

private theorem assignAll_extensions (p : FHParser) (es : List (String × String))
    (hnames : ∀ e ∈ es, IsExtensionName e.1)
    (hnodup : ((p.extensions.entries ++ es).map Prod.fst).Nodup) :
    ∃ m, m.entries = p.extensions.entries ++ es ∧ p.assignAll es = { p with extensions := m } := by
  induction es generalizing p with
  | nil => exact ⟨p.extensions, by simp, rfl⟩
  | cons e es ih =>
      have hassign := p.assign_extension e.2 (hnames e (by simp))
      have hentries : (p.extensions.insert e.1 e.2).entries = p.extensions.entries ++ [e] := by
        have hfresh : ∀ d ∈ p.extensions.entries, d.1 ≠ e.1 := by
          intro d hd
          rw [List.map_append, List.nodup_append] at hnodup
          exact hnodup.2.2 d.1 (List.mem_map_of_mem hd) e.1 (by simp)
        have hfilter : p.extensions.entries.filter (fun d => d.1 ≠ e.1) = p.extensions.entries := by
          rw [List.filter_eq_self]
          intro d hd
          simpa using hfresh d hd
        show p.extensions.entries.filter (fun d => d.1 ≠ e.1) ++ [e] = _
        rw [hfilter]
      obtain ⟨m, hm, hrest⟩ := ih (p.assign e.1 e.2) (fun d hd => hnames d (by simp [hd]))
        (by simpa [hassign, hentries] using hnodup)
      refine ⟨m, by simpa [hassign, hentries] using hm, ?_⟩
      show (p.assign e.1 e.2).assignAll es = _
      rw [hrest, hassign]

end FHParser

namespace ForwardedHeader

open FHParser

private theorem header_assignAll {fh : ForwardedHeader} (hvalid : fh.Valid) :
    (FHParser.new.assignAll fh.fields).header = fh := by
  obtain ⟨byValue, forValue, host, proto, extensions⟩ := fh
  have hnamed : FHParser.new.assignAll ((byValue.map fun v => ("by", v)).toList ++
      (forValue.map fun v => ("for", v)).toList ++ (host.map fun v => ("host", v)).toList ++
      (proto.map fun v => ("proto", v)).toList) =
      { FHParser.new with byValue := byValue, forValue := forValue, host := host, proto := proto } := by
    cases byValue <;> cases forValue <;> cases host <;> cases proto <;>
      simp [assignAll, assign, FHParser.new]
  have happend : ∀ fs gs : List (String × String),
      FHParser.new.assignAll (fs ++ gs) = (FHParser.new.assignAll fs).assignAll gs :=
    fun _ _ => List.foldl_append
  rw [fields, happend, hnamed]
  cases extensions with
  | none => rfl
  | some m =>
      obtain ⟨hne, hnames⟩ := hvalid m rfl
      obtain ⟨m', hm', hext⟩ := assignAll_extensions
        { FHParser.new with byValue := byValue, forValue := forValue, host := host, proto := proto }
        m.entries hnames m.nodup
      obtain rfl : m' = m := LinkedHashMap.ext hm'
      rw [Option.map_some, Option.getD_some, hext]
      simp [header, LinkedHashMap.isEmpty, hne]

theorem named_fields {fh : ForwardedHeader} (hvalid : fh.Valid) : ∀ f ∈ fh.fields, Named f := by
  intro f hf
  have hreserved : ∀ k ∈ ["by", "for", "host", "proto"], k.toList.all isTChar ∧
      toLowercase k = k := by
    decide
  simp only [fields, List.mem_append, Option.mem_toList, Option.map_eq_some_iff] at hf
  rcases hf with (((⟨v, -, rfl⟩ | ⟨v, -, rfl⟩) | ⟨v, -, rfl⟩) | ⟨v, -, rfl⟩) | hext
  · have hk := hreserved "by" (by simp)
    exact ⟨List.all_eq_true.mp hk.1, hk.2⟩
  · have hk := hreserved "for" (by simp)
    exact ⟨List.all_eq_true.mp hk.1, hk.2⟩
  · have hk := hreserved "host" (by simp)
    exact ⟨List.all_eq_true.mp hk.1, hk.2⟩
  · have hk := hreserved "proto" (by simp)
    exact ⟨List.all_eq_true.mp hk.1, hk.2⟩
  · cases hm : fh.extensions with
    | none => simp [hm] at hext
    | some m =>
        have hname := (hvalid m hm).2 f (by simpa [hm] using hext)
        exact ⟨hname.token, hname.lower⟩

theorem readable_fields {fh : ForwardedHeader} (hvalid : fh.Valid)
    (hplain : ∀ v ∈ fh.values, '\\' ∉ v.toList) : ∀ f ∈ fh.fields, Readable f :=
  fun f hf => ⟨named_fields hvalid f hf, hplain f.2 (List.mem_map_of_mem hf)⟩

/-- What a printed list needs to be read back. -/
structure Printable (fh : ForwardedHeader) : Prop where
  valid : fh.Valid
  hasField : fh.hasField
  plain : ∀ v ∈ fh.values, '\\' ∉ v.toList

private theorem loop_display {fh : ForwardedHeader} (hfh : fh.Printable) (input : String)
    (last : Option Char) (rest : List Char) :
    ∃ last' q, q.state = .paramValue ∧ q.isQuotedString = false ∧ q.finish input = .ok fh ∧
      loop input last .new (fh.display.toList ++ rest) = loop input last' q rest := by
  have hnew : FHParser.new.AtName := ⟨rfl, rfl, rfl, rfl⟩
  obtain ⟨field, fields, hfields⟩ :=
    List.exists_cons_of_ne_nil (fields_ne_nil hfh.valid hfh.hasField)
  have hall := readable_fields hfh.valid hfh.plain
  rw [hfields] at hall
  obtain ⟨last', q, k, v, hq, hfinish, h⟩ := loop_fields input hnew hall last rest
  rw [← hfields, header_assignAll hfh.valid] at hfinish
  refine ⟨last', q.holding k v, rfl, hq.plain, hfinish, ?_⟩
  rw [toList_display fh hfields]
  exact h

/-- The element ends at its comma, and the blank after it is skipped. -/
theorem loop_display_comma {fh : ForwardedHeader} (hfh : fh.Printable) (input : String)
    (last : Option Char) (rest : List Char) :
    loop input last .new (fh.display.toList ++ ',' :: ' ' :: rest) =
      (loop input (some ' ') .new rest).map (fh :: ·) := by
  obtain ⟨last', q, hstate, hplain, hfinish, h⟩ := loop_display hfh input last (',' :: ' ' :: rest)
  have hcomma : q.onChar last' ',' = .ok (.endOfElement q) := by
    simp [onChar, hstate, onValueChar, hplain, onPlainChar, isOws]
  have hblank : FHParser.new.onChar (some ',') ' ' = .ok (.more .new) := rfl
  rw [h, loop, hcomma]
  simp only [hfinish, loop_more input hblank]
  rfl

theorem loop_displayAll {fh : ForwardedHeader} {hs : List ForwardedHeader}
    (hall : ∀ h ∈ fh :: hs, Printable h) (input : String) (last : Option Char) :
    loop input last .new (fh.display.toList ++ hs.flatMap fun h => ',' :: ' ' :: h.display.toList) =
      .ok (fh :: hs) := by
  induction hs generalizing fh last with
  | nil =>
      obtain ⟨last', q, -, -, hfinish, h⟩ := loop_display (hall fh (by simp)) input last []
      rw [List.flatMap_nil, h]
      simp [loop, hfinish, Except.map]
  | cons next hs ih =>
      have hnext : ∀ h ∈ next :: hs, Printable h := fun h hh => hall h (by simp [hh])
      have hrest := ih hnext (some ' ')
      rw [List.flatMap_cons, List.cons_append, List.cons_append,
        loop_display_comma (hall fh (by simp)), hrest]
      rfl

private theorem toList_displayAll (fh : ForwardedHeader) (hs : List ForwardedHeader) :
    (", ".intercalate ((fh :: hs).map display)).toList =
      fh.display.toList ++ hs.flatMap fun h => ',' :: ' ' :: h.display.toList := by
  rw [List.map_cons, Lib.toList_intercalate, List.flatMap_map]
  rfl

theorem fromString_displayAll {fh : ForwardedHeader} (hvalid : fh.Valid) (hfield : fh.hasField)
    (hs : List ForwardedHeader) :
    fromString (", ".intercalate ((fh :: hs).map display)) =
      loop (", ".intercalate ((fh :: hs).map display)) none .new
        (fh.display.toList ++ hs.flatMap fun h => ',' :: ' ' :: h.display.toList) := by
  have hprinted : '=' ∈ fh.display.toList := by
    obtain ⟨field, fields, hcons⟩ := List.exists_cons_of_ne_nil (fields_ne_nil hvalid hfield)
    rw [toList_display fh hcons]
    simp [printed]
  unfold fromString
  rw [toList_displayAll, if_neg]
  intro hblank
  have heq := List.all_eq_true.mp hblank '=' (by simp [hprinted])
  exact absurd heq (by decide)

end ForwardedHeader

end CrankerRouter.Http
