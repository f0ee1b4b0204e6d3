import CrankerRouter.Http.RoundTrip

/-!
# Backslashes in `Forwarded` values

The printer does not escape a backslash and the parser drops it inside quotes, so a value with one
is not read back.  The text behind it may be misread in turn.  But every `=` of a text is read at
most once, as the end of a name or as a part of a value, and the printed list has just as many as
its fields need: no later field can put the lost value right.
-/

namespace CrankerRouter.Http

/-- What fields take of a text: the `=` behind each name and those inside the values. -/
def weight (fields : List (String × String)) : Nat :=
  (fields.map fun f => 1 + f.2.toList.count '=').sum

section Weight

private theorem count_cons_append (c : Char) (cs : List Char) :
    (c :: cs).count '=' = [c].count '=' + cs.count '=' := by
  rw [← List.count_append, List.singleton_append]

@[simp] theorem weight_nil : weight [] = 0 := rfl

@[simp] theorem weight_cons (f : String × String) (fs : List (String × String)) :
    weight (f :: fs) = 1 + f.2.toList.count '=' + weight fs := rfl

@[simp] theorem weight_append (fs gs : List (String × String)) :
    weight (fs ++ gs) = weight fs + weight gs := by
  simp [weight]

private theorem weight_filter_le (fs : List (String × String)) (keep : String × String → Bool) :
    weight (fs.filter keep) ≤ weight fs := by
  induction fs with
  | nil => rfl
  | cons f fs ih =>
      rw [List.filter_cons]
      split_ifs
      · simpa using ih
      · rw [weight_cons]
        omega

private theorem weight_filter_lt {fs : List (String × String)} {keep : String × String → Bool}
    {f : String × String} (hf : f ∈ fs) (hdrop : keep f = false) :
    weight (fs.filter keep) < weight fs := by
  induction fs with
  | nil => cases hf
  | cons g fs ih =>
      have hrest := weight_filter_le fs keep
      rw [List.filter_cons, weight_cons]
      rcases List.mem_cons.mp hf with rfl | hf
      · rw [hdrop]
        simp only [Bool.false_eq_true, if_false]
        omega
      · have hlt := ih hf
        split_ifs
        · rw [weight_cons]
          omega
        · omega

private theorem weight_replace (l r : List (String × String)) (old : Option (String × String))
    (new : String × String) :
    weight (l ++ [new] ++ r) ≤ weight (l ++ old.toList ++ r) + weight [new] := by
  simp only [weight_append]
  omega

private theorem kept_or_lighter_replace {l r : List (String × String)}
    {old : Option (String × String)} (new : String × String) {f : String × String}
    (hf : f ∈ l ++ old.toList ++ r) :
    f ∈ l ++ [new] ++ r ∨
      weight (l ++ [new] ++ r) < weight (l ++ old.toList ++ r) + weight [new] := by
  simp only [List.mem_append, weight_append] at hf ⊢
  rcases hf with (hf | hf) | hf
  · exact .inl (.inl (.inl hf))
  · obtain rfl : old = some f := by simpa using hf
    refine .inr ?_
    simp only [Option.toList_some, weight_cons, weight_nil]
    omega
  · exact .inl (.inr hf)

end Weight

namespace FHParser

def fields (p : FHParser) : List (String × String) := p.header.fields

private theorem fields_eq (p : FHParser) :
    p.fields = (p.byValue.map fun v => ("by", v)).toList ++
      (p.forValue.map fun v => ("for", v)).toList ++ (p.host.map fun v => ("host", v)).toList ++
      (p.proto.map fun v => ("proto", v)).toList ++ p.extensions.entries := by
  unfold fields ForwardedHeader.fields header
  by_cases hempty : p.extensions.isEmpty
  · have hnil : p.extensions.entries = [] := by simpa [LinkedHashMap.isEmpty] using hempty
    simp [hempty, hnil]
  · simp [hempty]

private theorem fields_assign (p : FHParser) (k v : String) :
    weight (p.assign k v).fields ≤ weight p.fields + weight [(k, v)] ∧
      (k, v) ∈ (p.assign k v).fields ∧
      ∀ f ∈ p.fields, f ∈ (p.assign k v).fields ∨
        weight (p.assign k v).fields < weight p.fields + weight [(k, v)] := by
  have hreplace : ∀ (l r : List (String × String)) (old : Option (String × String)),
      p.fields = l ++ old.toList ++ r → (p.assign k v).fields = l ++ [(k, v)] ++ r →
      weight (p.assign k v).fields ≤ weight p.fields + weight [(k, v)] ∧
        (k, v) ∈ (p.assign k v).fields ∧
        ∀ f ∈ p.fields, f ∈ (p.assign k v).fields ∨
          weight (p.assign k v).fields < weight p.fields + weight [(k, v)] := by
    intro l r old hold hnew
    rw [hold, hnew]
    exact ⟨weight_replace l r old (k, v), by simp, fun f hf => kept_or_lighter_replace (k, v) hf⟩
  let b := (p.byValue.map fun v => ("by", v)).toList
  let f := (p.forValue.map fun v => ("for", v)).toList
  let h := (p.host.map fun v => ("host", v)).toList
  let pr := (p.proto.map fun v => ("proto", v)).toList
  by_cases hby : k = "by"
  · subst hby
    apply hreplace [] (f ++ h ++ pr ++ p.extensions.entries) (p.byValue.map fun v => ("by", v))
    · simp [fields_eq, f, h, pr]
    · simp [fields_eq, assign, f, h, pr]
  by_cases hfor : k = "for"
  · subst hfor
    apply hreplace b (h ++ pr ++ p.extensions.entries) (p.forValue.map fun v => ("for", v))
    · simp [fields_eq, b, h, pr]
    · simp [fields_eq, assign, b, h, pr]
  by_cases hhost : k = "host"
  · subst hhost
    apply hreplace (b ++ f) (pr ++ p.extensions.entries) (p.host.map fun v => ("host", v))
    · simp [fields_eq, b, f, pr]
    · simp [fields_eq, assign, b, f, pr]
  by_cases hproto : k = "proto"
  · subst hproto
    apply hreplace (b ++ f ++ h) p.extensions.entries (p.proto.map fun v => ("proto", v))
    · simp [fields_eq, b, f, h]
    · simp [fields_eq, assign, b, f, h]
  have hassign : p.assign k v = { p with extensions := p.extensions.insert k v } := by
    simp [assign, hby, hfor, hhost, hproto]
  have hentries : (p.extensions.insert k v).entries =
      p.extensions.entries.filter (fun e => e.1 ≠ k) ++ [(k, v)] := rfl
  rw [hassign]
  simp only [fields_eq, hentries, weight_append, List.mem_append]
  refine ⟨?_, by simp, ?_⟩
  · have hle := weight_filter_le p.extensions.entries fun e => e.1 ≠ k
    omega
  · rintro f (hf | hf)
    · exact .inl (.inl hf)
    · by_cases hk : f.1 = k
      · have hlt : weight (p.extensions.entries.filter fun e => e.1 ≠ k) <
            weight p.extensions.entries := weight_filter_lt hf (by simpa using hk)
        exact .inr (by omega)
      · exact .inl (.inr (.inl (List.mem_filter.mpr ⟨hf, by simpa using hk⟩)))

/-- The `=` read so far that are of use: those of the fields stored and of the value being read. -/
def weigh (p : FHParser) : Nat :=
  weight p.fields + match p.state with
    | .paramName => 0
    | .paramValue => 1 + p.buffer.count '='

private theorem weigh_atName (p : FHParser) :
    ({ p with buffer := [], paramName := none, state := .paramName } : FHParser).weigh =
      weight p.fields :=
  rfl

private theorem weight_stored {p : FHParser} (hstate : p.state = .paramValue) (k : String) :
    weight (p.assign k (String.ofList p.buffer)).fields ≤ p.weigh := by
  have hassign := (fields_assign p k (String.ofList p.buffer)).1
  simp only [weight_cons, weight_nil, String.toList_ofList] at hassign
  simp only [weigh, hstate]
  omega

private theorem Reads.weigh_le {p q : FHParser} {c : Char} (h : Reads p c q) :
    q.weigh ≤ p.weigh + [c].count '=' := by
  cases h with
  | quote b => exact Nat.le_add_right _ _
  | name hstate => simp [weigh, push, hstate, fields, header]
  | equals hstate hc => simp [weigh, hstate, hc, fields, header]
  | value hstate =>
      simp only [weigh, push, hstate, fields, header, List.count_append]
      omega
  | store hstate pn hname =>
      rw [weigh_atName]
      exact (weight_stored hstate _).trans (Nat.le_add_right _ _)

private theorem weight_finish {p : FHParser} {input : String} {fh : ForwardedHeader}
    (h : p.finish input = .ok fh) : weight fh.fields ≤ p.weigh := by
  rcases finish_cases h with ⟨hstate, rfl⟩ | ⟨pn, hstate, hname, rfl⟩
  · exact Nat.le_add_right _ _
  · exact weight_stored hstate _

/-- The parser holds, or is about to store, another value than `v` under the name `k`. -/
def Doomed (k v : String) (p : FHParser) : Prop :=
  (p.state = .paramValue ∧ p.paramName = some k ∧ ¬p.buffer <+: v.toList) ∨
    ∃ w, w ≠ v ∧ (k, w) ∈ p.fields

section Doomed

variable {k v : String} (hk : toLowercase k = k)
include hk

private theorem Doomed.stored {p : FHParser} (hp : p.Doomed k v) (hstate : p.state = .paramValue)
    {pn : String} (hname : p.paramName = some pn) :
    (∃ w, w ≠ v ∧ (k, w) ∈ (p.assign (toLowercase pn) (String.ofList p.buffer)).fields) ∨
      weight (p.assign (toLowercase pn) (String.ofList p.buffer)).fields < p.weigh := by
  obtain ⟨-, hnew, hold⟩ := fields_assign p (toLowercase pn) (String.ofList p.buffer)
  rcases hp with ⟨-, hpn, hbuffer⟩ | ⟨w, hw, hmem⟩
  · obtain rfl : pn = k := Option.some.inj (hname.symm.trans hpn)
    refine .inl ⟨String.ofList p.buffer, ?_, ?_⟩
    · rintro rfl
      exact hbuffer (by simp)
    · rwa [hk] at hnew ⊢
  · refine (hold _ hmem).imp (fun hkept => ⟨w, hw, hkept⟩) fun hless => ?_
    simp only [weight_cons, weight_nil, String.toList_ofList] at hless
    simp only [weigh, hstate]
    omega

private theorem Doomed.reads {p q : FHParser} (hp : p.Doomed k v) {c : Char} (h : Reads p c q) :
    q.Doomed k v ∨ q.weigh < p.weigh + [c].count '=' := by
  cases h with
  | quote b => exact .inl hp
  | name hstate | equals hstate hc =>
      rcases hp with ⟨hvalue, -⟩ | hstored
      · simp [hstate] at hvalue
      · exact .inl (.inr hstored)
  | value hstate =>
      rcases hp with ⟨-, hname, hbuffer⟩ | hstored
      · refine .inl (.inl ⟨hstate, hname, fun hpush => hbuffer ?_⟩)
        exact (List.prefix_append p.buffer [c]).trans hpush
      · exact .inl (.inr hstored)
  | store hstate pn hname =>
      rcases hp.stored hk hstate hname with hkept | hless
      · exact .inl (.inr hkept)
      · rw [weigh_atName]
        exact .inr (by omega)

private theorem Doomed.finish {p : FHParser} (hp : p.Doomed k v) {input : String}
    {fh : ForwardedHeader} (h : p.finish input = .ok fh) :
    (∃ w, w ≠ v ∧ (k, w) ∈ fh.fields) ∨ weight fh.fields < p.weigh := by
  rcases finish_cases h with ⟨hstate, rfl⟩ | ⟨pn, hstate, hname, rfl⟩
  · rcases hp with ⟨hvalue, -⟩ | hstored
    · simp [hstate] at hvalue
    · exact .inl hstored
  · exact hp.stored hk hstate hname

omit hk in
private theorem weight_loop {p : FHParser} {input : String} {last : Option Char} {cs : List Char}
    {hs : List ForwardedHeader} (h : loop input last p cs = .ok hs) :
    weight (hs.flatMap ForwardedHeader.fields) ≤ p.weigh + cs.count '=' := by
  refine loop_induction (P := fun _ p cs hs =>
    weight (hs.flatMap ForwardedHeader.fields) ≤ p.weigh + cs.count '=') ?_ ?_ ?_ ?_ h
  · intro last p fh hfin
    simpa using weight_finish hfin
  · intro last p c q cs hs hchar hloop ih
    rw [count_cons_append]
    have hq := (reads_of_onChar hchar).weigh_le
    omega
  · intro last p fh hfin
    simpa using weight_finish hfin
  · intro last p cs fh hs hchar hfin hcs hloop ih
    have hfh := weight_finish hfin
    have hnew : FHParser.new.weigh = 0 := rfl
    rw [List.flatMap_cons, weight_append, count_cons_append]
    omega

/-- From a doomed parser on, the element keeps the wrong value, or an `=` of the text is lost. -/
theorem Doomed.loop {p : FHParser} (hp : p.Doomed k v) {input : String} {last : Option Char}
    {cs : List Char} {fh : ForwardedHeader} {hs : List ForwardedHeader}
    (h : FHParser.loop input last p cs = .ok (fh :: hs)) :
    (∃ w, w ≠ v ∧ (k, w) ∈ fh.fields) ∨
      weight ((fh :: hs).flatMap ForwardedHeader.fields) < p.weigh + cs.count '=' := by
  refine loop_induction (P := fun _ p cs hs => p.Doomed k v → ∀ fh rest, hs = fh :: rest →
    (∃ w, w ≠ v ∧ (k, w) ∈ fh.fields) ∨
      weight (hs.flatMap ForwardedHeader.fields) < p.weigh + cs.count '=') ?_ ?_ ?_ ?_ h hp fh hs rfl
  · rintro last p _ hfin hp fh rest ⟨rfl, rfl⟩
    simpa using hp.finish hk hfin
  · intro last p c q cs hs hchar hloop ih hp fh rest heq
    have hreads := reads_of_onChar hchar
    have hle := hreads.weigh_le
    rw [count_cons_append]
    rcases hp.reads hk hreads with hq | hless
    · exact (ih hq fh rest heq).imp_right fun hlost => by omega
    · have hweight := weight_loop hloop
      exact .inr (by omega)
  · rintro last p _ hfin hp fh rest ⟨rfl, rfl⟩
    simpa using hp.finish hk hfin
  · rintro last p cs _ _ hchar hfin hcs hloop ih hp fh rest ⟨rfl, rfl⟩
    have hle := weight_loop hloop
    have hnew : FHParser.new.weigh = 0 := rfl
    refine (hp.finish hk hfin).imp_right fun hless => ?_
    rw [List.flatMap_cons, weight_append, count_cons_append]
    omega

end Doomed

section Reading

variable (input : String)

def dropBackslashes (cs : List Char) : List Char := cs.filter (· ≠ '\\')

private theorem dropBackslashes_append (cs ds : List Char) :
    dropBackslashes (cs ++ ds) = dropBackslashes cs ++ dropBackslashes ds :=
  List.filter_append ..

private theorem dropBackslashes_dropBackslashes (cs : List Char) :
    dropBackslashes (dropBackslashes cs) = dropBackslashes cs := by
  simp [dropBackslashes]

private theorem count_dropBackslashes (cs : List Char) :
    (dropBackslashes cs).count '=' = cs.count '=' := by
  unfold dropBackslashes
  exact List.count_filter (by decide)

/-- Inside quotes every backslash is dropped and every other character kept: a quote of the value
stands behind a backslash. -/
private theorem loop_dropping {p : FHParser} (hstate : p.state = .paramValue)
    (hquoted : p.isQuotedString) (vs : List Char) (last : Option Char) (rest : List Char) :
    loop input last p (ForwardedHeader.escapeQuotes vs ++ rest) =
      loop input (vs.getLast?.or last) { p with buffer := p.buffer ++ dropBackslashes vs } rest := by
  induction vs generalizing p last with
  | nil => simp [ForwardedHeader.escapeQuotes, dropBackslashes]
  | cons c vs ih =>
      have hlast : ((c :: vs).getLast?.or last) = vs.getLast?.or (some c) := by
        cases vs <;> simp [List.getLast?_cons]
      have hback : ∀ last, p.onChar last '\\' = .ok (.more p) := by
        intro last
        simp [onChar, hstate, onValueChar, onQuotedChar, hquoted]
      rw [hlast]
      by_cases hc : c = '\\'
      · subst hc
        have htext : ForwardedHeader.escapeQuotes ('\\' :: vs) ++ rest =
            '\\' :: (ForwardedHeader.escapeQuotes vs ++ rest) := by
          simp [ForwardedHeader.escapeQuotes]
        rw [htext, loop_more input (hback last), ih hstate hquoted]
        simp [dropBackslashes]
      have hkept : dropBackslashes (c :: vs) = c :: dropBackslashes vs := by
        simp [dropBackslashes, hc]
      have hpush : { p.push c with buffer := (p.push c).buffer ++ dropBackslashes vs } =
          { p with buffer := p.buffer ++ dropBackslashes (c :: vs) } := by
        simp [push, hkept]
      rw [← hpush]
      by_cases hq : c = '"'
      · subst hq
        have htext : ForwardedHeader.escapeQuotes ('"' :: vs) ++ rest =
            '\\' :: '"' :: (ForwardedHeader.escapeQuotes vs ++ rest) := by
          simp [ForwardedHeader.escapeQuotes]
        have hstep : p.onChar (some '\\') '"' = .ok (.more (p.push '"')) := by
          simp [onChar, hstate, onValueChar, onQuotedChar, hquoted]
        rw [htext, loop_more input (hback last), loop_more input hstep]
        exact ih (p := p.push '"') hstate hquoted (some '"')
      · have htext : ForwardedHeader.escapeQuotes (c :: vs) ++ rest =
            c :: (ForwardedHeader.escapeQuotes vs ++ rest) := by
          simp [ForwardedHeader.escapeQuotes, hq]
        have hstep : p.onChar last c = .ok (.more (p.push c)) := by
          simp [onChar, hstate, onValueChar, onQuotedChar, hquoted, hc, hq]
        rw [htext, loop_more input hstep]
        exact ih (p := p.push c) hstate hquoted (some c)

private theorem not_prefix_quote (vs : List Char) : ¬dropBackslashes vs ++ ['"'] <+: vs := by
  rintro ⟨rest, hrest⟩
  have hlength := congrArg (fun cs => (dropBackslashes cs).length) hrest
  simp only [dropBackslashes_append, dropBackslashes_dropBackslashes, List.length_append] at hlength
  have hquote : (dropBackslashes ['"']).length = 1 := rfl
  omega

private theorem not_prefix_dropBackslashes {vs : List Char} (hmem : '\\' ∈ vs)
    (hlast : vs.getLast? ≠ some '\\') : ¬dropBackslashes vs <+: vs := by
  rintro ⟨rest, hrest⟩
  have hlength := congrArg (fun cs => (dropBackslashes cs).length) hrest
  simp only [dropBackslashes_append, dropBackslashes_dropBackslashes, List.length_append] at hlength
  have hnil : dropBackslashes rest = [] := List.length_eq_zero_iff.mp (by omega)
  rcases rest.eq_nil_or_concat with rfl | ⟨init, c, rfl⟩
  · rw [List.append_nil] at hrest
    rw [← hrest] at hmem
    simp [dropBackslashes] at hmem
  · have hc : c = '\\' := by
      simpa [dropBackslashes, List.filter_eq_nil_iff] using
        List.filter_eq_nil_iff.mp hnil c (by simp)
    exact hlast (by rw [← hrest, hc]; simp)

private theorem loop_backslash {p : FHParser} (hstate : p.state = .paramValue)
    (hbuffer : p.buffer = []) (hquoted : p.isQuotedString = false) {v : String}
    (hv : '\\' ∈ v.toList) (last : Option Char) (rest : List Char) :
    ∃ last' quoted buffer, ¬buffer <+: v.toList ∧ buffer.count '=' = v.toList.count '=' ∧
      loop input last p ((ForwardedHeader.quoteIfNeeded v).toList ++ rest) =
        loop input last' { p with isQuotedString := quoted, buffer := buffer } rest := by
  have htoken : ¬v.toList.all isTChar := fun h => absurd (List.all_eq_true.mp h _ hv) (by decide)
  have hopen : p.onChar last '"' = .ok (.more { p with isQuotedString := true }) := by
    simp [onChar, hstate, onValueChar, hquoted, hbuffer, isOws]
  have hread := loop_dropping input (p := { p with isQuotedString := true }) hstate rfl v.toList
    (some '"') ('"' :: rest)
  have hchars : (ForwardedHeader.quoteIfNeeded v).toList ++ rest =
      '"' :: (ForwardedHeader.escapeQuotes v.toList ++ '"' :: rest) := by
    simp [ForwardedHeader.quoteIfNeeded, htoken]
  rw [hchars, loop_more input hopen, hread, hbuffer, List.nil_append]
  by_cases hlast : v.toList.getLast? = some '\\'
  · -- the closing quote counts as an escaped one
    have hpush : ({ p with isQuotedString := true, buffer := dropBackslashes v.toList } :
        FHParser).onChar (v.toList.getLast?.or (some '"')) '"' =
        .ok (.more { p with
          isQuotedString := true, buffer := dropBackslashes v.toList ++ ['"'] }) := by
      simp [onChar, hstate, onValueChar, onQuotedChar, hlast, push]
    refine ⟨some '"', true, dropBackslashes v.toList ++ ['"'], not_prefix_quote v.toList, ?_, ?_⟩
    · rw [List.count_append, count_dropBackslashes]
      rfl
    · rw [loop_more input hpush]
  · have hbehind : v.toList.getLast?.or (some '"') ≠ some '\\' := by
      cases hget : v.toList.getLast? with
      | none => simp
      | some c => simpa [hget] using hlast
    have hclose : ∀ before, before ≠ some '\\' →
        ({ p with isQuotedString := true, buffer := dropBackslashes v.toList } :
          FHParser).onChar before '"' =
        .ok (.more { p with isQuotedString := false, buffer := dropBackslashes v.toList }) := by
      intro before hbefore
      simp [onChar, hstate, onValueChar, onQuotedChar, hbefore]
    refine ⟨some '"', false, dropBackslashes v.toList, not_prefix_dropBackslashes hv hlast,
      count_dropBackslashes _, ?_⟩
    rw [loop_more input (hclose _ hbehind)]

private theorem count_token {cs : List Char} (h : ∀ c ∈ cs, isTChar c) : cs.count '=' = 0 :=
  List.count_eq_zero.mpr fun hmem => absurd (h _ hmem) (by decide)

private theorem count_quoteIfNeeded (v : String) :
    (ForwardedHeader.quoteIfNeeded v).toList.count '=' = v.toList.count '=' := by
  have hescape : ∀ cs : List Char, (ForwardedHeader.escapeQuotes cs).count '=' = cs.count '=' := by
    intro cs
    induction cs with
    | nil => rfl
    | cons c cs ih =>
        have hcons : ForwardedHeader.escapeQuotes (c :: cs) =
            (if c == '"' then ['\\', '"'] else [c]) ++ ForwardedHeader.escapeQuotes cs := rfl
        rw [hcons, List.count_append, ih, count_cons_append c cs]
        split_ifs with hc
        · obtain rfl : c = '"' := by simpa using hc
          rfl
        · rfl
  unfold ForwardedHeader.quoteIfNeeded
  split_ifs
  · rfl
  · simp [hescape]

private theorem count_printed {field : String × String} (h : Named field) :
    (ForwardedHeader.printed field).count '=' = weight [field] := by
  unfold ForwardedHeader.printed
  rw [List.count_append, count_token h.token, List.count_cons, count_quoteIfNeeded]
  simp
  omega

private theorem count_printedAll {fields : List (String × String)} (h : ∀ f ∈ fields, Named f) :
    (fields.flatMap fun f => ';' :: ForwardedHeader.printed f).count '=' = weight fields := by
  induction fields with
  | nil => rfl
  | cons f fields ih =>
      have hf := count_printed (h f (by simp))
      have hrest := ih fun g hg => h g (by simp [hg])
      have hsemi : ([';'] : List Char).count '=' = 0 := rfl
      simp only [weight_cons, weight_nil] at hf ⊢
      rw [List.flatMap_cons, List.count_append, count_cons_append, hf, hrest, hsemi]
      omega

private theorem loop_doomed_field {p : FHParser} (hp : p.AtName) {field : String × String}
    (hnamed : Named field) (hbad : '\\' ∈ field.2.toList) (last : Option Char) (rest : List Char) :
    ∃ last' q, q.Doomed field.1 field.2 ∧ q.weigh = weight p.fields + weight [field] ∧
      loop input last p (ForwardedHeader.printed field ++ rest) = loop input last' q rest := by
  obtain ⟨last₁, hname⟩ := loop_name input hp.state field.1.toList hnamed.token last
    ('=' :: ((ForwardedHeader.quoteIfNeeded field.2).toList ++ rest))
  rw [hp.buffer, List.nil_append] at hname
  have heq : { p with buffer := field.1.toList }.onChar last₁ '=' =
      .ok (.more { p with paramName := some field.1, buffer := [], state := .paramValue }) := by
    simp [onChar, hp.state, onNameChar]
  obtain ⟨last₂, quoted, buffer, hother, hcount, hvalue⟩ := loop_backslash input
    (p := { p with paramName := some field.1, buffer := [], state := .paramValue })
    rfl rfl hp.plain hbad (some '=') rest
  refine ⟨last₂, { p with
    paramName := some field.1, state := .paramValue, isQuotedString := quoted, buffer := buffer },
    .inl ⟨rfl, rfl, hother⟩, ?_, ?_⟩
  · simp [weigh, hcount, fields, header]
  · unfold ForwardedHeader.printed
    rw [List.append_assoc, List.cons_append, hname, loop_more input heq, hvalue]

private theorem loop_doomed {p : FHParser} (hp : p.AtName) {field : String × String}
    {fields : List (String × String)} (hnamed : ∀ f ∈ field :: fields, Named f)
    (hbad : ∃ f ∈ field :: fields, '\\' ∈ f.2.toList) (last : Option Char) (rest : List Char) :
    ∃ last' q text, ∃ f ∈ field :: fields, q.Doomed f.1 f.2 ∧
      q.weigh + text.count '=' ≤ weight p.fields + weight (field :: fields) + rest.count '=' ∧
      loop input last p (ForwardedHeader.printed field ++
        (fields.flatMap fun f => ';' :: ForwardedHeader.printed f) ++ rest) =
      loop input last' q text := by
  induction fields generalizing p field last with
  | nil =>
      obtain ⟨f, hf, hback⟩ := hbad
      obtain rfl : f = field := by simpa using hf
      obtain ⟨last', q, hdoomed, hweigh, hloop⟩ :=
        loop_doomed_field input hp (hnamed f (by simp)) hback last rest
      exact ⟨last', q, rest, f, by simp, hdoomed, by rw [hweigh], by simpa using hloop⟩
  | cons next fields ih =>
      have hfield := hnamed field (by simp)
      have hnext : ∀ f ∈ next :: fields, Named f := fun f hf => hnamed f (by simp [hf])
      by_cases hvalue : '\\' ∈ field.2.toList
      · obtain ⟨last', q, hdoomed, hweigh, hloop⟩ := loop_doomed_field input hp hfield hvalue last
          (((next :: fields).flatMap fun f => ';' :: ForwardedHeader.printed f) ++ rest)
        refine ⟨last', q, _, field, by simp, hdoomed, ?_, by rw [List.append_assoc, hloop]⟩
        rw [List.count_append, count_printedAll hnext, hweigh]
        simp only [weight_cons, weight_nil]
        omega
      · obtain ⟨last₁, h⟩ := loop_field input hp ⟨hfield, hvalue⟩ last
          (';' :: (ForwardedHeader.printed next ++
            (fields.flatMap fun f => ';' :: ForwardedHeader.printed f) ++ rest))
        rw [loop_more input (onChar_semicolon hp field.2 hfield.lower last₁)] at h
        have hlater : ∃ f ∈ next :: fields, '\\' ∈ f.2.toList := by
          obtain ⟨f, hf, hback⟩ := hbad
          rcases List.mem_cons.mp hf with rfl | hf
          · exact absurd hback hvalue
          · exact ⟨f, hf, hback⟩
        obtain ⟨last', q, text, f, hf, hdoomed, hweigh, hloop⟩ :=
          ih (hp.assign field.1 field.2) hnext hlater (some ';')
        have hassign := (fields_assign p field.1 field.2).1
        refine ⟨last', q, text, f, by simp [List.mem_cons.mp hf], hdoomed, ?_, ?_⟩
        · simp only [weight_cons, weight_nil] at hweigh hassign ⊢
          omega
        · rw [← hloop, ← h]
          simp

end Reading

end FHParser

namespace ForwardedHeader

open FHParser

private theorem count_display {fh : ForwardedHeader} (hvalid : fh.Valid) (h : fh.hasField) :
    fh.display.toList.count '=' = weight fh.fields := by
  have hnamed := named_fields hvalid
  obtain ⟨field, fields, hfields⟩ := List.exists_cons_of_ne_nil (fields_ne_nil hvalid h)
  rw [hfields] at hnamed
  rw [toList_display fh hfields, hfields, List.count_append, count_printed (hnamed field (by simp)),
    count_printedAll fun f hf => hnamed f (by simp [hf])]
  simp

private theorem count_displayAll {hs : List ForwardedHeader} (hvalid : ∀ h ∈ hs, h.Valid)
    (hfields : ∀ h ∈ hs, h.hasField) :
    (hs.flatMap fun h => ',' :: ' ' :: h.display.toList).count '=' =
      weight (hs.flatMap fields) := by
  induction hs with
  | nil => rfl
  | cons fh hs ih =>
      have hrest := ih (fun h hh => hvalid h (by simp [hh])) fun h hh => hfields h (by simp [hh])
      have hfh := count_display (hvalid fh (by simp)) (hfields fh (by simp))
      have hsep : (',' :: ' ' :: fh.display.toList).count '=' = fh.display.toList.count '=' := by
        simp
      rw [List.flatMap_cons, List.flatMap_cons, List.count_append, weight_append, hrest, hsep, hfh]

private theorem value_unique {fh : ForwardedHeader} (hvalid : fh.Valid) {k v w : String}
    (hv : (k, v) ∈ fh.fields) (hw : (k, w) ∈ fh.fields) : v = w := by
  have hsub : (fh.fields.map Prod.fst).Sublist (["by", "for", "host", "proto"] ++
      ((fh.extensions.map LinkedHashMap.entries).getD []).map Prod.fst) := by
    unfold fields
    rw [List.map_append]
    refine List.Sublist.append ?_ (List.Sublist.refl _)
    cases fh.byValue <;> cases fh.forValue <;> cases fh.host <;> cases fh.proto <;> simp
  have hnodup : (["by", "for", "host", "proto"] ++
      ((fh.extensions.map LinkedHashMap.entries).getD []).map Prod.fst).Nodup := by
    cases hm : fh.extensions with
    | none => decide
    | some m =>
        refine List.nodup_append.mpr ⟨by decide, m.nodup, ?_⟩
        intro a ha b hb
        obtain ⟨e, he, rfl⟩ := List.mem_map.mp hb
        obtain ⟨hby, hfor, hhost, hproto⟩ := ((hvalid m hm).2 e he).free
        simp only [List.mem_cons, List.not_mem_nil, or_false] at ha
        rcases ha with rfl | rfl | rfl | rfl
        · exact hby.symm
        · exact hfor.symm
        · exact hhost.symm
        · exact hproto.symm
  have heq := List.inj_on_of_nodup_map (hnodup.sublist hsub) hv hw rfl
  exact (Prod.mk.inj heq).2

/-- The first element of a list that is read back has no backslash in a value. -/
private theorem plain_of_loop_head {fh : ForwardedHeader} {hs : List ForwardedHeader}
    (hvalid : ∀ h ∈ fh :: hs, h.Valid) (hfields : ∀ h ∈ fh :: hs, h.hasField) {input : String}
    {last : Option Char}
    (h : loop input last .new
      (fh.display.toList ++ hs.flatMap fun h => ',' :: ' ' :: h.display.toList) = .ok (fh :: hs)) :
    ∀ v ∈ fh.values, '\\' ∉ v.toList := by
  by_contra hbad
  have hback : ∃ f ∈ fh.fields, '\\' ∈ f.2.toList := by
    push Not at hbad
    obtain ⟨v, hv, hmem⟩ := hbad
    obtain ⟨f, hf, rfl⟩ := List.mem_map.mp hv
    exact ⟨f, hf, hmem⟩
  have hnamed := named_fields (hvalid fh (by simp))
  obtain ⟨field, rest, hcons⟩ :=
    List.exists_cons_of_ne_nil (fields_ne_nil (hvalid fh (by simp)) (hfields fh (by simp)))
  rw [hcons] at hnamed hback
  obtain ⟨last', q, text, f, hf, hdoomed, hweigh, hloop⟩ :=
    loop_doomed input (p := .new) ⟨rfl, rfl, rfl, rfl⟩ hnamed hback last
      (hs.flatMap fun h => ',' :: ' ' :: h.display.toList)
  rw [toList_display fh hcons, hloop] at h
  rcases hdoomed.loop (hnamed f hf).lower h with ⟨w, hw, hmem⟩ | hlost
  · exact hw (value_unique (hvalid fh (by simp)) hmem (by rw [hcons]; exact hf))
  · have hcount := count_displayAll (fun g hg => hvalid g (List.mem_cons_of_mem fh hg))
      fun g hg => hfields g (List.mem_cons_of_mem fh hg)
    have hnew : weight FHParser.new.fields = 0 := rfl
    rw [List.flatMap_cons, weight_append, hcons] at hlost
    rw [hcount, hnew] at hweigh
    omega

private theorem plain_of_loop {fh : ForwardedHeader} {hs : List ForwardedHeader}
    (hvalid : ∀ h ∈ fh :: hs, h.Valid) (hfields : ∀ h ∈ fh :: hs, h.hasField) {input : String}
    {last : Option Char}
    (h : loop input last .new
      (fh.display.toList ++ hs.flatMap fun h => ',' :: ' ' :: h.display.toList) = .ok (fh :: hs)) :
    ∀ h ∈ fh :: hs, ∀ v ∈ h.values, '\\' ∉ v.toList := by
  induction hs generalizing fh last with
  | nil => simpa using plain_of_loop_head hvalid hfields h
  | cons next hs ih =>
      have hfirst := plain_of_loop_head hvalid hfields h
      have hfh : fh.Printable := ⟨hvalid fh (by simp), hfields fh (by simp), hfirst⟩
      rw [List.flatMap_cons, List.cons_append, List.cons_append, loop_display_comma hfh] at h
      cases hrest : loop input (some ' ') .new
          (next.display.toList ++ hs.flatMap fun h => ',' :: ' ' :: h.display.toList) with
      | error e => simp [hrest, Except.map] at h
      | ok rest =>
          obtain rfl : rest = next :: hs := by simpa [hrest, Except.map] using h
          have hnext := ih (fun g hg => hvalid g (by simp [List.mem_cons.mp hg]))
            (fun g hg => hfields g (by simp [List.mem_cons.mp hg])) hrest
          intro g hg
          rcases List.mem_cons.mp hg with rfl | hg
          · exact hfirst
          · exact hnext g hg

/-- Printing and parsing gives a parsed list back just if no value has a backslash. -/
theorem forwarded_round_trip (s : String) (hs : List ForwardedHeader)
    (hparse : fromString s = .ok hs) (hfields : ∀ h ∈ hs, h.hasField) :
    fromString (", ".intercalate (hs.map display)) = .ok hs ↔
      ∀ h ∈ hs, ∀ v ∈ h.values, '\\' ∉ v.toList := by
  have hvalid := valid_of_fromString hparse
  cases hs with
  | nil => simp [fromString]
  | cons fh hs =>
      rw [fromString_displayAll (hvalid fh (by simp)) (hfields fh (by simp))]
      constructor
      · exact plain_of_loop hvalid hfields
      · intro hplain
        exact loop_displayAll (fun h hh => ⟨hvalid h hh, hfields h hh, hplain h hh⟩) _ none

/-- Quotes, blanks, commas, semicolons and an extension. -/
def quotedElements : List ForwardedHeader :=
  [⟨none, some "a b, c;d", none, some "https", some ⟨[("secret", "x\"y")], by simp⟩⟩,
    ⟨some "1", none, none, none, none⟩]

theorem forwarded_round_trip_quotedElements :
    fromString "for=\"a b, c;d\";Proto=https;secret=\"x\\\"y\", by=1" = .ok quotedElements ∧
      fromString (", ".intercalate (quotedElements.map display)) = .ok quotedElements := by
  have hparse : fromString "for=\"a b, c;d\";Proto=https;secret=\"x\\\"y\", by=1" =
      .ok quotedElements := by
    decide +kernel
  exact ⟨hparse, (forwarded_round_trip _ _ hparse (by decide)).mpr (by decide)⟩

/-- The first value ends in a backslash. -/
def backslashElements : List ForwardedHeader :=
  [⟨none, some "a\\", none, none, none⟩, ⟨some "b", none, none, none, none⟩]

/-- The closing quote is taken for an escaped one, and the next element becomes part of the
value. -/
theorem forwarded_backslash_swallows :
    fromString "for=a\\,by=b" = .ok backslashElements ∧
      (∀ h ∈ backslashElements, h.hasField) ∧
      fromString (", ".intercalate (backslashElements.map display)) =
        .ok [⟨none, some "a\", by=b", none, none, none⟩] ∧
      fromString (", ".intercalate (backslashElements.map display)) ≠ .ok backslashElements := by
  decide +kernel

end ForwardedHeader

end CrankerRouter.Http
