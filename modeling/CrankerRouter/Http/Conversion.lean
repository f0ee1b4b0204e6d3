import CrankerRouter.Http.Forwarding

/-!
# From `X-Forwarded-*` to `Forwarded`

Element `i` is made of the `i`-th items of the lists that are as long as the longest one.  The only
place where the conversion can panic is the slice that cuts a port off a host.
-/

namespace CrankerRouter.Http

open Lib

/-- The slice of a host panics if it is made of digits only, the empty one included. -/
def digitsOnly (host : String) : Bool := host.toList.all Char.isDigit

def Failure.isPanic : Failure → Bool
  | .error _ => false
  | .panic _ => true

/-- The computation panics. -/
def panics {α : Type} : Except Failure α → Bool
  | .ok _ => false
  | .error e => e.isPanic

private theorem cutAtColon_panics (cs : List Char) : panics
    (cutAtColon cs) = cs.all Char.isDigit := by
  induction cs with
  | nil => rfl
  | cons c cs ih =>
      unfold cutAtColon
      by_cases hdigit : c.isDigit
      · rw [if_pos hdigit, ih, List.all_cons, hdigit, Bool.true_and]
      · rw [if_neg hdigit, List.all_cons]
        split_ifs <;> simp [panics, Failure.isPanic, hdigit]

private theorem cutAtColon_eq_ok {cs name : List Char} (h : cutAtColon cs = .ok name) :
    ∃ digits, digits.all Char.isDigit = true ∧ cs = digits ++ ':' :: name.reverse := by
  induction cs with
  | nil => cases h
  | cons c cs ih =>
      unfold cutAtColon at h
      split_ifs at h with hdigit hcolon
      · obtain ⟨digits, hdigits, rfl⟩ := ih h
        exact ⟨c :: digits, by simp [hdigit, hdigits], rfl⟩
      · obtain rfl : c = ':' := by simpa using hcolon
        obtain rfl := Except.ok.inj h
        exact ⟨[], rfl, by simp⟩

private theorem cutPort_panics (host : String) : panics (cutPort host) = digitsOnly host := by
  have hrev : panics (cutAtColon host.toList.reverse) = digitsOnly host := by
    rw [cutAtColon_panics, List.all_reverse, digitsOnly]
  unfold cutPort
  rw [← hrev]
  cases cutAtColon host.toList.reverse <;> rfl

private theorem cutPort_eq_ok {host name : String} (h : cutPort host = .ok name) :
    ∃ digits, digitsOnly digits = true ∧ host = name ++ ":" ++ digits := by
  unfold cutPort at h
  cases hcut : cutAtColon host.toList.reverse with
  | error e => simp [hcut, Except.map] at h
  | ok cs =>
      rw [hcut] at h
      obtain rfl : String.ofList cs = name := Except.ok.inj h
      obtain ⟨digits, hdigits, hhost⟩ := cutAtColon_eq_ok hcut
      refine ⟨String.ofList digits.reverse, by simpa [digitsOnly] using hdigits, ?_⟩
      have hlist : host.toList = cs ++ ':' :: digits.reverse := by
        rw [← List.reverse_reverse host.toList, hhost]
        simp
      rw [← String.toList_inj]
      simp [hlist]

section MapM

variable {α β : Type} {f : α → Except Failure β}

private theorem mapM_panics (xs : List α) :
    panics (xs.mapM f) = true ↔
      ∃ (i : Nat) (x : α), xs[i]? = some x ∧ panics (f x) = true ∧
        ∀ j < i, ∀ y, xs[j]? = some y → (f y).isOk := by
  induction xs with
  | nil => simp [panics, pure, Except.pure]
  | cons x xs ih =>
      rw [List.mapM_cons]
      cases hx : f x with
      | error e =>
          change e.isPanic = true ↔ _
          constructor
          · intro he
            exact ⟨0, x, rfl, by rwa [hx], by simp⟩
          · rintro ⟨i, y, hy, hpanics, hbefore⟩
            cases i with
            | zero =>
                obtain rfl := Option.some.inj hy
                rwa [hx] at hpanics
            | succ i =>
                have hok := hbefore 0 (by simp) x rfl
                rw [hx] at hok
                cases hok
      | ok y =>
          have htail : panics (Except.ok y >>= fun y => xs.mapM f >>= fun ys => pure (y :: ys)) =
              panics (xs.mapM f) := by
            cases hxs : xs.mapM f <;> simp [bind, Except.bind, pure, Except.pure, panics]
          rw [htail, ih]
          constructor
          · rintro ⟨i, z, hz, hpanics, hbefore⟩
            refine ⟨i + 1, z, hz, hpanics, ?_⟩
            intro j hj w hw
            cases j with
            | zero =>
                obtain rfl := Option.some.inj hw
                rw [hx]
                rfl
            | succ j => exact hbefore j (by omega) w hw
          · rintro ⟨i, z, hz, hpanics, hbefore⟩
            cases i with
            | zero =>
                obtain rfl := Option.some.inj hz
                rw [hx] at hpanics
                cases hpanics
            | succ i => exact ⟨i, z, hz, hpanics, fun j hj w hw => hbefore (j + 1) (by omega) w hw⟩

private theorem not_isOk_of_panics {r : Except Failure β} (h : panics r = true) :
    ¬r.isOk = true := by
  cases r with
  | error e => exact Bool.false_ne_true
  | ok y => cases h

end MapM

namespace XForwarded

variable (x : XForwarded)

/-- Element `i` is built from the `i`-th items, and from the `Host` header where a port comes
without a host. -/
structure BuiltFrom (i : Nat) (fh : ForwardedHeader) : Prop where
  byValue : fh.byValue = none
  forValue : fh.forValue = x.item x.fors i
  proto : fh.proto = x.item x.protos i
  kept : x.hostToCut i = none → fh.host = x.hostToUse i
  cut : ∀ host, x.hostToCut i = some host →
    ∃ name digits, fh.host = some name ∧ host = name ++ ":" ++ digits ∧ digitsOnly digits = true
  extensions : fh.extensions = none

variable {x}

private theorem element_panics (i : Nat) :
    panics (x.element i) = ((x.hostToCut i).map digitsOnly).getD false := by
  unfold element
  cases hcut : x.hostToCut i with
  | none => rfl
  | some host =>
      simp only [Option.map_some, Option.getD_some]
      rw [← cutPort_panics]
      cases cutPort host <;> rfl

private theorem builtFrom_of_element {i : Nat} {fh : ForwardedHeader} (h : x.element i = .ok fh) :
    x.BuiltFrom i fh := by
  unfold element at h
  cases hcut : x.hostToCut i with
  | none =>
      rw [hcut] at h
      obtain rfl := Except.ok.inj h
      exact ⟨rfl, rfl, rfl, fun _ => rfl, by simp [hcut], rfl⟩
  | some host =>
      rw [hcut] at h
      cases hname : cutPort host with
      | error e => simp [hname, Except.map] at h
      | ok name =>
          simp only [hname, Except.map] at h
          obtain rfl := Except.ok.inj h
          refine ⟨rfl, rfl, rfl, by simp [hcut], ?_, rfl⟩
          intro host' hhost'
          obtain rfl : host = host' := Option.some.inj (hcut.symm.trans hhost')
          obtain ⟨digits, hdigits, hhost⟩ := cutPort_eq_ok hname
          exact ⟨name, digits, rfl, hhost, hdigits⟩

theorem length_and_builtFrom_of_mapM {fhs : List ForwardedHeader}
    (h : (List.range x.max).mapM x.element = .ok fhs) :
    fhs.length = x.max ∧ ∀ i fh, fhs[i]? = some fh → x.BuiltFrom i fh := by
  have hall := mapM_eq_ok_iff.mp h
  have hlength : fhs.length = x.max := by rw [← hall.length_eq, List.length_range]
  refine ⟨hlength, ?_⟩
  intro i fh hfh
  obtain ⟨hi, rfl⟩ := List.getElem?_eq_some_iff.mp hfh
  have helement := hall.get (by simpa [hlength] using hi) hi
  exact builtFrom_of_element (by simpa using helement)

private theorem digitsOnly_of_element_panics {i : Nat} (h : panics (x.element i) = true) :
    ∃ host ∈ x.hostToCut i, digitsOnly host = true := by
  rw [element_panics] at h
  cases hcut : x.hostToCut i with
  | none => simp [hcut] at h
  | some host => exact ⟨host, rfl, by simpa [hcut] using h⟩

private theorem refused_of_element {i : Nat} (hfails : ¬(x.element i).isOk = true)
    (hpanics : panics (x.element i) = false) :
    ∃ host ∈ x.hostToCut i, ¬hasPort host ∧ ¬digitsOnly host := by
  rw [element_isOk] at hfails
  rw [element_panics] at hpanics
  cases hcut : x.hostToCut i with
  | none => simp [hcut] at hfails
  | some host => exact ⟨host, rfl, by simpa [hcut] using hfails, by simpa [hcut] using hpanics⟩

private theorem exists_first_failing {i : Nat} (hfails : ¬(x.element i).isOk = true) :
    ∃ k, ¬(x.element k).isOk = true ∧ ∀ j < k, (x.element j).isOk = true := by
  have hex : ∃ k, ¬(x.element k).isOk = true := ⟨i, hfails⟩
  refine ⟨Nat.find hex, Nat.find_spec hex, ?_⟩
  intro j hj
  exact not_not.mp (Nat.find_min hex hj)

/-- The conversion panics at a host of digits, unless an earlier element ended it with an error. -/
private theorem mapM_element_panics_iff :
    panics ((List.range x.max).mapM x.element) = false ↔
      ∀ i < x.max, ∀ host ∈ x.hostToCut i, digitsOnly host →
        ∃ j < i, ∃ host' ∈ x.hostToCut j, ¬hasPort host' ∧ ¬digitsOnly host' := by
  have hiff : panics ((List.range x.max).mapM x.element) = true ↔
      ∃ i < x.max, panics (x.element i) = true ∧ ∀ j < i, (x.element j).isOk := by
    rw [mapM_panics]
    constructor
    · rintro ⟨i, y, hy, hpanics, hbefore⟩
      obtain ⟨hi, rfl⟩ := List.getElem?_eq_some_iff.mp hy
      rw [List.length_range] at hi
      rw [List.getElem_range] at hpanics
      refine ⟨i, hi, hpanics, ?_⟩
      intro j hj
      exact hbefore j hj j (List.getElem?_range (by omega))
    · rintro ⟨i, hi, hpanics, hbefore⟩
      refine ⟨i, i, List.getElem?_range hi, hpanics, ?_⟩
      intro j hj y hy
      obtain ⟨-, rfl⟩ := List.getElem?_eq_some_iff.mp hy
      rw [List.getElem_range]
      exact hbefore j hj
  rw [← Bool.not_eq_true, hiff]
  constructor
  · intro hnot i hi host hhost hdigits
    have hpanics : panics (x.element i) = true := by
      rw [element_panics, Option.mem_def.mp hhost]
      exact hdigits
    -- the first element that fails comes no later than `i`, and it does not panic
    obtain ⟨k, hk, hfirst⟩ := exists_first_failing (not_isOk_of_panics hpanics)
    have hki : k ≤ i := by
      by_contra hlt
      exact not_isOk_of_panics hpanics (hfirst i (by omega))
    have hkpanics : panics (x.element k) = false := by
      by_contra hpanic
      exact hnot ⟨k, by omega, Bool.not_eq_false _ ▸ hpanic, hfirst⟩
    obtain ⟨host', hhost', hport, hdigits'⟩ := refused_of_element hk hkpanics
    refine ⟨k, lt_of_le_of_ne hki ?_, host', hhost', hport, hdigits'⟩
    rintro rfl
    rw [hpanics] at hkpanics
    cases hkpanics
  · rintro h ⟨i, hi, hpanics, hbefore⟩
    obtain ⟨host, hhost, hdigits⟩ := digitsOnly_of_element_panics hpanics
    obtain ⟨j, hj, host', hhost', hport, -⟩ := h i hi host hhost hdigits
    have hok := hbefore j hj
    rw [element_isOk, Option.mem_def.mp hhost'] at hok
    exact hport hok

end XForwarded

/-- Without `Forwarded` lines the conversion panics exactly at a host of digits whose port is to be
cut off, unless an earlier host has ended it with an error; the elements that it returns are built
from the lists position by position. -/
theorem getExistingForwardedHeaders_panics_iff (cliHdr : HeaderMap)
    (hnone : cliHdr.getAll .forwarded = []) :
    (panics (getExistingForwardedHeaders cliHdr) = false ↔
      ∀ i < (xForwarded cliHdr).max, ∀ host ∈ (xForwarded cliHdr).hostToCut i, digitsOnly host →
        ∃ j < i, ∃ host' ∈ (xForwarded cliHdr).hostToCut j, ¬hasPort host' ∧ ¬digitsOnly host') ∧
    ∀ fhs, getExistingForwardedHeaders cliHdr = .ok fhs →
      fhs.length = (xForwarded cliHdr).max ∧
        ∀ i fh, fhs[i]? = some fh → (xForwarded cliHdr).BuiltFrom i fh := by
  have hwalk : getExistingForwardedHeaders cliHdr =
      (List.range (xForwarded cliHdr).max).mapM (xForwarded cliHdr).element := by
    simp [getExistingForwardedHeaders, headerMapGetAllOkToString, hnone]
  rw [hwalk]
  exact ⟨XForwarded.mapM_element_panics_iff, fun _ => XForwarded.length_and_builtFrom_of_mapM⟩

/-- A proxied client's host has a port to cut off. -/
theorem getExistingForwardedHeaders_panics_iff_proxiedClient :
    proxiedClient.getAll .forwarded = [] ∧ panics (getExistingForwardedHeaders proxiedClient) = false ∧
      ∀ fhs, getExistingForwardedHeaders proxiedClient = .ok fhs →
        fhs.length = (xForwarded proxiedClient).max ∧
          ∀ i fh, fhs[i]? = some fh → (xForwarded proxiedClient).BuiltFrom i fh := by
  have hnone : proxiedClient.getAll .forwarded = [] := by decide +kernel
  obtain ⟨hiff, hbuilt⟩ := getExistingForwardedHeaders_panics_iff proxiedClient hnone
  exact ⟨hnone, hiff.mpr (by decide +kernel), hbuilt⟩

/-- A client that gives a forwarded port, and the text as its forwarded host. -/
def forwardedHostClient (host : String) : HeaderMap :=
  appendText (appendText .new .xForwardedHost host) .xForwardedPort "8080"

/-- An empty host and a host of digits reach the slice with an index of `-1`. -/
theorem getExistingForwardedHeaders_panics_digits :
    (forwardedHostClient "").getAll .forwarded = [] ∧
      panics (getExistingForwardedHeaders (forwardedHostClient "")) = true ∧
      (forwardedHostClient "1").getAll .forwarded = [] ∧
      panics (getExistingForwardedHeaders (forwardedHostClient "1")) = true := by
  decide +kernel

end CrankerRouter.Http
