import CrankerRouter.Farm.State

/-!
# Route resolvers

The two resolvers of the library.  A resolver is given the routes that an acquisition has collected
and the path of the request, and answers a collected route that the path names, or `"*"`.
-/

namespace CrankerRouter.Farm

/-- `DefaultRouteResolver`: the first segment of the path. -/
def defaultResolve (routes : List Route) (target : String) : Route :=
  match target.toList.splitOn '/' with
  | _ :: segment :: _ =>
      if routes.contains (String.ofList segment) then String.ofList segment else "*"
  | _ => "*"

/-- `last_index_of`; the cast to `i32` keeps the low 32 bits of the position. -/
def lastIndexOf (text : List Char) (pat : Char) : Int :=
  match text.reverse.findIdx? (· == pat) with
  | some pos => (BitVec.ofNat 32 (text.length - pos - 1)).toInt
  | none => -1

/-- The loop of `LongestFirstRouteResolver::resolve` and the test after it; every round drains the
text from its last slash on.  `none` is a loop that has not ended. -/
def longestFirstLoop (routes : List Route) : Nat → List Char → Option Route
  | 0, _ => none
  | fuel + 1, text =>
      if routes.contains (String.ofList text) then some (String.ofList text)
      else if 0 ≤ lastIndexOf text '/' then
        longestFirstLoop routes fuel (text.take (lastIndexOf text '/').toNat)
      else some "*"

/-- `LongestFirstRouteResolver`; `none` is the panic of `vec_char[0]` on an empty path. -/
def longestFirstResolve (routes : List Route) (target : String) : Option Route :=
  if routes.contains target then some target
  else
    match target.toList with
    | [] => none
    | first :: rest =>
        let text := if first == '/' then rest else first :: rest
        longestFirstLoop routes (text.length + 1) text

inductive RouteResolver
  | default
  | longestFirst
  deriving DecidableEq, Repr

def RouteResolver.resolve (routes : List Route) (target : String) :
    RouteResolver → Option Route
  | .default => some (defaultResolve routes target)
  | .longestFirst => longestFirstResolve routes target

/-- What the loop of the longest-first resolver tries for a text. -/
inductive Tried : List Char → List Char → Prop
  | whole (text : List Char) : Tried text text
  | shorter {text tried : List Char} (h : 0 ≤ lastIndexOf text '/')
      (htried : Tried (text.take (lastIndexOf text '/').toNat) tried) : Tried text tried

/-- The path names the route for the resolver. -/
def RouteResolver.Names (target : String) (k : Route) : RouteResolver → Prop
  | .default => ∃ first rest, target.toList.splitOn '/' = first :: k.toList :: rest
  | .longestFirst => k = target ∨ ∃ first rest, target.toList = first :: rest ∧
      Tried (if first = '/' then rest else first :: rest) k.toList

theorem toInt_ofNat_le (n : Nat) : (BitVec.ofNat 32 n).toInt ≤ n := by
  have hmod : n % 2 ^ 32 ≤ n := Nat.mod_le n _
  rw [BitVec.toInt_eq_toNat_cond, BitVec.toNat_ofNat]
  split_ifs <;> omega

private theorem lastIndexOf_lt {text : List Char} {pat : Char} (h : 0 ≤ lastIndexOf text pat) :
    (lastIndexOf text pat).toNat < text.length := by
  unfold lastIndexOf at h ⊢
  split at h
  · rename_i pos hpos
    have hlt : pos < text.reverse.length := (List.findIdx?_eq_some_iff_getElem.mp hpos).1
    rw [List.length_reverse] at hlt
    have hle := toInt_ofNat_le (text.length - pos - 1)
    omega
  · omega

/-- The loop ends within its fuel: what it answers is a route it tried, or no route it tries is
there. -/
private theorem longestFirstLoop_spec (routes : List Route) :
    ∀ (fuel : Nat) (text : List Char), text.length < fuel →
      (∃ k ∈ routes, longestFirstLoop routes fuel text = some k ∧ Tried text k.toList) ∨
      (longestFirstLoop routes fuel text = some "*" ∧
        ∀ k, Tried text k.toList → k ∉ routes) := by
  intro fuel
  induction fuel with
  | zero =>
      intro text hlt
      omega
  | succ fuel ih =>
      intro text hlt
      unfold longestFirstLoop
      by_cases hmem : String.ofList text ∈ routes
      · refine .inl ⟨String.ofList text, hmem, ?_, by simpa using Tried.whole text⟩
        rw [if_pos (by simpa using hmem)]
      · rw [if_neg (by simpa using hmem)]
        have hwhole : ∀ k : Route, text = k.toList → k ∉ routes := by
          rintro k rfl
          simpa using hmem
        by_cases hlast : 0 ≤ lastIndexOf text '/'
        · rw [if_pos hlast]
          have hshort : (text.take (lastIndexOf text '/').toNat).length < fuel := by
            have := lastIndexOf_lt hlast
            rw [List.length_take]
            omega
          rcases ih _ hshort with ⟨k, hk, hloop, htried⟩ | ⟨hstar, hnone⟩
          · exact .inl ⟨k, hk, hloop, .shorter hlast htried⟩
          · refine .inr ⟨hstar, ?_⟩
            intro k hk
            generalize htext : k.toList = tried at hk
            cases hk with
            | whole => exact hwhole k htext.symm
            | shorter h htried => exact hnone k (htext ▸ htried)
        · rw [if_neg hlast]
          refine .inr ⟨rfl, ?_⟩
          intro k hk
          generalize htext : k.toList = tried at hk
          cases hk with
          | whole => exact hwhole k htext.symm
          | shorter h => exact absurd h hlast

/-- A resolver answers a collected route that the path names, or `"*"` when there is none. -/
theorem RouteResolver.resolve_spec {r : RouteResolver} {routes : List Route} {target : String}
    {k : Route} (h : r.resolve routes target = some k) :
    (k ∈ routes ∧ r.Names target k) ∨ (k = "*" ∧ ∀ k', r.Names target k' → k' ∉ routes) := by
  cases r with
  | default =>
      obtain rfl : defaultResolve routes target = k := Option.some.inj h
      unfold defaultResolve
      split
      · rename_i first segment rest hsplit
        by_cases hmem : String.ofList segment ∈ routes
        · rw [if_pos (by simpa using hmem)]
          exact .inl ⟨hmem, first, rest, by simpa using hsplit⟩
        · rw [if_neg (by simpa using hmem)]
          refine .inr ⟨rfl, ?_⟩
          rintro k' ⟨first', rest', hsplit'⟩ hk'
          have hseg : segment = k'.toList := by
            rw [hsplit] at hsplit'
            exact (List.cons.inj (List.cons.inj hsplit').2).1
          exact hmem (by simpa [hseg] using hk')
      · rename_i hshort
        refine .inr ⟨rfl, ?_⟩
        rintro k' ⟨first', rest', hsplit'⟩
        exact absurd hsplit' (hshort _ _ _)
  | longestFirst =>
      simp only [RouteResolver.resolve, longestFirstResolve] at h
      by_cases hmem : target ∈ routes
      · rw [if_pos (by simpa using hmem)] at h
        obtain rfl := Option.some.inj h
        exact .inl ⟨hmem, .inl rfl⟩
      · rw [if_neg (by simpa using hmem)] at h
        cases htext : target.toList with
        | nil => simp [htext] at h
        | cons first rest =>
            simp only [htext, beq_iff_eq] at h
            rcases longestFirstLoop_spec routes _ (if first = '/' then rest else first :: rest)
              (Nat.lt_succ_self _) with ⟨k', hk, hloop, htried⟩ | ⟨hstar, hnone⟩
            · obtain rfl := Option.some.inj (hloop.symm.trans h)
              exact .inl ⟨hk, .inr ⟨first, rest, htext, htried⟩⟩
            · refine .inr ⟨Option.some.inj (h.symm.trans hstar), ?_⟩
              rintro k' (rfl | ⟨first', rest', htext', htried⟩)
              · exact hmem
              · rw [htext] at htext'
                obtain ⟨rfl, rfl⟩ := List.cons.inj htext'
                exact hnone k' htried

example : RouteResolver.longestFirst.resolve ["my-service", "my-service/instance"]
    "/my-service/instance/test" = some "my-service/instance" := by decide +kernel

end CrankerRouter.Farm
