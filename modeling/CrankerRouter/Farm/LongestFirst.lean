import CrankerRouter.Farm.RouteResolver
import CrankerRouter.Lib.Split

/-!
# What the two resolvers answer

The longest-first resolver answers the longest route among the path and its prefixes that end just
before a slash, and on routes of one segment it answers what the default resolver does.  Both hold
as long as no slash of the path is at a position that does not fit into an `i32`; for a path that has
one, they hold if the cut at the position it is cast to neither loses nor gains a route.
-/

namespace CrankerRouter.Farm

open Lib

/-- The text itself, or a prefix of it that ends just before a slash. -/
def Cut (text cut : List Char) : Prop := cut = text ∨ ∃ rest, text = cut ++ '/' :: rest

/-- Every slash is at a position that an `i32` holds. -/
def ShortSlashes (text : List Char) : Prop :=
  ∀ cut rest, text = cut ++ '/' :: rest → cut.length < 2 ^ 31

/-- The path without one leading slash. -/
def withoutLeadingSlash (target : String) : List Char :=
  match target.toList with
  | '/' :: rest => rest
  | text => text

/-! ### The last slash -/

section Slash

variable {text cut rest : List Char}

private theorem lastIndexOf_of_not_mem (h : '/' ∉ text) : lastIndexOf text '/' = -1 := by
  have hnone : text.reverse.findIdx? (· == '/') = none := by
    rw [List.findIdx?_eq_none_iff]
    intro c hc
    simp only [beq_eq_false_iff_ne]
    rintro rfl
    exact h (List.mem_reverse.mp hc)
  simp [lastIndexOf, hnone]

private theorem lastIndexOf_append (hrest : '/' ∉ rest) :
    lastIndexOf (cut ++ '/' :: rest) '/' = (BitVec.ofNat 32 cut.length).toInt := by
  have hpos : (cut ++ '/' :: rest).reverse.findIdx? (· == '/') = some rest.length := by
    rw [List.reverse_append, List.reverse_cons, List.append_assoc]
    rw [List.findIdx?_append, List.findIdx?_eq_none_iff.mpr]
    · simp [List.findIdx?_cons]
    · intro c hc
      simp only [beq_eq_false_iff_ne]
      rintro rfl
      exact hrest (List.mem_reverse.mp hc)
  have hindex : (cut ++ '/' :: rest).length - rest.length - 1 = cut.length := by
    rw [List.length_append, List.length_cons]
    omega
  simp only [lastIndexOf, hpos, hindex]

theorem toInt_ofNat_of_lt {n : Nat} (h : n < 2 ^ 31) : (BitVec.ofNat 32 n).toInt = n := by
  rw [BitVec.toInt_eq_toNat_cond, BitVec.toNat_ofNat, Nat.mod_eq_of_lt (by omega)]
  split_ifs <;> omega

private theorem slash_cases (text : List Char) :
    '/' ∉ text ∨ ∃ cut rest, text = cut ++ '/' :: rest ∧ '/' ∉ rest := by
  by_cases h : '/' ∈ text
  · right
    obtain ⟨before, after, htext, hnot⟩ :=
      List.eq_append_cons_of_mem (List.mem_reverse.mpr h)
    refine ⟨after.reverse, before.reverse, ?_, by simpa using hnot⟩
    have hrev := congrArg List.reverse htext
    simpa using hrev
  · exact .inl h

end Slash

/-! ### The cuts of a text -/

section Cut

variable {text cut rest other : List Char}

private theorem cut_of_not_mem (h : '/' ∉ text) : Cut text other ↔ other = text := by
  constructor
  · rintro (rfl | ⟨after, rfl⟩)
    · rfl
    · exact absurd (by simp) h
  · exact .inl

private theorem cut_append (hrest : '/' ∉ rest) :
    Cut (cut ++ '/' :: rest) other ↔ other = cut ++ '/' :: rest ∨ Cut cut other := by
  constructor
  · rintro (rfl | ⟨after, htext⟩)
    · exact .inl rfl
    · right
      obtain ⟨middle, hother, hafter⟩ | ⟨middle, hcut, hafter⟩ :=
        List.append_eq_append_iff.mp htext
      · -- the slash of the cut is the last one
        cases middle with
        | nil => exact .inl (by simpa using hother)
        | cons c middle =>
            exfalso
            apply hrest
            have hmid : rest = middle ++ '/' :: after := (List.cons.inj hafter).2
            rw [hmid]
            simp
      · cases middle with
        | nil => exact .inl (by simpa using hcut.symm)
        | cons c middle =>
            obtain ⟨rfl, -⟩ := List.cons.inj hafter
            exact .inr ⟨middle, hcut⟩
  · rintro (rfl | rfl | ⟨after, rfl⟩)
    · exact .inl rfl
    · exact .inr ⟨rest, rfl⟩
    · exact .inr ⟨after ++ '/' :: rest, by simp⟩

theorem Cut.length_le (h : Cut text other) : other.length ≤ text.length := by
  obtain rfl | ⟨after, rfl⟩ := h
  · exact le_rfl
  · simp

private theorem Cut.isPrefix (h : Cut text other) : other <+: text := by
  obtain rfl | ⟨after, rfl⟩ := h
  · exact List.prefix_rfl
  · exact List.prefix_append other _

private theorem Cut.eq_of_length (h : Cut text cut) (h' : Cut text other)
    (hlen : cut.length = other.length) :
    cut = other :=
  (List.prefix_of_prefix_length_le h.isPrefix h'.isPrefix hlen.le).eq_of_length hlen

private theorem Cut.of_length_le {front : List Char} (hfront : front <+: text) (h : Cut text other)
    (hle : other.length ≤ front.length) : Cut front other := by
  obtain ⟨after, hfront'⟩ := List.prefix_of_prefix_length_le h.isPrefix hfront hle
  cases after with
  | nil => exact .inl (by simpa using hfront')
  | cons c after =>
      obtain ⟨rest, htext⟩ := hfront
      obtain heq | ⟨rest', htext'⟩ := h
      · -- the text itself is not shorter than its front
        have hlen := congrArg List.length htext
        simp only [← hfront', List.length_append, List.length_cons, heq] at hlen
        omega
      · have hc : c = '/' := by
          rw [← hfront', htext', List.append_assoc] at htext
          exact (List.cons.inj (List.append_cancel_left htext)).1
        exact .inr ⟨after, by rw [← hfront', hc]⟩

private theorem Cut.of_front {front : List Char} (hfront : front <+: text) (h : Cut front other) :
    other = front ∨ Cut text other := by
  obtain rfl | ⟨after, rfl⟩ := h
  · exact .inl rfl
  · obtain ⟨rest, rfl⟩ := hfront
    exact .inr (.inr ⟨after ++ rest, by simp⟩)

theorem ShortSlashes.before (h : ShortSlashes (cut ++ '/' :: rest)) : ShortSlashes cut := by
  intro before after hcut
  refine h before (after ++ '/' :: rest) ?_
  simp [hcut]

private theorem shortSlashes_of_length (h : text.length ≤ 2 ^ 31) : ShortSlashes text := by
  rintro cut rest rfl
  rw [List.length_append, List.length_cons] at h
  omega

end Cut

/-! ### The longest-first resolver -/

/-- The answer is the longest route among the cuts of the text, and `"*"` if there is none. -/
def LongestCut (routes : List Route) (text : List Char) (k : Route) : Prop :=
  (k ∈ routes ∧ Cut text k.toList ∧
    ∀ k' ∈ routes, Cut text k'.toList → k'.length ≤ k.length) ∨
  (k = "*" ∧ ∀ k' ∈ routes, ¬ Cut text k'.toList)

private theorem longestCut_star_iff {routes : List Route} {text : List Char} :
    LongestCut routes text "*" ↔ ∀ k ∈ routes, k ≠ "*" → ¬ Cut text k.toList := by
  constructor
  · rintro (⟨-, hstar, hmax⟩ | ⟨-, hnot⟩) k hk hne hcut
    · -- a shorter cut than the star is empty, in front of the first slash
      have hlen := hmax k hk hcut
      apply hne
      rw [← String.toList_inj]
      apply hcut.eq_of_length hstar
      rw [String.length_toList, String.length_toList]
      refine le_antisymm hlen (Nat.one_le_iff_ne_zero.mpr ?_)
      intro hzero
      have hnil : k.toList = [] := by
        rw [← List.length_eq_zero_iff, String.length_toList, hzero]
      obtain ⟨rest, htext⟩ := hstar.isPrefix
      obtain hempty | ⟨after, hslash⟩ := hcut
      · rw [hnil] at hempty
        rw [← hempty] at htext
        simp at htext
      · rw [hnil, ← htext] at hslash
        simp at hslash
    · exact hnot k hk hcut
  · intro h
    by_cases hstar : "*" ∈ routes ∧ Cut text "*".toList
    · refine .inl ⟨hstar.1, hstar.2, ?_⟩
      intro k hk hcut
      by_cases hk' : k = "*"
      · rw [hk']
      · exact absurd hcut (h k hk hk')
    · refine .inr ⟨rfl, ?_⟩
      intro k hk hcut
      by_cases hk' : k = "*"
      · exact hstar ⟨hk' ▸ hk, hk' ▸ hcut⟩
      · exact h k hk hk' hcut

private theorem longestCut_iff_of_ne {routes : List Route} {text : List Char} {a : Route}
    (hne : a ≠ "*") :
    LongestCut routes text a ↔ a ∈ routes ∧ Cut text a.toList ∧
      ∀ k ∈ routes, k ≠ "*" → Cut text k.toList → k.length ≤ a.length := by
  constructor
  · rintro (⟨hmem, hcut, hmax⟩ | ⟨hstar, -⟩)
    · exact ⟨hmem, hcut, fun k hk _ => hmax k hk⟩
    · exact absurd hstar hne
  · rintro ⟨hmem, hcut, hmax⟩
    refine .inl ⟨hmem, hcut, ?_⟩
    intro k hk hcut'
    by_cases hstar : k = "*"
    · by_contra hlt
      -- the star would be the longest, but then nothing else is a cut
      have hlongest : LongestCut routes text "*" := by
        refine .inl ⟨hstar ▸ hk, hstar ▸ hcut', ?_⟩
        intro k'' hk'' hcut''
        by_cases hk : k'' = "*"
        · rw [hk]
        · have := hmax k'' hk'' hk hcut''
          rw [hstar] at hlt
          omega
      exact longestCut_star_iff.mp hlongest a hmem hne hcut
    · exact hmax k hk hstar hcut'

theorem LongestCut.unique {routes : List Route} {text : List Char} {a b : Route}
    (ha : LongestCut routes text a) (hb : LongestCut routes text b) : a = b := by
  obtain ⟨hmem, hcut, hmax⟩ | ⟨rfl, hnot⟩ := ha <;>
    obtain ⟨hmem', hcut', hmax'⟩ | ⟨rfl, hnot'⟩ := hb
  · rw [← String.toList_inj]
    apply hcut.eq_of_length hcut'
    rw [String.length_toList, String.length_toList]
    exact le_antisymm (hmax' a hmem hcut) (hmax b hmem' hcut')
  · exact absurd hcut (hnot' a hmem)
  · exact absurd hcut' (hnot b hmem')
  · rfl

/-- The answer for the front of a text is the answer for the text if the front loses and gains no
route but the star, and only then. -/
private theorem LongestCut.front_iff {routes : List Route} {text front : List Char} {a : Route}
    (hfront : front <+: text) (ha : LongestCut routes front a) :
    LongestCut routes text a ↔
      ∀ k ∈ routes, k ≠ "*" → (Cut text k.toList ↔ Cut front k.toList) := by
  by_cases hstar : a = "*"
  · subst hstar
    rw [longestCut_star_iff] at ha ⊢
    refine forall₃_congr fun k hk hne => ?_
    simp [ha k hk hne]
  · rw [longestCut_iff_of_ne hstar] at ha ⊢
    obtain ⟨hmem, hcut, hmax⟩ := ha
    constructor
    · rintro ⟨-, htext, hmax'⟩ k hk hne
      constructor
      · intro hk'
        apply hk'.of_length_le hfront
        have hlen := hcut.length_le
        have hlen' := hmax' k hk hne hk'
        rw [String.length_toList] at hlen ⊢
        omega
      · intro hk'
        obtain heq | hk'' := hk'.of_front hfront
        · -- the whole front is a route, so it is the answer
          have hsame : k.toList = a.toList := by
            apply hk'.eq_of_length hcut
            have hlen := hcut.length_le
            have hlen' := hmax k hk hne hk'
            rw [← heq, String.length_toList, String.length_toList] at hlen
            rw [String.length_toList, String.length_toList]
            omega
          rw [hsame]
          exact htext
        · exact hk''
    · intro hsame
      refine ⟨hmem, (hsame a hmem hstar).mpr hcut, ?_⟩
      intro k hk hne hk'
      exact hmax k hk hne ((hsame k hk hne).mp hk')

private theorem longestCut_self {routes : List Route} {text : List Char}
    (hmem : String.ofList text ∈ routes) : LongestCut routes text (String.ofList text) := by
  refine .inl ⟨hmem, .inl (by simp), ?_⟩
  intro k _ hcut
  simpa [String.length_toList] using hcut.length_le

private theorem longestFirstLoop_route {routes : List Route} {text : List Char} {fuel : Nat}
    (hmem : String.ofList text ∈ routes) :
    ∃ k, longestFirstLoop routes (fuel + 1) text = some k ∧ LongestCut routes text k := by
  refine ⟨_, ?_, longestCut_self hmem⟩
  rw [longestFirstLoop, if_pos (by simpa using hmem)]

private theorem longestFirstLoop_longest (routes : List Route) (fuel : Nat) (text : List Char)
    (hfuel : text.length < fuel) (hshort : ShortSlashes text) :
    ∃ k, longestFirstLoop routes fuel text = some k ∧ LongestCut routes text k := by
  induction fuel generalizing text with
  | zero => omega
  | succ fuel ih =>
      by_cases hmem : String.ofList text ∈ routes
      · exact longestFirstLoop_route hmem
      · rw [longestFirstLoop, if_neg (by simpa using hmem)]
        have hwhole : ∀ k' ∈ routes, k'.toList ≠ text := by
          rintro k' hk' rfl
          exact hmem (by simpa using hk')
        obtain hnone | ⟨cut, rest, rfl, hrest⟩ := slash_cases text
        · rw [lastIndexOf_of_not_mem hnone, if_neg (by decide)]
          refine ⟨"*", rfl, .inr ⟨rfl, ?_⟩⟩
          intro k' hk' hcut
          exact hwhole k' hk' ((cut_of_not_mem hnone).mp hcut)
        · have hlt : cut.length < 2 ^ 31 := hshort cut rest rfl
          have hlen : cut.length < fuel := by
            rw [List.length_append, List.length_cons] at hfuel
            omega
          rw [lastIndexOf_append hrest, toInt_ofNat_of_lt hlt, if_pos (Int.natCast_nonneg _),
            Int.toNat_natCast, List.take_left]
          obtain ⟨k, hloop, hk⟩ := ih cut hlen hshort.before
          have hcuts : ∀ k' ∈ routes,
              (Cut (cut ++ '/' :: rest) k'.toList ↔ Cut cut k'.toList) := by
            intro k' hk'
            rw [cut_append hrest, or_iff_right (hwhole k' hk')]
          refine ⟨k, hloop, ?_⟩
          obtain ⟨hmem', hcut, hmax⟩ | ⟨hstar, hnot⟩ := hk
          · refine .inl ⟨hmem', (hcuts k hmem').mpr hcut, ?_⟩
            intro k' hk' hcut'
            exact hmax k' hk' ((hcuts k' hk').mp hcut')
          · refine .inr ⟨hstar, ?_⟩
            intro k' hk' hcut'
            exact hnot k' hk' ((hcuts k' hk').mp hcut')

private theorem longestFirstResolve_eq {routes : List Route} {target : String} (hne : target ≠ "")
    (hmem : target ∉ routes) :
    longestFirstResolve routes target = longestFirstLoop routes
      ((withoutLeadingSlash target).length + 1) (withoutLeadingSlash target) := by
  unfold longestFirstResolve withoutLeadingSlash
  rw [if_neg (by simpa using hmem)]
  cases htext : target.toList with
  | nil => exact absurd (String.toList_eq_nil_iff.mp htext) hne
  | cons first rest =>
      by_cases hfirst : first = '/'
      · subst hfirst
        simp
      · simp [hfirst]

private theorem longestFirstLoop_slash {routes : List Route} {cut rest : List Char} (fuel : Nat)
    (hrest : '/' ∉ rest) (hmem : String.ofList (cut ++ '/' :: rest) ∉ routes) :
    longestFirstLoop routes (fuel + 1) (cut ++ '/' :: rest) =
      if 0 ≤ (BitVec.ofNat 32 cut.length).toInt then
        longestFirstLoop routes fuel (cut.take (BitVec.ofNat 32 cut.length).toInt.toNat)
      else some "*" := by
  have hle := toInt_ofNat_le cut.length
  rw [longestFirstLoop, if_neg (by simpa using hmem), lastIndexOf_append hrest,
    List.take_append_of_le_length (by omega)]

/-- Cutting what is in front of the last slash at the position that the `i32` holds, if it is one,
neither loses nor gains a route other than `"*"`. -/
def CastHarmless (routes : List Route) (text : List Char) : Prop :=
  ∀ cut rest, text = cut ++ '/' :: rest → '/' ∉ rest → ∀ k ∈ routes, k ≠ "*" →
    (Cut text k.toList ↔ 0 ≤ (BitVec.ofNat 32 cut.length).toInt ∧
      Cut (cut.take (BitVec.ofNat 32 cut.length).toInt.toNat) k.toList)

private theorem longestFirstLoop_slash_longest_iff {routes : List Route} {cut rest : List Char}
    (hrest : '/' ∉ rest) (hmem : String.ofList (cut ++ '/' :: rest) ∉ routes) :
    (∃ k, longestFirstLoop routes ((cut ++ '/' :: rest).length + 1) (cut ++ '/' :: rest) = some k ∧
      LongestCut routes (cut ++ '/' :: rest) k) ↔
    ∀ k ∈ routes, k ≠ "*" →
      (Cut (cut ++ '/' :: rest) k.toList ↔ 0 ≤ (BitVec.ofNat 32 cut.length).toInt ∧
        Cut (cut.take (BitVec.ofNat 32 cut.length).toInt.toNat) k.toList) := by
  rw [longestFirstLoop_slash _ hrest hmem]
  by_cases hcast : 0 ≤ (BitVec.ofNat 32 cut.length).toInt
  · -- what is left is short, so the rest of the loop is right about it
    have hlt : (BitVec.ofNat 32 cut.length).toInt < 2 ^ 31 := BitVec.toInt_lt
    have hshort : ShortSlashes (cut.take (BitVec.ofNat 32 cut.length).toInt.toNat) :=
      shortSlashes_of_length (by rw [List.length_take]; omega)
    have hfuel : (cut.take (BitVec.ofNat 32 cut.length).toInt.toNat).length <
        (cut ++ '/' :: rest).length := by
      rw [List.length_take, List.length_append, List.length_cons]
      omega
    obtain ⟨k, hloop, hk⟩ := longestFirstLoop_longest routes _ _ hfuel hshort
    have hfront : cut.take (BitVec.ofNat 32 cut.length).toInt.toNat <+: cut ++ '/' :: rest :=
      (List.take_prefix _ _).trans (List.prefix_append _ _)
    simp only [hcast, if_true, hloop, Option.some.injEq, true_and, exists_eq_left']
    exact hk.front_iff hfront
  · simp only [hcast, if_false, Option.some.injEq, false_and, iff_false, exists_eq_left']
    exact longestCut_star_iff

/-- On a text that is no route the loop is right exactly if the cast is harmless. -/
private theorem longestFirstLoop_longest_iff {routes : List Route} {text : List Char}
    (hmem : String.ofList text ∉ routes) :
    (∃ k, longestFirstLoop routes (text.length + 1) text = some k ∧ LongestCut routes text k) ↔
      CastHarmless routes text := by
  constructor
  · rintro h cut rest rfl hrest
    exact (longestFirstLoop_slash_longest_iff hrest hmem).mp h
  · intro h
    obtain hnone | ⟨cut, rest, rfl, hrest⟩ := slash_cases text
    · have hshort : ShortSlashes text := by
        rintro cut rest rfl
        exact absurd (by simp) hnone
      exact longestFirstLoop_longest routes _ text (Nat.lt_succ_self _) hshort
    · exact (longestFirstLoop_slash_longest_iff hrest hmem).mpr (h cut rest rfl hrest)

/-- The resolver is right about a path that is a route, with or without its leading slash, about one
whose slashes fit, and else exactly if the cast is harmless. -/
theorem longest_route_resolved (routes : List Route) (target : String) (hne : target ≠ "") :
    ((target ∈ routes → longestFirstResolve routes target = some target) ∧
      (target ∉ routes → ∃ k, longestFirstResolve routes target = some k ∧
        LongestCut routes (withoutLeadingSlash target) k)) ↔
    target ∈ routes ∨ String.ofList (withoutLeadingSlash target) ∈ routes ∨
      ShortSlashes (withoutLeadingSlash target) ∨
      CastHarmless routes (withoutLeadingSlash target) := by
  by_cases hmem : target ∈ routes
  · simp [hmem, longestFirstResolve]
  · simp only [hmem, false_implies, true_and, not_false_eq_true, true_implies, false_or]
    rw [longestFirstResolve_eq hne hmem]
    constructor
    · intro h
      by_cases htext : String.ofList (withoutLeadingSlash target) ∈ routes
      · exact .inl htext
      · exact .inr (.inr ((longestFirstLoop_longest_iff htext).mp h))
    · rintro (htext | hshort | hcast)
      · exact longestFirstLoop_route htext
      · exact longestFirstLoop_longest routes _ _ (Nat.lt_succ_self _) hshort
      · by_cases htext : String.ofList (withoutLeadingSlash target) ∈ routes
        · exact longestFirstLoop_route htext
        · exact (longestFirstLoop_longest_iff htext).mpr hcast

theorem longest_route_resolved_instance :
    ShortSlashes (withoutLeadingSlash "/my-service//instance/") ∧
    "/my-service//instance/" ∉ ["my-service", "my-service/", "instance"] ∧
    ∃ k, longestFirstResolve ["my-service", "my-service/", "instance"] "/my-service//instance/" =
        some k ∧
      LongestCut ["my-service", "my-service/", "instance"]
        (withoutLeadingSlash "/my-service//instance/") k := by
  have hshort : ShortSlashes (withoutLeadingSlash "/my-service//instance/") :=
    shortSlashes_of_length (by decide +kernel)
  have hmem : "/my-service//instance/" ∉ ["my-service", "my-service/", "instance"] := by decide
  exact ⟨hshort, hmem,
    ((longest_route_resolved _ _ (by decide)).mpr (.inr (.inr (.inl hshort)))).2 hmem⟩

/-- A path of `n` characters and a slash. -/
def longTarget (n : Nat) : String := String.ofList (List.replicate n 'a' ++ ['/'])

def longRoute (n : Nat) : Route := String.ofList (List.replicate n 'a')

private theorem longTarget_missed {n : Nat} (hpos : 0 < n) (hwrap : (BitVec.ofNat 32 n).toInt < 0) :
    longTarget n ∉ [longRoute n] ∧
    longestFirstResolve [longRoute n] (longTarget n) = some "*" ∧
    ¬ LongestCut [longRoute n] (withoutLeadingSlash (longTarget n)) "*" := by
  obtain ⟨m, rfl⟩ : ∃ m, n = m + 1 := ⟨n - 1, by omega⟩
  have hmem : longTarget (m + 1) ∉ [longRoute (m + 1)] := by
    rw [List.mem_singleton, longTarget, longRoute, String.ofList_inj]
    intro h
    simpa using congrArg List.length h
  have htext : withoutLeadingSlash (longTarget (m + 1)) = List.replicate (m + 1) 'a' ++ ['/'] := by
    simp [withoutLeadingSlash, longTarget, List.replicate_succ]
  have hne : longTarget (m + 1) ≠ "" := by
    rw [longTarget, List.replicate_succ]
    simp
  refine ⟨hmem, ?_, ?_⟩
  · rw [longestFirstResolve_eq hne hmem, htext]
    rw [longestFirstLoop_slash _ (by simp) hmem, if_neg (by simpa using hwrap)]
  · rw [htext]
    rintro (⟨hstar, -⟩ | ⟨-, hnot⟩)
    · have hfirst : (longRoute (m + 1)).toList = "*".toList :=
        congrArg String.toList (List.mem_singleton.mp hstar).symm
      simp [longRoute, List.replicate_succ] at hfirst
    · exact hnot (longRoute (m + 1)) (by simp) (.inr ⟨[], by simp [longRoute]⟩)

/-- With the only slash at position 2^31 the loop does not look for shorter prefixes. -/
theorem longest_route_missed :
    longTarget (2 ^ 31) ∉ [longRoute (2 ^ 31)] ∧
    longestFirstResolve [longRoute (2 ^ 31)] (longTarget (2 ^ 31)) = some "*" ∧
    ¬ LongestCut [longRoute (2 ^ 31)] (withoutLeadingSlash (longTarget (2 ^ 31))) "*" :=
  longTarget_missed (by decide) (by decide)

/-! ### The two resolvers -/

/-- What is before the first slash. -/
def firstSegment (text : List Char) : List Char := text.takeWhile (· != '/')

private theorem slash_notMem_firstSegment (text : List Char) : '/' ∉ firstSegment text := by
  intro h
  have hne := List.mem_takeWhile_imp h
  simp at hne

private theorem cut_firstSegment (text : List Char) : Cut text (firstSegment text) := by
  have htext : firstSegment text ++ text.dropWhile (· != '/') = text :=
    List.takeWhile_append_dropWhile
  cases hdrop : text.dropWhile (· != '/') with
  | nil =>
      rw [hdrop, List.append_nil] at htext
      exact .inl htext
  | cons c rest =>
      have hc : c = '/' := by
        have hhead := List.head_dropWhile_not (p := (· != '/')) (l := text) (by simp [hdrop])
        simpa [hdrop] using hhead
      rw [hdrop, hc] at htext
      exact .inr ⟨rest, htext.symm⟩

private theorem Cut.eq_firstSegment {text cut : List Char} (h : Cut text cut) (hnone : '/' ∉ cut) :
    cut = firstSegment text := by
  have hall : ∀ c ∈ cut, (c != '/') = true := by
    intro c hc
    simp only [bne_iff_ne]
    rintro rfl
    exact hnone hc
  obtain rfl | ⟨rest, rfl⟩ := h
  · exact (List.takeWhile_eq_self_iff.mpr hall).symm
  · simp [firstSegment, List.takeWhile_append_of_pos hall]

private theorem splitOn_slash (text : List Char) :
    ∃ rest, text.splitOn '/' = firstSegment text :: rest := by
  have hnone := slash_notMem_firstSegment text
  obtain h | ⟨rest, h⟩ := cut_firstSegment text
  · refine ⟨[], ?_⟩
    rw [h] at hnone
    rw [h]
    exact List.splitOn_eq_singleton hnone
  · refine ⟨rest.splitOn '/', ?_⟩
    nth_rewrite 1 [h]
    exact splitOn_append_cons hnone rest

private theorem defaultResolve_eq {routes : List Route} {target : String} {text : List Char}
    (htarget : target.toList = '/' :: text) :
    defaultResolve routes target =
      if String.ofList (firstSegment text) ∈ routes then String.ofList (firstSegment text)
      else "*" := by
  obtain ⟨rest, hsplit⟩ := splitOn_slash text
  have htarget' : target.toList.splitOn '/' = [] :: firstSegment text :: rest := by
    rw [htarget, ← hsplit]
    exact splitOn_append_cons (List.not_mem_nil) text
  simp only [defaultResolve, htarget', List.contains_iff_mem]

private theorem longestCut_defaultResolve {routes : List Route} {target : String} {text : List Char}
    (hroutes : ∀ k ∈ routes, '/' ∉ k.toList) (htarget : target.toList = '/' :: text) :
    LongestCut routes text (defaultResolve routes target) := by
  have hseg : ∀ k ∈ routes, Cut text k.toList → String.ofList (firstSegment text) = k := by
    intro k hk hcut
    rw [← hcut.eq_firstSegment (hroutes k hk), String.ofList_toList]
  rw [defaultResolve_eq htarget]
  split_ifs with hmem
  · refine .inl ⟨hmem, by simpa using cut_firstSegment text, ?_⟩
    intro k hk hcut
    rw [hseg k hk hcut]
  · refine .inr ⟨rfl, ?_⟩
    intro k hk hcut
    exact hmem (hseg k hk hcut ▸ hk)

/-- On routes of one segment the resolvers agree about a path whose slashes fit, and else exactly if
the cast is harmless. -/
theorem resolvers_agree (routes : List Route) (target : String)
    (hroutes : ∀ k ∈ routes, '/' ∉ k.toList) (hslash : target.toList.head? = some '/') :
    longestFirstResolve routes target = some (defaultResolve routes target) ↔
      ShortSlashes (withoutLeadingSlash target) ∨
        CastHarmless routes (withoutLeadingSlash target) := by
  obtain ⟨text, htarget⟩ : ∃ text, target.toList = '/' :: text := List.head?_eq_some_iff.mp hslash
  have htext : withoutLeadingSlash target = text := by simp [withoutLeadingSlash, htarget]
  have hne : target ≠ "" := by
    rintro rfl
    simp at htarget
  have hmem : target ∉ routes := fun h => hroutes target h (by simp [htarget])
  have hdefault := longestCut_defaultResolve hroutes htarget
  have hlongest : longestFirstResolve routes target = some (defaultResolve routes target) ↔
      ∃ k, longestFirstLoop routes (text.length + 1) text = some k ∧ LongestCut routes text k := by
    rw [longestFirstResolve_eq hne hmem, htext]
    constructor
    · intro h
      exact ⟨_, h, hdefault⟩
    · rintro ⟨k, hloop, hk⟩
      rw [hloop, hk.unique hdefault]
  rw [hlongest, htext]
  by_cases hroute : String.ofList text ∈ routes
  · -- a route has no slash
    have hshort : ShortSlashes text := by
      rintro cut rest rfl
      exact absurd (by simp) (hroutes _ hroute)
    exact iff_of_true (longestFirstLoop_route hroute) (.inl hshort)
  · constructor
    · intro h
      exact .inr ((longestFirstLoop_longest_iff hroute).mp h)
    · rintro (hshort | hcast)
      · exact longestFirstLoop_longest routes _ _ (Nat.lt_succ_self _) hshort
      · exact (longestFirstLoop_longest_iff hroute).mpr hcast

theorem resolvers_agree_instance :
    (∀ k ∈ ["my-service", "", "other"], '/' ∉ k.toList) ∧
    ShortSlashes (withoutLeadingSlash "//my-service/api/") ∧
    longestFirstResolve ["my-service", "", "other"] "//my-service/api/" =
      some (defaultResolve ["my-service", "", "other"] "//my-service/api/") := by
  have hroutes : ∀ k ∈ ["my-service", "", "other"], '/' ∉ k.toList := by decide
  have hshort : ShortSlashes (withoutLeadingSlash "//my-service/api/") :=
    shortSlashes_of_length (by decide +kernel)
  exact ⟨hroutes, hshort, (resolvers_agree _ _ hroutes (by decide)).mpr (.inl hshort)⟩

/-- A path with the segment `b`, `n` characters and a slash. -/
def longPath (n : Nat) : String := String.ofList ("/b/".toList ++ List.replicate n 'a' ++ ['/'])

private theorem longPath_differs {n : Nat} (hwrap : (BitVec.ofNat 32 (n + 2)).toInt < 0) :
    (longPath n).toList.head? = some '/' ∧ defaultResolve ["b"] (longPath n) = "b" ∧
    longestFirstResolve ["b"] (longPath n) = some "*" := by
  -- the equation lemma of `longPath` is slow to generate
  have hpath : (longPath n).toList = "/b/".toList ++ List.replicate n 'a' ++ ['/'] :=
    String.toList_ofList
  have hlist : (longPath n).toList = '/' :: ('b' :: '/' :: List.replicate n 'a' ++ '/' :: []) := by
    simpa using hpath
  have hmem : ∀ l : List Char, '/' ∈ l → String.ofList l ∉ ["b"] := by
    intro l hl h
    have hl' : l = ['b'] := by simpa using congrArg String.toList (List.mem_singleton.mp h)
    simp [hl'] at hl
  refine ⟨by simp [hlist], ?_, ?_⟩
  · rw [defaultResolve_eq hlist]
    simp [firstSegment]
  · have hmem' : longPath n ∉ ["b"] := hmem _ (by simp)
    have htext : withoutLeadingSlash (longPath n) =
        'b' :: '/' :: List.replicate n 'a' ++ '/' :: [] := by
      simp [withoutLeadingSlash, hlist]
    have hne : longPath n ≠ "" := by
      intro h
      simp [h] at hlist
    rw [longestFirstResolve_eq hne hmem', htext]
    rw [longestFirstLoop_slash _ (by simp) (hmem _ (by simp)), if_neg (by simpa using hwrap)]

/-- With the last slash past position 2^31 the longest-first resolver misses the route. -/
theorem resolvers_differ :
    (longPath (2 ^ 31)).toList.head? = some '/' ∧
    defaultResolve ["b"] (longPath (2 ^ 31)) = "b" ∧
    longestFirstResolve ["b"] (longPath (2 ^ 31)) = some "*" :=
  longPath_differs (by decide)

end CrankerRouter.Farm
