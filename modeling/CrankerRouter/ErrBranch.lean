import CrankerRouter.V3.OnBinary

/-!
# The error branch of the send pipe

On an error the send pipe closes the send queue, sends a close frame with the reason, removes the
socket from the farm and ends the requests.  The reason is cut at byte 100, which panics inside a
character, and what follows in the branch is then not done.
-/

namespace CrankerRouter

open Lib

section Slice

/-- The slice `[0..n]` of a text, counted in bytes; it panics past the end or inside a character. -/
def sliceTo (n : Nat) : List Char → Option (List Char)
  | [] => if n = 0 then some [] else none
  | c :: cs =>
      if n = 0 then some []
      else if c.utf8Size ≤ n then (sliceTo (n - c.utf8Size) cs).map (c :: ·)
      else none

def byteLen (cs : List Char) : Nat := (cs.map Char.utf8Size).sum

@[simp] theorem byteLen_nil : byteLen [] = 0 := rfl

@[simp] theorem byteLen_cons (c : Char) (cs : List Char) :
    byteLen (c :: cs) = c.utf8Size + byteLen cs := by
  rw [byteLen, List.map_cons, List.sum_cons, byteLen]

private theorem length_utf8 (s : String) : (utf8 s).length = byteLen s.toList := by
  have hlist : ∀ cs : List Char, (utf8 (String.ofList cs)).length = byteLen cs := by
    intro cs
    rw [utf8_ofList]
    induction cs with
    | nil => rfl
    | cons c cs ih =>
        rw [List.flatMap_cons, List.length_append, ih, String.length_utf8EncodeChar, byteLen_cons]
  rw [← hlist, String.ofList_toList]

private theorem eq_nil_of_byteLen {cs : List Char} (h : byteLen cs = 0) : cs = [] := by
  cases cs with
  | nil => rfl
  | cons c cs =>
      have hpos := c.utf8Size_pos
      rw [byteLen_cons] at h
      omega

private theorem sliceTo_eq_some_iff (n : Nat) (cs ds : List Char) :
    sliceTo n cs = some ds ↔ ds <+: cs ∧ byteLen ds = n := by
  induction cs generalizing n ds with
  | nil =>
      simp only [sliceTo, List.prefix_nil]
      constructor
      · intro h
        split_ifs at h with hn
        obtain rfl := Option.some.inj h
        exact ⟨rfl, by simp [hn]⟩
      · rintro ⟨rfl, hn⟩
        rw [if_pos (by simpa using hn.symm)]
  | cons c cs ih =>
      have hpos := c.utf8Size_pos
      by_cases hn : n = 0
      · simp only [sliceTo, hn, if_true, Option.some.injEq]
        constructor
        · rintro rfl
          exact ⟨List.nil_prefix, rfl⟩
        · rintro ⟨-, hlen⟩
          exact (eq_nil_of_byteLen hlen).symm
      · simp only [sliceTo, if_neg hn]
        cases ds with
        | nil =>
            constructor
            · intro h
              split_ifs at h
              simp at h
            · rintro ⟨-, hlen⟩
              exact absurd hlen.symm hn
        | cons d ds =>
            rw [List.cons_prefix_cons, byteLen_cons]
            constructor
            · intro h
              split_ifs at h with hfits
              obtain ⟨es, hes, heq⟩ := Option.map_eq_some_iff.mp h
              obtain ⟨rfl, rfl⟩ := List.cons.inj heq
              obtain ⟨hinit, hlen⟩ := (ih _ _).mp hes
              exact ⟨⟨rfl, hinit⟩, by omega⟩
            · rintro ⟨⟨rfl, hinit⟩, hlen⟩
              have hrest : sliceTo (n - d.utf8Size) cs = some ds := (ih _ _).mpr ⟨hinit, by omega⟩
              rw [if_pos (by omega), hrest]
              rfl

end Slice

/-- The reason of the close frame; `none` is a panic. -/
def reasonInCloFrame (reason : String) : Option String :=
  if 100 < (utf8 reason).length then (sliceTo 100 reason.toList).map String.ofList else some reason

/-- What the branch does to the socket and the farm. -/
inductive ErrAct
  | tryProvideGeneralError (crex : CrankerRouterException)
  | closeSendTask
  | flush
  | sendClose (frame : CloseFrame)
  | removeRouterSocketInBackground
  | terminateAllConn (crex : CrankerRouterException)
  deriving DecidableEq

/-- The branch for one error.  `is_removed` is read twice and may change in between; `hasFarm` says
that the farm is still there.  The flag is `false` if a panic cuts the branch off. -/
def errBranch (removedFirst removedLater hasFarm : Bool) (crex : CrankerRouterException) :
    List ErrAct × Bool :=
  let before := (if removedFirst then [] else [.tryProvideGeneralError crex]) ++
    [.closeSendTask, .flush]
  match reasonInCloFrame crex.reason with
  | none => (before, false)
  | some reason =>
      -- `underlying_wss_tx.close()` is called and never awaited, so it does nothing
      (before ++ [.sendClose ⟨1011, reason⟩] ++
        (if !removedLater && hasFarm then [.removeRouterSocketInBackground] else []) ++
        [.terminateAllConn crex], true)

/-- The reason can be cut: it is short enough, or byte 100 is where a character begins. -/
def Cuttable (reason : String) : Prop :=
  (utf8 reason).length ≤ 100 ∨ ∃ cs, cs <+: reason.toList ∧ byteLen cs = 100

private theorem reasonInCloFrame_isSome_iff (reason : String) :
    (reasonInCloFrame reason).isSome ↔ Cuttable reason := by
  unfold reasonInCloFrame Cuttable
  by_cases hlong : 100 < (utf8 reason).length
  · rw [if_pos hlong, Option.isSome_map, Option.isSome_iff_exists]
    have hnot : ¬(utf8 reason).length ≤ 100 := by omega
    simp only [sliceTo_eq_some_iff, hnot, false_or]
  · rw [if_neg hlong]
    exact iff_of_true rfl (.inl (by omega))

private theorem reasonInCloFrame_spec {reason cut : String}
    (h : reasonInCloFrame reason = some cut) :
    cut.toList <+: reason.toList ∧ (utf8 cut).length ≤ 100 := by
  unfold reasonInCloFrame at h
  split_ifs at h with hlong
  · obtain ⟨cs, hcs, rfl⟩ := Option.map_eq_some_iff.mp h
    obtain ⟨hinit, hlen⟩ := (sliceTo_eq_some_iff _ _ _).mp hcs
    rw [length_utf8, String.toList_ofList]
    exact ⟨hinit, by omega⟩
  · obtain rfl := Option.some.inj h
    exact ⟨List.prefix_rfl, by omega⟩

/-- The branch was gone through, with a close reason cut as it should be. -/
structure Completed (removedLater hasFarm : Bool) (crex : CrankerRouterException)
    (done : List ErrAct × Bool) : Prop where
  returns : done.2 = true
  closed : ∃ reason : String, reason.toList <+: crex.reason.toList ∧ (utf8 reason).length ≤ 100 ∧
    .sendClose ⟨1011, reason⟩ ∈ done.1
  removed : removedLater = false → hasFarm = true → .removeRouterSocketInBackground ∈ done.1
  terminated : .terminateAllConn crex ∈ done.1

/-- The branch is gone through exactly if the reason can be cut. -/
theorem errBranch_completed_iff (removedFirst removedLater hasFarm : Bool)
    (crex : CrankerRouterException) :
    Completed removedLater hasFarm crex (errBranch removedFirst removedLater hasFarm crex) ↔
      Cuttable crex.reason := by
  rw [← reasonInCloFrame_isSome_iff]
  unfold errBranch
  cases hcut : reasonInCloFrame crex.reason with
  | none =>
      constructor
      · intro h
        exact absurd h.returns Bool.false_ne_true
      · intro h
        exact absurd h Bool.false_ne_true
  | some reason =>
      refine iff_of_true ?_ rfl
      obtain ⟨hinit, hlen⟩ := reasonInCloFrame_spec hcut
      refine ⟨rfl, ⟨reason, hinit, hlen, by simp⟩, ?_, by simp⟩
      rintro rfl rfl
      simp

/-- A connector closes with a reason in which byte 100 of the router's text is not where a
character begins. -/
theorem errBranch_cut_off :
    let crex := V3.upstreamServerError 1001 (String.ofList ('a' :: List.replicate 30 'é'))
    errBranch false false true crex =
      ([.tryProvideGeneralError crex, .closeSendTask, .flush], false) := by
  decide +kernel

end CrankerRouter
