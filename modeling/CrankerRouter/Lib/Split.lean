import Mathlib

/-!
# Splitting at a separator, and joining

What `List.splitOn` gives for a list that was put together from pieces, and the characters of a
joined text.
-/

namespace CrankerRouter.Lib

variable {α : Type}

theorem mem_of_mem_splitOn [BEq α] {sep c : α} {xs piece : List α} (hpiece : piece ∈ xs.splitOn sep)
    (hc : c ∈ piece) : c ∈ xs := by
  induction xs generalizing piece with
  | nil =>
      rw [List.splitOn_nil, List.mem_singleton] at hpiece
      rwa [hpiece] at hc
  | cons x xs ih =>
      rw [List.splitOn, List.splitOnP_cons_eq_if_modifyHead] at hpiece
      split_ifs at hpiece
      · rcases List.mem_cons.mp hpiece with rfl | hrest
        · cases hc
        · exact List.mem_cons_of_mem x (ih hrest hc)
      · cases hpieces : List.splitOnP (fun y => y == sep) xs with
        | nil => simp [hpieces] at hpiece
        | cons p ps =>
            have htail : ∀ q ∈ p :: ps, c ∈ q → c ∈ xs := fun q hq => ih (by rwa [List.splitOn, hpieces])
            rw [hpieces, List.modifyHead_cons, List.mem_cons] at hpiece
            rcases hpiece with rfl | hrest
            · rcases List.mem_cons.mp hc with rfl | hc
              · exact List.mem_cons_self
              · exact List.mem_cons_of_mem x (htail p List.mem_cons_self hc)
            · exact List.mem_cons_of_mem x (htail piece (List.mem_cons_of_mem p hrest) hc)

variable [BEq α] [LawfulBEq α] {sep : α}

/-- A piece without the separator in front of one is the first of the split. -/
theorem splitOn_append_cons {piece : List α} (h : sep ∉ piece) (rest : List α) :
    (piece ++ sep :: rest).splitOn sep = piece :: rest.splitOn sep := by
  rw [List.splitOn_eq_splitOnP, List.splitOn_eq_splitOnP]
  refine List.splitOnP_append_cons_of_forall_mem ?_ sep (by simp) rest
  intro c hc
  simp only [beq_eq_false_iff_ne]
  rintro rfl
  exact h hc

/-- Pieces that each end in the separator: the split has an empty piece after the last. -/
theorem splitOn_terminated {pieces : List (List α)} (h : ∀ piece ∈ pieces, sep ∉ piece) :
    (pieces.flatMap fun piece => piece ++ [sep]).splitOn sep = pieces ++ [[]] := by
  induction pieces with
  | nil => rfl
  | cons piece pieces ih =>
      have hrest := ih fun p hp => h p (List.mem_cons_of_mem piece hp)
      rw [List.flatMap_cons, List.append_assoc, List.singleton_append,
        splitOn_append_cons (h piece List.mem_cons_self), hrest]
      rfl

theorem toList_intercalate (sep t : String) (ts : List String) :
    (sep.intercalate (t :: ts)).toList = t.toList ++ ts.flatMap fun u => sep.toList ++ u.toList := by
  induction ts generalizing t with
  | nil => simp
  | cons u ts ih => simp [String.intercalate_cons_cons, ih]

end CrankerRouter.Lib
