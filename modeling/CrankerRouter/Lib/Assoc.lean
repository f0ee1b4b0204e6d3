import Mathlib

/-!
# Association lists

The number of things stored in a map of collections is the total of a measure over the values
of an association list.  The lemmas say how one insertion, replacement or removal changes it.
A map that keeps its insertion order is a list of pairs.
-/

namespace CrankerRouter.Lib.Assoc

variable {K V : Type*} [DecidableEq K]

/-- Total of a measure over the stored values. -/
def total (f : V → Nat) (m : AList (fun _ : K => V)) : Nat :=
  (m.entries.map fun e => f e.2).sum

private theorem total_kerase (f : V → Nat) (m : AList (fun _ : K => V)) (k : K) (v : V)
    (h : m.lookup k = some v) :
    ((m.entries.kerase k).map fun e => f e.2).sum + f v = total f m := by
  have hk : k ∈ m.entries.keys :=
    AList.lookup_isSome.mp (by simp [h])
  obtain ⟨w, l, r, hl, hm, he⟩ := List.exists_of_kerase hk
  have hv : m.lookup k = some w := by
    rw [AList.lookup, hm, List.dlookup_append]
    simp [List.dlookup_eq_none.mpr hl]
  obtain rfl : v = w := by simpa [h] using hv
  rw [he, total, hm]
  simp only [List.map_append, List.sum_append, List.map_cons, List.sum_cons]
  omega

theorem total_erase (f : V → Nat) (m : AList (fun _ : K => V)) (k : K) (v : V)
    (h : m.lookup k = some v) : total f (m.erase k) + f v = total f m :=
  total_kerase f m k v h

theorem total_erase_none (f : V → Nat) (m : AList (fun _ : K => V)) (k : K)
    (h : m.lookup k = none) : total f (m.erase k) = total f m := by
  change ((m.entries.kerase k).map fun e => f e.2).sum = total f m
  rw [List.kerase_of_notMem_keys (AList.lookup_eq_none.mp h), total]

theorem total_insert_some (f : V → Nat) (m : AList (fun _ : K => V)) (k : K) (v w : V)
    (h : m.lookup k = some v) : total f (m.insert k w) + f v = total f m + f w := by
  have hr := total_kerase f m k v h
  rw [total, AList.entries_insert]
  simp only [List.map_cons, List.sum_cons]
  omega

theorem total_insert_none (f : V → Nat) (m : AList (fun _ : K => V)) (k : K) (w : V)
    (h : m.lookup k = none) : total f (m.insert k w) = total f m + f w := by
  rw [total, AList.entries_insert_of_notMem (AList.lookup_eq_none.mp h)]
  simp only [List.map_cons, List.sum_cons, total]
  omega

theorem lookup_insert_eq (m : AList (fun _ : K => V)) (k k' : K) (v : V) :
    (m.insert k v).lookup k' = if k' = k then some v else m.lookup k' := by
  by_cases h : k' = k
  · subst h
    simp
  · simp [h, AList.lookup_insert_ne h]

theorem lookup_erase_eq (m : AList (fun _ : K => V)) (k k' : K) :
    (m.erase k).lookup k' = if k' = k then none else m.lookup k' := by
  by_cases h : k' = k
  · subst h
    simp
  · simp [h, AList.lookup_erase_ne h]

section Ordered

/-- Changes the entry of a key in its place; a new key goes to the end. -/
def upsert (k : K) (f : Option V → V) : List (K × V) → List (K × V)
  | [] => [(k, f none)]
  | e :: es => if e.1 = k then (k, f (some e.2)) :: es else e :: upsert k f es

theorem lookup_cons_eq (k : K) (e : K × V) (es : List (K × V)) :
    (e :: es).lookup k = if k = e.1 then some e.2 else es.lookup k := by
  by_cases h : k = e.1
  · simp [List.lookup, h]
  · have hbeq : (k == e.1) = false := by simpa using h
    simp [List.lookup, h, hbeq]

theorem lookup_upsert (k k' : K) (f : Option V → V) (es : List (K × V)) :
    (upsert k f es).lookup k' = if k' = k then some (f (es.lookup k)) else es.lookup k' := by
  induction es with
  | nil => rw [upsert, lookup_cons_eq]; rfl
  | cons e es ih =>
      by_cases he : e.1 = k
      · simp only [upsert, he, if_true, lookup_cons_eq]
        split_ifs <;> rfl
      · have hk : k ≠ e.1 := fun h => he h.symm
        simp only [upsert, he, hk, if_false, lookup_cons_eq, ih]
        split_ifs with h h'
        · exact absurd (h.symm.trans h') he
        · rfl
        · rfl
        · rfl

private theorem mem_keys_upsert {k k' : K} {f : Option V → V} {es : List (K × V)}
    (h : k' ∈ (upsert k f es).map Prod.fst) : k' = k ∨ k' ∈ es.map Prod.fst := by
  induction es with
  | nil => exact .inl (by simpa [upsert] using h)
  | cons e es ih =>
      unfold upsert at h
      split_ifs at h with he
      · rw [List.map_cons, List.mem_cons] at h
        exact h.imp_right fun h => by simp [h]
      · rw [List.map_cons, List.mem_cons] at h
        rcases h with h | h
        · exact .inr (by simp [h])
        · exact (ih h).imp_right fun h => by simp [h]

theorem nodup_keys_upsert (k : K) (f : Option V → V) {es : List (K × V)}
    (h : (es.map Prod.fst).Nodup) : ((upsert k f es).map Prod.fst).Nodup := by
  induction es with
  | nil => simp [upsert]
  | cons e es ih =>
      rw [List.map_cons, List.nodup_cons] at h
      unfold upsert
      split_ifs with he
      · rw [List.map_cons, List.nodup_cons]
        exact ⟨he ▸ h.1, h.2⟩
      · rw [List.map_cons, List.nodup_cons]
        refine ⟨fun hmem => ?_, ih h.2⟩
        exact (mem_keys_upsert hmem).elim he h.1

theorem forall_mem_upsert {P : K × V → Prop} {k : K} {f : Option V → V} {es : List (K × V)}
    (hnew : P (k, f none)) (hold : ∀ v, P (k, v) → P (k, f (some v))) (h : ∀ e ∈ es, P e) :
    ∀ e ∈ upsert k f es, P e := by
  induction es with
  | nil => simpa [upsert] using hnew
  | cons e es ih =>
      have hes : ∀ e' ∈ es, P e' := fun e' he' => h e' (List.mem_cons_of_mem _ he')
      have he : P e := h e List.mem_cons_self
      intro e' he'
      unfold upsert at he'
      split_ifs at he' with hk
      · rcases List.mem_cons.mp he' with rfl | he'
        · exact hold e.2 (hk ▸ he)
        · exact hes e' he'
      · rcases List.mem_cons.mp he' with rfl | he'
        · exact he
        · exact ih hes e' he'

/-- A change that adds one thing to what the entry of the key stands for. -/
theorem flatMap_upsert {B : Type*} {g : K × V → List B} {b : B} {k : K} {f : Option V → V}
    (hnew : g (k, f none) = [b]) (hold : ∀ v, (g (k, f (some v))).Perm (b :: g (k, v)))
    (es : List (K × V)) : ((upsert k f es).flatMap g).Perm (b :: es.flatMap g) := by
  induction es with
  | nil => simp [upsert, hnew]
  | cons e es ih =>
      unfold upsert
      split_ifs with hk
      · subst hk
        rw [List.flatMap_cons, List.flatMap_cons]
        exact (hold e.2).append_right _
      · rw [List.flatMap_cons, List.flatMap_cons]
        exact (ih.append_left _).trans List.perm_middle

omit [DecidableEq K] in
theorem lookup_eq_none_of_notMem [BEq K] [LawfulBEq K] {k : K} {es : List (K × V)}
    (h : k ∉ es.map Prod.fst) : es.lookup k = none := by
  rw [List.lookup_eq_none_iff]
  intro e he
  have hne : k ≠ e.1 := fun hk => h (hk ▸ List.mem_map_of_mem he)
  simpa using hne

theorem lookup_of_mem {e : K × V} {es : List (K × V)} (h : (es.map Prod.fst).Nodup) (he : e ∈ es) :
    es.lookup e.1 = some e.2 := by
  induction es with
  | nil => cases he
  | cons e' es ih =>
      rw [List.map_cons, List.nodup_cons] at h
      rw [lookup_cons_eq]
      rcases List.mem_cons.mp he with rfl | he
      · rw [if_pos rfl]
      · have hne : e.1 ≠ e'.1 := fun heq => h.1 (heq ▸ List.mem_map_of_mem he)
        rw [if_neg hne]
        exact ih h.2 he

end Ordered

end CrankerRouter.Lib.Assoc
