import Mathlib

/-!
# Byte strings and big-endian words

A reader takes bytes from the front of a buffer and panics when too few are left.  A panic is an
outcome of its own, kept apart from the errors a program returns.  Text is encoded as UTF-8.
-/

namespace CrankerRouter.Lib

abbrev Bytes := List UInt8

/-- What stops a program: a read past the end of a buffer, or checked arithmetic. -/
inductive Panic
  | shortRead
  | overflow
  deriving DecidableEq, Repr

namespace Bytes

/-- `Buf::get_u8`. -/
def getU8 : Bytes → Except Panic (UInt8 × Bytes)
  | b :: rest => .ok (b, rest)
  | [] => .error .shortRead

/-- `Buf::get_i32`, big-endian. -/
def getI32 : Bytes → Except Panic (BitVec 32 × Bytes)
  | b₀ :: b₁ :: b₂ :: b₃ :: rest =>
      .ok (b₀.toBitVec ++ b₁.toBitVec ++ b₂.toBitVec ++ b₃.toBitVec, rest)
  | _ => .error .shortRead

/-- `BufMut::put_i32`, big-endian. -/
def putI32 (x : BitVec 32) : Bytes :=
  [⟨x.extractLsb' 24 8⟩, ⟨x.extractLsb' 16 8⟩, ⟨x.extractLsb' 8 8⟩, ⟨x.extractLsb' 0 8⟩]

@[simp] theorem length_putI32 (x : BitVec 32) : (putI32 x).length = 4 := rfl

@[simp] theorem getI32_putI32 (x : BitVec 32) (rest : Bytes) :
    getI32 (putI32 x ++ rest) = .ok (x, rest) := by
  have hx : (x.extractLsb' 24 8 ++ x.extractLsb' 16 8 ++ x.extractLsb' 8 8 ++
      x.extractLsb' 0 8 : BitVec 32) = x := by
    apply BitVec.eq_of_getLsbD_eq
    intro i hi
    simp only [BitVec.getLsbD_append, BitVec.getLsbD_extractLsb']
    by_cases h0 : i < 8
    · simp [h0]
    by_cases h1 : i < 16
    · simp [h0, show i - 8 < 8 by omega, show 8 + (i - 8) = i by omega]
    by_cases h2 : i < 24
    · simp [h0, show ¬i - 8 < 8 by omega, show i - 8 - 8 < 8 by omega,
        show 16 + (i - 8 - 8) = i by omega]
    · simp [h0, show ¬i - 8 < 8 by omega, show ¬i - 8 - 8 < 8 by omega,
        show i - 8 - 8 - 8 < 8 by omega, show 24 + (i - 8 - 8 - 8) = i by omega]
  show Except.ok (_, rest) = _
  rw [hx]

/-- A word is read exactly when four bytes are there. -/
theorem getI32_eq_error_iff (b : Bytes) : getI32 b = .error .shortRead ↔ b.length < 4 := by
  match b with
  | [] | [_] | [_, _] | [_, _, _] => simp [getI32]
  | _ :: _ :: _ :: _ :: _ => simp [getI32]

end Bytes

section Utf8

/-- The bytes of a string, `as_bytes`. -/
def utf8 (s : String) : Bytes := s.toUTF8.data.toList

/-- `String::from_utf8`. -/
def fromUtf8 (b : Bytes) : Option String := String.fromUTF8? ⟨b.toArray⟩

@[simp] theorem fromUtf8_utf8 (s : String) : fromUtf8 (utf8 s) = some s := by
  have hbytes : (⟨(utf8 s).toArray⟩ : ByteArray) = s.toByteArray := by
    simp [utf8]
  unfold fromUtf8 String.fromUTF8?
  rw [hbytes, dif_pos s.isValidUTF8]
  rfl

@[simp] theorem utf8_append (s t : String) : utf8 (s ++ t) = utf8 s ++ utf8 t := by
  simp [utf8, String.toByteArray_append]

@[simp] theorem utf8_empty : utf8 "" = [] := rfl

theorem utf8_ofList (cs : List Char) :
    utf8 (String.ofList cs) = cs.flatMap String.utf8EncodeChar := by
  simp [utf8, List.utf8Encode]

theorem utf8_ofList_ascii {cs : List Char} (h : ∀ c ∈ cs, c.toNat < 128) :
    utf8 (String.ofList cs) = cs.map fun c => UInt8.ofNat c.toNat := by
  rw [utf8_ofList]
  induction cs with
  | nil => rfl
  | cons c cs ih =>
      have hc : c.val.toNat ≤ 127 := Nat.le_of_lt_succ (h c (by simp))
      have hone : String.utf8EncodeChar c = [UInt8.ofNat c.toNat] := by
        unfold String.utf8EncodeChar
        rw [if_pos hc]
        rfl
      rw [List.flatMap_cons, hone, ih fun d hd => h d (by simp [hd])]
      rfl

theorem length_utf8_ofList (cs : List Char) : cs.length ≤ (utf8 (String.ofList cs)).length := by
  rw [utf8_ofList]
  induction cs with
  | nil => exact Nat.zero_le _
  | cons c cs ih =>
      have hsize : (String.utf8EncodeChar c).length = c.utf8Size := String.length_utf8EncodeChar c
      have hpos := c.utf8Size_pos
      rw [List.flatMap_cons, List.length_append, List.length_cons]
      omega

theorem utf8_flatten (chunks : List (List Char)) :
    utf8 (String.ofList chunks.flatten) =
      (chunks.map fun chunk => utf8 (String.ofList chunk)).flatten := by
  induction chunks with
  | nil => rfl
  | cons chunk chunks ih => simp [String.ofList_append, ih]

end Utf8

section Chunks

variable {α : Type*}

private theorem length_le_of_mem_push {n : Nat} {acc : Array α} {done : Array (List α)}
    (hacc : acc.size ≤ n) (hdone : ∀ chunk ∈ done, chunk.length ≤ n) :
    ∀ chunk ∈ done.push acc.toList, chunk.length ≤ n := by
  intro chunk hmem
  rcases Array.mem_push.mp hmem with hold | rfl
  · exact hdone chunk hold
  · simpa using hacc

private theorem toChunks_go_spec (n : Nat) (hn : 0 < n) (xs : List α) (acc : Array α)
    (done : Array (List α)) (hacc : acc.size ≤ n) (hdone : ∀ chunk ∈ done, chunk.length ≤ n) :
    (List.toChunks.go n xs acc done).flatten = done.toList.flatten ++ acc.toList ++ xs ∧
      List.toChunks.go n xs acc done ≠ [] ∧
      ∀ chunk ∈ List.toChunks.go n xs acc done, chunk.length ≤ n := by
  induction xs generalizing acc done with
  | nil => simpa [List.toChunks.go] using length_le_of_mem_push hacc hdone
  | cons x xs ih =>
      by_cases hfull : acc.size = n
      · have hone : ((Array.mkEmpty n).push x).size ≤ n := by
          simpa [Nat.one_le_iff_ne_zero, Nat.pos_iff_ne_zero] using hn
        have hgo := ih _ _ hone (length_le_of_mem_push hacc hdone)
        simpa [List.toChunks.go, hfull] using hgo
      · have hgo := ih (acc.push x) done (by simp; omega) hdone
        simpa [List.toChunks.go, hfull] using hgo

theorem toChunks_spec (n : Nat) (hn : 0 < n) (xs : List α) :
    (xs.toChunks n).flatten = xs ∧ (xs ≠ [] → xs.toChunks n ≠ []) ∧
      ∀ chunk ∈ xs.toChunks n, chunk.length ≤ n := by
  cases xs with
  | nil => simp [List.toChunks]
  | cons x xs =>
      cases n with
      | zero => exact absurd hn (Nat.lt_irrefl 0)
      | succ n =>
          have hgo := toChunks_go_spec (n + 1) hn xs #[x] #[] (by simp) (by simp)
          refine ⟨?_, fun _ => hgo.2.1, hgo.2.2⟩
          show (List.toChunks.go (n + 1) xs #[x] #[]).flatten = x :: xs
          simpa using hgo.1

end Chunks

end CrankerRouter.Lib
