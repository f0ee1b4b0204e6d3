import CrankerRouter.Lib.Assoc
import CrankerRouter.Lib.Bytes

/-!
# Header maps

`http::HeaderMap`: every name has one entry with its first value and the values appended to it,
and the entries are walked in the order they were made.
-/

namespace CrankerRouter.Http

open Lib

/-- Header names are lower case from the moment they are parsed. -/
structure HeaderName where
  text : String
  lower : text.toList.map Char.toLower = text.toList
  deriving DecidableEq

private theorem lower_host : "host".toList.map Char.toLower = "host".toList := by decide

def HeaderName.host : HeaderName := ⟨"host", lower_host⟩

/-- The bytes that `HeaderValue` admits. -/
def isValidByte (b : UInt8) : Bool := (32 ≤ b && b != 127) || b == 9

/-- The bytes that `to_str` admits. -/
def isVisibleAscii (b : UInt8) : Bool := (32 ≤ b && b < 127) || b == 9

structure HeaderValue where
  bytes : Bytes
  valid : bytes.all isValidByte
  deriving DecidableEq

namespace HeaderValue

/-- `HeaderValue::to_str`. -/
def toStr (v : HeaderValue) : Option String :=
  if v.bytes.all isVisibleAscii then
    some (String.ofList (v.bytes.map fun b => Char.ofNat b.toNat))
  else none

/-- `str::parse::<HeaderValue>`. -/
def parse (s : String) : Option HeaderValue :=
  if h : (utf8 s).all isValidByte then some ⟨utf8 s, h⟩ else none

end HeaderValue

/-- The value stored in the bucket of a name, and the values appended later. -/
abbrev Bucket := HeaderValue × List HeaderValue

def Bucket.values (b : Bucket) : List HeaderValue := b.1 :: b.2

structure HeaderMap where
  entries : List (HeaderName × Bucket)
  nodup : (entries.map Prod.fst).Nodup

namespace HeaderMap

def new : HeaderMap := ⟨[], List.nodup_nil⟩

def keys (m : HeaderMap) : List HeaderName := m.entries.map Prod.fst

def getAll (m : HeaderMap) (k : HeaderName) : List HeaderValue :=
  match m.entries.lookup k with
  | some bucket => Bucket.values bucket
  | none => []

/-- The first value. -/
def get (m : HeaderMap) (k : HeaderName) : Option HeaderValue := (m.getAll k).head?

def iter (m : HeaderMap) : List (HeaderName × HeaderValue) :=
  m.entries.flatMap fun e => (Bucket.values e.2).map fun v => (e.1, v)

/-- Replaces all values of the name. -/
def insert (m : HeaderMap) (k : HeaderName) (v : HeaderValue) : HeaderMap where
  entries := Assoc.upsert k (fun _ => (v, [])) m.entries
  nodup := Assoc.nodup_keys_upsert k _ m.nodup

def append (m : HeaderMap) (k : HeaderName) (v : HeaderValue) : HeaderMap where
  entries := Assoc.upsert k (fun
    | none => (v, [])
    | some (w, ws) => (w, ws ++ [v])) m.entries
  nodup := Assoc.nodup_keys_upsert k _ m.nodup

@[simp] theorem getAll_new (k : HeaderName) : new.getAll k = [] := rfl

theorem getAll_insert (m : HeaderMap) (k k' : HeaderName) (v : HeaderValue) :
    (m.insert k v).getAll k' = if k' = k then [v] else m.getAll k' := by
  unfold getAll insert
  rw [Assoc.lookup_upsert]
  split_ifs <;> rfl

theorem getAll_append (m : HeaderMap) (k k' : HeaderName) (v : HeaderValue) :
    (m.append k v).getAll k' = if k' = k then m.getAll k ++ [v] else m.getAll k' := by
  unfold getAll append
  rw [Assoc.lookup_upsert]
  split_ifs
  · cases m.entries.lookup k <;> rfl
  · rfl

/-- The values that the iteration yields under a name are the values of that name. -/
theorem iter_values (m : HeaderMap) (k : HeaderName) :
    (m.iter.filter fun e => e.1 = k).map Prod.snd = m.getAll k := by
  obtain ⟨es, hnodup⟩ := m
  unfold iter getAll
  induction es with
  | nil => rfl
  | cons e es ih =>
      rw [List.map_cons, List.nodup_cons] at hnodup
      have hrest := ih hnodup.2
      simp only [List.flatMap_cons, List.filter_append, List.map_append]
      rw [hrest, Assoc.lookup_cons_eq]
      by_cases h : k = e.1
      · subst h
        have hnone : es.lookup e.1 = none := Assoc.lookup_eq_none_of_notMem hnodup.1
        simp [hnone, List.filter_map, Function.comp_def]
      · have hne : ¬e.1 = k := fun he => h he.symm
        simp [h, hne, List.filter_map, Function.comp_def]

end HeaderMap

end CrankerRouter.Http
