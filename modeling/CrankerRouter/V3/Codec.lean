import CrankerRouter.V3.Frames

/-!
# What the encoders write, the decoder reads back

A header text is cut by characters although its length is tested in bytes, so the chunks are
followed as lists of characters and only then as bytes.
-/

namespace CrankerRouter.V3

open Lib

section Header

private theorem headerChunks_spec (chunks : List (List Char)) (hne : chunks ≠ []) :
    (headerChunks chunks).map Prod.fst = List.replicate (chunks.length - 1) false ++ [true] ∧
      (headerChunks chunks).map Prod.snd = chunks.map String.ofList := by
  induction chunks with
  | nil => exact absurd rfl hne
  | cons chunk chunks ih =>
      cases chunks with
      | nil => simp [headerChunks]
      | cons next chunks =>
          obtain ⟨hflags, hparts⟩ := ih (by simp)
          simp [headerChunks, hflags, hparts, List.replicate_succ]

/-- A short text stays whole; a long one has at least one character, so at least one chunk. -/
theorem headerParts_spec (t : String) :
    (∃ n, (headerParts true t).map Prod.fst = List.replicate n false ++ [true]) ∧
      (∀ part ∈ headerParts true t, part.2.length ≤ headerChunkSize) ∧
      ((headerParts true t).map fun part => utf8 part.2).flatten = utf8 t := by
  unfold headerParts
  by_cases hshort : (utf8 t).length < headerChunkSize
  · have hlen : t.length ≤ headerChunkSize := by
      have hle := length_utf8_ofList t.toList
      rw [String.ofList_toList, String.length_toList] at hle
      omega
    rw [if_pos hshort]
    exact ⟨⟨0, rfl⟩, by simpa using hlen, by simp⟩
  · have hne : t.toList ≠ [] := by
      intro hnil
      obtain rfl : t = "" := String.toList_eq_nil_iff.mp hnil
      exact hshort (by decide)
    obtain ⟨hjoin, hchunks, hbound⟩ := toChunks_spec headerChunkSize (by decide) t.toList
    obtain ⟨hflags, hparts⟩ := headerChunks_spec _ (hchunks hne)
    rw [if_neg hshort]
    refine ⟨⟨_, hflags⟩, ?_, ?_⟩
    · intro part hpart
      have hmem : part.2 ∈ (t.toList.toChunks headerChunkSize).map String.ofList := by
        rw [← hparts]
        exact List.mem_map_of_mem hpart
      obtain ⟨chunk, hchunk, heq⟩ := List.mem_map.mp hmem
      rw [← heq, String.length_ofList]
      exact hbound chunk hchunk
    · calc ((headerChunks (t.toList.toChunks headerChunkSize)).map fun part => utf8 part.2).flatten
          = (((headerChunks (t.toList.toChunks headerChunkSize)).map Prod.snd).map utf8).flatten := by
            rw [List.map_map]
            rfl
        _ = ((t.toList.toChunks headerChunkSize).map fun c => utf8 (String.ofList c)).flatten := by
            rw [hparts, List.map_map]
            rfl
        _ = utf8 (String.ofList (t.toList.toChunks headerChunkSize).flatten) :=
            (utf8_flatten _).symm
        _ = utf8 t := by rw [hjoin, String.ofList_toList]

theorem judgeIsHeaderEndFromFlags_or (isHeaderEnd isStreamEnd : Bool) :
    judgeIsHeaderEndFromFlags
      ((if isStreamEnd then endStreamFlagMask else 0) |||
        (if isHeaderEnd then endHeaderFlagMask else 0)) = isHeaderEnd := by
  revert isHeaderEnd isStreamEnd
  decide

theorem judgeIsStreamEndFromFlags_or (isHeaderEnd isStreamEnd : Bool) :
    judgeIsStreamEndFromFlags
      ((if isStreamEnd then endStreamFlagMask else 0) |||
        (if isHeaderEnd then endHeaderFlagMask else 0)) = isStreamEnd := by
  revert isHeaderEnd isStreamEnd
  decide

end Header

/-- A decoded header frame: its two flags and its text. -/
structure HeaderFrame where
  isHeaderEnd : Bool
  isStreamEnd : Bool
  payload : Bytes
  text : String

/-- What a HEADER frame of request `r` says, for a payload that is text. -/
def headerFrame? (r : ReqId) (b : Bytes) : Option HeaderFrame :=
  match readHead b with
  | .ok (some (type, flags, r', payload)) =>
      if type = messageTypeHeader ∧ r' = r then
        (fromUtf8 payload).map fun text =>
          ⟨judgeIsHeaderEndFromFlags flags, judgeIsStreamEndFromFlags flags, payload, text⟩
      else none
  | _ => none

@[simp] theorem headerFrame?_headerMessage (r : ReqId) (isHeaderEnd isStreamEnd : Bool)
    (line : String) :
    headerFrame? r (headerMessage r isHeaderEnd isStreamEnd line) =
      some ⟨isHeaderEnd, isStreamEnd, utf8 line, line⟩ := by
  unfold headerFrame? headerMessage
  rw [readHead_eq, head?_frame]
  simp [judgeIsHeaderEndFromFlags_or, judgeIsStreamEndFromFlags_or]

private theorem getErrorMessage_utf8 (m : String) : getErrorMessage (utf8 m) = m := by
  unfold getErrorMessage
  split
  · simp
  · rename_i hlen
    have hnil : utf8 m = [] := List.length_eq_zero_iff.mp (by omega)
    have hm : fromUtf8 (utf8 m) = fromUtf8 (utf8 "") := by rw [hnil, utf8_empty]
    rw [fromUtf8_utf8, fromUtf8_utf8, Option.some.injEq] at hm
    exact hm.symm

private theorem getErrorCode_putI32 (code : BitVec 32) (rest : Bytes) :
    getErrorCode (Bytes.putI32 code ++ rest) = .ok (code, rest) := by
  simp [getErrorCode]

/-- What is written into a frame of any type is read from it; the frames of a header carry its text
in order, and only the last one ends it. -/
theorem frame_codec_round_trip (r : ReqId) :
    (∀ n, ∃ flags payload,
      readHead (windowUpdateMessage r n) = .ok (some (messageTypeWindowUpdate, flags, r, payload)) ∧
      Bytes.getI32 payload = .ok (n, [])) ∧
    (∀ c m, ∃ flags payload rest,
      readHead (rstMessage r c m) = .ok (some (messageTypeRstStream, flags, r, payload)) ∧
      getErrorCode payload = .ok (c, rest) ∧ getErrorMessage rest = m) ∧
    (∀ e b, ∃ flags,
      readHead (dataMessages r e b) = .ok (some (messageTypeData, flags, r, b.getD [])) ∧
      judgeIsStreamEndFromFlags flags = e) ∧
    ∀ e t, ∃ frames : List HeaderFrame,
      (headerMessages r true e t).map (headerFrame? r) = frames.map some ∧
      (∀ f ∈ frames, fromUtf8 f.payload = some f.text ∧ f.text.length ≤ 16000 ∧
        f.isStreamEnd = e) ∧
      (frames.map HeaderFrame.payload).flatten = utf8 t ∧
      ∃ n, frames.map HeaderFrame.isHeaderEnd = List.replicate n false ++ [true] := by
  refine ⟨?_, ?_, ?_, ?_⟩
  · intro n
    refine ⟨0, Bytes.putI32 n, ?_, ?_⟩
    · rw [readHead_eq, windowUpdateMessage, head?_frame]
    · simpa using Bytes.getI32_putI32 n []
  · intro c m
    refine ⟨0, Bytes.putI32 c ++ utf8 m, utf8 m, ?_, getErrorCode_putI32 c _,
      getErrorMessage_utf8 m⟩
    rw [readHead_eq, rstMessage, head?_frame]
  · intro e b
    refine ⟨if e then 1 else 0, ?_, ?_⟩
    · rw [readHead_eq, dataMessages, head?_frame]
    · cases e <;> decide
  · intro e t
    obtain ⟨⟨n, hflags⟩, hbound, hjoin⟩ := headerParts_spec t
    refine ⟨(headerParts true t).map fun part => ⟨part.1, e, utf8 part.2, part.2⟩,
      ?_, ?_, ?_, n, ?_⟩
    · simp [headerMessages]
    · intro f hf
      obtain ⟨part, hpart, rfl⟩ := List.mem_map.mp hf
      exact ⟨fromUtf8_utf8 part.2, hbound part hpart, rfl⟩
    · rw [List.map_map]
      exact hjoin
    · rw [List.map_map]
      exact hflags

end CrankerRouter.V3
