import CrankerRouter.Wire

/-!
# Frames of the V3 protocol

A frame is a type byte, a flags byte, a big-endian request id and a payload.
-/

namespace CrankerRouter.V3

open Lib

abbrev ReqId := BitVec 32

instance : LawfulBEq ReqId := inferInstance

def headerLenInBytes : Nat := 6

def endStreamFlagMask : UInt8 := 0b00000001
def endHeaderFlagMask : UInt8 := 0b00000100

def messageTypeData : UInt8 := 0
def messageTypeHeader : UInt8 := 1
def messageTypeRstStream : UInt8 := 3
def messageTypeWindowUpdate : UInt8 := 8

def errorInternal : BitVec 32 := 1

def judgeIsStreamEndFromFlags (flags : UInt8) : Bool :=
  flags &&& endStreamFlagMask == endStreamFlagMask

def judgeIsHeaderEndFromFlags (flags : UInt8) : Bool :=
  flags &&& endHeaderFlagMask == endHeaderFlagMask

/-- The four encoders all write this. -/
def frame (type flags : UInt8) (r : ReqId) (payload : Bytes) : Bytes :=
  type :: flags :: (Bytes.putI32 r ++ payload)

def windowUpdateMessage (r : ReqId) (windowUpdate : BitVec 32) : Bytes :=
  frame messageTypeWindowUpdate 0 r (Bytes.putI32 windowUpdate)

def rstMessage (r : ReqId) (errCode : BitVec 32) (msg : String) : Bytes :=
  frame messageTypeRstStream 0 r (Bytes.putI32 errCode ++ utf8 msg)

def dataMessages (r : ReqId) (isEnd : Bool) (optBin : Option Bytes) : Bytes :=
  frame messageTypeData (if isEnd then 1 else 0) r (optBin.getD [])

def headerMessage (r : ReqId) (isHeaderEnd isStreamEnd : Bool) (headerLine : String) : Bytes :=
  frame messageTypeHeader
    ((if isStreamEnd then endStreamFlagMask else 0) ||| (if isHeaderEnd then endHeaderFlagMask else 0))
    r (utf8 headerLine)

def headerChunkSize : Nat := 16000

/-- The end-of-header flag goes to the last chunk. -/
def headerChunks : List (List Char) → List (Bool × String)
  | [] => []
  | [chunk] => [(true, String.ofList chunk)]
  | chunk :: chunks => (false, String.ofList chunk) :: headerChunks chunks

/-- The parts of a header text, each with its end-of-header flag. -/
def headerParts (isHeaderEnd : Bool) (fullHeaderLine : String) : List (Bool × String) :=
  if (utf8 fullHeaderLine).length < headerChunkSize then [(isHeaderEnd, fullHeaderLine)]
  else headerChunks (fullHeaderLine.toList.toChunks headerChunkSize)

/-- The end-of-stream flag goes to every part. -/
def headerMessages (r : ReqId) (isHeaderEnd isStreamEnd : Bool) (fullHeaderLine : String) :
    List Bytes :=
  (headerParts isHeaderEnd fullHeaderLine).map fun (isLast, part) =>
    headerMessage r isLast isStreamEnd part

/-- `get_error_code`, with what is left of the buffer. -/
def getErrorCode (b : Bytes) : Except Panic (BitVec 32 × Bytes) :=
  if 4 ≤ b.length then Bytes.getI32 b else .ok (-1, b)

def getErrorMessage (b : Bytes) : String :=
  if 0 < b.length then (fromUtf8 b).getD "" else ""

/-- The head of a received message, as `on_binary` reads it: the length is checked before each
read, and `none` is one of the early returns. -/
def readHead (b : Bytes) : Except Panic (Option (UInt8 × UInt8 × ReqId × Bytes)) := do
  if b.length < 1 then return none
  let (type, b) ← Bytes.getU8 b
  if b.length < 1 then return none
  let (flags, b) ← Bytes.getU8 b
  if b.length < 4 then return none
  let (r, b) ← Bytes.getI32 b
  return some (type, flags, r, b)

/-- The same head, for messages that have one. -/
def head? : Bytes → Option (UInt8 × UInt8 × ReqId × Bytes)
  | type :: flags :: b =>
      match Bytes.getI32 b with
      | .ok (r, payload) => some (type, flags, r, payload)
      | .error _ => none
  | _ => none

/-- None of the checked reads panics. -/
theorem readHead_eq (b : Bytes) : readHead b = .ok (head? b) := by
  match b with
  | [] | [_] => rfl
  | type :: flags :: rest =>
      match rest with
      | [] | [_] | [_, _] | [_, _, _] => rfl
      | _ :: _ :: _ :: _ :: _ => simp [readHead, head?, Bytes.getU8, Bytes.getI32]; rfl

@[simp] theorem head?_frame (type flags : UInt8) (r : ReqId) (payload : Bytes) :
    head? (frame type flags r payload) = some (type, flags, r, payload) := by
  simp [head?, frame]

theorem getErrorCode_ok (b : Bytes) : ∃ code rest, getErrorCode b = .ok (code, rest) := by
  unfold getErrorCode
  split
  · rename_i hlen
    match b with
    | [] | [_] | [_, _] | [_, _, _] => simp at hlen
    | _ :: _ :: _ :: _ :: rest => exact ⟨_, rest, rfl⟩
  · exact ⟨-1, b, rfl⟩

/-- The request id a queued message of one frame type is for. -/
def isFor (type : UInt8) (r : ReqId) : Message → Bool
  | .binary b =>
      match head? b with
      | some (t, _, r', _) => t == type && r' == r
      | none => false
  | _ => false

@[simp] theorem isFor_frame (type t flags : UInt8) (r r' : ReqId) (payload : Bytes) :
    isFor type r (.binary (frame t flags r' payload)) = (t == type && r' == r) := by
  simp [isFor]

end CrankerRouter.V3
