import CrankerRouter.Lib.Bytes

/-!
# Exceptions and websocket messages

What the two protocol versions share: the exception of the library and the messages of the
underlying websocket.  The texts that `{:?}` prints for values of other crates are a parameter.
-/

namespace CrankerRouter

open Lib

inductive CrexKind
  | timeout0001
  | noRouterSocketAvailable0002
  | crankerProtocolVersionNotFound0003
  | crankerProtocolVersionNotSupported0004
  | crankerProtocolEndMarkerMissing0005
  | crankerProtocolZeroLengthHeaderLine0006
  | crankerProtocolHttpStatusCodeMissing0007
  | forwardedHeaderParserError0008
  | proxyListenerError0009
  | clientRequestBodyReadError0010
  | brokenConnection0011
  deriving DecidableEq, Repr

structure CrankerRouterException where
  reason : String
  optStatusCode : Option Nat
  optErrKind : Option CrexKind
  deriving DecidableEq, Repr

namespace CrankerRouterException

def new (reason : String) : CrankerRouterException := ⟨reason, none, none⟩

def withStatusCode (e : CrankerRouterException) (statusCode : Nat) : CrankerRouterException :=
  { e with optStatusCode := some statusCode }

def withErrKind (e : CrankerRouterException) (errKind : CrexKind) : CrankerRouterException :=
  { e with optErrKind := some errKind }

def appendStr (e : CrankerRouterException) (furtherReason : String) : CrankerRouterException :=
  { e with reason := e.reason ++ furtherReason }

def prependStr (e : CrankerRouterException) (priorReason : String) : CrankerRouterException :=
  { e with reason := priorReason ++ " " ++ e.reason }

end CrankerRouterException

/-- A close frame: its code and its reason. -/
structure CloseFrame where
  code : Nat
  reason : String
  deriving DecidableEq, Repr

inductive Message
  | text (s : String)
  | binary (b : Bytes)
  | ping (b : Bytes)
  | pong (b : Bytes)
  | close (frame : Option CloseFrame)
  deriving DecidableEq, Repr

/-- How other crates print their errors. -/
structure DebugText where
  sendError : String
  recvError : String
  tryFromIntError : String
  fromUtf8Error : Bytes → String

/-- How the crates in use print their errors. -/
def plainText : DebugText where
  sendError := "SendError(..)"
  recvError := "RecvError"
  tryFromIntError := "TryFromIntError(())"
  fromUtf8Error := fun _ => "FromUtf8Error"

end CrankerRouter
