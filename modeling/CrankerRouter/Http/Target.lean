import CrankerRouter.Http.Headers
import CrankerRouter.Http.RoundTrip

/-!
# Headers for the target

The client's headers are copied except for those that are not proxied; `Via` and the forwarding
headers are made anew.  An error while the client's forwarding headers are read is only logged,
so the map is then sent as far as it was built.
-/

namespace CrankerRouter.Http

open Lib

/-- Text of visible characters, as addresses, schemes and authorities are printed. -/
structure VisibleText where
  text : String
  visible : text.toList.all isVChar

/-- The parts of `OriginalUri` that are read. -/
structure OriginalUri where
  schemeStr : Option VisibleText
  authority : Option VisibleText
  pathAndQuery : Option String

inductive Version
  | http09
  | http10
  | http11
  | http2
  | http3
  deriving DecidableEq, Repr

/-- What `{:?}` prints. -/
def Version.debug : Version → String
  | .http09 => "HTTP/0.9"
  | .http10 => "HTTP/1.0"
  | .http11 => "HTTP/1.1"
  | .http2 => "HTTP/2.0"
  | .http3 => "HTTP/3.0"

/-- The settings that are read here. -/
structure Config where
  doNotProxyHeaders : List String
  viaName : String
  discardClientForwardedHeaders : Bool
  sendLegacyForwardedHeaders : Bool

def hopByHopHeaders : List String :=
  ["keep-alive", "transfer-encoding", "te", "connection", "trailer", "upgrade",
    "proxy-authorization", "proxy-authenticate"]

def repressedHeaders : List String :=
  hopByHopHeaders ++
    ["expect", "forwarded", "x-forwarded-by", "x-forwarded-for", "x-forwarded-host",
      "x-forwarded-proto", "x-forwarded-port", "x-forwarded-server", "via"]

namespace HeaderName

def connection : HeaderName := ⟨"connection", by decide⟩
def via : HeaderName := ⟨"via", by decide⟩
def forwarded : HeaderName := ⟨"forwarded", by decide⟩
def xForwardedHost : HeaderName := ⟨"x-forwarded-host", by decide⟩
def xForwardedPort : HeaderName := ⟨"x-forwarded-port", by decide⟩
def xForwardedProto : HeaderName := ⟨"x-forwarded-proto", by decide⟩
def xForwardedFor : HeaderName := ⟨"x-forwarded-for", by decide⟩

end HeaderName

/-- An error that is returned, or a panic. -/
inductive Failure
  | error (e : CrankerRouterException)
  | panic (p : Panic)

/-- `str::trim`. -/
def trim (s : String) : String :=
  String.ofList ((s.toList.dropWhile isWhitespace).rdropWhile isWhitespace)

/-- `str::split`. -/
def splitAt (sep : Char) (s : String) : List String := (s.toList.splitOn sep).map String.ofList

def eqIgnoreAsciiCase (s t : String) : Bool :=
  s.toList.map Char.toLower == t.toList.map Char.toLower

def headerMapGetAllOkToString (hdr : HeaderMap) (k : HeaderName) : List String :=
  (hdr.getAll k).filterMap HeaderValue.toStr

def getXForwardedValue (hdr : HeaderMap) (k : HeaderName) : List String :=
  (headerMapGetAllOkToString hdr k).flatMap fun i => (splitAt ',' i).map trim

def getNewViaValue (thisServerVia : String) (prevViaList : List String) : String :=
  let res := ", ".intercalate prevViaList
  let res := if prevViaList.isEmpty then res else res ++ ", "
  res ++ thisServerVia

def getCustomHopByHopHeaders (optConnHdr : Option HeaderValue) : List String :=
  match optConnHdr.bind HeaderValue.toStr with
  | none => []
  | some connHdrStr => if connHdrStr.isEmpty then [] else (splitAt ',' connHdrStr).map trim

section Existing

/-- Walks a host from its end over digits to the colon.  A host of digits only, the empty one
included, runs past its beginning, and the slice that follows panics. -/
def cutAtColon : List Char → Except Failure (List Char)
  | [] => .error (.panic .shortRead)
  | c :: cs =>
      if c.isDigit then cutAtColon cs
      else if c ≠ ':' then .error (.error (forwardedHeaderParserError "Failed to parse port"))
      else .ok cs.reverse

def cutPort (host : String) : Except Failure String :=
  (cutAtColon host.toList.reverse).map String.ofList

def useDefaultPort (port proto : Option String) : Bool :=
  match port, proto with
  | none, _ => true
  | some po, some pr =>
      (eqIgnoreAsciiCase pr "http" && po == "80") || (eqIgnoreAsciiCase pr "https" && po == "443")
  | some _, none => false

/-- The lists that the `X-Forwarded-*` headers give. -/
structure XForwarded where
  hosts : List String
  ports : List String
  protos : List String
  fors : List String
  curHost : Option String

namespace XForwarded

variable (x : XForwarded)

def max : Nat :=
  Nat.max (Nat.max (Nat.max x.hosts.length x.protos.length) x.fors.length) x.ports.length

/-- A list takes part only if it is as long as the longest. -/
def item (xs : List String) (i : Nat) : Option String :=
  if xs.length = x.max then xs[i]? else none

def hostToUse (i : Nat) : Option String :=
  if x.hosts.length = x.max then x.item x.hosts i
  else if x.ports.length = x.max then x.curHost
  else none

/-- The host of element `i`, if its port is to be cut off. -/
def hostToCut (i : Nat) : Option String :=
  if useDefaultPort (x.item x.ports i) (x.item x.protos i) then none else x.hostToUse i

def element (i : Nat) : Except Failure ForwardedHeader :=
  let host := match x.hostToCut i with
    | some host => (cutPort host).map some
    | none => .ok (x.hostToUse i)
  host.map fun host =>
    { byValue := none
      forValue := x.item x.fors i
      host := host
      proto := x.item x.protos i
      extensions := none }

end XForwarded

def xForwarded (hdr : HeaderMap) : XForwarded :=
  let hosts := getXForwardedValue hdr .xForwardedHost
  let ports := getXForwardedValue hdr .xForwardedPort
  let protos := getXForwardedValue hdr .xForwardedProto
  let fors := getXForwardedValue hdr .xForwardedFor
  { hosts, ports, protos, fors, curHost := (hdr.get .host).bind HeaderValue.toStr }

def getExistingForwardedHeaders (hdr : HeaderMap) : Except Failure (List ForwardedHeader) :=
  let all := headerMapGetAllOkToString hdr .forwarded
  if all.isEmpty then (List.range (xForwarded hdr).max).mapM (xForwarded hdr).element
  else
    (all.mapM fun s => (ForwardedHeader.fromString s).mapError Failure.error).map List.flatten

end Existing

section Forwarding

variable (localIp cliRemoteIp : VisibleText) (uri : OriginalUri) (isTls : Bool)

def createForwardedHeaderToTgt (cliHdr : HeaderMap) : ForwardedHeader where
  byValue := some localIp.text
  forValue := some cliRemoteIp.text
  host := ((cliHdr.get .host).bind HeaderValue.toStr).or (uri.authority.map VisibleText.text)
  proto := some (if isTls then "https" else (uri.schemeStr.map VisibleText.text).getD "http")
  extensions := none

/-- `append` of a text, left out if the text is no header value. -/
def appendText (hdr : HeaderMap) (k : HeaderName) (s : String) : HeaderMap :=
  match HeaderValue.parse s with
  | some v => hdr.append k v
  | none => hdr

def insertText (hdr : HeaderMap) (k : HeaderName) (s : Option String) : HeaderMap :=
  match s.bind HeaderValue.parse with
  | some v => hdr.insert k v
  | none => hdr

def setXForwardedHeaders (hdr : HeaderMap) (fh : ForwardedHeader) : HeaderMap :=
  let hdr := insertText hdr .xForwardedProto fh.proto
  let hdr := insertText hdr .xForwardedHost fh.host
  insertText hdr .xForwardedFor fh.forValue

/-- The elements that are taken over from the client. -/
def forwardedHeaders (config : Config) (cliHdr : HeaderMap) :
    Except Failure (List ForwardedHeader) :=
  if config.discardClientForwardedHeaders then .ok [] else getExistingForwardedHeaders cliHdr

/-- `set_forwarded_headers`, past the reading of the client's headers. -/
def addForwardedHeaders (config : Config) (cliHdr hdrToTgt : HeaderMap)
    (forwardedHeaders : List ForwardedHeader) : HeaderMap :=
  let hdrToTgt := forwardedHeaders.foldl
    (fun hdr j => appendText hdr .forwarded j.display) hdrToTgt
  let newForwardedHdr := createForwardedHeaderToTgt localIp cliRemoteIp uri isTls cliHdr
  let hdrToTgt := appendText hdrToTgt .forwarded newForwardedHdr.display
  if config.sendLegacyForwardedHeaders then
    setXForwardedHeaders hdrToTgt (forwardedHeaders.head?.getD newForwardedHdr)
  else hdrToTgt

def setForwardedHeaders (config : Config) (cliHdr hdrToTgt : HeaderMap) :
    Except Failure HeaderMap :=
  (forwardedHeaders config cliHdr).map
    (addForwardedHeaders localIp cliRemoteIp uri isTls config cliHdr hdrToTgt)

/-- One turn of the copy loop, with the flag that the function returns. -/
def copyHeader (config : Config) (customHopByHop : List String) (acc : HeaderMap × Bool)
    (header : HeaderName × HeaderValue) : HeaderMap × Bool :=
  let lowercaseKey := toLowercase header.1.text
  if config.doNotProxyHeaders.contains lowercaseKey || customHopByHop.contains lowercaseKey then acc
  else
    (if lowercaseKey = "host" then acc.1.insert header.1 header.2
      else acc.1.append header.1 header.2,
      acc.2 || (lowercaseKey == "content-length" || lowercaseKey == "transfer-encoding"))

/-- The copy loop. -/
def copyHeaders (config : Config) (cliHdr hdrToTgt : HeaderMap) : HeaderMap × Bool :=
  let customHopByHop := getCustomHopByHopHeaders (cliHdr.get .connection)
  cliHdr.iter.foldl (copyHeader config customHopByHop) (hdrToTgt, false)

def addVia (config : Config) (version : Version) (cliHdr hdrToTgt : HeaderMap) : HeaderMap :=
  appendText hdrToTgt .via (getNewViaValue (version.debug ++ " " ++ config.viaName)
    (headerMapGetAllOkToString cliHdr .via))

/-- An error in the forwarding headers is logged; a panic is not caught. -/
def setTargetRequestHeaders (config : Config) (version : Version)
    (cliHdr hdrToTgt : HeaderMap) : Except Panic (HeaderMap × Bool) :=
  let copied := copyHeaders config cliHdr hdrToTgt
  let hdrToTgt := addVia config version cliHdr copied.1
  match setForwardedHeaders localIp cliRemoteIp uri isTls config cliHdr hdrToTgt with
  | .ok hdr => .ok (hdr, copied.2)
  | .error (.error _) => .ok (hdrToTgt, copied.2)
  | .error (.panic p) => .error p

end Forwarding

end CrankerRouter.Http
