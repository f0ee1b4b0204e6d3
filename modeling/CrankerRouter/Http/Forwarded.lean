import CrankerRouter.Wire

/-!
# The `Forwarded` header

The parser is a machine over the characters of the header with one look-back: inside a quoted
string it asks whether the character before was a backslash.
-/

namespace CrankerRouter.Http

/-- A map in insertion order, as `hashlink` keeps it. -/
@[ext] structure LinkedHashMap where
  entries : List (String × String)
  nodup : (entries.map Prod.fst).Nodup
  deriving DecidableEq

namespace LinkedHashMap

def empty : LinkedHashMap := ⟨[], List.nodup_nil⟩

/-- The new entry goes to the back, also when the key was there. -/
def insert (m : LinkedHashMap) (k v : String) : LinkedHashMap where
  entries := m.entries.filter (fun e => e.1 ≠ k) ++ [(k, v)]
  nodup := by
    have hrest : ((m.entries.filter fun e => e.1 ≠ k).map Prod.fst).Nodup :=
      m.nodup.sublist (List.filter_sublist.map _)
    rw [List.map_append, List.nodup_append]
    refine ⟨hrest, by simp, ?_⟩
    intro key hkey key' hkey'
    obtain ⟨e, he, rfl⟩ := List.mem_map.mp hkey
    obtain rfl : key' = k := by simpa using hkey'
    simpa using (List.mem_filter.mp he).2

def isEmpty (m : LinkedHashMap) : Bool := m.entries.isEmpty

end LinkedHashMap

structure ForwardedHeader where
  byValue : Option String
  forValue : Option String
  host : Option String
  proto : Option String
  extensions : Option LinkedHashMap
  deriving DecidableEq

inductive FHParseState
  | paramName
  | paramValue
  deriving DecidableEq, Repr

/-- What `{:?}` prints. -/
def FHParseState.debug : FHParseState → String
  | .paramName => "ParamName"
  | .paramValue => "ParamValue"

def isTChar (c : Char) : Bool :=
  ('a' ≤ c && c ≤ 'z') || ('A' ≤ c && c ≤ 'Z') || ('0' ≤ c && c ≤ '9') ||
    "!#$%&'*+-.^_`|~".toList.contains c

def isOws (c : Char) : Bool := c == ' ' || c == '\t'

def isVChar (c : Char) : Bool := 0x21 ≤ c.toNat && c.toNat ≤ 0x7E

/-- `char::is_whitespace`, the characters that `trim` takes away. -/
def isWhitespace (c : Char) : Bool :=
  (0x09 ≤ c.toNat && c.toNat ≤ 0x0D) || (0x2000 ≤ c.toNat && c.toNat ≤ 0x200A) ||
    [0x20, 0x85, 0xA0, 0x1680, 0x2028, 0x2029, 0x202F, 0x205F, 0x3000].contains c.toNat

/-- `to_lowercase`, for the names the parser collects: they are ASCII. -/
def toLowercase (s : String) : String := String.ofList (s.toList.map Char.toLower)

def forwardedHeaderParserError (reason : String) : CrankerRouterException :=
  (CrankerRouterException.new reason).withErrKind .forwardedHeaderParserError0008

/-- The local variables of one turn of the outer loop. -/
structure FHParser where
  extensions : LinkedHashMap
  state : FHParseState
  paramName : Option String
  byValue : Option String
  forValue : Option String
  host : Option String
  proto : Option String
  isQuotedString : Bool
  buffer : List Char

/-- How a character leaves the inner loop: it goes on, or a comma ends the element. -/
inductive Parsed
  | more (p : FHParser)
  | endOfElement (p : FHParser)

namespace FHParser

/-- The buffer is empty whenever an element starts. -/
def new : FHParser where
  extensions := .empty
  state := .paramName
  paramName := none
  byValue := none
  forValue := none
  host := none
  proto := none
  isQuotedString := false
  buffer := []

def push (p : FHParser) (c : Char) : FHParser := { p with buffer := p.buffer ++ [c] }

def assign (p : FHParser) (pn val : String) : FHParser :=
  if pn = "by" then { p with byValue := some val }
  else if pn = "for" then { p with forValue := some val }
  else if pn = "host" then { p with host := some val }
  else if pn = "proto" then { p with proto := some val }
  else { p with extensions := p.extensions.insert pn val }

/-- Stores the value read under the name read. -/
def store (p : FHParser) : Except CrankerRouterException FHParser :=
  match p.paramName with
  | none => .error (forwardedHeaderParserError
      "Illegal state: should already parsing forwarded header value but param name still None")
  | some pn => .ok (p.assign (toLowercase pn) (String.ofList p.buffer))

def header (p : FHParser) : ForwardedHeader where
  byValue := p.byValue
  forValue := p.forValue
  host := p.host
  proto := p.proto
  extensions := if p.extensions.isEmpty then none else some p.extensions

def onNameChar (p : FHParser) (c : Char) : Except CrankerRouterException Parsed :=
  if c == ',' && p.buffer.isEmpty then .ok (.endOfElement p)
  else if c == '=' then
    .ok (.more { p with
      paramName := some (String.ofList p.buffer), buffer := [], state := .paramValue })
  else if isTChar c then .ok (.more (p.push c))
  else if isOws c then
    if p.buffer.isEmpty then .ok (.more p)
    else .error (forwardedHeaderParserError ("Got whitespace in parameter name while in " ++
      p.state.debug ++ " - header was " ++ String.ofList p.buffer))
  else .error (forwardedHeaderParserError
    ("Got ascii " ++ toString c.toNat ++ " while in " ++ p.state.debug))

/-- `last` is the character before `c`; a quoted string has one. -/
def onQuotedChar (last : Option Char) (p : FHParser) (c : Char) : FHParser :=
  if c == '\\' then p
  else if last == some '\\' then p.push c
  else if c == '"' then { p with isQuotedString := false }
  else p.push c

def onPlainChar (p : FHParser) (c : Char) : Except CrankerRouterException Parsed :=
  if c == ';' then
    p.store.map fun p => .more { p with buffer := [], paramName := none, state := .paramName }
  else if c == ',' then .ok (.endOfElement p)
  else if isVChar c then .ok (.more (p.push c))
  else if isOws c then .ok (.more p)
  else .error (forwardedHeaderParserError ("Got character code " ++ toString c.toNat ++ " (" ++
    String.ofList [c] ++ ") while parsing param value"))

def onValueChar (last : Option Char) (p : FHParser) (c : Char) :
    Except CrankerRouterException Parsed :=
  let isFirst := !p.isQuotedString && p.buffer.isEmpty
  if isFirst && isOws c then .ok (.more p)
  else if isFirst && c == '"' then .ok (.more { p with isQuotedString := true })
  else if p.isQuotedString then .ok (.more (p.onQuotedChar last c))
  else p.onPlainChar c

def onChar (last : Option Char) (p : FHParser) (c : Char) :
    Except CrankerRouterException Parsed :=
  match p.state with
  | .paramName => p.onNameChar c
  | .paramValue => p.onValueChar last c

/-- What follows the inner loop. -/
def finish (input : String) (p : FHParser) : Except CrankerRouterException ForwardedHeader :=
  match p.state with
  | .paramValue => p.store.map header
  | .paramName =>
      if p.buffer.isEmpty then .ok p.header
      else .error (forwardedHeaderParserError
        ("Unexpected ending point at state " ++ p.state.debug ++ " for " ++ input))

/-- The two loops; a comma at the very end starts no further element. -/
def loop (input : String) :
    Option Char → FHParser → List Char → Except CrankerRouterException (List ForwardedHeader)
  | _, p, [] => (p.finish input).map fun fh => [fh]
  | last, p, c :: cs =>
      match p.onChar last c with
      | .error e => .error e
      | .ok (.more p) => loop input (some c) p cs
      | .ok (.endOfElement p) =>
          match p.finish input with
          | .error e => .error e
          | .ok fh =>
              if cs.isEmpty then .ok [fh]
              else (loop input (some c) .new cs).map fun rest => fh :: rest

end FHParser

namespace ForwardedHeader

def fromString (input : String) : Except CrankerRouterException (List ForwardedHeader) :=
  if input.toList.all isWhitespace then .ok [] else FHParser.loop input none .new input.toList

/-- `replace('"', "\\\"")`. -/
def escapeQuotes (cs : List Char) : List Char :=
  cs.flatMap fun c => if c == '"' then ['\\', '"'] else [c]

def quoteIfNeeded (s : String) : String :=
  if s.toList.all isTChar then s else "\"" ++ String.ofList (escapeQuotes s.toList) ++ "\""

def appendStringForForwardedHeader (sb k : String) : Option String → String
  | none => sb
  | some v => (if sb.isEmpty then sb else sb ++ ";") ++ k ++ "=" ++ quoteIfNeeded v

/-- `Display::fmt`. -/
def display (fh : ForwardedHeader) : String :=
  let sb := appendStringForForwardedHeader "" "by" fh.byValue
  let sb := appendStringForForwardedHeader sb "for" fh.forValue
  let sb := appendStringForForwardedHeader sb "host" fh.host
  let sb := appendStringForForwardedHeader sb "proto" fh.proto
  match fh.extensions with
  | none => sb
  | some m => m.entries.foldl (fun sb (k, v) => appendStringForForwardedHeader sb k (some v)) sb

/-- At least one field is present. -/
def hasField (fh : ForwardedHeader) : Bool :=
  fh.byValue.isSome || fh.forValue.isSome || fh.host.isSome || fh.proto.isSome ||
    fh.extensions.isSome

end ForwardedHeader

end CrankerRouter.Http
