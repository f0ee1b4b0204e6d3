import CrankerRouter.Http.Target
import CrankerRouter.Lib.Traverse

/-!
# `Forwarded` on several lines

A client may send one `Forwarded` header for each element or all elements in one line.  A line that
ends outside quotes and not in a comma can be continued: the comma of the joined line ends its last
element as the end of the line did, and the next element starts with fresh variables.
-/

namespace CrankerRouter.Http

namespace FHParser

/-- The variables at the end of the scan of a line. -/
def scan : Option Char → FHParser → List Char → Except CrankerRouterException FHParser
  | _, p, [] => .ok p
  | last, p, c :: cs =>
      match p.onChar last c with
      | .error e => .error e
      | .ok (.more p) => scan (some c) p cs
      | .ok (.endOfElement _) => scan (some c) .new cs

end FHParser

/-- The scan ends inside a quoted string. -/
def ForwardedHeader.endsQuoted (line : String) : Bool :=
  match FHParser.scan none .new line.toList with
  | .ok p => p.isQuotedString
  | .error _ => false

/-- A line that another one may follow. -/
structure ForwardedHeader.Joinable (line : String) : Prop where
  nonBlank : ¬line.toList.all isWhitespace
  accepted : ∃ hs, fromString line = .ok hs
  noComma : line.toList.getLast? ≠ some ','
  unquoted : endsQuoted line = false

private theorem ForwardedHeader.joinable_iff (line : String) :
    Joinable line ↔ (¬line.toList.all isWhitespace ∧ (fromString line).isOk ∧
      line.toList.getLast? ≠ some ',' ∧ endsQuoted line = false) := by
  have haccepted : (∃ hs, fromString line = .ok hs) ↔ (fromString line).isOk := by
    cases fromString line <;> simp [Except.isOk, Except.toBool]
  constructor
  · intro h
    exact ⟨h.nonBlank, haccepted.mp h.accepted, h.noComma, h.unquoted⟩
  · rintro ⟨hblank, hok, hcomma, hunquoted⟩
    exact ⟨hblank, haccepted.mpr hok, hcomma, hunquoted⟩

instance (line : String) : Decidable (ForwardedHeader.Joinable line) :=
  decidable_of_iff _ (ForwardedHeader.joinable_iff line).symm

namespace FHParser

private theorem loop_new (input : String) (last last' : Option Char) (cs : List Char) :
    loop input last .new cs = loop input last' .new cs := by
  cases cs with
  | nil => rfl
  | cons c cs => rfl

private theorem finish_ok {p : FHParser} {line : String} {fh : ForwardedHeader}
    (h : p.finish line = .ok fh) (input : String) : p.finish input = .ok fh := by
  unfold finish at h ⊢
  cases hstate : p.state with
  | paramValue =>
      rw [hstate] at h
      exact h
  | paramName =>
      rw [hstate] at h
      by_cases hbuffer : p.buffer.isEmpty
      · simpa [hbuffer] using h
      · simp [hbuffer] at h

private theorem onChar_comma {p : FHParser} {line : String} {fh : ForwardedHeader}
    (hplain : p.isQuotedString = false) (hfinish : p.finish line = .ok fh) (last : Option Char) :
    p.onChar last ',' = .ok (.endOfElement p) := by
  unfold onChar
  cases hstate : p.state with
  | paramValue => simp [onValueChar, hplain, onPlainChar, isOws]
  | paramName =>
      have hbuffer : p.buffer.isEmpty := by
        by_contra hbuffer
        simp [finish, hstate, hbuffer] at hfinish
      simp [onNameChar, hbuffer]

/-- A line that is accepted, by induction on its characters: they give the same elements in front of
any other text, the last of which is still open where the scan ends. -/
private theorem loop_append {line : String} {cs : List Char} {hs : List ForwardedHeader}
    {p : FHParser}
    {last : Option Char} (hloop : loop line last p cs = .ok hs) (hcomma : cs.getLast? ≠ some ',') :
    ∃ q fh init last', scan last p cs = .ok q ∧ q.finish line = .ok fh ∧ hs = init ++ [fh] ∧
      ∀ input rest, loop input last p (cs ++ rest) = (loop input last' q rest).map (init ++ ·) := by
  refine loop_induction (P := fun last p cs hs => cs.getLast? ≠ some ',' →
    ∃ q fh init last', scan last p cs = .ok q ∧ q.finish line = .ok fh ∧ hs = init ++ [fh] ∧
      ∀ input rest, loop input last p (cs ++ rest) = (loop input last' q rest).map (init ++ ·))
    ?_ ?_ ?_ ?_ hloop hcomma
  · intro last p fh hfinish hcomma
    refine ⟨p, fh, [], last, rfl, hfinish, rfl, ?_⟩
    intro input rest
    cases hrest : loop input last p rest <;> simp [hrest, Except.map]
  · intro last p c p' cs hs hchar hloop ih hcomma
    obtain ⟨q, fh, init, last', hscan, hfinish, rfl, hrun⟩ :=
      ih fun h => hcomma (by simp [List.getLast?_cons, h])
    refine ⟨q, fh, init, last', by simp only [scan, hchar, hscan], hfinish, rfl, ?_⟩
    intro input rest
    rw [List.cons_append, loop_more input hchar, hrun]
  · intro last p fh hfinish hcomma
    exact absurd rfl hcomma
  · intro last p cs first hs hchar hfirst hne hloop ih hcomma
    obtain ⟨q, fh, init, last', hscan, hfinish, rfl, hrun⟩ :=
      ih fun h => hcomma (by simp [List.getLast?_cons, h])
    refine ⟨q, fh, first :: init, last', by simp only [scan, hchar, hscan], hfinish, rfl, ?_⟩
    intro input rest
    have hne' : cs ++ rest ≠ [] := by simp [hne]
    rw [List.cons_append, loop, hchar]
    simp only [finish_ok hfirst input, List.isEmpty_iff, hne', if_false, hrun]
    cases loop input last' q rest <;> rfl

end FHParser

namespace ForwardedHeader

open FHParser

variable {line : String}

/-- The elements of a line. -/
def elements (line : String) : List ForwardedHeader := (fromString line).toOption.getD []

private theorem Joinable.fromString_eq (h : Joinable line) : fromString line = .ok
    (elements line) := by
  obtain ⟨hs, hparse⟩ := h.accepted
  simp [elements, hparse, Except.toOption]

private theorem Joinable.loop_eq (h : Joinable line) :
    loop line none .new line.toList = .ok (elements line) := by
  have hparse := h.fromString_eq
  rwa [fromString, if_neg h.nonBlank] at hparse

private theorem Joinable.loop_last (h : Joinable line) (input : String) :
    loop input none .new line.toList = .ok (elements line) := by
  obtain ⟨q, fh, init, last, -, hfinish, helements, hrun⟩ := loop_append h.loop_eq h.noComma
  have hline := hrun input []
  rw [List.append_nil] at hline
  rw [hline, helements]
  simp [loop, finish_ok hfinish input, Except.map]

private theorem Joinable.loop_comma (h : Joinable line) (input : String) (rest : List Char) :
    loop input none .new (line.toList ++ ',' :: ' ' :: rest) =
      (loop input none .new rest).map (elements line ++ ·) := by
  obtain ⟨q, fh, init, last, hscan, hfinish, helements, hrun⟩ := loop_append h.loop_eq h.noComma
  have hplain : q.isQuotedString = false := by
    have hunquoted := h.unquoted
    rwa [endsQuoted, hscan] at hunquoted
  have hblank : FHParser.new.onChar (some ',') ' ' = .ok (.more .new) := rfl
  rw [hrun, loop, onChar_comma hplain hfinish last, helements]
  simp only [finish_ok hfinish input, loop_more input hblank, loop_new input (some ' ') none]
  cases loop input none .new rest <;> simp [Except.map]

private theorem loop_joined {lines : List String} (h : Joinable line)
    (hlines : ∀ line ∈ lines, Joinable line) (input : String) :
    loop input none .new (", ".intercalate (line :: lines)).toList =
      .ok ((line :: lines).map elements).flatten := by
  induction lines generalizing line with
  | nil => simpa using h.loop_last input
  | cons next lines ih =>
      have hrest := ih (hlines next (by simp)) fun line hline => hlines line (by simp [hline])
      have hchars : (", ".intercalate (line :: next :: lines)).toList =
          line.toList ++ ',' :: ' ' :: (", ".intercalate (next :: lines)).toList := by
        simp [String.intercalate_cons_cons]
      rw [hchars, h.loop_comma, hrest]
      simp [Except.map]

private theorem fromString_joined {lines : List String} (hlines : ∀ line ∈ lines, Joinable line) :
    fromString (", ".intercalate lines) = .ok (lines.map elements).flatten := by
  cases lines with
  | nil => rfl
  | cons line lines =>
      have hline := hlines line (by simp)
      have hblank : ¬(", ".intercalate (line :: lines)).toList.all isWhitespace := by
        intro hall
        rw [Lib.toList_intercalate, List.all_append, Bool.and_eq_true] at hall
        exact hline.nonBlank hall.1
      rw [fromString, if_neg hblank]
      exact loop_joined hline (fun line hline => hlines line (by simp [hline])) _

private theorem getExistingForwardedHeaders_eq {hdr : HeaderMap}
    (hlines : ∀ line ∈ headerMapGetAllOkToString hdr .forwarded, Joinable line)
    (hnone : headerMapGetAllOkToString hdr .forwarded = [] → (xForwarded hdr).max = 0) :
    getExistingForwardedHeaders hdr =
      .ok ((headerMapGetAllOkToString hdr .forwarded).map elements).flatten := by
  unfold getExistingForwardedHeaders
  by_cases hempty : headerMapGetAllOkToString hdr .forwarded = []
  · simp only [hempty, List.isEmpty_nil, if_true, hnone hempty]
    rfl
  · have hall : ((headerMapGetAllOkToString hdr .forwarded).mapM fun s =>
        (fromString s).mapError Failure.error) =
        .ok ((headerMapGetAllOkToString hdr .forwarded).map elements) := by
      apply Lib.mapM_of_ok
      intro line hline
      rw [(hlines line hline).fromString_eq]
      rfl
    simp only [List.isEmpty_iff, hempty, if_false, hall]
    rfl

/-- The elements of several lines, one line after the other, are those of the one line that they make
when joined.  This is what a client's lines give; without any the router looks at `X-Forwarded-*`,
which the client must then not have sent either. -/
theorem forwarded_lines_joined (lines : List String) (hlines : ∀ line ∈ lines, Joinable line) :
    (lines.mapM fromString).map List.flatten = fromString (", ".intercalate lines) ∧
    ∀ hdr : HeaderMap, headerMapGetAllOkToString hdr .forwarded = lines →
      (lines = [] → (xForwarded hdr).max = 0) →
      getExistingForwardedHeaders hdr =
        (fromString (", ".intercalate lines)).mapError Failure.error := by
  rw [fromString_joined hlines]
  constructor
  · rw [Lib.mapM_of_ok fun line hline => (hlines line hline).fromString_eq]
    rfl
  · rintro hdr rfl hnone
    exact getExistingForwardedHeaders_eq hlines hnone

/-- Elements that end after a value, after a semicolon and behind quotes. -/
def severalLines : List String :=
  ["for=a;proto=http, by=\"x, \\\"y\"", "host=h;", ", secret=\"\""]

def severalLinesHdr : HeaderMap :=
  severalLines.foldl (fun hdr line => appendText hdr .forwarded line) .new

theorem forwarded_lines_joined_severalLines :
    (∀ line ∈ severalLines, Joinable line) ∧
    (severalLines.mapM fromString).map List.flatten =
      fromString "for=a;proto=http, by=\"x, \\\"y\", host=h;, , secret=\"\"" ∧
    getExistingForwardedHeaders severalLinesHdr =
      (fromString "for=a;proto=http, by=\"x, \\\"y\", host=h;, , secret=\"\"").mapError
        Failure.error ∧
    (fromString "for=a;proto=http, by=\"x, \\\"y\", host=h;, , secret=\"\"").map List.length =
      .ok 5 := by
  have hjoinable : ∀ line ∈ severalLines, Joinable line := by decide +kernel
  have hhdr : headerMapGetAllOkToString severalLinesHdr .forwarded = severalLines := by
    decide +kernel
  obtain ⟨hlines, hclient⟩ := forwarded_lines_joined severalLines hjoinable
  exact ⟨hjoinable, hlines, hclient severalLinesHdr hhdr nofun, by decide +kernel⟩

end ForwardedHeader

end CrankerRouter.Http
