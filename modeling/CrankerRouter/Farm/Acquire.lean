import CrankerRouter.Farm.Step

/-!
# The steps of an acquisition

Every branch of an acquisition past the resolution of its route, as one case of a relation.
-/

namespace CrankerRouter.Farm

open Lib

/-- What one step of an acquisition does, case by case. -/
inductive AcquireMove (dir : SocketId → RouterSocket) (f : WebSocketFarm) (q : Acquisition) :
    AcquirePc → Choice → WebSocketFarm → List Task → Prop
  | sweep (s : SocketId) (hr : f.isRemoved s = true) :
      AcquireMove dir f q .main (.sweep s) f [.acquire q .main, .remove s .recordTime]
  | enter (b : Bool) : AcquireMove dir f q .main (.precise b) f [.acquire q (.scan (.recv [] b))]
  | take (visited : List SocketId) (precise : Bool) (s : SocketId) (rest : List SocketId)
      (hc : f.chan q.chan = s :: rest) :
      AcquireMove dir f q (.scan (.recv visited precise)) .go (f.takeHead q.chan)
        [.acquire q (.scan (.upgrade s visited precise))]
  | recvTimeout (visited : List SocketId) (precise : Bool) :
      AcquireMove dir f q (.scan (.recv visited precise)) .timeout f
        [.acquire q (.fallback (.start true))]
  | recvCancel (visited : List SocketId) (precise : Bool) :
      AcquireMove dir f q (.scan (.recv visited precise)) .cancel f []
  | dead (s : SocketId) (visited : List SocketId) (precise : Bool) (c : Choice)
      (ha : f.alive s = false) :
      AcquireMove dir f q (.scan (.upgrade s visited precise)) c f
        [.acquire q (.scan (.recv visited precise))]
  | again (s : SocketId) (visited : List SocketId) (precise : Bool) (c : Choice)
      (ha : f.alive s = true) (hv : s ∈ visited) :
      AcquireMove dir f q (.scan (.upgrade s visited precise)) c f
        [.acquire q (.scan (.putBack s .fallback))]
  | first (s : SocketId) (visited : List SocketId) (precise : Bool) (c : Choice)
      (ha : f.alive s = true) (hv : s ∉ visited) :
      AcquireMove dir f q (.scan (.upgrade s visited precise)) c f
        [.acquire q (.scan (.checkRemoved s (s :: visited) precise))]
  | removed (s : SocketId) (visited : List SocketId) (precise : Bool) (c : Choice)
      (hr : f.isRemoved s = true) :
      AcquireMove dir f q (.scan (.checkRemoved s visited precise)) c f
        [.acquire q (.scan (.recv (visited.erase s) precise)), .remove s .recordTime]
  | kept (s : SocketId) (visited : List SocketId) (precise : Bool) (c : Choice)
      (hr : f.isRemoved s = false) :
      AcquireMove dir f q (.scan (.checkRemoved s visited precise)) c f
        [.acquire q (.scan (.checkDark s visited precise))]
  | skip (s : SocketId) (visited : List SocketId) (precise shouldUse : Bool)
      (hskip : (dir s).isDarkModeOn f.darkHosts = true ∨
        (precise = true ∧ (dir s).domain = "*") ∨ shouldUse = false) :
      AcquireMove dir f q (.scan (.checkDark s visited precise)) (.verdict shouldUse) f
        [.acquire q (.scan (.putBack s (.recv visited precise)))]
  | pickV3 (s : SocketId) (visited : List SocketId) (precise : Bool)
      (hdark : (dir s).isDarkModeOn f.darkHosts = false)
      (hdomain : precise = true → (dir s).domain ≠ "*") (hv : (dir s).crankerVersion = .v3) :
      AcquireMove dir f q (.scan (.checkDark s visited precise)) (.verdict true) f
        [.acquire q (.scan (.putBack s .handOut))]
  | pickV1 (s : SocketId) (visited : List SocketId) (precise : Bool)
      (hdark : (dir s).isDarkModeOn f.darkHosts = false)
      (hdomain : precise = true → (dir s).domain ≠ "*") (hv : (dir s).crankerVersion = .v1) :
      AcquireMove dir f q (.scan (.checkDark s visited precise)) (.verdict true) (f.handOut s) []
  | putBack (s : SocketId) (visited : List SocketId) (precise : Bool) (c : Choice) :
      AcquireMove dir f q (.scan (.putBack s (.recv visited precise))) c (f.send q.chan s)
        [.acquire q (.scan (.recv visited precise))]
  | putBackLast (s : SocketId) (c : Choice) :
      AcquireMove dir f q (.scan (.putBack s .fallback)) c (f.send q.chan s)
        [.acquire q (.fallback (.start false))]
  | putBackPicked (s : SocketId) (c : Choice) :
      AcquireMove dir f q (.scan (.putBack s .handOut)) c ((f.send q.chan s).handOut s) []
  | startFirst (timedOut : Bool) (c : Choice)
      (hfirst : q.config.shouldFallbackToFirstPathMatched = true) :
      AcquireMove dir f q (.fallback (.start timedOut)) c f
        [.acquire q (.fallback (.drain ⟨.firstPathMatched, q.chan, f.darkHosts, [], timedOut⟩))]
  | startCatchAll (timedOut : Bool) (c : Choice)
      (hfirst : q.config.shouldFallbackToFirstPathMatched = false) :
      AcquireMove dir f q (.fallback (.start timedOut)) c f
        [.acquire q (.fallback (.catchAll f.darkHosts timedOut))]
  | catchAll (darkHosts : List DarkHost) (timedOut : Bool) (c : Choice) (ch : ChanId)
      (hallow : q.config.allowCatchAll = true) (hch : f.routeToSocketChan.lookup "*" = some ch) :
      AcquireMove dir f q (.fallback (.catchAll darkHosts timedOut)) c f
        [.acquire q (.fallback (.drain ⟨.catchAll, ch, darkHosts, [], timedOut⟩))]
  | noneTimedOut (darkHosts : List DarkHost) (c : Choice) :
      AcquireMove dir f q (.fallback (.catchAll darkHosts true)) c f []
  | noneWait (darkHosts : List DarkHost) (c : Choice) :
      AcquireMove dir f q (.fallback (.catchAll darkHosts false)) c f [.acquire q .waitNotified]
  | drainEmpty (d : Drain) (c : Choice) (hc : f.chan d.chan = []) :
      AcquireMove dir f q (.fallback (.drain d)) c f [.acquire q (.fallback (.flush d none))]
  | drainTake (d : Drain) (c : Choice) (s : SocketId) (rest : List SocketId)
      (hc : f.chan d.chan = s :: rest) :
      AcquireMove dir f q (.fallback (.drain d)) c (f.takeHead d.chan)
        [.acquire q (.fallback (.upgrade d s))]
  | drainDead (d : Drain) (s : SocketId) (c : Choice) (ha : f.alive s = false) :
      AcquireMove dir f q (.fallback (.upgrade d s)) c f [.acquire q (.fallback (.drain d))]
  | drainAlive (d : Drain) (s : SocketId) (c : Choice) (ha : f.alive s = true) :
      AcquireMove dir f q (.fallback (.upgrade d s)) c f
        [.acquire q (.fallback (.checkRemoved d s))]
  | drainRemoved (d : Drain) (s : SocketId) (c : Choice) (hr : f.isRemoved s = true) :
      AcquireMove dir f q (.fallback (.checkRemoved d s)) c f
        [.acquire q (.fallback (.drain d)), .remove s .recordTime]
  | drainDark (d : Drain) (s : SocketId) (c : Choice) (hr : f.isRemoved s = false)
      (hdark : (dir s).isDarkModeOn d.darkHosts = true) :
      AcquireMove dir f q (.fallback (.checkRemoved d s)) c f
        [.acquire q (.fallback (.drain { d with skipped := d.skipped ++ [s] }))]
  | drainPick (d : Drain) (s : SocketId) (c : Choice) (hr : f.isRemoved s = false)
      (hdark : (dir s).isDarkModeOn d.darkHosts = false) :
      AcquireMove dir f q (.fallback (.checkRemoved d s)) c f
        [.acquire q (.fallback (.flush d (some s)))]
  | flushOne (d : Drain) (pick : Option SocketId) (c : Choice) (s : SocketId)
      (rest : List SocketId) (hs : d.skipped = s :: rest) :
      AcquireMove dir f q (.fallback (.flush d pick)) c (f.send d.chan s)
        [.acquire q (.fallback (.flush { d with skipped := rest } pick))]
  | flushNext (d : Drain) (c : Choice) (hs : d.skipped = [])
      (hstage : d.stage = .firstPathMatched) :
      AcquireMove dir f q (.fallback (.flush d none)) c f
        [.acquire q (.fallback (.catchAll d.darkHosts d.timedOut))]
  | flushTimedOut (d : Drain) (c : Choice) (hs : d.skipped = []) (hstage : d.stage = .catchAll) :
      AcquireMove dir f q (.fallback (.flush d none)) c f []
  | flushWait (d : Drain) (c : Choice) (hs : d.skipped = []) (hstage : d.stage = .catchAll) :
      AcquireMove dir f q (.fallback (.flush d none)) c f [.acquire q .waitNotified]
  | flushV3 (d : Drain) (s : SocketId) (c : Choice) (hs : d.skipped = [])
      (hv : (dir s).crankerVersion = .v3) :
      AcquireMove dir f q (.fallback (.flush d (some s))) c ((f.send d.chan s).handOut s) []
  | flushV1 (d : Drain) (s : SocketId) (c : Choice) (hs : d.skipped = [])
      (hv : (dir s).crankerVersion = .v1) :
      AcquireMove dir f q (.fallback (.flush d (some s))) c (f.handOut s) []
  | notified : AcquireMove dir f q .waitNotified .notified f [.acquire q .main]
  | waitTimeout :
      AcquireMove dir f q .waitNotified .timeout f [.acquire q (.fallback (.start true))]
  | waitCancel : AcquireMove dir f q .waitNotified .cancel f []

variable {dir : SocketId → RouterSocket} {f f' : WebSocketFarm} {q : Acquisition} {ts : List Task}

/-- The route of an acquisition is resolved: removed sockets are swept on the way, and without a
channel for the route the acquisition ends. -/
theorem execResolve_cases {config : AcquireConfig} {c : Choice}
    (h : execResolve f config c = some (f', ts)) :
    (∃ s, c = .sweep s ∧ f.isRemoved s = true ∧ f' = f ∧
      ts = [.resolve config, .remove s .recordTime]) ∨
    (∃ k, c = .route k ∧ f.routeToSocketChan.lookup k = none ∧ f' = f ∧ ts = []) ∨
    ∃ k ch, c = .route k ∧ f.routeToSocketChan.lookup k = some ch ∧ f' = f ∧
      ts = [.acquire ⟨config, k, ch⟩ .main] := by
  cases c <;> simp only [execResolve, reduceCtorEq] at h
  case sweep s =>
    split_ifs at h with hr
    obtain ⟨rfl, rfl⟩ : f = f' ∧ _ = ts := by simpa using h
    exact .inl ⟨s, rfl, hr, rfl, rfl⟩
  case route k =>
    cases hk : f.routeToSocketChan.lookup k with
    | none =>
        obtain ⟨rfl, rfl⟩ : f = f' ∧ ts = [] := by simpa [hk] using h
        exact .inr (.inl ⟨k, rfl, hk, rfl, rfl⟩)
    | some ch =>
        obtain ⟨rfl, rfl⟩ : f = f' ∧ _ = ts := by simpa [hk] using h
        exact .inr (.inr ⟨k, ch, rfl, hk, rfl, rfl⟩)

theorem execScan_move {pc : ScanPc} {c : Choice} (h : execScan dir f q pc c = some (f', ts)) :
    AcquireMove dir f q (.scan pc) c f' ts := by
  cases pc with
  | recv visited precise =>
      cases c <;> simp only [execScan, reduceCtorEq] at h
      case go =>
        cases hc : f.chan q.chan with
        | nil => simp [hc] at h
        | cons s rest =>
            simp only [hc, Option.some.injEq, Prod.mk.injEq] at h
            obtain ⟨rfl, rfl⟩ := h
            exact .take visited precise s rest hc
      case timeout =>
        obtain ⟨rfl, rfl⟩ : f = f' ∧ _ = ts := by simpa using h
        exact .recvTimeout visited precise
      case cancel =>
        obtain ⟨rfl, rfl⟩ : f = f' ∧ _ = ts := by simpa using h
        exact .recvCancel visited precise
  | upgrade s visited precise =>
      simp only [execScan] at h
      split_ifs at h with ha hv <;> obtain ⟨rfl, rfl⟩ : f = f' ∧ _ = ts := by simpa using h
      · exact .again s visited precise c ha hv
      · exact .first s visited precise c ha hv
      · exact .dead s visited precise c (by simpa using ha)
  | checkRemoved s visited precise =>
      simp only [execScan] at h
      split_ifs at h with hr <;> obtain ⟨rfl, rfl⟩ : f = f' ∧ _ = ts := by simpa using h
      · exact .removed s visited precise c hr
      · exact .kept s visited precise c (by simpa using hr)
  | checkDark s visited precise =>
      cases c <;> simp only [execScan, reduceCtorEq] at h
      case verdict shouldUse =>
        split_ifs at h with hdark hdomain huse
        · obtain ⟨rfl, rfl⟩ : f = f' ∧ _ = ts := by simpa using h
          exact .skip s visited precise shouldUse (.inl hdark)
        · obtain ⟨rfl, rfl⟩ : f = f' ∧ _ = ts := by simpa using h
          exact .skip s visited precise shouldUse (.inr (.inl (by simpa using hdomain)))
        · have hnot : precise = true → (dir s).domain ≠ "*" := by simpa using hdomain
          obtain rfl : shouldUse = true := huse
          cases hv : (dir s).crankerVersion <;>
            simp only [hv, Option.some.injEq, Prod.mk.injEq] at h <;> obtain ⟨rfl, rfl⟩ := h
          · exact .pickV1 s visited precise (by simpa using hdark) hnot hv
          · exact .pickV3 s visited precise (by simpa using hdark) hnot hv
        · obtain ⟨rfl, rfl⟩ : f = f' ∧ _ = ts := by simpa using h
          exact .skip s visited precise shouldUse (.inr (.inr (by simpa using huse)))
  | putBack s next =>
      cases next <;> simp only [execScan, Option.some.injEq, Prod.mk.injEq] at h <;>
        obtain ⟨rfl, rfl⟩ := h
      · exact .putBack s _ _ c
      · exact .putBackLast s c
      · exact .putBackPicked s c

private theorem missed_move (darkHosts : List DarkHost) (timedOut : Bool) (c : Choice) :
    AcquireMove dir f q (.fallback (.catchAll darkHosts timedOut)) c f (missed q timedOut) := by
  cases timedOut with
  | false => exact .noneWait darkHosts c
  | true => exact .noneTimedOut darkHosts c

private theorem drained_move (d : Drain) (c : Choice) (hs : d.skipped = []) :
    AcquireMove dir f q (.fallback (.flush d none)) c f (drained q d) := by
  unfold drained missed
  split
  · exact .flushNext d c hs ‹_›
  · split_ifs
    · exact .flushTimedOut d c hs ‹_›
    · exact .flushWait d c hs ‹_›

private theorem execFallback_move {pc : FallbackPc} {c : Choice}
    (h : execFallback dir f q pc = some (f', ts)) :
    AcquireMove dir f q (.fallback pc) c f' ts := by
  cases pc with
  | start timedOut =>
      simp only [execFallback] at h
      split_ifs at h with hfirst <;> obtain ⟨rfl, rfl⟩ : f = f' ∧ _ = ts := by simpa using h
      · exact .startFirst timedOut c hfirst
      · exact .startCatchAll timedOut c (by simpa using hfirst)
  | catchAll darkHosts timedOut =>
      simp only [execFallback] at h
      split_ifs at h with hallow
      · rw [Bool.and_eq_true] at hallow
        cases hch : f.routeToSocketChan.lookup "*" with
        | none =>
            obtain ⟨rfl, rfl⟩ : f = f' ∧ _ = ts := by simpa [hch] using h
            exact missed_move darkHosts timedOut c
        | some ch =>
            obtain ⟨rfl, rfl⟩ : f = f' ∧ _ = ts := by simpa [hch] using h
            exact .catchAll darkHosts timedOut c ch hallow.1 hch
      · obtain ⟨rfl, rfl⟩ : f = f' ∧ _ = ts := by simpa using h
        exact missed_move darkHosts timedOut c
  | drain d =>
      cases hc : f.chan d.chan with
      | nil =>
          obtain ⟨rfl, rfl⟩ : f = f' ∧ _ = ts := by simpa [execFallback, hc] using h
          exact .drainEmpty d c hc
      | cons s rest =>
          obtain ⟨rfl, rfl⟩ : f.takeHead d.chan = f' ∧ _ = ts := by
            simpa [execFallback, hc] using h
          exact .drainTake d c s rest hc
  | upgrade d s =>
      simp only [execFallback] at h
      split_ifs at h with ha <;> obtain ⟨rfl, rfl⟩ : f = f' ∧ _ = ts := by simpa using h
      · exact .drainAlive d s c ha
      · exact .drainDead d s c (by simpa using ha)
  | checkRemoved d s =>
      simp only [execFallback] at h
      split_ifs at h with hr hdark <;> obtain ⟨rfl, rfl⟩ : f = f' ∧ _ = ts := by simpa using h
      · exact .drainRemoved d s c hr
      · exact .drainDark d s c (by simpa using hr) hdark
      · exact .drainPick d s c (by simpa using hr) (by simpa using hdark)
  | flush d pick =>
      cases hs : d.skipped with
      | cons s rest =>
          obtain ⟨rfl, rfl⟩ : f.send d.chan s = f' ∧ _ = ts := by simpa [execFallback, hs] using h
          exact .flushOne d pick c s rest hs
      | nil =>
          cases pick with
          | none =>
              obtain ⟨rfl, rfl⟩ : f = f' ∧ _ = ts := by simpa [execFallback, hs] using h
              exact drained_move d c hs
          | some s =>
              cases hv : (dir s).crankerVersion <;>
                simp only [execFallback, hs, hv, Option.some.injEq, Prod.mk.injEq] at h <;>
                obtain ⟨rfl, rfl⟩ := h
              · exact .flushV1 d s c hs hv
              · exact .flushV3 d s c hs hv

theorem execAcquire_move {pc : AcquirePc} {c : Choice}
    (h : execAcquire dir f q pc c = some (f', ts)) : AcquireMove dir f q pc c f' ts := by
  cases pc with
  | main =>
      cases c <;> simp only [execAcquire, reduceCtorEq] at h
      case sweep s =>
        split_ifs at h with hr
        obtain ⟨rfl, rfl⟩ : f = f' ∧ _ = ts := by simpa using h
        exact .sweep s hr
      case precise b =>
        obtain ⟨rfl, rfl⟩ : f = f' ∧ _ = ts := by simpa using h
        exact .enter b
  | scan pc => exact execScan_move h
  | fallback pc => exact execFallback_move h
  | waitNotified =>
      cases c <;> simp only [execAcquire, reduceCtorEq] at h
      case notified =>
        obtain ⟨rfl, rfl⟩ : f = f' ∧ _ = ts := by simpa using h
        exact .notified
      case timeout =>
        obtain ⟨rfl, rfl⟩ : f = f' ∧ _ = ts := by simpa using h
        exact .waitTimeout
      case cancel =>
        obtain ⟨rfl, rfl⟩ : f = f' ∧ _ = ts := by simpa using h
        exact .waitCancel

theorem AcquireMove.continues {pc pc' : AcquirePc} {c : Choice} {q' : Acquisition}
    (h : AcquireMove dir f q pc c f' ts) (hmem : Task.acquire q' pc' ∈ ts) : q' = q := by
  cases h <;> simp_all

end CrankerRouter.Farm
