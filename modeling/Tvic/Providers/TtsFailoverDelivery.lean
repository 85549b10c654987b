import Tvic.Providers.TtsFailover

/-!
# One voice

What a failover stream gives out comes from one provider. `Inv` says where the events are: given
out, about to be flushed, or held back, and that nothing was given out when the primary is
abandoned. Yielding and going round the loop move events along without touching the rest, so a step
that flushes is checked as if it were already suspended at its `yield`.
-/
namespace Tvic

namespace TtsFailoverPhase

variable {ε : Type}

@[simp, grind] def rest : TtsFailoverPhase ε → List ε
  | .suspended rest _ => rest
  | _ => []

@[simp, grind] def reading : TtsFailoverPhase ε → Bool
  | .idle => true
  | .awaitingNext => true
  | .suspended _ _ => true
  | _ => false

@[simp, grind] def fallingBack : TtsFailoverPhase ε → Bool
  | .cleaning => true
  | .guarding _ => true
  | .awaitingFallback _ => true
  | _ => false

end TtsFailoverPhase

namespace TtsFailover

variable {ε : Type}

/-- The primary has failed and nothing of it was or will be given out. -/
structure Dropped (s : TtsFailover ε) : Prop where
  failed : s.primaryFailed = true
  delivered : s.delivered = []
  rest : s.phase.rest = []
  pending : s.pendingPrimaryEvents = []

structure Inv (s : TtsFailover ε) : Prop where
  reads : s.usingFallback = false → s.phase.reading = true →
    s.delivered ++ s.phase.rest ++ s.pendingPrimaryEvents = s.primaryEvents
  ended : s.usingFallback = false → s.phase = .ended →
    s.delivered ++ s.pendingPrimaryEvents = s.primaryEvents ∨ s.Dropped
  falls : s.phase.fallingBack = true → s.Dropped ∧ s.usingFallback = false
  fallen : s.usingFallback = true → s.primaryFailed = true ∧ s.pendingPrimaryEvents = [] ∧
    s.delivered ++ s.phase.rest = s.fallbackEvents
  unfallen : s.usingFallback = false → s.fallbackEvents = [] ∧ s.phase ≠ .direct
  quiet : s.usingFallback = false → s.sawAudio = false → s.primaryEventsCommitted = false →
    s.primary ≠ .completed → s.delivered = [] ∧ s.phase.rest = []
  voiced : s.sawAudio = true → s.pendingPrimaryEvents = []
  opening : s.phase = .openingPrimary → s.delivered = [] ∧ s.usingFallback = false ∧
    s.pendingPrimaryEvents = [] ∧ s.primaryEvents = []
  complete : s.primary = .completed → s.usingFallback = false ∧ s.pendingPrimaryEvents = [] ∧
    s.delivered ++ s.phase.rest = s.primaryEvents ∧
      (s.phase = .ended ∨ ∃ rest, s.phase = .suspended rest true)

variable {s : TtsFailover ε}

theorem Inv.finish (phase : TtsFailoverPhase ε) (inv : Inv { s with phase })
    (rest : phase.rest = []) (known : phase.reading = true ∨ phase.fallingBack = true) :
    s.finish.Inv := by
  unfold TtsFailover.finish cancelActive
  constructor <;> grind -ring -linarith -order [Inv, Dropped]

theorem Inv.loop (inv : Inv { s with phase := .suspended [] false }) : s.loop.Inv := by
  unfold TtsFailover.loop
  split
  · exact inv.finish (.suspended [] false) rfl (.inl rfl)
  · constructor <;> grind -ring -linarith -order [Inv, Dropped]

theorem Inv.flush {events : List ε} {last : Bool}
    (inv : Inv { s with phase := .suspended events last }) : (s.flush last events).Inv := by
  unfold TtsFailover.flush
  split
  · constructor <;> grind -ring -linarith -order [Inv, Dropped]
  · cases last with
    | true =>
      rw [if_pos rfl]
      refine Inv.finish (.suspended [] true) ?_ rfl (.inl rfl)
      constructor <;> grind -ring -linarith -order [Inv, Dropped]
    | false => exact inv.loop

theorem Inv.receive (isAudio : ε → Bool) (eventBytes : ε → Nat) (event : ε) (inv : s.Inv)
    (awaiting : s.phase = .awaitingNext) : (s.receive isAudio eventBytes event).Inv := by
  unfold TtsFailover.receive
  dsimp only
  split_ifs
  · refine Inv.flush ?_
    constructor <;> grind -ring -linarith -order [Inv, Dropped]
  · refine Inv.flush ?_
    constructor <;> grind -ring -linarith -order [Inv, Dropped]
  · refine Inv.flush ?_
    constructor <;> grind -ring -linarith -order [Inv, Dropped]
  · refine Inv.flush ?_
    constructor <;> grind -ring -linarith -order [Inv, Dropped]
  · refine Inv.loop ?_
    -- an event held back goes straight round the loop
    constructor <;> grind -ring -linarith -order [Inv, Dropped]

theorem Inv.receiveDone (inv : s.Inv) (awaiting : s.phase = .awaitingNext) : s.receiveDone.Inv := by
  refine Inv.flush ?_
  constructor <;> grind -ring -linarith -order [Inv, Dropped]

theorem Inv.receiveError (inv : s.Inv) (awaiting : s.phase = .awaitingNext) :
    s.receiveError.Inv := by
  unfold TtsFailover.receiveError cancelActive
  split
  · refine Inv.finish .awaitingNext ?_ rfl (.inl rfl)
    constructor <;> grind -ring -linarith -order [Inv, Dropped]
  · constructor <;> grind -ring -linarith -order [Inv, Dropped]

theorem Inv.throwStartup {direct : Bool} (inv : s.Inv) (falling : s.phase.fallingBack = true)
    (rest : s.phase.rest = []) : (s.throwStartup direct).Inv := by
  unfold TtsFailover.throwStartup
  split
  · constructor <;> grind -ring -linarith -order [Inv, Dropped]
  · exact inv.finish s.phase rest (.inr falling)

theorem Inv.adopt (inv : s.Inv) (adopting : s.phase = .awaitingFallback false) :
    Inv { s with fallback := .active, usingFallback := true, phase := .suspended [] false } := by
  constructor <;> grind -ring -linarith -order [Inv, Dropped]

theorem Inv.step (isAudio : ε → Bool) (eventBytes : ε → Nat) (event : TtsFailoverEvent ε)
    (inv : s.Inv) (passed : s.fallback = .passed → s.phase = .awaitingFallback false) :
    (s.step isAudio eventBytes event).Inv := by
  cases event with
  | callPrimary => unfold TtsFailover.step; constructor <;> grind -ring -linarith -order [Inv, Dropped]
  | primaryOpens => unfold TtsFailover.step; constructor <;> grind -ring -linarith -order [Inv, Dropped]
  | primaryOpenFails => unfold TtsFailover.step; constructor <;> grind -ring -linarith -order [Inv, Dropped]
  | primaryHandedOver => unfold TtsFailover.step; constructor <;> grind -ring -linarith -order [Inv, Dropped]
  | primaryOpeningAborted => unfold TtsFailover.step; constructor <;> grind -ring -linarith -order [Inv, Dropped]
  | requestAborts => unfold TtsFailover.step; constructor <;> grind -ring -linarith -order [Inv, Dropped]
  | guardsPass => unfold TtsFailover.step; constructor <;> grind -ring -linarith -order [Inv, Dropped]
  | callFallback => unfold TtsFailover.step; constructor <;> grind -ring -linarith -order [Inv, Dropped]
  | fallbackOpens => unfold TtsFailover.step; constructor <;> grind -ring -linarith -order [Inv, Dropped]
  | cancel => unfold TtsFailover.step cancelActive; constructor <;> grind -ring -linarith -order [Inv, Dropped]
  | guardsFail =>
    unfold TtsFailover.step
    dsimp only
    split
    next direct guarding => exact inv.throwStartup (by simp [guarding]) (by simp [guarding])
    · exact inv
  | fallbackOpenFails =>
    unfold TtsFailover.step
    dsimp only
    have failed : Inv { s with fallback := .failed } := by constructor <;> grind -ring -linarith -order [Inv, Dropped]
    split_ifs
    · split
      next direct awaiting =>
        exact failed.throwStartup (by simp [awaiting]) (by simp [awaiting])
      · exact failed
    · exact inv
  | startupAborted =>
    unfold TtsFailover.step
    dsimp only
    split
    next direct awaiting =>
      split
      · exact inv.throwStartup (by simp [awaiting]) (by simp [awaiting])
      · exact inv
    · exact inv
  | passOn =>
    unfold TtsFailover.step
    dsimp only
    have cancelled : Inv { s with fallback := .cancelled } := by
      constructor <;> grind -ring -linarith -order [Inv, Dropped]
    split
    · split
      next direct awaiting =>
        split
        · exact cancelled.throwStartup (by simp [awaiting]) (by simp [awaiting])
        · split
          · constructor <;> grind -ring -linarith -order [Inv, Dropped]
          · constructor <;> grind -ring -linarith -order [Inv, Dropped]
      · exact cancelled
    · exact inv
  | adopt iteratorFails =>
    unfold TtsFailover.step
    dsimp only
    split_ifs with arrived
    · have awaiting := passed arrived
      refine Inv.finish s.phase ?_ (by simp [awaiting]) (.inr (by simp [awaiting]))
      constructor <;> grind -ring -linarith -order [Inv, Dropped]
    · exact (inv.adopt (passed arrived)).finish (.suspended [] false) rfl (.inl rfl)
    · exact (inv.adopt (passed arrived)).loop
    · exact inv
  | pull iteratorFails =>
    unfold TtsFailover.step
    dsimp only
    split
    next idle =>
      split
      · exact inv.finish s.phase (by simp [idle]) (.inl (by simp [idle]))
      · refine Inv.loop ?_
        constructor <;> grind -ring -linarith -order [Inv, Dropped]
    next rest last suspended => exact Inv.flush (by rwa [← suspended])
    · exact inv
  | nextValue event =>
    unfold TtsFailover.step
    dsimp only
    split
    next awaiting => exact inv.receive isAudio eventBytes event awaiting
    · constructor <;> grind -ring -linarith -order [Inv, Dropped]
    · exact inv
  | nextDone =>
    unfold TtsFailover.step
    dsimp only
    split
    next awaiting => exact inv.receiveDone awaiting
    · constructor <;> grind -ring -linarith -order [Inv, Dropped]
    · exact inv
  | nextFails =>
    unfold TtsFailover.step
    dsimp only
    split
    next awaiting => exact inv.receiveError awaiting
    · constructor <;> grind -ring -linarith -order [Inv, Dropped]
    · exact inv
  | nextAborted =>
    unfold TtsFailover.step
    dsimp only
    split
    next awaiting =>
      split
      · exact inv.finish s.phase (by simp [awaiting]) (.inl (by simp [awaiting]))
      · exact inv
    · exact inv
  | cleaned =>
    unfold TtsFailover.step
    dsimp only
    split
    next cleaning =>
      split
      · exact inv.finish s.phase (by simp [cleaning]) (.inr (by simp [cleaning]))
      · constructor <;> grind -ring -linarith -order [Inv, Dropped]
    · exact inv

end TtsFailover

end Tvic
