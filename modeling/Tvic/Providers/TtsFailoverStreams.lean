import Tvic.Providers.TtsFailoverDelivery

/-!
# The streams of a failover

`Tended` says when a provider's stream is being read, that the fallback's `synthesize` is called
once and what was the case then. A stream is read only while the generator stands at it, so that
ending or cancelling leaves none behind; one that is still on its way is cancelled when it arrives.
-/
namespace Tvic

namespace TtsFailoverPhase

variable {ε : Type}

@[simp, grind] def rereads : TtsFailoverPhase ε → Bool
  | .idle => true
  | .awaitingNext => true
  | .suspended _ last => !last
  | _ => false

/-- The stream is over, or gives out what was left of a stream that is. -/
@[simp, grind] def closing : TtsFailoverPhase ε → Bool
  | .suspended _ last => last
  | .ended => true
  | _ => false

@[simp, grind] def startsFallback : TtsFailoverPhase ε → Bool
  | .awaitingFallback _ => true
  | .ended => true
  | _ => false

theorem rereads_eq_false (phase : TtsFailoverPhase ε)
    (gone : phase.closing = true ∨ phase.fallingBack = true) : phase.rereads = false := by
  cases phase <;> simp_all

end TtsFailoverPhase

namespace TtsFailover

variable {ε : Type}

structure Tended (s : TtsFailover ε) : Prop where
  primary : s.primary = .active →
    s.usingFallback = false ∧ s.cancelled = false ∧ s.phase.rereads = true
  fallback : s.fallback = .active → s.usingFallback = true ∧ s.cancelled = false ∧
    (s.phase.rereads = true ∨ s.phase = .direct)
  passed : s.fallback = .passed → s.phase = .awaitingFallback false ∧ s.usingFallback = false
  completed : s.completed = true → s.phase.closing = true
  early : s.phase = .openingPrimary → s.cancelled = false
  unopened : s.fallback = .unopened ∨ s.usingFallback = true ∨ s.phase.startsFallback = true
  adopted : s.usingFallback = true → s.fallback ≠ .unopened
  due : s.fallback = .unopened ∨ s.fallback = .scheduled → s.fallbackCalls = []
  once : s.fallbackCalls.length ≤ 1
  calls : ∀ call ∈ s.fallbackCalls,
    call.primaryFailed = true ∧ call.delivered = [] ∧ call.cancelled = false
  scheduled : s.fallback = .scheduled → s.primaryFailed = true ∧ s.delivered = [] ∧
    s.phase.startsFallback = true ∧ s.cancelled = false

variable {s : TtsFailover ε}

theorem Tended.finish (phase : TtsFailoverPhase ε) (tended : Tended { s with phase })
    (given : phase ≠ .direct) (arrived : s.fallback ≠ .passed) : s.finish.Tended := by
  unfold TtsFailover.finish cancelActive
  -- a completed stream is not read, so that nothing need be cancelled
  have unread := phase.rereads_eq_false
  split_ifs <;> constructor <;> grind -ring -linarith -order [Tended]

theorem Tended.loop (tended : Tended { s with phase := .suspended [] false }) :
    s.loop.Tended := by
  unfold TtsFailover.loop
  split
  · exact tended.finish (.suspended [] false) (by simp) (by grind -ring -linarith -order [Tended])
  · constructor <;> grind -ring -linarith -order [Tended]

theorem Tended.flush {events : List ε} {last : Bool}
    (tended : Tended { s with phase := .suspended events last }) :
    (s.flush last events).Tended := by
  unfold TtsFailover.flush
  split
  · constructor <;> grind -ring -linarith -order [Tended]
  · cases last with
    | true =>
      rw [if_pos rfl]
      refine Tended.finish (.suspended [] true) ?_ (by simp) (by grind -ring -linarith -order [Tended])
      constructor <;> grind -ring -linarith -order [Tended]
    | false => exact tended.loop

theorem Tended.receive (isAudio : ε → Bool) (eventBytes : ε → Nat) (event : ε)
    (tended : s.Tended) (awaiting : s.phase = .awaitingNext) :
    (s.receive isAudio eventBytes event).Tended := by
  unfold TtsFailover.receive
  dsimp only
  split_ifs
  · refine Tended.flush ?_
    constructor <;> grind -ring -linarith -order [Tended]
  · refine Tended.flush ?_
    constructor <;> grind -ring -linarith -order [Tended]
  · refine Tended.flush ?_
    constructor <;> grind -ring -linarith -order [Tended]
  · refine Tended.flush ?_
    constructor <;> grind -ring -linarith -order [Tended]
  · refine Tended.loop ?_
    constructor <;> grind -ring -linarith -order [Tended]

theorem Tended.receiveDone (tended : s.Tended) (awaiting : s.phase = .awaitingNext) :
    s.receiveDone.Tended := by
  refine Tended.flush ?_
  constructor <;> grind -ring -linarith -order [Tended]

theorem Tended.receiveError (tended : s.Tended) (awaiting : s.phase = .awaitingNext) :
    s.receiveError.Tended := by
  unfold TtsFailover.receiveError
  split_ifs
  · refine Tended.finish .awaitingNext ?_ (by simp) (by grind -ring -linarith -order [Tended])
    constructor <;> grind -ring -linarith -order [Tended]
  · unfold cancelActive
    split_ifs <;> constructor <;> grind -ring -linarith -order [Tended]

theorem Tended.throwStartup {direct : Bool} (tended : s.Tended)
    (falling : s.phase.fallingBack = true) (arrived : s.fallback ≠ .passed) :
    (s.throwStartup direct).Tended := by
  unfold TtsFailover.throwStartup
  have unread := s.phase.rereads_eq_false (.inr falling)
  split
  · constructor <;> grind -ring -linarith -order [Tended]
  · exact tended.finish s.phase (by grind -ring -linarith -order) arrived

theorem Tended.step (isAudio : ε → Bool) (eventBytes : ε → Nat) (event : TtsFailoverEvent ε)
    (tended : s.Tended) (inv : s.Inv) (calm : event = .cancel → s.fallback ≠ .scheduled) :
    (s.step isAudio eventBytes event).Tended := by
  have unread := s.phase.rereads_eq_false
  cases event with
  | callPrimary => unfold TtsFailover.step; constructor <;> grind -ring -linarith -order [Tended]
  | primaryOpens => unfold TtsFailover.step; constructor <;> grind -ring -linarith -order [Tended]
  | primaryOpenFails => unfold TtsFailover.step; constructor <;> grind -ring -linarith -order [Tended]
  | primaryHandedOver =>
    have opening := inv.opening
    unfold TtsFailover.step
    constructor <;> grind -ring -linarith -order [Tended]
  | primaryOpeningAborted => unfold TtsFailover.step; constructor <;> grind -ring -linarith -order [Tended]
  | requestAborts => unfold TtsFailover.step; constructor <;> grind -ring -linarith -order [Tended]
  | guardsPass => unfold TtsFailover.step; constructor <;> grind -ring -linarith -order [Tended, Inv, Dropped]
  | callFallback => unfold TtsFailover.step; constructor <;> grind -ring -linarith -order [Tended]
  | fallbackOpens => unfold TtsFailover.step; constructor <;> grind -ring -linarith -order [Tended]
  | cancel => unfold TtsFailover.step cancelActive; constructor <;> grind -ring -linarith -order [Tended]
  | guardsFail =>
    unfold TtsFailover.step
    dsimp only
    split
    next direct guarding =>
      exact tended.throwStartup (by simp [guarding]) (by grind -ring -linarith -order [Tended])
    · exact tended
  | fallbackOpenFails =>
    unfold TtsFailover.step
    dsimp only
    split
    · have failed : Tended { s with fallback := .failed } := by
        constructor <;> grind -ring -linarith -order [Tended]
      split
      next direct awaiting =>
        exact failed.throwStartup (by simp [awaiting]) (by simp)
      · exact failed
    · exact tended
  | startupAborted =>
    unfold TtsFailover.step
    dsimp only
    split
    next direct awaiting =>
      split
      · exact tended.throwStartup (by simp [awaiting]) (by grind -ring -linarith -order)
      · exact tended
    · exact tended
  | passOn =>
    have falls := inv.falls
    unfold TtsFailover.step
    dsimp only
    split
    · have cancelled : Tended { s with fallback := .cancelled } := by
        constructor <;> grind -ring -linarith -order [Tended]
      split
      next direct awaiting =>
        split
        · exact cancelled.throwStartup (by simp [awaiting]) (by simp)
        · split
          · constructor <;> grind -ring -linarith -order [Tended]
          · constructor <;> grind -ring -linarith -order [Tended]
      · exact cancelled
    · exact tended
  | adopt iteratorFails =>
    unfold TtsFailover.step
    dsimp only
    split
    next passed =>
      have awaiting := (tended.passed passed).1
      split
      · refine Tended.finish s.phase ?_ (by simp [awaiting]) (by simp)
        constructor <;> grind -ring -linarith -order [Tended]
      · have adopted : Tended { s with
            fallback := .active
            usingFallback := true
            phase := .suspended [] false } := by
          constructor <;> grind -ring -linarith -order [Tended]
        split
        · exact adopted.finish (.suspended [] false) (by simp) (by simp)
        · exact adopted.loop
    · exact tended
  | pull iteratorFails =>
    unfold TtsFailover.step
    dsimp only
    split
    next idle =>
      split
      · exact tended.finish s.phase (by simp [idle]) (by grind -ring -linarith -order [Tended])
      · refine Tended.loop ?_
        constructor <;> grind -ring -linarith -order [Tended]
    next rest last suspended => exact Tended.flush (by rwa [← suspended])
    · exact tended
  | nextValue event =>
    unfold TtsFailover.step
    dsimp only
    split
    next awaiting => exact tended.receive isAudio eventBytes event awaiting
    · constructor <;> grind -ring -linarith -order [Tended]
    · exact tended
  | nextDone =>
    unfold TtsFailover.step
    dsimp only
    split
    next awaiting => exact tended.receiveDone awaiting
    · constructor <;> grind -ring -linarith -order [Tended]
    · exact tended
  | nextFails =>
    unfold TtsFailover.step
    dsimp only
    split
    next awaiting => exact tended.receiveError awaiting
    · constructor <;> grind -ring -linarith -order [Tended]
    · exact tended
  | nextAborted =>
    unfold TtsFailover.step
    dsimp only
    split
    next awaiting =>
      split
      · exact tended.finish s.phase (by simp [awaiting]) (by grind -ring -linarith -order [Tended])
      · exact tended
    · exact tended
  | cleaned =>
    unfold TtsFailover.step
    dsimp only
    split
    next cleaning =>
      split
      · exact tended.finish s.phase (by simp [cleaning]) (by grind -ring -linarith -order [Tended])
      · constructor <;> grind -ring -linarith -order [Tended]
    · exact tended

/-- What a failover stream promises at every moment. -/
structure OneVoice (isAudio : ε → Bool) (eventBytes : ε → Nat) (s : TtsFailover ε) : Prop where
  delivered : s.delivered <+: s.primaryEvents ∨ s.delivered <+: s.fallbackEvents
  whole : s.primary = .completed → s.phase = .ended → s.delivered = s.primaryEvents
  once : s.fallbackCalls.length ≤ 1
  calls : ∀ call ∈ s.fallbackCalls,
    call.primaryFailed = true ∧ call.delivered = [] ∧ call.cancelled = false
  closed : s.phase = .ended ∨ s.cancelled = true → s.primary ≠ .active ∧ s.fallback ≠ .active
  /-- A stream opened too late is cancelled as soon as it is handed over. -/
  late : s.phase = .ended ∨ s.cancelled = true →
    (s.primary = .opened →
      (s.step isAudio eventBytes .primaryHandedOver).primary = .cancelled) ∧
    (s.fallback = .opened → (s.step isAudio eventBytes .passOn).fallback = .cancelled) ∧
    ∀ iteratorFails, s.fallback = .passed →
      (s.step isAudio eventBytes (.adopt iteratorFails)).fallback = .cancelled

theorem Inv.delivered (inv : s.Inv) :
    s.delivered <+: s.primaryEvents ∨ s.delivered <+: s.fallbackEvents := by
  cases using_ : s.usingFallback with
  | true =>
    obtain ⟨-, -, all⟩ := inv.fallen using_
    exact .inr ⟨_, all⟩
  | false =>
    left
    cases stage : s.phase with
    | openingPrimary => simp [(inv.opening stage).1]
    | idle | awaitingNext | suspended _ _ =>
      have all := inv.reads using_ (by simp [stage])
      exact ⟨s.phase.rest ++ s.pendingPrimaryEvents, by rw [← List.append_assoc, all]⟩
    | cleaning | guarding _ | awaitingFallback _ =>
      simp [(inv.falls (by simp [stage])).1.delivered]
    | direct => exact absurd stage (inv.unfallen using_).2
    | ended =>
      obtain all | dropped := inv.ended using_ stage
      · exact ⟨_, all⟩
      · simp [dropped.delivered]

theorem OneVoice.of_inv (isAudio : ε → Bool) (eventBytes : ε → Nat) (inv : s.Inv)
    (tended : s.Tended) : s.OneVoice isAudio eventBytes where
  delivered := inv.delivered
  whole completed ended := by
    obtain ⟨-, -, all, -⟩ := inv.complete completed
    simpa [ended] using all
  once := tended.once
  calls := tended.calls
  closed gone := by
    constructor <;> grind -ring -linarith -order [Tended]
  late gone := by
    refine ⟨fun opened => ?_, fun opened => ?_, fun iteratorFails passed => ?_⟩
    · have early := tended.early
      unfold TtsFailover.step
      grind -ring -linarith -order
    · unfold TtsFailover.step TtsFailover.throwStartup TtsFailover.finish cancelActive
      grind -ring -linarith -order
    · have awaiting := (tended.passed passed).1
      unfold TtsFailover.step TtsFailover.finish cancelActive
      grind -ring -linarith -order

theorem inv_new : Inv (new : TtsFailover ε) := by
  constructor <;> grind -ring -linarith -order [new]

theorem tended_new : Tended (new : TtsFailover ε) := by
  constructor <;> grind -ring -linarith -order [new]

/-- In a run that is not cancelled while the call of the fallback is due, one voice is heard. -/
theorem one_voice (isAudio : ε → Bool) (eventBytes : ε → Nat)
    (events : List (TtsFailoverEvent ε))
    (calm : ∀ before rest, events = before ++ .cancel :: rest →
      (after isAudio eventBytes before).fallback ≠ .scheduled) :
    (after isAudio eventBytes events).OneVoice isAudio eventBytes := by
  suffices both : (after isAudio eventBytes events).Inv ∧ (after isAudio eventBytes events).Tended
    from .of_inv isAudio eventBytes both.1 both.2
  induction events using List.reverseRecOn with
  | nil => exact ⟨inv_new, tended_new⟩
  | append_singleton events event ih =>
    obtain ⟨inv, tended⟩ := ih fun before rest earlier =>
      calm before (rest ++ [event]) (by simp [earlier])
    have advanced : after isAudio eventBytes (events ++ [event]) =
        (after isAudio eventBytes events).step isAudio eventBytes event := by
      simp [after, Lib.run]
    rw [advanced]
    refine ⟨inv.step isAudio eventBytes event fun passed => (tended.passed passed).1, ?_⟩
    refine tended.step isAudio eventBytes event inv fun cancels => ?_
    exact calm events [] (by simp [cancels])

/-- A fallback that is called in time, and whose event is given out. -/
theorem one_voice_fallback :
    (after id (fun _ : Bool => 1)
      [.callPrimary, .primaryOpens, .primaryHandedOver, .pull false, .nextValue false, .nextFails,
        .cleaned, .guardsPass, .callFallback, .fallbackOpens, .passOn, .adopt false,
        .nextValue true, .cancel]).OneVoice id (fun _ => 1) := by
  refine one_voice id (fun _ => 1) _ fun before rest split => ?_
  have place : before = [.callPrimary, .primaryOpens, .primaryHandedOver, .pull false,
      .nextValue false, .nextFails, .cleaned, .guardsPass, .callFallback, .fallbackOpens,
      .passOn, .adopt false, .nextValue true] := by
    simp [List.cons_eq_append_iff] at split
    grind -ring -linarith -order
  subst place
  decide

/-- The generator has looked at the signal, and the caller cancels before the fallback is called:
it is called all the same. -/
theorem cancelledBeforeCall_callsFallback :
    ¬ ∀ (isAudio : Bool → Bool) (eventBytes : Bool → Nat) (events : List (TtsFailoverEvent Bool)),
      (after isAudio eventBytes events).OneVoice isAudio eventBytes := by
  intro claimed
  have voice := claimed id (fun _ => 1)
    [.callPrimary, .primaryOpens, .primaryHandedOver, .pull false, .nextFails, .cleaned,
      .guardsPass, .cancel, .callFallback]
  have known : (after id (fun _ : Bool => 1)
      [.callPrimary, .primaryOpens, .primaryHandedOver, .pull false, .nextFails, .cleaned,
        .guardsPass, .cancel, .callFallback]).fallbackCalls = [⟨true, [], true⟩] := rfl
  simpa using (voice.calls ⟨true, [], true⟩ (by simp [known])).2.2

end TtsFailover

end Tvic
