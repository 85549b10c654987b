import Tvic.Runtime.PipelineSttInput

/-!
# No words lost at a graceful end

Every final the STT stream yields stands in the transcript of one turn, if none with words is on its
way to the buffer when the drain shuts the input, and none comes later. What is on its way then, or
comes later, is dropped by `onTranscript`: the drain waits for the provider to close its stream, and
not for `consumeTranscripts` to have read what the close has flushed.

By induction on a run: the finals yielded so far are those of the turns, then those in the buffer,
then those in transit.
-/
namespace Tvic

open Lib (Text utf16 isWhitespace SpellsOut)

/-- The turns have in their transcripts, in order and once each, the words of the finals; a final
without words need not be in any. -/
inductive Conveyed : List Text → List Text → Prop where
  | nil : Conveyed [] []
  | silence {finals rest turns : List Text} : (∀ text ∈ finals, Lib.trim isWhitespace text = []) →
      Conveyed rest turns → Conveyed (finals ++ rest) turns
  | turn {finals rest : List Text} {transcript : Text} {turns : List Text} :
      SpellsOut isWhitespace finals transcript → Conveyed rest turns →
      Conveyed (finals ++ rest) (transcript :: turns)

namespace Conveyed

theorem append {finals later turns laterTurns : List Text} (conveyed : Conveyed finals turns)
    (next : Conveyed later laterTurns) : Conveyed (finals ++ later) (turns ++ laterTurns) := by
  induction conveyed with
  | nil => exact next
  | silence wordless _ ih => rw [List.append_assoc]; exact .silence wordless ih
  | turn spelled _ ih => rw [List.append_assoc]; exact .turn spelled ih

theorem of_silence {finals : List Text}
    (wordless : ∀ text ∈ finals, Lib.trim isWhitespace text = []) : Conveyed finals [] := by
  simpa using Conveyed.silence wordless .nil

theorem of_turn {finals : List Text} {transcript : Text}
    (spelled : SpellsOut isWhitespace finals transcript) : Conveyed finals [transcript] := by
  simpa using Conveyed.turn spelled .nil

theorem silent {finals : List Text} (conveyed : Conveyed finals []) :
    ∀ text ∈ finals, Lib.trim isWhitespace text = [] := by
  generalize noTurns : ([] : List Text) = turns at conveyed
  induction conveyed with
  | nil => simp
  | silence wordless _ ih =>
    intro text member
    exact (List.mem_append.mp member).elim (wordless text) (ih noTurns text)
  | turn => cases noTurns

end Conveyed

/-! ## The buffer -/

def joinFinals (finals : List Text) : Text := finals.foldl acceptFinal []

@[simp] theorem joinFinals_snoc (finals : List Text) (text : Text) :
    joinFinals (finals ++ [text]) = acceptFinal (joinFinals finals) text := by
  simp [joinFinals]

theorem space_blank : ∀ unit ∈ utf16 " ", isWhitespace unit = true := List.all_eq_true.mp (by decide)

theorem joinFinals_spellsOut (finals : List Text) :
    SpellsOut isWhitespace finals (joinFinals finals) := by
  induction finals using List.reverseRecOn with
  | nil => exact fun unit member => absurd member List.not_mem_nil
  | append_singleton finals text ih =>
    rw [joinFinals_snoc, acceptFinal, List.append_assoc]
    exact (ih.snoc (utf16 " ") text space_blank).trim

theorem conveyed_joinFinals (finals : List Text) :
    Conveyed finals (if joinFinals finals = [] then [] else [joinFinals finals]) := by
  have spelled := joinFinals_spellsOut finals
  split
  · next empty =>
    rw [empty] at spelled
    exact .of_silence spelled.trim_eq_nil
  · exact .of_turn spelled

theorem acceptFinal_wordless {text : Text} (wordless : Lib.trim isWhitespace text = []) :
    acceptFinal [] text = [] := by
  apply Lib.trim_eq_nil_iff.mpr
  intro unit member
  have among : unit ∈ utf16 " " ∨ unit ∈ text := by simpa using member
  exact among.elim (space_blank unit) (Lib.trim_eq_nil_iff.mp wordless unit)

namespace PipelineSttInput

/-! ## The invariant -/

def Accounted (s : PipelineSttInput) : Prop :=
  ∃ told buffered, s.yielded = told ++ (buffered ++ s.inTransit) ∧
    Conveyed told (s.handled ++ s.turnChain) ∧ s.finalTranscriptBuffer = joinFinals buffered

structure Inv (s : PipelineSttInput) : Prop where
  accounted : s.Accounted
  /-- Nothing with words is left behind once the input is shut. -/
  shut : s.inputEnded = true →
    s.finalTranscriptBuffer = [] ∧ ∀ text ∈ s.inTransit, Lib.trim isWhitespace text = []
  consumed : s.sttEnded = true →
    s.sttStreamEnded = true ∧ s.sttEvents = [] ∧ s.considered = none ∧ s.finalTranscriptBuffer = []
  ended : s.phase = .ended → s.sttEnded = true ∧ s.turnChain = []

/-- No final with words is in transit when the input is shut, and none is yielded after that. -/
def Heard (s : PipelineSttInput) : SttInputEvent → Prop
  | .inputShuts => s.phase = .draining →
      ∀ text ∈ s.inTransit, Lib.trim isWhitespace text = []
  | .yields event => s.inputEnded = true →
      ∀ text ∈ event.finalText, Lib.trim isWhitespace text = []
  | _ => True

variable {s : PipelineSttInput}

theorem inv_new : Inv {} :=
  ⟨⟨[], [], rfl, .nil, rfl⟩, nofun, nofun, nofun⟩

/-! ## Flushing -/

theorem flushToQueue_empty (empty : s.finalTranscriptBuffer = []) : s.flushToQueue = s := by
  cases s
  cases empty
  rfl

theorem flushToQueue_open (isOpen : s.inputEnded = false) :
    s.flushToQueue = { s with
      finalTranscriptBuffer := []
      turnChain := s.turnChain ++
        if s.finalTranscriptBuffer = [] then [] else [s.finalTranscriptBuffer] } := by
  rw [flushToQueue]
  split
  · simp
  · simp [onTranscript, isOpen]

theorem flushToQueue_buffer : s.flushToQueue.finalTranscriptBuffer = [] := by
  unfold flushToQueue onTranscript
  dsimp only
  split
  · rfl
  · split <;> rfl

theorem Accounted.flush {told buffered : List Text}
    (whole : s.yielded = told ++ (buffered ++ s.inTransit))
    (conveyed : Conveyed told (s.handled ++ s.turnChain))
    (joined : s.finalTranscriptBuffer = joinFinals buffered) (chain : List Text)
    (flushed : chain = s.turnChain ++
      if s.finalTranscriptBuffer = [] then [] else [s.finalTranscriptBuffer]) :
    ∃ told', s.yielded = told' ++ ([] ++ s.inTransit) ∧ Conveyed told' (s.handled ++ chain) := by
  refine ⟨told ++ buffered, by rw [whole, List.append_assoc, List.nil_append], ?_⟩
  rw [flushed, ← List.append_assoc, joined]
  exact conveyed.append (conveyed_joinFinals buffered)

theorem Inv.flushToQueue (inv : Inv s) : Inv s.flushToQueue := by
  cases isShut : s.inputEnded with
  | true => rw [flushToQueue_empty (inv.shut isShut).1]; exact inv
  | false =>
    by_cases gone : s.sttEnded = true
    · rw [flushToQueue_empty (inv.consumed gone).2.2.2]; exact inv
    · obtain ⟨told, buffered, whole, conveyed, joined⟩ := inv.accounted
      obtain ⟨told', whole', conveyed'⟩ := Accounted.flush whole conveyed joined _ rfl
      rw [flushToQueue_open isShut]
      refine ⟨⟨told', [], whole', conveyed', rfl⟩, fun shut => ?_, fun ended => absurd ended gone,
        fun ended => absurd (inv.ended ended).1 gone⟩
      exact absurd (isShut.symm.trans shut) Bool.false_ne_true

/-! ## Steps -/

theorem finalTexts_cons (event : TranscriptEvent) (rest : List TranscriptEvent) :
    finalTexts (event :: rest) = event.finalText.toList ++ finalTexts rest := by
  cases event <;> rfl

theorem Inv.yields (inv : Inv s) {event : TranscriptEvent} (heard : s.Heard (.yields event)) :
    Inv (s.step (.yields event)) := by
  dsimp only [step]
  split
  · exact inv
  · next running =>
    have transit : inTransit { s with
        sttEvents := s.sttEvents ++ [event]
        yielded := s.yielded ++ event.finalText.toList } =
          s.inTransit ++ event.finalText.toList := by
      simp only [inTransit, finalTexts, ← List.append_assoc, List.filterMap_append]
      cases event <;> rfl
    obtain ⟨told, buffered, whole, conveyed, joined⟩ := inv.accounted
    refine ⟨⟨told, buffered, ?_, conveyed, joined⟩, fun shut => ⟨(inv.shut shut).1, ?_⟩,
      fun gone => absurd (inv.consumed gone).1 running, inv.ended⟩
    · rw [transit]
      simp [whole]
    · intro text member
      rw [transit, List.mem_append] at member
      exact member.elim ((inv.shut shut).2 text) fun new => heard shut text (by simpa using new)

theorem Inv.takes (inv : Inv s) : Inv (s.step .takes) := by
  dsimp only [step]
  split
  · next event rest free queued =>
    -- The event only changes places within what is in transit.
    have transit : inTransit { s with considered := some event, sttEvents := rest } = s.inTransit := by
      simp [inTransit, free, queued]
    have reading : s.sttEnded ≠ true := fun gone => by
      simpa [queued] using (inv.consumed gone).2.1
    refine ⟨?_, fun shut => ?_, fun gone => absurd gone reading,
      fun ended => absurd (inv.ended ended).1 reading⟩
    · obtain ⟨told, buffered, whole, conveyed, joined⟩ := inv.accounted
      exact ⟨told, buffered, by rw [transit]; exact whole, conveyed, joined⟩
    · rw [transit]
      exact inv.shut shut
  · exact inv

theorem Inv.drop (inv : Inv s) {event : TranscriptEvent} (held : s.considered = some event)
    (noText : event.finalText = none) : Inv { s with considered := none } := by
  have transit : inTransit { s with considered := none } = s.inTransit := by
    simp [inTransit, held, finalTexts_cons, noText]
  have reading : s.sttEnded ≠ true := fun gone => by
    simpa [held] using (inv.consumed gone).2.2.1
  refine ⟨?_, fun shut => ?_, fun gone => absurd gone reading,
    fun ended => absurd (inv.ended ended).1 reading⟩
  · obtain ⟨told, buffered, whole, conveyed, joined⟩ := inv.accounted
    exact ⟨told, buffered, by rw [transit]; exact whole, conveyed, joined⟩
  · rw [transit]
    exact inv.shut shut

theorem Inv.acceptFinal (inv : Inv s) {text : Text} (held : s.considered = some (.final text)) :
    Inv (acceptTranscript { s with considered := none } (.final text)) := by
  have transit : s.inTransit = text :: finalTexts s.sttEvents := by
    simp only [inTransit, held, Option.toList_some, List.singleton_append, finalTexts_cons]
    rfl
  have reading : s.sttEnded ≠ true := fun gone => by
    simpa [held] using (inv.consumed gone).2.2.1
  refine ⟨?_, fun shut => ?_, fun gone => absurd gone reading,
    fun ended => absurd (inv.ended ended).1 reading⟩
  · obtain ⟨told, buffered, whole, conveyed, joined⟩ := inv.accounted
    refine ⟨told, buffered ++ [text], ?_, conveyed, ?_⟩
    · change s.yielded = told ++ (buffered ++ [text] ++ finalTexts s.sttEvents)
      rw [whole, transit]
      simp
    · change Tvic.acceptFinal s.finalTranscriptBuffer text = _
      rw [joined, joinFinals_snoc]
  · obtain ⟨empty, wordless⟩ := inv.shut shut
    rw [transit] at wordless
    constructor
    · change Tvic.acceptFinal s.finalTranscriptBuffer text = []
      rw [empty]
      exact acceptFinal_wordless (wordless text List.mem_cons_self)
    · exact fun later member => wordless later (List.mem_cons_of_mem _ member)

theorem Inv.accepts (inv : Inv s) : Inv (s.step .accepts) := by
  dsimp only [step]
  split
  · next event held =>
    cases event with
    | speechStarted => exact inv.drop held rfl
    | interim text => exact inv.drop held rfl
    | final text => exact inv.acceptFinal held
    | endpoint => exact (inv.drop held rfl).flushToQueue
  · exact inv

theorem Inv.transcriptsEnd (inv : Inv s) : Inv (s.step .transcriptsEnd) := by
  dsimp only [step]
  split
  · next gone =>
    obtain ⟨streamEnded, noEvents, free, reading⟩ := gone
    have flushed := inv.flushToQueue
    have kept : s.flushToQueue.sttStreamEnded = true ∧ s.flushToQueue.sttEvents = [] ∧
        s.flushToQueue.considered = none ∧ s.flushToQueue.phase = s.phase := by
      unfold PipelineSttInput.flushToQueue onTranscript
      dsimp only
      split
      · exact ⟨streamEnded, noEvents, free, rfl⟩
      · split <;> exact ⟨streamEnded, noEvents, free, rfl⟩
    refine ⟨flushed.accounted, flushed.shut, fun _ => ?_, fun ended => ?_⟩
    · exact ⟨kept.1, kept.2.1, kept.2.2.1, flushToQueue_buffer⟩
    · exact absurd (inv.ended (kept.2.2.2.symm.trans ended)).1 reading
  · exact inv

theorem Inv.withPhase (inv : Inv s) (phase : GracefulEndPhase)
    (notYet : phase = .ended → s.sttEnded = true ∧ s.turnChain = []) :
    Inv { s with phase := phase } :=
  ⟨inv.accounted, inv.shut, inv.consumed, notYet⟩

theorem Inv.shutInput (inv : Inv s)
    (heard : ∀ text ∈ s.inTransit, Lib.trim isWhitespace text = []) : Inv s.shutInput := by
  obtain ⟨told, buffered, whole, conveyed, joined⟩ := inv.accounted
  obtain ⟨told', whole', conveyed'⟩ := Accounted.flush whole conveyed joined _ rfl
  refine ⟨⟨told', [], whole', conveyed', rfl⟩, fun _ => ⟨rfl, heard⟩, fun gone => ?_, nofun⟩
  obtain ⟨streamEnded, noEvents, free, -⟩ := inv.consumed gone
  exact ⟨streamEnded, noEvents, free, rfl⟩

theorem Inv.turnHandled (inv : Inv s) : Inv (s.step .turnHandled) := by
  dsimp only [step]
  split
  · next transcript rest chained =>
    obtain ⟨told, buffered, whole, conveyed, joined⟩ := inv.accounted
    refine ⟨⟨told, buffered, whole, ?_, joined⟩, inv.shut, inv.consumed, fun ended => ?_⟩
    · rw [chained] at conveyed
      simpa using conveyed
    · have gone := (inv.ended ended).2
      rw [chained] at gone
      cases gone
  · exact inv

theorem Inv.step (inv : Inv s) (event : SttInputEvent) (heard : s.Heard event) :
    Inv (s.step event) := by
  cases event with
  | yields event => exact inv.yields heard
  | streamEnds =>
    exact ⟨inv.accounted, inv.shut, fun gone => ⟨rfl, (inv.consumed gone).2⟩, inv.ended⟩
  | takes => exact inv.takes
  | accepts => exact inv.accepts
  | transcriptsEnd => exact inv.transcriptsEnd
  | endpointTimer =>
    dsimp only [PipelineSttInput.step]
    split
    · exact inv
    · exact inv.flushToQueue
  | commitFlush =>
    dsimp only [PipelineSttInput.step]
    split <;> first | exact inv.flushToQueue | exact inv
  | mediaEnds =>
    dsimp only [PipelineSttInput.step]
    split
    · exact inv.withPhase _ nofun
    · exact inv
  | flushes =>
    dsimp only [PipelineSttInput.step]
    split
    · exact inv.withPhase _ (by split <;> nofun)
    · exact inv
  | drains =>
    dsimp only [PipelineSttInput.step]
    split
    · exact inv.withPhase _ nofun
    · exact inv
  | inputShuts =>
    dsimp only [PipelineSttInput.step]
    split
    · next draining => exact inv.shutInput (heard draining)
    · exact inv
  | turnHandled => exact inv.turnHandled
  | runEnds =>
    dsimp only [PipelineSttInput.step]
    split
    · split
      · next gone => exact inv.withPhase _ fun _ => gone
      · exact inv
    · exact inv

/-! ## Whole runs -/

/-- The state a run of the loop's input ends in. -/
def after (events : List SttInputEvent) : PipelineSttInput := Lib.run step {} events

/-- At the end of a run every final with words stands in the transcript of one turn, if none was
overtaken by the end of the drain. -/
theorem finals_conveyed {events : List SttInputEvent} (heard : Lib.Admitted Heard step {} events)
    (ended : (after events).phase = .ended) :
    Conveyed (after events).yielded (after events).handled := by
  have inv : Inv (after events) :=
    Lib.run_invariant_of_admitted Inv (fun _ event admitted inv => inv.step event admitted) inv_new heard
  obtain ⟨told, buffered, whole, conveyed, joined⟩ := inv.accounted
  obtain ⟨gone, noChain⟩ := inv.ended ended
  obtain ⟨-, noEvents, free, empty⟩ := inv.consumed gone
  have transit : (after events).inTransit = [] := by simp [inTransit, free, noEvents, finalTexts]
  -- What is still in the buffer has no words.
  have wordless : ∀ text ∈ buffered, Lib.trim isWhitespace text = [] := by
    have spelled := joinFinals_spellsOut buffered
    rw [← joined, empty] at spelled
    exact spelled.trim_eq_nil
  rw [whole, transit, List.append_nil]
  rw [noChain, List.append_nil] at conveyed
  simpa using conveyed.append (Conveyed.of_silence wordless)

/-- A call whose last words the provider still owes when the media stream ends. -/
def delayedFinalRun : List SttInputEvent :=
  [.mediaEnds, .flushes, .yields (.final (utf16 "late words")), .takes, .accepts,
    .yields .endpoint, .takes, .accepts, .drains, .streamEnds, .transcriptsEnd, .inputShuts,
    .turnHandled, .runEnds]

theorem finals_conveyed_delayedFinal : Conveyed [utf16 "late words"] [utf16 "late words"] :=
  @finals_conveyed delayedFinalRun
    ⟨trivial, trivial, fun shut => absurd shut (by decide), trivial, trivial,
      fun shut => absurd shut (by decide), trivial, trivial, trivial, trivial, trivial,
      fun _ => by decide, trivial, trivial, trivial⟩ (by decide)

/-- The provider flushes its last words when the drain closes its stream. An interim text before them
interrupts a turn, and they are read once that is done, after the input was shut. -/
def overtakenFinalRun : List SttInputEvent :=
  [.mediaEnds, .flushes, .drains, .yields (.interim (utf16 "good")), .takes,
    .yields (.final (utf16 "goodbye")), .streamEnds, .inputShuts, .accepts, .takes, .accepts,
    .transcriptsEnd, .runEnds]

theorem overtakenFinal_lost : (after overtakenFinalRun).phase = .ended ∧
    (after overtakenFinalRun).yielded = [utf16 "goodbye"] ∧
    (after overtakenFinalRun).handled = [] ∧
    ¬ Conveyed (after overtakenFinalRun).yielded (after overtakenFinalRun).handled := by
  refine ⟨by decide, by decide, by decide, fun conveyed => ?_⟩
  have spoken : (after overtakenFinalRun).yielded = [utf16 "goodbye"] := by decide
  have none : (after overtakenFinalRun).handled = [] := by decide
  rw [spoken, none] at conveyed
  have wordless := conveyed.silent (utf16 "goodbye") List.mem_cons_self
  exact absurd wordless (by decide)

end PipelineSttInput

end Tvic
