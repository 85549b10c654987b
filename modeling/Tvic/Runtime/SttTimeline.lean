import Mathlib.Algebra.Group.Defs
import Tvic.Lib.Log
import Tvic.Runtime.SttRecovery

/-!
# The session timeline of an STT stream

Every generation counts its audio from zero, and the stream adds the offset of the generation to
what it says. `OnTimeline` is that this offset is where the audio of the generation begins: what was
admitted before the first chunk that the generation is sent.

The offset is looked up from `replayStart`, which is where the cursor stands as long as no generation
is active. `Timed.first` carries it from there to the first chunk.
-/
namespace Tvic.ResilientSttStream

open Lib SttJournal

variable {δ : Type}

/-! ### What the log says -/

section Spec

variable [Zero δ] [Add δ]

/-- The durations of the audio that is admitted, added up. -/
def admittedMs (log : List (SttHappening δ)) : δ :=
  (log.filterMap fun
    | .admitted (.audio _ chunk _ _ _) => some chunk.durationMs
    | _ => none).foldl (· + ·) 0

/-- A chunk is admitted when this much was admitted before it. -/
def AdmittedAt (log : List (SttHappening δ)) (id : Nat) (offsetMs : δ) : Prop :=
  ∃ before entry rest, log = before ++ .admitted entry :: rest ∧ isAudio entry = true ∧
    entry.id = id ∧ offsetMs = admittedMs before

/-- An event says what the provider said, on the timeline of the session. -/
def Shifted (origin : SttTimestampOrigin) (log : List (SttHappening δ)) (arrival generation : Nat)
    (body : SttEventBody δ) : Prop :=
  ∃ state source, .received arrival generation state source ∈ log ∧
    match origin with
    | .session => body = source.body
    | .generation => generation = 1 ∧ body = source.body ∨
        2 ≤ generation ∧ ∃ offsetMs, .opened generation offsetMs ∈ log ∧
          body = shiftBody offsetMs source.body

structure OnTimeline (origin : SttTimestampOrigin) (log : List (SttHappening δ)) : Prop where
  distinct : ∀ before entry rest, log = before ++ .admitted entry :: rest →
    ∀ other, .admitted other ∈ before → other.id ≠ entry.id
  single : ∀ generation first second, .opened generation first ∈ log →
    .opened generation second ∈ log → first = second
  opening : ∀ before generation entry rest, log = before ++ .sent generation entry :: rest →
    isAudio entry = true → 2 ≤ generation →
    (∀ earlier, .sent generation earlier ∈ before → isAudio earlier = false) →
    ∃ offsetMs, .opened generation offsetMs ∈ before ∧ AdmittedAt before entry.id offsetMs
  emission : ∀ before arrival generation event rest,
    log = before ++ .emitted arrival generation event :: rest →
    Shifted origin before arrival generation event.body

end Spec

/-! ### The part of a stream that is about the timeline -/

structure TimelineView (δ : Type) where
  log : List (SttHappening δ)
  shapes : List (EntryShape δ)
  cursor : Nat
  live : Bool
  active : Option Nat
  generation : Nat
  sending : Option (EntryShape δ × Nat × Nat)
  held : List (Nat × Nat × SttEvent δ)
  generationOffsetMs : δ
  sessionAudioMs : δ
  entries : Nat

def timelineView (s : ResilientSttStream δ) : TimelineView δ where
  log := s.happened
  shapes := s.journal.map shape
  cursor := s.cursor
  live := s.live
  active := s.active
  generation := s.generation
  sending := sendInFlight s.journalRun
  held := s.heldEndpoints
  generationOffsetMs := s.generationOffsetMs
  sessionAudioMs := s.sessionAudioMs
  entries := s.entries

/-- Where the next audio begins: the first of these entries, or what is admitted next. -/
def firstOffset (shapes : List (EntryShape δ)) (sessionAudioMs : δ) : δ :=
  (shapes.findSome? EntryShape.audioOffset).getD sessionAudioMs

section Timed

variable [Zero δ] [Add δ]

def mayFollow (origin : SttTimestampOrigin) (before : List (SttHappening δ)) :
    SttHappening δ → Prop
  | .admitted entry => ∀ other, .admitted other ∈ before → other.id ≠ entry.id
  | .sent generation entry => isAudio entry = true → 2 ≤ generation →
      (∀ earlier, .sent generation earlier ∈ before → isAudio earlier = false) →
      ∃ offsetMs, .opened generation offsetMs ∈ before ∧ AdmittedAt before entry.id offsetMs
  | .emitted arrival generation event => Shifted origin before arrival generation event.body
  | _ => True

def Unsent (log : List (SttHappening δ)) (generation : Nat) : Prop :=
  ∀ entry, .sent generation entry ∈ log → isAudio entry = false

structure Timed (origin : SttTimestampOrigin) (t : TimelineView δ) : Prop where
  session : t.sessionAudioMs = admittedMs t.log
  ids : ∀ entry, .admitted entry ∈ t.log → entry.id < t.entries
  sentTo : ∀ generation entry, .sent generation entry ∈ t.log → generation ≤ t.generation
  openedTo : ∀ generation offsetMs, .opened generation offsetMs ∈ t.log →
    generation ≤ t.generation
  single : ∀ generation first second, .opened generation first ∈ t.log →
    .opened generation second ∈ t.log → first = second
  offset : t.generation = 1 ∧ t.generationOffsetMs = 0 ∨
    2 ≤ t.generation ∧ .opened t.generation t.generationOffsetMs ∈ t.log
  shapes : ∀ id offsetMs, .audio id offsetMs ∈ t.shapes → AdmittedAt t.log id offsetMs
  sending : ∀ entry generation stream, t.sending = some (entry, generation, stream) →
    ∃ sent, .sent generation sent ∈ t.log ∧ shape sent = entry
  first : t.live = true → t.active ≠ none → 2 ≤ t.generation → Unsent t.log t.generation →
    t.generationOffsetMs = firstOffset (t.shapes.drop t.cursor) t.sessionAudioMs
  held : ∀ held ∈ t.held, Shifted origin t.log held.1 held.2.1 held.2.2.body
  follows : Follows (mayFollow origin) t.log

end Timed

def aside : SttHappening δ → Bool
  | .admitted .. => false
  | .opened .. => false
  | .sent .. => false
  | .emitted .. => false
  | _ => true

variable {origin : SttTimestampOrigin} {log extra : List (SttHappening δ)}

theorem mem_append_aside (silent : ∀ happening ∈ extra, aside happening = true)
    {happening : SttHappening δ} (loud : aside happening = false) :
    happening ∈ log ++ extra ↔ happening ∈ log := by
  rw [List.mem_append, or_iff_left]
  intro member
  cases (silent happening member).symm.trans loud

variable {arrival generation : Nat}

theorem Shifted.append [Add δ] {body : SttEventBody δ}
    (shifted : Shifted origin log arrival generation body) (extra : List (SttHappening δ)) :
    Shifted origin (log ++ extra) arrival generation body := by
  obtain ⟨state, source, received, holds⟩ := shifted
  refine ⟨state, source, List.mem_append_left _ received, ?_⟩
  cases origin with
  | session => exact holds
  | generation =>
    exact holds.imp_right fun ⟨late, offsetMs, opened, shifted⟩ =>
      ⟨late, offsetMs, List.mem_append_left _ opened, shifted⟩

theorem Shifted.mono [Add δ] {log log' : List (SttHappening δ)} {body : SttEventBody δ}
    (shifted : Shifted origin log arrival generation body) (extends_ : log <+: log') :
    Shifted origin log' arrival generation body := by
  obtain ⟨extra, rfl⟩ := extends_
  exact shifted.append extra

section Keeps

variable [Zero δ] [Add δ] {t t' : TimelineView δ}

theorem AdmittedAt.append {id : Nat} {offsetMs : δ} (admitted : AdmittedAt log id offsetMs)
    (extra : List (SttHappening δ)) : AdmittedAt (log ++ extra) id offsetMs := by
  obtain ⟨before, entry, rest, rfl, holds⟩ := admitted
  exact ⟨before, entry, rest ++ extra, by simp, holds⟩

theorem admittedMs_append : admittedMs (log ++ extra) =
    (extra.filterMap fun
      | .admitted (.audio _ chunk _ _ _) => some chunk.durationMs
      | _ => none).foldl (· + ·) (admittedMs log) := by
  rw [admittedMs, List.filterMap_append, List.foldl_append]
  rfl

theorem admittedMs_append_of_aside (silent : ∀ happening ∈ extra, aside happening = true) :
    admittedMs (log ++ extra) = admittedMs log := by
  rw [admittedMs_append, List.filterMap_eq_nil_iff.mpr]
  · rfl
  · intro happening member
    cases happening with
    | admitted => cases silent _ member
    | _ => rfl

theorem Timed.frame (timed : Timed origin t) (silent : ∀ happening ∈ extra, aside happening = true)
    (log : t'.log = t.log ++ extra) (shapes : t'.shapes ⊆ t.shapes)
    (generation : t'.generation = t.generation)
    (sending : t'.sending = none ∨ t'.sending = t.sending) (held : t'.held ⊆ t.held)
    (offset : t'.generationOffsetMs = t.generationOffsetMs)
    (session : t'.sessionAudioMs = t.sessionAudioMs) (entries : t'.entries = t.entries)
    (first : t'.live = true → t'.active ≠ none → Unsent t.log t.generation →
      t.live = true ∧ t.active ≠ none ∧ firstOffset (t'.shapes.drop t'.cursor) t.sessionAudioMs =
        firstOffset (t.shapes.drop t.cursor) t.sessionAudioMs) :
    Timed origin t' := by
  have same : ∀ {happening : SttHappening δ}, aside happening = false →
      (happening ∈ t'.log ↔ happening ∈ t.log) := by
    intro happening loud
    rw [log]
    exact mem_append_aside silent loud
  constructor
  case session =>
    rw [session, log, admittedMs_append_of_aside silent]
    exact timed.session
  case ids =>
    intro entry member
    rw [entries]
    exact timed.ids entry ((same rfl).mp member)
  case sentTo =>
    intro target entry member
    rw [generation]
    exact timed.sentTo target entry ((same rfl).mp member)
  case openedTo =>
    intro target offsetMs member
    rw [generation]
    exact timed.openedTo target offsetMs ((same rfl).mp member)
  case single =>
    intro target one two member member'
    exact timed.single target one two ((same rfl).mp member) ((same rfl).mp member')
  case offset =>
    rw [generation, offset, same rfl]
    exact timed.offset
  case shapes =>
    intro id offsetMs member
    rw [log]
    exact (timed.shapes id offsetMs (shapes member)).append extra
  case sending =>
    intro entry target stream found
    rcases sending with none | kept
    · cases none.symm.trans found
    · obtain ⟨sent, member, is⟩ := timed.sending entry target stream (kept.symm.trans found)
      exact ⟨sent, (same rfl).mpr member, is⟩
  case first =>
    intro live active late unsent
    have unsent : Unsent t.log t.generation := by
      intro entry member
      rw [generation] at unsent
      exact unsent entry ((same rfl).mpr member)
    obtain ⟨live, active, next⟩ := first live active unsent
    rw [offset, session, next]
    rw [generation] at late
    exact timed.first live active late unsent
  case held =>
    intro event member
    rw [log]
    exact (timed.held event (held member)).append extra
  case follows =>
    rw [log]
    refine timed.follows.append fun happening member before => ?_
    cases happening with
    | admitted | opened | sent | emitted => cases silent _ member
    | _ => trivial

theorem Timed.mark (timed : Timed origin t)
    (silent : ∀ happening ∈ extra, aside happening = true) :
    Timed origin { t with log := t.log ++ extra } :=
  timed.frame silent rfl (List.Subset.refl _) rfl (.inr rfl) (List.Subset.refl _) rfl rfl rfl
    fun live active _ => ⟨live, active, rfl⟩

theorem Timed.halt (timed : Timed origin t)
    (silent : ∀ happening ∈ extra, aside happening = true)
    (log : t'.log = t.log ++ extra) (shapes : t'.shapes = t.shapes)
    (generation : t'.generation = t.generation) (sending : t'.sending = t.sending)
    (held : t'.held ⊆ t.held) (offset : t'.generationOffsetMs = t.generationOffsetMs)
    (session : t'.sessionAudioMs = t.sessionAudioMs) (entries : t'.entries = t.entries)
    (halted : t'.live = true → t'.active = none) : Timed origin t' :=
  timed.frame silent log (shapes ▸ List.Subset.refl _) generation (.inr sending) held offset session
    entries fun live active _ => absurd (halted live) active

end Keeps

/-! ### What leaves the timeline alone -/

variable (config : SttStreamConfig) (s : ResilientSttStream δ)

theorem timelineView_clearGenerationWait (outcome : GenerationOutcome) :
    (s.clearGenerationWait outcome).timelineView = s.timelineView := by
  unfold clearGenerationWait
  split <;> rfl

theorem timelineView_notifyProgress (writes : ContextWrites) :
    (s.notifyProgress writes).timelineView = s.timelineView := by
  have drain : ∀ s : ResilientSttStream δ, (s.resolveDrain writes).timelineView = s.timelineView := by
    intro s
    unfold resolveDrain
    split
    · split <;> rfl
    · rfl
  rw [notifyProgress, drain, resolveStable]
  split
  · split
    · exact timelineView_clearGenerationWait s .stable
    · rfl
  · rfl

variable {change : SttJournalEntry δ → SttJournalEntry δ}

theorem timelineView_rejectPending : ∃ commits : List Nat, s.rejectPending.timelineView =
    { s.timelineView with log := s.happened ++ commits.map .rejected } := by
  have shapes : s.rejectPending.journal.map shape = s.journal.map shape :=
    congrArg RecoveryView.shapes (recoveryView_rejectPending s)
  refine ⟨(s.journal.filter SttJournalEntry.isUnsettledCommit).map SttJournalEntry.id, ?_⟩
  rw [timelineView, shapes, List.map_map]
  rfl

theorem timelineView_startRecovery (source : SttGenerationError) :
    (s.startRecovery source).timelineView = s.timelineView := by
  unfold startRecovery
  split
  · rfl
  · split <;> rfl

theorem aside_ending (commits : List Nat) :
    ∀ happening ∈ (.terminal :: commits.map .rejected : List (SttHappening δ)),
      aside happening = true := by
  intro happening member
  rcases List.mem_cons.mp member with rfl | member
  · rfl
  · obtain ⟨commit, -, rfl⟩ := List.mem_map.mp member
    rfl

theorem timelineView_failTerminal (alive : s.live = true) (error : SttGenerationError) :
    ∃ commits : List Nat, (s.failTerminal error).timelineView =
      { s.timelineView with
        log := s.happened ++ SttHappening.terminal :: commits.map .rejected
        live := false
        active := none } := by
  have going : (s.terminal || s.isClosed) = false := by
    rw [live, Bool.and_eq_true] at alive
    simp_all
  unfold failTerminal
  rw [if_neg (by simp [going])]
  dsimp only
  generalize start : { s with terminal := true, state := .failed }.happen .terminal = s₁
  have view₁ : s₁.timelineView =
      { s.timelineView with log := s.happened ++ [SttHappening.terminal], live := false } := by
    subst start
    simp [timelineView, happen, live]
  obtain ⟨commits, view₂⟩ := timelineView_rejectPending (s₁.clearGenerationWait (.failed error))
  have log : (s₁.clearGenerationWait (.failed error)).happened = s.happened ++ [SttHappening.terminal] := by
    have := congrArg TimelineView.log (timelineView_clearGenerationWait s₁ (.failed error))
    exact this.trans (congrArg TimelineView.log view₁)
  refine ⟨commits, ?_⟩
  show { (notifyProgress _ _).timelineView with active := none } = _
  rw [timelineView_notifyProgress]
  show { (rejectPending _).timelineView with active := none } = _
  rw [view₂, log, timelineView_clearGenerationWait, view₁, ← List.append_cons s.happened]

theorem happened_failTerminal (error : SttGenerationError) :
    s.happened <+: (s.failTerminal error).happened := by
  cases alive : s.live with
  | false => exact (failTerminal_eq_self alive error).symm ▸ List.prefix_refl _
  | true =>
    obtain ⟨commits, view⟩ := timelineView_failTerminal s alive error
    have log : (s.failTerminal error).happened = _ := congrArg TimelineView.log view
    rw [log]
    exact List.prefix_append _ _

theorem happened_emit (event : SttEvent δ) (arrival generation : Nat) :
    s.happened <+: (s.emit event arrival generation).happened := by
  unfold ResilientSttStream.emit
  split
  · exact List.prefix_refl _
  · dsimp only
    split
    · exact List.prefix_append _ _
    · refine List.IsPrefix.trans ?_ (happened_failTerminal _ _)
      exact List.prefix_append _ _

/-! ### Where the next audio begins -/

theorem firstOffset_commands (shapes : List (EntryShape δ)) (sessionAudioMs : δ) :
    firstOffset (shapes.filter EntryShape.isCommand) sessionAudioMs =
      firstOffset shapes sessionAudioMs := by
  unfold firstOffset
  congr 1
  induction shapes with
  | nil => rfl
  | cons entry shapes ih =>
    cases entry with
    | audio id offsetMs => rfl
    | commit id => exact ih
    | agentContext id => exact ih

theorem firstOffset_append_drop {shapes : List (EntryShape δ)} {cursor : Nat}
    (bound : cursor ≤ shapes.length) (entry : EntryShape δ) (sessionAudioMs next : δ)
    (same : (entry.audioOffset).getD next = sessionAudioMs) :
    firstOffset ((shapes ++ [entry]).drop cursor) next =
      firstOffset (shapes.drop cursor) sessionAudioMs := by
  rw [firstOffset, List.drop_append_of_le_length bound, List.findSome?_append, firstOffset]
  cases (shapes.drop cursor).findSome? EntryShape.audioOffset with
  | some offsetMs => rfl
  | none =>
    rw [← same]
    cases entry <;> rfl

variable {config} {s} {arrival : Nat}

section Steps

variable [Zero δ] [Add δ]

theorem Timed.failTerminal (timed : Timed origin s.timelineView) (error : SttGenerationError) :
    Timed origin (s.failTerminal error).timelineView := by
  cases alive : s.live with
  | false =>
    rw [failTerminal_eq_self alive]
    exact timed
  | true =>
    obtain ⟨commits, view⟩ := timelineView_failTerminal s alive error
    rw [view]
    exact timed.halt (aside_ending commits) rfl rfl rfl rfl (List.Subset.refl _) rfl rfl rfl nofun

theorem Timed.compactJournal (timed : Timed origin s.timelineView)
    (bound : s.cursor ≤ s.journal.length) (now : Int) :
    Timed origin (s.compactJournal config now).timelineView := by
  obtain ⟨place, shapes, compacts, view⟩ := @recoveryView_compactJournal δ config s now
  have shapes' : (s.compactJournal config now).timelineView.shapes = shapes :=
    congrArg RecoveryView.shapes view
  have cursor : (s.compactJournal config now).timelineView.cursor = place s.cursor :=
    congrArg RecoveryView.cursor view
  have silent : ∀ happening ∈ ([] : List (SttHappening δ)), aside happening = true := nofun
  refine timed.frame silent (List.append_nil _).symm ?_ rfl (.inr rfl)
    (List.Subset.refl _) rfl rfl rfl fun live active _ => ⟨live, active, ?_⟩
  · rw [shapes']
    exact compacts.sublist.subset
  · rw [shapes', cursor, ← firstOffset_commands, compacts.ahead bound, firstOffset_commands]
    rfl

/-! ### Admission -/

variable {entry : SttJournalEntry δ}

section

variable (timed : Timed origin s.timelineView)
include timed

theorem Timed.push (bound : s.cursor ≤ s.journal.length) (fresh : entry.id = s.entries) {next : δ}
    (starts : ∀ id offsetMs, shape entry = .audio id offsetMs → offsetMs = s.sessionAudioMs)
    (session : next = admittedMs (s.happened ++ [SttHappening.admitted entry]))
    (same : (shape entry).audioOffset.getD next = s.sessionAudioMs) :
    Timed origin { s.push entry with sessionAudioMs := next }.timelineView := by
  have older : ∀ {happening : SttHappening δ}, (∀ entry, happening ≠ .admitted entry) →
      happening ∈ s.happened ++ [SttHappening.admitted entry] → happening ∈ s.happened := by
    intro happening other member
    rcases List.mem_append.mp member with old | new
    · exact old
    · exact absurd (List.mem_singleton.mp new) (other entry)
  have shapes : ({ s.push entry with sessionAudioMs := next }.timelineView).shapes =
      s.journal.map shape ++ [shape entry] := by
    simp [timelineView, ResilientSttStream.push, happen]
  constructor
  case session => exact session
  case ids =>
    intro other member
    show other.id < s.entries + 1
    rcases List.mem_append.mp member with old | new
    · exact Nat.lt_succ_of_lt (timed.ids other old)
    · obtain rfl := by simpa using new
      exact fresh ▸ Nat.lt_succ_self _
  case sentTo =>
    exact fun target other member => timed.sentTo target other (older (by simp) member)
  case openedTo =>
    exact fun target offsetMs member => timed.openedTo target offsetMs (older (by simp) member)
  case single =>
    exact fun target one two member member' =>
      timed.single target one two (older (by simp) member) (older (by simp) member')
  case offset =>
    exact timed.offset.imp_right (And.imp_right (List.mem_append_left _))
  case shapes =>
    rw [shapes]
    intro id offsetMs member
    rcases List.mem_append.mp member with old | new
    · exact (timed.shapes id offsetMs old).append _
    · have is : shape entry = .audio id offsetMs := (List.mem_singleton.mp new).symm
      refine ⟨s.happened, entry, [], rfl, ?_, ?_, ?_⟩
      · cases entry <;> simp_all [shape, isAudio]
      · cases entry <;> simp_all [shape, SttJournalEntry.id]
      · rw [starts id offsetMs is]
        exact timed.session
  case sending =>
    intro other target stream found
    obtain ⟨sent, member, is⟩ := timed.sending other target stream found
    exact ⟨sent, List.mem_append_left _ member, is⟩
  case first =>
    intro live active late unsent
    have before : s.generationOffsetMs = firstOffset ((s.journal.map shape).drop s.cursor)
        s.sessionAudioMs :=
      timed.first live active late fun other member =>
        unsent other (List.mem_append_left _ member)
    rw [shapes]
    refine before.trans (firstOffset_append_drop ?_ _ _ _ same).symm
    simpa using bound
  case held =>
    exact fun event member => (timed.held event member).append _
  case follows =>
    refine follows_snoc_iff.mpr ⟨timed.follows, ?_⟩
    intro other member
    exact fresh ▸ Nat.ne_of_lt (timed.ids other member)

theorem Timed.pushAudio (bound : s.cursor ≤ s.journal.length) (chunk : InputAudioChunk δ)
    (admittedAtMs : Int) :
    Timed origin { s.push (.audio s.entries chunk s.sessionAudioMs admittedAtMs none) with
      sessionAudioMs := s.sessionAudioMs + chunk.durationMs }.timelineView := by
  refine timed.push bound rfl ?_ ?_ rfl
  · rintro id offsetMs ⟨⟩
    rfl
  · have total : s.sessionAudioMs = admittedMs s.happened := timed.session
    rw [admittedMs_append, ← total]
    rfl

theorem Timed.pushOther (bound : s.cursor ≤ s.journal.length) (fresh : entry.id = s.entries)
    (other : isAudio entry = false) :
    Timed origin (s.push entry).timelineView := by
  have total : s.sessionAudioMs = admittedMs s.happened := timed.session
  have pushed : Timed origin { s.push entry with sessionAudioMs := s.sessionAudioMs }.timelineView := by
    refine timed.push bound fresh ?_ ?_ ?_
    · cases entry <;> simp_all [shape, isAudio]
    · rw [admittedMs_append, ← total]
      cases entry <;> simp_all [isAudio]
    · cases entry <;> simp_all [shape, isAudio, EntryShape.audioOffset]
  exact pushed

/-! ### Events to the outside -/

theorem Timed.emit {event : SttEvent δ}
    (shifted : Shifted origin s.happened arrival generation event.body) :
    Timed origin (s.emit event arrival generation).timelineView := by
  unfold ResilientSttStream.emit
  split
  · exact timed
  · dsimp only
    split
    · have older : ∀ {happening : SttHappening δ} {event : SttEvent δ},
          (∀ event, happening ≠ .emitted arrival generation event) →
          happening ∈ s.happened ++ [SttHappening.emitted arrival generation event] →
          happening ∈ s.happened := by
        intro happening event other member
        rcases List.mem_append.mp member with old | new
        · exact old
        · exact absurd (List.mem_singleton.mp new) (other event)
      constructor
      case session =>
        refine timed.session.trans ?_
        show admittedMs s.happened = admittedMs (s.happened ++ _)
        rw [admittedMs_append]
        rfl
      case ids => exact fun entry member => timed.ids entry (older (by simp) member)
      case sentTo =>
        exact fun target entry member => timed.sentTo target entry (older (by simp) member)
      case openedTo =>
        exact fun target offset member => timed.openedTo target offset (older (by simp) member)
      case single =>
        exact fun target one two member member' =>
          timed.single target one two (older (by simp) member) (older (by simp) member')
      case offset =>
        exact timed.offset.imp_right fun ⟨late, opened⟩ => ⟨late, List.mem_append_left _ opened⟩
      case shapes =>
        exact fun id offsetMs member => (timed.shapes id offsetMs member).append _
      case sending =>
        intro entry target stream found
        obtain ⟨sent, member, is⟩ := timed.sending entry target stream found
        exact ⟨sent, List.mem_append_left _ member, is⟩
      case first =>
        exact fun live active late unsent => timed.first live active late fun entry member =>
          unsent entry (List.mem_append_left _ member)
      case held => exact fun event member => (timed.held event member).append _
      case follows => exact follows_snoc_iff.mpr ⟨timed.follows, shifted⟩
    · refine Timed.failTerminal ?_ _
      have silent : ∀ happening ∈ ([.refused arrival generation] : List (SttHappening δ)),
          aside happening = true := by
        simp [aside]
      exact timed.mark silent

theorem Timed.release :
    Timed origin s.releaseHeldEndpoints.timelineView := by
  unfold releaseHeldEndpoints
  split
  · exact timed
  · have shifted := timed.held
    have start : Timed origin ({ s with heldEndpoints := [] } :
        ResilientSttStream δ).timelineView := by
      have silent : ∀ happening ∈ ([] : List (SttHappening δ)), aside happening = true := nofun
      exact timed.frame silent (List.append_nil _).symm (List.Subset.refl _) rfl (.inr rfl)
        (List.nil_subset _) rfl rfl rfl fun live active _ => ⟨live, active, rfl⟩
    have log : s.happened <+: ({ s with heldEndpoints := [] } : ResilientSttStream δ).happened :=
      List.prefix_refl _
    generalize ({ s with heldEndpoints := [] } : ResilientSttStream δ) = s' at start log ⊢
    have shifted : ∀ held ∈ s.heldEndpoints,
        Shifted origin s'.happened held.1 held.2.1 held.2.2.body :=
      fun held member => (shifted held member).mono log
    generalize s.heldEndpoints = held at shifted ⊢
    clear log
    induction held generalizing s' with
    | nil => exact start
    | cons first held ih =>
      rw [List.foldl_cons]
      refine ih _ (start.emit (shifted first List.mem_cons_self)) fun event member => ?_
      exact (shifted event (List.mem_cons_of_mem _ member)).mono (happened_emit _ _ _ _)

/-! ### Failure and recovery -/

theorem Timed.startRecovery (source : SttGenerationError) :
    Timed origin (s.startRecovery source).timelineView := by
  rw [timelineView_startRecovery]
  exact timed

theorem Timed.clearGenerationWait (outcome : GenerationOutcome) :
    Timed origin (s.clearGenerationWait outcome).timelineView := by
  rw [timelineView_clearGenerationWait]
  exact timed

theorem Timed.handleGenerationFailure (generation stream : Nat) (error : SttGenerationError)
    (now : Int) :
    Timed origin (s.handleGenerationFailure config generation stream error now).timelineView := by
  unfold ResilientSttStream.handleGenerationFailure
  split
  · exact timed
  · dsimp only
    have silent : ∀ happening ∈ ([.failed generation] : List (SttHappening δ)),
        aside happening = true := by
      simp [aside]
    split
    · refine Timed.failTerminal ?_ error
      exact timed.halt silent rfl rfl rfl rfl (List.nil_subset _) rfl rfl rfl fun _ => rfl
    · refine (Timed.clearGenerationWait ?_ _).startRecovery error
      exact timed.halt silent rfl rfl rfl rfl (List.nil_subset _) rfl rfl rfl fun _ => rfl

theorem Timed.opened (attended : Attended s.recoveryView) {recovery : SttRecovery}
    (running : s.recovery = some recovery) (opening : recovery.phase = .opening) (stream : Nat)
    (replayed : List Nat) : Timed origin (s.opened recovery stream replayed).timelineView := by
  unfold ResilientSttStream.opened
  split
  · exact timed
  next going =>
    have alive := live_eq_true going
    have none : s.active = none := attended.phase alive .opening (by simp [recoveryView, running, opening])
    have start : s.cursor = s.replayStart := attended.idle alive none
    have next : s.generationAudioOffset =
        firstOffset ((s.journal.map shape).drop s.cursor) s.sessionAudioMs := by
      rw [generationAudioOffset, firstOffset, start, ← List.map_drop, List.findSome?_map]
      congr 2
      funext entry
      cases entry <;> rfl
    have older : ∀ {happening : SttHappening δ},
        (∀ generation offsetMs, happening ≠ .opened generation offsetMs) →
        happening ∈ s.happened ++ [SttHappening.opened (s.generation + 1) s.generationAudioOffset] →
        happening ∈ s.happened := by
      intro happening other member
      rcases List.mem_append.mp member with old | new
      · exact old
      · exact absurd (List.mem_singleton.mp new) (other _ _)
    have openedBy : ∀ {generation : Nat} {offsetMs : δ}, .opened generation offsetMs ∈
        s.happened ++ [SttHappening.opened (s.generation + 1) s.generationAudioOffset] →
        .opened generation offsetMs ∈ s.happened ∧ generation ≤ s.generation ∨
          generation = s.generation + 1 ∧ offsetMs = s.generationAudioOffset := by
      intro generation offsetMs member
      rcases List.mem_append.mp member with old | new
      · exact .inl ⟨old, timed.openedTo generation offsetMs old⟩
      · obtain ⟨rfl, rfl⟩ := by simpa using new
        exact .inr ⟨rfl, rfl⟩
    constructor
    case session =>
      refine timed.session.trans ?_
      show admittedMs s.happened = admittedMs (s.happened ++ _)
      rw [admittedMs_append]
      rfl
    case ids => exact fun entry member => timed.ids entry (older (by simp) member)
    case sentTo =>
      exact fun target entry member =>
        Nat.le_succ_of_le (timed.sentTo target entry (older (by simp) member))
    case openedTo =>
      intro target offsetMs member
      rcases openedBy member with ⟨-, past⟩ | ⟨rfl, -⟩
      · exact Nat.le_succ_of_le past
      · exact Nat.le_refl _
    case single =>
      intro target one two member member'
      rcases openedBy member with ⟨old, past⟩ | ⟨rfl, rfl⟩ <;>
        rcases openedBy member' with ⟨old', past'⟩ | ⟨same, rfl⟩
      · exact timed.single target one two old old'
      · omega
      · omega
      · rfl
    case offset =>
      refine .inr ⟨?_, List.mem_append_right _ (List.mem_singleton_self _)⟩
      show 2 ≤ s.generation + 1
      rcases timed.offset with ⟨first, -⟩ | ⟨late, -⟩
      · rw [show s.generation = 1 from first]
      · exact Nat.le_succ_of_le late
    case shapes => exact fun id offsetMs member => (timed.shapes id offsetMs member).append _
    case sending =>
      intro entry target other found
      obtain ⟨sent, member, is⟩ := timed.sending entry target other found
      exact ⟨sent, List.mem_append_left _ member, is⟩
    case first => exact fun _ _ _ _ => next
    case held => exact fun event member => (timed.held event member).append _
    case follows => exact follows_snoc_iff.mpr ⟨timed.follows, trivial⟩

theorem Timed.heal (recovery : SttRecovery) (generation : Nat) :
    Timed origin (s.heal recovery generation).timelineView := by
  have silent : ∀ happening ∈ ([.healthy generation] : List (SttHappening δ)),
      aside happening = true := by
    simp [aside]
  have healthy : Timed origin (({ s with state := .healthy, replayStart := s.cursor } :
      ResilientSttStream δ).happen (.healthy generation)).timelineView :=
    timed.mark silent
  exact healthy.release

/-! ### The journal loop -/

theorem Timed.run {run : JournalRun δ} (idle : sendInFlight run = none) :
    Timed origin ({ s with journalRun := run } : ResilientSttStream δ).timelineView := by
  have silent : ∀ happening ∈ ([] : List (SttHappening δ)), aside happening = true := nofun
  exact timed.frame silent (List.append_nil _).symm (List.Subset.refl _) rfl (.inl idle)
    (List.Subset.refl _) rfl rfl rfl fun live active _ => ⟨live, active, rfl⟩

/-- Audio that the cursor moves past is audio that this generation was sent. -/
theorem Timed.skip {entry : EntryShape δ} {run : JournalRun δ} (idle : sendInFlight run = none)
    (at_ : (s.journal.map shape)[s.cursor]? = some entry) (known : entry.audioOffset = none ∨
      ∃ stream, sendInFlight s.journalRun = some (entry, s.generation, stream)) :
    Timed origin ({ s with journalRun := run, cursor := s.cursor + 1 } :
      ResilientSttStream δ).timelineView := by
  have silent : ∀ happening ∈ ([] : List (SttHappening δ)), aside happening = true := nofun
  refine timed.frame silent (List.append_nil _).symm (List.Subset.refl _) rfl (.inl idle)
    (List.Subset.refl _) rfl rfl rfl fun live active unsent => ⟨live, active, ?_⟩
  have other : entry.audioOffset = none := by
    rcases known with none | ⟨stream, inFlight⟩
    · exact none
    obtain ⟨sent, member, rfl⟩ := timed.sending _ _ _ inFlight
    have other := unsent sent member
    cases sent with
    | audio => cases other
    | _ => rfl
  obtain ⟨within, is⟩ := List.getElem?_eq_some_iff.mp at_
  show firstOffset ((s.journal.map shape).drop (s.cursor + 1)) s.sessionAudioMs =
    firstOffset ((s.journal.map shape).drop s.cursor) s.sessionAudioMs
  rw [List.drop_eq_getElem_cons within, is, firstOffset, firstOffset, List.findSome?_cons, other]

theorem Timed.sends (alive : s.live = true) {stream : Nat} (active : s.active = some stream)
    (there : s.journal[s.cursor]? = some entry) :
    Timed origin ({ s with journalRun := .sending entry s.generation stream }.happen
      (.sent s.generation entry) : ResilientSttStream δ).timelineView := by
  have at_ : (s.journal.map shape)[s.cursor]? = some (shape entry) := by
    rw [List.getElem?_map, there, Option.map_some]
  obtain ⟨within, is⟩ := List.getElem?_eq_some_iff.mp at_
  have older : ∀ {happening : SttHappening δ}, (∀ entry, happening ≠ .sent s.generation entry) →
      happening ∈ s.happened ++ [SttHappening.sent s.generation entry] → happening ∈ s.happened := by
    intro happening other member
    rcases List.mem_append.mp member with old | new
    · exact old
    · exact absurd (List.mem_singleton.mp new) (other entry)
  constructor
  case session =>
    refine timed.session.trans ?_
    show admittedMs s.happened = admittedMs (s.happened ++ _)
    rw [admittedMs_append]
    rfl
  case ids => exact fun entry member => timed.ids entry (older (by simp) member)
  case sentTo =>
    intro target other member
    rcases List.mem_append.mp member with old | new
    · exact timed.sentTo target other old
    · obtain ⟨rfl, -⟩ := by simpa using new
      exact Nat.le_refl _
  case openedTo =>
    exact fun target offsetMs member => timed.openedTo target offsetMs (older (by simp) member)
  case single =>
    exact fun target one two member member' =>
      timed.single target one two (older (by simp) member) (older (by simp) member')
  case offset =>
    exact timed.offset.imp_right fun ⟨late, opened⟩ => ⟨late, List.mem_append_left _ opened⟩
  case shapes => exact fun id offsetMs member => (timed.shapes id offsetMs member).append _
  case sending =>
    rintro _ _ _ ⟨⟩
    exact ⟨entry, List.mem_append_right _ (List.mem_singleton_self _), rfl⟩
  case first =>
    exact fun live active late unsent => timed.first live active late fun other member =>
      unsent other (List.mem_append_left _ member)
  case held => exact fun event member => (timed.held event member).append _
  case follows =>
    refine follows_snoc_iff.mpr ⟨timed.follows, fun audio late unsent => ?_⟩
    have isActive : s.active ≠ none := by simp [active]
    have first : s.generationOffsetMs = firstOffset ((s.journal.map shape).drop s.cursor)
        s.sessionAudioMs :=
      timed.first alive isActive late unsent
    have opened : .opened s.generation s.generationOffsetMs ∈ s.happened := by
      rcases timed.offset with ⟨one, -⟩ | ⟨-, opened⟩
      · have one : s.generation = 1 := one
        omega
      · exact opened
    refine ⟨s.generationOffsetMs, opened, timed.shapes entry.id s.generationOffsetMs ?_⟩
    refine List.mem_of_getElem? (i := s.cursor) (at_.trans ?_)
    rw [List.drop_eq_getElem_cons within, is] at first
    cases entry with
    | audio id chunk offsetMs admittedAtMs dispatchedAtMs =>
      rw [show s.generationOffsetMs = offsetMs from first]
      rfl
    | _ => cases audio

/-! ### The two ways to end -/

theorem Timed.shut : Timed origin s.shut.timelineView := by
  unfold ResilientSttStream.shut
  dsimp only
  have closed : Timed origin ({ s with isClosed := true, closing := true, state := .closed } :
      ResilientSttStream δ).timelineView := by
    have silent : ∀ happening ∈ ([] : List (SttHappening δ)), aside happening = true := nofun
    exact timed.halt silent (List.append_nil _).symm rfl rfl rfl (List.Subset.refl _) rfl rfl rfl
      nofun
  generalize ({ s with isClosed := true, closing := true, state := .closed } :
    ResilientSttStream δ) = s₁ at closed ⊢
  have cleared := closed.clearGenerationWait (.failed ⟨false, false⟩)
  obtain ⟨commits, view⟩ := timelineView_rejectPending
    (s₁.clearGenerationWait (.failed ⟨false, false⟩))
  have rejected : Timed origin (s₁.clearGenerationWait
      (.failed ⟨false, false⟩)).rejectPending.timelineView := by
    rw [view]
    refine cleared.mark fun happening member => ?_
    exact aside_ending commits happening (List.mem_cons_of_mem _ member)
  show Timed origin (notifyProgress _ _).timelineView
  rw [timelineView_notifyProgress]
  exact rejected

theorem Timed.streamsClosed :
    Timed origin s.streamsClosed.timelineView := by
  unfold ResilientSttStream.streamsClosed
  split
  · have silent : ∀ happening ∈ ([] : List (SttHappening δ)), aside happening = true := nofun
    exact timed.halt silent (List.append_nil _).symm rfl rfl rfl (List.Subset.refl _) rfl rfl rfl
      fun _ => rfl
  · exact timed

end

end Steps

/-! ### What comes in -/

theorem shiftBody_zero [AddZeroClass δ] (body : SttEventBody δ) : shiftBody 0 body = body := by
  cases body <;> simp [shiftBody]

theorem timed_new [Zero δ] [Add δ] (origin : SttTimestampOrigin) (stream : Nat) :
    Timed origin (new stream : ResilientSttStream δ).timelineView where
  session := rfl
  ids _ := nofun
  sentTo _ _ := nofun
  openedTo _ _ := nofun
  single _ _ _ := nofun
  offset := .inl ⟨rfl, rfl⟩
  shapes _ _ := nofun
  sending _ _ _ := nofun
  first := by
    intro _ _ late
    exact absurd late (Nat.not_succ_le_self 1)
  held := nofun
  follows := follows_nil

section Runs

variable [AddZeroClass δ] [DecidableEq δ]

theorem Timed.shifted (timed : Timed origin s.timelineView) {state : SttRecoveryState}
    (event : SttEvent δ)
    (received : .received arrival s.generation state event ∈ s.happened) :
    Shifted origin s.happened arrival s.generation
      (normalizeAudioOffsets event origin s.generationOffsetMs).body := by
  refine ⟨state, event, received, ?_⟩
  unfold normalizeAudioOffsets
  cases origin with
  | session => simp
  | generation =>
    rcases timed.offset with ⟨first, zero⟩ | ⟨late, opened⟩
    · have zero : s.generationOffsetMs = 0 := zero
      exact .inl ⟨first, by simp [zero]⟩
    · refine .inr ⟨late, s.generationOffsetMs, opened, ?_⟩
      split
      next zero =>
        have zero : s.generationOffsetMs = 0 := by simpa using zero
        rw [zero, shiftBody_zero]
      · rfl

theorem Timed.forwardGenerationEvent (timed : Timed config.timestampOrigin s.timelineView)
    {state : SttRecoveryState} (event : SttEvent δ)
    (received : .received arrival s.generation state event ∈ s.happened) :
    Timed config.timestampOrigin
      (s.forwardGenerationEvent config event arrival s.generation).timelineView := by
  have shifted := timed.shifted event received
  unfold ResilientSttStream.forwardGenerationEvent
  dsimp only
  generalize normalizeAudioOffsets event config.timestampOrigin s.generationOffsetMs = normalized
    at shifted ⊢
  split
  · split
    · exact timed.failTerminal _
    · exact
        { timed with
          held := fun held member => by
            rcases List.mem_append.mp member with old | new
            · exact timed.held held old
            · obtain rfl := List.mem_singleton.mp new
              exact shifted }
  · exact timed.emit shifted

theorem Timed.consumeEvent (timed : Timed config.timestampOrigin s.timelineView)
    (generation stream : Nat) (event : SttEvent δ) (now : Int) :
    Timed config.timestampOrigin
      (s.consumeEvent config generation stream event now).timelineView := by
  unfold ResilientSttStream.consumeEvent
  dsimp only
  split
  · exact timed
  next going =>
    obtain rfl : generation = s.generation := by
      simp [current] at going
      exact going.2.1
    have silent : ∀ happening ∈ ([.received s.arrivals s.generation s.state event] :
        List (SttHappening δ)), aside happening = true := by
      simp [aside]
    have received : Timed config.timestampOrigin
        (({ s with arrivals := s.arrivals + 1 } : ResilientSttStream δ).happen
          (.received s.arrivals s.generation s.state event)).timelineView :=
      timed.mark silent
    split
    · exact received.handleGenerationFailure _ stream _ now
    · exact received.forwardGenerationEvent event (List.mem_append_right _ (List.mem_singleton_self _))

/-! ### Every run -/

theorem Timed.move (timed : Timed config.timestampOrigin s.timelineView)
    (attended : Attended s.recoveryView) {s' : ResilientSttStream δ} (move : Move config s s') :
    Timed config.timestampOrigin s'.timelineView := by
  cases move with
  | still shapes same =>
    have view : s'.timelineView = s.timelineView := by
      show ({ s'.bare.timelineView with shapes := s'.journal.map shape } : TimelineView δ) = _
      rw [same, shapes]
      rfl
    rw [view]
    exact timed
  | failTerminal error => exact timed.failTerminal error
  | compactJournal now => exact timed.compactJournal attended.bound now
  | pushAudio chunk admittedAtMs => exact timed.pushAudio attended.bound chunk admittedAtMs
  | push fresh other => exact timed.pushOther attended.bound fresh other
  | @note happening note =>
    refine @Timed.mark _ _ [happening] _ _ _ timed fun noted member => ?_
    obtain rfl := List.mem_singleton.mp member
    cases noted with
    | resolved | dispatched => rfl
    | _ => cases note
  | run idle => exact timed.run idle
  | sends alive active there => exact timed.sends alive active there
  | skip at_ current idle known => exact timed.skip idle at_ known
  | clearStable | clearExhausted => exact timed.clearGenerationWait _
  | stable | withPhase | opens | finish => exact timed
  | release => exact timed.release
  | fails generation stream error now => exact timed.handleGenerationFailure generation stream error now
  | consumes generation stream event now => exact timed.consumeEvent generation stream event now
  | opened running opening stream replayed => exact timed.opened attended running opening stream replayed
  | heal => exact timed.heal _ _
  | startRecovery idle source => exact timed.startRecovery source
  | shut => exact timed.shut
  | streamsClosed => exact timed.streamsClosed

/-- Over every run each generation's offset is the duration of what was admitted before the first
audio it is sent, and the events go out with that offset and no other. -/
theorem onTimeline_after (config : SttStreamConfig) (stream : Nat)
    (events : List (SttStreamEvent δ)) :
    OnTimeline config.timestampOrigin (after config stream events).happened := by
  have both := run_invariant (step config)
    (fun s : ResilientSttStream δ =>
      Attended s.recoveryView ∧ Timed config.timestampOrigin s.timelineView)
    (fun s event kept => (moves_step kept.1 event).keeps
      (P := fun s => Attended s.recoveryView ∧ Timed config.timestampOrigin s.timelineView)
      (fun _ _ move kept => ⟨kept.1.move move, kept.2.move kept.1 move⟩) kept) (new stream)
    ⟨attended_new stream, timed_new _ stream⟩ events
  have timed : Timed config.timestampOrigin (after config stream events).timelineView := both.2
  generalize after config stream events = s at timed ⊢
  constructor
  case single => exact timed.single
  case distinct =>
    exact fun before entry rest split => timed.follows before (.admitted entry) rest split
  case opening =>
    exact fun before generation entry rest split =>
      timed.follows before (.sent generation entry) rest split
  case emission =>
    exact fun before arrival generation event rest split =>
      timed.follows before (.emitted arrival generation event) rest split

end Runs

end Tvic.ResilientSttStream
