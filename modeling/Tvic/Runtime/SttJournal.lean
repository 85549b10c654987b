import Mathlib.Algebra.GroupWithZero.Nat
import Mathlib.Data.List.Induction
import Tvic.Lib.Sieve

/-!
# The replay journal of a resilient STT stream

`packages/runtime/src/resilient-stt-journal.ts`. After a failure the next generation is sent what
the journal holds from `findReplayStart` on; `compactJournal` drops what no replay should need.

The two agree on the replay exactly for the journals of `compactJournal_transparent_iff`.
Compaction keeps every commit that some retained audio follows, however old it is, and with the old
audio gone nothing stops `findReplayStart` from walking back to it.
-/
namespace Tvic

open Lib

/-- A chunk of caller audio; `δ` is the type of durations. -/
structure InputAudioChunk (δ : Type) where
  bytes : List UInt8
  durationMs : δ
  deriving DecidableEq, Repr

/-- An entry of the journal. The code keeps references to entries and changes them through these;
`id` stands for the object, and for the promise of a commit. -/
inductive SttJournalEntry (δ : Type) where
  | audio (id : Nat) (chunk : InputAudioChunk δ) (offsetMs : δ) (admittedAtMs : Int)
      (dispatchedAtMs : Option Int)
  | commit (id : Nat) (admittedAtMs : Int) (settled : Bool)
  | agentContext (id : Nat) (version : Nat) (admittedAtMs : Int) (settled : Bool)
  deriving DecidableEq, Repr

namespace SttJournal

variable {δ : Type}

/-- The entries that are sent to a provider stream in order. -/
def isCommand : SttJournalEntry δ → Bool
  | .audio .. => true
  | .commit .. => true
  | .agentContext .. => false

def entryBytes : SttJournalEntry δ → Nat
  | .audio _ chunk _ _ _ => chunk.bytes.length
  | _ => 0

def journalBytes (journal : List (SttJournalEntry δ)) : Nat := (journal.map entryBytes).sum

/-- `(entry.dispatchedAtMs ?? entry.admittedAtMs) >= cutoff`, of an audio entry. -/
def isRecentAudio (cutoff : Int) : SttJournalEntry δ → Bool
  | .audio _ _ _ admittedAtMs dispatchedAtMs => cutoff ≤ dispatchedAtMs.getD admittedAtMs
  | _ => false

def isStaleAudio (cutoff : Int) : SttJournalEntry δ → Bool
  | .audio _ _ _ admittedAtMs dispatchedAtMs => dispatchedAtMs.getD admittedAtMs < cutoff
  | _ => false

def isAudio : SttJournalEntry δ → Bool
  | .audio .. => true
  | _ => false

def isCommit : SttJournalEntry δ → Bool
  | .commit .. => true
  | _ => false

def isSettledCommit : SttJournalEntry δ → Bool
  | .commit _ _ settled => settled
  | _ => false

def isSettledContext : SttJournalEntry δ → Bool
  | .agentContext _ _ _ settled => settled
  | _ => false

/-- The `while (start > 0)` loop of `findReplayStart`. -/
def walkBack (journal : List (SttJournalEntry δ)) (cutoff : Int) : Nat → Nat
  | 0 => 0
  | start + 1 =>
      match journal[start]? with
      | none => start + 1
      | some previous =>
        if isStaleAudio cutoff previous then start + 1 else walkBack journal cutoff start

def findReplayStart (journal : List (SttJournalEntry δ)) (cursor : Nat)
    (nowMs uncertainWindowMs : Int) : Nat :=
  walkBack journal (nowMs - uncertainWindowMs) cursor

/-- The positions in a journal that compaction moves. -/
structure CompactionResult where
  cursor : Nat
  replayStart : Nat
  replayBoundary : Nat
  deriving DecidableEq, Repr

section Compaction

variable (journal : List (SttJournalEntry δ)) (cursor : Nat) (cutoff : Int)

def lastSettledCommit : Option Nat :=
  journal.zipIdx.foldl (fun last entry => if isSettledCommit entry.1 then some entry.2 else last)
    none

/-- `retainAudio[index]` -/
def retainAudio (entry : SttJournalEntry δ) (index : Nat) : Bool :=
  isAudio entry && (decide (cursor ≤ index) || isRecentAudio cutoff entry)

/-- `retainedAudioAfter[index]` -/
def retainedAudioAfter (index : Nat) : Bool :=
  (journal.zipIdx.drop (index + 1)).any fun later => retainAudio cursor cutoff later.1 later.2

/-- Whether the function given to `flatMap` gives the index back. -/
def keepsEntry (entry : SttJournalEntry δ) (index : Nat) : Bool :=
  if isSettledContext entry then false
  else if cursor ≤ index ∨ retainAudio cursor cutoff entry index then true
  else isCommit entry &&
    (decide (lastSettledCommit journal = some index) ||
      retainedAudioAfter journal cursor cutoff index)

def keepsIndex (index : Nat) : Bool :=
  (journal[index]?).any fun entry => keepsEntry journal cursor cutoff entry index

def mapIndex (keptIndices : List Nat) (oldIndex : Nat) : Nat :=
  (keptIndices.takeWhile (· < oldIndex)).length

def compactJournal (replayStart replayBoundary : Nat) (nowMs uncertainWindowMs : Int) :
    List (SttJournalEntry δ) × CompactionResult :=
  let cutoff := nowMs - uncertainWindowMs
  let keptIndices := (List.range journal.length).filter (keepsIndex journal cursor cutoff)
  if keptIndices.length = journal.length then (journal, { cursor, replayStart, replayBoundary })
  else
    (keptIndices.filterMap fun index => journal[index]?,
      { cursor := mapIndex keptIndices cursor
        replayStart := mapIndex keptIndices replayStart
        replayBoundary := mapIndex keptIndices replayBoundary })

end Compaction

/-! ### What compaction does to a journal and to its positions -/

variable {journal : List (SttJournalEntry δ)} {cursor replayStart replayBoundary : Nat}
  {nowMs uncertainWindowMs : Int}

theorem compactJournal_fst :
    (compactJournal journal cursor replayStart replayBoundary nowMs uncertainWindowMs).1 =
      sieve (keepsIndex journal cursor (nowMs - uncertainWindowMs)) journal := by
  unfold compactJournal
  dsimp only
  split
  next all => exact (sieve_eq_self all).symm
  next => exact filterMap_kept _ journal

theorem place_eq (keep : Nat → Bool) {position : Nat} (le : position ≤ journal.length) :
    mapIndex (kept keep journal.length) position = (sieve keep (journal.take position)).length := by
  have placed := place_append keep (journal.take position) (journal.drop position)
  rwa [List.take_append_drop, List.length_take, Nat.min_eq_left le] at placed

theorem place_eq_self {keep : Nat → Bool} {position : Nat} (le : position ≤ journal.length)
    (all : (kept keep journal.length).length = journal.length) :
    (sieve keep (journal.take position)).length = position := by
  have whole := sieve_eq_self all
  rw [sieve_split keep le] at whole
  have lengths := congrArg List.length whole
  have first := (sieve_sublist keep (journal.take position)).length_le
  have second := (sieve_sublist (fun index => keep (position + index))
    (journal.drop position)).length_le
  simp only [List.length_append, List.length_take, List.length_drop] at lengths first second
  omega

theorem compactJournal_cursor (le : cursor ≤ journal.length) :
    (compactJournal journal cursor replayStart replayBoundary nowMs uncertainWindowMs).2.cursor =
      (sieve (keepsIndex journal cursor (nowMs - uncertainWindowMs))
        (journal.take cursor)).length := by
  unfold compactJournal
  dsimp only
  split
  next all => exact (place_eq_self le all).symm
  next => exact place_eq _ le

theorem mapIndex_zero (keptIndices : List Nat) : mapIndex keptIndices 0 = 0 := by
  cases keptIndices <;> simp [mapIndex]

theorem mapIndex_mono (keptIndices : List Nat) {low high : Nat} (le : low ≤ high) :
    mapIndex keptIndices low ≤ mapIndex keptIndices high := by
  unfold mapIndex
  induction keptIndices with
  | nil => exact Nat.le_refl _
  | cons index rest ih =>
    by_cases below : index < low
    · have below' : index < high := by omega
      simpa [below, below'] using ih
    · simp [below]

theorem compactJournal_places (journal : List (SttJournalEntry δ))
    (cursor replayStart replayBoundary : Nat) (nowMs uncertainWindowMs : Int) :
    ∃ place : Nat → Nat, (∀ low high, low ≤ high → place low ≤ place high) ∧ place 0 = 0 ∧
      (compactJournal journal cursor replayStart replayBoundary nowMs uncertainWindowMs).2 =
        ⟨place cursor, place replayStart, place replayBoundary⟩ := by
  unfold compactJournal
  dsimp only
  split
  · exact ⟨id, fun _ _ => id, rfl, rfl⟩
  · exact ⟨mapIndex _, fun _ _ => mapIndex_mono _, mapIndex_zero _, rfl⟩

/-! ### Which entries are kept -/

variable {cutoff : Int} {index : Nat} {entry : SttJournalEntry δ}

theorem keepsIndex_of_lt (found : journal[index]? = some entry) (before : index < cursor) :
    keepsIndex journal cursor cutoff index = (isRecentAudio cutoff entry || isCommit entry &&
      (decide (lastSettledCommit journal = some index) ||
        retainedAudioAfter journal cursor cutoff index)) := by
  have notYet : ¬ cursor ≤ index := by omega
  rw [keepsIndex, found, Option.any_some, keepsEntry]
  cases entry <;> simp [isSettledContext, retainAudio, isAudio, isRecentAudio, isCommit, notYet]

theorem keepsIndex_of_le (found : journal[index]? = some entry) (after : cursor ≤ index) :
    keepsIndex journal cursor cutoff index = !isSettledContext entry := by
  rw [keepsIndex, found, Option.any_some, keepsEntry]
  cases isSettledContext entry <;> simp [after]

theorem isStaleAudio_eq_false (recent : isRecentAudio cutoff entry = true) :
    isStaleAudio cutoff entry = false := by
  cases entry <;> simp_all [isRecentAudio, isStaleAudio]

/-- Compaction splits where the cursor was: behind it stands what was there, less the context
updates that are settled, and before it a part of what was there. -/
theorem compactJournal_split (le : cursor ≤ journal.length) :
    (compactJournal journal cursor replayStart replayBoundary nowMs uncertainWindowMs).1 =
      sieve (keepsIndex journal cursor (nowMs - uncertainWindowMs)) (journal.take cursor) ++
        (journal.drop cursor).filter fun entry => !isSettledContext entry := by
  rw [compactJournal_fst, sieve_split _ le]
  congr 1
  apply sieve_eq_filter
  intro index entry found
  rw [List.getElem?_drop] at found
  exact keepsIndex_of_le found (Nat.le_add_right cursor index)

/-! ### Where the walk back stops -/

theorem walkBack_le (journal : List (SttJournalEntry δ)) (cutoff : Int) (start : Nat) : walkBack journal cutoff start ≤ start := by
  induction start with
  | zero => exact Nat.le_refl 0
  | succ start ih =>
    rw [walkBack]
    split
    · exact Nat.le_refl _
    · split
      · exact Nat.le_refl _
      · exact Nat.le_succ_of_le ih

theorem walkBack_passed {start : Nat} (low : walkBack journal cutoff start ≤ index)
    (high : index < start) (found : journal[index]? = some entry) :
    isStaleAudio cutoff entry = false := by
  induction start with
  | zero => cases high
  | succ start ih =>
    rw [walkBack] at low
    split at low
    · omega
    next previous there =>
      split at low
      · omega
      next fresh =>
        by_cases last : index = start
        · subst last
          rw [there] at found
          cases found
          simpa using fresh
        · exact ih low (by omega)

theorem walkBack_stops (cutoff : Int) {start : Nat} (le : start ≤ journal.length) :
    walkBack journal cutoff start = 0 ∨ ∃ index entry, walkBack journal cutoff start = index + 1 ∧
      journal[index]? = some entry ∧ isStaleAudio cutoff entry = true := by
  induction start with
  | zero => exact .inl rfl
  | succ start ih =>
    rw [walkBack]
    split
    next missing =>
      rw [List.getElem?_eq_none_iff] at missing
      omega
    next previous there =>
      split
      next stale => exact .inr ⟨start, previous, rfl, there, stale⟩
      next => exact ih (by omega)

theorem walkBack_eq_zero {start : Nat} (le : start ≤ journal.length)
    (fresh : ∀ entry ∈ journal.take start, isStaleAudio cutoff entry = false) :
    walkBack journal cutoff start = 0 := by
  obtain zero | ⟨index, entry, stops, found, stale⟩ := walkBack_stops cutoff le
  · exact zero
  · have below := walkBack_le journal cutoff start
    have member : entry ∈ journal.take start := by
      refine List.mem_iff_getElem?.mpr ⟨index, ?_⟩
      rwa [List.getElem?_take_of_lt (by omega)]
    rw [fresh entry member] at stale
    cases stale

/-! ### The replay before and after compaction -/

/-- The audio and commit entries that a replay from here sends. -/
def replayed (journal : List (SttJournalEntry δ)) (start : Nat) : List (SttJournalEntry δ) :=
  (journal.drop start).filter isCommand

def StaleFollows (journal : List (SttJournalEntry δ)) (cursor : Nat) (cutoff : Int) (index : Nat) :
    Prop :=
  ∃ later entry, index < later ∧ later < cursor ∧ journal[later]? = some entry ∧
    isStaleAudio cutoff entry = true

/-- Audio follows that is recent or still to be sent. -/
def RetainedFollows (journal : List (SttJournalEntry δ)) (cursor : Nat) (cutoff : Int)
    (index : Nat) : Prop :=
  ∃ later entry, index < later ∧ journal[later]? = some entry ∧ isAudio entry = true ∧
    (cursor ≤ later ∨ isRecentAudio cutoff entry = true)

theorem retainedAudioAfter_iff :
    retainedAudioAfter journal cursor cutoff index = true ↔
      RetainedFollows journal cursor cutoff index := by
  unfold retainedAudioAfter RetainedFollows
  rw [List.any_eq_true]
  constructor
  · rintro ⟨⟨entry, later⟩, member, retained⟩
    obtain ⟨offset, found⟩ := List.mem_iff_getElem?.mp member
    rw [List.getElem?_drop, List.getElem?_zipIdx] at found
    obtain ⟨there, stands, same⟩ := Option.map_eq_some_iff.mp found
    obtain ⟨rfl, rfl⟩ := Prod.mk.inj same
    refine ⟨index + 1 + offset, there, by omega, stands, ?_⟩
    simpa [retainAudio] using retained
  · rintro ⟨later, entry, after, found, retained⟩
    refine ⟨(entry, later), ?_, by simpa [retainAudio] using retained⟩
    refine List.mem_iff_getElem?.mpr ⟨later - (index + 1), ?_⟩
    have position : index + 1 + (later - (index + 1)) = later := by omega
    simp [List.getElem?_drop, List.getElem?_zipIdx, position, found]

theorem lastSettledCommit_snoc (journal : List (SttJournalEntry δ)) (entry : SttJournalEntry δ) :
    lastSettledCommit (journal ++ [entry]) =
      if isSettledCommit entry then some journal.length else lastSettledCommit journal := by
  simp [lastSettledCommit, List.zipIdx_append, List.foldl_append]

theorem lastSettledCommit_eq_some (last : lastSettledCommit journal = some index) :
    (∃ entry, journal[index]? = some entry ∧ isSettledCommit entry = true) ∧
      ∀ later entry, index < later → journal[later]? = some entry →
        isSettledCommit entry = false := by
  induction journal using List.reverseRecOn with
  | nil => cases last
  | append_singleton journal newest ih =>
    rw [lastSettledCommit_snoc] at last
    split at last
    next settled =>
      obtain rfl := Option.some.inj last
      refine ⟨⟨newest, by simp, settled⟩, fun later entry after found => ?_⟩
      rw [List.getElem?_eq_none (by simp; omega)] at found
      cases found
    next unsettled =>
      obtain ⟨⟨entry, found, settled⟩, none⟩ := ih last
      have within := (List.getElem?_eq_some_iff.mp found).1
      refine ⟨⟨entry, by rwa [List.getElem?_append_left within], settled⟩, ?_⟩
      intro later other after found
      by_cases inside : later < journal.length
      · rw [List.getElem?_append_left inside] at found
        exact none later other after found
      · rw [List.getElem?_append_right (by omega)] at found
        obtain rfl := List.mem_singleton.mp (List.mem_of_getElem? found)
        simpa using unsettled

/-- What a replay at the same moment sends is the same with and without compaction. -/
def Transparent (journal : List (SttJournalEntry δ)) (cursor replayStart replayBoundary : Nat)
    (nowMs uncertainWindowMs : Int) : Prop :=
  let compacted := compactJournal journal cursor replayStart replayBoundary nowMs uncertainWindowMs
  replayed compacted.1 (findReplayStart compacted.1 compacted.2.cursor nowMs uncertainWindowMs) =
    replayed journal (findReplayStart journal cursor nowMs uncertainWindowMs)

/-- The journals whose replay compaction leaves alone. Before the cursor, no recent audio has stale
audio behind it, and a commit has stale audio behind it exactly where it is neither the last settled
one nor followed by audio that is retained. -/
structure ReplayKept (journal : List (SttJournalEntry δ)) (cursor : Nat) (cutoff : Int) : Prop where
  audio : ∀ index entry, index < cursor → journal[index]? = some entry →
    isRecentAudio cutoff entry = true → ¬ StaleFollows journal cursor cutoff index
  commit : ∀ index entry, index < cursor → journal[index]? = some entry →
    isCommit entry = true → (StaleFollows journal cursor cutoff index ↔
      ¬ (lastSettledCommit journal = some index ∨ RetainedFollows journal cursor cutoff index))

theorem lt_walkBack_iff (le : cursor ≤ journal.length) (found : journal[index]? = some entry)
    (before : index < cursor) :
    index < walkBack journal cutoff cursor ↔
      isStaleAudio cutoff entry = true ∨ StaleFollows journal cursor cutoff index := by
  constructor
  · intro low
    obtain zero | ⟨stop, stale, stops, there, isStale⟩ := walkBack_stops cutoff le
    · omega
    · have below := walkBack_le journal cutoff cursor
      by_cases same : index = stop
      · subst same
        rw [found] at there
        cases there
        exact .inl isStale
      · exact .inr ⟨stop, stale, by omega, by omega, there, isStale⟩
  · intro stale
    by_contra high
    obtain isStale | ⟨later, other, after, early, there, isStale⟩ := stale
    · rw [walkBack_passed (by omega) before found] at isStale
      cases isStale
    · rw [walkBack_passed (by omega) early there] at isStale
      cases isStale

theorem isCommand_of_isAudio (audio : isAudio entry = true) : isCommand entry = true := by
  cases entry <;> simp_all [isAudio, isCommand]

theorem isAudio_of_recent (recent : isRecentAudio cutoff entry = true) : isAudio entry = true := by
  cases entry <;> simp_all [isAudio, isRecentAudio]

theorem findReplayStart_compacted (le : cursor ≤ journal.length) :
    findReplayStart
      (compactJournal journal cursor replayStart replayBoundary nowMs uncertainWindowMs).1
      (compactJournal journal cursor replayStart replayBoundary nowMs uncertainWindowMs).2.cursor
      nowMs uncertainWindowMs = 0 := by
  rw [compactJournal_cursor le, compactJournal_split le, findReplayStart]
  apply walkBack_eq_zero
  · simp
  · rw [List.take_left']
    · intro entry member
      obtain ⟨index, found, holds⟩ := mem_sieve.mp member
      rw [List.getElem?_take] at found
      split at found
      next before =>
        rw [keepsIndex_of_lt found before] at holds
        cases entry <;> simp_all [isRecentAudio, isCommit, isStaleAudio]
      · cases found
    · rfl

theorem split_at {list : List (SttJournalEntry δ)} (stands : list[index]? = some entry) :
    ∃ front back, list = front ++ entry :: back ∧ front.length = index := by
  obtain ⟨within, rfl⟩ := List.getElem?_eq_some_iff.mp stands
  refine ⟨list.take index, list.drop (index + 1), ?_, ?_⟩
  · rw [← List.drop_eq_getElem_cons within, List.take_append_drop]
  · rw [List.length_take]
    omega

/-- If what is kept up to the stop, with what is kept from there to the cursor, is what the walk
passed, then nothing is kept up to the stop. -/
theorem nothing_before_stop {start : Nat} (low : start ≤ cursor)
    (fresh : ∀ index entry, start ≤ index → index < cursor → journal[index]? = some entry →
      isStaleAudio cutoff entry = false)
    (same : (sieve (keepsIndex journal cursor cutoff) (journal.take start)).filter isCommand ++
        (sieve (fun index => keepsIndex journal cursor cutoff (start + index))
          ((journal.take cursor).drop start)).filter isCommand =
      ((journal.take cursor).drop start).filter isCommand) :
    (sieve (keepsIndex journal cursor cutoff) (journal.take start)).filter isCommand = [] := by
  have audioOnly : ∀ list : List (SttJournalEntry δ),
      (list.filter isCommand).filter isAudio = list.filter isAudio := by
    intro list
    rw [List.filter_filter]
    congr 1
    funext entry
    cases entry <;> rfl
  have between : ∀ {index entry}, ((journal.take cursor).drop start)[index]? = some entry →
      journal[start + index]? = some entry ∧ start + index < cursor := by
    intro index entry found
    rw [List.getElem?_drop, List.getElem?_take] at found
    split at found
    next before => exact ⟨found, before⟩
    · cases found
  have sounds : ∀ {index entry}, ((journal.take cursor).drop start)[index]? = some entry →
      isAudio entry = true → keepsIndex journal cursor cutoff (start + index) = true := by
    intro index entry found audio
    obtain ⟨found, before⟩ := between found
    have notStale := fresh _ entry (Nat.le_add_right ..) before found
    rw [keepsIndex_of_lt found before]
    cases entry with
    | audio =>
      simp only [isStaleAudio, decide_eq_false_iff_not, Int.not_lt] at notStale
      simp [isRecentAudio, notStale]
    | commit | agentContext => cases audio
  have silent : ∀ entry ∈ (sieve (keepsIndex journal cursor cutoff) (journal.take start)).filter
      isCommand, isAudio entry = false := by
    have counted := congrArg (List.filter isAudio) same
    rw [List.filter_append, audioOnly, audioOnly, audioOnly,
      filter_sieve_iff.mpr fun index entry => sounds] at counted
    have none := List.append_cancel_right (counted.trans (List.nil_append _).symm)
    intro entry member
    rw [List.filter_eq_nil_iff] at none
    simpa using none entry (List.mem_filter.mp member).1
  by_contra nonempty
  obtain ⟨first, others, starts⟩ := List.exists_cons_of_ne_nil nonempty
  have member : first ∈ (sieve (keepsIndex journal cursor cutoff) (journal.take start)).filter
      isCommand := by simp [starts]
  have quiet := silent first member
  obtain ⟨⟨index, found, holds⟩, command⟩ := (List.mem_filter.mp member).imp_left mem_sieve.mp
  rw [List.getElem?_take] at found
  split at found
  case isFalse => cases found
  case isTrue before =>
  rw [keepsIndex_of_lt found (by omega)] at holds
  have kept : lastSettledCommit journal = some index ∨
      RetainedFollows journal cursor cutoff index := by
    rw [← retainedAudioAfter_iff]
    cases first with
    | audio => cases quiet
    | agentContext => cases command
    | commit => simpa [isRecentAudio, isCommit] using holds
  rcases kept with last | ⟨later, audio, after, there, sound, retained⟩
  · -- the same settled commit would stand further on, as the head of what the walk passed
    obtain ⟨⟨commit, found', settled⟩, noLater⟩ := lastSettledCommit_eq_some last
    rw [found] at found'
    cases found'
    have passed : first ∈ ((journal.take cursor).drop start).filter isCommand := by
      rw [← same, starts]
      simp
    obtain ⟨position, stands⟩ := List.mem_iff_getElem?.mp (List.mem_filter.mp passed).1
    rw [noLater _ first (by omega) (between stands).1] at settled
    cases settled
  · have earlier : ∀ {position entry}, ((journal.take cursor).drop start)[position]? = some entry →
        start + position < later → isCommand entry = true →
        keepsIndex journal cursor cutoff (start + position) = true := by
      intro position entry stands sooner command
      cases heard : isAudio entry with
      | true => exact sounds stands heard
      | false =>
        obtain ⟨found, before⟩ := between stands
        have follows : retainedAudioAfter journal cursor cutoff (start + position) = true :=
          retainedAudioAfter_iff.mpr ⟨later, audio, sooner, there, sound, retained⟩
        rw [keepsIndex_of_lt found before]
        cases entry with
        | audio => cases heard
        | agentContext => cases command
        | commit => simp [isCommit, follows]
    by_cases ahead : cursor ≤ later
    · -- everything the walk passed is kept, so nothing can stand before it
      rw [(@filter_sieve_iff _ fun position => keepsIndex journal cursor cutoff (start + position)).mpr
        fun position entry stands => earlier stands (by have := (between stands).2; omega)] at same
      exact nonempty (List.append_cancel_right (same.trans (List.nil_append _).symm))
    · have recent : isRecentAudio cutoff audio = true := retained.resolve_left ahead
      have keeps : keepsIndex journal cursor cutoff later = true := by
        rw [keepsIndex_of_lt there (by omega), recent, Bool.true_or]
      by_cases early : later < start
      · have inFront : audio ∈ (sieve (keepsIndex journal cursor cutoff)
            (journal.take start)).filter isCommand :=
          List.mem_filter.mpr ⟨mem_sieve.mpr ⟨later, by rwa [List.getElem?_take_of_lt early], keeps⟩,
            isCommand_of_isAudio sound⟩
        rw [silent audio inFront] at sound
        cases sound
      · -- up to the audio everything passed is kept, so what stands before it shifts the audio
        obtain ⟨position, rfl⟩ := Nat.exists_eq_add_of_le (Nat.le_of_not_lt early)
        have stands : ((journal.take cursor).drop start)[position]? = some audio := by
          rwa [List.getElem?_drop, List.getElem?_take_of_lt (by omega)]
        obtain ⟨front, back, parts, rfl⟩ := split_at stands
        have whole : (sieve (fun position => keepsIndex journal cursor cutoff (start + position))
            front).filter isCommand = front.filter isCommand := by
          rw [filter_sieve_iff]
          intro position entry found
          have within := (List.getElem?_eq_some_iff.mp found).1
          refine earlier ?_ (by omega)
          rwa [parts, List.getElem?_append_left within]
        rw [parts, sieve_append, List.filter_append, List.filter_append, whole, sieve] at same
        simp only [Nat.add_zero, keeps, if_true, List.singleton_append, List.filter_cons,
          isCommand_of_isAudio sound] at same
        exact nonempty (eq_nil_of_shift silent sound same)

theorem transparent_iff_kept (le : cursor ≤ journal.length) :
    Transparent journal cursor replayStart replayBoundary nowMs uncertainWindowMs ↔
      ∀ index entry, index < cursor → journal[index]? = some entry → isCommand entry = true →
        (keepsIndex journal cursor (nowMs - uncertainWindowMs) index = true ↔
          walkBack journal (nowMs - uncertainWindowMs) cursor ≤ index) := by
  unfold Transparent
  dsimp only
  rw [findReplayStart_compacted le, compactJournal_split le, findReplayStart]
  generalize nowMs - uncertainWindowMs = cutoff
  have low := walkBack_le journal cutoff cursor
  generalize stop : walkBack journal cutoff cursor = start at low ⊢
  generalize keeping : keepsIndex journal cursor cutoff = keep
  have early : start ≤ (journal.take cursor).length := by
    rw [List.length_take]
    omega
  -- the replays are what is kept on either side of the stop, and what the walk passed
  have behind : journal.drop start = (journal.take cursor).drop start ++ journal.drop cursor := by
    conv_lhs => rw [← List.take_append_drop cursor journal]
    exact List.drop_append_of_le_length early
  have rest : ((journal.drop cursor).filter fun entry => !isSettledContext entry).filter isCommand =
      (journal.drop cursor).filter isCommand := by
    rw [List.filter_filter]
    congr 1
    funext entry
    cases entry <;> rfl
  rw [replayed, replayed, List.drop_zero, behind, List.filter_append, List.filter_append, rest,
    List.append_left_inj, sieve_split keep early, List.filter_append, List.take_take,
    Nat.min_eq_left low]
  subst keeping
  have lookup : ∀ {index entry}, index < start → journal[index]? = some entry →
      (journal.take start)[index]? = some entry := by
    intro index entry before found
    rwa [List.getElem?_take_of_lt before]
  have lookup' : ∀ {index entry}, start ≤ index → index < cursor → journal[index]? = some entry →
      ((journal.take cursor).drop start)[index - start]? = some entry := by
    intro index entry late before found
    rwa [List.getElem?_drop, Nat.add_sub_cancel' late, List.getElem?_take_of_lt before]
  constructor
  · intro same
    have none := nothing_before_stop low (fun index entry late before found =>
      walkBack_passed (stop ▸ late) before found) same
    rw [none, List.nil_append, filter_sieve_iff] at same
    intro index entry before found command
    constructor
    · intro holds
      by_contra high
      have member := List.mem_filter.mpr
        ⟨mem_sieve.mpr ⟨index, lookup (by omega) found, holds⟩, command⟩
      rw [none] at member
      cases member
    · intro late
      have holds := same (index - start) entry (lookup' late before found) command
      rwa [Nat.add_sub_cancel' late] at holds
  · intro exactly
    have none : (sieve (keepsIndex journal cursor cutoff) (journal.take start)).filter isCommand =
        [] := by
      rw [List.filter_eq_nil_iff]
      intro entry member command
      obtain ⟨index, found, holds⟩ := mem_sieve.mp member
      rw [List.getElem?_take] at found
      split at found
      next before =>
        have late := (exactly index entry (by omega) found command).mp holds
        omega
      · cases found
    rw [none, List.nil_append, filter_sieve_iff]
    intro index entry found command
    rw [List.getElem?_drop, List.getElem?_take] at found
    split at found
    next before => exact (exactly _ entry before found command).mpr (Nat.le_add_right ..)
    · cases found

/-- Compacting a journal leaves the replay at that moment as it was if and only if the journal is
one whose old commands were out of the replay's reach already and whose young ones all stay. -/
theorem compactJournal_transparent_iff (le : cursor ≤ journal.length) :
    Transparent journal cursor replayStart replayBoundary nowMs uncertainWindowMs ↔
      ReplayKept journal cursor (nowMs - uncertainWindowMs) := by
  rw [transparent_iff_kept le]
  generalize nowMs - uncertainWindowMs = cutoff
  have reaches : ∀ {index entry}, index < cursor → journal[index]? = some entry →
      (walkBack journal cutoff cursor ≤ index ↔
        ¬ (isStaleAudio cutoff entry = true ∨ StaleFollows journal cursor cutoff index)) := by
    intro index entry before found
    rw [← lt_walkBack_iff le found before, Nat.not_lt]
  constructor
  · intro exactly
    constructor
    · intro index entry before found recent stale
      have command := isCommand_of_isAudio (isAudio_of_recent recent)
      have keeps : keepsIndex journal cursor cutoff index = true := by
        rw [keepsIndex_of_lt found before, recent, Bool.true_or]
      have reached := (exactly index entry before found command).mp keeps
      exact (reaches before found).mp reached (.inr stale)
    · intro index entry before found commit
      have agrees := exactly index entry before found (by cases entry <;> simp_all [isCommit, isCommand])
      rw [reaches before found, keepsIndex_of_lt found before] at agrees
      rw [← retainedAudioAfter_iff]
      cases entry <;> simp_all [isCommit, isStaleAudio, isRecentAudio]
  · intro kept index entry before found command
    rw [reaches before found, keepsIndex_of_lt found before]
    cases entry with
    | audio id chunk offsetMs admittedAtMs dispatchedAtMs =>
      by_cases recent : isRecentAudio cutoff
          (.audio id chunk offsetMs admittedAtMs dispatchedAtMs) = true
      · simp [recent, isStaleAudio_eq_false recent, kept.audio index _ before found recent]
      · simp_all [isRecentAudio, isStaleAudio, isCommit]
    | commit id admittedAtMs settled =>
      have exactly := kept.commit index _ before found rfl
      rw [← retainedAudioAfter_iff] at exactly
      simp [isCommit, isStaleAudio, isRecentAudio, exactly, or_iff_not_imp_left]
    | agentContext => cases command

/-- Old audio, a commit, recent audio: the stream of a caller who paused. -/
def pausedJournal : List (SttJournalEntry Nat) :=
  [.audio 0 ⟨[1], 20⟩ 0 0 (some 0), .commit 1 0 true, .audio 2 ⟨[2], 20⟩ 20 100 (some 100)]

theorem compactJournal_transparent_iff_paused :
    Transparent pausedJournal 3 3 0 105 10 ↔ ReplayKept pausedJournal 3 95 :=
  compactJournal_transparent_iff (by decide)

/-- A commit, old audio, recent audio: the walk stops at the old audio, but once that is dropped the
commit is replayed too. -/
theorem old_commit_replayed :
    ¬ ∀ (journal : List (SttJournalEntry Nat)) (cursor : Nat) (nowMs uncertainWindowMs : Int),
      cursor ≤ journal.length →
      Transparent journal cursor cursor 0 nowMs uncertainWindowMs := by
  intro transparent
  have same := transparent
    [.commit 0 0 true, .audio 1 ⟨[1], 20⟩ 0 0 (some 0), .audio 2 ⟨[2], 20⟩ 20 100 (some 100)]
    3 105 10 (by decide)
  revert same
  unfold Transparent
  decide

end SttJournal

end Tvic
