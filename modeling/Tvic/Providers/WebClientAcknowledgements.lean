import Tvic.Lib.MapTotals
import Tvic.Providers.WebClientPlayout

/-!
# Confirmed playout of a web client

A call of `confirmPlayout` comes to `true` only for a commit that was written and acknowledged afterwards with
nothing dropped in between, and one call takes an acknowledgement, or all those that wait for it do. No call that
waits misses an acknowledgement as long as no timer fires on a commit for which somebody else still waits: that
timer makes the record `timed_out` for everybody.
-/
namespace Tvic.WebClientAudioCallHandle

open Lib PlayoutLog InsertionMap

/-- An entry that takes nothing from a commit. -/
def Quiet (markId : Text) (entry : PlayoutEntry) : Prop :=
  entry ≠ .dropped ∧ ∀ call, entry ≠ .settled call markId true

/-- The commit has been written, and neither dropped nor confirmed since. -/
def Live (markId : Text) : List PlayoutEntry → Prop :=
  SinceLast (· = .written markId) (Quiet markId)

/-- A commit that was live has been acknowledged, and neither dropped nor confirmed since. -/
def Acked (markId : Text) (log : List PlayoutEntry) : Prop :=
  ∃ written after, log = written ++ .acked markId :: after ∧ Live markId written ∧
    ∀ entry ∈ after, Quiet markId entry

/-- A commit that was live has just been acknowledged, and those that waited for it are told, among them the
call. -/
def AckedWith (call : Nat) (markId : Text) (log : List PlayoutEntry) : Prop :=
  ∃ written burst, log = written ++ .acked markId :: burst ∧ Live markId written ∧
    .called call markId ∈ written ∧
    ∀ entry ∈ burst, ∃ other, entry = .settled other markId true ∧ .called other markId ∈ written

def Confirms (call : Nat) (markId : Text) (log : List PlayoutEntry) : Prop :=
  Acked markId log ∨ AckedWith call markId log

variable {call : Nat}

theorem quiet_of_false {markId : Text} (mark : Text) :
    Quiet mark (.settled call markId false) :=
  ⟨nofun, nofun⟩

theorem quiet_of_other {markId mark : Text} (ne : mark ≠ markId) :
    Quiet mark (.settled call markId true) :=
  ⟨nofun, fun _ same => ne (by cases same; rfl)⟩

theorem Acked.append {markId : Text} {log extra : List PlayoutEntry} (acked : Acked markId log)
    (quiet : ∀ entry ∈ extra, Quiet markId entry) : Acked markId (log ++ extra) := by
  obtain ⟨written, after, rfl, live, still⟩ := acked
  refine ⟨written, after ++ extra, by simp, live, fun entry member => ?_⟩
  rcases List.mem_append.mp member with early | late
  · exact still entry early
  · exact quiet entry late

def Stands (markId : Text) (state : AckState) (log : List PlayoutEntry) : Prop :=
  if state = .acked then Acked markId log else Live markId log

theorem Stands.append {markId : Text} {state : AckState} {log extra : List PlayoutEntry}
    (stands : Stands markId state log) (quiet : ∀ entry ∈ extra, Quiet markId entry) :
    Stands markId state (log ++ extra) := by
  unfold Stands at stands ⊢
  split
  next acked => exact Acked.append (by rwa [if_pos acked] at stands) quiet
  next other => exact SinceLast.append (by rwa [if_neg other] at stands) quiet

/-- The handle between two steps. -/
structure Inv (maxPendingAcks : Nat) (s : WebClientAudioCallHandle) : Prop where
  keys : (keys s.ackRecords).Nodup
  bounded : s.ackRecords.length ≤ maxPendingAcks
  stands : ∀ markId record, s.ackRecords.get markId = some record → Stands markId record.state s.log
  waiting : ∀ call markId, s.calls[call]? = some ⟨markId, none⟩ ↔
    ∃ waiters, s.waiters.get markId = some waiters ∧ call ∈ waiters
  queued : ∀ markId waiters, s.waiters.get markId = some waiters →
    waiters ≠ [] ∧ waiters.Nodup ∧ ∃ record, s.ackRecords.get markId = some record ∧ record.state ≠ .acked
  closed : s.closed = true → s.waiters = []
  told : Told Confirms s.calls s.log

def Attended (s : WebClientAudioCallHandle) : Prop :=
  ∀ markId waiters, s.waiters.get markId = some waiters →
    ∃ record, s.ackRecords.get markId = some record ∧ record.state = .pending

variable {maxPendingAcks : Nat} {s : WebClientAudioCallHandle}

theorem inv_initial : Inv maxPendingAcks {} where
  keys := List.nodup_nil
  bounded := Nat.zero_le _
  stands := nofun
  waiting _ _ := by simp
  queued := nofun
  closed _ := rfl
  told := told_nil

/-! ## Records and waiters -/

variable {record : AckRecord}

theorem get_timeOutRecord (records : InsertionMap Text AckRecord) (markId other : Text) (nowMs : ℚ)
    (found : (timeOutRecord records markId nowMs).get other = some record) :
    records.get other = some record ∨
      other = markId ∧ record.state = .timedOut ∧
        ∃ old, records.get markId = some old ∧ old.state = .pending := by
  unfold timeOutRecord at found
  split at found
  · exact .inl found
  next old held =>
    split at found
    next pending =>
      by_cases same : other = markId
      · subst same
        rw [get_set_self] at found
        cases found
        exact .inr ⟨rfl, rfl, old, held, pending⟩
      · rw [get_set_of_ne _ same] at found
        exact .inl found
    · exact .inl found

theorem get_timeOutRecord_of_ne (records : InsertionMap Text AckRecord) {markId other : Text} (nowMs : ℚ)
    (ne : other ≠ markId) : (timeOutRecord records markId nowMs).get other = records.get other := by
  unfold timeOutRecord
  split
  · rfl
  · split
    · rw [get_set_of_ne _ ne]
    · rfl

theorem get_timeOutRecord_of_get {records : InsertionMap Text AckRecord} {markId other : Text}
    (nowMs : ℚ) (found : records.get other = some record) (open' : record.state ≠ .acked) :
    ∃ later, (timeOutRecord records markId nowMs).get other = some later ∧ later.state ≠ .acked := by
  by_cases same : other = markId
  · subst same
    rw [timeOutRecord, found]
    dsimp only
    split
    · exact ⟨_, get_set_self .., by simp⟩
    · exact ⟨record, found, open'⟩
  · exact ⟨record, by rw [get_timeOutRecord_of_ne _ _ same, found], open'⟩

theorem keys_timeOutRecord {records : InsertionMap Text AckRecord} (unique : (keys records).Nodup)
    (markId : Text) (nowMs : ℚ) : (keys (timeOutRecord records markId nowMs)).Nodup := by
  unfold timeOutRecord
  split
  · exact unique
  · split
    · exact keys_set_nodup unique ..
    · exact unique

theorem length_timeOutRecord (records : InsertionMap Text AckRecord) (markId : Text) (nowMs : ℚ) :
    (timeOutRecord records markId nowMs).length = records.length := by
  unfold timeOutRecord
  split
  · rfl
  next record found =>
    split
    · exact length_set_of_has (has_of_get found) _
    · rfl

theorem get_removeWaiter_of_ne (waiters : InsertionMap Text (List Nat)) {markId other : Text} (call : Nat)
    (ne : other ≠ markId) : (removeWaiter waiters markId call).get other = waiters.get other := by
  unfold removeWaiter
  split
  · rfl
  · split
    · exact get_delete_of_ne _ ne
    · exact get_set_of_ne _ ne _

theorem get_removeWaiter (waiters : InsertionMap Text (List Nat)) (markId : Text) (call : Nat)
    (rest : List Nat) :
    (removeWaiter waiters markId call).get markId = some rest ↔
      ∃ calls, waiters.get markId = some calls ∧ rest = calls.filter (· ≠ call) ∧ rest ≠ [] := by
  unfold removeWaiter
  split
  next absent => simp [absent]
  next calls found =>
    split
    next alone =>
      rw [get_delete_self, found]
      simp only [reduceCtorEq, Option.some.injEq, false_iff]
      rintro ⟨_, rfl, rfl, others⟩
      exact others alone
    next others =>
      rw [get_set_self, found]
      simp only [Option.some.injEq]
      constructor
      · rintro rfl
        exact ⟨calls, rfl, rfl, others⟩
      · rintro ⟨_, rfl, rfl, -⟩
        rfl

/-! ## What the parts of a step preserve -/

theorem Inv.prune (held : Inv maxPendingAcks s) (nowMs : ℚ) :
    Inv maxPendingAcks (s.pruneAckRecords nowMs) :=
  { held with
    keys := keys_filter_nodup held.keys _
    bounded := Nat.le_trans (List.length_filter_le ..) held.bounded
    stands := by
      intro markId record found
      rw [pruneAckRecords, get_filter held.keys] at found
      exact held.stands markId record (Option.filter_eq_some_iff.mp found).1
    queued := by
      intro markId waiters found
      obtain ⟨some', unique, record, there, open'⟩ := held.queued markId waiters found
      have awaited : s.waiters.has markId = true := has_of_get found
      refine ⟨some', unique, record, ?_, open'⟩
      rw [pruneAckRecords, get_filter held.keys, there]
      simp [awaited] }

theorem get_prune_of_waiters (held : Inv maxPendingAcks s) (nowMs : ℚ) {markId : Text} {waiters : List Nat}
    (found : s.waiters.get markId = some waiters) :
    (s.pruneAckRecords nowMs).ackRecords.get markId = s.ackRecords.get markId := by
  obtain ⟨-, -, record, there, -⟩ := held.queued markId waiters found
  rw [pruneAckRecords, get_filter held.keys, there]
  simp [has_of_get found]

theorem Inv.note (held : Inv maxPendingAcks s) {entry : PlayoutEntry}
    (quiet : ∀ markId, Quiet markId entry) (noCall : ∀ call markId, entry ≠ .called call markId)
    (noSettlement : ∀ call markId acked, entry ≠ .settled call markId acked) :
    Inv maxPendingAcks (s.note entry) :=
  { held with
    stands := fun markId record found =>
      (held.stands markId record found).append (by simp [quiet markId])
    told := held.told.note noCall noSettlement }

theorem finish_of_waiting {markId : Text} (waiting : s.calls[call]? = some ⟨markId, none⟩)
    (nowMs : ℚ) (acked : Bool) :
    s.finish nowMs call acked =
      { s with
        waiters := removeWaiter s.waiters markId call
        ackRecords :=
          if acked then s.ackRecords.delete markId else timeOutRecord s.ackRecords markId nowMs
        calls := s.calls.set call ⟨markId, some acked⟩
        log := s.log ++ [.settled call markId acked] } := by
  rw [finish, waiting]

theorem finish_of_settled (settled : ∀ markId, s.calls[call]? ≠ some ⟨markId, none⟩) (nowMs : ℚ)
    (acked : Bool) : s.finish nowMs call acked = s := by
  unfold finish
  split
  next markId waiting => exact absurd waiting (settled markId)
  · rfl

theorem Inv.finish_false (held : Inv maxPendingAcks s) (nowMs : ℚ) (call : Nat) :
    Inv maxPendingAcks (s.finish nowMs call false) := by
  by_cases any : ∃ markId, s.calls[call]? = some ⟨markId, none⟩
  swap
  · rwa [finish_of_settled (not_exists.mp any)]
  obtain ⟨markId, waiting⟩ := any
  have inside := (List.getElem?_eq_some_iff.mp waiting).1
  obtain ⟨waiters, found, listed⟩ := (held.waiting call markId).mp waiting
  rw [finish_of_waiting waiting]
  constructor
  case keys => exact keys_timeOutRecord held.keys ..
  case bounded => exact (length_timeOutRecord ..).trans_le held.bounded
  case stands =>
    intro other record there
    have quiet : ∀ entry ∈ [PlayoutEntry.settled call markId false], Quiet other entry := by
      simpa using quiet_of_false other
    rcases get_timeOutRecord s.ackRecords markId other nowMs there with same | ⟨rfl, late, old, was, pending⟩
    · exact (held.stands other record same).append quiet
    · -- a commit that times out is as live as before
      have live := (held.stands other old was).append quiet
      rw [Stands, pending, if_neg (by decide)] at live
      rw [late, Stands, if_neg (by decide)]
      exact live
  case waiting =>
    intro other mark
    rw [List.getElem?_set]
    by_cases same : call = other
    · subst same
      rw [if_pos rfl, if_pos inside]
      by_cases own : mark = markId
      · subst own
        simp [get_removeWaiter]
      · rw [get_removeWaiter_of_ne _ _ own, ← held.waiting, waiting]
        simp [Ne.symm own]
    · rw [if_neg same, held.waiting]
      by_cases own : mark = markId
      · subst own
        simp only [get_removeWaiter, found, Option.some.injEq, exists_eq_left']
        constructor
        · intro member
          have kept : other ∈ waiters.filter (· ≠ call) := by simp [member, Ne.symm same]
          exact ⟨_, ⟨rfl, List.ne_nil_of_mem kept⟩, kept⟩
        · rintro ⟨_, ⟨rfl, -⟩, member⟩
          exact (List.mem_filter.mp member).1
      · rw [get_removeWaiter_of_ne _ _ own]
  case queued =>
    intro other rest there
    by_cases own : other = markId
    · subst own
      obtain ⟨calls, held', rfl, others⟩ := (get_removeWaiter ..).mp there
      obtain ⟨-, unique, record, recorded, open'⟩ := held.queued other calls held'
      exact ⟨others, unique.filter _, get_timeOutRecord_of_get nowMs recorded open'⟩
    · rw [get_removeWaiter_of_ne _ _ own] at there
      obtain ⟨others, unique, record, recorded, open'⟩ := held.queued other rest there
      exact ⟨others, unique, get_timeOutRecord_of_get nowMs recorded open'⟩
  case closed =>
    intro closed
    rw [held.closed closed] at found
    cases found
  case told => exact held.told.settle waiting (by simp)

theorem waiting_finish {nowMs : ℚ} {call other : Nat} {markId : Text} {acked : Bool}
    (waiting : (s.finish nowMs call acked).calls[other]? = some ⟨markId, none⟩) :
    s.calls[other]? = some ⟨markId, none⟩ ∧ other ≠ call := by
  by_cases any : ∃ markId, s.calls[call]? = some ⟨markId, none⟩
  · obtain ⟨mark, was⟩ := any
    rw [finish_of_waiting was] at waiting
    dsimp only at waiting
    rw [List.getElem?_set] at waiting
    split_ifs at waiting with same inside
    · cases waiting
    · exact ⟨waiting, Ne.symm same⟩
  · rw [finish_of_settled (not_exists.mp any)] at waiting
    refine ⟨waiting, ?_⟩
    rintro rfl
    exact any ⟨markId, waiting⟩

theorem waiting_finishAll {nowMs : ℚ} {finished : List Nat} {other : Nat} {markId : Text} {acked : Bool}
    (waiting : (s.finishAll nowMs finished acked).calls[other]? = some ⟨markId, none⟩) :
    s.calls[other]? = some ⟨markId, none⟩ ∧ other ∉ finished := by
  induction finished generalizing s with
  | nil => exact ⟨waiting, List.not_mem_nil⟩
  | cons call rest ih =>
    obtain ⟨before, later⟩ := ih waiting
    obtain ⟨before, ne⟩ := waiting_finish before
    exact ⟨before, fun listed => (List.mem_cons.mp listed).elim ne later⟩

theorem Inv.finishAll_false (held : Inv maxPendingAcks s) (nowMs : ℚ) (finished : List Nat) :
    Inv maxPendingAcks (s.finishAll nowMs finished false) := by
  induction finished generalizing s with
  | nil => exact held
  | cons call rest ih => exact ih (held.finish_false nowMs call)

theorem Inv.settled_of_invalidated (held : Inv maxPendingAcks s) (nowMs : ℚ) (call : Nat) (markId : Text) :
    (s.finishAll nowMs s.waiters.values.flatten false).calls[call]? ≠ some ⟨markId, none⟩ := by
  intro waiting
  obtain ⟨before, unlisted⟩ := waiting_finishAll waiting
  obtain ⟨waiters, found, member⟩ := (held.waiting call markId).mp before
  refine unlisted (List.mem_flatten.mpr ⟨waiters, ?_, member⟩)
  exact List.mem_map.mpr ⟨_, mem_of_get found, rfl⟩

theorem Inv.invalidate (held : Inv maxPendingAcks s) (nowMs : ℚ) :
    Inv maxPendingAcks (s.invalidateAcknowledgements nowMs) where
  keys := List.nodup_nil
  bounded := Nat.zero_le _
  stands := nofun
  waiting call markId := by
    have nobody := held.settled_of_invalidated nowMs call markId
    simpa [invalidateAcknowledgements, WebClientAudioCallHandle.note] using nobody
  queued := nofun
  closed _ := rfl
  told := (held.finishAll_false nowMs _).told.note nofun nofun

theorem finishAll_records (records : InsertionMap Text AckRecord) (nowMs : ℚ) (finished : List Nat)
    (acked : Bool) : ∃ later, { s with ackRecords := records }.finishAll nowMs finished acked =
      { s.finishAll nowMs finished acked with ackRecords := later } := by
  induction finished generalizing s records with
  | nil => exact ⟨records, rfl⟩
  | cons call rest ih =>
    by_cases any : ∃ markId, s.calls[call]? = some ⟨markId, none⟩
    · obtain ⟨markId, waiting⟩ := any
      have own : { s with ackRecords := records }.calls[call]? = some ⟨markId, none⟩ := waiting
      rw [finishAll, List.foldl_cons, finish_of_waiting own, finishAll, List.foldl_cons,
        finish_of_waiting waiting]
      exact @ih { s with
        waiters := removeWaiter s.waiters markId call
        ackRecords :=
          if acked then s.ackRecords.delete markId else timeOutRecord s.ackRecords markId nowMs
        calls := s.calls.set call ⟨markId, some acked⟩
        log := s.log ++ [.settled call markId acked] } _
    · have settled := not_exists.mp any
      have own : ∀ markId, { s with ackRecords := records }.calls[call]? ≠ some ⟨markId, none⟩ := settled
      rw [finishAll, List.foldl_cons, finish_of_settled own, finishAll, List.foldl_cons,
        finish_of_settled settled]
      exact ih records

theorem invalidate_records (records : InsertionMap Text AckRecord) (nowMs : ℚ) :
    { s with ackRecords := records }.invalidateAcknowledgements nowMs = s.invalidateAcknowledgements nowMs := by
  obtain ⟨later, same⟩ := finishAll_records records nowMs s.waiters.values.flatten false
  rw [invalidateAcknowledgements, invalidateAcknowledgements, same]

section

variable (held : Inv maxPendingAcks s)
include held

theorem Inv.closeEvents (nowMs : ℚ) :
    Inv maxPendingAcks (s.closeEvents nowMs) := by
  rw [WebClientAudioCallHandle.closeEvents]
  split_ifs
  · exact held
  · have empty := held.invalidate nowMs
    exact { empty with closed := fun _ => rfl }

theorem Inv.ledger (sequence : Nat) :
    Inv maxPendingAcks { s with nextOutputSequence := sequence } := ⟨held.1, held.2, held.3, held.4,
  held.5, held.6, held.7⟩

theorem Inv.sendAudio (sequence : Number) (nowMs : ℚ) (write : FrameWrite) :
    Inv maxPendingAcks (s.sendAudio sequence nowMs write) := by
  unfold WebClientAudioCallHandle.sendAudio
  split
  · exact held
  · split
    · exact held
    · split
      · exact held
      · cases write with
        | written => exact held.ledger _
        | refused => exact held
        | overLimit => exact held.closeEvents nowMs

theorem Inv.clear (nowMs : ℚ) (write : FrameWrite) :
    Inv maxPendingAcks (s.clear nowMs write) := by
  unfold WebClientAudioCallHandle.clear
  split
  · exact held
  · have empty := held.invalidate nowMs
    cases write with
    | written => exact empty.ledger _
    | refused => exact empty.closeEvents nowMs
    | overLimit => exact empty.closeEvents nowMs

theorem Inv.written {commitId : Text} (absent : s.ackRecords.get commitId = none)
    (room : s.ackRecords.length < maxPendingAcks) (expiresAt : ℚ) :
    Inv maxPendingAcks
      ({ s with ackRecords := s.ackRecords.set commitId ⟨.pending, expiresAt⟩ }.note (.written commitId)) where
  keys := keys_set_nodup held.keys ..
  bounded := Nat.le_trans (length_set_le ..) room
  stands := by
    intro markId record found
    by_cases same : markId = commitId
    · subst same
      obtain rfl : ⟨.pending, expiresAt⟩ = record := by
        simpa [WebClientAudioCallHandle.note] using found
      exact SinceLast.of_opens s.log rfl
    · have old : s.ackRecords.get markId = some record := by
        rwa [WebClientAudioCallHandle.note, get_set_of_ne _ same] at found
      exact (held.stands markId record old).append (by simp [Quiet])
  waiting := held.waiting
  queued := by
    intro markId waiters found
    obtain ⟨others, unique, record, there, open'⟩ := held.queued markId waiters found
    have ne : markId ≠ commitId := by
      rintro rfl
      rw [absent] at there
      cases there
    exact ⟨others, unique, record, (get_set_of_ne _ ne _).trans there, open'⟩
  closed := held.closed
  told := held.told.note nofun nofun

theorem Inv.sendCommit (commitId : Text) (start finish : Number) (pruneMs nowMs : ℚ)
    (write : FrameWrite) :
    Inv maxPendingAcks (s.sendCommit maxPendingAcks commitId start finish pruneMs nowMs write) := by
  unfold WebClientAudioCallHandle.sendCommit
  split
  · exact held
  next opened =>
    have pruned := held.prune pruneMs
    have opened : ¬ (s.pruneAckRecords pruneMs).closed = true := opened
    generalize s.pruneAckRecords pruneMs = s at pruned opened
    dsimp only
    split
    · exact pruned
    · split
      · exact pruned
      next free =>
        split
        · exact pruned.closeEvents nowMs
        next room =>
          have absent : s.ackRecords.get commitId = none :=
            get_eq_none.mpr fun member => free (.inr (has_eq_true.mpr member))
          cases write with
          | written => exact (pruned.written absent (Nat.lt_of_not_le room) _).ledger _
          | refused =>
            -- the record that nobody has seen is taken back
            have back : (s.ackRecords.set commitId ⟨.pending, nowMs + WEB_CLIENT_AUDIO_ACK_RETENTION_MS⟩).delete
                commitId = s.ackRecords := by
              rw [delete_set, delete_of_get_eq_none absent]
            dsimp only
            rw [back]
            exact pruned
          | overLimit =>
            have closed := pruned.closeEvents nowMs
            rw [WebClientAudioCallHandle.closeEvents, invalidate_records]
            rw [WebClientAudioCallHandle.closeEvents] at closed
            split_ifs at closed ⊢ with was
            · exact absurd was opened
            · exact closed

end

/-! ## An acknowledgement -/

theorem finishAll_true {markId : Text} {waiters : List Nat} (unique : waiters.Nodup) (others : waiters ≠ [])
    (queue : s.waiters.get markId = some waiters)
    (waiting : ∀ call ∈ waiters, s.calls[call]? = some ⟨markId, none⟩) (nowMs : ℚ) :
    s.finishAll nowMs waiters true =
      { s with
        waiters := s.waiters.delete markId
        ackRecords := s.ackRecords.delete markId
        calls := waiters.foldl (fun calls call => calls.set call ⟨markId, some true⟩) s.calls
        log := s.log ++ waiters.map (.settled · markId true) } := by
  induction waiters generalizing s with
  | nil => exact absurd rfl others
  | cons call rest ih =>
    obtain ⟨fresh, unique⟩ := List.nodup_cons.mp unique
    have kept : (call :: rest).filter (· ≠ call) = rest := by
      rw [List.filter_cons_of_neg (by simp), List.filter_eq_self]
      intro other member
      have ne : other ≠ call := fun same => fresh (same ▸ member)
      simpa using ne
    rw [finishAll, List.foldl_cons, finish_of_waiting (waiting call (by simp)), removeWaiter, queue]
    dsimp only
    rw [kept]
    by_cases last : rest = []
    · subst last
      rw [if_pos rfl]
      rfl
    · rw [if_neg last]
      -- the next one finds a record that is gone and a queue without its predecessor
      have tail := @ih { s with
        waiters := s.waiters.set markId rest
        ackRecords := s.ackRecords.delete markId
        calls := s.calls.set call ⟨markId, some true⟩
        log := s.log ++ [.settled call markId true] } unique last (get_set_self ..) (by
          intro other member
          have ne : call ≠ other := fun same => fresh (same ▸ member)
          dsimp only
          rw [List.getElem?_set_ne ne]
          exact waiting other (List.mem_cons_of_mem _ member))
      rw [finishAll] at tail
      simpa [delete_set, delete_delete] using tail

variable {calls : List PlayoutCall}

theorem getElem?_tellAll {markId : Text} {waiters : List Nat}
    (inside : ∀ call ∈ waiters, call < calls.length) (other : Nat) :
    (waiters.foldl (fun calls call => calls.set call ⟨markId, some true⟩) calls)[other]? =
      if other ∈ waiters then some ⟨markId, some true⟩ else calls[other]? := by
  induction waiters generalizing calls with
  | nil => simp
  | cons call rest ih =>
    have later : ∀ next ∈ rest, next < (calls.set call ⟨markId, some true⟩).length := by
      intro next member
      rw [List.length_set]
      exact inside next (List.mem_cons_of_mem _ member)
    rw [List.foldl_cons, ih later, List.getElem?_set]
    by_cases own : call = other
    · subst own
      simp [inside call (by simp)]
    · simp [own, Ne.symm own]

theorem told_burst {markId : Text} {waiters : List Nat} {written burst : List PlayoutEntry}
    (told : Told Confirms calls (written ++ .acked markId :: burst)) (live : Live markId written)
    (unique : waiters.Nodup) (waiting : ∀ call ∈ waiters, calls[call]? = some ⟨markId, none⟩)
    (asked : ∀ call ∈ waiters, .called call markId ∈ written)
    (tells : ∀ entry ∈ burst, ∃ other, entry = .settled other markId true ∧ .called other markId ∈ written)
    :
    
    Told Confirms (waiters.foldl (fun calls call => calls.set call ⟨markId, some true⟩) calls)
      (written ++ .acked markId :: burst ++ waiters.map (.settled · markId true)) := by
  induction waiters generalizing calls burst with
  | nil => simpa using told
  | cons call rest ih =>
    obtain ⟨fresh, unique⟩ := List.nodup_cons.mp unique
    have confirmed : Confirms call markId (written ++ .acked markId :: burst) :=
      .inr ⟨written, burst, rfl, live, asked call (by simp), tells⟩
    have next := @Told.settle _ _ _ told call markId true (waiting call (by simp)) fun _ => confirmed
    rw [List.append_assoc, List.cons_append] at next
    have rest := ih next unique
      (by
        intro other member
        have ne : call ≠ other := fun same => fresh (same ▸ member)
        rw [List.getElem?_set_ne ne]
        exact waiting other (List.mem_cons_of_mem _ member))
      (fun other member => asked other (List.mem_cons_of_mem _ member))
      (by
        intro entry member
        rcases List.mem_append.mp member with early | last
        · exact tells entry early
        · exact ⟨call, List.mem_singleton.mp last, asked call (by simp)⟩)
    simpa using rest

section

variable (held : Inv maxPendingAcks s)
include held

theorem Inv.acknowledged {markId : Text} (found : s.ackRecords.get markId = some record)
    (pending : record.state = .pending) (nobody : s.waiters.get markId = none) (expiresAt : ℚ) :
    Inv maxPendingAcks
      { s with
        ackRecords := s.ackRecords.set markId ⟨.acked, expiresAt⟩
        log := s.log ++ [.acked markId] } where
  keys := keys_set_nodup held.keys ..
  bounded := (length_set_of_has (has_of_get found) _).trans_le held.bounded
  stands := by
    intro other later there
    by_cases same : other = markId
    · subst same
      obtain rfl : ⟨.acked, expiresAt⟩ = later := by simpa using there
      have live := held.stands other record found
      rw [Stands, pending, if_neg (by decide)] at live
      exact ⟨s.log, [], rfl, live, by simp⟩
    · dsimp only at there
      rw [get_set_of_ne _ same] at there
      exact (held.stands other later there).append (by simp [Quiet])
  waiting := held.waiting
  queued := by
    intro other waiters queue
    have ne : other ≠ markId := by
      rintro rfl
      rw [nobody] at queue
      cases queue
    obtain ⟨others, unique, old, there, open'⟩ := held.queued other waiters queue
    exact ⟨others, unique, old, (get_set_of_ne _ ne _).trans there, open'⟩
  closed := held.closed
  told := held.told.note nofun nofun

theorem Inv.burst {markId : Text} {waiters : List Nat}
    (found : s.ackRecords.get markId = some record) (pending : record.state = .pending)
    (queue : s.waiters.get markId = some waiters) :
    Inv maxPendingAcks
      { s with
        waiters := s.waiters.delete markId
        ackRecords := s.ackRecords.delete markId
        calls := waiters.foldl (fun calls call => calls.set call ⟨markId, some true⟩) s.calls
        log := s.log ++ .acked markId :: waiters.map (.settled · markId true) } := by
  obtain ⟨others, unique, -⟩ := held.queued markId waiters queue
  have waiting : ∀ call ∈ waiters, s.calls[call]? = some ⟨markId, none⟩ :=
    fun call member => (held.waiting call markId).mpr ⟨waiters, queue, member⟩
  have inside : ∀ call ∈ waiters, call < s.calls.length :=
    fun call member => (List.getElem?_eq_some_iff.mp (waiting call member)).1
  have live := held.stands markId record found
  rw [Stands, pending, if_neg (by decide)] at live
  constructor
  case keys => exact keys_delete_nodup held.keys _
  case bounded => exact Nat.le_trans (List.length_filter_le ..) held.bounded
  case stands =>
    intro other later there
    have ne : other ≠ markId := by
      rintro rfl
      rw [get_delete_self] at there
      cases there
    rw [get_delete_of_ne _ ne] at there
    refine (held.stands other later there).append fun entry member => ?_
    rcases List.mem_cons.mp member with rfl | told
    · exact ⟨nofun, nofun⟩
    · obtain ⟨call, -, rfl⟩ := List.mem_map.mp told
      exact quiet_of_other ne
  case waiting =>
    intro call mark
    rw [getElem?_tellAll inside]
    by_cases own : mark = markId
    · subst own
      rw [get_delete_self]
      by_cases listed : call ∈ waiters
      · simp [listed]
      · have idle := (held.waiting call mark).not.mpr (by
          rintro ⟨_, there, member⟩
          rw [queue] at there
          cases there
          exact listed member)
        simp [listed, idle]
    · rw [get_delete_of_ne _ own, ← held.waiting]
      by_cases listed : call ∈ waiters
      · simp [listed, waiting call listed, Ne.symm own]
      · simp [listed]
  case queued =>
    intro other queue' there
    have ne : other ≠ markId := by
      rintro rfl
      rw [get_delete_self] at there
      cases there
    rw [get_delete_of_ne _ ne] at there
    rw [get_delete_of_ne _ ne]
    exact held.queued other queue' there
  case closed =>
    intro closed
    rw [held.closed closed] at queue
    cases queue
  case told =>
    have acked : Told Confirms s.calls (s.log ++ [.acked markId]) := held.told.note nofun nofun
    have asked : ∀ call ∈ waiters, .called call markId ∈ s.log :=
      fun call member => (held.told.called call markId).mpr ⟨none, waiting call member⟩
    have burst := told_burst acked live unique waiting asked (by simp)
    simpa using burst

theorem Inv.resolveAck (markId : Text) (pruneMs nowMs : ℚ) :
    Inv maxPendingAcks (s.resolveAck markId pruneMs nowMs) := by
  unfold WebClientAudioCallHandle.resolveAck
  split
  · exact held
  · have pruned := held.prune pruneMs
    generalize s.pruneAckRecords pruneMs = s at pruned
    have noted : Inv maxPendingAcks (s.note (.acked markId)) :=
      pruned.note (fun _ => ⟨by simp, by simp⟩) (by simp) (by simp)
    dsimp only
    split
    · exact noted
    next record found =>
      have found : s.ackRecords.get markId = some record := found
      split_ifs with other
      · exact noted
      · have pending : record.state = .pending := not_not.mp other
        split
        next nobody => exact pruned.acknowledged found pending nobody _
        next waiters queue =>
          have queue : s.waiters.get markId = some waiters := queue
          obtain ⟨others, unique, -⟩ := pruned.queued markId waiters queue
          have told := @finishAll_true { s.note (.acked markId) with
            ackRecords := s.ackRecords.set markId ⟨.acked, nowMs + WEB_CLIENT_AUDIO_ACK_RETENTION_MS⟩ }
            markId waiters unique others queue
            (fun call member => (pruned.waiting call markId).mpr ⟨waiters, queue, member⟩) nowMs
          refine (congrArg (Inv maxPendingAcks) told).mpr ?_
          have burst := pruned.burst found pending queue
          simpa [WebClientAudioCallHandle.note, delete_set] using burst

theorem resolveAck_waiting (attended : Attended s) {markId : Text}
    (waiting : s.calls[call]? = some ⟨markId, none⟩) (pruneMs nowMs : ℚ) :
    (s.resolveAck markId pruneMs nowMs).calls[call]? = some ⟨markId, some true⟩ := by
  obtain ⟨waiters, queue, listed⟩ := (held.waiting call markId).mp waiting
  obtain ⟨record, found, pending⟩ := attended markId waiters queue
  obtain ⟨others, unique, -⟩ := held.queued markId waiters queue
  have opened : ¬ s.closed = true := by
    intro closed
    rw [held.closed closed] at queue
    cases queue
  have waits : ∀ call ∈ waiters, s.calls[call]? = some ⟨markId, none⟩ :=
    fun call member => (held.waiting call markId).mpr ⟨waiters, queue, member⟩
  have inside : ∀ call ∈ waiters, call < s.calls.length :=
    fun call member => (List.getElem?_eq_some_iff.mp (waits call member)).1
  have there : ((s.pruneAckRecords pruneMs).note (.acked markId)).ackRecords.get markId = some record :=
    (get_prune_of_waiters held pruneMs queue).trans found
  have queue' : ((s.pruneAckRecords pruneMs).note (.acked markId)).waiters.get markId = some waiters := queue
  rw [WebClientAudioCallHandle.resolveAck, if_neg opened]
  dsimp only
  rw [there]
  dsimp only
  rw [if_neg (not_not.mpr pending), queue']
  dsimp only
  have told := @finishAll_true { (s.pruneAckRecords pruneMs).note (.acked markId) with
    ackRecords := ((s.pruneAckRecords pruneMs).note (.acked markId)).ackRecords.set markId
      ⟨.acked, nowMs + WEB_CLIENT_AUDIO_ACK_RETENTION_MS⟩ } markId waiters unique others queue waits nowMs
  rw [told]
  exact (getElem?_tellAll inside call).trans (if_pos listed)

end

/-! ## A call -/

theorem waiting_append {markId mark : Text} {acked : Bool} :
    (calls ++ [⟨markId, some acked⟩])[call]? = some ⟨mark, none⟩ ↔ calls[call]? = some ⟨mark, none⟩ := by
  rcases Nat.lt_trichotomy call calls.length with early | rfl | late
  · rw [List.getElem?_append_left early]
  · simp
  · rw [List.getElem?_eq_none (by simp; omega), List.getElem?_eq_none (Nat.le_of_lt late)]

theorem waiting_call {markId mark : Text} :
    (calls ++ [⟨markId, none⟩])[call]? = some ⟨mark, none⟩ ↔
      calls[call]? = some ⟨mark, none⟩ ∨ call = calls.length ∧ mark = markId := by
  rcases Nat.lt_trichotomy call calls.length with early | rfl | late
  · rw [List.getElem?_append_left early]
    simp [Nat.ne_of_lt early]
  · simp [eq_comm]
  · rw [List.getElem?_eq_none (by simp; omega), List.getElem?_eq_none (Nat.le_of_lt late)]
    simp [Nat.ne_of_gt late]

section

variable (held : Inv maxPendingAcks s)
include held

theorem Inv.answer (markId : Text) {acked : Bool}
    (taken : acked = true → s.ackRecords.get markId = none) (confirmed : acked = true →
      Confirms s.calls.length markId (s.log ++ [.called s.calls.length markId])) :
    Inv maxPendingAcks ((s.note (.called s.calls.length markId)).answer markId acked) :=
  { held with
    stands := by
      intro other record found
      have quiet : Quiet other (.settled s.calls.length markId acked) := by
        cases acked with
        | false => exact quiet_of_false other
        | true =>
          have absent := taken rfl
          refine quiet_of_other ?_
          rintro rfl
          have found : s.ackRecords.get other = some record := found
          rw [absent] at found
          cases found
      have called := (held.stands other record found).append
        (List.forall_mem_singleton.mpr (⟨nofun, nofun⟩ : Quiet other (.called s.calls.length markId)))
      exact called.append (List.forall_mem_singleton.mpr quiet)
    waiting := fun call mark => waiting_append.trans (held.waiting call mark)
    told := held.told.answer confirmed }

theorem Inv.take {markId : Text} (found : s.ackRecords.get markId = some record)
    (acked : record.state = .acked) :
    Inv maxPendingAcks { s with ackRecords := s.ackRecords.delete markId } :=
  { held with
    keys := keys_delete_nodup held.keys _
    bounded := Nat.le_trans (List.length_filter_le ..) held.bounded
    stands := by
      intro other later there
      have ne : other ≠ markId := by
        rintro rfl
        rw [get_delete_self] at there
        cases there
      rw [get_delete_of_ne _ ne] at there
      exact held.stands other later there
    queued := by
      intro other waiters queue
      obtain ⟨others, unique, old, there, open'⟩ := held.queued other waiters queue
      have ne : other ≠ markId := by
        rintro rfl
        rw [found] at there
        cases there
        exact open' acked
      exact ⟨others, unique, old, (get_delete_of_ne _ ne).trans there, open'⟩ }

theorem Inv.wait {markId : Text} (found : s.ackRecords.get markId = some record)
    (open' : record.state ≠ .acked) (opened : ¬ s.closed = true) :
    Inv maxPendingAcks ((s.note (.called s.calls.length markId)).wait markId) := by
  have fresh : ∀ waiters, s.waiters.get markId = some waiters → s.calls.length ∉ waiters := by
    intro waiters queue listed
    have waits := (held.waiting s.calls.length markId).mpr ⟨waiters, queue, listed⟩
    simp at waits
  constructor
  case keys => exact held.keys
  case bounded => exact held.bounded
  case stands =>
    intro other later there
    exact (held.stands other later there).append (by simp [Quiet])
  case waiting =>
    intro call mark
    refine waiting_call.trans ?_
    dsimp only [WebClientAudioCallHandle.wait, WebClientAudioCallHandle.note]
    rw [held.waiting]
    by_cases own : mark = markId
    · subst own
      rw [get_set_self]
      cases s.waiters.get mark <;> simp
    · rw [get_set_of_ne _ own]
      simp [own]
  case queued =>
    intro other waiters queue
    by_cases own : other = markId
    · subst own
      refine ⟨?_, ?_, record, found, open'⟩
      · obtain rfl : _ = waiters := Option.some.inj ((get_set_self ..).symm.trans queue)
        simp
      · obtain rfl : _ = waiters := Option.some.inj ((get_set_self ..).symm.trans queue)
        dsimp only [WebClientAudioCallHandle.note]
        cases earlier : s.waiters.get other with
        | none => simp
        | some waiters =>
          rw [Option.getD_some, List.nodup_append]
          refine ⟨(held.queued other waiters earlier).2.1, by simp, ?_⟩
          rintro call listed new only rfl
          rw [List.mem_singleton] at only
          exact fresh waiters earlier (only ▸ listed)
    · have old : s.waiters.get other = some waiters := (get_set_of_ne _ own _).symm.trans queue
      exact held.queued other waiters old
  case closed => exact fun closed => absurd closed opened
  case told => exact held.told.call markId

theorem Inv.confirmPlayout (markId : Text) (nowMs : ℚ) :
    Inv maxPendingAcks (s.confirmPlayout markId nowMs) := by
  unfold WebClientAudioCallHandle.confirmPlayout
  have pruned := held.prune nowMs
  change Inv maxPendingAcks (s.pruneAckRecords nowMs) at pruned
  have same : s.calls.length = (s.pruneAckRecords nowMs).calls.length := rfl
  rw [same]
  generalize s.pruneAckRecords nowMs = s at pruned
  dsimp only
  split
  · exact pruned.answer markId nofun nofun
  next record found =>
    have found : s.ackRecords.get markId = some record := found
    split_ifs with late acked
    · exact pruned.answer markId nofun nofun
    · -- the acknowledgement has come before the call
      have told := pruned.stands markId record found
      rw [Stands, if_pos acked] at told
      exact (pruned.take found acked).answer markId (fun _ => get_delete_self ..)
        fun _ => .inl (told.append (List.forall_mem_singleton.mpr ⟨nofun, nofun⟩))
    · exact pruned.wait found acked fun closed => late (.inr closed)

theorem Inv.step (playoutStep : PlayoutStep) :
    Inv maxPendingAcks (s.step maxPendingAcks playoutStep) := by
  cases playoutStep with
  | sendAudio sequence nowMs write => exact held.sendAudio sequence nowMs write
  | sendCommit commitId start finish pruneMs nowMs write =>
    exact held.sendCommit commitId start finish pruneMs nowMs write
  | clear nowMs write => exact held.clear nowMs write
  | close nowMs => exact held.closeEvents nowMs
  | ack commitId pruneMs nowMs => exact held.resolveAck commitId pruneMs nowMs
  | confirmPlayout markId nowMs => exact held.confirmPlayout markId nowMs
  | timeout call nowMs => exact held.finish_false nowMs call

end

theorem Inv.run (steps : List PlayoutStep) :
    Inv maxPendingAcks (Lib.run (WebClientAudioCallHandle.step maxPendingAcks) {} steps) :=
  run_invariant _ (Inv maxPendingAcks) (fun _ playoutStep held => held.step playoutStep) {} inv_initial steps

/-! ## Whoever waits is attended -/

theorem attended_of_no_waiters (nobody : s.waiters = []) : Attended s := by
  intro markId waiters queue
  rw [nobody] at queue
  cases queue

section

variable (attended : Attended s)
include attended

theorem Attended.prune (held : Inv maxPendingAcks s) (nowMs : ℚ) :
    Attended (s.pruneAckRecords nowMs) := by
  intro markId waiters queue
  have queue : s.waiters.get markId = some waiters := queue
  rw [get_prune_of_waiters held nowMs queue]
  exact attended markId waiters queue

theorem Attended.closeEvents (nowMs : ℚ) : Attended (s.closeEvents nowMs) := by
  rw [WebClientAudioCallHandle.closeEvents]
  split_ifs
  · exact attended
  · exact attended_of_no_waiters rfl

theorem Attended.sendCommit (held : Inv maxPendingAcks s) (commitId : Text) (start finish : Number)
    (pruneMs nowMs : ℚ) (write : FrameWrite) :
    Attended (s.sendCommit maxPendingAcks commitId start finish pruneMs nowMs write) := by
  unfold WebClientAudioCallHandle.sendCommit
  split
  · exact attended
  · have pruned := attended.prune held pruneMs
    generalize s.pruneAckRecords pruneMs = s at pruned
    dsimp only
    split
    · exact pruned
    · split
      · exact pruned
      next free =>
        split
        · exact pruned.closeEvents nowMs
        · have absent : s.ackRecords.get commitId = none :=
            get_eq_none.mpr fun member => free (.inr (has_eq_true.mpr member))
          -- nobody waits for a commit that is not there
          have apart : ∀ markId waiters, s.waiters.get markId = some waiters → markId ≠ commitId := by
            rintro markId waiters queue rfl
            obtain ⟨record, there, -⟩ := pruned markId waiters queue
            rw [absent] at there
            cases there
          cases write with
          | written =>
            intro markId waiters queue
            obtain ⟨record, there, pending⟩ := pruned markId waiters queue
            exact ⟨record, (get_set_of_ne _ (apart markId waiters queue) _).trans there, pending⟩
          | refused =>
            intro markId waiters queue
            obtain ⟨record, there, pending⟩ := pruned markId waiters queue
            refine ⟨record, ?_, pending⟩
            dsimp only
            rwa [delete_set, delete_of_get_eq_none absent]
          | overLimit =>
            intro markId waiters queue
            dsimp only at queue ⊢
            rw [WebClientAudioCallHandle.closeEvents] at queue ⊢
            split_ifs at queue ⊢ with closed
            · obtain ⟨record, there, pending⟩ := pruned markId waiters queue
              refine ⟨record, ?_, pending⟩
              dsimp only
              rwa [delete_set, delete_of_get_eq_none absent]
            · cases queue

theorem Attended.resolveAck (held : Inv maxPendingAcks s) (markId : Text) (pruneMs nowMs : ℚ) :
    Attended (s.resolveAck markId pruneMs nowMs) := by
  unfold WebClientAudioCallHandle.resolveAck
  split
  · exact attended
  · have pruned := attended.prune held pruneMs
    have held := held.prune pruneMs
    generalize s.pruneAckRecords pruneMs = s at pruned held
    dsimp only
    split
    · exact pruned
    · split
      · exact pruned
      · split
        next nobody =>
          intro other waiters queue
          have queue : s.waiters.get other = some waiters := queue
          have nobody : s.waiters.get markId = none := nobody
          obtain ⟨record, there, pending⟩ := pruned other waiters queue
          have ne : other ≠ markId := by
            rintro rfl
            cases nobody.symm.trans queue
          exact ⟨record, (get_set_of_ne _ ne _).trans there, pending⟩
        next waiters queue =>
          have queue : s.waiters.get markId = some waiters := queue
          obtain ⟨others, unique, -⟩ := held.queued markId waiters queue
          have told := @finishAll_true { s.note (.acked markId) with
            ackRecords := s.ackRecords.set markId ⟨.acked, nowMs + WEB_CLIENT_AUDIO_ACK_RETENTION_MS⟩ }
            markId waiters unique others queue
            (fun call member => (held.waiting call markId).mpr ⟨waiters, queue, member⟩) nowMs
          refine (congrArg Attended told).mpr ?_
          intro other waiters' there
          have ne : other ≠ markId := by
            rintro rfl
            rw [get_delete_self] at there
            cases there
          rw [get_delete_of_ne _ ne] at there
          obtain ⟨record, recorded, pending⟩ := pruned other waiters' there
          refine ⟨record, ?_, pending⟩
          dsimp only
          rw [delete_set, get_delete_of_ne _ ne, recorded]

theorem Attended.confirmPlayout (held : Inv maxPendingAcks s) (markId : Text) (nowMs : ℚ) :
    Attended (s.confirmPlayout markId nowMs) := by
  unfold WebClientAudioCallHandle.confirmPlayout
  have pruned := attended.prune held nowMs
  generalize s.pruneAckRecords nowMs = pruned' at pruned
  dsimp only
  split
  · exact pruned
  next record found =>
    have found : pruned'.ackRecords.get markId = some record := found
    split_ifs with late acked
    · exact pruned
    · intro other waiters queue
      obtain ⟨old, there, pending⟩ := pruned other waiters queue
      have ne : other ≠ markId := by
        rintro rfl
        rw [found] at there
        cases there
        rw [acked] at pending
        cases pending
      exact ⟨old, (get_delete_of_ne _ ne).trans there, pending⟩
    · intro other waiters queue
      by_cases own : other = markId
      · subst own
        refine ⟨record, found, ?_⟩
        cases state : record.state with
        | pending => rfl
        | acked => exact absurd state acked
        | timedOut => exact absurd (.inl state) late
      · have queue : pruned'.waiters.get other = some waiters := (get_set_of_ne _ own _).symm.trans queue
        exact pruned other waiters queue

theorem Attended.timeout (held : Inv maxPendingAcks s) {nowMs : ℚ}
    (undisturbed : Undisturbed s (.timeout call nowMs)) : Attended (s.finish nowMs call false) := by
  by_cases any : ∃ markId, s.calls[call]? = some ⟨markId, none⟩
  swap
  · rwa [finish_of_settled (not_exists.mp any)]
  obtain ⟨markId, waiting⟩ := any
  rw [finish_of_waiting waiting]
  intro other rest queue
  by_cases own : other = markId
  · subst own
    obtain ⟨waiters, before, rfl, others⟩ := (get_removeWaiter ..).mp queue
    obtain ⟨left, listed⟩ := List.exists_mem_of_ne_nil _ others
    obtain ⟨listed, ne⟩ := List.mem_filter.mp listed
    have alone := undisturbed other left waiting ((held.waiting left other).mpr ⟨waiters, before, listed⟩)
    simp [alone] at ne
  · rw [get_removeWaiter_of_ne _ _ own] at queue
    obtain ⟨record, there, pending⟩ := attended other rest queue
    exact ⟨record, (get_timeOutRecord_of_ne _ _ own).trans there, pending⟩

theorem Attended.step (held : Inv maxPendingAcks s) {playoutStep : PlayoutStep}
    (undisturbed : Undisturbed s playoutStep) : Attended (s.step maxPendingAcks playoutStep) := by
  cases playoutStep with
  | sendAudio sequence nowMs write =>
    change Attended (s.sendAudio sequence nowMs write)
    unfold sendAudio
    split
    · exact attended
    · split
      · exact attended
      · split
        · exact attended
        · cases write with
          | written => exact attended
          | refused => exact attended
          | overLimit => exact attended.closeEvents nowMs
  | sendCommit commitId start finish pruneMs nowMs write =>
    exact attended.sendCommit held commitId start finish pruneMs nowMs write
  | clear nowMs write =>
    change Attended (s.clear nowMs write)
    unfold clear
    split
    · exact attended
    · have empty : Attended (s.invalidateAcknowledgements nowMs) := attended_of_no_waiters rfl
      cases write with
      | written => exact empty
      | refused => exact empty.closeEvents nowMs
      | overLimit => exact empty.closeEvents nowMs
  | close nowMs => exact attended.closeEvents nowMs
  | ack commitId pruneMs nowMs => exact attended.resolveAck held commitId pruneMs nowMs
  | confirmPlayout markId nowMs => exact attended.confirmPlayout held markId nowMs
  | timeout call nowMs => exact attended.timeout held undisturbed

end

/-! ## Every run -/

theorem Live.written_of_told {markId : Text} {before between : List PlayoutEntry}
    (live : Live markId (before ++ .settled call markId true :: between)) :
    .written markId ∈ between := by
  obtain ⟨early, entry, late, rfl, rfl, -⟩ :=
    live.exists_between (fun quiet => quiet.2 call rfl) (by simp)
  simp

theorem Confirms.together {first second : Nat} {markId : Text} {before between : List PlayoutEntry}
    (confirmed : Confirms second markId (before ++ .settled first markId true :: between))
    (unwritten : .written markId ∉ between) :
    ∃ written burst, before = written ++ .acked markId :: burst ∧ .called first markId ∈ written ∧
      .called second markId ∈ written := by
  rcases confirmed with ⟨written, after, split, live, still⟩ | ⟨written, burst, split, live, asked, tells⟩
  · rcases List.append_eq_append_iff.mp split with ⟨mid, rfl, tail⟩ | ⟨mid, rfl, tail⟩
    · cases mid with
      | nil => cases tail
      | cons entry mid =>
        obtain ⟨rfl, rfl⟩ := List.cons.inj tail
        exact absurd (List.mem_append_left _ live.written_of_told) unwritten
    · cases mid with
      | nil => cases tail
      | cons entry mid =>
        obtain ⟨rfl, rfl⟩ := List.cons.inj tail
        exact absurd rfl ((still _ (by simp)).2 first)
  · rcases List.append_eq_append_iff.mp split with ⟨mid, rfl, tail⟩ | ⟨mid, rfl, tail⟩
    · cases mid with
      | nil => cases tail
      | cons entry mid =>
        obtain ⟨rfl, rfl⟩ := List.cons.inj tail
        exact absurd (List.mem_append_left _ live.written_of_told) unwritten
    · cases mid with
      | nil => cases tail
      | cons entry mid =>
        obtain ⟨rfl, rfl⟩ := List.cons.inj tail
        obtain ⟨other, same, there⟩ := tells (.settled first markId true) (by simp)
        cases same
        exact ⟨written, mid, rfl, there, asked⟩

end Tvic.WebClientAudioCallHandle
