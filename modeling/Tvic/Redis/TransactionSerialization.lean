import Tvic.Redis.Transaction

/-!
# When Redis session transactions serialize

Two calls of `runSessionTransaction` on one session under one lease, their reads and commits in any
order. A commit checks the keys it writes against what the call has read of them, and nothing
else: `transactions_serialize` for the runs in which nothing else it read has changed, `writeSkew`
for the runs in which something has.
-/
namespace Tvic.Redis.TransactionSerialization

open Lib

variable {S T C η χ τ : Type}

/-- The commit of a call as a step of the race: applied, or refused with the database as it was. -/
def commit? (sessionId : SessionId) (lease : LeaseIdentity) (now : Nat) (prepared : Prepared τ)
    (db : RedisDb) : Option RedisDb :=
  match commit sessionId lease now prepared db with
  | (.ok _, db) => some db
  | (.error _, _) => none

/-- The key is written with what was read of it as its expected value. -/
def Validates (prepared : Prepared τ) (seen : Σ what : RedisRead, what.Reply) : Prop :=
  ∃ fence value writes, prepared = .ok (fence, value, writes) ∧
    ∃ write ∈ writes, (∃ raw, write.expectedValue = .value raw ∧
        seen = ⟨.get write.key, .ok (some raw)⟩) ∨
      write.expectedValue = .absent ∧ seen = ⟨.get write.key, .ok none⟩

/-! ### The commit -/

theorem fencedTransaction_cases (db : RedisDb) (now : Nat) (sessionId : SessionId)
    (holder : String) (fence : Nat) (generationId : String) (writes : List RedisWrite) :
    (∃ reply, reply ≠ .committed ∧
      fencedTransaction db now sessionId holder fence generationId writes = (reply, db)) ∨
    writes.findSome? (expectedReply db) = none ∧
      fencedTransaction db now sessionId holder fence generationId writes =
        (.committed, commitRecords db [] writes) := by
  have lease : leaseReply db now sessionId holder fence generationId ≠ some .committed := by
    unfold leaseReply
    split
    · simp
    · simp
    · split
      · simp
      · split
        · simp
        · split <;> simp
  have index : writes.findSome? (indexReply db) ≠ some .committed := by
    intro found
    obtain ⟨write, -, reply⟩ := List.exists_of_findSome?_eq_some found
    simp only [indexReply] at reply
    split at reply
    · cases reply
    · split at reply
      · cases reply
      · split at reply <;> cases reply
  have expected : writes.findSome? (expectedReply db) ≠ some .committed := by
    intro found
    obtain ⟨write, -, reply⟩ := List.exists_of_findSome?_eq_some found
    simp only [expectedReply] at reply
    split at reply
    · cases reply
    · split at reply <;> cases reply
  unfold fencedTransaction
  split
  next reply first =>
    refine Or.inl ⟨reply, ?_, rfl⟩
    rintro rfl
    rw [Option.or_eq_some_iff, Option.or_eq_some_iff] at first
    rcases first with found | ⟨-, found | ⟨-, found⟩⟩
    · exact lease found
    · exact index found
    · exact expected found
  next passed =>
    rw [Option.or_eq_none_iff, Option.or_eq_none_iff] at passed
    exact Or.inr ⟨passed.2.2, rfl⟩

theorem commit?_eq_some {sessionId : SessionId} {lease : LeaseIdentity} {now : Nat}
    {prepared : Prepared τ} {db db' : RedisDb}
    (applied : commit? sessionId lease now prepared db = some db') :
    ∃ fence value writes, prepared = .ok (fence, value, writes) ∧
      writes.findSome? (expectedReply db) = none ∧ db' = commitRecords db [] writes := by
  unfold commit? commit at applied
  split at applied
  next ended =>
    split at ended
    · cases ended
    next fence value writes =>
      rcases fencedTransaction_cases db now sessionId lease.holder fence lease.generationId writes
        with ⟨reply, uncommitted, refused⟩ | ⟨passed, committed⟩
      · rw [refused] at ended
        cases reply <;> first | exact absurd rfl uncommitted | cases ended
      · rw [committed] at ended
        cases ended
        cases applied
        exact ⟨fence, _, writes, rfl, passed, rfl⟩
  · cases applied

theorem commit?_sound (sessionId : SessionId) (lease : LeaseIdentity) :
    Race.Sound observe (commit? (τ := τ) sessionId lease) Validates := by
  rintro now prepared db db' seen applied ⟨fence, value, writes, rfl, write, member, validated⟩
  obtain ⟨_, _, _, same, passed, -⟩ := commit?_eq_some applied
  cases same
  have kept := List.findSome?_eq_none_iff.mp passed write member
  unfold expectedReply at kept
  split at kept
  · cases kept
  next current found =>
    split at kept
    next accepted =>
      unfold RedisWrite.accepts at accepted
      rcases validated with ⟨raw, expected, rfl⟩ | ⟨expected, rfl⟩
      · have same : current = some raw := by simpa [expected] using accepted
        show db.get write.key = _
        rw [found, same]
      · have same : current = none := by simpa [expected] using accepted
        show db.get write.key = _
        rw [found, same]
    · cases kept

/-! ### Two calls -/

section TwoCalls

variable (keyPrefix : Option String) (codec : RedisCodec S T C η) (sessionId : SessionId)
  (lease : LeaseIdentity) (operations : Bool → TxProgram S T C η χ τ)

def programs (call : Bool) : RedisReader χ (Prepared τ) :=
  prepare keyPrefix codec sessionId lease (operations call)

/-- The two calls after a run of their reads and commits. -/
def raceAfter (start : RedisDb) (events : List (RaceEvent Bool (TxInput χ) Nat)) :
    Race Bool RedisRead RedisRead.Reply (TxInput χ) (Prepared τ) Nat RedisDb :=
  Race.after observe (commit? sessionId lease)
    (programs keyPrefix codec sessionId lease operations) start events

def Committed (race : Race Bool RedisRead RedisRead.Reply (TxInput χ) (Prepared τ) Nat RedisDb)
    (call : Bool) : Prop :=
  (race.attempts call).verdict = some true

/-- The database after the calls run one after another, each on the inputs and at the clock reading
it had in the race; nothing if one of them is refused. -/
def oneAfterAnother (start : RedisDb) (calls : List (Commit Bool (TxInput χ) Nat)) :
    Option RedisDb :=
  Race.serial observe (commit? sessionId lease)
    (programs keyPrefix codec sessionId lease operations) start calls

/-- When a second call commits, all that it has read and that its own writes do not validate is
still there. -/
def Undisturbed (start : RedisDb) (events : List (RaceEvent Bool (TxInput χ) Nat)) : Prop :=
  Race.UndisturbedRun observe (commit? sessionId lease) Validates
    (Race.new (programs keyPrefix codec sessionId lease operations) start) events

variable {keyPrefix codec sessionId lease operations}

/-- In an undisturbed run two calls that both commit leave the database of running them one after
the other; a call that does not commit has written nothing. -/
theorem transactions_serialize (start : RedisDb)
    (events : List (RaceEvent Bool (TxInput χ) Nat))
    (undisturbed : Undisturbed keyPrefix codec sessionId lease operations start events) :
    let race := raceAfter keyPrefix codec sessionId lease operations start events
    ((∀ call, Committed race call) → ∃ first second, race.commits = [first, second] ∧
      first.call ≠ second.call ∧
      oneAfterAnother keyPrefix codec sessionId lease operations start [first, second] =
        some race.state) ∧
    (∀ call, Committed race call → ¬ Committed race (!call) → ∃ only, only.call = call ∧
      oneAfterAnother keyPrefix codec sessionId lease operations start [only] =
        some race.state) ∧
    ((∀ call, ¬ Committed race call) → race.state = start) := by
  intro race
  have inv := Race.inv_run observe (commit? sessionId lease)
    (programs keyPrefix codec sessionId lease operations) start events
  have serial := Race.commits_serialize (commit?_sound sessionId lease) events undisturbed
  have applied : ∀ call, Committed race call ↔ call ∈ race.commits.map (·.call) := inv.applied
  have once : (race.commits.map (·.call)).Nodup := inv.once
  have serial' : oneAfterAnother keyPrefix codec sessionId lease operations start race.commits =
    some race.state := serial
  rcases commits : race.commits with _ | ⟨a, _ | ⟨b, _ | ⟨c, rest⟩⟩⟩ <;>
    simp only [commits, List.map_cons, List.map_nil, List.mem_cons, List.not_mem_nil, or_false,
      iff_false] at applied once serial'
  · refine ⟨fun both => absurd (both true) (applied true), fun call yes => absurd yes (applied call),
      fun _ => ?_⟩
    exact (inv.fresh commits).1
  · refine ⟨fun both => ?_, fun call yes _ => ⟨a, ((applied call).mp yes).symm, serial'⟩,
      fun none => absurd ((applied a.call).mpr rfl) (none a.call)⟩
    have same := ((applied true).mp (both true)).trans ((applied false).mp (both false)).symm
    cases same
  · refine ⟨fun _ => ⟨a, b, rfl, by simpa using once, serial'⟩, fun call _ other => ?_,
      fun none => absurd ((applied a.call).mpr (Or.inl rfl)) (none a.call)⟩
    -- both of the two calls are in the list
    rw [applied] at other
    have apart : a.call ≠ b.call := by simpa using once
    cases call <;> cases left : a.call <;> cases right : b.call <;> simp_all
  · have apart := once
    cases first : a.call <;> cases second : b.call <;> cases third : c.call <;>
      simp [first, second, third] at apart

end TwoCalls

/-! ### A session and a turn that are copied to each other -/

/-- Records that are texts of a fixed id, in the session `call`. -/
def textCodec (id : String) : RedisRecordCodec String where
  sessionId _ := "call"
  id _ := id
  version _ := none
  withVersion record _ := record
  sameRecord a b := a = b
  normalize record _ := .ok record
  decode raw _ := .ok raw
  encode record := .ok record
  orderScore _ := some 0
  storeOrder _ _ := true
  transactionOrder _ _ := true

def texts : RedisCodec String String String Unit where
  session := textCodec "call"
  turn := textCodec "turn"
  toolCall := textCodec "tool"
  parseIncarnation _ _ := .ok none
  decodeOutboxEnvelope _ envelope _ _ := .ok envelope
  encodeOutboxEvent _ := ""

def copyLease : LeaseIdentity := ⟨"worker", .int 1, "generation"⟩

def copyStart : RedisDb where
  values := Function.update (Function.update (fun _ => none)
    (sessionKey none "call") (some (.string "s"))) (turnKey none "call" "turn") (some (.string "t"))
  leases _ := some (.record ⟨"call", "worker", 1, some "generation", 0, 0, 10, none, none⟩)

/-- One callback copies the turn into the session, the other the session into the turn. -/
def copies : Bool → TxProgram String String String Unit Unit Unit
  | false => .call (.getTurn "call" "turn") fun turn =>
      .call (.updateSession "call" fun session => .ok ((turn.toOption.join).getD session)) fun _ =>
        .settle (.ok ())
  | true => .call (.getSession "call") fun session =>
      .call (.updateTurn "call" "turn" fun turn => .ok ((session.toOption.join).getD turn)) fun _ =>
        .settle (.ok ())

def copyTexts (db : RedisDb) : Option (Option String) × Option (Option String) :=
  ((db.get (sessionKey none "call")).toOption, (db.get (turnKey none "call" "turn")).toOption)

/-- One copy after the other: the second one starts to read when the first has committed. -/
def copyInTurn : List (RaceEvent Bool (TxInput Unit) Nat) :=
  [.read false, .read false, .commit false 1, .read true, .read true, .commit true 2]

theorem transactions_serialize_copyInTurn :
    ∃ first second, first.call ≠ second.call ∧
      oneAfterAnother none texts "call" copyLease copies copyStart [first, second] =
        some (raceAfter none texts "call" copyLease copies copyStart copyInTurn).state := by
  have undisturbed : Undisturbed none texts "call" copyLease copies copyStart copyInTurn := by
    have first : (raceAfter none texts "call" copyLease copies copyStart
        (copyInTurn.take 2)).commits = [] := by
      decide +kernel
    have second : ∀ seen ∈ ((raceAfter none texts "call" copyLease copies copyStart
        (copyInTurn.take 5)).attempts true).log, observe (raceAfter none texts "call" copyLease
          copies copyStart (copyInTurn.take 5)).state seen.1 = seen.2 := by
      decide +kernel
    exact ⟨trivial, trivial, fun some => absurd first some, trivial, trivial,
      fun _ _ _ seen member _ => second seen member, trivial⟩
  have both : ∀ call, Committed
      (raceAfter none texts "call" copyLease copies copyStart copyInTurn) call := by
    unfold Committed
    decide +kernel
  obtain ⟨first, second, -, apart, serial⟩ :=
    (transactions_serialize copyStart copyInTurn undisturbed).1 both
  exact ⟨first, second, apart, serial⟩

/-- Both read before either commits: each commit finds the record it writes as it read it, and the
two records change places, which no order of the two copies does. -/
def writeSkew : List (RaceEvent Bool (TxInput Unit) Nat) :=
  [.read false, .read false, .read true, .read true, .commit false 1, .commit true 2]

theorem writeSkew_not_serializable :
    ¬ ∀ events, (∀ call, Committed (raceAfter none texts "call" copyLease copies copyStart events)
        call) →
      ∃ first second, first.call ≠ second.call ∧
        first ∈ (raceAfter none texts "call" copyLease copies copyStart events).commits ∧
        second ∈ (raceAfter none texts "call" copyLease copies copyStart events).commits ∧
        ∃ db, oneAfterAnother none texts "call" copyLease copies copyStart [first, second] =
            some db ∧
          db.values = (raceAfter none texts "call" copyLease copies copyStart events).state.values := by
  intro serializes
  have both : ∀ call, Committed
      (raceAfter none texts "call" copyLease copies copyStart writeSkew) call := by
    unfold Committed
    decide +kernel
  obtain ⟨first, second, apart, firstIn, secondIn, db, serial, same⟩ := serializes writeSkew both
  have commits : (raceAfter none texts "call" copyLease copies copyStart writeSkew).commits =
      [⟨false, [], 1⟩, ⟨true, [], 2⟩] := by
    decide +kernel
  have swapped : copyTexts
      (raceAfter none texts "call" copyLease copies copyStart writeSkew).state =
        (some (some "t"), some (some "s")) := by
    decide +kernel
  have inOrder : (oneAfterAnother none texts "call" copyLease copies copyStart
      [⟨false, [], 1⟩, ⟨true, [], 2⟩]).map copyTexts =
        some (some (some "t"), some (some "t")) := by
    decide +kernel
  have inReverse : (oneAfterAnother none texts "call" copyLease copies copyStart
      [⟨true, [], 2⟩, ⟨false, [], 1⟩]).map copyTexts =
        some (some (some "s"), some (some "s")) := by
    decide +kernel
  have seen : copyTexts db = (some (some "t"), some (some "s")) := by
    rw [← swapped]
    simp only [copyTexts, RedisDb.get, same]
  rw [commits, List.mem_pair] at firstIn secondIn
  rcases firstIn with rfl | rfl <;> rcases secondIn with rfl | rfl
  · exact apart rfl
  · rw [serial, Option.map_some, seen] at inOrder
    revert inOrder
    decide
  · rw [serial, Option.map_some, seen] at inReverse
    revert inReverse
    decide
  · exact apart rfl

end Tvic.Redis.TransactionSerialization
