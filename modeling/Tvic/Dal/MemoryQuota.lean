import Tvic.Dal.InMemoryMemory
import Tvic.Lib.Run

/-!
# The byte counters of the sessions

`InMemoryMemory` keeps, for each session, how many bytes its entries take. Every operation adjusts
the counter by the entry it writes or removes; that it always is their sum comes from two facts, that
an entry is filed under the key of its own scope and that each key is filed once.
-/
namespace Tvic.InMemoryMemory

open Lib (InsertionMap run run_invariant)
open Lib.InsertionMap (total total_delete total_set)

variable {V J : Type} {host : MemoryHost V J} {options : InMemoryMemoryOptions}

/-! ## Keys -/

theorem entryKey_eq_keyName (ref : MemoryRef) (key : String) (kind : MemoryKind) :
    entryKey ref key kind =
      Redis.keyName (some "") [ref.scope, Redis.encodeKeyPart ref.ownerId,
        Redis.encodeKeyPart kind.text, Redis.encodeKeyPart key] := by
  apply String.toList_inj.mp
  simp [entryKey, refKey, Redis.keyName]

theorem colon_not_mem_scope (ref : MemoryRef) : ':' ∉ ref.scope.toList := by
  cases ref <;> rw [MemoryRef.scope] <;> decide

theorem ref_eq_of_entryKey {ref ref' : MemoryRef} {key key' : String} {kind kind' : MemoryKind}
    (same : entryKey ref key kind = entryKey ref' key' kind') : ref = ref' := by
  rw [entryKey_eq_keyName, entryKey_eq_keyName] at same
  have plain : ∀ (ref : MemoryRef) (kind : MemoryKind) (key : String),
      ∀ part ∈ [ref.scope, Redis.encodeKeyPart ref.ownerId, Redis.encodeKeyPart kind.text,
        Redis.encodeKeyPart key], ':' ∉ part.toList := by
    intro ref kind key part member
    simp only [List.mem_cons, List.not_mem_nil, or_false] at member
    rcases member with rfl | rfl | rfl | rfl
    · exact colon_not_mem_scope ref
    all_goals exact Redis.colon_not_mem_encodeKeyPart _
  have parts := Redis.keyName_inj (by simp) (by simp) (plain ref kind key) (plain ref' kind' key')
    same
  simp only [List.cons.injEq, and_true] at parts
  have owner := Redis.encodeKeyPart_injective parts.2.1
  cases ref <;> cases ref' <;> simp_all [MemoryRef.scope, MemoryRef.ownerId]

/-! ## Accounts -/

/-- What an entry takes of a session's bytes. -/
def sessionWeight (sessionId : SessionId) (stored : StoredMemoryEntry J) : Nat :=
  if stored.entry.ref = .session sessionId then stored.valueBytes else 0

theorem sessionWeight_eq_zero {sessionId : SessionId} {stored : StoredMemoryEntry J} :
    sessionWeight sessionId stored = 0 ↔ stored.entry.ref ≠ .session sessionId := by
  have := stored.nonempty
  by_cases own : stored.entry.ref = .session sessionId <;> simp [sessionWeight, own]
  omega

def storedBytes (memory : InMemoryMemory J) (sessionId : SessionId) : Nat :=
  total (sessionWeight sessionId) memory.entries

structure Accounted (memory : InMemoryMemory J) : Prop where
  unique : (InsertionMap.keys memory.entries).Nodup
  filed : ∀ item ∈ memory.entries,
    item.1 = entryKey item.2.entry.ref item.2.entry.key item.2.entry.kind
  counted : ∀ sessionId, InsertionMap.get memory.sessionBytes sessionId =
    if memory.storedBytes sessionId = 0 then none else some (memory.storedBytes sessionId : Int)

theorem empty_accounted : (empty : InMemoryMemory J).Accounted where
  unique := List.nodup_nil
  filed _ member := nomatch member
  counted _ := by simp [storedBytes, empty]

variable {memory : InMemoryMemory J}

theorem Accounted.withNextId (accounted : memory.Accounted) (nextId : Nat) :
    Accounted { memory with nextId } where
  unique := accounted.unique
  filed := accounted.filed
  counted := accounted.counted

theorem Accounted.used (accounted : memory.Accounted) (sessionId : SessionId) :
    (InsertionMap.get memory.sessionBytes sessionId).getD 0 = memory.storedBytes sessionId := by
  rw [accounted.counted]
  split
  next none => rw [none]; rfl
  next => rfl

theorem Accounted.ref_of_get (accounted : memory.Accounted) {ref : MemoryRef} {key : String}
    {kind : MemoryKind} {stored : StoredMemoryEntry J}
    (found : InsertionMap.get memory.entries (entryKey ref key kind) = some stored) :
    stored.entry.ref = ref :=
  (ref_eq_of_entryKey (accounted.filed _ (InsertionMap.mem_of_get found))).symm

/-! ## Removing entries -/

section Deletion

variable {storageKey : String} {stored : StoredMemoryEntry J}

theorem deleteStored_entries
    (found : InsertionMap.get memory.entries storageKey = some stored) :
    (memory.deleteStored storageKey stored).entries =
      InsertionMap.delete memory.entries storageKey := by
  rw [deleteStored, if_pos (InsertionMap.has_of_get found)]

theorem deleteStored_storedBytes (accounted : memory.Accounted)
    (found : InsertionMap.get memory.entries storageKey = some stored) (sessionId : SessionId) :
    (memory.deleteStored storageKey stored).storedBytes sessionId + sessionWeight sessionId stored =
      memory.storedBytes sessionId := by
  rw [storedBytes, deleteStored_entries found]
  exact total_delete _ accounted.unique found

theorem deleteStored_accounted (accounted : memory.Accounted)
    (found : InsertionMap.get memory.entries storageKey = some stored) :
    (memory.deleteStored storageKey stored).Accounted where
  unique := by
    rw [deleteStored_entries found]
    exact InsertionMap.keys_delete_nodup accounted.unique storageKey
  filed item member := by
    rw [deleteStored_entries found, InsertionMap.mem_delete] at member
    exact accounted.filed item member.1
  counted sessionId := by
    have removed := deleteStored_storedBytes accounted found sessionId
    have used := accounted.used
    have counter := accounted.counted sessionId
    have untouched : sessionWeight sessionId stored = 0 →
        InsertionMap.get memory.sessionBytes sessionId =
          if (memory.deleteStored storageKey stored).storedBytes sessionId = 0 then none
          else some ((memory.deleteStored storageKey stored).storedBytes sessionId : Int) := by
      intro other
      rwa [show (memory.deleteStored storageKey stored).storedBytes sessionId =
        memory.storedBytes sessionId by omega]
    cases scope : stored.entry.ref with
    | session owner =>
      by_cases own : owner = sessionId
      · -- the counter goes down by the entry, and goes when nothing is left
        subst own
        have weight : sessionWeight owner stored = stored.valueBytes := by
          simp [sessionWeight, scope]
        rw [weight] at removed
        generalize (memory.deleteStored storageKey stored).storedBytes owner = left at removed ⊢
        rw [deleteStored, if_pos (InsertionMap.has_of_get found)]
        simp only [scope, used]
        split
        next some_left =>
          rw [InsertionMap.get_set_self, if_neg (by omega)]
          congr 1
          omega
        next nothing_left => rw [InsertionMap.get_delete_self, if_pos (by omega)]
      · have other := untouched (sessionWeight_eq_zero.mpr (by rw [scope]; simpa using own))
        rw [← other, deleteStored, if_pos (InsertionMap.has_of_get found)]
        simp only [scope]
        split
        · exact InsertionMap.get_set_of_ne _ (Ne.symm own) _
        · exact InsertionMap.get_delete_of_ne _ (Ne.symm own)
    | user _ | organization _ | workflow _ =>
      have other := untouched (sessionWeight_eq_zero.mpr (by rw [scope]; simp))
      rw [← other, deleteStored, if_pos (InsertionMap.has_of_get found)]
      simp only [scope]

end Deletion

def ownEntry (memory : InMemoryMemory J) (storageKey : String) (now : ClockReading) :
    Option (StoredMemoryEntry J) :=
  (InsertionMap.get memory.entries storageKey).filter fun stored => !isExpired stored now

theorem getStored_cases (memory : InMemoryMemory J) (storageKey : String) (now : ClockReading) :
    (memory.getStored storageKey now).2 = memory.ownEntry storageKey now ∧
      ((memory.getStored storageKey now).1 = memory ∧
          InsertionMap.get memory.entries storageKey = memory.ownEntry storageKey now ∨
        ∃ stored, InsertionMap.get memory.entries storageKey = some stored ∧
          isExpired stored now = true ∧ memory.ownEntry storageKey now = none ∧
          (memory.getStored storageKey now).1 = memory.deleteStored storageKey stored) := by
  unfold getStored ownEntry
  cases found : InsertionMap.get memory.entries storageKey with
  | none => simp
  | some stored => cases expired : isExpired stored now <;> simp [expired, Option.filter]

theorem getStored_accounted (accounted : memory.Accounted) (storageKey : String)
    (now : ClockReading) : (memory.getStored storageKey now).1.Accounted := by
  obtain ⟨-, ⟨same, -⟩ | ⟨stored, found, -, -, removed⟩⟩ := getStored_cases memory storageKey now
  · rwa [same]
  · rw [removed]
    exact deleteStored_accounted accounted found

theorem getStored_get (memory : InMemoryMemory J) (storageKey : String) (now : ClockReading) :
    InsertionMap.get (memory.getStored storageKey now).1.entries storageKey =
      memory.ownEntry storageKey now := by
  obtain ⟨-, ⟨same, held⟩ | ⟨stored, found, -, gone, removed⟩⟩ :=
    getStored_cases memory storageKey now
  · rw [same, held]
  · rw [removed, deleteStored_entries found, InsertionMap.get_delete_self, gone]

theorem getStored_delete (memory : InMemoryMemory J) (storageKey : String) (now : ClockReading) :
    InsertionMap.delete (memory.getStored storageKey now).1.entries storageKey =
      InsertionMap.delete memory.entries storageKey := by
  obtain ⟨-, ⟨same, -⟩ | ⟨stored, found, -, -, removed⟩⟩ := getStored_cases memory storageKey now
  · rw [same]
  · rw [removed, deleteStored_entries found]
    simp [InsertionMap.delete]

theorem ahead_of_deleteStored {entry : String × StoredMemoryEntry J}
    {rest : InsertionMap String (StoredMemoryEntry J)}
    (found : InsertionMap.get memory.entries entry.1 = some entry.2)
    (unique : (InsertionMap.keys (entry :: rest)).Nodup)
    (ahead : ∀ item ∈ rest, item ∈ memory.entries) :
    ∀ item ∈ rest, item ∈ (memory.deleteStored entry.1 entry.2).entries := by
  intro item member
  rw [deleteStored_entries found, InsertionMap.mem_delete]
  refine ⟨ahead item member, ?_⟩
  intro same
  simp only [InsertionMap.keys, List.map_cons, List.nodup_cons] at unique
  exact unique.1 (same ▸ List.mem_map_of_mem member)

theorem deleteWhere_accounted (test : String × StoredMemoryEntry J → Bool)
    (entries : InsertionMap String (StoredMemoryEntry J)) (accounted : memory.Accounted)
    (unique : (InsertionMap.keys entries).Nodup) (ahead : ∀ item ∈ entries, item ∈ memory.entries) :
    (deleteWhere test entries memory).1.Accounted := by
  induction entries generalizing memory with
  | nil => exact accounted
  | cons entry rest ih =>
    have later : (InsertionMap.keys rest).Nodup := (List.nodup_cons.mp unique).2
    rw [List.forall_mem_cons] at ahead
    rw [deleteWhere]
    split
    · have found := InsertionMap.get_of_mem accounted.unique ahead.1
      exact ih (deleteStored_accounted accounted found) later
        (ahead_of_deleteStored found unique ahead.2)
    · exact ih accounted later ahead.2

theorem sweep_accounted (ref : MemoryRef) (entries : InsertionMap String (StoredMemoryEntry J))
    (clock : Clock) (accounted : memory.Accounted) (unique : (InsertionMap.keys entries).Nodup)
    (ahead : ∀ item ∈ entries, item ∈ memory.entries) :
    (sweep ref entries clock memory).1.Accounted := by
  induction entries generalizing memory clock with
  | nil => exact accounted
  | cons entry rest ih =>
    have later : (InsertionMap.keys rest).Nodup := (List.nodup_cons.mp unique).2
    rw [List.forall_mem_cons] at ahead
    obtain ⟨storageKey, stored⟩ := entry
    rw [sweep]
    split
    · dsimp only
      split
      · have found := InsertionMap.get_of_mem accounted.unique ahead.1
        exact ih _ (deleteStored_accounted accounted found) later
          (ahead_of_deleteStored found unique ahead.2)
      · exact ih _ accounted later ahead.2
    · exact ih _ accounted later ahead.2

/-! ## Writing an entry -/

theorem store_accounted (accounted : memory.Accounted) (entry : MemoryEntry J)
    (sessionUserId : Option UserId) (serializedValue : SerializedValue)
    {existing : Option (StoredMemoryEntry J)}
    (held : InsertionMap.get memory.entries (entryKey entry.ref entry.key entry.kind) = existing) :
    (memory.store entry sessionUserId serializedValue existing).Accounted where
  unique := InsertionMap.keys_set_nodup accounted.unique _ _
  filed item member := by
    rcases InsertionMap.eq_or_mem_of_mem_set member with rfl | kept
    · rfl
    · exact accounted.filed item kept
  counted sessionId := by
    have positive : 0 < serializedValue.byteLength := by
      rw [SerializedValue.byteLength, Nat.pos_iff_ne_zero, ne_eq, String.utf8ByteSize_eq_zero_iff]
      exact serializedValue.property
    have after : (memory.store entry sessionUserId serializedValue existing).storedBytes sessionId =
        total (sessionWeight sessionId)
          (InsertionMap.delete memory.entries (entryKey entry.ref entry.key entry.kind)) +
        if entry.ref = .session sessionId then serializedValue.byteLength else 0 :=
      total_set _ accounted.unique _ _
    have before : total (sessionWeight sessionId)
          (InsertionMap.delete memory.entries (entryKey entry.ref entry.key entry.kind)) +
        (existing.map (sessionWeight sessionId)).getD 0 = memory.storedBytes sessionId := by
      cases existing with
      | none => rw [InsertionMap.delete_of_get_eq_none held]; rfl
      | some stored => exact total_delete _ accounted.unique held
    have scope : ∀ stored ∈ existing, stored.entry.ref = entry.ref := by
      rintro stored rfl
      exact accounted.ref_of_get held
    have used := accounted.used sessionId
    have counter := accounted.counted sessionId
    by_cases own : entry.ref = .session sessionId
    · -- the counter gives up the old size and takes the new one
      have previous : (existing.map (sessionWeight sessionId)).getD 0 =
          (existing.map (·.valueBytes)).getD 0 := by
        cases existing with
        | none => rfl
        | some stored => simp [sessionWeight, scope stored rfl, own]
      rw [if_pos own] at after
      have written : (memory.store entry sessionUserId serializedValue existing).sessionBytes =
          InsertionMap.set memory.sessionBytes sessionId
            ((InsertionMap.get memory.sessionBytes sessionId).getD 0 -
              (existing.map (·.valueBytes)).getD 0 + serializedValue.byteLength) := by
        simp only [store, own]
      rw [written, InsertionMap.get_set_self, if_neg (by omega), used]
      congr 1
      omega
    · have nothing : (existing.map (sessionWeight sessionId)).getD 0 = 0 := by
        cases existing with
        | none => rfl
        | some stored => exact sessionWeight_eq_zero.mpr (scope stored rfl ▸ own)
      rw [if_neg own] at after
      rw [show (memory.store entry sessionUserId serializedValue existing).storedBytes sessionId =
        memory.storedBytes sessionId by omega, ← counter]
      cases written : entry.ref with
      | session owner =>
        have other : sessionId ≠ owner := by
          rintro rfl
          exact own written
        simp only [store, written]
        exact InsertionMap.get_set_of_ne _ other _
      | user _ | organization _ | workflow _ => simp only [store, written]

/-! ## What a put does -/

/-- The checked arguments of a `put` that none of its checks but the quota's settles. -/
def quotaDecides (host : MemoryHost V J) (options : InMemoryMemoryOptions)
    (memory : InMemoryMemory J) (ref : MemoryRef) (key : String) (kind : MemoryKind) (value : V)
    (putOptions : MemoryPutOptions V) (clock : Clock) : Option (CheckedPut J) :=
  match checkPut host options ref key value putOptions with
  | .error _ => none
  | .ok checked =>
    let own := memory.ownEntry (entryKey ref key kind) (clock 1)
    if (existingAnswer host ref key kind putOptions.ifNotExists checked own).isNone then some checked
    else none

section Put

variable (ref : MemoryRef) (key : String) (kind : MemoryKind) (value : V)
  (putOptions : MemoryPutOptions V) (clock : Clock)

variable (host options) in
theorem put_cases (memory : InMemoryMemory J) :
    let after := (memory.getStored (entryKey ref key kind) (clock 1)).1
    let own := memory.ownEntry (entryKey ref key kind) (clock 1)
    let nextId := if own.isSome then after.nextId else after.nextId + 1
    let result := memory.put host options ref key kind value putOptions clock
    (∃ error, checkPut host options ref key value putOptions = .error error ∧
      result = (memory, .error error)) ∨
    ∃ checked, checkPut host options ref key value putOptions = .ok checked ∧
      ((∃ answer, existingAnswer host ref key kind putOptions.ifNotExists checked own = some answer ∧
          result = (after, answer)) ∨
        existingAnswer host ref key kind putOptions.ifNotExists checked own = none ∧
          ((∃ error, after.quotaError ref checked own = some error ∧
              result = (after, .error error)) ∨
            after.quotaError ref checked own = none ∧
              (clock 0 = none ∧ result = ({ after with nextId }, .error .rangeError) ∨
                ∃ now, clock 0 = some now ∧
                  let entry := newEntry host options ref key kind checked own after.nextId now
                  result = ({ after.store entry putOptions.sessionUserId
                    checked.serializedValue own with nextId },
                    .ok (cloneMemoryEntry host entry))))) := by
  intro after own nextId result
  have found : (memory.getStored (entryKey ref key kind) (clock 1)).2 = own :=
    (getStored_cases memory _ _).1
  cases arguments : checkPut host options ref key value putOptions with
  | error error => exact .inl ⟨error, rfl, by simp only [result, put, arguments]⟩
  | ok checked =>
    refine .inr ⟨checked, rfl, ?_⟩
    cases settled : existingAnswer host ref key kind putOptions.ifNotExists checked own with
    | some answer =>
      exact .inl ⟨answer, rfl, by simp only [result, put, arguments, found, settled, after]⟩
    | none =>
      refine .inr ⟨rfl, ?_⟩
      cases exceeded : after.quotaError ref checked own with
      | some error =>
        refine .inl ⟨error, rfl, ?_⟩
        simp only [result, put, arguments, found, settled, exceeded, after]
      | none =>
        refine .inr ⟨rfl, ?_⟩
        cases date : clock 0 with
        | none =>
          refine .inl ⟨rfl, ?_⟩
          simp only [result, put, arguments, found, settled, exceeded, after, date, nextId]
        | some now =>
          refine .inr ⟨now, rfl, ?_⟩
          simp only [result, put, arguments, found, settled, exceeded, after, date, nextId]

theorem put_accounted (accounted : memory.Accounted) :
    (memory.put host options ref key kind value putOptions clock).1.Accounted := by
  have looked := getStored_accounted accounted (entryKey ref key kind) (clock 1)
  have held := getStored_get memory (entryKey ref key kind) (clock 1)
  rcases put_cases host options ref key kind value putOptions clock memory with
    ⟨error, -, result⟩ | ⟨checked, -, ⟨answer, -, result⟩ | ⟨-, ⟨error, -, result⟩ |
      ⟨-, ⟨-, result⟩ | ⟨now, -, result⟩⟩⟩⟩
  · rwa [result]
  · rwa [result]
  · rwa [result]
  · rw [result]
    exact looked.withNextId _
  · rw [result]
    refine Accounted.withNextId (store_accounted looked
      (newEntry host options ref key kind checked _ _ now) _ _ ?_) _
    exact held

end Put

theorem step_accounted (accounted : memory.Accounted) (call : MemoryCall V) :
    (memory.step host options call).Accounted := by
  cases call with
  | get ref key kind clock => exact getStored_accounted accounted _ _
  | put ref key kind value putOptions clock => exact put_accounted _ _ _ _ _ _ accounted
  | list ref query clock =>
    simp only [step, list]
    split
    · exact accounted
    · split
      · exact accounted
      · exact sweep_accounted ref _ clock accounted accounted.unique fun _ member => member
  | delete ref key kind =>
    simp only [step, delete]
    split
    · exact accounted
    next stored found => exact deleteStored_accounted accounted found
  | deleteAll ref => exact deleteWhere_accounted _ _ accounted accounted.unique fun _ member => member
  | deleteForUser userId =>
    have owned := deleteWhere_accounted (fun entry => underScope (.user userId) entry.1) _ accounted
      accounted.unique fun _ member => member
    exact deleteWhere_accounted _ _ owned owned.unique fun _ member => member

theorem run_accounted (calls : List (MemoryCall V)) :
    (run (step host options) empty calls).Accounted :=
  run_invariant (step host options) Accounted
    (fun _ call accounted => step_accounted accounted call) empty empty_accounted calls

/-! ## The quota -/

def otherBytes (memory : InMemoryMemory J) (sessionId : SessionId) (storageKey : String) : Nat :=
  total (sessionWeight sessionId) (InsertionMap.delete memory.entries storageKey)

/-- Those of them that a date finds unexpired. -/
def otherUnexpiredBytes (memory : InMemoryMemory J) (sessionId : SessionId) (storageKey : String)
    (now : ClockReading) : Nat :=
  total (sessionWeight sessionId)
    ((InsertionMap.delete memory.entries storageKey).filter fun item => !isExpired item.2 now)

/-- Those of them that have expired and are still stored. -/
def otherExpiredBytes (memory : InMemoryMemory J) (sessionId : SessionId) (storageKey : String)
    (now : ClockReading) : Nat :=
  total (sessionWeight sessionId)
    ((InsertionMap.delete memory.entries storageKey).filter fun item => isExpired item.2 now)

theorem otherBytes_eq_add (memory : InMemoryMemory J) (sessionId : SessionId) (storageKey : String)
    (now : ClockReading) :
    memory.otherBytes sessionId storageKey =
      memory.otherUnexpiredBytes sessionId storageKey now +
        memory.otherExpiredBytes sessionId storageKey now := by
  rw [otherBytes, otherUnexpiredBytes, otherExpiredBytes, Nat.add_comm]
  exact (InsertionMap.total_filter_add _ (fun item => isExpired item.2 now) _).symm

theorem otherUnexpiredBytes_invalid (memory : InMemoryMemory J) (sessionId : SessionId)
    (storageKey : String) :
    memory.otherUnexpiredBytes sessionId storageKey none = memory.otherBytes sessionId storageKey := by
  have unexpired : ∀ stored : StoredMemoryEntry J, isExpired stored none = false := by
    intro stored
    unfold isExpired
    split <;> simp_all
  simp [otherUnexpiredBytes, otherBytes, unexpired]

theorem usedBytes_eq (accounted : memory.Accounted) (sessionId : SessionId) (key : String)
    (kind : MemoryKind) (now : ClockReading) :
    let after := (memory.getStored (entryKey (.session sessionId) key kind) now).1
    let own := memory.ownEntry (entryKey (.session sessionId) key kind) now
    (InsertionMap.get after.sessionBytes sessionId).getD 0 -
        (own.map fun stored => (stored.valueBytes : Int)).getD 0 =
      (memory.otherBytes sessionId (entryKey (.session sessionId) key kind) : Int) := by
  intro after own
  have looked : after.Accounted := getStored_accounted accounted _ now
  have held : InsertionMap.get after.entries (entryKey (.session sessionId) key kind) = own :=
    getStored_get memory _ now
  rw [looked.used, otherBytes, ← getStored_delete memory _ now]
  cases existing : own with
  | none =>
    rw [InsertionMap.delete_of_get_eq_none (held.trans existing)]
    exact Int.sub_zero _
  | some stored =>
    have weighed := total_delete (sessionWeight sessionId) looked.unique (held.trans existing)
    have weight : sessionWeight sessionId stored = stored.valueBytes := by
      rw [sessionWeight, if_pos (looked.ref_of_get (held.trans existing))]
    rw [weight] at weighed
    rw [Option.map_some, Option.getD_some, Int.sub_eq_iff_eq_add]
    exact_mod_cast weighed.symm

theorem quotaError_eq_some (accounted : memory.Accounted) (ref : MemoryRef) (key : String)
    (kind : MemoryKind) (now : ClockReading) (checked : CheckedPut J) :
    ((memory.getStored (entryKey ref key kind) now).1.quotaError ref checked
        (memory.ownEntry (entryKey ref key kind) now)).isSome = true ↔
      ∃ sessionId maximum, ref = .session sessionId ∧ checked.maxSessionBytes = some maximum ∧
        maximum < memory.otherBytes sessionId (entryKey ref key kind) +
          checked.serializedValue.byteLength := by
  cases ref with
  | user _ | organization _ | workflow _ => simp [quotaError]
  | session sessionId =>
    cases limited : checked.maxSessionBytes with
    | none => simp [quotaError, limited]
    | some maximum =>
      have used := usedBytes_eq accounted sessionId key kind now
      simp only [quotaError, limited]
      dsimp only at used
      rw [used]
      split
      next exceeded =>
        simp only [Option.isSome_some, true_iff]
        exact ⟨sessionId, maximum, rfl, rfl, by omega⟩
      next within =>
        simp only [Option.isSome_none, Bool.false_eq_true, false_iff]
        rintro ⟨_, _, ⟨⟩, ⟨⟩, exceeded⟩
        omega

theorem isSessionQuotaExceeded_of_quotaError {ref : MemoryRef} {checked : CheckedPut J}
    {existing : Option (StoredMemoryEntry J)} {error : MemoryError}
    (exceeded : memory.quotaError ref checked existing = some error) :
    error.isSessionQuotaExceeded = true := by
  unfold quotaError at exceeded
  split at exceeded
  · dsimp only at exceeded
    split at exceeded
    · cases exceeded
      rfl
    · cases exceeded
  · cases exceeded

def NoQuotaError {α : Type} (check : Except MemoryError α) : Prop :=
  ∀ error, check = .error error → error.isSessionQuotaExceeded = false

theorem noQuotaError_ok {α : Type} (a : α) : NoQuotaError (.ok a : Except MemoryError α) := nofun

theorem noQuotaError_bind {α β : Type} {first : Except MemoryError α}
    {next : α → Except MemoryError β} (head : NoQuotaError first) (tail : ∀ a, NoQuotaError (next a)) :
    NoQuotaError (first >>= next) := by
  intro error thrown
  rcases bind_eq_error.mp thrown with early | ⟨a, -, late⟩
  · exact head error early
  · exact tail a error late

theorem noQuotaError_mapM {α β : Type} {check : α → Except MemoryError β}
    (each : ∀ a, NoQuotaError (check a)) (argument : Option α) :
    NoQuotaError (argument.mapM check) := by
  cases argument with
  | none => exact noQuotaError_ok none
  | some a => exact noQuotaError_bind (each a) fun b => noQuotaError_ok (some b)

theorem noQuotaError_invalidArgument {α : Type} (message : String) :
    NoQuotaError (.error (.invalidArgument message) : Except MemoryError α) := by
  rintro _ ⟨⟩
  rfl

theorem noQuotaError_serializeMemoryValue (key : String) (value : V) :
    NoQuotaError (serializeMemoryValue host key value) := by
  unfold serializeMemoryValue
  split
  · exact noQuotaError_ok _
  · exact noQuotaError_invalidArgument _

theorem noQuotaError_parseMemoryTags (serialized : SerializedValue) (key : String) :
    NoQuotaError (parseMemoryTags host serialized key) := by
  unfold parseMemoryTags
  split
  · exact noQuotaError_ok _
  · exact noQuotaError_invalidArgument _

theorem noQuotaError_parseMemoryMetadata (serialized : SerializedValue) (key : String) :
    NoQuotaError (parseMemoryMetadata host serialized key) := by
  unfold parseMemoryMetadata
  split
  · exact noQuotaError_ok _
  · exact noQuotaError_invalidArgument _

theorem noQuotaError_validateSessionUserId (ref : MemoryRef) (sessionUserId : Option UserId) :
    NoQuotaError (validateSessionUserId ref sessionUserId) := by
  unfold validateSessionUserId
  split
  · exact noQuotaError_ok _
  · split
    · exact noQuotaError_invalidArgument _
    · exact noQuotaError_ok _
  · exact noQuotaError_invalidArgument _

theorem noQuotaError_validateSessionQuota (ref : MemoryRef) (maxSessionBytes : Option Quantity) :
    NoQuotaError (validateSessionQuota host ref maxSessionBytes) := by
  unfold validateSessionQuota
  split
  · exact noQuotaError_ok _
  · split
    · exact noQuotaError_ok _
    · exact noQuotaError_invalidArgument _
  · exact noQuotaError_invalidArgument _

theorem noQuotaError_enforceSize (key : String) (serialized : SerializedValue) :
    NoQuotaError (enforceSize options key serialized) := by
  unfold enforceSize
  split
  · exact noQuotaError_ok _
  · split
    · rintro _ ⟨⟩
      rfl
    · exact noQuotaError_ok _

theorem noQuotaError_validateTtl (ttlMs : Option Quantity) :
    NoQuotaError (validateTtl host ttlMs) := by
  unfold validateTtl
  split
  · exact noQuotaError_ok _
  · split
    · exact noQuotaError_invalidArgument _
    · exact noQuotaError_ok _
  · exact noQuotaError_invalidArgument _

variable (host options) in
theorem noQuotaError_checkPut (ref : MemoryRef) (key : String) (value : V)
    (putOptions : MemoryPutOptions V) :
    NoQuotaError (checkPut host options ref key value putOptions) := by
  unfold checkPut
  refine noQuotaError_bind (noQuotaError_validateSessionUserId _ _) fun _ => ?_
  refine noQuotaError_bind (noQuotaError_validateSessionQuota _ _) fun _ => ?_
  refine noQuotaError_bind (noQuotaError_serializeMemoryValue _ _) fun _ => ?_
  refine noQuotaError_bind (noQuotaError_mapM (noQuotaError_serializeMemoryValue _) _) fun _ => ?_
  refine noQuotaError_bind (noQuotaError_mapM (noQuotaError_serializeMemoryValue _) _) fun _ => ?_
  refine noQuotaError_bind (noQuotaError_enforceSize _ _) fun _ => ?_
  refine noQuotaError_bind (noQuotaError_mapM (noQuotaError_parseMemoryTags · _) _) fun _ => ?_
  refine noQuotaError_bind (noQuotaError_mapM (noQuotaError_parseMemoryMetadata · _) _) fun _ => ?_
  exact noQuotaError_bind (noQuotaError_validateTtl _) fun _ => noQuotaError_ok _

theorem noQuotaError_existingAnswer {ref : MemoryRef} {key : String} {kind : MemoryKind}
    {ifNotExists : Bool} {checked : CheckedPut J} {existing : Option (StoredMemoryEntry J)}
    {answer : Except MemoryError (MemoryEntry J)}
    (settled : existingAnswer host ref key kind ifNotExists checked existing = some answer) :
    NoQuotaError answer := by
  unfold existingAnswer at settled
  split at settled
  · cases settled
  · split at settled
    · cases settled
      exact noQuotaError_ok _
    · split at settled
      · cases settled
      · cases settled
        rintro _ ⟨⟩
        rfl

/-! ## The main result -/

def IsQuotaError (answer : Except MemoryError (MemoryEntry J)) : Prop :=
  ∃ error, answer = .error error ∧ error.isSessionQuotaExceeded = true

theorem NoQuotaError.not_isQuotaError {answer : Except MemoryError (MemoryEntry J)}
    (other : NoQuotaError answer) : ¬ IsQuotaError answer := by
  rintro ⟨error, thrown, quota⟩
  rw [other error thrown] at quota
  cases quota

/-- What a rejected `put` may leave: all as it was, but for an entry that has expired. -/
def OnlyExpiredRemoved (memory after : InMemoryMemory J) (now : ClockReading) : Prop :=
  after.nextId = memory.nextId ∧
    (after = memory ∨
      ∃ storageKey stored, InsertionMap.get memory.entries storageKey = some stored ∧
        isExpired stored now = true ∧
        after.entries = InsertionMap.delete memory.entries storageKey)

section Main

variable (ref : MemoryRef) (key : String) (kind : MemoryKind) (value : V)
  (putOptions : MemoryPutOptions V) (clock : Clock)

/-- The put passes every check, has no entry to write over and finds no date to write it with. -/
def StoppedByDate (host : MemoryHost V J) (options : InMemoryMemoryOptions)
    (memory : InMemoryMemory J) : Prop :=
  clock 0 = none ∧ memory.ownEntry (entryKey ref key kind) (clock 1) = none ∧
    ∃ checked, quotaDecides host options memory ref key kind value putOptions clock = some checked ∧
      ∀ sessionId maximum, ref = .session sessionId → checked.maxSessionBytes = some maximum →
        memory.otherUnexpiredBytes sessionId (entryKey ref key kind) (clock 0) +
          checked.serializedValue.byteLength ≤ maximum

variable {ref key kind value putOptions clock}

theorem quotaDecides_eq_some {checked : CheckedPut J} :
    quotaDecides host options memory ref key kind value putOptions clock = some checked ↔
      checkPut host options ref key value putOptions = .ok checked ∧
        existingAnswer host ref key kind putOptions.ifNotExists checked
          (memory.ownEntry (entryKey ref key kind) (clock 1)) = none := by
  unfold quotaDecides
  split
  next thrown => simp [thrown]
  next passed found =>
    rw [found]
    dsimp only
    split
    next undecided =>
      rw [Option.isNone_iff_eq_none] at undecided
      constructor
      · rintro ⟨⟩
        exact ⟨rfl, undecided⟩
      · rintro ⟨⟨⟩, -⟩
        rfl
    next settled =>
      rw [Option.isNone_iff_eq_none] at settled
      constructor
      · nofun
      · rintro ⟨⟨⟩, undecided⟩
        exact absurd undecided settled

variable (host options ref key kind value putOptions clock) in
/-- `put` throws the quota error when no other check settles it and there is no room for the value
beside what the other keys hold. -/
theorem isQuotaError_iff (accounted : memory.Accounted) :
    IsQuotaError (memory.put host options ref key kind value putOptions clock).2 ↔
      ∃ checked, quotaDecides host options memory ref key kind value putOptions clock = some checked ∧
        ∃ sessionId maximum, ref = .session sessionId ∧ checked.maxSessionBytes = some maximum ∧
          maximum < memory.otherBytes sessionId (entryKey ref key kind) +
            checked.serializedValue.byteLength := by
  have room := quotaError_eq_some accounted ref key kind (clock 1)
  rcases put_cases host options ref key kind value putOptions clock memory with
    ⟨error, thrown, result⟩ | ⟨checked, passed, ⟨answer, settled, result⟩ |
      ⟨undecided, ⟨error, exceeded, result⟩ | ⟨within, dated⟩⟩⟩
  · rw [result]
    constructor
    · intro quota
      have other := noQuotaError_checkPut host options ref key value putOptions
      rw [thrown] at other
      exact absurd quota (NoQuotaError.not_isQuotaError fun error thrown => by
        cases thrown
        exact other _ rfl)
    · rintro ⟨checked, decides, -⟩
      rw [(quotaDecides_eq_some.mp decides).1] at thrown
      cases thrown
  · rw [result]
    constructor
    · intro quota
      exact absurd quota (noQuotaError_existingAnswer settled).not_isQuotaError
    · rintro ⟨checked', decides, -⟩
      obtain ⟨passed', undecided⟩ := quotaDecides_eq_some.mp decides
      obtain rfl : checked = checked' := Except.ok.inj (passed.symm.trans passed')
      rw [undecided] at settled
      cases settled
  · rw [result]
    have full := (room checked).mp (by rw [exceeded]; rfl)
    constructor
    · intro _
      exact ⟨checked, quotaDecides_eq_some.mpr ⟨passed, undecided⟩, full⟩
    · intro _
      exact ⟨error, rfl, isSessionQuotaExceeded_of_quotaError exceeded⟩
  · -- the put has passed the quota's check
    have vacant := mt (room checked).mpr (by rw [within]; simp)
    constructor
    · rcases dated with ⟨-, result⟩ | ⟨now, -, result⟩
      · rw [result]
        rintro ⟨_, ⟨⟩, ⟨⟩⟩
      · rw [result]
        rintro ⟨_, ⟨⟩, _⟩
    · rintro ⟨checked', decides, full⟩
      obtain rfl : checked = checked' :=
        Except.ok.inj (passed.symm.trans (quotaDecides_eq_some.mp decides).1)
      exact absurd full vacant

theorem rejected_put (accounted : memory.Accounted) {error : MemoryError}
    (rejected : (memory.put host options ref key kind value putOptions clock).2 = .error error) :
    OnlyExpiredRemoved memory (memory.put host options ref key kind value putOptions clock).1
        (clock 1) ↔
      ¬ StoppedByDate ref key kind value putOptions clock host options memory := by
  have room := quotaError_eq_some accounted ref key kind (clock 1)
  have looked : OnlyExpiredRemoved memory (memory.getStored (entryKey ref key kind) (clock 1)).1
      (clock 1) := by
    obtain ⟨-, ⟨same, -⟩ | ⟨stored, found, expired, -, removed⟩⟩ :=
      getStored_cases memory (entryKey ref key kind) (clock 1)
    · exact ⟨by rw [same], .inl same⟩
    · refine ⟨?_, .inr ⟨_, stored, found, expired, by rw [removed, deleteStored_entries found]⟩⟩
      rw [removed, deleteStored, if_pos (InsertionMap.has_of_get found)]
  rcases put_cases host options ref key kind value putOptions clock memory with
    ⟨error, thrown, result⟩ | ⟨checked, passed, ⟨answer, settled, result⟩ |
      ⟨undecided, ⟨error, exceeded, result⟩ | ⟨within, dated⟩⟩⟩
  · rw [result, iff_true_left ⟨rfl, .inl rfl⟩]
    rintro ⟨-, -, checked, decides, -⟩
    rw [(quotaDecides_eq_some.mp decides).1] at thrown
    cases thrown
  · rw [result, iff_true_left looked]
    rintro ⟨-, -, checked', decides, -⟩
    obtain ⟨passed', undecided⟩ := quotaDecides_eq_some.mp decides
    obtain rfl : checked = checked' := Except.ok.inj (passed.symm.trans passed')
    rw [undecided] at settled
    cases settled
  · rw [result, iff_true_left looked]
    rintro ⟨invalid, -, checked', decides, fits⟩
    obtain rfl : checked = checked' :=
      Except.ok.inj (passed.symm.trans (quotaDecides_eq_some.mp decides).1)
    obtain ⟨sessionId, maximum, scope, limited, full⟩ := (room checked).mp (by rw [exceeded]; rfl)
    have fits := fits sessionId maximum scope limited
    rw [invalid, otherUnexpiredBytes_invalid] at fits
    omega
  · rcases dated with ⟨invalid, result⟩ | ⟨now, -, result⟩
    · have decides : quotaDecides host options memory ref key kind value putOptions clock =
          some checked := quotaDecides_eq_some.mpr ⟨passed, undecided⟩
      rw [result]
      cases own : memory.ownEntry (entryKey ref key kind) (clock 1) with
      | some stored =>
        -- the entry that is there lends its id
        refine (iff_true_left looked).mpr ?_
        rintro ⟨-, absent, -⟩
        rw [own] at absent
        cases absent
      | none =>
        rw [iff_false_left fun kept => absurd (kept.1.trans looked.1.symm) (by simp)]
        rw [not_not]
        refine ⟨invalid, own, checked, decides, ?_⟩
        intro sessionId maximum scope limited
        rw [invalid, otherUnexpiredBytes_invalid]
        by_contra beyond
        have full := (room checked).mpr ⟨sessionId, maximum, scope, limited, by omega⟩
        rw [within] at full
        cases full
    · rw [result] at rejected
      cases rejected

end Main

def sessionEntries (memory : InMemoryMemory J) (sessionId : SessionId) :
    List (StoredMemoryEntry J) :=
  (InsertionMap.values memory.entries).filter fun stored => stored.entry.ref = .session sessionId

theorem storedBytes_eq_sum (memory : InMemoryMemory J) (sessionId : SessionId) :
    memory.storedBytes sessionId = ((memory.sessionEntries sessionId).map (·.valueBytes)).sum := by
  unfold storedBytes sessionEntries InsertionMap.values
  induction memory.entries with
  | nil => rfl
  | cons entry rest ih =>
    by_cases own : entry.2.entry.ref = .session sessionId <;> simp [ih, own, sessionWeight]

theorem storedBytes_eq_zero (memory : InMemoryMemory J) (sessionId : SessionId) :
    memory.storedBytes sessionId = 0 ↔ (memory.sessionEntries sessionId).isEmpty = true := by
  rw [storedBytes, Lib.InsertionMap.total_eq_zero, List.isEmpty_iff, sessionEntries,
    List.filter_eq_nil_iff]
  simp only [InsertionMap.values, List.forall_mem_map, decide_eq_true_eq, sessionWeight_eq_zero]

/-- In every run the counter of a session is the sum of its stored values, and is absent without any.
A `put` that is rejected takes nothing away but an expired entry, save that it loses an id when the
clock gives it an invalid date to store a new entry with. And where its quota decides, it is rejected
as it should be, unless the value fits beside the unexpired entries and not beside the expired ones
that are still stored. -/
theorem memory_quota (host : MemoryHost V J) (options : InMemoryMemoryOptions)
    (calls : List (MemoryCall V)) :
    let memory := run (step host options) empty calls
    (∀ sessionId, InsertionMap.get memory.sessionBytes sessionId =
      if (memory.sessionEntries sessionId).isEmpty then none
      else some ((((memory.sessionEntries sessionId).map (·.valueBytes)).sum : Nat) : Int)) ∧
    ∀ ref key kind value putOptions clock,
      let storageKey := entryKey ref key kind
      let result := memory.put host options ref key kind value putOptions clock
      (∀ error, result.2 = .error error →
        (OnlyExpiredRemoved memory result.1 (clock 1) ↔
          ¬ StoppedByDate ref key kind value putOptions clock host options memory)) ∧
      (∀ checked sessionId maximum,
        quotaDecides host options memory ref key kind value putOptions clock = some checked →
        ref = .session sessionId → checked.maxSessionBytes = some maximum →
        let unexpired := memory.otherUnexpiredBytes sessionId storageKey (clock 0)
        let expired := memory.otherExpiredBytes sessionId storageKey (clock 0)
        let size := checked.serializedValue.byteLength
        (IsQuotaError result.2 ↔ maximum < unexpired + size) ↔
          ¬ (unexpired + size ≤ maximum ∧ maximum < unexpired + expired + size)) ∧
      (IsQuotaError result.2 →
        ∃ checked sessionId maximum,
          quotaDecides host options memory ref key kind value putOptions clock = some checked ∧
            ref = .session sessionId ∧ checked.maxSessionBytes = some maximum) := by
  intro memory
  have accounted : memory.Accounted := run_accounted calls
  refine ⟨?_, ?_⟩
  · intro sessionId
    rw [accounted.counted sessionId, ← storedBytes_eq_sum]
    exact if_congr (storedBytes_eq_zero memory sessionId) rfl rfl
  · intro ref key kind value putOptions clock storageKey result
    have quota := isQuotaError_iff host options ref key kind value putOptions clock
      accounted
    refine ⟨fun error rejected => rejected_put accounted rejected, ?_, ?_⟩
    · intro checked sessionId maximum decides scope limited unexpired expired size
      have others : memory.otherBytes sessionId (entryKey ref key kind) = unexpired + expired :=
        memory.otherBytes_eq_add sessionId storageKey (clock 0)
      have exceeds : IsQuotaError result.2 ↔ maximum < unexpired + expired + size := by
        rw [quota]
        constructor
        · rintro ⟨checked', decides', sessionId', maximum', scope', limited', full⟩
          obtain rfl : checked = checked' := Option.some.inj (decides.symm.trans decides')
          obtain rfl : sessionId = sessionId' := MemoryRef.session.inj (scope.symm.trans scope')
          obtain rfl : maximum = maximum' := Option.some.inj (limited.symm.trans limited')
          omega
        · intro full
          exact ⟨checked, decides, sessionId, maximum, scope, limited, by omega⟩
      rw [exceeds]
      omega
    · intro rejected
      obtain ⟨checked, decides, sessionId, maximum, scope, limited, -⟩ := quota.mp rejected
      exact ⟨checked, sessionId, maximum, decides, scope, limited⟩

/-- A codec for plain texts, quoted. -/
def textHost : MemoryHost String String where
  serializeJsonValue value := .ok ⟨"\"" ++ value ++ "\"", by simp⟩
  parse serialized := serialized.val
  asTags _ := none
  isObject _ := false
  valuesEqual first second := first = second
  snapshot value := value
  decimal value := toString value.num ++ "/" ++ toString value.den
  addMs now ttlMs := now + ttlMs
  localeCompare _ _ := 0

/-- An entry that expired 90 ms ago and that nobody has asked for since counts against the quota. -/
theorem put_counts_expired :
    let options : InMemoryMemoryOptions := { idPrefix := "mem", maxEntryBytes := none }
    let memory := run (step textHost options) empty
      [.put (.session "call") "first" .fact "old" { ttlMs := some (.finite 10) } fun _ => some 0]
    let storageKey := entryKey (.session "call") "second" .fact
    (memory.put textHost options (.session "call") "second" .fact "new"
      { maxSessionBytes := some (.finite 5) } fun _ => some 100).2 =
        .error (.sessionQuotaExceeded "call" 5 5 5) ∧
      memory.otherUnexpiredBytes "call" storageKey (some 100) = 0 := by
  decide +kernel

end Tvic.InMemoryMemory
