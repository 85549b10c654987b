import Tvic.Redis.RecoveryListing

/-!
# The preflight of the recovery listing

What the script reads before it writes is all that its two loops look up: a member of the second page
of candidates was on the first page, or came from the due index under its own encoded id.
-/
namespace Tvic.Redis

open Lib

variable {decode : Bytes → Option LuaValue} {get : Bytes → GetReply} {keyPrefix : Bytes}
  {now : Nat}

def Preloaded (keyPrefix : Bytes) (cache : LeaseCache) (encodedId : Bytes) : Prop :=
  ∃ lease, cache.get (keyPrefix ++ encodedId) = some lease

theorem preloaded_of_has {cache : LeaseCache} {encodedId : Bytes}
    (has : cache.has (keyPrefix ++ encodedId) = true) : Preloaded keyPrefix cache encodedId := by
  cases found : cache.get (keyPrefix ++ encodedId) with
  | some lease => exact ⟨lease, found⟩
  | none => exact absurd (InsertionMap.has_eq_true.mp has) (InsertionMap.get_eq_none.mp found)

theorem preloadIndexedLease_ok {cache cache' : LeaseCache} {encodedId : Bytes}
    (read : preloadIndexedLease get keyPrefix cache encodedId = .ok cache') :
    Preloaded keyPrefix cache' encodedId ∧
      ∀ other, Preloaded keyPrefix cache other → Preloaded keyPrefix cache' other := by
  unfold preloadIndexedLease at read
  dsimp only at read
  split at read
  next has =>
    cases read
    exact ⟨preloaded_of_has has, fun _ kept => kept⟩
  next =>
    split at read
    · cases read
    next lease _ =>
      cases read
      refine ⟨⟨lease, InsertionMap.get_set_self ..⟩, ?_⟩
      rintro other ⟨old, found⟩
      by_cases same : keyPrefix ++ other = keyPrefix ++ encodedId
      · exact ⟨lease, by rw [same, InsertionMap.get_set_self]⟩
      · exact ⟨old, by rw [InsertionMap.get_set_of_ne _ same, found]⟩

theorem preload_ok {encodedIds : List Bytes} {cache : LeaseCache}
    (read : preload get keyPrefix encodedIds = .ok cache) :
    ∀ encodedId ∈ encodedIds, Preloaded keyPrefix cache encodedId := by
  have steps : ∀ (ids : List Bytes) (first : LeaseCache),
      ids.foldlM (preloadIndexedLease get keyPrefix) first = .ok cache →
        (∀ id ∈ ids, Preloaded keyPrefix cache id) ∧
          ∀ other, Preloaded keyPrefix first other → Preloaded keyPrefix cache other := by
    intro ids
    induction ids with
    | nil =>
      intro first done
      cases done
      exact ⟨by simp, fun _ kept => kept⟩
    | cons id rest ih =>
      intro first done
      rw [List.foldlM_cons] at done
      cases next : preloadIndexedLease get keyPrefix first id with
      | error error =>
        rw [next] at done
        cases done
      | ok second =>
        rw [next] at done
        obtain ⟨own, kept⟩ := preloadIndexedLease_ok next
        obtain ⟨later, keptLater⟩ := ih second done
        refine ⟨fun other listed => ?_, fun other old => keptLater other (kept other old)⟩
        rcases List.mem_cons.mp listed with rfl | inRest
        · exact keptLater other own
        · exact later other inRest
  exact (steps encodedIds [] read).1

/-! ## The candidates during the migration -/

/-- The candidates have grown, by members whose leases were read. -/
structure Migrated (keyPrefix : Bytes) (cache : LeaseCache) (before after : LexSet Bytes) :
    Prop where
  grown : before.members ⊆ after.members
  read : ∀ sessionId ∈ after.members,
    sessionId ∈ before.members ∨ Preloaded keyPrefix cache (Script.encodeKeyPart sessionId)

theorem Migrated.refl (cache : LeaseCache) (set : LexSet Bytes) :
    Migrated keyPrefix cache set set :=
  ⟨fun _ listed => listed, fun _ listed => .inl listed⟩

theorem Migrated.add {cache : LeaseCache} {before after : LexSet Bytes}
    (migrated : Migrated keyPrefix cache before after) {sessionId : Bytes}
    (read : Preloaded keyPrefix cache (Script.encodeKeyPart sessionId)) :
    Migrated keyPrefix cache before (after.add sessionId) := by
  refine ⟨fun _ listed => LexSet.mem_add.mpr (.inr (migrated.grown listed)), ?_⟩
  intro other listed
  rcases LexSet.mem_add.mp listed with rfl | old
  · exact .inr read
  · exact migrated.read other old

@[simp] theorem dropDue_candidates (listing : Listing) (encodedId : Bytes) :
    (listing.dropDue encodedId).indexes.candidates = listing.indexes.candidates := rfl

@[simp] theorem addDue_candidates (listing : Listing) (expiresAtMs : Nat) (encodedId : Bytes) :
    (listing.addDue expiresAtMs encodedId).indexes.candidates = listing.indexes.candidates := rfl

@[simp] theorem addCandidate_candidates (listing : Listing) (sessionId : Bytes) :
    (listing.addCandidate sessionId).indexes.candidates =
      listing.indexes.candidates.add sessionId := rfl

@[simp] theorem reportCorruptLease_indexes (listing : Listing) (sessionId : Bytes) :
    (listing.reportCorruptLease sessionId).indexes = listing.indexes := by
  unfold Listing.reportCorruptLease
  split <;> rfl

theorem migrateDue_preloaded {cache : LeaseCache} {before : LexSet Bytes} {listing : Listing}
    {encodedId : Bytes} (read : Preloaded keyPrefix cache encodedId)
    (migrated : Migrated keyPrefix cache before listing.indexes.candidates) :
    ∃ listing', migrateDue decode keyPrefix now cache listing encodedId = .ok listing' ∧
      Migrated keyPrefix cache before listing'.indexes.candidates := by
  obtain ⟨indexedLease, found⟩ := read
  unfold migrateDue
  rw [found]
  dsimp only
  cases indexedLease.raw with
  | none =>
    refine ⟨_, rfl, ?_⟩
    rw [dropDue_candidates]
    split
    · rwa [reportCorruptLease_indexes]
    · exact migrated
  | some raw =>
    dsimp only
    split
    next lease generationId _ _ =>
      split
      next own =>
        split
        · exact ⟨_, rfl, migrated⟩
        · split
          · -- the guard on the id says which entry of the cache is the candidate's
            refine ⟨_, rfl, ?_⟩
            rw [dropDue_candidates, addCandidate_candidates]
            exact migrated.add (own ▸ ⟨indexedLease, found⟩)
          · exact ⟨_, rfl, migrated⟩
      next =>
        refine ⟨_, rfl, ?_⟩
        rwa [dropDue_candidates, reportCorruptLease_indexes]
    next =>
      refine ⟨_, rfl, ?_⟩
      rwa [dropDue_candidates, reportCorruptLease_indexes]

theorem migrateDue_run {cache : LeaseCache} {before : LexSet Bytes} {encodedIds : List Bytes}
    (read : ∀ encodedId ∈ encodedIds, Preloaded keyPrefix cache encodedId) (listing : Listing)
    (migrated : Migrated keyPrefix cache before listing.indexes.candidates) :
    ∃ listing', encodedIds.foldlM (migrateDue decode keyPrefix now cache) listing = .ok listing' ∧
      Migrated keyPrefix cache before listing'.indexes.candidates := by
  induction encodedIds generalizing listing with
  | nil => exact ⟨listing, rfl, migrated⟩
  | cons encodedId rest ih =>
    obtain ⟨next, moved, stillMigrated⟩ :=
      @migrateDue_preloaded decode keyPrefix now cache before listing encodedId
        (read encodedId List.mem_cons_self) migrated
    rw [List.foldlM_cons, moved]
    exact ih (fun other listed => read other (List.mem_cons_of_mem _ listed)) next stillMigrated

/-! ## The second page -/

theorem inspectCandidate_preloaded {cache : LeaseCache} {sessionId : Bytes}
    (read : Preloaded keyPrefix cache (Script.encodeKeyPart sessionId)) (listing : Listing) :
    ∃ listing', inspectCandidate decode keyPrefix now cache listing sessionId = .ok listing' := by
  obtain ⟨indexedLease, found⟩ := read
  unfold inspectCandidate
  rw [found]
  dsimp only
  split
  · exact ⟨_, rfl⟩
  · split
    · split <;> exact ⟨_, rfl⟩
    · split <;> exact ⟨_, rfl⟩

theorem inspectCandidate_run {cache : LeaseCache} {sessionIds : List Bytes}
    (read : ∀ sessionId ∈ sessionIds,
      Preloaded keyPrefix cache (Script.encodeKeyPart sessionId)) (listing : Listing) :
    ∃ listing',
      sessionIds.foldlM (inspectCandidate decode keyPrefix now cache) listing = .ok listing' := by
  induction sessionIds generalizing listing with
  | nil => exact ⟨listing, rfl⟩
  | cons sessionId rest ih =>
    obtain ⟨next, inspected⟩ := @inspectCandidate_preloaded decode keyPrefix now cache sessionId
      (read sessionId List.mem_cons_self) listing
    rw [List.foldlM_cons, inspected]
    exact ih (fun other listed => read other (List.mem_cons_of_mem _ listed)) next

theorem secondPage_preloaded {indexes : LeaseIndexes} {cursor : Option Bytes} {limit : Nat}
    {cache : LeaseCache} (read : preload get keyPrefix (preflightIds indexes cursor limit now) =
      .ok cache) {after : LexSet Bytes}
    (migrated : Migrated keyPrefix cache indexes.candidates after) :
    ∀ sessionId ∈ (after.range cursor (limit + 1)).take limit,
      Preloaded keyPrefix cache (Script.encodeKeyPart sessionId) := by
  intro sessionId listed
  have page : sessionId ∈ after.range cursor limit := by
    rwa [LexSet.range, List.take_take, Nat.min_eq_left (Nat.le_succ limit)] at listed
  rcases migrated.read sessionId (LexSet.mem_range page).1 with old | fresh
  · have first : sessionId ∈ (indexes.candidates.range cursor (limit + 1)).take limit := by
      rw [LexSet.range, List.take_take, Nat.min_eq_left (Nat.le_succ limit)]
      exact LexSet.mem_range_of_subset migrated.grown old page
    exact preload_ok read _ (List.mem_append_right _ (List.mem_map_of_mem first))
  · exact fresh

theorem listRecoveryCandidates_ok {cursor : Option Bytes} {limit seconds microseconds : Nat}
    {due : SortedSet Bytes} {candidates : LexSet Bytes} {cache : LeaseCache}
    (safe : ¬maxSafeInteger < seconds * 1000 + microseconds / 1000)
    (read : preload get keyPrefix (preflightIds ⟨due, candidates⟩ cursor limit
      (seconds * 1000 + microseconds / 1000)) = .ok cache) :
    ∃ page indexes, listRecoveryCandidates decode get keyPrefix seconds microseconds cursor limit
      (some due) (some candidates) = (.ok page, indexes) := by
  have preloaded := preload_ok read
  obtain ⟨migrated, moved, grown⟩ :=
    @migrateDue_run decode keyPrefix (seconds * 1000 + microseconds / 1000) cache candidates
      ((dueMembers due (seconds * 1000 + microseconds / 1000) limit).take limit)
      (fun id listed => preloaded id (List.mem_append_left _ listed)) ⟨⟨due, candidates⟩, [], []⟩
      (.refl cache candidates)
  obtain ⟨listing, inspected⟩ :=
    @inspectCandidate_run decode keyPrefix (seconds * 1000 + microseconds / 1000) cache _
      (secondPage_preloaded read grown) migrated
  unfold listRecoveryCandidates
  dsimp only
  rw [if_neg safe, read]
  dsimp only
  rw [moved]
  dsimp only
  rw [inspected]
  exact ⟨_, _, rfl⟩

theorem preload_error {encodedIds : List Bytes} {error : ScriptError}
    (failed : preload get keyPrefix encodedIds = .error error) :
    ∃ message, error = .read message := by
  have steps : ∀ (ids : List Bytes) (first : LeaseCache),
      ids.foldlM (preloadIndexedLease get keyPrefix) first = .error error →
        ∃ message, error = .read message := by
    intro ids
    induction ids with
    | nil =>
      intro first done
      cases done
    | cons id rest ih =>
      intro first done
      rw [List.foldlM_cons] at done
      cases next : preloadIndexedLease get keyPrefix first id with
      | ok second =>
        rw [next] at done
        exact ih second done
      | error own =>
        rw [next] at done
        cases done
        unfold preloadIndexedLease readIndexedLease at next
        dsimp only at next
        split at next
        · cases next
        · split at next
          next failure =>
            split at failure
            · cases failure
            · split at failure
              · cases failure
              · cases failure
                cases next
                exact ⟨_, rfl⟩
            · cases failure
              cases next
              exact ⟨_, rfl⟩
          · cases next
  exact steps encodedIds [] failed

theorem listRecoveryCandidates_error {cursor : Option Bytes} {limit seconds microseconds : Nat}
    {due : Option (SortedSet Bytes)} {candidates : Option (LexSet Bytes)} {error : ScriptError}
    {indexes : Option (SortedSet Bytes) × Option (LexSet Bytes)}
    (refused : listRecoveryCandidates decode get keyPrefix seconds microseconds cursor limit due
      candidates = (.error error, indexes)) :
    indexes = (due, candidates) ∧ error ≠ .preflightMissed ∧ error ≠ .nilIndex := by
  cases due with
  | none =>
    cases refused
    exact ⟨rfl, nofun, nofun⟩
  | some dueSet =>
    cases candidates with
    | none =>
      cases refused
      exact ⟨rfl, nofun, nofun⟩
    | some candidateSet =>
      by_cases safe : maxSafeInteger < seconds * 1000 + microseconds / 1000
      · rw [listRecoveryCandidates, if_pos safe] at refused
        cases refused
        exact ⟨rfl, nofun, nofun⟩
      · cases read : preload get keyPrefix (preflightIds ⟨dueSet, candidateSet⟩ cursor limit
          (seconds * 1000 + microseconds / 1000)) with
        | ok cache =>
          obtain ⟨page, after, done⟩ := @listRecoveryCandidates_ok decode get keyPrefix cursor limit
            seconds microseconds dueSet candidateSet cache safe read
          rw [done] at refused
          cases refused
        | error failure =>
          rw [listRecoveryCandidates, if_neg safe] at refused
          dsimp only at refused
          rw [read] at refused
          cases refused
          obtain ⟨message, rfl⟩ := preload_error read
          exact ⟨rfl, nofun, nofun⟩

/-- Whatever the two indexes hold, every candidate that the second loop inspects was read before, so
the script never reports a missed preflight. -/
theorem recoveryListing_preflighted (decode : Bytes → Option LuaValue) (get : Bytes → GetReply)
    (keyPrefix : Bytes) (seconds microseconds : Nat) (cursor : Option Bytes) (limit : Nat) :
    (∀ (due : SortedSet Bytes) (candidates : LexSet Bytes) cache migrated,
      preload get keyPrefix (preflightIds ⟨due, candidates⟩ cursor limit
        (seconds * 1000 + microseconds / 1000)) = .ok cache →
      ((dueMembers due (seconds * 1000 + microseconds / 1000) limit).take limit).foldlM
        (migrateDue decode keyPrefix (seconds * 1000 + microseconds / 1000) cache)
          ⟨⟨due, candidates⟩, [], []⟩ = .ok migrated →
      ∀ sessionId ∈ (migrated.indexes.candidates.range cursor (limit + 1)).take limit,
        ∃ lease, cache.get (keyPrefix ++ Script.encodeKeyPart sessionId) = some lease) ∧
    ∀ (due : Option (SortedSet Bytes)) (candidates : Option (LexSet Bytes)),
      (listRecoveryCandidates decode get keyPrefix seconds microseconds cursor limit due
        candidates).1 ≠ .error .preflightMissed := by
  constructor
  · intro due candidates cache migrated read moved
    have preloaded := preload_ok read
    obtain ⟨migrated', moved', grown⟩ :=
      @migrateDue_run decode keyPrefix (seconds * 1000 + microseconds / 1000) cache candidates
        ((dueMembers due (seconds * 1000 + microseconds / 1000) limit).take limit)
        (fun id listed => preloaded id (List.mem_append_left _ listed)) ⟨⟨due, candidates⟩, [], []⟩
        (.refl cache candidates)
    rw [moved] at moved'
    cases moved'
    exact secondPage_preloaded read grown
  · intro due candidates missed
    obtain ⟨-, found, -⟩ := @listRecoveryCandidates_error decode get keyPrefix cursor limit seconds
      microseconds due candidates .preflightMissed _ (Prod.ext missed rfl)
    exact found rfl

end Tvic.Redis
