import Tvic.Dal.LeaseFencing
import Tvic.Runtime.TurnLifecycle

/-!
# The recovery of an attachment

`attachRuntimeSession` acquires the lease of a session, reads the session's tool calls outside any
transaction and commits its recovery under the lease. Other writers go on: unfenced ones, and holders
of other leases. The store runs the transactions of the session one at a time and looks at the lease
before a body and after it; a read outside a transaction may see what a running one has written so
far. The recovery closes all that was left open, since its snapshot is the table it is committed on.
-/
namespace Tvic.Runtime

open Lib InMemoryDurableRuntime LeaseFencing

variable {N : Type}

/-! ### The attachment among other writers -/

/-- How a transaction is let through. -/
inductive Access where
  | unfenced
  | fenced (lease : LeaseIdentity)

def Access.allowed : Access → Option SessionLease → Bool
  | .unfenced => (·.isNone)
  | .fenced lease => owns lease

def leaseIdentity (lease : SessionLease) : LeaseIdentity :=
  ⟨lease.holder, .int lease.fence, lease.generationId⟩

/-- The transaction that is between its two looks at the lease. -/
inductive Running where
  | write (access : Access)
  | recovery

/-- Where the call of `attachSession` is. -/
inductive AttachPhase (N : Type) where
  | idle
  | acquired (lease : SessionLease)
  | prepared (lease : SessionLease) (records : List (StoredToolCallRecord (JsValue N)))
  | recovered

structure AttachState (N : Type) where
  store : Store (JsValue N)
  running : Option Running
  attach : AttachPhase N
  /-- The identifiers that `crypto.randomUUID()` has given. -/
  drawn : List String

namespace AttachState

/-- The store lets a transaction pass at this moment. -/
def Passes (state : AttachState N) (sessionId : SessionId) (now : Nat) (access : Access) : Prop :=
  ∃ active, state.store.rawLeases.getCurrent (.int now) sessionId = .ok active ∧
    access.allowed active = true

/-- Whether the lease is another one than that of the attachment. -/
def Foreign (state : AttachState N) : Access → Prop
  | .unfenced => True
  | .fenced lease => match state.attach with
    | .acquired own | .prepared own _ => lease.generationId ≠ own.generationId
    | _ => True

end AttachState

variable (json : JsonCodec (JsValue N)) (sessionId : SessionId)

/-- The transaction of the recovery, on what the attachment has prepared. -/
def recovery (records : List (StoredToolCallRecord (JsValue N)))
    (lookup : String → ToolRecoveryLookup (JsValue N)) (readings : RecoveryReadings) :
    SessionTransaction N :=
  .recoverAttachment sessionId lookup records readings

structure RecoveryCommits (now : Nat) (state state' : AttachState N) (lease : SessionLease)
    (records : List (StoredToolCallRecord (JsValue N)))
    (lookup : String → ToolRecoveryLookup (JsValue N)) (readings : RecoveryReadings)
    (view : View (JsValue N)) : Prop where
  running : state.running = some .recovery
  attach : state.attach = .prepared lease records
  passes : state.Passes sessionId now (.fenced (leaseIdentity lease))
  ran : (recovery sessionId records lookup readings).body json (some lease.fence) state.store.view =
    .ok (none, view)
  state_eq : state' = { state with store := view.commit, running := none, attach := .recovered }

inductive AttachStep (now : Nat) (state : AttachState N) : AttachState N → Prop where
  | lease (call : LeaseCall)
      (fresh : ∀ uuid ∈ (TimedCall.mk (.int now) call).uuid, uuid ∉ state.drawn) :
      AttachStep now state
        { state with
          store := { state.store with
            rawLeases := LeaseFencing.step state.store.rawLeases ⟨.int now, call⟩ }
          drawn := (TimedCall.mk (.int now) call).uuid.toList ++ state.drawn }
  /-- The attachment gets the lease; the call waits for transactions of the session. -/
  | acquire {randomUUID holder : String} {ttlMs : Number} {lease : SessionLease}
      {rawLeases : InMemorySessionLeaseStore} (quiet : state.running = none)
      (idle : state.attach = .idle) (fresh : randomUUID ∉ state.drawn)
      (acquired : state.store.rawLeases.acquire (.int now) randomUUID sessionId holder ttlMs =
        .ok (some lease, rawLeases)) :
      AttachStep now state
        { store := { state.store with rawLeases }
          running := none
          attach := .acquired lease
          drawn := randomUUID :: state.drawn }
  | snapshot {lease : SessionLease} {records : List (StoredToolCallRecord (JsValue N))}
      (held : state.attach = .acquired lease)
      (read : state.running = none → records = state.store.view.toolCalls sessionId) :
      AttachStep now state { state with attach := .prepared lease records }
  /-- Another transaction passes its first look at the lease. -/
  | begin {access : Access} (quiet : state.running = none) (foreign : state.Foreign access)
      (passes : state.Passes sessionId now access) :
      AttachStep now state { state with running := some (.write access) }
  /-- It passes the second one, and what it has written stays. -/
  | commit {access : Access} {transaction : SessionTransaction N} {lease : Option Nat}
      {report : Option (PersistedSessionEnd (JsValue N))} {view : View (JsValue N)}
      (running : state.running = some (.write access))
      (passes : state.Passes sessionId now access) (own : transaction.sessionId = sessionId)
      (ran : transaction.body json lease state.store.view = .ok (report, view)) :
      AttachStep now state { state with store := view.commit, running := none }
  | beginRecovery {lease : SessionLease} {records : List (StoredToolCallRecord (JsValue N))}
      (quiet : state.running = none) (prepared : state.attach = .prepared lease records)
      (passes : state.Passes sessionId now (.fenced (leaseIdentity lease))) :
      AttachStep now state { state with running := some .recovery }
  | recover {state' : AttachState N} {lease : SessionLease}
      {records : List (StoredToolCallRecord (JsValue N))}
      {lookup : String → ToolRecoveryLookup (JsValue N)} {readings : RecoveryReadings}
      {view : View (JsValue N)}
      (commits : RecoveryCommits json sessionId now state state' lease records lookup readings
        view) : AttachStep now state state'
  /-- A transaction is rolled back. -/
  | rollback : AttachStep now state { state with running := none }
  | detach (settled : state.running ≠ some .recovery) :
      AttachStep now state { state with attach := .idle }

/-- Runs under a clock that does not go back. -/
inductive AttachReaches (start : AttachState N) : Nat → AttachState N → Prop where
  | start (now : Nat) : AttachReaches start now start
  | step {earlier now : Nat} {state state' : AttachState N}
      (reached : AttachReaches start earlier state) (later : earlier ≤ now)
      (step : AttachStep json sessionId now state state') : AttachReaches start now state'

/-! ### The lease keeps the snapshot current -/

section Guarded

variable {json sessionId} {state state' : AttachState N} {now : Nat} {lease : SessionLease}

/-- The generation of the lease is past for this session, and will not be live again. -/
def Over (state : AttachState N) (sessionId : SessionId) (now : Nat) (lease : SessionLease) : Prop :=
  Past state.store.rawLeases now { lease with sessionId }

/-- What holds of an attachment at a moment: its lease is over, or nobody writes. -/
structure Guarded (state : AttachState N) (sessionId : SessionId) (now : Nat) : Prop where
  distinct : Distinct state.store.view sessionId
  known : ∀ current, state.store.rawLeases.leases sessionId = some current →
    current.generationId ∈ state.drawn
  acquired : ∀ lease, state.attach = .acquired lease → lease.generationId ∈ state.drawn ∧
    (state.running = none ∨ Over state sessionId now lease)
  prepared : ∀ lease records, state.attach = .prepared lease records →
    lease.generationId ∈ state.drawn ∧
    (((state.running = none ∨ state.running = some .recovery) ∧
      records = state.store.view.toolCalls sessionId) ∨ Over state sessionId now lease)

theorem Guarded.mono {later : Nat} (guarded : Guarded state sessionId now) (le : now ≤ later) :
    Guarded state sessionId later where
  distinct := guarded.distinct
  known := guarded.known
  acquired lease attach :=
    (guarded.acquired lease attach).imp_right (Or.imp_right fun gone => gone.mono le)
  prepared lease records attach :=
    (guarded.prepared lease records attach).imp_right (Or.imp_right fun gone => gone.mono le)

theorem over_of_foreign {access : Access}
    (passes : state.Passes sessionId now access)
    (foreign : ∀ other, access = .fenced other → other.generationId ≠ lease.generationId) :
    Over state sessionId now lease := by
  obtain ⟨active, got, allowed⟩ := passes
  obtain rfl := InMemorySessionLeaseStore.getCurrent_eq_ok got
  intro current stored same
  cases access with
  | unfenced =>
    -- nobody holds a live lease
    by_contra late
    have live := InMemorySessionLeaseStore.liveAt_eq_some.mpr ⟨stored, Nat.lt_of_not_le late⟩
    rw [live] at allowed
    cases allowed
  | fenced other =>
    -- the live lease is of another generation
    obtain ⟨holder, live, -, -, owned⟩ := owns_eq_true.mp allowed
    obtain ⟨found, -⟩ := InMemorySessionLeaseStore.liveAt_eq_some.mp live
    obtain rfl := Option.some.inj (found.symm.trans stored)
    exact absurd (owned.symm.trans same) (foreign other rfl)

theorem not_over_of_passes
    (passes : state.Passes sessionId now (.fenced (leaseIdentity lease))) :
    ¬Over state sessionId now lease := by
  obtain ⟨active, got, allowed⟩ := passes
  obtain rfl := InMemorySessionLeaseStore.getCurrent_eq_ok got
  obtain ⟨current, live, -, -, owned⟩ := owns_eq_true.mp allowed
  obtain ⟨stored, alive⟩ := InMemorySessionLeaseStore.liveAt_eq_some.mp live
  exact fun gone => Nat.not_lt_of_le (gone current stored owned) alive

theorem write_rawLeases {view : View (JsValue N)} {turns' : List (StoredTurnRecord (JsValue N))}
    {toolCalls' : List (StoredToolCallRecord (JsValue N))} {stored : StoredSessionRecord (JsValue N)}
    {events : List (Event (JsValue N))} :
    (view.write sessionId turns' toolCalls' stored events).store.rawLeases = view.store.rawLeases := by
  rw [View.write, View.store_stageAll]
  rfl

theorem Effect.rawLeases {fence : Nat} {snapshot : Option (List (StoredToolCallRecord (JsValue N)))}
    {view view' : View (JsValue N)} {report : Option (PersistedSessionEnd (JsValue N))}
    (effect : Effect json sessionId fence snapshot view view' report) :
    view'.store.rawLeases = view.store.rawLeases := by
  cases effect with
  | unchanged same _ => rw [same]
  | sessionStarted own started =>
    obtain ⟨event, -, rfl⟩ := started.written
    rw [View.store_stage]
    rfl
  | turnStarted _ _ _ _ _ written =>
    obtain ⟨_, _, _, _, -, -, -, rfl⟩ := written.written
    exact write_rawLeases
  | turnEnded _ _ written =>
    obtain ⟨_, _, _, _, -, -, -, rfl⟩ := written.written
    exact write_rawLeases
  | turnChanged _ changed =>
    obtain ⟨_, _, _, -, -, -, written⟩ := changed
    obtain ⟨_, _, _, _, -, -, -, rfl⟩ := written.written
    exact write_rawLeases
  | toolCallStarted _ started =>
    obtain ⟨_, _, _, -, -, -, rfl⟩ := started.written
    exact write_rawLeases
  | toolCallWritten _ _ written =>
    obtain ⟨_, _, -, -, rfl⟩ := written.written
    exact write_rawLeases
  | recovered _ recovery =>
    rw [recovery.view_eq]
    exact write_rawLeases
  | ended _ _ ending =>
    rw [ending.view_eq]
    exact write_rawLeases

theorem over_lease (call : LeaseCall) (gone : Over state sessionId now lease)
    (fresh : ∀ uuid ∈ (TimedCall.mk (.int now) call).uuid, uuid ∉ state.drawn)
    (known : lease.generationId ∈ state.drawn) :
    Past (LeaseFencing.step state.store.rawLeases ⟨.int now, call⟩) now { lease with sessionId } := by
  refine past_step gone (fun n reading => ?_) fun drawn => fresh _ drawn known
  have clock : (Number.int now).safeInteger? 0 = some n := reading
  obtain ⟨same, -⟩ := Number.safeInteger?_eq_some clock
  obtain rfl : now = n := Int.ofNat.inj (Number.int.inj same)
  exact ⟨le_rfl, gone⟩

theorem acquire_known {randomUUID holder : String} {ttlMs : Number}
    {rawLeases : InMemorySessionLeaseStore} {store : InMemorySessionLeaseStore}
    {drawn : List String}
    (known : ∀ current, store.leases sessionId = some current → current.generationId ∈ drawn)
    (acquired : store.acquire (.int now) randomUUID sessionId holder ttlMs =
      .ok (some lease, rawLeases)) :
    lease.generationId ∈ randomUUID :: drawn ∧
      ∀ current, rawLeases.leases sessionId = some current →
        current.generationId ∈ randomUUID :: drawn := by
  obtain ⟨nowMs, -, ⟨current, live, given, rfl⟩ | ⟨-, granted, given, own, -, -, -, generation,
    -, leases, -⟩⟩ := InMemorySessionLeaseStore.acquire_eq_ok acquired
  · obtain ⟨stored, -⟩ := InMemorySessionLeaseStore.liveAt_eq_some.mp live
    refine ⟨List.mem_cons_of_mem _ ?_, fun other found => List.mem_cons_of_mem _ (known other found)⟩
    split at given
    · obtain rfl := Option.some.inj given
      exact known _ stored
    · cases given
  · obtain rfl := Option.some.inj given
    refine ⟨by simp [generation], fun other found => ?_⟩
    rw [leases, Function.update_self] at found
    obtain rfl := Option.some.inj found
    simp [generation]

theorem guarded_step (guarded : Guarded state sessionId now)
    (step : AttachStep json sessionId now state state') : Guarded state' sessionId now := by
  cases step with
  | lease call fresh =>
    refine ⟨⟨guarded.distinct.turns, guarded.distinct.toolCalls⟩, fun current stored => ?_,
      fun lease attach => ?_, fun lease records attach => ?_⟩
    · rcases generation_step stored with ⟨former, found, same⟩ | drawn
      · exact List.mem_append_right _ (same ▸ guarded.known former found)
      · exact List.mem_append_left _ (by simp [drawn])
    · obtain ⟨known, held⟩ := guarded.acquired lease attach
      exact ⟨List.mem_append_right _ known, held.imp_right fun gone => over_lease call gone fresh known⟩
    · obtain ⟨known, held⟩ := guarded.prepared lease records attach
      exact ⟨List.mem_append_right _ known, held.imp_right fun gone => over_lease call gone fresh known⟩
  | acquire quiet idle fresh acquired =>
    obtain ⟨own, known⟩ := acquire_known guarded.known acquired
    refine ⟨⟨guarded.distinct.turns, guarded.distinct.toolCalls⟩, known, fun lease attach => ?_, nofun⟩
    cases attach
    exact ⟨own, .inl rfl⟩
  | @snapshot lease records held read =>
    refine ⟨guarded.distinct, guarded.known, nofun, fun _ _ attach => ?_⟩
    cases attach
    obtain ⟨known, quiet | gone⟩ := guarded.acquired lease held
    · exact ⟨known, .inl ⟨.inl quiet, read quiet⟩⟩
    · exact ⟨known, .inr gone⟩
  | @begin access quiet foreign passes =>
    -- whoever else begins finds the lease over
    refine ⟨guarded.distinct, guarded.known, fun lease attach => ?_, fun lease records attach => ?_⟩
    · have attach' : state.attach = .acquired lease := attach
      have gone : Over state sessionId now lease := over_of_foreign passes (by
        rintro other rfl
        simpa [AttachState.Foreign, attach'] using foreign)
      exact ⟨(guarded.acquired lease attach).1, .inr gone⟩
    · have attach' : state.attach = .prepared lease records := attach
      have gone : Over state sessionId now lease := over_of_foreign passes (by
        rintro other rfl
        simpa [AttachState.Foreign, attach'] using foreign)
      exact ⟨(guarded.prepared lease records attach).1, .inr gone⟩
  | @commit access transaction fence report view running passes own ran =>
    have effect := body_effect own guarded.distinct ran
    have leases : view.store.rawLeases = state.store.rawLeases := effect.rawLeases
    have distinct := effect.distinct guarded.distinct
    refine ⟨⟨distinct.turns, distinct.toolCalls⟩, ?_, fun lease attach => ?_,
      fun lease records attach => ?_⟩
    · intro current stored
      exact guarded.known current (leases ▸ stored)
    · obtain ⟨known, quiet | gone⟩ := guarded.acquired lease attach
      · rw [running] at quiet
        cases quiet
      · exact ⟨known, .inl rfl⟩
    · obtain ⟨known, ⟨quiet | recovering, -⟩ | gone⟩ := guarded.prepared lease records attach
      · rw [running] at quiet
        cases quiet
      · rw [running] at recovering
        cases recovering
      · refine ⟨known, .inr ?_⟩
        unfold Over View.commit
        rw [leases]
        exact gone
  | beginRecovery quiet prepared passes =>
    refine ⟨guarded.distinct, guarded.known, fun lease attach => ?_, fun lease records attach => ?_⟩
    · have attach' : state.attach = .acquired lease := attach
      rw [prepared] at attach'
      cases attach'
    · obtain ⟨known, ⟨-, same⟩ | gone⟩ := guarded.prepared lease records attach
      · exact ⟨known, .inl ⟨.inr rfl, same⟩⟩
      · exact ⟨known, .inr gone⟩
  | @recover _ lease records lookup readings view commits =>
    obtain ⟨running, attach, passes, ran, rfl⟩ := commits
    have own : (recovery sessionId records lookup readings).sessionId = sessionId := rfl
    have effect := body_effect own guarded.distinct ran
    have leases := effect.rawLeases
    have distinct := effect.distinct guarded.distinct
    refine ⟨⟨distinct.turns, distinct.toolCalls⟩, ?_, nofun, nofun⟩
    intro current stored
    exact guarded.known current (leases ▸ stored)
  | rollback =>
    refine ⟨guarded.distinct, guarded.known, fun lease attach => ?_, fun lease records attach => ?_⟩
    · exact ⟨(guarded.acquired lease attach).1, .inl rfl⟩
    · obtain ⟨known, ⟨-, same⟩ | gone⟩ := guarded.prepared lease records attach
      · exact ⟨known, .inl ⟨.inl rfl, same⟩⟩
      · exact ⟨known, .inr gone⟩
  | detach settled => exact ⟨guarded.distinct, guarded.known, nofun, nofun⟩

theorem guarded_reaches {start : AttachState N}
    (guarded : ∀ now, Guarded start sessionId now)
    (reaches : AttachReaches json sessionId start now state) : Guarded state sessionId now := by
  induction reaches with
  | start now => exact guarded now
  | step _ later step ih => exact guarded_step (ih.mono later) step

theorem snapshot_current (guarded : Guarded state sessionId now)
    {records : List (StoredToolCallRecord (JsValue N))}
    {lookup : String → ToolRecoveryLookup (JsValue N)} {readings : RecoveryReadings}
    {view : View (JsValue N)}
    (commits : RecoveryCommits json sessionId now state state' lease records lookup readings view) :
    records = state.store.view.toolCalls sessionId := by
  obtain ⟨-, ⟨-, same⟩ | gone⟩ := guarded.prepared lease records commits.attach
  · exact same
  · exact absurd gone (not_over_of_passes commits.passes)

end Guarded

/-! ### What the recovery has closed -/

section Closed

variable {json sessionId} {view view' : View (JsValue N)} {fence : Nat}
  {lookup : String → ToolRecoveryLookup (JsValue N)}
  {records toolCalls toolCalls' : List (StoredToolCallRecord (JsValue N))}
  {readings : RecoveryReadings}

theorem Swept.recoveredToolCalls {η : Type}
    {keeps : StoredToolCallRecord (JsValue N) → Prop}
    {replaces : StoredToolCallRecord (JsValue N) → StoredToolCallRecord (JsValue N) → Prop}
    {recordsEvent : StoredToolCallRecord (JsValue N) → η → Prop}
    {results : List (Option (StoredToolCallRecord (JsValue N)))} {events : List η}
    (swept : Swept keeps replaces recordsEvent toolCalls results toolCalls' events)
    (kept : ∀ record, keeps record → record.toolCall.status ≠ .running)
    (replaced : ∀ a b, replaces a b → a.toolCall.status = .running ∧
      b.toolCall.isTerminal = true) :
    (∀ record ∈ toolCalls', record.toolCall.status ≠ .running) ∧
      queuedToolCallIds toolCalls' = queuedToolCallIds toolCalls ∧
      ∀ record ∈ toolCalls, record.toolCall.status ≠ .running → record ∈ toolCalls' := by
  induction swept with
  | nil => simp
  | @keep record rest _ rest' _ keeps _ ih =>
    obtain ⟨none, queued, others⟩ := ih
    refine ⟨List.forall_mem_cons.mpr ⟨kept record keeps, none⟩, ?_, fun other listed idle => ?_⟩
    · unfold queuedToolCallIds at queued ⊢
      rw [List.filter_cons, List.filter_cons]
      split
      · rw [List.map_cons, List.map_cons, queued]
      · exact queued
    · rcases List.mem_cons.mp listed with rfl | listed
      · exact List.mem_cons_self
      · exact List.mem_cons_of_mem _ (others other listed idle)
  | @replace record stored _ rest _ rest' _ replaces _ _ ih =>
    obtain ⟨none, queued, others⟩ := ih
    obtain ⟨running, terminal⟩ := replaced record stored replaces
    have notRunning : stored.toolCall.status ≠ .running := by
      intro again
      rw [ToolCall.isTerminal, again] at terminal
      cases terminal
    have notQueued : stored.toolCall.status ≠ .queued := by
      intro again
      rw [ToolCall.isTerminal, again] at terminal
      cases terminal
    refine ⟨List.forall_mem_cons.mpr ⟨notRunning, none⟩, ?_, fun other listed idle => ?_⟩
    · unfold queuedToolCallIds at queued ⊢
      rw [List.filter_cons_of_neg (by simpa using notQueued),
        List.filter_cons_of_neg (by simp [running])]
      exact queued
    · rcases List.mem_cons.mp listed with rfl | listed
      · exact absurd running idle
      · exact List.mem_cons_of_mem _ (others other listed idle)

/-- A state in which nothing is abandoned, and which keeps what was over before. -/
structure WorkClosed (view view' : View (JsValue N)) (sessionId : SessionId) : Prop where
  turns : ∀ record ∈ view'.turns sessionId, record.turn.isTerminal = true
  toolCalls : ∀ record ∈ view'.toolCalls sessionId, record.toolCall.status ≠ .running
  session : ∃ current stored, view.session sessionId = some current ∧
    view'.session sessionId = some stored ∧
    stored.session.state.pendingToolCallIds = queuedToolCallIds (view'.toolCalls sessionId) ∧
    stored.session.state.currentTurnId = none ∧
    stored.session.state.turnSequence =
      maxSequence (view'.turns sessionId) current.session.state.turnSequence
  turnsKept : ∀ record ∈ view.turns sessionId, record.turn.isTerminal = true →
    record ∈ view'.turns sessionId
  toolCallsKept : ∀ record ∈ view.toolCalls sessionId, record.toolCall.isTerminal = true →
    record ∈ view'.toolCalls sessionId

theorem maxSequence_rows {turns turns' : List (StoredTurnRecord (JsValue N))} {former : Nat}
    (same : turns'.map (·.turn.sequence) = turns.map (·.turn.sequence)) :
    maxSequence turns' former = maxSequence turns former := by
  have folded (turns : List (StoredTurnRecord (JsValue N))) :
      maxSequence turns former = (turns.map (·.turn.sequence)).foldl max former := by
    rw [maxSequence, List.foldl_map]
  rw [folded, folded, same]

theorem notRunning_of_terminal {toolCall : ToolCall (JsValue N)}
    (terminal : toolCall.isTerminal = true) : toolCall.status ≠ .running := by
  intro running
  rw [ToolCall.isTerminal, running] at terminal
  cases terminal

theorem recovery_tools {toolRecords : List (StoredToolCallRecord (JsValue N))}
    {turns' : List (StoredTurnRecord (JsValue N))}
    {current stored : StoredSessionRecord (JsValue N)}
    {turnEvents toolEvents : List (Event (JsValue N))} {sessionEvent : Event (JsValue N)}
    (taken : records = view.toolCalls sessionId)
    (recovery : Recovered json sessionId (prepareToolRecovery lookup records) readings fence view
      view' toolRecords turns' toolCalls' current stored turnEvents toolEvents sessionEvent) :
    toolRecords = view.toolCalls sessionId ∧
      (∀ record ∈ toolCalls', record.toolCall.status ≠ .running) ∧
      queuedToolCallIds toolCalls' = queuedToolCallIds (view.toolCalls sessionId) ∧
      ∀ record ∈ view.toolCalls sessionId, record.toolCall.status ≠ .running →
        record ∈ toolCalls' := by
  have listed := recovery.listed
  have rows := recovery.toolCalls
  split at rows
  next nothing =>
    -- the snapshot had no running call
    rw [if_pos nothing] at listed
    obtain ⟨rfl, -⟩ := rows
    refine ⟨listed.trans taken, fun record member running => ?_, rfl, fun _ member _ => member⟩
    rw [← taken] at member
    rw [prepared_nonempty member running] at nothing
    cases nothing
  next something =>
    rw [if_neg something] at listed
    obtain ⟨results, swept⟩ := rows
    refine ⟨listed, swept.recoveredToolCalls (fun _ => recoverToolCall_eq_none.mp) ?_⟩
    rintro a b ⟨updater, chosen, normalized⟩
    obtain ⟨running, terminal, -⟩ := recoverToolCall_spec chosen
    exact ⟨running, (normalizeStoredToolCall_alike normalized).1.isTerminal.trans terminal⟩

theorem recovery_closes {toolRecords : List (StoredToolCallRecord (JsValue N))}
    {turns' : List (StoredTurnRecord (JsValue N))}
    {current stored : StoredSessionRecord (JsValue N)}
    {turnEvents toolEvents : List (Event (JsValue N))} {sessionEvent : Event (JsValue N)}
    (taken : records = view.toolCalls sessionId)
    (recovery : Recovered json sessionId (prepareToolRecovery lookup records) readings fence view
      view' toolRecords turns' toolCalls' current stored turnEvents toolEvents sessionEvent) :
    WorkClosed view view' sessionId := by
  obtain ⟨results, swept⟩ := recovery.turns
  obtain ⟨rows, closed⟩ := swept.turnRows (fun _ => recoverTurn_eq_none.mp)
    fun a b ⟨updater, chosen, normalized⟩ => recoverTurn_replaces chosen normalized
  obtain ⟨listed, none, queued, others⟩ := recovery_tools taken recovery
  have alike := (normalizeStoredSession_alike recovery.session.normalized).1
  have view_eq := recovery.view_eq
  subst view_eq
  refine ⟨by simpa using closed, by simpa using none,
    ⟨current, stored, recovery.session.found, View.session_write, ?_, ?_, ?_⟩,
    fun record member terminal => ?_, fun record member terminal => ?_⟩
  · rw [alike.pendingToolCallIds, View.toolCalls_write, queued, ← listed]
    rfl
  · rw [alike.currentTurnId]
    rfl
  · rw [alike.turnSequence, View.turns_write, maxSequence_rows (sequences_of_rows rows).1]
    rfl
  · obtain ⟨later, member', -, same | replaces⟩ := becomes_forward rows record member
    · rw [View.turns_write, ← same]
      exact member'
    · have unfinished : record.turn.isTerminal = false := replaces.change.unfinished
      rw [terminal] at unfinished
      cases unfinished
  · rw [View.toolCalls_write]
    exact others record member (notRunning_of_terminal terminal)

end Closed

/-- In whatever order attachment and other writers run, with rollbacks and expired leases: a recovery
that is committed has closed all that was left open in the state it is committed on. -/
theorem attachment_recovery_closes (json : JsonCodec (JsValue N)) (sessionId : SessionId)
    {start state state' : AttachState N} {earlier now : Nat} {lease : SessionLease}
    {records : List (StoredToolCallRecord (JsValue N))}
    {lookup : String → ToolRecoveryLookup (JsValue N)} {readings : RecoveryReadings}
    {view : View (JsValue N)} (idle : start.attach = .idle)
    (distinct : Distinct start.store.view sessionId)
    (drawn : ∀ current, start.store.rawLeases.leases sessionId = some current →
      current.generationId ∈ start.drawn)
    (reaches : AttachReaches json sessionId start earlier state) (later : earlier ≤ now)
    (commits : RecoveryCommits json sessionId now state state' lease records lookup readings view) :
    WorkClosed state.store.view state'.store.view sessionId := by
  have initially (now : Nat) : Guarded start sessionId now :=
    ⟨distinct, drawn, fun _ attach => by simp [idle] at attach, fun _ _ attach => by
      simp [idle] at attach⟩
  have guarded := (guarded_reaches initially reaches).mono later
  have current := snapshot_current guarded commits
  obtain ⟨-, -, -, ran, rfl⟩ := commits
  obtain ⟨_, _, recovering, returned⟩ := Tx.bind_eq_ok.mp ran
  obtain ⟨-, rfl⟩ := Tx.pure_eq_ok.mp returned
  obtain ⟨toolRecords, turns', toolCalls', session, stored, turnEvents, toolEvents, sessionEvent,
    recovery⟩ := recoverAttachment_eq_ok guarded.distinct recovering
  have closed := recovery_closes current recovery
  exact ⟨closed.turns, closed.toolCalls, closed.session, closed.turnsKept, closed.toolCallsKept⟩

/-! ### An attachment that nobody disturbs -/

def recovering (start : AttachState N) (sessionId : SessionId) (randomUUID : String)
    (lease : SessionLease) (rawLeases : InMemorySessionLeaseStore) : AttachState N where
  store := { start.store with rawLeases }
  running := some .recovery
  attach := .prepared lease (start.store.view.toolCalls sessionId)
  drawn := randomUUID :: start.drawn

theorem attach_undisturbed {json : JsonCodec (JsValue N)} {sessionId : SessionId}
    {start : AttachState N} {now : Nat} {randomUUID holder : String} {ttlMs : Number}
    {lease : SessionLease} {rawLeases : InMemorySessionLeaseStore} (quiet : start.running = none)
    (idle : start.attach = .idle) (fresh : randomUUID ∉ start.drawn)
    (acquired : start.store.rawLeases.acquire (.int now) randomUUID sessionId holder ttlMs =
      .ok (some lease, rawLeases))
    (live : rawLeases.getCurrent (.int now) sessionId = .ok (some lease)) :
    AttachReaches json sessionId start now (recovering start sessionId randomUUID lease rawLeases) ∧
      (recovering start sessionId randomUUID lease rawLeases).Passes sessionId now
        (.fenced (leaseIdentity lease)) := by
  have passes : (recovering start sessionId randomUUID lease rawLeases).Passes sessionId now
      (.fenced (leaseIdentity lease)) :=
    ⟨some lease, live, owns_eq_true.mpr ⟨lease, rfl, rfl, rfl, rfl⟩⟩
  have acquires : AttachStep json sessionId now start _ := .acquire quiet idle fresh acquired
  have held := AttachReaches.step (.start now) le_rfl acquires
  have read := AttachReaches.step held le_rfl (.snapshot rfl fun _ => rfl)
  exact ⟨read.step le_rfl (.beginRecovery rfl rfl passes), passes⟩

def recoveryReadings : RecoveryReadings := ⟨fun _ => 20, fun _ => 20, 20, 15, 1000⟩

def attachLease : SessionLease := ⟨"call", "worker:1", 1, "first", 20, 20, 120⟩

def attachLeases : InMemorySessionLeaseStore :=
  (InMemorySessionLeaseStore.new.insertLeaseId "call").setLease "call" attachLease

def storedCall (turnSequence : Nat) (turns : List (StoredTurnRecord (JsValue Nat)))
    (toolCalls : List (StoredToolCallRecord (JsValue Nat))) : AttachState Nat where
  store :=
    { Store.new with
      sessions := InMemorySessionStore.new.set "call" (some
        ⟨⟨"call", "agent", .phone, none, [], none, 0, ⟨.object [], none, [], turnSequence⟩,
          .active .active 0⟩, ⟨0, some 5, none, none⟩, some 2⟩)
      turns := InMemoryChildStore.new.set "call" turns
      toolCalls := InMemoryChildStore.new.set "call" toolCalls }
  running := none
  attach := .idle
  drawn := []

/-- A session left with a turn that speaks and a tool call that runs. -/
def abandonedCall : AttachState Nat :=
  storedCall 1
    [⟨⟨"turn", "call", 1, ⟨none, [], none⟩, ⟨none, [], none, none⟩, [], 1, .empty, none,
      .active .speaking⟩, ⟨1, none⟩, some 1⟩]
    [⟨⟨"tool", "lookup", "lookup", "call", "turn", .object [], 1, none, none, 2, .running 3⟩, ⟨2⟩,
      some 2⟩]

def unknownCall (_ : String) : ToolRecoveryLookup (JsValue Nat) := ⟨20, none⟩

theorem attach_storedCall (turnSequence : Nat) (turns : List (StoredTurnRecord (JsValue Nat)))
    (toolCalls : List (StoredToolCallRecord (JsValue Nat))) :
    let start := storedCall turnSequence turns toolCalls
    AttachReaches .verbatim "call" start 20 (recovering start "call" "first" attachLease attachLeases) ∧
      (recovering start "call" "first" attachLease attachLeases).Passes "call" 20
        (.fenced (leaseIdentity attachLease)) := by
  have acquired : InMemorySessionLeaseStore.new.acquire (.int 20) "first" "call" "worker:1"
      (.int 100) = .ok (some attachLease, attachLeases) := rfl
  have live : attachLeases.getCurrent (.int 20) "call" = .ok (some attachLease) := rfl
  exact attach_undisturbed rfl rfl List.not_mem_nil acquired live

/-- The view that the recovery commits, where its body runs through. -/
def recoveredView (start : AttachState Nat) : Option (View (JsValue Nat)) :=
  ((recovery "call" (start.store.view.toolCalls "call") unknownCall recoveryReadings).body .verbatim
    (some 1) (Store.view { start.store with rawLeases := attachLeases })).toOption.map (·.2)

theorem recovery_commits {turnSequence : Nat} {turns : List (StoredTurnRecord (JsValue Nat))}
    {toolCalls : List (StoredToolCallRecord (JsValue Nat))} {view : View (JsValue Nat)}
    (recovered : recoveredView (storedCall turnSequence turns toolCalls) = some view) :
    let start := storedCall turnSequence turns toolCalls
    let state := recovering start "call" "first" attachLease attachLeases
    RecoveryCommits .verbatim "call" 20 state
      { state with store := view.commit, running := none, attach := .recovered } attachLease
      (start.store.view.toolCalls "call") unknownCall recoveryReadings view := by
  refine ⟨rfl, rfl, (attach_storedCall turnSequence turns toolCalls).2, ?_, rfl⟩
  obtain ⟨⟨report, view'⟩, ran, rfl⟩ := Option.map_eq_some_iff.mp recovered
  cases returned : (recovery "call" ((storedCall turnSequence turns toolCalls).store.view.toolCalls
      "call") unknownCall recoveryReadings).body .verbatim (some 1)
      (Store.view { (storedCall turnSequence turns toolCalls).store with rawLeases := attachLeases })
  with
  | error e =>
    rw [returned] at ran
    cases ran
  | ok result =>
    rw [returned] at ran
    obtain rfl := Option.some.inj ran
    obtain ⟨_, _, -, settled⟩ := Tx.bind_eq_ok.mp returned
    obtain ⟨rfl, -⟩ := Tx.pure_eq_ok.mp settled
    exact returned

theorem attachment_recovery_closes_abandonedCall :
    ∃ view, recoveredView abandonedCall = some view ∧
      (view.toolCalls "call").map (·.toolCall.status) = [.failed .failed] ∧
      WorkClosed abandonedCall.store.view view "call" := by
  have computed : (recoveredView abandonedCall).map
      (fun view => (view.toolCalls "call").map (·.toolCall.status)) = some [.failed .failed] := by
    decide +kernel
  obtain ⟨view, recovered, statuses⟩ := Option.map_eq_some_iff.mp computed
  have closed := attachment_recovery_closes .verbatim "call" rfl ⟨by decide, by decide⟩
    (fun current stored => by cases stored) (attach_storedCall ..).1 le_rfl
    (recovery_commits recovered)
  exact ⟨view, recovered, statuses, closed.turns, closed.toolCalls, closed.session, closed.turnsKept,
    closed.toolCallsKept⟩

/-- A session whose record counts three turns where the store has none. -/
def countedCall : AttachState Nat := storedCall 3 [] []

/-- Its recovery is committed, and the session still counts three turns. -/
theorem countedCall_keeps_count :
    ∃ view state', RecoveryCommits .verbatim "call" 20
        (recovering countedCall "call" "first" attachLease attachLeases) state' attachLease []
        unknownCall recoveryReadings view ∧
      AttachReaches .verbatim "call" countedCall 20
        (recovering countedCall "call" "first" attachLease attachLeases) ∧
      state'.store.view.turns "call" = [] ∧
      ∀ stored ∈ state'.store.view.session "call", stored.session.state.turnSequence = 3 := by
  have computed : (recoveredView countedCall).map (fun view =>
      ((view.turns "call").length, (view.session "call").map (·.session.state.turnSequence))) =
        some (0, some 3) := by decide +kernel
  obtain ⟨view, recovered, counts⟩ := Option.map_eq_some_iff.mp computed
  obtain ⟨none, three⟩ := Prod.mk.inj counts
  refine ⟨view, _, recovery_commits recovered, (attach_storedCall ..).1,
    List.length_eq_zero_iff.mp none, fun stored found => ?_⟩
  have same : view.session "call" = some stored := found
  rw [same] at three
  exact Option.some.inj three

end Tvic.Runtime
