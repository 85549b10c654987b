import Tvic.Dal.InMemoryDurableRuntime

/-!
# Operations on one session run one at a time

The operations of the in-memory runtime store that queue on a session, their chain of promises,
and what a rejected one leaves behind: never a record or an outbox event, and a changed lease only
where `createSessionWithLease` had acquired one before it failed.
-/
namespace Tvic.SessionSerialization

open Lib InMemoryDurableRuntime

variable {S T C η χ τ α : Type}

inductive SessionOperation (S T C η χ τ : Type) where
  | acquire (sessionId : SessionId) (holder : String) (ttlMs : Number)
  | renew (sessionId : SessionId) (holder : String) (fence ttlMs : Number) (generationId : String)
  | release (sessionId : SessionId) (holder : String) (fence : Number) (generationId : String)
  | get (sessionId : SessionId)
  | acknowledgeRecoveryCandidate (candidate : SessionRecoveryCandidate)
  | createSessionWithLease (record : S) (holder : String) (ttlMs : Number)
      (initialEvent : Option (SessionLease → Except DalError (DurableOutboxEvent η)))
  | runSessionTransaction (sessionId : SessionId) (lease : LeaseIdentity)
      (operation : TxProgram S T C η χ τ)
  | runUnfencedSessionTransaction (sessionId : SessionId) (operation : TxProgram S T C η χ τ)

/-- What an operation resolves to. -/
inductive Answer (τ : Type) where
  | lease (lease : Option SessionLease)
  | nothing
  | value (value : τ)

namespace SessionOperation

/-- The session whose queue the operation joins. -/
def sessionId (codec : DalCodec S T C η) : SessionOperation S T C η χ τ → SessionId
  | .acquire sessionId _ _ => sessionId
  | .renew sessionId _ _ _ _ => sessionId
  | .release sessionId _ _ _ => sessionId
  | .get sessionId => sessionId
  | .acknowledgeRecoveryCandidate candidate => candidate.sessionId
  | .createSessionWithLease record _ _ _ => codec.session.id record
  | .runSessionTransaction sessionId _ _ => sessionId
  | .runUnfencedSessionTransaction sessionId _ => sessionId

def isCreate : SessionOperation S T C η χ τ → Bool
  | .createSessionWithLease _ _ _ _ => true
  | _ => false

def body (codec : DalCodec S T C η) :
    SessionOperation S T C η χ τ → Operation S T C η χ (Answer τ)
  | .acquire sessionId holder ttlMs => do
      return .lease (← leasesAcquire sessionId holder ttlMs)
  | .renew sessionId holder fence ttlMs generationId => do
      return .lease (← leasesRenew sessionId holder fence ttlMs generationId)
  | .release sessionId holder fence generationId => do
      leasesRelease sessionId holder fence generationId
      return .nothing
  | .get sessionId => do return .lease (← leasesGet sessionId)
  | .acknowledgeRecoveryCandidate candidate => do
      leasesAcknowledge candidate
      return .nothing
  | .createSessionWithLease record holder ttlMs initialEvent => do
      return .lease
        (← InMemoryDurableRuntime.createSessionWithLease codec record holder ttlMs initialEvent)
  | .runSessionTransaction sessionId lease operation => do
      return .value (← InMemoryDurableRuntime.runSessionTransaction codec sessionId lease operation)
  | .runUnfencedSessionTransaction sessionId operation => do
      return .value
        (← InMemoryDurableRuntime.runUnfencedSessionTransaction codec sessionId operation)

end SessionOperation

def Queued (S T C η χ τ : Type) (codec : DalCodec S T C η) (sessionId : SessionId) :=
  { operation : SessionOperation S T C η χ τ // operation.sessionId codec = sessionId }

def Queued.program {codec : DalCodec S T C η} {sessionId : SessionId}
    (queued : Queued S T C η χ τ codec sessionId) :
    Program (Env χ) (InMemoryDurableRuntimeStore S T C η) (Except DalError (Answer τ)) :=
  (queued.1.body codec).run

/-! ### What the steps keep -/

variable {codec : DalCodec S T C η} {sessionId : SessionId}
  {before store : InMemoryDurableRuntimeStore S T C η}

/-- Everything but the leases is as it was. -/
structure SameRecords (before store : InMemoryDurableRuntimeStore S T C η) : Prop where
  sessions : store.sessions = before.sessions
  turns : store.turns = before.turns
  toolCalls : store.toolCalls = before.toolCalls
  outbox : store.outbox = before.outbox

/-- Only the records of one session may have changed. -/
structure InSession (sessionId : SessionId) (before store : InMemoryDurableRuntimeStore S T C η) :
    Prop where
  sessions : before.sessions.SameBut sessionId store.sessions
  turns : before.turns.SameBut sessionId store.turns
  toolCalls : before.toolCalls.SameBut sessionId store.toolCalls
  rawLeases : store.rawLeases = before.rawLeases
  outbox : store.outbox = before.outbox

theorem SameRecords.refl (store : InMemoryDurableRuntimeStore S T C η) : SameRecords store store :=
  ⟨rfl, rfl, rfl, rfl⟩

theorem InSession.refl (store : InMemoryDurableRuntimeStore S T C η) :
    InSession sessionId store store :=
  ⟨.refl _, .refl _, .refl _, rfl, rfl⟩

theorem InSession.of_eq (same : store = before) : InSession sessionId before store :=
  same ▸ .refl _

theorem InSession.trans {after : InMemoryDurableRuntimeStore S T C η}
    (first : InSession sessionId before store) (second : InSession sessionId store after) :
    InSession sessionId before after :=
  ⟨first.sessions.trans second.sessions, first.turns.trans second.turns,
    first.toolCalls.trans second.toolCalls, second.rawLeases.trans first.rawLeases,
    second.outbox.trans first.outbox⟩

variable {pre : InMemoryDurableRuntimeStore S T C η → Prop}

theorem reading_triple (f : Env χ → InMemoryDurableRuntimeStore S T C η → Except DalError α) :
    Triple pre (reading f) (fun a s => pre s ∧ ∃ env, f env s = .ok a) fun _ s => pre s := by
  apply Triple.atomic
  intro env s holds
  cases found : f env s with
  | ok a => exact ⟨holds, env, found⟩
  | error e => exact holds

theorem writing_triple
    (f : InMemoryDurableRuntimeStore S T C η → InMemoryDurableRuntimeStore S T C η)
    {raised : DalError → InMemoryDurableRuntimeStore S T C η → Prop} :
    Triple pre (writing f : Operation S T C η χ Unit) (fun _ s => ∃ s₀, pre s₀ ∧ s = f s₀)
      raised :=
  Triple.atomic fun _ s start => ⟨s, start, rfl⟩

theorem leasing_triple
    (f : Env χ → InMemorySessionLeaseStore → Except DalError (α × InMemorySessionLeaseStore)) :
    Triple pre (leasing f : Operation S T C η χ α)
      (fun _ s => ∃ s₀ rawLeases, pre s₀ ∧ s = { s₀ with rawLeases }) fun _ s => pre s := by
  apply Triple.atomic
  intro env s holds
  cases f env s.rawLeases with
  | ok value => exact ⟨s, _, holds, rfl⟩
  | error e => exact holds

theorem callTransaction_inSession {request : TxCall S T C η α} {view view' : Staged S T C η}
    {value : α} (returned : callTransaction codec sessionId view request = .ok (value, view')) :
    InSession sessionId view.store view'.store := by
  have own : ∀ {candidate : SessionId}, assertSession sessionId candidate = .ok () →
      candidate = sessionId := by
    intro candidate checked
    unfold assertSession at checked
    split at checked
    next same => exact same
    · cases checked
  cases request <;> obtain ⟨⟨⟩, checked, returned⟩ := bind_eq_ok.mp returned <;>
    have same := own checked <;> obtain ⟨result, called, returned⟩ := bind_eq_ok.mp returned
  case getSession => cases returned; exact .refl _
  case getTurn => cases returned; exact .refl _
  case listTurns => cases returned; exact .refl _
  case getToolCall => cases returned; exact .refl _
  case listToolCalls => cases returned; exact .refl _
  case putSession record =>
    cases returned
    exact ⟨same ▸ InMemorySessionStore.put_sameBut called, .refl _, .refl _, rfl, rfl⟩
  case updateSession id updater =>
    cases returned
    exact ⟨same ▸ InMemorySessionStore.update_sameBut called, .refl _, .refl _, rfl, rfl⟩
  case putTurn record =>
    cases returned
    exact ⟨.refl _, same ▸ InMemoryChildStore.put_sameBut called, .refl _, rfl, rfl⟩
  case updateTurn candidate id updater =>
    cases returned
    exact ⟨.refl _, same ▸ InMemoryChildStore.update_sameBut called, .refl _, rfl, rfl⟩
  case putToolCall record =>
    cases returned
    exact ⟨.refl _, .refl _, same ▸ InMemoryChildStore.put_sameBut called, rfl, rfl⟩
  case updateToolCall candidate id updater =>
    cases returned
    exact ⟨.refl _, .refl _, same ▸ InMemoryChildStore.update_sameBut called, rfl, rfl⟩
  case appendOutbox event =>
    dsimp only at returned
    split at returned <;> cases returned <;> exact .refl _

theorem operate_triple (program : TxProgram S T C η χ τ) (staged : List (DurableOutboxEvent η)) :
    Triple (InSession sessionId before) (operate codec sessionId program staged)
      (fun _ => InSession sessionId before) fun _ => InSession sessionId before := by
  induction program generalizing staged with
  | settle result =>
    apply Triple.done
    intro s holds
    cases result <;> exact holds
  | consult next ih =>
    apply Triple.step
    intro env s holds
    refine (ih env.answer staged).consequence ?_ (fun _ _ => id) fun _ _ => id
    rintro s' rfl
    exact holds
  | call request next ih =>
    rw [operate]
    apply Triple.step
    intro env s holds
    cases called : callTransaction codec sessionId ⟨s, staged⟩ request with
    | ok value =>
      refine (ih (.ok value.1) value.2.stagedOutbox).consequence ?_ (fun _ _ => id) fun _ _ => id
      rintro s' rfl
      simpa only [called] using holds.trans (callTransaction_inSession called)
    | error e =>
      refine (ih (.error e) staged).consequence ?_ (fun _ _ => id) fun _ _ => id
      rintro s' rfl
      simpa only [called] using holds

/-! ### What a rejected operation leaves -/

theorem rollback_triple (error : DalError) :
    Triple (InSession sessionId before)
      (do
        restoreSession sessionId (before.sessions.records sessionId)
        restoreTurns sessionId (before.turns.records sessionId)
        restoreToolCalls sessionId (before.toolCalls.records sessionId)
        throw error : Operation S T C η χ α)
      (fun _ _ => True) fun _ s => s = before := by
  refine Triple.bind (writing_triple _) fun _ => Triple.bind (writing_triple _) fun _ =>
    Triple.bind (writing_triple _) fun _ => Triple.throw ?_
  rintro s ⟨_, ⟨_, ⟨s₀, ⟨sessions, turns, toolCalls, rawLeases, outbox⟩, rfl⟩, rfl⟩, rfl⟩
  obtain ⟨sessions₀, turns₀, toolCalls₀, rawLeases₀, outbox₀⟩ := s₀
  simp only at rawLeases outbox
  simp only [InMemoryRecords.restore_eq sessions, InMemoryRecords.restore_eq turns,
    InMemoryRecords.restore_eq toolCalls, rawLeases, outbox]

theorem sessionsGet_triple :
    Triple (· = before) (sessionsGet sessionId : Operation S T C η χ (Option S))
      (fun record s => record = before.sessions.records sessionId ∧ s = before)
      fun _ s => s = before := by
  refine (reading_triple _).consequence (fun _ => id) ?_ fun _ _ => id
  rintro record s ⟨rfl, env, found⟩
  obtain ⟨-, -, found⟩ := bind_eq_ok.mp found
  cases found
  exact ⟨rfl, rfl⟩

theorem turnsList_triple :
    Triple (· = before) (turnsList sessionId : Operation S T C η χ (List T))
      (fun records s => records = before.turns.records sessionId ∧ s = before)
      fun _ s => s = before := by
  refine (reading_triple _).consequence (fun _ => id) ?_ fun _ _ => id
  rintro records s ⟨rfl, env, found⟩
  obtain ⟨-, -, found⟩ := bind_eq_ok.mp found
  cases found
  exact ⟨rfl, rfl⟩

theorem toolCallsList_triple :
    Triple (· = before) (toolCallsList sessionId : Operation S T C η χ (List C))
      (fun records s => records = before.toolCalls.records sessionId ∧ s = before)
      fun _ s => s = before := by
  refine (reading_triple _).consequence (fun _ => id) ?_ fun _ _ => id
  rintro records s ⟨rfl, env, found⟩
  obtain ⟨-, -, found⟩ := bind_eq_ok.mp found
  cases found
  exact ⟨rfl, rfl⟩

theorem transact_triple (allowed : Option SessionLease → Bool)
    (operation : TxProgram S T C η χ τ) :
    Triple (· = before) (transact codec sessionId allowed operation) (fun _ _ => True)
      fun _ s => s = before := by
  refine Triple.bind (reading_triple _) fun active => ?_
  split
  · refine Triple.consequence ?_ (fun _ => And.left) (fun _ _ => id) fun _ _ => id
    refine Triple.bind_value sessionsGet_triple <| Triple.bind_value turnsList_triple <|
      Triple.bind_value toolCallsList_triple <| Triple.tryCatch ?_ rollback_triple
    refine Triple.bind ((operate_triple operation []).consequence (fun _ => InSession.of_eq)
      (fun _ _ => id) fun _ _ => id) fun value => Triple.bind (reading_triple _) fun still => ?_
    split
    · -- nothing can reject once the outbox is being written
      exact Triple.bind (writing_triple _) fun _ => Triple.pure fun _ _ => trivial
    · exact Triple.throw fun s holds => holds.1
  · exact Triple.throw fun s holds => holds.1

theorem appendInitial_triple
    (initialEvent : SessionLease → Except DalError (DurableOutboxEvent η)) (lease : SessionLease) :
    Triple pre (appendInitial codec sessionId initialEvent lease : Operation S T C η χ Unit)
      (fun _ _ => True) fun _ s => pre s :=
  Triple.bind (reading_triple _) fun _ =>
    (writing_triple _).consequence (fun _ => id) (fun _ _ _ => trivial) fun _ _ => id

theorem leasing_sameRecords
    (f : Env χ → InMemorySessionLeaseStore → Except DalError (α × InMemorySessionLeaseStore)) :
    Triple (SameRecords before) (leasing f : Operation S T C η χ α)
      (fun _ => SameRecords before) fun _ => SameRecords before := by
  refine (leasing_triple f).consequence (fun _ => id) ?_ fun _ _ => id
  rintro _ _ ⟨s₀, _, same, rfl⟩
  exact ⟨same.sessions, same.turns, same.toolCalls, same.outbox⟩

theorem ignoring_triple {operation : Operation S T C η χ α} {fallback : α}
    (kept : Triple pre operation (fun _ => pre) fun _ => pre)
    {raised : DalError → InMemoryDurableRuntimeStore S T C η → Prop} :
    Triple pre (ignoring operation fallback) (fun _ => pre) raised :=
  Triple.tryCatch kept fun _ => Triple.pure fun _ => id

theorem leasesGet_triple :
    Triple pre (leasesGet sessionId : Operation S T C η χ (Option SessionLease))
      (fun _ => pre) fun _ => pre :=
  (reading_triple _).consequence (fun _ => id) (fun _ _ => And.left) fun _ _ => id

theorem attachLease_triple (record existing : S) (holder : String) (ttlMs : Number)
    (initialEvent : Option (SessionLease → Except DalError (DurableOutboxEvent η))) :
    Triple (SameRecords before)
      (attachLease codec record existing holder ttlMs initialEvent :
        Operation S T C η χ (Option SessionLease))
      (fun _ _ => True) fun _ => SameRecords before := by
  unfold attachLease
  dsimp only
  split
  · refine Triple.bind (ignoring_triple leasesGet_triple) fun leaseBefore =>
      Triple.bind (leasing_sameRecords _) fun lease => ?_
    split
    · refine Triple.bind (Triple.tryCatch (appendInitial_triple _ _) fun error => ?_) fun _ =>
        Triple.pure fun _ => id
      split
      · exact Triple.bind (ignoring_triple (leasing_sameRecords _)) fun _ => Triple.throw fun _ => id
      · exact Triple.throw fun _ => id
    · exact Triple.pure fun _ _ => trivial
  · exact Triple.throw fun _ => id

/-- Only the session's own record may have changed, and the leases. -/
structure Inserted (sessionId : SessionId) (before store : InMemoryDurableRuntimeStore S T C η) :
    Prop where
  sessions : before.sessions.SameBut sessionId store.sessions
  turns : store.turns = before.turns
  toolCalls : store.toolCalls = before.toolCalls
  outbox : store.outbox = before.outbox

theorem leasing_inserted
    (f : Env χ → InMemorySessionLeaseStore → Except DalError (α × InMemorySessionLeaseStore)) :
    Triple (Inserted sessionId before) (leasing f : Operation S T C η χ α)
      (fun _ => Inserted sessionId before) fun _ => Inserted sessionId before := by
  refine (leasing_triple f).consequence (fun _ => id) ?_ fun _ _ => id
  rintro _ _ ⟨s₀, _, same, rfl⟩
  exact ⟨same.sessions, same.turns, same.toolCalls, same.outbox⟩

theorem insertWithLease_triple (record : S) (holder : String) (ttlMs : Number)
    (initialEvent : Option (SessionLease → Except DalError (DurableOutboxEvent η)))
    (absent : before.sessions.records (codec.session.id record) = none) :
    Triple (· = before)
      (insertWithLease codec record holder ttlMs initialEvent :
        Operation S T C η χ (Option SessionLease))
      (fun _ _ => True) fun _ => SameRecords before := by
  unfold insertWithLease
  dsimp only
  have remove : ∀ error, Triple (Inserted (codec.session.id record) before)
      (do restoreSession (codec.session.id record) none; throw error :
        Operation S T C η χ (Option SessionLease))
      (fun _ _ => True) fun _ => SameRecords before := by
    intro error
    refine Triple.bind (writing_triple _) fun _ => Triple.throw ?_
    rintro _ ⟨s, kept, rfl⟩
    exact ⟨absent ▸ InMemoryRecords.restore_eq kept.sessions, kept.turns, kept.toolCalls,
      kept.outbox⟩
  refine Triple.tryCatch (Triple.bind
    (?_ : Triple (· = before) _ (fun _ => Inserted (codec.session.id record) before)
      fun _ => Inserted (codec.session.id record) before)
    fun _ => Triple.bind (leasing_inserted _) fun lease => ?_)
    fun error => Triple.bind (ignoring_triple leasesGet_triple) fun lease => ?_
  · apply Triple.atomic
    rintro _ s rfl
    cases stored : InMemorySessionStore.put codec.session s.sessions record with
    | ok sessions => exact ⟨InMemorySessionStore.put_sameBut stored, rfl, rfl, rfl⟩
    | error e => exact ⟨.refl _, rfl, rfl, rfl⟩
  · split
    · exact Triple.bind (writing_triple _) fun _ => Triple.pure fun _ _ => trivial
    · exact Triple.bind (appendInitial_triple _ _) fun _ => Triple.pure fun _ _ => trivial
    · exact Triple.pure fun _ _ => trivial
  · split
    · split
      · exact Triple.bind (ignoring_triple (leasing_inserted _)) fun _ => remove error
      · exact remove error
    · exact remove error

theorem createSessionWithLease_triple (record : S) (holder : String) (ttlMs : Number)
    (initialEvent : Option (SessionLease → Except DalError (DurableOutboxEvent η))) :
    Triple (· = before)
      (createSessionWithLease codec record holder ttlMs initialEvent :
        Operation S T C η χ (Option SessionLease))
      (fun _ _ => True) fun _ => SameRecords before := by
  have unchanged : ∀ s, s = before → SameRecords before s := by
    rintro s rfl
    exact .refl _
  refine Triple.bind_value (sessionsGet_triple.consequence (fun _ => id) (fun _ _ => id)
    fun _ => unchanged) ?_
  cases found : before.sessions.records (codec.session.id record) with
  | some existing =>
    exact (attachLease_triple record existing holder ttlMs initialEvent).consequence unchanged
      (fun _ _ => id) fun _ _ => id
  | none => exact insertWithLease_triple record holder ttlMs initialEvent found

theorem body_triple (operation : SessionOperation S T C η χ τ) :
    Triple (· = before) (operation.body codec) (fun _ _ => True)
      fun _ s => SameRecords before s ∧ (operation.isCreate = false → s = before) := by
  have unchanged : ∀ (e : DalError) (s : InMemoryDurableRuntimeStore S T C η), s = before →
      SameRecords before s ∧ (operation.isCreate = false → s = before) := by
    rintro _ s rfl
    exact ⟨.refl _, fun _ => rfl⟩
  have resolves : ∀ {β : Type} (f : Env χ → InMemorySessionLeaseStore →
        Except DalError (β × InMemorySessionLeaseStore)) (answer : β → Answer τ),
      Triple (· = before) (do return answer (← leasing f)) (fun _ _ => True)
        fun _ s => SameRecords before s ∧ (operation.isCreate = false → s = before) :=
    fun f answer => Triple.bind ((leasing_triple f).consequence (fun _ => id) (fun _ _ => id)
      unchanged) fun _ => Triple.pure fun _ _ => trivial
  cases operation with
  | acquire sessionId holder ttlMs => exact resolves _ _
  | renew sessionId holder fence ttlMs generationId => exact resolves _ _
  | release sessionId holder fence generationId => exact resolves _ fun _ => .nothing
  | get sessionId =>
    exact Triple.bind (leasesGet_triple.consequence (fun _ => id) (fun _ _ => id) unchanged)
      fun _ => Triple.pure fun _ _ => trivial
  | acknowledgeRecoveryCandidate candidate => exact resolves _ fun _ => .nothing
  | createSessionWithLease record holder ttlMs initialEvent =>
    refine Triple.bind ((createSessionWithLease_triple record holder ttlMs initialEvent).consequence
      (fun _ => id) (fun _ _ => id) ?_) fun _ => Triple.pure fun _ _ => trivial
    intro _ s same
    exact ⟨same, nofun⟩
  | runSessionTransaction sessionId lease operation =>
    exact Triple.bind ((transact_triple _ operation).consequence (fun _ => id) (fun _ _ => id)
      unchanged) fun _ => Triple.pure fun _ _ => trivial
  | runUnfencedSessionTransaction sessionId operation =>
    exact Triple.bind ((transact_triple _ operation).consequence (fun _ => id) (fun _ _ => id)
      unchanged) fun _ => Triple.pure fun _ _ => trivial

/-! ### The queue of a session -/

variable (codec sessionId)

/-- The session's promises after a run of events, with the store they share. -/
def queueAfter (start : InMemoryDurableRuntimeStore S T C η)
    (events : List (ChainEvent (Queued S T C η χ τ codec sessionId) (Env χ))) :
    PromiseChain (Queued S T C η χ τ codec sessionId) (Env χ)
      (InMemoryDurableRuntimeStore S T C η) (Except DalError (Answer τ)) :=
  PromiseChain.after Queued.program start events

/-- The store that the operations of these jobs leave when they are executed one at a time, each
on the clock readings, identifiers and answers it had. -/
def executed (start : InMemoryDurableRuntimeStore S T C η)
    (jobs : List (Job (Queued S T C η χ τ codec sessionId) (Env χ)
      (InMemoryDurableRuntimeStore S T C η) (Except DalError (Answer τ)))) :
    InMemoryDurableRuntimeStore S T C η :=
  PromiseChain.serial Queued.program start jobs

variable {codec sessionId}

def succeeded (job : Job (Queued S T C η χ τ codec sessionId) (Env χ)
    (InMemoryDurableRuntimeStore S T C η) (Except DalError (Answer τ))) : Bool :=
  match job.status with
  | .settled (.ok _) => true
  | _ => false

variable (codec sessionId)

/-- At every moment of every run of a session's queue, whatever is submitted when: the store is
what executing the operations one at a time in submission order leaves, each settled one having
run to its end from what those before it left. A rejected one left every record and the outbox as
they were when it began, and the leases too unless it was `createSessionWithLease`; so once all
have settled, and no `createSessionWithLease` was rejected, the rejected ones may be left out. -/
theorem session_operations_serialize (start : InMemoryDurableRuntimeStore S T C η)
    (events : List (ChainEvent (Queued S T C η χ τ codec sessionId) (Env χ))) :
    let queue := queueAfter codec sessionId start events
    let at_ := fun n => executed codec sessionId start (queue.jobs.take n)
    queue.jobs.map (·.operation) = events.filterMap PromiseChain.submitted ∧
    queue.state = executed codec sessionId start queue.jobs ∧
    (∀ n job result, queue.jobs[n]? = some job → job.status = .settled result →
      job.operation.program.exec job.inputs (at_ n) = (at_ (n + 1), .done result) ∧
      ∀ error, result = .error error → SameRecords (at_ n) (at_ (n + 1)) ∧
        (job.operation.1.isCreate = false → at_ (n + 1) = at_ n)) ∧
    ((∀ job ∈ queue.jobs, job.status.isSettled) →
      (∀ job ∈ queue.jobs, job.operation.1.isCreate → succeeded job) →
      queue.state = executed codec sessionId start (queue.jobs.filter succeeded)) := by
  intro queue at_
  have inv : PromiseChain.Inv Queued.program start queue := PromiseChain.inv_run _ start events
  have settled : ∀ n job result, queue.jobs[n]? = some job → job.status = .settled result →
      job.operation.program.exec job.inputs (at_ n) = (at_ (n + 1), .done result) ∧
      ∀ error, result = .error error → SameRecords (at_ n) (at_ (n + 1)) ∧
        (job.operation.1.isCreate = false → at_ (n + 1) = at_ n) := by
    intro n job result found settled
    have ran := PromiseChain.settled_eq inv found settled
    refine ⟨ran, ?_⟩
    rintro error rfl
    exact body_triple job.operation.1 _ job.inputs _ (.error error) rfl ran
  refine ⟨PromiseChain.operations_eq _ start events, inv.state, settled, ?_⟩
  intro all creations
  rw [inv.state]
  refine (PromiseChain.serial_filter succeeded start ?_).symm
  intro n job found failed
  have member := List.mem_of_getElem? found
  have done := all job member
  cases status : job.status with
  | waiting previous => simp [status, Status.isSettled] at done
  | running rest => simp [status, Status.isSettled] at done
  | settled result =>
    cases result with
    | ok answer => simp [succeeded, status] at failed
    | error error =>
      refine ((settled n job _ found status).2 error rfl).2 ?_
      by_contra creation
      simp [creations job member (by simpa using creation)] at failed

/-- Records that are an id and a version, and decode to themselves. -/
def plainRecord : RecordCodec (String × Option Nat) where
  sessionId := (·.1)
  id := (·.1)
  version := (·.2)
  withVersion record version := (record.1, some version)
  sameRecord a b := a.1 = b.1
  normalize record _ := .ok record

def plainCodec : DalCodec (String × Option Nat) (String × Option Nat) (String × Option Nat) Unit :=
  ⟨plainRecord, plainRecord, plainRecord, fun _ envelope _ _ => .ok envelope⟩

def emptyStore : InMemoryDurableRuntimeStore (String × Option Nat) (String × Option Nat)
    (String × Option Nat) Unit :=
  ⟨InMemorySessionStore.new, InMemoryChildStore.new, InMemoryChildStore.new, .new, []⟩

/-- A `createSessionWithLease` whose `initialEvent` throws, run to its end: the session is removed
again and the lease released, but its record and its fence stay. -/
def failedCreation : List (ChainEvent (Queued (String × Option Nat) (String × Option Nat)
    (String × Option Nat) Unit Unit Unit plainCodec "call") (Env Unit)) :=
  [.submit ⟨.createSessionWithLease ("call", none) "worker" (.int 10)
      (some fun _ => .error (.error "no event")), rfl⟩, .start 0] ++
    List.replicate 7 (.advance 0 ⟨.int 0, "generation", ()⟩)

theorem failedCreation_keeps_lease :
    ¬ ∀ events : List (ChainEvent (Queued (String × Option Nat) (String × Option Nat)
        (String × Option Nat) Unit Unit Unit plainCodec "call") (Env Unit)),
      (∀ job ∈ (queueAfter plainCodec "call" emptyStore events).jobs, job.status.isSettled) →
      (queueAfter plainCodec "call" emptyStore events).state =
        executed plainCodec "call" emptyStore
          ((queueAfter plainCodec "call" emptyStore events).jobs.filter succeeded) := by
  intro equal
  have settled : (queueAfter plainCodec "call" emptyStore failedCreation).jobs.all
      (fun job => job.status.isSettled) = true := by decide
  have same := equal failedCreation (by simpa using settled)
  have fences := congrArg (fun store => store.rawLeases.currentFence "call") same
  revert fences
  decide

end Tvic.SessionSerialization
