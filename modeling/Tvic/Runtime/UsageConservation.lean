import Tvic.Lib.Run
import Tvic.Runtime.UsageReading

/-!
# Usage is conserved

Every run of `beginLlmRequest`, `finish`, `freeze` and `resume` on one accumulator. The caller keeps
the operations in slots. Every request that was begun is counted in one entry, each of its token
fields is either under way or settled once, and a value is a sum of reports of different requests.
A freeze leaves no trace but the requests that were begun while it held.
-/
namespace Tvic

open Lib SessionUsageAccumulator

inductive UsageCall where
  | beginLlmRequest (slot : Nat) (input : LlmRequest)
  | finish (slot : Nat) (result : Option LlmRequestResult)
  | freeze
  | resume
  deriving DecidableEq, Repr

/-- The accumulator, the operations that the caller holds, and how many requests were opened. -/
structure UsageRun where
  usage : SessionUsageAccumulator
  operations : InsertionMap Nat LlmUsageOperation
  opened : Nat

namespace UsageRun

def new : UsageRun where
  usage := .new
  operations := []
  opened := 0

variable (localeCompare : Text → Text → Ordering)

def step (s : UsageRun) : UsageCall → UsageRun
  | .beginLlmRequest slot input =>
    match s.usage.beginLlmRequest s.opened input with
    | (.closed, usage) => { s with usage, operations := s.operations.set slot .closed }
    | (operation, usage) =>
      { usage, operations := s.operations.set slot operation, opened := s.opened + 1 }
  | .finish slot result =>
    match s.operations.get slot with
    | none => s
    | some operation =>
      let (operation, usage) := s.usage.finish operation result
      { s with usage, operations := s.operations.set slot operation }
  | .freeze => { s with usage := (s.usage.freeze localeCompare).2 }
  | .resume => { s with usage := s.usage.resume }

/-- The run of the calls on a new accumulator. -/
def after (calls : List UsageCall) : UsageRun := run (step localeCompare) new calls

end UsageRun

def begunUnfrozen : Bool → List UsageCall → Nat
  | _, [] => 0
  | frozen, .beginLlmRequest _ _ :: rest =>
    begunUnfrozen frozen rest + if frozen then 0 else 1
  | frozen, .finish _ _ :: rest => begunUnfrozen frozen rest
  | _, .freeze :: rest => begunUnfrozen true rest
  | _, .resume :: rest => begunUnfrozen false rest

/-- The calls without `freeze` and `resume`, and without the requests that were begun while a summary
was frozen; `dropped` tells the slots that hold one of those. -/
def withoutFreezes : Bool → (Nat → Bool) → List UsageCall → List UsageCall
  | _, _, [] => []
  | frozen, dropped, .beginLlmRequest slot input :: rest =>
    if frozen then withoutFreezes frozen (Function.update dropped slot true) rest
    else
      .beginLlmRequest slot input ::
        withoutFreezes frozen (Function.update dropped slot false) rest
  | frozen, dropped, .finish slot result :: rest =>
    if dropped slot then withoutFreezes frozen dropped rest
    else .finish slot result :: withoutFreezes frozen dropped rest
  | _, dropped, .freeze :: rest => withoutFreezes true dropped rest
  | _, dropped, .resume :: rest => withoutFreezes false dropped rest

namespace UsageRun

variable {localeCompare : Text → Text → Ordering}

/-! ## Conservation -/

def unfinishedOn (key : Text) : LlmUsageOperation → Nat
  | .opened _ _ own false => if own = key then 1 else 0
  | _ => 0

/-- Every request is counted once, and each of its fields is under way or settled. -/
structure Conserved (s : UsageRun) : Prop where
  regular : s.usage.Regular
  slots : s.operations.keys.Nodup
  requests : s.usage.total .requestCount (·.value) = s.opened
  tokens : ∀ field : TokenField,
    s.usage.total field.metric (fun metric => metric.settled + metric.pending) = s.opened
  counted : ∀ key, InsertionMap.total (unfinishedOn key) s.operations ≤
    (s.usage.read key .requestCount).value
  waiting : ∀ key (field : TokenField), InsertionMap.total (unfinishedOn key) s.operations ≤
    (s.usage.read key field.metric).pending
  entries : ∀ slot request provider key,
    s.operations.get slot = some (.opened request provider key false) →
      key ∈ s.usage.entries.keys ∧ ∀ name, (s.usage.metric? key name).isSome

theorem conserved_new : new.Conserved where
  regular := regular_new
  slots := List.nodup_nil
  requests := rfl
  tokens := fun _ => rfl
  counted := fun _ => Nat.zero_le _
  waiting := fun _ _ => Nat.zero_le _
  entries := fun _ _ _ _ held => by cases held

variable {s : UsageRun}

theorem total_set_le (unique : s.operations.keys.Nodup) (key : Text) (slot : Nat)
    (operation : LlmUsageOperation) :
    InsertionMap.total (unfinishedOn key) (s.operations.set slot operation) ≤
      InsertionMap.total (unfinishedOn key) s.operations + unfinishedOn key operation := by
  rw [InsertionMap.total_set _ unique]
  have parts := InsertionMap.total_filter_add (unfinishedOn key)
    (fun entry => decide (entry.1 ≠ slot)) s.operations
  have deleted : s.operations.delete slot =
      s.operations.filter fun entry => decide (entry.1 ≠ slot) := rfl
  rw [deleted]
  omega

theorem total_finished (unique : s.operations.keys.Nodup) {slot request : Nat} {provider own : Text}
    (held : s.operations.get slot = some (.opened request provider own false)) (key : Text) :
    InsertionMap.total (unfinishedOn key)
        (s.operations.set slot (.opened request provider own true)) +
      (if own = key then 1 else 0) = InsertionMap.total (unfinishedOn key) s.operations := by
  have deleted := InsertionMap.total_delete (unfinishedOn key) unique held
  rw [InsertionMap.total_set _ unique]
  exact deleted

variable {usage' : SessionUsageAccumulator}

theorem Conserved.begin (conserved : s.Conserved) {key : Text} (begun : Begun s.usage usage' key)
    (slot : Nat) (provider : Text) :
    Conserved {
      usage := usage'
      operations := s.operations.set slot (.opened s.opened provider key false)
      opened := s.opened + 1 } := by
  have more : ∀ k, InsertionMap.total (unfinishedOn k)
      (s.operations.set slot (.opened s.opened provider key false)) ≤
        InsertionMap.total (unfinishedOn k) s.operations + if key = k then 1 else 0 := fun k =>
    total_set_le conserved.slots k slot _
  constructor
  · exact begun.regular
  · exact InsertionMap.keys_set_nodup conserved.slots _ _
  · exact begun.totalRequests.trans (congrArg (· + 1) conserved.requests)
  · intro field
    exact (begun.totalTokens field).trans (congrArg (· + 1) (conserved.tokens field))
  · intro k
    refine (more k).trans ?_
    rw [begun.requests]
    have before := conserved.counted k
    by_cases own : k = key
    · subst own
      simp only [if_true, Metric.addValue]
      omega
    · rw [if_neg own, if_neg (Ne.symm own)]
      exact before
  · intro k field
    refine (more k).trans ?_
    rw [begun.tokens]
    have before := conserved.waiting k field
    by_cases own : k = key
    · subst own
      simp only [if_true, pend]
      omega
    · rw [if_neg own, if_neg (Ne.symm own)]
      exact before
  · intro other request provider' key' held
    by_cases same : other = slot
    · subst same
      dsimp only at held
      rw [InsertionMap.get_set_self] at held
      cases held
      exact ⟨begun.member, begun.present⟩
    · dsimp only at held
      rw [InsertionMap.get_set_of_ne _ same] at held
      obtain ⟨member, present⟩ := conserved.entries other request provider' key' held
      exact ⟨begun.keys member, fun name => begun.metrics _ _ (present name)⟩

theorem Conserved.close (conserved : s.Conserved) (slot : Nat) :
    Conserved { s with operations := s.operations.set slot .closed } := by
  have fewer : ∀ k, InsertionMap.total (unfinishedOn k) (s.operations.set slot .closed) ≤
      InsertionMap.total (unfinishedOn k) s.operations := fun k =>
    total_set_le conserved.slots k slot .closed
  refine ⟨conserved.regular, InsertionMap.keys_set_nodup conserved.slots _ _,
    conserved.requests, conserved.tokens, fun k => (fewer k).trans (conserved.counted k),
    fun k field => (fewer k).trans (conserved.waiting k field), ?_⟩
  intro other request provider key held
  by_cases same : other = slot
  · subst same
    dsimp only at held
    rw [InsertionMap.get_set_self] at held
    cases held
  · dsimp only at held
    rw [InsertionMap.get_set_of_ne _ same] at held
    exact conserved.entries other request provider key held

theorem Conserved.finish (conserved : s.Conserved) {slot request : Nat}
    {provider key resolved : Text} {result : Option LlmRequestResult}
    (held : s.operations.get slot = some (.opened request provider key false))
    (finished : Finished s.usage usage' key resolved result) :
    Conserved {
      s with
      usage := usage'
      operations := s.operations.set slot (.opened request provider key true) } := by
  have fewer := total_finished conserved.slots held
  have own := fewer key
  rw [if_pos rfl] at own
  constructor
  · exact finished.regular
  · exact InsertionMap.keys_set_nodup conserved.slots _ _
  · refine (finished.totalRequests ?_).trans conserved.requests
    have before := conserved.counted key
    omega
  · intro field
    refine (finished.totalTokens field ?_).trans (conserved.tokens field)
    have before := conserved.waiting key field
    omega
  · intro k
    rw [finished.requests]
    have before := conserved.counted k
    have count := fewer k
    dsimp only
    unfold movedMetric
    split
    · omega
    · split
      next from_ =>
        subst from_
        rw [if_pos rfl] at count
        dsimp only
        omega
      next =>
        split
        · simp only [Metric.addValue]
          omega
        · omega
  · intro k field
    rw [finished.tokens]
    have before := conserved.waiting k field
    have count := fewer k
    obtain ⟨-, -, -, pending⟩ := finishedMetric_spec (conserved.regular.shaped k field.metric) key
      resolved k (llmField result field)
    rw [pending]
    dsimp only
    by_cases same : k = key
    · subst same
      rw [if_pos rfl] at count ⊢
      omega
    · rw [if_neg (Ne.symm same)] at count
      rw [if_neg same]
      omega
  · intro other request' provider' key' there
    by_cases same : other = slot
    · subst same
      dsimp only at there
      rw [InsertionMap.get_set_self] at there
      cases there
    · dsimp only at there
      rw [InsertionMap.get_set_of_ne _ same] at there
      obtain ⟨member, present⟩ := conserved.entries other request' provider' key' there
      exact ⟨finished.keys member, fun name => finished.metrics _ _ (present name)⟩

theorem Conserved.relabel (conserved : s.Conserved) (truncated : Bool)
    (snapshot : Option SessionUsageSummary) :
    Conserved { s with usage := { s.usage with truncated, snapshot } } where
  regular := ⟨conserved.regular.keys, conserved.regular.names, conserved.regular.shaped⟩
  slots := conserved.slots
  requests := conserved.requests
  tokens := conserved.tokens
  counted := conserved.counted
  waiting := conserved.waiting
  entries := conserved.entries

inductive Does (s : UsageRun) : UsageCall → UsageRun → Prop where
  | refused (slot : Nat) (input : LlmRequest) (frozen : s.usage.snapshot.isSome) :
      Does s (.beginLlmRequest slot input) { s with operations := s.operations.set slot .closed }
  | limited (slot : Nat) (input : LlmRequest) (live : s.usage.snapshot = none) :
      Does s (.beginLlmRequest slot input) {
        s with
        usage := { s.usage with truncated := true }
        operations := s.operations.set slot .closed }
  | begun (slot : Nat) (input : LlmRequest) (live : s.usage.snapshot = none) (key : Text)
      (usage' : SessionUsageAccumulator) (spec : Begun s.usage usage' key) :
      Does s (.beginLlmRequest slot input) {
        usage := usage'
        operations := s.operations.set slot (.opened s.opened input.provider key false)
        opened := s.opened + 1 }
  | nothing (slot : Nat) (result : Option LlmRequestResult)
      (absent : s.operations.get slot = none) : Does s (.finish slot result) s
  | again (slot : Nat) (result : Option LlmRequestResult) (operation : LlmUsageOperation)
      (held : s.operations.get slot = some operation)
      (done : ∀ request provider key, operation ≠ .opened request provider key false) :
      Does s (.finish slot result) { s with operations := s.operations.set slot operation }
  | finished (slot : Nat) (result : Option LlmRequestResult) (request : Nat)
      (provider key resolved : Text)
      (held : s.operations.get slot = some (.opened request provider key false))
      (usage' : SessionUsageAccumulator) (spec : Finished s.usage usage' key resolved result) :
      Does s (.finish slot result) {
        s with
        usage := usage'
        operations := s.operations.set slot (.opened request provider key true) }
  | froze (snapshot : SessionUsageSummary) :
      Does s .freeze { s with usage := { s.usage with snapshot := some snapshot } }
  | resumed : Does s .resume { s with usage := { s.usage with snapshot := none } }

theorem step_does (conserved : s.Conserved) (call : UsageCall) :
    Does s call (s.step localeCompare call) := by
  cases call with
  | beginLlmRequest slot input =>
    unfold step
    dsimp only
    rcases beginLlmRequest_spec conserved.regular s.opened input with
      ⟨frozen, closed⟩ | ⟨live, closed⟩ | ⟨live, key, usage', opened, spec⟩
    · rw [closed]
      exact .refused slot input frozen
    · rw [closed]
      exact .limited slot input live
    · rw [opened]
      exact .begun slot input live key usage' spec
  | finish slot result =>
    unfold step
    dsimp only
    cases held : s.operations.get slot with
    | none => exact .nothing slot result held
    | some operation =>
      cases operation with
      | closed => exact .again slot result .closed held (fun _ _ _ same => by cases same)
      | opened request provider key finished =>
        cases finished with
        | true => exact .again slot result _ held (fun _ _ _ same => by cases same)
        | false =>
          obtain ⟨member, present⟩ := conserved.entries slot request provider key held
          obtain ⟨resolved, usage', done, spec⟩ :=
            finish_spec conserved.regular member present request provider result
          dsimp only
          rw [done]
          exact .finished slot result request provider key resolved held usage' spec
  | freeze =>
    unfold step freeze
    cases snapshot : s.usage.snapshot with
    | none => exact .froze _
    | some frozen =>
      have same : s.usage = { s.usage with snapshot := some frozen } := by rw [← snapshot]
      dsimp only
      rw [show s = { s with usage := s.usage } from rfl, same]
      exact .froze frozen
  | resume => exact .resumed

theorem get_set_held {operations : InsertionMap Nat LlmUsageOperation} {slot : Nat}
    {operation : LlmUsageOperation} (held : operations.get slot = some operation) (other : Nat) :
    (operations.set slot operation).get other = operations.get other := by
  by_cases same : other = slot
  · subst same
    rw [InsertionMap.get_set_self, held]
  · rw [InsertionMap.get_set_of_ne _ same]

theorem Conserved.does {s s' : UsageRun} (conserved : s.Conserved) {call : UsageCall}
    (does : Does s call s') : s'.Conserved := by
  cases does with
  | refused slot input frozen => exact conserved.close slot
  | limited slot input live => exact (conserved.relabel true s.usage.snapshot).close slot
  | begun slot input live key usage' spec => exact conserved.begin spec slot input.provider
  | nothing slot result absent => exact conserved
  | again slot result operation held done =>
    have closedWeight : ∀ key, unfinishedOn key operation = 0 := by
      intro key
      cases operation with
      | closed => rfl
      | opened request provider own finished =>
        cases finished with
        | true => rfl
        | false => exact (done request provider own rfl).elim
    have fewer : ∀ k, InsertionMap.total (unfinishedOn k) (s.operations.set slot operation) ≤
        InsertionMap.total (unfinishedOn k) s.operations := fun k => by
      have bound := total_set_le conserved.slots k slot operation
      rwa [closedWeight k] at bound
    refine ⟨conserved.regular, InsertionMap.keys_set_nodup conserved.slots _ _,
      conserved.requests, conserved.tokens, fun k => (fewer k).trans (conserved.counted k),
      fun k field => (fewer k).trans (conserved.waiting k field), ?_⟩
    intro other request provider key there
    dsimp only at there
    rw [get_set_held held] at there
    exact conserved.entries other request provider key there
  | finished slot result request provider key resolved held usage' spec =>
    exact conserved.finish held spec
  | froze snapshot => exact conserved.relabel s.usage.truncated (some snapshot)
  | resumed => exact conserved.relabel s.usage.truncated none

theorem conserved_after (calls : List UsageCall) : (after localeCompare calls).Conserved :=
  run_invariant (step localeCompare) Conserved (fun _ call conserved =>
    conserved.does (step_does conserved call)) new conserved_new calls

/-! ## The requests that count -/

theorem Does.truncated {s s' : UsageRun} {call : UsageCall} (does : Does s call s')
    (limited : s.usage.truncated = true) : s'.usage.truncated = true := by
  cases does with
  | refused slot input frozen => exact limited
  | limited slot input live => rfl
  | begun slot input live key usage' spec => exact spec.truncated.trans limited
  | nothing slot result absent => exact limited
  | again slot result operation held done => exact limited
  | finished slot result request provider key resolved held usage' spec =>
    exact spec.truncated limited
  | froze snapshot => exact limited
  | resumed => exact limited

theorem truncated_run (conserved : s.Conserved) (limited : s.usage.truncated = true)
    (calls : List UsageCall) : (run (step localeCompare) s calls).usage.truncated = true := by
  induction calls generalizing s with
  | nil => exact limited
  | cons call rest ih =>
    have does := @step_does localeCompare s conserved call
    exact ih (conserved.does does) (does.truncated limited)

theorem opened_run (conserved : s.Conserved) (calls : List UsageCall)
    (untruncated : (run (step localeCompare) s calls).usage.truncated = false) :
    (run (step localeCompare) s calls).opened =
      s.opened + begunUnfrozen s.usage.snapshot.isSome calls := by
  induction calls generalizing s with
  | nil => rfl
  | cons call rest ih =>
    have does := @step_does localeCompare s conserved call
    rw [run_cons] at untruncated ⊢
    generalize step localeCompare s call = s' at does untruncated ⊢
    have next := conserved.does does
    rw [ih next untruncated]
    cases does with
    | refused slot input frozen => simp [begunUnfrozen, frozen]
    | limited slot input live =>
      rw [truncated_run next rfl rest] at untruncated
      cases untruncated
    | begun slot input live key usage' spec =>
      simp only [begunUnfrozen, spec.snapshot, live, Option.isSome_none]
      simp
      omega
    | nothing slot result absent => rfl
    | again slot result operation held done => rfl
    | finished slot result request provider key resolved held usage' spec =>
      simp [begunUnfrozen, spec.snapshot]
    | froze snapshot => rfl
    | resumed => rfl

/-! ## The reports that count -/

/-- A report that was added to a token metric. -/
structure TokenReport where
  request : Nat
  field : TokenField
  key : Text
  tokens : Nat
  deriving DecidableEq, Repr

def reportsOf (reports : List TokenReport) (key : Text) (field : TokenField) : List TokenReport :=
  reports.filter fun report => report.key = key ∧ report.field = field

def finishReports (request : Nat) (resolved : Text) (accepted : TokenField → Option Nat)
    (fields : List TokenField) : List TokenReport :=
  fields.filterMap fun field => (accepted field).map fun tokens =>
    { request, field, key := resolved, tokens }

theorem mem_finishReports {request : Nat} {resolved : Text} {accepted : TokenField → Option Nat}
    {fields : List TokenField} {report : TokenReport} :
    report ∈ finishReports request resolved accepted fields ↔
      report.field ∈ fields ∧ accepted report.field = some report.tokens ∧
        report.request = request ∧ report.key = resolved := by
  simp only [finishReports, List.mem_filterMap, Option.map_eq_some_iff]
  constructor
  · rintro ⟨field, listed, tokens, found, rfl⟩
    exact ⟨listed, found, rfl, rfl⟩
  · rintro ⟨listed, found, rfl, rfl⟩
    exact ⟨report.field, listed, report.tokens, found, rfl⟩

theorem finishReports_fields (request : Nat) (resolved : Text)
    (accepted : TokenField → Option Nat) (fields : List TokenField) :
    List.Sublist ((finishReports request resolved accepted fields).map (·.field)) fields := by
  induction fields with
  | nil => exact .slnil
  | cons first rest ih =>
    unfold finishReports at ih ⊢
    cases found : accepted first with
    | none =>
      rw [List.filterMap_cons_none (by simp [found])]
      exact ih.cons _
    | some tokens =>
      rw [List.filterMap_cons_some (by simp [found]; rfl)]
      exact ih.cons_cons _

theorem reportsOf_finishReports (request : Nat) (resolved : Text)
    (accepted : TokenField → Option Nat) (fields : List TokenField) (unique : fields.Nodup)
    (key : Text) (field : TokenField) (listed : field ∈ fields) :
    (reportsOf (finishReports request resolved accepted fields) key field).map (·.tokens) =
      if key = resolved then (accepted field).toList else [] := by
  induction fields with
  | nil => cases listed
  | cons first rest ih =>
    obtain ⟨fresh, restUnique⟩ := List.nodup_cons.mp unique
    have apart : ∀ other, other ∉ rest →
        reportsOf (finishReports request resolved accepted rest) key other = [] := by
      intro other absent
      rw [reportsOf, List.filter_eq_nil_iff]
      intro report made own
      have fields := (mem_finishReports.mp made).1
      simp only [decide_eq_true_eq] at own
      exact absent (own.2 ▸ fields)
    have parts : finishReports request resolved accepted (first :: rest) =
        ((accepted first).map fun tokens =>
          ({ request, field := first, key := resolved, tokens } : TokenReport)).toList ++
          finishReports request resolved accepted rest := by
      cases found : accepted first <;> simp [finishReports, found]
    have split_filter : reportsOf (finishReports request resolved accepted (first :: rest)) key field =
        reportsOf ((accepted first).map fun tokens =>
          ({ request, field := first, key := resolved, tokens } : TokenReport)).toList key field ++
          reportsOf (finishReports request resolved accepted rest) key field := by
      rw [parts, reportsOf, List.filter_append]
      rfl
    rw [split_filter, List.map_append]
    by_cases same : field = first
    · subst same
      rw [apart field fresh]
      cases found : accepted field with
      | none => simp [reportsOf]
      | some tokens =>
        by_cases own : key = resolved
        · simp [reportsOf, own]
        · simp [reportsOf, own, Ne.symm own]
    · have later : field ∈ rest := (List.mem_cons.mp listed).resolve_left same
      rw [ih restUnique later]
      cases found : accepted first with
      | none => simp [reportsOf]
      | some tokens => simp [reportsOf, Ne.symm same]

theorem acceptedTokens_eq_some {value tokens : Nat} {field : ProviderUsageField}
    (accepted : acceptedTokens value field = some tokens) :
    ∃ reported safe, field = .reported reported ∧ reported.safeInteger? 0 = some safe ∧
      safe.val = tokens := by
  cases field with
  | notReported reason => cases accepted
  | reported reported =>
    unfold acceptedTokens at accepted
    dsimp only at accepted
    cases safe : reported.safeInteger? 0 with
    | none =>
      rw [safe] at accepted
      cases accepted
    | some number =>
      rw [safe] at accepted
      dsimp only at accepted
      split at accepted
      · cases accepted
        exact ⟨reported, number, rfl, safe, rfl⟩
      · cases accepted

structure Reported (s : UsageRun) (calls : List UsageCall) (reports : List TokenReport) :
    Prop where
  numbers : ∀ slot request provider key finished,
    s.operations.get slot = some (.opened request provider key finished) → request < s.opened
  apart : ∀ slot slot' request provider provider' key key',
    s.operations.get slot = some (.opened request provider key false) →
      s.operations.get slot' = some (.opened request provider' key' false) → slot = slot'
  fresh : ∀ slot request provider key,
    s.operations.get slot = some (.opened request provider key false) →
      ∀ report ∈ reports, report.request ≠ request
  begun : ∀ report ∈ reports, report.request < s.opened
  distinct : (reports.map fun report => (report.request, report.field)).Nodup
  valid : ∀ report ∈ reports, ∃ slot result value tokens, .finish slot result ∈ calls ∧
    llmField result report.field = .reported value ∧ value.safeInteger? 0 = some tokens ∧
      tokens.val = report.tokens
  value : ∀ key (field : TokenField), (s.usage.read key field.metric).value =
    ((reportsOf reports key field).map (·.tokens)).sum
  observed : ∀ key (field : TokenField), (s.usage.read key field.metric).observedOperations =
    (reportsOf reports key field).length

variable {calls : List UsageCall} {reports : List TokenReport}

theorem Reported.close (reported : Reported s calls reports) (slot : Nat)
    {operation : LlmUsageOperation}
    (closed : ∀ request provider key, operation ≠ .opened request provider key false)
    (number : ∀ request provider key finished, operation = .opened request provider key finished →
      request < s.opened) :
    Reported { s with operations := s.operations.set slot operation } calls reports := by
  have held : ∀ other request provider key,
      (s.operations.set slot operation).get other = some (.opened request provider key false) →
        s.operations.get other = some (.opened request provider key false) := by
    intro other request provider key there
    by_cases same : other = slot
    · subst same
      rw [InsertionMap.get_set_self] at there
      cases there
      exact (closed request provider key rfl).elim
    · rwa [InsertionMap.get_set_of_ne _ same] at there
  refine ⟨?_, fun slot slot' request provider provider' key key' first second =>
    reported.apart slot slot' request provider provider' key key' (held _ _ _ _ first)
      (held _ _ _ _ second), fun slot request provider key there =>
    reported.fresh slot request provider key (held _ _ _ _ there), reported.begun,
    reported.distinct, reported.valid, reported.value, reported.observed⟩
  intro other request provider key finished there
  by_cases same : other = slot
  · subst same
    dsimp only at there
    rw [InsertionMap.get_set_self] at there
    cases there
    exact number request provider key finished rfl
  · dsimp only at there
    rw [InsertionMap.get_set_of_ne _ same] at there
    exact reported.numbers other request provider key finished there

theorem Reported.begin (reported : Reported s calls reports) {key : Text}
    (spec : Begun s.usage usage' key) (slot : Nat) (provider : Text) :
    Reported {
      usage := usage'
      operations := s.operations.set slot (.opened s.opened provider key false)
      opened := s.opened + 1 } calls reports := by
  have earlier : ∀ other request provider' key' finished, other ≠ slot →
      (s.operations.set slot (.opened s.opened provider key false)).get other =
        some (.opened request provider' key' finished) →
          s.operations.get other = some (.opened request provider' key' finished) := by
    intro other request provider' key' finished ne there
    rwa [InsertionMap.get_set_of_ne _ ne] at there
  have own : ∀ request provider' key' finished,
      (s.operations.set slot (.opened s.opened provider key false)).get slot =
        some (.opened request provider' key' finished) → request = s.opened := by
    intro request provider' key' finished there
    rw [InsertionMap.get_set_self] at there
    cases there
    rfl
  constructor
  · intro other request provider' key' finished there
    by_cases same : other = slot
    · subst same
      rw [own _ _ _ _ there]
      exact Nat.lt_succ_self _
    · exact (reported.numbers _ _ _ _ _ (earlier _ _ _ _ _ same there)).trans
        (Nat.lt_succ_self _)
  · intro first second request provider₁ provider₂ key₁ key₂ one two
    by_cases firstNew : first = slot
    · by_cases secondNew : second = slot
      · rw [firstNew, secondNew]
      · -- an older operation has a smaller number
        subst firstNew
        have number := own _ _ _ _ one
        have bound := reported.numbers _ _ _ _ _ (earlier _ _ _ _ _ secondNew two)
        omega
    · by_cases secondNew : second = slot
      · subst secondNew
        have number := own _ _ _ _ two
        have bound := reported.numbers _ _ _ _ _ (earlier _ _ _ _ _ firstNew one)
        omega
      · exact reported.apart _ _ _ _ _ _ _ (earlier _ _ _ _ _ firstNew one)
          (earlier _ _ _ _ _ secondNew two)
  · intro other request provider' key' there report member
    by_cases same : other = slot
    · subst same
      rw [own _ _ _ _ there]
      exact (reported.begun report member).ne
    · exact reported.fresh _ _ _ _ (earlier _ _ _ _ _ same there) report member
  · intro report member
    exact (reported.begun report member).trans (Nat.lt_succ_self _)
  · exact reported.distinct
  · exact reported.valid
  · intro k field
    rw [← reported.value k field]
    show (usage'.read k field.metric).value = _
    rw [spec.tokens]
    split <;> rfl
  · intro k field
    rw [← reported.observed k field]
    show (usage'.read k field.metric).observedOperations = _
    rw [spec.tokens]
    split <;> rfl

theorem Reported.finish (conserved : s.Conserved) (reported : Reported s calls reports)
    {slot request : Nat} {provider key resolved : Text} {result : Option LlmRequestResult}
    (held : s.operations.get slot = some (.opened request provider key false))
    (spec : Finished s.usage usage' key resolved result) (called : .finish slot result ∈ calls) :
    Reported {
      s with
      usage := usage'
      operations := s.operations.set slot (.opened request provider key true) } calls
      (reports ++ finishReports request resolved (fun field =>
        acceptedTokens (s.usage.read resolved field.metric).value (llmField result field))
        llmUsageFields) := by
  have closed := @Reported.close s calls reports reported slot (.opened request provider key true)
    (fun _ _ _ same => by cases same)
    (fun _ _ _ _ same => by
      cases same
      exact reported.numbers slot request provider key false held)
  have all : ∀ field : TokenField, field ∈ llmUsageFields := by
    intro field
    cases field <;> simp [llmUsageFields]
  have tokens : ∀ k (field : TokenField), (reportsOf (finishReports request resolved (fun field =>
      acceptedTokens (s.usage.read resolved field.metric).value (llmField result field))
        llmUsageFields) k field).map (·.tokens) =
      if k = resolved then
        (acceptedTokens (s.usage.read k field.metric).value (llmField result field)).toList
      else [] := by
    intro k field
    rw [reportsOf_finishReports _ _ _ _ (by decide) k field (all field)]
    by_cases own : k = resolved
    · rw [if_pos own, if_pos own, own]
    · rw [if_neg own, if_neg own]
  have split_reports : ∀ k field (more : List TokenReport),
      reportsOf (reports ++ more) k field = reportsOf reports k field ++ reportsOf more k field :=
    fun k field more => List.filter_append ..
  constructor
  · exact closed.numbers
  · exact closed.apart
  · intro other number provider' key' there report member
    rcases List.mem_append.mp member with earlier | new
    · exact closed.fresh other number provider' key' there report earlier
    · -- another slot with the number of this request would be this slot
      rw [(mem_finishReports.mp new).2.2.1]
      rintro rfl
      by_cases same : other = slot
      · subst same
        dsimp only at there
        rw [InsertionMap.get_set_self] at there
        cases there
      · dsimp only at there
        rw [InsertionMap.get_set_of_ne _ same] at there
        exact same (reported.apart other slot request provider' provider key' key there held)
  · intro report member
    rcases List.mem_append.mp member with earlier | new
    · exact reported.begun report earlier
    · rw [(mem_finishReports.mp new).2.2.1]
      exact reported.numbers slot request provider key false held
  · rw [List.map_append, List.nodup_append]
    refine ⟨reported.distinct, ?_, ?_⟩
    · have fields := (finishReports_fields request resolved (fun field =>
        acceptedTokens (s.usage.read resolved field.metric).value (llmField result field))
        llmUsageFields).nodup (by decide)
      exact List.Nodup.of_map Prod.snd (by rw [List.map_map]; exact fields)
    · intro a first b second same
      obtain ⟨old, oldMember, rfl⟩ := List.mem_map.mp first
      obtain ⟨new, newMember, rfl⟩ := List.mem_map.mp second
      have number := (Prod.mk.inj same).1
      rw [(mem_finishReports.mp newMember).2.2.1] at number
      exact reported.fresh slot request provider key held old oldMember number
  · intro report member
    rcases List.mem_append.mp member with earlier | new
    · exact reported.valid report earlier
    · obtain ⟨value, safe, reportedValue, found, number⟩ :=
        acceptedTokens_eq_some (mem_finishReports.mp new).2.1
      exact ⟨slot, result, value, safe, called, reportedValue, found, number⟩
  · intro k field
    have before := reported.value k field
    obtain ⟨value, -, -, -⟩ := finishedMetric_spec (conserved.regular.shaped k field.metric) key
      resolved k (llmField result field)
    rw [split_reports, List.map_append, List.sum_append, tokens]
    show (usage'.read k field.metric).value = _
    rw [spec.tokens, value, before]
    split
    · cases acceptedTokens _ _ <;> simp
    · simp
  · intro k field
    have before := reported.observed k field
    obtain ⟨-, observed, -, -⟩ := finishedMetric_spec (conserved.regular.shaped k field.metric) key
      resolved k (llmField result field)
    have length := congrArg List.length (tokens k field)
    rw [List.length_map] at length
    rw [split_reports, List.length_append, length]
    show (usage'.read k field.metric).observedOperations = _
    rw [spec.tokens, observed, before]
    split <;> simp

theorem Reported.more {calls more : List UsageCall} (reported : Reported s calls reports) :
    Reported s (calls ++ more) reports where
  numbers := reported.numbers
  apart := reported.apart
  fresh := reported.fresh
  begun := reported.begun
  distinct := reported.distinct
  valid := by
    intro report member
    obtain ⟨slot, result, value, tokens, called, rest⟩ := reported.valid report member
    exact ⟨slot, result, value, tokens, List.mem_append_left _ called, rest⟩
  value := reported.value
  observed := reported.observed

theorem Reported.does {s s' : UsageRun} (conserved : s.Conserved) {call : UsageCall}
    (reported : Reported s calls reports) (does : Does s call s') (called : call ∈ calls) :
    ∃ reports', Reported s' calls reports' := by
  cases does with
  | refused slot input frozen =>
    exact ⟨reports, reported.close slot (fun _ _ _ same => by cases same)
      (fun _ _ _ _ same => by cases same)⟩
  | limited slot input live =>
    have closed := @Reported.close s calls reports reported slot .closed
      (fun _ _ _ same => by cases same) (fun _ _ _ _ same => by cases same)
    exact ⟨reports, closed.numbers, closed.apart, closed.fresh, closed.begun, closed.distinct,
      closed.valid, closed.value, closed.observed⟩
  | begun slot input live key usage' spec => exact ⟨reports, reported.begin spec slot input.provider⟩
  | nothing slot result absent => exact ⟨reports, reported⟩
  | again slot result operation held done =>
    refine ⟨reports, reported.close slot done ?_⟩
    rintro request provider key finished rfl
    exact reported.numbers slot request provider key finished held
  | finished slot result request provider key resolved held usage' spec =>
    exact ⟨_, reported.finish conserved held spec called⟩
  | froze snapshot =>
    exact ⟨reports, reported.numbers, reported.apart, reported.fresh, reported.begun,
      reported.distinct, reported.valid, reported.value, reported.observed⟩
  | resumed =>
    exact ⟨reports, reported.numbers, reported.apart, reported.fresh, reported.begun,
      reported.distinct, reported.valid, reported.value, reported.observed⟩

theorem reported_new : Reported new [] [] where
  numbers := fun _ _ _ _ _ held => by cases held
  apart := fun _ _ _ _ _ _ _ held => by cases held
  fresh := fun _ _ _ _ held => by cases held
  begun := by simp
  distinct := List.nodup_nil
  valid := by simp
  value := fun _ field => by cases field <;> rfl
  observed := fun _ field => by cases field <;> rfl

theorem reported_after (calls : List UsageCall) :
    ∃ reports, Reported (after localeCompare calls) calls reports := by
  induction calls using List.reverseRecOn with
  | nil => exact ⟨[], reported_new⟩
  | append_singleton calls last ih =>
    obtain ⟨reports, reported⟩ := ih
    have conserved := @conserved_after localeCompare calls
    unfold after at reported conserved ⊢
    rw [run_snoc]
    exact reported.more.does conserved (step_does conserved last) (by simp)

end UsageRun

/-! ## Freezing leaves no trace -/

namespace SessionUsageAccumulator

variable (usage : SessionUsageAccumulator) (snapshot : Option SessionUsageSummary)

def under : SessionUsageAccumulator := { usage with snapshot }

theorem under_setMetric (key : Text) (name : MetricName) (metric : Metric) :
    (usage.under snapshot).setMetric key name metric =
      (usage.setMetric key name metric).under snapshot := by
  unfold setMetric under
  dsimp only
  split <;> rfl

theorem under_changeMetric (key : Text) (name : MetricName) (change : Metric → Metric) :
    (usage.under snapshot).changeMetric key name change =
      (usage.changeMetric key name change).under snapshot := by
  have same : (usage.under snapshot).metric? key name = usage.metric? key name := rfl
  unfold changeMetric
  rw [same]
  split
  · rfl
  · exact under_setMetric usage snapshot key name _

theorem under_withMetric (key : Text) (name : MetricName) (source : UsageSource) (unit : UsageUnit)
    (change : Metric → Metric) :
    (usage.under snapshot).withMetric key name source unit change =
      (usage.withMetric key name source unit change).under snapshot := by
  have same : (usage.under snapshot).metric? key name = usage.metric? key name := rfl
  have entries : (usage.under snapshot).entries = usage.entries := rfl
  unfold withMetric
  rw [same, entries]
  split
  · split
    · rfl
    · split <;> exact under_setMetric usage snapshot key name _
  · dsimp only
    split
    · rfl
    · exact under_setMetric usage snapshot key name _

theorem under_entry (provider : Text) (model : Option Text) (modelSource : ModelSource) :
    (usage.under snapshot).entry provider model modelSource =
      ((usage.entry provider model modelSource).1,
        (usage.entry provider model modelSource).2.under snapshot) := by
  have entries : (usage.under snapshot).entries = usage.entries := rfl
  unfold entry
  rw [entries]
  dsimp only
  split
  · rfl
  · split
    · split <;> rfl
    · split <;> rfl

theorem under_resolveEntry (provider key : Text) (result : Option LlmRequestResult) :
    (usage.under snapshot).resolveEntry provider key result =
      ((usage.resolveEntry provider key result).1,
        (usage.resolveEntry provider key result).2.under snapshot) := by
  unfold resolveEntry
  split
  · rfl
  next model _ =>
    rw [under_entry]
    obtain ⟨found, entered⟩ := usage.entry provider (some model) .providerReported
    cases found <;> rfl

theorem under_moveRequest (key resolved : Text) :
    (usage.under snapshot).moveRequest key resolved =
      (usage.moveRequest key resolved).under snapshot := by
  unfold moveRequest
  split
  · rfl
  · rw [under_changeMetric]
    exact under_withMetric _ snapshot _ _ _ _ _

theorem under_finishField (key resolved : Text) (result : Option LlmRequestResult)
    (field : TokenField) :
    (usage.under snapshot).finishField key resolved result field =
      (usage.finishField key resolved result field).under snapshot := by
  have same : (usage.under snapshot).metric? key field.metric = usage.metric? key field.metric := rfl
  unfold finishField
  rw [same]
  split
  · rfl
  · split
    · rfl
    · dsimp only
      rw [under_setMetric]
      split
      · exact under_changeMetric _ snapshot _ _ _
      · exact under_withMetric _ snapshot _ _ _ _ _

theorem under_finishFields (key resolved : Text) (result : Option LlmRequestResult)
    (fields : List TokenField) :
    fields.foldl (fun usage field => usage.finishField key resolved result field)
        (usage.under snapshot) =
      (fields.foldl (fun usage field => usage.finishField key resolved result field) usage).under
        snapshot := by
  induction fields generalizing usage with
  | nil => rfl
  | cons first rest ih =>
    rw [List.foldl_cons, List.foldl_cons, under_finishField]
    exact ih _

theorem under_finish (operation : LlmUsageOperation) (result : Option LlmRequestResult) :
    (usage.under snapshot).finish operation result =
      ((usage.finish operation result).1, (usage.finish operation result).2.under snapshot) := by
  cases operation with
  | closed => rfl
  | opened request provider key finished =>
    cases finished with
    | true => rfl
    | false =>
      unfold finish
      dsimp only
      rw [if_neg (by simp), if_neg (by simp), under_resolveEntry]
      dsimp only
      rw [under_moveRequest, under_finishFields]

end SessionUsageAccumulator

namespace UsageRun

variable {localeCompare : Text → Text → Ordering}

/-- Two runs that differ in a snapshot and in the slots of requests that were begun under it. -/
structure Unfrozen (dropped : Nat → Bool) (s t : UsageRun) : Prop where
  usage : t.usage = s.usage.under none
  opened : t.opened = s.opened
  operations : ∀ slot, if dropped slot then s.operations.get slot = some .closed
    else s.operations.get slot = t.operations.get slot

theorem under_self {usage : SessionUsageAccumulator} {snapshot : Option SessionUsageSummary}
    (same : usage.snapshot = snapshot) : usage.under snapshot = usage := by
  rw [under, ← same]

theorem step_snapshot {s : UsageRun} (conserved : s.Conserved) {call : UsageCall}
    (freezes : call ≠ .freeze) (resumes : call ≠ .resume) :
    (s.step localeCompare call).usage.snapshot = s.usage.snapshot := by
  have does := @step_does localeCompare s conserved call
  generalize s.step localeCompare call = s' at does ⊢
  cases does with
  | refused slot input frozen => rfl
  | limited slot input live => rfl
  | begun slot input live key usage' spec => exact spec.snapshot
  | nothing slot result absent => rfl
  | again slot result operation held done => rfl
  | finished slot result request provider key resolved held usage' spec => exact spec.snapshot
  | froze snapshot => exact (freezes rfl).elim
  | resumed => exact (resumes rfl).elim

variable {s t : UsageRun}

theorem Unfrozen.set {dropped dropped' : Nat → Bool} (unfrozen : Unfrozen dropped s t) {slot : Nat}
    (held : dropped' slot = false) (others : ∀ other, other ≠ slot → dropped' other = dropped other)
    (usage : SessionUsageAccumulator) (operation : LlmUsageOperation) (opened : Nat) :
    Unfrozen dropped' { usage, operations := s.operations.set slot operation, opened }
      { usage := usage.under none, operations := t.operations.set slot operation, opened } := by
  refine ⟨rfl, rfl, fun other => ?_⟩
  by_cases same : other = slot
  · subst same
    simp [held]
  · rw [others other same]
    dsimp only
    rw [InsertionMap.get_set_of_ne _ same, InsertionMap.get_set_of_ne _ same]
    exact unfrozen.operations other

theorem Unfrozen.begin {dropped : Nat → Bool} (conserved : s.Conserved)
    (unfrozen : Unfrozen dropped s t) (live : s.usage.snapshot = none) (slot : Nat)
    (input : LlmRequest) :
    Unfrozen (Function.update dropped slot false)
      (s.step localeCompare (.beginLlmRequest slot input))
      (t.step localeCompare (.beginLlmRequest slot input)) := by
  have own : t.usage = s.usage := unfrozen.usage.trans (under_self live)
  have kept := @step_snapshot localeCompare s conserved (.beginLlmRequest slot input)
    (fun same => by cases same) (fun same => by cases same)
  unfold step at kept ⊢
  dsimp only at kept ⊢
  rw [own, unfrozen.opened]
  obtain ⟨operation, usage', equation⟩ :
    ∃ operation usage', s.usage.beginLlmRequest s.opened input = (operation, usage') :=
      ⟨_, _, rfl⟩
  rw [equation] at kept ⊢
  have others : ∀ other, other ≠ slot →
      Function.update dropped slot false other = dropped other := fun other ne =>
    Function.update_of_ne ne ..
  cases operation with
  | closed =>
    have same : usage'.under none = usage' := under_self (kept.trans live)
    have set := unfrozen.set (Function.update_self slot false dropped) others usage' .closed s.opened
    rw [same] at set
    exact set
  | opened request provider key finished =>
    have same : usage'.under none = usage' := under_self (kept.trans live)
    have set := unfrozen.set (Function.update_self slot false dropped) others usage'
      (.opened request provider key finished) (s.opened + 1)
    rw [same] at set
    exact set

theorem Unfrozen.finish {dropped : Nat → Bool} (unfrozen : Unfrozen dropped s t) {slot : Nat}
    (held : dropped slot = false) (result : Option LlmRequestResult) :
    Unfrozen dropped (s.step localeCompare (.finish slot result))
      (t.step localeCompare (.finish slot result)) := by
  have operations := unfrozen.operations slot
  rw [held] at operations
  simp only [Bool.false_eq_true, if_false] at operations
  unfold step
  dsimp only
  rw [← operations, unfrozen.usage]
  cases s.operations.get slot with
  | none => exact unfrozen
  | some operation =>
    dsimp only
    rw [under_finish, unfrozen.opened]
    exact unfrozen.set held (fun _ _ => rfl) _ _ _

theorem unfrozen_run (conserved : s.Conserved) {dropped : Nat → Bool}
    (unfrozen : Unfrozen dropped s t) (calls : List UsageCall) :
    (run (step localeCompare) t
      (withoutFreezes s.usage.snapshot.isSome dropped calls)).usage =
        (run (step localeCompare) s calls).usage.under none := by
  induction calls generalizing s t dropped with
  | nil => exact unfrozen.usage
  | cons call rest ih =>
    have next := conserved.does (@step_does localeCompare s conserved call)
    rw [run_cons]
    cases call with
    | beginLlmRequest slot input =>
      have kept := @step_snapshot localeCompare s conserved (.beginLlmRequest slot input)
        (fun same => by cases same) (fun same => by cases same)
      cases frozen : s.usage.snapshot with
      | some snapshot =>
        -- the request is closed here, and is not begun there
        have closed : s.step localeCompare (.beginLlmRequest slot input) =
            { s with operations := s.operations.set slot .closed } := by
          simp [step, SessionUsageAccumulator.beginLlmRequest, frozen]
        have dropping : Unfrozen (Function.update dropped slot true)
            (s.step localeCompare (.beginLlmRequest slot input)) t := by
          rw [closed]
          refine ⟨unfrozen.usage, unfrozen.opened, fun other => ?_⟩
          by_cases same : other = slot
          · subst same
            simp
          · rw [Function.update_of_ne same]
            dsimp only
            rw [InsertionMap.get_set_of_ne _ same]
            exact unfrozen.operations other
        have later := ih next dropping
        rw [kept, frozen] at later
        simpa [withoutFreezes] using later
      | none =>
        have later := ih next (unfrozen.begin conserved frozen slot input)
        rw [kept, frozen] at later
        simpa [withoutFreezes] using later
    | finish slot result =>
      have kept := @step_snapshot localeCompare s conserved (.finish slot result)
        (fun same => by cases same) (fun same => by cases same)
      cases held : dropped slot with
      | true =>
        have closed := unfrozen.operations slot
        rw [held] at closed
        simp only [if_true] at closed
        have dropping : Unfrozen dropped (s.step localeCompare (.finish slot result)) t := by
          unfold step
          dsimp only
          rw [closed]
          refine ⟨unfrozen.usage, unfrozen.opened, fun other => ?_⟩
          dsimp only [SessionUsageAccumulator.finish]
          rw [get_set_held closed]
          exact unfrozen.operations other
        have later := ih next dropping
        rw [kept] at later
        simpa [withoutFreezes, held] using later
      | false =>
        have later := ih next (unfrozen.finish held result)
        rw [kept] at later
        simpa [withoutFreezes, held] using later
    | freeze =>
      have frozen : (s.step localeCompare .freeze).usage.snapshot.isSome = true ∧
          (s.step localeCompare .freeze).usage.under none = s.usage.under none := by
        unfold step SessionUsageAccumulator.freeze
        cases taken : s.usage.snapshot with
        | none => exact ⟨rfl, rfl⟩
        | some snapshot => exact ⟨by simp [taken], rfl⟩
      have unchanged : Unfrozen dropped (s.step localeCompare .freeze) t :=
        ⟨unfrozen.usage.trans frozen.2.symm, unfrozen.opened, unfrozen.operations⟩
      have later := ih next unchanged
      rw [frozen.1] at later
      exact later
    | resume =>
      have unchanged : Unfrozen dropped (s.step localeCompare .resume) t :=
        ⟨unfrozen.usage, unfrozen.opened, unfrozen.operations⟩
      exact ih next unchanged

end UsageRun

/-- A request under `gpt`, and one that its provider reports as `gpt-mini`. -/
def movedRequest : List UsageCall :=
  [.beginLlmRequest 0 { provider := utf16 "openai", model := some (utf16 "gpt") },
    .beginLlmRequest 1 { provider := utf16 "openai", model := some (utf16 "gpt") },
    .freeze, .finish 1 (some { providerModel := some (utf16 "gpt-mini") }), .resume]

end Tvic
