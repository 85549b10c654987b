import Tvic.Core.Numbers
import Tvic.Lib.DecimalText
import Tvic.Lib.InsertionMap

/-!
# The usage of a session

The LLM part of `SessionUsageAccumulator` in `packages/runtime/src/session-usage.ts`: requests begin
and finish, and a frozen summary is made of the counts. An entry is held by its key and a metric by
its name, where the source holds the objects; no entry and no metric is ever removed.
-/
namespace Tvic

open Lib

/-! ## Values, `packages/core/src/providers/usage.ts` -/

def maxSessionUsageEntries : Nat := 128

def maxSessionUsageMetricsPerEntry : Nat := 32

def maxSessionUsageIdentifierLength : Nat := 128

inductive UsageUnit where
  | requests
  | tokens
  | milliseconds
  | unicodeCodePoints
  | providerDefined
  deriving DecidableEq, Repr

inductive UsageNotReportedReason where
  | absent
  | invalid
  | unsupported
  | interrupted
  deriving DecidableEq, Repr

/-- `UsageModelOrigin`. -/
inductive ModelSource where
  | providerReported
  | request
  | configured
  | notReported
  deriving DecidableEq, Repr

inductive UsageSource where
  | provider
  | runtime
  deriving DecidableEq, Repr

inductive MetricAggregation where
  | sum
  | observations
  deriving DecidableEq, Repr

inductive ProviderUsageField where
  | reported (value : Double)
  | notReported (reason : UsageNotReportedReason)
  deriving DecidableEq, Repr

structure LlmUsageReport where
  inputTokens : ProviderUsageField
  outputTokens : ProviderUsageField
  cachedTokens : ProviderUsageField
  deriving DecidableEq, Repr

structure LlmUsage where
  inputTokens : Double
  outputTokens : Double
  cachedTokens : Option Double
  deriving DecidableEq, Repr

structure LlmRequestResult where
  providerModel : Option Text := none
  usageReport : Option LlmUsageReport := none
  usage : Option LlmUsage := none
  deriving DecidableEq, Repr

structure MissingUsageOperation where
  reason : UsageNotReportedReason
  operations : Nat
  deriving DecidableEq, Repr

inductive UsageMetric where
  | measured (unit : UsageUnit) (value : Nat)
  | reported (unit : UsageUnit) (value : Nat)
  | partly (source : UsageSource) (unit : UsageUnit) (value observedOperations : Nat)
      (notReported : List MissingUsageOperation)
  | notReported (source : UsageSource) (unit : UsageUnit)
      (notReported : List MissingUsageOperation)
  deriving DecidableEq, Repr

/-! ## Metrics -/

inductive MetricName where
  | requestCount
  | inputTokens
  | outputTokens
  | cachedTokens
  deriving DecidableEq, Repr

def MetricName.text : MetricName → String
  | .requestCount => "requestCount"
  | .inputTokens => "inputTokens"
  | .outputTokens => "outputTokens"
  | .cachedTokens => "cachedTokens"

inductive TokenField where
  | inputTokens
  | outputTokens
  | cachedTokens
  deriving DecidableEq, Repr

def llmUsageFields : List TokenField := [.inputTokens, .outputTokens, .cachedTokens]

def TokenField.metric : TokenField → MetricName
  | .inputTokens => .inputTokens
  | .outputTokens => .outputTokens
  | .cachedTokens => .cachedTokens

/-- The operations without a value, by reason. -/
structure MissingOperations where
  absent : Nat := 0
  invalid : Nat := 0
  unsupported : Nat := 0
  interrupted : Nat := 0
  deriving DecidableEq, Repr

namespace MissingOperations

def add (missing : MissingOperations) (reason : UsageNotReportedReason) (operations : Nat) :
    MissingOperations :=
  match reason with
  | .absent => { missing with absent := missing.absent + operations }
  | .invalid => { missing with invalid := missing.invalid + operations }
  | .unsupported => { missing with unsupported := missing.unsupported + operations }
  | .interrupted => { missing with interrupted := missing.interrupted + operations }

def total (missing : MissingOperations) : Nat :=
  missing.absent + missing.invalid + missing.unsupported + missing.interrupted

/-- The rows of a summary, in `MISSING_REASON_ORDER`. -/
def rows (missing : MissingOperations) : List MissingUsageOperation :=
  [⟨.absent, missing.absent⟩, ⟨.invalid, missing.invalid⟩, ⟨.unsupported, missing.unsupported⟩,
    ⟨.interrupted, missing.interrupted⟩].filter (0 < ·.operations)

@[simp] theorem total_add (missing : MissingOperations) (reason : UsageNotReportedReason)
    (operations : Nat) : (missing.add reason operations).total = missing.total + operations := by
  cases reason <;> simp [add, total] <;> omega

end MissingOperations

/-- `MutableMetric` of a sum: its observations are left out. -/
structure Metric where
  source : UsageSource
  unit : UsageUnit
  aggregation : MetricAggregation
  invalid : Bool := false
  value : Nat := 0
  observedOperations : Nat := 0
  missing : MissingOperations := {}
  pending : Nat := 0
  deriving DecidableEq, Repr

namespace Metric

def addMissing (metric : Metric) (reason : UsageNotReportedReason) (operations : Nat) : Metric :=
  { metric with missing := metric.missing.add reason operations }

def addValue (metric : Metric) (value : Nat) : Metric :=
  { metric with
    value := metric.value + value
    observedOperations := metric.observedOperations + 1 }

def applyProviderField (metric : Metric) (field : ProviderUsageField) : Metric :=
  if metric.invalid then metric
  else
    match field with
    | .notReported reason => metric.addMissing reason 1
    | .reported value =>
      match value.safeInteger? 0 with
      | none => metric.addMissing .invalid 1
      | some tokens =>
        if metric.value + tokens ≤ maxSafeInteger then metric.addValue tokens
        else metric.addMissing .invalid 1

/-- What is left of a metric that was used with two shapes. -/
def conflict (metric : Metric) : Metric :=
  { metric with
    invalid := true
    unit := .providerDefined
    value := 0
    observedOperations := 0
    missing :=
      { invalid := min maxSafeInteger
          (metric.observedOperations + metric.pending + metric.missing.total + 1) }
    pending := 0 }

def summarize (metric : Metric) : Option UsageMetric :=
  if metric.invalid then
    some (.notReported metric.source .providerDefined [⟨.invalid, metric.missing.invalid⟩])
  else if metric.observedOperations = 0 then
    if 0 < metric.missing.total then
      some (.notReported metric.source metric.unit metric.missing.rows)
    else none
  else if 0 < metric.missing.total then
    some (.partly metric.source metric.unit metric.value metric.observedOperations
      metric.missing.rows)
  else
    match metric.source with
    | .runtime => some (.measured metric.unit metric.value)
    | .provider => some (.reported metric.unit metric.value)

/-- The copy that a summary is made of: what is under way counts as interrupted. -/
def frozen (metric : Metric) : Metric :=
  if 0 < metric.pending then
    { metric.addMissing .interrupted metric.pending with pending := 0 }
  else metric

end Metric

/-! ## Entries -/

structure UsageEntry where
  provider : Text
  model : Text
  modelSource : ModelSource
  metrics : InsertionMap MetricName Metric

structure SessionUsageEntry where
  provider : Text
  model : Text
  modelSource : ModelSource
  metrics : List (MetricName × UsageMetric)
  deriving DecidableEq, Repr

structure SessionUsageSummary where
  entries : List SessionUsageEntry
  truncated : Bool
  deriving DecidableEq, Repr

/-- The operation that `beginLlmRequest` returns: closed, or one with what its `finish` has captured. -/
inductive LlmUsageOperation where
  | closed
  | opened (request : Nat) (provider key : Text) (finished : Bool)
  deriving DecidableEq, Repr

def unknownModel : Text := utf16 "unknown"

def modelSourceRank : ModelSource → Nat
  | .providerReported => 3
  | .request => 2
  | .configured => 1
  | .notReported => 0

def validModel (model : Option Text) : Option Text := model.filter (· ≠ [])

def usageEntryKey (provider : Text) (model : Option Text) : Text :=
  let normalizedModel := model.getD unknownModel
  utf16 "3:llm" ++ decimalText provider.length ++ utf16 ":" ++ provider ++
    utf16 (if model.isSome then "1" else "0") ++ utf16 ":" ++
    decimalText normalizedModel.length ++ utf16 ":" ++ normalizedModel

structure SessionUsageAccumulator where
  entries : InsertionMap Text UsageEntry
  snapshot : Option SessionUsageSummary
  truncated : Bool

namespace SessionUsageAccumulator

def new : SessionUsageAccumulator where
  entries := []
  snapshot := none
  truncated := false

variable (usage : SessionUsageAccumulator)

/-- The metric of an entry, where both are there. -/
def metric? (key : Text) (name : MetricName) : Option Metric :=
  (usage.entries.get key).bind fun entry => entry.metrics.get name

def setMetric (key : Text) (name : MetricName) (metric : Metric) : SessionUsageAccumulator :=
  match usage.entries.get key with
  | none => usage
  | some entry =>
    { usage with
      entries := usage.entries.set key { entry with metrics := entry.metrics.set name metric } }

/-- What is done with a metric that is there. -/
def changeMetric (key : Text) (name : MetricName) (change : Metric → Metric) :
    SessionUsageAccumulator :=
  match usage.metric? key name with
  | none => usage
  | some metric => usage.setMetric key name (change metric)

/-- `#metric`, and what is done with the metric that it returns. -/
def withMetric (key : Text) (name : MetricName) (source : UsageSource) (unit : UsageUnit)
    (change : Metric → Metric) : SessionUsageAccumulator :=
  match usage.metric? key name with
  | some metric =>
    if metric.invalid then usage
    else if metric.source ≠ source ∨ metric.unit ≠ unit ∨ metric.aggregation ≠ .sum then
      usage.setMetric key name metric.conflict
    else usage.setMetric key name (change metric)
  | none =>
    let size := ((usage.entries.get key).map (·.metrics.length)).getD 0
    if name.text.length = 0 ∨ maxSessionUsageIdentifierLength < name.text.length ∨
        maxSessionUsageMetricsPerEntry ≤ size then
      { usage with truncated := true }
    else usage.setMetric key name (change { source, unit, aggregation := .sum })

def addValue (key : Text) (name : MetricName) (source : UsageSource) (unit : UsageUnit)
    (value : Nat) : SessionUsageAccumulator :=
  usage.withMetric key name source unit (·.addValue value)

/-- `#entry`: the key of the entry. -/
def entry (provider : Text) (model : Option Text) (modelSource : ModelSource) :
    Option Text × SessionUsageAccumulator :=
  if provider.length = 0 ∨ maxSessionUsageIdentifierLength < provider.length ∨
      model.any (maxSessionUsageIdentifierLength < ·.length) then
    (none, { usage with truncated := true })
  else
    let valid := validModel model
    let key := usageEntryKey provider valid
    match usage.entries.get key with
    | none =>
      if maxSessionUsageEntries ≤ usage.entries.length then
        (none, { usage with truncated := true })
      else
        let entry : UsageEntry := {
          provider
          model := valid.getD unknownModel
          modelSource := if valid.isSome then modelSource else .notReported
          metrics := [] }
        (some key, { usage with entries := usage.entries.set key entry })
    | some entry =>
      if modelSourceRank entry.modelSource < modelSourceRank modelSource then
        (some key, { usage with entries := usage.entries.set key { entry with modelSource } })
      else (some key, usage)

/-! ## Requests -/

structure LlmRequest where
  provider : Text
  model : Option Text := none
  modelSource : Option ModelSource := none
  deriving DecidableEq, Repr

def pendField (key : Text) (field : TokenField) : SessionUsageAccumulator :=
  usage.withMetric key field.metric .provider .tokens
    fun metric => { metric with pending := metric.pending + 1 }

/-- `beginLlmRequest`; `request` is the number that the operation is told apart by. -/
def beginLlmRequest (request : Nat) (input : LlmRequest) :
    LlmUsageOperation × SessionUsageAccumulator :=
  if usage.snapshot.isSome then (.closed, usage)
  else
    let modelSource := input.modelSource.getD
      (if (validModel input.model).isSome then .request else .notReported)
    match usage.entry input.provider input.model modelSource with
    | (none, usage) => (.closed, usage)
    | (some key, usage) =>
      (.opened request input.provider key false,
        llmUsageFields.foldl (fun usage field => usage.pendField key field)
          (usage.addValue key .requestCount .runtime .requests 1))

def validTokenCount (value : Double) : Bool := (value.safeInteger? 0).isSome

def LlmUsageReport.field (report : LlmUsageReport) : TokenField → ProviderUsageField
  | .inputTokens => report.inputTokens
  | .outputTokens => report.outputTokens
  | .cachedTokens => report.cachedTokens

def reportField (report : LlmUsageReport) (field : TokenField) : ProviderUsageField :=
  let exceeds : Bool := match report.cachedTokens, report.inputTokens with
    | .reported cached, .reported input => decide (field = .cachedTokens) && input.less cached
    | _, _ => false
  if exceeds then .notReported .invalid
  else
    match LlmUsageReport.field report field with
    | .reported value =>
      if validTokenCount value then .reported value else .notReported .invalid
    | other => other

/-- `#llmField` for a report of the old form. -/
def legacyField (legacy : LlmUsage) (field : TokenField) : ProviderUsageField :=
  let checked (value : Double) : ProviderUsageField :=
    if validTokenCount value then .reported value else .notReported .invalid
  match field with
  | .inputTokens => checked legacy.inputTokens
  | .outputTokens => checked legacy.outputTokens
  | .cachedTokens =>
    match legacy.cachedTokens with
    | none => .notReported .absent
    | some value =>
      if !validTokenCount legacy.inputTokens || legacy.inputTokens.less value then
        .notReported .invalid
      else checked value

def llmField (result : Option LlmRequestResult) (field : TokenField) : ProviderUsageField :=
  match result.bind (·.usageReport) with
  | some report => reportField report field
  | none =>
    match result.bind (·.usage) with
    | some legacy => legacyField legacy field
    | none => .notReported .absent

def finishField (key resolvedKey : Text) (result : Option LlmRequestResult) (field : TokenField) :
    SessionUsageAccumulator :=
  match usage.metric? key field.metric with
  | none => usage
  | some pendingMetric =>
    if pendingMetric.invalid then usage
    else
      let usage := usage.setMetric key field.metric
        { pendingMetric with pending := pendingMetric.pending - 1 }
      let apply (metric : Metric) : Metric := metric.applyProviderField (llmField result field)
      if resolvedKey = key then usage.changeMetric key field.metric apply
      else usage.withMetric resolvedKey field.metric .provider .tokens apply

/-- The request is counted where its provider reported it to be. -/
def moveRequest (key resolvedKey : Text) : SessionUsageAccumulator :=
  if resolvedKey = key then usage
  else
    (usage.changeMetric key .requestCount fun metric =>
      if metric.invalid then metric
      -- a request that moves was counted where it began
      else
        { metric with
          value := metric.value - 1
          observedOperations := metric.observedOperations - 1 }).addValue
      resolvedKey .requestCount .runtime .requests 1

/-- The model that a result names, unless it is blank. -/
def reportedModel (result : Option LlmRequestResult) : Option Text :=
  (result.bind (·.providerModel)).filter fun model => model.any (!isWhitespace ·)

def resolveEntry (provider key : Text) (result : Option LlmRequestResult) :
    Text × SessionUsageAccumulator :=
  match reportedModel result with
  | none => (key, usage)
  | some model =>
    match usage.entry provider (some model) .providerReported with
    | (none, usage) => (key, usage)
    | (some resolvedKey, usage) => (resolvedKey, usage)

def finish (operation : LlmUsageOperation) (result : Option LlmRequestResult) :
    LlmUsageOperation × SessionUsageAccumulator :=
  match operation with
  | .closed => (.closed, usage)
  | .opened request provider key finished =>
    if finished then (operation, usage)
    else
      let (resolvedKey, usage) := usage.resolveEntry provider key result
      (.opened request provider key true,
        llmUsageFields.foldl (fun usage field => usage.finishField key resolvedKey result field)
          (usage.moveRequest key resolvedKey))

/-! ## Summaries -/

/-- The text that the entries of a summary are ordered by. -/
def SessionUsageEntry.label (entry : SessionUsageEntry) : Text :=
  utf16 "llm" ++ [0] ++ entry.provider ++ [0] ++ entry.model

/-- The summary of an entry, unless it has no metric to tell of. -/
def summarizeEntry (entry : UsageEntry) : Option SessionUsageEntry :=
  let metrics := entry.metrics.filterMap fun (name, metric) =>
    metric.frozen.summarize.map (name, ·)
  if metrics.isEmpty then none
  else some {
    provider := entry.provider
    model := entry.model
    modelSource := entry.modelSource
    metrics }

/-- What a summary made now would be. -/
def summary (localeCompare : Text → Text → Ordering) : SessionUsageSummary where
  entries := (usage.entries.values.filterMap summarizeEntry).mergeSort fun left right =>
    localeCompare (SessionUsageEntry.label left) (SessionUsageEntry.label right) != .gt
  truncated := usage.truncated

def freeze (localeCompare : Text → Text → Ordering) :
    SessionUsageSummary × SessionUsageAccumulator :=
  match usage.snapshot with
  | some snapshot => (snapshot, usage)
  | none =>
    let snapshot := usage.summary localeCompare
    (snapshot, { usage with snapshot := some snapshot })

def resume : SessionUsageAccumulator := { usage with snapshot := none }

end SessionUsageAccumulator

end Tvic
