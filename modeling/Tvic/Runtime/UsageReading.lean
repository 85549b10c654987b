import Tvic.Lib.MapTotals
import Tvic.Runtime.SessionUsage

/-!
# Reading the usage of a session

An accumulator is read as a metric for every entry and name, fresh where the source has none yet.
Each operation then changes the reading at single places, and the totals over the entries follow
from that.
-/
namespace Tvic

open Lib

/-! ## Keys of a map -/

theorem mem_keys_of_get {κ ν : Type} [DecidableEq κ] {map : InsertionMap κ ν} {key : κ} {value : ν}
    (found : map.get key = some value) : key ∈ map.keys := by
  by_contra absent
  rw [InsertionMap.get_eq_none.mpr absent] at found
  cases found

theorem get_of_mem_keys {κ ν : Type} [DecidableEq κ] {map : InsertionMap κ ν} {key : κ}
    (member : key ∈ map.keys) : ∃ value, map.get key = some value := by
  cases found : map.get key with
  | none => exact absurd member (InsertionMap.get_eq_none.mp found)
  | some value => exact ⟨value, rfl⟩

theorem keys_set_of_mem {κ ν : Type} [DecidableEq κ] {map : InsertionMap κ ν} {key : κ}
    (member : key ∈ map.keys) (value : ν) : (map.set key value).keys = map.keys := by
  rw [InsertionMap.set, if_pos (InsertionMap.has_eq_true.mpr member), InsertionMap.keys,
    InsertionMap.keys, List.map_map]
  apply List.map_congr_left
  intro entry _
  by_cases own : entry.1 = key <;> simp [own]

theorem keys_set_of_not_mem {κ ν : Type} [DecidableEq κ] {map : InsertionMap κ ν} {key : κ}
    (absent : key ∉ map.keys) (value : ν) : (map.set key value).keys = map.keys ++ [key] := by
  rw [InsertionMap.set, if_neg (fun has => absent (InsertionMap.has_eq_true.mp has))]
  simp [InsertionMap.keys]

theorem sum_indicator {κ : Type} [DecidableEq κ] {keys : List κ} (unique : keys.Nodup) {key : κ}
    (member : key ∈ keys) : (keys.map fun k => if k = key then 1 else 0).sum = 1 := by
  induction keys with
  | nil => cases member
  | cons first rest ih =>
    obtain ⟨fresh, restUnique⟩ := List.nodup_cons.mp unique
    rw [List.map_cons, List.sum_cons]
    rcases List.mem_cons.mp member with rfl | later
    · have others : (rest.map fun k => if k = key then 1 else 0).sum = 0 := by
        apply List.sum_eq_zero
        intro n held
        obtain ⟨k, inRest, rfl⟩ := List.mem_map.mp held
        have other : k ≠ key := fun same => fresh (same ▸ inRest)
        exact if_neg other
      rw [if_pos rfl, others]
    · have other : first ≠ key := fun same => fresh (same ▸ later)
      rw [if_neg other, ih restUnique later]

/-! ## The shape of a metric -/

def MetricName.source : MetricName → UsageSource
  | .requestCount => .runtime
  | _ => .provider

def MetricName.unit : MetricName → UsageUnit
  | .requestCount => .requests
  | _ => .tokens

/-- A metric of this name that nothing was counted in. -/
def freshMetric (name : MetricName) : Metric where
  source := name.source
  unit := name.unit
  aggregation := .sum

structure Metric.Shaped (metric : Metric) (name : MetricName) : Prop where
  source : metric.source = name.source
  unit : metric.unit = name.unit
  aggregation : metric.aggregation = .sum
  valid : metric.invalid = false

theorem freshMetric_shaped (name : MetricName) : (freshMetric name).Shaped name :=
  ⟨rfl, rfl, rfl, rfl⟩

theorem TokenField.metric_injective : Function.Injective TokenField.metric := by
  intro a b same
  cases a <;> cases b <;> first | rfl | cases same

theorem TokenField.metric_ne_requestCount (field : TokenField) : field.metric ≠ .requestCount := by
  cases field <;> decide

def Metric.settled (metric : Metric) : Nat := metric.observedOperations + metric.missing.total

def acceptedTokens (value : Nat) : ProviderUsageField → Option Nat
  | .notReported _ => none
  | .reported reported =>
    match reported.safeInteger? 0 with
    | none => none
    | some tokens => if value + tokens ≤ maxSafeInteger then some tokens.val else none

variable {name : MetricName}

theorem Metric.applyProviderField_spec {metric : Metric} (shaped : metric.Shaped name)
    (field : ProviderUsageField) :
    (metric.applyProviderField field).Shaped name ∧
      (metric.applyProviderField field).value =
        metric.value + (acceptedTokens metric.value field).getD 0 ∧
      (metric.applyProviderField field).observedOperations =
        metric.observedOperations + (acceptedTokens metric.value field).toList.length ∧
      (metric.applyProviderField field).settled = metric.settled + 1 ∧
      (metric.applyProviderField field).pending = metric.pending := by
  obtain ⟨source, unit, aggregation, valid⟩ := shaped
  have missing : ∀ reason, (metric.addMissing reason 1).Shaped name ∧
      (metric.addMissing reason 1).settled = metric.settled + 1 := fun reason =>
    ⟨⟨source, unit, aggregation, valid⟩, by simp [addMissing, settled]; omega⟩
  unfold applyProviderField acceptedTokens
  rw [if_neg (by simp [valid])]
  cases field with
  | notReported reason => exact ⟨(missing reason).1, rfl, rfl, (missing reason).2, rfl⟩
  | reported value =>
    dsimp only
    cases safe : value.safeInteger? 0 with
    | none => exact ⟨(missing .invalid).1, rfl, rfl, (missing .invalid).2, rfl⟩
    | some tokens =>
      dsimp only
      by_cases fits : metric.value + tokens ≤ maxSafeInteger
      · rw [if_pos fits, if_pos fits]
        refine ⟨⟨source, unit, aggregation, valid⟩, rfl, rfl, ?_, rfl⟩
        simp only [addValue, settled]
        omega
      · rw [if_neg fits, if_neg fits]
        exact ⟨(missing .invalid).1, rfl, rfl, (missing .invalid).2, rfl⟩

namespace SessionUsageAccumulator

/-! ## Reading an accumulator -/

/-- The metric of an entry, fresh where there is none. -/
def read (usage : SessionUsageAccumulator) (key : Text) (name : MetricName) : Metric :=
  (usage.metric? key name).getD (freshMetric name)

/-- Maps with each key once, and metrics of the shapes that they are used with. -/
structure Regular (usage : SessionUsageAccumulator) : Prop where
  keys : usage.entries.keys.Nodup
  names : ∀ key entry, usage.entries.get key = some entry → entry.metrics.keys.Nodup
  shaped : ∀ key name, (usage.read key name).Shaped name

theorem regular_new : new.Regular where
  keys := List.nodup_nil
  names := fun _ _ found => by cases found
  shaped := fun _ name => freshMetric_shaped name

/-- Only metrics were changed. -/
structure Frame (usage usage' : SessionUsageAccumulator) : Prop where
  regular : usage'.Regular
  keys : usage'.entries.keys = usage.entries.keys
  truncated : usage'.truncated = usage.truncated
  snapshot : usage'.snapshot = usage.snapshot
  metrics : ∀ key name, (usage.metric? key name).isSome → (usage'.metric? key name).isSome

theorem Frame.refl {usage : SessionUsageAccumulator} (regular : usage.Regular) :
    Frame usage usage :=
  ⟨regular, rfl, rfl, rfl, fun _ _ present => present⟩

theorem Frame.trans {first second third : SessionUsageAccumulator} (one : Frame first second)
    (two : Frame second third) : Frame first third :=
  ⟨two.regular, two.keys.trans one.keys, two.truncated.trans one.truncated,
    two.snapshot.trans one.snapshot, fun key name present =>
      two.metrics key name (one.metrics key name present)⟩

/-- One metric was changed, and nothing else. -/
structure Updated (usage usage' : SessionUsageAccumulator) (key : Text) (name : MetricName)
    (metric : Metric) : Prop extends Frame usage usage' where
  read : ∀ k n, usage'.read k n = if k = key ∧ n = name then metric else usage.read k n
  present : (usage'.metric? key name).isSome

variable {usage : SessionUsageAccumulator}

variable {key : Text}

theorem metric?_setMetric (member : key ∈ usage.entries.keys) (name : MetricName) (metric : Metric)
    (k : Text) (n : MetricName) :
    (usage.setMetric key name metric).metric? k n =
      if k = key ∧ n = name then some metric else usage.metric? k n := by
  obtain ⟨entry, found⟩ := get_of_mem_keys member
  simp only [setMetric, found, metric?]
  by_cases own : k = key
  · subst own
    rw [InsertionMap.get_set_self, found]
    by_cases named : n = name
    · subst named
      simp
    · simp [named, InsertionMap.get_set_of_ne _ named]
  · rw [InsertionMap.get_set_of_ne _ own]
    simp [own]

theorem setMetric_updated (regular : usage.Regular) (member : key ∈ usage.entries.keys)
    {metric : Metric} (shaped : metric.Shaped name) :
    Updated usage (usage.setMetric key name metric) key name metric := by
  have lookups := metric?_setMetric member name metric
  have reads : ∀ k n, (usage.setMetric key name metric).read k n =
      if k = key ∧ n = name then metric else usage.read k n := by
    intro k n
    unfold read
    rw [lookups k n]
    split
    next own => rfl
    next => rfl
  obtain ⟨entry, found⟩ := get_of_mem_keys member
  have entries : (usage.setMetric key name metric).entries =
      usage.entries.set key { entry with metrics := entry.metrics.set name metric } := by
    simp [setMetric, found]
  have keys : (usage.setMetric key name metric).entries.keys = usage.entries.keys := by
    rw [entries, keys_set_of_mem member]
  have kept : (usage.setMetric key name metric).Regular := by
    constructor
    · rw [keys]
      exact regular.keys
    · intro k other stored
      rw [entries] at stored
      by_cases own : k = key
      · subst own
        rw [InsertionMap.get_set_self] at stored
        cases stored
        exact InsertionMap.keys_set_nodup (regular.names k entry found) name metric
      · rw [InsertionMap.get_set_of_ne _ own] at stored
        exact regular.names k other stored
    · intro k n
      rw [reads]
      split
      next own =>
        rw [own.2]
        exact shaped
      next => exact regular.shaped k n
  refine ⟨⟨kept, keys, by simp [setMetric, found], by simp [setMetric, found], ?_⟩, reads, ?_⟩
  · intro k n present
    rw [lookups]
    split
    · rfl
    · exact present
  · rw [lookups, if_pos ⟨rfl, rfl⟩]
    rfl

theorem changeMetric_updated (regular : usage.Regular) (present : (usage.metric? key name).isSome)
    (change : Metric → Metric) (shaped : (change (usage.read key name)).Shaped name) :
    Updated usage (usage.changeMetric key name change) key name (change (usage.read key name)) := by
  obtain ⟨metric, found⟩ := Option.isSome_iff_exists.mp present
  have member : key ∈ usage.entries.keys := by
    obtain ⟨entry, stored, -⟩ := Option.bind_eq_some_iff.mp found
    exact mem_keys_of_get stored
  have same : usage.read key name = metric := by simp [read, found]
  rw [same] at shaped ⊢
  unfold changeMetric
  rw [found]
  exact setMetric_updated regular member shaped

theorem Regular.few (regular : usage.Regular) {entry : UsageEntry}
    (stored : usage.entries.get key = some entry) : entry.metrics.length ≤ 4 := by
  have all : entry.metrics.keys ⊆
      [.requestCount, .inputTokens, .outputTokens, .cachedTokens] := by
    intro name _
    cases name <;> simp
  have bound := (List.subperm_of_subset (regular.names key entry stored) all).length_le
  simpa [InsertionMap.keys] using bound

theorem withMetric_updated (regular : usage.Regular) (member : key ∈ usage.entries.keys)
    (change : Metric → Metric) (shaped : (change (usage.read key name)).Shaped name) :
    Updated usage (usage.withMetric key name name.source name.unit change) key name
      (change (usage.read key name)) := by
  have own := regular.shaped key name
  cases found : usage.metric? key name with
  | some metric =>
    have same : usage.read key name = metric := by simp [read, found]
    rw [same] at own shaped ⊢
    have fits : ¬(metric.source ≠ name.source ∨ metric.unit ≠ name.unit ∨
        metric.aggregation ≠ .sum) := by
      simp [own.source, own.unit, own.aggregation]
    unfold withMetric
    rw [found]
    dsimp only
    rw [if_neg (by simp [own.valid]), if_neg fits]
    exact setMetric_updated regular member shaped
  | none =>
    have same : usage.read key name = freshMetric name := by simp [read, found]
    rw [same] at shaped ⊢
    obtain ⟨entry, stored⟩ := get_of_mem_keys member
    have few := regular.few stored
    have named : name.text.length ≠ 0 ∧ name.text.length ≤ maxSessionUsageIdentifierLength := by
      cases name <;> decide
    unfold withMetric
    rw [found]
    dsimp only
    rw [stored, if_neg]
    · exact setMetric_updated regular member shaped
    · simp only [Option.map_some, Option.getD_some, maxSessionUsageMetricsPerEntry]
      omega

/-- An entry is there, and no metric has changed. -/
structure Entered (usage usage' : SessionUsageAccumulator) (key : Text) : Prop where
  regular : usage'.Regular
  member : key ∈ usage'.entries.keys
  keys : usage'.entries.keys = usage.entries.keys ∨
    usage'.entries.keys = usage.entries.keys ++ [key]
  truncated : usage'.truncated = usage.truncated
  snapshot : usage'.snapshot = usage.snapshot
  metrics : ∀ k n, usage'.metric? k n = usage.metric? k n

variable {usage' : SessionUsageAccumulator}

theorem Entered.read (entered : Entered usage usage' key) (k : Text) (n : MetricName) :
    usage'.read k n = usage.read k n := by
  simp [SessionUsageAccumulator.read, entered.metrics]

theorem Entered.keys_subset (entered : Entered usage usage' key) :
    usage.entries.keys ⊆ usage'.entries.keys := by
  rcases entered.keys with same | longer
  · rw [same]
    exact fun _ held => held
  · rw [longer]
    exact List.subset_append_left _ _

theorem Entered.refl (regular : usage.Regular) (member : key ∈ usage.entries.keys) :
    Entered usage usage key :=
  ⟨regular, member, .inl rfl, rfl, rfl, fun _ _ => rfl⟩

theorem entry_spec (regular : usage.Regular) (provider : Text) (model : Option Text)
    (modelSource : ModelSource) :
    (usage.entry provider model modelSource = (none, { usage with truncated := true })) ∨
      ∃ key usage', usage.entry provider model modelSource = (some key, usage') ∧
        Entered usage usage' key := by
  unfold entry
  split
  · exact .inl rfl
  next admitted =>
    dsimp only
    generalize usageEntryKey provider (validModel model) = key
    split
    next found =>
      split
      · exact .inl rfl
      · have absent := InsertionMap.get_eq_none.mp found
        refine .inr ⟨key, _, rfl, ?_⟩
        generalize entryEq : UsageEntry.mk provider ((validModel model).getD unknownModel)
          (if (validModel model).isSome then modelSource else .notReported) [] = entry
        have metrics : ∀ k n, ({ usage with entries := usage.entries.set key entry } :
            SessionUsageAccumulator).metric? k n = usage.metric? k n := by
          intro k n
          unfold metric?
          dsimp only
          by_cases own : k = key
          · subst own
            rw [InsertionMap.get_set_self, found, ← entryEq]
            rfl
          · rw [InsertionMap.get_set_of_ne _ own]
        refine ⟨⟨?_, ?_, ?_⟩, ?_, .inr (keys_set_of_not_mem absent _), rfl, rfl, metrics⟩
        · exact InsertionMap.keys_set_nodup regular.keys key entry
        · intro k other stored
          by_cases own : k = key
          · subst own
            dsimp only at stored
            rw [InsertionMap.get_set_self] at stored
            cases stored
            rw [← entryEq]
            exact List.nodup_nil
          · dsimp only at stored
            rw [InsertionMap.get_set_of_ne _ own] at stored
            exact regular.names k other stored
        · intro k n
          rw [read, metrics]
          exact regular.shaped k n
        · rw [keys_set_of_not_mem absent]
          simp
    next stored found =>
      have member := mem_keys_of_get found
      split
      · refine .inr ⟨key, _, rfl, ?_⟩
        have metrics : ∀ k n, ({ usage with
            entries := usage.entries.set key { stored with modelSource } } :
            SessionUsageAccumulator).metric? k n = usage.metric? k n := by
          intro k n
          unfold metric?
          dsimp only
          by_cases own : k = key
          · subst own
            rw [InsertionMap.get_set_self, found]
            rfl
          · rw [InsertionMap.get_set_of_ne _ own]
        refine ⟨⟨?_, ?_, ?_⟩, ?_, .inl (keys_set_of_mem member _), rfl, rfl, metrics⟩
        · exact InsertionMap.keys_set_nodup regular.keys key _
        · intro k other held
          by_cases own : k = key
          · subst own
            dsimp only at held
            rw [InsertionMap.get_set_self] at held
            cases held
            exact regular.names k stored found
          · dsimp only at held
            rw [InsertionMap.get_set_of_ne _ own] at held
            exact regular.names k other held
        · intro k n
          rw [read, metrics]
          exact regular.shaped k n
        · rw [keys_set_of_mem member]
          exact member
      · exact .inr ⟨key, usage, rfl, .refl regular member⟩

/-! ## Totals -/

def total (usage : SessionUsageAccumulator) (name : MetricName) (count : Metric → Nat) : Nat :=
  (usage.entries.map fun (_, entry) => ((entry.metrics.get name).map count).getD 0).sum

variable {count : Metric → Nat}

theorem total_eq_sum (regular : usage.Regular) (fresh : count (freshMetric name) = 0) :
    usage.total name count = (usage.entries.keys.map fun key => count (usage.read key name)).sum := by
  unfold total InsertionMap.keys
  rw [List.map_map]
  congr 1
  apply List.map_congr_left
  rintro ⟨key, entry⟩ member
  have stored : usage.entries.get key = some entry :=
    InsertionMap.get_of_mem regular.keys member
  show ((entry.metrics.get name).map count).getD 0 = count (usage.read key name)
  unfold read metric?
  rw [stored, Option.bind_some]
  cases entry.metrics.get name with
  | none => simp [fresh]
  | some metric => rfl

theorem Frame.total_succ (frame : Frame usage usage') (regular : usage.Regular)
    (fresh : count (freshMetric name) = 0) (member : key ∈ usage.entries.keys)
    (grows : ∀ k, count (usage'.read k name) =
      count (usage.read k name) + if k = key then 1 else 0) :
    usage'.total name count = usage.total name count + 1 := by
  rw [total_eq_sum frame.regular fresh, total_eq_sum regular fresh, frame.keys,
    ← sum_indicator regular.keys member, ← List.sum_map_add]
  simp only [grows]

theorem Frame.total_moved (frame : Frame usage usage') (regular : usage.Regular)
    (fresh : count (freshMetric name) = 0) {lost gained : Text}
    (lostHeld : lost ∈ usage.entries.keys) (gainedHeld : gained ∈ usage.entries.keys)
    (moves : ∀ k, (count (usage'.read k name) + if k = lost then 1 else 0) =
      count (usage.read k name) + if k = gained then 1 else 0) :
    usage'.total name count = usage.total name count := by
  have sums : (usage.entries.keys.map fun k =>
      count (usage'.read k name) + if k = lost then 1 else 0).sum =
        (usage.entries.keys.map fun k =>
          count (usage.read k name) + if k = gained then 1 else 0).sum := by
    simp only [moves]
  rw [List.sum_map_add, List.sum_map_add, sum_indicator regular.keys lostHeld,
    sum_indicator regular.keys gainedHeld] at sums
  rw [total_eq_sum frame.regular fresh, total_eq_sum regular fresh, frame.keys]
  omega

theorem Entered.total (entered : Entered usage usage' key) (regular : usage.Regular)
    (name : MetricName) (fresh : count (freshMetric name) = 0) :
    usage'.total name count = usage.total name count := by
  rw [total_eq_sum entered.regular fresh, total_eq_sum regular fresh]
  have reads : (fun k => count (usage'.read k name)) = fun k => count (usage.read k name) := by
    funext k
    rw [entered.read]
  rw [reads]
  rcases entered.keys with same | longer
  · rw [same]
  · -- the new entry has no metric yet
    have absent : key ∉ usage.entries.keys := by
      have unique := entered.regular.keys
      rw [longer, List.nodup_append] at unique
      exact fun held => unique.2.2 key held key (by simp) rfl
    have empty : usage.read key name = freshMetric name := by
      simp [SessionUsageAccumulator.read, metric?, InsertionMap.get_eq_none.mpr absent]
    rw [longer, List.map_append, List.sum_append]
    simp [empty, fresh]

/-! ## Beginning a request -/

def pend (metric : Metric) : Metric := { metric with pending := metric.pending + 1 }

theorem pendField_updated (regular : usage.Regular) (member : key ∈ usage.entries.keys)
    (field : TokenField) :
    Updated usage (usage.pendField key field) key field.metric
      (pend (usage.read key field.metric)) := by
  have shaped := regular.shaped key field.metric
  have kept : (pend (usage.read key field.metric)).Shaped field.metric :=
    ⟨shaped.source, shaped.unit, shaped.aggregation, shaped.valid⟩
  have updated := withMetric_updated regular member pend kept
  have shape : field.metric.source = .provider ∧ field.metric.unit = .tokens := by
    cases field <;> exact ⟨rfl, rfl⟩
  rw [shape.1, shape.2] at updated
  exact updated

theorem Updated.read_other {metric : Metric} (updated : Updated usage usage' key name metric)
    (k : Text) {n : MetricName} (other : n ≠ name) :
    
    usage'.read k n = usage.read k n := by
  rw [updated.read, if_neg (fun same => other same.2)]

theorem pendFields_spec (fields : List TokenField) (unique : fields.Nodup) (regular : usage.Regular)
    (member : key ∈ usage.entries.keys) :
    Frame usage (fields.foldl (fun usage field => usage.pendField key field) usage) ∧
      (∀ k, (fields.foldl (fun usage field => usage.pendField key field) usage).read k
        .requestCount = usage.read k .requestCount) ∧
      (∀ k field, (fields.foldl (fun usage field => usage.pendField key field) usage).read k
        field.metric = if k = key ∧ field ∈ fields then pend (usage.read k field.metric)
          else usage.read k field.metric) ∧
      ∀ field ∈ fields,
        ((fields.foldl (fun usage field => usage.pendField key field) usage).metric? key
          field.metric).isSome := by
  induction fields generalizing usage with
  | nil => exact ⟨.refl regular, fun _ => rfl, fun _ _ => by simp, by simp⟩
  | cons first rest ih =>
    obtain ⟨fresh, restUnique⟩ := List.nodup_cons.mp unique
    have updated := pendField_updated regular member first
    have held : key ∈ (usage.pendField key first).entries.keys := by
      rw [updated.keys]
      exact member
    obtain ⟨frame, requests, reads, present⟩ := ih restUnique updated.regular held
    rw [List.foldl_cons]
    refine ⟨updated.toFrame.trans frame, fun k => ?_, fun k field => ?_, fun field listed => ?_⟩
    · rw [requests, updated.read_other k (TokenField.metric_ne_requestCount first).symm]
    · rw [reads]
      by_cases same : field = first
      · subst same
        rw [if_neg (fun both => fresh both.2), updated.read]
        by_cases own : k = key
        · subst own
          simp
        · simp [own]
      · rw [updated.read_other k (fun equal => same (TokenField.metric_injective equal))]
        simp [same]
    · rcases List.mem_cons.mp listed with rfl | later
      · exact frame.metrics key field.metric updated.present
      · exact present field later

/-- What a request has done to the accumulator by the time it is under way. -/
structure Begun (usage usage' : SessionUsageAccumulator) (key : Text) : Prop where
  regular : usage'.Regular
  member : key ∈ usage'.entries.keys
  keys : usage.entries.keys ⊆ usage'.entries.keys
  truncated : usage'.truncated = usage.truncated
  snapshot : usage'.snapshot = usage.snapshot
  metrics : ∀ k n, (usage.metric? k n).isSome → (usage'.metric? k n).isSome
  present : ∀ name, (usage'.metric? key name).isSome
  requests : ∀ k, usage'.read k .requestCount =
    if k = key then (usage.read k .requestCount).addValue 1 else usage.read k .requestCount
  tokens : ∀ k (field : TokenField), usage'.read k field.metric =
    if k = key then pend (usage.read k field.metric) else usage.read k field.metric
  totalRequests : usage'.total .requestCount (·.value) = usage.total .requestCount (·.value) + 1
  totalTokens : ∀ field : TokenField,
    usage'.total field.metric (fun metric => metric.settled + metric.pending) =
      usage.total field.metric (fun metric => metric.settled + metric.pending) + 1

theorem addRequest_updated (regular : usage.Regular) (member : key ∈ usage.entries.keys) :
    Updated usage (usage.addValue key .requestCount .runtime .requests 1) key .requestCount
      ((usage.read key .requestCount).addValue 1) := by
  have shaped := regular.shaped key .requestCount
  have kept : ((usage.read key .requestCount).addValue 1).Shaped .requestCount :=
    ⟨shaped.source, shaped.unit, shaped.aggregation, shaped.valid⟩
  exact withMetric_updated regular member (·.addValue 1) kept

theorem begun_of_entered {entered : SessionUsageAccumulator} (regular : usage.Regular)
    (spec : Entered usage entered key) :
    Begun usage (llmUsageFields.foldl (fun usage field => usage.pendField key field)
      (entered.addValue key .requestCount .runtime .requests 1)) key := by
  have counted := addRequest_updated spec.regular spec.member
  have held : key ∈ (entered.addValue key .requestCount .runtime .requests 1).entries.keys := by
    rw [counted.keys]
    exact spec.member
  obtain ⟨frame, requests, reads, present⟩ :=
    pendFields_spec llmUsageFields (by decide) counted.regular held
  have all : ∀ field : TokenField, field ∈ llmUsageFields := by
    intro field
    cases field <;> simp [llmUsageFields]
  have whole := counted.toFrame.trans frame
  generalize llmUsageFields.foldl (fun usage field => usage.pendField key field)
    (entered.addValue key .requestCount .runtime .requests 1) = usage'
    at frame requests reads present whole ⊢
  have requestReads : ∀ k, usage'.read k .requestCount =
      if k = key then (usage.read k .requestCount).addValue 1 else usage.read k .requestCount := by
    intro k
    rw [requests, counted.read, spec.read, spec.read]
    by_cases own : k = key
    · subst own
      simp
    · simp [own]
  have tokenReads : ∀ k (field : TokenField), usage'.read k field.metric =
      if k = key then pend (usage.read k field.metric) else usage.read k field.metric := by
    intro k field
    rw [reads, counted.read_other k (TokenField.metric_ne_requestCount field), spec.read]
    simp [all field]
  constructor
  · exact whole.regular
  · rw [whole.keys]
    exact spec.member
  · rw [whole.keys]
    exact spec.keys_subset
  · rw [whole.truncated, spec.truncated]
  · rw [whole.snapshot, spec.snapshot]
  · intro k n there
    exact whole.metrics k n (by rwa [spec.metrics])
  · intro name
    cases name with
    | requestCount => exact frame.metrics key .requestCount counted.present
    | inputTokens => exact present .inputTokens (all _)
    | outputTokens => exact present .outputTokens (all _)
    | cachedTokens => exact present .cachedTokens (all _)
  · exact requestReads
  · exact tokenReads
  · rw [whole.total_succ spec.regular rfl spec.member, spec.total regular _ rfl]
    intro k
    rw [requestReads, spec.read]
    split <;> rfl
  · intro field
    rw [whole.total_succ spec.regular rfl spec.member, spec.total regular _ rfl]
    intro k
    rw [tokenReads, spec.read]
    split
    · simp only [pend, Metric.settled]
      omega
    · rfl

theorem beginLlmRequest_spec (regular : usage.Regular) (request : Nat) (input : LlmRequest) :
    (usage.snapshot.isSome ∧ usage.beginLlmRequest request input = (.closed, usage)) ∨
      (usage.snapshot = none ∧
        usage.beginLlmRequest request input = (.closed, { usage with truncated := true })) ∨
      (usage.snapshot = none ∧ ∃ key usage', usage.beginLlmRequest request input =
        (.opened request input.provider key false, usage') ∧ Begun usage usage' key) := by
  unfold beginLlmRequest
  split
  next frozen => exact .inl ⟨frozen, rfl⟩
  next live =>
    have unfrozen : usage.snapshot = none := by simpa using live
    dsimp only
    generalize input.modelSource.getD _ = modelSource
    rcases entry_spec regular input.provider input.model modelSource with
      limited | ⟨key, entered, opened, spec⟩
    · rw [limited]
      exact .inr (.inl ⟨unfrozen, rfl⟩)
    · rw [opened]
      exact .inr (.inr ⟨unfrozen, key, _, rfl, begun_of_entered regular spec⟩)

/-! ## Finishing a request -/

/-- A token metric of entry `k` after a request of entry `key` has finished in `resolved`. -/
def finishedMetric (key resolved k : Text) (field : ProviderUsageField) (metric : Metric) : Metric :=
  let waiting := if k = key then { metric with pending := metric.pending - 1 } else metric
  if k = resolved then waiting.applyProviderField field else waiting

/-- The request count of entry `k` after a request of entry `key` has moved to `resolved`. -/
def movedMetric (key resolved k : Text) (metric : Metric) : Metric :=
  if resolved = key then metric
  else if k = key then
    { metric with
      value := metric.value - 1
      observedOperations := metric.observedOperations - 1 }
  else if k = resolved then metric.addValue 1
  else metric

theorem finishField_spec (regular : usage.Regular) {key resolved : Text}
    (resolvedHeld : resolved ∈ usage.entries.keys)
    (result : Option LlmRequestResult) {field : TokenField}
    (present : (usage.metric? key field.metric).isSome) :
    Frame usage (usage.finishField key resolved result field) ∧
      (∀ k n, n ≠ field.metric →
        (usage.finishField key resolved result field).read k n = usage.read k n) ∧
      ∀ k, (usage.finishField key resolved result field).read k field.metric =
        finishedMetric key resolved k (llmField result field) (usage.read k field.metric) := by
  obtain ⟨metric, found⟩ := Option.isSome_iff_exists.mp present
  have same : usage.read key field.metric = metric := by simp [read, found]
  have shaped := regular.shaped key field.metric
  rw [same] at shaped
  have member : key ∈ usage.entries.keys := by
    obtain ⟨entry, stored, -⟩ := Option.bind_eq_some_iff.mp found
    exact mem_keys_of_get stored
  have waitingShaped : ({ metric with pending := metric.pending - 1 } : Metric).Shaped
      field.metric := ⟨shaped.source, shaped.unit, shaped.aggregation, shaped.valid⟩
  have waiting := setMetric_updated regular member waitingShaped
  unfold finishField
  rw [found]
  dsimp only
  rw [if_neg (by simp [shaped.valid])]
  generalize usage.setMetric key field.metric { metric with pending := metric.pending - 1 } =
    waited at waiting ⊢
  by_cases stays : resolved = key
  · -- the field is applied where it was waited for
    subst stays
    rw [if_pos rfl]
    have applied := changeMetric_updated waiting.regular waiting.present
      (·.applyProviderField (llmField result field)) (Metric.applyProviderField_spec (waiting.regular.shaped resolved field.metric)
        (llmField result field)).1
    refine ⟨waiting.toFrame.trans applied.toFrame, fun k n other => ?_, fun k => ?_⟩
    · rw [applied.read_other k other, waiting.read_other k other]
    · rw [applied.read]
      by_cases own : k = resolved
      · subst own
        simp [finishedMetric, waiting.read, same]
      · simp [finishedMetric, waiting.read, own]
  · rw [if_neg stays]
    have held : resolved ∈ waited.entries.keys := by
      rw [waiting.keys]
      exact resolvedHeld
    have shape : field.metric.source = .provider ∧ field.metric.unit = .tokens := by
      cases field <;> exact ⟨rfl, rfl⟩
    have applied := withMetric_updated waiting.regular held
      (·.applyProviderField (llmField result field)) (Metric.applyProviderField_spec (waiting.regular.shaped resolved field.metric)
        (llmField result field)).1
    rw [shape.1, shape.2] at applied
    refine ⟨waiting.toFrame.trans applied.toFrame, fun k n other => ?_, fun k => ?_⟩
    · rw [applied.read_other k other, waiting.read_other k other]
    · rw [applied.read]
      by_cases arrives : k = resolved
      · subst arrives
        simp [finishedMetric, waiting.read, stays]
      · by_cases own : k = key
        · subst own
          simp [finishedMetric, waiting.read, same, arrives]
        · simp [finishedMetric, waiting.read, own, arrives]

theorem finishFields_spec {key resolved : Text} (result : Option LlmRequestResult)
    (fields : List TokenField) (unique : fields.Nodup) (regular : usage.Regular)
    (resolvedHeld : resolved ∈ usage.entries.keys)
    (present : ∀ field ∈ fields, (usage.metric? key field.metric).isSome) :
    Frame usage
        (fields.foldl (fun usage field => usage.finishField key resolved result field) usage) ∧
      (∀ k n, (∀ field ∈ fields, n ≠ field.metric) →
        (fields.foldl (fun usage field => usage.finishField key resolved result field) usage).read
          k n = usage.read k n) ∧
      ∀ k, ∀ field ∈ fields,
        (fields.foldl (fun usage field => usage.finishField key resolved result field) usage).read
          k field.metric =
            finishedMetric key resolved k (llmField result field) (usage.read k field.metric) := by
  induction fields generalizing usage with
  | nil => exact ⟨.refl regular, fun _ _ _ => rfl, by simp⟩
  | cons first rest ih =>
    obtain ⟨fresh, restUnique⟩ := List.nodup_cons.mp unique
    obtain ⟨frame, others, own⟩ :=
      finishField_spec regular resolvedHeld result (present first List.mem_cons_self)
    have held : resolved ∈ (usage.finishField key resolved result first).entries.keys := by
      rw [frame.keys]
      exact resolvedHeld
    obtain ⟨restFrame, restOthers, restOwn⟩ := ih restUnique frame.regular held
      (fun field listed => frame.metrics _ _ (present field (List.mem_cons_of_mem _ listed)))
    rw [List.foldl_cons]
    refine ⟨frame.trans restFrame, fun k n apart => ?_, fun k field listed => ?_⟩
    · rw [restOthers k n (fun field listed => apart field (List.mem_cons_of_mem _ listed)),
        others k n (apart first List.mem_cons_self)]
    · rcases List.mem_cons.mp listed with rfl | later
      · rw [restOthers k field.metric, own]
        intro other held same
        exact fresh (TokenField.metric_injective same ▸ held)
      · rw [restOwn k field later, others]
        intro same
        exact fresh (TokenField.metric_injective same ▸ later)

theorem moveRequest_spec (regular : usage.Regular) {key resolved : Text}
    (resolvedHeld : resolved ∈ usage.entries.keys)
    (present : (usage.metric? key .requestCount).isSome) :
    Frame usage (usage.moveRequest key resolved) ∧
      (∀ k, ∀ field : TokenField,
        (usage.moveRequest key resolved).read k field.metric = usage.read k field.metric) ∧
      ∀ k, (usage.moveRequest key resolved).read k .requestCount =
        movedMetric key resolved k (usage.read k .requestCount) := by
  unfold moveRequest
  by_cases stays : resolved = key
  · rw [if_pos stays]
    exact ⟨.refl regular, fun _ _ => rfl, fun k => by simp [movedMetric, stays]⟩
  · rw [if_neg stays]
    have shaped := regular.shaped key .requestCount
    have valid := shaped.valid
    have taken := changeMetric_updated regular present (fun metric : Metric =>
      if metric.invalid then metric
      else
        { metric with
          value := metric.value - 1
          observedOperations := metric.observedOperations - 1 }) (by
        rw [if_neg (by simp [valid])]
        exact ⟨shaped.source, shaped.unit, shaped.aggregation, shaped.valid⟩)
    rw [if_neg (by simp [valid])] at taken
    generalize usage.changeMetric key .requestCount _ = left at taken ⊢
    have held : resolved ∈ left.entries.keys := by
      rw [taken.keys]
      exact resolvedHeld
    have added := addRequest_updated taken.regular held
    refine ⟨taken.toFrame.trans added.toFrame, fun k field => ?_, fun k => ?_⟩
    · rw [added.read_other k field.metric_ne_requestCount,
        taken.read_other k field.metric_ne_requestCount]
    · rw [added.read, taken.read, taken.read]
      by_cases arrives : k = resolved
      · subst arrives
        simp [movedMetric, stays]
      · by_cases own : k = key
        · subst own
          simp [movedMetric, stays, arrives]
        · simp [movedMetric, stays, arrives, own]

/-- The entry of a result is there, and nothing is counted yet. -/
structure Resolved (usage usage' : SessionUsageAccumulator) (resolved : Text) : Prop where
  regular : usage'.Regular
  member : resolved ∈ usage'.entries.keys
  keys : usage.entries.keys ⊆ usage'.entries.keys
  truncated : usage.truncated = true → usage'.truncated = true
  snapshot : usage'.snapshot = usage.snapshot
  metrics : ∀ k n, usage'.metric? k n = usage.metric? k n
  total : ∀ name (count : Metric → Nat), count (freshMetric name) = 0 →
    usage'.total name count = usage.total name count

theorem resolveEntry_spec (regular : usage.Regular) (member : key ∈ usage.entries.keys)
    (provider : Text) (result : Option LlmRequestResult) :
    Resolved usage (usage.resolveEntry provider key result).2
      (usage.resolveEntry provider key result).1 := by
  have same : Resolved usage usage key :=
    ⟨regular, member, fun _ held => held, id, rfl, fun _ _ => rfl, fun _ _ _ => rfl⟩
  unfold resolveEntry
  split
  · exact same
  next model _ =>
    rcases entry_spec regular provider (some model) .providerReported with
      limited | ⟨resolved, entered, opened, spec⟩
    · rw [limited]
      exact ⟨⟨regular.keys, regular.names, regular.shaped⟩, member, fun _ held => held,
        fun _ => rfl, rfl, fun _ _ => rfl, fun _ _ _ => rfl⟩
    · rw [opened]
      exact ⟨spec.regular, spec.member, spec.keys_subset, fun limited => spec.truncated.trans limited,
        spec.snapshot, spec.metrics, fun name count fresh => spec.total regular name fresh⟩

theorem finishedMetric_spec {metric : Metric} (shaped : metric.Shaped name) (key resolved k : Text)
    (field : ProviderUsageField) :
    (finishedMetric key resolved k field metric).value =
        metric.value + (if k = resolved then (acceptedTokens metric.value field).getD 0 else 0) ∧
      (finishedMetric key resolved k field metric).observedOperations =
        metric.observedOperations +
          (if k = resolved then (acceptedTokens metric.value field).toList.length else 0) ∧
      (finishedMetric key resolved k field metric).settled =
        metric.settled + (if k = resolved then 1 else 0) ∧
      (finishedMetric key resolved k field metric).pending =
        metric.pending - (if k = key then 1 else 0) := by
  unfold finishedMetric
  by_cases own : k = key
  · have waiting : ({ metric with pending := metric.pending - 1 } : Metric).Shaped name :=
      ⟨shaped.source, shaped.unit, shaped.aggregation, shaped.valid⟩
    obtain ⟨-, value, observed, settled, pending⟩ :=
      Metric.applyProviderField_spec waiting field
    by_cases arrives : k = resolved
    · rw [if_pos own, if_pos arrives, if_pos arrives, if_pos arrives, if_pos arrives, if_pos own]
      exact ⟨value, observed, settled, pending⟩
    · rw [if_pos own, if_neg arrives, if_neg arrives, if_neg arrives, if_neg arrives, if_pos own]
      exact ⟨rfl, rfl, rfl, rfl⟩
  · obtain ⟨-, value, observed, settled, pending⟩ := Metric.applyProviderField_spec shaped field
    by_cases arrives : k = resolved
    · rw [if_neg own, if_pos arrives, if_pos arrives, if_pos arrives, if_pos arrives, if_neg own]
      exact ⟨value, observed, settled, pending⟩
    · rw [if_neg own, if_neg arrives, if_neg arrives, if_neg arrives, if_neg arrives, if_neg own]
      exact ⟨rfl, rfl, rfl, rfl⟩

/-- What a request has done to the accumulator by the time it has finished. -/
structure Finished (usage usage' : SessionUsageAccumulator) (key resolved : Text)
    (result : Option LlmRequestResult) : Prop where
  regular : usage'.Regular
  keys : usage.entries.keys ⊆ usage'.entries.keys
  truncated : usage.truncated = true → usage'.truncated = true
  snapshot : usage'.snapshot = usage.snapshot
  metrics : ∀ k n, (usage.metric? k n).isSome → (usage'.metric? k n).isSome
  requests : ∀ k, usage'.read k .requestCount =
    movedMetric key resolved k (usage.read k .requestCount)
  tokens : ∀ k (field : TokenField), usage'.read k field.metric =
    finishedMetric key resolved k (llmField result field) (usage.read k field.metric)
  totalRequests : 1 ≤ (usage.read key .requestCount).value →
    usage'.total .requestCount (·.value) = usage.total .requestCount (·.value)
  totalTokens : ∀ field : TokenField, 1 ≤ (usage.read key field.metric).pending →
    usage'.total field.metric (fun metric => metric.settled + metric.pending) =
      usage.total field.metric (fun metric => metric.settled + metric.pending)

theorem finish_spec (regular : usage.Regular) (member : key ∈ usage.entries.keys)
    (present : ∀ name, (usage.metric? key name).isSome) (request : Nat) (provider : Text)
    (result : Option LlmRequestResult) :
    ∃ resolved usage', usage.finish (.opened request provider key false) result =
      (.opened request provider key true, usage') ∧ Finished usage usage' key resolved result := by
  have spec := resolveEntry_spec regular member provider result
  obtain ⟨resolved, entered, resolution⟩ :
    ∃ resolved entered, usage.resolveEntry provider key result = (resolved, entered) :=
      ⟨_, _, rfl⟩
  rw [resolution] at spec
  dsimp only at spec
  refine ⟨resolved, llmUsageFields.foldl
    (fun usage field => usage.finishField key resolved result field)
      (entered.moveRequest key resolved), by simp [finish, resolution], ?_⟩
  have sameReads : ∀ k n, entered.read k n = usage.read k n := fun k n => by
    simp [read, spec.metrics]
  have there : ∀ name, (entered.metric? key name).isSome := fun name => by
    rw [spec.metrics]
    exact present name
  obtain ⟨moveFrame, movedTokens, moved⟩ :=
    moveRequest_spec spec.regular spec.member (there .requestCount)
  have movedHeld : resolved ∈ (entered.moveRequest key resolved).entries.keys := by
    rw [moveFrame.keys]
    exact spec.member
  obtain ⟨finishFrame, finishedOthers, finished⟩ :=
    finishFields_spec result llmUsageFields (by decide) moveFrame.regular movedHeld
      (fun field _ => moveFrame.metrics _ _ (there field.metric))
  have all : ∀ field : TokenField, field ∈ llmUsageFields := by
    intro field
    cases field <;> simp [llmUsageFields]
  have whole := moveFrame.trans finishFrame
  generalize entered.moveRequest key resolved = counted at *
  generalize llmUsageFields.foldl (fun usage field => usage.finishField key resolved result field)
    counted = usage' at *
  have requestReads : ∀ k, usage'.read k .requestCount =
      movedMetric key resolved k (usage.read k .requestCount) := by
    intro k
    rw [finishedOthers k .requestCount (fun field _ => field.metric_ne_requestCount.symm), moved,
      sameReads]
  have tokenReads : ∀ k (field : TokenField), usage'.read k field.metric =
      finishedMetric key resolved k (llmField result field) (usage.read k field.metric) := by
    intro k field
    rw [finished k field (all field), movedTokens, sameReads]
  have keyHeld : key ∈ entered.entries.keys := spec.keys member
  constructor
  · exact whole.regular
  · rw [whole.keys]
    exact spec.keys
  · intro limited
    rw [whole.truncated]
    exact spec.truncated limited
  · rw [whole.snapshot, spec.snapshot]
  · intro k n held
    exact whole.metrics k n (by rwa [spec.metrics])
  · exact requestReads
  · exact tokenReads
  · intro counts
    have moves : ∀ k, ((usage'.read k .requestCount).value + if k = key then 1 else 0) =
        (entered.read k .requestCount).value + if k = resolved then 1 else 0 := by
      intro k
      rw [requestReads, sameReads]
      unfold movedMetric
      by_cases stays : resolved = key
      · rw [if_pos stays, stays]
      · rw [if_neg stays]
        by_cases own : k = key
        · subst own
          have other : ¬k = resolved := fun same => stays same.symm
          simp only [if_true, if_neg other]
          omega
        · rw [if_neg own, if_neg own]
          split <;> rfl
    rw [whole.total_moved spec.regular rfl keyHeld spec.member moves, spec.total _ _ rfl]
  · intro field waits
    have moves : ∀ k, ((usage'.read k field.metric).settled +
        (usage'.read k field.metric).pending + if k = key then 1 else 0) =
        (entered.read k field.metric).settled + (entered.read k field.metric).pending +
          if k = resolved then 1 else 0 := by
      intro k
      rw [tokenReads, sameReads]
      obtain ⟨-, -, settled, pending⟩ := finishedMetric_spec (regular.shaped k field.metric) key
        resolved k (llmField result field)
      rw [settled, pending]
      by_cases own : k = key
      · subst own
        simp only [if_true]
        omega
      · simp only [if_neg own]
        omega
    rw [whole.total_moved spec.regular rfl keyHeld spec.member moves, spec.total _ _ rfl]

end SessionUsageAccumulator

end Tvic
