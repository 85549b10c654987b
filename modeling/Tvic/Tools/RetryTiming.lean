import Tvic.Core.Numbers
import Tvic.Tools.ExecuteTool

/-!
# How long an execution takes and how long its claim lives

The policies that `snapshotToolDefinition` of `packages/tools/src/index.ts` admits, `backoffDelayMs`,
and the lifetimes of `packages/tools/src/idempotency.ts`, on the numbers of the language. The claim
outlives the longest execution where its lifetime is computed from the policies; where one of the
checks before that fails, it lives for a constant.
-/
namespace Tvic

/-! ## Policies -/

inductive ToolTimeoutAction where
  | fail
  | interrupt
  deriving DecidableEq, Repr

inductive Backoff where
  | fixed
  | linear
  | exponential
  deriving DecidableEq, Repr

/-- `ToolDefinition["timeout"]` as the host wrote it. -/
structure TimeoutPolicyInput where
  timeoutMs : Double
  onTimeout : String
  deriving DecidableEq

structure TimeoutPolicy where
  timeoutMs : SafeInteger 1
  onTimeout : ToolTimeoutAction
  deriving DecidableEq

/-- `ToolDefinition["retry"]` as the host wrote it. -/
structure RetryPolicyInput where
  maxAttempts : Double
  initialDelayMs : Double
  maxDelayMs : Double
  backoff : String
  jitter : Bool
  retryableErrorCodes : Option (List String) := none
  deriving DecidableEq

structure RetryPolicy where
  maxAttempts : SafeInteger 1
  initialDelayMs : { value : ℚ // 0 ≤ value }
  maxDelayMs : { value : ℚ // 0 ≤ value }
  backoff : Backoff
  jitter : Bool
  retryableErrorCodes : Option (List String)
  deriving DecidableEq

/-- `ToolDefinition["idempotency"]` as the host wrote it. -/
structure IdempotencyPolicyInput where
  enabled : Bool
  keyTemplate : Option String := none
  ttlMs : Option Double := none
  legacyKeyCompatibility : Option Bool := none
  deriving DecidableEq

structure IdempotencyPolicy where
  enabled : Bool
  keyTemplate : Option String
  ttlMs : Option (SafeInteger 1)
  legacyKeyCompatibility : Option Bool
  deriving DecidableEq

/-- The policies of a tool definition. -/
structure ToolTimingInput where
  timeout : TimeoutPolicyInput
  retry : RetryPolicyInput
  idempotency : IdempotencyPolicyInput
  deriving DecidableEq

structure ToolTiming where
  timeout : TimeoutPolicy
  retry : RetryPolicy
  idempotency : IdempotencyPolicy
  deriving DecidableEq

def requireSome {α : Type} (message : String) : Option α → Except String α
  | some value => .ok value
  | none => .error message

def timeoutAction? : String → Option ToolTimeoutAction
  | "fail" => some .fail
  | "interrupt" => some .interrupt
  | _ => none

def backoff? : String → Option Backoff
  | "fixed" => some .fixed
  | "linear" => some .linear
  | "exponential" => some .exponential
  | _ => none

def snapshotTimeoutPolicy (policy : TimeoutPolicyInput) : Except String TimeoutPolicy := do
  let timeoutMs ← requireSome "Tool timeout must be a positive safe integer in milliseconds"
    (policy.timeoutMs.safeInteger? 1)
  let onTimeout ← requireSome "Tool timeout action must be fail or interrupt"
    (timeoutAction? policy.onTimeout)
  return { timeoutMs, onTimeout }

def snapshotRetryPolicy (policy : RetryPolicyInput) : Except String RetryPolicy := do
  let maxAttempts ← requireSome "Tool retry maxAttempts must be a positive safe integer"
    (policy.maxAttempts.safeInteger? 1)
  let initialDelayMs ← requireSome "Tool retry initialDelayMs must be a non-negative finite number"
    policy.initialDelayMs.nonNegative?
  let maxDelayMs ← requireSome "Tool retry maxDelayMs must be a non-negative finite number"
    policy.maxDelayMs.nonNegative?
  let backoff ← requireSome "Tool retry backoff must be fixed, linear, or exponential"
    (backoff? policy.backoff)
  return {
    maxAttempts, initialDelayMs, maxDelayMs, backoff
    jitter := policy.jitter
    retryableErrorCodes := policy.retryableErrorCodes }

def snapshotIdempotencyPolicy (policy : IdempotencyPolicyInput) : Except String IdempotencyPolicy := do
  let ttlMs ← match policy.ttlMs with
    | none => pure none
    | some ttlMs =>
      some <$> requireSome "Tool idempotency ttlMs must be a positive safe integer"
        (ttlMs.safeInteger? 1)
  return {
    ttlMs
    enabled := policy.enabled
    keyTemplate := policy.keyTemplate
    legacyKeyCompatibility := policy.legacyKeyCompatibility }

/-- The part of `snapshotToolDefinition` that admits the policies. -/
def snapshotToolTiming (tool : ToolTimingInput) : Except String ToolTiming := do
  let timeout ← snapshotTimeoutPolicy tool.timeout
  let retry ← snapshotRetryPolicy tool.retry
  let idempotency ← snapshotIdempotencyPolicy tool.idempotency
  return { timeout, retry, idempotency }

/-! ## Delays -/

/-- What `Math.random` gives: a double from 0 on and below 1. -/
abbrev Draw := { value : ℚ // 0 ≤ value ∧ value ≤ 1 - 1 / 2 ^ 53 }

/-- The largest double below 1. -/
def Draw.largest : Draw := ⟨1 - 1 / 2 ^ 53, by norm_num, le_rfl⟩

def jittered (bounded : Double) (random : Draw) : Double :=
  (bounded.mul ((Double.finite (1 / 2)).add ((Double.finite random).mul (.finite (1 / 2))))).mathRound

namespace RetryPolicy

variable (retry : RetryPolicy)

/-- The delay before it is bounded, in `backoffDelayMs`. -/
def baseDelayMs (attempt : ℕ) : Double :=
  match retry.backoff with
  | .exponential => (Double.finite retry.initialDelayMs).mul (.twoPow (attempt - 1))
  | .linear => (Double.finite retry.initialDelayMs).mul (.finite attempt)
  | .fixed => .finite retry.initialDelayMs

def backoffDelayMs (attempt : ℕ) (random : Draw) : Double :=
  let bounded := (retry.baseDelayMs attempt).minimum (.finite retry.maxDelayMs)
  if retry.jitter then jittered bounded random else bounded

/-- The delays after the first `retries` attempts together, where each of them is a finite number. -/
def delaysMs (draws : ℕ → Draw) : ℕ → Option ℚ
  | 0 => some 0
  | retries + 1 => do
    let earlier ← delaysMs draws retries
    let delay ← (retry.backoffDelayMs (retries + 1) (draws retries)).finite?
    return earlier + delay

/-- Every delay is a number: zero is never multiplied by an infinite power of two. -/
def NumericDelays : Prop :=
  ¬(retry.backoff = .exponential ∧ retry.initialDelayMs.val = 0 ∧ 1026 ≤ retry.maxAttempts.val)

end RetryPolicy

/-! ## Lifetimes -/

namespace ToolTiming

variable (tool : ToolTiming)

def idempotencyRetentionTtlMs : ℕ :=
  let ttlMs := (tool.idempotency.ttlMs.map Subtype.val).getD defaultIdempotencyTtlMs
  if ttlMs ≤ maxSafeInteger ∧ 0 < ttlMs then ttlMs else defaultIdempotencyTtlMs

/-- The time that the policies leave to all the attempts, as it is computed. -/
def executionBudgetMs : Double :=
  ((Double.finite tool.timeout.timeoutMs).mul (.finite tool.retry.maxAttempts)).add
    ((Double.finite tool.retry.maxDelayMs).mul (.finite (tool.retry.maxAttempts - 1 : ℕ)))

def idempotencyClaimTtlMs (retentionTtlMs : ℕ) : ℚ :=
  match (Double.finite tool.retry.maxAttempts).safeInteger? 1,
      (Double.finite tool.timeout.timeoutMs).safeInteger? 1,
      (Double.finite tool.retry.maxDelayMs).safeInteger? 0 with
  | some _, some _, some _ =>
    match tool.executionBudgetMs.safeInteger? 0 with
    | some executionBudgetMs =>
      -- the sum has a double next to it: it is far below the largest
      max (retentionTtlMs : ℚ) (roundPlaces (executionBudgetMs.val + idempotencyClaimSafetyMs))
    | none => max retentionTtlMs defaultIdempotencyTtlMs
  | _, _, _ => max retentionTtlMs defaultIdempotencyTtlMs

/-- The time from the first to the last attempt when each of them takes its whole timeout. -/
def executionMs (draws : ℕ → Draw) : Option ℚ :=
  (tool.retry.delaysMs draws (tool.retry.maxAttempts - 1)).map
    (tool.retry.maxAttempts * tool.timeout.timeoutMs + ·)

/-- The claim lives at least as long as any execution. -/
def ClaimOutlivesExecution : Prop :=
  ∀ draws, ∃ elapsedMs, tool.executionMs draws = some elapsedMs ∧
    elapsedMs ≤ tool.idempotencyClaimTtlMs tool.idempotencyRetentionTtlMs

/-- `maxDelayMs` is whole, and the budget is a safe integer. -/
def SafeBudget : Prop :=
  ∃ maxDelayMs : ℕ, tool.retry.maxDelayMs.val = maxDelayMs ∧
    tool.timeout.timeoutMs * tool.retry.maxAttempts + maxDelayMs * (tool.retry.maxAttempts - 1) ≤
      maxSafeInteger ∧ maxDelayMs ≤ maxSafeInteger

/-- The longest execution, with the largest draws, ends within the constant lifetime. -/
def EndsWithinConstant : Prop :=
  ∃ elapsedMs, tool.executionMs (fun _ => .largest) = some elapsedMs ∧
    elapsedMs ≤ max (tool.idempotencyRetentionTtlMs : ℚ) defaultIdempotencyTtlMs

end ToolTiming

/-! ## What the delays come to -/

theorem Double.nearest_one : Double.nearest 1 = .finite 1 := by
  exact_mod_cast @Double.nearest_natCast 1 (by norm_num)

/-- The factor of the jitter: it is at most one, and it grows with the draw. -/
def jitterFactor (random : Draw) : ℚ := roundPlaces (1 / 2 + roundPlaces (random * (1 / 2)))

theorem Draw.half_bounds (random : Draw) :
    0 ≤ roundPlaces (random * (1 / 2)) ∧ roundPlaces (random * (1 / 2)) ≤ 1 / 2 := by
  obtain ⟨random, nonneg, below⟩ := random
  have half : (0 : ℚ) ≤ random * (1 / 2) := by linarith
  have exactHalf : roundPlaces (1 / 2) = 1 / 2 := by decide +kernel
  have ordered : roundPlaces (random * (1 / 2)) ≤ roundPlaces (1 / 2) :=
    roundPlaces_mono half (by linarith)
  rw [exactHalf] at ordered
  exact ⟨roundPlaces_nonneg half, ordered⟩

theorem jitterFactor_eq (random : Draw) :
    (Double.finite (1 / 2)).add ((Double.finite random).mul (.finite (1 / 2))) =
      .finite (jitterFactor random) := by
  have half : (0 : ℚ) ≤ random.val * (1 / 2) := by linarith [random.property.1]
  have product := (Double.nearest_mono half
    (by linarith [random.property.2]) Double.nearest_one).1
  obtain ⟨nonneg, le⟩ := random.half_bounds
  have factor := (Double.nearest_mono
    (show 0 ≤ 1 / 2 + roundPlaces (random.val * (1 / 2)) by linarith)
    (by linarith) Double.nearest_one).1
  calc (Double.finite (1 / 2)).add ((Double.finite random).mul (.finite (1 / 2)))
      = (Double.finite (1 / 2)).add (Double.nearest (random * (1 / 2))) := rfl
    _ = Double.nearest (1 / 2 + roundPlaces (random * (1 / 2))) := by rw [product]; rfl
    _ = .finite (jitterFactor random) := factor

theorem jitterFactor_bounds (random : Draw) : 0 ≤ jitterFactor random ∧ jitterFactor random ≤ 1 := by
  obtain ⟨nonneg, le⟩ := random.half_bounds
  have sum : (0 : ℚ) ≤ 1 / 2 + roundPlaces (random * (1 / 2)) := by linarith
  have top : roundPlaces 1 = 1 := by exact_mod_cast @roundPlaces_natCast 1 (by norm_num)
  refine ⟨roundPlaces_nonneg sum, ?_⟩
  calc jitterFactor random ≤ roundPlaces 1 := roundPlaces_mono sum (by linarith)
    _ = 1 := top

theorem jitterFactor_le_largest (random : Draw) :
    jitterFactor random ≤ jitterFactor Draw.largest := by
  have half : (0 : ℚ) ≤ random.val * (1 / 2) := by linarith [random.property.1]
  have draws : random.val ≤ Draw.largest.val := random.property.2
  have products : roundPlaces (random * (1 / 2)) ≤ roundPlaces (Draw.largest * (1 / 2)) :=
    roundPlaces_mono half (by linarith)
  have nonneg := random.half_bounds.1
  exact roundPlaces_mono (by linarith) (by linarith)

theorem Double.mul_nonneg (value : ℚ) (nonneg : 0 ≤ value) (d : Double) (lower : d.AtLeast 0) :
    (Double.finite value).mul d = .nan ∨ ((Double.finite value).mul d).AtLeast 0 := by
  cases d with
  | nan => exact lower.elim
  | infinity negative =>
    obtain rfl : negative = false := lower
    by_cases zero : value = 0
    · left
      simp [Double.mul, zero]
    · right
      simp [Double.mul, zero, Double.AtLeast, nonneg.not_gt]
  | finite other =>
    have rest : 0 ≤ other := lower
    exact .inr (Double.nearest_atLeast roundPlaces_zero le_rfl (Left.mul_nonneg nonneg rest))

theorem Double.minimum_atLeast {d : Double} {limit : ℚ} (lower : d.AtLeast 0) (nonneg : 0 ≤ limit) :
    ∃ value, d.minimum (.finite limit) = .finite value ∧ 0 ≤ value ∧ value ≤ limit := by
  cases d with
  | nan => exact lower.elim
  | infinity negative =>
    obtain rfl : negative = false := lower
    exact ⟨limit, rfl, nonneg, le_rfl⟩
  | finite value => exact ⟨min value limit, rfl, le_min lower nonneg, min_le_right ..⟩

theorem jittered_finite (value : ℚ) (random : Draw) :
    jittered (.finite value) random = (Double.nearest (value * jitterFactor random)).mathRound := by
  unfold jittered
  rw [jitterFactor_eq]
  rfl

namespace RetryPolicy

variable {retry : RetryPolicy}

theorem baseDelayMs_nan {attempt : ℕ} (exponential : retry.backoff = .exponential)
    (zero : retry.initialDelayMs.val = 0) (late : 1025 ≤ attempt) :
    retry.baseDelayMs attempt = .nan := by
  have power : Double.twoPow (attempt - 1) = .infinity false := if_neg (by omega)
  simp [baseDelayMs, exponential, power, zero, Double.mul]

theorem baseDelayMs_atLeast {attempt : ℕ}
    (numeric : ¬(retry.backoff = .exponential ∧ retry.initialDelayMs.val = 0 ∧ 1025 ≤ attempt)) :
    (retry.baseDelayMs attempt).AtLeast 0 := by
  have nonneg := retry.initialDelayMs.property
  unfold baseDelayMs
  generalize retry.initialDelayMs.val = initial at numeric nonneg ⊢
  cases kind : retry.backoff with
  | fixed => exact nonneg
  | linear =>
    have attempts : (Double.finite attempt).AtLeast 0 := Nat.cast_nonneg attempt
    rcases Double.mul_nonneg initial nonneg _ attempts with undefined | lower
    · have product : (Double.finite initial).mul (.finite attempt) =
        Double.nearest (initial * attempt) := rfl
      rw [product, Double.nearest] at undefined
      split at undefined <;> cases undefined
    · exact lower
  | exponential =>
    by_cases early : attempt - 1 < 1024
    · have power : Double.twoPow (attempt - 1) = .finite (2 ^ (attempt - 1)) := if_pos early
      dsimp only
      rw [power]
      exact Double.nearest_atLeast roundPlaces_zero le_rfl (by positivity)
    · have power : Double.twoPow (attempt - 1) = .infinity false := if_neg early
      have moving : initial ≠ 0 := fun zero => numeric ⟨kind, zero, by omega⟩
      dsimp only
      rw [power]
      simp [Double.mul, moving, Double.AtLeast, nonneg.not_gt]

theorem backoffDelayMs_numeric (numeric : retry.NumericDelays) {attempt : ℕ}
    (retried : attempt < retry.maxAttempts) :
    ∃ bounded : ℚ, 0 ≤ bounded ∧ bounded ≤ retry.maxDelayMs ∧ ∀ random,
      retry.backoffDelayMs attempt random =
        if retry.jitter then (Double.nearest (bounded * jitterFactor random)).mathRound
        else .finite bounded := by
  have base : (retry.baseDelayMs attempt).AtLeast 0 := by
    apply baseDelayMs_atLeast
    rintro ⟨exponential, zero, late⟩
    exact numeric ⟨exponential, zero, by omega⟩
  obtain ⟨bounded, same, nonneg, le⟩ := Double.minimum_atLeast base retry.maxDelayMs.property
  refine ⟨bounded, nonneg, le, fun random => ?_⟩
  unfold backoffDelayMs
  rw [same]
  dsimp only
  rw [jittered_finite]

theorem backoffDelayMs_atMost (numeric : retry.NumericDelays) {maxDelayMs : ℕ}
    (whole : retry.maxDelayMs.val = maxDelayMs) (safe : maxDelayMs ≤ maxSafeInteger) {attempt : ℕ}
    (retried : attempt < retry.maxAttempts) (random : Draw) :
    (retry.backoffDelayMs attempt random).AtMost maxDelayMs := by
  obtain ⟨bounded, nonneg, le, delays⟩ := backoffDelayMs_numeric numeric retried
  rw [whole] at le
  rw [delays random]
  split
  · -- the jitter only shortens, and rounding stays below a whole bound
    obtain ⟨factorNonneg, factorLe⟩ := jitterFactor_bounds random
    have shorter : bounded * jitterFactor random ≤ maxDelayMs :=
      (mul_le_of_le_one_right nonneg factorLe).trans le
    have small : maxDelayMs < 2 ^ 53 := by
      unfold maxSafeInteger at safe
      omega
    obtain ⟨value, rounded, bound⟩ :=
      Double.nearest_atMost small (Left.mul_nonneg nonneg factorNonneg) shorter
    refine ⟨⌊value + 1 / 2⌋, by rw [rounded]; rfl, ?_⟩
    have floor : ⌊value + 1 / 2⌋ ≤ (maxDelayMs : ℤ) := by
      apply Int.lt_add_one_iff.mp
      rw [Int.floor_lt]
      push_cast
      linarith
    exact_mod_cast floor
  · exact ⟨bounded, rfl, le⟩

theorem backoffDelayMs_le_largest (numeric : retry.NumericDelays) {attempt : ℕ}
    (retried : attempt < retry.maxAttempts) {longest : ℚ}
    (finite : retry.backoffDelayMs attempt .largest = .finite longest) (random : Draw) :
    (retry.backoffDelayMs attempt random).AtMost longest := by
  obtain ⟨bounded, nonneg, -, delays⟩ := backoffDelayMs_numeric numeric retried
  rw [delays Draw.largest] at finite
  rw [delays random]
  split at finite
  next jitters =>
    rw [if_pos jitters]
    have factors := jitterFactor_le_largest random
    have products : bounded * jitterFactor random ≤ bounded * jitterFactor Draw.largest :=
      mul_le_mul_of_nonneg_left factors nonneg
    have lower := Left.mul_nonneg nonneg (jitterFactor_bounds random).1
    cases rounded : Double.nearest (bounded * jitterFactor Draw.largest) with
    | nan => rw [rounded] at finite; cases finite
    | infinity negative => rw [rounded] at finite; cases finite
    | finite value =>
      rw [rounded] at finite
      cases finite
      obtain ⟨same, le⟩ := Double.nearest_mono lower products rounded
      refine ⟨_, by rw [same]; rfl, ?_⟩
      exact_mod_cast Int.floor_le_floor (by linarith)
  next steady =>
    rw [if_neg steady]
    cases finite
    exact ⟨longest, rfl, le_rfl⟩

/-! ## The delays together -/

theorem delaysMs_succ_eq_some {draws : ℕ → Draw} {retries : ℕ} {total : ℚ} :
    retry.delaysMs draws (retries + 1) = some total ↔
      ∃ earlier delay, retry.delaysMs draws retries = some earlier ∧
        retry.backoffDelayMs (retries + 1) (draws retries) = .finite delay ∧
        earlier + delay = total := by
  have finite_iff : ∀ (d : Double) delay, d.finite? = some delay ↔ d = .finite delay := by
    intro d delay
    cases d <;> simp [Double.finite?]
  simp [delaysMs, Option.bind_eq_some_iff, finite_iff]

theorem delaysMs_le {draws : ℕ → Draw} {bound : ℚ} {retries : ℕ}
    (each : ∀ n < retries, (retry.backoffDelayMs (n + 1) (draws n)).AtMost bound) :
    ∃ total, retry.delaysMs draws retries = some total ∧ total ≤ retries * bound := by
  induction retries with
  | zero => exact ⟨0, rfl, by simp⟩
  | succ n ih =>
    obtain ⟨earlier, before, le⟩ := ih (fun i early => each i (by omega))
    obtain ⟨delay, finite, bounded⟩ := each n (by omega)
    refine ⟨earlier + delay, delaysMs_succ_eq_some.mpr ⟨earlier, delay, before, finite, rfl⟩, ?_⟩
    push_cast
    linarith

theorem delaysMs_le_largest (numeric : retry.NumericDelays) (draws : ℕ → Draw) {retries : ℕ}
    (retried : retries < retry.maxAttempts) {longest : ℚ}
    (finite : retry.delaysMs (fun _ => .largest) retries = some longest) :
    ∃ total, retry.delaysMs draws retries = some total ∧ total ≤ longest := by
  induction retries generalizing longest with
  | zero =>
    cases finite
    exact ⟨0, rfl, le_rfl⟩
  | succ n ih =>
    obtain ⟨earlier, delay, before, last, rfl⟩ := delaysMs_succ_eq_some.mp finite
    obtain ⟨total, drawn, le⟩ := ih (by omega) before
    obtain ⟨shorter, drawnLast, bounded⟩ :=
      backoffDelayMs_le_largest numeric retried last (draws n)
    exact ⟨total + shorter, delaysMs_succ_eq_some.mpr ⟨total, shorter, drawn, drawnLast, rfl⟩,
      add_le_add le bounded⟩

theorem numericDelays_of_delaysMs {draws : ℕ → Draw} {total : ℚ}
    (finite : retry.delaysMs draws (retry.maxAttempts - 1) = some total) : retry.NumericDelays := by
  rintro ⟨exponential, zero, many⟩
  have undefined : ∀ retries, 1025 ≤ retries → retry.delaysMs draws retries = none := by
    intro retries late
    rw [Option.eq_none_iff_forall_ne_some]
    intro total sum
    obtain ⟨n, rfl⟩ : ∃ n, retries = n + 1 := ⟨retries - 1, by omega⟩
    obtain ⟨-, delay, -, last, -⟩ := delaysMs_succ_eq_some.mp sum
    have base := baseDelayMs_nan exponential zero late
    unfold backoffDelayMs at last
    rw [base] at last
    dsimp only at last
    split at last <;> cases last
  rw [undefined _ (by omega)] at finite
  cases finite

end RetryPolicy

namespace ToolTiming

variable {tool : ToolTiming}

/-! ## The lifetime of the claim -/

theorem nearest_atLeast_twoPow {n : ℕ} (large : 2 ^ 53 ≤ n) :
    (Double.nearest n).AtLeast (2 ^ 53) :=
  Double.nearest_atLeast (roundPlaces_twoPow 53) (by norm_num) (by exact_mod_cast large)

theorem nearest_natCast_nonneg (n : ℕ) : (Double.nearest n).AtLeast 0 :=
  Double.nearest_atLeast roundPlaces_zero le_rfl (Nat.cast_nonneg n)

theorem add_nearest_safeInteger? (first second : ℕ) :
    ((Double.nearest first).add (Double.nearest second)).safeInteger? 0 =
      if safe : first + second ≤ maxSafeInteger then some ⟨first + second, Nat.zero_le _, safe⟩
      else none := by
  split
  next safe =>
    have small : first + second < 2 ^ 53 := by
      unfold maxSafeInteger at safe
      omega
    rw [Double.nearest_natCast (show first < 2 ^ 53 by omega),
      Double.nearest_natCast (show second < 2 ^ 53 by omega)]
    have sum : (Double.finite first).add (.finite second) = Double.nearest (first + second : ℕ) := by
      rw [Nat.cast_add]
      rfl
    rw [sum, Double.nearest_natCast small]
    exact Double.safeInteger?_natCast (Nat.zero_le _) safe
  next unsafeSum =>
    have large : 2 ^ 53 ≤ first + second := by
      unfold maxSafeInteger at unsafeSum
      omega
    apply Double.safeInteger?_atLeast
    by_cases firstLarge : 2 ^ 53 ≤ first
    · exact Double.add_atLeast (roundPlaces_twoPow 53) (by norm_num)
        (nearest_atLeast_twoPow firstLarge) (nearest_natCast_nonneg second)
    by_cases secondLarge : 2 ^ 53 ≤ second
    · rw [Double.add_comm]
      exact Double.add_atLeast (roundPlaces_twoPow 53) (by norm_num)
        (nearest_atLeast_twoPow secondLarge) (nearest_natCast_nonneg first)
    -- both are exact, and their sum is rounded once
    rw [Double.nearest_natCast (by omega), Double.nearest_natCast (by omega)]
    have sum : (Double.finite first).add (.finite second) = Double.nearest (first + second : ℕ) := by
      rw [Nat.cast_add]
      rfl
    rw [sum]
    exact nearest_atLeast_twoPow large

theorem executionBudgetMs_eq {maxDelayMs : ℕ} (whole : tool.retry.maxDelayMs.val = maxDelayMs) :
    tool.executionBudgetMs =
      (Double.nearest (tool.timeout.timeoutMs * tool.retry.maxAttempts : ℕ)).add
        (Double.nearest (maxDelayMs * (tool.retry.maxAttempts - 1) : ℕ)) := by
  unfold executionBudgetMs
  rw [whole, Nat.cast_mul, Nat.cast_mul]
  rfl

theorem idempotencyClaimTtlMs_computed {maxDelayMs : ℕ}
    (whole : tool.retry.maxDelayMs.val = maxDelayMs) (safe : maxDelayMs ≤ maxSafeInteger)
    (budget : tool.timeout.timeoutMs * tool.retry.maxAttempts +
      maxDelayMs * (tool.retry.maxAttempts - 1) ≤ maxSafeInteger) (retentionTtlMs : ℕ) :
    tool.idempotencyClaimTtlMs retentionTtlMs =
      max (retentionTtlMs : ℚ) (roundPlaces
        ((tool.timeout.timeoutMs * tool.retry.maxAttempts +
          maxDelayMs * (tool.retry.maxAttempts - 1) : ℕ) + idempotencyClaimSafetyMs)) := by
  have attempts := Double.safeInteger?_natCast tool.retry.maxAttempts.property.1
    tool.retry.maxAttempts.property.2
  have timeout := Double.safeInteger?_natCast tool.timeout.timeoutMs.property.1
    tool.timeout.timeoutMs.property.2
  have delay := Double.safeInteger?_natCast (Nat.zero_le _) safe
  have sum := executionBudgetMs_eq whole
  have computed := add_nearest_safeInteger? (tool.timeout.timeoutMs * tool.retry.maxAttempts)
    (maxDelayMs * (tool.retry.maxAttempts - 1))
  rw [dif_pos budget, ← sum] at computed
  unfold idempotencyClaimTtlMs
  rw [attempts, timeout, whole, delay, computed]

theorem budget_le_idempotencyClaimTtlMs {maxDelayMs : ℕ}
    (whole : tool.retry.maxDelayMs.val = maxDelayMs) (safe : maxDelayMs ≤ maxSafeInteger)
    (budget : tool.timeout.timeoutMs * tool.retry.maxAttempts +
      maxDelayMs * (tool.retry.maxAttempts - 1) ≤ maxSafeInteger) (retentionTtlMs : ℕ) :
    ((tool.timeout.timeoutMs * tool.retry.maxAttempts +
      maxDelayMs * (tool.retry.maxAttempts - 1) : ℕ) : ℚ) ≤
        tool.idempotencyClaimTtlMs retentionTtlMs := by
  rw [idempotencyClaimTtlMs_computed whole safe budget]
  generalize tool.timeout.timeoutMs * tool.retry.maxAttempts +
    maxDelayMs * (tool.retry.maxAttempts - 1) = total at budget ⊢
  have small : total < 2 ^ 53 := by
    unfold maxSafeInteger at budget
    omega
  have nonneg : (0 : ℚ) ≤ total := Nat.cast_nonneg total
  calc (total : ℚ) = roundPlaces total := (roundPlaces_natCast small).symm
    _ ≤ roundPlaces (total + idempotencyClaimSafetyMs) :=
      roundPlaces_mono nonneg (by simp [idempotencyClaimSafetyMs])
    _ ≤ _ := le_max_right ..

theorem idempotencyClaimTtlMs_constant (unsafeBudget : ¬tool.SafeBudget) (retentionTtlMs : ℕ) :
    tool.idempotencyClaimTtlMs retentionTtlMs =
      max (retentionTtlMs : ℚ) defaultIdempotencyTtlMs := by
  unfold idempotencyClaimTtlMs
  split
  next attempts timeout maxDelayMs _ _ delay =>
    have whole := Double.safeInteger?_eq_some delay
    have computed := add_nearest_safeInteger? (tool.timeout.timeoutMs * tool.retry.maxAttempts)
      (maxDelayMs.val * (tool.retry.maxAttempts - 1))
    rw [← executionBudgetMs_eq whole, dif_neg] at computed
    · rw [computed]
    · exact fun budget => unsafeBudget ⟨maxDelayMs, whole, budget, maxDelayMs.property.2⟩
  next => rfl

/-! ## The longest execution -/

theorem executionMs_eq_some {draws : ℕ → Draw} {elapsedMs : ℚ} :
    tool.executionMs draws = some elapsedMs ↔
      ∃ delays, tool.retry.delaysMs draws (tool.retry.maxAttempts - 1) = some delays ∧
        tool.retry.maxAttempts * tool.timeout.timeoutMs + delays = elapsedMs := by
  simp [executionMs]

theorem claimOutlivesExecution_of_safeBudget (numeric : tool.retry.NumericDelays)
    (safe : tool.SafeBudget) : tool.ClaimOutlivesExecution := by
  obtain ⟨maxDelayMs, whole, budget, bounded⟩ := safe
  intro draws
  have attempts := tool.retry.maxAttempts.property.1
  obtain ⟨delays, sum, le⟩ := RetryPolicy.delaysMs_le (fun n (retried : n < tool.retry.maxAttempts - 1) =>
    RetryPolicy.backoffDelayMs_atMost numeric whole bounded (by omega) (draws n))
  refine ⟨_, executionMs_eq_some.mpr ⟨delays, sum, rfl⟩, ?_⟩
  have covered := budget_le_idempotencyClaimTtlMs whole bounded budget tool.idempotencyRetentionTtlMs
  push_cast at covered
  calc (tool.retry.maxAttempts : ℚ) * tool.timeout.timeoutMs + delays
      ≤ tool.timeout.timeoutMs * tool.retry.maxAttempts +
          maxDelayMs * (tool.retry.maxAttempts - 1 : ℕ) := by linarith
    _ ≤ _ := covered

theorem claimOutlivesExecution_of_unsafe (unsafeBudget : ¬tool.SafeBudget) :
    tool.ClaimOutlivesExecution ↔ tool.EndsWithinConstant := by
  unfold ClaimOutlivesExecution EndsWithinConstant
  rw [idempotencyClaimTtlMs_constant unsafeBudget]
  constructor
  · intro outlives
    exact outlives (fun _ => .largest)
  · rintro ⟨longest, elapsed, within⟩ draws
    obtain ⟨delays, sum, rfl⟩ := executionMs_eq_some.mp elapsed
    have numeric := RetryPolicy.numericDelays_of_delaysMs sum
    have attempts := tool.retry.maxAttempts.property.1
    obtain ⟨total, drawn, le⟩ := RetryPolicy.delaysMs_le_largest numeric draws (by omega) sum
    exact ⟨_, executionMs_eq_some.mpr ⟨total, drawn, rfl⟩, (add_le_add_right le _).trans within⟩

end ToolTiming

/-- A claim outlives every execution exactly where its lifetime is computed from a safe budget, or the
longest execution fits into the constant, and no delay is undefined. -/
theorem claimOutlivesExecution_iff (definition : ToolTimingInput) (tool : ToolTiming)
    (_admitted : snapshotToolTiming definition = .ok tool) :
    tool.ClaimOutlivesExecution ↔
      tool.retry.NumericDelays ∧ (tool.SafeBudget ∨ tool.EndsWithinConstant) := by
  constructor
  · intro outlives
    refine ⟨?_, ?_⟩
    · obtain ⟨elapsedMs, elapsed, -⟩ := outlives (fun _ => .largest)
      obtain ⟨delays, sum, -⟩ := ToolTiming.executionMs_eq_some.mp elapsed
      exact RetryPolicy.numericDelays_of_delaysMs sum
    · by_cases safe : tool.SafeBudget
      · exact .inl safe
      · exact .inr ((ToolTiming.claimOutlivesExecution_of_unsafe safe).mp outlives)
  · rintro ⟨numeric, safe | within⟩
    · exact ToolTiming.claimOutlivesExecution_of_safeBudget numeric safe
    · by_cases safe : tool.SafeBudget
      · exact ToolTiming.claimOutlivesExecution_of_safeBudget numeric safe
      · exact (ToolTiming.claimOutlivesExecution_of_unsafe safe).mpr within

/-- Three attempts of a minute each, with half a millisecond between them. -/
def halfMillisecondRetries : ToolTimingInput where
  timeout := { timeoutMs := .finite 60000, onTimeout := "fail" }
  retry := {
    maxAttempts := .finite 3, initialDelayMs := .finite (1 / 2), maxDelayMs := .finite (1 / 2)
    backoff := "fixed", jitter := false }
  idempotency := { enabled := true }

theorem halfMillisecondRetries_outlived :
    ∃ tool, snapshotToolTiming halfMillisecondRetries = .ok tool ∧ ¬tool.ClaimOutlivesExecution := by
  let tool : ToolTiming := {
    timeout := { timeoutMs := ⟨60000, by decide⟩, onTimeout := .fail }
    retry := {
      maxAttempts := ⟨3, by decide⟩
      initialDelayMs := ⟨1 / 2, by norm_num⟩
      maxDelayMs := ⟨1 / 2, by norm_num⟩
      backoff := .fixed
      jitter := false
      retryableErrorCodes := none }
    idempotency := {
      enabled := true, keyTemplate := none, ttlMs := none, legacyKeyCompatibility := none } }
  refine ⟨tool, by decide +kernel, fun outlives => ?_⟩
  obtain ⟨elapsedMs, elapsed, within⟩ := outlives (fun _ => .largest)
  have three : tool.executionMs (fun _ => .largest) = some 180001 := by decide +kernel
  have minute : tool.idempotencyClaimTtlMs tool.idempotencyRetentionTtlMs = 60000 := by
    decide +kernel
  rw [three] at elapsed
  cases elapsed
  rw [minute] at within
  norm_num at within

/-- Three attempts of a second each, with two retries after at most a second. -/
def secondRetries : ToolTimingInput where
  timeout := { timeoutMs := .finite 1000, onTimeout := "fail" }
  retry := {
    maxAttempts := .finite 3, initialDelayMs := .finite 100, maxDelayMs := .finite 1000
    backoff := "exponential", jitter := true }
  idempotency := { enabled := true }

theorem secondRetries_outlived :
    ∃ tool, snapshotToolTiming secondRetries = .ok tool ∧
      (tool.ClaimOutlivesExecution ↔
        tool.retry.NumericDelays ∧ (tool.SafeBudget ∨ tool.EndsWithinConstant)) := by
  let tool : ToolTiming := {
    timeout := { timeoutMs := ⟨1000, by decide⟩, onTimeout := .fail }
    retry := {
      maxAttempts := ⟨3, by decide⟩
      initialDelayMs := ⟨100, by norm_num⟩
      maxDelayMs := ⟨1000, by norm_num⟩
      backoff := .exponential
      jitter := true
      retryableErrorCodes := none }
    idempotency := {
      enabled := true, keyTemplate := none, ttlMs := none, legacyKeyCompatibility := none } }
  have admitted : snapshotToolTiming secondRetries = .ok tool := by decide +kernel
  exact ⟨tool, admitted, claimOutlivesExecution_iff secondRetries tool admitted⟩

end Tvic
