import Tvic.Runtime.RecoveryTiming

/-!
# Synthetic endpoints measure healthy silence

Every run of finals, endpoints, flushes, recovery states and clock advances whose timers fire when
they are due. The active clock stands still during a recovery. A timer leads to an active time at
which it fires, and `Timed` bounds that time from below by the finals that were heard.
-/
namespace Tvic

open Lib

namespace SyntheticTimer

variable {t : SyntheticTimer} {now active : ℤ}

def expiry (t : SyntheticTimer) (active : ℤ) : Option ℤ :=
  t.remainingMs.map fun remaining =>
    (match t.timer with
      | none => active
      | some _ => t.startedAtActiveMs.getD active) + remaining

/-- A timer that fires at this active time or later. One that runs was started at an active time,
and is due when its expiry is reached. -/
structure Leads (t : SyntheticTimer) (now active target : ℤ) : Prop where
  runs : ∀ due, t.timer = some due → now ≤ due ∧ ∃ started remaining,
    t.startedAtActiveMs = some started ∧ t.remainingMs = some remaining ∧ started ≤ active ∧
      due - now = started + remaining - active
  left : ∀ remaining, t.remainingMs = some remaining → 0 ≤ remaining
  expires : ∀ expiry, t.expiry active = some expiry → target ≤ expiry

def Idle (t : SyntheticTimer) : Prop := t.timer = none ∧ t.remainingMs = none

@[simp] theorem cancel_timer (reset : Bool) : (t.cancel active reset).timer = none := by
  unfold cancel
  cases running : t.timer <;> cases reset <;> simp [running]

theorem cancel_idle : (t.cancel active true).Idle :=
  ⟨cancel_timer true, by simp [cancel]⟩

theorem Idle.cancel (idle : t.Idle) : (t.cancel active false).Idle := by
  have same : t.cancel active false = t := by simp [SyntheticTimer.cancel, idle.1]
  rwa [same]

theorem Idle.leads (idle : t.Idle) (target : ℤ) : t.Leads now active target := by
  constructor
  · intro due running
    rw [idle.1] at running
    cases running
  · intro remaining kept
    rw [idle.2] at kept
    cases kept
  · intro expiry expires
    simp [SyntheticTimer.expiry, idle.2] at expires

theorem leads_of_stopped (stopped : t.timer = none) {target : ℤ}
    (left : ∀ remaining, t.remainingMs = some remaining →
      0 ≤ remaining ∧ target ≤ active + remaining) : t.Leads now active target := by
  constructor
  · intro due running
    rw [stopped] at running
    cases running
  · exact fun remaining kept => (left remaining kept).1
  · intro expiry expires
    cases kept : t.remainingMs with
    | none => simp [SyntheticTimer.expiry, kept] at expires
    | some remaining =>
      have equation : active + remaining = expiry := by
        simpa [SyntheticTimer.expiry, kept, stopped] using expires
      have bound := (left remaining kept).2
      omega

variable {target : ℤ}

section

variable (leads : t.Leads now active target)
include leads

theorem Leads.remaining (stopped : t.timer = none) {remaining : ℤ}
    (kept : t.remainingMs = some remaining) :
    0 ≤ remaining ∧ target ≤ active + remaining :=
  ⟨leads.left remaining kept, leads.expires _ (by simp [expiry, kept, stopped])⟩

theorem Leads.cancel :
    (t.cancel active false).Leads now active target := by
  cases running : t.timer with
  | none =>
    have same : t.cancel active false = t := by simp [SyntheticTimer.cancel, running]
    rwa [same]
  | some due =>
    obtain ⟨-, started, remaining, began, left, earlier, -⟩ := leads.runs due running
    have before := leads.expires (started + remaining) (by simp [expiry, running, began, left])
    refine leads_of_stopped (cancel_timer false) fun after kept => ?_
    have equation : max 0 (remaining - max 0 (active - started)) = after := by
      simpa [SyntheticTimer.cancel, running, began, left] using kept
    omega

theorem Leads.schedule :
    (t.schedule now active).Leads now active target := by
  cases kept : t.remainingMs with
  | none => simpa [SyntheticTimer.schedule, kept] using leads
  | some remaining =>
    cases running : t.timer with
    | some due => simpa [SyntheticTimer.schedule, kept, running] using leads
    | none =>
      obtain ⟨positive, far⟩ := leads.remaining running kept
      have scheduled : t.schedule now active =
          { t with startedAtActiveMs := some active, timer := some (now + remaining) } := by
        simp [SyntheticTimer.schedule, kept, running]
      rw [scheduled]
      constructor
      · intro due began
        cases began
        exact ⟨by omega, active, remaining, rfl, kept, le_rfl, by omega⟩
      · exact leads.left
      · intro expiry expires
        have equation : active + remaining = expiry := by
          simpa [SyntheticTimer.expiry, kept] using expires
        omega

theorem Leads.orRemaining {milliseconds : Nat} (far : target ≤ active + milliseconds) :
    (t.orRemaining milliseconds).Leads now active target := by
  cases kept : t.remainingMs with
  | some remaining =>
    have same : t.orRemaining milliseconds = t := by
      cases t
      cases kept
      rfl
    rwa [same]
  | none =>
    have stopped : t.timer = none := by
      by_contra running
      obtain ⟨due, began⟩ := Option.ne_none_iff_exists'.mp running
      obtain ⟨-, -, remaining, -, left, -, -⟩ := leads.runs due began
      rw [kept] at left
      cases left
    have stands : (t.orRemaining milliseconds).timer = none := stopped
    refine leads_of_stopped stands fun remaining left => ?_
    have equation : (milliseconds : ℤ) = remaining := by
      simpa [SyntheticTimer.orRemaining, kept] using left
    omega

theorem Leads.advance {milliseconds : Nat} (upto : ∀ due ∈ t.timer, now + milliseconds ≤ due) :
    t.Leads (now + milliseconds) (active + milliseconds) target := by
  cases running : t.timer with
  | none =>
    refine leads_of_stopped running fun remaining kept => ?_
    obtain ⟨positive, far⟩ := leads.remaining running kept
    omega
  | some due =>
    obtain ⟨-, started, remaining, began, left, earlier, difference⟩ := leads.runs due running
    have later := upto due running
    constructor
    · intro due' running'
      rw [running] at running'
      cases running'
      exact ⟨later, started, remaining, began, left, by omega, by omega⟩
    · exact leads.left
    · intro expiry expires
      refine leads.expires expiry ?_
      simpa [SyntheticTimer.expiry, running, began, left] using expires

theorem Leads.stand (stopped : t.timer = none) (now' : ℤ) :
    t.Leads now' active target :=
  leads_of_stopped stopped fun _ kept => leads.remaining stopped kept

theorem Leads.fires (due : t.timer = some now) :
    target ≤ active := by
  obtain ⟨-, started, remaining, began, left, -, difference⟩ := leads.runs now due
  have bound := leads.expires (started + remaining) (by simp [expiry, due, began, left])
  omega

end

end SyntheticTimer

/-! ## The active clock -/

namespace RecoveryAwareTiming

variable {timing : RecoveryAwareTiming} {now : ℤ}

/-- A recovery is going on, from a time in the past, just while the state is not healthy. -/
structure Clocked (timing : RecoveryAwareTiming) (now : ℤ) : Prop where
  started : ∀ started, timing.recoveryStartedAtMs = some started → started ≤ now
  recovering : timing.recoveryStartedAtMs = none ↔ timing.state = .healthy

theorem Clocked.activeNow_advance (clocked : timing.Clocked now) (milliseconds : Nat) :
    timing.activeNow (now + milliseconds) =
      timing.activeNow now + if timing.state = .healthy then (milliseconds : ℤ) else 0 := by
  cases recovery : timing.recoveryStartedAtMs with
  | none =>
    rw [if_pos (clocked.recovering.mp recovery)]
    simp only [activeNow, recovery]
    omega
  | some started =>
    have unhealthy : timing.state ≠ .healthy := by
      intro healthy
      rw [clocked.recovering.mpr healthy] at recovery
      cases recovery
    have past := clocked.started started recovery
    rw [if_neg unhealthy]
    simp only [activeNow, recovery]
    omega

theorem Clocked.advance (clocked : timing.Clocked now) (milliseconds : Nat) :
    timing.Clocked (now + milliseconds) :=
  ⟨fun started recovery => by have past := clocked.started started recovery; omega,
    clocked.recovering⟩

/-- The timers of a timing, with the active times that they lead to. -/
structure Timed (timing : RecoveryAwareTiming) (now endpointAt durationAt : ℤ) : Prop where
  clocked : timing.Clocked now
  endpoint : timing.endpoint.Leads now (timing.activeNow now) endpointAt
  duration : timing.duration.Leads now (timing.activeNow now) durationAt
  paused : timing.state ≠ .healthy →
    timing.endpoint.timer = none ∧ timing.duration.timer = none

variable {endpointAt durationAt : ℤ}

theorem Timed.cancelEndpointTimers (timed : timing.Timed now endpointAt durationAt)
    (endpointAt' durationAt' : ℤ) :
    (timing.cancelEndpointTimers now).Timed now endpointAt' durationAt' where
  clocked := ⟨timed.clocked.started, timed.clocked.recovering⟩
  endpoint := SyntheticTimer.cancel_idle.leads _
  duration := SyntheticTimer.cancel_idle.leads _
  paused := fun _ => ⟨SyntheticTimer.cancel_timer true, SyntheticTimer.cancel_timer true⟩

theorem Timed.scheduleTimers (timed : timing.Timed now endpointAt durationAt) :
    (timing.scheduleTimers now).Timed now endpointAt durationAt := by
  unfold RecoveryAwareTiming.scheduleTimers
  split
  next healthy =>
    have same : timing.state = .healthy := by simpa [isHealthy] using healthy
    exact ⟨⟨timed.clocked.started, timed.clocked.recovering⟩, timed.endpoint.schedule,
      timed.duration.schedule, fun unhealthy => (unhealthy same).elim⟩
  next => exact timed

@[simp] theorem activeNow_scheduleTimers (timing : RecoveryAwareTiming) (now : ℤ) :
    (timing.scheduleTimers now).activeNow now = timing.activeNow now := by
  unfold scheduleTimers
  split <;> rfl

@[simp] theorem scheduleTimers_endpointTimeoutMs (timing : RecoveryAwareTiming) (now : ℤ) :
    (timing.scheduleTimers now).endpointTimeoutMs = timing.endpointTimeoutMs := by
  unfold scheduleTimers
  split <;> rfl

@[simp] theorem scheduleTimers_maxDurationMs (timing : RecoveryAwareTiming) (now : ℤ) :
    (timing.scheduleTimers now).maxDurationMs = timing.maxDurationMs := by
  unfold scheduleTimers
  split <;> rfl

theorem armEndpointTimers_kept (timing : RecoveryAwareTiming) (now : ℤ) (buffered : Bool) :
    (timing.armEndpointTimers now buffered).activeNow now = timing.activeNow now ∧
      (timing.armEndpointTimers now buffered).endpointTimeoutMs = timing.endpointTimeoutMs ∧
      (timing.armEndpointTimers now buffered).maxDurationMs = timing.maxDurationMs := by
  unfold armEndpointTimers
  split
  · exact ⟨activeNow_scheduleTimers _ now, scheduleTimers_endpointTimeoutMs _ now,
      scheduleTimers_maxDurationMs _ now⟩
  · exact ⟨rfl, rfl, rfl⟩

theorem Timed.armEndpointTimers (timed : timing.Timed now endpointAt durationAt)
    (durationFar : durationAt ≤ timing.activeNow now + timing.maxDurationMs)
    (healthy : timing.isHealthy = true) :
    (timing.armEndpointTimers now true).Timed now
      (timing.activeNow now + timing.endpointTimeoutMs) durationAt := by
  unfold RecoveryAwareTiming.armEndpointTimers
  rw [healthy]
  refine Timed.scheduleTimers ⟨⟨timed.clocked.started, timed.clocked.recovering⟩, ?_, ?_, ?_⟩
  · -- whatever was left before, the endpoint timer begins anew
    have stands : ({ timing.endpoint.cancel (timing.activeNow now) false with
        remainingMs := some (timing.endpointTimeoutMs : ℤ) } : SyntheticTimer).timer = none :=
      SyntheticTimer.cancel_timer false
    refine SyntheticTimer.leads_of_stopped stands fun remaining kept => ?_
    cases kept
    exact ⟨by omega, le_rfl⟩
  · exact timed.duration.orRemaining durationFar
  · intro unhealthy
    exact (unhealthy (by simpa [isHealthy] using healthy)).elim

theorem Timed.pauseTimers (timed : timing.Timed now endpointAt durationAt) :
    (timing.pauseTimers now).Timed now endpointAt durationAt where
  clocked := ⟨timed.clocked.started, timed.clocked.recovering⟩
  endpoint := timed.endpoint.cancel
  duration := timed.duration.cancel
  paused := fun _ => ⟨SyntheticTimer.cancel_timer false, SyntheticTimer.cancel_timer false⟩

def recovered (timing : RecoveryAwareTiming) (now : ℤ) : RecoveryAwareTiming :=
  { timing with
    state := .healthy
    recoveryElapsedMs := timing.recoveryElapsedMs +
      match timing.recoveryStartedAtMs with
        | none => 0
        | some started => max 0 (now - started)
    recoveryStartedAtMs := none }

/-- What `setState` does: nothing, or the pause of a recovery that begins or goes on, or the end of
one, with new times where a transcript is buffered and none are left. -/
theorem setState_cases (timing : RecoveryAwareTiming) (now : ℤ) (state : RecoveryTimingState)
    (buffered : Bool) :
    timing.setState now state buffered = timing ∨
    (timing.state = .healthy ∧ state ≠ .healthy ∧ timing.setState now state buffered =
      { timing with state, recoveryStartedAtMs := some now }.pauseTimers now) ∨
    (timing.state ≠ .healthy ∧ state = .healthy ∧ timing.setState now state buffered =
      if buffered then
        { timing.recovered now with
          endpoint := timing.endpoint.orRemaining timing.endpointTimeoutMs
          duration := timing.duration.orRemaining timing.maxDurationMs }.scheduleTimers now
      else timing.recovered now) ∨
    (timing.state ≠ .healthy ∧ state ≠ .healthy ∧ timing.setState now state buffered =
      { timing with state }.pauseTimers now) := by
  unfold setState
  by_cases same : timing.state = state
  · exact .inl (if_pos same)
  · rw [if_neg same]
    dsimp only
    by_cases was : timing.state = .healthy
    · have is_ : state ≠ .healthy := fun healthy => same (was.trans healthy.symm)
      rw [if_pos ⟨not_not.mpr was, is_⟩]
      exact .inr (.inl ⟨was, is_, rfl⟩)
    · rw [if_neg (fun both => both.1 was)]
      by_cases is_ : state = .healthy
      · rw [if_pos ⟨was, not_not.mpr is_⟩]
        refine .inr (.inr (.inl ⟨was, is_, ?_⟩))
        rw [is_]
        rfl
      · rw [if_neg (fun both => both.2 is_), if_pos is_]
        exact .inr (.inr (.inr ⟨was, is_, rfl⟩))

theorem activeNow_recovered (timing : RecoveryAwareTiming) (now : ℤ) :
    (timing.recovered now).activeNow now = timing.activeNow now := by
  cases recovery : timing.recoveryStartedAtMs with
  | none => simp [recovered, activeNow, recovery]
  | some started =>
    simp only [recovered, activeNow, recovery]
    omega

theorem Clocked.activeNow_recovering (clocked : timing.Clocked now) (healthy : timing.state = .healthy)
    (state : RecoveryTimingState) :
    ({ timing with state, recoveryStartedAtMs := some now } : RecoveryAwareTiming).activeNow now =
      timing.activeNow now := by
  have running := clocked.recovering.mpr healthy
  simp [activeNow, running]

theorem Clocked.activeNow_setState (clocked : timing.Clocked now) (state : RecoveryTimingState)
    (buffered : Bool) : (timing.setState now state buffered).activeNow now = timing.activeNow now := by
  rcases timing.setState_cases now state buffered with
    same | ⟨healthy, -, begins⟩ | ⟨-, -, ends⟩ | ⟨-, -, goesOn⟩
  · rw [same]
  · rw [begins]
    exact clocked.activeNow_recovering healthy state
  · rw [ends]
    split
    · rw [activeNow_scheduleTimers]
      exact activeNow_recovered timing now
    · exact activeNow_recovered timing now
  · rw [goesOn]
    rfl

theorem setState_limits (timing : RecoveryAwareTiming) (now : ℤ) (state : RecoveryTimingState)
    (buffered : Bool) :
    (timing.setState now state buffered).endpointTimeoutMs = timing.endpointTimeoutMs ∧
      (timing.setState now state buffered).maxDurationMs = timing.maxDurationMs := by
  rcases timing.setState_cases now state buffered with
    same | ⟨-, -, begins⟩ | ⟨-, -, ends⟩ | ⟨-, -, goesOn⟩
  · rw [same]
    exact ⟨rfl, rfl⟩
  · rw [begins]
    exact ⟨rfl, rfl⟩
  · rw [ends]
    split
    · rw [scheduleTimers_endpointTimeoutMs, scheduleTimers_maxDurationMs]
      exact ⟨rfl, rfl⟩
    · exact ⟨rfl, rfl⟩
  · rw [goesOn]
    exact ⟨rfl, rfl⟩

theorem setState_idle (timing : RecoveryAwareTiming) (now : ℤ) (state : RecoveryTimingState)
    (idle : timing.endpoint.Idle ∧ timing.duration.Idle) :
    (timing.setState now state false).endpoint.Idle ∧
      (timing.setState now state false).duration.Idle := by
  rcases timing.setState_cases now state false with
    same | ⟨-, -, begins⟩ | ⟨-, -, ends⟩ | ⟨-, -, goesOn⟩
  · rwa [same]
  · rw [begins]
    exact ⟨idle.1.cancel, idle.2.cancel⟩
  · rw [ends]
    exact idle
  · rw [goesOn]
    exact ⟨idle.1.cancel, idle.2.cancel⟩

theorem Timed.setState (timed : timing.Timed now endpointAt durationAt)
    (state : RecoveryTimingState) (buffered : Bool)
    (endpointFar : endpointAt ≤ timing.activeNow now + timing.endpointTimeoutMs)
    (durationFar : durationAt ≤ timing.activeNow now + timing.maxDurationMs) :
    (timing.setState now state buffered).Timed now endpointAt durationAt := by
  rcases timing.setState_cases now state buffered with
    same | ⟨healthy, unhealthy, begins⟩ | ⟨unhealthy, -, ends⟩ | ⟨unhealthy, still, goesOn⟩
  · rwa [same]
  · rw [begins]
    have active := timed.clocked.activeNow_recovering healthy state
    have clocked : ({ timing with state, recoveryStartedAtMs := some now } :
        RecoveryAwareTiming).Clocked now := by
      refine ⟨fun started recovery => ?_, ?_⟩
      · cases recovery
        exact le_rfl
      · simp [unhealthy]
    refine ⟨⟨clocked.started, clocked.recovering⟩, ?_, ?_,
      fun _ => ⟨SyntheticTimer.cancel_timer false, SyntheticTimer.cancel_timer false⟩⟩
    · have endpoint := timed.endpoint.cancel
      rw [← active] at endpoint
      exact endpoint
    · have duration := timed.duration.cancel
      rw [← active] at duration
      exact duration
  · rw [ends]
    have active := activeNow_recovered timing now
    have clocked : (timing.recovered now).Clocked now :=
      ⟨fun _ recovery => by simp [recovered] at recovery, by simp [recovered]⟩
    split
    · refine Timed.scheduleTimers ⟨⟨clocked.started, clocked.recovering⟩, ?_, ?_,
        fun unhealthy => (unhealthy rfl).elim⟩
      · have endpoint := timed.endpoint.orRemaining endpointFar
        rw [← active] at endpoint
        exact endpoint
      · have duration := timed.duration.orRemaining durationFar
        rw [← active] at duration
        exact duration
    · refine ⟨clocked, ?_, ?_, fun unhealthy => (unhealthy rfl).elim⟩
      · rw [active]
        exact timed.endpoint
      · rw [active]
        exact timed.duration
  · rw [goesOn]
    have clocked : ({ timing with state } : RecoveryAwareTiming).Clocked now := by
      refine ⟨timed.clocked.started, ?_⟩
      have recovery := timed.clocked.recovering
      simp only [unhealthy, still, iff_false] at recovery ⊢
      exact recovery
    exact Timed.pauseTimers ⟨clocked, timed.endpoint, timed.duration,
      fun _ => timed.paused unhealthy⟩

end RecoveryAwareTiming

/-! ## Runs -/

/-- An input, and the active times of the last final and of the first one of what is buffered. -/
structure HeardInput where
  input : TimedSttInput
  lastFinalActiveMs : ℤ
  firstFinalActiveMs : ℤ
  deriving DecidableEq, Repr

namespace HeardInput

def new (endpointTimeoutMs maxDurationMs : Nat) (now : ℤ) : HeardInput where
  input := .new endpointTimeoutMs maxDurationMs now
  lastFinalActiveMs := now
  firstFinalActiveMs := now

variable (s : HeardInput)

def step (event : TimedSttEvent) : HeardInput :=
  match event with
  | .final _ =>
    { input := s.input.step event
      lastFinalActiveMs := s.input.activeNow
      firstFinalActiveMs :=
        if s.input.finalTranscriptBuffer = [] then s.input.activeNow else s.firstFinalActiveMs }
  | _ => { s with input := s.input.step event }

def admits (event : TimedSttEvent) : Prop := s.input.admits event

/-- A final that comes while the state is not healthy finds no part of an endpoint time that an
earlier final has left. -/
def Unspent : TimedSttEvent → Prop
  | .final _ => s.input.timing.state = .healthy ∨
      ∀ left ∈ s.input.timing.endpoint.remainingMs, (s.input.timing.endpointTimeoutMs : ℤ) ≤ left
  | _ => True

/-- What holds of a run: the timers lead past the silence that the finals ask for. -/
structure Silent (s : HeardInput) : Prop where
  timed : s.input.timing.Timed s.input.now
    (s.lastFinalActiveMs + s.input.timing.endpointTimeoutMs)
    (s.firstFinalActiveMs + s.input.timing.maxDurationMs)
  lastHeard : s.lastFinalActiveMs ≤ s.input.activeNow
  firstHeard : s.firstFinalActiveMs ≤ s.input.activeNow
  idle : s.input.finalTranscriptBuffer = [] →
    s.input.timing.endpoint.Idle ∧ s.input.timing.duration.Idle
  spoken : s.input.finalTranscriptBuffer ≠ [] →
    ∃ unit ∈ s.input.finalTranscriptBuffer, isWhitespace unit = false

theorem silent_new (endpointTimeoutMs maxDurationMs : Nat) (now : ℤ) :
    (new endpointTimeoutMs maxDurationMs now).Silent := by
  have idle : ({} : SyntheticTimer).Idle := ⟨rfl, rfl⟩
  have active : (new endpointTimeoutMs maxDurationMs now).input.activeNow = now := by
    simp [new, TimedSttInput.new, TimedSttInput.activeNow, RecoveryAwareTiming.activeNow]
  constructor
  · have clocked : (new endpointTimeoutMs maxDurationMs now).input.timing.Clocked now := by
      refine ⟨fun started recovery => ?_, ?_⟩
      · cases recovery
      · simp [new, TimedSttInput.new]
    exact ⟨clocked, idle.leads _, idle.leads _, fun _ => ⟨rfl, rfl⟩⟩
  · exact active.ge
  · exact active.ge
  · exact fun _ => ⟨idle, idle⟩
  · exact fun spoken => (spoken rfl).elim

variable {s}

theorem Silent.cancelAndFlush (silent : s.Silent) :
    Silent { s with input := s.input.cancelAndFlush } where
  timed := silent.timed.cancelEndpointTimers _ _
  lastHeard := silent.lastHeard
  firstHeard := silent.firstHeard
  idle := fun _ => ⟨SyntheticTimer.cancel_idle, SyntheticTimer.cancel_idle⟩
  spoken := fun spoken => (spoken rfl).elim

theorem acceptFinal_spoken {buffer text : Text} (kept : acceptFinal buffer text ≠ []) :
    ∃ unit ∈ acceptFinal buffer text, isWhitespace unit = false := by
  by_contra blank
  push Not at blank
  refine kept (Lib.trim_eq_nil_iff.mpr ?_)
  obtain ⟨before, after, whole, beforeBlank, afterBlank⟩ :=
    Lib.trim_gaps isWhitespace (buffer ++ utf16 " " ++ text)
  rw [whole]
  intro unit member
  rcases List.mem_append.mp member with early | rest
  · exact beforeBlank unit early
  · rcases List.mem_append.mp rest with middle | late
    · simpa using blank unit middle
    · exact afterBlank unit late

theorem acceptFinal_ne_nil {buffer text : Text}
    (spoken : ∃ unit ∈ buffer, isWhitespace unit = false) : acceptFinal buffer text ≠ [] := by
  obtain ⟨unit, member, visible⟩ := spoken
  intro empty
  have blank := Lib.trim_eq_nil_iff.mp empty unit (by simp [member])
  rw [visible] at blank
  cases blank

section

variable (silent : s.Silent)
include silent

theorem Silent.final (text : Text) (unspent : s.Unspent (.final text)) :
    (s.step (.final text)).Silent := by
  have first : (if s.input.finalTranscriptBuffer = [] then s.input.activeNow
      else s.firstFinalActiveMs) ≤ s.input.activeNow := by
    split
    · exact le_rfl
    · exact silent.firstHeard
  have fresh : acceptFinal s.input.finalTranscriptBuffer text = [] →
      s.input.finalTranscriptBuffer = [] := fun empty => by
    by_contra buffered
    exact acceptFinal_ne_nil (silent.spoken buffered) empty
  -- the duration time goes on while something is buffered, and none is left otherwise
  have duration : s.input.timing.duration.Leads s.input.now s.input.activeNow
      ((if s.input.finalTranscriptBuffer = [] then s.input.activeNow else s.firstFinalActiveMs) +
        s.input.timing.maxDurationMs) := by
    split
    next empty => exact (silent.idle empty).2.leads _
    next => exact silent.timed.duration
  have timed := silent.timed
  by_cases armed : acceptFinal s.input.finalTranscriptBuffer text ≠ [] ∧
      s.input.timing.state = .healthy
  · obtain ⟨nonempty, healthy⟩ := armed
    have isHealthy : s.input.timing.isHealthy = true := by simp [RecoveryAwareTiming.isHealthy, healthy]
    have stepped : s.input.step (.final text) =
        { s.input with
          finalTranscriptBuffer := acceptFinal s.input.finalTranscriptBuffer text
          timing := s.input.timing.armEndpointTimers s.input.now true } := by
      simp [TimedSttInput.step, TimedSttInput.hasBufferedTranscript, nonempty, isHealthy]
    have rearmed := RecoveryAwareTiming.Timed.armEndpointTimers
      ⟨timed.clocked, timed.endpoint, duration, timed.paused⟩
      (by simpa [TimedSttInput.activeNow] using first) isHealthy
    unfold HeardInput.step
    rw [stepped]
    obtain ⟨active, timeout, limit⟩ := s.input.timing.armEndpointTimers_kept s.input.now true
    refine ⟨?_, active.ge, first.trans active.ge, fun empty => (nonempty empty).elim,
      acceptFinal_spoken⟩
    dsimp only
    rw [timeout, limit]
    exact rearmed
  · have stepped : s.input.step (.final text) =
        { s.input with
          finalTranscriptBuffer := acceptFinal s.input.finalTranscriptBuffer text } := by
      simp only [TimedSttInput.step, TimedSttInput.hasBufferedTranscript,
        RecoveryAwareTiming.isHealthy]
      exact if_neg (by simpa using armed)
    unfold HeardInput.step
    rw [stepped]
    refine ⟨⟨timed.clocked, ?_, duration, timed.paused⟩, le_rfl, first, fun empty =>
      silent.idle (fresh empty), acceptFinal_spoken⟩
    by_cases healthy : s.input.timing.state = .healthy
    · -- only a final without words is not armed for
      have empty : acceptFinal s.input.finalTranscriptBuffer text = [] := by
        by_contra nonempty
        exact armed ⟨nonempty, healthy⟩
      exact (silent.idle (fresh empty)).1.leads _
    · have stopped := (timed.paused healthy).1
      refine SyntheticTimer.leads_of_stopped stopped fun left kept => ?_
      have whole := unspent.resolve_left healthy left kept
      have positive := timed.endpoint.left left kept
      dsimp only
      rw [TimedSttInput.activeNow]
      omega

theorem Silent.setRecoveryState (state : RecoveryTimingState) :
    (s.step (.setRecoveryState state)).Silent ∧
      (s.step (.setRecoveryState state)).input.activeNow = s.input.activeNow := by
  have active := silent.timed.clocked.activeNow_setState state s.input.hasBufferedTranscript
  obtain ⟨timeout, limit⟩ :=
    s.input.timing.setState_limits s.input.now state s.input.hasBufferedTranscript
  have last := silent.lastHeard
  have first := silent.firstHeard
  unfold TimedSttInput.activeNow at last first
  have timed := silent.timed.setState state s.input.hasBufferedTranscript (by omega) (by omega)
  refine ⟨⟨?_, ?_, ?_, ?_, silent.spoken⟩, active⟩
  · dsimp only [step, TimedSttInput.step]
    rw [timeout, limit]
    exact timed
  · exact silent.lastHeard.trans active.ge
  · exact silent.firstHeard.trans active.ge
  · intro empty
    have unbuffered : s.input.hasBufferedTranscript = false := by
      have same : s.input.finalTranscriptBuffer = [] := empty
      simp [TimedSttInput.hasBufferedTranscript, same]
    dsimp only [step, TimedSttInput.step]
    rw [unbuffered]
    exact RecoveryAwareTiming.setState_idle _ _ _ (silent.idle empty)

theorem Silent.clockAdvances {milliseconds : Nat} (upto : s.admits (.clockAdvances milliseconds)) :
    (s.step (.clockAdvances milliseconds)).Silent ∧
      s.input.activeNow ≤ (s.step (.clockAdvances milliseconds)).input.activeNow ∧
      (s.input.timing.state ≠ .healthy →
        (s.step (.clockAdvances milliseconds)).input.activeNow = s.input.activeNow) := by
  have active : (s.step (.clockAdvances milliseconds)).input.activeNow = s.input.activeNow +
      if s.input.timing.state = .healthy then (milliseconds : ℤ) else 0 :=
    silent.timed.clocked.activeNow_advance milliseconds
  have more : s.input.activeNow ≤ (s.step (.clockAdvances milliseconds)).input.activeNow := by
    rw [active]
    split <;> omega
  refine ⟨⟨⟨silent.timed.clocked.advance milliseconds, ?_, ?_, silent.timed.paused⟩,
    silent.lastHeard.trans more, silent.firstHeard.trans more, silent.idle, silent.spoken⟩, more,
    fun unhealthy => by rw [active, if_neg unhealthy, add_zero]⟩
  · change s.input.timing.endpoint.Leads _
      (s.step (.clockAdvances milliseconds)).input.activeNow _
    rw [active]
    split
    next => exact silent.timed.endpoint.advance upto.1
    next unhealthy =>
      rw [add_zero]
      exact silent.timed.endpoint.stand (silent.timed.paused unhealthy).1 _
  · change s.input.timing.duration.Leads _
      (s.step (.clockAdvances milliseconds)).input.activeNow _
    rw [active]
    split
    next => exact silent.timed.duration.advance upto.2
    next unhealthy =>
      rw [add_zero]
      exact silent.timed.duration.stand (silent.timed.paused unhealthy).2 _

theorem Silent.timerFires (cancelled : RecoveryAwareTiming)
    (kept : cancelled = s.input.timing.cancelEndpointTimer s.input.now ∨
      cancelled = s.input.timing.cancelEndpointTimers s.input.now)
    (due : s.input.timing.endpoint.timer = some s.input.now ∨
      s.input.timing.duration.timer = some s.input.now) :
    Silent { s with input := s.input.timerFires cancelled } ∧
      (s.input.timerFires cancelled).activeNow = s.input.activeNow := by
  have healthy : s.input.timing.isHealthy = true := by
    by_contra unhealthy
    have stopped := silent.timed.paused (by simpa [RecoveryAwareTiming.isHealthy] using unhealthy)
    rcases due with running | running
    · rw [stopped.1] at running
      cases running
    · rw [stopped.2] at running
      cases running
  unfold TimedSttInput.timerFires
  rw [if_pos healthy]
  have clocked := silent.timed.clocked
  rcases kept with rfl | rfl <;>
    exact ⟨⟨⟨⟨clocked.started, clocked.recovering⟩, SyntheticTimer.cancel_idle.leads _,
      SyntheticTimer.cancel_idle.leads _,
      fun _ => ⟨SyntheticTimer.cancel_timer true, SyntheticTimer.cancel_timer true⟩⟩,
      silent.lastHeard, silent.firstHeard,
      fun _ => ⟨SyntheticTimer.cancel_idle, SyntheticTimer.cancel_idle⟩,
      fun spoken => (spoken rfl).elim⟩, rfl⟩

theorem Silent.step {event : TimedSttEvent} (admitted : s.admits event) :
    (s.Unspent event → (s.step event).Silent) ∧
      s.input.activeNow ≤ (s.step event).input.activeNow ∧
      (s.input.timing.state ≠ .healthy → (s.step event).input.activeNow = s.input.activeNow) := by
  have still : (s.step event).input.activeNow = s.input.activeNow →
      s.input.activeNow ≤ (s.step event).input.activeNow ∧
      (s.input.timing.state ≠ .healthy →
        (s.step event).input.activeNow = s.input.activeNow) := fun same => ⟨same.ge, fun _ => same⟩
  cases event with
  | clockAdvances milliseconds =>
    obtain ⟨next, more, paused⟩ := silent.clockAdvances admitted
    exact ⟨fun _ => next, more, paused⟩
  | final text =>
    refine ⟨silent.final text, still ?_⟩
    dsimp only [HeardInput.step, TimedSttInput.step]
    split
    · exact (s.input.timing.armEndpointTimers_kept s.input.now _).1
    · rfl
  | endpoint => exact ⟨fun _ => silent.cancelAndFlush, still rfl⟩
  | flush => exact ⟨fun _ => silent.cancelAndFlush, still rfl⟩
  | transcriptsEnd aborted =>
    cases aborted with
    | false => exact ⟨fun _ => silent.cancelAndFlush, still rfl⟩
    | true =>
      refine ⟨fun _ => ?_, still rfl⟩
      exact ⟨silent.timed.cancelEndpointTimers _ _, silent.lastHeard, silent.firstHeard,
        fun _ => ⟨SyntheticTimer.cancel_idle, SyntheticTimer.cancel_idle⟩, silent.spoken⟩
  | setRecoveryState state =>
    obtain ⟨next, same⟩ := silent.setRecoveryState state
    exact ⟨fun _ => next, still same⟩
  | endpointTimer =>
    obtain ⟨next, same⟩ := silent.timerFires _ (.inl rfl) (.inl admitted)
    exact ⟨fun _ => next, still same⟩
  | durationTimer =>
    obtain ⟨next, same⟩ := silent.timerFires _ (.inr rfl) (.inr admitted)
    exact ⟨fun _ => next, still same⟩

theorem Silent.flushed {event : TimedSttEvent} (admitted : s.admits event) {transcript : Text}
    (flushed : s.input.flushedByTimer event = some transcript) :
    s.lastFinalActiveMs + s.input.timing.endpointTimeoutMs ≤ s.input.activeNow ∨
      s.firstFinalActiveMs + s.input.timing.maxDurationMs ≤ s.input.activeNow := by
  cases event with
  | endpointTimer => exact .inl (silent.timed.endpoint.fires admitted)
  | durationTimer => exact .inr (silent.timed.duration.fires admitted)
  | clockAdvances milliseconds => cases flushed
  | final text => cases flushed
  | endpoint => cases flushed
  | flush => cases flushed
  | transcriptsEnd aborted => cases flushed
  | setRecoveryState state => cases flushed

end

def after (endpointTimeoutMs maxDurationMs : Nat) (start : ℤ) (events : List TimedSttEvent) :
    HeardInput :=
  run step (new endpointTimeoutMs maxDurationMs start) events

instance decidableAdmits (event : TimedSttEvent) : Decidable (s.admits event) := by
  unfold admits TimedSttInput.admits
  cases event <;> infer_instance

instance decidableUnspent (event : TimedSttEvent) : Decidable (s.Unspent event) := by
  unfold Unspent
  cases event <;> infer_instance

theorem silent_after {endpointTimeoutMs maxDurationMs : Nat} {start : ℤ}
    {events : List TimedSttEvent}
    (admitted : Admitted (fun s event => s.admits event ∧ s.Unspent event) step
      (new endpointTimeoutMs maxDurationMs start) events) :
    (after endpointTimeoutMs maxDurationMs start events).Silent :=
  run_invariant_of_admitted Silent (fun _ _ admitted silent =>
    (silent.step admitted.1).1 admitted.2) (silent_new endpointTimeoutMs maxDurationMs start) admitted

theorem step_limits (s : HeardInput) (event : TimedSttEvent) :
    (s.step event).input.timing.endpointTimeoutMs = s.input.timing.endpointTimeoutMs ∧
      (s.step event).input.timing.maxDurationMs = s.input.timing.maxDurationMs := by
  have fires : ∀ cancelled : RecoveryAwareTiming,
      cancelled.endpointTimeoutMs = s.input.timing.endpointTimeoutMs →
      cancelled.maxDurationMs = s.input.timing.maxDurationMs →
        (s.input.timerFires cancelled).timing.endpointTimeoutMs =
            s.input.timing.endpointTimeoutMs ∧
          (s.input.timerFires cancelled).timing.maxDurationMs = s.input.timing.maxDurationMs := by
    intro cancelled timeout limit
    unfold TimedSttInput.timerFires
    split
    · exact ⟨timeout, limit⟩
    · exact ⟨rfl, rfl⟩
  cases event with
  | final text =>
    dsimp only [step, TimedSttInput.step]
    split
    · exact (s.input.timing.armEndpointTimers_kept s.input.now _).2
    · exact ⟨rfl, rfl⟩
  | setRecoveryState state =>
    exact s.input.timing.setState_limits s.input.now state s.input.hasBufferedTranscript
  | endpointTimer => exact fires _ rfl rfl
  | durationTimer => exact fires _ rfl rfl
  | transcriptsEnd aborted => cases aborted <;> exact ⟨rfl, rfl⟩
  | clockAdvances milliseconds => exact ⟨rfl, rfl⟩
  | endpoint => exact ⟨rfl, rfl⟩
  | flush => exact ⟨rfl, rfl⟩

theorem after_limits (endpointTimeoutMs maxDurationMs : Nat) (start : ℤ)
    (events : List TimedSttEvent) :
    (after endpointTimeoutMs maxDurationMs start events).input.timing.endpointTimeoutMs =
        endpointTimeoutMs ∧
      (after endpointTimeoutMs maxDurationMs start events).input.timing.maxDurationMs =
        maxDurationMs := by
  induction events using List.reverseRecOn with
  | nil => exact ⟨rfl, rfl⟩
  | append_singleton events last ih =>
    unfold after at ih ⊢
    rw [run_snoc, (step_limits _ last).1, (step_limits _ last).2]
    exact ih

end HeardInput

open HeardInput in
/-- While no final finds an endpoint time partly spent in a recovery, the active clock never goes back
and stands while the state is not healthy, and a timer flushes a transcript only after the endpoint
timeout since the last final, or the longest duration since the first one. -/
theorem syntheticEndpoints_silent (endpointTimeoutMs maxDurationMs : Nat) (start : ℤ)
    (events : List TimedSttEvent)
    (admitted : Admitted (fun s event => s.admits event ∧ s.Unspent event) step
      (new endpointTimeoutMs maxDurationMs start) events)
    (event : TimedSttEvent)
    (next : (after endpointTimeoutMs maxDurationMs start events).admits event) :
    let s := after endpointTimeoutMs maxDurationMs start events
    s.input.activeNow ≤ (s.step event).input.activeNow ∧
      (s.input.timing.state ≠ .healthy → (s.step event).input.activeNow = s.input.activeNow) ∧
      ∀ transcript, s.input.flushedByTimer event = some transcript →
        s.lastFinalActiveMs + endpointTimeoutMs ≤ s.input.activeNow ∨
          s.firstFinalActiveMs + maxDurationMs ≤ s.input.activeNow := by
  have silent := silent_after admitted
  obtain ⟨timeout, limit⟩ := after_limits endpointTimeoutMs maxDurationMs start events
  obtain ⟨-, more, still⟩ := silent.step next
  refine ⟨more, still, fun transcript flushed => ?_⟩
  have far := silent.flushed next flushed
  rwa [timeout, limit] at far

/-- A final, a recovery during the silence after it, and the rest of that silence. -/
def resumedSilence : List TimedSttEvent :=
  [.final (utf16 "a"), .clockAdvances 400, .setRecoveryState .recovering, .clockAdvances 1000,
    .setRecoveryState .healthy, .clockAdvances 100]

theorem syntheticEndpoints_silent_resumed :
    let s := HeardInput.after 500 10000 0 resumedSilence
    s.lastFinalActiveMs + 500 ≤ s.input.activeNow ∨
      s.firstFinalActiveMs + 10000 ≤ s.input.activeNow :=
  (syntheticEndpoints_silent 500 10000 0 resumedSilence (by decide +kernel) .endpointTimer
    (by decide +kernel)).2.2 (utf16 "a") (by decide +kernel)

/-- A final that comes during probation, 400 ms into the silence after an earlier one: the timer fires
100 ms of active time later. -/
theorem spentEndpoint_flushesEarly :
    let s := HeardInput.after 500 10000 0
      [.final (utf16 "a"), .clockAdvances 400, .setRecoveryState .probationary,
        .final (utf16 "b"), .setRecoveryState .healthy, .clockAdvances 100]
    Admitted HeardInput.admits HeardInput.step (.new 500 10000 0)
      [.final (utf16 "a"), .clockAdvances 400, .setRecoveryState .probationary,
        .final (utf16 "b"), .setRecoveryState .healthy, .clockAdvances 100, .endpointTimer] ∧
      s.input.flushedByTimer .endpointTimer = some (utf16 "a b") ∧
      s.input.activeNow = s.lastFinalActiveMs + 100 ∧
      s.input.activeNow = s.firstFinalActiveMs + 500 := by
  decide +kernel

end Tvic
