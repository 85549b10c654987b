import Mathlib.Algebra.GroupWithZero.Nat
import Mathlib.Algebra.Order.BigOperators.Group.List
import Mathlib.Data.List.TakeWhile
import Tvic.Lib.RingBuffer

/-!
# The rate window of web client audio

`WebClientAudioRateWindow` of `packages/providers/src/web-client-audio-rate-window.ts` keeps the samples
of two seconds in a ring buffer that grows, and answers as a limiter does that remembers every sample it
has accepted. The limits and the sizes are integers, as the options and the frames have them. The times
are of any ordered type; `now - 2000` may be rounded, as long as rounding keeps the order.
-/
namespace Tvic

open Lib

/-- Times, and what lies two seconds before each. -/
structure MonotonicTime (T : Type) [LinearOrder T] where
  zero : T
  /-- `now - INPUT_RATE_WINDOW_MS` -/
  windowStart : T → T
  monotone : Monotone windowStart

def inputRateWindowSeconds : Nat := 2

variable {T : Type}

structure WebClientAudioRateWindow (T : Type) where
  maxBytesPerSecond : Nat
  maxFramesPerSecond : Nat
  sampleTimes : List T
  sampleByteCounts : List Nat
  head : Nat
  count : Nat
  bytesInWindow : Int

namespace WebClientAudioRateWindow

def create (maxBytesPerSecond maxFramesPerSecond : Nat) : WebClientAudioRateWindow T where
  maxBytesPerSecond
  maxFramesPerSecond
  sampleTimes := []
  sampleByteCounts := []
  head := 0
  count := 0
  bytesInWindow := 0

variable [LinearOrder T]

def expireLoop (cutoff : T) : Nat → WebClientAudioRateWindow T → WebClientAudioRateWindow T
  | 0, window => window
  | count + 1, window =>
    match window.sampleTimes[window.head]? with
    | none => window
    | some oldestAt =>
      if oldestAt ≤ cutoff then
        expireLoop cutoff count
          { window with
            bytesInWindow := window.bytesInWindow - window.sampleByteCounts.getD window.head 0
            head := ringNext window.sampleTimes.length window.head
            count }
      else window

def expire (cutoff : T) (window : WebClientAudioRateWindow T) : WebClientAudioRateWindow T :=
  let expired := expireLoop cutoff window.count window
  if expired.count = 0 then { expired with head := 0, bytesInWindow := 0 } else expired

variable (clock : MonotonicTime T)

/-- The arrays of `#append`: the samples first, then zeros. -/
def grow (window : WebClientAudioRateWindow T) : WebClientAudioRateWindow T :=
  let capacity := max 8 (window.sampleTimes.length * 2)
  { window with
    sampleTimes := ring clock.zero window.sampleTimes window.head window.count ++
      List.replicate (capacity - window.count) clock.zero
    sampleByteCounts := ring 0 window.sampleByteCounts window.head window.count ++
      List.replicate (capacity - window.count) 0
    head := 0 }

def append (time : T) (bytes : Nat) (window : WebClientAudioRateWindow T) :
    WebClientAudioRateWindow T :=
  let roomy := if window.count = window.sampleTimes.length then window.grow clock else window
  let index := ringIndex roomy.sampleTimes.length roomy.head roomy.count
  { roomy with
    sampleTimes := roomy.sampleTimes.set index time
    sampleByteCounts := roomy.sampleByteCounts.set index bytes
    count := roomy.count + 1
    bytesInWindow := roomy.bytesInWindow + bytes }

def accept (bytes : Nat) (now : T) (window : WebClientAudioRateWindow T) :
    Bool × WebClientAudioRateWindow T :=
  let maxBytesInWindow := window.maxBytesPerSecond * inputRateWindowSeconds
  let maxFramesInWindow := window.maxFramesPerSecond * inputRateWindowSeconds
  let expired := window.expire (clock.windowStart now)
  if expired.bytesInWindow + bytes ≤ maxBytesInWindow ∧ expired.count + 1 ≤ maxFramesInWindow then
    (true, expired.append clock now bytes)
  else (false, expired)

def answers : List (Nat × T) → WebClientAudioRateWindow T → List Bool
  | [], _ => []
  | (bytes, now) :: calls, window =>
    (window.accept clock bytes now).1 :: answers calls (window.accept clock bytes now).2

end WebClientAudioRateWindow

/-! ## The limiter -/

variable [LinearOrder T] (clock : MonotonicTime T)

/-- The samples that count, of those with these times and sizes. -/
def samplesInWindow (accepted : List (T × Nat)) (now : T) : List (T × Nat) :=
  accepted.filter fun sample => clock.windowStart now < sample.1

/-- Whether one more sample stays within the limits. -/
def WithinRate (maxBytesPerSecond maxFramesPerSecond : Nat) (accepted : List (T × Nat)) (bytes : Nat)
    (now : T) : Prop :=
  ((samplesInWindow clock accepted now).map (·.2)).sum + bytes ≤
      maxBytesPerSecond * inputRateWindowSeconds ∧
    (samplesInWindow clock accepted now).length + 1 ≤ maxFramesPerSecond * inputRateWindowSeconds

instance (maxBytesPerSecond maxFramesPerSecond : Nat) (accepted : List (T × Nat)) (bytes : Nat)
    (now : T) : Decidable (WithinRate clock maxBytesPerSecond maxFramesPerSecond accepted bytes now) :=
  inferInstanceAs (Decidable (_ ∧ _))

/-- The answers of the limiter that keeps all samples it has accepted. -/
def limiterAnswers (maxBytesPerSecond maxFramesPerSecond : Nat) :
    List (Nat × T) → List (T × Nat) → List Bool
  | [], _ => []
  | (bytes, now) :: calls, accepted =>
    if WithinRate clock maxBytesPerSecond maxFramesPerSecond accepted bytes now then
      true :: limiterAnswers maxBytesPerSecond maxFramesPerSecond calls (accepted ++ [(now, bytes)])
    else false :: limiterAnswers maxBytesPerSecond maxFramesPerSecond calls accepted

variable {samples : List (T × Nat)}

theorem dropWhile_eq_samplesInWindow {clock : MonotonicTime T}
    (sorted : samples.Pairwise fun earlier later => earlier.1 ≤ later.1) {now : T} :
    (samples.dropWhile fun sample => sample.1 ≤ clock.windowStart now) =
      samplesInWindow clock samples now := by
  induction samples with
  | nil => rfl
  | cons sample samples ih =>
    obtain ⟨first, sorted⟩ := List.pairwise_cons.mp sorted
    by_cases old : sample.1 ≤ clock.windowStart now
    · rw [List.dropWhile_cons_of_pos (by simpa using old), ih sorted]
      unfold samplesInWindow
      rw [List.filter_cons_of_neg (by simpa using old)]
    · rw [List.dropWhile_cons_of_neg (by simpa using old)]
      have all : ∀ later ∈ sample :: samples, clock.windowStart now < later.1 := by
        intro later member
        rcases List.mem_cons.mp member with same | member
        · exact same ▸ not_le.mp old
        · exact (not_le.mp old).trans_le (first later member)
      exact (List.filter_eq_self.mpr fun later member => by simpa using all later member).symm

theorem samplesInWindow_suffix {clock : MonotonicTime T}
    (sorted : samples.Pairwise fun earlier later => earlier.1 ≤ later.1) (now : T) :
    ∃ gone, samples = gone ++ samplesInWindow clock samples now ∧
      ∀ sample ∈ gone, sample.1 ≤ clock.windowStart now := by
  refine ⟨samples.takeWhile fun sample => sample.1 ≤ clock.windowStart now, ?_, ?_⟩
  · rw [← dropWhile_eq_samplesInWindow sorted, List.takeWhile_append_dropWhile]
  · intro sample member
    simpa using List.mem_takeWhile_imp member

/-! ## What the buffer holds -/

namespace WebClientAudioRateWindow

variable {clock}

/-- The samples of the window, oldest first. -/
structure Holds (clock : MonotonicTime T) (samples : List (T × Nat))
    (window : WebClientAudioRateWindow T) : Prop where
  times : ring clock.zero window.sampleTimes window.head window.count = samples.map (·.1)
  sizes : ring 0 window.sampleByteCounts window.head window.count = samples.map (·.2)
  lengths : window.sampleByteCounts.length = window.sampleTimes.length
  fits : window.count ≤ window.sampleTimes.length
  inside : window.sampleTimes ≠ [] → window.head < window.sampleTimes.length
  bytes : window.bytesInWindow = ((samples.map (·.2)).sum : Nat)

variable {window : WebClientAudioRateWindow T}

theorem Holds.count (holds : Holds clock samples window) : window.count = samples.length := by
  have lengths := congrArg List.length holds.times
  simpa using lengths

variable (clock) in
theorem holds_create (maxBytesPerSecond maxFramesPerSecond : Nat) :
    Holds clock [] (create maxBytesPerSecond maxFramesPerSecond) where
  times := rfl
  sizes := rfl
  lengths := rfl
  fits := Nat.le_refl 0
  inside := fun cells => (cells rfl).elim
  bytes := rfl

theorem Holds.expireLoop (holds : Holds clock samples window) (cutoff : T) :
    Holds clock (samples.dropWhile fun sample => sample.1 ≤ cutoff)
      (expireLoop cutoff window.count window) := by
  induction samples generalizing window with
  | nil =>
    have none : window.count = 0 := holds.count
    rw [none]
    exact holds
  | cons sample samples ih =>
    have count : window.count = samples.length + 1 := holds.count
    have fits := holds.fits
    have inside : window.head < window.sampleTimes.length := by
      refine holds.inside fun none => ?_
      rw [none, List.length_nil] at fits
      omega
    have times := holds.times
    have sizes := holds.sizes
    rw [count, ring_succ _ inside (by omega)] at times
    rw [count, ring_succ _ (holds.lengths ▸ inside) (by rw [holds.lengths]; omega)] at sizes
    obtain ⟨oldest, times⟩ := List.cons.inj times
    obtain ⟨size, sizes⟩ := List.cons.inj sizes
    rw [List.getD_eq_getElem?_getD, List.getElem?_eq_getElem inside] at oldest
    rw [count]
    unfold WebClientAudioRateWindow.expireLoop
    rw [List.getElem?_eq_getElem inside]
    dsimp only at oldest ⊢
    rw [show window.sampleTimes[window.head] = sample.1 from oldest]
    by_cases old : sample.1 ≤ cutoff
    · rw [if_pos old, List.dropWhile_cons_of_pos (by simpa using old)]
      have next : Holds clock samples
          { window with
            bytesInWindow := window.bytesInWindow - window.sampleByteCounts.getD window.head 0
            head := ringNext window.sampleTimes.length window.head
            count := samples.length } := by
        refine ⟨times, ?_, holds.lengths, ?_, fun _ => ringNext_lt inside, ?_⟩
        · rwa [holds.lengths] at sizes
        · show samples.length ≤ window.sampleTimes.length
          omega
        · show window.bytesInWindow - window.sampleByteCounts.getD window.head 0 = _
          rw [size, holds.bytes, List.map_cons, List.sum_cons]
          dsimp only
          omega
      exact ih next
    · rw [if_neg old, List.dropWhile_cons_of_neg (by simpa using old)]
      exact holds

theorem Holds.expire (holds : Holds clock samples window) (cutoff : T) :
    Holds clock (samples.dropWhile fun sample => sample.1 ≤ cutoff) (window.expire cutoff) := by
  have expired := holds.expireLoop cutoff
  unfold WebClientAudioRateWindow.expire
  dsimp only
  split
  next none =>
    have empty : (samples.dropWhile fun sample => sample.1 ≤ cutoff) = [] :=
      List.length_eq_zero_iff.mp (expired.count.symm.trans none)
    rw [empty] at expired ⊢
    refine ⟨?_, ?_, expired.lengths, expired.fits, fun cells => ?_, rfl⟩
    · show ring _ _ 0 (WebClientAudioRateWindow.expireLoop cutoff window.count window).count = _
      rw [none]
      rfl
    · show ring _ _ 0 (WebClientAudioRateWindow.expireLoop cutoff window.count window).count = _
      rw [none]
      rfl
    · exact List.length_pos_of_ne_nil cells
  · exact expired

theorem Holds.grow (holds : Holds clock samples window) :
    Holds clock samples (window.grow clock) ∧
      (window.grow clock).count < (window.grow clock).sampleTimes.length := by
  have fits := holds.fits
  have count : (ring clock.zero window.sampleTimes window.head window.count).length = window.count :=
    length_ring ..
  have count' : (ring 0 window.sampleByteCounts window.head window.count).length = window.count :=
    length_ring ..
  have longer : (window.grow clock).sampleTimes.length = max 8 (window.sampleTimes.length * 2) := by
    simp only [WebClientAudioRateWindow.grow, List.length_append, length_ring, List.length_replicate]
    omega
  refine ⟨⟨?_, ?_, ?_, ?_, fun _ => ?_, holds.bytes⟩, ?_⟩
  · have moved := ring_moved clock.zero (ring clock.zero window.sampleTimes window.head window.count)
      (List.replicate (max 8 (window.sampleTimes.length * 2) - window.count) clock.zero)
    rw [count] at moved
    exact moved.trans holds.times
  · have moved := ring_moved 0 (ring 0 window.sampleByteCounts window.head window.count)
      (List.replicate (max 8 (window.sampleTimes.length * 2) - window.count) 0)
    rw [count'] at moved
    exact moved.trans holds.sizes
  · simp [WebClientAudioRateWindow.grow]
  · rw [longer]
    show window.count ≤ _
    omega
  · rw [longer]
    show 0 < _
    omega
  · rw [longer]
    show window.count < _
    omega

theorem Holds.append (holds : Holds clock samples window) (time : T) (bytes : Nat) :
    Holds clock (samples ++ [(time, bytes)]) (window.append clock time bytes) := by
  have roomy : ∀ roomy : WebClientAudioRateWindow T, Holds clock samples roomy →
      roomy.count < roomy.sampleTimes.length →
      Holds clock (samples ++ [(time, bytes)])
        { roomy with
          sampleTimes := roomy.sampleTimes.set
            (ringIndex roomy.sampleTimes.length roomy.head roomy.count) time
          sampleByteCounts := roomy.sampleByteCounts.set
            (ringIndex roomy.sampleTimes.length roomy.head roomy.count) bytes
          count := roomy.count + 1
          bytesInWindow := roomy.bytesInWindow + bytes } := by
    intro roomy holds room
    have inside : roomy.head < roomy.sampleTimes.length := by
      refine holds.inside fun none => ?_
      rw [none] at room
      cases room
    refine ⟨?_, ?_, by simpa using holds.lengths, ?_, fun _ => by simpa using inside, ?_⟩
    · show ring clock.zero (roomy.sampleTimes.set _ time) roomy.head (roomy.count + 1) = _
      rw [ring_append _ inside room, holds.times]
      simp
    · show ring 0 (roomy.sampleByteCounts.set _ bytes) roomy.head (roomy.count + 1) = _
      rw [← holds.lengths, ring_append _ (holds.lengths ▸ inside) (holds.lengths ▸ room), holds.sizes]
      simp
    · show roomy.count + 1 ≤ (roomy.sampleTimes.set _ time).length
      rw [List.length_set]
      exact room
    · show roomy.bytesInWindow + bytes = _
      rw [holds.bytes]
      simp
  unfold WebClientAudioRateWindow.append
  dsimp only
  split
  · exact roomy _ holds.grow.1 holds.grow.2
  next room => exact roomy window holds (Nat.lt_of_le_of_ne holds.fits room)

@[simp] theorem expireLoop_limits (cutoff : T) (count : Nat) (window : WebClientAudioRateWindow T) :
    (WebClientAudioRateWindow.expireLoop cutoff count window).maxBytesPerSecond =
        window.maxBytesPerSecond ∧
      (WebClientAudioRateWindow.expireLoop cutoff count window).maxFramesPerSecond =
        window.maxFramesPerSecond := by
  induction count generalizing window with
  | zero => exact ⟨rfl, rfl⟩
  | succ count ih =>
    unfold WebClientAudioRateWindow.expireLoop
    split
    · exact ⟨rfl, rfl⟩
    · split
      · exact ih _
      · exact ⟨rfl, rfl⟩

theorem expire_limits (cutoff : T) (window : WebClientAudioRateWindow T) :
    (window.expire cutoff).maxBytesPerSecond = window.maxBytesPerSecond ∧
      (window.expire cutoff).maxFramesPerSecond = window.maxFramesPerSecond := by
  unfold WebClientAudioRateWindow.expire
  dsimp only
  split <;> simp

variable (clock) in
theorem append_limits (time : T) (bytes : Nat) (window : WebClientAudioRateWindow T) :
    (window.append clock time bytes).maxBytesPerSecond = window.maxBytesPerSecond ∧
      (window.append clock time bytes).maxFramesPerSecond = window.maxFramesPerSecond := by
  unfold WebClientAudioRateWindow.append
  dsimp only
  split <;> exact ⟨rfl, rfl⟩

theorem Holds.accept (holds : Holds clock samples window)
    (sorted : samples.Pairwise fun earlier later => earlier.1 ≤ later.1) (bytes : Nat) (now : T) :
    if WithinRate clock window.maxBytesPerSecond window.maxFramesPerSecond samples bytes now then
      (window.accept clock bytes now).1 = true ∧
        Holds clock (samplesInWindow clock samples now ++ [(now, bytes)])
          (window.accept clock bytes now).2
    else
      (window.accept clock bytes now).1 = false ∧
        Holds clock (samplesInWindow clock samples now) (window.accept clock bytes now).2 := by
  have expired := holds.expire (clock.windowStart now)
  rw [dropWhile_eq_samplesInWindow sorted] at expired
  have same : WithinRate clock window.maxBytesPerSecond window.maxFramesPerSecond samples bytes now ↔
      (window.expire (clock.windowStart now)).bytesInWindow + bytes ≤
          (window.maxBytesPerSecond * inputRateWindowSeconds : Nat) ∧
        (window.expire (clock.windowStart now)).count + 1 ≤
          window.maxFramesPerSecond * inputRateWindowSeconds := by
    rw [expired.bytes, expired.count]
    unfold WithinRate
    omega
  unfold WebClientAudioRateWindow.accept
  dsimp only
  by_cases within : WithinRate clock window.maxBytesPerSecond window.maxFramesPerSecond samples bytes now
  · rw [if_pos within, if_pos (same.mp within)]
    exact ⟨rfl, expired.append now bytes⟩
  · rw [if_neg within, if_neg (mt same.mpr within)]
    exact ⟨rfl, expired⟩

variable (clock) in
theorem accept_limits (bytes : Nat) (now : T) (window : WebClientAudioRateWindow T) :
    (window.accept clock bytes now).2.maxBytesPerSecond = window.maxBytesPerSecond ∧
      (window.accept clock bytes now).2.maxFramesPerSecond = window.maxFramesPerSecond := by
  have expired := expire_limits (clock.windowStart now) window
  unfold WebClientAudioRateWindow.accept
  dsimp only
  split
  · have appended := append_limits clock now bytes (window.expire (clock.windowStart now))
    exact ⟨appended.1.trans expired.1, appended.2.trans expired.2⟩
  · exact expired

theorem Holds.answers {calls : List (Nat × T)} {dropped samples : List (T × Nat)}
    (holds : Holds clock samples window)
    (sorted : (samples.map (·.1) ++ calls.map (·.2)).Pairwise (· ≤ ·))
    (old : ∀ sample ∈ dropped, ∀ call ∈ calls, sample.1 ≤ clock.windowStart call.2) :
    window.answers clock calls =
      limiterAnswers clock window.maxBytesPerSecond window.maxFramesPerSecond calls
        (dropped ++ samples) := by
  induction calls generalizing dropped samples window with
  | nil => rfl
  | cons call calls ih =>
    obtain ⟨bytes, now⟩ := call
    obtain ⟨inOrder, upcoming, after⟩ := List.pairwise_append.mp sorted
    have accepted := holds.accept (List.pairwise_map.mp inOrder) bytes now
    have limits := accept_limits clock bytes now window
    -- The limiter's window does not see what was dropped, now or later.
    have unseen : samplesInWindow clock (dropped ++ samples) now =
        samplesInWindow clock samples now := by
      unfold samplesInWindow
      rw [List.filter_append, List.filter_eq_nil_iff.mpr, List.nil_append]
      intro sample member
      simpa using old sample member _ (List.mem_cons_self ..)
    have same : WithinRate clock window.maxBytesPerSecond window.maxFramesPerSecond
          (dropped ++ samples) bytes now ↔
        WithinRate clock window.maxBytesPerSecond window.maxFramesPerSecond samples bytes now := by
      unfold WithinRate
      rw [unseen]
    -- The new window leaves out what fell before this call's cutoff.
    obtain ⟨gone, parts, fallen⟩ := samplesInWindow_suffix (List.pairwise_map.mp inOrder) now
    have old' : ∀ sample ∈ dropped ++ gone, ∀ call ∈ calls,
        sample.1 ≤ clock.windowStart call.2 := by
      intro sample member call later
      rcases List.mem_append.mp member with before | before
      · exact old sample before call (List.mem_cons_of_mem _ later)
      · refine (fallen sample before).trans (clock.monotone ?_)
        exact (List.pairwise_cons.mp upcoming).1 _ (List.mem_map_of_mem later)
    have whole : dropped ++ gone ++ samplesInWindow clock samples now = dropped ++ samples := by
      rw [List.append_assoc, ← parts]
    unfold WebClientAudioRateWindow.answers limiterAnswers
    split at accepted
    next within =>
      rw [if_pos (same.mpr within), accepted.1, ih accepted.2 ?_ old', limits.1, limits.2,
        ← List.append_assoc, whole]
      · rw [List.map_append, List.append_assoc]
        refine sorted.sublist (List.Sublist.append ?_ (List.Sublist.refl _))
        exact ((List.filter_sublist).map _)
    next beyond =>
      rw [if_neg (mt same.mp beyond), accepted.1, ih accepted.2 ?_ old', limits.1, limits.2, whole]
      · refine sorted.sublist (List.Sublist.append ?_ (List.sublist_cons_self _ _))
        exact ((List.filter_sublist).map _)

variable (clock)

theorem answers_eq_limiterAnswers (maxBytesPerSecond maxFramesPerSecond : Nat)
    (calls : List (Nat × T)) (nondecreasing : (calls.map (·.2)).Pairwise (· ≤ ·)) :
    (create maxBytesPerSecond maxFramesPerSecond).answers clock calls =
      limiterAnswers clock maxBytesPerSecond maxFramesPerSecond calls [] := by
  have start := holds_create clock maxBytesPerSecond maxFramesPerSecond
  have none : ∀ sample ∈ ([] : List (T × Nat)), ∀ call ∈ calls,
      sample.1 ≤ clock.windowStart call.2 := nofun
  exact start.answers nondecreasing none

end WebClientAudioRateWindow

def millisecondClock : MonotonicTime Int where
  zero := 0
  windowStart now := now - 2000
  monotone := fun _ _ earlier => Int.sub_le_sub_right earlier 2000

/-- With two frames a second the fifth call is refused until the first four are old. -/
theorem answers_eq_limiterAnswers_fullWindow :
    let calls : List (Nat × Int) := [(3, 0), (3, 1), (3, 2), (3, 3), (3, 4), (3, 2003), (3, 2003)]
    ((WebClientAudioRateWindow.create 100 2).answers millisecondClock calls =
      limiterAnswers millisecondClock 100 2 calls []) ∧
    limiterAnswers millisecondClock 100 2 calls [] = [true, true, true, true, false, true, true] :=
  ⟨WebClientAudioRateWindow.answers_eq_limiterAnswers millisecondClock 100 2 _ (by decide), by decide⟩

end Tvic
