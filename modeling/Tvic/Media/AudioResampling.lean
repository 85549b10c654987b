import Tvic.Media.AudioNormalizer

/-!
# Resampling a stream and resampling the whole signal

`resampled` is the sample a resampler that had all the input at once would give. `Streams` says that a
resampler has emitted just these so far, and that its window still holds whatever a later output can
read; `push`, `produce` and `trim` keep it.
-/
namespace Tvic

variable {F : Type} [SampleArithmetic F]

open SampleArithmetic

namespace StreamingFirResampler

/-! ## The filter reads only around its centre -/

theorem filterLoop_congr {read other : Int → F} {center : Int} (filter : List F) (index : Nat)
    (agree : ∀ i < filter.length, read (center + ((index + i : Nat) - filterHalfWidth + 1)) =
      other (center + ((index + i : Nat) - filterHalfWidth + 1))) (sums : F × F) :
    filterLoop read center index filter sums = filterLoop other center index filter sums := by
  induction filter generalizing index sums with
  | nil => rfl
  | cons weight rest ih =>
    have here := agree 0 (Nat.succ_pos rest.length)
    have later : ∀ i < rest.length,
        read (center + ((index + 1 + i : Nat) - filterHalfWidth + 1)) =
          other (center + ((index + 1 + i : Nat) - filterHalfWidth + 1)) := by
      intro i bound
      have next := agree (i + 1) (Nat.succ_lt_succ bound)
      rwa [show index + (i + 1) = index + 1 + i by omega] at next
    rw [Nat.add_zero] at here
    simp only [filterLoop, here]
    split
    · exact ih (index + 1) later sums
    · exact ih (index + 1) later _

theorem filterSample_congr {read other : Int → F} {center : Int} {filter : List F}
    (short : filter.length ≤ 2 * filterHalfWidth)
    (agree : ∀ index, center - filterHalfWidth + 1 ≤ index → index ≤ center + filterHalfWidth →
      read index = other index) :
    filterSample read filter center = filterSample other filter center := by
  have around : ∀ i < filter.length, read (center + ((0 + i : Nat) - filterHalfWidth + 1)) =
      other (center + ((0 + i : Nat) - filterHalfWidth + 1)) := by
    intro i bound
    simp only [filterHalfWidth] at short agree ⊢
    exact agree _ (by omega) (by omega)
  have atCenter : read center = other center :=
    agree center (by simp only [filterHalfWidth]; omega) (by simp only [filterHalfWidth]; omega)
  rw [filterSample, filterSample, filterLoop_congr filter 0 around, atCenter]

theorem filterAt_length (resampler : StreamingFirResampler F) (position : Rat) :
    (resampler.filterAt position).length ≤ 2 * filterHalfWidth := by
  -- every filter of a phase has one weight for each sample of the span
  have rows : ∀ filter ∈ resampler.filters, filter.length ≤ 2 * filterHalfWidth := by
    intro filter member
    obtain ⟨phase, _, rfl⟩ := List.mem_map.mp member
    rw [List.length_map, List.length_range, Nat.mul_comm]
  rw [filterAt]
  cases found : resampler.filters[(mathRound ((position - ⌊position⌋) * resampler.phaseCount) %
      (resampler.phaseCount : Int)).toNat]? with
  | some filter => exact rows filter (List.mem_of_getElem? found)
  | none =>
    cases first : resampler.filters[0]? with
    | some filter => exact rows filter (List.mem_of_getElem? first)
    | none => exact Nat.zero_le _

/-! ## The whole signal -/

/-- A signal beyond its ends goes on with its first and its last sample. -/
def wholeRead (signal : List F) (index : Int) : F :=
  signal.getD (boundedIndex signal.length index) (ofInt 0)

def resampled (inputRateHz outputRateHz : SampleRateHz) (signal : List F) (outputIndex : Nat) : F :=
  let resampler : StreamingFirResampler F := { inputRateHz, outputRateHz }
  filterSample (wholeRead signal) (resampler.filterAt (resampler.position outputIndex))
    ⌊resampler.position outputIndex⌋

omit [SampleArithmetic F] in
theorem boundedIndex_lt {total : Nat} (some : 0 < total) (index : Int) :
    boundedIndex total index < total := by
  simp only [boundedIndex]
  omega

omit [SampleArithmetic F] in
theorem position_nonneg (resampler : StreamingFirResampler F) (outputIndex : Nat) :
    0 ≤ resampler.position outputIndex := by
  rw [position]
  positivity

theorem resampled_append (resampler : StreamingFirResampler F) (signal later : List F)
    {outputIndex : Nat} (ahead : resampler.position outputIndex + filterHalfWidth < signal.length) :
    resampled resampler.inputRateHz resampler.outputRateHz (signal ++ later) outputIndex =
      resampled resampler.inputRateHz resampler.outputRateHz signal outputIndex := by
  have start := resampler.position_nonneg outputIndex
  have some : 0 < signal.length := by
    have positive : (0 : Rat) < signal.length := by
      have half : (0 : Rat) ≤ filterHalfWidth := Nat.cast_nonneg _
      linarith
    exact_mod_cast positive
  apply filterSample_congr (filterAt_length _ _)
  intro index _ near
  have before : index < signal.length := by
    have floored := Int.floor_le (resampler.position outputIndex)
    have cast : (index : Rat) ≤ ⌊resampler.position outputIndex⌋ + filterHalfWidth := by
      exact_mod_cast near
    have strict : (index : Rat) < signal.length := by linarith
    exact_mod_cast strict
  have same : boundedIndex (signal ++ later).length index = boundedIndex signal.length index := by
    simp only [boundedIndex, List.length_append]
    omega
  have within := boundedIndex_lt some index
  rw [wholeRead, wholeRead, same, List.getD_eq_getElem?_getD, List.getD_eq_getElem?_getD,
    List.getElem?_append_left within]

/-! ## The window -/

/-- A resampler that has been given a signal and has emitted the first samples of its resampling. -/
structure Streams (resampler : StreamingFirResampler F) (signal outputs : List F) : Prop where
  total : resampler.totalInputFrames = signal.length
  window : resampler.samples = signal.drop resampler.bufferStartIndex
  start : resampler.bufferStartIndex = 0 ∨
    (resampler.bufferStartIndex : Int) + filterHalfWidth + 2 ≤
      ⌊resampler.position resampler.nextOutputIndex⌋
  ahead : ∀ outputIndex < resampler.nextOutputIndex, resampler.continues false outputIndex = true
  outputs_eq : outputs = (List.range resampler.nextOutputIndex).map
    (resampled resampler.inputRateHz resampler.outputRateHz signal)

omit [SampleArithmetic F] in
theorem position_mono (resampler : StreamingFirResampler F) {first second : Nat}
    (le : first ≤ second) : resampler.position first ≤ resampler.position second := by
  have cast : (first : Rat) ≤ second := by exact_mod_cast le
  rw [position, position]
  gcongr

omit [SampleArithmetic F] in
theorem position_succ (resampler : StreamingFirResampler F) (outputIndex : Nat) :
    resampler.position (outputIndex + 1) ≤ resampler.position outputIndex + 6 := by
  have low := (sampleRateHz_range resampler.outputRateHz).1
  have high := (sampleRateHz_range resampler.inputRateHz).2
  have positive : (0 : Rat) < resampler.outputRateHz.val := by
    exact_mod_cast Nat.lt_of_lt_of_le (by decide) low
  have ratio : (resampler.inputRateHz.val : Rat) / resampler.outputRateHz.val ≤ 6 := by
    rw [div_le_iff₀ positive]
    exact_mod_cast (by omega : resampler.inputRateHz.val ≤ 6 * resampler.outputRateHz.val)
  have next : resampler.position (outputIndex + 1) =
      resampler.position outputIndex + resampler.inputRateHz.val / resampler.outputRateHz.val := by
    rw [position, position]
    push_cast
    ring
  linarith

/-- Every sample the filter spans at an output sample is in the window. -/
def Spans (resampler : StreamingFirResampler F) (outputIndex : Nat) : Prop :=
  ∀ index : Int, ⌊resampler.position outputIndex⌋ - filterHalfWidth + 1 ≤ index →
    index ≤ ⌊resampler.position outputIndex⌋ + filterHalfWidth →
    resampler.bufferStartIndex ≤ boundedIndex resampler.totalInputFrames index ∧
      boundedIndex resampler.totalInputFrames index <
        resampler.bufferStartIndex + resampler.samples.length

variable {resampler : StreamingFirResampler F} {signal outputs : List F}

theorem Streams.start_lt (streams : resampler.Streams signal outputs) (some : 0 < signal.length) :
    resampler.bufferStartIndex < signal.length := by
  rcases streams.start with zero | kept
  · omega
  · -- the last output sample emitted lies half a filter before the end
    cases next : resampler.nextOutputIndex with
    | zero =>
      have floored := Int.floor_le (resampler.position resampler.nextOutputIndex)
      rw [next, position, Nat.cast_zero, zero_mul, zero_div, Int.floor_zero] at kept
      simp only [filterHalfWidth] at kept
      omega
    | succ last =>
      have reach := streams.ahead last (next ▸ Nat.lt_succ_self last)
      simp only [continues, Bool.false_eq_true, if_false, decide_eq_true_eq, streams.total] at reach
      have step := resampler.position_succ last
      have floored := Int.floor_le (resampler.position resampler.nextOutputIndex)
      rw [next] at floored kept
      have cast : (resampler.bufferStartIndex : Rat) + filterHalfWidth + 2 ≤
          ⌊resampler.position (last + 1)⌋ := by exact_mod_cast kept
      have half : (filterHalfWidth : Rat) = 16 := rfl
      have strict : (resampler.bufferStartIndex : Rat) < signal.length := by linarith
      exact_mod_cast strict

theorem Streams.spans (streams : resampler.Streams signal outputs) (some : 0 < signal.length)
    {outputIndex : Nat} (later : resampler.nextOutputIndex ≤ outputIndex) :
    resampler.Spans outputIndex := by
  intro index low _
  have start := streams.start_lt some
  have bounded := boundedIndex_lt some index
  have kept : (resampler.bufferStartIndex : Int) ≤ index ∨ resampler.bufferStartIndex = 0 := by
    rcases streams.start with zero | kept
    · exact .inr zero
    · have mono := Int.floor_le_floor (resampler.position_mono later)
      exact .inl (by omega)
  have size : resampler.samples.length = signal.length - resampler.bufferStartIndex := by
    rw [streams.window, List.length_drop]
  rw [streams.total, size]
  refine ⟨?_, by omega⟩
  rcases kept with kept | zero
  · simp only [boundedIndex]
    omega
  · omega

theorem Streams.read (streams : resampler.Streams signal outputs) (some : 0 < signal.length)
    {index : Int} (kept : resampler.bufferStartIndex ≤ boundedIndex resampler.totalInputFrames index) :
    resampler.read index = wholeRead signal index := by
  have bounded := boundedIndex_lt some index
  rw [streams.total] at kept
  have found : signal[boundedIndex signal.length index]? =
      Option.some signal[boundedIndex signal.length index] := List.getElem?_eq_getElem bounded
  rw [StreamingFirResampler.read, streams.total, if_neg (Nat.ne_of_gt some)]
  dsimp only
  rw [if_neg (by omega), streams.window, List.getElem?_drop, wholeRead, List.getD_eq_getElem?_getD,
    show resampler.bufferStartIndex + (boundedIndex signal.length index - resampler.bufferStartIndex) =
      boundedIndex signal.length index by omega, found]
  rfl

theorem Streams.sampleAt (streams : resampler.Streams signal outputs) (some : 0 < signal.length)
    {outputIndex : Nat} (later : resampler.nextOutputIndex ≤ outputIndex) :
    resampler.sampleAt (resampler.position outputIndex) =
      resampled resampler.inputRateHz resampler.outputRateHz signal outputIndex := by
  apply filterSample_congr (filterAt_length _ _)
  intro index low high
  exact streams.read some (streams.spans some later index low high).1

/-! ## The operations keep the window -/

theorem Streams.new (inputRateHz outputRateHz : SampleRateHz) :
    ({ inputRateHz, outputRateHz } : StreamingFirResampler F).Streams [] [] := by
  constructor
  · rfl
  · rfl
  · exact .inl rfl
  · intro outputIndex before
    exact absurd before (Nat.not_lt_zero outputIndex)
  · rfl

omit [SampleArithmetic F] in
theorem continues_push {outputIndex : Nat} (samples : List F)
    (goesOn : resampler.continues false outputIndex = true) :
    (resampler.push samples).continues false outputIndex = true := by
  rw [continues_false] at goesOn ⊢
  have more : resampler.totalInputFrames * resampler.outputRateHz.val ≤
      (resampler.totalInputFrames + samples.length) * resampler.outputRateHz.val :=
    Nat.mul_le_mul_right _ (Nat.le_add_right _ _)
  exact Nat.lt_of_lt_of_le goesOn more

theorem Streams.next_zero (streams : resampler.Streams signal outputs) (none : signal.length = 0) :
    resampler.nextOutputIndex = 0 := by
  by_contra later
  have reach := continues_false.mp (streams.ahead 0 (Nat.pos_of_ne_zero later))
  rw [streams.total, none] at reach
  omega

theorem Streams.push (streams : resampler.Streams signal outputs) (samples : List F) :
    (resampler.push samples).Streams (signal ++ samples) outputs := by
  have start : resampler.bufferStartIndex ≤ signal.length := by
    by_cases some : 0 < signal.length
    · exact Nat.le_of_lt (streams.start_lt some)
    · rcases streams.start with zero | kept
      · omega
      · have first := streams.next_zero (Nat.eq_zero_of_not_pos some)
        rw [first, position, Nat.cast_zero, zero_mul, zero_div, Int.floor_zero] at kept
        omega
  constructor
  · rw [List.length_append, ← streams.total]
    rfl
  · change resampler.samples ++ samples = (signal ++ samples).drop resampler.bufferStartIndex
    rw [List.drop_append_of_le_length start, ← streams.window]
  · exact streams.start
  · intro outputIndex before
    exact continues_push samples (streams.ahead outputIndex before)
  · rw [streams.outputs_eq]
    apply List.map_congr_left
    intro outputIndex member
    have reach := streams.ahead outputIndex (List.mem_range.mp member)
    simp only [continues, Bool.false_eq_true, if_false, decide_eq_true_eq, streams.total] at reach
    exact (resampler.resampled_append signal samples reach).symm

theorem produceLoop_spec (resampler : StreamingFirResampler F) (finalize : Bool) (outputIndex : Nat) :
    ∃ count,
      resampler.produceLoop finalize outputIndex =
        ((List.range count).map (fun k => resampler.sampleAt (resampler.position (outputIndex + k))),
          outputIndex + count) ∧
      (∀ k < count, resampler.continues finalize (outputIndex + k) = true) ∧
      resampler.continues finalize (outputIndex + count) = false := by
  fun_induction produceLoop resampler finalize outputIndex with
  | case1 outputIndex goesOn output next rest ih =>
    obtain ⟨count, loop, before, stop⟩ := ih
    rw [rest, Prod.mk.injEq] at loop
    refine ⟨count + 1, ?_, ?_, ?_⟩
    · rw [List.range_succ_eq_map, List.map_cons, List.map_map, loop.1, loop.2, Nat.add_zero]
      congr 1
      · congr 1
        apply List.map_congr_left
        intro k _
        rw [Function.comp_apply, Nat.succ_eq_add_one, Nat.add_assoc, Nat.add_comm 1 k]
      · omega
    · intro k bound
      cases k with
      | zero => exact goesOn
      | succ k =>
        have later := before k (Nat.lt_of_succ_lt_succ bound)
        rwa [Nat.add_assoc, Nat.add_comm 1 k] at later
    · rwa [Nat.add_assoc, Nat.add_comm 1 count] at stop
  | case2 outputIndex stops =>
    refine ⟨0, rfl, ?_, ?_⟩
    · intro k bound
      exact absurd bound (Nat.not_lt_zero k)
    · rwa [Bool.not_eq_true] at stops

theorem Streams.produceLoop (streams : resampler.Streams signal outputs) (some : 0 < signal.length)
    (finalize : Bool) :
    ∃ next,
      outputs ++ (resampler.produceLoop finalize resampler.nextOutputIndex).1 =
        (List.range next).map (resampled resampler.inputRateHz resampler.outputRateHz signal) ∧
      (resampler.produceLoop finalize resampler.nextOutputIndex).2 = next ∧
      resampler.nextOutputIndex ≤ next ∧
      (∀ outputIndex, resampler.nextOutputIndex ≤ outputIndex → outputIndex < next →
        resampler.continues finalize outputIndex = true) ∧
      resampler.continues finalize next = false := by
  obtain ⟨count, loop, before, stop⟩ :=
    resampler.produceLoop_spec finalize resampler.nextOutputIndex
  refine ⟨resampler.nextOutputIndex + count, ?_, ?_, Nat.le_add_right _ _, ?_, stop⟩
  · rw [loop, streams.outputs_eq, List.range_add, List.map_append, List.map_map]
    congr 1
    apply List.map_congr_left
    intro k _
    exact streams.sampleAt some (Nat.le_add_right _ k)
  · rw [loop]
  · intro outputIndex low high
    have within := before (outputIndex - resampler.nextOutputIndex) (by omega)
    rwa [Nat.add_sub_cancel' low] at within

theorem Streams.trim (streams : resampler.Streams signal outputs)
    (stopped : resampler.continues false resampler.nextOutputIndex = false) :
    (resampler.trim).Streams signal outputs := by
  -- the bound by the length of the input is never above the one by the next position
  have behind : (resampler.totalInputFrames : Int) - filterHalfWidth ≤
      ⌊resampler.position resampler.nextOutputIndex⌋ := by
    rw [Int.le_floor]
    simp only [continues, Bool.false_eq_true, if_false, decide_eq_false_iff_not, not_lt] at stopped
    push_cast
    linarith
  unfold StreamingFirResampler.trim
  extract_lets nextPosition keepFrom remove
  by_cases none : remove ≤ 0
  · rw [if_pos none]
    exact streams
  have kept : keepFrom = ⌊nextPosition⌋ - filterHalfWidth - 2 := by
    simp only [keepFrom, remove, nextPosition] at none ⊢
    omega
  have nat : (keepFrom.toNat : Int) = keepFrom := by
    simp only [remove] at none
    omega
  rw [if_neg none]
  constructor
  · exact streams.total
  · have target : resampler.bufferStartIndex + remove.toNat = keepFrom.toNat := by
      simp only [remove] at none ⊢
      omega
    change resampler.samples.drop (Min.min remove.toNat resampler.samples.length) =
      signal.drop keepFrom.toNat
    rw [← target, ← List.drop_drop, ← streams.window]
    rcases Nat.le_total remove.toNat resampler.samples.length with short | long
    · rw [Nat.min_eq_left short]
    · rw [Nat.min_eq_right long, List.drop_length, List.drop_eq_nil_of_le long]
  · right
    change (keepFrom.toNat : Int) + filterHalfWidth + 2 ≤ ⌊nextPosition⌋
    omega
  · exact streams.ahead
  · exact streams.outputs_eq

theorem produce_rates (resampler : StreamingFirResampler F) (finalize : Bool) :
    (resampler.produce finalize).2.inputRateHz = resampler.inputRateHz ∧
      (resampler.produce finalize).2.outputRateHz = resampler.outputRateHz := by
  unfold StreamingFirResampler.produce StreamingFirResampler.trim
  dsimp only
  split_ifs
  · exact ⟨rfl, rfl⟩
  · exact ⟨rfl, rfl⟩
  · exact ⟨rfl, rfl⟩

theorem Streams.produce (streams : resampler.Streams signal outputs) (some : 0 < signal.length) :
    (resampler.produce false).2.Streams signal (outputs ++ (resampler.produce false).1) := by
  obtain ⟨next, emitted, stop, later, goesOn, stopped⟩ := streams.produceLoop some false
  rw [StreamingFirResampler.produce, if_neg (by rw [streams.total]; omega)]
  dsimp only
  rw [stop]
  apply Streams.trim
  · constructor
    · exact streams.total
    · exact streams.window
    · rcases streams.start with zero | kept
      · exact .inl zero
      · exact .inr (kept.trans (Int.floor_le_floor (resampler.position_mono later)))
    · intro outputIndex before
      by_cases early : outputIndex < resampler.nextOutputIndex
      · exact streams.ahead outputIndex early
      · exact goesOn outputIndex (by omega) before
    · exact emitted
  · exact stopped

omit [SampleArithmetic F] in
theorem continues_finalize {outputIndex : Nat}
    (goesOn : resampler.continues false outputIndex = true) :
    resampler.continues true outputIndex = true := by
  have low := (sampleRateHz_range resampler.outputRateHz).1
  have high := (sampleRateHz_range resampler.inputRateHz).2
  rw [continues_false] at goesOn
  rw [continues_true]
  have twice : 2 * (outputIndex + 1) * resampler.inputRateHz.val =
      2 * (outputIndex * resampler.inputRateHz.val) + 2 * resampler.inputRateHz.val := by ring
  have product : 2 * resampler.totalInputFrames * resampler.outputRateHz.val =
      2 * (resampler.totalInputFrames * resampler.outputRateHz.val) := by ring
  simp only [filterHalfWidth] at goesOn
  omega

omit [SampleArithmetic F] in
theorem continues_total {finalize : Bool} {outputIndex : Nat}
    (goesOn : resampler.continues finalize outputIndex = true) : 0 < resampler.totalInputFrames := by
  have final : resampler.continues true outputIndex = true := by
    cases finalize with
    | false => exact continues_finalize goesOn
    | true => exact goesOn
  rw [continues_true] at final
  have positive := (sampleRateHz_range resampler.inputRateHz).1
  by_contra none
  rw [Nat.eq_zero_of_not_pos none] at final
  have scaled : 2 * 1 * resampler.inputRateHz.val ≤ 2 * (outputIndex + 1) * resampler.inputRateHz.val :=
    Nat.mul_le_mul_right _ (by omega)
  omega

theorem Streams.finalize (streams : resampler.Streams signal outputs) :
    ∃ count : Nat, (count : Int) = mathRound ((signal.length * resampler.outputRateHz.val : Rat) /
        resampler.inputRateHz.val) ∧
      outputs ++ (resampler.produce true).1 =
        (List.range count).map (resampled resampler.inputRateHz resampler.outputRateHz signal) := by
  rcases Nat.eq_zero_or_pos signal.length with none | some
  · refine ⟨0, ?_, ?_⟩
    · rw [none, mathRound]
      norm_num
    · rw [StreamingFirResampler.produce, if_pos (streams.total.trans none), streams.outputs_eq,
        streams.next_zero none]
      rfl
  · obtain ⟨next, emitted, _, later, goesOn, stopped⟩ := streams.produceLoop some true
    have target : ∀ outputIndex, resampler.continues true outputIndex = true ↔
        (outputIndex : Int) < mathRound ((signal.length * resampler.outputRateHz.val : Rat) /
          resampler.inputRateHz.val) := by
      intro outputIndex
      simp only [continues, if_true, decide_eq_true_eq, targetCount, streams.total]
    refine ⟨next, ?_, ?_⟩
    · apply le_antisymm
      · cases next with
        | zero =>
          rw [mathRound, Nat.cast_zero, Int.le_floor]
          push_cast
          positivity
        | succ last =>
          -- the sample before the end has been emitted, now or earlier
          have reached : resampler.continues true last = true := by
            by_cases early : last < resampler.nextOutputIndex
            · exact continues_finalize (streams.ahead last early)
            · exact goesOn last (by omega) (Nat.lt_succ_self last)
          have below := (target last).mp reached
          push_cast
          omega
      · have not_below := mt (target next).mpr (by rw [stopped]; exact Bool.false_ne_true)
        omega
    · rw [StreamingFirResampler.produce, if_neg (by rw [streams.total]; omega)]
      exact emitted

end StreamingFirResampler

end Tvic
