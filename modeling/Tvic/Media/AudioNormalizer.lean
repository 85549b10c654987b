import Mathlib.Data.Rat.Floor

/-!
# Audio normalization

`packages/media/src/audio-normalizer.ts`: PCM input is decoded to mono samples, resampled by a
streaming FIR filter over a window of the input, and encoded as 16-bit samples. Positions in the input
are exact rationals; the arithmetic of samples and filter weights is a parameter of which nothing is
assumed.
-/
namespace Tvic

abbrev Bytes := List UInt8

/-- The double arithmetic on samples and weights. `weight cutoff distance` is what `#kernel` computes
inside the window of the filter. -/
class SampleArithmetic (F : Type) where
  ofInt : Int → F
  add : F → F → F
  mul : F → F → F
  div : F → F → F
  min : F → F → F
  max : F → F → F
  isFinite : F → Bool
  isZero : F → Bool
  isNegative : F → Bool
  round : F → Int
  /-- `getFloat32` of four bytes, the least significant first. -/
  getFloat32 : Bytes → F
  weight : Rat → Rat → F

def mathRound (x : Rat) : Int := ⌊x + 1 / 2⌋

/-- A validation error, by its code and message. -/
structure AudioError where
  code : String
  message : String
  deriving DecidableEq, Repr

/-! ## Formats -/

def allowedSampleRates : List Nat := [8000, 16000, 22050, 24000, 44100, 48000]

abbrev SampleRateHz := { hz : Nat // hz ∈ allowedSampleRates }

theorem sampleRateHz_range (rate : SampleRateHz) : 8000 ≤ rate.val ∧ rate.val ≤ 48000 := by
  have allowed := rate.property
  simp only [allowedSampleRates, List.mem_cons, List.not_mem_nil, or_false] at allowed
  omega

inductive NormalizedAudioEncoding where
  | pcmS16le
  | pcmS16be
  | pcmF32le
  deriving DecidableEq, Repr

inductive ChannelLayout where
  | mono
  | stereo
  deriving DecidableEq, Repr

def ChannelLayout.count : ChannelLayout → Nat
  | .mono => 1
  | .stereo => 2

inductive ChannelPolicy where
  | average
  | left
  deriving DecidableEq, Repr

structure GivenAudioFormat where
  encoding : String
  sampleRateHz : Nat
  channels : Nat
  deriving DecidableEq, Repr

structure AudioFormat where
  encoding : NormalizedAudioEncoding
  sampleRateHz : SampleRateHz
  channels : ChannelLayout
  deriving DecidableEq

def sameAudioFormat (left right : AudioFormat) : Bool :=
  left.encoding = right.encoding ∧ left.sampleRateHz = right.sampleRateHz ∧
    left.channels = right.channels

def checkSampleRate (hz : Nat) (side : String) : Except AudioError SampleRateHz :=
  if allowed : hz ∈ allowedSampleRates then .ok ⟨hz, allowed⟩
  else .error ⟨"audio.normalization.sample_rate_unsupported",
    "Unsupported " ++ side ++ " sample rate " ++ toString hz ++ "Hz"⟩

def checkChannels (channels : Nat) (side : String) : Except AudioError ChannelLayout :=
  match channels with
  | 1 => .ok .mono
  | 2 => .ok .stereo
  | _ => .error ⟨"audio.normalization.channels_unsupported",
    "Unsupported " ++ side ++ " channel count " ++ toString channels⟩

def checkEncoding (encoding : String) (side : String) : Except AudioError NormalizedAudioEncoding :=
  if encoding = "pcm_s16le" then .ok .pcmS16le
  else if encoding = "pcm_s16be" then .ok .pcmS16be
  else if encoding = "pcm_f32le" then .ok .pcmF32le
  else .error ⟨"audio.normalization.input_encoding_unsupported",
    "Unsupported " ++ side ++ " encoding " ++ encoding⟩

def validateFormat (format : GivenAudioFormat) (side : String) : Except AudioError AudioFormat := do
  let sampleRateHz ← checkSampleRate format.sampleRateHz side
  let channels ← checkChannels format.channels side
  let encoding ← checkEncoding format.encoding side
  return { encoding, sampleRateHz, channels }

def validateOutputFormat (format : GivenAudioFormat) : Except AudioError AudioFormat := do
  let valid ← validateFormat format "output"
  if valid.encoding ≠ .pcmS16le ∨ valid.channels ≠ .mono then
    throw ⟨"audio.normalization.target_unsupported",
      "Audio normalizer output must be mono pcm_s16le"⟩
  return valid

/-! ## Decoding and encoding -/

section

variable {F : Type} [SampleArithmetic F]

open SampleArithmetic

def bytesPerSample : NormalizedAudioEncoding → Nat
  | .pcmF32le => 4
  | .pcmS16le | .pcmS16be => 2

def AudioFormat.bytesPerFrame (format : AudioFormat) : Nat :=
  bytesPerSample format.encoding * format.channels.count

def getInt16 (littleEndian : Bool) (bytes : Bytes) : Int :=
  let first : Nat := (bytes.getD 0 0).toNat
  let second : Nat := (bytes.getD 1 0).toNat
  let unsigned : Nat := if littleEndian then first + 256 * second else 256 * first + second
  if unsigned < 32768 then unsigned else unsigned - 65536

/-- The two bytes `setInt16` writes, the least significant first. -/
def setInt16 (integer : Int) : Bytes :=
  let unsigned := (integer % 65536).toNat
  [UInt8.ofNat (unsigned % 256), UInt8.ofNat (unsigned / 256)]

def readSample (encoding : NormalizedAudioEncoding) (bytes : Bytes) (offset : Nat) : F :=
  let slot := (bytes.drop offset).take (bytesPerSample encoding)
  match encoding with
  | .pcmF32le => getFloat32 slot
  | .pcmS16le => div (ofInt (getInt16 true slot)) (ofInt 32768)
  | .pcmS16be => div (ofInt (getInt16 false slot)) (ofInt 32768)

/-- The frame at an offset, as one sample; otherwise the channel that is not finite. -/
def decodeFrame (format : AudioFormat) (channelPolicy : ChannelPolicy) (bytes : Bytes)
    (offset : Nat) : Except Nat F := do
  let value ← (List.range format.channels.count).foldlM (fun value channel =>
    let sample : F := readSample format.encoding bytes (offset + channel * bytesPerSample format.encoding)
    if isFinite sample then
      let clamped := max (ofInt (-1)) (min (ofInt 1) sample)
      if channelPolicy = .left ∧ channel > 0 then .ok value else .ok (add value clamped)
    else .error channel) (ofInt 0)
  return if channelPolicy = .average then div value (ofInt format.channels.count) else value

def decode (format : AudioFormat) (channelPolicy : ChannelPolicy) (bytes : Bytes) :
    Except AudioError (List F) :=
  (List.range (bytes.length / format.bytesPerFrame)).mapM fun frame =>
    match decodeFrame format channelPolicy bytes (frame * format.bytesPerFrame) with
    | .ok value => .ok value
    | .error channel => .error ⟨"audio.normalization.float_non_finite",
      "Audio float sample at frame " ++ toString frame ++ ", channel " ++ toString channel ++
        " is not finite"⟩

def encodeSample (value : F) : Bytes :=
  let sample := max (ofInt (-1)) (min (ofInt 1) value)
  setInt16 (if isNegative sample then round (mul sample (ofInt 32768))
    else round (mul sample (ofInt 32767)))

def encode (samples : List F) : Bytes := samples.flatMap encodeSample

end

/-! ## The resampler -/

def filterHalfWidth : Nat := 16

def greatestCommonDivisor (left : Nat) : Nat → Nat
  | 0 => left
  | right + 1 => greatestCommonDivisor (right + 1) (left % (right + 1))
termination_by right => right
decreasing_by exact Nat.mod_lt left (Nat.succ_pos right)

/-- The window of the input from `bufferStartIndex` on; what lies before has been trimmed away. -/
structure StreamingFirResampler (F : Type) where
  inputRateHz : SampleRateHz
  outputRateHz : SampleRateHz
  samples : List F := []
  bufferStartIndex : Nat := 0
  totalInputFrames : Nat := 0
  nextOutputIndex : Nat := 0

namespace StreamingFirResampler

variable {F : Type} [SampleArithmetic F]

open SampleArithmetic

omit [SampleArithmetic F] in
def cutoff (resampler : StreamingFirResampler F) : Rat :=
  1 / 2 * Min.min 1 (resampler.outputRateHz.val / resampler.inputRateHz.val : Rat)

def phaseCount (resampler : StreamingFirResampler F) : Nat :=
  resampler.outputRateHz.val /
    greatestCommonDivisor resampler.inputRateHz.val resampler.outputRateHz.val

def kernel (cutoff distance : Rat) : F :=
  if (filterHalfWidth : Rat) ≤ |distance| then ofInt 0 else weight cutoff distance

/-- The filter of each phase, over the `2 * filterHalfWidth` samples around a position. -/
def filters (resampler : StreamingFirResampler F) : List (List F) :=
  (List.range resampler.phaseCount).map fun (phase : Nat) =>
    (List.range (filterHalfWidth * 2)).map fun (index : Nat) =>
      kernel resampler.cutoff
        ((index : Rat) - filterHalfWidth + 1 - (phase : Rat) / resampler.phaseCount)

/-- Where in the input an output sample lies. -/
def position (resampler : StreamingFirResampler F) (outputIndex : Nat) : Rat :=
  outputIndex * resampler.inputRateHz.val / resampler.outputRateHz.val

def push (resampler : StreamingFirResampler F) (samples : List F) : StreamingFirResampler F :=
  { resampler with
    samples := resampler.samples ++ samples
    totalInputFrames := resampler.totalInputFrames + samples.length }

/-- `Math.max(0, Math.min(totalInputFrames - 1, index))` -/
def boundedIndex (totalInputFrames : Nat) (index : Int) : Nat :=
  (Max.max 0 (Min.min ((totalInputFrames : Int) - 1) index)).toNat

def read (resampler : StreamingFirResampler F) (index : Int) : F :=
  if resampler.totalInputFrames = 0 then ofInt 0
  else
    let bounded := boundedIndex resampler.totalInputFrames index
    if bounded < resampler.bufferStartIndex then resampler.samples.head?.getD (ofInt 0)
    else
      (resampler.samples[bounded - resampler.bufferStartIndex]? <|>
        resampler.samples.getLast?).getD (ofInt 0)

/-- The loop of `#sampleAt` over the weights from `index` on: the weighted sum and the sum of the weights
that are not zero. -/
def filterLoop (read : Int → F) (center : Int) : Nat → List F → F × F → F × F
  | _, [], sums => sums
  | index, weight :: rest, (weighted, weightTotal) =>
    let offset : Int := index - filterHalfWidth + 1
    if isZero weight then filterLoop read center (index + 1) rest (weighted, weightTotal)
    else
      filterLoop read center (index + 1) rest
        (add weighted (mul (read (center + offset)) weight), add weightTotal weight)

def filterSample (read : Int → F) (filter : List F) (center : Int) : F :=
  let (weighted, weightTotal) := filterLoop read center 0 filter (ofInt 0, ofInt 0)
  if isZero weightTotal then read center else div weighted weightTotal

def filterAt (resampler : StreamingFirResampler F) (position : Rat) : List F :=
  let fractionalPosition := position - ⌊position⌋
  let phaseIndex := mathRound (fractionalPosition * resampler.phaseCount) % resampler.phaseCount
  (resampler.filters[phaseIndex.toNat]? <|> resampler.filters[0]?).getD []

def sampleAt (resampler : StreamingFirResampler F) (position : Rat) : F :=
  filterSample resampler.read (resampler.filterAt position) ⌊position⌋

def trim (resampler : StreamingFirResampler F) : StreamingFirResampler F :=
  let nextPosition := resampler.position resampler.nextOutputIndex
  let keepFrom : Int := Max.max 0 (Max.max (⌊nextPosition⌋ - filterHalfWidth - 2)
    ((resampler.totalInputFrames : Int) - filterHalfWidth * 2 - 2))
  let remove := keepFrom - resampler.bufferStartIndex
  if remove ≤ 0 then resampler
  else
    { resampler with
      samples := resampler.samples.drop (Min.min remove.toNat resampler.samples.length)
      bufferStartIndex := keepFrom.toNat }

/-- How many samples the whole input gives. -/
def targetCount (resampler : StreamingFirResampler F) : Int :=
  mathRound ((resampler.totalInputFrames * resampler.outputRateHz.val : Rat) /
    resampler.inputRateHz.val)

/-- Whether the loop of `produce` goes on with an output sample: it has to lie before the end of the
input, by half a filter as long as more input may come. -/
def continues (resampler : StreamingFirResampler F) (finalize : Bool) (outputIndex : Nat) : Bool :=
  if finalize then (outputIndex : Int) < resampler.targetCount
  else resampler.position outputIndex + filterHalfWidth < resampler.totalInputFrames

omit [SampleArithmetic F] in
theorem continues_false {resampler : StreamingFirResampler F} {outputIndex : Nat} :
    resampler.continues false outputIndex = true ↔
      outputIndex * resampler.inputRateHz.val + filterHalfWidth * resampler.outputRateHz.val <
        resampler.totalInputFrames * resampler.outputRateHz.val := by
  have positive : (0 : Rat) < resampler.outputRateHz.val := by
    exact_mod_cast Nat.lt_of_lt_of_le (by decide) (sampleRateHz_range resampler.outputRateHz).1
  have scaled : resampler.position outputIndex + filterHalfWidth =
      (outputIndex * resampler.inputRateHz.val + filterHalfWidth * resampler.outputRateHz.val : Rat) /
        resampler.outputRateHz.val := by
    rw [position, add_div, mul_div_cancel_right₀ _ (ne_of_gt positive)]
  simp only [continues, Bool.false_eq_true, if_false, decide_eq_true_eq]
  rw [scaled, div_lt_iff₀ positive]
  exact_mod_cast Iff.rfl

omit [SampleArithmetic F] in
theorem continues_true {resampler : StreamingFirResampler F} {outputIndex : Nat} :
    resampler.continues true outputIndex = true ↔
      2 * (outputIndex + 1) * resampler.inputRateHz.val ≤
        2 * resampler.totalInputFrames * resampler.outputRateHz.val + resampler.inputRateHz.val := by
  have positive : (0 : Rat) < resampler.inputRateHz.val := by
    exact_mod_cast Nat.lt_of_lt_of_le (by decide) (sampleRateHz_range resampler.inputRateHz).1
  simp only [continues, if_true, decide_eq_true_eq]
  rw [targetCount, mathRound, ← Int.add_one_le_iff, Int.le_floor]
  have scaled : (resampler.totalInputFrames * resampler.outputRateHz.val : Rat) /
        resampler.inputRateHz.val + 1 / 2 =
      (2 * resampler.totalInputFrames * resampler.outputRateHz.val + resampler.inputRateHz.val : Rat) /
        (2 * resampler.inputRateHz.val) := by
    field_simp
  rw [scaled, le_div_iff₀ (by positivity)]
  push_cast
  rw [show ((outputIndex : Rat) + 1) * (2 * resampler.inputRateHz.val) =
    2 * (outputIndex + 1) * resampler.inputRateHz.val by ring]
  exact_mod_cast Iff.rfl

omit [SampleArithmetic F] in
theorem continues_bound {resampler : StreamingFirResampler F} {finalize : Bool} {outputIndex : Nat}
    (goesOn : resampler.continues finalize outputIndex = true) :
    outputIndex < resampler.totalInputFrames * resampler.outputRateHz.val + 1 := by
  have positive := (sampleRateHz_range resampler.inputRateHz).1
  cases finalize with
  | false =>
    have reach := continues_false.mp goesOn
    have scaled : outputIndex * 1 ≤ outputIndex * resampler.inputRateHz.val :=
      Nat.mul_le_mul_left outputIndex (by omega)
    omega
  | true =>
    have reach := continues_true.mp goesOn
    by_contra far
    have scaled : (2 * outputIndex) * resampler.inputRateHz.val ≥
        (2 * (resampler.totalInputFrames * resampler.outputRateHz.val + 1)) * 1 :=
      Nat.mul_le_mul (by omega) (by omega)
    have expanded : 2 * (outputIndex + 1) * resampler.inputRateHz.val =
        2 * outputIndex * resampler.inputRateHz.val + 2 * resampler.inputRateHz.val := by ring
    have product : 2 * resampler.totalInputFrames * resampler.outputRateHz.val =
        2 * (resampler.totalInputFrames * resampler.outputRateHz.val) := by ring
    omega

/-- The loop of `produce`: the output samples from an index on, and the index it stops at. -/
def produceLoop (resampler : StreamingFirResampler F) (finalize : Bool) (outputIndex : Nat) :
    List F × Nat :=
  if _goesOn : resampler.continues finalize outputIndex = true then
    let (output, next) := produceLoop resampler finalize (outputIndex + 1)
    (resampler.sampleAt (resampler.position outputIndex) :: output, next)
  else ([], outputIndex)
termination_by resampler.totalInputFrames * resampler.outputRateHz.val + 1 - outputIndex
decreasing_by
  have bound := continues_bound _goesOn
  omega

def produce (resampler : StreamingFirResampler F) (finalize : Bool) :
    List F × StreamingFirResampler F :=
  if resampler.totalInputFrames = 0 then ([], resampler)
  else
    let (output, next) := resampler.produceLoop finalize resampler.nextOutputIndex
    (output, trim { resampler with nextOutputIndex := next })

end StreamingFirResampler

/-! ## The normalizer -/

structure PcmAudioNormalizer (F : Type) where
  inputFormat : AudioFormat
  outputFormat : AudioFormat
  channelPolicy : ChannelPolicy
  resampler : Option (StreamingFirResampler F)
  finished : Bool := false
  segmentFinished : Bool := false

structure AudioNormalizerOptions where
  inputFormat : GivenAudioFormat
  outputFormat : Option GivenAudioFormat := none
  channelPolicy : Option ChannelPolicy := none

def pcm16At16kMono : GivenAudioFormat := ⟨"pcm_s16le", 16000, 1⟩

section

variable {F : Type} [SampleArithmetic F]

def createAudioNormalizer (options : AudioNormalizerOptions) :
    Except AudioError (PcmAudioNormalizer F) := do
  let outputFormat := options.outputFormat.getD pcm16At16kMono
  let inputFormat ← validateFormat options.inputFormat "input"
  let outputFormat ← validateOutputFormat outputFormat
  return {
    inputFormat
    outputFormat
    channelPolicy := options.channelPolicy.getD .average
    resampler :=
      if inputFormat.sampleRateHz = outputFormat.sampleRateHz then none
      else some { inputRateHz := inputFormat.sampleRateHz, outputRateHz := outputFormat.sampleRateHz } }

namespace PcmAudioNormalizer

def assertOpen (normalizer : PcmAudioNormalizer F) : Except AudioError Unit :=
  if normalizer.finished then
    .error ⟨"audio.normalization.finished", "Audio normalizer has already been finished"⟩
  else .ok ()

def push (normalizer : PcmAudioNormalizer F) (bytes : Bytes) :
    Except AudioError (Bytes × PcmAudioNormalizer F) := do
  normalizer.assertOpen
  if bytes.length % normalizer.inputFormat.bytesPerFrame ≠ 0 then
    .error ⟨"audio.normalization.incomplete_frame",
      "Audio input must contain complete frames of " ++
        toString normalizer.inputFormat.bytesPerFrame ++ " bytes"⟩
  else if bytes.length = 0 then .ok ([], normalizer)
  else if sameAudioFormat normalizer.inputFormat normalizer.outputFormat then .ok (bytes, normalizer)
  else
    let samples : List F ← decode normalizer.inputFormat normalizer.channelPolicy bytes
    let normalizer := { normalizer with segmentFinished := false }
    match normalizer.resampler with
    | none => .ok (encode samples, normalizer)
    | some resampler =>
      let (output, produced) := (resampler.push samples).produce false
      .ok (encode output, { normalizer with resampler := some produced })

def finishSegment (normalizer : PcmAudioNormalizer F) :
    Except AudioError (Bytes × PcmAudioNormalizer F) := do
  normalizer.assertOpen
  if normalizer.segmentFinished then .ok ([], normalizer)
  else
    let normalizer := { normalizer with segmentFinished := true }
    match normalizer.resampler with
    | none => .ok ([], normalizer)
    | some resampler =>
      let (output, produced) := resampler.produce true
      .ok (encode output, { normalizer with resampler := some produced })

def finish (normalizer : PcmAudioNormalizer F) : Except AudioError (Bytes × PcmAudioNormalizer F) :=
  if normalizer.finished then .ok ([], normalizer)
  else do
    let (tail, normalizer) ← normalizer.finishSegment
    .ok (tail, { normalizer with finished := true })

/-- Pushing chunk after chunk: all the output, and the normalizer in the end. -/
def feed (normalizer : PcmAudioNormalizer F) : List Bytes → Except AudioError (Bytes × PcmAudioNormalizer F)
  | [] => .ok ([], normalizer)
  | chunk :: rest => do
    let (output, normalizer) ← normalizer.push chunk
    let (later, normalizer) ← normalizer.feed rest
    .ok (output ++ later, normalizer)

/-- What a normalizer gives for the chunks pushed before one `finish`. -/
def normalize (normalizer : PcmAudioNormalizer F) (chunks : List Bytes) : Except AudioError Bytes := do
  let (output, normalizer) ← normalizer.feed chunks
  let (tail, _) ← normalizer.finish
  .ok (output ++ tail)

end PcmAudioNormalizer

end

end Tvic
