import Mathlib.Algebra.BigOperators.Ring.List
import Mathlib.Data.Nat.ModEq
import Tvic.Core.Dal
import Tvic.Media.AudioResampling

/-!
# Normalization does not depend on the chunks

`normalizedWhole` is what a normalizer gives for the whole input at once: the bytes as they are, or the
encoded samples, or the encoded resampling of them. `Fed` says that a normalizer has given its part of
that for what it has been fed; `push` keeps it, and `finish` gives the rest.
-/
namespace Tvic

variable {F : Type} [SampleArithmetic F]

open SampleArithmetic

/-! ## Decoding chunk after chunk -/

omit [SampleArithmetic F] in
theorem toOption_mapM {α β ε : Type} (f : α → Except ε β) (xs : List α) :
    (xs.mapM f).toOption = xs.mapM fun x => (f x).toOption := by
  induction xs with
  | nil => rfl
  | cons x xs ih =>
    rw [List.mapM_cons, List.mapM_cons, ← ih]
    cases f x with
    | error e => rfl
    | ok y => cases xs.mapM f <;> rfl

omit [SampleArithmetic F] in
theorem mapM_option_congr {α β : Type} {f g : α → Option β} {xs : List α}
    (same : ∀ x ∈ xs, f x = g x) : xs.mapM f = xs.mapM g := by
  induction xs with
  | nil => rfl
  | cons x xs ih =>
    rw [List.mapM_cons, List.mapM_cons, same x List.mem_cons_self,
      ih fun y member => same y (List.mem_cons_of_mem x member)]

omit [SampleArithmetic F] in
theorem mapM_option_length {α β : Type} {f : α → Option β} {xs : List α} {ys : List β}
    (all : xs.mapM f = some ys) : ys.length = xs.length := by
  induction xs generalizing ys with
  | nil =>
    cases all
    rfl
  | cons x xs ih =>
    simp only [List.mapM_cons, Option.bind_eq_bind, Option.bind_eq_some_iff] at all
    obtain ⟨y, _, rest, tail, joined⟩ := all
    cases joined
    rw [List.length_cons, List.length_cons, ih tail]

omit [SampleArithmetic F] in
theorem foldlM_congr {α β ε : Type} {f g : β → α → Except ε β} {xs : List α} (init : β)
    (same : ∀ x ∈ xs, ∀ value, f value x = g value x) : xs.foldlM f init = xs.foldlM g init := by
  induction xs generalizing init with
  | nil => rfl
  | cons x xs ih =>
    rw [List.foldlM_cons, List.foldlM_cons, same x List.mem_cons_self init]
    congr 1
    funext value
    exact ih value fun y member => same y (List.mem_cons_of_mem x member)

theorem readSample_left {encoding : NormalizedAudioEncoding} {first : Bytes} (second : Bytes)
    {offset : Nat} (within : offset + bytesPerSample encoding ≤ first.length) :
    (readSample encoding (first ++ second) offset : F) = readSample encoding first offset := by
  have size : bytesPerSample encoding ≤ (first.drop offset).length := by
    rw [List.length_drop]
    omega
  unfold readSample
  rw [List.drop_append_of_le_length (by omega), List.take_append_of_le_length size]

theorem readSample_right {encoding : NormalizedAudioEncoding} (first second : Bytes) (offset : Nat) :
    (readSample encoding (first ++ second) (first.length + offset) : F) =
      readSample encoding second offset := by
  unfold readSample
  rw [List.drop_length_add_append]

theorem decodeFrame_congr {format : AudioFormat} (channelPolicy : ChannelPolicy) {bytes other : Bytes}
    {offset shifted : Nat}
    (samples : ∀ channel < format.channels.count,
      (readSample format.encoding bytes (offset + channel * bytesPerSample format.encoding) : F) =
        readSample format.encoding other (shifted + channel * bytesPerSample format.encoding)) :
    (decodeFrame format channelPolicy bytes offset : Except Nat F) =
      decodeFrame format channelPolicy other shifted := by
  unfold decodeFrame
  congr 1
  apply foldlM_congr
  intro channel member value
  rw [samples channel (List.mem_range.mp member)]

theorem decodeFrame_left {format : AudioFormat} (channelPolicy : ChannelPolicy) {first : Bytes}
    (second : Bytes) {offset : Nat} (within : offset + format.bytesPerFrame ≤ first.length) :
    (decodeFrame format channelPolicy (first ++ second) offset : Except Nat F) =
      decodeFrame format channelPolicy first offset := by
  apply decodeFrame_congr
  intro channel below
  apply readSample_left
  have slot : (channel + 1) * bytesPerSample format.encoding ≤
      format.channels.count * bytesPerSample format.encoding := Nat.mul_le_mul_right _ below
  rw [AudioFormat.bytesPerFrame, Nat.mul_comm] at within
  rw [Nat.add_mul, Nat.one_mul] at slot
  omega

theorem decodeFrame_right (format : AudioFormat) (channelPolicy : ChannelPolicy)
    (first second : Bytes) (offset : Nat) :
    (decodeFrame format channelPolicy (first ++ second) (first.length + offset) : Except Nat F) =
      decodeFrame format channelPolicy second offset := by
  apply decodeFrame_congr
  intro channel _
  rw [Nat.add_assoc, readSample_right]

theorem decode_toOption (format : AudioFormat) (channelPolicy : ChannelPolicy) (bytes : Bytes) :
    (decode format channelPolicy bytes : Except AudioError (List F)).toOption =
      (List.range (bytes.length / format.bytesPerFrame)).mapM fun frame =>
        (decodeFrame format channelPolicy bytes (frame * format.bytesPerFrame)).toOption := by
  rw [decode, toOption_mapM]
  apply mapM_option_congr
  intro frame _
  cases decodeFrame (F := F) format channelPolicy bytes (frame * format.bytesPerFrame) <;> rfl

theorem decode_length {format : AudioFormat} {channelPolicy : ChannelPolicy} {bytes : Bytes}
    {signal : List F} (decoded : (decode format channelPolicy bytes).toOption = some signal) :
    signal.length = bytes.length / format.bytesPerFrame := by
  rw [decode_toOption] at decoded
  rw [mapM_option_length decoded, List.length_range]

theorem decode_append {format : AudioFormat} (channelPolicy : ChannelPolicy) {first : Bytes}
    (complete : format.bytesPerFrame ∣ first.length) (second : Bytes) :
    (decode format channelPolicy (first ++ second) : Except AudioError (List F)).toOption =
      (decode format channelPolicy first).toOption.bind fun signal =>
        (decode format channelPolicy second).toOption.map fun later => signal ++ later := by
  obtain ⟨count, size⟩ := complete
  have frames : (first ++ second).length / format.bytesPerFrame =
      first.length / format.bytesPerFrame + second.length / format.bytesPerFrame := by
    rw [List.length_append]
    exact Nat.add_div_of_dvd_right ⟨count, size⟩
  rw [decode_toOption, decode_toOption, decode_toOption, frames, List.range_add, List.mapM_append,
    List.mapM_map]
  have left : ∀ frame ∈ List.range (first.length / format.bytesPerFrame),
      (decodeFrame (F := F) format channelPolicy (first ++ second)
        (frame * format.bytesPerFrame)).toOption =
      (decodeFrame format channelPolicy first (frame * format.bytesPerFrame)).toOption := by
    intro frame member
    have below := List.mem_range.mp member
    have room : (frame + 1) * format.bytesPerFrame ≤ first.length :=
      Nat.le_trans (Nat.mul_le_mul_right _ below) (Nat.div_mul_le_self _ _)
    rw [Nat.add_mul, Nat.one_mul] at room
    rw [decodeFrame_left channelPolicy second room]
  have right : ∀ frame ∈ List.range (second.length / format.bytesPerFrame),
      (decodeFrame (F := F) format channelPolicy (first ++ second)
        ((first.length / format.bytesPerFrame + frame) * format.bytesPerFrame)).toOption =
      (decodeFrame format channelPolicy second (frame * format.bytesPerFrame)).toOption := by
    intro frame _
    rw [Nat.add_mul, Nat.div_mul_cancel ⟨count, size⟩, decodeFrame_right]
  rw [mapM_option_congr left]
  have tail := mapM_option_congr right
  simp only [Function.comp_def] at tail ⊢
  rw [tail]
  cases (List.range (first.length / format.bytesPerFrame)).mapM fun frame =>
      (decodeFrame (F := F) format channelPolicy first (frame * format.bytesPerFrame)).toOption with
  | none => rfl
  | some signal =>
    cases (List.range (second.length / format.bytesPerFrame)).mapM fun frame =>
        (decodeFrame (F := F) format channelPolicy second (frame * format.bytesPerFrame)).toOption with
    | none => rfl
    | some later => rfl

/-! ## The normalizer -/

theorem encode_append (first second : List F) : encode (first ++ second) = encode first ++ encode second :=
  List.flatMap_append

theorem encode_length (samples : List F) : (encode samples).length = 2 * samples.length := by
  induction samples with
  | nil => rfl
  | cons sample rest ih =>
    have head : (encodeSample sample).length = 2 := rfl
    rw [encode, List.flatMap_cons, List.length_append, head, List.length_cons]
    rw [encode] at ih
    omega

/-- How many samples a number of input frames becomes. -/
def outputCount (inputRateHz outputRateHz : SampleRateHz) (frames : Nat) : Int :=
  mathRound ((frames * outputRateHz.val : Rat) / inputRateHz.val)

/-- The normalization of the whole input at once, unless a sample of it is not finite. -/
def normalizedWhole (F : Type) [SampleArithmetic F] (inputFormat outputFormat : AudioFormat)
    (channelPolicy : ChannelPolicy) (bytes : Bytes) : Option Bytes :=
  if sameAudioFormat inputFormat outputFormat then some bytes
  else (decode (F := F) inputFormat channelPolicy bytes).toOption.map fun signal =>
    encode (if inputFormat.sampleRateHz = outputFormat.sampleRateHz then signal
      else
        (List.range
            (outputCount inputFormat.sampleRateHz outputFormat.sampleRateHz signal.length).toNat).map
          (StreamingFirResampler.resampled inputFormat.sampleRateHz outputFormat.sampleRateHz signal))

section

variable {inputFormat outputFormat : AudioFormat} {channelPolicy : ChannelPolicy}

/-- The output given for some bytes, in the three ways of normalizing, and the resampler left. -/
inductive Given (inputFormat outputFormat : AudioFormat) (channelPolicy : ChannelPolicy) :
    Option (StreamingFirResampler F) → Bytes → Bytes → Prop where
  | direct (bytes : Bytes) (same : sameAudioFormat inputFormat outputFormat = true) :
      Given inputFormat outputFormat channelPolicy none bytes bytes
  | encoded (bytes : Bytes) (signal : List F)
      (differ : sameAudioFormat inputFormat outputFormat = false)
      (sameRate : inputFormat.sampleRateHz = outputFormat.sampleRateHz)
      (decoded : (decode inputFormat channelPolicy bytes).toOption = some signal) :
      Given inputFormat outputFormat channelPolicy none bytes (encode signal)
  | resampling (bytes : Bytes) (signal outputs : List F) (resampler : StreamingFirResampler F)
      (otherRate : inputFormat.sampleRateHz ≠ outputFormat.sampleRateHz)
      (inputRate : resampler.inputRateHz = inputFormat.sampleRateHz)
      (outputRate : resampler.outputRateHz = outputFormat.sampleRateHz)
      (decoded : (decode inputFormat channelPolicy bytes).toOption = some signal)
      (streams : resampler.Streams signal outputs) :
      Given inputFormat outputFormat channelPolicy (some resampler) bytes (encode outputs)

/-- An open normalizer that has been fed some bytes and has given some output for them. -/
structure Fed (inputFormat outputFormat : AudioFormat) (channelPolicy : ChannelPolicy)
    (normalizer : PcmAudioNormalizer F) (bytes output : Bytes) : Prop where
  inputFormat_eq : normalizer.inputFormat = inputFormat
  outputFormat_eq : normalizer.outputFormat = outputFormat
  channelPolicy_eq : normalizer.channelPolicy = channelPolicy
  isOpen : normalizer.finished = false
  segment : normalizer.segmentFinished = false
  complete : inputFormat.bytesPerFrame ∣ bytes.length
  given : Given inputFormat outputFormat channelPolicy normalizer.resampler bytes output

omit [SampleArithmetic F] in
theorem sameAudioFormat_rate (same : sameAudioFormat inputFormat outputFormat = true) :
    inputFormat.sampleRateHz = outputFormat.sampleRateHz := by
  simp only [sameAudioFormat, decide_eq_true_eq] at same
  exact same.2.1

variable {normalizer : PcmAudioNormalizer F} {bytes output : Bytes}

theorem push_eq (isOpen : normalizer.finished = false) {chunk : Bytes}
    (complete : normalizer.inputFormat.bytesPerFrame ∣ chunk.length) (nonempty : chunk.length ≠ 0) :
    normalizer.push chunk =
      if sameAudioFormat normalizer.inputFormat normalizer.outputFormat then .ok (chunk, normalizer)
      else
        (decode normalizer.inputFormat normalizer.channelPolicy chunk).bind fun samples =>
          match normalizer.resampler with
          | none => .ok (encode samples, { normalizer with segmentFinished := false })
          | some resampler =>
            .ok (encode ((resampler.push samples).produce false).1,
              { normalizer with
                segmentFinished := false
                resampler := some ((resampler.push samples).produce false).2 }) := by
  have whole : chunk.length % normalizer.inputFormat.bytesPerFrame = 0 := Nat.mod_eq_zero_of_dvd complete
  rw [PcmAudioNormalizer.push, PcmAudioNormalizer.assertOpen, isOpen, whole]
  simp only [Bool.false_eq_true, if_false, ne_eq, not_true_eq_false, nonempty]
  rfl

theorem Fed.push (fed : Fed inputFormat outputFormat channelPolicy normalizer bytes output)
    {chunk : Bytes} (complete : inputFormat.bytesPerFrame ∣ chunk.length) :
    (∃ more pushed, normalizer.push chunk = .ok (more, pushed) ∧
        Fed inputFormat outputFormat channelPolicy pushed (bytes ++ chunk) (output ++ more)) ∨
      ((normalizer.push chunk).toOption = none ∧
        sameAudioFormat inputFormat outputFormat = false ∧
        (decode (F := F) inputFormat channelPolicy chunk).toOption = none) := by
  obtain ⟨rfl, rfl, rfl, isOpen, segment, sofar, given⟩ := fed
  have joined : normalizer.inputFormat.bytesPerFrame ∣ (bytes ++ chunk).length := by
    rw [List.length_append]
    exact Nat.dvd_add sofar complete
  by_cases empty : chunk.length = 0
  · rw [List.length_eq_zero_iff] at empty
    subst empty
    refine .inl ⟨[], normalizer, ?_, ?_⟩
    · rw [PcmAudioNormalizer.push, PcmAudioNormalizer.assertOpen, isOpen]
      simp only [Bool.false_eq_true, if_false, List.length_nil, Nat.zero_mod, ne_eq, not_true_eq_false,
        if_true]
      rfl
    · rw [List.append_nil, List.append_nil]
      exact ⟨rfl, rfl, rfl, isOpen, segment, sofar, given⟩
  rw [push_eq isOpen complete empty]
  cases same : sameAudioFormat normalizer.inputFormat normalizer.outputFormat with
  | true =>
    refine .inl ⟨chunk, normalizer, rfl, rfl, rfl, rfl, isOpen, segment, joined, ?_⟩
    generalize normalizer.resampler = resampler at given
    cases given with
    | direct _ _ => exact .direct _ same
    | encoded _ _ differ _ _ =>
      rw [same] at differ
      cases differ
    | resampling _ _ _ _ otherRate _ _ _ _ =>
      exact absurd (sameAudioFormat_rate same) otherRate
  | false =>
    have split := decode_append (F := F) normalizer.channelPolicy sofar chunk
    cases decoded : decode (F := F) normalizer.inputFormat normalizer.channelPolicy chunk with
    | error error => exact .inr ⟨rfl, rfl, rfl⟩
    | ok samples =>
      left
      have later : samples.length = chunk.length / normalizer.inputFormat.bytesPerFrame :=
        decode_length (by rw [decoded]; rfl)
      have some : 0 < samples.length := by
        have positive := Nat.pos_of_ne_zero empty
        have frame : 0 < normalizer.inputFormat.bytesPerFrame :=
          Nat.pos_of_dvd_of_pos complete positive
        rw [later]
        exact Nat.div_pos (Nat.le_of_dvd positive complete) frame
      rw [decoded] at split
      generalize normalizer.resampler = resampler at given ⊢
      cases given with
      | direct _ same' =>
        rw [same] at same'
        cases same'
      | encoded _ signal _ sameRate before =>
        refine ⟨encode samples, { normalizer with segmentFinished := false, resampler := none },
          rfl, rfl, rfl, rfl, isOpen, rfl, joined, ?_⟩
        rw [← encode_append]
        exact .encoded _ _ same sameRate (by rw [split, before]; rfl)
      | resampling _ signal outputs resampler otherRate inputRate outputRate before streams =>
        have longer : 0 < (signal ++ samples).length := by
          rw [List.length_append]
          omega
        refine ⟨encode ((resampler.push samples).produce false).1,
          { normalizer with
            segmentFinished := false
            resampler := Option.some ((resampler.push samples).produce false).2 },
          rfl, rfl, rfl, rfl, isOpen, rfl, joined, ?_⟩
        rw [← encode_append]
        exact .resampling _ _ _ _ otherRate ((StreamingFirResampler.produce_rates _ _).1.trans inputRate)
          ((StreamingFirResampler.produce_rates _ _).2.trans outputRate)
          (by rw [split, before]; rfl) ((streams.push samples).produce longer)

theorem normalizedWhole_none {chunk : Bytes} (sofar : inputFormat.bytesPerFrame ∣ bytes.length)
    (complete : inputFormat.bytesPerFrame ∣ chunk.length)
    (differ : sameAudioFormat inputFormat outputFormat = false)
    (failed : (decode (F := F) inputFormat channelPolicy chunk).toOption = none) (rest : Bytes) :
    normalizedWhole F inputFormat outputFormat channelPolicy (bytes ++ (chunk ++ rest)) = none := by
  rw [normalizedWhole, if_neg (by rw [differ]; exact Bool.false_ne_true),
    decode_append channelPolicy sofar, decode_append channelPolicy complete, failed]
  cases (decode (F := F) inputFormat channelPolicy bytes).toOption <;> rfl

theorem Fed.feed (fed : Fed inputFormat outputFormat channelPolicy normalizer bytes output)
    {chunks : List Bytes} (complete : ∀ chunk ∈ chunks, inputFormat.bytesPerFrame ∣ chunk.length) :
    (∃ more reached, normalizer.feed chunks = .ok (more, reached) ∧
        Fed inputFormat outputFormat channelPolicy reached (bytes ++ chunks.flatten)
          (output ++ more)) ∨
      ((normalizer.feed chunks).toOption = none ∧
        normalizedWhole F inputFormat outputFormat channelPolicy (bytes ++ chunks.flatten) = none) := by
  induction chunks generalizing normalizer bytes output with
  | nil =>
    refine .inl ⟨[], normalizer, rfl, ?_⟩
    rw [List.flatten_nil, List.append_nil, List.append_nil]
    exact fed
  | cons chunk rest ih =>
    have first := complete chunk List.mem_cons_self
    have later : ∀ other ∈ rest, inputFormat.bytesPerFrame ∣ other.length :=
      fun other member => complete other (List.mem_cons_of_mem chunk member)
    rw [List.flatten_cons, PcmAudioNormalizer.feed]
    rcases fed.push first with ⟨more, pushed, pushing, reached⟩ | ⟨failed, differ, undecoded⟩
    · rw [pushing]
      rcases ih reached later with ⟨others, final, feeding, whole⟩ | ⟨failed, undecoded⟩
      · refine .inl ⟨more ++ others, final, ?_, ?_⟩
        · change ((pushed.feed rest).bind fun result => .ok (more ++ result.1, result.2)) = _
          rw [feeding]
          rfl
        · rwa [List.append_assoc, List.append_assoc] at whole
      · rw [List.append_assoc] at undecoded
        refine .inr ⟨?_, undecoded⟩
        change ((pushed.feed rest).bind fun result => .ok (more ++ result.1, result.2)).toOption = none
        cases feeding : pushed.feed rest with
        | error error => rfl
        | ok result =>
          rw [feeding] at failed
          cases failed
    · right
      constructor
      · cases pushing : normalizer.push chunk with
        | error error => rfl
        | ok result =>
          rw [pushing] at failed
          cases failed
      · exact normalizedWhole_none fed.complete first differ undecoded rest.flatten

theorem Fed.finish (fed : Fed inputFormat outputFormat channelPolicy normalizer bytes output) :
    ∃ tail finished, normalizer.finish = .ok (tail, finished) ∧
      normalizedWhole F inputFormat outputFormat channelPolicy bytes = some (output ++ tail) := by
  obtain ⟨rfl, rfl, rfl, isOpen, segment, sofar, given⟩ := fed
  rw [PcmAudioNormalizer.finish, PcmAudioNormalizer.finishSegment, PcmAudioNormalizer.assertOpen, isOpen,
    segment]
  simp only [Bool.false_eq_true, if_false]
  generalize normalizer.resampler = resampler at given ⊢
  cases given with
  | direct _ same =>
    refine ⟨[], _, rfl, ?_⟩
    rw [normalizedWhole, if_pos same, List.append_nil]
  | encoded _ signal differ sameRate decoded =>
    refine ⟨[], _, rfl, ?_⟩
    rw [normalizedWhole, if_neg (by rw [differ]; exact Bool.false_ne_true), decoded, List.append_nil,
      Option.map_some, if_pos sameRate]
  | resampling _ signal outputs resampler otherRate inputRate outputRate decoded streams =>
    have differ : ¬ sameAudioFormat normalizer.inputFormat normalizer.outputFormat = true :=
      fun same => otherRate (sameAudioFormat_rate same)
    obtain ⟨count, target, emitted⟩ := streams.finalize
    rw [inputRate, outputRate] at target emitted
    refine ⟨encode (resampler.produce true).1, _, rfl, ?_⟩
    rw [normalizedWhole, if_neg differ, decoded, Option.map_some, if_neg otherRate, ← encode_append,
      emitted, outputCount, ← target, Int.toNat_natCast]

theorem Fed.normalize (fed : Fed inputFormat outputFormat channelPolicy normalizer [] [])
    {chunks : List Bytes} (complete : ∀ chunk ∈ chunks, inputFormat.bytesPerFrame ∣ chunk.length) :
    (normalizer.normalize chunks).toOption =
      normalizedWhole F inputFormat outputFormat channelPolicy chunks.flatten := by
  rw [PcmAudioNormalizer.normalize]
  rcases fed.feed complete with ⟨more, reached, feeding, whole⟩ | ⟨failed, undecoded⟩
  · obtain ⟨tail, finished, finishing, given⟩ := whole.finish
    rw [List.nil_append, List.nil_append] at given
    rw [given, feeding]
    change ((reached.finish).bind fun result => .ok (more ++ result.1)).toOption = _
    rw [finishing]
    rfl
  · rw [List.nil_append] at undecoded
    rw [undecoded]
    cases feeding : normalizer.feed chunks with
    | error error => rfl
    | ok result =>
      rw [feeding] at failed
      cases failed

/-! ## The count of the samples -/

omit [SampleArithmetic F] in
theorem outputCount_self (rate : SampleRateHz) (frames : Nat) : outputCount rate rate frames = frames := by
  have positive : (rate.val : Rat) ≠ 0 := by
    have low := (sampleRateHz_range rate).1
    exact_mod_cast (by omega : rate.val ≠ 0)
  rw [outputCount, mul_div_assoc, div_self positive, mul_one, mathRound, Int.floor_eq_iff]
  push_cast
  constructor <;> linarith

omit [SampleArithmetic F] in
theorem outputCount_nonneg (inputRateHz outputRateHz : SampleRateHz) (frames : Nat) :
    0 ≤ outputCount inputRateHz outputRateHz frames := by
  rw [outputCount, mathRound, Int.le_floor]
  push_cast
  positivity

theorem normalizedWhole_length (mono : outputFormat.channels = .mono)
    (pcm : outputFormat.encoding = .pcmS16le) (complete : inputFormat.bytesPerFrame ∣ bytes.length)
    (whole : normalizedWhole F inputFormat outputFormat channelPolicy bytes = some output) :
    (output.length : Int) = 2 * outputCount inputFormat.sampleRateHz outputFormat.sampleRateHz
      (bytes.length / inputFormat.bytesPerFrame) := by
  rw [normalizedWhole] at whole
  by_cases same : sameAudioFormat inputFormat outputFormat = true
  · -- the bytes as they are, two of them for each frame
    rw [if_pos same] at whole
    cases whole
    have rate := sameAudioFormat_rate same
    simp only [sameAudioFormat, decide_eq_true_eq] at same
    have frame : inputFormat.bytesPerFrame = 2 := by
      rw [AudioFormat.bytesPerFrame, same.1, same.2.2, mono, pcm]
      rfl
    rw [frame] at complete ⊢
    rw [rate, outputCount_self]
    omega
  · rw [if_neg same, Option.map_eq_some_iff] at whole
    obtain ⟨signal, decoded, encoded⟩ := whole
    rw [← decode_length decoded, ← encoded, encode_length]
    by_cases sameRate : inputFormat.sampleRateHz = outputFormat.sampleRateHz
    · rw [if_pos sameRate, sameRate, outputCount_self]
      push_cast
      rfl
    · rw [if_neg sameRate, List.length_map, List.length_range]
      have positive := outputCount_nonneg inputFormat.sampleRateHz outputFormat.sampleRateHz signal.length
      push_cast
      omega

theorem createAudioNormalizer_eq_ok {options : AudioNormalizerOptions} {normalizer : PcmAudioNormalizer F}
    (created : createAudioNormalizer options = .ok normalizer) :
    normalizer.outputFormat.channels = .mono ∧ normalizer.outputFormat.encoding = .pcmS16le ∧
      Fed normalizer.inputFormat normalizer.outputFormat normalizer.channelPolicy normalizer [] [] := by
  obtain ⟨inputFormat, _, rest⟩ := bind_eq_ok.mp created
  obtain ⟨outputFormat, valid, made⟩ := bind_eq_ok.mp rest
  obtain ⟨format, _, checked⟩ := bind_eq_ok.mp valid
  cases made
  have target : format.encoding = .pcmS16le ∧ format.channels = .mono ∧ format = outputFormat := by
    by_cases other : format.encoding ≠ .pcmS16le ∨ format.channels ≠ .mono
    · rw [if_pos other] at checked
      cases checked
    · rw [if_neg other] at checked
      cases checked
      rw [not_or, not_not, not_not] at other
      exact ⟨other.1, other.2, rfl⟩
  obtain ⟨pcm, mono, rfl⟩ := target
  refine ⟨mono, pcm, rfl, rfl, rfl, rfl, rfl, Nat.dvd_zero _, ?_⟩
  by_cases sameRate : inputFormat.sampleRateHz = format.sampleRateHz
  · simp only [sameRate, if_true]
    cases same : sameAudioFormat inputFormat format with
    | true => exact .direct [] same
    | false => exact .encoded [] [] same sameRate (by simp [decode]; rfl)
  · simp only [sameRate, if_false]
    exact .resampling [] [] [] _ sameRate rfl rfl (by simp [decode]; rfl)
      (StreamingFirResampler.Streams.new _ _)

end

/-- Exact arithmetic in place of that of doubles, for input without floats at the output's rate. -/
instance : SampleArithmetic Rat where
  ofInt := fun integer => integer
  add := fun a b => a + b
  mul := fun a b => a * b
  div := fun a b => a / b
  min := fun a b => if a ≤ b then a else b
  max := fun a b => if a ≤ b then b else a
  isFinite := fun _ => true
  isZero := fun a => a = 0
  isNegative := fun a => a < 0
  round := mathRound
  getFloat32 := fun _ => 0
  weight := fun _ _ => 0

end Tvic
