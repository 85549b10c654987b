import Tvic.Providers.SarvamTtsWav

/-!
# The chunks of Sarvam's WAV stream

What a RIFF reader takes for the data of a stream, and when the decoder gives out just these. The decoder
compares names after their top bits are unset, so that other names can pass for the ones it looks for.
-/
namespace Tvic

/-- Where the chunks begin, in RIFF order. -/
def chunkOffset (stream : List UInt8) : Nat → Nat
  | 0 => 12
  | index + 1 => paddedEnd stream (chunkOffset stream index)

theorem chunkOffset_lt_succ (stream : List UInt8) (index : Nat) :
    chunkOffset stream index + 8 ≤ chunkOffset stream (index + 1) := by
  show _ ≤ paddedEnd stream _
  unfold paddedEnd
  omega

theorem chunkOffset_mono (stream : List UInt8) {earlier later : Nat} (order : earlier ≤ later) :
    chunkOffset stream earlier ≤ chunkOffset stream later := by
  induction order with
  | refl => exact Nat.le_refl _
  | @step later _ ih =>
    exact Nat.le_trans ih (Nat.le_of_add_right_le (chunkOffset_lt_succ stream later))

/-- The bytes that a chunk of data stands for. -/
def Carries (stream : List UInt8) (offset : Nat) (output : List UInt8) : Prop :=
  if chunkLengthAt stream offset = unknownDataLength then output = stream.drop (offset + 8)
  else
    chunkLengthAt stream offset ≤ (stream.drop (offset + 8)).length ∧
      output = (stream.drop (offset + 8)).take (chunkLengthAt stream offset)

instance (stream : List UInt8) (offset : Nat) (output : List UInt8) :
    Decidable (Carries stream offset output) := by
  unfold Carries
  infer_instance

/-- The chunk is the first one named `data`, comes after a format that is Sarvam's, and has this output. -/
structure IsData (stream : List UInt8) (index : Nat) (output : List UInt8) : Prop where
  riff : idAt stream 0 = riffId ∧ idAt stream 8 = waveId
  data : idAt stream (chunkOffset stream index) = dataId
  first : ∀ earlier < index, idAt stream (chunkOffset stream earlier) ≠ dataId
  format : ∃ earlier < index, idAt stream (chunkOffset stream earlier) = fmtId ∧
    formatAt stream (chunkOffset stream earlier) = sarvamWavFormat
  header : chunkOffset stream index + 8 ≤ stream.length
  carries : Carries stream (chunkOffset stream index) output

/-! ## What the decoder takes for the data -/

/-- The last format before a chunk, by the names the decoder reads. -/
def formatBefore (stream : List UInt8) : Nat → Option SarvamWavFormat
  | 0 => none
  | index + 1 =>
    if asciiAt stream (chunkOffset stream index) = fmtId then
      some (formatAt stream (chunkOffset stream index))
    else formatBefore stream index

/-- The decoder goes on from this chunk to the next. -/
structure Passes (stream : List UInt8) (index : Nat) : Prop where
  other : asciiAt stream (chunkOffset stream index) ≠ dataId
  whole : chunkOffset stream (index + 1) ≤ stream.length
  within : chunkOffset stream (index + 1) ≤ sarvamTtsWavHeaderMaxBytes
  format : asciiAt stream (chunkOffset stream index) = fmtId →
    16 ≤ chunkLengthAt stream (chunkOffset stream index)

/-- The stream has data, by the names the decoder reads, that can be given out. -/
structure Playable (stream : List UInt8) (index : Nat) (output : List UInt8) : Prop where
  riff : asciiAt stream 0 = riffId ∧ asciiAt stream 8 = waveId
  before : ∀ earlier < index, Passes stream earlier
  data : asciiAt stream (chunkOffset stream index) = dataId
  format : formatBefore stream index = some sarvamWavFormat
  header : chunkOffset stream index + 8 ≤ stream.length
  early : chunkOffset stream index + 8 ≤ sarvamTtsWavHeaderMaxBytes
  carries : Carries stream (chunkOffset stream index) output
  samples : output ≠ [] ∧ output.length % 2 = 0
  bounded : output.length ≤ maxProviderTtsOutputBytes

theorem scanHeader_passes {stream : List UInt8} {index : Nat}
    (before : ∀ earlier < index, Passes stream earlier) :
    scanHeader stream 12 none =
      scanHeader stream (chunkOffset stream index) (formatBefore stream index) := by
  induction index with
  | zero => rfl
  | succ index ih =>
    rw [ih fun earlier order => before earlier (Nat.lt_succ_of_lt order)]
    obtain ⟨other, whole, within, format⟩ := before index (Nat.lt_succ_self index)
    have next := chunkOffset_lt_succ stream index
    have header : ¬stream.length < chunkOffset stream index + 8 := by omega
    have near : ¬sarvamTtsWavHeaderMaxBytes < chunkOffset stream index := by omega
    change paddedEnd stream (chunkOffset stream index) ≤ _ at whole within
    rw [scanHeader, if_neg near, if_neg header, if_neg other, if_neg (Nat.not_lt.mpr within),
      if_neg (Nat.not_lt.mpr whole)]
    by_cases fmt : asciiAt stream (chunkOffset stream index) = fmtId
    · rw [if_pos fmt, if_neg (Nat.not_lt.mpr (format fmt)), formatBefore, if_pos fmt]
      rfl
    · rw [if_neg fmt, formatBefore, if_neg fmt]
      rfl

theorem scanHeader_found_passes {stream : List UInt8} {index chunkStart chunkLength : Nat}
    (before : ∀ earlier < index, Passes stream earlier)
    (found : scanHeader stream (chunkOffset stream index) (formatBefore stream index) =
      .ok (.found chunkStart chunkLength)) :
    ∃ later, (∀ earlier < later, Passes stream earlier) ∧
      asciiAt stream (chunkOffset stream later) = dataId ∧
      formatBefore stream later = some sarvamWavFormat ∧
      chunkStart = chunkOffset stream later + 8 ∧
      chunkLength = chunkLengthAt stream (chunkOffset stream later) := by
  generalize at_ : chunkOffset stream index = offset at found
  generalize known : formatBefore stream index = format at found
  fun_induction scanHeader stream offset format generalizing index with
  | case6 offset format near header data good valid small =>
    obtain ⟨rfl, rfl⟩ := HeaderScan.found.inj (Except.ok.inj found)
    subst at_
    exact ⟨index, before, data, known.trans (Decidable.not_not.mp good), rfl, rfl⟩
  | case10 offset format near header other small whole fmt long ih =>
    subst at_
    have passes : Passes stream index :=
      ⟨other, Nat.not_lt.mp whole, Nat.not_lt.mp small, fun _ => Nat.not_lt.mp long⟩
    refine @ih (index + 1) (fun earlier order => ?_) rfl ?_ found
    · rcases Nat.lt_succ_iff_lt_or_eq.mp order with order | rfl
      · exact before earlier order
      · exact passes
    · rw [formatBefore, if_pos fmt]
  | case11 offset format near header other small whole unknown ih =>
    subst at_
    have passes : Passes stream index :=
      ⟨other, Nat.not_lt.mp whole, Nat.not_lt.mp small, fun fmt => (unknown fmt).elim⟩
    refine @ih (index + 1) (fun earlier order => ?_) rfl ?_ found
    · rcases Nat.lt_succ_iff_lt_or_eq.mp order with order | rfl
      · exact before earlier order
      · exact passes
    · rw [formatBefore, if_neg unknown, known]
  | _ => cases found

theorem scanned_eq_scanHeader {stream : List UInt8} (long : 12 ≤ stream.length)
    (riff : asciiAt stream 0 = riffId ∧ asciiAt stream 8 = waveId) :
    scanned stream = scanHeader stream 12 none := by
  have tags : ¬(asciiAt stream 0 ≠ riffId ∨ asciiAt stream 8 ≠ waveId) := by
    rintro (other | other)
    · exact other riff.1
    · exact other riff.2
  rw [scanned, if_neg (by omega), if_neg tags]

theorem scanned_found_riff {stream : List UInt8} {chunkStart chunkLength : Nat}
    (found : scanned stream = .ok (.found chunkStart chunkLength)) :
    12 ≤ stream.length ∧ asciiAt stream 0 = riffId ∧ asciiAt stream 8 = waveId := by
  unfold scanned at found
  split at found
  · cases found
  next long =>
    split at found
    · cases found
    next tags =>
      rw [not_or, Decidable.not_not, Decidable.not_not] at tags
      exact ⟨Nat.not_lt.mp long, tags⟩

theorem Playable.decoded {stream : List UInt8} {index : Nat} {output : List UInt8}
    (playable : Playable stream index output) : decoded stream = some output := by
  obtain ⟨riff, before, data, format, header, early, carries, samples, bounded⟩ := playable
  have first : 12 ≤ chunkOffset stream index := chunkOffset_mono stream (Nat.zero_le index)
  have scan := scanned_eq_scanHeader (by omega) riff
  rw [scanHeader_passes before, scanHeader, if_neg (by omega), if_neg (Nat.not_lt.mpr header),
    if_pos data, if_neg (Decidable.not_not.mpr format)] at scan
  unfold Tvic.decoded
  by_cases length : chunkLengthAt stream (chunkOffset stream index) = unknownDataLength
  · have valid : ¬(chunkLengthAt stream (chunkOffset stream index) = 0 ∨
        chunkLengthAt stream (chunkOffset stream index) ≠ unknownDataLength ∧
          chunkLengthAt stream (chunkOffset stream index) % 2 ≠ 0) := by
      rintro (zero | ⟨known, -⟩)
      · rw [length] at zero
        cases zero
      · exact known length
    rw [if_neg valid, if_neg fun known => known.1 length] at scan
    rw [Carries, if_pos length] at carries
    rw [scan]
    dsimp only
    rw [if_neg (Nat.not_lt.mpr early), if_pos length, ← carries, if_neg]
    rintro (none | odd | large)
    · exact samples.1 none
    · exact odd samples.2
    · exact Nat.not_lt.mpr bounded large
  · rw [Carries, if_neg length] at carries
    obtain ⟨whole, taken⟩ := carries
    have size : output.length = chunkLengthAt stream (chunkOffset stream index) := by
      rw [taken, List.length_take, Nat.min_eq_left whole]
    have valid : ¬(chunkLengthAt stream (chunkOffset stream index) = 0 ∨
        chunkLengthAt stream (chunkOffset stream index) ≠ unknownDataLength ∧
          chunkLengthAt stream (chunkOffset stream index) % 2 ≠ 0) := by
      rw [← size]
      rintro (zero | ⟨-, odd⟩)
      · exact samples.1 (List.length_eq_zero_iff.mp zero)
      · exact odd samples.2
    have small : ¬(chunkLengthAt stream (chunkOffset stream index) ≠ unknownDataLength ∧
        maxProviderTtsOutputBytes < chunkLengthAt stream (chunkOffset stream index)) := by
      rw [← size]
      exact fun large => Nat.not_lt.mpr bounded large.2
    rw [if_neg valid, if_neg small] at scan
    rw [scan]
    dsimp only
    rw [if_neg (Nat.not_lt.mpr early), if_neg length, if_neg (Nat.not_lt.mpr whole), taken]

theorem playable_of_decoded {stream output : List UInt8} (gave : decoded stream = some output) :
    ∃ index, Playable stream index output := by
  unfold decoded at gave
  split at gave
  next chunkStart chunkLength found =>
    obtain ⟨long, riff⟩ := scanned_found_riff found
    obtain ⟨start, positive, valid⟩ := scanned_found found
    rw [scanned_eq_scanHeader long riff] at found
    obtain ⟨index, before, data, format, rfl, rfl⟩ :=
      @scanHeader_found_passes stream 0 chunkStart chunkLength nofun found
    split at gave
    · cases gave
    next early =>
      have playable : Carries stream (chunkOffset stream index) output →
          output ≠ [] ∧ output.length % 2 = 0 → output.length ≤ maxProviderTtsOutputBytes →
          ∃ index, Playable stream index output := fun carries samples bounded =>
        ⟨index, riff, before, data, format, start, Nat.not_lt.mp early, carries, samples, bounded⟩
      split at gave
      next length =>
        split at gave
        · cases gave
        next good =>
          cases gave
          rw [not_or, not_or, Decidable.not_not, Nat.not_lt] at good
          refine playable ?_ ⟨good.1, good.2.1⟩ good.2.2
          rw [Carries, if_pos length]
      next length =>
        split at gave
        · cases gave
        next whole =>
          cases gave
          have size : ((stream.drop (chunkOffset stream index + 8)).take
              (chunkLengthAt stream (chunkOffset stream index))).length =
              chunkLengthAt stream (chunkOffset stream index) := by
            rw [List.length_take, Nat.min_eq_left (Nat.not_lt.mp whole)]
          obtain ⟨even, bounded⟩ := valid length
          refine playable ?_ ⟨fun none => ?_, by rw [size, even]⟩ (by rw [size]; exact bounded)
          · rw [Carries, if_neg length]
            exact ⟨Nat.not_lt.mp whole, rfl⟩
          · rw [none] at size
            exact positive size.symm
  · cases gave

/-! ## When these are the data -/

/-- The names are what the decoder takes them for. -/
structure Genuine (stream : List UInt8) (index : Nat) : Prop where
  riff : idAt stream 0 = riffId ∧ idAt stream 8 = waveId
  data : idAt stream (chunkOffset stream index) = dataId
  format : ∃ earlier < index, idAt stream (chunkOffset stream earlier) = fmtId ∧
    formatAt stream (chunkOffset stream earlier) = sarvamWavFormat

theorem asciiAt_of_idAt {stream name : List UInt8} {start : Nat} (same : idAt stream start = name)
    (ascii : name.map (· &&& 0x7f) = name) : asciiAt stream start = name := by
  rw [asciiAt, same, ascii]

theorem ascii_dataId : dataId.map (· &&& 0x7f) = dataId := by decide +kernel

theorem Playable.isData {stream output : List UInt8} {index : Nat}
    (playable : Playable stream index output) (genuine : Genuine stream index) :
    IsData stream index output where
  riff := genuine.riff
  data := genuine.data
  first earlier order data :=
    (playable.before earlier order).other (asciiAt_of_idAt data ascii_dataId)
  format := genuine.format
  header := playable.header
  carries := playable.carries

theorem IsData.genuine {stream output output' : List UInt8} {index real : Nat}
    (isData : IsData stream real output') (playable : Playable stream index output)
    (data : idAt stream (chunkOffset stream index) = dataId) : Genuine stream index := by
  have same : real = index := by
    rcases Nat.lt_trichotomy real index with less | same | more
    · have passed := (playable.before real less).other
      exact (passed (asciiAt_of_idAt isData.data ascii_dataId)).elim
    · exact same
    · exact (isData.first index more data).elim
  subst same
  exact ⟨isData.riff, data, isData.format⟩

theorem IsData.later {stream output output' : List UInt8} {index real : Nat}
    (isData : IsData stream real output') (playable : Playable stream index output)
    (other : idAt stream (chunkOffset stream index) ≠ dataId) : index < real := by
  rcases Nat.lt_trichotomy real index with less | same | more
  · have passed := (playable.before real less).other
    exact (passed (asciiAt_of_idAt isData.data ascii_dataId)).elim
  · subst same
    exact (other isData.data).elim
  · exact more

/-- The same for all ways to divide the stream, and on success the data of its first data chunk. -/
def DecodesData (stream : List UInt8) : Prop :=
  ∃ result : Option (List UInt8),
    (∀ chunks : List (List UInt8), chunks.flatten = stream →
      (SarvamWavStreamDecoder.decode chunks {}).toOption = result) ∧
    ∀ output, result = some output → ∃ index, IsData stream index output

/-- No name passes for another where it matters: or if one passes for `data`, then the chunk that is
really named so repeats its bytes. -/
def NamesGenuine (stream : List UInt8) : Prop :=
  ∀ index output, Playable stream index output →
    Genuine stream index ∨
      idAt stream (chunkOffset stream index) ≠ dataId ∧
        ∃ later, index < later ∧ IsData stream later output

theorem decodesData_iff (stream : List UInt8) : DecodesData stream ↔ NamesGenuine stream := by
  constructor
  · rintro ⟨result, same, isData⟩ index output playable
    have whole := same [stream] (by simp)
    rw [SarvamWavStreamDecoder.decode_eq_decoded, List.flatten_cons, List.flatten_nil, List.append_nil,
      playable.decoded] at whole
    obtain ⟨real, isData⟩ := isData output whole.symm
    by_cases data : idAt stream (chunkOffset stream index) = dataId
    · exact Or.inl (isData.genuine playable data)
    · exact Or.inr ⟨data, real, isData.later playable data, isData⟩
  · intro genuine
    refine ⟨decoded stream, fun chunks divided => ?_, fun output gave => ?_⟩
    · rw [SarvamWavStreamDecoder.decode_eq_decoded, divided]
    · obtain ⟨index, playable⟩ := playable_of_decoded gave
      rcases genuine index output playable with genuine | ⟨-, later, -, isData⟩
      · exact ⟨index, playable.isData genuine⟩
      · exact ⟨later, isData⟩

/-- A chunk that is named `data` but for the top bit of its first byte, and then a chunk of data. -/
def disguisedStream : List UInt8 :=
  riffId ++ [54, 0, 0, 0] ++ waveId ++
    fmtId ++ [16, 0, 0, 0] ++ [1, 0, 1, 0, 0x80, 0x3e, 0, 0, 0, 0x7d, 0, 0, 2, 0, 16, 0] ++
    [0xe4, 0x61, 0x74, 0x61] ++ [2, 0, 0, 0] ++ [1, 2] ++
    dataId ++ [2, 0, 0, 0] ++ [3, 4]

theorem decoded_disguisedStream : decoded disguisedStream = some [1, 2] := by decide +kernel

theorem disguisedStream_chunks :
    idAt disguisedStream (chunkOffset disguisedStream 0) ≠ dataId ∧
      idAt disguisedStream (chunkOffset disguisedStream 1) ≠ dataId ∧
      idAt disguisedStream (chunkOffset disguisedStream 2) = dataId ∧
      ¬Carries disguisedStream (chunkOffset disguisedStream 2) [1, 2] := by
  decide +kernel

/-- The decoder gives out the disguised chunk. -/
theorem disguisedStream_misread : ¬DecodesData disguisedStream := by
  rintro ⟨result, same, isData⟩
  have whole := same [disguisedStream] (List.append_nil _)
  rw [SarvamWavStreamDecoder.decode_eq_decoded, List.flatten_singleton, decoded_disguisedStream] at whole
  obtain ⟨index, data⟩ := isData _ whole.symm
  obtain ⟨format, disguised, named, other⟩ := disguisedStream_chunks
  match index, data with
  | 0, data => exact format data.data
  | 1, data => exact disguised data.data
  | 2, data => exact other data.carries
  | index + 3, data => exact data.first 2 (by omega) named

end Tvic
