import Mathlib.Data.List.GetD
import Mathlib.Tactic.Common

/-!
# Sarvam's WAV stream

`SarvamWavStreamDecoder` of `packages/providers/src/sarvam-tts-wav.ts`. The first `#bufferLength` bytes of
`#buffer` are the list `buffer`; what the buffer reserves beyond them is not kept. The decoder is compared
with `decoded`, which reads the whole stream at once.
-/
namespace Tvic

def sarvamTtsWavHeaderMaxBytes : Nat := 64 * 1024
def maxProviderTtsOutputBytes : Nat := 10 * 1024 * 1024

/-- The length that says the data go on to the end. -/
def unknownDataLength : Nat := 0xffffffff

structure SarvamWavFormat where
  format : Nat
  channels : Nat
  rate : Nat
  bits : Nat
  deriving DecidableEq

/-- 16 kHz mono PCM16 -/
def sarvamWavFormat : SarvamWavFormat := { format := 1, channels := 1, rate := 16000, bits := 16 }

/-! ## Reading from the buffer -/

def nameBytes (name : String) : List UInt8 := name.toList.map fun character => character.toNat.toUInt8

def riffId : List UInt8 := nameBytes "RIFF"
def waveId : List UInt8 := nameBytes "WAVE"
def fmtId : List UInt8 := nameBytes "fmt "
def dataId : List UInt8 := nameBytes "data"

def idAt (buffer : List UInt8) (start : Nat) : List UInt8 := (buffer.drop start).take 4

/-- `toString("ascii", start, start + 4)`, which unsets the top bit of every byte. -/
def asciiAt (buffer : List UInt8) (start : Nat) : List UInt8 := (idAt buffer start).map (· &&& 0x7f)

def readUInt16LE (buffer : List UInt8) (start : Nat) : Nat :=
  (buffer.getD start 0).toNat + 0x100 * (buffer.getD (start + 1) 0).toNat

def readUInt32LE (buffer : List UInt8) (start : Nat) : Nat :=
  readUInt16LE buffer start + 0x10000 * readUInt16LE buffer (start + 2)

def chunkLengthAt (buffer : List UInt8) (offset : Nat) : Nat := readUInt32LE buffer (offset + 4)

/-- Where the chunk ends whose header is at `offset`. -/
def paddedEnd (buffer : List UInt8) (offset : Nat) : Nat :=
  offset + 8 + chunkLengthAt buffer offset + chunkLengthAt buffer offset % 2

def formatAt (buffer : List UInt8) (offset : Nat) : SarvamWavFormat where
  format := readUInt16LE buffer (offset + 8)
  channels := readUInt16LE buffer (offset + 8 + 2)
  rate := readUInt32LE buffer (offset + 8 + 4)
  bits := readUInt16LE buffer (offset + 8 + 14)

/-! ## The decoder -/

/-- How the loop of `#parseHeader` ends when it does not throw. -/
inductive HeaderScan where
  | waiting (headerOffset : Nat) (format : Option SarvamWavFormat)
  | found (chunkStart chunkLength : Nat)
  deriving DecidableEq

def scanHeader (buffer : List UInt8) (offset : Nat) (format : Option SarvamWavFormat) :
    Except String HeaderScan :=
  if sarvamTtsWavHeaderMaxBytes < offset then .error "Sarvam WAV header exceeded the size limit"
  else if buffer.length < offset + 8 then .ok (.waiting offset format)
  else if asciiAt buffer offset = dataId then
    if format ≠ some sarvamWavFormat then .error "Sarvam WAV stream is not 16kHz mono PCM16"
    else if chunkLengthAt buffer offset = 0 ∨
        chunkLengthAt buffer offset ≠ unknownDataLength ∧ chunkLengthAt buffer offset % 2 ≠ 0 then
      .error "Sarvam WAV data length is invalid"
    else if chunkLengthAt buffer offset ≠ unknownDataLength ∧
        maxProviderTtsOutputBytes < chunkLengthAt buffer offset then
      .error "Sarvam WAV data length is invalid"
    else .ok (.found (offset + 8) (chunkLengthAt buffer offset))
  else if sarvamTtsWavHeaderMaxBytes < paddedEnd buffer offset then
    .error "Sarvam WAV header chunk is too large"
  else if buffer.length < paddedEnd buffer offset then .ok (.waiting offset format)
  else if asciiAt buffer offset = fmtId then
    if chunkLengthAt buffer offset < 16 then .error "Sarvam WAV fmt chunk is invalid"
    else scanHeader buffer (paddedEnd buffer offset) (some (formatAt buffer offset))
  else scanHeader buffer (paddedEnd buffer offset) format
  termination_by buffer.length - offset
  decreasing_by all_goals unfold paddedEnd at *; omega

structure SarvamWavStreamDecoder where
  buffer : List UInt8 := []
  headerOffset : Nat := 12
  format : Option SarvamWavFormat := none
  headerParsed : Bool := false
  dataRemaining : Option Nat := none
  totalData : Nat := 0

namespace SarvamWavStreamDecoder

def parseHeader (decoder : SarvamWavStreamDecoder) : Except String SarvamWavStreamDecoder :=
  if decoder.buffer.length < 12 then .ok decoder
  else if asciiAt decoder.buffer 0 ≠ riffId ∨ asciiAt decoder.buffer 8 ≠ waveId then
    .error "Sarvam HTTP stream did not return RIFF/WAVE audio"
  else
    match scanHeader decoder.buffer decoder.headerOffset decoder.format with
    | .error message => .error message
    | .ok (.waiting headerOffset format) => .ok { decoder with headerOffset, format }
    | .ok (.found chunkStart chunkLength) =>
      let dataRemaining := if chunkLength = unknownDataLength then none else some chunkLength
      let availableDataBytes := decoder.buffer.length - chunkStart
      let maxBufferedDataBytes :=
        dataRemaining.getD (maxProviderTtsOutputBytes - decoder.totalData)
      if dataRemaining = none ∧ maxBufferedDataBytes < availableDataBytes then
        .error "Sarvam WAV output exceeded the size limit"
      else
        .ok { decoder with
          headerParsed := true
          dataRemaining
          buffer := (decoder.buffer.drop chunkStart).take
            (min availableDataBytes maxBufferedDataBytes) }

def appendDataChunk (chunk : List UInt8) (decoder : SarvamWavStreamDecoder) :
    Except String SarvamWavStreamDecoder :=
  let maxAppendBytes :=
    match decoder.dataRemaining with
    | none => maxProviderTtsOutputBytes - decoder.totalData - decoder.buffer.length
    | some dataRemaining => dataRemaining - decoder.buffer.length
  if decoder.dataRemaining = none ∧ maxAppendBytes < chunk.length then
    .error "Sarvam WAV output exceeded the size limit"
  else .ok { decoder with buffer := decoder.buffer ++ chunk.take maxAppendBytes }

/-- The data that can be given out, as one piece or none. -/
def takeData (decoder : SarvamWavStreamDecoder) : Except String (List (List UInt8) × SarvamWavStreamDecoder) :=
  if decoder.headerParsed = false ∨ decoder.dataRemaining = some 0 ∨ decoder.buffer = [] then
    .ok ([], decoder)
  else
    let take :=
      match decoder.dataRemaining with
      | none => decoder.buffer.length
      | some dataRemaining => min dataRemaining decoder.buffer.length
    let taken :=
      { decoder with
        buffer := decoder.buffer.drop take
        dataRemaining := decoder.dataRemaining.map (· - take)
        totalData := decoder.totalData + take }
    if maxProviderTtsOutputBytes < taken.totalData then
      .error "Sarvam WAV output exceeded the size limit"
    else .ok (if take = 0 then [] else [decoder.buffer.take take], taken)

/-- What `push` does to a chunk before it takes the data. -/
def appendChunk (chunk : List UInt8) (decoder : SarvamWavStreamDecoder) :
    Except String SarvamWavStreamDecoder :=
  if decoder.headerParsed then decoder.appendDataChunk chunk
  else
    let remainingHeaderBytes := sarvamTtsWavHeaderMaxBytes - decoder.buffer.length
    let headerBytes := chunk.take remainingHeaderBytes
    match ({ decoder with buffer := decoder.buffer ++ headerBytes }).parseHeader with
    | .error message => .error message
    | .ok parsed =>
      if parsed.headerParsed = false ∧ headerBytes.length < chunk.length then
        .error "Sarvam WAV header exceeded the size limit"
      else if parsed.headerParsed ∧ headerBytes.length < chunk.length then
        parsed.appendDataChunk (chunk.drop headerBytes.length)
      else .ok parsed

def push (chunk : List UInt8) (decoder : SarvamWavStreamDecoder) :
    Except String (List (List UInt8) × SarvamWavStreamDecoder) :=
  if chunk = [] then .ok ([], decoder)
  else if decoder.dataRemaining = some 0 then .ok ([], decoder)
  else
    match decoder.appendChunk chunk with
    | .error message => .error message
    | .ok appended =>
      match appended.takeData with
      | .error message => .error message
      | .ok (audio, taken) =>
        .ok (audio, if taken.dataRemaining = some 0 then { taken with buffer := [] } else taken)

def finish (decoder : SarvamWavStreamDecoder) : Except String Unit :=
  if decoder.headerParsed = false then .error "truncated WAV header"
  else if decoder.dataRemaining ≠ none ∧ decoder.dataRemaining ≠ some 0 then
    .error "truncated WAV data"
  else if decoder.totalData = 0 ∨ decoder.totalData % 2 ≠ 0 then .error "invalid WAV PCM data"
  else .ok ()

/-- Pushes and a finish, with the pieces joined. -/
def decode : List (List UInt8) → SarvamWavStreamDecoder → Except String (List UInt8)
  | [], decoder =>
    match decoder.finish with
    | .error message => .error message
    | .ok () => .ok []
  | chunk :: chunks, decoder =>
    match decoder.push chunk with
    | .error message => .error message
    | .ok (audio, pushed) =>
      match decode chunks pushed with
      | .error message => .error message
      | .ok rest => .ok (audio.flatten ++ rest)

end SarvamWavStreamDecoder

/-! ## Reading the whole stream at once -/

def scanned (stream : List UInt8) : Except String HeaderScan :=
  if stream.length < 12 then .ok (.waiting 12 none)
  else if asciiAt stream 0 ≠ riffId ∨ asciiAt stream 8 ≠ waveId then
    .error "Sarvam HTTP stream did not return RIFF/WAVE audio"
  else scanHeader stream 12 none

def decoded (stream : List UInt8) : Option (List UInt8) :=
  match scanned stream with
  | .ok (.found chunkStart chunkLength) =>
    if sarvamTtsWavHeaderMaxBytes < chunkStart then none
    else if chunkLength = unknownDataLength then
      if stream.drop chunkStart = [] ∨ (stream.drop chunkStart).length % 2 ≠ 0 ∨
          maxProviderTtsOutputBytes < (stream.drop chunkStart).length then none
      else some (stream.drop chunkStart)
    else if (stream.drop chunkStart).length < chunkLength then none
    else some ((stream.drop chunkStart).take chunkLength)
  | _ => none

/-! ## What is read does not change when more comes -/

variable {buffer : List UInt8} {start : Nat}

theorem idAt_append (within : start + 4 ≤ buffer.length) (more : List UInt8) :
    idAt (buffer ++ more) start = idAt buffer start := by
  unfold idAt
  rw [List.drop_append_of_le_length (by omega), List.take_append_of_le_length]
  rw [List.length_drop]
  omega

theorem asciiAt_append (within : start + 4 ≤ buffer.length) (more : List UInt8) :
    asciiAt (buffer ++ more) start = asciiAt buffer start := by
  unfold asciiAt
  rw [idAt_append within]

theorem readUInt16LE_append (within : start + 2 ≤ buffer.length) (more : List UInt8) :
    readUInt16LE (buffer ++ more) start = readUInt16LE buffer start := by
  unfold readUInt16LE
  rw [List.getD_append _ _ _ _ (by omega), List.getD_append _ _ _ _ (by omega)]

theorem readUInt32LE_append (within : start + 4 ≤ buffer.length) (more : List UInt8) :
    readUInt32LE (buffer ++ more) start = readUInt32LE buffer start := by
  unfold readUInt32LE
  rw [readUInt16LE_append (by omega), readUInt16LE_append (by omega)]

variable {offset : Nat}

theorem chunkLengthAt_append (within : offset + 8 ≤ buffer.length) (more : List UInt8) :
    chunkLengthAt (buffer ++ more) offset = chunkLengthAt buffer offset :=
  readUInt32LE_append (by omega) more

theorem paddedEnd_append (within : offset + 8 ≤ buffer.length) (more : List UInt8) :
    paddedEnd (buffer ++ more) offset = paddedEnd buffer offset := by
  unfold paddedEnd
  rw [chunkLengthAt_append within]

theorem formatAt_append (within : offset + 24 ≤ buffer.length) (more : List UInt8) :
    formatAt (buffer ++ more) offset = formatAt buffer offset := by
  unfold formatAt
  rw [readUInt16LE_append (by omega), readUInt16LE_append (by omega), readUInt32LE_append (by omega),
    readUInt16LE_append (by omega)]

theorem scanHeader_append (buffer : List UInt8) (offset : Nat) (format : Option SarvamWavFormat)
    (more : List UInt8) :
    scanHeader (buffer ++ more) offset format =
      match scanHeader buffer offset format with
      | .ok (.waiting headerOffset format) => scanHeader (buffer ++ more) headerOffset format
      | ended => ended := by
  fun_induction scanHeader buffer offset format with
  | case1 offset format far => rw [scanHeader, if_pos far]
  | case2 => rfl
  | case3 offset format near header data bad =>
    have fits : offset + 8 ≤ buffer.length := by omega
    rw [scanHeader, if_neg near, if_neg (by rw [List.length_append]; omega),
      if_pos ((asciiAt_append (by omega) more).trans data), if_pos bad]
  | case4 offset format near header data good bad =>
    have fits : offset + 8 ≤ buffer.length := by omega
    rw [← chunkLengthAt_append fits more] at bad
    rw [scanHeader, if_neg near, if_neg (by rw [List.length_append]; omega),
      if_pos ((asciiAt_append (by omega) more).trans data), if_neg good, if_pos bad]
  | case5 offset format near header data good valid large =>
    have fits : offset + 8 ≤ buffer.length := by omega
    rw [← chunkLengthAt_append fits more] at valid large
    rw [scanHeader, if_neg near, if_neg (by rw [List.length_append]; omega),
      if_pos ((asciiAt_append (by omega) more).trans data), if_neg good, if_neg valid, if_pos large]
  | case6 offset format near header data good valid small =>
    have fits : offset + 8 ≤ buffer.length := by omega
    rw [← chunkLengthAt_append fits more] at valid small ⊢
    rw [scanHeader, if_neg near, if_neg (by rw [List.length_append]; omega),
      if_pos ((asciiAt_append (by omega) more).trans data), if_neg good, if_neg valid, if_neg small]
  | case7 offset format near header other large =>
    have fits : offset + 8 ≤ buffer.length := by omega
    rw [← asciiAt_append (by omega) more] at other
    rw [← paddedEnd_append fits more] at large
    rw [scanHeader, if_neg near, if_neg (by rw [List.length_append]; omega), if_neg other, if_pos large]
  | case8 => rfl
  | case9 offset format near header other small whole fmt short =>
    have fits : offset + 8 ≤ buffer.length := by omega
    rw [← asciiAt_append (by omega) more] at other fmt
    rw [← paddedEnd_append fits more] at small whole
    rw [← chunkLengthAt_append fits more] at short
    rw [scanHeader, if_neg near, if_neg (by rw [List.length_append]; omega), if_neg other, if_neg small,
      if_neg (by rw [List.length_append]; omega), if_pos fmt, if_pos short]
  | case10 offset format near header other small whole fmt long ih =>
    have fits : offset + 8 ≤ buffer.length := by omega
    have body : offset + 24 ≤ buffer.length := by
      unfold paddedEnd at whole
      omega
    rw [← ih]
    rw [← asciiAt_append (by omega) more] at other fmt
    rw [← paddedEnd_append fits more] at small whole ⊢
    rw [← chunkLengthAt_append fits more] at long
    rw [scanHeader, if_neg near, if_neg (by rw [List.length_append]; omega), if_neg other, if_neg small,
      if_neg (by rw [List.length_append]; omega), if_pos fmt, if_neg long, formatAt_append body]
  | case11 offset format near header other small whole unknown ih =>
    have fits : offset + 8 ≤ buffer.length := by omega
    rw [← ih]
    rw [← asciiAt_append (by omega) more] at other unknown
    rw [← paddedEnd_append fits more] at small whole ⊢
    rw [scanHeader, if_neg near, if_neg (by rw [List.length_append]; omega), if_neg other, if_neg small,
      if_neg (by rw [List.length_append]; omega), if_neg unknown]

theorem scanned_append (seen more : List UInt8) :
    scanned (seen ++ more) =
      match scanned seen with
      | .ok (.waiting headerOffset format) =>
        if (seen ++ more).length < 12 then .ok (.waiting headerOffset format)
        else if asciiAt (seen ++ more) 0 ≠ riffId ∨ asciiAt (seen ++ more) 8 ≠ waveId then
          .error "Sarvam HTTP stream did not return RIFF/WAVE audio"
        else scanHeader (seen ++ more) headerOffset format
      | ended => ended := by
  by_cases short : seen.length < 12
  · rw [scanned, scanned, if_pos short]
  · have long : ¬(seen ++ more).length < 12 := by
      rw [List.length_append]
      omega
    rw [scanned, scanned, if_neg short, if_neg long, asciiAt_append (by omega), asciiAt_append (by omega)]
    by_cases tags : asciiAt seen 0 ≠ riffId ∨ asciiAt seen 8 ≠ waveId
    · rw [if_pos tags, if_pos tags]
    · rw [if_neg tags, if_neg tags, scanHeader_append]
      cases ended : scanHeader seen 12 none with
      | error message => rfl
      | ok scan =>
        cases scan with
        | waiting headerOffset format =>
          dsimp only
          rw [if_neg long, if_neg tags]
        | found chunkStart chunkLength => rfl

variable {seen : List UInt8} {chunkStart chunkLength : Nat}

theorem scanned_found_append (found : scanned seen = .ok (.found chunkStart chunkLength))
    (more : List UInt8) :
    scanned (seen ++ more) = .ok (.found chunkStart chunkLength) := by
  rw [scanned_append, found]

theorem decoded_of_error {message : String} (failed : scanned seen = .error message)
    (more : List UInt8) : decoded (seen ++ more) = none := by
  unfold decoded
  rw [scanned_append, failed]

variable {format : Option SarvamWavFormat}

theorem scanHeader_found
    (found : scanHeader buffer offset format = .ok (.found chunkStart chunkLength)) :
    offset + 8 ≤ chunkStart ∧ chunkStart ≤ buffer.length ∧ chunkLength ≠ 0 ∧
      (chunkLength ≠ unknownDataLength →
        chunkLength % 2 = 0 ∧ chunkLength ≤ maxProviderTtsOutputBytes) := by
  fun_induction scanHeader buffer offset format with
  | case6 offset format near header data good valid small =>
    obtain ⟨rfl, rfl⟩ := HeaderScan.found.inj (Except.ok.inj found)
    refine ⟨by omega, by omega, fun zero => valid (Or.inl zero), fun known => ⟨?_, ?_⟩⟩
    · by_contra odd
      exact valid (Or.inr ⟨known, odd⟩)
    · by_contra large
      exact small ⟨known, by omega⟩
  | case10 offset format near header other small whole fmt long ih =>
    obtain ⟨after, rest⟩ := ih found
    unfold paddedEnd at after
    exact ⟨by omega, rest⟩
  | case11 offset format near header other small whole unknown ih =>
    obtain ⟨after, rest⟩ := ih found
    unfold paddedEnd at after
    exact ⟨by omega, rest⟩
  | _ => cases found

theorem scanned_found (found : scanned seen = .ok (.found chunkStart chunkLength)) :
    chunkStart ≤ seen.length ∧ chunkLength ≠ 0 ∧
      (chunkLength ≠ unknownDataLength →
        chunkLength % 2 = 0 ∧ chunkLength ≤ maxProviderTtsOutputBytes) := by
  unfold scanned at found
  split at found
  · cases found
  · split at found
    · cases found
    · exact (scanHeader_found found).2

theorem scanHeader_waiting {headerOffset : Nat} {format' : Option SarvamWavFormat}
    (waiting : scanHeader buffer offset format = .ok (.waiting headerOffset format')) :
    buffer.length < headerOffset + 8 ∨
      headerOffset + 8 ≤ buffer.length ∧ asciiAt buffer headerOffset ≠ dataId ∧
        buffer.length < paddedEnd buffer headerOffset := by
  fun_induction scanHeader buffer offset format with
  | case2 offset format near short =>
    obtain ⟨rfl, rfl⟩ := HeaderScan.waiting.inj (Except.ok.inj waiting)
    exact Or.inl short
  | case8 offset format near header other small short =>
    obtain ⟨rfl, rfl⟩ := HeaderScan.waiting.inj (Except.ok.inj waiting)
    exact Or.inr ⟨by omega, other, short⟩
  | case10 offset format near header other small whole fmt long ih => exact ih waiting
  | case11 offset format near header other small whole unknown ih => exact ih waiting
  | _ => cases waiting

theorem decoded_of_waiting {headerOffset : Nat}
    (waiting : scanned seen = .ok (.waiting headerOffset format))
    (full : sarvamTtsWavHeaderMaxBytes ≤ seen.length) (more : List UInt8) :
    decoded (seen ++ more) = none := by
  have long : ¬seen.length < 12 := by
    unfold sarvamTtsWavHeaderMaxBytes at full
    omega
  have waits : scanHeader seen 12 none = .ok (.waiting headerOffset format) := by
    unfold scanned at waiting
    rw [if_neg long] at waiting
    split at waiting
    · cases waiting
    · exact waiting
  unfold decoded
  rw [scanned_append, waiting]
  dsimp only
  rw [if_neg (by rw [List.length_append]; omega)]
  by_cases tags : asciiAt (seen ++ more) 0 ≠ riffId ∨ asciiAt (seen ++ more) 8 ≠ waveId
  · rw [if_pos tags]
  rw [if_neg tags]
  cases ended : scanHeader (seen ++ more) headerOffset format with
  | error message => rfl
  | ok scan =>
    cases scan with
    | waiting => rfl
    | found chunkStart chunkLength =>
      have after := (scanHeader_found ended).1
      rcases scanHeader_waiting waits with short | ⟨header, other, short⟩
      · exact if_pos (by omega)
      -- The rest of the chunk it waits for is beyond the limit.
      · rw [← asciiAt_append (by omega) more] at other
        rw [← paddedEnd_append header more] at short
        rw [scanHeader, if_neg other, if_pos (Nat.lt_of_le_of_lt full short)] at ended
        split at ended
        · cases ended
        · split at ended <;> cases ended

/-! ## The decoder follows the stream -/

/-- The decoder has no more than a part of the header. -/
structure InHeader (seen : List UInt8) (decoder : SarvamWavStreamDecoder) : Prop where
  buffer : decoder.buffer = seen
  unparsed : decoder.headerParsed = false
  remaining : decoder.dataRemaining = none
  total : decoder.totalData = 0
  scan : scanned seen = .ok (.waiting decoder.headerOffset decoder.format)
  short : seen.length ≤ sarvamTtsWavHeaderMaxBytes

/-- The decoder has found the data, has given out `output` and holds what came after it. -/
structure InData (seen output : List UInt8) (decoder : SarvamWavStreamDecoder)
    (chunkStart chunkLength : Nat) : Prop where
  found : scanned seen = .ok (.found chunkStart chunkLength)
  early : chunkStart ≤ sarvamTtsWavHeaderMaxBytes
  parsed : decoder.headerParsed = true
  total : decoder.totalData = output.length
  unknown : chunkLength = unknownDataLength →
    decoder.dataRemaining = none ∧ output ++ decoder.buffer = seen.drop chunkStart ∧
      output.length + decoder.buffer.length ≤ maxProviderTtsOutputBytes
  known : chunkLength ≠ unknownDataLength →
    decoder.dataRemaining = some (chunkLength - output.length) ∧
      output ++ decoder.buffer = (seen.drop chunkStart).take chunkLength

namespace SarvamWavStreamDecoder

variable {decoder : SarvamWavStreamDecoder}

theorem parseHeader_eq {seen more : List UInt8} (buffer : decoder.buffer = seen ++ more)
    (scan : scanned seen = .ok (.waiting decoder.headerOffset decoder.format)) :
    decoder.parseHeader =
      match scanned decoder.buffer with
      | .error message => .error message
      | .ok (.waiting headerOffset format) => .ok { decoder with headerOffset, format }
      | .ok (.found chunkStart chunkLength) =>
        let dataRemaining := if chunkLength = unknownDataLength then none else some chunkLength
        let availableDataBytes := decoder.buffer.length - chunkStart
        let maxBufferedDataBytes :=
          dataRemaining.getD (maxProviderTtsOutputBytes - decoder.totalData)
        if dataRemaining = none ∧ maxBufferedDataBytes < availableDataBytes then
          .error "Sarvam WAV output exceeded the size limit"
        else
          .ok { decoder with
            headerParsed := true
            dataRemaining
            buffer := (decoder.buffer.drop chunkStart).take
              (min availableDataBytes maxBufferedDataBytes) } := by
  unfold parseHeader
  rw [buffer, scanned_append, scan]
  dsimp only
  by_cases short : (seen ++ more).length < 12
  · rw [if_pos short, if_pos short, ← buffer]
  · rw [if_neg short, if_neg short]
    by_cases tags : asciiAt (seen ++ more) 0 ≠ riffId ∨ asciiAt (seen ++ more) 8 ≠ waveId
    · rw [if_pos tags, if_pos tags]
    · rw [if_neg tags, if_neg tags]

variable {seen output : List UInt8}

theorem appendDataChunk_follows (inData : InData seen output decoder chunkStart chunkLength)
    (chunk : List UInt8) :
    match decoder.appendDataChunk chunk with
    | .error _ => ∀ more, decoded (seen ++ chunk ++ more) = none
    | .ok appended => InData (seen ++ chunk) output appended chunkStart chunkLength := by
  have start := (scanned_found inData.found).1
  have found := scanned_found_append inData.found chunk
  unfold appendDataChunk
  dsimp only
  by_cases length : chunkLength = unknownDataLength
  · obtain ⟨remaining, held, within⟩ := inData.unknown length
    rw [remaining]
    dsimp only
    by_cases large : maxProviderTtsOutputBytes - decoder.totalData - decoder.buffer.length < chunk.length
    · rw [if_pos ⟨rfl, large⟩]
      intro more
      have held := congrArg List.length held
      rw [inData.total] at large
      rw [List.length_append, List.length_drop] at held
      unfold decoded
      rw [scanned_found_append found]
      dsimp only
      rw [if_neg (by have := inData.early; omega), if_pos length, if_pos]
      right; right
      rw [List.length_drop, List.length_append, List.length_append]
      omega
    · rw [if_neg fun beyond => large beyond.2]
      rw [inData.total] at large
      refine ⟨found, inData.early, inData.parsed, inData.total, fun _ => ⟨rfl, ?_, ?_⟩,
        fun known => (known length).elim⟩
      · show output ++ (decoder.buffer ++ chunk.take _) = _
        rw [List.take_of_length_le (by rw [inData.total]; omega), ← List.append_assoc, held,
          List.drop_append_of_le_length start]
      · show output.length + (decoder.buffer ++ chunk.take _).length ≤ _
        rw [List.length_append, List.length_take]
        omega
  · obtain ⟨remaining, held⟩ := inData.known length
    rw [remaining]
    dsimp only
    rw [if_neg fun beyond => nomatch beyond.1]
    refine ⟨found, inData.early, inData.parsed, inData.total, fun unknown => (length unknown).elim,
      fun _ => ⟨rfl, ?_⟩⟩
    show output ++ (decoder.buffer ++ chunk.take _) = _
    rw [← List.append_assoc, held, List.drop_append_of_le_length start, List.take_append]
    congr 2
    have held := congrArg List.length held
    rw [List.length_append, List.length_take] at held
    omega

theorem takeData_follows (inData : InData seen output decoder chunkStart chunkLength) :
    ∃ audio taken, decoder.takeData = .ok (audio, taken) ∧ taken.buffer = [] ∧
      InData seen (output ++ audio.flatten) taken chunkStart chunkLength := by
  by_cases empty : decoder.buffer = []
  · refine ⟨[], decoder, ?_, empty, by simpa using inData⟩
    unfold takeData
    rw [if_pos (Or.inr (Or.inr empty))]
  have held : 0 < decoder.buffer.length := List.length_pos_iff.mpr empty
  have total := inData.total
  -- No more is held than is wanted.
  have wanted : ∀ remaining, decoder.dataRemaining = some remaining →
      decoder.buffer.length ≤ remaining := by
    intro remaining same
    by_cases length : chunkLength = unknownDataLength
    · rw [(inData.unknown length).1] at same
      cases same
    · have held := congrArg List.length (inData.known length).2
      rw [List.length_append, List.length_take] at held
      rw [(inData.known length).1] at same
      cases same
      omega
  have bounded : decoder.totalData + decoder.buffer.length ≤ maxProviderTtsOutputBytes := by
    rw [total]
    by_cases length : chunkLength = unknownDataLength
    · exact (inData.unknown length).2.2
    · have held := congrArg List.length (inData.known length).2
      have small := ((scanned_found inData.found).2.2 length).2
      rw [List.length_append, List.length_take] at held
      omega
  have all : decoder.takeData =
      .ok ([decoder.buffer],
        { decoder with
          buffer := []
          dataRemaining := decoder.dataRemaining.map (· - decoder.buffer.length)
          totalData := decoder.totalData + decoder.buffer.length }) := by
    have open_ : ¬(decoder.headerParsed = false ∨ decoder.dataRemaining = some 0 ∨
        decoder.buffer = []) := by
      rintro (unparsed | complete | none)
      · rw [inData.parsed] at unparsed
        cases unparsed
      · have := wanted 0 complete
        omega
      · exact empty none
    unfold takeData
    rw [if_neg open_]
    dsimp only
    cases remaining : decoder.dataRemaining with
    | none =>
      dsimp only
      rw [if_neg (Nat.not_lt.mpr bounded), if_neg (by omega)]
      simp
    | some rest =>
      dsimp only
      simp only [Nat.min_eq_right (wanted rest remaining)]
      rw [if_neg (Nat.not_lt.mpr bounded), if_neg (by omega)]
      simp
  refine ⟨_, _, all, rfl, inData.found, inData.early, inData.parsed, ?_, fun unknown => ?_,
    fun known => ?_⟩
  · show decoder.totalData + decoder.buffer.length = _
    simp [total]
  · obtain ⟨remaining, held, within⟩ := inData.unknown unknown
    refine ⟨?_, ?_, ?_⟩
    · show decoder.dataRemaining.map _ = _
      rw [remaining]
      rfl
    · simpa using held
    · simpa using within
  · obtain ⟨remaining, held⟩ := inData.known known
    refine ⟨?_, by simpa using held⟩
    show decoder.dataRemaining.map _ = _
    rw [remaining]
    simp [Nat.sub_sub]

def Follows (seen output : List UInt8) (decoder : SarvamWavStreamDecoder) : Prop :=
  output = [] ∧ InHeader seen decoder ∨
    decoder.buffer = [] ∧
      ∃ chunkStart chunkLength, InData seen output decoder chunkStart chunkLength

theorem follows_new : Follows [] [] {} :=
  Or.inl ⟨rfl, rfl, rfl, rfl, rfl, rfl, Nat.zero_le _⟩

theorem appendChunk_follows_header (inHeader : InHeader seen decoder) (chunk : List UInt8) :
    match decoder.appendChunk chunk with
    | .error _ => ∀ more, decoded (seen ++ chunk ++ more) = none
    | .ok appended =>
      InHeader (seen ++ chunk) appended ∨
        ∃ chunkStart chunkLength, InData (seen ++ chunk) [] appended chunkStart chunkLength := by
  have short := inHeader.short
  unfold appendChunk
  rw [inHeader.unparsed, inHeader.buffer]
  dsimp only
  rw [if_neg Bool.false_ne_true]
  generalize header : chunk.take (sarvamTtsWavHeaderMaxBytes - seen.length) = headerBytes
  have length : headerBytes.length = min (sarvamTtsWavHeaderMaxBytes - seen.length) chunk.length := by
    rw [← header, List.length_take]
  have split : chunk = headerBytes ++ chunk.drop headerBytes.length := by
    rw [length, ← header]
    rcases Nat.le_total (sarvamTtsWavHeaderMaxBytes - seen.length) chunk.length with less | more
    · rw [Nat.min_eq_left less, List.take_append_drop]
    · rw [Nat.min_eq_right more, List.take_of_length_le more, List.drop_length, List.append_nil]
  have parse := @parseHeader_eq { decoder with buffer := seen ++ headerBytes } seen headerBytes rfl
    inHeader.scan
  dsimp only at parse
  rw [inHeader.unparsed] at parse
  rw [parse]
  have regroup : ∀ more, seen ++ chunk ++ more =
      seen ++ headerBytes ++ (chunk.drop headerBytes.length ++ more) := by
    intro more
    conv_lhs => rw [split]
    simp only [List.append_assoc]
  cases scan : scanned (seen ++ headerBytes) with
  | error message =>
    intro more
    rw [regroup]
    exact decoded_of_error scan _
  | ok ended =>
    cases ended with
    | waiting headerOffset format =>
      dsimp only
      by_cases cut : headerBytes.length < chunk.length
      · rw [if_pos ⟨rfl, cut⟩]
        intro more
        rw [regroup]
        refine decoded_of_waiting scan ?_ _
        rw [List.length_append]
        omega
      · have whole : headerBytes = chunk := by
          rw [← header, List.take_of_length_le (by omega)]
        rw [if_neg fun beyond => cut beyond.2, if_neg fun beyond => cut beyond.2]
        rw [whole] at scan ⊢
        refine Or.inl ⟨rfl, rfl, inHeader.remaining, inHeader.total, scan, ?_⟩
        rw [List.length_append]
        rw [whole] at length
        omega
    | found chunkStart chunkLength =>
      have fits : (seen ++ headerBytes).length ≤ sarvamTtsWavHeaderMaxBytes := by
        rw [List.length_append]
        omega
      have start := (scanned_found scan).1
      have parsed : InData (seen ++ headerBytes) []
          { decoder with
            headerParsed := true
            dataRemaining := if chunkLength = unknownDataLength then none else some chunkLength
            buffer := ((seen ++ headerBytes).drop chunkStart).take
              (min ((seen ++ headerBytes).length - chunkStart)
                ((if chunkLength = unknownDataLength then none else some chunkLength).getD
                  (maxProviderTtsOutputBytes - decoder.totalData))) } chunkStart chunkLength := by
        refine ⟨scan, Nat.le_trans start fits, rfl, inHeader.total, fun unknown => ?_, fun known => ?_⟩
        · rw [if_pos unknown, inHeader.total]
          have whole : (seen ++ headerBytes).length - chunkStart ≤
              (none : Option Nat).getD (maxProviderTtsOutputBytes - 0) := by
            unfold sarvamTtsWavHeaderMaxBytes at fits
            unfold maxProviderTtsOutputBytes
            rw [Option.getD_none]
            omega
          rw [Nat.min_eq_left whole, List.take_of_length_le (Nat.le_of_eq List.length_drop)]
          refine ⟨rfl, rfl, ?_⟩
          show 0 + (List.drop _ _).length ≤ _
          rw [List.length_drop, Nat.zero_add]
          exact whole
        · rw [if_neg known]
          refine ⟨rfl, ?_⟩
          show (List.drop _ _).take _ = _
          rw [Option.getD_some, ← List.take_take]
          refine List.take_of_length_le ?_
          rw [List.length_take, List.length_drop]
          exact Nat.min_le_right ..
      have bounded : ¬((if chunkLength = unknownDataLength then none else some chunkLength) = none ∧
          (if chunkLength = unknownDataLength then none else some chunkLength).getD
            (maxProviderTtsOutputBytes - decoder.totalData) <
          (seen ++ headerBytes).length - chunkStart) := by
        rintro ⟨unknown, large⟩
        rw [unknown, Option.getD_none, inHeader.total] at large
        unfold sarvamTtsWavHeaderMaxBytes at fits
        unfold maxProviderTtsOutputBytes at large
        omega
      dsimp only
      rw [if_neg bounded]
      dsimp only
      rw [if_neg fun beyond => nomatch beyond.1]
      by_cases cut : headerBytes.length < chunk.length
      · rw [if_pos ⟨rfl, cut⟩]
        have appended := appendDataChunk_follows parsed (chunk.drop headerBytes.length)
        have whole : seen ++ headerBytes ++ chunk.drop headerBytes.length = seen ++ chunk := by
          have := regroup []
          rw [List.append_nil, List.append_nil] at this
          exact this.symm
        rw [whole] at appended
        revert appended
        split
        · exact id
        · exact fun follows => Or.inr ⟨_, _, follows⟩
      · have whole : headerBytes = chunk := by
          rw [← header, List.take_of_length_le (by omega)]
        rw [if_neg fun beyond => cut beyond.2]
        rw [whole] at parsed ⊢
        exact Or.inr ⟨_, _, parsed⟩

theorem push_follows (follows : Follows seen output decoder) (chunk : List UInt8) :
    match decoder.push chunk with
    | .error _ => ∀ more, decoded (seen ++ chunk ++ more) = none
    | .ok (audio, pushed) => Follows (seen ++ chunk) (output ++ audio.flatten) pushed := by
  have taken : ∀ {decoder : SarvamWavStreamDecoder} {chunkStart chunkLength : Nat},
      InData (seen ++ chunk) output decoder chunkStart chunkLength →
      match decoder.takeData with
      | .error _ => ∀ more, decoded (seen ++ chunk ++ more) = none
      | .ok (audio, taken) => Follows (seen ++ chunk) (output ++ audio.flatten)
          (if taken.dataRemaining = some 0 then { taken with buffer := [] } else taken) := by
    intro decoder chunkStart chunkLength inData
    obtain ⟨audio, taken, gave, empty, follows⟩ := takeData_follows inData
    rw [gave]
    dsimp only
    have same : (if taken.dataRemaining = some 0 then { taken with buffer := [] } else taken) = taken := by
      rw [← empty, ite_self]
    rw [same]
    exact Or.inr ⟨empty, _, _, follows⟩
  unfold push
  by_cases none : chunk = []
  · rw [if_pos none, none]
    simpa using follows
  rw [if_neg none]
  rcases follows with ⟨rfl, inHeader⟩ | ⟨empty, chunkStart, chunkLength, inData⟩
  · rw [inHeader.remaining, if_neg nofun]
    have appended := appendChunk_follows_header inHeader chunk
    cases result : decoder.appendChunk chunk with
    | error message => rwa [result] at appended
    | ok appendedDecoder =>
      rw [result] at appended
      dsimp only at appended ⊢
      rcases appended with stillHeader | ⟨chunkStart, chunkLength, inData⟩
      · have nothing : appendedDecoder.takeData = .ok ([], appendedDecoder) := by
          unfold takeData
          rw [if_pos (Or.inl stillHeader.unparsed)]
        rw [nothing]
        dsimp only
        rw [stillHeader.remaining, if_neg nofun]
        exact Or.inl ⟨rfl, stillHeader⟩
      · have := taken inData
        revert this
        split
        · exact id
        · exact id
  · have found := scanned_found_append inData.found chunk
    have start := (scanned_found inData.found).1
    by_cases complete : decoder.dataRemaining = some 0
    -- All of the data has been given out, so what follows does not matter.
    · rw [if_pos complete]
      dsimp only
      rw [List.flatten_nil, List.append_nil]
      have known : chunkLength ≠ unknownDataLength := by
        intro unknown
        rw [(inData.unknown unknown).1] at complete
        cases complete
      obtain ⟨remaining, held⟩ := inData.known known
      rw [empty, List.append_nil] at held
      rw [complete] at remaining
      have rest : 0 = chunkLength - output.length := Option.some.inj remaining
      have length := congrArg List.length held
      rw [List.length_take] at length
      refine Or.inr ⟨empty, chunkStart, chunkLength, found, inData.early, inData.parsed, inData.total,
        fun unknown => (known unknown).elim, fun _ => ⟨?_, ?_⟩⟩
      · rw [complete, rest]
      · rw [empty, List.append_nil, List.drop_append_of_le_length start,
          List.take_append_of_le_length (by omega)]
        exact held
    · rw [if_neg complete]
      have appended := appendDataChunk_follows inData chunk
      have same : decoder.appendChunk chunk = decoder.appendDataChunk chunk := by
        unfold appendChunk
        rw [if_pos inData.parsed]
      rw [same]
      cases result : decoder.appendDataChunk chunk with
      | error message => rwa [result] at appended
      | ok appendedDecoder =>
        rw [result] at appended
        have := taken appended
        dsimp only
        revert this
        split
        · exact id
        · exact id

theorem finish_follows (follows : Follows seen output decoder) :
    decoded seen = if decoder.finish = .ok () then some output else none := by
  unfold finish decoded
  rcases follows with ⟨rfl, inHeader⟩ | ⟨empty, chunkStart, chunkLength, inData⟩
  · rw [inHeader.scan, if_pos inHeader.unparsed, if_neg nofun]
  · have parsed : ¬decoder.headerParsed = false := by
      rw [inData.parsed]
      nofun
    rw [inData.found, if_neg parsed, inData.total]
    dsimp only
    rw [if_neg (Nat.not_lt.mpr inData.early)]
    by_cases length : chunkLength = unknownDataLength
    · obtain ⟨remaining, held, within⟩ := inData.unknown length
      rw [empty, List.append_nil] at held
      rw [empty, List.length_nil, Nat.add_zero] at within
      have open' : ¬((none : Option Nat) ≠ none ∧ (none : Option Nat) ≠ some 0) :=
        fun more => more.1 rfl
      rw [if_pos length, ← held, remaining, if_neg open']
      by_cases wrong : output.length = 0 ∨ output.length % 2 ≠ 0
      · have refused : output = [] ∨ output.length % 2 ≠ 0 ∨
            maxProviderTtsOutputBytes < output.length :=
          wrong.imp List.length_eq_zero_iff.mp Or.inl
        rw [if_pos wrong, if_pos refused, if_neg nofun]
      · have taken : ¬(output = [] ∨ output.length % 2 ≠ 0 ∨
            maxProviderTtsOutputBytes < output.length) := by
          rintro (none | odd | large)
          · exact wrong (Or.inl (List.length_eq_zero_iff.mpr none))
          · exact wrong (Or.inr odd)
          · omega
        rw [if_neg wrong, if_neg taken, if_pos rfl]
    · obtain ⟨remaining, held⟩ := inData.known length
      obtain ⟨-, positive, valid⟩ := scanned_found inData.found
      have even := (valid length).1
      rw [empty, List.append_nil] at held
      rw [if_neg length, ← held, remaining]
      have taken := congrArg List.length held
      rw [List.length_take] at taken
      by_cases short : (seen.drop chunkStart).length < chunkLength
      · have missing : some (chunkLength - output.length) ≠ none ∧
            some (chunkLength - output.length) ≠ some 0 := by
          refine ⟨nofun, fun complete => ?_⟩
          have := Option.some.inj complete
          omega
        rw [if_pos short, if_pos missing, if_neg nofun]
      · have whole : output.length = chunkLength := by omega
        have complete : ¬(some 0 ≠ none ∧ some 0 ≠ some 0) := fun more => more.2 rfl
        have taken : ¬(chunkLength = 0 ∨ chunkLength % 2 ≠ 0) := by
          rintro (none | odd)
          · exact positive none
          · exact odd even
        rw [if_neg short, whole, Nat.sub_self, if_neg complete, if_neg taken, if_pos rfl]

theorem decode_follows (follows : Follows seen output decoder) (chunks : List (List UInt8)) :
    decoded (seen ++ chunks.flatten) = (decode chunks decoder).toOption.map (output ++ ·) := by
  induction chunks generalizing seen output decoder with
  | nil =>
    rw [List.flatten_nil, List.append_nil, finish_follows follows]
    unfold decode
    cases decoder.finish with
    | error message => rfl
    | ok done =>
      cases done
      simp [Except.toOption]
  | cons chunk chunks ih =>
    have pushed := push_follows follows chunk
    unfold decode
    rw [List.flatten_cons, ← List.append_assoc]
    cases result : decoder.push chunk with
    | error message =>
      rw [result] at pushed
      exact pushed _
    | ok gave =>
      obtain ⟨audio, next⟩ := gave
      rw [result] at pushed
      rw [ih pushed]
      dsimp only
      cases decode chunks next with
      | error message => rfl
      | ok rest => simp [Except.toOption]

theorem decode_eq_decoded (chunks : List (List UInt8)) :
    (decode chunks {}).toOption = decoded chunks.flatten := by
  have follows := decode_follows follows_new chunks
  rw [List.nil_append] at follows
  rw [follows]
  simp

end SarvamWavStreamDecoder

end Tvic
