import Tvic.Lib.Text

/-!
# Decoding UTF-8 as it comes in

`TextDecoder` for UTF-8, with `stream: true` or without: the decoder takes one byte at a time, so that
the bytes of a text may be split anywhere, and gives U+FFFD for what is not UTF-8. `decode_encode` is the
round trip.
-/
namespace Tvic.Lib

/-- What the decoder remembers of a character that has not ended. -/
structure Utf8Decoder where
  codePoint : Nat := 0
  bytesSeen : Nat := 0
  bytesNeeded : Nat := 0
  lowerBoundary : Nat := 0x80
  upperBoundary : Nat := 0xBF
  deriving DecidableEq, Repr

namespace Utf8Decoder

/-- The first byte of a character, with the code points it gives. -/
def first (byte : Nat) : Utf8Decoder × List Nat :=
  if byte ≤ 0x7F then ({}, [byte])
  else if 0xC2 ≤ byte ∧ byte ≤ 0xDF then ({ bytesNeeded := 1, codePoint := byte % 0x20 }, [])
  else if 0xE0 ≤ byte ∧ byte ≤ 0xEF then
    ({ bytesNeeded := 2
       codePoint := byte % 0x10
       lowerBoundary := if byte = 0xE0 then 0xA0 else 0x80
       upperBoundary := if byte = 0xED then 0x9F else 0xBF }, [])
  else if 0xF0 ≤ byte ∧ byte ≤ 0xF4 then
    ({ bytesNeeded := 3
       codePoint := byte % 8
       lowerBoundary := if byte = 0xF0 then 0x90 else 0x80
       upperBoundary := if byte = 0xF4 then 0x8F else 0xBF }, [])
  else ({}, [0xFFFD])

/-- A byte, with the code points it gives. A byte that does not go on with the character begins another. -/
def next (decoder : Utf8Decoder) (byte : Nat) : Utf8Decoder × List Nat :=
  if decoder.bytesNeeded = 0 then first byte
  else if byte < decoder.lowerBoundary ∨ decoder.upperBoundary < byte then
    ((first byte).1, 0xFFFD :: (first byte).2)
  else if decoder.bytesSeen + 1 = decoder.bytesNeeded then
    ({}, [decoder.codePoint * 0x40 + byte % 0x40])
  else
    ({ codePoint := decoder.codePoint * 0x40 + byte % 0x40
       bytesSeen := decoder.bytesSeen + 1
       bytesNeeded := decoder.bytesNeeded }, [])

def run : Utf8Decoder → List UInt8 → Utf8Decoder × List Nat
  | decoder, [] => (decoder, [])
  | decoder, byte :: bytes =>
    let (decoder, points) := decoder.next byte.toNat
    let (decoder, more) := decoder.run bytes
    (decoder, points ++ more)

@[simp] theorem run_nil (decoder : Utf8Decoder) : decoder.run [] = (decoder, []) := rfl

theorem run_cons (decoder : Utf8Decoder) (byte : UInt8) (bytes : List UInt8) :
    decoder.run (byte :: bytes) =
      (((decoder.next byte.toNat).1.run bytes).1,
        (decoder.next byte.toNat).2 ++ ((decoder.next byte.toNat).1.run bytes).2) := rfl

theorem run_append (decoder : Utf8Decoder) (bytes more : List UInt8) :
    decoder.run (bytes ++ more) =
      (((decoder.run bytes).1.run more).1, (decoder.run bytes).2 ++ ((decoder.run bytes).1.run more).2) := by
  induction bytes generalizing decoder with
  | nil => simp
  | cons byte bytes ih => simp only [List.cons_append, run_cons, ih, List.append_assoc]

section Bytes

variable {byte : Nat} (small : byte < 256) (bytes : List UInt8)
include small

theorem toNat_ofNat_of_lt : (UInt8.ofNat byte).toNat = byte := by
  rw [UInt8.toNat_ofNat', Nat.mod_eq_of_lt small]

omit small in
theorem run_one (low : byte ≤ 0x7F) : run {} [UInt8.ofNat byte] = ({}, [byte]) := by
  have value := toNat_ofNat_of_lt (show byte < 256 by omega)
  simp [run_cons, next, first, value, low]

omit small in
theorem run_two (low : 0xC2 ≤ byte) (high : byte ≤ 0xDF) :
    run {} (UInt8.ofNat byte :: bytes) = run { bytesNeeded := 1, codePoint := byte % 0x20 } bytes := by
  have value := toNat_ofNat_of_lt (show byte < 256 by omega)
  have start : next {} byte = ({ bytesNeeded := 1, codePoint := byte % 0x20 }, []) := by
    rw [next, if_pos rfl, first, if_neg (by omega), if_pos ⟨low, high⟩]
  rw [run_cons, value, start]
  rfl

omit small in
theorem run_three (low : 0xE0 ≤ byte) (high : byte ≤ 0xEF) :
    run {} (UInt8.ofNat byte :: bytes) =
      run
        { bytesNeeded := 2
          codePoint := byte % 0x10
          lowerBoundary := if byte = 0xE0 then 0xA0 else 0x80
          upperBoundary := if byte = 0xED then 0x9F else 0xBF } bytes := by
  have value := toNat_ofNat_of_lt (show byte < 256 by omega)
  have start : next {} byte =
      ({ bytesNeeded := 2
         codePoint := byte % 0x10
         lowerBoundary := if byte = 0xE0 then 0xA0 else 0x80
         upperBoundary := if byte = 0xED then 0x9F else 0xBF }, []) := by
    rw [next, if_pos rfl, first, if_neg (by omega), if_neg (by omega), if_pos ⟨low, high⟩]
  rw [run_cons, value, start]
  rfl

omit small in
theorem run_four (low : 0xF0 ≤ byte) (high : byte ≤ 0xF4) :
    run {} (UInt8.ofNat byte :: bytes) =
      run
        { bytesNeeded := 3
          codePoint := byte % 8
          lowerBoundary := if byte = 0xF0 then 0x90 else 0x80
          upperBoundary := if byte = 0xF4 then 0x8F else 0xBF } bytes := by
  have value := toNat_ofNat_of_lt (show byte < 256 by omega)
  have start : next {} byte =
      ({ bytesNeeded := 3
         codePoint := byte % 8
         lowerBoundary := if byte = 0xF0 then 0x90 else 0x80
         upperBoundary := if byte = 0xF4 then 0x8F else 0xBF }, []) := by
    rw [next, if_pos rfl, first, if_neg (by omega), if_neg (by omega), if_neg (by omega), if_pos ⟨low, high⟩]
  rw [run_cons, value, start]
  rfl

theorem run_middle {decoder : Utf8Decoder} (low : decoder.lowerBoundary ≤ byte)
    (high : byte ≤ decoder.upperBoundary) (open' : decoder.bytesSeen + 1 < decoder.bytesNeeded) :
    run decoder (UInt8.ofNat byte :: bytes) =
      run
        { codePoint := decoder.codePoint * 0x40 + byte % 0x40
          bytesSeen := decoder.bytesSeen + 1
          bytesNeeded := decoder.bytesNeeded } bytes := by
  rw [run_cons, toNat_ofNat_of_lt small, next, if_neg (by omega), if_neg (by omega), if_neg (by omega)]
  rfl

theorem run_last {decoder : Utf8Decoder} (low : decoder.lowerBoundary ≤ byte)
    (high : byte ≤ decoder.upperBoundary) (last : decoder.bytesSeen + 1 = decoder.bytesNeeded) :
    run decoder [UInt8.ofNat byte] = ({}, [decoder.codePoint * 0x40 + byte % 0x40]) := by
  rw [run_cons, toNat_ofNat_of_lt small, next, if_neg (by omega), if_neg (by omega), if_pos last]
  rfl

end Bytes

theorem char_range (char : Char) : char.toNat < 0xD800 ∨ 0xDFFF < char.toNat ∧ char.toNat < 0x110000 := by
  have valid := char.valid
  simp only [UInt32.isValidChar, Nat.isValidChar] at valid
  exact valid

theorem run_encodeChar (char : Char) : run {} (String.utf8EncodeChar char) = ({}, [char.toNat]) := by
  have range := char_range char
  have value : char.val.toNat = char.toNat := rfl
  unfold String.utf8EncodeChar
  dsimp only
  rw [value]
  generalize char.toNat = point at range
  split_ifs with one two three
  · exact run_one one
  · rw [run_two _ (by omega) (by omega)]
    have last := @run_last (point % 0x40 + 0x80) (by omega)
      { bytesNeeded := 1, codePoint := (point / 64 % 0x20 + 0xc0) % 0x20 }
      (by dsimp only; omega) (by dsimp only; omega) rfl
    rw [last]
    simp only [Prod.mk.injEq, List.cons.injEq, and_true, true_and]
    omega
  · rw [run_three _ (by omega) (by omega)]
    -- the boundaries keep out what is too long and the surrogates
    rw [run_middle (by omega) _ (by dsimp only; split_ifs <;> omega) (by dsimp only; split_ifs <;> omega)
      (by dsimp only; omega)]
    rw [run_last (by omega) (by dsimp only; omega) (by dsimp only; omega) rfl]
    simp only [Prod.mk.injEq, List.cons.injEq, and_true, true_and]
    omega
  · rw [run_four _ (by omega) (by omega)]
    rw [run_middle (by omega) _ (by dsimp only; split_ifs <;> omega) (by dsimp only; split_ifs <;> omega)
      (by dsimp only; omega)]
    rw [run_middle (by omega) _ (by dsimp only; omega) (by dsimp only; omega) (by dsimp only; omega)]
    rw [run_last (by omega) (by dsimp only; omega) (by dsimp only; omega) rfl]
    simp only [Prod.mk.injEq, List.cons.injEq, and_true, true_and]
    omega

theorem run_encode (chars : List Char) :
    run {} (chars.flatMap String.utf8EncodeChar) = ({}, chars.map Char.toNat) := by
  induction chars with
  | nil => rfl
  | cons char chars ih => rw [List.flatMap_cons, run_append, run_encodeChar, ih]; rfl

end Utf8Decoder

def utf16Units (point : Nat) : Text :=
  if point < 0x10000 then [UInt16.ofNat point]
  else [UInt16.ofNat (0xD800 + (point - 0x10000) / 0x400), UInt16.ofNat (0xDC00 + (point - 0x10000) % 0x400)]

theorem utf16Units_toNat (char : Char) : utf16Units char.toNat = encodeUtf16 char := by
  have range := Utf8Decoder.char_range char
  have value : char.val.toNat = char.toNat := rfl
  rw [utf16Units, encodeUtf16]
  by_cases small : char.toNat < 0x10000
  · have below : char.val < 0x10000 := by rwa [UInt32.lt_iff_toNat_lt]
    rw [if_pos small, if_pos below]
    rfl
  · have above : ¬ char.val < 0x10000 := by rwa [UInt32.lt_iff_toNat_lt]
    have least : (0x10000 : UInt32) ≤ char.val := by rw [UInt32.le_iff_toNat_le]; exact Nat.le_of_not_lt small
    rw [if_neg small, if_neg above]
    simp only [List.cons.injEq, and_true, ← UInt16.toNat_inj, UInt16.toNat_ofNat', UInt32.toNat_toUInt16,
      UInt32.toNat_add, UInt32.toNat_div, UInt32.toNat_mod, UInt32.toNat_sub_of_le _ _ least, value,
      UInt32.reduceToNat]
    omega

structure TextDecoder where
  decoder : Utf8Decoder := {}
  bomSeen : Bool := false
  deriving DecidableEq, Repr

namespace TextDecoder

/-- The first code point of a stream is left out when it is a byte order mark. -/
def serialize (bomSeen : Bool) : List Nat → Bool × List Nat
  | [] => (bomSeen, [])
  | point :: points => (true, if !bomSeen && point == 0xFEFF then points else point :: points)

/-- `decode(bytes, { stream })`. At the end of a stream, a character that is still open is U+FFFD. -/
def decode (self : TextDecoder) (bytes : List UInt8) (stream : Bool) : TextDecoder × Text :=
  let (decoder, points) := self.decoder.run bytes
  let points := if !stream && decoder.bytesNeeded ≠ 0 then points ++ [0xFFFD] else points
  let (bomSeen, points) := serialize self.bomSeen points
  (if stream then { decoder, bomSeen } else {}, points.flatMap utf16Units)

def decodeAll (self : TextDecoder) : List (List UInt8) → TextDecoder × List Text
  | [] => (self, [])
  | bytes :: pieces =>
    let (decoder, text) := self.decode bytes true
    let (decoder, texts) := decoder.decodeAll pieces
    (decoder, text :: texts)

theorem decodeAll_flatten (self : TextDecoder) (pieces : List (List UInt8))
    (unmarked : self.bomSeen = true ∨ (self.decoder.run pieces.flatten).2.head? ≠ some 0xFEFF) :
    (self.decodeAll pieces).1.decoder = (self.decoder.run pieces.flatten).1 ∧
      (self.decodeAll pieces).2.flatten = (self.decoder.run pieces.flatten).2.flatMap utf16Units := by
  induction pieces generalizing self with
  | nil => exact ⟨rfl, rfl⟩
  | cons bytes pieces ih =>
    rw [List.flatten_cons, Utf8Decoder.run_append] at unmarked ⊢
    cases points : (self.decoder.run bytes).2 with
    | nil =>
      -- nothing has come out yet that could be a mark
      rw [points] at unmarked
      have step : self.decode bytes true = (⟨(self.decoder.run bytes).1, self.bomSeen⟩, []) := by
        simp [decode, points, serialize]
      have rest := ih ⟨(self.decoder.run bytes).1, self.bomSeen⟩ unmarked
      rw [decodeAll, step]
      exact rest
    | cons point later =>
      have kept : (!self.bomSeen && point == 0xFEFF) = false := by
        rcases unmarked with seen | other
        · simp [seen]
        · simpa [points] using fun _ => other
      have step : self.decode bytes true =
          (⟨(self.decoder.run bytes).1, true⟩, (point :: later).flatMap utf16Units) := by
        simp [decode, points, serialize, kept]
      obtain ⟨decoder, texts⟩ := ih ⟨(self.decoder.run bytes).1, true⟩ (.inl rfl)
      rw [decodeAll, step]
      refine ⟨decoder, ?_⟩
      rw [List.flatMap_append, ← texts]
      rfl

theorem decodeAll_encode {chars : List Char} {pieces : List (List UInt8)}
    (bytes : pieces.flatten = chars.flatMap String.utf8EncodeChar)
    (unmarked : chars.head? ≠ some (Char.ofNat 0xFEFF)) :
    (decodeAll {} pieces).2.flatten = chars.flatMap encodeUtf16 ∧
      ((decodeAll {} pieces).1.decode [] false).2 = [] := by
  have run : Utf8Decoder.run {} pieces.flatten = ({}, chars.map Char.toNat) := by
    rw [bytes, Utf8Decoder.run_encode]
  have first : (Utf8Decoder.run {} pieces.flatten).2.head? ≠ some 0xFEFF := by
    rw [run, List.head?_map]
    intro mark
    obtain ⟨char, head, point⟩ := Option.map_eq_some_iff.mp mark
    refine unmarked (head.trans (congrArg some ?_))
    rw [← Char.ofNat_toNat char, point]
  obtain ⟨decoder, texts⟩ := decodeAll_flatten {} pieces (.inr first)
  constructor
  · rw [texts]
    change (Utf8Decoder.run {} pieces.flatten).2.flatMap utf16Units = _
    rw [run, List.flatMap_map]
    exact congrArg (fun units => chars.flatMap units) (funext utf16Units_toNat)
  · have ended : (decodeAll {} pieces).1.decoder = {} := decoder.trans (congrArg Prod.fst run)
    rw [decode, ended]
    rfl

end TextDecoder

end Tvic.Lib
