import Tvic.Lib.JsonNesting
import Tvic.Lib.Trimming
import Tvic.Lib.Utf8Decoder

/-!
# The objects of a timed stream

`JsonObjectAccumulator` of `packages/providers/src/elevenlabs-http-helpers.ts`: bytes come in, and the
objects that have ended go out. Every call scans the whole text that has been retained.
-/
namespace Tvic

open Lib

/-- What `elevenLabsProtocolError` is thrown for. -/
inductive TimedStreamError where
  | malformedJson
  | trailingData
  | frameTooLong
  | incompleteJson
  deriving DecidableEq, Repr

def MAX_PROVIDER_FRAME_BYTES : Nat := 1048576

variable {N : Type} [FiniteNumber N]

/-- The members of an object. -/
abbrev JsonRecord (N : Type) := List (Text × JsValue N)

def parseJsonObject (value : Text) : Option (JsonRecord N) :=
  match parseJson value with
  | some (.object members) => some members
  | _ => none

/-- The variables of the scan in `#drain`. -/
structure JsonObjectScan (N : Type) where
  values : List (JsonRecord N) := []
  start : Nat := 0
  depth : Nat := 0
  inString : Bool := false
  escaped : Bool := false
  objectStart : Option Nat := none

namespace JsonObjectScan

def next (buffer : Text) (scan : JsonObjectScan N) (char : UInt16) (index : Nat) :
    Except TimedStreamError (JsonObjectScan N) :=
  if scan.inString then
    if scan.escaped then .ok { scan with escaped := false }
    else if char = 92 then .ok { scan with escaped := true }
    else if char = 34 then .ok { scan with inString := false }
    else .ok scan
  else if char = 34 then .ok { scan with inString := true }
  else if char = 123 ∧ scan.depth = 0 then .ok { scan with objectStart := some index, depth := 1 }
  else if char = 123 ∧ 0 < scan.depth then .ok { scan with depth := scan.depth + 1 }
  else if char = 125 ∧ 0 < scan.depth then
    match scan.depth - 1, scan.objectStart with
    | 0, some objectStart =>
      match parseJsonObject ((buffer.take (index + 1)).drop objectStart) with
      | none => .error .malformedJson
      | some parsed =>
        .ok { scan with
          depth := 0
          values := scan.values ++ [parsed]
          start := index + 1
          objectStart := none }
    | depth, _ => .ok { scan with depth := depth }
  else .ok scan

def run (buffer : Text) : JsonObjectScan N → Nat → Text → Except TimedStreamError (JsonObjectScan N)
  | scan, _, [] => .ok scan
  | scan, index, char :: rest =>
    match scan.next buffer char index with
    | .error error => .error error
    | .ok scan => run buffer scan (index + 1) rest

end JsonObjectScan

structure JsonObjectAccumulator where
  decoder : TextDecoder := {}
  buffer : Text := []

namespace JsonObjectAccumulator

def drain (buffer : Text) (final : Bool) : Except TimedStreamError (List (JsonRecord N) × Text) :=
  match JsonObjectScan.run buffer ({} : JsonObjectScan N) 0 buffer with
  | .error error => .error error
  | .ok scan =>
    let rest := if 0 < scan.start then buffer.drop scan.start else buffer
    if final ∧ 0 < (trim isWhitespace rest).length ∧ scan.depth = 0 then .error .trailingData
    else if MAX_PROVIDER_FRAME_BYTES < rest.length then .error .frameTooLong
    else .ok (scan.values, rest)

def push (self : JsonObjectAccumulator) (bytes : List UInt8) :
    Except TimedStreamError (List (JsonRecord N) × JsonObjectAccumulator) :=
  let (decoder, text) := self.decoder.decode bytes true
  match drain (self.buffer ++ text) false with
  | .error error => .error error
  | .ok (values, buffer) => .ok (values, { decoder, buffer })

def finish (self : JsonObjectAccumulator) :
    Except TimedStreamError (List (JsonRecord N) × JsonObjectAccumulator) :=
  let (decoder, text) := self.decoder.decode [] false
  match drain (self.buffer ++ text) true with
  | .error error => .error error
  | .ok (values, buffer) =>
    if (trim isWhitespace buffer).length ≠ 0 then .error .incompleteJson
    else .ok (values, { decoder, buffer })

/-- Every `push` in turn and then `finish`, with what they return put together. -/
def readAll (self : JsonObjectAccumulator) : List (List UInt8) → Except TimedStreamError (List (JsonRecord N))
  | [] => (finish self).map (·.1)
  | bytes :: pieces =>
    match push self bytes with
    | .error error => .error error
    | .ok (values, later) => (later.readAll pieces).map (values ++ ·)

end JsonObjectAccumulator

end Tvic
