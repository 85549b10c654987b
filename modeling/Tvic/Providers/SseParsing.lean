import Tvic.Lib.FramedReading
import Tvic.Lib.Text
import Tvic.Lib.Trimming

/-!
# Server-sent events

`parseSse` and `parseSseFrame` of `packages/providers/src/groq-chat.ts` and of
`packages/providers/src/openai-responses.ts`. A stream is the text that the streaming decoder makes of its
bytes, in the pieces in which it makes it; the last piece is the one that comes with the end. What
`JSON.parse` makes of the data, if it is an object, is a parameter.
-/
namespace Tvic

open Lib

def carriageReturn : Char := '\r'
def lineFeed : Char := '\n'

/-- `Buffer.byteLength(text, "utf8")` -/
def byteLength (text : List Char) : Nat := (text.map Char.utf8Size).sum

/-- What `trim` takes off. -/
def isBlankChar (character : Char) : Bool :=
  character.val < 0x10000 && isWhitespace character.val.toUInt16

def dataPrefix : List Char := "data:".toList
def doneData : List Char := "[DONE]".toList

/-- The lines that start with `data:`, without it. -/
def dataLines (lines : List (List Char)) : List (List Char) :=
  (lines.filter fun line => dataPrefix.isPrefixOf line).map (·.drop 5)

/-- `join("\n")` -/
def joinLines (lines : List (List Char)) : List Char := [lineFeed].intercalate lines

variable {Event : Type} (parseObject : List Char → Option Event)

/-! ## Groq -/

namespace GroqChat

def maxSseFrameBytes : Nat := 1048576

inductive SseItem (Event : Type) where
  | done
  | event (event : Event)
  deriving DecidableEq

/-- `/\r?\n\r?\n/u` -/
def boundary : Terminators Char where
  all := ["\r\n\r\n".toList, "\r\n\n".toList, "\n\r\n".toList, "\n\n".toList]
  nonempty := by decide
  apart := by decide

/-- `frame.split(/\r?\n/u)` -/
def splitLines : List Char → List (List Char)
  | [] => [[]]
  | character :: text =>
    if character = lineFeed then [] :: splitLines text
    else if character = carriageReturn ∧ text.head? = some lineFeed then splitLines text
    else (splitLines text).modifyHead (character :: ·)

def parseData (data : List Char) : Except String (Option (SseItem Event)) :=
  if data = [] then .ok none
  else if data = doneData then .ok (some .done)
  else
    match parseObject data with
    | some event => .ok (some (.event event))
    | none => .error "Groq returned malformed SSE JSON"

def dataOf (lines : List (List Char)) : List Char :=
  joinLines ((dataLines lines).map (trim isBlankChar))

def parseSseFrame (frame : List Char) : Except String (Option (SseItem Event)) :=
  parseData parseObject (dataOf (splitLines frame))

def exceedsLimit (frame : List Char) : Bool := maxSseFrameBytes < byteLength frame

def limitMessage : String := "Groq SSE frame exceeded the bounded parser limit"

/-- The limit is not checked again, as the loop has just checked it for this buffer. -/
def parseSseRest (buffer : List Char) : Except String (Option (SseItem Event)) :=
  if trim isBlankChar buffer = [] then .ok none else parseSseFrame parseObject buffer

def sseReader : FrameReader Char (SseItem Event) String where
  terminators := boundary
  tooLong := exceedsLimit
  refusal := limitMessage
  parseFrame := parseSseFrame parseObject
  parseRest := parseSseRest parseObject

def parseSse (reads : List (List Char)) (last : List Char) : Reading (SseItem Event) String :=
  (sseReader parseObject).read reads last []

end GroqChat

/-! ## OpenAI -/

namespace OpenAiResponses

/-- `/\r\n\r\n|\n\n|\r\r/` of `findSseBoundary` -/
def boundary : Terminators Char where
  all := ["\r\n\r\n".toList, "\n\n".toList, "\r\r".toList]
  nonempty := by decide
  apart := by decide

/-- `frame.split(/\r\n|\r|\n/)` -/
def splitLines : List Char → List (List Char)
  | [] => [[]]
  | character :: text =>
    if character = carriageReturn ∧ text.head? = some lineFeed then splitLines text
    else if character = carriageReturn ∨ character = lineFeed then [] :: splitLines text
    else (splitLines text).modifyHead (character :: ·)

/-- `replace(/^ /, "")` -/
def withoutSpace : List Char → List Char
  | ' ' :: text => text
  | text => text

def parseData (data : List Char) : Except String (Option Event) :=
  if data = [] ∨ data = doneData then .ok none
  else
    match parseObject data with
    | some event => .ok (some event)
    | none => .error "OpenAI returned malformed SSE JSON"

def dataOf (lines : List (List Char)) : List Char :=
  trim isBlankChar (joinLines ((dataLines lines).map withoutSpace))

def parseSseFrame (frame : List Char) : Except String (Option Event) :=
  parseData parseObject (dataOf (splitLines frame))

/-- There is no limit. -/
def sseReader : FrameReader Char Event String where
  terminators := boundary
  tooLong := fun _ => false
  refusal := ""
  parseFrame := parseSseFrame parseObject
  parseRest := parseSseFrame parseObject

def parseSse (reads : List (List Char)) (last : List Char) : Reading Event String :=
  (sseReader parseObject).read reads last []

end OpenAiResponses

end Tvic
