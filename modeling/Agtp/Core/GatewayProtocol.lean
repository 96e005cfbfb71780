import Agtp.Foundation.JsonText

/-! # Gateway protocol

Each frame is a prefix of four bytes that tells its length, most significant byte first,
and a JSON object in UTF-8. -/

namespace Agtp.GatewayProtocol

open JsonText (Limits Excess)

def maxFrameSize : Nat := 16 * 1024 * 1024

/-! ## Lengths -/

def lengthHeaderSize : Nat := 4

def pack (length : Nat) : Bytes := BigEndian.toBytes lengthHeaderSize length

def unpack (header : Bytes) : Nat := BigEndian.fromBytes header

/-! ## Streams -/

/-- A stream, in the pieces that its reads may return. -/
structure Reader where
  chunks : List Bytes
  filled : ∀ chunk ∈ chunks, chunk ≠ []

namespace Reader

def bytes (reader : Reader) : Bytes := reader.chunks.flatten

def read (reader : Reader) (count : Nat) : Bytes × Reader :=
  match reader with
  | ⟨[], filled⟩ => ([], ⟨[], filled⟩)
  | ⟨chunk :: rest, filled⟩ =>
      if fits : chunk.length ≤ count then
        (chunk, ⟨rest, fun other member => filled other (List.mem_cons_of_mem _ member)⟩)
      else
        (chunk.take count, ⟨chunk.drop count :: rest, by
          intro other member
          rcases List.mem_cons.mp member with rfl | later
          · intro none
            exact fits (List.drop_eq_nil_iff.mp none)
          · exact filled other (List.mem_cons_of_mem _ later)⟩)

end Reader

inductive FrameFailure where
  | decode (message : String)
  | tooLarge (message : String)
  | escaped (kind : Excess)

def readExact (expected remaining : Nat) (reader : Reader) :
    Except FrameFailure Bytes × Reader :=
  if remaining = 0 then (.ok [], reader)
  else
    let (chunk, after) := reader.read remaining
    if chunk = [] then
      (.error <| .decode
        s!"connection closed mid-frame (expected {expected} bytes, got {expected - remaining})",
        after)
    else
      let (rest, last) := readExact expected (remaining - chunk.length) after
      (rest.map (chunk ++ ·), last)
termination_by remaining
decreasing_by
  have positive : 0 < chunk.length := List.length_pos_iff.mpr ‹_›
  omega

/-! ## Frames -/

/-- The messages of the errors of `decode` and `json.loads`. -/
class FrameText where
  notUtf8 : Bytes → String
  notJson : List Char → String

def typeName : Json → String
  | .null => "NoneType"
  | .bool _ => "bool"
  | .int _ => "int"
  | .float _ => "float"
  | .string _ => "str"
  | .array _ => "list"
  | .object _ => "dict"

section Reading

variable [Floats] [FrameText]

def parseBody (limits : Limits) (body : Bytes) : Except FrameFailure (List (String × Json)) :=
  match Utf8.decode? body with
  | none => .error <| .decode s!"frame body is not valid UTF-8: {FrameText.notUtf8 body}"
  | some text =>
      match JsonText.loads limits text with
      | .error .malformed =>
          .error <| .decode s!"frame body is not valid JSON: {FrameText.notJson text}"
      | .error (.excess kind) => .error (.escaped kind)
      | .ok (.object members) =>
          match Json.member members "type" with
          | none => .error <| .decode "frame payload missing required 'type' field"
          | some _ => .ok members
      | .ok other =>
          .error <| .decode s!"frame body must be a JSON object; got {typeName other}"

def readFrame (limits : Limits) (reader : Reader) :
    Except FrameFailure (List (String × Json)) × Reader :=
  match readExact lengthHeaderSize lengthHeaderSize reader with
  | (.error failure, after) => (.error failure, after)
  | (.ok header, after) =>
      let length := unpack header
      if maxFrameSize < length then
        (.error <| .tooLarge
          s!"frame length {length} exceeds MAX_FRAME_SIZE ({maxFrameSize})", after)
      else if length = 0 then (.error <| .decode "empty frame (length=0)", after)
      else
        match readExact length length after with
        | (.error failure, last) => (.error failure, last)
        | (.ok body, last) => (parseBody limits body, last)

def readFrames (limits : Limits) :
    Nat → Reader → Except FrameFailure (List (List (String × Json))) × Reader
  | 0, reader => (.ok [], reader)
  | count + 1, reader =>
      match readFrame limits reader with
      | (.error failure, after) => (.error failure, after)
      | (.ok frame, after) =>
          let (frames, last) := readFrames limits count after
          (frames.map (frame :: ·), last)

end Reading

inductive WriteFailure where
  | noType (message : String)
  | tooLarge (message : String)
  | escaped (kind : Excess)

def writeFrame (limits : Limits) (payload : List (String × Json)) :
    Except WriteFailure Bytes :=
  match Json.member payload "type" with
  | none => .error <| .noType "frame payload must carry a 'type' field"
  | some _ =>
      match JsonText.dumps limits (.object payload) with
      | .error kind => .error (.escaped kind)
      | .ok text =>
          let body := Utf8.encode text
          if maxFrameSize < body.length then
            .error <| .tooLarge
              s!"encoded frame size {body.length} exceeds MAX_FRAME_SIZE ({maxFrameSize})"
          else .ok (pack body.length ++ body)

def writeFrames (limits : Limits) : List (List (String × Json)) → Except WriteFailure Bytes
  | [] => .ok []
  | payload :: payloads =>
      match writeFrame limits payload with
      | .error failure => .error failure
      | .ok sent => (writeFrames limits payloads).map (sent ++ ·)

end Agtp.GatewayProtocol
