import Agtp.Audit.StandardRecords
import Agtp.Server.ClientCertificate
import Agtp.Server.Cose
import Agtp.Server.Lifecycle
import Mathlib.Data.FinEnum

/-! # The history of an agent

`INSPECT` shows the events of an agent's lifecycle file. -/

namespace Agtp.LifecycleHistory

open Cbor (Value)
open Cose (ParseFailure)
open JsonText (firstExcess)

/-! ## The file -/

def isLineBreak (character : Char) : Bool :=
  let code := character.toNat
  (10 ≤ code && code ≤ 13) || (28 ≤ code && code ≤ 30) || code == 0x85 ||
    code == 0x2028 || code == 0x2029

def translateNewlines : List Char → List Char
  | [] => []
  | '\r' :: '\n' :: rest => '\n' :: translateNewlines rest
  | '\r' :: rest => '\n' :: translateNewlines rest
  | character :: rest => character :: translateNewlines rest

def splitLines : List Char → List (List Char)
  | [] => []
  | character :: rest =>
      if isLineBreak character then [] :: splitLines rest
      else
        match splitLines rest with
        | [] => [[character]]
        | line :: lines => (character :: line) :: lines

def textLines (text : List Char) : List String :=
  ((splitLines (translateNewlines text)).map String.ofList).filter fun line =>
    Text.strip line ≠ ""

/-- What reaches the caller of the handler. -/
inductive Raised where
  | notAscii
  | line
  | writing

abbrev Files := String → Option Bytes

def readAll [TextCase] (files : Files) (agentId : String) : Except Raised (List String) :=
  match (Lifecycle.streamName agentId).bind files with
  | none => .ok []
  | some content =>
      match CertExtension.decodeAscii content with
      | none => .error .notAscii
      | some text => .ok (textLines text.toList)

/-! ## A line -/

inductive LineFailure where
  | caught
  | raised
deriving DecidableEq

def ofDecoding : Cbor.Failure → LineFailure
  | .cose _ => .caught
  | .unicode => .caught
  | _ => .raised

def ofLoading : DecodeFailure → LineFailure
  | .valueError => .caught
  | .other => .raised

inductive Header where
  | json (value : Json)
  | cbor (value : Value)

structure Content where
  header : Header
  payload : Json

/-- `cbor_decode` over a list or a dictionary that stands in place of the protected bytes. -/
class UnusualHeaders where
  decode : Value → Except LineFailure Value

/-- `bool(value)`. -/
def isTrue : Value → Bool
  | .null => false
  | .bool value => value
  | .int value => value ≠ 0
  | .bytes data => data ≠ []
  | .text value => value ≠ ""
  | .list items => !items.isEmpty
  | .map entries => !entries.isEmpty
  | .tag .. => true

section Reading

variable [JsonCodec] [UnusualHeaders]

/-- `cbor_decode(protected_bytes) if protected_bytes else {}`. A number, a text or a tag is
nothing to take bytes from. -/
def readHeader (stack : Nat) (header : Value) : Except LineFailure Value :=
  if isTrue header then
    match header with
    | .bytes data => (Cbor.decode stack data).mapError ofDecoding
    | .list _ => UnusualHeaders.decode header
    | .map _ => UnusualHeaders.decode header
    | _ => .error .raised
  else .ok (.map [])

def readPayload : Value → Except LineFailure Json
  | .bytes payload => (JsonCodec.loads payload).mapError ofLoading
  | _ => .error .raised

def parseCosePayload (stack : Nat) (coseBytes : Bytes) : Except LineFailure (Value × Json) := do
  let decoded ← (Cbor.decode stack coseBytes).mapError ofDecoding
  match decoded with
  | .tag number (.list [header, _, payload, _]) =>
      if number = Cose.tagCoseSign1 then do
        let payload ← readPayload payload
        let header ← readHeader stack header
        return (header, payload)
      else .error .caught
  | _ => .error .caught

def readCose (stack : Nat) (text : List Char) : Except LineFailure Content :=
  match Base64Url.decode text with
  | none => .error .caught
  | some raw =>
      (parseCosePayload stack raw).map fun parsed => ⟨.cbor parsed.1, parsed.2⟩

def readJws (line : String) : Except LineFailure Content :=
  match Audit.parseAttributionRecord line with
  | .ok record => .ok ⟨.json record.header, record.payload⟩
  | .error (.record _) => .error .caught
  | .error .uncaught => .error .raised

inductive Format where
  | cose
  | jws
deriving DecidableEq

def formatOf (line : String) : Format :=
  if "cose:".toList.isPrefixOf line.toList then .cose else .jws

def readLine (stack : Nat) (line : String) : Except LineFailure Content :=
  match formatOf line with
  | .cose => readCose stack (line.toList.drop 5)
  | .jws => readJws line

inductive Entry where
  | event (line : String) (content : Content)
  | parseError (line : String)

def decodeLine (stack : Nat) (line : String) : Except Raised Entry :=
  match readLine stack line with
  | .ok content => .ok (.event line content)
  | .error .caught => .ok (.parseError line)
  | .error .raised => .error .line

end Reading

/-! ## The answer -/

/-- A key, to `json.dumps`. -/
def keyText : Value → Option String
  | .text value => some value
  | .int value => some (toString value)
  | .bool true => some "true"
  | .bool false => some "false"
  | .null => some "null"
  | _ => none

mutual

/-- A decoded value, as `json.dumps` writes it. Bytes have no such form. -/
def written : Value → Option Json
  | .null => some .null
  | .bool value => some (.bool value)
  | .int value => some (.int value)
  | .bytes _ => none
  | .text value => some (.string value)
  | .list items => (writtenItems items).map .array
  | .map entries => (writtenEntries entries).map .object
  | .tag number value =>
      (written value).map fun inner => .array [.string "__tag__", .int number, inner]

def writtenItems : List Value → Option (List Json)
  | [] => some []
  | item :: items => do
      let first ← written item
      let rest ← writtenItems items
      return first :: rest

def writtenEntries : List (Value × Value) → Option (List (String × Json))
  | [] => some []
  | (key, value) :: entries => do
      let name ← keyText key
      let inner ← written value
      let rest ← writtenEntries entries
      return (name, inner) :: rest

end

def Header.written : Header → Option Json
  | .json value => some value
  | .cbor value => LifecycleHistory.written value

def Written (room : Nat) (value : Json) : Prop := firstExcess ⟨4300, room⟩ 3 value = none

instance (room : Nat) (value : Json) : Decidable (Written room value) :=
  inferInstanceAs (Decidable (_ = _))

def lineMembers (line : String) : List (String × Json) :=
  match formatOf line with
  | .cose => [("format", .string "cose"), ("line", .string line)]
  | .jws => [("format", .string "jws"), ("jws", .string line)]

/-- An entry in the answer's text. -/
def Entry.write (room : Nat) : Entry → Except Raised Json
  | .parseError line => .ok (.object (lineMembers line ++ [("parse_error", .bool true)]))
  | .event line content =>
      match content.header.written with
      | none => .error .writing
      | some header =>
          if Written room header ∧ Written room content.payload then
            .ok (.object (lineMembers line ++ [("header", header), ("payload", content.payload)]))
          else .error .writing

def answer (agentId : String) (events : List Json) (now : String) : Response where
  status := 200
  statusText := "OK"
  headers := []
  body := .object [
    ("method", .string "INSPECT"),
    ("target", .string "lifecycle"),
    ("agent_id", .string agentId),
    ("events", .array events),
    ("event_count", .int events.length),
    ("issued_at", .string now)]

def missingAgentId : Response :=
  (Status.errorResponse 400 "Bad Request" "missing-agent-id"
    "target=lifecycle requires an agent_id parameter" []).toResponse

section Inspecting

variable [TextCase] [TextOf]

def agentIdOf (params : List (String × Json)) : String :=
  lower (Text.strip (Json.textOr params "agent_id" ""))

omit [TextOf] in
def storedLines (store : Option Files) (agentId : String) : Except Raised (List String) :=
  match store with
  | some files => readAll files agentId
  | none => .ok []

/-- `INSPECT` with `target` `lifecycle`. -/
def inspectLifecycle [JsonCodec] [UnusualHeaders] (stack room : Nat) (store : Option Files)
    (params : List (String × Json)) (now : String) : Except Raised Response :=
  let agentId := agentIdOf params
  if agentId = "" then .ok missingAgentId
  else do
    let lines ← storedLines store agentId
    let decoded ← Fallible.map (decodeLine stack) lines
    let events ← Fallible.map (Entry.write room) decoded
    return answer agentId events now

end Inspecting

/-! ## What is expected -/

section Laws

variable [JsonCodec] [UnusualHeaders]

def parsed? (stack : Nat) (line : String) : Option Content :=
  match readLine stack line with
  | .ok content => some content
  | .error _ => none

def expectedEntry (stack : Nat) (line : String) : Entry :=
  match parsed? stack line with
  | some content => .event line content
  | none => .parseError line

def fileLines : Option Bytes → List String
  | none => []
  | some content => textLines (content.map fun byte => Char.ofNat byte.toNat)

def fileOf [TextCase] [TextOf] (store : Option Files) (params : List (String × Json)) :
    Option Bytes :=
  if agentIdOf params = "" then none
  else store.bind fun files => (Lifecycle.streamName (agentIdOf params)).bind files

/-! ## Lines that are contained -/

def Says (segment : List Char) (value : Json) : Prop :=
  ∃ data, Base64Url.decode segment = some data ∧ JsonCodec.loads data = .ok value

def TooDeep (segment : List Char) : Prop :=
  ∃ data, Base64Url.decode segment = some data ∧ JsonCodec.loads data = .error .other

def Base64 (segment : List Char) : Prop :=
  segment = [] ∨ ∃ data, Base64Url.decode segment = some data

/-- Of three segments, the first two are not too deep. If both say something, the third is
base64, and what they say can be written again. -/
def JwsContained (room : Nat) (line : List Char) : Prop :=
  ∀ header payload signature,
    Text.splitCharacters '.' line = [header, payload, signature] →
      ¬TooDeep header ∧ ∀ headerSaid, Says header headerSaid →
        ¬TooDeep payload ∧ ∀ payloadSaid, Says payload payloadSaid →
          Base64 signature ∧ Written room headerSaid ∧ Written room payloadSaid

def Content.Writable (room : Nat) (content : Content) : Prop :=
  ∃ header, content.header.written = some header ∧ Written room header ∧
    Written room content.payload

/-- Decoding the bytes does not meet a container as a key, or one that is too deep. The
payload of an envelope is a byte string that is not too deep. If it says something, the
header raises only what is caught, and what is read can be written. -/
def CoseContained (stack room : Nat) (text : List Char) : Prop :=
  ∀ data, Base64Url.decode text = some data →
    (∀ failure, Cbor.decode stack data = .error failure → ofDecoding failure = .caught) ∧
    ∀ header unprotected payload signature,
      Cbor.decode stack data =
          .ok (.tag Cose.tagCoseSign1 (.list [header, unprotected, payload, signature])) →
        ∃ bytes, payload = .bytes bytes ∧ JsonCodec.loads bytes ≠ .error .other ∧
          ∀ said, JsonCodec.loads bytes = .ok said →
            readHeader stack header ≠ .error .raised ∧
              ∀ value, readHeader stack header = .ok value →
                Content.Writable room ⟨.cbor value, said⟩

def Contained (stack room : Nat) (line : String) : Prop :=
  match formatOf line with
  | .cose => CoseContained stack room (line.toList.drop 5)
  | .jws => JwsContained room line.toList

def Fine (room : Nat) : Except LineFailure Content → Prop
  | .ok content => content.Writable room
  | .error failure => failure = .caught

omit [UnusualHeaders] in
theorem decodeSegment_cases (segment : List Char) :
    (∃ value, Says segment value ∧ Audit.decodeSegment segment = .ok value) ∨
    (TooDeep segment ∧ Audit.decodeSegment segment = .error .uncaught) ∨
    (¬TooDeep segment ∧ (∀ value, ¬Says segment value) ∧
      Audit.decodeSegment segment = .error (.record .notJson)) := by
  unfold Audit.decodeSegment
  cases decoded : Base64Url.decode segment with
  | none =>
      refine .inr (.inr ⟨?_, ?_, rfl⟩)
      · intro ⟨data, found, _⟩
        rw [decoded] at found
        cases found
      · intro value ⟨data, found, _⟩
        rw [decoded] at found
        cases found
  | some data =>
      cases loaded : JsonCodec.loads data with
      | ok value => exact .inl ⟨value, ⟨data, decoded, loaded⟩, by simp only [loaded]⟩
      | error failure =>
          cases failure with
          | other => exact .inr (.inl ⟨⟨data, decoded, loaded⟩, by simp only [loaded]⟩)
          | valueError =>
              refine .inr (.inr ⟨?_, ?_, by simp only [loaded]⟩)
              · intro ⟨other, found, deep⟩
                rw [decoded] at found
                cases found
                rw [loaded] at deep
                cases deep
              · intro value ⟨other, found, said⟩
                rw [decoded] at found
                cases found
                rw [loaded] at said
                cases said

omit [UnusualHeaders] in
theorem Says.unique {segment : List Char} {value other : Json} (said : Says segment value)
    (again : Says segment other) : value = other := by
  rcases said with ⟨data, decoded, loaded⟩
  rcases again with ⟨same, decodedAgain, loadedAgain⟩
  rw [decoded] at decodedAgain
  cases decodedAgain
  exact Except.ok.inj (loaded.symm.trans loadedAgain)

omit [UnusualHeaders] in
theorem Says.not_tooDeep {segment : List Char} {value : Json} (said : Says segment value) :
    ¬TooDeep segment := by
  intro ⟨other, decodedAgain, deep⟩
  rcases said with ⟨data, decoded, loaded⟩
  rw [decoded] at decodedAgain
  cases decodedAgain
  rw [loaded] at deep
  cases deep

omit [JsonCodec] [UnusualHeaders] in
theorem decodeSignature_cases (segment : List Char) :
    (Base64 segment ∧ ∃ signature, Audit.decodeSignature segment = .ok signature) ∨
    (¬Base64 segment ∧ Audit.decodeSignature segment = .error .uncaught) := by
  unfold Audit.decodeSignature Base64
  by_cases empty : segment = []
  · rw [if_pos empty]
    exact .inl ⟨.inl empty, _, rfl⟩
  · rw [if_neg empty]
    cases decoded : Base64Url.decode segment with
    | none => exact .inr ⟨by simp [empty], rfl⟩
    | some data => exact .inl ⟨.inr ⟨data, rfl⟩, data, rfl⟩

omit [UnusualHeaders] in
theorem parse_segments {line : String} {header payload signature : List Char}
    (segments : Text.splitCharacters '.' line.toList = [header, payload, signature]) :
    Audit.parseAttributionRecord line = (do
      let headerSaid ← Audit.decodeSegment header
      let payloadSaid ← Audit.decodeSegment payload
      let bytes ← Audit.decodeSignature signature
      .ok ⟨headerSaid, payloadSaid, bytes,
        asciiBytes (String.ofList (header ++ '.' :: payload))⟩) := by
  unfold Audit.parseAttributionRecord
  rw [segments]

omit [UnusualHeaders] in
theorem parse_other {line : String}
    (other : ∀ header payload signature,
      Text.splitCharacters '.' line.toList ≠ [header, payload, signature]) :
    ∃ error, Audit.parseAttributionRecord line = .error (.record error) := by
  unfold Audit.parseAttributionRecord
  split
  · next segments => exact absurd segments (other _ _ _)
  · exact ⟨_, rfl⟩

omit [UnusualHeaders] in
theorem readJws_segments {room : Nat} {line : String} {header payload signature : List Char}
    (segments : Text.splitCharacters '.' line.toList = [header, payload, signature]) :
    Fine room (readJws line) ↔ ¬TooDeep header ∧ ∀ headerSaid, Says header headerSaid →
      ¬TooDeep payload ∧ ∀ payloadSaid, Says payload payloadSaid →
        Base64 signature ∧ Written room headerSaid ∧ Written room payloadSaid := by
  unfold readJws
  rw [parse_segments segments]
  rcases decodeSegment_cases header with
    ⟨headerSaid, said, read⟩ | ⟨deep, read⟩ | ⟨shallow, silent, read⟩
  · rcases decodeSegment_cases payload with
      ⟨payloadSaid, saidPayload, readPayload⟩ | ⟨deep, readPayload⟩ |
        ⟨shallow, silent, readPayload⟩
    · rcases decodeSignature_cases signature with ⟨base64, bytes, readLast⟩ | ⟨other, readLast⟩
      · simp only [read, readPayload, readLast, bind, Except.bind]
        constructor
        · intro ⟨written, same, first, second⟩
          cases same
          refine ⟨said.not_tooDeep, fun other again => ?_⟩
          cases said.unique again
          refine ⟨saidPayload.not_tooDeep, fun other again => ?_⟩
          cases saidPayload.unique again
          exact ⟨base64, first, second⟩
        · intro ⟨_, rest⟩
          have fit := ((rest headerSaid said).2 payloadSaid saidPayload).2
          exact ⟨headerSaid, rfl, fit⟩
      · simp only [read, readPayload, readLast, bind, Except.bind]
        constructor
        · exact nofun
        · intro ⟨_, rest⟩
          exact absurd ((rest headerSaid said).2 payloadSaid saidPayload).1 other
    · simp only [read, readPayload, bind, Except.bind]
      constructor
      · exact nofun
      · intro ⟨_, rest⟩
        exact absurd deep (rest headerSaid said).1
    · simp only [read, readPayload, bind, Except.bind]
      refine ⟨fun _ => ⟨said.not_tooDeep, fun other _ => ⟨shallow, ?_⟩⟩, fun _ => rfl⟩
      exact fun payloadSaid again => absurd again (silent payloadSaid)
  · simp only [read, bind, Except.bind]
    exact ⟨nofun, fun ⟨shallow, _⟩ => absurd deep shallow⟩
  · simp only [read, bind, Except.bind]
    exact ⟨fun _ => ⟨shallow, fun other again => absurd again (silent other)⟩, fun _ => rfl⟩

omit [UnusualHeaders] in
theorem readJws_fine_iff (room : Nat) (line : String) :
    Fine room (readJws line) ↔ JwsContained room line.toList := by
  by_cases three : ∃ header payload signature,
      Text.splitCharacters '.' line.toList = [header, payload, signature]
  · rcases three with ⟨header, payload, signature, segments⟩
    rw [readJws_segments segments, JwsContained]
    constructor
    · intro holds first second third same
      rw [segments] at same
      cases same
      exact holds
    · exact fun contained => contained _ _ _ segments
  · have other : ∀ header payload signature,
        Text.splitCharacters '.' line.toList ≠ [header, payload, signature] :=
      fun header payload signature segments => three ⟨header, payload, signature, segments⟩
    rcases parse_other other with ⟨error, refused⟩
    unfold readJws
    rw [refused]
    exact ⟨fun _ header payload signature same => absurd same (other _ _ _), fun _ => rfl⟩

def PartsContained (stack room : Nat) (header payload : Value) : Prop :=
  ∃ bytes, payload = .bytes bytes ∧ JsonCodec.loads bytes ≠ .error .other ∧
    ∀ said, JsonCodec.loads bytes = .ok said →
      readHeader stack header ≠ .error .raised ∧
        ∀ value, readHeader stack header = .ok value →
          Content.Writable room ⟨.cbor value, said⟩

def readParts (stack : Nat) (header payload : Value) : Except LineFailure (Value × Json) := do
  let payload ← readPayload payload
  let header ← readHeader stack header
  return (header, payload)

def contentOf (parsed : Value × Json) : Content := ⟨.cbor parsed.1, parsed.2⟩

theorem readParts_fine_iff (stack room : Nat) (header payload : Value) :
    Fine room ((readParts stack header payload).map contentOf) ↔
      PartsContained stack room header payload := by
  cases payload with
  | bytes payload =>
      have only : PartsContained stack room header (.bytes payload) ↔
          JsonCodec.loads payload ≠ .error .other ∧
          ∀ said, JsonCodec.loads payload = .ok said →
            readHeader stack header ≠ .error .raised ∧
              ∀ value, readHeader stack header = .ok value →
                Content.Writable room ⟨.cbor value, said⟩ := by
        constructor
        · intro ⟨bytes, same, holds⟩
          cases same
          exact holds
        · exact fun holds => ⟨payload, rfl, holds⟩
      rw [only]
      cases loaded : JsonCodec.loads payload with
      | error failure =>
          have refused : readParts stack header (.bytes payload) = .error (ofLoading failure) := by
            rw [readParts, readPayload, loaded]
            rfl
          rw [refused]
          cases failure with
          | valueError =>
              refine ⟨fun _ => ⟨nofun, fun said same => ?_⟩, fun _ => rfl⟩
              cases same
          | other => exact ⟨nofun, fun ⟨shallow, _⟩ => absurd rfl shallow⟩
      | ok said =>
          have returned : readParts stack header (.bytes payload) =
              (readHeader stack header).map fun header => (header, said) := by
            rw [readParts, readPayload, loaded]
            rfl
          rw [returned]
          cases readHeader stack header with
          | error failure =>
              cases failure with
              | caught =>
                  refine ⟨fun _ => ⟨nofun, fun _ _ => ⟨nofun, fun _ same => ?_⟩⟩, fun _ => rfl⟩
                  cases same
              | raised => exact ⟨nofun, fun ⟨_, contained⟩ => absurd rfl (contained said rfl).1⟩
          | ok value =>
              constructor
              · intro writable
                refine ⟨nofun, fun other same => ⟨nofun, fun read readSame => ?_⟩⟩
                cases same
                cases readSame
                exact writable
              · exact fun ⟨_, contained⟩ => (contained said rfl).2 value rfl
  | _ => exact ⟨nofun, nofun⟩

def envelopeOf (header unprotected payload signature : Value) : Value :=
  .tag Cose.tagCoseSign1 (.list [header, unprotected, payload, signature])

theorem parseCosePayload_envelope {stack : Nat} {data : Bytes}
    {header unprotected payload signature : Value}
    (decoded : Cbor.decode stack data = .ok (envelopeOf header unprotected payload signature)) :
    parseCosePayload stack data = readParts stack header payload := by
  unfold parseCosePayload
  rw [decoded]
  rfl

theorem parseCosePayload_other {stack : Nat} {data : Bytes} {value : Value}
    (decoded : Cbor.decode stack data = .ok value)
    (other : ∀ header unprotected payload signature,
      value ≠ envelopeOf header unprotected payload signature) :
    parseCosePayload stack data = .error .caught := by
  unfold parseCosePayload
  rw [decoded]
  change (match value with
    | .tag number (.list [header, _, payload, _]) =>
        if number = Cose.tagCoseSign1 then readParts stack header payload
        else .error .caught
    | _ => .error .caught) = _
  split
  · next number header unprotected payload signature =>
      have untagged : number ≠ Cose.tagCoseSign1 := by
        intro same
        subst same
        exact other _ _ _ _ rfl
      rw [if_neg untagged]
  · rfl

theorem readCose_fine_iff (stack room : Nat) (text : List Char) :
    Fine room (readCose stack text) ↔ CoseContained stack room text := by
  unfold readCose CoseContained
  cases raw : Base64Url.decode text with
  | none => exact ⟨fun _ => nofun, fun _ => rfl⟩
  | some data =>
      change Fine room ((parseCosePayload stack data).map contentOf) ↔ _
      have only : (∀ other, some data = some other →
          (∀ failure, Cbor.decode stack other = .error failure → ofDecoding failure = .caught) ∧
          ∀ header unprotected payload signature,
            Cbor.decode stack other = .ok (envelopeOf header unprotected payload signature) →
              PartsContained stack room header payload) ↔
          (∀ failure, Cbor.decode stack data = .error failure → ofDecoding failure = .caught) ∧
          ∀ header unprotected payload signature,
            Cbor.decode stack data = .ok (envelopeOf header unprotected payload signature) →
              PartsContained stack room header payload := by
        constructor
        · exact fun all => all data rfl
        · intro holds other same
          cases same
          exact holds
      refine Iff.trans ?_ only.symm
      cases decoded : Cbor.decode stack data with
      | error failure =>
          have refused : parseCosePayload stack data = .error (ofDecoding failure) := by
            unfold parseCosePayload
            rw [decoded]
            rfl
          rw [refused]
          constructor
          · intro fine
            refine ⟨fun other same => ?_, nofun⟩
            cases same
            exact fine
          · exact fun ⟨contained, _⟩ => contained failure rfl
      | ok value =>
          by_cases isEnvelope : ∃ header unprotected payload signature,
              value = envelopeOf header unprotected payload signature
          · rcases isEnvelope with ⟨header, unprotected, payload, signature, same⟩
            subst same
            rw [parseCosePayload_envelope decoded, readParts_fine_iff]
            constructor
            · intro contained
              refine ⟨nofun, fun _ _ _ _ same => ?_⟩
              cases same
              exact contained
            · exact fun ⟨_, contained⟩ => contained _ _ _ _ rfl
          · have other : ∀ header unprotected payload signature,
                value ≠ envelopeOf header unprotected payload signature :=
              fun _ _ _ _ same => isEnvelope ⟨_, _, _, _, same⟩
            rw [parseCosePayload_other decoded other]
            refine ⟨fun _ => ⟨nofun, fun _ _ _ _ same => ?_⟩, fun _ => rfl⟩
            exact absurd (Except.ok.inj same) (other _ _ _ _)

theorem readLine_fine_iff (stack room : Nat) (line : String) :
    Fine room (readLine stack line) ↔ Contained stack room line := by
  unfold readLine Contained
  cases formatOf line with
  | cose => exact readCose_fine_iff stack room _
  | jws => exact readJws_fine_iff room line

theorem not_contained_of_signature {stack room : Nat} {line : String}
    (jws : formatOf line = .jws) {header payload signature : List Char}
    (segments : Text.splitCharacters '.' line.toList = [header, payload, signature])
    {headerSaid payloadSaid : Json} (saidHeader : Says header headerSaid)
    (saidPayload : Says payload payloadSaid) (broken : ¬Base64 signature) :
    ¬Contained stack room line := by
  intro contained
  unfold Contained at contained
  rw [jws] at contained
  exact broken (((contained _ _ _ segments).2 _ saidHeader).2 _ saidPayload).1

/-! ## The whole history -/

omit [JsonCodec] [UnusualHeaders] in
theorem write_event_iff (room : Nat) (line : String) (content : Content) :
    Fallible.Succeeds (Entry.write room (.event line content)) ↔ content.Writable room := by
  unfold Entry.write Content.Writable
  dsimp only
  cases found : content.header.written with
  | none => exact ⟨nofun, fun ⟨_, same, _⟩ => nomatch same⟩
  | some header =>
      dsimp only
      by_cases fit : Written room header ∧ Written room content.payload
      · rw [if_pos fit]
        exact ⟨fun _ => ⟨header, rfl, fit⟩, fun _ => ⟨_, rfl⟩⟩
      · rw [if_neg fit]
        refine ⟨nofun, fun ⟨other, same, otherFit⟩ => ?_⟩
        cases same
        exact absurd otherFit fit

theorem contained_iff (stack room : Nat) (line : String) :
    Contained stack room line ↔ decodeLine stack line = .ok (expectedEntry stack line) ∧
      Fallible.Succeeds (Entry.write room (expectedEntry stack line)) := by
  rw [← readLine_fine_iff]
  unfold decodeLine expectedEntry parsed?
  cases readLine stack line with
  | ok content => exact ⟨fun fine => ⟨rfl, (write_event_iff _ _ _).mpr fine⟩,
      fun ⟨_, succeeds⟩ => (write_event_iff _ _ _).mp succeeds⟩
  | error failure =>
      cases failure with
      | caught => exact ⟨fun _ => ⟨rfl, _, rfl⟩, fun _ => rfl⟩
      | raised => exact ⟨nofun, nofun⟩

theorem decodeLine_eq {stack : Nat} {line : String} {entry : Entry}
    (decoded : decodeLine stack line = .ok entry) : entry = expectedEntry stack line := by
  unfold decodeLine at decoded
  unfold expectedEntry parsed?
  cases read : readLine stack line with
  | ok content =>
      rw [read] at decoded
      exact (Except.ok.inj decoded).symm
  | error failure =>
      rw [read] at decoded
      cases failure with
      | caught => exact (Except.ok.inj decoded).symm
      | raised => cases decoded

omit [JsonCodec] [UnusualHeaders] in
theorem decodeAscii_eq (content : Bytes) :
    CertExtension.decodeAscii content =
      if ∀ byte ∈ content, byte.toNat < 128 then
        some (String.ofList (content.map fun byte => Char.ofNat byte.toNat))
      else none := by
  unfold CertExtension.decodeAscii
  apply if_congr _ rfl rfl
  simp only [List.all_eq_true, decide_eq_true_eq]

section Answers

variable [TextCase] [TextOf]

/-- The property: a request that names an agent is answered with the expected entry of
every line of the file, in order. -/
def Answers (stack room : Nat) (store : Option Files) (params : List (String × Json))
    (now : String) : Prop :=
  if agentIdOf params = "" then
    inspectLifecycle stack room store params now = .ok missingAgentId
  else ∃ events,
    Fallible.map (Entry.write room)
        ((fileLines (fileOf store params)).map (expectedEntry stack)) = .ok events ∧
      inspectLifecycle stack room store params now =
        .ok (answer (agentIdOf params) events now)

def FileContained (stack room : Nat) (content : Bytes) : Prop :=
  (∀ byte ∈ content, byte.toNat < 128) ∧
    ∀ line ∈ fileLines (some content), Contained stack room line

omit [TextCase] [TextOf] in
theorem decode_and_write {stack room : Nat} {lines : List String}
    (contained : ∀ line ∈ lines, Contained stack room line) :
    Fallible.map (decodeLine stack) lines = .ok (lines.map (expectedEntry stack)) ∧
      Fallible.Succeeds (Fallible.map (Entry.write room) (lines.map (expectedEntry stack))) := by
  constructor
  · exact Fallible.map_of_ok fun line member =>
      ((contained_iff stack room line).mp (contained line member)).1
  · apply Fallible.succeeds_map_iff.mpr
    intro entry member
    rcases List.mem_map.mp member with ⟨line, listed, same⟩
    subst same
    exact ((contained_iff stack room line).mp (contained line listed)).2

omit [TextCase] [TextOf] in
theorem contained_of_written {stack room : Nat} {lines : List String} {entries : List Entry}
    {events : List Json} (decoded : Fallible.map (decodeLine stack) lines = .ok entries)
    (wrote : Fallible.map (Entry.write room) (lines.map (expectedEntry stack)) = .ok events) :
    ∀ line ∈ lines, Contained stack room line := by
  intro line member
  apply (contained_iff stack room line).mpr
  constructor
  · rcases Fallible.succeeds_map_iff.mp ⟨entries, decoded⟩ line member with ⟨entry, returned⟩
    rw [returned, decodeLine_eq returned]
  · exact Fallible.succeeds_map_iff.mp ⟨events, wrote⟩ _ (List.mem_map_of_mem member)

omit [JsonCodec] [UnusualHeaders] in
theorem storedLines_eq (store : Option Files) {params : List (String × Json)}
    (named : agentIdOf params ≠ "") :
    storedLines store (agentIdOf params) =
      match fileOf store params with
      | none => .ok []
      | some content =>
          if ∀ byte ∈ content, byte.toNat < 128 then .ok (fileLines (some content))
          else .error .notAscii := by
  unfold fileOf
  rw [if_neg named]
  cases store with
  | none => rfl
  | some files =>
      change readAll files _ = match (Lifecycle.streamName (agentIdOf params)).bind files with
        | none => _
        | some content => _
      unfold readAll
      cases (Lifecycle.streamName (agentIdOf params)).bind files with
      | none => rfl
      | some content =>
          dsimp only
          rw [decodeAscii_eq]
          by_cases ascii : ∀ byte ∈ content, byte.toNat < 128
          · rw [if_pos ascii, if_pos ascii]
            dsimp only
            rw [String.toList_ofList]
            rfl
          · rw [if_neg ascii, if_neg ascii]

omit [TextCase] [TextOf] in
theorem answers_lines_iff {stack room : Nat} {lines : List String} {agentId now : String} :
    (∃ events, Fallible.map (Entry.write room) (lines.map (expectedEntry stack)) = .ok events ∧
      (do
        let decoded ← Fallible.map (decodeLine stack) lines
        let events ← Fallible.map (Entry.write room) decoded
        return answer agentId events now : Except Raised Response) =
          .ok (answer agentId events now)) ↔
      ∀ line ∈ lines, Contained stack room line := by
  constructor
  · intro ⟨events, wrote, returned⟩
    rcases Fallible.ok_of_bind returned with ⟨entries, decoded, _⟩
    exact contained_of_written decoded wrote
  · intro contained
    rcases decode_and_write contained with ⟨decoded, events, wrote⟩
    refine ⟨events, wrote, ?_⟩
    rw [decoded]
    change (Fallible.map (Entry.write room) (lines.map (expectedEntry stack))).bind _ = _
    rw [wrote]
    rfl

/-- A request is answered with the expected entries exactly if the file it is about is
missing or contained. -/
theorem answers_iff (stack room : Nat) (store : Option Files)
    (params : List (String × Json)) (now : String) :
    Answers stack room store params now ↔
      ∀ content, fileOf store params = some content → FileContained stack room content := by
  unfold Answers
  by_cases unnamed : agentIdOf params = ""
  · have noFile : fileOf store params = none := by rw [fileOf, if_pos unnamed]
    rw [if_pos unnamed, noFile]
    refine ⟨fun _ => nofun, fun _ => ?_⟩
    rw [inspectLifecycle, if_pos unnamed]
  · rw [if_neg unnamed, inspectLifecycle, if_neg unnamed, storedLines_eq store unnamed]
    cases fileOf store params with
    | none => exact ⟨fun _ => nofun, fun _ => ⟨[], rfl, rfl⟩⟩
    | some content =>
        have only : (∀ other, some content = some other → FileContained stack room other) ↔
            FileContained stack room content := by
          constructor
          · exact fun all => all content rfl
          · intro holds other same
            cases same
            exact holds
        rw [only]
        unfold FileContained
        dsimp only
        by_cases ascii : ∀ byte ∈ content, byte.toNat < 128
        · rw [if_pos ascii]
          exact answers_lines_iff.trans ⟨fun contained => ⟨ascii, contained⟩, And.right⟩
        · rw [if_neg ascii]
          exact ⟨fun ⟨_, _, returned⟩ => (nomatch returned), fun ⟨holds, _⟩ => absurd holds ascii⟩

theorem not_answered {stack room : Nat} {store : Option Files}
    {params : List (String × Json)} {line : String}
    (listed : line ∈ fileLines (fileOf store params))
    (uncontained : ¬Contained stack room line) (now : String) :
    ¬Answers stack room store params now := by
  rw [answers_iff]
  intro contained
  cases found : fileOf store params with
  | none =>
      rw [found] at listed
      cases listed
  | some content =>
      rw [found] at listed
      exact uncontained ((contained content found).2 line listed)

end Answers

end Laws

/-! ## Lines that are appended -/

def fileBytes (lines : List String) : Bytes := lines.flatMap fun line => asciiBytes line ++ [10]

structure Plain (line : String) : Prop where
  some : line.toList ≠ []
  ascii : ∀ character ∈ line.toList, character.toNat < 128
  unbroken : ∀ character ∈ line.toList, isLineBreak character = false
  solid : ∀ character ∈ line.toList, Text.isSpace character = false

theorem translateNewlines_eq {text : List Char} (plain : '\r' ∉ text) :
    translateNewlines text = text := by
  induction text with
  | nil => rfl
  | cons character rest induction =>
      rw [List.mem_cons, not_or] at plain
      have other : character ≠ '\r' := fun same => plain.1 same.symm
      rw [translateNewlines.eq_def]
      split
      · next same => cases same
      · next same => exact absurd (List.cons.inj same).1 other
      · next same => exact absurd (List.cons.inj same).1 other
      · next same =>
          cases same
          rw [induction plain.2]

theorem splitLines_line {line rest : List Char}
    (unbroken : ∀ character ∈ line, isLineBreak character = false) :
    splitLines (line ++ '\n' :: rest) = line :: splitLines rest := by
  induction line with
  | nil => rfl
  | cons character more induction =>
      have others := induction fun other member => unbroken other (List.mem_cons_of_mem _ member)
      rw [List.cons_append, splitLines, unbroken character List.mem_cons_self, others]
      rfl

section Lines

variable {lines : List String} (plain : ∀ line ∈ lines, Plain line)

include plain

theorem characters_fileBytes :
    (fileBytes lines).map (fun byte => Char.ofNat byte.toNat) =
      lines.flatMap fun line => line.toList ++ ['\n'] := by
  induction lines with
  | nil => rfl
  | cons line rest induction =>
      rw [List.forall_mem_cons] at plain
      rw [fileBytes, List.flatMap_cons, List.map_append, List.map_append,
        characters_asciiBytes plain.1.ascii, List.flatMap_cons]
      exact congrArg (line.toList ++ ['\n'] ++ ·) (induction plain.2)

theorem ascii_fileBytes : ∀ byte ∈ fileBytes lines, byte.toNat < 128 := by
  intro byte member
  rcases List.mem_flatMap.mp member with ⟨line, listed, inside⟩
  rcases List.mem_append.mp inside with ofLine | newline
  · rcases List.mem_map.mp ofLine with ⟨character, present, same⟩
    have bound := (plain line listed).ascii character present
    rw [← same, UInt8.toNat_ofNat', Nat.mod_eq_of_lt (by omega)]
    exact bound
  · rw [List.mem_singleton.mp newline]
    decide

theorem splitLines_fileLines :
    splitLines (lines.flatMap fun line => line.toList ++ ['\n']) =
      lines.map String.toList := by
  induction lines with
  | nil => rfl
  | cons line rest induction =>
      rw [List.forall_mem_cons] at plain
      rw [List.flatMap_cons, List.append_assoc, List.singleton_append,
        splitLines_line plain.1.unbroken, induction plain.2, List.map_cons]

theorem fileLines_fileBytes : fileLines (some (fileBytes lines)) = lines := by
  have noReturn : '\r' ∉ lines.flatMap fun line => line.toList ++ ['\n'] := by
    intro member
    rcases List.mem_flatMap.mp member with ⟨line, listed, inside⟩
    rcases List.mem_append.mp inside with ofLine | newline
    · have unbroken := (plain line listed).unbroken '\r' ofLine
      revert unbroken
      decide
    · revert newline
      decide
  unfold fileLines textLines
  dsimp only
  rw [characters_fileBytes plain, translateNewlines_eq noReturn, splitLines_fileLines plain,
    List.map_map]
  have same : lines.map (String.ofList ∘ String.toList) = lines := by
    conv => rhs; rw [← List.map_id lines]
    exact List.map_congr_left fun line _ => String.ofList_toList
  rw [same]
  apply List.filter_eq_self.mpr
  intro line listed
  have lineSome := (plain line listed).some
  rw [Text.strip_solid (plain line listed).solid, decide_eq_true_eq]
  intro empty
  rw [empty] at lineSome
  exact lineSome rfl

end Lines

theorem fileLines_unended {line : String} (plain : Plain line) :
    fileLines (some (asciiBytes line)) = [line] := by
  have noReturn : '\r' ∉ line.toList := by
    intro member
    have unbroken := plain.unbroken '\r' member
    revert unbroken
    decide
  have split : ∀ characters : List Char, characters ≠ [] →
      (∀ character ∈ characters, isLineBreak character = false) →
      splitLines characters = [characters] := by
    intro characters some unbroken
    induction characters with
    | nil => exact absurd rfl some
    | cons character more induction =>
        rw [splitLines, unbroken character List.mem_cons_self]
        cases more with
        | nil => rfl
        | cons other rest =>
            rw [induction (List.cons_ne_nil _ _) fun next member =>
              unbroken next (List.mem_cons_of_mem _ member)]
            rfl
  unfold fileLines textLines
  dsimp only
  rw [characters_asciiBytes plain.ascii, translateNewlines_eq noReturn,
    split _ plain.some plain.unbroken]
  have kept : Text.strip line ≠ "" := by
    rw [Text.strip_solid plain.solid]
    intro empty
    have lineSome := plain.some
    rw [empty] at lineSome
    exact lineSome rfl
  rw [List.map_singleton, String.ofList_toList, List.filter_singleton, decide_eq_true kept]
  rfl

/-! ## Events -/

/-- What the daemon tells of an event. -/
structure Emission where
  format : Format
  agentId : String
  serverId : String
  issuedAt : String
  responseId : String
  record : LifecycleRecord

namespace Emission

def extra (emission : Emission) : List (String × Json) :=
  [("event_type", .string emission.record.event.type),
    ("previous_status", .string emission.record.previousStatus),
    ("new_status", .string emission.record.newStatus)] ++
  if emission.record.reason = "" then [] else [("reason", .string emission.record.reason)]

def fields (emission : Emission) : Audit.RecordFields where
  agentId := emission.agentId
  ownerId := ""
  principalId := ""
  serverId := emission.serverId
  sessionId := ""
  taskId := ""
  requestId := ""
  responseId := emission.responseId
  issuedAt := emission.issuedAt
  status := 200
  previousAuditId := ""
  extra := emission.extra

/-- The payload that is signed. -/
def payload (emission : Emission) : List (String × Json) :=
  match emission.format with
  | .jws => emission.fields.payload
  | .cose => [
      ("agent_id", .string emission.agentId),
      ("server_id", .string emission.serverId),
      ("issued_at", .string emission.issuedAt),
      ("response_id", .string emission.responseId),
      ("status", .int 200),
      ("extra", .object emission.extra)]

end Emission

/-! ## Their payloads -/

section Payloads

open scoped StandardJson
open StandardJson (sortKeys)
open JsonText (Held)

variable [Floats]

theorem held_strings {members : List (String × Json)}
    (distinct : (members.map Prod.fst).Nodup)
    (strings : ∀ member ∈ members, ∃ text, member.2 = .string text) :
    Held (.object members) := by
  apply Held.object distinct
  intro member listed
  rcases strings member listed with ⟨text, same⟩
  rw [same]
  exact .string text

omit [Floats] in
theorem strings_within {limits : JsonText.Limits} {depth : Nat}
    {members : List (String × Json)} (deep : depth + 1 ≤ limits.nesting)
    (strings : ∀ member ∈ members, ∃ text, member.2 = .string text) :
    firstExcess limits depth (.object members) = none := by
  rw [firstExcess, if_neg (by omega), StandardJson.membersExcess_none]
  intro member listed
  rcases strings member listed with ⟨text, same⟩
  rw [same]
  rfl

omit [Floats] in
theorem extra_strings (emission : Emission) :
    ∀ member ∈ emission.extra, ∃ text, member.2 = Json.string text := by
  unfold Emission.extra
  intro member listed
  rcases List.mem_append.mp listed with required | optional
  · simp only [List.mem_cons, List.not_mem_nil, or_false] at required
    rcases required with same | same | same
    all_goals exact ⟨_, congrArg Prod.snd same⟩
  · by_cases silent : emission.record.reason = ""
    · rw [if_pos silent] at optional
      cases optional
    · rw [if_neg silent, List.mem_singleton] at optional
      exact ⟨_, congrArg Prod.snd optional⟩

omit [Floats] in
theorem extra_distinct (emission : Emission) : (emission.extra.map Prod.fst).Nodup := by
  have all : ["event_type", "previous_status", "new_status", "reason"].Nodup := by decide
  apply List.Nodup.sublist _ all
  unfold Emission.extra
  by_cases silent : emission.record.reason = ""
  · rw [if_pos silent]
    exact (List.sublist_append_left ["event_type", "previous_status", "new_status"] ["reason"])
  · rw [if_neg silent]
    exact .refl _

theorem held_extra (emission : Emission) : Held (.object emission.extra) :=
  held_strings (extra_distinct emission) (extra_strings emission)

theorem held_payload (emission : Emission) : Held (.object emission.payload) := by
  unfold Emission.payload
  cases emission.format with
  | jws => exact Audit.held_payload (held_extra emission)
  | cose =>
      have distinct : ["agent_id", "server_id", "issued_at", "response_id", "status",
          "extra"].Nodup := by decide
      apply Held.object
      · exact distinct
      · simp only [List.forall_mem_cons, List.not_mem_nil, false_implies, implies_true, and_true]
        exact ⟨.string _, .string _, .string _, .string _, .int _, held_extra emission⟩

omit [Floats] in
theorem payload_within {limits : JsonText.Limits} {depth : Nat} (emission : Emission)
    (deep : depth + 2 ≤ limits.nesting) (digits : limits.digits = 4300) :
    firstExcess limits depth (.object emission.payload) = none := by
  have extra : firstExcess limits (depth + 1) (.object emission.extra) = none :=
    strings_within deep (extra_strings emission)
  have status : firstExcess limits (depth + 1) (.int 200) = none := by
    rw [firstExcess, JsonText.Limits.tooLong, digits]
    rfl
  unfold Emission.payload
  cases emission.format with
  | jws => exact Audit.payload_within (by omega) extra status
  | cose =>
      rw [firstExcess, if_neg (by omega), StandardJson.membersExcess_none]
      simp only [List.forall_mem_cons, List.not_mem_nil, false_implies, implies_true, and_true]
      exact ⟨rfl, rfl, rfl, rfl, status, extra⟩

theorem loads_payload (emission : Emission) :
    JsonCodec.loads (JsonCodec.canonical (.object emission.payload)) =
      .ok (sortKeys (.object emission.payload)) :=
  StandardJson.loads_canonical (held_payload emission)
    (payload_within emission (by decide) rfl)

theorem payload_written {room : Nat} (roomy : 5 ≤ room) (emission : Emission) :
    Written room (sortKeys (.object emission.payload)) :=
  StandardJson.firstExcess_sortKeys (held_payload emission)
    (payload_within emission roomy rfl)

end Payloads

section Emitting

open scoped StandardJson
open StandardJson (sortKeys)

variable [Floats] [Digest] {PrivateKey PublicKey : Type}
  [Cose.SigningKeys PrivateKey PublicKey]

/-- `_emit_lifecycle_event`: the line that is appended. -/
def emittedLine (service : Audit.SigningService) (key : PrivateKey) (emission : Emission) :
    Except Cbor.Failure String :=
  match emission.format with
  | .jws => .ok (service.buildAttributionRecord emission.fields).jws
  | .cose =>
      (Cose.buildCoseSign1 key (JsonCodec.canonical (.object emission.payload)) service.keyId
        Cose.defaultTyp).map fun built =>
          String.ofList ("cose:".toList ++ Base64Url.encode built)

def lineOf (service : Audit.SigningService) (key : PrivateKey) (emission : Emission) : String :=
  match emittedLine service key emission with
  | .ok line => line
  | .error _ => ""

def shownHeader (service : Audit.SigningService) : Format → Json
  | .jws => sortKeys (.object (Audit.recordHeader (some service)))
  | .cose => .object [("1", .int Cose.algEdDSA), ("4", .string service.keyId),
      ("16", .string Cose.defaultTyp)]

def shownEvent (service : Audit.SigningService) (key : PrivateKey) (emission : Emission) :
    Json :=
  .object (lineMembers (lineOf service key emission) ++
    [("header", shownHeader service emission.format),
      ("payload", sortKeys (.object emission.payload))])

def Emission.Fits (service : Audit.SigningService) (emission : Emission) : Prop :=
  Cose.Fits service.keyId Cose.defaultTyp (JsonCodec.canonical (.object emission.payload))

/-! ## Their lines -/

omit [Floats] [Digest] in
theorem plain_of_characters {line : String} (some : line.toList ≠ [])
    (listed : ∀ character ∈ line.toList, character ∈ ':' :: '.' :: Base64Url.alphabet) :
    Plain line := by
  have all : ∀ character ∈ ':' :: '.' :: Base64Url.alphabet, character.toNat < 128 ∧
      isLineBreak character = false ∧ Text.isSpace character = false :=
    Text.forall_mem_of_all (by decide)
  exact {
    some
    ascii := fun character member => (all character (listed character member)).1
    unbroken := fun character member => (all character (listed character member)).2.1
    solid := fun character member => (all character (listed character member)).2.2 }

theorem jws_eq (service : Audit.SigningService) (fields : Audit.RecordFields) :
    ∃ signature, (service.buildAttributionRecord fields).jws = String.ofList
      (Audit.encodeSegment (Audit.recordHeader (some service)) ++ '.' ::
        (Audit.encodeSegment fields.payload ++ '.' :: Base64Url.encode signature)) := by
  refine ⟨service.sign (asciiBytes (String.ofList
    (Audit.encodeSegment (Audit.recordHeader (some service)) ++ '.' ::
      Audit.encodeSegment fields.payload))), ?_⟩
  simp [Audit.SigningService.buildAttributionRecord, Audit.recordHeader]

omit [Floats] [Digest] in
theorem mem_compact {header payload signature : Bytes} {character : Char}
    (member : character ∈ Base64Url.encode header ++ '.' ::
      (Base64Url.encode payload ++ '.' :: Base64Url.encode signature)) :
    character ∈ '.' :: Base64Url.alphabet := by
  simp only [List.mem_append, List.mem_cons] at member
  rcases member with first | dot | second | dot | third
  · exact List.mem_cons_of_mem _ (Base64Url.mem_alphabet_of_mem_encode first)
  · exact dot ▸ List.mem_cons_self
  · exact List.mem_cons_of_mem _ (Base64Url.mem_alphabet_of_mem_encode second)
  · exact dot ▸ List.mem_cons_self
  · exact List.mem_cons_of_mem _ (Base64Url.mem_alphabet_of_mem_encode third)

omit [Floats] [Digest] in
theorem formatOf_jws {line : String} (noColon : ':' ∉ line.toList) : formatOf line = .jws := by
  unfold formatOf
  rw [if_neg]
  intro isCose
  apply noColon
  have colon : ':' ∈ "cose:".toList := by decide
  exact (List.isPrefixOf_iff_prefix.mp isCose).subset colon

omit [Floats] [Digest] in
theorem formatOf_cose (rest : List Char) :
    formatOf (String.ofList ("cose:".toList ++ rest)) = .cose := by
  apply if_pos
  apply List.isPrefixOf_iff_prefix.mpr
  have characters : (String.ofList ("cose:".toList ++ rest)).toList = "cose:".toList ++ rest :=
    String.toList_ofList
  rw [characters]
  exact List.prefix_append _ _

omit [Digest] in
theorem header_within (service : Audit.SigningService) {room : Nat} (roomy : 5 ≤ room) :
    JsonCodec.loads (JsonCodec.canonical (.object (Audit.recordHeader (some service)))) =
        .ok (shownHeader service .jws) ∧
      Written room (shownHeader service .jws) := by
  have strings : ∀ member ∈ Audit.recordHeader (some service),
      ∃ text, member.2 = Json.string text := by
    simp only [Audit.recordHeader, List.forall_mem_cons, List.not_mem_nil, false_implies,
      implies_true, and_true]
    exact ⟨⟨_, rfl⟩, ⟨_, rfl⟩, _, rfl⟩
  have distinct : ["alg", "typ", "kid"].Nodup := by decide
  have held : JsonText.Held (.object (Audit.recordHeader (some service))) :=
    held_strings (by exact distinct) strings
  have within : ∀ limits depth, depth + 1 ≤ limits.nesting →
      firstExcess limits depth (.object (Audit.recordHeader (some service))) = none :=
    fun _ _ deep => strings_within deep strings
  constructor
  · exact StandardJson.loads_canonical held (within _ _ (by decide))
  · apply StandardJson.firstExcess_sortKeys held
    apply within
    change 3 + 1 ≤ room
    omega

variable [UnusualHeaders]

structure Shown (stack room : Nat) (service : Audit.SigningService) (key : PrivateKey)
    (emission : Emission) : Prop where
  emitted : emittedLine service key emission = .ok (lineOf service key emission)
  plain : Plain (lineOf service key emission)
  decoded : decodeLine stack (lineOf service key emission) =
    .ok (expectedEntry stack (lineOf service key emission))
  wrote : Entry.write room (expectedEntry stack (lineOf service key emission)) =
    .ok (shownEvent service key emission)

omit [Digest] in
theorem expected_of_read {stack : Nat} {line : String} {content : Content}
    (read : readLine stack line = .ok content) :
    decodeLine stack line = .ok (expectedEntry stack line) ∧
      expectedEntry stack line = .event line content := by
  unfold decodeLine expectedEntry parsed?
  rw [read]
  exact ⟨rfl, rfl⟩

theorem shown_jws {stack room : Nat} (roomy : 5 ≤ room) (service : Audit.SigningService)
    (key : PrivateKey) (emission : Emission) (format : emission.format = .jws) :
    Shown stack room service key emission := by
  have emitted : emittedLine service key emission =
      .ok (service.buildAttributionRecord emission.fields).jws := by
    rw [emittedLine, format]
  have line : lineOf service key emission =
      (service.buildAttributionRecord emission.fields).jws := by
    rw [lineOf, emitted]
  have payloadIs : emission.payload = emission.fields.payload := by
    rw [Emission.payload, format]
  rcases jws_eq service emission.fields with ⟨signature, compact⟩
  have headerFine := header_within service roomy
  have payloadLoaded := loads_payload emission
  rw [payloadIs] at payloadLoaded
  rcases Audit.parse_compact headerFine.1 payloadLoaded signature with
    ⟨parsed, parses, header, payload, _⟩
  rw [← compact, ← line] at parses
  have read : readLine stack (lineOf service key emission) =
      .ok ⟨.json (shownHeader service .jws), sortKeys (.object emission.payload)⟩ := by
    have noColon : ':' ∉ (lineOf service key emission).toList := by
      rw [line, compact, String.toList_ofList]
      intro member
      have listed := mem_compact member
      revert listed
      decide
    unfold readLine
    rw [formatOf_jws noColon]
    dsimp only
    rw [readJws, parses]
    dsimp only
    rw [header, payload, payloadIs]
    rfl
  have expected := expected_of_read read
  exact {
    emitted := by rw [line, emitted]
    plain := by
      apply plain_of_characters
      · rw [line, compact, String.toList_ofList]
        simp
      · rw [line, compact, String.toList_ofList]
        exact fun character member => List.mem_cons_of_mem _ (mem_compact member)
    decoded := expected.1
    wrote := by
      rw [expected.2, Entry.write]
      dsimp only [Header.written]
      rw [if_pos ⟨headerFine.2, payload_written roomy emission⟩, shownEvent, format] }

omit [Digest] in
theorem built_read {stack : Nat} (deep : 3 ≤ stack) {kid : String} {payload : Bytes}
    {said : Json} (fits : Cose.Fits kid Cose.defaultTyp payload)
    (loaded : JsonCodec.loads payload = .ok said) (key : PrivateKey) :
    ∃ built, Cose.buildCoseSign1 key payload kid Cose.defaultTyp = .ok built ∧
      parseCosePayload stack built = .ok (Cose.protectedMap kid Cose.defaultTyp, said) := by
  rcases Cose.buildCoseSign1_ok fits key with ⟨map, _, whole, built⟩
  have header := Cose.decodeHeader_protected deep map
  have some : Cbor.bytesOf (Cose.protectedMap kid Cose.defaultTyp) ≠ [] := by
    intro none
    rw [Cose.decodeHeader, if_pos none] at header
    cases header
  rw [Cose.decodeHeader, if_neg some] at header
  refine ⟨_, built, ?_⟩
  rw [parseCosePayload_envelope (Cose.decode_tagged deep whole), readParts, readPayload, loaded,
    readHeader, isTrue, if_pos (decide_eq_true some)]
  change ((Cbor.decode stack (Cbor.bytesOf (Cose.protectedMap kid Cose.defaultTyp))).mapError
    ofDecoding).bind (fun header => .ok (header, said)) = _
  rw [header]
  rfl

theorem shown_cose {stack room : Nat} (deep : 3 ≤ stack) (roomy : 5 ≤ room)
    (service : Audit.SigningService) (key : PrivateKey) (emission : Emission)
    (format : emission.format = .cose) (fits : emission.Fits service) :
    Shown stack room service key emission := by
  rcases built_read deep fits (loads_payload emission) key with ⟨built, isBuilt, parsed⟩
  have emitted : emittedLine service key emission =
      .ok (String.ofList ("cose:".toList ++ Base64Url.encode built)) := by
    rw [emittedLine, format]
    dsimp only
    rw [isBuilt]
    rfl
  have line : lineOf service key emission =
      String.ofList ("cose:".toList ++ Base64Url.encode built) := by
    rw [lineOf, emitted]
  have characters : (lineOf service key emission).toList =
      "cose:".toList ++ Base64Url.encode built := by
    rw [line]
    exact String.toList_ofList
  have read : readLine stack (lineOf service key emission) =
      .ok ⟨.cbor (Cose.protectedMap service.keyId Cose.defaultTyp),
        sortKeys (.object emission.payload)⟩ := by
    have rest : (lineOf service key emission).toList.drop 5 = Base64Url.encode built := by
      rw [characters]
      rfl
    have isCose : formatOf (lineOf service key emission) = .cose := by
      rw [line]
      exact formatOf_cose _
    unfold readLine
    rw [isCose, rest]
    dsimp only
    rw [readCose, Base64Url.decode_encode]
    dsimp only
    rw [parsed]
    rfl
  have expected := expected_of_read read
  have headerWritten : Header.written (.cbor (Cose.protectedMap service.keyId Cose.defaultTyp)) =
      some (shownHeader service .cose) := rfl
  have headerFits : Written room (shownHeader service .cose) := by
    unfold Written shownHeader
    dsimp only
    rw [firstExcess, if_neg (by change ¬room < 3 + 1; omega), StandardJson.membersExcess_none]
    simp only [List.forall_mem_cons, List.not_mem_nil, false_implies, implies_true, and_true]
    exact ⟨rfl, rfl, rfl⟩
  exact {
    emitted := by rw [line, emitted]
    plain := by
      apply plain_of_characters
      · rw [characters]
        simp
      · rw [characters]
        intro character member
        rcases List.mem_append.mp member with tag | encoded
        · have all : ∀ character ∈ "cose:".toList,
              character ∈ ':' :: '.' :: Base64Url.alphabet := Text.forall_mem_of_all (by decide)
          exact all character tag
        · exact List.mem_cons_of_mem _ (List.mem_cons_of_mem _
            (Base64Url.mem_alphabet_of_mem_encode encoded))
    decoded := expected.1
    wrote := by
      rw [expected.2, Entry.write]
      dsimp only
      rw [headerWritten]
      dsimp only
      rw [if_pos ⟨headerFits, payload_written roomy emission⟩, shownEvent, format] }

variable [TextCase] [TextOf]

def emittedBytes (service : Audit.SigningService) (key : PrivateKey)
    (emissions : List Emission) : Bytes :=
  fileBytes (emissions.map (lineOf service key))

theorem inspect_untouched {stack room : Nat} (deep : 3 ≤ stack) (roomy : 5 ≤ room)
    (service : Audit.SigningService) (key : PrivateKey) {emissions : List Emission}
    (fits : ∀ emission ∈ emissions, emission.Fits service) {store : Option Files}
    {params : List (String × Json)} (now : String)
    (untouched : fileOf store params = some (emittedBytes service key emissions)) :
    Fallible.map (emittedLine service key) emissions =
        .ok (emissions.map (lineOf service key)) ∧
      inspectLifecycle stack room store params now =
        .ok (answer (agentIdOf params) (emissions.map (shownEvent service key)) now) := by
  have shown : ∀ emission ∈ emissions, Shown stack room service key emission := by
    intro emission listed
    cases format : emission.format with
    | jws => exact shown_jws roomy service key emission format
    | cose => exact shown_cose deep roomy service key emission format (fits emission listed)
  have plain : ∀ line ∈ emissions.map (lineOf service key), Plain line := by
    intro line listed
    rcases List.mem_map.mp listed with ⟨emission, member, same⟩
    subst same
    exact (shown emission member).plain
  have named : agentIdOf params ≠ "" := by
    intro unnamed
    rw [fileOf, if_pos unnamed] at untouched
    cases untouched
  refine ⟨Fallible.map_of_ok fun emission listed => (shown emission listed).emitted, ?_⟩
  rw [inspectLifecycle, if_neg named, storedLines_eq store named, untouched]
  dsimp only
  rw [emittedBytes, if_pos (ascii_fileBytes plain), fileLines_fileBytes plain]
  change (Fallible.map (decodeLine stack) (emissions.map (lineOf service key))).bind
    (fun decoded => (Fallible.map (Entry.write room) decoded).bind fun events =>
      .ok (answer (agentIdOf params) events now)) = _
  rw [Fallible.map_written fun emission listed => (shown emission listed).decoded]
  change (Fallible.map (Entry.write room) (emissions.map fun emission =>
    expectedEntry stack (lineOf service key emission))).bind _ = _
  rw [Fallible.map_written fun emission listed => (shown emission listed).wrote]
  rfl

/-- A request for an agent's history is answered with the expected entry of every line
exactly if the file is missing or contained. The entries of an untouched file are the events
that were appended. -/
theorem history_kept_iff (stack room : Nat) (service : Audit.SigningService)
    (key : PrivateKey) :
    (∀ (store : Option Files) (params : List (String × Json)) (now : String),
      Answers stack room store params now ↔
        ∀ content, fileOf store params = some content →
          FileContained stack room content) ∧
    (3 ≤ stack → 5 ≤ room → ∀ (emissions : List Emission),
      (∀ emission ∈ emissions, emission.Fits service) →
      ∀ (store : Option Files) (params : List (String × Json)) (now : String),
        fileOf store params = some (emittedBytes service key emissions) →
          Fallible.map (emittedLine service key) emissions =
              .ok (emissions.map (lineOf service key)) ∧
            inspectLifecycle stack room store params now =
              .ok (answer (agentIdOf params) (emissions.map (shownEvent service key)) now)) :=
  ⟨answers_iff stack room, fun deep roomy _ fits _ _ now untouched =>
    inspect_untouched deep roomy service key fits now untouched⟩

end Emitting

end Agtp.LifecycleHistory

namespace Agtp.HistorySamples

open LifecycleHistory
open scoped Agtp.Plain StandardJson Cose.EnvelopeSamples

scoped instance : UnusualHeaders where
  decode := fun _ => .error .caught

scoped instance : Digest where
  sha256 := fun _ => ""

def service : Audit.SigningService := ⟨"key", fun _ => List.replicate 64 0⟩

def activation : Emission where
  format := .jws
  agentId := "a"
  serverId := "s"
  issuedAt := "now"
  responseId := "r"
  record := ⟨.activation, "suspended", "active", ""⟩

def headerSegment : List Char := Audit.encodeSegment (Audit.recordHeader (some service))

def payloadSegment : List Char := Audit.encodeSegment activation.payload

def torn : String := String.ofList (headerSegment ++ '.' :: (payloadSegment ++ '.' :: ['A']))

def named : List (String × Json) :=
  [("agent_id", .string (String.ofList (List.replicate 64 'a')))]

def holding (content : Bytes) : Option Files := some fun _ => some content

theorem fileOf_holding (content : Bytes) : fileOf (holding content) named = some content := by
  have some : agentIdOf named ≠ "" := by decide +kernel
  have stream : (Lifecycle.streamName (agentIdOf named)).isSome = true := by decide +kernel
  rcases Option.isSome_iff_exists.mp stream with ⟨name, found⟩
  rw [fileOf, if_neg some, holding, Option.bind_some, found, Option.bind_some]

theorem characters_torn :
    torn.toList = headerSegment ++ '.' :: (payloadSegment ++ '.' :: ['A']) :=
  String.toList_ofList

theorem plain_torn : Plain torn := by
  apply plain_of_characters
  · rw [characters_torn]
    simp
  · rw [characters_torn]
    intro character member
    simp only [List.mem_append, List.mem_cons, List.not_mem_nil, or_false] at member
    have listed {bytes : Bytes} (inside : character ∈ Base64Url.encode bytes) :
        character ∈ ':' :: '.' :: Base64Url.alphabet :=
      List.mem_cons_of_mem _ (List.mem_cons_of_mem _ (Base64Url.mem_alphabet_of_mem_encode inside))
    rcases member with header | dot | payload | dot | last
    · exact listed header
    · rw [dot]
      decide
    · exact listed payload
    · rw [dot]
      decide
    · rw [last]
      decide

theorem torn_begins : asciiBytes torn <+: emittedBytes service () [activation] := by
  have line : (lineOf service () activation).toList =
      torn.toList ++ (Base64Url.encode (List.replicate 64 0)).tail := by
    have signature : Base64Url.encode (List.replicate 64 0) =
        'A' :: (Base64Url.encode (List.replicate 64 0)).tail := rfl
    change (service.buildAttributionRecord activation.fields).jws.toList = _
    unfold Audit.SigningService.buildAttributionRecord
    dsimp only
    rw [String.toList_ofList, characters_torn]
    change (headerSegment ++ '.' :: payloadSegment) ++
      '.' :: Base64Url.encode (List.replicate 64 0) = _
    rw [signature]
    simp
  rw [emittedBytes, fileBytes, List.map_cons, List.map_nil, List.flatMap_cons, asciiBytes,
    asciiBytes, line, List.map_append, List.append_assoc, List.append_assoc]
  exact List.prefix_append _ _

theorem fileLines_torn : fileLines (some (asciiBytes torn)) = [torn] := by
  have unended := fileLines_unended plain_torn
  exact unended

theorem torn_not_contained (stack room : Nat) : ¬Contained stack room torn := by
  have noColon : ':' ∉ torn.toList := by
    rw [characters_torn]
    intro member
    simp only [List.mem_append, List.mem_cons, List.not_mem_nil, or_false] at member
    have absent : ':' ∉ Base64Url.alphabet := by decide
    rcases member with header | dot | payload | dot | last
    · exact absent (Base64Url.mem_alphabet_of_mem_encode header)
    · cases dot
    · exact absent (Base64Url.mem_alphabet_of_mem_encode payload)
    · cases dot
    · cases last
  have segments : Text.splitCharacters '.' torn.toList =
      [headerSegment, payloadSegment, ['A']] := by
    rw [characters_torn]
    exact Audit.split_segments (Audit.dot_notMem_encodeSegment _)
      (Audit.dot_notMem_encodeSegment _) (by decide)
  have broken : ¬Base64 ['A'] := by
    have none : Base64Url.decode ['A'] = none := by decide
    simp [Base64, none]
  exact not_contained_of_signature (formatOf_jws noColon) segments
    ⟨_, Base64Url.decode_encode _, (header_within service (Nat.le_refl 5)).1⟩
    ⟨_, Base64Url.decode_encode _, loads_payload activation⟩ broken

theorem torn_not_answered (stack room : Nat) :
    ¬Answers stack room (holding (asciiBytes torn)) named "now" := by
  have listed : torn ∈ fileLines (fileOf (holding (asciiBytes torn)) named) := by
    rw [fileOf_holding, fileLines_torn]
    exact List.mem_singleton_self _
  exact not_answered listed (torn_not_contained stack room) "now"

/-- The history of an agent whose last append was cut off raises an exception. -/
theorem torn_history_raises :
    asciiBytes torn <+: emittedBytes service () [activation] ∧
      ¬Answers 900 900 (holding (asciiBytes torn)) named "now" :=
  ⟨torn_begins, torn_not_answered 900 900⟩

end Agtp.HistorySamples
