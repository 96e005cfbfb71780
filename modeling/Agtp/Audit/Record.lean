import Agtp.Foundation.Base64Url
import Agtp.Foundation.Platform

/-! # Attribution records

Building, parsing and verifying the compact JWS that the daemon stamps on a
response. -/

namespace Agtp.Audit

def genesisSentinel : String := "0000000000000000000000000000000000000000000000000000000000000000"

/-- What the daemon knows about a response when it builds its record. -/
structure RecordFields where
  agentId : String
  ownerId : String
  principalId : String
  serverId : String
  sessionId : String
  taskId : String
  requestId : String
  responseId : String
  issuedAt : String
  status : Int
  previousAuditId : String
  extra : List (String × Json)

/-- The payload of a record. Optional identifiers ride only when populated. -/
def RecordFields.payload (fields : RecordFields) : List (String × Json) :=
  [("audit_record_version", .string "1"),
    ("server_id", .string fields.serverId),
    ("agent_id", .string fields.agentId),
    ("owner_id", .string fields.ownerId),
    ("request_id", .string fields.requestId),
    ("response_id", .string fields.responseId),
    ("previous_audit_id", .string
      (if fields.previousAuditId = "" then genesisSentinel
        else fields.previousAuditId)),
    ("issued_at", .string fields.issuedAt),
    ("status", .int fields.status)] ++
  (if fields.principalId = "" then []
    else [("principal_id", .string fields.principalId)]) ++
  (if fields.sessionId = "" then []
    else [("session_id", .string fields.sessionId)]) ++
  (if fields.taskId = "" then []
    else [("task_id", .string fields.taskId)]) ++
  (if fields.extra = [] then [] else [("extra", .object fields.extra)])

/-- The key the daemon signs with. -/
structure SigningService where
  keyId : String
  sign : Bytes → Bytes

structure AttributionRecord where
  jws : String
  auditId : String
  payload : List (String × Json)

section Building

variable [JsonCodec] [Digest]

def encodeSegment (members : List (String × Json)) : List Char :=
  Base64Url.encode (JsonCodec.canonical (.object members))

def auditIdFor (jws : String) : String :=
  Digest.sha256 (asciiBytes jws)

def SigningService.buildAttributionRecord (service : SigningService)
    (fields : RecordFields) : AttributionRecord :=
  let protectedSegment := encodeSegment
    [("alg", .string "EdDSA"), ("typ", .string "JWT"),
      ("kid", .string service.keyId)]
  let signingInput := protectedSegment ++ '.' :: encodeSegment fields.payload
  let signature := service.sign (asciiBytes (String.ofList signingInput))
  let jws := String.ofList (signingInput ++ '.' :: Base64Url.encode signature)
  ⟨jws, auditIdFor jws, fields.payload⟩

def buildUnsignedAttributionRecord (fields : RecordFields) : AttributionRecord :=
  let protectedSegment := encodeSegment
    [("alg", .string "none"), ("typ", .string "JWT")]
  let jws := String.ofList
    (protectedSegment ++ '.' :: (encodeSegment fields.payload ++ ['.']))
  ⟨jws, auditIdFor jws, fields.payload⟩

/-- The builder `_finalize_response` selects: the signing service's when one is
loaded, the unsigned one otherwise. -/
def buildRecord (service : Option SigningService) (fields : RecordFields) :
    AttributionRecord :=
  match service with
  | some service => service.buildAttributionRecord fields
  | none => buildUnsignedAttributionRecord fields

end Building

/-! ## Parsing and verifying -/

/-- The reasons of an `AttributionRecordError`. -/
inductive RecordError where
  | segments (count : Nat)
  | notJson
  | signedNone
  | unsupportedAlg (alg : Option Json)
  | signature

/-- How reading a record fails: with an `AttributionRecordError`, which the
tools catch, or with any other exception, which they do not. -/
inductive RecordFailure where
  | record (error : RecordError)
  | uncaught

section Parsing

variable [JsonCodec]

def decodeSegment (segment : List Char) : Except RecordFailure Json :=
  match Base64Url.decode segment with
  | none => .error (.record .notJson)
  | some bytes =>
      match JsonCodec.loads bytes with
      | .error .valueError => .error (.record .notJson)
      | .error .other => .error .uncaught
      | .ok value => .ok value

/-- The signature segment is decoded outside the `try`, so a segment that is
not base64 raises the decoder's own error. -/
def decodeSignature (segment : List Char) : Except RecordFailure Bytes :=
  if segment = [] then .ok []
  else
    match Base64Url.decode segment with
    | none => .error .uncaught
    | some bytes => .ok bytes

structure ParsedRecord where
  header : Json
  payload : Json
  signature : Bytes
  signingInput : Bytes

/-- `parse_attribution_record`, which also keeps the bytes the signature is
over. -/
def parseAttributionRecord (jws : String) : Except RecordFailure ParsedRecord :=
  match Text.splitCharacters '.' jws.toList with
  | [protectedSegment, payloadSegment, signatureSegment] => do
      let header ← decodeSegment protectedSegment
      let payload ← decodeSegment payloadSegment
      let signature ← decodeSignature signatureSegment
      .ok ⟨header, payload, signature,
        asciiBytes (String.ofList (protectedSegment ++ '.' :: payloadSegment))⟩
  | parts => .error (.record (.segments parts.length))

variable {PublicKey : Type} [SignatureScheme PublicKey]

def verifyAttributionRecord (jws : String) (publicKey : PublicKey) :
    Except RecordFailure Json := do
  let record ← parseAttributionRecord jws
  match record.header with
  | .object members =>
      match Json.member members "alg" with
      | some (.string "none") =>
          if record.signature ≠ [] then .error (.record .signedNone)
          else .ok record.payload
      | some (.string "EdDSA") =>
          if SignatureScheme.verifies publicKey record.signature
              record.signingInput then
            .ok record.payload
          else .error (.record .signature)
      | alg => .error (.record (.unsupportedAlg alg))
  | _ => .error .uncaught

end Parsing

def previousAuditId [TextOf] (payload : List (String × Json)) : String :=
  match Json.member payload "previous_audit_id" with
  | some value => if value.truthy then value.str else genesisSentinel
  | none => genesisSentinel

section Reading

variable [JsonCodec] [TextOf]

def recordPrevious (jws : String) : Option String :=
  match parseAttributionRecord jws with
  | .ok ⟨_, .object members, _, _⟩ => some (previousAuditId members)
  | _ => none

omit [TextOf] in
def NamesAgent (agentId jws : String) : Prop :=
  ∃ parsed members, parseAttributionRecord jws = .ok parsed ∧
    parsed.payload = .object members ∧
    Json.member members "agent_id" = some (.string agentId)

omit [TextOf] in
theorem NamesAgent.unique {left right jws : String}
    (leftNamed : NamesAgent left jws) (rightNamed : NamesAgent right jws) :
    left = right := by
  obtain ⟨parsed, members, parses, payload, leftMember⟩ := leftNamed
  obtain ⟨parsed', members', parses', payload', rightMember⟩ := rightNamed
  have sameParsed := Except.ok.inj (parses.symm.trans parses')
  subst sameParsed
  have sameMembers := Json.object.inj (payload.symm.trans payload')
  subst sameMembers
  have sameValue := Option.some.inj (leftMember.symm.trans rightMember)
  exact Json.string.inj sameValue

end Reading

/-! ## What is built is what is parsed -/

theorem dot_notMem_encode (bytes : Bytes) : '.' ∉ Base64Url.encode bytes := by
  intro member
  have inAlphabet := Base64Url.mem_alphabet_of_mem_encode member
  revert inAlphabet
  decide

theorem decodeSignature_encode (signature : Bytes) :
    decodeSignature (Base64Url.encode signature) = .ok signature := by
  unfold decodeSignature
  split
  · next empty =>
      have decoded := Base64Url.decode_encode signature
      rw [empty] at decoded
      exact congrArg Except.ok (Option.some.inj decoded)
  · simp [Base64Url.decode_encode]

theorem split_segments {protectedSegment payloadSegment : List Char}
    (protectedPlain : '.' ∉ protectedSegment)
    (payloadPlain : '.' ∉ payloadSegment) {signatureSegment : List Char}
    (signaturePlain : '.' ∉ signatureSegment) :
    Text.splitCharacters '.'
        (protectedSegment ++ '.' :: (payloadSegment ++ '.' :: signatureSegment)) =
      [protectedSegment, payloadSegment, signatureSegment] := by
  rw [Text.splitCharacters_append protectedPlain,
    Text.splitCharacters_append payloadPlain,
    Text.splitCharacters_of_notMem signaturePlain]

section RoundTrip

variable [JsonCodec]

/-- Canonical JSON of these members reads back as an object with the same
text members. `json.dumps` and `json.loads` give this for every dictionary of
distinct keys. -/
def ReadsBack (members : List (String × Json)) : Prop :=
  ∃ read, JsonCodec.loads (JsonCodec.canonical (.object members)) =
      .ok (.object read) ∧
    ∀ name value, Json.member members name = some (.string value) →
      Json.member read name = some (.string value)

theorem decodeSegment_encodeSegment {members read : List (String × Json)}
    (loaded : JsonCodec.loads (JsonCodec.canonical (.object members)) =
      .ok (.object read)) :
    decodeSegment (encodeSegment members) = .ok (.object read) := by
  simp [decodeSegment, encodeSegment, Base64Url.decode_encode, loaded]

theorem dot_notMem_encodeSegment (members : List (String × Json)) :
    '.' ∉ encodeSegment members :=
  dot_notMem_encode _

theorem parse_compact {header payload headerRead payloadRead : List (String × Json)}
    (headerLoaded : JsonCodec.loads (JsonCodec.canonical (.object header)) =
      .ok (.object headerRead))
    (payloadLoaded : JsonCodec.loads (JsonCodec.canonical (.object payload)) =
      .ok (.object payloadRead)) (signature : Bytes) :
    ∃ parsed,
      parseAttributionRecord (String.ofList
          (encodeSegment header ++ '.' ::
            (encodeSegment payload ++ '.' :: Base64Url.encode signature))) =
        .ok parsed ∧
      parsed.header = .object headerRead ∧
      parsed.payload = .object payloadRead ∧
      parsed.signature = signature := by
  unfold parseAttributionRecord
  rw [String.toList_ofList, split_segments (dot_notMem_encodeSegment _)
    (dot_notMem_encodeSegment _) (dot_notMem_encode _)]
  simp only [decodeSegment_encodeSegment headerLoaded,
    decodeSegment_encodeSegment payloadLoaded, decodeSignature_encode]
  exact ⟨_, rfl, rfl, rfl, rfl⟩

variable [Digest]

def recordHeader (service : Option SigningService) : List (String × Json) :=
  match service with
  | some service =>
      [("alg", .string "EdDSA"), ("typ", .string "JWT"),
        ("kid", .string service.keyId)]
  | none => [("alg", .string "none"), ("typ", .string "JWT")]

theorem buildRecord_auditId (service : Option SigningService)
    (fields : RecordFields) :
    (buildRecord service fields).auditId =
      auditIdFor (buildRecord service fields).jws := by
  cases service <;> rfl

theorem buildRecord_payload (service : Option SigningService)
    (fields : RecordFields) :
    (buildRecord service fields).payload = fields.payload := by
  cases service <;> rfl

theorem parse_buildRecord (service : Option SigningService)
    (fields : RecordFields) (headerReads : ReadsBack (recordHeader service))
    (payloadReads : ReadsBack fields.payload) :
    ∃ parsed members,
      parseAttributionRecord (buildRecord service fields).jws = .ok parsed ∧
      parsed.payload = .object members ∧
      ∀ name value, Json.member fields.payload name = some (.string value) →
        Json.member members name = some (.string value) := by
  obtain ⟨headerRead, headerLoaded, _⟩ := headerReads
  obtain ⟨payloadRead, payloadLoaded, sameMembers⟩ := payloadReads
  cases service with
  | some service =>
      obtain ⟨parsed, parses, _, payload, _⟩ := parse_compact headerLoaded payloadLoaded
        (service.sign (asciiBytes (String.ofList
          (encodeSegment (recordHeader (some service)) ++ '.' ::
            encodeSegment fields.payload))))
      refine ⟨parsed, payloadRead, ?_, payload, sameMembers⟩
      simpa [buildRecord, SigningService.buildAttributionRecord, recordHeader]
        using parses
  | none =>
      obtain ⟨parsed, parses, _, payload, _⟩ :=
        parse_compact headerLoaded payloadLoaded []
      refine ⟨parsed, payloadRead, ?_, payload, sameMembers⟩
      simpa [buildRecord, buildUnsignedAttributionRecord, recordHeader,
        Base64Url.encode] using parses

end RoundTrip

theorem RecordFields.member_agentId (fields : RecordFields) :
    Json.member fields.payload "agent_id" = some (.string fields.agentId) := by
  simp [payload, Json.member]

theorem RecordFields.member_previousAuditId (fields : RecordFields) :
    Json.member fields.payload "previous_audit_id" = some (.string
      (if fields.previousAuditId = "" then genesisSentinel
        else fields.previousAuditId)) := by
  simp [payload, Json.member]

section BuiltRecords

variable [JsonCodec] [Digest] [TextOf]

omit [TextOf] in
theorem namesAgent_buildRecord (service : Option SigningService)
    (fields : RecordFields) (headerReads : ReadsBack (recordHeader service))
    (payloadReads : ReadsBack fields.payload) :
    NamesAgent fields.agentId (buildRecord service fields).jws := by
  obtain ⟨parsed, members, parses, payload, sameMembers⟩ :=
    parse_buildRecord service fields headerReads payloadReads
  exact ⟨parsed, members, parses, payload,
    sameMembers _ _ fields.member_agentId⟩

theorem recordPrevious_buildRecord (service : Option SigningService)
    (fields : RecordFields) (headerReads : ReadsBack (recordHeader service))
    (payloadReads : ReadsBack fields.payload) :
    recordPrevious (buildRecord service fields).jws =
      some (if fields.previousAuditId = "" then genesisSentinel
        else fields.previousAuditId) := by
  obtain ⟨⟨header, payload, signature, signingInput⟩, members, parses, isObject,
    sameMembers⟩ := parse_buildRecord service fields headerReads payloadReads
  subst isObject
  have previous := sameMembers _ _ fields.member_previousAuditId
  simp only [recordPrevious, parses, previousAuditId, previous]
  by_cases first : fields.previousAuditId = ""
  · simp [first, Json.truthy, Json.str, genesisSentinel]
  · simp [first, Json.truthy, Json.str]

end BuiltRecords

end Agtp.Audit
