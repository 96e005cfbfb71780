import Agtp.Core.Status
import Agtp.Presence.Gossip
import Agtp.Presence.Ranking
import Agtp.Presence.Scopes
import Agtp.Presence.Visibility

/-! # The presence methods

The handlers of a coordinator: `ANNOUNCE`, `WITHDRAW`, `PROBE`, `DISCOVER /population` and
`REPLICATE`. -/

namespace Agtp

namespace Json

def update (members entries : List (String × Json)) : List (String × Json) :=
  entries.foldl (fun members entry => Dict.setEntries entry.1 entry.2 members) members

end Json

/-- What a coordinator is set up with. `envelopeOf` reads the visibility that a
certificate declares, `boundToGenesis` holds where no Genesis of the agent is known or the
record is signed with its key, `signRecord` gives the signature of a hosted record, and
`signResults` that of a result set. -/
structure PresenceRegistry where
  hosted : String → Option DocumentFields
  relayEndpoint : Option String
  requireDiscoveryScope : Bool
  verifySignatures : Bool
  envelopeOf : VerifiedCert → Option Visibility
  verifyRecord : PresenceRecord → Bool
  boundToGenesis : PresenceRecord → Bool
  signRecord : PresenceRecord → Option Json
  signResults : List Json → Option Json

structure Reading extends Gossip.Moment where
  epoch : String

inductive Stop where
  | answer (response : ErrorResponse)
  | raise (raised : Raised)

namespace Presence

open Status

abbrev Handled := Except Raised Response × PresenceStore

def refuse (store : PresenceStore) (response : ErrorResponse) : Handled :=
  (.ok response.toResponse, store)

def stopped (store : PresenceStore) : Stop → Handled
  | .answer response => refuse store response
  | .raise raised => (.error raised, store)

def answer (store : PresenceStore) (payload : List (String × Json)) : Handled :=
  (.ok ⟨200, "OK", [], .object payload⟩, store)

/-! ## Reading a request -/

section Request

variable [TextCase] [BodyCodec]

/-- `parse_body`: an empty body is the empty object. A failure is the message of a
`ValueError`, or nothing for another exception. -/
def parsedBody (request : Request) : Except (Option String) (List (String × Json)) :=
  if request.body = [] then .ok []
  else
    match BodyCodec.loads request.body with
    | .ok (.object members) => .ok members
    | .ok _ => .error (some "request body must be a JSON object")
    | .error .valueError => .error (some (BodyCodec.failureText request.body))
    | .error .other => .error none

def queryMembers (request : Request) : List (String × Json) :=
  request.query.entries.map fun entry => (entry.1, .string entry.2)

def mergedParams (request : Request) : Except Raised (List (String × Json)) :=
  match parsedBody request with
  | .ok members =>
      let inner :=
        match Json.get members "parameters" with
        | .object inner => inner
        | _ => []
      .ok (Json.update (Json.update (queryMembers request) inner)
        (members.filter fun entry => entry.1 ≠ "parameters"))
  | .error (some _) => .ok (queryMembers request)
  | .error none => .error .recursionError

def filledText : Json → Option String
  | .string text => if text = "" then none else some text
  | _ => none

def subjectAgentId (request : Request) (params : List (String × Json)) : String :=
  match filledText (Json.get params "agent_id") with
  | some agentId => agentId
  | none =>
      match filledText (Json.get params "target") with
      | some agentId => agentId
      | none => Wire.readAgentId request.headers

def callerId (request : Request) : String :=
  match request.verifiedCert with
  | some cert => cert.agentId
  | none => Wire.header request.headers "Agent-Identity"

/-- `_requester_context`. Of a caller that is not hosted, only the id is known: a verified
certificate has no attributes of the names that are read from it. -/
def requesterContext [MethodCatalog] [TextOf] (registry : PresenceRegistry)
    (request : Request) : Except Raised RequesterContext :=
  if callerId request = "" then .ok .anonymous
  else
    match registry.hosted (callerId request) with
    | some document =>
        (Scopes.deriveCapabilities document).map fun capabilities =>
          { RequesterContext.anonymous with
            agentId := callerId request
            tier := some document.trustTier
            ownerDomain := if document.ownerId = "" then none else some document.ownerId
            capabilities := capabilities }
    | none => .ok { RequesterContext.anonymous with agentId := callerId request }

/-! ### Parameters -/

def textParam [TextOf] (params : List (String × Json)) (name : String) : Option String :=
  match Json.get params name with
  | .null => none
  | .string text => if Text.strip text = "" then none else some (Text.strip text)
  | value => some value.str

/-- What a parameter converts to, if it is given. An exception that is not of a malformed
value is not caught. -/
def convertedParam [TextOf] (convert : Json → Except Raised Value) (code kind : String)
    (params : List (String × Json)) (name : String) : Except Stop (Option Value) :=
  match Json.get params name with
  | .null => .ok none
  | raw =>
      match convert raw with
      | .ok value => .ok (some value)
      | .error raised =>
          if raised = .typeError ∨ raised = .valueError then
            .error (.answer (errorResponse 400 "Bad Request" code
              (name ++ " must be " ++ kind ++ " (got " ++ raw.repr ++ ").") []))
          else .error (.raise raised)

def intParam [Floats] [NumberText] [TextOf] (code : String) :
    List (String × Json) → String → Except Stop (Option Int) :=
  convertedParam Json.toInt code "an integer"

def floatParam [Floats] [TextOf] (code : String) :
    List (String × Json) → String → Except Stop (Option String) :=
  convertedParam Json.toFloat code "a number"

def flag [TextOf] : Json → Bool
  | .bool value => value
  | value => ["1", "true", "yes", "on"].contains (lower (Text.strip value.str))

end Request

/-! ## Announcing -/

def counted [Floats] (store : PresenceStore) (now : ℚ) : Except Raised Nat × PresenceStore :=
  match store.sweep now with
  | .ok swept => (.ok swept.count, swept)
  | .error raised => (.error raised, store)

def answerCounted [Floats] (store : PresenceStore) (now : ℚ)
    (payload : List (String × Json)) : Handled :=
  match counted store now with
  | (.ok size, swept) =>
      answer swept (payload ++ [("population_size", .int size)])
  | (.error raised, after) => (.error raised, after)

def hostedEntry (document : DocumentFields) (capabilities : List String) :
    List (String × Json) :=
  [("agent_id", .string document.agentId),
    ("manifest_uri", .string ("agtp://" ++ document.agentId)),
    ("name", .string document.name),
    ("supported_methods", .array document.requires.methods),
    ("capabilities", texts capabilities),
    ("trust_tier", .int document.trustTier),
    ("verification_path", .string document.verificationPath)] ++
  (document.trustScore.map fun score =>
    ("behavioral_trust_score", Json.float score)).toList ++
  (if document.trustWarning = "" then []
    else [("trust_warning", .string document.trustWarning)]) ++
  if document.ownerId = "" then [] else [("owner_id", .string document.ownerId)]

def buildRecord [TextCase] [TextOf] [MethodCatalog] (document : DocumentFields)
    (relay : Option String) (visibility : Visibility) (ttl : Int) (reading : Reading) :
    Except Raised PresenceRecord :=
  (Scopes.deriveCapabilities document).map fun derived =>
    let capabilities := Scopes.sortedSet derived
    { agentId := document.agentId
      resultEntry := hostedEntry document capabilities
      scopes := Scopes.defaultScopes document capabilities
      visibility := visibility
      announcedAt := reading.text
      announcedAtEpoch := reading.epoch
      ttlSeconds := ttl
      ownerDomain := if document.ownerId = "" then .null else .string document.ownerId
      attachment := relay
      signature := .null }

def signed (registry : PresenceRegistry) (record : PresenceRecord) : PresenceRecord :=
  match registry.signRecord record with
  | some signature => { record with signature := signature }
  | none => record

def announcementDict (record : PresenceRecord) : Json :=
  .object [("agent_id", .string record.agentId),
    ("visibility", .object record.visibility.toDict), ("scopes", .array record.scopes),
    ("timestamp", .string record.announcedAt), ("signature", record.signature)]

def announced [Floats] (reading : Reading) (record : PresenceRecord) (verified : Bool)
    (store : PresenceStore) : Handled :=
  match store.announce record with
  | (.error raised, after) => (.error raised, after)
  | (.ok (), after) =>
      answerCounted after reading.now
        ([("method", .string "ANNOUNCE"), ("presence", .string "announced")] ++
          (if verified then [("verified", .bool true)] else []) ++
          [("announcement", announcementDict record)])

section Announcing

variable [Floats] [TextCase] [TextOf] [NumberText] [MethodCatalog] [BodyCodec]

def announceForeignRecord (registry : PresenceRegistry) (reading : Reading)
    (failureText : Raised → String) (raw : Json) (store : PresenceStore) : Handled :=
  match PresenceRecord.fromGossipDict reading.text raw with
  | .error raised =>
      if raised.malformed then
        refuse store (errorResponse 400 "Bad Request" "announce-bad-record"
          ("malformed record: " ++ failureText raised) [])
      else (.error raised, store)
  | .ok record =>
      if !registry.verifyRecord record then
        refuse store (errorResponse 403 "Forbidden" "announce-signature-invalid"
          "a foreign ANNOUNCE record must carry a valid signature." [])
      else if !registry.boundToGenesis record then
        refuse store (errorResponse 403 "Forbidden" "announce-key-binding-invalid"
          "record signing key is not bound to this agent's Genesis." [])
      else announced reading record true store

def readRequestedVisibility (request : Request) (params : List (String × Json)) :
    Visibility :=
  let requested := Visibility.fromDict (Json.get params "visibility")
  let mode := Wire.header request.headers "Presence-Mode"
  if mode = "" then requested else { requested with presenceMode := Text.strip mode }

/-- The time to live that an `ANNOUNCE` asks for. -/
def announcedTtl (params : List (String × Json)) : Except Stop Int :=
  match Json.get params "ttl_seconds" with
  | .null => .ok defaultTtlSeconds
  | raw =>
      match raw.toInt with
      | .ok ttl => .ok ttl
      | .error raised =>
          if raised = .typeError ∨ raised = .valueError then
            .error (.answer (errorResponse 400 "Bad Request" "announce-bad-ttl"
              ("ttl_seconds must be an integer (got " ++ raw.repr ++ ").") []))
          else .error (.raise raised)

/-- `ANNOUNCE` of a hosted agent. -/
def announceHosted (registry : PresenceRegistry) (reading : Reading) (request : Request)
    (params : List (String × Json)) (document : DocumentFields) (store : PresenceStore) :
    Handled :=
  let effective := Visibility.bound (request.verifiedCert.bind registry.envelopeOf)
    (readRequestedVisibility request params)
  match announcedTtl params with
  | .error stop => stopped store stop
  | .ok ttl =>
      match buildRecord document registry.relayEndpoint effective ttl reading with
      | .error raised => (.error raised, store)
      | .ok record => announced reading (signed registry record) false store

def handleAnnounce (registry : PresenceRegistry) (reading : Reading)
    (failureText : Raised → String) (request : Request) (store : PresenceStore) : Handled :=
  match mergedParams request with
  | .error raised => (.error raised, store)
  | .ok params =>
      match Json.get params "record" with
      | .object record =>
          announceForeignRecord registry reading failureText (.object record) store
      | _ =>
          let agentId := subjectAgentId request params
          if agentId = "" then
            refuse store (errorResponse 400 "Bad Request" "announce-missing-agent-id"
              "ANNOUNCE requires an agent_id (body/query param or Agent-ID header)." [])
          else
            match registry.hosted agentId with
            | none =>
                refuse store (errorResponse 422 "Unprocessable Entity"
                  "announce-agent-not-hosted"
                  ("agent " ++ agentId ++ " is not hosted on this coordinator. A " ++
                    "non-hosted agent may announce by submitting a signed " ++
                    "'record' in the body (M3 signed foreign announce).") [])
            | some document =>
                announceHosted registry reading request params document store

def handleWithdraw (now : ℚ) (request : Request) (store : PresenceStore) : Handled :=
  match mergedParams request with
  | .error raised => (.error raised, store)
  | .ok params =>
      let agentId := subjectAgentId request params
      if agentId = "" then
        refuse store (errorResponse 400 "Bad Request" "withdraw-missing-agent-id"
          "WITHDRAW requires an agent_id (body/query param or Agent-ID header)." [])
      else
        let withdrawn := store.withdraw agentId
        answerCounted withdrawn.2 now
          [("method", .string "WITHDRAW"),
            ("presence", .string (if withdrawn.1 then "withdrawn" else "absent")),
            ("agent_id", .string agentId)]

end Announcing

/-! ## Probing -/

def probe404 (agentId : String) : ErrorResponse :=
  errorResponse 404 "Not Found" "probe-not-present"
    ("agent " ++ agentId ++ " is not currently present in this scope.") []

def probeAnswer (agentId : String) (record : PresenceRecord) : List (String × Json) :=
  [("method", .string "PROBE"), ("agent_id", .string agentId), ("present", .bool true),
    ("posture", .object record.visibility.toDict),
    ("announced_at", .string record.announcedAt), ("ttl_seconds", .int record.ttlSeconds),
    ("entry", .object record.shapeEntry)]

section Probing

variable [Floats] [TextCase] [TextOf] [NumberText] [MethodCatalog] [BodyCodec] [CallDepth]

def probed (agentId : String) (found : Option PresenceRecord)
    (requester : RequesterContext) (store : PresenceStore) : Handled :=
  match found with
  | none => refuse store (probe404 agentId)
  | some record =>
      match record.isVisible requester with
      | .error raised => (.error raised, store)
      | .ok true => answer store (probeAnswer agentId record)
      | .ok false => refuse store (probe404 agentId)

def handleProbe (registry : PresenceRegistry) (now : ℚ) (request : Request)
    (store : PresenceStore) : Handled :=
  match mergedParams request with
  | .error raised => (.error raised, store)
  | .ok params =>
      let agentId := subjectAgentId request params
      if agentId = "" then
        refuse store (errorResponse 400 "Bad Request" "probe-missing-agent-id"
          "PROBE requires an agent_id (body/query param or Agent-ID header)." [])
      else
        match store.probe agentId now with
        | (.error raised, after) => (.error raised, after)
        | (.ok found, after) =>
            match requesterContext registry request with
            | .error raised => (.error raised, after)
            | .ok requester => probed agentId found requester after

end Probing

/-! ## The population query -/

/-- The parameters of a query. -/
structure Query where
  capability : Option String
  intent : Option String
  capabilityDomains : Json
  tier : Option Int
  ownerDomain : Option String
  governanceZone : Option String
  trustTierMin : Option Int
  behavioralTrustMin : Option String
  scopeNegotiate : Bool
  limit : Option Int

section Population

variable [Floats] [TextCase] [TextOf] [NumberText]

def readQuery (params : List (String × Json)) : Except Stop Query := do
  let tier ← intParam "population-bad-tier" params "tier"
  let trustTierMin ← intParam "population-bad-trust-tier-min" params "trust_tier_min"
  let behavioralTrustMin ← floatParam "population-bad-behavioral-min" params
    "behavioral_trust_min"
  let limit ← intParam "population-bad-limit" params "limit"
  return {
    capability := textParam params "capability"
    intent := textParam params "intent"
    capabilityDomains := Json.get params "capability_domains"
    tier := tier
    ownerDomain := ((textParam params "owner_domain").or
      (textParam params "owner-domain")).or (textParam params "org_domain")
    governanceZone := textParam params "governance_zone"
    trustTierMin := trustTierMin
    behavioralTrustMin := behavioralTrustMin
    scopeNegotiate := flag (Json.get params "scope_negotiate")
    limit := limit }

def inPartition (query : Query) (record : PresenceRecord) : Bool :=
  (match query.tier with
    | some tier =>
        (Json.get record.resultEntry "trust_tier").number? = some (.finite tier)
    | none => true) &&
  match query.ownerDomain, record.ownerDomain with
    | some domain, .string text => text = domain
    | some _, _ => false
    | none, _ => true

/-- The records that the index has under the capability, or all of them. The order in
which they are taken does not matter: they are sorted next. -/
def candidates (query : Query) (store : PresenceStore) : List PresenceRecord :=
  match query.capability with
  | none => store.values
  | some capability =>
      store.values.filter fun record =>
        record.agentId ∈ store.byCapability.members (lower (Text.strip capability))

def queryPopulation (query : Query) (swept : PresenceStore) : List PresenceRecord :=
  ((candidates query swept).filter (inPartition query)).mergeSort fun left right =>
    !decide (right.agentId < left.agentId)

/-! ### Filters -/

/-- The record is at least as trusted as is asked for. A tier that is not a number
cannot be compared. -/
def meetsTierMin (query : Query) (record : PresenceRecord) : Except Raised Bool :=
  match query.trustTierMin with
  | none => .ok true
  | some least =>
      match Json.get record.resultEntry "trust_tier" with
      | .null => .ok false
      | tier =>
          match tier.number? with
          | some value => .ok (!(Double.finite least).lt value)
          | none => .error .typeError

def meetsBehavioralMin (query : Query) (record : PresenceRecord) : Bool :=
  match query.behavioralTrustMin with
  | none => true
  | some least =>
      match (Json.get record.resultEntry "behavioral_trust_score").number? with
      | some value => !value.lt (Floats.value least)
      | none => false

def admits [CallDepth] (query : Query) (requester : RequesterContext)
    (record : PresenceRecord) : Except Raised Bool :=
  match meetsTierMin query record with
  | .error raised => .error raised
  | .ok false => .ok false
  | .ok true =>
      if meetsBehavioralMin query record then record.isVisible requester else .ok false

/-! ### Results -/

def requiredScopeFor (record : PresenceRecord) : Except Raised String :=
  match (Json.getOr record.resultEntry "supported_methods" (.array [])).iterate with
  | .error raised => .error raised
  | .ok methods =>
      (Fallible.map (fun method =>
        match method with
        | .string text => .ok (lower text ++ ":invoke")
        | _ => .error .attributeError) methods).map fun tokens =>
          String.intercalate " " (tokens.mergeSort (decide <| · ≤ ·))

/-- The entry of a result. -/
def resultEntry (query : Query) (rank : Nat) (scored : Scored) :
    Except Raised (List (String × Json)) :=
  let shown := Json.update scored.record.shapeEntry
    [("rank", .int rank),
      ("capability_match_score", .float (Floats.roundedText scored.capabilityMatch)),
      ("score", .float (Floats.roundedText scored.score))]
  if query.scopeNegotiate then
    (requiredScopeFor scored.record).map fun scope =>
      Json.update shown [("required_scope", .string scope)]
  else .ok shown

def limited (limit : Option Int) (scored : List Scored) : List Scored :=
  match limit with
  | some limit => if 0 ≤ limit then scored.take limit.toNat else scored
  | none => scored

def resultEntries (query : Query) (scored : List Scored) : Except Raised (List Json) :=
  (Fallible.map (fun ranked => resultEntry query (ranked.2 + 1) ranked.1)
    (limited query.limit scored).zipIdx).map fun entries => entries.map .object

def optionalText : Option String → Json
  | some text => .string text
  | none => .null

def optionalInt : Option Int → Json
  | some value => .int value
  | none => .null

def shownQuery (query : Query) : Json :=
  .object [("capability", optionalText query.capability),
    ("intent", optionalText query.intent),
    ("capability_domains", query.capabilityDomains), ("tier", optionalInt query.tier),
    ("owner_domain", optionalText query.ownerDomain),
    ("governance_zone", optionalText query.governanceZone),
    ("trust_tier_min", optionalInt query.trustTierMin),
    ("behavioral_trust_min",
      match query.behavioralTrustMin with
      | some text => .float text
      | none => .null),
    ("scope_negotiate", .bool query.scopeNegotiate), ("limit", optionalInt query.limit)]

def payload (registry : PresenceRegistry) (query : Query) (matched : Nat)
    (results : List Json) : List (String × Json) :=
  [("method", .string "DISCOVER"), ("target", .string "population"),
    ("query", shownQuery query), ("total_matches", .int matched),
    ("returned", .int results.length), ("results", .array results)] ++
  ((registry.signResults results).map fun signature =>
    ("ans_signature", signature)).toList

def resultsOf (query : Query) (filtered : List PresenceRecord) :
    Except Raised (List Scored × List Json) :=
  match Ranking.rankRecords query.capability query.intent filtered with
  | .error raised => .error raised
  | .ok scored => (resultEntries query scored).map fun results => (scored, results)

variable [BodyCodec] [MethodCatalog] [CallDepth]

def populated (registry : PresenceRegistry) (query : Query)
    (requester : RequesterContext) (swept : PresenceStore) : Except Raised Response :=
  match Fallible.filter (admits query requester) (queryPopulation query swept) with
  | .error raised => .error raised
  | .ok filtered =>
      (resultsOf query filtered).map fun shown =>
        ⟨200, "OK", [], .object (payload registry query shown.1.length shown.2)⟩

def hasDiscoveryScope (request : Request) : Bool :=
  (Text.words (Wire.header request.headers "Authority-Scope")).contains "discovery:query"

def handlePopulation (registry : PresenceRegistry) (now : ℚ) (request : Request)
    (store : PresenceStore) : Handled :=
  match mergedParams request with
  | .error raised => (.error raised, store)
  | .ok params =>
      if registry.requireDiscoveryScope && !hasDiscoveryScope request then
        refuse store (errorResponse 262 "Authorization Required" "authorization-required"
          "DISCOVER requires the discovery:query scope in Authority-Scope."
          [("type", .string "scope-required"),
            ("required_scope", .string "discovery:query")])
      else
        match readQuery params with
        | .error stop => stopped store stop
        | .ok query =>
            match requesterContext registry request with
            | .error raised => (.error raised, store)
            | .ok requester =>
                match store.sweep now with
                | .error raised => (.error raised, store)
                | .ok swept => (populated registry query requester swept, swept)

end Population

/-! ## Replication -/

section Replication

variable [Floats] [TextOf] [NumberText] [BodyCodec]

def accepts (registry : PresenceRegistry) (record : PresenceRecord) : Bool :=
  !registry.verifySignatures || registry.verifyRecord record

def handleReplicate (registry : PresenceRegistry) (moment : Gossip.Moment)
    (request : Request) (store : PresenceStore) : Handled :=
  match parsedBody request with
  | .error none => (.error .recursionError, store)
  | .error (some detail) =>
      refuse store (errorResponse 400 "Bad Request" "replicate-bad-body" detail [])
  | .ok body =>
      match Gossip.applyReplicate (accepts registry) moment body store with
      | (.ok reply, after) => answer after reply
      | (.error raised, after) => (.error raised, after)

end Replication

end Presence

end Agtp
