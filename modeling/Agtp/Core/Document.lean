import Agtp.Core.Identity
import Agtp.Foundation.Base64Url
import Agtp.Foundation.Platform

/-! # Agent documents on disk

The agent document with all its fields: how it is read from a file, how it is
written back, and what its registrar's signature is over. -/

namespace Agtp

/-- Why a file is not loaded. A `ValueError` skips the file; any other exception
ends the loading of the whole directory. -/
inductive LoadFailure where
  | skipped
  | aborted
deriving DecidableEq

/-- `float(value)` on integers and texts, where it does not raise, and
`0.0 <= value <= 1.0` on what it returns. -/
class FloatText where
  ofInt : Int → Option String
  ofText : String → Option String
  isUnit : String → Bool

/-- Ed25519 keys in PEM. `verifies` is `false` also for a text that is no such
key. -/
class ManifestKeys where
  verifies : (publicKey : String) → (signature : Bytes) → (message : Bytes) → Bool

/-! ## Conversions -/

namespace Json

def listOf : Json → Except LoadFailure (List Json)
  | array values => .ok values
  | string text => .ok (text.toList.map fun character => string (String.ofList [character]))
  | object members => .ok (members.map fun entry => string entry.1)
  | _ => .error .aborted

def intOf [NumberText] (value : Json) : Except LoadFailure Int :=
  match value.toInt?, value with
  | some number, _ => .ok number
  | none, string _ => .error .skipped
  | none, float text => .error (if text = "nan" then .skipped else .aborted)
  | none, _ => .error .aborted

def floatOf [FloatText] : Json → Except LoadFailure String
  | float text => .ok text
  | bool value => .ok (if value then "1.0" else "0.0")
  | int value =>
      match FloatText.ofInt value with
      | some text => .ok text
      | none => .error .aborted
  | string text =>
      match FloatText.ofText text with
      | some text => .ok text
      | none => .error .skipped
  | _ => .error .aborted

/-- A key of a dictionary, as `json.dumps` writes it. A list or a dictionary is
no key. -/
def keyText : Json → Except LoadFailure String
  | string text => .ok text
  | int value => .ok (toString value)
  | float text => .ok text
  | bool value => .ok (if value then "true" else "false")
  | null => .ok "null"
  | _ => .error .aborted

def pairOf (item : Json) : Except LoadFailure (String × Json) :=
  match item.listOf with
  | .error failure => .error failure
  | .ok [key, value] => key.keyText.map (·, value)
  | .ok _ => .error .skipped

def dictOf : Json → Except LoadFailure (List (String × Json))
  | object members => .ok members
  | array items => (items.mapM pairOf).map fun pairs =>
      pairs.foldl (fun members pair => Dict.setEntries pair.1 pair.2 members) []
  | string text => if text = "" then .ok [] else .error .skipped
  | _ => .error .aborted

end Json

/-! ## Documents -/

def validTrustTiers : List Int := [1, 2, 3]

def validVerificationPaths : List String :=
  ["dns-anchored", "log-anchored", "hybrid", "org-asserted", "self-signed"]

def validRoles : List String := ["agent", "merchant"]

def tier2TrustWarning : String := "verification-incomplete"

structure StoredRequires where
  methods : List Json
  scopes : List Json
  wildcards : Bool

structure DocumentFields where
  agtpVersion : String
  documentVersion : String
  agentId : String
  name : String
  role : String
  principal : String
  principalId : String
  description : String
  status : String
  skills : List Json
  requires : StoredRequires
  scopesAccepted : List Json
  trustTier : Int
  verificationPath : String
  trustWarning : String
  trustScore : Option String
  trustScoreComputedAt : String
  ownerId : String
  issuedAt : String
  issuer : String
  manifestIssuer : String
  manifestIssuerPublicKey : String
  manifestSignature : String
  policies : List (String × Json)

/-- What `__post_init__` checks, after it has set the warning of tier 2. -/
structure DocumentFields.Valid [FloatText] (fields : DocumentFields) : Prop where
  trustTier : fields.trustTier ∈ validTrustTiers
  verificationPath : fields.verificationPath ∈ validVerificationPaths
  role : fields.role ∈ validRoles
  trustWarning : fields.trustTier = 2 → fields.trustWarning ≠ ""
  trustScore : ∀ score ∈ fields.trustScore,
    FloatText.isUnit score = true ∧ fields.trustScoreComputedAt ≠ ""

/-- An agent document, as its constructor lets it be. -/
structure Document [FloatText] extends DocumentFields where
  valid : toDocumentFields.Valid

namespace Document

variable [FloatText]

def warned (fields : DocumentFields) : DocumentFields :=
  { fields with
    trustWarning :=
      if fields.trustTier = 2 ∧ fields.trustWarning = "" then tier2TrustWarning
      else fields.trustWarning }

instance (fields : DocumentFields) : Decidable fields.Valid :=
  decidable_of_iff (fields.trustTier ∈ validTrustTiers ∧
      fields.verificationPath ∈ validVerificationPaths ∧ fields.role ∈ validRoles ∧
      (fields.trustTier = 2 → fields.trustWarning ≠ "") ∧
      ∀ score ∈ fields.trustScore,
        FloatText.isUnit score = true ∧ fields.trustScoreComputedAt ≠ "")
    ⟨fun ⟨tier, path, role, warning, score⟩ => ⟨tier, path, role, warning, score⟩,
      fun valid => ⟨valid.trustTier, valid.verificationPath, valid.role,
        valid.trustWarning, valid.trustScore⟩⟩

def construct (fields : DocumentFields) : Except LoadFailure Document :=
  if valid : (warned fields).Valid then .ok ⟨warned fields, valid⟩
  else .error .skipped

theorem construct_valid (document : Document) :
    construct document.toDocumentFields = .ok document := by
  have same : warned document.toDocumentFields = document.toDocumentFields := by
    unfold warned
    rw [if_neg fun missing => document.valid.trustWarning missing.1 missing.2]
  have valid : (warned document.toDocumentFields).Valid := by
    rw [same]
    exact document.valid
  unfold construct
  rw [dif_pos valid]
  congr 1
  cases document
  simp only [same]

/-! ## Reading -/

section Reading

variable [TextOf] [NumberText]

def requiredKeys : List String :=
  ["agtp_version", "agent_id", "name", "principal", "principal_id", "description",
    "status", "skills", "requires", "scopes_accepted", "issued_at", "issuer"]

def legacyRequiredKeys : List String :=
  ["agtp_version", "agent_id", "name", "principal", "principal_id", "description",
    "status", "capabilities", "scopes_accepted", "issued_at", "issuer"]

def present (members : List (String × Json)) (name : String) : Bool :=
  (Json.member members name).isSome

def field (members : List (String × Json)) (name : String) : Json :=
  (Json.member members name).getD .null

def isV1 (members : List (String × Json)) : Bool :=
  present members "capabilities" &&
    !(present members "skills" && present members "requires")

/-- `_seed_skills_from_description`. Only a text, or what is false, can be
stripped. -/
def seedSkills (description : Json) : Except LoadFailure (List Json) :=
  match description with
  | .string text =>
      .ok (if Text.strip text = "" then [] else [.string (Text.strip text)])
  | other => if other.truthy then .error .aborted else .ok []

/-- The fields of `from_dict_v1_compat`. -/
def readV1 (members : List (String × Json)) : Except LoadFailure DocumentFields := do
  let methods ← (field members "capabilities").listOf
  let skills ← seedSkills (field members "description")
  let scopesAccepted ← (field members "scopes_accepted").listOf
  return {
    agtpVersion := (field members "agtp_version").str
    documentVersion := "v1-migrated"
    agentId := (field members "agent_id").str
    name := (field members "name").str
    role := "agent"
    principal := (field members "principal").str
    principalId := (field members "principal_id").str
    description := (field members "description").str
    status := (field members "status").str
    skills := skills
    requires := ⟨methods, [], false⟩
    scopesAccepted := scopesAccepted
    trustTier := 2
    verificationPath := "self-signed"
    trustWarning := ""
    trustScore := none
    trustScoreComputedAt := ""
    ownerId := ""
    issuedAt := (field members "issued_at").str
    issuer := (field members "issuer").str
    manifestIssuer := ""
    manifestIssuerPublicKey := ""
    manifestSignature := ""
    policies := [] }

def fromV1 (members : List (String × Json)) : Except LoadFailure Document :=
  if legacyRequiredKeys.all (present members) then readV1 members >>= construct
  else .error .skipped

def fieldOr (members : List (String × Json)) (name : String) (default : Json) : Json :=
  (Json.member members name).getD default

def readTrustScore (members : List (String × Json)) :
    Except LoadFailure (Option String) :=
  match Json.member members "trust_score" with
  | none | some .null => .ok none
  | some value => value.floatOf.map some

def readPolicies (members : List (String × Json)) :
    Except LoadFailure (List (String × Json)) :=
  let value := field members "policies"
  if value.truthy then value.dictOf else .ok []

/-- The fields of `from_dict`, where `block` is the value of `requires`. -/
def readV2 (members block : List (String × Json)) :
    Except LoadFailure DocumentFields := do
  let methods ← (fieldOr block "methods" (.array [])).listOf
  let scopes ← (fieldOr block "scopes" (.array [])).listOf
  let skills ← (field members "skills").listOf
  let scopesAccepted ← (field members "scopes_accepted").listOf
  let trustTier ← (fieldOr members "trust_tier" (.int 2)).intOf
  let trustScore ← readTrustScore members
  let policies ← readPolicies members
  return {
    agtpVersion := (field members "agtp_version").str
    documentVersion := (fieldOr members "document_version" (.string "v2")).str
    agentId := (field members "agent_id").str
    name := (field members "name").str
    role := Json.textOr members "role" "agent"
    principal := (field members "principal").str
    principalId := (field members "principal_id").str
    description := (field members "description").str
    status := (field members "status").str
    skills := skills
    requires := ⟨methods, scopes, (fieldOr block "wildcards" (.bool false)).truthy⟩
    scopesAccepted := scopesAccepted
    trustTier := trustTier
    verificationPath :=
      (fieldOr members "verification_path" (.string "self-signed")).str
    trustWarning := Json.textOr members "trust_warning" ""
    trustScore := trustScore
    trustScoreComputedAt := Json.textOr members "trust_score_computed_at" ""
    ownerId := Json.textOr members "owner_id" ""
    issuedAt := (field members "issued_at").str
    issuer := (field members "issuer").str
    manifestIssuer := Json.textOr members "manifest_issuer" ""
    manifestIssuerPublicKey := Json.textOr members "manifest_issuer_public_key" ""
    manifestSignature := Json.textOr members "manifest_signature" ""
    policies := policies }

def fromV2 (members : List (String × Json)) : Except LoadFailure Document :=
  if requiredKeys.all (present members) then
    match field members "requires" with
    | .object block => readV2 members block >>= construct
    | _ => .error .skipped
  else .error .skipped

def fromDict : Json → Except LoadFailure Document
  | .object members => if isV1 members then fromV1 members else fromV2 members
  | _ => .error .aborted

end Reading

/-! ## Writing -/

def shownVersion (document : Document) : String :=
  if document.documentVersion = "v1-migrated" then "v2" else document.documentVersion

def optional (text : String) : Option Json :=
  if text = "" then none else some (.string text)

/-- The fields in canonical order. Those without a value are left out. -/
def entries (document : Document) : List (String × Option Json) :=
  [("agtp_version", some (.string document.agtpVersion)),
    ("document_version", some (.string document.shownVersion)),
    ("agent_id", some (.string document.agentId)),
    ("name", some (.string document.name)),
    ("role", if document.role = "agent" then none else some (.string document.role)),
    ("principal", some (.string document.principal)),
    ("principal_id", some (.string document.principalId)),
    ("description", some (.string document.description)),
    ("status", some (.string document.status)),
    ("skills", some (.array document.skills)),
    ("requires", some (.object [
      ("methods", .array document.requires.methods),
      ("scopes", .array document.requires.scopes),
      ("wildcards", .bool document.requires.wildcards)])),
    ("scopes_accepted", some (.array document.scopesAccepted)),
    ("trust_tier", some (.int document.trustTier)),
    ("verification_path", some (.string document.verificationPath)),
    ("trust_warning", optional document.trustWarning),
    ("trust_score", document.trustScore.map .float),
    ("trust_score_computed_at", optional document.trustScoreComputedAt),
    ("owner_id", optional document.ownerId),
    ("issued_at", some (.string document.issuedAt)),
    ("issuer", some (.string document.issuer)),
    ("manifest_issuer", optional document.manifestIssuer),
    ("manifest_issuer_public_key", optional document.manifestIssuerPublicKey),
    ("manifest_signature", optional document.manifestSignature),
    ("policies", if document.policies = [] then none
      else some (.object document.policies))]

def shown (entries : List (String × Option Json)) : List (String × Json) :=
  entries.filterMap fun entry => entry.2.map (entry.1, ·)

def toDict (document : Document) : List (String × Json) :=
  shown document.entries

omit [FloatText] in
theorem member_shown_cons (key name : String) (value : Option Json)
    (rest : List (String × Option Json)) :
    Json.member (shown ((key, value) :: rest)) name =
      if key = name then value.or (Json.member (shown rest) name)
      else Json.member (shown rest) name := by
  cases value with
  | none => simp [shown]
  | some value =>
      by_cases same : key = name
      · simp [shown, same]
      · simp [shown, Json.member_cons, same]

omit [FloatText] in
theorem member_shown {entries : List (String × Option Json)}
    (nodup : (entries.map Prod.fst).Nodup) (name : String) :
    Json.member (shown entries) name =
      (entries.find? fun entry => entry.1 = name).bind Prod.snd := by
  induction entries with
  | nil => rfl
  | cons entry rest induction =>
      rcases entry with ⟨key, value⟩
      rcases List.nodup_cons.mp nodup with ⟨notMember, restNodup⟩
      rw [member_shown_cons, List.find?_cons, induction restNodup]
      by_cases same : key = name
      · have missing : rest.find? (fun entry => decide (entry.1 = name)) = none := by
          rw [List.find?_eq_none]
          intro entry member
          have different : entry.1 ≠ name := fun equal =>
            notMember (List.mem_map.mpr ⟨entry, member, equal.trans same.symm⟩)
          simpa using different
        simp [same, missing]
      · simp [same]

def settled (document : Document) : Document where
  toDocumentFields := { document.toDocumentFields with
    documentVersion := document.shownVersion }
  valid := ⟨document.valid.trustTier, document.valid.verificationPath,
    document.valid.role, document.valid.trustWarning, document.valid.trustScore⟩

/-! ## Round trip -/

section RoundTrip

variable [TextOf] [NumberText] (document : Document)

omit [NumberText] in
theorem textOr_toDict (name text : String)
    (held : Json.member document.toDict name = optional text) :
    Json.textOr document.toDict name "" = text := by
  unfold Json.textOr
  rw [held]
  unfold optional
  by_cases empty : text = ""
  · simp [empty]
  · simp [empty, Json.truthy, Json.str]

omit [TextOf] [NumberText] in
theorem member_toDict (name : String) :
    Json.member document.toDict name =
      (document.entries.find? fun entry => entry.1 = name).bind Prod.snd :=
  member_shown (by simp [entries]) name

omit [NumberText] in
theorem readRole_toDict :
    Json.textOr document.toDict "role" "agent" = document.role := by
  have nonempty : document.role ≠ "" := by
    intro empty
    have member := document.valid.role
    rw [empty] at member
    exact absurd member (by decide)
  unfold Json.textOr
  rw [member_toDict]
  by_cases default : document.role = "agent"
  · simp [entries, default]
  · simp [entries, default, Json.truthy, Json.str, nonempty]

omit [TextOf] [NumberText] in
theorem readTrustScore_toDict :
    readTrustScore document.toDict = .ok document.trustScore := by
  unfold readTrustScore
  rw [member_toDict]
  cases score : document.trustScore with
  | none => simp [entries, score]
  | some text => simp [entries, score, Json.floatOf, Except.map]

omit [NumberText] [TextOf] in
theorem readPolicies_toDict :
    readPolicies document.toDict = .ok document.policies := by
  unfold readPolicies field
  rw [member_toDict]
  by_cases empty : document.policies = []
  · simp [entries, empty, Json.truthy]
  · simp [entries, empty, Json.truthy, Json.dictOf]

theorem readV2_toDict : readV2 document.toDict [
      ("methods", .array document.requires.methods),
      ("scopes", .array document.requires.scopes),
      ("wildcards", .bool document.requires.wildcards)] =
    .ok document.settled.toDocumentFields := by
  have shown (name text : String)
      (held : (document.entries.find? fun entry => entry.1 = name).bind Prod.snd =
        optional text) : Json.textOr document.toDict name "" = text :=
    textOr_toDict document name text ((member_toDict document name).trans held)
  unfold readV2
  rw [readTrustScore_toDict, readPolicies_toDict, readRole_toDict,
    shown "trust_warning" document.trustWarning (by simp [entries]),
    shown "trust_score_computed_at" document.trustScoreComputedAt (by simp [entries]),
    shown "owner_id" document.ownerId (by simp [entries]),
    shown "manifest_issuer" document.manifestIssuer (by simp [entries]),
    shown "manifest_issuer_public_key" document.manifestIssuerPublicKey
      (by simp [entries]),
    shown "manifest_signature" document.manifestSignature (by simp [entries])]
  simp [field, fieldOr, member_toDict, entries, Json.member_cons, Json.listOf,
    Json.intOf, Json.toInt?, Json.str, Json.truthy, settled]
  rfl

theorem fromDict_toDict :
    fromDict (.object document.toDict) = .ok document.settled := by
  have current : isV1 document.toDict = false := by
    simp [isV1, present, member_toDict, entries]
  have complete : requiredKeys.all (present document.toDict) = true := by
    simp [requiredKeys, present, member_toDict, entries]
  have requires : field document.toDict "requires" = .object [
      ("methods", .array document.requires.methods),
      ("scopes", .array document.requires.scopes),
      ("wildcards", .bool document.requires.wildcards)] := by
    simp [field, member_toDict, entries]
  simp only [fromDict, current, Bool.false_eq_true, if_false, fromV2, complete,
    if_true, requires, readV2_toDict]
  exact construct_valid document.settled

end RoundTrip

/-! ## Registrar signatures -/

section Signing

def signedForm (document : Document) : Json :=
  .object (document.toDict.filter fun entry => entry.1 ≠ "manifest_signature")

variable [ManifestKeys]

def SignaturesBind : Prop :=
  ∀ publicKey signature first second,
    ManifestKeys.verifies publicKey signature first = true →
      ManifestKeys.verifies publicKey signature second = true → first = second

variable [JsonCodec]

def verifyManifestSignature (document : Document) : Bool :=
  document.manifestSignature ≠ "" && document.manifestIssuerPublicKey ≠ "" &&
    Text.isAscii document.manifestSignature &&
    match Base64Url.decode document.manifestSignature.toList with
    | some signature =>
        ManifestKeys.verifies document.manifestIssuerPublicKey signature
          (JsonCodec.canonical document.signedForm)
    | none => false

def admissible (document : Document) : Bool :=
  document.manifestSignature = "" || document.verifyManifestSignature

end Signing

theorem signedForm_settled (document : Document) :
    document.settled.signedForm = document.signedForm := by
  unfold signedForm toDict entries
  have version : document.settled.shownVersion = document.shownVersion := by
    unfold shownVersion settled
    by_cases migrated : document.documentVersion = "v1-migrated"
    · simp [shownVersion, migrated]
    · simp [shownVersion, migrated]
  rw [version]
  rfl

/-- A document with the signature and key of one that verifies verifies exactly
if the signature is over its form too. -/
theorem verifyManifestSignature_iff [ManifestKeys] [JsonCodec]
    (bind : SignaturesBind) {signed document : Document}
    (verified : signed.verifyManifestSignature = true)
    (signature : document.manifestSignature = signed.manifestSignature)
    (publicKey : document.manifestIssuerPublicKey = signed.manifestIssuerPublicKey) :
    document.verifyManifestSignature = true ↔
      JsonCodec.canonical document.signedForm =
        JsonCodec.canonical signed.signedForm := by
  unfold verifyManifestSignature at verified ⊢
  rw [signature, publicKey]
  rw [Bool.and_eq_true] at verified ⊢
  rcases verified with ⟨shape, verified⟩
  cases decoded : Base64Url.decode signed.manifestSignature.toList with
  | none =>
      rw [decoded] at verified
      cases verified
  | some bytes =>
      rw [decoded] at verified
      constructor
      · intro accepted
        exact bind _ _ _ _ accepted.2 verified
      · intro same
        refine ⟨shape, ?_⟩
        simpa only [same] using verified

/-! ## Geneses -/

end Document

/-- An Agent Genesis that was loaded: what it says of the agent whose id is its
digest. -/
structure Genesis where
  agentId : String
  ownerId : String
  trustTier : Int
  verificationPath : String
  issuerPublicKey : String
  trustTier_mem : trustTier ∈ validTrustTiers
  verificationPath_mem : verificationPath ∈ validVerificationPaths

namespace Document

variable [FloatText]

/-- `_derive_trust_from_genesis` and the owner's id, on the fields of a document
that was read from `source`. -/
def liftFields (genesis : Genesis) (source : List (String × Json))
    (fields : DocumentFields) : DocumentFields :=
  let trustTier :=
    if present source "trust_tier" then fields.trustTier else genesis.trustTier
  { fields with
    trustTier := trustTier
    verificationPath :=
      if present source "verification_path" then fields.verificationPath
      else genesis.verificationPath
    trustWarning :=
      if trustTier = 2 ∧ fields.trustWarning = "" then tier2TrustWarning
      else if trustTier ≠ 2 ∧ (field source "trust_warning").truthy = false then ""
      else fields.trustWarning
    ownerId := if fields.ownerId = "" then genesis.ownerId else fields.ownerId }

theorem valid_liftFields (genesis : Genesis) (source : List (String × Json))
    (document : Document) :
    (liftFields genesis source document.toDocumentFields).Valid where
  trustTier := by
    unfold liftFields
    by_cases declared : present source "trust_tier"
    · simpa [declared] using document.valid.trustTier
    · simpa [declared] using genesis.trustTier_mem
  verificationPath := by
    unfold liftFields
    by_cases declared : present source "verification_path"
    · simpa [declared] using document.valid.verificationPath
    · simpa [declared] using genesis.verificationPath_mem
  role := document.valid.role
  trustWarning := by
    intro second
    unfold liftFields at second ⊢
    simp only at second ⊢
    rw [second]
    by_cases missing : document.trustWarning = ""
    · simp [missing, tier2TrustWarning]
    · simp [missing]
  trustScore := document.valid.trustScore

def lift (genesis : Genesis) (source : List (String × Json))
    (document : Document) : Document where
  toDocumentFields := liftFields genesis source document.toDocumentFields
  valid := valid_liftFields genesis source document

/-! ## Status -/

def withStatus (document : Document) (status : String) : Document where
  toDocumentFields := { document.toDocumentFields with status := status }
  valid := ⟨document.valid.trustTier, document.valid.verificationPath,
    document.valid.role, document.valid.trustWarning, document.valid.trustScore⟩

@[simp] theorem withStatus_withStatus (document : Document) (first second : String) :
    (document.withStatus first).withStatus second = document.withStatus second := rfl

@[simp] theorem status_withStatus (document : Document) (status : String) :
    (document.withStatus status).status = status := rfl

end Document

end Agtp
