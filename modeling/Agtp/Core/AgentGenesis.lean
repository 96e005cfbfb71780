import Agtp.Core.Document

/-! # Agent Geneses

The Genesis that a registrar issues for an agent: how its file is parsed, what its
digest and its signature are over, and what a server takes from it. -/

namespace Agtp

def genesisVersion : String := "agtp-genesis/1"

def validArchetypes : List String :=
  ["assistant", "analyst", "executor", "orchestrator", "monitor"]

inductive GenesisFailure where
  | invalidJson
  | notAnObject
  | unsupportedVersion
  | missing (fields : List String)
  | trustTier
  | verificationPath
  | archetype
deriving DecidableEq

/-- A Genesis, as its parser lets it be. -/
structure AgentGenesis where
  name : String
  ownerId : String
  principalId : String
  agentPublicKey : String
  archetype : Option String
  governanceZone : Option Json
  trustTier : Int
  verificationPath : String
  issuedAt : String
  issuer : String
  issuerPublicKey : String
  signature : String
  trustTier_mem : trustTier ∈ validTrustTiers
  verificationPath_mem : verificationPath ∈ validVerificationPaths

namespace AgentGenesis

/-! ## Parsing -/

def requiredFields : List String :=
  ["name", "owner_id", "principal_id", "agent_public_key", "issued_at", "issuer",
    "issuer_public_key"]

def tierOf : Json → Option Int
  | .int value => if value ∈ validTrustTiers then some value else none
  | .bool value => if value then some 1 else none
  | .float text =>
      if text = "1.0" then some 1
      else if text = "2.0" then some 2
      else if text = "3.0" then some 3
      else none
  | _ => none

theorem mem_of_tierOf {value : Json} {tier : Int} (read : tierOf value = some tier) :
    tier ∈ validTrustTiers := by
  unfold tierOf at read
  split at read
  · split at read
    · next member =>
        cases read
        exact member
    · cases read
  · split at read
    · cases read
      decide
    · cases read
  · repeat' split at read
    all_goals first
      | cases read; decide
      | cases read
  · cases read

def textIn (texts : List String) : Json → Option String
  | .string text => if text ∈ texts then some text else none
  | _ => none

theorem mem_of_textIn {texts : List String} {value : Json} {text : String}
    (read : textIn texts value = some text) : text ∈ texts := by
  unfold textIn at read
  split at read
  · split at read
    · next member =>
        cases read
        exact member
    · cases read
  · cases read

def optionalMember (members : List (String × Json)) (name : String) : Option Json :=
  match Json.member members name with
  | some .null | none => none
  | some value => some value

def supportsVersion (members : List (String × Json)) : Bool :=
  match Json.member members "agtp_genesis_version" with
  | some (.string text) => text = "" || text = genesisVersion
  | some value => !value.truthy
  | none => true

def missingFields (members : List (String × Json)) : List String :=
  requiredFields.filter fun name => !(Document.field members name).truthy

variable [TextOf]

def parseArchetype (members : List (String × Json)) :
    Except GenesisFailure (Option String) :=
  match optionalMember members "archetype" with
  | none => .ok none
  | some value =>
      match textIn validArchetypes value with
      | some archetype => .ok (some archetype)
      | none => .error .archetype

def parse : Json → Except GenesisFailure AgentGenesis
  | .object members =>
      if supportsVersion members = false then .error .unsupportedVersion
      else if missingFields members ≠ [] then .error (.missing (missingFields members))
      else
        match tier : tierOf (Document.fieldOr members "trust_tier" (.int 2)) with
        | none => .error .trustTier
        | some trustTier =>
            match path : textIn validVerificationPaths
                (Document.fieldOr members "verification_path" (.string "self-signed")) with
            | none => .error .verificationPath
            | some verificationPath =>
                match parseArchetype members with
                | .error failure => .error failure
                | .ok archetype => .ok {
                    name := (Document.field members "name").str
                    ownerId := (Document.field members "owner_id").str
                    principalId := (Document.field members "principal_id").str
                    agentPublicKey := (Document.field members "agent_public_key").str
                    archetype := archetype
                    governanceZone := optionalMember members "governance_zone"
                    trustTier := trustTier
                    verificationPath := verificationPath
                    issuedAt := (Document.field members "issued_at").str
                    issuer := (Document.field members "issuer").str
                    issuerPublicKey := (Document.field members "issuer_public_key").str
                    signature := Json.textOr members "signature" ""
                    trustTier_mem := mem_of_tierOf tier
                    verificationPath_mem := mem_of_textIn path }
  | _ => .error .notAnObject

def load : Except DecodeFailure Json → Except GenesisFailure AgentGenesis
  | .ok value => parse value
  | .error _ => .error .invalidJson

/-! ## Digest and signature -/

omit [TextOf]

/-- The fields in canonical order, without the signature. -/
def unsigned (genesis : AgentGenesis) : Json :=
  .object (Document.shown [
    ("agtp_genesis_version", some (.string genesisVersion)),
    ("name", some (.string genesis.name)),
    ("owner_id", some (.string genesis.ownerId)),
    ("principal_id", some (.string genesis.principalId)),
    ("agent_public_key", some (.string genesis.agentPublicKey)),
    ("archetype", genesis.archetype.map .string),
    ("governance_zone", genesis.governanceZone),
    ("trust_tier", some (.int genesis.trustTier)),
    ("verification_path", some (.string genesis.verificationPath)),
    ("issued_at", some (.string genesis.issuedAt)),
    ("issuer", some (.string genesis.issuer)),
    ("issuer_public_key", some (.string genesis.issuerPublicKey))])

variable [JsonCodec]

def canonicalAgentId [Digest] (genesis : AgentGenesis) : String :=
  Digest.sha256 (JsonCodec.canonical genesis.unsigned)

def verify [ManifestKeys] (genesis : AgentGenesis) : Bool :=
  genesis.signature ≠ "" && Text.isAscii genesis.signature &&
    match Base64Url.decode genesis.signature.toList with
    | some signature =>
        ManifestKeys.verifies genesis.issuerPublicKey signature
          (JsonCodec.canonical genesis.unsigned)
    | none => false

def loaded [Digest] (genesis : AgentGenesis) : Genesis where
  agentId := genesis.canonicalAgentId
  ownerId := genesis.ownerId
  trustTier := genesis.trustTier
  verificationPath := genesis.verificationPath
  issuerPublicKey := genesis.issuerPublicKey
  trustTier_mem := genesis.trustTier_mem
  verificationPath_mem := genesis.verificationPath_mem

/-- A Genesis is its agent's by its digest. -/
@[simp] theorem agentId_loaded [Digest] (genesis : AgentGenesis) :
    genesis.loaded.agentId = genesis.canonicalAgentId := rfl

end AgentGenesis

end Agtp
