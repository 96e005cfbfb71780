import Agtp.Foundation.Base64Url
import Agtp.Foundation.Conversions

/-! # Presence records

What an agent publishes, how a record is written for a peer, and how one is read from
what a peer sends. -/

namespace Agtp

/-! ## Records -/

def defaultTtlSeconds : Int := 60

structure Visibility where
  presenceMode : String
  disclosureMode : String
  audienceScope : String
deriving DecidableEq

namespace Visibility

def standard : Visibility := ⟨"public", "capabilities", ""⟩

def toDict (visibility : Visibility) : List (String × Json) :=
  [("presence_mode", .string visibility.presenceMode),
    ("disclosure_mode", .string visibility.disclosureMode),
    ("audience_scope", .string visibility.audienceScope)]

def axis [TextOf] (members : List (String × Json)) (name default : String) : String :=
  ((Json.member members name).getD (.string default)).str

def fromDict [TextOf] : Json → Visibility
  | .object members =>
      ⟨axis members "presence_mode" "public",
        axis members "disclosure_mode" "capabilities",
        axis members "audience_scope" ""⟩
  | _ => standard

@[simp] theorem fromDict_toDict [TextOf] (visibility : Visibility) :
    fromDict (.object visibility.toDict) = visibility := by
  simp [fromDict, toDict, axis, Json.member, Json.str]

end Visibility

/-- A record. A float is held as it is printed, and an absent value as `null`. -/
structure PresenceRecord where
  agentId : String
  resultEntry : List (String × Json)
  scopes : List Json
  visibility : Visibility
  announcedAt : String
  announcedAtEpoch : String
  ttlSeconds : Int
  ownerDomain : Json
  attachment : Option String
  signature : Json

namespace PresenceRecord

def epoch [Floats] (record : PresenceRecord) : Double :=
  Floats.value record.announcedAtEpoch

/-! ## Expiry -/

section Expiry

variable [Floats]

def expiresAt (record : PresenceRecord) : Except Raised (Option Double) :=
  if record.ttlSeconds ≤ 0 then .ok none
  else
    match Floats.ofInt record.ttlSeconds with
    | some ttl => .ok (some (Floats.sum record.epoch (Floats.value ttl)))
    | none => .error .overflowError

def isExpired (record : PresenceRecord) (now : ℚ) : Except Raised Bool :=
  record.expiresAt.map fun expiry =>
    match expiry with
    | some expiry => expiry.le (.finite now)
    | none => false

def Live (record : PresenceRecord) (now : ℚ) : Prop :=
  record.isExpired now = .ok false

instance (record : PresenceRecord) (now : ℚ) : Decidable (record.Live now) :=
  inferInstanceAs (Decidable (record.isExpired now = .ok false))

theorem isExpired_mono {record : PresenceRecord} {now later : ℚ}
    (expired : record.isExpired now = .ok true) (after : now ≤ later) :
    record.isExpired later = .ok true := by
  unfold isExpired at expired ⊢
  cases expiry : record.expiresAt with
  | error raised =>
      rw [expiry] at expired
      cases expired
  | ok expiry' =>
      rw [expiry] at expired
      cases expiry' with
      | none => cases expired
      | some expiry' =>
          have reached : expiry'.le (.finite now) = true := Except.ok.inj expired
          have step : (Double.finite now).le (.finite later) = true :=
            decide_eq_true after
          exact congrArg Except.ok (Double.le_trans reached step)

theorem isExpired_raises {record : PresenceRecord} {now : ℚ} {raised : Raised}
    (raises : record.isExpired now = .error raised) (later : ℚ) :
    record.isExpired later = .error raised := by
  unfold isExpired at raises ⊢
  cases expiry : record.expiresAt with
  | error failure =>
      rw [expiry] at raises
      exact raises
  | ok expiry' =>
      rw [expiry] at raises
      cases raises

end Expiry

/-! ## What a peer is sent -/

def toGossipDict (record : PresenceRecord) : List (String × Json) :=
  [("agent_id", .string record.agentId),
    ("result_entry", .object record.resultEntry),
    ("scopes", .array record.scopes),
    ("visibility", .object record.visibility.toDict),
    ("owner_domain", record.ownerDomain),
    ("announced_at", .string record.announcedAt),
    ("announced_at_epoch", .float record.announcedAtEpoch),
    ("ttl_seconds", .int record.ttlSeconds),
    ("signature", record.signature)]

def fromGossipDict [Floats] [TextOf] [NumberText] (now : String) : Json → Except Raised PresenceRecord
  | .object data => do
      let agentId ← Json.item data "agent_id"
      let resultEntry ← (Json.getOr data "result_entry" (.object [])).toDict
      let scopes ← (Json.getOr data "scopes" (.array [])).iterate
      let epoch ← (Json.getOr data "announced_at_epoch" (.float "0.0")).toFloat
      let ttl ← (Json.getOr data "ttl_seconds" (.int defaultTtlSeconds)).toInt
      return {
        agentId := agentId.str
        resultEntry := resultEntry
        scopes := scopes
        visibility := Visibility.fromDict (Json.get data "visibility")
        announcedAt := (Json.getOr data "announced_at" (.string now)).str
        announcedAtEpoch := epoch
        ttlSeconds := ttl
        ownerDomain := Json.get data "owner_domain"
        attachment := none
        signature := Json.get data "signature" }
  | _ => .error .typeError

/-! ## The round trip -/

/-- What becomes of a record on its way to a peer: its relay hint is left out, and a
time to live of zero is read as the default. -/
def relayed (now : String) (record : PresenceRecord) : PresenceRecord :=
  { record with
    announcedAt := if record.announcedAt = "" then now else record.announcedAt
    announcedAtEpoch :=
      if record.announcedAtEpoch = "-0.0" then "0.0" else record.announcedAtEpoch
    ttlSeconds := if record.ttlSeconds = 0 then defaultTtlSeconds else record.ttlSeconds
    attachment := none }

theorem fromGossipDict_toGossipDict [Floats] [TextOf] [NumberText] (now : String) (record : PresenceRecord) :
    fromGossipDict now (.object record.toGossipDict) = .ok (record.relayed now) := by
  have resultEntry : (Json.getOr record.toGossipDict "result_entry" (.object [])).toDict =
      .ok record.resultEntry := by
    have held : Json.member record.toGossipDict "result_entry" =
        some (.object record.resultEntry) := rfl
    unfold Json.getOr
    rw [held]
    cases entry : record.resultEntry with
    | nil => rfl
    | cons first rest => rfl
  have scopes : (Json.getOr record.toGossipDict "scopes" (.array [])).iterate =
      .ok record.scopes := by
    have held : Json.member record.toGossipDict "scopes" =
        some (.array record.scopes) := rfl
    unfold Json.getOr
    rw [held]
    cases record.scopes with
    | nil => rfl
    | cons first rest => rfl
  have epoch : (Json.getOr record.toGossipDict "announced_at_epoch" (.float "0.0")).toFloat =
      .ok (record.relayed now).announcedAtEpoch := by
    have held : Json.member record.toGossipDict "announced_at_epoch" =
        some (.float record.announcedAtEpoch) := rfl
    unfold Json.getOr relayed
    rw [held]
    by_cases negative : record.announcedAtEpoch = "-0.0"
    · simp [Json.truthy, Json.toFloat, negative]
    · by_cases zero : record.announcedAtEpoch = "0.0"
      · simp [Json.truthy, Json.toFloat, zero]
      · simp [Json.truthy, Json.toFloat, negative, zero]
  have ttl : (Json.getOr record.toGossipDict "ttl_seconds" (.int defaultTtlSeconds)).toInt =
      .ok (record.relayed now).ttlSeconds := by
    have held : Json.member record.toGossipDict "ttl_seconds" =
        some (.int record.ttlSeconds) := rfl
    unfold Json.getOr relayed
    rw [held]
    by_cases zero : record.ttlSeconds = 0
    · simp [Json.truthy, Json.toInt, zero]
    · simp [Json.truthy, Json.toInt, zero]
  have announcedAt : (Json.getOr record.toGossipDict "announced_at" (.string now)).str =
      (record.relayed now).announcedAt := by
    have held : Json.member record.toGossipDict "announced_at" =
        some (.string record.announcedAt) := rfl
    unfold Json.getOr relayed
    rw [held]
    by_cases empty : record.announcedAt = ""
    · simp [Json.truthy, Json.str, empty]
    · simp [Json.truthy, Json.str, empty]
  have agentId : Json.item record.toGossipDict "agent_id" =
      .ok (.string record.agentId) := rfl
  have visibility : Json.get record.toGossipDict "visibility" =
      .object record.visibility.toDict := rfl
  have ownerDomain : Json.get record.toGossipDict "owner_domain" =
      record.ownerDomain := rfl
  have signature : Json.get record.toGossipDict "signature" = record.signature := rfl
  simp only [fromGossipDict, agentId, resultEntry, scopes, epoch, ttl, announcedAt,
    visibility, ownerDomain, signature, Visibility.fromDict_toDict]
  rfl

/-- Relaying does not change when a record counts as announced. -/
@[simp] theorem epoch_relayed [Floats] (now : String) (record : PresenceRecord) :
    (record.relayed now).epoch = record.epoch := by
  unfold epoch relayed
  by_cases negative : record.announcedAtEpoch = "-0.0"
  · simp [negative, Floats.value_zero, Floats.value_negativeZero]
  · simp [negative]

@[simp] theorem agentId_relayed (now : String) (record : PresenceRecord) :
    (record.relayed now).agentId = record.agentId := rfl

theorem Live.earlier [Floats] {record : PresenceRecord} {now later : ℚ}
    (live : record.Live later) (after : now ≤ later) : record.Live now := by
  unfold Live at live ⊢
  cases outcome : record.isExpired now with
  | error raised =>
      rw [isExpired_raises outcome later] at live
      cases live
  | ok expired =>
      cases expired with
      | false => rfl
      | true =>
          rw [isExpired_mono outcome after] at live
          cases live

def SameAs (record other : PresenceRecord) : Prop :=
  { record with attachment := none } = { other with attachment := none }

theorem SameAs.symm {record other : PresenceRecord} (same : record.SameAs other) :
    other.SameAs record :=
  Eq.symm same

theorem sameAs_relayed_iff (now : String) (record : PresenceRecord) :
    record.SameAs (record.relayed now) ↔
      record.ttlSeconds ≠ 0 ∧ (record.announcedAt = "" → now = "") ∧
        record.announcedAtEpoch ≠ "-0.0" := by
  rcases record with ⟨agentId, resultEntry, scopes, visibility, announcedAt, epoch, ttl,
    ownerDomain, attachment, signature⟩
  simp only [SameAs, relayed, PresenceRecord.mk.injEq, true_and, and_true]
  by_cases untimed : announcedAt = "" <;> by_cases negative : epoch = "-0.0" <;>
    by_cases ageless : ttl = 0 <;>
    simp [untimed, negative, ageless, defaultTtlSeconds, eq_comm]

end PresenceRecord

end Agtp

/-! ## Record signatures

What the signature of a record is over, and when it verifies. The public key travels with
the signature. -/

namespace Agtp

namespace PresenceRecord

def signedForm (record : PresenceRecord) : List (String × Json) :=
  [("agent_id", .string record.agentId), ("result_entry", .object record.resultEntry),
    ("visibility", .object record.visibility.toDict), ("scopes", .array record.scopes),
    ("announced_at", .string record.announcedAt)]

variable [JsonCodec]

def signingPayload (record : PresenceRecord) : Bytes :=
  JsonCodec.canonical (.object record.signedForm)

def unb64url (text : String) : Option Bytes :=
  Base64Url.decode text.toList

def recordPublicKey (signature : List (String × Json)) : Option Bytes :=
  match Json.get signature "public_key" with
  | .string text => (unb64url text).filter fun key => key.length = 32
  | _ => none

def verifyRecord [SignatureScheme Bytes] (record : PresenceRecord) : Bool :=
  match record.signature with
  | .object signature =>
      match Json.get signature "alg", Json.get signature "value" with
      | .string algorithm, .string text =>
          match recordPublicKey signature, unb64url text with
          | some key, some value =>
              algorithm = "EdDSA" &&
                SignatureScheme.verifies key value record.signingPayload
          | _, _ => false
      | _, _ => false
  | _ => false

theorem verifyRecord_congr [SignatureScheme Bytes] {left right : PresenceRecord}
    (signature : left.signature = right.signature)
    (payload : left.signingPayload = right.signingPayload) :
    left.verifyRecord = right.verifyRecord := by
  unfold verifyRecord
  rw [signature, payload]

end PresenceRecord

end Agtp
