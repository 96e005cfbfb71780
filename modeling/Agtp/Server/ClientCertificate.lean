import Agtp.Core.Wire
import Agtp.Foundation.Fallible

/-! # Client certificates

What the server extracts from the certificate of a client. -/

namespace Agtp

def isHexId (text : String) : Bool :=
  text.toList.length = 64 && text.toList.all ("0123456789abcdef".toList.contains ·)

/-- `hexdigest` of SHA-256 is such a text. -/
class HexIdDigest [Digest] : Prop where
  hex : ∀ data, isHexId (Digest.sha256 data) = true

theorem isHexId_ne {text : String} (hex : isHexId text = true) : text ≠ "" := by
  rintro rfl
  exact absurd hex (by decide)

theorem isAscii_of_isHexId {text : String} (hex : isHexId text = true) :
    Text.isAscii text = true := by
  simp only [isHexId, Bool.and_eq_true, List.all_eq_true] at hex
  simp only [Text.isAscii, List.all_eq_true, decide_eq_true_eq]
  intro character member
  have digit := List.contains_iff_mem.mp (hex.2 character member)
  have below : ∀ digit ∈ "0123456789abcdef".toList, digit.toNat < 128 :=
    Text.forall_mem_of_all (by decide)
  exact below character digit

theorem lower_of_isHexId [TextCase] {text : String} (hex : isHexId text = true) :
    lower text = text := by
  rw [TextCase.lower_ascii text (isAscii_of_isHexId hex), Text.asciiLower]
  simp only [isHexId, Bool.and_eq_true, List.all_eq_true] at hex
  have same : ∀ digit ∈ "0123456789abcdef".toList, digit.toLower = digit :=
    Text.forall_mem_of_all (by decide)
  have mapped : text.toList.map Char.toLower = text.toList := by
    conv => rhs; rw [← List.map_id text.toList]
    apply List.map_congr_left
    intro character member
    exact same character (List.contains_iff_mem.mp (hex.2 character member))
  rw [mapped, String.ofList_toList]

theorem eq_of_lower [TextCase] {left right : String} (leftHex : isHexId left = true)
    (rightHex : isHexId right = true) (same : lower left = lower right) : left = right := by
  rwa [lower_of_isHexId leftHex, lower_of_isHexId rightHex] at same

/-! ## Certificates -/

inductive CertExtension where
  | subjectAgentId
  | principalId
  | authorityScopeCommitment
  | governanceZone
  | trustTier
  | archetype
  | activationCertificateId
  | agtpCtlSct
  | presenceVisibility
deriving DecidableEq

inductive CertKey where
  | ed25519 (raw : Bytes)
  | other (kind : String)

/-- A certificate as the library has read it. -/
structure Certificate where
  publicKey : CertKey
  notBefore : Nat
  notAfter : Nat
  extensions : Dict CertExtension Bytes

/-- `x509.load_der_x509_certificate`, or the message of its error, and `isoformat` of the
times in a certificate. -/
class X509 where
  load : Bytes → Except String Certificate
  isoformat : Nat → String

structure CertVerificationError where
  message : String
  detail : String

namespace CertExtension

variable [TextOf]

def hexByte (byte : UInt8) : List Char :=
  Nat.toDigits 16 (byte.toNat / 16) ++ Nat.toDigits 16 (byte.toNat % 16)

def decodeAscii (raw : Bytes) : Option String :=
  if raw.all (·.toNat < 128) then
    some (String.ofList (raw.map fun byte => Char.ofNat byte.toNat))
  else none

omit [TextOf] in
theorem asciiBytes_of_decodeAscii {raw : Bytes} {text : String}
    (decoded : decodeAscii raw = some text) : asciiBytes text = raw := by
  unfold decodeAscii at decoded
  split at decoded
  · next ascii =>
      cases decoded
      rw [asciiBytes, String.toList_ofList, List.map_map]
      conv => rhs; rw [← List.map_id raw]
      apply List.map_congr_left
      intro byte member
      have bound := of_decide_eq_true (List.all_eq_true.mp ascii byte member)
      have valid : ∀ code < 128, (Char.ofNat code).toNat = code := by decide
      rw [Function.comp_apply, valid byte.toNat bound, UInt8.ofNat_toNat]
      rfl
  · cases decoded

def decodeUtf8 (raw : Bytes) : Option String :=
  String.fromUTF8? ⟨raw.toArray⟩

def parseHexId (name : String) : Option Bytes → Except String (Option String)
  | none => .ok none
  | some raw =>
      match decodeAscii raw with
      | none => .error s!"{name} is not ASCII"
      | some text =>
          if isHexId text then .ok (some text)
          else
            .error (s!"{name} extension value must be 64 lowercase hex chars; got " ++
              TextOf.quoted text)

theorem of_parseHexId {name : String} {value : Option Bytes} {read : Option String}
    (parsed : parseHexId name value = .ok read) :
    value = read.map asciiBytes ∧ ∀ text ∈ read, isHexId text = true := by
  unfold parseHexId at parsed
  split at parsed
  · cases parsed
    exact ⟨rfl, nofun⟩
  · split at parsed
    · cases parsed
    · next text decoded =>
        split at parsed
        · next hex =>
            cases parsed
            refine ⟨?_, fun _ found => by cases found; exact hex⟩
            rw [Option.map_some, asciiBytes_of_decodeAscii decoded]
        · cases parsed

def parseUtf8 (name : String) (maxBytes : Option Nat) :
    Option Bytes → Except String (Option String)
  | none => .ok none
  | some raw =>
      match maxBytes.filter (· < raw.length), decodeUtf8 raw with
      | some limit, _ =>
          .error s!"{name} extension value too long: {raw.length} > {limit}"
      | none, none => .error s!"{name} is not valid UTF-8"
      | none, some text => .ok (some text)

def parseScopeCommitment : Option Bytes → Except String (Option (List String))
  | none => .ok none
  | some raw =>
      match decodeUtf8 raw with
      | none => .error "authority-scope-commitment is not valid UTF-8"
      | some text =>
          let tokens := (Text.split ',' text).filter (· ≠ "")
          if tokens.Pairwise (· < ·) then .ok (some tokens)
          else
            .error ("authority-scope-commitment is not in canonical form (must be " ++
              "lexicographically sorted, deduplicated)")

def parseTrustTier : Option Bytes → Except String (Option Int)
  | none => .ok none
  | some [2, 1, tier] =>
      if tier.toNat ∈ [1, 2, 3] then .ok (some tier.toNat)
      else .error s!"trust-tier must be one of (1, 2, 3); got {tier.toNat}"
  | some raw =>
      .error ("trust-tier extension is not a single-byte DER INTEGER: got " ++
        String.ofList (raw.flatMap hexByte))

def archetypes : List String :=
  ["analyst", "assistant", "executor", "monitor", "orchestrator"]

def parseArchetype : Option Bytes → Except String (Option String)
  | none => .ok none
  | some raw =>
      match decodeUtf8 raw with
      | none => .error "archetype is not valid UTF-8"
      | some text =>
          if text ∈ archetypes then .ok (some text)
          else
            .error ("archetype must be one of ['analyst', 'assistant', 'executor', " ++
              s!"'monitor', 'orchestrator']; got {TextOf.quoted text}")

def parseExtensions (byOid : Dict CertExtension Bytes) : Except String CertExtensions := do
  let subjectAgentId ← parseHexId "subject-agent-id" (byOid.get? subjectAgentId)
  let principalId ← parseUtf8 "principal-id" (some 256) (byOid.get? principalId)
  let authorityScopes ← parseScopeCommitment (byOid.get? authorityScopeCommitment)
  let governanceZone ← parseUtf8 "governance-zone" none (byOid.get? governanceZone)
  let trustTier ← parseTrustTier (byOid.get? trustTier)
  let archetype ← parseArchetype (byOid.get? archetype)
  let activationCertificateId ← parseHexId "activation-certificate-id"
    (byOid.get? activationCertificateId)
  let _ ← parseUtf8 "presence-visibility" none (byOid.get? presenceVisibility)
  return ⟨subjectAgentId, principalId, authorityScopes, governanceZone, trustTier,
    archetype, activationCertificateId⟩

theorem subjectAgentId_of_parseExtensions {byOid : Dict CertExtension Bytes}
    {extensions : CertExtensions} (parsed : parseExtensions byOid = .ok extensions) :
    byOid.get? .subjectAgentId = extensions.subjectAgentId.map asciiBytes ∧
      ∀ text ∈ extensions.subjectAgentId, isHexId text = true := by
  unfold parseExtensions at parsed
  rcases Fallible.ok_of_bind parsed with ⟨agentId, named, parsed⟩
  rcases Fallible.ok_of_bind parsed with ⟨_, _, parsed⟩
  rcases Fallible.ok_of_bind parsed with ⟨_, _, parsed⟩
  rcases Fallible.ok_of_bind parsed with ⟨_, _, parsed⟩
  rcases Fallible.ok_of_bind parsed with ⟨_, _, parsed⟩
  rcases Fallible.ok_of_bind parsed with ⟨_, _, parsed⟩
  rcases Fallible.ok_of_bind parsed with ⟨_, _, parsed⟩
  rcases Fallible.ok_of_bind parsed with ⟨_, _, parsed⟩
  cases parsed
  exact of_parseHexId named

end CertExtension

/-! ## Verification -/

namespace CertVerifier

variable [TextOf] [Digest] [HexIdDigest] [X509]

def deriveAgentId (raw : Bytes) : String :=
  Digest.sha256 raw

def agentIdOf (extensions : CertExtensions) (raw : Bytes) : String :=
  (extensions.subjectAgentId.filter (· ≠ "")).getD (deriveAgentId raw)

omit [TextOf] [X509] in
theorem agentIdOf_ne (extensions : CertExtensions) (raw : Bytes) :
    agentIdOf extensions raw ≠ "" := by
  unfold agentIdOf
  cases named : extensions.subjectAgentId.filter (· ≠ "") with
  | none => exact isHexId_ne (HexIdDigest.hex raw)
  | some agentId =>
      have present := (Option.filter_eq_some_iff.mp named).2
      simpa using present

def verifyPeerCert (now : Nat) (der : Bytes) : Except CertVerificationError VerifiedCert :=
  if der = [] then .error ⟨"no client certificate presented", "not-presented"⟩
  else
    match X509.load der with
    | .error message =>
        .error ⟨s!"could not parse client cert as X.509 DER: {message}", "not-x509"⟩
    | .ok certificate =>
        match certificate.publicKey with
        | .other kind =>
            .error ⟨s!"client cert public key is not Ed25519 (got {kind})", "not-ed25519"⟩
        | .ed25519 raw =>
            if now < certificate.notBefore ∨ certificate.notAfter < now then
              .error ⟨"client cert outside validity window (" ++
                s!"{X509.isoformat certificate.notBefore} → " ++
                s!"{X509.isoformat certificate.notAfter})", "expired"⟩
            else
              match CertExtension.parseExtensions certificate.extensions with
              | .error message =>
                  .error ⟨s!"AGTP certificate extension malformed: {message}",
                    "malformed-extension"⟩
              | .ok extensions =>
                  .ok ⟨agentIdOf extensions raw, Digest.sha256 der, extensions,
                    agentIdOf_ne extensions raw, isHexId_ne (HexIdDigest.hex der)⟩

theorem of_verifyPeerCert {now : Nat} {der : Bytes} {verified : VerifiedCert}
    (accepted : verifyPeerCert now der = .ok verified) :
    ∃ certificate raw extensions, X509.load der = .ok certificate ∧
      certificate.publicKey = .ed25519 raw ∧
      CertExtension.parseExtensions certificate.extensions = .ok extensions ∧
      verified.agentId = agentIdOf extensions raw := by
  unfold verifyPeerCert at accepted
  split at accepted
  · cases accepted
  · split at accepted
    · cases accepted
    · next certificate loaded =>
        split at accepted
        · cases accepted
        · next raw key =>
            split at accepted
            · cases accepted
            · split at accepted
              · cases accepted
              · next extensions parsed =>
                  cases accepted
                  exact ⟨certificate, raw, extensions, loaded, key, parsed, rfl⟩

theorem agentId_of_accepted {now : Nat} {der : Bytes} {verified : VerifiedCert}
    {certificate : Certificate} {raw : Bytes} (loaded : X509.load der = .ok certificate)
    (key : certificate.publicKey = .ed25519 raw)
    (accepted : verifyPeerCert now der = .ok verified) :
    isHexId verified.agentId = true ∧
      (certificate.extensions.get? .subjectAgentId).getD (asciiBytes (deriveAgentId raw)) =
        asciiBytes verified.agentId := by
  rcases of_verifyPeerCert accepted with ⟨held, own, extensions, again, ownKey, parsed, named⟩
  rw [loaded] at again
  cases again
  rw [key] at ownKey
  cases ownKey
  rcases CertExtension.subjectAgentId_of_parseExtensions parsed with ⟨carried, hex⟩
  rw [named, carried, agentIdOf]
  cases present : extensions.subjectAgentId with
  | none => exact ⟨HexIdDigest.hex raw, rfl⟩
  | some agentId =>
      have isHex := hex agentId present
      have kept : (some agentId).filter (· ≠ "") = some agentId := by
        simp [isHexId_ne isHex]
      rw [kept]
      exact ⟨isHex, rfl⟩

end CertVerifier

end Agtp
