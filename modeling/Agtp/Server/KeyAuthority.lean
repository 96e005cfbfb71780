import Agtp.Server.ClientCertificate
import Agtp.Server.Lifecycle

/-! # Authority by key

Two checks let a caller through for the key of its certificate: lifecycle methods may be
reserved to the issuer of an agent's Genesis, and reading the audit trail to operators. -/

namespace Agtp

/-- `[audit].read_acl` and `[audit].read_acl_operator_keys`. -/
structure ReadAcl where
  mode : String
  operatorKeys : List String

class PemKeys where
  load : String → Except String Bytes

/-- `issuer_key_fingerprint`. -/
instance [PemKeys] [Digest] : IssuerKeys where
  fingerprint pem := (PemKeys.load pem).map Digest.sha256

namespace ReadAcl

open Lifecycle (refusal)

variable [TextCase] [TextOf]

def agentCheck (callerId targetAgentId : String) : Option Refusal :=
  let caller := lower callerId
  if caller = "" then
    refusal 401 "Unauthorized" "inspect-acl-anonymous"
      ("[audit].read_acl=agent_only refuses anonymous INSPECT; present an Agent-ID and " ++
       "(recommended) a verified mTLS cert.") []
  else if caller ≠ lower targetAgentId then
    refusal 403 "Forbidden" "inspect-acl-cross-agent"
      (s!"agent {TextOf.quoted caller} cannot INSPECT records for " ++
       s!"{TextOf.quoted targetAgentId} ([audit].read_acl=agent_only)")
      [("caller_agent_id", .string caller), ("target_agent_id", .string targetAgentId)]
  else none

def operatorCheck (operatorKeys : List String) (request : Request) : Option Refusal :=
  match request.verifiedCert with
  | none =>
      refusal 401 "Unauthorized" "inspect-acl-no-cert"
        "[audit].read_acl=operator_only requires a verified mTLS client certificate." []
  | some cert =>
      let callerKey := lower cert.agentId
      if callerKey = "" ∨ callerKey ∉ operatorKeys.map lower then
        refusal 403 "Forbidden" "inspect-acl-operator-not-listed"
          ("cert public-key fingerprint is not on the operator ACL " ++
           "([audit].read_acl_operator_keys).") [("caller_key", .string callerKey)]
      else none

/-- `_inspect_acl_check`. -/
def check (acl : ReadAcl) (request : Request) (callerId targetAgentId : String) :
    Option Refusal :=
  if acl.mode = "" ∨ acl.mode = "public" then none
  else if acl.mode = "agent_only" then agentCheck callerId targetAgentId
  else if acl.mode = "operator_only" then operatorCheck acl.operatorKeys request
  else
    refusal 500 "Internal Server Error" "inspect-acl-unknown-mode"
      s!"unrecognized [audit].read_acl mode: {TextOf.quoted acl.mode}" []

end ReadAcl

/-! ## The law -/

section Law

variable [TextCase] [TextOf]

/-- Whoever presents the certificate passes either check only with the fingerprint of its
own key: it is that of the issuer's key, or it is listed as an operator's. -/
structure PassesByKey [PemKeys] [Digest] (fingerprint : String) (cert : VerifiedCert) :
    Prop where
  issuer : ∀ mode genesis call, mode = "genesis_issuer" →
    call.request.verifiedCert = some cert →
    Lifecycle.authCheck mode genesis call = none →
    ∃ known raw, genesis = some known ∧
      PemKeys.load known.issuerPublicKey = .ok raw ∧ fingerprint = Digest.sha256 raw
  operator : ∀ acl request callerId targetAgentId, acl.mode = "operator_only" →
    request.verifiedCert = some cert →
    ReadAcl.check acl request callerId targetAgentId = none →
    fingerprint ∈ acl.operatorKeys.map lower

def NamesOwnKey [Digest] (certificate : Certificate) (raw : Bytes) : Prop :=
  ∀ value, certificate.extensions.get? .subjectAgentId = some value →
    value = asciiBytes (Digest.sha256 raw)

variable [PemKeys] [Digest]

theorem issuerCheck_none {genesis : Option Genesis} {call : LifecycleCall}
    {cert : VerifiedCert} (presented : call.request.verifiedCert = some cert)
    (passed : Lifecycle.issuerCheck genesis call = none) :
    ∃ known raw, genesis = some known ∧ PemKeys.load known.issuerPublicKey = .ok raw ∧
      lower cert.agentId = lower (Digest.sha256 raw) := by
  unfold Lifecycle.issuerCheck at passed
  rw [presented] at passed
  cases genesis with
  | none => cases passed
  | some known =>
      cases loaded : PemKeys.load known.issuerPublicKey with
      | error message =>
          simp [IssuerKeys.fingerprint, loaded, Except.map, Lifecycle.refusal] at passed
      | ok raw =>
          simp only [IssuerKeys.fingerprint, loaded, Except.map] at passed
          split at passed
          · next same => exact ⟨known, raw, rfl, loaded, same⟩
          · cases passed

omit [TextOf] [PemKeys] [Digest] in
theorem operatorCheck_none_iff {operatorKeys : List String} {request : Request}
    {cert : VerifiedCert} (presented : request.verifiedCert = some cert) :
    ReadAcl.operatorCheck operatorKeys request = none ↔
      lower cert.agentId ≠ "" ∧ lower cert.agentId ∈ operatorKeys.map lower := by
  unfold ReadAcl.operatorCheck
  rw [presented]
  dsimp only
  rw [Lifecycle.refusal, ite_eq_right_iff]
  simp only [reduceCtorEq, imp_false, not_or, not_not]

omit [PemKeys] [Digest] in
theorem check_operatorOnly {acl : ReadAcl} (mode : acl.mode = "operator_only")
    (request : Request) (callerId targetAgentId : String) :
    acl.check request callerId targetAgentId =
      ReadAcl.operatorCheck acl.operatorKeys request := by
  simp [ReadAcl.check, mode]

def inspection (cert : VerifiedCert) : Request :=
  { Request.toRoot "INSPECT" [] with verifiedCert := some cert }

variable [HexIdDigest] [X509]

/-- The checks go by the key of a certificate exactly if it names no other identity. -/
theorem passesByKey_iff {now : Nat} {der : Bytes} {certificate : Certificate} {raw : Bytes}
    {verified : VerifiedCert} (loaded : X509.load der = .ok certificate)
    (key : certificate.publicKey = .ed25519 raw)
    (accepted : CertVerifier.verifyPeerCert now der = .ok verified) :
    PassesByKey (CertVerifier.deriveAgentId raw) verified ↔ NamesOwnKey certificate raw := by
  rcases CertVerifier.agentId_of_accepted loaded key accepted with ⟨hex, named⟩
  have ownHex : isHexId (CertVerifier.deriveAgentId raw) = true := HexIdDigest.hex raw
  have own_iff : NamesOwnKey certificate raw ↔
      verified.agentId = CertVerifier.deriveAgentId raw := by
    unfold NamesOwnKey
    cases carried : certificate.extensions.get? .subjectAgentId with
    | none =>
        rw [carried] at named
        exact ⟨fun _ => (asciiBytes_injective (isAscii_of_isHexId ownHex)
          (isAscii_of_isHexId hex) named).symm, fun _ => nofun⟩
    | some value =>
        rw [carried] at named
        cases named
        constructor
        · intro names
          exact asciiBytes_injective (isAscii_of_isHexId hex) (isAscii_of_isHexId ownHex)
            (names _ rfl)
        · intro same _ found
          cases found
          exact congrArg asciiBytes same
  rw [own_iff]
  constructor
  · intro passes
    -- an operator list that holds what the extension names
    have passed : ReadAcl.check ⟨"operator_only", [verified.agentId]⟩ (inspection verified)
        "" "" = none := by
      rw [check_operatorOnly rfl, operatorCheck_none_iff rfl, lower_of_isHexId hex]
      exact ⟨isHexId_ne hex, by simp [lower_of_isHexId hex]⟩
    have listed := passes.operator _ _ _ _ rfl rfl passed
    rw [List.map_singleton, List.mem_singleton, lower_of_isHexId hex] at listed
    exact listed.symm
  · intro own
    refine ⟨?_, ?_⟩
    · rintro mode genesis call rfl presented passed
      rcases issuerCheck_none presented passed with ⟨known, issuerRaw, held, read, same⟩
      refine ⟨known, issuerRaw, held, read, ?_⟩
      rw [← own]
      exact eq_of_lower hex (HexIdDigest.hex issuerRaw) same
    · intro acl request callerId targetAgentId mode presented passed
      rw [check_operatorOnly mode, operatorCheck_none_iff presented] at passed
      have listed := passed.2
      rwa [lower_of_isHexId hex, own] at listed

end Law

end Agtp

namespace Agtp.KeyAuthoritySamples

open scoped Plain PlainServing

scoped instance : Digest where
  sha256 data := String.ofList (List.replicate 64 (if data = [1] then 'a' else 'b'))

scoped instance : HexIdDigest where
  hex data := by
    change isHexId (String.ofList (List.replicate 64 (if data = [1] then 'a' else 'b'))) = true
    split <;> decide

scoped instance : PemKeys where
  load := fun _ => .ok [2]

/-- The certificates `[7]` and `[8]` of one key; the second names another identity. -/
scoped instance : X509 where
  load der := .ok {
    publicKey := .ed25519 [1]
    notBefore := 0
    notAfter := 10
    extensions :=
      if der = [7] then .empty
      else Dict.empty.set .subjectAgentId (asciiBytes (Digest.sha256 [2])) }
  isoformat := fun _ => ""

def transportCert : VerifiedCert :=
  ⟨Digest.sha256 [1], Digest.sha256 [7], .absent, isHexId_ne (HexIdDigest.hex _),
    isHexId_ne (HexIdDigest.hex _)⟩

def namingCert : VerifiedCert :=
  ⟨Digest.sha256 [2], Digest.sha256 [8],
    { CertExtensions.absent with subjectAgentId := some (Digest.sha256 [2]) },
    isHexId_ne (HexIdDigest.hex _), isHexId_ne (HexIdDigest.hex _)⟩

theorem transport_accepted : CertVerifier.verifyPeerCert 5 [7] = .ok transportCert := by rfl

theorem naming_accepted : CertVerifier.verifyPeerCert 5 [8] = .ok namingCert := by rfl

def issued : Genesis where
  agentId := "agent"
  ownerId := "owner"
  trustTier := 1
  verificationPath := "dns-anchored"
  issuerPublicKey := "pem"
  trustTier_mem := by decide
  verificationPath_mem := by decide

def revocation : LifecycleCall where
  agentId := "agent"
  event := .revocation
  request := { Request.toRoot "REVOKE" [] with verifiedCert := some namingCert }
  issuedAt := ""
  auditId := ""

/-- A certificate without the extension stands for its key. -/
theorem transport_passesByKey :
    PassesByKey (CertVerifier.deriveAgentId [1]) transportCert :=
  have loaded : X509.load [7] = .ok ⟨.ed25519 [1], 0, 10, .empty⟩ := rfl
  (passesByKey_iff loaded rfl transport_accepted).mpr fun _ carried => nomatch carried

/-- A certificate that names the issuer passes for the issuer, and for an operator. -/
theorem naming_passes_for_other_key :
    CertVerifier.verifyPeerCert 5 [8] = .ok namingCert ∧
      Lifecycle.authCheck "genesis_issuer" (some issued) revocation = none ∧
      ReadAcl.check ⟨"operator_only", [Digest.sha256 [2]]⟩ (inspection namingCert) "" "" =
        none ∧
      CertVerifier.deriveAgentId [1] ≠ Digest.sha256 [2] ∧
      ¬PassesByKey (CertVerifier.deriveAgentId [1]) namingCert := by
  have issuer : Lifecycle.authCheck "genesis_issuer" (some issued) revocation = none := by rfl
  have different : CertVerifier.deriveAgentId [1] ≠ Digest.sha256 [2] := by decide
  refine ⟨naming_accepted, issuer, by rfl, different, fun passes => ?_⟩
  rcases passes.issuer "genesis_issuer" (some issued) revocation rfl rfl issuer with
    ⟨known, raw, held, loaded, same⟩
  cases held
  cases loaded
  exact different same

end Agtp.KeyAuthoritySamples
