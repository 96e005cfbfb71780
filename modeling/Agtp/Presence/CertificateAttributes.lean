import Agtp.Presence.ExplicitOnly
import Agtp.Presence.Methods
import Agtp.Server.ClientCertificate

/-! # What a certificate says of whoever asks

The coordinator reads attributes of a caller from its certificate under names that the verified
certificate does not have. -/

namespace Agtp

namespace CertVerifier

variable [TextOf] [Digest] [HexIdDigest] [X509]

theorem parsed_of_accepted {now : Nat} {der : Bytes} {verified : VerifiedCert}
    {certificate : Certificate} (loaded : X509.load der = .ok certificate)
    (accepted : verifyPeerCert now der = .ok verified) :
    CertExtension.parseExtensions certificate.extensions = .ok verified.extensions := by
  rw [verifyPeerCert, loaded] at accepted
  split at accepted
  · cases accepted
  · dsimp only at accepted
    split at accepted
    · cases accepted
    · split at accepted
      · cases accepted
      · split at accepted
        · cases accepted
        · next extensions parsed => rw [parsed, ← Except.ok.inj accepted]

theorem attributes_of_accepted {now : Nat} {der : Bytes} {verified : VerifiedCert}
    {certificate : Certificate} (loaded : X509.load der = .ok certificate)
    (accepted : verifyPeerCert now der = .ok verified) :
    CertExtension.parseTrustTier (certificate.extensions.get? .trustTier) =
        .ok verified.extensions.trustTier ∧
      CertExtension.parseUtf8 "governance-zone" none
          (certificate.extensions.get? .governanceZone) =
        .ok verified.extensions.governanceZone := by
  rcases parsed_of_accepted loaded accepted with parsed
  rw [CertExtension.parseExtensions] at parsed
  rcases Fallible.ok_of_bind parsed with ⟨_, _, parsed⟩
  rcases Fallible.ok_of_bind parsed with ⟨_, _, parsed⟩
  rcases Fallible.ok_of_bind parsed with ⟨_, _, parsed⟩
  rcases Fallible.ok_of_bind parsed with ⟨zone, zoneParsed, parsed⟩
  rcases Fallible.ok_of_bind parsed with ⟨tier, tierParsed, parsed⟩
  rcases Fallible.ok_of_bind parsed with ⟨_, _, parsed⟩
  rcases Fallible.ok_of_bind parsed with ⟨_, _, parsed⟩
  rcases Fallible.ok_of_bind parsed with ⟨_, _, parsed⟩
  rw [← Except.ok.inj parsed]
  exact ⟨tierParsed, zoneParsed⟩

end CertVerifier

/-! ## What the presence mode asks -/

namespace PresenceRecord

section Modes

variable [TextCase]

def AdmitsTier (record : PresenceRecord) (tier : Option Int) : Prop :=
  record.visibility.presenceMode = "tier-scoped" ∧
    ∃ held ∈ tier, ∃ subject ∈ record.subjectTier, held ≤ subject

def AdmitsDomain (record : PresenceRecord) (domain : Option String) : Prop :=
  record.visibility.presenceMode = "owner-domain" ∧
    ∃ held ∈ domain, held ≠ "" ∧ record.subjectOwnerDomain = .string held

def AdmitsId (record : PresenceRecord) (agentId : String) : Prop :=
  record.visibility.presenceMode = "public" ∨
    record.visibility.presenceMode = "explicit-only" ∧
      agentId ∈ Audience.explicitAllow record.visibility.audienceScope

omit [TextCase] in
theorem inOwnerDomain_held_iff (domain : Json) (requester : RequesterContext) :
    inOwnerDomain domain requester = true ↔
      ∃ held ∈ requester.ownerDomain, held ≠ "" ∧ domain = .string held := by
  cases domain with
  | string text =>
      rw [inOwnerDomain, Bool.and_eq_true, decide_eq_true_eq, decide_eq_true_eq]
      constructor
      · intro ⟨filled, same⟩
        exact ⟨text, same, filled, rfl⟩
      · intro ⟨held, own, filled, same⟩
        cases same
        exact ⟨filled, own⟩
  | _ =>
      constructor
      · nofun
      · intro ⟨_, _, _, same⟩
        cases same

omit [TextCase] in
theorem tierAllows_iff (tier subject : Option Int) :
    (match tier, subject with
      | some tier, some subject => decide (tier ≤ subject)
      | _, _ => false) = true ↔ ∃ held ∈ tier, ∃ own ∈ subject, held ≤ own := by
  cases tier <;> cases subject <;> simp

theorem modeAllows_iff (record : PresenceRecord) (requester : RequesterContext) :
    record.modeAllows requester = true ↔
      record.AdmitsId requester.agentId ∨ record.AdmitsTier requester.tier ∨
        record.AdmitsDomain requester.ownerDomain := by
  rw [modeAllows, AdmitsId, AdmitsTier, AdmitsDomain]
  split
  · next mode => simp [mode]
  · split
    · next mode =>
        simp only [mode, true_and, false_and, or_false, false_or, String.reduceEq]
        exact tierAllows_iff requester.tier record.subjectTier
    · split
      · next mode =>
          simp only [mode, true_and, false_and, or_false, false_or, String.reduceEq]
          exact inOwnerDomain_held_iff record.subjectOwnerDomain requester
      · split
        · next mode => simp [mode]
        · next notPublic notTier notOwner notExplicit =>
            simp [notPublic, notTier, notOwner, notExplicit]

variable [NumberText]

theorem isVisible_true_iff [CallDepth] (record : PresenceRecord) (requester : RequesterContext) :
    record.isVisible requester = .ok true ↔
      record.modeAllows requester = true ∧
        Audience.nesting record.visibility.audienceScope ≤ CallDepth.frames ∧
          Audience.Grants record.visibility.audienceScope requester := by
  rw [isVisible]
  split
  · next admitted =>
      rw [Audience.allows_true_iff]
      exact ⟨fun allowed => ⟨admitted, allowed⟩, fun seen => seen.2⟩
  · next refused => exact ⟨fun same => (by cases same), fun seen => absurd seen.1 refused⟩

end Modes

end PresenceRecord

namespace Presence

variable [TextCase] [NumberText]

def credited (agentId : String) (tier : Int) (zone : String) : RequesterContext :=
  { RequesterContext.only agentId with
    tier := some tier
    ownerDomain := some zone }

def certified (verified : VerifiedCert) : RequesterContext :=
  { RequesterContext.only verified.agentId with
    tier := verified.extensions.trustTier
    ownerDomain := verified.extensions.governanceZone }

/-- Knowing the tier and the zone makes no difference for a record: where they are no matter
for the mode, the audience says the same, and where they are, it does not grant access. -/
structure Unaffected (record : PresenceRecord) (agentId : String) (tier : Int)
    (zone : String) : Prop where
  audience : record.AdmitsId agentId →
    (Audience.Grants record.visibility.audienceScope (.only agentId) ↔
      Audience.Grants record.visibility.audienceScope (credited agentId tier zone))
  tierScoped : record.AdmitsTier (some tier) →
    ¬Audience.Grants record.visibility.audienceScope (credited agentId tier zone)
  ownerScoped : record.AdmitsDomain (some zone) →
    ¬Audience.Grants record.visibility.audienceScope (credited agentId tier zone)

theorem only_sees_iff [CallDepth] (record : PresenceRecord) (agentId : String) :
    record.isVisible (.only agentId) = .ok true ↔
      record.AdmitsId agentId ∧
        Audience.nesting record.visibility.audienceScope ≤ CallDepth.frames ∧
          Audience.Grants record.visibility.audienceScope (.only agentId) := by
  rw [PresenceRecord.isVisible_true_iff, PresenceRecord.modeAllows_iff]
  have tierless : ¬record.AdmitsTier (RequesterContext.only agentId).tier :=
    fun ⟨_, _, held, _⟩ => nomatch held
  have homeless : ¬record.AdmitsDomain (RequesterContext.only agentId).ownerDomain :=
    fun ⟨_, _, held, _⟩ => nomatch held
  simp only [tierless, homeless, or_false]
  rfl

theorem sees_alike_iff [CallDepth] (record : PresenceRecord) (agentId : String) (tier : Int)
    (zone : String) :
    (record.isVisible (.only agentId) = .ok true ↔
        record.isVisible (credited agentId tier zone) = .ok true) ↔
      (Audience.nesting record.visibility.audienceScope ≤ CallDepth.frames →
        Unaffected record agentId tier zone) := by
  rw [only_sees_iff, PresenceRecord.isVisible_true_iff, PresenceRecord.modeAllows_iff]
  have idless {mode : String} (own : record.visibility.presenceMode = mode)
      (other : mode ≠ "public" ∧ mode ≠ "explicit-only") : ¬record.AdmitsId agentId := by
    intro admitted
    rcases admitted with isPublic | ⟨explicit, _⟩
    · exact other.1 (own.symm.trans isPublic)
    · exact other.2 (own.symm.trans explicit)
  constructor
  · intro alike fits
    refine ⟨?_, ?_, ?_⟩
    · intro admitted
      constructor
      · intro granted
        exact (alike.mp ⟨admitted, fits, granted⟩).2.2
      · intro granted
        exact (alike.mpr ⟨.inl admitted, fits, granted⟩).2.2
    · intro admitted granted
      exact idless admitted.1 (by decide) (alike.mpr ⟨.inr (.inl admitted), fits, granted⟩).1
    · intro admitted granted
      exact idless admitted.1 (by decide) (alike.mpr ⟨.inr (.inr admitted), fits, granted⟩).1
  · intro unaffected
    constructor
    · intro ⟨admitted, fits, granted⟩
      exact ⟨.inl admitted, fits, ((unaffected fits).audience admitted).mp granted⟩
    · intro ⟨admitted, fits, granted⟩
      rcases admitted with byId | byTier | byDomain
      · exact ⟨byId, fits, ((unaffected fits).audience byId).mpr granted⟩
      · exact absurd granted ((unaffected fits).tierScoped byTier)
      · exact absurd granted ((unaffected fits).ownerScoped byDomain)

/-! ## Callers that are not hosted -/

section Callers

variable [MethodCatalog] [TextOf]

omit [NumberText] in
theorem requesterContext_remote {registry : PresenceRegistry} {request : Request}
    (remote : registry.hosted (callerId request) = none) :
    requesterContext registry request = .ok (.only (callerId request)) := by
  rw [requesterContext]
  split
  · next unnamed => rw [unnamed]; rfl
  · rw [remote]
    rfl

/-- Every attribute that a requester is credited with is in its certificate. -/
structure OnlyCertified (request : Request) (requester : RequesterContext) : Prop where
  tier : ∀ tier ∈ requester.tier,
    (request.verifiedCert.bind fun cert => cert.extensions.trustTier) = some tier
  ownerDomain : ∀ domain ∈ requester.ownerDomain,
    (request.verifiedCert.bind fun cert => cert.extensions.governanceZone) = some domain
  capabilities : requester.capabilities = []
  industry : requester.industry = none
  region : requester.region = none
  governanceGroup : requester.governanceGroup = none

omit [TextCase] [NumberText] [MethodCatalog] [TextOf] in
theorem onlyCertified_only (request : Request) (agentId : String) :
    OnlyCertified request (.only agentId) :=
  ⟨nofun, nofun, rfl, rfl, rfl, rfl⟩

variable [CallDepth] [Digest] [HexIdDigest] [X509]

/-- The attributes of an accepted certificate count for a record exactly where they make no
difference; and nobody is credited with an attribute that the certificate does not have. -/
theorem certificate_counts_iff {now : Nat} {der : Bytes} {certificate : Certificate}
    {verified : VerifiedCert} (loaded : X509.load der = .ok certificate)
    (accepted : CertVerifier.verifyPeerCert now der = .ok verified) {tier : Int} {zone : String}
    (tiered : CertExtension.parseTrustTier (certificate.extensions.get? .trustTier) =
      .ok (some tier))
    (zoned : CertExtension.parseUtf8 "governance-zone" none
      (certificate.extensions.get? .governanceZone) = .ok (some zone))
    (registry : PresenceRegistry) {request : Request}
    (presented : request.verifiedCert = some verified)
    (remote : registry.hosted verified.agentId = none) (record : PresenceRecord) :
    ((∃ requester, requesterContext registry request = .ok requester ∧
        (record.isVisible requester = .ok true ↔
          record.isVisible (certified verified) = .ok true)) ∧
      ∀ other requester, registry.hosted (callerId other) = none →
        requesterContext registry other = .ok requester → OnlyCertified other requester) ↔
      (Audience.nesting record.visibility.audienceScope ≤ CallDepth.frames →
        Unaffected record verified.agentId tier zone) := by
  have caller : callerId request = verified.agentId := by rw [callerId, presented]
  have context : requesterContext registry request = .ok (.only verified.agentId) := by
    rw [← caller]
    exact requesterContext_remote (caller ▸ remote)
  have invented (other : Request) (requester : RequesterContext)
      (otherRemote : registry.hosted (callerId other) = none)
      (known : requesterContext registry other = .ok requester) :
      OnlyCertified other requester := by
    rw [requesterContext_remote otherRemote] at known
    rw [← Except.ok.inj known]
    exact onlyCertified_only other (callerId other)
  have attributes : certified verified = credited verified.agentId tier zone := by
    rcases CertVerifier.attributes_of_accepted loaded accepted with ⟨tierRead, zoneRead⟩
    rw [tiered] at tierRead
    rw [zoned] at zoneRead
    rw [certified, ← Except.ok.inj tierRead, ← Except.ok.inj zoneRead]
    rfl
  rw [← sees_alike_iff, attributes]
  constructor
  · intro ⟨⟨requester, known, alike⟩, _⟩
    rw [context] at known
    rwa [← Except.ok.inj known] at alike
  · intro alike
    exact ⟨⟨_, context, alike⟩, invented⟩

end Callers

end Presence

/-! ## Samples -/

namespace CertificateAttributeSamples

open Presence
open scoped Plain PlainServing

scoped instance : MethodCatalog where
  methods := []

scoped instance : CallDepth := ⟨100⟩

scoped instance : Digest where
  sha256 _ := String.ofList (List.replicate 64 'a')

scoped instance : HexIdDigest where
  hex _ := by
    change isHexId (String.ofList (List.replicate 64 'a')) = true
    decide

def card : Certificate where
  publicKey := .ed25519 [1]
  notBefore := 0
  notAfter := 10
  extensions := (Dict.empty.set .trustTier [2, 1, 1]).set .governanceZone (asciiBytes "acme")

scoped instance : X509 where
  load _ := .ok card
  isoformat _ := ""

def holder : VerifiedCert where
  agentId := Digest.sha256 [1]
  fingerprint := Digest.sha256 [7]
  extensions := { CertExtensions.absent with trustTier := some 1, governanceZone := some "acme" }
  agentId_ne := isHexId_ne (HexIdDigest.hex _)
  fingerprint_ne := isHexId_ne (HexIdDigest.hex _)

theorem holder_accepted : CertVerifier.verifyPeerCert 5 [7] = .ok holder := by rfl

def registry : PresenceRegistry where
  hosted := fun _ => none
  relayEndpoint := none
  requireDiscoveryScope := false
  verifySignatures := false
  envelopeOf := fun _ => none
  verifyRecord := fun _ => true
  boundToGenesis := fun _ => true
  signRecord := fun _ => none
  signResults := fun _ => none

def asking : Request :=
  { Request.toRoot "DISCOVER" [] with verifiedCert := some holder }

def tiered : PresenceRecord where
  agentId := "a1"
  resultEntry := [("agent_id", .string "a1"), ("trust_tier", .int 2)]
  scopes := []
  visibility := ⟨"tier-scoped", "capabilities", ""⟩
  announcedAt := "t"
  announcedAtEpoch := "90.0"
  ttlSeconds := 60
  ownerDomain := .null
  attachment := none
  signature := .null

/-- A requester of tier 1 by its certificate does not see the record, though a context of
tier 1 may. -/
theorem tier_not_counted : CertVerifier.verifyPeerCert 5 [7] = .ok holder ∧
    asking.verifiedCert = some holder ∧ registry.hosted holder.agentId = none ∧
      ¬∃ requester, requesterContext registry asking = .ok requester ∧
        (tiered.isVisible requester = .ok true ↔
          tiered.isVisible (certified holder) = .ok true) := by
  refine ⟨holder_accepted, rfl, rfl, ?_⟩
  intro ⟨requester, known, alike⟩
  rw [requesterContext_remote rfl] at known
  rw [← Except.ok.inj known] at alike
  have unseen : tiered.isVisible (.only (callerId asking)) = .ok false := by decide +kernel
  have allowed : tiered.isVisible (certified holder) = .ok true := by decide +kernel
  rw [allowed, unseen] at alike
  exact absurd (alike.mpr rfl) (by decide)

theorem holder_counts_iff :
    ((∃ requester, requesterContext registry asking = .ok requester ∧
        (tiered.isVisible requester = .ok true ↔
          tiered.isVisible (certified holder) = .ok true)) ∧
      ∀ other requester, registry.hosted (callerId other) = none →
        requesterContext registry other = .ok requester → OnlyCertified other requester) ↔
      (Audience.nesting tiered.visibility.audienceScope ≤ CallDepth.frames →
        Unaffected tiered holder.agentId 1 "acme") :=
  have loaded : X509.load [7] = .ok card := rfl
  certificate_counts_iff loaded holder_accepted rfl rfl registry rfl rfl tiered

end CertificateAttributeSamples

end Agtp
