import Agtp.Foundation.Base64Url
import Agtp.Foundation.Conversions
import Agtp.Foundation.Fallible
import Agtp.Foundation.StandardJson
import Agtp.Server.OAuth

/-! # Bearer tokens

What the JWT validator accepts, and what the OAuth gate makes of it: whoever is let through with
a principal has shown a token of the configured key. -/

namespace Agtp.OAuth

/-! ## Tokens -/

inductive PublicKey where
  | ed25519 (key : Bytes)
  | rsa (key : Bytes)
  | other (typeName : String)

class RsaScheme where
  verifies : Bytes → (hash : String) → (signature : Bytes) → (message : Bytes) → Bool

class SegmentText where
  failure : String → String

structure JwtValidator where
  publicKey : PublicKey
  allowedAlgs : List String
  expectedIssuer : String
  expectedAudience : List String
  leewaySeconds : Int

/-- An `OAuthValidationError`, or any other exception by its class. -/
inductive TokenFailure where
  | invalid (message reason : String)
  | raised (exception : String)

section Validating

variable [Floats] [TextCase] [TextOf] [NumberText] [JsonCodec] [SignatureScheme Bytes] [RsaScheme]
  [SegmentText]

abbrev Validated (Value : Type) := Except TokenFailure Value

def demand (passed : Bool) (message reason : String) : Validated Unit :=
  if passed then .ok () else .error (.invalid message reason)

def decodeSegment (segment : String) : Option Bytes := Base64Url.decode segment.toList

def decodeJwtPayload (segment : String) : Validated Json :=
  let malformed := TokenFailure.invalid
    s!"JWT segments did not parse: {SegmentText.failure segment}" "oauth-malformed"
  match decodeSegment segment with
  | none => .error malformed
  | some raw =>
      match JsonCodec.loads raw with
      | .ok value => .ok value
      | .error .valueError => .error malformed
      | .error .other => .error (.raised "RecursionError")

def membersOf : Json → Validated (List (String × Json))
  | .object members => .ok members
  | _ => .error (.raised "AttributeError")

def rsaHash (alg : String) : Option String :=
  if alg = "RS256" then some "SHA256"
  else if alg = "RS384" then some "SHA384"
  else if alg = "RS512" then some "SHA512"
  else none

def checkSignature (publicKey : PublicKey) (alg : String) (signature message : Bytes) :
    Validated Unit :=
  let verified (passed : Bool) : Validated Unit :=
    demand passed "JWT signature did not verify" "oauth-invalid-signature"
  match publicKey with
  | .ed25519 key =>
      if alg ≠ "EdDSA" then .error (.invalid "Ed25519 key requires alg=EdDSA" "oauth-malformed")
      else verified (SignatureScheme.verifies key signature message)
  | .rsa key =>
      match rsaHash alg with
      | none => .error (.invalid s!"RSA key does not accept alg {TextOf.quoted alg}"
          "oauth-malformed")
      | some hash => verified (RsaScheme.verifies key hash signature message)
  | .other typeName =>
      .error (.invalid s!"unsupported public-key type {typeName}" "oauth-invalid")

def issuerFits (validator : JwtValidator) (payload : List (String × Json)) : Bool :=
  validator.expectedIssuer = "" ||
    match Json.get payload "iss" with
    | .string issuer => issuer = validator.expectedIssuer
    | _ => false

def audienceValues (claim : Json) : Validated (List Json) :=
  match claim with
  | .string text => .ok [.string text]
  | claim =>
      if claim.truthy then
        match claim.iterate with
        | .ok values => .ok values
        | .error _ => .error (.raised "TypeError")
      else .ok []

def isExpected (validator : JwtValidator) : Json → Bool
  | .string text => text ∈ validator.expectedAudience
  | _ => false

def checkAudience (validator : JwtValidator) (payload : List (String × Json)) :
    Validated Unit :=
  if validator.expectedAudience = [] then .ok ()
  else do
    let claim := Json.get payload "aud"
    let values ← audienceValues claim
    demand (values.any (isExpected validator))
      (s!"aud claim {claim.repr} does not match expected audiences " ++
        (Status.texts validator.expectedAudience).repr) "oauth-invalid"

def checkTime (payload : List (String × Json)) (name : String) (passes : Int → Bool)
    (message reason : String) : Validated Unit :=
  match Json.get payload name with
  | .null => .ok ()
  | claim =>
      match claim.toInt with
      | .ok time => demand (passes time) message reason
      | .error .overflowError => .error (.raised "OverflowError")
      | .error _ => .error (.invalid s!"{name} claim is not an integer: {claim.repr}"
          "oauth-malformed")

def notExpired (validator : JwtValidator) (now exp : Int) : Bool :=
  !decide (exp + validator.leewaySeconds < now)

def alreadyValid (validator : JwtValidator) (now nbf : Int) : Bool :=
  !decide (nbf - validator.leewaySeconds > now)

def validate (validator : JwtValidator) (now : Int) (token : String) :
    Validated (List (String × Json)) :=
  match Text.split '.' token with
  | [headerPart, payloadPart, signaturePart] => do
      let header ← decodeJwtPayload headerPart
      let payload ← decodeJwtPayload payloadPart
      let headers ← membersOf header
      let alg := Json.textOr headers "alg" ""
      demand (alg ∈ validator.allowedAlgs)
        s!"alg {TextOf.quoted alg} is not in the configured allowed_algs" "oauth-malformed"
      match decodeSegment signaturePart with
      | none => .error (.invalid
          ("signature segment is not valid base64url: " ++ SegmentText.failure signaturePart)
          "oauth-malformed")
      | some signature => do
          checkSignature validator.publicKey alg signature
            (asciiBytes (headerPart ++ "." ++ payloadPart))
          let claims ← membersOf payload
          demand (issuerFits validator claims)
            ("iss claim " ++ (Json.get claims "iss").repr ++ " does not match expected " ++
              TextOf.quoted validator.expectedIssuer) "oauth-unknown-issuer"
          checkAudience validator claims
          checkTime claims "exp" (notExpired validator now) "JWT exp is in the past"
            "oauth-expired"
          checkTime claims "nbf" (alreadyValid validator now) "JWT nbf is in the future"
            "oauth-not-yet-valid"
          return claims
  | _ => .error (.invalid "JWT must be three dot-separated segments" "oauth-malformed")

def reasonOf : TokenFailure → String × String
  | .invalid message reason => (reason, message)
  | .raised exception => ("oauth-invalid", s!"token validation raised {exception}")

def jwtValidator (validator : JwtValidator) (now : Int) (token : String) :
    Except (String × String) Json :=
  match validate validator now token with
  | .ok claims => .ok (.object claims)
  | .error failure => .error (reasonOf failure)

/-! ## What a token has to be -/

inductive Signs : PublicKey → (alg : String) → (signature message : Bytes) → Prop
  | ed25519 {key signature message : Bytes}
      (verified : SignatureScheme.verifies key signature message = true) :
      Signs (.ed25519 key) "EdDSA" signature message
  | rsa {key signature message : Bytes} {alg hash : String} (fits : rsaHash alg = some hash)
      (verified : RsaScheme.verifies key hash signature message = true) :
      Signs (.rsa key) alg signature message

inductive Names (expected : List String) : Json → Prop
  | text {audience : String} (member : audience ∈ expected) : Names expected (.string audience)
  | listed {audience : String} {values : List Json} (member : audience ∈ expected)
      (listed : .string audience ∈ values) : Names expected (.array values)
  | named {audience : String} {value : Json} {members : List (String × Json)}
      (member : audience ∈ expected) (named : (audience, value) ∈ members) :
      Names expected (.object members)

structure Verified (validator : JwtValidator) (now : Int) (token : String)
    (claims : List (String × Json)) : Prop where
  signed : ∃ headerPart payloadPart signaturePart, ∃ headers : List (String × Json),
    ∃ signature alg,
      Text.split '.' token = [headerPart, payloadPart, signaturePart] ∧
      decodeJwtPayload headerPart = .ok (.object headers) ∧
      decodeJwtPayload payloadPart = .ok (.object claims) ∧
      decodeSegment signaturePart = some signature ∧
      Json.textOr headers "alg" "" = alg ∧ alg ∈ validator.allowedAlgs ∧
      Signs validator.publicKey alg signature (asciiBytes (headerPart ++ "." ++ payloadPart))
  issuer : validator.expectedIssuer ≠ "" →
    Json.get claims "iss" = .string validator.expectedIssuer
  audience : validator.expectedAudience ≠ [] →
    Names validator.expectedAudience (Json.get claims "aud")
  expiry : Json.get claims "exp" ≠ .null →
    ∃ exp, (Json.get claims "exp").toInt = .ok exp ∧ now ≤ exp + validator.leewaySeconds
  start : Json.get claims "nbf" ≠ .null →
    ∃ nbf, (Json.get claims "nbf").toInt = .ok nbf ∧ nbf - validator.leewaySeconds ≤ now

/-! ## What the validator accepts -/

omit [Floats] [TextCase] [TextOf] [NumberText] [JsonCodec] [SignatureScheme Bytes] [RsaScheme]
  [SegmentText] in
theorem of_demand {passed : Bool} {message reason : String}
    (accepted : demand passed message reason = .ok ()) : passed = true := by
  unfold demand at accepted
  split at accepted
  · assumption
  · cases accepted

omit [Floats] [TextCase] [TextOf] [NumberText] [JsonCodec] [SignatureScheme Bytes] [RsaScheme]
  [SegmentText] in
theorem of_membersOf {value : Json} {members : List (String × Json)}
    (accepted : membersOf value = .ok members) : value = .object members := by
  unfold membersOf at accepted
  split at accepted
  · cases accepted
    rfl
  · cases accepted

omit [Floats] [TextCase] [NumberText] [JsonCodec] [SegmentText] in
theorem signs_of_checkSignature {publicKey : PublicKey} {alg : String}
    {signature message : Bytes}
    (accepted : checkSignature publicKey alg signature message = .ok ()) :
    Signs publicKey alg signature message := by
  unfold checkSignature at accepted
  dsimp only at accepted
  split at accepted
  · split at accepted
    · cases accepted
    · next same =>
        rw [not_not.mp same]
        exact .ed25519 (of_demand accepted)
  · split at accepted
    · cases accepted
    · next fits => exact .rsa fits (of_demand accepted)
  · cases accepted

omit [Floats] [TextCase] [TextOf] [NumberText] [JsonCodec] [SignatureScheme Bytes] [RsaScheme]
  [SegmentText] in
theorem iss_of_issuerFits {validator : JwtValidator} {claims : List (String × Json)}
    (fits : issuerFits validator claims = true) (expected : validator.expectedIssuer ≠ "") :
    Json.get claims "iss" = .string validator.expectedIssuer := by
  rw [issuerFits, decide_eq_false expected, Bool.false_or] at fits
  split at fits
  · next issuer held => rw [held, of_decide_eq_true fits]
  · cases fits

omit [Floats] [TextCase] [TextOf] [NumberText] [JsonCodec] [SignatureScheme Bytes] [RsaScheme]
  [SegmentText] in
theorem expected_of_isExpected {validator : JwtValidator} {value : Json}
    (isOne : isExpected validator value = true) :
    ∃ audience ∈ validator.expectedAudience, value = .string audience := by
  unfold isExpected at isOne
  split at isOne
  · next text => exact ⟨text, of_decide_eq_true isOne, rfl⟩
  · cases isOne

omit [Floats] [TextCase] [TextOf] [NumberText] [JsonCodec] [SignatureScheme Bytes] [RsaScheme]
  [SegmentText] in
theorem names_of_iterate {expected : List String} {audience : String} {claim : Json}
    {values : List Json} (isExpected : audience ∈ expected) (listed : claim.iterate = .ok values)
    (member : .string audience ∈ values) (notText : ∀ text, claim ≠ .string text) :
    Names expected claim := by
  cases claim with
  | array items =>
      cases listed
      exact .listed isExpected member
  | object members =>
      cases listed
      rcases List.mem_map.mp member with ⟨entry, held, same⟩
      cases same
      exact .named isExpected held
  | string text => exact absurd rfl (notText text)
  | null | bool | int | float => cases listed

omit [Floats] [TextCase] [TextOf] [NumberText] [JsonCodec] [SignatureScheme Bytes] [RsaScheme]
  [SegmentText] in
theorem names_of_audienceValues {validator : JwtValidator} {claim value : Json}
    {values : List Json} (listed : audienceValues claim = .ok values) (member : value ∈ values)
    (isOne : isExpected validator value = true) : Names validator.expectedAudience claim := by
  rcases expected_of_isExpected isOne with ⟨audience, expected, isText⟩
  rw [isText] at member
  unfold audienceValues at listed
  split at listed
  · cases listed
    cases List.mem_singleton.mp member
    exact .text expected
  · next notText =>
      split at listed
      · split at listed
        · next read =>
            cases listed
            exact names_of_iterate expected read member notText
        · cases listed
      · cases listed
        cases member

omit [Floats] [TextCase] [NumberText] [JsonCodec] [SignatureScheme Bytes] [RsaScheme]
  [SegmentText] in
theorem names_of_checkAudience {validator : JwtValidator} {claims : List (String × Json)}
    (accepted : checkAudience validator claims = .ok ())
    (expected : validator.expectedAudience ≠ []) :
    Names validator.expectedAudience (Json.get claims "aud") := by
  rw [checkAudience, if_neg expected] at accepted
  rcases Fallible.ok_of_bind accepted with ⟨values, listed, demanded⟩
  rcases List.any_eq_true.mp (of_demand demanded) with ⟨value, member, isOne⟩
  exact names_of_audienceValues listed member isOne

omit [TextCase] [JsonCodec] [SignatureScheme Bytes] [RsaScheme] [SegmentText] in
theorem time_of_checkTime {claims : List (String × Json)} {name message reason : String}
    {passes : Int → Bool} (accepted : checkTime claims name passes message reason = .ok ())
    (present : Json.get claims name ≠ .null) :
    ∃ time, (Json.get claims name).toInt = .ok time ∧ passes time = true := by
  unfold checkTime at accepted
  split at accepted
  · contradiction
  · split at accepted
    · next time read => exact ⟨time, read, of_demand accepted⟩
    · cases accepted
    · cases accepted

omit [TextCase] in
theorem verified_of_validate {validator : JwtValidator} {now : Int} {token : String}
    {claims : List (String × Json)} (accepted : validate validator now token = .ok claims) :
    Verified validator now token claims := by
  unfold validate at accepted
  split at accepted
  · next headerPart payloadPart signaturePart parts =>
      rcases Fallible.ok_of_bind accepted with ⟨header, readHeader, afterHeader⟩
      rcases Fallible.ok_of_bind afterHeader with ⟨payload, readPayload, afterPayload⟩
      rcases Fallible.ok_of_bind afterPayload with ⟨headers, isHeader, afterMembers⟩
      rcases Fallible.ok_of_bind afterMembers with ⟨_, allowed, afterAlg⟩
      split at afterAlg
      · cases afterAlg
      · next signature decoded =>
          rcases Fallible.ok_of_bind afterAlg with ⟨_, signs, afterSignature⟩
          rcases Fallible.ok_of_bind afterSignature with ⟨members, isPayload, afterClaims⟩
          rcases Fallible.ok_of_bind afterClaims with ⟨_, issuer, afterIssuer⟩
          rcases Fallible.ok_of_bind afterIssuer with ⟨_, audience, afterAudience⟩
          rcases Fallible.ok_of_bind afterAudience with ⟨_, expiry, afterExpiry⟩
          rcases Fallible.ok_of_bind afterExpiry with ⟨_, start, returned⟩
          cases returned
          rw [of_membersOf isHeader] at readHeader
          rw [of_membersOf isPayload] at readPayload
          refine ⟨⟨headerPart, payloadPart, signaturePart, headers, signature, _, parts, readHeader,
            readPayload, decoded, rfl, of_decide_eq_true (of_demand allowed),
            signs_of_checkSignature signs⟩, iss_of_issuerFits (of_demand issuer),
            names_of_checkAudience audience, fun present => ?_, fun present => ?_⟩
          · rcases time_of_checkTime expiry present with ⟨exp, read, passes⟩
            refine ⟨exp, read, ?_⟩
            simpa [notExpired] using passes
          · rcases time_of_checkTime start present with ⟨nbf, read, passes⟩
            refine ⟨nbf, read, ?_⟩
            simpa [alreadyValid] using passes
  · cases accepted

/-! ## The gate -/

def principalClaim (settings : OAuthSettings) (claims : List (String × Json)) : Json :=
  match settings.principalIdClaim with
  | .string name => Json.get claims (if name = "" then "sub" else name)
  | claim => if claim.truthy then .null else Json.get claims "sub"

def principalText : Json → String
  | .null => ""
  | value => value.str

/-- The gate lets through who has shown no token where none is required, or a verified one whose
principal is as wanted. All others are refused. -/
def FailsClosed (wanted : Json → Prop) (validator : JwtValidator) (now : Int)
    (settings : OAuthSettings) (request : Request) (method : String)
    (outcome : Except Refusal Request) : Prop :=
  (extractToken request.headers = none ∧ upper method ∉ settings.requiredOnMethods ∧
    outcome = .ok request) ∨
  (∃ token claims, extractToken request.headers = some token ∧
    Verified validator now token claims ∧ wanted (principalClaim settings claims) ∧
    outcome = .ok
      { request with actingPrincipalId := principalText (principalClaim settings claims) }) ∨
  ∃ refusal, outcome = .error (.answer refusal) ∧ refusal.status = 401

def CanBeNamed (claim : Json) : Prop := claim.truthy = true → claim.hashable = true

omit [Floats] [TextCase] [NumberText] [JsonCodec] [SignatureScheme Bytes] [RsaScheme]
  [SegmentText] in
theorem principalText_member (claims : List (String × Json)) (name : String) :
    (match Json.member claims name with
      | some .null => ""
      | some value => value.str
      | none => "") = principalText (Json.get claims name) := by
  rw [Json.get]
  cases Json.member claims name with
  | none => rfl
  | some value => cases value <;> rfl

omit [Floats] [TextCase] [NumberText] [JsonCodec] [SignatureScheme Bytes] [RsaScheme]
  [SegmentText] in
theorem actingPrincipal_of_canBeNamed {settings : OAuthSettings}
    (named : CanBeNamed settings.principalIdClaim) (claims : List (String × Json)) :
    actingPrincipal (.object claims) settings.principalIdClaim =
      some (principalText (principalClaim settings claims)) := by
  have held := principalText_member claims
  unfold actingPrincipal principalClaim
  cases claim : settings.principalIdClaim with
  | string name => exact congrArg some (held _)
  | array items =>
      cases items with
      | nil => exact congrArg some (held "sub")
      | cons item items => rw [claim] at named; cases named rfl
  | object members =>
      cases members with
      | nil => exact congrArg some (held "sub")
      | cons entry members => rw [claim] at named; cases named rfl
  | _ =>
      dsimp only
      split
      · rfl
      · exact congrArg some (held "sub")

/-- The gate fails closed, whatever the header and the token. A verified token may name no
principal. -/
theorem gate_failsClosed {config : Option OAuthConfig} {validators : OAuthValidators}
    {agent : AgentDocument} {settings : OAuthSettings} {validator : JwtValidator} {now : Int}
    (enabled : resolveConfig config agent = .ok (some settings))
    (configured : validators settings.validator
      (if settings.validatorConfig.truthy then settings.validatorConfig else .object []) =
        .loaded (jwtValidator validator now))
    (named : CanBeNamed settings.principalIdClaim) (request : Request) (method : String) :
    FailsClosed (fun _ => True) validator now settings request method
      (gate config validators agent request method) := by
  simp only [gate, enabled, enforce]
  cases sent : extractToken request.headers with
  | none =>
      dsimp only
      split
      · exact .inr (.inr ⟨_, rfl, rfl⟩)
      · next optional => exact .inl ⟨sent, optional, rfl⟩
  | some token =>
      simp only [configured, jwtValidator]
      cases asked : validate validator now token with
      | error failure => exact .inr (.inr ⟨_, rfl, rfl⟩)
      | ok claims =>
          simp only [actingPrincipal_of_canBeNamed named]
          exact .inr (.inl ⟨token, claims, sent, verified_of_validate asked, trivial, rfl⟩)

end Validating

end Agtp.OAuth

namespace Agtp.OAuth.TokenSamples

open scoped Agtp.Plain Agtp.PlainServing Agtp.StandardJson

def token : String := "eyJhbGciOiJFZERTQSJ9.e30.AQID"

scoped instance : SignatureScheme Bytes where
  verifies key signature message :=
    key = [7] && signature = [1, 2, 3] && message = asciiBytes "eyJhbGciOiJFZERTQSJ9.e30"

scoped instance : RsaScheme := ⟨fun _ _ _ _ => false⟩

scoped instance : SegmentText := ⟨fun _ => ""⟩

def validator : JwtValidator := ⟨.ed25519 [7], ["EdDSA"], "", [], 60⟩

def validators : OAuthValidators := fun _ _ => .loaded (jwtValidator validator 0)

def config : OAuthConfig := ⟨true, ["BOOK"], "jwt", [], "sub"⟩

def settings (claim : Json) : OAuthSettings := ⟨["BOOK"], .string "jwt", .object [], claim⟩

def listing : AgentDocument :=
  { AgentDocument.active "guest" ⟨[], [], true⟩ with
    policies := [("oauth", .object [("principal_id_claim", .array [.string "sub"])])] }

def request : Request := Request.toRoot "BOOK" [("Authorization", "Bearer " ++ token)]

theorem token_sent : extractToken request.headers = some token := by
  decide +kernel

def isPassed : Except Refusal Request → Bool
  | .ok _ => true
  | .error _ => false

def isCrash : Except Refusal Request → Bool
  | .error .crash => true
  | _ => false

theorem payload_read : decodeJwtPayload "e30" = .ok (.object []) := by
  have decoded : decodeSegment "e30" = some (StandardJson.canonical (.object [])) := by
    decide +kernel
  have held : JsonText.Held (.object []) := .object List.nodup_nil nofun
  simp only [decodeJwtPayload, decoded, JsonCodec.loads, StandardJson.loads_canonical held rfl]
  rfl

/-- A token without a principal is let through, and a list of claims is not looked up. -/
theorem principal_missing :
    ¬FailsClosed (· ≠ .null) validator 0 (settings (.string "sub")) request "BOOK"
        (gate (some config) validators (.active "guest" ⟨[], [], true⟩) request "BOOK") ∧
      ¬FailsClosed (fun _ => True) validator 0 (settings (.array [.string "sub"])) request "BOOK"
        (gate (some config) validators listing request "BOOK") := by
  constructor
  · intro closed
    rcases closed with ⟨none, _⟩ | ⟨shown, claims, sent, verified, wanted, _⟩ | ⟨_, refused, _⟩
    · rw [token_sent] at none
      cases none
    · rw [token_sent] at sent
      cases sent
      rcases verified.signed with ⟨_, payloadPart, _, _, _, _, parts, _, read, _⟩
      have isPayload : payloadPart = "e30" := by
        have split : Text.split '.' token = ["eyJhbGciOiJFZERTQSJ9", "e30", "AQID"] := by
          decide +kernel
        rw [split] at parts
        injection parts with _ rest
        injection rest with same _
        exact same.symm
      rw [isPayload, payload_read] at read
      cases read
      exact wanted rfl
    · have passed : isPassed (gate (some config) validators (.active "guest" ⟨[], [], true⟩)
          request "BOOK") = true := by
        decide +kernel
      rw [refused] at passed
      cases passed
  · intro closed
    have crashed : isCrash (gate (some config) validators listing request "BOOK") = true := by
      decide +kernel
    rcases closed with ⟨none, _⟩ | ⟨_, _, _, _, _, passed⟩ | ⟨_, refused, _⟩
    · rw [token_sent] at none
      cases none
    · rw [passed] at crashed
      cases crashed
    · rw [refused] at crashed
      cases crashed

theorem request_failsClosed :
    FailsClosed (fun _ => True) validator 0 (settings (.string "sub")) request "BOOK"
      (gate (some config) validators (.active "guest" ⟨[], [], true⟩) request "BOOK") :=
  gate_failsClosed rfl rfl (fun _ => rfl) request "BOOK"

end Agtp.OAuth.TokenSamples
