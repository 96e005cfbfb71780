import Agtp.Core.Identity
import Agtp.Core.Status
import Agtp.Core.Wire

/-! # OAuth composition

A bearer token names the principal an agent acts for. -/

namespace Agtp

structure OAuthConfig where
  enabled : Bool
  requiredOnMethods : List String
  validator : String
  validatorConfig : List (String × Json)
  principalIdClaim : String

/-- The settings in force for one agent. Overrides come from the agent's
document and may be any JSON value. -/
structure OAuthSettings where
  requiredOnMethods : List String
  validator : Json
  validatorConfig : Json
  principalIdClaim : Json

/-- What `get_validator` returns: an instance whose `validate` gives the claims
or the reason and message of a 401, or an exception. -/
inductive ValidatorLookup where
  | loaded (validate : String → Except (String × String) Json)
  | misconfigured (message : String)
  | crash

abbrev OAuthValidators := Json → Json → ValidatorLookup

namespace OAuth

/-! ## Settings -/

def items : Json → Option (List Json)
  | .array values => some values
  | .object members => some (members.map fun member => .string member.1)
  | .string text => some (text.toList.map fun character => .string character.toString)
  | value => if value.truthy then none else some []

variable [TextCase] [TextOf]

def methodNames (value : Json) : Option (List String) :=
  (items value).map fun values => values.map fun item => upper (Text.strip item.str)

def resolveConfig (config : Option OAuthConfig) (agent : AgentDocument) :
    Except Refusal (Option OAuthSettings) :=
  let override : List (String × Json) :=
    match Json.member agent.policies "oauth" with
    | some (.object members) => members
    | _ => []
  if config.isNone ∧ override = [] then .ok none
  else
    let server := config.getD ⟨false, [], "noop", [], "sub"⟩
    let setting (name : String) (value : Json) : Json :=
      (Json.member override name).getD value
    match methodNames
        (setting "required_on_methods" (Status.texts server.requiredOnMethods)) with
    | none => .error .crash
    | some required =>
        if (setting "enabled" (.bool server.enabled)).truthy then
          .ok (some {
            requiredOnMethods := required
            validator := setting "validator" (.string server.validator)
            validatorConfig :=
              setting "validator_config" (.object server.validatorConfig)
            principalIdClaim :=
              setting "principal_id_claim" (.string server.principalIdClaim) })
        else .ok none

/-! ## Enforcement -/

omit [TextOf] in
def extractToken (headers : Headers) : Option String :=
  let text := Text.strip (Wire.header headers "Authorization")
  let scheme := String.ofList (text.toList.take 7)
  let token := Text.strip (String.ofList (text.toList.drop 7))
  if text.toList.length ≤ 7 ∨ lower scheme ≠ "bearer " ∨ token = "" then none
  else some token

omit [TextCase] [TextOf] in
def oauth401 (reason explanation method : String) : ErrorResponse :=
  Status.errorResponse 401 "Unauthorized" "oauth-failure" explanation
    [("reason", .string reason), ("method", .string method)]

omit [TextCase] in
/-- The principal that the configured claim names; `none` is a `TypeError`. -/
def actingPrincipal (claims : Json) (claim : Json) : Option String :=
  let held (name : String) : String :=
    match claims with
    | .object members =>
        match Json.member members name with
        | some .null => ""
        | some value => value.str
        | none => ""
    | _ => ""
  match claim with
  | .string name => some (held (if name = "" then "sub" else name))
  | .array (_ :: _) | .object (_ :: _) =>
      match claims with
      | .object _ => none
      | _ => some ""
  | claim => some (if claim.truthy then "" else held "sub")

omit [TextCase] in
def quoted : Json → String
  | .string text => TextOf.quoted text
  | value => value.str

def enforce (validators : OAuthValidators) (settings : OAuthSettings)
    (request : Request) (method : String) : Except Refusal Request :=
  match extractToken request.headers with
  | none =>
      if upper method ∈ settings.requiredOnMethods then
        .error (.answer (oauth401 "oauth-required"
          s!"this server requires an Authorization: Bearer token on {method} requests"
          method))
      else .ok request
  | some token =>
      match validators settings.validator
          (if settings.validatorConfig.truthy then settings.validatorConfig
            else .object []) with
      | .crash => .error .crash
      | .misconfigured message =>
          .error (.answer (Status.errorResponse 500 "Internal Server Error"
            "oauth-validator-misconfigured"
            s!"OAuth validator {quoted settings.validator} could not be loaded: {message}"
            []))
      | .loaded validate =>
          match validate token with
          | .error (reason, message) =>
              .error (.answer (oauth401 reason message method))
          | .ok claims =>
              match actingPrincipal claims settings.principalIdClaim with
              | none => .error .crash
              | some principal =>
                  .ok { request with actingPrincipalId := principal }

/-- The OAuth step of `dispatch`. -/
def gate (config : Option OAuthConfig) (validators : OAuthValidators)
    (agent : AgentDocument) (request : Request) (method : String) :
    Except Refusal Request :=
  match resolveConfig config agent with
  | .error refusal => .error refusal
  | .ok none => .ok request
  | .ok (some settings) => enforce validators settings request method

theorem gate_request {config : Option OAuthConfig} {validators : OAuthValidators}
    {agent : AgentDocument} {request admitted : Request} {method : String}
    (passed : gate config validators agent request method = .ok admitted) :
    ∃ principal, admitted = { request with actingPrincipalId := principal } := by
  unfold gate enforce at passed
  split at passed
  · cases passed
  · cases passed
    exact ⟨request.actingPrincipalId, rfl⟩
  · split at passed
    · split at passed
      · cases passed
      · cases passed
        exact ⟨request.actingPrincipalId, rfl⟩
    · split at passed
      · cases passed
      · cases passed
      · split at passed
        · cases passed
        · split at passed
          · cases passed
          · next principal _ =>
              cases passed
              exact ⟨principal, rfl⟩

theorem gate_congr {config : Option OAuthConfig} {validators : OAuthValidators}
    {agent : AgentDocument} {request other admitted : Request} {method : String}
    (same : Wire.header other.headers "Authorization" =
      Wire.header request.headers "Authorization")
    (passed : gate config validators agent request method = .ok admitted) :
    ∃ seen, gate config validators agent other method = .ok seen := by
  have sameToken : extractToken other.headers = extractToken request.headers := by
    unfold extractToken
    rw [same]
  unfold gate enforce at passed ⊢
  rw [sameToken]
  split at passed
  · cases passed
  · exact ⟨other, rfl⟩
  · split at passed
    · split at passed
      · cases passed
      · next notRequired => exact ⟨other, if_neg notRequired⟩
    · split at passed
      · cases passed
      · cases passed
      · split at passed
        · cases passed
        · split at passed
          · cases passed
          · exact ⟨_, rfl⟩

end OAuth

end Agtp
