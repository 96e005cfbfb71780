import Agtp.Operational.IntentAssertion
import Agtp.Operational.ReplayStore
import Agtp.Server.AgentDirectory
import Agtp.Server.Hooks

/-! # The merchant hook

The gate of `mod_merchant`: a purchase reaches a merchant's handler only if it is
addressed to the merchant and carries an intent assertion that verifies and was
not spent before. -/

namespace Agtp

open Intent

structure ClockReads (Time : Type) [WallClock Time] where
  verified : Time
  offered : Time
  recorded : Time
  verified_le : verified ≤ offered
  offered_le : offered ≤ recorded

def Document.manifestFingerprint [FloatText] [JsonCodec] [Digest]
    (document : Document) : String :=
  Digest.sha256 (JsonCodec.canonical (.object document.toDict))

structure MerchantHook (PublicKey : Type) where
  strict : Bool
  intentPublicKey : Option PublicKey
  requireIntentAssertion : Bool

namespace MerchantHook

def defaultJtiTtlSeconds : Int := 300

def readHeader (context : EndpointContext) (name capitalized : String) : String :=
  match (context.headers.get? name).filter (· ≠ "") with
  | some value => value
  | none => (context.headers.get? capitalized).getD ""

variable [FloatText]

def refuse (merchant : Document) (reason : String)
    (requestValue actualValue : Option String) : HookOutcome :=
  .answered
    { status := 458
      statusText := "Counterparty Unverified"
      headers := []
      body := .object [("error", .object (
        [("code", .string "counterparty-unverified"),
          ("reason", .string reason),
          ("explanation", .string
            s!"PURCHASE counterparty verification failed: {reason}"),
          ("merchant_id", .string merchant.agentId)] ++
        (requestValue.map fun value => ("request_value", Json.string value)).toList ++
        (actualValue.map fun value => ("actual_value", Json.string value)).toList))] }

variable [JsonCodec] [Digest] [TextCase] [TextOf] [NumberText] {PublicKey : Type}

omit [TextOf] [NumberText] in
def checkAddress (hook : MerchantHook PublicKey) (merchant : Document)
    (context : EndpointContext) : Option HookOutcome :=
  let merchantId := readHeader context "merchant-id" "Merchant-Id"
  let fingerprint := readHeader context "merchant-manifest-fingerprint"
    "Merchant-Manifest-Fingerprint"
  if merchantId = "" ∧ hook.strict then
    some (refuse merchant "missing-merchant-id-header" none none)
  else if merchantId ≠ "" ∧ lower merchantId ≠ lower merchant.agentId then
    some (refuse merchant "merchant-id-mismatch" (some merchantId) none)
  else if fingerprint = "" then
    if hook.strict then
      some (refuse merchant "missing-merchant-manifest-fingerprint-header" none none)
    else none
  else if lower fingerprint ≠ lower merchant.manifestFingerprint then
    some (refuse merchant "merchant-manifest-fingerprint-mismatch"
      (some fingerprint) (some merchant.manifestFingerprint))
  else none

def presentedAssertion (context : EndpointContext) : Option String :=
  match Json.member context.input "intent_assertion" with
  | some (.string text) => if text = "" then none else some text
  | _ => none

def jtiOf (payload : List (String × Json)) : String := Json.textOr payload "jti" ""

def expiryOf (payload : List (String × Json)) : Int :=
  match Json.member payload "exp" with
  | some value => if value.truthy then value.toInt?.getD 0 else 0
  | none => 0

def ttlSecondsOf {Time : Type} [WallClock Time] (payload : List (String × Json))
    (offered : Time) : Int :=
  max 1 (expiryOf payload - WallClock.seconds offered)

variable {Time Store : Type} [WallClock Time] [SeenJtiStore Time Store]

def spend (merchant : Document) (jti : String) (ttlSeconds : Int) (recorded : Time) :
    Option Store → HookOutcome × Option Store
  | none => (.passed, none)
  | some store =>
      match SeenJtiStore.checkAndRecord recorded jti ttlSeconds store with
      | (.ok true, after) =>
          (refuse merchant "intent-assertion-replayed" (some jti) none, some after)
      | (.ok false, after) => (.passed, some after)
      | (.error _, after) => (.raised, some after)

def admitVerified (merchant : Document) (context : EndpointContext)
    (reads : ClockReads Time) (payload : List (String × Json))
    (store : Option Store) : HookOutcome × Option Store :=
  let jti := jtiOf payload
  let hinted := readHeader context "intent-assertion-jti" "Intent-Assertion-Jti"
  if jti = "" then (refuse merchant "intent-assertion-missing-jti" none none, store)
  else if hinted ≠ "" ∧ hinted ≠ jti then
    (refuse merchant "intent-assertion-jti-mismatch" none none, store)
  else spend merchant jti (ttlSecondsOf payload reads.offered) reads.recorded store

variable [SignatureScheme PublicKey]

def checkAssertion (key : PublicKey) (merchant : Document) (context : EndpointContext)
    (reads : ClockReads Time) (store : Option Store) : HookOutcome × Option Store :=
  match presentedAssertion context with
  | none => (refuse merchant "missing-intent-assertion" none none, store)
  | some assertion =>
      match verifyIntentAssertion key merchant.agentId merchant.agentId
          (WallClock.seconds reads.verified) assertion with
      | .error (.refused reason) =>
          (refuse merchant s!"intent-assertion-invalid:{reason}" none none, store)
      | .error .uncaught => (.raised, store)
      | .ok payload => admitVerified merchant context reads payload store

def checkHeaderOnly (hook : MerchantHook PublicKey) (merchant : Document)
    (context : EndpointContext) (reads : ClockReads Time) (store : Option Store) :
    HookOutcome × Option Store :=
  let jti := readHeader context "intent-assertion-jti" "Intent-Assertion-Jti"
  if hook.requireIntentAssertion then
    (refuse merchant "intent-verifier-not-configured" none none, store)
  else if store.isNone then (.passed, store)
  else if jti = "" then
    if hook.strict then
      (refuse merchant "missing-intent-assertion-jti-header" none none, store)
    else (.passed, store)
  else spend merchant jti defaultJtiTtlSeconds reads.recorded store

/-- The gate of a merchant that is active or not. -/
def gate (hook : MerchantHook PublicKey) (merchant : Document)
    (context : EndpointContext) (reads : ClockReads Time) (store : Option Store) :
    HookOutcome × Option Store :=
  if merchant.status ≠ "active" then
    (refuse merchant
      s!"merchant-not-active (status={TextOf.quoted merchant.status})" none none, store)
  else
    match checkAddress hook merchant context, hook.intentPublicKey with
    | some refusal, _ => (refusal, store)
    | none, some key => checkAssertion key merchant context reads store
    | none, none => checkHeaderOnly hook merchant context reads store

/-- `before_dispatch`. Other methods, and agents that are no merchants, are not
this hook's job. -/
def beforeDispatch (hook : MerchantHook PublicKey) (agents : HostedAgents)
    (reads : ClockReads Time) : Hook (Option Store) := fun _ context store =>
  if context.method ≠ "PURCHASE" then (.passed, store)
  else
    match agents.get? context.agentId with
    | none => (.passed, store)
    | some target =>
        if target.document.role ≠ "merchant" then (.passed, store)
        else gate hook target.document context reads store

end MerchantHook

end Agtp
