import Agtp.Operational.MerchantHook

/-! # The purchase gate

When a purchase runs its handler without a verified intent assertion. -/

namespace Agtp.MerchantHook

open Intent

variable [FloatText] [JsonCodec] [Digest] [TextCase] [TextOf] [NumberText]
  {PublicKey : Type} [SignatureScheme PublicKey] {Time Store : Type} [WallClock Time]

/-- The verification of a purchase from a merchant: the assertion is signed by the
holder of the key, is for this merchant and is within its times. -/
structure Authorized (key : PublicKey) (target : Document) (context : EndpointContext)
    (now : Time) (assertion : String) (payload : List (String × Json)) : Prop where
  purchase : context.method = "PURCHASE"
  merchant : target.role = "merchant"
  presented : presentedAssertion context = some assertion
  genuine : Genuine key target.agentId target.agentId (WallClock.seconds now) assertion
    payload

/-- The checks that come before the assertion's: an active merchant, addressed as
the hook wants it. -/
structure Reaches (hook : MerchantHook PublicKey) (merchant : Document)
    (context : EndpointContext) : Prop where
  active : merchant.status = "active"
  addressed : checkAddress hook merchant context = none

variable [SeenJtiStore Time Store] {hook : MerchantHook PublicKey} {key : PublicKey}
  {agents : HostedAgents} {target : HostedAgent} {spec : EndpointSpec}
  {context : EndpointContext} {reads : ClockReads Time} {store : Option Store}

/-! ## One call of the hook -/

omit [JsonCodec] [Digest] [TextCase] [TextOf] [NumberText] in
theorem refuse_not_letsThrough (merchant : Document) (reason : String)
    (requestValue actualValue : Option String) :
    ¬ (refuse merchant reason requestValue actualValue).LetsThrough :=
  fun held => held

omit [TextOf] [NumberText] [SignatureScheme PublicKey] in
theorem not_letsThrough_of_checkAddress {merchant : Document} {outcome : HookOutcome}
    (checked : checkAddress hook merchant context = some outcome) :
    ¬ outcome.LetsThrough := by
  have refused {reason : String} {requestValue actualValue : Option String}
      (same : some (refuse merchant reason requestValue actualValue) = some outcome) :
      ¬ outcome.LetsThrough :=
    Option.some.inj same ▸ refuse_not_letsThrough _ _ _ _
  simp only [checkAddress] at checked
  split at checked
  · exact refused checked
  · split at checked
    · exact refused checked
    · split at checked
      · split at checked
        · exact refused checked
        · cases checked
      · split at checked
        · exact refused checked
        · cases checked

theorem beforeDispatch_of_merchant (purchase : context.method = "PURCHASE")
    (hosted : agents.get? context.agentId = some target)
    (merchant : target.document.role = "merchant") :
    beforeDispatch hook agents reads spec context store =
      gate hook target.document context reads store := by
  unfold beforeDispatch
  rw [if_neg (by simp [purchase]), hosted]
  simp only [merchant, ne_eq, not_true_eq_false, if_false]

theorem beforeDispatch_of_other (purchase : context.method = "PURCHASE")
    (hosted : agents.get? context.agentId = some target)
    (other : target.document.role ≠ "merchant") :
    beforeDispatch hook agents reads spec context store = (.passed, store) := by
  unfold beforeDispatch
  rw [if_neg (by simp [purchase]), hosted]
  simp only [other, ne_eq, not_false_eq_true, if_true]

/-- The gate lets through only what reaches the assertion's check and passes
it. -/
theorem letsThrough_gate (configured : hook.intentPublicKey = some key)
    {merchant : Document}
    (through : (gate hook merchant context reads store).1.LetsThrough) :
    Reaches hook merchant context ∧
      (checkAssertion key merchant context reads store).1.LetsThrough := by
  unfold gate at through
  split at through
  · exact absurd through (refuse_not_letsThrough _ _ _ _)
  · next active =>
      split at through
      · next refused => exact absurd through (not_letsThrough_of_checkAddress refused)
      · next same addressed held =>
          cases configured.symm.trans held
          exact ⟨⟨not_not.mp active, addressed⟩, through⟩
      · next held =>
          rw [configured] at held
          cases held

theorem gate_of_reaches (configured : hook.intentPublicKey = some key)
    {merchant : Document} (reaches : Reaches hook merchant context) :
    gate hook merchant context reads store =
      checkAssertion key merchant context reads store := by
  unfold gate
  rw [if_neg (by simp [reaches.active]), reaches.addressed, configured]

omit [Digest] [TextCase] in
/-- The assertion's check lets through an assertion that verifies or one that
escapes the verifier. -/
theorem verified_or_escapes {merchant : Document}
    (through : (checkAssertion key merchant context reads store).1.LetsThrough) :
    ∃ assertion, presentedAssertion context = some assertion ∧
      ((∃ payload, Genuine key merchant.agentId merchant.agentId
          (WallClock.seconds reads.verified) assertion payload) ∨
        Escapes key (WallClock.seconds reads.verified) assertion) := by
  unfold checkAssertion at through
  split at through
  · exact absurd through (refuse_not_letsThrough _ _ _ _)
  · next assertion presented =>
      refine ⟨assertion, presented, ?_⟩
      split at through
      · exact absurd through (refuse_not_letsThrough _ _ _ _)
      · next uncaught => exact .inr (verifyIntentAssertion_uncaught_iff.mp uncaught)
      · next payload verified =>
          exact .inl ⟨payload, verifyIntentAssertion_eq_ok_iff.mp verified⟩

omit [Digest] [TextCase] in
theorem checkAssertion_of_escapes {merchant : Document} {assertion : String}
    (presented : presentedAssertion context = some assertion)
    (escapes : Escapes key (WallClock.seconds reads.verified) assertion) :
    checkAssertion key merchant context reads store = (.raised, store) := by
  unfold checkAssertion
  rw [presented]
  simp only [verifyIntentAssertion_uncaught_iff.mpr escapes]

/-! ## The handler -/

section Handler

variable [BodyCodec] [SchemaValidator] {Handler : Type}
  {entry : EndpointSpec × Option Handler} {request : Request} {agent : AgentDocument}

/-- In every registry with this hook and in every state of the hooks, the handler
runs only for an authorized purchase. -/
def Gated (hook : MerchantHook PublicKey) (key : PublicKey) (agents : HostedAgents)
    (target : Document) (reads : ClockReads Time)
    (entry : EndpointSpec × Option Handler) (request : Request)
    (agent : AgentDocument) (Store : Type) [SeenJtiStore Time Store] : Prop :=
  ∀ (before after : List (Hook (Option Store))) (world : Option Store)
    (handler : Handler) (context : EndpointContext),
    (serveEndpoint (before ++ hook.beforeDispatch agents reads :: after) entry request
        agent world).1 = .handled handler context →
      ∃ assertion payload,
        Authorized key target context reads.verified assertion payload

/-- The hook is shown a purchase from a merchant, and the assertion that reaches
the verifier, if any, is not of a kind that escapes it. -/
structure Sound (hook : MerchantHook PublicKey) (key : PublicKey) (target : Document)
    (now : Time) (context : EndpointContext) : Prop where
  purchase : context.method = "PURCHASE"
  merchant : target.role = "merchant"
  settled : Reaches hook target context → ∀ assertion,
    presentedAssertion context = some assertion →
      ¬ Escapes key (WallClock.seconds now) assertion

omit [JsonCodec] [Digest] [TextOf] [NumberText] [FloatText]
  [SignatureScheme PublicKey] in
theorem agentId_of_admitted {handler : Handler}
    (admitted : admitEndpoint entry request agent = .ok (handler, context)) :
    context.agentId = agent.agentId := by
  rcases context_of_admitEndpoint admitted with ⟨_, input, rfl⟩
  rfl

theorem authorized_of_gated {handler : Handler}
    (gated : Gated hook key agents target.document reads entry request agent Store)
    (admitted : admitEndpoint entry request agent = .ok (handler, context))
    (through : (beforeDispatch hook agents reads entry.1 context
      (none : Option Store)).1.LetsThrough) :
    ∃ assertion payload,
      Authorized key target.document context reads.verified assertion payload := by
  apply gated [] [] none handler context
  apply serveEndpoint_handled_iff.mpr
  refine ⟨admitted, ?_⟩
  rw [List.nil_append, runBefore_cons_of_letsThrough through]
  rfl

theorem not_gated_of_escapes (configured : hook.intentPublicKey = some key)
    (hosted : agents.get? agent.agentId = some target)
    (merchant : target.document.role = "merchant") {handler : Handler}
    (admitted : admitEndpoint entry request agent = .ok (handler, context))
    (purchase : context.method = "PURCHASE")
    (reaches : Reaches hook target.document context) {assertion : String}
    (presented : presentedAssertion context = some assertion)
    (escapes : Escapes key (WallClock.seconds reads.verified) assertion) :
    ¬ Gated hook key agents target.document reads entry request agent Store := by
  intro gated
  have found : agents.get? context.agentId = some target := by
    rw [agentId_of_admitted admitted, hosted]
  have through : (beforeDispatch hook agents reads entry.1 context
      (none : Option Store)).1.LetsThrough := by
    rw [beforeDispatch_of_merchant purchase found merchant,
      gate_of_reaches configured reaches, checkAssertion_of_escapes presented escapes]
    trivial
  rcases authorized_of_gated gated admitted through with ⟨other, payload, held⟩
  cases presented.symm.trans held.presented
  have verified := verifyIntentAssertion_eq_ok_iff.mpr held.genuine
  rw [verifyIntentAssertion_uncaught_iff.mpr escapes] at verified
  cases verified

/-- An endpoint's handler runs only for an authorized purchase exactly where the
hook is shown a purchase from a merchant and no assertion escapes the verifier. -/
theorem gated_iff (configured : hook.intentPublicKey = some key)
    (hosted : agents.get? agent.agentId = some target) :
    Gated hook key agents target.document reads entry request agent Store ↔
      ∀ handler context, admitEndpoint entry request agent = .ok (handler, context) →
        Sound hook key target.document reads.verified context := by
  constructor
  · intro gated handler context admitted
    have found : agents.get? context.agentId = some target := by
      rw [agentId_of_admitted admitted, hosted]
    have purchase : context.method = "PURCHASE" := by
      by_contra other
      have passes : beforeDispatch hook agents reads entry.1 context
          (none : Option Store) = (.passed, none) := by
        rw [beforeDispatch, if_pos other]
      rcases authorized_of_gated gated admitted (by rw [passes]; trivial) with
        ⟨_, _, held⟩
      exact other held.purchase
    have merchant : target.document.role = "merchant" := by
      by_contra other
      have passes : beforeDispatch hook agents reads entry.1 context
          (none : Option Store) = (.passed, none) :=
        beforeDispatch_of_other purchase found other
      rcases authorized_of_gated gated admitted (by rw [passes]; trivial) with
        ⟨_, _, held⟩
      exact other held.merchant
    exact ⟨purchase, merchant, fun reaches assertion presented escapes =>
      not_gated_of_escapes configured hosted merchant admitted purchase reaches
        presented escapes gated⟩
  · intro sound before after world handler context handled
    rcases serveEndpoint_handled_iff.mp handled with ⟨admitted, ran⟩
    have found : agents.get? context.agentId = some target := by
      rw [agentId_of_admitted admitted, hosted]
    have facts := sound handler context admitted
    rcases letsThrough_of_runBefore ran with ⟨reached, through⟩
    rw [beforeDispatch_of_merchant facts.purchase found facts.merchant] at through
    rcases letsThrough_gate configured through with ⟨reaches, passed⟩
    rcases verified_or_escapes passed with
      ⟨assertion, presented, ⟨payload, genuine⟩ | escapes⟩
    · exact ⟨assertion, payload, facts.purchase, facts.merchant, presented, genuine⟩
    · exact absurd escapes (facts.settled reaches assertion presented)

end Handler

end Agtp.MerchantHook

namespace Agtp.MerchantHook.Samples

/-! ## An assertion whose header is a number -/

open Intent

open scoped Plain PlainServing

def emptyText : Bytes := asciiBytes "\x7b\x7d"

def headerText : Bytes := asciiBytes "\x7b\"alg\":\"EdDSA\"\x7d"

def payloadText : Bytes :=
  asciiBytes ("\x7b\"aud\":\"shop\",\"exp\":300,\"jti\":\"one\"," ++
    "\"merchant_id\":\"shop\"\x7d")

def payload : List (String × Json) :=
  [("aud", .string "shop"), ("exp", .int 300), ("jti", .string "one"),
    ("merchant_id", .string "shop")]

scoped instance : JsonCodec where
  canonical := fun _ => []
  loads := fun bytes =>
    if bytes = asciiBytes "1" then .ok (.int 1)
    else if bytes = emptyText then .ok (.object [])
    else if bytes = headerText then .ok (.object [("alg", .string "EdDSA")])
    else if bytes = payloadText then .ok (.object payload)
    else .error .valueError

scoped instance : Digest := ⟨fun _ => ""⟩

scoped instance : SignatureScheme Unit := ⟨fun _ signature _ => signature = [1]⟩

scoped instance : FloatText where
  ofInt := fun _ => none
  ofText := fun _ => none
  isUnit := fun _ => true

scoped instance : WallClock Int where
  seconds := id
  plus := fun now seconds => some (now + seconds)

def shopFields (role : String) : DocumentFields where
  agtpVersion := "1.0"
  documentVersion := "v2"
  agentId := "shop"
  name := "shop"
  role := role
  principal := "owner"
  principalId := "owner"
  description := ""
  status := "active"
  skills := []
  requires := ⟨[.string "PURCHASE"], [], false⟩
  scopesAccepted := []
  trustTier := 1
  verificationPath := "dns-anchored"
  trustWarning := ""
  trustScore := none
  trustScoreComputedAt := ""
  ownerId := ""
  issuedAt := ""
  issuer := ""
  manifestIssuer := ""
  manifestIssuerPublicKey := ""
  manifestSignature := ""
  policies := []

def shop : HostedAgent where
  document := ⟨shopFields "merchant", by decide⟩
  path := "shop.agent.json"
  genesis := none

def shopAgent : AgentDocument := .active "shop" ⟨["PURCHASE"], [], false⟩

def keyed : MerchantHook Unit := ⟨false, some (), false⟩

def hosting : HostedAgents := Dict.empty.set "shop" shop

def readsAt (now : Int) : ClockReads Int := ⟨now, now, now, Int.le_refl now, Int.le_refl now⟩

def presenting (assertion : String) : Request :=
  { Request.toRoot "PURCHASE" [] with
    path := "/basket"
    query := .ofList [("intent_assertion", assertion)] }

def purchaseEntry : EndpointSpec × Option Unit :=
  (⟨"PURCHASE", "/basket", [], [], []⟩, some ())

def presented (assertion : String) : EndpointContext :=
  buildEndpointContext (presenting assertion) [("intent_assertion", .string assertion)]
    shopAgent

theorem admitted (assertion : String) :
    admitEndpoint purchaseEntry (presenting assertion) shopAgent =
      .ok ((), presented assertion) := by
  have input : endpointInput purchaseEntry.1 (presenting assertion) =
      .ok [("intent_assertion", .string assertion)] := by
    simp [endpointInput, parseBody, presenting, Request.toRoot, validateInput,
      SchemaValidator.validateInput, mergedInput, Dict.ofList, Dict.set, Dict.setEntries,
      Dict.empty]
  have scopes : checkRequiredScopes purchaseEntry.1 shopAgent = none := by
    decide +kernel
  simp only [admitEndpoint, input, scopes]
  rfl

theorem parse_numberHeader :
    parseIntentAssertion "MQ.e30." =
      .ok ⟨.int 1, .object [], [], asciiBytes "MQ.e30"⟩ := by
  have segments : Text.splitCharacters '.' "MQ.e30.".toList =
      [['M', 'Q'], ['e', '3', '0'], []] := by decide +kernel
  have header : Base64Url.decode ['M', 'Q'] = some (asciiBytes "1") := by decide +kernel
  have payload : Base64Url.decode ['e', '3', '0'] = some emptyText := by decide +kernel
  have different : emptyText ≠ asciiBytes "1" := by decide +kernel
  simp only [parseIntentAssertion, segments, decodeSegment, header, payload,
    JsonCodec.loads, if_true, if_neg different, decodeSignature]
  rfl

theorem numberHeader_escapes (now : Int) : Escapes () now "MQ.e30." :=
  .headerShape parse_numberHeader fun _ same => nomatch same

/-- A purchase runs its handler on an assertion that nobody signed. -/
theorem unguarded_purchase :
    ¬ Gated keyed () hosting shop.document (readsAt 0) purchaseEntry
      (presenting "MQ.e30.") shopAgent (InMemorySeenJtiStore Int) := by
  apply not_gated_of_escapes rfl (Dict.get?_set_same _ _ _) rfl (admitted "MQ.e30.") rfl
  · exact ⟨rfl, by decide +kernel⟩
  · rfl
  · exact numberHeader_escapes _

theorem unsegmented_settled (now : Int) : ¬ Escapes () now "assertion" := by
  intro escapes
  have parses : parseIntentAssertion "assertion" = .error (.refused "malformed") := by
    have segments : Text.splitCharacters '.' "assertion".toList = ["assertion".toList] := by
      decide +kernel
    simp only [parseIntentAssertion, segments]
  have uncaught : verifyIntentAssertion () "" "" now "assertion" = .error .uncaught :=
    verifyIntentAssertion_uncaught_iff.mpr escapes
  simp [verifyIntentAssertion, parses] at uncaught

/-- An assertion without segments is refused. -/
theorem guarded_purchase :
    Gated keyed () hosting shop.document (readsAt 0) purchaseEntry
      (presenting "assertion") shopAgent (InMemorySeenJtiStore Int) := by
  apply (gated_iff rfl (Dict.get?_set_same _ _ _)).mpr
  intro handler context entered
  cases (admitted "assertion").symm.trans entered
  exact ⟨rfl, rfl, fun _ _ shown => Option.some.inj shown ▸ unsegmented_settled _⟩

end Agtp.MerchantHook.Samples
