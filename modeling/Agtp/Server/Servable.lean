import Agtp.Server.NegotiationLaws
import Agtp.Server.StepAuthority

/-! # Whether a contract can be honoured

The steps of a negotiated plan are sent to the root path. -/

namespace Agtp

/-! ## Answers for want of a handler -/

def unboundCodes : List String :=
  ["endpoint-not-found", "method-not-allowed", "method-not-implemented"]

def Json.text? : Option Json → Option String
  | some (.string text) => some text
  | _ => none

namespace ErrorResponse

def codeText (refusal : ErrorResponse) : Option String := Json.text? refusal.code

def reportsUnbound (refusal : ErrorResponse) : Bool :=
  refusal.codeText.any unboundCodes.contains

end ErrorResponse

namespace Response

def errorCode (response : Response) : Option String :=
  match response.body with
  | .object members =>
      match Json.member members "error" with
      | some (.object error) => Json.text? (Json.member error "code")
      | _ => none
  | _ => none

def reportsUnbound (response : Response) : Bool :=
  response.errorCode.any unboundCodes.contains

@[simp] theorem reportsUnbound_refusal (refusal : ErrorResponse) :
    refusal.toResponse.reportsUnbound = refusal.reportsUnbound := rfl

end Response

namespace Gates

variable [TextCase] [TextOf]

/-! ## Gates that answer otherwise -/

omit [TextOf] in
theorem lifecycleGate_otherwise {agent : AgentDocument} {method : String}
    {refusal : ErrorResponse} (refused : lifecycleGate agent method = some refusal) :
    refusal.reportsUnbound = false := by
  unfold lifecycleGate at refused
  simp only at refused
  split at refused
  · cases refused
  · split at refused
    · cases refused
      rfl
    · split at refused
      · cases refused
        rfl
      · cases refused

omit [TextOf] in
theorem scopeGate_otherwise {agent : AgentDocument} {headers : Headers}
    {refusal : ErrorResponse} (refused : scopeGate agent headers = some refusal) :
    refusal.reportsUnbound = false := by
  unfold scopeGate at refused
  simp only at refused
  split at refused
  · cases refused
  · cases refused
    rfl

theorem crash_of_resolveConfig {config : Option OAuthConfig} {agent : AgentDocument}
    {refusal : Refusal} (refused : OAuth.resolveConfig config agent = .error refusal) :
    refusal = .crash := by
  unfold OAuth.resolveConfig at refused
  simp only at refused
  split at refused
  all_goals
    split at refused
    · cases refused
    · split at refused
      · cases refused
        rfl
      · split at refused <;> cases refused

theorem enforce_otherwise {validators : OAuthValidators} {settings : OAuthSettings}
    {request : Request} {method : String} {refusal : ErrorResponse}
    (refused : OAuth.enforce validators settings request method =
      .error (.answer refusal)) : refusal.reportsUnbound = false := by
  unfold OAuth.enforce at refused
  split at refused
  · split at refused
    · cases refused
      rfl
    · cases refused
  · split at refused
    · cases refused
    · cases refused
      rfl
    · split at refused
      · cases refused
        rfl
      · split at refused <;> cases refused

theorem oauth_otherwise {config : Option OAuthConfig} {validators : OAuthValidators}
    {agent : AgentDocument} {request : Request} {method : String}
    {refusal : ErrorResponse}
    (refused : OAuth.gate config validators agent request method =
      .error (.answer refusal)) : refusal.reportsUnbound = false := by
  unfold OAuth.gate at refused
  split at refused
  · next crashed =>
      rw [crash_of_resolveConfig crashed] at refused
      cases refused
  · cases refused
  · exact enforce_otherwise refused

variable {EndpointHandler MethodHandler : Type}
  {server : Server EndpointHandler MethodHandler}

theorem catalogGate_otherwise {method : String} {refusal : ErrorResponse}
    (refused : catalogGate server method = some refusal) :
    refusal.reportsUnbound = false := by
  unfold catalogGate at refused
  split at refused
  · cases refused
  · cases refused
    rfl

theorem pathGate_otherwise {path : String} {refusal : ErrorResponse}
    (refused : pathGate server path = some refusal) :
    refusal.reportsUnbound = false := by
  unfold pathGate at refused
  split at refused
  · cases refused
  · cases refused
    rfl

theorem policyGate_otherwise {method : String} {refusal : ErrorResponse}
    (refused : policyGate server method = some refusal) :
    refusal.reportsUnbound = false := by
  unfold policyGate at refused
  split at refused
  · cases refused
  · cases refused
    rfl

/-! ## Targets -/

/-- The pair has an endpoint, or its method is one that the path falls through
to. -/
def bound (server : Server EndpointHandler MethodHandler) (method path : String) :
    Bool :=
  (server.endpoints.lookup method path).isSome ||
    (server.endpoints.count = 0 || path = "/") && server.methods.contains method

variable [BodyCodec] [SchemaValidator]

omit [TextCase] [TextOf] in
theorem endpointInput_otherwise {spec : EndpointSpec} {request : Request}
    {refusal : ErrorResponse}
    (refused : endpointInput spec request = .error (.answer refusal)) :
    refusal.reportsUnbound = false := by
  unfold endpointInput at refused
  split at refused
  · next parsed =>
      cases refused
      unfold parseBody at parsed
      simp only at parsed
      split at parsed
      · cases parsed
      · split at parsed <;> cases parsed <;> rfl
  · unfold validateInput at refused
    split at refused
    · cases refused
      rfl
    · cases refused

omit [TextOf] in
theorem admitEndpoint_otherwise {Handler : Type} {entry : EndpointSpec × Option Handler}
    {request : Request} {agent : AgentDocument} {refusal : ErrorResponse}
    (refused : admitEndpoint entry request agent = .error (.answer refusal)) :
    refusal.reportsUnbound = false := by
  unfold admitEndpoint at refused
  split at refused
  · next input =>
      cases refused
      exact endpointInput_otherwise input
  · split at refused
    · next denied =>
        cases refused
        unfold checkRequiredScopes at denied
        simp only at denied
        split at denied
        · cases denied
        · cases denied
          rfl
    · cases refused
      rfl
    · cases refused

theorem selectTarget_of_bound {agent : AgentDocument} {request : Request}
    {method path : String} (handled : bound server method path = true) :
    selectTarget server agent request method path ≠ .ok .negotiate ∧
      ∀ refusal, selectTarget server agent request method path =
        .error (.answer refusal) → refusal.reportsUnbound = false := by
  unfold selectTarget
  cases found : server.endpoints.lookup method path with
  | some entry =>
      simp only
      cases admitted : admitEndpoint entry request agent with
      | ok chosen => exact ⟨nofun, nofun⟩
      | error denied =>
          refine ⟨nofun, fun refusal refused => ?_⟩
          rw [Except.map, Except.error.injEq] at refused
          rw [refused] at admitted
          exact admitEndpoint_otherwise admitted
  | none =>
      simp only [bound, found, Option.isSome_none, Bool.false_or, Bool.and_eq_true,
        Bool.or_eq_true, decide_eq_true_eq] at handled
      simp only [if_pos handled.1]
      unfold embeddedTarget
      cases registered : server.methods.lookup method with
      | none =>
          rw [MethodRegistry.contains, registered] at handled
          cases handled.2
      | some spec =>
          unfold checkCapability
          refine ⟨?_, fun refusal refused => ?_⟩
          · simp only
            split <;> exact nofun
          · simp only at refused
            split at refused
            · next denied =>
                cases refused
                split at denied
                · cases denied
                · cases denied
                  rfl
            · cases refused
              rfl
            · cases refused

theorem selectTarget_of_unbound {agent : AgentDocument} {request : Request}
    {method path : String} (unhandled : bound server method path = false) :
    selectTarget server agent request method path = .ok .negotiate ∨
      ∃ refusal, selectTarget server agent request method path =
        .error (.answer refusal) ∧ refusal.reportsUnbound = true := by
  simp only [bound, Bool.or_eq_false_iff, Option.isSome_eq_false_iff,
    Option.isNone_iff_eq_none] at unhandled
  unfold selectTarget
  rw [unhandled.1]
  simp only
  split
  · next falls =>
      right
      have absent : server.methods.lookup method = none := by
        have contained := unhandled.2
        rw [Bool.and_eq_false_iff] at contained
        rcases contained with elsewhere | missing
        · simp only [Bool.or_eq_false_iff, decide_eq_false_iff_not] at elsewhere
          exact absurd falls (not_or.mpr elsewhere)
        · simpa [MethodRegistry.contains] using missing
      unfold embeddedTarget
      rw [absent]
      exact ⟨_, rfl, rfl⟩
  · split
    · exact .inr ⟨_, rfl, rfl⟩
    · exact .inl rfl

/-! ## Requests -/

/-- Unless a gate refuses its verb, the request is for a pair that has a
handler. -/
def Handled (server : Server EndpointHandler MethodHandler) (method path : String) :
    Prop :=
  let verb := (aliasTarget server.methodsPolicy (upper method)).getD (upper method)
  catalogAdmits server verb = true → policyAdmits server verb = true →
    bound server (redirected server verb path).1 (redirected server verb path).2 = true

omit [TextCase] [TextOf] [BodyCodec] [SchemaValidator] in
theorem answerWith_error {gate : Option ErrorResponse} {next : Except Refusal α}
    {refusal : ErrorResponse} (refused : answerWith gate next = .error (.answer refusal)) :
    gate = some refusal ∨ gate = none ∧ next = .error (.answer refusal) := by
  cases gate with
  | none => exact .inr ⟨rfl, refused⟩
  | some denied =>
      cases refused
      exact .inl rfl

omit [BodyCodec] [SchemaValidator] in
theorem catalogGate_none {method : String}
    (passed : catalogGate server method = none) : catalogAdmits server method = true := by
  unfold catalogGate at passed
  split at passed
  · assumption
  · cases passed

omit [TextOf] [BodyCodec] [SchemaValidator] in
theorem policyGate_none [TextOf] {server : Server EndpointHandler MethodHandler}
    {method : String} (passed : policyGate server method = none) :
    policyAdmits server method = true := by
  unfold policyGate at passed
  split at passed
  · assumption
  · cases passed

omit [TextCase] [TextOf] [BodyCodec] [SchemaValidator] in
theorem error_of_map {Value Result : Type} {value : Except Refusal Value}
    {transform : Value → Result} {refusal : Refusal}
    (refused : value.map transform = .error refusal) : value = .error refusal := by
  cases value with
  | ok value => cases refused
  | error other =>
      cases refused
      rfl

variable {agent : AgentDocument} {request : Request}

theorem admitRequest_of_handled
    (handled : Handled server request.method request.requestPath) :
    (∀ admission, admitRequest server agent request = .ok admission →
      admission.target ≠ .negotiate) ∧
    ∀ refusal, admitRequest server agent request = .error (.answer refusal) →
      refusal.reportsUnbound = false := by
  constructor
  · rintro admission admitted negotiated
    have passed := admit_ok.mp admitted
    have pair := handled (catalogGate_none passed.catalog) (policyGate_none passed.policy)
    change bound server (redirected server (aliasedMethod server.methodsPolicy request)
      request.requestPath).1 (redirected server (aliasedMethod server.methodsPolicy request)
      request.requestPath).2 = true at pair
    rw [← passed.pair] at pair
    exact (selectTarget_of_bound pair).1 (passed.target.trans (congrArg _ negotiated))
  · intro refusal refused
    unfold admitRequest at refused
    rcases answerWith_error refused with denied | ⟨_, rest⟩
    · exact scopeGate_otherwise denied
    · split at rest
      · next oauth =>
          cases rest
          exact oauth_otherwise oauth
      · rcases answerWith_error rest with denied | ⟨catalog, rest⟩
        · exact catalogGate_otherwise denied
        · rcases answerWith_error rest with denied | ⟨_, rest⟩
          · exact pathGate_otherwise denied
          · rcases answerWith_error rest with denied | ⟨policy, rest⟩
            · exact policyGate_otherwise denied
            · have pair := handled (catalogGate_none catalog) (policyGate_none policy)
              exact (selectTarget_of_bound pair).2 refusal (error_of_map rest)

def unbridled : AgentDocument :=
  { AgentDocument.active "agent" ⟨[], ["rcns:negotiate"], true⟩ with
    policies := [("oauth", .object [("enabled", .bool false)])] }

omit [BodyCodec] [SchemaValidator] in
theorem oauth_unbridled (config : Option OAuthConfig) (validators : OAuthValidators)
    (request : Request) (method : String) :
    OAuth.gate config validators unbridled request method = .ok request := by
  have resolved : OAuth.resolveConfig config unbridled = .ok none := by
    unfold OAuth.resolveConfig
    simp only [unbridled, Json.member_cons_self]
    rw [if_neg fun unset => List.cons_ne_nil _ _ unset.2]
    rfl
  unfold OAuth.gate
  rw [resolved]

omit [TextOf] [BodyCodec] [SchemaValidator] in
theorem lifecycleGate_unbridled (method : String) :
    lifecycleGate unbridled method = none := by
  have status : lifecycleStatus unbridled = "active" :=
    (TextCase.lower_ascii "active" (by decide)).trans (by decide)
  unfold lifecycleGate
  simp only [status]
  split
  · rfl
  · rfl

theorem admitRequest_of_unhandled (rootPath : request.requestPath = "/")
    (bare : request.headers = .empty)
    (unhandled : ¬Handled server request.method "/") :
    (∃ admission, admitRequest server unbridled request = .ok admission ∧
      admission.target = .negotiate) ∨
    ∃ refusal, admitRequest server unbridled request = .error (.answer refusal) ∧
      refusal.reportsUnbound = true := by
  unfold Handled at unhandled
  simp only [Classical.not_imp, Bool.not_eq_true] at unhandled
  rcases unhandled with ⟨catalog, policy, pair⟩
  have scopes : scopeGate unbridled request.headers = none := by
    rw [bare]
    rfl
  have oauth := oauth_unbridled server.oauth server.validators
    (applyAlias server.methodsPolicy request) (aliasedMethod server.methodsPolicy request)
  have path : pathGate server "/" = none := rfl
  have passed : admitRequest server unbridled request =
      let target := redirected server (aliasedMethod server.methodsPolicy request) "/"
      (selectTarget server unbridled (applyAlias server.methodsPolicy request) target.1
        target.2).map
        (Admission.mk (applyAlias server.methodsPolicy request) target.1 target.2) := by
    have known : catalogGate server (aliasedMethod server.methodsPolicy request) = none :=
      if_pos catalog
    have allowed : policyGate server (aliasedMethod server.methodsPolicy request) = none :=
      if_pos policy
    unfold admitRequest
    simp only [scopes, oauth, known, path, allowed, answerWith, rootPath]
  change let target := redirected server (aliasedMethod server.methodsPolicy request) "/"
    bound server target.1 target.2 = false at pair
  rw [passed]
  simp only at pair ⊢
  rcases selectTarget_of_unbound pair with selected | ⟨refusal, selected, reports⟩
  · rw [selected]
    exact .inl ⟨_, rfl, rfl⟩
  · rw [selected]
    exact .inr ⟨refusal, rfl, reports⟩

end Gates

/-! ## Dispatch -/

section Dispatched

open Computation Serving

variable {App : Type} [TextCase] [TextOf] [BodyCodec] [SchemaValidator] [Digest]
  [ContractCodec] [Tokens] [NumberText] [Clock] {server : RunningServer App}
  {state : State App} {request : Request} {agent : AgentDocument}

omit [SchemaValidator] [NumberText] [Clock] in
theorem log_of_served [SchemaValidator] [NumberText] [Clock] {next : Dispatcher App}
    {admission : Gates.Admission (EndpointHandler App) (MethodHandler App)}
    (target : admission.target ≠ .negotiate) :
    (Dispatch.serve next server agent request admission state).log ≠ [] := by
  unfold Dispatch.serve
  cases chosen : admission.target with
  | endpoint handler context => exact List.cons_ne_nil _ _
  | embedded handler => exact List.cons_ne_nil _ _
  | negotiate => exact absurd chosen target

def AnsweredUnbound {State Event : Type} (run : Run State Event Response) : Prop :=
  run.log = [] ∧ ∃ response, run.ending = .value response ∧ response.reportsUnbound = true

omit [TextCase] [TextOf] [BodyCodec] [SchemaValidator] [Digest] [ContractCodec] [Tokens]
  [NumberText] [Clock] in
theorem not_answeredUnbound {refusal : ErrorResponse}
    (otherwise : refusal.reportsUnbound = false) :
    ¬AnsweredUnbound (result refusal.toResponse state : Run (State App) (Event App) _) := by
  rintro ⟨_, response, ended, reports⟩
  cases ended
  rw [Response.reportsUnbound_refusal, otherwise] at reports
  cases reports

omit [SchemaValidator] [NumberText] [Clock] in
theorem dispatchSynthesis_otherwise (next : Dispatcher App) (id : String) :
    ¬AnsweredUnbound (Dispatch.dispatchSynthesis next id agent request state) := by
  unfold Dispatch.dispatchSynthesis
  cases active : state.runtime.get state.now id with
  | none =>
      rcases getPlan_inactive active with ⟨log, run⟩
      rw [andThen_value (congrArg Run.ending run), run]
      rintro ⟨_, response, ended, reports⟩
      cases ended
      cases reports
  | some plan =>
      have run := getPlan_active active
      rw [andThen_value (congrArg Run.ending run), run]
      simp only [andThen_read]
      split
      · unfold execute
        rw [andThen_value (congrArg Run.ending run), run]
        rintro ⟨logged, _⟩
        cases logged
      · rintro ⟨_, response, ended, reports⟩
        cases ended
        cases reports

theorem dispatch_of_handled (handled : Gates.Handled server request.method
    request.requestPath) (depth : Nat) :
    ¬AnsweredUnbound (Dispatch.dispatch server depth request agent state) := by
  cases depth with
  | zero =>
      rintro ⟨_, response, ended, _⟩
      cases ended
  | succ depth =>
      rw [Dispatch.dispatch_succ]
      cases lifecycle : Gates.lifecycleGate (state.document agent)
          (upper request.method) with
      | some refusal =>
          rw [Dispatch.dispatchWith_refused lifecycle]
          exact not_answeredUnbound (Gates.lifecycleGate_otherwise lifecycle)
      | none =>
          by_cases outside : Wire.readSynthesisId request.headers = ""
          · rw [Dispatch.dispatchWith_direct lifecycle outside, Dispatch.dispatchDirect]
            have outcomes (agent : AgentDocument) :
                (∀ admission, Gates.admitRequest server agent request = .ok admission →
                  admission.target ≠ .negotiate) ∧
                ∀ refusal, Gates.admitRequest server agent request =
                  .error (.answer refusal) → refusal.reportsUnbound = false :=
              Gates.admitRequest_of_handled handled
            rcases outcomes (state.document agent) with ⟨served, refused⟩
            cases admitted : Gates.admitRequest server (state.document agent) request with
            | error denial =>
                cases denial with
                | crash =>
                    rintro ⟨_, response, ended, _⟩
                    cases ended
                | answer refusal => exact not_answeredUnbound (refused refusal admitted)
            | ok admission =>
                have target := served admission admitted
                rintro ⟨logged, _⟩
                exact log_of_served target logged
          · rw [Dispatch.dispatchWith_synthesis lifecycle rfl outside]
            exact dispatchSynthesis_otherwise _ _

theorem dispatch_of_unhandled (request : Request) (rootPath : request.requestPath = "/")
    (bare : request.headers = .empty)
    (unhandled : ¬Gates.Handled server request.method "/") (now : Nat) (app : App) :
    AnsweredUnbound (Dispatch.dispatch server 1 request Gates.unbridled
      (State.boot (.sole Gates.unbridled) now app)) := by
  have current : (State.boot (.sole Gates.unbridled) now app).document Gates.unbridled =
      Gates.unbridled := by
    rfl
  have lifecycle := Gates.lifecycleGate_unbridled (upper request.method)
  have outside : Wire.readSynthesisId request.headers = "" := by
    rw [bare]
    rfl
  rw [Dispatch.dispatch_succ, Dispatch.dispatchWith_direct (by rw [current]; exact lifecycle)
    outside, current, Dispatch.dispatchDirect]
  rcases Gates.admitRequest_of_unhandled rootPath bare unhandled with
    ⟨admission, admitted, target⟩ | ⟨refusal, refused, reports⟩
  · rw [admitted]
    have passed := Gates.admit_ok.mp admitted
    have unasked : Rcns.parseAllowRcns admission.request.headers = none := by
      rw [passed.headers, bare]
      have empty : lower (Text.strip (Wire.header .empty "Allow-RCNS")) = "" :=
        (TextCase.lower_ascii "" (by decide)).trans (by decide)
      unfold Rcns.parseAllowRcns
      simp only [empty]
      rfl
    have left (next : Dispatcher App) : Rcns.tryRcns next server admission.request
        Gates.unbridled admission.method admission.path = result none := by
      unfold Rcns.tryRcns
      rw [unasked]
      cases server.rcns.enabled <;> rfl
    simp only [Dispatch.serve, target, left, andThen_result]
    exact ⟨rfl, _, rfl, rfl⟩
  · rw [refused]
    exact ⟨rfl, _, rfl, reports⟩

/-! ## Contracts -/

/-- No request of a step, whoever the plan is executed for and when, is answered
for want of a handler. -/
def Honours (server : RunningServer App) (plan : SynthesisPlan) : Prop :=
  ∀ step ∈ plan.steps, ∀ original params agent depth, ∀ state : State App,
    ¬AnsweredUnbound (Dispatch.dispatch server depth
      (Execution.buildStepRequest original step.methodName params) agent state)

def Servable (server : RunningServer App) (state : State App) (synthesisId : String) :
    Prop :=
  ∀ plan, state.runtime.active.get? synthesisId = some plan → Honours server plan

omit [TextOf] [SchemaValidator] [Digest] [ContractCodec] [Tokens] [NumberText] [Clock] in
theorem headers_bareStep (method : String) :
    (Execution.buildStepRequest (Request.toRoot "" []) method []).headers = .empty := by
  have body : Execution.stepBody ([] : List (String × Json)) = [] := if_pos rfl
  unfold Execution.buildStepRequest
  simp only [body, if_true]
  rfl

omit [TextOf] [SchemaValidator] [Digest] [ContractCodec] [Tokens] [NumberText] [Clock] in
theorem requestPath_step (original : Request) (method : String)
    (params : List (String × Json)) :
    (Execution.buildStepRequest original method params).requestPath = "/" := rfl

theorem honours_iff (state : State App) (plan : SynthesisPlan) :
    Honours server plan ↔
      ∀ step ∈ plan.steps, Gates.Handled server step.methodName "/" := by
  constructor
  · intro honours step member
    by_contra unhandled
    exact honours step member _ _ _ _ _ (dispatch_of_unhandled _
      (requestPath_step _ step.methodName _) (headers_bareStep step.methodName) unhandled
      state.now state.app)
  · intro handled step member original params agent depth state
    refine dispatch_of_handled ?_ depth
    rw [requestPath_step]
    exact handled step member

omit [BodyCodec] [SchemaValidator] [NumberText] [Clock] in
theorem active_of_negotiate {mode : RcnsMode} {key method path : String}
    {deal : Rcns.Deal}
    (negotiated : (Rcns.negotiate server mode agent key method path state).ending =
      .value (.ok deal)) :
    (Rcns.negotiate server mode agent key method path state).state.runtime.active.get?
      deal.synthesisId = some deal.plan := by
  have recorded : ∃ later, (if server.rcns.durable then result .unit
      else emit (.bookkeeping (.record agent.agentId)) : Serving App PUnit) state = later ∧
        later.ending = .value .unit := by
    split <;> exact ⟨_, rfl, rfl⟩
  rcases recorded with ⟨later, run, ended⟩
  unfold Rcns.negotiate at negotiated ⊢
  rw [andThen_value (run ▸ ended), run] at negotiated ⊢
  simp only at negotiated ⊢
  cases composed : attemptSynthesis server.synthesis.policies server.synthesis.maxDepth
      (Rcns.proposal method path) (Rcns.available server) with
  | none =>
      simp only [composed] at negotiated
      rcases value_of_andThen negotiated with ⟨response, _, refused⟩
      cases refused
  | some plan =>
      simp only [composed] at negotiated ⊢
      cases negotiated
      simp only [andThen_read, emit_andThen, result, State.after, State.negotiate,
        State.runtime_bindKey]
      exact Dict.get?_set_same _ _ _

/-- A negotiated contract can be honoured exactly if each of its steps, unless a
gate refuses its verb, is for a pair that has a handler. -/
theorem servable_iff {mode : RcnsMode} {key method path : String} {deal : Rcns.Deal}
    (negotiated : (Rcns.negotiate server mode agent key method path state).ending =
      .value (.ok deal)) :
    Servable server (Rcns.negotiate server mode agent key method path state).state
        deal.synthesisId ↔
      ∀ step ∈ deal.plan.steps, Gates.Handled server step.methodName "/" := by
  have active := active_of_negotiate negotiated
  rw [← honours_iff state]
  constructor
  · intro servable
    exact servable deal.plan active
  · intro honours plan found
    rw [active] at found
    cases found
    exact honours

end Dispatched

section ServableSamples

open Computation Serving
open scoped Plain PlainServing NamingBody

def negotiatedAt (method : String) :
    Run (State Unit) (Event Unit) (Except Response Rcns.Deal) :=
  Rcns.negotiate bookingServer .confirm (negotiator "guest") "" method "/suite" hotel

def dealOf (run : Run (State Unit) (Event Unit) (Except Response Rcns.Deal)) :
    Option Rcns.Deal :=
  match run.ending with
  | .value (.ok deal) => some deal
  | _ => none

def stepMethods (deal : Rcns.Deal) : List String :=
  deal.plan.steps.map CompositionStep.methodName

theorem deal_of_shown {run : Run (State Unit) (Event Unit) (Except Response Rcns.Deal)}
    {Shown : Type} {view : Rcns.Deal → Shown} {shown : Shown}
    (viewed : (dealOf run).map view = some shown) :
    ∃ deal, run.ending = .value (.ok deal) ∧ view deal = shown := by
  unfold dealOf at viewed
  split at viewed
  · next deal ended => exact ⟨deal, ended, Option.some.inj viewed⟩
  · cases viewed

/-- A method of the registry can be negotiated for any path. -/
theorem suspend_servable :
    ∃ deal, (negotiatedAt "SUSPEND").ending = .value (.ok deal) ∧
      Servable bookingServer (negotiatedAt "SUSPEND").state deal.synthesisId := by
  have shown : (dealOf (negotiatedAt "SUSPEND")).map stepMethods = some ["SUSPEND"] := by
    decide +kernel
  rcases deal_of_shown shown with ⟨deal, negotiated, methods⟩
  refine ⟨deal, negotiated, (servable_iff negotiated).mpr fun step member => ?_⟩
  have named : step.methodName = "SUSPEND" :=
    List.mem_singleton.mp (methods ▸ List.mem_map.mpr ⟨step, member, rfl⟩)
  rw [named]
  intro _ _
  decide +kernel

def answerStatus (run : Run (State Unit) (Event Unit) Response) : Option Nat :=
  match run.ending with
  | .value response => some response.status
  | _ => none

def invoked (method id : String) : Run (State Unit) (Event Unit) Response :=
  Dispatch.dispatch bookingServer 2 (Request.toRoot method [("Synthesis-Id", id)])
    (negotiator "guest") (negotiatedAt method).state

/-- `BOOK` is an endpoint of `/room` alone: its contract is signed, and the execution
answers 405. -/
theorem book_unservable :
    ∃ deal, (negotiatedAt "BOOK").ending = .value (.ok deal) ∧
      ¬Servable bookingServer (negotiatedAt "BOOK").state deal.synthesisId ∧
      answerStatus (invoked "BOOK" deal.synthesisId) = some 405 := by
  have shown : (dealOf (negotiatedAt "BOOK")).map (fun deal =>
      (deal.synthesisId, stepMethods deal)) = some ("s", ["BOOK"]) := by
    decide +kernel
  rcases deal_of_shown shown with ⟨deal, negotiated, facts⟩
  rw [Prod.mk.injEq] at facts
  refine ⟨deal, negotiated, fun servable => ?_, ?_⟩
  · have active := active_of_negotiate negotiated
    have handled := (honours_iff hotel deal.plan).mp (servable deal.plan active)
    rcases List.mem_map.mp (facts.2 ▸ List.mem_singleton_self "BOOK") with
      ⟨step, member, named⟩
    have unhandled : ¬Gates.Handled bookingServer "BOOK" "/" := by
      intro pair
      exact absurd (pair (by decide +kernel) (by decide +kernel)) (by decide +kernel)
    rw [← named] at unhandled
    exact unhandled (handled step member)
  · rw [facts.1]
    decide +kernel

end ServableSamples

end Agtp
