import Agtp.Server.Connection

/-! # What the gates guarantee

Three laws of admitted requests: which scopes a handler is shown, which agents may reach a
handler, and what the rewriting steps leave checked. -/

namespace Agtp.Gates

/-! ## Facts about admission -/

section Admission

variable [TextCase] [TextOf] [BodyCodec] [SchemaValidator]
  {EndpointHandler MethodHandler : Type}

omit [TextOf] [BodyCodec] [SchemaValidator] in
theorem scopeGate_none_iff {agent : AgentDocument} {headers : Headers} :
    scopeGate agent headers = none ↔
      ∀ scope ∈ scopesOf (Wire.header headers "Authority-Scope"),
        scope ∈ agent.requires.scopes := by
  simp [scopeGate, undeclared, List.filter_eq_nil_iff]

omit [TextOf] [BodyCodec] [SchemaValidator] in
theorem applyAlias_headers (policy : MethodsPolicy) (request : Request) :
    (applyAlias policy request).headers = request.headers := by
  unfold applyAlias
  split <;> rfl

theorem Passed.headers {server : Server EndpointHandler MethodHandler}
    {agent : AgentDocument} {request : Request}
    {admission : Admission EndpointHandler MethodHandler}
    (passed : Passed server agent request admission) :
    admission.request.headers = request.headers := by
  rcases OAuth.gate_request passed.oauth with ⟨principal, seen⟩
  rw [seen, ← applyAlias_headers server.methodsPolicy request]

theorem endpoint_of_selectTarget {server : Server EndpointHandler MethodHandler}
    {agent : AgentDocument} {request : Request} {method path : String}
    {handler : EndpointHandler} {context : EndpointContext}
    (selected : selectTarget server agent request method path =
      .ok (.endpoint handler context)) :
    ∃ entry, server.endpoints.lookup method path = some entry ∧
      admitEndpoint entry request agent = .ok (handler, context) := by
  unfold selectTarget at selected
  split at selected
  · next entry found =>
      rcases admitted : admitEndpoint entry request agent with refusal | chosen
      · rw [admitted] at selected
        cases selected
      · rw [admitted] at selected
        cases selected
        exact ⟨entry, found, admitted⟩
  · split at selected
    · unfold embeddedTarget at selected
      split at selected
      · cases selected
      · split at selected <;> cases selected
    · split at selected <;> cases selected

/-- An embedded handler is only chosen for a method the agent accepts, and only
where no endpoint is bound. -/
theorem embedded_of_selectTarget {server : Server EndpointHandler MethodHandler}
    {agent : AgentDocument} {request : Request} {method path : String}
    {handler : MethodHandler}
    (selected : selectTarget server agent request method path =
      .ok (.embedded handler)) :
    server.endpoints.lookup method path = none ∧
      server.catalog.isApprovedVerb method = true ∧
      agent.acceptsMethod method = true ∧
      ∃ spec, server.methods.lookup method = some spec ∧
        spec.handler = some handler := by
  unfold selectTarget at selected
  split at selected
  · next entry _ =>
      rcases admitted : admitEndpoint entry request agent with refusal | chosen
      · rw [admitted] at selected
        cases selected
      · rw [admitted] at selected
        cases selected
  · next unbound =>
      split at selected
      · unfold embeddedTarget at selected
        split at selected
        · cases selected
        · next spec found =>
            have facts := MethodRegistry.facts_of_lookup found
            unfold checkCapability at selected
            rw [facts.1] at selected
            by_cases accepts : agent.acceptsMethod method = true
            · rw [if_pos accepts] at selected
              rcases registered : spec.handler with _ | held
              · rw [registered] at selected
                cases selected
              · rw [registered] at selected
                cases selected
                exact ⟨unbound, facts.2.2, accepts, spec, found, registered⟩
            · simp [accepts] at selected
      · split at selected <;> cases selected

end Admission

/-! ## Scopes

The gate reads the first `Authority-Scope` header, the context the last. -/

section Scopes

variable [TextCase] [TextOf] [BodyCodec] [SchemaValidator]
  {EndpointHandler MethodHandler : Type}

def lastHeader (headers : Headers) (name : String) : String :=
  ((headers.last? (Wire.named name)).map Prod.snd).getD ""

/-- The handler is shown the scopes that were checked, all of them declared. -/
structure ShowsCheckedScopes (agent : AgentDocument) (headers : Headers)
    (context : EndpointContext) : Prop where
  declared : ∀ scope ∈ context.authorityScope, scope ∈ agent.requires.scopes
  checked : ∀ scope, scope ∈ context.authorityScope ↔
    scope ∈ scopesOf (Wire.header headers "Authority-Scope")

omit [TextOf] [BodyCodec] [SchemaValidator] in
theorem authorityScope_of_context {request : Request}
    {input : List (String × Json)} {agent : AgentDocument} :
    (buildEndpointContext request input agent).authorityScope =
      scopesOf (lastHeader request.headers "Authority-Scope") := by
  have lowered : lower "authority-scope" = "authority-scope" := by
    rw [TextCase.lower_ascii _ (by decide)]
    decide
  have sameName : Wire.named "authority-scope" = Wire.named "Authority-Scope" := by
    funext key
    have sameLower : Text.asciiLower "authority-scope" =
        Text.asciiLower "Authority-Scope" := by decide
    unfold Wire.named
    rw [TextCase.lower_ascii "authority-scope" (by decide),
      TextCase.lower_ascii "Authority-Scope" (by decide), sameLower]
  unfold buildEndpointContext lastHeader
  simp only [get?_lowerHeaders _ _ lowered, sameName]

/-- A handler is shown the scopes that were checked exactly if the first and
the last `Authority-Scope` header list the same scopes. -/
theorem shows_checked_scopes_iff {server : Server EndpointHandler MethodHandler}
    {agent : AgentDocument} {request : Request}
    {admission : Admission EndpointHandler MethodHandler}
    {handler : EndpointHandler} {context : EndpointContext}
    (admitted : admitRequest server agent request = .ok admission)
    (reached : admission.target = .endpoint handler context) :
    ShowsCheckedScopes agent request.headers context ↔
      ∀ scope, scope ∈ scopesOf (lastHeader request.headers "Authority-Scope") ↔
        scope ∈ scopesOf (Wire.header request.headers "Authority-Scope") := by
  have passed := admit_ok.mp admitted
  have selected := passed.target
  rw [reached] at selected
  rcases endpoint_of_selectTarget selected with ⟨entry, _, called⟩
  rcases context_of_admitEndpoint called with ⟨_, input, built⟩
  have shown : context.authorityScope =
      scopesOf (lastHeader request.headers "Authority-Scope") := by
    rw [built, authorityScope_of_context, passed.headers]
  constructor
  · intro shows scope
    rw [← shown]
    exact shows.checked scope
  · intro agree
    refine ⟨?_, ?_⟩
    · intro scope member
      rw [shown] at member
      exact scopeGate_none_iff.mp passed.scopes scope ((agree scope).mp member)
    · intro scope
      rw [shown]
      exact agree scope

end Scopes

section ScopeSamples

open scoped Plain

/-- A server that binds `BOOK /room`, and that may know the verb as a method as
well. -/
def roomServer (registered : Bool) : Server Unit Unit :=
  { Server.bare Unit Unit with
    endpoints := .single ⟨"BOOK", "/room", [], [], []⟩ (some ())
      (by decide +kernel) (by decide +kernel)
    methods :=
      if registered then
        .single ⟨"BOOK", [], [], some ()⟩ (by decide) (by decide +kernel)
      else .empty }

def reader : AgentDocument := .active "reader" ⟨[], ["read"], false⟩

def bookRoom (headers : List (String × String)) : Request :=
  { Request.toRoot "BOOK" headers with path := "/room" }

def endpointCall :
    Except Refusal (Admission Unit Unit) → Option (String × String × List String)
  | .ok ⟨_, method, path, .endpoint _ context⟩ =>
      some (method, path, context.authorityScope)
  | _ => none

theorem endpoint_of_call (result : Except Refusal (Admission Unit Unit))
    {method path : String} {scopes : List String}
    (call : endpointCall result = some (method, path, scopes)) :
    ∃ admission handler context, result = .ok admission ∧
      admission.method = method ∧
      admission.target = .endpoint handler context ∧
      context.authorityScope = scopes := by
  unfold endpointCall at call
  split at call
  · next request calledMethod calledPath handler context =>
      have parts := Option.some.inj call
      exact ⟨⟨request, calledMethod, calledPath, .endpoint handler context⟩, handler,
        context, rfl, congrArg Prod.fst parts, rfl,
        congrArg (fun part => part.2.2) parts⟩
  · cases call

theorem shows_single_header_scopes :
    ∃ admission handler context,
      admitRequest (roomServer false) reader
        (bookRoom [("Authority-Scope", "read")]) = .ok admission ∧
      admission.target = .endpoint handler context ∧
      ShowsCheckedScopes reader (bookRoom [("Authority-Scope", "read")]).headers
        context := by
  have call : endpointCall (admitRequest (roomServer false) reader
      (bookRoom [("Authority-Scope", "read")])) = some ("BOOK", "/room", ["read"]) := by
    decide +kernel
  rcases endpoint_of_call _ call with
    ⟨admission, handler, context, admitted, _, reached, _⟩
  refine ⟨admission, handler, context, admitted, reached, ?_⟩
  apply (shows_checked_scopes_iff admitted reached).mpr
  intro scope
  have same : lastHeader (bookRoom [("Authority-Scope", "read")]).headers
      "Authority-Scope" = Wire.header
        (bookRoom [("Authority-Scope", "read")]).headers "Authority-Scope" := by
    decide +kernel
  rw [same]

/-- The gate checks `read`, the handler is shown `admin`. -/
theorem shows_unchecked_scope :
    ∃ admission handler context,
      admitRequest (roomServer false) reader
        (bookRoom [("Authority-Scope", "read"), ("authority-scope", "admin")]) =
          .ok admission ∧
      admission.target = .endpoint handler context ∧
      "admin" ∈ context.authorityScope ∧ "admin" ∉ reader.requires.scopes := by
  have call : endpointCall (admitRequest (roomServer false) reader
      (bookRoom [("Authority-Scope", "read"), ("authority-scope", "admin")])) =
        some ("BOOK", "/room", ["admin"]) := by
    decide +kernel
  rcases endpoint_of_call _ call with
    ⟨admission, handler, context, admitted, _, reached, shown⟩
  refine ⟨admission, handler, context, admitted, reached, ?_, by decide⟩
  rw [shown]
  exact List.mem_singleton_self "admin"

end ScopeSamples

/-! ## Declared methods

The embedded handlers ask the agent's document for the verb they serve. For an
endpoint only the soft-deny gate does, about the verb of the wire and only
where the method registry knows it. -/

section Methods

variable [TextCase] [TextOf] [BodyCodec] [SchemaValidator]
  {EndpointHandler MethodHandler : Type}

/-- What a connection outside a synthesis passes before a handler runs. -/
structure RunsHandler (server : Server EndpointHandler MethodHandler)
    (isSynthesis : String → Bool) (agent : AgentDocument) (request : Request)
    (admission : Admission EndpointHandler MethodHandler) : Prop where
  softDeny : Connection.softDenied server isSynthesis request agent = none
  lifecycle : lifecycleGate agent (upper request.method) = none
  admitted : admitRequest server agent request = .ok admission
  handled : admission.target ≠ .negotiate

/-- Whatever methods the agent's document lists, a handler runs only for one of
them or for an exempt verb. -/
def MethodsEnforced (server : Server EndpointHandler MethodHandler)
    (isSynthesis : String → Bool) (agent : AgentDocument) (request : Request) :
    Prop :=
  ∀ methods admission,
    RunsHandler server isSynthesis (agent.restrictedTo methods) request admission →
      (agent.restrictedTo methods).declares admission.method = true ∨
        upper admission.method ∈ softDenyExemptMethods

def effectivePair (server : Server EndpointHandler MethodHandler)
    (request : Request) : String × String :=
  redirected server (aliasedMethod server.methodsPolicy request)
    request.requestPath

omit [BodyCodec] [SchemaValidator] in
theorem declared_of_softDenyCheck {server : Server EndpointHandler MethodHandler}
    {method : String} {agent : AgentDocument}
    (registered : server.methods.contains (upper method) = true)
    (strict : agent.requires.wildcards = false)
    (passed : softDenyCheck server method agent = none) :
    upper method ∈ softDenyExemptMethods ∨ agent.declares method = true := by
  unfold softDenyCheck at passed
  split at passed
  · next exempt => exact .inl (List.contains_iff_mem.mp exempt)
  · right
    by_contra undeclared
    simp [registered, strict, undeclared] at passed

omit [BodyCodec] [SchemaValidator] in
theorem softDenyCheck_of_declared {server : Server EndpointHandler MethodHandler}
    {method : String} {agent : AgentDocument}
    (strict : agent.requires.wildcards = false)
    (declared : agent.declares method = true) :
    softDenyCheck server method agent = none := by
  simp [softDenyCheck, strict, declared]

theorem admit_restrictedTo {server : Server EndpointHandler MethodHandler}
    {request : Request} {entry : EndpointSpec × Option EndpointHandler}
    (bound : server.endpoints.lookup (effectivePair server request).1
      (effectivePair server request).2 = some entry)
    (agent : AgentDocument) (methods others : List String) :
    admitRequest server (agent.restrictedTo methods) request =
      admitRequest server (agent.restrictedTo others) request := by
  unfold effectivePair at bound
  simp only [admitRequest, selectTarget, bound]
  rfl

/-- The document's methods bind a request outside a synthesis exactly if its
handler is not an endpoint's, its verb is exempt, or the soft-deny gate was
asked about that very verb. -/
theorem methods_enforced_iff {server : Server EndpointHandler MethodHandler}
    {isSynthesis : String → Bool} {agent : AgentDocument} {request : Request}
    {methods : List String} {admission : Admission EndpointHandler MethodHandler}
    (outside : Wire.readSynthesisId request.headers = "")
    (runs : RunsHandler server isSynthesis (agent.restrictedTo methods) request
      admission) :
    MethodsEnforced server isSynthesis agent request ↔
      server.endpoints.lookup (effectivePair server request).1
          (effectivePair server request).2 = none ∨
        upper (effectivePair server request).1 ∈ softDenyExemptMethods ∨
        (server.softDenyEnabled = true ∧
          server.methods.contains (upper request.method) = true ∧
          upper (effectivePair server request).1 = upper request.method) := by
  constructor
  · intro enforced
    by_contra unchecked
    simp only [not_or] at unchecked
    rcases unchecked with ⟨bound, notExempt, notAsked⟩
    rcases Option.ne_none_iff_exists'.mp bound with ⟨entry, found⟩
    have pair : admission.method = (effectivePair server request).1 :=
      congrArg Prod.fst (admit_ok.mp runs.admitted).pair
    -- With a list that passes the soft-deny gate, the same handler runs.
    have runsFor (others : List String)
        (softDeny : Connection.softDenied server isSynthesis request
          (agent.restrictedTo others) = none) :
        (agent.restrictedTo others).declares admission.method = true := by
      have again : RunsHandler server isSynthesis (agent.restrictedTo others)
          request admission :=
        ⟨softDeny, runs.lifecycle,
          admit_restrictedTo found agent others methods ▸ runs.admitted,
          runs.handled⟩
      rcases enforced others admission again with declared | exempt
      · exact declared
      · rw [pair] at exempt
        exact absurd exempt notExempt
    by_cases asked : server.softDenyEnabled = true ∧
        server.methods.contains (upper request.method) = true
    · have declares : (agent.restrictedTo [request.method]).declares
          (upper request.method) = true := by
        simp [AgentDocument.declares, AgentDocument.restrictedTo,
          TextCase.upper_upper]
      have declared := runsFor [request.method] (by
        unfold Connection.softDenied
        simp only [softDenyCheck_of_declared rfl declares, ite_self])
      have same : upper admission.method = upper request.method := by
        simpa [AgentDocument.declares, AgentDocument.restrictedTo] using declared
      rw [pair] at same
      exact notAsked ⟨asked.1, asked.2, same⟩
    · have declared := runsFor [] (by
        unfold Connection.softDenied softDenyCheck
        rw [TextCase.upper_upper]
        by_cases enabled : server.softDenyEnabled = true
        · have unknown : server.methods.contains (upper request.method) = false := by
            simpa [enabled] using asked
          simp [unknown]
        · simp [enabled])
      simp [AgentDocument.declares, AgentDocument.restrictedTo] at declared
  · intro condition others other run
    have passed := admit_ok.mp run.admitted
    have pair : other.method = (effectivePair server request).1 :=
      congrArg Prod.fst passed.pair
    have samePath : other.path = (effectivePair server request).2 :=
      congrArg Prod.snd passed.pair
    have selected := passed.target
    rcases chosen : other.target with ⟨handler, context⟩ | handler | _
    · rw [chosen] at selected
      rcases endpoint_of_selectTarget selected with ⟨entry, found, _⟩
      rw [pair, samePath] at found
      rcases condition with unbound | exempt | ⟨enabled, registered, same⟩
      · rw [found] at unbound
        cases unbound
      · rw [pair]
        exact .inr exempt
      · have softDeny := run.softDeny
        unfold Connection.softDenied at softDeny
        simp only [enabled, outside, ne_eq, not_true_eq_false, false_and,
          not_false_eq_true, and_self, if_true] at softDeny
        have known : server.methods.contains (upper (upper request.method)) = true := by
          rw [TextCase.upper_upper]
          exact registered
        rcases declared_of_softDenyCheck known rfl softDeny with exempt | declared
        · rw [TextCase.upper_upper, ← same, ← pair] at exempt
          exact .inr exempt
        · left
          unfold AgentDocument.declares at declared ⊢
          rw [pair, same]
          rwa [TextCase.upper_upper] at declared
    · rw [chosen] at selected
      have accepts := (embedded_of_selectTarget selected).2.2.1
      exact .inl (by simpa [AgentDocument.acceptsMethod,
        AgentDocument.restrictedTo] using accepts)
    · exact absurd chosen run.handled

end Methods

section MethodSamples

open scoped Plain

/-- Where the registry knows the verb, the soft-deny gate asks about it. -/
theorem registered_verb_enforced :
    MethodsEnforced (roomServer true) (fun _ => false) reader (bookRoom []) := by
  have call : endpointCall (admitRequest (roomServer true) (reader.restrictedTo ["BOOK"])
      (bookRoom [])) = some ("BOOK", "/room", []) := by
    decide +kernel
  rcases endpoint_of_call _ call with ⟨admission, _, _, admitted, _, reached, _⟩
  have runs : RunsHandler (roomServer true) (fun _ => false)
      (reader.restrictedTo ["BOOK"]) (bookRoom []) admission :=
    ⟨by decide +kernel, by decide +kernel, admitted, by rw [reached]; exact nofun⟩
  exact (methods_enforced_iff (by decide +kernel) runs).mpr
    (.inr (.inr ⟨rfl, by decide +kernel, by decide +kernel⟩))

/-- The endpoint's handler runs for an agent that declares no method at all. -/
theorem undeclared_verb_runs :
    ∃ admission,
      RunsHandler (roomServer false) (fun _ => false) (reader.restrictedTo [])
        (bookRoom []) admission ∧
      (reader.restrictedTo []).declares admission.method = false ∧
      upper admission.method ∉ softDenyExemptMethods := by
  have call : endpointCall (admitRequest (roomServer false) (reader.restrictedTo [])
      (bookRoom [])) = some ("BOOK", "/room", []) := by
    decide +kernel
  rcases endpoint_of_call _ call with
    ⟨admission, _, _, admitted, method, reached, _⟩
  refine ⟨admission, ⟨by decide +kernel, by decide +kernel, admitted, ?_⟩, ?_, ?_⟩
  · rw [reached]
    exact nofun
  · rw [method]
    decide +kernel
  · rw [method]
    decide +kernel

end MethodSamples

end Agtp.Gates
