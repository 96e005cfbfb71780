import Agtp.Server.Configuration

/-! # The dispatcher's gates

The part of `_dispatch_inner` that decides, without running anything, what a
request is handed to. Each gate is a function of its own, in the order in which
the dispatcher runs them; the two rewriting steps sit between them. -/

namespace Agtp

namespace Gates

variable [TextCase] [TextOf]

/-! ## Lifecycle -/

def lifecycleStatus (agent : AgentDocument) : String :=
  lower (if agent.status = "" then "active" else agent.status)

def lifecycleExempt (method : String) : Bool :=
  method = "DISCOVER" || method = "DESCRIBE"

omit [TextOf] in
def lifecycleGate (agent : AgentDocument) (method : String) :
    Option ErrorResponse :=
  let status := lifecycleStatus agent
  let extra : List (String × Json) :=
    [("agent_id", .string agent.agentId), ("agent_status", .string status)]
  if lifecycleExempt method then none
  else if status = "retired" ∨ status = "deprecated" then
    some (Status.errorResponse 410 "Gone" "agent-revoked"
      (s!"Agent-ID {agent.agentId} is permanently {status} and may not invoke " ++
       "operational methods.") extra)
  else if status = "suspended" then
    some (Status.errorResponse 503 "Unavailable" "agent-suspended"
      s!"Agent-ID {agent.agentId} is temporarily suspended." extra)
  else none

omit [TextOf] in
theorem status_of_lifecycleGate {agent : AgentDocument} {method : String}
    {refusal : ErrorResponse} (refused : lifecycleGate agent method = some refusal) :
    refusal.toResponse.status ≠ 200 := by
  unfold lifecycleGate at refused
  simp only at refused
  split at refused
  · cases refused
  · split at refused
    · cases refused
      simp [Status.errorResponse, ErrorResponse.toResponse]
    · split at refused
      · cases refused
        simp [Status.errorResponse, ErrorResponse.toResponse]
      · cases refused

/-! ## Aliases -/

omit [TextOf] in
def aliasTarget (policy : MethodsPolicy) (method : String) : Option String :=
  (policy.resolveAlias method).filter (· ≠ "")

omit [TextOf] in
def aliasedMethod (policy : MethodsPolicy) (request : Request) : String :=
  (aliasTarget policy (upper request.method)).getD (upper request.method)

omit [TextOf] in
def applyAlias (policy : MethodsPolicy) (request : Request) : Request :=
  match aliasTarget policy (upper request.method) with
  | some target =>
      { request with method := target, aliasedFrom := upper request.method }
  | none => request

/-! ## Authority -/

omit [TextCase] [TextOf] in
def undeclared (agent : AgentDocument) (claimed : List String) : List String :=
  claimed.filter (!agent.requires.scopes.contains ·)

omit [TextOf] in
/-- Every scope that the `Authority-Scope` header claims is declared. -/
def scopeGate (agent : AgentDocument) (headers : Headers) :
    Option ErrorResponse :=
  let claimed := scopesOf (Wire.header headers "Authority-Scope")
  let invalid := undeclared agent claimed
  if invalid = [] then none
  else
    some (Status.authorizationRequired "scope-required"
      ("Authority-Scope header claims scopes not declared by the agent's " ++
       s!"document: {Status.joined invalid}")
      [("code", .string "scope-claim-invalid"),
        ("claimed", Status.texts claimed),
        ("invalid", Status.texts invalid),
        ("declared", Status.texts
          (agent.requires.scopes.dedup.mergeSort (decide <| · ≤ ·)))])

/-! ## Method and path -/

variable {EndpointHandler MethodHandler : Type}

def catalogAdmits (server : Server EndpointHandler MethodHandler)
    (method : String) : Bool :=
  server.catalog.isApprovedVerb method || server.methods.contains method ||
    server.methodsPolicy.legacy.contains method

def catalogGate (server : Server EndpointHandler MethodHandler)
    (method : String) : Option ErrorResponse :=
  if catalogAdmits server method then none
  else
    some (Status.methodGrammarViolation (upper method)
      (TextOf.quoted (upper method)) (server.catalog.findCloseMatches method))

def pathGate (server : Server EndpointHandler MethodHandler) (path : String) :
    Option ErrorResponse :=
  match PathGrammar.validatePath server.catalog path with
  | .ok () => none
  | .error error =>
      some (Status.endpointGrammarViolation path error.message error.segment)

def policyAdmits (server : Server EndpointHandler MethodHandler)
    (method : String) : Bool :=
  server.catalog.isEmbedded method || server.methodsPolicy.isMethodAllowed method

def policyGate (server : Server EndpointHandler MethodHandler)
    (method : String) : Option ErrorResponse :=
  if policyAdmits server method then none
  else
    some (Status.errorResponse 405 "Method Not Allowed"
      "method-not-allowed-by-policy"
      s!"{method} is not allowed by this server's policies.methods"
      [("method", .string method)])

def redirected (server : Server EndpointHandler MethodHandler)
    (method path : String) : String × String :=
  (server.methodsPolicy.resolveRedirect method path).getD (method, path)

/-! ## Capability -/

def checkCapability (spec : MethodSpec MethodHandler) (agent : AgentDocument) :
    Option ErrorResponse :=
  if agent.acceptsMethod spec.name then none
  else
    some (Status.errorResponse 405 "Method Not Allowed" "method-not-in-requires"
      (s!"agent {String.ofList (agent.agentId.toList.take 12)}... does not " ++
       s!"declare {spec.name} in requires.methods")
      [("method", .string spec.name),
        ("requires", .object [
          ("methods", Status.texts agent.requires.methods),
          ("scopes", Status.texts agent.requires.scopes),
          ("wildcards", .bool agent.requires.wildcards)])])

/-! ## Targets -/

inductive Target (EndpointHandler MethodHandler : Type) where
  | endpoint (handler : EndpointHandler) (context : EndpointContext)
  | embedded (handler : MethodHandler)
  | negotiate

def embeddedTarget (server : Server EndpointHandler MethodHandler)
    (agent : AgentDocument) (method : String) :
    Except Refusal (Target EndpointHandler MethodHandler) :=
  match server.methods.lookup method with
  | none =>
      .error (.answer (Status.errorResponse 405 "Method Not Allowed"
        "method-not-implemented"
        (s!"{method} is in the AGTP catalog but no handler is registered on this " ++
         "server")
        [("method", .string method),
          ("known_methods", Status.texts
            (server.methods.methods.keys.mergeSort (decide <| · ≤ ·)))]))
  | some spec =>
      match checkCapability spec agent, spec.handler with
      | some refusal, _ => .error (.answer refusal)
      | none, none =>
          .error (.answer (Status.errorResponse 500 "Internal Server Error"
            "no-handler-registered" s!"{method} is registered without a handler" []))
      | none, some handler => .ok (.embedded handler)

variable [BodyCodec] [SchemaValidator]

/-- The endpoint registry is asked first, once it has an entry. Its misses on
the root path fall through to the methods. -/
def selectTarget (server : Server EndpointHandler MethodHandler)
    (agent : AgentDocument) (request : Request) (method path : String) :
    Except Refusal (Target EndpointHandler MethodHandler) :=
  match server.endpoints.lookup method path with
  | some entry =>
      (admitEndpoint entry request agent).map fun admitted =>
        .endpoint admitted.1 admitted.2
  | none =>
      if server.endpoints.count = 0 ∨ path = "/" then
        embeddedTarget server agent method
      else if server.endpoints.hasPath path then
        .error (.answer (Status.methodNotAllowed method path
          ((server.endpoints.methodsForPath path).mergeSort (decide <| · ≤ ·))))
      else .ok .negotiate

/-! ## All gates -/

/-- An admitted request: as the handler sees it, with the pair that the handler
was chosen for. -/
structure Admission (EndpointHandler MethodHandler : Type) where
  request : Request
  method : String
  path : String
  target : Target EndpointHandler MethodHandler

def answerWith (refusal : Option ErrorResponse) (next : Except Refusal α) :
    Except Refusal α :=
  match refusal with
  | some response => .error (.answer response)
  | none => next

/-- The gates that a request without a synthesis id passes, from the alias step
to the choice of a handler. -/
def admitRequest (server : Server EndpointHandler MethodHandler) (agent : AgentDocument)
    (request : Request) :
    Except Refusal (Admission EndpointHandler MethodHandler) :=
  let policy := server.methodsPolicy
  let method := aliasedMethod policy request
  let path := request.requestPath
  let target := redirected server method path
  answerWith (scopeGate agent request.headers) <|
    match OAuth.gate server.oauth server.validators agent
        (applyAlias policy request) method with
    | .error refusal => .error refusal
    | .ok admitted =>
        answerWith (catalogGate server method) <|
        answerWith (pathGate server path) <|
        answerWith (policyGate server method) <|
        (selectTarget server agent admitted target.1 target.2).map
          (Admission.mk admitted target.1 target.2)

/-! ## What an admitted request passed -/

structure Passed (server : Server EndpointHandler MethodHandler)
    (agent : AgentDocument) (request : Request)
    (admission : Admission EndpointHandler MethodHandler) : Prop where
  scopes : scopeGate agent request.headers = none
  oauth : OAuth.gate server.oauth server.validators agent
    (applyAlias server.methodsPolicy request)
    (aliasedMethod server.methodsPolicy request) = .ok admission.request
  catalog : catalogGate server (aliasedMethod server.methodsPolicy request) = none
  path : pathGate server request.requestPath = none
  policy : policyGate server (aliasedMethod server.methodsPolicy request) = none
  pair : (admission.method, admission.path) = redirected server
    (aliasedMethod server.methodsPolicy request) request.requestPath
  target : selectTarget server agent admission.request admission.method
    admission.path = .ok admission.target

omit [TextCase] [TextOf] [BodyCodec] [SchemaValidator] in
theorem answerWith_ok {refusal : Option ErrorResponse} {next : Except Refusal α}
    {value : α} : answerWith refusal next = .ok value ↔
      refusal = none ∧ next = .ok value := by
  cases refusal <;> simp [answerWith]

theorem admit_ok {server : Server EndpointHandler MethodHandler}
    {agent : AgentDocument} {request : Request}
    {admission : Admission EndpointHandler MethodHandler} :
    admitRequest server agent request = .ok admission ↔
      Passed server agent request admission := by
  constructor
  · intro admitted
    rcases answerWith_ok.mp admitted with ⟨scopes, rest⟩
    split at rest
    · cases rest
    · next seen oauth =>
        rcases answerWith_ok.mp rest with ⟨catalog, rest⟩
        rcases answerWith_ok.mp rest with ⟨path, rest⟩
        rcases answerWith_ok.mp rest with ⟨policy, rest⟩
        rcases selected : selectTarget server agent seen _ _ with refusal | target
        · rw [selected] at rest
          cases rest
        · rw [selected] at rest
          cases rest
          exact ⟨scopes, oauth, catalog, path, policy, rfl, selected⟩
  · intro passed
    rcases admission with ⟨seen, method, path, target⟩
    refine answerWith_ok.mpr ⟨passed.scopes, ?_⟩
    simp only [passed.oauth]
    refine answerWith_ok.mpr ⟨passed.catalog, ?_⟩
    refine answerWith_ok.mpr ⟨passed.path, ?_⟩
    refine answerWith_ok.mpr ⟨passed.policy, ?_⟩
    rw [← passed.pair, passed.target]
    rfl

end Gates

end Agtp
