import Agtp.Core.Identity
import Agtp.Core.PathGrammar
import Agtp.Core.Status
import Agtp.Core.Wire

/-! # Endpoints

The registry that binds `(method, path)` pairs to handlers, and the checks that
`_serve_endpoint` makes before it calls one. -/

namespace Agtp

structure EndpointSpec where
  name : String
  path : String
  requiredScopes : List String
  errors : List String
  parameters : List String

def EndpointSpec.shownPath (spec : EndpointSpec) : String :=
  if spec.path = "" then "/" else spec.path

structure InputValidationError where
  message : String
  field : String
  schemaPath : String

/-- The JSON schema checks of an endpoint's input and output. -/
class SchemaValidator where
  validateInput :
    EndpointSpec → List (String × Json) → Option InputValidationError
  validateOutput :
    EndpointSpec → List (String × Json) → Option InputValidationError

namespace Plain

scoped instance : SchemaValidator where
  validateInput := fun _ _ => none
  validateOutput := fun _ _ => none

end Plain

/-- What a handler is given of the request. The extensions are those of the
verified certificate; without one they are absent. -/
structure EndpointContext where
  input : List (String × Json)
  agentId : String
  principalId : String
  agentScopes : List String
  authorityScope : List String
  sessionId : Option String
  taskId : Option String
  requestId : String
  method : String
  path : String
  headers : Dict String String
  agentVerified : Bool
  agentCertFingerprint : Option String
  agentCertExtensions : CertExtensions

variable [TextCase] [TextOf]

/-! ## Registry -/

/-- Registration refuses a verb that is not in the catalog and a path outside
the grammar. -/
structure EndpointRegistry (catalog : Catalog) (Handler : Type) where
  entries : Dict (String × String) (EndpointSpec × Option Handler)
  admitted : ∀ entry ∈ entries.entries,
    entry.1 = (upper entry.2.1.name, entry.2.1.path) ∧
      catalog.isApprovedVerb (upper entry.2.1.name) = true ∧
      PathGrammar.validatePath catalog entry.2.1.path = .ok ()

namespace EndpointRegistry

variable {catalog : Catalog} {Handler : Type}

def empty : EndpointRegistry catalog Handler :=
  ⟨.empty, fun _ member => absurd member List.not_mem_nil⟩

def single (spec : EndpointSpec) (handler : Option Handler)
    (approved : catalog.isApprovedVerb (upper spec.name) = true)
    (grammar : PathGrammar.validatePath catalog spec.path = .ok ()) :
    EndpointRegistry catalog Handler where
  entries := ⟨[((upper spec.name, spec.path), spec, handler)], by simp⟩
  admitted := by simp [approved, grammar]

def count (registry : EndpointRegistry catalog Handler) : Nat :=
  registry.entries.entries.length

def lookup (registry : EndpointRegistry catalog Handler) (method path : String) :
    Option (EndpointSpec × Option Handler) :=
  registry.entries.get? (upper method, path)

def methodsForPath (registry : EndpointRegistry catalog Handler)
    (path : String) : List String :=
  (registry.entries.keys.filter (·.2 = path)).map Prod.fst

def hasPath (registry : EndpointRegistry catalog Handler) (path : String) :
    Bool :=
  !(registry.methodsForPath path).isEmpty

theorem admitted_of_lookup {registry : EndpointRegistry catalog Handler}
    {method path : String} {entry : EndpointSpec × Option Handler}
    (found : registry.lookup method path = some entry) :
    upper method = upper entry.1.name ∧ path = entry.1.path ∧
      catalog.isApprovedVerb (upper method) = true ∧
      PathGrammar.validatePath catalog path = .ok () := by
  rcases Option.map_eq_some_iff.mp found with ⟨bound, boundFound, value⟩
  have key : bound.1 = (upper method, path) := by
    simpa using List.find?_some boundFound
  have facts := registry.admitted bound (List.mem_of_find?_eq_some boundFound)
  rw [value, key] at facts
  have methodEqual : upper method = upper entry.1.name := congrArg Prod.fst facts.1
  have pathEqual : path = entry.1.path := congrArg Prod.snd facts.1
  rw [methodEqual, pathEqual]
  exact ⟨rfl, rfl, facts.2⟩

end EndpointRegistry

/-! ## Scope lists -/

omit [TextOf] [TextCase] in
def scopesOf (value : String) : List String :=
  ((Text.split ',' value).map Text.strip).filter (· ≠ "")

example : scopesOf "read, ,write ," = ["read", "write"] := by decide

/-! ## Context -/

omit [TextOf] in
def lowerHeaders (headers : Headers) : Dict String String :=
  Dict.ofList (headers.entries.map fun entry => (lower entry.1, entry.2))

omit [TextOf] in
theorem get?_lowerHeaders (headers : Headers) (name : String)
    (lowered : lower name = name) :
    (lowerHeaders headers).get? name =
      (headers.last? (Wire.named name)).map Prod.snd := by
  rw [lowerHeaders, Dict.get?_ofList, ← List.map_reverse, List.find?_map]
  rw [Option.map_map]
  unfold Dict.last? Wire.named
  rw [lowered]
  rfl

def buildEndpointContext (request : Request) (input : List (String × Json))
    (agent : AgentDocument) : EndpointContext :=
  let headers := lowerHeaders request.headers
  let optional (name : String) : Option String :=
    (headers.get? name).filter (· ≠ "")
  { input := input
    agentId := agent.agentId
    principalId := agent.principalId
    agentScopes := agent.requires.scopes
    authorityScope := scopesOf ((headers.get? "authority-scope").getD "")
    sessionId := optional "session-id"
    taskId := optional "task-id"
    requestId := (headers.get? "request-id").getD ""
    method := upper request.method
    path := if request.path = "" then "/" else request.path
    headers := headers
    agentVerified := request.verifiedCert.isSome
    agentCertFingerprint := request.verifiedCert.map VerifiedCert.fingerprint
    agentCertExtensions :=
      (request.verifiedCert.map VerifiedCert.extensions).getD .absent }

/-! ## Serving -/

def parseBody [BodyCodec] (request : Request) :
    Except Refusal (List (String × Json)) :=
  let invalid (detail : String) : Refusal :=
    .answer (Status.errorResponse 400 "Bad Request" "invalid-body" detail [])
  if request.body = [] then .ok []
  else
    match BodyCodec.loads request.body with
    | .ok (.object members) => .ok members
    | .ok _ => .error (invalid "request body must be a JSON object")
    | .error .valueError => .error (invalid (BodyCodec.failureText request.body))
    | .error .other => .error .crash

def checkRequiredScopes (spec : EndpointSpec) (agent : AgentDocument) :
    Option ErrorResponse :=
  let missing := (spec.requiredScopes.dedup.filter fun scope =>
    !agent.requires.scopes.contains scope).mergeSort (decide <| · ≤ ·)
  if missing = [] then none
  else
    some (Status.insufficientScope spec.name spec.shownPath missing)

def mergedInput (query : Dict String String) (body : List (String × Json)) :
    List (String × Json) :=
  body.foldl (fun members entry => Dict.setEntries entry.1 entry.2 members)
    (query.entries.map fun entry => (entry.1, .string entry.2))

variable [BodyCodec] [SchemaValidator] {Handler : Type}

def validateInput (spec : EndpointSpec) (input : List (String × Json)) :
    Except Refusal (List (String × Json)) :=
  match SchemaValidator.validateInput spec input with
  | some error =>
      .error (.answer (Status.errorResponse 422 "Unprocessable"
        "input-validation-failed" error.message
        [("field", .string error.field), ("schema_path", .string error.schemaPath),
          ("method", .string spec.name), ("path", .string spec.shownPath)]))
  | none => .ok input

def endpointInput (spec : EndpointSpec) (request : Request) :
    Except Refusal (List (String × Json)) :=
  match parseBody request with
  | .error refusal => .error refusal
  | .ok body => validateInput spec (mergedInput request.query body)

/-- The checks of `_serve_endpoint`: the handler and the context it is called
with. -/
def admitEndpoint (entry : EndpointSpec × Option Handler) (request : Request)
    (agent : AgentDocument) : Except Refusal (Handler × EndpointContext) :=
  match endpointInput entry.1 request with
  | .error refusal => .error refusal
  | .ok input =>
      match checkRequiredScopes entry.1 agent, entry.2 with
      | some refusal, _ => .error (.answer refusal)
      | none, none =>
          .error (.answer (Status.errorResponse 500 "Internal Server Error"
            "no-handler-resolved"
            (s!"endpoint ({entry.1.name}, {entry.1.path}) has no resolved handler " ++
             "bound to it") []))
      | none, some handler =>
          .ok (handler, buildEndpointContext request input agent)

omit [TextOf] in
/-- The endpoint's own handler is called, with the context of the request it
answers. -/
theorem context_of_admitEndpoint {entry : EndpointSpec × Option Handler}
    {request : Request} {agent : AgentDocument} {handler : Handler}
    {context : EndpointContext}
    (admitted : admitEndpoint entry request agent = .ok (handler, context)) :
    entry.2 = some handler ∧
      ∃ input, context = buildEndpointContext request input agent := by
  unfold admitEndpoint at admitted
  split at admitted
  · cases admitted
  · next input _ =>
      split at admitted
      · cases admitted
      · cases admitted
      · next bound =>
          cases admitted
          exact ⟨bound, input, rfl⟩

end Agtp
