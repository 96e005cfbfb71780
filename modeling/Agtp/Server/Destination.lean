import Agtp.Server.Dispatch
import Agtp.Server.GateLaws

/-! # Where a request goes

What a dispatcher hands a request to, and with what input. -/

namespace Agtp

/-- Where a dispatcher sends a request. The input of an endpoint is the merged
one that it validates; a synthesis and a method read the body and the query. -/
inductive Destination (EndpointHandler MethodHandler : Type) where
  | refused
  | synthesis (synthesisId : String) (body : Bytes)
  | endpoint (method path : String) (handler : EndpointHandler)
      (input : List (String × Json))
  | method (method : String) (handler : MethodHandler) (body : Bytes)
      (query : Dict String String)
  | negotiation (method path : String)

def Destination.handler {EndpointHandler MethodHandler : Type} :
    Destination EndpointHandler MethodHandler →
      Option (EndpointHandler ⊕ MethodHandler)
  | .endpoint _ _ handler _ => some (.inl handler)
  | .method _ handler _ _ => some (.inr handler)
  | _ => none

namespace Gates

variable [TextCase] [TextOf] {EndpointHandler MethodHandler : Type}

omit [TextCase] [TextOf] in
def Admission.destination (admission : Admission EndpointHandler MethodHandler) :
    Destination EndpointHandler MethodHandler :=
  match admission.target with
  | .endpoint handler context =>
      .endpoint admission.method admission.path handler context.input
  | .embedded handler =>
      .method admission.method handler admission.request.body admission.request.query
  | .negotiate => .negotiation admission.method admission.path

variable [BodyCodec] [SchemaValidator]

def destination (server : Server EndpointHandler MethodHandler)
    (agent : AgentDocument) (request : Request) :
    Destination EndpointHandler MethodHandler :=
  if (lifecycleGate agent (upper request.method)).isSome then .refused
  else if Wire.readSynthesisId request.headers ≠ "" then
    .synthesis (Wire.readSynthesisId request.headers) request.body
  else
    match admitRequest server agent request with
    | .error _ => .refused
    | .ok admission => admission.destination

section Cases

variable {server : Server EndpointHandler MethodHandler} {agent : AgentDocument}
  {request : Request}

theorem destination_direct
    (lifecycle : lifecycleGate agent (upper request.method) = none)
    (outside : Wire.readSynthesisId request.headers = "") :
    destination server agent request =
      match admitRequest server agent request with
      | .error _ => .refused
      | .ok admission => admission.destination := by
  unfold destination
  rw [lifecycle, outside]
  rfl

theorem destination_synthesis
    (lifecycle : lifecycleGate agent (upper request.method) = none)
    (presented : Wire.readSynthesisId request.headers ≠ "") :
    destination server agent request =
      .synthesis (Wire.readSynthesisId request.headers) request.body := by
  unfold destination
  rw [lifecycle]
  exact if_pos presented

end Cases

/-! ## What decides -/

/-- Two requests that the gates cannot tell apart. -/
structure Alike (left right : Request) : Prop where
  method : left.method = right.method
  path : left.requestPath = right.requestPath
  body : left.body = right.body
  query : left.query = right.query
  scopes : Wire.header left.headers "Authority-Scope" =
    Wire.header right.headers "Authority-Scope"
  token : Wire.header left.headers "Authorization" =
    Wire.header right.headers "Authorization"

omit [TextOf] [BodyCodec] [SchemaValidator] in
theorem Alike.symm {left right : Request} (alike : Alike left right) :
    Alike right left :=
  ⟨alike.method.symm, alike.path.symm, alike.body.symm, alike.query.symm,
    alike.scopes.symm, alike.token.symm⟩

variable {server : Server EndpointHandler MethodHandler} {agent : AgentDocument}

omit [TextCase] [TextOf] in
theorem endpointInput_congr {spec : EndpointSpec} {left right : Request}
    (body : left.body = right.body) (query : left.query = right.query) :
    endpointInput spec left = endpointInput spec right := by
  unfold endpointInput parseBody
  rw [body, query]

theorem selectTarget_congr {left right : Request} {method path : String}
    {target : Target EndpointHandler MethodHandler}
    (body : left.body = right.body) (query : left.query = right.query)
    (selected : selectTarget server agent left method path = .ok target) :
    ∃ other, selectTarget server agent right method path = .ok other ∧
      (Admission.mk left method path target).destination =
        (Admission.mk right method path other).destination := by
  unfold selectTarget at selected ⊢
  split at selected
  · next entry found =>
      unfold admitEndpoint at selected ⊢
      rw [endpointInput_congr body query] at selected
      split at selected
      · cases selected
      · next input validated =>
          split at selected
          · cases selected
          · cases selected
          · next handler permitted bound =>
              cases selected
              exact ⟨.endpoint handler (buildEndpointContext right input agent), rfl, rfl⟩
  · refine ⟨target, selected, ?_⟩
    cases target with
    | endpoint handler context => rfl
    | embedded handler => simp only [Admission.destination, body, query]
    | negotiate => rfl

omit [TextOf] [BodyCodec] [SchemaValidator] in
theorem applyAlias_input (policy : MethodsPolicy) (request : Request) :
    (applyAlias policy request).body = request.body ∧
      (applyAlias policy request).query = request.query := by
  unfold applyAlias
  split <;> exact ⟨rfl, rfl⟩

omit [SchemaValidator] [BodyCodec] in
theorem input_of_oauth {request seen : Request}
    (passed : OAuth.gate server.oauth server.validators agent
      (applyAlias server.methodsPolicy request)
      (aliasedMethod server.methodsPolicy request) = .ok seen) :
    seen.body = request.body ∧ seen.query = request.query := by
  rcases OAuth.gate_request passed with ⟨principal, same⟩
  rw [same]
  exact applyAlias_input server.methodsPolicy request

/-- Where one of two alike requests is admitted, so is the other, to the same
destination. -/
theorem admitRequest_congr {left right : Request} (alike : Alike left right)
    {admission : Admission EndpointHandler MethodHandler}
    (admitted : admitRequest server agent left = .ok admission) :
    ∃ other, admitRequest server agent right = .ok other ∧
      other.method = admission.method ∧ other.path = admission.path ∧
      admission.destination = other.destination := by
  have passed := admit_ok.mp admitted
  have method : aliasedMethod server.methodsPolicy left =
      aliasedMethod server.methodsPolicy right := by
    unfold aliasedMethod
    rw [alike.method]
  have token : Wire.header (applyAlias server.methodsPolicy right).headers
      "Authorization" = Wire.header (applyAlias server.methodsPolicy left).headers
      "Authorization" := by
    rw [applyAlias_headers, applyAlias_headers, alike.token]
  rcases OAuth.gate_congr token passed.oauth with ⟨seen, oauth⟩
  rw [method] at oauth
  have mine := input_of_oauth passed.oauth
  have theirs := input_of_oauth oauth
  have body : admission.request.body = seen.body :=
    mine.1.trans (alike.body.trans theirs.1.symm)
  have query : admission.request.query = seen.query :=
    mine.2.trans (alike.query.trans theirs.2.symm)
  rcases selectTarget_congr body query passed.target with ⟨target, selected, same⟩
  refine ⟨⟨seen, admission.method, admission.path, target⟩, ?_, rfl, rfl, same⟩
  exact admit_ok.mpr {
    scopes := by
      have scopes := passed.scopes
      unfold scopeGate at scopes ⊢
      rwa [← alike.scopes]
    oauth := oauth
    catalog := by rw [← method]; exact passed.catalog
    path := by rw [← alike.path]; exact passed.path
    policy := by rw [← method]; exact passed.policy
    pair := by rw [← method, ← alike.path]; exact passed.pair
    target := selected }

theorem destination_congr {left right : Request} (alike : Alike left right)
    (synthesisId : Wire.readSynthesisId left.headers =
      Wire.readSynthesisId right.headers) :
    destination server agent left = destination server agent right := by
  unfold destination
  rw [alike.method, synthesisId, alike.body]
  split
  · rfl
  · split
    · rfl
    · cases first : admitRequest server agent left with
      | ok admission =>
          rcases admitRequest_congr alike first with ⟨other, second, _, _, same⟩
          rw [second]
          exact same
      | error refusal =>
          cases second : admitRequest server agent right with
          | error _ => rfl
          | ok admission =>
              rcases admitRequest_congr alike.symm second with ⟨other, admitted, _⟩
              rw [first] at admitted
              cases admitted

end Gates

/-! ## The dispatcher goes there -/

namespace Dispatch

open Computation Serving

variable {App : Type} [TextCase] [TextOf] [BodyCodec] [SchemaValidator] [Digest]
  [ContractCodec] [Tokens] [NumberText] [Clock] {server : RunningServer App}
  {state : State App} {request : Request} {agent : AgentDocument}

/-- The handler of the endpoint that a request goes to is called first, with that
input. -/
theorem called_of_endpoint {method path : String} {handler : EndpointHandler App}
    {input : List (String × Json)}
    (goes : Gates.destination server (state.document agent) request =
      .endpoint method path handler input) (depth : Nat) :
    ∃ call context rest,
      (dispatch server (depth + 1) request agent state).log = .called call :: rest ∧
      call.admission.target = .endpoint handler context ∧ context.input = input := by
  rw [dispatch_succ]
  cases lifecycle : Gates.lifecycleGate (state.document agent)
      (upper request.method) with
  | some refusal =>
      unfold Gates.destination at goes
      rw [lifecycle] at goes
      cases goes
  | none =>
      by_cases outside : Wire.readSynthesisId request.headers = ""
      · rw [dispatchWith_direct lifecycle outside, dispatchDirect]
        rw [Gates.destination_direct lifecycle outside] at goes
        cases admitted : Gates.admitRequest server (state.document agent) request with
        | error refusal =>
            rw [admitted] at goes
            cases goes
        | ok admission =>
            rw [admitted] at goes
            change admission.destination = _ at goes
            unfold Gates.Admission.destination at goes
            split at goes
            · next held context target =>
                cases goes
                have logged : (serve (dispatch server depth) server
                    (state.document agent) request admission state).log =
                    .called ⟨state.document agent, request, admission⟩ ::
                      (callEndpoint (dispatch server depth) context handler state).log := by
                  simp only [serve, target]
                  rfl
                exact ⟨_, context, _, logged, target, rfl⟩
            · cases goes
            · cases goes
      · rw [Gates.destination_synthesis lifecycle outside] at goes
        cases goes

end Dispatch

end Agtp
