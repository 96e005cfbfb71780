import Agtp.Server.GateLaws
import Agtp.Server.GatewayFrame

/-! # What the context tells

The context of an endpoint call is what the dispatch hooks, the handler and a runtime module
judge the call by. -/

namespace Agtp.Gates

/-! ## The endpoint that is called

An alias rewrites the request, a redirect only the pair that is looked up. -/

section Coherence

variable [TextCase] [TextOf] [BodyCodec] [SchemaValidator]
  {EndpointHandler MethodHandler : Type}

/-- The context, and the frame that a module is sent of it, are about the
endpoint. -/
structure Describes (spec : EndpointSpec) (context : EndpointContext) : Prop where
  method : context.method = upper spec.name
  path : context.path = spec.path
  routed : ∀ requestId, Gateway.routedPair (Gateway.requestFrame requestId context) =
    some (.string (upper spec.name), .string spec.path)

omit [TextOf] [BodyCodec] [SchemaValidator] in
theorem upper_applyAlias (policy : MethodsPolicy) (request : Request) :
    upper (applyAlias policy request).method = upper (aliasedMethod policy request) := by
  unfold applyAlias aliasedMethod
  cases aliasTarget policy (upper request.method) with
  | some target => rfl
  | none => exact (TextCase.upper_upper request.method).symm

omit [TextOf] [BodyCodec] [SchemaValidator] in
theorem path_applyAlias (policy : MethodsPolicy) (request : Request) :
    (applyAlias policy request).path = request.path := by
  unfold applyAlias
  split <;> rfl

omit [TextOf] [BodyCodec] [SchemaValidator] in
theorem verifiedCert_applyAlias (policy : MethodsPolicy) (request : Request) :
    (applyAlias policy request).verifiedCert = request.verifiedCert := by
  unfold applyAlias
  split <;> rfl

theorem context_of_admitRequest {server : Server EndpointHandler MethodHandler}
    {agent : AgentDocument} {request : Request}
    {admission : Admission EndpointHandler MethodHandler}
    {handler : EndpointHandler} {context : EndpointContext}
    (admitted : admitRequest server agent request = .ok admission)
    (reached : admission.target = .endpoint handler context) :
    ∃ input principal, context = buildEndpointContext
      { applyAlias server.methodsPolicy request with actingPrincipalId := principal }
      input agent := by
  have passed := admit_ok.mp admitted
  have selected := passed.target
  rw [reached] at selected
  rcases endpoint_of_selectTarget selected with ⟨entry, _, called⟩
  rcases context_of_admitEndpoint called with ⟨_, input, built⟩
  rcases OAuth.gate_request passed.oauth with ⟨principal, seen⟩
  exact ⟨input, principal, by rw [built, seen]⟩

theorem context_pair {server : Server EndpointHandler MethodHandler}
    {agent : AgentDocument} {request : Request}
    {admission : Admission EndpointHandler MethodHandler}
    {handler : EndpointHandler} {context : EndpointContext}
    (admitted : admitRequest server agent request = .ok admission)
    (reached : admission.target = .endpoint handler context) :
    context.method = upper (aliasedMethod server.methodsPolicy request) ∧
      context.path = request.requestPath := by
  rcases context_of_admitRequest admitted reached with ⟨input, principal, built⟩
  rw [built]
  refine ⟨upper_applyAlias server.methodsPolicy request, ?_⟩
  simp only [buildEndpointContext, path_applyAlias, Request.requestPath]

/-- The hooks, the handler and the module are told the endpoint that is called
exactly if the redirect that applies to the request, if any, keeps its pair. -/
theorem describes_iff {server : Server EndpointHandler MethodHandler}
    {agent : AgentDocument} {request : Request}
    {admission : Admission EndpointHandler MethodHandler}
    {handler : EndpointHandler} {context : EndpointContext}
    (admitted : admitRequest server agent request = .ok admission)
    (reached : admission.target = .endpoint handler context) :
    (∃ spec, server.endpoints.lookup admission.method admission.path =
        some (spec, some handler) ∧ Describes spec context) ↔
      upper (effectivePair server request).1 =
          upper (aliasedMethod server.methodsPolicy request) ∧
        (effectivePair server request).2 = request.requestPath := by
  have passed := admit_ok.mp admitted
  have selected := passed.target
  rw [reached] at selected
  rcases endpoint_of_selectTarget selected with ⟨entry, found, called⟩
  rcases context_of_admitEndpoint called with ⟨bound, _⟩
  rcases EndpointRegistry.admitted_of_lookup found with ⟨method, path, _⟩
  rcases context_pair admitted reached with ⟨shownMethod, shownPath⟩
  have pair : effectivePair server request = (admission.method, admission.path) :=
    passed.pair.symm
  rw [pair, method, path]
  constructor
  · rintro ⟨spec, held, describes⟩
    rw [← path, found] at held
    cases held
    exact ⟨describes.method.symm.trans shownMethod,
      describes.path.symm.trans shownPath⟩
  · rintro ⟨sameMethod, samePath⟩
    have held : entry = (entry.1, some handler) := by rw [← bound]
    have contextMethod : context.method = upper entry.1.name :=
      shownMethod.trans sameMethod.symm
    have contextPath : context.path = entry.1.path := shownPath.trans samePath.symm
    refine ⟨entry.1, by rw [← path, found]; exact congrArg some held, ?_⟩
    exact ⟨contextMethod, contextPath, fun requestId => by
      rw [Gateway.routedPair_requestFrame, contextMethod, contextPath]⟩

end Coherence

section CoherenceSamples

open scoped Plain

def shopServer : Server Unit Unit :=
  { Server.bare Unit Unit with
    endpoints := .single ⟨"PURCHASE", "/basket", [], [], []⟩ (some ())
      (by decide +kernel) (by decide +kernel)
    methodsPolicy := { MethodsPolicy.allowEverything with
      redirects := .ofList [("QUERY", ("PURCHASE", none))] } }

def shopper : AgentDocument := .active "shopper" ⟨["PURCHASE"], [], false⟩

def basket (method : String) : Request :=
  { Request.toRoot method [] with path := "/basket" }

def calledAndShown :
    Except Refusal (Admission Unit Unit) →
      Option ((String × String) × String × String)
  | .ok ⟨_, method, path, .endpoint _ context⟩ =>
      some ((method, path), context.method, context.path)
  | _ => none

theorem endpoint_of_calledAndShown (result : Except Refusal (Admission Unit Unit))
    {called shown : String × String}
    (call : calledAndShown result = some (called, shown)) :
    ∃ admission handler context, result = .ok admission ∧
      admission.target = .endpoint handler context ∧
      (admission.method, admission.path) = called ∧
      (context.method, context.path) = shown := by
  unfold calledAndShown at call
  split at call
  · next request method path handler context =>
      cases call
      exact ⟨⟨request, method, path, .endpoint handler context⟩, handler, context, rfl,
        rfl, rfl, rfl⟩
  · cases call

theorem purchase_described :
    ∃ admission handler context,
      admitRequest shopServer shopper (basket "PURCHASE") = .ok admission ∧
      admission.target = .endpoint handler context ∧
      ∃ spec, shopServer.endpoints.lookup admission.method admission.path =
        some (spec, some handler) ∧ Describes spec context := by
  have call : calledAndShown (admitRequest shopServer shopper (basket "PURCHASE")) =
      some (("PURCHASE", "/basket"), "PURCHASE", "/basket") := by
    decide +kernel
  rcases endpoint_of_calledAndShown _ call with
    ⟨admission, handler, context, admitted, reached, _, _⟩
  exact ⟨admission, handler, context, admitted, reached,
    (describes_iff admitted reached).mpr (by decide +kernel)⟩

/-- A redirected purchase is shown to the hooks as a query. -/
theorem redirected_purchase_shown_as_query :
    ∃ admission handler context,
      admitRequest shopServer shopper (basket "QUERY") = .ok admission ∧
      admission.target = .endpoint handler context ∧
      (admission.method, admission.path) = ("PURCHASE", "/basket") ∧
      context.method = "QUERY" := by
  have call : calledAndShown (admitRequest shopServer shopper (basket "QUERY")) =
      some (("PURCHASE", "/basket"), "QUERY", "/basket") := by
    decide +kernel
  rcases endpoint_of_calledAndShown _ call with
    ⟨admission, handler, context, admitted, reached, called, shown⟩
  exact ⟨admission, handler, context, admitted, reached, called,
    congrArg Prod.fst shown⟩

end CoherenceSamples

end Agtp.Gates
