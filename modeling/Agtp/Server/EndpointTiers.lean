import Agtp.Server.Destination

/-! # Reserved endpoints

The pairs that the daemon answers itself, the registration of the operator's
endpoints and of the built-in ones, and which requests for a reserved pair reach
the daemon's handler. -/

namespace Agtp

def tierAReservedEndpoints : List (String × String) := [
  ("DISCOVER", "/"), ("DISCOVER", "/methods"), ("DISCOVER", "/agents"),
  ("DISCOVER", "/tools"), ("DISCOVER", "/apis"), ("DISCOVER", "/genesis"),
  ("DISCOVER", "/patterns"), ("DISCOVER", "/contracts"), ("QUERY", "/proposals")]

def overridableEndpoints : List (String × String) :=
  [("DISCOVER", "/methods"), ("QUERY", "/proposals")]

theorem discover_of_reserved {pair : String × String}
    (reserved : pair ∈ tierAReservedEndpoints) (own : pair ∉ overridableEndpoints) :
    pair.1 = "DISCOVER" := by
  simp only [tierAReservedEndpoints, List.mem_cons, List.not_mem_nil, or_false] at reserved
  rcases reserved with rfl | rfl | rfl | rfl | rfl | rfl | rfl | rfl | rfl
  any_goals rfl
  exact absurd (by decide) own

/-! ## Registration -/

inductive RegistrationError where
  | invalid
  | duplicate

/-- An endpoint to be registered. `sound` tells whether the rest of its declaration
is in order: the semantic block, the parameters, the errors, the handler binding and
the scopes. -/
structure Declaration (Handler : Type) where
  spec : EndpointSpec
  handler : Option Handler
  sound : Bool

/-- The handlers of the built-in endpoints. Without a proposal store, none answers
`QUERY /proposals`. -/
structure Builtins (Handler : Type) where
  discoverMethods : Handler
  queryProposal : Option Handler

def discoverMethodsSpec : EndpointSpec := ⟨"DISCOVER", "/methods", [], [], []⟩

def queryProposalSpec : EndpointSpec :=
  ⟨"QUERY", "/proposals", [], [], ["proposal_id"]⟩

section Registration

variable [TextCase] [TextOf]

namespace EndpointRegistry

variable {catalog : Catalog} {Handler : Type}

def register (registry : EndpointRegistry catalog Handler)
    (declaration : Declaration Handler) :
    Except RegistrationError (EndpointRegistry catalog Handler) :=
  if approved : catalog.isApprovedVerb (upper declaration.spec.name) = true then
    match grammar : PathGrammar.validatePath catalog declaration.spec.path with
    | .error _ => .error .invalid
    | .ok () =>
        if declaration.sound = false then .error .invalid
        else if (registry.lookup declaration.spec.name declaration.spec.path).isSome then
          .error .duplicate
        else .ok {
          entries := registry.entries.set
            (upper declaration.spec.name, declaration.spec.path)
            (declaration.spec, declaration.handler)
          admitted := by
            intro entry member
            rcases Dict.mem_of_set member with held | rfl
            · exact registry.admitted entry held
            · exact ⟨rfl, approved, grammar⟩ }
  else .error .invalid

def registerOrSkip (registry : EndpointRegistry catalog Handler)
    (declaration : Declaration Handler) : EndpointRegistry catalog Handler :=
  match registry.register declaration with
  | .ok next => next
  | .error _ => registry

def configure (catalog : Catalog) (declarations : List (Declaration Handler)) :
    EndpointRegistry catalog Handler :=
  declarations.foldl registerOrSkip .empty

def registerBuiltins (registry : EndpointRegistry catalog Handler)
    (builtins : Builtins Handler) : EndpointRegistry catalog Handler :=
  let described :=
    registry.registerOrSkip ⟨discoverMethodsSpec, some builtins.discoverMethods, true⟩
  match builtins.queryProposal with
  | some handler => described.registerOrSkip ⟨queryProposalSpec, some handler, true⟩
  | none => described

/-! ### What is registered -/

variable {registry : EndpointRegistry catalog Handler} {declaration : Declaration Handler}

theorem isSome_lookup_of_register {next : EndpointRegistry catalog Handler}
    (registered : registry.register declaration = .ok next) {method path : String}
    (held : (registry.lookup method path).isSome) : (next.lookup method path).isSome := by
  unfold register at registered
  split at registered
  · split at registered
    · cases registered
    · split at registered
      · cases registered
      · split at registered
        · cases registered
        · cases registered
          unfold lookup at held ⊢
          simp only
          by_cases same : (upper method, path) =
            (upper declaration.spec.name, declaration.spec.path)
          · rw [same, Dict.get?_set_same]
            rfl
          · rwa [Dict.get?_set_other _ same]
  · cases registered

theorem isSome_lookup_of_registerOrSkip {method path : String}
    (held : (registry.lookup method path).isSome) :
    ((registry.registerOrSkip declaration).lookup method path).isSome := by
  unfold registerOrSkip
  split
  · next registered => exact isSome_lookup_of_register registered held
  · exact held

/-- A sound declaration with an approved verb and a path of the grammar is
registered, unless its pair was. -/
theorem isSome_lookup_registerOrSkip (registry : EndpointRegistry catalog Handler)
    (declaration : Declaration Handler)
    (approved : catalog.isApprovedVerb (upper declaration.spec.name) = true)
    (grammar : PathGrammar.validatePath catalog declaration.spec.path = .ok ())
    (sound : declaration.sound = true) :
    ((registry.registerOrSkip declaration).lookup declaration.spec.name
      declaration.spec.path).isSome := by
  have registered (next : EndpointRegistry catalog Handler)
      (done : registry.register declaration = .ok next) :
      (next.lookup declaration.spec.name declaration.spec.path).isSome := by
    unfold register at done
    rw [dif_pos approved] at done
    split at done
    · cases done
    · rw [if_neg (by simp [sound])] at done
      split at done
      · cases done
      · cases done
        unfold lookup
        rw [Dict.get?_set_same]
        rfl
  unfold registerOrSkip
  split
  · next next done => exact registered next done
  · next refused =>
      unfold register at refused
      rw [dif_pos approved] at refused
      split at refused
      · next malformed =>
          rw [grammar] at malformed
          cases malformed
      · rw [if_neg (by simp [sound])] at refused
        split at refused
        · assumption
        · cases refused

theorem discoverMethods_registered (builtins : Builtins Handler)
    (registry : EndpointRegistry agtpCatalog Handler) :
    ((registry.registerBuiltins builtins).lookup "DISCOVER" "/methods").isSome := by
  have name : upper discoverMethodsSpec.name = "DISCOVER" :=
    TextCase.upper_ascii "DISCOVER" (by decide)
  have segment : PathGrammar.normalized "methods".toList = "METHODS" := by
    unfold PathGrammar.normalized
    rw [String.ofList_toList, TextCase.upper_ascii "methods" (by decide)]
    decide
  have approved : agtpCatalog.isApprovedVerb (upper discoverMethodsSpec.name) = true := by
    unfold Catalog.isApprovedVerb
    rw [name, TextCase.upper_ascii "DISCOVER" (by decide)]
    decide +kernel
  have grammar : PathGrammar.validatePath agtpCatalog discoverMethodsSpec.path = .ok () := by
    have segments : (Text.splitCharacters '/' (PathGrammar.urlParse "/methods").2).filter
        (!List.isEmpty ·) = ["methods".toList] := by
      decide +kernel
    have quiet : PathGrammar.spellsVerb agtpCatalog "methods".toList = false := by
      unfold PathGrammar.spellsVerb
      rw [segment]
      decide +kernel
    change PathGrammar.validatePath agtpCatalog "/methods" = .ok ()
    unfold PathGrammar.validatePath
    rw [if_neg (by decide +kernel), if_neg (by decide +kernel), if_neg (by decide +kernel)]
    simp only [segments, List.find?, quiet]
  have described := isSome_lookup_registerOrSkip registry
    ⟨discoverMethodsSpec, some builtins.discoverMethods, true⟩ approved grammar rfl
  unfold registerBuiltins
  split
  · exact isSome_lookup_of_registerOrSkip described
  · exact described

end EndpointRegistry

/-! ## Deployments -/

section Deployments

/-- What an operator decides about a server. The daemon's own handler of `DISCOVER`
is registered when its module is loaded. -/
structure Deployment (EndpointHandler MethodHandler : Type) where
  methods : MethodRegistry agtpCatalog MethodHandler
  discover : MethodHandler
  discoverRegistered : ∃ spec, methods.lookup "DISCOVER" = some spec ∧
    spec.handler = some discover
  declarations : List (Declaration EndpointHandler)
  builtins : Builtins EndpointHandler
  methodsPolicy : MethodsPolicy
  oauth : Option OAuthConfig
  validators : OAuthValidators
  rcns : RcnsConfig
  synthesis : SynthesisConfig
  softDenyEnabled : Bool
  wildcardsAccepted : Bool
  anonymousDiscovery : Bool
  requireAgentIdMatch : Bool

variable {EndpointHandler MethodHandler : Type}

/-- The server after `configure_endpoints` and `register_builtins`. -/
def Deployment.server (deployment : Deployment EndpointHandler MethodHandler) :
    Server EndpointHandler MethodHandler where
  catalog := agtpCatalog
  methods := deployment.methods
  endpoints := (EndpointRegistry.configure agtpCatalog
    deployment.declarations).registerBuiltins deployment.builtins
  methodsPolicy := deployment.methodsPolicy
  oauth := deployment.oauth
  validators := deployment.validators
  rcns := deployment.rcns
  synthesis := deployment.synthesis
  softDenyEnabled := deployment.softDenyEnabled
  wildcardsAccepted := deployment.wildcardsAccepted
  anonymousDiscovery := deployment.anonymousDiscovery
  requireAgentIdMatch := deployment.requireAgentIdMatch

theorem Deployment.count_ne_zero (deployment : Deployment EndpointHandler MethodHandler) :
    deployment.server.endpoints.count ≠ 0 := by
  intro empty
  have registered := EndpointRegistry.discoverMethods_registered deployment.builtins
    (EndpointRegistry.configure agtpCatalog deployment.declarations)
  have none : deployment.server.endpoints.entries.entries = [] :=
    List.length_eq_zero_iff.mp empty
  change (deployment.server.endpoints.lookup "DISCOVER" "/methods").isSome = true at registered
  rw [EndpointRegistry.lookup, Dict.get?, none] at registered
  cases registered

/-! ## Requests for a reserved pair -/

section Requests

variable [BodyCodec] [SchemaValidator]

/-- The request goes to the daemon's handler of `DISCOVER`, and nothing rewrites its
pair on the way. -/
structure ReachesDaemon (deployment : Deployment EndpointHandler MethodHandler)
    (agent : AgentDocument) (request : Request) : Prop where
  destination : Gates.destination deployment.server agent request =
    .method "DISCOVER" deployment.discover request.body request.query
  unaliased : Gates.aliasedMethod deployment.methodsPolicy request = upper request.method
  undirected : Gates.effectivePair deployment.server request =
    (upper request.method, request.requestPath)

def CredentialsRefused (deployment : Deployment EndpointHandler MethodHandler)
    (agent : AgentDocument) (request : Request) : Prop :=
  Gates.scopeGate agent request.headers ≠ none ∨
    ∀ seen, OAuth.gate deployment.oauth deployment.validators agent
      (Gates.applyAlias deployment.methodsPolicy request)
      (Gates.aliasedMethod deployment.methodsPolicy request) ≠ .ok seen

/-- What the guarantee says: outside a synthesis, a request whose credentials are
accepted reaches the daemon. -/
def AnsweredNatively (deployment : Deployment EndpointHandler MethodHandler)
    (agent : AgentDocument) (request : Request) : Prop :=
  Wire.readSynthesisId request.headers = "" ∧ CredentialsRefused deployment agent request ∨
    ReachesDaemon deployment agent request

/-- No layer stands between the root path and the daemon. -/
structure Unobstructed (deployment : Deployment EndpointHandler MethodHandler)
    (agent : AgentDocument) : Prop where
  unaliased : Gates.aliasTarget deployment.methodsPolicy "DISCOVER" = none
  undirected : Gates.redirected deployment.server "DISCOVER" "/" = ("DISCOVER", "/")
  undeclared : deployment.server.endpoints.lookup "DISCOVER" "/" = none
  accepted : agent.acceptsMethod "DISCOVER" = true

/-! ## The guarantee -/

variable {deployment : Deployment EndpointHandler MethodHandler} {agent : AgentDocument}
  {request : Request}

omit [BodyCodec] [SchemaValidator] in
theorem catalogGate_discover : Gates.catalogGate deployment.server "DISCOVER" = none := by
  rcases deployment.discoverRegistered with ⟨spec, found, _⟩
  apply if_pos
  have contained : deployment.server.methods.contains "DISCOVER" = true :=
    Option.isSome_iff_exists.mpr ⟨spec, found⟩
  unfold Gates.catalogAdmits
  rw [contained]
  simp

omit [BodyCodec] [SchemaValidator] in
theorem policyGate_discover : Gates.policyGate deployment.server "DISCOVER" = none := by
  apply if_pos
  have embedded : agtpCatalog.isEmbedded "DISCOVER" = true := by decide +kernel
  unfold Gates.policyAdmits
  rw [show deployment.server.catalog = agtpCatalog from rfl, embedded]
  rfl

/-- The daemon's handler is chosen on the root path only, where no endpoint is
bound. -/
theorem selectTarget_discover_iff {path : String} :
    Gates.selectTarget deployment.server agent request "DISCOVER" path =
        .ok (.embedded deployment.discover) ↔
      path = "/" ∧ deployment.server.endpoints.lookup "DISCOVER" "/" = none ∧
        agent.acceptsMethod "DISCOVER" = true := by
  rcases deployment.discoverRegistered with ⟨spec, found, handler⟩
  have facts := MethodRegistry.facts_of_lookup found
  constructor
  · intro selected
    have reached := Gates.embedded_of_selectTarget selected
    have root : path = "/" := by
      by_contra elsewhere
      unfold Gates.selectTarget at selected
      rw [reached.1] at selected
      simp only [deployment.count_ne_zero, elsewhere, or_self, if_false] at selected
      split at selected <;> cases selected
    exact ⟨root, root ▸ reached.1, reached.2.2.1⟩
  · rintro ⟨rfl, unbound, accepted⟩
    unfold Gates.selectTarget
    rw [unbound]
    simp only [or_true, if_true]
    unfold Gates.embeddedTarget Gates.checkCapability
    rw [show deployment.server.methods.lookup "DISCOVER" = some spec from found]
    simp only [facts.1, accepted, if_true, handler]

omit [TextOf] [BodyCodec] [SchemaValidator] in
theorem lifecycleGate_discover (agent : AgentDocument) :
    Gates.lifecycleGate agent "DISCOVER" = none := by
  unfold Gates.lifecycleGate
  exact if_pos rfl

omit [TextOf] [BodyCodec] [SchemaValidator] in
theorem ne_of_aliasTarget {policy : MethodsPolicy} {method target : String}
    (aliased : Gates.aliasTarget policy method = some target) : target ≠ upper method := by
  rintro rfl
  rcases Option.filter_eq_some_iff.mp aliased with ⟨resolved, _⟩
  unfold MethodsPolicy.resolveAlias at resolved
  split at resolved
  · split at resolved
    · cases resolved
    · next different =>
        cases resolved
        exact different rfl
  · cases resolved

omit [TextOf] [BodyCodec] [SchemaValidator] in
theorem unaliased_of_aliasedMethod {policy : MethodsPolicy}
    (method : upper request.method = "DISCOVER")
    (same : Gates.aliasedMethod policy request = "DISCOVER") :
    Gates.aliasTarget policy "DISCOVER" = none := by
  unfold Gates.aliasedMethod at same
  rw [method] at same
  cases aliased : Gates.aliasTarget policy "DISCOVER" with
  | none => rfl
  | some target =>
      rw [aliased, Option.getD_some] at same
      have lettered : upper "DISCOVER" = "DISCOVER" :=
        TextCase.upper_ascii "DISCOVER" (by decide)
      exact absurd (same.trans lettered.symm) (ne_of_aliasTarget aliased)

theorem admitted_of_destination {server : Server EndpointHandler MethodHandler}
    {method : String} {handler : MethodHandler} {body : Bytes}
    {query : Dict String String}
    (goes : Gates.destination server agent request = .method method handler body query) :
    Wire.readSynthesisId request.headers = "" ∧
      ∃ admission, Gates.admitRequest server agent request = .ok admission ∧
        admission.target = .embedded handler ∧ admission.method = method := by
  unfold Gates.destination at goes
  split at goes
  · cases goes
  · split at goes
    · cases goes
    · next outside =>
        split at goes
        · cases goes
        · next admission admitted =>
            refine ⟨not_not.mp outside, admission, admitted, ?_⟩
            unfold Gates.Admission.destination at goes
            split at goes
            · cases goes
            · next target =>
                cases goes
                exact ⟨target, rfl⟩
            · cases goes

theorem reachesDaemon_of_unobstructed (method : upper request.method = "DISCOVER")
    (root : request.requestPath = "/")
    (outside : Wire.readSynthesisId request.headers = "")
    (accepted : ¬CredentialsRefused deployment agent request)
    (clear : Unobstructed deployment agent) : ReachesDaemon deployment agent request := by
  rw [CredentialsRefused, not_or, not_not] at accepted
  rcases accepted with ⟨scopes, oauth⟩
  push Not at oauth
  rcases oauth with ⟨seen, oauth⟩
  have unaliased : Gates.aliasedMethod deployment.server.methodsPolicy request =
      "DISCOVER" := by
    have none : Gates.aliasTarget deployment.server.methodsPolicy "DISCOVER" = none :=
      clear.unaliased
    unfold Gates.aliasedMethod
    rw [method, none]
    rfl
  have undirected : Gates.effectivePair deployment.server request = ("DISCOVER", "/") := by
    unfold Gates.effectivePair
    rw [unaliased, root, clear.undirected]
  have admitted : Gates.admitRequest deployment.server agent request =
      .ok ⟨seen, "DISCOVER", "/", .embedded deployment.discover⟩ :=
    Gates.admit_ok.mpr {
      scopes := scopes
      oauth := oauth
      catalog := by rw [unaliased]; exact catalogGate_discover
      path := by rw [root]; rfl
      policy := by rw [unaliased]; exact policyGate_discover
      pair := undirected.symm
      target := selectTarget_discover_iff.mpr ⟨rfl, clear.undeclared, clear.accepted⟩ }
  have gated : OAuth.gate deployment.server.oauth deployment.server.validators agent
      (Gates.applyAlias deployment.server.methodsPolicy request)
      (Gates.aliasedMethod deployment.server.methodsPolicy request) = .ok seen := oauth
  have input := Gates.input_of_oauth gated
  constructor
  · have lifecycle : Gates.lifecycleGate agent (upper request.method) = none := by
      rw [method]
      exact lifecycleGate_discover agent
    rw [Gates.destination_direct lifecycle outside, admitted, ← input.1, ← input.2]
    rfl
  · exact unaliased.trans method.symm
  · rw [undirected, method, root]

/-- A request for a reserved pair, other than those that operators may declare, is
answered natively exactly if it presents no synthesis, and its credentials are
refused, or it is for the root path and no layer is in the way. -/
theorem answeredNatively_iff {pair : String × String}
    (reserved : pair ∈ tierAReservedEndpoints) (own : pair ∉ overridableEndpoints)
    (method : upper request.method = pair.1) (path : request.requestPath = pair.2) :
    AnsweredNatively deployment agent request ↔
      Wire.readSynthesisId request.headers = "" ∧
        (CredentialsRefused deployment agent request ∨
          pair = ("DISCOVER", "/") ∧ Unobstructed deployment agent) := by
  have discover := discover_of_reserved reserved own
  rw [discover] at method
  constructor
  · rintro (⟨outside, refused⟩ | reaches)
    · exact ⟨outside, .inl refused⟩
    · rcases admitted_of_destination reaches.destination with
        ⟨outside, admission, admitted, target, named⟩
      have passed := Gates.admit_ok.mp admitted
      have kept := passed.pair.trans reaches.undirected
      rw [named, method, Prod.mk.injEq] at kept
      have selected := passed.target
      rw [target, named, kept.2] at selected
      rcases selectTarget_discover_iff.mp selected with ⟨root, undeclared, accepted⟩
      have unaliased := reaches.unaliased.trans method
      have undirected := reaches.undirected
      rw [Gates.effectivePair, method, root] at undirected
      rw [show Gates.aliasedMethod deployment.server.methodsPolicy request = "DISCOVER"
        from unaliased] at undirected
      refine ⟨outside, .inr ⟨Prod.ext discover (path.symm.trans root), ?_⟩⟩
      exact ⟨unaliased_of_aliasedMethod method unaliased, undirected, undeclared, accepted⟩
  · rintro ⟨outside, refused | ⟨root, clear⟩⟩
    · exact .inl ⟨outside, refused⟩
    · by_cases refused : CredentialsRefused deployment agent request
      · exact .inl ⟨outside, refused⟩
      · exact .inr (reachesDaemon_of_unobstructed method
          (path.trans (congrArg Prod.snd root)) outside refused clear)

end Requests

end Deployments

end Registration

section TierSamples

open Computation Serving
open scoped Plain PlainServing

/-- A server as it boots without any configuration. -/
def freshDeployment : Deployment (EndpointHandler Unit) (MethodHandler Unit) where
  methods := .single ⟨"DISCOVER", [], ["target", "filter"],
      some (.other fun _ _ state => (some ⟨200, "OK", [], .null⟩, state))⟩
    (by decide +kernel) (by decide +kernel)
  discover := .other fun _ _ state => (some ⟨200, "OK", [], .null⟩, state)
  discoverRegistered := ⟨_, rfl, rfl⟩
  declarations := []
  builtins := ⟨.function fun _ state => (some ⟨200, "OK", [], .null⟩, state), none⟩
  methodsPolicy := .allowEverything
  oauth := none
  validators := fun _ _ => .misconfigured ""
  rcns := (Server.bare Unit Unit).rcns
  synthesis := ⟨[passthrough], 10⟩
  softDenyEnabled := true
  wildcardsAccepted := true
  anonymousDiscovery := true
  requireAgentIdMatch := true

def visitor : AgentDocument := .active "visitor" ⟨[], [], true⟩

def discovery (path : String) : Request := { Request.toRoot "DISCOVER" [] with path := path }

/-- The index of the reserved endpoints is answered. -/
theorem discover_index_native : AnsweredNatively freshDeployment visitor (discovery "/") := by
  have reserved : ("DISCOVER", "/") ∈ tierAReservedEndpoints := by decide
  apply (answeredNatively_iff reserved (by decide) (by decide +kernel) rfl).mpr
  refine ⟨by decide +kernel, .inr ⟨rfl, ?_⟩⟩
  exact {
    unaliased := by decide +kernel
    undirected := by decide +kernel
    undeclared := by decide +kernel
    accepted := by decide +kernel }

def statusOf (run : Run (State Unit) (Event Unit) Response) : Option Nat :=
  match run.ending with
  | .value response => some response.status
  | _ => none

/-- The agents that the server hosts are not listed: the pair is reserved, and no
endpoint answers it. -/
theorem discover_agents_not_found :
    ("DISCOVER", "/agents") ∈ tierAReservedEndpoints ∧
      ("DISCOVER", "/agents") ∉ overridableEndpoints ∧
      ¬AnsweredNatively freshDeployment visitor (discovery "/agents") ∧
      statusOf (Dispatch.dispatch freshDeployment.server 1 (discovery "/agents")
        visitor (State.boot (.sole visitor) 0 ())) = some 404 := by
  refine ⟨by decide, by decide, ?_, by decide +kernel⟩
  rintro (⟨_, refused | refused⟩ | reaches)
  · exact refused (by decide +kernel)
  · exact refused _ rfl
  · rcases admitted_of_destination reaches.destination with
      ⟨_, admission, admitted, target, named⟩
    have passed := Gates.admit_ok.mp admitted
    have kept := passed.pair.trans reaches.undirected
    rw [named, Prod.mk.injEq] at kept
    have selected := passed.target
    rw [target, named] at selected
    have root : admission.path = "/" := (selectTarget_discover_iff.mp selected).1
    have path : admission.path = "/agents" := kept.2
    exact absurd (root.symm.trans path) (by decide)

end TierSamples

end Agtp
