import Agtp.Core.Handshake
import Agtp.Server.DispatchLaws

/-! # What a server's manifest tells of it

The manifest lists the methods of the method registry. -/

namespace Agtp

open Manifest Handshake

/-! ## Generation -/

section Generation

variable {App : Type} [TextCase] [TextOf]

def methodEntry (details : String → List (String × Json))
    (spec : MethodSpec (MethodHandler App)) : MethodEntry where
  members := ("name", .string spec.name) :: details spec.name
  name := spec.name
  named := Json.member_cons_self _ _ _

def methodBucket (server : RunningServer App) (details : String → List (String × Json))
    (embedded : Bool) : List MethodEntry :=
  (((server.methods.methods.entries.map Prod.snd).filter fun spec =>
    server.catalog.isEmbedded spec.name = embedded).map (methodEntry details)).mergeSort
      fun left right => left.name ≤ right.name

/-- `generate`: the methods and the policies of the server. All else is in the
frame. -/
def generate (server : RunningServer App) (details : String → List (String × Json))
    (frame : ServerManifest) (policies : PolicyBlock) : ServerManifest :=
  { frame with
    embeddedMethods := methodBucket server details true
    customMethods := methodBucket server details false
    policies := some
      { policies with
        wildcardsAccepted := server.wildcardsAccepted
        anonymousDiscovery := server.anonymousDiscovery
        maxSynthesisDepth := server.synthesis.maxDepth } }

theorem mem_methodBucket {server : RunningServer App}
    {details : String → List (String × Json)} {embedded : Bool} {name : String} :
    name ∈ (methodBucket server details embedded).map MethodEntry.name ↔
      server.catalog.isEmbedded name = embedded ∧
        ∃ entry ∈ server.methods.methods.entries, entry.2.name = name := by
  simp only [methodBucket, List.mem_map, List.mem_mergeSort, List.mem_filter,
    decide_eq_true_eq]
  constructor
  · intro ⟨entry, ⟨spec, ⟨⟨bound, member, held⟩, kind⟩, made⟩, named⟩
    subst made
    have same : spec.name = name := named
    rw [← same]
    exact ⟨kind, bound, member, by rw [held]⟩
  · intro ⟨kind, bound, member, named⟩
    subst named
    exact ⟨methodEntry details bound.2, ⟨bound.2, ⟨⟨bound, member, rfl⟩, kind⟩, rfl⟩, rfl⟩

theorem mem_namesFromManifest_generate {server : RunningServer App}
    {details : String → List (String × Json)} {frame : ServerManifest}
    {policies : PolicyBlock} {name : String} :
    name ∈ namesFromManifest (generate server details frame policies) ↔
      server.methods.contains name = true := by
  have registered : (∃ entry ∈ server.methods.methods.entries, entry.2.name = name) ↔
      server.methods.contains name = true := by
    rw [MethodRegistry.contains, MethodRegistry.lookup, Dict.get?, Option.isSome_map,
      List.find?_isSome]
    constructor
    · intro ⟨entry, member, named⟩
      refine ⟨entry, member, ?_⟩
      rw [(server.methods.admitted entry member).1, named]
      exact decide_eq_true rfl
    · intro ⟨entry, member, keyed⟩
      refine ⟨entry, member, ?_⟩
      rw [← (server.methods.admitted entry member).1]
      exact of_decide_eq_true keyed
  rw [namesFromManifest, mem_sortedNames, List.map_append, List.mem_append, ← registered]
  show name ∈ (methodBucket server details true).map MethodEntry.name ∨
    name ∈ (methodBucket server details false).map MethodEntry.name ↔ _
  rw [mem_methodBucket, mem_methodBucket]
  cases server.catalog.isEmbedded name <;> simp

end Generation

/-! ## Selection of a handler -/

section Selection

variable {App : Type} [TextCase] [TextOf]

/-- The handler for a pair behind the redirects: an endpoint's, or on its own path a
registered method's. -/
def handlerAt (server : RunningServer App) (agent : AgentDocument)
    (pair : String × String) : Option (EndpointHandler App ⊕ MethodHandler App) :=
  match server.endpoints.lookup pair.1 pair.2 with
  | some entry => entry.2.map .inl
  | none =>
      if server.endpoints.count = 0 ∨ pair.2 = "/" then
        match server.methods.lookup pair.1 with
        | some spec =>
            if agent.acceptsMethod spec.name then spec.handler.map .inr else none
        | none => none
      else none

/-- The handler that the dispatcher has for the agent, the method and the path. Of a
request's gates, those of its claimed scopes, its token and its input are left
out. -/
def handlerFor (server : RunningServer App) (agent : AgentDocument)
    (method path : String) : Option (EndpointHandler App ⊕ MethodHandler App) :=
  let verb := Gates.aliasedMethod server.methodsPolicy (.toRoot method [])
  if Gates.catalogAdmits server verb = true ∧
      PathGrammar.validatePath server.catalog path = .ok () ∧
      Gates.policyAdmits server verb = true then
    handlerAt server agent (Gates.redirected server verb path)
  else none

def EndpointBound (server : RunningServer App) (pair : String × String) : Prop :=
  ∃ spec handler, server.endpoints.lookup pair.1 pair.2 = some (spec, some handler)

/-- The pair falls through to a registered method with a handler that the agent
accepts. -/
def MethodReached (server : RunningServer App) (agent : AgentDocument)
    (pair : String × String) : Prop :=
  server.endpoints.lookup pair.1 pair.2 = none ∧
    (server.endpoints.count = 0 ∨ pair.2 = "/") ∧
    ∃ spec, server.methods.lookup pair.1 = some spec ∧ spec.handler.isSome ∧
      agent.acceptsMethod spec.name = true

/-- The verb that the method is rewritten to passes the catalog and the method
policy, and from some path it is redirected to a pair with a handler. -/
def Offered (server : RunningServer App) (agent : AgentDocument) (method : String) :
    Prop :=
  let verb := Gates.aliasedMethod server.methodsPolicy (.toRoot method [])
  Gates.catalogAdmits server verb = true ∧ Gates.policyAdmits server verb = true ∧
    ∃ path, PathGrammar.validatePath server.catalog path = .ok () ∧
      (EndpointBound server (Gates.redirected server verb path) ∨
        MethodReached server agent (Gates.redirected server verb path))

def Dispatches (server : RunningServer App) (agent : AgentDocument) (method : String) :
    Prop :=
  ∃ path, (handlerFor server agent method path).isSome

theorem handlerAt_isSome_iff {server : RunningServer App} {agent : AgentDocument}
    {pair : String × String} :
    (handlerAt server agent pair).isSome ↔
      EndpointBound server pair ∨ MethodReached server agent pair := by
  unfold handlerAt EndpointBound MethodReached
  cases found : server.endpoints.lookup pair.1 pair.2 with
  | some entry =>
      rcases entry with ⟨spec, handler⟩
      cases handler <;> simp
  | none =>
      by_cases falls : server.endpoints.count = 0 ∨ pair.2 = "/"
      · cases server.methods.lookup pair.1 with
        | none => simp
        | some spec => cases accepted : agent.acceptsMethod spec.name <;> simp [falls, accepted]
      · simp [falls]

theorem handlerFor_isSome_iff {server : RunningServer App} {agent : AgentDocument}
    {method path : String} :
    let verb := Gates.aliasedMethod server.methodsPolicy (.toRoot method [])
    (handlerFor server agent method path).isSome ↔
      (Gates.catalogAdmits server verb = true ∧
        PathGrammar.validatePath server.catalog path = .ok () ∧
        Gates.policyAdmits server verb = true) ∧
        (EndpointBound server (Gates.redirected server verb path) ∨
          MethodReached server agent (Gates.redirected server verb path)) := by
  intro verb
  rw [← handlerAt_isSome_iff]
  show (if _ then _ else none).isSome = true ↔ _
  split
  · next gates => exact (and_iff_right gates).symm
  · next refused =>
      constructor
      · intro none
        cases none
      · intro ⟨gates, _⟩
        exact absurd gates refused

theorem dispatches_iff_offered {server : RunningServer App} {agent : AgentDocument}
    {method : String} : Dispatches server agent method ↔ Offered server agent method := by
  constructor
  · intro ⟨path, dispatched⟩
    rcases handlerFor_isSome_iff.mp dispatched with ⟨⟨catalog, grammar, policy⟩, handled⟩
    exact ⟨catalog, policy, path, grammar, handled⟩
  · intro ⟨catalog, policy, path, grammar, handled⟩
    exact ⟨path, handlerFor_isSome_iff.mpr ⟨⟨catalog, grammar, policy⟩, handled⟩⟩

variable [BodyCodec] [SchemaValidator]

end Selection

/-! ## Truth of the handshake -/

section Truth

variable {App : Type} [TextCase] [TextOf]

/-- Exactly the required methods that the dispatcher has no handler for are reported
missing. -/
def Truthful (server : RunningServer App) (agent : AgentDocument)
    (outcome : MatchOutcome) : Prop :=
  ∀ method ∈ agent.requires.methods,
    method ∈ outcome.missing ↔ ¬Dispatches server agent method

/-- The agent's wildcards are accepted, or the method is registered as the agent
spells it. -/
def Listed (server : RunningServer App) (agent : AgentDocument) (method : String) :
    Prop :=
  (agent.requires.wildcards = true ∧ server.wildcardsAccepted = true) ∨
    server.methods.contains method = true

theorem mem_missing_generate_iff {server : RunningServer App} {agent : AgentDocument}
    {details : String → List (String × Json)} {frame : ServerManifest}
    {policies : PolicyBlock} {method : String}
    (required : method ∈ agent.requires.methods) :
    method ∈ (matchManifest agent (generate server details frame policies)).missing ↔
      ¬Listed server agent method := by
  unfold matchManifest
  rw [mem_missing_iff, mem_namesFromManifest_generate]
  unfold Listed
  simp only [required, true_and, not_or]
  rfl

end Truth

end Agtp

namespace Agtp.HandshakeSamples

open Manifest Handshake
open scoped Plain PlainServing

def noPolicies : ServerManifest where
  agtpVersion := "1.0"
  agtpApiVersion := "1.0"
  documentVersion := "v2"
  catalogVersion := ""
  catalogVersionsSupported := []
  server := ⟨"acme", "Acme", "", [], none, "", ""⟩
  embeddedMethods := []
  customMethods := []
  endpoints := []
  agentDisclosure := "public"
  hostedAgents := []
  agentDisclosureNotice := none
  apis := []
  hostedProtocols := []
  security := none
  assurance := none
  policies := none

def defaultPolicies : PolicyBlock := ⟨true, true, false, true, 10, none⟩

def booker : AgentDocument := .active "booker" ⟨["BOOK"], [], false⟩

end Agtp.HandshakeSamples
