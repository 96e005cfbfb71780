import Agtp.Server.Endpoint
import Agtp.Server.OAuth
import Agtp.Synthesis.Runtime

/-! # Server configuration

What a server is configured with at boot: its policies, its endpoint registry and its method
registry. -/

/-! ## Method policy

The `[policies.methods]` block: which methods a server accepts, and the two
tables that rewrite a request. Aliases rewrite the verb ahead of validation;
redirects rewrite method and path after acceptance. -/

namespace Agtp

structure MethodsPolicy where
  allow : List String
  allowAll : Bool
  disallow : List String
  legacy : List String
  /-- Keys are `"METHOD"` or `"METHOD /path"`. -/
  redirects : Dict String (String × Option String)
  aliases : Dict String String

namespace MethodsPolicy

def allowEverything : MethodsPolicy where
  allow := []
  allowAll := true
  disallow := []
  legacy := []
  redirects := .empty
  aliases := .empty

variable [TextCase]

def isMethodAllowed (policy : MethodsPolicy) (method : String) : Bool :=
  if policy.disallow.contains (upper method) then false
  else if policy.legacy.contains (upper method) then true
  else if policy.allowAll then true
  else policy.allow.contains (upper method)

def resolveAlias (policy : MethodsPolicy) (method : String) : Option String :=
  match policy.aliases.get? (upper method) with
  | some target => if target = upper method then none else some target
  | none => none

/-- A redirect of the method at this path is preferred to one of the method
alone. -/
def resolveRedirect (policy : MethodsPolicy) (method path : String) :
    Option (String × String) :=
  let rewritten (target : String × Option String) : String × String :=
    match target with
    | (newMethod, some newPath) =>
        (newMethod, if newPath = "" then path else newPath)
    | (newMethod, none) => (newMethod, path)
  match policy.redirects.get? (upper method ++ " " ++ path) with
  | some target => some (rewritten target)
  | none => (policy.redirects.get? (upper method)).map rewritten

end MethodsPolicy

end Agtp

namespace Agtp

/-! ## Methods -/

structure MethodSpec (Handler : Type) where
  name : String
  requiredParams : List String
  optionalParams : List String
  handler : Option Handler

variable [TextCase]

/-- `REGISTRY`. A method registers under its upper-case name, and only when its
verb is in the catalog. -/
structure MethodRegistry (catalog : Catalog) (Handler : Type) where
  methods : Dict String (MethodSpec Handler)
  admitted : ∀ entry ∈ methods.entries, entry.1 = entry.2.name ∧
    upper entry.1 = entry.1 ∧ catalog.isApprovedVerb entry.1 = true

namespace MethodRegistry

variable {catalog : Catalog} {Handler : Type}

def empty : MethodRegistry catalog Handler :=
  ⟨.empty, fun _ member => absurd member List.not_mem_nil⟩

def single (spec : MethodSpec Handler) (upperCase : upper spec.name = spec.name)
    (approved : catalog.isApprovedVerb spec.name = true) :
    MethodRegistry catalog Handler where
  methods := ⟨[(spec.name, spec)], by simp⟩
  admitted := by simp [upperCase, approved]

def lookup (registry : MethodRegistry catalog Handler) (name : String) :
    Option (MethodSpec Handler) :=
  registry.methods.get? name

def contains (registry : MethodRegistry catalog Handler) (name : String) : Bool :=
  (registry.lookup name).isSome

theorem facts_of_lookup {registry : MethodRegistry catalog Handler}
    {name : String} {spec : MethodSpec Handler}
    (found : registry.lookup name = some spec) :
    spec.name = name ∧ upper name = name ∧ catalog.isApprovedVerb name = true := by
  rcases Option.map_eq_some_iff.mp found with ⟨entry, entryFound, value⟩
  have key : entry.1 = name := by simpa using List.find?_some entryFound
  have facts := registry.admitted entry (List.mem_of_find?_eq_some entryFound)
  rw [key, value] at facts
  exact ⟨facts.1.symm, facts.2⟩

end MethodRegistry

/-! ## Servers -/

/-- `[policies.rcns]`. `durable` is the SQLite state backend. -/
structure RcnsConfig where
  enabled : Bool
  minTrustTier : Nat
  maxNegotiationsPerMinute : Nat
  idempotencyWindowSeconds : Nat
  requireVerifiedIdentity : Bool
  onPolicyChange : String
  durable : Bool

/-- The policies of the synthesis runtime, and the bound on the steps of a
plan. -/
structure SynthesisConfig where
  policies : List CompositionPolicy
  maxDepth : Nat

structure Server [TextOf] (EndpointHandler MethodHandler : Type) where
  catalog : Catalog
  methods : MethodRegistry catalog MethodHandler
  endpoints : EndpointRegistry catalog EndpointHandler
  methodsPolicy : MethodsPolicy
  oauth : Option OAuthConfig
  validators : OAuthValidators
  rcns : RcnsConfig
  synthesis : SynthesisConfig
  softDenyEnabled : Bool
  wildcardsAccepted : Bool
  anonymousDiscovery : Bool
  requireAgentIdMatch : Bool

/-- A server with the default configuration, before any method or endpoint is
registered. -/
def Server.bare [TextOf] (EndpointHandler MethodHandler : Type) :
    Server EndpointHandler MethodHandler where
  catalog := agtpCatalog
  methods := .empty
  endpoints := .empty
  methodsPolicy := .allowEverything
  oauth := none
  validators := fun _ _ => .misconfigured ""
  rcns := {
    enabled := false
    minTrustTier := 1
    maxNegotiationsPerMinute := 10
    idempotencyWindowSeconds := 60
    requireVerifiedIdentity := false
    onPolicyChange := "grandfather"
    durable := false }
  synthesis := ⟨[passthrough], 10⟩
  softDenyEnabled := true
  wildcardsAccepted := true
  anonymousDiscovery := true
  requireAgentIdMatch := true

end Agtp

/-! ## Soft deny

The check that a connection makes between choosing the agent and dispatching. -/

namespace Agtp

/-- Protocol primitives that every agent answers, whatever its document
declares. -/
def softDenyExemptMethods : List String :=
  ["DISCOVER", "DESCRIBE", "DELEGATE", "ESCALATE", "CONFIRM", "SUSPEND",
    "PROPOSE", "NOTIFY"]

variable [TextCase] [TextOf] {EndpointHandler MethodHandler : Type}

/-- A verb that the server does not know passes, so that the dispatcher can
answer for it. -/
def softDenyCheck (server : Server EndpointHandler MethodHandler)
    (method : String) (agent : AgentDocument) : Option ErrorResponse :=
  if softDenyExemptMethods.contains (upper method) then none
  else if !server.methods.contains (upper method) then none
  else if agent.requires.wildcards && !server.wildcardsAccepted &&
      !server.catalog.isEmbedded (upper method) then
    some (Status.wildcardsRefused agent.agentId)
  else if !agent.declares method && !agent.requires.wildcards then
    some (Status.methodNotPermittedForAgent (upper method) agent.agentId)
  else none

end Agtp
