import Agtp.Foundation.Dict
import Agtp.Foundation.Json
import Agtp.Foundation.Text

/-! # Agent documents

The parts of an `AgentDocument` that the request path reads, and the registry of
the agents that a server hosts. -/

namespace Agtp

structure AgentRequires where
  methods : List String
  scopes : List String
  wildcards : Bool

structure AgentDocument where
  agentId : String
  name : String
  status : String
  principalId : String
  requires : AgentRequires
  trustTier : Nat
  policies : List (String × Json)

/-! ## Hosted agents -/

/-- `AgentRegistry.agents`: every document sits under its own agent id. -/
structure AgentRegistry where
  agents : Dict String AgentDocument
  keyed : ∀ entry ∈ agents.entries, entry.1 = entry.2.agentId

namespace AgentRegistry

def lookup (registry : AgentRegistry) (agentId : String) :
    Option AgentDocument :=
  registry.agents.get? agentId

def listIds (registry : AgentRegistry) : List String :=
  registry.agents.keys

def sole (agent : AgentDocument) : AgentRegistry where
  agents := ⟨[(agent.agentId, agent)], by simp⟩
  keyed := by simp

theorem agentId_of_lookup {registry : AgentRegistry} {agentId : String}
    {agent : AgentDocument} (found : registry.lookup agentId = some agent) :
    agent.agentId = agentId := by
  rcases Option.map_eq_some_iff.mp found with ⟨entry, entryFound, value⟩
  have member := List.mem_of_find?_eq_some entryFound
  have key : entry.1 = agentId := by simpa using List.find?_some entryFound
  rw [← value, ← registry.keyed entry member, key]

end AgentRegistry

/-! ## Capability -/

namespace AgentDocument

def active (agentId : String) (requires : AgentRequires) : AgentDocument where
  agentId := agentId
  name := agentId
  status := "active"
  principalId := ""
  requires := requires
  trustTier := 1
  policies := []

def restrictedTo (agent : AgentDocument) (methods : List String) :
    AgentDocument :=
  { agent with requires := ⟨methods, agent.requires.scopes, false⟩ }

variable [TextCase]

def declares (agent : AgentDocument) (method : String) : Bool :=
  (agent.requires.methods.map upper).contains (upper method)

def acceptsMethod (agent : AgentDocument) (method : String) : Bool :=
  agent.requires.wildcards || agent.declares method

end AgentDocument

end Agtp
