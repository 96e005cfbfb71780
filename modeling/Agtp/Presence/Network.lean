import Agtp.Foundation.Computation
import Agtp.Presence.GossipLaws

/-! # A network of coordinators

Coordinators that announce, withdraw and gossip in any order. An exchange is three steps,
between which anything else may happen; a message may also be lost. Each coordinator has
its own clock. -/

namespace Agtp

namespace Gossip

structure Message (Node : Type u) where
  sender : Node
  receiver : Node
  body : List (String × Json)

structure Network (Node : Type u) where
  coordinators : Node → Coordinator
  clock : Node → ℚ
  requests : List (Message Node)
  replies : List (Message Node)

inductive Action (Node : Type u) where
  | announce (node : Node) (record : PresenceRecord)
  | withdraw (node : Node) (agentId : String)
  | probe (node : Node) (agentId : String)
  | sweep (node : Node)
  | ask (caller peer : Node) (text : String)
  | receive (request : Message Node) (text : String)
  | merge (reply : Message Node) (text : String)
  | lose (message : Message Node)
  | wait (node : Node) (later : ℚ)

def Action.Announces {Node : Type u} (agentId : String) : Action Node → Prop
  | announce _ record => record.agentId = agentId
  | _ => False

namespace Network

variable {Node : Type u}

def store (network : Network Node) (node : Node) : PresenceStore :=
  (network.coordinators node).store

def verify (network : Network Node) (node : Node) : PresenceRecord → Bool :=
  (network.coordinators node).verify

def moment (network : Network Node) (node : Node) (text : String) : Moment :=
  ⟨network.clock node, text⟩

variable [DecidableEq Node]

def setStore (network : Network Node) (node : Node) (store : PresenceStore) :
    Network Node :=
  { network with
    coordinators := fun other =>
      if other = node then { network.coordinators other with store := store }
      else network.coordinators other }

/-! ## The operations -/

variable [Floats] [TextOf] [NumberText]

def swept (network : Network Node) (node : Node) : Network Node :=
  match (network.store node).sweep (network.clock node) with
  | .ok store => network.setStore node store
  | .error _ => network

def asked (network : Network Node) (caller peer : Node) (text : String) : Network Node :=
  match buildReplicateRequest (network.store caller) (network.moment caller text) with
  | (.ok body, store) =>
      { network.setStore caller store with
        requests := ⟨caller, peer, body⟩ :: network.requests }
  | (.error _, store) => network.setStore caller store

/-- The receiver of a request merges it and replies, unless that raises. -/
def received (network : Network Node) (request : Message Node) (text : String) :
    Network Node :=
  match applyReplicate (network.verify request.receiver)
      (network.moment request.receiver text) request.body
      (network.store request.receiver) with
  | (.ok reply, store) =>
      { network.setStore request.receiver store with
        replies := ⟨request.receiver, request.sender, reply⟩ :: network.replies }
  | (.error _, store) => network.setStore request.receiver store

def merged (network : Network Node) (reply : Message Node) (text : String) :
    Network Node :=
  network.setStore reply.receiver
    (mergeReply (network.verify reply.receiver) (network.moment reply.receiver text)
      reply.body (network.store reply.receiver)).2

/-- One thing happens. A message is taken off the network when it arrives. -/
inductive Step : Network Node → Action Node → Network Node → Prop where
  | announce (network : Network Node) (node : Node) (record : PresenceRecord) :
      Step network (.announce node record)
        (network.setStore node ((network.store node).announce record).2)
  | withdraw (network : Network Node) (node : Node) (agentId : String) :
      Step network (.withdraw node agentId)
        (network.setStore node ((network.store node).withdraw agentId).2)
  | probe (network : Network Node) (node : Node) (agentId : String) :
      Step network (.probe node agentId)
        (network.setStore node
          ((network.store node).probe agentId (network.clock node)).2)
  | sweep (network : Network Node) (node : Node) :
      Step network (.sweep node) (network.swept node)
  | ask (network : Network Node) (caller peer : Node) (text : String) :
      Step network (.ask caller peer text) (network.asked caller peer text)
  | receive (network : Network Node) (request : Message Node) (text : String)
      (before after : List (Message Node))
      (arrives : network.requests = before ++ request :: after) :
      Step network (.receive request text)
        ({ network with requests := before ++ after }.received request text)
  | merge (network : Network Node) (reply : Message Node) (text : String)
      (before after : List (Message Node))
      (arrives : network.replies = before ++ reply :: after) :
      Step network (.merge reply text)
        ({ network with replies := before ++ after }.merged reply text)
  | loseRequest (network : Network Node) (request : Message Node)
      (before after : List (Message Node))
      (sent : network.requests = before ++ request :: after) :
      Step network (.lose request) { network with requests := before ++ after }
  | loseReply (network : Network Node) (reply : Message Node)
      (before after : List (Message Node))
      (sent : network.replies = before ++ reply :: after) :
      Step network (.lose reply) { network with replies := before ++ after }
  | wait (network : Network Node) (node : Node) (later : ℚ)
      (passes : network.clock node ≤ later) :
      Step network (.wait node later)
        { network with clock := Function.update network.clock node later }

def Present (network : Network Node) (node : Node) (agentId : String) : Prop :=
  ∃ record, ((network.store node).probe agentId (network.clock node)).1 =
    .ok (some record)

end Network

end Gossip

end Agtp
