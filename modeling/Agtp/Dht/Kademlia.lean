import Agtp.Dht.Routing
import Agtp.Foundation.ById
import Agtp.Foundation.Platform
import Agtp.Foundation.Loop

/-! # A node of the overlay

Its routing table, the iterative lookup over peers that answer by a call from outside,
and joining the network. -/

namespace Agtp

abbrev Rpc (World : Type) := World → NodeInfo → String → Option (List NodeInfo) × World

def safeRpc {World : Type} (rpc : Rpc World) (world : World) (node : NodeInfo) (key : String) :
    List NodeInfo × World :=
  ((rpc world node key).1.getD [], (rpc world node key).2)

structure KademliaNode where
  info : NodeInfo
  k : Nat
  alpha : Nat
  table : RoutingTable

abbrev Shortlist := ById NodeInfo.nodeId

structure Walk (World : Type) where
  node : KademliaNode
  shortlist : Shortlist
  queried : List String
  exclude : List String
  world : World

structure Located (World : Type) where
  found : List NodeInfo
  node : KademliaNode
  world : World

abbrev Unbounded := ExceptT DhtFault Option

def addTo (set : List String) (nodeId : String) : List String :=
  if nodeId ∈ set then set else set ++ [nodeId]

namespace KademliaNode

variable [TextCase] [HexText] {World : Type}

def new (nodeId host : String) (port : Int) (k alpha : Nat) : KademliaNode :=
  ⟨⟨nodeId, host, port⟩, k, alpha, .new nodeId k⟩

def observe (node : KademliaNode) (peer : NodeInfo) : Except DhtFault KademliaNode := do
  if peer.nodeId ≠ node.info.nodeId then
    let (table, _) ← node.table.addNode peer
    return { node with table }
  return node

def handleLocate (node : KademliaNode) (key : String) (fromNode : Option NodeInfo) :
    Except DhtFault (List NodeInfo × KademliaNode) := do
  let node ← match fromNode with
    | some peer => node.observe peer
    | none => .ok node
  return (← node.table.closest key (some node.k), node)

def closest (nodes : List NodeInfo) (key : String) (count : Nat) :
    Except DhtFault (List NodeInfo) :=
  closestOf (ById.ofList nodes : Shortlist).values key count

/-! ## The lookup -/

def learn (walk : Walk World) (answer : NodeInfo) : Except DhtFault (Walk World) := do
  let node ← walk.node.observe answer
  if answer.nodeId ≠ node.info.nodeId ∧ answer.nodeId ∉ walk.shortlist.ids ∧
      answer.nodeId ∉ walk.exclude then
    return { walk with node, shortlist := walk.shortlist.put answer }
  return { walk with node }

def query (rpc : Rpc World) (key : String) (walk : Walk World) (peer : NodeInfo) :
    Except DhtFault (Walk World) :=
  let (answers, world) := safeRpc rpc walk.world peer key
  answers.foldlM learn { walk with
    queried := addTo walk.queried peer.nodeId
    exclude := addTo walk.exclude peer.nodeId
    world }

def pass (rpc : Rpc World) (key : String) (walk : Walk World) :
    Except DhtFault (Option (Walk World)) := do
  let topk ← closest walk.shortlist.values key walk.node.k
  let unqueried := topk.filter fun node => node.nodeId ∉ walk.queried
  if unqueried = [] then return none
  return some (← (unqueried.take walk.node.alpha).foldlM (query rpc key) walk)

def seeded (node : KademliaNode) (key : String) (exclude : List String) (world : World) :
    Except DhtFault (Walk World) := do
  let seeds ← node.table.closest key (some node.k)
  return {
    node
    shortlist := ById.ofList (seeds.filter fun seed => seed.nodeId ∉ exclude)
    queried := []
    exclude
    world }

def lookup (depth : Nat) (rpc : Rpc World) (node : KademliaNode) (key : String)
    (exclude : List String) (world : World) : Unbounded (Walk World) := do
  let walk ← seeded node key exclude world
  ExceptT.mk (Loop.run (pass rpc key) depth walk)

def countOf (node : KademliaNode) (count : Option Nat) : Nat :=
  match count with
  | none | some 0 => node.k
  | some count => count

def iterativeLocate (depth : Nat) (rpc : Rpc World) (node : KademliaNode) (key : String)
    (count : Option Nat) (world : World) : Unbounded (Located World) := do
  let walk ← lookup depth rpc node key [] world
  return ⟨← closest walk.shortlist.values key (walk.node.countOf count), walk.node, walk.world⟩

/-! ## Disjoint paths -/

structure Paths (World : Type) where
  node : KademliaNode
  used : List String
  merged : Shortlist
  world : World

def Paths.join (paths : Paths World) (walk : Walk World) : Paths World where
  node := walk.node
  used := (walk.shortlist.values.map NodeInfo.nodeId).foldl addTo walk.exclude
  merged := paths.merged.putAll walk.shortlist.values
  world := walk.world

def path (depth : Nat) (rpc : Rpc World) (key : String) (paths : Paths World) :
    Unbounded (Paths World) := do
  let walk ← lookup depth rpc paths.node key paths.used paths.world
  return paths.join walk

def paths (depth : Nat) (rpc : Rpc World) (key : String) :
    Nat → Paths World → Unbounded (Paths World)
  | 0, state => return state
  | number + 1, state => do
      let before ← paths depth rpc key number state
      path depth rpc key before

def iterativeLocateDisjoint (depth : Nat) (rpc : Rpc World) (node : KademliaNode)
    (key : String) (disjoint : Nat) (count : Option Nat) (world : World) :
    Unbounded (Located World) := do
  let state ← paths depth rpc key (max 1 disjoint) ⟨node, [], .empty, world⟩
  return ⟨← closest state.merged.values key (state.node.countOf count), state.node, state.world⟩

/-! ## Joining -/

def refreshKey [Digest] (nodeId : String) (index : Nat) : String :=
  Digest.sha256 (nodeId ++ ":refresh:" ++ toString index).toUTF8.toList

def refreshKeys [Digest] (node : KademliaNode) (refresh : Nat) : List String :=
  node.info.nodeId :: (List.range refresh).map (refreshKey node.info.nodeId)

def refreshed (depth : Nat) (rpc : Rpc World) (state : KademliaNode × World) (key : String) :
    Unbounded (KademliaNode × World) := do
  let located ← iterativeLocate depth rpc state.1 key none state.2
  return (located.node, located.world)

def bootstrap [Digest] (depth : Nat) (rpc : Rpc World) (node : KademliaNode)
    (seeds : List NodeInfo) (refresh : Nat) (world : World) :
    Unbounded (Nat × KademliaNode × World) := do
  let joined ← (seeds.foldlM observe node : Except DhtFault KademliaNode)
  let (joined, world) ← (joined.refreshKeys refresh).foldlM (refreshed depth rpc) (joined, world)
  return (joined.table.length, joined, world)

end KademliaNode

end Agtp
