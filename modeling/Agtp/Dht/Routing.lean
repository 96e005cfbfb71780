import Agtp.Dht.Distance
import Agtp.Foundation.Dict
import Agtp.Foundation.Fallible
import Agtp.Foundation.Nearest

/-! # The routing table

The peers that a node knows, in buckets by the highest bit in which their id differs from the
node's own. -/

namespace Agtp

structure NodeInfo where
  nodeId : String
  host : String
  port : Int
deriving DecidableEq

inductive DhtFault where
  | invalidNodeID (cause : Distance.InvalidNodeID)
  /-- "list index out of range" -/
  | index
deriving DecidableEq

namespace DhtFault

def reading (outcome : Except Distance.InvalidNodeID Value) : Except DhtFault Value :=
  outcome.mapError invalidNodeID

@[simp] theorem reading_ok (value : Value) :
    reading (.ok value) = .ok value := rfl

theorem ok_of_reading {outcome : Except Distance.InvalidNodeID Value} {value : Value}
    (read : reading outcome = .ok value) : outcome = .ok value := by
  cases outcome with
  | error => cases read
  | ok => cases read; rfl

end DhtFault

/-! ## Buckets -/

structure KBucket where
  k : Nat
  nodes : List NodeInfo

namespace KBucket

def contains (bucket : KBucket) (nodeId : String) : Bool :=
  bucket.nodes.any fun existing => existing.nodeId = nodeId

def add (bucket : KBucket) (node : NodeInfo) :
    Except DhtFault (KBucket × Option NodeInfo) :=
  if bucket.contains node.nodeId then
    -- seen again: the peer moves to the end
    .ok ({ bucket with
      nodes := (bucket.nodes.eraseP fun existing => existing.nodeId = node.nodeId) ++ [node] },
      none)
  else if bucket.nodes.length < bucket.k then
    .ok ({ bucket with nodes := bucket.nodes ++ [node] }, none)
  else
    match bucket.nodes with
    | [] => .error .index
    | oldest :: _ => .ok (bucket, some oldest)

theorem mem_of_add {bucket after : KBucket} {node other : NodeInfo}
    {candidate : Option NodeInfo} (added : bucket.add node = .ok (after, candidate))
    (member : other ∈ after.nodes) : other = node ∨ other ∈ bucket.nodes := by
  rw [add] at added
  split at added
  · cases added
    rcases List.mem_append.mp member with kept | single
    · exact .inr (List.eraseP_subset kept)
    · exact .inl (List.mem_singleton.mp single)
  · split at added
    · cases added
      rcases List.mem_append.mp member with kept | single
      · exact .inr kept
      · exact .inl (List.mem_singleton.mp single)
    · split at added
      · cases added
      · cases added
        exact .inr member

/-- The bucket's peers differ, and there are no more than it has room for. -/
structure Sound (bucket : KBucket) : Prop where
  distinct : (bucket.nodes.map NodeInfo.nodeId).Nodup
  bounded : bucket.nodes.length ≤ bucket.k

theorem notMem_eraseP {nodes : List NodeInfo} {nodeId : String}
    (distinct : (nodes.map NodeInfo.nodeId).Nodup) :
    nodeId ∉ (nodes.eraseP fun existing => existing.nodeId = nodeId).map NodeInfo.nodeId := by
  induction nodes with
  | nil => exact List.not_mem_nil
  | cons first rest induction =>
      rw [List.map_cons, List.nodup_cons] at distinct
      by_cases same : first.nodeId = nodeId
      · rw [List.eraseP_cons_of_pos (by simpa using same), ← same]
        exact distinct.1
      · rw [List.eraseP_cons_of_neg (by simpa using same), List.map_cons, List.mem_cons, not_or]
        exact ⟨fun equal => same equal.symm, induction distinct.2⟩

structure Added (bucket : KBucket) (node : NodeInfo) (after : KBucket) : Prop where
  room : after.k = bucket.k
  sound : after.Sound
  /-- No peer is dropped but for the one that is seen again. -/
  keeps : ∀ other ∈ bucket.nodes, other ∈ after.nodes ∨ other.nodeId = node.nodeId ∧
    node ∈ after.nodes

theorem added_of_add {bucket : KBucket} (node : NodeInfo) (room : 0 < bucket.k)
    (sound : bucket.Sound) :
    ∃ after candidate, bucket.add node = .ok (after, candidate) ∧ Added bucket node after := by
  rw [add]
  split
  · next known =>
      refine ⟨_, _, rfl, rfl, ⟨?_, ?_⟩, ?_⟩
      · rw [List.map_append, List.map_singleton]
        refine (sound.distinct.sublist (List.eraseP_sublist.map NodeInfo.nodeId)).append
          (List.nodup_singleton _) ?_
        intro nodeId left single
        rw [List.mem_singleton.mp single] at left
        exact notMem_eraseP sound.distinct left
      · have present := List.any_eq_true.mp known
        rcases present with ⟨other, held, accepted⟩
        rw [List.length_append, List.length_eraseP_of_mem held accepted, List.length_singleton]
        have some := List.length_pos_of_mem held
        have bounded := sound.bounded
        dsimp only
        omega
      · intro other held
        by_cases same : other.nodeId = node.nodeId
        · exact .inr ⟨same, List.mem_append_right _ List.mem_cons_self⟩
        · refine .inl (List.mem_append_left _ ((List.mem_eraseP_of_neg ?_).mpr held))
          simpa using same
  · next unknown =>
      split
      · next space =>
          refine ⟨_, _, rfl, rfl, ⟨?_, ?_⟩, ?_⟩
          · rw [List.map_append, List.map_singleton]
            refine sound.distinct.append (List.nodup_singleton _) ?_
            intro nodeId left single
            rcases List.mem_map.mp left with ⟨other, held, same⟩
            rw [List.mem_singleton] at single
            apply unknown
            exact List.any_eq_true.mpr ⟨other, held, by simpa using same.trans single⟩
          · rw [List.length_append, List.length_singleton]
            exact space
          · intro other held
            exact .inl (List.mem_append_left _ held)
      · next full =>
          cases nodes : bucket.nodes with
          | nil =>
              rw [nodes] at full
              exact absurd room full
          | cons oldest rest =>
              exact ⟨bucket, some oldest, rfl, rfl, sound, fun _ held => .inl (nodes ▸ held)⟩

end KBucket

/-! ## The table -/

structure RoutingTable where
  nodeId : String
  k : Nat
  buckets : Dict Int KBucket

section

variable [TextCase] [HexText]

open Distance (xorDistance bucketIndex)

/-- Sort by the distance to a key and keep the first. The distances are taken of all
nodes before any is compared. -/
def closestOf (nodes : List NodeInfo) (key : String) (count : Nat) :
    Except DhtFault (List NodeInfo) := do
  let keyed ← Fallible.map
    (fun node => (DhtFault.reading (xorDistance node.nodeId key)).map (·, node)) nodes
  return (Nearest.nearest Prod.fst count keyed).map Prod.snd

def distanceTo (key : String) (node : NodeInfo) : Int :=
  match xorDistance node.nodeId key with
  | .ok distance => distance
  | .error _ => 0

theorem distanceTo_of_toInt {key : String} {node : NodeInfo} {value target : Int}
    (read : Distance.toInt node.nodeId = .ok value) (keyRead : Distance.toInt key = .ok target) :
    distanceTo key node = Int.xor value target := by
  rw [distanceTo, Distance.xorDistance_of_toInt read keyRead]

def Measured (key : String) (node : NodeInfo) : Prop :=
  Fallible.Succeeds (xorDistance node.nodeId key)

theorem xorDistance_of_measured {key : String} {node : NodeInfo} (measured : Measured key node) :
    xorDistance node.nodeId key = .ok (distanceTo key node) := by
  rcases measured with ⟨distance, read⟩
  rw [distanceTo, read]

theorem mem_of_closestOf {nodes nearest : List NodeInfo} {key : String} {count : Nat}
    (sorted : closestOf nodes key count = .ok nearest) {node : NodeInfo}
    (member : node ∈ nearest) : node ∈ nodes := by
  rcases Fallible.ok_of_bind sorted with ⟨keyed, mapped, returned⟩
  cases returned
  rcases List.mem_map.mp member with ⟨pair, near, rfl⟩
  rcases Fallible.mem_of_map mapped (Nearest.mem_of_nearest near) with ⟨origin, held, read⟩
  cases measured : xorDistance origin.nodeId key with
  | error cause =>
      rw [measured] at read
      cases read
  | ok distance =>
      rw [measured] at read
      cases read
      exact held

theorem closestOf_of_measured {nodes : List NodeInfo} {key : String}
    (measured : ∀ node ∈ nodes, Measured key node) (count : Nat) :
    closestOf nodes key count = .ok (Nearest.nearest (distanceTo key) count nodes) := by
  have keyed : Fallible.map
      (fun node => (DhtFault.reading (xorDistance node.nodeId key)).map (·, node)) nodes =
        .ok (nodes.map fun node => (distanceTo key node, node)) :=
    Fallible.map_of_ok fun node member => by
      rw [xorDistance_of_measured (measured node member)]
      rfl
  rw [closestOf, keyed, ← Nearest.nearest_pairs]
  rfl

theorem closestOf_nil (key : String) (count : Nat) : closestOf [] key count = .ok [] :=
  (closestOf_of_measured (fun _ member => absurd member List.not_mem_nil) count).trans
    (congrArg Except.ok List.take_nil)

theorem closestOf_raises {nodes : List NodeInfo} {key : String} {node : NodeInfo}
    (member : node ∈ nodes) (unread : ¬Measured key node) (count : Nat) :
    ∃ fault, closestOf nodes key count = .error fault := by
  cases mapped : Fallible.map
      (fun node => (DhtFault.reading (xorDistance node.nodeId key)).map (·, node)) nodes with
  | error fault =>
      refine ⟨fault, ?_⟩
      rw [closestOf, mapped]
      rfl
  | ok keyed =>
      rcases Fallible.succeeds_map_iff.mp ⟨keyed, mapped⟩ node member with ⟨pair, read⟩
      cases measured : xorDistance node.nodeId key with
      | error cause =>
          rw [measured] at read
          cases read
      | ok distance => exact absurd ⟨distance, measured⟩ unread

namespace RoutingTable

def new (nodeId : String) (k : Nat) : RoutingTable :=
  ⟨nodeId, k, .empty⟩

def bucketAt (table : RoutingTable) (index : Int) : KBucket :=
  (table.buckets.get? index).getD ⟨table.k, []⟩

def bucketFor (table : RoutingTable) (key : String) :
    Except DhtFault (Option (Int × KBucket)) := do
  let index ← DhtFault.reading (bucketIndex table.nodeId key)
  return if index < 0 then none
    else some (index, table.bucketAt index)

theorem bucketFor_of_indexed {table : RoutingTable} {key : String} {index : Int}
    (indexed : bucketIndex table.nodeId key = .ok index) :
    table.bucketFor key = .ok (if index < 0 then none
      else some (index, table.bucketAt index)) := by
  rw [bucketFor, indexed]
  rfl

def addNode (table : RoutingTable) (node : NodeInfo) :
    Except DhtFault (RoutingTable × Option NodeInfo) := do
  if node.nodeId = table.nodeId then return (table, none)
  match ← table.bucketFor node.nodeId with
  | none => return (table, none)
  | some (index, bucket) =>
      let (after, candidate) ← bucket.add node
      return ({ table with buckets := table.buckets.set index after }, candidate)

def allNodes (table : RoutingTable) : List NodeInfo :=
  table.buckets.entries.flatMap fun entry => entry.2.nodes

def closest (table : RoutingTable) (key : String) (count : Option Nat) :
    Except DhtFault (List NodeInfo) :=
  closestOf table.allNodes key (count.getD table.k)

def length (table : RoutingTable) : Nat :=
  (table.buckets.entries.map fun entry => entry.2.nodes.length).sum

/-! ## The invariant -/

structure Placed (table : RoutingTable) (index : Int) (bucket : KBucket) : Prop where
  range : 0 ≤ index ∧ index ≤ 255
  room : bucket.k = table.k
  sound : bucket.Sound
  indexed : ∀ node ∈ bucket.nodes, bucketIndex table.nodeId node.nodeId = .ok index

/-- There are at most 256 buckets, none is overfull, and every peer is once in the
bucket of its distance. -/
def Sound (table : RoutingTable) : Prop :=
  ∀ index bucket, table.buckets.get? index = some bucket → table.Placed index bucket

def Takes (own nodeId : String) : Prop :=
  nodeId = own ∨ ∃ index, bucketIndex own nodeId = .ok index ∧ index ≤ 255

omit [TextCase] [HexText] in
theorem mem_allNodes_iff {table : RoutingTable} {node : NodeInfo} :
    node ∈ table.allNodes ↔
      ∃ index bucket, table.buckets.get? index = some bucket ∧ node ∈ bucket.nodes := by
  rw [allNodes, List.mem_flatMap]
  constructor
  · intro ⟨⟨index, bucket⟩, member, inside⟩
    exact ⟨index, bucket, (table.buckets.get?_eq_some_iff).mpr member, inside⟩
  · intro ⟨index, bucket, held, inside⟩
    exact ⟨(index, bucket), (table.buckets.get?_eq_some_iff).mp held, inside⟩

theorem sound_single {table : RoutingTable} {index : Int} {bucket : KBucket}
    (placed : table.Placed index bucket) (only : table.buckets = Dict.empty.set index bucket) :
    table.Sound := by
  intro other held there
  rw [only] at there
  by_cases same : other = index
  · rw [same, Dict.get?_set_same] at there
    cases there
    rwa [same]
  · rw [Dict.get?_set_other _ same] at there
    cases there

theorem Sound.indexed {table : RoutingTable} (sound : table.Sound) {node : NodeInfo}
    (member : node ∈ table.allNodes) :
    ∃ index, bucketIndex table.nodeId node.nodeId = .ok index ∧ 0 ≤ index ∧ index ≤ 255 := by
  rcases mem_allNodes_iff.mp member with ⟨index, bucket, held, inside⟩
  have placed := sound index bucket held
  exact ⟨index, placed.indexed node inside, placed.range⟩

theorem Sound.takes {table : RoutingTable} (sound : table.Sound) {node : NodeInfo}
    (member : node ∈ table.allNodes) : Takes table.nodeId node.nodeId := by
  rcases sound.indexed member with ⟨index, indexed, _, bounded⟩
  exact .inr ⟨index, indexed, bounded⟩

theorem Sound.ne_own {table : RoutingTable} (sound : table.Sound) {node : NodeInfo}
    (member : node ∈ table.allNodes) : node.nodeId ≠ table.nodeId := by
  intro own
  rcases sound.indexed member with ⟨index, indexed, bounded, _⟩
  rcases (Distance.toInt_of_bucketIndex indexed).1 with ⟨value, read⟩
  rw [own, bucketIndex, Distance.xorDistance_of_toInt read read, Distance.xor_self] at indexed
  cases indexed
  omega

theorem Sound.distinct {table : RoutingTable} (sound : table.Sound) :
    (table.allNodes.map NodeInfo.nodeId).Nodup := by
  rw [allNodes, List.map_flatMap, List.nodup_flatMap]
  constructor
  · intro ⟨index, bucket⟩ member
    exact (sound index bucket (table.buckets.get?_eq_some_iff.mpr member)).sound.distinct
  · have keys := table.buckets.nodup
    rw [List.nodup_iff_pairwise_ne, List.pairwise_map] at keys
    refine keys.imp_of_mem ?_
    intro ⟨left, leftBucket⟩ ⟨right, rightBucket⟩ leftMember rightMember different nodeId
      leftInside rightInside
    rcases List.mem_map.mp leftInside with ⟨first, firstInside, rfl⟩
    rcases List.mem_map.mp rightInside with ⟨second, secondInside, same⟩
    have leftIndexed := (sound left leftBucket
      (table.buckets.get?_eq_some_iff.mpr leftMember)).indexed first firstInside
    have rightIndexed := (sound right rightBucket
      (table.buckets.get?_eq_some_iff.mpr rightMember)).indexed second secondInside
    rw [same, leftIndexed] at rightIndexed
    exact different (Except.ok.inj rightIndexed)

omit [TextCase] [HexText] in
theorem mem_of_bucketAt {table : RoutingTable} {index : Int} {node : NodeInfo}
    (member : node ∈ (table.bucketAt index).nodes) : node ∈ table.allNodes := by
  rw [bucketAt] at member
  cases held : table.buckets.get? index with
  | none =>
      rw [held] at member
      cases member
  | some bucket =>
      rw [held] at member
      exact mem_allNodes_iff.mpr ⟨index, bucket, held, member⟩

theorem mem_of_addNode {table after : RoutingTable} {node other : NodeInfo}
    {candidate : Option NodeInfo} (added : table.addNode node = .ok (after, candidate))
    (member : other ∈ after.allNodes) : other = node ∨ other ∈ table.allNodes := by
  rw [addNode] at added
  split at added
  · cases added
    exact .inr member
  · rcases Fallible.ok_of_bind added with ⟨place, found, stored⟩
    rcases Fallible.ok_of_bind found with ⟨index, _, chosen⟩
    cases chosen
    by_cases negative : index < 0
    · rw [if_pos negative] at stored
      cases stored
      exact .inr member
    · rw [if_neg negative] at stored
      rcases Fallible.ok_of_bind stored with ⟨⟨filled, _⟩, taken, returned⟩
      cases returned
      rcases mem_allNodes_iff.mp member with ⟨place, held, heldThere, inside⟩
      by_cases same : place = index
      · rw [same, Dict.get?_set_same] at heldThere
        cases heldThere
        exact (KBucket.mem_of_add taken inside).imp_right mem_of_bucketAt
      · rw [Dict.get?_set_other _ same] at heldThere
        exact .inr (mem_allNodes_iff.mpr ⟨place, held, heldThere, inside⟩)

structure Took (table : RoutingTable) (node : NodeInfo) (after : RoutingTable) : Prop where
  own : after.nodeId = table.nodeId
  room : after.k = table.k
  sound : after.Sound
  /-- No peer is dropped but for the one that is seen again. -/
  keeps : ∀ other ∈ table.allNodes, other ∈ after.allNodes ∨ other.nodeId = node.nodeId ∧
    node ∈ after.allNodes

theorem took_nothing {table : RoutingTable} (sound : table.Sound) (node : NodeInfo) :
    Took table node table :=
  ⟨rfl, rfl, sound, fun _ => .inl⟩

theorem placed_bucketAt {table : RoutingTable} (sound : table.Sound) {index : Int}
    (range : 0 ≤ index ∧ index ≤ 255) : table.Placed index (table.bucketAt index) := by
  rw [bucketAt]
  cases held : table.buckets.get? index with
  | none => exact ⟨range, rfl, ⟨List.nodup_nil, Nat.zero_le _⟩, fun _ => nofun⟩
  | some bucket => exact sound index bucket held

theorem took_set {table : RoutingTable} {index : Int} {bucket : KBucket} {node : NodeInfo}
    {candidate : Option NodeInfo} (sound : table.Sound) (range : 0 ≤ index ∧ index ≤ 255)
    (indexed : bucketIndex table.nodeId node.nodeId = .ok index)
    (done : (table.bucketAt index).add node = .ok (bucket, candidate))
    (added : KBucket.Added (table.bucketAt index) node bucket) :
    Took table node { table with buckets := table.buckets.set index bucket } := by
  have placed := placed_bucketAt sound range
  refine ⟨rfl, rfl, ?_, ?_⟩
  · intro other held heldThere
    by_cases same : other = index
    · rw [same, Dict.get?_set_same] at heldThere
      cases heldThere
      rw [same]
      refine ⟨range, added.room.trans placed.room, added.sound, ?_⟩
      intro inside member
      rcases KBucket.mem_of_add done member with rfl | before
      · exact indexed
      · exact placed.indexed inside before
    · rw [Dict.get?_set_other _ same] at heldThere
      have before := sound other held heldThere
      exact ⟨before.range, before.room, before.sound, before.indexed⟩
  · intro other member
    rcases mem_allNodes_iff.mp member with ⟨place, held, heldThere, inside⟩
    by_cases same : place = index
    · subst same
      have there : (table.buckets.set place bucket).get? place = some bucket :=
        Dict.get?_set_same _ _ _
      rw [bucketAt, heldThere] at added
      rcases added.keeps other inside with kept | ⟨equal, replaced⟩
      · exact .inl (mem_allNodes_iff.mpr ⟨place, bucket, there, kept⟩)
      · exact .inr ⟨equal, mem_allNodes_iff.mpr ⟨place, bucket, there, replaced⟩⟩
    · refine .inl (mem_allNodes_iff.mpr ⟨place, held, ?_, inside⟩)
      exact (Dict.get?_set_other _ same _).trans heldThere

theorem took_of_takes {table : RoutingTable} (sound : table.Sound) (room : 0 < table.k)
    {node : NodeInfo} (takes : Takes table.nodeId node.nodeId) :
    ∃ after candidate, table.addNode node = .ok (after, candidate) ∧
      Took table node after := by
  rw [addNode]
  split
  · exact ⟨table, none, rfl, took_nothing sound node⟩
  · next notOwn =>
      rcases takes.resolve_left notOwn with ⟨index, indexed, bounded⟩
      rw [bucketFor_of_indexed indexed]
      by_cases negative : index < 0
      · refine ⟨table, none, ?_, took_nothing sound node⟩
        rw [if_pos negative]
        rfl
      · have range : 0 ≤ index ∧ index ≤ 255 := by omega
        have placed := placed_bucketAt sound range
        rcases KBucket.added_of_add node (by rw [placed.room]; exact room) placed.sound with
          ⟨bucket, candidate, done, added⟩
        refine ⟨_, candidate, ?_, took_set sound range indexed done added⟩
        rw [if_neg negative]
        change (KBucket.add _ node >>= _) = _
        rw [done]
        rfl

theorem indexed_of_addNode {table after : RoutingTable} {node : NodeInfo}
    {candidate : Option NodeInfo} (added : table.addNode node = .ok (after, candidate))
    (other : node.nodeId ≠ table.nodeId) :
    ∃ index, bucketIndex table.nodeId node.nodeId = .ok index := by
  rw [addNode, if_neg other] at added
  rcases Fallible.ok_of_bind added with ⟨place, found, _⟩
  rcases Fallible.ok_of_bind found with ⟨index, indexed, _⟩
  exact ⟨index, DhtFault.ok_of_reading indexed⟩

theorem takes_of_addNode {table after : RoutingTable} {node : NodeInfo}
    {candidate : Option NodeInfo} (added : table.addNode node = .ok (after, candidate))
    (sound : after.Sound) : Takes table.nodeId node.nodeId := by
  rw [addNode] at added
  split at added
  · next own => exact .inl own
  · rcases Fallible.ok_of_bind added with ⟨place, found, stored⟩
    rcases Fallible.ok_of_bind found with ⟨index, indexed, chosen⟩
    have indexed := DhtFault.ok_of_reading indexed
    cases chosen
    by_cases negative : index < 0
    · exact .inr ⟨index, indexed, by omega⟩
    · rw [if_neg negative] at stored
      rcases Fallible.ok_of_bind stored with ⟨⟨filled, _⟩, _, returned⟩
      cases returned
      exact .inr ⟨index, indexed, (sound index filled (Dict.get?_set_same _ _ _)).range.2⟩

end RoutingTable

end

end Agtp
