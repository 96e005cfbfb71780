import Agtp.Dht.QueryLog

/-! # Lookups in an honest network

Every peer answers with the nearest of the peers that it knows. -/

namespace Agtp

open Distance (toInt xorDistance bucketIndex)

section

variable [TextCase] [HexText]

/-! ## Distinct ids -/

/-- The peers have different 256-bit ids. -/
structure DistinctIds (peers : List NodeInfo) : Prop where
  read : ∀ peer ∈ peers, ∃ value, toInt peer.nodeId = .ok value ∧ 0 ≤ value ∧ value < 2 ^ 256
  apart : ∀ left ∈ peers, ∀ right ∈ peers, toInt left.nodeId = toInt right.nodeId → left = right

theorem distinctIds_of_values {peers : List NodeInfo} {values : List Int}
    (read : peers.map (fun peer => toInt peer.nodeId) = values.map .ok)
    (range : ∀ value ∈ values, 0 ≤ value ∧ value < 2 ^ 256) (nodup : values.Nodup) :
    DistinctIds peers where
  read peer member := by
    have listed : toInt peer.nodeId ∈ peers.map fun peer => toInt peer.nodeId :=
      List.mem_map.mpr ⟨peer, member, rfl⟩
    rw [read] at listed
    rcases List.mem_map.mp listed with ⟨value, inside, same⟩
    exact ⟨value, same.symm, range value inside⟩
  apart left leftMember right rightMember same := by
    have distinct : (peers.map fun peer => toInt peer.nodeId).Nodup := by
      rw [read]
      exact nodup.map fun _ _ => Except.ok.inj
    exact List.inj_on_of_nodup_map distinct leftMember rightMember same

omit [TextCase] [HexText] in
theorem log2_xor_le {left right : Int} (leftRange : 0 ≤ left ∧ left < 2 ^ 256)
    (rightRange : 0 ≤ right ∧ right < 2 ^ 256) : Nat.log2 (Int.xor left right).natAbs ≤ 255 := by
  cases left with
  | negSucc left => exact absurd leftRange.1 (by omega)
  | ofNat left =>
      cases right with
      | negSucc right => exact absurd rightRange.1 (by omega)
      | ofNat right =>
          have below : left ^^^ right < 2 ^ 256 := by
            apply Nat.xor_lt_two_pow
            · exact Int.ofNat_lt.mp leftRange.2
            · exact Int.ofNat_lt.mp rightRange.2
          change Nat.log2 (left ^^^ right) ≤ 255
          by_cases same : left ^^^ right = 0
          · rw [same]
            decide
          · have := (Nat.log2_lt same).mpr below
            omega

namespace DistinctIds

variable {peers : List NodeInfo}

theorem takes (distinct : DistinctIds peers) {own peer : NodeInfo} (ownListed : own ∈ peers)
    (listed : peer ∈ peers) : RoutingTable.Takes own.nodeId peer.nodeId := by
  rcases distinct.read own ownListed with ⟨first, ownRead, ownRange⟩
  rcases distinct.read peer listed with ⟨second, read, range⟩
  refine .inr ⟨if Int.xor first second = 0 then -1 else Nat.log2 (Int.xor first second).natAbs,
    ?_, ?_⟩
  · rw [bucketIndex, Distance.xorDistance_of_toInt ownRead read]
    rfl
  · have := log2_xor_le ownRange range
    split <;> omega

theorem measured (distinct : DistinctIds peers) {key : String} {target : Int}
    (keyRead : toInt key = .ok target) {peer : NodeInfo} (listed : peer ∈ peers) :
    Measured key peer := by
  rcases distinct.read peer listed with ⟨value, read, _⟩
  exact ⟨_, Distance.xorDistance_of_toInt read keyRead⟩

theorem fits (distinct : DistinctIds peers) {key : String} {target : Int}
    (keyRead : toInt key = .ok target) {own : NodeInfo} (listed : own ∈ peers) :
    KademliaNode.Fits own.nodeId key (· ∈ peers) where
  takes _ := distinct.takes listed
  measured _ member _ := distinct.measured keyRead member

theorem eq_of_distance (distinct : DistinctIds peers) {key : String} {target : Int}
    (keyRead : toInt key = .ok target) {left right : NodeInfo} (leftListed : left ∈ peers)
    (rightListed : right ∈ peers) (same : distanceTo key left = distanceTo key right) :
    left = right := by
  rcases distinct.read left leftListed with ⟨first, leftRead, _⟩
  rcases distinct.read right rightListed with ⟨second, rightRead, _⟩
  rw [distanceTo_of_toInt leftRead keyRead, distanceTo_of_toInt rightRead keyRead] at same
  have equal := Distance.xor_left_injective same
  exact distinct.apart left leftListed right rightListed
    (leftRead.trans (equal ▸ rightRead.symm))

theorem eq_of_distance_le (distinct : DistinctIds peers) {peer target : NodeInfo}
    (listed : peer ∈ peers) (targetListed : target ∈ peers)
    (near : distanceTo target.nodeId peer ≤ distanceTo target.nodeId target) :
    peer = target := by
  rcases distinct.read target targetListed with ⟨second, targetRead, targetRange⟩
  rcases distinct.read peer listed with ⟨first, read, range⟩
  apply distinct.eq_of_distance targetRead listed targetListed
  have nonneg := Distance.xor_nonneg range.1 targetRange.1
  rw [distanceTo_of_toInt read targetRead, distanceTo_of_toInt targetRead targetRead,
    Distance.xor_self] at near ⊢
  exact le_antisymm near nonneg

theorem eq_of_nodeId (distinct : DistinctIds peers) {left right : NodeInfo}
    (leftListed : left ∈ peers) (rightListed : right ∈ peers)
    (same : left.nodeId = right.nodeId) : left = right :=
  distinct.apart left leftListed right rightListed (congrArg toInt same)

end DistinctIds

end

/-! ## Honest networks -/

/-- The nodes behind the peers, and how the world changes when one of them learns of
whoever asks it. -/
structure PeerNetwork (World : Type) where
  nodeAt : World → NodeInfo → KademliaNode
  changed : World → NodeInfo → KademliaNode → World

namespace PeerNetwork

variable [TextCase] [HexText] {World : Type}

def rpc (network : PeerNetwork World) (asker : NodeInfo) : Rpc World :=
  fun world peer key =>
    match (network.nodeAt world peer).handleLocate key (some asker) with
    | .ok (nearest, after) => (some nearest, network.changed world peer after)
    | .error _ => (none, world)

def Knows (network : PeerNetwork World) (peers : List NodeInfo) : Prop :=
  ∀ world peer, ∀ held ∈ (network.nodeAt world peer).table.allNodes, held ∈ peers

theorem within_rpc {network : PeerNetwork World} {peers : List NodeInfo}
    (knows : network.Knows peers) {asker : NodeInfo} (listed : asker ∈ peers) :
    KademliaNode.Within (network.rpc asker) (· ∈ peers) := by
  intro world peer key answers answered answer member
  cases served : (network.nodeAt world peer).handleLocate key (some asker) with
  | error fault =>
      rw [rpc, served] at answered
      cases answered
  | ok result =>
      rcases result with ⟨nearest, after⟩
      rw [rpc, served] at answered
      cases answered
      rcases Fallible.ok_of_bind served with ⟨observer, observed, located⟩
      rcases Fallible.ok_of_bind located with ⟨closest, sorted, returned⟩
      cases returned
      rcases KademliaNode.mem_of_observe observed (mem_of_closestOf sorted member) with
        rfl | held
      · exact listed
      · exact knows world peer answer held

end PeerNetwork

namespace KademliaNode

variable [TextCase] [HexText] {World : Type}

/-! ## What a lookup discovers -/

def Discovered (node : KademliaNode) (log : QueryLog) (peer : NodeInfo) : Prop :=
  peer ∈ node.table.allNodes ∨
    peer.nodeId ≠ node.info.nodeId ∧ ∃ query ∈ log, peer ∈ query.2

/-- The nearest of the discovered peers, from near to far. -/
structure NearestDiscovered (node : KademliaNode) (key : String) (log : QueryLog)
    (found : List NodeInfo) : Prop where
  discovered : ∀ peer ∈ found, node.Discovered log peer
  ordered : found.Pairwise fun left right => distanceTo key left < distanceTo key right
  bounded : found.length ≤ node.k
  /-- What is missing is farther than all that is there. -/
  nearest : ∀ peer, node.Discovered log peer → peer ∈ found ∨
    found.length = node.k ∧ ∀ near ∈ found, distanceTo key near < distanceTo key peer

section

variable {node : KademliaNode} {key : String} {peers : List NodeInfo}
  {walk : Walk (World × QueryLog)}

theorem listed_of_discovered (distinct : DistinctIds peers) (settled : node.Settled (· ∈ peers))
    {target : Int} (keyRead : Distance.toInt key = .ok target)
    (good : Good node (· ∈ peers) walk) (logs : Logs node key (· ∈ peers) walk)
    {peer : NodeInfo}
    (discovered : node.Discovered walk.world.2 peer) :
    peer ∈ walk.shortlist.values ∨ (seeds node key).length = node.k ∧
      ∀ seed ∈ seeds node key, distanceTo key seed < distanceTo key peer := by
  rcases discovered with held | ⟨other, query, asked, inside⟩
  · by_cases seed : peer ∈ seeds node key
    · exact .inl (logs.seeded peer seed)
    · rcases Nearest.full_of_left_out held seed with ⟨full, near⟩
      refine .inr ⟨full, fun closer member => ?_⟩
      have closerHeld := Nearest.mem_of_nearest member
      have apart : distanceTo key closer ≠ distanceTo key peer := fun same =>
        seed (distinct.eq_of_distance keyRead (settled.known closer closerHeld)
          (settled.known peer held) same ▸ member)
      have below := near closer member
      omega
  · rcases (logs.covers query asked peer inside).resolve_left other |> ById.mem_ids.mp with
      ⟨listed, member, same⟩
    have equal := distinct.eq_of_nodeId (good.listed listed member).1
      (logs.named query asked peer inside) same
    exact .inl (equal ▸ member)

theorem nearestDiscovered (distinct : DistinctIds peers) (settled : node.Settled (· ∈ peers))
    {target : Int} (keyRead : Distance.toInt key = .ok target)
    (good : Good node (· ∈ peers) walk) (logs : Logs node key (· ∈ peers) walk) :
    NearestDiscovered node key walk.world.2
      (Nearest.nearest (distanceTo key) node.k walk.shortlist.values) where
  discovered peer near := by
    have member := Nearest.mem_of_nearest near
    rcases logs.listed peer member with seed | answered
    · exact .inl (Nearest.mem_of_nearest seed)
    · exact .inr ⟨(good.listed peer member).2, answered⟩
  ordered := by
    have nodup : (Nearest.nearest (distanceTo key) node.k walk.shortlist.values).Nodup :=
      .of_map NodeInfo.nodeId (Nearest.nodup_nearest walk.shortlist.distinct)
    refine ((Nearest.ordered_nearest _ _ _).and nodup).imp_of_mem ?_
    intro left right leftNear rightNear ⟨ordered, different⟩
    have apart : distanceTo key left ≠ distanceTo key right := fun same =>
      different (distinct.eq_of_distance keyRead
        (good.listed left (Nearest.mem_of_nearest leftNear)).1
        (good.listed right (Nearest.mem_of_nearest rightNear)).1 same)
    omega
  bounded := by
    rw [Nearest.length_nearest]
    omega
  nearest peer discovered := by
    rcases listed_of_discovered distinct settled keyRead good logs discovered with
      member | ⟨full, closer⟩
    · by_cases near : peer ∈ Nearest.nearest (distanceTo key) node.k walk.shortlist.values
      · exact .inl near
      · rcases Nearest.full_of_left_out member near with ⟨full, closer⟩
        refine .inr ⟨full, fun other otherNear => ?_⟩
        have apart : distanceTo key other ≠ distanceTo key peer := fun same =>
          near (distinct.eq_of_distance keyRead
            (good.listed other (Nearest.mem_of_nearest otherNear)).1
            (good.listed peer member).1 same ▸ otherNear)
        have below := closer other otherNear
        omega
    · -- the seeds fill the result with nearer peers
      have seeded : (seeds node key).Nodup :=
        .of_map NodeInfo.nodeId (Nearest.nodup_nearest settled.sound.table.distinct)
      have room : node.k ≤ walk.shortlist.values.length := by
        rw [← full]
        exact (List.subperm_of_subset seeded logs.seeded).length_le
      refine .inr ⟨by rw [Nearest.length_nearest]; omega, fun near member => ?_⟩
      by_contra far
      refine Nearest.not_mem_nearest_of_many seeded (ge_of_eq full) (fun seed inside => ?_) member
      have below := closer seed inside
      exact ⟨logs.seeded seed inside, by omega⟩

end

/-! ## The lookup -/

/-- Among peers that answer with the nearest that they know, and that have different
ids, a lookup ends; it queries nobody twice, and returns the nearest of all that it
discovered, from near to far, each of them queried. -/
theorem iterativeLocate_correct {network : PeerNetwork World} {peers : List NodeInfo}
    {node : KademliaNode} (distinct : DistinctIds peers) (knows : network.Knows peers)
    (settled : node.Settled (· ∈ peers)) (listed : node.info ∈ peers) (alpha : 0 < node.alpha)
    {key : String} (keyRead : Fallible.Succeeds (Distance.toInt key)) (world : World)
    {depth : Nat} (enough : peers.length < depth) :
    ∃ found after later log,
      (iterativeLocate depth (network.rpc node.info) node key none world).run =
        some (.ok ⟨found, after, later⟩) ∧
      (iterativeLocate depth (logged (network.rpc node.info)) node key none (world, [])).run =
        some (.ok ⟨found, after, (later, log)⟩) ∧
      (log.map fun query => query.1.nodeId).Nodup ∧
      NearestDiscovered node key log found ∧
      ∀ peer ∈ found, ∃ query ∈ log, query.1 = peer := by
  rcases keyRead with ⟨target, keyRead⟩
  have fits := distinct.fits keyRead listed
  have within := network.within_rpc knows listed
  have finite : ∀ peer, peer ∈ peers → peer.nodeId ∈ peers.map NodeInfo.nodeId :=
    fun _ => List.mem_map_of_mem
  rcases logs_of_lookup fits within settled finite alpha world
      (List.length_map NodeInfo.nodeId ▸ enough) with
    ⟨walk, ended, good, tracked, logs, done⟩
  have sorted (count : Nat) := closest_shortlist good fits count
  refine ⟨_, walk.node, walk.world.1, walk.world.2, ?_, locate_of_lookup ended (sorted _), ?_,
    ?_, ?_⟩
  · have unlogged := lookup_unlogged depth (network.rpc node.info) node key [] (world, [])
    rw [ended] at unlogged
    exact locate_of_lookup unlogged (sorted _)
  · rw [← logs.queried]
    exact tracked.distinct
  · rw [countOf, good.settings.k]
    exact nearestDiscovered distinct settled keyRead good logs
  · intro peer near
    have member := Nearest.mem_of_nearest near
    -- a nearest peer that was not queried would be in the next batch
    have queried : peer.nodeId ∈ walk.queried := by
      by_contra new
      have next : peer ∈ unqueried key walk :=
        List.mem_filter.mpr ⟨near, by simpa using new⟩
      rw [done] at next
      cases next
    rw [logs.queried] at queried
    rcases List.mem_map.mp queried with ⟨query, asked, same⟩
    exact ⟨query, asked, distinct.eq_of_nodeId
      (good.listed _ (logs.asked query asked)).1 (good.listed peer member).1 same⟩

end KademliaNode

namespace LookupSamples

open scoped Plain
open KademliaNode RoutingTable

def idOf (digit : Char) : String := String.ofList (List.replicate 63 '0' ++ [digit])

def peerAt (digit : Char) : NodeInfo := ⟨idOf digit, "localhost", 4480⟩

def knowing (own other : Char) (index : Int) : KademliaNode :=
  ⟨peerAt own, 20, 3, idOf own, 20, Dict.empty.set index ⟨20, [peerAt other]⟩⟩

def peers : List NodeInfo := [peerAt '0', peerAt '1', peerAt '2']

def network : PeerNetwork Unit where
  nodeAt _ peer := if peer = peerAt '2' then knowing '2' '1' 1 else new peer.nodeId "" 0 20 3
  changed _ _ _ := ()

theorem toInt_ofList {digits : List Char} (value : Nat)
    (plain : ((digits.dropWhile Text.isSpace).reverse.dropWhile
      Text.isSpace).reverse.map Char.toLower = digits)
    (length : digits.length = 64)
    (read : digits.foldlM (fun value digit =>
      (Plain.hexDigit digit).map fun last => 16 * value + last) 0 = some value) :
    Distance.toInt (String.ofList digits) = .ok value := by
  have text : lower (Text.strip (String.ofList digits)) = String.ofList digits := by
    change Text.asciiLower (Text.strip (String.ofList digits)) = _
    rw [Text.asciiLower, Text.strip, String.toList_ofList, String.toList_ofList, plain]
  have number : HexText.ofHex (String.ofList digits) = some (value : Int) := by
    simp only [HexText.ofHex, String.toList_ofList, read, Option.map_some, Int.ofNat_eq_natCast]
  have long : (String.ofList digits).length = Distance.idHexLength := by
    rw [← String.length_toList, String.toList_ofList, length]
    rfl
  rw [Distance.toInt, text, number]
  exact if_neg (not_not_intro long)

theorem toInt_zero : Distance.toInt (idOf '0') = .ok 0 :=
  toInt_ofList 0 (by decide +kernel) (by decide +kernel) (by decide +kernel)

theorem toInt_one : Distance.toInt (idOf '1') = .ok 1 :=
  toInt_ofList 1 (by decide +kernel) (by decide +kernel) (by decide +kernel)

theorem toInt_two : Distance.toInt (idOf '2') = .ok 2 :=
  toInt_ofList 2 (by decide +kernel) (by decide +kernel) (by decide +kernel)

theorem distinct_peers : DistinctIds peers := by
  have read : peers.map (fun peer => Distance.toInt peer.nodeId) = [0, 1, 2].map .ok := by
    simp only [peers, peerAt, List.map_cons, List.map_nil, toInt_zero, toInt_one, toInt_two]
  exact distinctIds_of_values read (by decide) (by decide)

theorem mem_knowing {own other : Char} {index : Int} {peer : NodeInfo}
    (held : peer ∈ (knowing own other index).table.allNodes) : peer = peerAt other :=
  List.mem_singleton.mp held

theorem knows_peers : network.Knows peers := by
  intro world peer held member
  by_cases second : peer = peerAt '2'
  · have node : network.nodeAt world peer = knowing '2' '1' 1 := if_pos second
    rw [node] at member
    rw [mem_knowing member]
    decide
  · have node : network.nodeAt world peer = new peer.nodeId "" 0 20 3 := if_neg second
    rw [node] at member
    cases member

theorem settled_node : (knowing '0' '2' 1).Settled (· ∈ peers) := by
  have placed : RoutingTable.Placed (knowing '0' '2' 1).table 1 ⟨20, [peerAt '2']⟩ := by
    refine ⟨by decide, rfl, ⟨List.nodup_singleton _, by decide⟩, fun node member => ?_⟩
    rw [List.mem_singleton.mp member]
    have distance := Distance.xorDistance_of_toInt toInt_zero toInt_two
    change Distance.bucketIndex (idOf '0') (idOf '2') = .ok 1
    rw [Distance.bucketIndex, distance]
    rfl
  refine ⟨⟨rfl, rfl, RoutingTable.sound_single placed rfl⟩, fun peer held => ?_⟩
  rw [mem_knowing held]
  decide

theorem near_located :
    ∃ found after later log,
      (iterativeLocate 4 (network.rpc (peerAt '0')) (knowing '0' '2' 1) (idOf '1') none ()).run =
        some (.ok ⟨found, after, later⟩) ∧
      (iterativeLocate 4 (logged (network.rpc (peerAt '0'))) (knowing '0' '2' 1) (idOf '1') none
        ((), [])).run = some (.ok ⟨found, after, (later, log)⟩) ∧
      (log.map fun query => query.1.nodeId).Nodup ∧
      NearestDiscovered (knowing '0' '2' 1) (idOf '1') log found ∧
      ∀ peer ∈ found, ∃ query ∈ log, query.1 = peer :=
  iterativeLocate_correct distinct_peers knows_peers settled_node (by decide) (by decide)
    ⟨1, toInt_one⟩ () (by decide)

end LookupSamples

end Agtp
