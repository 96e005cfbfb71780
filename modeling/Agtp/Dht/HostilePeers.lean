import Agtp.Dht.LookupCorrectness

/-! # Hostile peers

Whether whatever peers answer a lookup returns, and leaves a sound table. Only the call
itself is guarded: the ids in an answer are read outside of the guard. -/

namespace Agtp

/-- A digest is an id that can be read. -/
class IdDigest [TextCase] [HexText] [Digest] : Prop where
  read : ∀ data, Fallible.Succeeds (Distance.toInt (Digest.sha256 data))

namespace KademliaNode

open RoutingTable (Takes)
open Distance (toInt bucketIndex)

variable [TextCase] [HexText] {World : Type}

abbrev NamesOnly (rpc : Rpc World) (ids : List String) : Prop :=
  Within rpc fun peer => peer.nodeId ∈ ids

abbrev Readable (key : String) : Prop :=
  Fallible.Succeeds (toInt key)

/-- Both lookups and joining return whatever the peers do, with a sound table. -/
structure Withstands [Digest] (node : KademliaNode) (key : String) (ids : List String) :
    Prop where
  locates : ∀ (World : Type) (rpc : Rpc World), NamesOnly rpc ids → ∀ count world,
    ∃ depth located, (iterativeLocate depth rpc node key count world).run = some (.ok located) ∧
      located.node.Sound
  locatesDisjoint : ∀ (World : Type) (rpc : Rpc World), NamesOnly rpc ids →
    ∀ disjoint count world, ∃ depth located,
      (iterativeLocateDisjoint depth rpc node key disjoint count world).run =
        some (.ok located) ∧ located.node.Sound
  joins : ∀ (World : Type) (rpc : Rpc World), NamesOnly rpc ids →
    ∀ seeds : List NodeInfo, (∀ seed ∈ seeds, seed.nodeId ∈ ids) → ∀ refresh world,
      ∃ depth size after later,
        (bootstrap depth rpc node seeds refresh world).run = some (.ok (size, after, later)) ∧
          after.Sound

/-! ## Peers with readable ids -/

section

variable {node : KademliaNode} {key : String} {ids : List String} {rpc : Rpc World}

def Named (node : KademliaNode) (ids : List String) (peer : NodeInfo) : Prop :=
  peer ∈ node.table.allNodes ∨ peer.nodeId ∈ ids

theorem settled_named (sound : node.Sound) : node.Settled (Named node ids) :=
  ⟨sound, fun _ => .inl⟩

theorem fits_named (sound : node.Sound) (takes : ∀ nodeId ∈ ids, Takes node.info.nodeId nodeId)
    (readable : Readable key) : Fits node.info.nodeId key (Named node ids) := by
  have taken : ∀ peer, Named node ids peer → Takes node.info.nodeId peer.nodeId := by
    intro peer named
    rcases named with held | named
    · rw [← sound.own]
      exact sound.table.takes held
    · exact takes peer.nodeId named
  refine ⟨taken, fun peer named other => ?_⟩
  rcases (taken peer named).resolve_left other with ⟨index, indexed, _⟩
  rcases (Distance.toInt_of_bucketIndex indexed).2 with ⟨value, read⟩
  rcases readable with ⟨target, keyRead⟩
  exact ⟨_, Distance.xorDistance_of_toInt read keyRead⟩

def domain (node : KademliaNode) (ids : List String) : List String :=
  node.table.allNodes.map NodeInfo.nodeId ++ ids

omit [TextCase] [HexText] in
theorem mem_domain {peer : NodeInfo} (named : Named node ids peer) :
    peer.nodeId ∈ domain node ids := by
  rcases named with held | named
  · exact List.mem_append_left _ (List.mem_map_of_mem held)
  · exact List.mem_append_right _ named

structure Stage (node : KademliaNode) (key : String) (ids : List String)
    (later : KademliaNode) : Prop where
  settings : SameSettings node later
  settled : later.Settled (Named node ids)
  compares : Readable key ∨ later.table.allNodes = []

theorem lookup_of_empty (empty : node.table.allNodes = []) (depth : Nat)
    (exclude : List String) (world : World) :
    (lookup (depth + 1) rpc node key exclude world).run =
      some (.ok ⟨node, .empty, [], exclude, world⟩) := by
  apply lookup_of_unseeded
  rw [seeded, RoutingTable.closest, empty, closestOf_nil]
  rfl

theorem lookup_of_stage (sound : node.Sound) (alpha : 0 < node.alpha)
    (takes : ∀ nodeId ∈ ids, Takes node.info.nodeId nodeId) (names : NamesOnly rpc ids)
    {later : KademliaNode} (stage : Stage node key ids later) (exclude : List String)
    (world : World) {depth : Nat} (enough : (domain node ids).length < depth) :
    ∃ walk, (lookup depth rpc later key exclude world).run = some (.ok walk) ∧
      Stage node key ids walk.node ∧ ∀ peer ∈ walk.shortlist.values, Measured key peer := by
  rcases stage.compares with readable | empty
  · have fits := fits_named sound takes readable
    rw [← stage.settings.info] at fits
    have within : Within rpc (Named node ids) :=
      fun world peer key answers answered answer member =>
        .inr (names world peer key answers answered answer member)
    rcases lookup_ends fits within stage.settled (fun _ => mem_domain)
        (stage.settings.alpha ▸ alpha) exclude world trivial
        (fun _ _ _ _ _ _ _ => trivial) enough with ⟨walk, ended, good, _, _, _⟩
    exact ⟨walk, ended, ⟨stage.settings.trans good.settings, good.settled, .inl readable⟩,
      good.measured fits⟩
  · cases depth with
    | zero => omega
    | succ depth =>
        exact ⟨_, lookup_of_empty empty depth exclude world, stage, nofun⟩

theorem stage_self (sound : node.Sound) (compares : Readable key ∨ node.table.allNodes = []) :
    Stage node key ids node :=
  ⟨.refl node, settled_named sound, compares⟩

theorem locate_of_stage (sound : node.Sound) (alpha : 0 < node.alpha)
    (takes : ∀ nodeId ∈ ids, Takes node.info.nodeId nodeId) (names : NamesOnly rpc ids)
    {later : KademliaNode} (stage : Stage node key ids later) (count : Option Nat)
    (world : World) {depth : Nat} (enough : (domain node ids).length < depth) :
    ∃ located, (iterativeLocate depth rpc later key count world).run = some (.ok located) ∧
      Stage node key ids located.node := by
  rcases lookup_of_stage sound alpha takes names stage [] world enough with
    ⟨walk, ended, reached, measured⟩
  have sorted : closest walk.shortlist.values key (walk.node.countOf count) = .ok _ :=
    closest_of_measured walk.shortlist measured _
  exact ⟨_, locate_of_lookup ended sorted, reached⟩

theorem paths_of_stage (sound : node.Sound) (alpha : 0 < node.alpha)
    (takes : ∀ nodeId ∈ ids, Takes node.info.nodeId nodeId) (names : NamesOnly rpc ids)
    (compares : Readable key ∨ node.table.allNodes = []) (world : World) {depth : Nat}
    (enough : (domain node ids).length < depth) (number : Nat) :
    ∃ state, (paths depth rpc key number ⟨node, [], .empty, world⟩).run = some (.ok state) ∧
      Stage node key ids state.node ∧ ∀ peer ∈ state.merged.values, Measured key peer := by
  induction number with
  | zero => exact ⟨_, rfl, stage_self sound compares, nofun⟩
  | succ number induction =>
      rcases induction with ⟨before, ran, stage, measured⟩
      rcases lookup_of_stage sound alpha takes names stage before.used before.world enough with
        ⟨walk, ended, reached, fresh⟩
      refine ⟨before.join walk, ?_, reached, ?_⟩
      · rw [paths, bind_of_ok ran, path, bind_of_ok ended]
        rfl
      · intro peer member
        exact (ById.mem_values_putAll member).elim (fresh peer) (measured peer)

theorem observeAll_of_takes (room : 0 < node.k)
    (takes : ∀ nodeId ∈ ids, Takes node.info.nodeId nodeId) {seeds : List NodeInfo}
    (named : ∀ seed ∈ seeds, seed.nodeId ∈ ids) {later : KademliaNode}
    (settings : SameSettings node later) (settled : later.Settled (Named node ids)) :
    ∃ joined, seeds.foldlM observe later = .ok joined ∧ SameSettings node joined ∧
      joined.Settled (Named node ids) := by
  induction seeds generalizing later with
  | nil => exact ⟨later, rfl, settings, settled⟩
  | cons seed rest induction =>
      have first := named seed List.mem_cons_self
      have taken : Takes later.info.nodeId seed.nodeId := by
        rw [settings.info]
        exact takes seed.nodeId first
      rcases observed_of_observe settled.sound (settings.k ▸ room) taken with
        ⟨next, done, observed⟩
      rcases induction (fun other member => named other (List.mem_cons_of_mem _ member))
          (settings.trans observed.settings)
          (observed.settled settled fun peer member =>
            .inr (List.mem_singleton.mp member ▸ first)) with ⟨joined, others, result⟩
      refine ⟨joined, ?_, result⟩
      rw [List.foldlM_cons, done]
      exact others

theorem readable_own (sound : node.Sound) : Readable node.info.nodeId ∨
    node.table.allNodes = [] := by
  cases held : node.table.allNodes with
  | nil => exact .inr rfl
  | cons peer rest =>
      rcases sound.table.indexed (held ▸ List.mem_cons_self) with ⟨index, indexed, _⟩
      have read := (Distance.toInt_of_bucketIndex indexed).1
      rw [sound.own] at read
      exact .inl read

theorem refreshed_of_stage (sound : node.Sound) (alpha : 0 < node.alpha)
    (takes : ∀ nodeId ∈ ids, Takes node.info.nodeId nodeId) (names : NamesOnly rpc ids)
    {depth : Nat} (enough : (domain node ids).length < depth) {keys : List String}
    (readable : ∀ key ∈ keys, key = node.info.nodeId ∨ Readable key) {later : KademliaNode}
    (settings : SameSettings node later) (settled : later.Settled (Named node ids))
    (world : World) :
    ∃ result, (keys.foldlM (refreshed depth rpc) (later, world)).run = some (.ok result) ∧
      result.1.Sound := by
  induction keys generalizing later world with
  | nil => exact ⟨(later, world), rfl, settled.sound⟩
  | cons key rest induction =>
      have compares : Readable key ∨ later.table.allNodes = [] := by
        rcases readable key List.mem_cons_self with rfl | read
        · rw [← settings.info]
          exact readable_own settled.sound
        · exact .inl read
      rcases locate_of_stage sound alpha takes names ⟨settings, settled, compares⟩ none world
        enough with ⟨located, ran, reached⟩
      rcases induction (fun other member => readable other (List.mem_cons_of_mem _ member))
          reached.settings reached.settled located.world with ⟨result, others, done⟩
      refine ⟨result, ?_, done⟩
      have step : (refreshed depth rpc (later, world) key).run =
          some (.ok (located.node, located.world)) := by
        rw [refreshed, bind_of_ok ran]
        rfl
      rw [List.foldlM_cons, bind_of_ok step]
      exact others

/-! ## Peers that never answer -/

def silent : Rpc Unit :=
  fun world _ _ => (none, world)

omit [TextCase] [HexText] in
theorem names_silent (ids : List String) : NamesOnly silent ids :=
  fun _ _ _ _ answered => nomatch answered

theorem node_of_queries {peers : List NodeInfo} {walk after : Walk Unit}
    (queried : peers.foldlM (query silent key) walk = .ok after) : after.node = walk.node := by
  induction peers generalizing walk with
  | nil =>
      cases queried
      rfl
  | cons peer rest induction => exact (induction queried).trans rfl

theorem node_of_pass {walk after : Walk Unit}
    (went : pass silent key walk = .ok (some after)) : after.node = walk.node := by
  rcases Fallible.ok_of_bind went with ⟨topk, sorted, _⟩
  rw [pass_of_closest sorted] at went
  split at went
  · cases went
  · next more =>
      cases queried : ((topk.filter fun peer => peer.nodeId ∉ walk.queried).take
          walk.node.alpha).foldlM (query silent key) walk with
      | error fault =>
          rw [queried] at went
          cases went
      | ok last =>
          rw [queried] at went
          cases went
          exact node_of_queries queried

theorem node_of_silent {depth : Nat} {count : Option Nat} {located : Located Unit}
    (ended : (iterativeLocate depth silent node key count ()).run = some (.ok located)) :
    located.node = node := by
  rcases ok_of_bind ended with ⟨walk, looked, returned⟩
  rcases ok_of_bind returned with ⟨found, _, same⟩
  cases same
  rcases ok_of_bind looked with ⟨first, seeded, looped⟩
  have start : first.node = node := by
    rcases Fallible.ok_of_bind (Option.some.inj seeded) with ⟨seeds, _, same⟩
    cases same
    rfl
  exact (Loop.kept_of_run (fun walk next kept went => (node_of_pass went).trans kept) start
    looped).1

/-! ## Peers that name an id without a bucket -/

def naming (peer : NodeInfo) : Rpc Unit :=
  fun world _ _ => (some [peer], world)

theorem observe_raises (sound : node.Sound) {peer : NodeInfo}
    (other : peer.nodeId ≠ node.info.nodeId)
    (unread : ∀ index, bucketIndex node.info.nodeId peer.nodeId ≠ .ok index) :
    ∃ fault, node.observe peer = .error fault := by
  cases done : node.observe peer with
  | error fault => exact ⟨fault, rfl⟩
  | ok after =>
      rw [observe, if_pos other] at done
      rcases Fallible.ok_of_bind done with ⟨⟨table, candidate⟩, added, _⟩
      rw [← sound.own] at other unread
      rcases RoutingTable.indexed_of_addNode added other with ⟨index, indexed⟩
      exact absurd indexed (unread index)

theorem query_raises (peer : NodeInfo) {named : NodeInfo} (walk : Walk Unit)
    {fault : DhtFault} (raised : walk.node.observe named = .error fault) :
    query (naming named) key walk peer = .error fault := by
  have learned (marked : Walk Unit) (same : marked.node = walk.node) :
      learn marked named = .error fault := by
    rw [learn, same, raised]
    rfl
  rw [query]
  change [named].foldlM learn _ = _
  rw [List.foldlM_cons, learned]
  · rfl
  · rfl

theorem locate_raises {known : NodeInfo → Prop} (fits : Fits node.info.nodeId key known)
    (settled : node.Settled known) (room : 0 < node.k) (alpha : 0 < node.alpha)
    (acquainted : node.table.allNodes ≠ []) {named : NodeInfo}
    (other : named.nodeId ≠ node.info.nodeId)
    (unread : ∀ index, bucketIndex node.info.nodeId named.nodeId ≠ .ok index) (depth : Nat) :
    ∃ fault, (iterativeLocate (depth + 1) (naming named) node key none ()).run =
      some (.error fault) := by
  rcases observe_raises settled.sound other unread with ⟨fault, raised⟩
  have more : unqueried key (start node key [] ()) ≠ [] := by
    have held := List.length_pos_iff.mpr acquainted
    have near : 0 < (topk key (start node key [] ())).length := by
      rw [topk, Nearest.length_nearest, values_start settled.sound, seeds, Nearest.length_nearest]
      change 0 < min node.k _
      omega
    rcases List.exists_mem_of_length_pos near with ⟨peer, member⟩
    exact List.ne_nil_of_mem (List.mem_filter.mpr ⟨member, rfl⟩)
  have passed : pass (naming named) key (start node key [] ()) = .error fault := by
    refine (pass_of_closest (closest_shortlist (good_start settled key [] ()) fits _)).trans
      ((if_neg more).trans ?_)
    rcases List.exists_cons_of_ne_nil more with ⟨peer, rest, first⟩
    rcases Nat.exists_eq_succ_of_ne_zero alpha.ne' with ⟨less, batch⟩
    have asked : (unqueried key (start node key [] ())).take node.alpha =
        peer :: rest.take less := by
      rw [first, batch, List.take_succ_cons]
    change Except.map some (((unqueried key (start node key [] ())).take node.alpha).foldlM
      (query (naming named) key) (start node key [] ())) = _
    rw [asked, List.foldlM_cons, query_raises peer _ raised]
    rfl
  have looked : (lookup (depth + 1) (naming named) node key [] ()).run = some (.error fault) := by
    rw [lookup, seeded_eq_start settled fits]
    exact Loop.run_error passed depth
  exact ⟨fault, bind_of_error looked _⟩

/-! ## When a node withstands hostile peers -/

variable [Digest]

theorem takes_of_withstands (sound : node.Sound) (withstands : Withstands node key ids) :
    ∀ nodeId ∈ ids, Takes node.info.nodeId nodeId := by
  intro nodeId member
  by_cases own : nodeId = node.info.nodeId
  · exact .inl own
  rcases withstands.joins Unit silent (names_silent ids) [⟨nodeId, "", 0⟩]
      (fun seed single => List.mem_singleton.mp single ▸ member) 0 () with
    ⟨depth, size, after, later, ended, soundAfter⟩
  rcases ok_of_bind ended with ⟨joined, observed, rest⟩
  rcases ok_of_bind rest with ⟨⟨last, world⟩, located, returned⟩
  cases returned
  rcases ok_of_bind located with ⟨⟨final, _⟩, refreshed, same⟩
  cases same
  rcases ok_of_bind refreshed with ⟨found, ran, same⟩
  cases same
  rw [node_of_silent ran] at soundAfter
  rcases Fallible.ok_of_bind (Option.some.inj observed) with ⟨observer, done, same⟩
  cases same
  rw [observe, if_pos own] at done
  rcases Fallible.ok_of_bind done with ⟨⟨table, candidate⟩, added, same⟩
  cases same
  have taken := RoutingTable.takes_of_addNode added soundAfter.table
  rwa [sound.own] at taken

omit [TextCase] [HexText] in
theorem bootstrap_of_refreshed [TextCase] [HexText] {depth : Nat} {seeds : List NodeInfo}
    {refresh : Nat} {world later : World} {joined last : KademliaNode}
    (observed : seeds.foldlM observe node = .ok joined)
    (ran : ((joined.refreshKeys refresh).foldlM (refreshed depth rpc) (joined, world)).run =
      some (.ok (last, later))) :
    (bootstrap depth rpc node seeds refresh world).run =
      some (.ok (last.table.length, last, later)) := by
  rw [bootstrap, observed]
  exact (bind_of_ok ran _).trans rfl

/-- A node withstands hostile peers exactly if it can take every id that they may name,
and knows nobody or can read the key. -/
theorem withstands_iff [IdDigest] (sound : node.Sound) (room : 0 < node.k)
    (alpha : 0 < node.alpha) :
    Withstands node key ids ↔
      (∀ nodeId ∈ ids, Takes node.info.nodeId nodeId) ∧
        (Readable key ∨ node.table.allNodes = []) := by
  constructor
  · intro withstands
    refine ⟨takes_of_withstands sound withstands, ?_⟩
    by_contra neither
    rw [not_or] at neither
    rcases withstands.locates Unit silent (names_silent ids) none () with
      ⟨depth, located, ended, _⟩
    rcases ok_of_bind ended with ⟨walk, looked, _⟩
    rcases ok_of_bind looked with ⟨first, seeded, _⟩
    rcases Fallible.ok_of_bind (Option.some.inj seeded) with ⟨seeds, sorted, _⟩
    rcases List.exists_mem_of_ne_nil _ neither.2 with ⟨peer, held⟩
    have unread : ¬Measured key peer := by
      intro ⟨distance, read⟩
      exact neither.1 (Distance.toInt_of_xorDistance read).2
    rcases closestOf_raises held unread node.k with ⟨fault, raised⟩
    rw [RoutingTable.closest, Option.getD_some, raised] at sorted
    cases sorted
  · intro ⟨takes, compares⟩
    constructor
    · intro World rpc names count world
      rcases locate_of_stage sound alpha takes names (stage_self sound compares) count world
        (Nat.lt_succ_self _) with ⟨located, ended, reached⟩
      exact ⟨_, located, ended, reached.settled.sound⟩
    · intro World rpc names disjoint count world
      rcases paths_of_stage sound alpha takes names compares world (Nat.lt_succ_self _)
        (max 1 disjoint) with ⟨state, ran, reached, measured⟩
      have sorted := closest_of_measured state.merged measured (state.node.countOf count)
      exact ⟨_, _, locateDisjoint_of_paths ran sorted, reached.settled.sound⟩
    · intro World rpc names seeds named refresh world
      rcases observeAll_of_takes room takes named (.refl node) (settled_named sound) with
        ⟨joined, observed, settings, settled⟩
      have readable : ∀ key ∈ joined.refreshKeys refresh,
          key = node.info.nodeId ∨ Readable key := by
        intro key member
        rcases List.mem_cons.mp member with own | later
        · exact .inl (own.trans (congrArg NodeInfo.nodeId settings.info))
        · rcases List.mem_map.mp later with ⟨index, _, rfl⟩
          exact .inr (IdDigest.read _)
      rcases refreshed_of_stage sound alpha takes names (Nat.lt_succ_self _) readable settings
        settled world with ⟨⟨last, later⟩, ran, done⟩
      exact ⟨_, last.table.length, last, later, bootstrap_of_refreshed observed ran, done⟩

end

end KademliaNode

namespace HostileSamples

open scoped Plain
open KademliaNode LookupSamples

/-- One answer that names an id that is none is enough for the lookup to raise. -/
theorem garbage_raises :
    ∃ fault, (iterativeLocate 1 (naming ⟨"x", "localhost", 4480⟩) (knowing '0' '2' 1) (idOf '1')
      none ()).run = some (.error fault) := by
  have fits := distinct_peers.fits toInt_one (by decide : peerAt '0' ∈ peers)
  refine locate_raises fits settled_node (by decide) (by decide) (by decide) (by decide)
    (fun index indexed => ?_) 0
  rcases (Distance.toInt_of_bucketIndex indexed).2 with ⟨value, read⟩
  cases read

scoped instance : Digest where
  sha256 _ := idOf '2'

scoped instance : IdDigest where
  read _ := ⟨2, toInt_two⟩

theorem knowing_withstands_iff :
    Withstands (knowing '0' '2' 1) (idOf '1') [idOf '1', "x"] ↔
      (∀ nodeId ∈ [idOf '1', "x"], RoutingTable.Takes (idOf '0') nodeId) ∧
        (Readable (idOf '1') ∨ (knowing '0' '2' 1).table.allNodes = []) :=
  withstands_iff settled_node.sound (by decide) (by decide)

end HostileSamples

end Agtp
