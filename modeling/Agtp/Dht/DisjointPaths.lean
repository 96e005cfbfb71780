import Agtp.Dht.LookupCorrectness

/-! # Disjoint paths

A path marks whatever it found as used, queried or not. -/

namespace Agtp.KademliaNode

variable [TextCase] [HexText] {World : Type} {node : KademliaNode} {key : String}
  {known : NodeInfo → Prop} {rpc : Rpc World} {peers : List NodeInfo}

/-! ## Later paths -/

omit [TextCase] [HexText] in
theorem mem_foldl_addTo {set ids : List String} {nodeId : String} :
    nodeId ∈ ids.foldl addTo set ↔ nodeId ∈ set ∨ nodeId ∈ ids := by
  induction ids generalizing set with
  | nil => simp
  | cons first rest induction =>
      rw [List.foldl_cons, induction, mem_addTo_iff, List.mem_cons, or_assoc]

theorem lookup_of_excluded (settled : node.Settled known)
    (fits : Fits node.info.nodeId key known) {exclude : List String}
    (all : ∀ seed ∈ seeds node key, seed.nodeId ∈ exclude) (world : World) (depth : Nat) :
    (lookup (depth + 1) rpc node key exclude world).run =
      some (.ok ⟨node, .empty, [], exclude, world⟩) := by
  have nobody : (seeds node key).filter (fun seed => seed.nodeId ∉ exclude) = [] := by
    rw [List.filter_eq_nil_iff]
    intro seed member
    simpa using all seed member
  have started : start node key exclude world = ⟨node, .empty, [], exclude, world⟩ := by
    rw [start, nobody]
    rfl
  apply lookup_of_unseeded
  rw [seeded_eq_start settled fits, started]

def unused (node : KademliaNode) (world : World) : Paths World :=
  ⟨node, [], .empty, world⟩

theorem paths_of_first {walk : Walk World} {world : World} {depth : Nat}
    (ended : (lookup (depth + 1) rpc node key [] world).run = some (.ok walk))
    (settled : walk.node.Settled known) (fits : Fits walk.node.info.nodeId key known)
    (found : ∀ seed ∈ seeds walk.node key, seed.nodeId ∈ walk.shortlist.ids) (number : Nat) :
    (paths (depth + 1) rpc key (number + 1) (unused node world)).run =
      some (.ok ((unused node world).join walk)) := by
  induction number with
  | zero =>
      have nothing : (paths (depth + 1) rpc key 0 (unused node world)).run =
          some (.ok (unused node world)) := rfl
      rw [paths, bind_of_ok nothing, path]
      exact (bind_of_ok ended _).trans rfl
  | succ number induction =>
      have excluded : ∀ seed ∈ seeds walk.node key,
          seed.nodeId ∈ ((unused node world).join walk).used :=
        fun seed member => mem_foldl_addTo.mpr (.inr (found seed member))
      have idle : (lookup (depth + 1) rpc walk.node key _ walk.world).run = _ :=
        lookup_of_excluded settled fits excluded walk.world depth
      rw [paths, bind_of_ok induction, path]
      exact (bind_of_ok idle _).trans rfl

theorem found_of_logs (distinct : DistinctIds peers) (settled : node.Settled (· ∈ peers))
    {target : Int} (keyRead : Distance.toInt key = .ok target)
    {walk : Walk (World × QueryLog)} (good : Good node (· ∈ peers) walk)
    (logs : Logs node key (· ∈ peers) walk) :
    ∀ seed ∈ seeds walk.node key, seed.nodeId ∈ walk.shortlist.ids := by
  intro seed near
  have held := Nearest.mem_of_nearest near
  have seedListed := good.settled.known seed held
  rcases logs.held seed held with before | ⟨query, asked, inside⟩
  · -- no peer came between it and the key that was not there before
    refine List.mem_map_of_mem (logs.seeded seed ?_)
    rw [seeds, good.settings.k] at near
    refine Nearest.mem_nearest_of_superset near before
      (.of_map NodeInfo.nodeId settled.sound.table.distinct) ?_ ?_
    · intro other member
      rcases List.mem_map.mp (logs.keeps other.nodeId (List.mem_map_of_mem member)) with
        ⟨kept, keptThere, same⟩
      rw [← distinct.eq_of_nodeId (good.settled.known kept keptThere)
        (settled.known other member) same]
      exact keptThere
    · intro left leftHeld right rightHeld same
      exact distinct.eq_of_distance keyRead (settled.known left leftHeld)
        (settled.known right rightHeld) same
  · refine (logs.covers query asked seed inside).resolve_left fun own => ?_
    have other := good.settled.sound.table.ne_own held
    rw [good.settled.sound.own, good.settings.info] at other
    exact other own

/-! ## Adversaries on one path -/

def AnswersHonestly (rpc : Rpc World) (key : String) (count : Nat) (peer : NodeInfo)
    (held : List NodeInfo) : Prop :=
  ∀ world, ∃ answers, closestOf held key count = .ok answers ∧
    (rpc world peer key).1 = some answers

def OnePathAttacked (depth : Nat) (rpc : Rpc World) (node : KademliaNode) (key : String)
    (disjoint : Nat) (world : World) (honest : NodeInfo → Prop) : Prop :=
  ∃ attacked, ∀ number < disjoint, number ≠ attacked → ∀ before after,
    (paths depth (logged rpc) key number (unused node (world, []))).run = some (.ok before) →
    (paths depth (logged rpc) key (number + 1) (unused node (world, []))).run =
      some (.ok after) →
    ∀ query ∈ after.world.2.drop before.world.2.length, honest query.1

/-- However the other peers behave, the target is found if the seed is honest and knows
it, and adversaries answer on one path at most. -/
def Finds (node : KademliaNode) (peers : List NodeInfo) (target seed : NodeInfo)
    (disjoint : Nat) : Prop :=
  ∀ (World : Type) (rpc : Rpc World) (world : World) (honest : NodeInfo → Prop)
    (held : NodeInfo → List NodeInfo),
    Within rpc (· ∈ peers) →
    (∀ peer, honest peer → (∀ other ∈ held peer, other ∈ peers) ∧ (held peer).Nodup ∧
      AnswersHonestly rpc target.nodeId node.k peer (held peer)) →
    honest seed → target ∈ held seed →
    ∀ depth, peers.length < depth →
      OnePathAttacked depth rpc node target.nodeId disjoint world honest →
      ∃ located, (iterativeLocateDisjoint depth rpc node target.nodeId disjoint none world).run =
        some (.ok located) ∧ target ∈ located.found

section

variable {target seed : NodeInfo}

theorem target_nearest (distinct : DistinctIds peers) (listed : target ∈ peers)
    {nodes : List NodeInfo} (all : ∀ peer ∈ nodes, peer ∈ peers) (nodup : nodes.Nodup)
    (held : target ∈ nodes) {count : Nat} (room : 0 < count) :
    target ∈ Nearest.nearest (distanceTo target.nodeId) count nodes := by
  refine Nearest.mem_nearest_of_few held nodup fun closer _ before => ?_
  have nobody : closer = [] := by
    rw [List.eq_nil_iff_forall_not_mem]
    intro other member
    rcases before other member with ⟨there, different, near⟩
    exact different (distinct.eq_of_distance_le (all other there) listed near)
  rw [nobody]
  exact room

theorem names_target (distinct : DistinctIds peers) (listed : target ∈ peers) {count : Nat}
    (room : 0 < count) {held : List NodeInfo} (all : ∀ peer ∈ held, peer ∈ peers)
    (nodup : held.Nodup) (honest : AnswersHonestly rpc target.nodeId count seed held)
    (knows : target ∈ held) (world : World) :
    target ∈ (safeRpc rpc world seed target.nodeId).1 := by
  rcases distinct.read target listed with ⟨value, read, _⟩
  rcases honest world with ⟨answers, sorted, answered⟩
  rw [closestOf_of_measured fun peer member => distinct.measured read (all peer member)] at sorted
  rw [safeRpc, answered, Option.getD_some, ← Except.ok.inj sorted]
  exact target_nearest distinct listed all nodup knows room

theorem unqueried_start (sound : node.Sound) (key : String) (world : World) :
    unqueried key (start node key [] world) = seeds node key := by
  have sorted : Nearest.nearest (distanceTo key) node.k (seeds node key) = seeds node key :=
    Nearest.nearest_nearest
  rw [unqueried, topk, values_start sound, List.filter_eq_self.mpr]
  · exact sorted
  · exact fun _ _ => rfl

/-- The target is known already, the seed is in the first batch, or too few peers are
nearer than the seed for it to be passed over. -/
def SeedCounts (node : KademliaNode) (peers : List NodeInfo) (target seed : NodeInfo) : Prop :=
  target ∈ node.table.allNodes ∨
  seed ∈ Nearest.nearest (distanceTo target.nodeId) node.alpha node.table.allNodes ∨
  ∀ nearer : List NodeInfo, nearer.Nodup →
    (∀ peer ∈ nearer, peer ∈ peers ∧ peer ≠ target ∧ peer.nodeId ≠ node.info.nodeId ∧
      distanceTo target.nodeId peer < distanceTo target.nodeId seed) →
    nearer.length < node.k

omit [TextCase] [HexText] in
theorem mem_first_batch [TextCase] [HexText] (near : seed ∈ seeds node key)
    (first : seed ∈ Nearest.nearest (distanceTo key) node.alpha node.table.allNodes) :
    seed ∈ (seeds node key).take node.alpha := by
  rw [seeds, Nearest.nearest, List.take_take]
  rcases Nat.le_total node.alpha node.k with fewer | more
  · rwa [Nat.min_eq_left fewer]
  · rwa [Nat.min_eq_right more]

theorem first_path (distinct : DistinctIds peers) (settled : node.Settled (· ∈ peers))
    (listed : node.info ∈ peers) (alpha : 0 < node.alpha) (within : Within rpc (· ∈ peers))
    {target : Int} (keyRead : Distance.toInt key = .ok target)
    {invariant : Walk (World × QueryLog) → Prop} {world : World}
    (starts : invariant (start node key [] (world, [])))
    (keeps : ∀ walk after, Good node (· ∈ peers) walk → Tracked walk →
      Logs node key (· ∈ peers) walk → unqueried key walk ≠ [] →
      Batch (logged rpc) key node (· ∈ peers) walk ((unqueried key walk).take node.alpha) after →
      Logs node key (· ∈ peers) after → invariant walk → invariant after)
    {depth : Nat} (enough : peers.length < depth) :
    ∃ walk, (lookup depth (logged rpc) node key [] (world, [])).run = some (.ok walk) ∧
      Ended node key (· ∈ peers)
        (fun walk => Logs node key (· ∈ peers) walk ∧ invariant walk) walk := by
  have withinLogged : Within (logged rpc) (· ∈ peers) := fun world peer => within world.1 peer
  have finite : ∀ peer, peer ∈ peers → peer.nodeId ∈ peers.map NodeInfo.nodeId :=
    fun _ => List.mem_map_of_mem
  refine lookup_ends (distinct.fits keyRead listed) withinLogged settled finite alpha []
    (world, []) ⟨logs_start settled.sound key world, starts⟩ ?_
    (List.length_map NodeInfo.nodeId ▸ enough)
  intro walk after good tracked more batch ⟨logs, holds⟩
  have logsAfter := batch.preserves (Logs node key (· ∈ peers))
    (fun walk peer after good _ listed new _ asked logs =>
      asked.logs within good listed new logs) logs
  exact ⟨logsAfter, keeps walk after good tracked logs more batch logsAfter holds⟩

theorem target_listed (distinct : DistinctIds peers) (settled : node.Settled (· ∈ peers))
    (listed : node.info ∈ peers) (alpha : 0 < node.alpha) (within : Within rpc (· ∈ peers))
    (targetListed : target ∈ peers)
    (other : target.nodeId ≠ node.info.nodeId) (near : seed ∈ seeds node target.nodeId)
    (counts : SeedCounts node peers target seed)
    (names : ∀ world, target ∈ (safeRpc rpc world seed target.nodeId).1) (room : 0 < node.k)
    (world : World) {depth : Nat} (enough : peers.length < depth) :
    ∃ walk, (lookup depth (logged rpc) node target.nodeId [] (world, [])).run =
        some (.ok walk) ∧ Good node (· ∈ peers) walk ∧
      Logs node target.nodeId (· ∈ peers) walk ∧ target ∈ walk.shortlist.values := by
  rcases distinct.read target targetListed with ⟨value, keyRead, _⟩
  let key := target.nodeId
  let first : Walk (World × QueryLog) := start node key [] (world, [])
  let invariant : Walk (World × QueryLog) → Prop := fun walk =>
    (∀ query ∈ walk.world.2, query.1 = seed → target ∈ query.2) ∧
      (seed ∈ Nearest.nearest (distanceTo key) node.alpha node.table.allNodes →
        walk = first ∨ seed.nodeId ∈ walk.queried)
  have keeps : ∀ walk after, Good node (· ∈ peers) walk → Tracked walk →
      Logs node key (· ∈ peers) walk → unqueried key walk ≠ [] →
      Batch (logged rpc) key node (· ∈ peers) walk ((unqueried key walk).take node.alpha) after →
      Logs node key (· ∈ peers) after → invariant walk → invariant after := by
    intro walk after _ _ _ _ batch _ ⟨named, asked⟩
    constructor
    · refine batch.preserves (fun walk =>
        ∀ query ∈ walk.world.2, query.1 = seed → target ∈ query.2) ?_ named
      intro walk peer after _ _ _ _ _ queried named query member same
      rcases queried.mem_log member with before | rfl
      · exact named query before same
      · subst same
        exact names walk.world.1
    · intro inBatch
      refine .inr ((batch.queried seed.nodeId).mpr ?_)
      rcases asked inBatch with rfl | before
      · rw [unqueried_start settled.sound]
        exact .inr (List.mem_map_of_mem (mem_first_batch near inBatch))
      · exact .inl before
  rcases first_path distinct settled listed alpha within keyRead
      (⟨nofun, fun _ => .inl rfl⟩ : invariant first) keeps enough with
    ⟨walk, ended, good, tracked, ⟨logs, named, asked⟩, done⟩
  refine ⟨walk, ended, good, logs, ?_⟩
  -- once the seed is queried the target has been named
  have of_queried (queried : seed.nodeId ∈ walk.queried) : target ∈ walk.shortlist.values := by
    rw [logs.queried] at queried
    rcases List.mem_map.mp queried with ⟨query, member, same⟩
    have seedListed := settled.known seed (Nearest.mem_of_nearest near)
    have isSeed := distinct.eq_of_nodeId
      (good.listed _ (logs.asked query member)).1 seedListed same
    rcases ById.mem_ids.mp ((logs.covers query member target
      (named query member isSeed)).resolve_left other) with ⟨held, heldThere, sameId⟩
    exact distinct.eq_of_nodeId (good.listed held heldThere).1 targetListed sameId ▸ heldThere
  rcases counts with known | inBatch | few
  · refine logs.seeded target (target_nearest distinct targetListed settled.known
      (.of_map NodeInfo.nodeId settled.sound.table.distinct) known room)
  · rcases asked inBatch with rfl | queried
    · have first := unqueried_start settled.sound key (world, ([] : QueryLog))
      rw [first] at done
      rw [done] at near
      cases near
    · exact of_queried queried
  · by_contra missing
    -- nothing else keeps the seed from being queried
    have inTop : seed ∈ topk key walk := by
      rw [topk, good.settings.k]
      refine Nearest.mem_nearest_of_few (logs.seeded seed near)
        (.of_map NodeInfo.nodeId walk.shortlist.distinct) fun closer nodup before => ?_
      refine few closer nodup fun peer member => ?_
      rcases before peer member with ⟨held, different, distance⟩
      have peerListed := good.listed peer held
      have seedListed := good.listed seed (logs.seeded seed near)
      have apart : distanceTo key peer ≠ distanceTo key seed := fun same =>
        different (distinct.eq_of_distance keyRead peerListed.1 seedListed.1 same)
      exact ⟨peerListed.1, fun same => missing (same ▸ held), peerListed.2,
        lt_of_le_of_ne distance apart⟩
    refine missing (of_queried ?_)
    by_contra new
    have next : seed ∈ unqueried key walk := List.mem_filter.mpr ⟨inTop, by simpa using new⟩
    rw [done] at next
    cases next

/-! ## The seed is passed over -/

def crowding (seed target : NodeInfo) (nearer : List NodeInfo) : Rpc Unit :=
  fun world peer _ => (some (if peer = seed then [target] else nearer), world)

omit [TextCase] [HexText] in
theorem within_crowding (seed : NodeInfo) (targetListed : target ∈ peers)
    {nearer : List NodeInfo} (all : ∀ peer ∈ nearer, peer ∈ peers) :
    Within (crowding seed target nearer) (· ∈ peers) := by
  intro world peer key answers answered answer member
  cases answered
  by_cases same : peer = seed
  · rw [if_pos same] at member
    exact List.mem_singleton.mp member ▸ targetListed
  · rw [if_neg same] at member
    exact all answer member

theorem honest_crowding (distinct : DistinctIds peers) (targetListed : target ∈ peers)
    {count : Nat} (room : 0 < count) (seed : NodeInfo) (nearer : List NodeInfo) :
    AnswersHonestly (crowding seed target nearer) target.nodeId count seed [target] := by
  rcases distinct.read target targetListed with ⟨value, read, _⟩
  intro world
  refine ⟨[target], ?_, ?_⟩
  · rw [closestOf_of_measured fun peer member =>
      List.mem_singleton.mp member ▸ distinct.measured read targetListed]
    exact congrArg Except.ok (List.take_of_length_le room)
  · exact congrArg some (if_pos rfl)

theorem target_missed (distinct : DistinctIds peers) (settled : node.Settled (· ∈ peers))
    (listed : node.info ∈ peers) (alpha : 0 < node.alpha) (targetListed : target ∈ peers)
    (near : seed ∈ seeds node target.nodeId) (unknown : target ∉ node.table.allNodes)
    (late : seed ∉ Nearest.nearest (distanceTo target.nodeId) node.alpha node.table.allNodes)
    {nearer : List NodeInfo} (nodup : nearer.Nodup)
    (all : ∀ peer ∈ nearer, peer ∈ peers ∧ peer ≠ target ∧ peer.nodeId ≠ node.info.nodeId ∧
      distanceTo target.nodeId peer < distanceTo target.nodeId seed)
    (many : node.k ≤ nearer.length) {depth : Nat} (enough : peers.length < depth) :
    ∃ walk, (lookup depth (logged (crowding seed target nearer)) node target.nodeId []
        ((), [])).run = some (.ok walk) ∧ Good node (· ∈ peers) walk ∧
      Logs node target.nodeId (· ∈ peers) walk ∧ target ∉ walk.shortlist.values := by
  rcases distinct.read target targetListed with ⟨value, keyRead, _⟩
  have within := within_crowding seed targetListed fun peer member => (all peer member).1
  let key := target.nodeId
  let first : Walk (Unit × QueryLog) := start node key [] ((), [])
  let invariant : Walk (Unit × QueryLog) → Prop := fun walk =>
    (∀ query ∈ walk.world.2, query.1 ≠ seed ∧ query.2 = nearer) ∧
      (walk = first ∨ walk.world.2 ≠ [])
  have keeps : ∀ walk after, Good node (· ∈ peers) walk → Tracked walk →
      Logs node key (· ∈ peers) walk → unqueried key walk ≠ [] →
      Batch (logged (crowding seed target nearer)) key node (· ∈ peers) walk
        ((unqueried key walk).take node.alpha) after →
      Logs node key (· ∈ peers) after → invariant walk → invariant after := by
    rintro walk after good _ logs more batch logsAfter ⟨asked, begun⟩
    have others : ∀ peer ∈ (unqueried key walk).take node.alpha, peer ≠ seed := by
      intro peer member same
      subst same
      rcases begun with rfl | some_
      · rw [unqueried_start settled.sound] at member
        refine late ?_
        rw [seeds, Nearest.nearest, List.take_take] at member
        exact List.take_subset_take_left _ (Nat.min_le_left _ _) member
      · have inTop : peer ∈ topk key walk :=
          List.mem_of_mem_filter (List.mem_of_mem_take member)
        rcases List.exists_mem_of_ne_nil _ some_ with ⟨query, queried⟩
        rw [topk, good.settings.k] at inTop
        refine Nearest.not_mem_nearest_of_many nodup many (fun other inside => ?_) inTop
        rcases all other inside with ⟨otherListed, _, notOwn, closer⟩
        have named : other ∈ query.2 := (asked query queried).2 ▸ inside
        rcases ById.mem_ids.mp ((logs.covers query queried other named).resolve_left notOwn)
          with ⟨held, heldThere, same⟩
        exact ⟨distinct.eq_of_nodeId (good.listed held heldThere).1 otherListed same ▸ heldThere,
          closer⟩
    constructor
    · refine batch.preserves (fun walk =>
        ∀ query ∈ walk.world.2, query.1 ≠ seed ∧ query.2 = nearer) ?_ asked
      intro walk peer after _ _ _ _ inBatch queried asked query member
      rcases queried.mem_log member with before | rfl
      · exact asked query before
      · have different := others peer inBatch
        exact ⟨different, if_neg different⟩
    · right
      intro nothing
      have asking : (unqueried key walk).take node.alpha ≠ [] := by
        rw [ne_eq, List.take_eq_nil_iff, not_or]
        exact ⟨by omega, more⟩
      rcases List.exists_mem_of_ne_nil _ asking with ⟨peer, member⟩
      have queried := (batch.queried peer.nodeId).mpr (.inr (List.mem_map_of_mem member))
      rw [logsAfter.queried, nothing] at queried
      cases queried
  rcases first_path distinct settled listed alpha within keyRead
      (⟨fun _ none => absurd none List.not_mem_nil, .inl rfl⟩ : invariant first) keeps enough with
    ⟨walk, ended, good, tracked, ⟨logs, asked, _⟩, _⟩
  refine ⟨walk, ended, good, logs, fun member => ?_⟩
  rcases logs.listed target member with seeded | ⟨query, queried, named⟩
  · exact unknown (Nearest.mem_of_nearest seeded)
  · rw [(asked query queried).2] at named
    exact (all target named).2.1 rfl

/-! ## One path or several -/

theorem locateDisjoint_of_first (distinct : DistinctIds peers)
    (settled : node.Settled (· ∈ peers)) (listed : node.info ∈ peers)
    {value : Int} (keyRead : Distance.toInt key = .ok value) {world : World} {depth : Nat}
    {walk : Walk (World × QueryLog)}
    (ended : (lookup depth (logged rpc) node key [] (world, [])).run = some (.ok walk))
    (good : Good node (· ∈ peers) walk) (logs : Logs node key (· ∈ peers) walk)
    (some_ : 0 < depth) (disjoint : Nat) :
    (iterativeLocateDisjoint depth rpc node key disjoint none world).run =
        some (.ok ⟨Nearest.nearest (distanceTo key) node.k walk.shortlist.values, walk.node,
          walk.world.1⟩) ∧
      ∀ number, (paths depth (logged rpc) key (number + 1) (unused node (world, []))).run =
        some (.ok ((unused node (world, [])).join walk)) := by
  rcases Nat.exists_eq_succ_of_ne_zero some_.ne' with ⟨less, rfl⟩
  have fits : Fits walk.node.info.nodeId key (· ∈ peers) := by
    rw [good.settings.info]
    exact distinct.fits keyRead listed
  have found := found_of_logs distinct settled keyRead good logs
  refine ⟨?_, paths_of_first ended good.settled fits found⟩
  have unlogged := lookup_unlogged (less + 1) rpc node key [] (world, [])
  rw [ended] at unlogged
  have ran := paths_of_first unlogged good.settled fits found (max 1 disjoint - 1)
  rw [Nat.sub_add_cancel (Nat.le_max_left 1 disjoint)] at ran
  have merged : ((unused node world).join (Walk.unlogged walk)).merged.values =
      walk.shortlist.values := ById.values_ofList walk.shortlist.distinct
  refine locateDisjoint_of_paths ran ?_
  have sorted := closest_shortlist good (distinct.fits keyRead listed) node.k
  rw [merged]
  change closest walk.shortlist.values key walk.node.k = _
  rw [good.settings.k]
  exact sorted

/-- A seed that does not count is passed over by the first path, and the later paths have
nobody to query. -/
theorem not_finds (distinct : DistinctIds peers) (settled : node.Settled (· ∈ peers))
    (listed : node.info ∈ peers) (room : 0 < node.k) (alpha : 0 < node.alpha)
    (targetListed : target ∈ peers)
    (near : seed ∈ seeds node target.nodeId) (passed : ¬SeedCounts node peers target seed)
    (disjoint : Nat) : ¬Finds node peers target seed disjoint := by
  rcases distinct.read target targetListed with ⟨value, keyRead, _⟩
  intro finds
  rw [SeedCounts, not_or, not_or] at passed
  rcases passed with ⟨unknown, late, crowded⟩
  simp only [not_forall, not_lt] at crowded
  rcases crowded with ⟨nearer, nodup, all, many⟩
  rcases target_missed distinct settled listed alpha targetListed near unknown late nodup all
      many (Nat.lt_succ_self _) with ⟨walk, ended, good, logs, missed⟩
  rcases locateDisjoint_of_first distinct settled listed keyRead ended good logs
      (Nat.succ_pos _) disjoint with ⟨located, later⟩
  have honestly : ∀ peer, peer = seed → (∀ other ∈ [target], other ∈ peers) ∧
      [target].Nodup ∧ AnswersHonestly (crowding seed target nearer) target.nodeId node.k peer
        [target] := by
    intro peer same
    subst same
    exact ⟨fun other member => List.mem_singleton.mp member ▸ targetListed,
      List.nodup_singleton target, honest_crowding distinct targetListed room peer nearer⟩
  have oneAttacked : OnePathAttacked (peers.length + 1) (crowding seed target nearer) node
      target.nodeId disjoint () (· = seed) := by
    refine ⟨0, fun number _ behind before after first second query member => ?_⟩
    rcases Nat.exists_eq_succ_of_ne_zero behind with ⟨number, rfl⟩
    rw [later number] at first
    rw [later (number + 1)] at second
    cases first
    cases second
    rw [List.drop_length] at member
    cases member
  rcases finds Unit (crowding seed target nearer) () (· = seed) (fun _ => [target])
      (within_crowding seed targetListed fun peer member => (all peer member).1) honestly rfl
      List.mem_cons_self _ (Nat.lt_succ_self _) oneAttacked with ⟨result, ended, found⟩
  rw [located] at ended
  cases ended
  exact missed (Nearest.mem_of_nearest found)

/-- The target is found against adversaries on one path exactly if the first path must
find it: further paths are no help. -/
theorem finds_iff (distinct : DistinctIds peers) (settled : node.Settled (· ∈ peers))
    (listed : node.info ∈ peers) (room : 0 < node.k) (alpha : 0 < node.alpha)
    (targetListed : target ∈ peers) (other : target.nodeId ≠ node.info.nodeId)
    (near : seed ∈ seeds node target.nodeId) (disjoint : Nat) :
    Finds node peers target seed disjoint ↔ SeedCounts node peers target seed := by
  rcases distinct.read target targetListed with ⟨value, keyRead, _⟩
  constructor
  · intro finds
    by_contra passed
    exact not_finds distinct settled listed room alpha targetListed near passed disjoint finds
  · intro counts World rpc world honest held within honestly seedHonest knows depth enough _
    rcases honestly seed seedHonest with ⟨all, nodup, answers⟩
    have names := names_target distinct targetListed room all nodup answers knows
    rcases target_listed distinct settled listed alpha within targetListed other near counts
        names room world enough with ⟨walk, ended, good, logs, member⟩
    refine ⟨_, (locateDisjoint_of_first distinct settled listed keyRead ended good logs
      (by omega) disjoint).1, ?_⟩
    exact target_nearest distinct targetListed (fun peer held => (good.listed peer held).1)
      (.of_map NodeInfo.nodeId walk.shortlist.distinct) member room

end

end Agtp.KademliaNode

namespace Agtp.DisjointSamples

open scoped Plain
open KademliaNode LookupSamples

def crowd : List NodeInfo :=
  [peerAt '0', peerAt '1', peerAt '2', peerAt '4', peerAt 'f']

def asking : KademliaNode :=
  ⟨peerAt 'f', 2, 1, idOf 'f', 2, Dict.empty.set 3 ⟨2, [peerAt '2', peerAt '4']⟩⟩

theorem toInt_four : Distance.toInt (idOf '4') = .ok 4 :=
  toInt_ofList 4 (by decide +kernel) (by decide +kernel) (by decide +kernel)

theorem toInt_fifteen : Distance.toInt (idOf 'f') = .ok 15 :=
  toInt_ofList 15 (by decide +kernel) (by decide +kernel) (by decide +kernel)

theorem distinct_crowd : DistinctIds crowd := by
  have read : crowd.map (fun peer => Distance.toInt peer.nodeId) =
      [0, 1, 2, 4, 15].map .ok := by
    simp only [crowd, peerAt, List.map_cons, List.map_nil, toInt_zero, toInt_one, toInt_two,
      toInt_four, toInt_fifteen]
  exact distinctIds_of_values read (by decide) (by decide)

theorem mem_asking {peer : NodeInfo} :
    peer ∈ asking.table.allNodes ↔ peer = peerAt '2' ∨ peer = peerAt '4' := by
  change peer ∈ [peerAt '2', peerAt '4'] ↔ _
  simp

theorem settled_asking : asking.Settled (· ∈ crowd) := by
  have placed : RoutingTable.Placed asking.table 3 ⟨2, [peerAt '2', peerAt '4']⟩ := by
    refine ⟨by decide, rfl, ⟨by decide, by decide⟩, fun node member => ?_⟩
    change Distance.bucketIndex (idOf 'f') node.nodeId = .ok 3
    rcases List.mem_pair.mp member with rfl | rfl
    · have distance := Distance.xorDistance_of_toInt toInt_fifteen toInt_two
      change Distance.bucketIndex (idOf 'f') (idOf '2') = .ok 3
      rw [Distance.bucketIndex, distance]
      rfl
    · have distance := Distance.xorDistance_of_toInt toInt_fifteen toInt_four
      change Distance.bucketIndex (idOf 'f') (idOf '4') = .ok 3
      rw [Distance.bucketIndex, distance]
      rfl
  refine ⟨⟨rfl, rfl, RoutingTable.sound_single placed rfl⟩, fun peer held => ?_⟩
  rcases mem_asking.mp held with rfl | rfl <;> decide

theorem distance_of_toInt {digit : Char} {value : Int}
    (read : Distance.toInt (idOf digit) = .ok value) :
    distanceTo (peerAt '0').nodeId (peerAt digit) = Int.xor value 0 :=
  distanceTo_of_toInt read toInt_zero

theorem four_near : peerAt '4' ∈ seeds asking (peerAt '0').nodeId :=
  Nearest.mem_nearest_of_room (mem_asking.mpr (.inr rfl)) (by decide)

theorem four_passed : ¬SeedCounts asking crowd (peerAt '0') (peerAt '4') := by
  have two : distanceTo (peerAt '0').nodeId (peerAt '2') = 2 := distance_of_toInt toInt_two
  have four : distanceTo (peerAt '0').nodeId (peerAt '4') = 4 := distance_of_toInt toInt_four
  have one : distanceTo (peerAt '0').nodeId (peerAt '1') = 1 := distance_of_toInt toInt_one
  rw [SeedCounts, not_or, not_or]
  refine ⟨?_, ?_, ?_⟩
  · intro held
    rcases mem_asking.mp held with same | same
    · exact absurd same (by decide)
    · exact absurd same (by decide)
  · refine Nearest.not_mem_nearest_of_many (List.nodup_singleton (peerAt '2')) (by decide) ?_
    intro other member
    rw [List.mem_singleton.mp member]
    refine ⟨mem_asking.mpr (.inl rfl), ?_⟩
    rw [two, four]
    decide
  · intro few
    refine absurd (few [peerAt '1', peerAt '2'] (by decide) fun peer member => ?_) (by decide)
    rw [four]
    rcases List.mem_pair.mp member with rfl | rfl
    · rw [one]
      decide
    · rw [two]
      decide

/-- Adversaries on the first path hide the target from an honest seed that knows it. -/
theorem target_hidden : ¬Finds asking crowd (peerAt '0') (peerAt '4') 2 :=
  not_finds distinct_crowd settled_asking (by decide) (by decide) (by decide) (by decide)
    four_near four_passed 2

theorem asking_finds_iff :
    Finds asking crowd (peerAt '0') (peerAt '4') 3 ↔
      SeedCounts asking crowd (peerAt '0') (peerAt '4') :=
  finds_iff distinct_crowd settled_asking (by decide) (by decide) (by decide) (by decide)
    (by decide) four_near 3

end Agtp.DisjointSamples
