import Agtp.Dht.Lookup

/-! # The queries of a lookup

A lookup is observed through the calls that it makes: a log of the peers that it queries and of
what they answer. -/

namespace Agtp

abbrev QueryLog := List (NodeInfo × List NodeInfo)

def logged {World : Type} (rpc : Rpc World) : Rpc (World × QueryLog) :=
  fun world peer key =>
    ((rpc world.1 peer key).1,
      ((rpc world.1 peer key).2, world.2 ++ [(peer, (safeRpc rpc world.1 peer key).1)]))

theorem safeRpc_logged {World : Type} (rpc : Rpc World) (world : World × QueryLog)
    (peer : NodeInfo) (key : String) :
    safeRpc (logged rpc) world peer key =
      ((safeRpc rpc world.1 peer key).1, ((safeRpc rpc world.1 peer key).2,
        world.2 ++ [(peer, (safeRpc rpc world.1 peer key).1)])) := rfl

namespace KademliaNode

variable [TextCase] [HexText] {World : Type}

/-! ## The log changes nothing -/

def Walk.unlogged (walk : Walk (World × QueryLog)) : Walk World where
  node := walk.node
  shortlist := walk.shortlist
  queried := walk.queried
  exclude := walk.exclude
  world := walk.world.1

theorem learn_unlogged (walk : Walk (World × QueryLog)) (answer : NodeInfo) :
    learn (Walk.unlogged walk) answer = (learn walk answer).map Walk.unlogged := by
  cases observed : walk.node.observe answer with
  | error fault =>
      rw [learn, learn, observed, show (Walk.unlogged walk).node = walk.node from rfl, observed]
      rfl
  | ok node =>
      have same : (Walk.unlogged walk).node.observe answer = .ok node := observed
      rw [learn_of_observe observed, learn_of_observe same, apply_ite (Except.map Walk.unlogged)]
      rfl

omit [TextCase] [HexText] in
theorem foldlM_map {State Other Value Failure : Type} {change : State → Other}
    {step : State → Value → Except Failure State} {other : Other → Value → Except Failure Other}
    (commutes : ∀ state value, other (change state) value = (step state value).map change)
    (values : List Value) (state : State) :
    values.foldlM other (change state) = (values.foldlM step state).map change := by
  induction values generalizing state with
  | nil => rfl
  | cons value rest induction =>
      rw [List.foldlM_cons, List.foldlM_cons, commutes]
      cases step state value with
      | error failure => rfl
      | ok next => exact induction next

theorem query_unlogged (rpc : Rpc World) (key : String) (walk : Walk (World × QueryLog))
    (peer : NodeInfo) :
    query rpc key (Walk.unlogged walk) peer =
      (query (logged rpc) key walk peer).map Walk.unlogged :=
  foldlM_map learn_unlogged _ { walk with
    queried := addTo walk.queried peer.nodeId
    exclude := addTo walk.exclude peer.nodeId
    world := (safeRpc (logged rpc) walk.world peer key).2 }

theorem pass_unlogged (rpc : Rpc World) (key : String) (walk : Walk (World × QueryLog)) :
    pass rpc key (Walk.unlogged walk) =
      (pass (logged rpc) key walk).map (Option.map Walk.unlogged) := by
  cases sorted : closest walk.shortlist.values key walk.node.k with
  | error fault =>
      have same : closest (Walk.unlogged walk).shortlist.values key
          (Walk.unlogged walk).node.k = .error fault := sorted
      rw [pass, pass, sorted, same]
      rfl
  | ok topk =>
      have same : closest (Walk.unlogged walk).shortlist.values key
          (Walk.unlogged walk).node.k = .ok topk := sorted
      have batch := foldlM_map (query_unlogged rpc key)
        ((topk.filter fun node => node.nodeId ∉ walk.queried).take walk.node.alpha) walk
      rw [pass_of_closest sorted, pass_of_closest same,
        apply_ite (Except.map (Option.map Walk.unlogged))]
      refine if_congr Iff.rfl rfl ?_
      refine (congrArg (Except.map some) batch).trans ?_
      cases List.foldlM (query (logged rpc) key) walk
        ((topk.filter fun node => node.nodeId ∉ walk.queried).take walk.node.alpha) <;> rfl

theorem run_unlogged (rpc : Rpc World) (key : String) (depth : Nat)
    (walk : Walk (World × QueryLog)) :
    Loop.run (pass rpc key) depth (Walk.unlogged walk) =
      (Loop.run (pass (logged rpc) key) depth walk).map (Except.map Walk.unlogged) := by
  induction depth generalizing walk with
  | zero => rfl
  | succ depth induction =>
      have passed := pass_unlogged rpc key walk
      cases verdict : pass (logged rpc) key walk with
      | error fault =>
          rw [verdict] at passed
          rw [Loop.run_error verdict, Loop.run_error passed]
          rfl
      | ok next =>
          rw [verdict] at passed
          cases next with
          | none =>
              rw [Loop.run_leave verdict, Loop.run_leave passed]
              rfl
          | some next =>
              rw [Loop.run_next verdict, Loop.run_next passed]
              exact induction next

theorem lookup_unlogged (depth : Nat) (rpc : Rpc World) (node : KademliaNode) (key : String)
    (exclude : List String) (world : World × QueryLog) :
    (lookup depth rpc node key exclude world.1).run =
      (lookup depth (logged rpc) node key exclude world).run.map
        (Except.map Walk.unlogged) := by
  rw [lookup, lookup, seeded, seeded]
  cases node.table.closest key (some node.k) with
  | error fault => rfl
  | ok seeds =>
      exact run_unlogged rpc key depth
        ⟨node, ById.ofList (seeds.filter fun seed => seed.nodeId ∉ exclude), [], exclude, world⟩

/-! ## What a log says -/

section

variable {node : KademliaNode} {key : String} {known : NodeInfo → Prop} {rpc : Rpc World}

structure Logs (node : KademliaNode) (key : String) (known : NodeInfo → Prop)
    (walk : Walk (World × QueryLog)) : Prop where
  queried : walk.queried = walk.world.2.map fun query => query.1.nodeId
  asked : ∀ query ∈ walk.world.2, query.1 ∈ walk.shortlist.values
  seeded : ∀ seed ∈ seeds node key, seed ∈ walk.shortlist.values
  listed : ∀ peer ∈ walk.shortlist.values,
    peer ∈ seeds node key ∨ ∃ query ∈ walk.world.2, peer ∈ query.2
  held : ∀ peer ∈ walk.node.table.allNodes,
    peer ∈ node.table.allNodes ∨ ∃ query ∈ walk.world.2, peer ∈ query.2
  keeps : ∀ nodeId ∈ node.table.allNodes.map NodeInfo.nodeId,
    nodeId ∈ walk.node.table.allNodes.map NodeInfo.nodeId
  covers : ∀ query ∈ walk.world.2, ∀ peer ∈ query.2, peer.nodeId = node.info.nodeId ∨
    peer.nodeId ∈ walk.shortlist.ids
  named : ∀ query ∈ walk.world.2, ∀ peer ∈ query.2, known peer
  excluded : ∀ nodeId ∈ walk.exclude, nodeId ∈ walk.shortlist.ids

theorem logs_start (sound : node.Sound) (key : String) (world : World) :
    Logs node key known (start node key [] (world, ([] : QueryLog))) := by
  have values := values_start sound key (world, ([] : QueryLog))
  refine ⟨rfl, nofun, ?_, ?_, fun _ => .inl, fun _ => id, nofun, nofun, nofun⟩
  · intro seed member
    rwa [values]
  · intro peer member
    rw [values] at member
    exact .inl member

theorem Queried.written {walk after : Walk (World × QueryLog)} {peer : NodeInfo}
    (asked : Queried (logged rpc) key peer walk after) :
    after.world.2 = walk.world.2 ++ [(peer, (safeRpc rpc walk.world.1 peer key).1)] := by
  rw [asked.world, safeRpc_logged]

theorem Queried.mem_log {walk after : Walk (World × QueryLog)} {peer : NodeInfo}
    (asked : Queried (logged rpc) key peer walk after) {query : NodeInfo × List NodeInfo}
    (member : query ∈ after.world.2) :
    query ∈ walk.world.2 ∨ query = (peer, (safeRpc rpc walk.world.1 peer key).1) := by
  rw [asked.written] at member
  exact (List.mem_append.mp member).imp_right List.mem_singleton.mp

theorem Queried.logs {walk after : Walk (World × QueryLog)}
    {peer : NodeInfo} (asked : Queried (logged rpc) key peer walk after)
    (within : Within rpc known) (good : Good node known walk)
    (listed : peer ∈ walk.shortlist.values) (new : peer.nodeId ∉ walk.queried)
    (logs : Logs node key known walk) : Logs node key known after := by
  rcases asked.added with ⟨added, values, named⟩
  have own : walk.node.info.nodeId = node.info.nodeId :=
    congrArg NodeInfo.nodeId good.settings.info
  have written := asked.written
  have entry : ∀ query ∈ after.world.2, query ∈ walk.world.2 ∨
      query = (peer, (safeRpc rpc walk.world.1 peer key).1) := fun _ => asked.mem_log
  have still : ∀ other ∈ walk.shortlist.values, other ∈ after.shortlist.values := by
    intro other member
    rw [values]
    exact List.mem_append_left added member
  have earlier {other : NodeInfo} (before : ∃ query ∈ walk.world.2, other ∈ query.2) :
      ∃ query ∈ after.world.2, other ∈ query.2 := by
    rcases before with ⟨query, member, inside⟩
    exact ⟨query, written ▸ List.mem_append_left _ member, inside⟩
  have latest {other : NodeInfo} (inside : other ∈ (safeRpc rpc walk.world.1 peer key).1) :
      ∃ query ∈ after.world.2, other ∈ query.2 :=
    ⟨_, written ▸ List.mem_append_right _ List.mem_cons_self, inside⟩
  have excluded : ∀ nodeId ∈ after.exclude, nodeId ∈ after.shortlist.ids := by
    intro nodeId member
    rw [asked.exclude, mem_addTo_iff] at member
    rcases member with before | rfl
    · exact ids_of_added values (logs.excluded nodeId before)
    · exact List.mem_map_of_mem (still peer listed)
  refine ⟨?_, ?_, fun seed member => still seed (logs.seeded seed member), ?_, ?_, ?_, ?_,
    ?_, excluded⟩
  · rw [asked.queried, addTo_of_new new, written, List.map_append, logs.queried]
    rfl
  · intro query member
    rcases entry query member with before | rfl
    · exact still _ (logs.asked query before)
    · exact still peer listed
  · intro other member
    rw [values] at member
    rcases List.mem_append.mp member with before | fresh
    · exact (logs.listed other before).imp_right earlier
    · exact .inr (latest (named other fresh).1)
  · intro other held
    rcases asked.observed.named_or_held other held with answered | before
    · exact .inr (latest answered)
    · exact (logs.held other before).imp_right earlier
  · intro nodeId held
    exact asked.observed.keeps nodeId (logs.keeps nodeId held)
  · intro query member other inside
    rcases entry query member with before | rfl
    · exact (logs.covers query before other inside).imp_right (ids_of_added values)
    · rcases asked.covers other inside with same | onList | out
      · exact .inl (same.trans own)
      · exact .inr onList
      · exact .inr (excluded _ out)
  · intro query member
    rcases entry query member with before | rfl
    · exact logs.named query before
    · exact within.safeRpc walk.world.1 peer key

theorem logs_of_lookup (fits : Fits node.info.nodeId key known) (within : Within rpc known)
    (settled : node.Settled known) {domain : List String}
    (finite : ∀ peer, known peer → peer.nodeId ∈ domain) (alpha : 0 < node.alpha)
    (world : World) {depth : Nat} (enough : domain.length < depth) :
    ∃ walk, (lookup depth (logged rpc) node key [] (world, [])).run = some (.ok walk) ∧
      Ended node key known (Logs node key known) walk := by
  have withinLogged : Within (logged rpc) known :=
    fun world peer => within world.1 peer
  refine lookup_ends fits withinLogged settled finite alpha [] (world, [])
    (logs_start settled.sound key world) ?_ enough
  intro walk after good tracked _ batch logs
  exact batch.preserves (Logs node key known) (fun walk peer after good _ listed new _ asked logs =>
    asked.logs within good listed new logs) logs

end

end KademliaNode

end Agtp
