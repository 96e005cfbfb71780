import Agtp.Dht.Kademlia

/-! # Lookups among readable ids

Where every id that a peer may name can be read, a lookup does not raise, and it ends if there
are finitely many ids. -/

namespace Agtp.KademliaNode

variable [TextCase] [HexText] {World : Type}

open RoutingTable (Takes)

/-! ## Computations that may not end -/

omit [TextCase] [HexText] in
theorem bind_of_ok {Value Result : Type} {first : Unbounded Value} {value : Value}
    (ended : first.run = some (.ok value)) (next : Value → Unbounded Result) :
    (first >>= next).run = (next value).run := by
  change (first.run >>= ExceptT.bindCont next) = _
  rw [ended]
  rfl

omit [TextCase] [HexText] in
theorem bind_of_error {Value Result : Type} {first : Unbounded Value} {fault : DhtFault}
    (raised : first.run = some (.error fault)) (next : Value → Unbounded Result) :
    (first >>= next).run = some (.error fault) := by
  change (first.run >>= ExceptT.bindCont next) = _
  rw [raised]
  rfl

omit [TextCase] [HexText] in
theorem ok_of_bind {Value Result : Type} {first : Unbounded Value}
    {next : Value → Unbounded Result} {result : Result}
    (ended : (first >>= next).run = some (.ok result)) :
    ∃ value, first.run = some (.ok value) ∧ (next value).run = some (.ok result) := by
  change (first.run >>= ExceptT.bindCont next) = _ at ended
  cases ran : first.run with
  | none =>
      rw [ran] at ended
      cases ended
  | some outcome =>
      rw [ran] at ended
      cases outcome with
      | error fault => cases ended
      | ok value => exact ⟨value, rfl, ended⟩

/-! ## Who may be named -/

/-- The peers of a network, which a node with this id can take and compare. -/
structure Fits (own key : String) (known : NodeInfo → Prop) : Prop where
  takes : ∀ peer, known peer → Takes own peer.nodeId
  measured : ∀ peer, known peer → peer.nodeId ≠ own → Measured key peer

def Within (rpc : Rpc World) (known : NodeInfo → Prop) : Prop :=
  ∀ world peer key answers, (rpc world peer key).1 = some answers →
    ∀ answer ∈ answers, known answer

omit [TextCase] [HexText] in
theorem Within.safeRpc {rpc : Rpc World} {known : NodeInfo → Prop} (within : Within rpc known)
    (world : World) (peer : NodeInfo) (key : String) :
    ∀ answer ∈ (safeRpc rpc world peer key).1, known answer := by
  intro answer member
  cases answered : (rpc world peer key).1 with
  | none =>
      rw [Agtp.safeRpc, answered] at member
      exact absurd member List.not_mem_nil
  | some answers =>
      rw [Agtp.safeRpc, answered] at member
      exact within world peer key answers answered answer member

/-- The table is this node's, and sound. -/
structure Sound (node : KademliaNode) : Prop where
  own : node.table.nodeId = node.info.nodeId
  room : node.table.k = node.k
  table : node.table.Sound

structure SameSettings (node after : KademliaNode) : Prop where
  info : after.info = node.info
  k : after.k = node.k
  alpha : after.alpha = node.alpha

omit [TextCase] [HexText] in
theorem SameSettings.refl (node : KademliaNode) : SameSettings node node :=
  ⟨rfl, rfl, rfl⟩

omit [TextCase] [HexText] in
theorem SameSettings.trans {node middle after : KademliaNode}
    (first : SameSettings node middle) (second : SameSettings middle after) :
    SameSettings node after :=
  ⟨second.info.trans first.info, second.k.trans first.k, second.alpha.trans first.alpha⟩

/-- A sound node that knows no others. -/
structure Settled (node : KademliaNode) (known : NodeInfo → Prop) : Prop where
  sound : node.Sound
  known : ∀ peer ∈ node.table.allNodes, known peer

/-! ## Observing -/

structure Observed (named : List NodeInfo) (node after : KademliaNode) : Prop where
  settings : SameSettings node after
  sound : after.Sound
  named_or_held : ∀ other ∈ after.table.allNodes,
    other ∈ named ∨ other ∈ node.table.allNodes
  keeps : ∀ nodeId ∈ node.table.allNodes.map NodeInfo.nodeId,
    nodeId ∈ after.table.allNodes.map NodeInfo.nodeId

theorem Observed.refl {node : KademliaNode} (sound : node.Sound) : Observed [] node node :=
  ⟨.refl node, sound, fun _ => .inr, fun _ => id⟩

omit [TextCase] [HexText] in
theorem Observed.append [TextCase] [HexText] {first second : List NodeInfo}
    {node middle after : KademliaNode} (before : Observed first node middle)
    (later : Observed second middle after) : Observed (first ++ second) node after where
  settings := before.settings.trans later.settings
  sound := later.sound
  named_or_held other held := by
    rcases later.named_or_held other held with named | there
    · exact .inl (List.mem_append_right first named)
    · exact (before.named_or_held other there).imp_left (List.mem_append_left second)
  keeps nodeId held := later.keeps nodeId (before.keeps nodeId held)

theorem Observed.settled {named : List NodeInfo} {node after : KademliaNode}
    {known : NodeInfo → Prop} (observed : Observed named node after)
    (settled : node.Settled known) (all : ∀ peer ∈ named, known peer) : after.Settled known :=
  ⟨observed.sound, fun peer held =>
    (observed.named_or_held peer held).elim (all peer) (settled.known peer)⟩

theorem mem_of_observe {node after : KademliaNode} {peer other : NodeInfo}
    (done : node.observe peer = .ok after) (member : other ∈ after.table.allNodes) :
    other = peer ∨ other ∈ node.table.allNodes := by
  rw [observe] at done
  split at done
  · rcases Fallible.ok_of_bind done with ⟨⟨table, candidate⟩, added, returned⟩
    cases returned
    exact RoutingTable.mem_of_addNode added member
  · cases done
    exact .inr member

theorem observed_of_observe {node : KademliaNode} (sound : node.Sound) (room : 0 < node.k)
    {peer : NodeInfo} (takes : Takes node.info.nodeId peer.nodeId) :
    ∃ after, node.observe peer = .ok after ∧ Observed [peer] node after := by
  rw [observe]
  split
  · rw [← sound.own] at takes
    rw [← sound.room] at room
    rcases RoutingTable.took_of_takes sound.table room takes with
      ⟨table, candidate, added, took⟩
    refine ⟨{ node with table }, ?_, ⟨rfl, rfl, rfl⟩, ?_, ?_, ?_⟩
    · rw [added]
      rfl
    · exact ⟨took.own.trans sound.own, took.room.trans sound.room, took.sound⟩
    · intro other held
      exact (RoutingTable.mem_of_addNode added held).imp_left List.mem_singleton.mpr
    · intro nodeId held
      rcases List.mem_map.mp held with ⟨other, member, rfl⟩
      rcases took.keeps other member with kept | ⟨same, replaced⟩
      · exact List.mem_map_of_mem kept
      · rw [same]
        exact List.mem_map_of_mem replaced
  · refine ⟨node, rfl, .refl node, sound, fun _ => .inr, fun _ => id⟩

/-! ## One query -/

/-- A walk of a node: the table and the shortlist hold only peers that are known, and
the shortlist not the node itself. -/
structure Good (node : KademliaNode) (known : NodeInfo → Prop) (walk : Walk World) : Prop where
  settings : SameSettings node walk.node
  settled : walk.node.Settled known
  listed : ∀ peer ∈ walk.shortlist.values, known peer ∧ peer.nodeId ≠ node.info.nodeId

structure Grown (named : List NodeInfo) (walk after : Walk World) : Prop where
  observed : Observed named walk.node after.node
  added : ∃ added, after.shortlist.values = walk.shortlist.values ++ added ∧
    ∀ peer ∈ added, peer ∈ named ∧ peer.nodeId ≠ walk.node.info.nodeId
  covers : ∀ peer ∈ named, peer.nodeId = walk.node.info.nodeId ∨
    peer.nodeId ∈ after.shortlist.ids ∨ peer.nodeId ∈ walk.exclude
  queried : after.queried = walk.queried
  exclude : after.exclude = walk.exclude
  world : after.world = walk.world

omit [TextCase] [HexText] in
theorem ids_of_added {first second : Shortlist} {added : List NodeInfo}
    (grown : second.values = first.values ++ added) {nodeId : String}
    (member : nodeId ∈ first.ids) : nodeId ∈ second.ids := by
  rw [ById.ids, grown, List.map_append]
  exact List.mem_append_left _ member

theorem Grown.refl {walk : Walk World} (sound : walk.node.Sound) : Grown [] walk walk :=
  ⟨.refl sound, ⟨[], (List.append_nil _).symm, nofun⟩, nofun, rfl, rfl, rfl⟩

theorem Grown.append {first second : List NodeInfo} {walk middle after : Walk World}
    (before : Grown first walk middle) (later : Grown second middle after) :
    Grown (first ++ second) walk after := by
  rcases before.added with ⟨earlyAdded, early, earlyNamed⟩
  rcases later.added with ⟨lateAdded, late, lateNamed⟩
  have own : middle.node.info.nodeId = walk.node.info.nodeId :=
    congrArg NodeInfo.nodeId before.observed.settings.info
  refine ⟨before.observed.append later.observed, ⟨earlyAdded ++ lateAdded, ?_, ?_⟩, ?_,
    later.queried.trans before.queried, later.exclude.trans before.exclude,
    later.world.trans before.world⟩
  · rw [late, early, List.append_assoc]
  · intro peer member
    rcases List.mem_append.mp member with inFirst | inSecond
    · exact ⟨List.mem_append_left _ (earlyNamed peer inFirst).1, (earlyNamed peer inFirst).2⟩
    · exact ⟨List.mem_append_right _ (lateNamed peer inSecond).1,
        own ▸ (lateNamed peer inSecond).2⟩
  · intro peer member
    rcases List.mem_append.mp member with inFirst | inSecond
    · exact (before.covers peer inFirst).imp_right (Or.imp_left (ids_of_added late))
    · have covered := later.covers peer inSecond
      rwa [own, before.exclude] at covered

theorem Grown.good {node : KademliaNode} {known : NodeInfo → Prop} {named : List NodeInfo}
    {walk after : Walk World} (grown : Grown named walk after) (good : Good node known walk)
    (all : ∀ peer ∈ named, known peer) : Good node known after := by
  rcases grown.added with ⟨added, values, fromNamed⟩
  refine ⟨good.settings.trans grown.observed.settings,
    grown.observed.settled good.settled all, ?_⟩
  intro peer member
  rw [values] at member
  rcases List.mem_append.mp member with before | new
  · exact good.listed peer before
  · rw [← good.settings.info]
    exact ⟨all peer (fromNamed peer new).1, (fromNamed peer new).2⟩

section Steps

variable {node : KademliaNode} {key : String} {known : NodeInfo → Prop}

omit [TextCase] [HexText] in
theorem learn_of_observe [TextCase] [HexText] {walk : Walk World} {answer : NodeInfo}
    {observer : KademliaNode} (done : walk.node.observe answer = .ok observer) :
    learn walk answer = if answer.nodeId ≠ observer.info.nodeId ∧
      answer.nodeId ∉ walk.shortlist.ids ∧ answer.nodeId ∉ walk.exclude then
        .ok { walk with node := observer, shortlist := walk.shortlist.put answer }
      else .ok { walk with node := observer } := by
  rw [learn, done]
  rfl

theorem grown_of_learn (fits : Fits node.info.nodeId key known) (room : 0 < node.k)
    {walk : Walk World} (good : Good node known walk) {answer : NodeInfo}
    (named : known answer) :
    ∃ after, learn walk answer = .ok after ∧ Grown [answer] walk after := by
  have takes : Takes walk.node.info.nodeId answer.nodeId := by
    rw [good.settings.info]
    exact fits.takes answer named
  rcases observed_of_observe good.settled.sound (good.settings.k.symm ▸ room) takes with
    ⟨observer, done, observed⟩
  have own : observer.info.nodeId = walk.node.info.nodeId :=
    congrArg NodeInfo.nodeId observed.settings.info
  rw [learn_of_observe done]
  split
  · next new =>
      refine ⟨_, rfl, observed, ⟨[answer], ?_, ?_⟩, ?_, rfl, rfl, rfl⟩
      · exact ById.values_put_of_new new.2.1
      · intro peer member
        rw [List.mem_singleton.mp member]
        exact ⟨List.mem_cons_self, own ▸ new.1⟩
      · intro peer member
        rw [List.mem_singleton.mp member]
        exact .inr (.inl (ById.mem_ids_put.mpr (.inr rfl)))
  · next old =>
      refine ⟨_, rfl, observed, ⟨[], (List.append_nil _).symm, nofun⟩, ?_, rfl, rfl, rfl⟩
      intro peer member
      rw [List.mem_singleton.mp member]
      by_contra uncovered
      rw [not_or, not_or] at uncovered
      exact old ⟨own ▸ uncovered.1, uncovered.2.1, uncovered.2.2⟩

theorem grown_of_answers (fits : Fits node.info.nodeId key known) (room : 0 < node.k)
    {walk : Walk World} (good : Good node known walk) {answers : List NodeInfo}
    (all : ∀ answer ∈ answers, known answer) :
    ∃ after, answers.foldlM learn walk = .ok after ∧ Grown answers walk after := by
  induction answers generalizing walk with
  | nil => exact ⟨walk, rfl, .refl good.settled.sound⟩
  | cons answer rest induction =>
      have named := all answer List.mem_cons_self
      rcases grown_of_learn fits room good named with ⟨middle, first, grown⟩
      have goodMiddle := grown.good good fun peer member =>
        List.mem_singleton.mp member ▸ named
      rcases induction goodMiddle fun other member => all other (List.mem_cons_of_mem _ member)
        with ⟨after, rest, later⟩
      refine ⟨after, ?_, grown.append later⟩
      rw [List.foldlM_cons, first]
      exact rest

structure Queried (rpc : Rpc World) (key : String) (peer : NodeInfo) (walk after : Walk World) :
    Prop where
  observed : Observed (safeRpc rpc walk.world peer key).1 walk.node after.node
  added : ∃ added, after.shortlist.values = walk.shortlist.values ++ added ∧
    ∀ other ∈ added, other ∈ (safeRpc rpc walk.world peer key).1 ∧
      other.nodeId ≠ walk.node.info.nodeId
  covers : ∀ other ∈ (safeRpc rpc walk.world peer key).1,
    other.nodeId = walk.node.info.nodeId ∨ other.nodeId ∈ after.shortlist.ids ∨
      other.nodeId ∈ after.exclude
  queried : after.queried = addTo walk.queried peer.nodeId
  exclude : after.exclude = addTo walk.exclude peer.nodeId
  world : after.world = (safeRpc rpc walk.world peer key).2

theorem queried_of_query {rpc : Rpc World} (fits : Fits node.info.nodeId key known)
    (within : Within rpc known) (room : 0 < node.k) {walk : Walk World}
    (good : Good node known walk) (peer : NodeInfo) :
    ∃ after, query rpc key walk peer = .ok after ∧ Queried rpc key peer walk after ∧
      Good node known after := by
  have all := within.safeRpc walk.world peer key
  -- the marks and the world are changed first, and the walk stays good
  have marked : Good node known { walk with
      queried := addTo walk.queried peer.nodeId
      exclude := addTo walk.exclude peer.nodeId
      world := (safeRpc rpc walk.world peer key).2 } :=
    ⟨good.settings, good.settled, good.listed⟩
  rcases grown_of_answers fits room marked all with ⟨after, done, grown⟩
  refine ⟨after, done, ⟨grown.observed, grown.added, ?_, grown.queried, grown.exclude,
    grown.world⟩, grown.good marked all⟩
  intro other member
  rw [grown.exclude]
  exact grown.covers other member

end Steps

/-! ## A batch -/

structure Tracked (walk : Walk World) : Prop where
  distinct : walk.queried.Nodup
  listed : ∀ nodeId ∈ walk.queried, nodeId ∈ walk.shortlist.ids

/-- The queries of a batch, one after the other: each is of a peer on the shortlist that
has not been queried. -/
inductive Batch (rpc : Rpc World) (key : String) (node : KademliaNode)
    (known : NodeInfo → Prop) : Walk World → List NodeInfo → Walk World → Prop where
  | nil (walk : Walk World) : Batch rpc key node known walk [] walk
  | cons {walk middle after : Walk World} {peer : NodeInfo} {rest : List NodeInfo}
      (good : Good node known walk) (tracked : Tracked walk)
      (listed : peer ∈ walk.shortlist.values) (unqueried : peer.nodeId ∉ walk.queried)
      (asked : Queried rpc key peer walk middle)
      (others : Batch rpc key node known middle rest after) :
      Batch rpc key node known walk (peer :: rest) after

omit [TextCase] [HexText] in
theorem mem_addTo_iff {set : List String} {nodeId other : String} :
    other ∈ addTo set nodeId ↔ other ∈ set ∨ other = nodeId := by
  rw [addTo]
  split
  · next held =>
      constructor
      · exact Or.inl
      · intro either
        rcases either with there | rfl
        · exact there
        · exact held
  · simp

omit [TextCase] [HexText] in
theorem addTo_of_new {set : List String} {nodeId : String} (new : nodeId ∉ set) :
    addTo set nodeId = set ++ [nodeId] := by
  rw [addTo, if_neg new]

theorem Queried.tracked {rpc : Rpc World} {key : String} {peer : NodeInfo}
    {walk after : Walk World} (asked : Queried rpc key peer walk after)
    (tracked : Tracked walk) (listed : peer ∈ walk.shortlist.values) : Tracked after := by
  rcases asked.added with ⟨added, values, _⟩
  constructor
  · rw [asked.queried, addTo]
    split
    · exact tracked.distinct
    · next new =>
        refine tracked.distinct.append (List.nodup_singleton _) ?_
        intro nodeId held single
        exact new (List.mem_singleton.mp single ▸ held)
  · intro nodeId member
    rw [asked.queried, mem_addTo_iff] at member
    rcases member with before | rfl
    · exact ids_of_added values (tracked.listed nodeId before)
    · exact ids_of_added values (List.mem_map_of_mem listed)

section Passes

variable {node : KademliaNode} {key : String} {known : NodeInfo → Prop} {rpc : Rpc World}

theorem Batch.preserves {walk after : Walk World} {peers : List NodeInfo}
    (batch : Batch rpc key node known walk peers after) (invariant : Walk World → Prop)
    (keeps : ∀ walk peer after, Good node known walk → Tracked walk →
      peer ∈ walk.shortlist.values → peer.nodeId ∉ walk.queried → peer ∈ peers →
      Queried rpc key peer walk after → invariant walk → invariant after)
    (holds : invariant walk) : invariant after := by
  induction batch with
  | nil => exact holds
  | cons good tracked listed unqueried asked _ induction =>
      refine induction (fun walk peer after good tracked listed unqueried member =>
        keeps walk peer after good tracked listed unqueried (List.mem_cons_of_mem _ member)) ?_
      exact keeps _ _ _ good tracked listed unqueried List.mem_cons_self asked holds

theorem batch_of_foldlM (fits : Fits node.info.nodeId key known) (within : Within rpc known)
    (room : 0 < node.k) {walk : Walk World} (good : Good node known walk)
    (tracked : Tracked walk) {peers : List NodeInfo}
    (distinct : (peers.map NodeInfo.nodeId).Nodup)
    (listed : ∀ peer ∈ peers, peer ∈ walk.shortlist.values)
    (unqueried : ∀ peer ∈ peers, peer.nodeId ∉ walk.queried) :
    ∃ after, peers.foldlM (query rpc key) walk = .ok after ∧
      Batch rpc key node known walk peers after ∧ Good node known after ∧ Tracked after := by
  induction peers generalizing walk with
  | nil => exact ⟨walk, rfl, .nil walk, good, tracked⟩
  | cons peer rest induction =>
      rw [List.map_cons, List.nodup_cons] at distinct
      rcases queried_of_query fits within room good peer with
        ⟨middle, done, asked, goodMiddle⟩
      have first := listed peer List.mem_cons_self
      rcases asked.added with ⟨added, values, _⟩
      rcases induction goodMiddle (asked.tracked tracked first) distinct.2
          (fun other member => by
            rw [values]
            exact List.mem_append_left _ (listed other (List.mem_cons_of_mem _ member)))
          (fun other member held => by
            rw [asked.queried, mem_addTo_iff] at held
            rcases held with before | same
            · exact unqueried other (List.mem_cons_of_mem _ member) before
            · exact distinct.1 (same ▸ List.mem_map_of_mem member)) with
        ⟨after, rest, batch, goodAfter, trackedAfter⟩
      refine ⟨after, ?_, .cons good tracked first (unqueried peer List.mem_cons_self) asked
        batch, goodAfter, trackedAfter⟩
      rw [List.foldlM_cons, done]
      exact rest

/-! ## A pass -/

def topk (key : String) (walk : Walk World) : List NodeInfo :=
  Nearest.nearest (distanceTo key) walk.node.k walk.shortlist.values

def unqueried (key : String) (walk : Walk World) : List NodeInfo :=
  (topk key walk).filter fun peer => peer.nodeId ∉ walk.queried

theorem Good.measured {walk : Walk World} (good : Good node known walk)
    (fits : Fits node.info.nodeId key known) :
    ∀ peer ∈ walk.shortlist.values, Measured key peer := by
  intro peer member
  rcases good.listed peer member with ⟨named, other⟩
  exact fits.measured peer named other

omit [TextCase] [HexText] in
theorem closest_of_measured [TextCase] [HexText] (shortlist : Shortlist)
    (measured : ∀ peer ∈ shortlist.values, Measured key peer) (count : Nat) :
    closest shortlist.values key count =
      .ok (Nearest.nearest (distanceTo key) count shortlist.values) := by
  rw [closest, ById.values_ofList shortlist.distinct]
  exact closestOf_of_measured measured count

theorem closest_shortlist {walk : Walk World} (good : Good node known walk)
    (fits : Fits node.info.nodeId key known) (count : Nat) :
    closest walk.shortlist.values key count =
      .ok (Nearest.nearest (distanceTo key) count walk.shortlist.values) :=
  closest_of_measured walk.shortlist (good.measured fits) count

theorem distinct_unqueried (walk : Walk World) :
    ((unqueried key walk).map NodeInfo.nodeId).Nodup :=
  (Nearest.nodup_nearest walk.shortlist.distinct).sublist (List.filter_sublist.map _)

omit [TextCase] [HexText] in
theorem pass_of_closest [TextCase] [HexText] {walk : Walk World} {topk : List NodeInfo}
    (sorted : closest walk.shortlist.values key walk.node.k = .ok topk) :
    pass rpc key walk =
      if (topk.filter fun peer => peer.nodeId ∉ walk.queried) = [] then .ok none
      else (((topk.filter fun peer => peer.nodeId ∉ walk.queried).take
        walk.node.alpha).foldlM (query rpc key) walk).map some := by
  rw [pass, sorted]
  rfl

/-- A pass leaves the loop if all of the nearest have been queried, and otherwise queries
the first of those that have not. -/
theorem pass_cases (fits : Fits node.info.nodeId key known) (within : Within rpc known)
    {walk : Walk World} (good : Good node known walk) (tracked : Tracked walk) :
    unqueried key walk = [] ∧ pass rpc key walk = .ok none ∨
    ∃ after, unqueried key walk ≠ [] ∧ pass rpc key walk = .ok (some after) ∧
      Batch rpc key node known walk ((unqueried key walk).take node.alpha) after ∧
      Good node known after ∧ Tracked after := by
  have passed : pass rpc key walk =
      if unqueried key walk = [] then .ok none
      else (((unqueried key walk).take walk.node.alpha).foldlM (query rpc key) walk).map some :=
    pass_of_closest (closest_shortlist good fits _)
  by_cases done : unqueried key walk = []
  · rw [passed, if_pos done]
    exact .inl ⟨done, rfl⟩
  · rw [passed, if_neg done, good.settings.alpha]
    rcases List.exists_mem_of_ne_nil _ done with ⟨peer, member⟩
    have near := List.mem_of_mem_filter member
    have room : 0 < node.k := by
      have some := List.length_pos_of_mem near
      rw [topk, Nearest.length_nearest, good.settings.k] at some
      omega
    have inside : ∀ peer ∈ (unqueried key walk).take node.alpha,
        peer ∈ (topk key walk).filter fun peer => peer.nodeId ∉ walk.queried :=
      fun _ => List.mem_of_mem_take
    rcases batch_of_foldlM fits within room good tracked
        ((distinct_unqueried walk).sublist ((List.take_sublist _ _).map _))
        (fun peer member =>
          Nearest.mem_of_nearest (List.mem_of_mem_filter (inside peer member)))
        (fun peer member => by simpa using List.of_mem_filter (inside peer member)) with
      ⟨after, folded, batch, goodAfter, trackedAfter⟩
    refine .inr ⟨after, done, ?_, batch, goodAfter, trackedAfter⟩
    rw [folded]
    rfl

/-! ## The whole lookup -/

def seeds (node : KademliaNode) (key : String) : List NodeInfo :=
  Nearest.nearest (distanceTo key) node.k node.table.allNodes

def start (node : KademliaNode) (key : String) (exclude : List String) (world : World) :
    Walk World where
  node
  shortlist := ById.ofList ((seeds node key).filter fun seed => seed.nodeId ∉ exclude)
  queried := []
  exclude
  world

theorem measured_table (settled : node.Settled known) (fits : Fits node.info.nodeId key known) :
    ∀ peer ∈ node.table.allNodes, Measured key peer := by
  intro peer held
  refine fits.measured peer (settled.known peer held) ?_
  rw [← settled.sound.own]
  exact settled.sound.table.ne_own held

theorem closest_table (settled : node.Settled known) (fits : Fits node.info.nodeId key known)
    (count : Nat) :
    node.table.closest key (some count) =
      .ok (Nearest.nearest (distanceTo key) count node.table.allNodes) :=
  closestOf_of_measured (measured_table settled fits) count

theorem seeded_eq_start (settled : node.Settled known) (fits : Fits node.info.nodeId key known)
    (exclude : List String) (world : World) :
    seeded node key exclude world = .ok (start node key exclude world) := by
  rw [seeded, closest_table settled fits]
  rfl

omit [TextCase] [HexText] in
theorem values_seeds [TextCase] [HexText] (sound : node.Sound) (key : String)
    (exclude : List String) (world : World) :
    (start node key exclude world).shortlist.values =
      (seeds node key).filter fun seed => seed.nodeId ∉ exclude :=
  ById.values_ofList
    ((Nearest.nodup_nearest sound.table.distinct).sublist (List.filter_sublist.map _))

omit [TextCase] [HexText] in
theorem values_start [TextCase] [HexText] (sound : node.Sound) (key : String) (world : World) :
    (start node key [] world).shortlist.values = seeds node key := by
  rw [values_seeds sound, List.filter_eq_self]
  exact fun _ _ => rfl

theorem good_start (settled : node.Settled known) (key : String) (exclude : List String)
    (world : World) : Good node known (start node key exclude world) := by
  refine ⟨.refl node, settled, ?_⟩
  intro peer member
  have held := Nearest.mem_of_nearest
    (List.mem_of_mem_filter (ById.mem_of_mem_ofList member))
  refine ⟨settled.known peer held, ?_⟩
  rw [← settled.sound.own]
  exact settled.sound.table.ne_own held

omit [TextCase] [HexText] in
theorem tracked_start [TextCase] [HexText] (node : KademliaNode) (key : String)
    (exclude : List String) (world : World) : Tracked (start node key exclude world) :=
  ⟨List.nodup_nil, nofun⟩

def remaining (domain : List String) (walk : Walk World) : Nat :=
  (domain.filter fun nodeId => nodeId ∉ walk.queried).length

theorem Batch.queried {walk after : Walk World} {peers : List NodeInfo}
    (batch : Batch rpc key node known walk peers after) (nodeId : String) :
    nodeId ∈ after.queried ↔ nodeId ∈ walk.queried ∨ nodeId ∈ peers.map NodeInfo.nodeId := by
  induction batch with
  | nil => simp
  | cons _ _ _ _ asked _ induction =>
      rw [induction, asked.queried, mem_addTo_iff, List.map_cons, List.mem_cons, or_assoc]

theorem remaining_lt {domain : List String}
    (finite : ∀ peer, known peer → peer.nodeId ∈ domain) {walk after : Walk World}
    {peers : List NodeInfo} (batch : Batch rpc key node known walk peers after)
    (some : peers ≠ []) : remaining domain after < remaining domain walk := by
  have earlier := batch.queried
  cases batch with
  | nil => exact absurd rfl some
  | @cons _ _ _ peer _ good _ listed unqueried _ _ =>
      have fewer : (domain.filter fun nodeId => nodeId ∉ after.queried) =
          (domain.filter fun nodeId => nodeId ∉ walk.queried).filter
            fun nodeId => nodeId ∉ after.queried := by
        rw [List.filter_filter]
        apply List.filter_congr
        intro nodeId _
        have grew := (earlier nodeId).mpr ∘ Or.inl
        by_cases held : nodeId ∈ after.queried
        · simp [held]
        · have before : nodeId ∉ walk.queried := fun there => held (grew there)
          simp [held, before]
      rw [remaining, fewer, remaining]
      apply List.length_filter_lt_length_iff_exists.mpr
      refine ⟨peer.nodeId, List.mem_filter.mpr ⟨finite peer (good.listed peer listed).1, ?_⟩, ?_⟩
      · simpa using unqueried
      · have now := (earlier peer.nodeId).mpr (.inr List.mem_cons_self)
        simpa using now

/-- What a lookup ends with: what every batch preserves, and all of the nearest peers
queried. -/
structure Ended (node : KademliaNode) (key : String) (known : NodeInfo → Prop)
    (invariant : Walk World → Prop) (walk : Walk World) : Prop where
  good : Good node known walk
  tracked : Tracked walk
  holds : invariant walk
  done : unqueried key walk = []

theorem lookup_ends (fits : Fits node.info.nodeId key known) (within : Within rpc known)
    (settled : node.Settled known) {domain : List String}
    (finite : ∀ peer, known peer → peer.nodeId ∈ domain) (alpha : 0 < node.alpha)
    (exclude : List String) (world : World) {invariant : Walk World → Prop}
    (starts : invariant (start node key exclude world))
    (keeps : ∀ walk after, Good node known walk → Tracked walk → unqueried key walk ≠ [] →
      Batch rpc key node known walk ((unqueried key walk).take node.alpha) after →
      invariant walk → invariant after)
    {depth : Nat} (enough : domain.length < depth) :
    ∃ walk, (lookup depth rpc node key exclude world).run = some (.ok walk) ∧
      Ended node key known invariant walk := by
  have passes : ∀ walk, Good node known walk ∧ Tracked walk ∧ invariant walk →
      pass rpc key walk = .ok none ∨ ∃ next, pass rpc key walk = .ok (some next) ∧
        (Good node known next ∧ Tracked next ∧ invariant next) ∧
          remaining domain next < remaining domain walk := by
    intro walk ⟨good, tracked, holds⟩
    rcases pass_cases fits within good tracked with
      ⟨_, left⟩ | ⟨after, more, went, batch, goodAfter, trackedAfter⟩
    · exact .inl left
    · refine .inr ⟨after, went,
        ⟨goodAfter, trackedAfter, keeps walk after good tracked more batch holds⟩,
        remaining_lt finite batch ?_⟩
      rw [ne_eq, List.take_eq_nil_iff, not_or]
      exact ⟨by omega, more⟩
  have most : remaining domain (start node key exclude world) ≤ domain.length :=
    List.length_filter_le _ _
  rcases Loop.run_of_measure (remaining domain) passes
      ⟨good_start settled key exclude world, tracked_start node key exclude world, starts⟩
      (by omega : remaining domain (start node key exclude world) < depth) with
    ⟨walk, ended, ⟨good, tracked, holds⟩, left⟩
  refine ⟨walk, ?_, good, tracked, holds, ?_⟩
  · rw [lookup, seeded_eq_start settled fits]
    exact ended
  · rcases pass_cases fits within good tracked with ⟨done, _⟩ | ⟨after, _, went, _⟩
    · exact done
    · rw [went] at left
      cases left

theorem lookup_of_unseeded {exclude : List String} {world : World}
    (seeds : seeded node key exclude world = .ok ⟨node, .empty, [], exclude, world⟩)
    (depth : Nat) :
    (lookup (depth + 1) rpc node key exclude world).run =
      some (.ok ⟨node, .empty, [], exclude, world⟩) := by
  have left : pass rpc key (⟨node, .empty, [], exclude, world⟩ : Walk World) = .ok none := by
    have sorted : closest (ById.empty : Shortlist).values key node.k = .ok [] :=
      closestOf_nil key node.k
    rw [pass, sorted]
    rfl
  rw [lookup, seeds]
  exact Loop.run_leave left depth

omit [TextCase] [HexText] in
theorem locate_of_lookup [TextCase] [HexText] {depth : Nat} {count : Option Nat} {world : World}
    {walk : Walk World} {found : List NodeInfo}
    (ended : (lookup depth rpc node key [] world).run = some (.ok walk))
    (sorted : closest walk.shortlist.values key (walk.node.countOf count) = .ok found) :
    (iterativeLocate depth rpc node key count world).run =
      some (.ok ⟨found, walk.node, walk.world⟩) := by
  rw [iterativeLocate, bind_of_ok ended, sorted]
  rfl

omit [TextCase] [HexText] in
theorem locateDisjoint_of_paths [TextCase] [HexText] {depth disjoint : Nat}
    {count : Option Nat} {world : World} {state : Paths World} {found : List NodeInfo}
    (ran : (paths depth rpc key (max 1 disjoint) ⟨node, [], .empty, world⟩).run =
      some (.ok state))
    (sorted : closest state.merged.values key (state.node.countOf count) = .ok found) :
    (iterativeLocateDisjoint depth rpc node key disjoint count world).run =
      some (.ok ⟨found, state.node, state.world⟩) := by
  rw [iterativeLocateDisjoint, bind_of_ok ran, sorted]
  rfl

end Passes

end Agtp.KademliaNode
