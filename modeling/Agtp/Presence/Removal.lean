import Agtp.Presence.Network

/-! # Removal

What it takes for an agent to stay away from a coordinator that removed it. -/

namespace Agtp

def PresenceRecord.relayedAlong (texts : List String) (record : PresenceRecord) :
    PresenceRecord :=
  texts.foldl (fun record text => record.relayed text) record

@[simp] theorem PresenceRecord.agentId_relayedAlong (texts : List String)
    (record : PresenceRecord) : (record.relayedAlong texts).agentId = record.agentId := by
  induction texts generalizing record with
  | nil => rfl
  | cons text rest induction => exact induction (record.relayed text)

theorem PresenceRecord.live_of_relayed [Floats] {record : PresenceRecord} {text : String}
    {now : ℚ} (live : (record.relayed text).Live now) : record.Live now := by
  by_cases ageless : record.ttlSeconds = 0
  · simp [Live, isExpired, expiresAt, ageless, Except.map]
  · have same : (record.relayed text).isExpired now = record.isExpired now := by
      unfold isExpired expiresAt
      rw [epoch_relayed]
      simp [relayed, ageless]
    exact same.symm.trans live

theorem PresenceRecord.live_of_relayedAlong [Floats] {record : PresenceRecord}
    {texts : List String} {now : ℚ} (live : (record.relayedAlong texts).Live now) :
    record.Live now := by
  induction texts generalizing record with
  | nil => exact live
  | cons text rest induction => exact live_of_relayed (induction live)

namespace Gossip

variable [Floats] [TextOf] [NumberText]

/-! ## Where records come from -/

def Bears (body : List (String × Json)) (record : PresenceRecord) : Prop :=
  ∃ entries, (Json.getOr body "records" (.array [])).iterate = .ok entries ∧
    ∃ raw ∈ entries, ∃ text, PresenceRecord.fromGossipDict text raw = .ok record

theorem bears_of_accepted {verify : PresenceRecord → Bool} {moment : Moment}
    {body : List (String × Json)} {record : PresenceRecord}
    (listed : record ∈ acceptedRecords verify moment body) :
    verify record = true ∧ Bears body record := by
  unfold acceptedRecords at listed
  split at listed
  · cases listed
  · next entries iterated =>
      rcases List.mem_filterMap.mp listed with ⟨raw, member, admits⟩
      rcases ok_of_admitted admits with ⟨read, verified⟩
      exact ⟨verified, entries, iterated, raw, member, moment.text, read⟩

theorem relayed_of_bears {body : List (String × Json)} {records : List PresenceRecord}
    {record : PresenceRecord}
    (lists : (Json.getOr body "records" (.array [])).iterate =
      .ok (records.map fun record => .object record.toGossipDict))
    (bears : Bears body record) :
    ∃ held ∈ records, ∃ text, record = held.relayed text := by
  rcases bears with ⟨entries, iterated, raw, member, text, read⟩
  rw [lists] at iterated
  cases iterated
  rcases List.mem_map.mp member with ⟨held, listed, rfl⟩
  rw [PresenceRecord.fromGossipDict_toGossipDict] at read
  exact ⟨held, listed, text, (Except.ok.inj read).symm⟩

theorem relayed_of_request {store after : PresenceStore} {moment : Moment}
    {body : List (String × Json)} {record : PresenceRecord}
    (built : buildReplicateRequest store moment = (.ok body, after))
    (bears : Bears body record) :
    ∃ held text, after.records.get? record.agentId = some held ∧
      record = held.relayed text := by
  unfold buildReplicateRequest at built
  split at built
  · cases built
  · cases built
    rcases relayed_of_bears (iterate_gossipDicts _ _) bears with ⟨held, listed, text, rfl⟩
    exact ⟨held, text, PresenceStore.held_of_mem_values listed, rfl⟩

theorem relayed_of_reply {verify : PresenceRecord → Bool} {moment : Moment}
    {body reply : List (String × Json)} {store after : PresenceStore}
    {record : PresenceRecord}
    (ended : applyReplicate verify moment body store = (.ok reply, after))
    (bears : Bears reply record) :
    ∃ held text, after.records.get? record.agentId = some held ∧
      record = held.relayed text := by
  rcases replied_of_applyReplicate ended with ⟨counts, delta, replied, rfl⟩
  rcases relayed_of_bears (iterate_gossipDicts [] delta) bears with
    ⟨held, listed, text, rfl⟩
  have stored : held ∈ after.values := by
    rw [PresenceStore.eq_of_needed replied.needed] at listed
    rcases List.mem_map.mp listed with ⟨entry, needed, rfl⟩
    exact List.mem_map_of_mem (List.mem_filter.mp needed).1
  exact ⟨held, text, PresenceStore.held_of_mem_values stored, rfl⟩

/-! ## One step -/

namespace Network

variable {Node : Type u} [DecidableEq Node] {network after : Network Node} {node : Node}
  {agentId : String}

def messages (network : Network Node) : List (Message Node) :=
  network.requests ++ network.replies

def Carries (network : Network Node) (record : PresenceRecord) : Prop :=
  ∃ message ∈ network.messages, Bears message.body record

/-- Where the records of an agent come from that the next state has. Nothing is made up:
a coordinator takes what a message bears, and sends what it holds. -/
structure Sourced (network after : Network Node) (agentId : String) : Prop where
  clock : ∀ node, network.clock node ≤ after.clock node
  verify : after.verify = network.verify
  held : ∀ node record, (after.store node).records.get? agentId = some record →
    (network.store node).records.get? agentId = some record ∨
      (record.agentId = agentId ∧ network.verify node record = true ∧
        network.Carries record)
  carried : ∀ record, record.agentId = agentId → after.Carries record →
    network.Carries record ∨
      ∃ node held text, (after.store node).records.get? agentId = some held ∧
        record = held.relayed text

omit [Floats] [TextOf] [NumberText] in
@[simp] theorem store_setStore_same (network : Network Node) (node : Node)
    (store : PresenceStore) : (network.setStore node store).store node = store := by
  simp [setStore, Network.store]

omit [Floats] [TextOf] [NumberText] in
theorem store_setStore_other (network : Network Node) {node other : Node}
    (different : other ≠ node) (store : PresenceStore) :
    (network.setStore node store).store other = network.store other := by
  simp [setStore, Network.store, different]

omit [Floats] [TextOf] [NumberText] in
@[simp] theorem verify_setStore (network : Network Node) (node : Node)
    (store : PresenceStore) : (network.setStore node store).verify = network.verify := by
  funext other
  unfold setStore Network.verify
  dsimp only
  split <;> rfl

theorem sourced_of_setStore {store : PresenceStore} {requests replies : List (Message Node)}
    (held : ∀ record, store.records.get? agentId = some record →
      (network.store node).records.get? agentId = some record ∨
        (record.agentId = agentId ∧ network.verify node record = true ∧
          network.Carries record))
    (carried : ∀ message ∈ requests ++ replies, message ∈ network.messages ∨
      ∀ record, record.agentId = agentId → Bears message.body record →
        ∃ held text, store.records.get? agentId = some held ∧
          record = held.relayed text) :
    Sourced network
      { network.setStore node store with requests := requests, replies := replies }
      agentId where
  clock := fun _ => le_rfl
  verify := verify_setStore network node store
  held := by
    intro other record found
    change ((network.setStore node store).store other).records.get? agentId = some record
      at found
    by_cases same : other = node
    · subst same
      rw [store_setStore_same] at found
      exact held record found
    · rw [store_setStore_other network same] at found
      exact .inl found
  carried := by
    rintro record own ⟨message, listed, bears⟩
    rcases carried message listed with kept | sent
    · exact .inl ⟨message, kept, bears⟩
    · rcases sent record own bears with ⟨held, text, found, same⟩
      have stored := store_setStore_same network node store
      exact .inr ⟨node, held, text, stored.symm ▸ found, same⟩

theorem sourced_of_store {store : PresenceStore}
    (held : ∀ record, store.records.get? agentId = some record →
      (network.store node).records.get? agentId = some record) :
    Sourced network (network.setStore node store) agentId :=
  sourced_of_setStore (fun record found => .inl (held record found))
    fun _ listed => .inl listed

theorem sourced_received {request : Message Node} {text : String}
    {before rest : List (Message Node)}
    (arrives : network.requests = before ++ request :: rest) :
    Sourced network ({ network with requests := before ++ rest }.received request text)
      agentId := by
  have arrived : request ∈ network.messages := by
    simp [messages, arrives]
  have kept : ∀ message ∈ (before ++ rest) ++ network.replies,
      message ∈ network.messages := by
    intro message listed
    simp only [messages, arrives, List.mem_append, List.mem_cons] at listed ⊢
    tauto
  unfold received
  have held (record : PresenceRecord) (found : (applyReplicate (network.verify request.receiver)
      (network.moment request.receiver text) request.body
      (network.store request.receiver)).2.records.get? agentId = some record) :
      (network.store request.receiver).records.get? agentId = some record ∨
        (record.agentId = agentId ∧ network.verify request.receiver record = true ∧
          network.Carries record) :=
    (source_of_applyReplicate found).imp_right fun ⟨own, listed⟩ =>
      ⟨own, (bears_of_accepted listed).1, request, arrived, (bears_of_accepted listed).2⟩
  split
  · next reply store ended =>
      change applyReplicate (network.verify request.receiver)
        (network.moment request.receiver text) request.body
        (network.store request.receiver) = _ at ended
      rw [ended] at held
      apply sourced_of_setStore held
      intro message listed
      rcases List.mem_append.mp listed with asked | replied
      · exact .inl (kept message (List.mem_append_left _ asked))
      · rcases List.mem_cons.mp replied with rfl | earlier
        · right
          rintro record rfl bears
          exact relayed_of_reply ended bears
        · exact .inl (kept message (List.mem_append_right _ earlier))
  · next raised store ended =>
      change applyReplicate (network.verify request.receiver)
        (network.moment request.receiver text) request.body
        (network.store request.receiver) = _ at ended
      rw [ended] at held
      exact sourced_of_setStore held fun message listed => .inl (kept message listed)

theorem sourced_merged {reply : Message Node} {text : String}
    {before rest : List (Message Node)}
    (arrives : network.replies = before ++ reply :: rest) :
    Sourced network ({ network with replies := before ++ rest }.merged reply text)
      agentId := by
  have arrived : reply ∈ network.messages := by
    simp [messages, arrives]
  unfold merged
  apply sourced_of_setStore
  · intro record found
    exact (source_of_mergeReply found).imp_right fun ⟨own, listed⟩ =>
      ⟨own, (bears_of_accepted listed).1, reply, arrived, (bears_of_accepted listed).2⟩
  · intro message listed
    left
    simp only [messages, arrives, List.mem_append, List.mem_cons] at listed ⊢
    tauto

theorem sourced_asked (caller peer : Node) (text : String) :
    Sourced network (network.asked caller peer text) agentId := by
  have held {outcome : Except Raised (List (String × Json))} {store : PresenceStore}
      (built : buildReplicateRequest (network.store caller) (network.moment caller text) =
        (outcome, store)) (record : PresenceRecord)
      (found : store.records.get? agentId = some record) :
      (network.store caller).records.get? agentId = some record := by
    unfold buildReplicateRequest at built
    split at built
    · cases built
      exact found
    · next done =>
        cases built
        exact PresenceStore.held_of_sweep done found
  unfold asked
  split
  · next body store built =>
      apply sourced_of_setStore fun record found => .inl (held built record found)
      intro message listed
      rcases List.mem_cons.mp listed with rfl | earlier
      · right
        rintro record rfl bears
        exact relayed_of_request built bears
      · exact .inl earlier
  · next raised store built => exact sourced_of_store (held built)

omit [DecidableEq Node] in
theorem sourced_lost {requests replies : List (Message Node)}
    (kept : ∀ message ∈ requests ++ replies, message ∈ network.messages) :
    Sourced network { network with requests := requests, replies := replies } agentId where
  clock := fun _ => le_rfl
  verify := rfl
  held := fun _ _ found => .inl found
  carried := fun _ _ ⟨message, listed, bears⟩ => .inl ⟨message, kept message listed, bears⟩

theorem sourced_of_step {action : Action Node} (step : Step network action after)
    (silent : ¬action.Announces agentId) : Sourced network after agentId := by
  cases step with
  | announce node record =>
      apply sourced_of_store
      intro other found
      have different : agentId ≠ record.agentId := fun same => silent same.symm
      exact (PresenceStore.get?_put_other _ different).symm.trans found
  | withdraw node other =>
      exact sourced_of_store fun record found => PresenceStore.held_of_remove found
  | probe node other =>
      exact sourced_of_store fun record found => PresenceStore.held_of_probe found
  | sweep node =>
      unfold swept
      split
      · next done => exact sourced_of_store fun record found => PresenceStore.held_of_sweep done found
      · exact sourced_lost fun _ listed => listed
  | ask caller peer text => exact sourced_asked caller peer text
  | receive request text before rest arrives => exact sourced_received arrives
  | merge reply text before rest arrives => exact sourced_merged arrives
  | loseRequest request before rest sent =>
      apply sourced_lost
      intro message listed
      simp only [messages, sent, List.mem_append, List.mem_cons] at listed ⊢
      tauto
  | loseReply reply before rest sent =>
      apply sourced_lost
      intro message listed
      simp only [messages, sent, List.mem_append, List.mem_cons] at listed ⊢
      tauto
  | wait node later passes =>
      constructor
      · intro other
        by_cases same : other = node
        · subst same
          simpa using passes
        · simp [Function.update_of_ne same]
      · rfl
      · exact fun _ _ found => .inl found
      · exact fun _ _ carried => .inl carried

/-! ## Every run -/

def Takes (network : Network Node) (node : Node) (record : PresenceRecord) : Prop :=
  network.verify node record = true ∧ record.Live (network.clock node)

def Barred (network : Network Node) (node : Node) (record : PresenceRecord) : Prop :=
  ∀ texts, ¬network.Takes node (record.relayedAlong texts)

/-- The agent is gone from a coordinator for good: what is left of it there has expired,
and no copy that another one holds, or that is on its way, would be taken. -/
structure Gone (network : Network Node) (node : Node) (agentId : String) : Prop where
  own : ∀ record, (network.store node).records.get? agentId = some record →
    ¬record.Live (network.clock node)
  elsewhere : ∀ other, other ≠ node → ∀ record,
    (network.store other).records.get? agentId = some record →
      ∀ text, network.Barred node (record.relayed text)
  underway : ∀ record, record.agentId = agentId → network.Carries record →
    network.Barred node record

omit [TextOf] [NumberText] [DecidableEq Node] in
theorem barred_relayed {record : PresenceRecord} (barred : network.Barred node record)
    (text : String) : network.Barred node (record.relayed text) :=
  fun texts => barred (text :: texts)

omit [TextOf] [NumberText] [DecidableEq Node] in
theorem barred_of_not_live {record : PresenceRecord}
    (expired : ¬record.Live (network.clock node)) : network.Barred node record :=
  fun _ taken => expired (PresenceRecord.live_of_relayedAlong taken.2)

omit [DecidableEq Node] in
theorem Sourced.barred (sourced : Sourced network after agentId) {record : PresenceRecord}
    (barred : network.Barred node record) : after.Barred node record := by
  intro texts taken
  apply barred texts
  constructor
  · exact sourced.verify ▸ taken.1
  · exact taken.2.earlier (sourced.clock node)

theorem Gone.of_sourced (gone : network.Gone node agentId)
    (sourced : Sourced network after agentId) : after.Gone node agentId := by
  have own (record : PresenceRecord)
      (found : (after.store node).records.get? agentId = some record) :
      ¬record.Live (after.clock node) := by
    intro live
    rcases sourced.held node record found with before | ⟨same, verified, carried⟩
    · exact gone.own record before (live.earlier (sourced.clock node))
    · exact gone.underway record same carried []
        ⟨verified, live.earlier (sourced.clock node)⟩
  have elsewhere (other : Node) (different : other ≠ node) (record : PresenceRecord)
      (found : (after.store other).records.get? agentId = some record) (text : String) :
      after.Barred node (record.relayed text) := by
    apply sourced.barred
    rcases sourced.held other record found with before | ⟨same, _, carried⟩
    · exact gone.elsewhere other different record before text
    · exact barred_relayed (gone.underway record same carried) text
  refine ⟨own, elsewhere, ?_⟩
  intro record same carried
  rcases sourced.carried record same carried with before | ⟨other, held, text, found, rfl⟩
  · exact sourced.barred (gone.underway record same before)
  · by_cases here : other = node
    · subst here
      exact barred_relayed (barred_of_not_live (own held found)) text
    · exact elsewhere other here held found text

theorem Gone.of_trace {log : List (Action Node)} (gone : network.Gone node agentId)
    (trace : Trace Step network log after)
    (silent : ∀ action ∈ log, ¬action.Announces agentId) : after.Gone node agentId := by
  induction trace with
  | nil => exact gone
  | cons step _ induction =>
      have first := gone.of_sourced (sourced_of_step step (silent _ List.mem_cons_self))
      exact induction first fun action listed => silent action (List.mem_cons_of_mem _ listed)

omit [DecidableEq Node] in
theorem Gone.not_present (gone : network.Gone node agentId) :
    ¬network.Present node agentId := by
  rintro ⟨record, found⟩
  unfold PresenceStore.probe at found
  split at found
  · cases found
  · next held stored =>
      split at found
      · cases found
      · cases found
      · next live => exact gone.own held stored live

/-- The agent is not present at the coordinator, and does not come back unless it is
announced again. -/
def StaysAway (network : Network Node) (node : Node) (agentId : String) : Prop :=
  ∀ log after, Trace Step network log after →
    (∀ action ∈ log, ¬action.Announces agentId) → ¬after.Present node agentId

/-- An agent that is gone for good does not come back, whatever the coordinators do. -/
theorem stays_away (gone : network.Gone node agentId) :
    network.StaysAway node agentId :=
  fun _ _ trace silent => Gone.not_present (gone.of_trace trace silent)

def Fresh (network : Network Node) : Prop :=
  (∀ node agentId, (network.store node).records.get? agentId = none) ∧
    network.requests = [] ∧ network.replies = []

def Recalled (agentId : String) (log : List (Action Node)) : Prop :=
  ∀ before node record after, log = before ++ .announce node record :: after →
    record.agentId = agentId → .withdraw node agentId ∈ after

end Network

end Gossip

namespace RemovalSamples

open Gossip
open scoped Plain PlainServing

inductive Site where
  | harbour
  | depot
deriving DecidableEq

def scout : PresenceRecord where
  agentId := "scout"
  resultEntry := []
  scopes := []
  visibility := .standard
  announcedAt := "t"
  announcedAtEpoch := "90.0"
  ttlSeconds := 60
  ownerDomain := .null
  attachment := none
  signature := .null

def quiet : Network Site :=
  ⟨fun _ => ⟨.empty, fun _ => true⟩, fun _ => 100, [], []⟩

def delivered (network : Network Site) : Network Site :=
  match network.requests with
  | [] => network
  | request :: rest => { network with requests := rest }.received request "t"

theorem step_delivered {network : Network Site} (asked : network.requests.isEmpty = false) :
    ∃ request, Network.Step network (.receive request "t") (delivered network) := by
  unfold delivered
  cases requests : network.requests with
  | nil => simp [requests] at asked
  | cons request rest => exact ⟨request, .receive network request "t" [] rest requests⟩

def announced : Network Site :=
  quiet.setStore .harbour ((quiet.store .harbour).announce scout).2

def shared : Network Site :=
  delivered (announced.asked .harbour .depot "t")

def recalled : Network Site :=
  shared.setStore .harbour ((shared.store .harbour).withdraw "scout").2

def returned : Network Site :=
  delivered (recalled.asked .depot .harbour "t")

def aged : Network Site :=
  { recalled with
    clock := fun _ => 200
    requests := []
    replies := [] }

theorem expired_copy_stays_away :
    ((aged.store .depot).records.get? "scout").isSome = true ∧
      aged.StaysAway .harbour "scout" := by
  have held : ((aged.store .depot).records.get? "scout").isSome = true := by
    decide +kernel
  have expired : ((aged.store .depot).records.get? "scout").all
      (fun record => !decide (record.Live 200)) = true := by
    decide +kernel
  refine ⟨held, Network.stays_away ⟨?_, ?_, ?_⟩⟩
  · intro record found
    exact nomatch (PresenceStore.get?_remove_same _ _).symm.trans found
  · intro other different record found text
    cases other with
    | harbour => exact absurd rfl different
    | depot =>
        rw [found] at expired
        apply Network.barred_relayed
        apply Network.barred_of_not_live
        change ¬record.Live 200
        simpa using expired
  · rintro record own ⟨message, listed, bears⟩
    cases listed

def shows (network : Network Site) (site : Site) : Bool :=
  match ((network.store site).probe "scout" (network.clock site)).1 with
  | .ok (some _) => true
  | _ => false

theorem present_of_shows {network : Network Site} {site : Site}
    (shown : shows network site = true) : network.Present site "scout" := by
  unfold shows at shown
  split at shown
  · next record found => exact ⟨record, found⟩
  · cases shown

/-- The scout is announced at the harbour alone, and withdrawn there. The next round of
the depot brings it back. -/
theorem withdrawn_agent_returns :
    ∃ start log network, Network.Fresh start ∧ Trace Network.Step start log network ∧
      Network.Recalled "scout" log ∧ .withdraw Site.harbour "scout" ∈ log ∧
      (network.store .harbour).records.get? "scout" = none ∧
      ¬network.StaysAway .harbour "scout" := by
  have shownThere : (announced.asked .harbour .depot "t").requests.isEmpty = false := by
    decide +kernel
  have shownBack : (recalled.asked .depot .harbour "t").requests.isEmpty = false := by
    decide +kernel
  have back : shows returned .harbour = true := by
    decide +kernel
  rcases step_delivered shownThere with ⟨first, arrives⟩
  rcases step_delivered shownBack with ⟨second, returns⟩
  have shares : Trace Network.Step quiet [.announce .harbour scout,
      .ask .harbour .depot "t", .receive first "t", .withdraw .harbour "scout"] recalled :=
    .cons (.announce quiet .harbour scout) (.cons (.ask announced .harbour .depot "t")
      (.cons arrives (.single (.withdraw shared .harbour "scout"))))
  have rounds : Trace Network.Step recalled
      [.ask .depot .harbour "t", .receive second "t"] returned :=
    .cons (.ask recalled .depot .harbour "t") (.single returns)
  refine ⟨quiet, _, recalled, ⟨fun _ _ => rfl, rfl, rfl⟩, shares, ?_, by simp, ?_, ?_⟩
  · intro before node record after same own
    cases before with
    | nil =>
        cases same
        simp
    | cons first rest =>
        have listed := congrArg List.tail same
        have member : .announce node record ∈ rest ++ .announce node record :: after := by
          simp
        rw [List.cons_append, List.tail_cons, List.tail_cons] at listed
        rw [← listed] at member
        simp at member
  · exact PresenceStore.get?_remove_same _ _
  · intro stays
    exact stays _ _ rounds (by simp [Action.Announces]) (present_of_shows back)

end RemovalSamples

end Agtp
