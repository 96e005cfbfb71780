import Agtp.Presence.GossipLaws

/-! # Convergence

When the order in which records are merged does not matter, and when two coordinators
agree after an exchange. -/

namespace Agtp

namespace PresenceStore

variable [Floats]

/-! ## Merging in any order -/

/-- The stores hold the same records, and find the same agents. -/
structure Same (left right : PresenceStore) : Prop where
  records : ∀ agentId, left.records.get? agentId = right.records.get? agentId
  index : ∀ capability,
    left.byCapability.members capability = right.byCapability.members capability

omit [Floats] in
theorem same_of_records {left right : PresenceStore}
    (records : ∀ agentId, left.records.get? agentId = right.records.get? agentId) :
    left.Same right where
  records := records
  index := by
    intro capability
    ext agentId
    rw [left.indexed, right.indexed, records]

def OrderIndependent (store : PresenceStore) (records : List PresenceRecord) : Prop :=
  ∀ left right, LastWriter.SameValues left records → LastWriter.SameValues right records →
    (store.mergeAll left).Same (store.mergeAll right)

omit [Floats] in
theorem sameValues_ofAgent {left right : List PresenceRecord}
    (same : LastWriter.SameValues left right) (agentId : String) :
    LastWriter.SameValues (ofAgent agentId left) (ofAgent agentId right) := by
  intro record
  unfold ofAgent
  rw [List.mem_filter, List.mem_filter, same record]

/-- For each agent, the store and the records leave no doubt which record is the
newest. -/
def Unambiguous (store : PresenceStore) (records : List PresenceRecord) : Prop :=
  ∀ agentId, LastWriter.Settled PresenceRecord.covers (store.records.get? agentId)
    (ofAgent agentId records)

omit [Floats] in
theorem ofAgent_append_others (agentId : String) {listed records : List PresenceRecord}
    (same : LastWriter.SameValues listed (ofAgent agentId records)) :
    ofAgent agentId (listed ++ records.filter fun record => record.agentId ≠ agentId) =
        listed ∧
      LastWriter.SameValues
        (listed ++ records.filter fun record => record.agentId ≠ agentId) records := by
  constructor
  · have own : listed.filter (fun record => decide (record.agentId = agentId)) = listed := by
      rw [List.filter_eq_self]
      intro record member
      exact (List.mem_filter.mp ((same record).mp member)).2
    unfold ofAgent
    rw [List.filter_append, own, List.filter_filter]
    simp
  · intro record
    rw [List.mem_append, same record, ofAgent, List.mem_filter, List.mem_filter,
      decide_eq_true_iff, decide_eq_true_iff]
    tauto

theorem orderIndependent_iff (store : PresenceStore) (records : List PresenceRecord) :
    store.OrderIndependent records ↔ store.Unambiguous records := by
  constructor
  · intro independent agentId
    rw [← LastWriter.order_independent_iff PresenceRecord.covers_trans]
    intro left right leftSame rightSame
    rcases ofAgent_append_others agentId leftSame with ⟨leftOwn, leftAll⟩
    rcases ofAgent_append_others agentId rightSame with ⟨rightOwn, rightAll⟩
    have equal := (independent _ _ leftAll rightAll).records agentId
    rwa [get?_mergeAll, get?_mergeAll, leftOwn, rightOwn] at equal
  · intro unambiguous left right leftSame rightSame
    apply same_of_records
    intro agentId
    rw [get?_mergeAll, get?_mergeAll]
    exact (LastWriter.order_independent_iff PresenceRecord.covers_trans _ _).mpr
      (unambiguous agentId) _ _ (sameValues_ofAgent leftSame agentId)
      (sameValues_ofAgent rightSame agentId)

end PresenceStore

/-! ## One exchange -/

namespace Gossip

variable [Floats] [TextOf] [NumberText]

/-- One exchange, which the caller starts, to its end. -/
def exchange (caller peer : Coordinator) (start arrival : Moment) :
    Except Raised (PresenceStore × PresenceStore) :=
  match buildReplicateRequest caller.store start with
  | (.error raised, _) => .error raised
  | (.ok request, sent) =>
      match applyReplicate peer.verify arrival request peer.store with
      | (.error raised, _) => .error raised
      | (.ok reply, received) =>
          match mergeReply caller.verify arrival reply sent with
          | (.error raised, _) => .error raised
          | (.ok _, answered) => .ok (answered, received)

/-! ### What the two stores hold after it -/

structure Exchanged (caller peer : Coordinator) (start arrival : Moment)
    (answered received sent : PresenceStore) (delta : List PresenceRecord) : Prop where
  swept : caller.store.sweep start.now = .ok sent
  merged : (peer.store.mergeAll ((sent.values.map
    (PresenceRecord.relayed arrival.text)).filter peer.verify)).sweep arrival.now =
      .ok received
  needed : PresenceStore.needed sent.digest received.records.entries = .ok delta
  returned : answered = sent.mergeAll ((delta.map
    (PresenceRecord.relayed arrival.text)).filter caller.verify)

theorem exchanged_of_exchange {caller peer : Coordinator} {start arrival : Moment}
    {answered received : PresenceStore}
    (ended : exchange caller peer start arrival = .ok (answered, received)) :
    ∃ sent delta, Exchanged caller peer start arrival answered received sent delta := by
  unfold exchange buildReplicateRequest at ended
  cases swept : caller.store.sweep start.now with
  | error raised =>
      rw [swept] at ended
      cases ended
  | ok sent =>
      rw [swept] at ended
      simp only at ended
      split at ended
      · cases ended
      · next reply after replied =>
          split at ended
          · cases ended
          · next counts merged returned =>
              cases ended
              rcases replied_of_applyReplicate replied with ⟨total, delta, steps, rfl⟩
              rcases steps.swept with ⟨entries, iterated, done⟩
              rw [iterate_gossipDicts] at iterated
              cases iterated
              have needs := steps.needed
              rw [digestOf_request] at needs
              rcases ok_of_mergeReply returned with ⟨entries, iterated, same⟩
              change (Json.getOr [("records", gossipDicts delta)] "records"
                (.array [])).iterate = .ok entries at iterated
              rw [iterate_gossipDicts] at iterated
              cases iterated
              rw [admitted_gossipDicts] at done same
              exact ⟨sent, delta, swept, done, needs, same⟩

/-! ### Each agent by itself -/

section Agent

variable {caller peer : Coordinator} {start arrival : Moment}
  {answered received sent : PresenceStore} {delta : List PresenceRecord}

open LastWriter PresenceStore

abbrev copyOf (moment : Moment) (record : PresenceRecord) : PresenceRecord :=
  record.relayed moment.text

omit [Floats] [TextOf] [NumberText] in
theorem ofAgent_relayed (verify : PresenceRecord → Bool) (moment : Moment)
    (agentId : String) (records : List PresenceRecord) :
    ofAgent agentId ((records.map (copyOf moment)).filter verify) =
      ((ofAgent agentId records).map (copyOf moment)).filter verify := by
  unfold ofAgent
  rw [List.filter_filter, List.filter_map, List.filter_map, List.filter_filter]
  congr 1
  apply List.filter_congr
  intro record _
  exact Bool.and_comm _ _

/-- Both sides take the copies of what the other one holds of the agent. -/
structure InScope (caller peer : Coordinator) (arrival : Moment) (agentId : String) :
    Prop where
  callerTakes : ∀ record ∈ peer.store.records.get? agentId,
    caller.verify (copyOf arrival record) = true
  peerTakes : ∀ record ∈ caller.store.records.get? agentId,
    peer.verify (copyOf arrival record) = true

def offered (coordinator : Coordinator) (start : Moment) (agentId : String) :
    Option PresenceRecord :=
  (coordinator.store.records.get? agentId).filter fun record => record.Live start.now

omit [TextOf] [NumberText] in
theorem received_of_exchanged (steps : Exchanged caller peer start arrival answered
      received sent delta) {agentId : String}
    (scope : InScope caller peer arrival agentId) :
    received.records.get? agentId =
      (writeAll PresenceRecord.covers (peer.store.records.get? agentId)
        ((offered caller start agentId).map (copyOf arrival)).toList).filter
          fun record => record.Live arrival.now := by
  have held : sent.records.get? agentId = offered caller start agentId :=
    get?_of_sweep steps.swept agentId
  rw [get?_of_sweep steps.merged, get?_mergeAll, ofAgent_relayed, ofAgent_values, held]
  congr 2
  unfold offered
  cases own : caller.store.records.get? agentId with
  | none => rfl
  | some record =>
      have accepted := scope.peerTakes record own
      by_cases live : record.Live start.now
      · simp [Option.filter_some, live, accepted]
      · simp [Option.filter_some, live]

/-- What the caller holds at the end, and the record that the peer holds if it is live
when the request arrives. -/
def meet (arrival : Moment) :
    Option PresenceRecord → Option PresenceRecord →
      Option PresenceRecord × Option PresenceRecord
  | none, held => (held.map (copyOf arrival), held)
  | some sent, none => (some sent, some (copyOf arrival sent))
  | some sent, some held =>
      if held.covers sent then
        if sent.epoch.lt held.epoch then (some (copyOf arrival held), some held)
        else (some sent, some held)
      else (some sent, some (copyOf arrival sent))

omit [TextOf] [NumberText] in
theorem meet_both (sent held : PresenceRecord) :
    meet arrival (some sent) (some held) =
      if held.covers sent then
        if sent.epoch.lt held.epoch then (some (copyOf arrival held), some held)
        else (some sent, some held)
      else (some sent, some (copyOf arrival sent)) := rfl

omit [TextOf] [NumberText] in
theorem received_eq_meet (steps : Exchanged caller peer start arrival answered
      received sent delta) {agentId : String}
    (scope : InScope caller peer arrival agentId) :
    received.records.get? agentId =
      (meet arrival (offered caller start agentId)
        (peer.store.records.get? agentId)).2.filter fun record => record.Live arrival.now := by
  rw [received_of_exchanged steps scope]
  cases offered caller start agentId with
  | none => rfl
  | some sent =>
      cases peer.store.records.get? agentId with
      | none => rfl
      | some held =>
          have written : writeAll PresenceRecord.covers (some held)
              ((some sent).map (copyOf arrival)).toList =
              some (if held.covers sent then held else copyOf arrival sent) := by
            change some (if (copyOf arrival sent).epoch.le held.epoch then held
              else copyOf arrival sent) = _
            rw [PresenceRecord.epoch_relayed]
            rfl
          rw [written]
          unfold meet
          by_cases covered : held.covers sent = true
          · by_cases newer : sent.epoch.lt held.epoch = true
            · simp [covered, newer]
            · simp [covered, newer]
          · simp [covered]

omit [TextOf] [NumberText] in
theorem answered_of_exchanged (steps : Exchanged caller peer start arrival answered
      received sent delta) {agentId : String} {record : PresenceRecord}
    (held : received.records.get? agentId = some record) :
    answered.records.get? agentId =
      if (∀ own ∈ offered caller start agentId, own.epoch.lt record.epoch = true) ∧
          caller.verify (copyOf arrival record) = true then
        write PresenceRecord.covers (offered caller start agentId) (copyOf arrival record)
      else offered caller start agentId := by
  have own : sent.records.get? agentId = offered caller start agentId :=
    get?_of_sweep steps.swept agentId
  have needs := peerNeeds_digest sent agentId record
  rw [own] at needs
  rw [steps.returned, get?_mergeAll, ofAgent_relayed, ofAgent_needed steps.needed, held,
    own]
  by_cases newer : peerNeeds sent.digest (agentId, record) = .ok true
  · by_cases verified : caller.verify (copyOf arrival record) = true
    · rw [if_pos ⟨needs.mp newer, verified⟩]
      simp [Option.filter_some, newer, verified, writeAll]
    · rw [if_neg fun both => verified both.2]
      simp [Option.filter_some, newer, verified, writeAll]
  · rw [if_neg fun both => newer (needs.mpr both.1)]
    simp [Option.filter_some, newer, writeAll]

omit [TextOf] [NumberText] in
theorem answered_eq_meet (steps : Exchanged caller peer start arrival answered
      received sent delta) {agentId : String}
    (scope : InScope caller peer arrival agentId) {record : PresenceRecord}
    (held : received.records.get? agentId = some record) :
    answered.records.get? agentId =
      (meet arrival (offered caller start agentId)
        (peer.store.records.get? agentId)).1 := by
  have met := held
  rw [received_eq_meet steps scope, Option.filter_eq_some_iff] at met
  replace met := met.1
  rw [answered_of_exchanged steps held]
  cases offer : offered caller start agentId with
  | none =>
      rw [offer] at met
      have taken : caller.verify (copyOf arrival record) = true :=
        scope.callerTakes record met
      rw [if_pos ⟨nofun, taken⟩, show peer.store.records.get? agentId = some record from met]
      rfl
  | some own =>
      rw [offer] at met
      -- the copy of what the caller sent is not sent back
      have stays (same : record = copyOf arrival own) :
          (if (∀ held ∈ some own, held.epoch.lt record.epoch = true) ∧
              caller.verify (copyOf arrival record) = true then
            write PresenceRecord.covers (some own) (copyOf arrival record)
          else some own) = some own := by
        apply if_neg
        rintro ⟨newer, _⟩
        have later := newer own rfl
        rw [same, PresenceRecord.epoch_relayed, Double.lt_irrefl] at later
        cases later
      cases before : peer.store.records.get? agentId with
      | none =>
          rw [before] at met
          exact stays (Option.some.inj met).symm
      | some other =>
          rw [before] at met
          rw [meet_both] at met ⊢
          by_cases covered : other.covers own = true
          · rw [if_pos covered] at met ⊢
            by_cases newer : own.epoch.lt other.epoch = true
            · rw [if_pos newer] at met ⊢
              cases met
              have taken := scope.callerTakes record before
              rw [if_pos ⟨fun _ same => Option.some.inj same ▸ newer, taken⟩]
              have uncovered : ¬own.covers (copyOf arrival record) = true := by
                unfold PresenceRecord.covers
                rw [PresenceRecord.epoch_relayed]
                unfold Double.lt at newer
                rw [Bool.and_eq_true, Bool.not_eq_true'] at newer
                simp [newer.2]
              exact congrArg some (if_neg uncovered)
            · rw [if_neg newer] at met ⊢
              cases met
              exact if_neg fun both => newer (both.1 own rfl)
          · rw [if_neg covered] at met ⊢
            exact stays (Option.some.inj met).symm

/-! ## Agreement -/

def AgreeOn (answered received : PresenceStore) (finish : ℚ) (agentId : String) : Prop :=
  ∀ left right, answered.records.get? agentId = some left →
    received.records.get? agentId = some right → left.Live finish → right.Live finish →
      left.SameAs right

/-- The caller's record is copied: the peer has none of the agent, or one that does not
cover it. -/
structure Pushed (sent held : Option PresenceRecord) (record : PresenceRecord) : Prop where
  sent : sent = some record
  uncovered : ∀ other ∈ held, other.covers record = false

structure Pulled (sent held : Option PresenceRecord) (record : PresenceRecord) : Prop where
  held : held = some record
  newer : ∀ other ∈ sent, record.covers other = true ∧ other.epoch.lt record.epoch = true

structure Tied (sent held : Option PresenceRecord) (left right : PresenceRecord) :
    Prop where
  sent : sent = some left
  held : held = some right
  covered : right.covers left = true
  notNewer : left.epoch.lt right.epoch = false

/-- What is copied arrives as it was sent, and what is not is the same, as far as it is
live at the end. -/
structure Reconciled (arrival : Moment) (finish : ℚ)
    (sent held : Option PresenceRecord) : Prop where
  copied : ∀ record, Pushed sent held record ∨ Pulled sent held record →
    record.Live finish → (copyOf arrival record).Live finish →
      record.SameAs (copyOf arrival record)
  tied : ∀ left right, Tied sent held left right → left.Live finish →
    right.Live finish → left.SameAs right

omit [TextOf] [NumberText] in
theorem agreeOn_iff_meet (steps : Exchanged caller peer start arrival answered
      received sent delta) {agentId : String}
    (scope : InScope caller peer arrival agentId) {finish : ℚ}
    (after : arrival.now ≤ finish) :
    AgreeOn answered received finish agentId ↔
      ∀ left right, meet arrival (offered caller start agentId)
          (peer.store.records.get? agentId) = (some left, some right) →
        left.Live finish → right.Live finish → left.SameAs right := by
  constructor
  · intro agree left right met leftLive rightLive
    have arrived : received.records.get? agentId = some right := by
      rw [received_eq_meet steps scope, met]
      exact Option.filter_some_pos (decide_eq_true (rightLive.earlier after))
    have returned : answered.records.get? agentId = some left := by
      rw [answered_eq_meet steps scope arrived, met]
    exact agree left right returned arrived leftLive rightLive
  · intro met left right returned arrived leftLive rightLive
    rw [answered_eq_meet steps scope arrived] at returned
    rw [received_eq_meet steps scope, Option.filter_eq_some_iff] at arrived
    exact met left right (Prod.ext returned arrived.1) leftLive rightLive

omit [TextOf] [NumberText] in
/-- The pairs that an exchange can end with: a record and its copy, or two records that
are announced at one time. -/
theorem meet_eq_iff (offer held : Option PresenceRecord) (left right : PresenceRecord) :
    meet arrival offer held = (some left, some right) ↔
      Pushed offer held left ∧ right = copyOf arrival left ∨
      Pulled offer held right ∧ left = copyOf arrival right ∨
      Tied offer held left right := by
  constructor
  · intro met
    cases offer with
    | none =>
        rw [Prod.mk.injEq] at met
        rcases met with ⟨copied, own⟩
        subst own
        exact .inr (.inl ⟨⟨rfl, nofun⟩, (Option.some.inj copied).symm⟩)
    | some own =>
        cases held with
        | none =>
            cases met
            exact .inl ⟨⟨rfl, nofun⟩, rfl⟩
        | some other =>
            rw [meet_both] at met
            split at met
            · next covered =>
                split at met
                · next newer =>
                    cases met
                    refine .inr (.inl ⟨⟨rfl, ?_⟩, rfl⟩)
                    rintro _ ⟨⟩
                    exact ⟨covered, newer⟩
                · next notNewer =>
                    cases met
                    exact .inr (.inr ⟨rfl, rfl, covered, Bool.eq_false_iff.mpr notNewer⟩)
            · next uncovered =>
                cases met
                refine .inl ⟨⟨rfl, ?_⟩, rfl⟩
                rintro _ ⟨⟩
                exact Bool.eq_false_iff.mpr uncovered
  · rintro (⟨⟨rfl, uncovered⟩, rfl⟩ | ⟨⟨rfl, newer⟩, rfl⟩ | ⟨rfl, rfl, covered, notNewer⟩)
    · cases held with
      | none => rfl
      | some other => rw [meet_both, if_neg (by simp [uncovered other rfl])]
    · cases offer with
      | none => rfl
      | some own =>
          rcases newer own rfl with ⟨covered, later⟩
          rw [meet_both, if_pos covered, if_pos later]
    · rw [meet_both, if_pos covered, if_neg (by simp [notNewer])]

omit [TextOf] [NumberText] in
/-- After an exchange, the coordinators agree on an agent exactly if its records could
be reconciled. -/
theorem agreeOn_iff (steps : Exchanged caller peer start arrival answered
      received sent delta) {agentId : String}
    (scope : InScope caller peer arrival agentId) {finish : ℚ}
    (after : arrival.now ≤ finish) :
    AgreeOn answered received finish agentId ↔
      Reconciled arrival finish (offered caller start agentId)
        (peer.store.records.get? agentId) := by
  rw [agreeOn_iff_meet steps scope after]
  constructor
  · intro met
    constructor
    · rintro record (pushed | pulled) live copyLive
      · exact met _ _ ((meet_eq_iff _ _ _ _).mpr (.inl ⟨pushed, rfl⟩)) live copyLive
      · exact (met _ _ ((meet_eq_iff _ _ _ _).mpr (.inr (.inl ⟨pulled, rfl⟩)))
          copyLive live).symm
    · intro left right tied
      exact met left right ((meet_eq_iff _ _ _ _).mpr (.inr (.inr tied)))
  · intro reconciled left right met leftLive rightLive
    rcases (meet_eq_iff _ _ _ _).mp met with ⟨pushed, rfl⟩ | ⟨pulled, rfl⟩ | tied
    · exact reconciled.copied left (.inl pushed) leftLive rightLive
    · exact (reconciled.copied right (.inr pulled) rightLive leftLive).symm
    · exact reconciled.tied left right tied leftLive rightLive

end Agent

/-- What convergence promises of merging records into a store, and of two coordinators
after an exchange. -/
structure Converges (store : PresenceStore) (records : List PresenceRecord)
    (caller peer : Coordinator) (arrival : Moment) (answered received : PresenceStore)
    (finish : ℚ) : Prop where
  merging : store.OrderIndependent records
  exchanging : ∀ agentId, InScope caller peer arrival agentId →
    AgreeOn answered received finish agentId

/-- Gossip converges exactly if the newest record of each agent is in no doubt, and the
records of an exchange can be reconciled. -/
theorem converges_iff (store : PresenceStore) (records : List PresenceRecord)
    {caller peer : Coordinator} {start arrival : Moment} {answered received : PresenceStore}
    (ended : exchange caller peer start arrival = .ok (answered, received)) {finish : ℚ}
    (after : arrival.now ≤ finish) :
    Converges store records caller peer arrival answered received finish ↔
      store.Unambiguous records ∧
        ∀ agentId, InScope caller peer arrival agentId →
          Reconciled arrival finish (offered caller start agentId)
            (peer.store.records.get? agentId) := by
  rcases exchanged_of_exchange ended with ⟨sent, delta, steps⟩
  constructor
  · intro converges
    exact ⟨(store.orderIndependent_iff records).mp converges.merging,
      fun agentId scope => (agreeOn_iff steps scope after).mp
        (converges.exchanging agentId scope)⟩
  · rintro ⟨unambiguous, reconciled⟩
    exact ⟨(store.orderIndependent_iff records).mpr unambiguous,
      fun agentId scope => (agreeOn_iff steps scope after).mpr (reconciled agentId scope)⟩

end Gossip

namespace ConvergenceSamples

open Gossip
open scoped Plain PlainServing

def recordOf (name epoch : String) : PresenceRecord where
  agentId := "scout"
  resultEntry := [("name", .string name)]
  scopes := []
  visibility := .standard
  announcedAt := "t"
  announcedAtEpoch := epoch
  ttlSeconds := 60
  ownerDomain := .null
  attachment := none
  signature := .null

def holding (record : PresenceRecord) : Coordinator :=
  ⟨PresenceStore.empty.put record, fun _ => true⟩

def at100 : Moment := ⟨100, "t"⟩

def nameOf (store : PresenceStore) : Option String :=
  (store.records.get? "scout").map fun record => (Json.get record.resultEntry "name").str

def namesAfter (caller peer : Coordinator) : Option (Option String × Option String) :=
  (exchange caller peer at100 at100).toOption.map fun stores =>
    (nameOf stores.1, nameOf stores.2)

theorem exchange_of_names {caller peer : Coordinator} {names : Option String × Option String}
    (shown : namesAfter caller peer = some names) :
    ∃ answered received, exchange caller peer at100 at100 = .ok (answered, received) ∧
      (nameOf answered, nameOf received) = names := by
  unfold namesAfter at shown
  cases ended : exchange caller peer at100 at100 with
  | error raised =>
      rw [ended] at shown
      cases shown
  | ok stores =>
      rw [ended] at shown
      exact ⟨stores.1, stores.2, rfl, Option.some.inj shown⟩

theorem get?_holding (record : PresenceRecord) (agentId : String) (held : PresenceRecord)
    (found : (holding record).store.records.get? agentId = some held) : held = record := by
  by_cases same : agentId = record.agentId
  · rw [same] at found
    exact Option.some.inj (found.symm.trans (PresenceStore.get?_put_same _ _))
  · change (PresenceStore.empty.put record).records.get? agentId = some held at found
    rw [PresenceStore.get?_put_other _ same] at found
    cases found

/-- The later announcement wins everywhere. -/
theorem later_announcement_converges :
    ∃ answered received, exchange (holding (recordOf "old" "50.0"))
        (holding (recordOf "new" "90.0")) at100 at100 = .ok (answered, received) ∧
      (nameOf answered, nameOf received) = (some "new", some "new") ∧
      Converges .empty [recordOf "old" "50.0", recordOf "new" "90.0"]
        (holding (recordOf "old" "50.0")) (holding (recordOf "new" "90.0")) at100
        answered received 100 := by
  have shown : namesAfter (holding (recordOf "old" "50.0"))
      (holding (recordOf "new" "90.0")) = some (some "new", some "new") := by
    decide +kernel
  rcases exchange_of_names shown with ⟨answered, received, ended, names⟩
  refine ⟨answered, received, ended, names, (converges_iff _ _ ended le_rfl).mpr ⟨?_, ?_⟩⟩
  · intro agentId
    by_cases same : agentId = "scout"
    · refine .inr ⟨recordOf "new" "90.0", ?_, ?_⟩
      · exact List.mem_filter.mpr ⟨by simp, decide_eq_true same.symm⟩
      · intro other member
        have listed := (List.mem_filter.mp member).1
        simp only [List.mem_cons, List.not_mem_nil, or_false] at listed
        rcases listed with rfl | rfl
        · exact .inr ⟨by decide +kernel, by decide +kernel⟩
        · exact .inl rfl
    · left
      have apart : ¬"scout" = agentId := fun equal => same equal.symm
      simp [PresenceStore.ofAgent, recordOf, apart]
  · intro agentId scope
    constructor
    · rintro record (pushed | pulled) _ _
      · have own := get?_holding _ _ _ (Option.filter_eq_some_iff.mp pushed.sent).1
        exact (PresenceRecord.sameAs_relayed_iff _ _).mpr
          (by rw [own]; exact ⟨by decide, by decide, by decide⟩)
      · have own := get?_holding _ _ _ pulled.held
        exact (PresenceRecord.sameAs_relayed_iff _ _).mpr
          (by rw [own]; exact ⟨by decide, by decide, by decide⟩)
    · intro left right tied _ _
      have notNewer := tied.notNewer
      rw [get?_holding _ _ _ (Option.filter_eq_some_iff.mp tied.sent).1,
        get?_holding _ _ _ tied.held] at notNewer
      exact absurd notNewer (by decide +kernel)

/-- Of two records that are announced at one time, each side keeps its own. -/
theorem tied_announcements_diverge :
    ∃ answered received, exchange (holding (recordOf "left" "50.0"))
        (holding (recordOf "right" "50.0")) at100 at100 = .ok (answered, received) ∧
      (nameOf answered, nameOf received) = (some "left", some "right") ∧
      (nameOf (PresenceStore.empty.mergeAll [recordOf "left" "50.0", recordOf "right" "50.0"]),
        nameOf (PresenceStore.empty.mergeAll
          [recordOf "right" "50.0", recordOf "left" "50.0"])) =
          (some "left", some "right") ∧
      ¬Converges .empty [recordOf "left" "50.0", recordOf "right" "50.0"]
        (holding (recordOf "left" "50.0")) (holding (recordOf "right" "50.0")) at100
        answered received 100 := by
  have shown : namesAfter (holding (recordOf "left" "50.0"))
      (holding (recordOf "right" "50.0")) = some (some "left", some "right") := by
    decide +kernel
  have merged : (nameOf (PresenceStore.empty.mergeAll
        [recordOf "left" "50.0", recordOf "right" "50.0"]),
      nameOf (PresenceStore.empty.mergeAll
        [recordOf "right" "50.0", recordOf "left" "50.0"])) =
        (some "left", some "right") := by
    decide +kernel
  rcases exchange_of_names shown with ⟨answered, received, ended, names⟩
  refine ⟨answered, received, ended, names, merged, fun converges => ?_⟩
  have swapped : LastWriter.SameValues [recordOf "right" "50.0", recordOf "left" "50.0"]
      [recordOf "left" "50.0", recordOf "right" "50.0"] := by
    intro record
    simp [or_comm]
  have same := (converges.merging _ _ (fun _ => Iff.rfl) swapped).records "scout"
  have equal : nameOf (PresenceStore.empty.mergeAll
        [recordOf "left" "50.0", recordOf "right" "50.0"]) =
      nameOf (PresenceStore.empty.mergeAll
        [recordOf "right" "50.0", recordOf "left" "50.0"]) := by
    unfold nameOf
    rw [same]
  rw [Prod.mk.injEq] at merged
  rw [merged.1, merged.2] at equal
  exact absurd equal (by decide)

end ConvergenceSamples

end Agtp
