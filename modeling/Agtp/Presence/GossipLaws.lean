import Agtp.Foundation.LastWriter
import Agtp.Presence.Gossip

/-! # What gossip merges

A store is a last-writer-wins register for each agent: what a round of gossip leaves in
it, whether the round ends or raises. -/

namespace Agtp

def PresenceRecord.covers [Floats] (record other : PresenceRecord) : Bool :=
  other.epoch.le record.epoch

theorem PresenceRecord.covers_trans [Floats] (first second third : PresenceRecord)
    (left : first.covers second = true) (right : second.covers third = true) :
    first.covers third = true :=
  Double.le_trans right left

namespace PresenceStore

variable [Floats]

def mergeAll (store : PresenceStore) (records : List PresenceRecord) : PresenceStore :=
  records.foldl (fun store record => (store.mergeRecord record).2) store

def ofAgent (agentId : String) (records : List PresenceRecord) : List PresenceRecord :=
  records.filter fun record => record.agentId = agentId

theorem get?_mergeRecord_write (store : PresenceStore) (record : PresenceRecord)
    (agentId : String) :
    (store.mergeRecord record).2.records.get? agentId =
      if record.agentId = agentId then
        LastWriter.write PresenceRecord.covers (store.records.get? agentId) record
      else store.records.get? agentId := by
  rw [get?_mergeRecord]
  by_cases same : agentId = record.agentId
  · rw [if_pos same, if_pos same.symm]
    cases store.records.get? agentId with
    | none => rfl
    | some existing =>
        change (if record.epoch.le existing.epoch then some existing else some record) =
          some (if record.epoch.le existing.epoch then existing else record)
        split <;> rfl
  · rw [if_neg same, if_neg fun equal => same equal.symm]

theorem get?_mergeAll (store : PresenceStore) (records : List PresenceRecord)
    (agentId : String) :
    (store.mergeAll records).records.get? agentId =
      LastWriter.writeAll PresenceRecord.covers (store.records.get? agentId)
        (ofAgent agentId records) := by
  induction records generalizing store with
  | nil => rfl
  | cons first rest induction =>
      change ((store.mergeRecord first).2.mergeAll rest).records.get? agentId = _
      rw [induction, get?_mergeRecord_write]
      unfold ofAgent
      by_cases same : first.agentId = agentId
      · have kept : (first :: rest).filter (fun record => record.agentId = agentId) =
            first :: rest.filter fun record => record.agentId = agentId :=
          List.filter_cons_of_pos (decide_eq_true same)
        rw [if_pos same, kept]
        rfl
      · have dropped : (first :: rest).filter (fun record => record.agentId = agentId) =
            rest.filter fun record => record.agentId = agentId :=
          List.filter_cons_of_neg (by simpa using same)
        rw [if_neg same, dropped]

end PresenceStore

namespace Gossip

variable [Floats] [TextOf] [NumberText]

def admitted (verify : PresenceRecord → Bool) (moment : Moment) (raw : Json) :
    Option PresenceRecord :=
  (PresenceRecord.fromGossipDict moment.text raw).toOption.filter verify

/-- A round merges the admitted entries in order: all of them if it ends, and those up
to the one at which it raises otherwise. -/
theorem after_mergeEntries (verify : PresenceRecord → Bool) (moment : Moment)
    (entries : List Json) (counts : Counts) (store : PresenceStore) :
    ∃ merged, merged <+: entries.filterMap (admitted verify moment) ∧
      (mergeEntries verify moment entries counts store).2 = store.mergeAll merged ∧
      ∀ total, (mergeEntries verify moment entries counts store).1 = .ok total →
        merged = entries.filterMap (admitted verify moment) := by
  induction entries generalizing counts store with
  | nil => exact ⟨[], List.nil_prefix, rfl, fun _ _ => rfl⟩
  | cons raw rest induction =>
      unfold mergeEntries
      cases read : PresenceRecord.fromGossipDict moment.text raw with
      | error raised =>
          have skipped : admitted verify moment raw = none := by
            unfold admitted
            rw [read]
            rfl
          rw [List.filterMap_cons_none skipped]
          simp only
          split
          · exact induction counts store
          · exact ⟨[], List.nil_prefix, rfl, fun _ ended => nomatch ended⟩
      | ok record =>
          simp only
          by_cases verified : verify record = true
          · have kept : admitted verify moment raw = some record := by
              unfold admitted
              rw [read]
              exact Option.filter_some_pos verified
            rw [List.filterMap_cons_some kept, if_pos verified]
            rcases merge : store.mergeRecord record with ⟨outcome, after⟩
            have one : after = store.mergeAll [record] := by
              change after = (store.mergeRecord record).2
              rw [merge]
            cases outcome with
            | error raised =>
                exact ⟨[record], ⟨_, rfl⟩, one, fun _ ended => nomatch ended⟩
            | ok changed =>
                rcases induction _ after with ⟨merged, earlier, same, all⟩
                refine ⟨record :: merged, (List.prefix_cons_inj record).mpr earlier, ?_,
                  fun total ended => congrArg _ (all total ended)⟩
                simp only
                rw [same, one]
                rfl
          · have dropped : admitted verify moment raw = none := by
              unfold admitted
              rw [read]
              simp [Except.toOption, Option.filter_some, verified]
            rw [List.filterMap_cons_none dropped, if_neg verified]
            exact induction _ store

/-! ## Where records come from -/

theorem ok_of_admitted {verify : PresenceRecord → Bool} {moment : Moment} {raw : Json}
    {record : PresenceRecord} (admits : admitted verify moment raw = some record) :
    PresenceRecord.fromGossipDict moment.text raw = .ok record ∧ verify record = true := by
  rcases Option.filter_eq_some_iff.mp admits with ⟨read, verified⟩
  cases parsed : PresenceRecord.fromGossipDict moment.text raw with
  | error raised =>
      rw [parsed] at read
      cases read
  | ok other =>
      rw [parsed] at read
      exact ⟨congrArg Except.ok (Option.some.inj read), verified⟩

def acceptedRecords (verify : PresenceRecord → Bool) (moment : Moment)
    (body : List (String × Json)) : List PresenceRecord :=
  match (Json.getOr body "records" (.array [])).iterate with
  | .error _ => []
  | .ok entries => entries.filterMap (admitted verify moment)

theorem source_of_mergeEntries {verify : PresenceRecord → Bool} {moment : Moment}
    {entries : List Json} {counts : Counts} {store : PresenceStore} {agentId : String}
    {record : PresenceRecord}
    (held : (mergeEntries verify moment entries counts store).2.records.get? agentId =
      some record) :
    store.records.get? agentId = some record ∨
      (record.agentId = agentId ∧ record ∈ entries.filterMap (admitted verify moment)) := by
  rcases after_mergeEntries verify moment entries counts store with
    ⟨merged, earlier, same, _⟩
  rw [same, PresenceStore.get?_mergeAll] at held
  rcases LastWriter.mem_of_writeAll held with before | written
  · exact .inl before
  · rcases List.mem_filter.mp written with ⟨listed, own⟩
    exact .inr ⟨of_decide_eq_true own, earlier.subset listed⟩

theorem source_of_merged {verify : PresenceRecord → Bool} {moment : Moment}
    {body : List (String × Json)} {store : PresenceStore} {agentId : String}
    {record : PresenceRecord} {entries : List Json} {counts : Counts}
    (iterated : (Json.getOr body "records" (.array [])).iterate = .ok entries)
    (held : (mergeEntries verify moment entries counts store).2.records.get? agentId =
      some record) :
    store.records.get? agentId = some record ∨
      (record.agentId = agentId ∧ record ∈ acceptedRecords verify moment body) := by
  unfold acceptedRecords
  rw [iterated]
  exact source_of_mergeEntries held

omit [TextOf] [NumberText] in
theorem held_of_recordsPeerNeeds {store after : PresenceStore}
    {digest : List (String × Json)} {now : ℚ} {agentId : String} {record : PresenceRecord}
    {outcome : Except Raised (List PresenceRecord)}
    (told : store.recordsPeerNeeds digest now = (outcome, after))
    (held : after.records.get? agentId = some record) :
    store.records.get? agentId = some record := by
  unfold PresenceStore.recordsPeerNeeds at told
  split at told
  · cases told
    exact held
  · next swept done =>
      cases told
      exact PresenceStore.held_of_sweep done held

theorem source_of_applyReplicate {verify : PresenceRecord → Bool} {moment : Moment}
    {body : List (String × Json)} {store : PresenceStore} {agentId : String}
    {record : PresenceRecord}
    (held : (applyReplicate verify moment body store).2.records.get? agentId =
      some record) :
    store.records.get? agentId = some record ∨
      (record.agentId = agentId ∧ record ∈ acceptedRecords verify moment body) := by
  unfold applyReplicate at held
  split at held
  · exact .inl held
  · next entries iterated =>
      have merged (found : (mergeEntries verify moment entries ⟨0, 0⟩ store).2.records.get?
          agentId = some record) := source_of_merged iterated found
      split at held
      · next round =>
          rw [round] at merged
          exact merged held
      · next round =>
          rw [round] at merged
          split at held
          · next told => exact merged (held_of_recordsPeerNeeds told held)
          · next told => exact merged (held_of_recordsPeerNeeds told held)

theorem source_of_mergeReply {verify : PresenceRecord → Bool} {moment : Moment}
    {body : List (String × Json)} {store : PresenceStore} {agentId : String}
    {record : PresenceRecord}
    (held : (mergeReply verify moment body store).2.records.get? agentId = some record) :
    store.records.get? agentId = some record ∨
      (record.agentId = agentId ∧ record ∈ acceptedRecords verify moment body) := by
  unfold mergeReply at held
  split at held
  · exact .inl held
  · next entries iterated => exact source_of_merged iterated held

/-! ## What a peer sends -/

omit [Floats] [TextOf] [NumberText] in
theorem iterate_gossipDicts (rest : List (String × Json)) (records : List PresenceRecord) :
    (Json.getOr (("records", gossipDicts records) :: rest) "records" (.array [])).iterate =
      .ok (records.map fun record => .object record.toGossipDict) := by
  unfold Json.getOr gossipDicts
  rw [Json.member_cons_self]
  cases records with
  | nil => rfl
  | cons first rest => rfl

theorem admitted_gossipDicts (verify : PresenceRecord → Bool) (moment : Moment)
    (records : List PresenceRecord) :
    (records.map fun record => Json.object record.toGossipDict).filterMap
        (admitted verify moment) =
      (records.map (PresenceRecord.relayed moment.text)).filter verify := by
  induction records with
  | nil => rfl
  | cons first rest induction =>
      have head : admitted verify moment (.object first.toGossipDict) =
          (some (first.relayed moment.text)).filter verify := by
        unfold admitted
        rw [PresenceRecord.fromGossipDict_toGossipDict]
        rfl
      rw [List.map_cons, List.map_cons, List.filterMap_cons, head, induction,
        Option.filter_some, List.filter_cons]
      cases verify (first.relayed moment.text) <;> rfl

end Gossip

namespace PresenceStore

theorem ofAgent_values (store : PresenceStore) (agentId : String) :
    ofAgent agentId store.values = (store.records.get? agentId).toList := by
  have keys : store.records.entries.filter (fun entry => entry.2.agentId = agentId) =
      store.records.entries.filter (fun entry => entry.1 = agentId) := by
    apply List.filter_congr
    intro entry member
    have keyed := store.keyed entry.1 entry.2 ((Dict.get?_eq_some_iff _).mpr member)
    rw [keyed]
  unfold ofAgent values
  rw [List.filter_map]
  change (store.records.entries.filter fun entry => entry.2.agentId = agentId).map _ = _
  rw [keys, Dict.filter_key]
  cases store.records.get? agentId <;> rfl

/-! ## What a peer needs -/

section Needs

variable [Floats]

theorem eq_of_needed {digest : List (String × Json)}
    {entries : List (String × PresenceRecord)} {delta : List PresenceRecord}
    (told : needed digest entries = .ok delta) :
    delta = (entries.filter fun entry => peerNeeds digest entry = .ok true).map
      Prod.snd := by
  induction entries generalizing delta with
  | nil =>
      cases told
      rfl
  | cons entry rest induction =>
      unfold needed at told
      cases needs : peerNeeds digest entry with
      | error raised =>
          rw [needs] at told
          cases told
      | ok answer =>
          rw [needs] at told
          cases others : needed digest rest with
          | error raised =>
              rw [others] at told
              cases told
          | ok list =>
              rw [others] at told
              cases told
              rw [induction others, List.filter_cons, needs]
              cases answer <;> simp

theorem ofAgent_needed {digest : List (String × Json)} {store : PresenceStore}
    {delta : List PresenceRecord} (told : needed digest store.records.entries = .ok delta)
    (agentId : String) :
    ofAgent agentId delta = ((store.records.get? agentId).filter fun record =>
      peerNeeds digest (agentId, record) = .ok true).toList := by
  have keys : (store.records.entries.filter fun entry =>
      peerNeeds digest entry = .ok true).filter (fun entry => entry.2.agentId = agentId) =
      (store.records.entries.filter fun entry => entry.1 = agentId).filter
        fun entry => peerNeeds digest entry = .ok true := by
    rw [List.filter_filter, List.filter_filter]
    apply List.filter_congr
    intro entry member
    have keyed := store.keyed entry.1 entry.2 ((Dict.get?_eq_some_iff _).mpr member)
    rw [keyed, Bool.and_comm]
  rw [eq_of_needed told]
  unfold ofAgent
  rw [List.filter_map]
  change ((store.records.entries.filter fun entry =>
    peerNeeds digest entry = .ok true).filter fun entry =>
      entry.2.agentId = agentId).map _ = _
  rw [keys, Dict.filter_key]
  cases store.records.get? agentId with
  | none => rfl
  | some record =>
      by_cases needs : peerNeeds digest (agentId, record) = .ok true
      · simp [needs, Option.filter_some]
      · simp [needs, Option.filter_some]

omit [Floats] in
theorem get_digest (store : PresenceStore) (agentId : String) :
    Json.get store.digest agentId =
      match store.records.get? agentId with
      | some record => .float record.announcedAtEpoch
      | none => .null := by
  have general (entries : List (String × PresenceRecord)) :
      Json.member (entries.map fun entry => (entry.1, .float entry.2.announcedAtEpoch))
        agentId = ((entries.find? fun entry => entry.1 = agentId).map Prod.snd).map
          fun record => Json.float record.announcedAtEpoch := by
    induction entries with
    | nil => rfl
    | cons entry rest induction =>
        rw [List.map_cons, Json.member_cons, List.find?_cons]
        by_cases same : entry.1 = agentId
        · simp [same]
        · simp [same, induction]
  unfold Json.get digest
  rw [general]
  change ((store.records.get? agentId).map _).getD Json.null = _
  cases store.records.get? agentId <;> rfl

theorem peerNeeds_digest (store : PresenceStore) (agentId : String)
    (record : PresenceRecord) :
    peerNeeds store.digest (agentId, record) = .ok true ↔
      ∀ held ∈ store.records.get? agentId, held.epoch.lt record.epoch = true := by
  unfold peerNeeds
  rw [get_digest]
  cases store.records.get? agentId with
  | none => simp
  | some held => simp [Json.number?, PresenceRecord.epoch]

end Needs

end PresenceStore

namespace Gossip

variable [Floats] [TextOf] [NumberText] {verify : PresenceRecord → Bool} {moment : Moment}

/-! ## A round that ends -/

omit [TextOf] [NumberText] in
theorem ok_of_recordsPeerNeeds {store after : PresenceStore}
    {digest : List (String × Json)} {now : ℚ} {delta : List PresenceRecord}
    (told : store.recordsPeerNeeds digest now = (.ok delta, after)) :
    store.sweep now = .ok after ∧
      PresenceStore.needed digest after.records.entries = .ok delta := by
  unfold PresenceStore.recordsPeerNeeds at told
  split at told
  · cases told
  · next swept done =>
      rw [Prod.mk.injEq] at told
      rw [← told.2]
      exact ⟨done, told.1⟩

structure Replied (verify : PresenceRecord → Bool) (moment : Moment)
    (body : List (String × Json)) (store after : PresenceStore)
    (delta : List PresenceRecord) : Prop where
  swept : ∃ entries, (Json.getOr body "records" (.array [])).iterate = .ok entries ∧
    (store.mergeAll (entries.filterMap (admitted verify moment))).sweep moment.now =
      .ok after
  needed : PresenceStore.needed (digestOf body) after.records.entries = .ok delta

theorem replied_of_applyReplicate {body reply : List (String × Json)}
    {store after : PresenceStore}
    (ended : applyReplicate verify moment body store = (.ok reply, after)) :
    ∃ counts : Counts, ∃ delta, Replied verify moment body store after delta ∧
      reply = [("merged", .int counts.merged), ("rejected", .int counts.rejected),
        ("records", gossipDicts delta)] := by
  unfold applyReplicate at ended
  split at ended
  · cases ended
  · next entries iterated =>
      split at ended
      · cases ended
      · next counts merged round =>
          split at ended
          · cases ended
          · next delta swept needs =>
              cases ended
              rcases ok_of_recordsPeerNeeds needs with ⟨done, told⟩
              rcases after_mergeEntries verify moment entries ⟨0, 0⟩ store with ⟨list, _, same, all⟩
              rw [round] at same all
              rw [show merged = _ from same, all counts rfl] at done
              exact ⟨counts, delta, ⟨⟨entries, iterated, done⟩, told⟩, rfl⟩

theorem ok_of_mergeReply {reply : List (String × Json)} {store after : PresenceStore}
    {counts : Counts} (ended : mergeReply verify moment reply store = (.ok counts, after)) :
    ∃ entries, (Json.getOr reply "records" (.array [])).iterate = .ok entries ∧
      after = store.mergeAll (entries.filterMap (admitted verify moment)) := by
  unfold mergeReply at ended
  split at ended
  · cases ended
  · next entries iterated =>
      rcases after_mergeEntries verify moment entries ⟨0, 0⟩ store with ⟨list, _, same, all⟩
      rw [ended] at same all
      exact ⟨entries, iterated, by rw [← all counts rfl]; exact same⟩

omit [Floats] [TextOf] [NumberText] in
theorem digestOf_request (records : Json) (digest : List (String × Json)) :
    digestOf [("records", records), ("digest", .object digest)] = digest := by
  unfold digestOf Json.getOr
  rw [Json.member_cons_of_ne (by decide), Json.member_cons_self]
  cases digest <;> rfl

end Gossip

end Agtp
