import Agtp.Foundation.ById
import Agtp.Presence.Records

/-! # The presence store

The records of a coordinator by agent id, with the index of their capabilities. -/

namespace Agtp

namespace PresenceRecord

/-! ## What a record is indexed under -/

def capabilities (record : PresenceRecord) : Except Raised (List Json) :=
  ((Json.member record.resultEntry "capabilities").getD (.array [])).iterate

/-- The texts that are entered before an item that cannot be. Other items are entered
as well, but nothing is looked up under them. -/
def indexKeys (items : List Json) : List String :=
  (items.takeWhile Json.hashable).filterMap fun item =>
    match item with
    | .string text => some text
    | _ => none

def indexedUnder (record : PresenceRecord) : List String :=
  match record.capabilities with
  | .ok items => indexKeys items
  | .error _ => []

theorem listed_of_indexedUnder {record : PresenceRecord} {capability : String}
    (member : capability ∈ record.indexedUnder) :
    ∃ items, record.capabilities = .ok items ∧ .string capability ∈ items := by
  unfold indexedUnder at member
  cases read : record.capabilities with
  | error raised =>
      rw [read] at member
      cases member
  | ok items =>
      rw [read] at member
      rcases List.mem_filterMap.mp member with ⟨item, kept, same⟩
      refine ⟨items, rfl, ?_⟩
      have listed := (List.takeWhile_prefix Json.hashable).subset kept
      cases item <;> cases same
      exact listed

def indexing (record : PresenceRecord) : Except Raised Unit :=
  match record.capabilities with
  | .ok items => if items.all Json.hashable then .ok () else .error .typeError
  | .error raised => .error raised

end PresenceRecord

structure PresenceStore where
  records : Dict String PresenceRecord
  byCapability : InvertedIndex String String
  keyed : ∀ agentId record, records.get? agentId = some record → record.agentId = agentId
  indexed : ∀ capability agentId, agentId ∈ byCapability.members capability ↔
    ∃ record, records.get? agentId = some record ∧ capability ∈ record.indexedUnder

namespace PresenceStore

def empty : PresenceStore where
  records := .empty
  byCapability := .empty
  keyed := fun _ _ held => nomatch held
  indexed := by
    intro capability agentId
    simp [Dict.empty, Dict.get?]

/-! ## Mutation -/

/-- The record replaces that of its agent, in the index as well. -/
def put (store : PresenceStore) (record : PresenceRecord) : PresenceStore where
  records := store.records.set record.agentId record
  byCapability := (store.byCapability.drop record.agentId).addAll record.agentId
    record.indexedUnder
  keyed := by
    intro agentId held found
    by_cases same : agentId = record.agentId
    · rw [same, Dict.get?_set_same] at found
      cases found
      exact same.symm
    · rw [Dict.get?_set_other _ same] at found
      exact store.keyed agentId held found
  indexed := by
    intro capability agentId
    rw [InvertedIndex.mem_addAll, InvertedIndex.members_drop, Finset.mem_erase,
      store.indexed]
    by_cases same : agentId = record.agentId
    · rw [same, Dict.get?_set_same]
      simp
    · rw [Dict.get?_set_other _ same]
      simp [same]

/-- `announce`. Where the index cannot be completed, the record is held all the
same. -/
def announce (store : PresenceStore) (record : PresenceRecord) :
    Except Raised Unit × PresenceStore :=
  (record.indexing, store.put record)

def remove (store : PresenceStore) (agentId : String) : PresenceStore where
  records := store.records.erase agentId
  byCapability := store.byCapability.drop agentId
  keyed := by
    intro other held found
    by_cases same : other = agentId
    · rw [same, Dict.get?_erase_same] at found
      cases found
    · rw [Dict.get?_erase_other _ same] at found
      exact store.keyed other held found
  indexed := by
    intro capability other
    rw [InvertedIndex.members_drop, Finset.mem_erase, store.indexed]
    by_cases same : other = agentId
    · rw [same, Dict.get?_erase_same]
      simp
    · rw [Dict.get?_erase_other _ same]
      simp [same]

def withdraw (store : PresenceStore) (agentId : String) : Bool × PresenceStore :=
  ((store.records.get? agentId).isSome, store.remove agentId)

def removeAll (store : PresenceStore) (agentIds : List String) : PresenceStore :=
  agentIds.foldl remove store

/-! ## Sweeping -/

section Sweeping

variable [Floats]

def unsweepable (store : PresenceStore) (now : ℚ) : Option Raised :=
  store.records.entries.findSome? fun entry =>
    match entry.2.isExpired now with
    | .error raised => some raised
    | .ok _ => none

def expired (store : PresenceStore) (now : ℚ) : List String :=
  (store.records.entries.filter fun entry => entry.2.isExpired now = .ok true).map Prod.fst

def sweep (store : PresenceStore) (now : ℚ) : Except Raised PresenceStore :=
  match store.unsweepable now with
  | some raised => .error raised
  | none => .ok (store.removeAll (store.expired now))

def probe (store : PresenceStore) (agentId : String) (now : ℚ) :
    Except Raised (Option PresenceRecord) × PresenceStore :=
  match store.records.get? agentId with
  | none => (.ok none, store)
  | some record =>
      match record.isExpired now with
      | .error raised => (.error raised, store)
      | .ok true => (.ok none, store.remove agentId)
      | .ok false => (.ok (some record), store)

/-! ## Reading -/

def values (store : PresenceStore) : List PresenceRecord :=
  store.records.entries.map Prod.snd

def count (store : PresenceStore) : Nat :=
  store.records.entries.length

def digest (store : PresenceStore) : List (String × Json) :=
  store.records.entries.map fun entry => (entry.1, .float entry.2.announcedAtEpoch)

def mergeRecord (store : PresenceStore) (record : PresenceRecord) :
    Except Raised Bool × PresenceStore :=
  match store.records.get? record.agentId with
  | some existing =>
      if record.epoch.le existing.epoch then (.ok false, store)
      else (record.indexing.map fun _ => true, store.put record)
  | none => (record.indexing.map fun _ => true, store.put record)

end Sweeping

/-! ## What the operations do -/

@[simp] theorem get?_put_same (store : PresenceStore) (record : PresenceRecord) :
    (store.put record).records.get? record.agentId = some record :=
  Dict.get?_set_same _ _ _

theorem get?_put_other (store : PresenceStore) {record : PresenceRecord}
    {agentId : String} (different : agentId ≠ record.agentId) :
    (store.put record).records.get? agentId = store.records.get? agentId :=
  Dict.get?_set_other _ different _

@[simp] theorem get?_remove_same (store : PresenceStore) (agentId : String) :
    (store.remove agentId).records.get? agentId = none :=
  Dict.get?_erase_same _ _

theorem get?_remove_other (store : PresenceStore) {agentId other : String}
    (different : other ≠ agentId) :
    (store.remove agentId).records.get? other = store.records.get? other :=
  Dict.get?_erase_other _ different

theorem held_of_remove {store : PresenceStore} {agentId other : String}
    {record : PresenceRecord}
    (held : (store.remove other).records.get? agentId = some record) :
    store.records.get? agentId = some record := by
  by_cases same : agentId = other
  · rw [same, get?_remove_same] at held
    cases held
  · rwa [get?_remove_other store same] at held

theorem get?_removeAll (store : PresenceStore) (agentIds : List String)
    (agentId : String) :
    (store.removeAll agentIds).records.get? agentId =
      if agentId ∈ agentIds then none else store.records.get? agentId := by
  induction agentIds generalizing store with
  | nil => rfl
  | cons first rest induction =>
      change ((store.remove first).removeAll rest).records.get? agentId = _
      rw [induction]
      by_cases same : agentId = first
      · simp [same]
      · rw [get?_remove_other store same]
        simp [same]

theorem held_of_mem_values {store : PresenceStore} {record : PresenceRecord}
    (member : record ∈ store.values) :
    store.records.get? record.agentId = some record := by
  rcases List.mem_map.mp member with ⟨entry, listed, rfl⟩
  have found := (Dict.get?_eq_some_iff _).mpr listed
  rwa [store.keyed entry.1 entry.2 found]

section Swept

variable [Floats]

theorem mem_expired_iff (store : PresenceStore) (now : ℚ) (agentId : String) :
    agentId ∈ store.expired now ↔
      ∃ record, store.records.get? agentId = some record ∧
        record.isExpired now = .ok true := by
  unfold expired
  rw [List.mem_map]
  constructor
  · rintro ⟨entry, kept, rfl⟩
    rcases List.mem_filter.mp kept with ⟨member, expired⟩
    exact ⟨entry.2, (Dict.get?_eq_some_iff _).mpr member, of_decide_eq_true expired⟩
  · rintro ⟨record, held, expired⟩
    exact ⟨(agentId, record), List.mem_filter.mpr
      ⟨(Dict.get?_eq_some_iff _).mp held, decide_eq_true expired⟩, rfl⟩

theorem unsweepable_eq_none_iff (store : PresenceStore) (now : ℚ) :
    store.unsweepable now = none ↔
      ∀ agentId record, store.records.get? agentId = some record →
        ∃ expired, record.isExpired now = .ok expired := by
  unfold unsweepable
  rw [List.findSome?_eq_none_iff]
  constructor
  · intro all agentId record held
    have fine := all _ ((Dict.get?_eq_some_iff _).mp held)
    cases outcome : record.isExpired now with
    | error raised => simp [outcome] at fine
    | ok expired => exact ⟨expired, rfl⟩
  · intro all entry member
    rcases all entry.1 entry.2 ((Dict.get?_eq_some_iff _).mpr member) with ⟨expired, outcome⟩
    rw [outcome]

theorem get?_of_sweep {store swept : PresenceStore} {now : ℚ}
    (done : store.sweep now = .ok swept) (agentId : String) :
    swept.records.get? agentId =
      (store.records.get? agentId).filter fun record => record.Live now := by
  unfold sweep at done
  split at done
  · cases done
  · next fine =>
      cases done
      rw [get?_removeAll]
      cases held : store.records.get? agentId with
      | none => simp
      | some record =>
          rcases (unsweepable_eq_none_iff store now).mp fine agentId record held with
            ⟨expired, outcome⟩
          have member := mem_expired_iff store now agentId
          simp only [held, Option.some.injEq, exists_eq_left'] at member
          cases expired with
          | true =>
              simp [member.mpr outcome, Option.filter_some, PresenceRecord.Live, outcome]
          | false =>
              have kept : agentId ∉ store.expired now := by
                rw [member, outcome]
                simp
              simp [kept, Option.filter_some, PresenceRecord.Live, outcome]

theorem held_of_sweep {store swept : PresenceStore} {now : ℚ} {agentId : String}
    {record : PresenceRecord} (done : store.sweep now = .ok swept)
    (held : swept.records.get? agentId = some record) :
    store.records.get? agentId = some record := by
  rw [get?_of_sweep done, Option.filter_eq_some_iff] at held
  exact held.1

theorem held_of_probe {store : PresenceStore} {now : ℚ} {agentId other : String}
    {record : PresenceRecord}
    (held : (store.probe other now).2.records.get? agentId = some record) :
    store.records.get? agentId = some record := by
  unfold probe at held
  split at held
  · exact held
  · split at held
    · exact held
    · exact held_of_remove held
    · exact held

theorem get?_mergeRecord (store : PresenceStore) (record : PresenceRecord)
    (agentId : String) :
    (store.mergeRecord record).2.records.get? agentId =
      if agentId = record.agentId then
        match store.records.get? agentId with
        | some existing =>
            if record.epoch.le existing.epoch then some existing else some record
        | none => some record
      else store.records.get? agentId := by
  unfold mergeRecord
  by_cases same : agentId = record.agentId
  · rw [if_pos same, same]
    split
    · next existing held =>
        split
        · exact held
        · exact get?_put_same store record
    · exact get?_put_same store record
  · rw [if_neg same]
    split
    · split
      · rfl
      · exact get?_put_other store same
    · exact get?_put_other store same

end Swept

end PresenceStore

end Agtp
