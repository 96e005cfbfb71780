import Agtp.Ans.IndexIntegrity
import Agtp.Presence.Noninterference

/-! # Hostile gossip

What a peer may send so that a coordinator keeps answering. -/

namespace Agtp

open Fallible

section Hostile

variable [Floats] [TextCase] [NumberText] [CallDepth]

/-! ## Harmless records -/

/-- No request raises on the record: its fields can be used as requests use them. Its
score and its methods matter only to those who may see it. -/
structure PresenceRecord.Harmless (record : PresenceRecord) : Prop where
  expiry : Succeeds record.expiresAt
  indexing : Succeeds record.indexing
  tier : ∀ query, Succeeds (Presence.meetsTierMin query record)
  visibility : ∀ requester, Succeeds (record.isVisible requester)
  behavior : ∀ requester, record.seenBy requester = true →
    Succeeds (Ranking.behavioralTrust
      (Json.get record.resultEntry "behavioral_trust_score"))
  methods : ∀ requester, record.seenBy requester = true →
    Succeeds (Presence.requiredScopeFor record)

def PresenceStore.Harmless (store : PresenceStore) : Prop :=
  ∀ agentId record, store.records.get? agentId = some record → record.Harmless

namespace PresenceRecord

variable {record : PresenceRecord}

omit [TextCase] [NumberText] [CallDepth] in
theorem succeeds_isExpired (expiry : Succeeds record.expiresAt) (now : ℚ) :
    Succeeds (record.isExpired now) := by
  rcases expiry with ⟨deadline, computed⟩
  unfold isExpired
  rw [computed]
  exact ⟨_, rfl⟩

omit [Floats] [TextCase] [NumberText] [CallDepth] in
theorem succeeds_claims (indexing : Succeeds record.indexing) : Succeeds record.claims := by
  unfold PresenceRecord.indexing at indexing
  unfold claims
  cases read : record.capabilities with
  | error raised =>
      rw [read] at indexing
      exact absurd indexing (not_succeeds_error raised)
  | ok items =>
      rw [read] at indexing
      dsimp only at indexing ⊢
      split
      · exact ⟨items, rfl⟩
      · next mixed =>
          rw [if_neg mixed] at indexing
          exact absurd indexing (not_succeeds_error _)

theorem Harmless.not_probeRaises (harmless : record.Harmless) (now : ℚ)
    (requester : RequesterContext) : ¬Presence.ProbeRaises now requester record := by
  rintro (untold | ⟨_, untold⟩)
  · exact untold (succeeds_isExpired harmless.expiry now)
  · exact untold (harmless.visibility requester)

theorem Harmless.not_queryRaises (harmless : record.Harmless) (now : ℚ)
    (query : Presence.Query) (requester : RequesterContext) :
    ¬Presence.QueryRaises now query requester record := by
  rintro (untold | ⟨_, _, untold⟩)
  · exact untold (succeeds_isExpired harmless.expiry now)
  · rcases harmless.tier query with ⟨meets, compared⟩
    apply untold
    unfold Presence.admits
    rw [compared]
    cases meets with
    | false => exact succeeds_ok false
    | true =>
        dsimp only
        split
        · exact harmless.visibility requester
        · exact succeeds_ok false

end PresenceRecord

/-! ## Queries on harmless records -/

namespace Presence

omit [NumberText] [CallDepth] in
theorem record_of_scoreRecord {capability intent : Option String} {record : PresenceRecord}
    {scored : Scored}
    (ended : Ranking.scoreRecord capability intent record = .ok scored) :
    scored.record = record := by
  unfold Ranking.scoreRecord at ended
  split at ended
  · cases ended
  · cases behavior : Ranking.behavioralTrust
        (Json.get record.resultEntry "behavioral_trust_score") with
    | error raised =>
        rw [behavior] at ended
        cases ended
    | ok value =>
        rw [behavior] at ended
        cases ended
        rfl

theorem succeeds_scoreRecord {record : PresenceRecord} (harmless : record.Harmless)
    {requester : RequesterContext} (seen : record.seenBy requester = true)
    (capability intent : Option String) :
    Succeeds (Ranking.scoreRecord capability intent record) := by
  rcases PresenceRecord.succeeds_claims harmless.indexing with ⟨claims, claimed⟩
  rcases harmless.behavior requester seen with ⟨value, converted⟩
  unfold Ranking.scoreRecord
  rw [claimed]
  dsimp only
  rw [converted]
  exact ⟨_, rfl⟩

omit [NumberText] [CallDepth] in
theorem succeeds_resultEntry {query : Query} {scored : Scored}
    (methods : Succeeds (requiredScopeFor scored.record)) (rank : Nat) :
    Succeeds (resultEntry query rank scored) := by
  rcases methods with ⟨scope, told⟩
  unfold resultEntry
  dsimp only
  split
  · rw [told]
    exact ⟨_, rfl⟩
  · exact ⟨_, rfl⟩

omit [TextCase] [Floats] [NumberText] [CallDepth] in
theorem mem_of_limited {limit : Option Int} {scored : Scored} {list : List Scored}
    (member : scored ∈ limited limit list) : scored ∈ list := by
  unfold limited at member
  split at member
  · split at member
    · exact List.mem_of_mem_take member
    · exact member
  · exact member

theorem succeeds_resultsOf (query : Query) {filtered : List PresenceRecord}
    {requester : RequesterContext}
    (fine : ∀ record ∈ filtered, record.Harmless ∧ record.seenBy requester = true) :
    Succeeds (resultsOf query filtered) := by
  have scores : Succeeds (Fallible.map
      (Ranking.scoreRecord query.capability query.intent) filtered) := by
    rw [succeeds_map_iff]
    intro record member
    exact succeeds_scoreRecord (fine record member).1 (fine record member).2 _ _
  rcases scores with ⟨scored, mapped⟩
  have ranks : ∃ ranked,
      Ranking.rankRecords query.capability query.intent filtered = .ok ranked := by
    unfold Ranking.rankRecords
    rw [mapped]
    exact ⟨_, rfl⟩
  rcases ranks with ⟨ranked, ended⟩
  have entries : Succeeds (Fallible.map
      (fun ranked : Scored × Nat => resultEntry query (ranked.2 + 1) ranked.1)
      (limited query.limit ranked).zipIdx) := by
    rw [succeeds_map_iff]
    rintro ⟨shown, rank⟩ member
    have listed : shown ∈ ranked :=
      mem_of_limited (List.fst_mem_of_mem_zipIdx member)
    rcases Ranking.mem_of_rankRecords ended listed with ⟨record, kept, from_record⟩
    apply succeeds_resultEntry
    rw [record_of_scoreRecord from_record]
    exact (fine record kept).1.methods requester (fine record kept).2
  rcases entries with ⟨shown, written⟩
  unfold resultsOf
  rw [ended]
  dsimp only
  unfold resultEntries
  rw [written]
  exact ⟨_, rfl⟩

end Presence

/-! ## Rounds of gossip -/

namespace Gossip

variable [TextOf]

/-- The records are merged in order, and each that replaces what is held is
harmless. -/
def MergesHarmless : List PresenceRecord → PresenceStore → Prop
  | [], _ => True
  | record :: rest, store =>
      ((store.mergeRecord record).1 ≠ .ok false → record.Harmless) ∧
        MergesHarmless rest (store.mergeRecord record).2

def Comparable (digest : List (String × Json)) (agentId : String) : Prop :=
  Json.get digest agentId = .null ∨ (Json.get digest agentId).number?.isSome

/-- A body of which every entry is malformed or converts, which brings in harmless
records only, and whose digest gives times for the live agents. -/
structure SoundBody (verify : PresenceRecord → Bool) (moment : Moment)
    (body : List (String × Json)) (store : PresenceStore) : Prop where
  listed : Succeeds (Json.getOr body "records" (.array [])).iterate
  converts : ∀ entries, (Json.getOr body "records" (.array [])).iterate = .ok entries →
    ∀ raw ∈ entries, ∀ raised,
      PresenceRecord.fromGossipDict moment.text raw = .error raised →
        raised.malformed = true
  harmless : MergesHarmless (acceptedRecords verify moment body) store
  comparable : ∀ record : PresenceRecord, record.Live moment.now →
    store.records.get? record.agentId = some record ∨
        record ∈ acceptedRecords verify moment body →
      Comparable (digestOf body) record.agentId

variable {verify : PresenceRecord → Bool} {moment : Moment}

omit [TextCase] [NumberText] [CallDepth] [TextOf] in
theorem mergeRecord_passed {store : PresenceStore} {record : PresenceRecord}
    (passed : (store.mergeRecord record).1 = .ok false) :
    (store.mergeRecord record).2 = store := by
  unfold PresenceStore.mergeRecord at passed ⊢
  have replaced : record.indexing.map (fun _ => true) ≠ .ok false := by
    cases record.indexing <;> simp [Except.map]
  cases held : store.records.get? record.agentId with
  | none =>
      rw [held] at passed
      exact absurd passed replaced
  | some existing =>
      rw [held] at passed
      dsimp only at passed ⊢
      split
      · rfl
      · next newer =>
          rw [if_neg newer] at passed
          exact absurd passed replaced

omit [TextOf] in
theorem mergeRecord_harmless {store : PresenceStore} {record : PresenceRecord}
    (held : store.Harmless)
    (harmless : (store.mergeRecord record).1 ≠ .ok false → record.Harmless) :
    Succeeds (store.mergeRecord record).1 ∧ (store.mergeRecord record).2.Harmless := by
  by_cases passed : (store.mergeRecord record).1 = .ok false
  · rw [mergeRecord_passed passed]
    exact ⟨⟨false, passed⟩, held⟩
  · have fine := harmless passed
    rcases fine.indexing with ⟨done, indexed⟩
    constructor
    · unfold PresenceStore.mergeRecord
      rw [indexed]
      split
      · split
        · exact ⟨false, rfl⟩
        · exact ⟨true, rfl⟩
      · exact ⟨true, rfl⟩
    · intro agentId kept found
      rw [PresenceStore.get?_mergeRecord] at found
      split at found
      · next same =>
          split at found
          · next existing there =>
              split at found
              · cases found
                exact held agentId _ there
              · cases found
                exact fine
          · cases found
            exact fine
      · exact held agentId kept found

theorem mergeEntries_harmless {entries : List Json} {counts : Counts}
    {store : PresenceStore} (held : store.Harmless)
    (converts : ∀ raw ∈ entries, ∀ raised,
      PresenceRecord.fromGossipDict moment.text raw = .error raised →
        raised.malformed = true)
    (harmless : MergesHarmless (entries.filterMap (admitted verify moment)) store) :
    Succeeds (mergeEntries verify moment entries counts store).1 ∧
      (mergeEntries verify moment entries counts store).2.Harmless := by
  induction entries generalizing counts store with
  | nil => exact ⟨⟨counts, rfl⟩, held⟩
  | cons raw rest induction =>
      have others := fun other member => converts other (List.mem_cons_of_mem raw member)
      unfold mergeEntries
      cases read : PresenceRecord.fromGossipDict moment.text raw with
      | error raised =>
          have skipped : admitted verify moment raw = none := by
            unfold admitted
            rw [read]
            rfl
          rw [List.filterMap_cons_none skipped] at harmless
          dsimp only
          rw [if_pos (converts raw List.mem_cons_self raised read)]
          exact induction held others harmless
      | ok record =>
          dsimp only
          by_cases verified : verify record = true
          · have kept : admitted verify moment raw = some record := by
              unfold admitted
              rw [read]
              exact Option.filter_some_pos verified
            rw [List.filterMap_cons_some kept] at harmless
            rcases mergeRecord_harmless held harmless.1 with ⟨⟨changed, merged⟩, after⟩
            rw [if_pos verified]
            rcases outcome : store.mergeRecord record with ⟨result, next⟩
            have rest := harmless.2
            rw [outcome] at merged after rest
            rw [show result = .ok changed from merged]
            exact induction after others rest
          · have dropped : admitted verify moment raw = none := by
              unfold admitted
              rw [read]
              simp [Except.toOption, Option.filter_some, verified]
            rw [List.filterMap_cons_none dropped] at harmless
            rw [if_neg verified]
            exact induction held others harmless

omit [TextCase] [NumberText] [CallDepth] [TextOf] in
theorem succeeds_needed {digest : List (String × Json)}
    {entries : List (String × PresenceRecord)}
    (comparable : ∀ entry ∈ entries, Comparable digest entry.1) :
    Succeeds (PresenceStore.needed digest entries) := by
  induction entries with
  | nil => exact ⟨[], rfl⟩
  | cons entry rest induction =>
      have told : Succeeds (PresenceStore.peerNeeds digest entry) := by
        unfold PresenceStore.peerNeeds
        rcases comparable entry List.mem_cons_self with absent | number
        · rw [absent]
          exact ⟨true, rfl⟩
        · split
          · exact ⟨true, rfl⟩
          · split
            · exact ⟨_, rfl⟩
            · next unknown =>
                rw [unknown] at number
                cases number
      rcases told with ⟨needs, answer⟩
      rcases induction fun other member => comparable other (List.mem_cons_of_mem _ member)
        with ⟨others, rest⟩
      unfold PresenceStore.needed
      rw [answer, rest]
      exact ⟨_, rfl⟩

end Gossip

omit [TextCase] [NumberText] [CallDepth] in
theorem PresenceStore.Harmless.sweep [TextCase] [NumberText] [CallDepth]
    {store : PresenceStore} (harmless : store.Harmless) (now : ℚ) :
    ∃ swept, store.sweep now = .ok swept ∧ swept.Harmless := by
  have fine : store.unsweepable now = none := by
    rw [PresenceStore.unsweepable_eq_none_iff]
    intro agentId record held
    exact PresenceRecord.succeeds_isExpired (harmless agentId record held).expiry now
  have done : store.sweep now = .ok (store.removeAll (store.expired now)) := by
    unfold PresenceStore.sweep
    rw [fine]
  exact ⟨_, done, fun agentId record held =>
    harmless agentId record (PresenceStore.held_of_sweep done held)⟩

namespace Gossip

variable [TextOf] {verify : PresenceRecord → Bool} {moment : Moment}

theorem applyReplicate_harmless {body : List (String × Json)} {store : PresenceStore}
    (held : store.Harmless) (sound : SoundBody verify moment body store) :
    Succeeds (applyReplicate verify moment body store).1 ∧
      (applyReplicate verify moment body store).2.Harmless := by
  rcases sound.listed with ⟨entries, iterated⟩
  have accepted : acceptedRecords verify moment body =
      entries.filterMap (admitted verify moment) := by
    unfold acceptedRecords
    rw [iterated]
  have harmless := sound.harmless
  rw [accepted] at harmless
  have round : Succeeds (mergeEntries verify moment entries ⟨0, 0⟩ store).1 ∧
      (mergeEntries verify moment entries ⟨0, 0⟩ store).2.Harmless :=
    mergeEntries_harmless held (sound.converts entries iterated) harmless
  have source (record : PresenceRecord)
      (there : (mergeEntries verify moment entries ⟨0, 0⟩ store).2.records.get?
        record.agentId = some record) :
      store.records.get? record.agentId = some record ∨
        record ∈ acceptedRecords verify moment body :=
    (source_of_merged iterated there).imp_right And.right
  unfold applyReplicate
  rw [iterated]
  dsimp only
  rcases outcome : mergeEntries verify moment entries ⟨0, 0⟩ store with ⟨result, merged⟩
  rw [outcome] at round source
  rcases round with ⟨⟨counts, finished⟩, after⟩
  rw [show result = .ok counts from finished]
  rcases after.sweep moment.now with ⟨swept, done, left⟩
  have comparable : ∀ entry ∈ swept.records.entries, Comparable (digestOf body) entry.1 := by
    intro entry member
    have there := (Dict.get?_eq_some_iff _).mpr member
    have own := swept.keyed entry.1 entry.2 there
    rw [PresenceStore.get?_of_sweep done, Option.filter_eq_some_iff] at there
    rw [← own] at there ⊢
    exact sound.comparable entry.2 (of_decide_eq_true there.2) (source entry.2 there.1)
  rcases succeeds_needed comparable with ⟨delta, told⟩
  have needs : merged.recordsPeerNeeds (digestOf body) moment.now = (.ok delta, swept) := by
    unfold PresenceStore.recordsPeerNeeds
    rw [done]
    exact congrArg (·, swept) told
  dsimp only
  rw [needs]
  exact ⟨⟨_, rfl⟩, left⟩

end Gossip

/-! ## Runs -/

open Presence

section Runs

variable [TextOf] [MethodCatalog] [BodyCodec]

/-- A request to a coordinator, and when it is served. -/
inductive GossipEvent where
  | replicate (request : Request) (moment : Gossip.Moment)
  | probe (request : Request) (now : ℚ)
  | population (request : Request) (now : ℚ)

namespace GossipEvent

def serve (registry : PresenceRegistry) : GossipEvent → PresenceStore → Handled
  | replicate request moment => handleReplicate registry moment request
  | probe request now => handleProbe registry now request
  | population request now => handlePopulation registry now request

def Readable (registry : PresenceRegistry) (request : Request) : Prop :=
  Succeeds (mergedParams request) ∧ Succeeds (requesterContext registry request)

/-- A request that is sound in itself. -/
def Sound (registry : PresenceRegistry) (store : PresenceStore) : GossipEvent → Prop
  | replicate request moment =>
      match parsedBody request with
      | .error detail => detail.isSome
      | .ok body => Gossip.SoundBody (accepts registry) moment body store
  | probe request _ => Readable registry request
  | population request _ =>
      Readable registry request ∧ ∀ params, mergedParams request = .ok params →
        ∀ raised, readQuery params ≠ .error (.raise raised)

/-- What a request does to the records: a body that can be read is merged, without its
malformed entries. -/
def Merges (registry : PresenceRegistry) (store after : PresenceStore) :
    GossipEvent → Prop
  | replicate request moment =>
      ∀ body, parsedBody request = .ok body →
        ∃ delta, Gossip.Replied (accepts registry) moment body store after delta
  | _ => True

/-- The request is answered, what it brings is merged, and the index tells who has a
capability. -/
structure Served (registry : PresenceRegistry) (store : PresenceStore)
    (event : GossipEvent) : Prop where
  answered : Succeeds (event.serve registry store).1
  merged : event.Merges registry store (event.serve registry store).2
  indexed : ∀ capability agentId,
    agentId ∈ (event.serve registry store).2.byCapability.members capability ↔
      ∃ record, (event.serve registry store).2.records.get? agentId = some record ∧
        capability ∈ record.indexedUnder

def SoundRun (registry : PresenceRegistry) : List GossipEvent → PresenceStore → Prop
  | [], _ => True
  | event :: rest, store =>
      event.Sound registry store ∧ SoundRun registry rest (event.serve registry store).2

def ServedRun (registry : PresenceRegistry) : List GossipEvent → PresenceStore → Prop
  | [], _ => True
  | event :: rest, store =>
      event.Served registry store ∧ ServedRun registry rest (event.serve registry store).2

variable {registry : PresenceRegistry} {store : PresenceStore}

omit [TextOf] [MethodCatalog] [BodyCodec] in
theorem harmless_of_grows {after : PresenceStore} (harmless : store.Harmless)
    (grows : store.Grows after fun _ => False) : after.Harmless := by
  intro agentId record held
  rcases grows agentId record held with there | new
  · exact harmless agentId record there
  · exact new.elim

theorem served_replicate (harmless : store.Harmless) {request : Request}
    {moment : Gossip.Moment} (sound : (replicate request moment).Sound registry store) :
    (replicate request moment).Served registry store ∧
      ((replicate request moment).serve registry store).2.Harmless := by
  cases read : parsedBody request with
  | error detail =>
      have served : (replicate request moment).serve registry store =
          handleReplicate registry moment request store := rfl
      have given : detail.isSome := by
        dsimp only [Sound] at sound
        rwa [read] at sound
      rcases Option.isSome_iff_exists.mp given with ⟨text, same⟩
      have refused : handleReplicate registry moment request store =
          refuse store
            (Status.errorResponse 400 "Bad Request" "replicate-bad-body" text []) := by
        unfold handleReplicate
        rw [read, same]
      rw [refused] at served
      constructor
      · constructor
        · rw [served]
          exact succeeds_ok _
        · intro body parsed
          rw [read] at parsed
          cases parsed
        · exact PresenceStore.indexed _
      · rw [served]
        exact harmless
  | ok body =>
      have fine : Gossip.SoundBody (accepts registry) moment body store := by
        dsimp only [Sound] at sound
        rwa [read] at sound
      rcases Gossip.applyReplicate_harmless harmless fine with ⟨⟨reply, replied⟩, after⟩
      rcases outcome : Gossip.applyReplicate (accepts registry) moment body store with
        ⟨result, left⟩
      rw [outcome] at replied after
      have told : Gossip.applyReplicate (accepts registry) moment body store =
          (.ok reply, left) := by
        rw [outcome, show result = .ok reply from replied]
      have served : (replicate request moment).serve registry store =
          answer left reply := by
        change handleReplicate registry moment request store = _
        unfold handleReplicate
        rw [read]
        dsimp only
        rw [told]
      rcases Gossip.replied_of_applyReplicate told with ⟨_, delta, merged, _⟩
      constructor
      · constructor
        · rw [served]
          exact succeeds_ok _
        · intro parsed same
          rw [read] at same
          cases same
          rw [served]
          exact ⟨delta, merged⟩
        · exact PresenceStore.indexed _
      · rw [served]
        exact after

omit [Floats] [TextCase] [NumberText] [CallDepth] [TextOf] [MethodCatalog] [BodyCodec] in
theorem succeeds_of_told {handled : Handled} {response : Response}
    (answered : told handled = some response) : Succeeds handled.1 := by
  unfold told at answered
  cases outcome : handled.1 with
  | error raised =>
      rw [outcome] at answered
      cases answered
  | ok response => exact succeeds_ok response

theorem served_probe (harmless : store.Harmless) {request : Request} {now : ℚ}
    (sound : (probe request now).Sound registry store) :
    (probe request now).Served registry store ∧
      ((probe request now).serve registry store).2.Harmless := by
  rcases sound with ⟨⟨params, read⟩, ⟨requester, known⟩⟩
  refine ⟨⟨?_, trivial, PresenceStore.indexed _⟩,
    harmless_of_grows harmless (grows_handleProbe registry now request)⟩
  cases named : probedAgent request with
  | none =>
      change Succeeds (handleProbe registry now request store).1
      unfold probedAgent at named
      unfold handleProbe
      rw [read] at named ⊢
      dsimp only at named ⊢
      split
      · exact succeeds_ok _
      · next subject =>
          rw [if_neg subject] at named
          cases named
  | some agentId =>
      apply succeeds_of_told
      change told (handleProbe registry now request store) = _
      rw [told_handleProbe_of_some known now named]
      apply (guarded_probed agentId now requester store).answered
      rintro ⟨record, held, raises⟩
      exact (harmless agentId record held).not_probeRaises now requester raises

theorem served_population (harmless : store.Harmless) {request : Request} {now : ℚ}
    (sound : (population request now).Sound registry store) :
    (population request now).Served registry store ∧
      ((population request now).serve registry store).2.Harmless := by
  rcases sound with ⟨⟨⟨params, read⟩, ⟨requester, known⟩⟩, readable⟩
  refine ⟨⟨?_, trivial, PresenceStore.indexed _⟩,
    harmless_of_grows harmless (grows_handlePopulation registry now request)⟩
  cases asked : askedQuery registry request with
  | none =>
      change Succeeds (handlePopulation registry now request store).1
      unfold askedQuery at asked
      unfold handlePopulation
      rw [read] at asked ⊢
      dsimp only at asked ⊢
      split
      · exact succeeds_ok _
      · next inside =>
          rw [if_neg inside] at asked
          cases outcome : readQuery params with
          | error stop =>
              cases stop with
              | answer response => exact succeeds_ok _
              | raise raised => exact absurd outcome (readable params read raised)
          | ok query =>
              rw [outcome] at asked
              cases asked
  | some query =>
      have quiet : ¬∃ record ∈ store.values, QueryRaises now query requester record := by
        rintro ⟨record, member, raises⟩
        exact (harmless _ record (PresenceStore.held_of_mem_values member)).not_queryRaises
          now query requester raises
      have fine : ∀ record ∈ matchesOf now query requester store,
          record.Harmless ∧ record.seenBy requester = true := by
        intro record member
        rcases List.mem_filter.mp member with ⟨sorted, fitting⟩
        have held := PresenceStore.held_of_mem_values (List.mem_mergeSort.mp sorted)
        exact ⟨harmless _ record held, seenBy_of_isMatch fitting⟩
      rcases succeeds_resultsOf query fine with ⟨results, written⟩
      have paged := (guarded_populated registry now query requester store).answered quiet
      unfold page at paged
      rw [written] at paged
      apply succeeds_of_told
      change told (handlePopulation registry now request store) = _
      rw [told_handlePopulation_of_some known now asked]
      exact paged

/-- As long as what peers send is sound, a coordinator with harmless records serves every
request, and its records stay harmless. -/
theorem served_of_soundRun (registry : PresenceRegistry) {events : List GossipEvent}
    {store : PresenceStore} (harmless : store.Harmless)
    (sound : SoundRun registry events store) : ServedRun registry events store := by
  induction events generalizing store with
  | nil => trivial
  | cons event rest induction =>
      have step : event.Served registry store ∧
          (event.serve registry store).2.Harmless := by
        cases event with
        | replicate request moment => exact served_replicate harmless sound.1
        | probe request now => exact served_probe harmless sound.1
        | population request now => exact served_population harmless sound.1
      exact ⟨step.1, induction step.2 sound.2⟩

end GossipEvent

end Runs

end Hostile

/-! ## Samples -/

namespace HostileSamples

open Presence
open scoped Plain PlainServing

scoped instance : MethodCatalog where
  methods := []

scoped instance : CallDepth := ⟨100⟩

def scout : Json := .object [("agent_id", .string "scout")]

def endless : Json := .object [("agent_id", .string "endless"), ("ttl_seconds", .float "inf")]

def golden : Json :=
  .object [("agent_id", .string "golden"),
    ("result_entry", .object [("trust_tier", .string "gold")])]

def bodyOf (entries : List Json) : Json := .object [("records", .array entries)]

/-- The bodies `[1]` to `[3]` are gossip, and `[4]` asks for a tier. -/
scoped instance : BodyCodec where
  dumps := fun _ => []
  loads := fun body =>
    if body = [1] then .ok (bodyOf [.int 5, scout])
    else if body = [2] then .ok (bodyOf [endless, scout])
    else if body = [3] then .ok (bodyOf [golden])
    else .ok (.object [("trust_tier_min", .int 2)])
  failureText := fun _ => ""
  loadsStrict := fun _ => none

def registry : PresenceRegistry where
  hosted := fun _ => none
  relayEndpoint := none
  requireDiscoveryScope := false
  verifySignatures := false
  envelopeOf := fun _ => none
  verifyRecord := fun _ => true
  boundToGenesis := fun _ => true
  signRecord := fun _ => none
  signResults := fun _ => none

def moment : Gossip.Moment := ⟨20, "t"⟩

def asking (method : String) (body : Bytes) : Request :=
  { Request.toRoot method [] with body := body }

def gossip (body : Bytes) : GossipEvent := .replicate (asking "REPLICATE" body) moment

def query : GossipEvent := .population (asking "DISCOVER" [4]) 20

def scoutRecord : PresenceRecord where
  agentId := "scout"
  resultEntry := []
  scopes := []
  visibility := .standard
  announcedAt := "t"
  announcedAtEpoch := "0.0"
  ttlSeconds := 60
  ownerDomain := .null
  attachment := none
  signature := .null

theorem scoutRecord_harmless : scoutRecord.Harmless where
  expiry := ⟨_, rfl⟩
  indexing := ⟨(), rfl⟩
  tier query := by
    unfold meetsTierMin
    cases query.trustTierMin <;> exact ⟨_, rfl⟩
  visibility requester := ⟨true, rfl⟩
  behavior _ _ := ⟨_, rfl⟩
  methods _ _ := ⟨_, rfl⟩

theorem scout_admitted :
    Gossip.acceptedRecords (accepts registry) moment [("records", .array [.int 5, scout])] =
      [scoutRecord] := rfl

/-- A peer's malformed entry is skipped, its proper one is merged, and what is asked next
is answered. -/
theorem proper_gossip_served : GossipEvent.ServedRun registry [gossip [1], query] .empty := by
  apply GossipEvent.served_of_soundRun registry
  · intro agentId record held
    cases held
  · have body : Gossip.SoundBody (accepts registry) moment
        [("records", .array [.int 5, scout])] .empty := {
      listed := ⟨_, rfl⟩
      converts := by
        intro entries iterated raw member raised read
        cases iterated
        rcases List.mem_cons.mp member with rfl | last
        · cases read
          rfl
        · rw [List.mem_singleton.mp last] at read
          cases read
      harmless := by
        rw [scout_admitted]
        exact ⟨fun _ => scoutRecord_harmless, trivial⟩
      comparable := fun _ _ _ => .inl rfl }
    have asked : (query.Sound registry ((gossip [1]).serve registry .empty).2) := by
      refine ⟨⟨by decide +kernel, by decide +kernel⟩, ?_⟩
      intro params read raised readable
      cases read
      cases readable
    exact ⟨body, asked, trivial⟩

/-- An endless entry ends the round before the proper one is merged, and a golden one is
merged, so that who asks for a tier gets no answer any more. -/
theorem hostile_gossip_not_served :
    ¬Fallible.Succeeds ((gossip [2]).serve registry .empty).1 ∧
      (((gossip [2]).serve registry .empty).2.records.get? "scout").isNone ∧
      Fallible.Succeeds ((gossip [3]).serve registry .empty).1 ∧
      ¬Fallible.Succeeds
        (query.serve registry ((gossip [3]).serve registry .empty).2).1 := by
  decide +kernel

end HostileSamples

end Agtp
