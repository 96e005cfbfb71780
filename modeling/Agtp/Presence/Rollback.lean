import Agtp.Ans.IndexIntegrity

/-! # Rollback

Whether the announcement time of an agent's record can go back. -/

namespace Agtp

namespace PresenceRecord

variable [Floats]

/-- The other record is not announced earlier. A record whose time is no number is not
earlier or later than any. -/
def KeepsUp (record other : PresenceRecord) : Prop :=
  record.epoch = .nan ∨ record.epoch.le other.epoch = true

theorem keepsUp_refl (record : PresenceRecord) : record.KeepsUp record := by
  by_cases number : record.epoch = .nan
  · exact .inl number
  · exact .inr (Double.le_refl number)

theorem KeepsUp.trans {first second third : PresenceRecord} (left : first.KeepsUp second)
    (right : second.KeepsUp third) : first.KeepsUp third := by
  rcases left with number | before
  · exact .inl number
  · rcases right with unordered | after
    · exact absurd unordered (Double.number_of_le before).2
    · exact .inr (Double.le_trans before after)

theorem keepsUp_of_writeAll {held left : PresenceRecord} {records : List PresenceRecord}
    (numbers : held.epoch ≠ .nan → ∀ record ∈ records, record.epoch ≠ .nan)
    (written : LastWriter.writeAll covers (some held) records = some left) :
    held.KeepsUp left := by
  by_cases unordered : held.epoch = .nan
  · exact .inl unordered
  · right
    replace numbers := numbers unordered
    induction records generalizing held with
    | nil =>
        cases written
        exact Double.le_refl unordered
    | cons first rest induction =>
        have other := numbers first List.mem_cons_self
        have later := fun record member => numbers record (List.mem_cons_of_mem first member)
        change LastWriter.writeAll covers
          (some (LastWriter.keep covers held first)) rest = some left at written
        unfold LastWriter.keep covers at written
        by_cases older : first.epoch.le held.epoch = true
        · rw [if_pos older] at written
          exact induction written unordered later
        · rw [if_neg older] at written
          have newer := (Double.le_total unordered other).resolve_right older
          exact Double.le_trans newer (induction written other later)

end PresenceRecord

/-! ## What an event brings -/

/-- What happens to a coordinator: it serves a request, or merges a reply to its own. -/
inductive PresenceEvent where
  | served (request : Request) (reading : Reading)
  | replied (body : List (String × Json)) (moment : Gossip.Moment)

namespace PresenceEvent

open Presence PresenceStore

section Events

variable [Floats] [TextCase] [TextOf] [NumberText] [MethodCatalog] [BodyCodec]

/-- The record that an `ANNOUNCE` of a hosted agent writes. -/
def hostedRecord (registry : PresenceRegistry) (reading : Reading) (request : Request)
    (params : List (String × Json)) (document : DocumentFields) : Option PresenceRecord :=
  match announcedTtl params with
  | .error _ => none
  | .ok ttl =>
      let effective := Visibility.bound (request.verifiedCert.bind registry.envelopeOf)
        (readRequestedVisibility request params)
      (buildRecord document registry.relayEndpoint effective ttl reading).toOption.map
        (signed registry)

/-- The record that an `ANNOUNCE` writes. -/
def announcedBy (registry : PresenceRegistry) (reading : Reading) (request : Request) :
    Option PresenceRecord :=
  match mergedParams request with
  | .error _ => none
  | .ok params =>
      match Json.get params "record" with
      | .object _ => declaredByAnnounce registry reading request
      | _ =>
          if subjectAgentId request params = "" then none
          else
            match registry.hosted (subjectAgentId request params) with
            | none => none
            | some document => hostedRecord registry reading request params document

def brought (registry : PresenceRegistry) : PresenceEvent → List PresenceRecord
  | .served request reading =>
      if upper request.method = "ANNOUNCE" then
        (announcedBy registry reading request).toList
      else if upper request.method = "REPLICATE" then
        declaredByReplicate registry reading.toMoment request
      else []
  | .replied body moment => Gossip.acceptedRecords (accepts registry) moment body

def now : PresenceEvent → ℚ
  | .served _ reading => reading.now
  | .replied _ moment => moment.now

def Withdraws (agentId : String) : PresenceEvent → Prop
  | .served request _ =>
      upper request.method = "WITHDRAW" ∧ ∃ params, mergedParams request = .ok params ∧
        subjectAgentId request params = agentId
  | .replied _ _ => False

variable [CallDepth]

def after (registry : PresenceRegistry) (failureText : Raised → String)
    (store : PresenceStore) : PresenceEvent → PresenceStore
  | .served request reading =>
      Ans.presenceAfter registry failureText reading request store
  | .replied body moment => (Gossip.mergeReply (accepts registry) moment body store).2

def afterAll (registry : PresenceRegistry) (failureText : Raised → String)
    (store : PresenceStore) (events : List PresenceEvent) : PresenceStore :=
  events.foldl (after registry failureText) store

def Lapses (registry : PresenceRegistry) (failureText : Raised → String)
    (store : PresenceStore) (agentId : String) (event : PresenceEvent) : Prop :=
  event.Withdraws agentId ∨
    (∃ held, store.records.get? agentId = some held ∧ ¬held.Live event.now) ∨
    (after registry failureText store event).records.get? agentId = none ∧
      ∃ record ∈ event.brought registry, record.agentId = agentId ∧ ¬record.Live event.now

/-- What is announced keeps up with what is held, and what is merged over a proper time
has one. -/
def Steady (registry : PresenceRegistry) (store : PresenceStore) (event : PresenceEvent) :
    Prop :=
  ∀ record ∈ event.brought registry, ∀ held,
    store.records.get? record.agentId = some held → held.Live event.now →
      match event with
      | .served request _ =>
          if upper request.method = "ANNOUNCE" then held.KeepsUp record
          else held.epoch ≠ .nan → record.epoch ≠ .nan
      | .replied _ _ => held.epoch ≠ .nan → record.epoch ≠ .nan

/-! ## One event -/

variable {registry : PresenceRegistry} {store : PresenceStore} {agentId : String}
  {held : PresenceRecord}

omit [TextCase] [TextOf] [NumberText] [MethodCatalog] [BodyCodec] [CallDepth] in
theorem get?_sweep_of_live (there : store.records.get? agentId = some held) {now : ℚ}
    (live : held.Live now) {swept : PresenceStore} (done : store.sweep now = .ok swept) :
    swept.records.get? agentId = some held := by
  rw [get?_of_sweep done, there, Option.filter_some, if_pos (decide_eq_true live)]

def written (store : PresenceStore) (now : ℚ) (record : PresenceRecord) : PresenceStore :=
  match record.indexing with
  | .error _ => store.put record
  | .ok () =>
      match (store.put record).sweep now with
      | .ok swept => swept
      | .error _ => store.put record

omit [TextCase] [TextOf] [NumberText] [MethodCatalog] [BodyCodec] [CallDepth] in
theorem after_announced (reading : Reading) (record : PresenceRecord) (verified : Bool)
    (store : PresenceStore) :
    (announced reading record verified store).2 = written store reading.now record := by
  unfold announced written PresenceStore.announce answerCounted counted
  cases record.indexing with
  | error raised => rfl
  | ok done =>
      dsimp only
      cases (store.put record).sweep reading.now <;> rfl

omit [TextCase] [MethodCatalog] [BodyCodec] [CallDepth] in
theorem after_announceForeignRecord (registry : PresenceRegistry) (reading : Reading)
    (failureText : Raised → String) (raw : Json) (store : PresenceStore) :
    (announceForeignRecord registry reading failureText raw store).2 =
      match (PresenceRecord.fromGossipDict reading.text raw).toOption.filter fun record =>
        registry.verifyRecord record && registry.boundToGenesis record with
      | none => store
      | some record => written store reading.now record := by
  unfold announceForeignRecord
  cases PresenceRecord.fromGossipDict reading.text raw with
  | error raised =>
      dsimp only
      split <;> rfl
  | ok record =>
      change _ = match (some record).filter fun record =>
        registry.verifyRecord record && registry.boundToGenesis record with
        | none => store
        | some record => written store reading.now record
      rw [Option.filter_some]
      dsimp only
      cases registry.verifyRecord record with
      | false => rfl
      | true =>
          cases registry.boundToGenesis record with
          | false => rfl
          | true => exact after_announced reading record true store

omit [BodyCodec] [CallDepth] in
theorem after_announceHosted (registry : PresenceRegistry) (reading : Reading)
    (request : Request) (params : List (String × Json)) (document : DocumentFields)
    (store : PresenceStore) :
    (announceHosted registry reading request params document store).2 =
      match hostedRecord registry reading request params document with
      | none => store
      | some record => written store reading.now record := by
  unfold announceHosted hostedRecord
  dsimp only
  cases announcedTtl params with
  | error stop => cases stop <;> rfl
  | ok ttl =>
      dsimp only
      generalize buildRecord document registry.relayEndpoint _ ttl reading = built
      cases built with
      | error raised => rfl
      | ok record => exact after_announced reading _ false store

omit [CallDepth] in
theorem after_handleAnnounce (registry : PresenceRegistry) (reading : Reading)
    (failureText : Raised → String) (request : Request) (store : PresenceStore) :
    (handleAnnounce registry reading failureText request store).2 =
      match announcedBy registry reading request with
      | none => store
      | some record => written store reading.now record := by
  unfold handleAnnounce announcedBy declaredByAnnounce
  cases mergedParams request with
  | error raised => rfl
  | ok params =>
      dsimp only
      cases Json.get params "record" with
      | object raw => exact after_announceForeignRecord registry reading failureText _ store
      | _ =>
          dsimp only
          by_cases unnamed : subjectAgentId request params = ""
          · rw [if_pos unnamed, if_pos unnamed]
            rfl
          · rw [if_neg unnamed, if_neg unnamed]
            cases registry.hosted (subjectAgentId request params) with
            | none => rfl
            | some document =>
                exact after_announceHosted registry reading request params document store

omit [TextCase] [TextOf] [NumberText] [MethodCatalog] [BodyCodec] [CallDepth] in
theorem get?_written_other {record : PresenceRecord} {now : ℚ}
    (there : store.records.get? agentId = some held) (live : held.Live now)
    (different : agentId ≠ record.agentId) :
    (written store now record).records.get? agentId = some held := by
  have put : (store.put record).records.get? agentId = some held := by
    rw [get?_put_other store different, there]
  unfold written
  split
  · exact put
  · split
    · next swept done => exact get?_sweep_of_live put live done
    · exact put

omit [TextCase] [TextOf] [NumberText] [MethodCatalog] [BodyCodec] [CallDepth] in
theorem get?_written_same (store : PresenceStore) (now : ℚ) (record : PresenceRecord) :
    (written store now record).records.get? record.agentId = some record ∨
      (written store now record).records.get? record.agentId = none ∧ ¬record.Live now := by
  have put := get?_put_same store record
  unfold written
  split
  · exact .inl put
  · split
    · next swept done =>
        by_cases live : record.Live now
        · exact .inl (get?_sweep_of_live put live done)
        · rw [get?_of_sweep done, put, Option.filter_some, if_neg (by simpa using live)]
          exact .inr ⟨rfl, live⟩
    · exact .inl put

omit [TextCase] [TextOf] [NumberText] [MethodCatalog] [BodyCodec] [CallDepth] in
theorem get?_mergeAll_of_held {records : List PresenceRecord}
    (there : store.records.get? agentId = some held)
    (numbers : held.epoch ≠ .nan → ∀ record ∈ records, record.agentId = agentId →
      record.epoch ≠ .nan) :
    ∃ left, (store.mergeAll records).records.get? agentId = some left ∧
      held.KeepsUp left ∧ (left = held ∨ left ∈ ofAgent agentId records) := by
  rw [get?_mergeAll, there]
  have filled : (some held).isSome ∨ ofAgent agentId records ≠ [] := .inl rfl
  rcases LastWriter.writeAll_isSome PresenceRecord.covers filled with ⟨left, written⟩
  refine ⟨left, written, PresenceRecord.keepsUp_of_writeAll ?_ written, ?_⟩
  · intro number record member
    rcases List.mem_filter.mp member with ⟨listed, own⟩
    exact numbers number record listed (of_decide_eq_true own)
  · rcases LastWriter.mem_of_writeAll written with same | merged
    · exact .inl (Option.some.inj same).symm
    · exact .inr merged

theorem keepsUp_of_announce (failureText : Raised → String) {request : Request}
    {reading : Reading} (there : store.records.get? agentId = some held)
    (lasts : ¬Lapses registry failureText store agentId (.served request reading))
    (steady : Steady registry store (.served request reading))
    (method : upper request.method = "ANNOUNCE") :
    ∃ left, (after registry failureText store (.served request reading)).records.get?
      agentId = some left ∧ held.KeepsUp left := by
  have stored : after registry failureText store (.served request reading) =
      match announcedBy registry reading request with
      | none => store
      | some record => written store reading.now record := by
    change Ans.presenceAfter registry failureText reading request store = _
    unfold Ans.presenceAfter
    dsimp only
    rw [if_pos method, after_handleAnnounce]
  have live : held.Live reading.now :=
    not_not.mp fun expired => lasts (.inr (.inl ⟨held, there, expired⟩))
  cases announces : announcedBy registry reading request with
  | none =>
      rw [announces] at stored
      rw [stored]
      exact ⟨held, there, PresenceRecord.keepsUp_refl held⟩
  | some record =>
      rw [announces] at stored
      dsimp only at stored
      have brings : record ∈ (served request reading).brought registry := by
        simp [brought, method, announces]
      by_cases own : record.agentId = agentId
      · have keeps := steady record brings held (own.symm ▸ there) live
        dsimp only at keeps
        rw [if_pos method] at keeps
        have there := get?_written_same store reading.now record
        rw [own] at there
        rcases there with kept | ⟨gone, expired⟩
        · rw [stored]
          exact ⟨record, kept, keeps⟩
        · rw [← stored] at gone
          exact absurd (.inr (.inr ⟨gone, record, brings, own, expired⟩)) lasts
      · rw [stored]
        exact ⟨held, get?_written_other there live (Ne.symm own),
          PresenceRecord.keepsUp_refl held⟩

omit [TextCase] [MethodCatalog] [BodyCodec] [CallDepth] in
/-- What a request of a peer does to the store: it merges the first of the records that
are accepted, and sweeps at most. -/
theorem after_applyReplicate (verify : PresenceRecord → Bool) (moment : Gossip.Moment)
    (body : List (String × Json)) (store : PresenceStore) :
    ∃ merged, merged <+: Gossip.acceptedRecords verify moment body ∧
      ((Gossip.applyReplicate verify moment body store).2 = store.mergeAll merged ∨
        (store.mergeAll merged).sweep moment.now =
          .ok (Gossip.applyReplicate verify moment body store).2) := by
  unfold Gossip.applyReplicate Gossip.acceptedRecords
  cases iterated : (Json.getOr body "records" (.array [])).iterate with
  | error raised => exact ⟨[], List.nil_prefix, .inl rfl⟩
  | ok entries =>
      rcases Gossip.after_mergeEntries verify moment entries ⟨0, 0⟩ store with
        ⟨merged, part, same, _⟩
      refine ⟨merged, part, ?_⟩
      rcases round : Gossip.mergeEntries verify moment entries ⟨0, 0⟩ store with
        ⟨outcome, left⟩
      rw [round] at same
      rw [← same]
      dsimp only
      rw [round]
      cases outcome with
      | error raised => exact .inl rfl
      | ok counts =>
          dsimp only
          unfold PresenceStore.recordsPeerNeeds
          cases done : left.sweep moment.now with
          | error raised => exact .inl rfl
          | ok swept =>
              right
              dsimp only
              generalize PresenceStore.needed (Gossip.digestOf body) swept.records.entries =
                told
              cases told <;> rfl

omit [TextCase] [TextOf] [NumberText] [MethodCatalog] [BodyCodec] [CallDepth] in
/-- Merging, and the sweep after it, keep up with a live record unless they leave one
that has expired. -/
theorem keepsUp_of_merge {merged : List PresenceRecord} {left : PresenceStore} {now : ℚ}
    (there : store.records.get? agentId = some held) (live : held.Live now)
    (numbers : held.epoch ≠ .nan → ∀ record ∈ merged, record.agentId = agentId →
      record.epoch ≠ .nan)
    (lives : left.records.get? agentId = none →
      ∀ record ∈ merged, record.agentId = agentId → record.Live now)
    (stored : left = store.mergeAll merged ∨ (store.mergeAll merged).sweep now = .ok left) :
    ∃ kept, left.records.get? agentId = some kept ∧ held.KeepsUp kept := by
  rcases get?_mergeAll_of_held there numbers with ⟨kept, merges, keeps, source⟩
  rcases stored with rfl | done
  · exact ⟨kept, merges, keeps⟩
  · by_cases lively : kept.Live now
    · exact ⟨kept, get?_sweep_of_live merges lively done, keeps⟩
    · have gone : left.records.get? agentId = none := by
        rw [get?_of_sweep done, merges, Option.filter_some, if_neg (by simpa using lively)]
      rcases source with rfl | listed
      · exact absurd live lively
      · rcases List.mem_filter.mp listed with ⟨brought, own⟩
        exact absurd (lives gone kept brought (of_decide_eq_true own)) lively

theorem keepsUp_of_replicate (failureText : Raised → String) {request : Request}
    {reading : Reading} (there : store.records.get? agentId = some held)
    (lasts : ¬Lapses registry failureText store agentId (.served request reading))
    (steady : Steady registry store (.served request reading))
    (method : upper request.method = "REPLICATE") :
    ∃ left, (after registry failureText store (.served request reading)).records.get?
      agentId = some left ∧ held.KeepsUp left := by
  have other : upper request.method ≠ "ANNOUNCE" := by
    rw [method]
    decide
  have stored : after registry failureText store (.served request reading) =
      (handleReplicate registry reading.toMoment request store).2 := by
    change Ans.presenceAfter registry failureText reading request store = _
    unfold Ans.presenceAfter
    simp [method]
  have live : held.Live (served request reading).now :=
    not_not.mp fun expired => lasts (.inr (.inl ⟨held, there, expired⟩))
  have brings : (served request reading).brought registry =
      declaredByReplicate registry reading.toMoment request := by
    simp [brought, method]
  cases parsed : parsedBody request with
  | error failure =>
      have same : (handleReplicate registry reading.toMoment request store).2 = store := by
        unfold handleReplicate
        rw [parsed]
        cases failure <;> rfl
      rw [stored, same]
      exact ⟨held, there, PresenceRecord.keepsUp_refl held⟩
  | ok body =>
      have same : (handleReplicate registry reading.toMoment request store).2 =
          (Gossip.applyReplicate (accepts registry) reading.toMoment body store).2 := by
        unfold handleReplicate
        rw [parsed]
        dsimp only
        rcases Gossip.applyReplicate (accepts registry) reading.toMoment body store with
          ⟨outcome, left⟩
        cases outcome <;> rfl
      have accepted : declaredByReplicate registry reading.toMoment request =
          Gossip.acceptedRecords (accepts registry) reading.toMoment body := by
        unfold declaredByReplicate
        rw [parsed]
      rcases after_applyReplicate (accepts registry) reading.toMoment body store with
        ⟨merged, part, merges⟩
      rw [← same, ← stored] at merges
      have listed (record : PresenceRecord) (member : record ∈ merged) :
          record ∈ (served request reading).brought registry := by
        rw [brings, accepted]
        exact part.subset member
      apply keepsUp_of_merge there live _ _ merges
      · intro number record member own
        have proper := steady record (listed record member) held (own.symm ▸ there) live
        dsimp only at proper
        rw [if_neg other] at proper
        exact proper number
      · intro gone record member own
        exact not_not.mp fun expired =>
          lasts (.inr (.inr ⟨gone, record, listed record member, own, expired⟩))

theorem keepsUp_of_reply (failureText : Raised → String) {body : List (String × Json)}
    {moment : Gossip.Moment} (there : store.records.get? agentId = some held)
    (lasts : ¬Lapses registry failureText store agentId (.replied body moment))
    (steady : Steady registry store (.replied body moment)) :
    ∃ left, (after registry failureText store (.replied body moment)).records.get?
      agentId = some left ∧ held.KeepsUp left := by
  have live : held.Live (replied body moment).now :=
    not_not.mp fun expired => lasts (.inr (.inl ⟨held, there, expired⟩))
  have merges : ∃ merged, merged <+: Gossip.acceptedRecords (accepts registry) moment body ∧
      after registry failureText store (.replied body moment) = store.mergeAll merged := by
    change ∃ merged, _ ∧ (Gossip.mergeReply (accepts registry) moment body store).2 = _
    unfold Gossip.mergeReply Gossip.acceptedRecords
    cases (Json.getOr body "records" (.array [])).iterate with
    | error raised => exact ⟨[], List.nil_prefix, rfl⟩
    | ok entries =>
        rcases Gossip.after_mergeEntries (accepts registry) moment entries ⟨0, 0⟩ store with
          ⟨merged, part, same, _⟩
        exact ⟨merged, part, same⟩
  rcases merges with ⟨merged, part, stored⟩
  apply keepsUp_of_merge there live _ _ (.inl stored)
  · intro number record member own
    exact steady record (part.subset member) held (own.symm ▸ there) live number
  · intro gone record member own
    exact not_not.mp fun expired =>
      lasts (.inr (.inr ⟨gone, record, part.subset member, own, expired⟩))

omit [TextOf] [NumberText] [MethodCatalog] [CallDepth] in
theorem get?_handleWithdraw {request : Request} {now : ℚ}
    (there : store.records.get? agentId = some held) (live : held.Live now)
    (other : ∀ params, mergedParams request = .ok params →
      subjectAgentId request params ≠ agentId) :
    (handleWithdraw now request store).2.records.get? agentId = some held := by
  unfold handleWithdraw
  cases read : mergedParams request with
  | error raised => exact there
  | ok params =>
      dsimp only
      split
      · exact there
      · have kept : (store.withdraw (subjectAgentId request params)).2.records.get?
            agentId = some held := by
          change (store.remove _).records.get? agentId = some held
          rw [get?_remove_other store (Ne.symm (other params read)), there]
        unfold answerCounted counted
        cases done : (store.withdraw (subjectAgentId request params)).2.sweep now with
        | error raised => exact kept
        | ok swept => exact get?_sweep_of_live kept live done

theorem get?_handleProbe {request : Request} {now : ℚ}
    (there : store.records.get? agentId = some held) (live : held.Live now) :
    (handleProbe registry now request store).2.records.get? agentId = some held := by
  have kept (probed : String) :
      (store.probe probed now).2.records.get? agentId = some held := by
    unfold PresenceStore.probe
    cases found : store.records.get? probed with
    | none => exact there
    | some record =>
        dsimp only
        cases outcome : record.isExpired now with
        | error raised => exact there
        | ok expired =>
            cases expired with
            | false => exact there
            | true =>
                have different : agentId ≠ probed := by
                  rintro rfl
                  rw [there] at found
                  cases found
                  rw [PresenceRecord.Live, outcome] at live
                  cases live
                rw [get?_remove_other store different, there]
  unfold handleProbe
  cases mergedParams request with
  | error raised => exact there
  | ok params =>
      dsimp only
      split
      · exact there
      · have last := kept (subjectAgentId request params)
        rcases probing : store.probe (subjectAgentId request params) now with
          ⟨outcome, left⟩
        rw [probing] at last
        cases outcome with
        | error raised => exact last
        | ok found =>
            dsimp only
            cases requesterContext registry request with
            | error raised => exact last
            | ok requester =>
                dsimp only
                unfold probed
                split
                · exact last
                · split <;> exact last

theorem get?_handlePopulation {request : Request} {now : ℚ}
    (there : store.records.get? agentId = some held) (live : held.Live now) :
    (handlePopulation registry now request store).2.records.get? agentId = some held := by
  unfold handlePopulation
  cases mergedParams request with
  | error raised => exact there
  | ok params =>
      dsimp only
      split
      · exact there
      · cases readQuery params with
        | error stop => cases stop <;> exact there
        | ok query =>
            dsimp only
            cases requesterContext registry request with
            | error raised => exact there
            | ok requester =>
                dsimp only
                cases done : store.sweep now with
                | error raised => exact there
                | ok swept => exact get?_sweep_of_live there live done

/-- An event after which the agent has not lapsed leaves a record of it that is not
announced earlier. -/
theorem keepsUp_after (failureText : Raised → String) {event : PresenceEvent}
    (there : store.records.get? agentId = some held)
    (lasts : ¬Lapses registry failureText store agentId event)
    (steady : Steady registry store event) :
    ∃ left, (after registry failureText store event).records.get? agentId = some left ∧
      held.KeepsUp left := by
  cases event with
  | replied body moment => exact keepsUp_of_reply failureText there lasts steady
  | served request reading =>
      by_cases announces : upper request.method = "ANNOUNCE"
      · exact keepsUp_of_announce failureText there lasts steady announces
      · by_cases replicates : upper request.method = "REPLICATE"
        · exact keepsUp_of_replicate failureText there lasts steady replicates
        · have live : held.Live reading.now :=
            not_not.mp fun expired => lasts (.inr (.inl ⟨held, there, expired⟩))
          refine ⟨held, ?_, PresenceRecord.keepsUp_refl held⟩
          change (Ans.presenceAfter registry failureText reading request store).records.get?
            agentId = some held
          unfold Ans.presenceAfter
          dsimp only
          rw [if_neg announces]
          split
          · next withdraws =>
              apply get?_handleWithdraw there live
              intro params read own
              exact lasts (.inl ⟨withdraws, params, read, own⟩)
          · split
            · exact get?_handleProbe there live
            · split
              · exact get?_handlePopulation there live
              · exact there

/-! ## Runs -/

def SteadyRun (registry : PresenceRegistry) (failureText : Raised → String) :
    List PresenceEvent → PresenceStore → Prop
  | [], _ => True
  | event :: rest, store =>
      Steady registry store event ∧
        SteadyRun registry failureText rest (after registry failureText store event)

def Lasts (registry : PresenceRegistry) (failureText : Raised → String)
    (agentId : String) : List PresenceEvent → PresenceStore → Prop
  | [], _ => True
  | event :: rest, store =>
      ¬Lapses registry failureText store agentId event ∧
        Lasts registry failureText agentId rest (after registry failureText store event)

/-- As long as an agent neither is withdrawn nor expires, the time of its record does not
go back in a steady run. -/
theorem no_rollback (failureText : Raised → String) {events : List PresenceEvent}
    {store : PresenceStore} {agentId : String} {held : PresenceRecord}
    (steady : SteadyRun registry failureText events store)
    (lasts : Lasts registry failureText agentId events store)
    (there : store.records.get? agentId = some held) :
    ∃ left, (afterAll registry failureText store events).records.get? agentId = some left ∧
      held.KeepsUp left := by
  induction events generalizing store held with
  | nil => exact ⟨held, there, PresenceRecord.keepsUp_refl held⟩
  | cons event rest induction =>
      rcases keepsUp_after failureText there lasts.1 steady.1 with ⟨next, stored, step⟩
      rcases induction steady.2 lasts.2 stored with ⟨left, last, later⟩
      exact ⟨left, last, step.trans later⟩

end Events

end PresenceEvent

/-! ## Samples -/

namespace RollbackSamples

open Presence PresenceEvent
open scoped Plain PlainServing

scoped instance : MethodCatalog where
  methods := []

scoped instance : CallDepth := ⟨100⟩

def sent (epoch : String) : Json :=
  .object [("agent_id", .string "scout"), ("announced_at_epoch", .float epoch),
    ("ttl_seconds", .int (-1))]

/-- The body `[1]` carries the old record, any other the new one. -/
scoped instance : BodyCodec where
  dumps := fun _ => []
  loads := fun body =>
    if body = [1] then .ok (.object [("record", sent "50.0")])
    else .ok (.object [("record", sent "90.0")])
  failureText := fun _ => ""
  loadsStrict := fun _ => none

def registry : PresenceRegistry where
  hosted := fun _ => none
  relayEndpoint := none
  requireDiscoveryScope := false
  verifySignatures := true
  envelopeOf := fun _ => none
  verifyRecord := fun _ => true
  boundToGenesis := fun _ => true
  signRecord := fun _ => none
  signResults := fun _ => none

def announcing (body : Bytes) : PresenceEvent :=
  .served { Request.toRoot "ANNOUNCE" [] with body := body } ⟨⟨100, "t"⟩, "100.0"⟩

def record (epoch : String) : PresenceRecord where
  agentId := "scout"
  resultEntry := []
  scopes := []
  visibility := .standard
  announcedAt := "t"
  announcedAtEpoch := epoch
  ttlSeconds := -1
  ownerDomain := .null
  attachment := none
  signature := .null

def afterOld : PresenceStore := after registry (fun _ => "") .empty (announcing [1])

theorem brought_new : (announcing [2]).brought registry = [record "90.0"] := rfl

theorem afterOld_held : afterOld.records.get? "scout" = some (record "50.0") := rfl

/-- A later announcement goes through. -/
theorem later_announcement_keeps_up :
    ∃ left, (afterAll registry (fun _ => "") afterOld [announcing [2]]).records.get? "scout" =
      some left ∧ (record "50.0").KeepsUp left := by
  have old : (record "50.0").Live 100 := by decide +kernel
  have new : (record "90.0").Live 100 := by decide +kernel
  have newer : (record "50.0").KeepsUp (record "90.0") := .inr (by decide +kernel)
  apply no_rollback (fun _ => "") _ _ afterOld_held
  · refine ⟨?_, trivial⟩
    intro brought member held there _
    rw [brought_new, List.mem_singleton] at member
    rw [member] at there ⊢
    cases afterOld_held.symm.trans there
    exact newer
  · refine ⟨?_, trivial⟩
    rintro (⟨method, _⟩ | ⟨held, there, expired⟩ | ⟨_, brought, member, _, expired⟩)
    · exact absurd method (by decide +kernel)
    · cases afterOld_held.symm.trans there
      exact expired old
    · rw [brought_new, List.mem_singleton] at member
      rw [member] at expired
      exact expired new

/-- An old record that is announced again takes the place of a newer one. -/
theorem replayed_announcement_rolls_back :
    (afterAll registry (fun _ => "") afterOld [announcing [2]]).records.get? "scout" =
        some (record "90.0") ∧
      (afterAll registry (fun _ => "") afterOld [announcing [2], announcing [1]]).records.get?
        "scout" = some (record "50.0") ∧
      ¬(record "90.0").KeepsUp (record "50.0") := by
  refine ⟨rfl, rfl, ?_⟩
  rintro (unordered | before)
  · exact absurd unordered (by decide +kernel)
  · exact absurd before (by decide +kernel)

end RollbackSamples

end Agtp
