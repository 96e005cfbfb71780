import Agtp.Foundation.KeyOrder
import Agtp.Presence.Methods

/-! # Noninterference

What a requester learns by probing and by querying does not depend on the records that
it may not see, except that such a record can make the request raise. -/

namespace Agtp

open Fallible

/-! ## Two runs of a request -/

universe u

variable {Reply : Type u}

/-- The reply is the answer, unless something raises. -/
structure Guarded (raises : Prop) (reply answer : Option Reply) : Prop where
  stopped : raises → reply = none
  answered : ¬raises → reply = answer

theorem Guarded.eq_iff {firstRaises secondRaises : Prop} {first second answer : Option Reply}
    (left : Guarded firstRaises first answer) (right : Guarded secondRaises second answer) :
    first = second ↔ answer = none ∨ (firstRaises ↔ secondRaises) := by
  by_cases one : firstRaises <;> by_cases other : secondRaises
  · simp [left.stopped one, right.stopped other, one, other]
  · simp [left.stopped one, right.answered other, one, other, eq_comm]
  · simp [left.answered one, right.stopped other, one, other]
  · simp [left.answered one, right.answered other, one, other]

section Seen

variable [TextCase] [NumberText] [CallDepth]

def PresenceRecord.seenBy (record : PresenceRecord) (requester : RequesterContext) : Bool :=
  holds (record.isVisible requester)

namespace PresenceStore

def seen (requester : RequesterContext) (store : PresenceStore) (agentId : String) :
    Option PresenceRecord :=
  (store.records.get? agentId).filter fun record => record.seenBy requester

def AlikeFor (requester : RequesterContext) (first second : PresenceStore) : Prop :=
  ∀ agentId, first.seen requester agentId = second.seen requester agentId

variable {requester : RequesterContext} {first second store : PresenceStore}
  {agentId : String} {record : PresenceRecord}

theorem seen_eq_some_iff :
    store.seen requester agentId = some record ↔
      store.records.get? agentId = some record ∧ record.seenBy requester = true := by
  unfold seen
  exact Option.filter_eq_some_iff

theorem AlikeFor.held_iff (alike : first.AlikeFor requester second)
    (visible : record.seenBy requester = true) :
    first.records.get? agentId = some record ↔
      second.records.get? agentId = some record := by
  have same : first.seen requester agentId = some record ↔
      second.seen requester agentId = some record := by
    rw [alike agentId]
  rwa [seen_eq_some_iff, seen_eq_some_iff, and_iff_left visible, and_iff_left visible]
    at same

theorem alikeFor_put (absent : store.seen requester record.agentId = none)
    (hidden : record.seenBy requester = false) :
    store.AlikeFor requester (store.put record) := by
  intro agentId
  by_cases same : agentId = record.agentId
  · rw [same, absent]
    unfold seen
    rw [get?_put_same, Option.filter_some, hidden]
    rfl
  · unfold seen
    rw [get?_put_other store same]

/-! ## The records of a store -/

omit [TextCase] [NumberText] [CallDepth] in
theorem mem_values_iff :
    record ∈ store.values ↔ store.records.get? record.agentId = some record :=
  ⟨held_of_mem_values, fun held =>
    List.mem_map_of_mem (f := Prod.snd) ((Dict.get?_eq_some_iff _).mp held)⟩

omit [TextCase] [NumberText] [CallDepth] in
theorem nodup_agentIds (store : PresenceStore) :
    (store.values.map PresenceRecord.agentId).Nodup := by
  have keys : store.values.map PresenceRecord.agentId =
      store.records.entries.map Prod.fst := by
    unfold values
    rw [List.map_map]
    apply List.map_congr_left
    intro entry member
    exact store.keyed entry.1 entry.2 ((Dict.get?_eq_some_iff _).mpr member)
  rw [keys]
  exact store.records.nodup

end PresenceStore

end Seen

namespace Presence

open PresenceStore

variable [Floats] [TextCase] [TextOf] [NumberText] [CallDepth]

/-! ## Probing -/

def ProbeRaises (now : ℚ) (requester : RequesterContext) (record : PresenceRecord) : Prop :=
  ¬Succeeds (record.isExpired now) ∨
    record.Live now ∧ ¬Succeeds (record.isVisible requester)

def probeReply (agentId : String) : Option PresenceRecord → Response
  | some record => ⟨200, "OK", [], .object (probeAnswer agentId record)⟩
  | none => (probe404 agentId).toResponse

omit [TextOf] in
theorem guarded_probed (agentId : String) (now : ℚ) (requester : RequesterContext)
    (store : PresenceStore) :
    Guarded (∃ record, store.records.get? agentId = some record ∧
        ProbeRaises now requester record)
      (match store.probe agentId now with
        | (.error raised, _) => Except.error raised
        | (.ok found, after) => (probed agentId found requester after).1).toOption
      (some (probeReply agentId
        ((store.seen requester agentId).filter fun record => record.Live now))) := by
  unfold PresenceStore.probe PresenceStore.seen
  cases held : store.records.get? agentId with
  | none =>
      constructor
      · rintro ⟨record, found, _⟩
        cases found
      · exact fun _ => rfl
  | some record =>
      simp only [Option.some.injEq, exists_eq_left']
      cases outcome : record.isExpired now with
      | error raised =>
          have raises : ProbeRaises now requester record := by
            left
            rw [outcome]
            exact not_succeeds_error raised
          exact ⟨fun _ => rfl, fun fine => absurd raises fine⟩
      | ok expired =>
          cases expired with
          | true =>
              have gone : ¬record.Live now := by
                unfold PresenceRecord.Live
                rw [outcome]
                decide
              constructor
              · rintro (untold | ⟨live, _⟩)
                · rw [outcome] at untold
                  exact absurd (succeeds_ok true) untold
                · exact absurd live gone
              · intro _
                have unseen : ((some record).filter fun record =>
                    record.seenBy requester).filter (fun record => record.Live now) =
                      none := by
                  rw [Option.filter_some]
                  split <;> simp [gone]
                rw [unseen]
                rfl
          | false =>
              have live : record.Live now := outcome
              unfold probed
              dsimp only
              cases visible : record.isVisible requester with
              | error raised =>
                  have raises : ProbeRaises now requester record := by
                    right
                    rw [visible]
                    exact ⟨live, not_succeeds_error raised⟩
                  exact ⟨fun _ => rfl, fun fine => absurd raises fine⟩
              | ok sees =>
                  constructor
                  · rintro (untold | ⟨_, untold⟩)
                    · rw [outcome] at untold
                      exact absurd (succeeds_ok false) untold
                    · rw [visible] at untold
                      exact absurd (succeeds_ok sees) untold
                  · intro _
                    have seen : record.seenBy requester = sees := by
                      unfold PresenceRecord.seenBy
                      rw [visible]
                      rfl
                    rw [Option.filter_some, seen]
                    cases sees with
                    | false => rfl
                    | true =>
                        rw [if_pos rfl, Option.filter_some, if_pos (decide_eq_true live)]
                        rfl

/-! ## Querying -/

def fits (query : Query) (record : PresenceRecord) : Bool :=
  (match query.capability with
    | none => true
    | some capability =>
        decide (lower (Text.strip capability) ∈ record.indexedUnder)) &&
  inPartition query record

def QueryRaises (now : ℚ) (query : Query) (requester : RequesterContext)
    (record : PresenceRecord) : Prop :=
  ¬Succeeds (record.isExpired now) ∨
    record.Live now ∧ fits query record = true ∧ ¬Succeeds (admits query requester record)

def isMatch (now : ℚ) (query : Query) (requester : RequesterContext)
    (record : PresenceRecord) : Bool :=
  (decide (record.Live now) && fits query record) && holds (admits query requester record)

def matchesOf (now : ℚ) (query : Query) (requester : RequesterContext)
    (store : PresenceStore) : List PresenceRecord :=
  (store.values.mergeSort fun left right =>
    !decide (right.agentId < left.agentId)).filter (isMatch now query requester)

omit [Floats] [TextCase] [TextOf] [NumberText] [CallDepth] in
theorem ordered_agentIds (left right : PresenceRecord) :
    (!decide (right.agentId < left.agentId)) = true ↔ left.agentId ≤ right.agentId := by
  rw [Bool.not_eq_true', decide_eq_false_iff_not, not_lt]

omit [TextOf] [NumberText] [CallDepth] in
theorem mem_candidates_iff (query : Query) (store : PresenceStore)
    (record : PresenceRecord) :
    record ∈ (candidates query store).filter (inPartition query) ↔
      record ∈ store.values ∧ fits query record = true := by
  unfold candidates fits
  rw [List.mem_filter, Bool.and_eq_true]
  cases query.capability with
  | none => simp
  | some capability =>
      rw [List.mem_filter, and_assoc]
      apply and_congr_right
      intro member
      apply and_congr_left'
      rw [decide_eq_true_eq, decide_eq_true_eq, store.indexed,
        held_of_mem_values member]
      simp

omit [TextCase] [TextOf] [NumberText] [CallDepth] in
theorem mem_values_of_sweep {store swept : PresenceStore} {now : ℚ}
    (done : store.sweep now = .ok swept) (record : PresenceRecord) :
    record ∈ swept.values ↔ record ∈ store.values ∧ record.Live now := by
  rw [mem_values_iff, mem_values_iff, get?_of_sweep done, Option.filter_eq_some_iff,
    decide_eq_true_eq]

omit [TextOf] [NumberText] [CallDepth] in
theorem mem_queryPopulation_iff {query : Query} {store swept : PresenceStore} {now : ℚ}
    (done : store.sweep now = .ok swept) (record : PresenceRecord) :
    record ∈ queryPopulation query swept ↔
      (record ∈ store.values ∧ record.Live now) ∧ fits query record = true := by
  unfold queryPopulation
  rw [List.mem_mergeSort, mem_candidates_iff, mem_values_of_sweep done]

omit [TextOf] [NumberText] [CallDepth] in
theorem nodup_candidates (query : Query) (store : PresenceStore) :
    (((candidates query store).filter (inPartition query)).map
      PresenceRecord.agentId).Nodup := by
  have candidate : (candidates query store).Sublist store.values := by
    unfold candidates
    split
    · exact List.Sublist.refl _
    · exact List.filter_sublist
  exact ((List.filter_sublist.trans candidate).map _).nodup store.nodup_agentIds

omit [TextOf] in
theorem filter_queryPopulation {query : Query} {requester : RequesterContext}
    {store swept : PresenceStore} {now : ℚ} (done : store.sweep now = .ok swept) :
    (queryPopulation query swept).filter (fun record =>
        holds (admits query requester record)) =
      matchesOf now query requester store := by
  have kept : (queryPopulation query swept).filter (fun record =>
      holds (admits query requester record)) =
      (queryPopulation query swept).filter (isMatch now query requester) := by
    apply List.filter_congr
    intro record member
    rcases (mem_queryPopulation_iff done record).mp member with ⟨⟨_, live⟩, fitting⟩
    simp [isMatch, live, fitting]
  rw [kept]
  apply KeyOrder.filter_mergeSort_eq ordered_agentIds (nodup_candidates query swept)
    store.nodup_agentIds
  intro record fitting
  rw [isMatch, Bool.and_eq_true, Bool.and_eq_true, decide_eq_true_eq] at fitting
  rw [mem_candidates_iff, mem_values_of_sweep done]
  exact ⟨fun member => member.1.1, fun member => ⟨⟨member, fitting.1.1⟩, fitting.1.2⟩⟩

omit [TextOf] in
theorem succeeds_filter_queryPopulation_iff {query : Query} {requester : RequesterContext}
    {store swept : PresenceStore} {now : ℚ} (done : store.sweep now = .ok swept) :
    Succeeds (Fallible.filter (admits query requester) (queryPopulation query swept)) ↔
      ¬∃ record ∈ store.values, QueryRaises now query requester record := by
  rw [succeeds_filter_iff, not_exists]
  apply forall_congr'
  intro record
  rw [mem_queryPopulation_iff done, not_and]
  have told : record ∈ store.values → Succeeds (record.isExpired now) := by
    intro member
    unfold PresenceStore.sweep at done
    cases raised : store.unsweepable now with
    | some failure =>
        rw [raised] at done
        cases done
    | none =>
        exact (unsweepable_eq_none_iff store now).mp raised record.agentId record
          (held_of_mem_values member)
  constructor
  · rintro fine member (untold | ⟨live, fitting, raises⟩)
    · exact untold (told member)
    · exact raises (fine ⟨⟨member, live⟩, fitting⟩)
  · rintro quiet ⟨⟨member, live⟩, fitting⟩
    exact not_not.mp fun raises => quiet member (.inr ⟨live, fitting, raises⟩)

def page (registry : PresenceRegistry) (query : Query) (filtered : List PresenceRecord) :
    Option Response :=
  (resultsOf query filtered).toOption.map fun shown =>
    ⟨200, "OK", [], .object (payload registry query shown.1.length shown.2)⟩

omit [TextOf] in
theorem guarded_populated (registry : PresenceRegistry) (now : ℚ) (query : Query)
    (requester : RequesterContext) (store : PresenceStore) :
    Guarded (∃ record ∈ store.values, QueryRaises now query requester record)
      (match store.sweep now with
        | .error raised => Except.error raised
        | .ok swept => populated registry query requester swept).toOption
      (page registry query (matchesOf now query requester store)) := by
  cases done : store.sweep now with
  | error raised =>
      have untold : ∃ record ∈ store.values, QueryRaises now query requester record := by
        by_contra quiet
        have fine : store.unsweepable now = none := by
          rw [unsweepable_eq_none_iff]
          intro agentId record held
          have own : record.agentId = agentId := store.keyed agentId record held
          exact not_not.mp fun raises => quiet
            ⟨record, mem_values_iff.mpr (own.symm ▸ held), .inl raises⟩
        unfold PresenceStore.sweep at done
        rw [fine] at done
        cases done
      exact ⟨fun _ => rfl, fun quiet => absurd untold quiet⟩
  | ok swept =>
      dsimp only
      unfold populated
      cases passed : Fallible.filter (admits query requester)
          (queryPopulation query swept) with
      | error raised =>
          have raises : ∃ record ∈ store.values,
              QueryRaises now query requester record := by
            by_contra quiet
            have succeeds := (succeeds_filter_queryPopulation_iff done).mpr quiet
            rw [passed] at succeeds
            exact not_succeeds_error raised succeeds
          exact ⟨fun _ => rfl, fun quiet => absurd raises quiet⟩
      | ok filtered =>
          constructor
          · intro raises
            exact absurd raises
              ((succeeds_filter_queryPopulation_iff done).mp ⟨filtered, passed⟩)
          · intro _
            rw [eq_of_filter passed, filter_queryPopulation done]
            dsimp only [page]
            generalize resultsOf query (matchesOf now query requester store) = outcome
            cases outcome <;> rfl

omit [TextOf] in
theorem seenBy_of_isMatch {now : ℚ} {query : Query} {requester : RequesterContext}
    {record : PresenceRecord} (fitting : isMatch now query requester record = true) :
    record.seenBy requester = true := by
  have admitted := (Bool.and_eq_true _ _ ▸ fitting).2
  unfold admits at admitted
  split at admitted
  · cases admitted
  · cases admitted
  · split at admitted
    · exact admitted
    · cases admitted

omit [TextOf] in
theorem AlikeFor.matchesOf {requester : RequesterContext} {first second : PresenceStore}
    (alike : first.AlikeFor requester second) (now : ℚ) (query : Query) :
    matchesOf now query requester first = matchesOf now query requester second := by
  apply KeyOrder.filter_mergeSort_eq ordered_agentIds first.nodup_agentIds
    second.nodup_agentIds
  intro record fitting
  rw [mem_values_iff, mem_values_iff, alike.held_iff (seenBy_of_isMatch fitting)]

/-! ## The requests -/

variable [MethodCatalog] [BodyCodec]

def probedAgent (request : Request) : Option String :=
  match mergedParams request with
  | .error _ => none
  | .ok params =>
      if subjectAgentId request params = "" then none
      else some (subjectAgentId request params)

def askedQuery (registry : PresenceRegistry) (request : Request) : Option Query :=
  match mergedParams request with
  | .error _ => none
  | .ok params =>
      if registry.requireDiscoveryScope && !hasDiscoveryScope request then none
      else (readQuery params).toOption

def told (handled : Handled) : Option Response :=
  handled.1.toOption

variable {registry : PresenceRegistry} {request : Request} {requester : RequesterContext}

theorem told_handleProbe_of_none (now : ℚ) (unnamed : probedAgent request = none)
    (first second : PresenceStore) :
    told (handleProbe registry now request first) =
      told (handleProbe registry now request second) := by
  unfold probedAgent at unnamed
  unfold handleProbe
  cases read : mergedParams request with
  | error raised => rfl
  | ok params =>
      rw [read] at unnamed
      dsimp only at unnamed ⊢
      split
      · rfl
      · next named =>
          rw [if_neg named] at unnamed
          cases unnamed

theorem told_handleProbe_of_some
    (known : requesterContext registry request = .ok requester) (now : ℚ)
    {agentId : String} (named : probedAgent request = some agentId)
    (store : PresenceStore) :
    told (handleProbe registry now request store) =
      (match store.probe agentId now with
        | (.error raised, _) => Except.error raised
        | (.ok found, after) => (probed agentId found requester after).1).toOption := by
  unfold probedAgent at named
  unfold told handleProbe
  cases read : mergedParams request with
  | error raised =>
      rw [read] at named
      cases named
  | ok params =>
      rw [read] at named
      dsimp only at named ⊢
      split at named
      · cases named
      · next subject =>
          cases named
          rw [if_neg subject]
          rcases store.probe (subjectAgentId request params) now with ⟨outcome, after⟩
          cases outcome with
          | error raised => rfl
          | ok found => rw [known]

theorem told_handlePopulation_of_none (now : ℚ)
    (unasked : askedQuery registry request = none) (first second : PresenceStore) :
    told (handlePopulation registry now request first) =
      told (handlePopulation registry now request second) := by
  unfold askedQuery at unasked
  unfold handlePopulation
  cases read : mergedParams request with
  | error raised => rfl
  | ok params =>
      rw [read] at unasked
      dsimp only at unasked ⊢
      split
      · rfl
      · next inside =>
          rw [if_neg inside] at unasked
          cases asked : readQuery params with
          | error stop => cases stop <;> rfl
          | ok query =>
              rw [asked] at unasked
              cases unasked

theorem told_handlePopulation_of_some
    (known : requesterContext registry request = .ok requester) (now : ℚ) {query : Query}
    (asked : askedQuery registry request = some query) (store : PresenceStore) :
    told (handlePopulation registry now request store) =
      (match store.sweep now with
        | .error raised => Except.error raised
        | .ok swept => populated registry query requester swept).toOption := by
  unfold askedQuery at asked
  unfold told handlePopulation
  cases read : mergedParams request with
  | error raised =>
      rw [read] at asked
      cases asked
  | ok params =>
      rw [read] at asked
      dsimp only at asked ⊢
      split at asked
      · cases asked
      · next inside =>
          rw [if_neg inside]
          cases outcome : readQuery params with
          | error stop =>
              rw [outcome] at asked
              cases asked
          | ok read =>
              rw [outcome] at asked
              cases asked
              rw [known]
              dsimp only
              cases store.sweep now <;> rfl

/-- Probing and querying tell a requester the same of two stores that are alike for it,
exactly if no record makes the request raise in one of them only. -/
theorem noninterference_iff
    (known : requesterContext registry request = .ok requester) (now : ℚ)
    {first second : PresenceStore} (alike : first.AlikeFor requester second) :
    (told (handleProbe registry now request first) =
        told (handleProbe registry now request second) ↔
      ∀ agentId, probedAgent request = some agentId →
        ((∃ record, first.records.get? agentId = some record ∧
            ProbeRaises now requester record) ↔
          ∃ record, second.records.get? agentId = some record ∧
            ProbeRaises now requester record)) ∧
    (told (handlePopulation registry now request first) =
        told (handlePopulation registry now request second) ↔
      ∀ query, askedQuery registry request = some query →
        ¬Succeeds (resultsOf query (matchesOf now query requester first)) ∨
          ((∃ record ∈ first.values, QueryRaises now query requester record) ↔
            ∃ record ∈ second.values, QueryRaises now query requester record)) := by
  constructor
  · cases named : probedAgent request with
    | none =>
        simp only [told_handleProbe_of_none now named first second, reduceCtorEq,
          false_implies, implies_true]
    | some agentId =>
        have left := guarded_probed agentId now requester first
        have right := guarded_probed agentId now requester second
        rw [alike agentId] at left
        rw [told_handleProbe_of_some known now named first,
          told_handleProbe_of_some known now named second, left.eq_iff right]
        simp
  · cases asked : askedQuery registry request with
    | none =>
        simp only [told_handlePopulation_of_none now asked first second, reduceCtorEq,
          false_implies, implies_true]
    | some query =>
        have left := guarded_populated registry now query requester first
        have right := guarded_populated registry now query requester second
        rw [← AlikeFor.matchesOf alike] at right
        have unshown : page registry query (matchesOf now query requester first) = none ↔
            ¬Succeeds (resultsOf query (matchesOf now query requester first)) := by
          unfold page
          cases resultsOf query (matchesOf now query requester first) <;>
            simp [Except.toOption]
        rw [told_handlePopulation_of_some known now asked first,
          told_handlePopulation_of_some known now asked second, left.eq_iff right,
          unshown]
        simp

end Presence

/-! ## Samples -/

namespace HiddenSamples

open Presence
open scoped Plain PlainServing

scoped instance : MethodCatalog where
  methods := []

scoped instance : CallDepth := ⟨100⟩

/-- The body `[1]` asks for a tier; any other is empty. -/
scoped instance : BodyCodec where
  dumps := fun _ => []
  loads := fun body =>
    if body = [1] then .ok (.object [("trust_tier_min", .int 2)]) else .ok (.object [])
  failureText := fun _ => ""
  loadsStrict := fun _ => none

def registry : PresenceRegistry where
  hosted := fun _ => none
  relayEndpoint := none
  requireDiscoveryScope := false
  verifySignatures := false
  envelopeOf := fun _ => none
  verifyRecord := fun _ => true
  boundToGenesis := fun _ => true
  signRecord := fun _ => none
  signResults := fun _ => none

def ghost (tier : Json) : PresenceRecord where
  agentId := "ghost"
  resultEntry := [("agent_id", .string "ghost"), ("trust_tier", tier)]
  scopes := []
  visibility := ⟨"invisible", "capabilities", ""⟩
  announcedAt := "t"
  announcedAtEpoch := "90.0"
  ttlSeconds := 60
  ownerDomain := .null
  attachment := none
  signature := .null

def asking (body : Bytes) : Request :=
  { Request.toRoot "DISCOVER" [] with body := body }

theorem haunted_alike (tier : Json) :
    PresenceStore.empty.AlikeFor .anonymous (PresenceStore.empty.put (ghost tier)) :=
  PresenceStore.alikeFor_put rfl rfl

theorem known_anonymous : requesterContext registry (asking [1]) = .ok .anonymous := by
  have unnamed : callerId (asking [1]) = "" := by decide +kernel
  unfold requesterContext
  rw [if_pos unnamed]

theorem proper_ghost_quiet (query : Query) :
    ¬QueryRaises 100 query .anonymous (ghost (.int 1)) := by
  rintro (untold | ⟨_, _, raises⟩)
  · exact untold ⟨false, by decide +kernel⟩
  · have tier : Succeeds (meetsTierMin query (ghost (.int 1))) := by
      unfold meetsTierMin
      cases query.trustTierMin <;> exact ⟨_, rfl⟩
    rcases tier with ⟨meets, compared⟩
    apply raises
    unfold admits
    rw [compared]
    cases meets with
    | false => exact ⟨false, rfl⟩
    | true =>
        dsimp only
        split <;> exact ⟨false, rfl⟩

/-- A hidden agent with a proper tier does not show. -/
theorem proper_ghost_unnoticed :
    told (handlePopulation registry 100 (asking [1]) .empty) =
      told (handlePopulation registry 100 (asking [1])
        (PresenceStore.empty.put (ghost (.int 1)))) := by
  apply (noninterference_iff known_anonymous 100 (haunted_alike (.int 1))).2.mpr
  intro query _
  right
  constructor
  · rintro ⟨record, member, _⟩
    cases member
  · rintro ⟨record, member, raises⟩
    have only : record = ghost (.int 1) := List.mem_singleton.mp member
    rw [only] at raises
    exact absurd raises (proper_ghost_quiet query)

/-- A hidden agent whose tier is a text is noticed: whoever asks for a tier gets no
answer. -/
theorem ghost_without_tier_noticed :
    PresenceStore.empty.AlikeFor .anonymous
        (PresenceStore.empty.put (ghost (.string "gold"))) ∧
      told (handlePopulation registry 100 (asking [1]) .empty) ≠ none ∧
      told (handlePopulation registry 100 (asking [1])
        (PresenceStore.empty.put (ghost (.string "gold")))) = none := by
  have answered : (told (handlePopulation registry 100 (asking [1]) .empty)).isSome := by
    decide +kernel
  have raised : (told (handlePopulation registry 100 (asking [1])
      (PresenceStore.empty.put (ghost (.string "gold"))))).isNone := by
    decide +kernel
  exact ⟨haunted_alike _, Option.isSome_iff_ne_none.mp answered,
    Option.isNone_iff_eq_none.mp raised⟩

end HiddenSamples

end Agtp
