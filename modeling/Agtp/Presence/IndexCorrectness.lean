import Agtp.Presence.Noninterference

/-! # Index correctness

The store against a plain scan of its population. -/

namespace Agtp

open Fallible

/-! ## Populations -/

abbrev Population := String → Option PresenceRecord

/-- An operation on a presence store. -/
inductive StoreOperation where
  | announce (record : PresenceRecord)
  | merge (record : PresenceRecord)
  | withdraw (agentId : String)
  | probe (agentId : String) (now : ℚ)
  | query (query : Presence.Query) (now : ℚ)
  | sweep (now : ℚ)
  | count (now : ℚ)

namespace Population

variable [Floats]

def Tellable (population : Population) (now : ℚ) : Prop :=
  ∀ agentId record, population agentId = some record → Succeeds (record.isExpired now)

open Classical in
noncomputable def swept (population : Population) (now : ℚ) : Population :=
  if population.Tellable now then
    fun agentId => (population agentId).filter fun record => record.Live now
  else population

/-- What an operation does to a population. -/
noncomputable def after (population : Population) : StoreOperation → Population
  | .announce record => Function.update population record.agentId (some record)
  | .merge record =>
      match population record.agentId with
      | some existing =>
          if record.epoch.le existing.epoch then population
          else Function.update population record.agentId (some record)
      | none => Function.update population record.agentId (some record)
  | .withdraw agentId => Function.update population agentId none
  | .probe agentId now =>
      match population agentId with
      | some record =>
          if record.isExpired now = .ok true then Function.update population agentId none
          else population
      | none => population
  | .query _ now | .sweep now | .count now => population.swept now

noncomputable def afterAll (population : Population) (operations : List StoreOperation) :
    Population :=
  operations.foldl after population

end Population

/-! ## The plain scan -/

section Scan

variable [TextCase]

def PresenceRecord.lists (record : PresenceRecord) (capability : String) : Bool :=
  match record.capabilities with
  | .ok items => items.any fun item =>
      match item with
      | .string text =>
          lower (Text.strip text) = lower (Text.strip capability) ||
            text = lower (Text.strip capability)
      | _ => false
  | .error _ => false

variable [Floats]

def PresenceRecord.answers (now : ℚ) (query : Presence.Query) (record : PresenceRecord) :
    Bool :=
  decide (record.Live now) && Presence.inPartition query record &&
    match query.capability with
    | none => true
    | some capability => record.lists capability

def PresenceRecord.indexedFor (query : Presence.Query) (record : PresenceRecord) : Bool :=
  match query.capability with
  | none => true
  | some capability => decide (lower (Text.strip capability) ∈ record.indexedUnder)

/-- The list has just the records of the population that answer the query, in the order
of their agents. -/
structure Population.Scan (population : Population) (query : Presence.Query) (now : ℚ)
    (found : List PresenceRecord) : Prop where
  ordered : found.Pairwise fun left right => left.agentId < right.agentId
  exact : ∀ record, record ∈ found ↔
    population record.agentId = some record ∧ record.answers now query = true

def withinLimit (limit : Option Int) (records : List PresenceRecord) :
    List PresenceRecord :=
  match limit with
  | some limit => if 0 ≤ limit then records.take limit.toNat else records
  | none => records

end Scan

namespace PresenceStore

variable [Floats] [TextCase]

/-! ## The operations of the store -/

def queryPopulation (store : PresenceStore) (query : Presence.Query) (now : ℚ) :
    Except Raised (List PresenceRecord) × PresenceStore :=
  match store.sweep now with
  | .error raised => (.error raised, store)
  | .ok swept =>
      (.ok (withinLimit query.limit (Presence.queryPopulation query swept)), swept)

/-- The store after an operation, also where the operation raises. -/
def after (store : PresenceStore) : StoreOperation → PresenceStore
  | .announce record => (store.announce record).2
  | .merge record => (store.mergeRecord record).2
  | .withdraw agentId => (store.withdraw agentId).2
  | .probe agentId now => (store.probe agentId now).2
  | .query query now => (store.queryPopulation query now).2
  | .sweep now =>
      match store.sweep now with
      | .ok swept => swept
      | .error _ => store
  | .count now => (Presence.counted store now).2

def afterAll (store : PresenceStore) (operations : List StoreOperation) : PresenceStore :=
  operations.foldl after store

def population (store : PresenceStore) : Population := store.records.get?

/-! ## The population under the operations -/

variable {store : PresenceStore}

omit [Floats] [TextCase] in
theorem population_put (store : PresenceStore) (record : PresenceRecord) :
    (store.put record).population =
      Function.update store.population record.agentId (some record) := by
  funext agentId
  unfold population
  by_cases same : agentId = record.agentId
  · rw [same, get?_put_same, Function.update_self]
  · rw [get?_put_other store same, Function.update_of_ne same]

omit [Floats] [TextCase] in
theorem population_remove (store : PresenceStore) (agentId : String) :
    (store.remove agentId).population = Function.update store.population agentId none := by
  funext other
  unfold population
  by_cases same : other = agentId
  · rw [same, get?_remove_same, Function.update_self]
  · rw [get?_remove_other store same, Function.update_of_ne same]

omit [TextCase] in
theorem sweep_eq_ok_iff (store : PresenceStore) (now : ℚ) :
    (∃ swept, store.sweep now = .ok swept) ↔ store.population.Tellable now := by
  have told := unsweepable_eq_none_iff store now
  unfold sweep
  cases raised : store.unsweepable now with
  | none => exact ⟨fun _ => told.mp raised, fun _ => ⟨_, rfl⟩⟩
  | some failure =>
      constructor
      · rintro ⟨swept, done⟩
        cases done
      · intro tellable
        rw [told.mpr tellable] at raised
        cases raised

omit [TextCase] in
theorem population_sweep (store : PresenceStore) (now : ℚ) :
    (match store.sweep now with
      | .ok swept => swept
      | .error _ => store).population = store.population.swept now := by
  have told := sweep_eq_ok_iff store now
  unfold Population.swept
  cases outcome : store.sweep now with
  | ok swept =>
      rw [if_pos (told.mp ⟨swept, outcome⟩)]
      funext agentId
      exact get?_of_sweep outcome agentId
  | error raised =>
      have untellable : ¬store.population.Tellable now := by
        intro tellable
        rcases told.mpr tellable with ⟨swept, done⟩
        rw [outcome] at done
        cases done
      rw [if_neg untellable]

theorem population_after (store : PresenceStore) (operation : StoreOperation) :
    (store.after operation).population = store.population.after operation := by
  cases operation with
  | announce record => exact population_put store record
  | merge record =>
      change (store.mergeRecord record).2.population = _
      unfold mergeRecord Population.after
      change _ = match store.records.get? record.agentId with
        | some existing => _
        | none => _
      cases store.records.get? record.agentId with
      | none => exact population_put store record
      | some existing =>
          dsimp only
          split
          · rfl
          · exact population_put store record
  | withdraw agentId => exact population_remove store agentId
  | probe agentId now =>
      change (store.probe agentId now).2.population = _
      unfold probe Population.after
      change _ = match store.records.get? agentId with
        | some record => _
        | none => _
      cases store.records.get? agentId with
      | none => rfl
      | some record =>
          dsimp only
          cases record.isExpired now with
          | error raised => rfl
          | ok expired =>
              cases expired with
              | true => exact population_remove store agentId
              | false => rfl
  | query query now =>
      rw [show store.population.after (.query query now) = store.population.swept now
        from rfl, ← population_sweep]
      change (store.queryPopulation query now).2.population = _
      unfold queryPopulation
      cases store.sweep now <;> rfl
  | sweep now => exact population_sweep store now
  | count now =>
      rw [show store.population.after (.count now) = store.population.swept now from rfl,
        ← population_sweep]
      change (Presence.counted store now).2.population = _
      unfold Presence.counted
      cases store.sweep now <;> rfl

theorem population_afterAll (store : PresenceStore) (operations : List StoreOperation) :
    (store.afterAll operations).population = store.population.afterAll operations := by
  induction operations generalizing store with
  | nil => rfl
  | cons operation rest induction =>
      change ((store.after operation).afterAll rest).population =
        (store.population.after operation).afterAll rest
      rw [induction, population_after]

/-! ## The query against the scan -/

def scan (store : PresenceStore) (query : Presence.Query) (now : ℚ) :
    List PresenceRecord :=
  (store.values.mergeSort fun left right =>
    !decide (right.agentId < left.agentId)).filter (PresenceRecord.answers now query)

theorem scan_spec (store : PresenceStore) (query : Presence.Query) (now : ℚ) :
    store.population.Scan query now (store.scan query now) where
  ordered := by
    have sorted := KeyOrder.pairwise_mergeSort Presence.ordered_agentIds store.values
    have distinct : (store.values.mergeSort fun left right =>
        !decide (right.agentId < left.agentId)).Pairwise
          fun left right => left.agentId ≠ right.agentId := by
      rw [← List.pairwise_map]
      exact ((List.mergeSort_perm store.values _).map _).nodup_iff.mpr store.nodup_agentIds
    exact ((sorted.and distinct).imp fun {left right} both =>
      lt_of_le_of_ne both.1 both.2).filter _
  exact record := by
    unfold scan
    rw [List.mem_filter, List.mem_mergeSort, mem_values_iff]
    rfl

omit [Floats] in
theorem lists_of_indexedFor {query : Presence.Query} {record : PresenceRecord}
    (indexed : record.indexedFor query = true) :
    (match query.capability with
      | none => true
      | some capability => record.lists capability) = true := by
  unfold PresenceRecord.indexedFor at indexed
  cases asked : query.capability with
  | none => rfl
  | some capability =>
      rw [asked] at indexed
      rcases PresenceRecord.listed_of_indexedUnder (of_decide_eq_true indexed) with
        ⟨items, read, listed⟩
      unfold PresenceRecord.lists
      rw [read]
      apply List.any_eq_true.mpr
      exact ⟨_, listed, by simp⟩

theorem queryPopulation_eq_filter {query : Presence.Query} {swept : PresenceStore}
    {now : ℚ} (done : store.sweep now = .ok swept) :
    Presence.queryPopulation query swept =
      (store.scan query now).filter (PresenceRecord.indexedFor query) := by
  have fitting (record : PresenceRecord) : Presence.fits query record =
      (record.indexedFor query && Presence.inPartition query record) := rfl
  have keys : (((Presence.candidates query swept).filter
      (Presence.inPartition query)).map PresenceRecord.agentId).Nodup :=
    Presence.nodup_candidates query swept
  have own : (Presence.queryPopulation query swept).filter (fun record =>
      decide (record.Live now) && Presence.fits query record) =
        Presence.queryPopulation query swept := by
    apply List.filter_eq_self.mpr
    intro record member
    rcases (Presence.mem_queryPopulation_iff done record).mp member with ⟨⟨_, live⟩, fits⟩
    simp [live, fits]
  have scanned : (store.scan query now).filter (PresenceRecord.indexedFor query) =
      (store.values.mergeSort fun left right =>
        !decide (right.agentId < left.agentId)).filter (fun record =>
          decide (record.Live now) && Presence.fits query record) := by
    unfold scan
    rw [List.filter_filter]
    apply List.filter_congr
    intro record _
    rw [fitting]
    unfold PresenceRecord.answers
    cases indexed : record.indexedFor query with
    | false => simp
    | true => simp [lists_of_indexedFor indexed]
  rw [scanned, ← own]
  apply KeyOrder.filter_mergeSort_eq Presence.ordered_agentIds keys store.nodup_agentIds
  intro record kept
  rw [Bool.and_eq_true, decide_eq_true_eq] at kept
  rw [Presence.mem_candidates_iff, Presence.mem_values_of_sweep done]
  exact ⟨fun member => member.1.1, fun member => ⟨⟨member, kept.1⟩, kept.2⟩⟩

omit [Floats] [TextCase] in
/-- A limit keeps the same of a list and of a part of it exactly if it keeps nothing
that is outside the part. -/
theorem withinLimit_filter_iff (limit : Option Int) (keep : PresenceRecord → Bool)
    (records : List PresenceRecord) :
    withinLimit limit (records.filter keep) = withinLimit limit records ↔
      ∀ record ∈ withinLimit limit records, keep record = true := by
  have bounded (count : Nat) : (records.filter keep).take count = records.take count ↔
      ∀ record ∈ records.take count, keep record = true := by
    constructor
    · intro same record member
      rw [← same] at member
      exact (List.mem_filter.mp (List.mem_of_mem_take member)).2
    · intro all
      have split : records.filter keep =
          records.take count ++ (records.drop count).filter keep := by
        conv_lhs => rw [← List.take_append_drop count records]
        rw [List.filter_append, List.filter_eq_self.mpr all]
      rw [split]
      by_cases short : records.length ≤ count
      · simp [List.drop_eq_nil_of_le short]
      · rw [List.take_append_of_le_length (by simp; omega), List.take_take]
        simp
  unfold withinLimit
  split
  · split
    · exact bounded _
    · exact List.filter_eq_self
  · exact List.filter_eq_self

/-- After any operations, a query gives the first records of a scan exactly if the expiry
of every record can be told, and these records are indexed under the capability in the
form in which it is looked up. -/
theorem queryPopulation_eq_scan_iff (operations : List StoreOperation)
    (query : Presence.Query) (now : ℚ) :
    ∃ found, (Population.afterAll (fun _ => none) operations).Scan query now found ∧
      (((empty.afterAll operations).queryPopulation query now).1 =
          .ok (withinLimit query.limit found) ↔
        (Population.afterAll (fun _ => none) operations).Tellable now ∧
          ∀ record ∈ withinLimit query.limit found, record.indexedFor query = true) := by
  have same := population_afterAll empty operations
  rw [show empty.population = fun _ => none from rfl] at same
  rw [← same]
  generalize empty.afterAll operations = store
  refine ⟨store.scan query now, store.scan_spec query now, ?_⟩
  rw [← sweep_eq_ok_iff, ← withinLimit_filter_iff]
  unfold queryPopulation
  cases done : store.sweep now with
  | error raised => simp
  | ok swept =>
      rw [← queryPopulation_eq_filter done]
      simp

end PresenceStore

/-! ## Samples -/

namespace IndexSamples

open scoped Plain PlainServing

def capitalized : PresenceRecord where
  agentId := "scout"
  resultEntry := [("capabilities", .array [.string "Booking"])]
  scopes := []
  visibility := .standard
  announcedAt := "t"
  announcedAtEpoch := "90.0"
  ttlSeconds := 60
  ownerDomain := .null
  attachment := none
  signature := .null

def bookings : Presence.Query :=
  ⟨some "Booking", none, .null, none, none, none, none, none, false, none⟩

/-- It is not found under the very capability that it lists. -/
theorem capitalized_not_found :
    ¬∃ found, (Population.afterAll (fun _ => none) [.announce capitalized]).Scan bookings 100
        found ∧
      ((PresenceStore.empty.afterAll [.announce capitalized]).queryPopulation
        bookings 100).1 = .ok (withinLimit bookings.limit found) := by
  rintro ⟨found, scan, same⟩
  have member : capitalized ∈ found := by
    rw [scan.exact]
    exact ⟨rfl, by decide +kernel⟩
  have missed : (match ((PresenceStore.empty.afterAll
      [.announce capitalized]).queryPopulation bookings 100).1 with
      | .ok list => list.isEmpty
      | .error _ => false) = true := by
    decide +kernel
  rw [same] at missed
  have none : found = [] := List.isEmpty_iff.mp missed
  rw [none] at member
  cases member

end IndexSamples

end Agtp
