import Agtp.Operational.InMemoryCache
import Mathlib.Data.List.Induction
import Mathlib.Data.List.Pairwise
import Mathlib.Data.Set.Basic

/-! # The laws of the cache

The cache with its counters, over any sequence of calls. -/

namespace Agtp.InMemoryCache

/-! ## The cache with its counters -/

structure Stats where
  hits : Nat
  misses : Nat
  evictions : Nat
  expired : Nat
deriving DecidableEq

structure Counted (Value Time : Type) where
  cache : InMemoryCache Value Time
  stats : Stats

/-- `None` is the answer of a miss. -/
inductive Call (Value Time : Type) where
  | get (now : Time) (key : String)
  | set (now : Time) (key : String) (value : Value) (ttlSeconds : Option Time)
  | clear

namespace Counted

variable {Value Time : Type} [LinearOrder Time] [Add Time]

def get (now : Time) (key : String) (state : Counted Value Time) :
    Option Value × Counted Value Time :=
  let ⟨cache, stats⟩ := state
  match cache.entries.get? key with
  | none => (none, ⟨cache, { stats with misses := stats.misses + 1 }⟩)
  | some entry =>
      if entry.expiresAt ≤ now then
        (none, ⟨{ cache with entries := cache.entries.erase key },
          { stats with expired := stats.expired + 1, misses := stats.misses + 1 }⟩)
      else
        (some entry.value,
          ⟨{ cache with entries := (cache.entries.erase key).set key entry },
            { stats with hits := stats.hits + 1 }⟩)

def set (now : Time) (key : String) (value : Value) (ttlSeconds : Option Time)
    (state : Counted Value Time) : Except Unit Unit × Counted Value Time :=
  let ⟨cache, stats⟩ := state
  let entry : CacheEntry Value Time := ⟨value, now + ttlSeconds.getD cache.defaultTtl⟩
  if (cache.entries.get? key).isSome then
    (.ok (), ⟨{ cache with entries := (cache.entries.erase key).set key entry }, stats⟩)
  else
    let counted (kept : Nat) : Stats :=
      { stats with evictions := stats.evictions + (cache.entries.entries.length - kept) }
    match cache.makeRoom with
    | some room =>
        (.ok (), ⟨{ cache with entries := room.set key entry }, counted room.entries.length⟩)
    | none => (.error (), ⟨{ cache with entries := .empty }, counted 0⟩)

def clear (state : Counted Value Time) : Counted Value Time :=
  { state with cache := { state.cache with entries := .empty } }

def keys (state : Counted Value Time) : List String :=
  state.cache.entries.keys

end Counted

/-! ## Events -/

inductive Event (Value Time : Type) where
  | stored (key : String) (entry : CacheEntry Value Time)
  | hit (key : String)
  | missed (key : String)
  | expired (key : String)
  | evicted (key : String)
  | cleared

section Past

variable {Value Time : Type}

def Event.use : Event Value Time → Option String
  | .stored key _ => some key
  | .hit key => some key
  | _ => none

def stored? (key : String) : List (Event Value Time) → Option (CacheEntry Value Time)
  | [] => none
  | .stored other entry :: past => if other = key then some entry else stored? key past
  | .evicted other :: past => if other = key then none else stored? key past
  | .cleared :: _ => none
  | _ :: past => stored? key past

def UsedBefore (past : List (Event Value Time)) (earlier later : String) : Prop :=
  match past with
  | [] => False
  | event :: past =>
      event.use = some later ∨ event.use ≠ some earlier ∧ UsedBefore past earlier later

def tally (past : List (Event Value Time)) : Stats where
  hits := past.countP (· matches .hit _)
  misses := past.countP (· matches .missed _)
  evictions := past.countP (· matches .evicted _)
  expired := past.countP (· matches .expired _)

def observed (before after : List String) (defaultTtl : Time) [Add Time]
    (answer : Option Value) : Call Value Time → List (Event Value Time)
  | .get _ key =>
      match answer with
      | some _ => [.hit key]
      | none => if key ∈ before then [.missed key, .expired key] else [.missed key]
  | .set now key value ttlSeconds =>
      .stored key ⟨value, now + ttlSeconds.getD defaultTtl⟩ ::
        (before.filter (!after.contains ·)).map .evicted
  | .clear => [.cleared]

theorem usedBefore_evicted {past : List (Event Value Time)} {earlier later : String} (dropped : List String)
    (used : UsedBefore past earlier later) :
    UsedBefore (dropped.map .evicted ++ past) earlier later := by
  induction dropped with
  | nil => exact used
  | cons key rest induction => exact .inr ⟨nofun, induction⟩

theorem stored?_evicted (past : List (Event Value Time)) (key : String) (dropped : List String) :
    stored? key (dropped.map .evicted ++ past) =
      if key ∈ dropped then none else stored? key past := by
  induction dropped with
  | nil => rfl
  | cons other rest induction =>
      rw [List.map_cons, List.cons_append, stored?, induction]
      by_cases same : other = key
      · simp [same]
      · simp [same, Ne.symm same]

end Past

/-! ## What the entries say of the past -/

variable {Value Time : Type} [LinearOrder Time]

/-- The entries are what was stored last, in the order of use. What is missing, some keys
aside, had expired at one of the times. -/
structure Reflects (times : List Time) (past : List (Event Value Time)) (free : Set String)
    (entries : Dict String (CacheEntry Value Time)) : Prop where
  kept : ∀ key entry, entries.get? key = some entry → stored? key past = some entry
  lost : ∀ key ∉ free, ∀ entry, stored? key past = some entry → entries.get? key = none →
    ∃ time ∈ times, entry.expiresAt ≤ time
  recent : entries.keys.Pairwise (UsedBefore past)

namespace Reflects

variable {times : List Time} {past : List (Event Value Time)} {free : Set String}
  {entries : Dict String (CacheEntry Value Time)} {key : String}
  {entry : CacheEntry Value Time}

theorem later (reflects : Reflects times past free entries) (now : Time) :
    Reflects (now :: times) past free entries where
  kept := reflects.kept
  lost := fun key bound entry stored missing =>
    (reflects.lost key bound entry stored missing).imp
      fun _ found => ⟨List.mem_cons_of_mem now found.1, found.2⟩
  recent := reflects.recent

theorem quiet (reflects : Reflects times past free entries) {event : Event Value Time}
    (unused : event.use = none)
    (same : ∀ key, stored? key (event :: past) = stored? key past) :
    Reflects times (event :: past) free entries where
  kept := fun key entry held => (same key).trans (reflects.kept key entry held)
  lost := fun key bound entry stored missing =>
    reflects.lost key bound entry ((same key).symm.trans stored) missing
  recent := reflects.recent.imp fun used =>
    .inr ⟨fun same => (nomatch unused.symm.trans same), used⟩

theorem erase (reflects : Reflects times past ∅ entries) (key : String) :
    Reflects times past {key} (entries.erase key) where
  kept := fun other entry held => reflects.kept other entry
    (@get?_of_erase _ _ ⟨0, entry.expiresAt, entries⟩ _ _ _ held)
  lost := fun other bound entry stored missing =>
    reflects.lost other (Set.notMem_empty other) entry stored
      ((Dict.get?_erase_other entries bound).symm.trans missing)
  recent := reflects.recent.sublist (List.filter_sublist.map Prod.fst)

theorem expire {now : Time} (reflects : Reflects times past {key} entries)
    (stored : stored? key past = some entry) (dead : entry.expiresAt ≤ now) :
    Reflects (now :: times) past ∅ entries where
  kept := reflects.kept
  lost := by
    intro other _ found storedOther missing
    by_cases same : other = key
    · rw [same, stored] at storedOther
      cases storedOther
      exact ⟨now, List.mem_cons_self, dead⟩
    · exact (reflects.later now).lost other same found storedOther missing
  recent := reflects.recent

theorem put (reflects : Reflects times past {key} entries) (fresh : key ∉ entries.keys)
    {event : Event Value Time} (use : event.use = some key)
    (stores : ∀ other, stored? other (event :: past) =
      if key = other then some entry else stored? other past) :
    Reflects times (event :: past) ∅ (entries.set key entry) where
  kept := by
    intro other found held
    rw [stores]
    by_cases same : key = other
    · rw [if_pos same, ← held, ← same, Dict.get?_set_same]
    · rw [Dict.get?_set_other _ (Ne.symm same)] at held
      rw [if_neg same, reflects.kept other found held]
  lost := by
    intro other _ found stored missing
    by_cases same : key = other
    · rw [← same, Dict.get?_set_same] at missing
      cases missing
    · rw [stores, if_neg same] at stored
      rw [Dict.get?_set_other _ (Ne.symm same)] at missing
      exact reflects.lost other (Ne.symm same) found stored missing
  recent := by
    rw [Dict.keys_set, if_neg fresh, List.pairwise_append]
    refine ⟨reflects.recent.imp_of_mem ?_, List.pairwise_singleton _ key, ?_⟩
    · intro earlier later member _ used
      exact .inr ⟨fun same => fresh (Option.some.inj (use.symm.trans same) ▸ member), used⟩
    · intro earlier _ later last
      exact .inl (List.mem_singleton.mp last ▸ use)

theorem evict (reflects : Reflects times past free entries)
    {dropped : List (String × CacheEntry Value Time)}
    {room : Dict String (CacheEntry Value Time)}
    (split : entries.entries = dropped ++ room.entries) :
    Reflects times ((dropped.map Prod.fst).map .evicted ++ past) free room := by
  have keys : entries.keys = dropped.map Prod.fst ++ room.keys :=
    (congrArg (List.map Prod.fst) split).trans List.map_append
  have nodup : entries.keys.Nodup := entries.nodup
  have apart := (List.nodup_append.mp (keys ▸ nodup)).2.2
  have held {key : String} {entry : CacheEntry Value Time} (found : room.get? key = some entry) :
      key ∉ dropped.map Prod.fst ∧ entries.get? key = some entry := by
    refine ⟨fun member => apart key member key (room.mem_keys_of_get? found) rfl, ?_⟩
    rw [Dict.get?_eq_some_iff, split]
    exact List.mem_append_right _ ((Dict.get?_eq_some_iff room).mp found)
  constructor
  · intro key entry found
    rw [stored?_evicted, if_neg (held found).1]
    exact reflects.kept key entry (held found).2
  · intro key bound entry stored missing
    rw [stored?_evicted] at stored
    split at stored
    · cases stored
    · next stays =>
        apply reflects.lost key bound entry stored
        by_contra found
        rcases Option.ne_none_iff_exists'.mp found with ⟨other, found⟩
        rw [Dict.get?_eq_some_iff, split, List.mem_append] at found
        rcases found with gone | kept
        · exact stays (List.mem_map_of_mem gone)
        · rw [(Dict.get?_eq_some_iff room).mpr kept] at missing
          cases missing
  · have recent := reflects.recent
    rw [keys] at recent
    exact (List.pairwise_append.mp recent).2.1.imp (usedBefore_evicted _)

end Reflects

/-! ## One call -/

omit [LinearOrder Time] in
theorem popWhileFull_eq {maxEntries : Int} {entries : List (String × CacheEntry Value Time)}
    (positive : 1 ≤ maxEntries) (bounded : (entries.length : Int) ≤ maxEntries) :
    popWhileFull maxEntries entries =
      some (if maxEntries ≤ entries.length then entries.tail else entries) := by
  have room {rest : List (String × CacheEntry Value Time)}
      (short : (rest.length : Int) < maxEntries) : popWhileFull maxEntries rest = some rest := by
    cases rest with
    | nil => exact if_neg (by omega)
    | cons entry rest => exact if_neg (by simpa using short)
  by_cases full : maxEntries ≤ entries.length
  · rw [if_pos full]
    cases entries with
    | nil => exact absurd (positive.trans full) (by simp)
    | cons entry rest =>
        have fits : maxEntries ≤ rest.length + 1 := by simpa using full
        have short : (rest.length : Int) < maxEntries := by
          rw [List.length_cons] at bounded
          omega
        rw [popWhileFull, if_pos fits, room short, List.tail_cons]
  · rw [if_neg full]
    exact room (lt_of_not_ge full)

variable [Add Time]

def serve (call : Call Value Time) (state : Counted Value Time) :
    Option Value × Counted Value Time :=
  match call with
  | .get now key => state.get now key
  | .set now key value ttlSeconds => (none, (state.set now key value ttlSeconds).2)
  | .clear => (none, state.clear)

def step (run : Counted Value Time × List (Event Value Time)) (call : Call Value Time) :
    Counted Value Time × List (Event Value Time) :=
  let (answer, after) := serve call run.1
  (after, observed run.1.keys after.keys run.1.cache.defaultTtl answer call ++ run.2)

def Call.times : Call Value Time → List Time
  | .get now _ => [now]
  | .set now _ _ _ => [now]
  | .clear => []

/-- What holds between the calls. -/
structure Sound (maxEntries : Int) (times : List Time) (past : List (Event Value Time))
    (state : Counted Value Time) : Prop where
  limit : state.cache.maxEntries = maxEntries
  bounded : (state.cache.entries.entries.length : Int) ≤ maxEntries
  reflects : Reflects times past ∅ state.cache.entries
  counted : state.stats = tally past

section Step

omit [LinearOrder Time] [Add Time] in
theorem notMem_keys {entries : Dict String (CacheEntry Value Time)} {key : String}
    (missing : entries.get? key = none) : key ∉ entries.keys := by
  intro member
  rcases List.mem_map.mp member with ⟨entry, within, rfl⟩
  exact nomatch missing.symm.trans ((Dict.get?_eq_some_iff entries).mpr within)

omit [LinearOrder Time] [Add Time] in
theorem erase_facts {entries : Dict String (CacheEntry Value Time)} {key : String}
    (held : key ∈ entries.keys) : key ∉ (entries.erase key).keys ∧
      (entries.erase key).entries.length < entries.entries.length := by
  refine ⟨fun member => (Dict.mem_keys_erase.mp member).2 rfl, ?_⟩
  rcases List.mem_map.mp held with ⟨entry, within, same⟩
  exact List.length_filter_lt_length_iff_exists.mpr ⟨entry, within, by simp [same]⟩

variable {maxEntries : Int} {times : List Time} {past : List (Event Value Time)}
  {state : Counted Value Time}

omit [LinearOrder Time] [Add Time] in
theorem makeRoom_of_bounded {cache : InMemoryCache Value Time} (positive : 1 ≤ cache.maxEntries)
    (bounded : (cache.entries.entries.length : Int) ≤ cache.maxEntries) :
    ∃ dropped room, cache.makeRoom = some room ∧
      cache.entries.entries = dropped ++ room.entries ∧ dropped.length ≤ 1 ∧
      (room.entries.length : Int) < cache.maxEntries := by
  have popped := popWhileFull_eq positive bounded
  have made : ∃ room, cache.makeRoom = some room ∧ room.entries =
      if cache.maxEntries ≤ cache.entries.entries.length then cache.entries.entries.tail
      else cache.entries.entries := by
    unfold makeRoom
    split
    · next none => exact nomatch none.symm.trans popped
    · next found => exact ⟨_, rfl, Option.some.inj (found.symm.trans popped)⟩
  rcases made with ⟨room, made, kept⟩
  by_cases full : cache.maxEntries ≤ cache.entries.entries.length
  · rw [if_pos full] at kept
    refine ⟨cache.entries.entries.take 1, room, made, ?_, List.length_take_le 1 _, ?_⟩
    · rw [kept, ← List.drop_one, List.take_append_drop]
    · rw [kept, List.length_tail]
      omega
  · rw [if_neg full] at kept
    exact ⟨[], room, made, kept.symm, Nat.zero_le 1, kept ▸ lt_of_not_ge full⟩

theorem set_cases (positive : 1 ≤ maxEntries) (sound : Sound maxEntries times past state)
    (now : Time) (key : String) (value : Value) (ttlSeconds : Option Time) :
    (key ∈ state.keys ∧ state.set now key value ttlSeconds =
      (.ok (), ⟨{ state.cache with
        entries := (state.cache.entries.erase key).set key
          ⟨value, now + ttlSeconds.getD state.cache.defaultTtl⟩ }, state.stats⟩)) ∨
    key ∉ state.keys ∧ ∃ (dropped : _) (room : Dict String (CacheEntry Value Time)),
      state.cache.entries.entries = dropped ++ room.entries ∧ dropped.length ≤ 1 ∧
      (room.entries.length : Int) < maxEntries ∧ state.set now key value ttlSeconds =
        (.ok (), ⟨{ state.cache with
          entries := room.set key ⟨value, now + ttlSeconds.getD state.cache.defaultTtl⟩ },
          { state.stats with evictions := state.stats.evictions + dropped.length }⟩) := by
  have limit := sound.limit
  have bounded := sound.bounded
  subst limit
  cases found : state.cache.entries.get? key with
  | some entry =>
      refine .inl ⟨state.cache.entries.mem_keys_of_get? found, ?_⟩
      simp [Counted.set, found]
  | none =>
      have missing : key ∉ state.keys := notMem_keys found
      rcases makeRoom_of_bounded positive bounded with ⟨dropped, room, made, split, one, short⟩
      refine .inr ⟨missing, dropped, room, split, one, short, ?_⟩
      have count : state.cache.entries.entries.length - room.entries.length =
          dropped.length := by
        rw [split, List.length_append, Nat.add_sub_cancel]
      simp [Counted.set, found, made, count]

omit [LinearOrder Time] [Add Time] in
theorem gone_eq {entries room : Dict String (CacheEntry Value Time)} {key : String}
    {entry : CacheEntry Value Time} {dropped : List (String × CacheEntry Value Time)}
    (fresh : key ∉ entries.keys) (split : entries.entries = dropped ++ room.entries) :
    entries.keys.filter (!(room.set key entry).keys.contains ·) = dropped.map Prod.fst := by
  have keys : entries.keys = dropped.map Prod.fst ++ room.keys :=
    (congrArg (List.map Prod.fst) split).trans List.map_append
  have nodup : entries.keys.Nodup := entries.nodup
  rw [keys] at fresh nodup ⊢
  rw [List.filter_append, List.filter_eq_self.mpr, List.filter_eq_nil_iff.mpr, List.append_nil]
  · intro other member
    simp [Dict.mem_keys_set_iff, member]
  · intro other member
    have apart : other ∉ room.keys := fun within =>
      (List.nodup_append.mp nodup).2.2 other member other within rfl
    have differs : other ≠ key := fun same => fresh (same ▸ List.mem_append_left _ member)
    simp [Dict.mem_keys_set_iff, apart, differs]

omit [LinearOrder Time] [Add Time] in
theorem gone_nil {entries : Dict String (CacheEntry Value Time)} {key : String}
    {entry : CacheEntry Value Time} :
    entries.keys.filter (!((entries.erase key).set key entry).keys.contains ·) = [] := by
  rw [List.filter_eq_nil_iff]
  intro other member
  simp [Dict.mem_keys_set_iff, Dict.mem_keys_erase, member, em']

theorem Sound.get (sound : Sound maxEntries times past state) (now : Time) (key : String) :
    let run := step (state, past) (.get now key)
    Sound maxEntries (now :: times) run.2 run.1 := by
  cases found : state.cache.entries.get? key with
  | none =>
      have missing : key ∉ state.keys := notMem_keys found
      simp only [step, serve, Counted.get, found, observed, missing, if_false]
      refine ⟨sound.limit, sound.bounded, (sound.reflects.later now).quiet rfl fun _ => rfl, ?_⟩
      simp [sound.counted, tally]
  | some entry =>
      have held : key ∈ state.keys := state.cache.entries.mem_keys_of_get? found
      have erased := sound.reflects.erase key
      rcases erase_facts held with ⟨gone, shorter⟩
      have bounded := sound.bounded
      by_cases dead : entry.expiresAt ≤ now
      · simp only [step, serve, Counted.get, found, observed, held, dead, if_true]
        refine ⟨sound.limit, by simp only; omega, ?_, ?_⟩
        · exact ((erased.expire (sound.reflects.kept key entry found) dead).quiet rfl
            fun _ => rfl).quiet rfl fun _ => rfl
        · simp [sound.counted, tally]
      · simp only [step, serve, Counted.get, found, observed, dead, if_false]
        refine ⟨sound.limit, ?_, ?_, ?_⟩
        · simp only [Dict.entries_set_of_notMem gone, List.length_append, List.length_singleton]
          omega
        · apply (erased.later now).put gone rfl
          intro other
          by_cases same : key = other
          · rw [if_pos same, ← same]
            exact sound.reflects.kept key entry found
          · rw [if_neg same]
            rfl
        · simp [sound.counted, tally]

theorem Sound.set (positive : 1 ≤ maxEntries) (sound : Sound maxEntries times past state)
    (now : Time) (key : String) (value : Value) (ttlSeconds : Option Time) :
    let run := step (state, past) (.set now key value ttlSeconds)
    Sound maxEntries (now :: times) run.2 run.1 := by
  have stores (entry : CacheEntry Value Time) (before : List (Event Value Time))
      (other : String) : stored? other (.stored key entry :: before) =
        if key = other then some entry else stored? other before := rfl
  have bounded := sound.bounded
  rcases set_cases positive sound now key value ttlSeconds with
    ⟨held, result⟩ | ⟨fresh, dropped, room, split, one, short, result⟩
  · rcases erase_facts held with ⟨gone, shorter⟩
    simp only [step, serve, result, observed, Counted.keys, gone_nil, List.map_nil]
    refine ⟨sound.limit, ?_, ?_, ?_⟩
    · simp only [Dict.entries_set_of_notMem gone, List.length_append, List.length_singleton]
      omega
    · exact ((sound.reflects.erase key).later now).put gone rfl (stores _ past)
    · simp [sound.counted, tally]
  · have roomFresh : key ∉ room.keys := by
      intro member
      apply fresh
      rcases List.mem_map.mp member with ⟨entry, within, rfl⟩
      exact List.mem_map_of_mem (split ▸ List.mem_append_right dropped within)
    simp only [step, serve, result, observed, Counted.keys, gone_eq fresh split]
    refine ⟨sound.limit, ?_, ?_, ?_⟩
    · simp only [Dict.entries_set_of_notMem roomFresh, List.length_append,
        List.length_singleton]
      omega
    · have evicted := (sound.reflects.later now).evict split
      exact Reflects.put ⟨evicted.kept, fun other _ => evicted.lost other (Set.notMem_empty other),
        evicted.recent⟩ roomFresh rfl (stores _ _)
    · simp [sound.counted, tally, Function.comp_def, Nat.add_comm]

theorem Sound.clear (positive : 1 ≤ maxEntries) (sound : Sound maxEntries times past state) :
    let run := step (state, past) .clear
    Sound maxEntries times run.2 run.1 := by
  refine ⟨sound.limit, ?_, ⟨nofun, nofun, List.Pairwise.nil⟩, ?_⟩
  · exact (Int.le_trans (by decide) positive : (0 : Int) ≤ maxEntries)
  · simpa [step, serve, observed, tally, Counted.clear] using sound.counted

theorem Sound.usedBefore (positive : 1 ≤ maxEntries) (sound : Sound maxEntries times past state)
    {now : Time} {key : String} {value : Value} {ttlSeconds : Option Time}
    {evicted kept : String} (held : evicted ∈ state.keys)
    (gone : evicted ∉ (state.set now key value ttlSeconds).2.keys) (other : kept ∈ state.keys)
    (differs : kept ≠ evicted) : UsedBefore past evicted kept := by
  have missing : evicted ∈ state.keys.filter
      (!(state.set now key value ttlSeconds).2.keys.contains ·) := by
    simp [held, gone]
  rcases set_cases positive sound now key value ttlSeconds with
    ⟨_, result⟩ | ⟨fresh, dropped, room, split, one, _, result⟩
  · rw [result, Counted.keys, Counted.keys, gone_nil] at missing
    cases missing
  · rw [result, Counted.keys, Counted.keys, gone_eq fresh split] at missing
    have recent := sound.reflects.recent
    have keys : state.cache.entries.keys = dropped.map Prod.fst ++ room.keys :=
      (congrArg (List.map Prod.fst) split).trans List.map_append
    rw [Counted.keys, keys] at other
    rw [keys] at recent
    have single : ∀ first ∈ dropped.map Prod.fst, first = evicted := by
      intro first member
      rcases dropped with _ | ⟨entry, rest⟩
      · cases member
      · have alone : rest = [] := by simpa using one
        subst alone
        rw [List.mem_singleton.mp member, List.mem_singleton.mp missing]
    rcases List.mem_append.mp other with also | stays
    · exact absurd (single kept also) differs
    · exact (List.pairwise_append.mp recent).2.2 evicted missing kept stays

/-! ## Every sequence of calls -/

def run (maxEntries : Int) (defaultTtl : Time) (calls : List (Call Value Time)) :
    Counted Value Time × List (Event Value Time) :=
  calls.foldl step (⟨.new maxEntries defaultTtl, ⟨0, 0, 0, 0⟩⟩, [])

theorem sound_run (positive : 1 ≤ maxEntries) (defaultTtl : Time)
    (calls : List (Call Value Time)) :
    ∃ times, (∀ time ∈ times, time ∈ calls.flatMap Call.times) ∧
      Sound maxEntries times (run maxEntries defaultTtl calls).2
        (run maxEntries defaultTtl calls).1 := by
  induction calls using List.reverseRecOn with
  | nil =>
      refine ⟨[], nofun, rfl, ?_, ⟨nofun, nofun, List.Pairwise.nil⟩, rfl⟩
      exact (Int.le_trans (by decide) positive : (0 : Int) ≤ maxEntries)
  | append_singleton calls call induction =>
      rcases induction with ⟨times, known, sound⟩
      have next : run maxEntries defaultTtl (calls ++ [call]) =
          step (run maxEntries defaultTtl calls) call := List.foldl_concat ..
      rw [next]
      refine ⟨call.times ++ times, ?_, ?_⟩
      · intro time member
        rw [List.flatMap_append, List.mem_append]
        rcases List.mem_append.mp member with new | old
        · exact .inr (by simpa using new)
        · exact .inl (known time old)
      · cases call with
        | get now key => exact sound.get now key
        | set now key value ttlSeconds => exact sound.set positive now key value ttlSeconds
        | clear => exact sound.clear positive

/-- What a caller can rely on after calls at the given times. -/
structure Lawful (maxEntries : Int) (times : List Time)
    (run : Counted Value Time × List (Event Value Time)) : Prop where
  bounded : (run.1.keys.length : Int) ≤ maxEntries
  /-- A lookup that is not before an earlier call finds what was stored last and is fresh. -/
  found : ∀ now key, (∀ time ∈ times, time ≤ now) → (run.1.get now key).1 =
    ((stored? key run.2).filter (now < ·.expiresAt)).map CacheEntry.value
  succeeds : ∀ now key value ttlSeconds, (run.1.set now key value ttlSeconds).1 = .ok ()
  /-- An insertion evicts the key that was used least recently. -/
  evicts : ∀ now key value ttlSeconds, ∀ evicted ∈ run.1.keys,
    evicted ∉ (run.1.set now key value ttlSeconds).2.keys →
      ∀ kept ∈ run.1.keys, kept ≠ evicted → UsedBefore run.2 evicted kept
  counted : run.1.stats = tally run.2

/-- The cache keeps its laws over any sequence of calls. -/
theorem lawful_run (positive : 1 ≤ maxEntries) (defaultTtl : Time)
    (calls : List (Call Value Time)) :
    Lawful maxEntries (calls.flatMap Call.times) (run maxEntries defaultTtl calls) := by
  rcases sound_run positive defaultTtl calls with ⟨times, known, sound⟩
  generalize run maxEntries defaultTtl calls = run at sound
  constructor
  · simpa [Counted.keys, Dict.keys] using sound.bounded
  · intro now key latest
    simp only [Counted.get]
    split
    · next missing =>
        cases stored : stored? key run.2 with
        | none => rfl
        | some entry =>
            rcases sound.reflects.lost key (Set.notMem_empty key) entry stored missing with
              ⟨time, member, dead⟩
            have expired := dead.trans (latest time (known time member))
            simp [Option.filter, not_lt.mpr expired]
    · next entry found =>
        rw [sound.reflects.kept key entry found]
        split
        · next dead => simp [Option.filter, not_lt.mpr dead]
        · next fresh => simp [Option.filter, not_le.mp fresh]
  · intro now key value ttlSeconds
    rcases set_cases positive sound now key value ttlSeconds with
      ⟨_, result⟩ | ⟨_, _, _, _, _, _, result⟩ <;> rw [result]
  · exact fun now key value ttlSeconds evicted held gone kept other differs =>
      sound.usedBefore positive held gone other differs
  · exact sound.counted

end Step

namespace CacheSamples

/-- A cache of two entries that evicts one, hits the other and finds the third expired. -/
theorem evictingRun :
    Lawful 2 [0, 1, 2, 3, 20] (run 2 10 [.set 0 "a" 'A' none, .set 1 "b" 'B' none,
      .get 2 "a", .set 3 "c" 'C' (some 5), .get 20 "c"]) :=
  lawful_run (by decide) 10 [.set (0 : Nat) "a" 'A' none, .set 1 "b" 'B' none, .get 2 "a",
    .set 3 "c" 'C' (some 5), .get 20 "c"]

end CacheSamples

end Agtp.InMemoryCache
