import Agtp.Foundation.Dict
import Mathlib.Order.Lattice

/-! # Replay stores

What `mod_merchant` remembers of the assertions it has let through: an entry for
each identifier, until the time at which it expires. -/

namespace Agtp

/-- `time.time()`. `seconds` is `int(now)`. `plus` adds an integer, which fails
where the integer is beyond the range of floats. -/
class WallClock (Time : Type) extends LinearOrder Time where
  seconds : Time → Int
  plus : Time → Int → Option Time

/-- A store, with what its `check_and_record` does at a time: it tells whether
the identifier was seen, or it raises. -/
class SeenJtiStore (Time Store : Type) where
  checkAndRecord : (now : Time) → (jti : String) → (ttlSeconds : Int) → Store →
    Except Unit Bool × Store

/-! ## In memory -/

section InMemory

variable (Time : Type) [WallClock Time]

/-- The identifiers with the times at which they expire. -/
structure InMemorySeenJtiStore where
  entries : Dict String Time

end InMemory

variable {Time : Type} [WallClock Time]

def unexpired (now : Time) (entries : Dict String Time) : Dict String Time :=
  entries.filterValues fun expiresAt => now < expiresAt

namespace InMemorySeenJtiStore

def empty : InMemorySeenJtiStore Time := ⟨.empty⟩

def checkAndRecord (now : Time) (jti : String) (ttlSeconds : Int)
    (store : InMemorySeenJtiStore Time) :
    Except Unit Bool × InMemorySeenJtiStore Time :=
  let swept := unexpired now store.entries
  match swept.get? jti, WallClock.plus now (max ttlSeconds 0) with
  | some _, _ => (.ok true, ⟨swept⟩)
  | none, some expiresAt => (.ok false, ⟨swept.set jti expiresAt⟩)
  | none, none => (.error (), ⟨swept⟩)

instance : SeenJtiStore Time (InMemorySeenJtiStore Time) where
  checkAndRecord := checkAndRecord

end InMemorySeenJtiStore

/-! ## SQLite -/

class SqlText where
  encodes : String → Bool

/-- The rows of `seen_jti`, whose primary key is the identifier. -/
structure SQLiteSeenJtiStore (Time : Type) [SqlText] where
  seenJti : Dict String Time
  encoded : ∀ jti ∈ seenJti.keys, SqlText.encodes jti = true

namespace SQLiteSeenJtiStore

variable [SqlText]

def empty : SQLiteSeenJtiStore Time := ⟨.empty, fun _ member => by cases member⟩

def deleteExpired (now : Time) (store : SQLiteSeenJtiStore Time) :
    SQLiteSeenJtiStore Time where
  seenJti := unexpired now store.seenJti
  encoded := fun jti member => store.encoded jti (Dict.mem_keys_of_filterValues member)

/-- `INSERT INTO seen_jti(jti,expires_at) VALUES (?,?)`. -/
def insert (jti : String) (expiresAt : Time) (store : SQLiteSeenJtiStore Time)
    (encodes : SqlText.encodes jti = true) : SQLiteSeenJtiStore Time where
  seenJti := store.seenJti.set jti expiresAt
  encoded := by
    intro other member
    rcases Dict.mem_keys_set member with present | rfl
    · exact store.encoded other present
    · exact encodes

def checkAndRecord (now : Time) (jti : String) (ttlSeconds : Int)
    (store : SQLiteSeenJtiStore Time) :
    Except Unit Bool × SQLiteSeenJtiStore Time :=
  let swept := store.deleteExpired now
  if encodes : SqlText.encodes jti = true then
    match swept.seenJti.get? jti, WallClock.plus now (max ttlSeconds 0) with
    | some _, _ => (.ok true, swept)
    | none, some expiresAt => (.ok false, swept.insert jti expiresAt encodes)
    | none, none => (.error (), store)
  else (.error (), store)

instance : SeenJtiStore Time (SQLiteSeenJtiStore Time) where
  checkAndRecord := checkAndRecord

end SQLiteSeenJtiStore

/-! ## What the stores have in common -/

/-- A store remembers an identifier until its entry expires, and raises only for
an identifier that it cannot hold or an expiry that there is no time for. -/
class LawfulJtiStore (Time Store : Type) [WallClock Time] [SeenJtiStore Time Store] where
  expiresAt : Store → String → Option Time
  Holds : String → Prop
  seen : ∀ {now expiry : Time} {jti : String} {store : Store},
    expiresAt store jti = some expiry → now < expiry → ∀ ttlSeconds,
      (SeenJtiStore.checkAndRecord now jti ttlSeconds store).1 = .ok true
  recorded : ∀ {now : Time} {jti : String} {ttlSeconds : Int} {store : Store},
    (SeenJtiStore.checkAndRecord now jti ttlSeconds store).1 = .ok false →
      expiresAt (SeenJtiStore.checkAndRecord now jti ttlSeconds store).2 jti =
        WallClock.plus now (max ttlSeconds 0)
  kept : ∀ {now expiry : Time} {other : String} {store : Store},
    expiresAt store other = some expiry → now < expiry → ∀ jti ttlSeconds,
      expiresAt (SeenJtiStore.checkAndRecord now jti ttlSeconds store).2 other =
        some expiry
  answers : ∀ {now : Time} {jti : String} {ttlSeconds : Int}, Holds jti →
    (WallClock.plus now (max ttlSeconds 0)).isSome → ∀ store : Store,
      (SeenJtiStore.checkAndRecord now jti ttlSeconds store).1 ≠ .error ()

theorem get?_unexpired {now expiry : Time} {entries : Dict String Time} {jti : String}
    (held : entries.get? jti = some expiry) (live : now < expiry) :
    (unexpired now entries).get? jti = some expiry := by
  rw [unexpired, Dict.get?_filterValues, held, Option.filter_some, if_pos]
  exact decide_eq_true live

theorem get?_set_unexpired {now expiry expiresAt : Time} {entries : Dict String Time}
    {jti other : String} (absent : (unexpired now entries).get? jti = none)
    (held : entries.get? other = some expiry) (live : now < expiry) :
    ((unexpired now entries).set jti expiresAt).get? other = some expiry := by
  have present := get?_unexpired held live
  have different : other ≠ jti := by
    rintro rfl
    rw [absent] at present
    cases present
  rw [Dict.get?_set_other _ different, present]

instance : LawfulJtiStore Time (InMemorySeenJtiStore Time) where
  expiresAt := fun store jti => store.entries.get? jti
  Holds := fun _ => True
  seen := by
    intro now expiry jti store held live ttlSeconds
    simp only [SeenJtiStore.checkAndRecord, InMemorySeenJtiStore.checkAndRecord,
      get?_unexpired held live]
  recorded := by
    intro now jti ttlSeconds store first
    simp only [SeenJtiStore.checkAndRecord, InMemorySeenJtiStore.checkAndRecord] at first ⊢
    split at first
    · simp at first
    · next expiresAt absent sum => simp [sum]
    · cases first
  kept := by
    intro now expiry other store held live jti ttlSeconds
    simp only [SeenJtiStore.checkAndRecord, InMemorySeenJtiStore.checkAndRecord]
    split
    · exact get?_unexpired held live
    · next expiresAt absent sum => exact get?_set_unexpired absent held live
    · exact get?_unexpired held live
  answers := by
    intro now jti ttlSeconds _ defined store
    simp only [SeenJtiStore.checkAndRecord, InMemorySeenJtiStore.checkAndRecord]
    split
    · simp
    · simp
    · next undefined => simp [undefined] at defined

instance [SqlText] : LawfulJtiStore Time (SQLiteSeenJtiStore Time) where
  expiresAt := fun store jti => store.seenJti.get? jti
  Holds := fun jti => SqlText.encodes jti = true
  seen := by
    intro now expiry jti store held live ttlSeconds
    have encodes := store.encoded jti (Dict.mem_keys_of_get? _ held)
    have present : (store.deleteExpired now).seenJti.get? jti = some expiry :=
      get?_unexpired held live
    simp only [SeenJtiStore.checkAndRecord, SQLiteSeenJtiStore.checkAndRecord, encodes,
      dif_pos, present]
  recorded := by
    intro now jti ttlSeconds store first
    simp only [SeenJtiStore.checkAndRecord, SQLiteSeenJtiStore.checkAndRecord] at first ⊢
    split at first
    · next encodes =>
        rw [dif_pos encodes]
        split at first
        · simp at first
        · next expiresAt absent sum =>
            simp [sum, SQLiteSeenJtiStore.insert]
        · cases first
    · cases first
  kept := by
    intro now expiry other store held live jti ttlSeconds
    simp only [SeenJtiStore.checkAndRecord, SQLiteSeenJtiStore.checkAndRecord]
    split
    · split
      · exact get?_unexpired held live
      · next expiresAt absent sum => exact get?_set_unexpired absent held live
      · exact held
    · exact held
  answers := by
    intro now jti ttlSeconds encodes defined store
    simp only [SeenJtiStore.checkAndRecord, SQLiteSeenJtiStore.checkAndRecord,
      dif_pos encodes]
    split
    · simp
    · simp
    · next undefined => simp [undefined] at defined

/-! ## Entries over time -/

section Keeping

variable {Store : Type} [SeenJtiStore Time Store] [LawfulJtiStore Time Store]

def Keeps (now : Time) (before after : Store) : Prop :=
  ∀ jti expiry, LawfulJtiStore.expiresAt before jti = some expiry → now < expiry →
    LawfulJtiStore.expiresAt after jti = some expiry

theorem keeps_refl (now : Time) (store : Store) : Keeps now store store :=
  fun _ _ held _ => held

theorem keeps_checkAndRecord (now : Time) (jti : String) (ttlSeconds : Int)
    (store : Store) :
    Keeps now store (SeenJtiStore.checkAndRecord now jti ttlSeconds store).2 :=
  fun _ _ held live => LawfulJtiStore.kept held live jti ttlSeconds

end Keeping

/-! ## The two stores side by side -/

structure JtiCall (Time : Type) where
  now : Time
  jti : String
  ttlSeconds : Int

def answers {Store : Type} [SeenJtiStore Time Store] :
    Store → List (JtiCall Time) → List (Except Unit Bool)
  | _, [] => []
  | store, call :: rest =>
      let step := SeenJtiStore.checkAndRecord call.now call.jti call.ttlSeconds store
      step.1 :: answers step.2 rest

section SideBySide

variable [SqlText]

/-- The stores hold the same entries for texts that the database takes, those apart that
have expired. -/
def AlikeAt (now : Time) (memory : InMemorySeenJtiStore Time) (rows : SQLiteSeenJtiStore Time) :
    Prop :=
  ∀ jti, SqlText.encodes jti = true →
    (unexpired now memory.entries).get? jti = (unexpired now rows.seenJti).get? jti

omit [SqlText] in
theorem unexpired_later {now later : Time} (order : now ≤ later) (entries : Dict String Time)
    (jti : String) :
    (unexpired later (unexpired now entries)).get? jti = (unexpired later entries).get? jti := by
  unfold unexpired
  rw [Dict.get?_filterValues, Dict.get?_filterValues, Dict.get?_filterValues,
    Option.filter_filter]
  congr 1
  funext expiry
  by_cases live : later < expiry
  · simp [live, order.trans_lt live]
  · simp [live]

omit [SqlText] in
theorem get?_unexpired_set (now expiresAt : Time) (entries : Dict String Time)
    (jti other : String) :
    (unexpired now (entries.set jti expiresAt)).get? other =
      if other = jti then (some expiresAt).filter (now < ·)
      else (unexpired now entries).get? other := by
  unfold unexpired
  rw [Dict.get?_filterValues, Dict.get?_filterValues]
  split
  · next same => rw [same, Dict.get?_set_same]
  · next different => rw [Dict.get?_set_other _ different]

theorem AlikeAt.later {now later : Time} {memory : InMemorySeenJtiStore Time}
    {rows : SQLiteSeenJtiStore Time} (alike : AlikeAt now memory rows) (order : now ≤ later) :
    AlikeAt later memory rows := by
  intro jti encodes
  have same := congrArg (Option.filter (later < ·)) (alike jti encodes)
  rwa [← Dict.get?_filterValues, ← Dict.get?_filterValues, ← unexpired, ← unexpired,
    unexpired_later order, unexpired_later order] at same

theorem alike_checkAndRecord {call : JtiCall Time} {memory : InMemorySeenJtiStore Time}
    {rows : SQLiteSeenJtiStore Time} (alike : AlikeAt call.now memory rows) :
    (SqlText.encodes call.jti = true →
      (memory.checkAndRecord call.now call.jti call.ttlSeconds).1 =
        (rows.checkAndRecord call.now call.jti call.ttlSeconds).1) ∧
      AlikeAt call.now (memory.checkAndRecord call.now call.jti call.ttlSeconds).2
        (rows.checkAndRecord call.now call.jti call.ttlSeconds).2 := by
  have idem := unexpired_later (le_refl call.now)
  unfold InMemorySeenJtiStore.checkAndRecord SQLiteSeenJtiStore.checkAndRecord
  dsimp only
  by_cases encodes : SqlText.encodes call.jti = true
  · simp only [dif_pos encodes, SQLiteSeenJtiStore.deleteExpired, alike call.jti encodes]
    split
    · refine ⟨fun _ => rfl, fun other held => ?_⟩
      rw [idem, idem, alike other held]
    · refine ⟨fun _ => rfl, fun other held => ?_⟩
      simp only [SQLiteSeenJtiStore.insert, get?_unexpired_set, idem, alike other held]
    · refine ⟨fun _ => rfl, fun other held => ?_⟩
      rw [idem, alike other held]
  · rw [dif_neg encodes]
    refine ⟨fun held => absurd held encodes, fun other held => ?_⟩
    have different : other ≠ call.jti := fun same => encodes (same ▸ held)
    split
    · rw [idem, alike other held]
    · rw [get?_unexpired_set, if_neg different, idem, alike other held]
    · rw [idem, alike other held]

theorem agree_of_alike {calls : List (JtiCall Time)} {memory : InMemorySeenJtiStore Time}
    {rows : SQLiteSeenJtiStore Time} (ordered : calls.Pairwise (·.now ≤ ·.now))
    (alike : ∀ call ∈ calls, AlikeAt call.now memory rows) :
    ∀ entry ∈ calls.zip ((answers memory calls).zip (answers rows calls)),
      SqlText.encodes entry.1.jti = true → entry.2.1 = entry.2.2 := by
  induction calls generalizing memory rows with
  | nil => exact fun _ member => absurd member List.not_mem_nil
  | cons call rest induction =>
      rcases List.pairwise_cons.mp ordered with ⟨first, ordered⟩
      rcases alike_checkAndRecord (alike call List.mem_cons_self) with ⟨same, after⟩
      intro entry member
      rcases List.mem_cons.mp member with rfl | member
      · exact same
      · exact induction ordered (fun later held => after.later (first later held)) entry member

/-- While the clock does not go back, the database tells of every identifier that it takes
what the memory of one process would, whatever else is presented in between. -/
theorem stores_agree (calls : List (JtiCall Time)) (ordered : calls.Pairwise (·.now ≤ ·.now)) :
    ∀ entry ∈ calls.zip ((answers (InMemorySeenJtiStore.empty : InMemorySeenJtiStore Time)
        calls).zip (answers (SQLiteSeenJtiStore.empty : SQLiteSeenJtiStore Time) calls)),
      SqlText.encodes entry.1.jti = true → entry.2.1 = entry.2.2 :=
  agree_of_alike ordered fun _ _ _ _ => rfl

end SideBySide

namespace ReplayStoreSamples

scoped instance : WallClock Int := ⟨id, fun now seconds => some (now + seconds)⟩

scoped instance : SqlText := ⟨(· ≠ "lone surrogate")⟩

/-- An identifier that the database cannot hold is presented between two presentations of
another one. -/
def interrupted : List (JtiCall Int) := [⟨0, "one", 5⟩, ⟨1, "lone surrogate", 5⟩, ⟨2, "one", 5⟩]

theorem interrupted_stores_agree :
    (answers (InMemorySeenJtiStore.empty : InMemorySeenJtiStore Int) interrupted)[2]? =
      (answers (SQLiteSeenJtiStore.empty : SQLiteSeenJtiStore Int) interrupted)[2]? :=
  congrArg some (stores_agree interrupted (by decide) _ (List.mem_of_getElem? (i := 2) rfl) rfl)

end ReplayStoreSamples

end Agtp
