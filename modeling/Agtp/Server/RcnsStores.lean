import Agtp.Foundation.SlidingWindow
import Agtp.Server.State

/-! # The state of the negotiation gate

The rate-limit log and the idempotency table, in memory and in the SQLite file, each with the
operations of its backend. -/

namespace Agtp

open SlidingWindow

abbrev KeyBinding := String × ℚ

/-! ## In memory -/

/-- `_NEGOTIATION_LOG` and `_IDEMPOTENCY_CACHE`. -/
structure RcnsMemory where
  log : Dict String (List ℚ)
  cache : Dict (String × String) KeyBinding

namespace RcnsMemory

def empty : RcnsMemory := ⟨.empty, .empty⟩

def timestamps (memory : RcnsMemory) (agentId : String) : List ℚ :=
  (memory.log.get? agentId).getD []

def recordNegotiation (memory : RcnsMemory) (agentId : String) (now : ℚ) : RcnsMemory :=
  { memory with
    log := memory.log.set agentId
      ((memory.timestamps agentId).filter (now - 60 ≤ ·) ++ [now]) }

def rateLimited (memory : RcnsMemory) (agentId : String) (limit : Nat) (now : ℚ) : Bool :=
  limit ≠ 0 && limit ≤ (memory.timestamps agentId).countP (now - 60 ≤ ·)

def idempotentLookup (memory : RcnsMemory) (agentId key : String) (windowSeconds : Nat)
    (now : ℚ) : Option String × RcnsMemory :=
  if key = "" ∨ windowSeconds = 0 then (none, memory)
  else
    match memory.cache.get? (agentId, key) with
    | none => (none, memory)
    | some (synthesisId, expiresAt) =>
        if expiresAt ≤ now then
          (none, { memory with cache := memory.cache.erase (agentId, key) })
        else (some synthesisId, memory)

def idempotentRecord (memory : RcnsMemory) (agentId key synthesisId : String)
    (windowSeconds : Nat) (now : ℚ) : RcnsMemory :=
  if key = "" ∨ windowSeconds = 0 then memory
  else
    { memory with
      cache := memory.cache.set (agentId, key) (synthesisId, now + windowSeconds) }

end RcnsMemory

/-! ## In the file -/

/-- The tables `negotiations` and `idempotency`; agent and key are the primary key of the
second. -/
structure RcnsFile where
  negotiations : List (String × ℚ)
  idempotency : Dict (String × String) KeyBinding

namespace RcnsFile

def empty : RcnsFile := ⟨[], .empty⟩

def count (rows : List (String × ℚ)) (agentId : String) (start : ℚ) : Nat :=
  rows.countP fun row => row.1 = agentId && start ≤ row.2

def consume (file : RcnsFile) (agentId : String) (limit : Nat) (now : ℚ) :
    Bool × RcnsFile :=
  if limit = 0 then (false, file)
  else
    let kept := file.negotiations.filter (now - 60 ≤ ·.2)
    if limit ≤ count kept agentId (now - 60) then
      (true, { file with negotiations := kept })
    else (false, { file with negotiations := kept ++ [(agentId, now)] })

def getIdempotency (file : RcnsFile) (agentId key : String) (now : ℚ) :
    Option String × RcnsFile :=
  let kept := file.idempotency.filterValues (now < ·.2)
  (((kept.get? (agentId, key)).filter (now < ·.2)).map Prod.fst,
    { file with idempotency := kept })

def putIdempotency (file : RcnsFile) (agentId key synthesisId : String) (expiresAt : ℚ) :
    RcnsFile :=
  { file with
    idempotency := file.idempotency.set (agentId, key) (synthesisId, expiresAt) }

end RcnsFile

/-! ## Either of them -/

inductive RcnsStore where
  | memory (state : RcnsMemory)
  | file (state : RcnsFile)

namespace RcnsStore

def initial (durable : Bool) : RcnsStore :=
  if durable then file .empty else memory .empty

def limited (store : RcnsStore) (agentId : String) (limit : Nat) (now : ℚ) :
    Bool × RcnsStore :=
  match store with
  | memory state => (state.rateLimited agentId limit now, store)
  | file state =>
      let consumed := state.consume agentId limit now
      (consumed.1, file consumed.2)

/-- The lookup of an idempotency key; a request without one looks nothing up. -/
def lookup (store : RcnsStore) (agentId key : String) (windowSeconds : Nat) (now : ℚ) :
    Option String × RcnsStore :=
  if key = "" then (none, store)
  else
    match store with
    | memory state =>
        let found := state.idempotentLookup agentId key windowSeconds now
        (found.1, memory found.2)
    | file state =>
        let found := state.getIdempotency agentId key now
        (found.1, file found.2)

def record (store : RcnsStore) (agentId : String) (now : ℚ) : RcnsStore :=
  match store with
  | memory state => memory (state.recordNegotiation agentId now)
  | file _ => store

def bind (store : RcnsStore) (agentId key synthesisId : String) (windowSeconds : Nat)
    (now : ℚ) : RcnsStore :=
  if key = "" then store
  else
    match store with
    | memory state =>
        memory (state.idempotentRecord agentId key synthesisId windowSeconds now)
    | file state => file (state.putIdempotency agentId key synthesisId (now + windowSeconds))

/-! ## What a store knows -/

def charged (store : RcnsStore) (agentId : String) (start : ℚ) : Nat :=
  match store with
  | memory state => (state.timestamps agentId).countP (start ≤ ·)
  | file state => RcnsFile.count state.negotiations agentId start

def chargesEarly (store : RcnsStore) : Bool :=
  match store with
  | memory _ => false
  | file _ => true

def held (store : RcnsStore) (agentId key : String) : Option KeyBinding :=
  match store with
  | memory state => state.cache.get? (agentId, key)
  | file state => state.idempotency.get? (agentId, key)

def live (store : RcnsStore) (agentId key : String) (windowSeconds : Nat) (now : ℚ) :
    Option String :=
  if key = "" ∨ (store.chargesEarly = false ∧ windowSeconds = 0) then none
  else ((store.held agentId key).filter (now < ·.2)).map Prod.fst

theorem charged_initial (durable : Bool) (agentId : String) (start : ℚ) :
    (initial durable).charged agentId start = 0 := by
  cases durable <;> rfl

variable (store : RcnsStore) (agentId key : String)

/-! ### The limit check -/

theorem count_filter (rows : List (String × ℚ)) {oldest start : ℚ} (order : oldest ≤ start) :
    RcnsFile.count (rows.filter (oldest ≤ ·.2)) agentId start =
      RcnsFile.count rows agentId start := by
  unfold RcnsFile.count
  rw [List.countP_filter]
  refine List.countP_congr fun row _ => ?_
  simp only [Bool.and_eq_true, decide_eq_true_eq]
  exact ⟨And.left, fun counted => ⟨counted, order.trans counted.2⟩⟩

theorem limited_fst (limit : Nat) (now : ℚ) :
    (store.limited agentId limit now).1 =
      (limit ≠ 0 && limit ≤ store.charged agentId (now - 60)) := by
  cases store with
  | memory state => rfl
  | file state =>
      simp only [limited, RcnsFile.consume, count_filter agentId _ le_rfl, charged]
      by_cases unlimited : limit = 0
      · rw [if_pos unlimited, unlimited]
        rfl
      · rw [if_neg unlimited]
        split <;> next reached => simp [unlimited, reached]

theorem chargesEarly_limited (limit : Nat) (now : ℚ) :
    (store.limited agentId limit now).2.chargesEarly = store.chargesEarly := by
  cases store <;> rfl

theorem held_limited (limit : Nat) (now : ℚ) (other otherKey : String) :
    (store.limited agentId limit now).2.held other otherKey = store.held other otherKey := by
  cases store with
  | memory state => rfl
  | file state =>
      simp only [limited, RcnsFile.consume]
      split
      · rfl
      · split <;> rfl

theorem live_limited (limit : Nat) (now : ℚ) (other otherKey : String) (windowSeconds : Nat)
    (time : ℚ) :
    (store.limited agentId limit now).2.live other otherKey windowSeconds time =
      store.live other otherKey windowSeconds time := by
  simp only [live, chargesEarly_limited, held_limited]

theorem charged_limited (limit : Nat) (now : ℚ) (other : String) {start : ℚ}
    (recent : now - 60 ≤ start) :
    (store.limited agentId limit now).2.charged other start =
      store.charged other start +
        (store.chargesEarly && limit ≠ 0 && !(store.limited agentId limit now).1 &&
          (agentId = other && start ≤ now)).toNat := by
  cases store with
  | memory state => simp [limited, chargesEarly]
  | file state =>
      simp only [limited, RcnsFile.consume, chargesEarly, charged]
      by_cases unlimited : limit = 0
      · simp [unlimited]
      · rw [if_neg unlimited]
        split
        · simp only [count_filter other _ recent, Bool.not_true, Bool.and_false,
            Bool.false_and, Bool.toNat_false, Nat.add_zero]
        · rw [RcnsFile.count, List.countP_append, ← RcnsFile.count,
            count_filter other _ recent, List.countP_singleton]
          simp only [unlimited, ne_eq, not_false_eq_true, decide_true, Bool.not_false,
            Bool.and_true, Bool.true_and]
          cases decide (agentId = other) && decide (start ≤ now) <;> rfl

/-! ### The recording of an attempt -/

theorem chargesEarly_record (now : ℚ) :
    (store.record agentId now).chargesEarly = store.chargesEarly := by
  cases store <;> rfl

theorem live_record (now : ℚ) (other otherKey : String) (windowSeconds : Nat) (time : ℚ) :
    (store.record agentId now).live other otherKey windowSeconds time =
      store.live other otherKey windowSeconds time := by
  cases store <;> rfl

theorem timestamps_recordNegotiation (state : RcnsMemory) (now : ℚ) (other : String) :
    (state.recordNegotiation agentId now).timestamps other =
      if agentId = other then (state.timestamps agentId).filter (now - 60 ≤ ·) ++ [now]
      else state.timestamps other := by
  unfold RcnsMemory.recordNegotiation RcnsMemory.timestamps
  by_cases same : agentId = other
  · rw [if_pos same, same, Dict.get?_set_same]
    rfl
  · rw [if_neg same, Dict.get?_set_other _ (Ne.symm same)]

theorem charged_record (now : ℚ) (other : String) {start : ℚ} (recent : now - 60 ≤ start) :
    (store.record agentId now).charged other start =
      store.charged other start +
        (!store.chargesEarly && (agentId = other && start ≤ now)).toNat := by
  cases store with
  | file state => simp [record, chargesEarly]
  | memory state =>
      simp only [record, charged, chargesEarly, timestamps_recordNegotiation]
      by_cases same : agentId = other
      · rw [if_pos same, same, List.countP_append, List.countP_filter, List.countP_singleton]
        have kept : (state.timestamps other).countP
            (fun time => decide (start ≤ time) && decide (now - 60 ≤ time)) =
              (state.timestamps other).countP (start ≤ ·) := by
          refine List.countP_congr fun time _ => ?_
          simp only [Bool.and_eq_true, decide_eq_true_eq]
          exact ⟨And.left, fun counted => ⟨counted, recent.trans counted⟩⟩
        rw [kept]
        by_cases counted : start ≤ now <;> simp [counted]
      · simp [same]

/-! ### The lookup of a key -/

theorem chargesEarly_lookup (windowSeconds : Nat) (now : ℚ) :
    (store.lookup agentId key windowSeconds now).2.chargesEarly = store.chargesEarly := by
  unfold lookup
  split
  · rfl
  · cases store <;> rfl

theorem charged_lookup (windowSeconds : Nat) (now : ℚ) (other : String) (start : ℚ) :
    (store.lookup agentId key windowSeconds now).2.charged other start =
      store.charged other start := by
  unfold lookup
  split
  · rfl
  · cases store with
    | file state => rfl
    | memory state =>
        simp only [RcnsMemory.idempotentLookup]
        split
        · rfl
        · split
          · rfl
          · split <;> rfl

theorem lookup_fst (windowSeconds : Nat) (now : ℚ) :
    (store.lookup agentId key windowSeconds now).1 =
      store.live agentId key windowSeconds now := by
  unfold lookup live
  by_cases unkeyed : key = ""
  · rw [if_pos unkeyed, if_pos (.inl unkeyed)]
  · rw [if_neg unkeyed]
    cases store with
    | file state =>
        rw [if_neg (not_or.mpr ⟨unkeyed, fun early => nomatch early.1⟩)]
        simp only [RcnsFile.getIdempotency, held, Dict.get?_filterValues,
          Option.filter_filter, Bool.and_self]
    | memory state =>
        simp only [RcnsMemory.idempotentLookup, unkeyed, false_or, chargesEarly, true_and]
        split
        · rfl
        · simp only [held]
          cases state.cache.get? (agentId, key) with
          | none => rfl
          | some binding =>
              by_cases past : binding.2 ≤ now
              · simp [past, Option.filter, not_lt.mpr past]
              · simp [past, Option.filter, not_le.mp past]

theorem held_lookup (windowSeconds : Nat) {now time : ℚ} (later : now ≤ time)
    (other otherKey : String) :
    ((store.lookup agentId key windowSeconds now).2.held other otherKey).filter
        (time < ·.2) =
      (store.held other otherKey).filter (time < ·.2) := by
  unfold lookup
  split
  · rfl
  · cases store with
    | file state =>
        simp only [RcnsFile.getIdempotency, held, Dict.get?_filterValues,
          Option.filter_filter]
        congr 1
        funext binding
        by_cases live : time < binding.2
        · simp [live, later.trans_lt live]
        · simp [live]
    | memory state =>
        simp only [RcnsMemory.idempotentLookup]
        split
        · rfl
        · split
          · rfl
          · next synthesisId expiresAt found =>
              split
              · next past =>
                  simp only [held]
                  by_cases same : (other, otherKey) = (agentId, key)
                  · rw [same, Dict.get?_erase_same, found]
                    simp [Option.filter, not_lt.mpr (past.trans later)]
                  · rw [Dict.get?_erase_other _ same]
              · rfl

theorem live_lookup (windowSeconds : Nat) {now time : ℚ} (later : now ≤ time)
    (other otherKey : String) (otherWindow : Nat) :
    (store.lookup agentId key windowSeconds now).2.live other otherKey otherWindow time =
      store.live other otherKey otherWindow time := by
  simp only [live, chargesEarly_lookup, held_lookup store agentId key windowSeconds later]

/-! ### The recording of a key -/

theorem chargesEarly_bind (synthesisId : String) (windowSeconds : Nat) (now : ℚ) :
    (store.bind agentId key synthesisId windowSeconds now).chargesEarly =
      store.chargesEarly := by
  unfold bind
  split
  · rfl
  · cases store <;> rfl

theorem charged_bind (synthesisId : String) (windowSeconds : Nat) (now : ℚ) (other : String)
    (start : ℚ) :
    (store.bind agentId key synthesisId windowSeconds now).charged other start =
      store.charged other start := by
  unfold bind
  split
  · rfl
  · cases store with
    | file state => rfl
    | memory state =>
        simp only [RcnsMemory.idempotentRecord]
        split <;> rfl

theorem live_bind_other (synthesisId : String) (windowSeconds : Nat) (now : ℚ)
    {other otherKey : String} (different : (other, otherKey) ≠ (agentId, key))
    (otherWindow : Nat) (time : ℚ) :
    (store.bind agentId key synthesisId windowSeconds now).live other otherKey otherWindow
        time =
      store.live other otherKey otherWindow time := by
  have untouched : (store.bind agentId key synthesisId windowSeconds now).held other
      otherKey = store.held other otherKey := by
    unfold bind
    split
    · rfl
    · cases store with
      | file state => exact Dict.get?_set_other _ different _
      | memory state =>
          simp only [RcnsMemory.idempotentRecord]
          split
          · rfl
          · exact Dict.get?_set_other _ different _
  simp only [live, chargesEarly_bind, untouched]

theorem live_bind_same (keyed : key ≠ "") (synthesisId : String) (windowSeconds : Nat)
    {now time : ℚ} (later : now ≤ time) :
    (store.bind agentId key synthesisId windowSeconds now).live agentId key windowSeconds
        time =
      if time < now + windowSeconds then some synthesisId else none := by
  simp only [live, chargesEarly_bind]
  unfold bind
  rw [if_neg keyed]
  cases store with
  | file state =>
      rw [if_neg (not_or.mpr ⟨keyed, fun early => nomatch early.1⟩)]
      simp only [RcnsFile.putIdempotency, held, Dict.get?_set_same]
      by_cases live : time < now + windowSeconds <;> simp [Option.filter, live]
  | memory state =>
      by_cases disabled : windowSeconds = 0
      · rw [if_pos (.inr ⟨rfl, disabled⟩), disabled]
        simp [later]
      · rw [if_neg (not_or.mpr ⟨keyed, fun off => disabled off.2⟩)]
        simp only [RcnsMemory.idempotentRecord, keyed, disabled, or_self, if_false, held,
          Dict.get?_set_same]
        by_cases live : time < now + windowSeconds <;> simp [Option.filter, live]

theorem live_initial (durable : Bool) (windowSeconds : Nat) (now : ℚ) :
    (initial durable).live agentId key windowSeconds now = none := by
  unfold live
  split
  · rfl
  · cases durable <;> rfl

end RcnsStore

end Agtp
