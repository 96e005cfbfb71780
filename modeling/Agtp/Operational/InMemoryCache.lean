import Agtp.Foundation.Dict
import Mathlib.Order.Lattice

/-! # The response cache

The backend of `mod_cache`: entries in the order of their last use, each with the
time at which it expires. -/

namespace Agtp

structure CacheEntry (Value Time : Type) where
  value : Value
  expiresAt : Time

structure InMemoryCache (Value Time : Type) where
  maxEntries : Int
  defaultTtl : Time
  entries : Dict String (CacheEntry Value Time)

namespace InMemoryCache

variable {Value Time : Type} [LinearOrder Time] [Add Time]

def new (maxEntries : Int) (defaultTtl : Time) : InMemoryCache Value Time :=
  ⟨maxEntries, defaultTtl, .empty⟩

/-- An expired entry is dropped, a fresh one becomes the last used. -/
def get (now : Time) (key : String) (cache : InMemoryCache Value Time) :
    Option Value × InMemoryCache Value Time :=
  match cache.entries.get? key with
  | none => (none, cache)
  | some entry =>
      if entry.expiresAt ≤ now then
        (none, { cache with entries := cache.entries.erase key })
      else
        (some entry.value,
          { cache with entries := (cache.entries.erase key).set key entry })

/-- `while len(self._entries) >= self.max_entries: popitem(last=False)`, which
raises on an empty cache. -/
def popWhileFull (maxEntries : Int) :
    List (String × CacheEntry Value Time) → Option (List (String × CacheEntry Value Time))
  | [] => if maxEntries ≤ 0 then none else some []
  | entry :: rest =>
      if maxEntries ≤ rest.length + 1 then popWhileFull maxEntries rest
      else some (entry :: rest)

omit [LinearOrder Time] [Add Time] in
theorem suffix_of_popWhileFull {maxEntries : Int}
    {entries kept : List (String × CacheEntry Value Time)}
    (popped : popWhileFull maxEntries entries = some kept) : kept <:+ entries := by
  induction entries with
  | nil =>
      unfold popWhileFull at popped
      split at popped
      · cases popped
      · cases popped
        exact List.suffix_refl []
  | cons entry rest induction =>
      unfold popWhileFull at popped
      split at popped
      · exact (induction popped).trans (List.suffix_cons entry rest)
      · cases popped
        exact List.suffix_refl _

def makeRoom (cache : InMemoryCache Value Time) :
    Option (Dict String (CacheEntry Value Time)) :=
  match popped : popWhileFull cache.maxEntries cache.entries.entries with
  | none => none
  | some kept =>
      some ⟨kept, cache.entries.nodup.sublist
        ((suffix_of_popWhileFull popped).sublist.map Prod.fst)⟩

def set (now : Time) (key : String) (value : Value) (cache : InMemoryCache Value Time) :
    Except Unit Unit × InMemoryCache Value Time :=
  let entry : CacheEntry Value Time := ⟨value, now + cache.defaultTtl⟩
  if (cache.entries.get? key).isSome then
    (.ok (), { cache with entries := (cache.entries.erase key).set key entry })
  else
    match cache.makeRoom with
    | some room => (.ok (), { cache with entries := room.set key entry })
    | none => (.error (), { cache with entries := .empty })

/-! ## What the cache holds -/

section Holding

variable {cache : InMemoryCache Value Time} {now : Time} {key other : String}
  {entry : CacheEntry Value Time}

omit [LinearOrder Time] [Add Time] in
theorem get?_of_erase (held : (cache.entries.erase key).get? other = some entry) :
    cache.entries.get? other = some entry := by
  by_cases same : other = key
  · rw [same, Dict.get?_erase_same] at held
    cases held
  · rwa [Dict.get?_erase_other _ same] at held

omit [Add Time] in
theorem get?_of_get (held : (cache.get now key).2.entries.get? other = some entry) :
    cache.entries.get? other = some entry := by
  unfold get at held
  split at held
  · exact held
  · next found =>
      split at held
      · exact get?_of_erase held
      · by_cases same : other = key
        · subst same
          rw [Dict.get?_set_same] at held
          cases held
          exact found
        · rw [Dict.get?_set_other _ same] at held
          exact get?_of_erase held

omit [Add Time] in
theorem get?_of_hit {value : Value} (hit : (cache.get now key).1 = some value) :
    ∃ entry, cache.entries.get? key = some entry ∧ entry.value = value ∧
      now < entry.expiresAt := by
  unfold get at hit
  split at hit
  · cases hit
  · next entry found =>
      split at hit
      · cases hit
      · next fresh =>
          cases hit
          exact ⟨entry, found, rfl, not_le.mp fresh⟩

omit [LinearOrder Time] [Add Time] in
theorem get?_of_makeRoom {room : Dict String (CacheEntry Value Time)}
    (made : cache.makeRoom = some room) (held : room.get? other = some entry) :
    cache.entries.get? other = some entry := by
  unfold makeRoom at made
  split at made
  · cases made
  · next kept popped =>
      cases made
      rw [Dict.get?_eq_some_iff] at held ⊢
      exact (suffix_of_popWhileFull popped).mem held

omit [LinearOrder Time] in
theorem get?_of_set {value : Value}
    (held : (cache.set now key value).2.entries.get? other = some entry) :
    cache.entries.get? other = some entry ∨ other = key ∧ entry.value = value := by
  unfold set at held
  simp only at held
  split at held
  · by_cases same : other = key
    · subst same
      rw [Dict.get?_set_same] at held
      cases held
      exact .inr ⟨rfl, rfl⟩
    · rw [Dict.get?_set_other _ same] at held
      exact .inl (get?_of_erase held)
  · split at held
    · next room made =>
        by_cases same : other = key
        · subst same
          rw [Dict.get?_set_same] at held
          cases held
          exact .inr ⟨rfl, rfl⟩
        · rw [Dict.get?_set_other _ same] at held
          exact .inl (get?_of_makeRoom made held)
    · cases held

end Holding

end InMemoryCache

end Agtp
