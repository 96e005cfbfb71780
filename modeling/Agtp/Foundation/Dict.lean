import Mathlib.Data.List.Nodup

/-! # Insertion-ordered dictionaries

Python dictionaries keep their keys in order of first insertion and hold each key once. -/

namespace Agtp

structure Dict (Key : Type u) (Value : Type v) where
  entries : List (Key × Value)
  nodup : (entries.map Prod.fst).Nodup

namespace Dict

variable {Key : Type u} {Value : Type v}

/-! ## Entries -/

/-- Assignment to a key, on the list of entries. -/
def setEntries [DecidableEq Key] (key : Key) (value : Value) :
    List (Key × Value) → List (Key × Value)
  | [] => [(key, value)]
  | (other, held) :: rest =>
      if other = key then (key, value) :: rest
      else (other, held) :: setEntries key value rest

theorem keys_setEntries [DecidableEq Key] (key : Key) (value : Value)
    (entries : List (Key × Value)) :
    (setEntries key value entries).map Prod.fst =
      if key ∈ entries.map Prod.fst then entries.map Prod.fst
      else entries.map Prod.fst ++ [key] := by
  induction entries with
  | nil => simp [setEntries]
  | cons entry rest induction =>
      rcases entry with ⟨other, held⟩
      by_cases same : other = key
      · simp [setEntries, same]
      · have different : key ≠ other := fun equal => same equal.symm
        simp only [setEntries, same, if_false, List.map_cons, induction,
          List.mem_cons, different, false_or]
        split <;> simp

theorem nodup_setEntries [DecidableEq Key] (key : Key) (value : Value)
    {entries : List (Key × Value)} (nodup : (entries.map Prod.fst).Nodup) :
    ((setEntries key value entries).map Prod.fst).Nodup := by
  rw [keys_setEntries]
  split
  · exact nodup
  · next notMember =>
      rw [List.nodup_append]
      refine ⟨nodup, List.nodup_singleton key, ?_⟩
      intro left leftMember right rightMember equal
      rw [List.mem_singleton.mp rightMember] at equal
      exact notMember (equal ▸ leftMember)

/-- Assignment changes the first entry that a test accepts only where the
assigned key is that entry's own, or where no entry was accepted before. -/
theorem find?_setEntries [DecidableEq Key] (accepts : Key → Bool) (key : Key)
    (value : Value) (entries : List (Key × Value)) :
    (setEntries key value entries).find? (fun entry => accepts entry.1) =
      match entries.find? (fun entry => accepts entry.1) with
      | some (found, held) =>
          if found = key then some (key, value) else some (found, held)
      | none => if accepts key then some (key, value) else none := by
  induction entries with
  | nil => simp [setEntries, List.find?_cons]; split <;> simp_all
  | cons entry rest induction =>
      rcases entry with ⟨other, held⟩
      by_cases same : other = key
      · subst same
        cases accepted : accepts other with
        | true => simp [setEntries, accepted]
        | false =>
            simp only [setEntries, if_true, List.find?_cons, accepted]
            cases found : rest.find? (fun entry => accepts entry.1) with
            | none => simp
            | some entry =>
                rcases entry with ⟨later, laterHeld⟩
                have acceptedLater : accepts later = true := by
                  simpa using List.find?_some found
                have different : later ≠ other := by
                  intro equal
                  rw [equal, accepted] at acceptedLater
                  cases acceptedLater
                simp [different]
      · cases accepted : accepts other with
        | true => simp [setEntries, same, accepted]
        | false => simp [setEntries, same, accepted, induction]

/-! ## Operations -/

def empty : Dict Key Value := ⟨[], List.nodup_nil⟩

/-- `dictionary[key] = value`. -/
def set [DecidableEq Key] (dictionary : Dict Key Value) (key : Key)
    (value : Value) : Dict Key Value :=
  ⟨setEntries key value dictionary.entries,
    nodup_setEntries key value dictionary.nodup⟩

/-- Assign the pairs one after the other. -/
def ofList [DecidableEq Key] (pairs : List (Key × Value)) : Dict Key Value :=
  pairs.foldl (fun dictionary pair => dictionary.set pair.1 pair.2) empty

def get? [DecidableEq Key] (dictionary : Dict Key Value) (key : Key) :
    Option Value :=
  (dictionary.entries.find? fun entry => entry.1 = key).map Prod.snd

/-- The value of the first key that a test accepts. -/
def first? (dictionary : Dict Key Value) (accepts : Key → Bool) :
    Option (Key × Value) :=
  dictionary.entries.find? fun entry => accepts entry.1

/-- The value of the last key that a test accepts. -/
def last? (dictionary : Dict Key Value) (accepts : Key → Bool) :
    Option (Key × Value) :=
  dictionary.entries.reverse.find? fun entry => accepts entry.1

/-- The entries whose key a test keeps. -/
def filterKeys (dictionary : Dict Key Value) (keeps : Key → Bool) :
    Dict Key Value :=
  ⟨dictionary.entries.filter fun entry => keeps entry.1,
    dictionary.nodup.sublist (List.filter_sublist.map Prod.fst)⟩

/-- The entries whose value a test keeps. -/
def filterValues (dictionary : Dict Key Value) (keeps : Value → Bool) :
    Dict Key Value :=
  ⟨dictionary.entries.filter fun entry => keeps entry.2,
    dictionary.nodup.sublist (List.filter_sublist.map Prod.fst)⟩

/-- `dictionary.pop(key, None)`. -/
def erase [DecidableEq Key] (dictionary : Dict Key Value) (key : Key) :
    Dict Key Value :=
  dictionary.filterKeys fun held => held ≠ key

def keys (dictionary : Dict Key Value) : List Key :=
  dictionary.entries.map Prod.fst

theorem first?_set [DecidableEq Key] (dictionary : Dict Key Value)
    (accepts : Key → Bool) (key : Key) (value : Value) :
    (dictionary.set key value).first? accepts =
      match dictionary.first? accepts with
      | some (found, held) =>
          if found = key then some (key, value) else some (found, held)
      | none => if accepts key then some (key, value) else none :=
  find?_setEntries accepts key value dictionary.entries

theorem get?_eq_first? [DecidableEq Key] (dictionary : Dict Key Value)
    (key : Key) :
    dictionary.get? key =
      (dictionary.first? fun held => held = key).map Prod.snd := rfl

@[simp] theorem get?_set_same [DecidableEq Key] (dictionary : Dict Key Value)
    (key : Key) (value : Value) :
    (dictionary.set key value).get? key = some value := by
  rw [get?_eq_first?, first?_set]
  split
  · next found held firstFound =>
      have same : found = key := by simpa using List.find?_some firstFound
      simp [same]
  · simp

theorem get?_set_other [DecidableEq Key] (dictionary : Dict Key Value)
    {key other : Key} (different : other ≠ key) (value : Value) :
    (dictionary.set key value).get? other = dictionary.get? other := by
  rw [get?_eq_first?, get?_eq_first?, first?_set]
  split
  · next found held firstFound =>
      have same : found = other := by simpa using List.find?_some firstFound
      have notKey : found ≠ key := fun equal => different (same ▸ equal)
      simp [notKey, firstFound]
  · next firstFound =>
      have notOther : key ≠ other := fun equal => different equal.symm
      simp [notOther, firstFound]

@[simp] theorem get?_erase_same [DecidableEq Key] (dictionary : Dict Key Value)
    (key : Key) : (dictionary.erase key).get? key = none := by
  simp [get?, erase, filterKeys, List.find?_filter]

theorem get?_erase_other [DecidableEq Key] (dictionary : Dict Key Value)
    {key other : Key} (different : other ≠ key) :
    (dictionary.erase key).get? other = dictionary.get? other := by
  unfold get? erase filterKeys
  rw [List.find?_filter]
  congr 2
  funext entry
  by_cases same : entry.1 = other
  · simp [same, different]
  · simp [same]

theorem get?_ofList [DecidableEq Key] (pairs : List (Key × Value)) (key : Key) :
    (ofList pairs).get? key =
      (pairs.reverse.find? fun pair => pair.1 = key).map Prod.snd := by
  rw [← pairs.reverse_reverse]
  generalize pairs.reverse = reversed
  rw [List.reverse_reverse]
  induction reversed with
  | nil => rfl
  | cons pair rest induction =>
      have step : ofList ((pair :: rest).reverse) =
          (ofList rest.reverse).set pair.1 pair.2 := by
        simp [ofList, List.foldl_append]
      rw [step, List.find?_cons]
      by_cases same : pair.1 = key
      · rw [same, get?_set_same]
        simp
      · have different : key ≠ pair.1 := fun equal => same equal.symm
        rw [get?_set_other _ different, induction]
        simp [same]

theorem first?_filterKeys_none (dictionary : Dict Key Value)
    {accepts keeps : Key → Bool}
    (dropped : ∀ key, accepts key = true → keeps key = false) :
    (dictionary.filterKeys keeps).first? accepts = none := by
  unfold first? filterKeys
  rw [List.find?_filter]
  rw [List.find?_eq_none]
  intro entry _
  cases accepted : accepts entry.1 with
  | true => simp [dropped entry.1 accepted]
  | false => simp

theorem first?_filterKeys_kept (dictionary : Dict Key Value)
    {accepts keeps : Key → Bool}
    (kept : ∀ key, accepts key = true → keeps key = true) :
    (dictionary.filterKeys keeps).first? accepts = dictionary.first? accepts := by
  unfold first? filterKeys
  rw [List.find?_filter]
  congr 1
  funext entry
  cases accepted : accepts entry.1 with
  | true => simp [kept entry.1 accepted]
  | false => simp

/-! ## Entries as members -/

theorem eq_of_entries {first second : Dict Key Value}
    (same : first.entries = second.entries) : first = second := by
  cases first
  cases second
  cases same
  rfl

theorem keys_set [DecidableEq Key] (dictionary : Dict Key Value) (key : Key)
    (value : Value) :
    (dictionary.set key value).keys =
      if key ∈ dictionary.keys then dictionary.keys else dictionary.keys ++ [key] :=
  keys_setEntries key value dictionary.entries

theorem mem_keys_set [DecidableEq Key] {dictionary : Dict Key Value} {key other : Key}
    {value : Value} (member : other ∈ (dictionary.set key value).keys) :
    other ∈ dictionary.keys ∨ other = key := by
  rw [keys_set] at member
  split at member
  · exact .inl member
  · simpa using member

theorem entries_set_of_notMem [DecidableEq Key] {dictionary : Dict Key Value} {key : Key}
    (fresh : key ∉ dictionary.keys) (value : Value) :
    (dictionary.set key value).entries = dictionary.entries ++ [(key, value)] := by
  have appended (entries : List (Key × Value)) (fresh : key ∉ entries.map Prod.fst) :
      setEntries key value entries = entries ++ [(key, value)] := by
    induction entries with
    | nil => rfl
    | cons entry rest induction =>
        simp only [List.map_cons, List.mem_cons, not_or] at fresh
        simp [setEntries, Ne.symm fresh.1, induction fresh.2]
  exact appended dictionary.entries fresh

theorem mem_keys_set_iff [DecidableEq Key] {dictionary : Dict Key Value} {key other : Key}
    {value : Value} :
    other ∈ (dictionary.set key value).keys ↔ other ∈ dictionary.keys ∨ other = key := by
  refine ⟨mem_keys_set, ?_⟩
  rw [keys_set]
  rintro (held | rfl)
  · split
    · exact held
    · exact List.mem_append_left _ held
  · split
    · assumption
    · exact List.mem_append_right _ (List.mem_singleton.mpr rfl)

theorem mem_keys_of_erase [DecidableEq Key] {dictionary : Dict Key Value}
    {key other : Key} (member : other ∈ (dictionary.erase key).keys) :
    other ∈ dictionary.keys := by
  rcases List.mem_map.mp member with ⟨entry, kept, rfl⟩
  exact List.mem_map_of_mem (List.mem_of_mem_filter kept)

theorem get?_eq_some_iff [DecidableEq Key] (dictionary : Dict Key Value)
    {key : Key} {value : Value} :
    dictionary.get? key = some value ↔ (key, value) ∈ dictionary.entries := by
  constructor
  · intro held
    rcases Option.map_eq_some_iff.mp held with ⟨entry, found, rfl⟩
    have same : entry.1 = key := by simpa using List.find?_some found
    rw [← same]
    exact List.mem_of_find?_eq_some found
  · intro member
    cases found : dictionary.entries.find? fun entry => entry.1 = key with
    | none =>
        have missing := List.find?_eq_none.mp found (key, value) member
        simp at missing
    | some entry =>
        have same : entry.1 = key := by simpa using List.find?_some found
        have equal : entry = (key, value) :=
          List.inj_on_of_nodup_map dictionary.nodup (List.mem_of_find?_eq_some found)
            member same
        rw [get?, found, equal]
        rfl

theorem filter_key [DecidableEq Key] (dictionary : Dict Key Value) (key : Key) :
    dictionary.entries.filter (fun entry => entry.1 = key) =
      ((dictionary.get? key).map (key, ·)).toList := by
  rcases dictionary with ⟨entries, nodup⟩
  unfold get?
  induction entries with
  | nil => rfl
  | cons entry rest induction =>
      rcases entry with ⟨other, value⟩
      rcases List.nodup_cons.mp nodup with ⟨notMember, restNodup⟩
      by_cases same : other = key
      · have others : rest.filter (fun entry => decide (entry.1 = key)) = [] := by
          rw [List.filter_eq_nil_iff]
          intro entry member
          have different : entry.1 ≠ key := fun equal =>
            notMember (List.mem_map.mpr ⟨entry, member, equal.trans same.symm⟩)
          simpa using different
        simp [same, others]
      · simpa [same] using induction restNodup

theorem mem_of_set [DecidableEq Key] {dictionary : Dict Key Value} {key : Key}
    {value : Value} {entry : Key × Value}
    (member : entry ∈ (dictionary.set key value).entries) :
    entry ∈ dictionary.entries ∨ entry = (key, value) := by
  have held := (get?_eq_some_iff _).mpr member
  by_cases same : entry.1 = key
  · rw [same, get?_set_same] at held
    exact .inr (Prod.ext same (Option.some.inj held).symm)
  · rw [get?_set_other _ same] at held
    exact .inl ((get?_eq_some_iff _).mp held)

theorem mem_keys_of_get? [DecidableEq Key] (dictionary : Dict Key Value) {key : Key}
    {value : Value} (held : dictionary.get? key = some value) :
    key ∈ dictionary.keys :=
  List.mem_map.mpr ⟨(key, value), (get?_eq_some_iff dictionary).mp held, rfl⟩

theorem get?_filterValues [DecidableEq Key] (dictionary : Dict Key Value)
    (keeps : Value → Bool) (key : Key) :
    (dictionary.filterValues keeps).get? key = (dictionary.get? key).filter keeps := by
  apply Option.ext
  intro value
  rw [get?_eq_some_iff, Option.filter_eq_some_iff, get?_eq_some_iff]
  simp [filterValues]

theorem mem_keys_of_filterValues {dictionary : Dict Key Value} {keeps : Value → Bool}
    {key : Key} (member : key ∈ (dictionary.filterValues keeps).keys) :
    key ∈ dictionary.keys :=
  (List.filter_sublist.map Prod.fst).subset member

theorem entries_of_keys [DecidableEq Key] {dictionary later : Dict Key Value}
    (same : later.keys = dictionary.keys) :
    later.entries = dictionary.entries.map fun entry =>
      (entry.1, (later.get? entry.1).getD entry.2) := by
  have lengths : later.entries.length = dictionary.entries.length := by
    simpa [keys] using congrArg List.length same
  apply List.ext_getElem
  · simpa using lengths
  · intro index first second
    have bound : index < dictionary.entries.length := by omega
    have key : later.entries[index].1 = dictionary.entries[index].1 := by
      have sameAt := congrArg (fun keys => keys[index]?) same
      simpa [keys, first, bound] using sameAt
    have held : later.get? later.entries[index].1 = some later.entries[index].2 :=
      (get?_eq_some_iff later).mpr (List.getElem_mem first)
    rw [List.getElem_map, ← key, held]
    rfl

theorem mem_keys_erase [DecidableEq Key] {dictionary : Dict Key Value} {key other : Key} :
    other ∈ (dictionary.erase key).keys ↔ other ∈ dictionary.keys ∧ other ≠ key := by
  simp only [keys, erase, filterKeys, List.mem_map, List.mem_filter, decide_eq_true_eq]
  constructor
  · rintro ⟨entry, ⟨member, different⟩, rfl⟩
    exact ⟨⟨entry, member, rfl⟩, different⟩
  · rintro ⟨⟨entry, member, rfl⟩, different⟩
    exact ⟨entry, ⟨member, different⟩, rfl⟩

theorem ofList_entries [DecidableEq Key] (dictionary : Dict Key Value) :
    ofList dictionary.entries = dictionary := by
  have steps (rest : List (Key × Value)) (built : Dict Key Value)
      (fresh : ∀ entry ∈ rest, entry.1 ∉ built.keys) (distinct : (rest.map Prod.fst).Nodup) :
      (rest.foldl (fun dictionary pair => dictionary.set pair.1 pair.2) built).entries =
        built.entries ++ rest := by
    induction rest generalizing built with
    | nil => simp
    | cons entry rest induction =>
        rw [List.map_cons, List.nodup_cons] at distinct
        have appended := entries_set_of_notMem (fresh entry List.mem_cons_self) entry.2
        rw [List.foldl_cons, induction _ ?_ distinct.2, appended, List.append_assoc]
        · rfl
        · intro other member
          rw [mem_keys_set_iff]
          rintro (held | same)
          · exact fresh other (List.mem_cons_of_mem _ member) held
          · exact distinct.1 (same ▸ List.mem_map_of_mem member)
  exact eq_of_entries
    (steps dictionary.entries empty (fun _ _ => List.not_mem_nil) dictionary.nodup)

theorem get?_ofList_of_perm [DecidableEq Key] (dictionary : Dict Key Value)
    {pairs : List (Key × Value)} (permuted : pairs.Perm dictionary.entries) (key : Key) :
    (ofList pairs).get? key = dictionary.get? key := by
  have distinct := (permuted.map Prod.fst).nodup_iff.mpr dictionary.nodup
  have built : ofList pairs = ⟨pairs, distinct⟩ := ofList_entries ⟨pairs, distinct⟩
  apply Option.ext
  intro value
  rw [built, get?_eq_some_iff, get?_eq_some_iff]
  exact permuted.mem_iff

/-! ## Values -/

def mapValues (dictionary : Dict Key Value) (change : Value → Value) : Dict Key Value where
  entries := dictionary.entries.map fun entry => (entry.1, change entry.2)
  nodup := by
    rw [List.map_map]
    exact dictionary.nodup

theorem get?_mapValues [DecidableEq Key] (dictionary : Dict Key Value)
    (change : Value → Value) (key : Key) :
    (dictionary.mapValues change).get? key = (dictionary.get? key).map change := by
  unfold get? mapValues
  rw [List.find?_map, Option.map_map, Option.map_map]
  rfl

theorem keys_mapValues (dictionary : Dict Key Value) (change : Value → Value) :
    (dictionary.mapValues change).keys = dictionary.keys := by
  simp [keys, mapValues, Function.comp_def]

/-! ## Defaults -/

/-- `dictionary.setdefault(key, value)`. -/
def setDefault [DecidableEq Key] (dictionary : Dict Key Value) (key : Key)
    (value : Value) : Dict Key Value :=
  match dictionary.get? key with
  | some _ => dictionary
  | none => dictionary.set key value

theorem get?_setDefault_same [DecidableEq Key] (dictionary : Dict Key Value) (key : Key)
    (value : Value) :
    (dictionary.setDefault key value).get? key =
      some ((dictionary.get? key).getD value) := by
  unfold setDefault
  cases held : dictionary.get? key with
  | none => simp
  | some other => simp [held]

theorem get?_setDefault_other [DecidableEq Key] (dictionary : Dict Key Value)
    {key other : Key} (different : other ≠ key) (value : Value) :
    (dictionary.setDefault key value).get? other = dictionary.get? other := by
  unfold setDefault
  split
  · rfl
  · exact get?_set_other dictionary different value

/-! ## Entries that a test accepts -/

/-- The entries whose key a test accepts, in order. -/
def matching (dictionary : Dict Key Value) (accepts : Key → Bool) :
    List (Key × Value) :=
  dictionary.entries.filter fun entry => accepts entry.1

theorem first?_eq_matching (dictionary : Dict Key Value) (accepts : Key → Bool) :
    dictionary.first? accepts = (dictionary.matching accepts).head? :=
  List.head?_filter.symm

theorem matching_set_other [DecidableEq Key] (dictionary : Dict Key Value)
    {accepts : Key → Bool} {key : Key} (other : accepts key = false) (value : Value) :
    (dictionary.set key value).matching accepts = dictionary.matching accepts := by
  have general (entries : List (Key × Value)) :
      (setEntries key value entries).filter (fun entry => accepts entry.1) =
        entries.filter fun entry => accepts entry.1 := by
    induction entries with
    | nil => simp [setEntries, other]
    | cons entry rest induction =>
        rcases entry with ⟨held, value⟩
        by_cases same : held = key
        · simp [setEntries, same, other]
        · simp [setEntries, same, List.filter_cons, induction]
  exact general dictionary.entries

theorem matching_filterKeys_kept (dictionary : Dict Key Value)
    {accepts keeps : Key → Bool}
    (kept : ∀ key, accepts key = true → keeps key = true) :
    (dictionary.filterKeys keeps).matching accepts = dictionary.matching accepts := by
  unfold matching filterKeys
  rw [List.filter_filter]
  congr 1
  funext entry
  cases accepted : accepts entry.1 with
  | true => simp [kept entry.1 accepted]
  | false => simp

theorem matching_eq_nil (dictionary : Dict Key Value) {accepts : Key → Bool}
    (none : ∀ key ∈ dictionary.keys, accepts key = false) :
    dictionary.matching accepts = [] := by
  unfold matching
  rw [List.filter_eq_nil_iff]
  intro entry member
  simp [none entry.1 (List.mem_map_of_mem member)]

end Dict

end Agtp
