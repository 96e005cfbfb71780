import Agtp.Foundation.Dict
import Mathlib.Data.Finset.Basic

/-! # Dictionaries whose values know their key

`{id(value): value for value in values}`: the last value of each key, in the order in
which the keys came first. -/

namespace Agtp

universe u v

structure ById {Value : Type u} {Key : Type v} (id : Value → Key) where
  values : List Value
  distinct : (values.map id).Nodup

namespace ById

variable {Value : Type u} {Key : Type v} [DecidableEq Key] {id : Value → Key}

/-! ## Operations -/

/-- Assignment, on the list of values. -/
def putValue (id : Value → Key) (value : Value) : List Value → List Value
  | [] => [value]
  | held :: rest =>
      if id held = id value then value :: rest else held :: putValue id value rest

theorem ids_putValue (value : Value) (values : List Value) :
    (putValue id value values).map id =
      if id value ∈ values.map id then values.map id else values.map id ++ [id value] := by
  induction values with
  | nil => simp [putValue]
  | cons held rest induction =>
      by_cases same : id held = id value
      · simp [putValue, same]
      · have different : id value ≠ id held := fun equal => same equal.symm
        simp only [putValue, same, if_false, List.map_cons, induction, List.mem_cons, different,
          false_or]
        split <;> simp

def empty : ById id := ⟨[], List.nodup_nil⟩

def ids (dictionary : ById id) : List Key :=
  dictionary.values.map id

/-- `dictionary[id(value)] = value`. -/
def put (dictionary : ById id) (value : Value) : ById id where
  values := putValue id value dictionary.values
  distinct := by
    rw [ids_putValue]
    split
    · exact dictionary.distinct
    · next new =>
        refine dictionary.distinct.append (List.nodup_singleton (id value)) ?_
        intro key held single
        exact new (List.mem_singleton.mp single ▸ held)

/-- Assign the values one after the other. -/
def putAll (dictionary : ById id) (values : List Value) : ById id :=
  values.foldl put dictionary

def ofList (values : List Value) : ById id :=
  empty.putAll values

/-! ## What they hold -/

omit [DecidableEq Key] in
theorem mem_ids {dictionary : ById id} {key : Key} :
    key ∈ dictionary.ids ↔ ∃ value ∈ dictionary.values, id value = key :=
  List.mem_map

theorem mem_ids_put {dictionary : ById id} {value : Value} {key : Key} :
    key ∈ (dictionary.put value).ids ↔ key ∈ dictionary.ids ∨ key = id value := by
  rw [ids, put, ids_putValue]
  split
  · next held =>
      constructor
      · exact Or.inl
      · intro either
        rcases either with there | same
        · exact there
        · rw [same]
          exact held
  · simp [ids]

theorem values_put_of_new {dictionary : ById id} {value : Value}
    (new : id value ∉ dictionary.ids) :
    (dictionary.put value).values = dictionary.values ++ [value] := by
  have appended (values : List Value) (absent : id value ∉ values.map id) :
      putValue id value values = values ++ [value] := by
    induction values with
    | nil => rfl
    | cons held rest induction =>
        rw [List.map_cons, List.mem_cons, not_or] at absent
        rw [putValue, if_neg fun same => absent.1 same.symm, induction absent.2]
        rfl
  exact appended dictionary.values new

theorem mem_values_put {dictionary : ById id} {value other : Value}
    (member : other ∈ (dictionary.put value).values) :
    other = value ∨ other ∈ dictionary.values := by
  have either (values : List Value) (inside : other ∈ putValue id value values) :
      other = value ∨ other ∈ values := by
    induction values with
    | nil => exact .inl (List.mem_singleton.mp inside)
    | cons held rest induction =>
        rw [putValue] at inside
        split at inside
        · exact (List.mem_cons.mp inside).imp_right (List.mem_cons_of_mem held)
        · rcases List.mem_cons.mp inside with same | later
          · exact .inr (same ▸ List.mem_cons_self)
          · exact (induction later).imp_right (List.mem_cons_of_mem held)
  exact either dictionary.values member

theorem mem_values_putAll {dictionary : ById id} {values : List Value} {other : Value}
    (member : other ∈ (dictionary.putAll values).values) :
    other ∈ values ∨ other ∈ dictionary.values := by
  induction values generalizing dictionary with
  | nil => exact .inr member
  | cons value rest induction =>
      rcases induction member with later | held
      · exact .inl (List.mem_cons_of_mem value later)
      · rcases mem_values_put held with same | before
        · exact .inl (same ▸ List.mem_cons_self)
        · exact .inr before

theorem values_putAll_of_new {dictionary : ById id} {values : List Value}
    (distinct : (values.map id).Nodup) (new : ∀ value ∈ values, id value ∉ dictionary.ids) :
    (dictionary.putAll values).values = dictionary.values ++ values := by
  induction values generalizing dictionary with
  | nil => simp [putAll]
  | cons value rest induction =>
      rw [List.map_cons, List.nodup_cons] at distinct
      have first := values_put_of_new (new value List.mem_cons_self)
      rw [putAll, List.foldl_cons, ← putAll, induction distinct.2, first, List.append_assoc]
      · rfl
      · intro later member held
        rcases mem_ids_put.mp held with before | same
        · exact new later (List.mem_cons_of_mem value member) before
        · exact distinct.1 (same ▸ List.mem_map_of_mem member)

theorem values_ofList {values : List Value} (distinct : (values.map id).Nodup) :
    (ofList values : ById id).values = values :=
  values_putAll_of_new distinct fun _ _ held => absurd held List.not_mem_nil

theorem mem_of_mem_ofList {values : List Value} {value : Value}
    (member : value ∈ (ofList values : ById id).values) : value ∈ values :=
  (mem_values_putAll member).resolve_right List.not_mem_nil

end ById

end Agtp

/-! ## Inverted indexes

For each key the set of its members, where no set is empty. A member is entered under
a list of keys, and dropped from all of them at once. -/

namespace Agtp

structure InvertedIndex (Key : Type u) (Member : Type v) [DecidableEq Key]
    [DecidableEq Member] where
  sets : Dict Key (Finset Member)

namespace InvertedIndex

variable {Key : Type u} {Member : Type v} [DecidableEq Key] [DecidableEq Member]

def empty : InvertedIndex Key Member := ⟨.empty⟩

def members (index : InvertedIndex Key Member) (key : Key) : Finset Member :=
  (index.sets.get? key).getD ∅

/-- Enter a member under a key. -/
def add (index : InvertedIndex Key Member) (member : Member) (key : Key) :
    InvertedIndex Key Member :=
  ⟨index.sets.set key (insert member (index.members key))⟩

def addAll (index : InvertedIndex Key Member) (member : Member) (keys : List Key) :
    InvertedIndex Key Member :=
  keys.foldl (fun index key => index.add member key) index

/-- Take a member out of every set, and leave out the sets that become empty. -/
def drop (index : InvertedIndex Key Member) (member : Member) :
    InvertedIndex Key Member :=
  ⟨(index.sets.mapValues (·.erase member)).filterValues (· ≠ ∅)⟩

@[simp] theorem members_empty (key : Key) :
    (empty : InvertedIndex Key Member).members key = ∅ := rfl

theorem members_add (index : InvertedIndex Key Member) (member : Member)
    (key other : Key) :
    (index.add member key).members other =
      if other = key then insert member (index.members other)
      else index.members other := by
  unfold add
  by_cases same : other = key
  · rw [if_pos same, same]
    unfold members
    rw [Dict.get?_set_same]
    rfl
  · rw [if_neg same]
    unfold members
    rw [Dict.get?_set_other _ same]

theorem members_drop (index : InvertedIndex Key Member) (member : Member) (key : Key) :
    (index.drop member).members key = (index.members key).erase member := by
  unfold drop members
  rw [Dict.get?_filterValues, Dict.get?_mapValues]
  cases index.sets.get? key with
  | none => simp
  | some set =>
      by_cases empty : set.erase member = ∅
      · simp [Option.filter, empty]
      · simp [Option.filter, empty]

theorem mem_addAll (index : InvertedIndex Key Member) (member other : Member)
    (keys : List Key) (key : Key) :
    other ∈ (index.addAll member keys).members key ↔
      other ∈ index.members key ∨ other = member ∧ key ∈ keys := by
  induction keys generalizing index with
  | nil => simp [addAll]
  | cons first rest induction =>
      change other ∈ ((index.add member first).addAll member rest).members key ↔ _
      rw [induction, members_add, List.mem_cons]
      by_cases same : key = first
      · rw [if_pos same, Finset.mem_insert]
        tauto
      · rw [if_neg same]
        tauto

end InvertedIndex

end Agtp
