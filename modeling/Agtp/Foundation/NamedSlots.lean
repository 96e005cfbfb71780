import Mathlib.Data.List.Basic
import Mathlib.Data.Set.Function

/-! # Slots that are found by a name

Values are kept in slots. -/

namespace Agtp.NamedSlots

variable {Key Name Value : Type*} [DecidableEq Name]

/-- The slots after a write. -/
def put (name : Key → Name) (slots : Name → Value) (write : Key × Value) : Name → Value :=
  Function.update slots (name write.1) write.2

def putAll (name : Key → Name) (slots : Name → Value) (writes : List (Key × Value)) :
    Name → Value :=
  writes.foldl (put name) slots

/-- The value of the last write to a key. -/
def lastFor [DecidableEq Key] (key : Key) : List (Key × Value) → Option Value
  | [] => none
  | write :: rest => (lastFor key rest).or (if write.1 = key then some write.2 else none)

variable (name : Key → Name)

theorem putAll_cons (slots : Name → Value) (write : Key × Value)
    (rest : List (Key × Value)) :
    putAll name slots (write :: rest) = putAll name (put name slots write) rest := rfl

theorem putAll_apply (slots : Name → Value) (writes : List (Key × Value)) (slot : Name) :
    putAll name slots writes slot =
      (lastFor slot (writes.map fun write => (name write.1, write.2))).getD (slots slot) := by
  induction writes generalizing slots with
  | nil => rfl
  | cons write rest induction =>
      rw [putAll_cons, induction, List.map_cons, lastFor, Option.getD_or]
      congr 1
      rw [put, Function.update_apply]
      by_cases same : slot = name write.1
      · rw [if_pos same, if_pos same.symm, Option.getD_some]
      · rw [if_neg same, if_neg (Ne.symm same), Option.getD_none]

variable {name}

/-- Where names are told apart, the last write under the name of a key is the last write to
the key. -/
theorem lastFor_name [DecidableEq Key] {keys : Set Key} (distinct : Set.InjOn name keys)
    {writes : List (Key × Value)} (among : ∀ write ∈ writes, write.1 ∈ keys) {key : Key}
    (known : key ∈ keys) :
    lastFor (name key) (writes.map fun write => (name write.1, write.2)) =
      lastFor key writes := by
  induction writes with
  | nil => rfl
  | cons write rest induction =>
      rw [List.map_cons, lastFor, lastFor,
        induction fun other member => among other (List.mem_cons_of_mem _ member)]
      congr 1
      have same : name write.1 = name key ↔ write.1 = key :=
        distinct.eq_iff (among write List.mem_cons_self) known
      simp only [same]

theorem putAll_of_injOn [DecidableEq Key] {keys : Set Key} (distinct : Set.InjOn name keys)
    (slots : Name → Value) {writes : List (Key × Value)}
    (among : ∀ write ∈ writes, write.1 ∈ keys) {key : Key} (known : key ∈ keys) :
    putAll name slots writes (name key) = (lastFor key writes).getD (slots (name key)) := by
  rw [putAll_apply, lastFor_name distinct among known]

end Agtp.NamedSlots
