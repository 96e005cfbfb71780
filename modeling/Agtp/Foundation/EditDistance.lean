import Mathlib.Data.List.Basic
import Mathlib.Order.Bounds.Basic
import Mathlib.Order.MinMax

/-! # Edit distance

The least number of insertions, deletions and substitutions of one item each that turn one
list into another, and the rows of the table in which it is computed. -/

namespace Agtp.EditDistance

universe u

variable {Item : Type u}

/-! ## Edits -/

inductive Edit : List Item → List Item → Prop
  | insert (front : List Item) (item : Item) (back : List Item) :
      Edit (front ++ back) (front ++ item :: back)
  | delete (front : List Item) (item : Item) (back : List Item) :
      Edit (front ++ item :: back) (front ++ back)
  | substitute (front : List Item) (item other : Item) (back : List Item) :
      Edit (front ++ item :: back) (front ++ other :: back)

/-- The last list is the first one after so many edits. -/
inductive Edits : Nat → List Item → List Item → Prop
  | unchanged (list : List Item) : Edits 0 list list
  | step {count : Nat} {first middle last : List Item} (edit : Edit first middle)
      (rest : Edits count middle last) : Edits (count + 1) first last

theorem Edit.symm {first second : List Item} (edit : Edit first second) :
    Edit second first := by
  cases edit with
  | insert front item back => exact .delete front item back
  | delete front item back => exact .insert front item back
  | substitute front item other back => exact .substitute front other item back

theorem Edit.cons (head : Item) {first second : List Item} (edit : Edit first second) :
    Edit (head :: first) (head :: second) := by
  cases edit with
  | insert front item back => exact .insert (head :: front) item back
  | delete front item back => exact .delete (head :: front) item back
  | substitute front item other back => exact .substitute (head :: front) item other back

theorem Edit.reverse {first second : List Item} (edit : Edit first second) :
    Edit first.reverse second.reverse := by
  cases edit with
  | insert front item back => simpa using Edit.insert back.reverse item front.reverse
  | delete front item back => simpa using Edit.delete back.reverse item front.reverse
  | substitute front item other back =>
      simpa using Edit.substitute back.reverse item other front.reverse

namespace Edits

variable {count : Nat} {first second third : List Item}

theorem snoc (edits : Edits count first second) (edit : Edit second third) :
    Edits (count + 1) first third := by
  induction edits with
  | unchanged => exact .step edit (.unchanged third)
  | step earlier _ induction => exact .step earlier (induction edit)

theorem symm (edits : Edits count first second) : Edits count second first := by
  induction edits with
  | unchanged list => exact .unchanged list
  | step edit _ induction => exact induction.snoc edit.symm

theorem cons (head : Item) (edits : Edits count first second) :
    Edits count (head :: first) (head :: second) := by
  induction edits with
  | unchanged list => exact .unchanged (head :: list)
  | step edit _ induction => exact .step (edit.cons head) induction

theorem reverse (edits : Edits count first second) :
    Edits count first.reverse second.reverse := by
  induction edits with
  | unchanged list => exact .unchanged list.reverse
  | step edit _ induction => exact .step edit.reverse induction

end Edits

/-! ## The distance -/

variable [DecidableEq Item]

/-- The distance from a list with one item in front, given the distance without it. -/
def distanceFrom (item : Item) (rest : List Item → Nat) : List Item → Nat
  | [] => rest [] + 1
  | other :: others =>
      min (min (rest (other :: others) + 1) (distanceFrom item rest others + 1))
        (rest others + if item = other then 0 else 1)

def distance : List Item → List Item → Nat
  | [] => List.length
  | item :: rest => distanceFrom item (distance rest)

@[simp] theorem distance_nil_left (second : List Item) :
    distance [] second = second.length := rfl

@[simp] theorem distance_nil_right (first : List Item) :
    distance first [] = first.length := by
  induction first with
  | nil => rfl
  | cons item rest induction => exact congrArg (· + 1) induction

theorem distance_cons_cons (item other : Item) (first second : List Item) :
    distance (item :: first) (other :: second) =
      min (min (distance first (other :: second) + 1) (distance (item :: first) second + 1))
        (distance first second + if item = other then 0 else 1) := rfl

theorem distance_self (list : List Item) : distance list list = 0 := by
  induction list with
  | nil => rfl
  | cons item rest induction => simp [distance_cons_cons, induction]

theorem edits_distance (first second : List Item) :
    Edits (distance first second) first second := by
  induction first generalizing second with
  | nil =>
      induction second with
      | nil => exact .unchanged []
      | cons item rest induction => exact .step (.insert [] item []) (induction.cons item)
  | cons item first induction =>
      induction second with
      | nil => exact .step (.delete [] item first) (induction [])
      | cons other second within =>
          rw [distance_cons_cons]
          rcases min_choice (min (distance first (other :: second) + 1)
            (distance (item :: first) second + 1))
            (distance first second + if item = other then 0 else 1) with chosen | chosen
          · rw [chosen]
            rcases min_choice (distance first (other :: second) + 1)
              (distance (item :: first) second + 1) with deleted | inserted
            · rw [deleted]
              exact .step (.delete [] item first) (induction (other :: second))
            · rw [inserted]
              exact .step (.insert [] other (item :: first)) (within.cons other)
          · rw [chosen]
            by_cases same : item = other
            · rw [if_pos same, same]
              exact (induction second).cons other
            · rw [if_neg same]
              exact .step (.substitute [] item other first) ((induction second).cons other)

/-! ## No fewer edits -/

theorem distance_cons_le (item : Item) (first target : List Item) :
    distance (item :: first) target ≤ distance first target + 1 := by
  cases target with
  | nil => simp
  | cons other target =>
      rw [distance_cons_cons]
      exact (min_le_left _ _).trans (min_le_left _ _)

theorem distance_le_cons_right (first target : List Item) (other : Item) :
    distance first (other :: target) ≤ distance first target + 1 := by
  cases first with
  | nil => simp
  | cons item first =>
      rw [distance_cons_cons]
      exact (min_le_left _ _).trans (min_le_right _ _)

theorem distance_le_cons (item : Item) (first target : List Item) :
    distance first target ≤ distance (item :: first) target + 1 := by
  induction target with
  | nil =>
      rw [distance_nil_right, distance_nil_right, List.length_cons]
      omega
  | cons other target induction =>
      rw [distance_cons_cons]
      have longer := distance_le_cons_right first target other
      omega

theorem distance_substitute_le (item other : Item) (first target : List Item) :
    distance (item :: first) target ≤ distance (other :: first) target + 1 := by
  induction target with
  | nil => simp
  | cons head target induction =>
      rw [distance_cons_cons, distance_cons_cons]
      split <;> omega

theorem distance_cons_mono {first second : List Item} (item : Item)
    (close : ∀ target, distance first target ≤ distance second target + 1)
    (target : List Item) :
    distance (item :: first) target ≤ distance (item :: second) target + 1 := by
  induction target with
  | nil => simpa using close []
  | cons other target induction =>
      have whole := close (other :: target)
      have rest := close target
      rw [distance_cons_cons, distance_cons_cons]
      omega

theorem distance_le_of_edit {first second : List Item} (edit : Edit first second)
    (target : List Item) : distance first target ≤ distance second target + 1 := by
  cases edit with
  | insert front item back =>
      induction front generalizing target with
      | nil => exact distance_le_cons item back target
      | cons head front induction => exact distance_cons_mono head induction target
  | delete front item back =>
      induction front generalizing target with
      | nil => exact distance_cons_le item back target
      | cons head front induction => exact distance_cons_mono head induction target
  | substitute front item other back =>
      induction front generalizing target with
      | nil => exact distance_substitute_le item other back target
      | cons head front induction => exact distance_cons_mono head induction target

theorem distance_le_of_edits {count : Nat} {first second : List Item}
    (edits : Edits count first second) : distance first second ≤ count := by
  induction edits with
  | unchanged list => exact (distance_self list).le
  | step edit _ induction =>
      exact (distance_le_of_edit edit _).trans (Nat.succ_le_succ induction)

theorem isLeast_distance (first second : List Item) :
    IsLeast {count | Edits count first second} (distance first second) :=
  ⟨edits_distance first second, fun _ edits => distance_le_of_edits edits⟩

theorem distance_comm (first second : List Item) :
    distance first second = distance second first :=
  le_antisymm (distance_le_of_edits (edits_distance second first).symm)
    (distance_le_of_edits (edits_distance first second).symm)

theorem distance_reverse (first second : List Item) :
    distance first.reverse second.reverse = distance first second := by
  apply le_antisymm (distance_le_of_edits (edits_distance first second).reverse)
  simpa using distance_le_of_edits (edits_distance first.reverse second.reverse).reverse

/-! ## Rows -/

/-- The distances from a list to what lies before each position of another one. Both
are read backwards: the item met last is in front. -/
def row (first : List Item) : List Item → List Item → List Nat
  | before, [] => [distance first before]
  | before, item :: rest => distance first before :: row first (item :: before) rest

theorem row_nil (before rest : List Item) :
    row [] before rest = List.range' before.length (rest.length + 1) := by
  induction rest generalizing before with
  | nil => rfl
  | cons item rest induction =>
      rw [row, induction (item :: before), distance_nil_left, List.length_cons,
        List.length_cons, ← List.range'_succ]

theorem getLastD_row (first before rest : List Item) (fallback : Nat) :
    (row first before rest).getLastD fallback = distance first (rest.reverse ++ before) := by
  induction rest generalizing before fallback with
  | nil => rfl
  | cons item rest induction =>
      rw [row, List.getLastD_cons, induction]
      simp

end Agtp.EditDistance
