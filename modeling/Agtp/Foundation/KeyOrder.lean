import Mathlib.Data.List.Nodup
import Mathlib.Order.Lattice

/-! # Sorting by a key

A list whose values differ in a key can be sorted by it in one way only. -/

namespace Agtp.KeyOrder

universe u v

variable {Key : Type u} {Value : Type v} [LinearOrder Key] {key : Value → Key}
  {before : Value → Value → Bool}

theorem pairwise_mergeSort
    (ordered : ∀ left right, before left right = true ↔ key left ≤ key right)
    (values : List Value) :
    (values.mergeSort before).Pairwise fun left right => key left ≤ key right := by
  have sorted := List.pairwise_mergeSort
    (fun first second third left right => (ordered first third).mpr
      (le_trans ((ordered first second).mp left) ((ordered second third).mp right)))
    (fun left right => by
      rw [Bool.or_eq_true, ordered, ordered]
      exact le_total (key left) (key right))
    values
  exact sorted.imp fun {left right} holds => (ordered left right).mp holds

theorem filter_mergeSort_eq
    (ordered : ∀ left right, before left right = true ↔ key left ≤ key right)
    {keep : Value → Bool} {first second : List Value}
    (firstKeys : (first.map key).Nodup) (secondKeys : (second.map key).Nodup)
    (same : ∀ value, keep value = true → (value ∈ first ↔ value ∈ second)) :
    (first.mergeSort before).filter keep = (second.mergeSort before).filter keep := by
  have sorted (values : List Value) :
      ((values.mergeSort before).filter keep).Pairwise
        fun left right => key left ≤ key right :=
    (pairwise_mergeSort ordered values).filter keep
  have members (value : Value) :
      value ∈ (first.mergeSort before).filter keep ↔
        value ∈ (second.mergeSort before).filter keep := by
    rw [List.mem_filter, List.mem_filter, List.mem_mergeSort, List.mem_mergeSort]
    exact and_congr_left (same value)
  have nodup {values : List Value} (keys : (values.map key).Nodup) :
      ((values.mergeSort before).filter keep).Nodup :=
    ((List.mergeSort_perm values before).nodup_iff.mpr (List.Nodup.of_map key keys)).filter keep
  apply List.Perm.eq_of_pairwise _ (sorted first) (sorted second)
  · exact (List.perm_ext_iff_of_nodup (nodup firstKeys) (nodup secondKeys)).mpr members
  · intro left right leftMember rightMember below above
    have rightMember := (members right).mpr rightMember
    rw [List.mem_filter, List.mem_mergeSort] at leftMember rightMember
    exact List.inj_on_of_nodup_map firstKeys leftMember.1 rightMember.1
      (le_antisymm below above)

end Agtp.KeyOrder
