import Mathlib.Data.List.Perm.Subperm
import Mathlib.Data.List.Sort

/-! # The nearest values

The first values of a list that is sorted by a distance. -/

namespace Agtp.Nearest

universe u

variable {Value : Type u} {distance : Value → Int} {values : List Value} {count : Nat}

def sorted (distance : Value → Int) (values : List Value) : List Value :=
  values.insertionSort fun left right => distance left ≤ distance right

/-- `sorted(values, key=distance)[:count]`. -/
def nearest (distance : Value → Int) (count : Nat) (values : List Value) : List Value :=
  (sorted distance values).take count

theorem perm_sorted (distance : Value → Int) (values : List Value) :
    (sorted distance values).Perm values :=
  List.perm_insertionSort _ values

theorem ordered_sorted (distance : Value → Int) (values : List Value) :
    (sorted distance values).Pairwise fun left right => distance left ≤ distance right := by
  have total : Std.Total fun left right : Value => distance left ≤ distance right :=
    ⟨fun left right => Int.le_total (distance left) (distance right)⟩
  have transitive : IsTrans Value fun left right => distance left ≤ distance right :=
    ⟨fun _ _ _ => Int.le_trans⟩
  exact List.pairwise_insertionSort _ values

theorem length_nearest : (nearest distance count values).length = min count values.length := by
  rw [nearest, List.length_take, (perm_sorted distance values).length_eq]

theorem mem_of_nearest {value : Value} (near : value ∈ nearest distance count values) :
    value ∈ values :=
  (perm_sorted distance values).mem_iff.mp (List.mem_of_mem_take near)

theorem ordered_nearest (distance : Value → Int) (count : Nat) (values : List Value) :
    (nearest distance count values).Pairwise
      fun left right => distance left ≤ distance right :=
  (ordered_sorted distance values).sublist (List.take_sublist _ _)

theorem nodup_nearest {Key : Type*} {key : Value → Key} (distinct : (values.map key).Nodup) :
    ((nearest distance count values).map key).Nodup :=
  ((((perm_sorted distance values).map key).nodup_iff.mpr distinct)).sublist
    ((List.take_sublist _ _).map key)

theorem nearest_nearest :
    nearest distance count (nearest distance count values) = nearest distance count values := by
  have sortedAgain : sorted distance (nearest distance count values) =
      nearest distance count values :=
    (ordered_nearest distance count values).insertionSort_eq
  rw [nearest, sortedAgain, nearest, List.take_take, Nat.min_self]

theorem mem_nearest_of_room {value : Value} (member : value ∈ values)
    (room : values.length ≤ count) : value ∈ nearest distance count values := by
  have all := perm_sorted distance values
  rw [nearest, List.take_of_length_le (all.length_eq.le.trans room)]
  exact all.mem_iff.mpr member

theorem full_of_left_out {value : Value} (member : value ∈ values)
    (out : value ∉ nearest distance count values) :
    (nearest distance count values).length = count ∧
      ∀ near ∈ nearest distance count values, distance near ≤ distance value := by
  have somewhere := (perm_sorted distance values).mem_iff.mpr member
  rw [← List.take_append_drop count (sorted distance values)] at somewhere
  have behind : value ∈ (sorted distance values).drop count :=
    (List.mem_append.mp somewhere).resolve_left out
  constructor
  · have longer := List.length_pos_of_mem behind
    rw [List.length_drop] at longer
    rw [nearest, List.length_take]
    omega
  · intro near inFront
    have ordered := ordered_sorted distance values
    rw [← List.take_append_drop count (sorted distance values), List.pairwise_append] at ordered
    exact ordered.2.2 near inFront value behind

theorem mem_nearest_of_few {value : Value} (member : value ∈ values)
    (distinct : values.Nodup)
    (few : ∀ closer : List Value, closer.Nodup → (∀ other ∈ closer, other ∈ values ∧
      other ≠ value ∧ distance other ≤ distance value) → closer.length < count) :
    value ∈ nearest distance count values := by
  by_contra out
  rcases full_of_left_out member out with ⟨full, closer⟩
  have nodup : (nearest distance count values).Nodup :=
    ((perm_sorted distance values).nodup_iff.mpr distinct).sublist (List.take_sublist _ _)
  have fewer := few (nearest distance count values) nodup fun other near =>
    ⟨mem_of_nearest near, fun same => out (same ▸ near), closer other near⟩
  omega

theorem not_mem_nearest_of_many {value : Value} {closer : List Value} (nodup : closer.Nodup)
    (many : count ≤ closer.length)
    (before : ∀ other ∈ closer, other ∈ values ∧ distance other < distance value) :
    value ∉ nearest distance count values := by
  intro near
  -- whatever is closer is among the nearest as well, and there is no room for all of it
  have inside : closer ⊆ (nearest distance count values).filter
      fun other => decide (distance other < distance value) := by
    intro other member
    rcases before other member with ⟨held, less⟩
    refine List.mem_filter.mpr ⟨?_, by simpa using less⟩
    by_contra out
    have farther := (full_of_left_out held out).2 value near
    omega
  have room := (List.subperm_of_subset nodup inside).length_le
  have proper : ((nearest distance count values).filter
      fun other => decide (distance other < distance value)).length <
        (nearest distance count values).length :=
    List.length_filter_lt_length_iff_exists.mpr ⟨value, near, by simp⟩
  have most : (nearest distance count values).length ≤ count := by
    rw [length_nearest]
    omega
  omega

theorem mem_nearest_of_superset {value : Value} {fewer : List Value}
    (near : value ∈ nearest distance count values) (member : value ∈ fewer)
    (distinct : fewer.Nodup) (more : ∀ other ∈ fewer, other ∈ values)
    (injective : ∀ left ∈ fewer, ∀ right ∈ fewer, distance left = distance right → left = right) :
    value ∈ nearest distance count fewer := by
  apply mem_nearest_of_few member distinct
  intro closer nodup before
  by_contra many
  refine not_mem_nearest_of_many nodup (by omega : count ≤ closer.length) ?_ near
  intro other inside
  rcases before other inside with ⟨held, different, below⟩
  have apart : distance other ≠ distance value :=
    fun same => different (injective other held value member same)
  exact ⟨more other held, by omega⟩

theorem nearest_pairs (distance : Value → Int) (count : Nat) (values : List Value) :
    (nearest Prod.fst count (values.map fun value => (distance value, value))).map Prod.snd =
      nearest distance count values := by
  have paired : sorted Prod.fst (values.map fun value => (distance value, value)) =
      (sorted distance values).map fun value => (distance value, value) := by
    symm
    apply List.map_insertionSort
    intro left _ right _
    rfl
  rw [nearest, paired, ← List.map_take, List.map_map]
  exact List.map_id _

end Agtp.Nearest
