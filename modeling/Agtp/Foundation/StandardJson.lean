import Agtp.Foundation.JsonReading
import Agtp.Foundation.MemberOrder
import Mathlib.Data.List.Sort

/-! # The canonical form as text

The form of a value that `json.dumps` writes with `sort_keys=True`, and what
`json.loads` makes of it: the value, with the members of its objects in order. -/

namespace Agtp.StandardJson

open JsonText

/-! ## Sorted keys -/

def insertMember (entry : String × Json) (members : List (String × Json)) :
    List (String × Json) :=
  members.orderedInsert (fun left right => left.1 ≤ right.1) entry

mutual

def sortKeys : Json → Json
  | .array values => .array (sortItems values)
  | .object members => .object (sortMembers members)
  | value => value

def sortItems : List Json → List Json
  | [] => []
  | value :: values => sortKeys value :: sortItems values

def sortMembers : List (String × Json) → List (String × Json)
  | [] => []
  | (key, value) :: members => insertMember (key, sortKeys value) (sortMembers members)

end

theorem sortItems_eq (values : List Json) : sortItems values = values.map sortKeys := by
  induction values with
  | nil => rfl
  | cons value values induction => rw [sortItems, induction, List.map_cons]

theorem perm_insertMember (entry : String × Json) (members : List (String × Json)) :
    (insertMember entry members).Perm (entry :: members) :=
  List.perm_orderedInsert _ _ _

theorem perm_sortMembers (members : List (String × Json)) :
    (sortMembers members).Perm
      (members.map fun member => (member.1, sortKeys member.2)) := by
  induction members with
  | nil => exact .nil
  | cons member members induction =>
      rw [sortMembers, List.map_cons]
      exact (perm_insertMember _ _).trans (induction.cons _)

theorem member_insertMember (key : String) (value : Json)
    (members : List (String × Json)) (name : String) :
    Json.member (insertMember (key, value) members) name =
      Json.member ((key, value) :: members) name := by
  induction members with
  | nil => rfl
  | cons first rest induction =>
      obtain ⟨firstKey, firstValue⟩ := first
      rw [insertMember, List.orderedInsert]
      split
      · rfl
      · next later =>
          have different : firstKey ≠ key := by
            intro same
            exact later (le_of_eq same.symm)
          rw [insertMember] at induction
          rw [Json.member_cons, induction, Json.member_cons, Json.member_cons,
            Json.member_cons]
          by_cases isFirst : firstKey = name
          · rw [if_pos isFirst, if_neg (isFirst ▸ Ne.symm different), if_pos isFirst]
          · rw [if_neg isFirst, if_neg isFirst]

theorem member_sortMembers (members : List (String × Json)) (name : String) :
    Json.member (sortMembers members) name = (Json.member members name).map sortKeys := by
  induction members with
  | nil => rfl
  | cons member members induction =>
      obtain ⟨key, value⟩ := member
      rw [sortMembers, member_insertMember, Json.member_cons, Json.member_cons, induction]
      split
      · rfl
      · rfl

/-! ## Sorting what is held -/

section Held

variable [Floats]

theorem held_sortKeys {value : Json} (held : Held value) : Held (sortKeys value) := by
  induction held with
  | null => exact .null
  | bool value => exact .bool value
  | int value => exact .int value
  | float float => exact .float float
  | string value => exact .string value
  | @array values items induction =>
      rw [sortKeys, sortItems_eq]
      apply Held.array
      intro value member
      obtain ⟨item, itemMember, same⟩ := List.mem_map.mp member
      rw [← same]
      exact induction item itemMember
  | @object members distinct values induction =>
      have permuted := perm_sortMembers members
      apply Held.object
      · apply (permuted.map Prod.fst).nodup_iff.mpr
        rw [List.map_map]
        exact distinct
      · intro entry member
        obtain ⟨held, heldMember, same⟩ := List.mem_map.mp (permuted.mem_iff.mp member)
        rw [← same]
        exact induction held heldMember

omit [Floats] in
theorem itemsExcess_none {limits : Limits} {depth : Nat} {values : List Json} :
    itemsExcess limits depth values = none ↔
      ∀ value ∈ values, firstExcess limits depth value = none := by
  induction values with
  | nil => simp [itemsExcess]
  | cons value values induction => simp [itemsExcess, induction]

omit [Floats] in
theorem membersExcess_none {limits : Limits} {depth : Nat}
    {members : List (String × Json)} :
    membersExcess limits depth members = none ↔
      ∀ member ∈ members, firstExcess limits depth member.2 = none := by
  induction members with
  | nil => simp [membersExcess]
  | cons member members induction => simp [membersExcess, induction]

theorem firstExcess_sortKeys {limits : Limits} {value : Json} (held : Held value)
    {depth : Nat} (within : firstExcess limits depth value = none) :
    firstExcess limits depth (sortKeys value) = none := by
  induction held generalizing depth with
  | null => rfl
  | bool => rfl
  | int => exact within
  | float => rfl
  | string => rfl
  | @array values items induction =>
      rw [firstExcess] at within
      rw [sortKeys, firstExcess]
      split at within
      · cases within
      · next shallow =>
          rw [if_neg shallow, sortItems_eq, itemsExcess_none]
          intro value member
          obtain ⟨item, itemMember, same⟩ := List.mem_map.mp member
          rw [← same]
          exact induction item itemMember (itemsExcess_none.mp within item itemMember)
  | @object members distinct values induction =>
      rw [firstExcess] at within
      rw [sortKeys, firstExcess]
      split at within
      · cases within
      · next shallow =>
          rw [if_neg shallow, membersExcess_none]
          intro entry member
          obtain ⟨held, heldMember, same⟩ :=
            List.mem_map.mp ((perm_sortMembers members).mem_iff.mp member)
          rw [← same]
          exact induction held heldMember (membersExcess_none.mp within held heldMember)

theorem firstExcess_shallower {limits : Limits} {value : Json} (held : Held value)
    {depth deep : Nat} (shallower : depth ≤ deep)
    (within : firstExcess limits deep value = none) :
    firstExcess limits depth value = none := by
  induction held generalizing depth deep with
  | null => rfl
  | bool => rfl
  | int => exact within
  | float => rfl
  | string => rfl
  | array items induction =>
      rw [firstExcess] at within ⊢
      split at within
      · cases within
      · rw [if_neg (by omega), itemsExcess_none]
        rw [itemsExcess_none] at within
        exact fun value member =>
          induction value member (Nat.succ_le_succ shallower) (within value member)
  | object distinct values induction =>
      rw [firstExcess] at within ⊢
      split at within
      · cases within
      · rw [if_neg (by omega), membersExcess_none]
        rw [membersExcess_none] at within
        exact fun member own =>
          induction member own (Nat.succ_le_succ shallower) (within member own)

/-! ## Order -/

omit [Floats] in
theorem sortMembers_eq (members : List (String × Json)) :
    sortMembers members =
      (members.map fun member => (member.1, sortKeys member.2)).insertionSort
        fun left right => left.1 ≤ right.1 := by
  induction members with
  | nil => rfl
  | cons member members induction =>
      rw [sortMembers, induction]
      rfl

omit [Floats] in
theorem insertionSort_idem (members : List (String × Json)) :
    (members.insertionSort fun left right => left.1 ≤ right.1).insertionSort
        (fun left right => left.1 ≤ right.1) =
      members.insertionSort fun left right => left.1 ≤ right.1 := by
  have total : Std.Total fun left right : String × Json => left.1 ≤ right.1 :=
    ⟨fun left right => le_total left.1 right.1⟩
  have transitive : IsTrans (String × Json) fun left right => left.1 ≤ right.1 :=
    ⟨fun _ _ _ first second => le_trans first second⟩
  exact (List.pairwise_insertionSort _ members).insertionSort_eq

theorem sortKeys_sortKeys {value : Json} (held : Held value) :
    sortKeys (sortKeys value) = sortKeys value := by
  induction held with
  | null => rfl
  | bool => rfl
  | int => rfl
  | float => rfl
  | string => rfl
  | @array values items induction =>
      rw [sortKeys, sortKeys, sortItems_eq, sortItems_eq, List.map_map]
      exact congrArg Json.array (List.map_congr_left induction)
  | @object members distinct values induction =>
      rw [sortKeys, sortKeys]
      apply congrArg Json.object
      have settled : (sortMembers members).map (fun member => (member.1, sortKeys member.2)) =
          sortMembers members := by
        refine (List.map_congr_left ?_).trans (List.map_id _)
        intro entry member
        obtain ⟨held, heldMember, same⟩ :=
          List.mem_map.mp ((perm_sortMembers members).mem_iff.mp member)
        rw [← same]
        exact congrArg (Prod.mk held.1) (induction held heldMember)
      calc sortMembers (sortMembers members)
          = (sortMembers members).insertionSort fun left right => left.1 ≤ right.1 := by
            rw [sortMembers_eq (sortMembers members), settled]
        _ = sortMembers members := by
            rw [sortMembers_eq members, insertionSort_idem]

omit [Floats] in
theorem forall₂_of_map {values others : List Json}
    (items : ∀ value ∈ values, ∀ {other : Json},
      sortKeys value = sortKeys other → Json.Same value other)
    (sorted : values.map sortKeys = others.map sortKeys) :
    List.Forall₂ Json.Same values others := by
  induction values generalizing others with
  | nil =>
      cases others with
      | nil => exact .nil
      | cons => cases sorted
  | cons value values induction =>
      cases others with
      | nil => cases sorted
      | cons other others =>
          obtain ⟨first, rest⟩ := List.cons.inj sorted
          exact .cons (items value List.mem_cons_self first)
            (induction (fun _ member => items _ (List.mem_cons_of_mem _ member)) rest)

theorem same_of_sortKeys {left right : Json} (held : Held left)
    (sorted : sortKeys left = sortKeys right) : Json.Same left right := by
  induction held generalizing right with
  | null =>
      cases right with
      | null => exact .refl _
      | _ => cases sorted
  | bool value =>
      cases right with
      | bool other =>
          cases sorted
          exact .refl _
      | _ => cases sorted
  | int value =>
      cases right with
      | int other =>
          cases sorted
          exact .refl _
      | _ => cases sorted
  | float =>
      cases right with
      | float other =>
          cases sorted
          exact .refl _
      | _ => cases sorted
  | string value =>
      cases right with
      | string other =>
          cases sorted
          exact .refl _
      | _ => cases sorted
  | @array values items induction =>
      cases right with
      | array others =>
          rw [sortKeys, sortKeys, sortItems_eq, sortItems_eq] at sorted
          exact .array (forall₂_of_map induction (Json.array.inj sorted))
      | _ => cases sorted
  | @object members distinct values induction =>
      cases right with
      | object others =>
          rw [sortKeys, sortKeys] at sorted
          apply Json.Same.object
          intro name
          have found : (Json.member members name).map sortKeys =
              (Json.member others name).map sortKeys := by
            rw [← member_sortMembers, ← member_sortMembers, Json.object.inj sorted]
          cases left : Json.member members name with
          | none =>
              rw [left] at found
              rw [Option.map_eq_none_iff.mp found.symm]
              exact .none
          | some value =>
              rw [left] at found
              obtain ⟨other, right, same⟩ := Option.map_eq_some_iff.mp found.symm
              rw [right]
              exact .some (induction _ (Json.mem_of_member left) same.symm)
      | _ => cases sorted

end Held

/-! ## Parts of a text -/

theorem text_of_moreMembers {key : String} {first second : Json}
    {before after : List (String × Json)}
    (same : moreMembers (before ++ (key, first) :: after) =
      moreMembers (before ++ (key, second) :: after)) : text first = text second := by
  induction before with
  | nil =>
      simpa [moreMembers] using same
  | cons member before induction =>
      apply induction
      simp only [List.cons_append, moreMembers] at same
      exact List.append_cancel_left (List.cons.inj same).2

theorem text_of_insertMember {key : String} {first second : Json}
    {members : List (String × Json)}
    (same : text (.object (insertMember (key, first) members)) =
      text (.object (insertMember (key, second) members))) : text first = text second := by
  have split (value : Json) : insertMember (key, value) members =
      members.takeWhile (fun member => decide ¬key ≤ member.1) ++
        (key, value) :: members.dropWhile fun member => decide ¬key ≤ member.1 :=
    List.orderedInsert_eq_take_drop _ _ _
  rw [split, split] at same
  generalize members.takeWhile (fun member => decide ¬key ≤ member.1) = before at same
  cases before with
  | nil => simpa [text] using same
  | cons member before =>
      apply text_of_moreMembers
      simp only [List.cons_append, text] at same
      exact List.append_cancel_left (List.cons.inj same).2

/-! ## Reading what was written -/

variable [Floats]

/-- The interpreter's limits, unless they are configured. -/
def usualLimits : Limits := ⟨4300, 900⟩

/-- What `json.loads` can return. -/
structure Loadable (value : Json) : Prop where
  held : Held value
  within : firstExcess usualLimits 0 value = none

def canonical (value : Json) : Bytes := Utf8.encode (text (sortKeys value))

/-- `json.loads(data.decode("utf-8"))`. Too many digits are a `ValueError`, too deep a
nesting is not. -/
def loads (data : Bytes) : Except DecodeFailure Json :=
  match Utf8.decode? data with
  | none => .error .valueError
  | some characters =>
      match JsonText.loads usualLimits characters with
      | .ok value => .ok value
      | .error (.excess .nesting) => .error .other
      | .error _ => .error .valueError

theorem loads_canonical {value : Json} (held : Held value)
    (within : firstExcess usualLimits 0 value = none) :
    loads (canonical value) = .ok (sortKeys value) := by
  have read : JsonText.loads usualLimits (text (sortKeys value)) = .ok (sortKeys value) := by
    rw [loads_text (held_sortKeys held), firstExcess_sortKeys held within]
  rw [loads, canonical, Utf8.decode?_encode]
  simp only [read]

scoped instance : JsonCodec := ⟨canonical, loads⟩

end Agtp.StandardJson
