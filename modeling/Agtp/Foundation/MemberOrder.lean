import Agtp.Foundation.Dict
import Agtp.Foundation.Json

/-! # JSON values up to the order of members

When two values are equal but for the order in which their objects list the members, and
what can be read from either alike. -/

namespace Agtp.Json

/-- The values are equal up to the order of members. -/
inductive Same : Json → Json → Prop where
  | refl (value : Json) : Same value value
  | array {left right : List Json} (items : List.Forall₂ Same left right) :
      Same (.array left) (.array right)
  | object {left right : List (String × Json)}
      (members : ∀ name, Option.Rel Same (member left name) (member right name)) :
      Same (.object left) (.object right)

/-! ## What is read alike -/

theorem Same.member {left right : List (String × Json)}
    (same : Same (.object left) (.object right)) (name : String) :
    Option.Rel Same (member left name) (member right name) := by
  cases same with
  | refl =>
      cases Json.member left name with
      | none => exact .none
      | some value => exact .some (.refl value)
  | object members => exact members name

/-- A function that does not look into arrays and objects cannot tell the values
apart. -/
theorem Same.congr {Result : Sort v} {left right : Json} (same : Same left right)
    (read : Json → Result)
    (arrays : ∀ first second, read (.array first) = read (.array second))
    (objects : ∀ first second, read (.object first) = read (.object second)) :
    read left = read right := by
  cases same with
  | refl => rfl
  | array items => exact arrays _ _
  | object members => exact objects _ _

theorem Same.string {left right : String} (same : Same (.string left) (.string right)) :
    left = right := by
  cases same
  rfl

theorem mem_of_member {members : List (String × Json)} {name : String} {value : Json}
    (found : Json.member members name = some value) : (name, value) ∈ members := by
  induction members with
  | nil => cases found
  | cons entry rest induction =>
      obtain ⟨key, held⟩ := entry
      rw [member_cons] at found
      split at found
      · next same =>
          cases found
          rw [same]
          exact List.mem_cons_self
      · exact List.mem_cons_of_mem _ (induction found)

/-! ## A member that is set -/

theorem member_setEntries_same (name : String) (value : Json)
    (members : List (String × Json)) :
    member (Dict.setEntries name value members) name = some value := by
  induction members with
  | nil => simp [Dict.setEntries]
  | cons entry rest induction =>
      rcases entry with ⟨key, held⟩
      by_cases same : key = name
      · simp [Dict.setEntries, same]
      · simp [Dict.setEntries, same, member_cons_of_ne same, induction]

theorem member_setEntries_other {name other : String} (different : other ≠ name)
    (value : Json) (members : List (String × Json)) :
    member (Dict.setEntries name value members) other = member members other := by
  have apart : name ≠ other := different.symm
  induction members with
  | nil => simp [Dict.setEntries, member_cons_of_ne apart]
  | cons entry rest induction =>
      rcases entry with ⟨key, held⟩
      by_cases same : key = name
      · simp [Dict.setEntries, same, member_cons_of_ne apart]
      · rw [Dict.setEntries, if_neg same, member_cons, member_cons, induction]

end Agtp.Json
