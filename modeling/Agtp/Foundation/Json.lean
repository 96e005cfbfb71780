import Mathlib.Data.List.Basic

/-! # JSON values

Values as `json.loads` returns them. Objects keep their members in order. A
number with a fraction or an exponent is kept as the text Python prints for
it. -/

namespace Agtp

inductive Json where
  | null
  | bool (value : Bool)
  | int (value : Int)
  | float (text : String)
  | string (value : String)
  | array (values : List Json)
  | object (members : List (String × Json))

namespace Json

/-- `dict.get` on the members of an object. -/
def member (members : List (String × Json)) (name : String) : Option Json :=
  match members with
  | [] => none
  | (key, value) :: rest => if key = name then some value else member rest name

/-- `bool(value)`. -/
def truthy : Json → Bool
  | null => false
  | bool value => value
  | int value => value ≠ 0
  | float text => !(text == "0.0" || text == "-0.0")
  | string value => value ≠ ""
  | array values => !values.isEmpty
  | object members => !members.isEmpty

@[simp] theorem member_nil (name : String) : member [] name = none := rfl

theorem member_cons (key name : String) (value : Json)
    (rest : List (String × Json)) :
    member ((key, value) :: rest) name =
      if key = name then some value else member rest name := rfl

@[simp] theorem member_cons_self (name : String) (value : Json)
    (rest : List (String × Json)) :
    member ((name, value) :: rest) name = some value := by
  simp [member]

theorem member_cons_of_ne {key name : String} (different : key ≠ name)
    (value : Json) (rest : List (String × Json)) :
    member ((key, value) :: rest) name = member rest name := by
  simp [member, different]

theorem member_append (first second : List (String × Json)) (name : String) :
    member (first ++ second) name =
      (member first name).or (member second name) := by
  induction first with
  | nil => simp
  | cons head tail induction =>
      obtain ⟨key, value⟩ := head
      by_cases equal : key = name
      · simp [member, equal]
      · simp [member, equal, induction]

end Json

/-- `str(value)`, and `repr` of a text. Lists and dictionaries print with
Python's `repr` of their items, which stays abstract. -/
class TextOf where
  container : Json → String
  quoted : String → String

namespace Plain

/-- Printing where no text depends on it. -/
scoped instance : TextOf where
  container := fun _ => ""
  quoted := fun text => "'" ++ text ++ "'"

end Plain

namespace Json

def str [TextOf] : Json → String
  | null => "None"
  | bool true => "True"
  | bool false => "False"
  | int value => toString value
  | float text => text
  | string value => value
  | array values => TextOf.container (.array values)
  | object members => TextOf.container (.object members)

/-- `str(params.get(name) or default)`. -/
def textOr [TextOf] (members : List (String × Json)) (name default : String) :
    String :=
  match member members name with
  | some value => if value.truthy then value.str else default
  | none => default

end Json

end Agtp
