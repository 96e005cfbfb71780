import Agtp.Foundation.Dict
import Agtp.Foundation.Floats

/-! # Conversions

What Python makes of a value that was read: `list`, `dict`, `int` and `float` of it, and the
exceptions that they raise. -/

namespace Agtp

/-- The exceptions that are raised. -/
inductive Raised where
  | keyError
  | typeError
  | valueError
  | overflowError
  | attributeError
  | recursionError
deriving DecidableEq

/-- The exceptions of a malformed entry, which is skipped. -/
def Raised.malformed : Raised → Bool
  | keyError | typeError | valueError => true
  | _ => false

namespace Json

def repr [TextOf] : Json → String
  | string text => TextOf.quoted text
  | value => value.str

/-- `list(value)`, and what a loop over the value goes through. -/
def iterate : Json → Except Raised (List Json)
  | array values => .ok values
  | string text => .ok (text.toList.map fun character => string (String.ofList [character]))
  | object members => .ok (members.map fun entry => string entry.1)
  | _ => .error .typeError

/-- Whether a value can be a member of a set. -/
def hashable : Json → Bool
  | array _ | object _ => false
  | _ => true

/-- `dict[key]`, for the keys of a dictionary that is built from pairs. Only texts
are looked up in it; any other key is kept as the text that it is printed as. -/
def pairKey [TextOf] (key : Json) : Except Raised String :=
  if key.hashable then .ok key.str else .error .typeError

/-- An item of a list that `dict` takes as a pair. -/
def pair [TextOf] (item : Json) : Except Raised (String × Json) :=
  match item.iterate with
  | .error raised => .error raised
  | .ok [key, value] => key.pairKey.map (·, value)
  | .ok _ => .error .valueError

def toDict [TextOf] : Json → Except Raised (List (String × Json))
  | object members => .ok members
  | array items => (items.mapM pair).map fun pairs =>
      pairs.foldl (fun members pair => Dict.setEntries pair.1 pair.2 members) []
  | string text => if text = "" then .ok [] else .error .valueError
  | _ => .error .typeError

def toInt [Floats] [NumberText] : Json → Except Raised Int
  | int value => .ok value
  | bool value => .ok (if value then 1 else 0)
  | float text =>
      match Floats.value text with
      | .finite value => .ok (value.num.tdiv value.den)
      | .nan => .error .valueError
      | _ => .error .overflowError
  | string text =>
      match NumberText.intOfText text with
      | some value => .ok value
      | none => .error .valueError
  | _ => .error .typeError

def toFloat [Floats] : Json → Except Raised String
  | float text => .ok text
  | bool value => .ok (if value then "1.0" else "0.0")
  | int value =>
      match Floats.ofInt value with
      | some text => .ok text
      | none => .error .overflowError
  | string text =>
      match Floats.ofText text with
      | some text => .ok text
      | none => .error .valueError
  | _ => .error .typeError

def getOr (members : List (String × Json)) (name : String) (default : Json) : Json :=
  match member members name with
  | some value => if value.truthy then value else default
  | none => default

def get (members : List (String × Json)) (name : String) : Json :=
  (member members name).getD null

/-- `members[name]`. -/
def item (members : List (String × Json)) (name : String) : Except Raised Json :=
  match member members name with
  | some value => .ok value
  | none => .error .keyError

end Json

end Agtp
