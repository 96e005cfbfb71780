import Agtp.Foundation.Conversions
import Agtp.Foundation.Fallible
import Agtp.Server.Configuration

/-! # The table of a method policy

How the policy is built from the parsed `[policies.methods]` table, and how the manifest
publishes it. Sets of names are lists without duplicates. The warnings about verbs that the
catalog does not have are left out; such an entry is skipped. -/

namespace Agtp.MethodsPolicy

open Json (get getOr)

variable [TextCase] [TextOf]

/-! ## Names -/

def normalizeMethodName (name : Json) : String :=
  upper (Text.strip name.str)

def verbInCatalog (catalog : Catalog) (allowLegacy : Bool) (name : String) : Bool :=
  catalog.isApprovedVerb (upper name) ||
    (allowLegacy && catalog.legacyVerbs.contains (upper (upper name)))

def addName (names : List String) (name : String) : List String :=
  if name ∈ names then names else names ++ [name]

def sortedNames (names : List String) : List String :=
  names.mergeSort (decide <| · ≤ ·)

def texts (names : List String) : Json :=
  .array (names.map .string)

def namesInCatalog (catalog : Catalog) (allowLegacy : Bool) (names : List Json) : List String :=
  ((names.map normalizeMethodName).filter (verbInCatalog catalog allowLegacy)).foldl addName []

/-! ## The directives -/

def readAllow (catalog : Catalog) (source : String) :
    Json → Except String (List String × Bool)
  | .string "*" => .ok ([], true)
  | .array names => .ok (namesInCatalog catalog false names, false)
  | .null => .ok ([], true)
  | value => .error
      (source ++ ": policies.methods.allow must be '*' or a list of verb names (got " ++
        value.repr ++ ")")

def readDisallow (catalog : Catalog) (source : String) : Json → Except String (List String)
  | .array names => .ok (namesInCatalog catalog true names)
  | value => .error
      (source ++ ": policies.methods.disallow must be a list (got " ++ value.repr ++ ")")

/-- A name of the `legacy` list, which has to be a legacy verb. -/
def readLegacyVerb (catalog : Catalog) (source : String) (name : Json) : Except String String :=
  let verb := normalizeMethodName name
  if catalog.legacyVerbs.contains verb then .ok verb
  else .error
    (source ++ ": policies.methods.legacy entry " ++ TextOf.quoted verb ++
      " is not a recognized legacy HTTP verb (expected one of " ++
      (texts (sortedNames catalog.legacyVerbs)).repr ++ ")")

def textIn : Json → Option String
  | .string text => some text
  | _ => none

def readLegacy (catalog : Catalog) (source : String) : Json → Except String (List String)
  | .null => .ok []
  | .array names =>
      (Fallible.map (readLegacyVerb catalog source) names).map fun verbs => verbs.foldl addName []
  | value =>
      let text := textIn value
      if text = some "*" then .ok (catalog.legacyVerbs.foldl addName [])
      else if (text.map fun text => upper (Text.strip text)) = some "NONE" then .ok []
      else .error
        (source ++ ": policies.methods.legacy must be '*', 'NONE', or a list of legacy HTTP " ++
          "verb names (got " ++ value.repr ++ ")")

def redirectKey (method : String) : Json → String
  | .null => method
  | path => method ++ " " ++ path.str

def redirectTarget : Json → Option String
  | .null => none
  | path => some path.str

/-- An entry of `redirects`. It is skipped where the catalog lacks one of its verbs. -/
def readRedirect (catalog : Catalog) (source : String) (entry : Json) :
    Except String (Option (String × String × Option String)) :=
  match entry with
  | .object members =>
      let fromMethod := normalizeMethodName (getOr members "from_method" (.string ""))
      let toMethod := normalizeMethodName (getOr members "to_method" (.string ""))
      if fromMethod = "" ∨ toMethod = "" then .error
        (source ++ ": each redirect entry requires from_method and to_method (got " ++
          entry.repr ++ ")")
      else
        let fromPath := get members "from_path"
        let toPath := get members "to_path"
        if (redirectTarget fromPath).isNone != (redirectTarget toPath).isNone then .error
          (source ++ ": redirect must include from_path AND to_path, or neither (got " ++
            entry.repr ++ ")")
        else if verbInCatalog catalog true fromMethod && verbInCatalog catalog true toMethod then
          .ok (some (redirectKey fromMethod fromPath, toMethod, redirectTarget toPath))
        else .ok none
  | _ => .error
      (source ++ ": each [[policies.methods.redirects]] entry must be a table (got " ++
        entry.repr ++ ")")

def readRedirects (catalog : Catalog) (source : String) :
    Json → Except String (Dict String (String × Option String))
  | .array entries =>
      (Fallible.map (readRedirect catalog source) entries).map fun read =>
        Dict.ofList (read.filterMap id)
  | value => .error
      (source ++ ": policies.methods.redirects must be an array of tables (got " ++
        value.repr ++ ")")

def legacyAliasSeed (catalog : Catalog) : Dict String String :=
  Dict.ofList ((catalog.legacy.filter (·.2 ≠ "")).map fun entry => (upper entry.1, upper entry.2))

/-- An entry of `aliases`, whose target the catalog has to have. -/
def readAlias (catalog : Catalog) (entry : String × Json) :
    Except String (Option (String × String)) :=
  let source := upper (Text.strip entry.1)
  let target := normalizeMethodName entry.2
  if source = "" ∨ target = "" then .error
    (entry.1 ++ ": each alias entry needs a non-empty source and target (" ++
      TextOf.quoted entry.1 ++ " -> " ++ entry.2.repr ++ ")")
  else if verbInCatalog catalog true target then .ok (some (source, target))
  else .ok none

def readAliases (catalog : Catalog) (source : String) : Json → Except String (Dict String String)
  | .null => .ok (legacyAliasSeed catalog)
  | .object entries =>
      (Fallible.map (readAlias catalog) entries).map fun read => Dict.ofList (read.filterMap id)
  | value => .error
      (source ++ ": policies.methods.aliases must be a table (got " ++ value.repr ++ ")")

/-! ## The table -/

def fromTable (catalog : Catalog) (source : String) (table : Json) :
    Except String MethodsPolicy :=
  match table with
  | .object table => do
      let (allow, allowAll) ← readAllow catalog source (get table "allow")
      let disallow ← readDisallow catalog source (getOr table "disallow" (.array []))
      let legacy ← readLegacy catalog source (get table "legacy")
      let redirects ← readRedirects catalog source (getOr table "redirects" (.array []))
      let aliases ← readAliases catalog source (get table "aliases")
      return ⟨allow, allowAll, disallow, legacy, redirects, aliases⟩
  | _ => .ok ⟨[], false, [], [], .empty, .empty⟩

/-! ## The manifest -/

def splitKey (key : String) : String × Option String :=
  let method := String.ofList (key.toList.takeWhile (· ≠ ' '))
  match key.toList.dropWhile (· ≠ ' ') with
  | [] => (method, none)
  | _ :: path => (method, some (String.ofList path))

def redirectOrder (left right : String × String × Option String) : Bool :=
  let key (entry : String × String × Option String) :=
    ((splitKey entry.1).1, (splitKey entry.1).2.getD "")
  let first := key left
  let second := key right
  first.1 < second.1 || (first.1 == second.1 && decide (first.2 ≤ second.2))

def redirectMembers (entry : String × String × Option String) : List (String × Json) :=
  [("from_method", .string (splitKey entry.1).1)] ++
  ((splitKey entry.1).2.map fun path => ("from_path", Json.string path)).toList ++
  [("to_method", .string entry.2.1)] ++
  ((entry.2.2.filter (· ≠ "")).map fun path => ("to_path", Json.string path)).toList

def nonEmpty (name : String) : List Json → List (String × Json)
  | [] => []
  | values => [(name, .array values)]

def toWire (policy : MethodsPolicy) : List (String × Json) :=
  [("allow", if policy.allowAll then .string "*" else texts (sortedNames policy.allow))] ++
  nonEmpty "disallow" ((sortedNames policy.disallow).map .string) ++
  nonEmpty "legacy" ((sortedNames policy.legacy).map .string) ++
  nonEmpty "redirects" ((policy.redirects.entries.mergeSort redirectOrder).map fun entry =>
    .object (redirectMembers entry)) ++
  if policy.aliases.entries = [] then []
  else [("aliases", .object ((policy.aliases.entries.mergeSort
    fun left right => decide (left.1 ≤ right.1)).map fun entry => (entry.1, .string entry.2)))]

end Agtp.MethodsPolicy
