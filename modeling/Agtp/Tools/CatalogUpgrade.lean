import Mathlib.Data.List.Dedup
import Agtp.Server.PolicyTable

/-! # Upgrading the catalog

`agtp-catalog-diff` compares two catalogs and scans a deployment for what the new one breaks. -/

namespace Agtp.CatalogUpgrade

open Json (get getOr)
open MethodsPolicy (normalizeMethodName verbInCatalog readLegacyVerb readRedirect readAlias)

/-! ## The difference of two catalogs -/

structure CatalogDiff where
  added : List String
  removed : List String

def difference (names others : List String) : List String :=
  MethodsPolicy.sortedNames (names.filter fun name => !others.contains name).dedup

def diffCatalogs (old new : Catalog) : CatalogDiff where
  added := difference new.approved old.approved
  removed := difference old.approved new.approved

theorem mem_difference {names others : List String} {name : String} :
    name ∈ difference names others ↔ name ∈ names ∧ name ∉ others := by
  rw [difference, MethodsPolicy.sortedNames, List.mem_mergeSort, List.mem_dedup,
    List.mem_filter]
  simp

/-! ## The scan -/

abbrev Document := List (String × Json)

inductive Conflict where
  | pathGrammar (file path segment verb : String)
  | endpoint (file method : String)
  | recipe (file recipe : String) (step : Nat) (method : String)
  | methodPolicy (file directive verb : String)

/-- The files that are scanned: the endpoints in their order, the recipes and the
configuration. -/
structure Deployment where
  endpoints : List (String × Document)
  recipes : Option (String × Document)
  server : Option (String × Document)

section Scanning

variable [TextCase] [TextOf]

def scannedMethod (table : Document) : String :=
  upper (getOr table "method" (.string "")).str

def scannedPath (table : Document) : String :=
  (getOr table "path" (.string "")).str

def rawSegments (path : String) : List (List Char) :=
  (Text.splitCharacters '/' path.toList).filter (!List.isEmpty ·)

def segmentConflict (added : List String) (file path : String) (segment : List Char) :
    Option Conflict :=
  if PathGrammar.isParameter segment then none
  else
    let verb := PathGrammar.normalized segment
    if verb ∈ added then some (.pathGrammar file path (String.ofList segment) verb) else none

def scanEndpoint (diff : CatalogDiff) (file : String) (document : Document) : List Conflict :=
  match getOr document "endpoint" (.object []) with
  | .object endpoint =>
      let method := scannedMethod endpoint
      let path := scannedPath endpoint
      (if method ≠ "" ∧ method ∈ diff.removed then [.endpoint file method] else []) ++
        (rawSegments path).filterMap (segmentConflict diff.added file path)
  | _ => []

def listed : Json → List Json
  | .array values => values
  | _ => []

def stepConflict (removed : List String) (file recipe : String) (position : Nat) :
    Json → Option Conflict
  | .object step =>
      let method := scannedMethod step
      if method ≠ "" ∧ method ∈ removed then
        some (.recipe file recipe (position + 1) method)
      else none
  | _ => none

def scanRecipe (removed : List String) (file : String) : Json → List Conflict
  | .object recipe =>
      (listed (getOr recipe "steps" (.array []))).zipIdx.filterMap fun entry =>
        stepConflict removed file (getOr recipe "name" (.string "?")).str entry.2 entry.1
  | _ => []

def scanRecipes (removed : List String) (file : String) (document : Document) :
    List Conflict :=
  (listed (getOr document "recipe" (.array []))).flatMap (scanRecipe removed file)

def methodsTable (document : Document) : Except Raised Json :=
  match getOr document "policies" (getOr document "policy" (.object [])) with
  | .object policies => .ok (getOr policies "methods" (.object []))
  | _ => .error .attributeError

def recordedVerb (name : Json) : Option String :=
  if name.str = "" then none else some (upper name.str)

def record (removed : List String) (file directive : String) (name : Json) : List Conflict :=
  match recordedVerb name with
  | some verb => if verb ∈ removed then [.methodPolicy file directive verb] else []
  | none => []

def recordRedirect (removed : List String) (file : String) : Json → List Conflict
  | .object entry =>
      record removed file "redirect (from)" (getOr entry "from_method" (.string "")) ++
        record removed file "redirect (to)" (getOr entry "to_method" (.string ""))
  | _ => []

def recordAll (removed : List String) (file directive : String) (names : List Json) :
    List Conflict :=
  names.flatMap (record removed file directive)

def scanTable (removed : List String) (file : String) (methods : Document) :
    Except Raised (List Conflict) := do
  let disallow ← (getOr methods "disallow" (.array [])).iterate
  let redirects ← (getOr methods "redirects" (.array [])).iterate
  return recordAll removed file "allow" (listed (get methods "allow")) ++
    recordAll removed file "disallow" disallow ++
    recordAll removed file "legacy" (listed (get methods "legacy")) ++
    redirects.flatMap (recordRedirect removed file)

def scanMethodPolicy (removed : List String) (file : String) (document : Document) :
    Except Raised (List Conflict) := do
  match ← methodsTable document with
  | .object methods => scanTable removed file methods
  | _ => return []

def scanFile (scan : String → Document → Except Raised (List Conflict)) :
    Option (String × Document) → Except Raised (List Conflict)
  | some entry => scan entry.1 entry.2
  | none => .ok []

def scanDeployment (diff : CatalogDiff) (deployment : Deployment) :
    Except Raised (List Conflict) := do
  let endpoints := deployment.endpoints.flatMap fun entry => scanEndpoint diff entry.1 entry.2
  let recipes ← scanFile (fun file document => .ok (scanRecipes diff.removed file document))
    deployment.recipes
  let policy ← scanFile (scanMethodPolicy diff.removed) deployment.server
  return endpoints ++ recipes ++ policy

/-! ## What the loaders accept -/

def endpointVerb (endpoint : Document) : String :=
  upper ((Json.member endpoint "method").getD (.string "")).str

def endpointAccepted (catalog : Catalog) (document : Document) : Prop :=
  ∃ endpoint, get document "endpoint" = .object endpoint ∧
    catalog.isApprovedVerb (endpointVerb endpoint) = true ∧
    get endpoint "path" ≠ .null ∧
    PathGrammar.validatePath catalog (get endpoint "path").str = .ok ()

def sourceFine : Json → Bool
  | .object source =>
      match get source "kind" with
      | .string kind => ["proposal", "constant", "previous_step"].contains kind
      | _ => false
  | _ => false

def getDefault (table : Document) (name : String) (default : Json) : Json :=
  (Json.member table name).getD default

def tableOf : Json → Option Document
  | .object members => some members
  | _ => none

def someText : Json → Option String
  | .string text => if text = "" then none else some text
  | _ => none

def loadStep (step : Json) : Option String := do
  let step ← tableOf step
  let method ← someText (get step "method")
  let parameters ← tableOf (getDefault step "parameters" (.object []))
  if parameters.all fun entry => sourceFine entry.2 then return upper method else none

def modeFine (recipe : Document) : Bool :=
  match getDefault recipe "aggregation" (.object []) with
  | .object block =>
      match getDefault block "mode" (.string "last") with
      | .string mode => ["last", "merge", "list"].contains mode
      | _ => false
  | _ => true

/-- `_recipe_from_dict`: the name and the verbs of the steps. -/
def loadRecipe (recipe : Json) : Option (String × List String) := do
  let recipe ← tableOf recipe
  let name ← someText (getDefault recipe "name" (.string ""))
  let pattern ← tableOf (getDefault recipe "pattern" (.object []))
  let _ ← (getOr pattern "has_parameters" (.array [])).iterate.toOption
  let verbs ← (listed (getDefault recipe "steps" (.array []))).mapM loadStep
  if verbs ≠ [] ∧ modeFine recipe then return (name, verbs) else none

def loadRecipes (document : Document) : Option (List (String × List String)) :=
  match getDefault document "recipe" (.array []) with
  | .array entries => do
      let recipes ← entries.mapM loadRecipe
      if (recipes.map Prod.fst).Nodup then return recipes else none
  | _ => none

/-! ## Directives -/

inductive Directive where
  | allow (name : Json)
  | disallow (name : Json)
  | legacy (name : Json)
  | redirect (entry : Json)
  | aliased (source : String) (target : Json)

def aliasEntries : Json → List (String × Json)
  | .object entries => entries
  | _ => []

def directives (methods : Document) : List Directive :=
  (listed (get methods "allow")).map .allow ++
  (listed (getOr methods "disallow" (.array []))).map .disallow ++
  (listed (get methods "legacy")).map .legacy ++
  (listed (getOr methods "redirects" (.array []))).map .redirect ++
  (aliasEntries (get methods "aliases")).map fun entry => .aliased entry.1 entry.2

def keptIn {Value : Type} : Except String (Option Value) → Bool
  | .ok (some _) => true
  | _ => false

def keeps (catalog : Catalog) (source : String) : Directive → Bool
  | .allow name => verbInCatalog catalog false (normalizeMethodName name)
  | .disallow name => verbInCatalog catalog true (normalizeMethodName name)
  | .legacy name => (readLegacyVerb catalog source name).isOk
  | .redirect entry => keptIn (readRedirect catalog source entry)
  | .aliased source target => keptIn (readAlias catalog (source, target))

/-! ## The property -/

structure Kept (old new : Catalog) (source : String) (deployment : Deployment) : Prop where
  endpoints : ∀ entry ∈ deployment.endpoints,
    endpointAccepted old entry.2 → endpointAccepted new entry.2
  recipes : ∀ entry ∈ deployment.recipes, ∀ recipes, loadRecipes entry.2 = some recipes →
    ∀ recipe ∈ recipes, ∀ verb ∈ recipe.2,
      old.isApprovedVerb verb = true → new.isApprovedVerb verb = true
  policy : ∀ entry ∈ deployment.server, ∀ methods, methodsTable entry.2 = .ok (.object methods) →
    ∀ policy, MethodsPolicy.fromTable old source (.object methods) = .ok policy →
      (∃ next, MethodsPolicy.fromTable new source (.object methods) = .ok next) ∧
        ∀ directive ∈ directives methods,
          keeps old source directive = true → keeps new source directive = true

def Sound (old new : Catalog) (source : String) (deployment : Deployment) : Prop :=
  scanDeployment (diffCatalogs old new) deployment = .ok [] → Kept old new source deployment

/-! ## What the scan misses -/

/-- A name that a loader looks up: the verb that it takes it for, the one that the scan takes
it for, and the verbs that are admitted. -/
structure Site where
  verb : String
  scanned : Option String
  admits : Catalog → List String

def withLegacy (catalog : Catalog) : List String :=
  catalog.protocolVerbs ++ catalog.legacyVerbs

/-- The verb is no longer admitted. But either it is not the methods that it is removed from,
or the scan takes the name for something else. -/
def Site.Missed (old new : Catalog) (site : Site) : Prop :=
  site.verb ∈ site.admits old ∧ site.verb ∉ site.admits new ∧
    (¬(site.verb ∈ old.approved ∧ site.verb ∉ new.approved) ∨ site.scanned ≠ some site.verb)

def Site.Unreported (old new : Catalog) (site : Site) : Prop :=
  ∀ verb, site.scanned = some verb → verb ∉ difference old.approved new.approved

omit [TextCase] [TextOf] in
theorem admitted_iff_not_missed {old new : Catalog} {site : Site}
    (unreported : site.Unreported old new) (admitted : site.verb ∈ site.admits old) :
    site.verb ∈ site.admits new ↔ ¬site.Missed old new := by
  constructor
  · exact fun stays missed => missed.2.1 stays
  · intro notMissed
    by_contra lost
    apply notMissed
    refine ⟨admitted, lost, ?_⟩
    by_cases scanned : site.scanned = some site.verb
    · left
      intro removed
      exact unreported site.verb scanned (mem_difference.mpr removed)
    · exact .inr scanned

def comparedVerb (verb : String) : Option String :=
  if verb = "" then none else some verb

def endpointSite (endpoint : Document) : Site where
  verb := endpointVerb endpoint
  scanned := comparedVerb (scannedMethod endpoint)
  admits := Catalog.protocolVerbs

def stepSite (verb : String) : Site where
  verb := verb
  scanned := comparedVerb verb
  admits := Catalog.protocolVerbs

def nameSite (admits : Catalog → List String) (name : Json) : Site where
  verb := normalizeMethodName name
  scanned := recordedVerb name
  admits := admits

def directiveSites : Directive → List Site
  | .allow name => [nameSite Catalog.protocolVerbs name]
  | .disallow name => [nameSite withLegacy name]
  | .legacy name => [nameSite Catalog.legacyVerbs name]
  | .redirect (.object entry) => [
      nameSite withLegacy (getOr entry "from_method" (.string "")),
      nameSite withLegacy (getOr entry "to_method" (.string ""))]
  | .redirect _ => []
  | .aliased _ target => [⟨normalizeMethodName target, none, withLegacy⟩]

def pathSegments (path : String) : List (List Char) :=
  (Text.splitCharacters '/' (PathGrammar.urlParse path).2).filter (!List.isEmpty ·)

/-- A segment that spells a verb under the new catalog only. But either that is a legacy verb,
or it is no segment of the path as it is written. -/
def SegmentMissed (old new : Catalog) (endpoint : Document) : Prop :=
  ∃ segment ∈ pathSegments (get endpoint "path").str,
    PathGrammar.isParameter segment = false ∧
      PathGrammar.normalized segment ∉ old.pathProtocolVerbs ∧
      PathGrammar.normalized segment ∈ new.pathProtocolVerbs ∧
      (PathGrammar.normalized segment ∉ new.approved ∨
        segment ∉ rawSegments (scannedPath endpoint))

/-- Nothing that the old catalog accepts is missed. -/
structure Unmissed (old new : Catalog) (source : String) (deployment : Deployment) : Prop where
  endpoints : ∀ entry ∈ deployment.endpoints, endpointAccepted old entry.2 →
    ∀ endpoint, get entry.2 "endpoint" = .object endpoint →
      ¬(endpointSite endpoint).Missed old new ∧ ¬SegmentMissed old new endpoint
  recipes : ∀ entry ∈ deployment.recipes, ∀ recipes, loadRecipes entry.2 = some recipes →
    ∀ recipe ∈ recipes, ∀ verb ∈ recipe.2, ¬(stepSite verb).Missed old new
  policy : ∀ entry ∈ deployment.server, ∀ methods, methodsTable entry.2 = .ok (.object methods) →
    ∀ policy, MethodsPolicy.fromTable old source (.object methods) = .ok policy →
      ∀ directive ∈ directives methods, keeps old source directive = true →
        ∀ site ∈ directiveSites directive, ¬site.Missed old new

/-! ## Directives that are kept -/

omit [TextOf] in
theorem isApprovedVerb_upper (catalog : Catalog) (name : String) :
    catalog.isApprovedVerb (upper name) = true ↔ upper name ∈ catalog.protocolVerbs := by
  rw [Catalog.isApprovedVerb, TextCase.upper_upper, List.contains_iff_mem]

theorem verbInCatalog_iff (catalog : Catalog) (name : Json) :
    (verbInCatalog catalog false (normalizeMethodName name) = true ↔
        normalizeMethodName name ∈ catalog.protocolVerbs) ∧
      (verbInCatalog catalog true (normalizeMethodName name) = true ↔
        normalizeMethodName name ∈ withLegacy catalog) := by
  have same : upper (normalizeMethodName name) = normalizeMethodName name :=
    TextCase.upper_upper _
  have approved := isApprovedVerb_upper catalog (normalizeMethodName name)
  rw [same] at approved
  unfold verbInCatalog withLegacy
  rw [same, same, Bool.false_and, Bool.or_false, Bool.true_and, Bool.or_eq_true, approved,
    List.contains_iff_mem, List.mem_append]
  exact ⟨Iff.rfl, Iff.rfl⟩

def Shaped : Directive → Prop
  | .redirect (.object entry) =>
      ¬(normalizeMethodName (getOr entry "from_method" (.string "")) = "" ∨
        normalizeMethodName (getOr entry "to_method" (.string "")) = "") ∧
      ((MethodsPolicy.redirectTarget (get entry "from_path")).isNone !=
        (MethodsPolicy.redirectTarget (get entry "to_path")).isNone) = false
  | .redirect _ => False
  | .aliased source target =>
      ¬(upper (Text.strip source) = "" ∨ normalizeMethodName target = "")
  | _ => True

theorem keeps_iff (catalog : Catalog) (source : String) (directive : Directive) :
    keeps catalog source directive = true ↔ Shaped directive ∧
      ∀ site ∈ directiveSites directive, site.verb ∈ site.admits catalog := by
  cases directive with
  | allow name => simpa [keeps, Shaped, directiveSites, nameSite] using (verbInCatalog_iff catalog name).1
  | disallow name =>
      simpa [keeps, Shaped, directiveSites, nameSite] using (verbInCatalog_iff catalog name).2
  | legacy name =>
      simp only [keeps, Shaped, directiveSites, nameSite, List.forall_mem_singleton, true_and]
      unfold readLegacyVerb
      dsimp only
      rw [← List.contains_iff_mem]
      cases catalog.legacyVerbs.contains (normalizeMethodName name) with
      | true => exact ⟨fun _ => rfl, fun _ => rfl⟩
      | false => exact ⟨nofun, nofun⟩
  | redirect entry =>
      cases entry with
      | object entry =>
          simp only [keeps, Shaped, directiveSites, nameSite, List.forall_mem_cons,
            List.not_mem_nil, false_implies, implies_true, and_true]
          rw [← (verbInCatalog_iff catalog _).2, ← (verbInCatalog_iff catalog _).2]
          unfold readRedirect
          dsimp only
          split
          · next unnamed => exact ⟨nofun, fun ⟨⟨named, _⟩, _⟩ => absurd unnamed named⟩
          · next named =>
              cases (MethodsPolicy.redirectTarget (get entry "from_path")).isNone !=
                  (MethodsPolicy.redirectTarget (get entry "to_path")).isNone with
              | true => exact ⟨nofun, nofun⟩
              | false =>
                  rw [if_neg Bool.false_ne_true]
                  cases verbInCatalog catalog true
                      (normalizeMethodName (getOr entry "from_method" (.string ""))) with
                  | false => exact ⟨nofun, nofun⟩
                  | true =>
                      cases verbInCatalog catalog true
                          (normalizeMethodName (getOr entry "to_method" (.string ""))) with
                      | false => exact ⟨nofun, nofun⟩
                      | true => exact ⟨fun _ => ⟨⟨named, rfl⟩, rfl, rfl⟩, fun _ => rfl⟩
      | _ => simp [keeps, Shaped, readRedirect, keptIn]
  | aliased name target =>
      simp only [keeps, Shaped, directiveSites, List.forall_mem_singleton]
      rw [← (verbInCatalog_iff catalog _).2]
      unfold readAlias
      dsimp only
      split
      · next unnamed => exact ⟨nofun, fun ⟨named, _⟩ => absurd unnamed named⟩
      · next named =>
          cases verbInCatalog catalog true (normalizeMethodName target) with
          | false => exact ⟨nofun, nofun⟩
          | true => exact ⟨fun _ => ⟨named, rfl⟩, fun _ => rfl⟩

/-! ## Tables that are read -/

section Tables

variable {old new : Catalog} {source : String}

theorem readAllow_new {value : Json}
    (fine : Fallible.Succeeds (MethodsPolicy.readAllow old source value)) :
    Fallible.Succeeds (MethodsPolicy.readAllow new source value) := by
  unfold MethodsPolicy.readAllow at fine
  split at fine
  · exact ⟨_, rfl⟩
  · exact ⟨_, rfl⟩
  · exact ⟨_, rfl⟩
  · cases fine with
    | intro _ same => cases same

theorem readDisallow_new {value : Json}
    (fine : Fallible.Succeeds (MethodsPolicy.readDisallow old source value)) :
    Fallible.Succeeds (MethodsPolicy.readDisallow new source value) := by
  unfold MethodsPolicy.readDisallow at fine
  split at fine
  · exact ⟨_, rfl⟩
  · cases fine with
    | intro _ same => cases same

omit [TextCase] [TextOf] in
theorem succeeds_of_map {Value Result : Type} {change : Value → Result}
    {outcome : Except String Value} (fine : Fallible.Succeeds (outcome.map change)) :
    Fallible.Succeeds outcome := by
  cases outcome with
  | error failure => cases fine with
    | intro _ same => cases same
  | ok value => exact ⟨value, rfl⟩

omit [TextCase] [TextOf] in
theorem succeeds_map {Value Result : Type} {outcome : Except String Value}
    (fine : Fallible.Succeeds outcome) (change : Value → Result) :
    Fallible.Succeeds (outcome.map change) := by
  rcases fine with ⟨value, same⟩
  exact ⟨change value, by rw [same]; rfl⟩

theorem readRedirect_new {entry : Json}
    (fine : Fallible.Succeeds (readRedirect old source entry)) :
    Fallible.Succeeds (readRedirect new source entry) := by
  cases entry with
  | object entry =>
      unfold readRedirect at fine ⊢
      dsimp only at fine ⊢
      split at fine
      · cases fine with
        | intro _ same => cases same
      · next named =>
          rw [if_neg named]
          split at fine
          · cases fine with
            | intro _ same => cases same
          · next paths =>
              rw [if_neg paths]
              split
              · exact ⟨_, rfl⟩
              · exact ⟨_, rfl⟩
  | _ => cases fine with
    | intro _ same => cases same

theorem readAlias_new {entry : String × Json} (fine : Fallible.Succeeds (readAlias old entry)) :
    Fallible.Succeeds (readAlias new entry) := by
  unfold readAlias at fine ⊢
  dsimp only at fine ⊢
  split at fine
  · cases fine with
    | intro _ same => cases same
  · next named =>
      rw [if_neg named]
      split
      · exact ⟨_, rfl⟩
      · exact ⟨_, rfl⟩

theorem readRedirects_new {value : Json}
    (fine : Fallible.Succeeds (MethodsPolicy.readRedirects old source value)) :
    Fallible.Succeeds (MethodsPolicy.readRedirects new source value) := by
  cases value with
  | array entries =>
      apply succeeds_map
      have all := Fallible.succeeds_map_iff.mp (succeeds_of_map fine)
      exact Fallible.succeeds_map_iff.mpr fun entry member => readRedirect_new (all entry member)
  | _ => cases fine with
    | intro _ same => cases same

theorem readAliases_new {value : Json}
    (fine : Fallible.Succeeds (MethodsPolicy.readAliases old source value)) :
    Fallible.Succeeds (MethodsPolicy.readAliases new source value) := by
  cases value with
  | null => exact ⟨_, rfl⟩
  | object entries =>
      apply succeeds_map
      have all := Fallible.succeeds_map_iff.mp (succeeds_of_map fine)
      exact Fallible.succeeds_map_iff.mpr fun entry member => readAlias_new (all entry member)
  | _ => cases fine with
    | intro _ same => cases same

theorem keeps_legacy_iff {name : Json} :
    keeps new source (.legacy name) = true ↔
      Fallible.Succeeds (readLegacyVerb new source name) := by
  change (readLegacyVerb new source name).isOk = true ↔ _
  cases readLegacyVerb new source name with
  | ok verb => exact ⟨fun _ => ⟨verb, rfl⟩, fun _ => rfl⟩
  | error failure => exact ⟨nofun, nofun⟩

theorem readLegacy_new {value : Json}
    (fine : Fallible.Succeeds (MethodsPolicy.readLegacy old source value))
    (kept : ∀ name ∈ listed value, keeps old source (.legacy name) = true →
      keeps new source (.legacy name) = true) :
    Fallible.Succeeds (MethodsPolicy.readLegacy new source value) := by
  cases value with
  | null => exact ⟨_, rfl⟩
  | array names =>
      apply succeeds_map
      have all := Fallible.succeeds_map_iff.mp (succeeds_of_map fine)
      apply Fallible.succeeds_map_iff.mpr
      intro name member
      exact keeps_legacy_iff.mp (kept name member (keeps_legacy_iff.mpr (all name member)))
  | string text =>
      unfold MethodsPolicy.readLegacy at fine ⊢
      dsimp only at fine ⊢
      split at fine
      · next every =>
          rw [if_pos every]
          exact ⟨_, rfl⟩
      · next other =>
          rw [if_neg other]
          exact fine
  | bool _ => exact fine
  | int _ => exact fine
  | float _ => exact fine
  | object _ => exact fine

theorem fromTable_succeeds_iff {catalog : Catalog} {table : Document} :
    Fallible.Succeeds (MethodsPolicy.fromTable catalog source (.object table)) ↔
      Fallible.Succeeds (MethodsPolicy.readAllow catalog source (get table "allow")) ∧
      Fallible.Succeeds
        (MethodsPolicy.readDisallow catalog source (getOr table "disallow" (.array []))) ∧
      Fallible.Succeeds (MethodsPolicy.readLegacy catalog source (get table "legacy")) ∧
      Fallible.Succeeds
        (MethodsPolicy.readRedirects catalog source (getOr table "redirects" (.array []))) ∧
      Fallible.Succeeds (MethodsPolicy.readAliases catalog source (get table "aliases")) := by
  unfold MethodsPolicy.fromTable
  dsimp only
  cases MethodsPolicy.readAllow catalog source (get table "allow") with
  | error => exact ⟨nofun, fun fine => nomatch fine.1⟩
  | ok allow =>
      cases MethodsPolicy.readDisallow catalog source (getOr table "disallow" (.array [])) with
      | error => exact ⟨nofun, fun fine => nomatch fine.2.1⟩
      | ok disallow =>
          cases MethodsPolicy.readLegacy catalog source (get table "legacy") with
          | error => exact ⟨nofun, fun fine => nomatch fine.2.2.1⟩
          | ok legacy =>
              cases MethodsPolicy.readRedirects catalog source
                  (getOr table "redirects" (.array [])) with
              | error => exact ⟨nofun, fun fine => nomatch fine.2.2.2.1⟩
              | ok redirects =>
                  cases MethodsPolicy.readAliases catalog source (get table "aliases") with
                  | error => exact ⟨nofun, fun fine => nomatch fine.2.2.2.2⟩
                  | ok aliases =>
                      exact ⟨fun _ => ⟨⟨_, rfl⟩, ⟨_, rfl⟩, ⟨_, rfl⟩, ⟨_, rfl⟩, _, rfl⟩,
                        fun _ => ⟨_, rfl⟩⟩

omit [TextCase] [TextOf] in
theorem mem_directives_legacy {table : Document} {name : Json}
    (member : name ∈ listed (get table "legacy")) : .legacy name ∈ directives table := by
  unfold directives
  simp only [List.mem_append]
  exact .inl (.inl (.inr (List.mem_map_of_mem member)))

theorem fromTable_new {table : Document} {policy : MethodsPolicy}
    (read : MethodsPolicy.fromTable old source (.object table) = .ok policy)
    (kept : ∀ directive ∈ directives table,
      keeps old source directive = true → keeps new source directive = true) :
    ∃ next, MethodsPolicy.fromTable new source (.object table) = .ok next := by
  rcases fromTable_succeeds_iff.mp ⟨policy, read⟩ with
    ⟨allow, disallow, legacy, redirects, aliases⟩
  apply fromTable_succeeds_iff.mpr
  exact ⟨readAllow_new allow, readDisallow_new disallow,
    readLegacy_new legacy fun name member => kept _ (mem_directives_legacy member),
    readRedirects_new redirects, readAliases_new aliases⟩

end Tables

/-! ## Paths -/

def Formed (path : String) : Prop :=
  path.toList.head? = some '/' ∧ ¬(path ≠ "/" ∧ path.toList.getLast? = some '/') ∧
    (PathGrammar.urlParse path).1 = []

theorem validatePath_iff (catalog : Catalog) (path : String) :
    PathGrammar.validatePath catalog path = .ok () ↔ Formed path ∧
      ∀ segment ∈ pathSegments path, PathGrammar.spellsVerb catalog segment = false := by
  unfold PathGrammar.validatePath Formed
  by_cases start : path.toList.head? = some '/'
  · rw [if_neg (not_not_intro start)]
    by_cases slash : path ≠ "/" ∧ path.toList.getLast? = some '/'
    · rw [if_pos slash]
      exact ⟨fun same => (by cases same), fun formed => absurd slash formed.1.2.1⟩
    · rw [if_neg slash]
      by_cases relative : (PathGrammar.urlParse path).1 = []
      · rw [if_neg (not_not_intro relative)]
        dsimp only
        cases found : (pathSegments path).find? (PathGrammar.spellsVerb catalog) with
        | some segment =>
            have first := found
            rw [pathSegments] at first
            rw [first]
            refine ⟨fun same => (by cases same), fun formed => ?_⟩
            have spells := List.find?_some found
            rw [formed.2 segment (List.mem_of_find?_eq_some found)] at spells
            cases spells
        | none =>
            have clean := found
            rw [pathSegments] at clean
            rw [clean]
            refine ⟨fun _ => ⟨⟨start, slash, relative⟩, fun segment member => ?_⟩, fun _ => rfl⟩
            exact Bool.not_eq_true _ ▸ List.find?_eq_none.mp found segment member
      · rw [if_pos relative]
        exact ⟨fun same => (by cases same), fun formed => absurd formed.1.2.2 relative⟩
  · rw [if_pos start]
    exact ⟨fun same => (by cases same), fun formed => absurd formed.1.1 start⟩

omit [TextOf] in
theorem spellsVerb_false_iff {catalog : Catalog} {segment : List Char} :
    PathGrammar.spellsVerb catalog segment = false ↔
      (PathGrammar.isParameter segment = false →
        PathGrammar.normalized segment ∉ catalog.pathProtocolVerbs) := by
  unfold PathGrammar.spellsVerb
  cases PathGrammar.isParameter segment with
  | true => exact ⟨fun _ => nofun, fun _ => rfl⟩
  | false => simp

theorem validatePath_iff_not_missed {old new : Catalog} {endpoint : Document}
    (accepted : PathGrammar.validatePath old (get endpoint "path").str = .ok ())
    (unreported : ∀ segment ∈ rawSegments (scannedPath endpoint),
      PathGrammar.isParameter segment = false →
        PathGrammar.normalized segment ∉ difference new.approved old.approved) :
    PathGrammar.validatePath new (get endpoint "path").str = .ok () ↔
      ¬SegmentMissed old new endpoint := by
  rw [validatePath_iff] at accepted ⊢
  constructor
  · intro ⟨_, plain⟩ ⟨segment, member, text, _, spelled, _⟩
    exact spellsVerb_false_iff.mp (plain segment member) text spelled
  · intro notMissed
    refine ⟨accepted.1, fun segment member => spellsVerb_false_iff.mpr fun text spelled => ?_⟩
    have before := spellsVerb_false_iff.mp (accepted.2 segment member) text
    apply notMissed
    refine ⟨segment, member, text, before, spelled, ?_⟩
    by_cases raw : segment ∈ rawSegments (scannedPath endpoint)
    · left
      intro approved
      apply unreported segment raw text
      apply mem_difference.mpr
      exact ⟨approved, fun own => before (List.mem_append_left _ own)⟩
    · exact .inr raw

/-! ## What is not reported -/

omit [TextCase] [TextOf] in
theorem mem_of_mapM {Item Result : Type} {load : Item → Option Result} {items : List Item}
    {results : List Result} (loaded : items.mapM load = some results) {result : Result}
    (member : result ∈ results) : ∃ item ∈ items, load item = some result := by
  induction items generalizing results with
  | nil =>
      cases loaded
      cases member
  | cons item rest induction =>
      rw [List.mapM_cons, Option.bind_eq_bind, Option.bind_eq_some_iff] at loaded
      rcases loaded with ⟨first, firstLoaded, others⟩
      rw [Option.bind_eq_bind, Option.bind_eq_some_iff] at others
      rcases others with ⟨more, moreLoaded, same⟩
      cases same
      rcases List.mem_cons.mp member with same | later
      · subst same
        exact ⟨item, List.mem_cons_self, firstLoaded⟩
      · rcases induction moreLoaded later with ⟨origin, listed, load⟩
        exact ⟨origin, List.mem_cons_of_mem _ listed, load⟩

omit [TextCase] [TextOf] in
theorem getOr_object {table members : Document} {name : String}
    (found : get table name = .object members) : getOr table name (.object []) = .object members := by
  unfold Json.get at found
  unfold getOr
  cases member : Json.member table name with
  | none =>
      rw [member] at found
      cases found
  | some value =>
      rw [member] at found
      cases found
      cases members with
      | nil => rfl
      | cons => rfl

omit [TextCase] [TextOf] in
theorem listed_getOr (table : Document) (name : String) :
    listed (getOr table name (.array [])) = listed (getDefault table name (.array [])) := by
  unfold getOr getDefault
  cases Json.member table name with
  | none => rfl
  | some value =>
      dsimp only [Option.getD_some]
      cases truthy : value.truthy with
      | true => rfl
      | false =>
          rw [if_neg Bool.false_ne_true]
          cases value with
          | array values =>
              cases values with
              | nil => rfl
              | cons => cases truthy
          | _ => rfl

theorem unreported_endpoint {diff : CatalogDiff} {file : String} {document endpoint : Document}
    (found : get document "endpoint" = .object endpoint)
    (silent : scanEndpoint diff file document = []) :
    (∀ verb, comparedVerb (scannedMethod endpoint) = some verb → verb ∉ diff.removed) ∧
      ∀ segment ∈ rawSegments (scannedPath endpoint),
        PathGrammar.isParameter segment = false →
          PathGrammar.normalized segment ∉ diff.added := by
  rw [scanEndpoint, getOr_object found] at silent
  dsimp only at silent
  rcases List.append_eq_nil_iff.mp silent with ⟨noVerb, noSegment⟩
  constructor
  · intro verb compared removed
    unfold comparedVerb at compared
    by_cases unnamed : scannedMethod endpoint = ""
    · rw [if_pos unnamed] at compared
      cases compared
    · rw [if_neg unnamed] at compared
      cases compared
      rw [if_pos ⟨unnamed, removed⟩] at noVerb
      cases noVerb
  · intro segment member text added
    have none := List.filterMap_eq_nil_iff.mp noSegment segment member
    unfold segmentConflict at none
    rw [if_neg (by rw [text]; exact Bool.false_ne_true)] at none
    dsimp only at none
    rw [if_pos added] at none
    cases none

omit [TextOf] in
theorem loadStep_eq_some {step : Json} {verb : String} (loaded : loadStep step = some verb) :
    ∃ table method, step = .object table ∧ Json.member table "method" = some (.string method) ∧
      method ≠ "" ∧ verb = upper method := by
  cases step with
  | object table =>
      unfold loadStep at loaded
      simp only [tableOf, Option.bind_eq_bind, Option.bind_some] at loaded
      rcases Option.bind_eq_some_iff.mp loaded with ⟨method, named, rest⟩
      rcases Option.bind_eq_some_iff.mp rest with ⟨parameters, _, last⟩
      have isVerb : verb = upper method := by
        split at last
        · exact (Option.some.inj last).symm
        · cases last
      refine ⟨table, method, rfl, ?_⟩
      unfold someText Json.get at named
      cases found : Json.member table "method" with
      | none =>
          rw [found] at named
          cases named
      | some value =>
          rw [found] at named
          cases value with
          | string text =>
              dsimp only [Option.getD_some] at named
              split at named
              · cases named
              · next some =>
                  cases named
                  exact ⟨rfl, some, isVerb⟩
          | _ => cases named
  | _ => cases loaded

theorem unreported_step {removed : List String} {file recipe : String} {position : Nat}
    {step : Json} {verb : String} (loaded : loadStep step = some verb)
    (silent : stepConflict removed file recipe position step = none) :
    ∀ compared, comparedVerb verb = some compared → compared ∉ removed := by
  intro compared same member
  rcases loadStep_eq_some loaded with ⟨table, method, isTable, found, some, isVerb⟩
  subst isTable
  have scanned : scannedMethod table = verb := by
    have truthy : (Json.string method).truthy = true := by simp [Json.truthy, some]
    unfold scannedMethod getOr
    rw [found, isVerb]
    dsimp only
    rw [if_pos truthy]
    rfl
  unfold stepConflict at silent
  dsimp only at silent
  rw [scanned] at silent
  unfold comparedVerb at same
  by_cases unnamed : verb = ""
  · rw [if_pos unnamed] at same
    cases same
  · rw [if_neg unnamed] at same
    cases same
    rw [if_pos ⟨unnamed, member⟩] at silent
    cases silent

omit [TextOf] in
theorem loadRecipe_steps {recipe : Json} {name : String} {verbs : List String}
    (loaded : loadRecipe recipe = some (name, verbs)) {verb : String} (member : verb ∈ verbs) :
    ∃ table, recipe = .object table ∧
      ∃ step ∈ listed (getOr table "steps" (.array [])), loadStep step = some verb := by
  cases recipe with
  | object table =>
      unfold loadRecipe at loaded
      simp only [tableOf, Option.bind_eq_bind, Option.bind_some] at loaded
      rcases Option.bind_eq_some_iff.mp loaded with ⟨_, _, rest⟩
      rcases Option.bind_eq_some_iff.mp rest with ⟨_, _, rest⟩
      rcases Option.bind_eq_some_iff.mp rest with ⟨_, _, rest⟩
      rcases Option.bind_eq_some_iff.mp rest with ⟨steps, stepsLoaded, last⟩
      have same : steps = verbs := by
        split at last
        · exact congrArg Prod.snd (Option.some.inj last)
        · cases last
      subst same
      rw [← listed_getOr] at stepsLoaded
      exact ⟨table, rfl, mem_of_mapM stepsLoaded member⟩
  | _ => cases loaded

omit [TextOf] in
theorem loadRecipes_entries {document : Document} {recipes : List (String × List String)}
    (loaded : loadRecipes document = some recipes) {recipe : String × List String}
    (member : recipe ∈ recipes) :
    ∃ entry ∈ listed (getOr document "recipe" (.array [])), loadRecipe entry = some recipe := by
  unfold loadRecipes at loaded
  split at loaded
  · next entries found =>
      rcases Option.bind_eq_some_iff.mp loaded with ⟨others, entriesLoaded, last⟩
      have same : others = recipes := by
        split at last
        · exact Option.some.inj last
        · cases last
      subst same
      rw [listed_getOr, found]
      exact mem_of_mapM entriesLoaded member
  · cases loaded

theorem unreported_verb {removed : List String} {file : String} {document : Document}
    {recipes : List (String × List String)} (loaded : loadRecipes document = some recipes)
    (silent : scanRecipes removed file document = []) {recipe : String × List String}
    (member : recipe ∈ recipes) {verb : String} (inRecipe : verb ∈ recipe.2) :
    upper verb = verb ∧
      ∀ compared, comparedVerb verb = some compared → compared ∉ removed := by
  rcases loadRecipes_entries loaded member with ⟨entry, inEntries, entryLoaded⟩
  rcases loadRecipe_steps entryLoaded inRecipe with ⟨table, isTable, step, inSteps, stepLoaded⟩
  subst isTable
  constructor
  · rcases loadStep_eq_some stepLoaded with ⟨_, method, _, _, _, isVerb⟩
    rw [isVerb, TextCase.upper_upper]
  · have entrySilent := List.flatMap_eq_nil_iff.mp silent _ inEntries
    rcases List.mem_iff_getElem?.mp inSteps with ⟨position, found⟩
    exact unreported_step stepLoaded (List.filterMap_eq_nil_iff.mp entrySilent _
      (List.mk_mem_zipIdx_iff_getElem?.mpr found))

theorem unreported_name {old new : Catalog} {file directive : String} {name : Json}
    (silent : record (difference old.approved new.approved) file directive name = [])
    (admits : Catalog → List String) : (nameSite admits name).Unreported old new := by
  intro verb scanned removed
  have scannedName : recordedVerb name = some verb := scanned
  unfold record at silent
  rw [scannedName] at silent
  dsimp only at silent
  rw [if_pos removed] at silent
  cases silent

theorem unreported_policy {old new : Catalog} {file : String} {document methods : Document}
    (found : methodsTable document = .ok (.object methods))
    (silent : scanMethodPolicy (difference old.approved new.approved) file document = .ok []) :
    ∀ directive ∈ directives methods, ∀ site ∈ directiveSites directive,
      site.Unreported old new := by
  have scanned : scanTable (difference old.approved new.approved) file methods = .ok [] := by
    unfold scanMethodPolicy at silent
    rw [found] at silent
    exact silent
  unfold scanTable at scanned
  rcases Fallible.ok_of_bind scanned with ⟨disallow, disallowRead, rest⟩
  rcases Fallible.ok_of_bind rest with ⟨redirects, redirectsRead, last⟩
  have nothing := Except.ok.inj last
  simp only [List.append_eq_nil_iff] at nothing
  rcases nothing with ⟨⟨⟨noAllow, noDisallow⟩, noLegacy⟩, noRedirect⟩
  have inList {value : Json} {items : List Json} (read : value.iterate = .ok items) :
      ∀ item ∈ listed value, item ∈ items := by
    intro item member
    cases value with
    | array values =>
        cases read
        exact member
    | _ => cases member
  intro directive member site inSites
  unfold directives at member
  simp only [List.mem_append, List.mem_map] at member
  rcases member with (((⟨name, inNames, same⟩ | ⟨name, inNames, same⟩) |
    ⟨name, inNames, same⟩) | ⟨entry, inEntries, same⟩) | ⟨entry, inEntries, same⟩
  · subst same
    rw [List.mem_singleton.mp inSites]
    exact unreported_name (List.flatMap_eq_nil_iff.mp noAllow name inNames) _
  · subst same
    rw [List.mem_singleton.mp inSites]
    exact unreported_name
      (List.flatMap_eq_nil_iff.mp noDisallow name (inList disallowRead name inNames)) _
  · subst same
    rw [List.mem_singleton.mp inSites]
    exact unreported_name (List.flatMap_eq_nil_iff.mp noLegacy name inNames) _
  · subst same
    have none := List.flatMap_eq_nil_iff.mp noRedirect entry (inList redirectsRead entry inEntries)
    cases entry with
    | object entry =>
        rcases List.append_eq_nil_iff.mp none with ⟨noSource, noTarget⟩
        rcases List.mem_cons.mp inSites with same | later
        · rw [same]
          exact unreported_name noSource _
        · rw [List.mem_singleton.mp later]
          exact unreported_name noTarget _
    | _ => cases inSites
  · subst same
    rw [List.mem_singleton.mp inSites]
    exact nofun

theorem silent_parts {diff : CatalogDiff} {deployment : Deployment}
    (silent : scanDeployment diff deployment = .ok []) :
    (∀ entry ∈ deployment.endpoints, scanEndpoint diff entry.1 entry.2 = []) ∧
      (∀ entry ∈ deployment.recipes, scanRecipes diff.removed entry.1 entry.2 = []) ∧
      ∀ entry ∈ deployment.server, scanMethodPolicy diff.removed entry.1 entry.2 = .ok [] := by
  unfold scanDeployment at silent
  rcases Fallible.ok_of_bind silent with ⟨recipes, recipesScanned, rest⟩
  rcases Fallible.ok_of_bind rest with ⟨policy, policyScanned, last⟩
  have nothing := Except.ok.inj last
  simp only [List.append_eq_nil_iff] at nothing
  rcases nothing with ⟨⟨noEndpoint, noRecipe⟩, noPolicy⟩
  subst noRecipe noPolicy
  refine ⟨fun entry member => List.flatMap_eq_nil_iff.mp noEndpoint entry member, ?_, ?_⟩
  · intro entry found
    rw [Option.mem_def.mp found] at recipesScanned
    exact Except.ok.inj recipesScanned
  · intro entry found
    rw [Option.mem_def.mp found] at policyScanned
    exact policyScanned

/-! ## What makes the check sound -/

section Parts

variable {old new : Catalog}

theorem endpointAccepted_iff {file : String} {document : Document}
    (silent : scanEndpoint (diffCatalogs old new) file document = [])
    (accepted : endpointAccepted old document) :
    endpointAccepted new document ↔
      ∀ endpoint, get document "endpoint" = .object endpoint →
        ¬(endpointSite endpoint).Missed old new ∧ ¬SegmentMissed old new endpoint := by
  rcases accepted with ⟨endpoint, found, approved, path, grammar⟩
  rcases unreported_endpoint found silent with ⟨noVerb, noSegment⟩
  have verbs := @admitted_iff_not_missed old new (endpointSite endpoint) noVerb
    ((isApprovedVerb_upper old _).mp approved)
  have paths := validatePath_iff_not_missed grammar noSegment
  have approvedNew : new.isApprovedVerb (endpointVerb endpoint) = true ↔
      ¬(endpointSite endpoint).Missed old new := (isApprovedVerb_upper new _).trans verbs
  constructor
  · intro ⟨other, otherFound, otherApproved, _, otherGrammar⟩ again againFound
    rw [found] at otherFound againFound
    cases otherFound
    cases againFound
    exact ⟨approvedNew.mp otherApproved, paths.mp otherGrammar⟩
  · intro notMissed
    rcases notMissed endpoint found with ⟨verbStays, pathStays⟩
    exact ⟨endpoint, found, approvedNew.mpr verbStays, path, paths.mpr pathStays⟩

theorem stepAccepted_iff {file : String} {document : Document}
    {recipes : List (String × List String)} (loaded : loadRecipes document = some recipes)
    (silent : scanRecipes (difference old.approved new.approved) file document = [])
    {recipe : String × List String} (member : recipe ∈ recipes) {verb : String}
    (inRecipe : verb ∈ recipe.2) :
    (old.isApprovedVerb verb = true → new.isApprovedVerb verb = true) ↔
      ¬(stepSite verb).Missed old new := by
  rcases unreported_verb loaded silent member inRecipe with ⟨isUpper, unreported⟩
  have approved (catalog : Catalog) :
      catalog.isApprovedVerb verb = true ↔ verb ∈ catalog.protocolVerbs := by
    have iff := isApprovedVerb_upper catalog verb
    rw [isUpper] at iff
    exact iff
  rw [approved, approved]
  constructor
  · exact fun stays missed => missed.2.1 (stays missed.1)
  · intro notMissed admitted
    exact (@admitted_iff_not_missed old new (stepSite verb) unreported admitted).mpr notMissed

theorem directiveKept_iff {source file : String} {document methods : Document}
    (found : methodsTable document = .ok (.object methods))
    (silent : scanMethodPolicy (difference old.approved new.approved) file document = .ok [])
    {directive : Directive} (member : directive ∈ directives methods)
    (kept : keeps old source directive = true) :
    keeps new source directive = true ↔
      ∀ site ∈ directiveSites directive, ¬site.Missed old new := by
  rcases (keeps_iff old source directive).mp kept with ⟨shaped, admitted⟩
  have unreported := unreported_policy found silent directive member
  rw [keeps_iff]
  constructor
  · intro ⟨_, stays⟩ site inSites
    exact (admitted_iff_not_missed (unreported site inSites) (admitted site inSites)).mp
      (stays site inSites)
  · intro notMissed
    refine ⟨shaped, fun site inSites => ?_⟩
    exact (admitted_iff_not_missed (unreported site inSites) (admitted site inSites)).mpr
      (notMissed site inSites)

theorem kept_iff_unmissed {source : String} {deployment : Deployment}
    (silent : scanDeployment (diffCatalogs old new) deployment = .ok []) :
    Kept old new source deployment ↔ Unmissed old new source deployment := by
  rcases silent_parts silent with ⟨noEndpoint, noRecipe, noPolicy⟩
  constructor
  · intro kept
    exact {
      endpoints := fun entry member accepted =>
        (endpointAccepted_iff (noEndpoint entry member) accepted).mp
          (kept.endpoints entry member accepted)
      recipes := fun entry found recipes loaded recipe member verb inRecipe =>
        (stepAccepted_iff loaded (noRecipe entry found) member inRecipe).mp
          (kept.recipes entry found recipes loaded recipe member verb inRecipe)
      policy := fun entry found methods table policy read directive member own =>
        (directiveKept_iff table (noPolicy entry found) member own).mp
          ((kept.policy entry found methods table policy read).2 directive member own) }
  · intro unmissed
    have directiveKept : ∀ entry ∈ deployment.server, ∀ methods,
        methodsTable entry.2 = .ok (.object methods) →
        ∀ policy, MethodsPolicy.fromTable old source (.object methods) = .ok policy →
        ∀ directive ∈ directives methods,
          keeps old source directive = true → keeps new source directive = true := by
      intro entry found methods table policy read directive member own
      exact (directiveKept_iff table (noPolicy entry found) member own).mpr
        (unmissed.policy entry found methods table policy read directive member own)
    exact {
      endpoints := fun entry member accepted =>
        (endpointAccepted_iff (noEndpoint entry member) accepted).mpr
          (unmissed.endpoints entry member accepted)
      recipes := fun entry found recipes loaded recipe member verb inRecipe =>
        (stepAccepted_iff loaded (noRecipe entry found) member inRecipe).mpr
          (unmissed.recipes entry found recipes loaded recipe member verb inRecipe)
      policy := fun entry found methods table policy read =>
        have kept := directiveKept entry found methods table policy read
        ⟨fromTable_new read kept, kept⟩ }

end Parts

/-- The check is sound for a deployment exactly if, where nothing is reported, nothing that the
old catalog accepts is missed. -/
theorem sound_iff (old new : Catalog) (source : String) (deployment : Deployment) :
    Sound old new source deployment ↔
      (scanDeployment (diffCatalogs old new) deployment = .ok [] →
        Unmissed old new source deployment) := by
  unfold Sound
  constructor
  · exact fun sound silent => (kept_iff_unmissed silent).mp (sound silent)
  · exact fun unmissed silent => (kept_iff_unmissed silent).mpr (unmissed silent)

end Scanning

end Agtp.CatalogUpgrade

namespace Agtp.CatalogUpgrade.Samples

open scoped Agtp.Plain

def before : Catalog := ⟨["FETCH", "BOOK"], [], []⟩

def after : Catalog := ⟨["FETCH"], [], []⟩

def aliasedMethods : Document := [("aliases", .object [("HIRE", .string "BOOK")])]

def aliasing : Deployment where
  endpoints := []
  recipes := none
  server := some ("agtp-server.toml",
    [("policies", .object [("methods", .object aliasedMethods)])])

/-- Nothing is reported of an alias, and the new catalog skips it. -/
theorem alias_missed : ¬Sound before after "agtp-server.toml" aliasing := by
  intro sound
  have kept := sound rfl
  have policy := kept.policy _ rfl aliasedMethods rfl _ rfl
  have lost := policy.2 (.aliased "HIRE" (.string "BOOK")) List.mem_cons_self rfl
  revert lost
  decide

end Agtp.CatalogUpgrade.Samples
