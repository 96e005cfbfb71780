import Agtp.Foundation.Renaming
import Agtp.Server.PolicyTable

/-! # Published policies

A server publishes its method policy in its manifest, and what is published can be read as a
policy again. -/

namespace Agtp

/-- Mapping to upper case leaves white space where it is. -/
class TrimmedCase [TextCase] : Prop where
  strip_upper : ∀ text, Text.strip (upper text) = upper (Text.strip text)

namespace MethodsPolicy

open Json (get getOr)

section Names

variable [TextCase]

def IsName (name : String) : Prop :=
  upper (Text.strip name) = name

theorem upper_of_isName {name : String} (isName : IsName name) : upper name = name := by
  rw [← isName, TextCase.upper_upper]

theorem isName_upper_strip [TrimmedCase] (text : String) : IsName (upper (Text.strip text)) := by
  rw [IsName, TrimmedCase.strip_upper, Text.strip_strip, TextCase.upper_upper]

theorem isName_of_capitals {name : String} (ascii : Text.isAscii name = true)
    (capital : ∀ character ∈ name.toList, character.toUpper = character)
    (solid : ∀ character ∈ name.toList, Text.isSpace character = false) : IsName name := by
  have kept : name.toList.map Char.toUpper = name.toList := by
    conv => rhs; rw [← List.map_id name.toList]
    exact List.map_congr_left capital
  rw [IsName, Text.strip_solid solid, TextCase.upper_ascii name ascii, Text.asciiUpper, kept,
    String.ofList_toList]

variable [TextOf]

theorem normalizeMethodName_string {name : String} (isName : IsName name) :
    normalizeMethodName (.string name) = name :=
  isName

theorem isName_normalizeMethodName [TrimmedCase] (name : Json) :
    IsName (normalizeMethodName name) :=
  isName_upper_strip name.str

end Names

/-! ## Sets of names -/

theorem mem_foldl_addName (names held : List String) (name : String) :
    name ∈ names.foldl addName held ↔ name ∈ held ∨ name ∈ names := by
  induction names generalizing held with
  | nil => simp
  | cons first rest induction =>
      rw [List.foldl_cons, induction, List.mem_cons, addName]
      split
      · next known =>
          constructor
          · exact fun member => member.imp_right .inr
          · intro member
            rcases member with early | rfl | late
            · exact .inl early
            · exact .inl known
            · exact .inr late
      · rw [List.mem_append, List.mem_singleton, or_assoc]

variable [TextCase] [TextOf] {catalog : Catalog}

theorem mem_namesInCatalog (allowLegacy : Bool) (names : List Json) (name : String) :
    name ∈ namesInCatalog catalog allowLegacy names ↔
      name ∈ names.map normalizeMethodName ∧ verbInCatalog catalog allowLegacy name = true := by
  rw [namesInCatalog, mem_foldl_addName, List.mem_filter]
  simp

theorem mem_namesInCatalog_published {allowLegacy : Bool} {names : List String}
    (kept : ∀ name ∈ names, IsName name ∧ verbInCatalog catalog allowLegacy name = true)
    (name : String) :
    name ∈ namesInCatalog catalog allowLegacy ((sortedNames names).map .string) ↔
      name ∈ names := by
  rw [mem_namesInCatalog, List.map_map, List.mem_map]
  constructor
  · intro ⟨⟨held, member, same⟩, _⟩
    have member := List.mem_mergeSort.mp member
    rw [Function.comp_apply, normalizeMethodName_string (kept held member).1] at same
    exact same ▸ member
  · intro member
    exact ⟨⟨name, List.mem_mergeSort.mpr member, normalizeMethodName_string (kept name member).1⟩,
      (kept name member).2⟩

/-! ## What a policy is made of -/

structure IsRedirect (catalog : Catalog) (entry : String × String × Option String) : Prop where
  source : ∃ method path, IsName method ∧ method ≠ "" ∧
    verbInCatalog catalog true method = true ∧ entry.1 = redirectKey method path ∧
    (redirectTarget path).isNone = entry.2.2.isNone
  target : IsName entry.2.1 ∧ entry.2.1 ≠ "" ∧ verbInCatalog catalog true entry.2.1 = true

structure IsAlias (catalog : Catalog) (entry : String × String) : Prop where
  source : IsName entry.1 ∧ entry.1 ≠ ""
  target : IsName entry.2 ∧ entry.2 ≠ "" ∧ verbInCatalog catalog true entry.2 = true

structure IsPolicy (catalog : Catalog) (policy : MethodsPolicy) : Prop where
  allow : ∀ name ∈ policy.allow, IsName name ∧ verbInCatalog catalog false name = true
  disallow : ∀ name ∈ policy.disallow, IsName name ∧ verbInCatalog catalog true name = true
  legacy : ∀ name ∈ policy.legacy, IsName name ∧ name ∈ catalog.legacyVerbs
  redirects : ∀ entry ∈ policy.redirects.entries, IsRedirect catalog entry
  aliases : ∀ entry ∈ policy.aliases.entries, IsAlias catalog entry

/-- The verbs of the catalog are names without blanks, and there are legacy verbs to
rewrite. -/
structure RegularVerbs (catalog : Catalog) : Prop where
  legacy : ∀ name ∈ catalog.legacyVerbs, IsName name
  solid : ∀ name ∈ catalog.protocolVerbs ++ catalog.legacyVerbs, ' ' ∉ name.toList
  seeds : ∀ entry ∈ (legacyAliasSeed catalog).entries, IsAlias catalog entry
  seeded : ∃ verb target, (legacyAliasSeed catalog).get? verb = some target ∧
    IsName verb ∧ target ≠ verb

theorem isName_of_namesInCatalog [TrimmedCase] {allowLegacy : Bool} {names : List Json}
    {name : String} (member : name ∈ namesInCatalog catalog allowLegacy names) :
    IsName name ∧ verbInCatalog catalog allowLegacy name = true := by
  rcases (mem_namesInCatalog allowLegacy names name).mp member with ⟨listed, within⟩
  rcases List.mem_map.mp listed with ⟨value, _, rfl⟩
  exact ⟨isName_normalizeMethodName value, within⟩

theorem isRedirect_of_read [TrimmedCase] {source : String} {entry : Json}
    {redirect : String × String × Option String}
    (read : readRedirect catalog source entry = .ok (some redirect)) :
    IsRedirect catalog redirect := by
  unfold readRedirect at read
  split at read
  · next members =>
      dsimp only at read
      split at read
      · cases read
      · next filled =>
          split at read
          · cases read
          · next paired =>
              split at read
              · next within =>
                  cases read
                  rw [not_or] at filled
                  rw [Bool.and_eq_true] at within
                  exact ⟨⟨_, _, isName_normalizeMethodName _, filled.1, within.1, rfl,
                    by simpa using paired⟩,
                    isName_normalizeMethodName _, filled.2, within.2⟩
              · cases read
  · cases read

theorem isAlias_of_read [TrimmedCase] {entry : String × Json} {rewrite : String × String}
    (read : readAlias catalog entry = .ok (some rewrite)) : IsAlias catalog rewrite := by
  unfold readAlias at read
  dsimp only at read
  split at read
  · cases read
  · next filled =>
      split at read
      · next within =>
          cases read
          rw [not_or] at filled
          exact ⟨⟨isName_upper_strip entry.1, filled.1⟩,
            isName_normalizeMethodName entry.2, filled.2, within⟩
      · cases read

omit [TextCase] [TextOf] in
theorem read_of_mem {Entry Value : Type} {read : Entry → Except String (Option Value)}
    {entries : List Entry} {values : List (Option Value)}
    (ended : Fallible.map read entries = .ok values) {value : Value}
    (member : value ∈ values.filterMap id) : ∃ entry, read entry = .ok (some value) := by
  rcases List.mem_filterMap.mp member with ⟨optional, listed, same⟩
  rcases Fallible.mem_of_map ended listed with ⟨entry, _, given⟩
  exact ⟨entry, by rw [given]; exact congrArg Except.ok same⟩

theorem legacyNames_of_read [TrimmedCase] (regular : RegularVerbs catalog) {source : String}
    {value : Json} {names : List String} (read : readLegacy catalog source value = .ok names) :
    ∀ name ∈ names, IsName name ∧ name ∈ catalog.legacyVerbs := by
  unfold readLegacy at read
  split at read
  · cases read
    exact fun _ none => absurd none List.not_mem_nil
  · next listed =>
      cases ended : Fallible.map (readLegacyVerb catalog source) listed with
      | error message =>
          rw [ended] at read
          cases read
      | ok verbs =>
          rw [ended] at read
          cases read
          intro name member
          rcases (mem_foldl_addName verbs [] name).mp member with none | member
          · cases none
          · rcases Fallible.mem_of_map ended member with ⟨value, _, given⟩
            unfold readLegacyVerb at given
            dsimp only at given
            split at given
            · next within =>
                cases given
                exact ⟨isName_normalizeMethodName value, List.contains_iff_mem.mp within⟩
            · cases given
  · dsimp only at read
    split at read
    · cases read
      intro name member
      rcases (mem_foldl_addName _ [] name).mp member with none | member
      · cases none
      · exact ⟨regular.legacy name member, member⟩
    · split at read
      · cases read
        exact fun _ none => absurd none List.not_mem_nil
      · cases read

theorem isPolicy_of_fromTable [TrimmedCase] (regular : RegularVerbs catalog) {source : String}
    {table : Json} {policy : MethodsPolicy} (built : fromTable catalog source table = .ok policy) :
    IsPolicy catalog policy := by
  unfold fromTable at built
  split at built
  · next table =>
      rcases Fallible.ok_of_bind built with ⟨⟨allow, allowAll⟩, readsAllow, built⟩
      rcases Fallible.ok_of_bind built with ⟨disallow, readsDisallow, built⟩
      rcases Fallible.ok_of_bind built with ⟨legacy, readsLegacy, built⟩
      rcases Fallible.ok_of_bind built with ⟨redirects, readsRedirects, built⟩
      rcases Fallible.ok_of_bind built with ⟨aliases, readsAliases, built⟩
      cases built
      refine ⟨?_, ?_, ?_, ?_, ?_⟩
      · unfold readAllow at readsAllow
        split at readsAllow
        all_goals cases readsAllow
        all_goals first
          | exact fun _ member => isName_of_namesInCatalog member
          | exact fun _ none => absurd none List.not_mem_nil
      · unfold readDisallow at readsDisallow
        split at readsDisallow
        · cases readsDisallow
          exact fun _ member => isName_of_namesInCatalog member
        · cases readsDisallow
      · exact legacyNames_of_read regular readsLegacy
      · unfold readRedirects at readsRedirects
        split at readsRedirects
        · next entries _ =>
            cases ended : Fallible.map (readRedirect catalog source) entries with
            | error message =>
                rw [ended] at readsRedirects
                cases readsRedirects
            | ok read =>
                rw [ended] at readsRedirects
                cases readsRedirects
                intro entry member
                rcases read_of_mem ended (Dict.mem_of_ofList member) with ⟨_, given⟩
                exact isRedirect_of_read given
        · cases readsRedirects
      · unfold readAliases at readsAliases
        split at readsAliases
        · cases readsAliases
          exact regular.seeds
        · next entries _ =>
            cases ended : Fallible.map (readAlias catalog) entries with
            | error message =>
                rw [ended] at readsAliases
                cases readsAliases
            | ok read =>
                rw [ended] at readsAliases
                cases readsAliases
                intro entry member
                rcases read_of_mem ended (Dict.mem_of_ofList member) with ⟨_, given⟩
                exact isAlias_of_read given
        · cases readsAliases
  · cases built
    refine ⟨?_, ?_, ?_, ?_, ?_⟩
    all_goals exact fun _ none => absurd none List.not_mem_nil

/-! ## Reading what is published -/

omit [TextOf] in
theorem solid_of_verbInCatalog (regular : RegularVerbs catalog) {name : String}
    (isName : IsName name) (within : verbInCatalog catalog true name = true) :
    ' ' ∉ name.toList := by
  rw [verbInCatalog, Catalog.isApprovedVerb, upper_of_isName isName, upper_of_isName isName,
    Bool.true_and, Bool.or_eq_true, List.contains_iff_mem, List.contains_iff_mem] at within
  exact regular.solid name (List.mem_append.mpr within)

omit [TextCase] in
theorem splitKey_redirectKey {method : String} (solid : ' ' ∉ method.toList) (path : Json) :
    splitKey (redirectKey method path) = (method, redirectTarget path) := by
  have kept : ∀ character ∈ method.toList, decide (character ≠ ' ') = true :=
    fun character member => decide_eq_true fun same => solid (same ▸ member)
  have alone : splitKey method = (method, none) := by
    rw [splitKey, List.takeWhile_eq_self_iff.mpr kept, List.dropWhile_eq_nil_iff.mpr kept,
      String.ofList_toList]
  have followed (text : String) : splitKey (method ++ " " ++ text) = (method, some text) := by
    have blank : " ".toList = [' '] := rfl
    rw [splitKey, String.toList_append, String.toList_append, blank, List.append_assoc,
      List.takeWhile_append_of_pos kept, List.dropWhile_append_of_pos kept,
      List.singleton_append, List.takeWhile_cons_of_neg (by decide),
      List.dropWhile_cons_of_neg (by decide), List.append_nil, String.ofList_toList]
    exact congrArg (fun path => (method, some path)) String.ofList_toList
  cases path with
  | null => exact alone
  | _ => exact followed _

theorem readRedirect_published (regular : RegularVerbs catalog) (source : String)
    {entry : String × String × Option String} (isRedirect : IsRedirect catalog entry)
    (filled : entry.2.2 ≠ some "") :
    readRedirect catalog source (.object (redirectMembers entry)) = .ok (some entry) := by
  rcases isRedirect.source with ⟨method, path, isName, named, within, key, paired⟩
  rcases isRedirect.target with ⟨targetName, targetNamed, targetWithin⟩
  have split := splitKey_redirectKey (solid_of_verbInCatalog regular isName within) path
  rcases entry with ⟨held, target, targetPath⟩
  dsimp only at key paired targetName targetNamed targetWithin filled
  subst key
  have members : redirectMembers (redirectKey method path, target, targetPath) =
      [("from_method", .string method)] ++
      ((redirectTarget path).map fun path => ("from_path", Json.string path)).toList ++
      [("to_method", .string target)] ++
      (targetPath.map fun path => ("to_path", Json.string path)).toList := by
    have kept : targetPath.filter (· ≠ "") = targetPath := by
      cases targetPath with
      | none => rfl
      | some text =>
          have some : text ≠ "" := fun same => filled (congrArg Option.some same)
          simp [some]
    rw [redirectMembers, split]
    dsimp only
    rw [kept]
  rw [members]
  cases source : redirectTarget path with
  | none =>
      rw [source] at paired
      have nowhere : targetPath = none := Option.isNone_iff_eq_none.mp paired.symm
      have same : redirectKey method path = method := by
        cases path <;> first | rfl | cases source
      rw [nowhere, same]
      simp [readRedirect, getOr, Json.get, Json.member, Json.truthy, named, targetNamed,
        normalizeMethodName_string isName, normalizeMethodName_string targetName, within,
        targetWithin, redirectTarget, redirectKey]
  | some text =>
      rw [source] at paired
      have somewhere : ∃ other, targetPath = some other := by
        cases targetPath with
        | none => cases paired
        | some other => exact ⟨other, rfl⟩
      rcases somewhere with ⟨other, rfl⟩
      have same : redirectKey method path = redirectKey method (.string text) := by
        cases path <;> first | cases source; rfl | cases source
      rw [same]
      simp [readRedirect, getOr, Json.get, Json.member, Json.truthy, named, targetNamed,
        normalizeMethodName_string isName, normalizeMethodName_string targetName, within,
        targetWithin, redirectTarget, redirectKey, Json.str]

theorem readRedirect_emptyPath (regular : RegularVerbs catalog) (source : String)
    {entry : String × String × Option String} (isRedirect : IsRedirect catalog entry)
    (empty : entry.2.2 = some "") :
    ¬Fallible.Succeeds (readRedirect catalog source (.object (redirectMembers entry))) := by
  rcases isRedirect.source with ⟨method, path, isName, named, within, key, paired⟩
  rcases isRedirect.target with ⟨targetName, targetNamed, targetWithin⟩
  have split := splitKey_redirectKey (solid_of_verbInCatalog regular isName within) path
  rcases entry with ⟨held, target, targetPath⟩
  dsimp only at key paired targetName targetNamed targetWithin empty
  subst key empty
  cases sourcePath : redirectTarget path with
  | none =>
      rw [sourcePath] at paired
      cases paired
  | some text =>
      rw [sourcePath] at split
      have members : redirectMembers (redirectKey method path, target, some "") =
          [("from_method", .string method), ("from_path", .string text),
            ("to_method", .string target)] := by
        rw [redirectMembers, split]
        rfl
      rw [members]
      intro ⟨read, succeeded⟩
      simp [readRedirect, getOr, Json.get, Json.member, Json.truthy, named, targetNamed,
        normalizeMethodName_string isName, normalizeMethodName_string targetName,
        redirectTarget] at succeeded

theorem readAlias_published {entry : String × String} (isAlias : IsAlias catalog entry) :
    readAlias catalog (entry.1, .string entry.2) = .ok (some entry) := by
  have source : upper (Text.strip entry.1) = entry.1 := isAlias.source.1
  rw [readAlias]
  dsimp only
  rw [source, normalizeMethodName_string isAlias.target.1, if_neg (by
    rw [not_or]
    exact ⟨isAlias.source.2, isAlias.target.2.1⟩), if_pos isAlias.target.2.2]

/-! ## The published table -/

section Members

omit [TextCase] [TextOf]

theorem member_nonEmpty (name : String) (values : List Json) (rest : List (String × Json))
    (other : String) :
    Json.member (nonEmpty name values ++ rest) other =
      if name = other ∧ values ≠ [] then some (.array values) else Json.member rest other := by
  cases values with
  | nil => rw [if_neg fun both => both.2 rfl]; rfl
  | cons first more =>
      rw [nonEmpty, List.singleton_append, Json.member]
      · by_cases same : name = other
        · rw [if_pos same, if_pos ⟨same, List.cons_ne_nil _ _⟩]
        · rw [if_neg same, if_neg fun both => same both.1]
      · exact List.cons_ne_nil _ _

variable (policy : MethodsPolicy)

theorem allow_toWire : Json.get (toWire policy) "allow" =
    if policy.allowAll then .string "*" else texts (sortedNames policy.allow) := rfl

theorem disallow_toWire : getOr (toWire policy) "disallow" (.array []) =
    .array ((sortedNames policy.disallow).map .string) := by
  rw [toWire, List.append_assoc, List.append_assoc, List.append_assoc, getOr,
    List.singleton_append, Json.member, if_neg (by decide), member_nonEmpty]
  cases (sortedNames policy.disallow).map Json.string with
  | nil =>
      rw [if_neg fun both => both.2 rfl, member_nonEmpty, if_neg (by simp), member_nonEmpty,
        if_neg (by simp)]
      by_cases unaliased : policy.aliases.entries = []
      · rw [if_pos unaliased]; rfl
      · rw [if_neg unaliased]; rfl
  | cons first more => rw [if_pos ⟨rfl, List.cons_ne_nil _ _⟩]; rfl

theorem legacy_toWire : Json.get (toWire policy) "legacy" =
    if sortedNames policy.legacy = [] then .null
    else .array ((sortedNames policy.legacy).map .string) := by
  rw [toWire, List.append_assoc, List.append_assoc, List.append_assoc, Json.get,
    List.singleton_append, Json.member, if_neg (by decide), member_nonEmpty, if_neg (by simp),
    member_nonEmpty]
  cases sortedNames policy.legacy with
  | nil =>
      rw [if_neg fun both => both.2 rfl, member_nonEmpty, if_neg (by simp), if_pos rfl]
      split <;> rfl
  | cons first more =>
      rw [if_pos ⟨rfl, List.cons_ne_nil _ _⟩, if_neg (List.cons_ne_nil _ _)]
      rfl

theorem redirects_toWire : getOr (toWire policy) "redirects" (.array []) =
    .array ((policy.redirects.entries.mergeSort redirectOrder).map fun entry =>
      .object (redirectMembers entry)) := by
  rw [toWire, List.append_assoc, List.append_assoc, List.append_assoc, getOr,
    List.singleton_append, Json.member, if_neg (by decide), member_nonEmpty, if_neg (by simp),
    member_nonEmpty, if_neg (by simp), member_nonEmpty]
  cases (policy.redirects.entries.mergeSort redirectOrder).map fun entry =>
      Json.object (redirectMembers entry) with
  | nil =>
      rw [if_neg fun both => both.2 rfl]
      by_cases unaliased : policy.aliases.entries = []
      · rw [if_pos unaliased]; rfl
      · rw [if_neg unaliased]; rfl
  | cons first more => rw [if_pos ⟨rfl, List.cons_ne_nil _ _⟩]; rfl

theorem aliases_toWire : Json.get (toWire policy) "aliases" =
    if policy.aliases.entries = [] then .null
    else .object ((policy.aliases.entries.mergeSort fun left right =>
      decide (left.1 ≤ right.1)).map fun entry => (entry.1, .string entry.2)) := by
  rw [toWire, List.append_assoc, List.append_assoc, List.append_assoc, Json.get,
    List.singleton_append, Json.member, if_neg (by decide), member_nonEmpty, if_neg (by simp),
    member_nonEmpty, if_neg (by simp), member_nonEmpty, if_neg (by simp)]
  split <;> rfl

end Members

/-! ## Equal decisions -/

/-- The policies have the same names and rewrite alike. -/
structure Agrees (policy other : MethodsPolicy) : Prop where
  allowAll : other.allowAll = policy.allowAll
  allow : policy.allowAll = false → ∀ name, name ∈ other.allow ↔ name ∈ policy.allow
  disallow : ∀ name, name ∈ other.disallow ↔ name ∈ policy.disallow
  legacy : ∀ name, name ∈ other.legacy ↔ name ∈ policy.legacy
  redirects : ∀ key, other.redirects.get? key = policy.redirects.get? key
  aliases : ∀ verb, other.aliases.get? verb = policy.aliases.get? verb

def DecidesAs (policy other : MethodsPolicy) : Prop :=
  ∀ method path, other.isMethodAllowed method = policy.isMethodAllowed method ∧
    other.resolveAlias method = policy.resolveAlias method ∧
    other.resolveRedirect method path = policy.resolveRedirect method path

omit [TextCase] [TextOf] in
theorem contains_congr {first second : List String} {name : String}
    (same : name ∈ first ↔ name ∈ second) : first.contains name = second.contains name := by
  rw [Bool.eq_iff_iff, List.contains_iff_mem, List.contains_iff_mem, same]

omit [TextOf] in
theorem Agrees.decidesAs {policy other : MethodsPolicy} (agrees : Agrees policy other) :
    DecidesAs policy other := by
  intro method path
  refine ⟨?_, ?_, ?_⟩
  · rw [isMethodAllowed, isMethodAllowed, contains_congr (agrees.disallow _),
      contains_congr (agrees.legacy _), agrees.allowAll]
    cases everything : policy.allowAll with
    | true => rfl
    | false => rw [contains_congr (agrees.allow everything _)]
  · rw [resolveAlias, resolveAlias, agrees.aliases]
  · rw [resolveRedirect, resolveRedirect, agrees.redirects, agrees.redirects]

/-! ## The published policy -/

omit [TextCase] [TextOf] in
theorem get?_ofList_kept {Value : Type} (dictionary : Dict String Value)
    {pairs : List (String × Value)} (permuted : pairs.Perm dictionary.entries) (key : String) :
    (Dict.ofList ((pairs.map some).filterMap id)).get? key = dictionary.get? key := by
  have kept : (pairs.map some).filterMap id = pairs := by
    rw [List.filterMap_map]
    exact List.filterMap_some
  rw [kept, Dict.get?_ofList_of_perm dictionary permuted]

section Published

variable {policy : MethodsPolicy} (regular : RegularVerbs catalog)
  (isPolicy : IsPolicy catalog policy) (source : String)
include regular isPolicy

omit regular in
theorem readAllow_published :
    ∃ allow, readAllow catalog source (Json.get (toWire policy) "allow") =
        .ok (allow, policy.allowAll) ∧
      (policy.allowAll = false → ∀ name, name ∈ allow ↔ name ∈ policy.allow) := by
  rw [allow_toWire]
  cases policy.allowAll with
  | true => exact ⟨[], rfl, nofun⟩
  | false => exact ⟨_, rfl, fun _ => mem_namesInCatalog_published isPolicy.allow⟩

omit regular in
theorem readDisallow_published :
    ∃ disallow, readDisallow catalog source
        (getOr (toWire policy) "disallow" (.array [])) = .ok disallow ∧
      ∀ name, name ∈ disallow ↔ name ∈ policy.disallow := by
  rw [disallow_toWire]
  exact ⟨_, rfl, mem_namesInCatalog_published isPolicy.disallow⟩

omit regular in
theorem readLegacy_published :
    ∃ legacy, readLegacy catalog source (Json.get (toWire policy) "legacy") = .ok legacy ∧
      ∀ name, name ∈ legacy ↔ name ∈ policy.legacy := by
  rw [legacy_toWire]
  by_cases none : sortedNames policy.legacy = []
  · rw [if_pos none]
    refine ⟨[], rfl, fun name => ?_⟩
    have listed : name ∈ sortedNames policy.legacy ↔ name ∈ policy.legacy := List.mem_mergeSort
    rw [← listed, none]
  · rw [if_neg none]
    have read : Fallible.map (readLegacyVerb catalog source)
        ((sortedNames policy.legacy).map .string) = .ok ((sortedNames policy.legacy).map id) := by
      apply Fallible.map_written
      intro name member
      have legacy := isPolicy.legacy name (List.mem_mergeSort.mp member)
      rw [readLegacyVerb, normalizeMethodName_string legacy.1, if_pos (List.contains_iff_mem.mpr legacy.2)]
      rfl
    refine ⟨_, by rw [readLegacy, read]; rfl, fun name => ?_⟩
    rw [mem_foldl_addName, List.map_id, sortedNames, List.mem_mergeSort]
    simp

omit regular in
theorem readAliases_published (rewrites : policy.aliases.entries ≠ []) :
    ∃ aliases, readAliases catalog source (Json.get (toWire policy) "aliases") = .ok aliases ∧
      ∀ verb, aliases.get? verb = policy.aliases.get? verb := by
  have permuted := List.mergeSort_perm policy.aliases.entries
    (fun left right => decide (left.1 ≤ right.1))
  have read : Fallible.map (readAlias catalog)
      ((policy.aliases.entries.mergeSort fun left right => decide (left.1 ≤ right.1)).map
        fun entry => (entry.1, Json.string entry.2)) =
      .ok ((policy.aliases.entries.mergeSort fun left right =>
        decide (left.1 ≤ right.1)).map some) :=
    Fallible.map_written fun entry member =>
      readAlias_published (isPolicy.aliases entry (List.mem_mergeSort.mp member))
  rw [aliases_toWire, if_neg rewrites]
  exact ⟨_, by rw [readAliases, read]; rfl, get?_ofList_kept policy.aliases permuted⟩

theorem readRedirects_published
    (filled : ∀ entry ∈ policy.redirects.entries, entry.2.2 ≠ some "") :
    ∃ redirects, readRedirects catalog source
        (getOr (toWire policy) "redirects" (.array [])) = .ok redirects ∧
      ∀ key, redirects.get? key = policy.redirects.get? key := by
  have permuted := List.mergeSort_perm policy.redirects.entries redirectOrder
  have read : Fallible.map (readRedirect catalog source)
      ((policy.redirects.entries.mergeSort redirectOrder).map fun entry =>
        Json.object (redirectMembers entry)) =
      .ok ((policy.redirects.entries.mergeSort redirectOrder).map some) :=
    Fallible.map_written fun entry member =>
      readRedirect_published regular source
        (isPolicy.redirects entry (List.mem_mergeSort.mp member))
        (filled entry (List.mem_mergeSort.mp member))
  rw [redirects_toWire]
  exact ⟨_, by rw [readRedirects, read]; rfl, get?_ofList_kept policy.redirects permuted⟩

theorem agrees_of_published (rewrites : policy.aliases.entries ≠ [])
    (filled : ∀ entry ∈ policy.redirects.entries, entry.2.2 ≠ some "") :
    ∃ read, fromTable catalog source (.object (toWire policy)) = .ok read ∧
      Agrees policy read := by
  rcases readAllow_published isPolicy source with ⟨allow, readsAllow, sameAllow⟩
  rcases readDisallow_published isPolicy source with ⟨disallow, readsDisallow, sameDisallow⟩
  rcases readLegacy_published isPolicy source with ⟨legacy, readsLegacy, sameLegacy⟩
  rcases readRedirects_published regular isPolicy source filled with
    ⟨redirects, readsRedirects, sameRedirects⟩
  rcases readAliases_published isPolicy source rewrites with
    ⟨aliases, readsAliases, sameAliases⟩
  refine ⟨⟨allow, policy.allowAll, disallow, legacy, redirects, aliases⟩, ?_,
    ⟨rfl, sameAllow, sameDisallow, sameLegacy, sameRedirects, sameAliases⟩⟩
  rw [fromTable, readsAllow, readsDisallow, readsLegacy, readsRedirects, readsAliases]
  rfl

theorem published_of_decidesAs {read : MethodsPolicy}
    (reads : fromTable catalog source (.object (toWire policy)) = .ok read)
    (same : DecidesAs policy read) :
    policy.aliases.entries ≠ [] ∧
      ∀ entry ∈ policy.redirects.entries, entry.2.2 ≠ some "" := by
  rw [fromTable] at reads
  rcases Fallible.ok_of_bind reads with ⟨⟨allow, allowAll⟩, _, reads⟩
  rcases Fallible.ok_of_bind reads with ⟨disallow, _, reads⟩
  rcases Fallible.ok_of_bind reads with ⟨legacy, _, reads⟩
  rcases Fallible.ok_of_bind reads with ⟨redirects, readsRedirects, reads⟩
  rcases Fallible.ok_of_bind reads with ⟨aliases, readsAliases, reads⟩
  cases reads
  constructor
  · intro unaliased
    rw [aliases_toWire, if_pos unaliased] at readsAliases
    cases readsAliases
    rcases regular.seeded with ⟨verb, target, seeded, isName, rewritten⟩
    have alike := (same verb "/").2.1
    have none : policy.aliases.get? (upper verb) = none := by
      rw [Dict.get?, unaliased]
      rfl
    rw [resolveAlias, resolveAlias, none, upper_of_isName isName, seeded] at alike
    dsimp only at alike
    rw [if_neg rewritten] at alike
    cases alike
  · intro entry member empty
    rw [redirects_toWire, readRedirects] at readsRedirects
    have succeeds : Fallible.Succeeds (Fallible.map (readRedirect catalog source)
        ((policy.redirects.entries.mergeSort redirectOrder).map fun entry =>
          Json.object (redirectMembers entry))) := by
      cases ended : Fallible.map (readRedirect catalog source)
          ((policy.redirects.entries.mergeSort redirectOrder).map fun entry =>
            Json.object (redirectMembers entry)) with
      | error message =>
          rw [ended] at readsRedirects
          cases readsRedirects
      | ok values => exact Fallible.succeeds_ok values
    exact readRedirect_emptyPath regular source (isPolicy.redirects entry member) empty
      (Fallible.succeeds_map_iff.mp succeeds _
        (List.mem_map_of_mem (List.mem_mergeSort.mpr member)))

end Published

/-! ## The shipped catalog -/

section Shipped

omit [TextOf]

theorem upper_shipped : ∀ word ∈ ["GET", "POST", "PUT", "DELETE", "PATCH", "FETCH", "CREATE",
    "REPLACE", "REMOVE", "MODIFY"], upper word = word ∧ IsName word := by
  have plain : ∀ word ∈ ["GET", "POST", "PUT", "DELETE", "PATCH", "FETCH", "CREATE", "REPLACE",
      "REMOVE", "MODIFY"], Text.isAscii word = true ∧
      (word.toList.all fun character => character.toUpper = character ∧
        Text.isSpace character = false) = true := by decide +kernel
  intro word member
  rcases plain word member with ⟨ascii, capitals⟩
  have each := fun character held => Text.forall_mem_of_all capitals character held
  have isName := isName_of_capitals ascii (fun character held => (each character held).1)
    (fun character held => (each character held).2)
  exact ⟨upper_of_isName isName, isName⟩

theorem seed_shipped : legacyAliasSeed agtpCatalog =
    Dict.ofList [("GET", "FETCH"), ("POST", "CREATE"), ("PUT", "REPLACE"),
      ("DELETE", "REMOVE"), ("PATCH", "MODIFY")] := by
  have same : agtpCatalog.legacy.filter (·.2 ≠ "") = agtpCatalog.legacy := by decide
  have upperCase := fun word member => (upper_shipped word member).1
  simp only [List.forall_mem_cons] at upperCase
  rcases upperCase with ⟨get, post, put, delete, patch, fetch, create, replace, remove,
    modify, _⟩
  rw [legacyAliasSeed, same]
  simp only [agtpCatalog, List.map_cons, List.map_nil, get, post, put, delete, patch, fetch,
    create, replace, remove, modify]

theorem regular_shipped : RegularVerbs agtpCatalog where
  legacy := by
    intro name member
    have shipped : name ∈ ["GET", "POST", "PUT", "DELETE", "PATCH", "FETCH", "CREATE",
        "REPLACE", "REMOVE", "MODIFY"] := by
      have legacy : name ∈ ["GET", "POST", "PUT", "DELETE", "PATCH"] := member
      exact List.mem_append_left ["FETCH", "CREATE", "REPLACE", "REMOVE", "MODIFY"] legacy
    exact (upper_shipped name shipped).2
  solid := by
    have all : ((agtpCatalog.protocolVerbs ++ agtpCatalog.legacyVerbs).all fun name =>
        !name.toList.contains ' ') = true := by decide +kernel
    intro name member blank
    have none := List.all_eq_true.mp all name member
    rw [List.contains_iff_mem.mpr blank] at none
    cases none
  seeds := by
    have words := fun word member => (upper_shipped word member).2
    have known : ∀ word ∈ ["FETCH", "CREATE", "REPLACE", "REMOVE", "MODIFY"],
        agtpCatalog.protocolVerbs.contains word = true := by decide +kernel
    have target (word : String) (isName : IsName word) (some : word ≠ "")
        (within : agtpCatalog.protocolVerbs.contains word = true) :
        IsName word ∧ word ≠ "" ∧ verbInCatalog agtpCatalog true word = true := by
      refine ⟨isName, some, ?_⟩
      rw [verbInCatalog, Catalog.isApprovedVerb, upper_of_isName isName,
        upper_of_isName isName, within, Bool.true_or]
    simp only [List.forall_mem_cons] at words known
    rcases words with ⟨get, post, put, delete, patch, fetch, create, replace, remove,
      modify, _⟩
    rcases known with ⟨fetches, creates, replaces, removes, modifies, _⟩
    rw [seed_shipped]
    intro entry member
    have listed := Dict.mem_of_ofList member
    simp only [List.mem_cons, List.not_mem_nil, or_false] at listed
    rcases listed with rfl | rfl | rfl | rfl | rfl
    · exact ⟨⟨get, by decide⟩, target _ fetch (by decide) fetches⟩
    · exact ⟨⟨post, by decide⟩, target _ create (by decide) creates⟩
    · exact ⟨⟨put, by decide⟩, target _ replace (by decide) replaces⟩
    · exact ⟨⟨delete, by decide⟩, target _ remove (by decide) removes⟩
    · exact ⟨⟨patch, by decide⟩, target _ modify (by decide) modifies⟩
  seeded := by
    refine ⟨"GET", "FETCH", ?_, (upper_shipped "GET" List.mem_cons_self).2, by decide⟩
    rw [seed_shipped]
    decide

end Shipped

/-- A policy that was built from a table is published without loss exactly if it rewrites
some verb and redirects nothing to an empty path. -/
theorem published_policy_iff [TrimmedCase] {source reader : String} {table : Json}
    {policy : MethodsPolicy} (built : fromTable agtpCatalog source table = .ok policy) :
    (∃ read, fromTable agtpCatalog reader (.object (toWire policy)) = .ok read ∧
        DecidesAs policy read) ↔
      policy.aliases.entries ≠ [] ∧
        ∀ entry ∈ policy.redirects.entries, entry.2.2 ≠ some "" := by
  have isPolicy := isPolicy_of_fromTable regular_shipped built
  constructor
  · intro ⟨read, reads, same⟩
    exact published_of_decidesAs regular_shipped isPolicy reader reads same
  · intro ⟨rewrites, filled⟩
    rcases agrees_of_published regular_shipped isPolicy reader rewrites filled with
      ⟨read, reads, agrees⟩
    exact ⟨read, reads, agrees.decidesAs⟩

end MethodsPolicy

/-! ## Tables -/

namespace PolicySamples

open MethodsPolicy
open scoped Plain

theorem isSpace_printable {character : Char} (above : 33 ≤ character.toNat)
    (below : character.toNat ≤ 126) : Text.isSpace character = false := by
  simp only [Text.isSpace, Bool.or_eq_false_iff, Bool.and_eq_false_iff, decide_eq_false_iff_not,
    beq_eq_false_iff_ne, ne_eq]
  omega

theorem isSpace_toUpper (character : Char) :
    Text.isSpace character.toUpper = Text.isSpace character := by
  unfold Char.toUpper
  split
  · next lowerCase =>
      have atLeast := UInt32.le_iff_toNat_le.mp lowerCase.1
      have atMost := UInt32.le_iff_toNat_le.mp lowerCase.2
      have a : 'a'.val.toNat = 97 := rfl
      have z : 'z'.val.toNat = 122 := rfl
      have shift : ('A'.val - 'a'.val).toNat = 4294967264 := rfl
      have code : character.toNat = character.val.toNat := rfl
      have own : Text.isSpace character = false := isSpace_printable (by omega) (by omega)
      rw [own]
      apply isSpace_printable
      all_goals
        simp only [Char.toNat, UInt32.toNat_add, shift]
        omega
  · rfl

scoped instance : TrimmedCase where
  strip_upper text := by
    change Text.strip (Text.asciiUpper text) = Text.asciiUpper (Text.strip text)
    have same : Text.isSpace ∘ Char.toUpper = Text.isSpace := by
      funext character
      exact isSpace_toUpper character
    rw [Text.strip, Text.strip, Text.asciiUpper, Text.asciiUpper, String.toList_ofList,
      String.toList_ofList, List.dropWhile_map, same, ← List.map_reverse, List.dropWhile_map,
      same, ← List.map_reverse]

/-- The default policy is published without loss. -/
theorem default_published :
    (∃ read, fromTable agtpCatalog "agtp-server.toml" (.object (toWire
        ⟨[], true, [], [], .empty, legacyAliasSeed agtpCatalog⟩)) = .ok read ∧
        DecidesAs ⟨[], true, [], [], .empty, legacyAliasSeed agtpCatalog⟩ read) ↔
      (legacyAliasSeed agtpCatalog).entries ≠ [] ∧
        ∀ entry ∈ (Dict.empty : Dict String (String × Option String)).entries,
          entry.2.2 ≠ some "" :=
  @published_policy_iff _ _ _ "agtp-server.toml" "agtp-server.toml" (.object []) _ rfl

def unaliased : MethodsPolicy := ⟨[], true, [], [], .empty, .empty⟩

/-- The policy of an empty alias table rewrites nothing, and what is published of it
rewrites the legacy verbs. -/
theorem empty_aliases_lost :
    fromTable agtpCatalog "agtp-server.toml" (.object [("aliases", .object [])]) =
        .ok unaliased ∧
      ∃ read, fromTable agtpCatalog "agtp-server.toml" (.object (toWire unaliased)) = .ok read ∧
        unaliased.resolveAlias "GET" = none ∧ read.resolveAlias "GET" = some "FETCH" := by
  refine ⟨rfl, ⟨[], true, [], [], .empty, legacyAliasSeed agtpCatalog⟩, ?_, rfl, ?_⟩
  · have written : toWire unaliased = [("allow", .string "*")] := by
      simp [toWire, unaliased, sortedNames, nonEmpty, Dict.empty]
    rw [written]
    rfl
  · have get : upper "GET" = "GET" := (upper_shipped "GET" List.mem_cons_self).1
    have target : (Dict.ofList [("GET", "FETCH"), ("POST", "CREATE"), ("PUT", "REPLACE"),
        ("DELETE", "REMOVE"), ("PATCH", "MODIFY")]).get? "GET" = some "FETCH" := by decide
    rw [resolveAlias, get, seed_shipped, target]
    decide

end PolicySamples

end Agtp
