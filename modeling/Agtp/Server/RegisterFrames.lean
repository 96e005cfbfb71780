import Agtp.Foundation.Renaming
import Agtp.Foundation.StandardJson
import Agtp.Server.EndpointRegistration
import Agtp.Server.GatewayServer

/-! # Register frames

What a runtime module is told of the endpoints that it serves: each with references to its
schemas, the schemas under the names that are referred to, and a hash of both. -/

namespace Agtp

/-! ## Canonical texts -/

namespace StandardJson

open JsonText

variable [Floats]

def Fits (value : Json) (size : Nat) : Prop :=
  ∀ (limits : Limits) (depth : Nat), size ≤ limits.digits → depth + size ≤ limits.nesting →
    firstExcess limits depth value = none

omit [Floats] in
theorem Fits.mono {value : Json} {size larger : Nat} (fits : Fits value size)
    (le : size ≤ larger) : Fits value larger :=
  fun limits depth digits nesting => fits limits depth (le.trans digits) (by omega)

omit [Floats] in
theorem exists_fits {Item : Type} {values : List Item} (read : Item → Json)
    (each : ∀ value ∈ values, ∃ size, Fits (read value) size) :
    ∃ size, ∀ value ∈ values, Fits (read value) size := by
  induction values with
  | nil => exact ⟨0, fun _ member => absurd member List.not_mem_nil⟩
  | cons value values induction =>
      rcases induction fun other member => each other (List.mem_cons_of_mem _ member) with
        ⟨rest, all⟩
      rcases each value List.mem_cons_self with ⟨own, fits⟩
      refine ⟨max own rest, List.forall_mem_cons.mpr ⟨fits.mono (le_max_left _ _), ?_⟩⟩
      exact fun other member => (all other member).mono (le_max_right _ _)

theorem fits_of_held {value : Json} (held : Held value) : ∃ size, Fits value size := by
  induction held with
  | null => exact ⟨0, fun _ _ _ _ => rfl⟩
  | bool => exact ⟨0, fun _ _ _ _ => rfl⟩
  | float => exact ⟨0, fun _ _ _ _ => rfl⟩
  | string => exact ⟨0, fun _ _ _ _ => rfl⟩
  | int value =>
      refine ⟨(toString value.natAbs).length, fun limits depth digits _ => ?_⟩
      have short : limits.tooLong (toString value.natAbs).length = false := by
        rw [Limits.tooLong, Bool.and_eq_false_iff]
        exact .inr (decide_eq_false (Nat.not_lt.mpr digits))
      rw [firstExcess, short]
      rfl
  | array items induction =>
      rcases exists_fits id induction with ⟨size, fits⟩
      refine ⟨size + 1, fun limits depth digits nesting => ?_⟩
      rw [firstExcess, if_neg (by omega), itemsExcess_none]
      exact fun value member => fits value member limits _ (by omega) (by omega)
  | object distinct values induction =>
      rcases exists_fits Prod.snd induction with ⟨size, fits⟩
      refine ⟨size + 1, fun limits depth digits nesting => ?_⟩
      rw [firstExcess, if_neg (by omega), membersExcess_none]
      exact fun member own => fits member own limits _ (by omega) (by omega)

theorem same_of_canonical {left right : Json} (heldLeft : Held left) (heldRight : Held right)
    (equal : canonical left = canonical right) : Json.Same left right := by
  have texts : text (sortKeys left) = text (sortKeys right) := by
    have decoded := congrArg Utf8.decode? equal
    rw [canonical, canonical, Utf8.decode?_encode, Utf8.decode?_encode] at decoded
    exact Option.some.inj decoded
  rcases fits_of_held heldLeft with ⟨first, fitsLeft⟩
  rcases fits_of_held heldRight with ⟨second, fitsRight⟩
  let limits : Limits := ⟨max first second, max first second⟩
  have readLeft : JsonText.loads limits (text (sortKeys left)) = .ok (sortKeys left) := by
    rw [loads_text (held_sortKeys heldLeft), firstExcess_sortKeys heldLeft]
    exact fitsLeft limits 0 (le_max_left _ _) (by simp [limits])
  have readRight : JsonText.loads limits (text (sortKeys right)) = .ok (sortKeys right) := by
    rw [loads_text (held_sortKeys heldRight), firstExcess_sortKeys heldRight]
    exact fitsRight limits 0 (le_max_right _ _) (by simp [limits])
  rw [texts, readRight] at readLeft
  exact same_of_sortKeys heldLeft (Except.ok.inj readLeft).symm

end StandardJson

namespace Gateway

open StandardJson (canonical)
open JsonText (Held)

/-! ## Registration -/

def shownPath (path : String) : String := if path = "" then "/" else path

def endpointOf (spec : Registration.EndpointSpec) (binding : Registration.HandlerBinding)
    (inputSchema outputSchema : Json) : GatewayEndpoint where
  method := Registration.textIn spec.name
  path := shownPath (Registration.textIn spec.path)
  handlerReference := Registration.textIn binding.function
  inputSchema := inputSchema
  outputSchema := outputSchema
  errors := Registration.declaredErrors spec
  requiredScopes := (Registration.items spec.requiredScopes).map Registration.textIn

/-- A declaration with the schemas that were built from it. -/
structure Declaration where
  spec : Registration.EndpointSpec
  inputSchema : Json
  outputSchema : Json

def registerEndpoint (endpoints : Dict (String × String) GatewayEndpoint)
    (declaration : Declaration) : Except Raised (Dict (String × String) GatewayEndpoint) :=
  match declaration.spec.handler with
  | .block binding =>
      if Registration.hasType binding "registered_function" then
        if binding.function.truthy then
          let endpoint := endpointOf declaration.spec binding declaration.inputSchema
            declaration.outputSchema
          .ok (endpoints.set (endpoint.method, endpoint.path) endpoint)
        else .error .valueError
      else .error .valueError
  | _ => .error .valueError

def registering (declarations : List Declaration) : Dict (String × String) GatewayEndpoint :=
  declarations.foldl (fun endpoints declaration =>
    match registerEndpoint endpoints declaration with
    | .ok later => later
    | .error _ => endpoints) .empty

def hasEndpoint [TextCase] (endpoints : Dict (String × String) GatewayEndpoint)
    (method path : String) : Bool :=
  (endpoints.get? (upper method, shownPath path)).isSome

def Filed (endpoints : Dict (String × String) GatewayEndpoint) : Prop :=
  ∀ entry ∈ endpoints.entries, entry.1 = (entry.2.method, entry.2.path) ∧ entry.2.path ≠ ""

theorem shownPath_ne (path : String) : shownPath path ≠ "" := by
  unfold shownPath
  split
  · decide
  · assumption

theorem shownPath_of_ne {path : String} (shown : path ≠ "") : shownPath path = path :=
  if_neg shown

theorem filed_registerEndpoint {endpoints later : Dict (String × String) GatewayEndpoint}
    {declaration : Declaration} (filed : Filed endpoints)
    (registered : registerEndpoint endpoints declaration = .ok later) : Filed later := by
  unfold registerEndpoint at registered
  split at registered
  · split at registered
    · split at registered
      · cases registered
        intro entry member
        rcases Dict.mem_of_set member with held | new
        · exact filed entry held
        · rw [new]
          exact ⟨rfl, shownPath_ne _⟩
      · cases registered
    · cases registered
  · cases registered

theorem filed_registering (declarations : List Declaration) : Filed (registering declarations) := by
  unfold registering
  have start : Filed .empty := fun _ member => absurd member List.not_mem_nil
  generalize Dict.empty = endpoints at start ⊢
  induction declarations generalizing endpoints with
  | nil => exact start
  | cons declaration declarations induction =>
      rw [List.foldl_cons]
      split
      · next later registered => exact induction later (filed_registerEndpoint start registered)
      · exact induction endpoints start

/-! ## Names of schemas -/

def flattened (text : String) : List Char :=
  text.toList.map fun character => if character = '/' then '_' else character

def flatName (endpoint : GatewayEndpoint) : List Char :=
  flattened (endpoint.method ++ "_" ++ endpoint.path)

def schemaName (endpoint : GatewayEndpoint) (side : String) : String :=
  String.ofList (flattened (endpoint.method ++ "_" ++ endpoint.path ++ side))

def sides : List String := [".input", ".output"]

theorem toList_schemaName (endpoint : GatewayEndpoint) {side : String} (member : side ∈ sides) :
    (schemaName endpoint side).toList = flatName endpoint ++ side.toList := by
  have plain : flattened side = side.toList := by
    rcases List.mem_cons.mp member with same | rest
    · rw [same]
      decide
    · rw [List.mem_singleton.mp rest]
      decide
  rw [schemaName, String.toList_ofList, ← plain]
  simp [flatName, flattened]

theorem schemaName_inj {first second : GatewayEndpoint} {side other : String}
    (member : side ∈ sides) (another : other ∈ sides)
    (same : schemaName first side = schemaName second other) :
    side = other ∧ flatName first = flatName second := by
  have whole := congrArg String.toList same
  rw [toList_schemaName first member, toList_schemaName second another] at whole
  have apart (left right : List Char) :
      left ++ ".input".toList ≠ right ++ ".output".toList := by
    intro equal
    have reversed := congrArg List.reverse equal
    simp at reversed
  rcases List.mem_cons.mp member with input | output <;>
    rcases List.mem_cons.mp another with input' | output'
  · rw [input, input'] at whole
    exact ⟨by rw [input, input'], List.append_cancel_right whole⟩
  · rw [input, List.mem_singleton.mp output'] at whole
    exact absurd whole (apart _ _)
  · rw [input', List.mem_singleton.mp output] at whole
    exact absurd whole.symm (apart _ _)
  · rw [List.mem_singleton.mp output, List.mem_singleton.mp output'] at whole ⊢
    exact ⟨rfl, List.append_cancel_right whole⟩

/-! ## Blocks -/

def registeredIn (endpoints : Dict (String × String) GatewayEndpoint) : List GatewayEndpoint :=
  endpoints.entries.map Prod.snd

def schemaPairs (endpoint : GatewayEndpoint) : List (String × Json) := [
  (schemaName endpoint ".input", endpoint.inputSchema),
  (schemaName endpoint ".output", endpoint.outputSchema)]

def schemas (endpoints : List GatewayEndpoint) : Dict String Json :=
  .ofList (endpoints.flatMap schemaPairs)

def declared (endpoint : GatewayEndpoint) : Json := .object [
  ("method", .string endpoint.method),
  ("path", .string endpoint.path),
  ("handler_reference", .string endpoint.handlerReference),
  ("input_schema_ref", .string ("#/schemas/" ++ schemaName endpoint ".input")),
  ("output_schema_ref", .string ("#/schemas/" ++ schemaName endpoint ".output")),
  ("errors", Status.texts endpoint.errors),
  ("required_scopes", Status.texts endpoint.requiredScopes)]

theorem registerBlocks_eq (endpoints : List GatewayEndpoint) :
    registerBlocks endpoints = (endpoints.map declared, (schemas endpoints).entries) := by
  have fold (built : Dict String Json) :
      endpoints.foldl (fun schemas endpoint =>
        Dict.setEntries (schemaName endpoint ".output") endpoint.outputSchema
          (Dict.setEntries (schemaName endpoint ".input") endpoint.inputSchema schemas))
        built.entries =
      ((endpoints.flatMap schemaPairs).foldl
        (fun schemas pair => schemas.set pair.1 pair.2) built).entries := by
    induction endpoints generalizing built with
    | nil => rfl
    | cons endpoint endpoints induction =>
        rw [List.foldl_cons, List.flatMap_cons, List.foldl_append]
        exact induction ((built.set _ endpoint.inputSchema).set _ endpoint.outputSchema)
  exact Prod.ext rfl (fold .empty)

def manifest (endpoints : List GatewayEndpoint) : Json := .object [
  ("endpoints", .array (endpoints.map declared)),
  ("schemas", .object (schemas endpoints).entries)]

def manifestHash [JsonCodec] [Digest] (endpoints : List GatewayEndpoint) : String :=
  "sha256:" ++ Digest.sha256 (JsonCodec.canonical (manifest endpoints))

/-! ## Pairs that flatten apart -/

def NamesApart (endpoints : List GatewayEndpoint) : Prop :=
  ∀ first ∈ endpoints, ∀ second ∈ endpoints, flatName first = flatName second → first = second

theorem eq_of_pair {endpoints : Dict (String × String) GatewayEndpoint} (filed : Filed endpoints)
    {first second : GatewayEndpoint} (held : first ∈ registeredIn endpoints)
    (another : second ∈ registeredIn endpoints) (method : first.method = second.method)
    (path : first.path = second.path) : first = second := by
  rcases List.mem_map.mp held with ⟨entry, member, isFirst⟩
  rcases List.mem_map.mp another with ⟨other, otherMember, isSecond⟩
  have key : entry.1 = other.1 := by
    rw [(filed entry member).1, (filed other otherMember).1, isFirst, isSecond, method, path]
  have same : entry = other := List.inj_on_of_nodup_map endpoints.nodup member otherMember key
  rw [← isFirst, ← isSecond, same]

theorem pair_of_schemaPairs {endpoint : GatewayEndpoint} {pair : String × Json}
    (member : pair ∈ schemaPairs endpoint) :
    ∃ side ∈ sides, pair.1 = schemaName endpoint side ∧
      pair.2 = if side = ".input" then endpoint.inputSchema else endpoint.outputSchema := by
  rcases List.mem_cons.mp member with input | output
  · rw [input]
    exact ⟨".input", List.mem_cons_self, rfl, rfl⟩
  · rw [List.mem_singleton.mp output]
    exact ⟨".output", List.mem_cons_of_mem _ List.mem_cons_self, rfl, rfl⟩

theorem get?_schemas {endpoints : List GatewayEndpoint} (apart : NamesApart endpoints)
    {endpoint : GatewayEndpoint} (registered : endpoint ∈ endpoints) {side : String}
    (member : side ∈ sides) :
    (schemas endpoints).get? (schemaName endpoint side) =
      some (if side = ".input" then endpoint.inputSchema else endpoint.outputSchema) := by
  rw [schemas, Dict.get?_ofList]
  cases found : (endpoints.flatMap schemaPairs).reverse.find? fun pair =>
      pair.1 = schemaName endpoint side with
  | none =>
      have own : (schemaName endpoint side,
          if side = ".input" then endpoint.inputSchema else endpoint.outputSchema) ∈
            schemaPairs endpoint := by
        rcases List.mem_cons.mp member with input | output
        · rw [input]
          exact List.mem_cons_self
        · rw [List.mem_singleton.mp output]
          exact List.mem_cons_of_mem _ List.mem_cons_self
      have listed := List.mem_reverse.mpr (List.mem_flatMap.mpr ⟨endpoint, registered, own⟩)
      have missing := List.find?_eq_none.mp found _ listed
      simp at missing
  | some pair =>
      have named : pair.1 = schemaName endpoint side := by simpa using List.find?_some found
      rcases List.mem_flatMap.mp (List.mem_reverse.mp (List.mem_of_find?_eq_some found)) with
        ⟨origin, originMember, pairMember⟩
      rcases pair_of_schemaPairs pairMember with ⟨other, otherMember, name, value⟩
      rw [named] at name
      rcases schemaName_inj member otherMember name with ⟨sameSide, sameName⟩
      rw [Option.map_some, value, apart endpoint registered origin originMember sameName, sameSide]

/-! ## Hashes -/

structure SameEndpoint (first second : GatewayEndpoint) : Prop where
  method : first.method = second.method
  path : first.path = second.path
  handlerReference : first.handlerReference = second.handlerReference
  inputSchema : Json.Same first.inputSchema second.inputSchema
  outputSchema : Json.Same first.outputSchema second.outputSchema
  errors : first.errors = second.errors
  requiredScopes : first.requiredScopes = second.requiredScopes

def HeldSchemas [Floats] (endpoints : List GatewayEndpoint) : Prop :=
  ∀ endpoint ∈ endpoints, Held endpoint.inputSchema ∧ Held endpoint.outputSchema

theorem items_of_same {values others : List Json}
    (same : Json.Same (.array values) (.array others)) : List.Forall₂ Json.Same values others := by
  cases same with
  | refl => exact List.forall₂_same.mpr fun value _ => .refl value
  | array items => exact items

theorem same_of_some {left right : Json} (both : Option.Rel Json.Same (some left) (some right)) :
    Json.Same left right := by
  cases both with
  | some same => exact same

theorem same_texts {texts others : List String}
    (same : Json.Same (Status.texts texts) (Status.texts others)) : texts = others := by
  have each {left right : List String}
      (items : List.Forall₂ Json.Same (left.map Json.string) (right.map Json.string)) :
      left = right := by
    induction left generalizing right with
    | nil =>
        cases right with
        | nil => rfl
        | cons => cases items
    | cons first rest induction =>
        cases right with
        | nil => cases items
        | cons second others =>
            rcases List.forall₂_cons.mp items with ⟨head, tail⟩
            rw [head.string, induction tail]
  exact each (items_of_same same)

theorem fields_of_declared {first second : GatewayEndpoint}
    (same : Json.Same (declared first) (declared second)) :
    first.method = second.method ∧ first.path = second.path ∧
      first.handlerReference = second.handlerReference ∧ first.errors = second.errors ∧
      first.requiredScopes = second.requiredScopes := by
  have member (name : String) := same.member name
  exact ⟨(same_of_some (member "method")).string, (same_of_some (member "path")).string,
    (same_of_some (member "handler_reference")).string,
    same_texts (same_of_some (member "errors")),
    same_texts (same_of_some (member "required_scopes"))⟩

theorem held_texts [Floats] (texts : List String) : Held (Status.texts texts) := by
  refine .array fun value member => ?_
  rcases List.mem_map.mp member with ⟨text, _, same⟩
  rw [← same]
  exact .string text

theorem held_declared [Floats] (endpoint : GatewayEndpoint) : Held (declared endpoint) := by
  refine .object (by simp) fun member own => ?_
  simp only [List.mem_cons, List.not_mem_nil, or_false] at own
  rcases own with same | same | same | same | same | same | same
  · rw [same]; exact .string _
  · rw [same]; exact .string _
  · rw [same]; exact .string _
  · rw [same]; exact .string _
  · rw [same]; exact .string _
  · rw [same]; exact held_texts _
  · rw [same]; exact held_texts _

theorem held_manifest [Floats] {endpoints : List GatewayEndpoint}
    (held : HeldSchemas endpoints) : Held (manifest endpoints) := by
  refine .object (by simp) fun member own => ?_
  rcases List.mem_cons.mp own with same | rest
  · rw [same]
    refine .array fun value listed => ?_
    rcases List.mem_map.mp listed with ⟨endpoint, _, isValue⟩
    rw [← isValue]
    exact held_declared endpoint
  · rw [List.mem_singleton.mp rest]
    refine .object (schemas endpoints).nodup fun entry listed => ?_
    rcases List.mem_flatMap.mp (Dict.mem_of_ofList listed) with ⟨endpoint, registered, pair⟩
    rcases pair_of_schemaPairs pair with ⟨side, _, _, value⟩
    rw [value]
    split
    · exact (held endpoint registered).1
    · exact (held endpoint registered).2

theorem source_of_forall₂ {Left Right : Type} {related : Left → Right → Prop}
    {left : List Left} {right : List Right} (all : List.Forall₂ related left right)
    {second : Right} (member : second ∈ right) : ∃ first ∈ left, related first second := by
  induction all with
  | nil => exact absurd member List.not_mem_nil
  | cons head tail induction =>
      rcases List.mem_cons.mp member with same | rest
      · rw [same]
        exact ⟨_, List.mem_cons_self, head⟩
      · rcases induction rest with ⟨first, held, related⟩
        exact ⟨first, List.mem_cons_of_mem _ held, related⟩

theorem namesApart_of_declared {endpoints : List GatewayEndpoint}
    {others : Dict (String × String) GatewayEndpoint} (filed : Filed others)
    (apart : NamesApart endpoints)
    (listed : List.Forall₂ (fun first second => Json.Same (declared first) (declared second))
      endpoints (registeredIn others)) : NamesApart (registeredIn others) := by
  intro first held second another same
  rcases source_of_forall₂ listed held with ⟨origin, originHeld, alike⟩
  rcases source_of_forall₂ listed another with ⟨other, otherHeld, otherAlike⟩
  have fields := fields_of_declared alike
  have otherFields := fields_of_declared otherAlike
  have equal : origin = other := by
    apply apart origin originHeld other otherHeld
    rw [flatName, flatName, fields.1, fields.2.1, otherFields.1, otherFields.2.1]
    exact same
  rw [equal] at fields
  exact eq_of_pair filed held another (fields.1.symm.trans otherFields.1)
    (fields.2.1.symm.trans otherFields.2.1)

theorem same_of_manifestHash [Floats] [Digest] (injective : Function.Injective Digest.sha256)
    {endpoints others : Dict (String × String) GatewayEndpoint} (filed : Filed others)
    (apart : NamesApart (registeredIn endpoints)) (held : HeldSchemas (registeredIn endpoints))
    (heldOthers : HeldSchemas (registeredIn others))
    (same : @manifestHash ⟨StandardJson.canonical, StandardJson.loads⟩ _ (registeredIn endpoints) =
      @manifestHash ⟨StandardJson.canonical, StandardJson.loads⟩ _ (registeredIn others)) :
    List.Forall₂ SameEndpoint (registeredIn endpoints) (registeredIn others) := by
  have texts : canonical (manifest (registeredIn endpoints)) =
      canonical (manifest (registeredIn others)) := by
    apply injective
    apply String.toList_injective
    have whole := congrArg String.toList same
    unfold manifestHash at whole
    rw [String.toList_append, String.toList_append] at whole
    exact List.append_cancel_left whole
  have manifests := StandardJson.same_of_canonical (held_manifest held)
    (held_manifest heldOthers) texts
  have arrays : Json.Same (.array ((registeredIn endpoints).map declared))
      (.array ((registeredIn others).map declared)) :=
    same_of_some (manifests.member "endpoints")
  have objects : Json.Same (.object (schemas (registeredIn endpoints)).entries)
      (.object (schemas (registeredIn others)).entries) :=
    same_of_some (manifests.member "schemas")
  have listed := List.forall₂_map_left_iff.mp (List.forall₂_map_right_iff.mp (items_of_same arrays))
  have apartOthers := namesApart_of_declared filed apart listed
  rw [List.forall₂_iff_zip] at listed ⊢
  refine ⟨listed.1, fun {first second} member => ?_⟩
  rcases fields_of_declared (listed.2 member) with ⟨method, path, reference, errors, scopes⟩
  have names (side : String) : schemaName first side = schemaName second side := by
    rw [schemaName, schemaName, method, path]
  have schema (side : String) (own : side ∈ sides) :
      Json.Same (if side = ".input" then first.inputSchema else first.outputSchema)
        (if side = ".input" then second.inputSchema else second.outputSchema) := by
    have both := objects.member (schemaName first side)
    rw [Attribution.member_entries, Attribution.member_entries,
      get?_schemas apart (List.of_mem_zip member).1 own, names,
      get?_schemas apartOthers (List.of_mem_zip member).2 own] at both
    exact same_of_some both
  exact ⟨method, path, reference, schema ".input" List.mem_cons_self,
    schema ".output" (List.mem_cons_of_mem _ List.mem_cons_self), errors, scopes⟩

/-! ## What a runtime module can rely on -/

def blockMember : Json → String → Option Json
  | .object members, field => Json.member members field
  | _, _ => none

def Refers (schemas : List (String × Json)) (block : Json) (field : String) (schema : Json) : Prop :=
  ∃ name, blockMember block field = some (.string ("#/schemas/" ++ name)) ∧
    Json.member schemas name = some schema

def referenceFields : List String := ["input_schema_ref", "output_schema_ref"]

/-- The frame of a table says what is registered, and its hash says all of it. -/
structure FrameSound [Floats] [Digest] [TextCase]
    (endpoints : Dict (String × String) GatewayEndpoint) : Prop where
  own : List.Forall₂ (fun endpoint block =>
      Refers (registerBlocks (registeredIn endpoints)).2 block "input_schema_ref"
        endpoint.inputSchema ∧
      Refers (registerBlocks (registeredIn endpoints)).2 block "output_schema_ref"
        endpoint.outputSchema)
    (registeredIn endpoints) (registerBlocks (registeredIn endpoints)).1
  apart : ∀ first ∈ registeredIn endpoints, ∀ second ∈ registeredIn endpoints, first ≠ second →
    ∀ field ∈ referenceFields, ∀ other ∈ referenceFields,
      blockMember (declared first) field ≠ blockMember (declared second) other
  found : ∀ method path, hasEndpoint endpoints method path = true ↔
    ∃ endpoint ∈ registeredIn endpoints,
      upper endpoint.method = upper method ∧ endpoint.path = shownPath path
  hashed : ∀ declarations, Function.Injective Digest.sha256 →
    HeldSchemas (registeredIn endpoints) → HeldSchemas (registeredIn (registering declarations)) →
    @manifestHash ⟨StandardJson.canonical, StandardJson.loads⟩ _ (registeredIn endpoints) =
      @manifestHash ⟨StandardJson.canonical, StandardJson.loads⟩ _
        (registeredIn (registering declarations)) →
    List.Forall₂ SameEndpoint (registeredIn endpoints) (registeredIn (registering declarations))

def MethodsUpper [TextCase] (endpoints : Dict (String × String) GatewayEndpoint) : Prop :=
  ∀ endpoint ∈ registeredIn endpoints, (upper endpoint.method, endpoint.path) ∈ endpoints.keys

theorem reference_inj {first second : String}
    (same : (Json.string ("#/schemas/" ++ first)) = .string ("#/schemas/" ++ second)) :
    first = second := by
  have whole := congrArg String.toList (Json.string.inj same)
  rw [String.toList_append, String.toList_append] at whole
  exact String.toList_injective (List.append_cancel_left whole)

theorem own_of_namesApart {endpoints : List GatewayEndpoint} (apart : NamesApart endpoints) :
    List.Forall₂ (fun endpoint block =>
      Refers (registerBlocks endpoints).2 block "input_schema_ref" endpoint.inputSchema ∧
      Refers (registerBlocks endpoints).2 block "output_schema_ref" endpoint.outputSchema)
    endpoints (registerBlocks endpoints).1 := by
  rw [registerBlocks_eq, List.forall₂_map_right_iff, List.forall₂_same]
  intro endpoint registered
  refine ⟨⟨schemaName endpoint ".input", rfl, ?_⟩, ⟨schemaName endpoint ".output", rfl, ?_⟩⟩
  · rw [Attribution.member_entries, get?_schemas apart registered List.mem_cons_self]
    rfl
  · rw [Attribution.member_entries,
      get?_schemas apart registered (List.mem_cons_of_mem _ List.mem_cons_self)]
    rfl

theorem name_of_field {endpoint : GatewayEndpoint} {field : String}
    (member : field ∈ referenceFields) : ∃ side ∈ sides,
      blockMember (declared endpoint) field =
        some (.string ("#/schemas/" ++ schemaName endpoint side)) := by
  rcases List.mem_cons.mp member with input | output
  · rw [input]
    exact ⟨".input", List.mem_cons_self, rfl⟩
  · rw [List.mem_singleton.mp output]
    exact ⟨".output", List.mem_cons_of_mem _ List.mem_cons_self, rfl⟩

theorem apart_iff (endpoints : List GatewayEndpoint) :
    (∀ first ∈ endpoints, ∀ second ∈ endpoints, first ≠ second →
      ∀ field ∈ referenceFields, ∀ other ∈ referenceFields,
        blockMember (declared first) field ≠ blockMember (declared second) other) ↔
      NamesApart endpoints := by
  constructor
  · intro different first held second another same
    by_contra distinct
    apply different first held second another distinct "input_schema_ref" List.mem_cons_self
      "input_schema_ref" List.mem_cons_self
    have names : schemaName first ".input" = schemaName second ".input" := by
      apply String.toList_injective
      rw [toList_schemaName first List.mem_cons_self, toList_schemaName second List.mem_cons_self,
        same]
    change some (Json.string ("#/schemas/" ++ schemaName first ".input")) =
      some (.string ("#/schemas/" ++ schemaName second ".input"))
    rw [names]
  · intro apart first held second another distinct field member other otherMember same
    rcases name_of_field member with ⟨side, isSide, left⟩
    rcases name_of_field otherMember with ⟨another', isAnother, right⟩
    rw [left, right] at same
    exact distinct (apart first held second another
      (schemaName_inj isSide isAnother (reference_inj (Option.some.inj same))).2)

theorem hasEndpoint_iff [TextCase] (endpoints : Dict (String × String) GatewayEndpoint)
    (method path : String) :
    hasEndpoint endpoints method path = true ↔ (upper method, shownPath path) ∈ endpoints.keys := by
  rw [hasEndpoint, Option.isSome_iff_exists]
  constructor
  · intro ⟨endpoint, held⟩
    exact Dict.mem_keys_of_get? _ held
  · intro key
    rcases List.mem_map.mp key with ⟨entry, member, isKey⟩
    exact ⟨entry.2, (Dict.get?_eq_some_iff _).mpr (isKey ▸ member)⟩

/-- Whatever is filed is found, in any case, exactly if it is filed under its method in upper
case. -/
theorem found_iff [TextCase] {endpoints : Dict (String × String) GatewayEndpoint}
    (filed : Filed endpoints) :
    (∀ method path, hasEndpoint endpoints method path = true ↔
      ∃ endpoint ∈ registeredIn endpoints,
        upper endpoint.method = upper method ∧ endpoint.path = shownPath path) ↔
      MethodsUpper endpoints := by
  constructor
  · intro found endpoint registered
    rcases List.mem_map.mp registered with ⟨entry, member, isEndpoint⟩
    have shown : endpoint.path ≠ "" := isEndpoint ▸ (filed entry member).2
    have own := (found endpoint.method endpoint.path).mpr
      ⟨endpoint, registered, rfl, (shownPath_of_ne shown).symm⟩
    rw [hasEndpoint_iff, shownPath_of_ne shown] at own
    exact own
  · intro listed method path
    rw [hasEndpoint_iff]
    constructor
    · intro key
      rcases List.mem_map.mp key with ⟨entry, member, isKey⟩
      have pair := (filed entry member).1
      rw [isKey] at pair
      refine ⟨entry.2, List.mem_map_of_mem member, ?_, (congrArg Prod.snd pair).symm⟩
      have filedMethod : upper method = entry.2.method := congrArg Prod.fst pair
      rw [← filedMethod, TextCase.upper_upper]
    · intro ⟨endpoint, registered, sameMethod, samePath⟩
      rw [← sameMethod, ← samePath]
      exact listed endpoint registered

/-- The frame is right exactly if all pairs flatten to different names, and all methods are in
upper case. -/
theorem frameSound_iff [Floats] [Digest] [TextCase] (declarations : List Declaration) :
    FrameSound (registering declarations) ↔
      NamesApart (registeredIn (registering declarations)) ∧
        MethodsUpper (registering declarations) := by
  constructor
  · intro sound
    exact ⟨(apart_iff _).mp sound.apart, (found_iff (filed_registering declarations)).mp sound.found⟩
  · intro ⟨apart, listed⟩
    exact {
      own := own_of_namesApart apart
      apart := (apart_iff _).mpr apart
      found := (found_iff (filed_registering declarations)).mpr listed
      hashed := fun others injective held heldOthers =>
        same_of_manifestHash injective (filed_registering others) apart held heldOthers }

end Gateway

end Agtp

namespace Agtp.Gateway.RegisterSamples

open scoped Agtp.Plain

/-- A declaration of `BOOK` at a path, for a function of the runtime module. -/
def bookingAt (path : String) (inputSchema : Json) : Declaration where
  spec := { Registration.Samples.proxiedBooking with
    path := .string path
    handler := .block { Registration.Samples.proxied with
      type := .string "registered_function"
      function := .string "rooms.book" } }
  inputSchema := inputSchema
  outputSchema := .object []

def nestedAndFlat : List Declaration := [
  bookingAt "/rooms/night" (.object [("required", .array [.string "room"])]),
  bookingAt "/rooms_night" (.object [])]

def nested : GatewayEndpoint where
  method := "BOOK"
  path := "/rooms/night"
  handlerReference := "rooms.book"
  inputSchema := .object [("required", .array [.string "room"])]
  outputSchema := .object []
  errors := []
  requiredScopes := []

def flat : GatewayEndpoint := { nested with path := "/rooms_night", inputSchema := .object [] }

scoped instance : Digest where
  sha256 := fun _ => ""

/-- The requests to one of them are checked against the schema of the other. -/
theorem nestedAndFlat_collide : ¬FrameSound (registering nestedAndFlat) := by
  intro sound
  have same := (apart_iff _).mp sound.apart nested List.mem_cons_self flat
    (List.mem_cons_of_mem _ List.mem_cons_self) (by decide)
  have paths := congrArg GatewayEndpoint.path same
  exact absurd paths (by decide)

end Agtp.Gateway.RegisterSamples
