import Agtp.Core.UriCodec
import Agtp.Foundation.Checks
import Agtp.Foundation.Conversions
import Agtp.Server.HandlerResolution

/-! # Registration of endpoints

The checks that a declaration passes before it is bound, with fields of any type. -/

namespace Agtp.Registration

open Checks (Failing Law Decides require checkAll)

/-! ## Declarations -/

structure InvalidEndpointError where
  message : String
  detail : String
deriving DecidableEq

inductive Part (Block : Type) where
  | block (value : Block)
  | other (value : Json)

structure ParamSpec where
  name : Json
  type : Json
  description : Json

structure SemanticBlock where
  intent : Json
  actor : Json
  outcome : Json
  capability : Json
  confidence : Json
  impact : Json
  isIdempotent : Json

structure HandlerBinding where
  type : Json
  function : Json
  recipe : Json
  url : Json
  method : Json
  errorMap : Json
  timeoutSeconds : Json

inductive Params where
  | items (list : List (Part ParamSpec))
  | other (value : Json)

/-- The fields that are checked. -/
structure EndpointSpec where
  name : Json
  path : Json
  semantic : Part SemanticBlock
  requiredParams : Params
  optionalParams : Params
  output : Params
  errors : Json
  handler : Part HandlerBinding
  requiredScopes : Json

/-! ## Values -/

def isList : Json → Bool
  | .array _ => true
  | _ => false

def isFilled : Json → Bool
  | .string text => text ≠ ""
  | _ => false

def isWritten : Json → Bool
  | .string text => Text.strip text ≠ ""
  | _ => false

def isPopulated : Json → Bool
  | .null => false
  | .string text => Text.strip text ≠ ""
  | _ => true

def isOneOf (names : List String) : Json → Bool
  | .string text => names.contains text
  | _ => false

def items : Json → List Json
  | .array values => values
  | _ => []

def textIn : Json → String
  | .string text => text
  | _ => ""

def startsWith (text start : String) : Bool := start.toList.isPrefixOf text.toList

abbrev Checked := Except (Failing InvalidEndpointError Raised) Unit

def checkOneOf (names : List String) (value : Json) (error : InvalidEndpointError) : Checked :=
  if value.hashable then require (isOneOf names value) error
  else .error (.raised .typeError)

def oneOfLaw (names : List String) (value : Json) : Law where
  passes := isOneOf names value = true
  raises := value.hashable = false

theorem hashable_of_isOneOf {names : List String} {value : Json}
    (isOne : isOneOf names value = true) : value.hashable = true := by
  cases value with
  | string => rfl
  | _ => cases isOne

theorem decides_checkOneOf (names : List String) (value : Json) (error : InvalidEndpointError) :
    Decides (checkOneOf names value error) (oneOfLaw names value) := by
  unfold checkOneOf oneOfLaw
  cases hashable : value.hashable with
  | true =>
      exact (Checks.decides_require _ error).congr Iff.rfl ⟨False.elim, nofun⟩
  | false =>
      apply (Checks.decides_raised Raised.typeError).congr
      · refine ⟨False.elim, fun isOne => ?_⟩
        rw [hashable_of_isOneOf isOne] at hashable
        cases hashable
      · exact ⟨fun _ => rfl, fun _ => trivial⟩

/-! ## Documented sets, as they are sorted in a message -/

def allParamTypes : List String :=
  ["array", "boolean", "integer", "number", "object", "string"]

def allCapabilities : List String :=
  ["analysis", "creation", "discovery", "domain_spanning", "mechanics", "modification",
    "notification", "retrieval", "transaction"]

def allImpacts : List String := ["informational", "irreversible", "reversible"]

def allHandlerTypes : List String :=
  ["composition", "external_service", "proxy", "registered_function"]

def externalServiceMethods : List String :=
  ["DELETE", "GET", "HEAD", "OPTIONS", "PATCH", "POST", "PUT"]

def joined (names : List String) : String := String.intercalate ", " names

/-- Network locations that `urlparse` raises a `ValueError` for. Without one it does not. -/
class NetworkLocations where
  malformed : List Char → Bool
  malformed_nil : malformed [] = false

section Validating

variable [TextOf]

/-! ## Parameters -/

def validateParam (kind : String) (index : Nat) : Part ParamSpec → Checked
  | .other _ => .error (.refused
      ⟨s!"{kind} entry at index {index} is not a ParamSpec",
        s!"param-bad-shape:{kind}:{index}:not-paramspec"⟩)
  | .block param => do
      require (isFilled param.name)
        ⟨s!"{kind} entry at index {index} has empty 'name'",
          s!"param-bad-shape:{kind}:{index}:empty-name"⟩
      checkOneOf allParamTypes param.type
        ⟨(s!"{kind} entry {param.name.repr} has unrecognized type {param.type.repr}; " ++
          s!"expected one of {joined allParamTypes}"),
          s!"param-bad-shape:{kind}:{index}:bad-type"⟩
      require (isFilled param.description)
        ⟨s!"{kind} entry {param.name.repr} has empty 'description'",
          s!"param-bad-shape:{kind}:{index}:empty-description"⟩

def paramLaw : Part ParamSpec → Law
  | .other _ => ⟨False, False⟩
  | .block param =>
      Law.andThen ⟨isFilled param.name = true, False⟩
        ((oneOfLaw allParamTypes param.type).andThen ⟨isFilled param.description = true, False⟩)

theorem decides_validateParam (kind : String) (index : Nat) (param : Part ParamSpec) :
    Decides (validateParam kind index param) (paramLaw param) := by
  cases param with
  | other value => exact Checks.decides_refused _
  | block param =>
      exact (Checks.decides_require _ _).andThen
        ((decides_checkOneOf _ _ _).andThen (Checks.decides_require _ _))

def validateParams (kind : String) : Params → Checked
  | .items list => checkAll (validateParam kind) 0 list
  | .other (.array values) => checkAll (validateParam kind) 0 (values.map .other)
  | .other _ => .error (.refused
      ⟨s!"{kind} must be a list", s!"param-bad-shape:{kind}:-:not-list"⟩)

def paramsLaw : Params → Law
  | .items list => Law.all (list.map paramLaw)
  | .other (.array values) => Law.all ((values.map .other).map paramLaw)
  | .other _ => ⟨False, False⟩

theorem decides_validateParams (kind : String) (params : Params) :
    Decides (validateParams kind params) (paramsLaw params) := by
  cases params with
  | items list => exact Checks.decides_checkAll (decides_validateParam kind) 0 list
  | other value =>
      cases value with
      | array values => exact Checks.decides_checkAll (decides_validateParam kind) 0 _
      | _ => exact Checks.decides_refused _

/-! ## The semantic block -/

def missingField (name : String) : InvalidEndpointError :=
  ⟨s!"endpoint semantic block missing field {TextOf.quoted name}",
    s!"semantic-missing-field:{name}"⟩

def requiredFields (block : SemanticBlock) : List (String × Json) :=
  [("intent", block.intent), ("actor", block.actor), ("outcome", block.outcome),
    ("capability", block.capability), ("confidence", block.confidence),
    ("impact", block.impact), ("is_idempotent", block.isIdempotent)]

def isNumber : Json → Bool
  | .int _ | .bool _ | .float _ => true
  | _ => false

def inUnit (value : Double) : Bool := (Double.finite 0).le value && value.le (.finite 1)

/-- `not isinstance(cg, (int, float)) or not 0.0 <= float(cg) <= 1.0`. An integer that no
float is close to raises. -/
def checkConfidence [Floats] (confidence : Json) : Checked :=
  let error : InvalidEndpointError :=
    ⟨"semantic.confidence must be a number in [0, 1]", "semantic-bad-confidence"⟩
  if isNumber confidence then
    match confidence.toFloat with
    | .ok printed => require (inUnit (Floats.value printed)) error
    | .error raised => .error (.raised raised)
  else .error (.refused error)

def validateSemantic [Floats] : Part SemanticBlock → Checked
  | .other .null => .error (.refused
      ⟨"endpoint is missing the semantic block", "semantic-missing"⟩)
  | .other _ => .error (.refused (missingField "intent"))
  | .block block => do
      checkAll (fun _ (field : String × Json) => require (isPopulated field.2) (missingField field.1))
        0 (requiredFields block)
      checkOneOf allCapabilities block.capability
        ⟨(s!"semantic.capability {block.capability.repr} is not one of " ++
          joined allCapabilities), "semantic-bad-capability"⟩
      checkOneOf allImpacts block.impact
        ⟨s!"semantic.impact {block.impact.repr} is not one of {joined allImpacts}",
          "semantic-bad-impact"⟩
      checkConfidence block.confidence

def confidenceLaw [Floats] (confidence : Json) : Law where
  passes := ∃ printed, isNumber confidence = true ∧ confidence.toFloat = .ok printed ∧
    inUnit (Floats.value printed) = true
  raises := isNumber confidence = true ∧ ∃ raised, confidence.toFloat = .error raised

omit [TextOf] in
theorem decides_checkConfidence [Floats] (confidence : Json) :
    Decides (checkConfidence confidence) (confidenceLaw confidence) := by
  unfold checkConfidence confidenceLaw
  cases number : isNumber confidence with
  | false =>
      exact (Checks.decides_refused _).congr ⟨False.elim, fun ⟨_, own, _⟩ => nomatch own⟩
        ⟨False.elim, fun ⟨own, _⟩ => nomatch own⟩
  | true =>
      cases read : confidence.toFloat with
      | error raised =>
          exact (Checks.decides_raised raised).congr
            ⟨False.elim, fun ⟨_, _, own, _⟩ => nomatch own⟩
            ⟨fun _ => ⟨rfl, raised, rfl⟩, fun _ => trivial⟩
      | ok printed =>
          apply (Checks.decides_require _ _).congr
          · constructor
            · exact fun inside => ⟨printed, rfl, rfl, inside⟩
            · intro ⟨other, _, same, inside⟩
              cases same
              exact inside
          · exact ⟨False.elim, fun ⟨_, _, own⟩ => nomatch own⟩

def semanticLaw [Floats] : Part SemanticBlock → Law
  | .other _ => ⟨False, False⟩
  | .block block =>
      (Law.all ((requiredFields block).map fun field => ⟨isPopulated field.2 = true, False⟩)).andThen
        ((oneOfLaw allCapabilities block.capability).andThen
          ((oneOfLaw allImpacts block.impact).andThen (confidenceLaw block.confidence)))

theorem decides_validateSemantic [Floats] (semantic : Part SemanticBlock) :
    Decides (validateSemantic semantic) (semanticLaw semantic) := by
  cases semantic with
  | other value =>
      cases value with
      | null => exact Checks.decides_refused _
      | _ => exact Checks.decides_refused _
  | block block =>
      have field (_ : Nat) (entry : String × Json) : Decides
          (require (isPopulated entry.2 = true) (missingField entry.1) : Checked) _ :=
        Checks.decides_require _ _
      have fields := Checks.decides_checkAll field 0 (requiredFields block)
      exact fields.andThen ((decides_checkOneOf _ _ _).andThen
        ((decides_checkOneOf _ _ _).andThen (decides_checkConfidence _)))

/-! ## Lists of texts -/

def checkTexts (values : Json) (shape : InvalidEndpointError)
    (entry : Nat → InvalidEndpointError) : Checked :=
  if isList values then
    checkAll (fun index value => require (isWritten value) (entry index)) 0 (items values)
  else .error (.refused shape)

def textsLaw (values : Json) : Law where
  passes := isList values = true ∧ ∀ value ∈ items values, isWritten value = true
  raises := False

omit [TextOf] in
theorem decides_checkTexts (values : Json) (shape : InvalidEndpointError)
    (entry : Nat → InvalidEndpointError) :
    Decides (checkTexts values shape entry) (textsLaw values) := by
  unfold checkTexts textsLaw
  cases list : isList values with
  | false => exact (Checks.decides_refused _).congr ⟨False.elim, nofun⟩ Iff.rfl
  | true =>
      have written (index : Nat) (value : Json) :
          Decides (require (isWritten value = true) (entry index) : Checked) _ :=
        Checks.decides_require _ _
      have all := Checks.decides_checkAll written 0 (items values)
      apply all.congr
      · rw [Law.all_passes_iff, List.forall_mem_map]
        exact ⟨fun written => ⟨rfl, written⟩, And.right⟩
      · refine ⟨fun raises => ?_, False.elim⟩
        rcases Law.all_raises_iff.mp raises with ⟨before, law, after, same, _, own⟩
        have member : law ∈ (items values).map fun value =>
            (⟨isWritten value = true, False⟩ : Law) := by
          rw [same]
          exact List.mem_append_right _ List.mem_cons_self
        rcases List.mem_map.mp member with ⟨value, _, isLaw⟩
        rw [← isLaw] at own
        exact own

def checkErrors (errors : Json) : Checked :=
  checkTexts errors ⟨"errors must be a list of strings", "errors-bad-shape:-"⟩ fun index =>
    ⟨s!"errors[{index}] must be a non-empty string", s!"errors-bad-shape:{index}"⟩

def checkScopes (scopes : Json) : Checked :=
  checkTexts scopes
    ⟨"required_scopes must be a list of strings", "required-scopes-bad-shape"⟩ fun index =>
      ⟨s!"required_scopes[{index}] must be a non-empty string", "required-scopes-bad-shape"⟩

/-! ## The handler binding -/

def hasType (binding : HandlerBinding) (type : String) : Bool := isOneOf [type] binding.type

def referenceOf (binding : HandlerBinding) : String × Json :=
  if hasType binding "registered_function" then ("function", binding.function)
  else if hasType binding "composition" then ("recipe", binding.recipe)
  else if hasType binding "external_service" then ("url", binding.url)
  else ("reference", .string "")

def isOver [Floats] (timeout : Json) : Option Bool :=
  timeout.number?.map fun value => value.le (.finite 0)

def checkTimeout [Floats] (timeout : Json) : Checked :=
  require (isOver timeout = some false)
    ⟨"external_service handler.timeout_seconds must be a positive number",
      "external-service-bad-timeout"⟩

def checkErrorMap (declared : List String) (errorMap : Json) : Checked :=
  if errorMap.truthy then
    match errorMap with
    | .object entries =>
        checkAll (fun _ (entry : String × Json) => checkOneOf declared entry.2
          ⟨(s!"external_service error_map maps HTTP {entry.1} to {entry.2.repr}, but " ++
            s!"{entry.2.repr} is not in the endpoint's errors list " ++
            s!"({HandlerResolution.orNone declared})"),
            s!"external-service-error-map-undeclared:{entry.2.str}"⟩) 0 entries
    | _ => .error (.raised .attributeError)
  else .ok ()

def errorMapLaw (declared : List String) (errorMap : Json) : Law :=
  if errorMap.truthy then
    match errorMap with
    | .object entries => Law.all (entries.map fun entry => oneOfLaw declared entry.2)
    | _ => ⟨False, True⟩
  else ⟨True, False⟩

theorem decides_checkErrorMap (declared : List String) (errorMap : Json) :
    Decides (checkErrorMap declared errorMap) (errorMapLaw declared errorMap) := by
  unfold checkErrorMap errorMapLaw
  cases errorMap.truthy with
  | false => exact Checks.decides_ok
  | true =>
      cases errorMap with
      | object entries =>
          have all (error : String × Json → InvalidEndpointError) := Checks.decides_checkAll
            (fun (_ : Nat) (entry : String × Json) =>
              decides_checkOneOf declared entry.2 (error entry)) 0 entries
          exact all _
      | _ => exact Checks.decides_raised _

def trimmedUrl (binding : HandlerBinding) : String := Text.strip (textIn binding.url)

def isHttps (url : String) : Bool := startsWith url "https://" || startsWith url "https:"

def validateExternalService [Floats] (declared : List String) (binding : HandlerBinding) :
    Checked := do
  require (binding.method.truthy = true)
    ⟨"external_service handler is missing 'method' (the upstream HTTP verb)",
      "external-service-missing-method"⟩
  checkOneOf externalServiceMethods binding.method
    ⟨(s!"external_service handler.method {binding.method.repr} is not a recognized HTTP " ++
      s!"method; expected one of {joined externalServiceMethods}"),
      "external-service-bad-method"⟩
  require (isHttps (trimmedUrl binding) = true)
    ⟨("external_service handler.url must be an HTTPS URL (got " ++
      TextOf.quoted (trimmedUrl binding) ++
      "); plaintext upstream calls are refused at registration"),
      "external-service-bad-scheme"⟩
  checkTimeout binding.timeoutSeconds
  checkErrorMap declared binding.errorMap

def externalLaw [Floats] (declared : List String) (binding : HandlerBinding) : Law :=
  Law.andThen ⟨binding.method.truthy = true, False⟩
    ((oneOfLaw externalServiceMethods binding.method).andThen
      (Law.andThen ⟨isHttps (trimmedUrl binding) = true, False⟩
        (Law.andThen ⟨isOver binding.timeoutSeconds = some false, False⟩
          (errorMapLaw declared binding.errorMap))))

theorem decides_validateExternalService [Floats] (declared : List String)
    (binding : HandlerBinding) :
    Decides (validateExternalService declared binding) (externalLaw declared binding) :=
  (Checks.decides_require _ _).andThen ((decides_checkOneOf _ _ _).andThen
    ((Checks.decides_require _ _).andThen ((Checks.decides_require _ _).andThen
      (decides_checkErrorMap declared binding.errorMap))))

def validateHandler [Floats] (declared : List String) : Part HandlerBinding → Checked
  | .other .null => .error (.refused
      ⟨"endpoint is missing the handler binding", "handler-missing"⟩)
  | .other _ => .error (.raised .attributeError)
  | .block binding => do
      checkOneOf allHandlerTypes binding.type
        ⟨s!"handler.type {binding.type.repr} is not one of {joined allHandlerTypes}",
          "handler-bad-type"⟩
      require (isFilled (referenceOf binding).2)
        ⟨s!"handler.{(referenceOf binding).1} must be a non-empty string",
          "handler-empty-reference"⟩
      if hasType binding "external_service" then validateExternalService declared binding
      else .ok ()

def handlerLaw [Floats] (declared : List String) : Part HandlerBinding → Law
  | .other .null => ⟨False, False⟩
  | .other _ => ⟨False, True⟩
  | .block binding =>
      (oneOfLaw allHandlerTypes binding.type).andThen
        (Law.andThen ⟨isFilled (referenceOf binding).2 = true, False⟩
          (if hasType binding "external_service" then externalLaw declared binding
          else ⟨True, False⟩))

theorem decides_validateHandler [Floats] (declared : List String)
    (handler : Part HandlerBinding) :
    Decides (validateHandler declared handler) (handlerLaw declared handler) := by
  cases handler with
  | other value =>
      cases value with
      | null => exact Checks.decides_refused _
      | _ => exact Checks.decides_raised _
  | block binding =>
      refine (decides_checkOneOf _ _ _).andThen ((Checks.decides_require _ _).andThen ?_)
      split
      · exact decides_validateExternalService declared binding
      · exact Checks.decides_ok

/-! ## The verb and the path -/

section Specs

variable [TextCase] [NetworkLocations] [Floats]

def nameText : Json → Option String
  | .string text => some text
  | value => if value.truthy then none else some ""

def checkVerb (catalog : Catalog) (name : Json) : Checked :=
  match nameText name with
  | none => .error (.raised .attributeError)
  | some text =>
      require (catalog.isApprovedVerb (upper text) = true)
        ⟨s!"method {TextOf.quoted (upper text)} is not in the AGTP verb catalog",
          "verb-not-in-catalog"⟩

def verbLaw (catalog : Catalog) (name : Json) : Law where
  passes := ∃ text, nameText name = some text ∧ catalog.isApprovedVerb (upper text) = true
  raises := nameText name = none

omit [NetworkLocations] [Floats] in
theorem decides_checkVerb (catalog : Catalog) (name : Json) :
    Decides (checkVerb catalog name) (verbLaw catalog name) := by
  unfold checkVerb verbLaw
  cases nameText name with
  | none =>
      exact (Checks.decides_raised _).congr ⟨False.elim, fun ⟨_, same, _⟩ => nomatch same⟩
        ⟨fun _ => rfl, fun _ => trivial⟩
  | some text =>
      apply (Checks.decides_require _ _).congr
      · constructor
        · exact fun approved => ⟨text, rfl, approved⟩
        · intro ⟨other, same, approved⟩
          cases same
          exact approved
      · exact ⟨False.elim, nofun⟩

def Opens (path : String) : Prop :=
  path.toList.head? = some '/' ∧ ¬(path ≠ "/" ∧ path.toList.getLast? = some '/')

instance (path : String) : Decidable (Opens path) := inferInstanceAs (Decidable (_ ∧ _))

def pathError (path : Json) (code message : String) : InvalidEndpointError :=
  ⟨s!"path {path.repr} violates AGTP path grammar: {message}", s!"path-grammar:{code}"⟩

/-- The path, where `urlparse` may raise. -/
def checkPath (catalog : Catalog) (path : Json) : Checked :=
  if path.truthy then
    match path with
    | .string text =>
        if Opens text ∧ NetworkLocations.malformed (PathGrammar.urlParse text).1 = true then
          .error (.raised .valueError)
        else
          match PathGrammar.validatePath catalog text with
          | .ok () => .ok ()
          | .error error => .error (.refused (pathError path error.code error.message))
    | _ => .error (.refused (pathError path "invalid-format" "Path must begin with '/'"))
  else .error (.refused ⟨"endpoint is missing 'path'", "path-missing"⟩)

def pathLaw (catalog : Catalog) (path : Json) : Law where
  passes := ∃ text, path = .string text ∧ PathGrammar.validatePath catalog text = .ok ()
  raises := ∃ text, path = .string text ∧ Opens text ∧
    NetworkLocations.malformed (PathGrammar.urlParse text).1 = true

omit [Floats] [NetworkLocations] in
theorem plain_of_validatePath {catalog : Catalog} {text : String}
    (valid : PathGrammar.validatePath catalog text = .ok ()) :
    (PathGrammar.urlParse text).1 = [] ∧ text ≠ "" := by
  unfold PathGrammar.validatePath at valid
  split at valid
  · cases valid
  · next start =>
      split at valid
      · cases valid
      · split at valid
        · cases valid
        · next relative =>
            refine ⟨not_not.mp relative, fun empty => start ?_⟩
            rw [empty]
            decide

omit [Floats] in
theorem decides_checkPath (catalog : Catalog) (path : Json) :
    Decides (checkPath catalog path) (pathLaw catalog path) := by
  unfold checkPath pathLaw
  cases path with
  | string text =>
      have only {Holds : String → Prop} :
          (∃ other, Json.string text = .string other ∧ Holds other) ↔ Holds text := by
        constructor
        · intro ⟨other, same, holds⟩
          cases same
          exact holds
        · exact fun holds => ⟨text, rfl, holds⟩
      rw [only, only]
      by_cases empty : text = ""
      · subst empty
        have refused : ¬Opens "" := by decide
        have invalid : PathGrammar.validatePath catalog "" ≠ .ok () :=
          fun valid => (plain_of_validatePath valid).2 rfl
        exact (Checks.decides_refused _).congr ⟨False.elim, fun own => absurd own invalid⟩
          ⟨False.elim, fun own => absurd own.1 refused⟩
      · have truthy : (Json.string text).truthy = true := by simp [Json.truthy, empty]
        rw [if_pos truthy]
        dsimp only
        by_cases raises : Opens text ∧
            NetworkLocations.malformed (PathGrammar.urlParse text).1 = true
        · rw [if_pos raises]
          refine (Checks.decides_raised _).congr ⟨False.elim, fun valid => ?_⟩
            ⟨fun _ => raises, fun _ => trivial⟩
          have malformed := raises.2
          rw [(plain_of_validatePath valid).1, NetworkLocations.malformed_nil] at malformed
          cases malformed
        · rw [if_neg raises]
          cases valid : PathGrammar.validatePath catalog text with
          | ok =>
              exact Checks.decides_ok.congr ⟨fun _ => rfl, fun _ => trivial⟩
                ⟨False.elim, fun own => absurd own raises⟩
          | error error =>
              exact (Checks.decides_refused _).congr ⟨False.elim, nofun⟩
                ⟨False.elim, fun own => absurd own raises⟩
  | _ =>
      split
      · exact (Checks.decides_refused _).congr ⟨False.elim, fun ⟨_, same, _⟩ => nomatch same⟩
          ⟨False.elim, fun ⟨_, same, _⟩ => nomatch same⟩
      · exact (Checks.decides_refused _).congr ⟨False.elim, fun ⟨_, same, _⟩ => nomatch same⟩
          ⟨False.elim, fun ⟨_, same, _⟩ => nomatch same⟩

/-! ## The declaration -/

def declaredErrors (spec : EndpointSpec) : List String := (items spec.errors).map textIn

def validateSpec (catalog : Catalog) (spec : EndpointSpec) : Checked := do
  checkVerb catalog spec.name
  checkPath catalog spec.path
  validateSemantic spec.semantic
  validateParams "input.required" spec.requiredParams
  validateParams "input.optional" spec.optionalParams
  validateParams "output" spec.output
  checkErrors spec.errors
  validateHandler (declaredErrors spec) spec.handler
  checkScopes spec.requiredScopes

def specLaw (catalog : Catalog) (spec : EndpointSpec) : Law :=
  (verbLaw catalog spec.name).andThen <|
  (pathLaw catalog spec.path).andThen <|
  (semanticLaw spec.semantic).andThen <|
  (paramsLaw spec.requiredParams).andThen <|
  (paramsLaw spec.optionalParams).andThen <|
  (paramsLaw spec.output).andThen <|
  (textsLaw spec.errors).andThen <|
  (handlerLaw (declaredErrors spec) spec.handler).andThen <|
  textsLaw spec.requiredScopes

theorem decides_validateSpec (catalog : Catalog) (spec : EndpointSpec) :
    Decides (validateSpec catalog spec) (specLaw catalog spec) :=
  (decides_checkVerb catalog spec.name).andThen <|
  (decides_checkPath catalog spec.path).andThen <|
  (decides_validateSemantic spec.semantic).andThen <|
  (decides_validateParams _ spec.requiredParams).andThen <|
  (decides_validateParams _ spec.optionalParams).andThen <|
  (decides_validateParams _ spec.output).andThen <|
  (decides_checkTexts spec.errors _ _).andThen <|
  (decides_validateHandler _ spec.handler).andThen <|
  decides_checkTexts spec.requiredScopes _ _

/-! ## The registry -/

inductive EndpointRegistryError where
  | invalid (error : InvalidEndpointError)
  | duplicate (method path : String)
deriving DecidableEq

structure EndpointRegistry (Handler : Type) where
  entries : Dict (String × String) (EndpointSpec × Option Handler)
  paths : Dict String (List String)

variable {Handler : Type}

def EndpointRegistry.empty : EndpointRegistry Handler := ⟨Dict.empty, Dict.empty⟩

def keyOf (spec : EndpointSpec) : String × String := (upper (textIn spec.name), textIn spec.path)

def register (catalog : Catalog) (registry : EndpointRegistry Handler) (spec : EndpointSpec)
    (handler : Option Handler) :
    Except (Failing EndpointRegistryError Raised) (EndpointRegistry Handler) :=
  match validateSpec catalog spec with
  | .error (.refused error) => .error (.refused (.invalid error))
  | .error (.raised raised) => .error (.raised raised)
  | .ok () =>
      match spec.name with
      | .string _ =>
          let key := keyOf spec
          if key ∈ registry.entries.keys then .error (.refused (.duplicate key.1 key.2))
          else .ok {
            entries := registry.entries.set key (spec, handler)
            paths := registry.paths.set key.2
              (((registry.paths.get? key.2).getD []).insert key.1)
          }
      | _ => .error (.raised .attributeError)

def registerLaw (catalog : Catalog) (spec : EndpointSpec) : Law :=
  (specLaw catalog spec).andThen
    ⟨∃ name, spec.name = .string name, ¬∃ name, spec.name = .string name⟩

theorem register_ok_iff {catalog : Catalog} {registry : EndpointRegistry Handler}
    {spec : EndpointSpec} {handler : Option Handler} :
    (∃ later, register catalog registry spec handler = .ok later) ↔
      (registerLaw catalog spec).passes ∧ keyOf spec ∉ registry.entries.keys := by
  have decides := decides_validateSpec catalog spec
  change _ ↔ ((specLaw catalog spec).passes ∧ ∃ name, spec.name = .string name) ∧ _
  rw [← decides.passes_iff]
  unfold register
  cases validateSpec catalog spec with
  | error stop =>
      cases stop with
      | refused error => exact ⟨fun ⟨_, same⟩ => (nomatch same), fun own => nomatch own.1.1⟩
      | raised raised => exact ⟨fun ⟨_, same⟩ => (nomatch same), fun own => nomatch own.1.1⟩
  | ok =>
      cases spec.name with
      | string name =>
          by_cases taken : keyOf spec ∈ registry.entries.keys
          · dsimp only
            rw [if_pos taken]
            exact ⟨fun ⟨_, same⟩ => (nomatch same), fun own => absurd taken own.2⟩
          · dsimp only
            rw [if_neg taken]
            exact ⟨fun _ => ⟨⟨rfl, name, rfl⟩, taken⟩, fun _ => ⟨_, rfl⟩⟩
      | _ => exact ⟨fun ⟨_, same⟩ => (nomatch same), fun own => nomatch own.1.2⟩

theorem register_raises_iff {catalog : Catalog} {registry : EndpointRegistry Handler}
    {spec : EndpointSpec} {handler : Option Handler} :
    (∃ raised, register catalog registry spec handler = .error (.raised raised)) ↔
      (registerLaw catalog spec).raises := by
  have decides := decides_validateSpec catalog spec
  change _ ↔ (specLaw catalog spec).raises ∨
    ((specLaw catalog spec).passes ∧ ¬∃ name, spec.name = .string name)
  rw [← decides.passes_iff, ← decides.raises_iff]
  unfold register
  cases validateSpec catalog spec with
  | error stop =>
      cases stop with
      | refused error =>
          refine ⟨fun ⟨_, same⟩ => (nomatch same), fun own => ?_⟩
          cases own with
          | inl raises => exact nomatch raises
          | inr other => exact nomatch other.1
      | raised raised => exact ⟨fun _ => .inl ⟨raised, rfl⟩, fun _ => ⟨raised, rfl⟩⟩
  | ok =>
      cases spec.name with
      | string name =>
          constructor
          · intro ⟨raised, same⟩
            dsimp only at same
            split at same
            · cases same
            · cases same
          · intro own
            cases own with
            | inl raises => exact nomatch raises
            | inr other => exact absurd ⟨name, rfl⟩ other.2
      | _ => exact ⟨fun _ => .inr ⟨rfl, nofun⟩, fun _ => ⟨_, rfl⟩⟩

/-! ## The rules -/

structure Complete (block : SemanticBlock) : Prop where
  populated : ∀ field ∈ requiredFields block, isPopulated field.2 = true
  capability : isOneOf allCapabilities block.capability = true
  impact : isOneOf allImpacts block.impact = true
  confidence : (confidenceLaw block.confidence).passes

structure IsParameter (param : ParamSpec) : Prop where
  name : isFilled param.name = true
  type : isOneOf allParamTypes param.type = true
  description : isFilled param.description = true

def Params.entries? : Params → Option (List (Part ParamSpec))
  | .items list => some list
  | .other (.array values) => some (values.map .other)
  | .other _ => none

def AreParameters (params : Params) : Prop :=
  ∃ entries, params.entries? = some entries ∧
    ∀ entry ∈ entries, ∃ param, entry = .block param ∧ IsParameter param

structure Framed (catalog : Catalog) (spec : EndpointSpec) : Prop where
  verb : ∃ name, spec.name = .string name ∧ catalog.isApprovedVerb (upper name) = true
  path : ∃ path, spec.path = .string path ∧ PathGrammar.validatePath catalog path = .ok ()
  semantic : ∃ block, spec.semantic = .block block ∧ Complete block
  parameters : AreParameters spec.requiredParams ∧ AreParameters spec.optionalParams ∧
    AreParameters spec.output
  errors : (textsLaw spec.errors).passes
  scopes : (textsLaw spec.requiredScopes).passes

def ownReference (binding : HandlerBinding) : Json :=
  if hasType binding "registered_function" then binding.function
  else if hasType binding "composition" then binding.recipe
  else binding.url

structure ExternalRules (declared : List String) (binding : HandlerBinding) : Prop where
  method : isOneOf externalServiceMethods binding.method = true
  url : startsWith (trimmedUrl binding) "https://" = true
  timeout : ∃ seconds, binding.timeoutSeconds.number? = some seconds ∧
    (Double.finite 0).lt seconds = true
  errors : binding.errorMap.truthy = true → ∃ entries, binding.errorMap = .object entries ∧
    ∀ entry ∈ entries, isOneOf declared entry.2 = true

structure HandlerRules (declared : List String) (binding : HandlerBinding) : Prop where
  kind : isOneOf allHandlerTypes binding.type = true
  reference : isFilled (ownReference binding) = true
  external : hasType binding "external_service" = true → ExternalRules declared binding

/-- The documented rules. -/
structure WellFormed (catalog : Catalog) (spec : EndpointSpec) : Prop extends
    Framed catalog spec where
  handler : ∃ binding, spec.handler = .block binding ∧
    HandlerRules (declaredErrors spec) binding

omit [TextOf] [TextCase] [NetworkLocations] [Floats] in
theorem all_passes_of {Item : Type} {items : List Item} {passes : Item → Prop}
    {law : Item → Law} (each : ∀ item ∈ items, (law item).passes ↔ passes item) :
    (Law.all (items.map law)).passes ↔ ∀ item ∈ items, passes item := by
  rw [Law.all_passes_iff, List.forall_mem_map]
  exact forall₂_congr each

omit [TextOf] [TextCase] [NetworkLocations] in
theorem semanticLaw_passes_iff (semantic : Part SemanticBlock) :
    (semanticLaw semantic).passes ↔ ∃ block, semantic = .block block ∧ Complete block := by
  cases semantic with
  | other value => exact ⟨False.elim, fun ⟨_, same, _⟩ => (nomatch same)⟩
  | block block =>
      have populated : (Law.all ((requiredFields block).map fun field =>
          ⟨isPopulated field.2 = true, False⟩)).passes ↔
            ∀ field ∈ requiredFields block, isPopulated field.2 = true :=
        all_passes_of fun _ _ => Iff.rfl
      constructor
      · intro ⟨fields, capability, impact, confidence⟩
        exact ⟨block, rfl, populated.mp fields, capability, impact, confidence⟩
      · intro ⟨other, same, complete⟩
        cases same
        exact ⟨populated.mpr complete.populated, complete.capability, complete.impact,
          complete.confidence⟩

omit [TextOf] [TextCase] [NetworkLocations] [Floats] in
theorem paramLaw_passes_iff (entry : Part ParamSpec) :
    (paramLaw entry).passes ↔ ∃ param, entry = .block param ∧ IsParameter param := by
  cases entry with
  | other value => exact ⟨False.elim, fun ⟨_, same, _⟩ => (nomatch same)⟩
  | block param =>
      constructor
      · exact fun ⟨name, type, description⟩ => ⟨param, rfl, name, type, description⟩
      · intro ⟨other, same, is⟩
        cases same
        exact ⟨is.name, is.type, is.description⟩

omit [TextOf] [TextCase] [NetworkLocations] [Floats] in
theorem paramsLaw_passes_iff (params : Params) :
    (paramsLaw params).passes ↔ AreParameters params := by
  have listed (entries : List (Part ParamSpec)) :
      (Law.all (entries.map paramLaw)).passes ↔
        ∃ others, some entries = some others ∧
          ∀ entry ∈ others, ∃ param, entry = .block param ∧ IsParameter param := by
    rw [all_passes_of fun entry _ => paramLaw_passes_iff entry]
    constructor
    · exact fun are => ⟨entries, rfl, are⟩
    · intro ⟨others, same, are⟩
      cases same
      exact are
  cases params with
  | items list => exact listed list
  | other value =>
      cases value with
      | array values => exact listed (values.map .other)
      | _ => exact ⟨False.elim, fun ⟨_, same, _⟩ => (nomatch same)⟩

/-- A declaration passes exactly if the rules but those of the handler binding hold, and its
binding passes. -/
theorem registerLaw_passes_iff (catalog : Catalog) (spec : EndpointSpec) :
    (registerLaw catalog spec).passes ↔
      Framed catalog spec ∧ (handlerLaw (declaredErrors spec) spec.handler).passes := by
  constructor
  · intro ⟨⟨verb, path, semantic, required, optional, output, errors, handler, scopes⟩, named⟩
    rcases named with ⟨name, isName⟩
    have approved : catalog.isApprovedVerb (upper name) = true := by
      rcases verb with ⟨text, isText, approved⟩
      rw [isName] at isText
      cases isText
      exact approved
    exact ⟨⟨⟨name, isName, approved⟩, path, (semanticLaw_passes_iff _).mp semantic,
      ⟨(paramsLaw_passes_iff _).mp required, (paramsLaw_passes_iff _).mp optional,
        (paramsLaw_passes_iff _).mp output⟩, errors, scopes⟩, handler⟩
  · intro ⟨framed, handler⟩
    rcases framed.verb with ⟨name, isName, approved⟩
    have verb : (verbLaw catalog spec.name).passes := by
      rw [isName]
      exact ⟨name, rfl, approved⟩
    exact ⟨⟨verb, framed.path, (semanticLaw_passes_iff _).mpr framed.semantic,
      (paramsLaw_passes_iff _).mpr framed.parameters.1,
      (paramsLaw_passes_iff _).mpr framed.parameters.2.1,
      (paramsLaw_passes_iff _).mpr framed.parameters.2.2, framed.errors, handler,
      framed.scopes⟩, name, isName⟩

/-! ## Resolution -/

def checkHttps : Json → Except (Failing InvalidHandlerError Raised) Unit
  | .string url =>
      require (startsWith url "https://" = true)
        ⟨s!"external_service url must be an HTTPS URL (got {TextOf.quoted url}); " ++
          "plaintext is refused", "external-service-bad-scheme"⟩
  | _ => .error (.raised .attributeError)

/-- `binding.timeout_seconds is None or binding.timeout_seconds <= 0`. -/
def checkPositive (timeout : Json) : Except (Failing InvalidHandlerError Raised) Unit :=
  let error : InvalidHandlerError :=
    ⟨"external_service timeout_seconds must be positive", "external-service-bad-timeout"⟩
  match timeout, isOver timeout with
  | .null, _ => .error (.refused error)
  | _, some isOver => require (isOver = false) error
  | _, none => .error (.raised .typeError)

/-- The checks of `resolve_external_service`. -/
def resolveChecks (binding : HandlerBinding) :
    Except (Failing InvalidHandlerError Raised) Unit := do
  require (hasType binding "external_service" = true)
    ⟨s!"resolve_external_service called for binding type {binding.type.repr}",
      "bad-binding-type"⟩
  require (binding.url.truthy = true)
    ⟨"external_service binding has no url", "empty-reference"⟩
  require (binding.method.truthy = true)
    ⟨"external_service binding has no HTTP method", "external-service-missing-method"⟩
  checkHttps binding.url
  checkPositive binding.timeoutSeconds

omit [TextOf] [TextCase] [NetworkLocations] in
theorem checkPositive_of_not_over {timeout : Json} (runs : isOver timeout = some false) :
    checkPositive timeout = .ok () := by
  unfold checkPositive
  rw [runs]
  cases timeout with
  | null => cases runs
  | _ => rfl

omit [TextCase] [NetworkLocations] in
theorem resolveChecks_ok_iff {declared : List String} {binding : HandlerBinding}
    (external : hasType binding "external_service" = true)
    (filled : isFilled binding.url = true) (passes : (externalLaw declared binding).passes) :
    resolveChecks binding = .ok () ↔ startsWith (textIn binding.url) "https://" = true := by
  rcases passes with ⟨method, _, _, runs, _⟩
  have truthy : binding.url.truthy = true ∧
      checkHttps binding.url = require (startsWith (textIn binding.url) "https://" = true)
        ⟨s!"external_service url must be an HTTPS URL (got {TextOf.quoted (textIn binding.url)}); " ++
          "plaintext is refused", "external-service-bad-scheme"⟩ := by
    cases url : binding.url with
    | string text =>
        rw [url] at filled
        exact ⟨filled, rfl⟩
    | _ =>
        rw [url] at filled
        cases filled
  have positive := checkPositive_of_not_over runs
  unfold resolveChecks require
  rw [if_pos external, if_pos truthy.1, if_pos method, truthy.2, positive]
  unfold require
  by_cases starts : startsWith (textIn binding.url) "https://" = true
  · rw [if_pos starts]
    exact ⟨fun _ => starts, fun _ => rfl⟩
  · rw [if_neg starts]
    exact ⟨nofun, fun own => absurd own starts⟩

/-! ## Kinds of handlers -/

omit [TextOf] [TextCase] [NetworkLocations] [Floats] in
theorem hasType_iff {binding : HandlerBinding} {type : String} :
    hasType binding type = true ↔ binding.type = .string type := by
  unfold hasType isOneOf
  cases binding.type with
  | string text => simp
  | _ => exact ⟨nofun, nofun⟩

omit [TextOf] [TextCase] [NetworkLocations] [Floats] in
theorem kind_cases {binding : HandlerBinding}
    (known : isOneOf allHandlerTypes binding.type = true) :
    hasType binding "composition" = true ∨ hasType binding "external_service" = true ∨
      hasType binding "proxy" = true ∨ hasType binding "registered_function" = true := by
  simp only [hasType_iff]
  revert known
  cases binding.type with
  | string text => simp [isOneOf, allHandlerTypes]
  | _ => exact fun known => nomatch known

omit [TextOf] [TextCase] [NetworkLocations] in
theorem handlerLaw_passes_iff {declared : List String} {binding : HandlerBinding} :
    (handlerLaw declared (.block binding)).passes ↔
      isOneOf allHandlerTypes binding.type = true ∧ isFilled (referenceOf binding).2 = true ∧
        (hasType binding "external_service" = true → (externalLaw declared binding).passes) := by
  by_cases external : hasType binding "external_service" = true
  · simp [handlerLaw, Law.andThen, oneOfLaw, external]
  · simp [handlerLaw, Law.andThen, oneOfLaw, external]

omit [TextOf] [TextCase] [NetworkLocations] [Floats] in
theorem referenceOf_eq (binding : HandlerBinding)
    (known : isOneOf allHandlerTypes binding.type = true) :
    (referenceOf binding).2 =
      if hasType binding "proxy" then .string "" else ownReference binding := by
  unfold referenceOf ownReference
  rcases kind_cases known with kind | kind | kind | kind <;>
    simp [hasType_iff.mp kind, hasType, isOneOf]

/-! ## External services -/

omit [TextOf] [TextCase] [NetworkLocations] [Floats] in
theorem errorMapLaw_passes_iff {declared : List String} {errorMap : Json} :
    (errorMapLaw declared errorMap).passes ↔
      (errorMap.truthy = true → ∃ entries, errorMap = .object entries ∧
        ∀ entry ∈ entries, isOneOf declared entry.2 = true) := by
  unfold errorMapLaw
  cases errorMap.truthy with
  | false => exact ⟨fun _ => nofun, fun _ => trivial⟩
  | true =>
      rw [if_pos rfl]
      cases errorMap with
      | object entries =>
          dsimp only
          have each : (Law.all (entries.map fun entry => oneOfLaw declared entry.2)).passes ↔
              ∀ entry ∈ entries, isOneOf declared entry.2 = true :=
            all_passes_of fun _ _ => Iff.rfl
          rw [each]
          constructor
          · exact fun all _ => ⟨entries, rfl, all⟩
          · intro own
            rcases own rfl with ⟨others, same, all⟩
            cases same
            exact all
      | _ => exact ⟨False.elim, fun own => nomatch own rfl⟩

omit [TextOf] [TextCase] [NetworkLocations] in
theorem positive_iff {timeout : Json} :
    (∃ seconds, timeout.number? = some seconds ∧ (Double.finite 0).lt seconds = true) ↔
      isOver timeout = some false ∧ timeout.number? ≠ some .nan := by
  unfold isOver
  cases timeout.number? with
  | none => exact ⟨fun ⟨_, same, _⟩ => (nomatch same), fun own => nomatch own.1⟩
  | some seconds =>
      have ordered (number : seconds ≠ .nan) :
          (Double.finite 0).lt seconds = true ↔ seconds.le (.finite 0) = false :=
        Double.lt_iff_not_le nofun number
      constructor
      · intro ⟨other, same, positive⟩
        cases same
        have number : seconds ≠ .nan := by
          intro nan
          rw [nan] at positive
          cases positive
        exact ⟨congrArg some ((ordered number).mp positive),
          fun same => number (Option.some.inj same)⟩
      · intro ⟨runs, number⟩
        have number : seconds ≠ .nan := fun nan => number (congrArg some nan)
        exact ⟨seconds, rfl, (ordered number).mpr (Option.some.inj runs)⟩

omit [TextOf] [TextCase] [NetworkLocations] [Floats] in
theorem truthy_of_method {method : Json}
    (isMethod : isOneOf externalServiceMethods method = true) : method.truthy = true := by
  cases method with
  | string text =>
      by_cases empty : text = ""
      · subst empty
        cases isMethod
      · simp [Json.truthy, empty]
  | _ => cases isMethod

omit [TextOf] [TextCase] [NetworkLocations] in
/-- The rules of an external service are its checks, with a URL that is one and a timeout that
is a number. -/
theorem externalRules_iff {declared : List String} {binding : HandlerBinding} :
    ExternalRules declared binding ↔ (externalLaw declared binding).passes ∧
      startsWith (trimmedUrl binding) "https://" = true ∧
      binding.timeoutSeconds.number? ≠ some .nan := by
  constructor
  · intro rules
    have timeout := positive_iff.mp rules.timeout
    have https : isHttps (trimmedUrl binding) = true := by
      rw [isHttps, rules.url]
      rfl
    exact ⟨⟨truthy_of_method rules.method, rules.method, https, timeout.1,
      errorMapLaw_passes_iff.mpr rules.errors⟩, rules.url, timeout.2⟩
  · intro ⟨⟨_, method, _, runs, errors⟩, url, number⟩
    exact ⟨method, url, positive_iff.mpr ⟨runs, number⟩, errorMapLaw_passes_iff.mp errors⟩

omit [TextOf] [TextCase] [NetworkLocations] [Floats] in
theorem startsWith_strip {url : String} (starts : startsWith url "https://" = true) :
    startsWith (Text.strip url) "https://" = true := by
  rcases List.isPrefixOf_iff_prefix.mp starts with ⟨rest, whole⟩
  have spelled : url = String.ofList ('h' :: ("ttps:/".toList ++ '/' :: rest)) := by
    rw [← String.ofList_toList (s := url), ← whole]
    rfl
  have solid : Text.isSpace '/' = false := by decide
  have kept := Ids.trimmed_append ('h' :: "ttps:/".toList) solid rest
  apply List.isPrefixOf_iff_prefix.mpr
  rw [spelled, Ids.strip_of_head (by decide)]
  exact ⟨Ids.trimmed rest, kept.symm⟩

/-! ## What is accepted -/

/-- Registration as it is documented, of whatever is registered already. -/
structure Exact (Handler : Type) (catalog : Catalog) (spec : EndpointSpec) : Prop where
  neverRaises : ∀ (registry : EndpointRegistry Handler) handler raised,
    register catalog registry spec handler ≠ .error (.raised raised)
  accepts_iff : ∀ (registry : EndpointRegistry Handler) handler,
    (∃ later, register catalog registry spec handler = .ok later) ↔
      WellFormed catalog spec ∧ keyOf spec ∉ registry.entries.keys
  resolves : ∀ (registry : EndpointRegistry Handler) handler later binding,
    register catalog registry spec handler = .ok later → spec.handler = .block binding →
      hasType binding "external_service" = true → resolveChecks binding = .ok ()

/-- No check raises. Where all rules but those of the handler hold, the handler is no proxy
with an address; and an external service that passes has a URL that starts with its scheme,
and a timeout that is a number. -/
structure Sound (catalog : Catalog) (spec : EndpointSpec) : Prop where
  calm : ¬(registerLaw catalog spec).raises
  noProxy : Framed catalog spec → ∀ binding, spec.handler = .block binding →
    hasType binding "proxy" = true → isFilled binding.url = false
  https : Framed catalog spec → ∀ binding, spec.handler = .block binding →
    hasType binding "external_service" = true → isFilled binding.url = true →
      (externalLaw (declaredErrors spec) binding).passes →
        startsWith (textIn binding.url) "https://" = true ∧
          binding.timeoutSeconds.number? ≠ some .nan

omit [TextOf] [TextCase] [NetworkLocations] in
theorem handler_external {declared : List String} {binding : HandlerBinding}
    (external : hasType binding "external_service" = true) :
    (handlerLaw declared (.block binding)).passes ↔
      isFilled binding.url = true ∧ (externalLaw declared binding).passes := by
  have kind := hasType_iff.mp external
  rw [handlerLaw_passes_iff]
  have known : isOneOf allHandlerTypes binding.type = true := by
    rw [kind]
    decide
  have reference : (referenceOf binding).2 = binding.url := by
    rw [referenceOf_eq binding known]
    simp [ownReference, kind, hasType, isOneOf]
  rw [reference]
  exact ⟨fun own => ⟨own.2.1, own.2.2 external⟩, fun own => ⟨known, own.1, fun _ => own.2⟩⟩

theorem handlerRules_of_passes {catalog : Catalog} {spec : EndpointSpec}
    {binding : HandlerBinding} (sound : Sound catalog spec) (framed : Framed catalog spec)
    (bound : spec.handler = .block binding)
    (passes : (handlerLaw (declaredErrors spec) (.block binding)).passes) :
    HandlerRules (declaredErrors spec) binding := by
  have parts := handlerLaw_passes_iff.mp passes
  have reference := parts.2.1
  rw [referenceOf_eq binding parts.1] at reference
  refine ⟨parts.1, ?_, fun external => ?_⟩
  · split at reference
    · cases reference
    · exact reference
  · have own := (handler_external external).mp passes
    have https := sound.https framed binding bound external own.1 own.2
    exact externalRules_iff.mpr ⟨own.2, startsWith_strip https.1, https.2⟩

theorem passes_of_handlerRules {catalog : Catalog} {spec : EndpointSpec}
    {binding : HandlerBinding} (sound : Sound catalog spec) (framed : Framed catalog spec)
    (bound : spec.handler = .block binding)
    (rules : HandlerRules (declaredErrors spec) binding) :
    (handlerLaw (declaredErrors spec) (.block binding)).passes := by
  refine handlerLaw_passes_iff.mpr ⟨rules.kind, ?_, fun external =>
    (externalRules_iff.mp (rules.external external)).1⟩
  rw [referenceOf_eq binding rules.kind]
  split
  · next isProxy =>
      have empty := sound.noProxy framed binding bound isProxy
      have own : ownReference binding = binding.url := by
        simp [ownReference, hasType_iff.mp isProxy, hasType, isOneOf]
      have filled := rules.reference
      rw [own, empty] at filled
      cases filled
  · exact rules.reference

theorem registerLaw_iff_wellFormed {catalog : Catalog} {spec : EndpointSpec}
    (sound : Sound catalog spec) :
    (registerLaw catalog spec).passes ↔ WellFormed catalog spec := by
  rw [registerLaw_passes_iff]
  constructor
  · intro ⟨framed, passes⟩
    cases bound : spec.handler with
    | block binding =>
        rw [bound] at passes
        exact ⟨framed, binding, bound, handlerRules_of_passes sound framed bound passes⟩
    | other value =>
        rw [bound] at passes
        cases value with
        | null => exact passes.elim
        | _ => exact passes.elim
  · intro wellFormed
    rcases wellFormed.handler with ⟨binding, bound, rules⟩
    refine ⟨wellFormed.toFramed, ?_⟩
    rw [bound]
    exact passes_of_handlerRules sound wellFormed.toFramed bound rules

theorem exact_of_sound {catalog : Catalog} {spec : EndpointSpec} (sound : Sound catalog spec) :
    Exact Handler catalog spec where
  neverRaises registry handler raised raises :=
    sound.calm (register_raises_iff.mp ⟨raised, raises⟩)
  accepts_iff registry handler := by
    rw [register_ok_iff, registerLaw_iff_wellFormed sound]
  resolves registry handler later binding accepted bound external := by
    have passes := (register_ok_iff.mp ⟨later, accepted⟩).1
    have framed := (registerLaw_passes_iff catalog spec).mp passes
    have own := framed.2
    rw [bound] at own
    have parts := (handler_external external).mp own
    exact (resolveChecks_ok_iff external parts.1 parts.2).mpr
      (sound.https framed.1 binding bound external parts.1 parts.2).1

theorem sound_of_exact {catalog : Catalog} {spec : EndpointSpec}
    (exact : Exact Handler catalog spec) : Sound catalog spec := by
  have free : keyOf spec ∉ (.empty : EndpointRegistry Handler).entries.keys := nofun
  have accepts_iff : (registerLaw catalog spec).passes ↔ WellFormed catalog spec := by
    have both := exact.accepts_iff EndpointRegistry.empty none
    rw [register_ok_iff] at both
    exact ⟨fun passes => (both.mp ⟨passes, free⟩).1, fun formed => (both.mpr ⟨formed, free⟩).1⟩
  refine ⟨fun raises => ?_, fun framed binding bound isProxy => ?_,
    fun framed binding bound external filled passes => ?_⟩
  · rcases register_raises_iff.mpr raises with ⟨raised, own⟩
    exact exact.neverRaises EndpointRegistry.empty none raised own
  · by_contra filled
    rw [Bool.not_eq_false] at filled
    have kind := hasType_iff.mp isProxy
    have rules : HandlerRules (declaredErrors spec) binding := by
      refine ⟨by rw [kind]; decide, ?_, fun external => ?_⟩
      · simpa [ownReference, kind, hasType, isOneOf] using filled
      · rw [hasType_iff, kind] at external
        simp at external
    have own := ((registerLaw_passes_iff catalog spec).mp
      (accepts_iff.mpr ⟨framed, binding, bound, rules⟩)).2
    rw [bound, handlerLaw_passes_iff, referenceOf_eq binding rules.kind, if_pos isProxy] at own
    exact nomatch own.2.1
  · have handler : (handlerLaw (declaredErrors spec) spec.handler).passes := by
      rw [bound]
      exact (handler_external external).mpr ⟨filled, passes⟩
    have accepted := (registerLaw_passes_iff catalog spec).mpr ⟨framed, handler⟩
    rcases register_ok_iff.mpr ⟨accepted, free⟩ with ⟨later, isLater⟩
    have resolves := exact.resolves EndpointRegistry.empty none later binding isLater bound external
    rcases (accepts_iff.mp accepted).handler with ⟨other, own, rules⟩
    rw [bound] at own
    cases own
    exact ⟨(resolveChecks_ok_iff external filled passes).mp resolves,
      (externalRules_iff.mp (rules.external external)).2.2⟩

/-- Registration is as documented exactly for the declarations that are sound. -/
theorem registration_exact_iff (catalog : Catalog) (spec : EndpointSpec) :
    Exact Handler catalog spec ↔ Sound catalog spec :=
  ⟨sound_of_exact, exact_of_sound⟩

end Specs

end Validating

end Agtp.Registration

namespace Agtp.Registration.Samples

open scoped Agtp.Plain

scoped instance : NetworkLocations := ⟨fun _ => false, rfl⟩

def booking : Catalog := ⟨["BOOK"], [], []⟩

def bookingSemantics : SemanticBlock where
  intent := .string "book a room"
  actor := .string "guest"
  outcome := .string "room booked"
  capability := .string "transaction"
  confidence := .int 1
  impact := .string "reversible"
  isIdempotent := .bool false

def proxied : HandlerBinding where
  type := .string "proxy"
  function := .null
  recipe := .null
  url := .string "agtp://rooms.example"
  method := .null
  errorMap := .object []
  timeoutSeconds := .int 10

def proxiedBooking : EndpointSpec where
  name := .string "BOOK"
  path := .string "/room"
  semantic := .block bookingSemantics
  requiredParams := .items []
  optionalParams := .items []
  output := .items []
  errors := .array []
  handler := .block proxied
  requiredScopes := .array []

theorem proxiedBooking_framed : Framed booking proxiedBooking where
  verb := ⟨"BOOK", rfl, by decide⟩
  path := ⟨"/room", rfl, by decide +kernel⟩
  semantic := ⟨bookingSemantics, rfl, by decide, by decide, by decide, "1.0", rfl, by decide,
    by decide +kernel⟩
  parameters := ⟨⟨[], rfl, nofun⟩, ⟨[], rfl, nofun⟩, ⟨[], rfl, nofun⟩⟩
  errors := ⟨rfl, nofun⟩
  scopes := ⟨rfl, nofun⟩

/-- A proxy is a kind of handler that no declaration can be registered with. -/
theorem proxy_refused : ¬Exact Unit booking proxiedBooking := by
  intro exact
  have sound := sound_of_exact exact
  have empty := sound.noProxy proxiedBooking_framed proxied rfl (by decide)
  revert empty
  decide

end Agtp.Registration.Samples
