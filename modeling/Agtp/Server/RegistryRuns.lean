import Agtp.Foundation.KeyOrder
import Agtp.Server.DispatchLaws
import Agtp.Server.EndpointRegistration

/-! # Runs of registrations

Two indexes, one by method and path and one by path, over any sequence of registrations, of
which some fail. -/

namespace Agtp.Registration

section Registering

variable [TextOf] [TextCase] [NetworkLocations] [Floats] {Handler : Type}

namespace EndpointRegistry

/-! ## Reading -/

omit [TextOf] [NetworkLocations] [Floats] in
def lookup (registry : EndpointRegistry Handler) (method path : String) :
    Option (EndpointSpec × Option Handler) :=
  registry.entries.get? (upper method, path)

def methodsForPath (registry : EndpointRegistry Handler) (path : String) : List String :=
  (registry.paths.get? path).getD []

def hasPath (registry : EndpointRegistry Handler) (path : String) : Bool :=
  !(registry.methodsForPath path).isEmpty

def allEndpoints (registry : EndpointRegistry Handler) : List EndpointSpec :=
  registry.entries.entries.map (·.2.1)

def count (registry : EndpointRegistry Handler) : Nat := registry.entries.entries.length

end EndpointRegistry

/-! ## Runs -/

abbrev Attempt (Handler : Type) := EndpointSpec × Option Handler

def attempted (catalog : Catalog) (registry : EndpointRegistry Handler)
    (attempt : Attempt Handler) : EndpointRegistry Handler :=
  match register catalog registry attempt.1 attempt.2 with
  | .ok later => later
  | .error _ => registry

def registering (catalog : Catalog) (registry : EndpointRegistry Handler)
    (attempts : List (Attempt Handler)) : EndpointRegistry Handler :=
  attempts.foldl (attempted catalog) registry

def accepted (catalog : Catalog) : EndpointRegistry Handler → List (Attempt Handler) →
    List (Attempt Handler)
  | _, [] => []
  | registry, attempt :: attempts =>
      match register catalog registry attempt.1 attempt.2 with
      | .ok later => attempt :: accepted catalog later attempts
      | .error _ => accepted catalog registry attempts

/-- What a registration does that succeeds. -/
structure Files (catalog : Catalog) (registry : EndpointRegistry Handler)
    (attempt : Attempt Handler) (later : EndpointRegistry Handler) : Prop where
  framed : Framed catalog attempt.1
  free : keyOf attempt.1 ∉ registry.entries.keys
  entries : later.entries = registry.entries.set (keyOf attempt.1) attempt
  paths : later.paths = registry.paths.set (keyOf attempt.1).2
    ((registry.methodsForPath (keyOf attempt.1).2).insert (keyOf attempt.1).1)

theorem files_of_register {catalog : Catalog} {registry later : EndpointRegistry Handler}
    {attempt : Attempt Handler}
    (registered : register catalog registry attempt.1 attempt.2 = .ok later) :
    Files catalog registry attempt later := by
  have passes := register_ok_iff.mp ⟨later, registered⟩
  have framed := ((registerLaw_passes_iff catalog attempt.1).mp passes.1).1
  rcases framed.verb with ⟨name, isName, _⟩
  unfold register at registered
  split at registered
  · cases registered
  · cases registered
  · rw [isName] at registered
    dsimp only at registered
    rw [if_neg passes.2] at registered
    cases registered
    exact ⟨framed, passes.2, rfl, rfl⟩

/-! ## Coherence -/

structure Coherent (catalog : Catalog) (registry : EndpointRegistry Handler) : Prop where
  filed : ∀ entry ∈ registry.entries.entries,
    entry.1 = keyOf entry.2.1 ∧ Framed catalog entry.2.1
  indexed : ∀ method path, method ∈ registry.methodsForPath path ↔
    (method, path) ∈ registry.entries.keys
  distinct : ∀ path, (registry.methodsForPath path).Nodup

omit [NetworkLocations] in
theorem coherent_empty (catalog : Catalog) :
    Coherent catalog (.empty : EndpointRegistry Handler) where
  filed _ member := absurd member List.not_mem_nil
  indexed _ _ := ⟨fun member => absurd member List.not_mem_nil,
    fun member => absurd member List.not_mem_nil⟩
  distinct _ := List.nodup_nil

omit [NetworkLocations] in
theorem Coherent.register {catalog : Catalog} {registry later : EndpointRegistry Handler}
    {attempt : Attempt Handler} (coherent : Coherent catalog registry)
    (files : Files catalog registry attempt later) : Coherent catalog later := by
  have methods (path : String) : later.methodsForPath path =
      if path = (keyOf attempt.1).2 then
        (registry.methodsForPath path).insert (keyOf attempt.1).1
      else registry.methodsForPath path := by
    unfold EndpointRegistry.methodsForPath
    rw [files.paths]
    split
    · next same =>
        rw [same, Dict.get?_set_same]
        rfl
    · next different => rw [Dict.get?_set_other _ different]
  refine ⟨fun entry member => ?_, fun method path => ?_, fun path => ?_⟩
  · rw [files.entries, Dict.entries_set_of_notMem files.free, List.mem_append,
      List.mem_singleton] at member
    cases member with
    | inl held => exact coherent.filed entry held
    | inr new =>
        rw [new]
        exact ⟨rfl, files.framed⟩
  · rw [methods, files.entries, Dict.mem_keys_set_iff, ← coherent.indexed]
    by_cases same : path = (keyOf attempt.1).2
    · rw [if_pos same, List.mem_insert_iff, or_comm, same]
      refine or_congr Iff.rfl ⟨fun own => ?_, fun own => congrArg Prod.fst own⟩
      rw [own]
    · rw [if_neg same]
      exact ⟨.inl, fun own => own.resolve_right fun key => same (congrArg Prod.snd key)⟩
  · rw [methods]
    split
    · exact (coherent.distinct path).insert
    · exact coherent.distinct path

/-- After any run the indexes are in step, and the entries are those of the accepted attempts,
in their order. -/
theorem coherent_registering {catalog : Catalog} (attempts : List (Attempt Handler))
    {registry : EndpointRegistry Handler} (coherent : Coherent catalog registry) :
    Coherent catalog (registering catalog registry attempts) ∧
      (registering catalog registry attempts).entries.entries = registry.entries.entries ++
        (accepted catalog registry attempts).map fun attempt => (keyOf attempt.1, attempt) := by
  induction attempts generalizing registry with
  | nil => exact ⟨coherent, (List.append_nil _).symm⟩
  | cons attempt attempts induction =>
      unfold registering accepted
      rw [List.foldl_cons]
      unfold attempted
      cases registered : register catalog registry attempt.1 attempt.2 with
      | error stop => exact induction coherent
      | ok later =>
          have files := files_of_register registered
          have rest := induction (coherent.register files)
          refine ⟨rest.1, rest.2.trans ?_⟩
          rw [files.entries, Dict.entries_set_of_notMem files.free, List.append_assoc]
          rfl

/-! ## What is read -/

def registered (catalog : Catalog) (attempts : List (Attempt Handler)) :
    EndpointRegistry Handler :=
  registering catalog .empty attempts

theorem coherent_registered (catalog : Catalog) (attempts : List (Attempt Handler)) :
    Coherent catalog (registered catalog attempts) :=
  (coherent_registering attempts (coherent_empty catalog)).1

omit [NetworkLocations] in
theorem lookup_iff_mem {catalog : Catalog} {registry : EndpointRegistry Handler}
    (coherent : Coherent catalog registry) (method path : String) :
    (registry.lookup method path).isSome = true ↔
      upper method ∈ registry.methodsForPath path := by
  rw [coherent.indexed, EndpointRegistry.lookup]
  constructor
  · intro found
    rcases Option.isSome_iff_exists.mp found with ⟨entry, isEntry⟩
    exact registry.entries.mem_keys_of_get? isEntry
  · intro member
    rcases List.mem_map.mp member with ⟨entry, held, key⟩
    rw [← key]
    rw [(registry.entries.get?_eq_some_iff).mpr held]
    rfl

omit [NetworkLocations] in
theorem upper_of_mem {catalog : Catalog} {registry : EndpointRegistry Handler}
    (coherent : Coherent catalog registry) {method path : String}
    (member : method ∈ registry.methodsForPath path) : upper method = method := by
  rw [coherent.indexed] at member
  rcases List.mem_map.mp member with ⟨entry, held, key⟩
  have own := (coherent.filed entry held).1
  rw [key] at own
  have name : method = upper (textIn entry.2.1.name) := congrArg Prod.fst own
  rw [name, TextCase.upper_upper]

/-! ## The dispatcher's view -/

def parameterName : Part ParamSpec → String
  | .block param => textIn param.name
  | .other _ => ""

def dispatched (spec : EndpointSpec) : Agtp.EndpointSpec where
  name := textIn spec.name
  path := textIn spec.path
  requiredScopes := (items spec.requiredScopes).map textIn
  errors := declaredErrors spec
  parameters := ((spec.requiredParams.entries?.getD []) ++
    (spec.optionalParams.entries?.getD [])).map parameterName

def dispatchedEntry (entry : (String × String) × Attempt Handler) :
    (String × String) × (Agtp.EndpointSpec × Option Handler) :=
  (entry.1, dispatched entry.2.1, entry.2.2)

/-- The endpoints that a dispatcher is given. -/
def served {catalog : Catalog} (registry : EndpointRegistry Handler)
    (coherent : Coherent catalog registry) : Agtp.EndpointRegistry catalog Handler where
  entries := {
    entries := registry.entries.entries.map dispatchedEntry
    nodup := by
      rw [List.map_map]
      exact registry.entries.nodup }
  admitted := by
    refine List.forall_mem_map.mpr fun entry member => ?_
    have own := coherent.filed entry member
    rcases own.2.verb with ⟨name, isName, approved⟩
    rcases own.2.path with ⟨path, isPath, grammar⟩
    refine ⟨own.1, ?_, ?_⟩
    · change catalog.isApprovedVerb (upper (textIn entry.2.1.name)) = true
      rw [isName]
      exact approved
    · change PathGrammar.validatePath catalog (textIn entry.2.1.path) = .ok ()
      rw [isPath]
      exact grammar

omit [NetworkLocations] in
theorem served_lookup {catalog : Catalog} {registry : EndpointRegistry Handler}
    (coherent : Coherent catalog registry) (method path : String) :
    (served registry coherent).lookup method path =
      (registry.lookup method path).map fun entry => (dispatched entry.1, entry.2) := by
  unfold Agtp.EndpointRegistry.lookup EndpointRegistry.lookup Dict.get?
  change ((registry.entries.entries.map dispatchedEntry).find? _).map _ = _
  rw [List.find?_map, Option.map_map, Option.map_map]
  rfl

omit [NetworkLocations] in
theorem served_methods {catalog : Catalog} {registry : EndpointRegistry Handler}
    (coherent : Coherent catalog registry) (path : String) :
    ((served registry coherent).methodsForPath path).Perm (registry.methodsForPath path) := by
  have keys : (served registry coherent).entries.keys = registry.entries.keys := by
    change (registry.entries.entries.map dispatchedEntry).map Prod.fst = _
    rw [List.map_map]
    rfl
  have nodup : (((served registry coherent).entries.keys.filter (·.2 = path)).map
      Prod.fst).Nodup := by
    rw [keys]
    refine (registry.entries.nodup.filter _).map_on fun left leftMember right rightMember same => ?_
    have leftPath := List.of_mem_filter leftMember
    have rightPath := List.of_mem_filter rightMember
    rw [decide_eq_true_eq] at leftPath rightPath
    exact Prod.ext same (leftPath.trans rightPath.symm)
  refine (List.perm_ext_iff_of_nodup nodup (coherent.distinct path)).mpr fun method => ?_
  rw [coherent.indexed, keys, List.mem_map]
  constructor
  · intro ⟨key, member, same⟩
    have own := List.of_mem_filter member
    rw [decide_eq_true_eq] at own
    rw [← same, ← own]
    exact List.mem_of_mem_filter member
  · exact fun member => ⟨(method, path), List.mem_filter.mpr ⟨member, decide_eq_true rfl⟩, rfl⟩

def inOrder (methods : List String) : List String := methods.mergeSort (decide <| · ≤ ·)

omit [TextOf] [TextCase] [NetworkLocations] [Floats] in
theorem inOrder_of_perm {methods others : List String} (perm : methods.Perm others) :
    inOrder methods = inOrder others := by
  have ordered (texts : List String) : (inOrder texts).Pairwise (· ≤ ·) :=
    @KeyOrder.pairwise_mergeSort _ _ _ id (decide <| · ≤ ·) (fun _ _ => decide_eq_true_iff) texts
  apply List.Perm.eq_of_pairwise (fun _ _ _ _ below above => le_antisymm below above)
    (ordered methods) (ordered others)
  exact ((List.mergeSort_perm methods _).trans perm).trans (List.mergeSort_perm others _).symm

end Registering

/-! ## What a request is answered -/

section Dispatching

open Computation Serving

variable {App : Type} [TextCase] [TextOf] [BodyCodec] [SchemaValidator] [Digest]
  [ContractCodec] [Tokens] [NumberText] [Clock] [NetworkLocations] [Floats]

def serving (server : RunningServer App)
    (attempts : List (Attempt (EndpointHandler App))) : RunningServer App :=
  { server with
    endpoints := served (registered server.catalog attempts)
      (coherent_registered server.catalog attempts) }

def answerAt (next : Dispatcher App) (server : RunningServer App) (agent : AgentDocument)
    (request admitted : Request) (method path : String) : Serving App Response :=
  match Gates.selectTarget server agent admitted method path with
  | .error refusal => refuse refusal
  | .ok target => Dispatch.serve next server agent request ⟨admitted, method, path, target⟩

theorem answerAt_unbound {server : RunningServer App}
    {attempts : List (Attempt (EndpointHandler App))} {next : Dispatcher App}
    {agent : AgentDocument} {request admitted : Request} {method path : String}
    (missing : (registered server.catalog attempts).lookup method path = none)
    (some : (registered server.catalog attempts).count ≠ 0) (below : path ≠ "/")
    (closed : Rcns.tryRcns next (serving server attempts) admitted agent method path =
      result none) :
    answerAt next (serving server attempts) agent request admitted method path =
      if (registered server.catalog attempts).hasPath path then
        result (Status.methodNotAllowed method path
          (inOrder ((registered server.catalog attempts).methodsForPath path))).toResponse
      else result (Status.notFound method path (TextOf.quoted path)).toResponse := by
  have coherent := coherent_registered server.catalog attempts
  have perm : ((serving server attempts).endpoints.methodsForPath path).Perm
      ((registered server.catalog attempts).methodsForPath path) :=
    served_methods coherent path
  have missed : (serving server attempts).endpoints.lookup method path = none := by
    change (served _ coherent).lookup method path = none
    rw [served_lookup, missing]
    rfl
  have counted : (serving server attempts).endpoints.count ≠ 0 := by
    change ((registered server.catalog attempts).entries.entries.map dispatchedEntry).length ≠ 0
    rw [List.length_map]
    exact some
  have has : (serving server attempts).endpoints.hasPath path =
      (registered server.catalog attempts).hasPath path := by
    unfold Agtp.EndpointRegistry.hasPath EndpointRegistry.hasPath
    rw [perm.isEmpty_eq]
  unfold answerAt Gates.selectTarget
  rw [missed]
  dsimp only
  rw [if_neg (not_or.mpr ⟨counted, below⟩), has]
  cases (registered server.catalog attempts).hasPath path with
  | true =>
      rw [if_pos rfl, if_pos rfl]
      change result (Status.methodNotAllowed method path (inOrder _)).toResponse = _
      rw [inOrder_of_perm perm]
  | false =>
      rw [if_neg (by decide), if_neg (by decide)]
      dsimp only
      unfold Dispatch.serve
      dsimp only
      rw [closed, andThen_result]

/-- What is read of the registry of a run. -/
structure InStep (catalog : Catalog) (attempts : List (Attempt (EndpointHandler App))) : Prop where
  methods_iff : ∀ method path, method ∈ (registered catalog attempts).methodsForPath path ↔
    upper method = method ∧ ((registered catalog attempts).lookup method path).isSome = true
  hasPath_iff : ∀ path, (registered catalog attempts).hasPath path = true ↔
    (registered catalog attempts).methodsForPath path ≠ []
  all : (registered catalog attempts).allEndpoints = (accepted catalog .empty attempts).map Prod.fst
  counted : (registered catalog attempts).count = (accepted catalog .empty attempts).length
  lookup_iff : ∀ method path entry, (registered catalog attempts).lookup method path = some entry ↔
    entry ∈ accepted catalog .empty attempts ∧ keyOf entry.1 = (upper method, path)
  unchanged : ∀ attempt stop,
    register catalog (registered catalog attempts) attempt.1 attempt.2 = .error stop →
      registered catalog (attempts ++ [attempt]) = registered catalog attempts

/-- What requests for pairs that are not registered are answered, outside of the root and where
negotiation is closed. -/
def Distinguishes (server : RunningServer App)
    (attempts : List (Attempt (EndpointHandler App))) : Prop :=
  ∀ next agent request admitted method path state,
    (registered server.catalog attempts).lookup method path = none → path ≠ "/" →
    Rcns.tryRcns next (serving server attempts) admitted agent method path = result none →
      ∃ response,
        answerAt next (serving server attempts) agent request admitted method path state =
          ⟨.value response, state, []⟩ ∧
        (response.status = 405 ↔
          ∃ other, ((registered server.catalog attempts).lookup other path).isSome = true) ∧
        (response.status = 404 ↔
          ∀ other, (registered server.catalog attempts).lookup other path = none) ∧
        (response.status = 405 → response = (Status.methodNotAllowed method path
          (inOrder ((registered server.catalog attempts).methodsForPath path))).toResponse)

omit [BodyCodec] [SchemaValidator] [Digest] [ContractCodec] [Tokens] [NumberText]
  [Clock] in
theorem inStep_registered (catalog : Catalog)
    (attempts : List (Attempt (EndpointHandler App))) : InStep catalog attempts where
  methods_iff method path := by
    have coherent := coherent_registered catalog attempts
    rw [lookup_iff_mem coherent]
    constructor
    · intro member
      have raised := upper_of_mem coherent member
      rw [raised]
      exact ⟨rfl, member⟩
    · intro ⟨raised, member⟩
      rwa [raised] at member
  hasPath_iff path := by
    unfold EndpointRegistry.hasPath
    rw [Bool.not_eq_true', List.isEmpty_eq_false_iff]
  all := by
    unfold EndpointRegistry.allEndpoints registered
    rw [(coherent_registering attempts (coherent_empty catalog)).2, List.map_append, List.map_map]
    rfl
  counted := by
    unfold EndpointRegistry.count registered
    rw [(coherent_registering attempts (coherent_empty catalog)).2, List.length_append,
      List.length_map]
    exact Nat.zero_add _
  lookup_iff method path entry := by
    unfold EndpointRegistry.lookup registered
    rw [Dict.get?_eq_some_iff, (coherent_registering attempts (coherent_empty catalog)).2,
      List.mem_append, List.mem_map]
    constructor
    · intro member
      rcases member.resolve_left List.not_mem_nil with ⟨attempt, own, same⟩
      have value : attempt = entry := congrArg Prod.snd same
      rw [← value]
      exact ⟨own, congrArg Prod.fst same⟩
    · intro ⟨own, key⟩
      exact .inr ⟨entry, own, by rw [key]⟩
  unchanged attempt stop refused := by
    unfold registered registering at refused ⊢
    rw [List.foldl_append, List.foldl_cons, List.foldl_nil, attempted, refused]

/-- Over every sequence of registrations, of which some fail, the two indexes are in step. With
an endpoint, the dispatcher tells a path without the method from one without any. -/
theorem registry_coherent (server : RunningServer App)
    (attempts : List (Attempt (EndpointHandler App))) :
    InStep server.catalog attempts ∧
      (accepted server.catalog .empty attempts ≠ [] → Distinguishes server attempts) := by
  have inStep := inStep_registered server.catalog attempts
  refine ⟨inStep, fun nonempty next agent request admitted method path state missing below
    closed => ?_⟩
  have coherent := coherent_registered server.catalog attempts
  have counted : (registered server.catalog attempts).count ≠ 0 := by
    rw [inStep.counted]
    exact fun empty => nonempty (List.length_eq_zero_iff.mp empty)
  have some_iff : (registered server.catalog attempts).hasPath path = true ↔
      ∃ other, ((registered server.catalog attempts).lookup other path).isSome = true := by
    rw [inStep.hasPath_iff]
    constructor
    · intro nonempty
      rcases List.exists_mem_of_ne_nil _ nonempty with ⟨other, member⟩
      exact ⟨other, ((inStep.methods_iff other path).mp member).2⟩
    · intro ⟨other, found⟩
      exact List.ne_nil_of_mem ((lookup_iff_mem coherent other path).mp found)
  rw [answerAt_unbound missing counted below closed, ← some_iff]
  have none_iff : (∀ other, (registered server.catalog attempts).lookup other path = none) ↔
      (registered server.catalog attempts).hasPath path = false := by
    rw [← Bool.not_eq_true, some_iff, not_exists]
    exact forall_congr' fun other => by rw [Bool.not_eq_true, Option.isSome_eq_false_iff,
      Option.isNone_iff_eq_none]
  rw [none_iff]
  cases (registered server.catalog attempts).hasPath path with
  | true => exact ⟨_, rfl, ⟨fun _ => rfl, fun _ => rfl⟩, ⟨nofun, nofun⟩, fun _ => rfl⟩
  | false => exact ⟨_, rfl, ⟨nofun, nofun⟩, ⟨fun _ => rfl, fun _ => rfl⟩, nofun⟩

end Dispatching

end Agtp.Registration

namespace Agtp.Registration.Samples

open scoped Plain PlainServing

/-- Without any endpoint a path below the root is not told to be missing. -/
theorem nothing_registered :
    ¬Distinguishes (Server.bare (EndpointHandler Unit) (MethodHandler Unit)) [] := by
  intro distinguishes
  rcases distinguishes (fun _ _ => Computation.raise) Gates.reader (Gates.bookRoom [])
    (Gates.bookRoom []) "BOOK" "/room" roomState rfl (by decide) rfl with
    ⟨response, answered, notAllowed, _⟩
  have status : response.status = 405 := by
    cases answered
    rfl
  rcases notAllowed.mp status with ⟨other, found⟩
  cases found

end Agtp.Registration.Samples
