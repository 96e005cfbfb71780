import Agtp.Server.Endpoint

/-! # Dispatch hooks

The hooks that operational modules register run between the checks of an endpoint and its
handler. -/

namespace Agtp

/-- How `before_dispatch` ends. `passed` is `None`. It aborts with a
`DispatchHookError` and raises any other exception. -/
inductive HookOutcome where
  | passed
  | answered (response : Response)
  | raised
  | aborted

abbrev Hook (World : Type) :=
  EndpointSpec → EndpointContext → World → HookOutcome × World

variable {World : Type}

def runBefore (spec : EndpointSpec) (context : EndpointContext) :
    List (Hook World) → World → Except Unit (Option Response) × World
  | [], world => (.ok none, world)
  | hook :: rest, world =>
      match hook spec context world with
      | (.passed, after) => runBefore spec context rest after
      | (.answered response, after) => (.ok (some response), after)
      | (.raised, after) => runBefore spec context rest after
      | (.aborted, after) => (.error (), after)

def HookOutcome.LetsThrough : HookOutcome → Prop
  | passed | raised => True
  | answered _ | aborted => False

@[simp] theorem HookOutcome.letsThrough_passed : passed.LetsThrough := trivial

@[simp] theorem HookOutcome.letsThrough_raised : raised.LetsThrough := trivial

@[simp] theorem HookOutcome.not_letsThrough_answered (response : Response) :
    ¬ (answered response).LetsThrough := fun held => held

@[simp] theorem HookOutcome.not_letsThrough_aborted : ¬ aborted.LetsThrough :=
  fun held => held

section Passing

variable {spec : EndpointSpec} {context : EndpointContext}

theorem runBefore_cons_of_letsThrough {hook : Hook World} {world : World}
    (through : (hook spec context world).1.LetsThrough) (rest : List (Hook World)) :
    runBefore spec context (hook :: rest) world =
      runBefore spec context rest (hook spec context world).2 := by
  cases ended : hook spec context world with
  | mk outcome after =>
      rw [ended] at through
      cases outcome with
      | passed => simp only [runBefore, ended]
      | answered response => cases through
      | raised => simp only [runBefore, ended]
      | aborted => cases through

theorem letsThrough_of_runBefore {hook : Hook World} {before after : List (Hook World)}
    {world : World}
    (ended : (runBefore spec context (before ++ hook :: after) world).1 = .ok none) :
    ∃ reached, (hook spec context reached).1.LetsThrough := by
  induction before generalizing world with
  | nil =>
      refine ⟨world, ?_⟩
      rw [List.nil_append, runBefore] at ended
      split at ended
      · next passed => simp [passed]
      · cases ended
      · next raised => simp [raised]
      · cases ended
  | cons head rest induction =>
      rw [List.cons_append, runBefore] at ended
      split at ended
      · exact induction ended
      · cases ended
      · exact induction ended
      · cases ended

end Passing

/-! ## Serving with hooks -/

variable [TextCase] [TextOf] [BodyCodec] [SchemaValidator] {Handler : Type}

inductive Served (Handler : Type) where
  | refused (refusal : Refusal)
  | answered (response : Response)
  | handled (handler : Handler) (context : EndpointContext)
  | aborted

def serveEndpoint (hooks : List (Hook World)) (entry : EndpointSpec × Option Handler)
    (request : Request) (agent : AgentDocument) (world : World) :
    Served Handler × World :=
  match admitEndpoint entry request agent with
  | .error refusal => (.refused refusal, world)
  | .ok (handler, context) =>
      match runBefore entry.1 context hooks world with
      | (.ok none, after) => (.handled handler context, after)
      | (.ok (some response), after) => (.answered response, after)
      | (.error _, after) => (.aborted, after)

omit [TextOf] in
theorem serveEndpoint_handled_iff {hooks : List (Hook World)}
    {entry : EndpointSpec × Option Handler} {request : Request} {agent : AgentDocument}
    {world : World} {handler : Handler} {context : EndpointContext} :
    (serveEndpoint hooks entry request agent world).1 = .handled handler context ↔
      admitEndpoint entry request agent = .ok (handler, context) ∧
        (runBefore entry.1 context hooks world).1 = .ok none := by
  constructor
  · intro handled
    unfold serveEndpoint at handled
    split at handled
    · cases handled
    · next admitted =>
        split at handled
        · next through =>
            cases handled
            exact ⟨admitted, by rw [through]⟩
        · cases handled
        · cases handled
  · rintro ⟨admitted, through⟩
    simp only [serveEndpoint, admitted]
    split
    · rfl
    · next answered => simp [answered] at through
    · next failed => simp [failed] at through

end Agtp

/-! ## The agent certificate hook

The gate of `mod_agent_cert`: a request must stay within the scopes that its
certificate commits to, and within the certificate's governance zone. -/

namespace Agtp.AgentCertHook

variable [TextOf]

def scopeOutsideCommitment (context : EndpointContext)
    (committed outside : List String) : ErrorResponse where
  status := 455
  statusText := "Scope Violation"
  error := [
    ("code", .string "scope-outside-commitment"),
    ("message", .string
      (s!"Authority-Scope token(s) {(Status.texts outside).str} are not covered by " ++
       "the agent's certificate authority-scope-commitment")),
    ("outside_commitment", Status.texts outside),
    ("claimed", Status.texts context.authorityScope),
    ("committed", Status.texts (committed.dedup.mergeSort (decide <| · ≤ ·))),
    ("agent_id", .string context.agentId)]

def zoneViolation (certZone requestZone : String) : ErrorResponse where
  status := 457
  statusText := "Zone Violation"
  error := [
    ("code", .string "zone-violation"),
    ("target_zone", .string certZone),
    ("explanation", .string
      (s!"AGTP-Zone-ID header {TextOf.quoted requestZone} does not match the " ++
       s!"agent's certificate governance-zone {TextOf.quoted certZone}")),
    ("request_zone", .string requestZone)]

def scopeCheck (context : EndpointContext) : Option ErrorResponse :=
  match context.agentCertExtensions.authorityScopes with
  | none => none
  | some committed =>
      let outside := context.authorityScope.filter (!committed.contains ·)
      if outside = [] then none
      else some (scopeOutsideCommitment context committed outside)

def zoneCheck (context : EndpointContext) : Option ErrorResponse :=
  let certZone := context.agentCertExtensions.governanceZone.getD ""
  let requestZone := (context.headers.get? "agtp-zone-id").getD ""
  if certZone ≠ "" ∧ requestZone ≠ "" ∧ requestZone ≠ certZone then
    some (zoneViolation certZone requestZone)
  else none

def beforeDispatch (context : EndpointContext) : Option ErrorResponse :=
  if context.agentVerified then (scopeCheck context).or (zoneCheck context) else none

end Agtp.AgentCertHook
