import Agtp.Server.Connection

/-! # Identity binding

Which agent a connection with a verified certificate is served as. -/

namespace Agtp.Connection

variable [TextCase]

/-! ## Reading back a written agent id -/

def SpelledExactly (headers : Headers) : Prop :=
  ∀ entry, headers.first? (Wire.named "Agent-ID") = some entry →
    entry.1 = "Agent-ID"

theorem target_ne_agentId : Wire.named "Target-Agent" "Agent-ID" = false :=
  Wire.named_disjoint (by decide) (by decide) (by decide)
    (Wire.named_self "Agent-ID")

theorem readAgentId_set_exact {headers : Headers}
    (exact : SpelledExactly headers) {agentId : String} (nonempty : agentId ≠ "") :
    Wire.readAgentId (headers.set "Agent-ID" agentId) = agentId := by
  have written :
      Wire.header (headers.set "Agent-ID" agentId) "Agent-ID" = agentId := by
    rw [Wire.header_set]
    cases found : headers.first? (Wire.named "Agent-ID") with
    | none => rfl
    | some entry =>
        rcases entry with ⟨key, held⟩
        have same : key = "Agent-ID" := exact _ found
        simp [same]
  simp [Wire.readAgentId, Wire.headerOrLegacy, written, nonempty]

theorem readAgentId_set_hidden {headers : Headers}
    (hidden : ¬SpelledExactly headers) (agentId : String) :
    Wire.readAgentId (headers.set "Agent-ID" agentId) =
      Wire.readAgentId headers := by
  have unchanged : Wire.header (headers.set "Agent-ID" agentId) "Agent-ID" =
      Wire.header headers "Agent-ID" := by
    rw [Wire.header_set]
    unfold SpelledExactly at hidden
    push Not at hidden
    rcases hidden with ⟨⟨key, held⟩, found, different⟩
    simp only at different
    simp [Wire.header, found, different]
  have legacy : Wire.header (headers.set "Agent-ID" agentId) "Target-Agent" =
      Wire.header headers "Target-Agent" :=
    Wire.header_set_other headers target_ne_agentId
  simp only [Wire.readAgentId, Wire.headerOrLegacy, unchanged, legacy]

theorem spelledExactly_set (headers : Headers) (agentId : String) :
    SpelledExactly (headers.set "Agent-ID" agentId) ↔ SpelledExactly headers := by
  unfold SpelledExactly
  rw [Dict.first?_set, Wire.named_self]
  cases headers.first? (Wire.named "Agent-ID") with
  | none => simp
  | some entry =>
      rcases entry with ⟨key, held⟩
      by_cases same : key = "Agent-ID" <;> simp [same]

theorem readAgentId_set_same (headers : Headers)
    (nonempty : Wire.readAgentId headers ≠ "") :
    Wire.readAgentId (headers.set "Agent-ID" (Wire.readAgentId headers)) =
      Wire.readAgentId headers := by
  by_cases exact : SpelledExactly headers
  · exact readAgentId_set_exact exact nonempty
  · exact readAgentId_set_hidden exact _

/-! ## Settled identities -/

def EffectivelyNamed (cert : VerifiedCert) (headers : Headers) : Prop :=
  Wire.readAgentId headers = cert.agentId ∨
    Wire.readAgentId headers = "" ∧ SpelledExactly headers

/-- The state of a request whose certificate was verified: it has a target, and
it names the certificate's agent exactly if the original headers did. -/
structure Settled (cert : VerifiedCert) (headers : Headers)
    (identified : Identified) : Prop where
  target : identified.target ≠ ""
  named : Wire.readAgentId identified.request.headers = cert.agentId ↔
    EffectivelyNamed cert headers
  rewritable : Wire.readAgentId
      (identified.request.headers.set "Agent-ID" identified.target) =
    Wire.readAgentId identified.request.headers

variable [TextOf] {EndpointHandler MethodHandler : Type}

theorem bindIdentity_settled {server : Server EndpointHandler MethodHandler}
    {cert : VerifiedCert} {request : Request} {identified : Identified}
    (bound : bindIdentity server (.verified cert) request = .ok identified) :
    Settled cert request.headers identified := by
  unfold bindIdentity at bound
  simp only at bound
  split at bound
  · cases bound
  · cases bound
  · split at bound
    · next absent =>
        cases bound
        by_cases exact : SpelledExactly request.headers
        · have written := readAgentId_set_exact exact cert.agentId_ne
          refine ⟨cert.agentId_ne, ?_, ?_⟩
          · simp [withAgentId, written, EffectivelyNamed, absent, exact]
          · have again := readAgentId_set_exact
              ((spelledExactly_set request.headers cert.agentId).mpr exact)
              cert.agentId_ne
            exact again.trans written.symm
        · have hidden := readAgentId_set_hidden exact cert.agentId
          refine ⟨cert.agentId_ne, ?_, ?_⟩
          · have different : "" ≠ cert.agentId := fun equal => cert.agentId_ne equal.symm
            simp [withAgentId, hidden, EffectivelyNamed, absent, exact, different]
          · exact readAgentId_set_hidden
              (fun written => exact ((spelledExactly_set _ _).mp written)) cert.agentId
    · next present =>
        cases bound
        refine ⟨present, ?_, readAgentId_set_same request.headers present⟩
        simp [EffectivelyNamed, present]

theorem named_of_resolveHandle {registry : AgentRegistry} {cert : VerifiedCert}
    {headers : Headers} {identified addressed : Identified}
    (settled : Settled cert headers identified)
    (resolved : resolveHandle registry identified = .ok addressed) :
    Wire.readAgentId addressed.request.headers = cert.agentId ↔
      EffectivelyNamed cert headers := by
  unfold resolveHandle at resolved
  split at resolved
  · cases resolved
    exact settled.named
  · split at resolved
    · cases resolved
    · next agent _ =>
        split at resolved
        · cases resolved
        · next agree =>
            cases resolved
            have same : identified.target = agent.agentId := by
              by_contra different
              exact agree ⟨settled.target, different⟩
            rw [← settled.named, ← settled.rewritable, same]
            rfl

/-! ## The agent served -/

def Outcome.isRefused : Outcome → Bool
  | .refused _ => true
  | .answered _ | .dispatched _ _ => false

/-- The request was refused, or it is served and audited as the certificate's
agent. -/
def BoundTo (cert : VerifiedCert) : Outcome → Prop
  | .refused _ => True
  | .answered request => auditAgentId request = cert.agentId
  | .dispatched request agent =>
      agent.agentId = cert.agentId ∧ auditAgentId request = cert.agentId

omit [TextOf] in
theorem agentId_of_selectTarget {registry : AgentRegistry} {request : Request}
    {agent : AgentDocument} (selected : selectTarget registry request = .ok agent)
    (named : auditAgentId request ≠ "") :
    agent.agentId = auditAgentId request := by
  unfold auditAgentId at named
  simp only [selectTarget, named, if_false] at selected
  split at selected
  · next found =>
      cases selected
      exact AgentRegistry.agentId_of_lookup found
  · cases selected

theorem boundTo_route {server : Server EndpointHandler MethodHandler}
    {hooks : Hooks} {registry : AgentRegistry} {isSynthesis : String → Bool}
    {target : String} {request : Request} (cert : VerifiedCert)
    (served :
      (route server hooks registry isSynthesis target request).isRefused = false) :
    BoundTo cert (route server hooks registry isSynthesis target request) ↔
      auditAgentId request = cert.agentId := by
  revert served
  unfold route
  split
  · intro _
    exact Iff.rfl
  · intro served
    cases served
  · split
    · unfold serveManifest
      split
      · intro _
        exact Iff.rfl
      · intro served
        cases served
    · split
      · intro served
        cases served
      · next agent selected =>
          split
          · intro served
            cases served
          · intro _
            constructor
            · intro bound
              exact bound.2
            · intro named
              have nonempty : auditAgentId request ≠ "" := by
                rw [named]
                exact cert.agentId_ne
              exact ⟨(agentId_of_selectTarget selected nonempty).trans named, named⟩

/-- A request that is not refused is served as the certificate's agent exactly
if its headers name that agent, or name none and do not hide the header that
the server writes. -/
theorem handle_boundTo_iff (server : Server EndpointHandler MethodHandler)
    (hooks : Hooks) (registry : AgentRegistry) (isSynthesis : String → Bool)
    (cert : VerifiedCert) (request : Request)
    (served : (handle server hooks registry isSynthesis (.verified cert)
      request).isRefused = false) :
    BoundTo cert (handle server hooks registry isSynthesis (.verified cert)
        request) ↔
      Wire.readAgentId request.headers = cert.agentId ∨
        Wire.readAgentId request.headers = "" ∧
          SpelledExactly request.headers := by
  revert served
  unfold handle
  split
  · intro served
    cases served
  · next identified bound =>
      have settled := bindIdentity_settled bound
      split
      · intro served
        cases served
      · split
        · intro served
          cases served
        · next addressed resolved =>
            intro served
            rw [boundTo_route cert served]
            exact named_of_resolveHandle settled resolved

/-! ## Dispatched requests -/

structure CameTo (server : Server EndpointHandler MethodHandler)
    (registry : AgentRegistry) (isSynthesis : String → Bool) (peer : PeerCertificate)
    (request : Request) (identified addressed : Identified) (agent : AgentDocument) :
    Prop where
  bound : bindIdentity server peer request = .ok identified
  resolved : resolveHandle registry identified = .ok addressed
  selected : selectTarget registry addressed.request = .ok agent
  admitted : softDenied server isSynthesis addressed.request agent = none

theorem dispatched_cases {server : Server EndpointHandler MethodHandler}
    {hooks : Hooks} {registry : AgentRegistry} {isSynthesis : String → Bool}
    {peer : PeerCertificate} {request seen : Request} {agent : AgentDocument}
    (dispatched : handle server hooks registry isSynthesis peer request =
      .dispatched seen agent) :
    ∃ identified addressed, seen = addressed.request ∧
      CameTo server registry isSynthesis peer request identified addressed agent := by
  unfold handle at dispatched
  split at dispatched
  · cases dispatched
  · next identified bound =>
      split at dispatched
      · cases dispatched
      · split at dispatched
        · cases dispatched
        · next addressed resolved =>
            unfold route at dispatched
            split at dispatched
            · cases dispatched
            · cases dispatched
            · split at dispatched
              · unfold serveManifest at dispatched
                split at dispatched <;> cases dispatched
              · split at dispatched
                · cases dispatched
                · next chosen selected =>
                    split at dispatched
                    · cases dispatched
                    · next admitted =>
                        cases dispatched
                        exact ⟨identified, addressed, rfl, bound, resolved, selected,
                          admitted⟩

omit [TextOf] in
theorem sole_of_selectTarget {registry : AgentRegistry} {request : Request}
    {agent : AgentDocument} (selected : selectTarget registry request = .ok agent)
    (unnamed : auditAgentId request = "") :
    registry.listIds = [agent.agentId] := by
  unfold auditAgentId at unnamed
  simp only [selectTarget, unnamed, if_true] at selected
  split at selected
  · next only listed =>
      split at selected
      · next found =>
          cases selected
          rw [listed, AgentRegistry.agentId_of_lookup found]
      · cases selected
  · cases selected

/-! ## Agents in another's place -/

omit [TextOf] in
instance (cert : VerifiedCert) (outcome : Outcome) :
    Decidable (BoundTo cert outcome) :=
  match outcome with
  | .refused _ => .isTrue trivial
  | .answered request =>
      inferInstanceAs (Decidable (auditAgentId request = cert.agentId))
  | .dispatched request agent =>
      inferInstanceAs (Decidable
        (agent.agentId = cert.agentId ∧ auditAgentId request = cert.agentId))

end Agtp.Connection

namespace Agtp.Connection.Samples

open scoped Plain

def callerCert : VerifiedCert := ⟨"caller", "f0", .absent, by decide, by decide⟩

def hosting (agentId : String) : AgentRegistry :=
  .sole (.active agentId ⟨["QUERY"], [], false⟩)

/-- With its agent id in the headers, the certificate's agent is served. -/
theorem caller_served_as_caller :
    BoundTo callerCert (handle (Server.bare Unit Unit) [] (hosting "caller")
      (fun _ => false) (.verified callerCert)
      (.toRoot "QUERY" [("Agent-ID", "caller")])) :=
  (handle_boundTo_iff (Server.bare Unit Unit) [] (hosting "caller") (fun _ => false)
    callerCert (.toRoot "QUERY" [("Agent-ID", "caller")]) (by decide +kernel)).mpr
    (.inl (by decide +kernel))

/-- An empty header `agent-id` hides the one that the server writes: the sole
hosted agent is served, though the certificate is another agent's, and the
audit record names no agent. -/
theorem caller_served_as_other_agent :
    ¬BoundTo callerCert (handle (Server.bare Unit Unit) [] (hosting "other")
      (fun _ => false) (.verified callerCert)
      (.toRoot "QUERY" [("agent-id", "")])) := by
  decide +kernel

end Agtp.Connection.Samples
