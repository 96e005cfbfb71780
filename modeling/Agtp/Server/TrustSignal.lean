import Agtp.Server.ContextLaws
import Agtp.Server.IdentityBinding

/-! # The trust signal

A context and the trust block of its gateway frame say that the agent was verified by its
certificate. -/

namespace Agtp.Connection

variable [TextCase] [TextOf] [BodyCodec] [SchemaValidator]
  {EndpointHandler MethodHandler : Type}

/-! ## The agent dispatched for -/

/-- The headers name the certificate's agent, or they name none and the server
comes back to it all the same. -/
def NamesCertAgent (registry : AgentRegistry) (cert : VerifiedCert)
    (headers : Headers) : Prop :=
  Wire.readAgentId headers = cert.agentId ∨
    Wire.readAgentId headers = "" ∧
      (SpelledExactly headers ∨ registry.listIds = [cert.agentId])

omit [BodyCodec] [SchemaValidator] in
theorem verifiedCert_of_cameTo {server : Server EndpointHandler MethodHandler}
    {registry : AgentRegistry} {isSynthesis : String → Bool} {peer : PeerCertificate}
    {request : Request} {identified addressed : Identified} {agent : AgentDocument}
    (came : CameTo server registry isSynthesis peer request identified addressed
      agent) (cert : VerifiedCert) :
    addressed.request.verifiedCert = some cert ↔ peer = .verified cert := by
  have kept : addressed.request.verifiedCert = identified.request.verifiedCert := by
    have resolved := came.resolved
    unfold resolveHandle at resolved
    split at resolved
    · cases resolved
      rfl
    · split at resolved
      · cases resolved
      · split at resolved
        · cases resolved
        · cases resolved
          rfl
  have bound := came.bound
  rw [kept]
  unfold bindIdentity at bound
  cases peer with
  | absent =>
      cases bound
      simp
  | rejected message detail => cases bound
  | verified held =>
      simp only at bound
      split at bound
      · cases bound
      · cases bound
      · split at bound
        · cases bound
          simp [withAgentId]
        · cases bound
          simp

omit [BodyCodec] [SchemaValidator] in
theorem identified_of_named {server : Server EndpointHandler MethodHandler}
    {peer : PeerCertificate} {request : Request} {identified : Identified}
    (bound : bindIdentity server peer request = .ok identified)
    (named : Wire.readAgentId request.headers ≠ "") :
    identified.request.headers = request.headers ∧
      identified.target = Wire.readAgentId request.headers := by
  unfold bindIdentity at bound
  cases peer with
  | absent =>
      cases bound
      exact ⟨rfl, rfl⟩
  | rejected message detail => cases bound
  | verified cert =>
      simp only [named, if_false] at bound
      split at bound
      · cases bound
      · cases bound
      · cases bound
        exact ⟨rfl, rfl⟩

omit [BodyCodec] [SchemaValidator] in
theorem readAgentId_of_cameTo {server : Server EndpointHandler MethodHandler}
    {registry : AgentRegistry} {isSynthesis : String → Bool} {peer : PeerCertificate}
    {request : Request} {identified addressed : Identified} {agent : AgentDocument}
    (came : CameTo server registry isSynthesis peer request identified addressed agent)
    (named : Wire.readAgentId request.headers ≠ "") :
    Wire.readAgentId addressed.request.headers = Wire.readAgentId request.headers := by
  rcases identified_of_named came.bound named with ⟨headers, target⟩
  have resolved := came.resolved
  unfold resolveHandle at resolved
  split at resolved
  · cases resolved
    rw [headers]
  · split at resolved
    · cases resolved
    · next document _ =>
        split at resolved
        · cases resolved
        · next agree =>
            cases resolved
            have same : document.agentId = Wire.readAgentId request.headers := by
              by_contra different
              exact agree ⟨by rwa [target], fun equal =>
                different (equal.symm.trans target)⟩
            simp only [withAgentId, headers, same]
            exact readAgentId_set_same request.headers named

omit [BodyCodec] [SchemaValidator] in
theorem listed_of_cameTo {server : Server EndpointHandler MethodHandler}
    {registry : AgentRegistry} {isSynthesis : String → Bool} {peer : PeerCertificate}
    {request : Request} {identified addressed : Identified} {agent : AgentDocument}
    (came : CameTo server registry isSynthesis peer request identified addressed
      agent) : agent.agentId ∈ registry.listIds := by
  by_cases named : auditAgentId addressed.request = ""
  · rw [sole_of_selectTarget came.selected named]
    exact List.mem_singleton_self agent.agentId
  · have selected := came.selected
    unfold auditAgentId at named
    simp only [selectTarget, named, if_false] at selected
    split at selected
    · next found =>
        cases selected
        rw [AgentRegistry.agentId_of_lookup found]
        exact Dict.mem_keys_of_get? _ found
    · cases selected

omit [BodyCodec] [SchemaValidator] in
/-- The agent that is dispatched for is the certificate's exactly if the headers
name it, or leave the server to come back to it. -/
theorem agentId_of_cameTo {server : Server EndpointHandler MethodHandler}
    {registry : AgentRegistry} {isSynthesis : String → Bool} {cert : VerifiedCert}
    {request : Request} {identified addressed : Identified} {agent : AgentDocument}
    (came : CameTo server registry isSynthesis (.verified cert) request identified
      addressed agent) :
    agent.agentId = cert.agentId ↔ NamesCertAgent registry cert request.headers := by
  have settled := bindIdentity_settled came.bound
  have effectively := named_of_resolveHandle settled came.resolved
  have chosen (named : Wire.readAgentId addressed.request.headers ≠ "") :
      agent.agentId = Wire.readAgentId addressed.request.headers :=
    agentId_of_selectTarget came.selected named
  constructor
  · intro same
    by_cases named : Wire.readAgentId addressed.request.headers = ""
    · refine .inr ⟨?_, .inr ?_⟩
      · by_contra present
        exact present ((readAgentId_of_cameTo came present).symm.trans named)
      · rw [← same]
        exact sole_of_selectTarget came.selected named
    · rcases effectively.mp ((chosen named).symm.trans same) with first | ⟨absent, exact⟩
      · exact .inl first
      · exact .inr ⟨absent, .inl exact⟩
  · intro names
    have ofEffective (named : EffectivelyNamed cert request.headers) :
        agent.agentId = cert.agentId := by
      have read := effectively.mpr named
      rw [← read]
      exact chosen (by rw [read]; exact cert.agentId_ne)
    rcases names with first | ⟨absent, exact | sole⟩
    · exact ofEffective (.inl first)
    · exact ofEffective (.inr ⟨absent, exact⟩)
    · have listed := listed_of_cameTo came
      rw [sole] at listed
      exact List.mem_singleton.mp listed

/-! ## What is claimed of a dispatch -/

/-- The requests that are dispatched for one that a connection dispatches. -/
inductive Issued (seen : Request) : Request → Prop where
  | original : Issued seen seen
  | step (original : Request) (method : String) (params : List (String × Json)) :
      Issued seen (Execution.buildStepRequest original method params)

/-- Where the context or the trust block says that the agent was verified, the
agent is the certificate's. -/
def TrustSound (peer : PeerCertificate) (context : EndpointContext) : Prop :=
  context.agentVerified = true ∨
      Json.member (Gateway.trustBlock context) "method" =
        some (.string "agent_cert_mtls") →
    ∃ cert, peer = .verified cert ∧ cert.agentId = context.agentId

omit [TextCase] [TextOf] [BodyCodec] [SchemaValidator] in
theorem verified_of_trustBlock {context : EndpointContext}
    (claimed : Json.member (Gateway.trustBlock context) "method" =
      some (.string "agent_cert_mtls")) : context.agentVerified = true := by
  unfold Gateway.trustBlock Gateway.verifiedFingerprint at claimed
  cases verified : context.agentVerified with
  | true => rfl
  | false =>
      rw [verified] at claimed
      simp [Json.member_cons] at claimed

/-- The trust signal of a dispatch is about the agent that it names exactly if the
request carries no certificate, or its headers name the certificate's agent, or
leave the server to come back to that agent. -/
theorem trust_sound_iff {server : Server EndpointHandler MethodHandler}
    {hooks : Hooks} {registry : AgentRegistry} {isSynthesis : String → Bool}
    {peer : PeerCertificate} {request seen : Request} {agent : AgentDocument}
    (dispatched : handle server hooks registry isSynthesis peer request =
      .dispatched seen agent)
    {issued : Request} (issuedFor : Issued seen issued) {document : AgentDocument}
    (current : document.agentId = agent.agentId)
    {admission : Gates.Admission EndpointHandler MethodHandler}
    {handler : EndpointHandler} {context : EndpointContext}
    (admitted : Gates.admitRequest server document issued = .ok admission)
    (reached : admission.target = .endpoint handler context) :
    TrustSound peer context ↔
      issued.verifiedCert = none ∨
        ∀ cert, peer = .verified cert →
          NamesCertAgent registry cert request.headers := by
  rcases dispatched_cases dispatched with ⟨identified, addressed, rfl, came⟩
  rcases Gates.context_of_admitRequest admitted reached with ⟨input, principal, built⟩
  have verified : context.agentVerified = issued.verifiedCert.isSome := by
    rw [built]
    exact congrArg Option.isSome (Gates.verifiedCert_applyAlias _ issued)
  have about : context.agentId = agent.agentId := by
    rw [built, ← current]
    rfl
  have claims : TrustSound peer context ↔ (issued.verifiedCert.isSome = true →
      ∃ cert, peer = .verified cert ∧ cert.agentId = agent.agentId) := by
    unfold TrustSound
    rw [about, ← verified]
    constructor
    · intro sound carried
      exact sound (.inl carried)
    · rintro sound (carried | claimed)
      · exact sound carried
      · exact sound (verified_of_trustBlock claimed)
  rw [claims]
  cases issuedFor with
  | step original method params => simp [Execution.buildStepRequest]
  | original =>
      cases carried : addressed.request.verifiedCert with
      | none => simp
      | some cert =>
          have verifiedPeer := (verifiedCert_of_cameTo came cert).mp carried
          subst verifiedPeer
          have same := agentId_of_cameTo came
          simp only [Option.isSome_some, forall_const, reduceCtorEq, false_or,
            PeerCertificate.verified.injEq, exists_eq_left', forall_eq']
          rw [← same]
          exact eq_comm

end Agtp.Connection

namespace Agtp.Connection.Samples

open scoped Plain

def lenientServer : Server Unit Unit :=
  { Gates.roomServer false with requireAgentIdMatch := false }

theorem reader_ne : "reader" ≠ "" := by decide

theorem fingerprint_ne : "f1" ≠ "" := by decide

def readerCert : VerifiedCert := ⟨"reader", "f1", .absent, reader_ne, fingerprint_ne⟩

def booking (agentId : String) : Request :=
  Gates.bookRoom [("Agent-ID", agentId)]

def outcome (cert : VerifiedCert) : Outcome :=
  handle lenientServer [] (.sole Gates.reader) (fun _ => false) (.verified cert)
    (booking "reader")

def isDispatched : Outcome → Bool
  | .dispatched _ _ => true
  | _ => false

theorem dispatched_of_isDispatched {outcome : Outcome}
    (dispatched : isDispatched outcome = true) :
    ∃ seen agent, outcome = .dispatched seen agent := by
  cases outcome with
  | dispatched seen agent => exact ⟨seen, agent, rfl⟩
  | _ => cases dispatched

def shownAgent : Outcome → Option (String × Bool)
  | .dispatched seen agent =>
      match Gates.admitRequest lenientServer agent seen with
      | .ok ⟨_, _, _, .endpoint _ context⟩ =>
          some (context.agentId, context.agentVerified)
      | _ => none
  | _ => none

theorem context_of_shownAgent (outcome : Outcome) {shown : String × Bool}
    (call : shownAgent outcome = some shown) :
    ∃ seen agent admission handler context, outcome = .dispatched seen agent ∧
      Gates.admitRequest lenientServer agent seen = .ok admission ∧
      admission.target = .endpoint handler context ∧
      (context.agentId, context.agentVerified) = shown := by
  unfold shownAgent at call
  split at call
  · next seen agent =>
      split at call
      · next request method path handler context admitted =>
          cases call
          exact ⟨seen, agent, ⟨request, method, path, .endpoint handler context⟩,
            handler, context, rfl, admitted, rfl, rfl⟩
      · cases call
  · cases call

theorem reader_shown_as_verified :
    ∃ seen agent admission handler context,
      outcome readerCert = .dispatched seen agent ∧
      Gates.admitRequest lenientServer agent seen = .ok admission ∧
      admission.target = .endpoint handler context ∧ context.agentVerified = true ∧
      TrustSound (.verified readerCert) context := by
  have call : shownAgent (outcome readerCert) = some ("reader", true) := by
    decide +kernel
  rcases context_of_shownAgent _ call with
    ⟨seen, agent, admission, handler, context, dispatched, admitted, reached, shown⟩
  refine ⟨seen, agent, admission, handler, context, dispatched, admitted, reached,
    congrArg Prod.snd shown, ?_⟩
  refine (trust_sound_iff dispatched .original rfl admitted reached).mpr (.inr ?_)
  intro cert same
  cases same
  exact .inl (by decide +kernel)

/-- The certificate is another agent's, and the trust signal says that the agent
was verified by it. -/
theorem reader_verified_by_other_cert :
    ∃ seen agent admission handler context,
      outcome callerCert = .dispatched seen agent ∧
      Gates.admitRequest lenientServer agent seen = .ok admission ∧
      admission.target = .endpoint handler context ∧
      ¬TrustSound (.verified callerCert) context := by
  have call : shownAgent (outcome callerCert) = some ("reader", true) := by
    decide +kernel
  rcases context_of_shownAgent _ call with
    ⟨seen, agent, admission, handler, context, dispatched, admitted, reached, shown⟩
  refine ⟨seen, agent, admission, handler, context, dispatched, admitted, reached, ?_⟩
  intro sound
  rcases sound (.inl (congrArg Prod.snd shown)) with ⟨cert, same, agentId⟩
  cases same
  have named : callerCert.agentId = "reader" :=
    agentId.trans (congrArg Prod.fst shown)
  exact absurd named (by decide)

end Agtp.Connection.Samples
