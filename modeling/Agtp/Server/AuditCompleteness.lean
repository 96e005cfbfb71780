import Agtp.Audit.Extension
import Agtp.Server.TrustSignal

/-! # Audit completeness

The agent that a request is dispatched for is chosen by one function, and the agent that its
record is written for is read by another. -/

namespace Agtp.Connection

/-- The record of a response is written for the agent that the request's headers
name. -/
def finalizedFor [TextCase] (request : Request) (fields : Audit.RecordFields) :
    Audit.RecordFields :=
  { fields with agentId := auditAgentId request }

variable [TextCase]

/-- Something names an agent to the server: the headers do, or a certificate or the
path does and what is written into the headers is not hidden by an earlier
spelling. -/
def Addressed (peer : PeerCertificate) (request : Request) : Prop :=
  Wire.readAgentId request.headers ≠ "" ∨
    SpelledExactly request.headers ∧
      ((∃ cert, peer = .verified cert) ∨ (agentHandle request.path).isSome)

variable [TextOf] {EndpointHandler MethodHandler : Type}
  {server : Server EndpointHandler MethodHandler} {hooks : Hooks}
  {registry : AgentRegistry} {isSynthesis : String → Bool} {peer : PeerCertificate}
  {request seen : Request} {identified addressed : Identified} {agent : AgentDocument}

def Written (headers : Headers) (agentId : String) (after : Headers) : Prop :=
  after = headers.set "Agent-ID" agentId ∨
    after = (headers.set "Agent-ID" agentId).set "Agent-ID" agentId

omit [TextOf] in
theorem Written.read_exact {headers after : Headers} {agentId : String}
    (written : Written headers agentId after) (exact : SpelledExactly headers)
    (nonempty : agentId ≠ "") : Wire.readAgentId after = agentId := by
  rcases written with rfl | rfl
  · exact readAgentId_set_exact exact nonempty
  · exact readAgentId_set_exact ((spelledExactly_set _ _).mpr exact) nonempty

omit [TextOf] in
theorem Written.read_hidden {headers after : Headers} {agentId : String}
    (written : Written headers agentId after) (hidden : ¬SpelledExactly headers) :
    Wire.readAgentId after = Wire.readAgentId headers := by
  have again := readAgentId_set_hidden hidden agentId
  rcases written with rfl | rfl
  · exact again
  · rw [readAgentId_set_hidden (fun exact => hidden ((spelledExactly_set _ _).mp exact)),
      again]

omit [TextOf] in
theorem listed_of_handle {handle : String} {entry : String × AgentDocument}
    (found : (registry.agents.entries.find? fun entry =>
      lower entry.2.name = lower handle) = some entry) :
    entry.2.agentId ∈ registry.listIds := by
  have member := List.mem_of_find?_eq_some found
  rw [← registry.keyed entry member]
  exact List.mem_map_of_mem member

/-- Into headers that name no agent the certificate's agent id is written, or that
of the path's agent, or nothing is. -/
theorem written_of_cameTo
    (came : CameTo server registry isSynthesis peer request identified addressed agent)
    (absent : Wire.readAgentId request.headers = "") :
    (addressed.request.headers = request.headers ∧ (∀ cert, peer ≠ .verified cert) ∧
        agentHandle request.path = none) ∨
      ((∃ cert, peer = .verified cert) ∨ (agentHandle request.path).isSome) ∧
        ∃ agentId, Written request.headers agentId addressed.request.headers ∧
          (agentId ≠ "" ∨ agentId ∈ registry.listIds) := by
  have bound := came.bound
  have resolved := came.resolved
  cases peer with
  | rejected message detail => cases bound
  | absent =>
      cases bound
      unfold resolveHandle at resolved
      split at resolved
      · next noHandle =>
          cases resolved
          exact .inl ⟨rfl, nofun, noHandle⟩
      · next handle named =>
          split at resolved
          · cases resolved
          · next found =>
              split at resolved
              · cases resolved
              · cases resolved
                exact .inr ⟨.inr (by simp [named]), _, .inl rfl,
                  .inr (listed_of_handle found)⟩
  | verified cert =>
      right
      refine ⟨.inl ⟨cert, rfl⟩, cert.agentId, ?_, .inl cert.agentId_ne⟩
      simp only [bindIdentity, absent] at bound
      split at bound
      · cases bound
      · cases bound
      · cases bound
        unfold resolveHandle at resolved
        split at resolved
        · cases resolved
          exact .inl rfl
        · split at resolved
          · cases resolved
          · next document _ =>
              split at resolved
              · cases resolved
              · next agree =>
                  cases resolved
                  have same : cert.agentId = document.agentId := by
                    by_contra different
                    exact agree ⟨cert.agentId_ne, different⟩
                  right
                  simp only [withAgentId, same]

/-- The record of a dispatched request names an agent exactly where something
names one to the server. -/
theorem audited_iff_addressed
    (came : CameTo server registry isSynthesis peer request identified addressed agent) :
    auditAgentId addressed.request ≠ "" ↔
      agent.agentId ≠ "" ∧ Addressed peer request := by
  constructor
  · intro audited
    have chosen := agentId_of_selectTarget came.selected audited
    refine ⟨by rw [chosen]; exact audited, ?_⟩
    by_cases absent : Wire.readAgentId request.headers = ""
    · right
      rcases written_of_cameTo came absent with
        ⟨unchanged, _⟩ | ⟨injected, agentId, written, _⟩
      · rw [auditAgentId, unchanged] at audited
        exact absurd absent audited
      · refine ⟨?_, injected⟩
        by_contra hidden
        rw [auditAgentId, written.read_hidden hidden] at audited
        exact audited absent
    · exact .inl absent
  · rintro ⟨present, addressing⟩ unaudited
    by_cases absent : Wire.readAgentId request.headers = ""
    · rcases addressing with named | ⟨exact, injected⟩
      · exact named absent
      · rcases written_of_cameTo came absent with
          ⟨_, unverified, noHandle⟩ | ⟨_, agentId, written, origin⟩
        · rcases injected with ⟨cert, same⟩ | named
          · exact unverified cert same
          · simp [noHandle] at named
        · have nonempty : agentId ≠ "" := by
            rcases origin with nonempty | listed
            · exact nonempty
            · rw [sole_of_selectTarget came.selected unaudited] at listed
              rw [List.mem_singleton.mp listed]
              exact present
          rw [auditAgentId, written.read_exact exact nonempty] at unaudited
          exact nonempty unaudited
    · rw [auditAgentId, readAgentId_of_cameTo came absent] at unaudited
      exact absent unaudited

/-! ## The law -/

section Law

variable [JsonCodec] [Digest] {service : Option Audit.SigningService}
  {appends : List Audit.Append} {stores : Audit.AuditStores}
  {fields : Audit.RecordFields} {failures : Audit.WriteFailures}
  {record : Audit.AttributionRecord}

/-- The agent is named to the server, and the head file of its chain holds a record
of its own. -/
structure Chained (peer : PeerCertificate) (request : Request) (agentId : String)
    (appends : List Audit.Append) : Prop where
  addressed : Addressed peer request
  named : agentId ≠ ""
  own : Audit.OwnHead agentId appends

/-- In a run of responses whose writes succeed, the record of a dispatched request
extends its agent's chain where the agent is named and the chain is its own, and
for records without collisions only there. -/
theorem extends_chain_iff
    (dispatched : handle server hooks registry isSynthesis peer request =
      .dispatched seen agent)
    (run : Audit.Run service (⟨finalizedFor seen fields, failures, record⟩ :: appends)
      stores)
    (writes : ∀ append ∈
      (⟨finalizedFor seen fields, failures, record⟩ :: appends : List Audit.Append),
      append.Writes) :
    (Chained peer request agent.agentId appends →
      Audit.ExtendsChain agent.agentId appends
        ⟨finalizedFor seen fields, failures, record⟩ stores) ∧
    (Audit.IdealRecords service
        (⟨finalizedFor seen fields, failures, record⟩ :: appends) →
      Audit.ExtendsChain agent.agentId appends
        ⟨finalizedFor seen fields, failures, record⟩ stores →
      Chained peer request agent.agentId appends) := by
  rcases dispatched_cases dispatched with ⟨identified, addressed, rfl, came⟩
  constructor
  · intro chained
    have audited := (audited_iff_addressed came).mpr ⟨chained.named, chained.addressed⟩
    have same : agent.agentId = auditAgentId addressed.request :=
      agentId_of_selectTarget came.selected audited
    have own : Audit.OwnHead (auditAgentId addressed.request) appends := by
      rw [← same]
      exact chained.own
    rw [same]
    exact Audit.extendsChain_of_ownHead run writes audited own
  · intro ideal extend
    rcases Audit.ownHead_of_extendsChain run writes ideal extend with ⟨same, named, own⟩
    have audited : auditAgentId addressed.request ≠ "" := by
      change auditAgentId addressed.request = agent.agentId at same
      rw [same]
      exact named
    exact ⟨((audited_iff_addressed came).mp audited).2, named, own⟩

end Law

end Agtp.Connection

namespace Agtp.Connection.Samples

open scoped Plain

/-! ## The default of a single agent -/

def recordId : String :=
  "5555555555555555555555555555555555555555555555555555555555555555"

theorem recordId_wellFormed : Audit.isAuditId recordId := by decide +kernel

scoped instance : Digest := ⟨fun _ => recordId⟩

scoped instance : JsonCodec := ⟨fun _ => [], fun _ => .error .valueError⟩

def freshFields : Audit.RecordFields :=
  ⟨"", "", "", "server", "", "", "", "r1", "now", 200, "", []⟩

def firstAppend (request : Request) : Audit.Append where
  response := finalizedFor request freshFields
  failures := ⟨false, false⟩
  record := Audit.buildRecord none (finalizedFor request freshFields)

theorem firstAppend_run (request : Request) :
    ∃ stores, Audit.Run none [firstAppend request] stores := by
  have prior : Audit.AuditStores.empty.priorHead (auditAgentId request) = .ok none := by
    unfold Audit.AuditStores.priorHead
    split <;> rfl
  have appended : Audit.finalizeAudit none .empty (finalizedFor request freshFields)
      ⟨false, false⟩ = _ :=
    Audit.finalizeAudit_eq prior rfl recordId_wellFormed
  exact ⟨_, .append .start appended⟩

def bookedWith (headers : List (String × String)) : Outcome :=
  handle lenientServer [] (.sole Gates.reader) (fun _ => false) .absent
    (Gates.bookRoom headers)

def servedAndAudited : Outcome → Option (String × String)
  | .dispatched seen agent => some (agent.agentId, auditAgentId seen)
  | _ => none

theorem dispatched_of_servedAndAudited {outcome : Outcome} {served audited : String}
    (shown : servedAndAudited outcome = some (served, audited)) :
    ∃ seen agent, outcome = .dispatched seen agent ∧ agent.agentId = served ∧
      auditAgentId seen = audited := by
  cases outcome with
  | dispatched seen agent =>
      cases shown
      exact ⟨seen, agent, rfl, rfl, rfl⟩
  | _ => cases shown

theorem named_booking_chained :
    ∃ seen agent stores,
      bookedWith [("Agent-ID", "reader")] = .dispatched seen agent ∧
      Audit.Run none [firstAppend seen] stores ∧
      Audit.ExtendsChain agent.agentId [] (firstAppend seen) stores := by
  have shown : servedAndAudited (bookedWith [("Agent-ID", "reader")]) =
      some ("reader", "reader") := by decide +kernel
  rcases dispatched_of_servedAndAudited shown with ⟨seen, agent, dispatched, served, _⟩
  rcases firstAppend_run seen with ⟨stores, run⟩
  have writes : ∀ append ∈ [firstAppend seen], append.Writes := by
    intro append member
    rw [List.mem_singleton.mp member]
    rfl
  refine ⟨seen, agent, stores, dispatched, run,
    (extends_chain_iff dispatched run writes).1 ⟨.inl ?_, ?_, nofun⟩⟩
  · decide +kernel
  · rw [served]
    decide

/-- A booking that names no agent is served for the only one, and its record names
none. -/
theorem unnamed_booking_unchained :
    ∃ seen agent stores, bookedWith [] = .dispatched seen agent ∧
      Audit.Run none [firstAppend seen] stores ∧
      ¬Audit.ExtendsChain agent.agentId [] (firstAppend seen) stores := by
  have shown : servedAndAudited (bookedWith []) = some ("reader", "") := by
    decide +kernel
  rcases dispatched_of_servedAndAudited shown with
    ⟨seen, agent, dispatched, served, audited⟩
  rcases firstAppend_run seen with ⟨stores, run⟩
  refine ⟨seen, agent, stores, dispatched, run, ?_⟩
  intro extend
  have names := extend.names
  rw [run.names_newest, served] at names
  have same : auditAgentId seen = "reader" := Json.string.inj (Option.some.inj names)
  rw [audited] at same
  exact absurd same (by decide)

end Agtp.Connection.Samples
