import Agtp.Foundation.Dict
import Agtp.Foundation.Json
import Agtp.Foundation.Text
import Mathlib.Data.List.Dedup

/-! # Sessions by certificate

The sessions that are active under each certificate serial, the agent that each serial
was issued to, and what a notice of a revocation makes of them. Every operation holds the
lock; a notice takes it once for each step. -/

namespace Agtp

structure CertSessionRegistry where
  serialToSessions : Dict String (List String)
  serialToAgent : Dict String String
  recorded : ∀ serial ∈ serialToAgent.keys, serial ∈ serialToSessions.keys

namespace CertSessionRegistry

def empty : CertSessionRegistry := ⟨.empty, .empty, nofun⟩

def sorted (names : List String) : List String :=
  names.mergeSort (decide <| · ≤ ·)

def sessionsUnder (registry : CertSessionRegistry) (serial : String) : List String :=
  (registry.serialToSessions.get? serial).getD []

theorem mem_keys_of_sessionsUnder {registry : CertSessionRegistry} {serial session : String}
    (held : session ∈ registry.sessionsUnder serial) :
    serial ∈ registry.serialToSessions.keys := by
  unfold sessionsUnder at held
  cases found : registry.serialToSessions.get? serial with
  | none => simp [found] at held
  | some sessions => exact Dict.mem_keys_of_get? _ found

/-! ## Writers -/

def register (registry : CertSessionRegistry) (certSerial sessionId subjectAgentId : String) :
    CertSessionRegistry :=
  if certSerial = "" ∨ sessionId = "" then registry
  else
    { serialToSessions := registry.serialToSessions.set certSerial
        ((registry.sessionsUnder certSerial).insert sessionId)
      serialToAgent :=
        if subjectAgentId = "" then registry.serialToAgent
        else registry.serialToAgent.set certSerial subjectAgentId
      recorded := by
        intro serial named
        rw [Dict.mem_keys_set_iff]
        split at named
        · exact .inl (registry.recorded serial named)
        · rcases Dict.mem_keys_set named with held | same
          · exact .inl (registry.recorded serial held)
          · exact .inr same }

def deregisterSession (registry : CertSessionRegistry) (sessionId : String) :
    CertSessionRegistry :=
  { registry with
    serialToSessions := registry.serialToSessions.mapValues (·.filter (· ≠ sessionId))
    recorded := by
      intro serial named
      rw [Dict.keys_mapValues]
      exact registry.recorded serial named }

def revokeSerial (registry : CertSessionRegistry) (certSerial : String) :
    List String × CertSessionRegistry :=
  if certSerial = "" then ([], registry)
  else
    (sorted (registry.sessionsUnder certSerial),
      { serialToSessions := registry.serialToSessions.erase certSerial
        serialToAgent := registry.serialToAgent.erase certSerial
        recorded := by
          intro serial named
          rw [Dict.mem_keys_erase] at named ⊢
          exact ⟨registry.recorded serial named.1, named.2⟩ })

/-! ## What the writers change -/

variable {registry : CertSessionRegistry} {certSerial sessionId subjectAgentId : String}

theorem sessionsUnder_register (present : certSerial ≠ "" ∧ sessionId ≠ "")
    (serial : String) :
    (registry.register certSerial sessionId subjectAgentId).sessionsUnder serial =
      if serial = certSerial then (registry.sessionsUnder certSerial).insert sessionId
      else registry.sessionsUnder serial := by
  unfold register
  rw [if_neg (not_or.mpr present)]
  by_cases same : serial = certSerial
  · rw [if_pos same, same, sessionsUnder, Dict.get?_set_same, Option.getD_some]
  · rw [if_neg same, sessionsUnder, Dict.get?_set_other _ same]
    rfl

theorem keys_register (present : certSerial ≠ "" ∧ sessionId ≠ "") {serial : String} :
    serial ∈ (registry.register certSerial sessionId subjectAgentId).serialToSessions.keys ↔
      serial ∈ registry.serialToSessions.keys ∨ serial = certSerial := by
  unfold register
  rw [if_neg (not_or.mpr present)]
  exact Dict.mem_keys_set_iff

theorem agentOf_register (present : certSerial ≠ "" ∧ sessionId ≠ "") (serial : String) :
    (registry.register certSerial sessionId subjectAgentId).serialToAgent.get? serial =
      if subjectAgentId ≠ "" ∧ serial = certSerial then some subjectAgentId
      else registry.serialToAgent.get? serial := by
  unfold register
  rw [if_neg (not_or.mpr present)]
  dsimp only
  by_cases unnamed : subjectAgentId = ""
  · simp [unnamed]
  · rw [if_neg unnamed]
    by_cases same : serial = certSerial
    · rw [if_pos ⟨unnamed, same⟩, same, Dict.get?_set_same]
    · rw [if_neg fun both => same both.2, Dict.get?_set_other _ same]

theorem mem_sessionsUnder_deregister {serial session : String} :
    session ∈ (registry.deregisterSession sessionId).sessionsUnder serial ↔
      session ∈ registry.sessionsUnder serial ∧ session ≠ sessionId := by
  unfold sessionsUnder deregisterSession
  rw [Dict.get?_mapValues]
  cases registry.serialToSessions.get? serial with
  | none => simp
  | some sessions => simp

theorem keys_deregister :
    (registry.deregisterSession sessionId).serialToSessions.keys =
      registry.serialToSessions.keys :=
  Dict.keys_mapValues _ _

theorem keys_revokeSerial {serial : String} :
    serial ∈ (registry.revokeSerial certSerial).2.serialToSessions.keys ↔
      serial ∈ registry.serialToSessions.keys ∧ (certSerial = "" ∨ serial ≠ certSerial) := by
  unfold revokeSerial
  split
  · next unnamed => simp [unnamed]
  · next named =>
      rw [Dict.mem_keys_erase]
      simp [named]

theorem sessionsUnder_revokeSerial {serial : String} (other : serial ≠ certSerial) :
    (registry.revokeSerial certSerial).2.sessionsUnder serial =
      registry.sessionsUnder serial := by
  unfold revokeSerial sessionsUnder
  split
  · rfl
  · rw [Dict.get?_erase_other _ other]

theorem agentOf_revokeSerial {serial : String} (other : serial ≠ certSerial) :
    (registry.revokeSerial certSerial).2.serialToAgent.get? serial =
      registry.serialToAgent.get? serial := by
  unfold revokeSerial
  split
  · rfl
  · exact Dict.get?_erase_other _ other

theorem mem_sessionsUnder_of_revokeSerial {serial session : String}
    (held : session ∈ (registry.revokeSerial certSerial).2.sessionsUnder serial) :
    session ∈ registry.sessionsUnder serial := by
  by_cases same : serial = certSerial
  · subst same
    rcases (keys_revokeSerial.mp (mem_keys_of_sessionsUnder held)).2 with unnamed | other
    · simpa [revokeSerial, unnamed] using held
    · exact absurd rfl other
  · rwa [sessionsUnder_revokeSerial same] at held

theorem agentOf_of_revokeSerial {serial agentId : String}
    (held : (registry.revokeSerial certSerial).2.serialToAgent.get? serial = some agentId) :
    registry.serialToAgent.get? serial = some agentId := by
  by_cases same : serial = certSerial
  · subst same
    unfold revokeSerial at held
    split at held
    · exact held
    · simp at held
  · rwa [agentOf_revokeSerial same] at held

/-! ## Readers -/

def sessionsForSerial (registry : CertSessionRegistry) (certSerial : String) :
    List String :=
  sorted (registry.sessionsUnder certSerial)

section Agents

variable [TextCase]

def isFor (subjectAgentId : String) (entry : String × String) : Bool :=
  lower entry.2 = lower subjectAgentId

def serialsForAgent (registry : CertSessionRegistry) (subjectAgentId : String) :
    List String :=
  if subjectAgentId = "" then []
  else sorted ((registry.serialToAgent.entries.filter (isFor subjectAgentId)).map Prod.fst)

def sessionsForAgent (registry : CertSessionRegistry) (subjectAgentId : String) :
    List String :=
  if subjectAgentId = "" then []
  else
    sorted (((registry.serialToAgent.entries.filter (isFor subjectAgentId)).flatMap fun entry =>
      registry.sessionsUnder entry.1).dedup)

def revokeAgent (registry : CertSessionRegistry) (subjectAgentId : String) :
    List String × CertSessionRegistry :=
  (registry.serialsForAgent subjectAgentId).foldl
    (fun swept serial =>
      let step := swept.2.revokeSerial serial
      (swept.1 ++ step.1, step.2))
    ([], registry)

theorem mem_serialsForAgent {registry : CertSessionRegistry} {subjectAgentId : String}
    (present : subjectAgentId ≠ "") {serial : String} :
    serial ∈ registry.serialsForAgent subjectAgentId ↔
      ∃ agentId, registry.serialToAgent.get? serial = some agentId ∧
        lower agentId = lower subjectAgentId := by
  unfold serialsForAgent sorted
  rw [if_neg present, List.mem_mergeSort]
  simp only [List.mem_map, List.mem_filter, isFor, decide_eq_true_eq]
  constructor
  · rintro ⟨⟨held, agentId⟩, ⟨member, same⟩, rfl⟩
    exact ⟨agentId, (Dict.get?_eq_some_iff _).mpr member, same⟩
  · rintro ⟨agentId, held, same⟩
    exact ⟨(serial, agentId), ⟨(Dict.get?_eq_some_iff _).mp held, same⟩, rfl⟩

theorem mem_sessionsForAgent {registry : CertSessionRegistry} {subjectAgentId session : String} :
    session ∈ registry.sessionsForAgent subjectAgentId ↔
      ∃ serial ∈ registry.serialsForAgent subjectAgentId,
        session ∈ registry.sessionsForSerial serial := by
  unfold sessionsForAgent serialsForAgent sessionsForSerial sorted
  by_cases unnamed : subjectAgentId = ""
  · simp [unnamed]
  · simp only [unnamed, if_false, List.mem_mergeSort, List.mem_dedup, List.mem_flatMap,
      List.mem_map]
    constructor
    · rintro ⟨entry, member, held⟩
      exact ⟨entry.1, ⟨entry, member, rfl⟩, held⟩
    · rintro ⟨_, ⟨entry, member, rfl⟩, held⟩
      exact ⟨entry, member, held⟩

end Agents

end CertSessionRegistry

/-! ## Notices -/

/-- What a notice names, either of it empty where it names none. -/
structure RevocationNotice where
  subject : String
  serial : String

/-- The certificates and sessions that a notice has ended so far. -/
structure Sweep where
  terminated : List String
  serials : List String

namespace RevocationNotice

/-- What `apply_revocation_notify` reads of the body of a `NOTIFY`. -/
def ofBody [TextOf] : Json → Option RevocationNotice
  | .object members =>
      match Json.member members "event_type",
        ((Json.member members "payload").filter Json.truthy).getD (.object []) with
      | some (.string "certificate_revoked"), .object details =>
          some ⟨Text.strip (Json.textOr details "subject_agent_id" ""),
            Text.strip (Json.textOr details "cert_serial" "")⟩
      | _, _ => none
  | _ => none

/-- `build_revocation_notify_envelope`. -/
def envelope (notice : RevocationNotice) (reason revokedAt issuer : String) : Json :=
  .object [
    ("event_type", .string "certificate_revoked"),
    ("recipient", .string "infrastructure:broadcast"),
    ("urgency", .string "critical"),
    ("payload", .object [
      ("subject_agent_id", .string notice.subject),
      ("cert_serial", .string notice.serial),
      ("reason", .string reason),
      ("revoked_at", .string revokedAt),
      ("issuer", .string issuer)])]

def sweepSerial (serial : String) (before : Sweep × CertSessionRegistry) :
    Sweep × CertSessionRegistry :=
  let step := before.2.revokeSerial serial
  (if step.1 = [] then before.1
    else ⟨before.1.terminated ++ step.1, before.1.serials ++ [serial]⟩, step.2)

def otherSerials [TextCase] (notice : RevocationNotice) (registry : CertSessionRegistry) :
    List String :=
  (registry.serialsForAgent notice.subject).filter (· ≠ notice.serial)

def sweep [TextCase] (notice : RevocationNotice) (registry : CertSessionRegistry) :
    Sweep × CertSessionRegistry :=
  let first := sweepSerial notice.serial (⟨[], []⟩, registry)
  (notice.otherSerials first.2).foldl (fun swept serial => sweepSerial serial swept) first

end RevocationNotice

structure RevocationSummary where
  terminatedSessions : List String
  serialsSwept : List String
  subjectAgentId : String
deriving DecidableEq

def applyRevocationNotify [TextCase] [TextOf] (body : Json) (registry : CertSessionRegistry) :
    RevocationSummary × CertSessionRegistry :=
  match RevocationNotice.ofBody body with
  | none => (⟨[], [], ""⟩, registry)
  | some notice =>
      let swept := notice.sweep registry
      (⟨CertSessionRegistry.sorted swept.1.terminated.dedup,
        CertSessionRegistry.sorted swept.1.serials.dedup, notice.subject⟩, swept.2)

end Agtp
