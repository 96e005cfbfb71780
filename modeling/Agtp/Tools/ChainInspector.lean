import Agtp.Audit.Stores
import Agtp.Foundation.Dict
import Agtp.Foundation.Loop

/-! # The chain inspector

The tool that walks audit records backwards across agents, asking each agent for its records. -/

namespace Agtp.Tools

open Audit

structure PriorActionRef where
  agentId : String
  auditId : String
  agentUri : String

/-- What the texts of `fetch_error` tell apart. -/
inductive FetchError where
  /-- "cross-agent reference: no agent_uri available (not on the prior_actions entry and
  not in known_agents)" -/
  | noLocation
  /-- the error of the call, or "INSPECT returned {status}" -/
  | inspect (error : Option String) (status : Option Int)
  /-- "could not parse INSPECT body: {exc}" -/
  | body
  /-- "INSPECT body missing 'jws' field" -/
  | missingJws
  /-- "malformed JWS: {exc}" -/
  | malformed (error : RecordError)

structure ChainStep where
  stepId : Nat
  auditId : String
  agentId : String
  agentUri : String
  jws : String
  header : List (String × Json)
  payload : List (String × Json)
  previousAuditId : String
  priorActions : List PriorActionRef
  signed : Bool
  verified : Option Bool
  fetchError : Option FetchError
  parentStepIds : List Nat

def ChainStep.failed (stepId : Nat) (auditId agentUri : String) (error : FetchError) :
    ChainStep :=
  ⟨stepId, auditId, "", agentUri, "", [], [], "", [], false, none, some error, []⟩

/-- What `invoke_method` returns, as far as it is read. -/
structure InspectResult where
  ok : Bool
  statusCode : Option Int
  error : Option String
  bodyBytes : Bytes

/-! ## Fetching a record -/

section

variable [TextCase]

/-- An entry of `prior_actions`; entries of other shapes are skipped. -/
def priorActionOf [TextOf] : Json → Option PriorActionRef
  | .object entry =>
      match Json.member entry "agent_id", Json.member entry "audit_id" with
      | some (.string agentId), some (.string auditId) =>
          if agentId = "" ∨ auditId = "" then none
          else some ⟨lower agentId, lower auditId, Json.textOr entry "agent_uri" ""⟩
      | _, _ => none
  | _ => none

def parsePriorActions [TextOf] (payload : List (String × Json)) : List PriorActionRef :=
  match Json.member payload "extra" with
  | some (.object extra) =>
      match Json.member extra "prior_actions" with
      | some (.array entries) => entries.filterMap priorActionOf
      | _ => []
  | _ => []

variable [JsonCodec] [TextOf] {PublicKey : Type} [SignatureScheme PublicKey]

def verifiedOf (issuerPublicKey : Option PublicKey) (signed : Bool) (jws : String) :
    Raises (Option Bool) :=
  match issuerPublicKey, signed with
  | some key, true =>
      match verifyAttributionRecord jws key with
      | .ok _ => .ok (some true)
      | .error (.record _) => .ok (some false)
      | .error .uncaught => .error ()
  | _, _ => .ok none

def stepOfJws (issuerPublicKey : Option PublicKey) (agentUri auditId : String) (stepId : Nat)
    (jws : String) : Raises ChainStep :=
  match parseAttributionRecord jws with
  | .error (.record error) => .ok (.failed stepId auditId agentUri (.malformed error))
  | .error .uncaught => .error ()
  | .ok ⟨.object header, .object payload, _, _⟩ => do
      let signed := match Json.member header "alg" with
        | some (.string alg) => alg = "EdDSA"
        | _ => false
      let verified ← verifiedOf issuerPublicKey signed jws
      return {
        stepId, auditId, agentUri, jws, header, payload, signed, verified
        agentId := Json.textOr payload "agent_id" ""
        previousAuditId := Json.textOr payload "previous_audit_id" ""
        priorActions := parsePriorActions payload
        fetchError := none
        parentStepIds := [] }
  | .ok _ => .error ()

def fetchOne (inspect : String → String → InspectResult) (issuerPublicKey : Option PublicKey)
    (agentUri auditId : String) (stepId : Nat) : Raises ChainStep :=
  let result := inspect agentUri auditId
  if result.ok = false ∨ result.statusCode ≠ some 200 then
    .ok (.failed stepId auditId agentUri (.inspect result.error result.statusCode))
  else
    match JsonCodec.loads result.bodyBytes with
    | .error .valueError => .ok (.failed stepId auditId agentUri .body)
    | .error .other => .error ()
    | .ok (.object body) =>
        match Json.member body "jws" with
        | none => .ok (.failed stepId auditId agentUri .missingJws)
        | some value =>
            if value.truthy = false then .ok (.failed stepId auditId agentUri .missingJws)
            else
              match value with
              | .string jws => stepOfJws issuerPublicKey agentUri auditId stepId jws
              | _ => .error ()
    | .ok _ => .error ()

end

/-! ## The walk -/

structure Reference where
  agentUri : String
  auditId : String
  parent : Option Nat

structure Inspection where
  frontier : List Reference
  visited : Dict String Nat
  steps : List ChainStep

abbrev Fetch := String → String → Nat → Raises ChainStep

section

variable [TextCase]

def recordKey (auditId : String) : String := lower (Text.strip auditId)

def lowerKeys (knownAgents : List (String × String)) : Dict String String :=
  .ofList (knownAgents.map fun entry => (lower entry.1, entry.2))

def upstreamUri (knownAgents : Dict String String) (reference : PriorActionRef) : String :=
  if reference.agentUri ≠ "" then reference.agentUri
  else (knownAgents.get? (lower reference.agentId)).getD ""

/-- What a fetched step makes wait: its predecessor, unless it is the first record of its
agent, and the records of other agents that it declares. -/
def ChainStep.references (knownAgents : Dict String String) (agentUri : String)
    (step : ChainStep) : List Reference :=
  (if step.previousAuditId ≠ "" ∧ step.previousAuditId ≠ genesisSentinel then
    [⟨agentUri, step.previousAuditId, some step.stepId⟩] else []) ++
  step.priorActions.map fun reference =>
    ⟨upstreamUri knownAgents reference, reference.auditId, some step.stepId⟩

def ChainStep.enqueued (knownAgents : Dict String String) (agentUri : String)
    (step : ChainStep) : List Reference :=
  match step.fetchError with
  | some _ => []
  | none => step.references knownAgents agentUri

def ChainStep.addParent (parent : Option Nat) (step : ChainStep) : ChainStep :=
  match parent with
  | some parent =>
      if parent ∈ step.parentStepIds then step
      else { step with parentStepIds := step.parentStepIds ++ [parent] }
  | none => step

def Inspection.add (inspection : Inspection) (rest : List Reference) (step : ChainStep)
    (waiting : List Reference) : Inspection where
  frontier := rest ++ waiting
  visited := inspection.visited.set step.auditId inspection.steps.length
  steps := inspection.steps ++ [step]

def inspectNext (fetch : Fetch) (knownAgents : Dict String String) (maxSteps : Nat)
    (inspection : Inspection) : Raises (Option Inspection) :=
  match inspection.frontier with
  | [] => .ok none
  | next :: rest =>
      if maxSteps ≤ inspection.steps.length then .ok none
      else
        let auditId := recordKey next.auditId
        let stepId := inspection.steps.length
        match inspection.visited.get? auditId with
        | some existing =>
            .ok (some { inspection with
              frontier := rest
              steps := inspection.steps.modify existing (.addParent next.parent) })
        | none =>
            if next.agentUri = "" then
              -- a reference without a location: its record is not tried again
              .ok (some (inspection.add rest
                ((ChainStep.failed stepId auditId "" .noLocation).addParent next.parent) []))
            else
              match fetch next.agentUri auditId stepId with
              | .error failure => .error failure
              | .ok step =>
                  .ok (some (inspection.add rest (step.addParent next.parent)
                    (step.enqueued knownAgents next.agentUri)))

def inspectionFrom (agentUri startAuditId : String) : Inspection :=
  ⟨[⟨agentUri, recordKey startAuditId, none⟩], .empty, []⟩

def walkRecords (depth : Nat) (fetch : Fetch) (knownAgents : List (String × String))
    (maxSteps : Nat) (agentUri startAuditId : String) : Option (Raises (List ChainStep)) :=
  (Loop.run (inspectNext fetch (lowerKeys knownAgents) maxSteps) depth
    (inspectionFrom agentUri startAuditId)).map (Except.map Inspection.steps)

end

end Agtp.Tools
