import Agtp.Audit.Stores
import Agtp.Foundation.Lineage

/-! # Appending to the audit chain

The audit part of `_finalize_response`: read the agent's chain head, build the record, write the
record, then move the head. -/

namespace Agtp.Audit

structure AuditStores where
  heads : AuditChainStore
  records : AuditRecordStore

def AuditStores.empty : AuditStores := ⟨.empty, .empty⟩

structure WriteFailures where
  record : Bool
  head : Bool

structure Append where
  response : RecordFields
  failures : WriteFailures
  record : AttributionRecord

/-! ## Failure patterns -/

def Append.OnFile (append : Append) (file : String) : Prop :=
  append.response.agentId ≠ "" ∧ headFileName append.response.agentId = file

/-- Whenever a record of this head file could not be stored, its head could
not be moved either. -/
def NoLoneRecordFailure (file : String) (appends : List Append) : Prop :=
  ∀ append ∈ appends, append.OnFile file →
    append.failures.record → append.failures.head

def NoLoneHeadFailure (file : String) (appends : List Append) : Prop :=
  ∀ append ∈ appends, append.OnFile file →
    append.failures.head → append.failures.record

theorem NoLoneRecordFailure.tail {file : String} {append : Append}
    {appends : List Append}
    (aligned : NoLoneRecordFailure file (append :: appends)) :
    NoLoneRecordFailure file appends :=
  fun held member => aligned held (List.mem_cons_of_mem _ member)

theorem NoLoneHeadFailure.tail {file : String} {append : Append}
    {appends : List Append}
    (aligned : NoLoneHeadFailure file (append :: appends)) :
    NoLoneHeadFailure file appends :=
  fun held member => aligned held (List.mem_cons_of_mem _ member)

/-! ## Appending -/

variable [JsonCodec] [Digest] [TextCase] [TextOf]

def AuditStores.priorHead (stores : AuditStores) (agentId : String) :
    Raises (Option ChainHead) :=
  if agentId = "" then .ok none else stores.heads.head agentId

def priorAuditId : Option ChainHead → String
  | some head => head.auditId
  | none => ""

/-- One append under the transaction lock. The `previousAuditId` of `response`
is filled in here. -/
def finalizeAudit (service : Option SigningService) (stores : AuditStores)
    (response : RecordFields) (failures : WriteFailures) :
    Raises (AuditStores × AttributionRecord) :=
  match stores.priorHead response.agentId with
  | .error error => .error error
  | .ok priorHead =>
      let record := buildRecord service
        { response with previousAuditId := priorAuditId priorHead }
      match stores.records.write record.auditId record.jws with
      | .error error => .error error
      | .ok written =>
          .ok (⟨if failures.head then stores.heads
              else stores.heads.write response.agentId record.auditId
                response.issuedAt,
            if failures.record then stores.records else written⟩, record)

omit [TextOf] in
theorem finalizeAudit_eq {service : Option SigningService}
    {stores : AuditStores} {response : RecordFields} {failures : WriteFailures}
    {priorHead : Option ChainHead} {record : AttributionRecord}
    (prior : stores.priorHead response.agentId = .ok priorHead)
    (built : buildRecord service
      { response with previousAuditId := priorAuditId priorHead } = record)
    (wellFormed : isAuditId record.auditId) :
    finalizeAudit service stores response failures =
      .ok (⟨if failures.head then stores.heads
          else stores.heads.write response.agentId record.auditId
            response.issuedAt,
        if failures.record then stores.records
        else ⟨fun name => if name = record.auditId then .text record.jws
          else stores.records.files name⟩⟩, record) := by
  unfold finalizeAudit
  simp only [prior, built, AuditRecordStore.write,
    safeAuditId_of_isAuditId wellFormed]

/-- A sequence of finalized responses from empty stores, newest first. -/
inductive Run (service : Option SigningService) :
    List Append → AuditStores → Prop
  | start : Run service [] .empty
  | append {appends stores response failures next record} :
      Run service appends stores →
      finalizeAudit service stores response failures = .ok (next, record) →
      Run service (⟨response, failures, record⟩ :: appends) next

/-! ## The chain law -/

def recordLink (records : AuditRecordStore) (auditId : String) :
    Option String :=
  match records.read auditId with
  | .ok (some jws) => recordPrevious jws
  | _ => none

def HeadReachesGenesis (stores : AuditStores) (agentId : String) : Prop :=
  ∀ head, stores.heads.head agentId = .ok (some head) →
    (∃ jws, stores.records.read head.auditId = .ok (some jws)) ∧
    ∃ path, GenesisPath (recordLink stores.records) genesisSentinel
      head.auditId path

def Unforked (stores : AuditStores) (agentId : String) : Prop :=
  ∀ left leftJws right rightJws,
    stores.records.Stored left leftJws → NamesAgent agentId leftJws →
    stores.records.Stored right rightJws → NamesAgent agentId rightJws →
    recordPrevious leftJws = recordPrevious rightJws → left = right

def HeadCovers (stores : AuditStores) (agentId : String) : Prop :=
  ∀ auditId jws, stores.records.Stored auditId jws → NamesAgent agentId jws →
    ∃ head path, stores.heads.head agentId = .ok (some head) ∧
      GenesisPath (recordLink stores.records) genesisSentinel
        head.auditId path ∧
      auditId ∈ path

/-- What SHA-256 and JSON give for the records of a run: digests are hex text,
none is the sentinel, no two records collide, and what was written reads
back. -/
structure IdealRecords (service : Option SigningService)
    (appends : List Append) : Prop where
  collisionFree : ∀ left ∈ appends, ∀ right ∈ appends,
    left.record.auditId = right.record.auditId →
      left.record.jws = right.record.jws
  wellFormed : ∀ append ∈ appends, isAuditId append.record.auditId
  notGenesis : ∀ append ∈ appends, append.record.auditId ≠ genesisSentinel
  headerReads : ReadsBack (recordHeader service)
  payloadReads : ∀ append ∈ appends, ReadsBack append.record.payload

omit [Digest] [TextCase] [TextOf] in
theorem IdealRecords.tail {service : Option SigningService} {append : Append}
    {appends : List Append} (ideal : IdealRecords service (append :: appends)) :
    IdealRecords service appends where
  collisionFree := fun left leftMember right rightMember =>
    ideal.collisionFree left (List.mem_cons_of_mem _ leftMember)
      right (List.mem_cons_of_mem _ rightMember)
  wellFormed := fun held member =>
    ideal.wellFormed held (List.mem_cons_of_mem _ member)
  notGenesis := fun held member =>
    ideal.notGenesis held (List.mem_cons_of_mem _ member)
  headerReads := ideal.headerReads
  payloadReads := fun held member =>
    ideal.payloadReads held (List.mem_cons_of_mem _ member)

end Agtp.Audit
