import Agtp.Audit.Append

/-! # The audit chain law

The invariant behind the chain: the head file of an agent names the newest record of a lineage
of built records. -/

namespace Agtp.Audit

section ChainLaw

variable [JsonCodec] [Digest] [TextCase]

def Built (appends : List Append) (jws : String) : Prop :=
  ∃ append ∈ appends, append.record.jws = jws

def HeadNames (file : HeadFile) : List String → Prop
  | [] => file = .missing
  | jws :: _ => ∃ atIso, file = .json (AuditChainStore.headJson (auditIdFor jws) atIso)

def RecordsFiled (appends : List Append) (records : AuditRecordStore) : Prop :=
  ∀ name, records.files name = .missing ∨
    ∃ append ∈ appends, append.record.auditId = name ∧
      records.files name = .text append.record.jws

/-! ## One append -/

theorem finalizeAudit_cases {service : Option SigningService}
    {stores next : AuditStores} {response : RecordFields}
    {failures : WriteFailures} {record : AttributionRecord}
    (finalized :
      finalizeAudit service stores response failures = .ok (next, record)) :
    ∃ priorHead written,
      stores.priorHead response.agentId = .ok priorHead ∧
      record = buildRecord service
        { response with previousAuditId := priorAuditId priorHead } ∧
      stores.records.write record.auditId record.jws = .ok written ∧
      next.records = (if failures.record then stores.records else written) ∧
      next.heads = (if failures.head then stores.heads
        else stores.heads.write response.agentId record.auditId
          response.issuedAt) := by
  unfold finalizeAudit at finalized
  cases prior : stores.priorHead response.agentId with
  | error => simp [prior] at finalized
  | ok priorHead =>
      simp only [prior] at finalized
      generalize built : buildRecord service { response with
        previousAuditId := priorAuditId priorHead } = builtRecord at finalized
      cases writing :
          stores.records.write builtRecord.auditId builtRecord.jws with
      | error => simp [writing] at finalized
      | ok written =>
          simp only [writing, Except.ok.injEq, Prod.mk.injEq] at finalized
          obtain ⟨nextStores, sameRecord⟩ := finalized
          subst nextStores sameRecord
          exact ⟨priorHead, written, rfl, built.symm, writing, rfl, rfl⟩

/-! ## Records of a run -/

section Records

variable {service : Option SigningService} {appends : List Append}
  {stores next : AuditStores} {append : Append}

theorem Run.built (run : Run service appends stores)
    (member : append ∈ appends) :
    ∃ previousAuditId, append.record =
      buildRecord service { append.response with previousAuditId } := by
  induction run with
  | start => simp at member
  | append rest finalized induction =>
      rcases List.mem_cons.mp member with here | earlier
      · subst here
        obtain ⟨priorHead, _, _, record, _⟩ := finalizeAudit_cases finalized
        exact ⟨_, record⟩
      · exact induction earlier

theorem Run.auditId (run : Run service appends stores)
    (member : append ∈ appends) :
    append.record.auditId = auditIdFor append.record.jws := by
  obtain ⟨previousAuditId, record⟩ := run.built member
  rw [record]
  exact buildRecord_auditId _ _

theorem Run.namesAgent (run : Run service appends stores)
    (ideal : IdealRecords service appends) (member : append ∈ appends) :
    NamesAgent append.response.agentId append.record.jws := by
  obtain ⟨previousAuditId, record⟩ := run.built member
  have reads := ideal.payloadReads append member
  rw [record, buildRecord_payload] at reads
  rw [record]
  exact namesAgent_buildRecord service _ ideal.headerReads reads

theorem Built.wellFormed {jws : String} (built : Built appends jws)
    (run : Run service appends stores)
    (ideal : IdealRecords service appends) : isAuditId (auditIdFor jws) := by
  obtain ⟨append, member, rfl⟩ := built
  rw [← run.auditId member]
  exact ideal.wellFormed append member

theorem Run.recordsFiled (run : Run service appends stores)
    (ideal : IdealRecords service appends) :
    RecordsFiled appends stores.records := by
  induction run with
  | start => exact fun name => .inl rfl
  | @append appends stores response failures next record rest finalized induction =>
      obtain ⟨_, written, _, _, writing, records, _⟩ :=
        finalizeAudit_cases finalized
      have wellFormed := ideal.wellFormed _ (List.mem_cons_self)
      have earlier := induction ideal.tail
      have keep : ∀ name, stores.records.files name = .missing ∨
          ∃ append ∈ (⟨response, failures, record⟩ :: appends : List Append),
            append.record.auditId = name ∧
              stores.records.files name = .text append.record.jws := by
        intro name
        rcases earlier name with missing | ⟨append, member, named, content⟩
        · exact .inl missing
        · exact .inr ⟨append, List.mem_cons_of_mem _ member, named, content⟩
      intro name
      rw [records]
      split
      · exact keep name
      · rw [write_files wellFormed writing]
        split
        · next here =>
            exact .inr ⟨_, List.mem_cons_self, here.symm, rfl⟩
        · exact keep name

end Records

/-! ## One head file over one append -/

section OneFile

variable {service : Option SigningService} {appends : List Append}
  {stores next : AuditStores} {response : RecordFields}
  {failures : WriteFailures} {record : AttributionRecord} {file : String}
  {lineage : List String}

/-- A stored record of the run stays stored: only the same record can be
written over it. -/
theorem stored_after_append (run : Run service appends stores)
    (finalized :
      finalizeAudit service stores response failures = .ok (next, record))
    (ideal : IdealRecords service (⟨response, failures, record⟩ :: appends))
    {jws : String} (built : Built appends jws)
    (stored : stores.records.Stored (auditIdFor jws) jws) :
    next.records.Stored (auditIdFor jws) jws := by
  obtain ⟨_, written, _, _, writing, records, _⟩ := finalizeAudit_cases finalized
  have wellFormed := ideal.wellFormed _ (List.mem_cons_self)
  obtain ⟨append, member, rfl⟩ := built
  simp only [AuditRecordStore.Stored] at stored ⊢
  rw [records]
  split
  · exact stored
  · rw [write_files wellFormed writing]
    split
    · next sameId =>
        rw [← run.auditId member] at sameId
        have sameJws := ideal.collisionFree append
          (List.mem_cons_of_mem _ member) _ (List.mem_cons_self) sameId
        rw [sameJws]
    · exact stored

theorem stored_of_append
    (finalized :
      finalizeAudit service stores response failures = .ok (next, record))
    (wellFormed : isAuditId record.auditId) {auditId jws : String}
    (stored : next.records.Stored auditId jws) :
    stores.records.Stored auditId jws ∨
      (jws = record.jws ∧ failures.record = false) := by
  obtain ⟨_, written, _, _, writing, records, _⟩ := finalizeAudit_cases finalized
  simp only [AuditRecordStore.Stored] at stored ⊢
  rw [records] at stored
  split at stored
  · exact .inl stored
  · next succeeded =>
      rw [write_files wellFormed writing] at stored
      split at stored
      · right
        refine ⟨?_, by simpa using succeeded⟩
        exact (RecordFile.text.inj stored).symm
      · exact .inl stored

omit [JsonCodec] [Digest] [TextCase] in
theorem Built.append {jws : String} (built : Built appends jws)
    (newest : Append) : Built (newest :: appends) jws := by
  obtain ⟨append, member, same⟩ := built
  exact ⟨append, List.mem_cons_of_mem _ member, same⟩

variable [TextOf]

def recordLinks : Links String String where
  identifier := auditIdFor
  previous := fun jws => (recordPrevious jws).getD ""
  genesis := genesisSentinel

theorem IdealRecords.links (ideal : IdealRecords service appends)
    (run : Run service appends stores) :
    recordLinks.Ideal (Built appends) where
  injective := by
    rintro _ _ ⟨left, leftMember, rfl⟩ ⟨right, rightMember, rfl⟩ same
    apply ideal.collisionFree left leftMember right rightMember
    rw [run.auditId leftMember, run.auditId rightMember]
    exact same
  notGenesis := by
    rintro _ ⟨append, member, rfl⟩
    have notGenesis := ideal.notGenesis append member
    rw [run.auditId member] at notGenesis
    exact notGenesis

structure FileLineage (appends : List Append) (stores : AuditStores)
    (file : String) (lineage : List String) : Prop where
  linked : recordLinks.Linked lineage
  built : ∀ jws ∈ lineage, Built appends jws
  head : HeadNames (stores.heads.files file) lineage
  stored : NoLoneRecordFailure file appends →
    ∀ jws ∈ lineage, stores.records.Stored (auditIdFor jws) jws
  covered : NoLoneHeadFailure file appends →
    ∀ auditId jws agentId, stores.records.Stored auditId jws →
      NamesAgent agentId jws → agentId ≠ "" → headFileName agentId = file →
      jws ∈ lineage

/-- An append by an agent with another head file, or by none, changes nothing
for this one. -/
theorem FileLineage.otherFile (lineageOf : FileLineage appends stores file lineage)
    (run : Run service appends stores)
    (finalized :
      finalizeAudit service stores response failures = .ok (next, record))
    (ideal : IdealRecords service (⟨response, failures, record⟩ :: appends))
    (offFile : ¬ Append.OnFile ⟨response, failures, record⟩ file) :
    FileLineage (⟨response, failures, record⟩ :: appends) next file lineage := by
  have named := (run.append finalized).namesAgent ideal (List.mem_cons_self)
  have wellFormed := ideal.wellFormed _ (List.mem_cons_self)
  refine ⟨lineageOf.linked, fun jws member => (lineageOf.built jws member).append _,
    ?_, ?_, ?_⟩
  · obtain ⟨_, _, _, _, _, _, heads⟩ := finalizeAudit_cases finalized
    have sameFile : next.heads.files file = stores.heads.files file := by
      rw [heads]
      split
      · rfl
      · by_cases anonymous : response.agentId = ""
        · simp [AuditChainStore.write, anonymous]
        · apply AuditChainStore.write_files_other
          intro same
          exact offFile ⟨anonymous, same.symm⟩
    rw [sameFile]
    exact lineageOf.head
  · intro aligned jws member
    exact stored_after_append run finalized ideal (lineageOf.built jws member)
      (lineageOf.stored aligned.tail jws member)
  · intro aligned auditId jws agentId stored names agentNamed agentFile
    rcases stored_of_append finalized wellFormed stored with earlier | ⟨rfl, _⟩
    · exact lineageOf.covered aligned.tail auditId jws agentId earlier names
        agentNamed agentFile
    · have sameAgent := named.unique names
      simp only at sameAgent
      subst sameAgent
      exact absurd ⟨agentNamed, agentFile⟩ offFile

/-- When the head cannot be moved the lineage stays, and the new record is
missing from it exactly if it was stored. -/
theorem FileLineage.headFails (lineageOf : FileLineage appends stores file lineage)
    (run : Run service appends stores)
    (finalized :
      finalizeAudit service stores response failures = .ok (next, record))
    (ideal : IdealRecords service (⟨response, failures, record⟩ :: appends))
    (onFile : Append.OnFile ⟨response, failures, record⟩ file)
    (headFailed : failures.head) :
    FileLineage (⟨response, failures, record⟩ :: appends) next file lineage := by
  have wellFormed := ideal.wellFormed _ (List.mem_cons_self)
  refine ⟨lineageOf.linked, fun jws member => (lineageOf.built jws member).append _,
    ?_, ?_, ?_⟩
  · obtain ⟨_, _, _, _, _, _, heads⟩ := finalizeAudit_cases finalized
    rw [heads, if_pos headFailed]
    exact lineageOf.head
  · intro aligned jws member
    exact stored_after_append run finalized ideal (lineageOf.built jws member)
      (lineageOf.stored aligned.tail jws member)
  · intro aligned auditId jws agentId stored names agentNamed agentFile
    rcases stored_of_append finalized wellFormed stored with
      earlier | ⟨_, recordStored⟩
    · exact lineageOf.covered aligned.tail auditId jws agentId earlier names
        agentNamed agentFile
    · have recordFailed := aligned _ (List.mem_cons_self) onFile headFailed
      simp [recordStored] at recordFailed

theorem FileLineage.continues (lineageOf : FileLineage appends stores file lineage)
    (run : Run service appends stores)
    (finalized :
      finalizeAudit service stores response failures = .ok (next, record))
    (ideal : IdealRecords service (⟨response, failures, record⟩ :: appends))
    (onFile : Append.OnFile ⟨response, failures, record⟩ file) :
    recordPrevious record.jws = some (recordLinks.tip lineage) := by
  obtain ⟨priorHead, _, prior, built, _⟩ := finalizeAudit_cases finalized
  have reads := ideal.payloadReads _ (List.mem_cons_self)
  simp only [built, buildRecord_payload] at reads
  rw [built, recordPrevious_buildRecord service _ ideal.headerReads reads]
  obtain ⟨agentNamed, agentFile⟩ := onFile
  simp only at agentNamed agentFile
  simp only [AuditStores.priorHead, agentNamed, if_false, AuditChainStore.head,
    agentFile] at prior
  have headNames := lineageOf.head
  cases lineage with
  | nil =>
      simp only [HeadNames] at headNames
      rw [headNames] at prior
      cases prior
      rfl
  | cons newest rest =>
      obtain ⟨atIso, headFile⟩ := headNames
      rw [headFile, AuditChainStore.headOf_headJson] at prior
      cases prior
      have wellFormed :=
        (lineageOf.built newest (by simp)).wellFormed run ideal.tail
      have notEmpty : auditIdFor newest ≠ "" := by
        intro empty
        rw [empty] at wellFormed
        exact absurd wellFormed (by decide)
      simp [priorAuditId, notEmpty, Links.tip, recordLinks]

theorem FileLineage.headMoves (lineageOf : FileLineage appends stores file lineage)
    (run : Run service appends stores)
    (finalized :
      finalizeAudit service stores response failures = .ok (next, record))
    (ideal : IdealRecords service (⟨response, failures, record⟩ :: appends))
    (onFile : Append.OnFile ⟨response, failures, record⟩ file)
    (headWritten : failures.head = false) :
    FileLineage (⟨response, failures, record⟩ :: appends) next file
      (record.jws :: lineage) := by
  have wellFormed := ideal.wellFormed _ (List.mem_cons_self)
  have ownId := (run.append finalized).auditId (List.mem_cons_self)
  simp only at wellFormed ownId
  have continues := lineageOf.continues run finalized ideal onFile
  obtain ⟨_, written, _, _, writing, records, heads⟩ :=
    finalizeAudit_cases finalized
  refine ⟨?_, ?_, ?_, ?_, ?_⟩
  · refine .cons ?_ lineageOf.linked
    simp [recordLinks, continues]
  · intro jws member
    rcases List.mem_cons.mp member with rfl | earlier
    · exact ⟨_, List.mem_cons_self, rfl⟩
    · exact (lineageOf.built jws earlier).append _
  · obtain ⟨agentNamed, agentFile⟩ := onFile
    refine ⟨response.issuedAt, ?_⟩
    rw [heads, headWritten, ← ownId, ← agentFile]
    exact AuditChainStore.write_files_same agentNamed _ _ _
  · intro aligned jws member
    rcases List.mem_cons.mp member with rfl | earlier
    · have recordWritten : failures.record = false := by
        by_contra failed
        have headFailed := aligned _ (List.mem_cons_self) onFile
          (by simpa using failed)
        simp [headWritten] at headFailed
      simp only [AuditRecordStore.Stored]
      rw [records, recordWritten, ← ownId]
      simp [write_files wellFormed writing]
    · exact stored_after_append run finalized ideal (lineageOf.built jws earlier)
        (lineageOf.stored aligned.tail jws earlier)
  · intro aligned auditId jws agentId stored names agentNamed agentFile
    rcases stored_of_append finalized wellFormed stored with earlier | ⟨rfl, _⟩
    · exact List.mem_cons_of_mem _ (lineageOf.covered aligned.tail auditId jws
        agentId earlier names agentNamed agentFile)
    · exact List.mem_cons_self

theorem Run.fileLineage (run : Run service appends stores)
    (ideal : IdealRecords service appends) (file : String) :
    ∃ lineage, FileLineage appends stores file lineage := by
  induction run with
  | start =>
      refine ⟨[], .nil, by simp, rfl, by simp, ?_⟩
      intro _ auditId jws agentId stored
      simp [AuditRecordStore.Stored, AuditStores.empty,
        AuditRecordStore.empty] at stored
  | append rest finalized induction =>
      rename_i response failures next record
      obtain ⟨lineage, lineageOf⟩ := induction ideal.tail
      by_cases onFile : Append.OnFile ⟨response, failures, record⟩ file
      · cases headWrite : failures.head with
        | true =>
            exact ⟨lineage, lineageOf.headFails rest finalized ideal onFile headWrite⟩
        | false =>
            exact ⟨_, lineageOf.headMoves rest finalized ideal onFile headWrite⟩
      · exact ⟨lineage, lineageOf.otherFile rest finalized ideal onFile⟩

end OneFile

/-! ## Walking from the head -/

section Walking

variable [TextOf] {service : Option SigningService} {appends : List Append}
  {stores : AuditStores} {file agentId : String} {lineage : List String}

theorem Built.link {jws : String} (built : Built appends jws)
    (run : Run service appends stores) (ideal : IdealRecords service appends)
    (stored : stores.records.Stored (auditIdFor jws) jws) :
    recordLink stores.records (auditIdFor jws) =
      some (recordLinks.previous jws) := by
  have wellFormed := built.wellFormed run ideal
  obtain ⟨append, member, rfl⟩ := built
  obtain ⟨previousAuditId, record⟩ := run.built member
  have reads := ideal.payloadReads append member
  rw [record, buildRecord_payload] at reads
  have previous := recordPrevious_buildRecord service _ ideal.headerReads reads
  rw [← record] at previous
  unfold recordLink
  rw [read_stored wellFormed stored]
  simp [recordLinks, previous]

theorem FileLineage.genesisPath {newest : String}
    (lineageOf : FileLineage appends stores file (newest :: lineage))
    (run : Run service appends stores) (ideal : IdealRecords service appends)
    (stored : ∀ jws ∈ newest :: lineage,
      stores.records.Stored (auditIdFor jws) jws) :
    GenesisPath (recordLink stores.records) genesisSentinel
      (auditIdFor newest) ((newest :: lineage).map auditIdFor) :=
  lineageOf.linked.genesisPath (ideal.links run)
    (fun jws member => lineageOf.built jws (List.mem_cons_of_mem _ member))
    (fun jws member => (lineageOf.built jws member).link run ideal
      (stored jws member))

omit [TextCase] in
theorem FileLineage.head_of (lineageOf : FileLineage appends stores file lineage)
    (agentFile : headFileName agentId = file) {head : ChainHead}
    (headRead : stores.heads.head agentId = .ok (some head)) :
    ∃ newest rest, lineage = newest :: rest ∧
      head.auditId = auditIdFor newest := by
  have headNames := lineageOf.head
  rw [AuditChainStore.head, agentFile] at headRead
  cases lineage with
  | nil =>
      simp only [HeadNames] at headNames
      rw [headNames] at headRead
      cases headRead
  | cons newest rest =>
      obtain ⟨atIso, headFile⟩ := headNames
      rw [headFile, AuditChainStore.headOf_headJson] at headRead
      cases headRead
      exact ⟨newest, rest, rfl, rfl⟩

omit [TextCase] in
theorem FileLineage.head_eq {newest : String}
    (lineageOf : FileLineage appends stores file (newest :: lineage))
    (agentFile : headFileName agentId = file) :
    ∃ atIso, stores.heads.head agentId = .ok (some ⟨auditIdFor newest, atIso⟩) := by
  obtain ⟨atIso, headFile⟩ := lineageOf.head
  refine ⟨atIso, ?_⟩
  rw [AuditChainStore.head, agentFile, headFile,
    AuditChainStore.headOf_headJson]

omit [TextOf] in
theorem Run.stored_id (run : Run service appends stores)
    (ideal : IdealRecords service appends) {auditId jws : String}
    (stored : stores.records.Stored auditId jws) : auditId = auditIdFor jws := by
  rcases run.recordsFiled ideal auditId with missing | ⟨append, member, named, content⟩
  · rw [AuditRecordStore.Stored, missing] at stored
    cases stored
  · rw [AuditRecordStore.Stored, content] at stored
    cases stored
    rw [← named]
    exact run.auditId member

theorem headReachesGenesis (run : Run service appends stores)
    (ideal : IdealRecords service appends)
    (aligned : NoLoneRecordFailure (headFileName agentId) appends) :
    HeadReachesGenesis stores agentId := by
  intro head headRead
  obtain ⟨lineage, lineageOf⟩ := run.fileLineage ideal (headFileName agentId)
  obtain ⟨newest, rest, rfl, headId⟩ := lineageOf.head_of rfl headRead
  have stored := lineageOf.stored aligned
  rw [headId]
  have newestBuilt := lineageOf.built newest (by simp)
  exact ⟨⟨newest, read_stored (newestBuilt.wellFormed run ideal)
      (stored newest (by simp))⟩,
    _, lineageOf.genesisPath run ideal stored⟩

theorem unforked (run : Run service appends stores)
    (ideal : IdealRecords service appends) (named : agentId ≠ "")
    (aligned : NoLoneHeadFailure (headFileName agentId) appends) :
    Unforked stores agentId := by
  intro left leftJws right rightJws leftStored leftNames rightStored rightNames same
  obtain ⟨lineage, lineageOf⟩ := run.fileLineage ideal (headFileName agentId)
  have leftMember := lineageOf.covered aligned left leftJws agentId leftStored
    leftNames named rfl
  have rightMember := lineageOf.covered aligned right rightJws agentId
    rightStored rightNames named rfl
  have sameJws : leftJws = rightJws := by
    apply lineageOf.linked.previous_injective (ideal.links run) lineageOf.built
      leftMember rightMember
    simp [recordLinks, same]
  rw [run.stored_id ideal leftStored, run.stored_id ideal rightStored, sameJws]

theorem headCovers (run : Run service appends stores)
    (ideal : IdealRecords service appends) (named : agentId ≠ "")
    (recordAligned : NoLoneRecordFailure (headFileName agentId) appends)
    (headAligned : NoLoneHeadFailure (headFileName agentId) appends) :
    HeadCovers stores agentId := by
  intro auditId jws stored names
  obtain ⟨lineage, lineageOf⟩ := run.fileLineage ideal (headFileName agentId)
  have member := lineageOf.covered headAligned auditId jws agentId stored
    names named rfl
  cases lineage with
  | nil => simp at member
  | cons newest rest =>
      obtain ⟨atIso, head⟩ := lineageOf.head_eq rfl
      refine ⟨_, _, head,
        lineageOf.genesisPath run ideal (lineageOf.stored recordAligned), ?_⟩
      rw [run.stored_id ideal stored]
      exact List.mem_map_of_mem member

/-- The chain law, part by part: the head names a stored record from which the
walk reaches genesis as long as no record write fails alone, no two stored
records share a predecessor as long as no head write fails alone, and with
both the walk visits every stored record of the agent. -/
theorem audit_chain_law (run : Run service appends stores)
    (ideal : IdealRecords service appends) (named : agentId ≠ "") :
    (NoLoneRecordFailure (headFileName agentId) appends →
      HeadReachesGenesis stores agentId) ∧
    (NoLoneHeadFailure (headFileName agentId) appends →
      Unforked stores agentId) ∧
    (NoLoneRecordFailure (headFileName agentId) appends →
      NoLoneHeadFailure (headFileName agentId) appends →
      HeadCovers stores agentId) :=
  ⟨headReachesGenesis run ideal, unforked run ideal named,
    headCovers run ideal named⟩

end Walking

end ChainLaw

/-! ## Writes that fail alone -/

namespace ChainSample

open scoped Plain

def headerText : String := "\x7b\"alg\":\"none\",\"typ\":\"JWT\"\x7d"

def payloadStart : String :=
  "\x7b\"ag" ++
    "ent_id\":\"a\",\"audit_record_version\":\"1\",\"issued_at\":\"now\"," ++
    "\"owner_id\":\"\",\"previous_audit_id\":\"" ++ genesisSentinel ++
    "\",\"request_id\":\"\",\"response_id\":\""

def payloadEnd : String := "\",\"server_id\":\"\",\"status\":200\x7d"

def payloadText (responseId : String) : String :=
  payloadStart ++ responseId ++ payloadEnd

def response (responseId : String) : RecordFields :=
  ⟨"a", "", "", "", "", "", "", responseId, "now", 200, "", []⟩

/-- JSON text of the first records of agent `a`. -/
scoped instance : JsonCodec where
  canonical
    | .object (("alg", _) :: _) => asciiBytes headerText
    | .object members =>
        match Json.member members "response_id" with
        | some (.string responseId) => asciiBytes (payloadText responseId)
        | _ => []
    | _ => []
  loads bytes :=
    if bytes = asciiBytes headerText then
      .ok (.object [("alg", .string "none"), ("typ", .string "JWT")])
    else if bytes = asciiBytes (payloadText "r1") then
      .ok (.object (response "r1").payload)
    else if bytes = asciiBytes (payloadText "r2") then
      .ok (.object (response "r2").payload)
    else .error .valueError

def compact (responseId : String) : String :=
  String.ofList (Base64Url.encode (asciiBytes headerText) ++ '.' ::
    (Base64Url.encode (asciiBytes (payloadText responseId)) ++ ['.']))

def firstId : String :=
  "47b328a23c34c7b588e1b06919fec4018054050511737b161cd4b3c6d2058f76"

def secondId : String :=
  "b1068e3f0595bdc2a5f0140bea09b9bb819490282198572870935aee9cb16d74"

theorem firstId_wellFormed : isAuditId firstId := by decide +kernel

theorem secondId_wellFormed : isAuditId secondId := by decide +kernel

theorem firstId_ne_secondId : firstId ≠ secondId := by decide +kernel

scoped instance : Digest where
  sha256 bytes :=
    if bytes = asciiBytes (compact "r1") then firstId
    else if bytes = asciiBytes (compact "r2") then secondId
    else ""

def record (responseId auditId : String) : AttributionRecord :=
  ⟨compact responseId, auditId, (response responseId).payload⟩

theorem isAscii_compact (responseId : String) :
    Text.isAscii (compact responseId) := by
  have segment (bytes : Bytes) :
      ∀ character ∈ Base64Url.encode bytes, character.toNat < 128 :=
    fun character member => Base64Url.ascii_of_mem_alphabet character
      (Base64Url.mem_alphabet_of_mem_encode member)
  simp only [Text.isAscii, compact, String.toList_ofList, List.all_eq_true,
    List.mem_append, List.mem_cons, List.not_mem_nil, or_false,
    decide_eq_true_eq]
  rintro character (header | rfl | payload | rfl)
  · exact segment _ character header
  · decide
  · exact segment _ character payload
  · decide

theorem compact_injective {left right : String}
    (equal : compact left = compact right) :
    asciiBytes left = asciiBytes right := by
  unfold compact at equal
  rw [String.ofList_inj] at equal
  have sameTails := List.append_cancel_left equal
  have sameSegments := List.append_cancel_right (List.cons.inj sameTails).2
  have samePayloads := Base64Url.encode_injective sameSegments
  rw [payloadText, payloadText, asciiBytes_append, asciiBytes_append,
    asciiBytes_append, asciiBytes_append] at samePayloads
  exact List.append_cancel_left (List.append_cancel_right samePayloads)

theorem auditIdFor_first : auditIdFor (compact "r1") = firstId := by
  simp [auditIdFor, Digest.sha256]

theorem auditIdFor_second : auditIdFor (compact "r2") = secondId := by
  have different : asciiBytes (compact "r2") ≠ asciiBytes (compact "r1") := by
    intro equal
    have same := asciiBytes_injective (isAscii_compact _) (isAscii_compact _) equal
    exact absurd (compact_injective same) (by decide)
  simp [auditIdFor, Digest.sha256, different]

theorem payloadText_ne_headerText (responseId : String) :
    asciiBytes (payloadText responseId) ≠ asciiBytes headerText := by
  intro equal
  have sameStart := congrArg (List.take 4) equal
  simp only [payloadText, payloadStart, asciiBytes_append, List.append_assoc]
    at sameStart
  rw [List.take_append_of_le_length (by decide)] at sameStart
  exact absurd sameStart (by decide)

theorem payloadText_different :
    asciiBytes (payloadText "r2") ≠ asciiBytes (payloadText "r1") := by
  intro equal
  rw [payloadText, payloadText, asciiBytes_append, asciiBytes_append,
    asciiBytes_append, asciiBytes_append] at equal
  have sameIds := List.append_cancel_left (List.append_cancel_right equal)
  exact absurd sameIds (by decide)

theorem loads_header :
    JsonCodec.loads (JsonCodec.canonical (.object (recordHeader none))) =
      .ok (.object (recordHeader none)) := by
  simp [JsonCodec.loads, JsonCodec.canonical, recordHeader]

theorem loads_payload {responseId : String}
    (sample : responseId = "r1" ∨ responseId = "r2") :
    JsonCodec.loads (JsonCodec.canonical (.object (response responseId).payload)) =
      .ok (.object (response responseId).payload) := by
  have canonical : JsonCodec.canonical (.object (response responseId).payload) =
      asciiBytes (payloadText responseId) := rfl
  rw [canonical]
  rcases sample with rfl | rfl
  · simp [JsonCodec.loads, payloadText_ne_headerText]
  · simp [JsonCodec.loads, payloadText_ne_headerText, payloadText_different]

theorem headerReads : ReadsBack (recordHeader none) :=
  ⟨_, loads_header, fun _ _ found => found⟩

theorem payloadReads {responseId : String}
    (sample : responseId = "r1" ∨ responseId = "r2") :
    ReadsBack (response responseId).payload :=
  ⟨_, loads_payload sample, fun _ _ found => found⟩

theorem parse_sample {responseId : String}
    (sample : responseId = "r1" ∨ responseId = "r2") :
    ∃ parsed, parseAttributionRecord (compact responseId) = .ok parsed ∧
      parsed.header = .object (recordHeader none) ∧
      parsed.payload = .object (response responseId).payload ∧
      parsed.signature = [] :=
  parse_compact loads_header (loads_payload sample) []

theorem buildRecord_first :
    buildRecord none (response "r1") = record "r1" firstId := by
  have auditId : (buildRecord none (response "r1")).auditId = firstId :=
    auditIdFor_first
  rw [← auditId]
  rfl

theorem buildRecord_second :
    buildRecord none (response "r2") = record "r2" secondId := by
  have auditId : (buildRecord none (response "r2")).auditId = secondId :=
    auditIdFor_second
  rw [← auditId]
  rfl

def first (failures : WriteFailures) : Append :=
  ⟨response "r1", failures, record "r1" firstId⟩

def second (failures : WriteFailures) : Append :=
  ⟨response "r2", failures, record "r2" secondId⟩

theorem first_run (failures : WriteFailures) :
    Run none [first failures]
      ⟨if failures.head then .empty
        else AuditChainStore.empty.write "a" firstId "now",
      if failures.record then .empty
        else ⟨fun name => if name = firstId then .text (compact "r1")
          else .missing⟩⟩ := by
  have prior : AuditStores.empty.priorHead "a" = .ok none := rfl
  have built : buildRecord none
      { response "r1" with previousAuditId := priorAuditId none } =
        record "r1" firstId := buildRecord_first
  have appended : finalizeAudit none .empty (response "r1") failures = _ :=
    finalizeAudit_eq prior built firstId_wellFormed
  exact .append .start appended

theorem ideal_first (failures : WriteFailures) :
    IdealRecords none [first failures] where
  collisionFree := by
    intro left leftMember right rightMember _
    rw [List.mem_singleton.mp leftMember, List.mem_singleton.mp rightMember]
  wellFormed := by
    intro append member
    rw [List.mem_singleton.mp member]
    exact firstId_wellFormed
  notGenesis := by
    intro append member
    rw [List.mem_singleton.mp member]
    change firstId ≠ genesisSentinel
    decide +kernel
  headerReads := headerReads
  payloadReads := by
    intro append member
    rw [List.mem_singleton.mp member]
    exact payloadReads (.inl rfl)

def headMissing : AuditStores :=
  ⟨.empty, ⟨fun name => if name = firstId then .text (compact "r1") else .missing⟩⟩

theorem second_run :
    Run none [second ⟨false, false⟩, first ⟨false, true⟩]
      ⟨AuditChainStore.empty.write "a" secondId "now",
      ⟨fun name => if name = secondId then .text (compact "r2")
        else headMissing.records.files name⟩⟩ := by
  have prior : headMissing.priorHead "a" = .ok none := rfl
  have built : buildRecord none
      { response "r2" with previousAuditId := priorAuditId none } =
        record "r2" secondId := buildRecord_second
  have appended :
      finalizeAudit none headMissing (response "r2") ⟨false, false⟩ = _ :=
    finalizeAudit_eq prior built secondId_wellFormed
  exact .append (first_run ⟨false, true⟩) appended

theorem ideal_second :
    IdealRecords none [second ⟨false, false⟩, first ⟨false, true⟩] where
  collisionFree := by
    intro left leftMember right rightMember same
    simp only [List.mem_cons, List.not_mem_nil, or_false] at leftMember rightMember
    rcases leftMember with rfl | rfl <;> rcases rightMember with rfl | rfl
    · rfl
    · exact absurd same.symm firstId_ne_secondId
    · exact absurd same firstId_ne_secondId
    · rfl
  wellFormed := by
    intro append member
    rcases List.mem_cons.mp member with rfl | earlier
    · exact secondId_wellFormed
    · exact (ideal_first ⟨false, true⟩).wellFormed append earlier
  notGenesis := by
    intro append member
    rcases List.mem_cons.mp member with rfl | earlier
    · change secondId ≠ genesisSentinel
      decide +kernel
    · exact (ideal_first ⟨false, true⟩).notGenesis append earlier
  headerReads := headerReads
  payloadReads := by
    intro append member
    rcases List.mem_cons.mp member with rfl | earlier
    · exact payloadReads (.inr rfl)
    · exact (ideal_first ⟨false, true⟩).payloadReads append earlier

end ChainSample

section Samples

open ChainSample
open scoped Plain

/-- A run without failures satisfies the whole law. -/
theorem audit_chain_law_first_record :
    ∃ stores, Run none [first ⟨false, false⟩] stores ∧
      HeadReachesGenesis stores "a" ∧ Unforked stores "a" ∧
      HeadCovers stores "a" := by
  have recordAligned :
      NoLoneRecordFailure (headFileName "a") [first ⟨false, false⟩] := by
    simp [NoLoneRecordFailure, first]
  have headAligned :
      NoLoneHeadFailure (headFileName "a") [first ⟨false, false⟩] := by
    simp [NoLoneHeadFailure, first]
  have named : "a" ≠ "" := by decide
  obtain ⟨reaches, unforked, covers⟩ :=
    audit_chain_law (first_run ⟨false, false⟩) (ideal_first _) named
  exact ⟨_, first_run ⟨false, false⟩, reaches recordAligned,
    unforked headAligned, covers recordAligned headAligned⟩

/-- A record write that fails alone leaves a head without a record, and a head
write that fails alone lets the next record fork the chain. -/
theorem audit_chain_law_lone_failures :
    (∃ stores, Run none [first ⟨true, false⟩] stores ∧
      IdealRecords none [first ⟨true, false⟩] ∧
      ¬ HeadReachesGenesis stores "a") ∧
    (∃ stores, Run none [second ⟨false, false⟩, first ⟨false, true⟩] stores ∧
      IdealRecords none [second ⟨false, false⟩, first ⟨false, true⟩] ∧
      ¬ Unforked stores "a") := by
  constructor
  · refine ⟨_, first_run ⟨true, false⟩, ideal_first _, ?_⟩
    intro reaches
    obtain ⟨⟨jws, stored⟩, _⟩ := reaches ⟨firstId, "now"⟩ rfl
    simp [AuditRecordStore.read, safeAuditId_of_isAuditId firstId_wellFormed,
      AuditRecordStore.empty, AuditRecordStore.contentOf] at stored
  · refine ⟨_, second_run, ideal_second, ?_⟩
    intro unforked
    have firstMember : first ⟨false, true⟩ ∈
        [second ⟨false, false⟩, first ⟨false, true⟩] := by simp
    have secondMember : second ⟨false, false⟩ ∈
        [second ⟨false, false⟩, first ⟨false, true⟩] := by simp
    have firstNamed := second_run.namesAgent ideal_second firstMember
    have secondNamed := second_run.namesAgent ideal_second secondMember
    simp only [first, second, response, record] at firstNamed secondNamed
    have firstStored : headMissing.records.files firstId =
        .text (compact "r1") := by
      simp [headMissing]
    have firstPrevious := recordPrevious_buildRecord none (response "r1")
      headerReads (payloadReads (.inl rfl))
    have secondPrevious := recordPrevious_buildRecord none (response "r2")
      headerReads (payloadReads (.inr rfl))
    rw [buildRecord_first] at firstPrevious
    rw [buildRecord_second] at secondPrevious
    refine firstId_ne_secondId (unforked firstId (compact "r1") secondId (compact "r2")
      ?_ firstNamed ?_ secondNamed (firstPrevious.trans secondPrevious.symm))
    · simp [AuditRecordStore.Stored, firstId_ne_secondId, firstStored]
    · simp [AuditRecordStore.Stored]

end Samples

end Agtp.Audit
