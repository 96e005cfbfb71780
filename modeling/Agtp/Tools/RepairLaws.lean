import Agtp.Audit.StandardRecords
import Agtp.Tools.ChainRepair

/-! # Soundness of chain repair

A head is recovered for an agent exactly when its stored records are one chain. -/

namespace Agtp.Tools

open Audit

variable [JsonCodec] [TextOf] [TextCase]

/-! ## The stored records of an agent -/

def StoredFor (store : AuditRecordStore) (agentId auditId : String) : Prop :=
  ∃ jws, store.Stored auditId jws ∧ recordAgent jws = some agentId

def OneChain (store : AuditRecordStore) (agentId tip : String) : Prop :=
  ∃ path, GenesisPath (recordLink store) genesisSentinel tip path ∧
    ∀ auditId, auditId ∈ path ↔ StoredFor store agentId auditId

noncomputable def storedCount (store : AuditRecordStore) (agentId : String) : Nat :=
  {auditId | StoredFor store agentId auditId}.ncard

omit [TextCase] in
theorem StoredFor.unique {store : AuditRecordStore}
    {left right auditId : String} (leftStored : StoredFor store left auditId)
    (rightStored : StoredFor store right auditId) : left = right := by
  obtain ⟨jws, stored, leftNames⟩ := leftStored
  obtain ⟨other, otherStored, rightNames⟩ := rightStored
  rw [RecordFile.text.inj (stored.symm.trans otherStored)] at leftNames
  exact Option.some.inj (leftNames.symm.trans rightNames)

omit [TextCase] in
theorem storedCount_of_path {store : AuditRecordStore} {agentId : String}
    {path : List String} (nodup : path.Nodup)
    (whole : ∀ auditId, auditId ∈ path ↔ StoredFor store agentId auditId) :
    storedCount store agentId = path.length := by
  have same : {auditId | StoredFor store agentId auditId} = ↑path.toFinset := by
    ext auditId
    simp [whole]
  rw [storedCount, same, Set.ncard_coe_finset, List.toFinset_card_of_nodup nodup]

section Recovering

variable {store : AuditRecordStore} {listing : List (String × String)}
  {records : List KeptRecord} {agentId : String}

omit [TextCase] in
theorem mem_idsOf_iff (lists : Lists store listing)
    (kept : keptRecords listing = .ok records) (named : agentId ≠ "")
    (auditId : String) :
    auditId ∈ idsOf records agentId ↔ StoredFor store agentId auditId := by
  simp only [idsOf, ownRecords, List.mem_map, List.mem_filter, decide_eq_true_eq,
    mem_keptRecords kept, lists.stored]
  constructor
  · intro ⟨record, ⟨⟨jws, stored, keeps⟩, sameAgent⟩, sameId⟩
    obtain ⟨_, _, members, held, names, _⟩ := keepRecord_iff.mp keeps
    refine ⟨jws, sameId ▸ stored, ?_⟩
    rw [recordAgent, held, Option.map_some, names, sameAgent]
  · intro ⟨jws, stored, names⟩
    obtain ⟨members, held, names⟩ := Option.map_eq_some_iff.mp names
    refine ⟨⟨auditId, agentId, Json.textOr members "issued_at" "", previousAuditId members⟩,
      ⟨⟨jws, stored, ?_⟩, rfl⟩, rfl⟩
    exact keepRecord_iff.mpr ⟨named, rfl, members, held, names, rfl, rfl⟩

theorem ownLink_eq_recordLink (written : Written store) (lists : Lists store listing)
    (kept : keptRecords listing = .ok records) {auditId : String}
    (own : auditId ∈ idsOf records agentId) :
    ownLink records agentId auditId = recordLink store auditId := by
  obtain ⟨record, ownRecord, sameId⟩ := List.mem_map.mp own
  have distinct := keptRecords_distinct kept lists.distinct
  have linked : ownLink records agentId auditId = some record.previous :=
    (ownLink_eq_some distinct).mpr ⟨record, ownRecord, sameId, rfl⟩
  obtain ⟨jws, listed, keeps⟩ :=
    (mem_keptRecords kept record).mp (List.mem_filter.mp ownRecord).1
  obtain ⟨_, _, members, held, _, _, previous⟩ := keepRecord_iff.mp keeps
  have stored := (lists.stored _ _).mp listed
  rw [sameId] at stored
  rw [linked, recordLink, read_stored (written.isAuditId stored) stored]
  simp only [recordPrevious_eq, held, Option.map_some, previous]

/-- A head is recovered for an agent exactly when its stored records are one
chain. -/
theorem recovered_iff (written : Written store) (lists : Lists store listing)
    (kept : keptRecords listing = .ok records) (named : agentId ≠ "")
    {tip : String} :
    (∃ atIso, recoverableHead records agentId = some ⟨agentId, tip, atIso⟩) ↔
      OneChain store agentId tip := by
  have distinct := keptRecords_distinct kept lists.distinct
  have stored := mem_idsOf_iff lists kept named
  constructor
  · intro ⟨atIso, recovered⟩
    obtain ⟨⟨path, walk, whole⟩, _⟩ := (recoverableHead_iff distinct).mp recovered
    refine ⟨path, walk.congr ?_, fun auditId => (whole auditId).trans (stored auditId)⟩
    intro visited member
    exact (ownLink_eq_recordLink written lists kept ((whole visited).mp member)).symm
  · intro ⟨path, walk, whole⟩
    have own : ∀ auditId, auditId ∈ path ↔ auditId ∈ idsOf records agentId :=
      fun auditId => (whole auditId).trans (stored auditId).symm
    have ownWalk : GenesisPath (ownLink records agentId) genesisSentinel tip path := by
      refine walk.congr ?_
      intro visited member
      exact ownLink_eq_recordLink written lists kept ((own visited).mp member)
    obtain ⟨record, ownRecord, sameId⟩ := List.mem_map.mp ((own tip).mp walk.head_mem)
    have found := findRecord_of_mem distinct (List.mem_filter.mp ownRecord).1
    rw [sameId] at found
    exact ⟨record.issuedAt,
      (recoverableHead_iff distinct).mpr ⟨⟨path, ownWalk, own⟩, record, found, rfl⟩⟩

end Recovering

/-! ## Agents in order -/

section Agents

variable {records : List KeptRecord}

omit [JsonCodec] [TextOf] [TextCase] in
theorem mem_agentsOf {agentId : String} :
    agentId ∈ agentsOf records ↔ ∃ record ∈ records, record.agentId = agentId := by
  induction records with
  | nil => simp [agentsOf]
  | cons record rest induction =>
      simp only [agentsOf, List.mem_cons, List.mem_filter, induction, decide_eq_true_eq,
        exists_eq_or_imp]
      by_cases here : record.agentId = agentId
      · simp [here]
      · simp [here, Ne.symm here]

omit [JsonCodec] [TextOf] [TextCase] in
theorem nodup_agentsOf : (agentsOf records).Nodup := by
  induction records with
  | nil => exact List.nodup_nil
  | cons record rest induction =>
      rw [agentsOf, List.nodup_cons]
      exact ⟨by simp, induction.filter _⟩

end Agents

/-! ## The discovered heads -/

section Discovered

variable {store : AuditRecordStore} {listing : List (String × String)}
  {records : List KeptRecord}

def discovered (records : List KeptRecord) : List RecoverableHead :=
  (agentsOf records).filterMap (recoverableHead records)

omit [JsonCodec] [TextOf] [TextCase] in
theorem recoverableHead_agentId {agentId : String} {head : RecoverableHead}
    (recovered : recoverableHead records agentId = some head) :
    head.agentId = agentId := by
  unfold recoverableHead at recovered
  split at recovered
  · split at recovered
    simp only [Option.ite_none_right_eq_some, Option.map_eq_some_iff] at recovered
    obtain ⟨_, record, _, same⟩ := recovered
    rw [← same]
  · cases recovered

omit [JsonCodec] [TextOf] [TextCase] in
theorem nodup_discovered (records : List KeptRecord) :
    ((discovered records).map (·.agentId)).Nodup := by
  have ordered (agents : List String) :
      ((agents.filterMap (recoverableHead records)).map (·.agentId)).Sublist agents := by
    induction agents with
    | nil => exact List.Sublist.refl _
    | cons agentId rest induction =>
        cases recovered : recoverableHead records agentId with
        | none =>
            rw [List.filterMap_cons_none recovered]
            exact induction.cons agentId
        | some head =>
            rw [List.filterMap_cons_some recovered, List.map_cons,
              recoverableHead_agentId recovered]
            exact induction.cons_cons agentId
  exact nodup_agentsOf.sublist (ordered (agentsOf records))

omit [TextCase] in
theorem named_of_mem_agentsOf (kept : keptRecords listing = .ok records)
    {agentId : String} (member : agentId ∈ agentsOf records) : agentId ≠ "" := by
  obtain ⟨record, held, same⟩ := mem_agentsOf.mp member
  obtain ⟨jws, _, keeps⟩ := (mem_keptRecords kept record).mp held
  rw [← same]
  exact (keepRecord_iff.mp keeps).1

theorem chain_of_discovered (written : Written store) (lists : Lists store listing)
    (kept : keptRecords listing = .ok records) {head : RecoverableHead}
    (member : head ∈ discovered records) :
    head.agentId ≠ "" ∧ OneChain store head.agentId head.auditId := by
  obtain ⟨agentId, isAgent, recovered⟩ := List.mem_filterMap.mp member
  have same := recoverableHead_agentId recovered
  have named := named_of_mem_agentsOf kept isAgent
  rw [← same] at recovered named
  exact ⟨named, (recovered_iff written lists kept named).mp ⟨head.atIso, recovered⟩⟩

theorem discovered_of_chain (written : Written store) (lists : Lists store listing)
    (kept : keptRecords listing = .ok records) {agentId tip : String}
    (named : agentId ≠ "") (chain : OneChain store agentId tip) :
    ∃ atIso, ⟨agentId, tip, atIso⟩ ∈ discovered records := by
  obtain ⟨atIso, recovered⟩ := (recovered_iff written lists kept named).mpr chain
  obtain ⟨path, walk, whole⟩ := chain
  have own := (mem_idsOf_iff lists kept named tip).mpr ((whole tip).mp walk.head_mem)
  obtain ⟨record, ownRecord, _⟩ := List.mem_map.mp own
  obtain ⟨held, sameAgent⟩ := List.mem_filter.mp ownRecord
  have isAgent : agentId ∈ agentsOf records :=
    mem_agentsOf.mpr ⟨record, held, by simpa using sameAgent⟩
  exact ⟨atIso, List.mem_filterMap.mpr ⟨agentId, isAgent, recovered⟩⟩

end Discovered

/-! ## Writing the heads -/

section Repairing

variable {writeFails : String → Bool} {file : String}

omit [JsonCodec] [TextOf] [TextCase] in
theorem repairFrom_keeps {heads : List RecoverableHead} {run : RepairRun}
    (others : ∀ head ∈ heads, headFileName head.agentId ≠ file) :
    (repairFrom writeFails heads run).heads.files file = run.heads.files file := by
  induction heads generalizing run with
  | nil => rfl
  | cons head rest induction =>
      have restOthers : ∀ later ∈ rest, headFileName later.agentId ≠ file :=
        fun later member => others later (List.mem_cons_of_mem _ member)
      unfold repairFrom
      split
      · rfl
      · split
        · exact induction restOthers
        · split
          · rfl
          · rw [induction restOthers]
            exact AuditChainStore.write_files_other
              (Ne.symm (others head List.mem_cons_self)) _ _ _

omit [JsonCodec] [TextOf] [TextCase] in
theorem repairFrom_written {heads : List RecoverableHead} {run : RepairRun}
    {agentId : String} (named : agentId ≠ "")
    (distinct : (heads.map (·.agentId)).Nodup)
    (alone : ∀ head ∈ heads, head.agentId ≠ agentId →
      headFileName head.agentId ≠ headFileName agentId)
    (unwritten : agentId ∉ run.repaired.map Prod.fst)
    (repaired : agentId ∈ (repairFrom writeFails heads run).repaired.map Prod.fst) :
    ∃ head ∈ heads, head.agentId = agentId ∧
      (repairFrom writeFails heads run).heads.files (headFileName agentId) =
        .json (AuditChainStore.headJson head.auditId head.atIso) := by
  induction heads generalizing run with
  | nil => exact absurd repaired unwritten
  | cons head rest induction =>
      obtain ⟨fresh, restDistinct⟩ := List.nodup_cons.mp distinct
      have restAlone : ∀ later ∈ rest, later.agentId ≠ agentId →
          headFileName later.agentId ≠ headFileName agentId :=
        fun later member => alone later (List.mem_cons_of_mem _ member)
      rw [repairFrom] at repaired ⊢
      cases read : run.heads.head head.agentId with
      | error =>
          rw [read] at repaired
          exact absurd repaired unwritten
      | ok current =>
          simp only [read] at repaired ⊢
          by_cases same : current.map (·.auditId) = some head.auditId
          · rw [if_pos same] at repaired ⊢
            obtain ⟨found, member, here, content⟩ :=
              induction restDistinct restAlone unwritten repaired
            exact ⟨found, List.mem_cons_of_mem _ member, here, content⟩
          · rw [if_neg same] at repaired ⊢
            by_cases fails : writeFails head.agentId = true
            · rw [if_pos fails] at repaired
              exact absurd repaired unwritten
            · rw [if_neg fails] at repaired ⊢
              by_cases here : head.agentId = agentId
              · refine ⟨head, List.mem_cons_self, here, ?_⟩
                rw [repairFrom_keeps, here]
                · exact AuditChainStore.write_files_same named _ _ _
                · intro later member
                  apply restAlone later member
                  intro again
                  exact fresh (List.mem_map.mpr ⟨later, member, again.trans here.symm⟩)
              · have stillUnwritten : agentId ∉
                    (run.repaired ++ [(head.agentId, head.auditId)]).map Prod.fst := by
                  rw [List.map_append, List.mem_append, not_or]
                  exact ⟨unwritten, by simpa using Ne.symm here⟩
                obtain ⟨found, member, same, content⟩ :=
                  induction restDistinct restAlone stillUnwritten repaired
                exact ⟨found, List.mem_cons_of_mem _ member, same, content⟩

omit [JsonCodec] [TextOf] [TextCase] in
theorem repairFrom_repaired {heads : List RecoverableHead} {run : RepairRun}
    {entry : String × String} (repaired : entry ∈ run.repaired) :
    entry ∈ (repairFrom writeFails heads run).repaired := by
  induction heads generalizing run with
  | nil => exact repaired
  | cons head rest induction =>
      unfold repairFrom
      split
      · exact repaired
      · split
        · exact induction repaired
        · split
          · exact repaired
          · exact induction (List.mem_append_left _ repaired)

omit [JsonCodec] [TextOf] [TextCase] in
/-- When nothing fails, a head file ends up with the head of one of the agents
that share it. -/
theorem repairFrom_settles {heads : List RecoverableHead} (run : RepairRun)
    (named : ∀ head ∈ heads, head.agentId ≠ "")
    (readable : ∀ name, ∃ current,
      AuditChainStore.headOf (run.heads.files name) = .ok current)
    (touched : ∃ head ∈ heads, headFileName head.agentId = file) :
    ∃ head ∈ heads, headFileName head.agentId = file ∧
      ∃ atIso, AuditChainStore.headOf
          ((repairFrom (fun _ => false) heads run).heads.files file) =
        .ok (some ⟨head.auditId, atIso⟩) := by
  induction heads generalizing run with
  | nil =>
      obtain ⟨head, member, _⟩ := touched
      cases member
  | cons head rest induction =>
      have restNamed : ∀ later ∈ rest, later.agentId ≠ "" :=
        fun later member => named later (List.mem_cons_of_mem _ member)
      obtain ⟨current, read⟩ := readable (headFileName head.agentId)
      have headRead : run.heads.head head.agentId = .ok current := read
      rw [repairFrom, headRead]
      simp only [Bool.false_eq_true, if_false]
      by_cases later : ∃ later ∈ rest, headFileName later.agentId = file
      · split
        · obtain ⟨found, member, content⟩ := induction run restNamed readable later
          exact ⟨found, List.mem_cons_of_mem _ member, content⟩
        · let next : RepairRun :=
            { run with
              heads := run.heads.write head.agentId head.auditId head.atIso
              repaired := run.repaired ++ [(head.agentId, head.auditId)] }
          have nextReadable : ∀ name, ∃ current,
              AuditChainStore.headOf (next.heads.files name) = .ok current := by
            intro name
            change ∃ current, AuditChainStore.headOf
              ((run.heads.write head.agentId head.auditId head.atIso).files name) =
                .ok current
            by_cases here : name = headFileName head.agentId
            · rw [here, AuditChainStore.write_files_same (named head List.mem_cons_self)]
              exact ⟨_, AuditChainStore.headOf_headJson _ _⟩
            · rw [AuditChainStore.write_files_other here]
              exact readable name
          obtain ⟨found, member, content⟩ := induction next restNamed nextReadable later
          exact ⟨found, List.mem_cons_of_mem _ member, content⟩
      · have untouched : ∀ later ∈ rest, headFileName later.agentId ≠ file :=
          fun next member same => later ⟨next, member, same⟩
        have here : headFileName head.agentId = file := by
          obtain ⟨found, member, same⟩ := touched
          rcases List.mem_cons.mp member with isHead | inRest
          · rw [← isHead]
            exact same
          · exact absurd same (untouched found inRest)
        refine ⟨head, List.mem_cons_self, here, ?_⟩
        split
        · next same =>
            obtain ⟨held, isHeld, sameId⟩ := Option.map_eq_some_iff.mp same
            rw [repairFrom_keeps untouched, ← here, read, isHeld]
            exact ⟨held.atIso, by rw [← sameId]⟩
        · rw [repairFrom_keeps untouched, ← here,
            AuditChainStore.write_files_same (named head List.mem_cons_self)]
          exact ⟨head.atIso, AuditChainStore.headOf_headJson _ _⟩

end Repairing

/-! ## Sound repairs -/

section Soundness

variable (PublicKey : Type) [SignatureScheme PublicKey]

/-- The chain of the agent is unbroken, reaches genesis, and its walk visits
every stored record of the agent. -/
def WalksEverything (stores : AuditStores) (agentId : String) : Prop :=
  ∃ head report, stores.heads.head agentId = .ok (some head) ∧
    walkChain agentId stores (none : Option PublicKey) = .ok report ∧
    report.broken = false ∧ report.reachedGenesis = true ∧
    report.recordsWalked = storedCount stores.records agentId ∧
    ∀ auditId, StoredFor stores.records agentId auditId →
      Walked stores.records head.auditId auditId

/-- Whatever the heads, the directory order and the writes that fail: an agent
whose head is written has a complete chain, and an agent whose records are no
chain keeps its head file. -/
def RepairSound (store : AuditRecordStore) : Prop :=
  ∀ writeFails heads listing, Lists store listing →
    ∀ agentId, agentId ≠ "" → (∃ auditId, StoredFor store agentId auditId) →
      (storedCount store agentId < maxWalkDepth →
        agentId ∈ (repairHeads writeFails heads listing).repaired.map Prod.fst →
        WalksEverything PublicKey
          ⟨(repairHeads writeFails heads listing).heads, store⟩ agentId) ∧
      ((∀ tip, ¬ OneChain store agentId tip) →
        (repairHeads writeFails heads listing).heads.files (headFileName agentId) =
          heads.files (headFileName agentId))

def ObjectPayloads (store : AuditRecordStore) : Prop :=
  ∀ auditId jws record, store.Stored auditId jws →
    parseAttributionRecord jws = .ok record →
    ∃ members, record.payload = .object members

/-- An agent that shares its head file with another one whose records are one
chain has too many records of its own to be walked, in one chain as well. -/
def SeparateHeads (store : AuditRecordStore) : Prop :=
  ∀ left right, left ≠ "" → right ≠ "" → left ≠ right →
    headFileName left = headFileName right →
    (∃ auditId, StoredFor store left auditId) →
    (∃ tip, OneChain store right tip) →
    (∃ tip, OneChain store left tip) ∧ maxWalkDepth ≤ storedCount store left

variable {PublicKey} {store : AuditRecordStore} {listing : List (String × String)}

omit [TextCase] in
theorem keepRecord_ok_iff {auditId jws : String} :
    (∃ held, keepRecord auditId jws = .ok held) ↔
      ∀ record, parseAttributionRecord jws = .ok record →
        ∃ members, record.payload = .object members := by
  unfold keepRecord
  cases parseAttributionRecord jws with
  | error => simp
  | ok record =>
      cases payload : record.payload with
      | object members =>
          simp only [payload, Except.ok.injEq, forall_eq', Json.object.injEq, exists_eq',
            iff_true]
          split
          · exact ⟨_, rfl⟩
          · exact ⟨_, rfl⟩
      | _ => simp [payload]

omit [TextCase] in
theorem keptRecords_ok_iff :
    (∃ records, keptRecords listing = .ok records) ↔
      ∀ entry ∈ listing, ∃ held, keepRecord entry.1 entry.2 = .ok held := by
  induction listing with
  | nil => simp [keptRecords]
  | cons entry rest induction =>
      rw [List.forall_mem_cons, ← induction, keptRecords]
      cases keepRecord entry.1 entry.2 with
      | error => simp
      | ok held =>
          cases held with
          | none => simp
          | some record => cases keptRecords rest <;> simp

omit [TextCase] in
theorem kept_iff_objectPayloads (lists : Lists store listing) :
    (∃ records, keptRecords listing = .ok records) ↔ ObjectPayloads store := by
  simp only [keptRecords_ok_iff, keepRecord_ok_iff, Prod.forall, lists.stored, ObjectPayloads]
  constructor
  · intro objects auditId jws record stored parses
    exact objects auditId jws stored record parses
  · intro objects auditId jws stored record parses
    exact objects auditId jws record stored parses

omit [TextCase] in
theorem repairHeads_of_kept {writeFails : String → Bool} {heads : AuditChainStore}
    {records : List KeptRecord} (kept : keptRecords listing = .ok records) :
    repairHeads writeFails heads listing =
      repairFrom writeFails (discovered records) ⟨heads, [], false⟩ := by
  simp [repairHeads, discoverRecoverableHeads, kept, discovered]

omit [TextCase] in
theorem repairHeads_of_raise {writeFails : String → Bool} {heads : AuditChainStore}
    (raises : ¬ ∃ records, keptRecords listing = .ok records) :
    repairHeads writeFails heads listing = ⟨heads, [], true⟩ := by
  cases kept : keptRecords listing with
  | error => simp [repairHeads, discoverRecoverableHeads, kept]
  | ok records => exact absurd ⟨records, kept⟩ raises

theorem walksEverything_of_chain {stores : AuditStores} {agentId tip atIso : String}
    (head : stores.heads.head agentId = .ok (some ⟨tip, atIso⟩))
    (chain : OneChain stores.records agentId tip)
    (fits : storedCount stores.records agentId ≤ maxWalkDepth) :
    WalksEverything PublicKey stores agentId := by
  obtain ⟨path, walk, whole⟩ := chain
  have counted := storedCount_of_path walk.nodup whole
  rw [counted] at fits
  refine ⟨_, _, head, walkChain_of_path head walk fits, rfl, rfl, counted.symm, ?_⟩
  intro auditId stored
  exact walked_of_mem .head walk ((whole auditId).mpr stored)

/-- A head file that names the tip of another agent's chain does not lead to
the records of this one. -/
theorem not_walksEverything_of_other {stores : AuditStores}
    {agentId otherId tip atIso : String} (different : otherId ≠ agentId)
    (head : stores.heads.head agentId = .ok (some ⟨tip, atIso⟩))
    (chain : OneChain stores.records otherId tip)
    (stored : ∃ auditId, StoredFor stores.records agentId auditId) :
    ¬ WalksEverything PublicKey stores agentId := by
  intro ⟨found, report, read, _, _, _, _, visits⟩
  have same := Option.some.inj (Except.ok.inj (head.symm.trans read))
  obtain ⟨path, walk, whole⟩ := chain
  obtain ⟨auditId, held⟩ := stored
  have reached := visits auditId held
  rw [← same] at reached
  have otherHeld := (whole auditId).mp (reached.mem walk)
  exact different (otherHeld.unique held)

theorem repairSound_of_separate (written : Written store)
    (separate : ObjectPayloads store → SeparateHeads store) :
    RepairSound PublicKey store := by
  intro writeFails heads listing lists agentId named stored
  by_cases objects : ∃ records, keptRecords listing = .ok records
  · have apart := separate ((kept_iff_objectPayloads lists).mp objects)
    obtain ⟨records, kept⟩ := objects
    rw [repairHeads_of_kept kept]
    constructor
    · intro short repaired
      have alone : ∀ head ∈ discovered records, head.agentId ≠ agentId →
          headFileName head.agentId ≠ headFileName agentId := by
        intro head member different shared
        obtain ⟨headNamed, chain⟩ := chain_of_discovered written lists kept member
        have long := (apart agentId head.agentId named headNamed (Ne.symm different)
          shared.symm stored ⟨_, chain⟩).2
        omega
      obtain ⟨head, member, same, content⟩ :=
        repairFrom_written named (nodup_discovered _) alone (by simp) repaired
      obtain ⟨_, chain⟩ := chain_of_discovered written lists kept member
      rw [same] at chain
      have read : AuditChainStore.head
          (repairFrom writeFails (discovered records) ⟨heads, [], false⟩).heads agentId =
            .ok (some ⟨head.auditId, head.atIso⟩) := by
        rw [AuditChainStore.head, content]
        exact AuditChainStore.headOf_headJson _ _
      exact walksEverything_of_chain read chain (Nat.le_of_lt short)
    · intro noChain
      apply repairFrom_keeps
      intro head member shared
      obtain ⟨headNamed, chain⟩ := chain_of_discovered written lists kept member
      by_cases same : head.agentId = agentId
      · rw [same] at chain
        exact noChain _ chain
      · obtain ⟨⟨tip, ownChain⟩, _⟩ := apart agentId head.agentId named headNamed
          (Ne.symm same) shared.symm stored ⟨_, chain⟩
        exact noChain tip ownChain
  · rw [repairHeads_of_raise objects]
    exact ⟨fun _ repaired => absurd repaired (by simp), fun _ => rfl⟩

omit [TextOf] in
omit [JsonCodec] [TextCase] in
theorem Lists.first (lists : Lists store listing) {auditId jws : String}
    (stored : store.Stored auditId jws) :
    ∃ rest, Lists store ((auditId, jws) :: rest) := by
  refine ⟨listing.filter fun entry => entry.1 ≠ auditId, ?_⟩
  have same : store =
      ⟨fun name => if name = auditId then .text jws else store.files name⟩ := by
    obtain ⟨files⟩ := store
    congr
    funext name
    split
    · next here =>
        rw [here]
        exact stored
    · rfl
  rw [same]
  apply lists.set auditId (.text jws) [(auditId, jws)]
  · intro name content
    rw [List.mem_singleton, Prod.mk.injEq, RecordFile.text.injEq]
    exact and_congr_right fun _ => eq_comm
  · exact List.nodup_singleton auditId

omit [TextCase] in
theorem discovered_first {auditId jws agentId : String} {rest : List (String × String)}
    {records : List KeptRecord}
    (kept : keptRecords ((auditId, jws) :: rest) = .ok records)
    (names : recordAgent jws = some agentId) (named : agentId ≠ "")
    {head : RecoverableHead} (member : head ∈ discovered records)
    (own : head.agentId = agentId) :
    ∃ later, discovered records = head :: later ∧
      ∀ next ∈ later, next.agentId ≠ agentId := by
  obtain ⟨members, held, names⟩ := Option.map_eq_some_iff.mp names
  have keeps : keepRecord auditId jws = .ok (some ⟨auditId, agentId,
      Json.textOr members "issued_at" "", previousAuditId members⟩) :=
    keepRecord_iff.mpr ⟨named, rfl, members, held, names, rfl, rfl⟩
  simp only [keptRecords, keeps] at kept
  cases tailKept : keptRecords rest with
  | error => simp [tailKept] at kept
  | ok tail =>
      simp only [tailKept, Except.ok.injEq] at kept
      subst kept
      obtain ⟨first, isAgent, recovered⟩ := List.mem_filterMap.mp member
      have sameAgent := (recoverableHead_agentId recovered).symm.trans own
      rw [sameAgent] at recovered
      have distinct := nodup_discovered (⟨auditId, agentId,
        Json.textOr members "issued_at" "", previousAuditId members⟩ :: tail)
      rw [discovered, agentsOf, List.filterMap_cons_some recovered] at distinct ⊢
      refine ⟨_, rfl, ?_⟩
      intro next later same
      exact (List.nodup_cons.mp distinct).1
        (List.mem_map.mpr ⟨next, later, same.trans own.symm⟩)

/-- A sound repair needs separate heads: the empty head store and a directory
that lists the agent's own record first show any other store unsound. -/
theorem separate_of_repairSound (written : Written store)
    (sound : RepairSound PublicKey store) (objects : ObjectPayloads store) :
    SeparateHeads store := by
  intro left right leftNamed rightNamed different shared ⟨auditId, stored⟩ ⟨rightTip, chain⟩
  obtain ⟨jws, leftStored, leftNames⟩ := stored
  obtain ⟨listing, lists⟩ := written.listed
  obtain ⟨rest, lists⟩ := lists.first leftStored
  obtain ⟨records, kept⟩ := (kept_iff_objectPayloads lists).mpr objects
  obtain ⟨rightTime, rightMember⟩ := discovered_of_chain written lists kept rightNamed chain
  obtain ⟨walks, keeps⟩ := sound (fun _ => false) .empty _ lists left leftNamed
    ⟨auditId, jws, leftStored, leftNames⟩
  rw [repairHeads_of_kept kept] at walks keeps
  have missing : ∀ name, AuditChainStore.headOf (AuditChainStore.empty.files name) =
      .ok none := fun _ => rfl
  have headsNamed : ∀ head ∈ discovered records, head.agentId ≠ "" :=
    fun head member => (chain_of_discovered written lists kept member).1
  have hasChain : ∃ tip, OneChain store left tip := by
    by_contra noChain
    obtain ⟨_, _, _, _, content⟩ := repairFrom_settles ⟨.empty, [], false⟩ headsNamed
      (fun name => ⟨_, missing name⟩) ⟨_, rightMember, shared.symm⟩
    rw [keeps fun tip isTip => noChain ⟨tip, isTip⟩, missing] at content
    cases content
  refine ⟨hasChain, ?_⟩
  obtain ⟨leftTip, leftChain⟩ := hasChain
  obtain ⟨leftTime, leftMember⟩ := discovered_of_chain written lists kept leftNamed leftChain
  obtain ⟨later, whole, others⟩ := discovered_first kept leftNames leftNamed leftMember rfl
  have rightLater : ⟨right, rightTip, rightTime⟩ ∈ later := by
    rw [whole] at rightMember
    refine (List.mem_cons.mp rightMember).resolve_left ?_
    intro same
    exact different (congrArg RecoverableHead.agentId same).symm
  let run : RepairRun :=
    ⟨AuditChainStore.empty.write left leftTip leftTime, [(left, leftTip)], false⟩
  have firstRead : AuditChainStore.empty.head left = .ok none := rfl
  have firstWritten : repairFrom (fun _ => false) (discovered records)
      ⟨.empty, [], false⟩ = repairFrom (fun _ => false) later run := by
    simp [whole, repairFrom, firstRead, run]
  rw [firstWritten] at walks
  by_contra short
  have walksLeft := walks (Nat.lt_of_not_le short)
    (List.mem_map.mpr ⟨_, repairFrom_repaired List.mem_cons_self, rfl⟩)
  have readable : ∀ name, ∃ current,
      AuditChainStore.headOf (run.heads.files name) = .ok current := by
    intro name
    change ∃ current, AuditChainStore.headOf
      ((AuditChainStore.empty.write left leftTip leftTime).files name) = .ok current
    by_cases here : name = headFileName left
    · rw [here, AuditChainStore.write_files_same leftNamed]
      exact ⟨_, AuditChainStore.headOf_headJson _ _⟩
    · rw [AuditChainStore.write_files_other here]
      exact ⟨_, missing name⟩
  have laterMember : ∀ head ∈ later, head ∈ discovered records := by
    intro head member
    rw [whole]
    exact List.mem_cons_of_mem _ member
  obtain ⟨other, otherLater, _, atIso, content⟩ := repairFrom_settles run
    (fun head member => headsNamed head (laterMember head member)) readable
    ⟨_, rightLater, shared.symm⟩
  have read : AuditChainStore.head (repairFrom (fun _ => false) later run).heads left =
      .ok (some ⟨other.auditId, atIso⟩) := content
  exact not_walksEverything_of_other (others other otherLater) read
    (chain_of_discovered written lists kept (laterMember other otherLater)).2
    ⟨auditId, jws, leftStored, leftNames⟩ walksLeft

/-- Repairs of a record store are sound exactly when no agent whose records are
one chain shares its head file with another agent, unless a payload that is not
an object keeps every repair from writing. -/
theorem repair_sound_iff (written : Written store) :
    RepairSound PublicKey store ↔ (ObjectPayloads store → SeparateHeads store) :=
  ⟨separate_of_repairSound written, repairSound_of_separate written⟩

end Soundness

end Agtp.Tools

/-! ## Two agents with one head file -/

namespace Agtp.Tools.RepairSamples

open Audit
open scoped Plain StandardJson

/-- A key that verifies no signature. -/
local instance : SignatureScheme Unit := ⟨fun _ _ _ => false⟩

/-- The digest does not matter here. -/
local instance : Digest := ⟨fun _ => ""⟩

def fields (agentId : String) : RecordFields :=
  ⟨agentId, "", "", "", "", "", "", "", "now", 200, "", []⟩

def firstJws (agentId : String) : String := (buildRecord none (fields agentId)).jws

theorem payloadReads (agentId : String) : ReadsBack (fields agentId).payload := by
  have status : JsonText.firstExcess StandardJson.usualLimits 1 (.int 200) = none := by
    decide +kernel
  exact payload_readsBack (.object List.nodup_nil (by simp [fields])) rfl status

theorem recordPrevious_first (agentId : String) :
    recordPrevious (firstJws agentId) = some genesisSentinel :=
  recordPrevious_buildRecord none (fields agentId) (recordHeader_readsBack none)
    (payloadReads agentId)

theorem recordMembers_first (agentId : String) :
    ∃ members, recordMembers (firstJws agentId) = some members ∧
      Json.member members "agent_id" = some (.string agentId) := by
  obtain ⟨⟨header, payload, signature, input⟩, members, parses, isObject, agent⟩ :=
    namesAgent_buildRecord none (fields agentId) (recordHeader_readsBack none)
      (payloadReads agentId)
  subst isObject
  refine ⟨members, ?_, agent⟩
  unfold recordMembers firstJws
  rw [parses]

theorem recordAgent_first {agentId : String} (named : agentId ≠ "") :
    recordAgent (firstJws agentId) = some agentId := by
  obtain ⟨members, held, agent⟩ := recordMembers_first agentId
  rw [recordAgent, held]
  simp [Json.textOr, agent, Json.truthy, Json.str, named]

def ownId : String := String.ofList (List.replicate 64 '1')

def otherId : String := String.ofList (List.replicate 64 '2')

theorem ownId_wellFormed : isAuditId ownId := by decide +kernel

theorem otherId_wellFormed : isAuditId otherId := by decide +kernel

def loneStore : AuditRecordStore :=
  ⟨fun name => if name = ownId then .text (firstJws "a") else .missing⟩

def sharedStore : AuditRecordStore :=
  ⟨fun name => if name = otherId then .text (firstJws "a/") else loneStore.files name⟩

theorem written_lone : Written loneStore := by
  have writing : AuditRecordStore.empty.write ownId (firstJws "a") = .ok loneStore := by
    rw [AuditRecordStore.write, safeAuditId_of_isAuditId ownId_wellFormed]
    rfl
  exact .write .empty writing

theorem written_shared : Written sharedStore := by
  have writing : loneStore.write otherId (firstJws "a/") = .ok sharedStore := by
    rw [AuditRecordStore.write, safeAuditId_of_isAuditId otherId_wellFormed]
    rfl
  exact .write written_lone writing

theorem stored_lone {auditId jws : String} :
    loneStore.Stored auditId jws ↔ auditId = ownId ∧ firstJws "a" = jws := by
  unfold AuditRecordStore.Stored loneStore
  by_cases here : auditId = ownId
  · simp [here]
  · simp [here]

theorem storedFor_lone {agentId auditId : String} :
    StoredFor loneStore agentId auditId ↔ auditId = ownId ∧ "a" = agentId := by
  have named : "a" ≠ "" := by decide
  have names := recordAgent_first named
  simp only [StoredFor, stored_lone]
  constructor
  · intro ⟨jws, ⟨here, same⟩, agent⟩
    rw [← same, names] at agent
    exact ⟨here, Option.some.inj agent⟩
  · intro ⟨here, agent⟩
    rw [← agent]
    exact ⟨_, ⟨here, rfl⟩, names⟩

/-- With one agent in the store there is no head to share. -/
theorem lone_sound : RepairSound Unit loneStore := by
  refine (repair_sound_iff written_lone).mpr ?_
  intro _ left right _ _ different _ ⟨auditId, leftStored⟩ ⟨tip, path, walk, whole⟩
  have leftIs := (storedFor_lone.mp leftStored).2
  have rightIs := (storedFor_lone.mp ((whole tip).mp walk.head_mem)).2
  exact absurd (leftIs.symm.trans rightIs) different

theorem stored_shared {auditId jws : String} :
    sharedStore.Stored auditId jws ↔
      auditId = otherId ∧ firstJws "a/" = jws ∨ auditId = ownId ∧ firstJws "a" = jws := by
  have distinct : ownId ≠ otherId := by decide +kernel
  rw [← stored_lone]
  unfold AuditRecordStore.Stored sharedStore
  by_cases here : auditId = otherId
  · simp [here, loneStore, Ne.symm distinct]
  · simp [here]

theorem storedFor_shared {agentId auditId : String} :
    StoredFor sharedStore agentId auditId ↔
      auditId = otherId ∧ "a/" = agentId ∨ auditId = ownId ∧ "a" = agentId := by
  have named : "a" ≠ "" := by decide
  have names := recordAgent_first named
  have otherNamed : "a/" ≠ "" := by decide
  have otherNames := recordAgent_first otherNamed
  simp only [StoredFor, stored_shared]
  constructor
  · intro ⟨jws, held, agent⟩
    rcases held with ⟨here, same⟩ | ⟨here, same⟩
    · rw [← same, otherNames] at agent
      exact .inl ⟨here, Option.some.inj agent⟩
    · rw [← same, names] at agent
      exact .inr ⟨here, Option.some.inj agent⟩
  · intro held
    rcases held with ⟨here, agent⟩ | ⟨here, agent⟩
    · rw [← agent]
      exact ⟨_, .inl ⟨here, rfl⟩, otherNames⟩
    · rw [← agent]
      exact ⟨_, .inr ⟨here, rfl⟩, names⟩

theorem recordLink_shared {agentId auditId : String}
    (stored : sharedStore.Stored auditId (firstJws agentId)) :
    recordLink sharedStore auditId = some genesisSentinel := by
  rw [recordLink, read_stored (written_shared.isAuditId stored) stored]
  exact recordPrevious_first agentId

/-- The repair writes a head for `a` and one for `a/`, to the same file. -/
theorem heads_overwritten : Written sharedStore ∧ ¬ RepairSound Unit sharedStore := by
  refine ⟨written_shared, fun sound => ?_⟩
  have objects : ObjectPayloads sharedStore := by
    intro auditId jws record stored parses
    have isFirst : ∃ agentId, firstJws agentId = jws := by
      rcases stored_shared.mp stored with ⟨_, same⟩ | ⟨_, same⟩
      · exact ⟨_, same⟩
      · exact ⟨_, same⟩
    obtain ⟨agentId, isFirst⟩ := isFirst
    obtain ⟨members, held, _⟩ := recordMembers_first agentId
    rw [isFirst] at held
    unfold recordMembers at held
    rw [parses] at held
    obtain ⟨header, payload, signature, input⟩ := record
    cases payload with
    | object members => exact ⟨members, rfl⟩
    | _ => cases held
  have distinct : ownId ≠ otherId := by decide +kernel
  have otherStored : sharedStore.Stored otherId (firstJws "a/") :=
    stored_shared.mpr (.inl ⟨rfl, rfl⟩)
  have ownStored : StoredFor sharedStore "a" ownId := storedFor_shared.mpr (.inr ⟨rfl, rfl⟩)
  have otherChain : OneChain sharedStore "a/" otherId := by
    refine ⟨[otherId], .last (recordLink_shared otherStored), ?_⟩
    intro auditId
    rw [storedFor_shared, List.mem_singleton]
    simp
  have shared : headFileName "a" = headFileName "a/" := by decide +kernel
  have long := (separate_of_repairSound written_shared sound objects "a" "a/" (by decide)
    (by decide) (by decide) shared ⟨ownId, ownStored⟩ ⟨otherId, otherChain⟩).2
  have single : storedCount sharedStore "a" = [ownId].length := by
    apply storedCount_of_path (List.nodup_singleton ownId)
    intro auditId
    rw [storedFor_shared, List.mem_singleton]
    simp
  rw [single, maxWalkDepth] at long
  simp at long

end Agtp.Tools.RepairSamples
