import Agtp.Audit.ChainLaw

/-! # Extending a chain

When an append extends the chain of an agent: it names the agent, follows its last record and
becomes its head. -/

namespace Agtp.Audit

def Append.Writes (append : Append) : Prop :=
  append.failures = ⟨false, false⟩

instance (append : Append) (file : String) : Decidable (append.OnFile file) :=
  inferInstanceAs (Decidable (_ ∧ _))

def newestOn (file : String) (appends : List Append) : Option Append :=
  appends.find? fun append => append.OnFile file

def newestBy (agentId : String) (appends : List Append) : Option Append :=
  appends.find? fun append => append.response.agentId = agentId

def lastAuditId (agentId : String) (appends : List Append) : String :=
  match newestBy agentId appends with
  | some append => append.record.auditId
  | none => genesisSentinel

def OwnHead (agentId : String) (appends : List Append) : Prop :=
  ∀ append, newestOn (headFileName agentId) appends = some append →
    append.response.agentId = agentId

/-- The newest append is the next record of the agent. -/
structure ExtendsChain (agentId : String) (appends : List Append) (append : Append)
    (stores : AuditStores) : Prop where
  names : Json.member append.record.payload "agent_id" = some (.string agentId)
  follows : Json.member append.record.payload "previous_audit_id" =
    some (.string (lastAuditId agentId appends))
  becomesHead : stores.heads.head agentId =
    .ok (some ⟨append.record.auditId, append.response.issuedAt⟩)

section Heads

variable [JsonCodec] [Digest] [TextCase] {service : Option SigningService}
  {appends : List Append} {stores next : AuditStores} {response : RecordFields}
  {record : AttributionRecord} {agentId : String}

def headFileOf : Option Append → HeadFile
  | none => .missing
  | some append =>
      .json (AuditChainStore.headJson append.record.auditId append.response.issuedAt)

theorem heads_of_finalizeAudit {file : String}
    (finalized : finalizeAudit service stores response ⟨false, false⟩ =
      .ok (next, record))
    (held : stores.heads.files file = headFileOf (newestOn file appends)) :
    next.heads.files file =
      headFileOf (newestOn file (⟨response, ⟨false, false⟩, record⟩ :: appends)) := by
  rcases finalizeAudit_cases finalized with ⟨_, _, _, _, _, _, heads⟩
  rw [if_neg (by simp)] at heads
  rw [heads, newestOn, List.find?_cons]
  by_cases onFile : (⟨response, ⟨false, false⟩, record⟩ : Append).OnFile file
  · rcases onFile with ⟨named, rfl⟩
    simp only [Append.OnFile, named, ne_eq, not_false_eq_true, and_self, decide_true]
    exact AuditChainStore.write_files_same named _ _ _
  · simp only [onFile, decide_false]
    rw [← newestOn, ← held]
    by_cases anonymous : response.agentId = ""
    · simp [AuditChainStore.write, anonymous]
    · exact AuditChainStore.write_files_other
        (fun same => onFile ⟨anonymous, same.symm⟩) _ _ _

theorem Run.heads (run : Run service appends stores)
    (writes : ∀ append ∈ appends, append.Writes) (file : String) :
    stores.heads.files file = headFileOf (newestOn file appends) := by
  induction run with
  | start => rfl
  | @append appends stores response failures next record rest finalized induction =>
      have succeeded : failures = ⟨false, false⟩ :=
        writes ⟨response, failures, record⟩ List.mem_cons_self
      subst succeeded
      exact heads_of_finalizeAudit finalized
        (induction fun append member => writes append (List.mem_cons_of_mem _ member))

omit [JsonCodec] [Digest] [TextCase] in
theorem headOf_headFileOf (newest : Option Append) :
    AuditChainStore.headOf (headFileOf newest) = .ok (newest.map fun append =>
      ⟨append.record.auditId, append.response.issuedAt⟩) := by
  cases newest with
  | none => rfl
  | some append => exact AuditChainStore.headOf_headJson _ _

theorem Run.priorHead (run : Run service appends stores)
    (writes : ∀ append ∈ appends, append.Writes) (named : agentId ≠ "") :
    stores.priorHead agentId = .ok ((newestOn (headFileName agentId) appends).map
      fun append => ⟨append.record.auditId, append.response.issuedAt⟩) := by
  rw [AuditStores.priorHead, if_neg named, AuditChainStore.head, run.heads writes,
    headOf_headFileOf]

omit [JsonCodec] [Digest] [TextCase] in
theorem newestBy_of_ownHead (named : agentId ≠ "") (own : OwnHead agentId appends) :
    newestBy agentId appends = newestOn (headFileName agentId) appends := by
  unfold OwnHead at own
  induction appends with
  | nil => rfl
  | cons append rest induction =>
      unfold newestBy newestOn at *
      rw [List.find?_cons, List.find?_cons]
      rw [List.find?_cons] at own
      by_cases onFile : append.OnFile (headFileName agentId)
      · simp only [onFile, decide_true] at own ⊢
        simp only [own append rfl, decide_true]
      · have other : append.response.agentId ≠ agentId := by
          rintro rfl
          exact onFile ⟨named, rfl⟩
        simp only [onFile, other, decide_false] at own ⊢
        exact induction own

theorem Run.auditId_ne (run : Run service appends stores) {append : Append}
    (member : append ∈ appends) : append.record.auditId ≠ "" := by
  induction run with
  | start => cases member
  | append rest finalized induction =>
      rcases List.mem_cons.mp member with rfl | earlier
      · rcases finalizeAudit_cases finalized with ⟨_, _, _, _, writing, _⟩
        rintro empty
        have lowered : lower "" = "" := TextCase.lower_ascii "" rfl
        have unsafeId : safeAuditId "" = none := by
          have stripped : Text.strip "" = "" := by decide
          rw [safeAuditId, stripped, lowered]
          rfl
        simp only at empty
        simp only [AuditRecordStore.write, empty, unsafeId] at writing
        cases writing
      · exact induction earlier

section Newest

variable {append : Append}

theorem Run.previous_of_newest (run : Run service (append :: appends) stores)
    (writes : ∀ held ∈ append :: appends, held.Writes)
    (named : append.response.agentId ≠ "") :
    Json.member append.record.payload "previous_audit_id" = some (.string
      (match newestOn (headFileName append.response.agentId) appends with
      | some newest => newest.record.auditId
      | none => genesisSentinel)) := by
  cases run with
  | @append _ before response failures _ record rest finalized =>
      have earlier : ∀ held ∈ appends, held.Writes :=
        fun held member => writes held (List.mem_cons_of_mem _ member)
      rcases finalizeAudit_cases finalized with ⟨priorHead, _, prior, built, _⟩
      rw [rest.priorHead earlier named] at prior
      cases prior
      simp only [built, buildRecord_payload, RecordFields.member_previousAuditId]
      cases found : newestOn (headFileName response.agentId) appends with
      | none => rfl
      | some newest =>
          have present := rest.auditId_ne (List.mem_of_find?_eq_some found)
          exact congrArg (fun text => some (Json.string text)) (if_neg present)

theorem Run.names_newest (run : Run service (append :: appends) stores) :
    Json.member append.record.payload "agent_id" =
      some (.string append.response.agentId) := by
  rcases run.built List.mem_cons_self with ⟨previousAuditId, built⟩
  rw [built, buildRecord_payload, RecordFields.member_agentId]

theorem extendsChain_of_ownHead (run : Run service (append :: appends) stores)
    (writes : ∀ held ∈ append :: appends, held.Writes)
    (named : append.response.agentId ≠ "")
    (own : OwnHead append.response.agentId appends) :
    ExtendsChain append.response.agentId appends append stores where
  names := run.names_newest
  follows := by
    rw [run.previous_of_newest writes named, lastAuditId,
      newestBy_of_ownHead named own]
  becomesHead := by
    have newest : newestOn (headFileName append.response.agentId) (append :: appends) =
        some append := by
      have onFile : append.OnFile (headFileName append.response.agentId) := ⟨named, rfl⟩
      rw [newestOn, List.find?_cons]
      simp only [onFile, decide_true]
    rw [AuditChainStore.head, run.heads writes, headOf_headFileOf, newest]
    rfl

theorem agentId_of_auditId (run : Run service appends stores)
    (ideal : IdealRecords service appends) {left right : Append}
    (leftMember : left ∈ appends) (rightMember : right ∈ appends)
    (same : left.record.auditId = right.record.auditId) :
    left.response.agentId = right.response.agentId := by
  have leftNamed := run.namesAgent ideal leftMember
  rw [ideal.collisionFree left leftMember right rightMember same] at leftNamed
  exact leftNamed.unique (run.namesAgent ideal rightMember)

/-- A record that extends an agent's chain was written for this agent, whose head
was its own. -/
theorem ownHead_of_extendsChain (run : Run service (append :: appends) stores)
    (writes : ∀ held ∈ append :: appends, held.Writes)
    (ideal : IdealRecords service (append :: appends))
    (extend : ExtendsChain agentId appends append stores) :
    append.response.agentId = agentId ∧ agentId ≠ "" ∧ OwnHead agentId appends := by
  have names := extend.names
  rw [run.names_newest] at names
  have same : append.response.agentId = agentId :=
    Json.string.inj (Option.some.inj names)
  have present : agentId ≠ "" := by
    rintro rfl
    have head := extend.becomesHead
    rw [AuditChainStore.head, run.heads writes, headOf_headFileOf] at head
    rcases Option.map_eq_some_iff.mp (Except.ok.inj head) with ⟨held, found, sameHead⟩
    have member := List.mem_of_find?_eq_some found
    have sameAgent := agentId_of_auditId run ideal member List.mem_cons_self
      (congrArg ChainHead.auditId sameHead)
    have onFile : held.OnFile (headFileName "") := by
      simpa using List.find?_some found
    exact onFile.1 (sameAgent.trans same)
  refine ⟨same, present, ?_⟩
  intro held found
  have member := List.mem_cons_of_mem append (List.mem_of_find?_eq_some found)
  have follows := extend.follows
  rw [run.previous_of_newest writes (by rw [same]; exact present), same, found,
    lastAuditId] at follows
  have sameId := Json.string.inj (Option.some.inj follows)
  cases foundOwn : newestBy agentId appends with
  | none =>
      rw [foundOwn] at sameId
      exact absurd sameId (ideal.notGenesis held member)
  | some own =>
      rw [foundOwn] at sameId
      have ownMember := List.mem_cons_of_mem append (List.mem_of_find?_eq_some foundOwn)
      have byAgent : own.response.agentId = agentId := by
        simpa using List.find?_some foundOwn
      rw [← byAgent]
      exact agentId_of_auditId run ideal member ownMember sameId

end Newest

end Heads

end Agtp.Audit
