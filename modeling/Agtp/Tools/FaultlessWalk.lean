import Agtp.Audit.StandardRecords
import Agtp.Tools.ChainIntegrity

/-! # Walking undisturbed chains

What the integrity check reports about an agent whose responses were all
recorded, with no failure and no edit. -/

namespace Agtp.Tools

open Audit

variable [JsonCodec] [TextCase] [TextOf]

/-! ## Chains longer than the walk -/

section Depth

variable {PublicKey : Type} [SignatureScheme PublicKey]

/-- On a path that is longer than its depth, the walk breaks off with as many
records walked as its depth allows. -/
theorem walkFrom_of_longer {records : AuditRecordStore}
    {verifyKey : Option PublicKey} {head current : String} {depth : Nat}
    {seen path : List String} {result : ChainWalkResult}
    (walk : GenesisPath (recordLink records) genesisSentinel current path)
    (accepted : PathAccepted records verifyKey path)
    (long : depth < path.length) (fresh : ∀ auditId ∈ path, auditId ∉ seen) :
    ∃ breakAt, walkFrom records verifyKey head depth seen current result =
      .ok { result with
        recordsWalked := result.recordsWalked + depth
        broken := true
        breakAt := some breakAt } := by
  induction depth generalizing current seen path result with
  | zero => exact ⟨current, rfl⟩
  | succ depth induction =>
      cases walk with
      | last toGenesis => simp at long
      | @step _ next rest linked notGenesis remaining =>
          rcases walkFrom_step linked notGenesis remaining accepted fresh depth result with
            ⟨stepped, restFresh⟩
          obtain ⟨breakAt, walked⟩ := induction remaining
            (PathAccepted.cons_iff.mp accepted).2 (by simpa using long) restFresh
          refine ⟨breakAt, stepped.trans (walked.trans ?_)⟩
          simp only [Except.ok.injEq, ChainWalkResult.mk.injEq, and_true, true_and]
          omega

end Depth

/-! ## Undisturbed runs -/

section Undisturbed

variable [Digest]

def Undisturbed (appends : List Append) : Prop :=
  ∀ append ∈ appends, append.failures.record = false ∧ append.failures.head = false

def responsesOf (agentId : String) (appends : List Append) : List Append :=
  appends.filter fun append => append.response.agentId = agentId

def responsesOn (file : String) (appends : List Append) : List Append :=
  appends.filter fun append =>
    append.response.agentId ≠ "" && headFileName append.response.agentId = file

variable {service : Option SigningService} {appends : List Append}
  {stores : AuditStores} {agentId file : String}

theorem Run.counted (run : Audit.Run service appends stores)
    (ideal : IdealRecords service appends) (undisturbed : Undisturbed appends)
    (file : String) :
    ∃ lineage, FileLineage appends stores file lineage ∧
      lineage.length = (responsesOn file appends).length := by
  induction run with
  | start =>
      refine ⟨[], ⟨.nil, by simp, rfl, by simp, ?_⟩, rfl⟩
      intro _ auditId jws agentId stored
      simp [AuditRecordStore.Stored, AuditStores.empty, AuditRecordStore.empty] at stored
  | append rest finalized induction =>
      rename_i response failures next record
      obtain ⟨lineage, lineageOf, counted⟩ := induction ideal.tail
        fun append member => undisturbed append (List.mem_cons_of_mem _ member)
      have headWritten : failures.head = false := (undisturbed _ List.mem_cons_self).2
      by_cases onFile : Append.OnFile ⟨response, failures, record⟩ file
      · refine ⟨_, lineageOf.headMoves rest finalized ideal onFile headWritten, ?_⟩
        have named : response.agentId ≠ "" := onFile.1
        have sameFile : headFileName response.agentId = file := onFile.2
        simp [responsesOn, counted, named, sameFile]
      · refine ⟨_, lineageOf.otherFile rest finalized ideal onFile, ?_⟩
        have off : ¬ (response.agentId ≠ "" ∧ headFileName response.agentId = file) := onFile
        rw [counted]
        by_cases named : response.agentId = ""
        · simp [responsesOn, named]
        · have otherFile : headFileName response.agentId ≠ file :=
            fun same => off ⟨named, same⟩
          simp [responsesOn, otherFile]

/-- What the walk of an agent finds after an undisturbed run: no head where
nothing was recorded on its head file, else a path of all that was. -/
theorem Run.walked (run : Audit.Run service appends stores)
    (ideal : IdealRecords service appends) (undisturbed : Undisturbed appends)
    (agentId : String) :
    ((responsesOn (headFileName agentId) appends).length = 0 ∧
        stores.heads.head agentId = .ok none) ∨
      ∃ head path, stores.heads.head agentId = .ok (some head) ∧
        GenesisPath (recordLink stores.records) genesisSentinel head.auditId path ∧
        path.length = (responsesOn (headFileName agentId) appends).length := by
  obtain ⟨lineage, lineageOf, counted⟩ :=
    Run.counted run ideal undisturbed (headFileName agentId)
  have aligned : NoLoneRecordFailure (headFileName agentId) appends := by
    intro append member _ failed
    rw [(undisturbed append member).1] at failed
    cases failed
  cases lineage with
  | nil =>
      left
      refine ⟨counted.symm, ?_⟩
      have missing := lineageOf.head
      simp only [HeadNames] at missing
      rw [AuditChainStore.head, missing]
      rfl
  | cons newest rest =>
      right
      obtain ⟨atIso, head⟩ := lineageOf.head_eq rfl
      refine ⟨_, _, head, lineageOf.genesisPath run ideal (lineageOf.stored aligned), ?_⟩
      rw [List.length_map]
      exact counted

/-! ## Reports -/

variable (PublicKey : Type) [SignatureScheme PublicKey]

/-- The report is of an unbroken chain that reaches genesis, with this many
records walked. -/
def ReportsWhole (stores : AuditStores) (agentId : String) (count : Nat) : Prop :=
  ∃ report, walkChain agentId stores (none : Option PublicKey) = .ok report ∧
    report.broken = false ∧ report.reachedGenesis = true ∧
    report.recordsWalked = count

def ReportsTooLong (stores : AuditStores) (agentId : String) : Prop :=
  ∃ report, walkChain agentId stores (none : Option PublicKey) = .ok report ∧
    report.broken = true ∧ report.reachedGenesis = false ∧
    report.recordsWalked = maxWalkDepth

theorem reports_of_run (run : Audit.Run service appends stores)
    (ideal : IdealRecords service appends) (undisturbed : Undisturbed appends)
    (agentId : String) :
    if (responsesOn (headFileName agentId) appends).length ≤ maxWalkDepth then
      ReportsWhole PublicKey stores agentId
        (responsesOn (headFileName agentId) appends).length
    else ReportsTooLong PublicKey stores agentId := by
  rcases Run.walked run ideal undisturbed agentId with
    ⟨empty, unheaded⟩ | ⟨head, path, headed, walk, counted⟩
  · rw [empty, if_pos (Nat.zero_le _)]
    refine ⟨{ ChainWalkResult.ofHead agentId none with reachedGenesis := true }, ?_,
      rfl, rfl, rfl⟩
    rw [walkChain, unheaded]
  · rw [← counted]
    split
    · next short => exact ⟨_, walkChain_of_path headed walk short, rfl, rfl, rfl⟩
    · next long =>
        have accepted : PathAccepted stores.records (none : Option PublicKey) path :=
          fun _ _ _ _ _ given => by cases given
        obtain ⟨breakAt, walked⟩ := walkFrom_of_longer walk accepted
          (Nat.lt_of_not_le long) (fun _ _ => List.not_mem_nil)
        refine ⟨_, (walkChain_of_head headed none).trans walked, rfl, rfl, ?_⟩
        exact Nat.zero_add _

/-- For an agent that is alone on its head file, the check reports an unbroken
chain of exactly its responses as long as they fit the depth of the walk, and a
chain broken off at that depth from there on. -/
theorem undisturbed_chain_reported (run : Audit.Run service appends stores)
    (ideal : IdealRecords service appends) (undisturbed : Undisturbed appends)
    (named : agentId ≠ "")
    (alone : ∀ append ∈ appends, append.OnFile (headFileName agentId) →
      append.response.agentId = agentId) :
    if (responsesOf agentId appends).length ≤ maxWalkDepth then
      ReportsWhole PublicKey stores agentId (responsesOf agentId appends).length
    else ReportsTooLong PublicKey stores agentId := by
  have same : responsesOn (headFileName agentId) appends = responsesOf agentId appends := by
    apply List.filter_congr
    intro append member
    rw [Bool.eq_iff_iff, Bool.and_eq_true, decide_eq_true_eq, decide_eq_true_eq,
      decide_eq_true_eq]
    constructor
    · exact alone append member
    · intro isAgent
      rw [isAgent]
      exact ⟨named, rfl⟩
  rw [← same]
  exact reports_of_run PublicKey run ideal undisturbed agentId

end Undisturbed

end Agtp.Tools

/-! ## Histories of any length -/

namespace Agtp.Tools.HistorySamples

open Audit
open scoped Plain StandardJson

/-- A key that verifies no signature. -/
local instance : SignatureScheme Unit := ⟨fun _ _ _ => false⟩

def idOf (number : Nat) : String :=
  String.ofList ((List.range 64).map fun place =>
    if number.testBit place then '1' else '0')

theorem idOf_wellFormed (number : Nat) : isAuditId (idOf number) := by
  simp only [isAuditId, idOf, String.toList_ofList, List.length_map, List.length_range,
    List.all_map, Bool.and_eq_true, List.all_eq_true, beq_self_eq_true, true_and]
  intro place _
  simp only [Function.comp_apply]
  split
  · decide
  · decide

theorem idOf_injective {left right : Nat} (leftSmall : left < 2 ^ 64)
    (rightSmall : right < 2 ^ 64) (same : idOf left = idOf right) : left = right := by
  apply Nat.eq_of_testBit_eq
  intro place
  by_cases inside : place < 64
  · have digits := List.map_inj_left.mp (String.ofList_inj.mp same) place
      (List.mem_range.mpr inside)
    cases leftBit : left.testBit place <;> cases rightBit : right.testBit place <;>
      simp [leftBit, rightBit] at digits ⊢
  · have large : 2 ^ 64 ≤ 2 ^ place := Nat.pow_le_pow_right (by decide) (by omega)
    rw [Nat.testBit_lt_two_pow (Nat.lt_of_lt_of_le leftSmall large),
      Nat.testBit_lt_two_pow (Nat.lt_of_lt_of_le rightSmall large)]

theorem idOf_zero : idOf 0 = genesisSentinel := by decide +kernel

/-- The record before the one with this number is named, unless it is the
first. -/
def previousOf (number : Nat) : String :=
  if number = 0 then "" else idOf number

def fields (number : Nat) : RecordFields :=
  ⟨"a", "", "", "", "", "", "", toString number, "now", 200, previousOf number, []⟩

/-- The text of a record does not depend on the digest. -/
@[reducible] def undigested : Digest := ⟨fun _ => ""⟩

def textOf (number : Nat) : String :=
  (@buildRecord _ undigested none (fields number)).jws

theorem jws_undigested (digest : Digest) (fields : RecordFields) :
    (@buildRecord _ digest none fields).jws = (@buildRecord _ undigested none fields).jws :=
  rfl

def limit : Nat := 2 ^ 20

/-- The digests of the records with small numbers. -/
local instance : Digest where
  sha256 bytes :=
    match (List.range limit).find? fun number => asciiBytes (textOf number) = bytes with
    | some number => idOf (number + 1)
    | none => ""

theorem payloadReads (number : Nat) : ReadsBack (fields number).payload := by
  have status : JsonText.firstExcess StandardJson.usualLimits 1 (.int 200) = none := by
    decide +kernel
  exact payload_readsBack (.object List.nodup_nil (by simp [fields])) rfl status

theorem recordPrevious_textOf (number : Nat) :
    recordPrevious (textOf number) = some (idOf number) := by
  rw [textOf, @recordPrevious_buildRecord _ undigested _ none (fields number)
    (recordHeader_readsBack none) (payloadReads number)]
  by_cases first : number = 0
  · rw [first, idOf_zero]
    rfl
  · have unnamed : idOf number ≠ "" := by
      intro empty
      have wellFormed := idOf_wellFormed number
      rw [empty] at wellFormed
      exact absurd wellFormed (by decide)
    simp [fields, previousOf, first, unnamed]

theorem textOf_injective {left right : Nat} (leftSmall : left < limit)
    (rightSmall : right < limit) (same : textOf left = textOf right) : left = right := by
  have sameId := (recordPrevious_textOf left).symm.trans
    ((congrArg recordPrevious same).trans (recordPrevious_textOf right))
  have fits : limit ≤ 2 ^ 64 := by decide
  exact idOf_injective (by omega) (by omega) (Option.some.inj sameId)

theorem sha256_of_eq {digest : Digest} {function : List UInt8 → String}
    (same : digest = ⟨function⟩) (bytes : List UInt8) :
    @Digest.sha256 digest bytes = function bytes := by
  subst same
  rfl

-- the digest is opened by an equation, so that its search is never run
theorem sha256_of_found {bytes : List UInt8} {number : Nat}
    (found : (List.range limit).find? (fun index => asciiBytes (textOf index) = bytes) =
      some number) : Digest.sha256 bytes = idOf (number + 1) := by
  rw [sha256_of_eq rfl bytes]
  simp only [found]

theorem auditIdFor_textOf {number : Nat} (small : number < limit) :
    auditIdFor (textOf number) = idOf (number + 1) := by
  have ascii (index : Nat) : Text.isAscii (textOf index) :=
    @isAscii_buildRecord _ undigested none (fields index)
  have found : (List.range limit).find?
      (fun index => asciiBytes (textOf index) = asciiBytes (textOf number)) =
        some number := by
    cases search : (List.range limit).find?
        fun index => asciiBytes (textOf index) = asciiBytes (textOf number) with
    | none =>
        have missing := List.find?_eq_none.mp search number (List.mem_range.mpr small)
        simp at missing
    | some index =>
        have sameBytes := List.find?_some search
        have indexSmall := List.mem_range.mp (List.mem_of_find?_eq_some search)
        simp only [decide_eq_true_eq] at sameBytes
        have sameText := asciiBytes_injective (ascii index) (ascii number) sameBytes
        rw [textOf_injective indexSmall small sameText]
  rw [auditIdFor]
  exact sha256_of_found found

/-! ### The run -/

def appendOf (number : Nat) : Append :=
  ⟨{ fields number with previousAuditId := "" }, ⟨false, false⟩,
    ⟨textOf number, idOf (number + 1), (fields number).payload⟩⟩

def history : Nat → List Append
  | 0 => []
  | number + 1 => appendOf number :: history number

theorem mem_history {count : Nat} {append : Append} (member : append ∈ history count) :
    ∃ number < count, append = appendOf number := by
  induction count with
  | zero => cases member
  | succ count induction =>
      rcases List.mem_cons.mp member with newest | earlier
      · exact ⟨count, Nat.lt_succ_self count, newest⟩
      · obtain ⟨number, below, same⟩ := induction earlier
        exact ⟨number, Nat.lt_succ_of_lt below, same⟩

theorem length_history (count : Nat) : (history count).length = count := by
  induction count with
  | zero => rfl
  | succ count induction => rw [history, List.length_cons, induction]

theorem buildRecord_fields {number : Nat} (small : number < limit) :
    buildRecord none (fields number) = (appendOf number).record := by
  have jws : (buildRecord none (fields number)).jws = textOf number :=
    jws_undigested _ _
  have auditId := buildRecord_auditId none (fields number)
  rw [jws, auditIdFor_textOf small] at auditId
  cases built : buildRecord none (fields number) with
  | mk builtJws builtId builtPayload =>
      have payload := buildRecord_payload none (fields number)
      rw [built] at jws auditId payload
      rw [appendOf, ← jws, ← auditId, ← payload]

theorem ideal_history {count : Nat} (fits : count ≤ limit) :
    IdealRecords none (history count) where
  collisionFree := by
    intro left leftMember right rightMember same
    obtain ⟨leftNumber, leftSmall, isLeft⟩ := mem_history leftMember
    obtain ⟨rightNumber, rightSmall, isRight⟩ := mem_history rightMember
    subst isLeft isRight
    have bound : limit + 1 < 2 ^ 64 := by decide
    have sameNumber : leftNumber + 1 = rightNumber + 1 :=
      idOf_injective (by omega) (by omega) same
    rw [Nat.succ_inj.mp sameNumber]
  wellFormed := by
    intro append member
    obtain ⟨number, _, isAppend⟩ := mem_history member
    rw [isAppend]
    exact idOf_wellFormed _
  notGenesis := by
    intro append member isGenesis
    obtain ⟨number, small, isAppend⟩ := mem_history member
    subst isAppend
    rw [← idOf_zero] at isGenesis
    have bound : limit + 1 < 2 ^ 64 := by decide
    have zero := idOf_injective (by omega) (by decide) isGenesis
    omega
  headerReads := recordHeader_readsBack none
  payloadReads := by
    intro append member
    obtain ⟨number, _, isAppend⟩ := mem_history member
    rw [isAppend]
    exact payloadReads number

theorem history_run {count : Nat} (fits : count ≤ limit) :
    ∃ stores, Audit.Run none (history count) stores ∧
      stores.heads.head "a" =
        .ok (if count = 0 then none else some ⟨idOf count, "now"⟩) := by
  induction count with
  | zero => exact ⟨_, .start, rfl⟩
  | succ number induction =>
      obtain ⟨stores, run, head⟩ := induction (by omega)
      have named : "a" ≠ "" := by decide
      have prior : stores.priorHead "a" =
          .ok (if number = 0 then none else some ⟨idOf number, "now"⟩) := by
        rw [AuditStores.priorHead, if_neg named, head]
      have built : buildRecord none { (appendOf number).response with
          previousAuditId := priorAuditId
            (if number = 0 then none else some ⟨idOf number, "now"⟩) } =
          (appendOf number).record := by
        rw [← buildRecord_fields (by omega)]
        by_cases first : number = 0
        · simp [appendOf, fields, previousOf, priorAuditId, first]
        · simp [appendOf, fields, previousOf, priorAuditId, first]
      have finalized : finalizeAudit none stores (appendOf number).response
          ⟨false, false⟩ = _ := finalizeAudit_eq prior built (idOf_wellFormed _)
      refine ⟨_, .append run finalized, ?_⟩
      rw [if_neg (Nat.succ_ne_zero number)]
      simp only [Bool.false_eq_true, if_false]
      rw [AuditChainStore.head]
      have written := AuditChainStore.write_files_same named stores.heads
        (idOf (number + 1)) "now"
      exact (congrArg AuditChainStore.headOf written).trans
        (AuditChainStore.headOf_headJson _ _)

theorem undisturbed_history (count : Nat) : Undisturbed (history count) := by
  intro append member
  obtain ⟨number, _, isAppend⟩ := mem_history member
  rw [isAppend]
  exact ⟨rfl, rfl⟩

theorem agent_of_history {count : Nat} {append : Append}
    (member : append ∈ history count) : append.response.agentId = "a" := by
  obtain ⟨number, _, isAppend⟩ := mem_history member
  rw [isAppend]
  rfl

theorem responsesOf_history (count : Nat) :
    responsesOf "a" (history count) = history count := by
  apply List.filter_eq_self.mpr
  intro append member
  simp [agent_of_history member]

theorem responsesOn_history (count : Nat) :
    responsesOn (headFileName "a") (history count) = history count := by
  apply List.filter_eq_self.mpr
  intro append member
  simp [agent_of_history member]

/-- Two responses are reported whole. -/
theorem short_history_whole :
    ∃ stores, Audit.Run none (history 2) stores ∧ ReportsWhole Unit stores "a" 2 := by
  have fits : 2 ≤ limit := by decide
  have named : "a" ≠ "" := by decide
  obtain ⟨stores, run, _⟩ := history_run fits
  have reported := undisturbed_chain_reported Unit run (ideal_history fits)
    (undisturbed_history 2) named (fun append member _ => agent_of_history member)
  rw [responsesOf_history, length_history, if_pos (by decide)] at reported
  exact ⟨stores, run, reported⟩

theorem history_broken {count : Nat} (fits : count ≤ limit) (long : maxWalkDepth < count) :
    ∃ stores, Audit.Run none (history count) stores ∧ ¬ ReportsWhole Unit stores "a" count := by
  obtain ⟨stores, run, _⟩ := history_run fits
  refine ⟨stores, run, ?_⟩
  have reported := reports_of_run Unit run (ideal_history fits) (undisturbed_history count) "a"
  rw [responsesOn_history, length_history, if_neg (Nat.not_le_of_lt long)] at reported
  obtain ⟨report, walked, broken, _⟩ := reported
  intro ⟨other, otherWalked, unbroken, _⟩
  rw [Except.ok.inj (walked.symm.trans otherWalked), unbroken] at broken
  cases broken

/-- One response more than the walk is deep, and the chain is reported broken. -/
theorem long_history_broken :
    IdealRecords none (history (maxWalkDepth + 1)) ∧
    Undisturbed (history (maxWalkDepth + 1)) ∧
    (responsesOf "a" (history (maxWalkDepth + 1))).length = maxWalkDepth + 1 ∧
    ∃ stores, Audit.Run none (history (maxWalkDepth + 1)) stores ∧
      ¬ ReportsWhole Unit stores "a" (maxWalkDepth + 1) := by
  have fits : maxWalkDepth + 1 ≤ limit := by decide
  refine ⟨ideal_history fits, undisturbed_history _, ?_, ?_⟩
  · rw [responsesOf_history, length_history]
  · exact history_broken fits (Nat.lt_succ_self maxWalkDepth)

end Agtp.Tools.HistorySamples
