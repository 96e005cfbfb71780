import Agtp.Tools.ChainIntegrity
import Mathlib.Data.Set.Card

/-! # Chain repair

`repair_heads` infers the head of each agent from the records alone and writes
the heads that are missing or stale. -/

namespace Agtp.Tools

open Audit

variable [JsonCodec] [TextOf]

/-! ## Discovering heads -/

/-- What `discover_recoverable_heads` keeps of one record file. -/
structure KeptRecord where
  auditId : String
  agentId : String
  issuedAt : String
  previous : String

/-- A record that does not parse is skipped, as is one without an agent. A
payload that is not an object raises outside the `try`. -/
def keepRecord (auditId jws : String) : Raises (Option KeptRecord) :=
  match parseAttributionRecord jws with
  | .error _ => .ok none
  | .ok record =>
      match record.payload with
      | .object members =>
          let agentId := Json.textOr members "agent_id" ""
          if agentId = "" then .ok none
          else .ok (some ⟨auditId, agentId, Json.textOr members "issued_at" "",
            previousAuditId members⟩)
      | _ => .error ()

def keptRecords : List (String × String) → Raises (List KeptRecord)
  | [] => .ok []
  | (auditId, jws) :: rest =>
      match keepRecord auditId jws with
      | .error error => .error error
      | .ok none => keptRecords rest
      | .ok (some record) =>
          match keptRecords rest with
          | .error error => .error error
          | .ok records => .ok (record :: records)

def agentsOf : List KeptRecord → List String
  | [] => []
  | record :: rest =>
      record.agentId :: (agentsOf rest).filter fun agentId =>
        agentId ≠ record.agentId

def ownRecords (records : List KeptRecord) (agentId : String) : List KeptRecord :=
  records.filter fun record => record.agentId = agentId

def idsOf (records : List KeptRecord) (agentId : String) : List String :=
  (ownRecords records agentId).map (·.auditId)

def referenced (records : List KeptRecord) (agentId : String) : List String :=
  ((ownRecords records agentId).map (·.previous)).filter fun previous =>
    previous ≠ genesisSentinel

def tips (records : List KeptRecord) (agentId : String) : List String :=
  (idsOf records agentId).filter fun auditId =>
    auditId ∉ referenced records agentId

def findRecord (records : List KeptRecord) (auditId : String) :
    Option KeptRecord :=
  records.find? fun record => record.auditId = auditId

/-- The inner loop: the ids seen and whether genesis was reached. `steps`
bounds the iterations; each one sees another record. -/
def followBack (records : List KeptRecord) (agentId : String) :
    (steps : Nat) → (seen : List String) → (current : String) →
      List String × Bool
  | 0, seen, _ => (seen, false)
  | steps + 1, seen, current =>
      if current ∈ seen then (seen, false)
      else
        match findRecord records current with
        | none => (seen, false)
        | some record =>
            if record.agentId ≠ agentId then (current :: seen, false)
            else if record.previous = genesisSentinel then (current :: seen, true)
            else followBack records agentId steps (current :: seen) record.previous

structure RecoverableHead where
  agentId : String
  auditId : String
  atIso : String

def sameIds (left right : List String) : Bool :=
  left.all (fun auditId => auditId ∈ right) &&
    right.all (fun auditId => auditId ∈ left)

def recoverableHead (records : List KeptRecord) (agentId : String) :
    Option RecoverableHead :=
  match tips records agentId with
  | [tip] =>
      let (seen, safe) := followBack records agentId (records.length + 1) [] tip
      if safe && sameIds seen (idsOf records agentId) then
        (findRecord records tip).map fun record =>
          ⟨agentId, tip, record.issuedAt⟩
      else none
  | _ => none

def discoverRecoverableHeads (listing : List (String × String)) :
    Raises (List RecoverableHead) :=
  match keptRecords listing with
  | .error error => .error error
  | .ok records => .ok ((agentsOf records).filterMap (recoverableHead records))

/-! ## Writing heads -/

/-- The head store, the repaired heads and whether an exception ended the
repair. -/
structure RepairRun where
  heads : AuditChainStore
  repaired : List (String × String)
  raised : Bool

/-- The loop of `repair_heads`. `writeFails` tells the agents whose head
cannot be written. -/
def repairFrom (writeFails : String → Bool) :
    List RecoverableHead → RepairRun → RepairRun
  | [], run => run
  | head :: rest, run =>
      match run.heads.head head.agentId with
      | .error _ => { run with raised := true }
      | .ok current =>
          if current.map (·.auditId) = some head.auditId then
            repairFrom writeFails rest run
          else if writeFails head.agentId then { run with raised := true }
          else
            repairFrom writeFails rest
              { run with
                heads := run.heads.write head.agentId head.auditId head.atIso
                repaired := run.repaired ++ [(head.agentId, head.auditId)] }

def repairHeads (writeFails : String → Bool) (heads : AuditChainStore)
    (listing : List (String × String)) : RepairRun :=
  match discoverRecoverableHeads listing with
  | .error _ => ⟨heads, [], true⟩
  | .ok recoverable => repairFrom writeFails recoverable ⟨heads, [], false⟩

/-! ## Record stores and their listings -/

section Listings

variable [TextCase]

/-- What any writes and deletions leave of an empty record store. -/
inductive Written : AuditRecordStore → Prop
  | empty : Written .empty
  | write {store next auditId jws} :
      Written store → store.write auditId jws = .ok next → Written next
  | delete {store : AuditRecordStore} {auditId : String} :
      Written store →
      Written ⟨fun name => if name = auditId then .missing else store.files name⟩

structure Lists (store : AuditRecordStore) (listing : List (String × String)) :
    Prop where
  distinct : (listing.map Prod.fst).Nodup
  stored : ∀ auditId jws, (auditId, jws) ∈ listing ↔ store.Stored auditId jws

omit [JsonCodec] [TextOf] in
theorem isAuditId_of_safeAuditId {text safe : String}
    (accepted : safeAuditId text = some safe) : isAuditId safe := by
  simp only [safeAuditId, Option.ite_none_right_eq_some, Option.some.injEq] at accepted
  obtain ⟨wellFormed, same⟩ := accepted
  rw [← same]
  exact wellFormed

omit [JsonCodec] [TextOf] in
theorem Written.isAuditId {store : AuditRecordStore} (written : Written store)
    {auditId jws : String} (stored : store.Stored auditId jws) :
    isAuditId auditId := by
  induction written with
  | empty => cases stored
  | @write store next written content _ writing induction =>
      unfold AuditRecordStore.write at writing
      split at writing
      · cases writing
      · next safe accepted =>
          cases writing
          by_cases here : auditId = safe
          · rw [here]
            exact isAuditId_of_safeAuditId accepted
          · apply induction
            simpa [AuditRecordStore.Stored, here] using stored
  | @delete store deleted _ induction =>
      apply induction
      by_cases here : auditId = deleted
      · simp [AuditRecordStore.Stored, here] at stored
      · simpa [AuditRecordStore.Stored, here] using stored

omit [JsonCodec] [TextOf] [TextCase] in
theorem Lists.set {store : AuditRecordStore} {listing : List (String × String)}
    (lists : Lists store listing) (auditId : String) (file : RecordFile)
    (kept : List (String × String))
    (holds : ∀ name jws, (name, jws) ∈ kept ↔ name = auditId ∧ file = .text jws)
    (single : (kept.map Prod.fst).Nodup) :
    Lists ⟨fun name => if name = auditId then file else store.files name⟩
      (kept ++ listing.filter fun entry => entry.1 ≠ auditId) where
  distinct := by
    rw [List.map_append, List.nodup_append]
    refine ⟨single, ?_, ?_⟩
    · exact lists.distinct.sublist (List.filter_sublist.map Prod.fst)
    · intro name inKept other inRest same
      obtain ⟨⟨keptName, keptJws⟩, keptMember, keptSame⟩ := List.mem_map.mp inKept
      obtain ⟨⟨restName, restJws⟩, restMember, restSame⟩ := List.mem_map.mp inRest
      have isAuditId := ((holds keptName keptJws).mp keptMember).1
      have isOther : restName ≠ auditId := by
        simpa using (List.mem_filter.mp restMember).2
      exact isOther (restSame.trans (same.symm.trans (keptSame.symm.trans isAuditId)))
  stored := by
    intro name jws
    rw [List.mem_append, holds, List.mem_filter, lists.stored]
    unfold AuditRecordStore.Stored
    by_cases here : name = auditId
    · simp [here]
    · simp [here]

omit [JsonCodec] [TextOf] in
theorem Written.listed {store : AuditRecordStore} (written : Written store) :
    ∃ listing, Lists store listing := by
  induction written with
  | empty =>
      refine ⟨[], List.nodup_nil, ?_⟩
      intro auditId jws
      simp [AuditRecordStore.Stored, AuditRecordStore.empty]
  | @write store next auditId jws _ writing induction =>
      obtain ⟨listing, lists⟩ := induction
      unfold AuditRecordStore.write at writing
      split at writing
      · cases writing
      · next safe _ =>
          cases writing
          refine ⟨_, lists.set safe (.text jws) [(safe, jws)] ?_ (by simp)⟩
          intro name content
          rw [List.mem_singleton, Prod.mk.injEq, RecordFile.text.injEq, eq_comm (a := jws)]
  | @delete store auditId _ induction =>
      obtain ⟨listing, lists⟩ := induction
      exact ⟨_, lists.set auditId .missing [] (by simp) List.nodup_nil⟩

/-! ## What is kept of a listing -/

def recordMembers (jws : String) : Option (List (String × Json)) :=
  match parseAttributionRecord jws with
  | .ok ⟨_, .object members, _, _⟩ => some members
  | _ => none

def recordAgent (jws : String) : Option String :=
  (recordMembers jws).map fun members => Json.textOr members "agent_id" ""

omit [TextCase] in
theorem recordPrevious_eq (jws : String) :
    recordPrevious jws = (recordMembers jws).map previousAuditId := by
  unfold recordPrevious recordMembers
  cases parseAttributionRecord jws with
  | error => rfl
  | ok record =>
      obtain ⟨header, payload, signature, signingInput⟩ := record
      cases payload <;> rfl

omit [TextCase] in
theorem keepRecord_iff {auditId jws : String} {record : KeptRecord} :
    keepRecord auditId jws = .ok (some record) ↔
      record.agentId ≠ "" ∧ record.auditId = auditId ∧
        ∃ members, recordMembers jws = some members ∧
          Json.textOr members "agent_id" "" = record.agentId ∧
          Json.textOr members "issued_at" "" = record.issuedAt ∧
          previousAuditId members = record.previous := by
  obtain ⟨keptId, agentId, issuedAt, previous⟩ := record
  unfold keepRecord recordMembers
  cases parseAttributionRecord jws with
  | error => simp
  | ok parsed =>
      obtain ⟨header, payload, signature, signingInput⟩ := parsed
      cases payload with
      | object members =>
          by_cases anonymous : Json.textOr members "agent_id" "" = ""
          · simp only [anonymous, if_true, Except.ok.injEq, reduceCtorEq, false_iff]
            intro ⟨named, _, other, same, agent, _⟩
            cases same
            exact named (agent.symm.trans anonymous)
          · simp only [anonymous, if_false, Except.ok.injEq, Option.some.injEq,
              KeptRecord.mk.injEq, exists_eq_left']
            constructor
            · intro ⟨sameId, sameAgent, sameTime, samePrevious⟩
              exact ⟨sameAgent ▸ anonymous, sameId.symm, sameAgent, sameTime, samePrevious⟩
            · intro ⟨_, sameId, sameAgent, sameTime, samePrevious⟩
              exact ⟨sameId.symm, sameAgent, sameTime, samePrevious⟩
      | _ => simp

omit [TextCase] in
theorem mem_keptRecords {listing : List (String × String)}
    {records : List KeptRecord} (kept : keptRecords listing = .ok records)
    (record : KeptRecord) :
    record ∈ records ↔
      ∃ jws, (record.auditId, jws) ∈ listing ∧
        keepRecord record.auditId jws = .ok (some record) := by
  induction listing generalizing records with
  | nil =>
      cases kept
      simp
  | cons entry rest induction =>
      obtain ⟨auditId, content⟩ := entry
      have first (jws : String) (other : keepRecord auditId content ≠ .ok (some record)) :
          ((record.auditId, jws) ∈ (auditId, content) :: rest ∧
              keepRecord record.auditId jws = .ok (some record)) ↔
            (record.auditId, jws) ∈ rest ∧
              keepRecord record.auditId jws = .ok (some record) := by
        constructor
        · intro ⟨member, keeps⟩
          rcases List.mem_cons.mp member with here | later
          · cases here
            exact absurd keeps other
          · exact ⟨later, keeps⟩
        · intro ⟨member, keeps⟩
          exact ⟨List.mem_cons_of_mem _ member, keeps⟩
      unfold keptRecords at kept
      split at kept
      · cases kept
      · next skipped =>
          rw [induction kept]
          apply exists_congr
          intro jws
          exact (first jws (by rw [skipped]; simp)).symm
      · next held keeps =>
          split at kept
          · cases kept
          · next tail tailKept =>
              cases kept
              rw [List.mem_cons, induction tailKept]
              by_cases here : record = held
              · rw [here]
                have sameId := (keepRecord_iff.mp keeps).2.1
                refine iff_of_true (.inl rfl) ⟨content, ?_, ?_⟩
                · rw [sameId]
                  exact List.mem_cons_self
                · rw [sameId]
                  exact keeps
              · simp only [here, false_or]
                apply exists_congr
                intro jws
                refine (first jws ?_).symm
                intro same
                exact here (Option.some.inj (Except.ok.inj (same.symm.trans keeps)))

omit [TextCase] in
theorem keptRecords_distinct {listing : List (String × String)}
    {records : List KeptRecord} (kept : keptRecords listing = .ok records)
    (distinct : (listing.map Prod.fst).Nodup) :
    (records.map (·.auditId)).Nodup := by
  induction listing generalizing records with
  | nil =>
      cases kept
      exact List.nodup_nil
  | cons entry rest induction =>
      obtain ⟨auditId, content⟩ := entry
      obtain ⟨fresh, restDistinct⟩ := List.nodup_cons.mp distinct
      unfold keptRecords at kept
      split at kept
      · cases kept
      · exact induction kept restDistinct
      · next held keeps =>
          split at kept
          · cases kept
          · next tail tailKept =>
              cases kept
              rw [List.map_cons, List.nodup_cons]
              refine ⟨?_, induction tailKept restDistinct⟩
              intro again
              obtain ⟨record, member, same⟩ := List.mem_map.mp again
              obtain ⟨jws, listed, _⟩ := (mem_keptRecords tailKept record).mp member
              rw [same, (keepRecord_iff.mp keeps).2.1] at listed
              exact fresh (List.mem_map.mpr ⟨_, listed, rfl⟩)

end Listings

/-! ## Following records back -/

section Following

variable {records : List KeptRecord} {agentId : String}

def ownLink (records : List KeptRecord) (agentId auditId : String) : Option String :=
  (findRecord records auditId).bind fun record =>
    if record.agentId = agentId then some record.previous else none

omit [JsonCodec] [TextOf] in
/-- The loop ends safely exactly when the records of the agent lead to
genesis, without a record that was seen before. -/
theorem followBack_safe_iff {steps : Nat} {seen visited : List String}
    {current : String} :
    followBack records agentId steps seen current = (visited, true) ↔
      ∃ path, GenesisPath (ownLink records agentId) genesisSentinel current path ∧
        path.length ≤ steps ∧ (∀ auditId ∈ path, auditId ∉ seen) ∧
        visited = path.reverse ++ seen := by
  induction steps generalizing seen current with
  | zero =>
      constructor
      · intro follows
        simp [followBack] at follows
      · intro ⟨path, walk, short, _⟩
        rw [List.length_eq_zero_iff.mp (Nat.le_zero.mp short)] at walk
        cases walk
  | succ steps induction =>
      unfold followBack
      by_cases again : current ∈ seen
      · rw [if_pos again]
        constructor
        · intro follows
          simp at follows
        · intro ⟨path, walk, _, fresh, _⟩
          exact absurd again (fresh current walk.head_mem)
      · rw [if_neg again]
        cases found : findRecord records current with
        | none =>
            have unlinked : ownLink records agentId current = none := by
              simp [ownLink, found]
            simp [GenesisPath.not_of_unlinked unlinked]
        | some record =>
            by_cases own : record.agentId = agentId
            · have linked : ownLink records agentId current = some record.previous := by
                simp [ownLink, found, own]
              by_cases first : record.previous = genesisSentinel
              · rw [first] at linked
                simp only [own, ne_eq, not_true_eq_false, if_false, first, if_true,
                  Prod.mk.injEq, and_true, GenesisPath.iff_of_last linked]
                constructor
                · intro same
                  exact ⟨[current], rfl, by simp, by simpa using again, by simp [same]⟩
                · intro ⟨path, only, _, _, same⟩
                  rw [same, only]
                  rfl
              · simp only [own, ne_eq, not_true_eq_false, if_false, first, induction,
                  GenesisPath.iff_of_step linked first]
                constructor
                · intro ⟨path, walk, short, fresh, same⟩
                  refine ⟨current :: path, ⟨path, rfl, walk⟩, by simpa using short,
                    ?_, by simp [same]⟩
                  intro auditId member
                  rcases List.mem_cons.mp member with here | later
                  · rw [here]
                    exact again
                  · exact fun earlier => fresh auditId later (List.mem_cons_of_mem _ earlier)
                · intro ⟨path, ⟨rest, whole, walk⟩, short, fresh, same⟩
                  subst whole
                  have noRepeat := (GenesisPath.step linked first walk).nodup
                  refine ⟨rest, walk, by simpa using short, ?_, by simp [same]⟩
                  intro auditId member earlier
                  rcases List.mem_cons.mp earlier with here | before
                  · rw [here] at member
                    exact (List.nodup_cons.mp noRepeat).1 member
                  · exact fresh auditId (List.mem_cons_of_mem _ member) before
            · have unlinked : ownLink records agentId current = none := by
                simp [ownLink, found, own]
              simp [own, GenesisPath.not_of_unlinked unlinked]

variable (distinct : (records.map (·.auditId)).Nodup)
include distinct

omit [JsonCodec] [TextOf] in
theorem findRecord_of_mem {record : KeptRecord} (member : record ∈ records) :
    findRecord records record.auditId = some record := by
  cases found : findRecord records record.auditId with
  | none =>
      have missing := List.find?_eq_none.mp found record member
      simp at missing
  | some other =>
      have sameId : other.auditId = record.auditId := by
        simpa using List.find?_some found
      have same := List.inj_on_of_nodup_map distinct
        (List.mem_of_find?_eq_some found) member sameId
      rw [same]

omit [JsonCodec] [TextOf] in
theorem ownLink_eq_some {auditId previous : String} :
    ownLink records agentId auditId = some previous ↔
      ∃ record ∈ ownRecords records agentId,
        record.auditId = auditId ∧ record.previous = previous := by
  constructor
  · intro linked
    obtain ⟨record, found, names⟩ := Option.bind_eq_some_iff.mp linked
    simp only [Option.ite_none_right_eq_some, Option.some.injEq] at names
    refine ⟨record, ?_, by simpa using List.find?_some found, names.2⟩
    exact List.mem_filter.mpr ⟨List.mem_of_find?_eq_some found, by simpa using names.1⟩
  · intro ⟨record, own, sameId, same⟩
    obtain ⟨member, sameAgent⟩ := List.mem_filter.mp own
    rw [← sameId, ownLink, findRecord_of_mem distinct member, ← same]
    simpa using sameAgent

omit [JsonCodec] [TextOf] in
theorem mem_tips {auditId : String} :
    auditId ∈ tips records agentId ↔
      auditId ∈ idsOf records agentId ∧
        ∀ naming, ownLink records agentId naming = some auditId →
          auditId = genesisSentinel := by
  simp only [tips, List.mem_filter, decide_eq_true_eq, referenced, List.mem_map,
    not_and, not_not, forall_exists_index, and_imp]
  apply and_congr_right
  intro _
  constructor
  · intro unreferenced naming names
    obtain ⟨record, own, _, same⟩ := (ownLink_eq_some distinct).mp names
    exact unreferenced record own same
  · intro unnamed record own same
    exact unnamed record.auditId ((ownLink_eq_some distinct).mpr ⟨record, own, rfl, same⟩)

omit [JsonCodec] [TextOf] in
theorem nodup_idsOf : (idsOf records agentId).Nodup :=
  distinct.sublist (List.filter_sublist.map _)

omit [JsonCodec] [TextOf] in
theorem tips_of_chain {tip : String} {path : List String}
    (walk : GenesisPath (ownLink records agentId) genesisSentinel tip path)
    (whole : ∀ auditId, auditId ∈ path ↔ auditId ∈ idsOf records agentId) :
    tips records agentId = [tip] := by
  have onlyTip : ∀ auditId, auditId ∈ tips records agentId ↔ auditId ∈ [tip] := by
    intro auditId
    rw [mem_tips distinct, List.mem_singleton]
    constructor
    · intro ⟨own, unnamed⟩
      by_contra later
      obtain ⟨notGenesis, naming, _, names⟩ :=
        walk.named_of_mem ((whole auditId).mpr own) later
      exact notGenesis (unnamed naming names)
    · intro isTip
      rw [isTip]
      refine ⟨(whole tip).mp walk.head_mem, ?_⟩
      intro naming names
      by_contra notGenesis
      obtain ⟨record, own, sameId, _⟩ := (ownLink_eq_some distinct).mp names
      refine walk.first_unnamed ((whole naming).mpr ?_) notGenesis names
      rw [← sameId]
      exact List.mem_map_of_mem own
  have tipsNodup : (tips records agentId).Nodup := (nodup_idsOf distinct).filter _
  exact List.perm_singleton.mp
    ((List.perm_ext_iff_of_nodup tipsNodup (List.nodup_singleton tip)).mpr onlyTip)

omit [JsonCodec] [TextOf] in
theorem recoverableHead_iff {head : RecoverableHead} :
    recoverableHead records agentId = some head ↔
      (∃ path, GenesisPath (ownLink records agentId) genesisSentinel head.auditId path ∧
        ∀ auditId, auditId ∈ path ↔ auditId ∈ idsOf records agentId) ∧
      ∃ record, findRecord records head.auditId = some record ∧
        head = ⟨agentId, head.auditId, record.issuedAt⟩ := by
  unfold recoverableHead
  constructor
  · intro recovered
    split at recovered
    · next tip _ =>
        split at recovered
        next seen safe follows =>
        simp only [Option.ite_none_right_eq_some, Bool.and_eq_true, Option.map_eq_some_iff,
          sameIds, List.all_eq_true, decide_eq_true_eq] at recovered
        obtain ⟨⟨isSafe, seenOwn, ownSeen⟩, record, found, same⟩ := recovered
        rw [isSafe] at follows
        obtain ⟨path, walk, _, _, visited⟩ := followBack_safe_iff.mp follows
        subst same
        refine ⟨⟨path, walk, fun auditId => ⟨fun member => ?_, fun own => ?_⟩⟩,
          record, found, rfl⟩
        · exact seenOwn auditId (by simp [visited, member])
        · simpa [visited] using ownSeen auditId own
    · cases recovered
  · intro ⟨⟨path, walk, whole⟩, record, found, same⟩
    have inside : path ⊆ records.map (·.auditId) := by
      intro auditId member
      exact (List.filter_sublist.map _).subset ((whole auditId).mp member)
    have short : path.length ≤ records.length + 1 := by
      have bounded := (walk.nodup.subperm inside).length_le
      rw [List.length_map] at bounded
      omega
    have follows : followBack records agentId (records.length + 1) [] head.auditId =
        (path.reverse, true) :=
      followBack_safe_iff.mpr ⟨path, walk, short, by simp, by simp⟩
    have sameSet : sameIds path.reverse (idsOf records agentId) = true := by
      simp only [sameIds, Bool.and_eq_true, List.all_eq_true, decide_eq_true_eq,
        List.mem_reverse]
      exact ⟨fun auditId => (whole auditId).mp, fun auditId => (whole auditId).mpr⟩
    rw [tips_of_chain distinct walk whole]
    simp only [follows, sameSet, Bool.and_self, if_true, found, Option.map_some]
    rw [← same]

end Following

end Agtp.Tools
