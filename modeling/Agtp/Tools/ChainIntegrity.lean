import Agtp.Audit.ChainLaw

/-! # Chain integrity check

The tool that walks one agent's chain from its head back to genesis and
reports missing links, cycles and, when a key is supplied, records that do not
verify. -/

namespace Agtp.Tools

open Audit

def maxWalkDepth : Nat := 100000

/-- The texts `"{audit_id}: unparseable ({error})"` and `"{audit_id}: {error}"`. -/
inductive SignatureFailure where
  | unparseable (auditId : String) (error : RecordError)
  | rejected (auditId : String) (error : RecordError)

structure ChainWalkResult where
  agentId : String
  headAuditId : Option String
  recordsWalked : Nat
  reachedGenesis : Bool
  orphanedHead : Bool
  broken : Bool
  breakAt : Option String
  signatureFailures : List SignatureFailure

def ChainWalkResult.ofHead (agentId : String) (headAuditId : Option String) :
    ChainWalkResult :=
  ⟨agentId, headAuditId, 0, false, false, false, none, []⟩

def ChainWalkResult.breakOff (result : ChainWalkResult) (auditId : String) :
    ChainWalkResult :=
  { result with broken := true, breakAt := some auditId }

section Walk

variable [JsonCodec] [TextCase] [TextOf] {PublicKey : Type}
  [SignatureScheme PublicKey]

def signatureFailuresOf (verifyKey : Option PublicKey) (auditId jws : String) :
    Raises (List SignatureFailure) :=
  match verifyKey with
  | none => .ok []
  | some key =>
      match verifyAttributionRecord jws key with
      | .ok _ => .ok []
      | .error (.record error) => .ok [.rejected auditId error]
      | .error .uncaught => .error ()

/-- The body of the walking loop for an audit id that was not seen before:
the result so far, and the predecessor to go on with. -/
def visit (records : AuditRecordStore) (verifyKey : Option PublicKey)
    (head current : String) (result : ChainWalkResult) :
    Raises (ChainWalkResult × Option String) :=
  match records.read current with
  | .error error => .error error
  | .ok none =>
      .ok ({ result.breakOff current with
        orphanedHead := result.orphanedHead || current == head }, none)
  | .ok (some jws) =>
      match parseAttributionRecord jws with
      | .error .uncaught => .error ()
      | .error (.record error) =>
          .ok ({ result.breakOff current with
            signatureFailures :=
              result.signatureFailures ++ [.unparseable current error] }, none)
      | .ok record =>
          match signatureFailuresOf verifyKey current jws with
          | .error error => .error error
          | .ok failures =>
              let result := { result with
                recordsWalked := result.recordsWalked + 1
                signatureFailures := result.signatureFailures ++ failures }
              match record.payload with
              | .object members =>
                  let previous := previousAuditId members
                  if previous = genesisSentinel then
                    .ok ({ result with reachedGenesis := true }, none)
                  else .ok (result, some previous)
              | _ => .error ()

/-- The loop of `walk_chain`. `depth` counts down from `MAX_WALK_DEPTH`. -/
def walkFrom (records : AuditRecordStore) (verifyKey : Option PublicKey)
    (head : String) :
    (depth : Nat) → (seen : List String) → (current : String) →
      ChainWalkResult → Raises ChainWalkResult
  | 0, _, current, result => .ok (result.breakOff current)
  | depth + 1, seen, current, result =>
      if current ∈ seen then .ok (result.breakOff current)
      else
        match visit records verifyKey head current result with
        | .error error => .error error
        | .ok (result, none) => .ok result
        | .ok (result, some previous) =>
            walkFrom records verifyKey head depth (current :: seen) previous
              result

def walkChain (agentId : String) (stores : AuditStores)
    (verifyKey : Option PublicKey) : Raises ChainWalkResult :=
  match stores.heads.head agentId with
  | .error error => .error error
  | .ok none =>
      .ok { ChainWalkResult.ofHead agentId none with reachedGenesis := true }
  | .ok (some head) =>
      walkFrom stores.records verifyKey head.auditId maxWalkDepth [] head.auditId
        (.ofHead agentId (some head.auditId))

/-! ## What a clean report means -/

/-- No break, genesis reached and, with a key, no signature failures. -/
structure ChainWalkResult.Clean (result : ChainWalkResult)
    (verifyKey : Option PublicKey) : Prop where
  unbroken : result.broken = false
  reachedGenesis : result.reachedGenesis = true
  verified : verifyKey.isSome → result.signatureFailures = []

def Accepted (verifyKey : Option PublicKey) (jws : String) : Prop :=
  ∀ key, verifyKey = some key →
    ∃ payload, verifyAttributionRecord jws key = .ok payload

/-- The record under this id is readable, names this predecessor and is
accepted. -/
def Passes (records : AuditRecordStore) (verifyKey : Option PublicKey)
    (current previous : String) : Prop :=
  ∃ jws, records.read current = .ok (some jws) ∧
    recordPrevious jws = some previous ∧ Accepted verifyKey jws

def ChainWalkResult.Spoiled (result : ChainWalkResult)
    (verifyKey : Option PublicKey) : Prop :=
  result.broken = true ∨
    (verifyKey.isSome ∧ result.signatureFailures ≠ [])

omit [SignatureScheme PublicKey] [JsonCodec] [TextCase] [TextOf] in
theorem ChainWalkResult.Spoiled.not_clean {result : ChainWalkResult}
    {verifyKey : Option PublicKey} (spoiled : result.Spoiled verifyKey) :
    ¬ result.Clean verifyKey := by
  intro clean
  rcases spoiled with broken | ⟨keyed, failures⟩
  · simp [clean.unbroken] at broken
  · exact failures (clean.verified keyed)

/-! ## One record -/

omit [TextCase] [TextOf] in
theorem signatureFailuresOf_accepted {verifyKey : Option PublicKey}
    {jws : String} (accepted : Accepted verifyKey jws) (auditId : String) :
    signatureFailuresOf verifyKey auditId jws = .ok [] := by
  cases verifyKey with
  | none => rfl
  | some key =>
      obtain ⟨payload, verified⟩ := accepted key rfl
      simp [signatureFailuresOf, verified]

omit [TextCase] [TextOf] in
theorem accepted_of_signatureFailuresOf {verifyKey : Option PublicKey}
    {auditId jws : String}
    (checked : signatureFailuresOf verifyKey auditId jws = .ok []) :
    Accepted verifyKey jws := by
  rintro key rfl
  simp only [signatureFailuresOf] at checked
  split at checked
  · next payload verified => exact ⟨payload, verified⟩
  · simp at checked
  · cases checked

/-- A record that passes is counted, and the walk goes on with its
predecessor unless that is genesis. -/
theorem visit_of_passes {records : AuditRecordStore}
    {verifyKey : Option PublicKey} {current previous : String}
    (passes : Passes records verifyKey current previous) (head : String)
    (result : ChainWalkResult) :
    visit records verifyKey head current result =
      if previous = genesisSentinel then
        .ok ({ result with
          recordsWalked := result.recordsWalked + 1, reachedGenesis := true }, none)
      else
        .ok ({ result with recordsWalked := result.recordsWalked + 1 },
          some previous) := by
  obtain ⟨jws, readable, named, accepted⟩ := passes
  unfold recordPrevious at named
  cases parses : parseAttributionRecord jws with
  | error => simp [parses] at named
  | ok record =>
      obtain ⟨header, payload, signature, signingInput⟩ := record
      rw [parses] at named
      cases payload with
      | object members =>
          simp only [Option.some.injEq] at named
          subst named
          unfold visit
          simp only [readable, parses, signatureFailuresOf_accepted accepted,
            List.append_nil]
      | _ => simp at named

theorem visit_spoiled {records : AuditRecordStore}
    {verifyKey : Option PublicKey} {head current : String}
    {result visited : ChainWalkResult} {next : Option String}
    (fails : ∀ previous, ¬ Passes records verifyKey current previous)
    (visits : visit records verifyKey head current result = .ok (visited, next)) :
    visited.Spoiled verifyKey := by
  unfold visit at visits
  split at visits
  · cases visits
  · cases visits
    exact .inl rfl
  · next jws readable =>
      split at visits
      · cases visits
      · cases visits
        exact .inl rfl
      · next record parses =>
          split at visits
          · cases visits
          · next failures checked =>
              obtain ⟨header, payload, signature, signingInput⟩ := record
              cases payload with
              | object members =>
                  have unaccepted : failures ≠ [] := by
                    rintro rfl
                    apply fails (previousAuditId members)
                    exact ⟨jws, readable, by simp [recordPrevious, parses],
                      accepted_of_signatureFailuresOf checked⟩
                  have keyed : verifyKey.isSome := by
                    cases verifyKey with
                    | some => rfl
                    | none =>
                        cases checked
                        exact absurd rfl unaccepted
                  simp only at visits
                  split at visits
                  all_goals
                    cases visits
                    exact .inr ⟨keyed, by simp [unaccepted]⟩
              | _ => cases visits

theorem visit_keeps_spoiled {records : AuditRecordStore}
    {verifyKey : Option PublicKey} {head current : String}
    {result visited : ChainWalkResult} {next : Option String}
    (spoiled : result.Spoiled verifyKey)
    (visits : visit records verifyKey head current result = .ok (visited, next)) :
    visited.Spoiled verifyKey := by
  by_cases passes : ∃ previous, Passes records verifyKey current previous
  · obtain ⟨previous, passes⟩ := passes
    rw [visit_of_passes passes] at visits
    split at visits
    all_goals
      cases visits
      exact spoiled
  · exact visit_spoiled (by simpa using passes) visits

/-! ## The whole walk -/

theorem walkFrom_keeps_spoiled {records : AuditRecordStore}
    {verifyKey : Option PublicKey} {head current : String} {depth : Nat}
    {seen : List String} {result report : ChainWalkResult}
    (spoiled : result.Spoiled verifyKey)
    (walks : walkFrom records verifyKey head depth seen current result =
      .ok report) : report.Spoiled verifyKey := by
  induction depth generalizing seen current result with
  | zero =>
      cases walks
      exact .inl rfl
  | succ depth induction =>
      unfold walkFrom at walks
      split at walks
      · cases walks
        exact .inl rfl
      · split at walks
        · cases walks
        · next visits =>
            cases walks
            exact visit_keeps_spoiled spoiled visits
        · next visits =>
            exact induction (visit_keeps_spoiled spoiled visits) walks

def PathAccepted (records : AuditRecordStore) (verifyKey : Option PublicKey)
    (path : List String) : Prop :=
  ∀ auditId ∈ path, ∀ jws, records.read auditId = .ok (some jws) →
    Accepted verifyKey jws

omit [SignatureScheme PublicKey] in
theorem recordLink_eq_some {records : AuditRecordStore}
    {auditId previous : String} :
    recordLink records auditId = some previous ↔
      ∃ jws, records.read auditId = .ok (some jws) ∧
        recordPrevious jws = some previous := by
  unfold recordLink
  constructor
  · intro linked
    split at linked
    · next jws readable => exact ⟨jws, readable, linked⟩
    · cases linked
  · rintro ⟨jws, readable, previous⟩
    simp [readable, previous]

theorem passes_iff {records : AuditRecordStore}
    {verifyKey : Option PublicKey} {current previous : String} :
    Passes records verifyKey current previous ↔
      recordLink records current = some previous ∧
        ∀ jws, records.read current = .ok (some jws) →
          Accepted verifyKey jws := by
  rw [recordLink_eq_some]
  constructor
  · rintro ⟨jws, readable, named, accepted⟩
    refine ⟨⟨jws, readable, named⟩, ?_⟩
    intro other otherReadable
    rw [readable] at otherReadable
    cases otherReadable
    exact accepted
  · rintro ⟨⟨jws, readable, named⟩, accepted⟩
    exact ⟨jws, readable, named, accepted jws readable⟩

theorem walkFrom_unseen {records : AuditRecordStore}
    {verifyKey : Option PublicKey} {head current : String} {depth : Nat}
    {seen : List String} {result : ChainWalkResult} (unseen : current ∉ seen) :
    walkFrom records verifyKey head (depth + 1) seen current result =
      match visit records verifyKey head current result with
      | .error error => .error error
      | .ok (result, none) => .ok result
      | .ok (result, some previous) =>
          walkFrom records verifyKey head depth (current :: seen) previous
            result := by
  rw [walkFrom, if_neg unseen]

theorem walkFrom_fails {records : AuditRecordStore}
    {verifyKey : Option PublicKey} {head current : String} {depth : Nat}
    {seen : List String} {result report : ChainWalkResult}
    (unseen : current ∉ seen)
    (fails : ∀ previous, ¬ Passes records verifyKey current previous)
    (walks : walkFrom records verifyKey head (depth + 1) seen current result =
      .ok report) : report.Spoiled verifyKey := by
  rw [walkFrom_unseen unseen] at walks
  split at walks
  · cases walks
  · next visits =>
      cases walks
      exact visit_spoiled fails visits
  · next visits =>
      exact walkFrom_keeps_spoiled (visit_spoiled fails visits) walks

omit [TextOf] in
theorem PathAccepted.cons_iff {records : AuditRecordStore}
    {verifyKey : Option PublicKey} {auditId : String} {path : List String} :
    PathAccepted records verifyKey (auditId :: path) ↔
      (∀ jws, records.read auditId = .ok (some jws) → Accepted verifyKey jws) ∧
        PathAccepted records verifyKey path := by
  simp [PathAccepted]

theorem path_step_iff {records : AuditRecordStore}
    {verifyKey : Option PublicKey} {current previous : String} {depth : Nat}
    {seen : List String} (unseen : current ∉ seen)
    (passes : Passes records verifyKey current previous)
    (notGenesis : previous ≠ genesisSentinel) :
    (∃ path, GenesisPath (recordLink records) genesisSentinel current path ∧
        path.length ≤ depth + 1 ∧ (∀ auditId ∈ path, auditId ∉ seen) ∧
        PathAccepted records verifyKey path) ↔
      ∃ path, GenesisPath (recordLink records) genesisSentinel previous path ∧
        path.length ≤ depth ∧ (∀ auditId ∈ path, auditId ∉ current :: seen) ∧
        PathAccepted records verifyKey path := by
  obtain ⟨linked, currentAccepted⟩ := passes_iff.mp passes
  constructor
  · rintro ⟨path, walk, short, fresh, accepted⟩
    have noRepeat := walk.nodup
    cases walk with
    | last toGenesis =>
        exact absurd (Option.some.inj (linked.symm.trans toGenesis)) notGenesis
    | @step _ next rest nextLinked _ remaining =>
        have same := Option.some.inj (linked.symm.trans nextLinked)
        subst same
        refine ⟨rest, remaining, by simpa using short, ?_,
          (PathAccepted.cons_iff.mp accepted).2⟩
        intro auditId member again
        rcases List.mem_cons.mp again with rfl | earlier
        · exact (List.nodup_cons.mp noRepeat).1 member
        · exact fresh auditId (List.mem_cons_of_mem _ member) earlier
  · rintro ⟨path, walk, short, fresh, accepted⟩
    refine ⟨current :: path, .step linked notGenesis walk, by simpa using short,
      ?_, PathAccepted.cons_iff.mpr ⟨currentAccepted, accepted⟩⟩
    intro auditId member
    rcases List.mem_cons.mp member with rfl | later
    · exact unseen
    · exact fun again => fresh auditId later (List.mem_cons_of_mem _ again)

/-- The walk ends in a clean report exactly when the predecessor path exists,
fits the depth, avoids what was seen, and is accepted record by record. -/
theorem walkFrom_clean_iff {records : AuditRecordStore}
    {verifyKey : Option PublicKey} {head current : String} {depth : Nat}
    {seen : List String} {result : ChainWalkResult}
    (unspoiled : ¬ result.Spoiled verifyKey) :
    (∃ report, walkFrom records verifyKey head depth seen current result =
        .ok report ∧ report.Clean verifyKey) ↔
      ∃ path, GenesisPath (recordLink records) genesisSentinel current path ∧
        path.length ≤ depth ∧ (∀ auditId ∈ path, auditId ∉ seen) ∧
        PathAccepted records verifyKey path := by
  induction depth generalizing seen current result with
  | zero =>
      constructor
      · rintro ⟨report, walks, clean⟩
        cases walks
        have unbroken := clean.unbroken
        cases unbroken
      · rintro ⟨path, walk, short, _⟩
        have empty := List.length_eq_zero_iff.mp (Nat.le_zero.mp short)
        subst empty
        cases walk
  | succ depth induction =>
      by_cases unseen : current ∈ seen
      · constructor
        · rintro ⟨report, walks, clean⟩
          rw [walkFrom, if_pos unseen] at walks
          cases walks
          have unbroken := clean.unbroken
          cases unbroken
        · rintro ⟨path, walk, _, fresh, _⟩
          exact absurd unseen (fresh current walk.head_mem)
      · by_cases passes : ∃ previous, Passes records verifyKey current previous
        · obtain ⟨previous, passes⟩ := passes
          by_cases atGenesis : previous = genesisSentinel
          · subst atGenesis
            obtain ⟨linked, accepted⟩ := passes_iff.mp passes
            constructor
            · intro _
              refine ⟨[current], .last linked, by simp, by simpa using unseen, ?_⟩
              simpa [PathAccepted] using accepted
            · intro _
              rw [walkFrom_unseen unseen, visit_of_passes passes]
              refine ⟨_, rfl, ?_, rfl, ?_⟩
              · simpa using fun broken => unspoiled (.inl broken)
              · intro keyed
                by_contra failures
                exact unspoiled (.inr ⟨keyed, failures⟩)
          · rw [path_step_iff unseen passes atGenesis, walkFrom_unseen unseen,
              visit_of_passes passes, if_neg atGenesis]
            exact induction unspoiled
        · have fails : ∀ previous, ¬ Passes records verifyKey current previous := by
            simpa using passes
          constructor
          · rintro ⟨report, walks, clean⟩
            exact absurd clean (walkFrom_fails unseen fails walks).not_clean
          · rintro ⟨path, walk, _, _, accepted⟩
            obtain ⟨previous, linked⟩ := walk.linked_of_mem walk.head_mem
            exact absurd (passes_iff.mpr ⟨linked, accepted current walk.head_mem⟩)
              (fails previous)

theorem walkFrom_step {records : AuditRecordStore} {verifyKey : Option PublicKey}
    {head current next : String} {rest seen : List String}
    (linked : recordLink records current = some next) (notGenesis : next ≠ genesisSentinel)
    (remaining : GenesisPath (recordLink records) genesisSentinel next rest)
    (accepted : PathAccepted records verifyKey (current :: rest))
    (fresh : ∀ auditId ∈ current :: rest, auditId ∉ seen) (depth : Nat)
    (result : ChainWalkResult) :
    walkFrom records verifyKey head (depth + 1) seen current result =
        walkFrom records verifyKey head depth (current :: seen) next
          { result with recordsWalked := result.recordsWalked + 1 } ∧
      ∀ auditId ∈ rest, auditId ∉ current :: seen := by
  constructor
  · rw [walkFrom_unseen (fresh current List.mem_cons_self),
      visit_of_passes (passes_iff.mpr ⟨linked, accepted current List.mem_cons_self⟩),
      if_neg notGenesis]
  · have noRepeat := (GenesisPath.step linked notGenesis remaining).nodup
    intro auditId member again
    rcases List.mem_cons.mp again with here | earlier
    · rw [here] at member
      exact (List.nodup_cons.mp noRepeat).1 member
    · exact fresh auditId (List.mem_cons_of_mem _ member) earlier

theorem walkFrom_of_path {records : AuditRecordStore}
    {verifyKey : Option PublicKey} {head current : String} {depth : Nat}
    {seen path : List String} {result : ChainWalkResult}
    (walk : GenesisPath (recordLink records) genesisSentinel current path)
    (accepted : PathAccepted records verifyKey path)
    (short : path.length ≤ depth) (fresh : ∀ auditId ∈ path, auditId ∉ seen) :
    walkFrom records verifyKey head depth seen current result =
      .ok { result with
        recordsWalked := result.recordsWalked + path.length
        reachedGenesis := true } := by
  induction depth generalizing current seen path result with
  | zero =>
      rw [List.length_eq_zero_iff.mp (Nat.le_zero.mp short)] at walk
      cases walk
  | succ depth induction =>
      cases walk with
      | last toGenesis =>
          rw [walkFrom_unseen (fresh current List.mem_cons_self),
            visit_of_passes (passes_iff.mpr ⟨toGenesis, accepted current List.mem_cons_self⟩),
            if_pos rfl]
          rfl
      | @step _ next rest linked notGenesis remaining =>
          rcases walkFrom_step linked notGenesis remaining accepted fresh depth result with
            ⟨stepped, restFresh⟩
          rw [stepped, induction remaining (PathAccepted.cons_iff.mp accepted).2
            (by simpa using short) restFresh]
          simp only [List.length_cons, Except.ok.injEq, ChainWalkResult.mk.injEq, and_true,
            true_and]
          omega

theorem walkChain_of_path {agentId : String} {stores : AuditStores}
    {head : ChainHead} {path : List String}
    (named : stores.heads.head agentId = .ok (some head))
    (walk : GenesisPath (recordLink stores.records) genesisSentinel head.auditId path)
    (short : path.length ≤ maxWalkDepth) :
    walkChain agentId stores (none : Option PublicKey) =
      .ok { ChainWalkResult.ofHead agentId (some head.auditId) with
        recordsWalked := path.length
        reachedGenesis := true } := by
  have accepted : PathAccepted stores.records (none : Option PublicKey) path :=
    fun _ _ _ _ _ given => nomatch given
  unfold walkChain
  rw [named]
  refine (walkFrom_of_path walk accepted short (by simp)).trans ?_
  simp [ChainWalkResult.ofHead]

/-! ## Records walked -/

omit [SignatureScheme PublicKey] in
inductive Walked (records : AuditRecordStore) (head : String) : String → Prop
  | head : Walked records head head
  | previous {auditId next} :
      Walked records head auditId →
      recordLink records auditId = some next → next ≠ genesisSentinel →
      Walked records head next

omit [SignatureScheme PublicKey] in
theorem GenesisPath.mem_of_link {records : AuditRecordStore}
    {head auditId next : String} {path : List String}
    (walk : GenesisPath (recordLink records) genesisSentinel head path)
    (member : auditId ∈ path) (linked : recordLink records auditId = some next)
    (notGenesis : next ≠ genesisSentinel) : next ∈ path := by
  obtain ⟨rest, restWalk, suffix⟩ := walk.suffix_of_mem member
  cases restWalk with
  | last toGenesis =>
      exact absurd (Option.some.inj (linked.symm.trans toGenesis)) notGenesis
  | step nextLinked _ remaining =>
      have same := Option.some.inj (linked.symm.trans nextLinked)
      subst same
      exact suffix.mem (List.mem_cons_of_mem _ remaining.head_mem)

omit [SignatureScheme PublicKey] in
theorem Walked.mem {records : AuditRecordStore} {head auditId : String}
    {path : List String} (walked : Walked records head auditId)
    (walk : GenesisPath (recordLink records) genesisSentinel head path) :
    auditId ∈ path := by
  induction walked with
  | head => exact walk.head_mem
  | previous _ linked notGenesis induction =>
      exact GenesisPath.mem_of_link walk induction linked notGenesis

omit [SignatureScheme PublicKey] in
theorem walked_of_mem {records : AuditRecordStore} {first current : String}
    {path : List String} (reached : Walked records first current)
    (walk : GenesisPath (recordLink records) genesisSentinel current path)
    {auditId : String} (member : auditId ∈ path) :
    Walked records first auditId := by
  induction walk with
  | last =>
      rw [List.mem_singleton.mp member]
      exact reached
  | step linked notGenesis _ induction =>
      rcases List.mem_cons.mp member with rfl | later
      · exact reached
      · exact induction (.previous reached linked notGenesis) later

def SignedBy (key : PublicKey) (jws : String) : Prop :=
  ∃ record members, parseAttributionRecord jws = .ok record ∧
    record.header = .object members ∧
    Json.member members "alg" = some (.string "EdDSA") ∧
    SignatureScheme.verifies key record.signature record.signingInput = true

omit [SignatureScheme PublicKey] [TextCase] [TextOf] in
def Unsigned (jws : String) : Prop :=
  ∃ record members, parseAttributionRecord jws = .ok record ∧
    record.header = .object members ∧
    Json.member members "alg" = some (.string "none")

omit [TextCase] [TextOf] in
theorem signed_or_unsigned {key : PublicKey} {jws : String} {payload : Json}
    (verified : verifyAttributionRecord jws key = .ok payload) :
    SignedBy key jws ∨ Unsigned jws := by
  unfold verifyAttributionRecord at verified
  cases parses : parseAttributionRecord jws with
  | error => simp [parses, bind, Except.bind] at verified
  | ok record =>
      simp only [parses, bind, Except.bind] at verified
      split at verified
      · next members header =>
          split at verified
          · next unsigned => exact .inr ⟨record, members, parses, header, unsigned⟩
          · next signed =>
              split at verified
              · next verifies =>
                  exact .inl ⟨record, members, parses, header, signed, verifies⟩
              · cases verified
          · cases verified
      · cases verified

omit [TextCase] [TextOf] in
theorem accepted_of_unsigned {jws : String} {record : ParsedRecord}
    {members : List (String × Json)}
    (parses : parseAttributionRecord jws = .ok record)
    (header : record.header = .object members)
    (unsigned : Json.member members "alg" = some (.string "none"))
    (empty : record.signature = []) (verifyKey : Option PublicKey) :
    Accepted verifyKey jws := by
  intro key _
  refine ⟨record.payload, ?_⟩
  simp [verifyAttributionRecord, parses, header, unsigned, empty, bind,
    Except.bind]

omit [TextCase] [TextOf] in
theorem SignedBy.not_unsigned {key : PublicKey} {jws : String}
    (signed : SignedBy key jws) : ¬ Unsigned jws := by
  rintro ⟨record, members, parses, header, none⟩
  obtain ⟨record', members', parses', header', eddsa, _⟩ := signed
  have sameRecord := Except.ok.inj (parses.symm.trans parses')
  subst sameRecord
  have sameMembers := Json.object.inj (header.symm.trans header')
  subst sameMembers
  have sameAlg := Json.string.inj (Option.some.inj (none.symm.trans eddsa))
  exact absurd sameAlg (by decide)

/-! ## Clean reports and tampering -/

section Tampering

variable [Digest]

/-- The record is stored under its own digest, names the agent, and is signed
by the key if one was supplied. -/
structure Untampered (verifyKey : Option PublicKey) (agentId auditId jws : String) :
    Prop where
  digest : auditIdFor jws = auditId
  agent : NamesAgent agentId jws
  signed : ∀ key, verifyKey = some key → SignedBy key jws

/-- A clean report for the agent means that every record walked is
untampered. -/
def CleanReportSound (agentId : String) (stores : AuditStores)
    (verifyKey : Option PublicKey) : Prop :=
  ∀ report, walkChain agentId stores verifyKey = .ok report →
    report.Clean verifyKey →
    ∀ head, stores.heads.head agentId = .ok (some head) →
    ∀ auditId jws, Walked stores.records head.auditId auditId →
      stores.records.read auditId = .ok (some jws) →
      Untampered verifyKey agentId auditId jws

/-- On no complete path from the agent's head whose records verify is there a
swapped file, a record of another agent or, with a key, an unsigned record. -/
def NoOverlookedTampering (agentId : String) (stores : AuditStores)
    (verifyKey : Option PublicKey) : Prop :=
  ∀ head path, stores.heads.head agentId = .ok (some head) →
    GenesisPath (recordLink stores.records) genesisSentinel head.auditId path →
    path.length ≤ maxWalkDepth →
    PathAccepted stores.records verifyKey path →
    ∀ auditId ∈ path, ∀ jws, stores.records.read auditId = .ok (some jws) →
      auditIdFor jws = auditId ∧ NamesAgent agentId jws ∧
        (verifyKey.isSome → ¬ Unsigned jws)

omit [Digest] in
theorem walkChain_of_head {agentId : String} {stores : AuditStores}
    {head : ChainHead} (named : stores.heads.head agentId = .ok (some head))
    (verifyKey : Option PublicKey) :
    walkChain agentId stores verifyKey =
      walkFrom stores.records verifyKey head.auditId maxWalkDepth [] head.auditId
        (.ofHead agentId (some head.auditId)) := by
  simp [walkChain, named]

omit [Digest] in
/-- The report is clean exactly when the head's path to genesis exists, fits
the depth and verifies. -/
theorem walkChain_clean_iff {agentId : String} {stores : AuditStores}
    {head : ChainHead} (named : stores.heads.head agentId = .ok (some head))
    (verifyKey : Option PublicKey) :
    (∃ report, walkChain agentId stores verifyKey = .ok report ∧
        report.Clean verifyKey) ↔
      ∃ path, GenesisPath (recordLink stores.records) genesisSentinel
          head.auditId path ∧
        path.length ≤ maxWalkDepth ∧ PathAccepted stores.records verifyKey path := by
  have unspoiled :
      ¬ (ChainWalkResult.ofHead agentId (some head.auditId)).Spoiled verifyKey := by
    simp [ChainWalkResult.Spoiled, ChainWalkResult.ofHead]
  rw [walkChain_of_head named, walkFrom_clean_iff unspoiled]
  simp

/-- A clean report implies an untampered chain exactly when no tampering of
the three kinds the walk does not look for lies on the head's path. -/
theorem clean_report_sound_iff (agentId : String) (stores : AuditStores)
    (verifyKey : Option PublicKey) :
    CleanReportSound agentId stores verifyKey ↔
      NoOverlookedTampering agentId stores verifyKey := by
  constructor
  · intro sound head path named walk short accepted auditId member jws readable
    obtain ⟨report, walks, clean⟩ :=
      (walkChain_clean_iff named verifyKey).mpr ⟨path, walk, short, accepted⟩
    have walked := walked_of_mem .head walk member
    have untampered :=
      sound report walks clean head named auditId jws walked readable
    refine ⟨untampered.digest, untampered.agent, ?_⟩
    intro keyed
    obtain ⟨key, given⟩ := Option.isSome_iff_exists.mp keyed
    exact (untampered.signed key given).not_unsigned
  · intro noTampering report walks clean head named auditId jws walked readable
    obtain ⟨path, walk, short, accepted⟩ :=
      (walkChain_clean_iff named verifyKey).mp ⟨report, walks, clean⟩
    have member := walked.mem walk
    obtain ⟨digest, agent, notUnsigned⟩ :=
      noTampering head path named walk short accepted auditId member jws readable
    refine ⟨digest, agent, ?_⟩
    rintro key rfl
    obtain ⟨payload, verified⟩ := accepted auditId member jws readable key rfl
    rcases signed_or_unsigned verified with signed | unsigned
    · exact signed
    · exact absurd unsigned (notUnsigned rfl)

end Tampering

end Walk

/-! ## A chain that is reported clean -/

section SwappedRecord

open Audit.ChainSample
open scoped Plain

/-- A key that verifies no signature. -/
local instance : SignatureScheme Unit := ⟨fun _ _ _ => false⟩

/-- The head of agent `b` names a file that holds an unsigned record of agent
`a` whose digest is another. -/
def swappedStores : AuditStores :=
  ⟨AuditChainStore.empty.write "b" secondId "now",
    ⟨fun name => if name = secondId then .text (compact "r1") else .missing⟩⟩

theorem swapped_head :
    swappedStores.heads.head "b" = .ok (some ⟨secondId, "now"⟩) := rfl

theorem swapped_read :
    swappedStores.records.read secondId = .ok (some (compact "r1")) := by
  apply read_stored secondId_wellFormed
  simp [AuditRecordStore.Stored, swappedStores]

theorem swapped_accepted : Accepted (some ()) (compact "r1") := by
  obtain ⟨parsed, parses, header, _, signature⟩ := parse_sample (.inl rfl)
  exact accepted_of_unsigned parses header rfl signature _

/-- The walk of agent `b` is clean, with a key supplied, although the one
record it visits is swapped. -/
theorem clean_report_of_swapped_record :
    ¬ CleanReportSound "b" swappedStores (some ()) := by
  intro sound
  have previous := recordPrevious_buildRecord none (response "r1")
    headerReads (payloadReads (.inl rfl))
  rw [buildRecord_first] at previous
  have linked : recordLink swappedStores.records secondId =
      some genesisSentinel :=
    recordLink_eq_some.mpr ⟨compact "r1", swapped_read, previous⟩
  have accepted : PathAccepted swappedStores.records (some ()) [secondId] := by
    rintro auditId member jws readable
    rw [List.mem_singleton.mp member, swapped_read] at readable
    rw [← Option.some.inj (Except.ok.inj readable)]
    exact swapped_accepted
  obtain ⟨report, walks, clean⟩ := (walkChain_clean_iff swapped_head (some ())).mpr
    ⟨[secondId], .last linked, by simp [maxWalkDepth], accepted⟩
  have untampered := sound report walks clean _ swapped_head secondId
    (compact "r1") .head swapped_read
  have digest := untampered.digest
  rw [auditIdFor_first] at digest
  exact firstId_ne_secondId digest

end SwappedRecord

end Agtp.Tools
