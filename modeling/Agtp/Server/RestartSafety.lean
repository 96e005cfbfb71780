import Agtp.Server.Lifecycle

/-! # Restarts

What a server hosts when it loads its directory again after a sequence of
lifecycle calls. -/

namespace Agtp

namespace Lifecycle

/-! ## Statuses asked for -/

def lastStatus (initial : String) (asked : List String) : String :=
  asked.getLast?.getD initial

theorem lastStatus_append (initial : String) (asked : List String) (status : String) :
    lastStatus initial (asked ++ [status]) = status := by
  simp [lastStatus]

theorem lastStatus_of_all {initial : String} {asked : List String}
    (all : ∀ status ∈ asked, status = initial) : lastStatus initial asked = initial := by
  unfold lastStatus
  cases last : asked.getLast? with
  | none => rfl
  | some status => exact all status (List.mem_of_getLast? last)

variable [TextCase] [TextOf] [BodyCodec] [IssuerKeys]

def askedStatuses (config : LifecycleConfig) (agentId : String)
    (genesis : Option Genesis) (calls : List LifecycleCall) : List String :=
  (calls.filter fun call => call.agentId = agentId ∧
    (admitCall config genesis call).toOption.isSome).map (·.event.newStatus)

def GoesThrough (config : LifecycleConfig) (agentId : String)
    (genesis : Option Genesis) (call : LifecycleCall) : Prop :=
  call.agentId = agentId ∧ (admitCall config genesis call).toOption.isSome = true

theorem askedStatuses_through {config : LifecycleConfig} {agentId : String}
    {genesis : Option Genesis} {call : LifecycleCall}
    (through : GoesThrough config agentId genesis call) (calls : List LifecycleCall) :
    askedStatuses config agentId genesis (calls ++ [call]) =
      askedStatuses config agentId genesis calls ++ [call.event.newStatus] := by
  unfold askedStatuses
  rw [List.filter_append, List.map_append, List.filter_singleton]
  simp [through.1, through.2]

theorem askedStatuses_other {config : LifecycleConfig} {agentId : String}
    {genesis : Option Genesis} {call : LifecycleCall}
    (other : ¬GoesThrough config agentId genesis call) (calls : List LifecycleCall) :
    askedStatuses config agentId genesis (calls ++ [call]) =
      askedStatuses config agentId genesis calls := by
  unfold askedStatuses
  rw [List.filter_append, List.map_append, List.filter_singleton]
  unfold GoesThrough at other
  simp [other]

/-! ## Sequences of calls -/

variable [FloatText]

def contentAfter (directory : AgentDirectory) (agent : HostedAgent)
    (asked : List String) : Option (Except DecodeFailure Json) :=
  if ∀ status ∈ asked, status = agent.document.status then
    directory.files.get? agent.path
  else
    some (.ok (.object (agent.document.withStatus
      (lastStatus agent.document.status asked)).toDict))

omit [TextCase] [TextOf] [BodyCodec] [IssuerKeys] in
theorem contentAfter_same (directory : AgentDirectory) (agent : HostedAgent)
    (asked : List String) :
    contentAfter directory agent
        (asked ++ [lastStatus agent.document.status asked]) =
      contentAfter directory agent asked := by
  unfold contentAfter
  rw [lastStatus_append]
  by_cases all : ∀ status ∈ asked, status = agent.document.status
  · rw [if_pos all, if_pos]
    intro status member
    rcases List.mem_append.mp member with earlier | last
    · exact all status earlier
    · rw [List.mem_singleton.mp last, lastStatus_of_all all]
  · rw [if_neg all, if_neg]
    exact fun more => all fun status member =>
      more status (List.mem_append_left _ member)

omit [TextCase] [TextOf] [BodyCodec] [IssuerKeys] in
theorem contentAfter_change {agent : HostedAgent} {asked : List String}
    {status : String} (changes : lastStatus agent.document.status asked ≠ status)
    (directory : AgentDirectory) :
    contentAfter directory agent (asked ++ [status]) =
      some (.ok (.object (agent.document.withStatus status).toDict)) := by
  unfold contentAfter
  rw [lastStatus_append, if_neg]
  intro all
  have before : ∀ held ∈ asked, held = agent.document.status := fun held member =>
    all held (List.mem_append_left _ member)
  have now := all status (List.mem_append_right _ (List.mem_singleton.mpr rfl))
  exact changes ((lastStatus_of_all before).trans now.symm)

structure Evolved (config : LifecycleConfig) (start final : Hosting)
    (calls : List LifecycleCall) : Prop where
  genesis : final.directory.genesis = start.directory.genesis
  keys : final.directory.files.keys = start.directory.files.keys
  agents : ∀ agentId, final.agents.get? agentId =
    (start.agents.get? agentId).map fun agent =>
      agent.withStatus (lastStatus agent.document.status
        (askedStatuses config agentId agent.genesis calls))
  files : ∀ agentId agent, start.agents.get? agentId = some agent →
    final.directory.files.get? agent.path = contentAfter start.directory agent
      (askedStatuses config agentId agent.genesis calls)
  others : ∀ path, (∀ agentId agent, start.agents.get? agentId = some agent →
    agent.path ≠ path) →
      final.directory.files.get? path = start.directory.files.get? path

def Changes (config : LifecycleConfig) (agent : HostedAgent)
    (call : LifecycleCall) : Prop :=
  (admitCall config agent.genesis call).toOption.isSome = true ∧
    agent.document.status ≠ call.event.newStatus

theorem serveCall_cases (config : LifecycleConfig) (hosting : Hosting)
    (call : LifecycleCall) :
    (serveCall config hosting call = hosting ∧
      ∀ agent, hosting.agents.get? call.agentId = some agent →
        ¬Changes config agent call) ∨
    ∃ agent record, hosting.agents.get? call.agentId = some agent ∧
      Changes config agent call ∧ record.newStatus = call.event.newStatus ∧
      serveCall config hosting call = commit config hosting call.agentId record := by
  unfold serveCall
  cases held : hosting.agents.get? call.agentId with
  | none => simp
  | some agent =>
      unfold transition
      simp only [Option.some.injEq, forall_eq']
      cases admitted : admitCall config agent.genesis call with
      | error refusal =>
          refine .inl ⟨rfl, ?_⟩
          intro changes
          simp [Changes, admitted, Except.toOption] at changes
      | ok params =>
          by_cases same : agent.document.status = call.event.newStatus
          · simp only [same, if_true]
            exact .inl ⟨trivial, fun changes => changes.2 same⟩
          · simp only [same, if_false]
            refine .inr ⟨agent, recordOf call agent.document.status params, rfl, ?_,
              rfl, rfl⟩
            exact ⟨by simp [admitted, Except.toOption], same⟩

theorem Evolved.idle {config : LifecycleConfig} {start middle : Hosting}
    {calls : List LifecycleCall} (evolved : Evolved config start middle calls)
    {call : LifecycleCall}
    (idle : ∀ agent, middle.agents.get? call.agentId = some agent →
      ¬Changes config agent call) : Evolved config start middle (calls ++ [call]) := by
  -- a call that goes through asks for the status that the agent has by now
  have settled (agentId : String) (agent : HostedAgent)
      (hosted : start.agents.get? agentId = some agent)
      (through : GoesThrough config agentId agent.genesis call) :
      lastStatus agent.document.status
        (askedStatuses config agentId agent.genesis calls) = call.event.newStatus := by
    have now := evolved.agents agentId
    rw [hosted, ← through.1] at now
    by_contra different
    rw [← through.1] at different
    exact idle _ now ⟨through.2, different⟩
  exact {
    genesis := evolved.genesis
    keys := evolved.keys
    agents := by
      intro agentId
      rw [evolved.agents agentId]
      cases hosted : start.agents.get? agentId with
      | none => rfl
      | some agent =>
          by_cases through : GoesThrough config agentId agent.genesis call
          · simp only [Option.map_some, askedStatuses_through through,
              lastStatus_append, settled agentId agent hosted through]
          · simp only [Option.map_some, askedStatuses_other through]
    files := by
      intro agentId agent hosted
      rw [evolved.files agentId agent hosted]
      by_cases through : GoesThrough config agentId agent.genesis call
      · rw [askedStatuses_through through, ← settled agentId agent hosted through,
          contentAfter_same]
      · rw [askedStatuses_other through]
    others := evolved.others }

theorem Evolved.change {config : LifecycleConfig} {start middle : Hosting}
    (places : start.directory.Places start.agents) {calls : List LifecycleCall}
    (evolved : Evolved config start middle calls) {call : LifecycleCall}
    {current : HostedAgent} {record : LifecycleRecord}
    (held : middle.agents.get? call.agentId = some current)
    (changes : Changes config current call)
    (newStatus : record.newStatus = call.event.newStatus) :
    Evolved config start (commit config middle call.agentId record)
      (calls ++ [call]) := by
  have evolution := evolved.agents call.agentId
  rw [held] at evolution
  rcases Option.map_eq_some_iff.mp evolution.symm with ⟨agent, hosted, same⟩
  have path : current.path = agent.path := by rw [← same]; rfl
  have through : GoesThrough config call.agentId agent.genesis call :=
    ⟨rfl, by have asked := changes.1; rw [← same] at asked; exact asked⟩
  have different : lastStatus agent.document.status
      (askedStatuses config call.agentId agent.genesis calls) ≠
        call.event.newStatus := by
    have status := changes.2
    rw [← same] at status
    exact status
  have written : (commit config middle call.agentId record).directory =
      middle.directory.write agent.path
        (agent.document.withStatus call.event.newStatus) := by
    rw [directory_commit held, path, newStatus, ← same]
    rfl
  exact {
    genesis := by rw [written]; exact evolved.genesis
    keys := by
      have present : agent.path ∈ middle.directory.files.keys := by
        rw [evolved.keys]
        exact places.present call.agentId agent hosted
      rw [written, AgentDirectory.write, Dict.keys_set, if_pos present]
      exact evolved.keys
    agents := by
      intro agentId
      rw [agents_commit held, newStatus, ← same]
      by_cases own : agentId = call.agentId
      · rw [own, Dict.get?_set_same, hosted, Option.map_some,
          askedStatuses_through through, lastStatus_append]
        rfl
      · rw [Dict.get?_set_other _ own, evolved.agents agentId]
        congr 1
        funext other
        rw [askedStatuses_other fun through => own through.1.symm]
    files := by
      intro agentId other otherHosted
      rw [written, AgentDirectory.write]
      by_cases own : agentId = call.agentId
      · rw [own, hosted] at otherHosted
        cases otherHosted
        rw [own, Dict.get?_set_same, askedStatuses_through through,
          contentAfter_change different]
      · have elsewhere : other.path ≠ agent.path := fun equal =>
          own (places.separate agentId call.agentId other agent otherHosted hosted equal)
        rw [Dict.get?_set_other _ elsewhere, evolved.files agentId other otherHosted,
          askedStatuses_other fun through => own through.1.symm]
    others := by
      intro path none
      have elsewhere : path ≠ agent.path := fun equal =>
        none call.agentId agent hosted equal.symm
      rw [written, AgentDirectory.write, Dict.get?_set_other _ elsewhere]
      exact evolved.others path none }

theorem evolved_serveCall (config : LifecycleConfig) {start middle : Hosting}
    (places : start.directory.Places start.agents) {calls : List LifecycleCall}
    (evolved : Evolved config start middle calls) (call : LifecycleCall) :
    Evolved config start (serveCall config middle call) (calls ++ [call]) := by
  rcases serveCall_cases config middle call with ⟨unchanged, idle⟩ |
    ⟨agent, record, held, changes, newStatus, committed⟩
  · rw [unchanged]
    exact evolved.idle idle
  · rw [committed]
    exact evolved.change places held changes newStatus

theorem evolved_serveCalls (config : LifecycleConfig) {start : Hosting}
    (places : start.directory.Places start.agents) (calls : List LifecycleCall) :
    Evolved config start (serveCalls config start calls) calls := by
  induction calls using List.reverseRecOn with
  | nil =>
      exact {
        genesis := rfl
        keys := rfl
        agents := by
          intro agentId
          have kept (agent : HostedAgent) :
              agent.withStatus (lastStatus agent.document.status
                (askedStatuses config agentId agent.genesis [])) = agent := rfl
          simp [serveCalls, kept]
        files := by simp [contentAfter, askedStatuses, serveCalls]
        others := fun _ _ => rfl }
  | append_singleton calls call induction =>
      have step : serveCalls config start (calls ++ [call]) =
          serveCall config (serveCalls config start calls) call := by
        simp [serveCalls]
      rw [step]
      exact evolved_serveCall config places induction call

theorem Evolved.content_cases {config : LifecycleConfig} {start final : Hosting}
    {calls : List LifecycleCall} (evolved : Evolved config start final calls)
    (path : String) :
    final.directory.files.get? path = start.directory.files.get? path ∨
      ∃ agentId agent status, start.agents.get? agentId = some agent ∧
        agent.path = path ∧ final.directory.files.get? path =
          some (.ok (.object (agent.document.withStatus status).toDict)) := by
  by_cases placed : ∃ agentId agent, start.agents.get? agentId = some agent ∧
      agent.path = path
  · rcases placed with ⟨agentId, agent, hosted, rfl⟩
    have content := evolved.files agentId agent hosted
    unfold contentAfter at content
    split at content
    · exact .inl content
    · exact .inr ⟨agentId, agent, _, hosted, rfl, content⟩
  · refine .inl (evolved.others path ?_)
    intro agentId agent hosted same
    exact placed ⟨agentId, agent, hosted, same⟩

/-! ## Loading again -/

variable [NumberText] [ManifestKeys] [JsonCodec]

/-- Loading the directory again hosts the agent from its own file, under the
status. -/
def RestartSafe (hosting : Hosting) (agentId path status : String) : Prop :=
  ∃ agents agent, hosting.directory.load = .ok agents ∧
    agents.get? agentId = some agent ∧ agent.path = path ∧
    agent.document.status = status

/-- The registrar's signature is over the hosted document with the status, as it
is over the document of the file. -/
def SameForm (directory : AgentDirectory) (agent : HostedAgent) (status : String) :
    Prop :=
  ∃ document, directory.document? agent.path = some document ∧
    JsonCodec.canonical (agent.document.withStatus status).signedForm =
      JsonCodec.canonical document.signedForm

omit [NumberText] [ManifestKeys] [JsonCodec] in
theorem Evolved.holds {config : LifecycleConfig} {start final : Hosting}
    {calls : List LifecycleCall} (evolved : Evolved config start final calls)
    {path : String} {content : Except DecodeFailure Json}
    (held : start.directory.files.get? path = some content) :
    ∃ later, final.directory.files.get? path = some later := by
  rcases evolved.content_cases path with same | ⟨_, _, _, _, _, written⟩
  · exact ⟨content, same.trans held⟩
  · exact ⟨_, written⟩

theorem Evolved.loads {config : LifecycleConfig} {start final : Hosting}
    {calls : List LifecycleCall} (evolved : Evolved config start final calls)
    (loaded : start.directory.load = .ok start.agents) :
    ∃ agents, final.directory.load = .ok agents := by
  have started := (AgentDirectory.load_ok_iff start.directory).mp ⟨_, loaded⟩
  rw [AgentDirectory.load_ok_iff]
  rintro ⟨path, content⟩ member
  have held := (Dict.get?_eq_some_iff _).mpr member
  rcases evolved.content_cases path with same | ⟨_, agent, status, _, _, written⟩
  · rw [same, Dict.get?_eq_some_iff] at held
    exact started (path, content) held
  · rw [held, Option.some.injEq] at written
    rw [written, AgentDirectory.readFile_toDict]
    split <;> simp

theorem Evolved.hosts_other {config : LifecycleConfig} {start final : Hosting}
    {calls : List LifecycleCall} (evolved : Evolved config start final calls)
    (places : start.directory.Places start.agents) {agentId : String}
    {agent : HostedAgent} (hosted : start.agents.get? agentId = some agent)
    {path : String} (elsewhere : path ≠ agent.path)
    {content later : Except DecodeFailure Json}
    (held : start.directory.files.get? path = some content)
    (now : final.directory.files.get? path = some later)
    (absent : start.directory.hosts agentId (path, content) = none) :
    final.directory.hosts agentId (path, later) = none := by
  rcases evolved.content_cases path with same |
    ⟨otherId, other, status, otherHosted, own, written⟩
  · rw [same, held, Option.some.injEq] at now
    rw [← now, AgentDirectory.hosts_of_genesis evolved.genesis, absent]
  · rw [now, Option.some.injEq] at written
    rw [written, AgentDirectory.hosts_toDict, if_neg]
    rintro ⟨_, named⟩
    have otherNamed : other.document.agentId = otherId :=
      places.named otherId other otherHosted
    have same : otherId = agentId := otherNamed.symm.trans named
    rw [same, hosted] at otherHosted
    cases otherHosted
    exact elsewhere own.symm

theorem Evolved.restartSafe_iff {config : LifecycleConfig} {start final : Hosting}
    {calls : List LifecycleCall} (evolved : Evolved config start final calls)
    (loaded : start.directory.load = .ok start.agents) {agentId : String}
    {agent : HostedAgent} (hosted : start.agents.get? agentId = some agent)
    {later : Except DecodeFailure Json}
    (now : final.directory.files.get? agent.path = some later) (status : String) :
    RestartSafe final agentId agent.path status ↔
      ∃ again, final.directory.hosts agentId (agent.path, later) = some again ∧
        again.document.status = status := by
  constructor
  · rintro ⟨agents, again, reloaded, held, path, same⟩
    rw [AgentDirectory.get?_load reloaded] at held
    rcases List.exists_of_findSome?_eq_some held with ⟨file, member, fileHosts⟩
    rcases AgentDirectory.hosts_some fileHosts with ⟨document, source, _, _, equal⟩
    have filePath : file.1 = agent.path := by
      rw [← path, equal, AgentDirectory.path_host]
    have content : some file.2 = some later := by
      rw [← now, ← filePath]
      exact ((Dict.get?_eq_some_iff _).mpr (List.mem_reverse.mp member)).symm
    rw [← filePath, ← Option.some.inj content]
    exact ⟨again, fileHosts, same⟩
  · rintro ⟨again, againHosted, same⟩
    rcases evolved.loads loaded with ⟨agents, reloaded⟩
    refine ⟨agents, again, reloaded, ?_, ?_, same⟩
    · have places := AgentDirectory.places_of_load loaded
      have first := hosted
      rw [AgentDirectory.get?_load loaded, List.findSome?_eq_some_iff] at first
      rcases first with ⟨after, file, before, split, own, absent⟩
      have filePath : file.1 = agent.path := by
        rcases AgentDirectory.hosts_some own with ⟨document, source, _, _, equal⟩
        rw [equal, AgentDirectory.path_host]
      have member (other : String × Except DecodeFailure Json)
          (inFront : other ∈ after) :
          other ∈ start.directory.files.entries := by
        rw [← List.mem_reverse, split]
        exact List.mem_append_left _ inFront
      have fileMember : file ∈ start.directory.files.entries := by
        rw [← List.mem_reverse, split]
        exact List.mem_append_right _ List.mem_cons_self
      rw [AgentDirectory.get?_load reloaded, Dict.entries_of_keys evolved.keys,
        ← List.map_reverse, List.findSome?_map, List.findSome?_eq_some_iff]
      refine ⟨after, file, before, split, ?_, ?_⟩
      · simp only [Function.comp_apply, filePath, now, Option.getD_some]
        exact againHosted
      · intro other inFront
        have held := (Dict.get?_eq_some_iff _).mpr (member other inFront)
        have elsewhere : other.1 ≠ agent.path := by
          intro equal
          have fileHeld := (Dict.get?_eq_some_iff _).mpr fileMember
          rw [filePath, ← equal, held, Option.some.injEq] at fileHeld
          have same : other = file := Prod.ext (equal.trans filePath.symm) fileHeld
          rw [← same, absent other inFront] at own
          cases own
        rcases evolved.holds held with ⟨content, contentNow⟩
        simp only [Function.comp_apply, contentNow, Option.getD_some]
        exact evolved.hosts_other places hosted elsewhere held contentNow
          (absent other inFront)
    · rcases AgentDirectory.hosts_some againHosted with ⟨_, _, _, _, equal⟩
      rw [equal, AgentDirectory.path_host]

omit [TextCase] [BodyCodec] [IssuerKeys] in
/-- A hosted document with another status is let in again exactly if it is
unsigned or has the form that the registrar signed. -/
theorem admissible_withStatus_iff (bind : Document.SignaturesBind)
    {directory : AgentDirectory} {agents : HostedAgents}
    (loaded : directory.load = .ok agents) {agentId : String} {agent : HostedAgent}
    (hosted : agents.get? agentId = some agent) (status : String) :
    (agent.document.withStatus status).admissible = true ↔
      agent.document.manifestSignature = "" ∨ SameForm directory agent status := by
  rcases AgentDirectory.document_of_load loaded hosted with
    ⟨document, found, admissible, signature, publicKey⟩
  unfold SameForm
  rw [found]
  simp only [Option.some.injEq, exists_eq_left']
  unfold Document.admissible at admissible ⊢
  rw [Bool.or_eq_true, decide_eq_true_eq] at admissible ⊢
  have kept : (agent.document.withStatus status).manifestSignature =
      agent.document.manifestSignature := rfl
  rw [kept]
  by_cases unsigned : agent.document.manifestSignature = ""
  · simp [unsigned]
  · have verified : document.verifyManifestSignature = true :=
      admissible.resolve_left fun empty => unsigned (signature.trans empty)
    simp only [unsigned, false_or]
    exact Document.verifyManifestSignature_iff bind verified signature publicKey

/-- After a sequence of lifecycle calls, a restart hosts an agent with its last
status exactly if the agent is unsigned, or kept the status that it was loaded
with throughout, or has come back to the form that its registrar signed. -/
theorem restart_safe_iff (bind : Document.SignaturesBind) (config : LifecycleConfig)
    {start : Hosting} (loaded : start.directory.load = .ok start.agents)
    {agentId : String} {agent : HostedAgent}
    (hosted : start.agents.get? agentId = some agent) (calls : List LifecycleCall) :
    RestartSafe (serveCalls config start calls) agentId agent.path
        (lastStatus agent.document.status
          (askedStatuses config agentId agent.genesis calls)) ↔
      agent.document.manifestSignature = "" ∨
        (∀ status ∈ askedStatuses config agentId agent.genesis calls,
          status = agent.document.status) ∨
        SameForm start.directory agent (lastStatus agent.document.status
          (askedStatuses config agentId agent.genesis calls)) := by
  have places := AgentDirectory.places_of_load loaded
  have evolved := evolved_serveCalls config places calls
  have now := evolved.files agentId agent hosted
  generalize askedStatuses config agentId agent.genesis calls = asked at now ⊢
  unfold contentAfter at now
  by_cases all : ∀ status ∈ asked, status = agent.document.status
  · rw [if_pos all] at now
    rcases AgentDirectory.file_of_load loaded hosted with ⟨content, held, own⟩
    rw [evolved.restartSafe_iff loaded hosted (now.trans held),
      AgentDirectory.hosts_of_genesis evolved.genesis, own, lastStatus_of_all all]
    exact iff_of_true ⟨agent, rfl, rfl⟩ (.inr (.inl all))
  · rw [if_neg all] at now
    rw [evolved.restartSafe_iff loaded hosted now, AgentDirectory.hosts_toDict]
    generalize lastStatus agent.document.status asked = status
    have named : (agent.document.withStatus status).agentId = agentId :=
      places.named agentId agent hosted
    simp only [all, false_or, named, and_true]
    rw [← admissible_withStatus_iff bind loaded hosted status]
    by_cases admissible : (agent.document.withStatus status).admissible = true
    · simp only [admissible, if_true, Option.some.injEq, exists_eq_left', iff_true]
      rw [AgentDirectory.status_host]
      rfl
    · simp [admissible]

end Lifecycle

end Agtp

namespace Agtp.Lifecycle.Samples

open scoped Plain PlainServing

/-! ## A restart after a deactivation -/

scoped instance : JsonCodec where
  canonical
    | .object members => members.flatMap fun entry =>
        match entry.2 with
        | .string text => asciiBytes text
        | _ => []
    | _ => []
  loads := fun _ => .error .valueError

scoped instance : ManifestKeys where
  verifies := fun _ signature message => signature = message

scoped instance : FloatText where
  ofInt := fun _ => none
  ofText := fun _ => none
  isUnit := fun _ => true

scoped instance : IssuerKeys where
  fingerprint := fun _ => .error "no key"

theorem signatures_bind : Document.SignaturesBind := by
  intro publicKey signature first second verifiedFirst verifiedSecond
  exact (of_decide_eq_true verifiedFirst).symm.trans (of_decide_eq_true verifiedSecond)

def scoutFields (publicKey signature : String) : DocumentFields where
  agtpVersion := "1.0"
  documentVersion := "v2"
  agentId := "scout"
  name := "scout"
  role := "agent"
  principal := "owner"
  principalId := "owner"
  description := ""
  status := "active"
  skills := []
  requires := ⟨[], [], false⟩
  scopesAccepted := []
  trustTier := 1
  verificationPath := "dns-anchored"
  trustWarning := ""
  trustScore := none
  trustScoreComputedAt := ""
  ownerId := ""
  issuedAt := ""
  issuer := ""
  manifestIssuer := ""
  manifestIssuerPublicKey := publicKey
  manifestSignature := signature
  policies := []

theorem scoutFields_valid (publicKey signature : String) :
    (scoutFields publicKey signature).Valid where
  trustTier := by simp [scoutFields, validTrustTiers]
  verificationPath := by simp [scoutFields, validVerificationPaths]
  role := by simp [scoutFields, validRoles]
  trustWarning := by simp [scoutFields]
  trustScore := by simp [scoutFields]

def scout (publicKey signature : String) : Document :=
  ⟨scoutFields publicKey signature, scoutFields_valid publicKey signature⟩

def unsigned : Document := scout "" ""

def signed : Document :=
  scout "key" (String.ofList (Base64Url.encode
    (JsonCodec.canonical (scout "key" "").signedForm)))

def serving (document : Document) : Hosting where
  agents := Dict.empty.set "scout" ⟨document, "scout.agent.json", none⟩
  directory := {
    files := Dict.empty.set "scout.agent.json" (.ok (.object document.toDict))
    genesis := fun _ => none }
  streams := .empty

def deactivation : LifecycleCall where
  agentId := "scout"
  event := .deactivation
  request := .toRoot "DEACTIVATE" []
  issuedAt := ""
  auditId := ""

def openConfig : LifecycleConfig := ⟨"open", false, false⟩

theorem serving_loaded (publicKey signature : String)
    (admissible : (scout publicKey signature).admissible = true) :
    (serving (scout publicKey signature)).directory.load =
      .ok (serving (scout publicKey signature)).agents := by
  have entries : (serving (scout publicKey signature)).directory.files.entries =
      [("scout.agent.json", .ok (.object (scout publicKey signature).toDict))] := rfl
  simp only [AgentDirectory.load, entries, List.foldlM_cons, List.foldlM_nil,
    AgentDirectory.loadFile, AgentDirectory.readFile_toDict, admissible, if_true]
  rfl

theorem scout_hosted (document : Document) :
    (serving document).agents.get? "scout" =
      some ⟨document, "scout.agent.json", none⟩ :=
  Dict.get?_set_same _ _ _

/-- An unsigned agent is hosted again, suspended. -/
theorem unsigned_restart_safe :
    RestartSafe (serveCalls openConfig (serving unsigned) [deactivation]) "scout"
      "scout.agent.json" "suspended" :=
  (restart_safe_iff signatures_bind openConfig (serving_loaded "" "" rfl)
    (scout_hosted unsigned) [deactivation]).mpr (.inl rfl)

/-- A signed agent that is deactivated is not hosted again: the signature is over
the status. -/
theorem signed_agent_lost :
    (serving signed).directory.load = .ok (serving signed).agents ∧
      (serving signed).agents.get? "scout" =
        some ⟨signed, "scout.agent.json", none⟩ ∧
      ¬RestartSafe (serveCalls openConfig (serving signed) [deactivation]) "scout"
        "scout.agent.json" "suspended" := by
  refine ⟨serving_loaded "key" _ ?_, scout_hosted signed, ?_⟩
  · decide +kernel
  · rintro ⟨agents, agent, reloaded, held, _⟩
    have lost : ((serveCalls openConfig (serving signed)
        [deactivation]).directory.load.toOption.bind (·.get? "scout")).isNone := by
      decide +kernel
    rw [reloaded] at lost
    simp [Except.toOption, held] at lost

end Agtp.Lifecycle.Samples
