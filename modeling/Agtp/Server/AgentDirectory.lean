import Agtp.Core.Document

/-! # The agents directory

The files that a server hosts its agents from: what the loader takes from them,
and how a document is written back. -/

namespace Agtp

/-- The `*.agent.json` files in the order of their paths, each as the value that
it parses to, and the Genesis beside each file, where one loads. -/
structure AgentDirectory where
  files : Dict String (Except DecodeFailure Json)
  genesis : String → Option Genesis

/-- A hosted agent, with the path of its file and its Genesis. -/
structure HostedAgent [FloatText] where
  document : Document
  path : String
  genesis : Option Genesis

def HostedAgent.withStatus [FloatText] (agent : HostedAgent) (status : String) :
    HostedAgent :=
  { agent with document := agent.document.withStatus status }

abbrev HostedAgents [FloatText] := Dict String HostedAgent

def Json.members : Json → List (String × Json)
  | object members => members
  | _ => []

namespace AgentDirectory

variable [FloatText] [TextOf] [NumberText] [ManifestKeys] [JsonCodec]

/-! ## Loading -/

/-- The document of a file that may be hosted, and the members that it was read
from. -/
def readFile : Except DecodeFailure Json →
    Except LoadFailure (Document × List (String × Json))
  | .error .valueError => .error .skipped
  | .error .other => .error .aborted
  | .ok value =>
      match Document.fromDict value with
      | .error failure => .error failure
      | .ok document =>
          if document.admissible then .ok (document, value.members)
          else .error .skipped

def host (directory : AgentDirectory) (path : String) (document : Document)
    (source : List (String × Json)) : HostedAgent :=
  match (directory.genesis path).filter (·.agentId = document.agentId) with
  | some genesis => ⟨document.lift genesis source, path, some genesis⟩
  | none => ⟨document, path, none⟩

def loadFile (directory : AgentDirectory) (agents : HostedAgents)
    (file : String × Except DecodeFailure Json) : Except LoadFailure HostedAgents :=
  match readFile file.2 with
  | .ok (document, source) =>
      .ok (agents.set document.agentId (directory.host file.1 document source))
  | .error .skipped => .ok agents
  | .error .aborted => .error .aborted

def load (directory : AgentDirectory) : Except LoadFailure HostedAgents :=
  directory.files.entries.foldlM directory.loadFile .empty

/-! ## Persisting -/

def write (directory : AgentDirectory) (path : String) (document : Document) :
    AgentDirectory :=
  { directory with files := directory.files.set path (.ok (.object document.toDict)) }

/-- `persist`, which writes a hosted agent's document over the file that it was
loaded from. -/
def persist (directory : AgentDirectory) (agents : HostedAgents)
    (agentId : String) : AgentDirectory :=
  match agents.get? agentId with
  | some agent => directory.write agent.path agent.document
  | none => directory

/-! ## What is loaded -/

def hosts (directory : AgentDirectory) (agentId : String)
    (file : String × Except DecodeFailure Json) : Option HostedAgent :=
  match readFile file.2 with
  | .ok (document, source) =>
      if document.agentId = agentId then
        some (directory.host file.1 document source)
      else none
  | .error _ => none

omit [TextOf] [NumberText] [ManifestKeys] [JsonCodec] in
theorem path_host (directory : AgentDirectory) (path : String) (document : Document)
    (source : List (String × Json)) :
    (directory.host path document source).path = path := by
  unfold host
  split <;> rfl

omit [TextOf] [NumberText] [ManifestKeys] [JsonCodec] in
theorem agentId_host (directory : AgentDirectory) (path : String)
    (document : Document) (source : List (String × Json)) :
    (directory.host path document source).document.agentId = document.agentId := by
  unfold host
  split <;> rfl

omit [TextOf] [NumberText] [ManifestKeys] [JsonCodec] in
theorem status_host (directory : AgentDirectory) (path : String)
    (document : Document) (source : List (String × Json)) :
    (directory.host path document source).document.status = document.status := by
  unfold host
  split <;> rfl

theorem hosts_some {directory : AgentDirectory} {agentId : String}
    {file : String × Except DecodeFailure Json} {agent : HostedAgent}
    (hosted : directory.hosts agentId file = some agent) :
    ∃ document source, readFile file.2 = .ok (document, source) ∧
      document.agentId = agentId ∧ agent = directory.host file.1 document source := by
  unfold hosts at hosted
  split at hosted
  · next document source read =>
      split at hosted
      · next same => exact ⟨document, source, read, same, (Option.some.inj hosted).symm⟩
      · cases hosted
  · cases hosted

theorem loadFrom {directory : AgentDirectory}
    {files : List (String × Except DecodeFailure Json)} {agents loaded : HostedAgents}
    (load : files.foldlM directory.loadFile agents = .ok loaded) (agentId : String) :
    loaded.get? agentId =
      (files.reverse.findSome? (directory.hosts agentId)).or (agents.get? agentId) := by
  induction files generalizing agents with
  | nil =>
      cases load
      rfl
  | cons file rest induction =>
      rw [List.foldlM_cons] at load
      rw [List.reverse_cons, List.findSome?_append]
      cases first : directory.loadFile agents file with
      | error failure =>
          rw [first] at load
          cases load
      | ok middle =>
          rw [first] at load
          rw [induction load, Option.or_assoc]
          congr 1
          unfold loadFile at first
          rw [List.findSome?_singleton]
          unfold hosts
          split at first
          · next document source read =>
              cases first
              rw [read]
              by_cases same : document.agentId = agentId
              · simp [same]
              · have different : agentId ≠ document.agentId := fun equal =>
                  same equal.symm
                simp [same, Dict.get?_set_other _ different]
          · next read =>
              cases first
              simp [read]
          · cases first

theorem get?_load {directory : AgentDirectory} {agents : HostedAgents}
    (loaded : directory.load = .ok agents) (agentId : String) :
    agents.get? agentId =
      directory.files.entries.reverse.findSome? (directory.hosts agentId) := by
  rw [loadFrom loaded]
  exact Option.or_none

theorem loadFile_ok_iff (directory : AgentDirectory) (agents : HostedAgents)
    (file : String × Except DecodeFailure Json) :
    (∃ after, directory.loadFile agents file = .ok after) ↔
      readFile file.2 ≠ .error .aborted := by
  unfold loadFile
  split
  · next read => simp [read]
  · next read => simp [read]
  · next read => simp [read]

theorem load_ok_iff (directory : AgentDirectory) :
    (∃ agents, directory.load = .ok agents) ↔
      ∀ file ∈ directory.files.entries, readFile file.2 ≠ .error .aborted := by
  have general (files : List (String × Except DecodeFailure Json))
      (agents : HostedAgents) :
      (∃ loaded, files.foldlM directory.loadFile agents = .ok loaded) ↔
        ∀ file ∈ files, readFile file.2 ≠ .error .aborted := by
    induction files generalizing agents with
    | nil => simp [pure, Except.pure]
    | cons file rest induction =>
        rw [List.foldlM_cons, List.forall_mem_cons,
          ← loadFile_ok_iff directory agents file]
        cases directory.loadFile agents file with
        | ok after => simpa [bind, Except.bind] using induction after
        | error failure => simp [bind, Except.bind]
  exact general directory.files.entries .empty

/-! ## Loaded agents -/

structure Places (directory : AgentDirectory) (agents : HostedAgents) : Prop where
  present : ∀ agentId agent, agents.get? agentId = some agent →
    agent.path ∈ directory.files.keys
  separate : ∀ first second left right, agents.get? first = some left →
    agents.get? second = some right → left.path = right.path → first = second
  named : ∀ agentId agent, agents.get? agentId = some agent →
    agent.document.agentId = agentId

theorem file_of_load {directory : AgentDirectory} {agents : HostedAgents}
    (loaded : directory.load = .ok agents) {agentId : String} {agent : HostedAgent}
    (held : agents.get? agentId = some agent) :
    ∃ content, directory.files.get? agent.path = some content ∧
      directory.hosts agentId (agent.path, content) = some agent := by
  rw [get?_load loaded] at held
  rcases List.exists_of_findSome?_eq_some held with ⟨file, member, hosted⟩
  rcases hosts_some hosted with ⟨document, source, _, _, equal⟩
  have path : agent.path = file.1 := by rw [equal, path_host]
  refine ⟨file.2, ?_, ?_⟩
  · rw [path, Dict.get?_eq_some_iff]
    exact List.mem_reverse.mp member
  · rw [path]
    exact hosted

theorem places_of_load {directory : AgentDirectory} {agents : HostedAgents}
    (loaded : directory.load = .ok agents) : directory.Places agents where
  present agentId agent held := by
    rcases file_of_load loaded held with ⟨content, found, _⟩
    exact Dict.mem_keys_of_get? _ found
  separate first second left right leftHeld rightHeld same := by
    rcases file_of_load loaded leftHeld with ⟨content, found, hosted⟩
    rcases file_of_load loaded rightHeld with ⟨other, otherFound, otherHosted⟩
    rw [← same, found] at otherFound
    cases otherFound
    rw [← same] at otherHosted
    rcases hosts_some hosted with ⟨document, _, read, firstId, _⟩
    rcases hosts_some otherHosted with ⟨document', _, read', secondId, _⟩
    rw [read] at read'
    cases read'
    exact firstId.symm.trans secondId
  named agentId agent held := by
    rcases file_of_load loaded held with ⟨content, _, hosted⟩
    rcases hosts_some hosted with ⟨document, source, _, same, equal⟩
    rw [equal, agentId_host, same]

theorem hosts_of_genesis {directory later : AgentDirectory}
    (same : later.genesis = directory.genesis) (agentId : String)
    (file : String × Except DecodeFailure Json) :
    later.hosts agentId file = directory.hosts agentId file := by
  unfold hosts host
  rw [same]

def document? (directory : AgentDirectory) (path : String) : Option Document :=
  (directory.files.get? path).bind fun content =>
    (readFile content).toOption.map Prod.fst

theorem document_of_load {directory : AgentDirectory} {agents : HostedAgents}
    (loaded : directory.load = .ok agents) {agentId : String} {agent : HostedAgent}
    (held : agents.get? agentId = some agent) :
    ∃ document, directory.document? agent.path = some document ∧
      document.admissible = true ∧
      agent.document.manifestSignature = document.manifestSignature ∧
      agent.document.manifestIssuerPublicKey = document.manifestIssuerPublicKey := by
  rcases file_of_load loaded held with ⟨content, found, hosted⟩
  rcases hosts_some hosted with ⟨document, source, read, _, equal⟩
  refine ⟨document, ?_, ?_, ?_⟩
  · simp [document?, found, read, Except.toOption]
  · unfold readFile at read
    split at read
    · cases read
    · cases read
    · split at read
      · cases read
      · split at read
        · next admissible =>
            cases read
            exact admissible
        · cases read
  · rw [equal]
    unfold host
    split <;> exact ⟨rfl, rfl⟩

/-! ## What is written -/

theorem readFile_toDict (document : Document) :
    readFile (.ok (.object document.toDict)) =
      if document.admissible then .ok (document.settled, document.toDict)
      else .error .skipped := by
  have same : document.settled.admissible = document.admissible := by
    unfold Document.admissible Document.verifyManifestSignature
    rw [Document.signedForm_settled]
    rfl
  simp only [readFile, Document.fromDict_toDict, same]
  rfl

theorem hosts_toDict (directory : AgentDirectory) (agentId path : String)
    (document : Document) :
    directory.hosts agentId (path, .ok (.object document.toDict)) =
      if document.admissible ∧ document.agentId = agentId then
        some (directory.host path document.settled document.toDict)
      else none := by
  unfold hosts
  rw [readFile_toDict]
  by_cases admissible : document.admissible = true
  · simp only [admissible, if_true, true_and]
    rfl
  · simp [admissible]

end AgentDirectory

end Agtp
