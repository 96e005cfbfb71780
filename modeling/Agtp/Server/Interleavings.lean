import Agtp.Server.RestartSafety
import Mathlib.Data.List.Chain

/-! # Concurrent lifecycle calls

Calls for one agent whose atomic steps come in any order: a call reads the status,
sets it, persists the document and appends its event. -/

namespace Agtp

namespace Lifecycle

/-! ## Steps of a call -/

inductive Progress where
  | waiting
  | decided (record : LifecycleRecord)
  | changed (record : LifecycleRecord)
  | persisted (record : LifecycleRecord)
  | finished
deriving DecidableEq

/-- A server with calls under way. The calls that have set the status, and whose
events are not appended yet, are kept in the order in which they set it. -/
structure Concurrent [FloatText] (Index : Type) where
  hosting : Hosting
  progress : Index → Progress
  unrecorded : List (Index × LifecycleRecord)

variable [TextCase] [TextOf] [BodyCodec] [IssuerKeys] [FloatText] {Index : Type}

def Concurrent.start (hosting : Hosting) : Concurrent Index :=
  ⟨hosting, fun _ => .waiting, []⟩

def decideOn (config : LifecycleConfig) (hosting : Hosting) (call : LifecycleCall) :
    Progress :=
  match hosting.agents.get? call.agentId with
  | none => .finished
  | some agent =>
      match admitCall config agent.genesis call with
      | .error _ => .finished
      | .ok params =>
          if agent.document.status = call.event.newStatus then .finished
          else .decided (recordOf call agent.document.status params)

variable [DecidableEq Index]

def advance (config : LifecycleConfig) (calls : Index → LifecycleCall)
    (state : Concurrent Index) (index : Index) : Concurrent Index :=
  let agentId := (calls index).agentId
  let hosting := state.hosting
  match state.progress index with
  | .waiting =>
      { state with
        progress := Function.update state.progress index
          (decideOn config hosting (calls index)) }
  | .decided record => {
      hosting := { hosting with
        agents := setStatus hosting.agents agentId record.newStatus }
      progress := Function.update state.progress index (.changed record)
      unrecorded := state.unrecorded ++ [(index, record)] }
  | .changed record => {
      hosting := { hosting with
        directory := hosting.directory.persist hosting.agents agentId }
      progress := Function.update state.progress index (.persisted record)
      unrecorded := state.unrecorded }
  | .persisted record => {
      hosting := { hosting with
        streams := append config hosting.streams agentId record }
      progress := Function.update state.progress index .finished
      unrecorded := state.unrecorded.filter (·.1 ≠ index) }
  | .finished => state

def interleave (config : LifecycleConfig) (calls : Index → LifecycleCall)
    (state : Concurrent Index) (schedule : List Index) : Concurrent Index :=
  schedule.foldl (advance config calls) state

/-! ## Agreement -/

def fileStatus [NumberText] (directory : AgentDirectory) (path : String) :
    Option String :=
  match directory.files.get? path with
  | some (.ok value) => (Document.fromDict value).toOption.map (·.status)
  | _ => none

omit [BodyCodec] [IssuerKeys] [FloatText] [TextOf] in
def streamOf (streams : Dict String (List LifecycleRecord)) (agentId : String) :
    List LifecycleRecord :=
  ((streamName agentId).bind streams.get?).getD []

def Follows (earlier later : LifecycleRecord) : Prop :=
  later.previousStatus = earlier.newStatus

/-- The memory, the file and the lifecycle stream tell the same of an agent. -/
structure Agrees [NumberText] (hosting : Hosting) (agentId : String)
    (agent : HostedAgent) : Prop where
  hosted : hosting.agents.get? agentId = some agent
  file : fileStatus hosting.directory agent.path = some agent.document.status
  last : ∀ event, (streamOf hosting.streams agentId).getLast? = some event →
    event.newStatus = agent.document.status
  linked : (streamOf hosting.streams agentId).IsChain Follows

/-- A call that sets the status finds the one that it has read, and a call that
appends its event is the first of those that have set the status. -/
def InTurn (calls : Index → LifecycleCall) (state : Concurrent Index) (index : Index) :
    Prop :=
  match state.progress index with
  | .decided record =>
      (state.hosting.agents.get? (calls index).agentId).map (·.document.status) =
        some record.previousStatus
  | .persisted _ => state.unrecorded.head?.map Prod.fst = some index
  | _ => True

instance (calls : Index → LifecycleCall) (state : Concurrent Index) (index : Index) :
    Decidable (InTurn calls state index) := by
  unfold InTurn
  split <;> infer_instance

def AllInTurn (config : LifecycleConfig) (calls : Index → LifecycleCall)
    (state : Concurrent Index) : List Index → Prop
  | [] => True
  | index :: rest =>
      InTurn calls state index ∧
        AllInTurn config calls (advance config calls state index) rest

instance decidableAllInTurn (config : LifecycleConfig) (calls : Index → LifecycleCall) :
    (state : Concurrent Index) → (schedule : List Index) →
      Decidable (AllInTurn config calls state schedule)
  | _, [] => inferInstanceAs (Decidable True)
  | state, index :: rest =>
      have := decidableAllInTurn config calls (advance config calls state index) rest
      inferInstanceAs (Decidable (InTurn calls state index ∧ _))

/-! ## What the steps keep -/

section Keeping

variable [NumberText] {config : LifecycleConfig} {calls : Index → LifecycleCall}
  {state : Concurrent Index} {agentId : String} {agent : HostedAgent}

omit [TextCase] [BodyCodec] [IssuerKeys] in
theorem fileStatus_persist {agents : HostedAgents} (directory : AgentDirectory)
    (held : agents.get? agentId = some agent) :
    fileStatus (directory.persist agents agentId) agent.path =
      some agent.document.status := by
  simp only [fileStatus, AgentDirectory.persist, held, AgentDirectory.write,
    Dict.get?_set_same, Document.fromDict_toDict]
  rfl

omit [TextOf] [BodyCodec] [IssuerKeys] [FloatText] [NumberText] in
theorem streamOf_append {streams : Dict String (List LifecycleRecord)}
    (record : LifecycleRecord) :
    streamOf (append config streams agentId record) agentId =
      if recorded config agentId then streamOf streams agentId ++ [record]
      else streamOf streams agentId := by
  unfold streamOf append recorded
  cases named : streamName agentId with
  | none => simp
  | some name =>
      cases config.recordsEnabled <;> cases config.signing <;> simp

omit [TextCase] [TextOf] [BodyCodec] [IssuerKeys] [NumberText] in
theorem get?_setStatus {agents : HostedAgents} (held : agents.get? agentId = some agent)
    (status : String) :
    (setStatus agents agentId status).get? agentId = some (agent.withStatus status) := by
  simp only [setStatus, held, Dict.get?_set_same]

def Progress.SetBy (record : LifecycleRecord) (progress : Progress) : Prop :=
  progress = .changed record ∨ progress = .persisted record

def eventsOf (state : Concurrent Index) (agentId : String) : List LifecycleRecord :=
  streamOf state.hosting.streams agentId ++ state.unrecorded.map Prod.snd

/-- What holds between the steps: the events that are appended, and then those that
are not, lead to the status, and unless a call is about to write it, so does the
file. -/
structure Coherent (config : LifecycleConfig) (agentId path : String)
    (state : Concurrent Index) (agent : HostedAgent) : Prop where
  hosted : state.hosting.agents.get? agentId = some agent
  place : agent.path = path
  file : fileStatus state.hosting.directory path = some agent.document.status ∨
    ∃ index record, state.progress index = .changed record
  pending : ∀ index record, (index, record) ∈ state.unrecorded ↔
    (state.progress index).SetBy record
  distinct : (state.unrecorded.map Prod.fst).Nodup
  linked : recorded config agentId = true → (eventsOf state agentId).IsChain Follows
  last : recorded config agentId = true → ∀ event,
    (eventsOf state agentId).getLast? = some event →
      event.newStatus = agent.document.status
  silent : recorded config agentId = false →
    streamOf state.hosting.streams agentId = []

omit [BodyCodec] [IssuerKeys] [DecidableEq Index] in
theorem Coherent.agrees {path : String} (coherent : Coherent config agentId path state agent)
    (finished : ∀ index, state.progress index = .finished) :
    Agrees state.hosting agentId agent := by
  have none : state.unrecorded = [] := by
    apply List.eq_nil_iff_forall_not_mem.mpr
    rintro ⟨index, record⟩ member
    rcases (coherent.pending index record).mp member with changed | persisted
    · rw [finished index] at changed
      cases changed
    · rw [finished index] at persisted
      cases persisted
  have events : eventsOf state agentId = streamOf state.hosting.streams agentId := by
    simp [eventsOf, none]
  refine ⟨coherent.hosted, ?_, ?_, ?_⟩
  · rcases coherent.file with written | ⟨index, record, changed⟩
    · rw [coherent.place]
      exact written
    · rw [finished index] at changed
      cases changed
  · cases recording : recorded config agentId with
    | true =>
        rw [← events]
        exact coherent.last recording
    | false => simp [coherent.silent recording]
  · cases recording : recorded config agentId with
    | true =>
        rw [← events]
        exact coherent.linked recording
    | false => simp [coherent.silent recording]

omit [TextCase] [TextOf] [BodyCodec] [IssuerKeys] [NumberText] [FloatText] in
/-- A step that neither sets the status nor appends an event leaves the pending
events as they are. -/
theorem pending_update {progress : Index → Progress}
    {unrecorded : List (Index × LifecycleRecord)} {index : Index} {next : Progress}
    (pending : ∀ other record, (other, record) ∈ unrecorded ↔
      (progress other).SetBy record)
    (same : ∀ record, next.SetBy record ↔ (progress index).SetBy record)
    (other : Index) (record : LifecycleRecord) : (other, record) ∈ unrecorded ↔
      (Function.update progress index next other).SetBy record := by
  by_cases equal : other = index
  · subst equal
    rw [Function.update_self, same record]
    exact pending other record
  · rw [Function.update_of_ne equal]
    exact pending other record

theorem Coherent.read {path : String} {index : Index}
    (coherent : Coherent config agentId path state agent)
    (waiting : state.progress index = .waiting) :
    Coherent config agentId path (advance config calls state index) agent := by
  have unset (progress : Progress) (record : LifecycleRecord)
      (idle : progress = .waiting ∨ progress = .finished ∨
        ∃ held, progress = .decided held) : ¬progress.SetBy record := by
    rintro (rfl | rfl) <;> simp at idle
  have decides : decideOn config state.hosting (calls index) = .finished ∨
      ∃ held, decideOn config state.hosting (calls index) = .decided held := by
    unfold decideOn
    split
    · exact .inl rfl
    · split
      · exact .inl rfl
      · split
        · exact .inl rfl
        · exact .inr ⟨_, rfl⟩
  have step : advance config calls state index = { state with
      progress := Function.update state.progress index
        (decideOn config state.hosting (calls index)) } := by
    simp [advance, waiting]
  rw [step]
  exact { coherent with
    file := by
      rcases coherent.file with written | ⟨other, record, changed⟩
      · exact .inl written
      · refine .inr ⟨other, record, ?_⟩
        have different : other ≠ index := by
          rintro rfl
          rw [waiting] at changed
          cases changed
        exact (Function.update_of_ne different _ _).trans changed
    pending := by
      apply pending_update coherent.pending
      intro record
      have before := unset _ record (.inl waiting)
      have after := unset _ record (.inr decides)
      exact iff_of_false after before }

theorem Coherent.set {path : String} {index : Index} {record : LifecycleRecord}
    (coherent : Coherent config agentId path state agent)
    (target : (calls index).agentId = agentId)
    (decided : state.progress index = .decided record)
    (unchanged : agent.document.status = record.previousStatus) :
    Coherent config agentId path (advance config calls state index)
      (agent.withStatus record.newStatus) := by
  have fresh : index ∉ state.unrecorded.map Prod.fst := by
    intro member
    rcases List.mem_map.mp member with ⟨⟨other, held⟩, listed, rfl⟩
    rcases (coherent.pending other held).mp listed with changed | persisted
    · rw [decided] at changed
      cases changed
    · rw [decided] at persisted
      cases persisted
  have events : eventsOf (advance config calls state index) agentId =
      eventsOf state agentId ++ [record] := by
    simp [eventsOf, advance, decided]
  exact {
    hosted := by
      simp only [advance, decided, target]
      exact get?_setStatus coherent.hosted record.newStatus
    place := coherent.place
    file := .inr ⟨index, record, by simp [advance, decided]⟩
    pending := by
      intro other held
      simp only [advance, decided, List.mem_append, List.mem_singleton, Prod.mk.injEq]
      by_cases equal : other = index
      · subst equal
        have absent : (other, held) ∉ state.unrecorded := fun member =>
          fresh (List.mem_map_of_mem member)
        simp [absent, Progress.SetBy, eq_comm]
      · simp [equal, coherent.pending other held]
    distinct := by
      simp only [advance, decided, List.map_append, List.map_cons, List.map_nil]
      apply List.Nodup.append coherent.distinct (List.nodup_singleton index)
      exact List.disjoint_singleton.mpr fresh
    linked := by
      intro recording
      rw [events]
      apply List.IsChain.append (coherent.linked recording) (.singleton record)
      intro event final next first
      cases first
      exact unchanged.symm.trans (coherent.last recording event final).symm
    last := by
      intro recording event final
      rw [events, List.getLast?_concat] at final
      cases final
      rfl
    silent := by
      intro silent
      simp only [advance, decided]
      exact coherent.silent silent }

theorem Coherent.persist {path : String} {index : Index} {record : LifecycleRecord}
    (coherent : Coherent config agentId path state agent)
    (target : (calls index).agentId = agentId)
    (changed : state.progress index = .changed record) :
    Coherent config agentId path (advance config calls state index) agent := by
  have step : advance config calls state index = {
      hosting := { state.hosting with
        directory := state.hosting.directory.persist state.hosting.agents agentId }
      progress := Function.update state.progress index (.persisted record)
      unrecorded := state.unrecorded } := by
    simp [advance, changed, target]
  rw [step]
  exact { coherent with
    file := by
      rw [← coherent.place]
      exact .inl (fileStatus_persist state.hosting.directory coherent.hosted)
    pending := by
      apply pending_update coherent.pending
      intro held
      rw [changed]
      simp [Progress.SetBy] }

theorem Coherent.record {path : String} {index : Index} {record : LifecycleRecord}
    (coherent : Coherent config agentId path state agent)
    (target : (calls index).agentId = agentId)
    (persisted : state.progress index = .persisted record)
    (first : state.unrecorded.head?.map Prod.fst = some index) :
    Coherent config agentId path (advance config calls state index) agent := by
  have listed : (index, record) ∈ state.unrecorded :=
    (coherent.pending index record).mpr (.inr persisted)
  rcases pending : state.unrecorded with _ | ⟨⟨head, held⟩, rest⟩
  · simp [pending] at first
  · have headFirst : head = index := by simpa [pending] using first
    subst headFirst
    have distinct := coherent.distinct
    rw [pending, List.map_cons, List.nodup_cons] at distinct
    have same : held = record := by
      rw [pending] at listed
      rcases List.mem_cons.mp listed with here | later
      · exact (congrArg Prod.snd here).symm
      · exact absurd (List.mem_map_of_mem later) distinct.1
    subst same
    have remaining : ((head, held) :: rest).filter (·.1 ≠ head) = rest := by
      rw [List.filter_cons_of_neg (by simp)]
      apply List.filter_eq_self.mpr
      rintro ⟨other, otherRecord⟩ member
      simp only [ne_eq, decide_not, Bool.not_eq_eq_eq_not, Bool.not_true,
        decide_eq_false_iff_not]
      rintro rfl
      exact distinct.1 (List.mem_map.mpr ⟨_, member, rfl⟩)
    have step : advance config calls state head = {
        hosting := { state.hosting with
          streams := append config state.hosting.streams agentId held }
        progress := Function.update state.progress head .finished
        unrecorded := rest } := by
      simp only [advance, persisted, target, pending, remaining]
    have events (recording : recorded config agentId = true) :
        eventsOf (advance config calls state head) agentId = eventsOf state agentId := by
      rw [step]
      simp [eventsOf, streamOf_append, recording, pending]
    exact {
      hosted := by rw [step]; exact coherent.hosted
      place := coherent.place
      file := by
        rw [step]
        rcases coherent.file with written | ⟨other, otherRecord, changed⟩
        · exact .inl written
        · refine .inr ⟨other, otherRecord, ?_⟩
          have different : other ≠ head := by
            rintro rfl
            rw [persisted] at changed
            cases changed
          exact (Function.update_of_ne different _ _).trans changed
      pending := by
        rw [step]
        intro other otherRecord
        by_cases equal : other = head
        · subst equal
          have absent : (other, otherRecord) ∉ rest := fun member =>
            distinct.1 (List.mem_map.mpr ⟨_, member, rfl⟩)
          simp [absent, Progress.SetBy]
        · have before := coherent.pending other otherRecord
          rw [pending] at before
          simp only [Function.update_of_ne equal]
          rw [← before]
          simp [equal]
      distinct := by rw [step]; exact distinct.2
      linked := by
        intro recording
        rw [events recording]
        exact coherent.linked recording
      last := by
        intro recording
        rw [events recording]
        exact coherent.last recording
      silent := by
        intro silent
        rw [step]
        simp only [streamOf_append, silent, Bool.false_eq_true, if_false]
        exact coherent.silent silent }

theorem Coherent.advance {path : String}
    (coherent : Coherent config agentId path state agent) {index : Index}
    (target : (calls index).agentId = agentId) (turn : InTurn calls state index) :
    ∃ later, Coherent config agentId path (advance config calls state index) later := by
  unfold InTurn at turn
  cases progress : state.progress index with
  | waiting => exact ⟨agent, coherent.read progress⟩
  | decided record =>
      rw [progress] at turn
      simp only [target, coherent.hosted, Option.map_some, Option.some.injEq] at turn
      exact ⟨_, coherent.set target progress turn⟩
  | changed record => exact ⟨agent, coherent.persist target progress⟩
  | persisted record =>
      rw [progress] at turn
      exact ⟨agent, coherent.record target progress turn⟩
  | finished =>
      refine ⟨agent, ?_⟩
      have idle : Lifecycle.advance config calls state index = state := by
        simp [Lifecycle.advance, progress]
      rw [idle]
      exact coherent

theorem Coherent.interleave {path : String} {schedule : List Index}
    (coherent : Coherent config agentId path state agent)
    (target : ∀ index, (calls index).agentId = agentId)
    (turns : AllInTurn config calls state schedule) :
    ∃ later, Coherent config agentId path (interleave config calls state schedule)
      later := by
  induction schedule generalizing state agent with
  | nil => exact ⟨agent, coherent⟩
  | cons index rest induction =>
      rcases coherent.advance (target index) turns.1 with ⟨later, stepped⟩
      exact induction stepped turns.2

/-! ## The law -/

/-- Calls for one agent that all finish, with every step in its turn, leave the
memory, the file and the stream in agreement. -/
theorem agrees_of_allInTurn {hosting : Hosting} {schedule : List Index}
    (started : Agrees hosting agentId agent)
    (streaming : recorded config agentId = true ∨
      streamOf hosting.streams agentId = [])
    (target : ∀ index, (calls index).agentId = agentId)
    (turns : AllInTurn config calls (.start hosting) schedule)
    (finished : ∀ index,
      (Lifecycle.interleave config calls (.start hosting) schedule).progress index =
        .finished) :
    ∃ later, Agrees (Lifecycle.interleave config calls (.start hosting) schedule).hosting
      agentId later := by
  have coherent : Coherent config agentId agent.path
      (.start hosting : Concurrent Index) agent := {
    hosted := started.hosted
    place := rfl
    file := .inl started.file
    pending := by simp [Concurrent.start, Progress.SetBy]
    distinct := .nil
    linked := by
      intro _
      simpa [eventsOf, Concurrent.start] using started.linked
    last := by
      intro _
      simpa [eventsOf, Concurrent.start] using started.last
    silent := by
      intro silent
      rcases streaming with recording | none
      · rw [recording] at silent
        cases silent
      · exact none }
  rcases coherent.interleave target turns with ⟨later, coherent⟩
  exact ⟨later, coherent.agrees finished⟩

end Keeping

end Lifecycle

end Agtp

namespace Agtp.Lifecycle.Samples

open scoped Plain PlainServing

/-! ## Two calls -/

def digestId : String :=
  "aaaaaaaaaaaaaaaaaaaaaaaaaaaaaaaaaaaaaaaaaaaaaaaaaaaaaaaaaaaaaaaa"

def registered : Document where
  toDocumentFields := { scoutFields "" "" with agentId := digestId }
  valid := {
    trustTier := (scoutFields_valid "" "").trustTier
    verificationPath := (scoutFields_valid "" "").verificationPath
    role := (scoutFields_valid "" "").role
    trustWarning := (scoutFields_valid "" "").trustWarning
    trustScore := (scoutFields_valid "" "").trustScore }

def registeredAgent : HostedAgent := ⟨registered, "scout.agent.json", none⟩

def recordingConfig : LifecycleConfig := ⟨"open", true, true⟩

def hosted : Hosting where
  agents := Dict.empty.set digestId registeredAgent
  directory := {
    files := Dict.empty.set "scout.agent.json" (.ok (.object registered.toDict))
    genesis := fun _ => none }
  streams := .empty

def twoCalls (revokes : Bool) : LifecycleCall where
  agentId := digestId
  event := if revokes then .revocation else .deactivation
  request := .toRoot (if revokes then "REVOKE" else "DEACTIVATE") []
  issuedAt := ""
  auditId := ""

def after (schedule : List Bool) : Concurrent Bool :=
  interleave recordingConfig twoCalls (.start hosted) schedule

theorem hosted_agrees : Agrees hosted digestId registeredAgent where
  hosted := Dict.get?_set_same _ _ _
  file := by rfl
  last := by
    intro event final
    cases final
  linked := .nil

/-- One call after the other. -/
theorem sequential_calls_agree :
    ∃ agent, Agrees (after [false, false, false, false, true, true, true, true]).hosting
      digestId agent := by
  apply agrees_of_allInTurn hosted_agrees (.inr rfl) (fun _ => rfl)
  · decide +kernel
  · intro index
    cases index <;> decide +kernel

def statuses (state : Concurrent Bool) : Option String × Option String :=
  ((state.hosting.agents.get? digestId).map (·.document.status),
    (streamOf state.hosting.streams digestId).getLast?.map (·.newStatus))

/-- The revocation sets the status last, and the deactivation appends its event
last. -/
theorem crossed_calls_disagree :
    (∀ index, (after [false, true, false, true, false, true, true, false]).progress index =
      .finished) ∧
    ∀ agent, ¬Agrees
      (after [false, true, false, true, false, true, true, false]).hosting digestId
      agent := by
  refine ⟨fun index => by cases index <;> decide +kernel, ?_⟩
  intro agent agrees
  have shown : statuses (after [false, true, false, true, false, true, true, false]) =
      (some "retired", some "suspended") := by
    decide +kernel
  have memory := congrArg Prod.fst shown
  simp only [statuses, agrees.hosted, Option.map_some] at memory
  have ends : (streamOf (after [false, true, false, true, false, true, true,
      false]).hosting.streams digestId).getLast?.map (·.newStatus) = some "suspended" :=
    congrArg Prod.snd shown
  rcases Option.map_eq_some_iff.mp ends with ⟨event, final, status⟩
  have same := agrees.last event final
  rw [status, Option.some.inj memory] at same
  exact absurd same (by decide)

end Agtp.Lifecycle.Samples
