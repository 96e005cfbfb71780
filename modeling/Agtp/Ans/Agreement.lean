import Agtp.Ans.IndexIntegrity
import Agtp.Ans.NameLaws
import Agtp.Presence.Noninterference

/-! # Names and presence

A name service keeps names and records in two stores and writes them one after the other. -/

namespace Agtp

namespace Ans

section Agreement

variable [Floats] [TextCase] [TextOf] [NumberText] [MethodCatalog] [BodyCodec] [CallDepth]

/-! ## What the two stores owe -/

def Handled.Succeeds (handled : Handled) : Prop :=
  ∃ response, handled.outcome = .ok response ∧ response.status = 200

def Listed (presence : PresenceStore) (agentId : String) : Prop :=
  ∃ now swept query record, presence.sweep now = .ok swept ∧
    record ∈ Presence.queryPopulation query swept ∧ record.agentId = agentId

def Names (request : Request) (names : NameStore) (subject : String) : Prop :=
  ∃ members, params request = .ok members ∧
    (subject ≠ "" ∧ agentIdOf request members = .string subject ∨
      ∃ name binding, Json.get members "name" = .string name ∧
        names.resolve name = some binding ∧ binding.agentId = .string subject)

/-- A failed registration changes nothing, and a deregistered agent is gone. -/
def Agrees (state : AnsState) : AnsEvent → Prop
  | .boot _ _ => True
  | .request request reading =>
      (upper request.method = "REGISTER" →
        let handled := handleRegister reading request state.names state.presence
        ¬handled.Succeeds → handled.names = state.names ∧ handled.presence = state.presence) ∧
      (upper request.method = "DEREGISTER" →
        let handled := handleDeregister request state.names state.presence
        handled.Succeeds → ∀ subject, Names request state.names subject →
          ¬handled.names.Bound subject ∧ ¬Listed handled.presence subject)

/-! ## Conditions -/

/-- A registration that passes the checks is of an agent whose record can be made and
indexed. -/
def Registrable (reading : Reading) (request : Request) : Prop :=
  ∀ members name, params request = .ok members → (agentIdOf request members).truthy →
    Json.get members "name" = .string name → Text.strip name ≠ "" →
      ∃ agentId, agentIdOf request members = .string agentId ∧
        Fallible.Succeeds ((recordFromManifest (.string agentId) agentId
          (namedManifest name (Json.get members "manifest")) reading).bind
            PresenceRecord.indexing)

/-- A deregistration does not raise over the types of its parameters: the id can be a
key, and the name is a text. -/
def WellTyped (request : Request) (members : List (String × Json)) : Prop :=
  (agentIdOf request members).hashable = true ∧
    ((Json.get members "name").truthy → ∃ name, Json.get members "name" = .string name)

/-- Whom a deregistration names has no name but the one that is addressed, and either its
id is given or it has no record. -/
def Deregistrable (request : Request) (state : AnsState) : Prop :=
  ∀ members, params request = .ok members → WellTyped request members →
    ∀ subject, Names request state.names subject →
    (∀ key binding, state.names.byName.get? key = some binding →
      binding.agentId = .string subject → key ≠ "" ∧
        state.names.targetKey (agentIdOf request members) (Json.get members "name") =
          .ok (some key)) ∧
    (subject ≠ "" ∧ agentIdOf request members = .string subject ∨
      state.presence.records.get? subject = none)

def Orderly (state : AnsState) : AnsEvent → Prop
  | .boot _ _ => True
  | .request request reading =>
      (upper request.method = "REGISTER" → Registrable reading request) ∧
        (upper request.method = "DEREGISTER" → Deregistrable request state)

/-! ## Registering -/

omit [Floats] [NumberText] [BodyCodec] [CallDepth] in
theorem registered_succeeds {reading : Reading} {agentId name : String}
    {manifest : List (String × Json)}
    (made : Fallible.Succeeds ((recordFromManifest (.string agentId) agentId manifest
      reading).bind PresenceRecord.indexing))
    (names : NameStore) (presence : PresenceStore) :
    (registered reading (.string agentId) name manifest names presence).Succeeds := by
  have key : Json.pairKey (.string agentId) = .ok agentId := rfl
  rw [registered, NameStore.register, key]
  dsimp only
  cases built : recordFromManifest (.string agentId) agentId manifest reading with
  | error raised =>
      rw [built] at made
      exact absurd made (Fallible.not_succeeds_error raised)
  | ok record =>
      rw [built] at made
      rcases made with ⟨⟨⟩, indexed⟩
      have done : presence.announce record = (.ok (), presence.put record) :=
        Prod.ext indexed rfl
      dsimp only
      rw [done]
      exact ⟨_, rfl, rfl⟩

omit [Floats] [NumberText] [CallDepth] in
theorem unchanged_handleRegister {reading : Reading} {request : Request} {names : NameStore}
    {presence : PresenceStore} (registrable : Registrable reading request)
    (failed : ¬(handleRegister reading request names presence).Succeeds) :
    (handleRegister reading request names presence).names = names ∧
      (handleRegister reading request names presence).presence = presence := by
  rw [handleRegister] at failed ⊢
  cases read : params request with
  | error raised => exact ⟨rfl, rfl⟩
  | ok members =>
      rw [read] at failed
      dsimp only at failed ⊢
      cases given : (agentIdOf request members).truthy with
      | false => exact ⟨rfl, rfl⟩
      | true =>
          rw [given] at failed
          cases named : Json.get members "name" with
          | string name =>
              rw [named] at failed
              dsimp only [Bool.not_true, Bool.false_eq_true, if_false] at failed ⊢
              by_cases blank : Text.strip name = ""
              · rw [if_pos blank]
                exact ⟨rfl, rfl⟩
              · rw [if_neg blank] at failed
                rcases registrable members name read given named blank with
                  ⟨agentId, same, made⟩
                rw [same] at failed
                exact absurd (registered_succeeds made names presence) failed
          | _ => exact ⟨rfl, rfl⟩

/-! ## Deregistering -/

omit [TextOf] [NumberText] [MethodCatalog] [BodyCodec] [CallDepth] in
theorem held_of_listed {presence : PresenceStore} {agentId : String}
    (listed : Listed presence agentId) :
    ∃ record, presence.records.get? agentId = some record := by
  rcases listed with ⟨now, swept, query, record, done, found, rfl⟩
  have member := ((Presence.mem_queryPopulation_iff done record).mp found).1.1
  exact ⟨record, PresenceStore.held_of_mem_values member⟩

omit [Floats] [NumberText] [MethodCatalog] [BodyCodec] [CallDepth] in
theorem held_of_deregister {names : NameStore} {agentId name : Json} {key : String}
    {binding : NameBinding}
    (held : (names.deregister agentId name).2.byName.get? key = some binding) :
    names.byName.get? key = some binding ∧
      (key ≠ "" → names.targetKey agentId name ≠ .ok (some key)) := by
  rw [NameStore.deregister] at held
  cases target : names.targetKey agentId name with
  | error raised =>
      rw [target] at held
      exact ⟨held, fun _ same => by cases same⟩
  | ok addressed =>
      rw [target] at held
      cases addressed with
      | none => exact ⟨held, fun _ same => by cases same⟩
      | some gone =>
          dsimp only at held
          cases there : names.byName.get? gone with
          | none =>
              rw [there] at held
              refine ⟨held, fun _ same => ?_⟩
              cases same
              cases there.symm.trans held
          | some removed =>
              rw [there] at held
              dsimp only at held
              by_cases blank : gone = ""
              · rw [if_pos blank] at held
                refine ⟨held, fun filled same => ?_⟩
                cases same
                exact filled blank
              · rw [if_neg blank] at held
                have erased : (names.byName.erase gone).get? key = some binding := by
                  cases own : removed.agentId.pairKey <;> (rw [own] at held; exact held)
                have different : key ≠ gone := by
                  rintro rfl
                  rw [Dict.get?_erase_same] at erased
                  cases erased
                rw [Dict.get?_erase_other _ different] at erased
                refine ⟨erased, fun _ same => ?_⟩
                cases same
                exact different rfl

omit [Floats] [NumberText] [MethodCatalog] [BodyCodec] [CallDepth] in
theorem text_of_deregister {names left : NameStore} {agentId name : Json} {removed : Bool}
    (done : names.deregister agentId name = (.ok removed, left)) (given : name.truthy) :
    ∃ text, name = .string text := by
  cases name with
  | string text => exact ⟨text, rfl⟩
  | _ =>
      have raises : names.targetKey agentId _ = .error .attributeError := if_pos given
      rw [NameStore.deregister, raises] at done
      cases done

omit [Floats] [TextOf] [NumberText] [MethodCatalog] [BodyCodec] [CallDepth] in
theorem truthy_of_not_hashable {request : Request} {members : List (String × Json)}
    (unhashable : ¬(agentIdOf request members).hashable = true) :
    (agentIdOf request members).truthy = true := by
  by_contra falsy
  apply unhashable
  rw [agentIdOf, Json.getOr] at falsy ⊢
  split at falsy
  · next value _ =>
      by_cases filled : value.truthy = true
      · rw [if_pos filled] at falsy
        exact absurd filled falsy
      · rw [if_neg filled]
        rfl
  · rfl

omit [Floats] [NumberText] [MethodCatalog] [CallDepth] in
theorem handleDeregister_succeeds {request : Request} {names : NameStore}
    {presence : PresenceStore}
    (succeeds : (handleDeregister request names presence).Succeeds) :
    ∃ members, params request = .ok members ∧ WellTyped request members ∧
      (handleDeregister request names presence).names =
        (names.deregister (agentIdOf request members) (Json.get members "name")).2 ∧
      (handleDeregister request names presence).presence =
        (if (agentIdOf request members).truthy then
          match (agentIdOf request members).pairKey with
          | .ok key => (presence.withdraw key).2
          | .error _ => presence
        else presence) := by
  rw [handleDeregister] at succeeds ⊢
  cases read : params request with
  | error raised =>
      rw [read] at succeeds
      rcases succeeds with ⟨response, ended, _⟩
      cases ended
  | ok members =>
      rw [read] at succeeds
      refine ⟨members, rfl, ?_⟩
      dsimp only at succeeds ⊢
      split
      · next refused =>
          rw [if_pos refused] at succeeds
          rcases succeeds with ⟨response, ended, status⟩
          cases ended
          cases status
      · next named =>
          rw [if_neg named] at succeeds
          rcases done : names.deregister (agentIdOf request members) (Json.get members "name")
            with ⟨removed | removed, left⟩
          · rw [done] at succeeds
            rcases succeeds with ⟨response, ended, _⟩
            cases ended
          · have typed : WellTyped request members := by
              refine ⟨?_, text_of_deregister done⟩
              by_contra unhashable
              have raises : (agentIdOf request members).pairKey = .error .typeError :=
                if_neg unhashable
              rw [done] at succeeds
              dsimp only at succeeds
              rw [if_pos (truthy_of_not_hashable unhashable), raises] at succeeds
              rcases succeeds with ⟨response, ended, _⟩
              cases ended
            refine ⟨typed, ?_⟩
            dsimp only
            split
            · cases key : (agentIdOf request members).pairKey <;> exact ⟨rfl, rfl⟩
            · exact ⟨rfl, rfl⟩

omit [NumberText] [MethodCatalog] [CallDepth] in
theorem gone_of_deregistrable {request : Request} {state : AnsState}
    (deregistrable : Deregistrable request state)
    (succeeds : (handleDeregister request state.names state.presence).Succeeds)
    {subject : String} (named : Names request state.names subject) :
    ¬(handleDeregister request state.names state.presence).names.Bound subject ∧
      ¬Listed (handleDeregister request state.names state.presence).presence subject := by
  rcases handleDeregister_succeeds succeeds with ⟨members, read, typed, names, presence⟩
  rcases deregistrable members read typed subject named with ⟨addressed, withdrawn⟩
  rw [names, presence]
  constructor
  · rintro ⟨name, binding, resolved, own⟩
    have held := (NameStore.resolve_eq_some_iff.mp resolved).1
    rcases held_of_deregister held with ⟨before, kept⟩
    rcases addressed _ binding before own with ⟨filled, target⟩
    exact kept filled target
  · intro listed
    rcases held_of_listed listed with ⟨record, held⟩
    rcases withdrawn with ⟨filled, given⟩ | absent
    · have truthy : (Json.string subject).truthy = true := decide_eq_true filled
      have key : Json.pairKey (.string subject) = .ok subject := rfl
      rw [given, if_pos truthy, key] at held
      dsimp only at held
      rw [PresenceStore.withdraw, PresenceStore.get?_remove_same] at held
      cases held
    · split at held
      · split at held
        · cases absent.symm.trans (PresenceStore.held_of_remove held)
        · cases absent.symm.trans held
      · cases absent.symm.trans held

/-! ## Runs -/

omit [NumberText] [CallDepth] in
theorem agrees_of_orderly {state : AnsState} {event : AnsEvent} (orderly : Orderly state event) :
    Agrees state event := by
  cases event with
  | boot agentId reading => trivial
  | request request reading =>
      constructor
      · intro registers
        exact unchanged_handleRegister (orderly.1 registers)
      · intro deregisters handled succeeds subject named
        exact gone_of_deregistrable (orderly.2 deregisters) succeeds named

variable (registry : PresenceRegistry) (failureText : Raised → String)

def OrderlyRun : List AnsEvent → AnsState → Prop
  | [], _ => True
  | event :: rest, state =>
      Orderly state event ∧ OrderlyRun rest (after registry failureText state event)

def AgreesAlong : List AnsEvent → AnsState → Prop
  | [], _ => True
  | event :: rest, state =>
      Agrees state event ∧ AgreesAlong rest (after registry failureText state event)

/-- In an orderly run names and presence agree. -/
theorem agreesAlong_of_orderly {events : List AnsEvent} {state : AnsState}
    (orderly : OrderlyRun registry failureText events state) :
    AgreesAlong registry failureText events state := by
  induction events generalizing state with
  | nil => trivial
  | cons event rest induction => exact ⟨agrees_of_orderly orderly.1, induction orderly.2⟩

end Agreement

end Ans

/-! ## Samples -/

namespace AgreementSamples

open Ans
open scoped Plain PlainServing

scoped instance : MethodCatalog where
  methods := [("DESCRIBE", ["mechanics", "discovery"])]

scoped instance : CallDepth := ⟨100⟩

def bodyOf (methods : Json) : Json :=
  .object [("agent_id", .string "scout"), ("name", .string "buyer"),
    ("manifest", .object [("supported_methods", methods),
      ("capabilities", .array [.string "describe"])])]

/-- The body `[1]` registers an agent, `[2]` one whose methods are a number; `[3]` names
the agent, any other its name. -/
scoped instance : BodyCodec where
  dumps := fun _ => []
  loads := fun body =>
    if body = [1] then .ok (bodyOf (.array [.string "DESCRIBE"]))
    else if body = [2] then .ok (bodyOf (.int 5))
    else if body = [3] then .ok (.object [("agent_id", .string "scout")])
    else .ok (.object [("name", .string "buyer")])
  failureText := fun _ => ""
  loadsStrict := fun _ => none

def reading : Reading := ⟨⟨100, "t"⟩, "90.0"⟩

def asking (method : String) (body : Bytes) : Request :=
  { Request.toRoot method [] with body := body }

def start : AnsState := ⟨.empty, .empty⟩

def registeredState : AnsState :=
  after PoisonSamples.registry (fun _ => "") start (.request (asking "REGISTER" [1]) reading)

/-- An agent that is deregistered by its id is gone. -/
theorem registration_and_removal_agree :
    AgreesAlong PoisonSamples.registry (fun _ => "")
      [.request (asking "REGISTER" [1]) reading, .request (asking "DEREGISTER" [3]) reading]
      start := by
  apply agreesAlong_of_orderly
  refine ⟨⟨?_, fun other => absurd other (by decide)⟩,
    ⟨fun other => absurd other (by decide), ?_⟩, trivial⟩
  · intro _ members name read _ named _
    cases read
    cases named
    exact ⟨"scout", rfl, by decide +kernel⟩
  · intro _ members read _ subject named
    cases read
    have known : subject = "scout" := by
      rcases named with ⟨others, again, ⟨_, given⟩ | ⟨name, binding, given, _⟩⟩
      · cases again
        cases given
        rfl
      · cases again
        cases given
    refine ⟨?_, .inl ⟨by rw [known]; decide, by rw [known]; rfl⟩⟩
    intro key binding held _
    have member : key ∈ registeredState.names.byName.keys := Dict.mem_keys_of_get? _ held
    have only : registeredState.names.byName.keys = ["buyer"] := by decide +kernel
    rw [only, List.mem_singleton] at member
    rw [member]
    exact ⟨by decide, by decide +kernel⟩

def answers (presence : PresenceStore) (agentId : String) : Bool :=
  match presence.sweep 100 with
  | .ok swept =>
      (Presence.queryPopulation
        ⟨none, none, .null, none, none, none, none, none, false, none⟩ swept).any
          fun record => record.agentId = agentId
  | .error _ => false

theorem listed_of_answers {presence : PresenceStore} {agentId : String}
    (found : answers presence agentId = true) : Listed presence agentId := by
  rw [answers] at found
  split at found
  · next swept done =>
      rcases List.any_eq_true.mp found with ⟨record, member, same⟩
      exact ⟨100, swept, _, record, done, member, of_decide_eq_true same⟩
  · cases found

/-- A registration that raises has bound the name, and an agent that is deregistered by
its name stays listed. -/
theorem stores_disagree :
    ¬Agrees start (.request (asking "REGISTER" [2]) reading) ∧
      ¬Agrees registeredState (.request (asking "DEREGISTER" [4]) reading) := by
  constructor
  · intro agrees
    have raises : ¬Fallible.Succeeds
        (handleRegister reading (asking "REGISTER" [2]) .empty .empty).outcome := by
      decide +kernel
    have unchanged := (agrees.1 (by decide) fun ⟨response, ended, _⟩ =>
      raises ⟨response, ended⟩).1
    have counts := congrArg NameStore.count unchanged
    exact absurd counts (by decide +kernel)
  · intro agrees
    have gone := (agrees.2 (by decide) ⟨_, rfl, rfl⟩ "scout"
      ⟨_, rfl, .inr ⟨"buyer", _, rfl, rfl, rfl⟩⟩).2
    exact gone (listed_of_answers (by decide +kernel))

end AgreementSamples

end Agtp
