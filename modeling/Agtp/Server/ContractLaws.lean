import Agtp.Server.DispatchLaws

/-! # What becomes of a contract

An active contract stays as it was instantiated until an event ends it. -/

namespace Agtp

open Computation Serving

/-! ## Ids in use -/

structure SynthesisRuntime.Consistent [Tokens] (runtime : SynthesisRuntime)
    (drawn : Nat) : Prop where
  fresh : ∀ number, drawn ≤ number → runtime.Unknown (Tokens.synthesisId number)
  stamped : ∀ id, runtime.originating.get? id ≠ some ""

namespace SynthesisRuntime

variable [Tokens] {runtime : SynthesisRuntime} {drawn : Nat}

theorem consistent_empty : empty.Consistent 0 :=
  ⟨fun _ _ => unknown_empty _, fun _ found => nomatch found⟩

theorem Consistent.later (consistent : runtime.Consistent drawn) {later : Nat}
    (atLeast : drawn ≤ later) : runtime.Consistent later :=
  ⟨fun number bound => consistent.fresh number (atLeast.trans bound),
    consistent.stamped⟩

theorem Consistent.expire (consistent : runtime.Consistent drawn) (id : String) :
    (runtime.expire id).Consistent drawn where
  fresh number bound := unknown_expire (consistent.fresh number bound) id
  stamped other := by
    unfold SynthesisRuntime.expire
    by_cases same : other = id
    · simp [same]
    · rw [Dict.get?_erase_other _ same]
      exact consistent.stamped other

theorem Consistent.invalidateStale (consistent : runtime.Consistent drawn)
    (policies : List CompositionPolicy) :
    (runtime.invalidateStale policies).Consistent drawn := by
  unfold SynthesisRuntime.invalidateStale
  generalize runtime.staleIds policies = ids
  induction ids generalizing runtime with
  | nil => exact consistent
  | cons id rest induction => exact induction (consistent.expire id)

theorem Consistent.instantiate (consistent : runtime.Consistent drawn)
    (plan : SynthesisPlan) (terms : Terms) :
    (runtime.instantiate (Tokens.synthesisId drawn) plan terms).Consistent
      (drawn + 1) where
  fresh number bound := by
    refine unknown_instantiate (consistent.fresh number (by omega)) ?_ plan terms
    intro same
    have equal := Tokens.synthesisId_injective same
    omega
  stamped other := by
    by_cases same : other = Tokens.synthesisId drawn
    · subst same
      have new := (consistent.fresh drawn (Nat.le_refl drawn)).originating
      unfold SynthesisRuntime.instantiate
      simp only [get?_setPresent_new new, nonempty, ne_eq, Option.filter_eq_some_iff]
      simp
    · unfold SynthesisRuntime.instantiate
      simp only [get?_setPresent_other same]
      exact consistent.stamped other

theorem Consistent.originator_ne (consistent : runtime.Consistent drawn)
    {id agentId : String} {contract : Contract}
    (held : runtime.contract id = some contract)
    (stamped : contract.originator = some agentId) :
    runtime.originatingAgentId id = some agentId ∧ agentId ≠ "" := by
  unfold SynthesisRuntime.contract at held
  rcases Option.map_eq_some_iff.mp held with ⟨plan, _, shown⟩
  rw [← shown] at stamped
  refine ⟨stamped, ?_⟩
  rintro rfl
  exact consistent.stamped id stamped

end SynthesisRuntime

/-! ## Steps -/

section Contracts

variable {App : Type}

theorem State.replay_append [Digest] [ContractCodec] [Tokens] (state : State App)
    (first rest : List (Event App)) :
    state.replay (first ++ rest) = (state.replay first).replay rest :=
  List.foldl_append

@[simp] theorem State.runtime_bindKey (state : State App) (agentId id : String)
    (binding : Option (String × Nat)) :
    (state.bindKey agentId id binding).runtime = state.runtime := by
  cases binding <;> rfl

@[simp] theorem State.drawn_bindKey (state : State App) (agentId id : String)
    (binding : Option (String × Nat)) :
    (state.bindKey agentId id binding).drawn = state.drawn := by
  cases binding <;> rfl

theorem originator_or_operator {agent : AgentDocument} {agentId : String}
    (stamped : agentId ≠ "") (allowed : mayRevoke agent agentId = true) :
    agent.agentId = agentId ∨ agent.isOperator = true := by
  simp only [mayRevoke, Bool.or_eq_true, decide_eq_true_eq] at allowed
  rcases allowed with (empty | own) | operator
  · exact absurd empty stamped
  · exact .inl own.symm
  · exact .inr operator

variable [TextCase] [TextOf]

/-- The deployment's handlers do not reach into the synthesis runtime; they may
draw tokens. -/
def LeavesContracts (server : RunningServer App) : Prop :=
  ∀ effect, Registered server effect → ∀ state : State App,
    (effect state).2.runtime = state.runtime ∧ state.drawn ≤ (effect state).2.drawn

def Event.mayEnd (id : String) : Event App → Prop
  | .evicted other | .suspended _ other | .revoked _ other => other = id
  | .swept _ _ => True
  | _ => False

variable [Digest] [ContractCodec] [Tokens] [BodyCodec] [SchemaValidator]
  {server : RunningServer App} {scope : Scope}

theorem consistent_after (leaves : LeavesContracts server) (state : State App)
    (event : Event App) (permitted : Permitted server scope state event)
    (consistent : state.runtime.Consistent state.drawn) :
    (state.after event).runtime.Consistent (state.after event).drawn := by
  cases event with
  | ran effect =>
      rcases leaves effect permitted state with ⟨same, later⟩
      simp only [State.after]
      rw [same]
      exact consistent.later later
  | evicted id => exact consistent.expire id
  | suspended agent id => exact consistent.expire id
  | revoked agent id => exact consistent.expire id
  | swept agent policies => exact consistent.invalidateStale policies
  | proposed plan expiresAt persistent => exact consistent.instantiate plan _
  | negotiated negotiation =>
      simp only [State.after, State.negotiate, State.runtime_bindKey,
        State.drawn_bindKey]
      exact consistent.instantiate negotiation.plan negotiation.terms
  | drew => exact consistent.later (Nat.le_succ _)
  | called _ | executed _ | stepped _ _ | bookkeeping _ | answered _
  | elapsed _ _ _ => exact consistent

theorem contract_after (leaves : LeavesContracts server) {state : State App}
    {event : Event App} (permitted : Permitted server scope state event) {id : String}
    (different : id ≠ Tokens.synthesisId state.drawn) :
    (state.after event).runtime.contract id = state.runtime.contract id ∨
      event.mayEnd id ∧ (state.after event).runtime.contract id = none := by
  have ended (other : String) :
      (state.expire other).runtime.contract id = state.runtime.contract id ∨
        other = id ∧ (state.expire other).runtime.contract id = none :=
    (state.runtime.contract_expire other id).imp_right fun gone =>
      ⟨gone.1.symm, gone.2⟩
  cases event with
  | ran effect =>
      simp only [State.after]
      rw [(leaves effect permitted state).1]
      exact .inl rfl
  | evicted other => exact ended other
  | suspended agent other => exact ended other
  | revoked agent other => exact ended other
  | swept agent policies =>
      exact (SynthesisRuntime.contract_foldl_expire _ _ id).imp_right (⟨trivial, ·⟩)
  | proposed plan expiresAt persistent =>
      exact .inl (SynthesisRuntime.contract_instantiate_other _ different _ _)
  | negotiated negotiation =>
      simp only [State.after, State.negotiate, State.runtime_bindKey]
      exact .inl (SynthesisRuntime.contract_instantiate_other _ different _ _)
  | called _ | executed _ | stepped _ _ | bookkeeping _ | drew | answered _
  | elapsed _ _ _ => exact .inl rfl

/-! ## Ends of a contract -/

/-- What may end a contract of `agentId`: its time has passed, or the agent
itself or an operator ends it. -/
def EndsLawfully (state : State App) (agentId id : String) : Event App → Prop
  | .evicted other => other = id ∧ state.runtime.isOverdue state.now id = true
  | .suspended agent other | .revoked agent other =>
      other = id ∧ (agent.agentId = agentId ∨ agent.isOperator = true)
  | .swept agent _ => agent.isOperator = true
  | _ => False

def OwnSuspension (state : State App) : Event App → Prop
  | .suspended agent id =>
      mayRevoke agent ((state.runtime.originatingAgentId id).getD "") = true
  | _ => True

instance (state : State App) (event : Event App) :
    Decidable (OwnSuspension state event) :=
  match event with
  | .suspended _ _ => inferInstanceAs (Decidable (_ = true))
  | .called _ | .ran _ | .executed _ | .stepped _ _ | .evicted _ | .revoked _ _
  | .swept _ _ | .proposed _ _ _ | .negotiated _ | .bookkeeping _ | .drew
  | .answered _ | .elapsed _ _ _ => isTrue trivial

theorem kept_or_ended_lawfully (leaves : LeavesContracts server) {state : State App}
    {event : Event App} (permitted : Permitted server scope state event)
    (consistent : state.runtime.Consistent state.drawn)
    (own : OwnSuspension state event) {id agentId : String} {contract : Contract}
    (held : state.runtime.contract id = some contract)
    (stamped : contract.originator = some agentId) :
    (state.after event).runtime.contract id = some contract ∨
      EndsLawfully state agentId id event := by
  have different : id ≠ Tokens.synthesisId state.drawn := by
    rintro rfl
    rw [(consistent.fresh _ (Nat.le_refl _)).contract] at held
    cases held
  rcases consistent.originator_ne held stamped with ⟨originator, nonempty⟩
  rcases contract_after leaves permitted different with kept | ⟨ends, _⟩
  · exact .inl (kept.trans held)
  · right
    cases event with
    | evicted other =>
        subst ends
        exact ⟨rfl, permitted⟩
    | suspended agent other =>
        subst ends
        simp only [OwnSuspension, originator, Option.getD_some] at own
        exact ⟨rfl, originator_or_operator nonempty own⟩
    | revoked agent other =>
        subst ends
        have allowed := permitted.2
        simp only [originator, Option.getD_some] at allowed
        exact ⟨rfl, originator_or_operator nonempty allowed⟩
    | swept agent policies => exact permitted.2
    | _ => exact ends.elim

/-! ## Runs -/

/-- Along a run in which agents suspend their own contracts only, a contract is
kept until an event ends it lawfully. -/
theorem kept_or_ended_of_trace (leaves : LeavesContracts server)
    {state final : State App} {log : List (Event App)}
    (trace : Trace (Step server scope) state log final)
    (consistent : state.runtime.Consistent state.drawn)
    (own : ∀ first event rest, log = first ++ event :: rest →
      OwnSuspension (state.replay first) event)
    {id agentId : String} {contract : Contract}
    (held : state.runtime.contract id = some contract)
    (stamped : contract.originator = some agentId) :
    final.runtime.contract id = some contract ∨
      ∃ first event rest, log = first ++ event :: rest ∧
        (state.replay first).runtime.contract id = some contract ∧
        EndsLawfully (state.replay first) agentId id event := by
  induction trace with
  | nil => exact .inl held
  | cons taken _ induction =>
      rename_i state middle final event log rest
      rcases taken with ⟨permitted, rfl⟩
      have ownFirst : OwnSuspension state event := own [] event log rfl
      rcases kept_or_ended_lawfully leaves permitted consistent ownFirst held stamped
        with kept | ended
      · have later := induction (consistent_after leaves state event permitted consistent)
          (fun first other rest split => own (event :: first) other rest (by
            rw [split, List.cons_append])) kept
        refine later.imp_right ?_
        rintro ⟨first, other, rest, split, heldThere, ends⟩
        exact ⟨event :: first, other, rest, by rw [split, List.cons_append],
          heldThere, ends⟩
      · exact .inr ⟨[], event, log, rfl, held, ended⟩

/-- In every run of a server whose agents suspend their own contracts only, a
stamped contract stays as it is until its time has passed, its originator ends
it, or an operator does. -/
theorem contract_ends_lawfully [NumberText] [Clock] (leaves : LeavesContracts server)
    {agents : AgentRegistry} {now : Nat} {app : App}
    {arrivals : List (Dispatch.Arrival App)} {before during after : List (Event App)}
    (logged : (Dispatch.serveAll server arrivals (State.boot agents now app)).log =
      before ++ during ++ after)
    (own : ∀ first event rest,
      (Dispatch.serveAll server arrivals (State.boot agents now app)).log =
        first ++ event :: rest →
      OwnSuspension ((State.boot agents now app).replay first) event)
    {id agentId : String} {contract : Contract}
    (held : ((State.boot agents now app).replay before).runtime.contract id =
      some contract)
    (stamped : contract.originator = some agentId) :
    ((State.boot agents now app).replay (before ++ during)).runtime.contract id =
        some contract ∨
      ∃ first event rest, during = first ++ event :: rest ∧
        ((State.boot agents now app).replay (before ++ first)).runtime.contract id =
          some contract ∧
        EndsLawfully ((State.boot agents now app).replay (before ++ first)) agentId id
          event := by
  have trace := (Obeys.serveAll server arrivals (State.boot agents now app)).trace
  rw [logged] at trace
  rcases trace.split with ⟨later, reached, _⟩
  rcases reached.split with ⟨start, first, rest⟩
  have consistent := trace_preserves (fun state =>
    state.runtime.Consistent state.drawn) (consistent_after leaves) first
    SynthesisRuntime.consistent_empty
  rw [state_of_trace first] at rest consistent
  simp only [State.replay_append]
  rw [← state_of_trace rest]
  refine kept_or_ended_of_trace leaves rest consistent (fun start event others split =>
    ?_) held stamped
  rw [← State.replay_append]
  refine own _ event (others ++ after) ?_
  rw [logged, split]
  simp

end Contracts

section ContractSamples

def namingBody : Json := .object [("synthesis_id", .string "s")]

namespace NamingBody

scoped instance : BodyCodec where
  dumps := fun _ => []
  loads := fun _ => .ok namingBody
  failureText := fun _ => ""
  loadsStrict := fun _ => none

end NamingBody

open scoped Plain PlainServing NamingBody

/-- Binds `BOOK /room`, negotiates for other paths, and knows `SUSPEND`. -/
def bookingServer : RunningServer Unit :=
  { Server.bare (EndpointHandler Unit) (MethodHandler Unit) with
    methods := .single ⟨"SUSPEND", [], [], some .suspend⟩
      (by decide) (by decide +kernel)
    endpoints := .single ⟨"BOOK", "/room", [], [], []⟩
      (some (.function fun _ state => (some ⟨200, "OK", [], .null⟩, state)))
      approved_book grammatical_room
    rcns := {
      enabled := true
      minTrustTier := 1
      maxNegotiationsPerMinute := 10
      idempotencyWindowSeconds := 60
      requireVerifiedIdentity := false
      onPolicyChange := "grandfather"
      durable := false } }

theorem leavesContracts_bookingServer : LeavesContracts bookingServer := by
  intro effect registered state
  cases registered with
  | endpoint member handler context =>
      rw [List.mem_singleton.mp member] at handler
      cases handler
      exact ⟨rfl, Nat.le_refl _⟩
  | method member registered effect request agent =>
      rw [List.mem_singleton.mp member] at registered
      cases registered
      cases effect

def negotiator (agentId : String) : AgentDocument :=
  .active agentId ⟨[], ["rcns:negotiate"], true⟩

def hotel : State Unit :=
  .boot ⟨⟨[("guest", negotiator "guest"), ("stranger", negotiator "stranger")],
    by decide⟩, by simp [negotiator, AgentDocument.active]⟩ 0 ()

def booking (path key : String) : Request :=
  { Request.toRoot "BOOK" [("Allow-RCNS", "true"), ("Idempotency-Key", key)] with
    path := path }

def asksFor (path key agentId : String) : Dispatch.Arrival Unit :=
  .request 1 (booking path key) (negotiator agentId)

def suspends (agentId : String) : Dispatch.Arrival Unit :=
  .request 1 { Request.toRoot "SUSPEND" [] with body := [0] } (negotiator agentId)

/-- The guest negotiates for another room, and the agent suspends that
contract. -/
def suspendedBy (agentId : String) : List (Event Unit) :=
  (Dispatch.serveAll bookingServer [asksFor "/suite" "" "guest", suspends agentId]
    hotel).log

set_option maxRecDepth 2000 in
/-- A suspension by another agent, which is no operator, ends the contract. -/
theorem stranger_ends_contract :
    (suspendedBy "stranger")[5]? = some (.suspended (negotiator "stranger") "s") ∧
      ((hotel.replay ((suspendedBy "stranger").take 5)).runtime.contract "s").map
        Contract.originator = some (some "guest") ∧
      ((hotel.replay ((suspendedBy "stranger").take 6)).runtime.contract "s").isNone =
        true ∧
      ¬EndsLawfully (hotel.replay ((suspendedBy "stranger").take 5)) "guest" "s"
        (.suspended (negotiator "stranger") "s") := by
  refine ⟨by rfl, by decide +kernel, by decide +kernel, ?_⟩
  rintro ⟨_, own | operator⟩
  · exact absurd own (by decide)
  · exact absurd operator (by decide)

theorem ownSuspensions_of_get {state : State Unit} {log : List (Event Unit)}
    (own : ∀ index < log.length, ∀ event ∈ log[index]?,
      OwnSuspension (state.replay (log.take index)) event)
    (first : List (Event Unit)) (event : Event Unit) (rest : List (Event Unit))
    (split : log = first ++ event :: rest) : OwnSuspension (state.replay first) event := by
  subst split
  have there := own first.length (by simp) event (by simp)
  rwa [List.take_left] at there

/-- A suspension by the originator is one of the lawful ends. -/
theorem guest_ends_own_contract :
    ∃ first event rest, (suspendedBy "guest").drop 3 = first ++ event :: rest ∧
      EndsLawfully (hotel.replay ((suspendedBy "guest").take 3 ++ first)) "guest" "s"
        event := by
  have stamped : ((hotel.replay ((suspendedBy "guest").take 3)).runtime.contract
      "s").map Contract.originator = some (some "guest") := by decide +kernel
  rcases Option.map_eq_some_iff.mp stamped with ⟨contract, held, originator⟩
  have logged : suspendedBy "guest" =
      (suspendedBy "guest").take 3 ++ (suspendedBy "guest").drop 3 ++ [] := by
    rw [List.append_nil, List.take_append_drop]
  have ended : ((hotel.replay ((suspendedBy "guest").take 3 ++
      (suspendedBy "guest").drop 3)).runtime.contract "s").isNone = true := by
    decide +kernel
  rcases contract_ends_lawfully leavesContracts_bookingServer logged
      (ownSuspensions_of_get (by decide +kernel)) held originator with
    kept | ⟨first, event, rest, split, _, ends⟩
  · have here : (hotel.replay ((suspendedBy "guest").take 3 ++
        (suspendedBy "guest").drop 3)).runtime.contract "s" = some contract := kept
    rw [here] at ended
    cases ended
  · exact ⟨first, event, rest, split, ends⟩

end ContractSamples

end Agtp
