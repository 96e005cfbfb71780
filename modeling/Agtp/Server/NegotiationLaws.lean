import Agtp.Server.ContractLaws

/-! # What a negotiated contract covers

A contract is shown for the pair of the request at hand. -/

namespace Agtp

open Computation Serving

/-! ## Negotiations of a run -/

section Created

variable {App : Type} [Digest] [ContractCodec] [Tokens]

def CreatedFor (start : State App) (history : List (Event App))
    (id method path : String) : Prop :=
  ∃ first negotiation rest, history = first ++ .negotiated negotiation :: rest ∧
    id = Tokens.synthesisId (start.replay first).drawn ∧
    negotiation.method = method ∧ negotiation.path = path

def Negotiation.contract (negotiation : Negotiation) : Contract where
  plan := negotiation.plan
  expiresAt := none
  originator := SynthesisRuntime.nonempty (some negotiation.agentId)
  hash := SynthesisRuntime.nonempty (some (contractHash
    (contractMembers negotiation.method negotiation.path negotiation.plan)))
  origin := negotiation.origin

theorem CreatedFor.later {start : State App} {history : List (Event App)}
    {id method path : String} (created : CreatedFor start history id method path)
    (more : List (Event App)) : CreatedFor start (history ++ more) id method path := by
  rcases created with ⟨first, negotiation, rest, split, facts⟩
  exact ⟨first, negotiation, rest ++ more, by rw [split]; simp, facts⟩

theorem CreatedFor.earlier {start : State App} {history more : List (Event App)}
    {id method path : String}
    (created : CreatedFor start (history ++ more) id method path)
    (quiet : ∀ negotiation, Event.negotiated negotiation ∉ more) :
    CreatedFor start history id method path := by
  rcases created with ⟨first, negotiation, rest, split, facts⟩
  rcases List.append_eq_append_iff.mp split with
    ⟨between, _, tail⟩ | ⟨between, head, tail⟩
  · exact absurd (by rw [tail]; simp) (quiet negotiation)
  · cases between with
    | nil =>
        rw [List.nil_append] at tail
        exact absurd (by rw [← tail]; exact List.mem_cons_self) (quiet negotiation)
    | cons event between =>
        rw [List.cons_append, List.cons.injEq] at tail
        exact ⟨first, negotiation, between, by rw [head, ← tail.1], facts⟩

theorem contract_negotiated {state : State App}
    (consistent : state.runtime.Consistent state.drawn) (negotiation : Negotiation) :
    (state.after (.negotiated negotiation)).runtime.contract
        (Tokens.synthesisId state.drawn) =
      some negotiation.contract := by
  simp only [State.after, State.negotiate, State.runtime_bindKey]
  exact SynthesisRuntime.contract_instantiate_new
    (consistent.fresh _ (Nat.le_refl _)) negotiation.plan negotiation.terms

variable [TextCase] [TextOf] [BodyCodec] [SchemaValidator] {server : RunningServer App}
  {scope : Scope}

theorem drawn_after (leaves : LeavesContracts server) (state : State App)
    (event : Event App) (permitted : Permitted server scope state event) :
    state.drawn ≤ (state.after event).drawn := by
  cases event with
  | ran effect => exact (leaves effect permitted state).2
  | negotiated negotiation =>
      simp only [State.after, State.negotiate, State.drawn_bindKey]
      exact Nat.le_succ _
  | proposed _ _ _ | drew => exact Nat.le_succ _
  | _ => exact Nat.le_refl _

theorem contract_of_negotiation (leaves : LeavesContracts server)
    {start state : State App} {first rest : List (Event App)}
    {negotiation : Negotiation}
    (trace : Trace (Step server scope) start
      (first ++ .negotiated negotiation :: rest) state)
    (consistent : start.runtime.Consistent start.drawn) {contract : Contract}
    (held : state.runtime.contract (Tokens.synthesisId (start.replay first).drawn) =
      some contract) : contract = negotiation.contract := by
  rcases trace.split with ⟨middle, before, after⟩
  have consistentThere := trace_preserves (fun state =>
    state.runtime.Consistent state.drawn) (consistent_after leaves) before consistent
  rw [state_of_trace before] at after consistentThere
  generalize start.replay first = created at held after consistentThere
  cases after with
  | cons taken later =>
      rcases taken with ⟨permitted, rfl⟩
      have new := contract_negotiated consistentThere negotiation
      have used : created.drawn < (created.after (.negotiated negotiation)).drawn := by
        simp only [State.after, State.negotiate, State.drawn_bindKey]
        exact Nat.lt_succ_self _
      have kept := trace_preserves (fun state =>
        created.drawn < state.drawn ∧
          (state.runtime.contract (Tokens.synthesisId created.drawn) =
              some negotiation.contract ∨
            state.runtime.contract (Tokens.synthesisId created.drawn) = none))
        (by
          rintro state event permitted ⟨drawn, known⟩
          refine ⟨drawn.trans_le (drawn_after leaves state event permitted), ?_⟩
          have different : Tokens.synthesisId created.drawn ≠
              Tokens.synthesisId state.drawn := fun same =>
            absurd (Tokens.synthesisId_injective same) (Nat.ne_of_lt drawn)
          rcases contract_after leaves permitted different with same | ⟨_, ended⟩
          · rwa [same]
          · exact .inr ended)
        later ⟨used, .inl new⟩
      rcases kept.2 with same | ended
      · exact Option.some.inj (held.symm.trans same)
      · rw [ended] at held
        cases held

end Created

/-! ## Bookkeeping -/

section Bookkeeping

variable {App : Type}

def State.keep (state : State App) (operations : List RcnsOperation) : State App :=
  { state with rcns := operations.foldl (RcnsState.perform state.now) state.rcns }

theorem State.replay_bookkeeping [Digest] [ContractCodec] [Tokens] (state : State App)
    (operations : List RcnsOperation) :
    state.replay (operations.map .bookkeeping) = state.keep operations := by
  induction operations generalizing state with
  | nil => rfl
  | cons operation rest induction => exact induction (state.after (.bookkeeping operation))

def TouchesBooks (state : State App) (value : Value)
    (run : Run (State App) (Event App) Value) : Prop :=
  ∃ operations : List RcnsOperation,
    run = ⟨.value value, state.keep operations, operations.map .bookkeeping⟩

variable [Digest] [ContractCodec] [Tokens]

theorem limited_touchesBooks (config : RcnsConfig) (agentId : String)
    (state : State App) :
    ∃ atLimit operations, Rcns.limited config agentId state =
        ⟨.value atLimit, state.keep operations, operations.map .bookkeeping⟩ ∧
      (state.keep operations).rcns.idempotency = state.rcns.idempotency := by
  unfold Rcns.limited
  by_cases unlimited : config.maxNegotiationsPerMinute = 0
  · exact ⟨false, [], by simp only [unlimited, if_true]; rfl, rfl⟩
  · simp only [unlimited, if_false]
    by_cases durable : config.durable = true
    · simp only [durable, if_true]
      generalize pruned : state.after (.bookkeeping .prune) = next
      by_cases reached : config.maxNegotiationsPerMinute ≤
          next.rcns.recentCount next.now agentId
      · refine ⟨true, [.prune], ?_, rfl⟩
        rw [emit_andThen, pruned, andThen_read, if_pos reached, ← pruned]
        rfl
      · refine ⟨false, [.prune, .reserve agentId], ?_, rfl⟩
        rw [emit_andThen, pruned, andThen_read, if_neg reached, ← pruned]
        rfl
    · simp only [durable]
      exact ⟨_, [], rfl, rfl⟩

theorem lookupKey_touchesBooks (config : RcnsConfig) (agentId key : String)
    (state : State App) :
    TouchesBooks state (Rcns.boundId config state agentId key)
      (Rcns.lookupKey config agentId key state) := by
  unfold Rcns.lookupKey
  rw [andThen_read]
  by_cases empty : key = ""
  · have unbound : Rcns.boundId config state agentId key = none := by
      simp [Rcns.boundId, empty]
    exact ⟨[], by simp only [empty, if_true]; rw [← empty, unbound]; rfl⟩
  · simp only [empty, if_false]
    by_cases durable : config.durable = true
    · exact ⟨[.purge], by simp only [durable, if_true]; rfl⟩
    · simp only [durable]
      by_cases forgotten : config.idempotencyWindowSeconds ≠ 0 ∧
          Rcns.boundId config state agentId key = none
      · exact ⟨[.forget agentId key], by
          rw [if_neg (by simp), if_pos forgotten, forgotten.2]; rfl⟩
      · exact ⟨[], by rw [if_neg (by simp), if_neg forgotten]; rfl⟩

end Bookkeeping

/-! ## Deals -/

section Deals

variable {App : Type} [TextCase] [TextOf] [Digest] [ContractCodec] [Tokens]
  {server : RunningServer App} {mode : RcnsMode} {agent : AgentDocument}
  {key method path : String} {state : State App} {deal : Rcns.Deal}

theorem negotiate_ok
    (obtained : (Rcns.negotiate server mode agent key method path state).ending =
      .value (.ok deal)) :
    ∃ (operations : List RcnsOperation) (negotiation : Negotiation),
      (Rcns.negotiate server mode agent key method path state).log =
        operations.map .bookkeeping ++ [.negotiated negotiation] ∧
      deal = ⟨Tokens.synthesisId state.drawn, negotiation.plan⟩ ∧
      negotiation.method = upper method ∧ negotiation.path = path := by
  have books : TouchesBooks state .unit ((if server.rcns.durable then result .unit
      else emit (.bookkeeping (.record agent.agentId)) : Serving App PUnit) state) := by
    by_cases durable : server.rcns.durable = true
    · rw [if_pos durable]
      exact ⟨[], rfl⟩
    · rw [if_neg durable]
      exact ⟨[.record agent.agentId], rfl⟩
  rcases books with ⟨operations, kept⟩
  unfold Rcns.negotiate at obtained ⊢
  rw [andThen_value (congrArg Run.ending kept), kept] at obtained ⊢
  simp only at obtained ⊢
  rcases composed : attemptSynthesis server.synthesis.policies server.synthesis.maxDepth
      (Rcns.proposal method path) (Rcns.available server) with _ | plan
  · simp only [composed] at obtained
    rcases value_of_andThen obtained with ⟨response, _, refused⟩
    cases refused
  · simp only [composed] at obtained ⊢
    cases obtained
    exact ⟨operations, _, rfl, rfl, rfl, rfl⟩

theorem obtain_ok
    (obtained : (Rcns.obtain server mode agent key method path state).ending =
      .value (.ok deal)) :
    (∃ operations : List RcnsOperation,
      (Rcns.obtain server mode agent key method path state).log =
        operations.map .bookkeeping ∧
      Rcns.boundId server.rcns state agent.agentId key = some deal.synthesisId ∧
      state.runtime.get state.now deal.synthesisId = some deal.plan) ∨
    (∀ id, Rcns.boundId server.rcns state agent.agentId key = some id →
      state.runtime.get state.now id = none) ∧
    ∃ (before : List (Event App)) (negotiation : Negotiation),
      (Rcns.obtain server mode agent key method path state).log =
        before ++ [.negotiated negotiation] ∧
      deal = ⟨Tokens.synthesisId (state.replay before).drawn, negotiation.plan⟩ ∧
      negotiation.method = upper method ∧ negotiation.path = path := by
  rcases lookupKey_touchesBooks server.rcns agent.agentId key state with
    ⟨operations, looked⟩
  unfold Rcns.obtain at obtained ⊢
  rw [andThen_value (congrArg Run.ending looked), looked] at obtained ⊢
  simp only at obtained ⊢
  cases bound : Rcns.boundId server.rcns state agent.agentId key with
  | none =>
      simp only [bound] at obtained ⊢
      rcases negotiate_ok obtained with ⟨more, negotiation, logged, facts⟩
      refine .inr ⟨fun _ found => (nomatch found),
        operations.map .bookkeeping ++ more.map .bookkeeping, negotiation, ?_, ?_⟩
      · rw [logged, List.append_assoc]
      · rwa [State.replay_append, State.replay_bookkeeping, State.replay_bookkeeping]
  | some cached =>
      simp only [bound] at obtained ⊢
      cases active : state.runtime.get state.now cached with
      | some plan =>
          have found : getPlan cached (state.keep operations) = _ := getPlan_active active
          rw [andThen_value (congrArg Run.ending found), found] at obtained ⊢
          cases obtained
          exact .inl ⟨operations, by simp [result], rfl, active⟩
      | none =>
          have inactive : (state.keep operations).runtime.get (state.keep operations).now
            cached = none := active
          rcases getPlan_inactive inactive with ⟨missed, run⟩
          rw [andThen_value (congrArg Run.ending run), run] at obtained ⊢
          simp only at obtained ⊢
          rcases negotiate_ok obtained with ⟨more, negotiation, logged, facts⟩
          refine .inr ⟨fun id found => ?_, operations.map .bookkeeping ++ missed ++
            more.map .bookkeeping, negotiation, ?_, ?_⟩
          · rwa [← Option.some.inj found]
          · rw [logged]
            simp only [List.append_assoc]
          · simp only [State.replay_append, State.replay_bookkeeping]
            exact facts

end Deals

/-! ## Answers -/

section Answers

variable {App : Type}

def Event.isAnswer : Event App → Bool
  | .answered _ => true
  | _ => false

theorem answer_of_andThen {computation : Serving App Value}
    {next : Value → Serving App Result} {state : State App}
    {before after : List (Event App)} {answer : Answer}
    (quiet : ∀ event ∈ (computation state).log, event.isAnswer = false)
    (logged : (andThen computation next state).log =
      before ++ .answered answer :: after) :
    ∃ value rest, (computation state).ending = .value value ∧
      before = (computation state).log ++ rest ∧
      (next value (computation state).state).log = rest ++ .answered answer :: after := by
  have silent : (computation state).log ≠ before ++ .answered answer :: after := by
    intro same
    have answers := quiet (.answered answer) (by rw [same]; simp)
    cases answers
  cases ended : (computation state).ending with
  | value value =>
      rw [andThen_value ended] at logged
      rcases List.append_eq_append_iff.mp logged with
        ⟨rest, split, tail⟩ | ⟨rest, split, tail⟩
      · exact ⟨value, rest, rfl, split, tail⟩
      · cases rest with
        | nil => exact ⟨value, [], rfl, by rw [split]; simp, tail.symm⟩
        | cons event rest =>
            rw [List.cons_append, List.cons.injEq] at tail
            have answers := quiet (.answered answer) (by rw [split, ← tail.1]; simp)
            cases answers
  | raised =>
      simp only [andThen, ended] at logged
      exact absurd logged silent
  | unfinished =>
      simp only [andThen, ended] at logged
      exact absurd logged silent

abbrev Silent (computation : Serving App Value) : Prop :=
  Follows (fun _ (event : Event App) _ => event.isAnswer = false) False computation

theorem Silent.quiet {computation : Serving App Value} (silent : Silent computation)
    (state : State App) (event : Event App) (member : event ∈ (computation state).log) :
    event.isAnswer = false := by
  rcases List.append_of_mem member with ⟨before, after, split⟩
  have trace := (silent state).trace
  rw [split] at trace
  rcases trace.split with ⟨_, _, rest⟩
  cases rest with
  | cons taken _ => exact taken

theorem log_andThen_result (computation : Serving App Value) (map : Value → Result)
    (state : State App) :
    (andThen computation (fun value => result (map value)) state).log =
      (computation state).log := by
  cases ended : (computation state).ending with
  | value value =>
      rw [andThen_value ended]
      exact List.append_nil _
  | raised | unfinished => simp only [andThen, ended]

variable [TextCase] [TextOf] [Digest] [ContractCodec] [Tokens]

omit [TextCase] [TextOf] in
theorem silent_emit {event : Event App} (silent : event.isAnswer = false) :
    Silent (emit event) :=
  follows_perform (fun _ => silent) fun _ => trivial

omit [TextCase] [TextOf] in
theorem silent_refuseAttempt (reason explanation method path : String)
    (details : List (String × Json)) :
    Silent (Rcns.refuseAttempt reason explanation method path details :
      Serving App _) :=
  follows_andThen (follows_andThen follows_read fun _ =>
    follows_andThen (silent_emit rfl) fun _ => follows_result _) fun _ =>
    follows_result _

omit [TextCase] [TextOf] in
theorem silent_lookupKey (config : RcnsConfig) (agentId key : String) :
    Silent (Rcns.lookupKey config agentId key : Serving App _) := by
  refine follows_andThen follows_read fun state => ?_
  simp only
  split
  · exact follows_result _
  · split
    · exact follows_andThen (silent_emit rfl) fun _ => follows_result _
    · split
      · exact follows_andThen (silent_emit rfl) fun _ => follows_result _
      · exact follows_result _

omit [TextCase] [TextOf] in
theorem silent_getPlan (id : String) : Silent (getPlan id : Serving App _) := by
  refine follows_andThen follows_read fun state => ?_
  split
  · exact follows_andThen (silent_emit rfl) fun _ => follows_result _
  · exact follows_result _

variable {server : RunningServer App} {agent : AgentDocument}

theorem silent_negotiate (mode : RcnsMode) (key method path : String) :
    Silent (Rcns.negotiate server mode agent key method path) := by
  refine follows_andThen ?_ fun _ => ?_
  · split
    · exact follows_result _
    · exact silent_emit rfl
  · split
    · exact follows_andThen (silent_refuseAttempt _ _ _ _ _) fun _ => follows_result _
    · exact follows_andThen follows_read fun _ =>
        follows_andThen (silent_emit rfl) fun _ => follows_result _

theorem silent_obtain (mode : RcnsMode) (key method path : String) :
    Silent (Rcns.obtain server mode agent key method path) := by
  refine follows_andThen (silent_lookupKey _ _ _) fun cached => ?_
  split
  · exact silent_negotiate _ _ _ _
  · refine follows_andThen (silent_getPlan _) fun plan => ?_
    split
    · exact follows_result _
    · exact silent_negotiate _ _ _ _

variable {request : Request} {next : Dispatcher App} {method path : String}
  {state : State App} [BodyCodec]

structure Delivered (server : RunningServer App) (mode : RcnsMode)
    (agent : AgentDocument) (key method path : String) (state : State App)
    (before : List (Event App)) (answer : Answer) (deal : Rcns.Deal)
    (operations : List RcnsOperation) : Prop where
  obtained : (Rcns.obtain server mode agent key method path
    (state.keep operations)).ending = .value (.ok deal)
  keys : (state.keep operations).rcns.idempotency = state.rcns.idempotency
  before : before = operations.map .bookkeeping ++
    (Rcns.obtain server mode agent key method path (state.keep operations)).log
  answer : answer = Rcns.answerOf deal method path

theorem delivered_of_negotiateAndDeliver {mode : RcnsMode}
    {before after : List (Event App)} {answer : Answer}
    (logged : (Rcns.negotiateAndDeliver next server mode request agent method path
      state).log = before ++ .answered answer :: after)
    (first : ∀ event ∈ before, event.isAnswer = false) :
    ∃ deal operations, Delivered server mode agent
      (Wire.readIdempotencyKey request.headers) method path state before answer deal
      operations := by
  rcases limited_touchesBooks server.rcns agent.agentId state with
    ⟨atLimit, operations, run, keys⟩
  have books : ∀ event ∈ (Rcns.limited server.rcns agent.agentId state).log,
      event.isAnswer = false := by
    rw [run]
    intro event member
    rcases List.mem_map.mp member with ⟨operation, _, rfl⟩
    rfl
  rcases answer_of_andThen books logged with ⟨value, rest, ended, split, later⟩
  rw [run] at ended split later
  cases ended
  cases atLimit with
  | true => simp [result] at later
  | false =>
      have firstThere : ∀ event ∈ rest, event.isAnswer = false := fun event member =>
        first event (by rw [split]; exact List.mem_append_right _ member)
      rcases answer_of_andThen ((silent_obtain _ _ _ _).quiet _) later with
        ⟨obtained, rest, ended, splitRest, delivered⟩
      rcases obtained with refusal | deal
      · simp [result] at delivered
      · unfold Rcns.deliver at delivered
        simp only [emit_andThen] at delivered
        cases rest with
        | nil =>
            simp only [List.nil_append, List.cons.injEq, Event.answered.injEq]
              at delivered
            exact ⟨deal, operations, ended, keys, by
              rw [split, splitRest, List.append_nil], delivered.1.symm⟩
        | cons event rest =>
            rw [List.cons_append, List.cons.injEq] at delivered
            have answers := firstThere event (by rw [splitRest]; simp)
            rw [← delivered.1] at answers
            cases answers

theorem delivered_of_tryRcns {before after : List (Event App)} {answer : Answer}
    (logged : (Rcns.tryRcns next server request agent method path state).log =
      before ++ .answered answer :: after)
    (first : ∀ event ∈ before, event.isAnswer = false) :
    ∃ mode deal operations, Delivered server mode agent
      (Wire.readIdempotencyKey request.headers) method path state before answer deal
      operations := by
  have refused {computation : Serving App Response} (silent : Silent computation)
      (there : (computation state).log = before ++ .answered answer :: after) : False := by
    have answers := silent.quiet state (.answered answer) (by rw [there]; simp)
    cases answers
  unfold Rcns.tryRcns at logged
  rcases enabled : server.rcns.enabled with _ | _
  · simp [enabled, result] at logged
  · rcases allowed : Rcns.parseAllowRcns request.headers with _ | mode
    · simp [enabled, allowed, result] at logged
    · simp only [enabled, allowed] at logged
      rw [log_andThen_result] at logged
      by_cases unverified : server.rcns.requireVerifiedIdentity = true ∧
          request.verifiedCert.isNone = true
      · rw [if_pos unverified] at logged
        exact (refused (silent_refuseAttempt _ _ _ _ _) logged).elim
      rw [if_neg unverified] at logged
      by_cases unscoped : ¬agent.requires.scopes.contains "rcns:negotiate" = true
      · rw [if_pos unscoped] at logged
        exact (refused (follows_result _) logged).elim
      rw [if_neg unscoped] at logged
      by_cases untrusted : server.rcns.minTrustTier < agent.trustTier
      · rw [if_pos untrusted] at logged
        exact (refused (silent_refuseAttempt _ _ _ _ _) logged).elim
      rw [if_neg untrusted] at logged
      exact ⟨mode, delivered_of_negotiateAndDeliver logged first⟩

end Answers

/-! ## Coverage -/

section Coverage

variable {App : Type} [Digest] [ContractCodec] [Tokens]

/-- The synthesis in an answer was negotiated for the pair in the answer, and
the recorded hash is the one of the contract in the answer. -/
structure Covered (start : State App) (history : List (Event App)) (answer : Answer) :
    Prop where
  created : CreatedFor start history answer.synthesisId answer.method answer.path
  hash : (start.replay history).runtime.contractHash answer.synthesisId =
    some (contractHash answer.contract)

/-- If the key is bound to a synthesis that is still active, then to one that
was negotiated for the pair. -/
def KeyFits [TextCase] (config : RcnsConfig) (start : State App)
    (history : List (Event App)) (agentId key method path : String) : Prop :=
  ∀ id, Rcns.boundId config (start.replay history) agentId key = some id →
    (start.replay history).runtime.get (start.replay history).now id ≠ none →
    CreatedFor start history id (upper method) path

omit [Digest] [ContractCodec] [Tokens] in
theorem hash_of_contract {runtime : SynthesisRuntime} {id : String}
    {contract : Contract} (held : runtime.contract id = some contract) :
    runtime.contractHash id = contract.hash := by
  rcases Option.map_eq_some_iff.mp held with ⟨plan, _, shown⟩
  rw [← shown]

omit [Digest] [ContractCodec] [Tokens] in
theorem contract_of_get {state : State App} {id : String} {plan : SynthesisPlan}
    (active : state.runtime.get state.now id = some plan) :
    ∃ contract, state.runtime.contract id = some contract ∧ contract.plan = plan := by
  unfold SynthesisRuntime.get at active
  split at active
  · cases active
  · exact ⟨_, by rw [SynthesisRuntime.contract, active]; rfl, rfl⟩

omit [Tokens] in
theorem hash_of_negotiation (digests : ∀ data, Digest.sha256 data ≠ "")
    (negotiation : Negotiation) :
    negotiation.contract.hash = some (contractHash
      (contractMembers negotiation.method negotiation.path negotiation.plan)) := by
  have nonempty : contractHash (contractMembers negotiation.method negotiation.path
      negotiation.plan) ≠ "" := digests _
  simp [Negotiation.contract, SynthesisRuntime.nonempty, nonempty]

variable [TextCase] [TextOf] [BodyCodec] [SchemaValidator] {server : RunningServer App}

theorem trace_bookkeeping {scope : Scope} (state : State App)
    (operations : List RcnsOperation) :
    Trace (Step server scope) state (operations.map .bookkeeping)
      (state.keep operations) := by
  induction operations generalizing state with
  | nil => exact .nil state
  | cons operation rest induction => exact .cons ⟨trivial, rfl⟩ (induction _)

theorem covered_of_created (leaves : LeavesContracts server)
    (digests : ∀ data, Digest.sha256 data ≠ "") {start state : State App}
    {history : List (Event App)}
    (reached : Trace (Step server Obeys.everyone) start history state)
    (consistent : start.runtime.Consistent start.drawn) {deal : Rcns.Deal}
    {method path : String}
    (active : state.runtime.get state.now deal.synthesisId = some deal.plan)
    (created : CreatedFor start history deal.synthesisId (upper method) path) :
    Covered start history (Rcns.answerOf deal method path) := by
  refine ⟨created, ?_⟩
  rw [← state_of_trace reached]
  rcases contract_of_get active with ⟨contract, held, plan⟩
  have hash := hash_of_contract held
  rcases created with ⟨first, negotiation, rest, split, named, sameMethod, samePath⟩
  rw [split] at reached
  rw [named] at held
  have same := contract_of_negotiation leaves reached consistent held
  rw [same] at plan hash
  change negotiation.plan = deal.plan at plan
  refine hash.trans ?_
  rw [hash_of_negotiation digests negotiation, sameMethod, samePath, plan]
  rfl

/-- An answer is about a synthesis that was negotiated for the pair in it, with
the hash that the runtime recorded, exactly if the idempotency key of the request
is not bound to an active synthesis of another pair. -/
theorem answer_covered_iff (leaves : LeavesContracts server)
    (digests : ∀ data, Digest.sha256 data ≠ "") {agents : AgentRegistry} {now : Nat}
    {app : App} {history : List (Event App)} {state : State App}
    (reached : Trace (Step server Obeys.everyone) (.boot agents now app) history state)
    {next : Dispatcher App} {request : Request} {agent : AgentDocument}
    {method path : String} {before after : List (Event App)} {answer : Answer}
    (logged : (Rcns.tryRcns next server request agent method path state).log =
      before ++ .answered answer :: after)
    (first : ∀ event ∈ before, event.isAnswer = false) :
    Covered (.boot agents now app) (history ++ before) answer ↔
      KeyFits server.rcns (.boot agents now app) history agent.agentId
        (Wire.readIdempotencyKey request.headers) method path := by
  have consistent : (State.boot agents now app).runtime.Consistent
      (State.boot agents now app).drawn := SynthesisRuntime.consistent_empty
  generalize State.boot agents now app = start at reached consistent
  rcases delivered_of_tryRcns logged first with ⟨mode, deal, operations, delivered⟩
  have current := state_of_trace reached
  unfold KeyFits
  rw [← current]
  have sameBound : Rcns.boundId server.rcns (state.keep operations) agent.agentId =
      Rcns.boundId server.rcns state agent.agentId := by
    funext key
    unfold Rcns.boundId
    rw [delivered.keys]
    rfl
  rw [delivered.before, delivered.answer]
  rw [← List.append_assoc]
  have books : Trace (Step server Obeys.everyone) start
      (history ++ operations.map .bookkeeping) (state.keep operations) :=
    reached.append (trace_bookkeeping state operations)
  rcases obtain_ok delivered.obtained with
    ⟨lookups, found, bound, active⟩ | ⟨unbound, lookups, negotiation, new, rfl, pair⟩
  · rw [found]
    rw [sameBound] at bound
    have later := books.append (trace_bookkeeping (state.keep operations) lookups)
    constructor
    · intro covered id other _
      rw [bound] at other
      cases other
      have created := covered.created
      rw [List.append_assoc, ← List.map_append] at created
      exact created.earlier (by simp)
    · intro fits
      have isActive : state.runtime.get state.now deal.synthesisId ≠ none := by
        intro gone
        rw [show state.runtime.get state.now deal.synthesisId = some deal.plan from
          active] at gone
        cases gone
      exact covered_of_created leaves digests later consistent active
        ((fits _ bound isActive).later _ |>.later _)
  · rw [new]
    rw [sameBound] at unbound
    refine iff_of_true ?_ fun id found active => absurd (unbound id found) active
    have obeys : Obeys server Obeys.everyone (Rcns.obtain server mode agent
      (Wire.readIdempotencyKey request.headers) method path) :=
      Obeys.obtain trivial mode _ method path
    have obtains := (obeys (state.keep operations)).trace
    rw [new] at obtains
    rcases obtains.split with ⟨middle, lookedUp, _⟩
    have there := books.append lookedUp
    have consistentThere := trace_preserves (fun state =>
      state.runtime.Consistent state.drawn) (consistent_after leaves) there consistent
    have made := contract_negotiated consistentThere negotiation
    have sameState : start.replay (history ++ operations.map .bookkeeping ++ lookups) =
        (state.keep operations).replay lookups :=
      (state_of_trace there).symm.trans (state_of_trace lookedUp)
    rw [state_of_trace lookedUp] at made
    rw [← List.append_assoc]
    refine ⟨⟨_, negotiation, [], rfl, by rw [sameState]; rfl, pair⟩, ?_⟩
    rw [State.replay_append, sameState]
    refine (hash_of_contract made).trans ?_
    rw [hash_of_negotiation digests negotiation, pair.1, pair.2]
    rfl

end Coverage

section CoverageSamples

open scoped Plain PlainServing NamingBody

def Event.negotiatedPath : Event Unit → Option String
  | .negotiated negotiation => some negotiation.path
  | _ => none

def reusedKey : List (Event Unit) :=
  (Dispatch.serveAll bookingServer
    [asksFor "/suite" "k" "guest", asksFor "/villa" "k" "guest"] hotel).log

theorem reusedKey_ne : reusedKey ≠ [] := by
  intro empty
  have four : 4 < reusedKey.length := by decide +kernel
  rw [empty] at four
  cases four

def Event.showsRecorded (state : State Unit) (path : String) : Event Unit → Option Bool
  | .answered answer =>
      if answer.path = path then
        some (decide (state.runtime.contractHash answer.synthesisId =
          some (contractHash answer.contract)))
      else none
  | _ => none

/-- The contract of the first room is shown as one for the second room. -/
theorem reused_key_not_covered :
    ∃ before answer, reusedKey = before ++ [.answered answer] ∧
      answer.path = "/villa" ∧
      ¬CreatedFor hotel before answer.synthesisId answer.method answer.path ∧
      (hotel.replay before).runtime.contractHash answer.synthesisId ≠
        some (contractHash answer.contract) := by
  have paths : reusedKey.dropLast.filterMap Event.negotiatedPath = ["/suite"] := by
    decide +kernel
  have shown : (reusedKey.getLast reusedKey_ne).showsRecorded
      (hotel.replay reusedKey.dropLast) "/villa" = some false := by decide +kernel
  have split := List.dropLast_append_getLast reusedKey_ne
  cases last : reusedKey.getLast reusedKey_ne with
  | answered answer =>
      rw [last] at shown split
      simp only [Event.showsRecorded] at shown
      split at shown
      · next villa =>
          refine ⟨_, answer, split.symm, villa, ?_, by simpa using shown⟩
          rintro ⟨first, negotiation, rest, history, _, _, path⟩
          have member : negotiation.path ∈
              reusedKey.dropLast.filterMap Event.negotiatedPath :=
            List.mem_filterMap.mpr ⟨.negotiated negotiation, by rw [history]; simp, rfl⟩
          rw [paths, path, villa] at member
          exact absurd member (by decide)
      · cases shown
  | _ =>
      rw [last] at shown
      cases shown

def askedOnce : Run (State Unit) (Event Unit) PUnit :=
  Dispatch.serveAll bookingServer [asksFor "/suite" "k" "guest"] hotel

def asksUnder (key : String) : List (Event Unit) :=
  (Rcns.tryRcns (Dispatch.dispatch bookingServer 1) bookingServer (booking "/villa" key)
    (negotiator "guest") "BOOK" "/villa" askedOnce.state).log

theorem asksUnder_ne : asksUnder "l" ≠ [] := by
  intro empty
  have two : 2 < (asksUnder "l").length := by decide +kernel
  rw [empty] at two
  cases two

/-- Under another key, the second room gets a contract of its own. -/
theorem other_key_covered :
    ∃ before answer, asksUnder "l" = before ++ [.answered answer] ∧
      Covered hotel (askedOnce.log ++ before) answer := by
  have split := List.dropLast_append_getLast asksUnder_ne
  have quiet : ((asksUnder "l").dropLast.all fun event => !event.isAnswer) = true := by
    decide +kernel
  have answers : ((asksUnder "l").getLast asksUnder_ne).isAnswer = true := by
    decide +kernel
  have unbound : (Rcns.boundId bookingServer.rcns (hotel.replay askedOnce.log) "guest"
      "l").isNone = true := by decide +kernel
  cases last : (asksUnder "l").getLast asksUnder_ne with
  | answered answer =>
      rw [last] at split
      refine ⟨_, answer, split.symm, ?_⟩
      refine (answer_covered_iff leavesContracts_bookingServer (fun data => ?_)
        (Obeys.serveAll bookingServer [asksFor "/suite" "k" "guest"] hotel).trace
        split.symm fun event member => ?_).mpr ?_
      · simp [Digest.sha256]
      · simpa using List.all_eq_true.mp quiet event member
      · intro id bound _
        have none : Rcns.boundId bookingServer.rcns (hotel.replay askedOnce.log) "guest"
          "l" = some id := bound
        rw [none] at unbound
        cases unbound
  | _ =>
      rw [last] at answers
      cases answers

end CoverageSamples

end Agtp
