import Agtp.Foundation.Dict
import Agtp.Foundation.Json
import Mathlib.Order.Lattice

/-! # The outcomes of proposals

The store of asynchronous proposals. Its operations exclude each other, but a resolution
writes the fields of a record one by one, and a poll reads them without the lock. A time is
a number of writes: three to an operation, of which a reader may see the first ones only. -/

namespace Agtp.Proposals

/-! ## The store -/

inductive Outcome where
  | accepted
  | rejected
deriving DecidableEq

def Outcome.text : Outcome → String
  | .accepted => "accepted"
  | .rejected => "rejected"

def Outcome.status : Outcome → Int
  | .accepted => 263
  | .rejected => 463

abbrev Body := Dict String Json

/-- `ProposalRecord`. Without an outcome it is pending. -/
structure ProposalRecord (Time : Type) where
  outcome : Option Outcome
  deadline : Time
  resultStatus : Option Int
  resultBody : Option Body

inductive Operation (Time : Type) where
  | create (proposalId : String) (deadline : Time)
  | resolve (proposalId : String) (outcome : Outcome) (body : Body)

variable {Time : Type}

def ProposalRecord.write (writes : Nat) (outcome : Outcome) (body : Body)
    (record : ProposalRecord Time) : ProposalRecord Time :=
  { record with
    outcome := if 1 ≤ writes then some outcome else record.outcome
    resultStatus := if 2 ≤ writes then some outcome.status else record.resultStatus
    resultBody := if 3 ≤ writes then some body else record.resultBody }

/-- The store after some of the three writes of an operation. `create` is one write, the
last; `_resolve` does nothing to a record that is unknown or not pending. -/
def Operation.perform (writes : Nat) (store : Dict String (ProposalRecord Time)) :
    Operation Time → Dict String (ProposalRecord Time)
  | .create proposalId deadline =>
      if writes = 3 then store.set proposalId ⟨none, deadline, none, none⟩ else store
  | .resolve proposalId outcome body =>
      match store.get? proposalId with
      | none => store
      | some record =>
          if record.outcome = none then store.set proposalId (record.write writes outcome body)
          else store

def after (operations : List (Operation Time)) (count : Nat) :
    Dict String (ProposalRecord Time) :=
  (operations.take count).foldl (fun store operation => operation.perform 3 store) .empty

def storeAt (operations : List (Operation Time)) (time : Nat) :
    Dict String (ProposalRecord Time) :=
  match operations[time / 3]? with
  | none => after operations (time / 3)
  | some operation => operation.perform (time % 3) (after operations (time / 3))

def Resolves (operations : List (Operation Time)) (index : Nat) (proposalId : String)
    (outcome : Outcome) (body : Body) : Prop :=
  operations[index]? = some (.resolve proposalId outcome body) ∧
    ∃ record, (after operations index).get? proposalId = some record ∧ record.outcome = none

def FreshIds (operations : List (Operation Time)) : Prop :=
  ∀ index proposalId deadline, operations[index]? = some (.create proposalId deadline) →
    (after operations index).get? proposalId = none

/-! ## Records over time -/

section Records

variable {operations : List (Operation Time)} {proposalId : String}
  {record : ProposalRecord Time}

theorem after_succ (operations : List (Operation Time)) (index : Nat) :
    after operations (index + 1) =
      match operations[index]? with
      | none => after operations index
      | some operation => operation.perform 3 (after operations index) := by
  unfold after
  rw [List.take_add_one, List.foldl_append]
  cases operations[index]? <;> rfl

theorem get?_perform (fresh : FreshIds operations) {index : Nat} {operation : Operation Time}
    (at' : operations[index]? = some operation)
    (held : (after operations index).get? proposalId = some record) (writes : Nat) :
    (∃ outcome body, operation = .resolve proposalId outcome body ∧ record.outcome = none ∧
      (operation.perform writes (after operations index)).get? proposalId =
        some (record.write writes outcome body)) ∨
    (∀ outcome body, operation = .resolve proposalId outcome body → record.outcome ≠ none) ∧
      (operation.perform writes (after operations index)).get? proposalId = some record := by
  cases operation with
  | create other deadline =>
      refine .inr ⟨nofun, ?_⟩
      have differs : proposalId ≠ other := by
        rintro rfl
        rw [fresh index proposalId deadline at'] at held
        cases held
      simp only [Operation.perform]
      split
      · rw [Dict.get?_set_other _ differs, held]
      · exact held
  | resolve other outcome body =>
      by_cases same : other = proposalId
      · subst same
        by_cases pending : record.outcome = none
        · refine .inl ⟨outcome, body, rfl, pending, ?_⟩
          simp [Operation.perform, held, pending]
        · refine .inr ⟨fun _ _ _ => pending, ?_⟩
          simp [Operation.perform, held, pending]
      · refine .inr ⟨fun _ _ equal => absurd (Operation.resolve.inj equal).1 same, ?_⟩
        simp only [Operation.perform]
        split
        · exact held
        · split
          · rw [Dict.get?_set_other _ (Ne.symm same), held]
          · exact held

theorem settled_after (fresh : FreshIds operations) {index later : Nat}
    (held : (after operations index).get? proposalId = some record)
    (settled : record.outcome ≠ none) (order : index ≤ later) :
    (after operations later).get? proposalId = some record := by
  induction later, order using Nat.le_induction with
  | base => exact held
  | succ later _ induction =>
      rw [after_succ]
      split
      · exact induction
      · next operation at' =>
          rcases get?_perform fresh at' induction 3 with ⟨_, _, _, pending, _⟩ | ⟨_, kept⟩
          · exact absurd pending settled
          · exact kept

theorem settled_storeAt (fresh : FreshIds operations) {index time : Nat}
    (held : (after operations index).get? proposalId = some record)
    (settled : record.outcome ≠ none) (order : index ≤ time / 3) :
    (storeAt operations time).get? proposalId = some record := by
  have now := settled_after fresh held settled order
  unfold storeAt
  split
  · exact now
  · next operation at' =>
      rcases get?_perform fresh at' now (time % 3) with ⟨_, _, _, pending, _⟩ | ⟨_, kept⟩
      · exact absurd pending settled
      · exact kept

theorem deadline_after (fresh : FreshIds operations) {index later : Nat}
    (held : (after operations index).get? proposalId = some record) (order : index ≤ later) :
    ∃ now, (after operations later).get? proposalId = some now ∧
      now.deadline = record.deadline := by
  induction later, order using Nat.le_induction with
  | base => exact ⟨record, held, rfl⟩
  | succ later _ induction =>
      rcases induction with ⟨now, there, same⟩
      rw [after_succ]
      split
      · exact ⟨now, there, same⟩
      · next operation at' =>
          rcases get?_perform fresh at' there 3 with ⟨_, _, _, _, kept⟩ | ⟨_, kept⟩
          · exact ⟨_, kept, same⟩
          · exact ⟨now, kept, same⟩

theorem Resolves.after_succ {index : Nat} {outcome : Outcome} {body : Body}
    (resolves : Resolves operations index proposalId outcome body) :
    ∃ record, (after operations (index + 1)).get? proposalId = some record ∧
      record.outcome = some outcome ∧ record.resultStatus = some outcome.status ∧
      record.resultBody = some body := by
  rcases resolves with ⟨at', record, held, pending⟩
  rw [Proposals.after_succ, at']
  simp only [Operation.perform, held, pending, if_true, Dict.get?_set_same]
  exact ⟨_, rfl, rfl, rfl, rfl⟩

end Records

/-! ## Polls -/

/-- A poll, with the times of its reads. -/
structure Poll where
  proposalId : String
  lookup : Nat
  state : Nat
  body : Nat
  echo : Nat
  status : Nat
  ordered : lookup ≤ state ∧ state ≤ body ∧ body ≤ echo ∧ echo ≤ status

inductive Answer where
  | missingParam
  | notFound
  | inProgress
  | resolved (status : Int) (body : Body)

def echoed (proposalId state : String) (body : Body) : Body :=
  (body.set "state" (.string state)).set "proposal_id" (.string proposalId)

/-- The handler of `QUERY /proposals`. -/
def Poll.answer (operations : List (Operation Time)) (poll : Poll) : Answer :=
  let read (time : Nat) := (storeAt operations time).get? poll.proposalId
  if poll.proposalId = "" then .missingParam
  else if (read poll.lookup).isNone then .notFound
  else if (read poll.state).bind (·.outcome) = none then .inProgress
  else
    let body := ((read poll.body).bind (·.resultBody)).getD .empty
    let state := (((read poll.echo).bind (·.outcome)).map Outcome.text).getD "pending"
    let status := (read poll.status).bind (·.resultStatus)
    .resolved (if status = some 263 then 263 else if status = some 463 then 463 else 200)
      (echoed poll.proposalId state body)

def Resolving (operations : List (Operation Time)) (time : Nat) (proposalId : String) : Prop :=
  time % 3 ≠ 0 ∧ ∃ outcome body, Resolves operations (time / 3) proposalId outcome body

section Polls

variable {operations : List (Operation Time)}

theorem Poll.answer_of_settled (fresh : FreshIds operations) {poll : Poll} {index : Nat}
    {record : ProposalRecord Time} {outcome : Outcome} {body : Body}
    (held : (after operations index).get? poll.proposalId = some record)
    (settled : record.outcome = some outcome) (status : record.resultStatus = some outcome.status)
    (stored : record.resultBody = some body) (given : poll.proposalId ≠ "")
    (found : ((storeAt operations poll.lookup).get? poll.proposalId).isSome)
    (order : index ≤ poll.state / 3) :
    poll.answer operations =
      .resolved outcome.status (echoed poll.proposalId outcome.text body) := by
  have seen {time : Nat} (later : poll.state ≤ time) :
      (storeAt operations time).get? poll.proposalId = some record :=
    settled_storeAt fresh held (by rw [settled]; exact Option.some_ne_none outcome)
      (order.trans (Nat.div_le_div_right later))
  rcases poll.ordered with ⟨_, toBody, toEcho, toStatus⟩
  have known : ¬ ((storeAt operations poll.lookup).get? poll.proposalId).isNone = true := by
    rw [Option.isNone_iff_eq_none]
    exact Option.isSome_iff_ne_none.mp found
  simp only [Poll.answer, if_neg given, if_neg known, seen (le_refl _), seen toBody,
    seen (toBody.trans toEcho), seen (toBody.trans (toEcho.trans toStatus)),
    Option.bind_some, settled, status, stored, reduceCtorEq, if_false, Option.getD_some,
    Option.map_some]
  cases outcome <;> rfl

theorem outcome_of_perform {store : Dict String (ProposalRecord Time)} {writes : Nat}
    {operation : Operation Time} {proposalId : String} {record : ProposalRecord Time}
    {outcome : Outcome} (held : (operation.perform writes store).get? proposalId = some record)
    (settled : record.outcome = some outcome) :
    store.get? proposalId = some record ∨ writes ≠ 0 ∧
      ∃ body, operation = .resolve proposalId outcome body ∧
        ∃ old, store.get? proposalId = some old ∧ old.outcome = none := by
  cases operation with
  | create other deadline =>
      simp only [Operation.perform] at held
      split at held
      · by_cases same : proposalId = other
        · rw [same, Dict.get?_set_same] at held
          cases held
          cases settled
        · exact .inl ((Dict.get?_set_other _ same _).symm.trans held)
      · exact .inl held
  | resolve other written body =>
      cases found : store.get? other with
      | none => exact .inl (by simpa [Operation.perform, found] using held)
      | some old =>
          by_cases pending : old.outcome = none
          · simp only [Operation.perform, found, pending, if_true] at held
            by_cases same : proposalId = other
            · subst same
              rw [Dict.get?_set_same] at held
              cases held
              simp only [ProposalRecord.write, pending] at settled
              split at settled
              · next some =>
                  cases settled
                  exact .inr ⟨Nat.one_le_iff_ne_zero.mp some, body, rfl, old, found, pending⟩
              · cases settled
            · exact .inl ((Dict.get?_set_other _ same _).symm.trans held)
          · exact .inl (by simpa [Operation.perform, found, pending] using held)

theorem resolves_of_settled {index : Nat} {proposalId : String} {record : ProposalRecord Time}
    {outcome : Outcome} (held : (after operations index).get? proposalId = some record)
    (settled : record.outcome = some outcome) :
    ∃ first < index, ∃ body, Resolves operations first proposalId outcome body := by
  induction index with
  | zero => cases held
  | succ index induction =>
      have earlier (there : (after operations index).get? proposalId = some record) :=
        (induction there).imp fun first found => And.imp_left Nat.lt_succ_of_lt found
      rw [after_succ] at held
      split at held
      · exact earlier held
      · next operation at' =>
          rcases outcome_of_perform held settled with there | ⟨_, body, rfl, old, there, pending⟩
          · exact earlier there
          · exact ⟨index, Nat.lt_succ_self index, body, at', old, there, pending⟩

theorem Resolves.unique (fresh : FreshIds operations) {first second : Nat} {proposalId : String}
    {outcome other : Outcome} {body otherBody : Body}
    (resolves : Resolves operations first proposalId outcome body)
    (again : Resolves operations second proposalId other otherBody) : first = second := by
  have never {early late : Nat} {outcome other : Outcome} {body otherBody : Body}
      (resolves : Resolves operations early proposalId outcome body)
      (again : Resolves operations late proposalId other otherBody) : ¬ early < late := by
    intro order
    rcases resolves.after_succ with ⟨record, held, settled, _⟩
    rcases again with ⟨_, now, there, pending⟩
    have kept := settled_after fresh held (by rw [settled]; exact Option.some_ne_none outcome) order
    rw [there] at kept
    cases kept
    rw [pending] at settled
    cases settled
  exact le_antisymm (not_lt.mp (never again resolves)) (not_lt.mp (never resolves again))

theorem Poll.answer_of_resolves (fresh : FreshIds operations) {poll : Poll} {index : Nat}
    {outcome : Outcome} {body : Body}
    (resolves : Resolves operations index poll.proposalId outcome body)
    (given : poll.proposalId ≠ "") (ended : index < poll.lookup / 3) :
    poll.answer operations =
      .resolved outcome.status (echoed poll.proposalId outcome.text body) := by
  rcases resolves.after_succ with ⟨record, held, settled, status, stored⟩
  apply poll.answer_of_settled fresh held settled status stored given
  · rw [settled_storeAt fresh held (by rw [settled]; exact Option.some_ne_none outcome) ended]
    rfl
  · exact Nat.le_trans ended (Nat.div_le_div_right poll.ordered.1)

theorem Poll.resolves_of_answer (fresh : FreshIds operations) {poll : Poll}
    (apart : ¬ Resolving operations poll.state poll.proposalId) {status : Int} {shown : Body}
    (answered : poll.answer operations = .resolved status shown) :
    ∃ index outcome body, Resolves operations index poll.proposalId outcome body ∧
      status = outcome.status ∧ shown = echoed poll.proposalId outcome.text body := by
  have given : poll.proposalId ≠ "" := by
    intro empty
    rw [Poll.answer, if_pos empty] at answered
    cases answered
  by_cases unknown : ((storeAt operations poll.lookup).get? poll.proposalId).isNone = true
  · simp only [Poll.answer, if_neg given, if_pos unknown, reduceCtorEq] at answered
  have found : ((storeAt operations poll.lookup).get? poll.proposalId).isSome := by
    simpa [Option.isSome_iff_ne_none] using unknown
  cases seen : ((storeAt operations poll.state).get? poll.proposalId).bind (·.outcome) with
  | none =>
      simp only [Poll.answer, if_neg given, if_neg unknown, if_pos seen, reduceCtorEq]
        at answered
  | some outcome =>
  rcases Option.bind_eq_some_iff.mp seen with ⟨record, held, settled⟩
  -- the record was settled by the operations that were over
  have done : (after operations (poll.state / 3)).get? poll.proposalId = some record := by
    unfold storeAt at held
    split at held
    · exact held
    · next operation at' =>
        rcases outcome_of_perform held settled with there | ⟨within, body, rfl, pending⟩
        · exact there
        · exact absurd ⟨within, outcome, body, at', pending⟩ apart
  rcases resolves_of_settled done settled with ⟨index, before, body, resolves⟩
  refine ⟨index, outcome, body, resolves, ?_⟩
  rcases resolves.after_succ with ⟨record', held', settled', status', stored⟩
  have answer := poll.answer_of_settled fresh held' settled' status' stored given found before
  rw [answered] at answer
  exact ⟨(Answer.resolved.inj answer).1, (Answer.resolved.inj answer).2⟩

end Polls

/-! ## Sweeps -/

def timeoutBody : Body :=
  Dict.empty.set "error" (.object [
    ("code", .string "proposal-rejected"),
    ("reason", .string "policy-refused"),
    ("explanation", .string
      "evaluation deadline exceeded before a decision could be reached")])

variable [LinearOrder Time]

def expired (store : Dict String (ProposalRecord Time)) (now : Time) : List String :=
  (store.entries.filter fun entry =>
    decide (entry.2.outcome = none) && decide (entry.2.deadline ≤ now)).map Prod.fst

/-- A sweep: how many operations were over when it selected, and which ones are its own. -/
structure Sweep (operations : List (Operation Time)) where
  now : Time
  start : Nat
  indices : List Nat
  ordered : indices.Pairwise (· < ·)
  after' : ∀ index ∈ indices, start ≤ index
  own : indices.map (operations[·]?) = (expired (after operations start) now).map
    fun proposalId => some (.resolve proposalId .rejected timeoutBody)

def turns (operations : List (Operation Time)) (index : Nat) : Bool :=
  match operations[index]? with
  | some (.resolve proposalId _ _) =>
      ((after operations index).get? proposalId).any (·.outcome = none)
  | _ => false

def Sweep.returned {operations : List (Operation Time)} (sweep : Sweep operations) : Nat :=
  (expired (after operations sweep.start) sweep.now).length

variable {operations : List (Operation Time)}

theorem Sweep.due (fresh : FreshIds operations) (sweep : Sweep operations) {index : Nat}
    (member : index ∈ sweep.indices) :
    ∃ proposalId record, operations[index]? = some (.resolve proposalId .rejected timeoutBody) ∧
      (after operations index).get? proposalId = some record ∧ record.deadline ≤ sweep.now := by
  have own : operations[index]? ∈ sweep.indices.map (operations[·]?) :=
    List.mem_map_of_mem member
  rw [sweep.own] at own
  rcases List.mem_map.mp own with ⟨proposalId, selected, same⟩
  rcases List.mem_map.mp selected with ⟨⟨held, record⟩, kept, rfl⟩
  rcases List.mem_filter.mp kept with ⟨inside, due⟩
  have there := (Dict.get?_eq_some_iff _).mpr inside
  rcases deadline_after fresh there (sweep.after' index member) with ⟨now, later, unmoved⟩
  rw [Bool.and_eq_true, decide_eq_true_eq, decide_eq_true_eq] at due
  exact ⟨held, now, same.symm, later, unmoved ▸ due.2⟩

/-- Outcomes are final, polls agree with them unless they begin within a resolution, and a
sweep counts right exactly where nothing that it selected was resolved before it. -/
theorem outcomes_final (fresh : FreshIds operations) :
    (∀ first second proposalId outcome other body otherBody,
      Resolves operations first proposalId outcome body →
      Resolves operations second proposalId other otherBody → first = second) ∧
    (∀ (poll : Poll) index outcome body, poll.proposalId ≠ "" →
      Resolves operations index poll.proposalId outcome body → index < poll.lookup / 3 →
      poll.answer operations =
        .resolved outcome.status (echoed poll.proposalId outcome.text body)) ∧
    (∀ (poll : Poll) status shown, ¬ Resolving operations poll.state poll.proposalId →
      poll.answer operations = .resolved status shown →
      ∃ index outcome body, Resolves operations index poll.proposalId outcome body ∧
        status = outcome.status ∧ shown = echoed poll.proposalId outcome.text body) ∧
    ∀ sweep : Sweep operations,
      (∀ index ∈ sweep.indices, ∃ proposalId record,
        operations[index]? = some (.resolve proposalId .rejected timeoutBody) ∧
        (after operations index).get? proposalId = some record ∧
        record.deadline ≤ sweep.now) ∧
      (sweep.returned = sweep.indices.countP (turns operations) ↔
        ∀ index ∈ sweep.indices, turns operations index = true) := by
  refine ⟨fun _ _ _ _ _ _ _ resolves again => resolves.unique fresh again,
    fun _ _ _ _ given resolves ended => Poll.answer_of_resolves fresh resolves given ended,
    fun _ _ _ apart answered => Poll.resolves_of_answer fresh apart answered,
    fun sweep => ⟨fun _ member => sweep.due fresh member, ?_⟩⟩
  have lengths := congrArg List.length sweep.own
  rw [List.length_map, List.length_map] at lengths
  rw [Sweep.returned, ← lengths, eq_comm, List.countP_eq_length]

namespace Samples

def approved : Body := Dict.empty.set "error" .null

def history : List (Operation Nat) :=
  [.create "prop-a" 5, .create "prop-b" 5, .resolve "prop-a" .accepted approved,
    .resolve "prop-b" .rejected timeoutBody]

theorem fresh_history : FreshIds history := by
  intro index proposalId deadline created
  match index with
  | 0 => cases created; rfl
  | 1 => cases created; rfl
  | 2 => cases created
  | 3 => cases created
  | _ + 4 => cases created

def lateSweep : Sweep history where
  now := 5
  start := 3
  indices := [3]
  ordered := List.pairwise_singleton _ 3
  after' := by simp
  own := rfl

theorem finalOutcomes :
    (Poll.mk "prop-a" 9 9 10 11 12 (by decide)).answer history =
        .resolved 263 (echoed "prop-a" "accepted" approved) ∧
      lateSweep.returned = lateSweep.indices.countP (turns history) :=
  ⟨(outcomes_final fresh_history).2.1 ⟨"prop-a", 9, 9, 10, 11, 12, by decide⟩ 2 .accepted
      approved (by decide) ⟨rfl, _, rfl, rfl⟩ (by decide),
    ((outcomes_final fresh_history).2.2.2 lateSweep).2.mpr (by decide +kernel)⟩

def race : List (Operation Nat) :=
  [.create "prop-a" 5, .resolve "prop-a" .accepted approved,
    .resolve "prop-a" .rejected timeoutBody]

def hastySweep : Sweep race where
  now := 5
  start := 1
  indices := [2]
  ordered := List.pairwise_singleton _ 2
  after' := by simp
  own := rfl

/-- The sweep counts a proposal that it did not turn, and a poll within the resolution sees
an outcome with no status and no body. -/
theorem countedAndTorn :
    hastySweep.returned = 1 ∧ hastySweep.indices.countP (turns race) = 0 ∧
      (Poll.mk "prop-a" 4 4 4 4 4 (by decide)).answer race =
        .resolved 200 (echoed "prop-a" "accepted" .empty) ∧
      (Poll.mk "prop-a" 6 6 6 6 6 (by decide)).answer race =
        .resolved 263 (echoed "prop-a" "accepted" approved) :=
  ⟨rfl, rfl, rfl, rfl⟩

end Samples

end Agtp.Proposals
