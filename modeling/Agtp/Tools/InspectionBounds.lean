import Agtp.Audit.ChainLaw
import Agtp.Foundation.Fallible
import Agtp.Tools.ChainInspector

/-! # Walks among hostile servers

Whatever the servers answer, a walk asks for at most as many records as it is allowed steps, and
ends. -/

namespace Agtp.Tools

open Audit

section Records

variable [TextCase]

/-! ## What a record points at -/

def ChainStep.links (knownAgents : Dict String String) (agentUri : String) (step : ChainStep) :
    List (String × String) :=
  (if step.previousAuditId ≠ "" ∧ step.previousAuditId ≠ genesisSentinel then
    [(agentUri, recordKey step.previousAuditId)] else []) ++
  step.priorActions.map fun reference =>
    (upstreamUri knownAgents reference, recordKey reference.auditId)

def Reference.link (reference : Reference) : String × String :=
  (reference.agentUri, recordKey reference.auditId)

theorem links_eq (knownAgents : Dict String String) (agentUri : String) (step : ChainStep) :
    (step.references knownAgents agentUri).map Reference.link =
      step.links knownAgents agentUri := by
  rw [ChainStep.references, ChainStep.links, List.map_append, List.map_map]
  congr 1
  split <;> rfl

theorem parent_of_references {knownAgents : Dict String String} {agentUri : String}
    {step : ChainStep} {reference : Reference}
    (member : reference ∈ step.references knownAgents agentUri) :
    reference.parent = some step.stepId := by
  rcases List.mem_append.mp member with previous | prior
  · split at previous
    · rw [List.mem_singleton.mp previous]
    · cases previous
  · rcases List.mem_map.mp prior with ⟨_, _, rfl⟩
    rfl

def ChainStep.targets (step : ChainStep) : List String :=
  (if step.previousAuditId ≠ "" ∧ step.previousAuditId ≠ genesisSentinel then
    [recordKey step.previousAuditId] else []) ++
  step.priorActions.map fun reference => recordKey reference.auditId

theorem targets_eq (knownAgents : Dict String String) (agentUri : String) (step : ChainStep) :
    (step.links knownAgents agentUri).map Prod.snd = step.targets := by
  rw [ChainStep.links, ChainStep.targets, List.map_append, List.map_map]
  congr 1
  split <;> rfl

/-! ## One more parent -/

omit [TextCase] in
theorem addParent_of_new (step : ChainStep) (none_ : step.parentStepIds = [])
    (parent : Option Nat) :
    (step.addParent parent).parentStepIds = parent.toList ∧
      (step.addParent parent).auditId = step.auditId ∧
      (step.addParent parent).fetchError = step.fetchError := by
  cases parent with
  | none => exact ⟨none_, rfl, rfl⟩
  | some parent =>
      have absent : parent ∉ step.parentStepIds := by
        rw [none_]
        exact List.not_mem_nil
      rw [ChainStep.addParent, if_neg absent, none_]
      exact ⟨rfl, rfl, rfl⟩

def Inspection.ids (inspection : Inspection) : List String :=
  inspection.steps.map ChainStep.auditId

omit [TextCase] in
theorem mem_addParent {step : ChainStep} {parent : Option Nat} {number : Nat} :
    number ∈ (step.addParent parent).parentStepIds ↔
      number ∈ step.parentStepIds ∨ parent = some number := by
  cases parent with
  | none => simp [ChainStep.addParent]
  | some parent =>
      rw [ChainStep.addParent, Option.some.injEq]
      split
      · next held =>
          constructor
          · exact Or.inl
          · intro either
            rcases either with there | rfl
            · exact there
            · exact held
      · simp [eq_comm]

omit [TextCase] in
theorem addParent_keeps (step : ChainStep) (parent : Option Nat) :
    (step.addParent parent).auditId = step.auditId ∧
      (step.addParent parent).fetchError = step.fetchError := by
  cases parent with
  | none => exact ⟨rfl, rfl⟩
  | some parent =>
      rw [ChainStep.addParent]
      split <;> exact ⟨rfl, rfl⟩

omit [TextCase] in
theorem ids_modify (steps : List ChainStep) (existing : Nat) (parent : Option Nat) :
    (steps.modify existing (.addParent parent)).map ChainStep.auditId =
      steps.map ChainStep.auditId := by
  apply List.ext_getElem?
  intro number
  rw [List.getElem?_map, List.getElem?_map, List.getElem?_modify]
  cases steps[number]? with
  | none => rfl
  | some step =>
      split
      · exact congrArg some (addParent_keeps step parent).1
      · rfl

omit [TextCase] in
theorem step_of_modify {steps : List ChainStep} {existing : Nat} {parent : Option Nat}
    {number : Nat} {later : ChainStep}
    (held : (steps.modify existing (.addParent parent))[number]? = some later) :
    ∃ step, steps[number]? = some step ∧ later.auditId = step.auditId ∧
      later.fetchError = step.fetchError ∧ ∀ other ∈ later.parentStepIds,
        other ∈ step.parentStepIds ∨ number = existing ∧ parent = some other := by
  rw [List.getElem?_modify] at held
  cases there : steps[number]? with
  | none =>
      rw [there] at held
      cases held
  | some step =>
      rw [there] at held
      by_cases same : existing = number
      · have grown : step.addParent parent = later := by simpa [same] using held
        subst grown
        refine ⟨step, rfl, (addParent_keeps step parent).1, (addParent_keeps step parent).2, ?_⟩
        intro other member
        exact (mem_addParent.mp member).imp_right fun added => ⟨same.symm, added⟩
      · have unchanged : step = later := by simpa [same] using held
        subst unchanged
        exact ⟨step, rfl, rfl, rfl, fun _ => .inl⟩

end Records

section

variable [TextCase] {fetch : Fetch} {knownAgents : Dict String String} {maxSteps : Nat}

/-! ## One pass -/

/-- The inspection after a pass that goes on. -/
inductive Proceeds (fetch : Fetch) (knownAgents : Dict String String) (maxSteps : Nat)
    (inspection : Inspection) : Inspection → Prop where
  | seen {next : Reference} {rest : List Reference} {existing : Nat}
      (taken : inspection.frontier = next :: rest)
      (room : inspection.steps.length < maxSteps)
      (visited : inspection.visited.get? (recordKey next.auditId) = some existing) :
      Proceeds fetch knownAgents maxSteps inspection { inspection with
        frontier := rest
        steps := inspection.steps.modify existing (.addParent next.parent) }
  | nowhere {next : Reference} {rest : List Reference}
      (taken : inspection.frontier = next :: rest)
      (room : inspection.steps.length < maxSteps)
      (fresh : inspection.visited.get? (recordKey next.auditId) = none)
      (unlocated : next.agentUri = "") :
      Proceeds fetch knownAgents maxSteps inspection (inspection.add rest
        ((ChainStep.failed inspection.steps.length (recordKey next.auditId) ""
          .noLocation).addParent next.parent) [])
  | fetched {next : Reference} {rest : List Reference} {step : ChainStep}
      (taken : inspection.frontier = next :: rest)
      (room : inspection.steps.length < maxSteps)
      (fresh : inspection.visited.get? (recordKey next.auditId) = none)
      (located : next.agentUri ≠ "")
      (answered : fetch next.agentUri (recordKey next.auditId) inspection.steps.length =
        .ok step) :
      Proceeds fetch knownAgents maxSteps inspection
        (inspection.add rest (step.addParent next.parent)
          (step.enqueued knownAgents next.agentUri))

theorem passes_of_inspectNext {inspection later : Inspection}
    (went : inspectNext fetch knownAgents maxSteps inspection = .ok (some later)) :
    Proceeds fetch knownAgents maxSteps inspection later := by
  unfold inspectNext at went
  split at went
  · cases went
  · next next rest taken =>
      split at went
      · cases went
      · next room =>
          have room := Nat.lt_of_not_le room
          dsimp only at went
          split at went
          · next existing visited =>
              cases went
              exact .seen taken room visited
          · next fresh =>
              split at went
              · next unlocated =>
                  cases went
                  exact .nowhere taken room fresh unlocated
              · next located =>
                  split at went
                  · cases went
                  · next step answered =>
                      cases went
                      exact .fetched taken room fresh located answered

def Lower (maxSteps : Nat) (later earlier : Inspection) : Prop :=
  Prod.Lex (· < ·) (· < ·) (maxSteps - later.steps.length, later.frontier.length)
    (maxSteps - earlier.steps.length, earlier.frontier.length)

omit [TextCase] in
theorem wellFounded_lower (maxSteps : Nat) : WellFounded (Lower maxSteps) :=
  InvImage.wf (fun inspection : Inspection =>
    (maxSteps - inspection.steps.length, inspection.frontier.length))
    (WellFounded.prod_lex Nat.lt_wfRel.wf Nat.lt_wfRel.wf)

omit [TextCase] in
theorem lower_add {inspection : Inspection} (room : inspection.steps.length < maxSteps)
    (rest : List Reference) (step : ChainStep) (waiting : List Reference) :
    Lower maxSteps (inspection.add rest step waiting) inspection := by
  apply Prod.Lex.left
  rw [Inspection.add, List.length_append, List.length_singleton]
  omega

theorem Proceeds.lower {inspection later : Inspection}
    (passes : Proceeds fetch knownAgents maxSteps inspection later) :
    Lower maxSteps later inspection := by
  cases passes with
  | seen taken =>
      rw [Lower, List.length_modify, taken]
      exact Prod.Lex.right _ (Nat.lt_succ_self _)
  | nowhere _ room => exact lower_add room _ _ _
  | fetched _ room => exact lower_add room _ _ _

/-! ## What the servers are asked -/

structure Ask where
  agentUri : String
  auditId : String
  stepId : Nat

def Inspection.asks (maxSteps : Nat) (inspection : Inspection) : List Ask :=
  match inspection.frontier with
  | [] => []
  | next :: _ =>
      if inspection.steps.length < maxSteps ∧ next.agentUri ≠ "" ∧
          inspection.visited.get? (recordKey next.auditId) = none then
        [⟨next.agentUri, recordKey next.auditId, inspection.steps.length⟩]
      else []

def asksOf (fetch : Fetch) (knownAgents : Dict String String) (maxSteps : Nat) :
    Nat → Inspection → List Ask
  | 0, _ => []
  | depth + 1, inspection =>
      inspection.asks maxSteps ++
        match inspectNext fetch knownAgents maxSteps inspection with
        | .ok (some later) => asksOf fetch knownAgents maxSteps depth later
        | _ => []

theorem asks_of_seen {inspection : Inspection} {next : Reference} {rest : List Reference}
    {existing : Nat} (taken : inspection.frontier = next :: rest)
    (visited : inspection.visited.get? (recordKey next.auditId) = some existing) :
    inspection.asks maxSteps = [] := by
  rw [Inspection.asks, taken]
  apply if_neg
  intro ⟨_, _, fresh⟩
  cases visited.symm.trans fresh

theorem asks_of_nowhere {inspection : Inspection} {next : Reference} {rest : List Reference}
    (taken : inspection.frontier = next :: rest) (unlocated : next.agentUri = "") :
    inspection.asks maxSteps = [] := by
  rw [Inspection.asks, taken]
  apply if_neg
  intro ⟨_, located, _⟩
  exact located unlocated

theorem asks_of_fetched {inspection : Inspection} {next : Reference} {rest : List Reference}
    (taken : inspection.frontier = next :: rest) (room : inspection.steps.length < maxSteps)
    (located : next.agentUri ≠ "")
    (fresh : inspection.visited.get? (recordKey next.auditId) = none) :
    inspection.asks maxSteps =
      [⟨next.agentUri, recordKey next.auditId, inspection.steps.length⟩] := by
  rw [Inspection.asks, taken]
  exact if_pos ⟨room, located, fresh⟩

theorem inspectNext_full {inspection : Inspection}
    (full : maxSteps ≤ inspection.steps.length) :
    inspectNext fetch knownAgents maxSteps inspection = .ok none := by
  rw [inspectNext]
  split
  · rfl
  · exact if_pos full

variable (fetch knownAgents maxSteps) in
theorem inspectNext_stops (inspection : Inspection) :
    (inspectNext fetch knownAgents maxSteps inspection = .ok none →
      inspection.asks maxSteps = []) ∧
    ∀ failure, inspectNext fetch knownAgents maxSteps inspection = .error failure →
      inspection.steps.length < maxSteps ∧ ∃ ask, inspection.asks maxSteps = [ask] ∧
        fetch ask.agentUri ask.auditId ask.stepId = .error failure := by
  rcases inspection with ⟨frontier, visited, steps⟩
  cases frontier with
  | nil => exact ⟨fun _ => rfl, nofun⟩
  | cons next rest =>
      by_cases full : maxSteps ≤ steps.length
      · rw [inspectNext_full full]
        refine ⟨fun _ => if_neg ?_, nofun⟩
        intro ⟨room, _⟩
        exact absurd room (Nat.not_lt.mpr full)
      · have room : steps.length < maxSteps := Nat.lt_of_not_le full
        cases known : visited.get? (recordKey next.auditId) with
        | some existing =>
            have asked : Inspection.asks maxSteps ⟨next :: rest, visited, steps⟩ = [] :=
              asks_of_seen rfl known
            simp [inspectNext, full, known, asked]
        | none =>
            by_cases nowhere : next.agentUri = ""
            · simp [inspectNext, full, known, nowhere]
            · -- only here a server is asked
              cases answered : fetch next.agentUri (recordKey next.auditId) steps.length with
              | ok step => simp [inspectNext, full, known, nowhere, answered]
              | error failure =>
                  have asked : Inspection.asks maxSteps ⟨next :: rest, visited, steps⟩ =
                      [⟨next.agentUri, recordKey next.auditId, steps.length⟩] :=
                    asks_of_fetched rfl room nowhere known
                  simp [inspectNext, full, known, nowhere, answered, asked, room]

omit [TextCase] in
theorem length_add (inspection : Inspection) (rest : List Reference) (step : ChainStep)
    (waiting : List Reference) :
    (inspection.add rest step waiting).steps.length = inspection.steps.length + 1 := by
  rw [Inspection.add, List.length_append, List.length_singleton]

theorem Proceeds.asks_le {inspection later : Inspection}
    (passes : Proceeds fetch knownAgents maxSteps inspection later) :
    (inspection.asks maxSteps).length + inspection.steps.length ≤ later.steps.length := by
  cases passes with
  | seen taken _ visited =>
      rw [asks_of_seen taken visited, List.length_modify, List.length_nil]
      omega
  | nowhere taken _ _ unlocated =>
      rw [length_add, asks_of_nowhere taken unlocated, List.length_nil]
      omega
  | fetched taken room fresh located =>
      rw [length_add, asks_of_fetched taken room located fresh, List.length_singleton]
      omega

theorem Proceeds.length_le {inspection later : Inspection}
    (passes : Proceeds fetch knownAgents maxSteps inspection later)
    (within : inspection.steps.length ≤ maxSteps) : later.steps.length ≤ maxSteps := by
  cases passes with
  | seen => rwa [List.length_modify]
  | nowhere _ room =>
      rw [length_add]
      omega
  | fetched _ room =>
      rw [length_add]
      omega

variable (fetch knownAgents) in
theorem length_asksOf (depth : Nat) {inspection : Inspection}
    (within : inspection.steps.length ≤ maxSteps) :
    (asksOf fetch knownAgents maxSteps depth inspection).length + inspection.steps.length ≤
      maxSteps := by
  induction depth generalizing inspection with
  | zero =>
      rw [asksOf, List.length_nil]
      omega
  | succ depth induction =>
      rw [asksOf, List.length_append]
      have stops := inspectNext_stops fetch knownAgents maxSteps inspection
      cases passed : inspectNext fetch knownAgents maxSteps inspection with
      | error failure =>
          rcases stops.2 failure passed with ⟨room, ask, asked, _⟩
          rw [asked, List.length_singleton, List.length_nil]
          omega
      | ok verdict =>
          cases verdict with
          | none =>
              rw [stops.1 passed, List.length_nil]
              omega
          | some later =>
              have passes := passes_of_inspectNext passed
              have rest := induction (passes.length_le within)
              have asked := passes.asks_le
              dsimp only
              omega

/-! ## Steps and their parents -/

def Names (steps : List ChainStep) (number : Nat) (target : String) : Prop :=
  ∃ parent, steps[number]? = some parent ∧ parent.fetchError = none ∧ target ∈ parent.targets

/-- The steps of a walk: numbered by position, of distinct records, and but for the first
each with a parent. Every parent points at its child. -/
structure WellLinked (steps : List ChainStep) : Prop where
  numbered : ∀ (number : Nat) (step : ChainStep), steps[number]? = some step →
    step.stepId = number
  distinct : (steps.map ChainStep.auditId).Nodup
  parented : ∀ (number : Nat) (step : ChainStep), steps[number]? = some step → number ≠ 0 →
    step.parentStepIds ≠ []
  named : ∀ child ∈ steps, ∀ number ∈ child.parentStepIds, Names steps number child.auditId

def AnswersAsk (fetch : Fetch) : Prop :=
  ∀ agentUri auditId stepId step, fetch agentUri auditId stepId = .ok step →
    step.auditId = auditId ∧ step.stepId = stepId ∧ step.parentStepIds = []

structure Linked (inspection : Inspection) : Prop where
  numbered : ∀ (number : Nat) (step : ChainStep), inspection.steps[number]? = some step →
    step.stepId = number
  indexed : ∀ auditId number, inspection.visited.get? auditId = some number ↔
    inspection.ids[number]? = some auditId
  parented : ∀ (number : Nat) (step : ChainStep), inspection.steps[number]? = some step →
    number ≠ 0 → step.parentStepIds ≠ []
  named : ∀ child ∈ inspection.steps, ∀ number ∈ child.parentStepIds,
    Names inspection.steps number child.auditId
  begun : (inspection.steps = [] ∧ ∃ start, inspection.frontier = [start] ∧
      start.parent = none) ∨
    (inspection.steps ≠ [] ∧ ∀ reference ∈ inspection.frontier, reference.parent ≠ none)
  waiting : ∀ reference ∈ inspection.frontier, ∀ number, reference.parent = some number →
    Names inspection.steps number (recordKey reference.auditId)

theorem Linked.wellLinked {inspection : Inspection} (linked : Linked inspection) :
    WellLinked inspection.steps where
  numbered := linked.numbered
  distinct := by
    rw [List.nodup_iff_injective_get]
    intro first second same
    have at_ (index : Fin (inspection.steps.map ChainStep.auditId).length) :
        inspection.ids[index.val]? =
          some ((inspection.steps.map ChainStep.auditId).get index) :=
      List.getElem?_eq_getElem index.isLt
    have known := (linked.indexed _ _).mpr (at_ first)
    have other := (linked.indexed _ _).mpr (at_ second)
    rw [same] at known
    exact Fin.ext (Option.some.inj (known.symm.trans other))
  parented := linked.parented
  named := linked.named

omit [TextCase] in
theorem addParent_eq (step : ChainStep) (parent : Option Nat) :
    step.addParent parent =
      { step with parentStepIds := (step.addParent parent).parentStepIds } := by
  cases parent with
  | none => rfl
  | some parent =>
      rw [ChainStep.addParent]
      split <;> rfl

theorem targets_addParent (step : ChainStep) (parent : Option Nat) :
    (step.addParent parent).targets = step.targets := by
  rw [addParent_eq]
  rfl

theorem Names.append {steps : List ChainStep} {number : Nat} {target : String}
    (names : Names steps number target) (added : List ChainStep) :
    Names (steps ++ added) number target := by
  rcases names with ⟨parent, held, found, points⟩
  have within : number < steps.length := (List.getElem?_eq_some_iff.mp held).1
  exact ⟨parent, (List.getElem?_append_left within).trans held, found, points⟩

theorem Names.modify {steps : List ChainStep} {number : Nat} {target : String}
    (names : Names steps number target) (existing : Nat) (further : Option Nat) :
    Names (steps.modify existing (.addParent further)) number target := by
  rcases names with ⟨parent, held, found, points⟩
  rw [Names, List.getElem?_modify, held]
  by_cases same : existing = number
  · refine ⟨parent.addParent further, by simp [same], ?_, ?_⟩
    · rw [(addParent_keeps parent further).2, found]
    · rw [targets_addParent]
      exact points
  · exact ⟨parent, by simp [same], found, points⟩

theorem enqueued_of_mem {step : ChainStep} {agentUri : String} {reference : Reference}
    (member : reference ∈ step.enqueued knownAgents agentUri) :
    step.fetchError = none ∧ reference.parent = some step.stepId ∧
      recordKey reference.auditId ∈ step.targets := by
  rw [ChainStep.enqueued] at member
  cases found : step.fetchError with
  | some error =>
      rw [found] at member
      cases member
  | none =>
      rw [found] at member
      refine ⟨rfl, parent_of_references member, ?_⟩
      rw [← targets_eq knownAgents agentUri step, ← links_eq, List.map_map]
      exact List.mem_map_of_mem (f := Prod.snd ∘ Reference.link) member

theorem Linked.seen {inspection : Inspection} (linked : Linked inspection) {next : Reference}
    {rest : List Reference} (taken : inspection.frontier = next :: rest) {existing : Nat}
    (visited : inspection.visited.get? (recordKey next.auditId) = some existing) :
    Linked { inspection with
      frontier := rest
      steps := inspection.steps.modify existing (.addParent next.parent) } := by
  have waits {reference : Reference} (member : reference ∈ rest) :
      reference ∈ inspection.frontier := taken ▸ List.mem_cons_of_mem next member
  have first : next ∈ inspection.frontier := taken ▸ List.mem_cons_self
  have there := (linked.indexed _ _).mp visited
  refine ⟨?_, ?_, ?_, ?_, ?_, ?_⟩
  · intro number step held
    rw [List.getElem?_modify] at held
    rcases Option.map_eq_some_iff.mp held with ⟨before, heldBefore, grown⟩
    rw [← grown]
    split
    · rw [addParent_eq]
      exact linked.numbered number before heldBefore
    · exact linked.numbered number before heldBefore
  · intro auditId number
    rw [linked.indexed, Inspection.ids, Inspection.ids, ids_modify]
  · intro number step held notFirst
    rw [List.getElem?_modify] at held
    rcases Option.map_eq_some_iff.mp held with ⟨before, heldBefore, grown⟩
    have some := linked.parented number before heldBefore notFirst
    rcases List.exists_mem_of_ne_nil _ some with ⟨parent, member⟩
    rw [← grown]
    split
    · exact List.ne_nil_of_mem (mem_addParent.mpr (.inl member))
    · exact some
  · intro child member number recorded
    rcases List.getElem?_of_mem member with ⟨index, held⟩
    rcases step_of_modify held with ⟨before, heldBefore, sameId, _, parents⟩
    rw [sameId]
    rcases parents number recorded with already | ⟨rfl, parent⟩
    · exact (linked.named before (List.mem_of_getElem? heldBefore) number already).modify _ _
    · rw [Inspection.ids, List.getElem?_map, heldBefore] at there
      rw [show before.auditId = recordKey next.auditId from Option.some.inj there]
      exact (linked.waiting next first number parent).modify _ _
  · have within := (List.getElem?_eq_some_iff.mp there).1
    rw [Inspection.ids, List.length_map] at within
    rcases linked.begun with ⟨none, _⟩ | ⟨_, parents⟩
    · rw [none] at within
      cases within
    · refine .inr ⟨?_, fun reference member => parents reference (waits member)⟩
      rw [← List.length_pos_iff, List.length_modify]
      omega
  · intro reference member number parent
    exact (linked.waiting reference (waits member) number parent).modify _ _

theorem Linked.add {inspection : Inspection} (linked : Linked inspection) {next : Reference}
    {rest : List Reference} (taken : inspection.frontier = next :: rest)
    (fresh : inspection.visited.get? (recordKey next.auditId) = none) {step : ChainStep}
    (auditId : step.auditId = recordKey next.auditId)
    (stepId : step.stepId = inspection.steps.length) (orphan : step.parentStepIds = [])
    (knownAgents : Dict String String) :
    Linked (inspection.add rest (step.addParent next.parent)
      (step.enqueued knownAgents next.agentUri)) := by
  have waits {reference : Reference} (member : reference ∈ rest) :
      reference ∈ inspection.frontier := taken ▸ List.mem_cons_of_mem next member
  have first : next ∈ inspection.frontier := taken ▸ List.mem_cons_self
  have added := addParent_of_new step orphan next.parent
  have last {number : Nat} {held : ChainStep} (there :
      (inspection.steps ++ [step.addParent next.parent])[number]? = some held) :
      inspection.steps[number]? = some held ∨
        number = inspection.steps.length ∧ held = step.addParent next.parent := by
    rw [List.getElem?_append] at there
    split at there
    · exact .inl there
    · right
      rw [List.getElem?_singleton] at there
      split at there
      · next outside here =>
          exact ⟨by omega, (Option.some.inj there).symm⟩
      · cases there
  refine ⟨?_, ?_, ?_, ?_, ?_, ?_⟩
  · intro number held there
    rcases last there with before | ⟨rfl, rfl⟩
    · exact linked.numbered number held before
    · rw [addParent_eq]
      exact stepId
  · intro other number
    rw [Inspection.add, Inspection.ids, List.map_append, List.map_singleton, added.2.1, auditId,
      List.getElem?_append]
    dsimp only
    have unseen : recordKey next.auditId ∉ inspection.ids := by
      intro seen
      rcases List.getElem?_of_mem seen with ⟨index, held⟩
      cases fresh.symm.trans ((linked.indexed _ _).mpr held)
    have indexed := linked.indexed other number
    rw [Inspection.ids] at indexed unseen
    by_cases same : other = recordKey next.auditId
    · rw [same, Dict.get?_set_same]
      split
      · next inside =>
          constructor
          · intro here
            rw [List.length_map, ← Option.some.inj here] at inside
            exact absurd inside (Nat.lt_irrefl _)
          · intro held
            exact absurd (List.mem_of_getElem? held) unseen
      · rw [List.getElem?_singleton, List.length_map, Option.some.injEq]
        rw [List.length_map] at *
        split
        · simp only [iff_true]
          omega
        · simp only [reduceCtorEq, iff_false]
          omega
    · rw [Dict.get?_set_other _ same, indexed]
      split
      · exact Iff.rfl
      · next outside =>
          rw [List.getElem?_singleton, List.getElem?_eq_none (by omega)]
          split
          · simp only [reduceCtorEq, Option.some.injEq, false_iff]
            exact fun equal => same equal.symm
          · exact Iff.rfl
  · intro number held there notFirst
    rcases last there with before | ⟨rfl, rfl⟩
    · exact linked.parented number held before notFirst
    · rw [added.1]
      cases parent : next.parent with
      | none =>
          rcases linked.begun with ⟨none, _⟩ | ⟨_, parents⟩
          · rw [none] at notFirst
            exact absurd rfl notFirst
          · exact absurd parent (parents next first)
      | some parent => exact List.cons_ne_nil _ _
  · intro child member number recorded
    rcases List.mem_append.mp member with before | new
    · exact (linked.named child before number recorded).append _
    · rw [List.mem_singleton.mp new] at recorded ⊢
      rw [added.1, Option.mem_toList] at recorded
      rw [added.2.1, auditId]
      exact (linked.waiting next first number recorded).append _
  · refine .inr ⟨List.append_ne_nil_of_right_ne_nil _ (List.cons_ne_nil _ _), ?_⟩
    intro reference member
    rcases List.mem_append.mp member with before | new
    · rcases linked.begun with ⟨_, start, alone, _⟩ | ⟨_, parents⟩
      · rw [taken] at alone
        cases alone
        cases before
      · exact parents reference (waits before)
    · rw [(enqueued_of_mem new).2.1]
      exact Option.some_ne_none _
  · intro reference member number parent
    rcases List.mem_append.mp member with before | new
    · exact (linked.waiting reference (waits before) number parent).append _
    · rcases enqueued_of_mem new with ⟨found, ofStep, points⟩
      rw [ofStep, stepId] at parent
      refine ⟨step.addParent next.parent, ?_, added.2.2.trans found, ?_⟩
      · rw [← Option.some.inj parent]
        exact List.getElem?_concat_length
      · rw [targets_addParent]
        exact points

theorem linked_of_passes (answers : AnswersAsk fetch) {inspection later : Inspection}
    (passes : Proceeds fetch knownAgents maxSteps inspection later)
    (linked : Linked inspection) : Linked later := by
  cases passes with
  | seen taken _ visited => exact linked.seen taken visited
  | nowhere taken _ fresh => exact linked.add taken fresh rfl rfl rfl knownAgents
  | fetched taken _ fresh _ answered =>
      rcases answers _ _ _ _ answered with ⟨auditId, stepId, orphan⟩
      exact linked.add taken fresh auditId stepId orphan knownAgents

theorem linked_inspectionFrom (agentUri startAuditId : String) :
    Linked (inspectionFrom agentUri startAuditId) where
  numbered := nofun
  indexed auditId number := iff_of_false nofun nofun
  parented := nofun
  named := nofun
  begun := .inl ⟨rfl, _, rfl, rfl⟩
  waiting := by
    intro reference member number parent
    rw [List.mem_singleton.mp member] at parent
    cases parent

variable (fetch knownAgents maxSteps) in
theorem walk_ends (inspection : Inspection) :
    ∃ depth outcome, Loop.run (inspectNext fetch knownAgents maxSteps) depth inspection =
      some outcome :=
  Loop.ends_of_wellFounded (wellFounded_lower maxSteps)
    (fun _ _ went => (passes_of_inspectNext went).lower) inspection

theorem wellLinked_of_walk (answers : AnswersAsk fetch) {depth : Nat}
    {agentUri startAuditId : String} {final : Inspection}
    (ended : Loop.run (inspectNext fetch knownAgents maxSteps) depth
      (inspectionFrom agentUri startAuditId) = some (.ok final)) : WellLinked final.steps :=
  (Loop.kept_of_run (fun _ _ linked went =>
    linked_of_passes answers (passes_of_inspectNext went) linked)
    (linked_inspectionFrom agentUri startAuditId) ended).1.wellLinked

end

/-! ## What the records are -/

section

variable [TextCase] [Digest] {fetch : Fetch} {knownAgents : Dict String String} {maxSteps : Nat}

def Authentic (step : ChainStep) : Prop :=
  step.fetchError = none → auditIdFor step.jws = step.auditId

omit [TextCase] in
theorem authentic_addParent {step : ChainStep} (parent : Option Nat) :
    Authentic (step.addParent parent) ↔ Authentic step := by
  rw [addParent_eq]
  exact Iff.rfl

omit [TextCase] [Digest] in
theorem forall_mem_modify {property : ChainStep → Prop} {change : ChainStep → ChainStep}
    (same : ∀ step, property (change step) ↔ property step) (steps : List ChainStep)
    (index : Nat) :
    (∀ step ∈ steps.modify index change, property step) ↔ ∀ step ∈ steps, property step := by
  induction steps generalizing index with
  | nil => rw [List.modify_nil]
  | cons step steps induction =>
      cases index with
      | zero => rw [List.modify_zero_cons, List.forall_mem_cons, List.forall_mem_cons, same]
      | succ index =>
          rw [List.modify_succ_cons, List.forall_mem_cons, List.forall_mem_cons, induction]

def AnsweredBy (fetch : Fetch) (ask : Ask) : Prop :=
  ∃ step, fetch ask.agentUri ask.auditId ask.stepId = .ok step ∧ Authentic step

theorem Proceeds.authentic_iff {inspection later : Inspection}
    (passes : Proceeds fetch knownAgents maxSteps inspection later) :
    (∀ step ∈ later.steps, Authentic step) ↔
      (∀ step ∈ inspection.steps, Authentic step) ∧
        ∀ ask ∈ inspection.asks maxSteps, AnsweredBy fetch ask := by
  cases passes with
  | seen taken _ visited =>
      rw [asks_of_seen taken visited, forall_mem_modify fun step => authentic_addParent _]
      simp only [List.not_mem_nil, false_implies, implies_true, and_true]
  | nowhere taken _ _ unlocated =>
      rw [asks_of_nowhere taken unlocated, Inspection.add, List.forall_mem_append,
        List.forall_mem_singleton, authentic_addParent]
      simp only [List.not_mem_nil, false_implies, implies_true, and_true, and_iff_left_iff_imp]
      exact fun _ => nofun
  | fetched taken room fresh located answered =>
      rw [asks_of_fetched taken room located fresh, Inspection.add, List.forall_mem_append,
        List.forall_mem_singleton, List.forall_mem_singleton, authentic_addParent, AnsweredBy,
        answered]
      simp only [Except.ok.injEq, exists_eq_left']

theorem authentic_of_run {depth : Nat} {inspection : Inspection}
    {outcome : Raises Inspection}
    (ended : Loop.run (inspectNext fetch knownAgents maxSteps) depth inspection =
      some outcome) :
    (∃ final, outcome = .ok final ∧ ∀ step ∈ final.steps, Authentic step) ↔
      (∀ step ∈ inspection.steps, Authentic step) ∧
        ∀ ask ∈ asksOf fetch knownAgents maxSteps depth inspection, AnsweredBy fetch ask := by
  induction depth generalizing inspection with
  | zero => cases ended
  | succ depth induction =>
      have stops := inspectNext_stops fetch knownAgents maxSteps inspection
      rw [asksOf]
      cases passed : inspectNext fetch knownAgents maxSteps inspection with
      | error failure =>
          rw [Loop.run_error passed] at ended
          cases ended
          rcases stops.2 failure passed with ⟨_, ask, asked, raised⟩
          rw [asked, List.append_nil, List.forall_mem_singleton, AnsweredBy, raised]
          simp only [reduceCtorEq, false_and, exists_false, and_false]
      | ok verdict =>
          cases verdict with
          | none =>
              rw [Loop.run_leave passed] at ended
              cases ended
              rw [stops.1 passed]
              simp only [Except.ok.injEq, exists_eq_left', List.append_nil, List.not_mem_nil,
                false_implies, implies_true, and_true]
          | some later =>
              rw [Loop.run_next passed] at ended
              rw [induction ended, (passes_of_inspectNext passed).authentic_iff,
                List.forall_mem_append, and_assoc]

end

/-! ## Servers -/

section

variable [TextCase] [Digest] [JsonCodec] [TextOf] {PublicKey : Type} [SignatureScheme PublicKey]

/-- What calling an agent for a record returns, at each step of the walk; nothing holds of
it. -/
abbrev Servers := Nat → String → String → Raises InspectResult

def fetchFrom (servers : Servers) (issuerPublicKey : Option PublicKey) : Fetch :=
  fun agentUri auditId stepId =>
    match servers stepId agentUri auditId with
    | .error failure => .error failure
    | .ok result => fetchOne (fun _ _ => result) issuerPublicKey agentUri auditId stepId

omit [Digest] in
theorem answersAsk_stepOfJws {issuerPublicKey : Option PublicKey} {agentUri auditId jws : String}
    {stepId : Nat} {step : ChainStep}
    (read : stepOfJws issuerPublicKey agentUri auditId stepId jws = .ok step) :
    step.auditId = auditId ∧ step.stepId = stepId ∧ step.parentStepIds = [] := by
  unfold stepOfJws at read
  split at read
  · cases read
    exact ⟨rfl, rfl, rfl⟩
  · cases read
  · rcases Fallible.ok_of_bind read with ⟨verified, _, built⟩
    cases built
    exact ⟨rfl, rfl, rfl⟩
  · cases read

omit [Digest] in
theorem answersAsk_fetchFrom (servers : Servers) (issuerPublicKey : Option PublicKey) :
    AnswersAsk (fetchFrom servers issuerPublicKey) := by
  intro agentUri auditId stepId step fetched
  unfold fetchFrom at fetched
  split at fetched
  · cases fetched
  · unfold fetchOne at fetched
    dsimp only at fetched
    split at fetched
    · cases fetched
      exact ⟨rfl, rfl, rfl⟩
    · split at fetched
      · cases fetched
        exact ⟨rfl, rfl, rfl⟩
      · cases fetched
      · split at fetched
        · cases fetched
          exact ⟨rfl, rfl, rfl⟩
        · split at fetched
          · cases fetched
            exact ⟨rfl, rfl, rfl⟩
          · split at fetched
            · exact answersAsk_stepOfJws fetched
            · cases fetched
      · cases fetched

def FaithfulJws (auditId jws : String) : Prop :=
  match parseAttributionRecord jws with
  | .error (.record _) => True
  | .ok ⟨.object _, .object _, _, _⟩ => auditIdFor jws = auditId
  | _ => False

/-- The answer is a failure, a body that is not JSON or without a record, or faithful. -/
def Faithful (auditId : String) : Raises InspectResult → Prop
  | .error _ => False
  | .ok result =>
      result.ok = false ∨ result.statusCode ≠ some 200 ∨
        match JsonCodec.loads result.bodyBytes with
        | .error .valueError => True
        | .ok (.object body) =>
            match Json.member body "jws" with
            | none => True
            | some value => value.truthy = false ∨
                ∃ jws, value = .string jws ∧ FaithfulJws auditId jws
        | _ => False

omit [TextCase] [Digest] [TextOf] in
theorem verifiedOf_parsed {jws : String} {header payload : List (String × Json)}
    {signature signingInput : Bytes}
    (parsed : parseAttributionRecord jws =
      .ok ⟨.object header, .object payload, signature, signingInput⟩)
    (issuerPublicKey : Option PublicKey) (signed : Bool) :
    ∃ verified, verifiedOf issuerPublicKey signed jws = .ok verified := by
  cases issuerPublicKey with
  | none => exact ⟨none, rfl⟩
  | some key =>
      cases signed with
      | false => exact ⟨none, rfl⟩
      | true =>
          rw [verifiedOf, verifyAttributionRecord, parsed]
          simp only [bind, Except.bind]
          split
          · exact ⟨_, rfl⟩
          · exact ⟨_, rfl⟩
          · next uncaught =>
              split at uncaught
              · split at uncaught <;> cases uncaught
              · split at uncaught <;> cases uncaught
              · cases uncaught

omit [Digest] in
theorem stepOfJws_unkeyed {jws : String} {header payload : List (String × Json)}
    {signature signingInput : Bytes}
    (parsed : parseAttributionRecord jws =
      .ok ⟨.object header, .object payload, signature, signingInput⟩)
    (agentUri auditId : String) (stepId : Nat) :
    ∃ step, stepOfJws (none : Option PublicKey) agentUri auditId stepId jws = .ok step ∧
      step.auditId = auditId ∧ step.fetchError = none ∧ step.jws = jws := by
  rw [stepOfJws, parsed]
  exact ⟨_, rfl, rfl, rfl, rfl⟩

omit [Digest] in
theorem fetchFrom_record {bytes : Bytes} {jws : String}
    (loaded : JsonCodec.loads bytes = .ok (.object [("jws", .string jws)])) (named : jws ≠ "")
    (issuerPublicKey : Option PublicKey) (agentUri auditId : String) (stepId : Nat) :
    fetchFrom (fun _ _ _ => .ok ⟨true, some 200, none, bytes⟩) issuerPublicKey agentUri auditId
      stepId = stepOfJws issuerPublicKey agentUri auditId stepId jws := by
  simp [fetchFrom, fetchOne, loaded, Json.member, Json.truthy, named]

theorem authentic_stepOfJws (issuerPublicKey : Option PublicKey) (agentUri auditId jws : String)
    (stepId : Nat) :
    (∃ step, stepOfJws issuerPublicKey agentUri auditId stepId jws = .ok step ∧
      Authentic step) ↔ FaithfulJws auditId jws := by
  unfold stepOfJws FaithfulJws
  cases parsed : parseAttributionRecord jws with
  | error failure =>
      cases failure with
      | record error => exact iff_of_true ⟨_, rfl, nofun⟩ trivial
      | uncaught => exact iff_of_false nofun id
  | ok record =>
      rcases record with ⟨header, payload, signature, signingInput⟩
      cases header with
      | object header =>
          cases payload with
          | object payload =>
              choose verified verifies using verifiedOf_parsed parsed issuerPublicKey
              simp only [verifies, bind, Except.bind, pure, Except.pure, Except.ok.injEq,
                exists_eq_left', Authentic, forall_const]
          | _ => exact iff_of_false nofun id
      | _ => exact iff_of_false nofun id

theorem answeredBy_body (issuerPublicKey : Option PublicKey) (agentUri auditId : String)
    (stepId : Nat) (body : List (String × Json)) :
    (∃ step, (match Json.member body "jws" with
        | none => .ok (.failed stepId auditId agentUri .missingJws)
        | some value =>
            if value.truthy = false then .ok (.failed stepId auditId agentUri .missingJws)
            else match value with
              | .string jws => stepOfJws issuerPublicKey agentUri auditId stepId jws
              | _ => .error () : Raises ChainStep) = .ok step ∧ Authentic step) ↔
      match Json.member body "jws" with
      | none => True
      | some value => value.truthy = false ∨
          ∃ jws, value = .string jws ∧ FaithfulJws auditId jws := by
  cases Json.member body "jws" with
  | none => exact iff_of_true ⟨_, rfl, nofun⟩ trivial
  | some value =>
      by_cases empty : value.truthy = false
      · dsimp only
        rw [if_pos empty]
        exact iff_of_true ⟨_, rfl, nofun⟩ (.inl empty)
      · dsimp only
        rw [if_neg empty, or_iff_right empty]
        cases value with
        | string jws =>
            rw [authentic_stepOfJws]
            constructor
            · exact fun faithful => ⟨jws, rfl, faithful⟩
            · intro ⟨_, same, faithful⟩
              cases same
              exact faithful
        | _ => exact iff_of_false nofun nofun

theorem answeredBy_iff (servers : Servers) (issuerPublicKey : Option PublicKey) (ask : Ask) :
    AnsweredBy (fetchFrom servers issuerPublicKey) ask ↔
      Faithful ask.auditId (servers ask.stepId ask.agentUri ask.auditId) := by
  unfold AnsweredBy fetchFrom
  cases servers ask.stepId ask.agentUri ask.auditId with
  | error failure => exact iff_of_false nofun id
  | ok result =>
      unfold fetchOne Faithful
      dsimp only
      by_cases refused : result.ok = false ∨ result.statusCode ≠ some 200
      · rw [if_pos refused]
        exact iff_of_true ⟨_, rfl, nofun⟩ (refused.imp_right Or.inl)
      · rw [if_neg refused]
        have answered := not_or.mp refused
        rw [or_iff_right answered.1, or_iff_right answered.2]
        cases JsonCodec.loads result.bodyBytes with
        | error failure =>
            cases failure with
            | valueError => exact iff_of_true ⟨_, rfl, nofun⟩ trivial
            | other => exact iff_of_false nofun id
        | ok body =>
            cases body with
            | object body => exact answeredBy_body issuerPublicKey _ _ _ body
            | _ => exact iff_of_false nofun id

/-- Whatever the servers do, a walk ends after at most as many requests as it is allowed
steps, and what it returns is well linked. It returns, and with the records that it asked
for, exactly if every server that it asks answers faithfully. -/
theorem walk_bounded_authentic_iff (servers : Servers) (issuerPublicKey : Option PublicKey)
    (knownAgents : List (String × String)) (maxSteps : Nat) (agentUri startAuditId : String) :
    (∃ depth outcome, walkRecords depth (fetchFrom servers issuerPublicKey) knownAgents maxSteps
      agentUri startAuditId = some outcome) ∧
    ∀ depth outcome, walkRecords depth (fetchFrom servers issuerPublicKey) knownAgents maxSteps
        agentUri startAuditId = some outcome →
      let asks := asksOf (fetchFrom servers issuerPublicKey) (lowerKeys knownAgents) maxSteps depth
        (inspectionFrom agentUri startAuditId)
      asks.length ≤ maxSteps ∧
      (∀ steps, outcome = .ok steps → steps.length ≤ maxSteps ∧ WellLinked steps) ∧
      ((∃ steps, outcome = .ok steps ∧ ∀ step ∈ steps, Authentic step) ↔
        ∀ ask ∈ asks, Faithful ask.auditId (servers ask.stepId ask.agentUri ask.auditId)) := by
  constructor
  · rcases walk_ends (fetchFrom servers issuerPublicKey) (lowerKeys knownAgents) maxSteps
      (inspectionFrom agentUri startAuditId) with ⟨depth, outcome, ended⟩
    refine ⟨depth, outcome.map Inspection.steps, ?_⟩
    rw [walkRecords, ended]
    rfl
  · intro depth outcome walked asks
    rcases Option.map_eq_some_iff.mp walked with ⟨inspected, ended, rfl⟩
    have empty : (inspectionFrom agentUri startAuditId).steps.length ≤ maxSteps :=
      Nat.zero_le maxSteps
    have bound := length_asksOf (fetchFrom servers issuerPublicKey) (lowerKeys knownAgents)
      depth empty
    refine ⟨bound, ?_, ?_⟩
    · intro steps returned
      cases inspected with
      | error failure => cases returned
      | ok final =>
          cases returned
          have linked := wellLinked_of_walk (answersAsk_fetchFrom servers issuerPublicKey) ended
          have kept : ∀ inspection later : Inspection, inspection.steps.length ≤ maxSteps →
              inspectNext (fetchFrom servers issuerPublicKey) (lowerKeys knownAgents) maxSteps
                inspection = .ok (some later) → later.steps.length ≤ maxSteps :=
            fun _ _ within went => (passes_of_inspectNext went).length_le within
          exact ⟨(Loop.kept_of_run kept empty ended).1, linked⟩
    · have authentic := authentic_of_run ended
      rw [and_iff_right (fun _ member => nomatch member)] at authentic
      simp only [answeredBy_iff] at authentic
      rw [← authentic]
      constructor
      · intro ⟨steps, returned, held⟩
        cases inspected with
        | error failure => cases returned
        | ok final =>
            cases returned
            exact ⟨final, rfl, held⟩
      · intro ⟨final, returned, held⟩
        rw [returned]
        exact ⟨final.steps, rfl, held⟩

end

/-! ## A spliced record -/

namespace InspectionSamples

open Audit.ChainSample
open scoped Plain

def splicedBody : String :=
  "\x7b\"jws\":\"" ++ compact "r1" ++ "\"\x7d"

/-- The JSON text of the records, and of the body. -/
local instance bodies : JsonCodec where
  canonical := instJsonCodec.canonical
  loads bytes :=
    if bytes = asciiBytes splicedBody then
      .ok (.object [("jws", .string (compact "r1"))])
    else instJsonCodec.loads bytes

/-- A key that verifies no signature. -/
local instance : SignatureScheme Unit := ⟨fun _ _ _ => false⟩

theorem splicedBody_starts : (asciiBytes splicedBody).take 3 = asciiBytes "\x7b\"j" := by
  rw [splicedBody, asciiBytes_append, asciiBytes_append, List.append_assoc,
    List.take_append_of_le_length (by decide)]
  decide

theorem parse_spliced : ∃ signature signingInput,
    parseAttributionRecord (compact "r1") =
      .ok ⟨.object (recordHeader none), .object (response "r1").payload, signature,
        signingInput⟩ := by
  have header : bodies.loads (bodies.canonical (.object (recordHeader none))) =
      .ok (.object (recordHeader none)) := by
    have different : asciiBytes headerText ≠ asciiBytes splicedBody := by
      intro same
      have starts := splicedBody_starts
      rw [← same] at starts
      exact absurd starts (by decide)
    exact (if_neg different).trans loads_header
  have payload : bodies.loads (bodies.canonical (.object (response "r1").payload)) =
      .ok (.object (response "r1").payload) := by
    have different : asciiBytes (payloadText "r1") ≠ asciiBytes splicedBody := by
      intro same
      have starts := splicedBody_starts
      rw [← same, payloadText, payloadStart, asciiBytes_append, asciiBytes_append,
        asciiBytes_append, asciiBytes_append, List.append_assoc, List.append_assoc,
        List.append_assoc,
        List.take_append_of_le_length (by decide)] at starts
      exact absurd starts (by decide)
    have read := loads_payload (.inl (rfl : "r1" = "r1"))
    have canonical : bodies.canonical (.object (response "r1").payload) =
        asciiBytes (payloadText "r1") := rfl
    rw [canonical]
    exact (if_neg different).trans read
  rcases parse_compact header payload [] with ⟨⟨_, _, signature, signingInput⟩, parses, rfl,
    rfl, _⟩
  exact ⟨signature, signingInput, parses⟩

theorem recordKey_second : recordKey secondId = secondId := by
  have safe := safeAuditId_of_isAuditId secondId_wellFormed
  rw [safeAuditId] at safe
  split at safe
  · exact Option.some.inj safe
  · cases safe

/-- A server splices in a record of its choice: the walk for one audit id returns the
record of another, without an error. -/
theorem spliced_record_returned : ∃ step,
    walkRecords 2 (fetchFrom
      (fun _ _ _ => .ok ⟨true, some 200, none, asciiBytes splicedBody⟩) (none : Option Unit))
      [] 1 "agtp://a" secondId = some (.ok [step]) ∧
    step.auditId = secondId ∧ step.fetchError = none ∧ auditIdFor step.jws ≠ secondId := by
  rcases parse_spliced with ⟨signature, signingInput, parsed⟩
  have loaded : JsonCodec.loads (asciiBytes splicedBody) =
      .ok (.object [("jws", .string (compact "r1"))]) := if_pos rfl
  have wrong : auditIdFor (compact "r1") ≠ secondId := by
    rw [auditIdFor_first]
    exact firstId_ne_secondId
  let servers : Servers := fun _ _ _ => .ok ⟨true, some 200, none, asciiBytes splicedBody⟩
  have fetched : ∃ step, fetchFrom servers (none : Option Unit) "agtp://a" secondId 0 =
      .ok step ∧ step.auditId = secondId ∧ step.fetchError = none ∧
        step.jws = compact "r1" := by
    have named : compact "r1" ≠ "" := by decide +kernel
    rw [fetchFrom_record loaded named]
    exact stepOfJws_unkeyed parsed "agtp://a" secondId 0
  rcases fetched with ⟨step, answered, auditId, found, jws⟩
  refine ⟨step, ?_, auditId, found, ?_⟩
  · have first : inspectNext (fetchFrom servers (none : Option Unit)) (lowerKeys []) 1
        (inspectionFrom "agtp://a" secondId) =
        .ok (some ((inspectionFrom "agtp://a" secondId).add [] step
          (step.enqueued (lowerKeys []) "agtp://a"))) := by
      simp only [inspectNext, inspectionFrom, recordKey_second, List.length_nil, Dict.empty,
        Dict.get?, answered, ChainStep.addParent]
      rfl
    have second : inspectNext (fetchFrom servers (none : Option Unit)) (lowerKeys []) 1
        ((inspectionFrom "agtp://a" secondId).add [] step
          (step.enqueued (lowerKeys []) "agtp://a")) = .ok none :=
      inspectNext_full (Nat.le_refl 1)
    rw [walkRecords, Loop.run_next first, Loop.run_leave second]
    rfl
  · rw [jws]
    exact wrong

end InspectionSamples

end Agtp.Tools
