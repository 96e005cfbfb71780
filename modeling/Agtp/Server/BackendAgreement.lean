import Agtp.Server.RcnsCalls

/-! # The two backends of the negotiation gate

Requests that come one after the other, decided with the memory backend and with the SQLite
backend. -/

namespace Agtp

/-! ## Sequential requests -/

/-- A request, with what the clock shows at its check, at its lookup, at its recording and
when its key is bound. -/
structure RcnsRequest where
  agentId : String
  key : String
  fate : Fate
  checkedAt : ℚ
  lookedUpAt : ℚ
  recordedAt : ℚ
  boundAt : ℚ
  checked_le : checkedAt ≤ lookedUpAt
  lookedUp_le : lookedUpAt ≤ recordedAt
  recorded_le : recordedAt ≤ boundAt

structure RcnsDecision where
  limited : Bool
  reused : Option String
  charged : Bool
deriving DecidableEq

namespace RcnsDecision

/-- The same requests are limited and reuse the same contract, and those that do are
charged in both or in neither. -/
def Agrees (first second : RcnsDecision) : Prop :=
  first.limited = second.limited ∧ first.reused = second.reused ∧
    (first.reused.isSome = true → first.charged = second.charged)

instance (first second : RcnsDecision) : Decidable (first.Agrees second) :=
  inferInstanceAs (Decidable (_ ∧ _ ∧ (_ → _)))

end RcnsDecision

section Serving

variable [Tokens]

/-- `try_rcns` behind the locks, from the limit check to the recording of the key. -/
def RcnsDesk.serve (config : RcnsConfig) (desk : RcnsDesk) (request : RcnsRequest) :
    RcnsDecision × RcnsDesk :=
  let checked := desk.store.limited request.agentId config.maxNegotiationsPerMinute
    request.checkedAt
  let reserved := desk.store.chargesEarly && config.maxNegotiationsPerMinute ≠ 0
  if checked.1 then (⟨true, none, false⟩, { desk with store := checked.2 })
  else
    let found := checked.2.lookup request.agentId request.key
      config.idempotencyWindowSeconds request.lookedUpAt
    if request.fate = .unavailable then
      (⟨false, none, reserved⟩, { desk with store := found.2 })
    else
      match found.1.filter desk.active.contains with
      | some synthesisId => (⟨false, some synthesisId, reserved⟩, { desk with store := found.2 })
      | none =>
          let recorded := found.2.record request.agentId request.recordedAt
          let charged := reserved || !desk.store.chargesEarly
          if request.fate = .composed then
            let synthesisId := Tokens.synthesisId desk.drawn
            (⟨false, none, charged⟩,
              { store := recorded.bind request.agentId request.key synthesisId
                  config.idempotencyWindowSeconds request.boundAt
                active := synthesisId :: desk.active
                drawn := desk.drawn + 1 })
          else (⟨false, none, charged⟩, { desk with store := recorded })

/-- A request, or the end of a contract for another reason. -/
inductive Occasion where
  | request (request : RcnsRequest)
  | retire (synthesisId : String)

def Occasion.request? : Occasion → Option RcnsRequest
  | .request asked => some asked
  | .retire _ => none

def RcnsDesk.retire (desk : RcnsDesk) (synthesisId : String) : RcnsDesk :=
  { desk with active := desk.active.filter (· ≠ synthesisId) }

def RcnsDesk.decisions (config : RcnsConfig) : RcnsDesk → List Occasion → List RcnsDecision
  | _, [] => []
  | desk, .retire synthesisId :: rest => (desk.retire synthesisId).decisions config rest
  | desk, .request request :: rest =>
      (desk.serve config request).1 :: (desk.serve config request).2.decisions config rest

/-! ## The two backends side by side -/

def requests (history : List Occasion) : List RcnsRequest :=
  history.filterMap Occasion.request?

def Ordered (history : List Occasion) : Prop :=
  (requests history).Pairwise fun earlier later => earlier.boundAt ≤ later.checkedAt

instance (history : List Occasion) : Decidable (Ordered history) :=
  inferInstanceAs (Decidable (List.Pairwise _ _))

/-- The minute before the later request holds both the check and the recording of the
earlier one, or neither. -/
def SameMinute (earlier later : RcnsRequest) : Prop :=
  earlier.agentId = later.agentId → later.checkedAt - 60 ≤ earlier.recordedAt →
    later.checkedAt - 60 ≤ earlier.checkedAt

instance (earlier later : RcnsRequest) : Decidable (SameMinute earlier later) :=
  inferInstanceAs (Decidable (_ → _ → _))

/-- Under a limit, a request that is let in attempts a synthesis: the server can compose,
and the key is not bound to an active contract. -/
def RcnsDesk.Attempts (config : RcnsConfig) (desk : RcnsDesk) (request : RcnsRequest) :
    Prop :=
  config.maxNegotiationsPerMinute ≠ 0 →
    (desk.store.limited request.agentId config.maxNegotiationsPerMinute
      request.checkedAt).1 = false →
    request.fate ≠ .unavailable ∧ ∀ synthesisId,
      desk.store.live request.agentId request.key config.idempotencyWindowSeconds
        request.lookedUpAt = some synthesisId → synthesisId ∉ desk.active

def RcnsDesk.AllAttempt (config : RcnsConfig) : RcnsDesk → List Occasion → Prop
  | _, [] => True
  | desk, .retire synthesisId :: rest => (desk.retire synthesisId).AllAttempt config rest
  | desk, .request request :: rest =>
      desk.Attempts config request ∧ (desk.serve config request).2.AllAttempt config rest

def chargedSince (stamp : RcnsRequest → ℚ) (agentId : String) (start : ℚ)
    (request : RcnsRequest) : Bool :=
  request.agentId = agentId && start ≤ stamp request

/-- The same negotiations are counted, each with its own stamp, and the same contracts are
known from `time` on. -/
structure Alike (config : RcnsConfig) (attempted : List RcnsRequest) (time : ℚ)
    (memory file : RcnsDesk) : Prop where
  late : memory.store.chargesEarly = false
  early : file.store.chargesEarly = true
  active : memory.active = file.active
  drawn : memory.drawn = file.drawn
  live : ∀ agentId key, ∀ later, time ≤ later →
    memory.store.live agentId key config.idempotencyWindowSeconds later =
      file.store.live agentId key config.idempotencyWindowSeconds later
  recorded : config.maxNegotiationsPerMinute ≠ 0 → ∀ agentId start, time - 60 ≤ start →
    memory.store.charged agentId start =
      attempted.countP (chargedSince RcnsRequest.recordedAt agentId start)
  checked : config.maxNegotiationsPerMinute ≠ 0 → ∀ agentId start, time - 60 ≤ start →
    file.store.charged agentId start =
      attempted.countP (chargedSince RcnsRequest.checkedAt agentId start)

variable {config : RcnsConfig} {attempted : List RcnsRequest} {time : ℚ}
  {memory file : RcnsDesk} {request : RcnsRequest}

/-- What is found under the key of a request that is let in, and what is left of the
store. -/
def RcnsDesk.look (config : RcnsConfig) (desk : RcnsDesk) (request : RcnsRequest) :
    Option String × RcnsStore :=
  (desk.store.limited request.agentId config.maxNegotiationsPerMinute
    request.checkedAt).2.lookup request.agentId request.key config.idempotencyWindowSeconds
      request.lookedUpAt

section Look

variable (config : RcnsConfig) (desk : RcnsDesk) (request : RcnsRequest)

omit [Tokens] in
theorem look_fst : (desk.look config request).1 =
    desk.store.live request.agentId request.key config.idempotencyWindowSeconds
      request.lookedUpAt :=
  (RcnsStore.lookup_fst _ _ _ _ _).trans (RcnsStore.live_limited _ _ _ _ _ _ _ _)

omit [Tokens] in
theorem look_early : (desk.look config request).2.chargesEarly = desk.store.chargesEarly :=
  (RcnsStore.chargesEarly_lookup _ _ _ _ _).trans (RcnsStore.chargesEarly_limited _ _ _ _)

omit [Tokens] in
theorem look_live {later : ℚ} (order : request.lookedUpAt ≤ later) (agentId key : String) :
    (desk.look config request).2.live agentId key config.idempotencyWindowSeconds later =
      desk.store.live agentId key config.idempotencyWindowSeconds later :=
  (RcnsStore.live_lookup _ _ _ _ order _ _ _).trans
    (RcnsStore.live_limited _ _ _ _ _ _ _ _)

omit [Tokens] in
theorem look_charged
    (admitted : (desk.store.limited request.agentId config.maxNegotiationsPerMinute
      request.checkedAt).1 = false)
    (agentId : String) {start : ℚ} (recent : request.checkedAt - 60 ≤ start) :
    (desk.look config request).2.charged agentId start =
      desk.store.charged agentId start +
        (desk.store.chargesEarly && config.maxNegotiationsPerMinute ≠ 0 &&
          chargedSince RcnsRequest.checkedAt agentId start request).toNat := by
  rw [RcnsDesk.look, RcnsStore.charged_lookup, RcnsStore.charged_limited _ _ _ _ _ recent,
    admitted, Bool.not_false, Bool.and_true]
  rfl

end Look

omit [Tokens] in
theorem Alike.limited (alike : Alike config attempted time memory file)
    (later : time ≤ request.checkedAt)
    (sameMinute : ∀ earlier ∈ attempted, SameMinute earlier request) :
    (memory.store.limited request.agentId config.maxNegotiationsPerMinute
        request.checkedAt).1 =
      (file.store.limited request.agentId config.maxNegotiationsPerMinute
        request.checkedAt).1 := by
  rw [RcnsStore.limited_fst, RcnsStore.limited_fst]
  by_cases unlimited : config.maxNegotiationsPerMinute = 0
  · simp [unlimited]
  · have recent := sub_le_sub_right later 60
    rw [alike.recorded unlimited _ _ recent, alike.checked unlimited _ _ recent]
    have same : attempted.countP (chargedSince RcnsRequest.recordedAt request.agentId
        (request.checkedAt - 60)) = attempted.countP (chargedSince RcnsRequest.checkedAt
          request.agentId (request.checkedAt - 60)) := by
      refine List.countP_congr fun earlier member => ?_
      simp only [chargedSince, Bool.and_eq_true, decide_eq_true_eq]
      constructor
      · exact fun counted => ⟨counted.1, sameMinute earlier member counted.1 counted.2⟩
      · exact fun counted => ⟨counted.1, counted.2.trans
          (earlier.checked_le.trans earlier.lookedUp_le)⟩
    rw [same]

omit [Tokens] in
theorem Alike.stopped (alike : Alike config attempted time memory file)
    (later : time ≤ request.checkedAt)
    (memoryLimited : (memory.store.limited request.agentId config.maxNegotiationsPerMinute
      request.checkedAt).1 = true)
    (fileLimited : (file.store.limited request.agentId config.maxNegotiationsPerMinute
      request.checkedAt).1 = true) :
    Alike config attempted request.boundAt
      { memory with
        store := (memory.store.limited request.agentId config.maxNegotiationsPerMinute
          request.checkedAt).2 }
      { file with
        store := (file.store.limited request.agentId config.maxNegotiationsPerMinute
          request.checkedAt).2 } := by
  have order := later.trans
    (request.checked_le.trans (request.lookedUp_le.trans request.recorded_le))
  have minute := sub_le_sub_right
    (request.checked_le.trans (request.lookedUp_le.trans request.recorded_le)) 60
  constructor
  · exact (RcnsStore.chargesEarly_limited _ _ _ _).trans alike.late
  · exact (RcnsStore.chargesEarly_limited _ _ _ _).trans alike.early
  · exact alike.active
  · exact alike.drawn
  · intro agentId key after bound
    rw [RcnsStore.live_limited, RcnsStore.live_limited]
    exact alike.live agentId key after (order.trans bound)
  · intro limited agentId start recent
    rw [RcnsStore.charged_limited _ _ _ _ _ (minute.trans recent), memoryLimited]
    simpa using alike.recorded limited agentId start
      ((sub_le_sub_right order 60).trans recent)
  · intro limited agentId start recent
    rw [RcnsStore.charged_limited _ _ _ _ _ (minute.trans recent), fileLimited]
    simpa using alike.checked limited agentId start
      ((sub_le_sub_right order 60).trans recent)

omit [Tokens] in
theorem Alike.looked (alike : Alike config attempted time memory file)
    (later : time ≤ request.checkedAt) (unlimited : config.maxNegotiationsPerMinute = 0) :
    Alike config attempted request.boundAt
      { memory with store := (memory.look config request).2 }
      { file with store := (file.look config request).2 } := by
  have order := later.trans
    (request.checked_le.trans (request.lookedUp_le.trans request.recorded_le))
  constructor
  · exact (look_early config memory request).trans alike.late
  · exact (look_early config file request).trans alike.early
  · exact alike.active
  · exact alike.drawn
  · intro agentId key after bound
    have seen := (request.lookedUp_le.trans request.recorded_le).trans bound
    rw [look_live config memory request seen, look_live config file request seen]
    exact alike.live agentId key after (order.trans bound)
  · exact fun limited => absurd unlimited limited
  · exact fun limited => absurd unlimited limited

omit [Tokens] in
theorem Alike.counted (alike : Alike config attempted time memory file)
    (later : time ≤ request.checkedAt)
    (memoryAdmitted : (memory.store.limited request.agentId config.maxNegotiationsPerMinute
      request.checkedAt).1 = false)
    (fileAdmitted : (file.store.limited request.agentId config.maxNegotiationsPerMinute
      request.checkedAt).1 = false) :
    Alike config (attempted ++ [request]) request.boundAt
      { memory with
        store := (memory.look config request).2.record request.agentId request.recordedAt }
      { file with
        store := (file.look config request).2.record request.agentId request.recordedAt } := by
  have seen := request.lookedUp_le.trans request.recorded_le
  have whole := request.checked_le.trans seen
  have order := later.trans whole
  constructor
  · exact (RcnsStore.chargesEarly_record _ _ _).trans
      ((look_early config memory request).trans alike.late)
  · exact (RcnsStore.chargesEarly_record _ _ _).trans
      ((look_early config file request).trans alike.early)
  · exact alike.active
  · exact alike.drawn
  · intro agentId key after bound
    rw [RcnsStore.live_record, RcnsStore.live_record,
      look_live config memory request (seen.trans bound),
      look_live config file request (seen.trans bound)]
    exact alike.live agentId key after (order.trans bound)
  · intro limited agentId start recent
    rw [RcnsStore.charged_record _ _ _ _ ((sub_le_sub_right request.recorded_le 60).trans
        recent), look_early, alike.late,
      look_charged config memory request memoryAdmitted _
        ((sub_le_sub_right whole 60).trans recent), alike.late,
      alike.recorded limited agentId start ((sub_le_sub_right order 60).trans recent),
      SlidingWindow.countP_concat]
    simp only [Bool.false_and, Bool.toNat_false, Nat.add_zero, Bool.not_false, Bool.true_and,
      chargedSince]
  · intro limited agentId start recent
    rw [RcnsStore.charged_record _ _ _ _ ((sub_le_sub_right request.recorded_le 60).trans
        recent), look_early, alike.early,
      look_charged config file request fileAdmitted _
        ((sub_le_sub_right whole 60).trans recent), alike.early,
      alike.checked limited agentId start ((sub_le_sub_right order 60).trans recent),
      SlidingWindow.countP_concat]
    simp only [limited, ne_eq, not_false_eq_true, decide_true, Bool.not_true, Bool.false_and,
      Bool.toNat_false, Nat.add_zero, Bool.true_and]

omit [Tokens] in
theorem Alike.bound {now : ℚ} (alike : Alike config attempted now memory file)
    (agentId key synthesisId : String) :
    Alike config attempted now
      { store := memory.store.bind agentId key synthesisId config.idempotencyWindowSeconds now
        active := synthesisId :: memory.active
        drawn := memory.drawn + 1 }
      { store := file.store.bind agentId key synthesisId config.idempotencyWindowSeconds now
        active := synthesisId :: file.active
        drawn := file.drawn + 1 } := by
  constructor
  · exact (RcnsStore.chargesEarly_bind _ _ _ _ _ _).trans alike.late
  · exact (RcnsStore.chargesEarly_bind _ _ _ _ _ _).trans alike.early
  · exact congrArg (synthesisId :: ·) alike.active
  · exact congrArg (· + 1) alike.drawn
  · intro other otherKey after order
    by_cases own : (other, otherKey) = (agentId, key)
    · obtain ⟨rfl, rfl⟩ := Prod.mk.inj own
      by_cases unkeyed : otherKey = ""
      · simp [RcnsStore.live, unkeyed]
      · rw [RcnsStore.live_bind_same _ _ _ unkeyed _ _ order,
          RcnsStore.live_bind_same _ _ _ unkeyed _ _ order]
    · rw [RcnsStore.live_bind_other _ _ _ _ _ _ own, RcnsStore.live_bind_other _ _ _ _ _ _ own]
      exact alike.live other otherKey after order
  · intro limited other start recent
    rw [RcnsStore.charged_bind]
    exact alike.recorded limited other start recent
  · intro limited other start recent
    rw [RcnsStore.charged_bind]
    exact alike.checked limited other start recent

omit [Tokens] in
theorem Alike.retire (alike : Alike config attempted time memory file) (synthesisId : String) :
    Alike config attempted time (memory.retire synthesisId) (file.retire synthesisId) where
  late := alike.late
  early := alike.early
  active := congrArg (List.filter (· ≠ synthesisId)) alike.active
  drawn := alike.drawn
  live := alike.live
  recorded := alike.recorded
  checked := alike.checked

theorem Alike.serve (alike : Alike config attempted time memory file)
    (later : time ≤ request.checkedAt)
    (sameMinute : ∀ earlier ∈ attempted, SameMinute earlier request)
    (attempts : memory.Attempts config request) :
    (memory.serve config request).1.Agrees (file.serve config request).1 ∧
      ∃ more, more ⊆ [request] ∧
        Alike config (attempted ++ more) request.boundAt (memory.serve config request).2
          (file.serve config request).2 := by
  obtain ⟨memoryStore, active, drawn⟩ := memory
  obtain ⟨fileStore, fileActive, fileDrawn⟩ := file
  obtain rfl : active = fileActive := alike.active
  obtain rfl : drawn = fileDrawn := alike.drawn
  have same := alike.limited later sameMinute
  have looked : (RcnsDesk.look config ⟨memoryStore, active, drawn⟩ request).1 =
      (RcnsDesk.look config ⟨fileStore, active, drawn⟩ request).1 := by
    rw [look_fst, look_fst]
    exact alike.live _ _ _ (later.trans request.checked_le)
  simp only [RcnsDesk.look] at looked
  cases limited : (memoryStore.limited request.agentId config.maxNegotiationsPerMinute
      request.checkedAt).1 with
  | true =>
      dsimp only at same
      rw [limited] at same
      simp only [RcnsDesk.serve, limited, ← same, if_true]
      refine ⟨⟨rfl, rfl, nofun⟩, [], List.nil_subset _, ?_⟩
      rw [List.append_nil]
      exact alike.stopped later limited same.symm
  | false =>
      dsimp only at same
      rw [limited] at same
      simp only [RcnsDesk.serve, limited, ← same, Bool.false_eq_true, if_false, ← looked]
      have counted := alike.counted later limited same.symm
      split
      · next unavailable =>
          have unlimited : config.maxNegotiationsPerMinute = 0 := by
            by_contra limit
            exact (attempts limit limited).1 unavailable
          refine ⟨⟨rfl, rfl, nofun⟩, [], List.nil_subset _, ?_⟩
          rw [List.append_nil]
          exact alike.looked later unlimited
      · split
        · next synthesisId reused =>
            have unlimited : config.maxNegotiationsPerMinute = 0 := by
              by_contra limit
              obtain ⟨found, listed⟩ := Option.filter_eq_some_iff.mp reused
              have live := (look_fst config ⟨memoryStore, active, drawn⟩ request).symm.trans
                found
              exact (attempts limit limited).2 synthesisId live (List.contains_iff_mem.mp listed)
            refine ⟨⟨rfl, rfl, fun _ => by simp [unlimited]⟩, [], List.nil_subset _, ?_⟩
            rw [List.append_nil]
            exact alike.looked later unlimited
        · split
          · exact ⟨⟨rfl, rfl, nofun⟩, [request], List.Subset.refl _,
              counted.bound request.agentId request.key (Tokens.synthesisId drawn)⟩
          · exact ⟨⟨rfl, rfl, nofun⟩, [request], List.Subset.refl _, counted⟩

theorem Alike.decisions {history : List Occasion}
    (alike : Alike config attempted time memory file)
    (later : ∀ request ∈ requests history, time ≤ request.checkedAt)
    (known : ∀ earlier ∈ attempted, ∀ request ∈ requests history, SameMinute earlier request)
    (ordered : Ordered history) (sameMinute : (requests history).Pairwise SameMinute)
    (attempts : memory.AllAttempt config history) :
    List.Forall₂ RcnsDecision.Agrees (memory.decisions config history)
      (file.decisions config history) := by
  induction history generalizing attempted time memory file with
  | nil => exact .nil
  | cons occasion rest induction =>
      cases occasion with
      | retire synthesisId =>
          exact induction (alike.retire synthesisId) later known ordered sameMinute attempts
      | request request =>
          obtain ⟨after, ordered⟩ := List.pairwise_cons.mp ordered
          obtain ⟨minutes, sameMinute⟩ := List.pairwise_cons.mp sameMinute
          obtain ⟨agrees, more, added, next⟩ := alike.serve
            (later request List.mem_cons_self)
            (fun earlier member => known earlier member request List.mem_cons_self) attempts.1
          refine .cons agrees (induction next after ?_ ordered sameMinute attempts.2)
          intro earlier member other listed
          rcases List.mem_append.mp member with held | new
          · exact known earlier held other (List.mem_cons_of_mem request listed)
          · rw [List.mem_singleton.mp (added new)]
            exact minutes other listed

omit [Tokens] in
theorem alike_initial (config : RcnsConfig) (time : ℚ) :
    Alike config [] time ⟨.initial false, [], 0⟩ ⟨.initial true, [], 0⟩ where
  late := rfl
  early := rfl
  active := rfl
  drawn := rfl
  live agentId key later _ := by rw [RcnsStore.live_initial, RcnsStore.live_initial]
  recorded _ agentId start _ := RcnsStore.charged_initial false agentId start
  checked _ agentId start _ := RcnsStore.charged_initial true agentId start

/-! ## The law -/

def decisionsOf (config : RcnsConfig) (durable : Bool) (history : List Occasion) :
    List RcnsDecision :=
  RcnsDesk.decisions config ⟨.initial durable, [], 0⟩ history

/-- The backends decide alike where, under a limit, every request that is let in attempts a
synthesis, and no minute begins between a check and its recording. -/
theorem backends_agree (config : RcnsConfig) (history : List Occasion)
    (ordered : Ordered history) (sameMinute : (requests history).Pairwise SameMinute)
    (attempts : RcnsDesk.AllAttempt config ⟨.initial false, [], 0⟩ history) :
    List.Forall₂ RcnsDecision.Agrees (decisionsOf config false history)
      (decisionsOf config true history) := by
  cases first : requests history with
  | nil =>
      exact (alike_initial config 0).decisions (by simp [first]) nofun ordered sameMinute
        attempts
  | cons request rest =>
      refine (alike_initial config request.checkedAt).decisions ?_ nofun ordered sameMinute
        attempts
      intro other member
      rw [Ordered, first] at ordered
      rw [first] at member
      rcases List.mem_cons.mp member with rfl | later
      · exact le_rfl
      · have after := (List.pairwise_cons.mp ordered).1 other later
        exact (request.checked_le.trans (request.lookedUp_le.trans request.recorded_le)).trans
          after

end Serving

namespace BackendSamples

open scoped PlainServing

def config : RcnsConfig where
  enabled := true
  minTrustTier := 3
  maxNegotiationsPerMinute := 2
  idempotencyWindowSeconds := 60
  requireVerifiedIdentity := false
  onPolicyChange := "grandfather"
  durable := false

def request (key : String) (time : ℚ) : Occasion :=
  .request ⟨"agent", key, .composed, time, time, time, time, le_rfl, le_rfl, le_rfl⟩

def repetition : List Occasion := [request "first" 0, request "first" 1, request "second" 2]

/-- The file charges the repetition, and limits what comes after it. -/
theorem backends_differ :
    Ordered repetition ∧
      ¬List.Forall₂ RcnsDecision.Agrees (decisionsOf config false repetition)
        (decisionsOf config true repetition) := by
  refine ⟨by decide +kernel, fun agree => ?_⟩
  have memory : decisionsOf config false repetition =
      [⟨false, none, true⟩, ⟨false, some "s", false⟩, ⟨false, none, true⟩] := by
    decide +kernel
  have file : decisionsOf config true repetition =
      [⟨false, none, true⟩, ⟨false, some "s", true⟩, ⟨true, none, false⟩] := by
    decide +kernel
  rw [memory, file] at agree
  obtain ⟨_, rest⟩ := List.forall₂_cons.mp agree
  exact absurd (List.forall₂_cons.mp rest).1 (by decide)

def unkeyed : List Occasion := [request "" 0, request "" 1, request "" 2]

theorem attempts_unkeyed (desk : RcnsDesk) (time : ℚ) :
    desk.Attempts config
      ⟨"agent", "", .composed, time, time, time, time, le_rfl, le_rfl, le_rfl⟩ := by
  refine fun _ _ => ⟨nofun, fun synthesisId live => ?_⟩
  rw [RcnsStore.live, if_pos (.inl rfl)] at live
  cases live

theorem unkeyed_agree :
    List.Forall₂ RcnsDecision.Agrees (decisionsOf config false unkeyed)
      (decisionsOf config true unkeyed) := by
  refine backends_agree config unkeyed (by decide +kernel) (by decide +kernel) ?_
  exact ⟨attempts_unkeyed _ 0, attempts_unkeyed _ 1, attempts_unkeyed _ 2, trivial⟩

end BackendSamples

end Agtp
