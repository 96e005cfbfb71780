import Agtp.Foundation.MemberOrder
import Agtp.Presence.Store
import Agtp.Presence.Visibility

/-! # What a signature covers

Two records with one signed payload, and when a coordinator treats them alike: the payload
leaves out the announcement time, the time to live and the owner domain. -/

namespace Agtp

namespace PresenceRecord

/-! ## What the payload determines -/

structure SameSigned (left right : PresenceRecord) : Prop where
  agentId : left.agentId = right.agentId
  visibility : left.visibility = right.visibility
  entry : Json.Same (.object left.resultEntry) (.object right.resultEntry)

theorem eq_of_same_toDict {left right : Visibility}
    (same : Json.Same (.object left.toDict) (.object right.toDict)) : left = right := by
  have presence : Option.Rel Json.Same (some (.string left.presenceMode))
      (some (.string right.presenceMode)) := same.member "presence_mode"
  have disclosure : Option.Rel Json.Same (some (.string left.disclosureMode))
      (some (.string right.disclosureMode)) := same.member "disclosure_mode"
  have audience : Option.Rel Json.Same (some (.string left.audienceScope))
      (some (.string right.audienceScope)) := same.member "audience_scope"
  cases presence with
  | some presence =>
      cases disclosure with
      | some disclosure =>
          cases audience with
          | some audience =>
              cases left
              cases right
              rw [Visibility.mk.injEq]
              exact ⟨presence.string, disclosure.string, audience.string⟩

theorem sameSigned_of_signedForm {left right : PresenceRecord}
    (same : Json.Same (.object left.signedForm) (.object right.signedForm)) :
    left.SameSigned right := by
  have agentId : Option.Rel Json.Same (some (.string left.agentId))
      (some (.string right.agentId)) := same.member "agent_id"
  have entry : Option.Rel Json.Same (some (.object left.resultEntry))
      (some (.object right.resultEntry)) := same.member "result_entry"
  have visibility : Option.Rel Json.Same (some (.object left.visibility.toDict))
      (some (.object right.visibility.toDict)) := same.member "visibility"
  cases agentId with
  | some agentId =>
      cases entry with
      | some entry =>
          cases visibility with
          | some visibility =>
              exact ⟨agentId.string, eq_of_same_toDict visibility, entry⟩

variable {left right : PresenceRecord}

theorem SameSigned.getD (same : left.SameSigned right) (name : String) (default : Json) :
    Json.Same ((Json.member left.resultEntry name).getD default)
      ((Json.member right.resultEntry name).getD default) := by
  have members := same.entry.member name
  revert members
  generalize Json.member left.resultEntry name = first
  generalize Json.member right.resultEntry name = second
  intro members
  cases members with
  | none => exact .refl default
  | some equal => exact equal

theorem SameSigned.get (same : left.SameSigned right) (name : String) :
    Json.Same (Json.get left.resultEntry name) (Json.get right.resultEntry name) :=
  same.getD name .null

/-! ## Disclosure -/

theorem member_filter (keep : String → Bool) (members : List (String × Json))
    (name : String) :
    Json.member (members.filter fun entry => keep entry.1) name =
      if keep name then Json.member members name else none := by
  induction members with
  | nil => simp
  | cons entry rest induction =>
      rcases entry with ⟨key, value⟩
      rw [List.filter_cons, Json.member_cons]
      by_cases kept : keep key = true
      · rw [if_pos kept, Json.member_cons, induction]
        by_cases equal : key = name
        · rw [if_pos equal, if_pos equal, ← equal, if_pos kept]
        · rw [if_neg equal, if_neg equal]
      · rw [if_neg kept, induction]
        by_cases equal : key = name
        · rw [if_pos equal, ← equal, if_neg kept, if_neg kept]
        · rw [if_neg equal]

theorem SameSigned.shapeEntry (same : left.SameSigned right) :
    Json.Same (.object left.shapeEntry) (.object right.shapeEntry) := by
  unfold PresenceRecord.shapeEntry
  rw [same.visibility]
  split
  · exact same.entry
  · split
    · apply Json.Same.object
      intro name
      rw [member_filter (fun key => identityMembers.contains key),
        member_filter (fun key => identityMembers.contains key)]
      split
      · exact same.entry.member name
      · exact .none
    · apply Json.Same.object
      intro name
      rw [Json.member_cons, Json.member_cons]
      split
      · exact .some (same.get "agent_id")
      · exact .none

/-! ## Visibility -/

def domain? (record : PresenceRecord) : Option String :=
  match record.subjectOwnerDomain with
  | .string text => if text = "" then none else some text
  | _ => none

theorem inOwnerDomain_iff (record : PresenceRecord) (requester : RequesterContext) :
    inOwnerDomain record.subjectOwnerDomain requester = true ↔
      ∃ domain, record.domain? = some domain ∧ requester.ownerDomain = some domain := by
  unfold inOwnerDomain domain?
  cases record.subjectOwnerDomain with
  | string text => by_cases empty : text = "" <;> simp [empty]
  | _ => simp

theorem SameSigned.subjectTier (same : left.SameSigned right) :
    left.subjectTier = right.subjectTier := by
  unfold PresenceRecord.subjectTier
  have tier := same.get "trust_tier"
  revert tier
  generalize Json.get left.resultEntry "trust_tier" = first
  generalize Json.get right.resultEntry "trust_tier" = second
  intro tier
  cases tier <;> rfl

section Visible

variable [TextCase] [NumberText] [CallDepth]

theorem SameSigned.isVisible (same : left.SameSigned right)
    (mode : right.visibility.presenceMode ≠ "owner-domain") (requester : RequesterContext) :
    left.isVisible requester = right.isVisible requester := by
  unfold PresenceRecord.isVisible modeAllows
  simp only [same.visibility, same.subjectTier, if_neg mode]

theorem isVisible_ownerDomain {record : PresenceRecord}
    (mode : record.visibility.presenceMode = "owner-domain") (requester : RequesterContext) :
    record.isVisible requester =
      if inOwnerDomain record.subjectOwnerDomain requester then
        Audience.allows record.visibility.audienceScope requester
      else .ok false := by
  unfold PresenceRecord.isVisible modeAllows
  simp [mode]

def Closed (left right : PresenceRecord) : Prop :=
  ∀ requester domain, requester.ownerDomain = some domain →
    left.domain? = some domain ∨ right.domain? = some domain →
      Audience.allows right.visibility.audienceScope requester = .ok false

/-- The records are visible to the same requesters exactly if the owner domain does not
matter, is the same, or lets nobody in. -/
theorem SameSigned.isVisible_iff (same : left.SameSigned right) :
    (∀ requester, left.isVisible requester = right.isVisible requester) ↔
      (right.visibility.presenceMode = "owner-domain" →
        left.domain? = right.domain? ∨ Closed left right) := by
  by_cases mode : right.visibility.presenceMode = "owner-domain"
  · have leftMode : left.visibility.presenceMode = "owner-domain" :=
      same.visibility ▸ mode
    have leftVisible := isVisible_ownerDomain leftMode
    have rightVisible := isVisible_ownerDomain mode
    rw [same.visibility] at leftVisible
    constructor
    · intro alike _
      by_cases equal : left.domain? = right.domain?
      · exact .inl equal
      · right
        intro requester domain asks held
        have answer := alike requester
        rw [leftVisible, rightVisible] at answer
        rcases held with own | own
        · have leftIn : inOwnerDomain left.subjectOwnerDomain requester = true :=
            (inOwnerDomain_iff left requester).mpr ⟨domain, own, asks⟩
          have rightOut : ¬inOwnerDomain right.subjectOwnerDomain requester = true := by
            intro rightIn
            rcases (inOwnerDomain_iff right requester).mp rightIn with ⟨other, held, asked⟩
            rw [asks] at asked
            cases asked
            exact equal (own.trans held.symm)
          rw [if_pos leftIn, if_neg rightOut] at answer
          exact answer
        · have rightIn : inOwnerDomain right.subjectOwnerDomain requester = true :=
            (inOwnerDomain_iff right requester).mpr ⟨domain, own, asks⟩
          have leftOut : ¬inOwnerDomain left.subjectOwnerDomain requester = true := by
            intro leftIn
            rcases (inOwnerDomain_iff left requester).mp leftIn with ⟨other, held, asked⟩
            rw [asks] at asked
            cases asked
            exact equal (held.trans own.symm)
          rw [if_neg leftOut, if_pos rightIn] at answer
          exact answer.symm
    · intro condition requester
      rw [leftVisible, rightVisible]
      rcases condition mode with equal | closed
      · have both : inOwnerDomain left.subjectOwnerDomain requester =
            inOwnerDomain right.subjectOwnerDomain requester := by
          rw [Bool.eq_iff_iff, inOwnerDomain_iff, inOwnerDomain_iff, equal]
        rw [both]
      · have shut (record : PresenceRecord) (own : ∀ domain, record.domain? = some domain →
            left.domain? = some domain ∨ right.domain? = some domain) :
            (if inOwnerDomain record.subjectOwnerDomain requester then
              Audience.allows right.visibility.audienceScope requester
            else .ok false) = .ok false := by
          split
          · next inside =>
              rcases (inOwnerDomain_iff record requester).mp inside with ⟨domain, held, asks⟩
              exact closed requester domain asks (own domain held)
          · rfl
        rw [shut left fun _ => .inl, shut right fun _ => .inr]
  · exact ⟨fun _ asked => absurd asked mode, fun _ => same.isVisible mode⟩

end Visible

/-! ## Expiry -/

section Expiry

variable [Floats]

def deadline (record : PresenceRecord) : Except Raised (Option Double) :=
  record.expiresAt.map fun expiry =>
    expiry.filter fun time => time ≠ .nan ∧ time ≠ .infinity

def expiresBy (expiry : Option Double) (now : ℚ) : Bool :=
  match expiry with
  | some time => time.le (.finite now)
  | none => false

theorem isExpired_eq (record : PresenceRecord) (now : ℚ) :
    record.isExpired now = record.deadline.map (expiresBy · now) := by
  unfold isExpired deadline
  cases record.expiresAt with
  | error raised => rfl
  | ok expiry =>
      cases expiry with
      | none => rfl
      | some time => cases time <;> rfl

omit [Floats] in
theorem eq_of_le_finite {first second : Double} (firstTime : first ≠ .nan ∧ first ≠ .infinity)
    (secondTime : second ≠ .nan ∧ second ≠ .infinity)
    (same : ∀ now, first.le (.finite now) = second.le (.finite now)) : first = second := by
  cases first with
  | nan => exact absurd rfl firstTime.1
  | infinity => exact absurd rfl firstTime.2
  | negativeInfinity =>
      cases second with
      | nan => exact absurd rfl secondTime.1
      | infinity => exact absurd rfl secondTime.2
      | negativeInfinity => rfl
      | finite time =>
          have before := same (time - 1)
          simp only [Double.le, true_eq_decide_iff] at before
          exact absurd before (not_le_of_gt (sub_one_lt time))
  | finite time =>
      cases second with
      | nan => exact absurd rfl secondTime.1
      | infinity => exact absurd rfl secondTime.2
      | negativeInfinity =>
          have before := same (time - 1)
          simp only [Double.le, decide_eq_true_eq] at before
          exact absurd before (not_le_of_gt (sub_one_lt time))
      | finite other =>
          have atFirst := same time
          have atSecond := same other
          simp only [Double.le, decide_eq_decide, le_refl, true_iff, iff_true]
            at atFirst atSecond
          rw [le_antisymm atSecond atFirst]

omit [Floats] in
theorem exists_expiresBy {time : Double} (isTime : time ≠ .nan ∧ time ≠ .infinity) :
    ∃ now, expiresBy (some time) now = true := by
  cases time with
  | nan => exact absurd rfl isTime.1
  | infinity => exact absurd rfl isTime.2
  | negativeInfinity => exact ⟨0, rfl⟩
  | finite time => exact ⟨time, decide_eq_true le_rfl⟩

omit [Floats] in
theorem eq_of_expiresBy {first second : Option Double}
    (firstTimes : ∀ time, first = some time → time ≠ .nan ∧ time ≠ .infinity)
    (secondTimes : ∀ time, second = some time → time ≠ .nan ∧ time ≠ .infinity)
    (same : ∀ now, expiresBy first now = expiresBy second now) : first = second := by
  cases first with
  | none =>
      cases second with
      | none => rfl
      | some time =>
          rcases exists_expiresBy (secondTimes time rfl) with ⟨now, expires⟩
          exact nomatch (same now).trans expires
  | some time =>
      cases second with
      | none =>
          rcases exists_expiresBy (firstTimes time rfl) with ⟨now, expires⟩
          exact nomatch (same now).symm.trans expires
      | some other =>
          rw [eq_of_le_finite (firstTimes time rfl) (secondTimes other rfl) same]

theorem deadline_time {record : PresenceRecord} {time : Double}
    (expires : record.deadline = .ok (some time)) : time ≠ .nan ∧ time ≠ .infinity := by
  unfold deadline at expires
  cases expiry : record.expiresAt with
  | error raised =>
      rw [expiry] at expires
      cases expires
  | ok expiry' =>
      rw [expiry] at expires
      exact of_decide_eq_true (Option.filter_eq_some_iff.mp (Except.ok.inj expires)).2

theorem deadline_error {record : PresenceRecord} {raised : Raised}
    (raises : record.deadline = .error raised) : raised = .overflowError := by
  unfold deadline expiresAt at raises
  repeat' split at raises
  all_goals cases raises
  rfl

theorem isExpired_iff : (∀ now, left.isExpired now = right.isExpired now) ↔
    left.deadline = right.deadline := by
  simp only [isExpired_eq]
  constructor
  · intro alike
    cases first : left.deadline with
    | error raised =>
        cases second : right.deadline with
        | error other => rw [deadline_error first, deadline_error second]
        | ok expiry =>
            rw [first, second] at alike
            exact nomatch alike 0
    | ok expiry =>
        cases second : right.deadline with
        | error raised =>
            rw [first, second] at alike
            exact nomatch alike 0
        | ok other =>
            rw [first, second] at alike
            have times : ∀ now, expiresBy expiry now = expiresBy other now :=
              fun now => Except.ok.inj (alike now)
            rw [eq_of_expiresBy (fun time equal => deadline_time (equal ▸ first))
              (fun time equal => deadline_time (equal ▸ second)) times]
  · intro same now
    rw [same]

end Expiry

/-! ## Merging -/

theorem hashable_of_same {first second : Json} (same : Json.Same first second) :
    first.hashable = second.hashable :=
  same.congr Json.hashable (fun _ _ => rfl) fun _ _ => rfl

theorem SameSigned.indexing (same : left.SameSigned right) :
    left.indexing = right.indexing := by
  have all {first second : List Json} (items : List.Forall₂ Json.Same first second) :
      first.all Json.hashable = second.all Json.hashable := by
    induction items with
    | nil => rfl
    | cons head _ induction =>
        rw [List.all_cons, List.all_cons, hashable_of_same head, induction]
  have keys (members : List (String × Json)) :
      (members.map fun entry => Json.string entry.1).all Json.hashable = true := by
    rw [List.all_eq_true]
    intro item listed
    rcases List.mem_map.mp listed with ⟨entry, _, rfl⟩
    rfl
  unfold PresenceRecord.indexing capabilities
  have listed := same.getD "capabilities" (.array [])
  revert listed
  generalize (Json.member left.resultEntry "capabilities").getD (.array []) = first
  generalize (Json.member right.resultEntry "capabilities").getD (.array []) = second
  intro listed
  cases listed with
  | refl => rfl
  | array items => simp only [Json.iterate, all items]
  | object members => simp only [Json.iterate, keys]

section Merging

variable [Floats]

def MergeAlike (left right : PresenceRecord) : Prop :=
  ∀ store : PresenceStore, (store.mergeRecord left).1 = (store.mergeRecord right).1

theorem mergeRecord_held {store : PresenceStore} {record existing : PresenceRecord}
    (held : store.records.get? record.agentId = some existing) :
    (store.mergeRecord record).1 =
      if record.epoch.le existing.epoch then .ok false
      else record.indexing.map fun _ => true := by
  unfold PresenceStore.mergeRecord
  rw [held]
  dsimp only
  split <;> rfl

theorem le_of_mergeAlike (alike : MergeAlike left right)
    (agentId : left.agentId = right.agentId) {existing : PresenceRecord}
    (own : existing.agentId = left.agentId) :
    left.epoch.le existing.epoch = right.epoch.le existing.epoch := by
  have outcome := alike (PresenceStore.empty.put existing)
  have heldLeft : (PresenceStore.empty.put existing).records.get? left.agentId =
      some existing := own ▸ PresenceStore.get?_put_same _ existing
  have heldRight : (PresenceStore.empty.put existing).records.get? right.agentId =
      some existing := agentId ▸ heldLeft
  rw [mergeRecord_held heldLeft, mergeRecord_held heldRight] at outcome
  have apart {outcome : Except Raised Unit} :
      (.ok false : Except Raised Bool) ≠ outcome.map fun _ => true := by
    cases outcome <;> simp [Except.map]
  by_cases first : left.epoch.le existing.epoch = true
  · by_cases second : right.epoch.le existing.epoch = true
    · rw [first, second]
    · rw [if_pos first, if_neg second] at outcome
      exact absurd outcome apart
  · by_cases second : right.epoch.le existing.epoch = true
    · rw [if_neg first, if_pos second] at outcome
      exact absurd outcome.symm apart
    · rw [Bool.eq_false_iff.mpr first, Bool.eq_false_iff.mpr second]

theorem SameSigned.mergeAlike_iff (same : left.SameSigned right) :
    MergeAlike left right ↔ left.epoch = right.epoch := by
  constructor
  · intro alike
    have atLeft := le_of_mergeAlike alike same.agentId rfl
    have atRight := le_of_mergeAlike alike same.agentId same.agentId.symm
    by_cases number : left.epoch = .nan
    · have rightNan : ¬right.epoch ≠ .nan := by
        intro rightNumber
        rw [Double.le_refl rightNumber, number] at atRight
        cases right.epoch <;> cases atRight
      rw [number, not_not.mp rightNan]
    · rw [Double.le_refl number] at atLeft
      have rightNumber := (Double.number_of_le atLeft.symm).1
      rw [Double.le_refl rightNumber] at atRight
      exact Double.le_antisymm atRight atLeft.symm
  · intro epoch store
    unfold PresenceStore.mergeRecord
    rw [same.agentId, same.indexing, epoch]
    split
    · split <;> rfl
    · rfl

end Merging

/-! ## Treating records alike -/

section Alike

variable [Floats] [TextCase] [NumberText] [CallDepth]

/-- The coordinator treats the records alike: for every requester, at every time, and
whatever it holds. -/
structure Alike (left right : PresenceRecord) : Prop where
  visible : ∀ requester, left.isVisible requester = right.isVisible requester
  shown : Json.Same (.object left.shapeEntry) (.object right.shapeEntry)
  expired : ∀ now, left.isExpired now = right.isExpired now
  merged : MergeAlike left right

/-- Records with one payload are treated alike exactly if the fields that the payload
leaves out make no difference. -/
theorem alike_iff [JsonCodec]
    (faithful : JsonCodec.canonical (.object left.signedForm) =
        JsonCodec.canonical (.object right.signedForm) →
      Json.Same (.object left.signedForm) (.object right.signedForm))
    (payload : left.signingPayload = right.signingPayload) :
    Alike left right ↔
      left.epoch = right.epoch ∧ left.deadline = right.deadline ∧
        (right.visibility.presenceMode = "owner-domain" →
          left.domain? = right.domain? ∨ Closed left right) := by
  have same := sameSigned_of_signedForm (faithful payload)
  constructor
  · intro alike
    exact ⟨same.mergeAlike_iff.mp alike.merged, isExpired_iff.mp alike.expired,
      same.isVisible_iff.mp alike.visible⟩
  · rintro ⟨epoch, deadline, domains⟩
    exact ⟨same.isVisible_iff.mpr domains, same.shapeEntry,
      isExpired_iff.mpr deadline, same.mergeAlike_iff.mpr epoch⟩

end Alike

end PresenceRecord

namespace CoverageSamples

open scoped Plain PlainServing

scoped instance : CallDepth := ⟨100⟩

scoped instance : JsonCodec where
  canonical := fun _ => [123, 125]
  loads := fun _ => .error .valueError

scoped instance : SignatureScheme Bytes where
  verifies := fun _ signature _ => signature = List.replicate 64 0

def signature : Json :=
  .object [("alg", .string "EdDSA"),
    ("public_key", .string (String.ofList (List.replicate 43 'A'))),
    ("value", .string (String.ofList (List.replicate 86 'A')))]

def scout : PresenceRecord where
  agentId := "scout"
  resultEntry := [("agent_id", .string "scout")]
  scopes := []
  visibility := ⟨"owner-domain", "capabilities", ""⟩
  announcedAt := "t"
  announcedAtEpoch := "90.0"
  ttlSeconds := 60
  ownerDomain := .string "acme.example"
  attachment := none
  signature := signature

def edited : PresenceRecord :=
  { scout with
    announcedAtEpoch := "900.0"
    ttlSeconds := 0
    ownerDomain := .string "other.example" }

def published : PresenceRecord :=
  { scout with visibility := .standard }

def moved : PresenceRecord :=
  { published with ownerDomain := .string "other.example" }

theorem moved_record_alike : moved.Alike published := by
  have payload : moved.signingPayload = published.signingPayload := rfl
  have mode : published.visibility.presenceMode ≠ "owner-domain" := by decide
  have form : Json.Same (.object moved.signedForm) (.object published.signedForm) :=
    .refl (.object published.signedForm)
  exact (PresenceRecord.alike_iff (fun _ => form) payload).mpr
    ⟨rfl, rfl, fun asked => absurd asked mode⟩

def outsider : RequesterContext :=
  { RequesterContext.anonymous with agentId := "peer", ownerDomain := some "other.example" }

theorem edited_record_verifies :
    scout.verifyRecord = true ∧ edited.verifyRecord = true ∧
      edited.signingPayload = scout.signingPayload ∧
      edited.isVisible outsider = .ok true ∧ scout.isVisible outsider = .ok false ∧
      edited.isExpired 200 = .ok false ∧ scout.isExpired 200 = .ok true ∧
      ¬edited.Alike scout := by
  have verified : scout.verifyRecord = true := by decide +kernel
  have payload : edited.signingPayload = scout.signingPayload := rfl
  have attached : edited.signature = scout.signature := rfl
  have editedVerified : edited.verifyRecord = true :=
    (PresenceRecord.verifyRecord_congr attached payload).trans verified
  have seen : edited.isVisible outsider = .ok true := by decide +kernel
  have unseen : scout.isVisible outsider = .ok false := by decide +kernel
  have endless : edited.isExpired 200 = .ok false := by decide +kernel
  have expired : scout.isExpired 200 = .ok true := by decide +kernel
  refine ⟨verified, editedVerified, payload, seen, unseen, endless, expired, ?_⟩
  intro alike
  have same := alike.visible outsider
  rw [seen, unseen] at same
  cases same

end CoverageSamples

end Agtp
