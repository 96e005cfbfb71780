import Agtp.Operational.PurchaseLaws

/-! # Single use of intent assertions

Purchases that reach the hook one after the other, and how often one assertion
is let through. -/

namespace Agtp.MerchantHook

open Intent

instance (outcome : HookOutcome) : Decidable outcome.LetsThrough :=
  match outcome with
  | .passed | .raised => .isTrue trivial
  | .answered _ | .aborted => .isFalse fun held => held

variable [FloatText]

/-- A request that reaches the hook, with the agents hosted at the time. -/
structure Presentation (Time : Type) [WallClock Time] where
  agents : HostedAgents
  spec : EndpointSpec
  context : EndpointContext
  reads : ClockReads Time

structure Ledger (Time Store : Type) [WallClock Time] where
  store : Option Store
  letThrough : List (Presentation Time)

variable [JsonCodec] [Digest] [TextCase] [TextOf] [NumberText]
  {PublicKey : Type} [SignatureScheme PublicKey] {Time Store : Type} [WallClock Time]
  [SeenJtiStore Time Store]

def Ledger.present (hook : MerchantHook PublicKey) (ledger : Ledger Time Store)
    (presentation : Presentation Time) : Ledger Time Store :=
  let call := beforeDispatch hook presentation.agents presentation.reads
    presentation.spec presentation.context ledger.store
  ⟨call.2, if call.1.LetsThrough then presentation :: ledger.letThrough
    else ledger.letThrough⟩

def Ledger.run (hook : MerchantHook PublicKey) (ledger : Ledger Time Store)
    (presentations : List (Presentation Time)) : Ledger Time Store :=
  presentations.foldl (Ledger.present hook) ledger

def Presentation.On (key : PublicKey) (assertion : String)
    (payload : List (String × Json)) (presentation : Presentation Time) : Prop :=
  ∃ target, presentation.agents.get? presentation.context.agentId = some target ∧
    Authorized key target.document presentation.context presentation.reads.verified
      assertion payload

def Ledger.SingleUse (key : PublicKey) (ledger : Ledger Time Store) : Prop :=
  ledger.letThrough.Pairwise fun later earlier =>
    ∀ assertion payload laterPayload, earlier.On key assertion payload →
      ¬ later.On key assertion laterPayload

def Presentation.expiresAt (payload : List (String × Json))
    (presentation : Presentation Time) : Option Time :=
  WallClock.plus presentation.reads.recorded
    (ttlSecondsOf payload presentation.reads.offered)

variable [LawfulJtiStore Time Store]

/-- A request on an assertion that verifies comes before the entry of the one let
through has expired, and an entry of its own can be recorded. -/
structure Ledger.Punctual (key : PublicKey) (ledger : Ledger Time Store)
    (presentation : Presentation Time) : Prop where
  recordable : ∀ assertion payload, presentation.On key assertion payload →
    LawfulJtiStore.Holds Time Store (jtiOf payload) ∧
      (presentation.expiresAt payload).isSome
  timely : ∀ assertion payload, presentation.On key assertion payload →
    ∀ earlier ∈ ledger.letThrough, earlier.On key assertion payload →
      ∀ expiry, earlier.expiresAt payload = some expiry →
        presentation.reads.recorded < expiry

def Ledger.PunctualRun (hook : MerchantHook PublicKey) (key : PublicKey)
    (ledger : Ledger Time Store) : List (Presentation Time) → Prop
  | [] => True
  | presentation :: rest =>
      ledger.Punctual key presentation ∧
        (ledger.present hook presentation).PunctualRun hook key rest

/-! ## What a call leaves in the store -/

section Calls

variable {hook : MerchantHook PublicKey} {key : PublicKey} {agents : HostedAgents}
  {target : HostedAgent} {merchant : Document} {spec : EndpointSpec}
  {context : EndpointContext} {reads : ClockReads Time} {store : Store}
  {payload : List (String × Json)}

omit [JsonCodec] [Digest] [TextCase] [TextOf] [NumberText] in
theorem spend_keeps (merchant : Document) (jti : String) (ttlSeconds : Int)
    (recorded : Time) (store : Store) :
    ∃ after, (spend merchant jti ttlSeconds recorded (some store)).2 = some after ∧
      Keeps recorded store after := by
  have kept := keeps_checkAndRecord recorded jti ttlSeconds store
  unfold spend
  dsimp only
  split
  · next found => exact ⟨_, rfl, by rwa [found] at kept⟩
  · next found => exact ⟨_, rfl, by rwa [found] at kept⟩
  · next found => exact ⟨_, rfl, by rwa [found] at kept⟩

omit [Digest] [TextCase] in
theorem checkAssertion_keeps (key : PublicKey) (merchant : Document)
    (context : EndpointContext) (reads : ClockReads Time) (store : Store) :
    ∃ after, (checkAssertion key merchant context reads (some store)).2 = some after ∧
      Keeps reads.recorded store after := by
  have unchanged : ∃ after, (some store) = some after ∧
      Keeps reads.recorded store after :=
    ⟨store, rfl, keeps_refl reads.recorded store⟩
  unfold checkAssertion
  split
  · exact unchanged
  · split
    · exact unchanged
    · exact unchanged
    · simp only [admitVerified]
      split
      · exact unchanged
      · split
        · exact unchanged
        · exact spend_keeps merchant _ _ reads.recorded store

theorem beforeDispatch_keeps (configured : hook.intentPublicKey = some key) :
    ∃ after, (beforeDispatch hook agents reads spec context (some store)).2 =
        some after ∧ Keeps reads.recorded store after := by
  have unchanged : ∃ after, (some store) = some after ∧
      Keeps reads.recorded store after :=
    ⟨store, rfl, keeps_refl reads.recorded store⟩
  unfold beforeDispatch
  split
  · exact unchanged
  · split
    · exact unchanged
    · next target _ =>
        split
        · exact unchanged
        · unfold gate
          split
          · exact unchanged
          · split
            · exact unchanged
            · exact checkAssertion_keeps _ _ context reads store
            · next without =>
                rw [configured] at without
                cases without

def ask (payload : List (String × Json)) (reads : ClockReads Time) (store : Store) :
    Except Unit Bool × Store :=
  SeenJtiStore.checkAndRecord reads.recorded (jtiOf payload)
    (ttlSecondsOf payload reads.offered) store

omit [LawfulJtiStore Time Store] in
/-- An authorized purchase is let through only if the store, asked for the
identifier of its assertion, does not know it. -/
theorem recorded_of_letsThrough (configured : hook.intentPublicKey = some key)
    (hosted : agents.get? context.agentId = some target) {assertion : String}
    (authorized : Authorized key target.document context reads.verified assertion
      payload)
    (through : (beforeDispatch hook agents reads spec context
      (some store)).1.LetsThrough) :
    (beforeDispatch hook agents reads spec context (some store)).2 =
        some (ask payload reads store).2 ∧
      (ask payload reads store).1 ≠ .ok true := by
  rw [beforeDispatch_of_merchant authorized.purchase hosted authorized.merchant]
    at through ⊢
  rcases letsThrough_gate configured through with ⟨reaches, passed⟩
  rw [gate_of_reaches configured reaches]
  have verified := verifyIntentAssertion_eq_ok_iff.mpr authorized.genuine
  simp only [checkAssertion, authorized.presented, verified, admitVerified] at passed ⊢
  split at passed
  · exact absurd passed (refuse_not_letsThrough _ _ _ _)
  · next named =>
      rw [if_neg named]
      split at passed
      · exact absurd passed (refuse_not_letsThrough _ _ _ _)
      · next hinted =>
          rw [if_neg hinted]
          simp only [spend, ask] at passed ⊢
          split at passed
          · exact absurd passed (refuse_not_letsThrough _ _ _ _)
          · next found => simp [found]
          · next found => simp [found]

end Calls

/-! ## Runs -/

section Runs

variable {hook : MerchantHook PublicKey} {key : PublicKey}
  {ledger : Ledger Time Store} {presentation : Presentation Time}

omit [Digest] [TextCase] [TextOf] [JsonCodec] [FloatText] in
theorem ttlSecondsOf_pos (payload : List (String × Json)) (offered : Time) :
    0 < ttlSecondsOf payload offered := by
  unfold ttlSecondsOf
  omega

/-- The store holds the entry of every request let through on an assertion, until
the entry expires. -/
def Ledger.Remembers (key : PublicKey) (ledger : Ledger Time Store) (now : Time) :
    Prop :=
  ∃ store, ledger.store = some store ∧
    ∀ earlier ∈ ledger.letThrough, ∀ assertion payload,
      earlier.On key assertion payload →
        ∃ expiry, earlier.expiresAt payload = some expiry ∧
          (now < expiry → LawfulJtiStore.expiresAt store (jtiOf payload) = some expiry)

omit [Digest] [TextCase] in
theorem Ledger.Remembers.later {now later : Time} (remembers : ledger.Remembers key now)
    (order : now ≤ later) : ledger.Remembers key later := by
  rcases remembers with ⟨store, held, entries⟩
  refine ⟨store, held, ?_⟩
  intro earlier member assertion payload on
  rcases entries earlier member assertion payload on with ⟨expiry, computed, live⟩
  exact ⟨expiry, computed, fun before => live (lt_of_le_of_lt order before)⟩

theorem exists_left (configured : hook.intentPublicKey = some key) {store : Store}
    (held : ledger.store = some store) (presentation : Presentation Time) :
    ∃ after, (beforeDispatch hook presentation.agents presentation.reads
      presentation.spec presentation.context ledger.store).2 = some after ∧
        Keeps presentation.reads.recorded store after := by
  rw [held]
  exact beforeDispatch_keeps configured

theorem expiresAt_of_letsThrough (configured : hook.intentPublicKey = some key)
    (punctual : ledger.Punctual key presentation) {store after : Store}
    (held : ledger.store = some store) {assertion : String}
    {payload : List (String × Json)} (on : presentation.On key assertion payload)
    (through : (beforeDispatch hook presentation.agents presentation.reads
      presentation.spec presentation.context ledger.store).1.LetsThrough)
    (left : (beforeDispatch hook presentation.agents presentation.reads
      presentation.spec presentation.context ledger.store).2 = some after) :
    LawfulJtiStore.expiresAt after (jtiOf payload) = presentation.expiresAt payload ∧
      ∀ expiry, LawfulJtiStore.expiresAt store (jtiOf payload) = some expiry →
        ¬ presentation.reads.recorded < expiry := by
  rcases on with ⟨target, hosted, authorized⟩
  rcases punctual.recordable assertion payload ⟨target, hosted, authorized⟩ with
    ⟨holds, defined⟩
  have positive := ttlSecondsOf_pos payload presentation.reads.offered
  have lifetime : max (ttlSecondsOf payload presentation.reads.offered) 0 =
      ttlSecondsOf payload presentation.reads.offered := by
    omega
  rw [held] at through left
  rcases recorded_of_letsThrough configured hosted authorized through with
    ⟨asked, unseen⟩
  have settled : (ask payload presentation.reads store).1 ≠ .error () :=
    LawfulJtiStore.answers holds (by rw [lifetime]; exact defined) store
  have answered : (ask payload presentation.reads store).1 = .ok false := by
    revert unseen settled
    cases (ask payload presentation.reads store).1 with
    | error failure => simp
    | ok seen => cases seen <;> simp
  cases left.symm.trans asked
  constructor
  · rw [ask, LawfulJtiStore.recorded answered, lifetime]
    rfl
  · intro expiry entry live
    exact unseen (LawfulJtiStore.seen entry live _)

/-- A punctual call leaves the entry of what it lets through, and keeps the
others. -/
theorem remembers_present (configured : hook.intentPublicKey = some key)
    (punctual : ledger.Punctual key presentation)
    (remembers : ledger.Remembers key presentation.reads.recorded) :
    (ledger.present hook presentation).Remembers key presentation.reads.recorded := by
  rcases remembers with ⟨store, held, entries⟩
  rcases exists_left configured held presentation with ⟨after, left, keeps⟩
  refine ⟨after, left, ?_⟩
  have old (earlier : Presentation Time) (member : earlier ∈ ledger.letThrough)
      (assertion : String) (payload : List (String × Json))
      (on : earlier.On key assertion payload) :
      ∃ expiry, earlier.expiresAt payload = some expiry ∧
        (presentation.reads.recorded < expiry →
          LawfulJtiStore.expiresAt after (jtiOf payload) = some expiry) := by
    rcases entries earlier member assertion payload on with ⟨expiry, computed, live⟩
    exact ⟨expiry, computed, fun before => keeps _ _ (live before) before⟩
  intro earlier member assertion payload on
  simp only [Ledger.present] at member
  split at member
  · next through =>
      rcases List.mem_cons.mp member with rfl | member
      · rcases expiresAt_of_letsThrough configured punctual held on through left with
          ⟨entry, _⟩
        rcases Option.isSome_iff_exists.mp
          (punctual.recordable assertion payload on).2 with ⟨expiry, computed⟩
        exact ⟨expiry, computed, fun _ => by rw [entry, computed]⟩
      · exact old earlier member assertion payload on
  · exact old earlier member assertion payload on

theorem singleUse_present (configured : hook.intentPublicKey = some key)
    (punctual : ledger.Punctual key presentation)
    (remembers : ledger.Remembers key presentation.reads.recorded)
    (single : ledger.SingleUse key) :
    (ledger.present hook presentation).SingleUse key := by
  rcases remembers with ⟨store, held, entries⟩
  unfold Ledger.SingleUse
  simp only [Ledger.present]
  split
  · next through =>
      refine List.pairwise_cons.mpr ⟨?_, single⟩
      intro earlier member assertion payload laterPayload earlierOn laterOn
      have same : laterPayload = payload := by
        rcases earlierOn with ⟨_, _, earlierAuthorized⟩
        rcases laterOn with ⟨_, _, laterAuthorized⟩
        exact earlierAuthorized.genuine.payload_eq laterAuthorized.genuine
      subst same
      rcases entries earlier member assertion laterPayload earlierOn with
        ⟨expiry, computed, live⟩
      have before := punctual.timely assertion laterPayload laterOn earlier member
        earlierOn expiry computed
      rcases exists_left configured held presentation with ⟨after, left, _⟩
      exact (expiresAt_of_letsThrough configured punctual held laterOn through left).2
        expiry (live before) before
  · exact single

/-- Requests whose times do not decrease: each is read after the one before it was
recorded. -/
def InOrder (presentations : List (Presentation Time)) : Prop :=
  presentations.Pairwise fun earlier later =>
    earlier.reads.recorded ≤ later.reads.verified

theorem singleUse_run_of_remembers (configured : hook.intentPublicKey = some key)
    {presentations : List (Presentation Time)} (ordered : InOrder presentations)
    (punctual : ledger.PunctualRun hook key presentations)
    (remembers : ∀ presentation ∈ presentations,
      ledger.Remembers key presentation.reads.recorded)
    (single : ledger.SingleUse key) :
    (ledger.run hook presentations).SingleUse key := by
  induction presentations generalizing ledger with
  | nil => exact single
  | cons head rest induction =>
      rcases List.pairwise_cons.mp ordered with ⟨after, ordered⟩
      have known := remembers head List.mem_cons_self
      have stepped := remembers_present configured punctual.1 known
      apply induction ordered punctual.2
      · intro presentation member
        apply stepped.later
        exact le_trans (after presentation member)
          (le_trans presentation.reads.verified_le presentation.reads.offered_le)
      · exact singleUse_present configured punctual.1 known single

/-- From a store that nothing was let through with, a run of punctual requests lets
no assertion through twice while it verifies. -/
theorem singleUse_of_punctual (configured : hook.intentPublicKey = some key)
    (store : Store) {presentations : List (Presentation Time)}
    (ordered : InOrder presentations)
    (punctual : Ledger.PunctualRun hook key ⟨some store, []⟩ presentations) :
    (Ledger.run hook ⟨some store, []⟩ presentations).SingleUse key := by
  apply singleUse_run_of_remembers configured ordered punctual
  · exact fun _ _ => ⟨store, rfl, fun earlier member => by cases member⟩
  · exact List.Pairwise.nil

end Runs

end Agtp.MerchantHook

namespace Agtp.MerchantHook.Samples

/-! ## A replay within the leeway -/

open Intent
open scoped Plain PlainServing

def signedAssertion : String :=
  "eyJhbGciOiJFZERTQSJ9." ++
    "eyJhdWQiOiJzaG9wIiwiZXhwIjozMDAsImp0aSI6Im9uZSIsIm1lcmNoYW50X2lkIjoic2hvcCJ9.AQ"

theorem parse_signed : ∃ signingInput,
    parseIntentAssertion signedAssertion =
      .ok ⟨.object [("alg", .string "EdDSA")], .object payload, [1], signingInput⟩ := by
  have segments : Text.splitCharacters '.' signedAssertion.toList =
      ["eyJhbGciOiJFZERTQSJ9".toList,
        ("eyJhdWQiOiJzaG9wIiwiZXhwIjozMDAsImp0aSI6Im9uZSIsIm1lcmNoYW50X2lk" ++
          "Ijoic2hvcCJ9").toList, "AQ".toList] := by
    decide +kernel
  have header : Base64Url.decode "eyJhbGciOiJFZERTQSJ9".toList = some headerText := by
    decide +kernel
  have body : Base64Url.decode
      ("eyJhdWQiOiJzaG9wIiwiZXhwIjozMDAsImp0aSI6Im9uZSIsIm1lcmNoYW50X2lk" ++
        "Ijoic2hvcCJ9").toList = some payloadText := by
    decide +kernel
  have signature : decodeSignature "AQ".toList = .ok [1] := by decide +kernel
  have headerLoads : JsonCodec.loads headerText =
      .ok (.object [("alg", .string "EdDSA")]) := by
    simp only [JsonCodec.loads]
    rw [if_neg (by decide +kernel), if_neg (by decide +kernel), if_pos trivial]
  have payloadLoads : JsonCodec.loads payloadText = .ok (.object payload) := by
    simp only [JsonCodec.loads]
    rw [if_neg (by decide +kernel), if_neg (by decide +kernel),
      if_neg (by decide +kernel), if_pos trivial]
  simp only [parseIntentAssertion, segments, decodeSegment, header, body, signature,
    headerLoads, payloadLoads]
  exact ⟨_, rfl⟩

theorem signed_genuine {now : Int} (early : now ≤ 360) :
    Genuine () "shop" "shop" now signedAssertion payload := by
  rcases parse_signed with ⟨signingInput, parses⟩
  refine ⟨⟨_, parses, ⟨_, rfl, by decide +kernel, decide_eq_true rfl⟩, rfl⟩,
    ⟨.int 300, 300, rfl, rfl, ?_⟩, ?_, rfl, rfl⟩
  · simpa [leewaySeconds] using early
  · intro value held
    cases held

theorem shown_signed :
    presentedAssertion (presented signedAssertion) = some signedAssertion := by
  decide +kernel

def presentationAt (now : Int) : Presentation Int where
  agents := hosting
  spec := purchaseEntry.1
  context := presented signedAssertion
  reads := readsAt now

theorem presentationAt_on {now : Int} (early : now ≤ 360) :
    (presentationAt now).On () signedAssertion payload :=
  ⟨shop, Dict.get?_set_same _ _ _, rfl, rfl, shown_signed, signed_genuine early⟩

theorem call_at {now : Int} (early : now ≤ 360)
    (store : Option (InMemorySeenJtiStore Int)) :
    beforeDispatch keyed (presentationAt now).agents (presentationAt now).reads
        (presentationAt now).spec (presentationAt now).context store =
      spend shop.document "one" (max 1 (300 - now)) now store := by
  have reaches : Reaches keyed shop.document (presented signedAssertion) :=
    ⟨rfl, by decide +kernel⟩
  have verified : verifyIntentAssertion () shop.document.agentId shop.document.agentId
      (WallClock.seconds (readsAt now).verified) signedAssertion = .ok payload :=
    verifyIntentAssertion_eq_ok_iff.mpr (signed_genuine early)
  have jti : jtiOf payload = "one" := by decide +kernel
  have hinted : readHeader (presented signedAssertion) "intent-assertion-jti"
      "Intent-Assertion-Jti" = "" := by decide +kernel
  have found : hosting.get? (presented signedAssertion).agentId = some shop :=
    Dict.get?_set_same _ _ _
  change beforeDispatch keyed hosting (readsAt now) purchaseEntry.1
    (presented signedAssertion) store = _
  rw [beforeDispatch_of_merchant rfl found rfl, gate_of_reaches rfl reaches]
  simp only [checkAssertion, shown_signed, verified, admitVerified, jti, hinted]
  rfl

def emptyStore : InMemorySeenJtiStore Int := .empty

def oneEntry : InMemorySeenJtiStore Int := ⟨Dict.empty.set "one" 300⟩

theorem first_purchase :
    Ledger.present keyed ⟨some emptyStore, []⟩ (presentationAt 100) =
      ⟨some oneEntry, [presentationAt 100]⟩ := by
  simp only [Ledger.present, call_at (show (100 : Int) ≤ 360 by decide)]
  rfl

/-- At 330 the entry has expired and the assertion has not. -/
theorem replayed_purchase :
    ((Ledger.run keyed ⟨some emptyStore, []⟩
      [presentationAt 100, presentationAt 330]).letThrough =
        [presentationAt 330, presentationAt 100]) ∧
      ¬ (Ledger.run keyed ⟨some emptyStore, []⟩
        [presentationAt 100, presentationAt 330]).SingleUse () := by
  have through : (Ledger.run keyed ⟨some emptyStore, []⟩
      [presentationAt 100, presentationAt 330]).letThrough =
        [presentationAt 330, presentationAt 100] := by
    simp only [Ledger.run, List.foldl_cons, List.foldl_nil, first_purchase]
    simp only [Ledger.present, call_at (show (330 : Int) ≤ 360 by decide)]
    rfl
  refine ⟨through, ?_⟩
  intro single
  rw [Ledger.SingleUse, through] at single
  exact (List.pairwise_cons.mp single).1 (presentationAt 100) List.mem_cons_self
    signedAssertion payload payload (presentationAt_on (by decide))
    (presentationAt_on (by decide))

/-- Before 300 the second purchase is refused. -/
theorem repeated_purchase :
    (Ledger.run keyed ⟨some emptyStore, []⟩
      [presentationAt 100, presentationAt 299]).SingleUse () := by
  have payload_of {now : Int} {assertion : String} {held : List (String × Json)}
      (on : (presentationAt now).On () assertion held) : held = payload := by
    rcases on with ⟨target, _, authorized⟩
    cases shown_signed.symm.trans authorized.presented
    exact (signed_genuine (show (0 : Int) ≤ 360 by decide)).payload_eq authorized.genuine
  have recordable {now : Int} (assertion : String) (held : List (String × Json))
      (on : (presentationAt now).On () assertion held) :
      LawfulJtiStore.Holds Int (InMemorySeenJtiStore Int) (jtiOf held) ∧
        ((presentationAt now).expiresAt held).isSome :=
    ⟨trivial, rfl⟩
  apply singleUse_of_punctual rfl
  · exact List.pairwise_pair.mpr (by decide)
  · refine ⟨⟨recordable, fun _ _ _ _ member => by cases member⟩, ⟨recordable, ?_⟩, trivial⟩
    intro assertion held _ earlier member on expiry computed
    rw [first_purchase] at member
    cases List.mem_singleton.mp member
    rw [payload_of on] at computed
    cases computed
    decide

end Agtp.MerchantHook.Samples
