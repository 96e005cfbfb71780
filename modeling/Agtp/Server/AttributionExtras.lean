import Agtp.Audit.Record
import Agtp.Server.TrustSignal

/-! # Attribution extras

The `extra` block of a dispatched request's Attribution-Record: what the handler
returned for it, and what the daemon adds. -/

namespace Agtp.Attribution

abbrev Extras := Dict String Json

/-- What a dispatched request was answered by. A refusal is an answer without
extras. -/
inductive Answer where
  | returned (extras : Option Extras)
  | synthesis (synthesisId : String) (contractHash : Option String)
      (origin : String) (held : Option Extras)
  | negotiated (synthesisId : String) (contractHash : Option String)

def contractExtras (synthesisId : String) (contractHash : Option String)
    (origin : String) (existing : Extras) : Extras :=
  ((existing.set "synthesis_id" (.string synthesisId)).set "contract_hash"
    (.string (contractHash.getD ""))).set "negotiation_origin" (.string origin)

def Answer.attributionExtra : Answer → Option Extras
  | returned extras => extras
  | synthesis synthesisId contractHash origin held =>
      some (contractExtras synthesisId contractHash origin (held.getD .empty))
  | negotiated synthesisId contractHash =>
      some (contractExtras synthesisId contractHash "rcns-optimistic" .empty)

/-- `getattr(request, "agent_verified", False)`. No code sets this attribute on a
request; the verified certificate is kept under another name. -/
def agentVerified (_request : Request) : Bool := false

def defaultText (key text : String) (extras : Extras) : Extras :=
  if text = "" then extras else extras.setDefault key (.string text)

def recordedExtras (request : Request) (answer : Answer) : Extras :=
  let handed := answer.attributionExtra.getD .empty
  let aliased := defaultText "requested_method" request.aliasedFrom handed
  let acting := defaultText "acting_principal_id" request.actingPrincipalId aliased
  acting.setDefault "identity_assurance"
    (.string (if agentVerified request then "certificate-bound" else "unverified"))

def withExtras (fields : Audit.RecordFields) (extras : Extras) : Audit.RecordFields :=
  { fields with extra := extras.entries }

def recordPayload (fields : Audit.RecordFields) (request : Request) (answer : Answer) :
    List (String × Json) :=
  (withExtras fields (recordedExtras request answer)).payload

def recorded (payload : List (String × Json)) (key : String) : Option Json :=
  match Json.member payload "extra" with
  | some (.object members) => Json.member members key
  | _ => none

/-! ## The values of the daemon -/

inductive DaemonKey where
  | requestedMethod
  | actingPrincipalId
  | synthesisId
  | contractHash

def DaemonKey.name : DaemonKey → String
  | requestedMethod => "requested_method"
  | actingPrincipalId => "acting_principal_id"
  | synthesisId => "synthesis_id"
  | contractHash => "contract_hash"

def nonempty (text : String) : Option Json :=
  if text = "" then none else some (.string text)

def daemonValue (request : Request) (answer : Answer) : DaemonKey → Option Json
  | .requestedMethod => nonempty request.aliasedFrom
  | .actingPrincipalId => nonempty request.actingPrincipalId
  | .synthesisId =>
      match answer with
      | .returned _ => none
      | .synthesis synthesisId _ _ _ | .negotiated synthesisId _ =>
          some (.string synthesisId)
  | .contractHash =>
      match answer with
      | .returned _ => none
      | .synthesis _ contractHash _ _ | .negotiated _ contractHash =>
          some (.string (contractHash.getD ""))

def assurance (peer : Connection.PeerCertificate) : Json :=
  match peer with
  | .verified _ => .string "certificate-bound"
  | _ => .string "unverified"

/-- The record says of the caller's identity what the connection established, and
holds the daemon's values of the daemon's keys. -/
structure RecordsDaemonValues (peer : Connection.PeerCertificate) (request : Request)
    (answer : Answer) (payload : List (String × Json)) : Prop where
  assurance : recorded payload "identity_assurance" = some (assurance peer)
  values : ∀ key : DaemonKey, recorded payload key.name = daemonValue request answer key

def Answer.given : Answer → Extras
  | returned extras => extras.getD .empty
  | synthesis _ _ _ held => held.getD .empty
  | negotiated _ _ => .empty

def Answer.isContract : Answer → Bool
  | returned _ => false
  | synthesis .. | negotiated .. => true

/-- What was returned names none of the daemon's keys but with the daemon's value,
and where a certificate has verified it is what says so. -/
structure Agreeing (request : Request) (answer : Answer) : Prop where
  requestedMethod : ∀ value, answer.given.get? "requested_method" = some value →
    nonempty request.aliasedFrom = some value
  actingPrincipalId : ∀ value, answer.given.get? "acting_principal_id" = some value →
    nonempty request.actingPrincipalId = some value
  contract : answer.isContract = false → answer.given.get? "synthesis_id" = none ∧
    answer.given.get? "contract_hash" = none
  unverified : request.verifiedCert = none →
    ∀ value, answer.given.get? "identity_assurance" = some value →
      value = .string "unverified"
  verified : ∀ cert, request.verifiedCert = some cert →
    answer.given.get? "identity_assurance" = some (.string "certificate-bound")

/-! ## What the record holds -/

theorem member_entries (extras : Extras) (key : String) :
    Json.member extras.entries key = extras.get? key := by
  have general (entries : List (String × Json)) : Json.member entries key =
      (entries.find? fun entry => entry.1 = key).map Prod.snd := by
    induction entries with
    | nil => rfl
    | cons head tail induction =>
        rcases head with ⟨name, value⟩
        by_cases same : name = key
        · simp [Json.member, same]
        · simp [Json.member, same, induction]
  exact general extras.entries

theorem member_payload_extra {fields : Audit.RecordFields}
    (populated : fields.extra ≠ []) :
    Json.member fields.payload "extra" = some (.object fields.extra) := by
  have absent (text name : String) (different : name ≠ "extra") :
      Json.member (if text = "" then [] else [(name, .string text)]) "extra" = none := by
    split
    · rfl
    · simp [Json.member, different]
  unfold Audit.RecordFields.payload
  rw [Json.member_append, Json.member_append, Json.member_append, Json.member_append,
    absent _ "principal_id" (by decide), absent _ "session_id" (by decide),
    absent _ "task_id" (by decide), if_neg populated]
  rfl

theorem recorded_withExtras (fields : Audit.RecordFields) {extras : Extras}
    (populated : extras.entries ≠ []) (key : String) :
    recorded (withExtras fields extras).payload key = extras.get? key := by
  have held : Json.member (withExtras fields extras).payload "extra" =
      some (.object extras.entries) :=
    member_payload_extra populated
  rw [recorded, held]
  exact member_entries extras key

theorem get?_defaultText_same (key text : String) (extras : Extras) :
    (defaultText key text extras).get? key = (extras.get? key).or (nonempty text) := by
  unfold defaultText nonempty
  split
  · simp
  · rw [Dict.get?_setDefault_same]
    cases extras.get? key <;> rfl

theorem get?_defaultText_other {key other : String} (different : other ≠ key)
    (text : String) (extras : Extras) :
    (defaultText key text extras).get? other = extras.get? other := by
  unfold defaultText
  split
  · rfl
  · exact Dict.get?_setDefault_other extras different _

theorem get?_contractExtras_other {key : String} (notId : key ≠ "synthesis_id")
    (notHash : key ≠ "contract_hash") (notOrigin : key ≠ "negotiation_origin")
    (synthesisId : String) (contractHash : Option String) (origin : String)
    (existing : Extras) :
    (contractExtras synthesisId contractHash origin existing).get? key =
      existing.get? key := by
  rw [contractExtras, Dict.get?_set_other _ notOrigin, Dict.get?_set_other _ notHash,
    Dict.get?_set_other _ notId]

section Recording

variable {request : Request} {answer : Answer}

theorem get?_handed {key : String} (notId : key ≠ "synthesis_id")
    (notHash : key ≠ "contract_hash") (notOrigin : key ≠ "negotiation_origin") :
    (answer.attributionExtra.getD .empty).get? key = answer.given.get? key := by
  cases answer with
  | returned extras => rfl
  | synthesis synthesisId contractHash origin held =>
      exact get?_contractExtras_other notId notHash notOrigin _ _ _ _
  | negotiated synthesisId contractHash =>
      exact get?_contractExtras_other notId notHash notOrigin _ _ _ _

theorem get?_assurance : (recordedExtras request answer).get? "identity_assurance" =
    some ((answer.given.get? "identity_assurance").getD (.string "unverified")) := by
  unfold recordedExtras
  rw [Dict.get?_setDefault_same, get?_defaultText_other (by decide),
    get?_defaultText_other (by decide),
    get?_handed (by decide) (by decide) (by decide)]
  rfl

theorem get?_requestedMethod :
    (recordedExtras request answer).get? "requested_method" =
      (answer.given.get? "requested_method").or (nonempty request.aliasedFrom) := by
  unfold recordedExtras
  rw [Dict.get?_setDefault_other _ (by decide), get?_defaultText_other (by decide),
    get?_defaultText_same, get?_handed (by decide) (by decide) (by decide)]

theorem get?_actingPrincipalId :
    (recordedExtras request answer).get? "acting_principal_id" =
      (answer.given.get? "acting_principal_id").or
        (nonempty request.actingPrincipalId) := by
  unfold recordedExtras
  rw [Dict.get?_setDefault_other _ (by decide), get?_defaultText_same,
    get?_defaultText_other (by decide), get?_handed (by decide) (by decide) (by decide)]

theorem get?_contractKey {key : String} (notAssurance : key ≠ "identity_assurance")
    (notMethod : key ≠ "requested_method") (notPrincipal : key ≠ "acting_principal_id") :
    (recordedExtras request answer).get? key =
      (answer.attributionExtra.getD .empty).get? key := by
  unfold recordedExtras
  rw [Dict.get?_setDefault_other _ notAssurance, get?_defaultText_other notPrincipal,
    get?_defaultText_other notMethod]

theorem recordedExtras_populated (request : Request) (answer : Answer) :
    (recordedExtras request answer).entries ≠ [] := by
  intro empty
  have held : (recordedExtras request answer).get? "identity_assurance" = _ :=
    get?_assurance
  rw [Dict.get?_eq_some_iff, empty] at held
  cases held

theorem recorded_recordPayload (fields : Audit.RecordFields) (request : Request)
    (answer : Answer) (key : String) :
    recorded (recordPayload fields request answer) key =
      (recordedExtras request answer).get? key :=
  recorded_withExtras fields (recordedExtras_populated request answer) key

/-- The contract keys of a synthesis are the daemon's; otherwise they are what was
returned. -/
theorem get?_contractKeys (request : Request) (answer : Answer) :
    (recordedExtras request answer).get? "synthesis_id" =
        daemonValue request answer .synthesisId ∧
      (recordedExtras request answer).get? "contract_hash" =
        daemonValue request answer .contractHash ↔
    (answer.isContract = false → answer.given.get? "synthesis_id" = none ∧
      answer.given.get? "contract_hash" = none) := by
  rw [get?_contractKey (by decide) (by decide) (by decide),
    get?_contractKey (by decide) (by decide) (by decide)]
  cases answer with
  | returned extras =>
      simp only [Answer.isContract, forall_const, daemonValue, Answer.given,
        Answer.attributionExtra]
  | synthesis synthesisId contractHash origin held =>
      simp [Answer.isContract, daemonValue, Answer.attributionExtra, contractExtras,
        Dict.get?_set_other]
  | negotiated synthesisId contractHash =>
      simp [Answer.isContract, daemonValue, Answer.attributionExtra, contractExtras,
        Dict.get?_set_other]

theorem or_nonempty_eq_iff (given : Option Json) (text : String) :
    given.or (nonempty text) = nonempty text ↔
      ∀ value, given = some value → nonempty text = some value := by
  cases given with
  | none => simp
  | some value => simp [eq_comm]

end Recording

/-! ## The law -/

section Law

variable [TextCase] [TextOf] {EndpointHandler MethodHandler : Type}
  {server : Server EndpointHandler MethodHandler} {hooks : Connection.Hooks}
  {registry : AgentRegistry} {isSynthesis : String → Bool}
  {peer : Connection.PeerCertificate} {original seen : Request} {agent : AgentDocument}

/-- What the dispatcher leaves on the request: the verb that an alias replaced, and
the principal of a validated token. -/
def leftBy (request : Request) (aliasedFrom actingPrincipalId : String) : Request :=
  { request with
    aliasedFrom := aliasedFrom
    actingPrincipalId := actingPrincipalId }

omit [TextCase] [TextOf] in
/-- The assurance that is recorded is the connection's only where a handler has
returned it, or no certificate has verified and no handler has returned another. -/
theorem assurance_iff {request : Request} {answer : Answer}
    (carried : ∀ cert, request.verifiedCert = some cert ↔ peer = .verified cert) :
    (answer.given.get? "identity_assurance").getD (.string "unverified") =
        assurance peer ↔
      (request.verifiedCert = none →
        ∀ value, answer.given.get? "identity_assurance" = some value →
          value = .string "unverified") ∧
      ∀ cert, request.verifiedCert = some cert →
        answer.given.get? "identity_assurance" = some (.string "certificate-bound") := by
  cases held : request.verifiedCert with
  | none =>
      have unverified : assurance peer = .string "unverified" := by
        cases peer with
        | verified cert =>
            have contrary := (carried cert).mpr rfl
            rw [held] at contrary
            cases contrary
        | _ => rfl
      rw [unverified]
      cases answer.given.get? "identity_assurance" <;> simp
  | some cert =>
      rw [(carried cert).mp held]
      cases answer.given.get? "identity_assurance" <;> simp [assurance]

/-- Of a dispatched request the record holds the daemon's values exactly where
what the handler returned agrees with them. -/
theorem records_daemon_values_iff
    (dispatched : Connection.handle server hooks registry isSynthesis peer original =
      .dispatched seen agent)
    (aliasedFrom actingPrincipalId : String) (answer : Answer)
    (fields : Audit.RecordFields) :
    RecordsDaemonValues peer (leftBy seen aliasedFrom actingPrincipalId) answer
        (recordPayload fields (leftBy seen aliasedFrom actingPrincipalId) answer) ↔
      Agreeing (leftBy seen aliasedFrom actingPrincipalId) answer := by
  rcases Connection.dispatched_cases dispatched with ⟨identified, addressed, rfl, came⟩
  have carried (cert : VerifiedCert) :
      (leftBy addressed.request aliasedFrom actingPrincipalId).verifiedCert =
        some cert ↔ peer = .verified cert :=
    Connection.verifiedCert_of_cameTo came cert
  have holds := recorded_recordPayload fields
    (leftBy addressed.request aliasedFrom actingPrincipalId) answer
  constructor
  · rintro ⟨bound, values⟩
    rw [holds, get?_assurance, Option.some.injEq, assurance_iff carried] at bound
    have method := values .requestedMethod
    have principal := values .actingPrincipalId
    have synthesis := values .synthesisId
    have hash := values .contractHash
    rw [holds] at method principal synthesis hash
    refine ⟨?_, ?_, (get?_contractKeys _ _).mp ⟨synthesis, hash⟩, bound.1, bound.2⟩
    · rw [DaemonKey.name, get?_requestedMethod] at method
      exact (or_nonempty_eq_iff _ _).mp method
    · rw [DaemonKey.name, get?_actingPrincipalId] at principal
      exact (or_nonempty_eq_iff _ _).mp principal
  · intro agreeing
    refine ⟨?_, ?_⟩
    · rw [holds, get?_assurance, Option.some.injEq, assurance_iff carried]
      exact ⟨agreeing.unverified, agreeing.verified⟩
    · intro key
      have contract := (get?_contractKeys (leftBy addressed.request aliasedFrom
        actingPrincipalId) answer).mpr agreeing.contract
      rw [holds]
      cases key with
      | requestedMethod =>
          rw [DaemonKey.name, get?_requestedMethod]
          exact (or_nonempty_eq_iff _ _).mpr agreeing.requestedMethod
      | actingPrincipalId =>
          rw [DaemonKey.name, get?_actingPrincipalId]
          exact (or_nonempty_eq_iff _ _).mpr agreeing.actingPrincipalId
      | synthesisId => exact contract.1
      | contractHash => exact contract.2

end Law

end Agtp.Attribution

namespace Agtp.Attribution.Samples

open Connection Connection.Samples
open scoped Plain

def recordFields : Audit.RecordFields :=
  ⟨"reader", "", "", "server", "", "", "", "", "", 200, "", []⟩

def booked (peer : PeerCertificate) : Outcome :=
  handle lenientServer [] (.sole Gates.reader) (fun _ => false) peer
    (Connection.Samples.booking "reader")

theorem unverified_recorded :
    ∃ seen agent, booked .absent = .dispatched seen agent ∧
      RecordsDaemonValues .absent (leftBy seen "" "") (.returned none)
        (recordPayload recordFields (leftBy seen "" "") (.returned none)) := by
  have dispatches : isDispatched (booked .absent) = true := by decide +kernel
  rcases dispatched_of_isDispatched dispatches with ⟨seen, agent, dispatched⟩
  refine ⟨seen, agent, dispatched, (records_daemon_values_iff dispatched _ _ _ _).mpr ?_⟩
  refine ⟨nofun, nofun, fun _ => ⟨rfl, rfl⟩, nofun, ?_⟩
  intro cert carried
  rcases dispatched_cases dispatched with ⟨identified, addressed, rfl, came⟩
  exact nomatch (verifiedCert_of_cameTo came cert).mp carried

/-- The certificate of the agent has verified, and the record says that its
identity is unverified. -/
theorem certificate_recorded_as_unverified :
    ∃ seen agent, booked (.verified readerCert) = .dispatched seen agent ∧
      seen.verifiedCert = some readerCert ∧
      ¬RecordsDaemonValues (.verified readerCert) (leftBy seen "" "") (.returned none)
        (recordPayload recordFields (leftBy seen "" "") (.returned none)) := by
  have dispatches : isDispatched (booked (.verified readerCert)) = true := by
    decide +kernel
  rcases dispatched_of_isDispatched dispatches with ⟨seen, agent, dispatched⟩
  rcases dispatched_cases dispatched with ⟨identified, addressed, rfl, came⟩
  refine ⟨_, agent, dispatched, (verifiedCert_of_cameTo came readerCert).mpr rfl, ?_⟩
  intro records
  have held := records.assurance
  rw [recorded_recordPayload, get?_assurance] at held
  exact absurd held (by simp [assurance, Answer.given, Dict.get?, Dict.empty])

end Agtp.Attribution.Samples
