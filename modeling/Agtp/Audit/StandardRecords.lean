import Agtp.Audit.Record
import Agtp.Foundation.StandardJson

/-! # Records under the standard JSON form

Headers and payloads are read back from their canonical form. -/

namespace Agtp.Audit

open JsonText (Held firstExcess membersExcess)
open StandardJson (usualLimits)
open scoped StandardJson

variable [Floats]

theorem readsBack_of_held {members : List (String × Json)}
    (held : Held (.object members))
    (within : firstExcess usualLimits 0 (.object members) = none) :
    ReadsBack members := by
  refine ⟨_, StandardJson.loads_canonical held within, ?_⟩
  intro name value found
  rw [StandardJson.member_sortMembers, found]
  rfl

theorem recordHeader_readsBack (service : Option SigningService) :
    ReadsBack (recordHeader service) := by
  cases service with
  | none =>
      apply readsBack_of_held _ rfl
      apply Held.object (by decide)
      simp only [recordHeader, List.forall_mem_cons]
      exact ⟨.string _, .string _, by simp⟩
  | some service =>
      apply readsBack_of_held _ rfl
      apply Held.object
      · change ["alg", "typ", "kid"].Nodup
        decide
      · simp only [recordHeader, List.forall_mem_cons]
        exact ⟨.string _, .string _, .string _, by simp⟩

/-! ## Payloads -/

def payloadKeys : List String :=
  ["audit_record_version", "server_id", "agent_id", "owner_id", "request_id",
    "response_id", "previous_audit_id", "issued_at", "status"] ++
  ["principal_id"] ++ ["session_id"] ++ ["task_id"] ++ ["extra"]

omit [Floats] in
theorem keys_payload (fields : RecordFields) :
    (fields.payload.map Prod.fst).Sublist payloadKeys := by
  simp only [RecordFields.payload, List.map_append]
  have optional (absent : Prop) [Decidable absent] (name : String) (value : Json) :
      ((if absent then [] else [(name, value)]).map Prod.fst).Sublist [name] := by
    split
    · exact List.nil_sublist _
    · exact List.Sublist.refl _
  have required := List.Sublist.refl ["audit_record_version", "server_id", "agent_id",
    "owner_id", "request_id", "response_id", "previous_audit_id", "issued_at", "status"]
  exact (((required.append (optional _ _ _)).append (optional _ _ _)).append
    (optional _ _ _)).append (optional _ _ _)

omit [Floats] in
theorem mem_payload {fields : RecordFields} {member : String × Json}
    (inPayload : member ∈ fields.payload) :
    (∃ text, member.2 = .string text) ∨ member.2 = .int fields.status ∨
      member.2 = .object fields.extra := by
  have optional (absent : Prop) [Decidable absent] (name : String) (value : Json)
      (inside : member ∈ if absent then [] else [(name, value)]) : member.2 = value := by
    split at inside
    · cases inside
    · rw [List.mem_singleton.mp inside]
  simp only [RecordFields.payload, List.mem_append] at inPayload
  rcases inPayload with (((required | principal) | session) | task) | extra
  · simp only [List.mem_cons, List.not_mem_nil, or_false] at required
    rcases required with same | same | same | same | same | same | same | same | same
    all_goals rw [same]
    all_goals first
      | exact .inl ⟨_, rfl⟩
      | exact .inr (.inl rfl)
  · exact .inl ⟨_, optional _ _ _ principal⟩
  · exact .inl ⟨_, optional _ _ _ session⟩
  · exact .inl ⟨_, optional _ _ _ task⟩
  · exact .inr (.inr (optional _ _ _ extra))

theorem held_payload {fields : RecordFields} (extra : Held (.object fields.extra)) :
    Held (.object fields.payload) := by
  apply Held.object
  · apply List.Nodup.sublist (keys_payload fields)
    decide
  · intro member inPayload
    rcases mem_payload inPayload with ⟨text, same⟩ | same | same
    · rw [same]
      exact .string text
    · rw [same]
      exact .int _
    · rw [same]
      exact extra

omit [Floats] in
theorem payload_within {limits : JsonText.Limits} {depth : Nat} {fields : RecordFields}
    (deep : depth + 1 ≤ limits.nesting)
    (extraWithin : firstExcess limits (depth + 1) (.object fields.extra) = none)
    (statusWithin : firstExcess limits (depth + 1) (.int fields.status) = none) :
    firstExcess limits depth (.object fields.payload) = none := by
  rw [firstExcess, if_neg (by omega), StandardJson.membersExcess_none]
  intro member inPayload
  rcases mem_payload inPayload with ⟨text, same⟩ | same | same
  · rw [same]
    rfl
  · rw [same]
    exact statusWithin
  · rw [same]
    exact extraWithin

theorem payload_readsBack {fields : RecordFields}
    (extra : Held (.object fields.extra))
    (extraWithin : firstExcess usualLimits 1 (.object fields.extra) = none)
    (statusWithin : firstExcess usualLimits 1 (.int fields.status) = none) :
    ReadsBack fields.payload :=
  readsBack_of_held (held_payload extra) (payload_within (by decide) extraWithin statusWithin)

/-! ## Records as bytes -/

omit [Floats] in
theorem isAscii_encode (bytes : Bytes) {character : Char}
    (member : character ∈ Base64Url.encode bytes) : character.toNat < 128 :=
  Base64Url.ascii_of_mem_alphabet character (Base64Url.mem_alphabet_of_mem_encode member)

theorem isAscii_buildRecord [Digest] (service : Option SigningService)
    (fields : RecordFields) : Text.isAscii (buildRecord service fields).jws := by
  have dot : '.'.toNat < 128 := by decide
  have segments (header payload signature : Bytes) :
      Text.isAscii (String.ofList (Base64Url.encode header ++ '.' ::
        (Base64Url.encode payload ++ '.' :: Base64Url.encode signature))) := by
    simp only [Text.isAscii, String.toList_ofList, List.all_eq_true, List.mem_append,
      List.mem_cons, decide_eq_true_eq]
    intro character member
    rcases member with inHeader | isDot | inPayload | isDot | inSignature
    · exact isAscii_encode header inHeader
    · rw [isDot]
      exact dot
    · exact isAscii_encode payload inPayload
    · rw [isDot]
      exact dot
    · exact isAscii_encode signature inSignature
  cases service with
  | none => exact segments _ _ []
  | some service =>
      simp only [buildRecord, SigningService.buildAttributionRecord, List.append_assoc,
        List.cons_append]
      exact segments _ _ _

end Agtp.Audit
