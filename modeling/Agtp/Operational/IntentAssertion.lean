import Agtp.Foundation.Base64Url
import Agtp.Foundation.Platform

/-! # Intent assertions

Parsing and verifying the signed assertion that a buyer sends with a purchase. -/

namespace Agtp.Intent

/-- How verifying fails. An `IntentAssertionError` carries its reason; a
`TypeError` or a `ValueError` has none and is shown as malformed. Any other
exception is `uncaught`. -/
inductive Failure where
  | refused (reason : String)
  | uncaught
deriving DecidableEq

def leewaySeconds : Int := 60

structure ParsedAssertion where
  header : Json
  payload : Json
  signature : Bytes
  signingInput : Bytes

section Parsing

variable [JsonCodec]

def decodeSegment (segment : List Char) : Except Failure Json :=
  match Base64Url.decode segment with
  | none => .error (.refused "malformed")
  | some bytes =>
      match JsonCodec.loads bytes with
      | .error .valueError => .error (.refused "malformed")
      | .error .other => .error .uncaught
      | .ok value => .ok value

def decodeSignature (segment : List Char) : Except Failure Bytes :=
  if segment = [] then .ok []
  else
    match Base64Url.decode segment with
    | none => .error (.refused "malformed")
    | some bytes => .ok bytes

/-- `parse_intent_assertion`, which also keeps the bytes the signature is
over. -/
def parseIntentAssertion (assertion : String) : Except Failure ParsedAssertion :=
  match Text.splitCharacters '.' assertion.toList with
  | [protectedSegment, payloadSegment, signatureSegment] => do
      let header ← decodeSegment protectedSegment
      let payload ← decodeSegment payloadSegment
      let signature ← decodeSignature signatureSegment
      .ok ⟨header, payload, signature,
        asciiBytes (String.ofList (protectedSegment ++ '.' :: payloadSegment))⟩
  | _ => .error (.refused "malformed")

end Parsing

section Claims

variable [NumberText]

def intOf (value : Json) : Except Failure Int :=
  match value.toInt?, value with
  | some number, _ => .ok number
  | none, .float text =>
      .error (if text = "nan" then .refused "malformed" else .uncaught)
  | none, _ => .error (.refused "malformed")

def claim (payload : List (String × Json)) (name : String) : Option Json :=
  match Json.member payload name with
  | some .null => none
  | held => held

def checkExpiry (payload : List (String × Json)) (now : Int) : Except Failure Unit :=
  match claim payload "exp" with
  | none => .error (.refused "expired")
  | some value =>
      match intOf value with
      | .error failure => .error failure
      | .ok expiry =>
          if expiry + leewaySeconds < now then .error (.refused "expired") else .ok ()

def checkNotBefore (payload : List (String × Json)) (now : Int) :
    Except Failure Unit :=
  match claim payload "nbf" with
  | none => .ok ()
  | some value =>
      match intOf value with
      | .error failure => .error failure
      | .ok start =>
          if now < start - leewaySeconds then .error (.refused "not-yet-valid")
          else .ok ()

def holdsText (payload : List (String × Json)) (name text : String) : Bool :=
  match Json.member payload name with
  | some (.string held) => held = text
  | _ => false

def checkClaims (payload : List (String × Json)) (audience merchantId : String)
    (now : Int) : Except Failure Unit := do
  checkExpiry payload now
  checkNotBefore payload now
  if !holdsText payload "aud" audience then
    .error (.refused "audience-mismatch")
  else if !holdsText payload "merchant_id" merchantId then
    .error (.refused "merchant-mismatch")
  else .ok ()

end Claims

variable [JsonCodec] [NumberText] [TextOf] {PublicKey : Type}
  [SignatureScheme PublicKey]

/-- `verify_intent_assertion`. A header or a payload that is not a dictionary
has no `get`, which raises an `AttributeError`. -/
def verifyIntentAssertion (key : PublicKey) (audience merchantId : String) (now : Int)
    (assertion : String) : Except Failure (List (String × Json)) :=
  match parseIntentAssertion assertion with
  | .error failure => .error failure
  | .ok parsed =>
      match parsed.header with
      | .object header =>
          if Json.textOr header "alg" "" ≠ "EdDSA" then .error (.refused "malformed")
          else if SignatureScheme.verifies key parsed.signature parsed.signingInput then
            match parsed.payload with
            | .object payload =>
                match checkClaims payload audience merchantId now with
                | .error failure => .error failure
                | .ok _ => .ok payload
            | _ => .error .uncaught
          else .error (.refused "invalid-signature")
      | _ => .error .uncaught

/-! ## What a verified assertion says -/

def ParsedAssertion.Signed (parsed : ParsedAssertion) (key : PublicKey) : Prop :=
  ∃ header, parsed.header = .object header ∧ Json.textOr header "alg" "" = "EdDSA" ∧
    SignatureScheme.verifies key parsed.signature parsed.signingInput = true

/-- The assertion is signed by the holder of the key, names the audience and the
merchant, and is within its times. -/
structure Genuine (key : PublicKey) (audience merchantId : String) (now : Int)
    (assertion : String) (payload : List (String × Json)) : Prop where
  signed : ∃ parsed, parseIntentAssertion assertion = .ok parsed ∧ parsed.Signed key ∧
    parsed.payload = .object payload
  unexpired : ∃ value expiry, claim payload "exp" = some value ∧
    value.toInt? = some expiry ∧ now ≤ expiry + leewaySeconds
  begun : ∀ value, claim payload "nbf" = some value →
    ∃ start, value.toInt? = some start ∧ start - leewaySeconds ≤ now
  audience : Json.member payload "aud" = some (.string audience)
  merchant : Json.member payload "merchant_id" = some (.string merchantId)

/-! ## Ways past the verifier's errors -/

def TooDeep (segment : List Char) : Prop :=
  ∃ bytes, Base64Url.decode segment = some bytes ∧
    JsonCodec.loads bytes = .error .other

def Infinite (value : Json) : Prop :=
  ∃ text, value = .float text ∧ text ≠ "nan" ∧ NumberText.intOfFloat text = none

/-- The kinds of assertion on which the verifier raises an exception that is
none of its own. Beyond `headerShape` they need the signature of the key. -/
inductive Escapes (key : PublicKey) (now : Int) (assertion : String) : Prop where
  | headerDepth {protectedSegment payloadSegment signatureSegment : List Char}
      (segments : Text.splitCharacters '.' assertion.toList =
        [protectedSegment, payloadSegment, signatureSegment])
      (deep : TooDeep protectedSegment)
  | payloadDepth {protectedSegment payloadSegment signatureSegment : List Char}
      {header : Json}
      (segments : Text.splitCharacters '.' assertion.toList =
        [protectedSegment, payloadSegment, signatureSegment])
      (read : decodeSegment protectedSegment = .ok header)
      (deep : TooDeep payloadSegment)
  | headerShape {parsed : ParsedAssertion}
      (parses : parseIntentAssertion assertion = .ok parsed)
      (shape : ∀ members, parsed.header ≠ .object members)
  | payloadShape {parsed : ParsedAssertion}
      (parses : parseIntentAssertion assertion = .ok parsed)
      (signed : parsed.Signed key)
      (shape : ∀ members, parsed.payload ≠ .object members)
  | expiry {parsed : ParsedAssertion} {payload : List (String × Json)} {value : Json}
      (parses : parseIntentAssertion assertion = .ok parsed)
      (signed : parsed.Signed key)
      (shape : parsed.payload = .object payload)
      (held : claim payload "exp" = some value) (infinite : Infinite value)
  | notBefore {parsed : ParsedAssertion} {payload : List (String × Json)}
      {expires value : Json} {expiry : Int}
      (parses : parseIntentAssertion assertion = .ok parsed)
      (signed : parsed.Signed key)
      (shape : parsed.payload = .object payload)
      (expiring : claim payload "exp" = some expires)
      (expiryRead : expires.toInt? = some expiry)
      (unexpired : now ≤ expiry + leewaySeconds)
      (held : claim payload "nbf" = some value) (infinite : Infinite value)

/-! ## Conversions -/

section Conversions

omit [JsonCodec] [TextOf]

theorem intOf_eq_ok_iff {value : Json} {number : Int} :
    intOf value = .ok number ↔ value.toInt? = some number := by
  unfold intOf
  split
  · next held => simp [held]
  · next unread => simp [unread]
  · next _ unread => simp [unread]

theorem intOf_uncaught_iff {value : Json} :
    intOf value = .error .uncaught ↔ Infinite value := by
  unfold intOf Infinite
  cases value with
  | float text =>
      simp only [Json.toInt?]
      cases held : NumberText.intOfFloat text with
      | none => by_cases isNan : text = "nan" <;> simp [isNan, held]
      | some number => simp [held]
  | string text => simp only [Json.toInt?]; cases NumberText.intOfText text <;> simp
  | _ => simp [Json.toInt?]

theorem checkExpiry_eq_ok_iff {payload : List (String × Json)} {now : Int} :
    checkExpiry payload now = .ok () ↔
      ∃ value expiry, claim payload "exp" = some value ∧
        value.toInt? = some expiry ∧ now ≤ expiry + leewaySeconds := by
  unfold checkExpiry
  cases held : claim payload "exp" with
  | none => simp
  | some value =>
      dsimp only
      cases read : intOf value with
      | error failure =>
          simp only [Option.some.injEq, reduceCtorEq, false_iff]
          rintro ⟨_, expiry, rfl, number, _⟩
          rw [intOf_eq_ok_iff.mpr number] at read
          cases read
      | ok expiry =>
          have number := intOf_eq_ok_iff.mp read
          by_cases late : expiry + leewaySeconds < now
          · simp [late, number]
          · simp [late, number, Int.not_lt.mp late]

theorem checkExpiry_uncaught_iff {payload : List (String × Json)} {now : Int} :
    checkExpiry payload now = .error .uncaught ↔
      ∃ value, claim payload "exp" = some value ∧ Infinite value := by
  unfold checkExpiry
  cases held : claim payload "exp" with
  | none => simp
  | some value =>
      dsimp only
      cases read : intOf value with
      | error failure => simp [← intOf_uncaught_iff, read]
      | ok expiry =>
          by_cases late : expiry + leewaySeconds < now <;>
            simp [late, ← intOf_uncaught_iff, read]

theorem checkNotBefore_eq_ok_iff {payload : List (String × Json)} {now : Int} :
    checkNotBefore payload now = .ok () ↔
      ∀ value, claim payload "nbf" = some value →
        ∃ start, value.toInt? = some start ∧ start - leewaySeconds ≤ now := by
  unfold checkNotBefore
  cases held : claim payload "nbf" with
  | none => simp
  | some value =>
      dsimp only
      cases read : intOf value with
      | error failure =>
          simp only [Option.some.injEq, forall_eq', reduceCtorEq, false_iff]
          rintro ⟨start, number, _⟩
          rw [intOf_eq_ok_iff.mpr number] at read
          cases read
      | ok start =>
          have number := intOf_eq_ok_iff.mp read
          by_cases early : now < start - leewaySeconds
          · have notYet : ¬start - leewaySeconds ≤ now := Int.not_le.mpr early
            simp only [early, notYet, number, if_true, reduceCtorEq, Option.some.injEq,
              forall_eq', exists_eq_left']
          · have started : start - leewaySeconds ≤ now := Int.not_lt.mp early
            simp only [early, started, number, if_false, Option.some.injEq, forall_eq',
              exists_eq_left']

theorem checkNotBefore_uncaught_iff {payload : List (String × Json)} {now : Int} :
    checkNotBefore payload now = .error .uncaught ↔
      ∃ value, claim payload "nbf" = some value ∧ Infinite value := by
  unfold checkNotBefore
  cases held : claim payload "nbf" with
  | none => simp
  | some value =>
      dsimp only
      cases read : intOf value with
      | error failure => simp [← intOf_uncaught_iff, read]
      | ok start =>
          by_cases early : now < start - leewaySeconds <;>
            simp [early, ← intOf_uncaught_iff, read]

omit [NumberText] in
theorem holdsText_iff {payload : List (String × Json)} {name text : String} :
    holdsText payload name text = true ↔
      Json.member payload name = some (.string text) := by
  unfold holdsText
  split
  · next held found => simp [found]
  · next other =>
      simp only [Bool.false_eq_true, false_iff]
      exact other text

end Conversions

section Outcomes

variable {key : PublicKey} {audience merchantId : String} {now : Int}
  {assertion : String}

omit [JsonCodec] [TextOf] in
theorem checkClaims_eq_ok_iff {payload : List (String × Json)} :
    checkClaims payload audience merchantId now = .ok () ↔
      checkExpiry payload now = .ok () ∧ checkNotBefore payload now = .ok () ∧
        holdsText payload "aud" audience = true ∧
        holdsText payload "merchant_id" merchantId = true := by
  unfold checkClaims
  cases checkExpiry payload now with
  | error failure => simp [bind, Except.bind]
  | ok _ =>
      cases checkNotBefore payload now with
      | error failure => simp [bind, Except.bind]
      | ok _ =>
          cases holdsText payload "aud" audience <;>
            cases holdsText payload "merchant_id" merchantId <;>
            simp [bind, Except.bind]

omit [JsonCodec] [TextOf] in
theorem checkClaims_uncaught_iff {payload : List (String × Json)} :
    checkClaims payload audience merchantId now = .error .uncaught ↔
      checkExpiry payload now = .error .uncaught ∨
        (checkExpiry payload now = .ok () ∧
          checkNotBefore payload now = .error .uncaught) := by
  unfold checkClaims
  cases checkExpiry payload now with
  | error failure => simp [bind, Except.bind]
  | ok _ =>
      cases checkNotBefore payload now with
      | error failure => simp [bind, Except.bind]
      | ok _ =>
          cases holdsText payload "aud" audience <;>
            cases holdsText payload "merchant_id" merchantId <;>
            simp [bind, Except.bind]

theorem verifyIntentAssertion_of_signed {parsed : ParsedAssertion}
    (parses : parseIntentAssertion assertion = .ok parsed) (signed : parsed.Signed key) :
    verifyIntentAssertion key audience merchantId now assertion =
      match parsed.payload with
      | .object payload =>
          match checkClaims payload audience merchantId now with
          | .error failure => .error failure
          | .ok _ => .ok payload
      | _ => .error .uncaught := by
  rcases signed with ⟨header, shape, algorithm, verified⟩
  simp only [verifyIntentAssertion, parses, shape, algorithm, verified, ne_eq,
    not_true_eq_false, if_false, if_true]

theorem verifyIntentAssertion_of_not_signed {parsed : ParsedAssertion}
    (parses : parseIntentAssertion assertion = .ok parsed)
    (notSigned : ¬ parsed.Signed key) {header : List (String × Json)}
    (shape : parsed.header = .object header) (audience merchantId : String)
    (now : Int) :
    ∃ reason, verifyIntentAssertion key audience merchantId now assertion =
      .error (.refused reason) := by
  unfold verifyIntentAssertion
  simp only [parses, shape]
  by_cases algorithm : Json.textOr header "alg" "" = "EdDSA"
  · rw [if_neg (not_not.mpr algorithm), if_neg]
    · exact ⟨_, rfl⟩
    · exact fun verified => notSigned ⟨header, shape, algorithm, verified⟩
  · rw [if_pos algorithm]
    exact ⟨_, rfl⟩

theorem verifyIntentAssertion_eq_ok_iff {payload : List (String × Json)} :
    verifyIntentAssertion key audience merchantId now assertion = .ok payload ↔
      Genuine key audience merchantId now assertion payload := by
  constructor
  · intro verified
    cases parses : parseIntentAssertion assertion with
    | error failure => simp [verifyIntentAssertion, parses] at verified
    | ok parsed =>
        by_cases signed : parsed.Signed key
        · rw [verifyIntentAssertion_of_signed parses signed] at verified
          split at verified
          · next held shape =>
              split at verified
              · cases verified
              · next checked =>
                  cases verified
                  rw [checkClaims_eq_ok_iff, checkExpiry_eq_ok_iff,
                    checkNotBefore_eq_ok_iff, holdsText_iff, holdsText_iff] at checked
                  rcases checked with ⟨unexpired, begun, audience, merchant⟩
                  exact ⟨⟨parsed, parses, signed, shape⟩, unexpired, begun, audience,
                    merchant⟩
          · cases verified
        · cases shape : parsed.header with
          | object header =>
              rcases verifyIntentAssertion_of_not_signed parses signed shape audience
                merchantId now with ⟨reason, refused⟩
              rw [refused] at verified
              cases verified
          | _ => simp [verifyIntentAssertion, parses, shape] at verified
  · rintro ⟨⟨parsed, parses, signed, shape⟩, unexpired, begun, audience, merchant⟩
    have checked : checkClaims payload _ _ now = .ok () :=
      checkClaims_eq_ok_iff.mpr ⟨checkExpiry_eq_ok_iff.mpr unexpired,
        checkNotBefore_eq_ok_iff.mpr begun, holdsText_iff.mpr audience,
        holdsText_iff.mpr merchant⟩
    simp only [verifyIntentAssertion_of_signed parses signed, shape, checked]

theorem Genuine.payload_eq {laterKey : PublicKey} {laterAudience laterMerchantId : String}
    {later : Int} {payload laterPayload : List (String × Json)}
    (genuine : Genuine key audience merchantId now assertion payload)
    (laterGenuine : Genuine laterKey laterAudience laterMerchantId later assertion
      laterPayload) : laterPayload = payload := by
  rcases genuine.signed with ⟨parsed, parses, _, shape⟩
  rcases laterGenuine.signed with ⟨again, parsesAgain, _, shapeAgain⟩
  cases parses.symm.trans parsesAgain
  cases shape.symm.trans shapeAgain
  rfl

omit [NumberText] [TextOf] in
theorem decodeSegment_uncaught_iff {segment : List Char} :
    decodeSegment segment = .error .uncaught ↔ TooDeep segment := by
  unfold decodeSegment TooDeep
  cases Base64Url.decode segment with
  | none => simp
  | some bytes =>
      cases read : JsonCodec.loads bytes with
      | error failure => cases failure <;> simp [read]
      | ok value => simp [read]

omit [JsonCodec] [NumberText] [TextOf] in
theorem decodeSignature_ne_uncaught (segment : List Char) :
    decodeSignature segment ≠ .error .uncaught := by
  unfold decodeSignature
  split
  · simp
  · split <;> simp

omit [NumberText] [TextOf] in
theorem parseIntentAssertion_uncaught_iff :
    parseIntentAssertion assertion = .error .uncaught ↔
      ∃ protectedSegment payloadSegment signatureSegment,
        Text.splitCharacters '.' assertion.toList =
            [protectedSegment, payloadSegment, signatureSegment] ∧
          (TooDeep protectedSegment ∨
            (∃ header, decodeSegment protectedSegment = .ok header) ∧
              TooDeep payloadSegment) := by
  unfold parseIntentAssertion
  split
  · next protectedSegment payloadSegment signatureSegment segments =>
      simp only [segments, List.cons.injEq, and_true]
      rw [show (∃ first second third, (protectedSegment = first ∧
          payloadSegment = second ∧ signatureSegment = third) ∧
            (TooDeep first ∨ (∃ header, decodeSegment first = .ok header) ∧
              TooDeep second)) ↔
          (TooDeep protectedSegment ∨
            (∃ header, decodeSegment protectedSegment = .ok header) ∧
              TooDeep payloadSegment) by
        constructor
        · rintro ⟨_, _, _, ⟨rfl, rfl, rfl⟩, deep⟩
          exact deep
        · exact fun deep => ⟨_, _, _, ⟨rfl, rfl, rfl⟩, deep⟩]
      rw [← decodeSegment_uncaught_iff, ← decodeSegment_uncaught_iff]
      cases decodeSegment protectedSegment with
      | error failure => simp [bind, Except.bind]
      | ok header =>
          cases decodeSegment payloadSegment with
          | error failure => simp [bind, Except.bind]
          | ok payload =>
              have settled := decodeSignature_ne_uncaught signatureSegment
              cases signed : decodeSignature signatureSegment with
              | error failure =>
                  rw [signed] at settled
                  simpa [bind, Except.bind] using settled
              | ok signature => simp [bind, Except.bind]
  · next other =>
      simp only [Except.error.injEq, reduceCtorEq, false_iff]
      rintro ⟨first, second, third, segments, _⟩
      exact other first second third segments

/-- The verifier raises an exception of another kind exactly on the assertions
that escape it. -/
theorem verifyIntentAssertion_uncaught_iff :
    verifyIntentAssertion key audience merchantId now assertion = .error .uncaught ↔
      Escapes key now assertion := by
  constructor
  · intro uncaught
    cases parses : parseIntentAssertion assertion with
    | error failure =>
        have same : failure = .uncaught := by
          simpa [verifyIntentAssertion, parses] using uncaught
        rw [same] at parses
        rcases parseIntentAssertion_uncaught_iff.mp parses with
          ⟨_, _, _, segments, deep | ⟨⟨header, read⟩, deep⟩⟩
        · exact .headerDepth segments deep
        · exact .payloadDepth segments read deep
    | ok parsed =>
        by_cases signed : parsed.Signed key
        · rw [verifyIntentAssertion_of_signed parses signed] at uncaught
          split at uncaught
          · next payload shape =>
              split at uncaught
              · next failure checked =>
                  cases uncaught
                  rcases checkClaims_uncaught_iff.mp checked with
                    failed | ⟨passed, failed⟩
                  · rcases checkExpiry_uncaught_iff.mp failed with
                      ⟨value, held, infinite⟩
                    exact .expiry parses signed shape held infinite
                  · rcases checkExpiry_eq_ok_iff.mp passed with
                      ⟨expires, expiry, expiring, expiryRead, unexpired⟩
                    rcases checkNotBefore_uncaught_iff.mp failed with
                      ⟨value, held, infinite⟩
                    exact .notBefore parses signed shape expiring expiryRead unexpired
                      held infinite
              · cases uncaught
          · next shape => exact .payloadShape parses signed shape
        · cases shape : parsed.header with
          | object header =>
              rcases verifyIntentAssertion_of_not_signed parses signed shape audience
                merchantId now with ⟨reason, refused⟩
              rw [refused] at uncaught
              cases uncaught
          | _ => exact .headerShape parses (by simp [shape])
  · intro escapes
    cases escapes with
    | headerDepth segments deep =>
        have parses : parseIntentAssertion assertion = .error .uncaught :=
          parseIntentAssertion_uncaught_iff.mpr ⟨_, _, _, segments, .inl deep⟩
        simp only [verifyIntentAssertion, parses]
    | payloadDepth segments read deep =>
        have parses : parseIntentAssertion assertion = .error .uncaught :=
          parseIntentAssertion_uncaught_iff.mpr
            ⟨_, _, _, segments, .inr ⟨⟨_, read⟩, deep⟩⟩
        simp only [verifyIntentAssertion, parses]
    | @headerShape parsed parses shape =>
        cases held : parsed.header with
        | object header => exact absurd held (shape header)
        | _ => simp [verifyIntentAssertion, parses, held]
    | @payloadShape parsed parses signed shape =>
        rw [verifyIntentAssertion_of_signed parses signed]
        cases held : parsed.payload with
        | object payload => exact absurd held (shape payload)
        | _ => rfl
    | @expiry parsed payload value parses signed shape held infinite =>
        have checked : checkClaims payload audience merchantId now = .error .uncaught :=
          checkClaims_uncaught_iff.mpr
            (.inl (checkExpiry_uncaught_iff.mpr ⟨value, held, infinite⟩))
        simp only [verifyIntentAssertion_of_signed parses signed, shape, checked]
    | @notBefore parsed payload expires value expiry parses signed shape expiring
        expiryRead unexpired held infinite =>
        have passed : checkExpiry payload now = .ok () :=
          checkExpiry_eq_ok_iff.mpr ⟨expires, expiry, expiring, expiryRead, unexpired⟩
        have checked : checkClaims payload audience merchantId now = .error .uncaught :=
          checkClaims_uncaught_iff.mpr
            (.inr ⟨passed, checkNotBefore_uncaught_iff.mpr ⟨value, held, infinite⟩⟩)
        simp only [verifyIntentAssertion_of_signed parses signed, shape, checked]

end Outcomes

end Agtp.Intent
