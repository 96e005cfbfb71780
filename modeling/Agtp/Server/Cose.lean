import Agtp.Foundation.JsonReading
import Agtp.Server.CborRoundTrip

/-! # COSE envelopes

Lifecycle events are signed in envelopes of a protected header, an empty unprotected one, a
payload and a signature over the header and the payload. -/

namespace Agtp.Cose

open Cbor (Value Failure encode decode)

def headerAlg : Int := 1

def headerKid : Int := 4

def headerTyp : Int := 16

def algEdDSA : Int := -8

def tagCoseSign1 : Nat := 18

def defaultTyp : String := "application/agtp-lifecycle+json"

/-- Keys that sign. What a key signs is verified under its public key, and signatures are of
a fixed length. -/
class SigningKeys (PrivateKey : Type) (PublicKey : outParam Type)
    extends SignatureScheme PublicKey where
  publicKey : PrivateKey → PublicKey
  sign : PrivateKey → Bytes → Bytes
  length_sign : ∀ key message, (sign key message).length = 64
  verifies_sign : ∀ key message,
    verifies (publicKey key) (sign key message) message = true

def protectedEntries (kid typ : String) : List (Value × Value) := [
  (.int headerAlg, .int algEdDSA),
  (.int headerKid, .text kid),
  (.int headerTyp, .text typ)]

def protectedMap (kid typ : String) : Value := .map (protectedEntries kid typ)

def sigStructure (header payload : Bytes) : Value :=
  .list [.text "Signature1", .bytes header, .bytes [], .bytes payload]

section Building

variable {PrivateKey PublicKey : Type} [SigningKeys PrivateKey PublicKey]

def buildCoseSign1 (privateKey : PrivateKey) (payload : Bytes) (kid typ : String) :
    Except Failure Bytes := do
  let header ← encode (protectedMap kid typ)
  let signed ← encode (sigStructure header payload)
  let signature := SigningKeys.sign privateKey signed
  let coseSign1 ← encode (.list [.bytes header, .map [], .bytes payload, .bytes signature])
  let head ← Cbor.encHead 6 tagCoseSign1
  return head ++ coseSign1

end Building

def envelopeParts (wrongShape : String) (decoded : Value) : Except Failure (List Value) :=
  match decoded with
  | .tag number inner =>
      if number = tagCoseSign1 then
        match inner with
        | .list parts =>
            if parts.length = 4 then .ok parts else .error (.cose wrongShape)
        | _ => .error (.cose wrongShape)
      else .error (.cose "COSE_Sign1 message is not tagged 18")
  | _ => .error (.cose "COSE_Sign1 message is not tagged 18")

/-- `type(value).__name__` and the length of a list, of what stands in an envelope's place. -/
def shapeText : Value → String
  | .list parts => s!"list len={parts.length}"
  | .null => "NoneType len=n/a"
  | .bool _ => "bool len=n/a"
  | .int _ => "int len=n/a"
  | .bytes _ => "bytes len=n/a"
  | .text _ => "str len=n/a"
  | .map _ => "dict len=n/a"
  | .tag .. => "tuple len=n/a"

def decodeHeader (stack : Nat) (header : Bytes) : Except Failure Value :=
  if header = [] then .ok (.map []) else decode stack header

def verifyCoseSign1 {PublicKey : Type} [SignatureScheme PublicKey] (stack : Nat)
    (coseBytes : Bytes) (publicKey : PublicKey) : Except Failure Value := do
  let decoded ← decode stack coseBytes
  let inner := match decoded with
    | .tag _ inner => shapeText inner
    | _ => ""
  let parts ← envelopeParts s!"COSE_Sign1 must be a 4-element array; got {inner}" decoded
  match parts with
  | [.bytes header, _, .bytes payload, .bytes signature] =>
      let signed ← encode (sigStructure header payload)
      if SignatureScheme.verifies publicKey signature signed then
        let protectedMap ← decodeHeader stack header
        match protectedMap with
        | .map entries => return .map entries
        | _ => .error (.cose "COSE_Sign1 protected header is not a map")
      else .error (.cose "COSE_Sign1 signature did not verify")
  | [.bytes _, _, .bytes _, _] =>
      .error (.cose "COSE_Sign1[3] (signature) must be a bstr")
  | [.bytes _, _, _, _] => .error (.cose "COSE_Sign1[2] (payload) must be a bstr")
  | _ => .error (.cose "COSE_Sign1[0] (protected) must be a bstr")

/-- Why an envelope is not read. What the reader does with parts that are no byte strings is
one kind. -/
inductive ParseFailure where
  | decoding (failure : Failure)
  | excess (kind : JsonText.Excess)
  | notBytes

/-- The messages of the errors of `decode` and `json.loads`. -/
class PayloadText where
  notJson : Bytes → String

/-- What a payload says. -/
def payloadJson [Floats] [PayloadText] (limits : JsonText.Limits) (payload : Bytes) :
    Except ParseFailure Json :=
  let malformed : ParseFailure :=
    .decoding <| .cose s!"COSE_Sign1 payload is not valid JSON: {PayloadText.notJson payload}"
  match Utf8.decode? payload with
  | none => .error malformed
  | some text =>
      match JsonText.loads limits text with
      | .ok value => .ok value
      | .error .malformed => .error malformed
      | .error (.excess kind) => .error (.excess kind)

def parseCosePayload [Floats] [PayloadText] (limits : JsonText.Limits) (stack : Nat)
    (coseBytes : Bytes) : Except ParseFailure (Value × Json) := do
  let parts ←
    (do
      let decoded ← decode stack coseBytes
      envelopeParts "COSE_Sign1 must be a 4-element array" decoded).mapError .decoding
  match parts with
  | [.bytes header, _, .bytes payload, _] =>
      let payload ← payloadJson limits payload
      let header ← (decodeHeader stack header).mapError .decoding
      return (header, payload)
  | _ => .error .notBytes

/-! ## Envelopes come back -/

theorem length_encHead {major argument : Nat} {head : Bytes}
    (written : Cbor.encHead major argument = .ok head) : head.length ≤ 9 := by
  unfold Cbor.encHead at written
  dsimp only at written
  split at written
  · cases written
    simp
  split at written
  · cases written
    simp
  split at written
  · cases written
    simp
  split at written
  · cases written
    simp
  split at written
  · cases written
    simp
  · cases written

theorem length_bytesOf_text {value : String}
    (short : (Utf8.encode value.toList).length < 2 ^ 64) :
    (Cbor.bytesOf (.text value)).length ≤ 9 + (Utf8.encode value.toList).length := by
  rcases Cbor.encHead_reads (show 3 < 8 by decide) short with ⟨head, written, _⟩
  have encoded : encode (.text value) = .ok (head ++ Utf8.encode value.toList) := by
    rw [encode, written]
    rfl
  have length := length_encHead written
  rw [Cbor.bytesOf_eq encoded, List.length_append]
  omega

def Fits (kid typ : String) (payload : Bytes) : Prop :=
  (Utf8.encode kid.toList).length + (Utf8.encode typ.toList).length + payload.length < 2 ^ 63

section Headers

variable {kid typ : String} (kidShort : (Utf8.encode kid.toList).length < 2 ^ 64)
  (typShort : (Utf8.encode typ.toList).length < 2 ^ 64)

include kidShort typShort

theorem supported_entries : ∀ entry ∈ protectedEntries kid typ,
    Cbor.Supported entry.1 ∧ Cbor.Supported entry.2 := by
  simp only [protectedEntries, List.forall_mem_cons, List.not_mem_nil, false_implies,
    implies_true, and_true]
  exact ⟨⟨.int (by decide) (by decide), .int (by decide) (by decide)⟩,
    ⟨.int (by decide) (by decide), .text kidShort⟩,
    ⟨.int (by decide) (by decide), .text typShort⟩⟩

theorem supported_protectedMap : Cbor.Supported (protectedMap kid typ) := by
  have three : 3 < 2 ^ 64 := by decide
  have distinct : ([some (.int 1), some (.int 4), some (.int 16)] :
      List (Option Cbor.Key)).Nodup := by decide
  have parts := supported_entries kidShort typShort
  refine .map three ?_ distinct (fun entry member => (parts entry member).1)
    (fun entry member => (parts entry member).2)
  simp [protectedEntries, Cbor.isScalar]

theorem length_protectedMap :
    (Cbor.bytesOf (protectedMap kid typ)).length ≤
      23 + (Utf8.encode kid.toList).length + (Utf8.encode typ.toList).length := by
  have kidLength := length_bytesOf_text kidShort
  have typLength := length_bytesOf_text typShort
  have algKey : (Cbor.bytesOf (.int headerAlg)).length = 1 := rfl
  have kidKey : (Cbor.bytesOf (.int headerKid)).length = 1 := rfl
  have typKey : (Cbor.bytesOf (.int headerTyp)).length = 1 := rfl
  have alg : (Cbor.bytesOf (.int algEdDSA)).length = 1 := rfl
  have headWritten : Cbor.encHead 5 (protectedEntries kid typ).length = .ok [0xA3] := rfl
  have written := Cbor.encode_map headWritten fun entry member =>
    have parts := supported_entries kidShort typShort entry member
    ⟨Cbor.readsBack_of_supported parts.1, Cbor.readsBack_of_supported parts.2⟩
  have permuted := ((List.mergeSort_perm (protectedEntries kid typ)
    Cbor.entryOrder).flatMap_right Cbor.entryBytes).length_eq
  rw [protectedMap, Cbor.bytesOf_eq written, List.length_append, permuted]
  simp only [protectedEntries, List.flatMap_cons, List.flatMap_nil, List.length_append,
    List.length_nil, List.length_cons, Cbor.entryBytes, algKey, kidKey, typKey, alg]
  omega

end Headers

theorem sortKeys_protectedMap (kid typ : String) :
    Cbor.sortKeys (protectedMap kid typ) = protectedMap kid typ := by
  rw [protectedMap, Cbor.sortKeys, Cbor.sortEntries_eq, List.mergeSort_of_pairwise]
  · rfl
  · simp only [protectedEntries, List.map_cons, List.map_nil, List.pairwise_cons,
      List.mem_cons, List.not_mem_nil, or_false, forall_eq_or_imp, forall_eq, false_implies,
      implies_true, List.Pairwise.nil, and_true]
    exact ⟨⟨rfl, rfl⟩, rfl⟩

def envelope (header payload signature : Bytes) : Value :=
  .list [.bytes header, .map [], .bytes payload, .bytes signature]

section Envelopes

variable {header payload signature : Bytes}

theorem supported_sigStructure (headerShort : header.length < 2 ^ 64)
    (payloadShort : payload.length < 2 ^ 64) :
    Cbor.Supported (sigStructure header payload) := by
  have four : 4 < 2 ^ 64 := by decide
  have context : (Utf8.encode "Signature1".toList).length < 2 ^ 64 := by decide
  unfold sigStructure
  refine .list four ?_
  simp only [List.forall_mem_cons, List.not_mem_nil, false_implies, implies_true, and_true]
  exact ⟨.text context, .bytes headerShort, .bytes (by decide), .bytes payloadShort⟩

theorem supported_envelope (headerShort : header.length < 2 ^ 64)
    (payloadShort : payload.length < 2 ^ 64) (signatureShort : signature.length < 2 ^ 64) :
    Cbor.Supported (envelope header payload signature) := by
  have four : 4 < 2 ^ 64 := by decide
  have none : 0 < 2 ^ 64 := by decide
  unfold envelope
  refine .list four ?_
  simp only [List.forall_mem_cons, List.not_mem_nil, false_implies, implies_true, and_true]
  exact ⟨.bytes headerShort, .map none nofun List.nodup_nil nofun nofun,
    .bytes payloadShort, .bytes signatureShort⟩

theorem sortKeys_envelope :
    Cbor.sortKeys (envelope header payload signature) = envelope header payload signature := by
  simp [envelope, Cbor.sortKeys, Cbor.sortItems, Cbor.sortEntries]

theorem decode_tagged {stack : Nat} (deep : 3 ≤ stack)
    (supported : Cbor.Supported (envelope header payload signature)) :
    decode stack ([0xD2] ++ Cbor.bytesOf (envelope header payload signature)) =
      .ok (.tag tagCoseSign1 (envelope header payload signature)) := by
  rcases Nat.exists_eq_add_of_le' deep with ⟨more, rfl⟩
  have reads := (Cbor.readsBack_of_supported supported).2 (more + 2) []
  have levels : Cbor.levels (envelope header payload signature) = 2 := rfl
  rw [levels, if_pos (by omega), sortKeys_envelope, List.append_nil] at reads
  have tagged : Cbor.decodeAt (more + 3)
      ([0xD2] ++ Cbor.bytesOf (envelope header payload signature)) =
        .ok (.tag tagCoseSign1 (envelope header payload signature), []) := by
    rw [Cbor.decodeAt]
    change (Cbor.decodeAt (more + 2)
      (Cbor.bytesOf (envelope header payload signature))).bind _ = _
    rw [reads]
    rfl
  rw [decode, tagged]
  rfl

end Envelopes

theorem decodeHeader_protected {kid typ : String} {stack : Nat} (deep : 3 ≤ stack)
    (supported : Cbor.Supported (protectedMap kid typ)) :
    decodeHeader stack (Cbor.bytesOf (protectedMap kid typ)) = .ok (protectedMap kid typ) := by
  have levels : Cbor.levels (protectedMap kid typ) = 2 := rfl
  have decoded := (Cbor.decode_encoded supported).2.2 stack
  rw [levels, if_pos (by omega), sortKeys_protectedMap] at decoded
  have some : Cbor.bytesOf (protectedMap kid typ) ≠ [] := by
    intro none
    rw [none, decode] at decoded
    rcases Nat.exists_eq_add_of_le' deep with ⟨more, rfl⟩
    cases decoded
  rw [decodeHeader, if_neg some, decoded]

section Keys

variable {PrivateKey PublicKey : Type} [SigningKeys PrivateKey PublicKey]

theorem buildCoseSign1_ok {kid typ : String} {payload : Bytes} (fits : Fits kid typ payload)
    (privateKey : PrivateKey) :
    let header := Cbor.bytesOf (protectedMap kid typ)
    let signature := SigningKeys.sign privateKey (Cbor.bytesOf (sigStructure header payload))
    Cbor.Supported (protectedMap kid typ) ∧ Cbor.Supported (sigStructure header payload) ∧
      Cbor.Supported (envelope header payload signature) ∧
      buildCoseSign1 privateKey payload kid typ =
        .ok ([0xD2] ++ Cbor.bytesOf (envelope header payload signature)) := by
  intro header signature
  unfold Fits at fits
  have kidShort : (Utf8.encode kid.toList).length < 2 ^ 64 := by omega
  have typShort : (Utf8.encode typ.toList).length < 2 ^ 64 := by omega
  have payloadShort : payload.length < 2 ^ 64 := by omega
  have headerShort : header.length < 2 ^ 64 := by
    have bound : header.length ≤ _ := length_protectedMap kidShort typShort
    omega
  have signatureShort : signature.length < 2 ^ 64 :=
    (SigningKeys.length_sign privateKey _).trans_lt (by decide)
  have map := supported_protectedMap kidShort typShort
  have signed := supported_sigStructure headerShort payloadShort
  have whole := supported_envelope headerShort payloadShort signatureShort
  refine ⟨map, signed, whole, ?_⟩
  unfold buildCoseSign1
  rw [(Cbor.decode_encoded map).1]
  change (encode (sigStructure header payload)).bind _ = _
  rw [(Cbor.decode_encoded signed).1]
  change (encode (envelope header payload signature)).bind _ = _
  rw [(Cbor.decode_encoded whole).1]
  rfl

theorem verifyCoseSign1_built {kid typ : String} {payload : Bytes} (fits : Fits kid typ payload)
    (privateKey : PrivateKey) {stack : Nat} (deep : 3 ≤ stack) :
    ∃ built, buildCoseSign1 privateKey payload kid typ = .ok built ∧
      verifyCoseSign1 stack built (SigningKeys.publicKey privateKey) =
        .ok (protectedMap kid typ) := by
  rcases buildCoseSign1_ok fits privateKey with ⟨map, signed, whole, built⟩
  refine ⟨_, built, ?_⟩
  unfold verifyCoseSign1
  rw [decode_tagged deep whole]
  change (encode (sigStructure (Cbor.bytesOf (protectedMap kid typ)) payload)).bind _ = _
  rw [(Cbor.decode_encoded signed).1]
  change (if SignatureScheme.verifies (SigningKeys.publicKey privateKey)
    (SigningKeys.sign privateKey _) _ = true then
      (decodeHeader stack (Cbor.bytesOf (protectedMap kid typ))).bind _ else _) = _
  rw [if_pos (SigningKeys.verifies_sign privateKey _), decodeHeader_protected deep map]
  rfl

theorem parseCosePayload_built [Floats] [PayloadText] {kid typ : String} {payload : Bytes}
    (fits : Fits kid typ payload) (privateKey : PrivateKey) (limits : JsonText.Limits)
    {stack : Nat} (deep : 3 ≤ stack) :
    ∃ built, buildCoseSign1 privateKey payload kid typ = .ok built ∧
      parseCosePayload limits stack built =
        (payloadJson limits payload).map fun said => (protectedMap kid typ, said) := by
  rcases buildCoseSign1_ok fits privateKey with ⟨map, _, whole, built⟩
  refine ⟨_, built, ?_⟩
  unfold parseCosePayload
  rw [decode_tagged deep whole]
  change (payloadJson limits payload).bind (fun said =>
    ((decodeHeader stack (Cbor.bytesOf (protectedMap kid typ))).mapError .decoding).bind
      fun header => .ok (header, said)) = _
  rw [decodeHeader_protected deep map]
  cases payloadJson limits payload <;> rfl

theorem payloadJson_text [Floats] [PayloadText] {limits : JsonText.Limits} {value : Json}
    (held : JsonText.Held value) (within : JsonText.firstExcess limits 0 value = none) :
    payloadJson limits (Utf8.encode (JsonText.text value)) = .ok value := by
  unfold payloadJson
  rw [Utf8.decode?_encode]
  dsimp only
  rw [JsonText.loads_text held, within]

end Keys

end Agtp.Cose

namespace Agtp.Cose.EnvelopeSamples

open scoped Plain
open Cbor (Value encode decode)

scoped instance : PayloadText where
  notJson := fun _ => ""

scoped instance : SigningKeys Unit Unit where
  publicKey := id
  sign _ message := (message ++ List.replicate 64 0).take 64
  verifies _ signature message :=
    decide (signature = (message ++ List.replicate 64 0).take 64)
  length_sign := fun _ message => by simp
  verifies_sign := fun _ _ => by simp

def usual : JsonText.Limits := ⟨4300, 900⟩

def bounds : Value := .map [(.int 24, .list [.int (2 ^ 64 - 1), .int (-2 ^ 64)])]

theorem fits_sample : Fits "key" defaultTyp [120] := by
  unfold Fits
  decide +kernel

end Agtp.Cose.EnvelopeSamples
