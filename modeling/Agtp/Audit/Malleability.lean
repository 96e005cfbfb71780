import Agtp.Audit.StandardRecords
import Agtp.Foundation.Fallible

/-! # Texts of one record

The audit id of a record is the digest of its text, and the signature is over the first two
segments of the text. -/

namespace Agtp

namespace Base64Url

theorem decodeFrom_skipped {skipped : List Char}
    (blank : ∀ symbol ∈ skipped, symbol ≠ '=' ∧ digit? symbol = none) (group : Group)
    (rest : List Char) : decodeFrom group (skipped ++ rest) = decodeFrom group rest := by
  induction skipped with
  | nil => rfl
  | cons symbol more induction =>
      rcases blank symbol List.mem_cons_self with ⟨notPad, none⟩
      rw [List.cons_append, decodeFrom, if_neg notPad, none]
      exact induction fun other member => blank other (List.mem_cons_of_mem symbol member)

def filler : List Char := ['!', '!', '!', '!']

theorem decode_filler (text : List Char) : decode (filler ++ text) = decode text := by
  have blank : ∀ symbol ∈ filler, symbol ≠ '=' ∧ digit? symbol = none := by
    intro symbol member
    have same : symbol = '!' := List.eq_of_mem_replicate (n := 4) member
    rw [same]
    exact ⟨by decide, by decide⟩
  have length : (filler ++ text).length % 4 = text.length % 4 := by
    rw [List.length_append, filler, List.length_cons, List.length_cons, List.length_cons,
      List.length_singleton]
    omega
  have ascii : (filler ++ text).all (·.toNat < 128) = text.all (·.toNat < 128) := by
    rw [List.all_append]
    exact Bool.and_eq_right_iff_imp.mpr fun _ => by decide
  rw [decode, decode, ascii, decodePadded, decodePadded, length, List.append_assoc,
    decodeFrom_skipped blank]

theorem ascii_of_decode {text : List Char} {bytes : List UInt8}
    (decoded : decode text = some bytes) : ∀ symbol ∈ text, symbol.toNat < 128 := by
  rw [decode] at decoded
  split at decoded
  · next ascii =>
      exact fun symbol member => of_decide_eq_true (List.all_eq_true.mp ascii symbol member)
  · cases decoded

end Base64Url

namespace Audit

variable [JsonCodec]

/-! ## Segments -/

def compactText (header payload signature : List Char) : String :=
  String.ofList (header ++ '.' :: (payload ++ '.' :: signature))

def segmentBytes (jws : String) : List (Option Bytes) :=
  (Text.splitCharacters '.' jws.toList).map Base64Url.decode

structure Segments (jws : String) (record : ParsedRecord) where
  header : List Char
  payload : List Char
  signature : List Char
  split : Text.splitCharacters '.' jws.toList = [header, payload, signature]
  headerRead : decodeSegment header = .ok record.header
  payloadRead : decodeSegment payload = .ok record.payload
  signatureRead : decodeSignature signature = .ok record.signature
  signed : record.signingInput = asciiBytes (String.ofList (header ++ '.' :: payload))

theorem parse_of_split {jws : String} {header payload signature : List Char}
    (split : Text.splitCharacters '.' jws.toList = [header, payload, signature]) :
    parseAttributionRecord jws = (do
      let headerRead ← decodeSegment header
      let payloadRead ← decodeSegment payload
      let signatureRead ← decodeSignature signature
      .ok ⟨headerRead, payloadRead, signatureRead,
        asciiBytes (String.ofList (header ++ '.' :: payload))⟩) := by
  rw [parseAttributionRecord, split]

theorem segments_of_parsed {jws : String} {record : ParsedRecord}
    (parsed : parseAttributionRecord jws = .ok record) : Nonempty (Segments jws record) := by
  unfold parseAttributionRecord at parsed
  split at parsed
  · next header payload signature split =>
      rcases Fallible.ok_of_bind parsed with ⟨headerRead, readHeader, parsed⟩
      rcases Fallible.ok_of_bind parsed with ⟨payloadRead, readPayload, parsed⟩
      rcases Fallible.ok_of_bind parsed with ⟨signatureRead, readSignature, parsed⟩
      cases parsed
      exact ⟨header, payload, signature, split, readHeader, readPayload, readSignature, rfl⟩
  · cases parsed

namespace Segments

variable {jws : String} {record : ParsedRecord}

omit [JsonCodec] in
theorem ascii_of_segment [JsonCodec] {segment : List Char} {value : Json}
    (read : decodeSegment segment = .ok value) : ∀ symbol ∈ segment, symbol.toNat < 128 := by
  rw [decodeSegment] at read
  split at read
  · cases read
  · next decoded => exact Base64Url.ascii_of_decode decoded

theorem ascii (segments : Segments jws record) :
    Text.isAscii (compactText segments.header segments.payload segments.signature) = true := by
  have signature : ∀ symbol ∈ segments.signature, symbol.toNat < 128 := by
    have read := segments.signatureRead
    rw [decodeSignature] at read
    split at read
    · next empty =>
        rw [empty]
        exact fun _ none => absurd none List.not_mem_nil
    · split at read
      · cases read
      · next decoded => exact Base64Url.ascii_of_decode decoded
  rw [Text.isAscii, compactText, String.toList_ofList, List.all_eq_true]
  intro symbol member
  apply decide_eq_true
  rcases List.mem_append.mp member with header | rest
  · exact ascii_of_segment segments.headerRead symbol header
  · rcases List.mem_cons.mp rest with rfl | rest
    · decide
    · rcases List.mem_append.mp rest with payload | rest
      · exact ascii_of_segment segments.payloadRead symbol payload
      · rcases List.mem_cons.mp rest with rfl | rest
        · decide
        · exact signature symbol rest

omit [JsonCodec] in
theorem text_eq [JsonCodec] (segments : Segments jws record) :
    jws = compactText segments.header segments.payload segments.signature := by
  have joined := @List.intercalate_splitOn _ jws.toList _ _ '.'
  rw [← Text.splitCharacters_eq_splitOn, segments.split] at joined
  calc jws = String.ofList jws.toList := String.ofList_toList.symm
    _ = compactText segments.header segments.payload segments.signature := by
      rw [← joined]
      simp [List.intercalate, compactText]

theorem parsed (segments : Segments jws record) : parseAttributionRecord jws = .ok record := by
  rw [parse_of_split segments.split, segments.headerRead, segments.payloadRead,
    segments.signatureRead]
  exact congrArg (fun input => Except.ok (ParsedRecord.mk record.header record.payload
    record.signature input)) segments.signed.symm

omit [JsonCodec] in
theorem dot_notMem [JsonCodec] (segments : Segments jws record) :
    '.' ∉ segments.header ∧ '.' ∉ segments.payload ∧ '.' ∉ segments.signature := by
  have solid : ∀ part ∈ [segments.header, segments.payload, segments.signature],
      '.' ∉ part := by
    rw [← segments.split]
    exact fun part member => Text.notMem_of_mem_splitCharacters member
  exact ⟨solid _ (by simp), solid _ (by simp), solid _ (by simp)⟩

def garbled (segments : Segments jws record) : String :=
  compactText segments.header segments.payload (Base64Url.filler ++ segments.signature)

theorem split_garbled (segments : Segments jws record) :
    Text.splitCharacters '.' segments.garbled.toList =
      [segments.header, segments.payload, Base64Url.filler ++ segments.signature] := by
  rcases segments.dot_notMem with ⟨header, payload, signature⟩
  have solid : '.' ∉ Base64Url.filler ++ segments.signature := by
    rw [List.mem_append]
    exact fun member => member.elim (by decide) signature
  rw [garbled, compactText, String.toList_ofList, split_segments header payload solid]

theorem parse_garbled (segments : Segments jws record) :
    parseAttributionRecord segments.garbled = .ok record := by
  have signature : decodeSignature (Base64Url.filler ++ segments.signature) =
      .ok record.signature := by
    have read := segments.signatureRead
    rw [decodeSignature] at read
    rw [decodeSignature, if_neg (by simp [Base64Url.filler]), Base64Url.decode_filler]
    split at read
    · next empty =>
        rw [← Except.ok.inj read, empty]
        rfl
    · exact read
  rw [parse_of_split segments.split_garbled, segments.headerRead, segments.payloadRead, signature]
  exact congrArg (fun input => Except.ok (ParsedRecord.mk record.header record.payload
    record.signature input)) segments.signed.symm

theorem segmentBytes_garbled (segments : Segments jws record) :
    segmentBytes segments.garbled = segmentBytes jws := by
  rw [segmentBytes, segmentBytes, segments.split_garbled, segments.split, List.map_cons,
    List.map_cons, List.map_singleton, List.map_cons, List.map_cons, List.map_singleton,
    Base64Url.decode_filler]

theorem garbled_ne (segments : Segments jws record) : segments.garbled ≠ jws := by
  intro same
  have longer := congrArg (fun text => text.toList.length) (same.trans segments.text_eq)
  simp only [garbled, compactText, String.toList_ofList, List.length_append, List.length_cons,
    Base64Url.filler, List.length_nil] at longer
  omega

end Segments

/-! ## Accepted records -/

variable {PublicKey : Type} [SignatureScheme PublicKey]

def AcceptsSigned (publicKey : PublicKey) (jws : String) : Prop :=
  (∃ payload, verifyAttributionRecord jws publicKey = .ok payload) ∧
    ∃ record members, parseAttributionRecord jws = .ok record ∧
      record.header = .object members ∧
      Json.member members "alg" = some (.string "EdDSA")

omit [SignatureScheme PublicKey] in
theorem verify_congr [SignatureScheme PublicKey] {left right : String}
    (same : parseAttributionRecord left = parseAttributionRecord right)
    (publicKey : PublicKey) :
    verifyAttributionRecord left publicKey = verifyAttributionRecord right publicKey := by
  rw [verifyAttributionRecord, verifyAttributionRecord, same]

theorem accepts_garbled {publicKey : PublicKey} {jws : String} {record : ParsedRecord}
    (segments : Segments jws record) (accepted : AcceptsSigned publicKey jws) :
    AcceptsSigned publicKey segments.garbled := by
  rcases accepted with ⟨⟨payload, verified⟩, parsedAs, members, parsed, header, signed⟩
  have same : parseAttributionRecord segments.garbled = parseAttributionRecord jws :=
    segments.parse_garbled.trans segments.parsed.symm
  exact ⟨⟨payload, verify_congr same publicKey ▸ verified⟩, parsedAs, members,
    same.trans parsed, header, signed⟩

/-- Every text that is accepted under a key has another one with the same header, payload
and signature, which is accepted under the key and has another audit id. -/
theorem signed_text_malleable [Digest] (injective : Function.Injective Digest.sha256)
    {publicKey : PublicKey} {jws : String} (accepted : AcceptsSigned publicKey jws) :
    ∃ other, AcceptsSigned publicKey other ∧ segmentBytes other = segmentBytes jws ∧
      other ≠ jws ∧ auditIdFor other ≠ auditIdFor jws := by
  rcases accepted.2 with ⟨record, _, parsed, -⟩
  rcases segments_of_parsed parsed with ⟨segments⟩
  rcases segments_of_parsed segments.parse_garbled with ⟨garbledSegments⟩
  refine ⟨segments.garbled, accepts_garbled segments accepted, segments.segmentBytes_garbled,
    segments.garbled_ne, fun sameId => segments.garbled_ne ?_⟩
  exact asciiBytes_injective (garbledSegments.text_eq ▸ garbledSegments.ascii)
    (segments.text_eq ▸ segments.ascii) (injective sameId)

omit [SignatureScheme PublicKey] in
theorem acceptsSigned_built [SignatureScheme PublicKey] [Digest] {service : SigningService}
    {publicKey : PublicKey} {fields : RecordFields}
    (verifies : ∀ message,
      SignatureScheme.verifies publicKey (service.sign message) message = true)
    (headerReads : ReadsBack (recordHeader (some service)))
    (payloadReads : ReadsBack fields.payload) :
    AcceptsSigned publicKey (service.buildAttributionRecord fields).jws := by
  rcases headerReads with ⟨headerRead, headerLoaded, sameHeader⟩
  rcases payloadReads with ⟨payloadRead, payloadLoaded, -⟩
  have alg := sameHeader "alg" "EdDSA" rfl
  have parsed : parseAttributionRecord (service.buildAttributionRecord fields).jws =
      .ok ⟨.object headerRead, .object payloadRead,
        service.sign (asciiBytes (String.ofList (encodeSegment (recordHeader (some service)) ++
          '.' :: encodeSegment fields.payload))),
        asciiBytes (String.ofList (encodeSegment (recordHeader (some service)) ++
          '.' :: encodeSegment fields.payload))⟩ := by
    have split := split_segments (dot_notMem_encodeSegment (recordHeader (some service)))
      (dot_notMem_encodeSegment fields.payload)
      (dot_notMem_encode (service.sign (asciiBytes (String.ofList (encodeSegment
        (recordHeader (some service)) ++ '.' :: encodeSegment fields.payload)))))
    rw [SigningService.buildAttributionRecord, parse_of_split (by
      rw [String.toList_ofList, List.append_assoc]
      exact split)]
    rw [decodeSegment_encodeSegment headerLoaded, decodeSegment_encodeSegment payloadLoaded,
      decodeSignature_encode]
    rfl
  refine ⟨⟨.object payloadRead, ?_⟩, _, headerRead, parsed, rfl, alg⟩
  rw [verifyAttributionRecord, parsed]
  dsimp only [bind, Except.bind]
  rw [alg]
  exact if_pos (verifies _)

end Audit

/-! ## A signed record -/

namespace MalleableSample

open Audit
open scoped Plain StandardJson

scoped instance : Digest where
  sha256 bytes := String.ofList (bytes.map fun byte => Char.ofNat byte.toNat)

theorem sha256_injective : Function.Injective Digest.sha256 := by
  intro left right same
  have texts := String.ofList_inj.mp same
  apply List.map_injective_iff.mpr _ texts
  intro first second equal
  have codes : ∀ byte : UInt8, (Char.ofNat byte.toNat).toNat = byte.toNat := by
    intro byte
    rw [Char.ofNat, dif_pos (.inl (Nat.lt_trans byte.toNat_lt (by decide)))]
    rfl
  have sameCodes := congrArg Char.toNat equal
  rw [codes, codes] at sameCodes
  exact UInt8.toNat_inj.mp sameCodes

scoped instance : SignatureScheme Unit where
  verifies _ signature message := signature = [UInt8.ofNat message.length]

def service : SigningService := ⟨"k", fun message => [UInt8.ofNat message.length]⟩

def fields : RecordFields :=
  ⟨"a", "", "", "", "", "", "", "r", "now", 200, "", []⟩

theorem accepted : AcceptsSigned () (service.buildAttributionRecord fields).jws :=
  acceptsSigned_built (fun _ => decide_eq_true rfl) (recordHeader_readsBack (some service))
    (payload_readsBack (.object (by decide) (by simp [fields])) (by decide) (by decide))

/-- The text that the service builds is not the only one of its record. -/
theorem built_text_not_unique :
    ¬∀ other, AcceptsSigned () other →
      segmentBytes other = segmentBytes (service.buildAttributionRecord fields).jws →
      other = (service.buildAttributionRecord fields).jws := by
  intro unique
  rcases accepted.2 with ⟨record, _, parsed, -⟩
  rcases segments_of_parsed parsed with ⟨segments⟩
  exact segments.garbled_ne
    (unique _ (accepts_garbled segments accepted) segments.segmentBytes_garbled)

/-- The record of this service has a second text that is accepted, with a second audit
id. -/
theorem signed_record_malleable :
    ∃ other, AcceptsSigned () other ∧
      segmentBytes other = segmentBytes (service.buildAttributionRecord fields).jws ∧
      other ≠ (service.buildAttributionRecord fields).jws ∧
      auditIdFor other ≠ auditIdFor (service.buildAttributionRecord fields).jws :=
  signed_text_malleable sha256_injective accepted

end MalleableSample

end Agtp
