import Agtp.Foundation.Base64Url
import Agtp.Foundation.Conversions
import Mathlib.Algebra.Order.BigOperators.Group.List

/-! # Trust in issuers

Whether the key of a Genesis issuer is one of the anchors, or is published by one. Keys are
compared as texts. A key has more spellings than one, and a text may spell no key at all. -/

namespace Agtp.IssuerResolution

open Text

abbrev Members := List (String × Json)

/-! ## Keys -/

/-- What `load_pem_public_key` finds: the bytes of an Ed25519 key. The label of its block is
`PUBLIC KEY`. -/
class PemKeys where
  load : String → Option (List UInt8)
  length_load : ∀ text key, load text = some key → key.length = 32
  labelled : ∀ text key, load text = some key → ' ' ∈ text.toList

def rawKey (text : String) : Option (List UInt8) :=
  (Base64Url.decode (strip text).toList).filter fun key => key.length = 32

def keyOf [PemKeys] (text : String) : Option (List UInt8) :=
  (PemKeys.load text).or (rawKey text)

def SameKey [PemKeys] (left right : String) : Prop :=
  ∃ key, keyOf left = some key ∧ keyOf right = some key

/-! ## Resolution -/

inductive Verdict where
  | locally (entry : Members)
  | oidc (anchor jwk discovery : Members)
  | unknown

/-- The first part of the answer. -/
inductive Answer where
  | locally
  | oidc
  | unknown
deriving DecidableEq

def Verdict.answer : Verdict → Answer
  | locally _ => .locally
  | oidc _ _ _ => .oidc
  | unknown => .unknown

theorem unknown_of_answer {verdict : Verdict} (answer : verdict.answer = .unknown) :
    verdict = .unknown := by
  cases verdict <;> first | rfl | cases answer

/-- What the fetches return, be it from their caches. -/
structure Documents where
  discovery : String → Option Members
  jwks : String → Option Members

section

variable [TextOf]

def stripped (members : Members) (name : String) : String :=
  strip (Json.textOr members name "")

def holdsText (members : Members) (name text : String) : Bool :=
  match Json.get members name with
  | .string value => value == text
  | _ => false

def jwkToEd25519 (jwk : Members) : Option String :=
  if holdsText jwk "kty" "OKP" && holdsText jwk "crv" "Ed25519" then
    match Json.get jwk "x" with
    | .string x =>
        if x = "" then none else some (String.ofList (x.toList.rdropWhile (· = '=')))
    | _ => none
  else none

/-- The first part of `_check_oidc_anchor`: the discovery document and the keys. -/
def reach (documents : Documents) (anchor : Members) : Option (Members × List Json) := do
  guard (stripped anchor "discovery_url" ≠ "")
  let discovery ← documents.discovery (stripped anchor "discovery_url")
  guard (discovery ≠ [])
  guard (stripped anchor "trusted_issuer" = "" ∨
    stripped discovery "issuer" = stripped anchor "trusted_issuer")
  guard (stripped discovery "jwks_uri" ≠ "")
  let jwks ← documents.jwks (stripped discovery "jwks_uri")
  guard (jwks ≠ [])
  match Json.getOr jwks "keys" (.array []) with
  | .array keys => return (discovery, keys)
  | _ => none

def matchJwk (target : String) (anchor discovery : Members) : Json → Option Verdict
  | .object jwk =>
      if jwkToEd25519 jwk = some target then some (.oidc anchor jwk discovery) else none
  | _ => none

def matchLocal (target : String) : Json → Option Verdict
  | .object anchor =>
      if holdsText anchor "type" "key" && stripped anchor "value" = target then
        some (.locally anchor)
      else none
  | _ => none

def matchOidc (documents : Documents) (target : String) : Json → Option Verdict
  | .object anchor =>
      if holdsText anchor "type" "oidc" then
        match reach documents anchor with
        | some (discovery, keys) => keys.findSome? (matchJwk target anchor discovery)
        | none => none
      else none
  | _ => none

def resolveIssuerTrust (documents : Documents) (anchors : List Json) (issuerKey : String) :
    Verdict :=
  if issuerKey = "" then .unknown
  else
    match anchors.findSome? (matchLocal (strip issuerKey)) with
    | some verdict => verdict
    | none => (anchors.findSome? (matchOidc documents (strip issuerKey))).getD .unknown

/-! ## What is trusted -/

def Offered (documents : Documents) (anchors : List Json) (text : String) : Prop :=
  ∃ anchor, .object anchor ∈ anchors ∧
    (holdsText anchor "type" "key" = true ∧ stripped anchor "value" = text ∨
      holdsText anchor "type" "oidc" = true ∧ ∃ discovery keys,
        reach documents anchor = some (discovery, keys) ∧
          ∃ jwk, .object jwk ∈ keys ∧ jwkToEd25519 jwk = some text)

def Verdict.Grounds (documents : Documents) (anchors : List Json) (text : String) :
    Verdict → Prop
  | .unknown => False
  | .locally entry => .object entry ∈ anchors ∧ holdsText entry "type" "key" = true ∧
      stripped entry "value" = text
  | .oidc anchor jwk discovery => .object anchor ∈ anchors ∧
      holdsText anchor "type" "oidc" = true ∧ jwkToEd25519 jwk = some text ∧
      ∃ keys, reach documents anchor = some (discovery, keys) ∧ .object jwk ∈ keys

section Resolved

variable {documents : Documents} {anchors : List Json} {text issuerKey : String}
  {verdict : Verdict} {anchor : Json}

theorem grounds_of_local (member : anchor ∈ anchors)
    (matched : matchLocal text anchor = some verdict) :
    verdict.Grounds documents anchors text := by
  cases anchor with
  | object anchor =>
      simp only [matchLocal] at matched
      split at matched
      · next equal =>
          cases matched
          rw [Bool.and_eq_true, decide_eq_true_eq] at equal
          exact ⟨member, equal.1, equal.2⟩
      · cases matched
  | _ => cases matched

theorem grounds_of_oidc (member : anchor ∈ anchors)
    (matched : matchOidc documents text anchor = some verdict) :
    verdict.Grounds documents anchors text := by
  cases anchor with
  | object anchor =>
      simp only [matchOidc] at matched
      split at matched
      · next kind =>
          split at matched
          · next discovery keys reached =>
              rcases List.exists_of_findSome?_eq_some matched with ⟨jwk, published, equal⟩
              cases jwk with
              | object jwk =>
                  simp only [matchJwk] at equal
                  split at equal
                  · next same =>
                      cases equal
                      exact ⟨member, kind, same, keys, reached, published⟩
                  · cases equal
              | _ => cases equal
          · cases matched
      · cases matched
  | _ => cases matched

theorem Verdict.Grounds.offered (grounds : verdict.Grounds documents anchors text) :
    Offered documents anchors text := by
  cases verdict with
  | unknown => exact grounds.elim
  | locally entry => exact ⟨entry, grounds.1, .inl grounds.2⟩
  | oidc anchor jwk discovery =>
      rcases grounds with ⟨member, kind, same, keys, reached, published⟩
      exact ⟨anchor, member, .inr ⟨kind, discovery, keys, reached, jwk, published, same⟩⟩

theorem resolve_cases (given : issuerKey ≠ "") :
    (resolveIssuerTrust documents anchors issuerKey).Grounds documents anchors
        (strip issuerKey) ∨
      resolveIssuerTrust documents anchors issuerKey = .unknown ∧
        ¬ Offered documents anchors (strip issuerKey) := by
  simp only [resolveIssuerTrust, if_neg given]
  cases local_ : anchors.findSome? (matchLocal (strip issuerKey)) with
  | some verdict =>
      rcases List.exists_of_findSome?_eq_some local_ with ⟨anchor, member, matched⟩
      exact .inl (grounds_of_local member matched)
  | none =>
      cases oidc : anchors.findSome? (matchOidc documents (strip issuerKey)) with
      | some verdict =>
          rcases List.exists_of_findSome?_eq_some oidc with ⟨anchor, member, matched⟩
          exact .inl (grounds_of_oidc member matched)
      | none =>
          refine .inr ⟨rfl, ?_⟩
          intro ⟨anchor, member, offer⟩
          rcases offer with ⟨kind, equal⟩ | ⟨kind, discovery, keys, reached, jwk, published, same⟩
          · have missed := List.findSome?_eq_none_iff.mp local_ _ member
            simp [matchLocal, kind, equal] at missed
          · have missed := List.findSome?_eq_none_iff.mp oidc _ member
            simp only [matchOidc, kind, if_true, reached] at missed
            have other := List.findSome?_eq_none_iff.mp missed _ published
            simp [matchJwk, same] at other

theorem unknown_iff (given : issuerKey ≠ "") :
    resolveIssuerTrust documents anchors issuerKey = .unknown ↔
      ¬ Offered documents anchors (strip issuerKey) := by
  rcases resolve_cases given with grounds | ⟨unknown, nothing⟩
  · refine iff_of_false ?_ (not_not.mpr grounds.offered)
    intro unknown
    rw [unknown] at grounds
    exact grounds
  · exact iff_of_true unknown nothing

end Resolved

/-! ## Spellings -/

def paddedSpelling (key : List UInt8) (pads : Nat) : String :=
  String.ofList (Base64Url.encode key ++ List.replicate (pads + 1) '=')

omit [TextOf] in
theorem solid_paddedSpelling (key : List UInt8) (pads : Nat) :
    ∀ character ∈ (paddedSpelling key pads).toList, isSpace character = false := by
  intro character member
  rw [paddedSpelling, String.toList_ofList] at member
  rcases List.mem_append.mp member with letter | pad
  · have solid : (Base64Url.alphabet.all fun symbol => !isSpace symbol) = true := by
      decide +kernel
    have held := List.all_eq_true.mp solid character (Base64Url.mem_alphabet_of_mem_encode letter)
    rwa [Bool.not_eq_true'] at held
  · rw [List.eq_of_mem_replicate pad]
    rfl

omit [TextOf] in
theorem strip_paddedSpelling (key : List UInt8) (pads : Nat) :
    strip (paddedSpelling key pads) = paddedSpelling key pads :=
  strip_solid (solid_paddedSpelling key pads)

omit [TextOf] in
theorem rawKey_paddedSpelling {key : List UInt8} (whole : key.length = 32) (pads : Nat) :
    rawKey (paddedSpelling key pads) = some key := by
  have ascii : (paddedSpelling key pads).toList.all (·.toNat < 128) = true := by
    apply List.all_eq_true.mpr
    intro character member
    rw [paddedSpelling, String.toList_ofList] at member
    rcases List.mem_append.mp member with letter | pad
    · exact decide_eq_true (Base64Url.ascii_of_mem_alphabet character
        (Base64Url.mem_alphabet_of_mem_encode letter))
    · rw [List.eq_of_mem_replicate pad]
      rfl
  have decoded : Base64Url.decode (paddedSpelling key pads).toList = some key := by
    rw [Base64Url.decode, if_pos ascii, Base64Url.decodePadded, paddedSpelling,
      String.toList_ofList, List.append_assoc, List.replicate_succ, List.cons_append]
    exact Base64Url.decodeFrom_padded key _ (by rw [whole])
  rw [rawKey, strip_paddedSpelling, decoded, Option.filter_some, if_pos (by simpa using whole)]

def valueLength : Json → Nat
  | .object anchor => (stripped anchor "value").length
  | _ => 0

theorem exists_not_offered (documents : Documents) (anchors : List Json) (key : List UInt8) :
    ∃ pads, ¬ Offered documents anchors (paddedSpelling key pads) := by
  refine ⟨(anchors.map valueLength).sum, ?_⟩
  rintro ⟨anchor, member, offer⟩
  rcases offer with ⟨_, equal⟩ | ⟨_, _, _, _, jwk, _, same⟩
  · have bound : valueLength (.object anchor) ≤ (anchors.map valueLength).sum :=
      List.single_le_sum (fun _ _ => Nat.zero_le _) _ (List.mem_map_of_mem member)
    have length : valueLength (.object anchor) = (Base64Url.encode key).length +
        ((anchors.map valueLength).sum + 1) := by
      simp [valueLength, equal, paddedSpelling, String.length_ofList]
    omega
  · -- A published key has lost its pads.
    simp only [jwkToEd25519] at same
    split at same
    · split at same
      · split at same
        · cases same
        · next x _ _ =>
            have trimmed := congrArg String.toList (Option.some.inj same)
            rw [String.toList_ofList, paddedSpelling, String.toList_ofList,
              List.replicate_succ', ← List.append_assoc] at trimmed
            have again := List.rdropWhile_idempotent (fun symbol => decide (symbol = '=')) x.toList
            rw [trimmed, List.rdropWhile_concat_pos _ _ _ (by rfl)] at again
            have shorter := (List.rdropWhile_prefix (fun symbol => decide (symbol = '='))
              (Base64Url.encode key ++ List.replicate (anchors.map valueLength).sum '=')).length_le
            rw [again, List.length_append, List.length_singleton] at shorter
            omega
      · cases same
    · cases same

/-! ## Soundness and independence -/

section Judged

variable [PemKeys]

omit [TextOf] in
theorem keyOf_paddedSpelling {key : List UInt8} (whole : key.length = 32) (pads : Nat) :
    keyOf (paddedSpelling key pads) = some key := by
  cases pem : PemKeys.load (paddedSpelling key pads) with
  | none => rw [keyOf, pem, Option.none_or, rawKey_paddedSpelling whole]
  | some other =>
      have solid := solid_paddedSpelling key pads _ (PemKeys.labelled _ _ pem)
      cases solid

omit [TextOf] in
theorem length_keyOf {text : String} {key : List UInt8} (spells : keyOf text = some key) :
    key.length = 32 := by
  rcases Option.or_eq_some_iff.mp spells with pem | ⟨_, raw⟩
  · exact PemKeys.length_load text key pem
  · exact of_decide_eq_true (Option.filter_eq_some_iff.mp raw).2

omit [TextOf] in
theorem keyOf_empty : keyOf "" = none := by
  have raw : rawKey "" = none := by decide +kernel
  cases pem : PemKeys.load "" with
  | none => rw [keyOf, pem, raw, Option.none_or]
  | some key => cases PemKeys.labelled _ _ pem

omit [TextOf] in
theorem SameKey.trans {first second third : String} (left : SameKey first second)
    (right : SameKey second third) : SameKey first third := by
  rcases left with ⟨key, spelled, shared⟩
  rcases right with ⟨other, sharedOther, spells⟩
  rw [shared] at sharedOther
  cases sharedOther
  exact ⟨key, spelled, spells⟩

/-- The matching text spells the key of the target. -/
def Sound (documents : Documents) (anchors : List Json) (issuerKey : String) : Prop :=
  match resolveIssuerTrust documents anchors issuerKey with
  | .unknown => True
  | .locally entry => .object entry ∈ anchors ∧
      SameKey (strip issuerKey) (stripped entry "value")
  | .oidc anchor jwk discovery => .object anchor ∈ anchors ∧
      (∃ published, jwkToEd25519 jwk = some published ∧ SameKey (strip issuerKey) published) ∧
      (stripped anchor "trusted_issuer" ≠ "" →
        stripped discovery "issuer" = stripped anchor "trusted_issuer")

def Respelled (anchors others : List Json) : Prop :=
  List.Forall₂ (fun anchor other => anchor = other ∨ ∃ entry otherEntry,
    anchor = .object entry ∧ other = .object otherEntry ∧
      holdsText entry "type" "key" = true ∧ holdsText otherEntry "type" "key" = true ∧
      SameKey (stripped entry "value") (stripped otherEntry "value")) anchors others

def Independent (documents : Documents) (anchors : List Json) (issuerKey : String) : Prop :=
  ∀ others other, Respelled anchors others → SameKey (strip issuerKey) (strip other) →
    (resolveIssuerTrust documents others other).answer =
      (resolveIssuerTrust documents anchors issuerKey).answer

theorem Respelled.refl (anchors : List Json) : Respelled anchors anchors :=
  List.forall₂_same.mpr fun _ _ => .inl rfl

theorem offered_of_respelled {documents : Documents} {anchors others : List Json} {text : String}
    (respelled : Respelled anchors others) (offered : Offered documents others text) :
    Offered documents anchors text ∨ ∃ original, Offered documents anchors original ∧
      strip original = original ∧ SameKey original text := by
  rcases offered with ⟨otherEntry, member, offer⟩
  rcases List.mem_iff_getElem.mp member with ⟨index, bound, held⟩
  have within : index < anchors.length := respelled.length_eq ▸ bound
  have related := respelled.get within bound
  rw [List.get_eq_getElem, List.get_eq_getElem, held] at related
  have original : anchors[index] ∈ anchors := List.getElem_mem within
  rcases related with same | ⟨entry, _, there, ⟨⟩, kind, otherKind, keys⟩
  · exact .inl ⟨otherEntry, same ▸ original, offer⟩
  · rw [there] at original
    rcases offer with ⟨_, equal⟩ | ⟨oidc, _⟩
    · exact .inr ⟨stripped entry "value", ⟨entry, original, .inl ⟨kind, rfl⟩⟩, strip_strip _,
        equal ▸ keys⟩
    · -- An anchor is of one type.
      simp only [holdsText] at oidc otherKind
      split at oidc <;> simp_all

theorem spelled_of_sound {documents : Documents} {anchors : List Json} {issuerKey : String}
    (sound : Sound documents anchors issuerKey)
    (trusted : resolveIssuerTrust documents anchors issuerKey ≠ .unknown) :
    ∃ key, keyOf (strip issuerKey) = some key := by
  unfold Sound at sound
  split at sound
  · next unknown => exact absurd unknown trusted
  · rcases sound.2 with ⟨key, spells, _⟩
    exact ⟨key, spells⟩
  · rcases sound.2.1 with ⟨_, _, key, spells, _⟩
    exact ⟨key, spells⟩

theorem dependent_of_offered {documents : Documents} {anchors : List Json}
    {issuerKey text : String} (offered : Offered documents anchors text)
    (stable : strip text = text) (same : SameKey (strip issuerKey) text) :
    ¬ Independent documents anchors issuerKey := by
  intro independent
  rcases same with ⟨key, spelled, spells⟩
  have given : ∀ {other}, keyOf other = some key → other ≠ "" := by
    rintro _ read rfl
    rw [keyOf_empty] at read
    cases read
  rcases exists_not_offered documents anchors key with ⟨pads, hidden⟩
  have padded := keyOf_paddedSpelling (length_keyOf spells) pads
  have near := independent anchors text (.refl anchors) ⟨key, spelled, stable.symm ▸ spells⟩
  have far := independent anchors (paddedSpelling key pads) (.refl anchors)
    ⟨key, spelled, (strip_paddedSpelling key pads).symm ▸ padded⟩
  have unknown : resolveIssuerTrust documents anchors text = .unknown := by
    apply unknown_of_answer
    rw [near, ← far, (unknown_iff (given padded)).mpr]
    · rfl
    · rwa [strip_paddedSpelling]
  exact (unknown_iff (given spells)).mp unknown (stable.symm ▸ offered)

/-- Resolution is sound and independent of spellings where no anchor offers the text of
the key, or another spelling that a target can have. -/
theorem sound_independent_iff (documents : Documents) (anchors : List Json)
    (issuerKey : String) :
    Sound documents anchors issuerKey ∧ Independent documents anchors issuerKey ↔
      issuerKey = "" ∨ ∀ text, Offered documents anchors text → strip text = text →
        text ≠ strip issuerKey ∧ ¬ SameKey (strip issuerKey) text := by
  by_cases given : issuerKey = ""
  · subst given
    refine iff_of_true ⟨?_, ?_⟩ (.inl rfl)
    · simp [Sound, resolveIssuerTrust]
    · intro others other _ ⟨key, spells, _⟩
      rw [show strip "" = "" from rfl, keyOf_empty] at spells
      cases spells
  constructor
  · intro ⟨sound, independent⟩
    refine .inr fun text offered stable => ?_
    have apart : ¬ SameKey (strip issuerKey) text := fun same =>
      dependent_of_offered offered stable same independent
    refine ⟨?_, apart⟩
    rintro rfl
    have trusted : resolveIssuerTrust documents anchors issuerKey ≠ .unknown :=
      fun unknown => (unknown_iff given).mp unknown offered
    rcases spelled_of_sound sound trusted with ⟨key, spells⟩
    exact apart ⟨key, spells, spells⟩
  · intro condition
    have free := condition.resolve_left given
    have unknown : resolveIssuerTrust documents anchors issuerKey = .unknown :=
      (unknown_iff given).mpr fun offered => (free _ offered (strip_strip _)).1 rfl
    constructor
    · rw [Sound, unknown]
      trivial
    · intro others other respelled same
      suffices hidden : resolveIssuerTrust documents others other = .unknown by
        rw [hidden, unknown]
      by_cases otherGiven : other = ""
      · simp [resolveIssuerTrust, otherGiven]
      · refine (unknown_iff otherGiven).mpr fun offered => ?_
        rcases offered_of_respelled respelled offered with there | ⟨original, there, stable, keys⟩
        · exact (free _ there (strip_strip _)).2 same
        · rcases keys with ⟨key, left, right⟩
          exact (free _ there stable).2 (same.trans ⟨key, right, left⟩)

end Judged

end

namespace Samples

open scoped Plain

scoped instance : PemKeys where
  load := fun _ => none
  length_load := nofun
  labelled := nofun

def offline : Documents := ⟨fun _ => none, fun _ => none⟩

def zeros : String := "AAAAAAAAAAAAAAAAAAAAAAAAAAAAAAAAAAAAAAAAAAA"

def anchors : List Json :=
  [.object [("type", .string "key"), ("value", .string zeros)], .object [("type", .string "key")]]

theorem spellings_differ :
    ¬ Independent offline anchors zeros ∧ ¬ Sound offline anchors " " := by
  constructor
  · intro independent
    have same := independent anchors (zeros ++ "=") (.refl anchors)
      ⟨List.replicate 32 0, by decide +kernel, by decide +kernel⟩
    exact absurd same (by decide +kernel)
  · intro sound
    have trusted : resolveIssuerTrust offline anchors " " ≠ .unknown := by
      intro unknown
      exact absurd (congrArg Verdict.answer unknown) (by decide +kernel)
    rcases spelled_of_sound sound trusted with ⟨key, spells⟩
    rw [show strip " " = "" by decide, keyOf_empty] at spells
    cases spells

end Samples

end Agtp.IssuerResolution
