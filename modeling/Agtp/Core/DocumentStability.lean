import Agtp.Core.Document
import Agtp.Foundation.Fallible
import Agtp.Foundation.JsonPretty
import Agtp.Foundation.KeyedDict

/-! # Stable documents

Agent documents as `from_dict` leaves them, with policies that may come from a list of
pairs, and when the canonical form of a document is that of the document its text is read
as. -/

namespace Agtp

open JsonText (Held firstExcess)
open StandardJson (Loadable usualLimits sortKeys sortMembers insertMember)

/-! ## Policies -/

namespace KeyedEntries

/-- An item of a list that `dict` takes as a pair. -/
def pairOf (item : Json) : Except LoadFailure (DictKey × Json) :=
  match item.listOf with
  | .error failure => .error failure
  | .ok [key, value] =>
      match DictKey.ofJson? key with
      | some key => .ok (key, value)
      | none => .error .aborted
  | .ok _ => .error .skipped

def ofJson [Floats] : Json → Except LoadFailure KeyedEntries
  | .object members => .ok (members.map fun member => (.text member.1, member.2))
  | .array items => (items.mapM pairOf).map ofPairs
  | .string text => if text = "" then .ok [] else .error .skipped
  | _ => .error .aborted

end KeyedEntries

def Document.withPolicies [FloatText] (document : Document)
    (policies : List (String × Json)) : Document where
  toDocumentFields := { document.toDocumentFields with policies := policies }
  valid := ⟨document.valid.trustTier, document.valid.verificationPath,
    document.valid.role, document.valid.trustWarning, document.valid.trustScore⟩

structure LooseDocument [FloatText] where
  document : Document
  policies : KeyedEntries
  bare : document.policies = []

namespace LooseDocument

variable [FloatText] [TextOf] [NumberText] [Floats]

/-! ## Reading -/

/-- `dict(data.get("policies") or {})`. The older shape has no policies. -/
def policiesOf : Json → Except LoadFailure KeyedEntries
  | .object members =>
      let value := Document.field members "policies"
      if Document.isV1 members then .ok []
      else if value.truthy then KeyedEntries.ofJson value
      else .ok []
  | _ => .ok []

def fromDict (data : Json) : Except LoadFailure LooseDocument := do
  let document ← Document.fromDict data
  let policies ← policiesOf data
  return ⟨document.withPolicies [], policies, rfl⟩

/-! ## Writing -/

/-- The document with its policies under texts; of keys that are written alike, the last
one counts. -/
def flat (loose : LooseDocument) : Document :=
  loose.document.withPolicies (Dict.ofList loose.policies.members).entries

def reloaded (loose : LooseDocument) : Json := .object loose.flat.toDict

def canonicalMembers (document : Document) (excludeSignature : Bool) :
    List (String × Json) :=
  if excludeSignature then document.toDict.filter (·.1 ≠ "manifest_signature")
  else document.toDict

def canonicalPolicies (inOrder : KeyedEntries) : Json :=
  .object (inOrder.members.map fun member => (member.1, sortKeys member.2))

/-- What `to_canonical_json` writes; `none` is the `TypeError` of keys that cannot be
sorted. -/
def canonicalForm (loose : LooseDocument) (excludeSignature : Bool) : Option Json :=
  let others := sortMembers (canonicalMembers loose.document excludeSignature)
  if loose.policies = [] then some (.object others)
  else loose.policies.sorted.map fun inOrder =>
    .object (insertMember ("policies", canonicalPolicies inOrder) others)

def canonicalJson (loose : LooseDocument) (excludeSignature : Bool) : Option (List Char) :=
  (loose.canonicalForm excludeSignature).map JsonText.text

def fingerprint [Digest] (loose : LooseDocument) : Option String :=
  (loose.canonicalJson false).map fun text => Digest.sha256 (Utf8.encode text)

/-! ## Signing -/

end LooseDocument

/-- The registrar's Ed25519 keys, with the PEM text of the public half. -/
class RegistrarKeys (PrivateKey : Type) extends ManifestKeys where
  publicPem : PrivateKey → String
  sign : PrivateKey → Bytes → Bytes
  publicPem_ne : ∀ key, publicPem key ≠ ""
  length_sign : ∀ key message, (sign key message).length = 64
  verifies_sign : ∀ key message, verifies (publicPem key) (sign key message) message = true

namespace LooseDocument

section Signing

variable [FloatText] [Floats]

def attest (loose : LooseDocument) (issuer publicKey signature : String) : LooseDocument where
  document := {
    toDocumentFields := { loose.document.toDocumentFields with
      manifestIssuer := issuer
      manifestIssuerPublicKey := publicKey
      manifestSignature := signature }
    valid := ⟨loose.document.valid.trustTier, loose.document.valid.verificationPath,
      loose.document.valid.role, loose.document.valid.trustWarning,
      loose.document.valid.trustScore⟩ }
  policies := loose.policies
  bare := loose.bare

def signManifest {PrivateKey : Type} [RegistrarKeys PrivateKey] (issuer : String)
    (key : PrivateKey) (loose : LooseDocument) : Option LooseDocument :=
  let publicKey := RegistrarKeys.publicPem key
  ((loose.attest issuer publicKey "").canonicalJson true).map fun text =>
    loose.attest issuer publicKey
      (String.ofList (Base64Url.encode (RegistrarKeys.sign key (Utf8.encode text))))

def verifyManifestSignature [ManifestKeys] (loose : LooseDocument) : Bool :=
  loose.document.manifestSignature ≠ "" && loose.document.manifestIssuerPublicKey ≠ "" &&
    match Base64Url.decode loose.document.manifestSignature.toList, loose.canonicalJson true with
    | some signature, some text =>
        ManifestKeys.verifies loose.document.manifestIssuerPublicKey signature
          (Utf8.encode text)
    | _, _ => false

def lift (genesis : Genesis) (source : List (String × Json)) (loose : LooseDocument) :
    LooseDocument where
  document := loose.document.lift genesis source
  policies := loose.policies
  bare := loose.bare

end Signing

variable [FloatText] [TextOf] [NumberText] [Floats]

/-! ## Stability -/

def again (loose : LooseDocument) : LooseDocument where
  document := loose.document.settled
  policies := loose.flat.policies.map fun member => (.text member.1, member.2)
  bare := loose.bare

omit [TextOf] [NumberText] [Floats] in
theorem eq_of_fields {left right : Document}
    (same : left.toDocumentFields = right.toDocumentFields) : left = right := by
  cases left
  cases right
  cases same
  rfl

omit [TextOf] [NumberText] in
omit [Floats] in
theorem again_document (loose : LooseDocument) :
    (loose.flat.settled).withPolicies [] = loose.document.settled := by
  obtain ⟨⟨fields, valid⟩, policies, bare⟩ := loose
  cases fields
  dsimp only at bare
  subst bare
  exact eq_of_fields rfl

omit [TextOf] [NumberText] [Floats] in
theorem isV1_toDict (document : Document) : Document.isV1 document.toDict = false := by
  simp [Document.isV1, Document.present, Document.member_toDict, Document.entries]

omit [TextOf] [NumberText] in
theorem policiesOf_toDict (document : Document) :
    policiesOf (.object document.toDict) =
      .ok (document.policies.map fun member => (.text member.1, member.2)) := by
  unfold policiesOf Document.field
  dsimp only
  rw [isV1_toDict, Document.member_toDict]
  by_cases none : document.policies = []
  · simp [Document.entries, none, Json.truthy]
  · simp [Document.entries, none, Json.truthy, KeyedEntries.ofJson]

/-- What a document is written as is read as the same document, with its policies under
texts. -/
theorem fromDict_reloaded (loose : LooseDocument) :
    fromDict loose.reloaded = .ok loose.again := by
  have policies := policiesOf_toDict loose.flat
  have document := loose.again_document
  unfold fromDict reloaded again
  rw [Document.fromDict_toDict, policies]
  simp only [← document]
  rfl

/-! ## What reading leaves -/

def Inner (value : Json) : Prop := Held value ∧ firstExcess usualLimits 1 value = none

/-- What holds of policies that were read. -/
structure Sound (policies : KeyedEntries) : Prop where
  distinct : policies.Distinct
  entries : ∀ entry ∈ policies, entry.1.Held ∧ Inner entry.2

omit [FloatText] [TextOf] [NumberText] in
theorem inner_of_listOf {item : Json} {values : List Json} (inner : Inner item)
    (listed : item.listOf = .ok values) : ∀ value ∈ values, Inner value := by
  obtain ⟨held, within⟩ := inner
  have text (text : String) : Inner (.string text) := ⟨.string text, rfl⟩
  cases held with
  | array items =>
      cases listed
      rw [firstExcess] at within
      split at within
      · cases within
      · intro value member
        have own := StandardJson.itemsExcess_none.mp within value member
        exact ⟨items value member,
          StandardJson.firstExcess_shallower (items value member) (by omega) own⟩
  | string characters =>
      cases listed
      intro value member
      obtain ⟨character, _, same⟩ := List.mem_map.mp member
      rw [← same]
      exact text _
  | object distinct values =>
      cases listed
      intro value member
      obtain ⟨entry, _, same⟩ := List.mem_map.mp member
      rw [← same]
      exact text _
  | _ => cases listed

omit [FloatText] [TextOf] [NumberText] in
theorem inner_of_pairOf {item : Json} {pair : DictKey × Json} (inner : Inner item)
    (paired : KeyedEntries.pairOf item = .ok pair) : pair.1.Held ∧ Inner pair.2 := by
  unfold KeyedEntries.pairOf at paired
  split at paired
  · cases paired
  · next key value listed =>
      have parts := inner_of_listOf inner listed
      cases found : DictKey.ofJson? key with
      | none =>
          rw [found] at paired
          cases paired
      | some own =>
          rw [found] at paired
          cases paired
          refine ⟨?_, parts value (by simp)⟩
          have keyHeld := (parts key (by simp)).1
          cases keyHeld with
          | float printed =>
              cases found
              exact printed
          | array => cases found
          | object => cases found
          | _ =>
              cases found
              trivial
  · cases paired

omit [FloatText] [TextOf] [NumberText] in
theorem forall_mem_of_mapM {items : List Json} {pairs : List (DictKey × Json)}
    (inner : ∀ item ∈ items, Inner item)
    (mapped : items.mapM KeyedEntries.pairOf = .ok pairs) :
    ∀ pair ∈ pairs, pair.1.Held ∧ Inner pair.2 := by
  induction items generalizing pairs with
  | nil =>
      cases mapped
      exact fun _ none => absurd none List.not_mem_nil
  | cons item items induction =>
      rw [List.mapM_cons] at mapped
      obtain ⟨first, paired, mapped⟩ := Fallible.ok_of_bind mapped
      obtain ⟨rest, later, mapped⟩ := Fallible.ok_of_bind mapped
      cases mapped
      intro pair member
      rcases List.mem_cons.mp member with own | within
      · rw [own]
        exact inner_of_pairOf (inner item List.mem_cons_self) paired
      · exact induction (fun other member => inner other (List.mem_cons_of_mem _ member)) later
          pair within

omit [FloatText] [TextOf] [NumberText] in
theorem sound_of_ofJson {value : Json} {policies : KeyedEntries} (inner : Inner value)
    (read : KeyedEntries.ofJson value = .ok policies) : Sound policies := by
  obtain ⟨held, within⟩ := inner
  cases held with
  | object distinct values =>
      cases read
      rw [firstExcess] at within
      split at within
      · cases within
      · constructor
        · rw [KeyedEntries.Distinct, List.pairwise_map]
          rw [List.Nodup, List.pairwise_map] at distinct
          exact distinct.imp fun different => decide_eq_false different
        · intro entry member
          obtain ⟨own, member, same⟩ := List.mem_map.mp member
          rw [← same]
          have inside := StandardJson.membersExcess_none.mp within own member
          exact ⟨trivial, values own member,
            StandardJson.firstExcess_shallower (values own member) (by omega) inside⟩
  | @array items each =>
      rw [firstExcess] at within
      split at within
      · cases within
      · have inside (item : Json) (member : item ∈ items) : Inner item :=
          ⟨each item member, StandardJson.firstExcess_shallower (each item member)
            (by omega) (StandardJson.itemsExcess_none.mp within item member)⟩
        rw [KeyedEntries.ofJson] at read
        cases mapped : items.mapM KeyedEntries.pairOf with
        | error failure =>
            rw [mapped] at read
            cases read
        | ok pairs =>
            rw [mapped] at read
            cases read
            exact ⟨KeyedEntries.distinct_ofPairs pairs,
              KeyedEntries.forall_mem_ofPairs (forall_mem_of_mapM inside mapped)⟩
  | string text =>
      rw [KeyedEntries.ofJson] at read
      split at read
      · cases read
        exact ⟨.nil, fun _ none => absurd none List.not_mem_nil⟩
      · cases read
  | _ => cases read

omit [FloatText] [TextOf] [NumberText] in
theorem sound_of_policiesOf {data : Json} {policies : KeyedEntries} (loadable : Loadable data)
    (read : policiesOf data = .ok policies) : Sound policies := by
  have nothing : Sound [] := ⟨.nil, fun _ none => absurd none List.not_mem_nil⟩
  cases data with
  | object members =>
      have inner : Inner (Document.field members "policies") := by
        unfold Document.field
        cases found : Json.member members "policies" with
        | none => exact ⟨.null, rfl⟩
        | some value =>
            have member := Json.mem_of_member found
            have within := loadable.within
            rw [firstExcess, if_neg (by decide), StandardJson.membersExcess_none] at within
            cases loadable.held with
            | object distinct values => exact ⟨values _ member, within _ member⟩
      unfold policiesOf at read
      dsimp only at read
      split at read
      · cases read
        exact nothing
      · split at read
        · exact sound_of_ofJson inner read
        · cases read
          exact nothing
  | _ =>
      cases read
      exact nothing

theorem policies_of_fromDict {data : Json} {loose : LooseDocument}
    (read : fromDict data = .ok loose) : policiesOf data = .ok loose.policies := by
  unfold fromDict at read
  obtain ⟨document, _, read⟩ := Fallible.ok_of_bind read
  obtain ⟨policies, found, read⟩ := Fallible.ok_of_bind read
  cases read
  exact found

/-! ## The canonical form of what is read again -/

section Again

variable {loose : LooseDocument}

omit [TextOf] [NumberText] [Floats] in
theorem shownVersion_settled (document : Document) :
    document.settled.shownVersion = document.shownVersion := by
  unfold Document.shownVersion Document.settled
  by_cases migrated : document.documentVersion = "v1-migrated"
  · simp [Document.shownVersion, migrated]
  · simp [Document.shownVersion, migrated]

omit [TextOf] [NumberText] [Floats] in
theorem toDict_settled (document : Document) : document.settled.toDict = document.toDict := by
  unfold Document.toDict Document.entries
  rw [shownVersion_settled]
  rfl

omit [FloatText] [TextOf] [NumberText] [Floats] in
theorem members_texts (members : List (String × Json)) :
    KeyedEntries.members (members.map fun member => (.text member.1, member.2)) = members := by
  rw [KeyedEntries.members, List.map_map]
  exact List.map_id members

omit [FloatText] [TextOf] [NumberText] [Floats] in
theorem isText_texts (members : List (String × Json)) :
    ∀ entry ∈ members.map fun member => (DictKey.text member.1, member.2),
      entry.1.isText = true := by
  intro entry member
  obtain ⟨own, _, same⟩ := List.mem_map.mp member
  rw [← same]
  rfl

omit [TextOf] [NumberText] [Floats] in
theorem again_again (loose : LooseDocument) : loose.again.again = loose.again := by
  have document : loose.again.document.settled = loose.again.document := by
    apply eq_of_fields
    exact congrArg (fun version => { loose.document.toDocumentFields with
      documentVersion := version }) (shownVersion_settled loose.document)
  have policies : loose.again.flat.policies = loose.flat.policies := by
    have texts : loose.again.policies.members = loose.flat.policies := members_texts _
    unfold flat Document.withPolicies
    dsimp only
    rw [texts]
    exact congrArg Dict.entries (Dict.ofList_entries _)
  have parts {left right : LooseDocument} (document : left.document = right.document)
      (policies : left.policies = right.policies) : left = right := by
    cases left
    cases right
    cases document
    cases policies
    rfl
  apply parts document
  exact congrArg (List.map fun member => (DictKey.text member.1, member.2)) policies

omit [TextOf] [NumberText] in
theorem again_policies (sound : Sound loose.policies) {inOrder : KeyedEntries}
    (sorts : loose.policies.sorted = some inOrder) :
    loose.again.policies =
      loose.policies.members.map fun member => (.text member.1, member.2) := by
  have distinct := KeyedEntries.nodup_of_sorted sound.distinct
    (fun entry member => (sound.entries entry member).1) sorts
  have permuted : (inOrder.members.map Prod.fst).Perm (loose.policies.members.map Prod.fst) :=
    ((KeyedEntries.perm_sorted sorts).map _).map _
  have written := congrArg Dict.entries
    (Dict.ofList_entries ⟨loose.policies.members, permuted.nodup_iff.mp distinct⟩)
  unfold again flat Document.withPolicies
  dsimp only
  rw [written]

omit [TextOf] [NumberText] in
theorem sound_again (sound : Sound loose.policies) {inOrder : KeyedEntries}
    (sorts : loose.policies.sorted = some inOrder) : Sound loose.again.policies := by
  have distinct := KeyedEntries.nodup_of_sorted sound.distinct
    (fun entry member => (sound.entries entry member).1) sorts
  have permuted : (inOrder.members.map Prod.fst).Perm (loose.policies.members.map Prod.fst) :=
    ((KeyedEntries.perm_sorted sorts).map _).map _
  rw [again_policies sound sorts]
  constructor
  · rw [KeyedEntries.Distinct, List.pairwise_map]
    have apart := permuted.nodup_iff.mp distinct
    rw [List.Nodup, List.pairwise_map] at apart
    exact apart.imp fun different => decide_eq_false different
  · intro entry member
    obtain ⟨written, writtenMember, same⟩ := List.mem_map.mp member
    obtain ⟨own, ownMember, sameOwn⟩ := List.mem_map.mp writtenMember
    rw [← same, ← sameOwn]
    exact ⟨trivial, (sound.entries own ownMember).2⟩

omit [TextOf] [NumberText] [Floats] in
theorem canonicalMembers_again (loose : LooseDocument) (excludeSignature : Bool) :
    canonicalMembers loose.again.document excludeSignature =
      canonicalMembers loose.document excludeSignature := by
  unfold canonicalMembers
  change (if excludeSignature = true then loose.document.settled.toDict.filter _
    else loose.document.settled.toDict) = _
  rw [toDict_settled]

omit [TextOf] [NumberText] in
theorem canonicalForm_again (sound : Sound loose.policies) (orderly : loose.policies.Orderly)
    (excludeSignature : Bool) :
    loose.again.canonicalForm excludeSignature = loose.canonicalForm excludeSignature := by
  obtain ⟨inOrder, sorts, order⟩ := orderly
  have written := again_policies sound sorts
  unfold canonicalForm
  rw [canonicalMembers_again]
  by_cases none : loose.policies = []
  · have noneAgain : loose.again.policies = [] := by
      rw [written, none]
      rfl
    rw [if_pos none, if_pos noneAgain]
  · have someAgain : loose.again.policies ≠ [] := by
      rw [written]
      simpa [KeyedEntries.members] using none
    obtain ⟨inOrderAgain, sortsAgain, orderAgain⟩ :=
      KeyedEntries.orderly_of_texts (written ▸ isText_texts loose.policies.members)
    have distinct := KeyedEntries.nodup_of_sorted sound.distinct
      (fun entry member => (sound.entries entry member).1) sorts
    have members : inOrderAgain.members = inOrder.members := by
      have permuted : inOrderAgain.members.Perm loose.policies.members := by
        have own := (KeyedEntries.perm_sorted sortsAgain).map
          fun entry => (entry.1.printed, entry.2)
        rw [written] at own
        exact own.trans (.of_eq (members_texts _))
      have toOrder := permuted.trans ((KeyedEntries.perm_sorted sorts).map _).symm
      exact KeyedEntries.eq_of_order toOrder distinct orderAgain order
    rw [if_neg none, if_neg someAgain, sorts, sortsAgain, Option.map_some, Option.map_some,
      canonicalPolicies, canonicalPolicies, members]

omit [TextOf] [NumberText] in
theorem exists_canonicalJson (orderly : loose.policies.Orderly) (excludeSignature : Bool) :
    ∃ text, loose.canonicalJson excludeSignature = some text := by
  obtain ⟨inOrder, sorts, _⟩ := orderly
  unfold canonicalJson canonicalForm
  dsimp only
  split
  · exact ⟨_, rfl⟩
  · rw [sorts]
    exact ⟨_, rfl⟩

omit [TextOf] [NumberText] in
theorem canonicalJson_again (sound : Sound loose.policies) (orderly : loose.policies.Orderly)
    (excludeSignature : Bool) :
    loose.again.canonicalJson excludeSignature = loose.canonicalJson excludeSignature :=
  congrArg (Option.map JsonText.text) (canonicalForm_again sound orderly excludeSignature)

omit [FloatText] [TextOf] [NumberText] in
theorem loadable_canonicalPolicies {inOrder : KeyedEntries}
    (distinct : (inOrder.members.map Prod.fst).Nodup)
    (inner : ∀ member ∈ inOrder.members, Inner member.2) :
    Loadable (canonicalPolicies inOrder) := by
  have each : ∀ member ∈ inOrder.members.map fun member => (member.1, sortKeys member.2),
      Inner member.2 := by
    intro member within
    obtain ⟨written, writtenMember, same⟩ := List.mem_map.mp within
    obtain ⟨held, inside⟩ := inner written writtenMember
    rw [← same]
    exact ⟨StandardJson.held_sortKeys held, StandardJson.firstExcess_sortKeys held inside⟩
  constructor
  · apply Held.object
    · rw [List.map_map]
      exact distinct
    · exact fun member within => (each member within).1
  · rw [canonicalPolicies, firstExcess, if_neg (by decide), StandardJson.membersExcess_none]
    exact fun member within => (each member within).2

omit [TextOf] [NumberText] in
theorem orderly_of_canonicalJson (sound : Sound loose.policies) {text : List Char}
    (first : loose.canonicalJson false = some text)
    (second : loose.again.canonicalJson false = some text) : loose.policies.Orderly := by
  by_cases none : loose.policies = []
  · rw [none]
    exact KeyedEntries.orderly_of_texts fun _ none => absurd none List.not_mem_nil
  cases sorts : loose.policies.sorted with
  | none =>
      rw [canonicalJson, canonicalForm, if_neg none, sorts] at first
      cases first
  | some inOrder =>
      have written := again_policies sound sorts
      have someAgain : loose.again.policies ≠ [] := by
        rw [written]
        simpa [KeyedEntries.members] using none
      obtain ⟨inOrderAgain, sortsAgain, orderAgain⟩ :=
        KeyedEntries.orderly_of_texts (written ▸ isText_texts loose.policies.members)
      rw [canonicalJson, canonicalForm, if_neg none, sorts] at first
      rw [canonicalJson, canonicalForm, if_neg someAgain, sortsAgain,
        canonicalMembers_again] at second
      have texts := StandardJson.text_of_insertMember
        ((Option.some.inj first).trans (Option.some.inj second).symm)
      have distinct := KeyedEntries.nodup_of_sorted sound.distinct
        (fun entry member => (sound.entries entry member).1) sorts
      have inner : ∀ member ∈ inOrder.members, Inner member.2 := by
        intro member within
        obtain ⟨entry, own, same⟩ := List.mem_map.mp within
        rw [← same]
        exact (sound.entries entry ((KeyedEntries.perm_sorted sorts).subset own)).2
      have loadable := loadable_canonicalPolicies distinct inner
      have permuted : inOrderAgain.members.Perm inOrder.members := by
        have own := (KeyedEntries.perm_sorted sortsAgain).map
          fun entry => (entry.1.printed, entry.2)
        rw [written] at own
        exact (own.trans (.of_eq (members_texts _))).trans
          ((KeyedEntries.perm_sorted sorts).map _).symm
      have loadableAgain := loadable_canonicalPolicies
        ((permuted.map Prod.fst).nodup_iff.mpr distinct)
        fun member own => inner member (permuted.subset own)
      have same : canonicalPolicies inOrder = canonicalPolicies inOrderAgain := by
        have reads {value : Json} (loadable : Loadable value) :
            JsonText.loads usualLimits (JsonText.text value) = .ok value := by
          rw [JsonText.loads_text loadable.held, loadable.within]
        have read := reads loadable
        rw [texts, reads loadableAgain] at read
        exact (Except.ok.inj read).symm
      have keys : inOrder.members.map Prod.fst = inOrderAgain.members.map Prod.fst := by
        have members := congrArg (List.map Prod.fst) (Json.object.inj same)
        rwa [List.map_map, List.map_map] at members
      refine ⟨inOrder, sorts, ?_⟩
      have ordered := List.pairwise_map (f := Prod.fst).mpr orderAgain
      rw [← keys] at ordered
      exact List.pairwise_map.mp ordered

end Again

/-! ## Stable documents -/

/-- What is read again has the same id, the same canonical texts and the same fingerprint,
and it stays as it is when it is read once more. -/
structure Settles [Digest] (loose : LooseDocument) : Prop where
  reads : ∃ again, fromDict loose.reloaded = .ok again ∧
    again.document.agentId = loose.document.agentId ∧
    (∀ excludeSignature, ∃ text, loose.canonicalJson excludeSignature = some text ∧
      again.canonicalJson excludeSignature = some text) ∧
    (∃ fingerprint, loose.fingerprint = some fingerprint ∧
      again.fingerprint = some fingerprint) ∧
    fromDict again.reloaded = .ok again

/-- The document that the registrar signs verifies where it is loaded, under the registrar's
fingerprint, and whatever Genesis it is hosted with, clients compute the fingerprint of the
hosted document from what they are served. -/
structure Attests (PrivateKey : Type) [RegistrarKeys PrivateKey] [Digest]
    (loose : LooseDocument) : Prop where
  loads : ∀ (issuer : String) (key : PrivateKey), ∃ signed loaded fingerprint,
    loose.signManifest issuer key = some signed ∧
    fromDict signed.reloaded = .ok loaded ∧ loaded.verifyManifestSignature = true ∧
    signed.fingerprint = some fingerprint ∧ loaded.fingerprint = some fingerprint ∧
    ∀ hosted, hosted = loaded ∨ (∃ genesis source, hosted = loaded.lift genesis source) →
      ∃ served fingerprint, fromDict hosted.reloaded = .ok served ∧
        hosted.fingerprint = some fingerprint ∧ served.fingerprint = some fingerprint

/-- The policies of the data, as a dictionary, have keys that Python sorts in the order of
their texts. -/
def InOrder (data : Json) : Prop :=
  ∃ policies, policiesOf data = .ok policies ∧ policies.Orderly

section Stable

variable {loose : LooseDocument} [Digest]

omit [TextOf] [NumberText] in
theorem fingerprint_again (sound : Sound loose.policies) (orderly : loose.policies.Orderly) :
    ∃ fingerprint, loose.fingerprint = some fingerprint ∧
      loose.again.fingerprint = some fingerprint := by
  obtain ⟨text, written⟩ := exists_canonicalJson orderly false
  have writtenAgain := (canonicalJson_again sound orderly false).trans written
  exact ⟨Digest.sha256 (Utf8.encode text), congrArg _ written, congrArg _ writtenAgain⟩

theorem settles_of_orderly (sound : Sound loose.policies) (orderly : loose.policies.Orderly) :
    loose.Settles := by
  constructor
  refine ⟨loose.again, fromDict_reloaded loose, rfl, ?_, fingerprint_again sound orderly, ?_⟩
  · intro excludeSignature
    obtain ⟨text, written⟩ := exists_canonicalJson orderly excludeSignature
    exact ⟨text, written, (canonicalJson_again sound orderly excludeSignature).trans written⟩
  · rw [fromDict_reloaded, again_again]

theorem orderly_of_settles (sound : Sound loose.policies) (settles : loose.Settles) :
    loose.policies.Orderly := by
  obtain ⟨again, read, _, texts, _⟩ := settles.reads
  rw [fromDict_reloaded] at read
  cases read
  obtain ⟨text, first, second⟩ := texts false
  exact orderly_of_canonicalJson sound first second

omit [FloatText] [TextOf] [NumberText] [Floats] [Digest] in
theorem filter_shown (name : String) (value : Option Json)
    (before after : List (String × Option Json)) :
    (Document.shown (before ++ (name, value) :: after)).filter (·.1 ≠ name) =
      (Document.shown (before ++ after)).filter (·.1 ≠ name) := by
  cases value with
  | none => simp [Document.shown, List.filterMap_append]
  | some value => simp [Document.shown, List.filterMap_append]

omit [TextOf] [NumberText] [Digest] in
theorem canonicalJson_attest (loose : LooseDocument) (issuer publicKey signature : String) :
    (loose.attest issuer publicKey signature).canonicalJson true =
      (loose.attest issuer publicKey "").canonicalJson true := by
  have members : canonicalMembers (loose.attest issuer publicKey signature).document true =
      canonicalMembers (loose.attest issuer publicKey "").document true := by
    obtain ⟨before, after, split⟩ : ∃ before after, ∀ signature,
        (loose.attest issuer publicKey signature).document.entries =
          before ++ ("manifest_signature", Document.optional signature) :: after :=
      ⟨(loose.attest issuer publicKey "").document.entries.take 22,
        (loose.attest issuer publicKey "").document.entries.drop 23, fun _ => rfl⟩
    rw [canonicalMembers, canonicalMembers, if_pos rfl, if_pos rfl, Document.toDict,
      Document.toDict, split signature, split "", filter_shown, filter_shown]
  unfold canonicalJson canonicalForm
  rw [members]
  rfl

omit [TextOf] [NumberText] [Digest] in
theorem policies_of_signManifest {PrivateKey : Type} [RegistrarKeys PrivateKey]
    {issuer : String} {key : PrivateKey} {signed : LooseDocument}
    (signs : loose.signManifest issuer key = some signed) : signed.policies = loose.policies := by
  obtain ⟨text, _, same⟩ := Option.map_eq_some_iff.mp signs
  rw [← same]
  rfl

omit [TextOf] [NumberText] [Digest] in
theorem verify_again {PrivateKey : Type} [RegistrarKeys PrivateKey] {issuer : String}
    {key : PrivateKey} {signed : LooseDocument} (sound : Sound loose.policies)
    (orderly : loose.policies.Orderly)
    (signs : loose.signManifest issuer key = some signed) :
    signed.again.verifyManifestSignature = true := by
  obtain ⟨text, written, same⟩ := Option.map_eq_some_iff.mp signs
  have attested := policies_of_signManifest signs
  have signedText : signed.again.canonicalJson true = some text := by
    rw [canonicalJson_again (attested ▸ sound) (attested ▸ orderly), ← same,
      canonicalJson_attest]
    exact written
  have signature : signed.again.document.manifestSignature = String.ofList
      (Base64Url.encode (RegistrarKeys.sign key (Utf8.encode text))) := by
    rw [← same]
    rfl
  have publicKey : signed.again.document.manifestIssuerPublicKey =
      RegistrarKeys.publicPem key := by
    rw [← same]
    rfl
  have decoded := Base64Url.decode_encode (RegistrarKeys.sign key (Utf8.encode text))
  have some : String.ofList
      (Base64Url.encode (RegistrarKeys.sign key (Utf8.encode text))) ≠ "" := by
    intro none
    have empty := congrArg String.toList none
    rw [String.toList_ofList] at empty
    rw [empty] at decoded
    have length := RegistrarKeys.length_sign key (Utf8.encode text)
    rw [← Option.some.inj decoded] at length
    cases length
  unfold verifyManifestSignature
  rw [signature, publicKey, String.toList_ofList, decoded, signedText]
  dsimp only
  rw [RegistrarKeys.verifies_sign]
  simp [some, RegistrarKeys.publicPem_ne]

theorem attests_of_orderly {PrivateKey : Type} [RegistrarKeys PrivateKey]
    (sound : Sound loose.policies) (orderly : loose.policies.Orderly) :
    loose.Attests PrivateKey := by
  constructor
  intro issuer key
  obtain ⟨signed, signs⟩ : ∃ signed, loose.signManifest issuer key = some signed := by
    have attested :
        (loose.attest issuer (RegistrarKeys.publicPem key) "").policies.Orderly := orderly
    obtain ⟨text, written⟩ := exists_canonicalJson attested true
    exact ⟨_, congrArg (Option.map _) written⟩
  have same := policies_of_signManifest signs
  have signedSound : Sound signed.policies := same ▸ sound
  have signedOrderly : signed.policies.Orderly := same ▸ orderly
  obtain ⟨fingerprint, own, again⟩ := fingerprint_again signedSound signedOrderly
  refine ⟨signed, signed.again, fingerprint, signs, fromDict_reloaded signed,
    verify_again sound orderly signs, own, again, ?_⟩
  intro hosted source
  have policies : hosted.policies = signed.again.policies := by
    rcases source with rfl | ⟨genesis, members, rfl⟩
    · rfl
    · rfl
  obtain ⟨inOrder, sorts, _⟩ := signedOrderly
  have hostedSound : Sound hosted.policies := policies ▸ sound_again signedSound sorts
  have hostedOrderly : hosted.policies.Orderly := by
    rw [policies, again_policies signedSound sorts]
    exact KeyedEntries.orderly_of_texts (isText_texts _)
  obtain ⟨hostedFingerprint, first, second⟩ := fingerprint_again hostedSound hostedOrderly
  exact ⟨hosted.again, hostedFingerprint, fromDict_reloaded hosted, first, second⟩

end Stable

end LooseDocument

end Agtp

namespace Agtp.LooseDocument.StabilitySamples

open JsonText (Held)
open StandardJson (Loadable)
open scoped Plain PlainServing

scoped instance : FloatText where
  ofInt := fun _ => none
  ofText := fun _ => none
  isUnit := fun _ => true

scoped instance : Digest where
  sha256 bytes := String.ofList (bytes.map fun byte => Char.ofNat byte.toNat)

def checksum (message : Bytes) : Bytes :=
  List.replicate 64 (message.foldl (fun sum byte => 31 * sum + byte) 7)

scoped instance : RegistrarKeys Unit where
  verifies := fun _ signature message => signature = checksum message
  publicPem := fun _ => "K"
  sign := fun _ message => checksum message
  publicPem_ne := fun _ => by decide
  length_sign := fun _ _ => List.length_replicate
  verifies_sign := fun _ _ => decide_eq_true rfl

def file (policies : Json) : Json :=
  .object [("agtp_version", .string "1.0"), ("agent_id", .string "a1"),
    ("name", .string "scout"), ("principal", .string "p"), ("principal_id", .string "p1"),
    ("description", .string ""), ("status", .string "active"), ("skills", .array []),
    ("requires", .object []), ("scopes_accepted", .array []), ("issued_at", .string "t"),
    ("issuer", .string "r"), ("trust_tier", .int 1), ("policies", policies)]

def tidy : Json :=
  file (.array [.array [.int 2, .string "b"], .array [.int 1, .string "a"]])

theorem tidy_loadable : Loadable tidy := by
  constructor
  · have pair (value : Int) (text : String) : Held (.array [.int value, .string text]) := by
      apply Held.array
      simp only [List.forall_mem_cons]
      exact ⟨.int _, .string _, fun _ none => absurd none List.not_mem_nil⟩
    have nothing : Held (.array []) := .array fun _ none => absurd none List.not_mem_nil
    apply Held.object (by decide)
    simp only [List.forall_mem_cons]
    refine ⟨.string _, .string _, .string _, .string _, .string _, .string _, .string _, nothing,
      .object .nil fun _ none => absurd none List.not_mem_nil, nothing, .string _, .string _,
      .int _, .array ?_, fun _ none => absurd none List.not_mem_nil⟩
    simp only [List.forall_mem_cons]
    exact ⟨pair 2 "b", pair 1 "a", fun _ none => absurd none List.not_mem_nil⟩
  · decide +kernel

def mixed : Json :=
  file (.array [.array [.int 10, .string "a"], .array [.int 9, .string "b"]])

def signedMixed : Option LooseDocument :=
  (fromDict mixed).toOption.bind (signManifest "r" ())

end Agtp.LooseDocument.StabilitySamples
