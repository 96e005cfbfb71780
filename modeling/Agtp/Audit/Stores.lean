import Agtp.Audit.Record

/-! # Audit stores

The two on-disk stores of the audit chain: one head file per agent and one
record file per audit id. Files are replaced atomically, so a store is what
each of its files currently holds. -/

namespace Agtp.Audit

abbrev Raises (Value : Type) := Except Unit Value

/-! ## Chain heads -/

/-- A head file, as reading it and then `json.loads` finds it. -/
inductive HeadFile where
  | missing
  | unreadable
  | undecodable
  | notJson
  | json (data : Json)

structure ChainHead where
  auditId : String
  atIso : String

def headFileName (agentId : String) : String :=
  String.ofList ((Text.strip agentId).toList.filter fun character =>
    character ≠ '/' && character ≠ '\\')

/-- What is in the chain-head directory, by file name. -/
structure AuditChainStore where
  files : String → HeadFile

namespace AuditChainStore

def empty : AuditChainStore := ⟨fun _ => .missing⟩

def headOf : HeadFile → Raises (Option ChainHead)
  | .missing => .ok none
  | .unreadable => .ok none
  | .undecodable => .error ()
  | .notJson => .ok none
  | .json (.object members) =>
      match Json.member members "last_audit_id", Json.member members "last_at" with
      | some (.string auditId), some (.string atIso) => .ok (some ⟨auditId, atIso⟩)
      | _, _ => .ok none
  | .json _ => .error ()

/-- `AuditChainStore.head`. Only a missing or malformed file counts as no
head; bytes that are not UTF-8 and JSON that is not an object raise. -/
def head (store : AuditChainStore) (agentId : String) :
    Raises (Option ChainHead) :=
  headOf (store.files (headFileName agentId))

def headJson (auditId atIso : String) : Json :=
  .object [("last_audit_id", .string auditId), ("last_at", .string atIso)]

def write (store : AuditChainStore) (agentId auditId atIso : String) :
    AuditChainStore :=
  if agentId = "" then store
  else
    ⟨fun name =>
      if name = headFileName agentId then .json (headJson auditId atIso)
      else store.files name⟩

@[simp] theorem headOf_headJson (auditId atIso : String) :
    headOf (.json (headJson auditId atIso)) = .ok (some ⟨auditId, atIso⟩) := by
  simp [headOf, headJson, Json.member]

theorem write_files_same {agentId : String} (named : agentId ≠ "")
    (store : AuditChainStore) (auditId atIso : String) :
    (store.write agentId auditId atIso).files (headFileName agentId) =
      .json (headJson auditId atIso) := by
  simp [write, named]

theorem write_files_other {agentId name : String}
    (different : name ≠ headFileName agentId) (store : AuditChainStore)
    (auditId atIso : String) :
    (store.write agentId auditId atIso).files name = store.files name := by
  unfold write
  split
  · rfl
  · simp [different]

end AuditChainStore

/-! ## Records -/

/-- A record file, as `read_text(encoding="ascii")` finds it. -/
inductive RecordFile where
  | missing
  | unreadable
  | undecodable
  | text (content : String)

def hexCharacters : List Char :=
  ['0', '1', '2', '3', '4', '5', '6', '7', '8', '9', 'a', 'b', 'c', 'd', 'e', 'f']

def isHexCharacter (character : Char) : Bool :=
  hexCharacters.contains character

def isAuditId (text : String) : Bool :=
  text.toList.length == 64 && text.toList.all isHexCharacter

variable [TextCase]

def safeAuditId (auditId : String) : Option String :=
  let text := lower (Text.strip auditId)
  if isAuditId text then some text else none

structure AuditRecordStore where
  files : String → RecordFile

namespace AuditRecordStore

def empty : AuditRecordStore := ⟨fun _ => .missing⟩

def contentOf : RecordFile → Raises (Option String)
  | .missing => .ok none
  | .unreadable => .ok none
  | .undecodable => .error ()
  | .text content => .ok (some content)

def read (store : AuditRecordStore) (auditId : String) :
    Raises (Option String) :=
  match safeAuditId auditId with
  | none => .ok none
  | some safe => contentOf (store.files safe)

def write (store : AuditRecordStore) (auditId jws : String) :
    Raises AuditRecordStore :=
  match safeAuditId auditId with
  | none => .error ()
  | some safe =>
      .ok ⟨fun name => if name = safe then .text jws else store.files name⟩

end AuditRecordStore

def AuditRecordStore.Stored (records : AuditRecordStore)
    (auditId jws : String) : Prop :=
  records.files auditId = .text jws

/-! ## Well-formed audit ids -/

omit [TextCase] in
theorem hexCharacter_plain : ∀ code < 128, isHexCharacter (Char.ofNat code) →
    Text.isSpace (Char.ofNat code) = false ∧
      (Char.ofNat code).toLower = Char.ofNat code := by
  decide +kernel

omit [TextCase] in
theorem hexCharacter_bound {character : Char}
    (hex : isHexCharacter character) : character.toNat < 128 := by
  have member : character ∈ hexCharacters := by
    simpa [isHexCharacter] using hex
  have bound : (hexCharacters.all fun digit => decide (digit.toNat < 128)) = true := by
    decide
  exact of_decide_eq_true (List.all_eq_true.mp bound character member)

omit [TextCase] in
theorem isSpace_of_hex {character : Char} (hex : isHexCharacter character) :
    Text.isSpace character = false := by
  have plain := hexCharacter_plain character.toNat (hexCharacter_bound hex)
  rw [Char.ofNat_toNat] at plain
  exact (plain hex).1

omit [TextCase] in
theorem toLower_of_hex {character : Char} (hex : isHexCharacter character) :
    character.toLower = character := by
  have plain := hexCharacter_plain character.toNat (hexCharacter_bound hex)
  rw [Char.ofNat_toNat] at plain
  exact (plain hex).2

omit [TextCase] in
theorem dropWhile_hex {characters : List Char}
    (hex : ∀ character ∈ characters, isHexCharacter character) :
    characters.dropWhile Text.isSpace = characters := by
  cases characters with
  | nil => rfl
  | cons first rest =>
      rw [List.dropWhile_cons, isSpace_of_hex (hex first (by simp))]
      rfl

theorem safeAuditId_of_isAuditId {auditId : String}
    (wellFormed : isAuditId auditId) : safeAuditId auditId = some auditId := by
  have hex : ∀ character ∈ auditId.toList, isHexCharacter character := by
    simp only [isAuditId, Bool.and_eq_true, List.all_eq_true] at wellFormed
    exact wellFormed.2
  have stripped : Text.strip auditId = auditId := by
    unfold Text.strip
    rw [dropWhile_hex hex, dropWhile_hex (by simpa using hex),
      List.reverse_reverse, String.ofList_toList]
  have ascii : Text.isAscii auditId := by
    simp only [Text.isAscii, List.all_eq_true, decide_eq_true_eq]
    exact fun character member => hexCharacter_bound (hex character member)
  have lowered : lower auditId = auditId := by
    rw [TextCase.lower_ascii auditId ascii, Text.asciiLower]
    have same : auditId.toList.map Char.toLower = auditId.toList := by
      conv => rhs; rw [← List.map_id auditId.toList]
      apply List.map_congr_left
      intro character member
      exact toLower_of_hex (hex character member)
    rw [same, String.ofList_toList]
  simp [safeAuditId, stripped, lowered, wellFormed]

theorem write_files {records written : AuditRecordStore} {auditId jws : String}
    (wellFormed : isAuditId auditId)
    (writing : records.write auditId jws = .ok written) (name : String) :
    written.files name =
      if name = auditId then .text jws else records.files name := by
  simp only [AuditRecordStore.write, safeAuditId_of_isAuditId wellFormed,
    Except.ok.injEq] at writing
  subst writing
  rfl

theorem read_stored {records : AuditRecordStore} {auditId jws : String}
    (wellFormed : isAuditId auditId) (stored : records.Stored auditId jws) :
    records.read auditId = .ok (some jws) := by
  unfold AuditRecordStore.read
  rw [safeAuditId_of_isAuditId wellFormed]
  simp only [AuditRecordStore.Stored] at stored
  simp [stored, AuditRecordStore.contentOf]

end Agtp.Audit
