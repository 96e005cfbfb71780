import Agtp.Audit.Stores
import Agtp.Foundation.NamedSlots
import Agtp.Server.ClientCertificate

/-! # Whose head a head file holds

The heads of all agents share a directory, and a head is found by a file name that is made of
the agent id. -/

namespace Agtp.Audit

open NamedSlots

/-- A call of `AuditChainStore.write`. A call that the file system does not complete raises
and leaves the file as it was. -/
structure HeadWrite where
  agentId : String
  head : ChainHead
  completes : Bool

namespace HeadWrite

def completed (writes : List HeadWrite) : List (String × ChainHead) :=
  (writes.filter HeadWrite.completes).map fun write => (write.agentId, write.head)

end HeadWrite

namespace AuditChainStore

def apply (store : AuditChainStore) (write : HeadWrite) : AuditChainStore :=
  if write.completes then store.write write.agentId write.head.auditId write.head.atIso
  else store

def applyAll (store : AuditChainStore) (writes : List HeadWrite) : AuditChainStore :=
  writes.foldl apply store

def ownHead (store : AuditChainStore) (writes : List HeadWrite) (agentId : String) :
    Raises (Option ChainHead) :=
  match lastFor agentId (HeadWrite.completed writes) with
  | some head => .ok (some head)
  | none => store.head agentId

def fileOf (head : ChainHead) : HeadFile :=
  .json (headJson head.auditId head.atIso)

theorem applyAll_cons (store : AuditChainStore) (write : HeadWrite) (rest : List HeadWrite) :
    store.applyAll (write :: rest) = (store.apply write).applyAll rest := rfl

theorem files_write (store : AuditChainStore) {agentId : String} (named : agentId ≠ "")
    (head : ChainHead) :
    (store.write agentId head.auditId head.atIso).files =
      put headFileName store.files (agentId, fileOf head) := by
  funext name
  rw [put]
  by_cases own : name = headFileName agentId
  · rw [own, Function.update_self]
    exact write_files_same named store head.auditId head.atIso
  · rw [Function.update_of_ne own]
    exact write_files_other own store head.auditId head.atIso

theorem files_applyAll {writes : List HeadWrite} (store : AuditChainStore)
    (named : ∀ write ∈ writes, write.agentId ≠ "") :
    (store.applyAll writes).files =
      putAll headFileName store.files
        ((HeadWrite.completed writes).map fun write => (write.1, fileOf write.2)) := by
  induction writes generalizing store with
  | nil => rfl
  | cons write rest induction =>
      have others := induction (store.apply write) fun other member =>
        named other (List.mem_cons_of_mem _ member)
      rw [applyAll_cons, others, apply]
      cases done : write.completes with
      | false =>
          have skipped : HeadWrite.completed (write :: rest) = HeadWrite.completed rest := by
            rw [HeadWrite.completed, List.filter_cons_of_neg (by rw [done]; decide),
              HeadWrite.completed]
          rw [skipped]
          rfl
      | true =>
          have taken : HeadWrite.completed (write :: rest) =
              (write.agentId, write.head) :: HeadWrite.completed rest := by
            rw [HeadWrite.completed, List.filter_cons_of_pos done, List.map_cons,
              HeadWrite.completed]
          rw [taken, List.map_cons, putAll_cons, if_pos rfl]
          rw [files_write store (named write List.mem_cons_self)]

theorem lastFor_map {Key Value Other : Type*} [DecidableEq Key] (transform : Value → Other)
    (key : Key) (writes : List (Key × Value)) :
    lastFor key (writes.map fun write => (write.1, transform write.2)) =
      (lastFor key writes).map transform := by
  induction writes with
  | nil => rfl
  | cons write rest induction =>
      rw [List.map_cons, lastFor, induction, lastFor, Option.map_or]
      congr 1
      split <;> rfl

theorem mem_completed {writes : List HeadWrite} {write : String × ChainHead}
    (member : write ∈ HeadWrite.completed writes) : ∃ own ∈ writes, own.agentId = write.1 := by
  rcases List.mem_map.mp member with ⟨own, kept, rfl⟩
  exact ⟨own, List.mem_of_mem_filter kept, rfl⟩

def SameName (first second : String) : Prop :=
  (Text.strip first).toList.filter (fun character => character ∉ ['/', '\\']) =
    (Text.strip second).toList.filter fun character => character ∉ ['/', '\\']

theorem sameName_iff (first second : String) :
    SameName first second ↔ headFileName first = headFileName second := by
  have plain : (fun character : Char => decide (character ∉ ['/', '\\'])) =
      fun character => character ≠ '/' && character ≠ '\\' := by
    funext character
    simp
  rw [SameName, plain, headFileName, headFileName, String.ofList_inj]

/-- In every run of writes for some ids, each id has its own head: what was last written for
it, or else what was there. The writes of any other id leave it as it is. -/
def HeadsApart (ids : Set String) : Prop :=
  ∀ (store : AuditChainStore) (writes : List HeadWrite),
    (∀ write ∈ writes, write.agentId ∈ ids ∧ write.agentId ≠ "") →
      ∀ agentId ∈ ids, agentId ≠ "" →
        (store.applyAll writes).head agentId = store.ownHead writes agentId

theorem headsApart_of_distinct {ids : Set String}
    (distinct : Set.InjOn headFileName { agentId ∈ ids | agentId ≠ "" }) : HeadsApart ids := by
  intro store writes among agentId known named
  have slots : ∀ write ∈ (HeadWrite.completed writes).map fun write => (write.1, fileOf write.2),
      write.1 ∈ { agentId ∈ ids | agentId ≠ "" } := by
    intro write member
    rcases List.mem_map.mp member with ⟨completed, kept, rfl⟩
    rcases mem_completed kept with ⟨own, issued, same⟩
    exact same ▸ among own issued
  rw [head, files_applyAll store fun write member => (among write member).2,
    putAll_of_injOn distinct store.files slots ⟨known, named⟩, lastFor_map, ownHead]
  cases lastFor agentId (HeadWrite.completed writes) with
  | none => rfl
  | some own => exact headOf_headJson own.auditId own.atIso

theorem head_after_two {first second : String} (firstNamed : first ≠ "")
    (secondNamed : second ≠ "") (same : headFileName first = headFileName second)
    (old new : ChainHead) :
    (empty.applyAll [⟨first, old, true⟩, ⟨second, new, true⟩]).head first = .ok (some new) := by
  have named : ∀ write ∈ [(⟨first, old, true⟩ : HeadWrite), ⟨second, new, true⟩],
      write.agentId ≠ "" := by
    intro write member
    rcases List.mem_cons.mp member with rfl | last
    · exact firstNamed
    · rw [List.mem_singleton.mp last]
      exact secondNamed
  rw [head, files_applyAll empty named, putAll_apply]
  change headOf ((lastFor (headFileName first)
    [(headFileName first, fileOf old), (headFileName second, fileOf new)]).getD _) = _
  rw [same, lastFor, lastFor, lastFor, if_pos rfl]
  exact headOf_headJson new.auditId new.atIso

/-- The heads of some agents are apart in every run exactly where no two of their ids are
the same but for white space and path separators. -/
theorem headsApart_iff (ids : Set String) :
    HeadsApart ids ↔
      ∀ first ∈ ids, ∀ second ∈ ids, first ≠ "" → second ≠ "" →
        SameName first second → first = second := by
  constructor
  · intro apart first firstKnown second secondKnown firstNamed secondNamed same
    by_contra different
    have among : ∀ write ∈ [(⟨first, ⟨"1", ""⟩, true⟩ : HeadWrite), ⟨second, ⟨"2", ""⟩, true⟩],
        write.agentId ∈ ids ∧ write.agentId ≠ "" := by
      intro write member
      rcases List.mem_cons.mp member with rfl | last
      · exact ⟨firstKnown, firstNamed⟩
      · rw [List.mem_singleton.mp last]
        exact ⟨secondKnown, secondNamed⟩
    have own := apart empty _ among first firstKnown firstNamed
    rw [head_after_two firstNamed secondNamed ((sameName_iff first second).mp same)] at own
    have last : lastFor first (HeadWrite.completed
        [⟨first, ⟨"1", ""⟩, true⟩, ⟨second, ⟨"2", ""⟩, true⟩]) = some ⟨"1", ""⟩ := by
      change lastFor first [(first, (⟨"1", ""⟩ : ChainHead)), (second, ⟨"2", ""⟩)] = _
      rw [lastFor, lastFor, lastFor, if_pos rfl, if_neg (Ne.symm different)]
      rfl
    rw [ownHead, last] at own
    simp at own
  · intro distinct
    apply headsApart_of_distinct
    intro first firstKnown second secondKnown same
    exact distinct first firstKnown.1 second secondKnown.1 firstKnown.2 secondKnown.2
      ((sameName_iff first second).mpr same)

end AuditChainStore

/-! ## Samples -/

namespace HeadSamples

open AuditChainStore

/-- Two callers whose ids differ in a separator have one head. -/
theorem separator_ignored :
    ¬∀ (store : AuditChainStore) (writes : List HeadWrite),
      (∀ write ∈ writes, write.agentId ≠ "") → ∀ agentId, agentId ≠ "" →
        (store.applyAll writes).head agentId = store.ownHead writes agentId := by
  intro apart
  have own := apart empty [⟨"a/b", ⟨"1", ""⟩, true⟩, ⟨"ab", ⟨"2", ""⟩, true⟩]
    (by decide) "a/b" (by decide)
  rw [head_after_two (by decide) (by decide) (by decide)] at own
  have first : ownHead empty [⟨"a/b", ⟨"1", ""⟩, true⟩, ⟨"ab", ⟨"2", ""⟩, true⟩] "a/b" =
      .ok (some ⟨"1", ""⟩) := rfl
  rw [first] at own
  simp at own

end HeadSamples

end Agtp.Audit
