import Agtp.Server.CertSessions
import Mathlib.Data.List.Infix

/-! # Revoked sessions

What a notice of a revocation leaves of the sessions, while other threads go on registering and
ending some. -/

namespace Agtp

/-! ## Operations -/

structure Registration where
  serial : String
  session : String
  subject : String

/-- One operation on the sessions. Those that only look something up are alike. -/
inductive SessionOperation where
  | register (registration : Registration)
  | deregister (session : String)
  | revoke (serial : String)
  | lookup

namespace SessionOperation

def perform (registry : CertSessionRegistry) : SessionOperation → CertSessionRegistry
  | register entry => registry.register entry.serial entry.session entry.subject
  | deregister session => registry.deregisterSession session
  | revoke serial => (registry.revokeSerial serial).2
  | lookup => registry

def registration? : SessionOperation → Option Registration
  | register entry => some entry
  | _ => none

end SessionOperation

inductive Progress where
  | begun
  | listing
  | sweeping (rest : List String)
deriving DecidableEq

structure Revoking where
  progress : Progress
  sweep : Sweep
  registry : CertSessionRegistry

variable [TextCase]

namespace Revoking

def start (registry : CertSessionRegistry) : Revoking := ⟨.begun, ⟨[], []⟩, registry⟩

def swept (state : Revoking) (serial : String) (progress : Progress) : Revoking :=
  let step := RevocationNotice.sweepSerial serial (state.sweep, state.registry)
  ⟨progress, step.1, step.2⟩

def advance (notice : RevocationNotice) (state : Revoking) : Revoking :=
  match state.progress with
  | .begun => state.swept notice.serial .listing
  | .listing => { state with progress := .sweeping (notice.otherSerials state.registry) }
  | .sweeping [] => state
  | .sweeping (serial :: rest) => state.swept serial (.sweeping rest)

def turn (notice : RevocationNotice) (state : Revoking) : Option SessionOperation → Revoking
  | none => state.advance notice
  | some operation => { state with registry := operation.perform state.registry }

def run (notice : RevocationNotice) (state : Revoking)
    (turns : List (Option SessionOperation)) : Revoking :=
  turns.foldl (turn notice) state

def Finished (state : Revoking) : Prop := state.progress = .sweeping []

theorem run_append (notice : RevocationNotice) (state : Revoking)
    (before after : List (Option SessionOperation)) :
    run notice state (before ++ after) = run notice (run notice state before) after :=
  List.foldl_append

end Revoking

/-! ## The law -/

def registrations (operations : List SessionOperation) : List Registration :=
  (operations.filterMap SessionOperation.registration?).filter fun entry =>
    entry.serial ≠ "" ∧ entry.session ≠ ""

def others (turns : List (Option SessionOperation)) : List SessionOperation :=
  turns.filterMap id

namespace RevocationNotice

def Names (notice : RevocationNotice) (entry : Registration) : Prop :=
  (notice.subject ≠ "" ∧ entry.subject ≠ "" ∧ lower entry.subject = lower notice.subject) ∨
    (notice.serial ≠ "" ∧ entry.serial = notice.serial)

end RevocationNotice

def registryAfter (history : List SessionOperation) : CertSessionRegistry :=
  history.foldl SessionOperation.perform .empty

def revokingAfter (notice : RevocationNotice) (history : List SessionOperation)
    (turns : List (Option SessionOperation)) : Revoking :=
  Revoking.run notice (.start (registryAfter history)) turns

/-- A notice ends the sessions that it names and no others, and the indexes agree. -/
structure RevokesExactly (notice : RevocationNotice) (history : List SessionOperation)
    (turns : List (Option SessionOperation)) : Prop where
  complete : (revokingAfter notice history turns).Finished →
    ∀ entry ∈ registrations (history ++ others turns), notice.Names entry →
      ∀ serial, entry.session ∉
        (revokingAfter notice history turns).registry.sessionsUnder serial
  untouched : ∀ before, before ++ [none] <+: turns →
    ∀ entry ∈ registrations (history ++ others before), ¬notice.Names entry →
      entry.session ∈
        (revokingAfter notice history before).registry.sessionsUnder entry.serial →
      entry.session ∈
        (revokingAfter notice history (before ++ [none])).registry.sessionsUnder entry.serial
  indexes : ∀ before, before <+: turns →
    let registry := (revokingAfter notice history before).registry
    (∀ serial ∈ registry.serialToAgent.keys, serial ∈ registry.serialToSessions.keys) ∧
      ∀ agent session, session ∈ registry.sessionsForAgent agent ↔
        ∃ serial ∈ registry.serialsForAgent agent,
          session ∈ registry.sessionsForSerial serial

/-- Registrations of one session name one serial, and those under one serial one agent,
be it none. -/
def OneIdentity (entries : List Registration) : Prop :=
  ∀ first ∈ entries, ∀ second ∈ entries,
    (first.session = second.session → first.serial = second.serial) ∧
      (first.serial = second.serial →
        (first.subject = "" ↔ second.subject = "") ∧
          lower first.subject = lower second.subject)

/-! ## What a registry knows -/

/-- The registry holds and records nothing but what was registered, and knows the agent of
every serial that it has an entry for. -/
structure Recorded (entries : List Registration) (registry : CertSessionRegistry) : Prop where
  unnamed : "" ∉ registry.serialToSessions.keys
  held : ∀ serial session, session ∈ registry.sessionsUnder serial →
    ∃ entry ∈ entries, entry.serial = serial ∧ entry.session = session
  agent : ∀ serial agentId, registry.serialToAgent.get? serial = some agentId →
    agentId ≠ "" ∧ ∃ entry ∈ entries, entry.serial = serial ∧ entry.subject = agentId
  known : ∀ entry ∈ entries, entry.subject ≠ "" →
    entry.serial ∈ registry.serialToSessions.keys →
    ∃ agentId, registry.serialToAgent.get? entry.serial = some agentId

omit [TextCase] in
theorem recorded_empty (entries : List Registration) :
    Recorded entries CertSessionRegistry.empty where
  unnamed := nofun
  held := nofun
  agent := nofun
  known := nofun

def SessionOperation.Within (entries : List Registration) (operation : SessionOperation) :
    Prop :=
  ∀ entry, operation.registration? = some entry → entry.serial ≠ "" ∧ entry.session ≠ "" →
    entry ∈ entries

namespace Recorded

variable {entries : List Registration} {registry : CertSessionRegistry}

omit [TextCase] in
theorem revokeSerial (recorded : Recorded entries registry) (certSerial : String) :
    Recorded entries (registry.revokeSerial certSerial).2 where
  unnamed present := recorded.unnamed (CertSessionRegistry.keys_revokeSerial.mp present).1
  held serial session present :=
    recorded.held serial session
      (CertSessionRegistry.mem_sessionsUnder_of_revokeSerial present)
  agent serial agentId named :=
    recorded.agent serial agentId (CertSessionRegistry.agentOf_of_revokeSerial named)
  known := by
    intro entry member named present
    rcases CertSessionRegistry.keys_revokeSerial.mp present with ⟨before, unnamed | other⟩
    · subst unnamed
      exact recorded.known entry member named before
    · rw [CertSessionRegistry.agentOf_revokeSerial other]
      exact recorded.known entry member named before

theorem register (recorded : Recorded entries registry) (consistent : OneIdentity entries)
    {entry : Registration} (member : entry ∈ entries)
    (present : entry.serial ≠ "" ∧ entry.session ≠ "") :
    Recorded entries (registry.register entry.serial entry.session entry.subject) where
  unnamed := by
    intro held
    rcases (CertSessionRegistry.keys_register present).mp held with before | same
    · exact recorded.unnamed before
    · exact present.1 same.symm
  held := by
    intro serial session held
    rw [CertSessionRegistry.sessionsUnder_register present] at held
    split at held
    · next same =>
        rcases List.mem_insert_iff.mp held with rfl | before
        · exact ⟨entry, member, same.symm, rfl⟩
        · exact same ▸ recorded.held entry.serial session before
    · exact recorded.held serial session held
  agent := by
    intro serial agentId held
    rw [CertSessionRegistry.agentOf_register present] at held
    split at held
    · next recordedNow =>
        cases held
        exact ⟨recordedNow.1, entry, member, recordedNow.2.symm, rfl⟩
    · exact recorded.agent serial agentId held
  known := by
    intro other otherMember named held
    rw [CertSessionRegistry.agentOf_register present]
    split
    · exact ⟨entry.subject, rfl⟩
    · next unrecorded =>
        rcases (CertSessionRegistry.keys_register present).mp held with before | same
        · exact recorded.known other otherMember named before
        · refine absurd ⟨fun unnamed => named ?_, same⟩ unrecorded
          exact ((consistent entry member other otherMember).2 same.symm).1.mp unnamed

theorem perform (recorded : Recorded entries registry) (consistent : OneIdentity entries)
    {operation : SessionOperation} (within : operation.Within entries) :
    Recorded entries (operation.perform registry) := by
  cases operation with
  | register entry =>
      by_cases blank : entry.serial = "" ∨ entry.session = ""
      · have ignored : registry.register entry.serial entry.session entry.subject =
            registry := if_pos blank
        rw [SessionOperation.perform, ignored]
        exact recorded
      · have present := not_or.mp blank
        exact recorded.register consistent (within entry rfl present) present
  | deregister session =>
      refine ⟨?_, ?_, recorded.agent, ?_⟩
      · rw [SessionOperation.perform, CertSessionRegistry.keys_deregister]
        exact recorded.unnamed
      · intro serial other held
        exact recorded.held serial other
          (CertSessionRegistry.mem_sessionsUnder_deregister.mp held).1
      · intro entry member named held
        rw [SessionOperation.perform, CertSessionRegistry.keys_deregister] at held
        exact recorded.known entry member named held
  | revoke serial => exact recorded.revokeSerial serial
  | lookup => exact recorded

theorem registryAfter (consistent : OneIdentity entries) {history : List SessionOperation}
    (within : ∀ operation ∈ history, operation.Within entries) :
    Recorded entries (registryAfter history) := by
  have steps (operations : List SessionOperation)
      (within : ∀ operation ∈ operations, operation.Within entries)
      (registry : CertSessionRegistry) (recorded : Recorded entries registry) :
      Recorded entries (operations.foldl SessionOperation.perform registry) := by
    induction operations generalizing registry with
    | nil => exact recorded
    | cons operation rest induction =>
        exact induction (fun other member => within other (List.mem_cons_of_mem _ member)) _
          (recorded.perform consistent (within operation List.mem_cons_self))
  exact steps history within .empty (recorded_empty entries)

end Recorded

/-! ## Sweeping -/

def SessionOperation.Quiet (notice : RevocationNotice) (operation : SessionOperation) : Prop :=
  ∀ entry, operation.registration? = some entry → entry.serial ≠ "" ∧ entry.session ≠ "" →
    ¬notice.Names entry

/-- Once the named serial is swept it has no entry, and once the agent's serials are listed
those that still have one are on the list, where no serials of other agents are. -/
structure Sweeping (entries : List Registration) (notice : RevocationNotice)
    (state : Revoking) : Prop where
  recorded : Recorded entries state.registry
  named : state.progress ≠ .begun → notice.serial ≠ "" →
    notice.serial ∉ state.registry.serialToSessions.keys
  listed : ∀ rest, state.progress = .sweeping rest → notice.subject ≠ "" →
    ∀ serial agentId, state.registry.serialToAgent.get? serial = some agentId →
      lower agentId = lower notice.subject → serial ∈ rest
  own : ∀ rest, state.progress = .sweeping rest →
    ∀ serial ∈ rest, ∃ entry ∈ entries, entry.serial = serial ∧ notice.Names entry

namespace Sweeping

variable {entries : List Registration} {notice : RevocationNotice} {state : Revoking}

theorem start {registry : CertSessionRegistry} (recorded : Recorded entries registry) :
    Sweeping entries notice (.start registry) where
  recorded := recorded
  named begun := absurd rfl begun
  listed := nofun
  own := nofun

theorem swept (sweeping : Sweeping entries notice state) (serial : String)
    {progress : Progress}
    (named : serial = notice.serial ∨ state.progress ≠ .begun)
    (listed : ∀ rest, progress = .sweeping rest → state.progress = .sweeping (serial :: rest)) :
    Sweeping entries notice (state.swept serial progress) where
  recorded := sweeping.recorded.revokeSerial serial
  named := by
    intro _ present held
    rcases CertSessionRegistry.keys_revokeSerial.mp held with ⟨before, unnamed | other⟩
    · rcases named with rfl | begun
      · exact present unnamed
      · exact sweeping.named begun present before
    · rcases named with rfl | begun
      · exact other rfl
      · exact sweeping.named begun present before
  listed := by
    intro rest here present other agentId held same
    have before := CertSessionRegistry.agentOf_of_revokeSerial held
    rcases List.mem_cons.mp (sweeping.listed _ (listed rest here) present other agentId before
      same) with rfl | there
    · have entered := (state.swept other progress).registry.recorded other
        (Dict.mem_keys_of_get? _ held)
      rcases CertSessionRegistry.keys_revokeSerial.mp entered with ⟨present, rfl | different⟩
      · exact absurd present sweeping.recorded.unnamed
      · exact absurd rfl different
    · exact there
  own := fun rest here other member =>
    sweeping.own _ (listed rest here) other (List.mem_cons_of_mem _ member)

theorem advance (sweeping : Sweeping entries notice state) :
    Sweeping entries notice (state.advance notice) := by
  unfold Revoking.advance
  split
  · exact sweeping.swept notice.serial (.inl rfl) nofun
  · next listing =>
      have begun : state.progress ≠ .begun := by simp [listing]
      refine ⟨sweeping.recorded, fun _ => sweeping.named begun, ?_, ?_⟩
      · intro rest here present serial agentId held same
        cases here
        refine List.mem_filter.mpr
          ⟨(CertSessionRegistry.mem_serialsForAgent present).mpr ⟨agentId, held, same⟩, ?_⟩
        have entered := state.registry.recorded serial (Dict.mem_keys_of_get? _ held)
        apply decide_eq_true
        rintro rfl
        by_cases unnamed : notice.serial = ""
        · exact sweeping.recorded.unnamed (unnamed ▸ entered)
        · exact sweeping.named begun unnamed entered
      · intro rest here serial member
        cases here
        have found := List.mem_of_mem_filter member
        by_cases unnamed : notice.subject = ""
        · simp [CertSessionRegistry.serialsForAgent, unnamed] at found
        · rcases (CertSessionRegistry.mem_serialsForAgent unnamed).mp found with
            ⟨agentId, held, same⟩
          rcases sweeping.recorded.agent serial agentId held with
            ⟨present, entry, entryMember, at_serial, rfl⟩
          exact ⟨entry, entryMember, at_serial, .inl ⟨unnamed, present, same⟩⟩
  · exact sweeping
  · next serial rest here =>
      refine sweeping.swept serial (.inr (by simp [here])) fun _ same => ?_
      cases same
      exact here

theorem perform (sweeping : Sweeping entries notice state) (consistent : OneIdentity entries)
    {operation : SessionOperation} (within : operation.Within entries)
    (quiet : operation.Quiet notice) :
    Sweeping entries notice
      { state with registry := operation.perform state.registry } where
  recorded := sweeping.recorded.perform consistent within
  named := by
    intro begun present held
    cases operation with
    | register entry =>
        by_cases blank : entry.serial = "" ∨ entry.session = ""
        · rw [SessionOperation.perform, CertSessionRegistry.register, if_pos blank] at held
          exact sweeping.named begun present held
        · have proper := not_or.mp blank
          rcases (CertSessionRegistry.keys_register proper).mp held with before | same
          · exact sweeping.named begun present before
          · exact quiet entry rfl proper (.inr ⟨present, same.symm⟩)
    | deregister session =>
        rw [SessionOperation.perform, CertSessionRegistry.keys_deregister] at held
        exact sweeping.named begun present held
    | revoke serial =>
        exact sweeping.named begun present (CertSessionRegistry.keys_revokeSerial.mp held).1
    | lookup => exact sweeping.named begun present held
  listed := by
    intro rest here present serial agentId held same
    cases operation with
    | register entry =>
        by_cases blank : entry.serial = "" ∨ entry.session = ""
        · change (state.registry.register _ _ _).serialToAgent.get? serial = _ at held
          rw [CertSessionRegistry.register, if_pos blank] at held
          exact sweeping.listed rest here present serial agentId held same
        · have proper := not_or.mp blank
          change (state.registry.register _ _ _).serialToAgent.get? serial = _ at held
          rw [CertSessionRegistry.agentOf_register proper] at held
          split at held
          · next recordedNow =>
              cases held
              exact absurd (.inl ⟨present, recordedNow.1, same⟩) (quiet entry rfl proper)
          · exact sweeping.listed rest here present serial agentId held same
    | deregister session => exact sweeping.listed rest here present serial agentId held same
    | revoke other =>
        exact sweeping.listed rest here present serial agentId
          (CertSessionRegistry.agentOf_of_revokeSerial held) same
    | lookup => exact sweeping.listed rest here present serial agentId held same
  own := sweeping.own

theorem run (sweeping : Sweeping entries notice state) (consistent : OneIdentity entries)
    {turns : List (Option SessionOperation)}
    (fine : ∀ operation ∈ others turns, operation.Within entries ∧ operation.Quiet notice) :
    Sweeping entries notice (Revoking.run notice state turns) := by
  induction turns generalizing state with
  | nil => exact sweeping
  | cons turn rest induction =>
      cases turn with
      | none => exact induction sweeping.advance fine
      | some operation =>
          have here := fine operation List.mem_cons_self
          exact induction (sweeping.perform consistent here.1 here.2)
            fun other member => fine other (List.mem_cons_of_mem _ member)

theorem complete (sweeping : Sweeping entries notice state) (consistent : OneIdentity entries)
    (finished : state.Finished) {entry : Registration} (member : entry ∈ entries)
    (named : notice.Names entry) (serial : String) :
    entry.session ∉ state.registry.sessionsUnder serial := by
  intro held
  have entered := CertSessionRegistry.mem_keys_of_sessionsUnder held
  rcases sweeping.recorded.held serial entry.session held with
    ⟨other, otherMember, rfl, sameSession⟩
  have sameSerial := (consistent other otherMember entry member).1 sameSession
  rw [sameSerial] at entered
  rcases named with ⟨present, subject, same⟩ | ⟨present, same⟩
  · rcases sweeping.recorded.known entry member subject entered with ⟨agentId, recordedAs⟩
    rcases (sweeping.recorded.agent _ agentId recordedAs).2 with
      ⟨last, lastMember, lastSerial, rfl⟩
    have alike := ((consistent last lastMember entry member).2 lastSerial).2
    exact nomatch sweeping.listed [] finished present _ _ recordedAs (alike.trans same)
  · have begun : state.progress ≠ .begun := by simp [show state.progress = _ from finished]
    exact sweeping.named begun present (same ▸ entered)

theorem untouched (sweeping : Sweeping entries notice state) (consistent : OneIdentity entries)
    {entry : Registration} (member : entry ∈ entries) (unnamed : ¬notice.Names entry)
    (held : entry.session ∈ state.registry.sessionsUnder entry.serial) :
    entry.session ∈ (state.advance notice).registry.sessionsUnder entry.serial := by
  have kept (serial : String) (progress : Progress)
      (other : serial = "" ∨ entry.serial ≠ serial) :
      entry.session ∈ (state.swept serial progress).registry.sessionsUnder entry.serial := by
    change entry.session ∈ (state.registry.revokeSerial serial).2.sessionsUnder entry.serial
    rcases other with rfl | other
    · exact held
    · rwa [CertSessionRegistry.sessionsUnder_revokeSerial other]
  unfold Revoking.advance
  split
  · refine kept notice.serial _ ?_
    by_cases present : notice.serial = ""
    · exact .inl present
    · exact .inr fun same => unnamed (.inr ⟨present, same⟩)
  · exact held
  · exact held
  · next serial rest here =>
      refine kept serial _ (.inr ?_)
      rintro same
      rcases sweeping.own _ here serial List.mem_cons_self with
        ⟨own, ownMember, rfl, ⟨present, subject, ownSame⟩ | ⟨present, ownSame⟩⟩
      · have alike := (consistent own ownMember entry member).2 same.symm
        exact unnamed (.inl ⟨present, fun blank => subject (alike.1.mpr blank),
          alike.2.symm.trans ownSame⟩)
      · exact unnamed (.inr ⟨present, same.trans ownSame⟩)

end Sweeping

omit [TextCase] in
theorem within_registrations {operations : List SessionOperation}
    {operation : SessionOperation} (member : operation ∈ operations) :
    operation.Within (registrations operations) := by
  intro entry registered proper
  exact List.mem_filter.mpr
    ⟨List.mem_filterMap.mpr ⟨operation, member, registered⟩, decide_eq_true proper⟩

omit [TextCase] in
theorem registrations_of_earlier {history : List SessionOperation}
    {before turns : List (Option SessionOperation)} (first : before <+: turns) :
    registrations (history ++ others before) ⊆ registrations (history ++ others turns) := by
  rcases first with ⟨rest, rfl⟩
  intro entry member
  unfold registrations others at *
  simp only [List.filterMap_append, List.filter_append, List.mem_append] at member ⊢
  exact member.imp_right .inl

/-- Where every session has one serial and every serial one agent, and nobody registers
under what the notice names while it is applied, the notice ends what it names and nothing
else. -/
theorem revokesExactly (notice : RevocationNotice) (history : List SessionOperation)
    (turns : List (Option SessionOperation))
    (consistent : OneIdentity (registrations (history ++ others turns)))
    (quiet : ∀ operation ∈ others turns, operation.Quiet notice) :
    RevokesExactly notice history turns := by
  have started : Sweeping (registrations (history ++ others turns)) notice
      (.start (registryAfter history)) :=
    .start (Recorded.registryAfter consistent fun operation member =>
      within_registrations (List.mem_append_left _ member))
  have sweeping (before : List (Option SessionOperation)) (first : before <+: turns) :
      Sweeping (registrations (history ++ others turns)) notice
        (revokingAfter notice history before) := by
    refine started.run consistent fun operation member => ?_
    have within : operation ∈ others turns := (first.filterMap id).subset member
    exact ⟨within_registrations (List.mem_append_right _ within), quiet operation within⟩
  refine ⟨?_, ?_, ?_⟩
  · intro finished entry member named serial
    exact (sweeping turns (List.prefix_refl _)).complete consistent finished member named serial
  · intro before first entry member unnamed held
    have shorter : before <+: turns := (List.prefix_append before [none]).trans first
    have after := (sweeping before shorter).untouched consistent
      (registrations_of_earlier shorter member) unnamed held
    unfold revokingAfter at after ⊢
    rw [Revoking.run_append]
    exact after
  · intro before first
    exact ⟨(revokingAfter notice history before).registry.recorded,
      fun agent session => CertSessionRegistry.mem_sessionsForAgent⟩

end Agtp

namespace Agtp.RevocationSamples

open scoped Plain

def ordinary : List SessionOperation :=
  [.register ⟨"7", "x", "alice"⟩, .register ⟨"8", "y", "bob"⟩]

def interrupted : List (Option SessionOperation) :=
  [none, some (.register ⟨"8", "z", "bob"⟩), none, none]

theorem alice_is_revoked : RevokesExactly ⟨"alice", "7"⟩ ordinary interrupted := by
  refine revokesExactly _ _ _ ?_ ?_
  · have all : registrations (ordinary ++ others interrupted) =
        [⟨"7", "x", "alice"⟩, ⟨"8", "y", "bob"⟩, ⟨"8", "z", "bob"⟩] := rfl
    rw [all]
    unfold OneIdentity
    simp
  · intro operation member
    cases List.mem_singleton.mp member
    intro entry registered _ named
    cases registered
    rcases named with ⟨_, _, same⟩ | ⟨_, same⟩
    · exact absurd same (by decide)
    · exact absurd same (by decide)

def shared : List SessionOperation :=
  [.register ⟨"7", "x", "alice"⟩, .register ⟨"7", "y", "bob"⟩]

/-- A session of Alice's outlives the notice about her. -/
theorem revoked_session_survives :
    (applyRevocationNotify ((RevocationNotice.mk "alice" "").envelope "revoked" "" "")
      (registryAfter shared)).2.sessionsUnder "7" = ["y", "x"] ∧
      (revokingAfter ⟨"alice", ""⟩ shared [none, none]).Finished ∧
      ¬RevokesExactly ⟨"alice", ""⟩ shared [none, none] := by
  have finished : (revokingAfter ⟨"alice", ""⟩ shared [none, none]).Finished :=
    show (revokingAfter _ shared [none, none]).progress = .sweeping [] from by
      decide +kernel
  have survives : "x" ∈ (revokingAfter ⟨"alice", ""⟩ shared
      [none, none]).registry.sessionsUnder "7" := by decide
  refine ⟨by decide +kernel, finished, fun exact => ?_⟩
  refine exact.complete finished ⟨"7", "x", "alice"⟩ ?_ ?_ "7" survives
  · exact List.mem_cons_self
  · exact .inl ⟨by decide, by decide, rfl⟩

end Agtp.RevocationSamples
