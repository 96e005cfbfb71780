import Agtp.Presence.Store

/-! # Gossip

The `REPLICATE` exchange between two coordinators: the sender's records and digest, what the
receiver merges, and the records that it returns. -/

namespace Agtp

namespace PresenceStore

variable [Floats]

def peerNeeds (digest : List (String × Json)) (entry : String × PresenceRecord) :
    Except Raised Bool :=
  match Json.get digest entry.1 with
  | .null => .ok true
  | remote =>
      match remote.number? with
      | some epoch => .ok (epoch.lt entry.2.epoch)
      | none => .error .typeError

def needed (digest : List (String × Json)) :
    List (String × PresenceRecord) → Except Raised (List PresenceRecord)
  | [] => .ok []
  | entry :: rest => do
      let needs ← peerNeeds digest entry
      let others ← needed digest rest
      return if needs then entry.2 :: others else others

def recordsPeerNeeds (store : PresenceStore) (digest : List (String × Json)) (now : ℚ) :
    Except Raised (List PresenceRecord) × PresenceStore :=
  match store.sweep now with
  | .error raised => (.error raised, store)
  | .ok swept => (needed digest swept.records.entries, swept)

end PresenceStore

namespace Gossip

/-- A coordinator: its records, and whether it takes a record of a peer's. -/
structure Coordinator where
  store : PresenceStore
  verify : PresenceRecord → Bool

/-- The time: as a number, and as it is printed. -/
structure Moment where
  now : ℚ
  text : String

structure Counts where
  merged : Nat
  rejected : Nat

variable [Floats] [TextOf] [NumberText]

/-- Merge the entries in order. A malformed entry is skipped; any other exception ends
the round. -/
def mergeEntries (verify : PresenceRecord → Bool) (moment : Moment) :
    List Json → Counts → PresenceStore → Except Raised Counts × PresenceStore
  | [], counts, store => (.ok counts, store)
  | raw :: rest, counts, store =>
      match PresenceRecord.fromGossipDict moment.text raw with
      | .error raised =>
          if raised.malformed then mergeEntries verify moment rest counts store
          else (.error raised, store)
      | .ok record =>
          if verify record then
            match store.mergeRecord record with
            | (.error raised, after) => (.error raised, after)
            | (.ok changed, after) =>
                mergeEntries verify moment rest
                  { counts with merged := counts.merged + if changed then 1 else 0 } after
          else
            mergeEntries verify moment rest
              { counts with rejected := counts.rejected + 1 } store

def gossipDicts (records : List PresenceRecord) : Json :=
  .array (records.map fun record => .object record.toGossipDict)

def buildReplicateRequest (store : PresenceStore) (moment : Moment) :
    Except Raised (List (String × Json)) × PresenceStore :=
  match store.sweep moment.now with
  | .error raised => (.error raised, store)
  | .ok swept =>
      (.ok [("records", gossipDicts swept.values), ("digest", .object swept.digest)], swept)

def digestOf (body : List (String × Json)) : List (String × Json) :=
  match Json.getOr body "digest" (.object []) with
  | .object digest => digest
  | _ => []

def applyReplicate (verify : PresenceRecord → Bool) (moment : Moment)
    (body : List (String × Json)) (store : PresenceStore) :
    Except Raised (List (String × Json)) × PresenceStore :=
  match (Json.getOr body "records" (.array [])).iterate with
  | .error raised => (.error raised, store)
  | .ok entries =>
      match mergeEntries verify moment entries ⟨0, 0⟩ store with
      | (.error raised, after) => (.error raised, after)
      | (.ok counts, merged) =>
          match merged.recordsPeerNeeds (digestOf body) moment.now with
          | (.error raised, after) => (.error raised, after)
          | (.ok delta, swept) =>
              (.ok [("merged", .int counts.merged), ("rejected", .int counts.rejected),
                ("records", gossipDicts delta)], swept)

def mergeReply (verify : PresenceRecord → Bool) (moment : Moment)
    (reply : List (String × Json)) (store : PresenceStore) :
    Except Raised Counts × PresenceStore :=
  match (Json.getOr reply "records" (.array [])).iterate with
  | .error raised => (.error raised, store)
  | .ok entries => mergeEntries verify moment entries ⟨0, 0⟩ store

end Gossip

end Agtp
