import Agtp.Foundation.Fallible
import Agtp.Presence.Store
import Mathlib.Data.List.Sort

/-! # Ranking

The order of the results of a query: by a weighted blend of trust tier, behaviour and
how well the capabilities match. -/

namespace Agtp

structure Scored where
  record : PresenceRecord
  score : Double
  capabilityMatch : Double

namespace PresenceRecord

def claims (record : PresenceRecord) : Except Raised (List Json) :=
  match record.capabilities with
  | .ok items => if items.all Json.hashable then .ok items else .error .typeError
  | .error raised => .error raised

end PresenceRecord

namespace Ranking

/-! ## The three signals -/

section Signals

variable [Floats]

def tierNorm (tier : Json) : Double :=
  match tier.number? with
  | some value =>
      if value = .finite 1 then Floats.quotient 3 3
      else if value = .finite 2 then Floats.quotient 2 3
      else if value = .finite 3 then Floats.quotient 1 3
      else .finite 0
  | none => .finite 0

def behavioralTrust (behavioral : Json) : Except Raised Double :=
  match behavioral with
  | .int _ | .bool _ | .float _ => behavioral.toFloat.map Floats.value
  | _ => .ok (.finite 0)

end Signals

def wordCharacter (character : Char) : Bool :=
  ('a' ≤ character && character ≤ 'z') || ('0' ≤ character && character ≤ '9')

def wordsFrom (reversed : List Char) : List Char → List String
  | [] => if reversed = [] then [] else [String.ofList reversed.reverse]
  | character :: rest =>
      if wordCharacter character then wordsFrom (character :: reversed) rest
      else if reversed = [] then wordsFrom [] rest
      else String.ofList reversed.reverse :: wordsFrom [] rest

def intentTokens [TextCase] (intent : Option String) : List String :=
  match intent with
  | some text => (wordsFrom [] (lower text).toList).dedup
  | none => []

def claimsToken (claims : List Json) (token : String) : Bool :=
  claims.any fun claim =>
    match claim with
    | .string text => text = token
    | _ => false

variable [Floats] [TextCase]

def capabilityMatchScore (claims : List Json) (capability intent : Option String) :
    Double :=
  match capability with
  | some _ => .finite 1
  | none =>
      let tokens := intentTokens intent
      if tokens = [] then .finite 1
      else Floats.quotient (tokens.filter (claimsToken claims)).length tokens.length

def compositeScore (tier : Json) (behavioral capabilityMatch : Double) : Double :=
  Floats.sum
    (Floats.sum (Floats.product (Floats.value "0.3") (tierNorm tier))
      (Floats.product (Floats.value "0.4") behavioral))
    (Floats.product (Floats.value "0.3") capabilityMatch)

/-! ## The order -/

def scoreRecord (capability intent : Option String) (record : PresenceRecord) :
    Except Raised Scored :=
  match record.claims with
  | .error raised => .error raised
  | .ok claims =>
      let capabilityMatch := capabilityMatchScore claims capability intent
      (behavioralTrust (Json.get record.resultEntry "behavioral_trust_score")).map
        fun behavioral =>
          ⟨record,
            compositeScore (Json.get record.resultEntry "trust_tier") behavioral
              capabilityMatch,
            capabilityMatch⟩

def before (left right : Scored) : Bool :=
  if left.score = right.score ∧ left.score ≠ .nan then
    left.record.agentId < right.record.agentId
  else right.score.lt left.score

def rankRecords (capability intent : Option String) (records : List PresenceRecord) :
    Except Raised (List Scored) :=
  (Fallible.map (scoreRecord capability intent) records).map fun scored =>
    scored.mergeSort fun left right => !before right left

theorem mem_of_rankRecords {capability intent : Option String}
    {records : List PresenceRecord} {ranked : List Scored}
    (ended : rankRecords capability intent records = .ok ranked) {scored : Scored}
    (member : scored ∈ ranked) :
    ∃ record ∈ records, scoreRecord capability intent record = .ok scored := by
  unfold rankRecords at ended
  cases mapped : Fallible.map (scoreRecord capability intent) records with
  | error raised =>
      rw [mapped] at ended
      cases ended
  | ok list =>
      rw [mapped] at ended
      cases ended
      exact Fallible.mem_of_map mapped (List.mem_mergeSort.mp member)

end Ranking

end Agtp
