import Agtp.Core.Document
import Agtp.Presence.Records
import Mathlib.Data.List.Dedup

/-! # Scopes

The capabilities that the methods of an agent stand for, and the scopes that an agent
joins by default. -/

namespace Agtp

class MethodCatalog where
  methods : List (String × List String)

namespace Scopes

variable [MethodCatalog] [TextCase] [TextOf]

/-! ## Capabilities -/

def categorize (name : String) : Option (List String) :=
  MethodCatalog.methods.lookup (upper name)

/-- What one method stands for: its own name and its categories. The loop over the
categories raises where the catalog does not have the method. -/
def methodTokens (verb : Json) : Except Raised (List String) :=
  let token := lower (Text.strip verb.str)
  if token = "" then .ok []
  else
    match categorize (upper (Text.strip verb.str)) with
    | some categories => .ok (token :: categories.map lower)
    | none => .error .typeError

def vocabulary : List String :=
  MethodCatalog.methods.flatMap fun method => lower method.1 :: method.2.map lower

def deriveCapabilitiesFromMethods (methods : Json) (wildcards : Bool) :
    Except Raised (List String) :=
  if wildcards then .ok vocabulary
  else if methods.truthy then
    match methods.iterate with
    | .ok verbs => (verbs.mapM methodTokens).map List.flatten
    | .error raised => .error raised
  else .ok []

def sortedSet (tokens : List String) : List String :=
  tokens.dedup.mergeSort (decide <| · ≤ ·)

omit [MethodCatalog] [TextCase] [TextOf] in
@[simp] theorem mem_sortedSet (tokens : List String) (token : String) :
    token ∈ sortedSet tokens ↔ token ∈ tokens := by
  rw [sortedSet, List.mem_mergeSort, List.mem_dedup]

def deriveCapabilities (document : DocumentFields) : Except Raised (List String) :=
  deriveCapabilitiesFromMethods (.array document.requires.methods)
    document.requires.wildcards

/-! ## Scope tuples -/

/-- The dimensions of a scope that are given, in their canonical order. A text is left
out where it is empty. -/
def dimensions (tier : Option Int) (ownerDomain capability industry region : String) :
    List (String × String) :=
  (tier.map fun tier => ("tier", toString tier)).toList ++
    (if ownerDomain = "" then [] else [("owner-domain", lower ownerDomain)]) ++
    (if capability = "" then []
      else [("capability", lower (Text.strip capability))]) ++
    (if industry = "" then [] else [("industry", lower (Text.strip industry))]) ++
    if region = "" then [] else [("region", lower (Text.strip region))]

def scopeTuple (tier : Option Int) (ownerDomain capability industry region : String) :
    String :=
  let parts := (dimensions tier ownerDomain capability industry region).map fun part =>
    part.1 ++ ": " ++ part.2
  "\x7b" ++ String.intercalate ", " parts ++ "\x7d"

def overlayId [Digest] (scope : String) : String :=
  Digest.sha256 scope.toUTF8.data.toList

omit [MethodCatalog] [TextCase] [TextOf] in
theorem overlayId_injective [Digest] (injective : Function.Injective Digest.sha256) :
    Function.Injective overlayId := by
  intro left right same
  apply String.toByteArray_inj.mp
  apply ByteArray.ext
  apply Array.toList_inj.mp
  exact injective same

def defaultScopes (document : DocumentFields) (capabilities : List String) : List Json :=
  .string (scopeTuple (some document.trustTier) "" "" "" "") ::
    capabilities.map fun capability => .string (scopeTuple none "" capability "" "")

end Scopes

end Agtp
