import Agtp.Presence.AudienceLaws

/-! # What an audience expression means

The documented grammar of audience expressions, from characters to syntax trees, and what a tree
says of a requester. -/

namespace Agtp

namespace Audience

/-! ## Predicates -/

inductive Predicate where
  | tier (threshold : Int)
  | ownerDomain (name : String)
  | capability (name : String)
  | agentId (name : String)
  | industry (name : String)
  | region (name : String)
  | governanceGroup (name : String)

namespace Predicate

def Holds (requester : RequesterContext) : Predicate → Prop
  | tier threshold => ∃ tier ∈ requester.tier, tier ≤ threshold
  | ownerDomain name => name ≠ "" ∧ requester.ownerDomain = some name
  | capability name => name ∈ requester.capabilities
  | agentId name => name ≠ "" ∧ requester.agentId = name
  | industry name => name ≠ "" ∧ requester.industry = some name
  | region name => name ≠ "" ∧ requester.region = some name
  | governanceGroup name => name ≠ "" ∧ requester.governanceGroup = some name

instance (requester : RequesterContext) (predicate : Predicate) :
    Decidable (predicate.Holds requester) :=
  match predicate with
  | tier threshold => inferInstanceAs (Decidable (∃ tier ∈ requester.tier, tier ≤ threshold))
  | ownerDomain name =>
      inferInstanceAs (Decidable (name ≠ "" ∧ requester.ownerDomain = some name))
  | capability name => inferInstanceAs (Decidable (name ∈ requester.capabilities))
  | agentId name => inferInstanceAs (Decidable (name ≠ "" ∧ requester.agentId = name))
  | industry name => inferInstanceAs (Decidable (name ≠ "" ∧ requester.industry = some name))
  | region name => inferInstanceAs (Decidable (name ≠ "" ∧ requester.region = some name))
  | governanceGroup name =>
      inferInstanceAs (Decidable (name ≠ "" ∧ requester.governanceGroup = some name))

end Predicate

/-! ## Expressions -/

inductive Expression where
  | predicate (predicate : Predicate)
  | negation (operand : Expression)
  | conjunction (left right : Expression)
  | disjunction (left right : Expression)

namespace Expression

def value (requester : RequesterContext) : Expression → Bool
  | predicate atom => decide (atom.Holds requester)
  | negation operand => !operand.value requester
  | conjunction left right => left.value requester && right.value requester
  | disjunction left right => left.value requester || right.value requester

end Expression

/-! ## Tokens -/

def Delimits (character : Char) : Prop :=
  Text.isSpace character = true ∨ character = '(' ∨ character = ')'

/-- The tokens of a text: parentheses, and the longest runs of characters between them
and white space. -/
inductive Lexes : List Char → List String → Prop
  | nil : Lexes [] []
  | space {character : Char} {rest : List Char} {tokens : List String} :
      Text.isSpace character = true → Lexes rest tokens → Lexes (character :: rest) tokens
  | parenthesis {character : Char} {rest : List Char} {tokens : List String} :
      character = '(' ∨ character = ')' → Lexes rest tokens →
        Lexes (character :: rest) (String.ofList [character] :: tokens)
  | word {letters rest : List Char} {tokens : List String} :
      letters ≠ [] → (∀ letter ∈ letters, ¬Delimits letter) →
        (∀ character ∈ rest.head?, Delimits character) → Lexes rest tokens →
          Lexes (letters ++ rest) (String.ofList letters :: tokens)

section Grammar

variable [TextCase] [NumberText]

def predicateOf (key value : String) : Option Predicate :=
  if key = "tier" then (NumberText.intOfText value).map .tier
  else if key = "owner-domain" then some (.ownerDomain value)
  else if key = "capability" then some (.capability (lower value))
  else if key = "agent-id" then some (.agentId value)
  else if key = "industry" then some (.industry value)
  else if key = "region" then some (.region value)
  else if key = "governance-group" then some (.governanceGroup value)
  else none

def readPredicate (token : String) : Option Predicate :=
  if upper token = "AND" ∨ upper token = "OR" ∨ upper token = "NOT" then none
  else
    (Wire.partitionColon token.toList).bind fun parts =>
      predicateOf (lower (Text.strip (String.ofList parts.1)))
        (Text.strip (String.ofList parts.2))

inductive Rule where
  | orExpr
  | andExpr
  | notExpr
  | atom

/-- The tokens that a rule derives, and the tree they are read as. Operators are written
in any case. -/
inductive Derives : Rule → List String → Expression → Prop
  | oneConjunction {tokens : List String} {tree : Expression} :
      Derives .andExpr tokens tree → Derives .orExpr tokens tree
  | disjunction {left right : List String} {operator : String} {first second : Expression} :
      Derives .orExpr left first → upper operator = "OR" → Derives .andExpr right second →
        Derives .orExpr (left ++ operator :: right) (.disjunction first second)
  | oneNegation {tokens : List String} {tree : Expression} :
      Derives .notExpr tokens tree → Derives .andExpr tokens tree
  | conjunction {left right : List String} {operator : String} {first second : Expression} :
      Derives .andExpr left first → upper operator = "AND" → Derives .notExpr right second →
        Derives .andExpr (left ++ operator :: right) (.conjunction first second)
  | negation {operator : String} {tokens : List String} {tree : Expression} :
      upper operator = "NOT" → Derives .notExpr tokens tree →
        Derives .notExpr (operator :: tokens) (.negation tree)
  | oneAtom {tokens : List String} {tree : Expression} :
      Derives .atom tokens tree → Derives .notExpr tokens tree
  | group {tokens : List String} {tree : Expression} :
      Derives .orExpr tokens tree → Derives .atom ("(" :: tokens ++ [")"]) tree
  | predicate {token : String} {predicate : Predicate} :
      readPredicate token = some predicate → Derives .atom [token] (.predicate predicate)

def Written (scope : String) (tree : Expression) : Prop :=
  ∃ tokens, Lexes scope.toList tokens ∧ Derives .orExpr tokens tree

/-- An expression grants access if it is blank, or is well formed and true of the
requester. -/
def Grants (scope : String) (requester : RequesterContext) : Prop :=
  Text.strip scope = "" ∨ ∃ tree, Written scope tree ∧ tree.value requester = true

/-! ## Nesting -/

/-- How deep the reading of some tokens goes, in calls. An operand that `negations` stand
before is `negations + 4` calls below the expression that it belongs to, which is itself
`depth` calls deep and within groups that begin at the depths `outer`. Where no operand is
expected there is `none`. The first token that fits nowhere ends the reading. -/
def depthFrom (outer : List Nat) (depth : Nat) : Option Nat → List String → Nat
  | some negations, [] => depth + negations + 4
  | none, [] => 0
  | some negations, token :: rest =>
      if upper token = "NOT" then depthFrom outer depth (some (negations + 1)) rest
      else if token = "(" then
        max (depth + negations + 4)
          (depthFrom (depth :: outer) (depth + negations + 4) (some 0) rest)
      else if (readPredicate token).isSome then
        max (depth + negations + 4) (depthFrom outer depth none rest)
      else depth + negations + 4
  | none, token :: rest =>
      if upper token = "AND" ∨ upper token = "OR" then depthFrom outer depth (some 0) rest
      else if token = ")" then
        match outer with
        | [] => 0
        | enclosing :: outer => depthFrom outer enclosing none rest
      else 0

def nesting (scope : String) : Nat :=
  if tokenize scope = [] then 0 else depthFrom [] 0 (some 0) (tokenize scope)

end Grammar

end Audience

end Agtp
