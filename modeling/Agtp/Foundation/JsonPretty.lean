import Agtp.Foundation.JsonReading

/-! # Indented texts

`json.dumps` with an indentation of two. -/

namespace Agtp.JsonText

/-- A line end, and the indentation of the next line. -/
def lineAt (level : Nat) : List Char := '\n' :: List.replicate (2 * level) ' '

mutual

/-- `json.dumps(value, indent=2)` at a level of indentation, where it does not raise. -/
def pretty (level : Nat) : Json → List Char
  | .array [] => ['[', ']']
  | .array (value :: values) =>
      '[' :: lineAt (level + 1) ++ pretty (level + 1) value ++ prettyItems level values
  | .object [] => ['\x7b', '\x7d']
  | .object ((key, value) :: members) =>
      '\x7b' :: lineAt (level + 1) ++ quoted key ++ ':' :: ' ' :: pretty (level + 1) value ++
        prettyMembers level members
  | value => text value

def prettyItems (level : Nat) : List Json → List Char
  | [] => lineAt level ++ [']']
  | value :: values =>
      ',' :: lineAt (level + 1) ++ pretty (level + 1) value ++ prettyItems level values

def prettyMembers (level : Nat) : List (String × Json) → List Char
  | [] => lineAt level ++ ['\x7d']
  | (key, value) :: members =>
      ',' :: lineAt (level + 1) ++ quoted key ++ ':' :: ' ' :: pretty (level + 1) value ++
        prettyMembers level members

end

example : String.ofList (pretty 0 (.object [("a", .array [.int 1])])) =
    "\x7b\n  \"a\": [\n    1\n  ]\n\x7d" := by decide +kernel

variable [Floats]

theorem tokens_blank {character : Char} (blank : isBlank character = true)
    (rest : List Char) : tokens (character :: rest) = tokens rest := by
  rw [tokens, if_pos blank]

theorem tokens_line (level : Nat) (rest : List Char) :
    tokens (lineAt level ++ rest) = tokens rest := by
  have spaces (count : Nat) : tokens (List.replicate count ' ' ++ rest) = tokens rest := by
    induction count with
    | zero => rfl
    | succ count induction =>
        rw [List.replicate_succ, List.cons_append, tokens_blank rfl, induction]
  rw [lineAt, List.cons_append, tokens_blank rfl, spaces]

omit [Floats] in
theorem stops_line (level : Nat) (rest : List Char) : Stops (lineAt level ++ rest) := by
  intro character first
  cases first
  exact .inr (.inr (.inr rfl))

omit [Floats] in
theorem stops_prettyItems (level : Nat) (values : List Json) (rest : List Char) :
    Stops (prettyItems level values ++ rest) := by
  cases values with
  | nil =>
      rw [prettyItems, List.append_assoc]
      exact stops_line level _
  | cons value values =>
      intro character first
      cases first
      exact .inl rfl

omit [Floats] in
theorem stops_prettyMembers (level : Nat) (members : List (String × Json))
    (rest : List Char) : Stops (prettyMembers level members ++ rest) := by
  cases members with
  | nil =>
      rw [prettyMembers, List.append_assoc]
      exact stops_line level _
  | cons member members =>
      intro character first
      cases first
      exact .inl rfl

/-- The indented text of a value has the tokens of its compact one, in front of what has the
same tokens. -/
def ReadsAlike (value : Json) : Prop :=
  ∀ (level : Nat) (rest other : List Char), Stops rest → Ends other →
    tokens rest = tokens other →
      tokens (pretty level value ++ rest) = tokens (text value ++ other)

variable {rest other : List Char}

theorem tokens_prettyItems {values : List Json} (items : ∀ value ∈ values, ReadsAlike value)
    (level : Nat) (same : tokens rest = tokens other) :
    tokens (prettyItems level values ++ rest) = tokens (moreItems values ++ other) := by
  induction values with
  | nil =>
      rw [prettyItems, moreItems, List.append_assoc, tokens_line, List.singleton_append,
        List.singleton_append, tokens_punctuation rfl rfl, tokens_punctuation rfl rfl, same]
  | cons value values induction =>
      have later := induction fun other member => items other (List.mem_cons_of_mem _ member)
      have item := items value List.mem_cons_self (level + 1) _ _
        (stops_prettyItems level values rest) (ends_moreItems values other) later
      rw [prettyItems, moreItems, List.append_assoc, List.append_assoc, List.cons_append,
        List.append_assoc, List.cons_append, tokens_punctuation rfl rfl,
        tokens_punctuation rfl rfl, tokens_line, item]

theorem tokens_prettyMember (key : String) {value : Json} (alike : ReadsAlike value)
    (level : Nat) (stops : Stops rest) (ends : Ends other)
    (same : tokens rest = tokens other) :
    tokens (lineAt level ++ quoted key ++ ':' :: ' ' :: pretty level value ++ rest) =
      tokens (quoted key ++ ':' :: text value ++ other) := by
  have read := alike level rest other stops ends same
  have colon (after : List Char) : tokens (':' :: after) = .colon :: tokens after :=
    tokens_punctuation rfl rfl after
  rw [List.append_assoc, List.append_assoc, List.append_assoc, tokens_line, tokens_quoted,
    tokens_quoted, List.cons_append, List.cons_append, List.cons_append, colon, colon,
    tokens_blank rfl, read]

theorem tokens_prettyMembers {members : List (String × Json)}
    (values : ∀ member ∈ members, ReadsAlike member.2) (level : Nat)
    (same : tokens rest = tokens other) :
    tokens (prettyMembers level members ++ rest) = tokens (moreMembers members ++ other) := by
  induction members with
  | nil =>
      rw [prettyMembers, moreMembers, List.append_assoc, tokens_line, List.singleton_append,
        List.singleton_append, tokens_punctuation rfl rfl, tokens_punctuation rfl rfl, same]
  | cons member members induction =>
      obtain ⟨key, value⟩ := member
      have later := induction fun other member => values other (List.mem_cons_of_mem _ member)
      have first := tokens_prettyMember key (values _ List.mem_cons_self) (level + 1)
        (stops_prettyMembers level members rest) (ends_moreMembers members other) later
      have left : prettyMembers level ((key, value) :: members) ++ rest =
          ',' :: (lineAt (level + 1) ++ quoted key ++ ':' :: ' ' :: pretty (level + 1) value ++
            (prettyMembers level members ++ rest)) := by
        simp [prettyMembers]
      have right : moreMembers ((key, value) :: members) ++ other =
          ',' :: (quoted key ++ ':' :: text value ++ (moreMembers members ++ other)) := by
        simp [moreMembers]
      rw [left, right, tokens_punctuation rfl rfl, tokens_punctuation rfl rfl, first]

theorem readsAlike_array {values : List Json} (items : ∀ value ∈ values, ReadsAlike value) :
    ReadsAlike (.array values) := by
  intro level rest other _ _ same
  cases values with
  | nil =>
      have closed (after : List Char) : tokens ('[' :: ']' :: after) =
          .openArray :: .closeArray :: tokens after := by
        rw [tokens_punctuation rfl rfl, tokens_punctuation rfl rfl]
      change tokens (_ :: _ :: rest) = tokens (_ :: _ :: other)
      rw [closed rest, closed other, same]
  | cons value values =>
      have later := tokens_prettyItems
        (fun other member => items other (List.mem_cons_of_mem _ member)) level same
      have item := items value List.mem_cons_self (level + 1) _ _
        (stops_prettyItems level values rest) (ends_moreItems values other) later
      rw [pretty, text, List.append_assoc, List.append_assoc, List.cons_append,
        List.append_assoc, List.cons_append, tokens_punctuation rfl rfl,
        tokens_punctuation rfl rfl, tokens_line, item]

theorem readsAlike_object {members : List (String × Json)}
    (values : ∀ member ∈ members, ReadsAlike member.2) : ReadsAlike (.object members) := by
  intro level rest other _ _ same
  cases members with
  | nil =>
      have closed (after : List Char) : tokens ('\x7b' :: '\x7d' :: after) =
          .openObject :: .closeObject :: tokens after := by
        rw [tokens_punctuation rfl rfl, tokens_punctuation rfl rfl]
      change tokens (_ :: _ :: rest) = tokens (_ :: _ :: other)
      rw [closed rest, closed other, same]
  | cons member members =>
      obtain ⟨key, value⟩ := member
      have later := tokens_prettyMembers
        (fun other member => values other (List.mem_cons_of_mem _ member)) level same
      have first := tokens_prettyMember key (values _ List.mem_cons_self) (level + 1)
        (stops_prettyMembers level members rest) (ends_moreMembers members other) later
      have left : pretty level (.object ((key, value) :: members)) ++ rest =
          '\x7b' :: (lineAt (level + 1) ++ quoted key ++ ':' :: ' ' :: pretty (level + 1) value ++
            (prettyMembers level members ++ rest)) := by
        simp [pretty]
      have right : text (.object ((key, value) :: members)) ++ other =
          '\x7b' :: (quoted key ++ ':' :: text value ++ (moreMembers members ++ other)) := by
        simp [text]
      rw [left, right, tokens_punctuation rfl rfl, tokens_punctuation rfl rfl, first]

theorem readsAlike_of_held {value : Json} (held : Held value) : ReadsAlike value := by
  induction held with
  | null =>
      intro level rest other _ _ same
      exact (tokens_word rfl rfl rfl rest).trans
        ((congrArg _ same).trans (tokens_word rfl rfl rfl other).symm)
  | bool value =>
      intro level rest other _ _ same
      cases value <;> exact (tokens_word rfl rfl rfl rest).trans
        ((congrArg _ same).trans (tokens_word rfl rfl rfl other).symm)
  | int value =>
      intro level rest other stops ends same
      rw [pretty, text, tokens_int stops, tokens_int ends.stops, same]
      all_goals (intros; contradiction)
  | float float =>
      intro level rest other stops ends same
      rw [pretty, text, tokens_float float stops, tokens_float float ends.stops, same]
      all_goals (intros; contradiction)
  | string value =>
      intro level rest other _ _ same
      rw [pretty, text, tokens_quoted, tokens_quoted, same]
      all_goals (intros; contradiction)
  | array items induction => exact readsAlike_array induction
  | object distinct values induction => exact readsAlike_object induction

theorem loads_pretty {value : Json} (held : Held value) (limits : Limits) :
    loads limits (pretty 0 value) = loads limits (text value) := by
  have same := readsAlike_of_held held 0 [] [] nofun ends_nil rfl
  rw [List.append_nil, List.append_nil] at same
  rw [loads, loads, same]

theorem loads_prettyLine {value : Json} (held : Held value) (limits : Limits) :
    loads limits (pretty 0 value ++ ['\n']) = loads limits (text value) := by
  have blank : tokens ['\n'] = tokens [] := tokens_blank rfl []
  have stops : Stops ['\n'] := by
    intro character first
    exact .inr (.inr (.inr (Option.some.inj first).symm))
  have same := readsAlike_of_held held 0 ['\n'] [] stops ends_nil blank
  rw [List.append_nil] at same
  rw [loads, loads, same]

end Agtp.JsonText
