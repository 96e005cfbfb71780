import Mathlib.Data.List.DropRight
import Mathlib.Data.String.Basic

/-! # Text operations

The string operations that the server takes from its language: trimming,
splitting at a separator and case mapping. Splitting and trimming are computed
here; case mapping ranges over the whole of Unicode and is a parameter that
agrees with the ordinary mapping on ASCII text. -/

namespace Agtp.Text

/-- The characters for which `str.isspace` holds, which `str.strip` removes
from both ends. -/
def isSpace (character : Char) : Bool :=
  let code := character.toNat
  (9 ≤ code && code ≤ 13) || (28 ≤ code && code ≤ 32) || code == 0x85 ||
    code == 0xA0 || code == 0x1680 || (0x2000 ≤ code && code ≤ 0x200A) ||
    code == 0x2028 || code == 0x2029 || code == 0x202F || code == 0x205F ||
    code == 0x3000

def strip (text : String) : String :=
  String.ofList
    ((text.toList.dropWhile isSpace).reverse.dropWhile isSpace).reverse

example : strip " \t agent \n" = "agent" := by decide

def splitCharacters (separator : Char) : List Char → List (List Char)
  | [] => [[]]
  | character :: rest =>
      if character = separator then
        [] :: splitCharacters separator rest
      else
        match splitCharacters separator rest with
        | [] => [[character]]
        | part :: parts => (character :: part) :: parts

def split (separator : Char) (text : String) : List String :=
  (splitCharacters separator text.toList).map String.ofList

example : split ',' "read,,write" = ["read", "", "write"] := by decide

theorem splitCharacters_eq_splitOn (separator : Char) (characters : List Char) :
    splitCharacters separator characters = characters.splitOn separator := by
  induction characters with
  | nil => rfl
  | cons head tail induction =>
      rw [splitCharacters, induction, List.splitOn_cons_eq_if_modifyHead]
      by_cases same : head = separator
      · simp [same]
      · rw [if_neg same, if_neg (by simpa using same)]
        cases parts : tail.splitOn separator with
        | nil => exact absurd parts (List.splitOn_ne_nil separator tail)
        | cons part rest => rfl

theorem splitCharacters_ne_nil (separator : Char) (characters : List Char) :
    splitCharacters separator characters ≠ [] := by
  rw [splitCharacters_eq_splitOn]
  exact List.splitOn_ne_nil separator characters

theorem splitCharacters_of_notMem {separator : Char} {characters : List Char}
    (notMember : separator ∉ characters) :
    splitCharacters separator characters = [characters] := by
  rw [splitCharacters_eq_splitOn, List.splitOn_eq_singleton notMember]

theorem splitCharacters_append {separator : Char} {first : List Char}
    (notMember : separator ∉ first) (rest : List Char) :
    splitCharacters separator (first ++ separator :: rest) =
      first :: splitCharacters separator rest := by
  rw [splitCharacters_eq_splitOn, splitCharacters_eq_splitOn,
    List.splitOn_append_cons_self_of_not_mem notMember]

theorem splitCharacters_concat (separator : Char) (characters : List Char) :
    splitCharacters separator (characters ++ [separator]) =
      splitCharacters separator characters ++ [[]] := by
  rw [splitCharacters_eq_splitOn, splitCharacters_eq_splitOn, List.splitOn_append_cons_self,
    List.splitOn_nil]

theorem splitCharacters_intercalate {separator : Char} {parts : List (List Char)}
    (some : parts ≠ []) (notMember : ∀ part ∈ parts, separator ∉ part) :
    splitCharacters separator (List.intercalate [separator] parts) = parts := by
  rw [splitCharacters_eq_splitOn, List.splitOn_intercalate separator notMember some]

theorem notMem_of_mem_splitCharacters {separator : Char} {characters part : List Char}
    (member : part ∈ splitCharacters separator characters) : separator ∉ part := by
  induction characters generalizing part with
  | nil =>
      cases List.mem_singleton.mp member
      exact List.not_mem_nil
  | cons character rest induction =>
      unfold splitCharacters at member
      split at member
      · rcases List.mem_cons.mp member with rfl | later
        · exact List.not_mem_nil
        · exact induction later
      · next different =>
          split at member
          · cases List.mem_singleton.mp member
            simpa using Ne.symm different
          · next part parts found =>
              rcases List.mem_cons.mp member with rfl | later
              · have rest := induction (found ▸ List.mem_cons_self)
                simpa [Ne.symm different] using rest
              · exact induction (found ▸ List.mem_cons_of_mem _ later)

theorem strip_blank (text : String) : strip (String.ofList (' ' :: text.toList)) = strip text := by
  unfold strip
  rw [String.toList_ofList, List.dropWhile_cons_of_pos (by decide)]

theorem strip_solid {text : String}
    (solid : ∀ character ∈ text.toList, isSpace character = false) : strip text = text := by
  have kept {characters : List Char} (within : ∀ character ∈ characters, character ∈ text.toList) :
      characters.dropWhile isSpace = characters := by
    rw [List.dropWhile_eq_self_iff]
    intro some blank
    rw [solid _ (within _ (List.getElem_mem some))] at blank
    cases blank
  rw [strip, kept fun _ member => member, kept fun _ member => List.mem_reverse.mp member,
    List.reverse_reverse, String.ofList_toList]

theorem strip_strip (text : String) : strip (strip text) = strip text := by
  have front : (((text.toList.dropWhile isSpace).reverse.dropWhile isSpace).reverse).dropWhile
      isSpace = ((text.toList.dropWhile isSpace).reverse.dropWhile isSpace).reverse := by
    -- What is left after trimming the end starts as the text trimmed at its front does.
    have start : ((text.toList.dropWhile isSpace).reverse.dropWhile isSpace).reverse <+:
        text.toList.dropWhile isSpace := by
      rw [← List.reverse_suffix, List.reverse_reverse]
      exact List.dropWhile_suffix isSpace
    rw [List.dropWhile_eq_self_iff]
    intro some
    rw [start.getElem some]
    exact Bool.not_eq_true _ ▸ List.dropWhile_get_zero_not isSpace _ _
  rw [strip, strip, String.toList_ofList, front, List.reverse_reverse,
    List.dropWhile_idempotent]

/-- `text.split()`. -/
def words (text : String) : List String :=
  ((text.toList.splitOnP isSpace).filter (· ≠ [])).map String.ofList

theorem mem_splitOnP_iff {separates : Char → Bool} {characters part : List Char} :
    part ∈ characters.splitOnP separates ↔
      ∃ before after, characters = before ++ (part ++ after) ∧
        (∀ character ∈ part, separates character = false) ∧
        (∀ character ∈ before.getLast?, separates character = true) ∧
        ∀ character ∈ after.head?, separates character = true := by
  constructor
  · -- The induction is on the length: what follows the first separator is shorter.
    induction length : characters.length using Nat.strong_induction_on
      generalizing characters with
    | _ count induction =>
        have solid : ∀ character ∈ characters.takeWhile (!separates ·),
            separates character = false := fun character member => by
          simpa using List.mem_takeWhile_imp member
        have joined := List.takeWhile_append_dropWhile (p := (!separates ·)) (l := characters)
        intro member
        cases rest : characters.dropWhile (!separates ·) with
        | nil =>
            rw [rest, List.append_nil] at joined
            rw [joined] at solid
            rw [List.splitOnP_eq_singleton solid, List.mem_singleton] at member
            exact ⟨[], [], by simp [member], by rwa [member], by simp, by simp⟩
        | cons separator after =>
            have separates' : separates separator = true := by
              have first := List.head_dropWhile_not (!separates ·)
                (l := characters) (by rw [rest]; exact List.cons_ne_nil _ _)
              simpa [rest] using first
            rw [rest] at joined
            rw [← joined, List.splitOnP_append_cons_of_forall_mem solid separator separates',
              List.mem_cons] at member
            rcases member with same | later
            · exact ⟨[], separator :: after, by rw [same]; exact joined.symm,
                by rwa [same], by simp, by simpa using separates'⟩
            · have shorter : after.length < count := by
                rw [← length, ← joined, List.length_append, List.length_cons]
                omega
              rcases induction after.length shorter rfl later with
                ⟨before, behind, split, clean, front, back⟩
              refine ⟨characters.takeWhile (!separates ·) ++ separator :: before, behind,
                ?_, clean, ?_, back⟩
              · rw [List.append_assoc, List.cons_append, ← split, joined]
              · rw [List.getLast?_append, List.getLast?_cons]
                cases last : before.getLast? with
                | none => simpa using separates'
                | some ending => simpa using front ending last
  · intro ⟨before, after, split, clean, front, back⟩
    have ending : part ∈ (part ++ after).splitOnP separates := by
      cases after with
      | nil => rw [List.append_nil, List.splitOnP_eq_singleton clean]; exact List.mem_cons_self
      | cons separator after =>
          rw [List.splitOnP_append_cons_of_forall_mem clean separator (back separator rfl)]
          exact List.mem_cons_self
    rw [split]
    cases last : before.getLast? with
    | none => rwa [List.getLast?_eq_none_iff.mp last, List.nil_append]
    | some separator =>
        rcases List.getLast?_eq_some_iff.mp last with ⟨start, rfl⟩
        rw [List.append_assoc, List.singleton_append,
          List.splitOnP_append_cons start _ (front separator last)]
        exact List.mem_append_right _ ending

theorem solid_of_mem_words {text word : String} (member : word ∈ words text) :
    ∀ character ∈ word.toList, isSpace character = false := by
  rcases List.mem_map.mp member with ⟨part, held, rfl⟩
  rw [String.toList_ofList]
  rcases mem_splitOnP_iff.mp (List.mem_of_mem_filter held) with ⟨_, _, _, clean, _, _⟩
  exact clean

theorem words_word {word : List Char} (some : word ≠ [])
    (solid : ∀ character ∈ word, isSpace character = false) :
    words (String.ofList word) = [String.ofList word] := by
  rw [words, String.toList_ofList, List.splitOnP_eq_singleton solid]
  simp [some]

theorem words_cons {word : List Char} (some : word ≠ [])
    (solid : ∀ character ∈ word, isSpace character = false) (rest : List Char) :
    words (String.ofList (word ++ ' ' :: rest)) =
      String.ofList word :: words (String.ofList rest) := by
  rw [words, words, String.toList_ofList, String.toList_ofList,
    List.splitOnP_append_cons_of_forall_mem solid ' ' (by decide)]
  simp [some]

theorem strip_ne {text : List Char} {character : Char} (member : character ∈ text)
    (solid : isSpace character = false) : strip (String.ofList text) ≠ "" := by
  intro blank
  unfold strip at blank
  have front : character ∈ text.dropWhile isSpace := by
    rw [← List.takeWhile_append_dropWhile (p := isSpace) (l := text)] at member
    rcases List.mem_append.mp member with taken | kept
    · rw [List.mem_takeWhile_imp taken] at solid
      cases solid
    · exact kept
  have back : character ∈ (text.dropWhile isSpace).reverse.dropWhile isSpace := by
    have reversed := List.mem_reverse.mpr front
    rw [← List.takeWhile_append_dropWhile (p := isSpace)
      (l := (text.dropWhile isSpace).reverse)] at reversed
    rcases List.mem_append.mp reversed with taken | kept
    · rw [List.mem_takeWhile_imp taken] at solid
      cases solid
    · exact kept
  have kept : character ∈ (String.ofList
      (((String.ofList text).toList.dropWhile isSpace).reverse.dropWhile isSpace).reverse).toList :=
    by simpa using back
  rw [blank] at kept
  exact absurd kept List.not_mem_nil

/-- `text.split(maxsplit=2)`: up to two words, and what follows them. -/
def wordsAndRest (text : String) : Option String × Option String × String :=
  let word (characters : List Char) : Option String :=
    if characters = [] then none
    else some (String.ofList (characters.takeWhile (!isSpace ·)))
  let after (characters : List Char) : List Char :=
    (characters.dropWhile (!isSpace ·)).dropWhile isSpace
  let first := text.toList.dropWhile isSpace
  let second := after first
  (word first, word second, String.ofList (after second))

def asciiLower (text : String) : String :=
  String.ofList (text.toList.map Char.toLower)

def asciiUpper (text : String) : String :=
  String.ofList (text.toList.map Char.toUpper)

theorem toUpper_toUpper (character : Char) :
    character.toUpper.toUpper = character.toUpper := by
  unfold Char.toUpper
  split
  · next lowerCase =>
      rw [dif_neg]
      intro again
      have atLeast := UInt32.le_iff_toNat_le.mp lowerCase.1
      have atMost := UInt32.le_iff_toNat_le.mp lowerCase.2
      have above := UInt32.le_iff_toNat_le.mp again.1
      have a : 'a'.val.toNat = 97 := rfl
      have z : 'z'.val.toNat = 122 := rfl
      have shift : ('A'.val - 'a'.val).toNat = 4294967264 := rfl
      simp only [UInt32.toNat_add, a, z, shift] at atLeast atMost above
      omega
  · rfl

theorem asciiUpper_asciiUpper (text : String) :
    asciiUpper (asciiUpper text) = asciiUpper text := by
  simp [asciiUpper, Function.comp_def, toUpper_toUpper]

def isAscii (text : String) : Bool :=
  text.toList.all fun character => character.toNat < 128

theorem forall_mem_of_all {characters : List Char} {Holds : Char → Prop} [DecidablePred Holds]
    (all : (characters.all fun character => Holds character) = true) :
    ∀ character ∈ characters, Holds character :=
  fun character member => of_decide_eq_true (List.all_eq_true.mp all character member)

end Agtp.Text

namespace Agtp

/-- `str.lower` and `str.upper`. The mappings of characters outside ASCII are
those of the Unicode tables and stay abstract. -/
class TextCase where
  lower : String → String
  upper : String → String
  lower_ascii : ∀ text, Text.isAscii text → lower text = Text.asciiLower text
  upper_ascii : ∀ text, Text.isAscii text → upper text = Text.asciiUpper text
  upper_upper : ∀ text, upper (upper text) = upper text

export TextCase (lower upper)

namespace Plain

/-- Case mapping where every text at hand is ASCII. -/
scoped instance : TextCase where
  lower := Text.asciiLower
  upper := Text.asciiUpper
  lower_ascii := fun _ _ => rfl
  upper_ascii := fun _ _ => rfl
  upper_upper := Text.asciiUpper_asciiUpper

end Plain

end Agtp
