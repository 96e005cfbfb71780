import Agtp.Foundation.KeyOrder
import Agtp.Foundation.Utf8
import Agtp.Server.ClientCertificate
import Mathlib.Data.List.Dedup

/-! # Scope commitments

The scopes that a certificate commits its agent to, as they are written into it and as they are
read back. -/

namespace Agtp.CertExtension

/-! ## Writing -/

def scopeTokens [TextOf] (collected : List String) : List String → Except String (List String)
  | [] => .ok collected
  | scope :: rest =>
      let token := Text.strip scope
      if token = "" then scopeTokens collected rest
      else if ',' ∈ token.toList then
        .error (s!"scope token {TextOf.quoted token} contains ',' which is the wire " ++
          "separator")
      else if token ∈ collected then scopeTokens collected rest
      else scopeTokens (collected ++ [token]) rest

variable [TextOf]

def canonicalScopes (scopes : List String) : Except String (List String) :=
  (scopeTokens [] scopes).map fun tokens => tokens.mergeSort (decide <| · ≤ ·)

def authorityScopePayload (scopes : List String) : Except String Bytes :=
  (canonicalScopes scopes).map fun tokens =>
    Utf8.encode (String.intercalate "," tokens).toList

/-! ## The canonical form -/

def IsToken (token : String) : Prop :=
  token ≠ "" ∧ Text.strip token = token ∧ ',' ∉ token.toList

theorem of_scopeTokens {scopes collected tokens : List String}
    (collect : scopeTokens collected scopes = .ok tokens)
    (distinct : collected.Nodup) (proper : ∀ token ∈ collected, IsToken token) :
    tokens.Nodup ∧ (∀ token ∈ tokens, IsToken token) ∧
      ∀ token, token ∈ tokens ↔
        token ∈ collected ∨ token ≠ "" ∧ token ∈ scopes.map Text.strip := by
  induction scopes generalizing collected with
  | nil =>
      cases collect
      exact ⟨distinct, proper, fun token => by simp⟩
  | cons scope rest induction =>
      rw [scopeTokens] at collect
      split at collect
      · next blank =>
          rcases induction collect distinct proper with ⟨nodup, within, members⟩
          refine ⟨nodup, within, fun token => ?_⟩
          rw [members, List.map_cons, List.mem_cons, blank]
          exact or_congr_right (and_congr_right fun some => by simp [some])
      · next some =>
          split at collect
          · cases collect
          · next solid =>
              split at collect
              · next known =>
                  rcases induction collect distinct proper with ⟨nodup, within, members⟩
                  refine ⟨nodup, within, fun token => ?_⟩
                  rw [members, List.map_cons, List.mem_cons]
                  constructor
                  · intro member
                    exact member.imp_right fun found => ⟨found.1, .inr found.2⟩
                  · intro member
                    rcases member with early | ⟨filled, rfl | late⟩
                    · exact .inl early
                    · exact .inl known
                    · exact .inr ⟨filled, late⟩
              · next fresh =>
                  have proper' : ∀ token ∈ collected ++ [Text.strip scope], IsToken token := by
                    intro token member
                    rcases List.mem_append.mp member with early | late
                    · exact proper token early
                    · cases List.mem_singleton.mp late
                      exact ⟨some, Text.strip_strip scope, solid⟩
                  have distinct' : (collected ++ [Text.strip scope]).Nodup :=
                    List.nodup_append.mpr ⟨distinct, List.nodup_singleton _, by
                      intro token early other late same
                      cases List.mem_singleton.mp late
                      exact fresh (same ▸ early)⟩
                  rcases induction collect distinct' proper' with ⟨nodup, within, members⟩
                  refine ⟨nodup, within, fun token => ?_⟩
                  rw [members, List.map_cons, List.mem_cons, List.mem_append,
                    List.mem_singleton]
                  constructor
                  · intro member
                    rcases member with (early | rfl) | late
                    · exact .inl early
                    · exact .inr ⟨some, .inl rfl⟩
                    · exact .inr ⟨late.1, .inr late.2⟩
                  · intro member
                    rcases member with early | ⟨filled, rfl | late⟩
                    · exact .inl (.inl early)
                    · exact .inl (.inr rfl)
                    · exact .inr ⟨filled, late⟩

theorem scopeTokens_of_solid {scopes : List String} (collected : List String)
    (solid : ∀ scope ∈ scopes, ',' ∉ (Text.strip scope).toList) :
    ∃ tokens, scopeTokens collected scopes = .ok tokens := by
  induction scopes generalizing collected with
  | nil => exact ⟨collected, rfl⟩
  | cons scope rest induction =>
      have later := fun collected => induction collected fun other member =>
        solid other (List.mem_cons_of_mem scope member)
      rw [scopeTokens, if_neg (solid scope List.mem_cons_self)]
      split
      · exact later _
      · split
        · exact later _
        · exact later _

theorem of_canonicalScopes {scopes tokens : List String}
    (canonical : canonicalScopes scopes = .ok tokens) :
    tokens.Pairwise (· < ·) ∧ (∀ token ∈ tokens, IsToken token) ∧
      ∀ token, token ∈ tokens ↔ token ≠ "" ∧ token ∈ scopes.map Text.strip := by
  rw [canonicalScopes] at canonical
  cases collect : scopeTokens [] scopes with
  | error message =>
      rw [collect] at canonical
      cases canonical
  | ok found =>
      rw [collect] at canonical
      cases canonical
      rcases of_scopeTokens collect List.nodup_nil (by simp) with ⟨nodup, within, members⟩
      have sorted := @KeyOrder.pairwise_mergeSort _ _ _ id (decide <| · ≤ ·)
        (fun _ _ => decide_eq_true_iff) found
      have distinct := (List.mergeSort_perm found (decide <| · ≤ ·)).nodup_iff.mpr nodup
      refine ⟨?_, fun token member => within token (List.mem_mergeSort.mp member), fun token => ?_⟩
      · exact sorted.imp₂ (fun _ _ below different => lt_of_le_of_ne below different) distinct
      · rw [List.mem_mergeSort, members]
        simp

omit [TextOf] in
theorem eq_of_sorted {first second : List String} (sorted : first.Pairwise (· < ·))
    (sorted' : second.Pairwise (· < ·)) (same : ∀ token, token ∈ first ↔ token ∈ second) :
    first = second := by
  apply List.Perm.eq_of_pairwise (fun _ _ _ _ below above => (lt_asymm below above).elim)
    sorted sorted'
  exact (List.perm_ext_iff_of_nodup (sorted.imp ne_of_lt) (sorted'.imp ne_of_lt)).mpr same

theorem canonicalScopes_of_sorted {tokens : List String} (sorted : tokens.Pairwise (· < ·))
    (proper : ∀ token ∈ tokens, IsToken token) : canonicalScopes tokens = .ok tokens := by
  rcases scopeTokens_of_solid [] (fun token member => by
    rw [(proper token member).2.1]
    exact (proper token member).2.2) with ⟨found, collect⟩
  have canonical : canonicalScopes tokens = .ok (found.mergeSort (decide <| · ≤ ·)) := by
    rw [canonicalScopes, collect]
    rfl
  rcases of_canonicalScopes canonical with ⟨ordered, _, members⟩
  have trimmed : tokens.map Text.strip = tokens := by
    conv => rhs; rw [← List.map_id tokens]
    exact List.map_congr_left fun token member => (proper token member).2.1
  have same (token : String) : token ∈ found.mergeSort (decide <| · ≤ ·) ↔ token ∈ tokens := by
    rw [members, trimmed]
    exact ⟨fun member => member.2, fun member => ⟨(proper token member).1, member⟩⟩
  rw [canonical, eq_of_sorted ordered sorted same]

theorem solid_of_canonicalScopes {scopes tokens : List String}
    (canonical : canonicalScopes scopes = .ok tokens) :
    ∀ token ∈ scopes.map Text.strip, ',' ∉ token.toList := by
  rcases of_canonicalScopes canonical with ⟨_, proper, members⟩
  intro token member
  by_cases blank : token = ""
  · rw [blank]
    exact List.not_mem_nil
  · exact (proper token ((members token).mpr ⟨blank, member⟩)).2.2

theorem canonicalScopes_congr {first second tokens : List String}
    (same : ∀ token, token ∈ first.map Text.strip ↔ token ∈ second.map Text.strip)
    (canonical : canonicalScopes first = .ok tokens) : canonicalScopes second = .ok tokens := by
  have solid := solid_of_canonicalScopes canonical
  rcases scopeTokens_of_solid [] (fun scope member =>
    solid _ ((same _).mpr (List.mem_map_of_mem member))) with ⟨found, collect⟩
  have other : canonicalScopes second = .ok (found.mergeSort (decide <| · ≤ ·)) := by
    rw [canonicalScopes, collect]
    rfl
  rcases of_canonicalScopes canonical with ⟨sorted, _, members⟩
  rcases of_canonicalScopes other with ⟨sorted', _, members'⟩
  rw [other, eq_of_sorted sorted' sorted fun token => by rw [members, members', same]]

/-! ## Bytes and text -/

omit [TextOf] in
theorem decodeUtf8_eq_some_iff {raw : Bytes} {text : String} :
    decodeUtf8 raw = some text ↔ raw = Utf8.encode text.toList := by
  have written : Utf8.encode text.toList = text.toByteArray.data.toList := by
    rw [← String.utf8Encode_toList]
    simp [List.utf8Encode, Utf8.encode]
  rw [decodeUtf8, String.fromUTF8?, written]
  constructor
  · intro decoded
    split at decoded
    · cases decoded
      rfl
    · cases decoded
  · intro bytes
    have same : (⟨raw.toArray⟩ : ByteArray) = text.toByteArray := by
      rw [bytes]
    rw [dif_pos (same ▸ text.isValidUTF8)]
    exact congrArg some (String.toByteArray_inj.mp same)

omit [TextOf] in
theorem split_join {tokens : List String} (some : tokens ≠ [])
    (solid : ∀ token ∈ tokens, ',' ∉ token.toList) :
    Text.split ',' (String.intercalate "," tokens) = tokens := by
  have parts : ∀ part ∈ tokens.map String.toList, ',' ∉ part := by
    intro part member
    rcases List.mem_map.mp member with ⟨token, within, rfl⟩
    exact solid token within
  have separator : ",".toList = [','] := rfl
  rw [Text.split, String.toList_intercalate, separator,
    Text.splitCharacters_intercalate (by simpa using some) parts, List.map_map]
  conv => rhs; rw [← List.map_id tokens]
  exact List.map_congr_left fun token _ => String.ofList_toList

omit [TextOf] in
theorem join_split (text : String) : String.intercalate "," (Text.split ',' text) = text := by
  apply String.toList_inj.mp
  rw [String.toList_intercalate, Text.split, List.map_map, Text.splitCharacters_eq_splitOn]
  have same : (String.toList ∘ String.ofList) = id := by
    funext characters
    exact String.toList_ofList
  rw [same, List.map_id]
  exact List.intercalate_splitOn ','

omit [TextOf] in
theorem solid_of_mem_split {text part : String} (member : part ∈ Text.split ',' text) :
    ',' ∉ part.toList := by
  rcases List.mem_map.mp member with ⟨characters, within, rfl⟩
  rw [String.toList_ofList]
  exact Text.notMem_of_mem_splitCharacters within

/-! ## What is written is read -/

theorem parse_of_payload {scopes : List String} {payload : Bytes}
    (written : authorityScopePayload scopes = .ok payload) :
    ∃ tokens, canonicalScopes scopes = .ok tokens ∧
      parseScopeCommitment (some payload) = .ok (some tokens) := by
  rw [authorityScopePayload] at written
  cases canonical : canonicalScopes scopes with
  | error message =>
      rw [canonical] at written
      cases written
  | ok tokens =>
      rw [canonical] at written
      cases written
      rcases of_canonicalScopes canonical with ⟨sorted, proper, _⟩
      refine ⟨tokens, rfl, ?_⟩
      have kept : (Text.split ',' (String.intercalate "," tokens)).filter (· ≠ "") = tokens := by
        by_cases empty : tokens = []
        · rw [empty]
          decide
        · rw [split_join empty fun token member => (proper token member).2.2,
            List.filter_eq_self]
          exact fun token member => by simpa using (proper token member).1
      rw [parseScopeCommitment, decodeUtf8_eq_some_iff.mpr rfl]
      dsimp only
      rw [kept, if_pos sorted]

theorem written_iff (raw : Bytes) :
    (∃ scopes, authorityScopePayload scopes = .ok raw) ↔
      ∃ text, decodeUtf8 raw = some text ∧ (text = "" ∨
        (Text.split ',' text).Pairwise (· < ·) ∧
          ∀ part ∈ Text.split ',' text, part ≠ "" ∧ Text.strip part = part) := by
  constructor
  · intro ⟨scopes, written⟩
    rw [authorityScopePayload] at written
    cases canonical : canonicalScopes scopes with
    | error message =>
        rw [canonical] at written
        cases written
    | ok tokens =>
        rw [canonical] at written
        cases written
        rcases of_canonicalScopes canonical with ⟨sorted, proper, _⟩
        refine ⟨String.intercalate "," tokens, decodeUtf8_eq_some_iff.mpr rfl, ?_⟩
        by_cases empty : tokens = []
        · exact .inl (by rw [empty]; rfl)
        · rw [split_join empty fun token member => (proper token member).2.2]
          exact .inr ⟨sorted, fun part member =>
            ⟨(proper part member).1, (proper part member).2.1⟩⟩
  · intro ⟨text, decoded, form⟩
    have bytes := decodeUtf8_eq_some_iff.mp decoded
    rcases form with rfl | ⟨sorted, proper⟩
    · refine ⟨[], ?_⟩
      rw [authorityScopePayload, canonicalScopes_of_sorted .nil (by simp), bytes]
      rfl
    · refine ⟨Text.split ',' text, ?_⟩
      rw [authorityScopePayload, canonicalScopes_of_sorted sorted fun part member =>
        ⟨(proper part member).1, (proper part member).2, solid_of_mem_split member⟩, bytes]
      exact congrArg (fun joined => Except.ok (Utf8.encode joined.toList)) (join_split text)

/-! ## What is read -/

def Slack (raw : Bytes) : Prop :=
  ∃ text, decodeUtf8 raw = some text ∧ text ≠ "" ∧
    ((Text.split ',' text).filter (· ≠ "")).Pairwise (· < ·) ∧
    ∃ part ∈ Text.split ',' text, part = "" ∨ Text.strip part ≠ part

omit [TextOf] in
theorem accepted_iff (raw : Bytes) :
    (∃ tokens, parseScopeCommitment (some raw) = .ok tokens) ↔
      ∃ text, decodeUtf8 raw = some text ∧
        ((Text.split ',' text).filter (· ≠ "")).Pairwise (· < ·) := by
  rw [parseScopeCommitment]
  cases decoded : decodeUtf8 raw with
  | none => exact ⟨nofun, nofun⟩
  | some text =>
      dsimp only
      split
      · next sorted => exact ⟨fun _ => ⟨text, rfl, sorted⟩, fun _ => ⟨_, rfl⟩⟩
      · next unsorted =>
          refine ⟨nofun, fun ⟨_, same, sorted⟩ => ?_⟩
          cases same
          exact absurd sorted unsorted

theorem accepted_iff_written_iff (raw : Bytes) :
    ((∃ tokens, parseScopeCommitment (some raw) = .ok tokens) ↔
      ∃ scopes, authorityScopePayload scopes = .ok raw) ↔ ¬Slack raw := by
  rw [accepted_iff, written_iff]
  constructor
  · intro same ⟨text, decoded, filled, sorted, part, member, loose⟩
    rcases same.mp ⟨text, decoded, sorted⟩ with ⟨other, again, form⟩
    rw [decoded] at again
    cases again
    rcases form with empty | ⟨_, proper⟩
    · exact filled empty
    · exact loose.elim (proper part member).1 (fun untrimmed => untrimmed (proper part member).2)
  · intro strict
    constructor
    · intro ⟨text, decoded, sorted⟩
      refine ⟨text, decoded, ?_⟩
      by_cases empty : text = ""
      · exact .inl empty
      · have proper : ∀ part ∈ Text.split ',' text, part ≠ "" ∧ Text.strip part = part := by
          intro part member
          by_contra loose
          refine strict ⟨text, decoded, empty, sorted, part, member, ?_⟩
          by_cases blank : part = ""
          · exact .inl blank
          · exact .inr fun trimmed => loose ⟨blank, trimmed⟩
        have kept : (Text.split ',' text).filter (· ≠ "") = Text.split ',' text :=
          List.filter_eq_self.mpr fun part member => by simpa using (proper part member).1
        rw [kept] at sorted
        exact .inr ⟨sorted, proper⟩
    · intro ⟨text, decoded, form⟩
      refine ⟨text, decoded, ?_⟩
      rcases form with rfl | ⟨sorted, _⟩
      · have empty : (Text.split ',' "").filter (· ≠ "") = [] := by decide
        rw [empty]
        exact .nil
      · exact sorted.filter _

/-- Scopes are written and read without loss, whatever their order, and the reader accepts
exactly the bytes that are written, except for slack text. -/
theorem scopeCommitment_codec :
    (∀ scopes payload, authorityScopePayload scopes = .ok payload →
      ∃ tokens, parseScopeCommitment (some payload) = .ok (some tokens) ∧
        tokens.Pairwise (· < ·) ∧ (∀ token ∈ tokens, Text.strip token = token) ∧
        ∀ token, token ∈ tokens ↔ token ≠ "" ∧ token ∈ scopes.map Text.strip) ∧
    (∀ first second : List String, (∀ scope, scope ∈ first ↔ scope ∈ second) →
      ∀ payload, authorityScopePayload first = .ok payload →
        authorityScopePayload second = .ok payload) ∧
    ∀ raw, ((∃ tokens, parseScopeCommitment (some raw) = .ok tokens) ↔
      ∃ scopes, authorityScopePayload scopes = .ok raw) ↔ ¬Slack raw := by
  refine ⟨?_, ?_, accepted_iff_written_iff⟩
  · intro scopes payload written
    rcases parse_of_payload written with ⟨tokens, canonical, read⟩
    rcases of_canonicalScopes canonical with ⟨sorted, proper, members⟩
    exact ⟨tokens, read, sorted, fun token member => (proper token member).2.1, members⟩
  · intro first second same payload written
    have tokens (token : String) :
        token ∈ first.map Text.strip ↔ token ∈ second.map Text.strip := by
      simp only [List.mem_map, same]
    rw [authorityScopePayload] at written ⊢
    cases canonical : canonicalScopes first with
    | error message =>
        rw [canonical] at written
        cases written
    | ok found =>
        rw [canonical] at written
        rw [canonicalScopes_congr tokens canonical]
        exact written

end Agtp.CertExtension

namespace Agtp.ScopeSamples

open scoped Plain
open CertExtension

/-- The text `,a` is accepted, and no list of scopes is written so. -/
theorem leading_separator :
    parseScopeCommitment (some (Utf8.encode [',', 'a'])) = .ok (some ["a"]) ∧
      ¬∃ scopes, authorityScopePayload scopes = .ok (Utf8.encode [',', 'a']) := by
  have decoded : decodeUtf8 (Utf8.encode [',', 'a']) = some (String.ofList [',', 'a']) :=
    decodeUtf8_eq_some_iff.mpr (by rw [String.toList_ofList])
  have parts : Text.split ',' (String.ofList [',', 'a']) = ["", "a"] := by decide
  constructor
  · rw [parseScopeCommitment, decoded]
    dsimp only
    rw [parts]
    decide
  · rw [written_iff]
    intro ⟨text, again, form⟩
    rw [decoded] at again
    cases again
    rcases form with empty | ⟨_, proper⟩
    · exact absurd empty (by decide)
    · rw [parts] at proper
      exact (proper "" List.mem_cons_self).1 rfl

end Agtp.ScopeSamples
