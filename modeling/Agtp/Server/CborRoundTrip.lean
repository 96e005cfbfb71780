import Agtp.Server.Cbor
import Mathlib.Algebra.Group.Int.Defs

/-! # Encoded values come back

Whatever follows it, the encoding of a value is decoded to that value, its dictionaries in
the order of their encoded keys, as deep as the stack allows. -/

namespace Agtp.Cbor

/-! ## Heads -/

theorem readArgument_append {size value : Nat} (fits : value < 256 ^ size) (name : String)
    (major : Nat) (rest : Bytes) :
    readArgument size name major (BigEndian.toBytes size value ++ rest) =
      .ok (major, value, rest) := by
  have length := BigEndian.length_toBytes size value
  unfold readArgument
  rw [if_neg (by rw [List.length_append, length]; omega)]
  have front : (BigEndian.toBytes size value ++ rest).take size = BigEndian.toBytes size value :=
    List.take_left' length
  have back : (BigEndian.toBytes size value ++ rest).drop size = rest := List.drop_left' length
  rw [front, back, BigEndian.fromBytes_toBytes fits]

theorem head_byte {major info : Nat} (majorBound : major < 8) (infoBound : info < 32) :
    (UInt8.ofNat (32 * major + info)).toNat / 32 = major ∧
      (UInt8.ofNat (32 * major + info)).toNat % 32 = info := by
  rw [UInt8.toNat_ofNat']
  omega

theorem encHead_reads {major argument : Nat} (majorBound : major < 8)
    (fits : argument < 2 ^ 64) :
    ∃ head, encHead major argument = .ok head ∧
      ∀ rest, readHead (head ++ rest) = .ok (major, argument, rest) := by
  unfold encHead
  dsimp only
  split
  · next small =>
      have byte := head_byte majorBound (small.trans (by decide))
      refine ⟨_, rfl, fun rest => ?_⟩
      rw [List.singleton_append, readHead, byte.1, byte.2, if_pos small]
  have sized {info size : Nat} (name : String) (infoBound : info < 32) (large : ¬info < 24)
      (argumentFits : argument < 256 ^ size)
      (reads : ∀ (byte : UInt8) (rest : Bytes), byte.toNat % 32 = info →
        readHead (byte :: rest) = readArgument size name (byte.toNat / 32) rest) (rest : Bytes) :
      readHead (.ofNat (32 * major + info) :: (BigEndian.toBytes size argument ++ rest)) =
        .ok (major, argument, rest) := by
    have byte := head_byte majorBound infoBound
    rw [reads _ _ byte.2, byte.1, readArgument_append argumentFits]
  split
  · next small =>
      refine ⟨_, rfl, fun rest => ?_⟩
      have one : BigEndian.toBytes 1 argument = [.ofNat argument] := rfl
      rw [List.cons_append, ← one]
      apply sized "uint8" (by decide) (by decide) small
      intro byte rest info
      simp [readHead, info]
  split
  · next small =>
      refine ⟨_, rfl, fun rest => ?_⟩
      apply sized "uint16" (by decide) (by decide) small
      intro byte rest info
      simp [readHead, info]
  split
  · next small =>
      refine ⟨_, rfl, fun rest => ?_⟩
      apply sized "uint32" (by decide) (by decide) small
      intro byte rest info
      simp [readHead, info]
  · refine ⟨_, rfl, fun rest => ?_⟩
    apply sized "uint64" (by decide) (by decide) fits
    intro byte rest info
    simp [readHead, info]

/-! ## Values as they come back -/

def bytesOf (value : Value) : Bytes :=
  match encode value with
  | .ok encoded => encoded
  | .error _ => []

def encodedEntry (entry : Value × Value) : Bytes × Bytes :=
  (bytesOf entry.1, bytesOf entry.2)

def entryOrder (left right : Value × Value) : Bool :=
  keyOrder (encodedEntry left) (encodedEntry right)

mutual

def sortKeys : Value → Value
  | .list items => .list (sortItems items)
  | .map entries => .map ((sortEntries entries).mergeSort entryOrder)
  | .tag number value => .tag number (sortKeys value)
  | value => value

def sortItems : List Value → List Value
  | [] => []
  | item :: items => sortKeys item :: sortItems items

def sortEntries : List (Value × Value) → List (Value × Value)
  | [] => []
  | (key, value) :: entries => (key, sortKeys value) :: sortEntries entries

end

mutual

def levels : Value → Nat
  | .list items => 1 + itemLevels items
  | .map entries => 1 + entryLevels entries
  | .tag _ value => 1 + levels value
  | _ => 1

def itemLevels : List Value → Nat
  | [] => 0
  | item :: items => max (levels item) (itemLevels items)

def entryLevels : List (Value × Value) → Nat
  | [] => 0
  | (key, value) :: entries => max (max (levels key) (levels value)) (entryLevels entries)

end

def sortValue (entry : Value × Value) : Value × Value := (entry.1, sortKeys entry.2)

theorem sortEntries_eq (entries : List (Value × Value)) :
    sortEntries entries = entries.map sortValue := by
  induction entries with
  | nil => rfl
  | cons entry entries induction => rw [sortEntries, induction]; rfl

theorem entryLevels_le_iff {entries : List (Value × Value)} {bound : Nat} :
    entryLevels entries ≤ bound ↔
      ∀ entry ∈ entries, levels entry.1 ≤ bound ∧ levels entry.2 ≤ bound := by
  induction entries with
  | nil => simp [entryLevels]
  | cons entry entries induction =>
      rw [entryLevels, List.forall_mem_cons, ← induction]
      omega

theorem entryLevels_perm {entries others : List (Value × Value)} (perm : entries.Perm others) :
    entryLevels entries = entryLevels others := by
  apply Nat.le_antisymm
  · rw [entryLevels_le_iff]
    intro entry member
    exact entryLevels_le_iff.mp le_rfl entry (perm.mem_iff.mp member)
  · rw [entryLevels_le_iff]
    intro entry member
    exact entryLevels_le_iff.mp le_rfl entry (perm.mem_iff.mpr member)

/-! ## Supported values -/

def isScalar : Value → Bool
  | .list _ | .map _ | .tag .. => false
  | _ => true

/-- Values that the encoder takes, with lengths and integers of at most 64 bits. -/
inductive Supported : Value → Prop where
  | null : Supported .null
  | bool (value : Bool) : Supported (.bool value)
  | int {value : Int} (low : -2 ^ 64 ≤ value) (high : value < 2 ^ 64) : Supported (.int value)
  | bytes {data : Bytes} (short : data.length < 2 ^ 64) : Supported (.bytes data)
  | text {value : String} (short : (Utf8.encode value.toList).length < 2 ^ 64) :
      Supported (.text value)
  | list {items : List Value} (short : items.length < 2 ^ 64)
      (supported : ∀ item ∈ items, Supported item) : Supported (.list items)
  | map {entries : List (Value × Value)} (short : entries.length < 2 ^ 64)
      (scalar : ∀ entry ∈ entries, isScalar entry.1 = true)
      (distinct : (entries.map fun entry => hashKey entry.1).Nodup)
      (keys : ∀ entry ∈ entries, Supported entry.1)
      (values : ∀ entry ∈ entries, Supported entry.2) : Supported (.map entries)

def ReadsBack (value : Value) : Prop :=
  encode value = .ok (bytesOf value) ∧ ∀ stack rest,
    decodeAt stack (bytesOf value ++ rest) =
      if levels value ≤ stack then .ok (sortKeys value, rest) else .error .recursion

theorem sortKeys_scalar {key : Value} (scalar : isScalar key = true) : sortKeys key = key := by
  cases key with
  | list => cases scalar
  | map => cases scalar
  | tag => cases scalar
  | _ => rfl

theorem hashKey_scalar {key : Value} (scalar : isScalar key = true) :
    (hashKey key).isSome = true := by
  cases key with
  | list => cases scalar
  | map => cases scalar
  | tag => cases scalar
  | _ => rfl

theorem bytesOf_eq {value : Value} {encoded : Bytes} (written : encode value = .ok encoded) :
    bytesOf value = encoded := by
  rw [bytesOf, written]

theorem readsBack_atom {value : Value} {encoded : Bytes} (written : encode value = .ok encoded)
    (one : levels value = 1) (same : sortKeys value = value)
    (decoded : ∀ stack rest, decodeAt (stack + 1) (encoded ++ rest) = .ok (value, rest)) :
    ReadsBack value := by
  have bytes := bytesOf_eq written
  refine ⟨bytes ▸ written, fun stack rest => ?_⟩
  rw [bytes, one, same]
  cases stack with
  | zero => rfl
  | succ stack => rw [decoded, if_pos (by omega)]

theorem readsBack_int {value : Int} (low : -2 ^ 64 ≤ value) (high : value < 2 ^ 64) :
    ReadsBack (.int value) := by
  by_cases natural : 0 ≤ value
  · rcases encHead_reads (show 0 < 8 by decide) (show value.toNat < 2 ^ 64 by omega)
      with ⟨head, written, reads⟩
    have encoded : encode (.int value) = .ok head := by rw [encode, if_pos natural, written]
    apply readsBack_atom encoded rfl rfl
    intro stack rest
    have back : ((value.toNat : Nat) : Int) = value := Int.toNat_of_nonneg natural
    conv => rhs; rw [← back]
    rw [decodeAt, reads]
    rfl
  · rcases encHead_reads (show 1 < 8 by decide) (show (-1 - value).toNat < 2 ^ 64 by omega)
      with ⟨head, written, reads⟩
    have encoded : encode (.int value) = .ok head := by rw [encode, if_neg natural, written]
    apply readsBack_atom encoded rfl rfl
    intro stack rest
    have back : -1 - (((-1 - value).toNat : Nat) : Int) = value := by omega
    conv => rhs; rw [← back]
    rw [decodeAt, reads]
    rfl

theorem takeBytes_append (name : String) (payload rest : Bytes) :
    takeBytes payload.length name (payload ++ rest) = .ok (payload, rest) := by
  unfold takeBytes
  rw [if_neg (by rw [List.length_append]; omega), List.take_left, List.drop_left]

theorem readsBack_bytes {data : Bytes} (short : data.length < 2 ^ 64) :
    ReadsBack (.bytes data) := by
  rcases encHead_reads (show 2 < 8 by decide) short with ⟨head, written, reads⟩
  have encoded : encode (.bytes data) = .ok (head ++ data) := by
    rw [encode, written]
    rfl
  apply readsBack_atom encoded rfl rfl
  intro stack rest
  rw [decodeAt, List.append_assoc, reads]
  change (takeBytes data.length "bstr" (data ++ rest)).bind _ = _
  rw [takeBytes_append]
  rfl

theorem readsBack_text {value : String} (short : (Utf8.encode value.toList).length < 2 ^ 64) :
    ReadsBack (.text value) := by
  rcases encHead_reads (show 3 < 8 by decide) short with ⟨head, written, reads⟩
  have encoded : encode (.text value) = .ok (head ++ Utf8.encode value.toList) := by
    rw [encode, written]
    rfl
  apply readsBack_atom encoded rfl rfl
  intro stack rest
  rw [decodeAt, List.append_assoc, reads]
  change (takeBytes (Utf8.encode value.toList).length "tstr"
    (Utf8.encode value.toList ++ rest)).bind _ = _
  rw [takeBytes_append]
  dsimp only [Except.bind]
  rw [Utf8.decode?_encode]
  dsimp only
  rw [String.ofList_toList]
  rfl

/-! ## Containers -/

theorem readItems_encoded {items : List Value} (each : ∀ item ∈ items, ReadsBack item) :
    ∃ encoded, encodeItems items = .ok encoded ∧ ∀ stack rest,
      readItems (decodeAt stack) items.length (encoded ++ rest) =
        if itemLevels items ≤ stack then .ok (sortItems items, rest)
        else .error .recursion := by
  induction items with
  | nil => exact ⟨[], rfl, fun _ _ => rfl⟩
  | cons item items induction =>
      rcases induction (fun other member => each other (List.mem_cons_of_mem _ member))
        with ⟨encoded, written, reads⟩
      have first := each item List.mem_cons_self
      refine ⟨bytesOf item ++ encoded, ?_, fun stack rest => ?_⟩
      · rw [encodeItems, first.1, written]
        rfl
      · rw [List.append_assoc, List.length_cons, readItems, first.2, itemLevels, sortItems]
        by_cases fits : levels item ≤ stack
        · rw [if_pos fits]
          change (readItems (decodeAt stack) items.length (encoded ++ rest)).bind _ = _
          rw [reads]
          by_cases others : itemLevels items ≤ stack
          · rw [if_pos others, if_pos (by omega)]
            rfl
          · rw [if_neg others, if_neg (by omega)]
            rfl
        · rw [if_neg fits, if_neg (by omega)]
          rfl

theorem readsBack_list {items : List Value} (short : items.length < 2 ^ 64)
    (each : ∀ item ∈ items, ReadsBack item) : ReadsBack (.list items) := by
  rcases encHead_reads (show 4 < 8 by decide) short with ⟨head, headWritten, headReads⟩
  rcases readItems_encoded each with ⟨encoded, written, reads⟩
  have whole : encode (.list items) = .ok (head ++ encoded) := by
    rw [encode, headWritten, written]
    rfl
  have bytes := bytesOf_eq whole
  refine ⟨bytes ▸ whole, fun stack rest => ?_⟩
  rw [bytes, levels, sortKeys]
  cases stack with
  | zero => rw [if_neg (by omega)]; rfl
  | succ stack =>
      rw [decodeAt, List.append_assoc, headReads]
      change (readItems (decodeAt stack) items.length (encoded ++ rest)).bind _ = _
      rw [reads]
      by_cases fits : itemLevels items ≤ stack
      · rw [if_pos fits, if_pos (by omega)]
        rfl
      · rw [if_neg fits, if_neg (by omega)]
        rfl

theorem assign_fresh {key value : Value} {entries : List (Value × Value)}
    (fresh : hashKey key ∉ entries.map fun entry => hashKey entry.1) :
    assign key value entries = entries ++ [(key, value)] := by
  induction entries with
  | nil => rfl
  | cons entry entries induction =>
      rcases entry with ⟨other, held⟩
      simp only [List.map_cons, List.mem_cons, not_or] at fresh
      rw [assign, if_neg (Ne.symm fresh.1), induction fresh.2, List.cons_append]

def entryBytes (entry : Value × Value) : Bytes := bytesOf entry.1 ++ bytesOf entry.2

theorem readEntries_encoded {entries held : List (Value × Value)}
    (scalar : ∀ entry ∈ entries, isScalar entry.1 = true)
    (distinct : ((held ++ entries).map fun entry => hashKey entry.1).Nodup)
    (each : ∀ entry ∈ entries, ReadsBack entry.1 ∧ ReadsBack entry.2) (stack : Nat)
    (rest : Bytes) :
    readEntries (decodeAt stack) entries.length held (entries.flatMap entryBytes ++ rest) =
      if entryLevels entries ≤ stack then .ok (held ++ entries.map sortValue, rest)
      else .error .recursion := by
  induction entries generalizing held with
  | nil =>
      rw [entryLevels, if_pos (Nat.zero_le _), List.map_nil, List.append_nil]
      rfl
  | cons entry entries induction =>
      rcases entry with ⟨key, value⟩
      have reads := each (key, value) List.mem_cons_self
      have keyScalar := scalar (key, value) List.mem_cons_self
      have whole : ((key, value) :: entries).flatMap entryBytes ++ rest =
          bytesOf key ++ (bytesOf value ++ (entries.flatMap entryBytes ++ rest)) := by
        simp [entryBytes]
      rw [whole, List.length_cons, readEntries, reads.1.2, entryLevels]
      by_cases keyFits : levels key ≤ stack
      swap
      · rw [if_neg keyFits, if_neg (by omega)]
        rfl
      rw [if_pos keyFits, sortKeys_scalar keyScalar]
      change (decodeAt stack (bytesOf value ++ (entries.flatMap entryBytes ++ rest))).bind _ = _
      rw [reads.2.2]
      by_cases valueFits : levels value ≤ stack
      swap
      · rw [if_neg valueFits, if_neg (by omega)]
        rfl
      rw [if_pos valueFits]
      rcases Option.isSome_iff_exists.mp (hashKey_scalar keyScalar) with ⟨hashed, hash⟩
      have fresh : hashKey key ∉ held.map fun entry => hashKey entry.1 := by
        rw [List.map_append, List.map_cons, List.nodup_append] at distinct
        intro member
        exact distinct.2.2 _ member _ List.mem_cons_self rfl
      dsimp only [Except.bind]
      rw [hash]
      dsimp only
      rw [assign_fresh fresh, induction
        (fun other member => scalar other (List.mem_cons_of_mem _ member)) ?_
        (fun other member => each other (List.mem_cons_of_mem _ member))]
      · by_cases others : entryLevels entries ≤ stack
        · rw [if_pos others, if_pos (by omega), List.append_assoc]
          rfl
        · rw [if_neg others, if_neg (by omega)]
      · simpa using distinct

theorem encodeEntries_eq {entries : List (Value × Value)}
    (each : ∀ entry ∈ entries, ReadsBack entry.1 ∧ ReadsBack entry.2) :
    encodeEntries entries = .ok (entries.map encodedEntry) := by
  induction entries with
  | nil => rfl
  | cons entry entries induction =>
      have reads := each entry List.mem_cons_self
      rw [encodeEntries, reads.1.1, reads.2.1,
        induction fun other member => each other (List.mem_cons_of_mem _ member)]
      rfl

theorem mergeSort_encoded (entries : List (Value × Value)) :
    (entries.map encodedEntry).mergeSort keyOrder =
      (entries.mergeSort entryOrder).map encodedEntry := by
  have same : ∀ left ∈ entries, ∀ right ∈ entries,
      entryOrder left right = keyOrder (encodedEntry left) (encodedEntry right) :=
    fun _ _ _ _ => rfl
  exact (List.map_mergeSort same).symm

theorem mergeSort_sortValue (entries : List (Value × Value)) :
    (entries.map sortValue).mergeSort entryOrder =
      (entries.mergeSort entryOrder).map sortValue := by
  have same : ∀ left ∈ entries, ∀ right ∈ entries,
      entryOrder left right = entryOrder (sortValue left) (sortValue right) :=
    fun _ _ _ _ => rfl
  exact (List.map_mergeSort same).symm

theorem encode_map {entries : List (Value × Value)} {head : Bytes}
    (headWritten : encHead 5 entries.length = .ok head)
    (each : ∀ entry ∈ entries, ReadsBack entry.1 ∧ ReadsBack entry.2) :
    encode (.map entries) =
      .ok (head ++ (entries.mergeSort entryOrder).flatMap entryBytes) := by
  rw [encode, encodeEntries_eq each]
  change (encHead 5 (entries.map encodedEntry).length).bind _ = _
  rw [List.length_map, headWritten]
  change Except.ok (head ++ ((entries.map encodedEntry).mergeSort keyOrder).flatMap
    fun pair => pair.1 ++ pair.2) = _
  rw [mergeSort_encoded, List.flatMap_map]
  rfl

theorem readsBack_map {entries : List (Value × Value)} (short : entries.length < 2 ^ 64)
    (scalar : ∀ entry ∈ entries, isScalar entry.1 = true)
    (distinct : (entries.map fun entry => hashKey entry.1).Nodup)
    (each : ∀ entry ∈ entries, ReadsBack entry.1 ∧ ReadsBack entry.2) :
    ReadsBack (.map entries) := by
  rcases encHead_reads (show 5 < 8 by decide) short with ⟨head, headWritten, headReads⟩
  have sorted := List.mergeSort_perm entries entryOrder
  have written := encode_map headWritten each
  have bytes := bytesOf_eq written
  have sortedScalar : ∀ entry ∈ entries.mergeSort entryOrder, isScalar entry.1 = true :=
    fun entry member => scalar entry (sorted.mem_iff.mp member)
  have sortedDistinct : (([] ++ entries.mergeSort entryOrder).map
      fun (entry : Value × Value) => hashKey entry.1).Nodup :=
    (sorted.map _).nodup_iff.mpr distinct
  have reads := readEntries_encoded sortedScalar sortedDistinct
    fun entry member => each entry (sorted.mem_iff.mp member)
  rw [List.length_mergeSort, entryLevels_perm sorted] at reads
  refine ⟨bytes ▸ written, fun stack rest => ?_⟩
  rw [bytes, levels, sortKeys, sortEntries_eq, mergeSort_sortValue]
  cases stack with
  | zero => rw [if_neg (by omega)]; rfl
  | succ stack =>
      rw [decodeAt, List.append_assoc, headReads]
      change (readEntries (decodeAt stack) entries.length []
        ((entries.mergeSort entryOrder).flatMap entryBytes ++ rest)).bind _ = _
      rw [reads]
      by_cases fits : entryLevels entries ≤ stack
      · rw [if_pos fits, if_pos (by omega)]
        rfl
      · rw [if_neg fits, if_neg (by omega)]
        rfl

theorem readsBack_of_supported {value : Value} (supported : Supported value) :
    ReadsBack value := by
  induction supported with
  | null =>
      have written : encode .null = .ok [0xF6] := by rw [encode]
      exact readsBack_atom written rfl rfl fun _ _ => rfl
  | bool value =>
      have written : encode (.bool value) = .ok [if value then 0xF5 else 0xF4] := by
        rw [encode]
      apply readsBack_atom written rfl rfl
      intro stack rest
      cases value <;> rfl
  | int low high => exact readsBack_int low high
  | bytes short => exact readsBack_bytes short
  | text short => exact readsBack_text short
  | list short _ induction => exact readsBack_list short induction
  | map short scalar distinct _ _ keys values =>
      exact readsBack_map short scalar distinct fun entry member =>
        ⟨keys entry member, values entry member⟩

/-! ## Equality -/

theorem equal_scalar {key : Value} (scalar : isScalar key = true) : equal key key = true := by
  cases key with
  | list => cases scalar
  | map => cases scalar
  | tag => cases scalar
  | _ => simp [equal]

theorem lookup_of_mem {entries : List (Value × Value)} {entry : Value × Value}
    (distinct : (entries.map fun entry => hashKey entry.1).Nodup) (member : entry ∈ entries) :
    lookup entry.1 entries = some entry.2 := by
  induction entries with
  | nil => cases member
  | cons other entries induction =>
      rw [List.map_cons, List.nodup_cons] at distinct
      rw [lookup]
      rcases List.mem_cons.mp member with rfl | within
      · rw [if_pos rfl]
      · rw [if_neg, induction distinct.2 within]
        intro same
        exact distinct.1 (same ▸ List.mem_map_of_mem within)

theorem equalEntries_of_lookup {entries others : List (Value × Value)}
    (each : ∀ entry ∈ entries, ∃ held, lookup entry.1 others = some held ∧
      equal entry.2 held = true) : equalEntries entries others = true := by
  induction entries with
  | nil => rfl
  | cons entry entries induction =>
      rcases entry with ⟨key, value⟩
      rcases each _ List.mem_cons_self with ⟨held, found, same⟩
      rw [equalEntries, found, induction fun other member =>
        each other (List.mem_cons_of_mem _ member)]
      exact Bool.and_eq_true_iff.mpr ⟨same, rfl⟩

theorem equal_sortKeys {value : Value} (supported : Supported value) :
    equal (sortKeys value) value = true := by
  induction supported with
  | list short supported induction =>
      rename_i items
      rw [sortKeys, equal]
      clear short supported
      induction items with
      | nil => rfl
      | cons item items rest =>
          rw [sortItems, equalItems, induction item List.mem_cons_self,
            rest fun other member => induction other (List.mem_cons_of_mem _ member)]
          rfl
  | map short scalar distinct keys values _keys induction =>
      rename_i entries
      rw [sortKeys, equal, sortEntries_eq]
      have lengths : ((entries.map sortValue).mergeSort entryOrder).length = entries.length := by
        rw [List.length_mergeSort, List.length_map]
      rw [lengths, beq_self_eq_true, Bool.true_and]
      apply equalEntries_of_lookup
      intro entry member
      rcases List.mem_map.mp ((List.mergeSort_perm _ _).mem_iff.mp member)
        with ⟨original, within, rfl⟩
      exact ⟨original.2, lookup_of_mem distinct within, induction original within⟩
  | _ => exact equal_scalar rfl

theorem decode_encoded {value : Value} (supported : Supported value) :
    encode value = .ok (bytesOf value) ∧ equal (sortKeys value) value = true ∧
      ∀ stack, decode stack (bytesOf value) =
        if levels value ≤ stack then .ok (sortKeys value) else .error .recursion := by
  have reads := readsBack_of_supported supported
  refine ⟨reads.1, equal_sortKeys supported, fun stack => ?_⟩
  have whole := reads.2 stack []
  rw [List.append_nil] at whole
  rw [decode, whole]
  split <;> rfl

end Agtp.Cbor
