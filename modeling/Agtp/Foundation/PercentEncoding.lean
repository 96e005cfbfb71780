import Agtp.Foundation.Utf8
import Mathlib.Data.List.SplitBy

/-! # Percent encoding

`urllib.parse.quote` without further safe characters, and `unquote_plus`, which undoes it
for every text. -/

namespace Agtp

namespace PercentEncoding

/-! ## Hexadecimal digits -/

def hexDigit (value : Nat) : Char :=
  if value < 10 then Char.ofNat (48 + value) else Char.ofNat (55 + value)

/-- The value of a digit, either case. -/
def hexValue (digit : Char) : Option Nat :=
  let code := digit.toNat
  if 48 ≤ code ∧ code ≤ 57 then some (code - 48)
  else if 65 ≤ code ∧ code ≤ 70 then some (code - 55)
  else if 97 ≤ code ∧ code ≤ 102 then some (code - 87)
  else none

theorem hexValue_hexDigit : ∀ value < 16, hexValue (hexDigit value) = some value := by
  decide

/-! ## Quoting -/

def isUnreserved (byte : UInt8) : Bool :=
  let code := byte.toNat
  (48 ≤ code && code ≤ 57) || (65 ≤ code && code ≤ 90) || (97 ≤ code && code ≤ 122) ||
    code == 95 || code == 46 || code == 45 || code == 126

def quoteByte (byte : UInt8) : List Char :=
  if isUnreserved byte then [Char.ofNat byte.toNat]
  else ['%', hexDigit (byte.toNat / 16), hexDigit (byte.toNat % 16)]

def quote (text : List Char) : List Char :=
  (Utf8.encode text).flatMap quoteByte

/-- The characters of quoted texts. -/
def isQuoted (character : Char) : Bool :=
  character = '%' ||
    (character.toNat < 128 && isUnreserved (UInt8.ofNat character.toNat))

theorem isQuoted_of_mem_quote {text : List Char} {character : Char}
    (member : character ∈ quote text) : isQuoted character = true := by
  have bytes : ∀ code : Fin 256, (quoteByte (UInt8.ofNat code)).all isQuoted = true := by
    decide +kernel
  rcases List.mem_flatMap.mp member with ⟨byte, _, held⟩
  have bound := byte.toNat_lt
  rw [← UInt8.ofNat_toNat (x := byte)] at held
  exact List.all_eq_true.mp (bytes ⟨byte.toNat, bound⟩) character held

theorem notMem_quote {character : Char} (separates : isQuoted character = false)
    (text : List Char) : character ∉ quote text := by
  intro member
  rw [isQuoted_of_mem_quote member] at separates
  cases separates

/-! ## Unquoting -/

def unquoteToBytes : List Char → Bytes
  | [] => []
  | '%' :: high :: low :: rest =>
      match hexValue high, hexValue low with
      | some first, some second => UInt8.ofNat (16 * first + second) :: unquoteToBytes rest
      | _, _ => 37 :: unquoteToBytes (high :: low :: rest)
  | character :: rest => UInt8.ofNat character.toNat :: unquoteToBytes rest

def isAsciiCharacter (character : Char) : Bool := character.toNat < 128

def unquote [TextDecoding] (text : List Char) : List Char :=
  if '%' ∈ text then
    (text.splitBy fun left right => isAsciiCharacter left == isAsciiCharacter right).flatMap
      fun run =>
        if run.all isAsciiCharacter then
          (TextDecoding.replace (unquoteToBytes run)).toList
        else run
  else text

def unquotePlus [TextDecoding] (text : String) : String :=
  String.ofList
    (unquote (text.toList.map fun character => if character = '+' then ' ' else character))

theorem unquoteToBytes_cons {character : Char} (other : character ≠ '%') (rest : List Char) :
    unquoteToBytes (character :: rest) =
      UInt8.ofNat character.toNat :: unquoteToBytes rest := by
  rw [unquoteToBytes.eq_def]
  split
  · next same => cases same
  · next same =>
      cases same
      exact absurd rfl other
  · next same =>
      cases same
      rfl

theorem unquoteToBytes_unreserved {byte : UInt8} (unreserved : isUnreserved byte = true)
    (rest : List Char) :
    unquoteToBytes (Char.ofNat byte.toNat :: rest) = byte :: unquoteToBytes rest := by
  have bytes : ∀ code < 256, isUnreserved (UInt8.ofNat code) = true →
      Char.ofNat code ≠ '%' ∧ UInt8.ofNat (Char.ofNat code).toNat = UInt8.ofNat code := by
    decide +kernel
  have facts := bytes byte.toNat byte.toNat_lt (by rwa [UInt8.ofNat_toNat])
  rw [unquoteToBytes_cons facts.1, facts.2, UInt8.ofNat_toNat]

theorem unquoteToBytes_quoteByte (byte : UInt8) (rest : List Char) :
    unquoteToBytes (quoteByte byte ++ rest) = byte :: unquoteToBytes rest := by
  unfold quoteByte
  split
  · next unreserved => exact unquoteToBytes_unreserved unreserved rest
  · have bound := byte.toNat_lt
    have value : UInt8.ofNat (16 * (byte.toNat / 16) + byte.toNat % 16) = byte := by
      rw [Nat.div_add_mod, UInt8.ofNat_toNat]
    rw [List.cons_append, List.cons_append, List.cons_append, List.nil_append, unquoteToBytes,
      hexValue_hexDigit _ (by omega), hexValue_hexDigit _ (by omega)]
    exact congrArg (· :: unquoteToBytes rest) value

theorem unquoteToBytes_flatMap (bytes : Bytes) :
    unquoteToBytes (bytes.flatMap quoteByte) = bytes := by
  induction bytes with
  | nil => rfl
  | cons byte rest induction =>
      rw [List.flatMap_cons, unquoteToBytes_quoteByte, induction]

theorem isAscii_of_isQuoted {character : Char} (quoted : isQuoted character = true) :
    isAsciiCharacter character = true := by
  unfold isQuoted at quoted
  simp only [Bool.or_eq_true, Bool.and_eq_true, decide_eq_true_eq] at quoted
  rcases quoted with rfl | ⟨ascii, _⟩
  · decide
  · exact decide_eq_true ascii

theorem unquoteToBytes_plain {text : List Char} (ascii : text.all isAsciiCharacter = true)
    (plain : '%' ∉ text) : unquoteToBytes text = Utf8.encode text := by
  induction text with
  | nil => rfl
  | cons character rest induction =>
      simp only [List.all_cons, Bool.and_eq_true] at ascii
      simp only [List.mem_cons, not_or] at plain
      rw [unquoteToBytes_cons (Ne.symm plain.1), induction ascii.2 plain.2, Utf8.encode_cons,
        Utf8.encodeChar_ascii (of_decide_eq_true ascii.1)]
      rfl

theorem all_isAscii_quote (text : List Char) : (quote text).all isAsciiCharacter = true :=
  List.all_eq_true.mpr fun _ member => isAscii_of_isQuoted (isQuoted_of_mem_quote member)

theorem unquotePlus_quote [TextDecoding] (text : List Char) :
    unquotePlus (String.ofList (quote text)) = String.ofList text := by
  have unchanged : (quote text).map (fun character => if character = '+' then ' ' else character)
      = quote text := by
    conv => rhs; rw [← List.map_id (quote text)]
    apply List.map_congr_left
    intro character member
    rw [if_neg, id_eq]
    rintro rfl
    exact notMem_quote (by decide) text member
  have ascii := all_isAscii_quote text
  have bytes : unquoteToBytes (quote text) = Utf8.encode text := unquoteToBytes_flatMap _
  unfold unquotePlus unquote
  rw [String.toList_ofList, unchanged]
  split
  · next escaped =>
      have run : (quote text).splitBy
          (fun left right => isAsciiCharacter left == isAsciiCharacter right) =
          [quote text] := by
        apply List.splitBy_of_isChain (List.ne_nil_of_mem escaped)
        apply List.Pairwise.isChain
        apply List.pairwise_of_forall_mem_list
        intro left leftMember right rightMember
        rw [List.all_eq_true.mp ascii left leftMember, List.all_eq_true.mp ascii right rightMember]
        rfl
      rw [run, List.flatMap_singleton, if_pos ascii, bytes, TextDecoding.replace_encode,
        String.toList_ofList]
  · next plain =>
      rw [unquoteToBytes_plain ascii plain] at bytes
      rw [Utf8.encode_injective bytes]

end PercentEncoding

end Agtp
