import Mathlib.Data.List.Basic

/-! # Base64url

Encoding without padding, and the lenient decoding of
`base64.urlsafe_b64decode`: ASCII characters outside the alphabet are skipped,
both alphabets are accepted, and what follows a complete pad is not read. -/

namespace Agtp.Base64Url

def alphabet : List Char :=
  ['A', 'B', 'C', 'D', 'E', 'F', 'G', 'H', 'I', 'J', 'K', 'L', 'M',
    'N', 'O', 'P', 'Q', 'R', 'S', 'T', 'U', 'V', 'W', 'X', 'Y', 'Z',
    'a', 'b', 'c', 'd', 'e', 'f', 'g', 'h', 'i', 'j', 'k', 'l', 'm',
    'n', 'o', 'p', 'q', 'r', 's', 't', 'u', 'v', 'w', 'x', 'y', 'z',
    '0', '1', '2', '3', '4', '5', '6', '7', '8', '9', '-', '_']

def character (digit : Nat) : Char :=
  alphabet.getD digit 'A'

/-- The six bits a character stands for. -/
def digit? (symbol : Char) : Option Nat :=
  if symbol = '+' then some 62
  else if symbol = '/' then some 63
  else alphabet.idxOf? symbol

/-- `urlsafe_b64encode(data).rstrip(b"=")`. -/
def encode : List UInt8 → List Char
  | [] => []
  | [first] =>
      [character (first.toNat / 4), character (first.toNat % 4 * 16)]
  | [first, second] =>
      [character (first.toNat / 4),
        character (first.toNat % 4 * 16 + second.toNat / 16),
        character (second.toNat % 16 * 4)]
  | first :: second :: third :: rest =>
      character (first.toNat / 4) ::
        character (first.toNat % 4 * 16 + second.toNat / 16) ::
        character (second.toNat % 16 * 4 + third.toNat / 64) ::
        character (third.toNat % 64) :: encode rest

/-- What the decoder remembers inside a group of four characters. -/
structure Group where
  position : Nat
  left : Nat
  pads : Nat

def Group.start : Group := ⟨0, 0, 0⟩

/-- The decoding loop. `none` is the decoder's error. -/
def decodeFrom (group : Group) : List Char → Option (List UInt8)
  | [] => if group.position = 0 then some [] else none
  | symbol :: rest =>
      if symbol = '=' then
        if 2 ≤ group.position then
          if 4 ≤ group.position + (group.pads + 1) then some []
          else decodeFrom { group with pads := group.pads + 1 } rest
        else decodeFrom group rest
      else
        match digit? symbol with
        | none => decodeFrom group rest
        | some digit =>
            match group.position with
            | 0 => decodeFrom ⟨1, digit, 0⟩ rest
            | 1 =>
                (decodeFrom ⟨2, digit % 16, 0⟩ rest).map
                  (UInt8.ofNat (group.left * 4 + digit / 16) :: ·)
            | 2 =>
                (decodeFrom ⟨3, digit % 4, 0⟩ rest).map
                  (UInt8.ofNat (group.left * 16 + digit / 4) :: ·)
            | _ =>
                (decodeFrom .start rest).map
                  (UInt8.ofNat (group.left * 64 + digit) :: ·)

/-- The decoder on text padded to a multiple of four. -/
def decodePadded (text : List Char) : Option (List UInt8) :=
  decodeFrom .start
    (text ++ List.replicate ((4 - text.length % 4) % 4) '=')

/-- `urlsafe_b64decode` of text padded to a multiple of four. Text that is not
ASCII is an error. -/
def decode (text : List Char) : Option (List UInt8) :=
  if text.all (·.toNat < 128) then decodePadded text else none

example : decode "eyJhIjoxfQ".toList = some [123, 34, 97, 34, 58, 49, 125] := by
  decide +kernel

theorem character_mem : ∀ digit < 64, character digit ∈ alphabet := by
  decide +kernel

theorem digit?_character : ∀ digit < 64,
    character digit ≠ '=' ∧ digit? (character digit) = some digit := by
  decide +kernel

theorem ascii_of_mem_alphabet : ∀ symbol ∈ alphabet, symbol.toNat < 128 := by
  have all : (alphabet.all fun symbol => decide (symbol.toNat < 128)) = true := by
    decide
  intro symbol member
  exact of_decide_eq_true (List.all_eq_true.mp all symbol member)

theorem mem_alphabet_of_mem_encode {bytes : List UInt8} {symbol : Char}
    (member : symbol ∈ encode bytes) : symbol ∈ alphabet := by
  have bound (byte : UInt8) : byte.toNat < 256 := byte.toNat_lt
  induction bytes using encode.induct with
  | case1 => simp [encode] at member
  | case2 first =>
      have := bound first
      simp only [encode, List.mem_cons, List.not_mem_nil, or_false] at member
      rcases member with rfl | rfl <;> apply character_mem <;> omega
  | case3 first second =>
      have := bound first
      have := bound second
      simp only [encode, List.mem_cons, List.not_mem_nil, or_false] at member
      rcases member with rfl | rfl | rfl <;> apply character_mem <;> omega
  | case4 first second third rest induction =>
      have := bound first
      have := bound second
      have := bound third
      simp only [encode, List.mem_cons] at member
      rcases member with rfl | rfl | rfl | rfl | member
      · apply character_mem; omega
      · apply character_mem; omega
      · apply character_mem; omega
      · apply character_mem; omega
      · exact induction member

theorem decodeFrom_character (group : Group) {digit : Nat} (bound : digit < 64)
    (rest : List Char) :
    decodeFrom group (character digit :: rest) =
      match group.position with
      | 0 => decodeFrom ⟨1, digit, 0⟩ rest
      | 1 =>
          (decodeFrom ⟨2, digit % 16, 0⟩ rest).map
            (UInt8.ofNat (group.left * 4 + digit / 16) :: ·)
      | 2 =>
          (decodeFrom ⟨3, digit % 4, 0⟩ rest).map
            (UInt8.ofNat (group.left * 16 + digit / 4) :: ·)
      | _ =>
          (decodeFrom .start rest).map
            (UInt8.ofNat (group.left * 64 + digit) :: ·) := by
  obtain ⟨notPad, value⟩ := digit?_character digit bound
  rw [decodeFrom]
  simp only [notPad, if_false, value]

private theorem ofNat_of_eq (byte : UInt8) {value : Nat}
    (equal : value = byte.toNat) : UInt8.ofNat value = byte := by
  rw [equal, UInt8.ofNat_toNat]

theorem decodeFrom_group (first second third : UInt8) (rest : List Char) :
    decodeFrom .start
        (character (first.toNat / 4) ::
          character (first.toNat % 4 * 16 + second.toNat / 16) ::
          character (second.toNat % 16 * 4 + third.toNat / 64) ::
          character (third.toNat % 64) :: rest) =
      (decodeFrom .start rest).map fun bytes =>
        first :: second :: third :: bytes := by
  have firstBound := first.toNat_lt
  have secondBound := second.toNat_lt
  have thirdBound := third.toNat_lt
  rw [decodeFrom_character _ (by omega)]
  simp only [Group.start]
  rw [decodeFrom_character _ (by omega)]
  simp only
  rw [decodeFrom_character _ (by omega)]
  simp only
  rw [decodeFrom_character _ (by omega)]
  simp only [Option.map_map]
  congr 1
  funext bytes
  simp only [Function.comp_apply]
  rw [ofNat_of_eq first (by omega),
    ofNat_of_eq second (by omega),
    ofNat_of_eq third (by omega)]

theorem decodePadded_group_append (first second third : UInt8)
    (rest : List UInt8) :
    decodePadded (encode (first :: second :: third :: rest)) =
      (decodePadded (encode rest)).map fun bytes =>
        first :: second :: third :: bytes := by
  have length : (encode (first :: second :: third :: rest)).length % 4 =
      (encode rest).length % 4 := by
    simp only [encode, List.length_cons]
    omega
  unfold decodePadded
  rw [length]
  exact decodeFrom_group first second third _

theorem decodePadded_encode (bytes : List UInt8) :
    decodePadded (encode bytes) = some bytes := by
  induction bytes using encode.induct with
  | case1 => rfl
  | case2 first =>
      have firstBound := first.toNat_lt
      simp only [decodePadded, encode, List.length_cons, List.length_nil,
        List.cons_append, List.nil_append]
      rw [decodeFrom_character _ (by omega)]
      simp only [Group.start]
      rw [decodeFrom_character _ (by omega)]
      simp only [show (4 - (0 + 1 + 1) % 4) % 4 = 2 from rfl,
        List.replicate_succ, List.replicate_zero, decodeFrom]
      simp only [if_true, show (2 ≤ 2) from Nat.le_refl 2]
      rw [if_neg (by omega), if_pos (by omega)]
      rw [ofNat_of_eq first (by omega)]
      rfl
  | case3 first second =>
      have firstBound := first.toNat_lt
      have secondBound := second.toNat_lt
      simp only [decodePadded, encode, List.length_cons, List.length_nil,
        List.cons_append, List.nil_append]
      rw [decodeFrom_character _ (by omega)]
      simp only [Group.start]
      rw [decodeFrom_character _ (by omega)]
      simp only
      rw [decodeFrom_character _ (by omega)]
      simp only [show (4 - (0 + 1 + 1 + 1) % 4) % 4 = 1 from rfl,
        List.replicate_succ, List.replicate_zero, decodeFrom]
      simp only [if_true, show (2 ≤ 3) from Nat.le_succ 2]
      rw [if_pos (by omega)]
      simp only [Option.map_some]
      rw [ofNat_of_eq first (by omega),
        ofNat_of_eq second (by omega)]
  | case4 first second third rest induction =>
      rw [decodePadded_group_append, induction]
      rfl

theorem decodeFrom_padded (key : List UInt8) (rest : List Char) (open_ : key.length % 3 = 2) :
    decodeFrom .start (encode key ++ '=' :: rest) = some key := by
  induction key using encode.induct with
  | case1 => cases open_
  | case2 first => cases open_
  | case3 first second =>
      have firstBound := first.toNat_lt
      have secondBound := second.toNat_lt
      simp only [encode, List.cons_append, List.nil_append]
      rw [decodeFrom_character _ (by omega)]
      simp only [Group.start]
      rw [decodeFrom_character _ (by omega)]
      simp only
      rw [decodeFrom_character _ (by omega)]
      simp only [decodeFrom, if_true, show 2 ≤ 3 by decide]
      rw [if_pos (by omega)]
      simp only [Option.map_some]
      rw [ofNat_of_eq first (by omega), ofNat_of_eq second (by omega)]
  | case4 first second third others induction =>
      have later : others.length % 3 = 2 := by
        simp only [List.length_cons] at open_
        omega
      simp only [encode, List.cons_append]
      rw [decodeFrom_group, induction later]
      rfl

theorem decode_encode (bytes : List UInt8) :
    decode (encode bytes) = some bytes := by
  rw [decode, if_pos, decodePadded_encode]
  apply List.all_eq_true.mpr
  intro symbol member
  exact decide_eq_true (ascii_of_mem_alphabet symbol (mem_alphabet_of_mem_encode member))

theorem encode_injective {left right : List UInt8}
    (equal : encode left = encode right) : left = right := by
  have decoded := congrArg decode equal
  rw [decode_encode, decode_encode] at decoded
  exact Option.some.inj decoded

end Agtp.Base64Url
