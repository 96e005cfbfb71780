import Agtp.Foundation.Platform

/-! # Numbers and texts as bytes

Texts are UTF-8. Encoding is computed; decoding replaces malformed bytes in a way that
nothing here depends on, and undoes encoding. -/

/-! ## Numbers

Unsigned integers of a fixed number of bytes, the most significant one first. -/

namespace Agtp.BigEndian

def toBytes : Nat → Nat → Bytes
  | 0, _ => []
  | size + 1, value => toBytes size (value / 256) ++ [.ofNat value]

def fromBytes (bytes : Bytes) : Nat :=
  bytes.foldl (fun value byte => 256 * value + byte.toNat) 0

@[simp] theorem length_toBytes (size value : Nat) : (toBytes size value).length = size := by
  induction size generalizing value with
  | zero => rfl
  | succ size induction => rw [toBytes, List.length_append, induction, List.length_singleton]

theorem fromBytes_toBytes {size value : Nat} (fits : value < 256 ^ size) :
    fromBytes (toBytes size value) = value := by
  induction size generalizing value with
  | zero =>
      have zero : value = 0 := by simpa using fits
      rw [zero]
      rfl
  | succ size induction =>
      have front : value / 256 < 256 ^ size := by
        rw [Nat.div_lt_iff_lt_mul (by decide)]
        exact fits.trans_eq (pow_succ 256 size)
      have high := induction front
      unfold fromBytes at high ⊢
      rw [toBytes, List.foldl_append, high, List.foldl_cons, List.foldl_nil, UInt8.toNat_ofNat']
      omega

end Agtp.BigEndian

/-! ## Texts -/

namespace Agtp

namespace Utf8

def encode (text : List Char) : Bytes :=
  text.flatMap String.utf8EncodeChar

@[simp] theorem encode_nil : encode [] = [] := rfl

@[simp] theorem encode_append (first second : List Char) :
    encode (first ++ second) = encode first ++ encode second :=
  List.flatMap_append

theorem encode_cons (character : Char) (rest : List Char) :
    encode (character :: rest) = String.utf8EncodeChar character ++ encode rest :=
  List.flatMap_cons

theorem encodeChar_ascii {character : Char} (ascii : character.toNat < 128) :
    String.utf8EncodeChar character = [UInt8.ofNat character.toNat] := by
  have value : character.toNat = character.val.toNat := rfl
  unfold String.utf8EncodeChar
  simp only
  rw [if_pos (by omega)]
  rfl

theorem le_of_mem_encodeChar {character : Char} (high : 128 ≤ character.toNat) {byte : UInt8}
    (member : byte ∈ String.utf8EncodeChar character) : 128 ≤ byte.toNat := by
  have value : character.toNat = character.val.toNat := rfl
  unfold String.utf8EncodeChar at member
  simp only at member
  split at member
  · omega
  · split at member
    · simp only [List.mem_cons, List.not_mem_nil, or_false] at member
      rcases member with rfl | rfl
      all_goals
        simp only [UInt8.toNat_ofNat']
        omega
    · split at member
      · simp only [List.mem_cons, List.not_mem_nil, or_false] at member
        rcases member with rfl | rfl | rfl
        all_goals
          simp only [UInt8.toNat_ofNat']
          omega
      · simp only [List.mem_cons, List.not_mem_nil, or_false] at member
        rcases member with rfl | rfl | rfl | rfl
        all_goals
          simp only [UInt8.toNat_ofNat']
          omega

theorem mem_of_byte_mem_encode {character : Char} (ascii : character.toNat < 128)
    {text : List Char} (member : UInt8.ofNat character.toNat ∈ encode text) :
    character ∈ text := by
  rcases List.mem_flatMap.mp member with ⟨other, present, byte⟩
  by_cases otherAscii : other.toNat < 128
  · rw [encodeChar_ascii otherAscii, List.mem_singleton] at byte
    have same : character.toNat = other.toNat := by
      have codes := congrArg UInt8.toNat byte
      simp only [UInt8.toNat_ofNat'] at codes
      omega
    rw [← Char.ofNat_toNat character, same, Char.ofNat_toNat]
    exact present
  · have bound := le_of_mem_encodeChar (by omega) byte
    simp only [UInt8.toNat_ofNat'] at bound
    omega

def decode? (data : Bytes) : Option (List Char) :=
  (ByteArray.utf8Decode? ⟨data.toArray⟩).map Array.toList

theorem decode?_encode (text : List Char) : decode? (encode text) = some text := by
  have bytes : (⟨(encode text).toArray⟩ : ByteArray) = text.utf8Encode := by
    apply ByteArray.ext
    simp [List.utf8Encode, encode]
  rw [decode?, bytes, List.utf8Decode?_utf8Encode]
  rfl

end Utf8

/-- `data.decode("utf-8", errors="replace")`. -/
class TextDecoding where
  replace : Bytes → String
  replace_encode : ∀ text, replace (Utf8.encode text) = String.ofList text

theorem Utf8.encode_injective [TextDecoding] : Function.Injective Utf8.encode := by
  intro first second same
  have texts := congrArg TextDecoding.replace same
  rw [TextDecoding.replace_encode, TextDecoding.replace_encode] at texts
  exact String.ofList_inj.mp texts

namespace Plain

/-- Data that is not UTF-8 is empty text. -/
scoped instance : TextDecoding where
  replace data := String.ofList ((ByteArray.utf8Decode? ⟨data.toArray⟩).getD #[]).toList
  replace_encode text := by
    rcases Option.map_eq_some_iff.mp (Utf8.decode?_encode text) with ⟨characters, found, same⟩
    rw [found]
    exact congrArg String.ofList same

end Plain

end Agtp
