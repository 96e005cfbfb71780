import Agtp.Foundation.Text
import Mathlib.Data.Int.Bitwise

/-! # Node ids

The ids of agents and of the nodes of the overlay are texts of 64 hexadecimal digits. -/

namespace Agtp

/-- `int(text, 16)`, where it does not raise. -/
class HexText where
  ofHex : String → Option Int

namespace Plain

def hexDigit (digit : Char) : Option Nat :=
  if '0' ≤ digit ∧ digit ≤ '9' then some (digit.toNat - '0'.toNat)
  else if 'a' ≤ digit ∧ digit ≤ 'f' then some (digit.toNat - 'a'.toNat + 10)
  else if 'A' ≤ digit ∧ digit ≤ 'F' then some (digit.toNat - 'A'.toNat + 10)
  else none

scoped instance : HexText where
  ofHex text := (text.toList.foldlM
    (fun value digit => (hexDigit digit).map fun last => 16 * value + last) 0).map Int.ofNat

end Plain

namespace Distance

def idBits : Nat := 256

def idHexLength : Nat := 64

/-- `InvalidNodeID`, a `ValueError`. -/
inductive InvalidNodeID where
  /-- "id must be 64 hex chars, got {length}" -/
  | length (length : Nat)
  /-- "id is not hex: {id!r}" -/
  | notHex (nodeId : String)
deriving DecidableEq

variable [TextCase] [HexText]

def toInt (nodeId : String) : Except InvalidNodeID Int :=
  let text := lower (Text.strip nodeId)
  if text.length ≠ idHexLength then .error (.length text.length)
  else
    match HexText.ofHex text with
    | some value => .ok value
    | none => .error (.notHex nodeId)

def xorDistance (left right : String) : Except InvalidNodeID Int := do
  let first ← toInt left
  let second ← toInt right
  return Int.xor first second

def bucketIndex (nodeId key : String) : Except InvalidNodeID Int := do
  let distance ← xorDistance nodeId key
  return if distance = 0 then -1 else Nat.log2 distance.natAbs

omit [TextCase] [HexText] in
theorem xor_self (value : Int) : Int.xor value value = 0 := by
  cases value with
  | ofNat value => simp [Int.xor]
  | negSucc value => simp [Int.xor]

omit [TextCase] [HexText] in
theorem xor_nonneg {left right : Int} (leftNonneg : 0 ≤ left) (rightNonneg : 0 ≤ right) :
    0 ≤ Int.xor left right := by
  cases left with
  | negSucc left => exact absurd leftNonneg (by omega)
  | ofNat left =>
      cases right with
      | negSucc right => exact absurd rightNonneg (by omega)
      | ofNat right => exact Int.natCast_nonneg (left ^^^ right)

omit [TextCase] [HexText] in
theorem xor_left_injective {left right other : Int}
    (same : Int.xor left other = Int.xor right other) : left = right := by
  cases left <;> cases right <;> cases other <;> simp_all [Int.xor]

theorem xorDistance_of_toInt {left right : String} {first second : Int}
    (leftRead : toInt left = .ok first) (rightRead : toInt right = .ok second) :
    xorDistance left right = .ok (Int.xor first second) := by
  rw [xorDistance, leftRead, rightRead]
  rfl

theorem toInt_of_xorDistance {left right : String} {distance : Int}
    (measured : xorDistance left right = .ok distance) :
    (∃ value, toInt left = .ok value) ∧ ∃ value, toInt right = .ok value := by
  rw [xorDistance] at measured
  cases first : toInt left with
  | error failure =>
      rw [first] at measured
      cases measured
  | ok value =>
      cases second : toInt right with
      | error failure =>
          rw [first, second] at measured
          cases measured
      | ok other => exact ⟨⟨value, rfl⟩, ⟨other, rfl⟩⟩

theorem toInt_of_bucketIndex {nodeId key : String} {index : Int}
    (indexed : bucketIndex nodeId key = .ok index) :
    (∃ value, toInt nodeId = .ok value) ∧ ∃ value, toInt key = .ok value := by
  cases measured : xorDistance nodeId key with
  | error failure =>
      rw [bucketIndex, measured] at indexed
      cases indexed
  | ok distance => exact toInt_of_xorDistance measured

end Distance

end Agtp
