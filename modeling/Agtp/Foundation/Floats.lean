import Agtp.Foundation.Platform
import Mathlib.Algebra.Order.Ring.Rat

/-! # Floats

The value of a double, the order of these values, and the arithmetic on them. The
order is computed; how results are rounded, and how floats are printed, stays
abstract. -/

namespace Agtp

/-- The value of a float. -/
inductive Double where
  | nan
  | negativeInfinity
  | finite (value : ℚ)
  | infinity
deriving DecidableEq

namespace Double

/-- `left <= right`. -/
def le : Double → Double → Bool
  | nan, _ => false
  | _, nan => false
  | negativeInfinity, _ => true
  | _, infinity => true
  | finite left, finite right => left ≤ right
  | _, _ => false

/-- `left < right`. -/
def lt (left right : Double) : Bool :=
  left.le right && !right.le left

/-! ## The order -/

theorem le_refl {value : Double} (number : value ≠ nan) : value.le value = true := by
  cases value with
  | nan => exact absurd rfl number
  | finite value => simp [le]
  | _ => rfl

theorem le_trans {first second third : Double} (left : first.le second = true)
    (right : second.le third = true) : first.le third = true := by
  cases first <;> cases second <;> cases third <;> simp_all [le]
  exact left.trans right

theorem le_total {left right : Double} (leftNumber : left ≠ nan)
    (rightNumber : right ≠ nan) : left.le right = true ∨ right.le left = true := by
  cases left <;> cases right <;> simp_all [le]
  exact Rat.le_total

theorem number_of_le {left right : Double} (ordered : left.le right = true) :
    left ≠ nan ∧ right ≠ nan := by
  cases left <;> cases right <;> simp_all [le]

theorem lt_irrefl (value : Double) : value.lt value = false := by
  simp [lt]

theorem le_antisymm {left right : Double} (first : left.le right = true)
    (second : right.le left = true) : left = right := by
  cases left <;> cases right <;> simp_all [le]
  exact Rat.le_antisymm first second

theorem lt_iff_not_le {left right : Double} (leftNumber : left ≠ nan)
    (rightNumber : right ≠ nan) : left.lt right = true ↔ right.le left = false := by
  have total := le_total leftNumber rightNumber
  unfold lt
  cases backward : right.le left with
  | true => simp
  | false => simpa [backward] using total

end Double

/-- Floats as they are printed. `value` is the value of a printed float, and
`ofInt` and `ofText` are `float(value)` on integers and texts, where it does not
raise. -/
class Floats where
  value : String → Double
  ofInt : Int → Option String
  ofText : String → Option String
  sum : Double → Double → Double
  product : Double → Double → Double
  quotient : Nat → Nat → Double
  roundedText : Double → String
  value_zero : value "0.0" = .finite 0
  value_negativeZero : value "-0.0" = .finite 0

namespace Plain

def digitsValue (digits : List Char) : Nat :=
  digits.foldl (fun value digit => 10 * value + (digit.toNat - '0'.toNat)) 0

/-- The value of a text of digits, with a fraction of zero. -/
def wholeValue (text : String) : Double :=
  if text = "nan" then .nan
  else if text = "inf" then .infinity
  else if text = "-0.0" then .finite 0
  else .finite (digitsValue (text.toList.takeWhile (· ≠ '.')))

/-- Floats without a fraction, of which none is rounded. -/
scoped instance : Floats where
  value := wholeValue
  ofInt value := some (toString value ++ ".0")
  ofText text := if text.toList.all Char.isDigit then some (text ++ ".0") else none
  sum
    | .finite left, .finite right => .finite (left + right)
    | _, _ => .nan
  product
    | .finite left, .finite right => .finite (left * right)
    | _, _ => .nan
  quotient left right := .finite (left / right)
  roundedText
    | .finite value => toString value
    | _ => "nan"
  value_zero := by decide +kernel
  value_negativeZero := by decide +kernel

end Plain

/-! ## Numbers -/

namespace Json

variable [Floats]

/-- The value of a number. A Boolean is one. -/
def number? : Json → Option Double
  | int value => some (.finite value)
  | bool value => some (.finite (if value then 1 else 0))
  | float text => some (Floats.value text)
  | _ => none

end Json

end Agtp
