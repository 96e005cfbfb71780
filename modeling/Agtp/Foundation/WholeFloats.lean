import Mathlib.Data.Nat.Log
import Mathlib.Tactic.Ring

/-! # Whole numbers as floats

The conversion of a whole number to a double. -/

namespace Agtp.WholeFloat

/-- The whole numbers that a double holds. -/
def Representable (number : Nat) : Prop :=
  number < 2 ^ 1024 ∧ ∃ significand exponent, significand < 2 ^ 53 ∧
    number = significand * 2 ^ exponent

/-- The distance of the doubles around a number. -/
def spacing (number : Nat) : Nat :=
  2 ^ (number.log2 - 52)

/-- The quotient, rounded half to even. -/
def roundedQuotient (number divisor : Nat) : Nat :=
  let quotient := number / divisor
  let twice := 2 * (number % divisor)
  if twice < divisor then quotient
  else if twice = divisor then quotient + quotient % 2
  else quotient + 1

/-- `float(number)`, where it does not raise. -/
def ofNat (number : Nat) : Option Nat :=
  let rounded := roundedQuotient number (spacing number) * spacing number
  if rounded < 2 ^ 1024 then some rounded else none

/-! ## Rounding -/

theorem spacing_pos (number : Nat) : 0 < spacing number :=
  Nat.two_pow_pos _

theorem le_roundedQuotient (number divisor : Nat) :
    number / divisor ≤ roundedQuotient number divisor := by
  simp only [roundedQuotient]
  split
  · exact Nat.le_refl _
  · split <;> omega

theorem roundedQuotient_le (number divisor : Nat) :
    roundedQuotient number divisor ≤ number / divisor + 1 := by
  simp only [roundedQuotient]
  split
  · exact Nat.le_succ _
  · split <;> omega

theorem roundedQuotient_of_dvd {number divisor : Nat} (positive : 0 < divisor)
    (divides : divisor ∣ number) : roundedQuotient number divisor = number / divisor := by
  have none_left : number % divisor = 0 := Nat.mod_eq_zero_of_dvd divides
  simp only [roundedQuotient, none_left, Nat.mul_zero, if_pos positive]

theorem div_spacing_lt (number : Nat) : number / spacing number < 2 ^ 53 := by
  apply (Nat.div_lt_iff_lt_mul (spacing_pos number)).mpr
  have bound : number < 2 ^ (number.log2 + 1) := Nat.lt_log2_self
  have grows : 2 ^ (number.log2 + 1) ≤ 2 ^ (53 + (number.log2 - 52)) :=
    Nat.pow_le_pow_right (by decide) (by omega)
  rw [spacing, ← Nat.pow_add]
  exact Nat.lt_of_lt_of_le bound grows

theorem le_rounded {number bits : Nat} (many : 52 ≤ bits) (above : 2 ^ bits ≤ number) :
    2 ^ bits ≤ roundedQuotient number (spacing number) * spacing number := by
  have nonzero : number ≠ 0 := by
    have := Nat.two_pow_pos bits
    omega
  have held : bits ≤ number.log2 := (Nat.le_log2 nonzero).mpr above
  have size : 2 ^ 52 * spacing number = 2 ^ number.log2 := by
    rw [spacing, ← Nat.pow_add, Nat.add_sub_cancel' (many.trans held)]
  have significand : 2 ^ 52 ≤ number / spacing number := by
    apply (Nat.le_div_iff_mul_le (spacing_pos number)).mpr
    rw [size]
    exact Nat.log2_self_le nonzero
  calc 2 ^ bits ≤ 2 ^ number.log2 := Nat.pow_le_pow_right (by decide) held
    _ = 2 ^ 52 * spacing number := size.symm
    _ ≤ roundedQuotient number (spacing number) * spacing number :=
      Nat.mul_le_mul_right _ (significand.trans (le_roundedQuotient _ _))

/-! ## Exact conversions -/

theorem spacing_dvd {number : Nat} (representable : Representable number) :
    spacing number ∣ number := by
  rcases representable with ⟨_, significand, exponent, small, rfl⟩
  by_cases zero : significand * 2 ^ exponent = 0
  · rw [zero]
    exact dvd_zero _
  · have size : significand * 2 ^ exponent < 2 ^ (53 + exponent) := by
      rw [Nat.pow_add]
      exact Nat.mul_lt_mul_of_pos_right small (Nat.two_pow_pos _)
    have bits : (significand * 2 ^ exponent).log2 < 53 + exponent :=
      (Nat.log2_lt zero).mpr size
    exact Nat.dvd_mul_left_of_dvd (Nat.pow_dvd_pow 2 (by omega)) significand

theorem representable_of_ofNat {number value : Nat} (converted : ofNat number = some value) :
    Representable value := by
  simp only [ofNat] at converted
  split at converted
  · next bounded =>
      cases converted
      refine ⟨bounded, ?_⟩
      rcases Nat.lt_or_ge (roundedQuotient number (spacing number)) (2 ^ 53) with small | large
      · exact ⟨_, _, small, rfl⟩
      · -- The significand was rounded up to the next power of two.
        have exact_ : roundedQuotient number (spacing number) = 2 ^ 53 :=
          Nat.le_antisymm
            ((roundedQuotient_le _ _).trans (div_spacing_lt number)) large
        refine ⟨2 ^ 52, number.log2 - 52 + 1, by decide, ?_⟩
        rw [exact_, spacing, Nat.pow_succ 2 (number.log2 - 52)]
        ring
  · cases converted

theorem ofNat_eq_self_iff (number : Nat) :
    ofNat number = some number ↔ Representable number := by
  constructor
  · exact representable_of_ofNat
  · intro representable
    have divides := spacing_dvd representable
    simp only [ofNat, roundedQuotient_of_dvd (spacing_pos number) divides,
      Nat.div_mul_cancel divides, if_pos representable.1]

/-! ## Overflow -/

/-- The least number that rounds to no double. -/
def overflow : Nat :=
  2 ^ 1024 - 2 ^ 970

/-- Between the two greatest powers, a number rounds up to the greater one from the middle
of the last interval on. `half` is half of the spacing there. -/
theorem rounds_up_iff {number half : Nat} (positive : 0 < half)
    (within : number < 2 ^ 54 * half) :
    2 ^ 54 * half ≤ roundedQuotient number (2 * half) * (2 * half) ↔
      2 ^ 54 * half - half ≤ number := by
  have parts : 2 * half * (number / (2 * half)) + number % (2 * half) = number :=
    Nat.div_add_mod number (2 * half)
  have remainder : number % (2 * half) < 2 * half := Nat.mod_lt _ (by omega)
  have quotient : number / (2 * half) < 2 ^ 53 :=
    (Nat.div_lt_iff_lt_mul (by omega)).mpr (by omega)
  rcases Nat.lt_or_ge (number / (2 * half)) (2 ^ 53 - 1) with small | large
  · have rounded : roundedQuotient number (2 * half) * (2 * half) ≤
        (2 ^ 53 - 1) * (2 * half) :=
      Nat.mul_le_mul_right _ ((roundedQuotient_le _ _).trans small)
    have bound : 2 * half * (number / (2 * half)) ≤ 2 * half * (2 ^ 53 - 2) :=
      Nat.mul_le_mul_left _ (by omega)
    constructor <;> intro <;> omega
  · have last : number / (2 * half) = 2 ^ 53 - 1 := by omega
    rw [last] at parts
    simp only [roundedQuotient, last]
    split
    · constructor <;> intro <;> omega
    · split <;> constructor <;> intro <;> omega

theorem ofNat_eq_none_iff (number : Nat) : ofNat number = none ↔ overflow ≤ number := by
  have converted : ofNat number = none ↔
      2 ^ 1024 ≤ roundedQuotient number (spacing number) * spacing number := by
    simp only [ofNat]
    split
    · next bounded => exact iff_of_false nofun (Nat.not_le.mpr bounded)
    · next unbounded => exact iff_of_true rfl (Nat.not_lt.mp unbounded)
  obtain ⟨half, halved⟩ : ∃ half : Nat, half = 2 ^ 970 := ⟨_, rfl⟩
  have double : 2 ^ 971 = 2 * half := by rw [halved]; decide +kernel
  have whole : 2 ^ 1024 = 2 ^ 54 * half := by rw [halved]; decide +kernel
  have last : 2 ^ 1023 = 2 ^ 53 * half := by rw [halved]; decide +kernel
  have positive : 0 < half := by rw [halved]; decide +kernel
  rw [converted, overflow, ← halved, whole]
  rcases Nat.lt_or_ge number (2 ^ 1023) with small | large
  · -- Below the last interval there is room for rounding up.
    have bits : number.log2 - 52 ≤ 970 := by
      by_cases zero : number = 0
      · simp [zero]
      · have := (Nat.log2_lt zero).mpr small
        omega
    have spaced : spacing number ≤ half := by
      rw [spacing, halved]
      gcongr
      decide
    have rounded := Nat.mul_le_mul
      ((roundedQuotient_le number (spacing number)).trans (div_spacing_lt number)) spaced
    rw [last] at small
    constructor <;> intro <;> omega
  · have nonzero : number ≠ 0 := by
      rw [last] at large
      omega
    rcases Nat.lt_or_ge number (2 ^ 1024) with below | above
    · have bits : number.log2 = 1023 := by
        have upper := (Nat.log2_lt nonzero).mpr below
        have lower := (Nat.le_log2 nonzero).mpr large
        omega
      have spaced : spacing number = 2 * half := by
        rw [spacing, bits, ← double]
      rw [spaced]
      rw [whole] at below
      exact rounds_up_iff positive below
    · rw [← whole]
      exact iff_of_true (le_rounded (by decide) above) ((Nat.sub_le _ _).trans above)

end Agtp.WholeFloat
