import Mathlib
import DeviceConfig.Decimal.Binary64

/-!
Integers of at most 53 bits are doubles, so they keep their value. A double is given by its value, up to the sign
of a zero.
-/

namespace DeviceConfig.Decimal

theorem spacing_eq (units : Nat) : spacing units = 2 ^ (units.log2 - 52) := Nat.one_shiftLeft _

theorem spacing_pos (units : Nat) : 0 < spacing units := by
  rw [spacing_eq]
  exact Nat.two_pow_pos _

theorem roundQuotient_of_dvd {num den : Nat} (positive : 0 < den) (dvd : den ∣ num) :
    roundQuotient num den = num / den := by
  have whole : num % den = 0 := Nat.mod_eq_zero_of_dvd dvd
  rw [roundQuotient, whole, if_pos (by omega)]

/-- A whole number of the gaps is its own nearest double. -/
theorem nearestUnits_of_dvd {units : Nat} (dvd : spacing units ∣ units) :
    nearestUnits units 1 = units := by
  rw [nearestUnits, Nat.div_one, Nat.one_mul, roundQuotient_of_dvd (spacing_pos units) dvd,
    Nat.div_mul_cancel dvd]

/-- Up to 53 bits, the gap at a number is no larger than the unit it is counted in. -/
theorem spacing_dvd {n : Nat} (small : n < 2 ^ 53) (exponent : Nat) :
    spacing (n * 2 ^ exponent) ∣ 2 ^ exponent := by
  rw [spacing_eq]
  apply Nat.pow_dvd_pow
  by_cases zero : n = 0
  · simp [zero]
  · have positive : 0 < 2 ^ exponent := Nat.two_pow_pos exponent
    have below : (n * 2 ^ exponent).log2 < 53 + exponent := by
      rw [Nat.log2_lt (Nat.mul_ne_zero zero (Nat.ne_of_gt positive)), Nat.pow_add]
      exact Nat.mul_lt_mul_of_pos_right small positive
    omega

/-- The same double, but of the two zeros the one without a sign. -/
def Binary64.withOneZero (x : Binary64) : Binary64 := ⟨x.negative && x.units != 0, x.units⟩

theorem Binary64.withOneZero_inj {x y : Binary64} :
    x.withOneZero = y.withOneZero ↔ x.value = y.value := by
  obtain ⟨negative, units⟩ := x
  obtain ⟨other, count⟩ := y
  cases negative <;> cases other <;> simp [withOneZero, value]
  · omega
  · omega
  · rintro rfl
    rfl

end DeviceConfig.Decimal
