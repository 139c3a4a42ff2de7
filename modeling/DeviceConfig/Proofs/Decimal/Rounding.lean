import DeviceConfig.Proofs.Decimal.Binary64

/-!
Whole numbers as doubles. Each is read as the double nearest to it, and of two as near as each other as the one with
the even significand, which settles what it is read as. The order of numbers is kept, but neighbours may be read
alike.
-/

namespace DeviceConfig.Decimal

def distance (a b : Int) : Nat := (a - b).natAbs

/-! ### Rounding a quotient -/

section
variable (num : Nat) {den : Nat}

/-- A rounded quotient is off by at most a half, and by a half only where it is even. -/
theorem roundQuotient_near (positive : 0 < den) :
    2 * num ≤ 2 * (roundQuotient num den * den) + den ∧
    2 * (roundQuotient num den * den) ≤ 2 * num + den ∧
    (2 * num = 2 * (roundQuotient num den * den) + den ∨
      2 * (roundQuotient num den * den) = 2 * num + den → 2 ∣ roundQuotient num den) := by
  have parts := Nat.div_add_mod num den
  have below := Nat.mod_lt num positive
  rw [Nat.mul_comm] at parts
  simp only [roundQuotient]
  generalize num % den = remainder at parts below ⊢
  generalize num / den = quotient at parts ⊢
  have next : (quotient + 1) * den = quotient * den + den := Nat.succ_mul quotient den
  split
  · omega
  split
  · omega
  obtain even | odd := Nat.mod_two_eq_zero_or_one quotient
  · rw [even, Nat.add_zero]
    omega
  · rw [odd]
    omega

theorem roundQuotient_le (num den : Nat) : roundQuotient num den ≤ num / den + 1 := by
  simp only [roundQuotient]
  split
  · omega
  split <;> omega

/-- Of two multiples, the same, next to each other, or further apart than that. -/
theorem multiples_apart (left right den : Nat) :
    left = right ∨ left + 1 = right ∧ left * den + den = right * den ∨
      left * den + 2 * den ≤ right * den ∨ right + 1 = left ∧ right * den + den = left * den ∨
      right * den + 2 * den ≤ left * den := by
  have above {low high : Nat} (less : low < high) :
      low + 1 = high ∧ low * den + den = high * den ∨ low * den + 2 * den ≤ high * den := by
    obtain next | beyond := Nat.eq_or_lt_of_le (Nat.succ_le_of_lt less)
    · exact .inl ⟨next, by rw [← next, Nat.succ_mul]⟩
    · have apart : (low + 2) * den ≤ high * den := Nat.mul_le_mul_right den beyond
      rw [Nat.add_mul] at apart
      exact .inr apart
  obtain less | same | more := Nat.lt_trichotomy left right
  · have := above less
    tauto
  · exact .inl same
  · have := above more
    tauto

/-- No multiple is nearer than the rounded one. Another that is as near is next to it, and odd. -/
theorem roundQuotient_nearest (positive : 0 < den) (other : Nat) :
    distance num (roundQuotient num den * den : Nat) ≤ distance num (other * den : Nat) ∧
    (other ≠ roundQuotient num den →
      distance num (other * den : Nat) = distance num (roundQuotient num den * den : Nat) →
      2 ∣ roundQuotient num den ∧ ¬ 2 ∣ other ∧ num < other * den + den) := by
  obtain ⟨fromBelow, fromAbove, tie⟩ := roundQuotient_near num positive
  have apart := multiples_apart other (roundQuotient num den) den
  unfold distance
  generalize roundQuotient num den = rounded at *
  by_cases same : other = rounded
  · subst same
    omega
  · generalize rounded * den = here at *
    generalize other * den = there at *
    omega

end

/-! ### Significands -/

/-- A magnitude whose significand takes up no more than so many bits. -/
def Fits (bits n : Nat) : Prop :=
  ∃ significand exponent, significand < 2 ^ bits ∧ n = significand * 2 ^ exponent

section
variable {bits significand exponent : Nat}

/-- A significand that has just outgrown the bits is a power of two. -/
theorem fits_of_le (positive : 0 < bits) (le : significand ≤ 2 ^ bits) :
    Fits bits (significand * 2 ^ exponent) := by
  obtain less | rfl := Nat.lt_or_eq_of_le le
  · exact ⟨significand, exponent, less, rfl⟩
  · exact ⟨1, bits + exponent, Nat.one_lt_two_pow (by omega), by rw [Nat.one_mul, Nat.pow_add]⟩

theorem fits_of_even (even : 2 ∣ significand) (le : significand ≤ 2 ^ (bits + 1)) (positive : 0 < bits) :
    Fits bits (significand * 2 ^ exponent) := by
  obtain ⟨half, rfl⟩ := even
  have shifted : 2 * half * 2 ^ exponent = half * 2 ^ (exponent + 1) := by ring
  rw [shifted]
  rw [Nat.pow_succ] at le
  exact fits_of_le positive (by omega)

/-- An odd significand cannot be cut short. -/
theorem lt_of_fits_of_odd (odd : ¬ 2 ∣ significand) (fits : Fits bits (significand * 2 ^ exponent)) :
    significand < 2 ^ bits := by
  obtain ⟨short, power, less, same⟩ := fits
  obtain high | low := Nat.lt_or_ge exponent power
  · obtain ⟨more, rfl⟩ := Nat.exists_eq_add_of_lt high
    have shifted : short * 2 ^ (exponent + more + 1) = 2 * (short * 2 ^ more) * 2 ^ exponent := by ring
    rw [shifted, Nat.mul_left_inj (by positivity)] at same
    exact absurd ⟨_, same⟩ odd
  · obtain ⟨more, rfl⟩ := Nat.exists_eq_add_of_le low
    rw [Nat.pow_add, Nat.mul_left_comm, Nat.mul_comm short, Nat.mul_right_inj (by positivity)] at same
    have : significand ≤ significand * 2 ^ more := Nat.le_mul_of_pos_right _ (by positivity)
    omega

/-- What fits is a multiple of a gap, or lies below the magnitudes that are so far apart. -/
theorem dvd_or_lt_of_fits {n : Nat} (fits : Fits (bits + 1) n) (gap : Nat) :
    2 ^ gap ∣ n ∨ n < 2 ^ bits * 2 ^ gap := by
  obtain ⟨significand, exponent, less, rfl⟩ := fits
  obtain fine | coarse := Nat.lt_or_ge exponent gap
  · have step : 2 ^ (exponent + 1) ≤ 2 ^ gap := Nat.pow_le_pow_right (by decide) fine
    have room : 2 ^ bits * 2 ^ (exponent + 1) ≤ 2 ^ bits * 2 ^ gap := Nat.mul_le_mul_left _ step
    have below : significand * 2 ^ exponent < 2 ^ (bits + 1) * 2 ^ exponent :=
      Nat.mul_lt_mul_of_pos_right less (by positivity)
    have shifted : 2 ^ (bits + 1) * 2 ^ exponent = 2 ^ bits * 2 ^ (exponent + 1) := by ring
    omega
  · exact .inl (Nat.dvd_trans (Nat.pow_dvd_pow 2 coarse) (Nat.dvd_mul_left _ _))

end

/-! ### The nearest double -/

/-- The gap at a number leaves 53 bits of it, and is more than one only where it takes them all. -/
theorem exists_gap (n : Nat) :
    ∃ gap, spacing n = 2 ^ gap ∧ n < 2 ^ 53 * 2 ^ gap ∧ (gap = 0 ∨ 2 ^ 52 * 2 ^ gap ≤ n) := by
  refine ⟨n.log2 - 52, spacing_eq n, ?_, ?_⟩
  · have room : 2 ^ (n.log2 + 1) ≤ 2 ^ (53 + (n.log2 - 52)) := Nat.pow_le_pow_right (by decide) (by omega)
    rw [← Nat.pow_add]
    exact Nat.lt_of_lt_of_le Nat.lt_log2_self room
  · obtain large | small := Nat.lt_or_ge 52 n.log2
    · have positive : n ≠ 0 := by
        rintro rfl
        simp at large
      rw [← Nat.pow_add, Nat.add_sub_cancel' (Nat.le_of_lt large)]
      exact .inr (Nat.log2_self_le positive)
    · exact .inl (by omega)

theorem nearestUnits_one (n : Nat) : nearestUnits n 1 = roundQuotient n (spacing n) * spacing n := by
  rw [nearestUnits, Nat.div_one, Nat.one_mul]

theorem roundQuotient_spacing_le (n : Nat) : roundQuotient n (spacing n) ≤ 2 ^ 53 := by
  obtain ⟨gap, same, room, -⟩ := exists_gap n
  have quotient : n / 2 ^ gap < 2 ^ 53 := Nat.div_lt_of_lt_mul (by rwa [Nat.mul_comm])
  rw [same]
  exact Nat.le_trans (roundQuotient_le n _) quotient

theorem fits_nearestUnits (n : Nat) : Fits 53 (nearestUnits n 1) := by
  obtain ⟨gap, same, -⟩ := exists_gap n
  have le := roundQuotient_spacing_le n
  rw [nearestUnits_one]
  rw [same] at le ⊢
  exact fits_of_le (by decide) le

/-- Nothing of 53 bits is nearer. If anything else is as near, the nearest one needs 52 bits only and that other needs
all of them. -/
theorem nearestUnits_nearest (n : Nat) {other : Nat} (fits : Fits 53 other) :
    distance n (nearestUnits n 1) ≤ distance n other ∧
    (other ≠ nearestUnits n 1 → distance n other = distance n (nearestUnits n 1) →
      Fits 52 (nearestUnits n 1) ∧ ¬ Fits 52 other) := by
  obtain ⟨gap, same, -, rfl | large⟩ := exists_gap n
  · have whole : nearestUnits n 1 = n := nearestUnits_of_dvd (by rw [same]; exact Nat.one_dvd n)
    rw [whole]
    unfold distance
    omega
  have le := roundQuotient_spacing_le n
  rw [nearestUnits_one]
  rw [same] at le ⊢
  have positive : 0 < 2 ^ gap := Nat.two_pow_pos gap
  obtain ⟨count, rfl⟩ | low := dvd_or_lt_of_fits fits gap
  · rw [Nat.mul_comm (2 ^ gap)]
    obtain ⟨nearest, tie⟩ := roundQuotient_nearest n positive count
    refine ⟨nearest, fun differs equal => ?_⟩
    have apart : count ≠ roundQuotient n (2 ^ gap) := fun equal => differs (congrArg (· * 2 ^ gap) equal)
    obtain ⟨even, odd, beyond⟩ := tie apart equal
    refine ⟨fits_of_even even le (by decide), fun short => ?_⟩
    -- The number would lie below the magnitudes that have this gap.
    have few : count + 1 ≤ 2 ^ 52 := lt_of_fits_of_odd odd short
    have low : (count + 1) * 2 ^ gap ≤ 2 ^ 52 * 2 ^ gap := Nat.mul_le_mul_right _ few
    rw [Nat.succ_mul] at low
    omega
  · obtain ⟨nearest, -⟩ := roundQuotient_nearest n positive (2 ^ 52)
    unfold distance at *
    omega

/-- A number and its nearest double are at most half a gap apart. -/
theorem nearestUnits_near (n : Nat) : 2 * distance n (nearestUnits n 1) ≤ spacing n := by
  obtain ⟨fromBelow, fromAbove, -⟩ := roundQuotient_near n (spacing_pos n)
  rw [nearestUnits_one]
  unfold distance
  omega

theorem roundQuotient_mul_right (num den : Nat) {factor : Nat} (positive : 0 < factor) :
    roundQuotient (num * factor) (den * factor) = roundQuotient num den := by
  have twice : 2 * (num % den * factor) = 2 * (num % den) * factor := (Nat.mul_assoc ..).symm
  simp only [roundQuotient, Nat.mul_div_mul_right _ _ positive, Nat.mul_mod_mul_right, twice,
    Nat.mul_lt_mul_right positive]

/-- Counting in a finer unit makes no difference. -/
theorem nearestUnits_mul_two_pow (n exponent : Nat) :
    nearestUnits (n * 2 ^ exponent) 1 = nearestUnits n 1 * 2 ^ exponent := by
  obtain small | large := Nat.lt_or_ge n (2 ^ 53)
  · rw [nearestUnits_of_dvd (Nat.dvd_trans (spacing_dvd small exponent) (Nat.dvd_mul_left _ _)),
      nearestUnits_of_dvd]
    have := spacing_dvd small 0
    rw [Nat.pow_zero, Nat.mul_one] at this
    exact Nat.dvd_trans this (Nat.one_dvd n)
  · have positive : n ≠ 0 := by
      rintro rfl
      simp at large
    have bits : 53 ≤ n.log2 := (Nat.le_log2 positive).mpr large
    have log : (n * 2 ^ exponent).log2 = n.log2 + exponent := by
      rw [Nat.log2_eq_iff (Nat.mul_ne_zero positive (Nat.two_pow_pos exponent).ne'), Nat.add_right_comm,
        Nat.pow_add, Nat.pow_add]
      exact ⟨Nat.mul_le_mul_right _ (Nat.log2_self_le positive),
        Nat.mul_lt_mul_of_pos_right Nat.lt_log2_self (Nat.two_pow_pos exponent)⟩
    have scaled : spacing (n * 2 ^ exponent) = spacing n * 2 ^ exponent := by
      rw [spacing_eq, spacing_eq, ← Nat.pow_add, log]
      congr 1
      omega
    rw [nearestUnits_one, nearestUnits_one, scaled, roundQuotient_mul_right _ _ (Nat.two_pow_pos exponent),
      Nat.mul_assoc]

/-! ### Integers -/

def rounded (n : Int) : Int := n.sign * nearestUnits n.natAbs 1

theorem rounded_zero : rounded 0 = 0 := rfl

theorem rounded_of_pos {n : Int} (positive : 0 < n) : rounded n = nearestUnits n.natAbs 1 := by
  rw [rounded, Int.sign_eq_one_of_pos positive, Int.one_mul]

theorem rounded_of_neg {n : Int} (negative : n < 0) : rounded n = -nearestUnits n.natAbs 1 := by
  rw [rounded, Int.sign_eq_neg_one_of_neg negative, Int.neg_one_mul]

theorem value_ofInt (n : Int) : (Binary64.ofInt n).value = rounded n * unitsPerOne := by
  have units : nearestUnits (n.natAbs * unitsPerOne) 1 = nearestUnits n.natAbs 1 * unitsPerOne := by
    -- The exponent is kept out of sight, or the power is worked out.
    rw [unitsPerOne, Nat.one_shiftLeft]
    generalize 1074 = exponent
    exact nearestUnits_mul_two_pow _ _
  rw [Binary64.ofInt, units]
  obtain negative | rfl | positive := Int.lt_trichotomy n 0
  · simp [Binary64.value, rounded_of_neg, negative]
  · simp [Binary64.value, rounded_zero, nearestUnits_of_dvd]
  · simp [Binary64.value, rounded_of_pos, positive, Int.not_lt.mpr positive.le]

theorem value_ofInt_eq_iff {a b : Int} :
    (Binary64.ofInt a).value = (Binary64.ofInt b).value ↔ rounded a = rounded b := by
  have units : (unitsPerOne : Int) ≠ 0 := by decide +kernel
  rw [value_ofInt, value_ofInt]
  exact Int.mul_eq_mul_right_iff units

theorem value_ofInt_lt_iff {a b : Int} :
    (Binary64.ofInt a).value < (Binary64.ofInt b).value ↔ rounded a < rounded b := by
  have units : (0 : Int) < unitsPerOne := by decide +kernel
  rw [value_ofInt, value_ofInt]
  exact Int.mul_lt_mul_right units

/-- What the rounding to nearest makes of an integer: a double that no other is nearer than, and if another is as near,
then the last bit of the significand is zero. -/
structure RoundsTo (n double : Int) : Prop where
  fits : Fits 53 double.natAbs
  nearest : ∀ other : Int, Fits 53 other.natAbs → distance n double ≤ distance n other
  even : ∀ other : Int, Fits 53 other.natAbs → other ≠ double → distance n other = distance n double →
    Fits 52 double.natAbs

theorem natAbs_rounded (n : Int) : (rounded n).natAbs = nearestUnits n.natAbs 1 := by
  obtain negative | rfl | positive := Int.lt_trichotomy n 0
  · rw [rounded_of_neg negative, Int.natAbs_neg, Int.natAbs_natCast]
  · rfl
  · rw [rounded_of_pos positive, Int.natAbs_natCast]

theorem distance_rounded (n : Int) : distance n (rounded n) = distance n.natAbs (nearestUnits n.natAbs 1) := by
  unfold distance
  obtain negative | rfl | positive := Int.lt_trichotomy n 0
  · rw [rounded_of_neg negative]
    omega
  · rfl
  · rw [rounded_of_pos positive]
    omega

/-- The other side of zero is never as near. -/
theorem rounded_nearest (n : Int) {other : Int} (fits : Fits 53 other.natAbs) :
    distance n (rounded n) ≤ distance n other ∧
    (other ≠ rounded n → distance n other = distance n (rounded n) →
      Fits 52 (rounded n).natAbs ∧ ¬ Fits 52 other.natAbs) := by
  obtain ⟨nearest, tie⟩ := nearestUnits_nearest n.natAbs fits
  have inwards : distance n.natAbs other.natAbs ≤ distance n other := by
    unfold distance
    omega
  rw [distance_rounded, natAbs_rounded]
  refine ⟨Nat.le_trans nearest inwards, fun differs equal => tie (fun mirrored => differs ?_) (by omega)⟩
  rw [← mirrored] at equal
  unfold distance at equal
  obtain negative | rfl | positive := Int.lt_trichotomy n 0
  · rw [rounded_of_neg negative]
    omega
  · exact Int.natAbs_eq_zero.mp mirrored
  · rw [rounded_of_pos positive]
    omega

theorem roundsTo_rounded (n : Int) : RoundsTo n (rounded n) where
  fits := by
    rw [natAbs_rounded]
    exact fits_nearestUnits _
  nearest _ fits := (rounded_nearest n fits).1
  even _ fits differs equal := ((rounded_nearest n fits).2 differs equal).1

theorem roundsTo_iff {n double : Int} : RoundsTo n double ↔ double = rounded n := by
  refine ⟨fun rounds => ?_, fun same => same ▸ roundsTo_rounded n⟩
  by_contra differs
  have fits : Fits 53 (rounded n).natAbs := (roundsTo_rounded n).fits
  obtain ⟨nearest, tie⟩ := rounded_nearest n rounds.fits
  have equal : distance n double = distance n (rounded n) := Nat.le_antisymm (rounds.nearest _ fits) nearest
  obtain ⟨-, odd⟩ := tie differs equal
  exact odd (rounds.even _ fits (Ne.symm differs) equal.symm)

theorem rounded_of_fits {n : Int} (fits : Fits 53 n.natAbs) : rounded n = n := by
  have nearest := (roundsTo_rounded n).nearest n fits
  unfold distance at nearest
  omega

theorem rounded_mono {a b : Int} (le : a ≤ b) : rounded a ≤ rounded b := by
  obtain rfl | less := Int.le_iff_eq_or_lt.mp le
  · exact Int.le_refl _
  have first := (roundsTo_rounded a).nearest _ (roundsTo_rounded b).fits
  have second := (roundsTo_rounded b).nearest _ (roundsTo_rounded a).fits
  unfold distance at first second
  omega

theorem rounded_of_natAbs_le {n : Int} (small : n.natAbs ≤ 2 ^ 53) : rounded n = n := by
  have fits : Fits 53 (n.natAbs * 2 ^ 0) := fits_of_le (by decide) small
  rw [Nat.pow_zero, Nat.mul_one] at fits
  exact rounded_of_fits fits

theorem distance_rounded_le {n : Int} (bounded : n.natAbs < 2 ^ 64) : distance n (rounded n) ≤ 1024 := by
  have near := nearestUnits_near n.natAbs
  rw [← distance_rounded] at near
  have gap : spacing n.natAbs ≤ 2 ^ 11 := by
    obtain ⟨gap, same, -, rfl | large⟩ := exists_gap n.natAbs
    · rw [same]
      decide
    · have bits : 2 ^ (52 + gap) < 2 ^ 64 := by
        rw [Nat.pow_add]
        exact Nat.lt_of_le_of_lt large bounded
      have few : 52 + gap < 64 := (Nat.pow_lt_pow_iff_right (by decide)).mp bits
      rw [same]
      exact Nat.pow_le_pow_right (by decide) (by omega)
  omega

end DeviceConfig.Decimal
