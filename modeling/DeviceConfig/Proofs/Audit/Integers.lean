import DeviceConfig.Proofs.Audit.Comparison
import DeviceConfig.Proofs.Decimal.Rounding

/-!
Comparing integers. They are compared as the doubles they are read as, so two of them that share one are held equal.
All others are told apart, and in the right order.
-/

namespace DeviceConfig.Audit

open Decimal

section
variable {path : String} {actual expected : Int}

/-- Integers that are read as one double. -/
def SameDouble (actual expected : Int) : Prop := ∃ double, RoundsTo actual double ∧ RoundsTo expected double

theorem sameDouble_iff : SameDouble actual expected ↔ rounded actual = rounded expected := by
  simp only [SameDouble, roundsTo_iff, exists_eq_left]

theorem SameDouble.comm : SameDouble actual expected ↔ SameDouble expected actual := by
  rw [sameDouble_iff, sameDouble_iff, eq_comm]

theorem not_sameDouble_of_lt (small : actual.natAbs < 2 ^ 53) (differs : actual ≠ expected) :
    ¬ SameDouble actual expected := by
  rw [sameDouble_iff, rounded_of_natAbs_le (by omega)]
  intro same
  -- By the order, nothing beyond 2^53 is read as less than that.
  have high : rounded (2 ^ 53) = 2 ^ 53 := rounded_of_natAbs_le (by decide)
  have low : rounded (-2 ^ 53) = -2 ^ 53 := rounded_of_natAbs_le (by decide)
  have within : expected.natAbs ≤ 2 ^ 53 := by
    by_contra outside
    obtain above | below : 2 ^ 53 ≤ expected ∨ expected ≤ -2 ^ 53 := by omega
    · have := rounded_mono above
      omega
    · have := rounded_mono below
      omega
  rw [rounded_of_natAbs_le within] at same
  exact differs same

theorem rounded_lt_iff : rounded expected < rounded actual ↔ expected < actual ∧ ¬ SameDouble actual expected := by
  rw [sameDouble_iff]
  refine ⟨fun less => ⟨?_, by omega⟩, fun ⟨less, differs⟩ => ?_⟩
  · by_contra more
    have := rounded_mono (Int.not_lt.mp more)
    omega
  · have := rounded_mono (Int.le_of_lt less)
    omega

theorem distance_le_of_sameDouble (actualFits : actual.natAbs < 2 ^ 64) (expectedFits : expected.natAbs < 2 ^ 64)
    (same : SameDouble actual expected) : distance actual expected ≤ 2048 := by
  have here := distance_rounded_le actualFits
  have there := distance_rounded_le expectedFits
  rw [sameDouble_iff] at same
  rw [same] at here
  unfold distance at *
  omega

/-! ### The operators -/

variable [Pattern.Engine]

theorem isMet_equals_int_iff :
    (Condition.mk .equals (some (.int expected))).IsMet path (some (.int actual)) ↔ SameDouble actual expected := by
  rw [isMet_equals_iff, sameDouble_iff]
  simp [sameValue, Json.int, Json.looseEq, Json.Number.toBinary64, value_ofInt_eq_iff]

theorem isMet_notEquals_int_iff :
    (Condition.mk .notEquals (some (.int expected))).IsMet path (some (.int actual)) ↔
      ¬ SameDouble actual expected := by
  have equal : (Condition.mk .equals (some (.int expected))).IsMet path (some (.int actual)) ↔
      SameDouble actual expected := isMet_equals_int_iff
  rw [isMet_notEquals_iff, ← equal, isMet_equals_iff]

theorem isMet_greaterThan_int_iff :
    (Condition.mk .greaterThan (some (.int expected))).IsMet path (some (.int actual)) ↔
      expected < actual ∧ ¬ SameDouble actual expected := by
  rw [isMet_greaterThan_iff, ← rounded_lt_iff]
  simp [toNumber, Json.int, Reading.gt, Json.Number.toBinary64, value_ofInt_lt_iff]

end

/-- The operators judge two integers by what they are. -/
structure ComparedByValue [Pattern.Engine] (path : String) (actual expected : Int) : Prop where
  equal : (Condition.mk .equals (some (.int expected))).IsMet path (some (.int actual)) ↔ actual = expected
  unequal : (Condition.mk .notEquals (some (.int expected))).IsMet path (some (.int actual)) ↔ actual ≠ expected
  greater : (Condition.mk .greaterThan (some (.int expected))).IsMet path (some (.int actual)) ↔ expected < actual

theorem comparedByValue_iff [Pattern.Engine] {path : String} {actual expected : Int} :
    ComparedByValue path actual expected ↔ actual = expected ∨ ¬ SameDouble actual expected := by
  refine ⟨fun valued => ?_, fun apart => ?_⟩
  · have equal := isMet_equals_int_iff.symm.trans valued.equal
    tauto
  · have same : SameDouble actual expected ↔ actual = expected := by
      refine ⟨fun same => apart.resolve_right (not_not.mpr same), ?_⟩
      rintro rfl
      exact sameDouble_iff.mpr rfl
    refine ⟨isMet_equals_int_iff.trans same, isMet_notEquals_int_iff.trans (not_congr same), ?_⟩
    rw [isMet_greaterThan_int_iff, same]
    exact and_iff_left_of_imp fun less => (Int.ne_of_lt less).symm

/-- Integers are compared by the doubles nearest to them: those that share one are equal, of the others the greater one
is greater. So they are compared by value just when they are the same or do not share one, which holds as soon as one
of them is below 2^53, or they have 64 bits and lie more than 2048 apart. -/
theorem integers_compare_iff [Pattern.Engine] (path : String) (actual expected : Int) :
    ((Condition.mk .equals (some (.int expected))).IsMet path (some (.int actual)) ↔ SameDouble actual expected) ∧
    ((Condition.mk .notEquals (some (.int expected))).IsMet path (some (.int actual)) ↔
      ¬ SameDouble actual expected) ∧
    ((Condition.mk .greaterThan (some (.int expected))).IsMet path (some (.int actual)) ↔
      expected < actual ∧ ¬ SameDouble actual expected) ∧
    (ComparedByValue path actual expected ↔ actual = expected ∨ ¬ SameDouble actual expected) ∧
    (actual.natAbs < 2 ^ 53 ∨ expected.natAbs < 2 ^ 53 → ComparedByValue path actual expected) ∧
    (actual.natAbs < 2 ^ 64 → expected.natAbs < 2 ^ 64 → 2048 < distance actual expected →
      ComparedByValue path actual expected) := by
  refine ⟨isMet_equals_int_iff, isMet_notEquals_int_iff, isMet_greaterThan_int_iff, comparedByValue_iff,
    fun small => ?_, fun actualFits expectedFits far => ?_⟩
  · rw [comparedByValue_iff, or_iff_not_imp_left]
    intro differs
    obtain small | small := small
    · exact not_sameDouble_of_lt small differs
    · rw [SameDouble.comm]
      exact not_sameDouble_of_lt small (Ne.symm differs)
  · rw [comparedByValue_iff]
    exact .inr fun same => Nat.not_lt.mpr (distance_le_of_sameDouble actualFits expectedFits same) far

/-- The first integer that is no double is taken for the one before it. The next one is a double again. -/
theorem integers_compare_boundary :
    (Condition.mk .equals (some (.int 9007199254740992))).IsMet "$.x" (some (.int 9007199254740993)) ∧
    ¬ ComparedByValue "$.x" 9007199254740993 9007199254740992 ∧
    ComparedByValue "$.x" 9007199254740994 9007199254740992 := by
  have shared : SameDouble 9007199254740993 9007199254740992 := by
    rw [sameDouble_iff]
    decide +kernel
  have apart : ¬ SameDouble 9007199254740994 9007199254740992 := by
    rw [sameDouble_iff]
    decide +kernel
  refine ⟨isMet_equals_int_iff.mpr shared, ?_, comparedByValue_iff.mpr (.inr apart)⟩
  rw [comparedByValue_iff]
  exact not_or.mpr ⟨by decide, not_not.mpr shared⟩

end DeviceConfig.Audit
