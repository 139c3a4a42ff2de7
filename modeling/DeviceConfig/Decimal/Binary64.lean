/-!
Finite double-precision numbers as exact integers, and rounding to them.

Every finite double is a whole number of units of 2^-1074, the least positive one, so order and
equality are those of integers and every rounding is a rounding of a quotient.
-/

namespace DeviceConfig.Decimal

/-- A finite double: a sign and a magnitude in units of 2^-1074. Zero has two signs. -/
structure Binary64 where
  negative : Bool
  units : Nat
deriving DecidableEq, Repr, Inhabited

/-- The units in one. -/
def unitsPerOne : Nat := 1 <<< 1074

/-- The units in 2^1024, the first magnitude beyond every finite double. -/
def overflowUnits : Nat := 1 <<< 2098

/-- The quotient rounded to the nearest whole number, a tie to the even one. -/
def roundQuotient (num den : Nat) : Nat :=
  let quotient := num / den
  let remainder := num % den
  if 2 * remainder < den then quotient
  else if den < 2 * remainder then quotient + 1
  else quotient + quotient % 2

/-- The distance between doubles at a magnitude of so many units: significands have 53 bits. -/
def spacing (units : Nat) : Nat := 1 <<< (units.log2 - 52)

/-- The double nearest to `num / den` units, ties to the even significand. The exponent has no upper
limit here; see `overflowUnits`. -/
def nearestUnits (num den : Nat) : Nat :=
  let gap := spacing (num / den)
  roundQuotient num (den * gap) * gap

namespace Binary64

/-- The value in units, with its sign. -/
def value (x : Binary64) : Int := if x.negative then -(x.units : Int) else x.units

/-- The double nearest to an integer of at most 1024 bits. -/
def ofInt (n : Int) : Binary64 := ⟨decide (n < 0), nearestUnits (n.natAbs * unitsPerOne) 1⟩

/-- The value as an integer, if it is one. -/
def integer? (x : Binary64) : Option Int :=
  if x.units % unitsPerOne = 0 then some (x.value / unitsPerOne) else none

end Binary64

/-- What a text says as a number. -/
inductive Reading where
  | notANumber
  | infinite (negative : Bool)
  | finite (value : Binary64)
deriving DecidableEq, Repr

namespace Reading

/-- A magnitude in units, infinite from 2^1024 on. -/
def ofUnits (negative : Bool) (units : Nat) : Reading :=
  if units < overflowUnits then .finite ⟨negative, units⟩ else .infinite negative

/-- The decimal `significand * 10^exponent`, correctly rounded. Beyond 400 places either way the
answer no longer depends on the digits, so none of the powers is large. -/
def ofDecimal (negative : Bool) (significand : Nat) (exponent : Int) : Reading :=
  if significand = 0 then .finite ⟨negative, 0⟩
  else
    let places := exponent + (Nat.toDigits 10 significand).length
    if 400 < places then .infinite negative
    else if places < -400 then .finite ⟨negative, 0⟩
    else ofUnits negative
      (nearestUnits (significand * unitsPerOne * Nat.pow 10 exponent.toNat) (Nat.pow 10 (-exponent).toNat))

/-- Strictly greater; false as soon as one side is no number. -/
def gt : Reading → Reading → Bool
  | .notANumber, _ => false
  | _, .notANumber => false
  | .infinite left, .infinite right => !left && right
  | .infinite left, .finite _ => !left
  | .finite _, .infinite right => right
  | .finite left, .finite right => right.value < left.value

end Reading

end DeviceConfig.Decimal
