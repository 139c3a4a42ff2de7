import DeviceConfig.Document.Node
import DeviceConfig.Text.Digits

/-!
Numbers in JSON text. Digits are gathered into a 64-bit significand and a power of ten, and the two
are brought together in one rounded step per factor: a text of up to 15 digits and a small power is
read exactly, a longer one to within the last place.
-/

namespace DeviceConfig.Json.NumberText

open Decimal Document Text

/-- A number as it is written. -/
structure Parts where
  negative : Bool
  whole : List Nat
  fraction : List Nat := []
  /-- Is there a point or an exponent? -/
  isFloat : Bool := false
  exponentNegative : Bool := false
  exponent : Nat := 0
  /-- The exponent does not fit 32 bits. -/
  exponentTooLarge : Bool := false

def maxSignificand : Nat := UInt64.size - 1

/-- Takes in digits as long as the significand has room. Gives the significand and the digits left
over. -/
def gather : Nat → List Nat → Nat × List Nat
  | significand, [] => (significand, [])
  | significand, digit :: rest =>
    if maxSignificand < significand * 10 + digit then (significand, digit :: rest)
    else gather (significand * 10 + digit) rest

/-- One double times or over another, in units; nothing beyond the finite range. -/
private def scaleBy (units power : Nat) (up : Bool) : Option Nat :=
  let scaled :=
    if up then nearestUnits (units * power) unitsPerOne else nearestUnits (units * unitsPerOne) power
  if scaled < overflowUnits then some scaled else none

/-- The double nearest to a power of ten, in units. -/
private def powerOfTen (n : Nat) : Nat := nearestUnits (Nat.pow 10 n * unitsPerOne) 1

/-- A magnitude times a power of ten, by one factor of at most 1e308. A large negative power is
worked off in steps of 1e308 first; four of them leave nothing of any magnitude. -/
def scale : Nat → Nat → Int → Option Nat
  | 0, units, _ => some units
  | fuel + 1, units, exponent =>
    if exponent.natAbs ≤ 308 then scaleBy units (powerOfTen exponent.natAbs) (0 ≤ exponent)
    else if units = 0 then some 0
    else if 0 ≤ exponent then none
    else do scale fuel (← scaleBy units (powerOfTen 308) false) (exponent + 308)

/-- Integers that fit 64 bits stay integers; a negative zero and all others become doubles. Numbers
beyond the doubles are unreadable. -/
def Parts.toNode (parts : Parts) : Node :=
  let (whole, dropped) := gather 0 parts.whole
  if !parts.isFloat && dropped.isEmpty && (!parts.negative) then .int whole
  else if !parts.isFloat && dropped.isEmpty && whole ≠ 0 && whole ≤ 1 <<< 63 then .int (-whole)
  else
    let (significand, left) := gather whole parts.fraction
    let shift : Int := dropped.length - ((parts.fraction.length : Int) - left.length)
    if parts.exponentTooLarge then
      if significand ≠ 0 && !parts.exponentNegative then .unreadable
      else .float ⟨parts.negative, 0⟩
    else
      let exponent :=
        if parts.exponentNegative then shift - parts.exponent else shift + parts.exponent
      match scale 5 (nearestUnits (significand * unitsPerOne) 1) exponent with
      | some units => .float ⟨parts.negative, units⟩
      | none => .unreadable

def withExponent (parts : Parts) (cs : List Char) : Option (Parts × List Char) :=
  match cs with
  | c :: rest =>
    if c = 'e' ∨ c = 'E' then
      let (negative, rest) := match rest with
        | '+' :: rest => (false, rest)
        | '-' :: rest => (true, rest)
        | rest => (false, rest)
      match takeDigits rest with
      | ([], _) => none
      | (digits, rest) =>
        let exponent := ofDigits digits
        some ({ parts with
          isFloat := true
          exponentNegative := negative
          exponent
          exponentTooLarge := 1 <<< 31 ≤ exponent }, rest)
    else some (parts, c :: rest)
  | [] => some (parts, [])

/-- Reads a number off the front: no plus sign, no leading zero before another digit, and digits on
both sides of a point. -/
def read? (cs : List Char) : Option (Node × List Char) := do
  let (negative, cs) := match cs with
    | '-' :: rest => (true, rest)
    | _ => (false, cs)
  let (whole, rest) ← match takeDigits cs with
    | ([], _) => none
    | (0 :: _ :: _, _) => none
    | (digits, rest) => some (digits, rest)
  let parts : Parts := { negative, whole }
  let (parts, rest) ← match rest with
    | '.' :: rest =>
      match takeDigits rest with
      | ([], _) => none
      | (digits, rest) => withExponent { parts with fraction := digits, isFloat := true } rest
    | _ => withExponent parts rest
  return (parts.toNode, rest)

end DeviceConfig.Json.NumberText
