import DeviceConfig.Decimal.Binary64

/-!
The fewest decimal digits that read back as a given double, and of those the nearest to it.
-/

namespace DeviceConfig.Decimal

/-- The bounds, in quarter units, of the reals that round to a magnitude. Below a power of two the
doubles stand twice as close. -/
def roundingBounds (units : Nat) : Nat × Nat :=
  let gap := spacing units
  let below := if units = 1 <<< units.log2 ∧ 1 < gap then gap / 2 else gap
  (4 * units - 2 * below, 4 * units + 2 * gap)

/-- The bounds themselves round to the magnitude when its significand is even. -/
def boundsIncluded (units : Nat) : Bool := units / spacing units % 2 = 0

/-- Does `count * 10^exponent` round to the magnitude? -/
def roundsTo (units : Nat) (exponent : Int) (count : Nat) : Bool :=
  let bounds := roundingBounds units
  let scale := Nat.pow 10 (-exponent).toNat
  let candidate := 4 * count * (unitsPerOne * Nat.pow 10 exponent.toNat)
  if boundsIncluded units then bounds.1 * scale ≤ candidate && candidate ≤ bounds.2 * scale
  else bounds.1 * scale < candidate && candidate < bounds.2 * scale

/-- The multiple of `10^exponent` that rounds to the magnitude and is nearest to it. Only its two
neighbours on that grid need to be tried. -/
def gridPoint? (units : Nat) (exponent : Int) : Option Nat :=
  let num := units * Nat.pow 10 (-exponent).toNat
  let den := unitsPerOne * Nat.pow 10 exponent.toNat
  let nearest := roundQuotient num den
  let below := num / den
  let other := if nearest = below then below + 1 else below
  if roundsTo units exponent nearest then some nearest
  else if roundsTo units exponent other then some other
  else none

/-- The place of the leading digit: the greatest `e` with `10^e` at most the magnitude. Every
magnitude is at least 10^-400, and the product shifts it to a whole number. -/
def leadingPlace (units : Nat) : Int :=
  (Nat.toDigits 10 (units * Nat.pow 10 400 / unitsPerOne)).length - 401

/-- Moves trailing zeros from the digits into the exponent. -/
def dropZeros : Nat → Nat → Int → Nat × Int
  | 0, count, exponent => (count, exponent)
  | fuel + 1, count, exponent =>
    if count ≠ 0 ∧ count % 10 = 0 then dropZeros fuel (count / 10) (exponent + 1)
    else (count, exponent)

/-- Digits and exponent of the shortest decimal that reads back as a magnitude other than zero.
Seventeen digits always do. -/
def shortest (units : Nat) : Nat × Int :=
  let place := leadingPlace units
  let found := (List.range 17).findSome? fun extra : Nat =>
    let exponent := place - (extra : Int)
    (gridPoint? units exponent).map fun count => (count, exponent)
  let (count, exponent) := found.getD (0, 0)
  dropZeros 18 count exponent

/-- The shortest text of a double: positional from 1e-5 up to 1e16, with at least one digit on each
side of the point, and else scientific with a signed exponent. -/
def Binary64.text (x : Binary64) : String :=
  let sign := if x.negative then "-" else ""
  if x.units = 0 then sign ++ "0.0"
  else
    let (count, exponent) := shortest x.units
    let digits := Nat.toDigits 10 count
    let point := digits.length + exponent
    let zeros (n : Int) := List.replicate n.toNat '0'
    let body :=
      if 0 ≤ exponent ∧ point ≤ 16 then digits ++ zeros exponent ++ ['.', '0']
      else if 0 < point ∧ point ≤ 16 then
        digits.take point.toNat ++ '.' :: digits.drop point.toNat
      else if -5 < point ∧ point ≤ 0 then '0' :: '.' :: zeros (-point) ++ digits
      else
        let fraction := match digits.drop 1 with
          | [] => []
          | more => '.' :: more
        let power := point - 1
        digits.take 1 ++ fraction ++ ['e', if power < 0 then '-' else '+']
          ++ Nat.toDigits 10 power.natAbs
    sign ++ String.ofList body

end DeviceConfig.Decimal
