/-!
Natural numbers written in digits, with an upper bound on what is accepted.
-/

namespace DeviceConfig.Text

def isDigit (c : Char) : Bool := '0' ≤ c && c ≤ '9'

/-- The value of a digit in a radix of at most 36, the letters in either case. -/
def digit? (radix : Nat) (c : Char) : Option Nat :=
  let value :=
    if isDigit c then c.toNat - '0'.toNat
    else if 'a' ≤ c && c ≤ 'z' then c.toNat - 'a'.toNat + 10
    else if 'A' ≤ c && c ≤ 'Z' then c.toNat - 'A'.toNat + 10
    else radix
  if value < radix then some value else none

/-- The number a run of digits stands for. -/
def digitsValue? (radix : Nat) (cs : List Char) : Option Nat :=
  cs.foldlM (fun value c => (digit? radix c).map (radix * value + ·)) 0

/-- The decimal digits in front, and the rest. -/
def takeDigits : List Char → List Nat × List Char
  | [] => ([], [])
  | c :: rest =>
    if isDigit c then
      let (digits, after) := takeDigits rest
      ((c.toNat - '0'.toNat) :: digits, after)
    else ([], c :: rest)

/-- The number that decimal digits stand for. -/
def ofDigits (digits : List Nat) : Nat := digits.foldl (fun value digit => 10 * value + digit) 0

/-- A decimal number of at most `bound`: one digit or more, leading zeros allowed, and a plus sign
may stand in front. -/
def readNat? (bound : Nat) (cs : List Char) : Option Nat :=
  let digits := match cs with
    | '+' :: rest => rest
    | _ => cs
  if digits.isEmpty then none
  else (digitsValue? 10 digits).filter (· ≤ bound)

end DeviceConfig.Text
