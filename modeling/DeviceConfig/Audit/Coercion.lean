import DeviceConfig.Json.Value
import DeviceConfig.Text.Blank
import DeviceConfig.Text.Digits
import DeviceConfig.Text.Split

/-!
Loosely typed readings of values: every value has a text, and many have a number. A missing value is
`none` throughout.
-/

namespace DeviceConfig.Audit

open Decimal Text

/-! ### Text -/

/-- The text of a number: a whole double below 10^15 is written without a point. -/
def numberText : Json.Number → String
  | .int value => toString value
  | .float value =>
    match value.integer? with
    | some whole => if whole.natAbs < Nat.pow 10 15 then toString whole else value.text
    | none => value.text

mutual

/-- The text of a value. The items of a list are set side by side with commas, nulls among them as
nothing, and an object is not spelled out. -/
def display : Json → String
  | .null => "null"
  | .bool value => if value then "true" else "false"
  | .number value => numberText value
  | .string text => text
  | .array items => join "," (displayItems items)
  | .object _ => "[object Object]"

def displayItems : List Json → List String
  | [] => []
  | item :: rest => (match item with
      | .null => ""
      | item => display item) :: displayItems rest

end

/-- The text of a value that may be missing. -/
def displayed (value : Option Json) : String := value.elim "undefined" display

/-! ### Numbers -/

/-- A sign off the front: whether it is a minus, and the rest. -/
def takeSign : List Char → Bool × List Char
  | '-' :: rest => (true, rest)
  | '+' :: rest => (false, rest)
  | cs => (false, cs)

/-- An exponent, up to the end of the text. -/
def readExponent? (cs : List Char) : Option Int :=
  let (negative, cs) := takeSign cs
  match takeDigits cs with
  | ([], _) => none
  | (digits, []) => some (if negative then -(ofDigits digits : Int) else ofDigits digits)
  | _ => none

/-- A decimal number: a sign, digits with a point among them or at either end, and an exponent. Sign,
point and exponent may be missing, but not all of the digits. -/
def readDecimal? (cs : List Char) : Option Reading := do
  let (negative, cs) := takeSign cs
  let (whole, rest) := takeDigits cs
  let (fraction, rest) := match rest with
    | '.' :: rest => takeDigits rest
    | _ => ([], rest)
  if whole.isEmpty && fraction.isEmpty then none
  let exponent ← match rest with
    | [] => some 0
    | c :: rest => if c = 'e' ∨ c = 'E' then readExponent? rest else none
  return .ofDecimal negative (ofDigits (whole ++ fraction)) (exponent - fraction.length)

/-- Digits in a radix, taken in one by one with a rounding each; infinite once they outgrow the
doubles. -/
def readRadix? (radix : Nat) (cs : List Char) : Option Reading := do
  if cs.isEmpty then none
  let digits ← cs.mapM (digit? radix)
  let units := digits.foldl (fun (units : Option Nat) digit => do
    let next := nearestUnits ((← units) * radix + digit * unitsPerOne) 1
    if next < overflowUnits then some next else none) (some 0)
  return match units with
    | some units => .finite ⟨false, units⟩
    | none => .infinite false

/-- The number that a text reads as. Blank text is zero; besides decimals there are hexadecimal, octal
and binary integers without a sign, and infinity with one or without. -/
def readNumber (text : String) : Reading :=
  let cs := trimChars text.toList
  if cs.isEmpty then .finite ⟨false, 0⟩
  else if cs = "Infinity".toList ∨ cs = "+Infinity".toList then .infinite false
  else if cs = "-Infinity".toList then .infinite true
  else
    let number := match cs with
      | '0' :: 'x' :: digits => readRadix? 16 digits
      | '0' :: 'X' :: digits => readRadix? 16 digits
      | '0' :: 'o' :: digits => readRadix? 8 digits
      | '0' :: 'O' :: digits => readRadix? 8 digits
      | '0' :: 'b' :: digits => readRadix? 2 digits
      | '0' :: 'B' :: digits => readRadix? 2 digits
      | cs => readDecimal? cs
    number.getD .notANumber

/-- The number of a value. A list with one item counts as the text of that item. -/
def toNumber : Option Json → Reading
  | none => .notANumber
  | some .null => .finite ⟨false, 0⟩
  | some (.bool value) => .finite (.ofInt (if value then 1 else 0))
  | some (.number value) => .finite value.toBinary64
  | some (.string text) => readNumber text
  | some (.array []) => .finite ⟨false, 0⟩
  | some (.array [item]) => readNumber (display item)
  | some (.array _) => .notANumber
  | some (.object _) => .notANumber

end DeviceConfig.Audit
