import DeviceConfig.Text.Digits

/-!
Dates and times in TOML text, and the one way they are written back.
-/

namespace DeviceConfig.Toml

open Text

structure Date where
  year : Nat
  month : Nat
  day : Nat

structure Time where
  hour : Nat
  minute : Nat
  second : Nat
  /-- Digits behind the point, at most nine and without trailing zeros. -/
  fraction : List Nat := []

/-- The distance from universal time: none, or a sign with hours and minutes. -/
inductive Offset where
  | utc
  | by (negative : Bool) (hours minutes : Nat)

/-- A date, a time, or both; only both together can have an offset. -/
inductive Moment where
  | date (date : Date)
  | time (time : Time)
  | dateTime (date : Date) (time : Time) (offset : Option Offset)

private def twoDigits (n : Nat) : String := if n < 10 then s!"0{n}" else toString n

private def fourDigits (n : Nat) : String :=
  String.ofList (List.replicate (4 - (Nat.toDigits 10 n).length) '0') ++ toString n

def Date.text (date : Date) : String :=
  s!"{fourDigits date.year}-{twoDigits date.month}-{twoDigits date.day}"

def Time.text (time : Time) : String :=
  let fraction :=
    if time.fraction.isEmpty then "" else "." ++ String.join (time.fraction.map toString)
  s!"{twoDigits time.hour}:{twoDigits time.minute}:{twoDigits time.second}" ++ fraction

/-- No distance at all is written with a plus sign, whatever sign it was read with. -/
def Offset.text : Offset → String
  | .utc => "Z"
  | .by negative hours minutes =>
    let sign := if negative ∧ (hours, minutes) ≠ (0, 0) then "-" else "+"
    s!"{sign}{twoDigits hours}:{twoDigits minutes}"

def Moment.text : Moment → String
  | .date day => day.text
  | .time clock => clock.text
  | .dateTime day clock offset =>
    day.text ++ "T" ++ clock.text ++ offset.elim "" Offset.text

/-- So many digits, for a number between two bounds. -/
private def number? (count least greatest : Nat) (cs : List Char) : Option (Nat × List Char) := do
  let digits := cs.take count
  if digits.length = count then
    let value ← digitsValue? 10 digits
    if least ≤ value ∧ value ≤ greatest then some (value, cs.drop count) else none
  else none

private def sign? (c : Char) : List Char → Option (List Char)
  | [] => none
  | first :: rest => if first = c then some rest else none

/-- February has 29 days every fourth year, but of the full centuries only every fourth. -/
private def daysIn (year month : Nat) : Nat :=
  if month = 2 then
    if year % 4 = 0 ∧ (year % 100 ≠ 0 ∨ year % 400 = 0) then 29 else 28
  else if [4, 6, 9, 11].contains month then 30
  else 31

def Date.read? (cs : List Char) : Option (Date × List Char) := do
  let (year, cs) ← number? 4 0 9999 cs
  let (month, cs) ← number? 2 1 12 (← sign? '-' cs)
  let (day, cs) ← number? 2 1 (daysIn year month) (← sign? '-' cs)
  return (⟨year, month, day⟩, cs)

/-- The last minute of a day may have a leap second. Beyond nine digits a fraction is cut off. -/
def Time.read? (cs : List Char) : Option (Time × List Char) := do
  let (hour, cs) ← number? 2 0 23 cs
  let (minute, cs) ← number? 2 0 59 (← sign? ':' cs)
  let (second, cs) ← number? 2 0 60 (← sign? ':' cs)
  match cs with
  | '.' :: rest =>
    match takeDigits rest with
    | ([], _) => none
    | (digits, rest) =>
      let fraction := ((digits.take 9).reverse.dropWhile (· = 0)).reverse
      return (⟨hour, minute, second, fraction⟩, rest)
  | _ => return (⟨hour, minute, second, []⟩, cs)

def Offset.read? : List Char → Option (Offset × List Char)
  | [] => none
  | c :: rest =>
    if c = 'Z' ∨ c = 'z' then some (.utc, rest)
    else if c = '+' ∨ c = '-' then do
      let (hours, rest) ← number? 2 0 23 rest
      let (minutes, rest) ← number? 2 0 59 (← sign? ':' rest)
      return (.by (c = '-') hours minutes, rest)
    else none

/-- A time with an offset if there is one. -/
private def timeAndOffset? (cs : List Char) : Option ((Time × Option Offset) × List Char) := do
  let (time, cs) ← Time.read? cs
  match Offset.read? cs with
  | some (offset, cs) => return ((time, some offset), cs)
  | none => return ((time, none), cs)

/-- A moment off the front. Between date and time stands a T or a blank; a blank that no time follows
is not part of the moment. -/
def Moment.read? (cs : List Char) : Option (Moment × List Char) :=
  match Date.read? cs with
  | some (day, rest) =>
    let later := match rest with
      | c :: after => if c = 'T' ∨ c = 't' ∨ c = ' ' then timeAndOffset? after else none
      | [] => none
    match later with
    | some ((clock, offset), rest) => some (.dateTime day clock offset, rest)
    | none => some (.date day, rest)
  | none => (Time.read? cs).map fun (clock, rest) => (.time clock, rest)

end DeviceConfig.Toml
