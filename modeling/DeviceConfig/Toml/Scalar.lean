import DeviceConfig.Document.Node
import DeviceConfig.Text.Digits
import DeviceConfig.Text.Split
import DeviceConfig.Toml.Date

/-!
Single values in TOML text: quoted texts in their four forms, and words, which are truth values,
numbers or moments.
-/

namespace DeviceConfig.Toml

open Decimal Document Text

def isSpace (c : Char) : Bool := c = ' ' || c = '\t'

def skipSpace (cs : List Char) : List Char := cs.dropWhile isSpace

/-- A character that may stand in texts and comments: no control character but the tab. -/
def isPlain (c : Char) : Bool := c = '\t' || (0x20 ≤ c.toNat && c.toNat ≠ 0x7F)

/-- A line break off the front: a line feed, alone or behind a carriage return. -/
def newline? : List Char → Option (List Char)
  | '\n' :: rest => some rest
  | '\r' :: '\n' :: rest => some rest
  | _ => none

/-! ### Quoted texts -/

/-- A character by its number; surrogates are none. -/
private def charOfCode? (digits : List Char) : Option Char := do
  let code ← digitsValue? 16 digits
  if code < 0xD800 ∨ (0xE000 ≤ code ∧ code ≤ 0x10FFFF) then some (Char.ofNat code) else none

/-- What follows a backslash. -/
private def escape? : List Char → Option (Char × List Char)
  | [] => none
  | c :: rest =>
    match c with
    | 'b' => some ('\x08', rest)
    | 't' => some ('\t', rest)
    | 'n' => some ('\n', rest)
    | 'f' => some ('\x0c', rest)
    | 'r' => some ('\r', rest)
    | '"' => some ('"', rest)
    | '\\' => some ('\\', rest)
    | 'u' => if 4 ≤ rest.length then do return (← charOfCode? (rest.take 4), rest.drop 4) else none
    | 'U' => if 8 ≤ rest.length then do return (← charOfCode? (rest.take 8), rest.drop 8) else none
    | _ => none

/-- A text on one line, up to the closing quote. Backslashes mean something only between double
quotes. The fuel is the length of the text. -/
private def lineText? (quote : Char) : Nat → List Char → Option (List Char × List Char)
  | 0, _ => none
  | _, [] => none
  | fuel + 1, c :: rest =>
    if c = quote then some ([], rest)
    else if c = '\\' ∧ quote = '"' then do
      let (c, rest) ← escape? rest
      let (text, rest) ← lineText? quote fuel rest
      return (c :: text, rest)
    else if isPlain c then do
      let (text, rest) ← lineText? quote fuel rest
      return (c :: text, rest)
    else none

/-- The blanks and line breaks in front are dropped. -/
private def skipLines : List Char → List Char
  | [] => []
  | '\r' :: '\n' :: rest => skipLines rest
  | c :: rest => if isSpace c ∨ c = '\n' then skipLines rest else c :: rest

/-- A text over several lines, up to three closing quotes. One or two quotes may stand directly before
those. Line breaks become line feeds, and between double quotes a backslash at the end of a line takes
away the break and the blanks after it. The fuel is the length of the text. -/
private def linesText? (quote : Char) : Nat → List Char → Option (List Char × List Char)
  | 0, _ => none
  | _, [] => none
  | fuel + 1, c :: rest =>
    if c = quote then
      match rest with
      | c₂ :: c₃ :: after =>
        if c₂ = quote ∧ c₃ = quote then
          let more := min 2 (after.takeWhile (· = quote)).length
          some (List.replicate more quote, after.drop more)
        else do
          let (text, rest) ← linesText? quote fuel rest
          return (c :: text, rest)
      | _ => none
    else if c = '\\' ∧ quote = '"' then
      match newline? (skipSpace rest) with
      | some after => linesText? quote fuel (skipLines after)
      | none => do
        let (c, rest) ← escape? rest
        let (text, rest) ← linesText? quote fuel rest
        return (c :: text, rest)
    else if isPlain c then do
      let (text, rest) ← linesText? quote fuel rest
      return (c :: text, rest)
    else do
      let rest ← newline? (c :: rest)
      let (text, rest) ← linesText? quote fuel rest
      return ('\n' :: text, rest)

/-- A text on one line, with its opening quote. -/
def quotedLine? : List Char → Option (String × List Char)
  | [] => none
  | quote :: rest =>
    if quote = '"' ∨ quote = '\'' then
      (lineText? quote (rest.length + 1) rest).map fun (text, rest) => (String.ofList text, rest)
    else none

/-- A text in any form. A line break right behind three opening quotes is left out. -/
def quoted? : List Char → Option (String × List Char)
  | q₁ :: q₂ :: q₃ :: rest =>
    if (q₁ = '"' ∨ q₁ = '\'') ∧ q₂ = q₁ ∧ q₃ = q₁ then
      let rest := (newline? rest).getD rest
      (linesText? q₁ (rest.length + 1) rest).map fun (text, rest) => (String.ofList text, rest)
    else quotedLine? (q₁ :: q₂ :: q₃ :: rest)
  | cs => quotedLine? cs

/-! ### Words -/

/-- Digits with single underscores between them; the digits alone. -/
private def plainDigits? (radix : Nat) : List Char → Option (List Char)
  | [] => none
  | [c] => (digit? radix c).map fun _ => [c]
  | c :: '_' :: rest => do
    let _ ← digit? radix c
    return c :: (← plainDigits? radix rest)
  | c :: rest => do
    let _ ← digit? radix c
    return c :: (← plainDigits? radix rest)

/-- A decimal integer without its sign: no leading zero before another digit. -/
private def wholeDigits? (cs : List Char) : Option (List Char) :=
  match cs with
  | '0' :: _ :: _ => none
  | _ => plainDigits? 10 cs

private def unsigned : List Char → Bool × List Char
  | '-' :: rest => (true, rest)
  | '+' :: rest => (false, rest)
  | cs => (false, cs)

/-- Integers have 64 bits. -/
private def intNode? (n : Int) : Option Node :=
  if Int64.minValue.toInt ≤ n ∧ n ≤ Int64.maxValue.toInt then some (.int n) else none

private def integer? (word : List Char) : Option Node := do
  let radix? : Option (Nat × List Char) := match word with
    | '0' :: 'x' :: digits => some (16, digits)
    | '0' :: 'o' :: digits => some (8, digits)
    | '0' :: 'b' :: digits => some (2, digits)
    | _ => none
  match radix? with
  | some (radix, digits) => intNode? (← digitsValue? radix (← plainDigits? radix digits))
  | none =>
    let (negative, digits) := unsigned word
    let value ← digitsValue? 10 (← wholeDigits? digits)
    intNode? (if negative then -value else value)

private def isPower (c : Char) : Bool := c = 'e' || c = 'E'

/-- A number with a fraction, an exponent, or both. Only a positive number can be too large. -/
private def float? (word : List Char) : Option Node := do
  let (negative, cs) := unsigned word
  let mantissa := cs.takeWhile (!isPower ·)
  let power := cs.dropWhile (!isPower ·)
  let exponent : Int ← match power with
    | [] => some 0
    | _ :: power => do
      let (negative, digits) := unsigned power
      let value ← digitsValue? 10 (← plainDigits? 10 digits)
      some (if negative then -value else value)
  let (whole, fraction) ← match splitOnce? '.' mantissa with
    | some (whole, fraction) => do some (← wholeDigits? whole, ← plainDigits? 10 fraction)
    | none => if power.isEmpty then none else do some (← wholeDigits? mantissa, [])
  let significand ← digitsValue? 10 (whole ++ fraction)
  match Reading.ofDecimal negative significand (exponent - fraction.length) with
  | .finite value => some (.float value)
  | .infinite true => some .nonFinite
  | _ => none

private def named? (word : List Char) : Option Node :=
  if word = "true".toList then some (.bool true)
  else if word = "false".toList then some (.bool false)
  else if ["inf".toList, "nan".toList].contains (unsigned word).2 then some .nonFinite
  else none

/-- The characters of numbers and truth values. -/
private def isWordChar (c : Char) : Bool := c.isAlphanum || ['+', '-', '_', '.'].contains c

/-- A moment stands in a document as a table with its text under a name of its own. -/
def momentNode (moment : Moment) : Node :=
  .table [("$__toml_private_datetime", .string moment.text)]

/-- A truth value, a moment or a number off the front. -/
def word? (cs : List Char) : Option (Node × List Char) :=
  match Moment.read? cs with
  | some (moment, rest) => some (momentNode moment, rest)
  | none =>
    let word := cs.takeWhile isWordChar
    let rest := cs.dropWhile isWordChar
    (named? word <|> integer? word <|> float? word).map fun node => (node, rest)

end DeviceConfig.Toml
