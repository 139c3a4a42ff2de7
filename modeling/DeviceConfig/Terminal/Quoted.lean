import DeviceConfig.Pattern.Unicode.Lookup
import DeviceConfig.Text.Split

/-!
Texts in quotes for people to look at: what could not be seen, or would not stand alone, is written by
number.
-/

namespace DeviceConfig.Terminal

open Pattern

/-- Controls, format characters, blanks but the space, code points without a character, and marks that
join the character before them. -/
def hiddenChars : CharSet :=
  let categories := ["c", "zl", "zp", "zs"].map fun name =>
    (Unicode.category? name).getD .empty
  let joining := (Unicode.property? "graphemeextend").getD .empty
  (categories.foldl CharSet.union joining).diff (.range 0x20 0x20)

def quotedChar (c : Char) : List Char :=
  match c with
  | '\x00' => ['\\', '0']
  | '\t' => ['\\', 't']
  | '\r' => ['\\', 'r']
  | '\n' => ['\\', 'n']
  | '\\' => ['\\', '\\']
  | '"' => ['\\', '"']
  | _ =>
    if 0x20 ≤ c.toNat && c.toNat < 0x7F then [c]
    else if hiddenChars.mem c.toNat then
      ['\\', 'u', '\x7b'] ++ Nat.toDigits 16 c.toNat ++ ['\x7d']
    else [c]

def quotedText (text : String) : String :=
  String.ofList ('"' :: text.toList.flatMap quotedChar ++ ['"'])

/-- Texts in quotes between braces. -/
def quotedSet (texts : List String) : String :=
  "\x7b" ++ Text.join ", " (texts.map quotedText) ++ "\x7d"

end DeviceConfig.Terminal
