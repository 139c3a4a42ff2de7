/-!
Blank characters and trimming. Blank is the Unicode property White_Space, so a no-break space is
blank and a zero-width space is not.
-/

namespace DeviceConfig.Text

/-- The ranges of the Unicode property White_Space. -/
def blankRanges : List (Nat × Nat) :=
  [(0x09, 0x0D), (0x20, 0x20), (0x85, 0x85), (0xA0, 0xA0), (0x1680, 0x1680), (0x2000, 0x200A),
   (0x2028, 0x2029), (0x202F, 0x202F), (0x205F, 0x205F), (0x3000, 0x3000)]

def isBlank (c : Char) : Bool :=
  blankRanges.any fun range => range.1 ≤ c.toNat && c.toNat ≤ range.2

/-- Drops the blanks at both ends. -/
def trimChars (cs : List Char) : List Char :=
  ((cs.dropWhile isBlank).reverse.dropWhile isBlank).reverse

def trim (s : String) : String := String.ofList (trimChars s.toList)

/-- Empty once trimmed. -/
def isBlankText (s : String) : Bool := s.toList.all isBlank

/-- An optional text that is present and not blank. -/
def nonBlank? (s : Option String) : Option String := s.filter (!isBlankText ·)

end DeviceConfig.Text
